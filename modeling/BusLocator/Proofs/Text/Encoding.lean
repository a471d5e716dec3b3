import BusLocator.FileSystem
import Mathlib.Data.List.Basic
import Mathlib.Tactic.SplitIfs
/-!
# Text and its bytes

Bytes are read as a text exactly when they are its encoding (`decode?_eq_some_iff`). The reader
takes one byte at a time and knows a character by the bounds on the bytes that are still to come.
So the bytes of a character are described twice, by what its first byte opens and then allows, and
by what its code point becomes; that both are the same is arithmetic, one length after the other
(`utf8EncodeChar_eq_cons_iff`).
-/

namespace BusLocator.Utf8

variable {bytes : Bytes} {p : Pending} {ps : List Piece} {b : UInt8} {c : Char}

def payload (value : Nat) (tail : Bytes) : Nat :=
  tail.foldl (fun value b => value * 64 + b.toNat % 64) value

/-- Whether an open character can go on with these bytes. Only the first of them has bounds of its
own. -/
def Pending.Allows (p : Pending) : Bytes → Prop
  | [] => True
  | b :: tail => (p.low ≤ b ∧ b ≤ p.high) ∧ ∀ x ∈ tail, 0x80 ≤ x ∧ x ≤ 0xBF

def Pending.next (p : Pending) (b : UInt8) : Pending :=
  ⟨p.taken ++ [b], p.value * 64 + b.toNat % 64, p.missing - 1, 0x80, 0xBF⟩

theorem Pending.allows_cons (h : p.low ≤ b ∧ b ≤ p.high) (tail : Bytes) :
    p.Allows (b :: tail) ↔ (p.next b).Allows tail := by
  cases tail with
  | nil => simp [Allows, h]
  | cons x tail => simp [Allows, next, h]

/-! ### Reading one character -/

theorem piecesFrom_cons (pending : Option Pending) (b : UInt8) (bytes : Bytes) :
    piecesFrom pending (b :: bytes) =
      (step pending b).1 ++ piecesFrom (step pending b).2 bytes := by
  cases pending <;> rfl

theorem step_last (h : p.low ≤ b ∧ b ≤ p.high) (hmissing : p.missing ≤ 1) :
    step (some p) b = ([.char (Char.ofNat (p.value * 64 + b.toNat % 64))], none) := by
  simp only [step, if_pos h, if_pos hmissing]

theorem step_more (h : p.low ≤ b ∧ b ≤ p.high) (hmissing : 1 < p.missing) :
    step (some p) b = ([], some (p.next b)) := by
  simp only [step, if_pos h, if_neg (Nat.not_le.2 hmissing)]
  rfl

theorem step_outside (h : ¬ (p.low ≤ b ∧ b ≤ p.high)) :
    step (some p) b = (.junk p.taken :: (start b).1, (start b).2) := by
  simp only [step, if_neg h]

theorem piecesFrom_some_ne_nil : piecesFrom (some p) bytes ≠ [] := by
  induction bytes generalizing p with
  | nil => exact List.cons_ne_nil _ _
  | cons b bytes ih =>
      rw [piecesFrom_cons]
      by_cases hbounds : p.low ≤ b ∧ b ≤ p.high
      · by_cases hmissing : p.missing ≤ 1
        · simp [step_last hbounds hmissing]
        · simpa [step_more hbounds (Nat.not_le.1 hmissing)] using ih
      · simp [step_outside hbounds]

theorem piecesFrom_some_append {tail : Bytes} (hmissing : 0 < p.missing)
    (hlength : tail.length = p.missing) (h : p.Allows tail) (rest : Bytes) :
    piecesFrom (some p) (tail ++ rest) =
      .char (Char.ofNat (payload p.value tail)) :: pieces rest := by
  induction tail generalizing p with
  | nil => exact absurd hlength (Nat.ne_of_lt hmissing)
  | cons b tail ih =>
      have hbounds := h.1
      rw [List.cons_append, piecesFrom_cons]
      cases tail with
      | nil =>
          rw [step_last hbounds (Nat.le_of_eq hlength.symm)]
          rfl
      | cons x tail =>
          have hmore : 1 < p.missing := by
            rw [← hlength]
            simp
          have hnext : (x :: tail).length = (p.next b).missing := by
            rw [Pending.next, ← hlength]
            rfl
          rw [step_more hbounds hmore, List.nil_append]
          exact ih (hnext ▸ Nat.succ_pos _) hnext ((Pending.allows_cons hbounds _).1 h)

theorem eq_of_piecesFrom_some (hmissing : 0 < p.missing)
    (h : piecesFrom (some p) bytes = .char c :: ps) :
    ∃ tail rest, bytes = tail ++ rest ∧ tail.length = p.missing ∧ p.Allows tail ∧
      c = Char.ofNat (payload p.value tail) ∧ ps = pieces rest := by
  induction bytes generalizing p with
  | nil => simp [piecesFrom] at h
  | cons b bytes ih =>
      rw [piecesFrom_cons] at h
      by_cases hbounds : p.low ≤ b ∧ b ≤ p.high
      · by_cases hlast : p.missing ≤ 1
        · rw [step_last hbounds hlast] at h
          obtain ⟨hc, hps⟩ := List.cons.inj h
          refine ⟨[b], bytes, rfl, Nat.le_antisymm hmissing hlast, ?_, ?_, hps.symm⟩
          · exact ⟨hbounds, fun x hx => absurd hx List.not_mem_nil⟩
          · exact (Piece.char.inj hc).symm
        · rw [step_more hbounds (Nat.not_le.1 hlast), List.nil_append] at h
          have hnext : (p.next b).missing + 1 = p.missing := Nat.sub_add_cancel hmissing
          have hpos : 0 < (p.next b).missing := by omega
          obtain ⟨tail, rest, rfl, hlength, hallows, hc, hps⟩ := ih hpos h
          refine ⟨b :: tail, rest, rfl, ?_, (Pending.allows_cons hbounds tail).2 hallows, hc, hps⟩
          rw [List.length_cons, hlength, hnext]
      · simp [step_outside hbounds] at h

/-! ### The bytes of a character -/

/-- The least byte that may stand behind the first one of a character. A lesser one would make the
character longer than it has to be. -/
def lowest (b : UInt8) : UInt8 :=
  if b = 0xE0 then 0xA0 else if b = 0xF0 then 0x90 else 0x80

/-- The greatest byte that may stand behind the first one. A greater one would make a surrogate, or
exceed the last code point. -/
def highest (b : UInt8) : UInt8 :=
  if b = 0xED then 0x9F else if b = 0xF4 then 0x8F else 0xBF

theorem lowest_le_iff {x : UInt8} : lowest b ≤ x ↔ 0x80 ≤ x.toNat ∧
    (b.toNat = 0xE0 → 0xA0 ≤ x.toNat) ∧ (b.toNat = 0xF0 → 0x90 ≤ x.toNat) := by
  unfold lowest
  split_ifs <;> simp_all [UInt8.le_iff_toNat_le, ← UInt8.toNat_inj] <;> omega

theorem le_highest_iff {x : UInt8} : x ≤ highest b ↔ x.toNat ≤ 0xBF ∧
    (b.toNat = 0xED → x.toNat ≤ 0x9F) ∧ (b.toNat = 0xF4 → x.toNat ≤ 0x8F) := by
  unfold highest
  split_ifs <;> simp_all [UInt8.le_iff_toNat_le, ← UInt8.toNat_inj] <;> omega

theorem opening?_eq (b : UInt8) : opening? b =
    if 0xC2 ≤ b.toNat ∧ b.toNat ≤ 0xDF then some ⟨[b], b.toNat % 32, 1, lowest b, highest b⟩
    else if 0xE0 ≤ b.toNat ∧ b.toNat ≤ 0xEF then
      some ⟨[b], b.toNat % 16, 2, lowest b, highest b⟩
    else if 0xF0 ≤ b.toNat ∧ b.toNat ≤ 0xF4 then some ⟨[b], b.toNat % 8, 3, lowest b, highest b⟩
    else none := by
  have hall : ∀ n < 256, let b := UInt8.ofNat n
      opening? b =
        if 0xC2 ≤ n ∧ n ≤ 0xDF then some ⟨[b], n % 32, 1, lowest b, highest b⟩
        else if 0xE0 ≤ n ∧ n ≤ 0xEF then some ⟨[b], n % 16, 2, lowest b, highest b⟩
        else if 0xF0 ≤ n ∧ n ≤ 0xF4 then some ⟨[b], n % 8, 3, lowest b, highest b⟩
        else none := by
    decide +kernel
  simpa using hall b.toNat b.toNat_lt

theorem eq_ofNat_iff {n : Nat} (h : n.isValidChar) : c = Char.ofNat n ↔ c.val.toNat = n := by
  constructor
  · rintro rfl
    rw [Char.ofNat, dif_pos h]
    rfl
  · rintro rfl
    exact (Char.ofNat_toNat c).symm

theorem utf8EncodeChar_eq_iff : String.utf8EncodeChar c = bytes ↔ bytes.map UInt8.toNat =
    let n := c.val.toNat
    if n ≤ 0x7F then [n]
    else if n ≤ 0x7FF then [n / 64 + 0xC0, n % 64 + 0x80]
    else if n ≤ 0xFFFF then [n / 4096 + 0xE0, n / 64 % 64 + 0x80, n % 64 + 0x80]
    else [n / 262144 + 0xF0, n / 4096 % 64 + 0x80, n / 64 % 64 + 0x80, n % 64 + 0x80] := by
  have hinjective : Function.Injective (List.map UInt8.toNat) :=
    List.map_injective_iff.2 fun _ _ => UInt8.toNat_inj.1
  have hvalid : c.val.toNat.isValidChar := c.valid
  unfold Nat.isValidChar at hvalid
  rw [eq_comm, ← hinjective.eq_iff]
  apply iff_of_eq
  congr 1
  simp only [String.utf8EncodeChar]
  split_ifs <;>
    simp only [List.map_cons, List.map_nil, UInt8.toNat_ofNat', List.cons.injEq, and_true] <;> omega

theorem between_iff {x : UInt8} : 0x80 ≤ x ∧ x ≤ 0xBF ↔ 0x80 ≤ x.toNat ∧ x.toNat ≤ 0xBF :=
  Iff.rfl

theorem utf8EncodeChar_eq_one_iff :
    String.utf8EncodeChar c = [b] ↔ b < 0x80 ∧ c = Char.ofNat b.toNat := by
  have hsmall : b < 0x80 ↔ b.toNat < 0x80 := Iff.rfl
  rw [utf8EncodeChar_eq_iff, hsmall]
  simp only [List.map_cons, List.map_nil]
  constructor
  · intro h
    split_ifs at h <;> simp only [List.cons.injEq, reduceCtorEq, and_true, and_false] at h
    rw [eq_ofNat_iff (.inl (by omega))]
    omega
  · rintro ⟨hb, hc⟩
    rw [eq_ofNat_iff (.inl (by omega))] at hc
    rw [if_pos (by omega), hc]

theorem utf8EncodeChar_eq_two_iff {x : UInt8} : String.utf8EncodeChar c = [b, x] ↔
    (0xC2 ≤ b.toNat ∧ b.toNat ≤ 0xDF) ∧ (lowest b ≤ x ∧ x ≤ highest b) ∧
      c = Char.ofNat (payload (b.toNat % 32) [x]) := by
  rw [utf8EncodeChar_eq_iff, lowest_le_iff, le_highest_iff]
  simp only [payload, List.foldl_cons, List.foldl_nil, List.map_cons, List.map_nil]
  constructor
  · intro h
    split_ifs at h <;> simp only [List.cons.injEq, reduceCtorEq, and_true, and_false] at h
    rw [eq_ofNat_iff (.inl (by omega))]
    omega
  · rintro ⟨hb, hx, hc⟩
    rw [eq_ofNat_iff (.inl (by omega))] at hc
    rw [if_neg (by omega), if_pos (by omega)]
    simp only [List.cons.injEq, and_true]
    omega

theorem utf8EncodeChar_eq_three_iff {x y : UInt8} : String.utf8EncodeChar c = [b, x, y] ↔
    (0xE0 ≤ b.toNat ∧ b.toNat ≤ 0xEF) ∧ (lowest b ≤ x ∧ x ≤ highest b) ∧
      (0x80 ≤ y ∧ y ≤ 0xBF) ∧ c = Char.ofNat (payload (b.toNat % 16) [x, y]) := by
  have hvalid : c.val.toNat.isValidChar := c.valid
  rw [utf8EncodeChar_eq_iff, lowest_le_iff, le_highest_iff, between_iff]
  simp only [payload, List.foldl_cons, List.foldl_nil, List.map_cons, List.map_nil]
  constructor
  · intro h
    split_ifs at h <;> simp only [List.cons.injEq, reduceCtorEq, and_true, and_false] at h
    rw [eq_ofNat_iff (by unfold Nat.isValidChar; omega)]
    omega
  · rintro ⟨hb, hx, hy, hc⟩
    rw [eq_ofNat_iff (by unfold Nat.isValidChar; omega)] at hc
    rw [if_neg (by omega), if_neg (by omega), if_pos (by omega)]
    simp only [List.cons.injEq, and_true]
    omega

theorem utf8EncodeChar_eq_four_iff {x y z : UInt8} : String.utf8EncodeChar c = [b, x, y, z] ↔
    (0xF0 ≤ b.toNat ∧ b.toNat ≤ 0xF4) ∧ (lowest b ≤ x ∧ x ≤ highest b) ∧
      (0x80 ≤ y ∧ y ≤ 0xBF) ∧ (0x80 ≤ z ∧ z ≤ 0xBF) ∧
      c = Char.ofNat (payload (b.toNat % 8) [x, y, z]) := by
  have hvalid : c.val.toNat.isValidChar := c.valid
  rw [utf8EncodeChar_eq_iff, lowest_le_iff, le_highest_iff, between_iff, between_iff]
  simp only [payload, List.foldl_cons, List.foldl_nil, List.map_cons, List.map_nil]
  constructor
  · intro h
    split_ifs at h <;> simp only [List.cons.injEq, reduceCtorEq, and_true, and_false] at h
    rw [eq_ofNat_iff (by unfold Nat.isValidChar; omega)]
    omega
  · rintro ⟨hb, hx, hy, hz, hc⟩
    rw [eq_ofNat_iff (by unfold Nat.isValidChar; omega)] at hc
    rw [if_neg (by omega), if_neg (by omega), if_neg (by omega)]
    simp only [List.cons.injEq, and_true]
    omega

/-- The encodings of characters are single bytes, and what a first byte opens and then allows. -/
theorem utf8EncodeChar_eq_cons_iff {tail : Bytes} : String.utf8EncodeChar c = b :: tail ↔
    (b < 0x80 ∧ tail = [] ∧ c = Char.ofNat b.toNat) ∨ ∃ p, opening? b = some p ∧
      tail.length = p.missing ∧ p.Allows tail ∧ c = Char.ofNat (payload p.value tail) := by
  rw [opening?_eq]
  constructor
  · intro h
    rcases tail with _ | ⟨x, _ | ⟨y, _ | ⟨z, _ | ⟨w, tail⟩⟩⟩⟩
    · obtain ⟨hb, hc⟩ := utf8EncodeChar_eq_one_iff.1 h
      exact .inl ⟨hb, rfl, hc⟩
    · obtain ⟨hb, hx, hc⟩ := utf8EncodeChar_eq_two_iff.1 h
      rw [if_pos hb]
      exact .inr ⟨_, rfl, rfl, ⟨hx, by simp⟩, hc⟩
    · obtain ⟨hb, hx, hy, hc⟩ := utf8EncodeChar_eq_three_iff.1 h
      rw [if_neg (by omega), if_pos hb]
      exact .inr ⟨_, rfl, rfl, ⟨hx, by simpa using hy⟩, hc⟩
    · obtain ⟨hb, hx, hy, hz, hc⟩ := utf8EncodeChar_eq_four_iff.1 h
      rw [if_neg (by omega), if_neg (by omega), if_pos hb]
      exact .inr ⟨_, rfl, rfl, ⟨hx, by simpa using ⟨hy, hz⟩⟩, hc⟩
    · have hlength := congrArg List.length h
      have hshort := c.utf8Size_le_four
      simp only [String.length_utf8EncodeChar, List.length_cons] at hlength
      omega
  · rintro (⟨hb, rfl, hc⟩ | ⟨p, hp, hlength, hallows, hc⟩)
    · exact utf8EncodeChar_eq_one_iff.2 ⟨hb, hc⟩
    · split_ifs at hp with htwo hthree hfour <;> obtain rfl := Option.some.inj hp
      · obtain ⟨x, rfl⟩ := List.length_eq_one_iff.1 hlength
        exact utf8EncodeChar_eq_two_iff.2 ⟨htwo, hallows.1, hc⟩
      · obtain ⟨x, y, rfl⟩ := List.length_eq_two.1 hlength
        exact utf8EncodeChar_eq_three_iff.2 ⟨hthree, hallows.1, hallows.2 y (by simp), hc⟩
      · obtain ⟨x, y, z, rfl⟩ := List.length_eq_three.1 hlength
        exact utf8EncodeChar_eq_four_iff.2
          ⟨hfour, hallows.1, hallows.2 y (by simp), hallows.2 z (by simp), hc⟩

/-! ### Reading text -/

theorem bounds_of_opening? (h : opening? b = some p) : ¬ b < 0x80 ∧ 0 < p.missing := by
  have hsmall : b < 0x80 ↔ b.toNat < 0x80 := Iff.rfl
  rw [opening?_eq] at h
  rw [hsmall]
  split_ifs at h <;> obtain rfl := Option.some.inj h <;> exact ⟨by omega, Nat.succ_pos _⟩

theorem pieces_cons_of_lt (h : b < 0x80) (bytes : Bytes) :
    pieces (b :: bytes) = .char (Char.ofNat b.toNat) :: pieces bytes := by
  rw [pieces, piecesFrom_cons, step, start, if_pos h]
  rfl

theorem pieces_cons_of_opening? (h : opening? b = some p) (bytes : Bytes) :
    pieces (b :: bytes) = piecesFrom (some p) bytes := by
  rw [pieces, piecesFrom_cons, step, start, if_neg (bounds_of_opening? h).1, h]
  rfl

theorem pieces_cons_of_opening?_eq_none (hb : ¬ b < 0x80) (h : opening? b = none) (bytes : Bytes) :
    pieces (b :: bytes) = .junk [b] :: pieces bytes := by
  rw [pieces, piecesFrom_cons, step, start, if_neg hb, h]
  rfl

theorem pieces_eq_nil_iff : pieces bytes = [] ↔ bytes = [] := by
  refine ⟨fun h => ?_, fun h => h ▸ rfl⟩
  cases bytes with
  | nil => rfl
  | cons b bytes =>
      by_cases hb : b < 0x80
      · simp [pieces_cons_of_lt hb] at h
      · cases hopening : opening? b with
        | none => simp [pieces_cons_of_opening?_eq_none hb hopening] at h
        | some p =>
            rw [pieces_cons_of_opening? hopening] at h
            exact absurd h piecesFrom_some_ne_nil

theorem pieces_eq_char_cons_iff : pieces bytes = .char c :: ps ↔
    ∃ rest, bytes = String.utf8EncodeChar c ++ rest ∧ ps = pieces rest := by
  constructor
  · intro h
    cases bytes with
    | nil => contradiction
    | cons b bytes =>
        by_cases hb : b < 0x80
        · rw [pieces_cons_of_lt hb] at h
          obtain ⟨hc, hps⟩ := List.cons.inj h
          rw [utf8EncodeChar_eq_one_iff.2 ⟨hb, (Piece.char.inj hc).symm⟩]
          exact ⟨bytes, rfl, hps.symm⟩
        · cases hopening : opening? b with
          | none =>
              simp [pieces_cons_of_opening?_eq_none hb hopening] at h
          | some p =>
              rw [pieces_cons_of_opening? hopening] at h
              obtain ⟨tail, rest, rfl, hlength, hallows, hc, hps⟩ :=
                eq_of_piecesFrom_some (bounds_of_opening? hopening).2 h
              rw [utf8EncodeChar_eq_cons_iff.2 (.inr ⟨p, hopening, hlength, hallows, hc⟩)]
              exact ⟨rest, rfl, hps⟩
  · rintro ⟨rest, rfl, rfl⟩
    obtain ⟨b, tail, h⟩ := List.exists_cons_of_ne_nil (String.utf8EncodeChar_ne_nil (c := c))
    rw [h, List.cons_append]
    rcases utf8EncodeChar_eq_cons_iff.1 h with
      ⟨hb, rfl, rfl⟩ | ⟨p, hopening, hlength, hallows, rfl⟩
    · exact pieces_cons_of_lt hb rest
    · rw [pieces_cons_of_opening? hopening]
      exact piecesFrom_some_append (bounds_of_opening? hopening).2 hlength hallows rest

theorem pieces_eq_map_char_iff {text : List Char} :
    pieces bytes = text.map .char ↔ bytes = encode text := by
  induction text generalizing bytes with
  | nil => exact pieces_eq_nil_iff
  | cons c text ih =>
      rw [List.map_cons, pieces_eq_char_cons_iff, encode, List.flatMap_cons, ← encode]
      constructor
      · rintro ⟨rest, rfl, hrest⟩
        rw [ih.1 hrest.symm]
      · rintro rfl
        exact ⟨encode text, rfl, (ih.2 rfl).symm⟩

theorem decodeLossy_encode (text : List Char) : decodeLossy (encode text) = text := by
  rw [decodeLossy, pieces_eq_map_char_iff.2 rfl, List.map_map]
  exact List.map_id text

/-- A byte of the ASCII range opens an encoded text when its character opens the text. -/
theorem head?_encode_eq_some_iff {text : List Char} (hb : b < 0x80) :
    (encode text).head? = some b ↔ text.head? = some (Char.ofNat b.toNat) := by
  cases text with
  | nil => simp [encode]
  | cons c text =>
      obtain ⟨first, tail, h⟩ := List.exists_cons_of_ne_nil (String.utf8EncodeChar_ne_nil (c := c))
      rw [encode, List.flatMap_cons, h, List.cons_append, List.head?_cons, List.head?_cons,
        Option.some.injEq, Option.some.injEq]
      constructor
      · rintro rfl
        rcases utf8EncodeChar_eq_cons_iff.1 h with ⟨-, -, hc⟩ | ⟨p, hopening, -⟩
        · exact hc
        · exact absurd hb (bounds_of_opening? hopening).1
      · intro hc
        have hone := h.symm.trans (utf8EncodeChar_eq_one_iff.2 ⟨hb, hc⟩)
        exact (List.cons.inj hone).1

theorem mapM_char?_eq_some_iff {text : List Char} :
    ps.mapM Piece.char? = some text ↔ ps = text.map .char := by
  induction ps generalizing text with
  | nil => cases text <;> simp
  | cons piece ps ih =>
      rw [List.mapM_cons, Option.bind_eq_bind, Option.bind_eq_some_iff]
      cases piece with
      | junk bytes => cases text <;> simp [Piece.char?]
      | char c => cases text <;> simp [Piece.char?, Option.bind_eq_some_iff, ih, and_comm]

theorem decode?_eq_some_iff {text : List Char} :
    decode? bytes = some text ↔ bytes = encode text := by
  rw [decode?, mapM_char?_eq_some_iff, pieces_eq_map_char_iff]

theorem string?_eq_some_iff {s : String} : string? bytes = some s ↔ bytes = ofString s := by
  rw [string?, Option.map_eq_some_iff, ofString]
  constructor
  · rintro ⟨text, htext, rfl⟩
    rw [String.toList_ofList, decode?_eq_some_iff.1 htext]
  · intro h
    exact ⟨s.toList, decode?_eq_some_iff.2 h, String.ofList_toList⟩

end BusLocator.Utf8

namespace BusLocator.FileSystem

variable {files : FileSystem} {p : Path} {text : String}

/-- There is a file that can be read, and its bytes are the encoding of a text. -/
def Holds (files : FileSystem) (p : Path) (text : String) : Prop :=
  files.entry p = .file (Utf8.ofString text)

theorem readText_eq_ok_iff : files.readText p = .ok text ↔
    ∃ content, files.entry p = .file content ∧ Utf8.string? content = some text := by
  rw [readText]
  cases files.entry p with
  | file content => cases hcontent : Utf8.string? content <;> simp [Entry.readText, hcontent]
  | _ => simp [Entry.readText]

theorem readText_eq_ok_iff_holds : files.readText p = .ok text ↔ files.Holds p text := by
  simp only [readText_eq_ok_iff, Utf8.string?_eq_some_iff, exists_eq_right, Holds]

end BusLocator.FileSystem
