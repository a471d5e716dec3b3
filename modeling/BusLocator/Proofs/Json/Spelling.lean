import BusLocator.Json.Writer
import BusLocator.Proofs.Json.Fields
import BusLocator.Proofs.Json.Locality
import Mathlib.Data.List.DropRight
/-!
# What a text spells

A text spells a value when the reader takes it to its end. Then it does so in front of anything that
may stand behind a value, so the text of an array is read once it is known what its elements spell
(`spells_array`), and the text of an object is read as what is gathered from its members
(`spells_object`). Below that are the texts of strings and of whole numbers.
-/

namespace BusLocator.Json

open Reader (IsBoundary skipBlanks stringFrom)

/-- A text that is read as a value, and to its end. -/
def Spells (depth : Nat) (text : List Char) (value : Json) : Prop :=
  Reader.value depth text = .ok (value, [])

def AllBlank (text : List Char) : Prop :=
  ∀ c ∈ text, Reader.isBlank c = true

/-- A whole number of 64 bits, signed or not. -/
def Number.IsWhole : Number → Prop
  | .integer n => -(Nat.pow 2 63) ≤ n ∧ n < Nat.pow 2 64
  | .double _ => False

variable {α : Type} {depth : Nat} {text rest blanks indent : List Char} {v : Json}

/-! ### Blanks -/

theorem allBlank_nil : AllBlank [] :=
  fun _ hc => absurd hc List.not_mem_nil

theorem allBlank_space : AllBlank [' '] := by
  simp [AllBlank, Reader.isBlank]

theorem allBlank_newLine (indent : Nat) : AllBlank (newLine indent) := by
  intro c hc
  rcases List.mem_cons.1 hc with rfl | hc
  · rfl
  · rw [List.eq_of_mem_replicate hc]
    rfl

theorem skipBlanks_append_of_blank (h : AllBlank blanks) (text : List Char) :
    skipBlanks (blanks ++ text) = skipBlanks text :=
  List.dropWhile_append_of_pos h

theorem skipBlanks_cons_of_not_blank {c : Char} (h : Reader.isBlank c = false) (text : List Char) :
    skipBlanks (c :: text) = c :: text :=
  List.dropWhile_cons_of_neg (by simp [h])

theorem isBoundary_comma (text : List Char) : IsBoundary (',' :: text) :=
  .inr (.inl rfl)

theorem isBoundary_blanks_append (hblanks : AllBlank blanks) (hrest : IsBoundary rest) :
    IsBoundary (blanks ++ rest) := by
  cases blanks with
  | nil => exact hrest
  | cons c blanks => exact .inl (hblanks c List.mem_cons_self)

theorem skipBlanks_close {c : Char} (hblanks : AllBlank blanks) (hc : Reader.isBlank c = false)
    (rest : List Char) : skipBlanks (blanks ++ c :: rest) = c :: rest := by
  rw [skipBlanks_append_of_blank hblanks, skipBlanks_cons_of_not_blank hc]

/-! ### Texts of values -/

theorem Spells.value_append (h : Spells depth text v) (hrest : IsBoundary rest) :
    Reader.value depth (text ++ rest) = .ok (v, rest) :=
  Reader.isLocal_value depth h hrest

theorem value_skipBlanks (depth : Nat) (text : List Char) :
    Reader.value depth (skipBlanks text) = Reader.value depth text := by
  have hidem : skipBlanks (skipBlanks text) = skipBlanks text :=
    List.dropWhile_idempotent Reader.isBlank text
  cases depth <;> rw [Reader.value, Reader.value, hidem]

theorem Spells.blanks_append (h : Spells depth text v) (hblanks : AllBlank blanks) :
    Spells depth (blanks ++ text) v := by
  rw [Spells, ← value_skipBlanks, skipBlanks_append_of_blank hblanks, value_skipBlanks]
  exact h

/-- The text of a value cannot be taken for the end of a list. -/
theorem Spells.head_ne (h : Spells depth text v) :
    ∃ c more, skipBlanks text = c :: more ∧ c ≠ ']' := by
  obtain ⟨c, more, htext, hread⟩ := Reader.value_eq_ok_iff.1 h
  refine ⟨c, more, htext, ?_⟩
  rintro rfl
  rcases hread with ⟨-, -, hleaf⟩ | ⟨-, -, ⟨hc, -⟩ | ⟨hc, -⟩⟩
  · cases hleaf
  · cases hc
  · cases hc

theorem spells_leaf {c : Char} {more : List Char} (hblank : Reader.isBlank c = false)
    (hbracket : c ≠ '[') (hbrace : c ≠ '{') (h : Reader.leaf (c :: more) = .ok (v, []))
    (depth : Nat) : Spells depth (c :: more) v :=
  Reader.value_eq_ok_iff.2
    ⟨c, more, skipBlanks_cons_of_not_blank hblank more, .inl ⟨hbracket, hbrace, h⟩⟩

/-! ### Strings -/

theorem hexValue_digitChar {d : Nat} (h : d < 16) :
    Reader.hexValue? (Nat.digitChar d) = some d := by
  have hall : ∀ d < 16, Reader.hexValue? (Nat.digitChar d) = some d := by decide
  exact hall d h

theorem stringFrom_escape (c : Char) (text : List Char) :
    stringFrom .plain (escape c ++ text) =
      (stringFrom .plain text).map fun (cs, left) => (c :: cs, left) := by
  unfold escape
  split
  iterate 7 rfl
  split
  · rename_i hcontrol
    have hhigh := hexValue_digitChar (show c.toNat / 16 < 16 by omega)
    have hlow := hexValue_digitChar (show c.toNat % 16 < 16 by omega)
    have hzero : Reader.hexValue? '0' = some 0 := rfl
    have hvalue : 16 * (c.toNat / 16) + c.toNat % 16 = c.toNat := by omega
    have hnot : ¬ 0xDC00 ≤ c.toNat := by omega
    have hnot' : ¬ 0xD800 ≤ c.toNat := by omega
    simp [stringFrom, hzero, hhigh, hlow, Reader.unit, hvalue, hnot, hnot', Char.ofNat_toNat]
  · rename_i hquote hbackslash _ _ _ _ _ hcontrol
    rw [List.singleton_append, stringFrom, if_neg hquote, if_neg hbackslash, if_neg hcontrol]

theorem string_quote (s : String) (rest : List Char) :
    Reader.string (s.toList.flatMap escape ++ '"' :: rest) = .ok (s, rest) := by
  have hchars : ∀ cs : List Char, stringFrom .plain (cs.flatMap escape ++ '"' :: rest) =
      .ok (cs, rest) := by
    intro cs
    induction cs with
    | nil => rfl
    | cons c cs ih =>
        rw [List.flatMap_cons, List.append_assoc, stringFrom_escape, ih]
        rfl
  rw [Reader.string, hchars]
  simp [Except.map]

/-! ### Numbers -/

theorem head_toDigits_ne_zero {n : Nat} (h : 0 < n) : (Nat.toDigits 10 n).head? ≠ some '0' := by
  induction n using Nat.strongRecOn with
  | ind n ih =>
      by_cases hn : n < 10
      · rw [Nat.toDigits_of_lt_base hn]
        have hall : ∀ n < 10, 0 < n → [n.digitChar].head? ≠ some '0' := by decide
        exact hall n hn h
      · rw [Nat.toDigits_of_base_le (by omega) (by omega),
          List.head?_append_of_ne_nil _ Nat.toDigits_ne_nil]
        exact ih (n / 10) (by omega) (by omega)

theorem fractionPart_nil (negative : Bool) (digits : List Char) :
    Reader.fractionPart negative digits [] = Reader.wholeNumber negative digits [] :=
  rfl

theorem toDigits_eq_cons (n : Nat) :
    ∃ c more, Nat.toDigits 10 n = c :: more ∧ ∀ d ∈ c :: more, d.isDigit = true := by
  obtain ⟨c, more, hdigits⟩ := List.exists_cons_of_ne_nil (Nat.toDigits_ne_nil (n := n) (b := 10))
  refine ⟨c, more, hdigits, ?_⟩
  intro d hd
  exact Nat.isDigit_of_mem_toDigits (b := 10) (n := n) (by omega) (by omega) (hdigits ▸ hd)

theorem unsigned_toDigits (negative : Bool) (n : Nat) :
    Reader.unsigned negative (Nat.toDigits 10 n) =
      Reader.wholeNumber negative (Nat.toDigits 10 n) [] := by
  rcases Nat.eq_zero_or_pos n with rfl | hn
  · rfl
  · obtain ⟨c, more, hdigits, hall⟩ := toDigits_eq_cons n
    have hzero : c ≠ '0' := by
      rintro rfl
      exact head_toDigits_ne_zero hn (by rw [hdigits]; rfl)
    rw [hdigits, Reader.unsigned_of_ne_zero hzero, if_pos (hall c List.mem_cons_self),
      List.takeWhile_eq_self_iff.2 hall, List.drop_length, fractionPart_nil]

theorem natOfDigits_toDigits (n : Nat) : Reader.natOfDigits (Nat.toDigits 10 n) = n :=
  Nat.ofDigitChars_toDigits (by omega) (by omega)

theorem sign_toDigits (n : Nat) : Reader.sign (Nat.toDigits 10 n) = (false, Nat.toDigits 10 n) := by
  obtain ⟨c, more, hdigits, hall⟩ := toDigits_eq_cons n
  have hdigit := hall c List.mem_cons_self
  rw [hdigits, Reader.sign]
  intro more heq
  cases heq
  exact absurd hdigit (by decide)

theorem write_ofNat (n : Nat) : (Number.integer (Int.ofNat n)).write = Nat.toDigits 10 n :=
  Nat.toList_repr

theorem write_negSucc (n : Nat) :
    (Number.integer (Int.negSucc n)).write = '-' :: Nat.toDigits 10 (n + 1) := by
  show ("-" ++ (n + 1).repr).toList = _
  rw [String.toList_append, Nat.toList_repr]
  rfl

theorem number_write {n : Number} (h : n.IsWhole) : Reader.number n.write = .ok (n, []) := by
  cases n with
  | double value => exact h.elim
  | integer k =>
      obtain ⟨hlow, hhigh⟩ := h
      cases k with
      | ofNat n =>
          rw [write_ofNat, Reader.number_eq, sign_toDigits, unsigned_toDigits, Reader.wholeNumber,
            natOfDigits_toDigits, if_pos]
          · rfl
          · have hsmall : n < Nat.pow 2 64 := Int.ofNat_lt.1 hhigh
            simpa using hsmall
      | negSucc n =>
          rw [write_negSucc]
          show Reader.unsigned true (Nat.toDigits 10 (n + 1)) = _
          rw [unsigned_toDigits, Reader.wholeNumber, natOfDigits_toDigits, if_neg, if_pos]
          · rfl
          · have hsmall : n + 1 ≤ Nat.pow 2 63 := by
              generalize Nat.pow 2 63 = bound at hlow ⊢
              omega
            simpa using hsmall
          · simp

theorem write_eq_cons {n : Number} (h : n.IsWhole) :
    ∃ c more, n.write = c :: more ∧ (c = '-' ∨ c.isDigit = true) := by
  cases n with
  | double value => exact h.elim
  | integer k =>
      cases k with
      | ofNat n =>
          obtain ⟨c, more, hdigits, hall⟩ := toDigits_eq_cons n
          exact ⟨c, more, (write_ofNat n).trans hdigits, .inr (hall c List.mem_cons_self)⟩
      | negSucc n => exact ⟨'-', _, write_negSucc n, .inl rfl⟩

/-! ### Values without parts -/

theorem spells_number {n : Number} (h : n.IsWhole) (depth : Nat) :
    Spells depth n.write (.number n) := by
  obtain ⟨c, more, hwrite, hc⟩ := write_eq_cons h
  have hnumber := number_write h
  have hother : ∀ d ∈ [' ', '\n', '\t', '\r', '[', '{', 'n', 't', 'f', '"'], c ≠ d := by
    rintro d hd rfl
    rcases hc with rfl | hdigit
    · revert hd
      decide
    · simp only [List.mem_cons, List.not_mem_nil, or_false] at hd
      rcases hd with rfl | rfl | rfl | rfl | rfl | rfl | rfl | rfl | rfl | rfl <;>
        exact absurd hdigit (by decide)
  rw [hwrite] at hnumber ⊢
  apply spells_leaf
  · simp [Reader.isBlank, hother]
  · exact hother '[' (by simp)
  · exact hother '{' (by simp)
  · rw [Reader.leaf_of_notMem, if_pos, hnumber]
    · rfl
    · simpa using hc
    · intro hmem
      exact hother c (List.mem_append_right [' ', '\n', '\t', '\r', '[', '{'] hmem) rfl

theorem spells_quote (s : String) (depth : Nat) : Spells depth (quote s) (.string s) := by
  apply spells_leaf rfl (by decide) (by decide)
  show (Reader.string (s.toList.flatMap escape ++ '"' :: [])).map _ = _
  rw [string_quote]
  rfl

theorem spells_null (depth : Nat) : Spells depth ['n', 'u', 'l', 'l'] .null :=
  spells_leaf rfl (by decide) (by decide) rfl depth

theorem spells_bool (b : Bool) (depth : Nat) : Spells depth (writeLeaf (.bool b)) (.bool b) := by
  cases b <;> exact spells_leaf rfl (by decide) (by decide) rfl depth

/-! ### Lists

The parts stand in a list of any type, together with how each is written and what it is read as. -/

section Lists

variable {write : α → List Char} {read : α → Json} {key : α → String}

theorem intercalate_comma (t : List Char) (ts : List (List Char)) :
    [','].intercalate (t :: ts) = t ++ ts.flatMap (',' :: ·) := by
  induction ts generalizing t with
  | nil => simp
  | cons next ts ih => rw [List.intercalate_cons_cons, ih, List.flatMap_cons]; simp

theorem length_le_length_flatMap (as : List α) (f : α → List Char) :
    as.length ≤ (as.flatMap fun a => ',' :: f a).length := by
  induction as with
  | nil => exact Nat.zero_le _
  | cons a as ih =>
      rw [List.flatMap_cons, List.length_append, List.length_cons, List.length_cons]
      omega

theorem elements_skipBlanks (depth fuel : Nat) (text : List Char) :
    Reader.elements (Reader.value depth) fuel (skipBlanks text) =
      Reader.elements (Reader.value depth) fuel text := by
  cases fuel with
  | zero => rfl
  | succ fuel => rw [Reader.elements, Reader.elements, value_skipBlanks]

theorem elements_of_spells {a : α} {as : List α} {fuel : Nat}
    (h : ∀ b ∈ a :: as, Spells depth (write b) (read b)) (hblanks : AllBlank blanks)
    (hfuel : as.length < fuel) :
    Reader.elements (Reader.value depth) fuel
        (write a ++ (as.flatMap (fun b => ',' :: write b) ++ (blanks ++ ']' :: rest))) =
      .ok (read a :: as.map read, rest) := by
  induction as generalizing a fuel with
  | nil =>
      obtain ⟨fuel, rfl⟩ : ∃ n, fuel = n + 1 := ⟨fuel - 1, by omega⟩
      have hboundary : IsBoundary (blanks ++ ']' :: rest) :=
        isBoundary_blanks_append hblanks (.inr (.inr (.inl rfl)))
      apply Reader.elements_succ_eq_ok_iff.2
      exact ⟨read a, _, (h a List.mem_cons_self).value_append hboundary,
        .inl ⟨skipBlanks_close hblanks rfl rest, rfl⟩⟩
  | cons b as ih =>
      obtain ⟨fuel, rfl⟩ : ∃ n, fuel = n + 1 := ⟨fuel - 1, by omega⟩
      have hothers : ∀ d ∈ b :: as, Spells depth (write d) (read d) := fun d hd =>
        h d (List.mem_cons_of_mem a hd)
      obtain ⟨c, next, hnext, hc⟩ := (hothers b List.mem_cons_self).head_ne
      have hmore := Reader.skipBlanks_append hnext
        (as.flatMap (fun b => ',' :: write b) ++ (blanks ++ ']' :: rest))
      rw [List.flatMap_cons, List.cons_append, List.cons_append, List.append_assoc]
      apply Reader.elements_succ_eq_ok_iff.2
      refine ⟨read a, _, (h a List.mem_cons_self).value_append (isBoundary_comma _), .inr ?_⟩
      refine ⟨_, c, _, read b :: as.map read, rfl, hmore, hc, ?_, rfl⟩
      rw [← hmore, elements_skipBlanks]
      exact ih hothers (by rw [List.length_cons] at hfuel; omega)

theorem spells_array (write : α → List Char) (read : α → Json) {as : List α}
    (h : ∀ a ∈ as, Spells depth (write a) (read a)) (hblanks : AllBlank blanks) :
    Spells (depth + 1) ('[' :: ([','].intercalate (as.map write) ++ (blanks ++ [']'])))
      (.array (as.map read)) := by
  refine Reader.value_eq_ok_iff.2 ⟨'[', _, rfl, .inr ⟨depth, rfl, .inl ⟨rfl, as.map read, ?_, rfl⟩⟩⟩
  cases as with
  | nil => exact Reader.array_of_close (skipBlanks_close hblanks rfl [])
  | cons a as =>
      obtain ⟨c, next, hnext, hc⟩ := (h a List.mem_cons_self).head_ne
      have hlength := length_le_length_flatMap as write
      rw [List.map_cons, intercalate_comma, List.flatMap_map, List.append_assoc]
      have htext := Reader.skipBlanks_append hnext
        (as.flatMap (fun b => ',' :: write b) ++ (blanks ++ [']']))
      rw [Reader.array_of_ne htext hc, ← htext, elements_skipBlanks]
      apply elements_of_spells h hblanks
      simp only [List.length_append]
      omega

theorem field_of_spells {a : α} (h : Spells depth (write a) (read a)) (hrest : IsBoundary rest)
    (gathered : Fields) (name : String) :
    Reader.field (Reader.value depth) gathered name (':' :: (write a ++ rest)) =
      .ok (put name (read a) gathered, rest) := by
  show (Reader.value depth (write a ++ rest) >>= _) = _
  rw [h.value_append hrest]
  rfl

def memberEnd (key : String) (text : List Char) : List Char :=
  key.toList.flatMap escape ++ '"' :: ':' :: text

theorem quote_append (key : String) (text : List Char) :
    quote key ++ ':' :: text = '"' :: memberEnd key text := by
  simp [quote, memberEnd]

theorem members_of_spells {a : α} {as : List α} {fuel : Nat}
    (h : ∀ b ∈ a :: as, Spells depth (write b) (read b)) (hindent : AllBlank indent)
    (hblanks : AllBlank blanks) (hfuel : as.length < fuel) (gathered : Fields) :
    Reader.members (Reader.field (Reader.value depth)) fuel gathered
        (memberEnd (key a) (write a) ++
          (as.flatMap (fun b => ',' :: (indent ++ '"' :: memberEnd (key b) (write b))) ++
            (blanks ++ '}' :: rest))) =
      .ok (gather gathered ((a :: as).map fun b => (key b, read b)), rest) := by
  induction as generalizing a fuel gathered with
  | nil =>
      obtain ⟨fuel, rfl⟩ : ∃ n, fuel = n + 1 := ⟨fuel - 1, by omega⟩
      have hboundary : IsBoundary (blanks ++ '}' :: rest) :=
        isBoundary_blanks_append hblanks (.inr (.inr (.inr rfl)))
      rw [memberEnd, List.append_assoc, List.cons_append, List.cons_append]
      apply Reader.members_succ_eq_ok_iff.2
      exact ⟨key a, _, _, _, string_quote (key a) _,
        field_of_spells (h a List.mem_cons_self) hboundary gathered (key a),
        .inl ⟨skipBlanks_close hblanks rfl rest, rfl⟩⟩
  | cons b as ih =>
      obtain ⟨fuel, rfl⟩ : ∃ n, fuel = n + 1 := ⟨fuel - 1, by omega⟩
      have hothers : ∀ d ∈ b :: as, Spells depth (write d) (read d) := fun d hd =>
        h d (List.mem_cons_of_mem a hd)
      rw [memberEnd, List.append_assoc, List.cons_append, List.cons_append, List.flatMap_cons,
        List.cons_append, List.cons_append, List.append_assoc, List.append_assoc, List.cons_append]
      apply Reader.members_succ_eq_ok_iff.2
      refine ⟨key a, _, _, _, string_quote (key a) _,
        field_of_spells (h a List.mem_cons_self) (isBoundary_comma _) gathered (key a), .inr ?_⟩
      refine ⟨_, _, rfl, skipBlanks_close hindent rfl _, ?_⟩
      exact ih hothers (by rw [List.length_cons] at hfuel; omega) _

theorem spells_object (key : α → String) (write : α → List Char) (read : α → Json) {as : List α}
    (h : ∀ a ∈ as, Spells depth (write a) (read a)) (hindent : AllBlank indent)
    (hblanks : AllBlank blanks) :
    Spells (depth + 1)
      ('{' :: ([','].intercalate (as.map fun a => indent ++ (quote (key a) ++ ':' :: write a)) ++
        (blanks ++ ['}'])))
      (.object (gather [] (as.map fun a => (key a, read a)))) := by
  refine Reader.value_eq_ok_iff.2 ⟨'{', _, rfl, .inr ⟨depth, rfl, .inr ⟨rfl, _, ?_, rfl⟩⟩⟩
  cases as with
  | nil =>
      show Reader.object _ [] (blanks ++ ['}']) = _
      rw [Reader.object, skipBlanks_close hblanks rfl]
      rfl
  | cons a as =>
      have hlength := length_le_length_flatMap as fun b =>
        indent ++ '"' :: memberEnd (key b) (write b)
      simp only [quote_append]
      rw [List.map_cons, intercalate_comma, List.flatMap_map, List.append_assoc, List.append_assoc,
        List.cons_append, Reader.object, skipBlanks_close hindent rfl]
      apply members_of_spells h hindent hblanks
      simp only [List.length_append]
      omega

end Lists

end BusLocator.Json
