import BusLocator.Json.Reader
import BusLocator.Proofs.Except
/-!
# What stands behind a value

A reader leaves what it does not take, so what it reads is the same whatever comes behind, as long
as that cannot be taken for more of a number: nothing, a blank, a comma or a closing bracket. It is
passed up from characters over words, numbers and strings to arrays and objects (`isLocal_value`),
and makes it enough to read a value in a text of its own.
-/

namespace BusLocator

namespace Json.Reader

/-- What may stand behind a value. -/
def IsBoundary : List Char → Prop
  | [] => True
  | c :: _ => isBlank c = true ∨ c = ',' ∨ c = ']' ∨ c = '}'

/-- A reader that takes from a text what it takes from the text alone, whatever comes behind. -/
def IsLocal {α : Type} (read : Reader α) : Prop :=
  ∀ ⦃text value left⦄, read text = .ok (value, left) →
    ∀ ⦃rest⦄, IsBoundary rest → read (text ++ rest) = .ok (value, left ++ rest)

variable {α β σ : Type} {text left rest : List Char}

theorem IsBoundary.head_ne {c : Char} (h : IsBoundary (c :: rest)) :
    c.isDigit = false ∧ c ≠ '.' ∧ c ≠ 'e' ∧ c ≠ 'E' := by
  rcases h with h | rfl | rfl | rfl
  · simp only [isBlank, Bool.or_eq_true, decide_eq_true_eq] at h
    rcases h with ((rfl | rfl) | rfl) | rfl <;> decide
  all_goals decide

theorem IsBoundary.append_ne {c : Char} (h : IsBoundary rest) (hc : c ∈ ['.', 'e', 'E'])
    (htext : ∀ more, text ≠ c :: more) (more : List Char) : text ++ rest ≠ c :: more := by
  intro heq
  cases text with
  | nil =>
      subst heq
      obtain ⟨-, hpoint, he, hE⟩ := h.head_ne
      simp [hpoint, he, hE] at hc
  | cons d text =>
      injection heq with hd
      exact htext text (by rw [hd])

theorem map_append {f : α → β} {x y : Except Fault (α × List Char)} {value : β}
    (h : x.map (fun (a, left) => (f a, left)) = .ok (value, left))
    (hxy : ∀ {a left}, x = .ok (a, left) → y = .ok (a, left ++ rest)) :
    y.map (fun (a, left) => (f a, left)) = .ok (value, left ++ rest) := by
  obtain ⟨⟨a, more⟩, hx, heq⟩ := Except.map_eq_ok_iff.1 h
  cases heq
  rw [hxy hx]
  rfl

/-! ### Words and strings -/

theorem skipBlanks_append {c : Char} {more : List Char} (h : skipBlanks text = c :: more)
    (rest : List Char) : skipBlanks (text ++ rest) = c :: (more ++ rest) := by
  have hne : text.dropWhile isBlank ≠ [] := by
    rw [← skipBlanks, h]
    simp
  rw [skipBlanks, List.dropWhile_append, if_neg (by simpa using hne), ← skipBlanks, h]
  rfl

theorem word_append {expected : List Char} (h : word expected text = .ok left) (rest : List Char) :
    word expected (text ++ rest) = .ok (left ++ rest) := by
  induction expected generalizing text with
  | nil =>
      cases h
      rfl
  | cons w expected ih =>
      cases text with
      | nil => exact absurd h (by simp [word, fault])
      | cons c text =>
          by_cases hc : c = w
          · rw [word, if_pos hc] at h
            rw [List.cons_append, word, if_pos hc]
            exact ih h
          · exact absurd h (by simp [word, hc, faultAt])

theorem stringFrom_append {state : StringState} {cs : List Char}
    (h : stringFrom state text = .ok (cs, left)) (rest : List Char) :
    stringFrom state (text ++ rest) = .ok (cs, left ++ rest) := by
  fun_induction stringFrom state text generalizing cs left with
  | case1 | case4 | case8 | case11 | case15 | case17 => cases h
  | case9 =>
      unfold badHex at h
      split at h <;> cases h
  | case2 =>
      cases h
      rfl
  | case3 text _ ih | case6 text ih | case14 high text ih | case16 high text ih => exact ih h
  | case5 c text hquote hescape hcontrol ih =>
      simpa [stringFrom, hquote, hescape, hcontrol] using map_append h ih
  | case7 c text hc d hd ih =>
      simpa [stringFrom, hc, hd] using map_append h ih
  | case10 high missing value c text digit hdigit next hmissing =>
      rename_i ih
      simpa [stringFrom, hdigit, hmissing] using ih h
  | case12 high missing value c text digit hdigit next hmissing state hunit =>
      rename_i ih
      change unit high (16 * value + digit) = _ at hunit
      simpa [stringFrom, hdigit, hmissing, hunit] using ih h
  | case13 high missing value c text digit hdigit next hmissing d state hunit =>
      rename_i ih
      change unit high (16 * value + digit) = _ at hunit
      simpa [stringFrom, hdigit, hmissing, hunit] using map_append h ih

/-! ### Numbers -/

theorem IsBoundary.takeWhile_isDigit (h : IsBoundary rest) : rest.takeWhile Char.isDigit = [] := by
  cases rest with
  | nil => rfl
  | cons c rest => rw [List.takeWhile_cons, if_neg (by simp [h.head_ne.1])]

theorem takeWhile_isDigit_append (text : List Char) (h : IsBoundary rest) :
    (text ++ rest).takeWhile Char.isDigit = text.takeWhile Char.isDigit := by
  rw [List.takeWhile_append, h.takeWhile_isDigit, List.append_nil]
  split
  · rename_i hlength
    exact ((List.takeWhile_prefix _).eq_of_length hlength).symm
  · rfl

theorem drop_takeWhile_append (text rest : List Char) :
    (text ++ rest).drop (text.takeWhile Char.isDigit).length =
      text.drop (text.takeWhile Char.isDigit).length ++ rest :=
  List.drop_append_of_le_length (List.takeWhile_prefix _).length_le

theorem exponentDigits_append {bounded : Bool} {n m : Nat}
    (h : exponentDigits bounded n text = .ok (m, left)) (hrest : IsBoundary rest) :
    exponentDigits bounded n (text ++ rest) = .ok (m, left ++ rest) := by
  induction text generalizing n with
  | nil =>
      cases h
      cases rest with
      | nil => rfl
      | cons c rest => 
        show (if _ then _ else _) = _
        rw [if_neg (by simp [hrest.head_ne.1])]
        rfl
  | cons c text ih =>
      rw [List.cons_append]
      unfold exponentDigits at h ⊢
      split at h
      · rename_i hdigit
        rw [if_pos hdigit]
        simp only at h ⊢
        split at h
        · cases h
        · rename_i hbound
          rw [if_neg hbound]
          exact ih h
      · rename_i hdigit
        rw [if_neg hdigit]
        cases h
        rfl

theorem double_append {negative : Bool} {whole fraction : List Char} {exponent : Int}
    {n : Number} (h : double negative whole fraction exponent text = .ok (n, left))
    (rest : List Char) :
    double negative whole fraction exponent (text ++ rest) = .ok (n, left ++ rest) := by
  unfold double at h ⊢
  split at h
  · cases h
    rfl
  · cases h

def exponentSign (text : List Char) : Bool × List Char :=
  match text with
  | '+' :: rest => (false, rest)
  | '-' :: rest => (true, rest)
  | _ => (false, text)

theorem exponentSign_append {down : Bool} {c : Char} {more : List Char}
    (h : exponentSign text = (down, c :: more)) (rest : List Char) :
    exponentSign (text ++ rest) = (down, c :: (more ++ rest)) := by
  unfold exponentSign at h ⊢
  split at h
  · cases h
    rfl
  · cases h
    rfl
  · cases h
    split <;> simp_all

theorem exponentPart_eq (negative : Bool) (whole fraction : List Char) (text : List Char) :
    exponentPart negative whole fraction text =
      match (exponentSign text).2 with
      | [] => fault .endInValue []
      | c :: _ =>
        if c.isDigit then do
          let bounded := !(exponentSign text).1 && (gathered whole fraction).1 ≠ 0
          let (n, rest) ← exponentDigits bounded 0 (exponentSign text).2
          double negative whole fraction (if (exponentSign text).1 then -n else n) rest
        else faultAt .invalidNumber (exponentSign text).2 :=
  rfl

theorem exponentPart_append {negative : Bool} {whole fraction : List Char} {n : Number}
    (h : exponentPart negative whole fraction text = .ok (n, left)) (hrest : IsBoundary rest) :
    exponentPart negative whole fraction (text ++ rest) = .ok (n, left ++ rest) := by
  rw [exponentPart_eq] at h ⊢
  rcases hsign : exponentSign text with ⟨down, _ | ⟨c, more⟩⟩
  · rw [hsign] at h
    cases h
  · rw [hsign] at h
    rw [exponentSign_append hsign]
    by_cases hc : c.isDigit = true
    · simp only [hc, if_true] at h ⊢
      obtain ⟨⟨exponent, behind⟩, hexponent, hdouble⟩ := Except.bind_eq_ok_iff.1 h
      apply Except.bind_eq_ok_iff.2
      exact ⟨_, exponentDigits_append hexponent hrest, double_append hdouble rest⟩
    · simp only [hc] at h
      cases h

/-- What may follow the digits behind the point. -/
def fractionEnd (negative : Bool) (whole fraction : List Char) : Reader Number
  | 'e' :: rest | 'E' :: rest => exponentPart negative whole fraction rest
  | rest => double negative whole fraction 0 rest

theorem fractionEnd_of_ne {negative : Bool} {whole fraction : List Char}
    (he : ∀ more, text ≠ 'e' :: more) (hE : ∀ more, text ≠ 'E' :: more) :
    fractionEnd negative whole fraction text = double negative whole fraction 0 text := by
  unfold fractionEnd
  split
  · exact absurd rfl (he _)
  · exact absurd rfl (hE _)
  · rfl

theorem fractionEnd_append {negative : Bool} {whole fraction : List Char} {n : Number}
    (h : fractionEnd negative whole fraction text = .ok (n, left)) (hrest : IsBoundary rest) :
    fractionEnd negative whole fraction (text ++ rest) = .ok (n, left ++ rest) := by
  unfold fractionEnd at h
  split at h
  · exact exponentPart_append h hrest
  · exact exponentPart_append h hrest
  · rename_i he hE
    rw [fractionEnd_of_ne (hrest.append_ne (by simp) he) (hrest.append_ne (by simp) hE)]
    exact double_append h rest

def wholeNumber (negative : Bool) (digits : List Char) : Reader Number := fun rest =>
  if !negative && natOfDigits digits < Nat.pow 2 64 then .ok (.integer (natOfDigits digits), rest)
  else if negative && natOfDigits digits ≠ 0 && natOfDigits digits ≤ Nat.pow 2 63 then
    .ok (.integer (-natOfDigits digits), rest)
  else double negative digits [] 0 rest

theorem fractionPart_of_ne {negative : Bool} {digits : List Char}
    (hpoint : ∀ more, text ≠ '.' :: more) (he : ∀ more, text ≠ 'e' :: more)
    (hE : ∀ more, text ≠ 'E' :: more) :
    fractionPart negative digits text = wholeNumber negative digits text := by
  unfold fractionPart
  split
  · exact absurd rfl (hpoint _)
  · exact absurd rfl (he _)
  · exact absurd rfl (hE _)
  · rfl

theorem wholeNumber_append {negative : Bool} {digits : List Char} {n : Number}
    (h : wholeNumber negative digits text = .ok (n, left)) (rest : List Char) :
    wholeNumber negative digits (text ++ rest) = .ok (n, left ++ rest) := by
  unfold wholeNumber at h ⊢
  split at h
  · rename_i hsmall
    cases h
    exact if_pos hsmall
  · rename_i hlarge
    refine (if_neg hlarge).trans ?_
    split at h
    · rename_i hsmall
      cases h
      exact if_pos hsmall
    · rename_i hbeyond
      exact (if_neg hbeyond).trans (double_append h rest)

theorem fractionPart_point (negative : Bool) (digits : List Char) {text more left : List Char}
    (hmore : text.takeWhile Char.isDigit = more) (hleft : text.drop more.length = left) :
    fractionPart negative digits ('.' :: text) =
      if more = [] then
        if left = [] then fault .endInValue [] else faultAt .invalidNumber left
      else fractionEnd negative digits more left := by
  subst hmore hleft
  rfl

theorem fractionPart_append {negative : Bool} {digits : List Char} {n : Number}
    (h : fractionPart negative digits text = .ok (n, left)) (hrest : IsBoundary rest) :
    fractionPart negative digits (text ++ rest) = .ok (n, left ++ rest) := by
  by_cases hpoint : ∃ more, text = '.' :: more
  · obtain ⟨more, rfl⟩ := hpoint
    rw [fractionPart_point negative digits rfl rfl] at h
    rw [List.cons_append, fractionPart_point negative digits (takeWhile_isDigit_append more hrest)
      (drop_takeWhile_append more rest)]
    split at h
    · split at h <;> cases h
    · rename_i hmore
      rw [if_neg hmore]
      exact fractionEnd_append h hrest
  by_cases he : ∃ more, text = 'e' :: more
  · obtain ⟨more, rfl⟩ := he
    exact exponentPart_append h hrest
  by_cases hE : ∃ more, text = 'E' :: more
  · obtain ⟨more, rfl⟩ := hE
    exact exponentPart_append h hrest
  · simp only [not_exists] at hpoint he hE
    rw [fractionPart_of_ne hpoint he hE] at h
    rw [fractionPart_of_ne (hrest.append_ne (by simp) hpoint) (hrest.append_ne (by simp) he)
      (hrest.append_ne (by simp) hE)]
    exact wholeNumber_append h rest

def sign (text : List Char) : Bool × List Char :=
  match text with
  | '-' :: rest => (true, rest)
  | _ => (false, text)

theorem sign_append {negative : Bool} {c : Char} {more : List Char}
    (h : sign text = (negative, c :: more)) (rest : List Char) :
    sign (text ++ rest) = (negative, c :: (more ++ rest)) := by
  unfold sign at h ⊢
  split at h
  · cases h
    rfl
  · cases h
    split <;> simp_all

def unsigned (negative : Bool) : Reader Number := fun text =>
  match text with
  | [] => fault .endInValue []
  | '0' :: rest =>
    if (rest.head?.map Char.isDigit).getD false then faultAt .invalidNumber rest
    else fractionPart negative ['0'] rest
  | c :: _ =>
    if c.isDigit then
      let digits := text.takeWhile Char.isDigit
      fractionPart negative digits (text.drop digits.length)
    else faultAt .invalidNumber text

theorem number_eq (text : List Char) : number text = unsigned (sign text).1 (sign text).2 :=
  rfl

theorem unsigned_of_ne_zero {negative : Bool} {c : Char} {more : List Char} (hc : c ≠ '0') :
    unsigned negative (c :: more) =
      if c.isDigit then
        fractionPart negative ((c :: more).takeWhile Char.isDigit)
          ((c :: more).drop ((c :: more).takeWhile Char.isDigit).length)
      else faultAt .invalidNumber (c :: more) := by
  unfold unsigned
  split
  · rename_i heq
    cases heq
  · rename_i heq
    cases heq
    exact absurd rfl hc
  · rename_i heq
    cases heq
    rfl

theorem head_isDigit_append (text : List Char) (hrest : IsBoundary rest) :
    ((text ++ rest).head?.map Char.isDigit).getD false =
      (text.head?.map Char.isDigit).getD false := by
  cases text with
  | cons c text => rfl
  | nil =>
      cases rest with
      | nil => rfl
      | cons c rest => exact hrest.head_ne.1

theorem unsigned_append {negative : Bool} {n : Number}
    (h : unsigned negative text = .ok (n, left)) (hrest : IsBoundary rest) :
    unsigned negative (text ++ rest) = .ok (n, left ++ rest) := by
  cases text with
  | nil => cases h
  | cons c more =>
      by_cases hc : c = '0'
      · subst hc
        change (if _ then _ else _) = _ at h
        show (if ((more ++ rest).head?.map Char.isDigit).getD false = true then _ else _) = _
        rw [head_isDigit_append more hrest]
        split at h
        · cases h
        · rename_i hzero
          rw [if_neg hzero]
          exact fractionPart_append h hrest
      · rw [unsigned_of_ne_zero hc] at h
        rw [List.cons_append, unsigned_of_ne_zero hc, ← List.cons_append,
          takeWhile_isDigit_append _ hrest, drop_takeWhile_append]
        split at h
        · rename_i hdigit
          rw [if_pos hdigit]
          exact fractionPart_append h hrest
        · cases h

theorem isLocal_number : IsLocal number := by
  intro text n left h rest hrest
  rw [number_eq] at h ⊢
  rcases hsign : sign text with ⟨negative, _ | ⟨c, more⟩⟩
  · rw [hsign] at h
    cases h
  · rw [hsign] at h
    rw [sign_append hsign]
    exact unsigned_append h hrest

/-! ### Values -/

theorem string_append {s : String} (h : string text = .ok (s, left)) (rest : List Char) :
    string (text ++ rest) = .ok (s, left ++ rest) :=
  map_append h fun hcs => stringFrom_append hcs rest

theorem leaf_of_notMem {c : Char} (hc : c ∉ ['n', 't', 'f', '"']) (more : List Char) :
    leaf (c :: more) =
      if c = '-' || c.isDigit then (number (c :: more)).map fun (n, rest) => (.number n, rest)
      else faultAt .expectedValue (c :: more) := by
  unfold leaf
  split
  · rename_i heq
    cases heq
  iterate 4
    · rename_i heq
      cases heq
      exact absurd hc (by simp)
  · rename_i heq
    cases heq
    rfl

theorem mapRest_append {ws : List Char} {v value : Json}
    (h : (word ws text).map (fun rest => (v, rest)) = .ok (value, left)) (rest : List Char) :
    (word ws (text ++ rest)).map (fun rest => (v, rest)) = .ok (value, left ++ rest) := by
  obtain ⟨more, hmore, heq⟩ := Except.map_eq_ok_iff.1 h
  cases heq
  rw [word_append hmore]
  rfl

theorem isLocal_leaf : IsLocal leaf := by
  intro text value left h rest hrest
  cases text with
  | nil => cases h
  | cons c more =>
      by_cases hc : c ∈ ['n', 't', 'f', '"']
      · simp only [List.mem_cons, List.not_mem_nil, or_false] at hc
        rcases hc with rfl | rfl | rfl | rfl
        · exact mapRest_append h rest
        · exact mapRest_append h rest
        · exact mapRest_append h rest
        · exact map_append h fun hs => string_append hs rest
      · rw [leaf_of_notMem hc] at h
        rw [List.cons_append, leaf_of_notMem hc, ← List.cons_append]
        split at h
        · rename_i hnumber
          rw [if_pos hnumber]
          exact map_append h fun hn => isLocal_number hn hrest
        · cases h

/-! ### Lists of values and members

The fuel is the length of a text, which grows with what is behind. -/

theorem elements_succ_eq_ok_iff {element : Reader α} {fuel : Nat} {values : List α} :
    elements element (fuel + 1) text = .ok (values, left) ↔
      ∃ value behind, element text = .ok (value, behind) ∧
        (skipBlanks behind = ']' :: left ∧ values = [value] ∨
          ∃ more c next others, skipBlanks behind = ',' :: more ∧ skipBlanks more = c :: next ∧
            c ≠ ']' ∧ elements element fuel (c :: next) = .ok (others, left) ∧
            values = value :: others) := by
  rw [elements, Except.bind_eq_ok_iff, Prod.exists]
  refine exists_congr fun value => exists_congr fun behind => and_congr_right fun _ => ?_
  simp only
  split
  · rename_i heq
    simp [heq, fault]
  · rename_i heq
    simp [heq, and_comm, eq_comm]
  · rename_i more heq
    simp only [heq, List.cons.injEq, Char.reduceEq, false_and, true_and, false_or]
    split
    · rename_i hmore
      simp [hmore, fault]
    · rename_i hmore
      simp [hmore, faultAt]
    · rename_i hne hclose
      obtain ⟨c, next, hmore⟩ := List.exists_cons_of_ne_nil hne
      have hc : c ≠ ']' := fun heq => hclose next (heq ▸ hmore)
      rw [Except.bind_eq_ok_iff]
      simp [hmore, hc, eq_comm]
  · rename_i hclose hcomma
    refine iff_of_false (by simp [faultAt]) ?_
    rintro (⟨h, -⟩ | ⟨more, c, next, others, h, -⟩)
    · exact hclose _ h
    · exact hcomma _ h

theorem elements_append {element : Reader α} (helement : IsLocal element) {fuel more : Nat}
    {values : List α} (h : elements element fuel text = .ok (values, left)) (hfuel : fuel ≤ more)
    (hrest : IsBoundary rest) :
    elements element more (text ++ rest) = .ok (values, left ++ rest) := by
  induction fuel generalizing text values more with
  | zero => cases h
  | succ fuel ih =>
      obtain ⟨more, rfl⟩ : ∃ n, more = n + 1 := ⟨more - 1, by omega⟩
      obtain ⟨value, behind, hvalue, hnext⟩ := elements_succ_eq_ok_iff.1 h
      apply elements_succ_eq_ok_iff.2
      refine ⟨value, behind ++ rest, helement hvalue hrest, ?_⟩
      rcases hnext with ⟨hclose, hvalues⟩ |
        ⟨after, c, next, others, hcomma, hafter, hc, hothers, hvalues⟩
      · exact .inl ⟨skipBlanks_append hclose rest, hvalues⟩
      · exact .inr ⟨after ++ rest, c, next ++ rest, others, skipBlanks_append hcomma rest,
          skipBlanks_append hafter rest, hc, ih hothers (by omega), hvalues⟩

theorem array_of_close {element : Reader α} (h : skipBlanks text = ']' :: rest) :
    array element text = .ok ([], rest) := by
  rw [array, h]
  rfl

theorem array_of_ne {element : Reader α} {c : Char} {more : List Char}
    (h : skipBlanks text = c :: more) (hc : c ≠ ']') :
    array element text = elements element (more.length + 1) (c :: more) := by
  unfold array
  split
  · rename_i heq
    cases h.symm.trans heq
  · rename_i heq
    cases h.symm.trans heq
    exact absurd rfl hc
  · rw [h, List.length_cons]

theorem isLocal_array {element : Reader α} (helement : IsLocal element) :
    IsLocal (array element) := by
  intro text values left h rest hrest
  cases htext : skipBlanks text with
  | nil =>
      rw [array, htext] at h
      cases h
  | cons c more =>
      have happend := skipBlanks_append htext rest
      by_cases hc : c = ']'
      · subst hc
        rw [array_of_close htext] at h
        cases h
        exact array_of_close happend
      · rw [array_of_ne htext hc] at h
        rw [array_of_ne happend hc]
        exact elements_append helement h (by simp) hrest

theorem colon_append (h : colon text = .ok left) (rest : List Char) :
    colon (text ++ rest) = .ok (left ++ rest) := by
  unfold colon at h
  split at h
  · cases h
  · rename_i heq
    cases h
    rw [colon, skipBlanks_append heq]
    rfl
  · cases h

theorem members_succ_eq_ok_iff {member : σ → String → Reader σ} {fuel : Nat}
    {gathered result : σ} :
    members member (fuel + 1) gathered text = .ok (result, left) ↔
      ∃ key behind reached after, string text = .ok (key, behind) ∧
        member gathered key behind = .ok (reached, after) ∧
        (skipBlanks after = '}' :: left ∧ result = reached ∨
          ∃ more next, skipBlanks after = ',' :: more ∧ skipBlanks more = '"' :: next ∧
            members member fuel reached next = .ok (result, left)) := by
  rw [members, Except.bind_eq_ok_iff, Prod.exists]
  refine exists_congr fun key => exists_congr fun behind => ?_
  simp only [Except.bind_eq_ok_iff, Prod.exists, exists_and_left]
  refine and_congr_right fun _ => ?_
  refine exists_congr fun reached => exists_congr fun after => and_congr_right fun _ => ?_
  split
  · rename_i heq
    simp [heq, fault]
  · rename_i heq
    simp [heq, and_comm, eq_comm]
  · rename_i more heq
    simp only [heq, List.cons.injEq, Char.reduceEq, false_and, true_and, false_or]
    split
    · rename_i hmore
      simp [hmore, fault]
    · rename_i hmore
      simp [hmore]
    · rename_i hmore
      simp [hmore, faultAt]
    · rename_i hne hquote hclose
      refine iff_of_false (by simp [faultAt]) ?_
      rintro ⟨other, hother, next, hnext, -⟩
      exact hquote next (hother ▸ hnext)
  · rename_i hclose hcomma
    refine iff_of_false (by simp [faultAt]) ?_
    rintro (⟨h, -⟩ | ⟨more, h, -⟩)
    · exact hclose _ h
    · exact hcomma _ h

theorem members_append {member : σ → String → Reader σ}
    (hmember : ∀ gathered key, IsLocal (member gathered key)) {fuel more : Nat}
    {gathered result : σ} (h : members member fuel gathered text = .ok (result, left))
    (hfuel : fuel ≤ more) (hrest : IsBoundary rest) :
    members member more gathered (text ++ rest) = .ok (result, left ++ rest) := by
  induction fuel generalizing text gathered more with
  | zero => cases h
  | succ fuel ih =>
      obtain ⟨more, rfl⟩ : ∃ n, more = n + 1 := ⟨more - 1, by omega⟩
      obtain ⟨key, behind, reached, after, hkey, hreached, hnext⟩ := members_succ_eq_ok_iff.1 h
      apply members_succ_eq_ok_iff.2
      refine ⟨key, behind ++ rest, reached, after ++ rest, string_append hkey rest,
        hmember gathered key hreached hrest, ?_⟩
      rcases hnext with ⟨hclose, hresult⟩ | ⟨later, next, hcomma, hquote, hothers⟩
      · exact .inl ⟨skipBlanks_append hclose rest, hresult⟩
      · exact .inr ⟨later ++ rest, next ++ rest, skipBlanks_append hcomma rest,
          skipBlanks_append hquote rest, ih hothers (by omega)⟩

theorem isLocal_object {member : σ → String → Reader σ}
    (hmember : ∀ gathered key, IsLocal (member gathered key)) (start : σ) :
    IsLocal (object member start) := by
  intro text result left h rest hrest
  unfold object at h
  split at h
  · cases h
  · rename_i heq
    cases h
    rw [object, skipBlanks_append heq]
    rfl
  · rename_i more heq
    rw [object, skipBlanks_append heq]
    exact members_append hmember h (by simp) hrest
  · cases h

theorem isLocal_field {value : Reader Json} (hvalue : IsLocal value) (gathered : Fields)
    (key : String) : IsLocal (field value gathered key) := by
  intro text fields left h rest hrest
  obtain ⟨behind, hcolon, hrestRead⟩ := Except.bind_eq_ok_iff.1 h
  obtain ⟨⟨v, after⟩, hv, hput⟩ := Except.bind_eq_ok_iff.1 hrestRead
  cases hput
  rw [field, colon_append hcolon]
  show (value (behind ++ rest) >>= _) = _
  rw [hvalue hv hrest]
  rfl

theorem value_eq_ok_iff {depth : Nat} {v : Json} :
    value depth text = .ok (v, left) ↔
      ∃ c more, skipBlanks text = c :: more ∧
        (c ≠ '[' ∧ c ≠ '{' ∧ leaf (c :: more) = .ok (v, left) ∨
          ∃ inner, depth = inner + 1 ∧
            ((c = '[' ∧ ∃ items, array (value inner) more = .ok (items, left) ∧ .array items = v) ∨
              c = '{' ∧ ∃ fields, object (field (value inner)) [] more = .ok (fields, left) ∧
                .object fields = v)) := by
  cases htext : skipBlanks text with
  | nil => cases depth <;> rw [value, htext] <;> simp [leaf, fault]
  | cons c more =>
      by_cases hbracket : c = '['
      · subst hbracket
        cases depth <;> rw [value, htext] <;>
          simp [faultAt, Except.map_eq_ok_iff]
      by_cases hbrace : c = '{'
      · subst hbrace
        cases depth <;> rw [value, htext] <;>
          simp [faultAt, Except.map_eq_ok_iff]
      have hleaf : value depth text = leaf (c :: more) := by
        cases depth <;>
        · unfold value
          split
          · exact absurd (List.cons.inj (htext.symm.trans ‹_›)).1 hbracket
          · exact absurd (List.cons.inj (htext.symm.trans ‹_›)).1 hbrace
          · rw [htext]
      rw [hleaf]
      simp [hbracket, hbrace]

theorem isLocal_value (depth : Nat) : IsLocal (value depth) := by
  induction depth with
  | zero =>
      intro text v left h rest hrest
      obtain ⟨c, more, htext, ⟨hbracket, hbrace, hleaf⟩ | ⟨inner, hdepth, -⟩⟩ := value_eq_ok_iff.1 h
      · exact value_eq_ok_iff.2 ⟨c, more ++ rest, skipBlanks_append htext rest,
          .inl ⟨hbracket, hbrace, isLocal_leaf hleaf hrest⟩⟩
      · cases hdepth
  | succ depth ih =>
      intro text v left h rest hrest
      obtain ⟨c, more, htext, hread⟩ := value_eq_ok_iff.1 h
      apply value_eq_ok_iff.2
      refine ⟨c, more ++ rest, skipBlanks_append htext rest, ?_⟩
      rcases hread with ⟨hbracket, hbrace, hleaf⟩ | ⟨inner, hdepth, hread⟩
      · exact .inl ⟨hbracket, hbrace, isLocal_leaf hleaf hrest⟩
      · cases hdepth
        refine .inr ⟨depth, rfl, ?_⟩
        rcases hread with ⟨hc, items, hitems, hv⟩ | ⟨hc, fields, hfields, hv⟩
        · exact .inl ⟨hc, items, isLocal_array ih hitems hrest, hv⟩
        · exact .inr ⟨hc, fields, isLocal_object (isLocal_field ih) [] hfields hrest, hv⟩

end Json.Reader

end BusLocator
