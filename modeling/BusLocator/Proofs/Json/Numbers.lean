import BusLocator.Proofs.Json.Shape
/-!
# The numbers of what is read

A number that the reader keeps as a whole number is one of 64 bits; all others become floating point
numbers (`fits_of_number`). So of a value that was read it is enough to ask that its numbers are
whole: then it is written and read back like any other value of its kind
(`Regular.isWhole_of_fits`).
-/

namespace BusLocator.Json

variable {text left digits whole fraction : List Char} {negative : Bool} {n : Number}

def Number.Fits : Number → Prop
  | .integer n => -(Nat.pow 2 63) ≤ n ∧ n < Nat.pow 2 64
  | .double _ => True

inductive Mentions (n : Number) : Json → Prop
  | number : Mentions n (.number n)
  | item {items : List Json} {item : Json} (hitem : item ∈ items) (h : Mentions n item) :
      Mentions n (.array items)
  | member {fields : Fields} {field : String × Json} (hfield : field ∈ fields)
      (h : Mentions n field.2) : Mentions n (.object fields)

/-! ### Reading a number -/

namespace Reader

theorem fits_of_double {exponent : Int}
    (h : double negative whole fraction exponent text = .ok (n, left)) : n.Fits := by
  unfold double at h
  split at h
  · cases h
    trivial
  · cases h

theorem fits_of_exponentPart
    (h : exponentPart negative whole fraction text = .ok (n, left)) : n.Fits := by
  rw [exponentPart_eq] at h
  rcases hsign : exponentSign text with ⟨down, _ | ⟨c, more⟩⟩
  · rw [hsign] at h
    cases h
  · rw [hsign] at h
    by_cases hc : c.isDigit = true
    · simp only [hc, if_true] at h
      obtain ⟨⟨exponent, behind⟩, -, hdouble⟩ := Except.bind_eq_ok_iff.1 h
      exact fits_of_double hdouble
    · simp only [hc] at h
      cases h

theorem fits_of_fractionEnd
    (h : fractionEnd negative whole fraction text = .ok (n, left)) : n.Fits := by
  unfold fractionEnd at h
  split at h
  · exact fits_of_exponentPart h
  · exact fits_of_exponentPart h
  · exact fits_of_double h

theorem fits_of_wholeNumber (h : wholeNumber negative digits text = .ok (n, left)) : n.Fits := by
  unfold wholeNumber at h
  split at h
  · rename_i hsmall
    cases h
    have hbound : natOfDigits digits < Nat.pow 2 64 := by
      rw [Bool.and_eq_true, decide_eq_true_eq] at hsmall
      exact hsmall.2
    exact ⟨by omega, by omega⟩
  · split at h
    · rename_i hsmall
      cases h
      have hbound : natOfDigits digits ≤ Nat.pow 2 63 := by
        rw [Bool.and_eq_true, decide_eq_true_eq] at hsmall
        exact hsmall.2
      have hpos : 0 < Nat.pow 2 64 := by decide
      exact ⟨by omega, by omega⟩
    · exact fits_of_double h

theorem fits_of_fractionPart (h : fractionPart negative digits text = .ok (n, left)) :
    n.Fits := by
  by_cases hpoint : ∃ more, text = '.' :: more
  · obtain ⟨more, rfl⟩ := hpoint
    rw [fractionPart_point negative digits rfl rfl] at h
    split at h
    · split at h <;> cases h
    · exact fits_of_fractionEnd h
  by_cases he : ∃ more, text = 'e' :: more
  · obtain ⟨more, rfl⟩ := he
    exact fits_of_exponentPart h
  by_cases hE : ∃ more, text = 'E' :: more
  · obtain ⟨more, rfl⟩ := hE
    exact fits_of_exponentPart h
  · simp only [not_exists] at hpoint he hE
    rw [fractionPart_of_ne hpoint he hE] at h
    exact fits_of_wholeNumber h

theorem fits_of_number (text : List Char) (n : Number) (left : List Char)
    (h : number text = .ok (n, left)) : n.Fits := by
  rw [number_eq] at h
  unfold unsigned at h
  split at h
  · cases h
  · split at h
    · cases h
    · exact fits_of_fractionPart h
  · split at h
    · exact fits_of_fractionPart h
    · cases h

end Reader

/-! ### Values -/

theorem Number.isWhole_of_fits (h : n.Fits) (hwhole : ∃ z, n = .integer z) : n.IsWhole := by
  obtain ⟨z, rfl⟩ := hwhole
  exact h

theorem Regular.isWhole_of_fits {depth : Nat} {v : Json} (h : Regular Number.Fits depth v)
    (hwhole : ∀ n, Mentions n v → ∃ z, n = .integer z) : Regular Number.IsWhole depth v := by
  induction h with
  | null => exact .null
  | bool b => exact .bool b
  | number hn => exact .number (Number.isWhole_of_fits hn (hwhole _ .number))
  | string s => exact .string s
  | array _ ih =>
      exact .array fun item hitem => ih item hitem fun n hn => hwhole n (.item hitem hn)
  | object horder _ ih =>
      exact .object horder fun field hfield =>
        ih field hfield fun n hn => hwhole n (.member hfield hn)

end BusLocator.Json
