import BusLocator.Proofs.Text.Occurrence
/-!
# Replacing piece by piece

A text that is put together from pieces can be replaced piece by piece, as long as one knows for
each piece that no occurrence runs over its end: a piece without the element that opens the pattern
stays, and a piece that is the pattern becomes the value.
-/

namespace BusLocator

variable {α : Type} [DecidableEq α] {pattern value text : List α}

theorem replaceAfter_length_append (passed rest : List α) :
    replaceAfter pattern value passed.length (passed ++ rest) = replaceAll pattern value rest := by
  induction passed with
  | nil => rfl
  | cons x passed ih => exact ih

theorem replaceAll_pattern_append (hpattern : pattern ≠ []) (rest : List α) :
    replaceAll pattern value (pattern ++ rest) = value ++ replaceAll pattern value rest := by
  obtain ⟨x, pattern, rfl⟩ := List.exists_cons_of_ne_nil hpattern
  have hbegins : (x :: pattern).isPrefixOf (x :: (pattern ++ rest)) = true :=
    List.isPrefixOf_iff_prefix.2 (List.prefix_append (x :: pattern) rest)
  rw [List.cons_append, replaceAll_of_isPrefixOf hbegins, List.length_cons, Nat.add_sub_cancel,
    replaceAfter_length_append]

theorem replaceAll_self (hpattern : pattern ≠ []) : replaceAll pattern value pattern = value := by
  have hself : replaceAll pattern value (pattern ++ []) = value ++ replaceAll pattern value [] :=
    replaceAll_pattern_append hpattern []
  rwa [List.append_nil, replaceAll_nil, List.append_nil] at hself

theorem replaceAll_append_of_notMem {sign : α} (hsign : sign ∉ text) (rest : List α) :
    replaceAll (sign :: pattern) value (text ++ rest) =
      text ++ replaceAll (sign :: pattern) value rest := by
  induction text with
  | nil => rfl
  | cons x text ih =>
      rw [List.mem_cons, not_or] at hsign
      have hbegins : (sign :: pattern).isPrefixOf (x :: (text ++ rest)) = false := by
        rw [Bool.eq_false_iff, ne_eq, List.isPrefixOf_iff_prefix, List.cons_prefix_cons]
        exact fun h => hsign.1 h.1
      rw [List.cons_append, replaceAll_of_not_isPrefixOf hbegins, ih hsign.2, List.cons_append]

theorem replaceAll_eq_self (h : ¬ pattern <:+: text) : replaceAll pattern value text = text := by
  induction text with
  | nil => rfl
  | cons x text ih =>
      have hbegins : pattern.isPrefixOf (x :: text) = false := by
        rw [Bool.eq_false_iff, ne_eq, List.isPrefixOf_iff_prefix]
        exact fun hbegins => h hbegins.isInfix
      have hrest : ¬ pattern <:+: text := fun hoccurs =>
        h (hoccurs.trans (List.suffix_cons x text).isInfix)
      rw [replaceAll_of_not_isPrefixOf hbegins, ih hrest]

end BusLocator
