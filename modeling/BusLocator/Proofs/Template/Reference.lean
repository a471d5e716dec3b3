import BusLocator.Template.Reference
/-!
# What a reference is

Each way of writing a reference to an environment variable is read by its own function. Here is what
each of them accepts, as an equation on the text, and from this what the expansion of a text can
depend on: the variables that are referred to at some place of the text.
-/

namespace BusLocator.Template

variable {platform : Platform} {text : List Char} {r : Reference}

theorem drop_length_takeWhile (p : Char → Bool) (cs : List Char) :
    cs.drop (cs.takeWhile p).length = cs.dropWhile p := by
  induction cs with
  | nil => rfl
  | cons c cs ih => cases hc : p c <;> simp [hc, ih]

theorem exists_eq_takeWhile_append {p : Char → Bool} {cs : List Char}
    (h : cs.drop (cs.takeWhile p).length ≠ []) :
    ∃ c rest, cs = cs.takeWhile p ++ c :: rest ∧ p c = false := by
  rw [drop_length_takeWhile] at h
  obtain ⟨c, rest, hrest⟩ := List.exists_cons_of_ne_nil h
  have hstop := List.head?_dropWhile_not p cs
  rw [hrest] at hstop
  refine ⟨c, rest, ?_, hstop⟩
  rw [← hrest, List.takeWhile_append_dropWhile]

theorem eq_of_percentReference? (h : percentReference? text = some r) :
    ∃ rest, text = '%' :: r.name ++ '%' :: rest := by
  unfold percentReference? at h
  split at h
  · rename_i cs
    simp only [Option.ite_none_right_eq_some, Option.some.injEq] at h
    obtain ⟨⟨-, hclosed⟩, rfl⟩ := h
    obtain ⟨c, rest, hcs, hc⟩ := exists_eq_takeWhile_append hclosed
    obtain rfl : c = '%' := by simpa using hc
    exact ⟨rest, congrArg ('%' :: ·) hcs⟩
  · contradiction

theorem eq_of_bracedReference? (h : bracedReference? text = some r) :
    ∃ rest, text = '$' :: '{' :: r.name ++ '}' :: rest := by
  unfold bracedReference? at h
  split at h
  · rename_i cs
    simp only [Option.ite_none_right_eq_some, Option.some.injEq] at h
    obtain ⟨hclosed, rfl⟩ := h
    obtain ⟨c, rest, hcs, hc⟩ := exists_eq_takeWhile_append hclosed
    obtain rfl : c = '}' := by simpa using hc
    exact ⟨rest, congrArg ('$' :: '{' :: ·) hcs⟩
  · contradiction

theorem eq_of_bareReference? {isNameChar : Char → Bool}
    (h : bareReference? isNameChar text = some r) :
    ∃ rest, text = '$' :: r.name ++ rest ∧ ∀ c ∈ rest.head?, isNameChar c = false := by
  unfold bareReference? at h
  split at h
  · rename_i cs
    simp only [Option.ite_none_right_eq_some, Option.some.injEq] at h
    obtain ⟨-, rfl⟩ := h
    refine ⟨cs.dropWhile isNameChar, ?_, ?_⟩
    · rw [List.cons_append, List.takeWhile_append_dropWhile]
    · intro c hc
      have hstop := List.head?_dropWhile_not isNameChar cs
      rw [Option.mem_def.1 hc] at hstop
      exact hstop
  · contradiction

theorem cases_of_reference? (h : reference? platform text = some r) :
    percentReference? text = some r ∨ bracedReference? text = some r ∨
      bareReference? (isNameChar platform) text = some r := by
  have hdollar
      (h : (bracedReference? text <|> bareReference? (isNameChar platform) text) = some r) :
      bracedReference? text = some r ∨ bareReference? (isNameChar platform) text = some r := by
    cases hbraced : bracedReference? text with
    | some found =>
        rw [hbraced] at h
        exact .inl h
    | none =>
        rw [hbraced] at h
        exact .inr h
  cases platform with
  | posix => exact .inr (hdollar h)
  | windows =>
      rw [reference?] at h
      cases hpercent : percentReference? text with
      | some found =>
          rw [hpercent] at h
          exact .inl h
      | none =>
          rw [hpercent] at h
          exact .inr (hdollar h)

theorem eq_of_reference? (h : reference? platform text = some r) :
    (∃ rest, text = '%' :: r.name ++ '%' :: rest) ∨
      (∃ rest, text = '$' :: '{' :: r.name ++ '}' :: rest) ∨
      ∃ rest, text = '$' :: r.name ++ rest ∧
        ∀ c ∈ rest.head?, isNameChar platform c = false := by
  rcases cases_of_reference? h with hpercent | hbraced | hbare
  · exact .inl (eq_of_percentReference? hpercent)
  · exact .inr (.inl (eq_of_bracedReference? hbraced))
  · exact .inr (.inr (eq_of_bareReference? hbare))

/-- Two environments that agree on every variable referred to in the text expand it to the same. -/
theorem expandAfter_congr {env env' : Environment} {skip : Nat}
    (h : ∀ suffix, suffix <:+ text → ∀ r, reference? platform suffix = some r →
      value? env r.name = value? env' r.name) :
    expandAfter platform env skip text = expandAfter platform env' skip text := by
  induction text generalizing skip with
  | nil => cases skip <;> rfl
  | cons c rest ih =>
      have hrest {skip : Nat} :
          expandAfter platform env skip rest = expandAfter platform env' skip rest :=
        ih fun suffix hsuffix => h suffix (hsuffix.trans (List.suffix_cons c rest))
      cases skip with
      | succ skip => exact hrest
      | zero =>
          rw [expandAfter, expandAfter]
          cases hreference : reference? platform (c :: rest) with
          | none => simp only [hrest]
          | some found => simp only [h _ List.suffix_rfl found hreference, hrest]

theorem length_pos_of_reference? (h : reference? platform text = some r) : 0 < r.length := by
  rcases cases_of_reference? h with hpercent | hbraced | hbare
  · obtain ⟨rest, rfl⟩ := eq_of_percentReference? hpercent
    grind [percentReference?]
  · obtain ⟨rest, rfl⟩ := eq_of_bracedReference? hbraced
    grind [bracedReference?]
  · obtain ⟨rest, rfl, -⟩ := eq_of_bareReference? hbare
    grind [bareReference?]

theorem expandAfter_eq_drop {env : Environment} {skip : Nat}
    (h : ∀ suffix, suffix <:+ text → ∀ r, reference? platform suffix = some r →
      value? env r.name = none) :
    expandAfter platform env skip text = text.drop skip := by
  induction text generalizing skip with
  | nil => cases skip <;> rfl
  | cons c rest ih =>
      have hrest {skip : Nat} : expandAfter platform env skip rest = rest.drop skip :=
        ih fun suffix hsuffix => h suffix (hsuffix.trans (List.suffix_cons c rest))
      cases skip with
      | succ skip => exact hrest
      | zero =>
          rw [expandAfter]
          cases hreference : reference? platform (c :: rest) with
          | none => simp [hrest]
          | some found =>
              obtain ⟨n, hn⟩ := Nat.exists_eq_succ_of_ne_zero
                (Nat.ne_of_gt (length_pos_of_reference? hreference))
              simp only [h _ List.suffix_rfl found hreference, Option.getD_none, hn]
              simp [hrest]

end BusLocator.Template
