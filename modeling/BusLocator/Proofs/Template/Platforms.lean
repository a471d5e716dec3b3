import BusLocator.Proofs.Template.Reference
/-!
# References on two platforms

The two platforms read references by rules of their own. They differ in two signs only: the percent
sign, which opens references on one of them, and the hyphen, which goes on a bare name there. In a
text with neither of them the same reference, or none, begins at every place, however broken the
text is (`reference?_windows_eq_posix`). So the scans never part.
-/

namespace BusLocator.Template

variable {text : List Char}

theorem percentReference?_eq_none (h : '%' ∉ text) : percentReference? text = none := by
  rw [Option.eq_none_iff_forall_ne_some]
  intro r hr
  obtain ⟨rest, rfl⟩ := eq_of_percentReference? hr
  exact h List.mem_cons_self

theorem takeWhile_congr {p q : Char → Bool} (h : ∀ c ∈ text, p c = q c) :
    text.takeWhile p = text.takeWhile q := by
  induction text with
  | nil => rfl
  | cons c text ih =>
      rw [List.takeWhile_cons, List.takeWhile_cons, h c List.mem_cons_self,
        ih fun d hd => h d (List.mem_cons_of_mem c hd)]

theorem bareReference?_congr {p q : Char → Bool} (h : ∀ c ∈ text, p c = q c) :
    bareReference? p text = bareReference? q text := by
  unfold bareReference?
  split
  · rename_i rest
    rw [takeWhile_congr fun c hc => h c (List.mem_cons_of_mem '$' hc)]
  · rfl

theorem isNameChar_windows_eq_posix {c : Char} (h : c ≠ '-') :
    isNameChar .windows c = isNameChar .posix c := by
  simp [isNameChar, h]

theorem reference?_windows_eq_posix (hpercent : '%' ∉ text) (hhyphen : '-' ∉ text) :
    reference? .windows text = reference? .posix text := by
  have hbare :
      bareReference? (isNameChar .windows) text = bareReference? (isNameChar .posix) text :=
    bareReference?_congr fun c hc =>
      isNameChar_windows_eq_posix fun heq : c = '-' => hhyphen (heq ▸ hc)
  rw [reference?, reference?, percentReference?_eq_none hpercent, hbare]
  rfl

/-- A scan depends on its platform through the references that it meets. -/
theorem expandAfter_congr_platform {platform other : Platform} {env : Environment} {skip : Nat}
    (h : ∀ suffix, suffix <:+ text → reference? platform suffix = reference? other suffix) :
    expandAfter platform env skip text = expandAfter other env skip text := by
  induction text generalizing skip with
  | nil => cases skip <;> rfl
  | cons c rest ih =>
      have hrest {skip : Nat} :
          expandAfter platform env skip rest = expandAfter other env skip rest :=
        ih fun suffix hsuffix => h suffix (hsuffix.trans (List.suffix_cons c rest))
      cases skip with
      | succ skip => exact hrest
      | zero =>
          rw [expandAfter, expandAfter, h _ List.suffix_rfl]
          cases reference? other (c :: rest) with
          | none => simp only [hrest]
          | some found => simp only [hrest]

/-- A text with neither a percent sign nor a hyphen is expanded alike on both platforms, also where
braces stay open, nothing stands between them, or a dollar sign opens no reference. -/
theorem expandReferences_windows_eq_posix (env : Environment) (hpercent : '%' ∉ text)
    (hhyphen : '-' ∉ text) :
    expandReferences .windows env text = expandReferences .posix env text := by
  apply expandAfter_congr_platform
  intro suffix hsuffix
  exact reference?_windows_eq_posix (fun hmem => hpercent (hsuffix.mem hmem))
    fun hmem => hhyphen (hsuffix.mem hmem)

/-- References inside each other, to nothing, to a variable that is not set, and one that stays
open. -/
theorem expandReferences_windows_eq_posix_nested :
    expandReferences .windows ⟨[("A", Utf8.ofString "$B"), ("$\x7bA", Utf8.ofString "-")]⟩
        "$$A.$\x7b$\x7bA\x7d\x7d$ $\x7b\x7d$\x7bB\x7d$A\x7b$\x7bA".toList =
      "$$B.-\x7d$ $\x7b\x7d$\x7bB\x7d$B\x7b$\x7bA".toList :=
  (expandReferences_windows_eq_posix _ (by decide) (by decide)).trans (by decide +kernel)

end BusLocator.Template
