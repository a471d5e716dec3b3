import BusLocator.Text.Edit
/-!
# Occurrences after a replacement

Replacing a pattern removes occurrences of other words and can create new ones, where what was put
in meets what was left. This file says what a value must be like so that none are created:
`Shields`. Then a word that occurs nowhere, or only in front of certain texts, still does so
afterwards, and a word that was itself replaced does so whatever the text was.

Both rest on `occurrence_replaceAfter`: an occurrence in the result lies in what was left of the
text, or it overlaps an inserted value.
-/

namespace BusLocator

variable {α : Type} {pattern value word : List α} {follow : List α → Prop}

/-- Every occurrence of the word in the text stands in front of something with the property. With a
property that nothing has, the word does not occur. -/
def OccursOnlyBefore (word : List α) (follow : List α → Prop) (text : List α) : Prop :=
  ∀ rest, word ++ rest <:+ text → follow rest

/-- A value that can stand anywhere without making a word that matters: the word never begins in the
value, and where it runs into the value the property holds behind it. -/
structure Shields (value word : List α) (follow : List α → Prop) : Prop where
  head_notMem : ∀ c ∈ word.head?, c ∉ value
  overlap : ∀ {kept cut rest text : List α}, word = kept ++ cut → cut ≠ [] →
    cut ++ rest = value ++ text → follow rest

variable [DecidableEq α]

theorem replaceAll_nil : replaceAll pattern value [] = [] :=
  rfl

theorem replaceAll_of_isPrefixOf {x : α} {xs : List α} (h : pattern.isPrefixOf (x :: xs) = true) :
    replaceAll pattern value (x :: xs) =
      value ++ replaceAfter pattern value (pattern.length - 1) xs := by
  rw [replaceAll, replaceAfter, if_pos h]

theorem replaceAll_of_not_isPrefixOf {x : α} {xs : List α}
    (h : pattern.isPrefixOf (x :: xs) = false) :
    replaceAll pattern value (x :: xs) = x :: replaceAll pattern value xs := by
  rw [replaceAll, replaceAfter, if_neg (by simp [h])]
  rfl

/-- The beginning of a result was left from the text, or runs into an inserted value. -/
theorem append_eq_replaceAll {part rest text : List α}
    (h : part ++ rest = replaceAll pattern value text) :
    (∃ later, text = part ++ later ∧ rest = replaceAll pattern value later) ∨
      ∃ kept cut later, part = kept ++ cut ∧ cut ≠ [] ∧ cut ++ rest = value ++ later := by
  induction part generalizing text with
  | nil => exact .inl ⟨text, rfl, h⟩
  | cons c part ih =>
      cases text with
      | nil => simp [replaceAll_nil] at h
      | cons x xs =>
          cases hprefix : pattern.isPrefixOf (x :: xs) with
          | true =>
              rw [replaceAll_of_isPrefixOf hprefix] at h
              exact .inr ⟨[], c :: part, _, rfl, List.cons_ne_nil c part, h⟩
          | false =>
              rw [replaceAll_of_not_isPrefixOf hprefix, List.cons_append, List.cons.injEq] at h
              obtain ⟨rfl, h⟩ := h
              rcases ih h with ⟨later, rfl, hrest⟩ | ⟨kept, cut, later, rfl, hcut, hover⟩
              · exact .inl ⟨later, rfl, hrest⟩
              · exact .inr ⟨c :: kept, cut, later, rfl, hcut, hover⟩

/-- An occurrence in the result of a replacement, with the wrong text behind it, was left from the
text, at a place where the pattern does not begin. -/
theorem occurrence_replaceAfter (hword : word ≠ []) (hshields : Shields value word follow)
    {skip : Nat} {text rest : List α} (hrest : ¬ follow rest)
    (h : word ++ rest <:+ replaceAfter pattern value skip text) :
    ∃ later, word ++ later <:+ text ∧ pattern.isPrefixOf (word ++ later) = false ∧
      rest = replaceAll pattern value later := by
  induction text generalizing skip with
  | nil => simp [replaceAfter, hword] at h
  | cons x xs ih =>
      have hlift {skip : Nat} (hlater : word ++ rest <:+ replaceAfter pattern value skip xs) :
          ∃ later, word ++ later <:+ x :: xs ∧ pattern.isPrefixOf (word ++ later) = false ∧
            rest = replaceAll pattern value later := by
        obtain ⟨later, hsuffix, hpattern, heq⟩ := ih hlater
        exact ⟨later, hsuffix.trans (List.suffix_cons x xs), hpattern, heq⟩
      cases skip with
      | succ skip => exact hlift h
      | zero =>
          cases hprefix : pattern.isPrefixOf (x :: xs) with
          | true =>
              rw [← replaceAll, replaceAll_of_isPrefixOf hprefix] at h
              obtain ⟨before, hbefore⟩ := h
              rcases List.append_eq_append_iff.1 hbefore with
                ⟨outer, hvalue, houter⟩ | ⟨outer, -, houter⟩
              · -- The word would begin within the value.
                cases outer with
                | nil => exact hlift ⟨[], houter⟩
                | cons c outer =>
                    obtain ⟨d, word', rfl⟩ := List.exists_cons_of_ne_nil hword
                    obtain rfl : d = c := (List.cons.inj houter).1
                    exact absurd (by simp [hvalue]) (hshields.head_notMem d rfl)
              · exact hlift ⟨outer, houter.symm⟩
          | false =>
              rw [← replaceAll, replaceAll_of_not_isPrefixOf hprefix, List.suffix_cons_iff] at h
              rcases h with hwhole | hsuffix
              · obtain ⟨d, word', rfl⟩ := List.exists_cons_of_ne_nil hword
                obtain ⟨rfl, htail⟩ := List.cons.inj hwhole
                rcases append_eq_replaceAll htail with
                  ⟨later, rfl, heq⟩ | ⟨kept, cut, later, rfl, hcut, hover⟩
                · exact ⟨later, List.suffix_rfl, hprefix, heq⟩
                · have hkept : d :: (kept ++ cut) = (d :: kept) ++ cut := rfl
                  exact absurd (hshields.overlap hkept hcut hover) hrest
              · exact hlift hsuffix

theorem OccursOnlyBefore.replaceAll (hword : word ≠ []) (hshields : Shields value word follow)
    (hsteady : ∀ rest, follow rest → follow (replaceAll pattern value rest)) {text : List α}
    (h : OccursOnlyBefore word follow text) :
    OccursOnlyBefore word follow (replaceAll pattern value text) := by
  intro rest hrest
  by_cases hfollow : follow rest
  · exact hfollow
  · obtain ⟨later, hlater, -, rfl⟩ := occurrence_replaceAfter hword hshields hfollow hrest
    exact absurd (hsteady later (h later hlater)) hfollow

theorem occursOnlyBefore_replaceAll_self (hword : word ≠ []) (hshields : Shields value word follow)
    (text : List α) : OccursOnlyBefore word follow (replaceAll word value text) := by
  intro rest hrest
  by_cases hfollow : follow rest
  · exact hfollow
  · obtain ⟨later, -, hpattern, -⟩ := occurrence_replaceAfter hword hshields hfollow hrest
    rw [List.isPrefixOf_iff_prefix.2 (List.prefix_append word later)] at hpattern
    contradiction

/-- Replacing one word after the other removes each of them, if every value shields it. -/
theorem occursOnlyBefore_foldl_replaceAll (hword : word ≠ []) {jobs : List (List α × List α)}
    (hmem : word ∈ jobs.map Prod.fst)
    (hjobs : ∀ job ∈ jobs, Shields job.2 word follow ∧
      ∀ rest, follow rest → follow (replaceAll job.1 job.2 rest)) (text : List α) :
    OccursOnlyBefore word follow
      (jobs.foldl (fun text job => replaceAll job.1 job.2 text) text) := by
  have hkeep : ∀ later : List (List α × List α), later ⊆ jobs → ∀ text,
      OccursOnlyBefore word follow text → OccursOnlyBefore word follow
        (later.foldl (fun text job => replaceAll job.1 job.2 text) text) := by
    intro later
    induction later with
    | nil => exact fun _ _ h => h
    | cons job later ih =>
        intro hsub text h
        obtain ⟨hjob, hlater⟩ := List.cons_subset.1 hsub
        obtain ⟨hshields, hsteady⟩ := hjobs job hjob
        exact ih hlater _ (h.replaceAll hword hshields hsteady)
  obtain ⟨⟨_, value⟩, hjob, rfl⟩ := List.mem_map.1 hmem
  obtain ⟨early, later, rfl⟩ := List.append_of_mem hjob
  rw [List.foldl_append, List.foldl_cons]
  refine hkeep later (fun job h => by simp [h]) _ ?_
  exact occursOnlyBefore_replaceAll_self hword (hjobs _ hjob).1 _

end BusLocator
