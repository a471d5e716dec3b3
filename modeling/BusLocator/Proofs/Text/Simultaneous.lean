import BusLocator.Proofs.Text.Replacement
/-!
# Replacing several patterns at once

Several patterns can be replaced in one pass, at each place the first one that matches there, or one
pattern after the other, each in the whole text that the last replacement left. Both are the same
(`foldl_replaceAll_eq_replaceEach`) when the patterns do not get in each other's way and the value
cannot become a part of one: then a replacement moves what the next one looks for, but neither makes
nor breaks it. Afterwards none of the patterns is left.
-/

namespace BusLocator

variable {α : Type} {patterns : List (List α)} {pattern value : List α}

/-- A value that cannot become a part of a pattern: it is not empty, its beginning is not in the
pattern, and the beginning of the pattern is not in the value. -/
def KeepsApart (value pattern : List α) : Prop :=
  (∃ c ∈ value.head?, c ∉ pattern) ∧ ∃ sign ∈ pattern.head?, sign ∉ value

theorem KeepsApart.ne_nil (h : KeepsApart value pattern) : pattern ≠ [] := by
  obtain ⟨-, sign, hsign, -⟩ := h
  rintro rfl
  contradiction

theorem KeepsApart.shields (h : KeepsApart value pattern) :
    Shields value pattern fun _ => False where
  head_notMem := by
    obtain ⟨-, sign, hsign, hmem⟩ := h
    intro c hc
    rwa [Option.mem_unique hc hsign]
  overlap := by
    rintro kept cut rest text rfl hcut hover
    obtain ⟨⟨c, hhead, hmem⟩, -⟩ := h
    obtain ⟨value, rfl⟩ := List.head?_eq_some_iff.1 hhead
    obtain ⟨d, cut, rfl⟩ := List.exists_cons_of_ne_nil hcut
    obtain rfl : d = c := (List.cons.inj hover).1
    exact hmem (by simp)

/-- Whether a pattern can be replaced before another: neither begins with the other one, and the
first does not begin anywhere else in the second. -/
def Precedes (first second : List α) : Prop :=
  ¬ first <+: second ∧ ¬ second <+: first ∧ ∀ sign ∈ first.head?, sign ∉ second.tail

variable [DecidableEq α]

/-- Replaces, behind the next `skip` elements, the first of the patterns wherever one of them
matches. -/
def replaceEachAfter (patterns : List (List α)) (value : List α) : Nat → List α → List α
  | _, [] => []
  | skip + 1, _ :: xs => replaceEachAfter patterns value skip xs
  | 0, x :: xs => match patterns.find? (·.isPrefixOf (x :: xs)) with
    | some pattern => value ++ replaceEachAfter patterns value (pattern.length - 1) xs
    | none => x :: replaceEachAfter patterns value 0 xs

/-- Goes through a text once from the left, and replaces at each place the first of the patterns
that matches there. -/
def replaceEach (patterns : List (List α)) (value text : List α) : List α :=
  replaceEachAfter patterns value 0 text

theorem replaceEach_of_no_patterns (value text : List α) : replaceEach [] value text = text := by
  induction text with
  | nil => rfl
  | cons x xs ih => exact congrArg (x :: ·) ih

theorem replaceEachAfter_length_append (passed rest : List α) :
    replaceEachAfter patterns value passed.length (passed ++ rest) =
      replaceEach patterns value rest := by
  induction passed with
  | nil => rfl
  | cons x passed ih => exact ih

theorem replaceEach_pattern_append (hpattern : pattern ≠ []) {rest : List α}
    (h : patterns.find? (·.isPrefixOf (pattern ++ rest)) = some pattern) :
    replaceEach patterns value (pattern ++ rest) = value ++ replaceEach patterns value rest := by
  obtain ⟨x, pattern, rfl⟩ := List.exists_cons_of_ne_nil hpattern
  rw [List.cons_append] at h ⊢
  rw [replaceEach, replaceEachAfter, h]
  exact congrArg (value ++ ·) (replaceEachAfter_length_append pattern rest)

theorem replaceEach_of_find?_eq_none {x : α} {xs : List α}
    (h : patterns.find? (·.isPrefixOf (x :: xs)) = none) :
    replaceEach patterns value (x :: xs) = x :: replaceEach patterns value xs := by
  rw [replaceEach, replaceEachAfter, h]
  rfl

theorem replaceEach_append_of_notMem {text : List α}
    (h : ∀ pattern ∈ patterns, ∃ sign ∈ pattern.head?, sign ∉ text) (rest : List α) :
    replaceEach patterns value (text ++ rest) = text ++ replaceEach patterns value rest := by
  induction text with
  | nil => rfl
  | cons x text ih =>
      have hnone : patterns.find? (·.isPrefixOf (x :: (text ++ rest))) = none := by
        rw [List.find?_eq_none]
        intro pattern hpattern hbegins
        obtain ⟨sign, hsign, hmem⟩ := h pattern hpattern
        obtain ⟨body, rfl⟩ := List.head?_eq_some_iff.1 hsign
        rw [List.isPrefixOf_iff_prefix, List.cons_prefix_cons] at hbegins
        exact hmem (hbegins.1 ▸ List.mem_cons_self)
      rw [List.cons_append, replaceEach_of_find?_eq_none hnone, ih]
      · rfl
      · intro pattern hpattern
        obtain ⟨sign, hsign, hmem⟩ := h pattern hpattern
        exact ⟨sign, hsign, fun htext => hmem (List.mem_cons_of_mem x htext)⟩

theorem find?_isPrefixOf_append (horder : patterns.Pairwise Precedes) {rest : List α}
    (h : patterns.find? (·.isPrefixOf (pattern ++ rest)) = some pattern) (other : List α) :
    patterns.find? (·.isPrefixOf (pattern ++ other)) = some pattern := by
  obtain ⟨-, early, late, rfl, -⟩ := List.find?_eq_some_iff_append.1 h
  rw [List.find?_eq_some_iff_append]
  refine ⟨List.isPrefixOf_iff_prefix.2 (List.prefix_append _ _), early, late, rfl, ?_⟩
  intro p hp
  obtain ⟨hfirst, hsecond, -⟩ :=
    (List.pairwise_append.1 horder).2.2 p hp pattern List.mem_cons_self
  rw [Bool.not_eq_true', Bool.eq_false_iff, ne_eq, List.isPrefixOf_iff_prefix]
  intro hbegins
  rcases List.prefix_or_prefix_of_prefix hbegins (List.prefix_append pattern other) with h | h
  · exact hfirst h
  · exact hsecond h

/-- A replacement does not make a pattern begin where none did. -/
theorem find?_isPrefixOf_replaceAll (hvalue : ∀ p ∈ patterns, KeepsApart value p) {x : α}
    {xs : List α} (hbegins : pattern.isPrefixOf (x :: xs) = false)
    (h : patterns.find? (·.isPrefixOf (x :: xs)) = none) :
    patterns.find? (·.isPrefixOf (x :: replaceAll pattern value xs)) = none := by
  rw [List.find?_eq_none] at h ⊢
  intro p hp hfound
  obtain ⟨rest, hrest⟩ := List.isPrefixOf_iff_prefix.1 hfound
  rw [← replaceAll_of_not_isPrefixOf hbegins] at hrest
  rcases append_eq_replaceAll hrest with ⟨later, hlater, -⟩ | ⟨kept, cut, later, rfl, hcut, hover⟩
  · exact h p hp (List.isPrefixOf_iff_prefix.2 ⟨later, hlater.symm⟩)
  · exact (hvalue _ hp).shields.overlap rfl hcut hover

theorem find?_isPrefixOf_replaceAll_append (horder : (pattern :: patterns).Pairwise Precedes)
    (hpattern : pattern ≠ []) {found rest : List α} (hfound : found ≠ [])
    (hbegins : pattern.isPrefixOf (found ++ rest) = false)
    (h : patterns.find? (·.isPrefixOf (found ++ rest)) = some found) (value : List α) :
    let text := found ++ replaceAll pattern value rest
    replaceAll pattern value (found ++ rest) = text ∧
      patterns.find? (·.isPrefixOf text) = some found := by
  obtain ⟨hprecedes, hothers⟩ := List.pairwise_cons.1 horder
  refine ⟨?_, find?_isPrefixOf_append hothers h _⟩
  obtain ⟨-, -, hinside⟩ := hprecedes found (List.mem_of_find?_eq_some h)
  obtain ⟨sign, pattern, rfl⟩ := List.exists_cons_of_ne_nil hpattern
  obtain ⟨x, found, rfl⟩ := List.exists_cons_of_ne_nil hfound
  rw [List.cons_append] at hbegins ⊢
  have hpassed : replaceAll (sign :: pattern) value (found ++ rest) =
      found ++ replaceAll (sign :: pattern) value rest :=
    replaceAll_append_of_notMem (hinside sign rfl) rest
  rw [replaceAll_of_not_isPrefixOf hbegins]
  exact congrArg (x :: ·) hpassed

/-- A pattern that is replaced first was only waiting for its turn. -/
theorem replaceEach_replaceAfter (hvalue : ∀ p ∈ pattern :: patterns, KeepsApart value p)
    (horder : (pattern :: patterns).Pairwise Precedes) (skip : Nat) (text : List α) :
    replaceEach patterns value (replaceAfter pattern value skip text) =
      replaceEachAfter (pattern :: patterns) value skip text := by
  have hlater : ∀ p ∈ patterns, KeepsApart value p := fun p hp =>
    hvalue p (List.mem_cons_of_mem pattern hp)
  induction text generalizing skip with
  | nil => rfl
  | cons x xs ih =>
      cases skip with
      | succ skip => exact ih skip
      | zero =>
          rw [replaceEachAfter, List.find?_cons]
          cases hbegins : pattern.isPrefixOf (x :: xs) with
          | true =>
              rw [replaceAfter, if_pos hbegins,
                replaceEach_append_of_notMem (fun p hp => (hlater p hp).2), ih]
          | false =>
              rw [← replaceAll]
              cases hfind : patterns.find? (·.isPrefixOf (x :: xs)) with
              | none =>
                  rw [replaceAll_of_not_isPrefixOf hbegins, replaceEach_of_find?_eq_none
                    (find?_isPrefixOf_replaceAll hlater hbegins hfind)]
                  exact congrArg (x :: ·) (ih 0)
              | some found =>
                  have hne := (hlater found (List.mem_of_find?_eq_some hfind)).ne_nil
                  have hprefix := List.find?_some hfind
                  obtain ⟨rest, hrest⟩ := List.isPrefixOf_iff_prefix.1 hprefix
                  rw [← hrest] at hbegins hfind
                  obtain ⟨htext, hmatch⟩ := find?_isPrefixOf_replaceAll_append horder
                    (hvalue pattern List.mem_cons_self).ne_nil hne hbegins hfind value
                  rw [← hrest, htext, replaceEach_pattern_append hne hmatch]
                  obtain ⟨c, body, rfl⟩ := List.exists_cons_of_ne_nil hne
                  obtain rfl : body ++ rest = xs := (List.cons.inj hrest).2
                  have hrun := ih body.length
                  rw [replaceAfter_length_append] at hrun
                  exact congrArg (value ++ ·) hrun

/-- Replacing one pattern after the other is replacing all of them at once. -/
theorem foldl_replaceAll_eq_replaceEach (hvalue : ∀ p ∈ patterns, KeepsApart value p)
    (horder : patterns.Pairwise Precedes) (text : List α) :
    patterns.foldl (fun text pattern => replaceAll pattern value text) text =
      replaceEach patterns value text := by
  induction patterns generalizing text with
  | nil => exact (replaceEach_of_no_patterns value text).symm
  | cons pattern patterns ih =>
      have hlater : ∀ p ∈ patterns, KeepsApart value p := fun p hp =>
        hvalue p (List.mem_cons_of_mem pattern hp)
      rw [List.foldl_cons, ih hlater horder.of_cons]
      exact replaceEach_replaceAfter hvalue horder 0 text

theorem not_isInfix_foldl_replaceAll (hvalue : ∀ p ∈ patterns, KeepsApart value p)
    (hpattern : pattern ∈ patterns) (text : List α) :
    ¬ pattern <:+: patterns.foldl (fun text p => replaceAll p value text) text := by
  have hjobs : ∀ job ∈ patterns.map (·, value), Shields job.2 pattern (fun _ => False) ∧
      ∀ _ : List α, False → False := by
    intro job hjob
    obtain ⟨p, hp, rfl⟩ := List.mem_map.1 hjob
    exact ⟨(hvalue pattern hpattern).shields, fun _ => id⟩
  have hmem : pattern ∈ (patterns.map (·, value)).map Prod.fst := by
    rw [List.map_map]
    simpa using hpattern
  have hnone := occursOnlyBefore_foldl_replaceAll (hvalue pattern hpattern).ne_nil hmem hjobs text
  rw [List.foldl_map] at hnone
  rintro ⟨before, rest, hoccurs⟩
  exact hnone rest ⟨before, by rw [← hoccurs, List.append_assoc]⟩

end BusLocator
