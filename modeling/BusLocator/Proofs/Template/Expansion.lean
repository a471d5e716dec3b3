import BusLocator.Proofs.Template.Segments
/-!
# Expanding in one pass

A text is put together from literal stretches and references, each reference written in one of three
ways. Expanding it replaces every reference by the value of its variable, or leaves it as it is
written, and never reads again what it put in. The names may hold the signs of the other ways of
writing, so what has to be shown is that the scan stands at the beginning of a stretch whenever it
has passed one (`expandReferences_append`).

A text that is put together in no such way has no other meaning than to stay when no variable is
set.
-/

namespace BusLocator.Template

variable {platform : Platform} {env : Environment} {name rest : List Char}

/-- Whether a reference to a name can be written in a way on a platform. -/
def Spelling.Admits (platform : Platform) (name : List Char) : Spelling → Prop
  | .percent => platform = .windows ∧ name ≠ [] ∧ '%' ∉ name
  | .braced => '}' ∉ name
  | .bare => name ≠ [] ∧ ∀ c ∈ name, isNameChar platform c = true

instance (platform : Platform) (name : List Char) :
    (spelling : Spelling) → Decidable (spelling.Admits platform name)
  | .percent => inferInstanceAs (Decidable (_ ∧ _ ∧ _))
  | .braced => inferInstanceAs (Decidable (_ ∉ _))
  | .bare => decidable_of_iff (name ≠ [] ∧ name.all (isNameChar platform) = true)
      (and_congr_right' List.all_eq_true)

/-- A text without the signs that open a reference on a platform. -/
def IsLiteral (platform : Platform) (text : List Char) : Prop :=
  '$' ∉ text ∧ (platform = .windows → '%' ∉ text)

inductive Stretch (platform : Platform) where
  | literal (text : List Char) (h : IsLiteral platform text)
  | reference (spelling : Spelling) (name : List Char) (h : spelling.Admits platform name)

namespace Stretch

def written : Stretch platform → List Char
  | literal text _ => text
  | reference spelling name _ => spelling.write name

/-- The stretch as it is expanded. The empty name refers to no variable. -/
def expanded (env : Environment) : Stretch platform → List Char
  | literal text _ => text
  | reference spelling name _ =>
    if name = [] then spelling.write name
    else match env.get? (String.ofList name) with
      | some value => Utf8.decodeLossy value
      | none => spelling.write name

/-- Whether a stretch does not run on into what follows: a bare name has to end. -/
def EndsBefore (later : List Char) : Stretch platform → Prop
  | reference .bare _ _ => ∀ c ∈ later.head?, isNameChar platform c = false
  | _ => True

instance (later : List Char) : (stretch : Stretch platform) → Decidable (stretch.EndsBefore later)
  | reference .bare _ _ => match later with
    | [] => isTrue fun c hc => by contradiction
    | c :: _ => decidable_of_iff (isNameChar platform c = false)
        ⟨fun h _ hd => Option.mem_some.1 hd ▸ h, fun h => h c rfl⟩
  | reference .percent _ _ | reference .braced _ _ | literal _ _ => isTrue trivial

end Stretch

def NamesEnd : List (Stretch platform) → Prop
  | [] => True
  | stretch :: rest => stretch.EndsBefore (rest.flatMap Stretch.written) ∧ NamesEnd rest

/-! ### Reading one reference -/

theorem takeWhile_append_of_head? {p : Char → Bool} (hname : ∀ c ∈ name, p c = true)
    (hrest : ∀ c ∈ rest.head?, p c = false) : (name ++ rest).takeWhile p = name := by
  rw [List.takeWhile_append_of_pos hname]
  cases rest with
  | nil => rw [List.takeWhile_nil, List.append_nil]
  | cons c rest => rw [List.takeWhile_cons_of_neg (by simp [hrest c rfl]), List.append_nil]

theorem percentReference?_write (hne : name ≠ []) (hname : '%' ∉ name) (rest : List Char) :
    percentReference? (Spelling.percent.write name ++ rest) =
      some ⟨name, (Spelling.percent.write name).length⟩ := by
  have hrun : (name ++ '%' :: rest).takeWhile (· ≠ '%') = name := by
    apply takeWhile_append_of_head?
    · intro c hc
      simpa using fun heq : c = '%' => hname (heq ▸ hc)
    · simp
  have htext : Spelling.percent.write name ++ rest = '%' :: (name ++ '%' :: rest) := by
    simp [Spelling.write]
  rw [htext, percentReference?]
  simp only [hrun]
  rw [if_pos ⟨hne, by simp⟩]
  simp [Spelling.write]

theorem bracedReference?_write (hname : '}' ∉ name) (rest : List Char) :
    bracedReference? (Spelling.braced.write name ++ rest) =
      some ⟨name, (Spelling.braced.write name).length⟩ := by
  have hrun : (name ++ '}' :: rest).takeWhile (· ≠ '}') = name := by
    apply takeWhile_append_of_head?
    · intro c hc
      simpa using fun heq : c = '}' => hname (heq ▸ hc)
    · simp
  have htext : Spelling.braced.write name ++ rest = '$' :: '{' :: (name ++ '}' :: rest) := by
    simp [Spelling.write]
  rw [htext, bracedReference?]
  simp only [hrun]
  rw [if_pos (by simp)]
  simp [Spelling.write]

theorem isNameChar_brace (platform : Platform) : isNameChar platform '{' = false := by
  cases platform <;> decide +kernel

theorem bareReference?_write (hne : name ≠ []) (hname : ∀ c ∈ name, isNameChar platform c = true)
    (hrest : ∀ c ∈ rest.head?, isNameChar platform c = false) :
    bracedReference? (Spelling.bare.write name ++ rest) = none ∧
      bareReference? (isNameChar platform) (Spelling.bare.write name ++ rest) =
        some ⟨name, (Spelling.bare.write name).length⟩ := by
  have hrun := takeWhile_append_of_head? hname hrest
  constructor
  · obtain ⟨c, name, rfl⟩ := List.exists_cons_of_ne_nil hne
    rw [Option.eq_none_iff_forall_ne_some]
    intro r hr
    obtain ⟨later, hlater⟩ := eq_of_bracedReference? hr
    obtain rfl : c = '{' := (List.cons.inj (List.cons.inj hlater).2).1
    have hbrace := hname '{' List.mem_cons_self
    rw [isNameChar_brace] at hbrace
    contradiction
  · show bareReference? (isNameChar platform) ('$' :: (name ++ rest)) = _
    rw [bareReference?]
    simp only [hrun]
    rw [if_pos hne]
    rfl

theorem reference?_of_percentReference? {text : List Char} (h : percentReference? text = none) :
    reference? platform text =
      (bracedReference? text <|> bareReference? (isNameChar platform) text) := by
  cases platform with
  | posix => rfl
  | windows => rw [reference?, h]; rfl

/-- A reference is read as it was written, whatever stands behind it. -/
theorem reference?_write {spelling : Spelling} (h : spelling.Admits platform name)
    (hend : (Stretch.reference spelling name h).EndsBefore rest) :
    reference? platform (spelling.write name ++ rest) =
      some ⟨name, (spelling.write name).length⟩ := by
  cases spelling with
  | percent =>
      obtain ⟨rfl, hne, hname⟩ := h
      rw [reference?, percentReference?_write hne hname]
      rfl
  | braced =>
      rw [reference?_of_percentReference? rfl, bracedReference?_write h]
      rfl
  | bare =>
      obtain ⟨hbraced, hbare⟩ := bareReference?_write h.1 h.2 hend
      rw [reference?_of_percentReference? rfl, hbraced, hbare]
      rfl

theorem reference?_of_isLiteral {c : Char} (h : IsLiteral platform [c]) (rest : List Char) :
    reference? platform (c :: rest) = none := by
  have hdollar : c ≠ '$' := fun heq => h.1 (List.mem_singleton.2 heq.symm)
  have hbraced : bracedReference? (c :: rest) = none := by
    rw [Option.eq_none_iff_forall_ne_some]
    intro r hr
    obtain ⟨later, hlater⟩ := eq_of_bracedReference? hr
    exact hdollar (List.cons.inj hlater).1
  have hbare : bareReference? (isNameChar platform) (c :: rest) = none := by
    rw [Option.eq_none_iff_forall_ne_some]
    intro r hr
    obtain ⟨later, hlater, -⟩ := eq_of_bareReference? hr
    exact hdollar (List.cons.inj hlater).1
  cases platform with
  | posix => rw [reference?, hbraced, hbare]; rfl
  | windows =>
      have hpercent : percentReference? (c :: rest) = none := by
        rw [Option.eq_none_iff_forall_ne_some]
        intro r hr
        obtain ⟨later, hlater⟩ := eq_of_percentReference? hr
        exact h.2 rfl (List.mem_singleton.2 (List.cons.inj hlater).1.symm)
      rw [reference?, hpercent, hbraced, hbare]
      rfl

/-! ### Passing a stretch -/

theorem expandAfter_length_append (passed rest : List Char) :
    expandAfter platform env passed.length (passed ++ rest) = expandReferences platform env rest := by
  induction passed with
  | nil => rfl
  | cons c passed ih => exact ih

theorem expandReferences_literal_append {text : List Char} (h : IsLiteral platform text)
    (rest : List Char) :
    expandReferences platform env (text ++ rest) = text ++ expandReferences platform env rest := by
  induction text with
  | nil => rfl
  | cons c text ih =>
      have hhead : IsLiteral platform [c] := by
        refine ⟨fun hmem => h.1 ?_, fun hwindows hmem => h.2 hwindows ?_⟩
        all_goals exact List.mem_singleton.1 hmem ▸ List.mem_cons_self
      have htail : IsLiteral platform text :=
        ⟨fun hmem => h.1 (List.mem_cons_of_mem c hmem),
          fun hwindows hmem => h.2 hwindows (List.mem_cons_of_mem c hmem)⟩
      rw [List.cons_append, expandReferences, expandAfter, reference?_of_isLiteral hhead]
      exact congrArg (c :: ·) (ih htail)

theorem expandReferences_reference_append {text : List Char} {r : Reference} (hne : text ≠ [])
    (h : reference? platform (text ++ rest) = some r) (hlength : r.length = text.length) :
    expandReferences platform env (text ++ rest) =
      (value? env r.name).getD text ++ expandReferences platform env rest := by
  obtain ⟨c, text, rfl⟩ := List.exists_cons_of_ne_nil hne
  rw [List.cons_append] at h
  have htake : (c :: (text ++ rest)).take r.length = c :: text := by
    rw [hlength, List.length_cons, List.take_succ_cons, List.take_left]
  rw [expandReferences, List.cons_append, expandAfter, h]
  simp only
  rw [htake, hlength, List.length_cons, Nat.add_sub_cancel, expandAfter_length_append]

theorem Spelling.write_ne_nil (spelling : Spelling) (name : List Char) :
    spelling.write name ≠ [] := by
  cases spelling <;> exact List.cons_ne_nil _ _

theorem Stretch.expanded_reference {spelling : Spelling} (h : spelling.Admits platform name) :
    (Stretch.reference spelling name h).expanded env =
      (value? env name).getD (spelling.write name) := by
  rw [Stretch.expanded, value?]
  split
  · rfl
  · cases env.get? (String.ofList name) <;> rfl

theorem expandReferences_append (stretch : Stretch platform) (hend : stretch.EndsBefore rest) :
    expandReferences platform env (stretch.written ++ rest) =
      stretch.expanded env ++ expandReferences platform env rest := by
  cases stretch with
  | literal text h => exact expandReferences_literal_append h rest
  | reference spelling name h =>
      rw [Stretch.expanded_reference]
      exact expandReferences_reference_append (spelling.write_ne_nil name)
        (reference?_write h hend) rfl

/-- Expanding is one pass from the left. A text made of literal stretches and references, in which
every bare name ends where its reference does, is expanded stretch by stretch: a reference gives way
to the value of its variable, or stays as it is written if the name is empty or the variable is not
set, and what was put in is not read again. And in an environment without variables every text
stays, whatever signs stand in it. -/
theorem expandReferences_singlePass (platform : Platform) :
    (∀ (env : Environment) (stretches : List (Stretch platform)), NamesEnd stretches →
      expandReferences platform env (stretches.flatMap Stretch.written) =
        stretches.flatMap (Stretch.expanded env)) ∧
    ∀ text : List Char, expandReferences platform ⟨[]⟩ text = text := by
  constructor
  · intro env stretches hends
    induction stretches with
    | nil => rfl
    | cons stretch rest ih =>
        rw [List.flatMap_cons, List.flatMap_cons, expandReferences_append stretch hends.1,
          ih hends.2]
  · intro text
    have hunset (name : List Char) : value? ⟨[]⟩ name = none := by
      rw [value?]
      split <;> rfl
    exact expandAfter_eq_drop fun _ _ r _ => hunset r.name

/-- A value that looks like a reference, next to names with the signs of other references. -/
theorem expandReferences_singlePass_nested :
    expandReferences .windows
        ⟨[("A%", Utf8.ofString "$B"), ("B", Utf8.ofString "%C%"), ("$", Utf8.ofString "-")]⟩
        "${A%}$B%$%%X%${}".toList =
      "$B%C%-%X%${}".toList := by
  let stretches : List (Stretch .windows) :=
    [.reference .braced "A%".toList (by decide), .reference .bare "B".toList (by decide +kernel),
      .reference .percent "$".toList (by decide), .reference .percent "X".toList (by decide),
      .reference .braced [] (by decide)]
  have hends : NamesEnd stretches := ⟨trivial, by decide +kernel, trivial, trivial, trivial, trivial⟩
  exact ((expandReferences_singlePass .windows).1 _ stretches hends).trans (by decide +kernel)

end BusLocator.Template
