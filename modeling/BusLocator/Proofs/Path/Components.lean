import BusLocator.Path.Normal
/-!
# What joining and normalising do to components

A path is spelled in bytes and means a list of components. Joining two paths appends their
components, except that only the beginning of the whole can be a root or a `.`. Spelling out
components and reading them again gives them back, so the components of a normalised path are those
that the walk with the stack left (`components_normalize`).
-/

namespace BusLocator

/-- A component that can stand anywhere in a path. -/
def Component.IsStep : Component → Prop
  | .root | .here => False
  | .up => True
  | .name bytes => Path.slash ∉ bytes ∧ bytes ≠ [] ∧ bytes ≠ [Path.dot] ∧
      bytes ≠ [Path.dot, Path.dot]

namespace Path

variable {p q : Path}

/-! ### Joining -/

def steps (p : Path) : List Component :=
  (p.bytes.splitOn slash).filterMap component?

theorem components_eq (p : Path) : p.components = p.opening ++ p.steps :=
  rfl

theorem exists_stem_join (hp : p.bytes ≠ []) (hq : q.isAbsolute = false) :
    ∃ stem, (p.join q).bytes = stem ++ slash :: q.bytes ∧
      (p.bytes = stem ∨ p.bytes = stem ++ [slash]) := by
  rw [join, if_neg (by simp [hq])]
  by_cases hlast : p.bytes.getLast? = some slash
  · obtain ⟨stem, hstem⟩ := List.getLast?_eq_some_iff.1 hlast
    rw [if_pos (.inr hlast)]
    exact ⟨stem, by simp [hstem], .inr hstem⟩
  · rw [if_neg (by simp [hp, hlast])]
    exact ⟨p.bytes, rfl, .inl rfl⟩

theorem join_of_nil (hp : p.bytes = []) : p.join q = q := by
  unfold join
  split
  · rfl
  · rw [if_pos (.inl hp), hp, List.nil_append]

theorem steps_join (hq : q.isAbsolute = false) : (p.join q).steps = p.steps ++ q.steps := by
  by_cases hp : p.bytes = []
  · rw [join_of_nil hp]
    simp [steps, hp, component?]
  · obtain ⟨stem, hjoin, hstem⟩ := exists_stem_join hp hq
    rw [steps, hjoin, List.splitOn_append_cons_self, List.filterMap_append]
    rcases hstem with rfl | hstem
    · rfl
    · rw [steps, hstem, List.splitOn_append_cons_self, List.filterMap_append]
      simp [steps, component?]

theorem head?_splitOn_append (stem rest : Bytes) :
    ((stem ++ slash :: rest).splitOn slash).head? = (stem.splitOn slash).head? := by
  rw [List.splitOn_append_cons_self, List.head?_append]
  cases hsplit : stem.splitOn slash with
  | nil => exact absurd hsplit (List.splitOn_ne_nil slash stem)
  | cons part parts => rfl

theorem opening_join (hp : p.bytes ≠ []) (hq : q.isAbsolute = false) :
    (p.join q).opening = p.opening := by
  obtain ⟨stem, hjoin, hstem⟩ := exists_stem_join hp hq
  have hhead : (p.join q).bytes.head? = p.bytes.head? := by
    rw [hjoin]
    rcases hstem with rfl | hstem
    · obtain ⟨b, bytes, hbytes⟩ := List.exists_cons_of_ne_nil hp
      simp [hbytes]
    · rw [hstem, List.head?_append, List.head?_append]
      rfl
  have hfirst : ((p.join q).bytes.splitOn slash).head? = (p.bytes.splitOn slash).head? := by
    rw [hjoin, head?_splitOn_append]
    rcases hstem with rfl | hstem
    · rfl
    · rw [hstem, head?_splitOn_append]
  rw [opening, opening, isAbsolute, isAbsolute, hhead, hfirst]

theorem components_join_of_relative (hp : p.bytes ≠ []) (hq : q.isAbsolute = false) :
    (p.join q).components = p.components ++ q.steps := by
  rw [components_eq, opening_join hp hq, steps_join hq, ← List.append_assoc, ← components_eq]

/-- A relative path without a `.` in front appends its components. -/
theorem components_join (hq : q.opening = []) :
    (p.join q).components = p.components ++ q.components := by
  have hrelative : q.isAbsolute = false := by
    rw [Bool.eq_false_iff]
    intro habsolute
    simp [opening, habsolute] at hq
  by_cases hp : p.bytes = []
  · rw [join_of_nil hp]
    simp [components_eq p, opening, steps, isAbsolute, hp, component?]
  · rw [components_eq, components_eq p, components_eq q, opening_join hp hrelative,
      steps_join hrelative, hq, List.nil_append, List.append_assoc]

/-- A separator at the end of a path does not count. -/
theorem components_concat_slash (hp : p.bytes ≠ []) :
    (⟨p.bytes ++ [slash]⟩ : Path).components = p.components := by
  have hhead : (⟨p.bytes ++ [slash]⟩ : Path).isAbsolute = p.isAbsolute := by
    obtain ⟨b, bytes, hbytes⟩ := List.exists_cons_of_ne_nil hp
    rw [isAbsolute, isAbsolute, hbytes]
    rfl
  have hopening : (⟨p.bytes ++ [slash]⟩ : Path).opening = p.opening := by
    rw [opening, opening, hhead, head?_splitOn_append]
  have hsteps : (⟨p.bytes ++ [slash]⟩ : Path).steps = p.steps := by
    rw [steps, List.splitOn_append_cons_self, List.filterMap_append]
    simp [steps, component?]
  rw [components_eq, components_eq, hopening, hsteps]

theorem isAbsolute_join (hp : p.isAbsolute = true) : (p.join q).isAbsolute = true := by
  unfold join
  split
  · assumption
  · rw [isAbsolute, decide_eq_true_eq] at hp
    split <;> simp [isAbsolute, List.head?_append, hp]

/-! ### Spelling components -/

/-- Components as they can follow each other in a path. -/
def IsSpelled : List Component → Prop
  | [] => True
  | c :: cs => (c = .root ∨ c = .here ∨ c.IsStep) ∧ ∀ d ∈ cs, d.IsStep

theorem ofComponent_of_isStep {c : Component} (hc : c.IsStep) :
    (ofComponent c).opening = [] ∧ (ofComponent c).components = [c] := by
  cases c with
  | root => exact hc.elim
  | here => exact hc.elim
  | up => decide
  | name bytes =>
      obtain ⟨hslash, hne, hdot, hdots⟩ := hc
      have hparts : bytes.splitOn slash = [bytes] := List.splitOn_eq_singleton hslash
      have hopening : (ofComponent (.name bytes)).opening = [] := by
        have hhead : bytes.head? ≠ some slash := fun h => hslash (List.mem_of_head? h)
        simp [opening, ofComponent, isAbsolute, hhead, hparts, hdot]
      refine ⟨hopening, ?_⟩
      rw [components_eq, hopening, List.nil_append, steps, ofComponent, hparts]
      simp [component?, hne, hdot, hdots]

theorem components_foldl_join {cs : List Component} (hcs : ∀ c ∈ cs, c.IsStep) (p : Path) :
    (cs.foldl (fun p c => p.join (ofComponent c)) p).components = p.components ++ cs := by
  induction cs generalizing p with
  | nil => simp
  | cons c cs ih =>
      obtain ⟨hopening, hcomponents⟩ := ofComponent_of_isStep (hcs c List.mem_cons_self)
      rw [List.foldl_cons, ih fun d hd => hcs d (List.mem_cons_of_mem c hd),
        components_join hopening, hcomponents, List.append_assoc, List.singleton_append]

theorem components_ofComponents {cs : List Component} (hcs : IsSpelled cs) :
    (ofComponents cs).components = cs := by
  cases cs with
  | nil => rfl
  | cons c cs =>
      have hfirst : (ofComponent c).components = [c] := by
        rcases hcs.1 with rfl | rfl | hstep
        · decide
        · decide
        · exact (ofComponent_of_isStep hstep).2
      rw [ofComponents, List.foldl_cons, join_of_nil rfl, components_foldl_join hcs.2, hfirst,
        List.singleton_append]

theorem notMem_of_mem_splitOn {bytes part : Bytes} (h : part ∈ bytes.splitOn slash) :
    slash ∉ part := by
  induction bytes generalizing part with
  | nil =>
      obtain rfl : part = [] := by simpa using h
      exact List.not_mem_nil
  | cons b bytes ih =>
      rw [List.splitOn_cons_eq_if_modifyHead] at h
      split at h
      · rcases List.mem_cons.1 h with rfl | hrest
        · exact List.not_mem_nil
        · exact ih hrest
      · rename_i hb
        obtain ⟨first, parts, hparts⟩ := List.exists_cons_of_ne_nil (List.splitOn_ne_nil slash bytes)
        rw [hparts] at h ih
        rcases List.mem_cons.1 h with rfl | hrest
        · have hfirst := ih List.mem_cons_self
          rw [List.mem_cons, not_or]
          exact ⟨fun heq => hb (beq_iff_eq.2 heq.symm), hfirst⟩
        · exact ih (List.mem_cons_of_mem first hrest)

theorem isStep_of_mem_steps {c : Component} (h : c ∈ p.steps) : c.IsStep := by
  obtain ⟨part, hpart, hc⟩ := List.mem_filterMap.1 h
  unfold component? at hc
  split at hc
  · contradiction
  · rename_i hkept
    rw [not_or] at hkept
    split at hc
    · obtain rfl := Option.some.inj hc
      trivial
    · rename_i hup
      obtain rfl := Option.some.inj hc
      exact ⟨notMem_of_mem_splitOn hpart, hkept.1, hkept.2, hup⟩

theorem opening_cases (p : Path) : p.opening = [] ∨ p.opening = [.here] ∨
    (p.opening = [.root] ∧ p.isAbsolute = true) := by
  unfold opening
  split
  · rename_i habsolute
    exact .inr (.inr ⟨rfl, habsolute⟩)
  · split
    · exact .inr (.inl rfl)
    · exact .inl rfl

theorem IsSpelled.of_prefix {cs ds : List Component} (h : IsSpelled cs) (hds : ds <+: cs) :
    IsSpelled ds := by
  obtain ⟨rest, rfl⟩ := hds
  cases ds with
  | nil => trivial
  | cons d ds => exact ⟨h.1, fun e he => h.2 e (List.mem_append_left rest he)⟩

theorem isSpelled_components (p : Path) : IsSpelled p.components := by
  have hsteps : ∀ c ∈ p.steps, c.IsStep := fun c hc => isStep_of_mem_steps hc
  rw [components_eq]
  rcases p.opening_cases with h | h | ⟨h, -⟩ <;> rw [h]
  · cases hall : p.steps with
    | nil => trivial
    | cons c cs =>
        rw [hall] at hsteps
        exact ⟨.inr (.inr (hsteps c List.mem_cons_self)),
          fun d hd => hsteps d (List.mem_cons_of_mem c hd)⟩
  · exact ⟨.inr (.inl rfl), hsteps⟩
  · exact ⟨.inl rfl, hsteps⟩

/-! ### Where a path leads -/

/-- The place that a path leads to, innermost component first. -/
def place (p : Path) : List Component :=
  p.components.foldl enter []

theorem IsSpelled.concat {cs : List Component} {c : Component} (h : IsSpelled cs)
    (hc : c.IsStep) : IsSpelled (cs ++ [c]) := by
  cases cs with
  | nil => exact ⟨.inr (.inr hc), fun d hd => absurd hd List.not_mem_nil⟩
  | cons d cs =>
      refine ⟨h.1, fun e he => ?_⟩
      rcases List.mem_append.1 he with he | he
      · exact h.2 e he
      · rwa [List.mem_singleton.1 he]

theorem isSpelled_enter {stack : List Component} {c : Component} (h : IsSpelled stack.reverse)
    (hc : c.IsStep) : IsSpelled (enter stack c).reverse := by
  cases c with
  | root => exact hc.elim
  | here => exact hc.elim
  | name bytes =>
      rw [enter, List.reverse_cons]
      exact h.concat hc
  | up =>
      cases stack with
      | nil => exact h.concat (c := .up) trivial
      | cons d outer =>
          rw [List.reverse_cons] at h
          cases d with
          | root => rwa [enter, List.reverse_cons]
          | name bytes => exact h.of_prefix (List.prefix_append _ _)
          | here =>
              rw [enter, List.reverse_cons, List.reverse_cons]
              · exact h.concat trivial
              all_goals simp
          | up =>
              rw [enter, List.reverse_cons, List.reverse_cons]
              · exact h.concat trivial
              all_goals simp

theorem isSpelled_foldl_enter {cs stack : List Component} (hcs : ∀ c ∈ cs, c.IsStep)
    (h : IsSpelled stack.reverse) : IsSpelled (cs.foldl enter stack).reverse := by
  induction cs generalizing stack with
  | nil => exact h
  | cons c cs ih =>
      exact ih (fun d hd => hcs d (List.mem_cons_of_mem c hd))
        (isSpelled_enter h (hcs c List.mem_cons_self))

theorem isSpelled_place (p : Path) : IsSpelled p.place.reverse := by
  rw [place, components_eq, List.foldl_append]
  refine isSpelled_foldl_enter (fun c hc => isStep_of_mem_steps hc) ?_
  rcases p.opening_cases with h | h | ⟨h, -⟩ <;> rw [h]
  · trivial
  · trivial
  · exact ⟨.inl rfl, fun d hd => absurd hd List.not_mem_nil⟩

theorem normalize_eq (p : Path) :
    p.normalize = if p.place = [] then ofComponent .here else ofComponents p.place.reverse := by
  rw [normalize, ← place]
  split
  · rename_i hnil
    rw [if_pos (List.reverse_eq_nil_iff.1 hnil)]
  · rename_i hne
    rw [if_neg fun hnil => hne (by rw [hnil]; rfl)]

theorem components_normalize (p : Path) :
    p.normalize.components = if p.place = [] then [.here] else p.place.reverse := by
  rw [normalize_eq]
  split
  · decide
  · exact components_ofComponents (isSpelled_place p)

/-! ### What normalising keeps -/

theorem length_enter_le (stack : List Component) (c : Component) :
    (enter stack c).length ≤ stack.length + 1 := by
  cases c with
  | root => exact Nat.succ_le_succ (Nat.zero_le _)
  | here => exact Nat.le_succ _
  | name bytes => exact Nat.le_refl _
  | up =>
      cases stack with
      | nil => exact Nat.le_refl 1
      | cons d outer =>
          cases d with
          | name bytes =>
              rw [enter, List.length_cons]
              omega
          | _ => simp [enter]

theorem length_foldl_enter_le (cs stack : List Component) :
    (cs.foldl enter stack).length ≤ stack.length + cs.length := by
  induction cs generalizing stack with
  | nil => exact Nat.le_refl _
  | cons c cs ih =>
      have hrest := ih (enter stack c)
      have hfirst := length_enter_le stack c
      rw [List.foldl_cons, List.length_cons]
      omega

theorem length_place_le (p : Path) : p.place.length ≤ p.components.length := by
  simpa [place] using length_foldl_enter_le p.components []

theorem length_components_normalize_le (p : Path) :
    p.normalize.components.length ≤ max 1 p.place.length := by
  rw [components_normalize]
  split
  · exact Nat.le_max_left 1 _
  · rw [List.length_reverse]
    exact Nat.le_max_right 1 _

theorem getLast?_components {c : Component} (h : p.steps.getLast? = some c) :
    p.components.getLast? = some c := by
  rw [components_eq, List.getLast?_append, h]
  rfl

theorem getLast?_steps {bytes : Bytes} (h : p.components.getLast? = some (.name bytes)) :
    p.steps.getLast? = some (.name bytes) := by
  rw [components_eq, List.getLast?_append] at h
  cases hlast : p.steps.getLast? with
  | some c => simpa [hlast] using h
  | none =>
      rw [hlast, Option.none_or] at h
      rcases p.opening_cases with hopening | hopening | ⟨hopening, -⟩ <;> simp [hopening] at h

/-- The name that a path ends in is also where it leads to. -/
theorem getLast?_components_normalize {bytes : Bytes}
    (h : p.components.getLast? = some (.name bytes)) :
    p.normalize.components.getLast? = some (.name bytes) := by
  obtain ⟨before, hbefore⟩ := List.getLast?_eq_some_iff.1 h
  have hplace : p.place = .name bytes :: before.foldl enter [] := by
    rw [place, hbefore, List.foldl_append]
    rfl
  rw [components_normalize, hplace, if_neg (List.cons_ne_nil _ _), List.reverse_cons,
    List.getLast?_concat]

theorem isAbsolute_iff (p : Path) :
    p.isAbsolute = true ↔ p.components.head? = some .root := by
  rw [components_eq, List.head?_append]
  constructor
  · intro habsolute
    simp [opening, habsolute]
  · rcases p.opening_cases with h | h | ⟨-, habsolute⟩
    · rw [h]
      intro hhead
      exact (isStep_of_mem_steps (List.mem_of_head? hhead)).elim
    · simp [h]
    · exact fun _ => habsolute

theorem getLast?_enter {stack : List Component} {c : Component}
    (h : stack.getLast? = some .root) (hc : c.IsStep) :
    (enter stack c).getLast? = some .root := by
  cases c with
  | root => exact hc.elim
  | here => exact hc.elim
  | name bytes => simp [enter, List.getLast?_cons, h]
  | up =>
      cases stack with
      | nil => contradiction
      | cons d outer =>
          cases outer with
          | nil =>
              obtain rfl : d = .root := by simpa using h
              rfl
          | cons e outer =>
              rw [List.getLast?_cons_cons] at h
              cases d <;> simp [enter, List.getLast?_cons_cons, h]

theorem getLast?_foldl_enter {cs stack : List Component} (h : stack.getLast? = some .root)
    (hcs : ∀ c ∈ cs, c.IsStep) : (cs.foldl enter stack).getLast? = some .root := by
  induction cs generalizing stack with
  | nil => exact h
  | cons c cs ih =>
      exact ih (getLast?_enter h (hcs c List.mem_cons_self))
        fun d hd => hcs d (List.mem_cons_of_mem c hd)

theorem isAbsolute_normalize (h : p.isAbsolute = true) : p.normalize.isAbsolute = true := by
  have hopening : p.opening = [.root] := by simp [opening, h]
  have hplace : p.place.getLast? = some .root := by
    rw [place, components_eq, hopening, List.foldl_append]
    exact getLast?_foldl_enter rfl fun c hc => isStep_of_mem_steps hc
  have hne : p.place ≠ [] := by
    rintro hnil
    rw [hnil] at hplace
    contradiction
  rw [isAbsolute_iff, components_normalize, if_neg hne, List.head?_reverse, hplace]

/-! ### Seen from the working directory -/

variable {workingDir : Option Path}

theorem getLast?_components_normalizeFrom {bytes : Bytes}
    (h : p.components.getLast? = some (.name bytes)) :
    (normalizeFrom workingDir p).components.getLast? = some (.name bytes) := by
  unfold normalizeFrom
  split
  · exact getLast?_components_normalize h
  · rename_i hrelative
    cases workingDir with
    | none => exact getLast?_components_normalize h
    | some dir =>
        refine getLast?_components_normalize (getLast?_components ?_)
        rw [steps_join (by simpa using hrelative), List.getLast?_append, getLast?_steps h]
        rfl

theorem isAbsolute_normalizeFrom {dir : Path} (hdir : dir.isAbsolute = true) (p : Path) :
    (normalizeFrom (some dir) p).isAbsolute = true := by
  unfold normalizeFrom
  split
  · exact isAbsolute_normalize ‹_›
  · exact isAbsolute_normalize (isAbsolute_join hdir)

end Path

end BusLocator
