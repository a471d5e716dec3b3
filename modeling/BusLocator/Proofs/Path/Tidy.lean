import BusLocator.Proofs.Path.Components
/-!
# What a normal spelling looks like

The walk with the stack never leaves a detour: what it leaves are names, below the root or below some
directories above the start (`isSettled_place`). Walking such a place once more changes nothing, which
makes normalising idempotent, and its spelling shows each separator, each `.` and each `..` where it
has to stand and nowhere else (`isTidy_normalize`).
-/

namespace BusLocator

def Component.IsName (c : Component) : Prop :=
  c.IsStep ∧ c ≠ .up

namespace Path

variable {p q : Path}

/-! ### Places without detours -/

/-- Names inside each other, innermost first, below the root or below directories above the start. -/
def IsSettled (stack : List Component) : Prop :=
  ∃ names base, stack = names ++ base ∧ (∀ c ∈ names, c.IsName) ∧
    (base = [.root] ∨ ∃ n, base = List.replicate n .up)

theorem isSettled_enter {stack : List Component} {c : Component} (h : IsSettled stack)
    (hc : c.IsStep) : IsSettled (enter stack c) := by
  obtain ⟨names, base, rfl, hnames, hbase⟩ := h
  cases c with
  | root => exact hc.elim
  | here => exact hc.elim
  | name bytes =>
      refine ⟨.name bytes :: names, base, rfl, ?_, hbase⟩
      intro d hd
      rcases List.mem_cons.1 hd with rfl | hd
      · exact ⟨hc, by simp⟩
      · exact hnames d hd
  | up =>
      cases names with
      | nil =>
          rcases hbase with rfl | ⟨n, rfl⟩
          · exact ⟨[], [.root], rfl, by simp, .inl rfl⟩
          · refine ⟨[], List.replicate (n + 1) .up, ?_, by simp, .inr ⟨n + 1, rfl⟩⟩
            cases n <;> rfl
      | cons c names =>
          obtain ⟨hstep, hup⟩ := hnames c List.mem_cons_self
          cases c with
          | root => exact hstep.elim
          | here => exact hstep.elim
          | up => exact absurd rfl hup
          | name bytes =>
              exact ⟨names, base, rfl, fun d hd => hnames d (List.mem_cons_of_mem _ hd), hbase⟩

theorem isSettled_foldl_enter {cs stack : List Component} (h : IsSettled stack)
    (hcs : ∀ c ∈ cs, c.IsStep) : IsSettled (cs.foldl enter stack) := by
  induction cs generalizing stack with
  | nil => exact h
  | cons c cs ih =>
      apply ih (isSettled_enter h (hcs c List.mem_cons_self))
      intro d hd
      exact hcs d (List.mem_cons_of_mem c hd)

theorem isSettled_place (p : Path) : IsSettled p.place := by
  rw [place, components_eq, List.foldl_append]
  apply isSettled_foldl_enter
  · rcases p.opening_cases with h | h | ⟨h, -⟩ <;> rw [h]
    · exact ⟨[], [], rfl, by simp, .inr ⟨0, rfl⟩⟩
    · exact ⟨[], [], rfl, by simp, .inr ⟨0, rfl⟩⟩
    · exact ⟨[], [.root], rfl, by simp, .inl rfl⟩
  · intro c hc
    exact isStep_of_mem_steps hc

theorem foldl_enter_replicate (n : Nat) :
    (List.replicate n Component.up).foldl enter [] = List.replicate n .up := by
  induction n with
  | zero => rfl
  | succ n ih =>
      rw [List.replicate_succ', List.foldl_append, ih, ← List.replicate_succ']
      cases n <;> rfl

theorem foldl_enter_names {names : List Component} (h : ∀ c ∈ names, c.IsName)
    (base : List Component) : names.reverse.foldl enter base = names ++ base := by
  induction names with
  | nil => rfl
  | cons c names ih =>
      obtain ⟨hstep, hup⟩ := h c List.mem_cons_self
      rw [List.reverse_cons, List.foldl_append, ih fun d hd => h d (List.mem_cons_of_mem c hd)]
      cases c with
      | root => exact hstep.elim
      | here => exact hstep.elim
      | up => exact absurd rfl hup
      | name bytes => rfl

/-- Walking to a place without detours leads there. -/
theorem foldl_enter_reverse {stack : List Component} (h : IsSettled stack) :
    stack.reverse.foldl enter [] = stack := by
  obtain ⟨names, base, rfl, hnames, hbase⟩ := h
  have hwalked : base.reverse.foldl enter [] = base := by
    rcases hbase with rfl | ⟨n, rfl⟩
    · rfl
    · rw [List.reverse_replicate]
      exact foldl_enter_replicate n
  rw [List.reverse_append, List.foldl_append, hwalked]
  exact foldl_enter_names hnames base

theorem place_normalize (p : Path) : p.normalize.place = p.place := by
  rw [place, components_normalize]
  split
  · rename_i hplace
    rw [hplace]
    rfl
  · exact foldl_enter_reverse (isSettled_place p)

theorem normalize_of_place_eq (h : p.place = q.place) : p.normalize = q.normalize := by
  rw [normalize_eq, normalize_eq, h]

theorem normalize_normalize (p : Path) : p.normalize.normalize = p.normalize :=
  normalize_of_place_eq (place_normalize p)

/-! ### The spelling of a place -/

/-- What is written between two separators, or before the first or behind the last. -/
def parts (p : Path) : List Bytes :=
  p.bytes.splitOn slash

theorem bytes_of_isStep {c : Component} (h : c.IsStep) :
    slash ∉ (ofComponent c).bytes ∧ (ofComponent c).bytes ≠ [] ∧ (ofComponent c).bytes ≠ [dot] := by
  cases c with
  | root => exact h.elim
  | here => exact h.elim
  | up => decide
  | name bytes => exact ⟨h.1, h.2.1, h.2.2.1⟩

theorem bytes_of_isName {c : Component} (h : c.IsName) :
    (ofComponent c).bytes ≠ [dot, dot] := by
  obtain ⟨hstep, hup⟩ := h
  cases c with
  | root => exact hstep.elim
  | here => exact hstep.elim
  | up => exact absurd rfl hup
  | name bytes => exact hstep.2.2.2

theorem parts_of_isStep {c : Component} (h : c.IsStep) :
    (ofComponent c).parts = [(ofComponent c).bytes] :=
  List.splitOn_eq_singleton (bytes_of_isStep h).1

theorem isAbsolute_of_isStep {c : Component} (h : c.IsStep) :
    (ofComponent c).isAbsolute = false := by
  have hopening := (ofComponent_of_isStep h).1
  rw [Bool.eq_false_iff]
  intro habsolute
  simp [opening, habsolute] at hopening

theorem parts_join {c : Component} (hc : c.IsStep) (hp : p.bytes ≠ [])
    (hlast : p.bytes.getLast? ≠ some slash) :
    (p.join (ofComponent c)).parts = p.parts ++ [(ofComponent c).bytes] ∧
      (p.join (ofComponent c)).bytes ≠ [] ∧
      (p.join (ofComponent c)).bytes.getLast? ≠ some slash := by
  obtain ⟨hslash, hne, -⟩ := bytes_of_isStep hc
  have hbytes : (p.join (ofComponent c)).bytes = p.bytes ++ slash :: (ofComponent c).bytes := by
    rw [join, if_neg (by simp [isAbsolute_of_isStep hc]), if_neg (by simp [hp, hlast])]
  refine ⟨?_, ?_, ?_⟩
  · rw [parts, hbytes, List.splitOn_append_cons_self]
    exact congrArg (p.parts ++ ·) (parts_of_isStep hc)
  · simp [hbytes]
  · rw [hbytes, List.getLast?_append, List.getLast?_cons_of_ne_nil hne]
    intro hend
    cases hlast' : (ofComponent c).bytes.getLast? with
    | none => exact hne (List.getLast?_eq_none_iff.1 hlast')
    | some b =>
        rw [hlast'] at hend
        obtain rfl : b = slash := by simpa using hend
        exact hslash (List.mem_of_getLast? hlast')

theorem parts_foldl_join {cs : List Component} (hcs : ∀ c ∈ cs, c.IsStep) (hp : p.bytes ≠ [])
    (hlast : p.bytes.getLast? ≠ some slash) :
    (cs.foldl (fun p c => p.join (ofComponent c)) p).parts =
      p.parts ++ cs.map fun c => (ofComponent c).bytes := by
  induction cs generalizing p with
  | nil => simp
  | cons c cs ih =>
      obtain ⟨hparts, hne, hend⟩ := parts_join (hcs c List.mem_cons_self) hp hlast
      rw [List.foldl_cons, ih (fun d hd => hcs d (List.mem_cons_of_mem c hd)) hne hend, hparts,
        List.append_assoc]
      rfl

theorem parts_ofComponents {cs : List Component} (hcs : ∀ c ∈ cs, c.IsStep) (hne : cs ≠ []) :
    (ofComponents cs).parts = cs.map fun c => (ofComponent c).bytes := by
  obtain ⟨c, cs, rfl⟩ := List.exists_cons_of_ne_nil hne
  obtain ⟨hc, hcs⟩ := List.forall_mem_cons.1 hcs
  obtain ⟨hslash, hne, -⟩ := bytes_of_isStep hc
  have hlast : (ofComponent c).bytes.getLast? ≠ some slash :=
    fun h => hslash (List.mem_of_getLast? h)
  rw [ofComponents, List.foldl_cons, join_of_nil rfl, parts_foldl_join hcs hne hlast,
    parts_of_isStep hc]
  rfl

theorem parts_ofComponents_root {cs : List Component} (hcs : ∀ c ∈ cs, c.IsStep) (hne : cs ≠ []) :
    (ofComponents (.root :: cs)).parts = [] :: cs.map fun c => (ofComponent c).bytes := by
  obtain ⟨c, cs, rfl⟩ := List.exists_cons_of_ne_nil hne
  obtain ⟨hc, hcs⟩ := List.forall_mem_cons.1 hcs
  obtain ⟨hslash, hne, -⟩ := bytes_of_isStep hc
  have hfirst : (ofComponent .root).join (ofComponent c) = ⟨slash :: (ofComponent c).bytes⟩ := by
    rw [join, if_neg (by simp [isAbsolute_of_isStep hc])]
    rfl
  have hlast : (slash :: (ofComponent c).bytes).getLast? ≠ some slash := by
    rw [List.getLast?_cons_of_ne_nil hne]
    exact fun h => hslash (List.mem_of_getLast? h)
  have hparts : (⟨slash :: (ofComponent c).bytes⟩ : Path).parts = [[], (ofComponent c).bytes] := by
    have hsplit := List.splitOn_append_cons_self (a := slash) [] (ofComponent c).bytes
    rw [List.nil_append] at hsplit
    rw [parts, hsplit]
    exact congrArg ([[]] ++ ·) (parts_of_isStep hc)
  rw [ofComponents, List.foldl_cons, join_of_nil rfl, List.foldl_cons, hfirst,
    parts_foldl_join hcs (List.cons_ne_nil _ _) hlast, hparts]
  rfl

theorem parts_ofComponents_up {n : Nat} {cs : List Component} (hcs : ∀ c ∈ cs, c.IsStep)
    (hne : List.replicate n .up ++ cs ≠ []) :
    (ofComponents (List.replicate n .up ++ cs)).parts =
      List.replicate n [dot, dot] ++ cs.map fun c => (ofComponent c).bytes := by
  have hsteps : ∀ c ∈ List.replicate n .up ++ cs, c.IsStep := by
    intro c hc
    rcases List.mem_append.1 hc with hc | hc
    · rw [List.eq_of_mem_replicate hc]
      trivial
    · exact hcs c hc
  rw [parts_ofComponents hsteps hne, List.map_append, List.map_replicate]
  rfl

section Names

variable {names : List Component} (hnames : ∀ c ∈ names, c.IsName)

include hnames

theorem part_of_isName : ∀ part ∈ names.reverse.map fun c => (ofComponent c).bytes,
    part ≠ [] ∧ part ≠ [dot] ∧ part ≠ [dot, dot] := by
  intro part hpart
  obtain ⟨c, hc, rfl⟩ := List.mem_map.1 hpart
  have hname := hnames c (List.mem_reverse.1 hc)
  have hstep := bytes_of_isStep hname.1
  exact ⟨hstep.2.1, hstep.2.2, bytes_of_isName hname⟩

theorem isStep_of_mem_names : ∀ c ∈ names.reverse, c.IsStep :=
  fun c hc => (hnames c (List.mem_reverse.1 hc)).1

/-- Below the root, the names stand behind an empty part, and the root alone is `/`. -/
theorem parts_normalize_of_root (hplace : p.place = names ++ [.root]) :
    p.normalize.bytes = [slash] ∨
      p.normalize.parts = [[]] ++ names.reverse.map fun c => (ofComponent c).bytes := by
  have hne : p.place ≠ [] := by simp [hplace]
  rw [normalize_eq, if_neg hne, hplace, List.reverse_append]
  by_cases hnil : names.reverse = []
  · rw [hnil]
    exact .inl (by decide)
  · exact .inr (parts_ofComponents_root (isStep_of_mem_names hnames) hnil)

theorem parts_normalize_of_up {n : Nat} (hplace : p.place = names ++ List.replicate n .up) :
    p.normalize.bytes = [dot] ∨ p.normalize.parts =
      List.replicate n [dot, dot] ++ names.reverse.map fun c => (ofComponent c).bytes := by
  have hreverse : p.place.reverse = List.replicate n .up ++ names.reverse := by
    rw [hplace, List.reverse_append, List.reverse_replicate]
  rw [normalize_eq]
  by_cases hnil : p.place = []
  · rw [if_pos hnil]
    exact .inl rfl
  · have hne : p.place.reverse ≠ [] := fun h => hnil (List.reverse_eq_nil_iff.1 h)
    rw [hreverse] at hne
    rw [if_neg hnil, hreverse]
    exact .inr (parts_ofComponents_up (isStep_of_mem_names hnames) hne)

end Names

/-- A normal spelling is `.` or `/` alone, or names behind a lead: an empty part, or a run of `..`. -/
theorem parts_normalize (p : Path) :
    p.normalize.bytes = [dot] ∨ p.normalize.bytes = [slash] ∨
      ∃ lead names, p.normalize.parts = lead ++ names ∧
        (∀ part ∈ names, part ≠ [] ∧ part ≠ [dot] ∧ part ≠ [dot, dot]) ∧
        (lead = [[]] ∨ ∃ n, lead = List.replicate n [dot, dot]) := by
  obtain ⟨names, base, hplace, hnames, hbase⟩ := isSettled_place p
  have hplain := part_of_isName hnames
  rcases hbase with rfl | ⟨n, rfl⟩
  · rcases parts_normalize_of_root hnames hplace with hbytes | hparts
    · exact .inr (.inl hbytes)
    · exact .inr (.inr ⟨_, _, hparts, hplain, .inl rfl⟩)
  · rcases parts_normalize_of_up hnames hplace with hbytes | hparts
    · exact .inl hbytes
    · exact .inr (.inr ⟨_, _, hparts, hplain, .inr ⟨n, rfl⟩⟩)

/-! ### Tidy paths -/

/-- A path in normal spelling, said without the walk that makes it one: separators do not follow each
other and end nothing but the root, a `.` stands alone, and a `..` stands behind nothing but others of
its kind. -/
structure IsTidy (p : Path) : Prop where
  ne_nil : p.bytes ≠ []
  normalize_eq : p.normalize = p
  not_repeated : ¬ [slash, slash] <:+: p.bytes
  not_trailing : p.bytes.getLast? = some slash → p.bytes = [slash]
  here_alone : [dot] ∈ p.parts → p.bytes = [dot]
  up_leading : ∀ before after, p.parts = before ++ [dot, dot] :: after →
    ∀ part ∈ before, part = [dot, dot]

theorem IsTidy.up_notMem (h : p.IsTidy) (habsolute : p.isAbsolute = true) :
    [dot, dot] ∉ p.parts := by
  intro hup
  obtain ⟨before, after, hparts⟩ := List.append_of_mem hup
  have hhead : p.parts.head? = some [] := by
    rw [isAbsolute, decide_eq_true_eq] at habsolute
    obtain ⟨bytes, hbytes⟩ := List.head?_eq_some_iff.1 habsolute
    rw [parts, hbytes, List.splitOn_cons_eq_if_modifyHead]
    simp
  cases before with
  | nil =>
      rw [hparts] at hhead
      simp at hhead
  | cons part before =>
      have hpart := h.up_leading _ after hparts part List.mem_cons_self
      rw [hparts, hpart] at hhead
      simp at hhead

/-- What follows from the parts alone, where no part but the first is empty. -/
theorem not_repeated_of_parts (h : ∀ before after, p.parts = before ++ [] :: after → before = []) :
    ¬ [slash, slash] <:+: p.bytes ∧ p.bytes.getLast? ≠ some slash := by
  constructor
  · rintro ⟨before, after, hbytes⟩
    have hsplit : p.parts = before.splitOn slash ++ [] :: after.splitOn slash := by
      rw [parts, ← hbytes, List.append_assoc, List.cons_append, List.cons_append, List.nil_append,
        List.splitOn_append_cons_self]
      have hrest := List.splitOn_append_cons_self (a := slash) [] after
      rw [List.nil_append] at hrest
      rw [hrest]
      rfl
    exact List.splitOn_ne_nil slash before (h _ _ hsplit)
  · intro hlast
    obtain ⟨before, hbytes⟩ := List.getLast?_eq_some_iff.1 hlast
    have hsplit : p.parts = before.splitOn slash ++ [[]] := by
      rw [parts, hbytes, List.splitOn_append_cons_self]
      rfl
    exact List.splitOn_ne_nil slash before (h _ _ hsplit)

theorem bytes_normalize_ne_nil (p : Path) : p.normalize.bytes ≠ [] := by
  intro hbytes
  have hnone : p.normalize = ⟨[]⟩ := congrArg Path.mk hbytes
  have hcomponents := components_normalize p
  rw [hnone] at hcomponents
  split at hcomponents
  · exact absurd hcomponents (by decide)
  · rename_i hplace
    exact hplace (List.reverse_eq_nil_iff.1 hcomponents.symm)

section Parts

variable {lead names : List Bytes}
  (hplain : ∀ part ∈ names, part ≠ [] ∧ part ≠ [dot] ∧ part ≠ [dot, dot])
  (hlead : lead = [[]] ∨ ∃ n, lead = List.replicate n [dot, dot])

include hplain hlead

theorem here_notMem_of_lead : [dot] ∉ lead ++ names := by
  intro hdot
  rcases List.mem_append.1 hdot with hdot | hdot
  · rcases hlead with rfl | ⟨n, rfl⟩
    · simp at hdot
    · simp [List.mem_replicate] at hdot
  · exact (hplain _ hdot).2.1 rfl

theorem eq_nil_of_lead {before after : List Bytes} (h : lead ++ names = before ++ [] :: after) :
    before = [] := by
  have hnames : [] ∉ names := fun hmem => (hplain _ hmem).1 rfl
  rcases hlead with rfl | ⟨n, rfl⟩
  · cases before with
    | nil => rfl
    | cons part before =>
        have hrest : names = before ++ [] :: after := (List.cons_eq_cons.1 h).2
        exact absurd (hrest ▸ List.mem_append_right before List.mem_cons_self) hnames
  · have hmem : [] ∈ List.replicate n [dot, dot] ++ names := by simp [h]
    rcases List.mem_append.1 hmem with hmem | hmem
    · simp [List.mem_replicate] at hmem
    · exact absurd hmem hnames

theorem up_of_lead {before after : List Bytes} (h : lead ++ names = before ++ [dot, dot] :: after) :
    ∀ part ∈ before, part = [dot, dot] := by
  have hnames : [dot, dot] ∉ names := fun hmem => (hplain _ hmem).2.2 rfl
  rcases List.append_eq_append_iff.1 h with ⟨more, rfl, hrest⟩ | ⟨more, hlead', hrest⟩
  · exact absurd (hrest ▸ List.mem_append_right more List.mem_cons_self) hnames
  · cases more with
    | nil =>
        rw [List.nil_append] at hrest
        exact absurd (hrest ▸ List.mem_cons_self) hnames
    | cons part more =>
        obtain ⟨rfl, -⟩ := List.cons_eq_cons.1 hrest
        rcases hlead with rfl | ⟨n, rfl⟩
        · cases before <;> simp at hlead'
        · intro part hpart
          apply List.eq_of_mem_replicate (n := n)
          rw [hlead']
          exact List.mem_append_left _ hpart

end Parts

theorem isTidy_normalize (p : Path) : p.normalize.IsTidy := by
  have hne := bytes_normalize_ne_nil p
  have hfixed := normalize_normalize p
  rcases parts_normalize p with hbytes | hbytes | ⟨lead, names, hparts, hplain, hlead⟩
  · refine ⟨hne, hfixed, ?_, ?_, fun _ => hbytes, ?_⟩
    · rw [hbytes]
      decide
    · simp [hbytes, dot, slash]
    · intro before after hsplit
      have hone : [[dot]] = before ++ [dot, dot] :: after := by
        rw [← hsplit, parts, hbytes]
        rfl
      cases before <;> simp at hone
  · refine ⟨hne, hfixed, ?_, fun _ => hbytes, ?_, ?_⟩
    · rw [hbytes]
      decide
    · rw [parts, hbytes]
      intro hdot
      exact absurd hdot (by decide)
    · intro before after hsplit
      have hup : [dot, dot] ∈ p.normalize.parts := by simp [hsplit]
      rw [parts, hbytes] at hup
      exact absurd hup (by decide)
  · obtain ⟨hrepeated, htrailing⟩ := not_repeated_of_parts (p := p.normalize) fun before after h =>
      eq_nil_of_lead hplain hlead (hparts.symm.trans h)
    refine ⟨hne, hfixed, hrepeated, fun hlast => absurd hlast htrailing, ?_, ?_⟩
    · intro hdot
      exact absurd (hparts ▸ hdot) (here_notMem_of_lead hplain hlead)
    · intro before after hsplit
      exact up_of_lead hplain hlead (hparts.symm.trans hsplit)

end Path

end BusLocator
