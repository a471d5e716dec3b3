import BusLocator.Proofs.Path.Tidy
/-!
# The location that a path names

Where a path leads can be said without components and without a stack: names inside each other,
below the root or below some directory above the start. Walking what is written between the
separators gives such a location, and every location has one text. Normalising writes this text
(`normalize_eq_path_location`), and reading it again gives the location back (`location_path`), so
the normal spelling stands for the location and for nothing else.
-/

namespace BusLocator

namespace Location

/-- Where names are counted from. -/
inductive Base where
  | root
  /-- The directory so many levels above the start of a relative path. -/
  | above (levels : Nat)
  deriving DecidableEq, Repr

def Base.up : Base → Base
  | .root => .root
  | .above levels => .above (levels + 1)

end Location

/-- A place among directories that need not exist: names inside each other, the outermost first,
below a base. -/
structure Location where
  base : Location.Base
  names : List Bytes
  deriving DecidableEq, Repr

namespace Location

def root : Location :=
  ⟨.root, []⟩

def start : Location :=
  ⟨.above 0, []⟩

/-- The way out of a location undoes the last name, or else leads above the base. -/
def ascend (l : Location) : Location :=
  if l.names = [] then ⟨l.base.up, []⟩ else ⟨l.base, l.names.dropLast⟩

/-- Where the text between two separators leads from a location. -/
def enter (l : Location) (part : Bytes) : Location :=
  if part = [] ∨ part = [Path.dot] then l
  else if part = [Path.dot, Path.dot] then l.ascend
  else ⟨l.base, l.names ++ [part]⟩

/-- Where a path leads from a location: what is written between its separators is walked from the
left. A path that starts at the root leads to the same place from everywhere. -/
def follow (l : Location) (p : Path) : Location :=
  p.parts.foldl enter (if p.isAbsolute then root else l)

def text (l : Location) : Bytes :=
  match l.base with
  | .root => Path.slash :: [Path.slash].intercalate l.names
  | .above levels =>
    let parts := List.replicate levels [Path.dot, Path.dot] ++ l.names
    if parts = [] then [Path.dot] else [Path.slash].intercalate parts

def path (l : Location) : Path :=
  ⟨l.text⟩

/-- Every name can be written between separators and is read as a name there. -/
def IsPlain (l : Location) : Prop :=
  ∀ name ∈ l.names, (Component.name name).IsStep

def components (l : Location) : List Component :=
  (match l.base with
    | .root => [.root]
    | .above levels => List.replicate levels .up) ++ l.names.map .name

variable {l : Location}

/-! ### Walking -/

theorem enter_of_isStep {name : Bytes} (h : (Component.name name).IsStep) (l : Location) :
    l.enter name = ⟨l.base, l.names ++ [name]⟩ := by
  obtain ⟨-, hne, hdot, hdots⟩ := h
  rw [enter, if_neg (by simp [hne, hdot]), if_neg hdots]

theorem foldl_enter_of_isStep {names : List Bytes}
    (h : ∀ name ∈ names, (Component.name name).IsStep) (l : Location) :
    names.foldl enter l = ⟨l.base, l.names ++ names⟩ := by
  induction names generalizing l with
  | nil => rw [List.append_nil, List.foldl_nil]
  | cons name names ih =>
      rw [List.foldl_cons, enter_of_isStep (h name List.mem_cons_self),
        ih fun other hother => h other (List.mem_cons_of_mem name hother), List.append_assoc]
      rfl

theorem foldl_enter_up (levels n : Nat) :
    (List.replicate n [Path.dot, Path.dot]).foldl enter ⟨.above levels, []⟩ =
      ⟨.above (levels + n), []⟩ := by
  induction n generalizing levels with
  | zero => rfl
  | succ n ih =>
      rw [List.replicate_succ, List.foldl_cons]
      exact (ih (levels + 1)).trans (by rw [Nat.add_right_comm, Nat.add_assoc])

theorem base_enter_eq_root_iff (l : Location) (part : Bytes) :
    (l.enter part).base = .root ↔ l.base = .root := by
  unfold enter ascend
  split
  · rfl
  · split
    · split
      · cases l.base <;> simp [Base.up]
      · rfl
    · rfl

theorem base_foldl_enter_eq_root_iff (parts : List Bytes) (l : Location) :
    (parts.foldl enter l).base = .root ↔ l.base = .root := by
  induction parts generalizing l with
  | nil => rfl
  | cons part parts ih => exact (ih (l.enter part)).trans (base_enter_eq_root_iff l part)

theorem isPlain_enter {part : Bytes} (hpart : Path.slash ∉ part) (h : l.IsPlain) :
    (l.enter part).IsPlain := by
  unfold enter ascend
  split
  · exact h
  · rename_i hkept
    rw [not_or] at hkept
    split
    · split
      · exact fun name hname => absurd hname List.not_mem_nil
      · exact fun name hname => h name (List.dropLast_subset _ hname)
    · rename_i hdots
      intro name hname
      rcases List.mem_append.1 hname with hname | hname
      · exact h name hname
      · rw [List.mem_singleton.1 hname]
        exact ⟨hpart, hkept.1, hkept.2, hdots⟩

theorem isPlain_foldl_enter {parts : List Bytes} (hparts : ∀ part ∈ parts, Path.slash ∉ part)
    (h : l.IsPlain) : (parts.foldl enter l).IsPlain := by
  induction parts generalizing l with
  | nil => exact h
  | cons part parts ih =>
      exact ih (fun other hother => hparts other (List.mem_cons_of_mem part hother))
        (isPlain_enter (hparts part List.mem_cons_self) h)

/-! ### The walk with the stack -/

theorem reverse_components_concat (base : Base) (names : List Bytes) (name : Bytes) :
    (components ⟨base, names ++ [name]⟩).reverse =
      .name name :: (components ⟨base, names⟩).reverse := by
  simp [components]

theorem enter_up_components (l : Location) :
    Path.enter l.components.reverse .up = l.ascend.components.reverse := by
  obtain ⟨base, names⟩ := l
  rcases List.eq_nil_or_concat names with rfl | ⟨names, name, rfl⟩
  · cases base with
    | root => rfl
    | above levels =>
        rw [ascend, if_pos rfl]
        cases levels with
        | zero => rfl
        | succ levels =>
            simp only [components, Base.up, List.map_nil, List.append_nil, List.reverse_replicate]
            rfl
  · rw [List.concat_eq_append, reverse_components_concat, ascend, if_neg (by simp),
      List.dropLast_concat]
    rfl

theorem enter_of_component?_eq_none {part : Bytes} (h : Path.component? part = none)
    (l : Location) : l.enter part = l := by
  unfold Path.component? at h
  split at h
  · rename_i hkept
    exact if_pos hkept
  · split at h <;> cases h

theorem enter_components {part : Bytes} {c : Component} (h : Path.component? part = some c)
    (l : Location) : Path.enter l.components.reverse c = (l.enter part).components.reverse := by
  unfold Path.component? at h
  split at h
  · cases h
  · rename_i hkept
    rw [enter, if_neg hkept]
    split at h
    · rename_i hup
      cases h
      rw [if_pos hup]
      exact enter_up_components l
    · rename_i hname
      cases h
      rw [if_neg hname]
      exact (reverse_components_concat l.base l.names part).symm

/-- The stack holds the components on the way to where the walk is. -/
theorem foldl_enter_components (parts : List Bytes) (l : Location) :
    (parts.filterMap Path.component?).foldl Path.enter l.components.reverse =
      (parts.foldl enter l).components.reverse := by
  induction parts generalizing l with
  | nil => rfl
  | cons part parts ih =>
      cases hc : Path.component? part with
      | none =>
          rw [List.filterMap_cons_none hc, List.foldl_cons, enter_of_component?_eq_none hc]
          exact ih l
      | some c =>
          rw [List.filterMap_cons_some hc, List.foldl_cons, enter_components hc]
          exact ih (l.enter part)

/-! ### The text -/

theorem bytes_eq_of_parts {p : Path} {parts : List Bytes} (h : p.parts = parts) :
    p.bytes = [Path.slash].intercalate parts := by
  rw [← h]
  exact (List.intercalate_splitOn Path.slash).symm

theorem path_of_components_eq_nil (h : l.components = []) : l.path = Path.ofComponent .here := by
  obtain ⟨_ | levels, names⟩ := l
  · cases h
  · obtain ⟨hlevels, hnames⟩ := List.append_eq_nil_iff.1 h
    obtain rfl := List.map_eq_nil_iff.1 hnames
    obtain rfl := (List.replicate_eq_nil_iff _).1 hlevels
    rfl

theorem ofComponents_components (h : l.IsPlain) (hne : l.components ≠ []) :
    Path.ofComponents l.components = l.path := by
  obtain ⟨base, names⟩ := l
  have hnames : ∀ c ∈ names.map Component.name, c.IsStep := by
    intro c hc
    obtain ⟨name, hname, rfl⟩ := List.mem_map.1 hc
    exact h name hname
  have hbytes : (names.map Component.name).map (fun c => (Path.ofComponent c).bytes) = names := by
    rw [List.map_map]
    exact List.map_id names
  cases base with
  | root =>
      by_cases hnil : names = []
      · rw [hnil]
        rfl
      · have hparts := Path.parts_ofComponents_root hnames fun h => hnil (List.map_eq_nil_iff.1 h)
        rw [hbytes] at hparts
        refine congrArg Path.mk ((bytes_eq_of_parts hparts).trans ?_)
        exact List.intercalate_cons_of_ne_nil hnil
  | above levels =>
      have hparts := Path.parts_ofComponents_up hnames hne
      rw [hbytes] at hparts
      have hwritten : List.replicate levels [Path.dot, Path.dot] ++ names ≠ [] := by
        rw [← hparts]
        exact List.splitOn_ne_nil Path.slash _
      rw [path, text]
      exact congrArg Path.mk ((bytes_eq_of_parts hparts).trans (if_neg hwritten).symm)

end Location

namespace Path

variable {p q : Path}

/-- The location that a path names. -/
def location (p : Path) : Location :=
  Location.start.follow p

theorem isPlain_location (p : Path) : p.location.IsPlain := by
  apply Location.isPlain_foldl_enter fun _ hpart => notMem_of_mem_splitOn hpart
  split <;> exact fun _ hname => absurd hname List.not_mem_nil

theorem base_location_eq_root_iff (p : Path) :
    p.location.base = .root ↔ p.isAbsolute = true := by
  rw [location, Location.follow, Location.base_foldl_enter_eq_root_iff]
  cases p.isAbsolute with
  | true => exact iff_of_true rfl rfl
  | false => exact iff_of_false (by decide) Bool.false_ne_true

theorem place_eq (p : Path) : p.place = p.location.components.reverse := by
  have hopening : p.opening.foldl enter [] =
      (if p.isAbsolute then Location.root else .start).components.reverse := by
    unfold opening
    cases p.isAbsolute with
    | true => rfl
    | false =>
        rw [if_neg Bool.false_ne_true, if_neg Bool.false_ne_true]
        split <;> rfl
  rw [place, components_eq, List.foldl_append, hopening]
  exact Location.foldl_enter_components p.parts _

/-- Normalising writes the text of the location. -/
theorem normalize_eq_path_location (p : Path) : p.normalize = p.location.path := by
  rw [normalize_eq, place_eq, List.reverse_reverse]
  split
  · rename_i hnone
    exact (Location.path_of_components_eq_nil (List.reverse_eq_nil_iff.1 hnone)).symm
  · rename_i hsome
    exact Location.ofComponents_components (isPlain_location p)
      fun hnone => hsome (congrArg List.reverse hnone)

theorem head?_parts (h : p.isAbsolute = true) : p.parts.head? = some [] := by
  rw [isAbsolute, decide_eq_true_eq] at h
  obtain ⟨bytes, hbytes⟩ := List.head?_eq_some_iff.1 h
  rw [parts, hbytes, List.splitOn_cons_eq_if_modifyHead]
  simp

theorem location_path_root {names : List Bytes}
    (h : ∀ name ∈ names, (Component.name name).IsStep) :
    (⟨.root, names⟩ : Location).path.location = ⟨.root, names⟩ := by
  have hparts : (⟨.root, names⟩ : Location).path.parts =
      [] :: ([slash].intercalate names).splitOn slash := by
    rw [parts, Location.path, Location.text, List.splitOn_cons_eq_if_modifyHead]
    exact if_pos rfl
  rw [location, Location.follow, hparts, List.foldl_cons]
  cases names with
  | nil => rfl
  | cons name names =>
      rw [List.splitOn_intercalate slash (fun part hpart => (h part hpart).1)
        (List.cons_ne_nil name names), Location.foldl_enter_of_isStep h]
      rfl

theorem location_path_above {levels : Nat} {names : List Bytes}
    (h : ∀ name ∈ names, (Component.name name).IsStep) :
    (⟨.above levels, names⟩ : Location).path.location = ⟨.above levels, names⟩ := by
  by_cases hnone : List.replicate levels [dot, dot] ++ names = []
  · obtain ⟨hlevels, rfl⟩ := List.append_eq_nil_iff.1 hnone
    obtain rfl := (List.replicate_eq_nil_iff _).1 hlevels
    rfl
  · have hwritten : ∀ part ∈ List.replicate levels [dot, dot] ++ names,
        slash ∉ part ∧ part ≠ [] := by
      intro part hpart
      rcases List.mem_append.1 hpart with hpart | hpart
      · rw [List.eq_of_mem_replicate hpart]
        decide
      · exact ⟨(h part hpart).1, (h part hpart).2.1⟩
    have hparts : (⟨.above levels, names⟩ : Location).path.parts =
        List.replicate levels [dot, dot] ++ names := by
      have htext : (⟨.above levels, names⟩ : Location).path.bytes =
          [slash].intercalate (List.replicate levels [dot, dot] ++ names) := if_neg hnone
      rw [parts, htext]
      exact List.splitOn_intercalate slash (fun part hpart => (hwritten part hpart).1) hnone
    have hrelative : (⟨.above levels, names⟩ : Location).path.isAbsolute = false := by
      rw [Bool.eq_false_iff]
      intro habsolute
      have hhead := head?_parts habsolute
      rw [hparts] at hhead
      exact (hwritten [] (List.mem_of_head? hhead)).2 rfl
    rw [location, Location.follow, hparts, hrelative, if_neg Bool.false_ne_true,
      List.foldl_append, Location.start, Location.foldl_enter_up 0 levels, Nat.zero_add,
      Location.foldl_enter_of_isStep h, List.nil_append]

/-- The text of a location names that location. -/
theorem location_path {l : Location} (h : l.IsPlain) : l.path.location = l := by
  obtain ⟨_ | levels, names⟩ := l
  · exact location_path_root h
  · exact location_path_above h

theorem location_normalize (p : Path) : p.normalize.location = p.location := by
  rw [normalize_eq_path_location, location_path (isPlain_location p)]

theorem normalize_of_location_eq (h : p.location = q.location) : p.normalize = q.normalize := by
  rw [normalize_eq_path_location, normalize_eq_path_location, h]

/-- The normal spelling of a path, whatever its bytes, is the text of the location that it names: it
is absolute or relative as the path is, has itself as its normal spelling, and is shared by exactly
those paths that name the same location. -/
theorem normalize_spells_location (p : Path) :
    p.normalize.bytes = p.location.text ∧
      p.normalize.isAbsolute = p.isAbsolute ∧
      p.normalize.normalize.bytes = p.normalize.bytes ∧
      ∀ q : Path, p.normalize.bytes = q.normalize.bytes ↔ p.location = q.location := by
  refine ⟨?_, ?_, ?_, fun q => ⟨fun h => ?_, fun h => ?_⟩⟩
  · rw [normalize_eq_path_location]
    rfl
  · rw [Bool.eq_iff_iff, ← base_location_eq_root_iff, location_normalize,
      base_location_eq_root_iff]
  · rw [normalize_of_location_eq (location_normalize p)]
  · have hsame : p.normalize = q.normalize := congrArg Path.mk h
    rw [← location_normalize p, hsame, location_normalize q]
  · rw [normalize_of_location_eq h]

/-- A way back undoes a name, counts above the start, and leads nowhere from the root. -/
example : (ofString "a/.././..//b/c/../d/").location = ⟨.above 1, [[0x62], [0x64]]⟩ ∧
    (ofString "/../a/").location = ⟨.root, [[0x61]]⟩ := by
  decide

end Path

end BusLocator
