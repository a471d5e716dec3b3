import BusLocator.FileTree
import BusLocator.Host
import BusLocator.Proofs.Path.Joining
/-!
# Spellings of one path

Two spellings are the same path when they have the same components. Then they lead to the same place
from everywhere (`follow_congr`), since the parts that are not components lead nowhere. So seen from
the working directory they have one normal spelling, and so has whatever is joined to them.
-/

namespace BusLocator

/-- Whether what is at a path does not depend on how the path is spelled. -/
def FileSystem.IgnoresSpelling (files : FileSystem) : Prop :=
  ∀ p q : Path, p.same q = true → files.isPresent p = files.isPresent q

namespace Path

variable {p q : Path}

theorem same_iff : p.same q = true ↔ p.components = q.components :=
  decide_eq_true_iff

theorem same_eq_false_iff : p.same q = false ↔ p.components ≠ q.components :=
  decide_eq_false_iff_not

theorem same_self (p : Path) : p.same p = true :=
  same_iff.2 rfl

theorem same_comm (p q : Path) : p.same q = q.same p := by
  rw [Bool.eq_iff_iff, same_iff, same_iff, eq_comm]

/-- Behind the opening, a path has all components that can stand anywhere, and no others. -/
theorem steps_eq_filter (p : Path) :
    p.steps = p.components.filter fun c => c ≠ .root ∧ c ≠ .here := by
  have hkept : p.steps.filter (fun c => c ≠ .root ∧ c ≠ .here) = p.steps := by
    rw [List.filter_eq_self]
    intro c hc
    have hstep := isStep_of_mem_steps hc
    cases c with
    | root => exact hstep.elim
    | here => exact hstep.elim
    | up => rfl
    | name bytes => rfl
  rw [components_eq, List.filter_append, hkept]
  rcases p.opening_cases with hopening | hopening | ⟨hopening, -⟩ <;> rw [hopening] <;> rfl

theorem bytes_ofComponent {part : Bytes} {c : Component} (h : component? part = some c) :
    (ofComponent c).bytes = part := by
  unfold component? at h
  split at h
  · contradiction
  · split at h
    · rename_i hup
      obtain rfl := Option.some.inj h
      exact hup.symm
    · obtain rfl := Option.some.inj h
      rfl

end Path

namespace Location

variable {p q : Path}

theorem foldl_enter_filterMap (parts : List Bytes) (l : Location) :
    parts.foldl enter l = (parts.filterMap Path.component?).foldl
      (fun l c => l.enter (Path.ofComponent c).bytes) l := by
  induction parts generalizing l with
  | nil => rfl
  | cons part parts ih =>
      cases hc : Path.component? part with
      | none =>
          rw [List.filterMap_cons_none hc, List.foldl_cons, enter_of_component?_eq_none hc]
          exact ih l
      | some c =>
          rw [List.filterMap_cons_some hc, List.foldl_cons, List.foldl_cons, Path.bytes_ofComponent hc]
          exact ih (l.enter part)

theorem follow_congr (h : p.same q = true) (l : Location) : l.follow p = l.follow q := by
  rw [Path.same_iff] at h
  have habsolute : p.isAbsolute = q.isAbsolute := by
    rw [Bool.eq_iff_iff, Path.isAbsolute_iff, Path.isAbsolute_iff, h]
  have hsteps : p.parts.filterMap Path.component? = q.parts.filterMap Path.component? := by
    have hp := p.steps_eq_filter
    rw [h, ← q.steps_eq_filter] at hp
    exact hp
  rw [follow, follow, foldl_enter_filterMap, foldl_enter_filterMap q.parts, habsolute, hsteps]

theorem follow_below_congr (h : ∀ l : Location, l.follow p = l.follow q) (names : List String)
    (l : Location) : l.follow (p.below names) = l.follow (q.below names) := by
  induction names generalizing p q with
  | nil => exact h l
  | cons name names ih =>
      apply ih
      intro l
      rw [follow_join, follow_join, h]

end Location

variable {p q : Path}

theorem Host.locate_below_congr (host : Host) (h : p.same q = true) (names : List String) :
    host.locate (p.below names) = host.locate (q.below names) := by
  have hfollow : ∀ l : Location, l.follow (p.below names) = l.follow (q.below names) :=
    Location.follow_below_congr (Location.follow_congr h) names
  rw [Host.locate, Host.locate, Path.normalizeFrom_eq_path, Path.normalizeFrom_eq_path, hfollow]

theorem Host.locate_congr (host : Host) (h : p.same q = true) : host.locate p = host.locate q :=
  host.locate_below_congr h []

theorem FileTree.ignoresSpelling_asWritten (tree : FileTree) : tree.asWritten.IgnoresSpelling := by
  intro p q h
  rw [Path.same_iff] at h
  exact congrArg (fun cs => (tree.entryAt cs).isPresent) h

end BusLocator
