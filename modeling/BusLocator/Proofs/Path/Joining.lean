import BusLocator.Proofs.Path.Location
/-!
# Normalising early or late

Joined paths are followed one after the other (`follow_join`), whether the second starts at the
root, is empty or leads back out of the first. A normal spelling names the same location as the
path, so it makes no difference whether a path is normalised before another one is joined to it or
only after that. Looking from the working directory is following a path from the location of that
directory, and what is found there starts at the root, so looking at it again changes nothing.
-/

namespace BusLocator

namespace Path

variable {p q : Path}

theorem join_of_isAbsolute (hq : q.isAbsolute = true) : p.join q = q :=
  if_pos hq

theorem isAbsolute_join_of_not_isAbsolute (hq : q.isAbsolute = false) :
    (p.join q).isAbsolute = p.isAbsolute := by
  by_cases hp : p.bytes = []
  · rw [join_of_nil hp, hq, isAbsolute, hp]
    rfl
  · obtain ⟨b, bytes, hbytes⟩ := List.exists_cons_of_ne_nil hp
    rw [join, if_neg (by simp [hq])]
    split <;> simp [isAbsolute, hbytes]

/-- What is written between the separators of joined paths is walked one after the other. -/
theorem foldl_parts_join (hq : q.isAbsolute = false) (l : Location) :
    (p.join q).parts.foldl Location.enter l =
      q.parts.foldl Location.enter (p.parts.foldl Location.enter l) := by
  by_cases hp : p.bytes = []
  · have hparts : p.parts = [[]] := by
      rw [parts, hp]
      rfl
    rw [join_of_nil hp, hparts]
    rfl
  · obtain ⟨stem, hjoin, hstem⟩ := exists_stem_join hp hq
    rw [parts, hjoin, List.splitOn_append_cons_self, List.foldl_append]
    rcases hstem with rfl | hstem
    · rfl
    · -- the empty part behind a separator at the end leads nowhere
      rw [parts, parts, hstem, List.splitOn_append_cons_self, List.foldl_append]
      rfl

end Path

namespace Location

open BusLocator.Path

variable {p : Path}

theorem follow_of_isAbsolute (hp : p.isAbsolute = true) (l : Location) :
    l.follow p = p.location := by
  rw [location, follow, follow, if_pos hp, if_pos hp]

theorem follow_join (l : Location) (p q : Path) : l.follow (p.join q) = (l.follow p).follow q := by
  cases hq : q.isAbsolute with
  | true => rw [join_of_isAbsolute hq, follow_of_isAbsolute hq, follow_of_isAbsolute hq]
  | false =>
      rw [follow, follow, follow, hq, isAbsolute_join_of_not_isAbsolute hq, foldl_parts_join hq]
      rfl

def ofWorkingDir (workingDir : Option Path) : Location :=
  (workingDir.map Path.location).getD start

end Location

namespace Path

variable {workingDir : Option Path}

theorem location_join (p q : Path) : (p.join q).location = p.location.follow q :=
  Location.start.follow_join p q

theorem location_normalizeFrom (workingDir : Option Path) (p : Path) :
    (normalizeFrom workingDir p).location = (Location.ofWorkingDir workingDir).follow p := by
  unfold normalizeFrom
  split
  · rename_i habsolute
    rw [location_normalize, Location.follow_of_isAbsolute habsolute]
  · cases workingDir with
    | none => exact location_normalize p
    | some dir => exact (location_normalize _).trans (location_join dir p)

theorem exists_normalizeFrom_eq (workingDir : Option Path) (p : Path) :
    ∃ q : Path, normalizeFrom workingDir p = q.normalize := by
  unfold normalizeFrom
  split
  · exact ⟨p, rfl⟩
  · cases workingDir with
    | none => exact ⟨p, rfl⟩
    | some dir => exact ⟨dir.join p, rfl⟩

theorem normalizeFrom_eq_path (workingDir : Option Path) (p : Path) :
    normalizeFrom workingDir p = ((Location.ofWorkingDir workingDir).follow p).path := by
  obtain ⟨q, hq⟩ := exists_normalizeFrom_eq workingDir p
  rw [← location_normalizeFrom, hq, location_normalize, normalize_eq_path_location]

/-- What was seen from the working directory leads to the same place when it is seen from there
again. -/
theorem follow_normalizeFrom (h : ∀ dir ∈ workingDir, dir.isAbsolute = true) (p : Path) :
    (Location.ofWorkingDir workingDir).follow (normalizeFrom workingDir p) =
      (Location.ofWorkingDir workingDir).follow p := by
  cases workingDir with
  | none => exact location_normalizeFrom none p
  | some dir =>
      have habsolute := isAbsolute_normalizeFrom (h dir rfl) p
      rw [Location.follow_of_isAbsolute habsolute, location_normalizeFrom]

/-- Normalising a path before another one is joined to it changes nothing about the normal spelling
of both together, whether they are taken as they are or as seen from a working directory, or from
nowhere because there is none. So a path that was seen from there stays as it is. -/
theorem normalizeFrom_join_normalizeFrom (p q : Path) :
    (p.join q).normalize = (p.normalize.join q).normalize ∧
      ∀ workingDir : Option Path, (∀ dir ∈ workingDir, dir.isAbsolute = true) →
        normalizeFrom workingDir (p.join q) =
            normalizeFrom workingDir ((normalizeFrom workingDir p).join q) ∧
          normalizeFrom workingDir (normalizeFrom workingDir p) = normalizeFrom workingDir p := by
  refine ⟨?_, fun workingDir h => ⟨?_, ?_⟩⟩
  · apply normalize_of_location_eq
    rw [location_join, location_join, location_normalize]
  · rw [normalizeFrom_eq_path, normalizeFrom_eq_path workingDir ((normalizeFrom _ p).join q),
      Location.follow_join, Location.follow_join, follow_normalizeFrom h]
  · rw [normalizeFrom_eq_path, follow_normalizeFrom h, ← normalizeFrom_eq_path]

/-- The second path leads out of the first and above its start. -/
theorem normalizeFrom_join_normalizeFrom_upward :
    let p := ofString "../a/./b//"
    let q := ofString "../../../c"
    let workingDir := some (ofString "/w/x")
    (∀ dir ∈ workingDir, dir.isAbsolute = true) ∧
      (p.normalize.join q).normalize = ofString "../../c" ∧
      normalizeFrom workingDir ((normalizeFrom workingDir p).join q) = ofString "/c" := by
  intro p q workingDir
  have hdir : ∀ dir ∈ workingDir, dir.isAbsolute = true := by decide
  obtain ⟨hplain, hseen⟩ := normalizeFrom_join_normalizeFrom p q
  refine ⟨hdir, ?_, ?_⟩
  · rw [← hplain]
    decide
  · rw [← (hseen workingDir hdir).1]
    decide

end Path

end BusLocator
