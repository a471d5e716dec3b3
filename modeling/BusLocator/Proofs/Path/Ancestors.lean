import BusLocator.Proofs.Path.Sameness
/-!
# What lies above a path

Above a path lie its ancestors, other than the path itself. They are the path's lineage, spelled out,
and reading such a spelling gives the member of the lineage back. So one path lies above another
exactly if its components are in the lineage of what the other lies in, however either of them is
spelled (`isAbove_iff_mem_lineage`).
-/

namespace BusLocator

namespace FileTree

/-! ### Lineages -/

theorem mem_lineage_iff {cs ds : List Component} : cs ∈ lineage ds ↔ cs ≠ [] ∧ cs <+: ds := by
  constructor
  · intro hmem
    obtain ⟨n, hn, rfl⟩ := List.mem_map.1 hmem
    rw [List.mem_range] at hn
    refine ⟨?_, List.take_prefix _ _⟩
    rw [← List.length_pos_iff, List.length_take]
    omega
  · rintro ⟨hne, hstart⟩
    have hpos := List.length_pos_iff.2 hne
    have hle := hstart.length_le
    refine List.mem_map.2 ⟨cs.length - 1, List.mem_range.2 (by omega), ?_⟩
    rw [Nat.sub_add_cancel hpos]
    exact (List.prefix_iff_eq_take.1 hstart).symm

/-- Without its last component, a list has the same lineage but for itself. -/
theorem mem_lineage_dropLast_iff {cs ds : List Component} :
    cs ∈ lineage ds.dropLast ↔ cs ∈ lineage ds ∧ cs ≠ ds := by
  rw [mem_lineage_iff, mem_lineage_iff, and_assoc, and_congr_right_iff]
  intro hne
  constructor
  · intro hstart
    refine ⟨hstart.trans ds.dropLast_prefix, ?_⟩
    rintro rfl
    have hle := hstart.length_le
    have hpos := List.length_pos_iff.2 hne
    rw [List.length_dropLast] at hle
    omega
  · rintro ⟨⟨rest, rfl⟩, hproper⟩
    have hrest : rest ≠ [] := by
      rintro rfl
      exact hproper (List.append_nil cs).symm
    rw [List.dropLast_append_of_ne_nil hrest]
    exact List.prefix_append cs _

end FileTree

namespace Path

open FileTree

variable {p q : Path}

/-! ### Ancestors -/

/-- Whether a path is one of another's ancestors, and not the same path. -/
def IsAbove (q p : Path) : Prop :=
  p.same q = false ∧ ∃ ancestor ∈ p.ancestors, ancestor.same q = true

instance (q p : Path) : Decidable (q.IsAbove p) :=
  inferInstanceAs (Decidable (_ ∧ _))

theorem contains_iff : p.contains q = true ↔ p.components <+: q.components :=
  List.isPrefixOf_iff_prefix

theorem contains_eq_false_iff : p.contains q = false ↔ ¬ p.components <+: q.components := by
  rw [← contains_iff, Bool.not_eq_true]

theorem ancestors_eq (p : Path) : p.ancestors = (lineage p.components).reverse.map ofComponents := by
  apply List.ext_getElem
  · simp [ancestors, lineage]
  · intro n hn _
    have hlt : n < p.components.length := by simpa [ancestors] using hn
    have hlength : p.components.length - n = p.components.length - 1 - n + 1 := by omega
    simp [ancestors, lineage, hlength]

theorem exists_ancestor_iff {cs : List Component} :
    (∃ ancestor ∈ p.ancestors, ancestor.components = cs) ↔ cs ∈ lineage p.components := by
  have hread : ∀ ds ∈ lineage p.components, (ofComponents ds).components = ds := by
    intro ds hds
    exact components_ofComponents (p.isSpelled_components.of_prefix (mem_lineage_iff.1 hds).2)
  rw [ancestors_eq]
  constructor
  · rintro ⟨ancestor, hmem, rfl⟩
    obtain ⟨ds, hds, rfl⟩ := List.mem_map.1 hmem
    rw [List.mem_reverse] at hds
    rwa [hread ds hds]
  · intro hcs
    exact ⟨ofComponents cs, List.mem_map_of_mem (List.mem_reverse.2 hcs), hread cs hcs⟩

theorem isAbove_iff_mem_lineage : q.IsAbove p ↔ q.components ∈ lineage p.components.dropLast := by
  have hancestor : (∃ ancestor ∈ p.ancestors, ancestor.same q = true) ↔
      q.components ∈ lineage p.components := by
    simp only [same_iff]
    exact exists_ancestor_iff
  rw [IsAbove, hancestor, same_eq_false_iff, ne_comm, mem_lineage_dropLast_iff, and_comm]

end Path

end BusLocator
