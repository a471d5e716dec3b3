import BusLocator.Proofs.FileTree.Entries
import BusLocator.Proofs.Path.Ancestors
/-!
# The shape of a tree

A directory or a file is added together with the directories above it, and is removed together with
all that lies below it. So above a directory or a file there are only directories: every change keeps
this (`IsTree.apply`), and so every tree that changes make of the empty one is like this. What an
addition and a removal change at the paths is what `Gained` and `Lost` say, and nothing more.
-/

namespace BusLocator.FileTree

variable {tree : FileTree}

/-- Whether everything above a directory or a file is a directory. -/
structure IsTree (tree : FileTree) : Prop where
  above_directory : ∀ inner ∈ tree.directories, ∀ outer ∈ lineage inner, outer ∈ tree.directories
  above_file : ∀ inner content, tree.files.lookup inner = some content →
    ∀ outer ∈ lineage inner.dropLast, outer ∈ tree.directories

/-! ### One change -/

theorem mem_lineage_trans {outer middle inner : List Component} (h : outer ∈ lineage middle)
    (h' : middle ∈ lineage inner) : outer ∈ lineage inner := by
  rw [mem_lineage_iff] at h h' ⊢
  exact ⟨h.1, h.2.trans h'.2⟩

/-- Directories can be added from the outermost to the innermost. -/
theorem IsTree.addDirectories (h : tree.IsTree) (cs : List Component) :
    (tree.addDirectories (lineage cs)).IsTree where
  above_directory inner hinner outer houter := by
    rw [mem_addDirectories_iff] at hinner ⊢
    rcases hinner with hold | hnew
    · exact .inl (h.above_directory inner hold outer houter)
    · exact .inr (mem_lineage_trans houter hnew)
  above_file inner content hinner outer houter :=
    tree.mem_addDirectories_iff.2 (.inl (h.above_file inner content hinner outer houter))

theorem IsTree.addFile (h : tree.IsTree) (p : Path) (content : Bytes) :
    (tree.addFile p content).IsTree where
  above_directory := (h.addDirectories p.components.dropLast).above_directory
  above_file inner held hinner outer houter := by
    rw [mem_addFile_iff]
    by_cases hsame : inner = p.components
    · rw [hsame] at houter
      exact .inr houter
    · rw [tree.lookup_addFile_of_ne hsame] at hinner
      exact .inl (h.above_file inner held hinner outer houter)

/-- What is left has nothing above it that goes: below that it would go as well. -/
theorem IsTree.remove (h : tree.IsTree) (p : Path) : (tree.remove p).IsTree where
  above_directory inner hinner outer houter := by
    rw [mem_remove_iff] at hinner ⊢
    refine ⟨h.above_directory inner hinner.1 outer houter, fun hbelow => hinner.2 ?_⟩
    exact hbelow.trans (mem_lineage_iff.1 houter).2
  above_file inner content hinner outer houter := by
    rw [lookup_remove, Option.ite_none_left_eq_some] at hinner
    rw [mem_remove_iff]
    refine ⟨h.above_file inner content hinner.2 outer houter, fun hbelow => hinner.1 ?_⟩
    exact hbelow.trans (mem_lineage_iff.1 (mem_lineage_dropLast_iff.1 houter).1).2

theorem IsTree.apply (h : tree.IsTree) (change : Change) : (tree.apply change).IsTree := by
  cases change with
  | addDirectory path => exact h.addDirectories path.components
  | addFile path content => exact h.addFile path content
  | remove path => exact h.remove path

/-! ### All changes -/

theorem isTree_empty : empty.IsTree where
  above_directory _ hinner := absurd hinner List.not_mem_nil
  above_file _ _ hinner := nomatch hinner

theorem IsTree.changed (h : tree.IsTree) (changes : List Change) : (tree.changed changes).IsTree := by
  induction changes generalizing tree with
  | nil => exact h
  | cons change changes ih => exact ih (h.apply change)

/-! ### What the paths show -/

/-- Whether a directory is at a path. A file at the same path does not take it away. -/
def HasDirectory (tree : FileTree) (p : Path) : Prop :=
  p.components ∈ tree.directories

/-- How a tree compares with what it was before a file with some text was put at a path: the file is
there under every spelling of the path, all that lies above it is a directory, and every other file
is as it was. -/
structure Gained (before after : FileTree) (p : Path) (text : String) : Prop where
  isFile : ∀ q, p.same q = true → after.asWritten.isFile q = true
  readText : ∀ q, p.same q = true → after.asWritten.readText q = .ok text
  isPresent_above : ∀ q, q.IsAbove p → after.asWritten.isPresent q = true
  hasDirectory_iff : ∀ q, after.HasDirectory q ↔ before.HasDirectory q ∨ q.IsAbove p
  isFile_other : ∀ q, p.same q = false →
    after.asWritten.isFile q = before.asWritten.isFile q
  entry_other : ∀ q, p.same q = false → before.asWritten.isFile q = true →
    after.asWritten.entry q = before.asWritten.entry q

/-- How a tree compares with what it was before a path was removed: nothing is left of the path and of
all that lies below it, and everything else is as it was. -/
structure Lost (before after : FileTree) (p : Path) : Prop where
  isPresent_below : ∀ q, p.contains q = true → after.asWritten.isPresent q = false
  readText_below : ∀ q, p.contains q = true → after.asWritten.readText q = .error .notFound
  hasDirectory_iff : ∀ q, after.HasDirectory q ↔ before.HasDirectory q ∧ p.contains q = false
  entry_other : ∀ q, p.contains q = false → after.asWritten.entry q = before.asWritten.entry q

theorem IsTree.hasDirectory_of_isAbove (h : tree.IsTree) {p q : Path}
    (hp : tree.asWritten.isPresent p = true) (hq : q.IsAbove p) : tree.HasDirectory q := by
  rw [Path.isAbove_iff_mem_lineage] at hq
  rcases (tree.isPresent_entryAt_iff p.components).1 hp with ⟨content, hfile⟩ | hdir
  · exact h.above_file _ content hfile _ hq
  · exact h.above_directory _ hdir _ (mem_lineage_dropLast_iff.1 hq).1

theorem entryAt_addFile_self (tree : FileTree) (p : Path) (content : Bytes) :
    (tree.addFile p content).entryAt p.components = .file content := by
  rw [entryAt, lookup_addFile_self]

theorem isFile_addFile_of_ne (tree : FileTree) {p : Path} {cs : List Component}
    (h : cs ≠ p.components) (content : Bytes) :
    ((tree.addFile p content).entryAt cs).isFile = (tree.entryAt cs).isFile := by
  rw [Bool.eq_iff_iff, isFile_entryAt_iff, isFile_entryAt_iff, tree.lookup_addFile_of_ne h]

theorem entryAt_addFile_of_isFile (tree : FileTree) {p : Path} {cs : List Component}
    (h : cs ≠ p.components) (hfile : (tree.entryAt cs).isFile = true) (content : Bytes) :
    (tree.addFile p content).entryAt cs = tree.entryAt cs := by
  obtain ⟨held, hheld⟩ := (tree.isFile_entryAt_iff cs).1 hfile
  simp only [entryAt, tree.lookup_addFile_of_ne h, hheld]

theorem gained_addFile (tree : FileTree) (p : Path) {content : Bytes} {text : String}
    (htext : Utf8.string? content = some text) : Gained tree (tree.addFile p content) p text := by
  have hself : ∀ q : Path, p.same q = true →
      (tree.addFile p content).asWritten.entry q = .file content := by
    intro q hq
    rw [Path.same_iff] at hq
    exact (congrArg _ hq.symm).trans (tree.entryAt_addFile_self p content)
  have hother : ∀ q : Path, p.same q = false → q.components ≠ p.components :=
    fun q hq => (Path.same_eq_false_iff.1 hq).symm
  have hdirs : ∀ q, (tree.addFile p content).HasDirectory q ↔ tree.HasDirectory q ∨ q.IsAbove p := by
    intro q
    rw [HasDirectory, mem_addFile_iff, Path.isAbove_iff_mem_lineage, HasDirectory]
  refine ⟨?_, ?_, ?_, hdirs, ?_, ?_⟩
  · intro q hq
    rw [FileSystem.isFile, hself q hq, Entry.isFile]
  · intro q hq
    rw [FileSystem.readText, hself q hq, Entry.readText, htext]
  · intro q hq
    exact (isPresent_entryAt_iff _ q.components).2 (.inr ((hdirs q).2 (.inr hq)))
  · intro q hq
    exact tree.isFile_addFile_of_ne (hother q hq) content
  · intro q hq hfile
    exact tree.entryAt_addFile_of_isFile (hother q hq) hfile content

theorem entryAt_remove (tree : FileTree) (p : Path) (cs : List Component) :
    (tree.remove p).entryAt cs =
      if p.components <+: cs then .absent .notFound else tree.entryAt cs := by
  split
  · rename_i hbelow
    simp [entryAt, lookup_remove, mem_remove_iff, hbelow]
  · rename_i hbelow
    apply entryAt_congr
    · rw [lookup_remove, if_neg hbelow]
    · rw [mem_remove_iff, and_iff_left hbelow]

theorem lost_remove (tree : FileTree) (p : Path) : Lost tree (tree.remove p) p := by
  have hbelow : ∀ q : Path, p.contains q = true →
      (tree.remove p).asWritten.entry q = .absent .notFound := by
    intro q hq
    exact (tree.entryAt_remove p q.components).trans (if_pos (Path.contains_iff.1 hq))
  refine ⟨?_, ?_, ?_, ?_⟩
  · intro q hq
    rw [FileSystem.isPresent, hbelow q hq, Entry.isPresent]
  · intro q hq
    rw [FileSystem.readText, hbelow q hq, Entry.readText]
  · intro q
    rw [HasDirectory, mem_remove_iff, Path.contains_eq_false_iff, HasDirectory]
  · intro q hq
    exact (tree.entryAt_remove p q.components).trans (if_neg (Path.contains_eq_false_iff.1 hq))

/-- Whatever changes make of the empty tree, above its directories and files there are only
directories. And in every tree, an added file shows at its path, in all spellings, together with all
that lies above it, and no other file is touched; a removed path is gone with all that lies below it,
and nothing else is touched. -/
theorem changed_keeps_shape :
    (∀ (changes : List Change) (p q : Path),
      (empty.changed changes).asWritten.isPresent p = true → q.IsAbove p →
        (empty.changed changes).HasDirectory q) ∧
      (∀ (tree : FileTree) (p : Path) (content : Bytes) (text : String),
        Utf8.string? content = some text → Gained tree (tree.addFile p content) p text) ∧
      ∀ (tree : FileTree) (p : Path), Lost tree (tree.remove p) p := by
  refine ⟨?_, ?_, lost_remove⟩
  · intro changes p q hp hq
    exact (isTree_empty.changed changes).hasDirectory_of_isAbove hp hq
  · intro tree p content text htext
    exact tree.gained_addFile p htext

/-- Here `..` is a component like any other, so removing `sdk/bus.so`, with a file in it, leaves the
file at `sdk/lib/../bus.so` there, and `sdk/lib` above it. -/
theorem changed_keeps_shape_roundabout :
    let changes : List Change := [.addFile (.ofString "sdk//./lib/../bus.so") [],
      .addFile (.ofString "sdk/bus.so/old") [], .remove (.ofString "sdk//bus.so/")]
    let tree := empty.changed changes
    let p : Path := .ofString "sdk/lib/../bus.so"
    (tree.asWritten.isPresent p = true ∧ (Path.ofString "sdk//lib/").IsAbove p ∧
      tree.HasDirectory (.ofString "sdk//lib/")) ∧
    (Utf8.string? [0x6F, 0x6B] = some "ok" ∧ p.same (.ofString "sdk/lib/.././bus.so//") = true ∧
      (tree.addFile p [0x6F, 0x6B]).asWritten.readText (.ofString "sdk/lib/.././bus.so//") =
        .ok "ok") ∧
    (Path.ofString "sdk/.//").contains p = true ∧
      (tree.remove (.ofString "sdk/.//")).asWritten.isPresent p = false := by
  intro changes tree p
  obtain ⟨hshape, hgained, hlost⟩ := changed_keeps_shape
  have hpresent : tree.asWritten.isPresent p = true := by decide
  have habove : (Path.ofString "sdk//lib/").IsAbove p := by decide
  have htext : Utf8.string? [0x6F, 0x6B] = some "ok" := by decide
  have hsame : p.same (.ofString "sdk/lib/.././bus.so//") = true := by decide
  have hbelow : (Path.ofString "sdk/.//").contains p = true := by decide
  exact ⟨⟨hpresent, habove, hshape changes p _ hpresent habove⟩,
    ⟨htext, hsame, (hgained tree p _ "ok" htext).readText _ hsame⟩,
    hbelow, (hlost tree _).isPresent_below p hbelow⟩

end BusLocator.FileTree
