import BusLocator.Locator.Session
/-!
# What a tree holds

The entry at a path is read off two tables, so a change shows at the components it is about and
nowhere else. Adding directories and files therefore never takes anything away (`grows_changed`), and
a file holds the same text until it is written (`readText_changed`).
-/

namespace BusLocator

/-- Whatever was there is still there, and a file is still a file. -/
structure FileSystem.Grows (files files' : FileSystem) : Prop where
  isPresent : ∀ p, files.isPresent p = true → files'.isPresent p = true
  isFile : ∀ p, files.isFile p = true → files'.isFile p = true

def Change.IsAddition : Change → Prop
  | .addDirectory _ | .addFile _ _ => True
  | .remove _ => False

def Change.Writes (p : Path) : Change → Prop
  | .addFile q _ => q.same p = true
  | _ => False

theorem FileSystem.Grows.refl (files : FileSystem) : files.Grows files :=
  ⟨fun _ h => h, fun _ h => h⟩

theorem FileSystem.Grows.trans {first second third : FileSystem} (h : first.Grows second)
    (h' : second.Grows third) : first.Grows third :=
  ⟨fun p hp => h'.isPresent p (h.isPresent p hp), fun p hp => h'.isFile p (h.isFile p hp)⟩

namespace FileTree

variable (tree : FileTree)

def changed (changes : List Change) : FileTree :=
  changes.foldl FileTree.apply tree

/-! ### Entries -/

theorem isFile_entryAt_iff (cs : List Component) :
    (tree.entryAt cs).isFile = true ↔ ∃ content, tree.files.lookup cs = some content := by
  unfold entryAt
  split
  · rename_i content hfile
    simp [Entry.isFile, hfile]
  · rename_i hnone
    split <;> simp [Entry.isFile, hnone]

theorem isPresent_entryAt_iff (cs : List Component) :
    (tree.entryAt cs).isPresent = true ↔
      (∃ content, tree.files.lookup cs = some content) ∨ cs ∈ tree.directories := by
  unfold entryAt
  split
  · rename_i content hfile
    simp [Entry.isPresent, hfile]
  · split <;> simp [Entry.isPresent, *]

theorem readText_asWritten (p : Path) :
    (tree.asWritten.readText p).toOption =
      (tree.files.lookup p.components).bind Utf8.string? := by
  show ((tree.entryAt p.components).readText).toOption = _
  unfold entryAt
  split
  · rename_i content hfile
    simp only [Entry.readText, hfile, Option.bind_some]
    cases Utf8.string? content <;> rfl
  · rename_i hnone
    rw [hnone]
    split <;> rfl

theorem entryAt_congr {tree tree' : FileTree} {cs : List Component}
    (hfile : tree'.files.lookup cs = tree.files.lookup cs)
    (hdir : cs ∈ tree'.directories ↔ cs ∈ tree.directories) :
    tree'.entryAt cs = tree.entryAt cs := by
  simp only [entryAt, hfile, hdir]

/-! ### What a change does to the tables -/

theorem lookup_filter (keeps : List Component → Bool) (cs : List Component)
    (entries : List (List Component × Bytes)) :
    (entries.filter fun entry => keeps entry.1).lookup cs =
      if keeps cs then entries.lookup cs else none := by
  induction entries with
  | nil => simp
  | cons entry entries ih =>
      obtain ⟨name, content⟩ := entry
      rw [List.filter_cons, List.lookup_cons]
      by_cases hname : cs = name
      · subst hname
        cases hkept : keeps cs <;> simp [hkept, ih]
      · have hkey : (cs == name) = false := by simpa using hname
        cases keeps name <;> simp [List.lookup_cons, hkey, ih]

theorem mem_addDirectories_iff {dirs : List (List Component)} {cs : List Component} :
    cs ∈ (tree.addDirectories dirs).directories ↔ cs ∈ tree.directories ∨ cs ∈ dirs := by
  by_cases hold : cs ∈ tree.directories <;> simp [addDirectories, hold]

theorem mem_addFile_iff {p : Path} {content : Bytes} {cs : List Component} :
    cs ∈ (tree.addFile p content).directories ↔
      cs ∈ tree.directories ∨ cs ∈ lineage p.components.dropLast :=
  tree.mem_addDirectories_iff

theorem lookup_addFile_self (p : Path) (content : Bytes) :
    (tree.addFile p content).files.lookup p.components = some content := by
  show List.lookup p.components ((p.components, content) :: _) = _
  rw [List.lookup_cons, beq_self_eq_true]

theorem lookup_addFile_of_ne {p : Path} {cs : List Component} (h : cs ≠ p.components)
    (content : Bytes) : (tree.addFile p content).files.lookup cs = tree.files.lookup cs := by
  have hkey : (cs == p.components) = false := by simpa using h
  show List.lookup cs ((p.components, content) :: tree.files.filter (·.1 ≠ p.components)) = _
  rw [List.lookup_cons, hkey]
  exact (lookup_filter (· ≠ p.components) cs tree.files).trans (if_pos (by simpa using h))

theorem mem_remove_iff {p : Path} {cs : List Component} :
    cs ∈ (tree.remove p).directories ↔ cs ∈ tree.directories ∧ ¬ p.components <+: cs := by
  simp [remove, ← List.isPrefixOf_iff_prefix]

theorem lookup_remove (p : Path) (cs : List Component) :
    (tree.remove p).files.lookup cs =
      if p.components <+: cs then none else tree.files.lookup cs := by
  refine (lookup_filter (fun name => !p.components.isPrefixOf name) cs tree.files).trans ?_
  simp only [Bool.not_eq_true', ← Bool.not_eq_true, List.isPrefixOf_iff_prefix, ite_not]

/-! ### Trees that grow -/

theorem grows_of_subset {tree tree' : FileTree}
    (hdirs : ∀ cs ∈ tree.directories, cs ∈ tree'.directories)
    (hfiles : ∀ cs content, tree.files.lookup cs = some content →
      ∃ content', tree'.files.lookup cs = some content') :
    tree.asWritten.Grows tree'.asWritten where
  isPresent p hp := by
    have hentry := (tree.isPresent_entryAt_iff p.components).1 hp
    apply (tree'.isPresent_entryAt_iff p.components).2
    rcases hentry with ⟨content, hcontent⟩ | hdir
    · exact .inl (hfiles _ content hcontent)
    · exact .inr (hdirs _ hdir)
  isFile p hp := by
    obtain ⟨content, hcontent⟩ := (tree.isFile_entryAt_iff p.components).1 hp
    exact (tree'.isFile_entryAt_iff p.components).2 (hfiles _ content hcontent)

theorem grows_apply {change : Change} (h : change.IsAddition) :
    tree.asWritten.Grows (tree.apply change).asWritten := by
  cases change with
  | addDirectory path =>
      apply grows_of_subset
      · intro cs hcs
        exact tree.mem_addDirectories_iff.2 (.inl hcs)
      · intro cs content hcontent
        exact ⟨content, hcontent⟩
  | addFile path content =>
      apply grows_of_subset
      · intro cs hcs
        exact tree.mem_addDirectories_iff.2 (.inl hcs)
      · intro cs held hheld
        by_cases hcs : cs = path.components
        · rw [hcs]
          exact ⟨content, tree.lookup_addFile_self path content⟩
        · exact ⟨held, (tree.lookup_addFile_of_ne hcs content).trans hheld⟩
  | remove path => exact h.elim

theorem grows_changed {changes : List Change} (h : ∀ change ∈ changes, change.IsAddition) :
    tree.asWritten.Grows (tree.changed changes).asWritten := by
  induction changes generalizing tree with
  | nil => exact .refl _
  | cons change changes ih =>
      have hfirst := tree.grows_apply (h change List.mem_cons_self)
      have hrest := ih (tree.apply change) fun c hc => h c (List.mem_cons_of_mem change hc)
      exact hfirst.trans hrest

/-! ### A file that is not written -/

theorem readText_changed {p : Path} {changes : List Change}
    (hadd : ∀ change ∈ changes, change.IsAddition) (hkept : ∀ change ∈ changes, ¬ change.Writes p) :
    ((tree.changed changes).asWritten.readText p).toOption =
      (tree.asWritten.readText p).toOption := by
  induction changes generalizing tree with
  | nil => rfl
  | cons change changes ih =>
      have hrest := ih (tree.apply change) (fun c hc => hadd c (List.mem_cons_of_mem change hc))
        fun c hc => hkept c (List.mem_cons_of_mem change hc)
      refine hrest.trans ?_
      rw [readText_asWritten, readText_asWritten]
      cases change with
      | addDirectory path => rfl
      | addFile path content =>
          have hne : p.components ≠ path.components := by
            intro hsame
            apply hkept (.addFile path content) List.mem_cons_self
            simp [Change.Writes, Path.same, hsame]
          exact congrArg (Option.bind · Utf8.string?) (tree.lookup_addFile_of_ne hne content)
      | remove path => exact (hadd _ List.mem_cons_self).elim

end FileTree

end BusLocator
