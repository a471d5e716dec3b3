import BusLocator.Proofs.Path.Sameness
import BusLocator.Proofs.Search.Candidates
import Mathlib.Data.List.Basic
import Mathlib.Data.List.Pairwise
/-!
# Libraries on the search path

Directories of the search path are collected one after the other, and a directory is left out if it
does not hold the library or is there already under some spelling. What has been collected from some
entries is described by `Collected`, which every further entry preserves (`Collected.collect`): of
each path that holds the library the first spelling is there, and they are in the order in which
they were first written. So an entry that says nothing new can stand anywhere behind the others.
-/

namespace BusLocator.Search

variable {host : Host} {platform : Platform} {entries found : List Path} {entry : Path}

/-- Whether the library is directly inside a directory, as the directory is written. -/
def Holds (host : Host) (platform : Platform) (directory : Path) : Prop :=
  host.files.isPresent (directory.join (.ofString platform.libraryName)) = true

instance (directory : Path) : Decidable (Holds host platform directory) :=
  inferInstanceAs (Decidable (_ = true))

/-- A directory that says nothing new behind some others: it does not hold the library, or is one of
those that do, perhaps in another spelling. -/
def IsIdle (host : Host) (platform : Platform) (before : List Path) (directory : Path) : Prop :=
  Holds host platform directory →
    ∃ known ∈ before, Holds host platform known ∧ known.same directory = true

theorem directories_append (parts more : List (List Char)) :
    directories (parts ++ more) = directories parts ++ directories more := by
  rw [directories, List.filter_append, List.map_append]
  rfl

theorem directories_cons {part : List Char} (h : part ≠ []) (parts : List (List Char)) :
    directories (part :: parts) = ⟨Utf8.encode part⟩ :: directories parts := by
  rw [directories, List.filter_cons_of_pos (by simpa using h), List.map_cons]
  rfl

/-! ### Collecting -/

/-- What has been collected from some entries: directories among them that hold the library, no path
twice, in the order in which they were first written, and of each path the first spelling. -/
structure Collected (host : Host) (platform : Platform) (entries found : List Path) : Prop where
  mem : ∀ p ∈ found, p ∈ entries ∧ Holds host platform p
  ordered : found.Pairwise fun p q => entries.idxOf p < entries.idxOf q ∧ p.same q = false
  covered : ∀ entry ∈ entries, Holds host platform entry → ∃ first ∈ found,
    entries.find? (fun p => p.same entry && Holds host platform p) = some first

theorem collected_nil : Collected host platform [] [] where
  mem _ h := absurd h List.not_mem_nil
  ordered := .nil
  covered _ h := absurd h List.not_mem_nil

theorem Collected.find_of_isIdle (h : Collected host platform entries found)
    (hidle : IsIdle host platform entries entry) (hholds : Holds host platform entry) :
    ∃ first ∈ found,
      entries.find? (fun p => p.same entry && Holds host platform p) = some first := by
  obtain ⟨known, hknown, hholdsKnown, hsame⟩ := hidle hholds
  have hspelling (p : Path) : p.same known = p.same entry := by
    rw [Path.same, Path.same, Path.same_iff.1 hsame]
  have hcovered := h.covered known hknown hholdsKnown
  simp only [hspelling] at hcovered
  exact hcovered

theorem collect_of_isIdle (h : Collected host platform entries found)
    (hidle : IsIdle host platform entries entry) : collect host platform found entry = found := by
  rw [collect, if_neg]
  rw [Bool.and_eq_true, not_and]
  intro hholds
  obtain ⟨first, hfirst, hfind⟩ := h.find_of_isIdle hidle hholds
  have hsame : first.same entry = true := (Bool.and_eq_true _ _ ▸ List.find?_some hfind).1
  simpa using ⟨first, hfirst, hsame⟩

theorem collect_of_differs (h : Collected host platform entries found)
    (hholds : Holds host platform entry)
    (hdiffer : ∀ p ∈ entries, Holds host platform p → p.same entry = false) :
    collect host platform found entry = found ++ [entry] := by
  rw [collect, if_pos]
  rw [Bool.and_eq_true]
  refine ⟨hholds, ?_⟩
  rw [Bool.not_eq_true', List.any_eq_false]
  intro p hp
  rw [hdiffer p (h.mem p hp).1 (h.mem p hp).2]
  exact Bool.false_ne_true

theorem Collected.idxOf_concat (h : Collected host platform entries found) (entry : Path) :
    found.Pairwise fun p q =>
      (entries ++ [entry]).idxOf p < (entries ++ [entry]).idxOf q ∧ p.same q = false := by
  refine h.ordered.imp_of_mem fun {p q} hp hq hpq => ?_
  rw [List.idxOf_append_of_mem (h.mem p hp).1, List.idxOf_append_of_mem (h.mem q hq).1]
  exact hpq

theorem Collected.pass (h : Collected host platform entries found)
    (hidle : IsIdle host platform entries entry) :
    Collected host platform (entries ++ [entry]) found where
  mem p hp := ⟨List.mem_append_left _ (h.mem p hp).1, (h.mem p hp).2⟩
  ordered := h.idxOf_concat entry
  covered other hother hholds := by
    have hfound : ∃ first ∈ found,
        entries.find? (fun p => p.same other && Holds host platform p) = some first := by
      rcases List.mem_append.1 hother with hother | hother
      · exact h.covered other hother hholds
      · rw [List.mem_singleton.1 hother] at hholds ⊢
        exact h.find_of_isIdle hidle hholds
    obtain ⟨first, hfirst, hfind⟩ := hfound
    exact ⟨first, hfirst, by rw [List.find?_append, hfind, Option.some_or]⟩

theorem Collected.concat (h : Collected host platform entries found)
    (hholds : Holds host platform entry)
    (hdiffer : ∀ p ∈ entries, Holds host platform p → p.same entry = false) :
    Collected host platform (entries ++ [entry]) (found ++ [entry]) where
  mem p hp := by
    rcases List.mem_append.1 hp with hp | hp
    · exact ⟨List.mem_append_left _ (h.mem p hp).1, (h.mem p hp).2⟩
    · rw [List.mem_singleton.1 hp]
      exact ⟨List.mem_append_right _ List.mem_cons_self, hholds⟩
  ordered := by
    have hfresh : entry ∉ entries := by
      intro hentry
      simpa [Path.same] using hdiffer entry hentry hholds
    refine List.pairwise_append.2 ⟨h.idxOf_concat entry, List.pairwise_singleton _ _, ?_⟩
    intro p hp q hq
    obtain ⟨hentry, hholdsP⟩ := h.mem p hp
    have hbefore : entries.idxOf p < entries.length := List.idxOf_lt_length_of_mem hentry
    rw [List.mem_singleton.1 hq, List.idxOf_append_of_mem hentry,
      List.idxOf_append_of_notMem hfresh]
    exact ⟨by omega, hdiffer p hentry hholdsP⟩
  covered other hother hholdsOther := by
    rcases List.mem_append.1 hother with hother | hother
    · obtain ⟨first, hfirst, hfind⟩ := h.covered other hother hholdsOther
      refine ⟨first, List.mem_append_left _ hfirst, ?_⟩
      rw [List.find?_append, hfind, Option.some_or]
    · rw [List.mem_singleton.1 hother]
      refine ⟨entry, List.mem_append_right _ List.mem_cons_self, ?_⟩
      have hnew : entries.find? (fun p => p.same entry && Holds host platform p) = none := by
        rw [List.find?_eq_none]
        intro p hp hboth
        simp only [Bool.and_eq_true, decide_eq_true_eq] at hboth
        simp [hdiffer p hp hboth.2] at hboth
      rw [List.find?_append, hnew, Option.none_or]
      simp [Path.same, hholds]

theorem Collected.collect (h : Collected host platform entries found) (entry : Path) :
    Collected host platform (entries ++ [entry]) (collect host platform found entry) := by
  by_cases hidle : IsIdle host platform entries entry
  · rw [collect_of_isIdle h hidle]
    exact h.pass hidle
  · rw [IsIdle, Classical.not_imp] at hidle
    obtain ⟨hholds, hnone⟩ := hidle
    have hdiffer : ∀ p ∈ entries, Holds host platform p → p.same entry = false := by
      intro p hp hholdsP
      rw [Bool.eq_false_iff]
      exact fun hsame => hnone ⟨p, hp, hholdsP, hsame⟩
    rw [collect_of_differs h hholds hdiffer]
    exact h.concat hholds hdiffer

theorem Collected.foldl (h : Collected host platform entries found) (more : List Path) :
    Collected host platform (entries ++ more) (more.foldl (Search.collect host platform) found) := by
  induction more generalizing entries found with
  | nil => simpa using h
  | cons entry more ih =>
      have hstep := ih (h.collect entry)
      rwa [List.append_assoc] at hstep

theorem collected_librariesOnSearchPath (host : Host) (platform : Platform) :
    Collected host platform (directories (host.environment.searchPath platform))
      (librariesOnSearchPath host platform) := by
  rw [librariesOnSearchPath, searchPathEntries_eq]
  exact collected_nil.foldl _

theorem Collected.eq_of_same (h : Collected host platform entries found) {p q : Path}
    (hp : p ∈ found) (hq : q ∈ found) (hsame : p.same q = true) : p = q := by
  have hsymm : Std.Symm fun p q : Path => p.same q = false :=
    ⟨fun p q hpq => (Path.same_comm q p).trans hpq⟩
  refine Classical.byContradiction fun hne => ?_
  have hdiffer := (h.ordered.imp And.right).forall hp hq hne
  rw [hsame] at hdiffer
  contradiction

/-! ### Spellings -/

theorem holds_congr (hfiles : host.files.IgnoresSpelling) {p q : Path} (h : p.same q = true) :
    Holds host platform p ↔ Holds host platform q := by
  have hopening : (Path.ofString platform.libraryName).opening = [] := by
    cases platform <;> decide +kernel
  have hsame : (p.join (.ofString platform.libraryName)).same
      (q.join (.ofString platform.libraryName)) = true := by
    rw [Path.same_iff, Path.components_join hopening, Path.components_join hopening,
      Path.same_iff.1 h]
  rw [Holds, Holds, hfiles _ _ hsame]

/-- The first that holds the library is the first altogether, on files that ignore spelling. -/
theorem find?_same_of_ignoresSpelling (hfiles : host.files.IgnoresSpelling)
    (hholds : Holds host platform entry) :
    entries.find? (fun p => p.same entry && Holds host platform p) =
      entries.find? (·.same entry) := by
  congr 1
  funext p
  cases hsame : p.same entry with
  | false => rfl
  | true => simpa using (holds_congr hfiles hsame).2 hholds

/-! ### Other search paths -/

section Edited

variable {env : Environment} {before after : List (List Char)}

/-- An entry that says nothing new can be put in anywhere. -/
theorem librariesOnSearchPath_of_isIdle {extra : List Char}
    (hpath : host.environment.searchPath platform = before ++ after)
    (hother : env.searchPath platform = before ++ extra :: after)
    (hextra : extra = [] ∨ IsIdle host platform (directories before) ⟨Utf8.encode extra⟩) :
    librariesOnSearchPath { host with environment := env } platform =
      librariesOnSearchPath host platform := by
  have hbefore : Collected host platform (directories before)
      ((directories before).foldl (collect host platform) []) := collected_nil.foldl _
  rw [librariesOnSearchPath, librariesOnSearchPath, searchPathEntries_eq, searchPathEntries_eq,
    hpath]
  show List.foldl (collect host platform) [] (directories (env.searchPath platform)) = _
  rw [hother, directories_append, directories_append]
  by_cases hempty : extra = []
  · subst hempty
    rfl
  · rw [directories_cons hempty, List.foldl_append, List.foldl_append, List.foldl_cons,
      collect_of_isIdle hbefore (hextra.resolve_left hempty)]

theorem firstOnSearchPath?_eq (host : Host) (platform : Platform) : firstOnSearchPath? host platform =
    (directories (host.environment.searchPath platform)).find? (Holds host platform ·) := by
  rw [firstOnSearchPath?]
  congr 1
  funext entry
  exact (Bool.decide_coe _).symm

/-- What is picked depends on the first directory only as a path. -/
theorem fromSearchPath_of_same
    (h : Option.Rel (fun p q => p.same q = true)
      (firstOnSearchPath? { host with environment := env } platform)
      (firstOnSearchPath? host platform)) :
    fromSearchPath { host with environment := env } platform = fromSearchPath host platform := by
  rw [← map_tried_onSearchPath, ← map_tried_onSearchPath]
  cases platform with
  | posix => rfl
  | windows =>
      rw [onSearchPath, onSearchPath]
      generalize firstOnSearchPath? { host with environment := env } .windows = first at h
      generalize firstOnSearchPath? host .windows = first' at h
      cases h with
      | none => rfl
      | some hsame =>
          have hbinary := host.locate_below_congr hsame ["..", "bin"]
          have hlibrary := host.locate_congr hsame
          simp only [Option.toList_some, List.map_cons, List.map_nil, Candidate.located,
            Candidate.tried, if_pos]
          rw [← hbinary, ← hlibrary]
          rfl

theorem fromSearchPath_of_spelling {part spelling : List Char}
    (hpath : host.environment.searchPath platform = before ++ part :: after)
    (hother : env.searchPath platform = before ++ spelling :: after)
    (hpart : part ≠ []) (hspelling : spelling ≠ [])
    (hsame : (Path.mk (Utf8.encode part)).same ⟨Utf8.encode spelling⟩ = true)
    (hholds : Holds host platform ⟨Utf8.encode part⟩ ↔
      Holds host platform ⟨Utf8.encode spelling⟩) :
    fromSearchPath { host with environment := env } platform = fromSearchPath host platform := by
  have hself (found : Option Path) : Option.Rel (fun p q => p.same q = true) found found := by
    cases found with
    | none => exact .none
    | some p => exact .some (Path.same_self p)
  apply fromSearchPath_of_same
  rw [firstOnSearchPath?_eq, firstOnSearchPath?_eq, hpath]
  show Option.Rel _ ((directories (env.searchPath platform)).find? (Holds host platform ·)) _
  rw [hother, directories_append, directories_append, directories_cons hpart,
    directories_cons hspelling, List.find?_append, List.find?_append]
  cases (directories before).find? (Holds host platform ·) with
  | some first => exact hself (some first)
  | none =>
      rw [Option.none_or, Option.none_or, List.find?_cons, List.find?_cons]
      by_cases h : Holds host platform ⟨Utf8.encode part⟩
      · rw [decide_eq_true h, decide_eq_true (hholds.1 h)]
        exact .some (Path.same_comm _ _ ▸ hsame)
      · rw [decide_eq_false h, decide_eq_false (mt hholds.2 h)]
        exact hself _

theorem fromSearchPath_of_holds {later : List (List Char)}
    (hpath : host.environment.searchPath platform = before ++ after)
    (hother : env.searchPath platform = before ++ later)
    (hholds : ∃ entry ∈ directories before, Holds host platform entry) :
    fromSearchPath { host with environment := env } platform = fromSearchPath host platform := by
  have hfind : ((directories before).find? (Holds host platform ·)).isSome = true := by
    simpa [List.find?_isSome] using hholds
  obtain ⟨first, hfirst⟩ := Option.isSome_iff_exists.1 hfind
  apply fromSearchPath_of_same
  rw [firstOnSearchPath?_eq, firstOnSearchPath?_eq, hpath]
  show Option.Rel _ ((directories (env.searchPath platform)).find? (Holds host platform ·)) _
  rw [hother, directories_append, directories_append, List.find?_append, List.find?_append, hfirst,
    Option.some_or, Option.some_or]
  exact .some (Path.same_self first)

end Edited

/-- Of each path on the search path that holds the library, the first spelling is listed, and nothing
else: the list has entries as they are written, not empty and with the library inside, in the order
in which they first appear and no two of them the same path. So an entry that says nothing new
changes nothing behind the others. Neither does another spelling of an entry, nor anything behind an
entry that holds the library, as far as the directory is concerned that is picked. -/
theorem librariesOnSearchPath_firstSpellings (host : Host) (platform : Platform) :
    let entries := directories (host.environment.searchPath platform)
    let found := librariesOnSearchPath host platform
    (∀ p ∈ found, p ∈ entries ∧ Holds host platform p) ∧
    (found.Pairwise fun p q => entries.idxOf p < entries.idxOf q ∧ p.same q = false) ∧
    (∀ entry ∈ entries, Holds host platform entry → ∃ first ∈ found,
      (∀ p ∈ found, p.same entry = true ↔ p = first) ∧
      entries.find? (fun p => p.same entry && Holds host platform p) = some first ∧
      (host.files.IgnoresSpelling → entries.find? (·.same entry) = some first)) ∧
    ∀ (env : Environment) (before after : List (List Char)),
      let other := { host with environment := env }
      (∀ extra, host.environment.searchPath platform = before ++ after →
        env.searchPath platform = before ++ extra :: after →
        (extra = [] ∨ IsIdle host platform (directories before) ⟨Utf8.encode extra⟩) →
        librariesOnSearchPath other platform = found ∧
          fromSearchPath other platform = fromSearchPath host platform) ∧
      (∀ part spelling, host.environment.searchPath platform = before ++ part :: after →
        env.searchPath platform = before ++ spelling :: after → part ≠ [] → spelling ≠ [] →
        (Path.mk (Utf8.encode part)).same ⟨Utf8.encode spelling⟩ = true →
        (Holds host platform ⟨Utf8.encode part⟩ ↔ Holds host platform ⟨Utf8.encode spelling⟩) →
        fromSearchPath other platform = fromSearchPath host platform) ∧
      ∀ later, host.environment.searchPath platform = before ++ after →
        env.searchPath platform = before ++ later →
        (∃ entry ∈ directories before, Holds host platform entry) →
        fromSearchPath other platform = fromSearchPath host platform := by
  intro entries found
  have hcollected := collected_librariesOnSearchPath host platform
  refine ⟨hcollected.mem, hcollected.ordered, ?_, fun env before after => ⟨?_, ?_, ?_⟩⟩
  · intro entry hentry hholds
    obtain ⟨first, hfirst, hfind⟩ := hcollected.covered entry hentry hholds
    have hsame : first.same entry = true := (Bool.and_eq_true _ _ ▸ List.find?_some hfind).1
    refine ⟨first, hfirst, fun p hp => ⟨fun hsameP => ?_, fun hp => hp ▸ hsame⟩, hfind, ?_⟩
    · refine hcollected.eq_of_same hp hfirst ?_
      rw [Path.same_iff] at hsame hsameP ⊢
      exact hsameP.trans hsame.symm
    · intro hfiles
      exact (find?_same_of_ignoresSpelling hfiles hholds).symm.trans hfind
  · intro extra hpath hother hextra
    have hlist := librariesOnSearchPath_of_isIdle hpath hother hextra
    refine ⟨hlist, ?_⟩
    rw [fromSearchPath, fromSearchPath, hlist]
    rfl
  · intro part spelling hpath hother hpart hspelling hsame hholds
    exact fromSearchPath_of_spelling hpath hother hpart hspelling hsame hholds
  · intro later hpath hother hholds
    exact fromSearchPath_of_holds hpath hother hholds

/-- A host with the library in `/a` and in `/b`, and with a search path. -/
def hostWithSearchPath (text : String) : Host where
  environment := ⟨[("PATH", Utf8.ofString text)]⟩
  home := none
  workingDir := some (.ofString "/")
  programDir := none
  files := ((FileTree.empty.addFile (.ofString "/a/IntegrationBus.dll") []).addFile
    (.ofString "/b/IntegrationBus.dll") []).asWritten

/-- A directory that is written again with more separators, and behind an empty entry, is listed as
it was written first. -/
theorem librariesOnSearchPath_of_respelled :
    let host := hostWithSearchPath "/sys;//a;;/b"
    let longer : Environment := ⟨[("PATH", Utf8.ofString "/sys;//a;;/a/./;/b")]⟩
    librariesOnSearchPath { host with environment := longer } .windows =
        [.ofString "//a", .ofString "/b"] ∧
      (directories (longer.searchPath .windows)).find? (·.same (.ofString "/a/./")) =
        some (.ofString "//a") := by
  intro host longer
  have hpath : host.environment.searchPath .windows =
      ["/sys".toList, "//a".toList, []] ++ ["/b".toList] := by decide +kernel
  have hlonger : longer.searchPath .windows =
      ["/sys".toList, "//a".toList, []] ++ "/a/./".toList :: ["/b".toList] := by decide +kernel
  have hlist : librariesOnSearchPath host .windows = [.ofString "//a", .ofString "/b"] := by
    decide +kernel
  have hidle : IsIdle host .windows (directories ["/sys".toList, "//a".toList, []])
      ⟨Utf8.encode "/a/./".toList⟩ :=
    fun _ => ⟨.ofString "//a", by decide +kernel, by decide +kernel, by decide +kernel⟩
  obtain ⟨-, -, -, hedits⟩ := librariesOnSearchPath_firstSpellings host .windows
  have hsame := ((hedits longer _ _).1 _ hpath hlonger (.inr hidle)).1.trans hlist
  obtain ⟨-, -, hcovers, -⟩ :=
    librariesOnSearchPath_firstSpellings { host with environment := longer } .windows
  obtain ⟨first, hfirst, hunique, -, hspelled⟩ :=
    hcovers (.ofString "/a/./") (by decide +kernel) (by decide +kernel)
  refine ⟨hsame, ?_⟩
  have hfiles : host.files.IgnoresSpelling := FileTree.ignoresSpelling_asWritten _
  have hknown : Path.ofString "//a" ∈
      librariesOnSearchPath { host with environment := longer } .windows := by
    rw [hsame]
    exact List.mem_cons_self
  rw [(hunique _ hknown).1 (by decide +kernel)]
  exact hspelled hfiles

end BusLocator.Search
