import BusLocator.Proofs.FileTree.Entries
import BusLocator.Proofs.Search.Candidates
/-!
# Installing more

Every check of the search asks for something that has to be there, and none asks for something that
must not be. So on files that only grew, whatever passed still passes. Which candidates there are can
change in two ways only: a descriptor may be written, and an earlier directory of the search path may
come to hold the library. Sources are therefore compared by their rank, the order in which the search
asks them.

The one idea is `exists_run_of_passes`: a candidate of the list that passes bounds the rank of what
the search finds, since the list is in ascending order of ranks.
-/

namespace BusLocator

def Source.rank : Source → Nat
  | .descriptor => 0
  | .localLayout => 1
  | .deployment .posix | .deployment .release => 2
  | .deployment .debug => 3
  | .searchPath => 4

namespace Search

variable {host : Host} {files : FileSystem} {platform : Platform} {anchor : Option Path}

/-! ### What still passes -/

theorem check_of_grows (hgrows : host.files.Grows files) {candidate : Installation}
    (h : check host platform candidate = .complete) :
    check { host with files } platform candidate = .complete := by
  rw [check_eq_complete_iff] at h ⊢
  obtain ⟨hbinary, hlibrary, hfile⟩ := h
  exact ⟨hgrows.isPresent _ hbinary, hgrows.isPresent _ hlibrary, hgrows.isFile _ hfile⟩

theorem isStillValid_of_grows (hgrows : host.files.Grows files) {source : Source}
    {installation : Installation} (h : isStillValid host platform source installation = true) :
    isStillValid { host with files } platform source installation = true := by
  unfold isStillValid at h ⊢
  split at h
  · rename_i hneeds
    rw [if_pos hneeds]
    exact decide_eq_true (check_of_grows hgrows (of_decide_eq_true h))
  · rename_i hneeds
    rw [if_neg hneeds]
    exact hgrows.isPresent _ h

theorem passes_of_grows (hgrows : host.files.Grows files) {c : Candidate}
    (h : c.Passes host platform) : c.Passes { host with files } platform := by
  rcases h with hsource | ⟨hbinary, hlibrary, hfile⟩
  · exact .inl hsource
  · exact .inr ⟨hgrows.isPresent _ hbinary, hgrows.isPresent _ hlibrary, hgrows.isFile _ hfile⟩

theorem namedPaths?_congr {anchor : Path}
    (h : (files.readText (anchor.below ["data", "IbInstallation.json"])).toOption =
      (host.files.readText (anchor.below ["data", "IbInstallation.json"])).toOption) :
    namedPaths? { host with files } anchor = namedPaths? host anchor := by
  unfold namedPaths?
  revert h
  dsimp only
  cases files.readText (anchor.below ["data", "IbInstallation.json"]) <;>
    cases host.files.readText (anchor.below ["data", "IbInstallation.json"]) <;>
    simp +contextual [Except.toOption]

/-! ### The order of the sources -/

theorem rank_deployment (variant : Deployment) :
    1 < (Source.deployment variant).rank ∧ (Source.deployment variant).rank < 4 := by
  cases variant <;> decide

theorem pairwise_onSearchPath :
    (onSearchPath host platform).Pairwise (·.source.rank < ·.source.rank) := by
  cases platform with
  | posix => exact .nil
  | windows => cases h : firstOnSearchPath? host .windows <;> simp [onSearchPath, h]

/-- Each source proposes one candidate at most, and they stand in the order of the search. -/
theorem pairwise_candidates :
    (candidates host platform anchor).Pairwise (·.source.rank < ·.source.rank) := by
  cases anchor with
  | none => exact pairwise_onSearchPath
  | some anchor =>
      have hnamed : (named host anchor).Pairwise (·.source.rank < ·.source.rank) := by
        cases h : namedPaths? host anchor <;> simp [named, h]
      have hdeployed : (deployed host platform anchor).Pairwise
          (·.source.rank < ·.source.rank) := by
        cases platform <;> simp [deployed, Candidate.located, Source.rank]
      rw [candidates, List.pairwise_append, List.pairwise_append, List.pairwise_cons]
      refine ⟨⟨hnamed, ⟨?_, hdeployed⟩, ?_⟩, pairwise_onSearchPath, ?_⟩
      · intro c hc
        obtain ⟨variant, hvariant⟩ := source_of_mem_deployed hc
        rw [hvariant]
        exact (rank_deployment variant).1
      · intro c hc d hd
        rw [source_of_mem_named hc]
        rcases List.mem_cons.1 hd with rfl | hd
        · exact Nat.zero_lt_one
        · obtain ⟨variant, hvariant⟩ := source_of_mem_deployed hd
          rw [hvariant]
          exact Nat.lt_trans (by decide) (rank_deployment variant).1
      · intro c hc d hd
        rw [source_of_mem_onSearchPath hd]
        rcases List.mem_append.1 hc with hc | hc
        · rw [source_of_mem_named hc]
          decide
        · rcases List.mem_cons.1 hc with rfl | hc
          · show 1 < 4
            omega
          · obtain ⟨variant, hvariant⟩ := source_of_mem_deployed hc
            rw [hvariant]
            exact (rank_deployment variant).2

theorem exists_run_of_passes {c : Candidate} (hc : c ∈ candidates host platform anchor)
    (hpasses : c.Passes host platform) :
    ∃ found, run host platform anchor = some found ∧
      ((found.source = c.source ∧ found.installation = c.installation) ∨
        found.source.rank < c.source.rank) := by
  obtain ⟨found, hfound⟩ := (exists_run_eq_some_iff host platform anchor).2 ⟨c, hc, hpasses⟩
  refine ⟨found, hfound, ?_⟩
  obtain ⟨before, first, after, hlist, hfailed, -, rfl⟩ :=
    (run_eq_some_iff host platform anchor found).1 hfound
  have horder : (before ++ first :: after).Pairwise (·.source.rank < ·.source.rank) := by
    rw [← hlist]
    exact pairwise_candidates
  rw [hlist, List.mem_append, List.mem_cons] at hc
  rcases hc with hc | rfl | hc
  · exact absurd hpasses (hfailed c hc)
  · exact .inl ⟨rfl, rfl⟩
  · exact .inr ((List.pairwise_cons.1 (List.pairwise_append.1 horder).2.1).1 c hc)

/-! ### The search on files that grew -/

/-- What passed has its counterpart on files that grew, unless it came from a descriptor that is
another now. -/
theorem exists_counterpart (hgrows : host.files.Grows files) {c : Candidate}
    (hc : c ∈ candidates host platform anchor)
    (hnamed : c.source = .descriptor →
      ∀ a ∈ anchor, namedPaths? { host with files } a = namedPaths? host a) :
    ∃ d ∈ candidates { host with files } platform anchor, d.source = c.source ∧
      (c.source ≠ .searchPath → d = c) := by
  have hsearchPath (hc : c ∈ onSearchPath host platform) :
      ∃ d ∈ onSearchPath { host with files } platform, d.source = c.source ∧
        (c.source ≠ .searchPath → d = c) := by
    have hsource := source_of_mem_onSearchPath hc
    cases platform with
    | posix => exact absurd hc List.not_mem_nil
    | windows =>
        obtain ⟨entry, hentry, rfl⟩ := List.mem_map.1 hc
        have hfind : (firstOnSearchPath? { host with files } .windows).isSome = true := by
          have hholds := List.find?_some (Option.mem_toList.1 hentry)
          have hmem := List.mem_of_find?_eq_some (Option.mem_toList.1 hentry)
          rw [firstOnSearchPath?, List.find?_isSome]
          exact ⟨entry, hmem, hgrows.isPresent _ hholds⟩
        obtain ⟨first, hfirst⟩ := Option.isSome_iff_exists.1 hfind
        refine ⟨_, List.mem_map_of_mem (Option.mem_toList.2 hfirst), rfl, ?_⟩
        intro hother
        exact absurd rfl hother
  cases anchor with
  | none => exact hsearchPath hc
  | some anchor =>
      simp only [candidates, List.mem_append, List.mem_cons] at hc ⊢
      rcases hc with (hc | hc | hc) | hc
      · have hsame : named { host with files } anchor = named host anchor := by
          have hpaths := hnamed (source_of_mem_named hc) anchor rfl
          rw [named, hpaths]
          rfl
        exact ⟨c, .inl (.inl (hsame ▸ hc)), rfl, fun _ => rfl⟩
      · exact ⟨c, .inl (.inr (.inl hc)), rfl, fun _ => rfl⟩
      · exact ⟨c, .inl (.inr (.inr (by cases platform <;> exact hc))), rfl, fun _ => rfl⟩
      · obtain ⟨d, hd, hd'⟩ := hsearchPath hc
        exact ⟨d, .inr hd, hd'⟩

theorem run_of_grows (hgrows : host.files.Grows files) {found : Resolution}
    (hfound : run host platform anchor = some found)
    (hnamed : found.source = .descriptor →
      ∀ a ∈ anchor, namedPaths? { host with files } a = namedPaths? host a) :
    ∃ found', run { host with files } platform anchor = some found' ∧
      ((found'.source = found.source ∧
          (found.source ≠ .searchPath → found'.installation = found.installation)) ∨
        found'.source.rank < found.source.rank) := by
  obtain ⟨before, c, after, hlist, -, hpasses, rfl⟩ :=
    (run_eq_some_iff host platform anchor found).1 hfound
  have hc : c ∈ candidates host platform anchor := by simp [hlist]
  obtain ⟨d, hd, hsource, hsame⟩ := exists_counterpart hgrows hc hnamed
  have hstill : d.Passes { host with files } platform := by
    by_cases hsearchPath : c.source = .searchPath
    · exact .inl (hsource.trans hsearchPath)
    · rw [hsame hsearchPath]
      exact passes_of_grows hgrows hpasses
  obtain ⟨found', hfound', hbound⟩ := exists_run_of_passes hd hstill
  refine ⟨found', hfound', ?_⟩
  rw [hsource] at hbound
  rcases hbound with ⟨hfrom, hinstallation⟩ | hless
  · refine .inl ⟨hfrom, ?_⟩
    intro hother
    rw [hinstallation, hsame hother]
  · exact .inr hless

end Search

namespace Locator

/-- Installing more never loses an installation. On a tree to which directories and files were only
added, a fresh search finds what it found before, on the search path perhaps in another directory, or
something of an earlier source. The descriptor must not have been written, unless the first search
did without it. And an installation that was still there is still there. -/
theorem resolution_of_additions (host : Host) (settings : Settings) (tree : FileTree)
    (changes : List Change) (hadd : ∀ change ∈ changes, change.IsAddition) :
    let before := { host with files := tree.asWritten }
    let after := { host with files := (tree.changed changes).asWritten }
    (∀ found, ((Locator.new settings).resolution before).answer = .ok found →
      (found.source = .descriptor → ∀ anchor ∈ settings.anchor? host.workingDir host.programDir,
        ∀ change ∈ changes, ¬ change.Writes (anchor.below ["data", "IbInstallation.json"])) →
      ∃ found', ((Locator.new settings).resolution after).answer = .ok found' ∧
        ((found'.source = found.source ∧
            (found.source ≠ .searchPath → found'.installation = found.installation)) ∨
          found'.source.rank < found.source.rank)) ∧
    ∀ source installation,
      Search.isStillValid before settings.platform source installation = true →
        Search.isStillValid after settings.platform source installation = true := by
  intro before after
  have hgrows : before.files.Grows (tree.changed changes).asWritten := tree.grows_changed hadd
  refine ⟨?_, fun source installation => Search.isStillValid_of_grows hgrows⟩
  intro found hfound hkept
  rw [answer_resolution_new_eq_ok_iff] at hfound
  obtain ⟨found', hfound', hbound⟩ := Search.run_of_grows hgrows hfound
    fun hdescriptor anchor hanchor =>
      Search.namedPaths?_congr (tree.readText_changed hadd (hkept hdescriptor anchor hanchor))
  exact ⟨found', (answer_resolution_new_eq_ok_iff after settings found').2 hfound', hbound⟩

/-- A debug deployment gives way to a release that is added beside it, and a broken descriptor does
no harm. -/
theorem resolution_of_added_release :
    let host : Host := ⟨⟨[]⟩, none, some (.ofString "/"), none, FileTree.empty.asWritten⟩
    let settings : Settings := ⟨some (.ofString "/bus/a/b"), .windows, false⟩
    let tree := (FileTree.empty.addFile (.ofString "/bus/Debug/lib/IntegrationBus.dll") []).addDirectory
      (.ofString "/bus/Debug/bin")
    let changes : List Change :=
      [.addFile (.ofString "/bus/Release/lib/IntegrationBus.dll") [],
        .addFile (.ofString "/bus/a/b/data/IbInstallation.json") (Utf8.ofString "oops"),
        .addDirectory (.ofString "/bus/Release/bin")]
    let debug : Installation := ⟨.ofString "/bus/Debug/bin", .ofString "/bus/Debug/lib"⟩
    let before := { host with files := tree.asWritten }
    let after := { host with files := (tree.changed changes).asWritten }
    ((Locator.new settings).installation before).answer = some debug ∧
    (∃ found, ((Locator.new settings).resolution after).answer = .ok found ∧
      ((found.source = .deployment .debug ∧ found.installation = debug) ∨
        found.source.rank < 3)) ∧
    Search.isStillValid after .windows (.deployment .debug) debug = true := by
  intro host settings tree changes debug before after
  let found : Resolution := ⟨debug, .deployment .debug,
    [⟨.localLayout, ⟨.ofString "/bus/a/b", .ofString "/bus/a/lib"⟩, .missingBinaryDir⟩,
      ⟨.deployment .release, ⟨.ofString "/bus/Release/bin", .ofString "/bus/Release/lib"⟩,
        .missingBinaryDir⟩,
      ⟨.deployment .debug, debug, .complete⟩]⟩
  have hadd : ∀ change ∈ changes, change.IsAddition := by simp [changes, Change.IsAddition]
  have hfound : Search.run before settings.platform
      (settings.anchor? host.workingDir host.programDir) = some found := by
    decide +kernel
  have hvalid : Search.isStillValid before .windows (.deployment .debug) debug = true := by
    decide +kernel
  obtain ⟨hfinds, hstill⟩ := resolution_of_additions host settings tree changes hadd
  obtain ⟨found', hfound', hbound⟩ := hfinds found
    ((answer_resolution_new_eq_ok_iff before settings found).2 hfound)
    (fun hdescriptor => absurd hdescriptor (by decide))
  refine ⟨by decide +kernel, ⟨found', hfound', ?_⟩, hstill _ _ hvalid⟩
  rcases hbound with ⟨hsource, hinstallation⟩ | hless
  · exact .inl ⟨hsource, hinstallation (by decide)⟩
  · exact .inr hless

end Locator

end BusLocator
