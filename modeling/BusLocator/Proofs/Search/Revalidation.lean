import BusLocator.FileTree
import BusLocator.Proofs.Locator.Answer
import BusLocator.Proofs.Search.Candidates
/-!
# Looking again

What was found is checked again whenever someone asks whether it is still there. On files that did
not change the second look should agree with the search. It does for every source that checks the
paths it keeps. A directory on the search path is kept under its normal spelling but was looked up
as it is written there, so the two agree exactly if the files do not tell these spellings apart.
-/

namespace BusLocator.Search

variable (host : Host) (platform : Platform)

/-- The files hold the library in a directory as it is written just as they do under the normal
spelling. -/
def SpellingsAgree (entry : Path) : Prop :=
  host.files.isPresent (libraryFile platform (host.locate entry)) =
    host.files.isPresent (libraryFile platform entry)

instance (entry : Path) : Decidable (SpellingsAgree host platform entry) :=
  inferInstanceAs (Decidable (_ = _))

variable {host platform}

theorem eq_located_of_source {anchor : Option Path} {c : Candidate}
    (hc : c ∈ candidates host platform anchor) (hsource : c.source = .searchPath) :
    ∃ entry, firstOnSearchPath? host platform = some entry ∧
      c = .located host .searchPath (entry.below ["..", "bin"]) entry := by
  have honly : c ∈ onSearchPath host platform := by
    cases anchor with
    | none => exact hc
    | some anchor =>
        simp only [candidates, List.mem_append, List.mem_cons] at hc
        rcases hc with (hnamed | rfl | hdeployed) | hsearchPath
        · simp [source_of_mem_named hnamed] at hsource
        · contradiction
        · obtain ⟨variant, hvariant⟩ := source_of_mem_deployed hdeployed
          simp [hvariant] at hsource
        · exact hsearchPath
  cases platform with
  | posix => exact absurd honly List.not_mem_nil
  | windows =>
      obtain ⟨entry, hentry, rfl⟩ := List.mem_map.1 honly
      exact ⟨entry, Option.mem_toList.1 hentry, rfl⟩

/-- A second look agrees with the search, except that a directory on the search path may not hold
the library under the spelling that is kept. -/
theorem isStillValid_iff_of_run {anchor : Option Path} {found : Resolution}
    (hfound : run host platform anchor = some found) :
    isStillValid host platform found.source found.installation = true ↔
      (found.source = .searchPath →
        ∀ entry ∈ firstOnSearchPath? host platform, SpellingsAgree host platform entry) := by
  obtain ⟨before, c, after, hlist, -, hpasses, rfl⟩ :=
    (run_eq_some_iff host platform anchor found).1 hfound
  by_cases hsource : c.source = .searchPath
  · have hc : c ∈ candidates host platform anchor := by simp [hlist]
    obtain ⟨entry, hentry, rfl⟩ := eq_located_of_source hc hsource
    have hholds := List.find?_some hentry
    change host.files.isPresent (libraryFile platform entry) = true at hholds
    simp [isStillValid, Candidate.located, Source.needsBinaryDir, hentry, SpellingsAgree, hholds]
  · have hcomplete : check host platform c.installation = .complete :=
      (check_eq_complete_iff host platform c.installation).2 (hpasses.resolve_left hsource)
    have hneeds : c.source.needsBinaryDir = true := by
      cases hc : c.source <;> simp_all [Source.needsBinaryDir]
    simp [isStillValid, hsource, hneeds, hcomplete]

end BusLocator.Search

namespace BusLocator.Locator

/-- The locator after some requests, all put to it in the same surroundings. -/
def after (host : Host) (locator : Locator) (requests : List Request) : Locator :=
  requests.foldl (fun locator request => (locator.answer host request).locator) locator

variable {host : Host} {locator : Locator} {found : Resolution}

theorem after_of_known (hknown : locator.known = some found) {requests : List Request}
    (hforget : .invalidate ∉ requests) : locator.after host requests = locator := by
  induction requests with
  | nil => rfl
  | cons request requests ih =>
      rw [List.mem_cons, not_or] at hforget
      have hstep := answer_locator_of_known host hknown (Ne.symm hforget.1)
      rw [after, List.foldl_cons, hstep]
      exact ih hforget.2

/-- A locator that finds an installation has it confirmed on unchanged files, by the check that its
source calls for and by every later question whether it is there, exactly if it was not found on the
search path or the files do not tell the spellings of its directory there apart. -/
theorem found_stays_installed_iff (hunknown : locator.known = none)
    (hfound : locator.search host = some found) :
    let faithful := found.source = .searchPath →
      ∀ entry ∈ Search.firstOnSearchPath? host locator.settings.platform,
        Search.SpellingsAgree host locator.settings.platform entry
    (Search.isStillValid host locator.settings.platform found.source found.installation = true ↔
      faithful) ∧
    ∀ verbose, (locator.isInstalled host verbose).answer = true ∧
      ∀ requests, .invalidate ∉ requests → ∀ again,
        ((((locator.isInstalled host verbose).locator.after host requests).isInstalled host
          again).answer = true ↔ faithful) := by
  intro faithful
  have hvalid := Search.isStillValid_iff_of_run hfound
  refine ⟨hvalid, fun verbose => ?_⟩
  rw [isInstalled, ensureSearched_of_found host hunknown hfound]
  refine ⟨rfl, fun requests hforget again => ?_⟩
  rw [after_of_known rfl hforget, isInstalled, ensureSearched_of_known host rfl]
  exact hvalid

def hostWithLibraryIn (directory : String) : Host where
  environment := ⟨[("PATH", Utf8.ofString directory)]⟩
  home := none
  workingDir := some (.ofString "/")
  programDir := none
  files := (FileTree.empty.addFile
    ((Path.ofString directory).join (.ofString "IntegrationBus.dll")) []).asWritten

/-- A directory that is written in normal spelling is found again. -/
theorem found_stays_installed_in_plain_directory :
    (Locator.new ⟨none, .windows, false⟩).search (hostWithLibraryIn "/sdk/lib") =
        some ⟨⟨.ofString "/sdk/bin", .ofString "/sdk/lib"⟩, .searchPath,
          [⟨.searchPath, ⟨.ofString "/sdk/bin", .ofString "/sdk/lib"⟩, .accepted⟩]⟩ ∧
      Search.isStillValid (hostWithLibraryIn "/sdk/lib") .windows .searchPath
        ⟨.ofString "/sdk/bin", .ofString "/sdk/lib"⟩ = true := by
  have hfound : (Locator.new ⟨none, .windows, false⟩).search (hostWithLibraryIn "/sdk/lib") =
      some ⟨⟨.ofString "/sdk/bin", .ofString "/sdk/lib"⟩, .searchPath,
        [⟨.searchPath, ⟨.ofString "/sdk/bin", .ofString "/sdk/lib"⟩, .accepted⟩]⟩ := by
    decide +kernel
  have hfirst : Search.firstOnSearchPath? (hostWithLibraryIn "/sdk/lib") .windows =
      some (.ofString "/sdk/lib") := by decide +kernel
  refine ⟨hfound, (found_stays_installed_iff rfl hfound).1.2 fun _ entry hentry => ?_⟩
  obtain rfl := Option.some.inj (hfirst.symm.trans hentry)
  decide +kernel

/-- A directory that is written with a way back is not. -/
theorem found_not_installed_in_roundabout_directory :
    let host := hostWithLibraryIn "/sdk/../lib"
    let locator := Locator.new ⟨none, .windows, false⟩
    (locator.isInstalled host false).answer = true ∧
      ((locator.isInstalled host false).locator.isInstalled host false).answer = false := by
  decide +kernel

end BusLocator.Locator
