import BusLocator.Proofs.Search.Descriptor
import BusLocator.Proofs.Session.Memory
/-!
# What a session does not depend on

The working directory is asked for relative paths only. From an anchor that is absolute every path of
the search is, except for those that other people wrote: the two in the descriptor and the entries of
the search path. Where these are absolute as well, or are not reached, two hosts that share nothing but
the files search alike (`run_eq_of_absolute`), and so two sessions on them are the same, word for word.
-/

namespace BusLocator

namespace Path

theorem isAbsolute_below {p : Path} (h : p.isAbsolute = true) (names : List String) :
    (p.below names).isAbsolute = true := by
  induction names generalizing p with
  | nil => exact h
  | cons name names ih => exact ih (isAbsolute_join h)

end Path

namespace Search

variable {host host' : Host} {platform : Platform} {anchor : Path}

/-! ### The same candidates -/

theorem located_congr (host host' : Host) {binaryDir libraryDir : Path} (source : Source)
    (hbinary : binaryDir.isAbsolute = true) (hlibrary : libraryDir.isAbsolute = true) :
    Candidate.located host source binaryDir libraryDir =
      .located host' source binaryDir libraryDir := by
  simp only [Candidate.located, locate_eq_normalize (.inr hbinary),
    locate_eq_normalize (.inr hlibrary)]

theorem besideAnchor_congr (host host' : Host) (h : anchor.isAbsolute = true) :
    besideAnchor host anchor = besideAnchor host' anchor :=
  located_congr host host' .localLayout h (Path.isAbsolute_below h _)

theorem deployed_congr (host host' : Host) (h : anchor.isAbsolute = true) :
    deployed host platform anchor = deployed host' platform anchor := by
  have hlocated (source : Source) (binary library : List String) :
      Candidate.located host source (anchor.below binary) (anchor.below library) =
        .located host' source (anchor.below binary) (anchor.below library) :=
    located_congr host host' source (Path.isAbsolute_below h _) (Path.isAbsolute_below h _)
  cases platform <;> simp only [deployed, hlocated]

section Files

variable (hfiles : host.files = host'.files)

include hfiles

theorem named_congr
    (habsolute : ∀ names ∈ namedPaths? host anchor,
      (Path.ofString names.1).isAbsolute = true ∧ (Path.ofString names.2).isAbsolute = true) :
    named host anchor = named host' anchor := by
  have hsame : namedPaths? host anchor = namedPaths? host' anchor := by
    simp only [namedPaths?, hfiles]
  rw [named, named, ← hsame]
  apply List.map_congr_left
  intro names hnames
  obtain ⟨hbinary, hlibrary⟩ := habsolute names (Option.mem_toList.1 hnames)
  exact located_congr host host' .descriptor hbinary hlibrary

theorem onSearchPath_congr
    (hpath : host.environment.get? "PATH" = host'.environment.get? "PATH")
    (habsolute : ∀ entry ∈ searchPathEntries host platform, entry.isAbsolute = true) :
    onSearchPath host platform = onSearchPath host' platform := by
  cases platform with
  | posix => rfl
  | windows =>
      rw [searchPathEntries_eq] at habsolute
      have hentries : host.environment.searchPath .windows =
          host'.environment.searchPath .windows := by
        rw [Environment.searchPath, Environment.searchPath, hpath]
      have hfirst : firstOnSearchPath? host .windows = firstOnSearchPath? host' .windows := by
        simp only [firstOnSearchPath?, hentries, hfiles]
      rw [onSearchPath, onSearchPath, ← hfirst]
      apply List.map_congr_left
      intro entry hentry
      have hentry : entry.isAbsolute = true :=
        habsolute entry (List.mem_of_find?_eq_some (Option.mem_toList.1 hentry))
      exact located_congr host host' .searchPath (Path.isAbsolute_below hentry _) hentry

theorem passes_congr (c : Candidate) : c.Passes host platform ↔ c.Passes host' platform := by
  simp only [Candidate.Passes, hfiles]

theorem check_eq_of_files (candidate : Installation) :
    check host platform candidate = check host' platform candidate := by
  simp only [check, hfiles]

theorem isStillValid_eq_of_files (source : Source) (installation : Installation) :
    isStillValid host platform source installation =
      isStillValid host' platform source installation := by
  rw [isStillValid, isStillValid, check_eq_of_files hfiles, hfiles]

theorem tried_congr (c : Candidate) : c.tried host platform = c.tried host' platform := by
  simp only [Candidate.tried, missing, hfiles]

/-! ### The same search -/

/-- From an absolute anchor only the files count, and the search path if it is absolute or reached. -/
theorem run_eq_of_absolute (hanchor : anchor.isAbsolute = true)
    (hnamed : ∀ names ∈ namedPaths? host anchor,
      (Path.ofString names.1).isAbsolute = true ∧ (Path.ofString names.2).isAbsolute = true)
    (hpath : platform = .posix ∨
      (host.environment.get? "PATH" = host'.environment.get? "PATH" ∧
        ∀ entry ∈ searchPathEntries host platform, entry.isAbsolute = true) ∨
      ∃ found ∈ run host platform (some anchor), found.source ≠ .searchPath) :
    run host platform (some anchor) = run host' platform (some anchor) := by
  have hfront : named host anchor ++ besideAnchor host anchor :: deployed host platform anchor =
      named host' anchor ++ besideAnchor host' anchor :: deployed host' platform anchor := by
    rw [named_congr hfiles hnamed, besideAnchor_congr host host' hanchor,
      deployed_congr host host' hanchor]
  have htried : (fun c : Candidate => c.tried host platform) = (·.tried host' platform) := by
    funext c
    exact tried_congr hfiles c
  have hall (h : onSearchPath host platform = onSearchPath host' platform) :
      run host platform (some anchor) = run host' platform (some anchor) := by
    rw [run_eq, run_eq, candidates, candidates, hfront, h, htried]
  rcases hpath with rfl | ⟨hpath, hentries⟩ | ⟨found, hfound, hsource⟩
  · exact hall rfl
  · exact hall (onSearchPath_congr hfiles hpath hentries)
  · -- The candidate that passed comes before those of the search path.
    obtain ⟨before, c, after, hlist, hfailed, hpasses, hresult⟩ :=
      (run_eq_some_iff host platform (some anchor) found).1 hfound
    rw [hresult] at hsource
    obtain ⟨rest, hrest⟩ := exists_front_of_source_ne hlist hsource
    rw [Option.mem_def.1 hfound]
    refine ((run_eq_some_iff host' platform (some anchor) found).2
      ⟨before, c, rest ++ onSearchPath host' platform, ?_, ?_, ?_, ?_⟩).symm
    · rw [candidates, ← hfront, hrest, List.append_assoc, List.cons_append]
    · intro b hb hb'
      exact hfailed b hb ((passes_congr hfiles b).2 hb')
    · exact (passes_congr hfiles c).1 hpasses
    · rw [hresult, htried]

end Files

end Search

def Request.asks : Request → Bool
  | .descriptorPath | .describe | .invalidate => false
  | _ => true

namespace Locator

variable {host host' : Host} {locator : Locator}

/-! ### The same answer -/

theorem headline_congr (h : locator.descriptorPath host = locator.descriptorPath host')
    (source : Source) : locator.headline host source = locator.headline host' source := by
  cases source with
  | descriptor =>
      unfold headline
      rw [h]
  | _ => rfl

section Files

variable (hfiles : host.files = host'.files)
  (hanchor : locator.anchor? host = locator.anchor? host')

include hfiles hanchor

theorem ensureSearched_congr
    (hsearch : locator.known = none → locator.search host = locator.search host')
    (verbose : Bool) :
    locator.ensureSearched host verbose = locator.ensureSearched host' verbose := by
  have hsaid : Search.diagnostics host (locator.anchor? host) =
      Search.diagnostics host' (locator.anchor? host') := by
    rw [← hanchor]
    simp only [Search.diagnostics, Search.descriptorDiagnostics, Search.loadDescriptor, hfiles]
  have hdescriptor : locator.descriptorPath host = locator.descriptorPath host' := by
    rw [descriptorPath, descriptorPath, hanchor]
  cases hknown : locator.known with
  | some found =>
      rw [ensureSearched_of_known host hknown, ensureSearched_of_known host' hknown,
        Search.isStillValid_eq_of_files hfiles]
  | none =>
      have hsame := hsearch hknown
      cases hfound : locator.search host with
      | some found =>
          have hannounced : locator.announcement host found = locator.announcement host' found := by
            unfold announcement
            rw [headline_congr hdescriptor]
          rw [ensureSearched_of_found host hknown hfound,
            ensureSearched_of_found host' hknown (hsame ▸ hfound), hsaid, hannounced]
      | none =>
          rw [ensureSearched_of_missed host hknown hfound,
            ensureSearched_of_missed host' hknown (hsame ▸ hfound), regret, regret, hsaid, notFound,
            notFound, hdescriptor]

/-- Hosts with the same files and the same anchor get the same answer, if a search that is due gives
the same. A text that is filled in shows more of the host than that. -/
theorem answer_congr {request : Request}
    (hsearch : request.asks = true → locator.known = none →
      locator.search host = locator.search host')
    (hfill : ∀ participant text, request ≠ .fill participant text) :
    locator.answer host request = locator.answer host' request := by
  have hdescriptor : locator.descriptorPath host = locator.descriptorPath host' := by
    rw [descriptorPath, descriptorPath, hanchor]
  cases request with
  | fill participant text => exact absurd rfl (hfill participant text)
  | descriptorPath => simp only [answer, hdescriptor]
  | describe => rfl
  | invalidate => rfl
  | _ =>
      have hsearched (verbose : Bool) := ensureSearched_congr hfiles hanchor (hsearch rfl) verbose
      simp only [answer, isInstalled, binaryDir, libraryDir, libraryFile, installation, resolution,
        notFound, hsearched, hdescriptor]

end Files

theorem anchor?_of_isAbsolute {anchor : Path}
    (hanchor : (locator.settings.anchorDir <|> host.programDir) = some anchor)
    (habsolute : anchor.isAbsolute = true) :
    locator.anchor? host = some anchor.normalize := by
  rw [anchor?, Settings.anchor?, hanchor]
  show some (host.locate anchor) = _
  rw [Search.locate_eq_normalize (.inr habsolute)]

end Locator

namespace Session

variable {host host' : Host} {session : Session}

/-! ### The same session -/

/-- The states of a run in which the locator has to search: it is asked and knows nothing. -/
def searched (host : Host) (session : Session) : List SessionStep → List Session
  | [] => []
  | s :: steps =>
    let later := (session.step host s).2.searched host steps
    match s with
    | .ask request =>
      if request.asks ∧ session.locator.known = none then session :: later else later
    | .alter _ => later

theorem mem_searched_of_mem {moment : Session} (s : SessionStep) {steps : List SessionStep}
    (h : moment ∈ (session.step host s).2.searched host steps) :
    moment ∈ session.searched host (s :: steps) := by
  cases s with
  | alter change => exact h
  | ask request =>
      rw [searched]
      split
      · exact List.mem_cons_of_mem _ h
      · exact h

theorem mem_searched_self {request : Request} (hasks : request.asks = true)
    (hunknown : session.locator.known = none) (steps : List SessionStep) :
    session ∈ session.searched host (.ask request :: steps) := by
  rw [searched, if_pos ⟨hasks, hunknown⟩]
  exact List.mem_cons_self

theorem settings_of_mem_searched {moment : Session} {steps : List SessionStep}
    (h : moment ∈ session.searched host steps) :
    moment.locator.settings = session.locator.settings := by
  induction steps generalizing session with
  | nil => contradiction
  | cons s steps ih =>
      have hlater (h : moment ∈ (session.step host s).2.searched host steps) :
          moment.locator.settings = session.locator.settings :=
        (ih h).trans (settings_step host session s)
      cases s with
      | alter change => exact hlater h
      | ask request =>
          rw [searched] at h
          split at h
          · rcases List.mem_cons.1 h with rfl | h
            · rfl
            · exact hlater h
          · exact hlater h

theorem step_congr (hanchor : session.locator.anchor? host = session.locator.anchor? host')
    {s : SessionStep} (hfill : ∀ participant text, s ≠ .ask (.fill participant text))
    (hsearch : ∀ request, s = .ask request → request.asks = true →
      session.locator.known = none → session.search host = session.search host') :
    session.step host s = session.step host' s := by
  cases s with
  | alter change => rfl
  | ask request =>
      have hfiles : (session.surroundings host).files = (session.surroundings host').files := rfl
      have hanswer : session.locator.answer (session.surroundings host) request =
          session.locator.answer (session.surroundings host') request := by
        apply Locator.answer_congr hfiles hanchor (hsearch request rfl)
        rintro participant text rfl
        exact hfill participant text rfl
      rw [step_ask, step_ask, hanswer]

theorem run_congr (hanchor : session.locator.anchor? host = session.locator.anchor? host')
    {steps : List SessionStep} (hfill : ∀ participant text, .ask (.fill participant text) ∉ steps)
    (hsearch : ∀ moment ∈ session.searched host steps, moment.search host = moment.search host') :
    session.run host steps = session.run host' steps := by
  induction steps generalizing session with
  | nil => rfl
  | cons s steps ih =>
      have hstep : session.step host s = session.step host' s := by
        apply step_congr hanchor
        · rintro participant text rfl
          exact hfill participant text List.mem_cons_self
        · rintro request rfl hasks hunknown
          exact hsearch session (mem_searched_self hasks hunknown steps)
      have hrest : (session.step host s).2.run host steps =
          (session.step host s).2.run host' steps := by
        apply ih
        · rw [Locator.anchor?, Locator.anchor?, settings_step]
          exact hanchor
        · intro participant text hmem
          exact hfill participant text (List.mem_cons_of_mem s hmem)
        · intro moment hmoment
          exact hsearch moment (mem_searched_of_mem s hmoment)
      rw [run, run, ← hstep]
      cases hgiven : session.step host s with
      | mk given next =>
          rw [hgiven] at hrest
          simp only [hrest]

/-- A session depends on nothing of its host but the files, if all paths in its way are absolute. The
anchor has to be, and what the descriptors name that are read on the way. The search path does not
matter where it is not scanned, or as long as every search succeeds before it comes to that; else it
has to be the same, with absolute entries. Then two hosts, with whatever variables, home and working
directories or without, get the same replies and the same lines, and leave the same session. Only
filling in a text, which shows all of that, is not asked for. -/
theorem run_eq_of_absolute_paths (host host' : Host) (settings : Settings) (tree : FileTree)
    (steps : List SessionStep) (anchor : Path) (habsolute : anchor.isAbsolute = true)
    (hanchor : (settings.anchorDir <|> host.programDir) = some anchor)
    (hanchor' : (settings.anchorDir <|> host'.programDir) = some anchor)
    (hfill : ∀ participant text, .ask (.fill participant text) ∉ steps) :
    let start : Session := ⟨Locator.new settings, tree⟩
    (∀ moment ∈ start.searched host steps,
      ∀ names ∈ Search.namedPaths? (moment.surroundings host) anchor.normalize,
        (Path.ofString names.1).isAbsolute = true ∧ (Path.ofString names.2).isAbsolute = true) →
    (settings.platform = .posix ∨
      (host.environment.get? "PATH" = host'.environment.get? "PATH" ∧
        ∀ entry ∈ Search.searchPathEntries host settings.platform, entry.isAbsolute = true) ∨
      ∀ moment ∈ start.searched host steps,
        ∃ found ∈ moment.search host, found.source ≠ .searchPath) →
    start.run host steps = start.run host' steps := by
  intro start hnamed hpath
  have hanchors : start.locator.anchor? host = start.locator.anchor? host' := by
    rw [Locator.anchor?_of_isAbsolute hanchor habsolute,
      Locator.anchor?_of_isAbsolute hanchor' habsolute]
  apply run_congr hanchors hfill
  intro moment hmoment
  have hsettings : moment.locator.settings = settings := settings_of_mem_searched hmoment
  have hsearch {host : Host} (hanchor : (settings.anchorDir <|> host.programDir) = some anchor) :
      moment.search host =
        Search.run (moment.surroundings host) settings.platform (some anchor.normalize) := by
    have hlocated : moment.locator.anchor? (moment.surroundings host) = some anchor.normalize :=
      Locator.anchor?_of_isAbsolute (hsettings ▸ hanchor) habsolute
    rw [search, Locator.search, hlocated, hsettings]
  have hfiles : (moment.surroundings host).files = (moment.surroundings host').files := rfl
  rw [hsearch hanchor, hsearch hanchor']
  apply Search.run_eq_of_absolute hfiles (Path.isAbsolute_normalize habsolute)
    (hnamed moment hmoment)
  rcases hpath with hposix | hsame | hearly
  · exact .inl hposix
  · exact .inr (.inl hsame)
  · rw [← hsearch hanchor]
    exact .inr (.inr (hearly moment hmoment))

/-- Two hosts with different search paths, one of them without a working directory, agree on a session
that finds a release and later on a descriptor. -/
theorem run_eq_of_absolute_paths_elsewhere :
    let host : Host := ⟨⟨[("PATH", Utf8.ofString "tools;/sdk/lib")]⟩, some (.ofString "/home/ib"),
      some (.ofString "/sim"), none, FileTree.empty.asWritten⟩
    let host' : Host := ⟨⟨[("HOME", Utf8.ofString "/root")]⟩, none, none, some (.ofString "/opt"),
      FileTree.empty.asWritten⟩
    let tree := (FileTree.empty.addFile (.ofString "/bus/Release/lib/IntegrationBus.dll") []).addDirectory
      (.ofString "/bus/Release/bin")
    let start : Session := ⟨Locator.new ⟨some (.ofString "/bus/x/../a/b"), .windows, true⟩, tree⟩
    let descriptor := "\x7b\"INTEGRATIONBUS_BINPATH\": \"/bus/Release/bin\", "
      ++ "\"INTEGRATIONBUS_LIBPATH\": \"/bus/Release/lib\"\x7d"
    let steps : List SessionStep :=
      [.ask .resolution,
        .alter (.addFile (.ofString "/bus/a/b/data/IbInstallation.json") (Utf8.ofString descriptor)),
        .ask .invalidate, .ask (.isInstalled true), .ask .describe]
    start.run host steps = start.run host' steps ∧
      ((start.after host (steps.take 1)).locator.known.map (·.source),
        (start.after host steps).locator.known.map (·.source)) =
        (some (.deployment .release), some .descriptor) := by
  intro host host' tree start descriptor steps
  refine ⟨?_, by decide +kernel⟩
  apply run_eq_of_absolute_paths host host' _ tree steps (.ofString "/bus/x/../a/b") (by decide)
    rfl rfl
  · simp [steps]
  · decide +kernel
  · exact .inr (.inr (by decide +kernel))

end Session

end BusLocator
