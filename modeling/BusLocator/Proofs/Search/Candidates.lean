import BusLocator.Locator
/-!
# The search as one ordered list

The search asks one source after the other and each answers with its own attempts. Nothing of that
shows in the result: writing all candidates into one list, in the order of their sources, the search
is the first candidate that passes, and what it reports as tried is the list up to there.

The bridge is `run_eq`. A batch of attempts always ends at its first success, so cutting the
concatenation of the batches is the same as cutting the whole list once.
-/

namespace BusLocator

/-- The search path, cut at the separators of a platform: its entries as they are written, empty
ones among them. -/
def Environment.searchPath (env : Environment) (platform : Platform) : List (List Char) :=
  match env.get? "PATH" with
  | none => []
  | some value => (Utf8.decodeLossy value).splitOn platform.searchPathSeparator

namespace Search

/-- A pair of directories that a source proposes. -/
structure Candidate where
  source : Source
  installation : Installation
  deriving DecidableEq, Repr

variable (host : Host) (platform : Platform)

/-- The two paths that the descriptor file below an anchor names: it has to be readable, must not be
empty, and has to be an object that spells both paths, neither of them empty. -/
def namedPaths? (anchor : Path) : Option (String × String) :=
  match host.files.readText (anchor.below ["data", "IbInstallation.json"]) with
  | .error _ => none
  | .ok text =>
    if text = "" then none
    else match Json.parse text with
      | .ok (.object fields) =>
        match Json.field? "INTEGRATIONBUS_BINPATH" fields,
          Json.field? "INTEGRATIONBUS_LIBPATH" fields with
        | some (.string binary), some (.string library) =>
          if binary = "" ∨ library = "" then none else some (binary, library)
        | _, _ => none
      | _ => none

/-- The directories that entries of the search path spell. An empty entry spells none. -/
def directories (parts : List (List Char)) : List Path :=
  (parts.filter (· ≠ [])).map fun part => ⟨Utf8.encode part⟩

/-- The first directory on the search path that holds the library. -/
def firstOnSearchPath? : Option Path :=
  (directories (host.environment.searchPath platform)).find? fun entry =>
    host.files.isPresent (entry.join (.ofString platform.libraryName))

/-- A candidate made of two directories as seen from the working directory. -/
def Candidate.located (source : Source) (binaryDir libraryDir : Path) : Candidate :=
  ⟨source, host.locate binaryDir, host.locate libraryDir⟩

def named (anchor : Path) : List Candidate :=
  (namedPaths? host anchor).toList.map fun (binary, library) =>
    .located host .descriptor (.ofString binary) (.ofString library)

def besideAnchor (anchor : Path) : Candidate :=
  .located host .localLayout anchor (anchor.below ["..", "lib"])

def deployed (anchor : Path) : List Candidate :=
  match platform with
  | .posix =>
    [.located host (.deployment .posix) (anchor.below ["..", "..", "..", "..", "bin"])
      (anchor.below ["..", "..", "..", "..", "lib"])]
  | .windows =>
    [.located host (.deployment .release) (anchor.below ["..", "..", "Release", "bin"])
      (anchor.below ["..", "..", "Release", "lib"]),
     .located host (.deployment .debug) (anchor.below ["..", "..", "Debug", "bin"])
      (anchor.below ["..", "..", "Debug", "lib"])]

def onSearchPath : List Candidate :=
  match platform with
  | .posix => []
  | .windows => (firstOnSearchPath? host .windows).toList.map fun entry =>
    .located host .searchPath (entry.below ["..", "bin"]) entry

/-- All candidates, in the order in which the search tries them. -/
def candidates (anchor : Option Path) : List Candidate :=
  match anchor with
  | none => onSearchPath host platform
  | some anchor =>
    named host anchor ++ besideAnchor host anchor :: deployed host platform anchor
      ++ onSearchPath host platform

/-- Whether a candidate is an installation. Whoever put a library on the search path is trusted, of
all others every piece has to be there. -/
def Candidate.Passes (c : Candidate) : Prop :=
  c.source = .searchPath ∨
    (host.files.isPresent c.installation.binaryDir = true ∧
      host.files.isPresent c.installation.libraryDir = true ∧
      host.files.isFile (c.installation.libraryDir.join (.ofString platform.libraryName)) = true)

/-- All that is missing of an installation: the directories, and the library, which has to be a
file. -/
def missing (installation : Installation) : List Outcome :=
  (if host.files.isPresent installation.binaryDir then [] else [.missingBinaryDir]) ++
    (if host.files.isPresent installation.libraryDir then [] else [.missingLibraryDir]) ++
    if host.files.isFile (installation.libraryDir.join (.ofString platform.libraryName)) then []
      else [.missingLibraryFile]

/-- The record of trying a candidate: what is missing first, unless it is trusted. -/
def Candidate.tried (c : Candidate) : Attempt :=
  ⟨c.source, c.installation,
    if c.source = .searchPath then .accepted
    else (missing host platform c.installation).head?.getD .complete⟩

/-! ### Trying a candidate -/

theorem check_eq_head?_missing (candidate : Installation) :
    check host platform candidate = (missing host platform candidate).head?.getD .complete := by
  have hfile : libraryFile platform candidate.libraryDir =
      candidate.libraryDir.join (.ofString platform.libraryName) := rfl
  rw [check, missing, hfile]
  cases host.files.isPresent candidate.binaryDir with
  | false => rfl
  | true =>
      cases host.files.isPresent candidate.libraryDir with
      | false => rfl
      | true =>
          cases host.files.isFile (candidate.libraryDir.join (.ofString platform.libraryName)) with
          | false => rfl
          | true => rfl

theorem missing_eq_nil_iff (candidate : Installation) :
    missing host platform candidate = [] ↔
      host.files.isPresent candidate.binaryDir = true ∧
        host.files.isPresent candidate.libraryDir = true ∧
        host.files.isFile (libraryFile platform candidate.libraryDir) = true := by
  simp [missing, libraryFile, Path.below]

theorem isSuccess_of_mem_missing {candidate : Installation} {outcome : Outcome}
    (h : outcome ∈ missing host platform candidate) : outcome.isSuccess = false := by
  simp only [missing, List.mem_append, List.mem_ite_nil_left, List.mem_singleton] at h
  rcases h with (⟨-, rfl⟩ | ⟨-, rfl⟩) | ⟨-, rfl⟩ <;> rfl

/-- The check succeeds exactly when nothing is missing. -/
theorem isSuccess_check_iff (candidate : Installation) :
    (check host platform candidate).isSuccess = true ↔ missing host platform candidate = [] := by
  rw [check_eq_head?_missing]
  cases hmissing : missing host platform candidate with
  | nil => exact iff_of_true rfl rfl
  | cons first others =>
      have hfirst : first.isSuccess = false :=
        isSuccess_of_mem_missing host platform (hmissing ▸ List.mem_cons_self)
      simp [hfirst]

theorem check_eq_complete_iff (candidate : Installation) :
    check host platform candidate = .complete ↔
      host.files.isPresent candidate.binaryDir = true ∧
        host.files.isPresent candidate.libraryDir = true ∧
        host.files.isFile (libraryFile platform candidate.libraryDir) = true := by
  rw [← missing_eq_nil_iff]
  constructor
  · intro hcheck
    exact (isSuccess_check_iff host platform candidate).1 (hcheck ▸ rfl)
  · intro hmissing
    rw [check_eq_head?_missing, hmissing]
    rfl

theorem Candidate.tried_of_source_ne {c : Candidate} (hsource : c.source ≠ .searchPath) :
    c.tried host platform = ⟨c.source, c.installation, check host platform c.installation⟩ := by
  rw [Candidate.tried, if_neg hsource, check_eq_head?_missing]

theorem Candidate.tried_located {source : Source} (hsource : source ≠ .searchPath)
    (binaryDir libraryDir : Path) :
    (Candidate.located host source binaryDir libraryDir).tried host platform =
      attempt host platform source binaryDir libraryDir :=
  Candidate.tried_of_source_ne host platform hsource

theorem Candidate.isSuccess_tried_iff (c : Candidate) :
    (c.tried host platform).outcome.isSuccess = true ↔ c.Passes host platform := by
  unfold Candidate.tried Candidate.Passes
  by_cases hsource : c.source = .searchPath
  · simp [hsource, Outcome.isSuccess]
  · simp only [hsource, if_false, false_or]
    rw [← check_eq_head?_missing, isSuccess_check_iff, missing_eq_nil_iff]
    rfl

/-! ### The source of a candidate -/

section Source

variable {host platform} {c : Candidate}

theorem source_of_mem_named {anchor : Path} (h : c ∈ named host anchor) :
    c.source = .descriptor := by
  obtain ⟨paths, -, rfl⟩ := List.mem_map.1 h
  rfl

theorem source_of_mem_onSearchPath (h : c ∈ onSearchPath host platform) :
    c.source = .searchPath := by
  cases platform with
  | posix => exact absurd h List.not_mem_nil
  | windows =>
      obtain ⟨entry, -, rfl⟩ := List.mem_map.1 h
      rfl

/-- In front of the candidates of the search path stand those of all other sources. -/
theorem exists_front_of_source_ne {front before after : List Candidate}
    (hlist : front ++ onSearchPath host platform = before ++ c :: after)
    (hsource : c.source ≠ .searchPath) : ∃ rest, front = before ++ c :: rest := by
  have hc : c ∉ onSearchPath host platform := fun hc => hsource (source_of_mem_onSearchPath hc)
  rcases List.append_eq_append_iff.1 hlist with ⟨more, -, hmore⟩ | ⟨more, hfront, hrest⟩
  · exact absurd (hmore ▸ List.mem_append_right more List.mem_cons_self) hc
  · cases more with
    | nil =>
        rw [List.nil_append] at hrest
        exact absurd (hrest ▸ List.mem_cons_self) hc
    | cons d more =>
        obtain ⟨rfl, -⟩ := List.cons_eq_cons.1 hrest
        exact ⟨more, hfront⟩

theorem source_of_mem_deployed {anchor : Path}
    (h : c ∈ deployed host platform anchor) : ∃ variant, c.source = .deployment variant := by
  cases platform with
  | posix =>
      obtain rfl := List.mem_singleton.1 h
      exact ⟨.posix, rfl⟩
  | windows =>
      rcases List.mem_cons.1 h with rfl | h
      · exact ⟨.release, rfl⟩
      · obtain rfl := List.mem_singleton.1 h
        exact ⟨.debug, rfl⟩

end Source

/-! ### Cutting a list at its first success -/

theorem untilSuccess_append (a b : List Attempt) :
    untilSuccess (a ++ b) =
      if a.any (·.outcome.isSuccess) then untilSuccess a else a ++ untilSuccess b := by
  induction a with
  | nil => simp
  | cons first rest ih =>
      cases hfirst : first.outcome.isSuccess with
      | true => simp [untilSuccess, hfirst]
      | false =>
          rw [List.cons_append, untilSuccess, List.any_cons, hfirst, ih]
          cases rest.any (·.outcome.isSuccess) <;> simp [untilSuccess, hfirst]

theorem any_untilSuccess (a : List Attempt) :
    (untilSuccess a).any (·.outcome.isSuccess) = a.any (·.outcome.isSuccess) := by
  induction a with
  | nil => rfl
  | cons first rest ih => cases hfirst : first.outcome.isSuccess <;> simp [untilSuccess, hfirst, ih]

theorem find?_untilSuccess (a : List Attempt) :
    (untilSuccess a).find? (·.outcome.isSuccess) = a.find? (·.outcome.isSuccess) := by
  induction a with
  | nil => rfl
  | cons first rest ih => cases hfirst : first.outcome.isSuccess <;> simp [untilSuccess, hfirst, ih]

@[simp] theorem untilSuccess_untilSuccess (a : List Attempt) :
    untilSuccess (untilSuccess a) = untilSuccess a := by
  induction a with
  | nil => rfl
  | cons first rest ih => cases hfirst : first.outcome.isSuccess <;> simp [untilSuccess, hfirst, ih]

theorem untilSuccess_eq_self {a : List Attempt} (h : ∀ x ∈ a, x.outcome.isSuccess = false) :
    untilSuccess a = a := by
  induction a with
  | nil => rfl
  | cons first rest ih =>
      have hrest : untilSuccess rest = rest := ih fun x hx => h x (List.mem_cons_of_mem _ hx)
      simp [untilSuccess, h first List.mem_cons_self, hrest]

theorem untilSuccess_of_length_le_one {a : List Attempt} (h : a.length ≤ 1) :
    untilSuccess a = a := by
  match a, h with
  | [], _ => rfl
  | [single], _ => simp [untilSuccess]

theorem untilSuccess_append_cons {before : List Attempt} {success : Attempt}
    (hbefore : ∀ x ∈ before, x.outcome.isSuccess = false)
    (hsuccess : success.outcome.isSuccess = true) (after : List Attempt) :
    untilSuccess (before ++ success :: after) = before ++ [success] := by
  rw [untilSuccess_append, if_neg (by simpa using hbefore)]
  simp [untilSuccess, hsuccess]

theorem untilSuccess_untilSuccess_append (a b : List Attempt) :
    untilSuccess (untilSuccess a ++ b) = untilSuccess (a ++ b) := by
  rw [untilSuccess_append, untilSuccess_append, any_untilSuccess]
  split
  · exact untilSuccess_untilSuccess a
  · rename_i hnone
    rw [untilSuccess_eq_self (by simpa using hnone)]

/-! ### Batches -/

/-- Going through batches that each end at their first success is going through one list. -/
theorem firstSuccess_eq (tried : List Attempt) {batches : List (List Attempt)}
    (hcut : ∀ batch ∈ batches, untilSuccess batch = batch) :
    firstSuccess tried batches =
      (batches.flatten.find? (·.outcome.isSuccess)).map fun success =>
        ⟨success.candidate, success.source, tried ++ untilSuccess batches.flatten⟩ := by
  induction batches generalizing tried with
  | nil => rfl
  | cons batch rest ih =>
      have hbatch : untilSuccess batch = batch := hcut batch List.mem_cons_self
      rw [List.flatten_cons, List.find?_append, untilSuccess_append, firstSuccess]
      cases hfind : batch.find? (·.outcome.isSuccess) with
      | some success =>
          have hany : batch.any (·.outcome.isSuccess) = true := by
            rw [List.any_eq_true]
            exact ⟨success, List.mem_of_find?_eq_some hfind, by simpa using List.find?_some hfind⟩
          simp [hany, hbatch]
      | none =>
          have hnone : batch.any (·.outcome.isSuccess) = false := by
            simpa using List.find?_eq_none.1 hfind
          simp only [hnone, Option.none_or]
          rw [ih (tried ++ batch) fun b hb => hcut b (List.mem_cons_of_mem _ hb)]
          simp

/-! ### The sources as candidates -/

theorem ofFields_bind_paths? (fields : Json.Fields) :
    (Descriptor.ofFields fields).toOption.bind Descriptor.paths? =
      match Json.field? "INTEGRATIONBUS_BINPATH" fields,
        Json.field? "INTEGRATIONBUS_LIBPATH" fields with
      | some (.string binary), some (.string library) =>
        if binary = "" ∨ library = "" then none else some (binary, library)
      | _, _ => none := by
  simp only [Descriptor.ofFields, Descriptor.stringField, Descriptor.binaryKey,
    Descriptor.libraryKey]
  rcases Json.field? "INTEGRATIONBUS_BINPATH" fields with _ | (_ | _ | _ | binary | _ | _) <;>
    rcases Json.field? "INTEGRATIONBUS_LIBPATH" fields with _ | (_ | _ | _ | library | _ | _) <;>
    rfl

theorem namedPaths?_eq (anchor : Path) :
    namedPaths? host anchor =
      (loadDescriptor host anchor).toOption.bind fun found => found.bind Descriptor.paths? := by
  rw [namedPaths?, loadDescriptor, Descriptor.load, Descriptor.location]
  cases host.files.readText (anchor.below ["data", "IbInstallation.json"]) with
  | error why => rfl
  | ok text =>
      by_cases hempty : text = ""
      · simp [hempty, Except.toOption]
      · simp only [hempty, if_false, Descriptor.parse]
        cases Json.parse text with
        | error cause => rfl
        | ok value =>
            cases value with
            | object fields =>
                simp only [← ofFields_bind_paths?]
                cases Descriptor.ofFields fields <;> rfl
            | _ => rfl

theorem map_tried_named (anchor : Path) :
    (named host anchor).map (·.tried host platform) = fromDescriptor host platform anchor := by
  rw [named, namedPaths?_eq, fromDescriptor]
  cases loadDescriptor host anchor with
  | error fault => rfl
  | ok found =>
      cases found with
      | none => rfl
      | some descriptor =>
          simp only [Except.toOption, Option.bind_some]
          cases descriptor.paths? with
          | none => rfl
          | some paths => exact congrArg ([·]) (Candidate.tried_located host platform (by simp) _ _)

theorem map_tried_deployed (anchor : Path) :
    (deployed host platform anchor).map (·.tried host platform) =
      (deployments platform).map (atDeployment host platform anchor) := by
  cases platform with
  | posix =>
      rw [deployed, List.map_singleton, Candidate.tried_located _ _ (by simp)]
      rfl
  | windows =>
      rw [deployed, List.map_cons, List.map_singleton, Candidate.tried_located _ _ (by simp),
        Candidate.tried_located _ _ (by simp)]
      rfl

/-- Collecting keeps the directory that came first. -/
theorem head?_foldl_collect (entries found : List Path) :
    (entries.foldl (collect host platform) found).head? =
      (found ++ entries.filter fun entry =>
        host.files.isPresent (libraryFile platform entry)).head? := by
  induction entries generalizing found with
  | nil => simp
  | cons entry rest ih =>
      rw [List.foldl_cons, ih, collect]
      cases found with
      | nil =>
          cases hholds : host.files.isPresent (libraryFile platform entry) <;> simp [hholds]
      | cons first others => split <;> simp

theorem searchPathEntries_eq :
    searchPathEntries host platform = directories (host.environment.searchPath platform) := by
  rw [searchPathEntries, Environment.searchPath]
  cases host.environment.get? "PATH" with
  | none => rfl
  | some value => rfl

theorem head?_librariesOnSearchPath :
    (librariesOnSearchPath host platform).head? = firstOnSearchPath? host platform := by
  rw [librariesOnSearchPath, searchPathEntries_eq, head?_foldl_collect, List.nil_append,
    List.head?_filter]
  rfl

theorem map_tried_onSearchPath :
    (onSearchPath host platform).map (·.tried host platform) = fromSearchPath host platform := by
  cases platform with
  | posix => rfl
  | windows =>
      have hhead := head?_librariesOnSearchPath host .windows
      simp only [onSearchPath, fromSearchPath, Platform.usesSearchPath, Bool.not_true]
      rw [← hhead]
      cases librariesOnSearchPath host .windows <;> rfl

theorem untilSuccess_of_mem_batches {anchor : Option Path} {batch : List Attempt}
    (hbatch : batch ∈ batches host platform anchor) : untilSuccess batch = batch := by
  have hnamed : ∀ anchor, (fromDescriptor host platform anchor).length ≤ 1 := by
    intro anchor
    rw [← map_tried_named, List.length_map, named, List.length_map]
    cases namedPaths? host anchor <;> simp
  have hsearchPath : (fromSearchPath host platform).length ≤ 1 := by
    rw [← map_tried_onSearchPath, List.length_map]
    cases platform with
    | posix => simp [onSearchPath]
    | windows => cases hfirst : firstOnSearchPath? host .windows <;> simp [onSearchPath, hfirst]
  cases anchor with
  | none =>
      obtain rfl : batch = fromSearchPath host platform := by simpa [batches] using hbatch
      exact untilSuccess_of_length_le_one hsearchPath
  | some anchor =>
      have hcases : batch = fromDescriptor host platform anchor ∨
          batch = fromAnchor host platform anchor ∨
          batch = fromDeployment host platform anchor ∨
          batch = fromSearchPath host platform := by
        simpa [batches] using hbatch
      rcases hcases with rfl | rfl | rfl | rfl
      · exact untilSuccess_of_length_le_one (hnamed anchor)
      · exact untilSuccess_of_length_le_one (by simp [fromAnchor])
      · exact untilSuccess_untilSuccess _
      · exact untilSuccess_of_length_le_one hsearchPath

/-- Cutting the attempts of all sources is cutting the attempts at all candidates. -/
theorem untilSuccess_flatten_batches (anchor : Option Path) :
    untilSuccess (batches host platform anchor).flatten =
      untilSuccess ((candidates host platform anchor).map (·.tried host platform)) := by
  cases anchor with
  | none => simp [batches, candidates, map_tried_onSearchPath]
  | some anchor =>
      have hdeployed (rest : List Attempt) :
          untilSuccess (fromDeployment host platform anchor ++ rest) =
            untilSuccess ((deployed host platform anchor).map (·.tried host platform) ++ rest) := by
        rw [fromDeployment, map_tried_deployed, untilSuccess_untilSuccess_append]
      have hlocal : (besideAnchor host anchor).tried host platform =
          attempt host platform .localLayout anchor (anchor.below ["..", "lib"]) :=
        Candidate.tried_located host platform (by simp) _ _
      simp only [batches, candidates, List.map_append, List.map_cons, map_tried_named,
        map_tried_onSearchPath, hlocal, fromAnchor, List.cons_append, List.nil_append,
        List.flatten_cons, List.flatten_nil, List.append_nil, List.append_assoc]
      rw [untilSuccess_append, untilSuccess_append (fromDescriptor host platform anchor),
        untilSuccess, untilSuccess, hdeployed]

/-- The search is the first success in the one list of all candidates, and its record is that list
up to the success. -/
theorem run_eq (anchor : Option Path) :
    run host platform anchor =
      (((candidates host platform anchor).map (·.tried host platform)).find?
        (·.outcome.isSuccess)).map fun success =>
          ⟨success.candidate, success.source,
            untilSuccess ((candidates host platform anchor).map (·.tried host platform))⟩ := by
  have hcut := untilSuccess_flatten_batches host platform anchor
  rw [run, firstSuccess_eq [] fun batch hbatch => untilSuccess_of_mem_batches host platform hbatch,
    ← find?_untilSuccess, hcut, find?_untilSuccess]
  rfl

theorem run_eq_some_iff (anchor : Option Path) (found : Resolution) :
    run host platform anchor = some found ↔
      ∃ before c after, candidates host platform anchor = before ++ c :: after ∧
        (∀ b ∈ before, ¬ b.Passes host platform) ∧ c.Passes host platform ∧
        found = ⟨c.installation, c.source, (before ++ [c]).map (·.tried host platform)⟩ := by
  rw [run_eq, Option.map_eq_some_iff]
  constructor
  · rintro ⟨success, hfind, rfl⟩
    obtain ⟨hsuccess, triedBefore, triedAfter, hsplit, hfailed⟩ :=
      List.find?_eq_some_iff_append.1 hfind
    obtain ⟨before, rest, hlist, rfl, hrest⟩ := List.map_eq_append_iff.1 hsplit
    obtain ⟨c, after, rfl, rfl, rfl⟩ := List.map_eq_cons_iff.1 hrest
    have hbefore : ∀ b ∈ before, (b.tried host platform).outcome.isSuccess = false := by
      intro b hb
      simpa using hfailed _ (List.mem_map_of_mem hb)
    refine ⟨before, c, after, hlist, ?_, (c.isSuccess_tried_iff host platform).1 hsuccess, ?_⟩
    · intro b hb hpasses
      rw [← b.isSuccess_tried_iff host platform, hbefore b hb] at hpasses
      contradiction
    · rw [hsplit, untilSuccess_append_cons (by simpa using hbefore) hsuccess]
      simp [Candidate.tried]
  · rintro ⟨before, c, after, hlist, hbefore, hpasses, rfl⟩
    have hsuccess := (c.isSuccess_tried_iff host platform).2 hpasses
    have hfailed : ∀ x ∈ before.map (·.tried host platform), x.outcome.isSuccess = false := by
      intro x hx
      obtain ⟨b, hb, rfl⟩ := List.mem_map.1 hx
      exact Bool.eq_false_iff.2 fun h => hbefore b hb ((b.isSuccess_tried_iff host platform).1 h)
    rw [hlist, List.map_append, List.map_cons, untilSuccess_append_cons hfailed hsuccess]
    refine ⟨c.tried host platform, List.find?_eq_some_iff_append.2 ⟨hsuccess, _, _, rfl, ?_⟩, ?_⟩
    · intro x hx
      simp [hfailed x hx]
    · simp [Candidate.tried]

theorem exists_run_eq_some_iff (anchor : Option Path) :
    (∃ found, run host platform anchor = some found) ↔
      ∃ c ∈ candidates host platform anchor, c.Passes host platform := by
  rw [run_eq, ← Option.isSome_iff_exists, Option.isSome_map, List.find?_isSome]
  simp only [List.mem_map]
  constructor
  · rintro ⟨_, ⟨c, hc, rfl⟩, hsuccess⟩
    exact ⟨c, hc, (c.isSuccess_tried_iff host platform).1 hsuccess⟩
  · rintro ⟨c, hc, hpasses⟩
    exact ⟨_, ⟨c, hc, rfl⟩, (c.isSuccess_tried_iff host platform).2 hpasses⟩

end Search

namespace Locator

theorem answer_resolution_new (settings : Settings) (host : Host) :
    ((Locator.new settings).resolution host).answer =
      match Search.run host settings.platform
          (settings.anchor? host.workingDir host.programDir) with
      | some found => .ok found
      | none => .error ((Locator.new settings).notFound host) := by
  simp only [resolution, ensureSearched, Locator.new, anchor?]
  cases Search.run host settings.platform (settings.anchor? host.workingDir host.programDir) <;>
    rfl

theorem answer_resolution_new_eq_ok_iff (host : Host) (settings : Settings) (found : Resolution) :
    ((Locator.new settings).resolution host).answer = .ok found ↔
      Search.run host settings.platform (settings.anchor? host.workingDir host.programDir) =
        some found := by
  rw [answer_resolution_new]
  split <;> simp_all

/-- A search succeeds exactly when some candidate of the list passes. It takes the first one that
does, and reports as tried the candidates up to and including this one. The anchor is the directory
of the settings, or else that of the program, as seen from the working directory. -/
theorem resolution_new_firstPassing (settings : Settings) (host : Host) :
    let anchor := (settings.anchorDir <|> host.programDir).map host.locate
    let list := Search.candidates host settings.platform anchor
    let answer := ((Locator.new settings).resolution host).answer
    ((∃ found, answer = .ok found) ↔ ∃ c ∈ list, c.Passes host settings.platform) ∧
      ∀ found, answer = .ok found ↔
        ∃ before c after, list = before ++ c :: after ∧
          (∀ b ∈ before, ¬ b.Passes host settings.platform) ∧ c.Passes host settings.platform ∧
          found.source = c.source ∧ found.installation = c.installation ∧
          found.attempts = (before ++ [c]).map (·.tried host settings.platform) := by
  intro anchor list answer
  have hanswer (found : Resolution) :
      answer = .ok found ↔ Search.run host settings.platform anchor = some found :=
    answer_resolution_new_eq_ok_iff host settings found
  constructor
  · simp only [hanswer]
    exact Search.exists_run_eq_some_iff host settings.platform anchor
  · intro found
    rw [hanswer, Search.run_eq_some_iff]
    cases found
    simp only [Resolution.mk.injEq]
    constructor
    · intro ⟨before, c, after, hlist, hbefore, hpasses, hinstallation, hsource, htried⟩
      exact ⟨before, c, after, hlist, hbefore, hpasses, hsource, hinstallation, htried⟩
    · intro ⟨before, c, after, hlist, hbefore, hpasses, hsource, hinstallation, htried⟩
      exact ⟨before, c, after, hlist, hbefore, hpasses, hinstallation, hsource, htried⟩

end Locator

end BusLocator
