import BusLocator.Proofs.Descriptor.Decoding
import BusLocator.Proofs.FileTree.Entries
import BusLocator.Proofs.Locator.Answer
import BusLocator.Proofs.Path.Sameness
import BusLocator.Proofs.Search.Candidates
/-!
# A descriptor that names nothing

The descriptor is the only file whose text the search reads, and it is read by one source alone. All
other sources ask whether something is at a path, and none of these paths leads to the descriptor:
they end in another name, except for the directory of the anchor itself, which is too short. So a
descriptor that names no two paths takes nothing away from the search, whatever is wrong with it,
and the most it can do is to be complained about.

That the paths are told apart by where they lead, and not by their spelling, makes this true of files
seen as written and of files seen as walked.
-/

namespace BusLocator

/-- Whether two paths, seen from the working directory, lead to different places. -/
def Host.Separates (host : Host) (p q : Path) : Prop :=
  (host.locate p).same (host.locate q) = false

namespace Search

variable {host : Host} {files : FileSystem} {anchor : Path}

/-- Other files for a host, where the same directories and files are there in every place but one.
What the files hold in the other places does not matter. -/
def AgreeBeside (host : Host) (files : FileSystem) (place : Path) : Prop :=
  ∀ p, host.Separates p place →
    files.isPresent p = host.files.isPresent p ∧ files.isFile p = host.files.isFile p

/-- The descriptor can be read and is not empty, but it is no JSON or no object, or gives one of the
two paths as something that is neither a string nor null. -/
def IsMalformed (host : Host) (anchor : Path) : Prop :=
  ∃ text, host.files.readText (anchor.below ["data", "IbInstallation.json"]) = .ok text ∧
    text ≠ "" ∧
    match Json.parse text with
    | .ok (.object fields) =>
      ∃ key ∈ ["INTEGRATIONBUS_BINPATH", "INTEGRATIONBUS_LIBPATH"],
        ∃ value ∈ Json.field? key fields, value ≠ .null ∧ ∀ path, value ≠ .string path
    | _ => True

/-! ### What there is to complain about -/

theorem mapError_ok {ε ε' α : Type} (f : ε → ε') (a : α) :
    (Except.ok a).mapError f = .ok a := rfl

theorem mapError_error {ε ε' α : Type} (f : ε → ε') (e : ε) :
    (Except.error e : Except ε α).mapError f = .error (f e) := rfl

theorem loadDescriptor_eq_error_iff :
    (∃ fault, loadDescriptor host anchor = .error fault) ↔ IsMalformed host anchor := by
  rw [loadDescriptor, Descriptor.load, Descriptor.location, IsMalformed]
  cases hread : host.files.readText (anchor.below ["data", "IbInstallation.json"]) with
  | error why => simp
  | ok text =>
      by_cases hempty : text = ""
      · simp [hempty]
      · have hfields := Descriptor.ofFields_eq_error_iff
        simp only [hempty, if_false, Descriptor.parse, Except.ok.injEq, exists_eq_left', ne_eq,
          not_false_iff, true_and]
        cases Json.parse text with
        | error cause => simp [Except.map, mapError_error]
        | ok value =>
            cases value with
            | object fields =>
                simp only
                rw [← hfields fields]
                cases Descriptor.ofFields fields <;> simp [Except.map, mapError_ok, mapError_error]
            | _ => simp [Except.map, mapError_error]

theorem file_of_loadDescriptor {fault : DescriptorFault}
    (h : loadDescriptor host anchor = .error fault) :
    fault.file = anchor.below ["data", "IbInstallation.json"] := by
  rw [loadDescriptor, Descriptor.load] at h
  split at h
  · contradiction
  · split at h
    · contradiction
    · rename_i text _ _
      cases hparse : Descriptor.parse text with
      | ok descriptor => simp [hparse, Except.map, mapError_ok] at h
      | error problem =>
          simp only [hparse, Except.map, mapError_error, Except.error.injEq] at h
          rw [← h]
          rfl

theorem descriptorDiagnostics_of_isMalformed (h : IsMalformed host anchor) :
    ∃ reason, descriptorDiagnostics host anchor =
      [.error ("Installation configuration '"
        ++ (anchor.below ["data", "IbInstallation.json"]).display
        ++ "' invalid ('" ++ reason ++ "')")] := by
  obtain ⟨fault, hfault⟩ := loadDescriptor_eq_error_iff.2 h
  refine ⟨fault.problem.message, ?_⟩
  rw [descriptorDiagnostics, hfault, ← file_of_loadDescriptor hfault]
  rfl

theorem descriptorDiagnostics_of_not_isMalformed (h : ¬ IsMalformed host anchor) :
    descriptorDiagnostics host anchor = [] := by
  rw [descriptorDiagnostics]
  cases hload : loadDescriptor host anchor with
  | ok descriptor => rfl
  | error fault => exact absurd (loadDescriptor_eq_error_iff.1 ⟨fault, hload⟩) h

theorem readText_of_not_isFile {p : Path} (h : host.files.isFile p = false) :
    ∃ why, host.files.readText p = .error why := by
  rw [FileSystem.isFile] at h
  rw [FileSystem.readText]
  cases hentry : host.files.entry p with
  | absent why => exact ⟨why, rfl⟩
  | directory => exact ⟨.isADirectory, rfl⟩
  | file content => simp [hentry, Entry.isFile] at h
  | sealed => simp [hentry, Entry.isFile] at h

theorem descriptorDiagnostics_of_not_isFile
    (h : host.files.isFile (anchor.below ["data", "IbInstallation.json"]) = false) :
    descriptorDiagnostics host anchor = [] ∧ namedPaths? host anchor = none := by
  obtain ⟨why, hread⟩ := readText_of_not_isFile h
  constructor
  · refine descriptorDiagnostics_of_not_isMalformed ?_
    rintro ⟨text, htext, -⟩
    rw [hread] at htext
    contradiction
  · rw [namedPaths?, hread]

/-! ### What the other sources look at -/

def SpellsName (text : String) : Prop :=
  (Path.ofString text).opening = [] ∧
    (Path.ofString text).components = [.name (Utf8.ofString text)]

instance (text : String) : Decidable (SpellsName text) :=
  inferInstanceAs (Decidable (_ ∧ _))

theorem components_join_of_spellsName {text : String} (h : SpellsName text) (p : Path) :
    (p.join (.ofString text)).components = p.components ++ [.name (Utf8.ofString text)] := by
  rw [Path.components_join h.1, h.2]

theorem below_singleton (p : Path) (name : String) : p.below [name] = p.join (.ofString name) :=
  rfl

theorem below_pair (p : Path) (first second : String) :
    p.below [first, second] = (p.join (.ofString first)).join (.ofString second) :=
  rfl

theorem components_location (anchor : Path) :
    (Descriptor.location anchor).components =
      anchor.components ++ [.name (Utf8.ofString "data"),
        .name (Utf8.ofString "IbInstallation.json")] := by
  have hdata : SpellsName "data" := by decide +kernel
  have hfile : SpellsName "IbInstallation.json" := by decide +kernel
  rw [Descriptor.location, below_pair, components_join_of_spellsName hfile,
    components_join_of_spellsName hdata, List.append_assoc]
  rfl

/-- A path that ends in another name leads somewhere else than to the descriptor. -/
theorem separates_of_getLast? {p : Path} {bytes : Bytes}
    (hlast : p.components.getLast? = some (.name bytes))
    (hbytes : bytes ≠ Utf8.ofString "IbInstallation.json") :
    host.Separates p (Descriptor.location anchor) := by
  have hfile : (Descriptor.location anchor).components.getLast? =
      some (.name (Utf8.ofString "IbInstallation.json")) := by
    rw [components_location]
    simp
  have hp : (host.locate p).components.getLast? = _ :=
    Path.getLast?_components_normalizeFrom hlast
  have hdescriptor : (host.locate (Descriptor.location anchor)).components.getLast? = _ :=
    Path.getLast?_components_normalizeFrom hfile
  rw [Host.Separates, Path.same_eq_false_iff]
  intro hsame
  rw [hsame, hdescriptor] at hp
  exact hbytes (by simpa using hp.symm)

section Join

variable {text : String}
  (hname : SpellsName text ∧ Utf8.ofString text ≠ Utf8.ofString "IbInstallation.json") (p : Path)

include hname

theorem getLast?_components_join :
    (p.join (.ofString text)).components.getLast? = some (.name (Utf8.ofString text)) := by
  rw [components_join_of_spellsName hname.1, List.getLast?_concat]

theorem separates_join :
    host.Separates (p.join (.ofString text)) (Descriptor.location anchor) :=
  separates_of_getLast? (getLast?_components_join hname p) hname.2

theorem separates_locate_join :
    host.Separates (host.locate (p.join (.ofString text))) (Descriptor.location anchor) :=
  separates_of_getLast?
    (Path.getLast?_components_normalizeFrom (getLast?_components_join hname p)) hname.2

end Join

theorem separates_libraryFile (platform : Platform) (libraryDir : Path) :
    host.Separates (libraryFile platform libraryDir) (Descriptor.location anchor) := by
  have hname : SpellsName platform.libraryName ∧
      Utf8.ofString platform.libraryName ≠ Utf8.ofString "IbInstallation.json" := by
    cases platform <;> decide +kernel
  exact separates_join hname libraryDir

theorem locate_eq_normalize {p : Path} (h : host.workingDir = none ∨ p.isAbsolute = true) :
    host.locate p = p.normalize := by
  unfold Host.locate Path.normalizeFrom
  split
  · rfl
  · rename_i hrelative
    rw [h.resolve_right hrelative]

/-- The directory of the anchor is two steps short of the descriptor. -/
theorem separates_locate_anchor (h : host.workingDir = none ∨ anchor.isAbsolute = true) :
    host.Separates (host.locate anchor) (Descriptor.location anchor) := by
  -- The candidate is located once by the search and once more to see where it leads.
  have htwice : (host.locate (host.locate anchor)).components.length ≤
      max 1 anchor.place.length := by
    have hagain : host.workingDir = none ∨ anchor.normalize.isAbsolute = true :=
      h.imp_right Path.isAbsolute_normalize
    have hlocated := Path.length_components_normalize_le anchor
    have hrelocated := Path.length_components_normalize_le anchor.normalize
    have hplaced := Path.length_place_le anchor.normalize
    rw [locate_eq_normalize h, locate_eq_normalize hagain]
    omega
  have hplace : (Descriptor.location anchor).place =
      .name (Utf8.ofString "IbInstallation.json") :: .name (Utf8.ofString "data") ::
        anchor.place := by
    rw [Path.place, components_location, List.foldl_append]
    rfl
  have hlocation : host.workingDir = none ∨ (Descriptor.location anchor).isAbsolute = true := by
    rw [Descriptor.location, below_pair]
    exact h.imp_right fun habsolute => Path.isAbsolute_join (Path.isAbsolute_join habsolute)
  have hbelow : (host.locate (Descriptor.location anchor)).components.length =
      anchor.place.length + 2 := by
    rw [locate_eq_normalize hlocation, Path.components_normalize, hplace]
    simp
  rw [Host.Separates, Path.same_eq_false_iff]
  intro hsame
  rw [hsame, hbelow] at htwice
  omega

/-! ### The search beside the descriptor -/

section Beside

variable (platform : Platform) (hagree : AgreeBeside host files (Descriptor.location anchor))

include hagree

theorem check_congr {candidate : Installation}
    (hbinary : host.Separates candidate.binaryDir (Descriptor.location anchor))
    (hlibrary : host.Separates candidate.libraryDir (Descriptor.location anchor)) :
    check { host with files } platform candidate = check host platform candidate := by
  have hlibraryFile := (hagree _ (separates_libraryFile platform candidate.libraryDir)).2
  simp only [check, (hagree _ hbinary).1, (hagree _ hlibrary).1, hlibraryFile]

theorem attempt_congr {binaryDir libraryDir : Path} (source : Source)
    (hbinary : host.Separates (host.locate binaryDir) (Descriptor.location anchor))
    (hlibrary : host.Separates (host.locate libraryDir) (Descriptor.location anchor)) :
    attempt { host with files } platform source binaryDir libraryDir =
      attempt host platform source binaryDir libraryDir := by
  have hcheck : check { host with files } platform
      ⟨host.locate binaryDir, host.locate libraryDir⟩ = _ :=
    check_congr platform hagree hbinary hlibrary
  exact congrArg (Attempt.mk source _) hcheck

theorem fromAnchor_congr (h : host.workingDir = none ∨ anchor.isAbsolute = true) :
    fromAnchor { host with files } platform anchor = fromAnchor host platform anchor := by
  have hlibrary : host.Separates (host.locate (anchor.below ["..", "lib"]))
      (Descriptor.location anchor) := by
    rw [below_pair]
    exact separates_locate_join (by decide +kernel) _
  rw [fromAnchor, attempt_congr platform hagree _ (separates_locate_anchor h) hlibrary, fromAnchor]

theorem atDeployment_congr (variant : Deployment) :
    atDeployment { host with files } platform anchor variant =
      atDeployment host platform anchor variant := by
  have hbinary : host.Separates (host.locate ((deploymentRoot anchor variant).below ["bin"]))
      (Descriptor.location anchor) := by
    rw [below_singleton]
    exact separates_locate_join (by decide +kernel) _
  have hlibrary : host.Separates (host.locate ((deploymentRoot anchor variant).below ["lib"]))
      (Descriptor.location anchor) := by
    rw [below_singleton]
    exact separates_locate_join (by decide +kernel) _
  rw [atDeployment, attempt_congr platform hagree _ hbinary hlibrary, atDeployment]

theorem fromSearchPath_congr :
    fromSearchPath { host with files } platform = fromSearchPath host platform := by
  have hcollect : collect { host with files } platform = collect host platform := by
    funext found entry
    rw [collect, collect, (hagree _ (separates_libraryFile platform entry)).1]
  rw [fromSearchPath, fromSearchPath, librariesOnSearchPath, librariesOnSearchPath, hcollect]
  rfl

end Beside

theorem fromDescriptor_of_namedPaths? (platform : Platform)
    (h : namedPaths? host anchor = none) : fromDescriptor host platform anchor = [] := by
  rw [← map_tried_named, named, h]
  rfl

/-- A search comes to the same result whether there is no descriptor or one that names nothing. -/
theorem run_congr (platform : Platform)
    (hground : host.workingDir = none ∨ anchor.isAbsolute = true)
    (hagree : AgreeBeside host files (Descriptor.location anchor))
    (habsent : namedPaths? host anchor = none)
    (huseless : namedPaths? { host with files } anchor = none) :
    run { host with files } platform (some anchor) = run host platform (some anchor) := by
  have hdeployment : atDeployment { host with files } platform anchor =
      atDeployment host platform anchor := funext (atDeployment_congr platform hagree)
  rw [run, run, batches, batches]
  simp only [fromDescriptor_of_namedPaths? platform habsent,
    fromDescriptor_of_namedPaths? platform huseless, fromAnchor_congr platform hagree hground,
    fromDeployment, hdeployment, fromSearchPath_congr platform hagree]

/-! ### A tree with one more file -/

/-- Adding one file to a directory of a tree, or changing it there, leaves everything beside it as it
was. -/
theorem agreeBeside_addFile {tree : FileTree} (hfiles : host.files = tree.asWritten) {p : Path}
    (hp : p.isAbsolute = true)
    (hdirs : ∀ dir ∈ FileTree.lineage p.components.dropLast, dir ∈ tree.directories)
    (content : Bytes) : AgreeBeside host (tree.addFile p content).asWritten p := by
  intro q hq
  have hne : q.components ≠ p.components := by
    intro hsame
    have hqp : q.isAbsolute = true := by
      rwa [Path.isAbsolute_iff, hsame, ← Path.isAbsolute_iff]
    rw [Host.Separates, Path.same_eq_false_iff, locate_eq_normalize (.inr hp),
      locate_eq_normalize (.inr hqp), Path.components_normalize, Path.components_normalize,
      Path.place, Path.place, hsame] at hq
    exact hq rfl
  have hentry : (tree.addFile p content).entryAt q.components = tree.entryAt q.components := by
    apply FileTree.entryAt_congr (tree.lookup_addFile_of_ne hne content)
    rw [FileTree.mem_addFile_iff, or_iff_left_of_imp (hdirs _)]
  have hfiles' : (tree.addFile p content).asWritten.entry q = host.files.entry q := by
    rw [hfiles]
    exact hentry
  simp only [FileSystem.isPresent, FileSystem.isFile, hfiles', and_self]

end Search

namespace Locator

variable {host : Host} {files : FileSystem} {locator : Locator} {anchor : Path}

theorem isAbsolute_of_anchor? (hanchor : locator.anchor? host = some anchor)
    (hworking : ∀ dir ∈ host.workingDir, dir.isAbsolute = true) :
    host.workingDir = none ∨ anchor.isAbsolute = true := by
  cases hdir : host.workingDir with
  | none => exact .inl rfl
  | some dir =>
      rw [Locator.anchor?, Settings.anchor?, Option.map_eq_some_iff, hdir] at hanchor
      obtain ⟨start, -, rfl⟩ := hanchor
      exact .inr (Path.isAbsolute_normalizeFrom (hworking dir hdir) start)

theorem searched_files (files : FileSystem) (result : Option Resolution) (q : Question) :
    q.searched { host with files } locator result = q.searched host locator result := by
  -- What was found just now is taken for present, so no reply looks at the files again.
  cases result <;> cases q <;> rfl

/-- A descriptor that names no two paths cannot hide an installation. A host without a descriptor is
compared with other files that are the same everywhere else and hold a descriptor of that kind. Both
searches come to the same result, with the same source, installation and attempts, and both say the
same, but for one error in front that names the descriptor if that is malformed. A working directory
is an absolute path. -/
theorem search_of_useless_descriptor (host : Host) (files : FileSystem) (locator : Locator)
    (anchor : Path) (hunknown : locator.known = none)
    (hworking : ∀ dir ∈ host.workingDir, dir.isAbsolute = true)
    (hanchor : locator.anchor? host = some anchor)
    (hagree : Search.AgreeBeside host files (anchor.below ["data", "IbInstallation.json"]))
    (habsent : host.files.isFile (anchor.below ["data", "IbInstallation.json"]) = false)
    (huseless : Search.namedPaths? { host with files } anchor = none) :
    let other := { host with files }
    locator.search other = locator.search host ∧
      ∃ lead : List Diagnostic,
        (Search.IsMalformed other anchor → ∃ reason, lead =
          [.error ("Installation configuration '"
            ++ (anchor.below ["data", "IbInstallation.json"]).display
            ++ "' invalid ('" ++ reason ++ "')")]) ∧
        (¬ Search.IsMalformed other anchor → lead = []) ∧
        (∀ verbose,
          (locator.ensureSearched other verbose).answer =
              (locator.ensureSearched host verbose).answer ∧
            (locator.ensureSearched other verbose).locator =
              (locator.ensureSearched host verbose).locator ∧
            (locator.ensureSearched other verbose).said =
              lead ++ (locator.ensureSearched host verbose).said) ∧
        ∀ q : Question,
          (locator.answer other q.request).answer = (locator.answer host q.request).answer ∧
            (locator.answer other q.request).locator = (locator.answer host q.request).locator ∧
            ((∀ participant text, q ≠ .fill participant text) →
              (locator.answer other q.request).said =
                lead ++ (locator.answer host q.request).said) := by
  intro other
  have hground := isAbsolute_of_anchor? hanchor hworking
  obtain ⟨hsilent, hnone⟩ := Search.descriptorDiagnostics_of_not_isFile habsent
  have hquiet : Search.diagnostics host (locator.anchor? host) = [] := by
    rw [hanchor]
    exact hsilent
  have hlead : Search.diagnostics other (locator.anchor? other) =
      Search.descriptorDiagnostics other anchor := congrArg (Search.diagnostics other) hanchor
  have hsearch : locator.search other = locator.search host := by
    have hrun := Search.run_congr locator.settings.platform hground hagree hnone huseless
    rw [← hanchor] at hrun
    exact hrun
  refine ⟨hsearch, Search.descriptorDiagnostics other anchor,
    Search.descriptorDiagnostics_of_isMalformed, Search.descriptorDiagnostics_of_not_isMalformed,
    ?_⟩
  cases hfound : locator.search host with
  | some found =>
      have hother := hsearch.trans hfound
      refine ⟨fun verbose => ?_, fun q => ?_⟩
      · rw [ensureSearched_of_found host hunknown hfound,
          ensureSearched_of_found other hunknown hother, hquiet, hlead]
        exact ⟨rfl, rfl, rfl⟩
      · rw [answer_of_found host hunknown hfound, answer_of_found other hunknown hother, hquiet,
          hlead]
        exact ⟨searched_files files (some found) q, rfl, fun _ => rfl⟩
  | none =>
      have hother := hsearch.trans hfound
      have hregret : locator.regret other =
          Search.descriptorDiagnostics other anchor ++ locator.regret host := by
        rw [regret, regret, hquiet, hlead]
        rfl
      refine ⟨fun verbose => ?_, fun q => ?_⟩
      · rw [ensureSearched_of_missed host hunknown hfound,
          ensureSearched_of_missed other hunknown hother, hregret]
        exact ⟨rfl, rfl, rfl⟩
      · rw [answer_of_missed host hunknown hfound, answer_of_missed other hunknown hother]
        refine ⟨searched_files files none q, rfl, fun honce => ?_⟩
        cases q with
        | fill participant text => exact absurd rfl (honce participant text)
        | _ => exact hregret

/-- A tree with an installation beside the anchor `/bus/bin`, and room for a descriptor. -/
def busTree : FileTree :=
  (FileTree.empty.addFile (.ofString "/bus/lib/libIntegrationBus.so") []).addDirectory
    (.ofString "/bus/bin/data")

def busHost (tree : FileTree) : Host where
  environment := ⟨[]⟩
  home := none
  workingDir := some (.ofString "/")
  programDir := some (.ofString "/bus/bin")
  files := tree.asWritten

/-- A descriptor that gives a path as a number leaves the installation to be found beside the
anchor. -/
theorem search_of_mistyped_descriptor :
    let locator := Locator.new ⟨none, .posix, false⟩
    let mistyped := busTree.addFile (.ofString "/bus/bin/data/IbInstallation.json")
      (Utf8.ofString "\x7b\"INTEGRATIONBUS_BINPATH\": 7\x7d")
    locator.search (busHost mistyped) =
        some ⟨⟨.ofString "/bus/bin", .ofString "/bus/lib"⟩, .localLayout,
          [⟨.localLayout, ⟨.ofString "/bus/bin", .ofString "/bus/lib"⟩, .complete⟩]⟩ ∧
      ∃ reason, (locator.isInstalled (busHost mistyped) false).said =
        [.error ("Installation configuration '/bus/bin/data/IbInstallation.json' invalid ('"
          ++ reason ++ "')")] := by
  intro locator mistyped
  have hplace : (Path.ofString "/bus/bin").below ["data", "IbInstallation.json"] =
      .ofString "/bus/bin/data/IbInstallation.json" := by decide +kernel
  have hbare : locator.search (busHost busTree) =
      some ⟨⟨.ofString "/bus/bin", .ofString "/bus/lib"⟩, .localLayout,
        [⟨.localLayout, ⟨.ofString "/bus/bin", .ofString "/bus/lib"⟩, .complete⟩]⟩ := by
    decide +kernel
  have hquiet : (locator.ensureSearched (busHost busTree) false).said = [] := by decide +kernel
  have hagree : Search.AgreeBeside (busHost busTree) mistyped.asWritten
      ((Path.ofString "/bus/bin").below ["data", "IbInstallation.json"]) := by
    rw [hplace]
    exact Search.agreeBeside_addFile rfl (by decide +kernel) (by decide +kernel) _
  have hmalformed : Search.IsMalformed (busHost mistyped) (.ofString "/bus/bin") := by
    refine Classical.byContradiction fun hsound => ?_
    have hsilent := Search.descriptorDiagnostics_of_not_isMalformed hsound
    exact absurd hsilent (by decide +kernel)
  obtain ⟨hsearch, lead, hlead, -, hsame, -⟩ :=
    search_of_useless_descriptor (busHost busTree) mistyped.asWritten locator (.ofString "/bus/bin")
      rfl (by decide +kernel) (by decide +kernel) hagree (by decide +kernel) (by decide +kernel)
  obtain ⟨reason, hreason⟩ := hlead hmalformed
  refine ⟨hsearch.trans hbare, reason, ?_⟩
  have hsaid := (hsame false).2.2
  rw [hquiet, List.append_nil, hreason, hplace] at hsaid
  exact hsaid

end Locator

end BusLocator
