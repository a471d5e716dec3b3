import BusLocator.Locator.Session
/-!
# What a locator answers

Every question for the installation goes through `ensureSearched`, which has three outcomes: the
installation was known, it was found just now, or there is none. For each of them this file gives
the answer, the locator after it and the lines it says as one equation for all questions. Nothing
else unfolds the questions.
-/

namespace BusLocator

/-- The requests that ask for the installation. -/
inductive Question where
  | isInstalled (verbose : Bool)
  | binaryDir
  | libraryDir
  | libraryFile
  | installation
  | resolution
  | fill (participant : Participant) (text : String)

def Locator.search (host : Host) (locator : Locator) : Option Resolution :=
  Search.run host locator.settings.platform (locator.anchor? host)

def Locator.regret (host : Host) (locator : Locator) : List Diagnostic :=
  Search.diagnostics host (locator.anchor? host) ++ [.error (locator.notFound host).message]

namespace Question

def request : Question → Request
  | .isInstalled verbose => .isInstalled verbose
  | .binaryDir => .binaryDir
  | .libraryDir => .libraryDir
  | .libraryFile => .libraryFile
  | .installation => .installation
  | .resolution => .resolution
  | .fill participant text => .fill participant text

/-- Whether an installation found for the question is announced. -/
def isVerbose (settings : Settings) : Question → Bool
  | .isInstalled verbose => verbose
  | _ => settings.verbose

variable (host : Host) (locator : Locator)

/-- The answer from a resolution that is known. Only the first kind of question looks at the
files. -/
def recalled (found : Resolution) : Question → Reply
  | .isInstalled _ =>
    .flag (Search.isStillValid host locator.settings.platform found.source found.installation)
  | .binaryDir => .path (some found.installation.binaryDir)
  | .libraryDir => .path (some found.installation.libraryDir)
  | .libraryFile =>
    .path (some
      (found.installation.libraryDir.join (.ofString locator.settings.platform.libraryName)))
  | .installation => .installation (some found.installation)
  | .resolution => .resolution (.ok found)
  | .fill participant text =>
    .text (String.ofList
      (Template.fill host locator.settings.platform (some found.installation) participant
        text.toList))

/-- The answer from a resolution that was found just now. That needs no second look at the files. -/
def discovered (found : Resolution) (q : Question) : Reply :=
  match q with
  | .isInstalled _ => .flag true
  | _ => q.recalled host locator found

def missed : Question → Reply
  | .isInstalled _ => .flag false
  | .binaryDir | .libraryDir | .libraryFile => .path none
  | .installation => .installation none
  | .resolution => .resolution (.error (locator.notFound host))
  | .fill participant text =>
    .text (String.ofList
      (Template.fill host locator.settings.platform none participant text.toList))

def searched (result : Option Resolution) (q : Question) : Reply :=
  match result with
  | some found => q.discovered host locator found
  | none => q.missed host locator

/-- The lines of a failed search, for each search that the question makes. -/
def regrets (q : Question) : List Diagnostic :=
  match q with
  | .fill _ _ => locator.regret host ++ locator.regret host
  | _ => locator.regret host

end Question

theorem Request.question_or (request : Request) :
    (∃ q : Question, request = q.request) ∨ request = .descriptorPath ∨ request = .describe ∨
      request = .invalidate := by
  cases request with
  | isInstalled verbose => exact .inl ⟨.isInstalled verbose, rfl⟩
  | binaryDir => exact .inl ⟨.binaryDir, rfl⟩
  | libraryDir => exact .inl ⟨.libraryDir, rfl⟩
  | libraryFile => exact .inl ⟨.libraryFile, rfl⟩
  | installation => exact .inl ⟨.installation, rfl⟩
  | resolution => exact .inl ⟨.resolution, rfl⟩
  | fill participant text => exact .inl ⟨.fill participant text, rfl⟩
  | descriptorPath => exact .inr (.inl rfl)
  | describe => exact .inr (.inr (.inl rfl))
  | invalidate => exact .inr (.inr (.inr rfl))

namespace Locator

variable (host : Host) {locator : Locator} {found : Resolution}

/-! ### The three outcomes of looking -/

theorem ensureSearched_of_known (hknown : locator.known = some found) (verbose : Bool) :
    locator.ensureSearched host verbose =
      ⟨Search.isStillValid host locator.settings.platform found.source found.installation, locator,
        []⟩ := by
  simp [ensureSearched, hknown]

theorem ensureSearched_of_found (hunknown : locator.known = none)
    (hfound : locator.search host = some found) (verbose : Bool) :
    locator.ensureSearched host verbose =
      ⟨true, { locator with known := some found },
        Search.diagnostics host (locator.anchor? host)
          ++ if verbose then locator.announcement host found else []⟩ := by
  rw [search] at hfound
  simp [ensureSearched, hunknown, hfound]

theorem ensureSearched_of_missed (hunknown : locator.known = none)
    (hmissed : locator.search host = none) (verbose : Bool) :
    locator.ensureSearched host verbose = ⟨false, locator, locator.regret host⟩ := by
  rw [search] at hmissed
  simp [ensureSearched, hunknown, hmissed, regret]

/-! ### What there is to know -/

theorem resolution_of_known (hknown : locator.known = some found) :
    locator.resolution host = ⟨.ok found, locator, []⟩ := by
  rw [resolution, ensureSearched_of_known host hknown]
  simp [Answered.map, hknown]

theorem resolution_of_found (hunknown : locator.known = none)
    (hfound : locator.search host = some found) :
    locator.resolution host =
      ⟨.ok found, { locator with known := some found },
        Search.diagnostics host (locator.anchor? host)
          ++ if locator.settings.verbose then locator.announcement host found else []⟩ := by
  rw [resolution, ensureSearched_of_found host hunknown hfound]
  rfl

theorem resolution_of_missed (hunknown : locator.known = none)
    (hmissed : locator.search host = none) :
    locator.resolution host =
      ⟨.error (locator.notFound host), locator, locator.regret host⟩ := by
  rw [resolution, ensureSearched_of_missed host hunknown hmissed]
  simp [Answered.map, hunknown]

/-! ### Filling in a text -/

variable {participant : Participant} {text : String}

theorem fill_of_known (hknown : locator.known = some found) :
    locator.fill host participant text =
      ⟨String.ofList (Template.fill host locator.settings.platform (some found.installation)
          participant text.toList), locator, []⟩ := by
  simp only [fill, binaryDir, libraryDir, installation, resolution_of_known host hknown,
    Answered.map]
  rfl

/-- Filling in a text looks twice. The second look finds the installation known. -/
theorem fill_of_found (hunknown : locator.known = none)
    (hfound : locator.search host = some found) :
    locator.fill host participant text =
      ⟨String.ofList (Template.fill host locator.settings.platform (some found.installation)
          participant text.toList), { locator with known := some found },
        Search.diagnostics host (locator.anchor? host)
          ++ if locator.settings.verbose then locator.announcement host found else []⟩ := by
  have hagain : Locator.resolution host { locator with known := some found } =
      ⟨.ok found, { locator with known := some found }, []⟩ := resolution_of_known host rfl
  simp only [fill, binaryDir, libraryDir, installation, resolution_of_found host hunknown hfound,
    hagain, Answered.map, List.append_nil]
  rfl

/-- The second look for a text searches once more, if the first found nothing. -/
theorem fill_of_missed (hunknown : locator.known = none) (hmissed : locator.search host = none) :
    locator.fill host participant text =
      ⟨String.ofList (Template.fill host locator.settings.platform none participant text.toList),
        locator, locator.regret host ++ locator.regret host⟩ := by
  simp only [fill, binaryDir, libraryDir, installation, resolution_of_missed host hunknown hmissed,
    Answered.map]
  rfl

/-- What is filled in depends on the locator only through the installation that it knows or
finds. -/
theorem answer_fill (locator : Locator) (participant : Participant) (text : String) :
    (locator.fill host participant text).answer =
      String.ofList (Template.fill host locator.settings.platform
        (locator.installation host).answer participant text.toList) := by
  cases hknown : locator.known with
  | some found =>
      rw [fill_of_known host hknown, installation, resolution_of_known host hknown]
      rfl
  | none =>
      cases hfound : locator.search host with
      | some found =>
          rw [fill_of_found host hknown hfound, installation,
            resolution_of_found host hknown hfound]
          rfl
      | none =>
          rw [fill_of_missed host hknown hfound, installation,
            resolution_of_missed host hknown hfound]
          rfl

/-! ### The answers -/

theorem answer_of_known (hknown : locator.known = some found) (q : Question) :
    locator.answer host q.request = ⟨q.recalled host locator found, locator, []⟩ := by
  have hresolution := resolution_of_known host hknown
  cases q with
  | isInstalled verbose =>
      rw [Question.request, answer, isInstalled, ensureSearched_of_known host hknown]
      rfl
  | fill participant text =>
      rw [Question.request, answer, fill_of_known host hknown]
      rfl
  | _ =>
      simp only [Question.request, answer, binaryDir, libraryDir, libraryFile, installation,
        hresolution, Answered.map]
      rfl

theorem answer_of_found (hunknown : locator.known = none)
    (hfound : locator.search host = some found) (q : Question) :
    locator.answer host q.request =
      ⟨q.discovered host locator found, { locator with known := some found },
        Search.diagnostics host (locator.anchor? host)
          ++ if q.isVerbose locator.settings then locator.announcement host found else []⟩ := by
  have hresolution := resolution_of_found host hunknown hfound
  cases q with
  | isInstalled verbose =>
      rw [Question.request, answer, isInstalled, ensureSearched_of_found host hunknown hfound]
      rfl
  | fill participant text =>
      rw [Question.request, answer, fill_of_found host hunknown hfound]
      rfl
  | _ =>
      simp only [Question.request, answer, binaryDir, libraryDir, libraryFile, installation,
        hresolution, Answered.map]
      rfl

theorem answer_of_missed (hunknown : locator.known = none)
    (hmissed : locator.search host = none) (q : Question) :
    locator.answer host q.request = ⟨q.missed host locator, locator, q.regrets host locator⟩ := by
  have hresolution := resolution_of_missed host hunknown hmissed
  cases q with
  | isInstalled verbose =>
      rw [Question.request, answer, isInstalled, ensureSearched_of_missed host hunknown hmissed]
      rfl
  | fill participant text =>
      rw [Question.request, answer, fill_of_missed host hunknown hmissed]
      rfl
  | _ =>
      simp only [Question.request, answer, binaryDir, libraryDir, libraryFile, installation,
        hresolution, Answered.map]
      rfl

theorem answer_locator_of_known (hknown : locator.known = some found) {request : Request}
    (hforget : request ≠ .invalidate) : (locator.answer host request).locator = locator := by
  rcases request.question_or with ⟨q, rfl⟩ | rfl | rfl | rfl
  · rw [answer_of_known host hknown]
  · rfl
  · rfl
  · contradiction

theorem settings_answer (locator : Locator) (request : Request) :
    (locator.answer host request).locator.settings = locator.settings := by
  rcases request.question_or with ⟨q, rfl⟩ | rfl | rfl | rfl
  · cases hknown : locator.known with
    | some found => rw [answer_of_known host hknown]
    | none =>
        cases hsearch : locator.search host with
        | some found => rw [answer_of_found host hknown hsearch]
        | none => rw [answer_of_missed host hknown hsearch]
  all_goals rfl

/-- What is known after a request was known before, or was found for it. -/
theorem known_of_answer {request : Request}
    (h : (locator.answer host request).locator.known = some found) :
    locator.known = some found ∨ (locator.known = none ∧ locator.search host = some found) := by
  rcases request.question_or with ⟨q, rfl⟩ | rfl | rfl | rfl
  · cases hknown : locator.known with
    | some earlier =>
        rw [answer_of_known host hknown] at h
        exact .inl (hknown ▸ h)
    | none =>
        right
        cases hsearch : locator.search host with
        | some result =>
            rw [answer_of_found host hknown hsearch] at h
            exact ⟨rfl, h⟩
        | none =>
            rw [answer_of_missed host hknown hsearch, hknown] at h
            contradiction
  · exact .inl h
  · exact .inl h
  · contradiction

end Locator

end BusLocator
