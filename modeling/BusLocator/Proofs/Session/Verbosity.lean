import BusLocator.Proofs.Search.Descriptor
import BusLocator.Proofs.Session.Memory
/-!
# What being talkative changes

Whether a locator announces what it found is asked in two places, in its settings and with the
question whether there is an installation. Both are erased by `muted`. Two locators that are equal
when muted answer alike: the only lines that can differ are the three of an announcement, and those
are information. A step takes such a pair of locators to such a pair, so two sessions that differ in
nothing else stay together for as long as they last.

What a locator says at all is accounted for by `Locator.SpeaksAsDue`.
-/

namespace BusLocator

/-- The settings without the wish for reports. -/
def Settings.muted (settings : Settings) : Settings :=
  { settings with verbose := false }

def Locator.muted (locator : Locator) : Locator :=
  { locator with settings := locator.settings.muted }

def Request.muted : Request → Request
  | .isInstalled _ => .isInstalled false
  | request => request

def Question.muted : Question → Question
  | .isInstalled _ => .isInstalled false
  | q => q

def SessionStep.muted : SessionStep → SessionStep
  | .ask request => .ask request.muted
  | .alter change => .alter change

def troubles (lines : List Diagnostic) : List Diagnostic :=
  lines.filter (·.severity ≠ .info)

/-- Two answers that differ at most in their information, and the locators behind them at most in
the wish for it. -/
structure Answered.Alike {α : Type} (a b : Answered α) : Prop where
  answer : a.answer = b.answer
  locator : a.locator.muted = b.locator.muted
  said : troubles a.said = troubles b.said

theorem Answered.Alike.symm {α : Type} {a b : Answered α} (h : a.Alike b) : b.Alike a :=
  ⟨h.answer.symm, h.locator.symm, h.said.symm⟩

theorem Answered.Alike.trans {α : Type} {a b c : Answered α} (hab : a.Alike b) (hbc : b.Alike c) :
    a.Alike c :=
  ⟨hab.answer.trans hbc.answer, hab.locator.trans hbc.locator, hab.said.trans hbc.said⟩

theorem Question.muted_request (q : Question) : q.request.muted = q.muted.request := by
  cases q <;> rfl

namespace Locator

variable (host : Host) {locator locator' : Locator}

/-! ### One answer -/

theorem troubles_announcement (found : Resolution) (verbose : Bool) (lead : List Diagnostic) :
    troubles (lead ++ if verbose then locator.announcement host found else []) =
      troubles lead := by
  cases verbose <;> simp [troubles, announcement, Diagnostic.info]

theorem recalled_muted (found : Resolution) (q : Question) :
    q.muted.recalled host locator.muted found = q.recalled host locator found := by
  cases q <;> rfl

theorem searched_muted (result : Option Resolution) (q : Question) :
    q.muted.searched host locator.muted result = q.searched host locator result := by
  cases result <;> cases q <;> rfl

theorem regrets_muted (q : Question) :
    q.muted.regrets host locator.muted = q.regrets host locator := by
  cases q <;> rfl

theorem answer_question_muted (locator : Locator) (q : Question) :
    (locator.muted.answer host q.muted.request).Alike (locator.answer host q.request) := by
  cases hknown : locator.known with
  | some found =>
      have hmuted : locator.muted.known = some found := hknown
      rw [answer_of_known host hknown, answer_of_known host hmuted, recalled_muted]
      exact ⟨rfl, rfl, rfl⟩
  | none =>
      have hmuted : locator.muted.known = none := hknown
      cases hsearch : locator.search host with
      | some found =>
          have hsearchMuted : locator.muted.search host = some found := hsearch
          have hreply : q.muted.discovered host locator.muted found = q.discovered host locator found :=
            searched_muted host (some found) q
          rw [answer_of_found host hknown hsearch, answer_of_found host hmuted hsearchMuted]
          refine ⟨hreply, rfl, ?_⟩
          rw [troubles_announcement, troubles_announcement]
          rfl
      | none =>
          have hsearchMuted : locator.muted.search host = none := hsearch
          have hreply : q.muted.missed host locator.muted = q.missed host locator :=
            searched_muted host none q
          rw [answer_of_missed host hknown hsearch, answer_of_missed host hmuted hsearchMuted,
            regrets_muted]
          exact ⟨hreply, rfl, rfl⟩

theorem answer_muted (locator : Locator) {request : Request} (hdescribe : request ≠ .describe) :
    (locator.muted.answer host request.muted).Alike (locator.answer host request) := by
  rcases request.question_or with ⟨q, rfl⟩ | rfl | rfl | rfl
  · rw [q.muted_request]
    exact answer_question_muted host locator q
  · exact ⟨rfl, rfl, rfl⟩
  · contradiction
  · exact ⟨rfl, rfl, rfl⟩

theorem answer_alike (hlocator : locator.muted = locator'.muted) {request request' : Request}
    (hrequest : request.muted = request'.muted) (hdescribe : request ≠ .describe) :
    (locator.answer host request).Alike (locator'.answer host request') := by
  have hdescribe' : request' ≠ .describe := by
    rintro rfl
    cases request <;> simp_all [Request.muted]
  have hmuted := answer_muted host locator hdescribe
  rw [hlocator, hrequest] at hmuted
  exact hmuted.symm.trans (answer_muted host locator' hdescribe')

/-! ### Every line -/

variable (locator)

def HasMalformedDescriptor : Prop :=
  ∃ anchor, locator.anchor? host = some anchor ∧ Search.IsMalformed host anchor

/-- The first line about an installation that was found, which names the source. -/
def sourceLine (descriptor : Path) : Source → String
  | .descriptor =>
    "Found IntegrationBus installation at paths configured in '" ++ descriptor.display ++ "'"
  | .localLayout => "Found IntegrationBus installation at local paths"
  | .deployment _ => "Found IntegrationBus installation that was installed with this Launcher"
  | .searchPath => "Found IntegrationBus installation on the Windows PATH environment"

/-- All that a locator says, and when. -/
structure SpeaksAsDue : Prop where
  of_known : ∀ found, locator.known = some found →
    ∀ q : Question, (locator.answer host q.request).said = []
  /-- A question that searches once says whether the descriptor is malformed, and then what came of
  the search. -/
  of_unknown : locator.known = none →
    ∀ q : Question, (∀ participant text, q ≠ .fill participant text) →
      ∃ lead : List Diagnostic,
        (locator.HasMalformedDescriptor host → ∃ reason, lead =
          [⟨.error, "Installation configuration '" ++ (locator.descriptorPath host).display
            ++ "' invalid ('" ++ reason ++ "')"⟩]) ∧
        (¬ locator.HasMalformedDescriptor host → lead = []) ∧
        (locator.answer host q.request).said = lead ++
          match (locator.answer host q.request).locator.known with
          | some found =>
            if q.isVerbose locator.settings then
              [⟨.info, sourceLine (locator.descriptorPath host) found.source⟩,
                ⟨.info, "  Location for IntegrationBus binaries: '"
                  ++ found.installation.binaryDir.display ++ "'"⟩,
                ⟨.info, "  Location for IntegrationBus libraries: '"
                  ++ found.installation.libraryDir.display ++ "'"⟩]
            else []
          | none => [⟨.error,
            "No IntegrationBus installation found, neither from configuration nor at local paths. "
              ++ "Try to reinstall or configure '" ++ (locator.descriptorPath host).display
              ++ "'."⟩]
  fill : ∀ participant text,
    let binary := locator.answer host .binaryDir
    (locator.answer host (.fill participant text)).said =
      binary.said ++ (binary.locator.answer host .libraryDir).said
  of_no_question : ∀ request, (∀ q : Question, request ≠ q.request) →
    (locator.answer host request).said = []
  no_warning : ∀ request, ∀ line ∈ (locator.answer host request).said, line.severity ≠ .warning

theorem headline_eq_sourceLine (source : Source) :
    locator.headline host source = sourceLine (locator.descriptorPath host) source := by
  cases source with
  | descriptor => rfl
  | localLayout => rfl
  | deployment variant => rfl
  | searchPath => rfl

theorem diagnostics_of_malformed (h : locator.HasMalformedDescriptor host) :
    ∃ reason, Search.diagnostics host (locator.anchor? host) =
      [.error ("Installation configuration '" ++ (locator.descriptorPath host).display
        ++ "' invalid ('" ++ reason ++ "')")] := by
  obtain ⟨anchor, hanchor, hmalformed⟩ := h
  rw [descriptorPath, hanchor]
  exact Search.descriptorDiagnostics_of_isMalformed hmalformed

theorem diagnostics_of_not_malformed (h : ¬ locator.HasMalformedDescriptor host) :
    Search.diagnostics host (locator.anchor? host) = [] := by
  cases hanchor : locator.anchor? host with
  | none => rfl
  | some anchor =>
      exact Search.descriptorDiagnostics_of_not_isMalformed fun hmalformed =>
        h ⟨anchor, hanchor, hmalformed⟩

theorem severity_of_mem_diagnostics {line : Diagnostic}
    (h : line ∈ Search.diagnostics host (locator.anchor? host)) : line.severity = .error := by
  by_cases hmalformed : locator.HasMalformedDescriptor host
  · obtain ⟨reason, hreason⟩ := diagnostics_of_malformed host locator hmalformed
    rw [hreason, List.mem_singleton] at h
    rw [h]
    rfl
  · rw [diagnostics_of_not_malformed host locator hmalformed] at h
    contradiction

theorem severity_of_mem_regrets {q : Question} {line : Diagnostic}
    (h : line ∈ q.regrets host locator) : line.severity = .error := by
  have hregret : line ∈ locator.regret host := by
    cases q with
    | fill participant text => simpa [Question.regrets] using h
    | _ => exact h
  rcases List.mem_append.1 hregret with hlead | hlast
  · exact severity_of_mem_diagnostics host locator hlead
  · rw [List.mem_singleton.1 hlast]
    rfl

theorem severity_of_mem_announcement {found : Resolution} {verbose : Bool} {line : Diagnostic}
    (h : line ∈ if verbose then locator.announcement host found else []) :
    line.severity = .info := by
  cases verbose with
  | false => contradiction
  | true =>
      simp only [if_true, announcement, List.mem_cons, List.not_mem_nil, or_false] at h
      rcases h with rfl | rfl | rfl <;> rfl

theorem severity_ne_warning (request : Request) {line : Diagnostic}
    (h : line ∈ (locator.answer host request).said) : line.severity ≠ .warning := by
  rcases request.question_or with ⟨q, rfl⟩ | rfl | rfl | rfl
  · cases hknown : locator.known with
    | some found =>
        rw [answer_of_known host hknown] at h
        contradiction
    | none =>
        cases hsearch : locator.search host with
        | some found =>
            rw [answer_of_found host hknown hsearch] at h
            rcases List.mem_append.1 h with hlead | hannounced
            · simp [severity_of_mem_diagnostics host locator hlead]
            · simp [severity_of_mem_announcement host locator hannounced]
        | none =>
            rw [answer_of_missed host hknown hsearch] at h
            simp [severity_of_mem_regrets host locator h]
  all_goals contradiction

theorem speaksAsDue : locator.SpeaksAsDue host where
  of_known found hknown q := by rw [answer_of_known host hknown]
  of_unknown hunknown q honce := by
    refine ⟨Search.diagnostics host (locator.anchor? host), diagnostics_of_malformed host locator,
      diagnostics_of_not_malformed host locator, ?_⟩
    cases hsearch : locator.search host with
    | some found =>
        rw [answer_of_found host hunknown hsearch]
        simp only [announcement, headline_eq_sourceLine, Diagnostic.info]
    | none =>
        rw [answer_of_missed host hunknown hsearch]
        simp only [hunknown]
        cases q with
        | fill participant text => exact absurd rfl (honce participant text)
        | _ => rfl
  fill participant text := rfl
  of_no_question request hrequest := by
    rcases request.question_or with ⟨q, rfl⟩ | rfl | rfl | rfl
    · exact absurd rfl (hrequest q)
    all_goals rfl
  no_warning request line := severity_ne_warning host locator request

end Locator

namespace Session

variable (host : Host) {session session' : Session}

/-! ### A session -/

structure Alike (session session' : Session) : Prop where
  locator : session.locator.muted = session'.locator.muted
  tree : session.tree = session'.tree

theorem step_alike (h : session.Alike session') {s s' : SessionStep} (hs : s.muted = s'.muted)
    (hdescribe : s ≠ .ask .describe) :
    (session.step host s).1.1 = (session'.step host s').1.1 ∧
      troubles (session.step host s).1.2 = troubles (session'.step host s').1.2 ∧
      (session.step host s).2.Alike (session'.step host s').2 := by
  cases s with
  | ask request =>
      cases s' with
      | ask request' =>
          have hrequest : request.muted = request'.muted := by simpa [SessionStep.muted] using hs
          have hasked : request ≠ .describe := by
            rintro rfl
            contradiction
          have hanswer := Locator.answer_alike (session.surroundings host) h.locator hrequest hasked
          have hsurroundings : session'.surroundings host = session.surroundings host := by
            rw [surroundings, surroundings, h.tree]
          rw [step_ask, step_ask, hsurroundings]
          exact ⟨hanswer.answer, hanswer.said, hanswer.locator, h.tree⟩
      | alter change => simp [SessionStep.muted] at hs
  | alter change =>
      cases s' with
      | ask request => simp [SessionStep.muted] at hs
      | alter change' =>
          obtain rfl : change = change' := by simpa [SessionStep.muted] using hs
          exact ⟨rfl, rfl, h.locator, congrArg (FileTree.apply · change) h.tree⟩

theorem run_alike (h : session.Alike session') {steps steps' : List SessionStep}
    (hsteps : steps.map (·.muted) = steps'.map (·.muted)) (hdescribe : .ask .describe ∉ steps) :
    (session.run host steps).1.map (·.1) = (session'.run host steps').1.map (·.1) ∧
      (session.run host steps).1.map (troubles ·.2) =
        (session'.run host steps').1.map (troubles ·.2) ∧
      (session.after host steps).Alike (session'.after host steps') := by
  -- The two runs are taken apart together: `hsteps` gives each step its counterpart.
  induction steps generalizing session session' steps' with
  | nil =>
      obtain rfl : steps' = [] := by simpa using hsteps.symm
      exact ⟨rfl, rfl, h⟩
  | cons s steps ih =>
      obtain ⟨s', rest, rfl, hs, hrest⟩ := List.map_eq_cons_iff.1 hsteps.symm
      rw [List.mem_cons, not_or] at hdescribe
      obtain ⟨hreply, hsaid, hnext⟩ := step_alike host h hs.symm (Ne.symm hdescribe.1)
      obtain ⟨hreplies, hlines, hlast⟩ := ih hnext hrest.symm hdescribe.2
      exact ⟨List.cons_eq_cons.2 ⟨hreply, hreplies⟩, List.cons_eq_cons.2 ⟨hsaid, hlines⟩, hlast⟩

/-- The wish for reports changes nothing but information. Two sessions that differ at most in the
settings about it, and in how it is asked whether there is an installation, give the same replies,
say the same warnings and errors step by step, and know the same after every step. Only the
description of the locator itself, which shows its settings, is not asked for.

That needs nothing of the files: two locators that differ in this way answer alike in any
surroundings. And in any surroundings all that a locator says is what is due. -/
theorem verbosity_changes_only_information (host : Host) (settings settings' : Settings)
    (tree : FileTree) (steps steps' : List SessionStep)
    (hsettings : settings.muted = settings'.muted)
    (hsteps : steps.map (·.muted) = steps'.map (·.muted)) (hdescribe : .ask .describe ∉ steps) :
    let start : Session := ⟨Locator.new settings, tree⟩
    let start' : Session := ⟨Locator.new settings', tree⟩
    ((start.run host steps).1.map (·.1) = (start'.run host steps').1.map (·.1) ∧
      (start.run host steps).1.map (troubles ·.2) = (start'.run host steps').1.map (troubles ·.2) ∧
      ∀ n, (start.after host (steps.take n)).locator.known =
        (start'.after host (steps'.take n)).locator.known) ∧
    (∀ (moment : Host) (locator locator' : Locator), locator.muted = locator'.muted →
      ∀ request request' : Request, request.muted = request'.muted → request ≠ .describe →
        (locator.answer moment request).Alike (locator'.answer moment request')) ∧
    ∀ (moment : Host) (locator : Locator), locator.SpeaksAsDue moment := by
  intro start start'
  have hstart : start.Alike start' := ⟨congrArg (Locator.mk · none) hsettings, rfl⟩
  obtain ⟨hreplies, hlines, -⟩ := run_alike host hstart hsteps hdescribe
  refine ⟨⟨hreplies, hlines, fun n => ?_⟩, fun moment locator locator' hlocator request request' =>
    Locator.answer_alike moment hlocator, fun moment locator => locator.speaksAsDue moment⟩
  have hearly : (steps.take n).map (·.muted) = (steps'.take n).map (·.muted) := by
    rw [List.map_take, List.map_take, hsteps]
  have hquiet : .ask .describe ∉ steps.take n := fun h => hdescribe (List.mem_of_mem_take h)
  have hlater := (run_alike host hstart hearly hquiet).2.2.locator
  have hknown : (start.after host (steps.take n)).locator.muted.known =
      (start'.after host (steps'.take n)).locator.muted.known := by rw [hlater]
  exact hknown

/-- A talkative session announces the installation to its first question, a silent one does not, and
that is all. -/
theorem verbosity_changes_only_announcement :
    let host := Locator.busHost Locator.busTree
    let talkative : Session := ⟨Locator.new ⟨none, .posix, true⟩, Locator.busTree⟩
    let silent : Session := ⟨Locator.new ⟨none, .posix, false⟩, Locator.busTree⟩
    let asked (verbose : Bool) : List SessionStep := [.ask .binaryDir, .ask (.isInstalled verbose)]
    (talkative.run host (asked true)).1.map (·.1) = (silent.run host (asked false)).1.map (·.1) ∧
      (talkative.run host (asked true)).1.map (troubles ·.2) =
        (silent.run host (asked false)).1.map (troubles ·.2) ∧
      (talkative.run host (asked true)).1.map (·.2) =
        [[⟨.info, "Found IntegrationBus installation at local paths"⟩,
          ⟨.info, "  Location for IntegrationBus binaries: '/bus/bin'"⟩,
          ⟨.info, "  Location for IntegrationBus libraries: '/bus/lib'"⟩], []] ∧
      (silent.run host (asked false)).1.map (·.2) = [[], []] := by
  intro host talkative silent asked
  obtain ⟨⟨hreplies, hlines, -⟩, -, -⟩ :=
    verbosity_changes_only_information host ⟨none, .posix, true⟩ ⟨none, .posix, false⟩
      Locator.busTree (asked true) (asked false) rfl rfl (by decide)
  exact ⟨hreplies, hlines, by decide +kernel, by decide +kernel⟩

end Session

end BusLocator
