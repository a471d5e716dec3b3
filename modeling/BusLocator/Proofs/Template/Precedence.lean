import BusLocator.Proofs.Locator.Answer
import BusLocator.Proofs.Template.Cleared
/-!
# Placeholders come before variables

A placeholder is named like an environment variable, and placeholders are replaced before references
to variables are expanded. When nothing that is put in makes a reference, no text can get at the
variables of these names any more. The search does not look at them either, so they have no
influence on what a locator fills in, on what it says or on what it knows afterwards.
-/

namespace BusLocator

/-- Environments that differ at most in the variables that are named like placeholders. -/
def AgreeBeyondPlaceholders (env env' : Environment) : Prop :=
  ∀ name, (∀ p : Template.Placeholder, name ≠ p.name) → env.get? name = env'.get? name

variable {host : Host} {env : Environment}

namespace Search

theorem run_congr_environment (hpath : host.environment.get? "PATH" = env.get? "PATH")
    (platform : Platform) (anchor : Option Path) :
    run { host with environment := env } platform anchor = run host platform anchor := by
  have hentries : searchPathEntries { host with environment := env } platform =
      searchPathEntries host platform := by
    rw [searchPathEntries, searchPathEntries, hpath]
  have hlibraries : librariesOnSearchPath { host with environment := env } platform =
      librariesOnSearchPath host platform := by
    rw [librariesOnSearchPath, hentries]
    rfl
  have hbatch : fromSearchPath { host with environment := env } platform =
      fromSearchPath host platform := by
    rw [fromSearchPath, hlibraries]
    rfl
  simp only [run, batches, hbatch]
  rfl

end Search

namespace Template

/-! ### The values -/

theorem isRooted_displayWithSlash {p : Path} (h : IsRooted p.display.toList) :
    IsRooted p.displayWithSlash.toList := by
  obtain ⟨hhead, hpercent, hdollar⟩ := h
  rw [Path.displayWithSlash]
  split
  · exact ⟨hhead, hpercent, hdollar⟩
  · refine ⟨?_, ?_, ?_⟩
    · rw [String.toList_append, List.head?_append, hhead]
      rfl
    all_goals simp_all

theorem isMixedWord_domainText (participant : Participant) :
    IsMixedWord participant.domainText.toList := by
  rw [Participant.domainText, Nat.toString_eq_repr, Nat.toList_repr]
  have hdigits : ∀ c ∈ Nat.toDigits 10 participant.domain.toNat, c.isDigit = true :=
    fun c => Nat.isDigit_of_mem_toDigits (by decide) (by decide)
  obtain ⟨c, hc⟩ := List.exists_mem_of_ne_nil (Nat.toDigits 10 participant.domain.toNat)
    Nat.toDigits_ne_nil
  exact ⟨fun c hc => .inl (isAlphanum_iff.2 (.inr (hdigits c hc))), c, hc, .inr (hdigits c hc)⟩

theorem isHarmless_value {installation : Installation} {participant : Participant}
    (hbinary : IsRooted installation.binaryDir.display.toList)
    (hlibrary : IsRooted installation.libraryDir.display.toList)
    (hconfig : IsRooted participant.configText.toList)
    (hname : IsMixedWord participant.name.toList) (p : Placeholder) :
    IsHarmless (p.value (some installation) participant).toList := by
  cases p with
  | binaryDir => exact .inl (isRooted_displayWithSlash hbinary)
  | libraryDir => exact .inl (isRooted_displayWithSlash hlibrary)
  | configFile => exact .inl hconfig
  | participantName => exact .inr hname
  | domain => exact .inr (isMixedWord_domainText participant)

/-! ### Filling in -/

/-- Harmless values leave nothing in the text that refers to a variable named like a
placeholder. -/
theorem fill_congr_environment {installation : Option Installation} {participant : Participant}
    (hvalue : ∀ p : Placeholder, IsHarmless (p.value installation participant).toList)
    (henv : AgreeBeyondPlaceholders host.environment env) (platform : Platform)
    (text : List Char) :
    fill host platform installation participant text =
      fill { host with environment := env } platform installation participant text := by
  have hexpand : expandReferences platform host.environment
        (substituteAll (Placeholder.value installation participant) text) =
      expandReferences platform env
        (substituteAll (Placeholder.value installation participant) text) := by
    refine expandAfter_congr fun suffix hsuffix r hreference => ?_
    have hother (p : Placeholder) : String.ofList r.name ≠ p.name := by
      intro heq
      refine not_reference_of_cleared (cleared_substituteAll hvalue p text) hsuffix hreference ?_
      rw [← heq, String.toList_ofList]
    rw [value?, value?, henv _ hother]
  rw [fill, fill, hexpand]

end Template

/-- What a locator with an installation fills in does not depend on variables that are named like
placeholders, nor does anything else about its answer. -/
theorem Locator.fill_eq_of_agreeBeyondPlaceholders {locator : Locator} {participant : Participant}
    {installed : Installation}
    (hinstalled : (locator.installation host).answer = some installed)
    (hbinary : Template.IsRooted installed.binaryDir.display.toList)
    (hlibrary : Template.IsRooted installed.libraryDir.display.toList)
    (hconfig : Template.IsRooted participant.configText.toList)
    (hname : Template.IsMixedWord participant.name.toList)
    (henv : AgreeBeyondPlaceholders host.environment env) (text : String) :
    locator.fill host participant text =
      locator.fill { host with environment := env } participant text := by
  have hvalue := Template.isHarmless_value hbinary hlibrary hconfig hname
  have hpath : host.environment.get? "PATH" = env.get? "PATH" :=
    henv "PATH" (by intro p; cases p <;> decide)
  have hsearch : locator.search { host with environment := env } = locator.search host :=
    Search.run_congr_environment hpath _ _
  cases hknown : locator.known with
  | some found =>
      rw [Locator.installation, resolution_of_known host hknown] at hinstalled
      obtain rfl : found.installation = installed := Option.some.inj hinstalled
      rw [fill_of_known host hknown, fill_of_known _ hknown,
        Template.fill_congr_environment hvalue henv]
  | none =>
      cases hfound : locator.search host with
      | some found =>
          rw [Locator.installation, resolution_of_found host hknown hfound] at hinstalled
          obtain rfl : found.installation = installed := Option.some.inj hinstalled
          rw [fill_of_found host hknown hfound, fill_of_found _ hknown (hsearch.trans hfound),
            Template.fill_congr_environment hvalue henv]
          rfl
      | none =>
          rw [Locator.installation, resolution_of_missed host hknown hfound] at hinstalled
          exact (Option.some_ne_none _ hinstalled.symm).elim

def shadowedHost : Host where
  environment := ⟨[(Participant.domainVariable, Utf8.ofString "7")]⟩
  home := none
  workingDir := none
  programDir := none
  files := ⟨fun p =>
    if p = .ofString "/bus" ∨ p = .ofString "/lib" then .directory
    else if p = .ofString "/lib/libIntegrationBus.so" then .file []
    else .absent .notFound⟩

/-- A placeholder within the name of another variable does not complete the name of one. -/
theorem Locator.fill_shadowedHost :
    (Locator.new ⟨some (.ofString "/bus"), .posix, false⟩).fill shadowedHost
        ⟨.ofString "/bus.json", "Engine1", 0⟩
        "$INTEGRATIONBUS_$INTEGRATIONBUS_DOMAINIDDOMAINID" =
      (Locator.new ⟨some (.ofString "/bus"), .posix, false⟩).fill
        { shadowedHost with environment := ⟨[]⟩ }
        ⟨.ofString "/bus.json", "Engine1", 0⟩
        "$INTEGRATIONBUS_$INTEGRATIONBUS_DOMAINIDDOMAINID" := by
  have henv : AgreeBeyondPlaceholders shadowedHost.environment ⟨[]⟩ := by
    intro name hname
    have hdomain : (name == Participant.domainVariable) = false :=
      beq_eq_false_iff_ne.2 (hname .domain)
    rw [shadowedHost, Environment.get?, List.lookup_cons, hdomain]
    rfl
  have hinstalled : ((Locator.new ⟨some (.ofString "/bus"), .posix, false⟩).installation
      shadowedHost).answer = some ⟨.ofString "/bus", .ofString "/lib"⟩ := rfl
  have hword : "Engine1".toList.all (fun c => c.isAlphanum || c = '_') = true := by
    decide +kernel
  refine fill_eq_of_agreeBeyondPlaceholders hinstalled ?_ ?_ ?_ ?_ henv _
  · exact ⟨by decide +kernel, by decide +kernel, by decide +kernel⟩
  · exact ⟨by decide +kernel, by decide +kernel, by decide +kernel⟩
  · exact ⟨by decide +kernel, by decide +kernel, by decide +kernel⟩
  · refine ⟨fun c hc => ?_, 'n', by decide +kernel, by decide +kernel⟩
    simpa using List.all_eq_true.1 hword c hc

end BusLocator
