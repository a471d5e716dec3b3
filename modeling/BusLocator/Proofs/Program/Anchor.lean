import BusLocator.FileTree
import BusLocator.Program
import BusLocator.Proofs.CommandLine.Framing
/-!
# The anchor directory of a run

Two places take an anchor directory from the environment: the settings, which ignore an empty
variable, and the command line, which refuses one at each level where no directory is given. Where
the command line is not refused both have the same directory (`anchorDir_eq_withEnvironment`), so a
run goes by the directory of the settings, or it does not start.
-/

namespace BusLocator.Program

open CommandLine

variable {start : Start} {env : Environment} {arguments : List Bytes} {before behind : Given}
  {invocation : Invocation} {dir : Path}

def settingsAt (anchorDir : Option Path) : Settings :=
  { Settings.default with anchorDir := anchorDir }

/-- The command line gives an anchor directory before the command and another one behind it. -/
def GivesAnchorTwice (arguments : List Bytes) : Prop :=
  ∃ command before behind, Reads arguments command before behind ∧
    before.anchorDir.isSome ∧ behind.anchorDir.isSome

/-! ### The directory -/

theorem withEnvironment_of_hasEmptyAnchor (settings : Settings) (h : HasEmptyAnchor env) :
    settings.withEnvironment env = settings := by
  have hvalue : env.get? Settings.anchorVariable = some [] := h
  rw [Settings.withEnvironment, hvalue]
  cases settings.anchorDir <;> rfl

theorem anchorDir_of_nothing_set (before behind : Given) :
    anchorDir ⟨[]⟩ before behind = (behind.anchorDir <|> before.anchorDir) := by
  rw [anchorDir]
  cases behind.anchorDir <;> cases before.anchorDir <;> rfl

/-- A directory that is given counts most in both places, and of what the environment holds they
treat only the empty directory differently. -/
theorem anchorDir_eq_withEnvironment
    (h : HasEmptyAnchor env → before.anchorDir.isSome ∧ behind.anchorDir.isSome) :
    anchorDir env before behind =
      ((settingsAt (anchorDir ⟨[]⟩ before behind)).withEnvironment env).anchorDir := by
  rw [anchorDir_of_nothing_set, anchorDir, settingsAt, Settings.withEnvironment]
  cases hbehind : behind.anchorDir with
  | some dir => rfl
  | none =>
      cases hbefore : before.anchorDir with
      | some dir => rfl
      | none =>
          cases hvalue : env.get? Settings.anchorVariable with
          | none => rfl
          | some value =>
              cases value with
              | nil =>
                  obtain ⟨-, hsome⟩ := h hvalue
                  rw [hbehind] at hsome
                  cases hsome
              | cons b bytes => rfl

/-! ### The command line -/

theorem parse_eq_withEnvironment (h : parse ⟨[]⟩ arguments = .ok invocation)
    (hempty : HasEmptyAnchor env → GivesAnchorTwice arguments) :
    parse env arguments = .ok { invocation with
      anchorDir := ((settingsAt invocation.anchorDir).withEnvironment env).anchorDir } := by
  obtain ⟨command, before, behind, action, hreads, haction, rfl⟩ := exists_reads_of_parse h
  have htwice : HasEmptyAnchor env → before.anchorDir.isSome ∧ behind.anchorDir.isSome := by
    intro henv
    obtain ⟨_, _, _, hreads', htwice⟩ := hempty henv
    obtain ⟨-, rfl, rfl⟩ := hreads.unique hreads'
    exact htwice
  have hkept : ¬(HasEmptyAnchor env ∧ ¬(before.anchorDir.isSome ∧ behind.anchorDir.isSome)) :=
    fun hrefused => hrefused.2 (htwice hrefused.1)
  rw [parse_of_reads hreads haction, if_neg hkept, anchorDir_eq_withEnvironment htwice]

theorem parse_of_hasEmptyAnchor (h : parse ⟨[]⟩ arguments = .ok invocation)
    (hempty : HasEmptyAnchor env) (honce : ¬GivesAnchorTwice arguments) :
    parse env arguments = .error (.usage (.valueMissing .anchorDir)) := by
  obtain ⟨command, before, behind, action, hreads, haction, rfl⟩ := exists_reads_of_parse h
  have hmissing : ¬(before.anchorDir.isSome ∧ behind.anchorDir.isSome) := fun htwice =>
    honce ⟨command, before, behind, hreads, htwice⟩
  rw [parse_of_reads hreads haction, if_pos ⟨hempty, hmissing⟩]

theorem parse_anchorArgument (h : parse ⟨[]⟩ arguments = .ok invocation)
    (hnone : invocation.anchorDir = none) (hdir : dir.bytes ≠ []) :
    parse ⟨[]⟩ (anchorArgument dir :: arguments) =
      .ok { invocation with anchorDir := some dir } := by
  obtain ⟨command, before, behind, action, hreads, haction, rfl⟩ := exists_reads_of_parse h
  obtain ⟨hbehind, hbefore⟩ : behind.anchorDir = none ∧ before.anchorDir = none := by
    simpa [anchorDir_of_nothing_set] using hnone
  have hset : ¬HasEmptyAnchor ⟨[]⟩ := by decide
  rw [parse_of_reads (hreads.withAnchor hbefore hdir) haction, if_neg fun h => hset h.1,
    anchorDir_of_nothing_set, hbehind]
  rfl

/-! ### The run -/

/-- The directory a run goes by. Take a command line that is accepted where nothing is set, and the
settings with the directory it gives, if any, and what the environment adds. A directory that is
given stays, whatever the environment holds, and any but the empty one can be given. The run is
carried out with the directory of the settings, unless the variable is set to nothing: then it is
only carried out if the command line gives a directory at both of its levels, and is refused
otherwise, although the settings have what they would have without the variable. -/
theorem run_anchor_eq_settings (h : parse ⟨[]⟩ start.arguments = .ok invocation) :
    let env := EnvironmentFile.load start.files start.workingDir start.environment
    let library := (settingsAt invocation.anchorDir).withEnvironment env
    let agreed : Invocation := { invocation with anchorDir := library.anchorDir }
    (invocation.anchorDir = none → library = Settings.ofEnvironment env) ∧
      (∀ dir, invocation.anchorDir = some dir → library.anchorDir = some dir) ∧
      ((HasEmptyAnchor env → GivesAnchorTwice start.arguments) →
        parse env start.arguments = .ok agreed ∧
          (settings agreed).anchorDir = library.anchorDir ∧
          run start = finished (carryOut { start with environment := env }.host agreed)) ∧
      (HasEmptyAnchor env → ¬GivesAnchorTwice start.arguments →
        library.anchorDir = invocation.anchorDir ∧
          parse env start.arguments = .error (.usage (.valueMissing .anchorDir)) ∧
          run start = halted (.usage (.valueMissing .anchorDir))) ∧
      (invocation.anchorDir = none → ∀ dir : Path, dir.bytes ≠ [] →
        parse ⟨[]⟩ (anchorArgument dir :: start.arguments) =
          .ok { invocation with anchorDir := some dir }) := by
  intro env library agreed
  refine ⟨fun hnone => ?_, fun dir hdir => ?_,
    fun hempty => ?_, fun hempty honce => ?_,
    fun hnone dir hdir => parse_anchorArgument h hnone hdir⟩
  · simp only [library, hnone]
    rfl
  · simp only [library, hdir]
    rfl
  · have hparse : parse env start.arguments = .ok agreed := parse_eq_withEnvironment h hempty
    refine ⟨hparse, rfl, ?_⟩
    rw [run]
    simp only [env, hparse]
  · have hparse := parse_of_hasEmptyAnchor h hempty honce
    refine ⟨congrArg _ (withEnvironment_of_hasEmptyAnchor _ hempty), hparse, ?_⟩
    rw [run]
    simp only [env, hparse]

/-- A directory of the environment with an installation beside it. -/
theorem run_anchor_eq_settings_installed :
    let files := ((FileTree.empty.addDirectory (.ofString "/ib/bin")).addFile
      (.ofString "/ib/lib/libIntegrationBus.so") []).asWritten
    let start : Start := ⟨[Utf8.ofString "status"],
      ⟨[("IBLAUNCHER_ANCHOR_DIR", Utf8.ofString "/ib/bin")]⟩, none, none, none, files⟩
    parse ⟨[]⟩ start.arguments = .ok ⟨false, none, .status⟩ ∧
      (Settings.ofEnvironment start.environment).anchorDir = some (.ofString "/ib/bin") ∧
      run start = ⟨0, "IntegrationBus installation found\n", ""⟩ ∧
      parse ⟨[]⟩ (["--anchor-dir=/ib", "status"].map Utf8.ofString) =
        .ok ⟨false, some (.ofString "/ib"), .status⟩ := by
  intro files start
  have hparse : parse ⟨[]⟩ start.arguments = .ok ⟨false, none, .status⟩ := by decide +kernel
  obtain ⟨-, -, hcarried, -, hgiven⟩ := run_anchor_eq_settings hparse
  have hempty : ¬HasEmptyAnchor (EnvironmentFile.load files none start.environment) := by
    decide +kernel
  obtain ⟨-, -, hrun⟩ := hcarried fun h => absurd h hempty
  refine ⟨hparse, by decide +kernel, hrun.trans (by decide +kernel), ?_⟩
  exact hgiven rfl (.ofString "/ib") (by decide)

/-- Beside an empty variable a run fails that is told where the installation is, as one does that is
told nothing. -/
theorem run_fails_beside_empty_anchor :
    let files := ((FileTree.empty.addDirectory (.ofString "/ib/bin")).addFile
      (.ofString "/ib/lib/libIntegrationBus.so") []).asWritten
    let env : Environment := ⟨[("IBLAUNCHER_ANCHOR_DIR", [])]⟩
    let given := ["--anchor-dir", "/ib/bin", "status"].map Utf8.ofString
    let message := "error: a value is required for '--anchor-dir <ANCHOR_DIR>' but none was " ++
      "supplied\n\nFor more information, try '--help'.\n"
    parse ⟨[]⟩ given = .ok ⟨false, some (.ofString "/ib/bin"), .status⟩ ∧
      ((settingsAt (some (.ofString "/ib/bin"))).withEnvironment env).anchorDir =
        some (.ofString "/ib/bin") ∧
      run ⟨given, ⟨[]⟩, none, none, none, files⟩ =
        ⟨0, "IntegrationBus installation found\n", ""⟩ ∧
      run ⟨given, env, none, none, none, files⟩ = ⟨2, "", message⟩ ∧
      parse ⟨[]⟩ [Utf8.ofString "status"] = .ok ⟨false, none, .status⟩ ∧
      (Settings.ofEnvironment env).anchorDir = none ∧
      run ⟨[Utf8.ofString "status"], env, none, none, none, files⟩ = ⟨2, "", message⟩ := by
  decide +kernel

end BusLocator.Program
