import BusLocator.Proofs.CommandLine.Levels
/-!
# A directory in front

Any command line that gives no anchor directory may be given one in front (`Reads.withAnchor`). A
level is read in small steps that look at the directory only where another one is given, so each of
them goes the same way with a directory there before it (`Frames`), and then so does the whole
level, by induction over its arguments.
-/

namespace BusLocator.CommandLine

variable {grammar : Grammar} {arguments : List Bytes} {p q : Progress} {dir : Path}
  {read more : Progress → Except Halt Progress} {given after before behind : Given}
  {command : Command} {slot : Slot} {value : Bytes}

def Given.withAnchor (given : Given) (dir : Path) : Given :=
  { given with anchorDir := some dir }

def Progress.withAnchor (p : Progress) (dir : Path) : Progress :=
  { p with given := p.given.withAnchor dir }

/-- A step that leaves the level without an anchor directory found it without one, and goes the same
way with any directory there. -/
def Frames (read : Progress → Except Halt Progress) : Prop :=
  ∀ ⦃p q⦄, read p = .ok q → q.given.anchorDir = none →
    p.given.anchorDir = none ∧ ∀ dir, read (p.withAnchor dir) = .ok (q.withAnchor dir)

namespace Frames

theorem ok : Frames .ok := by
  rintro p q ⟨⟩ hq
  exact ⟨hq, fun _ => rfl⟩

theorem error (halt : Halt) : Frames fun _ => .error halt := by
  rintro p q ⟨⟩

theorem bind (hread : Frames read) (hmore : Frames more) : Frames fun p => read p >>= more := by
  intro p r h hr
  obtain ⟨q, hq, hqr⟩ := Except.bind_eq_ok_iff.1 h
  obtain ⟨hqnone, hmoredir⟩ := hmore hqr hr
  obtain ⟨hpnone, hreaddir⟩ := hread hq hqnone
  exact ⟨hpnone, fun dir => Except.bind_eq_ok_iff.2 ⟨_, hreaddir dir, hmoredir dir⟩⟩

theorem foldlM {α : Type} {step : Progress → α → Except Halt Progress}
    (h : ∀ a, Frames (step · a)) (as : List α) : Frames (as.foldlM step ·) := by
  induction as with
  | nil => exact ok
  | cons a as ih =>
      simp only [List.foldlM_cons]
      exact (h a).bind ih

end Frames

/-! ### Filling a slot -/

theorem fillOnce_eq_ok_iff {α : Type} {known : Option α} {read : Except UsageError α}
    {store : α → Given} :
    fillOnce slot known read store = .ok after ↔
      known = none ∧ ∃ a, read = .ok a ∧ store a = after := by
  rw [fillOnce]
  cases known <;> simp [Except.map_eq_ok_iff]

theorem fill_withAnchor (h : given.fill slot value = .ok after) (hafter : after.anchorDir = none) :
    given.anchorDir = none ∧
      ∀ dir, (given.withAnchor dir).fill slot value = .ok (after.withAnchor dir) := by
  cases slot with
  | anchorDir =>
      obtain ⟨-, dir, -, rfl⟩ := fillOnce_eq_ok_iff.1 h
      cases hafter
  | _ =>
      obtain ⟨hknown, a, hread, rfl⟩ := fillOnce_eq_ok_iff.1 h
      exact ⟨hafter, fun dir => fillOnce_eq_ok_iff.2 ⟨hknown, a, hread, rfl⟩⟩

theorem frames_fillSlot (slot : Slot) (value : Bytes) :
    Frames (fun p => do
      let given ← (p.given.fill slot value).mapError .usage
      .ok { p with given := given }) := by
  intro p q h hq
  obtain ⟨after, hfill, heq⟩ := Except.bind_eq_ok_iff.1 h
  obtain rfl := Except.ok.inj heq
  obtain ⟨hnone, hdir⟩ := fill_withAnchor (Except.mapError_eq_ok_iff.1 hfill) hq
  refine ⟨hnone, fun dir => Except.bind_eq_ok_iff.2 ?_⟩
  exact ⟨after.withAnchor dir, Except.mapError_eq_ok_iff.2 (hdir dir), rfl⟩

/-! ### Steps -/

theorem frames_settle : Frames Progress.settle := by
  rintro ⟨given, pending, operands⟩ q h hq
  match pending with
  | none => exact Frames.ok h hq
  | some (slot, none) => cases h
  | some (slot, some value) =>
      let settled : Progress := ⟨given, none, operands⟩
      exact @frames_fillSlot slot value settled q h hq

theorem frames_raise (flag : Flag) : Frames (Progress.raise · flag) := by
  apply frames_settle.bind
  cases flag with
  | help => exact .error _
  | version => exact .error _
  | verbose =>
      intro p q h hq
      simp only at h
      split_ifs at h with hverbose
      obtain rfl := Except.ok.inj h
      exact ⟨hq, fun dir => if_neg hverbose⟩

theorem frames_fill (slot : Slot) (attached : Option Bytes) :
    Frames (Progress.fill · slot attached) := by
  apply frames_settle.bind
  cases attached with
  | none =>
      rintro p q ⟨⟩ hq
      exact ⟨hq, fun _ => rfl⟩
  | some value => exact frames_fillSlot slot value

theorem frames_readLong (grammar : Grammar) (argument : Bytes) :
    Frames (readLong grammar · argument) := by
  simp only [readLong]
  split
  · exact .error _
  · exact frames_fill _ _
  · split
    · exact frames_raise _
    · exact .error _

theorem frames_readShort (grammar : Grammar) (chars : List Char) (junk : Bytes) :
    Frames (readShort grammar · chars junk) := by
  induction chars with
  | nil =>
      cases junk with
      | nil => exact .ok
      | cons b junk => exact .error _
  | cons c cs ih =>
      simp only [readShort]
      split
      · exact .error _
      · exact (frames_raise _).bind ih
      · split <;> exact frames_fill _ _

theorem frames_readOperand (grammar : Grammar) (behindHyphens : Bool) (argument : Bytes) :
    Frames (readOperand grammar behindHyphens · argument) := by
  rintro ⟨given, pending, operands⟩ q h hq
  cases operands with
  | nil =>
      simp only [readOperand] at h
      split_ifs at h
  | cons slot operands =>
      obtain ⟨r, hsettle, heq⟩ := Except.bind_eq_ok_iff.1 h
      obtain rfl := Except.ok.inj heq
      obtain ⟨hnone, hdir⟩ := frames_settle hsettle hq
      exact ⟨hnone, fun dir => Except.bind_eq_ok_iff.2 ⟨_, hdir dir, rfl⟩⟩

/-- Reads an argument that is neither a command nor the end of the options. -/
def readArgument (grammar : Grammar) (p : Progress) (argument : Bytes) : Except Halt Progress :=
  match argument with
  | 0x2D :: 0x2D :: long => readLong grammar p long
  | 0x2D :: b :: short =>
    let (chars, junk) := textAndRest (b :: short)
    readShort grammar p chars junk
  | _ => match p.pending with
    | some (slot, none) => .ok { p with pending := some (slot, some argument) }
    | _ => readOperand grammar false p argument

theorem frames_readArgument (grammar : Grammar) (argument : Bytes) :
    Frames (readArgument grammar · argument) := by
  simp only [readArgument]
  split
  · exact frames_readLong grammar _
  · exact frames_readShort grammar _ _
  · rintro ⟨given, pending, operands⟩ q h hq
    match pending with
    | some (slot, none) =>
        obtain rfl := Except.ok.inj h
        exact ⟨hq, fun _ => rfl⟩
    | none => exact frames_readOperand grammar false argument h hq
    | some (slot, some value) => exact frames_readOperand grammar false argument h hq

/-! ### Levels -/

section Level

variable {argument : Bytes}

theorem readLevel_of_command
    (hcommand : (!p.isAwaiting && grammar.commands.any (Utf8.ofString · = argument)) = true)
    (rest : List Bytes) :
    readLevel grammar p (argument :: rest) = .ok (p, some (argument, rest)) := by
  rw [readLevel.eq_def]
  exact if_pos hcommand

theorem readLevel_of_hyphens
    (hcommand : (!p.isAwaiting && grammar.commands.any (Utf8.ofString · = [0x2D, 0x2D])) = false)
    (rest : List Bytes) :
    readLevel grammar p ([0x2D, 0x2D] :: rest) =
      rest.foldlM (readOperand grammar true) p >>= fun p => .ok (p, none) := by
  rw [readLevel.eq_def]
  exact if_neg (Bool.eq_false_iff.1 hcommand)

theorem readLevel_of_other
    (hcommand : (!p.isAwaiting && grammar.commands.any (Utf8.ofString · = argument)) = false)
    (hhyphens : argument ≠ [0x2D, 0x2D]) (rest : List Bytes) :
    readLevel grammar p (argument :: rest) =
      readArgument grammar p argument >>= fun p => readLevel grammar p rest := by
  rw [readLevel.eq_def]
  simp only [hcommand, Bool.false_eq_true, if_false]
  split
  · contradiction
  · rfl
  · rename_i hlong
    rw [readArgument]
    exact hlong
  · rename_i hlong hshort
    rw [readArgument]
    · cases p.pending with
      | none => rfl
      | some pending =>
          obtain ⟨slot, value⟩ := pending
          cases value <;> rfl
    · exact hlong
    · exact hshort

end Level

theorem readLevel_withAnchor {below : Option (Bytes × List Bytes)}
    (h : readLevel grammar p arguments = .ok (q, below)) (hq : q.given.anchorDir = none) :
    p.given.anchorDir = none ∧
      ∀ dir, readLevel grammar (p.withAnchor dir) arguments = .ok (q.withAnchor dir, below) := by
  induction arguments generalizing p with
  | nil =>
      cases h
      exact ⟨hq, fun _ => rfl⟩
  | cons argument rest ih =>
      cases hcommand :
          !p.isAwaiting && grammar.commands.any (Utf8.ofString · = argument) with
      | true =>
          rw [readLevel_of_command hcommand] at h
          cases h
          exact ⟨hq, fun dir => readLevel_of_command (p := q.withAnchor dir) hcommand rest⟩
      | false =>
          by_cases hhyphens : argument = [0x2D, 0x2D]
          · subst hhyphens
            rw [readLevel_of_hyphens hcommand] at h
            obtain ⟨r, hread, heq⟩ := Except.bind_eq_ok_iff.1 h
            cases heq
            obtain ⟨hnone, hdir⟩ := Frames.foldlM (frames_readOperand grammar true) rest hread hq
            refine ⟨hnone, fun dir => ?_⟩
            rw [readLevel_of_hyphens (p := p.withAnchor dir) hcommand]
            exact Except.bind_eq_ok_iff.2 ⟨_, hdir dir, rfl⟩
          · rw [readLevel_of_other hcommand hhyphens] at h
            obtain ⟨r, hread, hrest⟩ := Except.bind_eq_ok_iff.1 h
            obtain ⟨hrnone, hrestdir⟩ := ih hrest
            obtain ⟨hnone, hdir⟩ := frames_readArgument grammar argument hread hrnone
            refine ⟨hnone, fun dir => ?_⟩
            rw [readLevel_of_other (p := p.withAnchor dir) hcommand hhyphens]
            exact Except.bind_eq_ok_iff.2 ⟨_, hdir dir, hrestdir dir⟩

/-! ### Both levels -/

def anchorArgument (dir : Path) : Bytes :=
  Utf8.ofString "--anchor-dir=" ++ dir.bytes

theorem readLevel_anchorArgument (hdir : dir.bytes ≠ []) (arguments : List Bytes) :
    readLevel topLevel { operands := topLevel.operands } (anchorArgument dir :: arguments) =
      readLevel topLevel (Progress.withAnchor { operands := topLevel.operands } dir) arguments := by
  obtain ⟨_ | ⟨b, bytes⟩⟩ := dir
  · exact absurd rfl hdir
  have hhyphens : anchorArgument ⟨b :: bytes⟩ ≠ [0x2D, 0x2D] := by
    intro h
    cases h
  rw [readLevel_of_other rfl hhyphens]
  rfl

theorem Ends.withAnchor (h : Ends topLevel p before) (hnone : before.anchorDir = none) :
    p.given.anchorDir = none ∧
      ∀ dir, Ends topLevel (p.withAnchor dir) (before.withAnchor dir) := by
  obtain ⟨⟨q, hsettle, rfl⟩, -⟩ := h
  obtain ⟨hpnone, hdir⟩ := frames_settle hsettle hnone
  exact ⟨hpnone, fun dir => ⟨⟨q.withAnchor dir, hdir dir, rfl⟩, rfl⟩⟩

theorem Reads.withAnchor (h : Reads arguments command before behind)
    (hnone : before.anchorDir = none) (hdir : dir.bytes ≠ []) :
    Reads (anchorArgument dir :: arguments) command (before.withAnchor dir) behind := by
  obtain ⟨above, named, below, ends_before, ends_behind⟩ := h
  obtain ⟨htop, hends⟩ := ends_before.withAnchor hnone
  refine ⟨?_, named, below, hends dir, ends_behind⟩
  rw [readLevel_anchorArgument hdir]
  exact (readLevel_withAnchor above htop).2 dir

end BusLocator.CommandLine
