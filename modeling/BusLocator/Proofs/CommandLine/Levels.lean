import BusLocator.CommandLine.Invocation
import BusLocator.Proofs.Except
/-!
# The levels of a command line

Nothing but the ends of the two levels looks at the environment, and only at one variable. So a
command line reads in one way (`Reads`), and what comes of it in an environment is an equation
(`parse_of_reads`): it is refused if the variable is set to nothing and a level is without an anchor
directory, and else the variable counts least.
-/

namespace BusLocator.CommandLine

variable {grammar : Grammar} {env : Environment} {arguments : List Bytes} {p q : Progress}
  {command command' : Command} {given given' before before' behind behind' : Given}
  {action : Action} {invocation : Invocation}

/-! ### The end of a level -/

/-- The environment sets the anchor directory, but to nothing. -/
def HasEmptyAnchor (env : Environment) : Prop :=
  env.get? Settings.anchorVariable = some []

instance : Decidable (HasEmptyAnchor env) :=
  inferInstanceAs (Decidable (env.get? Settings.anchorVariable = some []))

/-- A level may end here, whatever the environment, and this was given at it. -/
structure Ends (grammar : Grammar) (p : Progress) (given : Given) : Prop where
  settles : ∃ q, p.settle = .ok q ∧ q.given = given
  complete : grammar.required.filter (!given.has ·) = []

/-- A directory in the environment is only looked at if none is given, and only for being empty. -/
theorem endLevel_of_settle (hsettle : p.settle = .ok q) :
    endLevel grammar env p =
      if HasEmptyAnchor env ∧ q.given.anchorDir = none then
        .error (.usage (.valueMissing .anchorDir))
      else if grammar.required.filter (!q.given.has ·) = [] then .ok q.given
      else .error (.usage (.missing (grammar.required.filter (!q.given.has ·)))) := by
  rw [endLevel, hsettle]
  simp only [bind, Except.bind]
  cases hdir : q.given.anchorDir with
  | some dir => simp
  | none =>
      cases hvalue : env.get? Settings.anchorVariable with
      | none => simp [HasEmptyAnchor, hvalue]
      | some value =>
          cases value <;> simp [HasEmptyAnchor, hvalue, pathValue, Except.mapError, discard,
            Functor.discard] <;> rfl

theorem endLevel_of_ends (h : Ends grammar p given) :
    endLevel grammar env p =
      if HasEmptyAnchor env ∧ given.anchorDir = none then .error (.usage (.valueMissing .anchorDir))
      else .ok given := by
  obtain ⟨⟨q, hsettle, rfl⟩, hcomplete⟩ := h
  rw [endLevel_of_settle hsettle, if_pos hcomplete]

theorem ends_of_endLevel (h : endLevel grammar env p = .ok given) : Ends grammar p given := by
  obtain ⟨q, hsettle, -⟩ := Except.bind_eq_ok_iff.1 h
  rw [endLevel_of_settle hsettle] at h
  split_ifs at h with hempty hcomplete
  obtain rfl := Except.ok.inj h
  exact ⟨⟨q, hsettle, rfl⟩, hcomplete⟩

/-! ### Both levels -/

/-- What a command line says, whatever the environment: the command, and what is given before it and
behind it. -/
inductive Reads (arguments : List Bytes) (command : Command) (before behind : Given) : Prop
  | intro {top progress : Progress} {word : Bytes} {rest : List Bytes}
      {left : Option (Bytes × List Bytes)}
      (above : readLevel topLevel { operands := topLevel.operands } arguments =
        .ok (top, some (word, rest)))
      (named : Command.ofWord? word = some command)
      (below : readLevel command.grammar { operands := command.grammar.operands } rest =
        .ok (progress, left))
      (ends_before : Ends topLevel top before)
      (ends_behind : Ends command.grammar progress behind)

theorem Ends.unique (h : Ends grammar p given) (h' : Ends grammar p given') : given = given' := by
  obtain ⟨⟨q, hsettle, rfl⟩, -⟩ := h
  obtain ⟨⟨q', hsettle', rfl⟩, -⟩ := h'
  rw [hsettle] at hsettle'
  cases hsettle'
  rfl

theorem Reads.unique (h : Reads arguments command before behind)
    (h' : Reads arguments command' before' behind') :
    command = command' ∧ before = before' ∧ behind = behind' := by
  obtain ⟨above, named, below, ends_before, ends_behind⟩ := h
  obtain ⟨above', named', below', ends_before', ends_behind'⟩ := h'
  rw [above] at above'
  cases above'
  rw [named] at named'
  cases named'
  rw [below] at below'
  cases below'
  exact ⟨rfl, ends_before.unique ends_before', ends_behind.unique ends_behind'⟩

/-- What comes of a command line. An empty variable counts as a directory that is given in a bad way
wherever none is given, and even behind one that is given at the other level. -/
theorem parse_of_reads (h : Reads arguments command before behind)
    (haction : command.action? behind = some action) :
    parse env arguments =
      if HasEmptyAnchor env ∧ ¬(before.anchorDir.isSome ∧ behind.anchorDir.isSome) then
        .error (.usage (.valueMissing .anchorDir))
      else .ok ⟨before.verbose || behind.verbose, anchorDir env before behind, action⟩ := by
  obtain ⟨above, named, below, ends_before, ends_behind⟩ := h
  simp only [parse, above, named, below, bind, Except.bind, endLevel_of_ends ends_before,
    endLevel_of_ends ends_behind]
  by_cases hempty : HasEmptyAnchor env
  · cases before.anchorDir <;> cases behind.anchorDir <;> simp [hempty, haction]
  · simp [hempty, haction]

theorem exists_reads_of_parse (h : parse env arguments = .ok invocation) :
    ∃ command before behind action, Reads arguments command before behind ∧
      command.action? behind = some action ∧
      invocation =
        ⟨before.verbose || behind.verbose, anchorDir env before behind, action⟩ := by
  obtain ⟨⟨top, below⟩, above, h⟩ := Except.bind_eq_ok_iff.1 h
  cases below with
  | none =>
      obtain ⟨_, -, h⟩ := Except.bind_eq_ok_iff.1 h
      cases h
  | some below =>
      obtain ⟨word, rest⟩ := below
      cases named : Command.ofWord? word with
      | none => simp [named] at h
      | some command =>
          simp only [named] at h
          obtain ⟨⟨progress, left⟩, below, h⟩ := Except.bind_eq_ok_iff.1 h
          obtain ⟨behind, hbehind, h⟩ := Except.bind_eq_ok_iff.1 h
          obtain ⟨before, hbefore, h⟩ := Except.bind_eq_ok_iff.1 h
          cases haction : command.action? behind with
          | none => simp [haction] at h
          | some action =>
              simp only [haction, Except.ok.injEq] at h
              exact ⟨command, before, behind, action,
                ⟨above, named, below, ends_of_endLevel hbefore, ends_of_endLevel hbehind⟩,
                haction, h.symm⟩

end BusLocator.CommandLine
