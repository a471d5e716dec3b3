/-!
# Text for a terminal

A terminal takes some characters for commands: single control characters, and sequences that an
escape character opens. A value from outside is shown without either, so that it can be read but
commands nothing. Blank control characters are kept, also those inside of a sequence. What follows
such a blank is read as text until the next command, which then goes on with the sequence.
-/

namespace BusLocator.Terminal

/-- Where a terminal stands in what is sent to it. -/
inductive State where
  | text
  | escape
  /-- Behind an escape character and a character that leaves the kind of sequence open. -/
  | intermediate
  /-- In a control sequence, which a letter or a similar sign ends. -/
  | control
  /-- In the head of a device string, which ends in the same way. -/
  | deviceHead
  /-- In a string for the system, which a bell ends. -/
  | system
  /-- In any other string, which a byte 9C ends. -/
  | string
  deriving DecidableEq, Repr

/-- Whether a character is a blank among the control characters. -/
def isBlankControl (c : Char) : Bool :=
  c ∈ ['\t', '\n', '\x0c', '\r']

def State.shows (state : State) (c : Char) : Bool :=
  match state with
  | .text => 0x20 ≤ c.toNat && c ≠ '\x7f' || isBlankControl c
  | .escape | .intermediate | .control => isBlankControl c
  | .deviceHead | .system | .string => false

/-- The state behind a character that is not shown. -/
def State.after (state : State) (c : Char) : State :=
  let isBetween (low high : Nat) : Bool := low ≤ c.toNat && c.toNat ≤ high
  if c = '\x1b' then .escape
  else if c = '\x18' || c = '\x1a' then .text
  else match state with
    | .text => .text
    | .escape =>
      if c = '[' then .control
      else if c = ']' then .system
      else if c = 'P' then .deviceHead
      else if c ∈ ['X', '^', '_'] then .string
      else if isBetween 0x20 0x2F then .intermediate
      else if isBetween 0x30 0x7E then .text
      else .escape
    | .intermediate => if isBetween 0x30 0x7E then .text else .intermediate
    | .control => if isBetween 0x40 0x7E then .text else .control
    | .deviceHead => if isBetween 0x40 0x7E then .string else .deviceHead
    | .system => if c = '\x07' then .text else .system
    | .string => if 0x9C ∈ String.utf8EncodeChar c then .text else .string

/-- What is shown of a text from a state on. `shown` tells that the last character was shown. -/
def plainFrom : State → (shown : Bool) → List Char → List Char
  | _, _, [] => []
  | state, shown, c :: rest =>
    if (if shown then .text else state : State).shows c then
      c :: plainFrom (if c.toNat < 0x80 then state else .text) true rest
    else plainFrom (state.after c) false rest

def plain (s : String) : String :=
  String.ofList (plainFrom .text false s.toList)

end BusLocator.Terminal
