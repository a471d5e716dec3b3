/-!
# UTF-8 between bytes and characters

An operating system hands out names, variables and file contents as bytes, most of which are text.
Reading bytes as text cuts them into pieces, each a character or junk. A junk piece is as long as
the bytes still are the beginning of some character, so that every damaged character counts once,
however many of its bytes survive. Everything else here, the strict reading and the lossy one, is a
view of the pieces.
-/

namespace BusLocator

/-- What an operating system hands out: bytes that are usually, but need not be, text. -/
abbrev Bytes := List UInt8

namespace Utf8

def encode (text : List Char) : Bytes :=
  text.flatMap String.utf8EncodeChar

def size : List Char → Nat
  | [] => 0
  | c :: cs => c.utf8Size + size cs

/-- A stretch of bytes that was read as one character, or could not be. -/
inductive Piece where
  | char (c : Char)
  | junk (bytes : Bytes)
  deriving DecidableEq, Repr

/-- A character of which some bytes have been read. -/
structure Pending where
  /-- The bytes read so far. -/
  taken : Bytes
  /-- The payload bits of those bytes. -/
  value : Nat
  /-- How many bytes are still to come. -/
  missing : Nat
  /-- The least and the greatest byte that may come next. -/
  low : UInt8
  high : UInt8
  deriving DecidableEq, Repr

/-- The character that a byte above the ASCII range opens. The bounds on the second byte keep out
overlong spellings, surrogates and everything past the last code point. -/
def opening? (b : UInt8) : Option Pending :=
  let opens (bits missing : Nat) (low high : UInt8) : Option Pending :=
    some ⟨[b], b.toNat % bits, missing, low, high⟩
  if b < 0xC2 then none
  else if b ≤ 0xDF then opens 32 1 0x80 0xBF
  else if b = 0xE0 then opens 16 2 0xA0 0xBF
  else if b = 0xED then opens 16 2 0x80 0x9F
  else if b ≤ 0xEF then opens 16 2 0x80 0xBF
  else if b = 0xF0 then opens 8 3 0x90 0xBF
  else if b ≤ 0xF3 then opens 8 3 0x80 0xBF
  else if b = 0xF4 then opens 8 3 0x80 0x8F
  else none

/-- Reads a byte where a character may begin. -/
def start (b : UInt8) : List Piece × Option Pending :=
  if b < 0x80 then ([.char (Char.ofNat b.toNat)], none)
  else match opening? b with
    | some p => ([], some p)
    | none => ([.junk [b]], none)

/-- Reads one byte: the pieces that it completes, and the character that it leaves open. -/
def step : Option Pending → UInt8 → List Piece × Option Pending
  | none, b => start b
  | some p, b =>
    if p.low ≤ b ∧ b ≤ p.high then
      let value := p.value * 64 + b.toNat % 64
      if p.missing ≤ 1 then ([.char (Char.ofNat value)], none)
      else ([], some ⟨p.taken ++ [b], value, p.missing - 1, 0x80, 0xBF⟩)
    else
      let (done, next) := start b
      (.junk p.taken :: done, next)

/-- The pieces of the bytes that follow an open character. -/
def piecesFrom : Option Pending → Bytes → List Piece
  | none, [] => []
  | some p, [] => [.junk p.taken]
  | pending, b :: bs =>
    let (done, next) := step pending b
    done ++ piecesFrom next bs

/-- The bytes, cut into characters and junk. -/
def pieces (bytes : Bytes) : List Piece :=
  piecesFrom none bytes

def Piece.char? : Piece → Option Char
  | .char c => some c
  | .junk _ => none

/-- The character shown for a piece: junk shows as the replacement character. -/
def Piece.shown : Piece → Char
  | .char c => c
  | .junk _ => '\uFFFD'

def decode? (bytes : Bytes) : Option (List Char) :=
  (pieces bytes).mapM Piece.char?

/-- The bytes as text, with one replacement character for each piece of junk. -/
def decodeLossy (bytes : Bytes) : List Char :=
  (pieces bytes).map Piece.shown

def string? (bytes : Bytes) : Option String :=
  (decode? bytes).map String.ofList

def lossyString (bytes : Bytes) : String :=
  String.ofList (decodeLossy bytes)

def ofString (s : String) : Bytes :=
  encode s.toList

end Utf8

end BusLocator
