/-!
# UTF-8

Bytes are read by an automaton that remembers, within a character, how many bytes are still to
come and which values the next one may have. A byte it refuses ends the character: what was read
of it is one ill-formed part, and the byte is read again as a first byte. So each ill-formed part
is as long as it can be.

`decode?` reads well-formed text only; `decodeLossy` puts U+FFFD in place of each ill-formed part.
-/

namespace VideoOutput

namespace Utf8

/-- A character begun: the bytes still to come, the bounds of the next, and the value so far. -/
structure Partial where
  missing : Nat
  least : UInt8
  greatest : UInt8
  value : Nat
  deriving DecidableEq, Repr

/-- What one byte can complete: a character, or an ill-formed part. -/
inductive Piece where
  | char (c : Char)
  | illFormed
  deriving DecidableEq, Repr

/-- The reading of a first byte. -/
def first (b : UInt8) : List Piece × Option Partial :=
  if b < 0x80 then ([.char (Char.ofNat b.toNat)], none)
  else if b < 0xc2 then ([.illFormed], none)
  else if b < 0xe0 then ([], some ⟨1, 0x80, 0xbf, b.toNat - 0xc0⟩)
  else if b = 0xe0 then ([], some ⟨2, 0xa0, 0xbf, 0⟩)
  else if b = 0xed then ([], some ⟨2, 0x80, 0x9f, 0xd⟩)
  else if b < 0xf0 then ([], some ⟨2, 0x80, 0xbf, b.toNat - 0xe0⟩)
  else if b = 0xf0 then ([], some ⟨3, 0x90, 0xbf, 0⟩)
  else if b < 0xf4 then ([], some ⟨3, 0x80, 0xbf, b.toNat - 0xf0⟩)
  else if b = 0xf4 then ([], some ⟨3, 0x80, 0x8f, 4⟩)
  else ([.illFormed], none)

/-- The reading of a byte after a character was begun. -/
def next (p : Partial) (b : UInt8) : List Piece × Option Partial :=
  if p.least ≤ b ∧ b ≤ p.greatest then
    let value := p.value * 64 + (b.toNat - 0x80)
    if p.missing ≤ 1 then ([.char (Char.ofNat value)], none)
    else ([], some ⟨p.missing - 1, 0x80, 0xbf, value⟩)
  else
    let (pieces, rest) := first b
    (.illFormed :: pieces, rest)

/-- The pieces of the bytes, after a character that may have been begun. -/
def scan : Option Partial → List UInt8 → List Piece
  | none, [] => []
  | some _, [] => [.illFormed]
  | none, b :: rest => (first b).1 ++ scan (first b).2 rest
  | some p, b :: rest => (next p b).1 ++ scan (next p b).2 rest

def Piece.char? : Piece → Option Char
  | .char c => some c
  | .illFormed => none

/-- The characters of well-formed bytes. -/
def decode? (bytes : List UInt8) : Option (List Char) := (scan none bytes).mapM Piece.char?

/-- The text of the bytes, with a replacement character for each ill-formed part. -/
def decodeLossy (bytes : List UInt8) : String :=
  String.ofList ((scan none bytes).map fun piece => piece.char?.getD (Char.ofNat 0xfffd))

end Utf8

end VideoOutput
