/-!
# Pixel format codes

A pixel format is named by four characters packed into a word, the first in the lowest byte.
-/

namespace VideoOutput

structure FourCc where
  code : UInt32
  deriving DecidableEq, Repr, Hashable

/-- The number whose digits to base 256 are the bytes, the lowest first. -/
def littleEndian : List UInt8 → Nat
  | [] => 0
  | b :: rest => b.toNat + 256 * littleEndian rest

/-- The lowest `count` digits of `n` to base 256, the lowest first. -/
def littleEndianBytes : Nat → Nat → List UInt8
  | 0, _ => []
  | count + 1, n => UInt8.ofNat n :: littleEndianBytes count (n / 256)

namespace FourCc

def ofBytes (bytes : List UInt8) : FourCc := ⟨UInt32.ofNat (littleEndian bytes)⟩

def bytes (f : FourCc) : List UInt8 := littleEndianBytes 4 f.code.toNat

/-- Printable ASCII, the space included. -/
def isShown (b : UInt8) : Bool := 0x20 ≤ b && b ≤ 0x7e

/-- The four characters, a question mark for each that is not printable ASCII. -/
def text (f : FourCc) : String :=
  String.ofList (f.bytes.map fun b => if isShown b then Char.ofNat b.toNat else '?')

end FourCc

end VideoOutput
