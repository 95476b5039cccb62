/-!
# Hexadecimal numerals

Numerals in lower case, padded on the left with zeros to a width.
-/

namespace VideoOutput

namespace Hex

/-- The numeral of `n` with at least `width` digits. -/
def padded (width n : Nat) : String :=
  let digits := Nat.toDigits 16 n
  String.ofList (List.replicate (width - digits.length) '0' ++ digits)

/-- A 64-bit modifier as it is shown: sixteen digits after `0x`. -/
def modifier (m : UInt64) : String := "0x" ++ padded 16 m.toNat

end Hex

end VideoOutput
