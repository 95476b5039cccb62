import VideoOutput.Format.FourCc

/-!
# Format tables

A format table is a row of 16-byte records: a format, four bytes of padding and a modifier, each
number with its lowest byte first. `parse` reads a table whose size is a whole number of records
and refuses any other with its size.
-/

namespace VideoOutput

/-- A pixel format together with the modifier that fixes its layout in memory. -/
structure FormatEntry where
  format : FourCc
  modifier : UInt64
  deriving DecidableEq, Repr

/-- The layout is agreed on elsewhere. -/
def implicitModifier : UInt64 := 0x00ffffffffffffff

/-- Rows follow one another without tiling. -/
def linearModifier : UInt64 := 0

namespace FormatTable

inductive LoadError where
  | unmappable
  | truncated (size : Nat)
  deriving DecidableEq, Repr

def recordSize : Nat := 16

def LoadError.message : LoadError → String
  | .unmappable => "failed to map format table: No such device (os error 19)"
  | .truncated size => s!"format table size {size} is not a multiple of 16"

/-- The entry of one record; bytes 4 to 7 are padding. -/
def entryOfRecord (record : List UInt8) : FormatEntry where
  format := .ofBytes (record.take 4)
  modifier := UInt64.ofNat (littleEndian ((record.drop 8).take 8))

/-- The record of an entry around the given padding. -/
def recordOfEntry (entry : FormatEntry) (padding : List UInt8) : List UInt8 :=
  entry.format.bytes ++ padding ++ littleEndianBytes 8 entry.modifier.toNat

/-- The entries of the whole records, in order. -/
def entries (bytes : List UInt8) : List FormatEntry :=
  if _h : recordSize ≤ bytes.length then
    entryOfRecord (bytes.take recordSize) :: entries (bytes.drop recordSize)
  else []
  termination_by bytes.length
  decreasing_by
    simp only [recordSize, List.length_drop] at _h ⊢
    omega

def parse (bytes : List UInt8) : Except LoadError (List FormatEntry) :=
  if bytes.length % recordSize = 0 then .ok (entries bytes) else .error (.truncated bytes.length)

/-- What a table is read from. Only a file can be mapped. -/
inductive Source where
  | file (bytes : List UInt8)
  | pipe
  deriving DecidableEq, Repr

/-- The table of the given size. Its size is checked before the source is mapped, nothing is mapped
for an empty table, and past the end of a file there are zeros. That is so up to the end of the
file's last page; beyond it there is nothing to read, and a table announced to reach there is not
described. -/
def load (source : Source) (size : Nat) : Except LoadError (List FormatEntry) :=
  if size % recordSize ≠ 0 then .error (.truncated size)
  else if size = 0 then .ok []
  else match source with
    | .pipe => .error .unmappable
    | .file bytes => parse (bytes.take size ++ List.replicate (size - bytes.length) 0)

end FormatTable

end VideoOutput
