import VideoOutput.Format.Table

/-!
# The format catalog

The catalog holds the pairs of format and modifier that the compositor takes, and the formats it
takes with the implicit or the linear modifier. It is filled in one of two ways: format by format
from a list, or all at once from a feedback batch, which is a table, tranches of indices into it and
a commit. An empty catalog supports nothing.
-/

namespace VideoOutput

/-- The way the catalog was filled. -/
inductive Negotiation where
  | none
  | formatList
  | feedbackTable
  deriving DecidableEq, Repr

def Negotiation.name : Negotiation → String
  | .none => "None"
  | .formatList => "FormatList"
  | .feedbackTable => "FeedbackTable"

namespace FormatEntry

/-- Entries are ordered by format, then by modifier. -/
def precedes (a b : FormatEntry) : Bool :=
  a.format.code < b.format.code ||
    (a.format.code == b.format.code && a.modifier < b.modifier)

/-- The entry put in its place of an ordered list, once. -/
def place (e : FormatEntry) : List FormatEntry → List FormatEntry
  | [] => [e]
  | head :: rest =>
    if e = head then head :: rest
    else if e.precedes head then e :: head :: rest
    else head :: place e rest

end FormatEntry

structure FormatCatalog where
  pairs : List FormatEntry
  implicit : List FourCc
  negotiation : Negotiation
  /-- The table announced last that could be loaded. -/
  table : List FormatEntry
  /-- Indices received since the last commit. -/
  indices : List Nat
  deriving DecidableEq, Repr

namespace FormatCatalog

def empty : FormatCatalog := ⟨[], [], .none, [], []⟩

/-- Adds the pair; one that is there already changes nothing. -/
def record (c : FormatCatalog) (format : FourCc) (modifier : UInt64) : FormatCatalog :=
  { c with pairs := c.pairs.insert ⟨format, modifier⟩ }

/-- Adds a format of the list, taken with the implicit and the linear modifier. -/
def recordImplicit (c : FormatCatalog) (format : FourCc) : FormatCatalog :=
  { c with implicit := c.implicit.insert format, negotiation := .formatList }

/-- Adds a pair of the list. -/
def recordModifier (c : FormatCatalog) (format : FourCc) (modifier : UInt64) : FormatCatalog :=
  { c.record format modifier with negotiation := .formatList }

def supports (c : FormatCatalog) (format : FourCc) (modifier : UInt64) : Bool :=
  c.pairs.contains ⟨format, modifier⟩ ||
    ((modifier == implicitModifier || modifier == linearModifier) && c.implicit.contains format)

def isEmpty (c : FormatCatalog) : Bool := c.pairs.isEmpty && c.implicit.isEmpty

def size (c : FormatCatalog) : Nat := c.pairs.length + c.implicit.length

/-- Every pair in order, the implicit formats with the implicit modifier. -/
def entries (c : FormatCatalog) : List FormatEntry :=
  (c.pairs ++ c.implicit.map (FormatEntry.mk · implicitModifier)).foldr FormatEntry.place []

def clear (_ : FormatCatalog) : FormatCatalog := empty

/-- A table announcement. One that cannot be loaded leaves the catalog as it is. -/
def loadTable (c : FormatCatalog) (source : FormatTable.Source) (size : Nat) :
    Except FormatTable.LoadError FormatCatalog :=
  (FormatTable.load source size).map fun table => { c with table }

/-- The 16-bit numbers of the bytes, lowest byte first; a byte left over is dropped. -/
def indicesOfBytes : List UInt8 → List Nat
  | low :: high :: rest => littleEndian [low, high] :: indicesOfBytes rest
  | _ => []

def addTranche (c : FormatCatalog) (bytes : List UInt8) : FormatCatalog :=
  { c with indices := c.indices ++ indicesOfBytes bytes }

/-- The entries of the table that the batch selects: all when it has no index, otherwise those at
its indices. Indices outside the table select nothing. -/
def selection (table : List FormatEntry) (indices : List Nat) : List FormatEntry :=
  if indices.isEmpty then table else indices.filterMap (table[·]?)

/-- The end of a feedback batch. With a table the selection replaces everything supported; without
one only the indices are forgotten. -/
def commit (c : FormatCatalog) : FormatCatalog :=
  if c.table.isEmpty then { c with indices := [] }
  else
    { c with
      pairs := (selection c.table c.indices).foldl (fun pairs e => pairs.insert e) []
      implicit := []
      negotiation := .feedbackTable
      indices := [] }

/-- One operation on a catalog. -/
inductive Op where
  | record (format : FourCc) (modifier : UInt64)
  | recordImplicit (format : FourCc)
  | recordModifier (format : FourCc) (modifier : UInt64)
  | clear
  | loadTable (source : FormatTable.Source) (size : Nat)
  | addTranche (bytes : List UInt8)
  | commit
  deriving DecidableEq, Repr

/-- The catalog after the operation, and the refusal of a table that could not be loaded. -/
def step (c : FormatCatalog) : Op → FormatCatalog × Option FormatTable.LoadError
  | .record format modifier => (c.record format modifier, none)
  | .recordImplicit format => (c.recordImplicit format, none)
  | .recordModifier format modifier => (c.recordModifier format modifier, none)
  | .clear => (c.clear, none)
  | .loadTable source size =>
    match c.loadTable source size with
    | .ok loaded => (loaded, none)
    | .error refusal => (c, some refusal)
  | .addTranche bytes => (c.addTranche bytes, none)
  | .commit => (c.commit, none)

def run (c : FormatCatalog) (ops : List Op) : FormatCatalog :=
  ops.foldl (fun c op => (c.step op).1) c

end FormatCatalog

end VideoOutput
