import VideoOutput.Config.Toml.Scalar
import VideoOutput.Config.Toml.Section

/-!
# Documents

A document is lines: blank ones, comments, headers, and assignments to keys of the table that the
last header opened. `document?` reads one, or refuses a text that is not a document.
-/

namespace VideoOutput

namespace Toml

namespace Reader

/-- Assigns the pairs of an inline table one after the other. -/
def assignAll (pairs : List ((List String × String) × Value)) : Option Section :=
  pairs.foldlM (fun s (key, value) => s.assign key.1 key.2 value) Section.explicit

/-- A value that holds no other. -/
def scalar : Reader Value := do
  match ← peek with
  | some c =>
    if c == '"' || c == '\'' then return .string (← string)
    else if c == '+' || c == '-' || c.isDigit then
      (do return .moment (← moment)) <|> (do return .float (← float)) <|>
        (do return .integer (← integer))
    else if c == 't' || c == 'f' then return .boolean (← boolean)
    else if c == 'i' || c == 'n' then return .float (← specialFloat)
    else failure
  | none => failure

/-- Elements over any number of lines; a comma may follow the last. -/
def array (element : Reader Value) : Reader Value := do
  char '['
  let elements ← separated (do gap; let v ← element; gap; return v) ','
  if !elements.isEmpty then
    let _ ← optional (char ',')
  gap
  char ']'
  return .array elements

/-- Assignments on one line; no comma follows the last. -/
def inlineTable (element : Reader Value) : Reader Value := do
  char '\x7b'
  let pairs ← separated (do
    let key ← key
    char '='
    blanks
    let v ← element
    blanks
    return (key, v)) ','
  blanks
  char '\x7d'
  match assignAll pairs with
  | none => failure
  | some s => return s.toValue

/-- A value with at most so many values nested in one another. -/
def value : Nat → Reader Value
  | 0 => scalar
  | depth + 1 => array (value depth) <|> inlineTable (value depth) <|> scalar

/-- The table under construction, and the path of the header that was read last. -/
structure Draft where
  root : Section := .explicit
  path : List String := []

/-- The draft with a change made under its current header. -/
def Draft.change (d : Draft) (change : Section → Option Section) : Option Draft :=
  (d.root.changeAt false change d.path).map fun root => { d with root }

/-- A header of a table, or with double brackets of an element of an array of tables. -/
def header (d : Draft) : Reader Draft := do
  char '['
  let isElement := (← optional (char '[')).isSome
  let (path, last) ← key
  char ']'
  if isElement then char ']'
  trailing
  let opened := if isElement then d.root.openElement path last else d.root.openTable path last
  match opened with
  | none => failure
  | some root => return ⟨root, path ++ [last]⟩

def assignment (d : Draft) : Reader Draft := do
  let (path, last) ← key
  char '='
  blanks
  let v ← value depthLimit
  trailing
  match d.change (Section.assign path last v) with
  | none => failure
  | some d => return d

/-- One line of the document after its leading blanks. -/
def line (d : Draft) : Reader Draft := do
  match ← peek with
  | some '#' => do
    comment
    lineEnd
    return d
  | some '[' => header d
  | some '\n' | some '\r' => do
    newline
    return d
  | _ => assignment d

/-- The lines of a text; each but the last is at least one character long. -/
def lines : Nat → Draft → Reader Draft
  | 0, _ => failure
  | fuel + 1, d => do
    blanks
    if (← get).isEmpty then return d
    lines fuel (← line d)

end Reader

/-- The table a document describes. A byte order mark before it is passed over. -/
def document? (text : List Char) : Option Value :=
  let text := if text.head? = some (Char.ofNat 0xfeff) then text.tail else text
  ((Reader.lines (text.length + 1) {}).all text).map fun d => d.root.toValue

end Toml

end VideoOutput
