import VideoOutput.Config.Toml.Value

/-!
# Sections of a document

While a document is read its tables remember how they came about. A table written under its own
header is closed to redefinition; one that only a longer header passed through is implicit and may
still get its own header; one that a dotted key made grows by dotted keys alone. An element of an
array of tables is entered through the newest.
-/

namespace VideoOutput

namespace Toml

mutual

inductive Item where
  | value (value : Value)
  | table (table : Section)
  /-- An array of tables: the elements before the last, and the last. -/
  | elements (earlier : List Section) (last : Section)

inductive Section where
  | mk (implicit dotted : Bool) (items : List (String × Item))

end

namespace Section

/-- A table under its own header. -/
def explicit : Section := .mk false false []

/-- A table that a header or a dotted key passes through. -/
def passed (dotted : Bool) : Section := .mk true dotted []

def isImplicit : Section → Bool
  | .mk implicit _ _ => implicit

def isDotted : Section → Bool
  | .mk _ dotted _ => dotted

def items : Section → List (String × Item)
  | .mk _ _ items => items

/-- The same items under a header. -/
def opened (s : Section) : Section := .mk false false s.items

def replace (key : String) (item : Item) : List (String × Item) → List (String × Item)
  | [] => [(key, item)]
  | (k, i) :: rest => if k = key then (k, item) :: rest else (k, i) :: replace key item rest

def put (s : Section) (key : String) (item : Item) : Section :=
  .mk s.isImplicit s.isDotted (replace key item s.items)

/-- Changes the table at the path, making those that are missing. A dotted path does not enter a
table with a header of its own, and no path enters a value. -/
def changeAt (dotted : Bool) (change : Section → Option Section) :
    List String → Section → Option Section
  | [], s => change s
  | key :: path, s => do
    match s.items.lookup key with
    | none =>
      let child ← changeAt dotted change path (passed dotted)
      return s.put key (.table child)
    | some (.value _) => none
    | some (.elements earlier last) =>
      let last ← changeAt dotted change path last
      return s.put key (.elements earlier last)
    | some (.table child) =>
      if dotted && !child.isImplicit then none
      else
        let child ← changeAt dotted change path child
        return s.put key (.table child)

/-- Assigns a new key. Only a dotted path assigns in a table that dotted keys made. -/
def assignHere (dotted : Bool) (key : String) (value : Value) (s : Section) : Option Section :=
  if s.isDotted ≠ dotted || (s.items.lookup key).isSome then none
  else some (s.put key (.value value))

/-- Assigns to a dotted key, given as its first parts and its last. -/
def assign (path : List String) (key : String) (value : Value) : Section → Option Section :=
  changeAt true (assignHere (!path.isEmpty) key value) path

/-- A table header: the table is new, or was only passed through by a longer header. -/
def openTable (path : List String) (key : String) : Section → Option Section :=
  changeAt false
    (fun s =>
      match s.items.lookup key with
      | none => some (s.put key (.table explicit))
      | some (.table child) =>
        if child.isImplicit && !child.isDotted then some (s.put key (.table child.opened)) else none
      | some _ => none)
    path

/-- A header of an array of tables adds an element. -/
def openElement (path : List String) (key : String) : Section → Option Section :=
  changeAt false
    (fun s =>
      match s.items.lookup key with
      | none => some (s.put key (.elements [] explicit))
      | some (.elements earlier last) => some (s.put key (.elements (earlier ++ [last]) explicit))
      | some _ => none)
    path

mutual

def itemValue : Item → Value
  | .value value => value
  | .table s => .table (sectionEntries s)
  | .elements earlier last => .array (elementValues earlier ++ [.table (sectionEntries last)])

def elementValues : List Section → List Value
  | [] => []
  | s :: rest => .table (sectionEntries s) :: elementValues rest

def sectionEntries : Section → Entries
  | .mk _ _ items => itemEntries items

def itemEntries : List (String × Item) → Entries
  | [] => []
  | (key, item) :: rest => (key, itemValue item) :: itemEntries rest

end

/-- The table as a value. -/
def toValue (s : Section) : Value := .table (sectionEntries s)

end Section

end Toml

end VideoOutput
