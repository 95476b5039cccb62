/-!
# Configuration values

The values of a TOML document. A table maps keys to values, each key once; the order of its entries
means nothing. `merge` lays one value over another: tables are merged key by key, and any other
pair of values is decided by the one on top.
-/

namespace VideoOutput

namespace Toml

structure Date where
  year : Nat
  month : Nat
  day : Nat
  deriving DecidableEq, Repr

structure Time where
  hour : Nat
  minute : Nat
  second : Nat
  nanosecond : Nat
  deriving DecidableEq, Repr

/-- Distance from universal time. -/
inductive Offset where
  | universal
  | minutes (count : Int)
  deriving DecidableEq, Repr

/-- A date, a time, both, or both with an offset. -/
structure Moment where
  date : Option Date
  time : Option Time
  offset : Option Offset
  deriving DecidableEq, Repr

/-- The numeral padded on the left with zeros. -/
def padded (width n : Nat) : String :=
  let digits := Nat.toDigits 10 n
  String.ofList (List.replicate (width - digits.length) '0' ++ digits)

def Date.text (d : Date) : String :=
  padded 4 d.year ++ "-" ++ padded 2 d.month ++ "-" ++ padded 2 d.day

/-- Hours, minutes and seconds, and the fraction without its trailing zeros where there is one. -/
def Time.text (t : Time) : String :=
  let fraction :=
    if t.nanosecond = 0 then ""
    else
      "." ++ String.ofList ((padded 9 t.nanosecond).toList.reverse.dropWhile (· == '0')).reverse
  padded 2 t.hour ++ ":" ++ padded 2 t.minute ++ ":" ++ padded 2 t.second ++ fraction

def Offset.text : Offset → String
  | .universal => "Z"
  | .minutes count =>
    (if count < 0 then "-" else "+") ++ padded 2 (count.natAbs / 60) ++ ":" ++
      padded 2 (count.natAbs % 60)

def Moment.text (m : Moment) : String :=
  let date := (m.date.map Date.text).getD ""
  let time := (m.time.map Time.text).getD ""
  let between := if m.date.isSome && m.time.isSome then "T" else ""
  date ++ between ++ time ++ (m.offset.map Offset.text).getD ""

inductive Value where
  | boolean (value : Bool)
  | integer (value : Int)
  | float (value : Float)
  | string (value : String)
  | moment (value : Moment)
  | array (elements : List Value)
  | table (entries : List (String × Value))

abbrev Entries := List (String × Value)

namespace Value

/-- The entries with the key's value replaced, or with a new entry at the end. -/
def put (key : String) (value : Value) : Entries → Entries
  | [] => [(key, value)]
  | (k, v) :: rest => if k = key then (k, value) :: rest else (k, v) :: put key value rest

mutual

/-- The value with the other laid over it. -/
def merge : Value → Value → Value
  | .table base, .table overrides => .table (mergeEntries base overrides)
  | _, override => override

def mergeEntries (base : Entries) : Entries → Entries
  | [] => base
  | (key, override) :: rest =>
    let merged :=
      match base.lookup key with
      | none => override
      | some value => merge value override
    mergeEntries (put key merged base) rest

end

end Value

end Toml

end VideoOutput
