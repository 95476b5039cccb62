import VideoOutput.Arithmetic.Checked
import VideoOutput.Config.Toml.Reader

/-!
# Scalars of a document

Blanks and comments, keys, strings of four kinds, numbers, dates and times.
-/

namespace VideoOutput

namespace Toml

namespace Reader

def isBlank (c : Char) : Bool := c == ' ' || c == '\t'

/-- A character a comment can hold: any but the control characters, save the tab. -/
def isPlain (c : Char) : Bool := c == '\t' || (0x20 ≤ c.toNat && c.toNat ≠ 0x7f)

def blanks : Reader Unit := do let _ ← run0 isBlank

/-- A line ends with a line feed, which a carriage return may precede. -/
def newline : Reader Unit := (char '\n') <|> (do char '\r'; char '\n')

def comment : Reader Unit := do
  char '#'
  let _ ← run0 isPlain

/-- The end of a line or of the text. -/
def lineEnd : Reader Unit := do
  if (← get).isEmpty then return () else newline

/-- What may follow on a line that says something. -/
def trailing : Reader Unit := do
  blanks
  let _ ← optional comment
  lineEnd

/-- Blanks, line ends and comments between the elements of an array. -/
def gap : Reader Unit := do
  let _ ← many ((do let _ ← run1 isBlank) <|> newline <|> (do comment; newline))

/-! ## Strings -/

def isHexDigit (c : Char) : Bool :=
  c.isDigit || ('a' ≤ c && c ≤ 'f') || ('A' ≤ c && c ≤ 'F')

def hexValue (c : Char) : Nat :=
  if c.isDigit then c.toNat - 48 else if c.toNat < 97 then c.toNat - 55 else c.toNat - 87

/-- A character by its number, of so many hexadecimal digits. -/
def numbered (count : Nat) : Reader Char := do
  let run := (← get).take count
  let n := run.foldl (fun n c => 16 * n + hexValue c) 0
  if run.length = count ∧ run.all isHexDigit ∧ n.isValidChar then
    set ((← get).drop count)
    return Char.ofNat n
  else failure

def escaped : Reader Char := do
  char '\\'
  match ← one fun _ => true with
  | 'b' => return '\x08'
  | 't' => return '\t'
  | 'n' => return '\n'
  | 'f' => return '\x0c'
  | 'r' => return '\r'
  | '"' => return '"'
  | '\\' => return '\\'
  | 'u' => numbered 4
  | 'U' => numbered 8
  | _ => failure

def isBasic (c : Char) : Bool := isPlain c && c != '"' && c != '\\'

def isLiteral (c : Char) : Bool := isPlain c && c != '\''

def basicString : Reader String := do
  char '"'
  let pieces ← many ((run1 isBasic) <|> (do return [← escaped]))
  char '"'
  return String.ofList pieces.flatten

def literalString : Reader String := do
  char '\''
  let run ← run0 isLiteral
  char '\''
  return String.ofList run

/-- One or two quotes inside a string of several lines, where three would end it. -/
def innerQuotes (quote : Char) : Reader (List Char) := do
  let run ← run1 (· == quote)
  if 2 < run.length then failure
  return run

/-- The end of a string of several lines: three quotes, and up to two before them that still belong
to it. -/
def closingQuotes (quote : Char) : Reader (List Char) := do
  let run ← run1 (· == quote)
  if run.length < 3 ∨ 5 < run.length then failure
  return run.drop 3

/-- A backslash at the end of a line takes the line end and all blanks and line ends after it. -/
def continuation : Reader Unit := do
  char '\\'
  blanks
  newline
  let _ ← many ((do let _ ← run1 isBlank) <|> newline)

def multilineOpening (quote : Char) : Reader Unit := do
  char quote
  char quote
  char quote
  let _ ← optional newline

def multilineBasicString : Reader String := do
  multilineOpening '"'
  let pieces ← many
    ((run1 isBasic) <|> (do continuation; return []) <|> (do return [← escaped]) <|>
      (do newline; return ['\n']) <|> innerQuotes '"')
  let closing ← closingQuotes '"'
  return String.ofList (pieces.flatten ++ closing)

def multilineLiteralString : Reader String := do
  multilineOpening '\''
  let pieces ← many ((run1 isLiteral) <|> (do newline; return ['\n']) <|> innerQuotes '\'')
  let closing ← closingQuotes '\''
  return String.ofList (pieces.flatten ++ closing)

def string : Reader String :=
  multilineBasicString <|> basicString <|> multilineLiteralString <|> literalString

/-! ## Keys -/

def isBareKey (c : Char) : Bool := c.isAlphanum || c == '-' || c == '_'

def simpleKey : Reader String := do
  match ← peek with
  | some '"' => basicString
  | some '\'' => literalString
  | _ => return String.ofList (← run1 isBareKey)

/-- The greatest number of parts of a key, and of values nested in one another. -/
def depthLimit : Nat := 79

/-- A key of one or more parts, as its first parts and its last. -/
def key : Reader (List String × String) := do
  let part : Reader String := do
    blanks
    let name ← simpleKey
    blanks
    return name
  let parts ← separated part '.'
  if depthLimit < parts.length then failure
  match parts.getLast? with
  | none => failure
  | some last => return (parts.dropLast, last)

/-! ## Numbers -/

/-- Digits in which an underscore may stand between two of them; the underscores are dropped. -/
def spacedDigits (accepts : Char → Bool) : Reader (List Char) := do
  let head ← one accepts
  let rest ← many ((one accepts) <|> (do char '_'; one accepts))
  return head :: rest

/-- The sign, and whether it is a minus. -/
def sign : Reader Bool := do
  match ← optional (one fun c => c == '+' || c == '-') with
  | some '-' => return true
  | _ => return false

/-- The digits of a whole number; a zero stands alone. -/
def wholeDigits : Reader (List Char) := do
  match ← peek with
  | some '0' => do
    char '0'
    return ['0']
  | _ => spacedDigits Char.isDigit

def numeral (base : Nat) (digits : List Char) : Nat :=
  digits.foldl (fun n c => base * n + hexValue c) 0

/-- A number that fits in 64 bits with its sign. -/
def fitting (n : Int) : Reader Int := if Word.int64.Holds n then return n else failure

def based (letter : Char) (base : Nat) (accepts : Char → Bool) : Reader Int := do
  char '0'
  char letter
  fitting (numeral base (← spacedDigits accepts))

def decimal : Reader Int := do
  let negative ← sign
  let n : Int := numeral 10 (← wholeDigits)
  fitting (if negative then -n else n)

def integer : Reader Int :=
  based 'x' 16 isHexDigit <|> based 'o' 8 (fun c => '0' ≤ c && c ≤ '7') <|>
    based 'b' 2 (fun c => c == '0' || c == '1') <|> decimal

/-- The float nearest to a decimal number. Beyond the range of floats no digits are computed. -/
def nearestFloat (negative : Bool) (mantissa : Nat) (exponent : Int) : Float :=
  let magnitude : Int := (Nat.toDigits 10 mantissa).length + exponent
  let value : Float :=
    if mantissa = 0 ∨ magnitude < -400 then 0
    else if 400 < magnitude then 1 / 0
    else Float.ofScientific mantissa (exponent < 0) exponent.natAbs
  if negative then -value else value

/-- The exponent of a float. -/
def exponent : Reader Int := do
  let _ ← one fun c => c == 'e' || c == 'E'
  let negative ← sign
  let n : Int := numeral 10 (← spacedDigits Char.isDigit)
  return if negative then -n else n

/-- A float has a fraction, an exponent or both. One too great for a float is refused. -/
def decimalFloat : Reader Float := do
  let negative ← sign
  let whole ← wholeDigits
  let fraction ← optional (do char '.'; spacedDigits Char.isDigit)
  let power ← optional exponent
  if fraction.isNone && power.isNone then failure
  let places := fraction.getD []
  let value :=
    nearestFloat negative (numeral 10 (whole ++ places)) (power.getD 0 - places.length)
  if value == 1 / 0 then failure
  return value

def specialFloat : Reader Float := do
  let negative ← sign
  let value : Float ← (do word "inf"; return 1 / 0) <|> (do word "nan"; return 0 / 0)
  return if negative then -value else value

def float : Reader Float := decimalFloat <|> specialFloat

def boolean : Reader Bool := (do word "true"; return true) <|> (do word "false"; return false)

/-! ## Dates and times -/

def daysOfMonth (year month : Nat) : Nat :=
  if month = 2 then
    if year % 4 = 0 ∧ (year % 100 ≠ 0 ∨ year % 400 = 0) then 29 else 28
  else if month = 4 ∨ month = 6 ∨ month = 9 ∨ month = 11 then 30
  else 31

def date : Reader Date := do
  let year ← digits 4
  char '-'
  let month ← digits 2
  char '-'
  let day ← digits 2
  if 1 ≤ month ∧ month ≤ 12 ∧ 1 ≤ day ∧ day ≤ daysOfMonth year month then
    return ⟨year, month, day⟩
  else failure

/-- The fraction of a second in nanoseconds; further digits are dropped. -/
def nanoseconds : Reader Nat := do
  char '.'
  let run ← run1 Char.isDigit
  let kept := run.take 9
  return numeral 10 (kept ++ List.replicate (9 - kept.length) '0')

def time : Reader Time := do
  let hour ← digits 2
  char ':'
  let minute ← digits 2
  char ':'
  let second ← digits 2
  let fraction ← optional nanoseconds
  if hour ≤ 23 ∧ minute ≤ 59 ∧ second ≤ 60 then
    return ⟨hour, minute, second, fraction.getD 0⟩
  else failure

def offset : Reader Offset :=
  (do
    let _ ← one fun c => c == 'Z' || c == 'z'
    return .universal) <|>
  (do
    let direction ← one fun c => c == '+' || c == '-'
    let hour ← digits 2
    char ':'
    let minute ← digits 2
    if hour ≤ 23 ∧ minute ≤ 59 then
      let count : Int := 60 * hour + minute
      return .minutes (if direction == '-' then -count else count)
    else failure)

def moment : Reader Moment :=
  (do
    let date ← date
    let rest ← optional (do
      let _ ← one fun c => c == 'T' || c == 't' || c == ' '
      let time ← time
      return (time, ← optional offset))
    return ⟨some date, rest.map Prod.fst, rest.bind Prod.snd⟩) <|>
  (do return ⟨none, some (← time), none⟩)

end Reader

end Toml

end VideoOutput
