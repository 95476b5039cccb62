import VideoOutput.Config.Toml.Value

/-!
# Readers

A reader takes what it reads from the front of a text and leaves the rest, or refuses the text.
-/

namespace VideoOutput

namespace Toml

abbrev Reader (α : Type) := StateT (List Char) Option α

namespace Reader

/-- What the reader makes of the whole text. -/
def all (r : Reader α) (text : List Char) : Option α :=
  match r.run text with
  | some (a, []) => some a
  | _ => none

def peek : Reader (Option Char) := do return (← get).head?

def one (accepts : Char → Bool) : Reader Char := fun text =>
  match text with
  | c :: rest => if accepts c then some (c, rest) else none
  | [] => none

def char (c : Char) : Reader Unit := do let _ ← one (· == c)

def word (w : String) : Reader Unit := w.toList.forM char

/-- The longest run of accepted characters, which may be none. -/
def run0 (accepts : Char → Bool) : Reader (List Char) := do
  let text ← get
  set (text.dropWhile accepts)
  return text.takeWhile accepts

/-- The longest run of accepted characters, at least one. -/
def run1 (accepts : Char → Bool) : Reader (List Char) := do
  let run ← run0 accepts
  if run.isEmpty then failure
  return run

/-- What the reader reads, or nothing where it refuses. -/
def optional (r : Reader α) : Reader (Option α) := fun text =>
  match r text with
  | some (a, rest) => some (some a, rest)
  | none => some (none, text)

/-- Reads at most `fuel` times, up to a refusal. -/
def upTo (r : Reader α) : Nat → Reader (List α)
  | 0 => return []
  | fuel + 1 => do
    match ← optional r with
    | none => return []
    | some a => return a :: (← upTo r fuel)

/-- Reads again and again, up to a refusal. The length of the text bounds the number of times for
a reader that reads something each time. -/
def many (r : Reader α) : Reader (List α) := do upTo r ((← get).length + 1)

/-- Items with a separator between them, possibly none. -/
def separated (item : Reader α) (separator : Char) : Reader (List α) := do
  match ← optional item with
  | none => return []
  | some a => return a :: (← many (do char separator; item))

/-- Exactly so many digits, as a number. -/
def digits (count : Nat) : Reader Nat := do
  let text ← get
  let run := text.take count
  if run.length = count ∧ run.all Char.isDigit then
    set (text.drop count)
    return run.foldl (fun n c => 10 * n + (c.toNat - 48)) 0
  else failure

end Reader

end Toml

end VideoOutput
