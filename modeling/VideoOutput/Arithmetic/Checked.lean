/-!
# Arithmetic that stops at the edge of its word

Sizes and times are whole numbers of a fixed word. An operation is carried out exactly and its
result is then compared with the word's bounds: one that falls outside is refused with its cause,
never wrapped. So a computation that answers has answered what exact arithmetic would.
-/

namespace VideoOutput

/-- Why an operation on words has no result. -/
inductive ArithmeticFault where
  | addOverflow
  | subtractOverflow
  | multiplyOverflow
  | negateOverflow
  | divideOverflow
  | divisionByZero
  deriving DecidableEq, Repr

def ArithmeticFault.message : ArithmeticFault → String
  | .addOverflow => "attempt to add with overflow"
  | .subtractOverflow => "attempt to subtract with overflow"
  | .multiplyOverflow => "attempt to multiply with overflow"
  | .negateOverflow => "attempt to negate with overflow"
  | .divideOverflow => "attempt to divide with overflow"
  | .divisionByZero => "attempt to divide by zero"

/-- The least and the greatest value of a word. -/
structure Word where
  least : Int
  greatest : Int
  deriving DecidableEq, Repr

namespace Word

def int32 : Word := ⟨-2147483648, 2147483647⟩

def int64 : Word := ⟨-9223372036854775808, 9223372036854775807⟩

def nat32 : Word := ⟨0, 4294967295⟩

def nat64 : Word := ⟨0, 18446744073709551615⟩

/-- The value is one of the word's. -/
def Holds (w : Word) (n : Int) : Prop := w.least ≤ n ∧ n ≤ w.greatest

instance (w : Word) (n : Int) : Decidable (w.Holds n) := by unfold Holds; infer_instance

def within (w : Word) (cause : ArithmeticFault) (n : Int) : Except ArithmeticFault Int :=
  if w.Holds n then .ok n else .error cause

def add (w : Word) (a b : Int) : Except ArithmeticFault Int := w.within .addOverflow (a + b)

def sub (w : Word) (a b : Int) : Except ArithmeticFault Int := w.within .subtractOverflow (a - b)

def mul (w : Word) (a b : Int) : Except ArithmeticFault Int := w.within .multiplyOverflow (a * b)

def neg (w : Word) (a : Int) : Except ArithmeticFault Int := w.within .negateOverflow (-a)

/-- The absolute value, refused where the negation of a negative number is. -/
def abs (w : Word) (a : Int) : Except ArithmeticFault Int := if a < 0 then w.neg a else .ok a

/-- The quotient, rounded toward zero. -/
def div (w : Word) (a b : Int) : Except ArithmeticFault Int :=
  if b = 0 then .error .divisionByZero else w.within .divideOverflow (a.tdiv b)

/-- The nearest value of the word. -/
def clamp (w : Word) (n : Int) : Int := max w.least (min n w.greatest)

/-- The value with the same low bits, for a word of `2 ^ bits` values that starts at its least. -/
def wrap (w : Word) (n : Int) : Int := w.least + (n - w.least) % (w.greatest - w.least + 1)

end Word

end VideoOutput
