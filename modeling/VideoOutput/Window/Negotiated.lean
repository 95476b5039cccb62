/-!
# Values asked for and decided

The client asks for a value and the compositor decides it. Until the decision arrives the request
is in flight; the decision ends it, whether it grants the request or not.
-/

namespace VideoOutput

structure Negotiated (α : Type) where
  requested : Option α
  confirmed : α
  deriving DecidableEq, Repr

namespace Negotiated

variable {α : Type}

/-- A value decided, with no request in flight. -/
def settled (value : α) : Negotiated α := ⟨none, value⟩

def request (n : Negotiated α) (value : α) : Negotiated α := { n with requested := some value }

/-- The decision. -/
def confirm (_ : Negotiated α) (value : α) : Negotiated α := settled value

/-- The decision would change the value. -/
def changes [DecidableEq α] (n : Negotiated α) (value : α) : Bool := n.confirmed ≠ value

/-- The value asked for while a request is in flight, otherwise the one decided. -/
def desired (n : Negotiated α) : α := n.requested.getD n.confirmed

/-- One operation on a negotiated value. -/
inductive Op (α : Type) where
  | request (value : α)
  | confirm (value : α)
  deriving DecidableEq, Repr

/-- The value after the operation, and for a decision whether it changed the value. -/
def step [DecidableEq α] (n : Negotiated α) : Op α → Negotiated α × Option Bool
  | .request value => (n.request value, none)
  | .confirm value => (n.confirm value, some (n.changes value))

end Negotiated

end VideoOutput
