import VideoOutput.Geometry.Rect

/-!
# Outputs

An output describes itself piece by piece: place and maker, modes, scale, name. What was said is
kept and refined by later descriptions. At most one mode is current; its size and refresh rate are
the output's.
-/

namespace VideoOutput

structure OutputMode where
  width : Int
  height : Int
  /-- Refresh rate in thousandths of a hertz. -/
  refresh : Int
  current : Bool
  deriving DecidableEq, Repr

/-- What an output has said of itself. -/
structure OutputDescription where
  name : Option String := none
  make : String := ""
  model : String := ""
  x : Int := 0
  y : Int := 0
  modes : List OutputMode := []
  scale : Int := 1
  deriving DecidableEq, Repr

/-- What is known of an output: its pixels in the space of all outputs, its scale, and its refresh
rate in thousandths of a hertz. -/
structure OutputInfo where
  name : Option String := none
  make : String := ""
  model : String := ""
  area : Rect := .empty
  scale : Int := 1
  refresh : Int := 0
  deriving DecidableEq, Repr

namespace OutputMode

/-- The two differ at most in being current. -/
def isLike (a b : OutputMode) : Bool :=
  a.width == b.width && a.height == b.height && a.refresh == b.refresh

end OutputMode

namespace OutputDescription

/-- Adds a mode in place of the first one like it. A new current mode ends the earlier one. -/
def addMode (d : OutputDescription) (mode : OutputMode) : OutputDescription :=
  let others := d.modes.eraseP (·.isLike mode)
  let others := if mode.current then others.map ({ · with current := false }) else others
  { d with modes := others ++ [mode] }

/-- The description with its area, which can leave the word. -/
def info (d : OutputDescription) : Except ArithmeticFault OutputInfo := do
  let mode := (d.modes.find? (·.current)).getD ⟨0, 0, 0, true⟩
  let right ← Word.int32.add d.x mode.width
  let bottom ← Word.int32.add d.y mode.height
  return {
    name := d.name
    make := d.make
    model := d.model
    area := ⟨d.x, d.y, right, bottom⟩
    scale := d.scale
    refresh := mode.refresh }

end OutputDescription

namespace OutputInfo

/-- The output's own name where it has one, otherwise its model. -/
def displayName (o : OutputInfo) : String := o.name.getD o.model

/-- The refresh rate in hertz. -/
def refreshRate (o : OutputInfo) : Float := Float.ofInt o.refresh / 1000

def isNamed (o : OutputInfo) (name : String) : Bool := o.name == some name || o.model == name

/-- The index of the output to be fullscreen on. A name counts before an index, and what is not
found gives the first output. -/
def choose (outputs : List OutputInfo) (index : Option Nat) (name : Option String) : Option Nat :=
  if outputs.isEmpty then none
  else match name, index with
    | some name, _ => some ((outputs.findIdx? (·.isNamed name)).getD 0)
    | none, some index => some (if index < outputs.length then index else 0)
    | none, none => some 0

end OutputInfo

end VideoOutput
