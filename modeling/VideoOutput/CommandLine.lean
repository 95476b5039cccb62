import VideoOutput.Exchange.Call
import VideoOutput.Format.Catalog

/-!
# The command line

One option says what the program does: to list the formats and outputs that the compositor offers,
or to open the window and handle events until it is closed, which it also does without an option.
Any other option gets the usage text; whatever follows the first option is not looked at.
-/

namespace VideoOutput

namespace CommandLine

inductive Command where
  | probe
  | window
  | usage
  deriving DecidableEq, Repr

def Command.ofArguments : List String → Command
  | [] | "--window" :: _ => .window
  | "--probe" :: _ => .probe
  | _ => .usage

/-- What a run of the program shows. -/
structure Result where
  code : Nat := 0
  stdout : String := ""
  stderr : String := ""
  deriving DecidableEq, Repr

def lines (texts : List String) : String := String.join (texts.map (· ++ "\n"))

def usage : String :=
  lines [
    "USAGE: dmabuf-wayland [OPTION]",
    "",
    "Possible options are:",
    "\t--probe : Print the dmabuf formats and outputs the compositor offers, then exit.",
    "\t--window : Open the video window and run the event loop until it is closed (default)."]

/-! ## Reports -/

def formatLine (e : FormatEntry) : String :=
  s!"  {e.format.text} modifier {Hex.modifier e.modifier}"

/-- A number of thousandths as a decimal with three places. -/
def thousandths (n : Int) : String :=
  let digits := toString (n.natAbs % 1000)
  let places := String.ofList (List.replicate (3 - digits.length) '0') ++ digits
  let sign := if n < 0 then "-" else ""
  s!"{sign}{n.natAbs / 1000}.{places}"

def outputLine (index : Nat) (o : OutputInfo) : Except ArithmeticFault String := do
  let (width, height) ← o.area.size
  let mode := s!"{width}x{height}@{thousandths o.refresh}Hz"
  return s!"  [{index}] {o.displayName} ({o.make} {o.model}) {mode} scale {o.scale}"

/-- What the compositor offers. -/
def offerReport (c : Client) : Except ArithmeticFault String := do
  let outputs ← c.outputs.known.zipIdx.mapM fun ((_, info), i) => outputLine i info
  return lines ([s!"dmabuf negotiation: {c.catalog.negotiation.name}"] ++
    c.catalog.entries.map formatLine ++ ["outputs:"] ++ outputs)

/-- An error and its causes. A cause that is alone has no number. -/
def errorReport (error : String) (causes : List String) : String :=
  let numbered := match causes with
    | [cause] => [s!"    {cause}"]
    | _ => causes.zipIdx.map fun (cause, i) => s!"    {i}: {cause}"
  lines ([s!"Error: {error}"] ++ if causes.isEmpty then [] else ["", "Caused by:"] ++ numbered)

/-- The codes of a run that an error ended, and of one that arithmetic ended. -/
def errorCode : Nat := 1

def faultCode : Nat := 101

/-- The end of a run that stopped short. The context of an error says what was being done. -/
def stopped (context : Option String) : Stop → Result
  | .fault fault => { code := faultCode, stderr := lines [fault.message] }
  | .error e =>
    { code := errorCode
      stderr := match context with
        | some context => errorReport context (e.message :: e.causes)
        | none => errorReport e.message e.causes }

/-! ## Runs -/

variable {σ : Type}

/-- Size of the video before there is one. -/
def placeholderSize : Size := (1280, 720)

/-- Handles events until the window is asked to close, for so many rounds at most. -/
def handleEvents (p : Peer σ) : Nat → Talk σ Unit
  | 0 => pure ()
  | rounds + 1 => do
    if !(← Talk.client).closeRequested then
      let _ ← Talk.check p
      Talk.wait p
      handleEvents p rounds

/-- Opens the window and handles its events. -/
def showWindow (p : Peer σ) (rounds : Nat) : Talk σ Unit := do
  Talk.reconfig p placeholderSize.1 placeholderSize.2
  handleEvents p rounds

def probe : Talk σ String := do
  match offerReport (← Talk.client) with
  | .ok report => return report
  | .error fault => throw (.fault fault)

/-- Runs work on a client that is introduced, and gives what it prints. -/
def withClient (p : Peer σ) (s : Settings) (opened : Except ExchangeError (Exchange σ))
    (work : Talk σ String) : Result :=
  let context := some "failed to open the wayland session"
  match opened with
  | .error e => stopped context (.error e)
  | .ok x =>
    match (Talk.introduce p s).run x with
    | (.error stop, _) => stopped context stop
    | (.ok (), x) =>
      match (work.run x).1 with
      | .error stop => stopped none stop
      | .ok text => { stdout := text }

/-- Runs the program with a client that is opened if it needs one. -/
def run (p : Peer σ) (rounds : Nat) (arguments : List String) (s : Settings)
    (opened : Except ExchangeError (Exchange σ)) : Result :=
  match Command.ofArguments arguments with
  | .usage => { stdout := usage }
  | .probe => withClient p s opened probe
  | .window => withClient p s opened do
    showWindow p rounds
    return ""

end CommandLine

end VideoOutput
