import VideoOutput.Compositor.Act
import VideoOutput.Compositor.Reply
import VideoOutput.CommandLine
import VideoOutput.Exchange.Call

/-!
# Rehearsals

A client before a scripted compositor: it opens, then calls of the driver and steps of the script
follow one another, and at the end it closes. Each of them shows the requests that the compositor
received meanwhile.
-/

namespace VideoOutput

open Wire

/-- A client and the scripted compositor. -/
abbrev Rehearsal := Exchange Compositor

namespace Rehearsal

/-- What one step of a rehearsal came to, and the requests that the compositor received. -/
structure Report (α : Type) where
  outcome : Except Stop α
  received : List Request

/-- How often the compositor can answer before the deadline of a flip, and how often events are
handled in a window that is not asked to close. -/
def rounds : Nat := 64

def received (x : Rehearsal) : List Request := x.link.peer.received

/-- Carries work out and reports it. -/
def report (x : Rehearsal) (work : Talk Compositor α) : Report α × Rehearsal :=
  let (outcome, after) := work.run x
  (⟨outcome, (received after).drop x.received.length⟩, after)

/-- How a client finds its compositor. -/
inductive Door where
  | found
  | closed (reason : ConnectError)
  deriving DecidableEq, Repr

/-- A client that has found its compositor and a compositor that offers what it needs. -/
def meet (door : Door) (script : Compositor.Script) (s : Settings) :
    Except ExchangeError Rehearsal :=
  match door with
  | .closed reason => .error (.connect reason)
  | .found =>
    let compositor := Compositor.new script
    match Client.new compositor.globals s with
    | .error missing => .error (.missingGlobal missing.interface)
    | .ok client => .ok { client, link := { peer := compositor } }

/-- Opens a client. If it meets no compositor there is no rehearsal. -/
def start (door : Door) (script : Compositor.Script) (s : Settings) :
    Report Unit × Option Rehearsal :=
  match meet door script s with
  | .error e => (⟨.error (.error e), []⟩, none)
  | .ok x =>
    let (report, x) := x.report (Talk.introduce Compositor.peer s)
    (report, some x)

inductive Step where
  /-- A call, and what follows a commit of the main surface meanwhile. -/
  | call (call : Talk.Call) (reaction : Compositor.Reaction)
  | act (step : Compositor.Step)
  | postError (message : String)
  | hangUp

def withPeer (x : Rehearsal) (change : Compositor → Compositor) : Rehearsal :=
  { x with link := { x.link with peer := change x.link.peer } }

def step (x : Rehearsal) : Step → Report Talk.Answer × Rehearsal
  | .call call reaction =>
    let x := x.withPeer ({ · with reaction })
    let (report, x) := x.report (Talk.answer Compositor.peer rounds call)
    (report, x.withPeer ({ · with reaction := {} }))
  | .act step =>
    let (events, compositor) := x.link.peer.act step
    (⟨.ok .none, []⟩, { x with link := { x.link with peer := compositor }.deliver events })
  | .postError message => (⟨.ok .none, []⟩, { x with link := x.link.postError message })
  | .hangUp => (⟨.ok .none, []⟩, { x with link := x.link.hangUp })

/-- Arithmetic ended the step. -/
def Report.isFault (r : Report α) : Bool :=
  match r.outcome with
  | .error (.fault _) => true
  | _ => false

/-- Carries the steps out in order, up to one that arithmetic ends: what each came to, and the
rehearsal after it. -/
def run (x : Rehearsal) : List Step → List (Report Talk.Answer × Rehearsal)
  | [] => []
  | step :: rest =>
    let (report, after) := x.step step
    (report, after) :: if report.isFault then [] else run after rest

/-- Closes the client; a link that has failed takes nothing any more. -/
def finish (x : Rehearsal) : List Request :=
  let client := x.client.close
  let (_, link) := Link.send Compositor.peer client.log.outbox x.link
  link.peer.received.drop x.received.length

/-- The program before a scripted compositor. -/
def runProgram (arguments : List String) (s : Settings) (door : Door)
    (script : Compositor.Script) : CommandLine.Result :=
  CommandLine.run Compositor.peer rounds arguments s (meet door script s)

end Rehearsal

end VideoOutput
