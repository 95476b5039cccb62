import VideoOutput.Client.Life
import VideoOutput.Exchange.Link

/-!
# Exchanging requests and events

A client and its link. A flush hands the client's requests over. A dispatch flushes, polls, reads
what is there and handles it; a roundtrip flushes and handles everything that was sent before its
end. Requests that are made while events are handled wait for the next flush.
-/

namespace VideoOutput

open Wire

inductive ConnectError where
  | garbledSocket
  | unreachable
  deriving DecidableEq, Repr

def ConnectError.message : ConnectError → String
  | .garbledSocket => "WAYLAND_SOCKET was set but contained garbage"
  | .unreachable => "Could not find wayland compositor"

inductive ExchangeError where
  | connect (reason : ConnectError)
  | missingGlobal (interface : Interface)
  | noOutputs
  | dispatch (fault : LinkFault)
  | connection (fault : LinkFault)
  deriving DecidableEq, Repr

namespace ExchangeError

/-- What led to the error, where it has a cause of its own, outermost first. -/
def causes : ExchangeError → List String
  | .connect reason => [reason.message]
  | .missingGlobal _ => ["the requested global was not found in the registry"]
  | .noOutputs => []
  | .dispatch fault => [s!"Backend error: {fault.message}", fault.message, fault.root]
  | .connection fault => [fault.message, fault.root]

/-- What failed, before the first cause. -/
def headline : ExchangeError → String
  | .connect _ => "failed to connect to the wayland display"
  | .missingGlobal interface =>
    s!"compositor doesn't support the required {interface.name} protocol"
  | .noOutputs => "no outputs found or compositor doesn't support wl_output (ver. 2)"
  | .dispatch _ => "failed to dispatch wayland events"
  | .connection _ => "wayland connection error"

def message (e : ExchangeError) : String :=
  match e.causes with
  | [] => e.headline
  | cause :: _ => s!"{e.headline}: {cause}"

end ExchangeError

structure Exchange (σ : Type) where
  client : Client
  link : Link σ

/-- Polls the connection, and reads it if there is something to read: what is concluded from that,
and what the exchange is afterwards. -/
def Exchange.look {σ : Type} (k : Connection σ) (watch : Bool) (x : Exchange σ) :
    Except LinkFault (Option (List Delivery)) × Exchange σ :=
  let (condition, link) := k.poll x.link
  let (readiness, poller) := x.client.poller.poll condition.readable condition.error watch
  let (reading, link) := if readiness.readable then k.read link else (.wouldBlock, link)
  let (conclusion, poller) := poller.conclude readiness reading.outcome
  (conclusion, { client := { x.client with poller }, link })

/-- Why an exchange stops short. -/
inductive Stop where
  | fault (fault : ArithmeticFault)
  | error (error : ExchangeError)
  deriving DecidableEq, Repr

/-- Work of a client with its compositor; what was done until it stops stays done. -/
abbrev Talk (σ : Type) := ExceptT Stop (StateM (Exchange σ))

namespace Talk

variable {σ : Type}

def client : Talk σ Client := do return (← get).client

def modifyClient (change : Client → Client) : Talk σ Unit :=
  modify fun x => { x with client := change x.client }

/-- Lets the client act by itself. -/
def act (work : Act α) : Talk σ α := do
  let x ← get
  let (result, client) := work.run x.client
  set { x with client }
  match result with
  | .ok a => return a
  | .error fault => throw (.fault fault)

/-- Lets the client change and answer. -/
def ask (change : Client → α × Client) : Talk σ α := do
  let x ← get
  let (a, client) := change x.client
  set { x with client }
  return a

/-- Does something on the link that can fail. -/
def onLink (error : LinkFault → ExchangeError) (work : Link σ → Except LinkFault α × Link σ) :
    Talk σ α := do
  let x ← get
  let (result, link) := work x.link
  set { x with link }
  match result with
  | .ok a => return a
  | .error fault => throw (.error (error fault))

/-- Hands the waiting requests over. -/
def handOver (send : List Request → Link σ → Except LinkFault Unit × Link σ)
    (error : LinkFault → ExchangeError) : Talk σ Unit := do
  onLink error (send (← client).log.outbox)
  modifyClient fun c => { c with log := c.log.emptyOutbox }

def flush (p : Peer σ) (error : LinkFault → ExchangeError) : Talk σ Unit :=
  handOver (Link.send p) error

/-- Handles a batch. Events to objects that the client ended before it was read are dropped. -/
def handle (batch : List Delivery) : Talk σ Unit := do
  let log := (← client).log
  act ((batch.filter fun d => !log.isUnmade d.target).forM Client.react)

/-- Reads and handles the first events, as part of a roundtrip. -/
def receive (count : Nat) : Talk σ Unit := do
  handle (← onLink .dispatch fun link => link.read count)

/-- Flushes and handles everything the compositor answers. What was there before is handled first,
and what it led to is sent along. -/
def roundtrip (p : Peer σ) : Talk σ Unit := do
  let early := (← get).link.inbox.length
  flush p .dispatch
  if early ≠ 0 then
    receive early
    flush p .dispatch
  receive (← get).link.inbox.length

/-- The display is closed: the client is to close as well, and there is nothing to handle. -/
def loseDisplay : Talk σ (Option Nat) := do
  modifyClient ({ · with closeRequested := true })
  return none

/-- The end of a dispatch: what was read is handled, and how many events that were. -/
def settle : Except LinkFault (Option (List Delivery)) → Talk σ (Option Nat)
  | .error fault => throw (.error (.connection fault))
  | .ok none => loseDisplay
  | .ok (some batch) => do
    handle batch
    return some batch.length

/-- Flushes, polls once, reads and handles, and how many events there were; nothing once the display
is closed. -/
def dispatchOver (k : Connection σ) (watch : Bool) : Talk σ (Option Nat) := do
  if (← client).poller.closed then loseDisplay
  else
    handOver k.send .connection
    let (conclusion, x) := (← get).look k watch
    set x
    settle conclusion

/-- A dispatch over the link to the peer. What was there before is read at once. -/
def dispatch (p : Peer σ) (patient watch : Bool) : Talk σ (Option Nat) := do
  dispatchOver (Link.connection p patient (← get).link.inbox.length) watch

end Talk

end VideoOutput
