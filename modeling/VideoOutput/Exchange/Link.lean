import VideoOutput.Wire.Event
import VideoOutput.Wire.Request

/-!
# The link to a compositor

A link hands requests to the peer at its other end and holds the events that the peer sent until
they are read. A link whose peer hung up fails at the first request or read; one whose peer posted
an error still takes requests, without any effect, and fails at the first read. Once it has failed
a link fails the same way for good, and the events that were sent and not read are never handled.
A read is one with the handling of what it gives: events that had been taken in before the read that
fails, which a queue of its own would still hand out at a later dispatch, are unread here and lost.
-/

namespace VideoOutput

open Wire

inductive LinkFault where
  | brokenPipe
  | protocolError (message : String)
  deriving DecidableEq, Repr

namespace LinkFault

/-- What went wrong at the root. Errors are posted on the main surface. -/
def root : LinkFault → String
  | brokenPipe => "Broken pipe (os error 32)"
  | protocolError message =>
    let text := s!"Protocol error 0 on object {Interface.surface.name}"
    if message.isEmpty then text else text ++ ": " ++ message

def message : LinkFault → String
  | brokenPipe => "Io error: " ++ brokenPipe.root
  | protocolError message => (protocolError message).root

end LinkFault

inductive LinkHealth where
  | sound
  | hungUp
  | errorPosted (message : String)
  | failed (fault : LinkFault)
  deriving DecidableEq, Repr

/-- Whoever is at the other end: what it sends when requests come to it. -/
structure Peer (σ : Type) where
  receive : List Request → σ → List Delivery × σ

structure Link (σ : Type) where
  peer : σ
  /-- Events that were sent and not read. -/
  inbox : List Delivery := []
  health : LinkHealth := .sound

namespace Link

variable {σ : Type}

/-- The first failure is the failure from then on. -/
def fail (l : Link σ) (fault : LinkFault) : Except LinkFault α × Link σ :=
  (.error fault, { l with health := .failed fault })

/-- Hands requests over. -/
def send (p : Peer σ) (requests : List Request) (l : Link σ) : Except LinkFault Unit × Link σ :=
  match l.health with
  | .failed fault => (.error fault, l)
  | .hungUp => if requests.isEmpty then (.ok (), l) else l.fail .brokenPipe
  | .errorPosted _ => (.ok (), l)
  | .sound =>
    let (answers, peer) := p.receive requests l.peer
    (.ok (), { l with peer, inbox := l.inbox ++ answers })

/-- Reads the first events. -/
def read (l : Link σ) (count : Nat) : Except LinkFault (List Delivery) × Link σ :=
  match l.health with
  | .failed fault => (.error fault, l)
  | .hungUp => l.fail .brokenPipe
  | .errorPosted message => l.fail (.protocolError message)
  | .sound => (.ok (l.inbox.take count), { l with inbox := l.inbox.drop count })

/-- A read would not block: it has events to give, or it fails. -/
def isReadable (l : Link σ) (count : Nat) : Bool := count != 0 || l.health != .sound

def isHungUp (l : Link σ) : Bool := l.health == .hungUp

/-- Events come in as long as the peer is there. -/
def deliver (l : Link σ) (events : List Delivery) : Link σ :=
  if l.health = .sound then { l with inbox := l.inbox ++ events } else l

/-- The peer hangs up. -/
def hangUp (l : Link σ) : Link σ := if l.health = .sound then { l with health := .hungUp } else l

/-- The peer posts an error and serves no more. -/
def postError (l : Link σ) (message : String) : Link σ :=
  if l.health = .sound then { l with health := .errorPosted message } else l

end Link

/-! ## Connections -/

/-- What a poll finds. -/
structure Condition where
  /-- A read would not block. -/
  readable : Bool
  /-- The connection is broken, hung up or invalid. -/
  error : Bool
  deriving DecidableEq, Repr

/-- What a read gives. -/
inductive Reading where
  | events (batch : List Delivery)
  /-- There was nothing to read after all. -/
  | wouldBlock
  | failed (fault : LinkFault)
  deriving DecidableEq, Repr

/-- A read that would have blocked is one of no events. -/
def Reading.outcome : Reading → Except LinkFault (List Delivery)
  | events batch => .ok batch
  | wouldBlock => .ok []
  | failed fault => .error fault

/-- A connection as a dispatch meets it: it takes requests, is polled, and is read. What it answers,
and what becomes of the link meanwhile, is its own affair. -/
structure Connection (σ : Type) where
  send : List Request → Link σ → Except LinkFault Unit × Link σ
  poll : Link σ → Condition × Link σ
  read : Link σ → Reading × Link σ

namespace Link

variable {σ : Type}

/-- The events that a dispatch can read of a link that held so many before. Only a patient dispatch
that finds nothing there waits until the compositor answers. -/
def awaited (patient : Bool) (early : Nat) (l : Link σ) : Nat :=
  if patient && early == 0 then l.inbox.length else early

/-- The connection that a link with the peer is. -/
def connection (p : Peer σ) (patient : Bool) (early : Nat) : Connection σ where
  send := Link.send p
  poll l := (⟨l.isReadable (l.awaited patient early), l.isHungUp⟩, l)
  read l :=
    match l.read (l.awaited patient early) with
    | (.ok batch, l) => (.events batch, l)
    | (.error fault, l) => (.failed fault, l)

end Link

end VideoOutput
