import VideoOutput.Compositor.State

/-!
# Replies to requests

How the scripted compositor takes the requests that come in, one by one, and what it sends for
them.
-/

namespace VideoOutput

open Wire

namespace Compositor

/-- What a bind is answered with. -/
def welcome (c : Compositor) (offer : Offer) (r : Resource) : List Delivery :=
  match r.object.interface with
  | .output => (offer.output.map (describeOutput r)).getD []
  | .seat => tell r 1 (.capabilities c.script.seatCapabilities)
  | .presentation => tell r 1 (.clock c.script.clock)
  | .dmabuf =>
    if r.version < 4 then describeFormats r c.script.formats c.script.modifiers else []
  | _ => []

def bind (c : Compositor) (number : Nat) (o : Object) (version : Nat) :
    List Delivery × Compositor :=
  let r : Resource := ⟨o, version, some number⟩
  let c := { c with resources := c.resources ++ [r] }
  match c.offers.find? (·.global.number = number) with
  | some offer => (c.welcome offer r, c)
  | none => ([], c)

/-- What follows the first commit of the main surface. -/
def greet (c : Compositor) : List Delivery × Compositor :=
  let decoration := (c.script.decorationMode.map c.decorate).getD []
  match c.script.firstConfigure with
  | some s =>
    let (events, c) := c.configure s
    (decoration ++ events, c)
  | none => (decoration, c)

/-- What follows any commit of the main surface. -/
def react (c : Compositor) : List Delivery × Compositor :=
  let (frames, c) := if c.reaction.frameDone then c.finishFrames else ([], c)
  let (feedbacks, c) := match c.reaction.presentation with
    | some presentation => c.finishFeedbacks presentation
    | none => ([], c)
  let closing :=
    if c.script.closeAfterCommits = some c.commits then c.tellNewest .toplevel 1 .closed else []
  (frames ++ feedbacks ++ closing, c)

def commitMain (c : Compositor) : List Delivery × Compositor :=
  let c := { c with
    commits := c.commits + 1
    committedFrames := c.committedFrames ++ c.requestedFrames
    requestedFrames := [] }
  let (greeting, c) := if c.commits = 1 then c.greet else ([], c)
  let (events, c) := c.react
  (greeting ++ events, c)

/-- An object made by a request is of the version of the request's target. -/
def adopt (c : Compositor) (parent : Object) (o : Object) : Compositor :=
  match c.resource? parent with
  | some p => { c with resources := c.resources ++ [⟨o, p.version, none⟩] }
  | none => c

/-- Takes one request. -/
def take (c : Compositor) (r : Request) : List Delivery × Compositor :=
  let c := { c with received := c.received ++ [r] }
  match r.verb, r.arguments with
  | .bind, [.bound number o, .int version] => c.bind number o version.toNat
  | _, _ =>
    let c := r.makes.foldl (·.adopt r.target ·) c
    match r.verb, r.makes with
    | .frame, [callback] => ([], { c with requestedFrames := c.requestedFrames ++ [callback] })
    | .feedback, [feedback] => ([], { c with feedbacks := c.feedbacks ++ [feedback] })
    | .getDefaultFeedback, [feedback] =>
      match c.resource? feedback, c.script.feedback with
      | some resource, some batch => (describeFeedback resource batch, c)
      | _, _ => ([], c)
    | .commit, _ => if r.target = mainSurface then c.commitMain else ([], c)
    | .destroy, _ | .release, _ => ([], c.drop r.target)
    | _, _ => ([], c)

/-- Takes requests in order. -/
def receive (requests : List Request) (c : Compositor) : List Delivery × Compositor :=
  requests.foldl (fun (events, c) r =>
    let (more, c) := c.take r
    (events ++ more, c)) ([], c)

def peer : Peer Compositor := ⟨receive⟩

end Compositor

end VideoOutput
