import Chan.Scene.Push
import Chan.Scene.Soundness

namespace Chan
open Utf AssocMap

def decoded (vs : List Value) : List (Text × StoredElement) :=
  vs.filterMap fun v => (StoredElement.fromValue v).toOption

def SceneFrame.elements : SceneFrame → List Value
  | .snapshot _ _ elements _ _ _ _ _ _ _ => elements
  | .update _ elements _ _ => elements
  | _ => []

structure CanvasPush where
  elements : List Value
  appState : Option Value
  files : Option Value

/-- A client of a scene session: its copy of the elements, how many frames of its outbox it has
folded in, and the pushes the session has not answered yet, oldest first. -/
structure Canvas where
  elements : Map Text StoredElement
  received : Nat
  inFlight : List CanvasPush

namespace Canvas

def empty : Canvas := ⟨∅, 0, []⟩

def fold (copy : Map Text StoredElement) (e : Text × StoredElement) : Map Text StoredElement :=
  if (copy.lookup e.1).any fun c => storedWins c e.2.version e.2.versionNonce then copy
  else copy.insert e.1 e.2

def receive (c : Canvas) (frame : SceneFrame) : Canvas :=
  { c with
    elements := (decoded frame.elements).foldl fold c.elements
    received := c.received + 1 }

def place (copy : Map Text StoredElement) (e : Text × StoredElement) :
    Option (Map Text StoredElement) :=
  if (copy.lookup e.1).all fun c => decide (c.version < e.2.version) then
    some (copy.insert e.1 e.2)
  else none

def draw (c : Canvas) (p : CanvasPush) : Option Canvas :=
  ((decoded p.elements).foldlM place c.elements).map fun elements =>
    { c with elements := elements, inFlight := c.inFlight ++ [p] }

end Canvas

/-- A scene session with its clients, and every element the authority has held or a client has
pushed. -/
structure SceneNet where
  session : SceneSession
  canvases : Map Nat Canvas
  seen : List (Text × StoredElement)

inductive SceneNetLabel
  /-- A client changes its canvas and sends the push. -/
  | draw (id : Nat) (push : CanvasPush)
  /-- The session takes the oldest push of a client. -/
  | serve (id : Nat) (now : Instant) (unixMillis : Int)
  /-- A client folds the next frame of its outbox in. -/
  | receive (id : Nat)
  /-- Any other critical section of the session. -/
  | session (l : SceneLabel)

def Scene.entries (s : Scene) : List (Text × StoredElement) :=
  s.elements.entries.map fun e => (e.1, e.2)

namespace SceneNet

def new (s : SceneSession) : SceneNet := ⟨s, ∅, s.state.scene.entries⟩

def advance (N : SceneNet) (s : SceneSession) (canvases : Map Nat Canvas) : SceneNet :=
  ⟨s, canvases, N.seen ++ s.state.scene.entries⟩

/-- One step of the session or of a client. A push that is refused costs its client the
attachment, as its socket answers the error and closes. -/
def step (fromStr : Text → Option Value) (N : SceneNet) : SceneNetLabel → Option SceneNet
  | .draw id p =>
    (N.canvases.lookup id).bind fun c => (c.draw p).map fun c =>
      { N with canvases := N.canvases.insert id c, seen := N.seen ++ decoded p.elements }
  | .serve id now unixMillis =>
    (N.canvases.lookup id).bind fun c =>
      match c.inFlight with
      | [] => none
      | p :: rest =>
        match N.session.state.push id p.elements p.appState p.files N.session.closed now with
        | .ok st => some (N.advance (N.session.withState st)
            (N.canvases.insert id { c with inFlight := rest }))
        | .error _ =>
          (N.session.step fromStr ⟨now, 0, fun _ => 0, .detach id unixMillis⟩).map fun s =>
            N.advance s (N.canvases.erase id)
  | .receive id =>
    (N.canvases.lookup id).bind fun c => (N.session.state.attaches.lookup id).bind fun sink =>
      (sink.outbox[c.received]?).map fun frame =>
        { N with canvases := N.canvases.insert id (c.receive frame) }
  | .session l =>
    (N.session.step fromStr l).bind fun s =>
      match l.op with
      | .push .. => none
      | .attach id _ => some (N.advance s (N.canvases.insert id .empty))
      | .detach id _ => some (N.advance s (N.canvases.erase id))
      | _ => some (N.advance s N.canvases)

/-- Everything sent was received, and every push answered. -/
def Quiescent (N : SceneNet) : Prop :=
  ∀ id c, N.canvases.lookup id = some c → c.inFlight = [] ∧
    ∀ sink, N.session.state.attaches.lookup id = some sink → c.received = sink.outbox.length

end SceneNet

end Chan
