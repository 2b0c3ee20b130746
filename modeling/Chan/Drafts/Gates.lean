import Chan.Lib.AssocMap
import Chan.Lib.Transition
import Chan.Lib.Utf

namespace Chan.Drafts
open AssocMap Transition Utf

abbrev DraftName := Text

abbrev DraftId := Text

/-- The id under which a draft without a valid marker is discarded. No marker holds it, so on disk
it stands for a marker that is missing or invalid. -/
def brokenId : DraftId := "<broken>".toList

structure DraftGate where
  name : DraftName
  id : DraftId
  active : Nat := 0
  closing : Bool := false
  retired : Bool := false
  deriving DecidableEq

def DraftGate.idle (g : DraftGate) : Bool :=
  !(decide (0 < g.active) || (g.closing && !g.retired))

inductive Call where
  | pinDraft
  | beginDraftLifecycle
  | discardBrokenDraft
  deriving DecidableEq

structure Job where
  call : Call
  name : DraftName
  id : DraftId
  deriving DecidableEq

inductive Stage where
  | checked (job : Job)
  | looked (job : Job) (gate : Nat)
  deriving DecidableEq

structure DraftPin where
  name : DraftName
  id : DraftId
  gate : Nat
  deriving DecidableEq

/-- A lifecycle waits for the pins to drain, is held, and is finished once it was retired. -/
inductive Phase where
  | draining
  | held
  | finished
  deriving DecidableEq

structure DraftLifecycle where
  name : DraftName
  id : DraftId
  gate : Nat
  phase : Phase := .draining
  deriving DecidableEq

/-- The drafts on disk, the gates and where they are filed, the calls of the threads, and the pins
and lifecycles they hold. `used` has every lifetime id drawn so far, `retired` every lifetime that
was retired. -/
structure Workspace where
  disk : Map DraftName DraftId
  used : List DraftId
  gates : Map Nat DraftGate := ∅
  filed : Map DraftName Nat := ∅
  calls : Map Nat Stage := ∅
  pins : Map Nat DraftPin := ∅
  lifecycles : Map Nat DraftLifecycle := ∅
  retired : List (DraftName × DraftId) := []
  next : Nat := 0

namespace Workspace

def opened (disk : Map DraftName DraftId) : Workspace where
  disk := disk
  used := brokenId :: disk.entries.map fun e => e.2

def file (ws : Workspace) (name : DraftName) (id : DraftId) : Workspace :=
  { ws with
    gates := ws.gates.insert ws.next { name, id }
    filed := ws.filed.insert name ws.next
    next := ws.next + 1 }

def gate (ws : Workspace) (name : DraftName) (id : DraftId) : Option (Workspace × Nat) :=
  match (ws.filed.lookup name).bind fun g => (ws.gates.lookup g).map fun gate => (g, gate) with
  | some (g, existing) =>
    if existing.id = id then some (ws, g)
    else if existing.idle then some (ws.file name id, ws.next)
    else none
  | none => some (ws.file name id, ws.next)

def setGate (ws : Workspace) (g : Nat) (gate : DraftGate) : Workspace :=
  { ws with gates := ws.gates.insert g gate }

def endCall (ws : Workspace) (t : Nat) : Workspace := { ws with calls := ws.calls.erase t }

inductive Event where
  | check (thread : Nat) (job : Job)
  | look (thread : Nat)
  | enter (thread : Nat)
  | drain (lifecycle : Nat)
  | timeout (lifecycle : Nat)
  | dropPin (pin : Nat)
  | remove (lifecycle : Nat)
  | retire (lifecycle : Nat)
  | dropLifecycle (lifecycle : Nat)
  | create (name : DraftName) (id : DraftId)
  deriving DecidableEq

/-- The id on disk is compared before the gate is looked up. -/
def check (ws : Workspace) (t : Nat) (job : Job) : Option Workspace :=
  if ws.calls.lookup t = none ∧ ws.disk.lookup job.name = some job.id ∧
      (job.call = .discardBrokenDraft ↔ job.id = brokenId) then
    some { ws with calls := ws.calls.insert t (.checked job) }
  else none

def look (ws : Workspace) (t : Nat) : Option Workspace :=
  match ws.calls.lookup t with
  | some (.checked job) =>
    match ws.gate job.name job.id with
    | some (ws, g) => some { ws with calls := ws.calls.insert t (.looked job g) }
    | none => some (ws.endCall t)
  | _ => none

def enter (ws : Workspace) (t : Nat) : Option Workspace :=
  match ws.calls.lookup t with
  | some (.looked job g) =>
    (ws.gates.lookup g).map fun gate =>
      if gate.closing || gate.retired then ws.endCall t
      else
        match job.call with
        | .pinDraft =>
          { (ws.setGate g { gate with active := gate.active + 1 }).endCall t with
            pins := ws.pins.insert ws.next ⟨job.name, job.id, g⟩
            next := ws.next + 1 }
        | _ =>
          { (ws.setGate g { gate with closing := true }).endCall t with
            lifecycles := ws.lifecycles.insert ws.next { name := job.name, id := job.id, gate := g }
            next := ws.next + 1 }
  | _ => none

def find (ws : Workspace) (k : Nat) : Option (DraftLifecycle × DraftGate) :=
  (ws.lifecycles.lookup k).bind fun l => (ws.gates.lookup l.gate).map fun gate => (l, gate)

def drain (ws : Workspace) (k : Nat) : Option Workspace :=
  (ws.find k).bind fun (l, gate) =>
    if l.phase = .draining ∧ gate.active = 0 then
      some { ws with lifecycles := ws.lifecycles.insert k { l with phase := .held } }
    else none

def timeout (ws : Workspace) (k : Nat) : Option Workspace :=
  (ws.find k).bind fun (l, gate) =>
    if l.phase = .draining ∧ 0 < gate.active then
      some { ws.setGate l.gate { gate with closing := false } with
        lifecycles := ws.lifecycles.erase k }
    else none

def dropPin (ws : Workspace) (k : Nat) : Option Workspace :=
  (ws.pins.lookup k).bind fun p => (ws.gates.lookup p.gate).map fun gate =>
    { ws.setGate p.gate { gate with active := gate.active - 1 } with pins := ws.pins.erase k }

def remove (ws : Workspace) (k : Nat) : Option Workspace :=
  (ws.lifecycles.lookup k).bind fun l =>
    if l.phase = .held ∧ ws.disk.lookup l.name = some l.id then
      some { ws with disk := ws.disk.erase l.name }
    else none

def retire (ws : Workspace) (k : Nat) : Option Workspace :=
  (ws.find k).bind fun (l, gate) =>
    if l.phase ≠ .draining then
      some { ws.setGate l.gate { gate with retired := true } with
        lifecycles := ws.lifecycles.insert k { l with phase := .finished }
        retired := (l.name, l.id) :: ws.retired }
    else none

/-- An unfinished lifecycle reopens its gate. One whose draft left the disk is finished first. -/
def dropLifecycle (ws : Workspace) (k : Nat) : Option Workspace :=
  (ws.find k).bind fun (l, gate) =>
    match l.phase with
    | .draining => none
    | .held =>
      if ws.disk.lookup l.name = some l.id then
        some { ws.setGate l.gate { gate with closing := false } with
          lifecycles := ws.lifecycles.erase k }
      else none
    | .finished => some { ws with lifecycles := ws.lifecycles.erase k }

def create (ws : Workspace) (name : DraftName) (id : DraftId) : Option Workspace :=
  if ws.disk.lookup name = none ∧ id ∉ ws.used then
    some { ws with disk := ws.disk.insert name id, used := id :: ws.used }
  else none

def step (ws : Workspace) : Event → Option Workspace
  | .check t job => ws.check t job
  | .look t => ws.look t
  | .enter t => ws.enter t
  | .drain k => ws.drain k
  | .timeout k => ws.timeout k
  | .dropPin k => ws.dropPin k
  | .remove k => ws.remove k
  | .retire k => ws.retire k
  | .dropLifecycle k => ws.dropLifecycle k
  | .create name id => ws.create name id

end Workspace
end Chan.Drafts
