import Chan.Lib.AssocMap
import Chan.Lib.Fallible

namespace Chan.WireGuard
open AssocMap Fallible

abbrev PeerSet := Map String (List String)

structure Peer where
  allowedIps : List String
  byAgent : Bool
  deriving DecidableEq

abbrev Interface := Map String Peer

/-- An address belongs to one peer: giving it to another takes it away here. -/
def Peer.release (ips : List String) (p : Peer) : Peer :=
  { p with allowedIps := p.allowedIps.filter (· ∉ ips) }

namespace Interface

def setAllowedIps (m : Interface) (key : String) (ips : List String) (byAgent : Bool) : Interface :=
  AList.insert key ⟨ips, ((m.lookup key).map Peer.byAgent).getD byAgent⟩
    (mapWithKey (fun _ => Peer.release ips) m)

def removePeer (m : Interface) (key : String) : Interface := AList.erase key m

end Interface

/-- A `wg set` of the agent, and whether the state file held its key then. -/
structure Issued where
  key : String
  inFile : Bool
  deriving DecidableEq

structure Changes where
  added : Nat := 0
  updated : Nat := 0
  removed : Nat := 0
  forgotten : Nat := 0
  conflictsLogged : Nat := 0
  deriving DecidableEq

/-- What happens to each operation of a pass, in order: reading the interface, the answers of
`stop`, the `wg set` calls, and the writes of the state file that forget a key and that record one.
Past their end everything succeeds and nothing stops. -/
structure Oracle where
  dump : Fate := .ok
  stops : List Bool := []
  calls : List Fate := []
  forgets : List Fate := []
  records : List Fate := []
  deriving DecidableEq

structure Pass where
  interface : Interface
  file : PeerSet
  managed : PeerSet
  conflicts : List String
  issued : List Issued
  oracle : Oracle

abbrev Agent := Prog Pass (Exit Changes)

namespace Agent

def stop : Agent Bool := do
  let s ← get
  set { s with oracle.stops := s.oracle.stops.tail }
  return s.oracle.stops.headD false

def nextCall : Agent Fate := do
  let s ← get
  set { s with oracle.calls := s.oracle.calls.tail }
  return s.oracle.calls.headD .ok

def nextForget : Agent Fate := do
  let s ← get
  set { s with oracle.forgets := s.oracle.forgets.tail }
  return s.oracle.forgets.headD .ok

def nextRecord : Agent Fate := do
  let s ← get
  set { s with oracle.records := s.oracle.records.tail }
  return s.oracle.records.headD .ok

def issue (key : String) : Agent Unit :=
  modify fun s => { s with issued := s.issued ++ [⟨key, (s.file.lookup key).isSome⟩] }

def wgSet (key : String) (effect : Interface → Interface) : Agent Unit := do
  let fate ← nextCall
  issue key
  perform fate fun s => { s with interface := effect s.interface }

def setAllowedIps (key : String) (ips : List String) : Agent Unit :=
  wgSet key fun m => m.setAllowedIps key ips true

def removePeer (key : String) : Agent Unit := wgSet key fun m => m.removePeer key

/-- The copy is written first, and only then becomes the set in memory. -/
def changeManaged (fate : Fate) (edit : PeerSet → PeerSet) : Agent Unit := do
  let next := edit (← get).managed
  perform fate fun s => { s with file := next }
  modify fun s => { s with managed := next }

def peerKeys : Agent (List String) := do
  let s ← get
  perform s.oracle.dump id
  return s.interface.keys

def checkStop (changes : Changes) : Agent Unit := do
  if ← stop then throw (.returned changes)

def forgetPeer (key : String) : Agent Unit := do
  changeManaged (← nextForget) (AList.erase key)

def recordPeer (key : String) (ips : List String) : Agent Unit := do
  changeManaged (← nextRecord) (AList.insert key ips)

def dropPeer (present : List String) (key : String) (changes : Changes) : Agent Changes :=
  if key ∈ present then do
    removePeer key
    return { changes with removed := changes.removed + 1 }
  else return { changes with forgotten := changes.forgotten + 1 }

def removeGone (present : List String) : List String → Changes → Agent Changes
  | [], changes => return changes
  | key :: gone, changes => do
    checkStop changes
    let changes ← dropPeer present key changes
    forgetPeer key
    removeGone present gone changes

/-- An operator's peer is counted once while the conflict lasts. -/
def logConflict (key : String) (changes : Changes) : Agent Changes := do
  let s ← get
  if key ∈ s.conflicts then return changes
  else do
    set { s with conflicts := key :: s.conflicts }
    return { changes with conflictsLogged := changes.conflictsLogged + 1 }

def applyPeer (present : List String) (key : String) (ips : List String) (changes : Changes) :
    Agent Changes := do
  let s ← get
  match s.managed.lookup key with
  | none =>
    if key ∈ present then logConflict key changes
    else do
      recordPeer key ips
      setAllowedIps key ips
      return { changes with added := changes.added + 1 }
  | some recorded =>
    if key ∉ present then do
      setAllowedIps key ips
      if recorded ≠ ips then recordPeer key ips
      return { changes with added := changes.added + 1 }
    else if recorded ≠ ips then do
      setAllowedIps key ips
      recordPeer key ips
      return { changes with updated := changes.updated + 1 }
    else return changes

def applyDesired (present : List String) : List (String × List String) → Changes → Agent Changes
  | [], changes => return changes
  | (key, ips) :: rest, changes => do
    checkStop changes
    let changes ← applyPeer present key ips changes
    applyDesired present rest changes

def goneKeys (managed desired : PeerSet) : List String :=
  ((sorted managed).map Prod.fst).filter fun key => (desired.lookup key).isNone

def retainConflicts (desired : PeerSet) (present : List String) : Agent Unit :=
  modify fun s => { s with
    conflicts := s.conflicts.filter fun key =>
      (desired.lookup key).isSome && decide (key ∈ present) && (s.managed.lookup key).isNone }

def reconcile (desired : PeerSet) : Agent Changes := do
  let present ← peerKeys
  let changes ← removeGone present (goneKeys (← get).managed desired) {}
  let changes ← applyDesired present (sorted desired) changes
  retainConflicts desired present
  return changes

end Agent

structure Reconciler where
  managed : PeerSet
  conflicts : List String

structure World where
  interface : Interface
  file : PeerSet
  agent : Option Reconciler
  issued : List Issued

inductive Outcome where
  | done (changes : Changes)
  | stopped (changes : Changes)
  | failed
  | crashed
  deriving DecidableEq

inductive Event where
  | opens
  | crash
  | pass (desired : PeerSet) (oracle : Oracle)
  | operatorSet (key : String) (ips : List String)
  | operatorRemove (key : String)

namespace World

def beginPass (w : World) (a : Reconciler) (oracle : Oracle) : Pass :=
  ⟨w.interface, w.file, a.managed, a.conflicts, w.issued, oracle⟩

def endPass (s : Pass) (alive : Bool) : World :=
  ⟨s.interface, s.file, if alive then some ⟨s.managed, s.conflicts⟩ else none, s.issued⟩

def reconcile (w : World) (a : Reconciler) (desired : PeerSet) (oracle : Oracle) :
    Outcome × World :=
  match exec (Agent.reconcile desired) (w.beginPass a oracle) with
  | (.ok changes, s) => (.done changes, endPass s true)
  | (.error (.returned changes), s) => (.stopped changes, endPass s true)
  | (.error .failed, s) => (.failed, endPass s true)
  | (.error .crashed, s) => (.crashed, endPass s false)

def step (w : World) : Event → Option World
  | .opens => if w.agent.isNone then some { w with agent := some ⟨w.file, []⟩ } else none
  | .crash => some { w with agent := none }
  | .pass desired oracle => w.agent.map fun a => (w.reconcile a desired oracle).2
  | .operatorSet key ips => some { w with interface := w.interface.setAllowedIps key ips false }
  | .operatorRemove key => some { w with interface := w.interface.removePeer key }

end World
end Chan.WireGuard
