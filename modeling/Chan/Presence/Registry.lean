import Chan.Lib.AssocMap
import Chan.Lib.Utf

namespace Chan.Presence
open AssocMap Utf

abbrev WindowId := Text

abbrev RequestId := Text

def reloadGrace : Nat := 5000

def goneGrace : Nat := 30000

inductive ParticipantState where
  | live
  | disconnecting
  | disconnected
  | gone
  deriving DecidableEq

structure Participant where
  isLocal : Bool
  sockets : Nat
  joinSeq : Nat
  state : ParticipantState
  disconnectedAt : Option Nat
  deriving DecidableEq

def Participant.computedState (p : Participant) (now : Nat) : ParticipantState :=
  if 0 < p.sockets then .live
  else
    let elapsed := (p.disconnectedAt.map (now - ·)).getD 0
    if goneGrace ≤ elapsed then .gone
    else if reloadGrace ≤ elapsed then .disconnected
    else .disconnecting

def Participant.steppedAt (p : Participant) (now : Nat) : Participant :=
  if 0 < p.sockets then p else { p with state := p.computedState now }

def Participant.deadline (p : Participant) (now : Nat) : Option Nat :=
  if 0 < p.sockets then none
  else
    p.disconnectedAt.bind fun t =>
      if now - t < reloadGrace then some (t + reloadGrace)
      else if now - t < goneGrace then some (t + goneGrace)
      else none

structure PendingHandover where
  requestId : RequestId
  requester : WindowId
  target : WindowId
  leader : WindowId
  deriving DecidableEq

structure Registry where
  participants : Map WindowId Participant := ∅
  leader : Option WindowId := none
  nextSeq : Nat := 0
  pending : Option PendingHandover := none

inductive HandoverError where
  | notAParticipant
  | noLeader
  | unknownTarget
  | alreadyLeader
  | alreadyPending
  | leaderNotLive
  | leaderLive
  deriving DecidableEq

structure HandoverResolved where
  accepted : Bool
  newLeader : Option WindowId
  deriving DecidableEq

structure ReapOutcome where
  changed : Bool
  nextDeadline : Option Nat
  deriving DecidableEq

def lowestOf (participants : Map WindowId Participant) (isLocal : Bool) : Option WindowId :=
  ((participants.entries.filter fun e => decide (0 < e.2.sockets) && e.2.isLocal == isLocal).argmin
    fun e => e.2.joinSeq).map fun e => e.1

def bestOwner (participants : Map WindowId Participant) : Option WindowId :=
  (lowestOf participants true).or (lowestOf participants false)

namespace Registry

def electLeader (r : Registry) : Registry := { r with leader := bestOwner r.participants }

def isLive (r : Registry) (w : WindowId) : Bool :=
  (r.participants.lookup w).any fun p => decide (0 < p.sockets)

def ownerIsLocal (r : Registry) : Bool :=
  r.leader.any fun w => (r.participants.lookup w).any fun p => p.isLocal

def join (r : Registry) (w : WindowId) (isLocal : Bool) : Registry × Bool :=
  match r.participants.lookup w with
  | some p =>
    let revived := !decide (0 < p.sockets) && p.state != .live
    let p := { p with
      sockets := p.sockets + 1
      disconnectedAt := none
      state := if revived then .live else p.state }
    ({ r with participants := r.participants.insert w p }, revived)
  | none =>
    let p : Participant := ⟨isLocal, 1, r.nextSeq, .live, none⟩
    let r := { r with
      nextSeq := r.nextSeq + 1
      participants := r.participants.insert w p }
    (if r.leader = none ∨ (isLocal && !r.ownerIsLocal) = true then r.electLeader else r, true)

def socketDropped (r : Registry) (w : WindowId) (time : Nat) : Registry × Bool :=
  match r.participants.lookup w with
  | some p =>
    let p := { p with sockets := p.sockets - 1 }
    let armed := decide (p.sockets = 0)
    let p :=
      if armed then { p with state := .disconnecting, disconnectedAt := some time } else p
    ({ r with participants := r.participants.insert w p }, armed)
  | none => (r, false)

def removeGone (acc : Registry × Bool) (w : WindowId) : Registry × Bool :=
  let (r, leaderLost) := acc
  let led := decide (r.leader = some w)
  let stale := r.pending.any fun h => h.leader == w || h.target == w
  ({ r with
      participants := r.participants.erase w
      leader := if led then none else r.leader
      pending := if stale then none else r.pending },
    leaderLost || led)

def soonestDeadline (r : Registry) (now : Nat) : Option Nat :=
  (r.participants.entries.filterMap fun e => e.2.deadline now).min?

def reapDue (r : Registry) (now : Nat) : Registry × ReapOutcome :=
  let stepped := mapWithKey (fun _ p => p.steppedAt now) r.participants
  let changed := r.participants.entries.any fun e => (e.2.steppedAt now).state != e.2.state
  let gone := keysWhere
    (fun _ p => decide (p.sockets = 0) && p.computedState now == .gone) r.participants
  let (r, leaderLost) := gone.foldl removeGone ({ r with participants := stepped }, false)
  let r := if leaderLost then r.electLeader else r
  (r, ⟨changed, r.soonestDeadline now⟩)

def requestHandover (r : Registry) (requestId : RequestId) (requester : WindowId)
    (target : Option WindowId) : Except HandoverError (Registry × WindowId) :=
  if r.pending.isSome then .error .alreadyPending
  else if (r.participants.lookup requester).isNone then .error .notAParticipant
  else
    let target := target.getD requester
    if (r.participants.lookup target).isNone then .error .unknownTarget
    else
      match r.leader with
      | none => .error .noLeader
      | some leader =>
        if leader = target then .error .alreadyLeader
        else if r.isLive leader then
          .ok ({ r with pending := some ⟨requestId, requester, target, leader⟩ }, leader)
        else .error .leaderNotLive

def pendingForLeader (r : Registry) (leader : WindowId) : Option PendingHandover :=
  r.pending.filter fun h => h.leader == leader

def resolveHandover (r : Registry) (requestId : RequestId) (accept : Bool) :
    Registry × Option HandoverResolved :=
  match r.pending with
  | some h =>
    if h.requestId = requestId then
      if accept && (r.participants.lookup h.target).isSome then
        ({ r with pending := none, leader := some h.target }, some ⟨true, some h.target⟩)
      else ({ r with pending := none }, some ⟨accept, none⟩)
    else (r, none)
  | none => (r, none)

def cancelHandover (r : Registry) (requestId : RequestId) : Registry :=
  if r.pending.any fun h => h.requestId == requestId then { r with pending := none } else r

def takeover (r : Registry) (caller : WindowId) (force : Bool) :
    Except HandoverError (Registry × Bool) :=
  if (r.participants.lookup caller).isNone then .error .notAParticipant
  else if r.leader = some caller then .ok (r, false)
  else if (r.leader.any r.isLive && !force) = true then .error .leaderLive
  else .ok ({ r with leader := some caller, pending := none }, true)

inductive Event where
  | join (window : WindowId) (isLocal : Bool)
  | dropSocket (window : WindowId) (time : Nat)
  | reap (now : Nat)
  | request (id : RequestId) (requester : WindowId) (target : Option WindowId)
  | query (window : WindowId)
  | resolve (answering : WindowId) (id : RequestId) (accept : Bool)
  | cancel (id : RequestId)
  | takeover (caller : WindowId) (force : Bool)
  deriving DecidableEq

def apply (r : Registry) : Event → Registry
  | .join w isLocal => (r.join w isLocal).1
  | .dropSocket w time => (r.socketDropped w time).1
  | .reap now => (r.reapDue now).1
  | .request id requester target =>
    match r.requestHandover id requester target with
    | .ok (r, _) => r
    | .error _ => r
  | .query _ => r
  | .resolve _ id accept => (r.resolveHandover id accept).1
  | .cancel id => r.cancelHandover id
  | .takeover caller force =>
    match r.takeover caller force with
    | .ok (r, _) => r
    | .error _ => r

end Registry
end Chan.Presence
