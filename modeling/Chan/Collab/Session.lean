import Chan.Collab.DiskEcho
import Chan.Workspace

namespace Chan
open Utf

def decimal (n : Int) : Text := (toString n).toList

def removedDiskMarker : Text := "\x00chan:removed".toList

def unreadableDiskMarker : Text := "\x00chan:unreadable".toList

def debugMtime : Option Int → Text
  | none => "None".toList
  | some n => "Some(".toList ++ decimal n ++ ")".toList

def unreadableMarker (stat : FileStat) (error : Text) : Text :=
  unreadableDiskMarker ++ ":".toList ++ decimal stat.size ++ ":".toList ++
    debugMtime stat.mtimeNs ++ ":".toList ++ error

inductive DiskObservation
  | content (hash : UInt64) (mtimeNs : Option Int) (seen : Instant)
  | removal (seen : Instant)
  deriving DecidableEq

structure DurableBaseline where
  content : Text
  contentHash : UInt64
  mtimeNs : Option Int
  authorityVersion : Nat
  verbatim : Bool
  deriving DecidableEq

structure ConflictObservation where
  hash : UInt64
  mtimeNs : Option Int
  seen : Instant
  deriving DecidableEq

structure SessionConflict where
  id : Text
  baselineVersion : UInt64
  diskVersion : UInt64
  authorityVersion : Nat
  diskMtimeNs : Option Int
  diskContent : Text
  pending : Option ConflictObservation
  deriving DecidableEq

/-- The lifecycle of a live session. The dirty clock survives a pending observation. -/
inductive SessionState
  | clean
  | dirty (since : Instant)
  | observing (dirtySince : Option Instant) (observation : DiskObservation)
  | conflicted (conflict : SessionConflict)
  | removed
  deriving DecidableEq

inductive MergeOutcome
  | merged (text : Text)
  | conflict
  deriving DecidableEq

structure FlushJob where
  text : Text
  expectedMtimeNs : Option Int
  expectedDisk : Option Text
  epoch : Nat
  deriving DecidableEq

inductive HttpReplaceOutcome
  | applied
  | preconditionRequired (currentVersion : Nat) (diskMtimeNs : Option Int)
  | stale (currentVersion : Nat) (diskMtimeNs : Option Int)
  | conflicted (diskMtimeNs : Option Int)
  deriving DecidableEq

structure HttpReadView where
  content : Text
  diskMtimeNs : Option Int
  authorityVersion : Nat
  diskConflicted : Bool
  deriving DecidableEq

namespace SessionState

def dirtySince : SessionState → Option Instant
  | .dirty since => some since
  | .observing since _ => since
  | _ => none

def isConflicted : SessionState → Bool
  | .conflicted _ => true
  | _ => false

def isDirty (s : SessionState) : Bool := s.dirtySince.isSome || s.isConflicted

def markDirty (s : SessionState) (authorityVersion : Nat) (now : Instant) : SessionState :=
  match s with
  | .clean | .removed => .dirty now
  | .dirty since => .dirty since
  | .observing since observation => .observing (some (since.getD now)) observation
  | .conflicted conflict => .conflicted { conflict with authorityVersion }

def observeContent (s : SessionState) (hash : UInt64) (mtimeNs : Option Int) (now : Instant) :
    SessionState :=
  if s.isConflicted then s else .observing s.dirtySince (.content hash mtimeNs now)

def observeRemoval (s : SessionState) (now : Instant) : SessionState :=
  if s.isConflicted then s else .observing s.dirtySince (.removal now)

def clearObservation : SessionState → SessionState
  | .observing (some since) _ => .dirty since
  | .observing none _ => .clean
  | s => s

def contentObservation : SessionState → Option (UInt64 × Option Int × Instant)
  | .observing _ (.content hash mtimeNs seen) => some (hash, mtimeNs, seen)
  | _ => none

def removalObservation : SessionState → Option Instant
  | .observing _ (.removal seen) => some seen
  | _ => none

def conflictObservation : SessionState → Option (UInt64 × Option Int × Instant)
  | .conflicted conflict => conflict.pending.map fun o => (o.hash, o.mtimeNs, o.seen)
  | _ => none

def observeConflictContent (s : SessionState) (hash : UInt64) (mtimeNs : Option Int)
    (now : Instant) : SessionState :=
  match s with
  | .conflicted conflict => .conflicted { conflict with pending := some ⟨hash, mtimeNs, now⟩ }
  | s => s

def clearConflictObservation : SessionState → SessionState
  | .conflicted conflict => .conflicted { conflict with pending := none }
  | s => s

def conflictDiskMtimeNs : SessionState → Option (Option Int)
  | .conflicted conflict => some conflict.diskMtimeNs
  | _ => none

def clearAfterFlush : SessionState → SessionState
  | .dirty _ => .clean
  | .observing _ observation => .observing none observation
  | s => s

def sameObservation (o : Option (UInt64 × Option Int × Instant)) (hash : UInt64)
    (mtimeNs : Option Int) : Bool :=
  match o with
  | some (h, m, _) => h == hash && m == mtimeNs
  | none => false

end SessionState

/-- How long an unverified observation must hold before it counts. -/
def corroborateAfter : Nat := millis 300

def SessionState.corroborated (o : Option (UInt64 × Option Int × Instant)) (hash : UInt64)
    (mtimeNs : Option Int) (now : Instant) : Bool :=
  match o with
  | some (h, m, seen) => h == hash && m == mtimeNs && decide (corroborateAfter ≤ elapsed seen now)
  | none => false

structure WritePreconditions where
  expectedMtime : Option Int
  expectedMtimeNs : Option Int
  authorityVersion : Option Nat
  deriving DecidableEq

inductive WritePreconditionError
  | required
  | conflict
  deriving DecidableEq

def tokenConflict (currentMtimeNs : Option Int) (requested : WritePreconditions) : Bool :=
  match requested.expectedMtimeNs, requested.expectedMtime with
  | some expected, _ => currentMtimeNs != some expected
  | none, some expected => currentMtimeNs.map (fun ns => ns.tdiv 1000000000) != some expected
  | none, none => false

def checkWritePreconditions (currentMtimeNs : Option Int) (currentAuthorityVersion : Option Nat)
    (contentEqual : Bool) (requested : WritePreconditions) :
    Except WritePreconditionError Unit :=
  let tokens := if tokenConflict currentMtimeNs requested then .error .conflict else .ok ()
  if contentEqual then .ok ()
  else match currentAuthorityVersion with
  | none => tokens
  | some current =>
    match requested.authorityVersion with
    | none => .error .required
    | some expected =>
      if expected ≠ current then .error .conflict
      else if requested.expectedMtimeNs = none ∧ requested.expectedMtime = none then
        .error .required
      else tokens

end Chan
