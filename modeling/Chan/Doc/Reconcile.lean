import Chan.Doc.Session

namespace Chan
open Utf AssocMap

inductive IoPhase
  | idle
  | flush (job : FlushJob)
  | reconcile (forceRead : Bool)
  | read (stat : FileStat)
  | merge (diskText : Text) (diskStat : FileStat) (diskVerbatim : Bool)
  | remove
  deriving DecidableEq

namespace DocState

def statFailed («exists» : Bool) (now : Instant) (st : DocState) : DocState × IoPhase :=
  if «exists» then
    let state :=
      if st.sessionState.removalObservation.isSome then st.sessionState.clearObservation
      else st.sessionState
    (st.setState state.clearConflictObservation, .idle)
  else if st.sessionState.isConflicted then
    let marker := contentHash removedDiskMarker
    let observation := st.sessionState.conflictObservation
    if SessionState.corroborated observation marker none now then (st, .remove)
    else if SessionState.sameObservation observation marker none then (st, .idle)
    else (st.setState (st.sessionState.observeConflictContent marker none now), .idle)
  else
    match st.sessionState.removalObservation with
    | some first => if corroborateAfter ≤ elapsed first now then (st, .remove) else (st, .idle)
    | none => (st.setState (st.sessionState.observeRemoval now), .idle)

def statOk (stat : FileStat) (forceRead : Bool) (st : DocState) : DocState × IoPhase :=
  let st :=
    if st.sessionState.removalObservation.isSome then
      st.setState st.sessionState.clearObservation
    else st
  if !forceRead && !st.sessionState.isConflicted && stat.mtimeNs.isSome &&
      stat.mtimeNs == st.flushedMtimeNs && st.sessionState.contentObservation.isNone then
    (st, .idle)
  else (st, .read stat)

def readFailed (stat : FileStat) (error : Text) (fresh : Nat) (st : DocState) : DocState :=
  if st.sessionState.isConflicted then st
  else st.enterConflictLocked (contentHash (unreadableMarker stat error)) stat.mtimeNs [] fresh

def reconcileConflictedLocked (diskText : Text) (diskStat : FileStat) (hash : UInt64)
    (diskVerbatim : Bool) (now : Instant) (fresh : Nat) (st : DocState) : DocState :=
  match st.sessionState with
  | .conflicted conflict =>
    if hash = conflict.diskVersion then
      st.setState (.conflicted { conflict with diskMtimeNs := diskStat.mtimeNs, pending := none })
    else
      let observation := st.sessionState.conflictObservation
      if SessionState.corroborated observation hash diskStat.mtimeNs now then
        if diskText = st.text then
          let st := (st.noteAdopted hash now).adoptToken diskStat
          let st := { st with
            baseline := ⟨diskText, hash, diskStat.mtimeNs, st.version, diskVerbatim⟩
            writeBudget := semanticWriteBudget (some diskStat.size)
            sessionState := .clean
            flushFailures := 0 }
          let st := st.fan (conflictFrame false diskStat.mtimeNs)
          st.fan (flushFrame st)
        else if diskText = st.baseline.content then
          let st := (st.noteAdopted hash now).adoptToken diskStat
          let st := { st with sessionState := .dirty now, flushNow := true, flushFailures := 0 }
          st.fan (conflictFrame false diskStat.mtimeNs)
        else st.enterConflictLocked hash diskStat.mtimeNs diskText fresh
      else if SessionState.sameObservation observation hash diskStat.mtimeNs then st
      else st.setState (st.sessionState.observeConflictContent hash diskStat.mtimeNs now)
  | _ => st

def observe (hash : UInt64) (mtimeNs : Option Int) (now : Instant) (st : DocState) : DocState :=
  if SessionState.sameObservation st.sessionState.contentObservation hash mtimeNs then st
  else st.setState (st.sessionState.observeContent hash mtimeNs now)

def readOk (rawText : Text) (diskStat : FileStat) (now : Instant) (fresh : Nat)
    (st : DocState) : DocState × IoPhase :=
  let diskVerbatim := decide ('\r' ∉ rawText)
  let diskText := normalizeLf rawText
  let hash := contentHash diskText
  if st.sessionState.isConflicted then
    (st.reconcileConflictedLocked diskText diskStat hash diskVerbatim now fresh, .idle)
  else
    let echo := st.diskEcho.containsAt hash now
    -- A lookup in the ring drops what has expired.
    let st := { st with diskEcho := st.diskEcho.evict now }
    if echo then
      let st := st.adoptToken diskStat
      (if diskText = st.text then st.setState st.sessionState.clearObservation
        else st.observe hash diskStat.mtimeNs now, .idle)
    else if diskText = st.text then (st, .merge diskText diskStat diskVerbatim)
    else if diskText = [] ∧ (st.sessionState.isDirty ∨ st.diskEcho.anyRecentWriteAt now) then
      ((st.adoptToken diskStat).observe hash diskStat.mtimeNs now, .idle)
    else if st.sessionState.isDirty ∨ diskText = [] then
      if SessionState.corroborated st.sessionState.contentObservation hash diskStat.mtimeNs now
      then (st, .merge diskText diskStat diskVerbatim)
      else (st.observe hash diskStat.mtimeNs now, .idle)
    else (st, .merge diskText diskStat diskVerbatim)

end DocState

structure DocSession where
  path : Text
  state : DocState
  /-- Unix milliseconds of the last detach, zero while attached. -/
  detachedAt : Int
  closed : Bool
  io : IoPhase

inductive ReloadRead
  | present (text : Text) (stat : FileStat)
  | unreadable
  | vanished
  deriving DecidableEq

inductive Op
  | attach (id : Nat) (windowId : Text) (clientVersion : Option Nat)
  | detach (id : Nat) (unixMillis : Int)
  | push (id baseVersion : Nat) (updates : List Update)
  | pull (id version : Nat)
  | cursor (id anchor head : Nat)
  | httpReplace (clientId newText : Text) (preconditions : WritePreconditions)
  | beginFlush
  | finishFlush (stat : FileStat)
  | failFlush (message : Text)
  | writeConflict (currentMtimeNs : Option Int)
  | beginReconcile
  | statFailed («exists» : Bool)
  | statOk (stat : FileStat)
  | readFailed (error : Text)
  | readOk (rawText : Text) (diskStat : FileStat)
  | taskFailed
  | finishMerge
  | finishRemove
  | mergeDisk (diskText : Text) (stat : FileStat) (diskVerbatim : Bool)
  | markRemoved
  | reload (read : ReloadRead)
  | overwriteConflict
  | fanSnapshot
  | recoveryRecord
  deriving DecidableEq

def Op.isAttach : Op → Bool
  | .attach _ _ _ => true
  | _ => false

def Op.isPull : Op → Bool
  | .pull _ _ => true
  | _ => false

def Op.isMerge : Op → Bool
  | .mergeDisk _ _ _ => true
  | .finishMerge => true
  | _ => false

structure Label where
  now : Instant
  fresh : Nat
  op : Op
  deriving DecidableEq

namespace DocSession

def new (path text : Text) (stat : FileStat) (now : Instant) : DocSession :=
  ⟨path, DocState.new text stat now, 0, false, .idle⟩

def withState (s : DocSession) (st : DocState) : DocSession := { s with state := st }

def withIo (s : DocSession) (r : DocState × IoPhase) : DocSession :=
  { s with state := r.1, io := r.2 }

def attached (s : DocSession) (id : Nat) : Bool := (s.state.attaches.lookup id).isSome

def ioStep (diffy : Text → Text → Text → Option Text) (s : DocSession) (l : Label) :
    Option DocSession :=
  match l.op, s.io with
  | .beginFlush, .idle =>
    match s.state.beginFlush with
    | (none, st) => some (s.withState st)
    | (some job, st) => some (s.withIo (st, .flush job))
  | .finishFlush stat, .flush job =>
    some (s.withIo (s.state.finishFlush job.epoch stat job.text l.now, .idle))
  | .failFlush message, .flush _ => some (s.withIo (s.state.noteFlushFailure message, .idle))
  | .writeConflict current, .flush job =>
    some (s.withIo (s.state,
      if s.closed then .idle else .reconcile (current == job.expectedMtimeNs)))
  | .beginReconcile, .idle =>
    some (s.withIo (s.state, if s.closed then .idle else .reconcile false))
  | .statFailed «exists», .reconcile _ => some (s.withIo (s.state.statFailed «exists» l.now))
  | .statOk stat, .reconcile forceRead => some (s.withIo (s.state.statOk stat forceRead))
  | .readFailed error, .read stat =>
    some (s.withIo (s.state.readFailed stat error l.fresh, .idle))
  | .readOk rawText diskStat, .read _ =>
    some (s.withIo (s.state.readOk rawText diskStat l.now l.fresh))
  | .taskFailed, .reconcile _ => some (s.withIo (s.state, .idle))
  | .taskFailed, .read _ => some (s.withIo (s.state, .idle))
  | .finishMerge, .merge diskText diskStat verbatim =>
    some (s.withIo (s.state.mergeDisk diffy diskText diskStat verbatim l.now l.fresh, .idle))
  | .finishRemove, .remove => some (s.withIo (s.state.markRemoved l.fresh, .idle))
  | .mergeDisk diskText stat verbatim, .idle =>
    some (s.withState (s.state.mergeDisk diffy diskText stat verbatim l.now l.fresh))
  | .markRemoved, .idle => some (s.withState (s.state.markRemoved l.fresh))
  | .reload (.present text stat), .idle =>
    some (s.withState (s.state.reloadAdopt s.path text stat l.now))
  | .reload .unreadable, .idle => some s
  | .reload .vanished, .idle => some (s.withState s.state.reloadVanished)
  | .recoveryRecord, .idle => some (s.withState { s.state with recoveryPending := false })
  | _, _ => none

def step (diffy : Text → Text → Text → Option Text) (s : DocSession) (l : Label) :
    Option DocSession :=
  match l.op with
  | .attach id windowId clientVersion =>
    if s.closed || s.attached id then none
    else some { s with
      state := s.state.registerAttach s.path id windowId clientVersion
      detachedAt := 0 }
  | .detach id unixMillis =>
    if s.attached id || s.closed then
      let st := s.state.dropAttach id s.closed
      some { s with
        state := st
        detachedAt :=
          if st.attaches.entries = [] ∧ s.closed = false then unixMillis else s.detachedAt }
    else none
  | .push id baseVersion updates =>
    if s.attached id || s.closed then
      match s.state.push id baseVersion updates s.closed l.now with
      | .ok st => some (s.withState st)
      | .error _ => some s
    else none
  | .pull id version =>
    if s.attached id || s.closed then some (s.withState (s.state.pull s.path id version)) else none
  | .cursor id anchor head =>
    if s.attached id || s.closed then some (s.withState (s.state.cursor id anchor head)) else none
  | .httpReplace clientId newText preconditions =>
    match s.state.applyHttpReplace clientId newText preconditions l.now with
    | .ok (_, st) => some (s.withState st)
    | .error _ => some s
  | .overwriteConflict => some (s.withState ((s.state.overwriteConflict l.now).getD s.state))
  | .fanSnapshot => some (s.withState (s.state.fan (snapshotFrame s.path s.state)))
  | _ => s.ioStep diffy l

end DocSession

end Chan
