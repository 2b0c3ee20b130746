import Chan.Scene.Session

namespace Chan
open Utf AssocMap

inductive SceneIo
  | idle
  | flush (job : FlushJob)
  | reconcile
  | read (stat : FileStat)
  | merge (diskText : Text) (diskStat : FileStat)
  | remove
  deriving DecidableEq

namespace SceneState

def statFailed («exists» : Bool) (now : Instant) (st : SceneState) : SceneState × SceneIo :=
  if «exists» then
    (if st.sessionState.removalObservation.isSome then
      st.setState st.sessionState.clearObservation
    else st, .idle)
  else
    match st.sessionState.removalObservation with
    | some first => if corroborateAfter ≤ elapsed first now then (st, .remove) else (st, .idle)
    | none => (st.setState (st.sessionState.observeRemoval now), .idle)

def statOk (stat : FileStat) (st : SceneState) : SceneState × SceneIo :=
  let st :=
    if st.sessionState.removalObservation.isSome then
      st.setState st.sessionState.clearObservation
    else st
  (st, if st.sessionState.isConflicted then .idle else .read stat)

def readFailed (stat : FileStat) (error : Text) (fresh : Nat) (st : SceneState) : SceneState :=
  st.enterConflictLocked (contentHash (unreadableMarker stat error)) stat.mtimeNs [] fresh

def observe (hash : UInt64) (mtimeNs : Option Int) (now : Instant) (st : SceneState) :
    SceneState :=
  if SessionState.sameObservation st.sessionState.contentObservation hash mtimeNs then st
  else st.setState (st.sessionState.observeContent hash mtimeNs now)

def readOk (fromStr : Text → Option Value) (stat : FileStat) (diskText : Text)
    (diskStat : FileStat) (now : Instant) (st : SceneState) : SceneState × SceneIo :=
  let hash := contentHash diskText
  if stat.mtimeNs.isSome ∧ stat.mtimeNs = st.flushedMtimeNs ∧
      st.sessionState.contentObservation.isNone ∧ st.baseline.verbatim ∧
      diskText = st.baseline.content then
    (st, .idle)
  else
    let echo := st.diskEcho.containsAt hash now
    -- A lookup in the ring drops what has expired.
    let st := { st with diskEcho := st.diskEcho.evict now }
    if echo then
      let st := st.adoptToken diskStat
      (if st.matchesAuthority fromStr diskText then st.setState st.sessionState.clearObservation
        else st.observe hash diskStat.mtimeNs now, .idle)
    else if st.matchesAuthority fromStr diskText then (st, .merge diskText diskStat)
    else if diskText = [] ∧ (st.sessionState.isDirty ∨ st.diskEcho.anyRecentWriteAt now) then
      ((st.adoptToken diskStat).observe hash diskStat.mtimeNs now, .idle)
    else if st.sessionState.isDirty ∨ diskText = [] then
      if SessionState.corroborated st.sessionState.contentObservation hash diskStat.mtimeNs now
      then (st, .merge diskText diskStat)
      else (st.observe hash diskStat.mtimeNs now, .idle)
    else (st, .merge diskText diskStat)

end SceneState

structure SceneSession where
  path : Text
  state : SceneState
  /-- Unix milliseconds of the last detach, zero while attached. -/
  detachedAt : Int
  closed : Bool
  io : SceneIo

inductive SceneOp
  | attach (id : Nat) (windowId : Text)
  | detach (id : Nat) (unixMillis : Int)
  | push (id : Nat) (elements : List Value) (appState files : Option Value)
  | cursor (id : Nat) (x y : Number) (tool : Option Text) (selected : Option (List Text))
  | httpReplace (body : Text) (preconditions : WritePreconditions)
  | beginFlush
  | finishFlush (stat : FileStat)
  | failFlush (message : Text)
  | writeConflict
  | beginReconcile
  | statFailed («exists» : Bool)
  | statOk (stat : FileStat)
  | readFailed (error : Text)
  | readOk (diskText : Text) (diskStat : FileStat)
  | taskFailed
  | finishMerge
  | finishRemove
  | mergeDisk (diskText : Text) (stat : FileStat)
  | markRemoved
  | reloadConflict
  | overwriteConflict
  | fanSnapshot
  | recoveryRecord

structure SceneLabel where
  now : Instant
  fresh : Nat
  nonces : Nat → Nat
  op : SceneOp

namespace SceneSession

def new (path seedText : Text) (scene : Scene) (stat : FileStat) (now : Instant) :
    SceneSession := ⟨path, .new seedText scene stat now, 0, false, .idle⟩

def withState (s : SceneSession) (st : SceneState) : SceneSession := { s with state := st }

def withIo (s : SceneSession) (r : SceneState × SceneIo) : SceneSession :=
  { s with state := r.1, io := r.2 }

def attached (s : SceneSession) (id : Nat) : Bool := (s.state.attaches.lookup id).isSome

def ioStep (fromStr : Text → Option Value) (s : SceneSession) (l : SceneLabel) :
    Option SceneSession :=
  match l.op, s.io with
  | .beginFlush, .idle =>
    match s.state.beginFlush with
    | (none, st) => some (s.withState st)
    | (some job, st) => some (s.withIo (st, .flush job))
  | .finishFlush stat, .flush job =>
    some (s.withIo (s.state.finishFlush job.epoch stat job.text l.now, .idle))
  | .failFlush message, .flush _ => some (s.withIo (s.state.noteFlushFailure message, .idle))
  | .writeConflict, .flush _ =>
    some (s.withIo (s.state, if s.closed then .idle else .reconcile))
  | .beginReconcile, .idle =>
    some (s.withIo (s.state, if s.closed then .idle else .reconcile))
  | .statFailed «exists», .reconcile => some (s.withIo (s.state.statFailed «exists» l.now))
  | .statOk stat, .reconcile => some (s.withIo (s.state.statOk stat))
  | .readFailed error, .read stat =>
    some (s.withIo (s.state.readFailed stat error l.fresh, .idle))
  | .readOk diskText diskStat, .read stat =>
    some (s.withIo (s.state.readOk fromStr stat diskText diskStat l.now))
  | .taskFailed, .reconcile => some (s.withIo (s.state, .idle))
  | .taskFailed, .read _ => some (s.withIo (s.state, .idle))
  | .finishMerge, .merge diskText diskStat =>
    some (s.withIo (s.state.mergeDisk fromStr diskText diskStat l.nonces l.now l.fresh, .idle))
  | .finishRemove, .remove => some (s.withIo (s.state.markRemoved l.fresh, .idle))
  | .mergeDisk diskText stat, .idle =>
    some (s.withState (s.state.mergeDisk fromStr diskText stat l.nonces l.now l.fresh))
  | .markRemoved, .idle => some (s.withState (s.state.markRemoved l.fresh))
  | .recoveryRecord, .idle => some (s.withState { s.state with recoveryPending := false })
  | _, _ => none

def step (fromStr : Text → Option Value) (s : SceneSession) (l : SceneLabel) :
    Option SceneSession :=
  match l.op with
  | .attach id windowId =>
    if s.closed || s.attached id then none
    else some { s with state := s.state.registerAttach s.path id windowId, detachedAt := 0 }
  | .detach id unixMillis =>
    if s.attached id || s.closed then
      let st := s.state.dropAttach id s.closed
      some { s with
        state := st
        detachedAt :=
          if st.attaches.entries = [] ∧ s.closed = false then unixMillis else s.detachedAt }
    else none
  | .push id elements appState files =>
    if s.attached id || s.closed then
      match s.state.push id elements appState files s.closed l.now with
      | .ok st => some (s.withState st)
      | .error _ => some s
    else none
  | .cursor id x y tool selected =>
    if s.attached id || s.closed then some (s.withState (s.state.cursor id x y tool selected))
    else none
  | .httpReplace body preconditions =>
    match s.state.applyHttpReplace fromStr body preconditions l.nonces l.now with
    | .ok (_, st) => some (s.withState st)
    | .error _ => some s
  | .reloadConflict =>
    some (s.withState ((s.state.reloadConflict fromStr s.path l.nonces l.now).getD s.state))
  | .overwriteConflict => some (s.withState ((s.state.overwriteConflict l.now).getD s.state))
  | .fanSnapshot => some (s.withState (s.state.fan (sceneSnapshotFrame s.path s.state)))
  | _ => s.ioStep fromStr l

end SceneSession

end Chan
