import Chan.Collab.Recovery
import Chan.Scene.Merge
import Chan.Scene.State

namespace Chan
open Utf AssocMap

inductive ScenePushError
  | scene (error : SceneError)
  | closed
  deriving DecidableEq

def sceneConflictId (n : Nat) : Text := "scene-".toList ++ (toString n).toList

namespace SceneState

def baselineOf (scene : Scene) (raw : Text) (mtimeNs : Option Int) (authorityVersion : Nat) :
    DurableBaseline :=
  ⟨scene.serializeFile, contentHash scene.serializeFile, mtimeNs, authorityVersion,
    decide (scene.serializeFile = raw)⟩

def new (seedText : Text) (scene : Scene) (stat : FileStat) (now : Instant) : SceneState where
  scene := scene
  writeBudget := semanticWriteBudget (some stat.size)
  version := 0
  attaches := ∅
  cursors := ∅
  sessionState := .clean
  baseline := baselineOf scene seedText stat.mtimeNs 0
  flushNow := false
  recoveryPending := false
  flushedMtimeNs := stat.mtimeNs
  flushedSize := stat.mtimeNs.map fun _ => stat.size
  flushEpochVersion := 0
  flushFailures := 0
  diskEcho := DiskEchoRing.new.noteAdopted (contentHash seedText) now

def registerAttach (path : Text) (id : Nat) (windowId : Text) (st : SceneState) : SceneState :=
  { st with attaches := st.attaches.insert id ⟨[sceneSnapshotFrame path st], windowId⟩ }

def dropAttach (id : Nat) (closed : Bool) (st : SceneState) : SceneState :=
  let st := { st with attaches := st.attaches.erase id }
  let st :=
    if (st.cursors.lookup id).isSome then
      { st with cursors := st.cursors.erase id }.fan (.cursorGone id)
    else st
  if st.attaches.entries = [] ∧ closed = false then { st with flushNow := true } else st

def push (id : Nat) (elements : List Value) (appState files : Option Value) (closed : Bool)
    (now : Instant) (st : SceneState) : Except ScenePushError SceneState :=
  if closed then .error .closed
  else
    match st.scene.applyPushWithLimit elements appState files st.writeBudget with
    | .error e => .error (.scene e)
    | .ok (applied, scene) =>
      let st := { st with scene := scene }
      let st :=
        if applied.isEmpty then st
        else
          let st := { st with version := st.version + 1 }
          let st := (st.fanExcept id (updateFrame st.version applied)).markDirty now
          { st with recoveryPending := true }
      .ok (st.sendTo id (.pushOk st.version (!applied.isEmpty)))

def cursor (id : Nat) (x y : Number) (tool : Option Text) (selected : Option (List Text))
    (st : SceneState) : SceneState :=
  match st.attaches.lookup id with
  | none => st
  | some sink =>
    let pos : SceneCursorPos := ⟨sink.windowId, x, y, tool, selected⟩
    { st with cursors := st.cursors.insert id pos }.fanExcept id (.cursor (pos.peer id))

def installScene (applied : SceneApplied) (scene : Scene) (st : SceneState) : SceneState :=
  let st := { st with scene := scene }
  if applied.isEmpty then st
  else
    let st := { st with version := st.version + 1 }
    st.fan (updateFrame st.version applied)

def enterConflictLocked (diskVersion : UInt64) (diskMtimeNs : Option Int) (diskContent : Text)
    (fresh : Nat) (st : SceneState) : SceneState :=
  let conflictId := match st.sessionState with
    | .conflicted c =>
      if c.baselineVersion = st.baseline.contentHash ∧ c.diskVersion = diskVersion then c.id
      else sceneConflictId fresh
    | _ => sceneConflictId fresh
  { st with
    sessionState := .conflicted ⟨conflictId, st.baseline.contentHash, diskVersion, st.version,
      diskMtimeNs, diskContent, none⟩
    flushNow := false }

def markRemoved (fresh : Nat) (st : SceneState) : SceneState :=
  if st.sessionState.isDirty then
    st.enterConflictLocked (contentHash removedDiskMarker) none [] fresh
  else
    { st with
      flushedMtimeNs := none
      flushedSize := none
      writeBudget := textWriteLimit
      sessionState := .removed
      flushNow := false }.fan .removed

def overwriteConflict (now : Instant) (st : SceneState) : Option SceneState :=
  match st.sessionState with
  | .conflicted c =>
    some { st with
      flushedMtimeNs := c.diskMtimeNs
      flushedSize := none
      baseline := { st.baseline with verbatim := false }
      sessionState := .dirty now
      flushNow := true }
  | _ => none

def beginFlush (st : SceneState) : Option FlushJob × SceneState :=
  let st := { st with flushNow := false }
  match st.sessionState.dirtySince with
  | none => (none, st)
  | some _ =>
    let expectedDisk :=
      if st.baseline.verbatim ∧ st.baseline.mtimeNs = st.flushedMtimeNs then
        some st.baseline.content
      else none
    (some ⟨st.scene.serializeFile, st.flushedMtimeNs, expectedDisk, st.version⟩,
      { st with flushEpochVersion := st.version })

def finishFlush (epoch : Nat) (stat : FileStat) (content : Text) (now : Instant)
    (st : SceneState) : SceneState :=
  let st := { st.adoptToken stat with
    diskEcho := st.diskEcho.noteWritten (contentHash content) now
    flushFailures := 0
    baseline := ⟨content, contentHash content, stat.mtimeNs, epoch, true⟩
    writeBudget := semanticWriteBudget (some stat.size) }
  let st :=
    if st.version = epoch then { st with sessionState := st.sessionState.clearAfterFlush } else st
  st.fan (sceneFlushFrame st)

def noteFlushFailure (message : Text) (st : SceneState) : SceneState :=
  let st := { st with flushFailures := st.flushFailures + 1 }
  if 2 ≤ st.flushFailures then st.fan (.flush true none none (some message)) else st

section

variable (fromStr : Text → Option Value)

def matchesAuthority (text : Text) (st : SceneState) : Bool :=
  match Scene.parse fromStr text with
  | .ok scene => scene.fileContentEq st.scene
  | .error _ => false

def applyReplaceLocked (body : Text) (nonces : Nat → Nat) (now : Instant) (st : SceneState) :
    Except SceneError SceneState :=
  match st.scene.applyReplaceWithLimit fromStr body nonces st.writeBudget with
  | .error e => .error e
  | .ok (applied, scene) =>
    let st := st.installScene applied scene
    .ok (if applied.isEmpty then st else st.markDirty now)

def applyHttpReplace (body : Text) (preconditions : WritePreconditions) (nonces : Nat → Nat)
    (now : Instant) (st : SceneState) : Except SceneError (HttpReplaceOutcome × SceneState) :=
  match st.sessionState.conflictDiskMtimeNs with
  | some diskMtimeNs => .ok (.conflicted diskMtimeNs, st)
  | none =>
    match Scene.parse fromStr body with
    | .error e => .error e
    | .ok incoming =>
      match checkWritePreconditions st.flushedMtimeNs (some st.version)
        (incoming.fileContentEq st.scene) preconditions with
      | .error .required => .ok (.preconditionRequired st.version st.flushedMtimeNs, st)
      | .error .conflict => .ok (.stale st.version st.flushedMtimeNs, st)
      | .ok () => (st.applyReplaceLocked fromStr body nonces now).map fun st => (.applied, st)

def applyMergeOutcomeLocked (diskText : Text) (stat : FileStat) (outcome : MergeOutcome)
    (nonces : Nat → Nat) (now : Instant) (fresh : Nat) (st : SceneState) : SceneState :=
  match outcome with
  | .merged mergedText =>
    let diskBudget := semanticWriteBudget (some stat.size)
    match Scene.parse fromStr diskText with
    | .error _ => st
    | .ok diskScene =>
      let dirtySince := st.sessionState.dirtySince.getD now
      match st.scene.applyReplaceWithLimit fromStr mergedText nonces diskBudget with
      | .error _ => st
      | .ok (applied, scene) =>
        let st := ((st.noteAdopted (contentHash diskText) now).adoptToken stat).installScene
          applied scene
        let st := { st with
          baseline := baselineOf diskScene diskText stat.mtimeNs st.version
          writeBudget := diskBudget }
        let state := if st.matchesAuthority fromStr st.baseline.content then .clean
          else .dirty dirtySince
        { st with sessionState := state, flushNow := state.isDirty, flushFailures := 0 }
  | .conflict => st.enterConflictLocked (contentHash diskText) stat.mtimeNs diskText fresh

/-- Fold external disk content in: adopted by a session with nothing unsaved, merged otherwise,
retained as a conflict when it is no usable scene. -/
def mergeDisk (diskText : Text) (stat : FileStat) (nonces : Nat → Nat) (now : Instant)
    (fresh : Nat) (st : SceneState) : SceneState :=
  match parseMergeInput fromStr diskText with
  | none => st.applyMergeOutcomeLocked fromStr diskText stat .conflict nonces now fresh
  | some diskScene =>
    let diskBudget := semanticWriteBudget (some stat.size)
    if st.sessionState.isDirty ∧ diskScene.fileContentEq st.scene = false then
      let outcome := match mergeThreeWayWithLimit fromStr st.baseline.content st.scene diskText
          diskBudget with
        | some merged => MergeOutcome.merged merged
        | none => .conflict
      st.applyMergeOutcomeLocked fromStr diskText stat outcome nonces now fresh
    else
      let st := st.noteAdopted (contentHash diskText) now
      match st.scene.applyReplaceWithLimit fromStr diskText nonces diskBudget with
      | .error _ => st
      | .ok (applied, scene) =>
        let st := (st.installScene applied scene).adoptToken stat
        { st with
          baseline := baselineOf diskScene diskText stat.mtimeNs st.version
          writeBudget := diskBudget
          sessionState := .clean
          flushFailures := 0 }

/-- Resolve a conflict in favour of the retained disk side. `none` where it stays. -/
def reloadConflict (path : Text) (nonces : Nat → Nat) (now : Instant) (st : SceneState) :
    Option SceneState :=
  match st.sessionState with
  | .conflicted c =>
    if c.diskVersion = contentHash removedDiskMarker then
      some ({ st with
        flushedMtimeNs := none
        flushedSize := none
        sessionState := .removed
        flushNow := false
        flushFailures := 0 }.fan .removed)
    else if c.diskVersion ≠ contentHash c.diskContent then none
    else
      let diskBudget := semanticWriteBudget (some (utf8Len c.diskContent))
      match Scene.parse fromStr c.diskContent with
      | .error _ => none
      | .ok diskScene =>
        match st.scene.applyReplaceWithLimit fromStr c.diskContent nonces diskBudget with
        | .error _ => none
        | .ok (applied, scene) =>
          let st := (st.installScene applied scene).noteAdopted (contentHash c.diskContent) now
          let st := { st with
            flushedMtimeNs := c.diskMtimeNs
            flushedSize := none
            baseline := baselineOf diskScene c.diskContent c.diskMtimeNs st.version
            writeBudget := diskBudget
            sessionState := .clean
            flushNow := false
            flushFailures := 0 }
          some (if applied.isEmpty then st.fan (sceneSnapshotFrame path st) else st)
  | _ => none

end

end SceneState

end Chan
