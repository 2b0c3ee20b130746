import Chan.Doc.State

namespace Chan
open Utf AssocMap

inductive PushError
  | reservedClientId (clientId : Text)
  | apply (error : ApplyError)
  | closed
  deriving DecidableEq

def applyBatch (budget : Nat) (text : Text) (len16 : Nat) :
    Option Applied → List Update → Except ApplyError (Option Applied)
  | acc, [] => .ok acc
  | acc, u :: us =>
    let (t, n) := match acc with
      | some a => (a.text, a.len16)
      | none => (text, len16)
    match applyWithLimit t n u.changes budget with
    | .error e => .error e
    | .ok a => applyBatch budget text len16 (some a) us

def docConflictId (n : Nat) : Text := "doc-".toList ++ (toString n).toList

namespace DocState

def new (text : Text) (stat : FileStat) (now : Instant) : DocState where
  text := text
  writeBudget := semanticWriteBudget (some stat.size)
  len16 := utf16Len text
  version := 0
  log := []
  logBase := 0
  logBytes := 0
  attaches := ∅
  cursors := ∅
  sessionState := .clean
  baseline := ⟨text, contentHash text, stat.mtimeNs, 0, false⟩
  flushNow := false
  recoveryPending := false
  flushedMtimeNs := stat.mtimeNs
  flushedSize := stat.mtimeNs.map fun _ => stat.size
  flushEpochVersion := 0
  flushFailures := 0
  diskEcho := DiskEchoRing.new.noteAdopted (contentHash text) now

def registerAttach (path : Text) (id : Nat) (windowId : Text) (clientVersion : Option Nat)
    (st : DocState) : DocState :=
  let snapshot := [snapshotFrame path st]
  let catchUp := match clientVersion with
    | none => snapshot
    | some v =>
      if st.logBase ≤ v ∧ v ≤ st.version then
        (if v < st.version then [updatesFrame v (st.log.drop (v - st.logBase))] else []) ++
        (st.cursors.entries.map fun e =>
          .cursor e.1 e.2.windowId e.2.anchor e.2.head e.2.version) ++
        [conflictFrame st.sessionState.isConflicted st.sessionState.conflictDiskMtimeNs.join,
          flushFrame st]
      else snapshot
  { st with attaches := st.attaches.insert id ⟨catchUp, windowId⟩ }

def dropAttach (id : Nat) (closed : Bool) (st : DocState) : DocState :=
  let st := { st with attaches := st.attaches.erase id }
  let st :=
    if (st.cursors.lookup id).isSome then
      { st with cursors := st.cursors.erase id }.fan (.cursorGone id)
    else st
  if st.attaches.entries = [] ∧ closed = false then { st with flushNow := true } else st

def commit (st : DocState) (updates : List Update) (applied : Applied) : DocState :=
  let frame := updatesFrame st.version (updates.map Update.logged)
  ((updates.map Update.logged).foldl appendLog
    { st with text := applied.text, len16 := applied.len16 }).fan frame

def push (id baseVersion : Nat) (updates : List Update) (closed : Bool) (now : Instant)
    (st : DocState) : Except PushError DocState :=
  match updates.find? fun u => u.clientId.head? == some reservedClientPrefix with
  | some u => .error (.reservedClientId u.clientId)
  | none =>
    if closed then .error .closed
    else if st.version ≠ baseVersion then .ok (st.sendTo id (.pushStale st.version))
    else
      match applyBatch st.writeBudget st.text st.len16 none updates with
      | .error e => .error (.apply e)
      | .ok none => .ok (st.sendTo id (.pushOk st.version))
      | .ok (some applied) =>
        let st := (st.commit updates applied).markDirty now
        let st := { st with recoveryPending := true }
        .ok (st.sendTo id (.pushOk st.version))

def pull (path : Text) (id version : Nat) (st : DocState) : DocState :=
  if st.logBase ≤ version ∧ version ≤ st.version then
    if version < st.version then
      st.sendTo id (updatesFrame version (st.log.drop (version - st.logBase)))
    else st
  else st.sendTo id (snapshotFrame path st)

def cursor (id anchor head : Nat) (st : DocState) : DocState :=
  match st.attaches.lookup id with
  | none => st
  | some sink =>
    let anchor := min anchor st.len16
    let head := min head st.len16
    let st :=
      { st with cursors := st.cursors.insert id ⟨sink.windowId, anchor, head, st.version⟩ }
    st.fanExcept id (.cursor id sink.windowId anchor head st.version)

def httpReadView (st : DocState) : HttpReadView where
  content := st.text
  diskMtimeNs := st.flushedMtimeNs
  authorityVersion := st.version
  diskConflicted := st.sessionState.conflictDiskMtimeNs.isSome

def replaceLocked (clientId newText : Text) (st : DocState) : DocState :=
  st.commit [⟨clientId, replaceDiff st.text newText⟩] ⟨newText, utf16Len newText⟩

def applyReplaceLocked (clientId newText : Text) (now : Instant) (st : DocState) : DocState :=
  if newText = st.text then st else (st.replaceLocked clientId newText).markDirty now

def applyHttpReplace (clientId newText : Text) (preconditions : WritePreconditions)
    (now : Instant) (st : DocState) : Except ApplyError (HttpReplaceOutcome × DocState) :=
  match st.sessionState.conflictDiskMtimeNs with
  | some diskMtimeNs => .ok (.conflicted diskMtimeNs, st)
  | none =>
    match checkWritePreconditions st.flushedMtimeNs (some st.version)
      (decide (newText = st.text)) preconditions with
    | .error .required => .ok (.preconditionRequired st.version st.flushedMtimeNs, st)
    | .error .conflict => .ok (.stale st.version st.flushedMtimeNs, st)
    | .ok () =>
      if st.writeBudget < utf8Len newText then
        .error (.docTooLarge (utf8Len newText) st.writeBudget)
      else .ok (.applied, st.applyReplaceLocked clientId newText now)

def reenteredId (diskVersion : UInt64) (st : DocState) : Option Text :=
  match st.sessionState with
  | .conflicted conflict =>
    if conflict.baselineVersion = st.baseline.contentHash ∧ conflict.diskVersion = diskVersion then
      some conflict.id
    else none
  | _ => none

def enterConflictLocked (diskVersion : UInt64) (diskMtimeNs : Option Int) (diskContent : Text)
    (fresh : Nat) (st : DocState) : DocState :=
  let conflict (id : Text) : SessionConflict :=
    ⟨id, st.baseline.contentHash, diskVersion, st.version, diskMtimeNs, diskContent, none⟩
  match st.reenteredId diskVersion with
  | some id => { st with sessionState := .conflicted (conflict id), flushNow := false }
  | none =>
    { st with
      sessionState := .conflicted (conflict (docConflictId fresh))
      flushNow := false }.fan (conflictFrame true diskMtimeNs)

def adoptBaseline (diskText : Text) (stat : FileStat) (verbatim : Bool) (st : DocState) :
    DocState :=
  { st.adoptToken stat with
    baseline := ⟨diskText, contentHash diskText, stat.mtimeNs, st.version, verbatim⟩
    writeBudget := semanticWriteBudget (some stat.size) }

def installDisk (diskText : Text) (st : DocState) : DocState :=
  if diskText ≠ st.text then st.replaceLocked diskClient diskText else st

def applyMergeOutcomeLocked (diskText : Text) (stat : FileStat) (diskVerbatim : Bool)
    (outcome : MergeOutcome) (now : Instant) (fresh : Nat) (st : DocState) : DocState :=
  match outcome with
  | .merged mergedText =>
    let dirtySince := st.sessionState.dirtySince.getD now
    let st := (st.noteAdopted (contentHash diskText) now).installDisk (normalizeLf mergedText)
    let st := st.adoptBaseline diskText stat diskVerbatim
    let state := if st.text = st.baseline.content then .clean else .dirty dirtySince
    { st with sessionState := state, flushNow := state.isDirty, flushFailures := 0 }
  | .conflict => st.enterConflictLocked (contentHash diskText) stat.mtimeNs diskText fresh

/-- Fold disk content in: adopted as it is by a session with nothing unsaved, merged otherwise. -/
def mergeDisk (diffy : Text → Text → Text → Option Text) (diskText : Text) (stat : FileStat)
    (diskVerbatim : Bool) (now : Instant) (fresh : Nat) (st : DocState) : DocState :=
  let diskText := normalizeLf diskText
  if st.sessionState.isDirty ∧ diskText ≠ st.text then
    let outcome := match mergeTextSnapshots diffy st.baseline.content st.text diskText with
      | some merged => MergeOutcome.merged merged
      | none => .conflict
    st.applyMergeOutcomeLocked diskText stat diskVerbatim outcome now fresh
  else
    let st := (st.noteAdopted (contentHash diskText) now).installDisk diskText
    { st.adoptBaseline diskText stat diskVerbatim with sessionState := .clean, flushFailures := 0 }

def forgetFile (st : DocState) : DocState :=
  { st with
    flushedMtimeNs := none
    flushedSize := none
    writeBudget := textWriteLimit
    sessionState := .removed
    flushNow := false }

def markRemoved (fresh : Nat) (st : DocState) : DocState :=
  if st.sessionState.isDirty then
    st.enterConflictLocked (contentHash removedDiskMarker) none [] fresh
  else st.forgetFile.fan .removed

def reloadVanished (st : DocState) : DocState :=
  let st' := { st.forgetFile with flushFailures := 0 }
  (if st.sessionState.isConflicted then st'.fan (conflictFrame false none) else st').fan .removed

def reloadAdopt (path diskText : Text) (diskStat : FileStat) (now : Instant) (st : DocState) :
    DocState :=
  let diskVerbatim := decide ('\r' ∉ diskText)
  let diskText := normalizeLf diskText
  let wasConflicted := st.sessionState.isConflicted
  let changed := decide (diskText ≠ st.text)
  let st := (st.installDisk diskText).noteAdopted (contentHash diskText) now
  let st := { st.adoptBaseline diskText diskStat diskVerbatim with
    sessionState := .clean
    flushNow := false
    flushFailures := 0 }
  let st := if wasConflicted then st.fan (conflictFrame false diskStat.mtimeNs) else st
  if changed then st.fan (flushFrame st) else st.fan (snapshotFrame path st)

def overwriteConflict (now : Instant) (st : DocState) : Option DocState :=
  match st.sessionState with
  | .conflicted conflict =>
    some ({ st with
      flushedMtimeNs := conflict.diskMtimeNs
      flushedSize := none
      baseline := { st.baseline with verbatim := false }
      sessionState := .dirty now
      flushNow := true }.fan (conflictFrame false conflict.diskMtimeNs))
  | _ => none

def beginFlush (st : DocState) : Option FlushJob × DocState :=
  let st := { st with flushNow := false }
  match st.sessionState.dirtySince with
  | none => (none, st)
  | some _ =>
    let expectedDisk :=
      if st.baseline.verbatim ∧ st.baseline.mtimeNs = st.flushedMtimeNs then
        some st.baseline.content
      else none
    (some ⟨st.text, st.flushedMtimeNs, expectedDisk, st.version⟩,
      { st with flushEpochVersion := st.version })

def finishFlush (epoch : Nat) (stat : FileStat) (content : Text) (now : Instant)
    (st : DocState) : DocState :=
  let st := { st.adoptToken stat with
    diskEcho := st.diskEcho.noteWritten (contentHash content) now
    flushFailures := 0
    baseline := ⟨content, contentHash content, stat.mtimeNs, epoch, true⟩
    writeBudget := semanticWriteBudget (some stat.size) }
  let st :=
    if st.version = epoch then { st with sessionState := st.sessionState.clearAfterFlush } else st
  st.fan (flushFrame st)

def noteFlushFailure (message : Text) (st : DocState) : DocState :=
  let st := { st with flushFailures := st.flushFailures + 1 }
  if 2 ≤ st.flushFailures then st.fan (.flush true none none (some message)) else st

end DocState

end Chan
