import Chan.Scene.Reconcile

namespace Chan
open Utf AssocMap

def SceneError.display : SceneError → Text
  | .invalid reason => "invalid excalidraw scene: ".toList ++ reason
  | .tooLarge bytes limit =>
    "scene would be ".toList ++ decimal bytes ++ " bytes, over the ".toList ++ decimal limit ++
      " byte limit".toList

namespace SceneSession

def recoveryRecord (s : SceneSession) : RecoveryRecord :=
  .new .scene s.path
    ⟨s.state.scene.serializeFile, s.state.version, s.state.writeBudget, s.state.flushedMtimeNs⟩
    ⟨s.state.baseline.content, s.state.baseline.contentHash, s.state.baseline.mtimeNs,
      s.state.baseline.authorityVersion⟩
    s.state.sessionState.recoveryState

section

variable (fromStr : Text → Option Value) (path : Text) (disk : Option (Text × FileStat))
  (unreadable : Option (UInt64 × Option Int)) (record : RecoveryRecord) (now : Instant)

def diskScene : Text × Option Scene :=
  match disk with
  | some (text, _) => (text, (Scene.parse fromStr text).toOption)
  | none => ([], none)

def diskMtimeNs : Option Int :=
  (disk.bind fun r => r.2.mtimeNs).or (unreadable.bind fun r => r.2)

def diskHash : UInt64 :=
  match disk, unreadable with
  | some (text, _), _ => contentHash text
  | none, some (version, _) => version
  | none, none => contentHash removedDiskMarker

def restored (authority : Scene) (state : SessionState) : SceneSession :=
  let (text, scene) := diskScene fromStr disk
  let version := record.authority.version
  let baseline : DurableBaseline :=
    match state, scene with
    | .clean, some scene =>
      SceneState.baselineOf scene text (diskMtimeNs disk unreadable) version
    | _, _ => ⟨record.baseline.content, contentHash record.baseline.content,
      record.baseline.mtimeNs, record.baseline.authorityVersion, false⟩
  { path := path
    state :=
      { scene := authority
        writeBudget := record.authority.writeBudget
        version := version
        attaches := ∅
        cursors := ∅
        sessionState := state
        baseline := baseline
        flushNow := false
        recoveryPending := false
        flushedMtimeNs := diskMtimeNs disk unreadable
        flushedSize := (diskMtimeNs disk unreadable).bind fun _ => disk.map fun r => r.2.size
        flushEpochVersion := version
        flushFailures := 0
        diskEcho := DiskEchoRing.new.noteAdopted (diskHash disk unreadable) now }
    detachedAt := 0
    closed := false
    io := .idle }

def resumeState (authority baseline : Scene) (conflict : SessionConflict) : SessionState :=
  match (diskScene fromStr disk).2 with
  | some scene =>
    if scene.fileContentEq authority then .clean
    else if scene.fileContentEq baseline then .dirty now
    else .conflicted conflict
  | none => .conflicted conflict

def fromRecovery (fresh : Nat) : Except Text SceneSession :=
  match Scene.parse fromStr record.authority.content,
    Scene.parse fromStr record.baseline.content with
  | .error e, _ => .error ("parse recovered scene authority: ".toList ++ e.display)
  | .ok _, .error e => .error ("parse recovered scene baseline: ".toList ++ e.display)
  | .ok authority, .ok baseline =>
    let (text, scene) := diskScene fromStr disk
    let baselineHash := contentHash record.baseline.content
    let version := record.authority.version
    let conflict (id : Text) : SessionConflict :=
      ⟨id, baselineHash, diskHash disk unreadable, version, diskMtimeNs disk unreadable, text, none⟩
    let resume (id : Text) : SceneSession :=
      restored fromStr path disk unreadable record now authority
        (resumeState fromStr disk now authority baseline (conflict id))
    if baselineHash ≠ record.baseline.contentHash then
      .error "scene recovery baseline hash mismatch".toList
    else if version < record.baseline.authorityVersion then
      .error "scene recovery baseline version is ahead of authority".toList
    else if record.authority.writeBudget < utf8Len record.authority.content then
      .error "scene recovery authority exceeds its write budget".toList
    else
      match record.lifecycle, disk, scene with
      | .clean, some (text, stat), some scene => .ok (SceneSession.new path text scene stat now)
      | .clean, _, _ => .error "scene recovery is clean but the source file is unusable".toList
      | .dirty, _, _ => .ok (resume (sceneConflictId fresh))
      | .conflicted c, _, _ =>
        if c.baselineVersion ≠ baselineHash ∨ c.authorityVersion ≠ version then
          .error "scene recovery conflict version mismatch".toList
        else .ok (resume c.id)
      | .removed, some (text, stat), some scene => .ok (SceneSession.new path text scene stat now)
      | .removed, _, _ => .error "scene recovery source file is still missing".toList

end

end SceneSession

end Chan
