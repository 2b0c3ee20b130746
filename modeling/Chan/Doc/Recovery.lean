import Chan.Collab.Recovery
import Chan.Doc.Effects

namespace Chan
open Utf AssocMap

namespace DocSession

def recoveryRecord (s : DocSession) : RecoveryRecord :=
  .new .document s.path
    ⟨s.state.text, s.state.version, s.state.writeBudget, s.state.flushedMtimeNs⟩
    ⟨s.state.baseline.content, s.state.baseline.contentHash, s.state.baseline.mtimeNs,
      s.state.baseline.authorityVersion⟩
    s.state.sessionState.recoveryState

structure Disk where
  /-- The text and stat of a readable file. -/
  read : Option (Text × FileStat)
  /-- The marker hash and token of a file that could not be read. -/
  unreadable : Option (UInt64 × Option Int)

namespace Disk

def text (d : Disk) : Text :=
  match d.read with
  | some (text, _) => normalizeLf text
  | none => []

def verbatim (d : Disk) : Bool :=
  match d.read with
  | some (text, _) => decide ('\r' ∉ text)
  | none => false

def mtimeNs (d : Disk) : Option Int :=
  (d.read.bind fun r => r.2.mtimeNs).or (d.unreadable.bind fun r => r.2)

def hash (d : Disk) : UInt64 :=
  match d.read, d.unreadable with
  | some _, _ => contentHash d.text
  | none, some (version, _) => version
  | none, none => contentHash removedDiskMarker

end Disk

def resumeState (disk : Disk) (authority baseline : Text) (conflict : SessionConflict)
    (now : Instant) : SessionState :=
  if disk.read.isSome ∧ disk.text = authority then .clean
  else if disk.read.isSome ∧ disk.text = baseline then .dirty now
  else .conflicted conflict

def restored (path : Text) (disk : Disk) (record : RecoveryRecord) (state : SessionState)
    (now : Instant) : DocSession :=
  let authority := normalizeLf record.authority.content
  let baselineContent := normalizeLf record.baseline.content
  let version := record.authority.version
  let baseline : DurableBaseline :=
    if state = .clean then ⟨disk.text, disk.hash, disk.mtimeNs, version, disk.verbatim⟩
    else ⟨baselineContent, contentHash baselineContent, record.baseline.mtimeNs,
      record.baseline.authorityVersion, false⟩
  { path := path
    state :=
      { text := authority
        writeBudget := record.authority.writeBudget
        len16 := utf16Len authority
        version := version
        log := []
        logBase := version
        logBytes := 0
        attaches := ∅
        cursors := ∅
        sessionState := state
        baseline := baseline
        flushNow := false
        recoveryPending := false
        flushedMtimeNs := disk.mtimeNs
        flushedSize := disk.mtimeNs.bind fun _ => disk.read.map fun r => r.2.size
        flushEpochVersion := version
        flushFailures := 0
        diskEcho := (DiskEchoRing.new.noteWritten baseline.contentHash now).noteAdopted
          disk.hash now }
    detachedAt := 0
    closed := false
    io := .idle }

def fromRecovery (path : Text) (disk : Disk) (record : RecoveryRecord) (now : Instant)
    (fresh : Nat) : Except Text DocSession :=
  let authority := normalizeLf record.authority.content
  let baselineContent := normalizeLf record.baseline.content
  let baselineHash := contentHash baselineContent
  let version := record.authority.version
  let conflict (id : Text) : SessionConflict :=
    ⟨id, baselineHash, disk.hash, version, disk.mtimeNs, disk.text, none⟩
  let resume (id : Text) : DocSession :=
    restored path disk record (resumeState disk authority baselineContent (conflict id) now) now
  if baselineHash ≠ record.baseline.contentHash then
    .error "document recovery baseline hash mismatch".toList
  else if version < record.baseline.authorityVersion then
    .error "document recovery baseline version is ahead of authority".toList
  else if record.authority.writeBudget < utf8Len authority then
    .error "document recovery authority exceeds its write budget".toList
  else
    match record.lifecycle, disk.read with
    | .clean, some (_, stat) => .ok (DocSession.new path disk.text stat now)
    | .clean, none =>
      .error "document recovery is clean but the source file is missing".toList
    | .dirty, _ => .ok (resume (docConflictId fresh))
    | .conflicted c, _ =>
      if c.baselineVersion ≠ baselineHash ∨ c.authorityVersion ≠ version then
        .error "document recovery conflict version mismatch".toList
      else .ok (resume c.id)
    | .removed, some (_, stat) => .ok (DocSession.new path disk.text stat now)
    | .removed, none => .error "document recovery source file is still missing".toList

def create (path : Text) (disk : Disk) (record : Option RecoveryRecord) (now : Instant)
    (fresh : Nat) : Option DocSession :=
  match record, disk.read with
  | some r, _ => (fromRecovery path disk r now fresh).toOption
  | none, some (text, stat) => some (DocSession.new path (normalizeLf text) stat now)
  | none, none => none

end DocSession

end Chan
