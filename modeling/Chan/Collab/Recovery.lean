import Chan.Lib.AssocMap
import Chan.Collab.Session

namespace Chan
open Utf AssocMap

def recoveryFormat : Nat := 1

def recoveryRecordLimit : Nat := 50 * 1024 * 1024

inductive RecoveryKind
  | document
  | scene
  deriving DecidableEq

def RecoveryKind.directory : RecoveryKind → Text
  | .document => "documents".toList
  | .scene => "scenes".toList

structure RecoveryBaseline where
  content : Text
  contentHash : UInt64
  mtimeNs : Option Int
  authorityVersion : Nat
  deriving DecidableEq

structure RecoveryConflict where
  id : Text
  baselineVersion : UInt64
  diskVersion : UInt64
  authorityVersion : Nat
  diskMtimeNs : Option Int
  deriving DecidableEq

inductive RecoveryState
  | clean
  | dirty
  | conflicted (conflict : RecoveryConflict)
  | removed
  deriving DecidableEq

def SessionState.recoveryState : SessionState → RecoveryState
  | .clean => .clean
  | .dirty _ => .dirty
  | .observing since _ => if since.isSome then .dirty else .clean
  | .conflicted c =>
    .conflicted ⟨c.id, c.baselineVersion, c.diskVersion, c.authorityVersion, c.diskMtimeNs⟩
  | .removed => .removed

structure RecoveryAuthority where
  content : Text
  version : Nat
  writeBudget : Nat
  flushedMtimeNs : Option Int
  deriving DecidableEq

structure RecoveryRecord where
  format : Nat
  kind : RecoveryKind
  path : Text
  authority : RecoveryAuthority
  baseline : RecoveryBaseline
  lifecycle : RecoveryState
  deriving DecidableEq

structure SkippedRecovery where
  format : Nat
  kind : RecoveryKind
  path : Text
  skipped : Bool
  deriving DecidableEq

inductive StoredRecovery
  | record (record : RecoveryRecord)
  | skipped (marker : SkippedRecovery)
  deriving DecidableEq

inductive ChanError
  | io (message : Text)
  | pathEscape
  | pathEmpty
  deriving DecidableEq

def ioError (message : String) : ChanError := .io message.toList

namespace RecoveryRecord

def new (kind : RecoveryKind) (path : Text) (authority : RecoveryAuthority)
    (baseline : RecoveryBaseline) (lifecycle : RecoveryState) : RecoveryRecord :=
  ⟨recoveryFormat, kind, path, authority, baseline, lifecycle⟩

def conflictMatches (r : RecoveryRecord) : Bool :=
  match r.lifecycle with
  | .conflicted c =>
    c.baselineVersion == r.baseline.contentHash && c.authorityVersion == r.authority.version
  | _ => true

def validateIdentity (r : RecoveryRecord) (kind : RecoveryKind) (path : Text) :
    Except ChanError Unit :=
  if r.format ≠ recoveryFormat then
    .error (.io ("unsupported editor-session recovery format ".toList ++
      (toString r.format).toList))
  else if r.kind ≠ kind ∨ r.path ≠ path then
    .error (ioError "editor-session recovery identity does not match its path")
  else if r.authority.writeBudget < utf8Len r.authority.content then
    .error (ioError "editor-session recovery authority exceeds its write budget")
  else if contentHash r.baseline.content ≠ r.baseline.contentHash then
    .error (ioError "editor-session recovery baseline hash mismatch")
  else if r.authority.version < r.baseline.authorityVersion then
    .error (ioError "editor-session recovery baseline version is ahead of authority")
  else if r.conflictMatches = false then
    .error (ioError "editor-session recovery conflict version mismatch")
  else .ok ()

end RecoveryRecord

namespace SkippedRecovery

def new (record : RecoveryRecord) : SkippedRecovery :=
  ⟨recoveryFormat, record.kind, record.path, true⟩

def validateIdentity (m : SkippedRecovery) (kind : RecoveryKind) (path : Text) :
    Except ChanError Unit :=
  if m.format ≠ recoveryFormat ∨ m.kind ≠ kind ∨ m.path ≠ path ∨ m.skipped = false then
    .error (ioError "invalid editor-session skipped-recovery marker")
  else .ok ()

end SkippedRecovery

def validateRel (requested : Text) : Except ChanError Unit :=
  let components := ((requested.dropWhile (· == '/')).splitOn '/').filter fun c =>
    !c.isEmpty && c != ".".toList
  if '\x00' ∈ requested then .error .pathEscape
  else if requested.dropWhile (· == '/') = [] then .error .pathEmpty
  else if "..".toList ∈ components then .error .pathEscape
  else if components = [] then .error .pathEmpty
  else .ok ()

def recoveryPath (kind : RecoveryKind) (path : Text) : Except ChanError Text :=
  (validateRel path).map fun _ =>
    "v1/".toList ++ kind.directory ++ "/".toList ++ path ++ ".json".toList

/-- The JSON printer and parser of the two stored shapes. -/
structure Serde where
  record : RecoveryRecord → List UInt8
  skipped : SkippedRecovery → List UInt8
  parse : List UInt8 → Option StoredRecovery

def Serde.RoundTrips (serde : Serde) (r : RecoveryRecord) : Prop :=
  serde.parse (serde.record r) = some (.record r) ∧
    serde.parse (serde.skipped (.new r)) = some (.skipped (.new r))

abbrev SessionStore := Map Text (List UInt8)

namespace Recovery

variable (serde : Serde)

def loadInner (files : SessionStore) (kind : RecoveryKind) (path recoveryPath : Text) :
    Except ChanError (Option RecoveryRecord) :=
  match files.lookup recoveryPath with
  | none => .ok none
  | some bytes =>
    if recoveryRecordLimit < bytes.length then
      .error (ioError "editor-session recovery record exceeds 52428800 bytes")
    else
      match serde.parse bytes with
      | none => .error (ioError "parse editor-session recovery")
      | some (.record r) => (r.validateIdentity kind path).map fun _ => some r
      | some (.skipped m) => (m.validateIdentity kind path).map fun _ => none

def load (files : SessionStore) (kind : RecoveryKind) (path : Text) :
    Except ChanError (Option RecoveryRecord) :=
  match recoveryPath kind path with
  | .error e => .error e
  | .ok p =>
    match loadInner serde files kind path p with
    | .ok record => .ok record
    | .error _ => .ok none

def store (files : SessionStore) (record : RecoveryRecord) : Except ChanError SessionStore :=
  match record.validateIdentity record.kind record.path with
  | .error e => .error e
  | .ok () =>
    match recoveryPath record.kind record.path with
    | .error e => .error e
    | .ok p =>
      if min record.authority.writeBudget recoveryRecordLimit < (serde.record record).length then
        .ok (files.insert p (serde.skipped (.new record)))
      else .ok (files.insert p (serde.record record))

end Recovery

end Chan
