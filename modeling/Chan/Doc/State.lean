import Chan.Lib.AssocMap
import Chan.Collab.Session
import Chan.Doc.Changes
import Chan.Doc.Text

namespace Chan
open Utf AssocMap

def docLogMaxUpdates : Nat := 512

def docLogMaxBytes : Nat := 256 * 1024

def reservedClientPrefix : Char := '$'

def diskClient : Text := "$disk".toList

structure PeerCursor where
  id : Nat
  w : Text
  anchor : Nat
  head : Nat
  version : Nat
  deriving DecidableEq

inductive ServerFrame
  | snapshot (path : Text) (version : Nat) (doc : Text) (dirty conflicted : Bool)
      (mtimeNs : Option Text) (size : Option Nat) (cursors : List PeerCursor)
  | updates (version : Nat) (updates : List Update)
  | pushOk (version : Nat)
  | pushStale (version : Nat)
  | cursor (id : Nat) (w : Text) (anchor head version : Nat)
  | cursorGone (id : Nat)
  | flush (dirty : Bool) (mtimeNs : Option Text) (size : Option Nat) (error : Option Text)
  | conflict (active : Bool) (diskMtimeNs : Option Text)
  | removed
  | closed (reason : Text)
  deriving DecidableEq

structure AttachSink where
  /-- Every frame enqueued since the attach, oldest first. -/
  outbox : List ServerFrame
  windowId : Text
  deriving DecidableEq

structure CursorPos where
  windowId : Text
  anchor : Nat
  head : Nat
  version : Nat
  deriving DecidableEq

structure LoggedUpdate where
  clientId : Text
  changes : ChangeSet
  cost : Nat
  deriving DecidableEq

def LoggedUpdate.toUpdate (e : LoggedUpdate) : Update := ⟨e.clientId, e.changes⟩

def Section.cost : Section → Nat
  | .retain _ => 8
  | .edit _ lines => 8 + (lines.map fun l => utf8Len l + 4).sum

def changesetCost (cs : ChangeSet) : Nat := (cs.sections.map Section.cost).sum

def Update.logged (u : Update) : LoggedUpdate :=
  ⟨u.clientId, u.changes, changesetCost u.changes + utf8Len u.clientId⟩

structure DocState where
  text : Text
  writeBudget : Nat
  len16 : Nat
  version : Nat
  log : List LoggedUpdate
  logBase : Nat
  logBytes : Nat
  attaches : Map Nat AttachSink
  cursors : Map Nat CursorPos
  sessionState : SessionState
  baseline : DurableBaseline
  flushNow : Bool
  recoveryPending : Bool
  flushedMtimeNs : Option Int
  flushedSize : Option Nat
  flushEpochVersion : Nat
  flushFailures : Nat
  diskEcho : DiskEchoRing

def updatesFrame (base : Nat) (entries : List LoggedUpdate) : ServerFrame :=
  .updates base (entries.map LoggedUpdate.toUpdate)

def snapshotFrame (path : Text) (st : DocState) : ServerFrame :=
  .snapshot path st.version st.text st.sessionState.isDirty st.sessionState.isConflicted
    (st.flushedMtimeNs.map decimal) st.flushedSize
    (st.cursors.entries.map fun e => ⟨e.1, e.2.windowId, e.2.anchor, e.2.head, e.2.version⟩)

def flushFrame (st : DocState) : ServerFrame :=
  .flush st.sessionState.isDirty (st.flushedMtimeNs.map decimal) st.flushedSize none

def conflictFrame (active : Bool) (diskMtimeNs : Option Int) : ServerFrame :=
  .conflict active (diskMtimeNs.map decimal)

def AttachSink.send (s : AttachSink) (frame : ServerFrame) : AttachSink :=
  { s with outbox := s.outbox ++ [frame] }

namespace DocState

def deliver (st : DocState) (sel : Nat → Bool) (frame : ServerFrame) : DocState :=
  { st with attaches :=
      mapWithKey (fun id sink => if sel id then sink.send frame else sink) st.attaches }

def fan (st : DocState) (frame : ServerFrame) : DocState := st.deliver (fun _ => true) frame

def fanExcept (st : DocState) (skip : Nat) (frame : ServerFrame) : DocState :=
  st.deliver (fun id => id != skip) frame

def sendTo (st : DocState) (id : Nat) (frame : ServerFrame) : DocState :=
  st.deliver (fun k => k == id) frame

def markDirty (st : DocState) (now : Instant) : DocState :=
  { st with sessionState := st.sessionState.markDirty st.version now }

def evictLog : List LoggedUpdate → Nat → Nat → List LoggedUpdate × Nat × Nat
  | [], base, size => ([], base, size)
  | e :: log, base, size =>
    if docLogMaxUpdates < (e :: log).length ∨ docLogMaxBytes < size then
      evictLog log (base + 1) (size - e.cost)
    else (e :: log, base, size)

def appendLog (st : DocState) (entry : LoggedUpdate) : DocState :=
  let (log, base, size) := evictLog (st.log ++ [entry]) st.logBase (st.logBytes + entry.cost)
  { st with version := st.version + 1, log, logBase := base, logBytes := size }

def noteAdopted (st : DocState) (hash : UInt64) (now : Instant) : DocState :=
  { st with diskEcho := st.diskEcho.noteAdopted hash now }

def adoptToken (st : DocState) (stat : FileStat) : DocState :=
  { st with
    flushedMtimeNs := stat.mtimeNs
    flushedSize := stat.mtimeNs.map fun _ => stat.size }

def setState (st : DocState) (s : SessionState) : DocState := { st with sessionState := s }

end DocState

end Chan
