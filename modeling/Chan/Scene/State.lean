import Chan.Collab.Session
import Chan.Scene.Model

namespace Chan
open Utf AssocMap

structure SceneCursorPos where
  windowId : Text
  x : Number
  y : Number
  tool : Option Text
  selected : Option (List Text)
  deriving DecidableEq

structure PeerSceneCursor where
  id : Nat
  w : Text
  x : Number
  y : Number
  tool : Option Text
  selected : Option (List Text)
  deriving DecidableEq

inductive SceneFrame
  | snapshot (path : Text) (version : Nat) (elements : List Value) (appState files : Value)
      (dirty conflicted : Bool) (mtimeNs : Option Text) (size : Option Nat)
      (cursors : List PeerSceneCursor)
  | update (version : Nat) (elements : List Value) (appState files : Option Value)
  | pushOk (version : Nat) (changed : Bool)
  | cursor (cursor : PeerSceneCursor)
  | cursorGone (id : Nat)
  | flush (dirty : Bool) (mtimeNs : Option Text) (size : Option Nat) (error : Option Text)
  | removed
  | closed (reason : Text)
  deriving DecidableEq

structure SceneSink where
  /-- Every frame enqueued since the attach, oldest first. -/
  outbox : List SceneFrame
  windowId : Text
  deriving DecidableEq

structure SceneState where
  scene : Scene
  writeBudget : Nat
  version : Nat
  attaches : Map Nat SceneSink
  cursors : Map Nat SceneCursorPos
  sessionState : SessionState
  baseline : DurableBaseline
  flushNow : Bool
  recoveryPending : Bool
  flushedMtimeNs : Option Int
  flushedSize : Option Nat
  flushEpochVersion : Nat
  flushFailures : Nat
  diskEcho : DiskEchoRing

def SceneCursorPos.peer (c : SceneCursorPos) (id : Nat) : PeerSceneCursor :=
  ⟨id, c.windowId, c.x, c.y, c.tool, c.selected⟩

def updateFrame (version : Nat) (applied : SceneApplied) : SceneFrame :=
  .update version applied.elements applied.appState
    (if applied.files.isEmpty then none else some (.object applied.files))

def sceneSnapshotFrame (path : Text) (st : SceneState) : SceneFrame :=
  .snapshot path st.version st.scene.elementsSnapshot (.object st.scene.appState)
    (.object st.scene.files) st.sessionState.isDirty st.sessionState.isConflicted
    (st.flushedMtimeNs.map decimal) st.flushedSize
    (st.cursors.entries.map fun e => e.2.peer e.1)

def sceneFlushFrame (st : SceneState) : SceneFrame :=
  .flush st.sessionState.isDirty (st.flushedMtimeNs.map decimal) st.flushedSize none

namespace SceneState

def deliver (st : SceneState) (sel : Nat → Bool) (frame : SceneFrame) : SceneState :=
  { st with attaches :=
      mapWithKey (fun id sink =>
        if sel id then { sink with outbox := sink.outbox ++ [frame] } else sink) st.attaches }

def fan (st : SceneState) (frame : SceneFrame) : SceneState := st.deliver (fun _ => true) frame

def fanExcept (st : SceneState) (skip : Nat) (frame : SceneFrame) : SceneState :=
  st.deliver (fun id => id != skip) frame

def sendTo (st : SceneState) (id : Nat) (frame : SceneFrame) : SceneState :=
  st.deliver (fun k => k == id) frame

def markDirty (st : SceneState) (now : Instant) : SceneState :=
  { st with sessionState := st.sessionState.markDirty st.version now }

def noteAdopted (st : SceneState) (hash : UInt64) (now : Instant) : SceneState :=
  { st with diskEcho := st.diskEcho.noteAdopted hash now }

def adoptToken (st : SceneState) (stat : FileStat) : SceneState :=
  { st with
    flushedMtimeNs := stat.mtimeNs
    flushedSize := stat.mtimeNs.map fun _ => stat.size }

def setState (st : SceneState) (s : SessionState) : SceneState := { st with sessionState := s }

end SceneState

end Chan
