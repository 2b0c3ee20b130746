import Chan.Lib.AssocMap
import Chan.Lib.Transition

namespace Chan.Bulk
open AssocMap

inductive JobState where
  | running
  | cancelled
  | stalled
  | clientCancelled
  | finalizing
  deriving DecidableEq

def JobState.isCancelled : JobState → Bool
  | .cancelled | .stalled | .clientCancelled => true
  | .running | .finalizing => false

inductive BulkOutcome (α : Type) where
  | done (value : α)
  | cancelled
  | clientCancelled
  | stalled
  deriving DecidableEq

inductive ClientCancelResult where
  | requested
  | notFound
  | notCancellable
  deriving DecidableEq

inductive Place where
  | queued
  | active
  | away
  deriving DecidableEq

/-- The worker of the job. A closure that panicked leaves no value. -/
inductive Worker (α : Type) where
  | waiting
  | running
  | returned (value : Option α)
  | released (value : Option α)
  | delivered (value : Option α)
  deriving DecidableEq

inductive Call where
  /-- `begin_finalization` lost its claim and reads the state. -/
  | rereading
  /-- `begin_finalization` asks whether the job was cancelled. -/
  | checking
  /-- A cancel ended the job and reads what it ended for. -/
  | reading (client removed : Bool)
  /-- A cancel delivers the abort of the job it took from the queue. -/
  | aborting (client : Bool) (result : ClientCancelResult)
  /-- A client's cancel reads the state for its answer. -/
  | answering (result : ClientCancelResult)
  /-- A withdrawal ends the job it took from the queue. -/
  | withdrawing
  deriving DecidableEq

inductive Note (α : Type) where
  | recorded (reason : JobState)
  | finalization (ok : Bool)
  | answered (result : ClientCancelResult)
  | returned (value : α)
  | delivered (outcome : BulkOutcome α)
  deriving DecidableEq

structure Job (α : Type) where
  state : JobState := .running
  place : Place := .queued
  worker : Worker α := .waiting
  shutdown : Bool := false
  held : Bool := true
  calls : Map Nat Call := ∅
  /-- What the receiver of the handle has. -/
  outcome : Option (BulkOutcome α) := none
  log : List (Note α) := []

namespace Job

variable {α : Type}

def note (j : Job α) (n : Note α) : Job α := { j with log := j.log ++ [n] }

def endJob (j : Job α) (reason : JobState) : Job α :=
  if j.state = .running then { j with state := reason }.note (.recorded reason) else j

def setCall (j : Job α) (t : Nat) (c : Call) : Job α := { j with calls := j.calls.insert t c }

def endCall (j : Job α) (t : Nat) : Job α := { j with calls := j.calls.erase t }

def settle (j : Job α) (o : BulkOutcome α) : Job α := { j with outcome := j.outcome.or (some o) }

def completion (state : JobState) (value : Option α) : BulkOutcome α :=
  match state with
  | .running | .finalizing => value.elim .cancelled .done
  | .clientCancelled => .clientCancelled
  | .stalled => .stalled
  | .cancelled => .cancelled

inductive Event (α : Type) where
  | pick
  | returns (value : α)
  | panics
  | release
  | deliver
  | finalize (thread : Nat)
  | reread (thread : Nat)
  | checkCancelled (thread : Nat)
  | stall
  | cancel (thread : Nat)
  | clientCancel (thread : Nat)
  | dropHandle (thread : Nat)
  | read (thread : Nat)
  | abort (thread : Nat)
  | answer (thread : Nat)
  | withdrawQueued (thread : Nat)
  | withdrawn (thread : Nat)
  | shutdown
  deriving DecidableEq

def cancelLocked (j : Job α) (t : Nat) (client : Bool) : Job α :=
  let reason := if client then .clientCancelled else .cancelled
  match j.place with
  | .queued => ({ j with place := .away }.endJob reason).setCall t (.reading client true)
  | .active => (j.endJob reason).setCall t (.reading client false)
  | .away => if client then j.setCall t (.answering .notFound) else j

def found (state : JobState) : ClientCancelResult :=
  match state with
  | .clientCancelled => .requested
  | .finalizing => .notCancellable
  | _ => .notFound

def finalAnswer (state : JobState) (result : ClientCancelResult) : ClientCancelResult :=
  match state with
  | .finalizing => .notCancellable
  | .clientCancelled => .requested
  | _ => result

def finishRead (j : Job α) (t : Nat) (client : Bool) (result : ClientCancelResult) : Job α :=
  if client then j.setCall t (.answering result) else j.endCall t

def signalled (j : Job α) : Bool := match j.worker with
  | .waiting => false
  | _ => true

def step (j : Job α) : Event α → Option (Job α)
  | .pick =>
    if j.place = .queued ∧ j.shutdown = false then
      some { j with place := .active, worker := .running }
    else none
  | .returns v =>
    match j.worker with
    | .running => some ({ j with worker := .returned (some v) }.note (.returned v))
    | _ => none
  | .panics =>
    match j.worker with
    | .running => some { j with worker := .returned none }
    | _ => none
  | .release =>
    match j.worker with
    | .returned v => some { j with place := .away, worker := .released v }
    | _ => none
  | .deliver =>
    match j.worker with
    | .released (some v) =>
      let o := completion j.state (some v)
      some ({ j.settle o with worker := .delivered (some v) }.note (.delivered o))
    | .released none => some { j.settle .cancelled with worker := .delivered none }
    | _ => none
  | .finalize t =>
    if j.signalled ∧ j.calls.lookup t = none then
      if j.state = .running then
        some ({ j with state := .finalizing }.note (.finalization true))
      else some (j.setCall t .rereading)
    else none
  | .reread t =>
    match j.calls.lookup t with
    | some .rereading =>
      if j.state = .finalizing then some ((j.endCall t).note (.finalization true))
      else some (j.setCall t .checking)
    | _ => none
  | .checkCancelled t =>
    match j.calls.lookup t with
    | some .checking => some ((j.endCall t).note (.finalization !j.state.isCancelled))
    | _ => none
  | .stall => if j.signalled then some (j.endJob .stalled) else none
  | .cancel t =>
    if j.held ∧ j.calls.lookup t = none then some (j.cancelLocked t false) else none
  | .clientCancel t => if j.calls.lookup t = none then some (j.cancelLocked t true) else none
  | .dropHandle t =>
    if j.held ∧ j.calls.lookup t = none then some ({ j with held := false }.cancelLocked t false)
    else none
  | .read t =>
    match j.calls.lookup t with
    | some (.reading client removed) =>
      if removed then some (j.setCall t (.aborting client (found j.state)))
      else some (j.finishRead t client (found j.state))
    | _ => none
  | .abort t =>
    match j.calls.lookup t with
    | some (.aborting client result) =>
      some ((j.settle (completion j.state none)).finishRead t client result)
    | _ => none
  | .answer t =>
    match j.calls.lookup t with
    | some (.answering result) =>
      some ((j.endCall t).note (.answered (finalAnswer j.state result)))
    | _ => none
  | .withdrawQueued t =>
    if j.held ∧ j.calls.lookup t = none ∧ j.place = .queued then
      some ({ j with place := .away }.setCall t .withdrawing)
    else none
  | .withdrawn t =>
    match j.calls.lookup t with
    | some .withdrawing => some (((j.endJob .cancelled).settle .cancelled).endCall t)
    | _ => none
  | .shutdown =>
    match j.place with
    | .queued => some ({ j with shutdown := true, place := .away }.settle .cancelled)
    | .active => some ({ j with shutdown := true }.endJob .cancelled)
    | .away => some { j with shutdown := true }

end Job
end Chan.Bulk
