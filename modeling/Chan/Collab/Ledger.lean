import Chan.Collab.Session

namespace Chan
open Utf SessionState

def SessionState.conflictCore : SessionState → Option (UInt64 × Nat)
  | .conflicted c => some (c.baselineVersion, c.authorityVersion)
  | _ => none

def SessionState.Alike (a b : SessionState) : Prop :=
  b.isDirty = a.isDirty ∧ b.conflictCore = a.conflictCore

section
variable (a : SessionState)

lemma SessionState.Alike.refl : a.Alike a := ⟨rfl, rfl⟩

lemma SessionState.alike_clearObservation : a.Alike a.clearObservation := by
  cases a with
  | observing since o => cases since <;> exact ⟨rfl, rfl⟩
  | _ => exact ⟨rfl, rfl⟩

lemma SessionState.alike_clearConflictObservation : a.Alike a.clearConflictObservation := by
  cases a <;> exact ⟨rfl, rfl⟩

lemma SessionState.alike_observeConflictContent : a.Alike (a.observeConflictContent h m now) := by
  cases a <;> exact ⟨rfl, rfl⟩

lemma SessionState.alike_observeContent : a.Alike (a.observeContent h m now) := by
  cases a <;> exact ⟨rfl, rfl⟩

lemma SessionState.alike_observeRemoval : a.Alike (a.observeRemoval now) := by
  cases a <;> exact ⟨rfl, rfl⟩

end

lemma SessionState.Alike.trans (h : SessionState.Alike a b) (h' : SessionState.Alike b c) :
    SessionState.Alike a c :=
  ⟨h'.1.trans h.1, h'.2.trans h.2⟩

lemma SessionState.isDirty_markDirty (a : SessionState) (v : Nat) (now : Instant) :
    (a.markDirty v now).isDirty = true := by
  cases a <;> rfl

lemma SessionState.conflictCore_isSome (h : SessionState.isConflicted a = true) :
    a.conflictCore ≠ none := by
  cases a with
  | conflicted c => exact fun h => by cases h
  | _ => cases h

lemma SessionState.conflictCore_markDirty (a : SessionState) (v : Nat) (now : Instant)
    (h : (a.markDirty v now).conflictCore = some (b, w)) :
    w = v ∧ ∃ w', a.conflictCore = some (b, w') := by
  cases a with
  | conflicted c =>
    obtain ⟨rfl, rfl⟩ := h
    exact ⟨rfl, _, rfl⟩
  | _ => cases h

lemma SessionState.conflictCore_markDirty_none
    (h : SessionState.conflictCore a = none) : (a.markDirty v now).conflictCore = none := by
  cases a with
  | conflicted c => cases h
  | _ => rfl

lemma SessionState.conflictCore_clearAfterFlush (a : SessionState) :
    a.clearAfterFlush.conflictCore = a.conflictCore := by
  cases a <;> rfl

lemma SessionState.of_dirtySince (h : (SessionState.dirtySince a).isSome = true) :
    a.isDirty = true ∧ a.conflictCore = none := by
  rw [SessionState.isDirty, h]
  cases a with
  | conflicted c => cases h
  | _ => exact ⟨rfl, rfl⟩

/-- What a session keeps of its own history: the version, the lifecycle and the durable
baseline. -/
structure Ledger where
  version : Nat
  sessionState : SessionState
  baseline : DurableBaseline

def rootedBaseline (t : Text) (m : Option Int) (v : Nat) (verbatim : Bool) :
    DurableBaseline := ⟨t, contentHash t, m, v, verbatim⟩

namespace Ledger

inductive Move : Ledger → Ledger → Prop
  | still (ha : L.sessionState.Alike ss) : Move L { L with sessionState := ss }
  | write (hle : L.version ≤ v) : Move L ⟨v, L.sessionState.markDirty v now, L.baseline⟩
  | root (hle : L.version ≤ v) (hc : ss.conflictCore = none) :
      Move L ⟨v, ss, rootedBaseline t m v b⟩
  | conflict (hb : c.baselineVersion = L.baseline.contentHash)
      (ha : c.authorityVersion = L.version) : Move L { L with sessionState := .conflicted c }
  | settle (hc : ss.conflictCore = none) :
      Move L ⟨L.version, ss, { L.baseline with verbatim := b }⟩
  | commit (he : e ≤ L.version) (hc : ss.conflictCore = none) :
      Move L ⟨L.version, ss, rootedBaseline t m e b⟩

/-- The baseline's hash is that of its content, it is not ahead of the authority, and a conflict
names both as they are. -/
structure Sound (L : Ledger) : Prop where
  hash : L.baseline.contentHash = contentHash L.baseline.content
  ahead : L.baseline.authorityVersion ≤ L.version
  conflict : ∀ b v, L.sessionState.conflictCore = some (b, v) →
    b = L.baseline.contentHash ∧ v = L.version

lemma Move.version_le (h : Move L L') : L.version ≤ L'.version := by
  cases h with
  | write hle => exact hle
  | root hle => exact hle
  | _ => exact Nat.le_refl _

lemma Sound.unconflicted (hh : L.baseline.contentHash = contentHash L.baseline.content)
    (ha : L.baseline.authorityVersion ≤ L.version)
    (hc : SessionState.conflictCore L.sessionState = none) : Sound L := by
  refine ⟨hh, ha, ?_⟩
  intro b v hcore
  rw [hc] at hcore
  cases hcore

lemma Sound.move (h : Sound L) (hm : Move L L') : Sound L' := by
  cases hm with
  | still ha => exact ⟨h.hash, h.ahead, fun b v hcore => h.conflict b v (ha.2 ▸ hcore)⟩
  | write hle =>
    refine ⟨h.hash, Nat.le_trans h.ahead hle, ?_⟩
    intro b v hcore
    obtain ⟨hv, w, hw⟩ := conflictCore_markDirty _ _ _ hcore
    exact ⟨(h.conflict b w hw).1, hv⟩
  | root hle hc => exact .unconflicted rfl (Nat.le_refl _) hc
  | conflict hb ha =>
    refine ⟨h.hash, h.ahead, ?_⟩
    intro b v hcore
    cases hcore
    exact ⟨hb, ha⟩
  | settle hc => exact .unconflicted h.hash h.ahead hc
  | commit he hc => exact .unconflicted rfl he hc

def Extends (L L' : Ledger) : Prop :=
  L' = L ∨ ∃ v now, L.version ≤ v ∧ L' = ⟨v, L.sessionState.markDirty v now, L.baseline⟩

lemma Extends.move (h : Extends L L') : Move L L' := by
  rcases h with rfl | ⟨v, now, hle, rfl⟩
  · exact .still (.refl _)
  · exact .write hle

lemma Extends.unconflicted (h : Extends L L') (hc : L.sessionState.conflictCore = none) :
    L'.sessionState.conflictCore = none := by
  rcases h with rfl | ⟨v, now, -, rfl⟩
  · exact hc
  · exact conflictCore_markDirty_none hc

end Ledger

end Chan
