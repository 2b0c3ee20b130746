import Chan.Lib.Transition
import Chan.Collab.Ledger
import Chan.Scene.Recovery

namespace Chan
open Utf AssocMap Transition SessionState

variable {st st' : SceneState}

namespace SceneState

def ledger (st : SceneState) : Ledger := ⟨st.version, st.sessionState, st.baseline⟩

lemma version_le_installScene (applied : SceneApplied) (scene : Scene) (st : SceneState) :
    st.version ≤ (st.installScene applied scene).version := by
  simp only [installScene]
  split
  · exact Nat.le_refl _
  · exact Nat.le_succ _

lemma extends_push
    (h : st.push k elements a f closed now = .ok st') : st.ledger.Extends st'.ledger := by
  simp only [push] at h
  split at h
  · cases h
  · split at h
    · cases h
    · cases h
      split
      · exact .inl rfl
      · exact .inr ⟨st.version + 1, now, Nat.le_succ _, rfl⟩

lemma extends_applyReplaceLocked (h : st.applyReplaceLocked fromStr body nonces now = .ok st') :
    st.ledger.Extends st'.ledger := by
  simp only [applyReplaceLocked] at h
  split at h
  · cases h
  · cases h
    split
    · rename_i hempty
      apply Or.inl
      simp only [installScene, hempty, if_true]
      rfl
    · rename_i hsome
      refine .inr ⟨st.version + 1, now, Nat.le_succ _, ?_⟩
      simp only [installScene, hsome]
      rfl

lemma extends_applyHttpReplace
    (h : st.applyHttpReplace fromStr body pre nonces now = .ok (r, st')) :
    st.ledger.Extends st'.ledger := by
  simp only [applyHttpReplace] at h
  split at h
  · cases h
    exact .inl rfl
  · split at h
    · cases h
    · split at h
      · cases h
        exact .inl rfl
      · cases h
        exact .inl rfl
      · cases hr : st.applyReplaceLocked fromStr body nonces now with
        | error e =>
          rw [hr] at h
          cases h
        | ok st₁ =>
          rw [hr] at h
          cases h
          exact extends_applyReplaceLocked hr

lemma move_enterConflict
    (st : SceneState) : st.ledger.Move (st.enterConflictLocked dv m dc fresh).ledger :=
  .conflict rfl rfl

lemma move_markRemoved : st.ledger.Move (st.markRemoved fresh).ledger := by
  rw [markRemoved]
  split
  · exact st.move_enterConflict
  · exact .settle rfl

lemma move_overwriteConflict (h : st.overwriteConflict now = some st') :
    st.sessionState.isConflicted = true ∧ st.ledger.Move st'.ledger := by
  cases hs : st.sessionState with
  | conflicted c =>
    simp only [overwriteConflict, hs] at h
    cases h
    exact ⟨rfl, .settle rfl⟩
  | _ =>
    simp only [overwriteConflict, hs] at h
    cases h

lemma move_finishFlush (he : epoch ≤ st.version) (hc : st.sessionState.conflictCore = none) :
    st.ledger.Move (st.finishFlush epoch stat content now).ledger := by
  simp only [finishFlush]
  split
  · exact .commit he ((conflictCore_clearAfterFlush _).trans hc)
  · exact .commit he hc

lemma move_noteFlushFailure : st.ledger.Move (st.noteFlushFailure m).ledger := by
  simp only [noteFlushFailure]
  split <;> exact .still (.refl _)

lemma move_applyMergeOutcome (st : SceneState) : st.ledger.Move
      (st.applyMergeOutcomeLocked fromStr diskText stat outcome nonces now fresh).ledger := by
  cases outcome with
  | conflict => exact st.move_enterConflict
  | merged mergedText =>
    simp only [applyMergeOutcomeLocked]
    split
    · exact .still (.refl _)
    · split
      · exact .still (.refl _)
      · rename_i applied scene _
        apply Ledger.Move.root
          (((st.noteAdopted (contentHash diskText) now).adoptToken stat).version_le_installScene
            applied scene)
        split <;> rfl

lemma move_mergeDisk :
    st.ledger.Move (st.mergeDisk fromStr diskText stat nonces now fresh).ledger := by
  simp only [mergeDisk]
  split
  · exact st.move_applyMergeOutcome
  · split
    · exact st.move_applyMergeOutcome
    · split
      · exact .still (.refl _)
      · rename_i applied scene _
        exact .root ((st.noteAdopted (contentHash diskText) now).version_le_installScene
          applied scene) rfl

lemma move_reloadConflict (h : st.reloadConflict fromStr path nonces now = some st') :
    st.sessionState.isConflicted = true ∧ st.ledger.Move st'.ledger := by
  cases hs : st.sessionState with
  | conflicted c =>
    apply And.intro rfl
    simp only [reloadConflict, hs] at h
    split at h
    · cases h
      exact .settle rfl
    · split at h
      · cases h
      · split at h
        · cases h
        · split at h
          · cases h
          · rename_i applied scene _
            cases h
            split <;> exact .root (st.version_le_installScene applied scene) rfl
  | _ =>
    simp only [reloadConflict, hs] at h
    cases h

lemma move_observe (hl : L = st.ledger) : L.Move (st.observe h m now).ledger := by
  subst hl
  simp only [observe]
  split
  · exact .still (.refl _)
  · exact .still (alike_observeContent _)

lemma move_statFailed («exists» : Bool) (st : SceneState) :
    st.ledger.Move (st.statFailed «exists» now).1.ledger ∧
      ((st.statFailed «exists» now).2 = .idle ∨ (st.statFailed «exists» now).2 = .remove) := by
  simp only [statFailed]
  split
  · apply And.intro _ (.inl rfl)
    split
    · exact .still (alike_clearObservation _)
    · exact .still (.refl _)
  · split
    · split
      · exact ⟨.still (.refl _), .inr rfl⟩
      · exact ⟨.still (.refl _), .inl rfl⟩
    · exact ⟨.still (alike_observeRemoval _), .inl rfl⟩

lemma move_statOk (st : SceneState) :
    st.ledger.Move (st.statOk stat).1.ledger ∧
      ((st.statOk stat).2 = .idle ∨ (st.statOk stat).2 = .read stat) := by
  simp only [statOk]
  constructor
  · split
    · exact .still (alike_clearObservation _)
    · exact .still (.refl _)
  · split
    · split
      · exact .inl rfl
      · exact .inr rfl
    · split
      · exact .inl rfl
      · exact .inr rfl

lemma move_readOk (st : SceneState) :
    st.ledger.Move (st.readOk fromStr stat diskText diskStat now).1.ledger ∧
      ((st.readOk fromStr stat diskText diskStat now).2 = .idle ∨
        (st.readOk fromStr stat diskText diskStat now).2 = .merge diskText diskStat) := by
  have hkeep : st.ledger.Move st.ledger := .still (.refl _)
  simp only [readOk]
  split
  · exact ⟨hkeep, .inl rfl⟩
  · split
    · apply And.intro _ (.inl rfl)
      split
      · exact .still (alike_clearObservation _)
      · exact move_observe rfl
    · split
      · exact ⟨hkeep, .inr rfl⟩
      · split
        · exact ⟨move_observe rfl, .inl rfl⟩
        · split
          · split
            · exact ⟨hkeep, .inr rfl⟩
            · exact ⟨move_observe rfl, .inl rfl⟩
          · exact ⟨hkeep, .inr rfl⟩

end SceneState

structure SceneCoherent (s : SceneSession) : Prop where
  ledger : s.state.ledger.Sound
  /-- While a flush is in flight the session is not in conflict. -/
  flushing : ∀ job, s.io = .flush job →
    s.state.sessionState.conflictCore = none ∧ job.epoch ≤ s.state.version

namespace SceneCoherent

lemma moved (h : SceneCoherent s)
    (hm : s.state.ledger.Move r.1.ledger) (hp : r.2 = ph) (hio : ∀ job, ph ≠ .flush job) :
    SceneCoherent (s.withIo r) :=
  ⟨h.ledger.move hm, fun job hjob => absurd (hp.symm.trans hjob) (hio job)⟩

lemma movedIdle (h : SceneCoherent s) (hidle : s.io = .idle)
    (hm : s.state.ledger.Move st.ledger) : SceneCoherent (s.withState st) := by
  refine ⟨h.ledger.move hm, ?_⟩
  intro job hjob
  cases hidle.symm.trans hjob

lemma extended (h : SceneCoherent s) (he : s.state.ledger.Extends s'.state.ledger)
    (hio : s'.io = s.io) : SceneCoherent s' := by
  refine ⟨h.ledger.move he.move, ?_⟩
  intro job hjob
  obtain ⟨hc, hle⟩ := h.flushing job (hio ▸ hjob)
  exact ⟨he.unconflicted hc, Nat.le_trans hle he.move.version_le⟩

lemma resolved (h : SceneCoherent s) (hm : s.state.sessionState.isConflicted = true ∧
    s.state.ledger.Move st.ledger) : SceneCoherent (s.withState st) := by
  refine ⟨h.ledger.move hm.2, ?_⟩
  intro job hjob
  exact absurd (h.flushing job hjob).1 (conflictCore_isSome hm.1)

lemma ioStep (h : SceneCoherent s)
    (hs : s.ioStep fromStr l = some s') : SceneCoherent s' := by
  have hkeep : s.state.ledger.Move s.state.ledger := .still (.refl _)
  simp only [SceneSession.ioStep] at hs
  split at hs
  all_goals rename_i hop hio
  · simp only [SceneState.beginFlush] at hs
    cases hd : s.state.sessionState.dirtySince with
    | none =>
      simp only [hd] at hs
      cases hs
      exact h.movedIdle hio hkeep
    | some since =>
      simp only [hd] at hs
      cases hs
      refine ⟨h.ledger, ?_⟩
      intro job hjob
      cases hjob
      have hsome : s.state.sessionState.dirtySince.isSome = true := by rw [hd]; rfl
      exact ⟨(of_dirtySince hsome).2, Nat.le_refl _⟩
  · cases hs
    obtain ⟨hc, hle⟩ := h.flushing _ hio
    exact h.moved (SceneState.move_finishFlush hle hc) rfl nofun
  · cases hs
    exact h.moved (SceneState.move_noteFlushFailure) rfl nofun
  · cases hs
    split <;> exact h.moved hkeep rfl nofun
  · cases hs
    split <;> exact h.moved hkeep rfl nofun
  · rename_i present
    cases hs
    obtain ⟨hm, hp | hp⟩ := s.state.move_statFailed present
    · exact h.moved hm hp nofun
    · exact h.moved hm hp nofun
  · rename_i stat
    cases hs
    obtain ⟨hm, hp | hp⟩ := s.state.move_statOk
    · exact h.moved hm hp nofun
    · exact h.moved hm hp nofun
  · cases hs
    exact h.moved (SceneState.move_enterConflict _) rfl nofun
  · rename_i diskText diskStat stat
    cases hs
    obtain ⟨hm, hp | hp⟩ := s.state.move_readOk
    · exact h.moved hm hp nofun
    · exact h.moved hm hp nofun
  · cases hs
    exact h.moved hkeep rfl nofun
  · cases hs
    exact h.moved hkeep rfl nofun
  · cases hs
    exact h.moved (SceneState.move_mergeDisk) rfl nofun
  · cases hs
    exact h.moved (SceneState.move_markRemoved) rfl nofun
  · cases hs
    exact h.movedIdle hio (SceneState.move_mergeDisk)
  · cases hs
    exact h.movedIdle hio (SceneState.move_markRemoved)
  · cases hs
    exact h.movedIdle hio hkeep
  · cases hs

lemma step (h : SceneCoherent s) (hs : s.step fromStr l = some s') :
    SceneCoherent s' := by
  simp only [SceneSession.step] at hs
  split at hs
  · split at hs
    · cases hs
    · cases hs
      exact h.extended (.inl rfl) rfl
  · split at hs
    · cases hs
      refine h.extended (.inl ?_) rfl
      simp only [SceneState.dropAttach]
      split <;> split <;> rfl
    · cases hs
  · split at hs
    · split at hs
      · rename_i hp
        cases hs
        exact h.extended (SceneState.extends_push hp) rfl
      · cases hs
        exact h
    · cases hs
  · split at hs
    · cases hs
      refine h.extended (.inl ?_) rfl
      simp only [SceneSession.withState, SceneState.cursor]
      split <;> rfl
    · cases hs
  · split at hs
    · rename_i hp
      cases hs
      exact h.extended (SceneState.extends_applyHttpReplace hp) rfl
    · cases hs
      exact h
  · cases hs
    cases hr : s.state.reloadConflict fromStr s.path l.nonces l.now with
    | none => exact h
    | some st => exact h.resolved (SceneState.move_reloadConflict hr)
  · cases hs
    cases hr : s.state.overwriteConflict l.now with
    | none => exact h
    | some st => exact h.resolved (SceneState.move_overwriteConflict hr)
  · cases hs
    exact h.extended (.inl rfl) rfl
  · exact h.ioStep hs

end SceneCoherent

lemma SceneState.baselineOf_sound (scene : Scene) (raw : Text) (m : Option Int) (v : Nat)
    (hc : SessionState.conflictCore ss = none) :
    Ledger.Sound ⟨v, ss, SceneState.baselineOf scene raw m v⟩ := by
  refine .unconflicted ?_ (Nat.le_refl v) hc
  rw [SceneState.baselineOf]

lemma sceneCoherent_new : SceneCoherent (SceneSession.new path text scene stat now) := by
  refine ⟨SceneState.baselineOf_sound scene text stat.mtimeNs 0 rfl, ?_⟩
  intro job hjob
  cases hjob

namespace SceneSession

lemma resumeState_cases (fromStr : Text → Option Value) (disk : Option (Text × FileStat))
    (now : Instant) (authority baseline : Scene) (c : SessionConflict) :
    (∃ scene, (diskScene fromStr disk).2 = some scene ∧
      resumeState fromStr disk now authority baseline c = .clean) ∨
    resumeState fromStr disk now authority baseline c = .dirty now ∨
    resumeState fromStr disk now authority baseline c = .conflicted c := by
  rw [resumeState]
  split
  · rename_i scene hd
    split
    · exact .inl ⟨scene, hd, rfl⟩
    · split
      · exact .inr (.inl rfl)
      · exact .inr (.inr rfl)
  · exact .inr (.inr rfl)

lemma coherent_restored (hv : r.baseline.authorityVersion ≤ r.authority.version)
    (hb : c.baselineVersion = contentHash r.baseline.content)
    (ha : c.authorityVersion = r.authority.version) :
    SceneCoherent (restored fromStr p disk u r now authority
      (resumeState fromStr disk now authority baseline c)) := by
  refine ⟨?_, ?_⟩
  · rcases resumeState_cases fromStr disk now authority baseline c with
      ⟨scene, hd, hs⟩ | hs | hs
    · rw [hs]
      simp only [restored, SceneState.ledger, hd]
      exact SceneState.baselineOf_sound _ _ _ _ rfl
    · rw [hs]
      exact .unconflicted rfl hv rfl
    · rw [hs]
      refine ⟨rfl, hv, ?_⟩
      intro b v hcore
      cases hcore
      exact ⟨hb, ha⟩
  · intro job hjob
    cases hjob

lemma coherent_fromRecovery
    (h : fromRecovery fromStr p disk u r now fresh = .ok s) : SceneCoherent s := by
  simp only [fromRecovery] at h
  split at h
  · cases h
  · cases h
  · rename_i authority baseline _ _
    split at h
    · cases h
    · rename_i hhash
      split at h
      · cases h
      · rename_i hver
        have hver' := Nat.le_of_not_lt hver
        split at h
        · cases h
        · split at h
          · cases h
            exact sceneCoherent_new
          · cases h
          · cases h
            exact coherent_restored hver' rfl rfl
          · split at h
            · cases h
            · cases h
              exact coherent_restored hver' rfl rfl
          · cases h
            exact sceneCoherent_new
          · cases h

end SceneSession

inductive SceneCreated (fromStr : Text → Option Value) : SceneSession → Prop
  | new (h : Scene.parse fromStr text = .ok scene) :
      SceneCreated fromStr (SceneSession.new path text scene stat now)
  | recovered (h : SceneSession.fromRecovery fromStr path disk u r now fresh = .ok s) :
      SceneCreated fromStr s

lemma SceneCreated.coherent (h : SceneCreated fromStr s) : SceneCoherent s := by
  cases h with
  | new => exact sceneCoherent_new
  | recovered h => exact SceneSession.coherent_fromRecovery h

lemma SceneSession.ioStep_path {s s' : SceneSession} (h : s.ioStep fromStr l = some s') :
    s'.path = s.path := by
  simp only [SceneSession.ioStep] at h
  grind [SceneSession.withState, SceneSession.withIo]

lemma SceneSession.step_path {s s' : SceneSession} (h : s.step fromStr l = some s') :
    s'.path = s.path := by
  simp only [SceneSession.step] at h
  grind [SceneSession.withState, SceneSession.ioStep_path]

end Chan
