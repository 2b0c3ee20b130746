import Chan.Doc.Effects

namespace Chan
open Utf AssocMap SessionState

/-- When the absence that a state has pending was observed: by a removal observation, or by the
removal marker in the pending slot of a conflict. -/
def SessionState.absenceSeen : SessionState → Option Instant
  | .observing _ (.removal seen) => some seen
  | .conflicted c =>
    match c.pending with
    | some o =>
      if o.hash = contentHash removedDiskMarker ∧ o.mtimeNs = none then some o.seen else none
    | none => none
  | _ => none

/-- A lifecycle change that observes no new absence. -/
structure SessionState.Fades (a b : SessionState) : Prop where
  absence : b.absenceSeen = none ∨ b.absenceSeen = a.absenceSeen
  removal : b.removalObservation = none ∨ b.removalObservation = a.removalObservation

namespace SessionState

lemma Fades.refl (a : SessionState) : a.Fades a := ⟨.inr rfl, .inr rfl⟩

lemma removalObservation_of_absenceSeen (h : absenceSeen a = none) :
    a.removalObservation = none := by
  cases a with
  | observing since o =>
    cases o with
    | content => rfl
    | removal => cases h
  | _ => rfl

section
variable (a : SessionState)

lemma Fades.of_none (h : absenceSeen b = none) : a.Fades b :=
  ⟨.inl h, .inl (removalObservation_of_absenceSeen h)⟩

lemma fades_markDirty (v : Nat) (now : Instant) :
    a.Fades (a.markDirty v now) := by
  cases a with
  | observing since o => cases o <;> exact ⟨.inr rfl, .inr rfl⟩
  | _ => exact ⟨.inr rfl, .inr rfl⟩

lemma fades_clearAfterFlush : a.Fades a.clearAfterFlush := by
  cases a with
  | observing since o => cases o <;> exact ⟨.inr rfl, .inr rfl⟩
  | _ => exact ⟨.inr rfl, .inr rfl⟩

lemma clearObservation_not_observing : a.clearObservation.removalObservation = none := by
  cases a with
  | observing since o => cases since <;> rfl
  | _ => rfl

end

lemma absenceSeen_of_unconflicted (h : isConflicted a = false) :
    a.absenceSeen = a.removalObservation := by
  cases a with
  | observing since o => cases o <;> rfl
  | conflicted c => cases h
  | _ => rfl

lemma isConflicted_clearObservation (a : SessionState) :
    a.clearObservation.isConflicted = a.isConflicted := by
  cases a with
  | observing since o => cases since <;> rfl
  | _ => rfl

end SessionState

namespace DocState

lemma absence_enterConflict (dv : UInt64) (m : Option Int) (dc : Text) (fresh : Nat)
    (st : DocState) :
    (st.enterConflictLocked dv m dc fresh).sessionState.absenceSeen = none := by
  simp only [enterConflictLocked]
  split <;> rfl

lemma fades_mergeDisk (diffy : Text → Text → Text → Option Text) (raw : Text)
    (stat : FileStat) (v : Bool) (now : Instant) (fresh : Nat) (st : DocState) :
    st.sessionState.Fades (st.mergeDisk diffy raw stat v now fresh).sessionState := by
  have hcore : ∀ c : Core, (st.mergeDisk diffy raw stat v now fresh).core = c →
      (st.mergeDisk diffy raw stat v now fresh).sessionState = c.sessionState :=
    fun c h => congrArg Core.sessionState h
  rcases st.mergeDisk_cases diffy raw stat v now fresh with
    ⟨-, hc⟩ | ⟨-, -, m, -, hc⟩ | ⟨-, -, -, hc⟩
  · rw [hcore _ hc]
    exact .of_none _ rfl
  · rw [hcore _ hc]
    simp only [mergedOver]
    split <;> exact .of_none _ rfl
  · rw [hcore _ hc]
    exact .of_none _ (st.absence_enterConflict _ _ _ _)

lemma fades_markRemoved (fresh : Nat) (st : DocState) :
    st.sessionState.Fades (st.markRemoved fresh).sessionState := by
  rw [markRemoved]
  split
  · exact .of_none _ (st.absence_enterConflict _ _ _ _)
  · exact .of_none _ rfl

lemma fades_push {st st' : DocState} (h : st.push k base us closed now = .ok st') :
    st.sessionState.Fades st'.sessionState := by
  simp only [push] at h
  split at h
  · cases h
  · split at h
    · cases h
    · split at h
      · cases h
        exact .refl _
      · split at h
        · cases h
        · cases h
          exact .refl _
        · rename_i a _
          cases h
          have hss : (st.commit us a).sessionState = st.sessionState :=
            congrArg Core.sessionState (st.core_commit us a)
          have hf : st.sessionState.Fades
              ((st.commit us a).sessionState.markDirty (st.commit us a).version now) := by
            rw [hss]
            exact fades_markDirty _ _ _
          exact hf

lemma fades_applyHttpReplace {st st' : DocState}
    (h : st.applyHttpReplace client t pre now = .ok (r, st')) :
    st.sessionState.Fades st'.sessionState := by
  simp only [applyHttpReplace] at h
  split at h
  · cases h
    exact .refl _
  · split at h
    · cases h
      exact .refl _
    · cases h
      exact .refl _
    · split at h
      · cases h
      · cases h
        rw [applyReplaceLocked]
        split
        · exact .refl _
        · have hss : (st.replaceLocked client t).sessionState = st.sessionState :=
            congrArg Core.sessionState
              (st.core_commit [⟨client, replaceDiff st.text t⟩] ⟨t, utf16Len t⟩)
          have hf := (st.replaceLocked client t).sessionState.fades_markDirty
            (st.replaceLocked client t).version now
          exact hf

lemma fades_finishFlush (epoch : Nat) (stat : FileStat) (content : Text) (now : Instant)
    (st : DocState) :
    st.sessionState.Fades (st.finishFlush epoch stat content now).sessionState := by
  simp only [finishFlush]
  split
  · exact fades_clearAfterFlush _
  · exact .refl _

lemma fades_noteFlushFailure (m : Text) (st : DocState) :
    st.sessionState.Fades (st.noteFlushFailure m).sessionState := by
  simp only [noteFlushFailure]
  split <;> exact .refl _

lemma absence_reconcileConflicted (t : Text) (stat : FileStat) (hash : UInt64) (v : Bool)
    (now : Instant) (fresh : Nat) (st : DocState) (hc : st.sessionState.isConflicted = true)
    (hm : hash ≠ contentHash removedDiskMarker ∨ stat.mtimeNs ≠ none) :
    (st.reconcileConflictedLocked t stat hash v now fresh).sessionState.absenceSeen = none := by
  have hno : ¬(hash = contentHash removedDiskMarker ∧ stat.mtimeNs = none) := by
    rintro ⟨hh, hn⟩
    rcases hm with hm | hm
    · exact hm hh
    · exact hm hn
  cases hs : st.sessionState with
  | conflicted c =>
    simp only [reconcileConflictedLocked, hs]
    split
    · rfl
    · split
      · split
        · rfl
        · split
          · rfl
          · exact st.absence_enterConflict _ _ _ _
      · split
        · rename_i hsame
          -- The pending observation is of this very read, so it is not the removal marker.
          cases hp : c.pending with
          | none => simp only [hs, SessionState.absenceSeen, hp]
          | some o =>
            simp only [SessionState.conflictObservation, hp, Option.map_some,
              SessionState.sameObservation, Bool.and_eq_true, beq_iff_eq] at hsame
            simp only [hs, SessionState.absenceSeen, hp, hsame.1, hsame.2, if_neg hno]
        · simp [setState, SessionState.observeConflictContent, SessionState.absenceSeen, if_neg hno]
  | _ => rw [hs] at hc; cases hc

lemma readOk_phase (raw : Text) (stat : FileStat) (now : Instant) (fresh : Nat)
    (st : DocState) : (st.readOk raw stat now fresh).2 = .idle ∨
      ∃ v, (st.readOk raw stat now fresh).2 = .merge (normalizeLf raw) stat v := by
  grind [readOk]

lemma absence_readOk (raw : Text) (stat : FileStat) (now : Instant) (fresh : Nat)
    (st : DocState) (hc : st.sessionState.isConflicted = false)
    (hr : st.sessionState.removalObservation = none) :
    (st.readOk raw stat now fresh).1.sessionState.absenceSeen = none := by
  have hnone : st.sessionState.absenceSeen = none :=
    (absenceSeen_of_unconflicted hc).trans hr
  have hobs : ∀ (h : UInt64) (m : Option Int) (st' : DocState),
      st'.sessionState = st.sessionState →
      (st'.observe h m now).sessionState.absenceSeen = none := by
    intro h m st' hst
    rw [observe]
    split
    · rw [hst]
      exact hnone
    · simp [setState, SessionState.observeContent, hst, hc, SessionState.absenceSeen]
  simp only [readOk, hc, Bool.false_eq_true, if_false]
  split
  · split
    · simp only [setState, adoptToken]
      rw [absenceSeen_of_unconflicted
        ((isConflicted_clearObservation _).trans hc)]
      exact clearObservation_not_observing _
    · exact hobs _ _ _ rfl
  · split
    · exact hnone
    · split
      · exact hobs _ _ _ rfl
      · split
        · split
          · exact hnone
          · exact hobs _ _ _ rfl
        · exact hnone

end DocState

def IoPhase.isRead : IoPhase → Bool
  | .read _ => true
  | _ => false

/-- What is known of the absences: those pending were observed after the first one since the last
successful stat, except while the read after that stat is still out, and a removal that was
decided on had been observed long enough. -/
structure AbsenceInv (ss : SessionState) (io : IoPhase) (absent : Option Instant)
    (clock : Instant) : Prop where
  past : ∀ f, absent = some f → f ≤ clock
  seen : io.isRead = false → ∀ t, ss.absenceSeen = some t → ∃ f, absent = some f ∧ f ≤ t
  reading : io.isRead = true → ss.removalObservation = none
  removing : io = .remove → ∃ f, absent = some f ∧ corroborateAfter ≤ elapsed f clock

lemma AbsenceInv.stay (h : AbsenceInv ss ph absent clock) (hf : ss.Fades ss')
    (ht : clock ≤ now) : AbsenceInv ss' ph absent now := by
  constructor
  · intro f hf'
    exact Nat.le_trans (h.past f hf') ht
  · intro hio t hs
    rcases hf.absence with hn | he
    · rw [hn] at hs
      cases hs
    · exact h.seen hio t (he ▸ hs)
  · intro hio
    rcases hf.removal with hn | he
    · exact hn
    · exact he.trans (h.reading hio)
  · intro hio
    obtain ⟨f, hf', hle⟩ := h.removing hio
    exact ⟨f, hf', Nat.le_trans hle (elapsed_mono ht)⟩

lemma AbsenceInv.fresh (h : SessionState.absenceSeen ss = none) (now : Instant) :
    AbsenceInv ss .idle none now := by
  constructor
  · intro f hf
    cases hf
  · intro _ t hs
    rw [h] at hs
    cases hs
  · intro hio
    cases hio
  · intro hio
    cases hio

lemma AbsenceInv.move (h : AbsenceInv ss ph absent clock) (hf : ss.Fades ss')
    (ht : clock ≤ now) (hio : ph.isRead = false ∨ ss'.absenceSeen = none)
    (hread : ph'.isRead = false) (hrem : ph' ≠ .remove) :
    AbsenceInv ss' ph' absent now := by
  constructor
  · intro f hf'
    exact Nat.le_trans (h.past f hf') ht
  · intro _ t hs
    rcases hio with hio | hn
    · rcases hf.absence with hn | he
      · rw [hn] at hs
        cases hs
      · exact h.seen hio t (he ▸ hs)
    · rw [hn] at hs
      cases hs
  · intro hs
    rw [hread] at hs
    cases hs
  · intro hs
    exact absurd hs hrem

lemma SessionState.absenceSeen_of_corroborated (hc : isConflicted a = true)
    (h : corroborated a.conflictObservation (contentHash removedDiskMarker) none now = true) :
    ∃ t, a.absenceSeen = some t ∧ corroborateAfter ≤ elapsed t now := by
  cases a with
  | conflicted c =>
    cases hp : c.pending with
    | none => simp only [conflictObservation, hp, Option.map_none, corroborated,
        Bool.false_eq_true] at h
    | some o =>
      simp only [conflictObservation, hp, Option.map_some, corroborated, Bool.and_eq_true,
        beq_iff_eq, decide_eq_true_eq] at h
      obtain ⟨⟨hh, hm⟩, hle⟩ := h
      apply Exists.intro o.seen
      apply And.intro _ hle
      simp [absenceSeen, hp, hh, hm]
  | _ => cases hc

lemma AbsenceInv.statFailed {st : DocState}
    (h : AbsenceInv st.sessionState (.reconcile forced) absent clock) (ht : clock ≤ now) :
    AbsenceInv (st.statFailed false now).1.sessionState (st.statFailed false now).2
      (some (absent.getD now)) now := by
  have hfirst : absent.getD now ≤ now := by
    cases absent with
    | none => exact Nat.le_refl _
    | some f => exact Nat.le_trans (h.past f rfl) ht
  have hkept : ∀ t, st.sessionState.absenceSeen = some t → absent.getD now ≤ t := by
    intro t hs
    obtain ⟨f, hf, hle⟩ := h.seen rfl t hs
    rw [hf]
    exact hle
  have hpast : ∀ f, some (absent.getD now) = some f → f ≤ now := by
    intro f hf
    cases hf
    exact hfirst
  have hidle : ∀ ss : SessionState,
      (∀ t, ss.absenceSeen = some t → absent.getD now ≤ t) →
      AbsenceInv ss .idle (some (absent.getD now)) now := by
    intro ss hss
    refine ⟨hpast, fun _ t hs => ⟨_, rfl, hss t hs⟩, ?_, ?_⟩
    · intro hio
      cases hio
    · intro hio
      cases hio
  have hremove : (∃ t, st.sessionState.absenceSeen = some t ∧
      corroborateAfter ≤ elapsed t now) →
      AbsenceInv st.sessionState .remove (some (absent.getD now)) now := by
    rintro ⟨t, hs, hle⟩
    refine ⟨hpast, fun _ u hu => ⟨_, rfl, hkept u hu⟩, ?_, ?_⟩
    · intro hio
      cases hio
    · intro _
      refine ⟨_, rfl, Nat.le_trans hle ?_⟩
      exact Nat.sub_le_sub_left (hkept t hs) now
  have hnow : ∀ ss : SessionState, ss.absenceSeen = some now →
      AbsenceInv ss .idle (some (absent.getD now)) now := by
    intro ss hss
    apply hidle
    intro t hs
    rw [hss] at hs
    cases hs
    exact hfirst
  simp only [DocState.statFailed, Bool.false_eq_true, if_false]
  cases hc : st.sessionState.isConflicted with
  | true =>
    simp only [if_true]
    split
    · exact hremove (absenceSeen_of_corroborated hc ‹_›)
    · split
      · exact hidle _ hkept
      · apply hnow
        cases hs : st.sessionState with
        | conflicted c =>
          simp [DocState.setState, SessionState.observeConflictContent, SessionState.absenceSeen]
        | _ => rw [hs] at hc; cases hc
  | false =>
    have hseen := absenceSeen_of_unconflicted hc
    simp only [Bool.false_eq_true, if_false]
    split
    · rename_i first hfirst'
      split
      · exact hremove ⟨first, hseen.trans hfirst', ‹_›⟩
      · exact hidle _ hkept
    · apply hnow
      simp [DocState.setState, SessionState.observeRemoval, hc, SessionState.absenceSeen]

lemma DocState.fades_statFailed (now : Instant) (st : DocState) :
    st.sessionState.Fades (st.statFailed true now).1.sessionState := by
  simp only [DocState.statFailed, if_true, DocState.setState]
  cases hs : st.sessionState with
  | observing since o =>
    cases o with
    | content x m t => exact .of_none _ rfl
    | removal t => cases since <;> exact .of_none _ rfl
  | _ => exact .of_none _ rfl

lemma AbsenceInv.statOk {st : DocState} (stat : FileStat) (forced : Bool) (now : Instant) :
    AbsenceInv (st.statOk stat forced).1.sessionState (st.statOk stat forced).2 none now := by
  have hrem : (st.statOk stat forced).1.sessionState.removalObservation = none := by
    simp only [DocState.statOk]
    by_cases hr : st.sessionState.removalObservation.isSome = true
    · simp only [if_pos hr]
      split <;> exact clearObservation_not_observing _
    · simp only [if_neg hr]
      rw [Option.not_isSome_iff_eq_none] at hr
      split <;> exact hr
  have hio : (∃ s, (st.statOk stat forced).2 = .read s) ∨
      ((st.statOk stat forced).2 = .idle ∧
        (st.statOk stat forced).1.sessionState.isConflicted = false) := by
    simp only [DocState.statOk]
    by_cases hr : st.sessionState.removalObservation.isSome = true
    · grind
    · grind
  constructor
  · intro f hf
    cases hf
  · intro hnot t hs
    rcases hio with ⟨s, hs'⟩ | ⟨-, hc⟩
    · rw [hs'] at hnot
      cases hnot
    · rw [absenceSeen_of_unconflicted hc, hrem] at hs
      cases hs
  · intro _
    exact hrem
  · intro hr
    rcases hio with ⟨s, hs⟩ | ⟨hs, -⟩
    · rw [hs] at hr
      cases hr
    · rw [hs] at hr
      cases hr

end Chan
