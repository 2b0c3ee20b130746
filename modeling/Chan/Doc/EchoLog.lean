import Chan.Doc.Effects

namespace Chan
open Utf AssocMap DocState

def DocState.collapses (raw : Text) (stat : FileStat) (now : Instant) (st : DocState) : Bool :=
  match st.sessionState with
  | .conflicted c =>
    contentHash (normalizeLf raw) != c.diskVersion &&
      SessionState.corroborated st.sessionState.conflictObservation
        (contentHash (normalizeLf raw)) stat.mtimeNs now &&
      (normalizeLf raw == st.text || normalizeLf raw == st.baseline.content)
  | _ => false

def DocSession.noted (diffy : Text → Text → Text → Option Text) (s : DocSession) (l : Label) :
    Option EchoEntry :=
  match l.op, s.io with
  | .finishFlush _, .flush job => some ⟨contentHash job.text, .written, l.now⟩
  | .finishMerge, .merge raw _ _ =>
    if s.state.folds diffy raw then some ⟨contentHash (normalizeLf raw), .adopted, l.now⟩ else none
  | .mergeDisk raw _ _, .idle =>
    if s.state.folds diffy raw then some ⟨contentHash (normalizeLf raw), .adopted, l.now⟩ else none
  | .reload (.present raw _), .idle => some ⟨contentHash (normalizeLf raw), .adopted, l.now⟩
  | .readOk raw stat, .read _ =>
    if s.state.collapses raw stat l.now then
      some ⟨contentHash (normalizeLf raw), .adopted, l.now⟩
    else none
  | _, _ => none

def RingStep (now : Instant) (noted : Option EchoEntry) (r r' : DiskEchoRing) : Prop :=
  match noted with
  | some e => e.at_ = now ∧ r' = r.noteAt e.hash e.origin now
  | none => r' = r ∨ r' = r.evict now

namespace DocState

lemma ring_appendLogs (es : List LoggedUpdate) (st : DocState) :
    (es.foldl appendLog st).diskEcho = st.diskEcho := by
  induction es generalizing st with
  | nil => rfl
  | cons e es ih => exact ih (st.appendLog e)

lemma ring_commit (us : List Update) (a : Applied) (st : DocState) :
    (st.commit us a).diskEcho = st.diskEcho :=
  ring_appendLogs (us.map Update.logged) { st with text := a.text, len16 := a.len16 }

lemma ring_installDisk (t : Text) (st : DocState) :
    (st.installDisk t).diskEcho = st.diskEcho := by
  rw [installDisk]
  split
  · exact ring_commit _ _ _
  · rfl

lemma ring_enterConflict (dv : UInt64) (m : Option Int) (dc : Text) (fresh : Nat)
    (st : DocState) : (st.enterConflictLocked dv m dc fresh).diskEcho = st.diskEcho := by
  simp only [enterConflictLocked]
  split <;> rfl

lemma ring_mergeDisk (diffy : Text → Text → Text → Option Text) (raw : Text)
    (stat : FileStat) (v : Bool) (now : Instant) (fresh : Nat) (st : DocState) :
    (st.mergeDisk diffy raw stat v now fresh).diskEcho =
      if st.folds diffy raw then st.diskEcho.noteAdopted (contentHash (normalizeLf raw)) now
      else st.diskEcho := by
  have hfold t : ((st.noteAdopted (contentHash (normalizeLf raw)) now).installDisk
      t).diskEcho = st.diskEcho.noteAdopted (contentHash (normalizeLf raw)) now :=
    ring_installDisk t _
  simp only [mergeDisk]
  by_cases hd : st.sessionState.isDirty = true ∧ normalizeLf raw ≠ st.text
  · rw [if_pos hd]
    have hb : (normalizeLf raw == st.text) = false := beq_eq_false_iff_ne.2 hd.2
    cases hm : mergeTextSnapshots diffy st.baseline.content st.text (normalizeLf raw) with
    | some m =>
      simp only [folds, hm, Option.isSome_some, Bool.or_true, if_true]
      exact hfold (normalizeLf m)
    | none =>
      simp only [folds, hm, hd.1, hb, Option.isSome_none, Bool.not_true, Bool.or_self,
        Bool.false_eq_true, if_false]
      exact ring_enterConflict _ _ _ _ _
  · rw [if_neg hd, if_pos]
    · exact hfold (normalizeLf raw)
    · rw [not_and_or, not_not, Bool.not_eq_true] at hd
      simp only [folds, Bool.or_eq_true, Bool.not_eq_true', beq_iff_eq]
      exact .inl hd

lemma ring_reloadAdopt (path raw : Text) (stat : FileStat) (now : Instant) (st : DocState) :
    (st.reloadAdopt path raw stat now).diskEcho =
      st.diskEcho.noteAdopted (contentHash (normalizeLf raw)) now := by
  rw [← ring_installDisk (normalizeLf raw) st]
  simp only [reloadAdopt]
  split <;> split <;> rfl

lemma ring_reconcileConflicted (raw : Text) (stat : FileStat) (v : Bool) (now : Instant)
    (fresh : Nat) (st : DocState) :
    (st.reconcileConflictedLocked (normalizeLf raw) stat (contentHash (normalizeLf raw)) v now
      fresh).diskEcho =
      if st.collapses raw stat now then
        st.diskEcho.noteAdopted (contentHash (normalizeLf raw)) now
      else st.diskEcho := by
  cases hc : st.sessionState with
  | conflicted c =>
    simp only [reconcileConflictedLocked, collapses, hc]
    by_cases hsame : contentHash (normalizeLf raw) = c.diskVersion
    · rw [if_pos hsame, bne_eq_false_iff_eq.2 hsame]
      rfl
    · rw [if_neg hsame, bne_iff_ne.2 hsame, Bool.true_and]
      cases hcor : SessionState.corroborated (SessionState.conflicted c).conflictObservation
          (contentHash (normalizeLf raw)) stat.mtimeNs now with
      | true =>
        rw [if_pos rfl, Bool.true_and]
        by_cases ht : normalizeLf raw = st.text
        · rw [if_pos ht, beq_iff_eq.2 ht]
          rfl
        · by_cases hb : normalizeLf raw = st.baseline.content
          · rw [if_neg ht, if_pos hb, beq_iff_eq.2 hb, Bool.or_true]
            rfl
          · rw [if_neg ht, if_neg hb, beq_eq_false_iff_ne.2 ht, beq_eq_false_iff_ne.2 hb]
            exact ring_enterConflict _ _ _ _ _
      | false =>
        rw [if_neg Bool.false_ne_true]
        simp only [Bool.false_and, Bool.false_eq_true, if_false]
        split <;> rfl
  | _ =>
    simp only [reconcileConflictedLocked, collapses, hc]
    rfl

lemma ring_observe (h : UInt64) (m : Option Int) (now : Instant) (st : DocState) :
    (st.observe h m now).diskEcho = st.diskEcho := by
  obtain ⟨ss, -, hst⟩ := st.observe_eq h m now
  rw [hst]
  rfl

lemma ring_statFailed («exists» : Bool) (now : Instant) (st : DocState) :
    (st.statFailed «exists» now).1.diskEcho = st.diskEcho := by
  obtain ⟨ss, -, hst, -⟩ := st.statFailed_eq «exists» now
  rw [hst]
  rfl

lemma ring_statOk (stat : FileStat) (forceRead : Bool) (st : DocState) :
    (st.statOk stat forceRead).1.diskEcho = st.diskEcho := by
  obtain ⟨ss, -, hst, -⟩ := st.statOk_eq stat forceRead
  rw [hst]
  rfl

lemma ring_readOk (raw : Text) (stat : FileStat) (now : Instant) (fresh : Nat)
    (st : DocState) (hc : st.sessionState.isConflicted = false) :
    (st.readOk raw stat now fresh).1.diskEcho = st.diskEcho.evict now := by
  simp only [readOk, hc, Bool.false_eq_true, if_false]
  split
  · split
    · rfl
    · exact ring_observe _ _ _ _
  · split
    · rfl
    · split
      · exact ring_observe _ _ _ _
      · split
        · split
          · rfl
          · exact ring_observe _ _ _ _
        · rfl

lemma ring_push {st st' : DocState} (h : st.push k base us closed now = .ok st') :
    st'.diskEcho = st.diskEcho := by
  simp only [push] at h
  split at h
  · cases h
  · split at h
    · cases h
    · split at h
      · cases h
        rfl
      · split at h
        · cases h
        · cases h
          rfl
        · rename_i a _
          cases h
          exact ring_commit us a st

lemma ring_applyHttpReplace {st st' : DocState}
    (h : st.applyHttpReplace client t pre now = .ok (r, st')) :
    st'.diskEcho = st.diskEcho := by
  simp only [applyHttpReplace] at h
  split at h
  · cases h
    rfl
  · split at h
    · cases h
      rfl
    · cases h
      rfl
    · split at h
      · cases h
      · cases h
        rw [applyReplaceLocked]
        split
        · rfl
        · exact ring_commit _ _ _

lemma collapses_eq_false {st : DocState} (h : st.sessionState.isConflicted = false) :
    st.collapses raw stat now = false := by
  rw [collapses]
  split
  · rename_i c hc
    rw [hc] at h
    cases h
  · rfl

end DocState

lemma RingStep.same (now : Instant) (h : r' = r) : RingStep now none r r' := .inl h

lemma DocSession.ioStep_ring {s s' : DocSession} (h : s.ioStep diffy l = some s') :
    RingStep l.now (s.noted diffy l) s.state.diskEcho s'.state.diskEcho := by
  simp only [DocSession.ioStep] at h
  split at h
  all_goals rename_i hop hio
  all_goals simp only [DocSession.noted, hop, hio]
  · simp only [DocState.beginFlush] at h
    cases hd : s.state.sessionState.dirtySince with
    | none | some since =>
      simp only [hd] at h
      cases h
      exact .inl rfl
  · cases h
    refine ⟨rfl, ?_⟩
    simp only [DocSession.withIo, DocState.finishFlush]
    split <;> rfl
  · cases h
    apply RingStep.same
    simp only [DocSession.withIo, DocState.noteFlushFailure]
    split <;> rfl
  · cases h
    exact .inl rfl
  · cases h
    exact .inl rfl
  · cases h
    exact .inl (ring_statFailed _ _ _)
  · cases h
    exact .inl (ring_statOk _ _ _)
  · cases h
    apply RingStep.same
    simp only [DocSession.withIo, DocState.readFailed]
    split
    · rfl
    · exact ring_enterConflict _ _ _ _ _
  · cases h
    cases hc : s.state.sessionState.isConflicted with
    | true =>
      simp only [DocSession.withIo, DocState.readOk, hc, if_true,
        ring_reconcileConflicted]
      split
      · exact ⟨rfl, rfl⟩
      · exact .inl rfl
    | false =>
      simp only [DocSession.withIo, ring_readOk _ _ _ _ _ hc,
        collapses_eq_false hc, Bool.false_eq_true, if_false]
      exact .inr rfl
  · cases h
    exact .inl rfl
  · cases h
    exact .inl rfl
  · cases h
    simp only [DocSession.withIo, ring_mergeDisk]
    split
    · exact ⟨rfl, rfl⟩
    · exact .inl rfl
  · cases h
    apply RingStep.same
    simp only [DocSession.withIo, DocState.markRemoved]
    split
    · exact ring_enterConflict _ _ _ _ _
    · rfl
  · cases h
    simp only [DocSession.withState, ring_mergeDisk]
    split
    · exact ⟨rfl, rfl⟩
    · exact .inl rfl
  · cases h
    apply RingStep.same
    simp only [DocSession.withState, DocState.markRemoved]
    split
    · exact ring_enterConflict _ _ _ _ _
    · rfl
  · cases h
    exact ⟨rfl, ring_reloadAdopt _ _ _ _ _⟩
  · cases h
    exact .inl rfl
  · cases h
    apply RingStep.same
    simp only [DocSession.withState, DocState.reloadVanished]
    split <;> rfl
  · cases h
    exact .inl rfl
  · cases h

lemma DocSession.step_ring {s s' : DocSession} (h : s.step diffy l = some s') :
    RingStep l.now (s.noted diffy l) s.state.diskEcho s'.state.diskEcho := by
  simp only [DocSession.step] at h
  split at h
  · rename_i hop
    simp only [DocSession.noted, hop]
    split at h
    · cases h
    · cases h
      exact .inl rfl
  · rename_i hop
    simp only [DocSession.noted, hop]
    split at h
    · cases h
      apply RingStep.same
      simp only [DocState.dropAttach]
      split <;> split <;> rfl
    · cases h
  · rename_i hop
    simp only [DocSession.noted, hop]
    split at h
    · split at h
      · rename_i hp
        cases h
        exact .inl (ring_push hp)
      · cases h
        exact .inl rfl
    · cases h
  · rename_i hop
    simp only [DocSession.noted, hop]
    split at h
    · cases h
      apply RingStep.same
      simp only [DocSession.withState, DocState.pull]
      split
      · split <;> rfl
      · rfl
    · cases h
  · rename_i hop
    simp only [DocSession.noted, hop]
    split at h
    · cases h
      apply RingStep.same
      simp only [DocSession.withState, DocState.cursor]
      split <;> rfl
    · cases h
  · rename_i hop
    simp only [DocSession.noted, hop]
    split at h
    · rename_i hp
      cases h
      exact .inl (ring_applyHttpReplace hp)
    · cases h
      exact .inl rfl
  · rename_i hop
    simp only [DocSession.noted, hop]
    cases h
    apply RingStep.same
    simp only [DocSession.withState, DocState.overwriteConflict]
    split <;> rfl
  · rename_i hop
    simp only [DocSession.noted, hop]
    cases h
    exact .inl rfl
  · exact DocSession.ioStep_ring h

namespace DiskEchoRing

lemma alive_mono (r : DiskEchoRing) (t u : Instant) (e : EchoEntry) (h : t ≤ u)
    (ha : r.alive u e = true) : r.alive t e = true := by
  simp only [alive, decide_eq_true_eq] at ha ⊢
  exact Nat.le_trans (elapsed_mono h) ha

lemma any_evict_mono (r : DiskEchoRing) (p : EchoEntry → Bool) (h : t ≤ u)
    (hr : (r.evict u).inner.any p = true) : (r.evict t).inner.any p = true := by
  rw [List.any_eq_true] at hr ⊢
  obtain ⟨e, he, hp⟩ := hr
  obtain ⟨hm, ha⟩ := List.mem_filter.1 he
  exact ⟨e, List.mem_filter.2 ⟨hm, r.alive_mono t u e h ha⟩, hp⟩

lemma any_evict_evict (r : DiskEchoRing) (p : EchoEntry → Bool)
    (hr : ((r.evict t).evict u).inner.any p = true) : (r.evict u).inner.any p = true := by
  rw [List.any_eq_true] at hr ⊢
  obtain ⟨e, he, hp⟩ := hr
  obtain ⟨hm, ha⟩ := List.mem_filter.1 he
  exact ⟨e, List.mem_filter.2 ⟨(List.mem_filter.1 hm).1, ha⟩, hp⟩

end DiskEchoRing

def RingInv (r : DiskEchoRing) (notes : List EchoEntry) (clock : Instant) : Prop :=
  r.writeTtl = diskEchoWriteTtl ∧ ∃ t, t ≤ clock ∧
    TtlRing.Covers r.alive diskEchoCap notes r.inner t

lemma RingInv.step (h : RingInv r notes clock) (ht : clock ≤ now)
    (hs : RingStep now noted r r') : RingInv r' (notes ++ noted.toList) now := by
  obtain ⟨httl, t, htc, hc⟩ := h
  have hnow := Nat.le_trans htc ht
  cases noted with
  | some e =>
    obtain ⟨hat, rfl⟩ := hs
    apply And.intro httl
    refine ⟨now, Nat.le_refl _, ?_⟩
    have he : (⟨e.hash, e.origin, now⟩ : EchoEntry) = e := by rw [← hat]
    have halive : r.alive now e = true := by
      simp only [DiskEchoRing.alive, decide_eq_true_eq, hat, elapsed, Nat.sub_self]
      exact Nat.zero_le _
    have hnote := hc.note r.alive_mono hnow halive
    rw [← he] at hnote ⊢
    exact hnote
  | none =>
    rw [Option.toList_none, List.append_nil]
    rcases hs with rfl | rfl
    · exact ⟨httl, t, hnow, hc⟩
    · exact ⟨httl, now, Nat.le_refl _, hc.evict r.alive_mono hnow⟩

lemma RingInv.contains (h : RingInv r notes clock) (ht : clock ≤ now)
    (he : e ∈ notes.drop (notes.length - diskEchoCap)) (ho : e.origin = .written)
    (hle : elapsed e.at_ now ≤ diskEchoWriteTtl) : r.containsAt e.hash now = true := by
  obtain ⟨httl, t, htc, hc⟩ := h
  have halive : r.alive now e = true := by
    simp only [DiskEchoRing.alive, ho, DiskEchoRing.ttl, httl, decide_eq_true_eq]
    exact hle
  have hmem := (hc.evict r.alive_mono (Nat.le_trans htc ht)).mem he halive
  simp only [DiskEchoRing.containsAt, List.any_eq_true]
  exact ⟨e, hmem, beq_self_eq_true _⟩

end Chan
