import Chan.Doc.Absence
import Chan.Doc.EchoLog
import Chan.Doc.Soundness

namespace Chan
open Utf AssocMap Transition DocState

variable {W W' : Watched}

def Op.isReconcile : Op → Bool
  | .beginReconcile => true
  | .statFailed _ => true
  | .statOk _ => true
  | .readFailed _ => true
  | .readOk _ _ => true
  | .taskFailed => true
  | .finishMerge => true
  | .finishRemove => true
  | _ => false

def Op.isDirect : Op → Bool
  | .mergeDisk _ _ _ => true
  | .markRemoved => true
  | _ => false

inductive Opened : DocSession → Instant → Prop
  | new (path t : Text) (stat : FileStat) (now : Instant) :
      Opened (DocSession.new path (normalizeLf t) stat now) now
  | recovered (h : DocSession.fromRecovery path disk r now fresh = .ok s) : Opened s now

/-- A session with the instant of its last step, every note its echo ring got, and the first
absence observed since the last successful stat. -/
structure Watched where
  session : DocSession
  clock : Instant
  notes : List EchoEntry
  absent : Option Instant

namespace Watched

def start (s : DocSession) (now : Instant) : Watched := ⟨s, now, s.state.diskEcho.inner, none⟩

def absentAfter (absent : Option Instant) (l : Label) : Option Instant :=
  match l.op with
  | .statFailed false => some (absent.getD l.now)
  | .statOk _ => none
  | .reload (.present _ _) => none
  | _ => absent

/-- Instants never go back, and the disk is only taken in by reconcile passes and reloads. -/
def step (diffy : Text → Text → Text → Option Text) (W : Watched) (l : Label) : Option Watched :=
  if l.now < W.clock ∨ l.op.isDirect = true then none
  else (W.session.step diffy l).map fun s =>
    ⟨s, l.now, W.notes ++ (W.session.noted diffy l).toList, absentAfter W.absent l⟩

/-- No write lands while an empty read waits to be folded in; no read fails, or is of the removal
marker itself, while a conflict has an absence pending. -/
def guarded (W : Watched) (l : Label) : Bool :=
  match l.op, W.session.io with
  | .push _ _ _, .merge raw _ _ => normalizeLf raw != []
  | .httpReplace _ _ _, .merge raw _ _ => normalizeLf raw != []
  | .readFailed _, .read _ => W.session.state.sessionState.absenceSeen.isNone
  | .taskFailed, .read _ => W.session.state.sessionState.absenceSeen.isNone
  | .readOk raw stat, .read _ => !W.session.state.sessionState.isConflicted ||
    contentHash (normalizeLf raw) != contentHash removedDiskMarker || stat.mtimeNs.isSome
  | _, _ => true

end Watched

structure Trusted (diffy : Text → Text → Text → Option Text) (W : Watched) (l : Label)
    (W' : Watched) : Prop where
  /-- A reconcile pass only changes the text by folding a read in: adopted when nothing was
  dirty, merged otherwise. -/
  folds : l.op.isReconcile = true → W'.session.state.text ≠ W.session.state.text →
    ∃ raw stat v, l.op = .finishMerge ∧ W.session.io = .merge raw stat v ∧
      ((W.session.state.sessionState.isDirty = false ∧
        W'.session.state.text = normalizeLf raw) ∨
      (W.session.state.sessionState.isDirty = true ∧
        ∃ m, mergeTextSnapshots diffy W.session.state.baseline.content W.session.state.text
          (normalizeLf raw) = some m ∧ W'.session.state.text = normalizeLf m))
  /-- A read of what was written within the last sixty seconds ends the pass. -/
  echo : ∀ raw stat e, l.op = .readOk raw stat ∨
      (l.op = .finishMerge ∧ ∃ v, W.session.io = .merge raw stat v) →
    e ∈ W.notes.drop (W.notes.length - diskEchoCap) → e.origin = .written →
    e.hash = contentHash (normalizeLf raw) → elapsed e.at_ l.now ≤ diskEchoWriteTtl →
    W'.session.state.text = W.session.state.text ∧ W'.session.io = .idle
  /-- An empty read changes nothing while the session is dirty or has written recently. -/
  empty : ∀ raw stat v, l.op = .finishMerge → W.session.io = .merge raw stat v →
    normalizeLf raw = [] → W.session.state.sessionState.isDirty = true ∨
      W.session.state.diskEcho.anyRecentWriteAt l.now = true →
    W'.session.state.text = W.session.state.text
  /-- A removal was observed long enough ago, with no successful stat since. -/
  removal : l.op = .finishRemove → ∃ f, W.absent = some f ∧
    corroborateAfter ≤ elapsed f l.now

lemma absence_ioStep
    (h : AbsenceInv s.state.sessionState s.io absent clock)
    (hs : s.ioStep diffy l = some s') (ht : clock ≤ l.now)
    (hg : Watched.guarded ⟨s, clock, notes, absent⟩ l = true) :
    AbsenceInv s'.state.sessionState s'.io (Watched.absentAfter absent l) l.now := by
  simp only [DocSession.ioStep] at hs
  split at hs
  all_goals rename_i hop hio
  all_goals simp only [Watched.absentAfter, Watched.guarded, hop, hio] at h hg ⊢
  · simp only [DocState.beginFlush] at hs
    cases hd : s.state.sessionState.dirtySince with
    | none =>
      simp only [hd] at hs
      cases hs
      simp only [DocSession.withState, hio]
      exact h.stay (.refl _) ht
    | some since =>
      simp only [hd] at hs
      cases hs
      exact h.move (.refl _) ht (.inl rfl) rfl (fun h => by cases h)
  · cases hs
    exact h.move (fades_finishFlush _ _ _ _ _) ht (.inl rfl) rfl (fun h => by cases h)
  · cases hs
    exact h.move (fades_noteFlushFailure _ _) ht (.inl rfl) rfl (fun h => by cases h)
  · cases hs
    simp only [DocSession.withIo]
    split <;> exact h.move (.refl _) ht (.inl rfl) rfl (fun h => by cases h)
  · cases hs
    simp only [DocSession.withIo]
    split <;> exact h.move (.refl _) ht (.inl rfl) rfl (fun h => by cases h)
  · rename_i present forced
    cases hs
    cases present with
    | false => exact h.statFailed ht
    | true => exact h.move (s.state.fades_statFailed l.now) ht (.inl rfl) rfl (fun h => by cases h)
  · cases hs
    exact AbsenceInv.statOk _ _ _
  · rename_i e stat
    cases hs
    rw [Option.isNone_iff_eq_none] at hg
    simp only [DocSession.withIo, DocState.readFailed]
    split
    · exact h.move (.refl _) ht (.inr hg) rfl (fun h => by cases h)
    · have ha := s.state.absence_enterConflict (contentHash (unreadableMarker stat e)) stat.mtimeNs
        [] l.fresh
      exact h.move (.of_none _ ha) ht (.inr ha) rfl (fun h => by cases h)
  · rename_i raw stat stat₀
    cases hs
    have hnone : (s.state.readOk raw stat l.now l.fresh).1.sessionState.absenceSeen = none := by
      cases hc : s.state.sessionState.isConflicted with
      | true =>
        simp only [hc, Bool.not_true, Bool.false_or, Bool.or_eq_true, bne_iff_ne] at hg
        simp only [DocState.readOk, hc, if_true]
        apply absence_reconcileConflicted _ _ _ _ _ _ _ hc
        exact hg.imp_right Option.isSome_iff_ne_none.1
      | false => exact absence_readOk _ _ _ _ _ hc (h.reading rfl)
    rcases s.state.readOk_phase raw stat l.now l.fresh with hp | ⟨v, hp⟩
    · simp only [DocSession.withIo, hp]
      exact h.move (.of_none _ hnone) ht (.inr hnone) rfl (fun h => by cases h)
    · simp only [DocSession.withIo, hp]
      exact h.move (.of_none _ hnone) ht (.inr hnone) rfl (fun h => by cases h)
  · cases hs
    exact h.move (.refl _) ht (.inl rfl) rfl (fun h => by cases h)
  · cases hs
    rw [Option.isNone_iff_eq_none] at hg
    exact h.move (.refl _) ht (.inr hg) rfl (fun h => by cases h)
  · cases hs
    exact h.move (fades_mergeDisk _ _ _ _ _ _ _) ht (.inl rfl) rfl (fun h => by cases h)
  · cases hs
    exact h.move (fades_markRemoved _ _) ht (.inl rfl) rfl (fun h => by cases h)
  · cases hs
    simp only [DocSession.withState, hio]
    exact h.stay (fades_mergeDisk _ _ _ _ _ _ _) ht
  · cases hs
    simp only [DocSession.withState, hio]
    exact h.stay (fades_markRemoved _ _) ht
  · rename_i raw stat
    cases hs
    simp only [DocSession.withState, hio]
    apply AbsenceInv.fresh
    have hss := congrArg Core.sessionState (s.state.core_reloadAdopt s.path raw stat l.now)
    exact congrArg SessionState.absenceSeen hss
  · cases hs
    simp only [hio]
    exact h.stay (.refl _) ht
  · cases hs
    simp only [DocSession.withState, hio, DocState.reloadVanished]
    apply h.stay _ ht
    split <;> exact .of_none _ rfl
  · cases hs
    simp only [DocSession.withState, hio]
    exact h.stay (.refl _) ht
  · cases hs

lemma absence_step
    (h : AbsenceInv s.state.sessionState s.io absent clock)
    (hs : s.step diffy l = some s') (ht : clock ≤ l.now)
    (hg : Watched.guarded ⟨s, clock, notes, absent⟩ l = true) :
    AbsenceInv s'.state.sessionState s'.io (Watched.absentAfter absent l) l.now := by
  have hcore : ∀ st : DocState, st.core = s.state.core →
      AbsenceInv st.sessionState s.io absent l.now := by
    intro st hst
    have hss : st.sessionState = s.state.sessionState := congrArg Core.sessionState hst
    rw [hss]
    exact h.stay (.refl _) ht
  simp only [DocSession.step] at hs
  split at hs
  case h_9 => exact absence_ioStep h hs ht hg
  all_goals rename_i hop
  all_goals simp only [Watched.absentAfter, hop]
  · split at hs
    · cases hs
    · cases hs
      exact hcore _ rfl
  · split at hs
    · cases hs
      exact hcore _ (core_dropAttach _ _ _)
    · cases hs
  · split at hs
    · split at hs
      · rename_i hp
        cases hs
        exact h.stay (fades_push hp) ht
      · cases hs
        exact hcore _ rfl
    · cases hs
  · split at hs
    · cases hs
      exact hcore _ (core_pull _ _ _ _)
    · cases hs
  · split at hs
    · cases hs
      exact hcore _ (core_cursor _ _ _ _)
    · cases hs
  · split at hs
    · rename_i hp
      cases hs
      exact h.stay (fades_applyHttpReplace hp) ht
    · cases hs
      exact hcore _ rfl
  · cases hs
    simp only [DocSession.withState, DocState.overwriteConflict]
    split
    · exact h.stay (.of_none _ rfl) ht
    · exact hcore _ rfl
  · cases hs
    exact hcore _ rfl

/-- A read that waits to be folded in is no echo, and where it is empty there is nothing it could
take away. -/
def MergeInv (st : DocState) (ph : IoPhase) (clock : Instant) : Prop :=
  ∀ raw stat v, ph = .merge raw stat v →
    st.diskEcho.containsAt (contentHash (normalizeLf raw)) clock = false ∧
    (normalizeLf raw = [] → st.text = [] ∨
      (st.sessionState.isDirty = false ∧ st.diskEcho.anyRecentWriteAt clock = false))

lemma MergeInv.idle (st : DocState) (clock : Instant) : MergeInv st .idle clock := by
  intro raw stat v hph
  cases hph

lemma MergeInv.readOk {st : DocState} (raw : Text) (stat : FileStat) (now : Instant)
    (fresh : Nat) :
    MergeInv (st.readOk raw stat now fresh).1 (st.readOk raw stat now fresh).2 now := by
  have hfold : ∀ v, ¬ st.diskEcho.containsAt (contentHash (normalizeLf raw)) now = true →
      (normalizeLf raw = [] → st.text = [] ∨ (st.sessionState.isDirty = false ∧
        (st.diskEcho.evict now).anyRecentWriteAt now = false)) →
      MergeInv { st with diskEcho := st.diskEcho.evict now } (.merge (normalizeLf raw) stat v)
        now := by
    intro v hecho hempty t stat' v' hph
    cases hph
    rw [normalizeLf_idem]
    apply And.intro _ hempty
    rw [← Bool.not_eq_true]
    exact fun h => hecho (st.diskEcho.any_evict_evict _ h)
  simp only [DocState.readOk]
  split
  · exact .idle _ _
  · split
    · exact .idle _ _
    · rename_i hecho
      split
      · rename_i htext
        exact hfold _ hecho fun he => .inl (htext.symm.trans he)
      · split
        · exact .idle _ _
        · rename_i hlive
          have hempty : normalizeLf raw = [] → st.sessionState.isDirty = false ∧
              (st.diskEcho.evict now).anyRecentWriteAt now = false := by
            intro he
            simpa [he] using hlive
          split
          · split
            · exact hfold _ hecho fun he => .inr (hempty he)
            · exact .idle _ _
          · exact hfold _ hecho fun he => .inr (hempty he)

lemma DocSession.ioStep_merge {s s' : DocSession} (h : s.ioStep diffy l = some s')
    (hph : s'.io = .merge raw stat v) : ∃ raw' stat', l.op = .readOk raw' stat' ∧
      s' = s.withIo (s.state.readOk raw' stat' l.now l.fresh) := by
  simp only [DocSession.ioStep] at h
  split at h
  case h_9 =>
    rename_i hop hio
    cases h
    exact ⟨_, _, hop, rfl⟩
  all_goals rename_i hop hio
  case h_1 =>
    split at h
    · cases h
      cases hio.symm.trans hph
    · cases h
      cases hph
  case h_6 =>
    rename_i present forced
    cases h
    obtain ⟨ss, -, -, hp | hp⟩ := s.state.statFailed_eq present l.now
    · cases hp.symm.trans hph
    · cases hp.symm.trans hph
  case h_7 =>
    rename_i stat' forced
    cases h
    obtain ⟨ss, -, -, hp | hp⟩ := s.state.statOk_eq stat' forced
    · cases hp.symm.trans hph
    · cases hp.symm.trans hph
  all_goals cases h
  case h_4 =>
    simp only [withIo] at hph
    split at hph <;> cases hph
  case h_5 =>
    simp only [withIo] at hph
    split at hph <;> cases hph
  all_goals first | cases hph | cases hio.symm.trans hph

lemma DocSession.step_merge {s s' : DocSession} (h : s.step diffy l = some s')
    (hph : s'.io = .merge raw stat v) : (∃ raw' stat', l.op = .readOk raw' stat' ∧
      s' = s.withIo (s.state.readOk raw' stat' l.now l.fresh)) ∨
      (s.io = .merge raw stat v ∧ s.noted diffy l = none) := by
  simp only [DocSession.step] at h
  split at h
  case h_9 => exact .inl (DocSession.ioStep_merge h hph)
  all_goals rename_i hop
  all_goals apply Or.inr
  all_goals simp only [DocSession.noted, hop, and_true]
  · split at h
    · cases h
    · cases h
      exact hph
  · split at h
    · cases h
      exact hph
    · cases h
  · split at h
    · split at h
      · cases h
        exact hph
      · cases h
        exact hph
    · cases h
  · split at h
    · cases h
      exact hph
    · cases h
  · split at h
    · cases h
      exact hph
    · cases h
  · split at h
    · cases h
      exact hph
    · cases h
      exact hph
  · cases h
    exact hph
  · cases h
    exact hph

lemma Effect.kept_of_merge (h : Effect diffy s l c ph) (hph : ph = .merge raw stat v)
    (hw : ∀ t n, ¬ Writes s l t n) : c.text = s.state.text ∧
      (s.state.sessionState.isDirty = false → c.sessionState.isDirty = false) := by
  cases h with
  | still ha hio => exact ⟨rfl, fun hd => ha.1.trans hd⟩
  | write hw' => exact absurd hw' (hw _ _)
  | resume hc hio =>
    apply And.intro rfl
    intro hd
    rw [SessionState.isDirty, hc, Bool.or_true] at hd
    cases hd
  | _ => cases hph

lemma Watched.not_writes_of_guarded (hg : W.guarded l = true)
    (hio : W.session.io = .merge raw stat v) (he : normalizeLf raw = []) (t : Text) (n : Nat) :
    ¬ Writes W.session l t n := by
  intro hw
  cases hw with
  | push hop | http hop => simp [Watched.guarded, hop, hio, he] at hg

lemma MergeInv.step {s' : DocSession}
    (h : MergeInv W.session.state W.session.io W.clock)
    (hs : W.session.step diffy l = some s') (ht : W.clock ≤ l.now) (hg : W.guarded l = true) :
    MergeInv s'.state s'.io l.now := by
  intro raw stat v hph
  rcases DocSession.step_merge hs hph with ⟨raw', stat', -, rfl⟩ | ⟨hio, hnone⟩
  · exact MergeInv.readOk raw' stat' l.now l.fresh raw stat v hph
  · obtain ⟨hecho, hempty⟩ := h raw stat v hio
    have hring := DocSession.step_ring hs
    rw [hnone] at hring
    have hgone : ∀ p : EchoEntry → Bool,
        (W.session.state.diskEcho.evict W.clock).inner.any p = false →
        (s'.state.diskEcho.evict l.now).inner.any p = false := by
      intro p hp
      rw [← Bool.not_eq_true] at hp ⊢
      intro hany
      apply hp
      apply W.session.state.diskEcho.any_evict_mono p ht
      rcases hring with hr | hr
      · rw [hr] at hany
        exact hany
      · rw [hr] at hany
        exact W.session.state.diskEcho.any_evict_evict p hany
    apply And.intro (hgone _ hecho)
    intro he
    obtain ⟨htext, hclean⟩ := (DocSession.step_effect hs).kept_of_merge hph
      (W.not_writes_of_guarded hg hio he)
    rcases hempty he with hnil | ⟨hd, hrecent⟩
    · exact .inl (htext.trans hnil)
    · exact .inr ⟨hclean hd, hgone _ hrecent⟩

lemma DocSession.step_readOk {s s' : DocSession} (h : s.step diffy l = some s')
    (hop : l.op = .readOk raw stat) : s' = s.withIo (s.state.readOk raw stat l.now l.fresh) := by
  cases hio : s.io with
  | read stat' =>
    simp only [DocSession.step, hop, DocSession.ioStep, hio] at h
    cases h
    rfl
  | _ =>
    simp only [DocSession.step, hop, DocSession.ioStep, hio] at h
    cases h

lemma DocSession.step_finishRemove {s s' : DocSession} (h : s.step diffy l = some s')
    (hop : l.op = .finishRemove) : s.io = .remove := by
  cases hio : s.io with
  | remove => rfl
  | _ =>
    simp only [DocSession.step, hop, DocSession.ioStep, hio] at h
    cases h

lemma DocSession.adopts_of_reconcile {s : DocSession} (h : s.adopts diffy l = some (raw, stat))
    (hrec : l.op.isReconcile = true) : normalizeLf raw = s.state.text ∨
      (l.op = .finishMerge ∧ ∃ v, s.io = .merge raw stat v) := by
  obtain ⟨hread, hp⟩ := Option.filter_eq_some_iff.1 h
  simp only [DocSession.diskRead] at hread
  split at hread
  · rename_i hop
    rw [hop] at hrec
    cases hrec
  · rename_i hop hio
    cases hread
    exact .inr ⟨hop, _, hio⟩
  · rename_i hop
    rw [hop] at hrec
    cases hrec
  · rename_i hop
    cases hread
    simp only [hop, Bool.and_eq_true, beq_iff_eq] at hp
    exact .inl hp.2
  · cases hread

lemma Effect.of_reconcile (h : Effect diffy s l c ph) (hrec : l.op.isReconcile = true)
    (hne : c.text ≠ s.state.text) : ∃ raw stat v, l.op = .finishMerge ∧
      s.io = .merge raw stat v ∧ normalizeLf raw ≠ s.state.text ∧
      ((s.state.sessionState.isDirty = false ∧ c.text = normalizeLf raw) ∨
      (s.state.sessionState.isDirty = true ∧
        ∃ m, mergeTextSnapshots diffy s.state.baseline.content s.state.text
          (normalizeLf raw) = some m ∧ c.text = normalizeLf m)) := by
  cases h with
  | write hw =>
    cases hw with
    | push hop => rw [hop] at hrec; cases hrec
    | http hop => rw [hop] at hrec; cases hrec
  | adopt hr hd =>
    rcases DocSession.adopts_of_reconcile hr hrec with htext | ⟨hop, v, hio⟩
    · exact absurd htext hne
    · refine ⟨_, _, v, hop, hio, hne, .inl ⟨?_, rfl⟩⟩
      rcases hd with hd | htext | ⟨r, hop'⟩
      · exact hd
      · exact absurd htext hne
      · rw [hop] at hop'
        cases hop'
  | merge _ hr hd hraw hm =>
    rcases DocSession.adopts_of_reconcile hr hrec with htext | ⟨hop, v, hio⟩
    · exact absurd htext hraw
    · exact ⟨_, _, v, hop, hio, hraw, .inr ⟨hd, _, hm, rfl⟩⟩
  | _ => exact absurd rfl hne

structure Watched.Sound (W : Watched) : Prop where
  ring : RingInv W.session.state.diskEcho W.notes W.clock
  absence : AbsenceInv W.session.state.sessionState W.session.io W.absent W.clock
  merge : MergeInv W.session.state W.session.io W.clock

namespace Watched

lemma step_eq_some : W.step diffy l = some W' ↔ W.clock ≤ l.now ∧
    l.op.isDirect = false ∧ ∃ s, W.session.step diffy l = some s ∧
      W' = ⟨s, l.now, W.notes ++ (W.session.noted diffy l).toList, absentAfter W.absent l⟩ := by
  rw [step]
  split
  · grind
  · rename_i h
    rw [not_or, Nat.not_lt, Bool.not_eq_true] at h
    rw [Option.map_eq_some_iff]
    constructor
    · rintro ⟨s, hs, rfl⟩
      exact ⟨h.1, h.2, s, hs, rfl⟩
    · rintro ⟨-, -, s, hs, rfl⟩
      exact ⟨s, hs, rfl⟩

lemma Sound.step (h : W.Sound) (hg : W.guarded l = true)
    (hs : W.step diffy l = some W') : W'.Sound := by
  obtain ⟨ht, -, s, hs', rfl⟩ := step_eq_some.1 hs
  exact ⟨h.ring.step ht (DocSession.step_ring hs'), absence_step h.absence hs' ht hg,
    h.merge.step hs' ht hg⟩

lemma sound_start (ho : Opened s now) : (start s now).Sound := by
  have hnew : RingInv DiskEchoRing.new [] now :=
    ⟨rfl, now, Nat.le_refl _, TtlRing.Covers.empty _ _ _⟩
  have hnote : ∀ (r : DiskEchoRing) (notes : List EchoEntry) (e : EchoEntry), e.at_ = now →
      RingInv r notes now → RingInv (r.noteAt e.hash e.origin now) (notes ++ [e]) now := by
    intro r notes e he hr
    have hs : RingStep now (some e) r (r.noteAt e.hash e.origin now) := ⟨he, rfl⟩
    exact hr.step (Nat.le_refl _) hs
  have hstart : ∀ s : DocSession, s.io = .idle → s.state.sessionState.absenceSeen = none →
      (∃ notes, RingInv s.state.diskEcho notes now) → (start s now).Sound := by
    rintro s hio habs ⟨notes, httl, t, ht, hc⟩
    constructor
    · exact ⟨httl, t, ht, hc.self⟩
    · rw [start, hio]
      exact .fresh habs now
    · rw [start, hio]
      exact .idle _ _
  cases ho with
  | new path t stat => exact hstart _ rfl rfl ⟨_, hnote _ _ ⟨_, .adopted, now⟩ rfl hnew⟩
  | recovered h =>
    rcases DocSession.fromRecovery_ok h with ⟨t, stat, -, rfl⟩ | ⟨-, -, -, cid, rfl⟩
    · exact hstart _ rfl rfl ⟨_, hnote _ _ ⟨_, .adopted, now⟩ rfl hnew⟩
    · apply hstart _ rfl
      · simp only [DocSession.restored, DocSession.resumeState]
        split
        · rfl
        · split <;> rfl
      · exact ⟨_, hnote _ _ ⟨_, .adopted, now⟩ rfl (hnote _ _ ⟨_, .written, now⟩ rfl hnew)⟩

lemma Sound.trusted (h : W.Sound) (hs : W.step diffy l = some W') :
    Trusted diffy W l W' := by
  obtain ⟨ht, -, s, hs', rfl⟩ := step_eq_some.1 hs
  have heff := DocSession.step_effect hs'
  constructor
  · intro hrec hne
    obtain ⟨raw, stat, v, hop, hio, -, hfold⟩ := heff.of_reconcile hrec hne
    exact ⟨raw, stat, v, hop, hio, hfold⟩
  · intro raw stat e hread he ho hh hle
    have hin := h.ring.contains ht he ho hle
    rw [hh] at hin
    rcases hread with hop | ⟨hop, v, hio⟩
    · constructor
      · by_contra hne
        obtain ⟨_, _, _, hop', -⟩ := heff.of_reconcile (by rw [hop]; rfl) hne
        rw [hop] at hop'
        cases hop'
      · rw [DocSession.step_readOk hs' hop]
        simp only [DocSession.withIo, DocState.readOk, hin, if_true]
        split <;> rfl
    · -- Such a read did not get as far as waiting to be folded in.
      have hin' := W.session.state.diskEcho.any_evict_mono _ ht hin
      exact absurd hin' (Bool.eq_false_iff.1 (h.merge raw stat v hio).1)
  · intro raw stat v hop hio hempty hlive
    by_contra hne
    obtain ⟨raw', stat', v', -, hio', hraw, hfold⟩ := heff.of_reconcile (by rw [hop]; rfl) hne
    cases hio.symm.trans hio'
    rcases (h.merge raw stat v hio).2 hempty with hnil | ⟨hd, hrecent⟩
    · exact hraw (hempty.trans hnil.symm)
    · rcases hlive with hlive | hlive
      · rw [hd] at hlive
        cases hlive
      · exact absurd (W.session.state.diskEcho.any_evict_mono _ ht hlive)
          (Bool.eq_false_iff.1 hrecent)
  · intro hop
    obtain ⟨f, hf, hle⟩ := h.absence.removing (DocSession.step_finishRemove hs' hop)
    exact ⟨f, hf, Nat.le_trans hle (elapsed_mono ht)⟩

end Watched

/-- Over every run of a session whose steps meet the condition, no step trusts the disk beyond
what it may. -/
theorem reconcile_is_trusted (ho : Opened s now)
    (he : exec (Watched.step diffy) (Watched.start s now) (ls ++ [l]) = some W')
    (hg : Along (Watched.step diffy) (fun W l => W.guarded l = true) (Watched.start s now) ls) :
    ∃ W, exec (Watched.step diffy) (Watched.start s now) ls = some W ∧ Trusted diffy W l W' := by
  obtain ⟨W, hW, hl⟩ := exec_append_eq_some.1 he
  obtain ⟨V, hV, hnil⟩ := exec_cons_eq_some.1 hl
  cases hnil
  have hsound : W.Sound := hg.invariant (fun _ _ _ hi hg hs => hi.step hg hs)
    (Watched.sound_start ho) hW
  exact ⟨W, hW, hsound.trusted hV⟩

def abcSession : DocSession := DocSession.new [] (normalizeLf "abc".toList) ⟨3, some 1⟩ 0

def abcRun (ls : List Label) : Option Watched :=
  exec (Watched.step fun _ _ _ => none) (Watched.start abcSession 0) ls

/-- A push that lands between the decision to fold an empty read in and the merge. -/
def overtakenRead : List Label :=
  [⟨0, 0, .attach 0 [] none⟩,
    ⟨millis 2000, 0, .beginReconcile⟩, ⟨millis 2000, 0, .statOk ⟨0, some 2⟩⟩,
    ⟨millis 2000, 0, .readOk [] ⟨0, some 2⟩⟩,
    ⟨millis 3000, 0, .beginReconcile⟩, ⟨millis 3000, 0, .statOk ⟨0, some 2⟩⟩,
    ⟨millis 3000, 0, .readOk [] ⟨0, some 2⟩⟩,
    ⟨millis 3000, 0, .push 0 0 [⟨"c".toList, ⟨[.retain 3, .edit 0 ["x".toList]]⟩⟩,
      ⟨"c".toList, ⟨[.retain 3, .edit 1 []]⟩⟩]⟩]

/-- Two absences with a successful stat between them, the read after it failing. -/
def interruptedAbsence : List Label :=
  [⟨0, 0, .beginReconcile⟩, ⟨0, 0, .statOk ⟨3, some 2⟩⟩, ⟨0, 0, .readFailed "denied".toList⟩,
    ⟨millis 1000, 0, .beginReconcile⟩, ⟨millis 1000, 0, .statFailed false⟩,
    ⟨millis 1100, 0, .beginReconcile⟩, ⟨millis 1100, 0, .statOk ⟨3, some 2⟩⟩,
    ⟨millis 1100, 0, .readFailed "denied".toList⟩,
    ⟨millis 1300, 0, .beginReconcile⟩, ⟨millis 1300, 0, .statFailed false⟩]

/-- An empty read takes the text of a dirty session, and an absence reaches the removal at the
instant it is first observed after a successful stat. -/
theorem empty_read_and_absence_trusted_early : Opened abcSession 0 ∧
    ((abcRun overtakenRead).map fun W =>
      (W.session.state.sessionState.isDirty, W.session.state.text)) = some (true, "abc".toList) ∧
    ((abcRun (overtakenRead ++ [⟨millis 3000, 0, .finishMerge⟩])).map fun W =>
      W.session.state.text) = some [] ∧
    ((abcRun interruptedAbsence).map fun W => W.absent) = some (some (millis 1300)) ∧
    ((abcRun (interruptedAbsence ++ [⟨millis 1300, 0, .finishRemove⟩])).isSome = true) :=
  ⟨.new _ _ _ _, by decide, by decide, by decide, by decide⟩

def echoThenAbsence : List Label :=
  [⟨0, 0, .attach 0 [] none⟩,
    ⟨millis 1, 0, .push 0 0 [⟨"c".toList, ⟨[.retain 3, .edit 0 ["x".toList]]⟩⟩]⟩,
    ⟨millis 2, 0, .beginFlush⟩, ⟨millis 3, 0, .finishFlush ⟨4, some 2⟩⟩,
    ⟨millis 4, 0, .beginReconcile⟩, ⟨millis 4, 0, .statOk ⟨4, some 3⟩⟩,
    ⟨millis 4, 0, .readOk "abcx".toList ⟨4, some 3⟩⟩,
    ⟨millis 5, 0, .beginReconcile⟩, ⟨millis 5, 0, .statFailed false⟩,
    ⟨millis 305, 0, .beginReconcile⟩, ⟨millis 305, 0, .statFailed false⟩]

theorem reconcile_is_trusted_echo : ∃ W, abcRun echoThenAbsence = some W ∧ ∃ f, W.absent = some f ∧
      corroborateAfter ≤ elapsed f (millis 305) := by
  have hg : Along (Watched.step fun _ _ _ => none) (fun W l => W.guarded l = true)
      (Watched.start abcSession 0) echoThenAbsence := by decide
  have he : (exec (Watched.step fun _ _ _ => none) (Watched.start abcSession 0)
      (echoThenAbsence ++ [⟨millis 305, 0, .finishRemove⟩])).isSome = true := by decide
  obtain ⟨W, hW, htrust⟩ :=
    reconcile_is_trusted (.new _ _ _ _) (Option.some_get he).symm hg
  exact ⟨W, hW, htrust.removal rfl⟩

end Chan
