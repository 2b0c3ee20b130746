import Chan.Collab.Ledger
import Chan.Doc.Reconcile

namespace Chan
open Utf AssocMap SessionState

structure Core where
  text : Text
  version : Nat
  writeBudget : Nat
  sessionState : SessionState
  baseline : DurableBaseline

def DocState.core (st : DocState) : Core :=
  ⟨st.text, st.version, st.writeBudget, st.sessionState, st.baseline⟩

def DocState.bump (st : DocState) (t : Text) : Nat :=
  if t ≠ st.text then st.version + 1 else st.version

lemma DocState.version_le_bump (st : DocState) : st.version ≤ st.bump t := by
  rw [DocState.bump]
  split
  · exact Nat.le_succ _
  · exact Nat.le_refl _

namespace DocState

@[simp] lemma core_fan (st : DocState) (f : ServerFrame) : (st.fan f).core = st.core := rfl

@[simp] lemma core_sendTo (st : DocState) (id : Nat) (f : ServerFrame) :
    (st.sendTo id f).core = st.core := rfl

@[simp] lemma core_setState (st : DocState) (ss : SessionState) :
    (st.setState ss).core = { st.core with sessionState := ss } := rfl

lemma core_appendLogs (es : List LoggedUpdate) (st : DocState) :
    (es.foldl appendLog st).core = { st.core with version := st.version + es.length } := by
  induction es generalizing st with
  | nil => rfl
  | cons e es ih =>
    rw [List.foldl_cons, ih]
    have hv : (st.appendLog e).version = st.version + 1 := rfl
    have hc : (st.appendLog e).core = { st.core with version := st.version + 1 } := rfl
    rw [hv, hc, List.length_cons]
    simp only [Core.mk.injEq, true_and, and_true]
    exact Nat.add_right_comm _ _ _

@[simp] lemma core_commit (st : DocState) (us : List Update) (a : Applied) :
    (st.commit us a).core =
      { st.core with text := a.text, version := st.version + us.length } := by
  rw [commit, core_fan, core_appendLogs, List.length_map]
  rfl

lemma core_installDisk (t : Text) (st : DocState) :
    (st.installDisk t).core = { st.core with text := t, version := st.bump t } := by
  rw [installDisk, bump]
  split
  · rw [replaceLocked, core_commit]
    rfl
  · rename_i h
    rw [not_not] at h
    subst h
    rfl

lemma core_enterConflictLocked (st : DocState) :
    ∃ c : SessionConflict, c.baselineVersion = st.baseline.contentHash ∧
      c.authorityVersion = st.version ∧ c.pending = none ∧
      (st.enterConflictLocked dv m dc fresh).core =
        { st.core with sessionState := .conflicted c } := by
  simp only [enterConflictLocked]
  split <;> exact ⟨_, rfl, rfl, rfl, rfl⟩

def adopted (t : Text) (stat : FileStat) (v : Bool) (st : DocState) : Core :=
  ⟨t, st.bump t, semanticWriteBudget (some stat.size), .clean,
    ⟨t, contentHash t, stat.mtimeNs, st.bump t, v⟩⟩

def mergedOver (m t : Text) (stat : FileStat) (v : Bool) (since : Instant) (st : DocState) :
    Core :=
  ⟨m, st.bump m, semanticWriteBudget (some stat.size), if m = t then .clean else .dirty since,
    ⟨t, contentHash t, stat.mtimeNs, st.bump m, v⟩⟩

lemma core_applyMerged (t : Text) (stat : FileStat) (v : Bool) (m : Text) (now : Instant)
    (fresh : Nat) (st : DocState) :
    (st.applyMergeOutcomeLocked t stat v (.merged m) now fresh).core =
      st.mergedOver (normalizeLf m) t stat v (st.sessionState.dirtySince.getD now) := by
  have hc := core_installDisk (normalizeLf m) (st.noteAdopted (contentHash t) now)
  simp only [core, Core.mk.injEq] at hc
  obtain ⟨htext, hver, -, -, -⟩ := hc
  simp only [applyMergeOutcomeLocked, mergedOver, core, adoptBaseline, htext, hver, adoptToken,
    Core.mk.injEq, true_and]
  exact ⟨rfl, rfl⟩

lemma core_adoptDisk (t : Text) (stat : FileStat) (v : Bool) (now : Instant) (st : DocState) :
    ({ ((st.noteAdopted (contentHash t) now).installDisk t).adoptBaseline t stat v with
      sessionState := .clean, flushFailures := 0 } : DocState).core = st.adopted t stat v := by
  have hc := core_installDisk t (st.noteAdopted (contentHash t) now)
  simp only [core, Core.mk.injEq] at hc
  obtain ⟨htext, hver, -, -, -⟩ := hc
  simp only [core, adoptBaseline, adopted, adoptToken, htext, hver]
  rfl

lemma mergeDisk_cases (diffy : Text → Text → Text → Option Text) (raw : Text)
    (stat : FileStat) (v : Bool) (now : Instant) (fresh : Nat) (st : DocState) :
    ((st.sessionState.isDirty = false ∨ normalizeLf raw = st.text) ∧
      (st.mergeDisk diffy raw stat v now fresh).core = st.adopted (normalizeLf raw) stat v) ∨
    (st.sessionState.isDirty = true ∧ normalizeLf raw ≠ st.text ∧ ∃ m,
      mergeTextSnapshots diffy st.baseline.content st.text (normalizeLf raw) = some m ∧
      (st.mergeDisk diffy raw stat v now fresh).core =
        st.mergedOver (normalizeLf m) (normalizeLf raw) stat v
          (st.sessionState.dirtySince.getD now)) ∨
    (st.sessionState.isDirty = true ∧ normalizeLf raw ≠ st.text ∧
      mergeTextSnapshots diffy st.baseline.content st.text (normalizeLf raw) = none ∧
      (st.mergeDisk diffy raw stat v now fresh).core =
        (st.enterConflictLocked (contentHash (normalizeLf raw)) stat.mtimeNs (normalizeLf raw)
          fresh).core) := by
  simp only [mergeDisk]
  by_cases hd : st.sessionState.isDirty = true ∧ normalizeLf raw ≠ st.text
  · rw [if_pos hd]
    cases hm : mergeTextSnapshots diffy st.baseline.content st.text (normalizeLf raw) with
    | some m =>
      exact .inr (.inl ⟨hd.1, hd.2, m, rfl, core_applyMerged _ _ _ _ _ _ _⟩)
    | none => exact .inr (.inr ⟨hd.1, hd.2, rfl, rfl⟩)
  · rw [if_neg hd]
    apply Or.inl
    constructor
    · rw [not_and_or, not_not, Bool.not_eq_true] at hd
      exact hd
    · exact core_adoptDisk _ _ _ _ _

lemma core_reloadAdopt (path raw : Text) (stat : FileStat) (now : Instant) (st : DocState) :
    (st.reloadAdopt path raw stat now).core =
      st.adopted (normalizeLf raw) stat (decide ('\r' ∉ raw)) := by
  have hc := core_installDisk (normalizeLf raw) st
  simp only [core, Core.mk.injEq] at hc
  obtain ⟨htext, hver, -, -, -⟩ := hc
  have hclean : ({ ((st.installDisk (normalizeLf raw)).noteAdopted
        (contentHash (normalizeLf raw)) now).adoptBaseline (normalizeLf raw) stat
          (decide ('\r' ∉ raw)) with
      sessionState := .clean, flushNow := false, flushFailures := 0 } : DocState).core =
      st.adopted (normalizeLf raw) stat (decide ('\r' ∉ raw)) := by
    simp only [core, adoptBaseline, adopted, adoptToken, noteAdopted, htext, hver]
  rw [← hclean]
  simp only [reloadAdopt]
  split <;> split <;> rfl

end DocState

def DocSession.diskRead (s : DocSession) (l : Label) : Option (Text × FileStat) :=
  match l.op, s.io with
  | .mergeDisk raw stat _, _ => some (raw, stat)
  | .finishMerge, .merge raw stat _ => some (raw, stat)
  | .reload (.present raw stat), _ => some (raw, stat)
  | .readOk raw stat, _ => some (raw, stat)
  | _, _ => none

def DocState.folds (diffy : Text → Text → Text → Option Text) (raw : Text) (st : DocState) :
    Bool :=
  !st.sessionState.isDirty || normalizeLf raw == st.text ||
    (mergeTextSnapshots diffy st.baseline.content st.text (normalizeLf raw)).isSome

def DocSession.adopts (diffy : Text → Text → Text → Option Text) (s : DocSession) (l : Label) :
    Option (Text × FileStat) :=
  (s.diskRead l).filter fun r =>
    match l.op with
    | .readOk _ _ => s.state.sessionState.isConflicted && normalizeLf r.1 == s.state.text
    | .reload _ => true
    | _ => s.state.folds diffy r.1

inductive Writes (s : DocSession) (l : Label) : Text → Nat → Prop
  | push (hop : l.op = .push k base us) (hv : s.state.version = base) (hc : s.closed = false)
      (h : applyBatch s.state.writeBudget s.state.text s.state.len16 none us = .ok (some a)) :
      Writes s l a.text us.length
  | http (hop : l.op = .httpReplace client t pre)
      (hc : s.state.sessionState.conflictDiskMtimeNs = none)
      (hp : checkWritePreconditions s.state.flushedMtimeNs (some s.state.version) false pre =
        .ok ())
      (hne : t ≠ s.state.text) (hle : utf8Len t ≤ s.state.writeBudget) : Writes s l t 1

/-- Everything a critical section can do to the core of a session and to its IO phase. -/
inductive Effect (diffy : Text → Text → Text → Option Text) (s : DocSession) (l : Label) :
    Core → IoPhase → Prop
  | still (ha : s.state.sessionState.Alike ss) (hio : io = s.io ∨ ∀ job, io ≠ .flush job) :
      Effect diffy s l { s.state.core with sessionState := ss } io
  | write (hw : Writes s l t n) :
      Effect diffy s l
        { s.state.core with
          text := t
          version := s.state.version + n
          sessionState := s.state.sessionState.markDirty (s.state.version + n) l.now } s.io
  | adopt (hr : s.adopts diffy l = some (raw, stat))
      (hd : s.state.sessionState.isDirty = false ∨ normalizeLf raw = s.state.text ∨
        ∃ r, l.op = .reload r) :
      Effect diffy s l (s.state.adopted (normalizeLf raw) stat v) .idle
  | merge (hop : l.op.isMerge = true) (hr : s.adopts diffy l = some (raw, stat))
      (hd : s.state.sessionState.isDirty = true) (hne : normalizeLf raw ≠ s.state.text)
      (hm : mergeTextSnapshots diffy s.state.baseline.content s.state.text (normalizeLf raw) =
        some m) :
      Effect diffy s l
        (s.state.mergedOver (normalizeLf m) (normalizeLf raw) stat v
          (s.state.sessionState.dirtySince.getD l.now)) .idle
  | conflict (hb : c.baselineVersion = s.state.baseline.contentHash)
      (ha : c.authorityVersion = s.state.version) (hp : c.pending = none) :
      Effect diffy s l { s.state.core with sessionState := .conflicted c } .idle
  | begin (hd : s.state.sessionState.dirtySince.isSome = true) (ht : job.text = s.state.text)
      (hv : job.epoch = s.state.version) : Effect diffy s l s.state.core (.flush job)
  | finish (hio : s.io = .flush job) (hop : l.op = .finishFlush stat) :
      Effect diffy s l
        { s.state.core with
          writeBudget := semanticWriteBudget (some stat.size)
          sessionState := if s.state.version = job.epoch then s.state.sessionState.clearAfterFlush
            else s.state.sessionState
          baseline := ⟨job.text, contentHash job.text, stat.mtimeNs, job.epoch, true⟩ } .idle
  | remove (hd : s.state.sessionState.isDirty = false)
      (hop : l.op = .markRemoved ∨ l.op = .finishRemove) :
      Effect diffy s l
        { s.state.core with writeBudget := textWriteLimit, sessionState := .removed } .idle
  | vanish (hop : l.op = .reload .vanished) :
      Effect diffy s l
        { s.state.core with writeBudget := textWriteLimit, sessionState := .removed } .idle
  | resume (hc : s.state.sessionState.isConflicted = true)
      (hio : io = s.io ∨ ∀ job, io ≠ .flush job) :
      Effect diffy s l
        { s.state.core with
          sessionState := .dirty l.now
          baseline := { s.state.baseline with verbatim := v } } io

namespace DocState

lemma core_dropAttach (id : Nat) (closed : Bool) (st : DocState) :
    (st.dropAttach id closed).core = st.core := by
  simp only [dropAttach]
  split <;> split <;> rfl

lemma core_pull (path : Text) (id v : Nat) (st : DocState) :
    (st.pull path id v).core = st.core := by
  simp only [pull]
  split
  · split <;> rfl
  · rfl

lemma core_cursor (id a h : Nat) (st : DocState) : (st.cursor id a h).core = st.core := by
  simp only [cursor]
  split <;> rfl

lemma core_noteFlushFailure (m : Text) (st : DocState) :
    (st.noteFlushFailure m).core = st.core := by
  simp only [noteFlushFailure]
  split <;> rfl

lemma core_finishFlush (epoch : Nat) (stat : FileStat) (content : Text) (now : Instant)
    (st : DocState) :
    (st.finishFlush epoch stat content now).core =
      { st.core with
        writeBudget := semanticWriteBudget (some stat.size)
        sessionState :=
          if st.version = epoch then st.sessionState.clearAfterFlush else st.sessionState
        baseline := ⟨content, contentHash content, stat.mtimeNs, epoch, true⟩ } := by
  by_cases hv : st.version = epoch
  · have hv' : (st.adoptToken stat).version = epoch := hv
    simp only [finishFlush, core_fan, if_pos hv, if_pos hv']
    rfl
  · have hv' : ¬(st.adoptToken stat).version = epoch := hv
    simp only [finishFlush, core_fan, if_neg hv, if_neg hv']
    rfl

lemma statFailed_eq («exists» : Bool) (now : Instant) (st : DocState) :
    ∃ ss, st.sessionState.Alike ss ∧ (st.statFailed «exists» now).1 = st.setState ss ∧
      ((st.statFailed «exists» now).2 = .idle ∨ (st.statFailed «exists» now).2 = .remove) := by
  have hkeep : st = st.setState st.sessionState := rfl
  simp only [statFailed]
  split
  · apply Exists.intro
    apply And.intro _ ⟨rfl, .inl rfl⟩
    split
    · exact (alike_clearObservation _).trans
        (alike_clearConflictObservation _)
    · exact alike_clearConflictObservation _
  · split
    · split
      · exact ⟨_, .refl _, hkeep, .inr rfl⟩
      · split
        · exact ⟨_, .refl _, hkeep, .inl rfl⟩
        · exact ⟨_, alike_observeConflictContent _, rfl, .inl rfl⟩
    · split
      · split
        · exact ⟨_, .refl _, hkeep, .inr rfl⟩
        · exact ⟨_, .refl _, hkeep, .inl rfl⟩
      · exact ⟨_, alike_observeRemoval _, rfl, .inl rfl⟩

lemma statOk_eq (stat : FileStat) (forceRead : Bool) (st : DocState) :
    ∃ ss, st.sessionState.Alike ss ∧ (st.statOk stat forceRead).1 = st.setState ss ∧
      ((st.statOk stat forceRead).2 = .idle ∨ (st.statOk stat forceRead).2 = .read stat) := by
  simp only [statOk]
  by_cases hr : st.sessionState.removalObservation.isSome = true
  · simp only [if_pos hr]
    split
    · exact ⟨_, alike_clearObservation _, rfl, .inl rfl⟩
    · exact ⟨_, alike_clearObservation _, rfl, .inr rfl⟩
  · simp only [if_neg hr]
    split
    · exact ⟨_, .refl _, rfl, .inl rfl⟩
    · exact ⟨_, .refl _, rfl, .inr rfl⟩

lemma observe_eq (h : UInt64) (m : Option Int) (now : Instant) (st : DocState) :
    ∃ ss, st.sessionState.Alike ss ∧ st.observe h m now = st.setState ss := by
  simp only [observe]
  split
  · exact ⟨_, .refl _, rfl⟩
  · exact ⟨_, alike_observeContent _, rfl⟩

end DocState

namespace DocSession

variable {diffy : Text → Text → Text → Option Text} {s : DocSession} {l : Label}

lemma idle_ne_flush (job : FlushJob) : IoPhase.idle ≠ .flush job := fun h => by cases h

lemma effect_of_core (h : c = s.state.core) (hio : ph = s.io ∨ ∀ job, ph ≠ .flush job) :
    Effect diffy s l c ph := by
  subst h
  exact .still (.refl _) hio

lemma effect_enterConflict (dv : UInt64) (m : Option Int) (dc : Text) (fresh : Nat) :
    Effect diffy s l (s.state.enterConflictLocked dv m dc fresh).core .idle := by
  obtain ⟨c, hb, ha, hp, hc⟩ := s.state.core_enterConflictLocked
  rw [hc]
  exact .conflict hb ha hp

lemma adopts_of_merge (hop : l.op.isMerge = true) (hr : s.diskRead l = some (raw, stat))
    (h : s.state.folds diffy raw = true) : s.adopts diffy l = some (raw, stat) := by
  rw [adopts, hr, Option.filter_some, if_pos]
  cases hl : l.op with
  | readOk t st => simp only [hl, Op.isMerge, Bool.false_eq_true] at hop
  | reload r => rfl
  | _ => exact h

lemma effect_mergeDisk (hop : l.op.isMerge = true) (hr : s.diskRead l = some (raw, stat))
    (v : Bool) :
    Effect diffy s l (s.state.mergeDisk diffy raw stat v l.now l.fresh).core .idle := by
  rcases s.state.mergeDisk_cases diffy raw stat v l.now l.fresh with
    ⟨hd, hc⟩ | ⟨hd, hne, m, hm, hc⟩ | ⟨hd, hne, hm, hc⟩
  · rw [hc]
    apply Effect.adopt (adopts_of_merge hop hr _) (hd.imp_right .inl)
    simp only [DocState.folds, Bool.or_eq_true, Bool.not_eq_true', beq_iff_eq]
    exact .inl hd
  · rw [hc]
    apply Effect.merge hop (adopts_of_merge hop hr _) hd hne hm
    simp [DocState.folds, hm]
  · rw [hc]
    exact effect_enterConflict _ _ _ _

lemma effect_markRemoved (hop : l.op = .markRemoved ∨ l.op = .finishRemove) :
    Effect diffy s l (s.state.markRemoved l.fresh).core .idle := by
  rw [DocState.markRemoved]
  split
  · exact effect_enterConflict _ _ _ _
  · rename_i hd
    exact .remove (Bool.not_eq_true _ ▸ hd) hop

lemma effect_reconcileConflicted (hop : l.op = .readOk raw stat) (v : Bool) :
    Effect diffy s l
      (s.state.reconcileConflictedLocked (normalizeLf raw) stat (contentHash (normalizeLf raw)) v
        l.now l.fresh).core .idle := by
  simp only [DocState.reconcileConflictedLocked]
  split
  · rename_i conflict hss
    have hcon : s.state.sessionState.isConflicted = true := by rw [hss]; rfl
    split
    · apply Effect.still _ (.inr idle_ne_flush)
      rw [hss]
      exact ⟨rfl, rfl⟩
    · split
      · split
        · rename_i ht
          have hb : s.state.bump (normalizeLf raw) = s.state.version := by
            rw [DocState.bump, if_neg (not_not.2 ht)]
          have hr : s.adopts diffy l = some (raw, stat) := by
            simp [adopts, diskRead, hop, hcon, ht]
          have ha : Effect diffy s l _ _ := .adopt (v := v) hr (.inr (.inl ht))
          rw [DocState.adopted, hb] at ha
          rw [ht] at ha ⊢
          exact ha
        · split
          · exact .resume hcon (.inr idle_ne_flush)
          · exact effect_enterConflict _ _ _ _
      · split
        · exact effect_of_core rfl (.inr idle_ne_flush)
        · exact .still (alike_observeConflictContent _)
            (.inr idle_ne_flush)
  · exact effect_of_core rfl (.inr idle_ne_flush)

lemma effect_readOk (hop : l.op = .readOk raw stat) :
    Effect diffy s l (s.state.readOk raw stat l.now l.fresh).1.core
      (s.state.readOk raw stat l.now l.fresh).2 := by
  have hmerge : ∀ t st v job, IoPhase.merge t st v ≠ .flush job := fun t st v job h => by cases h
  have hobs : ∀ (h : UInt64) (m : Option Int) (st : DocState), st.core = s.state.core →
      Effect diffy s l (st.observe h m l.now).core .idle := by
    intro h m st hst
    obtain ⟨ss, ha, hc⟩ := st.observe_eq h m l.now
    have hss : st.sessionState = s.state.sessionState := congrArg Core.sessionState hst
    rw [hc, DocState.core_setState, hst]
    exact .still (hss ▸ ha) (.inr idle_ne_flush)
  simp only [DocState.readOk]
  split
  · exact effect_reconcileConflicted hop _
  · split
    · split
      · exact .still (alike_clearObservation _) (.inr idle_ne_flush)
      · exact hobs _ _ _ rfl
    · split
      · exact effect_of_core rfl (.inr (hmerge _ _ _))
      · split
        · exact hobs _ _ _ rfl
        · split
          · split
            · exact effect_of_core rfl (.inr (hmerge _ _ _))
            · exact hobs _ _ _ rfl
          · exact effect_of_core rfl (.inr (hmerge _ _ _))

lemma effect_push (hop : l.op = .push k base us)
    (h : s.state.push k base us s.closed l.now = .ok st) :
    Effect diffy s l st.core s.io := by
  simp only [DocState.push] at h
  split at h
  · cases h
  · split at h
    · cases h
    · rename_i hclosed
      split at h
      · cases h
        exact effect_of_core rfl (.inl rfl)
      · rename_i hv
        split at h
        · cases h
        · cases h
          exact effect_of_core rfl (.inl rfl)
        · rename_i a ha
          cases h
          have hw := Writes.push hop (not_not.1 hv) (Bool.not_eq_true _ ▸ hclosed) ha
          have hc := s.state.core_commit us a
          simp only [DocState.core, Core.mk.injEq] at hc
          obtain ⟨htext, hver, hbud, hss, hbase⟩ := hc
          have heff : Effect diffy s l _ _ := .write hw
          simp only [DocState.core_sendTo]
          simp only [DocState.core, DocState.markDirty, htext, hver, hbud, hss, hbase] at heff ⊢
          exact heff

lemma effect_httpReplace (hop : l.op = .httpReplace client t pre)
    (h : s.state.applyHttpReplace client t pre l.now = .ok (r, st)) :
    Effect diffy s l st.core s.io := by
  simp only [DocState.applyHttpReplace] at h
  split at h
  · cases h
    exact effect_of_core rfl (.inl rfl)
  · rename_i hcon
    split at h
    · cases h
      exact effect_of_core rfl (.inl rfl)
    · cases h
      exact effect_of_core rfl (.inl rfl)
    · rename_i hpre
      split at h
      · cases h
      · rename_i hle
        cases h
        rw [DocState.applyReplaceLocked]
        split
        · exact effect_of_core rfl (.inl rfl)
        · rename_i hne
          rw [decide_eq_false hne] at hpre
          have hw := Writes.http hop hcon hpre hne (Nat.le_of_not_lt hle)
          have hc := s.state.core_commit [⟨client, replaceDiff s.state.text t⟩] ⟨t, utf16Len t⟩
          simp only [DocState.core, Core.mk.injEq] at hc
          obtain ⟨htext, hver, hbud, hss, hbase⟩ := hc
          have heff : Effect diffy s l _ _ := .write hw
          simp only [DocState.core, DocState.markDirty, DocState.replaceLocked, htext, hver, hbud,
            hss, hbase, List.length_singleton] at heff ⊢
          exact heff

lemma effect_overwriteConflict :
    Effect diffy s l ((s.state.overwriteConflict l.now).getD s.state).core s.io := by
  rw [DocState.overwriteConflict]
  split
  · rename_i conflict hss
    apply Effect.resume _ (.inl rfl)
    rw [hss]
    rfl
  · exact effect_of_core rfl (.inl rfl)

lemma effect_ioStep (h : s.ioStep diffy l = some s') :
    Effect diffy s l s'.state.core s'.io := by
  simp only [ioStep] at h
  split at h
  · -- a flush begins
    rename_i hop hio
    simp only [DocState.beginFlush] at h
    cases hd : s.state.sessionState.dirtySince with
    | none =>
      simp only [hd] at h
      cases h
      exact effect_of_core rfl (.inl rfl)
    | some since =>
      simp only [hd] at h
      cases h
      exact .begin (by rw [hd]; rfl) rfl rfl
  · rename_i stat job hop hio
    cases h
    simp only [withIo, DocState.core_finishFlush]
    exact .finish hio hop
  · cases h
    exact effect_of_core (DocState.core_noteFlushFailure _ _) (.inr idle_ne_flush)
  · cases h
    apply effect_of_core rfl
    simp only [withIo]
    split
    · exact .inr idle_ne_flush
    · exact .inr fun job h => by cases h
  · cases h
    apply effect_of_core rfl
    simp only [withIo]
    split
    · exact .inr idle_ne_flush
    · exact .inr fun job h => by cases h
  · rename_i present forceRead hop hio
    cases h
    obtain ⟨ss, ha, hc, hio⟩ := s.state.statFailed_eq present l.now
    simp only [withIo, hc, DocState.core_setState]
    apply Effect.still ha
    rcases hio with hio | hio <;> exact .inr fun job h => by rw [hio] at h; cases h
  · rename_i stat forceRead hop hio
    cases h
    obtain ⟨ss, ha, hc, hio⟩ := s.state.statOk_eq stat forceRead
    simp only [withIo, hc, DocState.core_setState]
    apply Effect.still ha
    rcases hio with hio | hio <;> exact .inr fun job h => by rw [hio] at h; cases h
  · cases h
    simp only [withIo, DocState.readFailed]
    split
    · exact effect_of_core rfl (.inr idle_ne_flush)
    · exact effect_enterConflict _ _ _ _
  · rename_i hop hio
    cases h
    exact effect_readOk hop
  · cases h
    exact effect_of_core rfl (.inr idle_ne_flush)
  · cases h
    exact effect_of_core rfl (.inr idle_ne_flush)
  · rename_i hop hio
    cases h
    apply effect_mergeDisk (by rw [hop]; rfl)
    simp only [diskRead, hop, hio]
  · rename_i hop hio
    cases h
    exact effect_markRemoved (.inr hop)
  · rename_i hop hio
    cases h
    simp only [withState, hio]
    apply effect_mergeDisk (by rw [hop]; rfl)
    simp only [diskRead, hop]
  · rename_i hop hio
    cases h
    simp only [withState, hio]
    exact effect_markRemoved (.inl hop)
  · rename_i hop hio
    cases h
    simp only [withState, hio, DocState.core_reloadAdopt]
    apply Effect.adopt
    · simp [adopts, diskRead, hop]
    · exact .inr (.inr ⟨_, hop⟩)
  · cases h
    exact effect_of_core rfl (.inl rfl)
  · rename_i hop hio
    cases h
    have heff : Effect diffy s l _ _ := .vanish hop
    simp only [withState, hio, DocState.reloadVanished]
    split <;> exact heff
  · cases h
    exact effect_of_core rfl (.inl rfl)
  · cases h

lemma step_effect (h : s.step diffy l = some s') :
    Effect diffy s l s'.state.core s'.io := by
  simp only [step] at h
  split at h
  · split at h
    · cases h
    · cases h
      exact effect_of_core rfl (.inl rfl)
  · split at h
    · cases h
      exact effect_of_core (DocState.core_dropAttach _ _ _) (.inl rfl)
    · cases h
  · rename_i hop
    split at h
    · split at h
      · rename_i hp
        cases h
        exact effect_push hop hp
      · cases h
        exact effect_of_core rfl (.inl rfl)
    · cases h
  · split at h
    · cases h
      exact effect_of_core (DocState.core_pull _ _ _ _) (.inl rfl)
    · cases h
  · split at h
    · cases h
      exact effect_of_core (DocState.core_cursor _ _ _ _) (.inl rfl)
    · cases h
  · rename_i hop
    split at h
    · rename_i hp
      cases h
      exact effect_httpReplace hop hp
    · cases h
      exact effect_of_core rfl (.inl rfl)
  · cases h
    exact effect_overwriteConflict
  · cases h
    exact effect_of_core rfl (.inl rfl)
  · exact effect_ioStep h

end DocSession

lemma Writes.pos (h : Writes s l t n) : 0 < n := by
  cases h with
  | push hop hv hc ha =>
    apply List.length_pos_iff.2
    intro hnil
    subst hnil
    cases ha
  | http => exact Nat.one_pos

lemma Effect.version_text (h : Effect diffy s l c ph) :
    s.state.version ≤ c.version ∧ (c.version = s.state.version → c.text = s.state.text) := by
  have hbump : ∀ t, s.state.bump t = s.state.version → t = s.state.text := by
    intro t ht
    rw [DocState.bump] at ht
    split at ht
    · exact absurd ht (Nat.succ_ne_self _)
    · exact not_not.1 ‹_›
  cases h with
  | write hw =>
    apply And.intro (Nat.le_add_right _ _)
    intro hv
    have hpos := hw.pos
    have hv' : s.state.version + _ = s.state.version := hv
    omega
  | adopt | merge => exact ⟨s.state.version_le_bump, hbump _⟩
  | _ => exact ⟨Nat.le_refl _, fun _ => rfl⟩

lemma DocSession.step_version_le {s s' : DocSession} (h : s.step diffy l = some s') :
    s.state.version ≤ s'.state.version := (DocSession.step_effect h).version_text.1

lemma DocSession.step_text_eq {s s' : DocSession} (h : s.step diffy l = some s')
    (hv : s'.state.version = s.state.version) : s'.state.text = s.state.text :=
  (DocSession.step_effect h).version_text.2 hv

end Chan
