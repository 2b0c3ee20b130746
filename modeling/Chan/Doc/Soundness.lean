import Chan.Lib.Transition
import Chan.Doc.Recovery

namespace Chan
open Utf AssocMap Transition SessionState

/-- The baseline's hash is that of its content, it is not ahead of the text, and an open conflict is
of this baseline and version. -/
structure CoherentCore (c : Core) (ph : IoPhase) : Prop where
  hash : c.baseline.contentHash = contentHash c.baseline.content
  ahead : c.baseline.authorityVersion ≤ c.version
  conflict : ∀ b v, c.sessionState.conflictCore = some (b, v) →
    b = c.baseline.contentHash ∧ v = c.version
  /-- While a flush is in flight the session stays dirty and unconflicted, and the captured text
  is the text as long as the version has not moved. -/
  flushing : ∀ job, ph = .flush job → c.sessionState.isDirty = true ∧
    c.sessionState.conflictCore = none ∧ job.epoch ≤ c.version ∧
    (c.version = job.epoch → c.text = job.text)

abbrev Coherent (s : DocSession) : Prop := CoherentCore s.state.core s.io

lemma Coherent.effect (h : Coherent s) (he : Effect diffy s l c ph) : CoherentCore c ph := by
  cases he with
  | still ha hio =>
    obtain ⟨hd, hc⟩ := ha
    refine ⟨h.hash, h.ahead, fun b v hcore => h.conflict b v (hc ▸ hcore), ?_⟩
    intro job hjob
    rcases hio with hio | hio
    · obtain ⟨hd', hc', hle, ht⟩ := h.flushing job (hio ▸ hjob)
      exact ⟨hd.trans hd', hc.trans hc', hle, ht⟩
    · exact absurd hjob (hio job)
  | write hw =>
    have hpos := hw.pos
    refine ⟨h.hash, Nat.le_trans h.ahead (Nat.le_add_right _ _), ?_, ?_⟩
    · intro b v hcore
      obtain ⟨hv, w, hw'⟩ := conflictCore_markDirty _ _ _ hcore
      exact ⟨(h.conflict b w hw').1, hv⟩
    · intro job hjob
      obtain ⟨hd, hc, hle, ht⟩ := h.flushing job hjob
      refine ⟨isDirty_markDirty _ _ _,
        conflictCore_markDirty_none hc, Nat.le_trans hle (Nat.le_add_right _ _),
        ?_⟩
      intro hv
      have hv' : s.state.version + _ = job.epoch := hv
      have hle' : job.epoch ≤ s.state.version := hle
      omega
  | adopt =>
    exact ⟨rfl, Nat.le_refl _, (fun _ _ h => by cases h), (fun _ h => by cases h)⟩
  | merge =>
    refine ⟨rfl, Nat.le_refl _, ?_, (fun _ h => by cases h)⟩
    intro b v hcore
    simp only [DocState.mergedOver] at hcore
    split at hcore <;> cases hcore
  | conflict hb ha hp =>
    refine ⟨h.hash, h.ahead, ?_, (fun _ h => by cases h)⟩
    intro b v hcore
    cases hcore
    exact ⟨hb, ha⟩
  | begin hd ht hv =>
    obtain ⟨hdirty, hnone⟩ := of_dirtySince hd
    refine ⟨h.hash, h.ahead, h.conflict, ?_⟩
    intro job hjob
    cases hjob
    exact ⟨hdirty, hnone, Nat.le_of_eq hv, fun _ => ht.symm⟩
  | finish hio hop =>
    rename_i job stat
    obtain ⟨hd, hc, hle, ht⟩ := h.flushing job hio
    refine ⟨rfl, hle, ?_, (fun _ h => by cases h)⟩
    intro b v hcore
    have hnone : (if s.state.version = job.epoch then s.state.sessionState.clearAfterFlush
        else s.state.sessionState).conflictCore = none := by
      split
      · rw [conflictCore_clearAfterFlush]
        exact hc
      · exact hc
    cases hnone.symm.trans hcore
  | remove | vanish =>
    exact ⟨h.hash, h.ahead, (fun _ _ h => by cases h), (fun _ h => by cases h)⟩
  | resume hcon hio =>
    refine ⟨h.hash, h.ahead, (fun _ _ h => by cases h), ?_⟩
    intro job hjob
    rcases hio with hio | hio
    · obtain ⟨-, hc, -, -⟩ := h.flushing job (hio ▸ hjob)
      exact absurd hc (conflictCore_isSome hcon)
    · exact absurd hjob (hio job)

lemma Coherent.step (h : Coherent s) (hs : s.step diffy l = some s') :
    Coherent s' := h.effect (DocSession.step_effect hs)

lemma coherent_new : Coherent (DocSession.new path t stat now) :=
  ⟨rfl, Nat.le_refl _, nofun, nofun⟩

namespace DocSession

lemma fromRecovery_ok (h : fromRecovery p disk r now fresh = .ok s) :
    (∃ t stat, disk.read = some (t, stat) ∧ s = DocSession.new p disk.text stat now) ∨
    (contentHash (normalizeLf r.baseline.content) = r.baseline.contentHash ∧
      r.baseline.authorityVersion ≤ r.authority.version ∧
      utf8Len (normalizeLf r.authority.content) ≤ r.authority.writeBudget ∧
      ∃ id, s = restored p disk r (resumeState disk (normalizeLf r.authority.content)
        (normalizeLf r.baseline.content)
        ⟨id, contentHash (normalizeLf r.baseline.content), disk.hash, r.authority.version,
          disk.mtimeNs, disk.text, none⟩ now) now) := by
  simp only [fromRecovery] at h
  split at h
  · cases h
  · rename_i hhash
    split at h
    · cases h
    · rename_i hver
      split at h
      · cases h
      · rename_i hbud
        have hchecks := And.intro (not_not.1 hhash)
          (And.intro (Nat.le_of_not_lt hver) (Nat.le_of_not_lt hbud))
        split at h
        · rename_i hread
          cases h
          exact .inl ⟨_, _, hread, rfl⟩
        · cases h
        · cases h
          exact .inr ⟨hchecks.1, hchecks.2.1, hchecks.2.2, _, rfl⟩
        · split at h
          · cases h
          · cases h
            exact .inr ⟨hchecks.1, hchecks.2.1, hchecks.2.2, _, rfl⟩
        · rename_i hread
          cases h
          exact .inl ⟨_, _, hread, rfl⟩
        · cases h

lemma resumeState_cases : (disk.read.isSome = true ∧ disk.text = authority ∧
      resumeState disk authority baseline c now = .clean) ∨
    (¬(disk.read.isSome = true ∧ disk.text = authority) ∧ disk.read.isSome = true ∧
      disk.text = baseline ∧ resumeState disk authority baseline c now = .dirty now) ∨
    (¬(disk.read.isSome = true ∧ disk.text = authority) ∧
      ¬(disk.read.isSome = true ∧ disk.text = baseline) ∧
      resumeState disk authority baseline c now = .conflicted c) := by
  rw [resumeState]
  by_cases h₁ : disk.read.isSome = true ∧ disk.text = authority
  · exact .inl ⟨h₁.1, h₁.2, if_pos h₁⟩
  · grind

lemma Disk.text_of_read {d : Disk} (h : d.read = some (t, stat)) :
    d.text = normalizeLf t := by
  simp only [Disk.text, h]

lemma Disk.normalizeLf_text (d : Disk) : normalizeLf d.text = d.text := by
  rw [Disk.text]
  split
  · exact normalizeLf_idem
  · rfl

lemma Disk.hash_of_read {d : Disk} (h : d.read.isSome = true) : d.hash = contentHash d.text := by
  obtain ⟨r, hr⟩ := Option.isSome_iff_exists.1 h
  simp only [Disk.hash, hr]

end DocSession

lemma coherent_fromRecovery (h : DocSession.fromRecovery path disk r now fresh = .ok s) :
    Coherent s := by
  rcases DocSession.fromRecovery_ok h with ⟨t, stat, -, rfl⟩ | ⟨-, hver, -, id, rfl⟩
  · exact coherent_new
  · rcases DocSession.resumeState_cases with
      ⟨hp, -, hs⟩ | ⟨-, -, -, hs⟩ | ⟨-, -, hs⟩
    · rw [hs]
      exact ⟨DocSession.Disk.hash_of_read hp, Nat.le_refl _, nofun, nofun⟩
    · rw [hs]
      exact ⟨rfl, hver, nofun, nofun⟩
    · rw [hs]
      refine ⟨rfl, hver, ?_, nofun⟩
      intro b v hc
      cases hc
      exact ⟨rfl, rfl⟩

/-- A session that was just opened or recovered. -/
inductive Created : DocSession → Prop
  | new (path t : Text) (stat : FileStat) (now : Instant) :
      Created (DocSession.new path (normalizeLf t) stat now)
  | recovered (h : DocSession.fromRecovery path disk r now fresh = .ok s) : Created s

lemma Created.coherent (h : Created s) : Coherent s := by
  cases h with
  | new => exact coherent_new
  | recovered h => exact coherent_fromRecovery h

lemma coherent_of_exec (h : Created s)
    (he : exec (DocSession.step diffy) s ls = some s') : Coherent s' :=
  exec_invariant (fun _ _ _ hi hs => hi.step hs) h.coherent he

lemma DocSession.ioStep_path {s s' : DocSession} (h : s.ioStep diffy l = some s') :
    s'.path = s.path := by
  simp only [DocSession.ioStep] at h
  grind [DocSession.withState, DocSession.withIo]

lemma DocSession.step_path {s s' : DocSession} (h : s.step diffy l = some s') :
    s'.path = s.path := by
  simp only [DocSession.step] at h
  grind [DocSession.withState, DocSession.ioStep_path]

end Chan
