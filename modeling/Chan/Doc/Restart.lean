import Chan.Collab.Stored
import Chan.Doc.Soundness

namespace Chan
open Utf AssocMap Transition

/-- The restarted session has the text, the version and the unsaved work. -/
structure Restores (s : DocSession) (disk : DocSession.Disk) (s' : DocSession) : Prop where
  text : s'.state.text = s.state.text
  version : s'.state.version = s.state.version
  lifecycle :
    (s'.state.sessionState = .clean ∧ disk.read.isSome = true ∧ disk.text = s.state.text) ∨
    (∃ since, s'.state.sessionState = .dirty since ∧ disk.read.isSome = true ∧
      disk.text = s.state.baseline.content) ∨
    (∃ c, s'.state.sessionState = .conflicted c ∧
      ¬(disk.read.isSome = true ∧ disk.text = s.state.text) ∧
      ¬(disk.read.isSome = true ∧ disk.text = s.state.baseline.content) ∧
      c.diskContent = disk.text ∧ c.diskVersion = disk.hash ∧ c.diskMtimeNs = disk.mtimeNs)

/-- The baseline survives the line ending normalisation of a restart: its hash does, and its
content does unless it turns into the text itself. -/
def BaselineSurvives (s : DocSession) : Prop :=
  contentHash (normalizeLf s.state.baseline.content) = contentHash s.state.baseline.content ∧
    (normalizeLf s.state.baseline.content = s.state.baseline.content ∨
      normalizeLf s.state.baseline.content = s.state.text)

namespace DocSession

lemma fromRecovery_eq
    (hhash : contentHash (normalizeLf r.baseline.content) = r.baseline.contentHash)
    (hver : r.baseline.authorityVersion ≤ r.authority.version)
    (hbud : utf8Len (normalizeLf r.authority.content) ≤ r.authority.writeBudget)
    (hl : r.lifecycle = .dirty ∨ ∃ c, r.lifecycle = .conflicted c ∧
      c.baselineVersion = r.baseline.contentHash ∧ c.authorityVersion = r.authority.version) :
    ∃ x, fromRecovery p disk r now fresh = .ok (restored p disk r
      (resumeState disk (normalizeLf r.authority.content) (normalizeLf r.baseline.content)
        ⟨x, contentHash (normalizeLf r.baseline.content), disk.hash, r.authority.version,
          disk.mtimeNs, disk.text, none⟩ now) now) := by
  simp only [fromRecovery]
  rw [if_neg (not_not.2 hhash), if_neg (Nat.not_lt_of_le hver), if_neg (Nat.not_lt_of_le hbud)]
  rcases hl with hl | ⟨c, hl, hb, ha⟩
  · rw [hl]
    exact ⟨_, rfl⟩
  · rw [hl]
    simp only [hb, ha, hhash, ne_eq, not_true_eq_false, or_self, if_false]
    exact ⟨_, rfl⟩

end DocSession

lemma Coherent.recordable (h : Coherent s)
    (hl : s.recoveryRecord.lifecycle = .dirty ∨ ∃ c, s.recoveryRecord.lifecycle = .conflicted c) :
    s.recoveryRecord.lifecycle = .dirty ∨ ∃ c, s.recoveryRecord.lifecycle = .conflicted c ∧
      c.baselineVersion = s.recoveryRecord.baseline.contentHash ∧
      c.authorityVersion = s.recoveryRecord.authority.version := by
  rcases hl with hl | ⟨c, hl⟩
  · exact .inl hl
  · apply Or.inr
    have hc : s.state.sessionState.recoveryState = .conflicted c := hl
    cases hs : s.state.sessionState with
    | conflicted d =>
      rw [hs] at hc
      cases hc
      obtain ⟨hb, ha⟩ := h.conflict d.baselineVersion d.authorityVersion
        (congrArg SessionState.conflictCore hs)
      exact ⟨_, hl, hb, ha⟩
    | observing since o =>
      rw [hs] at hc
      cases since <;> cases hc
    | _ => rw [hs] at hc; cases hc

section
variable (hi : Coherent s) (ht : '\r' ∉ s.state.text)
  (hv : s.recoveryRecord.validateIdentity .document s.path = .ok ())
  (hl : s.recoveryRecord.lifecycle = .dirty ∨ ∃ c, s.recoveryRecord.lifecycle = .conflicted c)
include hi ht hv hl

lemma restored_eq (hh : contentHash (normalizeLf s.state.baseline.content) =
      contentHash s.state.baseline.content) :
    ∃ s' x, DocSession.fromRecovery s.path disk s.recoveryRecord now fresh = .ok s' ∧
      s'.state.text = s.state.text ∧ s'.state.version = s.state.version ∧
      s'.state.sessionState = DocSession.resumeState disk s.state.text
        (normalizeLf s.state.baseline.content)
        ⟨x, contentHash (normalizeLf s.state.baseline.content), disk.hash, s.state.version,
          disk.mtimeNs, disk.text, none⟩ now := by
  have hlf : normalizeLf s.state.text = s.state.text := normalizeLf_of_not_mem ht
  have hbud : utf8Len (normalizeLf s.state.text) ≤ s.state.writeBudget := by
    rw [hlf]
    exact RecoveryRecord.fits_of_valid hv
  obtain ⟨x, hx⟩ := DocSession.fromRecovery_eq (p := s.path)
    (hh.trans hi.hash.symm) hi.ahead hbud (hi.recordable hl)
  refine ⟨_, x, hx, hlf, rfl, ?_⟩
  rw [← hlf]
  rfl

lemma restores_of_survives (hb : BaselineSurvives s) (disk : DocSession.Disk) (now : Instant)
    (fresh : Nat) :
    ∃ s', DocSession.fromRecovery s.path disk s.recoveryRecord now fresh = .ok s' ∧
      Restores s disk s' := by
  obtain ⟨s', x, hok, htext, hver, hstate⟩ := restored_eq hi ht hv hl hb.1
  refine ⟨s', hok, htext, hver, ?_⟩
  rw [hstate]
  rcases DocSession.resumeState_cases with ⟨hp, hd, hs⟩ | ⟨hn, hp, hd, hs⟩ | ⟨hn, hn', hs⟩
  · exact .inl ⟨hs, hp, hd⟩
  · apply Or.inr
    apply Or.inl
    refine ⟨now, hs, hp, ?_⟩
    rcases hb.2 with hsame | htext'
    · exact hd.trans hsame
    · exact absurd ⟨hp, hd.trans htext'⟩ hn
  · apply Or.inr
    apply Or.inr
    refine ⟨_, hs, hn, ?_, rfl, rfl, rfl⟩
    -- A text read from disk is normalised, so a baseline it equals is its own normal form.
    rintro ⟨hp, hd⟩
    apply hn'
    apply And.intro hp
    rw [← hd, disk.normalizeLf_text]

lemma survives_of_restores
    (h : ∀ disk now fresh, ∃ s', DocSession.fromRecovery s.path disk s.recoveryRecord now fresh =
      .ok s' ∧ Restores s disk s') : BaselineSurvives s := by
  have hh : contentHash (normalizeLf s.state.baseline.content) =
      contentHash s.state.baseline.content := by
    obtain ⟨s', hok, -⟩ := h ⟨none, none⟩ 0 0
    rcases DocSession.fromRecovery_ok hok with ⟨t, stat, hread, -⟩ | ⟨hhash, -⟩
    · cases hread
    · exact hhash.trans hi.hash
  apply And.intro hh
  by_cases hsame : normalizeLf s.state.baseline.content = s.state.baseline.content
  · exact .inl hsame
  · apply Or.inr
    by_contra hne
    -- The file holds the normal form of the baseline, and counts as the baseline itself.
    obtain ⟨s', hok, hres⟩ :=
      h ⟨some (normalizeLf s.state.baseline.content, ⟨0, none⟩), none⟩ 0 0
    obtain ⟨s'', x, hok', -, -, hstate⟩ := restored_eq hi ht hv hl hh
    have hs : s' = s'' := Except.ok.inj (hok.symm.trans hok')
    subst hs
    have hdisk : (⟨some (normalizeLf s.state.baseline.content, ⟨0, none⟩), none⟩ :
        DocSession.Disk).text = normalizeLf s.state.baseline.content := normalizeLf_idem
    rcases hres.lifecycle with ⟨-, -, hd⟩ | ⟨_, -, -, hd⟩ | ⟨c, hs', -, -, -⟩
    · exact hne (hdisk.symm.trans hd)
    · exact hsame (hdisk.symm.trans hd)
    · rw [hstate] at hs'
      rcases DocSession.resumeState_cases with
        ⟨-, hd, -⟩ | ⟨-, -, -, hs''⟩ | ⟨-, hn, -⟩
      · exact hne (hdisk.symm.trans hd)
      · rw [hs''] at hs'
        cases hs'
      · exact hn ⟨rfl, hdisk⟩

end

/-- Restart loses nothing exactly when the baseline survives normalisation: for every state a
session reaches whose text has no carriage return, and whose record is storable and has unsaved
work in it. -/
theorem restart_restores_iff {s₀ s : DocSession} (hc : Created s₀)
    (he : exec (DocSession.step diffy) s₀ ls = some s) (ht : '\r' ∉ s.state.text)
    (hv : s.recoveryRecord.validateIdentity .document s.path = .ok ())
    (hl : s.recoveryRecord.lifecycle = .dirty ∨
      ∃ c, s.recoveryRecord.lifecycle = .conflicted c) :
    (∀ disk now fresh, ∃ s', DocSession.fromRecovery s.path disk s.recoveryRecord now fresh =
      .ok s' ∧ Restores s disk s') ↔ BaselineSurvives s := by
  have hi := coherent_of_exec hc he
  exact ⟨survives_of_restores hi ht hv hl, restores_of_survives hi ht hv hl⟩

/-- A carriage return that a client pushed is flushed, and pushed away again after that. -/
def flushedCr : List Label :=
  [⟨0, 0, .attach 0 [] none⟩, ⟨1, 0, .push 0 0 [⟨"c".toList, ⟨[.edit 0 ["\r".toList]]⟩⟩]⟩,
    ⟨2, 0, .beginFlush⟩, ⟨3, 0, .finishFlush ⟨1, some 1⟩⟩,
    ⟨4, 0, .push 0 1 [⟨"c".toList, ⟨[.edit 1 []]⟩⟩]⟩]

/-- The unsaved deletion cannot be restored from a record that could be stored. -/
theorem flushed_cr_is_not_restored : let s := (exec (DocSession.step fun _ _ _ => none)
      (DocSession.new "a.md".toList (normalizeLf []) ⟨0, none⟩ 0) flushedCr).get (by decide)
    '\r' ∉ s.state.text ∧ s.recoveryRecord.lifecycle = .dirty ∧
      s.recoveryRecord.validateIdentity .document s.path = .ok () ∧
      ∀ disk now fresh, DocSession.fromRecovery s.path disk s.recoveryRecord now fresh =
        .error "document recovery baseline hash mismatch".toList := by
  intro s
  refine ⟨by decide, by decide, by decide, ?_⟩
  intro disk now fresh
  have hh : contentHash (normalizeLf s.recoveryRecord.baseline.content) ≠
      s.recoveryRecord.baseline.contentHash := by decide
  rw [DocSession.fromRecovery]
  exact if_pos hh

theorem restart_restores_iff_pushed : let s := (exec (DocSession.step fun _ _ _ => none)
      (DocSession.new "a.md".toList (normalizeLf "a".toList) ⟨1, none⟩ 0)
      [⟨0, 0, .attach 0 [] none⟩,
        ⟨1, 0, .push 0 0 [⟨"c".toList, ⟨[.retain 1, .edit 0 ["b".toList]]⟩⟩]⟩]).get (by decide)
    s.state.text = "ab".toList ∧
      ∀ disk now fresh, ∃ s', DocSession.fromRecovery s.path disk s.recoveryRecord now fresh =
        .ok s' ∧ Restores s disk s' := by
  intro s
  have hb : BaselineSurvives s := ⟨by decide, .inl (by decide)⟩
  exact ⟨by decide, (restart_restores_iff (.new "a.md".toList "a".toList ⟨1, none⟩ 0)
    (Option.some_get _).symm (by decide) (by decide) (.inl (by decide))).2 hb⟩

end Chan
