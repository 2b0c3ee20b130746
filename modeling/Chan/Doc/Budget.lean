import Chan.Doc.Soundness

namespace Chan
open Utf AssocMap Transition

/-- The text fits the budget of the file it was last in line with. -/
def Core.Within (c : Core) : Prop := utf8Len c.text ≤ c.writeBudget

namespace DocSession

def covered (diffy : Text → Text → Text → Option Text) (s : DocSession) (l : Label) : Bool :=
  match l.op, s.io with
  | .finishFlush stat, .flush job => decide (utf8Len job.text ≤ stat.size)
  | _, _ => (s.adopts diffy l).all fun r => decide (utf8Len (normalizeLf r.1) ≤ r.2.size)

def mergeFits (diffy : Text → Text → Text → Option Text) (s : DocSession) (raw : Text)
    (stat : FileStat) : Bool :=
  !s.state.sessionState.isDirty || normalizeLf raw == s.state.text ||
    (mergeTextSnapshots diffy s.state.baseline.content s.state.text (normalizeLf raw)).all
      fun m => decide (utf8Len (normalizeLf m) ≤ semanticWriteBudget (some stat.size))

/-- The text fits the budget that a step is about to set: a push that landed during a flush, a
merged text, and the text of a file that is gone are the ones that may not. -/
def fits (diffy : Text → Text → Text → Option Text) (s : DocSession) (l : Label) : Bool :=
  match l.op, s.io with
  | .finishFlush stat, .flush job => s.state.version == job.epoch ||
    decide (utf8Len s.state.text ≤ semanticWriteBudget (some stat.size))
  | .markRemoved, _ =>
    s.state.sessionState.isDirty || decide (utf8Len s.state.text ≤ textWriteLimit)
  | .finishRemove, _ =>
    s.state.sessionState.isDirty || decide (utf8Len s.state.text ≤ textWriteLimit)
  | .reload .vanished, _ => decide (utf8Len s.state.text ≤ textWriteLimit)
  | op, _ => !op.isMerge || (s.diskRead l).all fun r => s.mergeFits diffy r.1 r.2

end DocSession

lemma applyBatch_le (hs : ∀ a, acc = some a → utf8Len a.text ≤ b)
    (h : applyBatch b text n acc us = .ok (some a)) : utf8Len a.text ≤ b := by
  induction us generalizing acc with
  | nil =>
    cases h
    exact hs a rfl
  | cons u us ih =>
    simp only [applyBatch] at h
    split at h
    · cases h
    · rename_i a' ha
      apply ih _ h
      intro a'' he
      cases he
      exact (applyWithLimit_eq_ok ha).2

lemma Writes.le_budget (h : Writes s l t n) : utf8Len t ≤ s.state.writeBudget := by
  cases h with
  | push hop hv hc ha => exact applyBatch_le (fun a h => by cases h) ha
  | http hop hc hp hne hle => exact hle

lemma DocSession.diskRead_of_adopts {s : DocSession} (h : s.adopts diffy l = some r) :
    s.diskRead l = some r := by
  exact (Option.filter_eq_some_iff.1 h).1

lemma DocSession.covered_adopts {s : DocSession} (h : s.covered diffy l = true)
    (hr : s.adopts diffy l = some (raw, stat)) : utf8Len (normalizeLf raw) ≤ stat.size := by
  simp only [DocSession.covered] at h
  split at h
  · rename_i hop hio
    have hread := DocSession.diskRead_of_adopts hr
    simp only [DocSession.diskRead, hop, reduceCtorEq] at hread
  · rw [hr] at h
    exact of_decide_eq_true h

lemma DocSession.fits_merge {s : DocSession} (h : s.fits diffy l = true)
    (hop : l.op.isMerge = true) (hr : s.diskRead l = some (raw, stat))
    (hd : s.state.sessionState.isDirty = true) (hne : normalizeLf raw ≠ s.state.text)
    (hm : mergeTextSnapshots diffy s.state.baseline.content s.state.text (normalizeLf raw) =
      some m) : utf8Len (normalizeLf m) ≤ semanticWriteBudget (some stat.size) := by
  have hfit : s.mergeFits diffy raw stat = true := by
    cases hl : l.op with
    | mergeDisk t st v | finishMerge => simpa [DocSession.fits, hl, hr, Op.isMerge] using h
    | _ => simp only [hl, Op.isMerge, Bool.false_eq_true] at hop
  simpa [DocSession.mergeFits, hd, hm, beq_eq_false_iff_ne.2 hne] using hfit

lemma Core.Within.effect (hi : Coherent s) (h : s.state.core.Within)
    (he : Effect diffy s l c ph) (hcov : s.covered diffy l = true)
    (hfit : s.fits diffy l = true) : c.Within := by
  cases he with
  | write hw => exact hw.le_budget
  | adopt hr hd => exact Nat.le_trans (DocSession.covered_adopts hcov hr) size_le_budget
  | merge hop hr hd hne hm =>
    exact DocSession.fits_merge hfit hop (DocSession.diskRead_of_adopts hr) hd hne hm
  | finish hio hop =>
    rename_i job stat
    obtain ⟨-, -, -, ht⟩ := hi.flushing job hio
    simp only [DocSession.covered, DocSession.fits, hop, hio, Bool.or_eq_true, beq_iff_eq,
      decide_eq_true_eq] at hcov hfit
    rcases hfit with hv | hle
    · -- Nothing landed during the flush: the text is the one whose size the stat gives.
      have htext : s.state.text = job.text := ht hv
      have hlen : utf8Len s.state.text ≤ stat.size := by rw [htext]; exact hcov
      exact Nat.le_trans hlen size_le_budget
    · exact hle
  | remove hd hop =>
    rcases hop with hop | hop
    · simp only [DocSession.fits, hop, hd, Bool.false_or, decide_eq_true_eq] at hfit
      exact hfit
    · simp only [DocSession.fits, hop, hd, Bool.false_or, decide_eq_true_eq] at hfit
      exact hfit
  | vanish hop =>
    simp only [DocSession.fits, hop, decide_eq_true_eq] at hfit
    exact hfit
  | _ => exact h

inductive Seeded : DocSession → Prop
  | new (h : utf8Len (normalizeLf t) ≤ stat.size) :
      Seeded (DocSession.new path (normalizeLf t) stat now)
  | recovered (h : DocSession.fromRecovery path disk r now fresh = .ok s)
      (hd : ∀ t stat, disk.read = some (t, stat) → utf8Len (normalizeLf t) ≤ stat.size) :
      Seeded s

lemma Seeded.created (h : Seeded s) : Created s := by
  cases h with
  | new => exact .new _ _ _ _
  | recovered h => exact .recovered h

lemma Seeded.within (h : Seeded s) : s.state.core.Within := by
  cases h with
  | new h => exact Nat.le_trans h size_le_budget
  | recovered h hd =>
    rcases DocSession.fromRecovery_ok h with ⟨t, stat, hread, rfl⟩ | ⟨-, -, hle, id, rfl⟩
    · have htext : _ = normalizeLf t := DocSession.Disk.text_of_read hread
      rw [htext]
      exact Nat.le_trans (hd t stat hread) size_le_budget
    · exact hle

/-- Over every run in which each stat taken over covers its text, and each step meets the
condition, the text stays within the write budget. -/
theorem text_within_budget {s s' : DocSession} (hs : Seeded s)
    (he : exec (DocSession.step diffy) s ls = some s')
    (hmet : Along (DocSession.step diffy)
      (fun s l => s.covered diffy l = true ∧ s.fits diffy l = true) s ls) :
    utf8Len s'.state.text ≤ s'.state.writeBudget := by
  have hstep : ∀ t l u, Coherent t ∧ t.state.core.Within →
      t.covered diffy l = true ∧ t.fits diffy l = true → t.step diffy l = some u →
      Coherent u ∧ u.state.core.Within := by
    intro t l u hi hl hu
    exact ⟨hi.1.step hu, hi.2.effect hi.1 (DocSession.step_effect hu) hl.1 hl.2⟩
  exact (hmet.invariant hstep ⟨hs.created.coherent, hs.within⟩ he).2

lemma DocState.markRemoved_clean (st : DocState)
    (h : st.sessionState.isDirty = false) :
    (st.markRemoved fresh).writeBudget = textWriteLimit ∧
      (st.markRemoved fresh).text = st.text := by
  rw [DocState.markRemoved, h, if_neg Bool.false_ne_true]
  exact ⟨rfl, rfl⟩

lemma DocSession.new_text (path t : Text) (stat : FileStat) (now : Instant) :
    (DocSession.new path t stat now).state.text = t := rfl

def legacySession : DocSession :=
  DocSession.new [] (normalizeLf (List.replicate (textWriteLimit + 1) 'a'))
    ⟨textWriteLimit + 1, none⟩ 0

/-- The file of a clean legacy session vanishes, and the text it keeps is over the budget. -/
theorem removed_outgrows_budget : Seeded legacySession ∧
    Along (DocSession.step fun _ _ _ => none)
      (fun s l => s.covered (fun _ _ _ => none) l = true) legacySession [⟨0, 0, .markRemoved⟩] ∧
    ∃ s, exec (DocSession.step fun _ _ _ => none) legacySession [⟨0, 0, .markRemoved⟩] = some s ∧
      s.state.writeBudget < utf8Len s.state.text := by
  have hlf : normalizeLf (List.replicate (textWriteLimit + 1) 'a') =
      List.replicate (textWriteLimit + 1) 'a' := by
    apply normalizeLf_of_not_mem
    intro h
    exact absurd (List.eq_of_mem_replicate h) (by decide)
  have hlen : utf8Len (normalizeLf (List.replicate (textWriteLimit + 1) 'a')) =
      textWriteLimit + 1 := by
    rw [hlf, utf8Len_replicate]
    exact Nat.mul_one _
  have hcov : legacySession.covered (fun _ _ _ => none) ⟨0, 0, .markRemoved⟩ = true := by
    simp [DocSession.covered, DocSession.adopts, DocSession.diskRead]
  have hstep : legacySession.step (fun _ _ _ => none) ⟨0, 0, .markRemoved⟩ =
      some (legacySession.withState (legacySession.state.markRemoved 0)) := rfl
  refine ⟨.new (Nat.le_of_eq hlen), ?_, _, exec_cons_eq_some.2 ⟨_, hstep, rfl⟩, ?_⟩
  · apply And.intro hcov
    intro t _
    trivial
  · obtain ⟨hb, ht⟩ := legacySession.state.markRemoved_clean rfl
    rw [DocSession.withState, hb, ht, legacySession, DocSession.new_text, hlen]
    exact Nat.lt_add_one textWriteLimit

/-- A push during a flush, a merge of changes to different lines, and a removal. -/
def mergedThenRemoved : List Label :=
  [⟨0, 0, .attach 0 [] none⟩,
    ⟨1, 0, .push 0 0 [⟨"c".toList, ⟨[.edit 0 ["x".toList], .retain 5]⟩⟩]⟩,
    ⟨2, 0, .beginFlush⟩,
    ⟨3, 0, .push 0 1 [⟨"c".toList, ⟨[.edit 0 ["y".toList], .retain 6]⟩⟩]⟩,
    ⟨4, 0, .finishFlush ⟨6, some 1⟩⟩, ⟨5, 0, .mergeDisk "xa\nb\ncd".toList ⟨7, some 2⟩ true⟩,
    ⟨6, 0, .beginFlush⟩, ⟨7, 0, .finishFlush ⟨8, some 3⟩⟩, ⟨8, 0, .markRemoved⟩]

def mergedLines : Text := "yxa\nb\ncd".toList

theorem text_within_budget_merged :
    let s := (exec (DocSession.step fun _ _ _ => some mergedLines)
      (DocSession.new [] (normalizeLf "a\nb\nc".toList) ⟨5, some 0⟩ 0)
      mergedThenRemoved).get (by decide)
    s.state.text = mergedLines ∧ utf8Len s.state.text ≤ s.state.writeBudget := by
  intro s
  have hmet : Along (DocSession.step fun _ _ _ => some mergedLines)
      (fun s l => s.covered (fun _ _ _ => some mergedLines) l = true ∧
        s.fits (fun _ _ _ => some mergedLines) l = true)
      (DocSession.new [] (normalizeLf "a\nb\nc".toList) ⟨5, some 0⟩ 0) mergedThenRemoved := by
    decide
  exact ⟨by decide, text_within_budget (.new (by decide)) (Option.some_get _).symm hmet⟩

end Chan
