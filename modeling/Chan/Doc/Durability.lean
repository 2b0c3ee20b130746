import Chan.Doc.Soundness

namespace Chan
open Utf AssocMap Transition

def Saved (c : Core) : Prop :=
  c.sessionState.isDirty = false → c.text = c.baseline.content

lemma Saved.effect (hi : Coherent s) (h : Saved s.state.core) (he : Effect diffy s l c ph)
    (hv : l.op ≠ .reload .vanished) : Saved c := by
  intro hd
  cases he with
  | still ha hio => exact h (ha.1.symm.trans hd)
  | write hw => exact absurd (SessionState.isDirty_markDirty _ _ _) (hd ▸ Bool.false_ne_true)
  | adopt => rfl
  | merge =>
    simp only [DocState.mergedOver] at hd ⊢
    split at hd
    · assumption
    · cases hd
  | conflict => cases hd
  | begin => exact h hd
  | finish hio hop =>
    rename_i job stat
    obtain ⟨(hdirty : s.state.sessionState.isDirty = true), -, -, ht⟩ := hi.flushing job hio
    by_cases hver : s.state.version = job.epoch
    · exact ht hver
    · grind
  | remove hd' => exact h hd'
  | vanish hop => exact absurd hop hv
  | resume => cases hd

lemma saved_new : Saved (DocSession.new path t stat now).state.core := fun _ => rfl

lemma Created.saved (h : Created s) : Saved s.state.core := by
  cases h with
  | new => exact saved_new
  | recovered h =>
    rcases DocSession.fromRecovery_ok h with ⟨t, stat, -, rfl⟩ | ⟨-, -, -, id, rfl⟩
    · exact saved_new
    · rcases DocSession.resumeState_cases with
        ⟨hp, ht, hs⟩ | ⟨-, -, -, hs⟩ | ⟨-, -, hs⟩
      · rw [hs]
        exact fun _ => ht.symm
      · rw [hs]
        exact nofun
      · rw [hs]
        exact nofun

/-- No unflushed edit is ever considered saved: over every run without a vanished reload, a
session that is not dirty holds exactly its durable baseline. -/
theorem clean_text_is_durable {s s' : DocSession} (hc : Created s)
    (he : exec (DocSession.step diffy) s ls = some s')
    (hv : ∀ l ∈ ls, l.op ≠ .reload .vanished)
    (hd : s'.state.sessionState.isDirty = false) :
    s'.state.text = s'.state.baseline.content := by
  have hstep : ∀ t l u, Coherent t ∧ Saved t.state.core → l.op ≠ .reload .vanished →
      DocSession.step diffy t l = some u → Coherent u ∧ Saved u.state.core := by
    intro t l u hi hl hs
    exact ⟨hi.1.step hs, Saved.effect hi.1 hi.2 (DocSession.step_effect hs) hl⟩
  have hend := (Along.of_forall hv s).invariant hstep ⟨hc.coherent, hc.saved⟩ he
  exact hend.2 hd

def overtakenFlush : List Label :=
  [⟨0, 0, .attach 0 [] none⟩,
    ⟨1, 0, .push 0 0 [⟨"c".toList, ⟨[.retain 1, .edit 0 ["b".toList]]⟩⟩]⟩,
    ⟨2, 0, .beginFlush⟩,
    ⟨3, 0, .push 0 1 [⟨"c".toList, ⟨[.retain 2, .edit 0 ["c".toList]]⟩⟩]⟩,
    ⟨4, 0, .finishFlush ⟨2, some 1⟩⟩, ⟨5, 0, .beginFlush⟩, ⟨6, 0, .finishFlush ⟨3, some 2⟩⟩]

theorem clean_text_is_durable_overtaken : let s := (exec (DocSession.step fun _ _ _ => none)
      (DocSession.new [] (normalizeLf "a".toList) ⟨1, some 0⟩ 0) overtakenFlush).get (by decide)
    s.state.text = "abc".toList ∧ s.state.text = s.state.baseline.content := by
  intro s
  exact ⟨by decide, clean_text_is_durable (.new [] "a".toList ⟨1, some 0⟩ 0)
    (Option.some_get _).symm (by decide) (by decide)⟩

end Chan
