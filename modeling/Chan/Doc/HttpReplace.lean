import Chan.Lib.Transition
import Chan.Doc.Effects

namespace Chan
open Utf AssocMap Transition

def Follows (a b : DocSession) : Prop :=
  a.state.version ≤ b.state.version ∧
    (b.state.version = a.state.version → b.state.text = a.state.text)

lemma Follows.trans (h : Follows a b) (h' : Follows b c) : Follows a c := by
  apply And.intro (Nat.le_trans h.1 h'.1)
  intro hv
  have hb : b.state.version = a.state.version := Nat.le_antisymm (hv ▸ h'.1) h.1
  rw [h'.2 (hv.trans hb.symm), h.2 hb]

lemma follows_of_exec (h : exec (DocSession.step diffy) a ls = some b) :
    Follows a b := by
  apply exec_relation (I := fun _ => True) (R := Follows) _ _ _ _ trivial h
  · intro s
    exact ⟨Nat.le_refl _, fun _ => rfl⟩
  · intro s t u
    exact Follows.trans
  · intro s l t _ _
    trivial
  · intro s l t _ hs
    exact (DocSession.step_effect hs).version_text

lemma checkWritePreconditions_ok (h : checkWritePreconditions m (some v) false pre = .ok ()) :
    pre.authorityVersion = some v := by
  simp only [checkWritePreconditions, Bool.false_eq_true, if_false] at h
  split at h
  · cases h
  · rename_i expected he
    split at h
    · cases h
    · rename_i hv
      rw [he, not_not.1 hv]

lemma DocState.applyReplaceLocked_version (client t : Text) (now : Instant) (st : DocState)
    (h : t ≠ st.text) : (st.applyReplaceLocked client t now).version = st.version + 1 := by
  rw [DocState.applyReplaceLocked, if_neg h]
  exact congrArg Core.version
    (st.core_commit [⟨client, replaceDiff st.text t⟩] ⟨t, utf16Len t⟩)

lemma DocState.applyHttpReplace_applied {st st' : DocState}
    (h : st.applyHttpReplace client t pre now = .ok (.applied, st'))
    (hne : st'.text ≠ st.text) :
    pre.authorityVersion = some st.version ∧ st.version < st'.version := by
  simp only [DocState.applyHttpReplace] at h
  split at h
  · cases h
  · split at h
    · cases h
    · cases h
    · rename_i hpre
      split at h
      · cases h
      · cases h
        by_cases ht : t = st.text
        · rw [DocState.applyReplaceLocked, if_pos ht] at hne
          exact absurd rfl hne
        · rw [decide_eq_false ht] at hpre
          apply And.intro (checkWritePreconditions_ok hpre)
          rw [DocState.applyReplaceLocked_version client t now st ht]
          exact Nat.lt_succ_self _

lemma DocState.applyHttpReplace_refused {st st' : DocState}
    (h : st.applyHttpReplace client t pre now = .ok (r, st')) (hr : r ≠ .applied) : st' = st := by
  grind [DocState.applyHttpReplace]

/-- A PUT never overwrites a change its author did not see: what it replaces is the text that
every read at the version it names returned, a text only changes under a new version, and a PUT
that is not applied changes nothing. -/
theorem put_replaces_what_was_read {a b : DocSession}
    (h : exec (DocSession.step diffy) a ls = some b) :
    (∀ st', b.state.applyHttpReplace client t pre now = .ok (.applied, st') →
      st'.text ≠ b.state.text →
      pre.authorityVersion = some b.state.version ∧ b.state.version < st'.version) ∧
    (a.state.httpReadView.authorityVersion = b.state.version →
      a.state.httpReadView.content = b.state.text) ∧
    (∀ l c, b.step diffy l = some c → c.state.text ≠ b.state.text →
      b.state.version < c.state.version) ∧
    (∀ r st', b.state.applyHttpReplace client t pre now = .ok (r, st') → r ≠ .applied →
      st' = b.state) := by
  refine ⟨?_, ?_, ?_, ?_⟩
  · intro st' hput hne
    exact DocState.applyHttpReplace_applied hput hne
  · intro hv
    exact ((follows_of_exec h).2 hv.symm).symm
  · intro l c hs hne
    apply Nat.lt_of_le_of_ne (DocSession.step_version_le hs)
    intro hv
    exact hne (DocSession.step_text_eq hs hv.symm)
  · intro r st' hput hr
    exact DocState.applyHttpReplace_refused hput hr

def pushedAndFlushed : List Label :=
  [⟨0, 0, .attach 0 [] none⟩,
    ⟨1, 0, .push 0 0 [⟨"c".toList, ⟨[.retain 1, .edit 0 ["b".toList]]⟩⟩]⟩,
    ⟨2, 0, .beginFlush⟩, ⟨3, 0, .finishFlush ⟨2, some 1⟩⟩]

/-- A PUT at version one replaces exactly what a read at version one returned. -/
theorem put_replaces_what_was_read_flushed : let a := (exec (DocSession.step fun _ _ _ => none)
      (DocSession.new [] "a".toList ⟨1, some 0⟩ 0) (pushedAndFlushed.take 2)).get (by decide)
    let b := (exec (DocSession.step fun _ _ _ => none) a (pushedAndFlushed.drop 2)).get (by decide)
    a.state.httpReadView.authorityVersion = 1 ∧
      a.state.httpReadView.content = b.state.text ∧
      (b.state.applyHttpReplace "$http".toList "xy".toList ⟨none, some 1, some 1⟩ 4).toOption.map
        (fun r => (r.1, r.2.text)) = some (.applied, "xy".toList) ∧
      ∀ st', b.state.applyHttpReplace "$http".toList "xy".toList ⟨none, some 1, some 1⟩ 4 =
          .ok (.applied, st') → st'.text ≠ b.state.text → 1 < st'.version := by
  intro a b
  obtain ⟨hput, hview, -, -⟩ := put_replaces_what_was_read
    (Option.some_get (by decide : (exec (DocSession.step fun _ _ _ => none) a
      (pushedAndFlushed.drop 2)).isSome = true)).symm
  exact ⟨by decide, hview (by decide), by decide, fun st' hs hne => (hput st' hs hne).2⟩

end Chan
