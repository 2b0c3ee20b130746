import Chan.Doc.Soundness

namespace Chan
open Utf AssocMap Transition

def Op.lfOnly : Op → Bool
  | .push _ _ us => us.all fun u => u.changes.inserted.all fun line => decide ('\r' ∉ line)
  | .httpReplace _ t _ => decide ('\r' ∉ t)
  | _ => true

lemma lf_applyBatch (hus : ∀ u ∈ us, ∀ line ∈ u.changes.inserted, '\r' ∉ line) (ht : '\r' ∉ text)
    (hacc : ∀ a, acc = some a → '\r' ∉ a.text)
    (h : applyBatch b text n acc us = .ok (some a)) : '\r' ∉ a.text := by
  induction us generalizing acc with
  | nil =>
    cases h
    exact hacc a rfl
  | cons u us ih =>
    simp only [applyBatch] at h
    split at h
    · cases h
    · rename_i a' ha
      apply ih (fun v hv => hus v (List.mem_cons_of_mem u hv)) _ h
      intro a'' he hr
      cases he
      rcases mem_applyWithLimit ha hr with hd | hn | ⟨line, hl, hline⟩
      · cases hcase : acc with
        | none => rw [hcase] at hd; exact ht hd
        | some a₀ => rw [hcase] at hd; exact hacc a₀ hcase hd
      · exact absurd hn (by decide)
      · exact hus u List.mem_cons_self line hl hline

lemma Writes.lf (h : Writes s l t n) (hl : l.op.lfOnly = true) (ht : '\r' ∉ s.state.text) :
    '\r' ∉ t := by
  cases h with
  | push hop hv hc ha =>
    simp only [hop, Op.lfOnly, List.all_eq_true, decide_eq_true_eq] at hl
    exact lf_applyBatch hl ht (fun a h => by cases h) ha
  | http hop hc hp hne hle =>
    simpa [hop, Op.lfOnly] using hl

lemma lf_effect (h : '\r' ∉ s.state.text) (he : Effect diffy s l c ph)
    (hl : l.op.lfOnly = true) : '\r' ∉ c.text := by
  cases he with
  | write hw => exact hw.lf hl h
  | adopt | merge => exact not_mem_normalizeLf
  | _ => exact h

lemma Created.lf (h : Created s) : '\r' ∉ s.state.text := by
  cases h with
  | new => exact not_mem_normalizeLf
  | recovered h =>
    rcases DocSession.fromRecovery_ok h with ⟨t, stat, hread, rfl⟩ | ⟨-, -, -, id, rfl⟩
    · rw [DocSession.Disk.text_of_read hread]
      exact not_mem_normalizeLf
    · exact not_mem_normalizeLf

/-- Over every run in which no client sends a carriage return, the text never holds one. -/
theorem text_without_cr {s s' : DocSession} (hc : Created s)
    (he : exec (DocSession.step diffy) s ls = some s') (hlf : ∀ l ∈ ls, l.op.lfOnly = true) :
    '\r' ∉ s'.state.text := by
  have hstep : ∀ t l u, '\r' ∉ t.state.text → l.op.lfOnly = true →
      DocSession.step diffy t l = some u → '\r' ∉ u.state.text := by
    intro t l u ht hl hu
    exact lf_effect ht (DocSession.step_effect hu) hl
  exact Along.invariant (I := fun t => '\r' ∉ t.state.text) hstep (Along.of_forall hlf s) hc.lf he

/-- A pushed line is stored as it was sent. -/
theorem pushed_cr_is_stored : let s := (exec (DocSession.step fun _ _ _ => none)
      (DocSession.new [] (normalizeLf []) ⟨0, none⟩ 0)
      [⟨0, 0, .attach 0 [] none⟩,
        ⟨1, 0, .push 0 0 [⟨"c".toList, ⟨[.edit 0 ["\r".toList]]⟩⟩]⟩]).get (by decide)
    '\r' ∈ s.state.text := by
  decide

theorem text_without_cr_pushed : let s := (exec (DocSession.step fun _ _ _ => none)
      (DocSession.new [] (normalizeLf "a\r\n".toList) ⟨3, none⟩ 0)
      [⟨0, 0, .attach 0 [] none⟩,
        ⟨1, 0, .push 0 0 [⟨"c".toList, ⟨[.retain 2, .edit 0 ["b".toList, []]]⟩⟩]⟩,
        ⟨2, 0, .mergeDisk "a\r\nb\r\n".toList ⟨6, none⟩ false⟩]).get (by decide)
    s.state.text = "a\nb\n".toList ∧ '\r' ∉ s.state.text := by
  intro s
  exact ⟨by decide, text_without_cr (.new [] "a\r\n".toList ⟨3, none⟩ 0)
    (Option.some_get _).symm (by decide)⟩

end Chan
