import Mathlib

namespace History

def history (step : σ → α → σ) : σ → List α → List (σ × α)
  | _, [] => []
  | s, a :: as => (s, a) :: history step (step s a) as

variable {step : σ → α → σ}

lemma history_eq_append (h : history step s as = xs ++ ys) :
    ∃ bs cs, as = bs ++ cs ∧ xs = history step s bs ∧ ys = history step (bs.foldl step s) cs := by
  induction xs generalizing s as with
  | nil => exact ⟨[], as, rfl, rfl, h.symm⟩
  | cons x xs ih =>
    cases as with
    | nil => cases h
    | cons a as =>
      obtain ⟨rfl, htail⟩ := List.cons.inj h
      obtain ⟨bs, cs, rfl, rfl, rfl⟩ := ih htail
      exact ⟨a :: bs, cs, rfl, rfl, rfl⟩

lemma history_invariant {P : List (σ × α) → σ → Prop} (h₀ : P [] s)
    (hstep : ∀ {xs t a}, P xs t → P (xs ++ [(t, a)]) (step t a)) :
    P (history step s as) (as.foldl step s) := by
  have hgen xs t (h : P xs t) :
      P (xs ++ history step t as) (as.foldl step t) := by
    induction as generalizing xs t with
    | nil => rwa [history, List.append_nil]
    | cons a as ih =>
      rw [history, List.append_cons]
      exact ih _ _ (hstep h)
  exact hgen [] s h₀

lemma history_invariant_at {P : List (σ × α) → σ → Prop} (h₀ : P [] s)
    (hstep : ∀ {xs t a}, P xs t → P (xs ++ [(t, a)]) (step t a)) {x : σ × α}
    (h : history step s as = xs ++ x :: ys) : P xs x.1 := by
  obtain ⟨bs, cs, rfl, rfl, htail⟩ := history_eq_append h
  cases cs with
  | nil => cases htail
  | cons c cs =>
    obtain ⟨rfl, -⟩ := List.cons.inj htail
    exact history_invariant h₀ hstep

lemma history_after (h : history step s as = xs ++ x :: (ys ++ zs)) :
    ∃ bs, ys = history step (step x.1 x.2) bs := by
  obtain ⟨bs, cs, rfl, rfl, htail⟩ := history_eq_append h
  cases cs with
  | nil => cases htail
  | cons c cs =>
    obtain ⟨rfl, hrest⟩ := List.cons.inj htail
    obtain ⟨ds, es, rfl, hys, -⟩ := history_eq_append hrest.symm
    exact ⟨ds, hys⟩

end History
