import Mathlib

namespace Transition

variable {step : σ → α → Option σ} {C : σ → α → Prop} {I : σ → Prop}

def exec (step : σ → α → Option σ) (s : σ) (as : List α) : Option σ :=
  as.foldlM step s

@[simp] lemma exec_nil : exec step s [] = some s := rfl

@[simp] lemma exec_cons : exec step s (a :: as) = (step s a).bind fun t => exec step t as := by
  simp [exec]

lemma exec_append : exec step s (as ++ bs) = (exec step s as).bind fun t => exec step t bs := by
  simp [exec]

lemma exec_cons_eq_some :
    exec step s (a :: as) = some t ↔ ∃ u, step s a = some u ∧ exec step u as = some t := by
  rw [exec_cons, Option.bind_eq_some_iff]

lemma exec_append_eq_some : exec step s (as ++ bs) = some t ↔
      ∃ u, exec step s as = some u ∧ exec step u bs = some t := by
  rw [exec_append, Option.bind_eq_some_iff]

/-- The condition holds at every step a run takes. -/
def Along (step : σ → α → Option σ) (C : σ → α → Prop) : σ → List α → Prop
  | _, [] => True
  | s, a :: as => C s a ∧ ∀ t, step s a = some t → Along step C t as

instance Along.decidable {step : σ → α → Option σ} {C : σ → α → Prop}
    [∀ s a, Decidable (C s a)] : ∀ s as, Decidable (Along step C s as)
  | _, [] => isTrue trivial
  | s, a :: as =>
    match h : step s a with
    | none => decidable_of_iff (C s a)
        ⟨fun hc => ⟨hc, fun t ht => by rw [h] at ht; cases ht⟩, fun hl => hl.1⟩
    | some u =>
      have : Decidable (Along step C u as) := Along.decidable u as
      decidable_of_iff (C s a ∧ Along step C u as)
        ⟨fun hc => ⟨hc.1, fun t ht => by rw [h] at ht; cases ht; exact hc.2⟩,
          fun hl => ⟨hl.1, hl.2 u h⟩⟩

lemma Along.append_right (h : Along step C s (as ++ bs)) (he : exec step s as = some t) :
    Along step C t bs := by
  induction as generalizing s with
  | nil => cases he; exact h
  | cons a as ih =>
    obtain ⟨u, hu, ht⟩ := exec_cons_eq_some.1 he
    exact ih (h.2 u hu) ht

lemma Along.append_left (h : Along step C s (as ++ bs)) : Along step C s as := by
  induction as generalizing s with
  | nil => trivial
  | cons a as ih => exact ⟨h.1, fun t ht => ih (h.2 t ht)⟩

lemma Along.of_forall {P : α → Prop} (h : ∀ a ∈ as, P a) (s : σ) :
    Along step (fun _ a => P a) s as := by
  induction as generalizing s with
  | nil => trivial
  | cons a as ih =>
    exact ⟨h a List.mem_cons_self, fun t _ => ih (fun b hb => h b (List.mem_cons_of_mem a hb)) t⟩

lemma Along.mono
    (h : Along step C s as) (hCD : ∀ s a, C s a → D s a) : Along step D s as := by
  induction as generalizing s with
  | nil => trivial
  | cons a as ih => exact ⟨hCD s a h.1, fun t ht => ih (h.2 t ht)⟩

lemma Along.and (hc : Along step C s as)
    (hd : Along step D s as) : Along step (fun s a => C s a ∧ D s a) s as := by
  induction as generalizing s with
  | nil => trivial
  | cons a as ih => exact ⟨⟨hc.1, hd.1⟩, fun t ht => ih (hc.2 t ht) (hd.2 t ht)⟩

lemma Along.invariant (hstep : ∀ s a t, I s → C s a → step s a = some t → I t)
    (h : Along step C s as) (hs : I s) (he : exec step s as = some t) : I t := by
  induction as generalizing s with
  | nil => cases he; exact hs
  | cons a as ih =>
    obtain ⟨u, hu, ht⟩ := exec_cons_eq_some.1 he
    exact ih (h.2 u hu) (hstep s a u hs h.1 hu) ht

/-- Where the condition says exactly which steps keep an invariant, it holds along a run exactly
when every state the run reaches has the invariant. -/
lemma Along.iff_reached {I J : σ → Prop}
    (htotal : ∀ s a, (step s a).isSome) (hJ : ∀ s a t, J s → step s a = some t → J t)
    (hI : ∀ s a t, J s → I s → step s a = some t → (I t ↔ C s a)) (hj : J s) (hi : I s) :
    (∀ bs t, bs <+: as → exec step s bs = some t → I t) ↔ Along step C s as := by
  induction as generalizing s with
  | nil =>
    refine iff_of_true (fun bs t hb he => ?_) trivial
    rw [List.prefix_nil.1 hb] at he
    cases he
    exact hi
  | cons a as ih =>
    obtain ⟨u, hu⟩ := Option.isSome_iff_exists.1 (htotal s a)
    have huj := hJ s a u hj hu
    constructor
    · intro h
      have hui : I u := h [a] u ⟨as, rfl⟩ (by rw [exec_cons, hu]; rfl)
      refine ⟨(hI s a u hj hi hu).1 hui, fun t ht => ?_⟩
      cases hu.symm.trans ht
      refine (ih huj hui).1 fun bs t hb he => h (a :: bs) t (List.cons_prefix_cons.2 ⟨rfl, hb⟩) ?_
      exact exec_cons_eq_some.2 ⟨u, hu, he⟩
    · intro h bs t hb he
      cases bs with
      | nil => cases he; exact hi
      | cons b bs =>
        obtain ⟨rfl, htail⟩ := List.cons_prefix_cons.1 hb
        obtain ⟨v, hv, ht⟩ := exec_cons_eq_some.1 he
        cases hu.symm.trans hv
        exact (ih huj ((hI s b u hj hi hu).2 h.1)).2 (h.2 u hu) bs t htail ht

lemma exec_invariant (hstep : ∀ s a t, I s → step s a = some t → I t) (hs : I s)
    (he : exec step s as = some t) : I t := by
  induction as generalizing s with
  | nil => cases he; exact hs
  | cons a as ih =>
    obtain ⟨u, hu, ht⟩ := exec_cons_eq_some.1 he
    exact ih (hstep s a u hs hu) ht

lemma exec_relation {R : σ → σ → Prop}
    (hrefl : ∀ s, R s s) (htrans : ∀ s t u, R s t → R t u → R s u)
    (hI : ∀ s a t, I s → step s a = some t → I t)
    (hR : ∀ s a t, I s → step s a = some t → R s t) (hs : I s)
    (he : exec step s as = some t) : R s t := by
  induction as generalizing s with
  | nil => cases he; exact hrefl _
  | cons a as ih =>
    obtain ⟨u, hu, ht⟩ := exec_cons_eq_some.1 he
    exact htrans s u t (hR s a u hs hu) (ih (hI s a u hs hu) ht)

end Transition
