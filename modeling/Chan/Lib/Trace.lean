import Mathlib

namespace Trace
open List

inductive Run (R : σ → List ε → σ → Prop) : σ → List ε → σ → Prop
  | refl : Run R s [] s
  | head : R s es t → Run R t fs u → Run R s (es ++ fs) u

namespace Run

variable {R : σ → List ε → σ → Prop}

lemma single (h : R s es t) : Run R s es t := by
  rw [← append_nil es]
  exact .head h .refl

lemma trans (h : Run R s es t) (h' : Run R t fs u) : Run R s (es ++ fs) u := by
  induction h with
  | refl => exact h'
  | head hs _ ih =>
    rw [append_assoc]
    exact .head hs (ih h')

lemma invariant {I : σ → List ε → Prop}
    (hstep : ∀ {s es t log}, R s es t → I s log → I t (log ++ es)) (h : Run R s es t)
    (hI : I s log) : I t (log ++ es) := by
  induction h generalizing log with
  | refl => rwa [append_nil]
  | head hs _ ih =>
    rw [← append_assoc]
    exact ih (hstep hs hI)

lemma keeps {I : σ → Prop} (hstep : ∀ {s es t}, R s es t → I s → I t) (h : Run R s es t)
    (hI : I s) : I t := by
  induction h with
  | refl => exact hI
  | head hs _ ih => exact ih (hstep hs hI)

lemma emits {I : σ → Prop} {P : ε → Prop} (hI : ∀ {s es t}, R s es t → I s → I t)
    (hP : ∀ {s es t}, R s es t → I s → ∀ e ∈ es, P e) (h : Run R s es t) (hs : I s) :
    ∀ e ∈ es, P e := by
  induction h with
  | refl => exact fun e he => nomatch he
  | head hr _ ih =>
    intro e he
    rcases List.mem_append.1 he with he | he
    · exact hP hr hs e he
    · exact ih (hI hr hs) e he

end Run

/-- Each item of a list meets a condition on what comes before it. -/
def Guarded (P : List ε → ε → Prop) (l : List ε) : Prop := ∀ xs e ys, l = xs ++ e :: ys → P xs e

lemma Guarded.nil (P : List ε → ε → Prop) : Guarded P [] := fun xs e ys h => by
  cases xs <;> cases h

lemma Guarded.concat (h : Guarded P l) (he : P l e) :
    Guarded P (l ++ [e]) := by
  intro xs e' ys heq
  rcases ys.eq_nil_or_concat with rfl | ⟨ys', e'', rfl⟩
  · obtain ⟨rfl, hlast⟩ := append_inj' heq rfl
    cases hlast
    exact he
  · rw [concat_eq_append, ← cons_append, ← append_assoc] at heq
    exact h xs e' ys' (append_inj' heq rfl).1

lemma Guarded.append (h : Guarded P l) (hm : ∀ e ∈ m, ∀ xs, P xs e) :
    Guarded P (l ++ m) := by
  induction m generalizing l with
  | nil => rwa [append_nil]
  | cons e m ih =>
    rw [append_cons]
    exact ih (h.concat (hm e mem_cons_self l)) fun e he => hm e (mem_cons_of_mem _ he)

end Trace
