import Mathlib

namespace Fallible

abbrev Prog (σ ε α : Type) := ExceptT ε (StateM σ) α

def exec (x : Prog σ ε α) (s : σ) : Except ε α × σ := (ExceptT.run x).run s

/-- From a state that meets `P` the program returns in one that meets `Q`, or ends early in one that
meets `E`. -/
def Triple (P : σ → Prop) (x : Prog σ ε α) (Q : α → σ → Prop) (E : ε → σ → Prop) : Prop :=
  ∀ s, P s → match exec x s with
    | (.ok a, t) => Q a t
    | (.error e, t) => E e t

section Rules

variable {P : σ → Prop} {Q : α → σ → Prop} {E : ε → σ → Prop}

lemma exec_bind (x : Prog σ ε α) (f : α → Prog σ ε β) (s : σ) :
    exec (x >>= f) s = match exec x s with
      | (.ok a, t) => exec (f a) t
      | (.error e, t) => (.error e, t) := by
  change ((ExceptT.run x >>= fun r => ExceptT.bindCont f r) : StateM σ _).run s = _
  change (ExceptT.bindCont f ((ExceptT.run x).run s).1).run ((ExceptT.run x).run s).2 = _
  unfold exec
  obtain ⟨_ | a, t⟩ := (ExceptT.run x).run s <;> rfl

lemma Triple.pure (h : ∀ s, P s → Q a s) : Triple P (pure a : Prog σ ε α) Q E := h

lemma Triple.throw (h : ∀ s, P s → E e s) : Triple P (throw e : Prog σ ε α) Q E := h

lemma Triple.modify {Q : Unit → σ → Prop} (h : ∀ s, P s → Q () (g s)) :
    Triple P (modify g : Prog σ ε Unit) Q E := h

lemma Triple.get {Q : σ → σ → Prop} (h : ∀ s, P s → Q s s) :
    Triple P (MonadState.get : Prog σ ε σ) Q E := h

lemma Triple.bind
    (hx : Triple P x Q E) (hf : ∀ a, Triple (Q a) (f a) R E) : Triple P (x >>= f) R E := by
  intro s hs
  have hxs := hx s hs
  rw [exec_bind]
  cases hr : exec x s with
  | mk r t =>
    rw [hr] at hxs
    cases r with
    | error e => exact hxs
    | ok a => exact hf a t hxs

lemma Triple.get_bind
    (h : ∀ t, P t → Triple (fun s => s = t) (f t) Q E) : Triple P (MonadState.get >>= f) Q E :=
  fun s hs => h s hs s rfl

lemma Triple.mono
    (h : Triple P x Q E) (hP : ∀ s, P' s → P s) (hQ : ∀ a s, Q a s → Q' a s)
    (hE : ∀ e s, E e s → E' e s) : Triple P' x Q' E' := by
  intro s hs
  have hxs := h s (hP s hs)
  cases hr : exec x s with
  | mk r t =>
    rw [hr] at hxs
    cases r with
    | error e => exact hE e t hxs
    | ok a => exact hQ a t hxs

lemma Triple.pre (h : Triple P x Q E) (hP : ∀ s, P' s → P s) :
    Triple P' x Q E :=
  fun s hs => h s (hP s hs)

lemma Triple.ite [Decidable c] (hx : c → Triple P x Q E)
    (hy : ¬c → Triple P y Q E) : Triple P (if c then x else y) Q E := by
  split
  case isTrue h => exact hx h
  case isFalse h => exact hy h

end Rules

inductive Fate where
  | ok
  | failBefore
  | failAfter
  | crashBefore
  | crashAfter
  deriving DecidableEq

inductive Exit (ρ : Type) where
  | failed
  | crashed
  | returned (r : ρ)
  deriving DecidableEq

def perform (fate : Fate) (effect : σ → σ) : Prog σ (Exit ρ) Unit :=
  match fate with
  | .ok => modify effect
  | .failBefore => throw .failed
  | .failAfter => do modify effect; throw .failed
  | .crashBefore => throw .crashed
  | .crashAfter => do modify effect; throw .crashed

lemma Triple.perform {E : Exit ρ → σ → Prop}
    (hok : ∀ s, P s → fate = .ok → Q () (g s)) (hbefore : ∀ s, P s → E .failed s ∧ E .crashed s)
    (hfail : ∀ s, P s → fate = .failAfter → E .failed (g s))
    (hcrash : ∀ s, P s → E .crashed (g s)) : Triple P (perform fate g) Q E := by
  cases fate with
  | ok => exact .modify fun s hs => hok s hs rfl
  | failBefore => exact .throw fun s hs => (hbefore s hs).1
  | failAfter => exact .bind (.modify fun s hs => hfail s hs rfl) fun _ => .throw fun _ h => h
  | crashBefore => exact .throw fun s hs => (hbefore s hs).2
  | crashAfter => exact .bind (.modify hcrash) fun _ => .throw fun _ h => h

end Fallible
