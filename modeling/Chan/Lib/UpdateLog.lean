import Mathlib

namespace UpdateLog
open List

variable {σ υ : Type*}

def replay (ap : σ → υ → Option σ) (s : σ) (us : List υ) : Option σ := us.foldlM ap s

@[simp] lemma replay_nil (ap : σ → υ → Option σ) (s : σ) : replay ap s [] = some s := rfl

@[simp] lemma replay_cons (ap : σ → υ → Option σ) (s : σ) (u : υ) (us : List υ) :
    replay ap s (u :: us) = (ap s u).bind fun t => replay ap t us := by
  simp [replay]

lemma replay_append (ap : σ → υ → Option σ) (s : σ) (us vs : List υ) :
    replay ap s (us ++ vs) = (replay ap s us).bind fun t => replay ap t vs := by
  simp [replay]

def points (ap : σ → υ → Option σ) : Nat → σ → List υ → List (Nat × σ)
  | _, _, [] => []
  | v, s, u :: us =>
    match ap s u with
    | none => []
    | some t => (v + 1, t) :: points ap (v + 1) t us

lemma points_version (h : (w, t) ∈ points ap v s us) :
    v < w ∧ w ≤ v + us.length := by
  induction us generalizing v s with
  | nil => simp only [points, not_mem_nil] at h
  | cons u us ih =>
    simp only [points] at h
    cases hu : ap s u with
    | none => simp only [hu, not_mem_nil] at h
    | some s' =>
      simp only [hu, mem_cons, Prod.mk.injEq] at h
      rw [length_cons]
      rcases h with ⟨rfl, _⟩ | h
      · omega
      · have := ih h
        omega

lemma replay_of_mem_points (hr : replay ap s us = some s')
    (h : (w, t) ∈ points ap v s us) : replay ap t (us.drop (w - v)) = some s' := by
  induction us generalizing v s with
  | nil => simp only [points, not_mem_nil] at h
  | cons u us ih =>
    simp only [points] at h
    cases hu : ap s u with
    | none => simp only [hu, not_mem_nil] at h
    | some s₁ =>
      simp only [hu, mem_cons, Prod.mk.injEq] at h
      rw [replay_cons, hu, Option.bind_some] at hr
      rcases h with ⟨rfl, rfl⟩ | h
      · simpa using hr
      · have hv := points_version h
        have he : w - v = w - (v + 1) + 1 := by omega
        rw [he, drop_succ_cons]
        exact ih hr h

lemma mem_points_last (hr : replay ap s us = some s') (hne : us ≠ [])
    (v : Nat) : (v + us.length, s') ∈ points ap v s us := by
  induction us generalizing v s with
  | nil => contradiction
  | cons u us ih =>
    rw [replay_cons] at hr
    cases hu : ap s u with
    | none => rw [hu] at hr; cases hr
    | some t =>
      rw [hu, Option.bind_some] at hr
      simp only [points, hu, mem_cons]
      cases us with
      | nil =>
        rw [replay_nil, Option.some.injEq] at hr
        subst hr
        exact .inl rfl
      | cons w us =>
        have hm := ih hr (cons_ne_nil w us) (v + 1)
        rw [Nat.add_right_comm] at hm
        exact .inr hm

/-- From every past state still inside the window, the retained updates lead to the current one. -/
def Faithful (ap : σ → υ → Option σ) (hist : List (Nat × σ)) (base : Nat) (log : List υ)
    (s : σ) : Prop :=
  ∀ v t, (v, t) ∈ hist → v ≤ base + log.length ∧
    (base ≤ v → replay ap t (log.drop (v - base)) = some s)

lemma Faithful.start (ap : σ → υ → Option σ) (v : Nat) (s : σ) :
    Faithful ap [(v, s)] v [] s := by
  intro w t h
  simp only [mem_singleton, Prod.mk.injEq] at h
  obtain ⟨rfl, rfl⟩ := h
  exact ⟨Nat.le_add_right _ _, fun _ => by rw [drop_nil, replay_nil]⟩

lemma Faithful.append (h : Faithful ap hist base log s)
    (hr : replay ap s us = some s') :
    Faithful ap (hist ++ points ap (base + log.length) s us) base (log ++ us) s' := by
  intro v t hv
  rw [length_append]
  rcases List.mem_append.1 hv with hv | hv
  · obtain ⟨hle, hrep⟩ := h v t hv
    refine ⟨by omega, fun hb => ?_⟩
    rw [drop_append_of_le_length (by omega), replay_append, hrep hb]
    exact hr
  · obtain ⟨hlt, hle⟩ := points_version hv
    refine ⟨by omega, fun _ => ?_⟩
    have he : v - base = log.length + (v - (base + log.length)) := by omega
    rw [he, drop_length_add_append]
    exact replay_of_mem_points hr hv

lemma Faithful.evict (h : Faithful ap hist base log s)
    (hk : k ≤ log.length) : Faithful ap hist (base + k) (log.drop k) s := by
  intro v t hv
  obtain ⟨hle, hrep⟩ := h v t hv
  rw [length_drop, drop_drop]
  refine ⟨by omega, fun hb => ?_⟩
  have he : k + (v - (base + k)) = v - base := by omega
  rw [he]
  exact hrep (by omega)

lemma Faithful.eq_of_current (h : Faithful ap hist base log s)
    (hm : (base + log.length, t) ∈ hist) : t = s := by
  have hr := (h _ t hm).2 (Nat.le_add_right _ _)
  rw [Nat.add_sub_cancel_left, drop_length, replay_nil, Option.some.injEq] at hr
  exact hr

inductive Frame (σ υ : Type*)
  | snapshot (version : Nat) (state : σ)
  | updates (base : Nat) (us : List υ)
  | other

structure Follower (σ : Type*) where
  state : σ
  version : Nat

def Follower.receive (ap : σ → υ → Option σ) (f : Follower σ) :
    Frame σ υ → Option (Follower σ)
  | .snapshot v s => some ⟨s, v⟩
  | .updates b us =>
    if b = f.version then (replay ap f.state us).map fun s => ⟨s, f.version + us.length⟩
    else none
  | .other => some f

def Follower.drain (ap : σ → υ → Option σ) (f : Follower σ) (fs : List (Frame σ υ)) :
    Option (Follower σ) := fs.foldlM (Follower.receive ap) f

@[simp] lemma Follower.drain_nil (ap : σ → υ → Option σ) (f : Follower σ) :
    f.drain ap [] = some f := rfl

lemma Follower.drain_append (ap : σ → υ → Option σ) (f : Follower σ)
    (fs gs : List (Frame σ υ)) :
    f.drain ap (fs ++ gs) = (f.drain ap fs).bind fun g => g.drain ap gs := by
  simp [Follower.drain]

lemma Follower.drain_singleton (ap : σ → υ → Option σ) (f : Follower σ) (x : Frame σ υ) :
    f.drain ap [x] = f.receive ap x := by
  simp only [Follower.drain, foldlM_cons, foldlM_nil, Option.bind_eq_bind,
    Option.pure_def]
  cases f.receive ap x <;> rfl

structure Synced (ap : σ → υ → Option σ) (hist : List (Nat × σ)) (f : Follower σ)
    (fs : List (Frame σ υ)) (s : σ) (v : Nat) : Prop where
  drained : f.drain ap fs = some ⟨s, v⟩
  passed : ∀ k, k ≠ 0 → ∀ g, f.drain ap (fs.take k) = some g → (g.version, g.state) ∈ hist

lemma Synced.mono
    (h : Synced ap hist f fs s v) (hs : ∀ p ∈ hist, p ∈ hist') : Synced ap hist' f fs s v :=
  ⟨h.drained, fun k hk g hg => hs _ (h.passed k hk g hg)⟩

lemma Synced.snoc (h : Synced ap hist f fs s v)
    (hx : Follower.receive ap ⟨s, v⟩ x = some ⟨s', v'⟩) (hm : (v', s') ∈ hist) :
    Synced ap hist f (fs ++ [x]) s' v' := by
  have hd : f.drain ap (fs ++ [x]) = some ⟨s', v'⟩ := by
    rw [Follower.drain_append, h.drained, Option.bind_some, Follower.drain_singleton, hx]
  refine ⟨hd, fun k hk g hg => ?_⟩
  by_cases hlen : k ≤ fs.length
  · rw [take_append_of_le_length hlen] at hg
    exact h.passed k hk g hg
  · rw [take_of_length_le (by simp only [length_append, length_singleton]; omega),
      hd] at hg
    cases hg
    exact hm

lemma Synced.snapshot (h : Synced ap hist f fs s v)
    (hm : (v', s') ∈ hist) : Synced ap hist f (fs ++ [.snapshot v' s']) s' v' :=
  h.snoc rfl hm

lemma Synced.updates (h : Synced ap hist f fs s v)
    (hr : replay ap s us = some s') (hm : (v + us.length, s') ∈ hist) :
    Synced ap hist f (fs ++ [.updates v us]) s' (v + us.length) := by
  refine h.snoc ?_ hm
  simp [Follower.receive, hr]

lemma Synced.other (h : Synced ap hist f fs s v)
    (hm : (v, s) ∈ hist) : Synced ap hist f (fs ++ [.other]) s v :=
  h.snoc rfl hm

lemma Synced.others {ap : σ → υ → Option σ} (h : Synced ap hist f fs s v)
    (hm : (v, s) ∈ hist) (hgs : ∀ x ∈ gs, x = .other) : Synced ap hist f (fs ++ gs) s v := by
  induction gs generalizing fs with
  | nil => rwa [append_nil]
  | cons x gs ih =>
    have hx : x = .other := hgs x (mem_cons_self)
    subst hx
    rw [← singleton_append, ← append_assoc]
    apply ih (h.other hm)
    intro y hy
    exact hgs y (mem_cons_of_mem _ hy)

lemma Synced.start (ap : σ → υ → Option σ) (hist : List (Nat × σ)) (s : σ) (v : Nat)
    (hm : (v, s) ∈ hist) : Synced ap hist ⟨s, v⟩ [] s v := by
  refine ⟨rfl, fun k _ g hg => ?_⟩
  simp only [take_nil, Follower.drain_nil, Option.some.injEq] at hg
  subst hg
  exact hm

lemma Synced.fresh (ap : σ → υ → Option σ) (hist : List (Nat × σ)) (f : Follower σ)
    (hm : (v, s) ∈ hist) : Synced ap hist f [.snapshot v s] s v := by
  have hd : f.drain ap [.snapshot v s] = some ⟨s, v⟩ := Follower.drain_singleton ap f _
  refine ⟨hd, fun k hk g hg => ?_⟩
  obtain ⟨k, rfl⟩ := Nat.exists_eq_succ_of_ne_zero hk
  rw [take_succ_cons, take_nil, hd] at hg
  cases hg
  exact hm

end UpdateLog
