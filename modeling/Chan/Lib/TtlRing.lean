import Mathlib

namespace TtlRing
open List

variable {alive : Nat → ε → Bool} {ε : Type*}

def evict (alive : Nat → ε → Bool) (now : Nat) (r : List ε) : List ε := r.filter (alive now)

def popFull (cap : Nat) : List ε → List ε
  | [] => []
  | e :: r => if cap ≤ (e :: r).length then popFull cap r else e :: r

def note (alive : Nat → ε → Bool) (cap now : Nat) (e : ε) (r : List ε) : List ε :=
  popFull cap (evict alive now r) ++ [e]

def Covers (alive : Nat → ε → Bool) (cap : Nat) (notes r : List ε) (now : Nat) : Prop :=
  ∃ older recent, notes = older ++ recent ∧ (older = [] ∨ cap ≤ recent.length) ∧
    r = recent.filter (alive now)

lemma Covers.empty (alive : Nat → ε → Bool) (cap now : Nat) : Covers alive cap [] [] now :=
  ⟨[], [], rfl, .inl rfl, rfl⟩

lemma Covers.evict (halive : ∀ t u e, t ≤ u → alive u e = true → alive t e = true)
    (h : Covers alive cap notes r t) (ht : t ≤ u) :
    Covers alive cap notes (evict alive u r) u := by
  obtain ⟨older, recent, hn, hc, rfl⟩ := h
  apply Exists.intro older
  apply Exists.intro recent
  apply And.intro hn
  apply And.intro hc
  rw [TtlRing.evict, filter_filter]
  apply filter_congr
  intro e _
  cases hu : alive u e with
  | true => rw [halive t u e ht hu]; rfl
  | false => rfl

/-- Popping from the front only shortens the stretch, and stops before the last `cap - 1`. -/
lemma popFull_filter (hc : older = [] ∨ cap ≤ recent.length + 1) :
    ∃ older' recent', older ++ recent = older' ++ recent' ∧
      (older' = [] ∨ cap ≤ recent'.length + 1) ∧
      popFull cap (recent.filter p) = recent'.filter p := by
  induction recent generalizing older with
  | nil => exact ⟨older, [], rfl, hc, rfl⟩
  | cons e recent ih =>
    have hassoc : older ++ e :: recent = (older ++ [e]) ++ recent := by
      rw [append_assoc, singleton_append]
    cases he : p e with
    | true =>
      rw [filter_cons_of_pos he, popFull]
      split
      · rename_i hfull
        have hlen : cap ≤ recent.length + 1 := by
          apply Nat.le_trans hfull
          exact Nat.succ_le_succ (length_filter_le p recent)
        rw [hassoc]
        exact ih (.inr hlen)
      · exact ⟨older, e :: recent, rfl, hc, (filter_cons_of_pos he).symm⟩
    | false =>
      have hfilter : (e :: recent).filter p = recent.filter p :=
        filter_cons_of_neg (by rw [he]; exact Bool.false_ne_true)
      by_cases hfull : cap ≤ (recent.filter p).length
      · rw [hfilter, hassoc]
        apply ih
        exact .inr (Nat.le_succ_of_le (Nat.le_trans hfull (length_filter_le p recent)))
      · apply Exists.intro older
        apply Exists.intro (e :: recent)
        apply And.intro rfl
        apply And.intro hc
        rw [hfilter]
        cases hr : recent.filter p with
        | nil => rfl
        | cons x xs =>
          rw [hr] at hfull
          rw [popFull, if_neg hfull]

lemma Covers.note (halive : ∀ t u e, t ≤ u → alive u e = true → alive t e = true)
    (h : Covers alive cap notes r t) (ht : t ≤ u) (he : alive u e = true) :
    Covers alive cap (notes ++ [e]) (note alive cap u e r) u := by
  obtain ⟨older, recent, hn, hc, hr⟩ := h.evict halive ht
  have hc' : older = [] ∨ cap ≤ recent.length + 1 := by
    rcases hc with hc | hc
    · exact .inl hc
    · exact .inr (Nat.le_succ_of_le hc)
  obtain ⟨older', recent', hn', hc'', hp⟩ := popFull_filter (p := alive u) hc'
  apply Exists.intro older'
  apply Exists.intro (recent' ++ [e])
  apply And.intro (by rw [hn, hn', append_assoc])
  apply And.intro (by rwa [length_append, length_singleton])
  rw [TtlRing.note, hr, hp, filter_append, filter_cons_of_pos he, filter_nil]

lemma Covers.mem (h : Covers alive cap notes r t)
    (he : e ∈ notes.drop (notes.length - cap)) (ha : alive t e = true) : e ∈ r := by
  obtain ⟨older, recent, rfl, hc, rfl⟩ := h
  apply List.mem_filter.2
  apply And.intro _ ha
  rcases hc with rfl | hc
  · rw [nil_append] at he
    exact mem_of_mem_drop he
  · rw [length_append, drop_append, mem_append] at he
    rcases he with he | he
    · rw [drop_eq_nil_of_le (by omega)] at he
      cases he
    · exact mem_of_mem_drop he

lemma Covers.self (h : Covers alive cap notes r t) :
    Covers alive cap r r t := by
  obtain ⟨older, recent, rfl, _, rfl⟩ := h
  refine ⟨[], _, rfl, .inl rfl, ?_⟩
  simp

end TtlRing
