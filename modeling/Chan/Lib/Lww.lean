import Mathlib

namespace Lww
open List

variable {ι β κ : Type*} [LinearOrder κ] (key : β → κ)

def merge (stored : Option β) (x : β) : Option β :=
  match stored with
  | some s => if key x < key s then some s else some x
  | none => some x

/-- What a register ends with after some arrivals: the stored value if it beats them all, else an
arrival that none of the others and not the stored value beats. -/
inductive Latest (stored : Option β) (arrived : List β) : Option β → Prop
  | kept (h : ∀ x ∈ arrived, ∃ s, stored = some s ∧ key x < key s) : Latest stored arrived stored
  | arrived (hx : x ∈ arrived) (hmax : ∀ y ∈ arrived, key y ≤ key x)
      (hs : ∀ s, stored = some s → key s ≤ key x) : Latest stored arrived (some x)

variable {key}

lemma Latest.newest (hmax : ∀ y ∈ xs, key y ≤ key x) (hs : ∀ s, stored = some s → key s ≤ key x) :
    Latest key stored (xs ++ [x]) (some x) := by
  apply Latest.arrived (mem_append_right _ (mem_singleton_self x)) _ hs
  intro y hy
  rcases List.mem_append.1 hy with hy | hy
  · exact hmax y hy
  · rw [List.mem_singleton.1 hy]

lemma Latest.snoc (h : Latest key stored xs r) :
    Latest key stored (xs ++ [x]) (merge key r x) := by
  cases h with
  | kept h =>
    cases stored with
    | none =>
      apply Latest.newest
      · intro y hy
        obtain ⟨s, hs, -⟩ := h y hy
        cases hs
      · intro s hs
        cases hs
    | some s =>
      rw [merge]
      split
      · rename_i hlt
        apply Latest.kept
        intro y hy
        rcases List.mem_append.1 hy with hy | hy
        · exact h y hy
        · rw [List.mem_singleton.1 hy]
          exact ⟨s, rfl, hlt⟩
      · grind [Latest.newest]
  | arrived hz hmax hs =>
    rename_i z
    rw [merge]
    split
    · rename_i hlt
      apply Latest.arrived (mem_append_left _ hz) _ hs
      intro y hy
      rcases List.mem_append.1 hy with hy | hy
      · exact hmax y hy
      · rw [List.mem_singleton.1 hy]
        exact hlt.le
    · rename_i hle
      have hle' : key z ≤ key x := not_lt.1 hle
      exact .newest (fun y hy => (hmax y hy).trans hle') fun s hs' => (hs s hs').trans hle'

lemma latest_foldl (stored : Option β) (xs : List β) :
    Latest key stored xs (xs.foldl (merge key) stored) := by
  induction xs using List.reverseRecOn with
  | nil => exact .kept (by intro x hx; cases hx)
  | append_singleton xs x ih =>
    rw [foldl_append]
    exact ih.snoc

lemma Latest.unique (h : Latest key stored xs r) (h' : Latest key stored ys r')
    (hmem : ∀ x, x ∈ xs ↔ x ∈ ys)
    (hdet : ∀ x ∈ xs, ∀ y ∈ xs, key x = key y → x = y) : r = r' := by
  cases h with
  | kept h =>
    cases h' with
    | kept => rfl
    | arrived hy hmax hs =>
      obtain ⟨s, hs', hlt⟩ := h _ ((hmem _).2 hy)
      exact absurd hlt (not_lt.2 (hs s hs'))
  | arrived hx hmax hs =>
    cases h' with
    | kept h' =>
      obtain ⟨s, hs', hlt⟩ := h' _ ((hmem _).1 hx)
      exact absurd hlt (not_lt.2 (hs s hs'))
    | arrived hy hmax' hs' =>
      have hxy := hmax' _ ((hmem _).1 hx)
      have hyx := hmax _ ((hmem _).2 hy)
      rw [hdet _ hx _ ((hmem _).2 hy) (le_antisymm hxy hyx)]

section Peak

variable (key)

def peak (xs : List β) : WithBot κ := xs.foldr (fun x m => max (key x : WithBot κ) m) ⊥

variable {key}

@[simp] lemma peak_nil : peak key [] = ⊥ := rfl

@[simp] lemma peak_cons : peak key (x :: xs) = max ↑(key x) (peak key xs) :=
  rfl

@[simp] lemma peak_append (xs ys : List β) :
    peak key (xs ++ ys) = max (peak key xs) (peak key ys) := by
  induction xs with
  | nil => rw [nil_append, peak_nil, max_eq_right bot_le]
  | cons x xs ih => rw [cons_append, peak_cons, peak_cons, ih, max_assoc]

lemma le_peak (h : x ∈ xs) : (key x : WithBot κ) ≤ peak key xs := by
  induction xs with
  | nil => cases h
  | cons y xs ih =>
    rcases List.mem_cons.1 h with rfl | h
    · exact le_max_left _ _
    · exact (ih h).trans (le_max_right _ _)

lemma peak_le (h : ∀ x ∈ xs, (key x : WithBot κ) ≤ b) : peak key xs ≤ b := by
  induction xs with
  | nil => exact bot_le
  | cons x xs ih =>
    exact max_le (h x mem_cons_self) (ih fun y hy => h y (mem_cons_of_mem x hy))

lemma peak_merge :
    peak key (merge key stored x).toList = max (peak key stored.toList) (key x) := by
  cases stored with
  | none => exact max_comm _ _
  | some s =>
    rw [merge]
    split
    · rename_i hlt
      exact (max_eq_left (WithBot.coe_le_coe.2 hlt.le)).symm
    · rename_i hle
      exact (max_eq_right (WithBot.coe_le_coe.2 (not_lt.1 hle))).symm

lemma peak_foldl_merge : peak key (xs.foldl (merge key) stored).toList =
      max (peak key stored.toList) (peak key xs) := by
  induction xs generalizing stored with
  | nil => rw [foldl_nil, peak_nil, max_bot_right]
  | cons x xs ih => rw [foldl_cons, ih, peak_merge, peak_cons, max_assoc]

lemma eq_of_peak_eq (h : peak key a.toList = peak key b.toList)
    (hdet : ∀ x y, a = some x → b = some y → key x = key y → x = y) : a = b := by
  cases a with
  | none =>
    cases b with
    | none => rfl
    | some y =>
      exact absurd h.symm WithBot.coe_ne_bot
  | some x =>
    cases b with
    | none =>
      exact absurd h WithBot.coe_ne_bot
    | some y =>
      simp only [Option.toList_some, peak_cons, peak_nil, max_bot_right, WithBot.coe_inj] at h
      rw [hdet x y rfl rfl h]

end Peak

section Keyed

variable [DecidableEq ι]

def mergeAt (key : β → κ) (m : ι → Option β) (e : ι × β) : ι → Option β :=
  Function.update m e.1 (merge key (m e.1) e.2)

def arrivals (es : List (ι × β)) (i : ι) : List β := (es.filter fun e => e.1 = i).map Prod.snd

lemma mem_arrivals {es : List (ι × β)} : x ∈ arrivals es i ↔ (i, x) ∈ es := by
  simp only [arrivals, mem_map, mem_filter, decide_eq_true_eq]
  constructor
  · rintro ⟨⟨j, y⟩, ⟨hmem, hj⟩, hy⟩
    cases hj
    cases hy
    exact hmem
  · intro h
    exact ⟨(i, x), ⟨h, rfl⟩, rfl⟩

lemma foldl_mergeAt (es : List (ι × β)) (m : ι → Option β) (i : ι) :
    es.foldl (mergeAt key) m i = (arrivals es i).foldl (merge key) (m i) := by
  induction es generalizing m with
  | nil => rfl
  | cons e es ih =>
    rw [foldl_cons, ih]
    by_cases he : e.1 = i
    · subst he
      simp [arrivals, mergeAt]
    · simp [arrivals, mergeAt, Function.update_of_ne (Ne.symm he), he]

lemma latest_mergeAt (es : List (ι × β)) (m : ι → Option β) (i : ι) :
    Latest key (m i) (arrivals es i) (es.foldl (mergeAt key) m i) := by
  rw [foldl_mergeAt]
  exact latest_foldl _ _

lemma foldl_mergeAt_perm {es fs : List (ι × β)} (h : es.Perm fs)
    (hdet : ∀ i x y, (i, x) ∈ es → (i, y) ∈ es → key x = key y → x = y) :
    es.foldl (mergeAt key) m = fs.foldl (mergeAt key) m := by
  funext i
  apply (latest_mergeAt es m i).unique (latest_mergeAt fs m i)
  · intro x
    rw [mem_arrivals, mem_arrivals]
    exact h.mem_iff
  · intro x hx y hy
    exact hdet i x y (mem_arrivals.1 hx) (mem_arrivals.1 hy)

end Keyed

end Lww
