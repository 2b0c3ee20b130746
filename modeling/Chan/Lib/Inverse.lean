import Chan.Lib.AssocMap

namespace AssocMap

variable {α β κ : Type*} [DecidableEq α] [DecidableEq κ] {key : β → κ} {m : Map α β}

/-- The ids under each key are those of the values with that key. -/
def Lists (key : β → κ) (m : Map α β) (ids : κ → List α) : Prop :=
  ∀ k a, a ∈ ids k ↔ ∃ b, m.lookup a = some b ∧ key b = k

lemma Lists.insert (h : Lists key m ids) (hfresh : m.lookup a = none) (b : β)
    (hids : ∀ k, ids' k = if k = key b then ids k ++ [a] else ids k) :
    Lists key (m.insert a b) ids' := by
  intro k i
  have hmem := h k i
  grind

lemma Lists.erase (h : Lists key m ids) (hb : m.lookup a = some b)
    (hids : ∀ k, ids' k = if k = key b then (ids k).filter (· ≠ a) else ids k) :
    Lists key (m.erase a) ids' := by
  intro k i
  have hmem := h k i
  grind

/-- The index lists the ids under each key once, and has no empty list. -/
structure Inverts (key : β → κ) (m : Map α β) (index : Map κ (List α)) : Prop where
  mem : ∀ k a, a ∈ (index.lookup k).getD [] ↔ ∃ b, m.lookup a = some b ∧ key b = k
  nodup : ∀ k, ((index.lookup k).getD []).Nodup
  inhabited : ∀ k, index.lookup k ≠ some []

lemma Inverts.insert (h : Inverts key m index) (hfresh : m.lookup a = none) (b : β) :
    Inverts key (m.insert a b)
      (index.insert (key b) ((index.lookup (key b)).getD [] ++ [a])) := by
  have hnew : ∀ k, a ∉ (index.lookup k).getD [] := fun k ha => by
    obtain ⟨c, hc, -⟩ := (h.mem k a).1 ha
    cases hfresh.symm.trans hc
  refine ⟨fun k i => ?_, fun k => ?_, fun k => ?_⟩
  · have hmem := h.mem k i
    grind
  · have hnodup := h.nodup k
    rw [lookup_insert_ite]
    split
    · rename_i heq
      subst heq
      exact List.nodup_append.2 ⟨hnodup, List.nodup_singleton a, by grind⟩
    · exact hnodup
  · rw [lookup_insert_ite]
    split
    · simp
    · exact h.inhabited k

/-- The index without an id: a list that is left empty goes. -/
def unlist (index : Map κ (List α)) (k : κ) (a : α) : Map κ (List α) :=
  let ids := ((index.lookup k).getD []).filter (· ≠ a)
  if ids.isEmpty then index.erase k else index.insert k ids

lemma lookup_unlist (index : Map κ (List α)) (k j : κ) (a : α) :
    ((unlist index k a).lookup j).getD [] =
      if j = k then ((index.lookup k).getD []).filter (· ≠ a) else (index.lookup j).getD [] := by
  grind [unlist]

lemma Inverts.erase (h : Inverts key m index) (hb : m.lookup a = some b) :
    Inverts key (m.erase a) (unlist index (key b) a) := by
  refine ⟨fun k i => ?_, fun k => ?_, fun k => ?_⟩
  · have hmem := h.mem k i
    rw [lookup_unlist]
    grind
  · have hnodup := h.nodup k
    rw [lookup_unlist]
    split
    · rename_i heq
      exact heq ▸ hnodup.filter _
    · exact hnodup
  · have hsome := h.inhabited k
    grind [unlist]

lemma Inverts.update (h : Inverts key m index) (hb : m.lookup a = some b)
    (hkey : key b' = key b) : Inverts key (m.insert a b') index := by
  refine ⟨fun k i => ?_, h.nodup, h.inhabited⟩
  have hmem := h.mem k i
  grind

/-- The counts are how many values have each key, and none of them is zero. -/
def Tallies (key : β → κ) (m : Map α β) (counts : Map κ Nat) : Prop :=
  ∀ k, counts.lookup k =
    if countWhere (fun b => decide (key b = k)) m = 0 then none
    else some (countWhere (fun b => decide (key b = k)) m)

lemma Tallies.insert (h : Tallies key m counts) (hfresh : m.lookup a = none) (b : β) :
    Tallies key (m.insert a b) (counts.insert (key b) ((counts.lookup (key b)).getD 0 + 1)) := by
  intro k
  have hk := h k
  have hcount := countWhere_insert (fun b => decide (key b = k)) (b := b) hfresh
  grind

lemma Tallies.erase (h : Tallies key m counts) (hb : m.lookup a = some b)
    (hk : ∀ j, counts'.lookup j = if j = key b then
      (if (counts.lookup j).getD 0 - 1 = 0 then none else some ((counts.lookup j).getD 0 - 1))
      else counts.lookup j) : Tallies key (m.erase a) counts' := by
  intro k
  have hold := h k
  have hcount := countWhere_erase (fun b => decide (key b = k)) hb
  grind

end AssocMap
