import Mathlib

namespace AssocMap
open List AList

variable {γ : Type*}

abbrev Map (α β : Type*) := AList fun _ : α => β

variable {α β : Type*}

/-- Every entry of one partial map is one of another. -/
def Sub (f g : α → Option β) : Prop := ∀ a b, f a = some b → g a = some b

lemma Sub.refl (f : α → Option β) : Sub f f := fun _ _ h => h

lemma Sub.trans (hf : Sub f g) (hg : Sub g h) : Sub f h :=
  fun a b hb => hg a b (hf a b hb)

lemma Sub.filter (f : α → Option β) (p : α → β → Bool) : Sub (fun a => (f a).filter (p a)) f :=
  fun _ _ h => (Option.filter_eq_some_iff.1 h).1

def mapWithKey (f : α → β → β) (m : Map α β) : Map α β where
  entries := m.entries.map fun e => ⟨e.1, f e.1 e.2⟩
  nodupKeys := by
    have hkeys : (m.entries.map fun e => (⟨e.1, f e.1 e.2⟩ : Sigma fun _ : α => β)).keys =
        m.entries.keys := by
      simp only [List.keys, map_map]
      rfl
    rw [List.NodupKeys, hkeys]
    exact m.nodupKeys

variable [DecidableEq α]

attribute [grind =] Function.update_apply

lemma update_some_eq_some {f : α → Option β} : Function.update f a (some b) k = some x ↔
    (k = a ∧ x = b) ∨ (k ≠ a ∧ f k = some x) := by
  rw [Function.update_apply]
  split
  · rename_i hk
    simp only [hk, ne_eq, not_true_eq_false, false_and, or_false, true_and, Option.some.injEq]
    exact eq_comm
  · rename_i hk
    simp [hk]

lemma update_none_eq_some {f : α → Option β} :
    Function.update f a none k = some x ↔ k ≠ a ∧ f k = some x := by
  rw [Function.update_apply]
  split
  · rename_i hk
    simp [hk]
  · rename_i hk
    simp [hk]

lemma isSome_update_some {f : α → Option β} :
    (Function.update f a (some b) k).isSome ↔ k = a ∨ (f k).isSome := by
  rw [Function.update_apply]
  split
  · rename_i hk
    simp [hk]
  · rename_i hk
    simp [hk]

lemma isSome_update_none {f : α → Option β} :
    (Function.update f a none k).isSome ↔ k ≠ a ∧ (f k).isSome := by
  rw [Function.update_apply]
  split
  · rename_i hk
    simp [hk]
  · rename_i hk
    simp [hk]

lemma Sub.update_none (f : α → Option β) (a : α) : Sub (Function.update f a none) f :=
  fun _ _ h => (update_none_eq_some.1 h).2

lemma lookup_mapWithKey (f : α → β → β) (m : Map α β) (a : α) :
    (mapWithKey f m).lookup a = (m.lookup a).map (f a) := by
  have hlist : ∀ l : List (Sigma fun _ : α => β),
      List.dlookup a (l.map fun e => (⟨e.1, f e.1 e.2⟩ : Sigma fun _ : α => β)) =
        (List.dlookup a l).map (f a) := by
    intro l
    induction l with
    | nil => rfl
    | cons e l ih =>
      obtain ⟨b, x⟩ := e
      by_cases hb : a = b
      · subst hb
        rw [map_cons, dlookup_cons_eq, dlookup_cons_eq, Option.map_some]
      · rw [map_cons, dlookup_cons_ne _ _ hb, dlookup_cons_ne _ _ hb, ih]
  exact hlist m.entries

@[grind =]
lemma lookup_insert_ite (m : Map α β) (a k : α) (b : β) :
    (m.insert a b).lookup k = if k = a then some b else m.lookup k := by
  by_cases hk : k = a
  · rw [hk, lookup_insert, if_pos rfl]
  · rw [lookup_insert_ne hk, if_neg hk]

@[grind =]
lemma lookup_erase_ite (m : Map α β) (a k : α) :
    (m.erase a).lookup k = if k = a then none else m.lookup k := by
  by_cases hk : k = a
  · rw [hk, lookup_erase, if_pos rfl]
  · rw [lookup_erase_ne hk, if_neg hk]

lemma lookup_insert_fun (m : Map α β) (a : α) (b : β) :
    (m.insert a b).lookup = Function.update m.lookup a (some b) := by
  funext k
  rw [Function.update_apply]
  exact lookup_insert_ite m a k b

lemma lookup_erase_fun (m : Map α β) (a : α) :
    (m.erase a).lookup = Function.update m.lookup a none := by
  funext k
  rw [Function.update_apply]
  exact lookup_erase_ite m a k

lemma map_lookup_insert_fun (f : β → γ) (m : Map α β) (a : α) (b : β) :
    (fun k => ((m.insert a b).lookup k).map f) =
      Function.update (fun k => (m.lookup k).map f) a (some (f b)) := by
  funext k
  refine (congrArg (Option.map f) (congrFun (lookup_insert_fun m a b) k)).trans ?_
  rw [Function.update_apply, Function.update_apply]
  split <;> rfl

lemma map_lookup_erase_fun (f : β → γ) (m : Map α β) (a : α) :
    (fun k => ((m.erase a).lookup k).map f) =
      Function.update (fun k => (m.lookup k).map f) a none := by
  funext k
  refine (congrArg (Option.map f) (congrFun (lookup_erase_fun m a) k)).trans ?_
  rw [Function.update_apply, Function.update_apply]
  split <;> rfl

lemma lookup_insert_eq_some {m : Map α β} (h : (m.insert a b).lookup k = some x) :
    (k = a ∧ x = b) ∨ (k ≠ a ∧ m.lookup k = some x) := by
  grind

lemma lookup_erase_eq_some {m : Map α β} (h : (m.erase a).lookup k = some x) :
    k ≠ a ∧ m.lookup k = some x := by
  grind

def retain (p : α → β → Bool) (m : Map α β) : Map α β where
  entries := m.entries.filter fun e => p e.1 e.2
  nodupKeys := by
    rw [List.NodupKeys, List.keys]
    exact (List.filter_sublist.map _).nodup m.nodupKeys

lemma lookup_retain (p : α → β → Bool) (m : Map α β) (a : α) :
    (retain p m).lookup a = (m.lookup a).filter (p a) := by
  ext b
  have hmem : ∀ (m : Map α β) (b : β), m.lookup a = some b ↔ (⟨a, b⟩ : Sigma fun _ : α => β) ∈
      m.entries := fun m b => mem_lookup_iff
  rw [hmem, Option.filter_eq_some_iff, hmem]
  exact mem_filter

lemma lookup_retain_key (p : α → Bool) (m : Map α β) (a : α) :
    (retain (fun k _ => p k) m).lookup a = if p a then m.lookup a else none := by
  rw [lookup_retain]
  cases m.lookup a <;> cases p a <;> rfl

def modify (a : α) (f : β → β) (m : Map α β) : Map α β :=
  mapWithKey (fun k b => if k = a then f b else b) m

lemma lookup_modify (a : α) (f : β → β) (m : Map α β) (k : α) :
    (modify a f m).lookup k = if k = a then (m.lookup a).map f else m.lookup k := by
  rw [modify, lookup_mapWithKey]
  split
  · rename_i hk
    rw [hk]
  · exact Option.map_id'

lemma lookup_modify_fun (a : α) (f : β → β) (m : Map α β) :
    (modify a f m).lookup = Function.update m.lookup a ((m.lookup a).map f) := by
  funext k
  rw [lookup_modify, Function.update_apply]

def keysWhere (p : α → β → Bool) (m : Map α β) : List α :=
  (m.entries.filter fun e => p e.1 e.2).map fun e => e.1

lemma mem_keysWhere {m : Map α β} :
    a ∈ keysWhere p m ↔ ∃ b, m.lookup a = some b ∧ p a b = true := by
  simp only [keysWhere, mem_map, mem_filter]
  constructor
  · rintro ⟨⟨k, b⟩, ⟨hmem, hp⟩, rfl⟩
    exact ⟨b, AList.mem_lookup_iff.2 hmem, hp⟩
  · rintro ⟨b, hb, hp⟩
    exact ⟨⟨a, b⟩, ⟨AList.mem_lookup_iff.1 hb, hp⟩, rfl⟩

lemma ite_mem_lookup_erase (m : Map α β) (k : α) (ks : List α) (a : α) [Decidable (a ∈ ks)]
    [Decidable (a ∈ k :: ks)] :
    (if a ∈ ks then none else (m.erase k).lookup a) =
      if a ∈ k :: ks then none else m.lookup a := by
  by_cases hk : a = k
  · subst hk
    rw [if_pos mem_cons_self, lookup_erase, ite_self]
  · simp [lookup_erase_ne hk, hk]

def sumOf (f : β → Nat) (m : Map α β) : Nat := (m.entries.map fun e => f e.2).sum

lemma sumOf_erase {m : Map α β} (h : m.lookup a = some b) :
    sumOf f m = f b + sumOf f (m.erase a) := by
  have hmem : a ∈ m.entries.keys := List.dlookup_isSome.1 (by
    rw [show m.entries.dlookup a = some b from h]
    rfl)
  obtain ⟨b', l₁, l₂, hnot, hentries, herase⟩ := exists_of_kerase hmem
  have hb : b' = b := by
    have hlookup : m.entries.dlookup a = some b := h
    rw [hentries, dlookup_append, List.dlookup_eq_none.2 hnot, dlookup_cons_eq] at hlookup
    exact Option.some.inj hlookup
  subst hb
  have herased : (m.erase a).entries = l₁ ++ l₂ := herase
  simp only [sumOf, herased, hentries, map_append, map_cons, sum_append,
    sum_cons]
  omega

lemma sumOf_insert (f : β → Nat) (m : Map α β) :
    sumOf f (m.insert a b) = f b + sumOf f (m.erase a) := rfl

def countWhere (p : β → Bool) (m : Map α β) : Nat := m.entries.countP fun e => p e.2

omit [DecidableEq α] in
lemma countWhere_eq_sumOf (p : β → Bool) (m : Map α β) :
    countWhere p m = sumOf (fun b => if p b then 1 else 0) m := by
  have hlist : ∀ l : List (Sigma fun _ : α => β),
      l.countP (fun e => p e.2) = (l.map fun e => if p e.2 then 1 else 0).sum := by
    intro l
    induction l with
    | nil => rfl
    | cons e l ih => rw [countP_cons, map_cons, sum_cons, ih, Nat.add_comm]
  exact hlist m.entries

lemma countWhere_erase (p : β → Bool) {m : Map α β} (h : m.lookup a = some b) :
    countWhere p m = (if p b then 1 else 0) + countWhere p (m.erase a) := by
  rw [countWhere_eq_sumOf, countWhere_eq_sumOf, sumOf_erase h]

lemma erase_of_lookup_none {m : Map α β} (h : m.lookup a = none) : m.erase a = m := by
  have hnot : a ∉ m.entries.keys := List.dlookup_eq_none.1 h
  exact AList.ext (kerase_of_notMem_keys hnot)

lemma countWhere_insert (p : β → Bool) {m : Map α β} (h : m.lookup a = none) :
    countWhere p (m.insert a b) = (if p b then 1 else 0) + countWhere p m := by
  rw [countWhere_eq_sumOf, countWhere_eq_sumOf, sumOf_insert, erase_of_lookup_none h]

omit [DecidableEq α] in
lemma countWhere_pos_iff :
    0 < countWhere p m ↔ ∃ e ∈ m.entries, p e.2 = true := countP_pos_iff

lemma key_unique {m : Map α β} (h : countWhere p m ≤ 1)
    (ha : m.lookup a = some b) (hb : p b = true) (hk : m.lookup k = some x) (hx : p x = true) :
    k = a := by
  by_contra hne
  have hkept : (m.erase a).lookup k = some x := (lookup_erase_ne hne).trans hk
  have hpos : 0 < countWhere p (m.erase a) :=
    countWhere_pos_iff.2 ⟨⟨k, x⟩, AList.mem_lookup_iff.1 hkept, hx⟩
  have hcount := countWhere_erase p ha
  rw [if_pos hb] at hcount
  omega

section Sorted

variable [LinearOrder α]

def sorted (m : Map α β) : List (α × β) :=
  (m.entries.map fun e => (e.1, e.2)).insertionSort fun a b => a.1 ≤ b.1

lemma mem_sorted {m : Map α β} : (a, b) ∈ sorted m ↔ m.lookup a = some b := by
  rw [sorted, mem_insertionSort, mem_map]
  constructor
  · rintro ⟨e, he, heq⟩
    cases heq
    exact AList.mem_lookup_iff.2 he
  · intro h
    exact ⟨⟨a, b⟩, AList.mem_lookup_iff.1 h, rfl⟩

omit [DecidableEq α] in
lemma nodup_sorted (m : Map α β) : ((sorted m).map Prod.fst).Nodup := by
  have hkeys : (m.entries.map fun e => (e.1, e.2)).map Prod.fst = m.keys := by
    rw [map_map]
    rfl
  rw [sorted, ((perm_insertionSort _ _).map Prod.fst).nodup_iff, hkeys]
  exact m.nodupKeys

end Sorted

lemma lookup_foldl_insert_eq_some {key : γ → α} {val : γ → β} {l : List γ}
    {m : Map α β} (h : (l.foldl (fun m e => m.insert (key e) (val e)) m).lookup a = some b) :
    (∃ e ∈ l, key e = a ∧ val e = b) ∨ m.lookup a = some b := by
  induction l generalizing m with
  | nil => exact .inr h
  | cons e l ih =>
    rcases ih h with ⟨e', he', hkey⟩ | hold
    · exact .inl ⟨e', mem_cons_of_mem e he', hkey⟩
    · rcases lookup_insert_eq_some hold with ⟨rfl, rfl⟩ | ⟨_, hold⟩
      · exact .inl ⟨e, mem_cons_self, rfl, rfl⟩
      · exact .inr hold

lemma lookup_foldl_insert {l : List (Sigma fun _ : α => β)} (hl : l.NodupKeys) (m : Map α β)
    (a : α) :
    (l.foldl (fun m e => m.insert e.1 e.2) m).lookup a = (l.dlookup a).or (m.lookup a) := by
  induction l generalizing m with
  | nil => rw [foldl_nil, dlookup_nil, Option.none_or]
  | cons e l ih =>
    obtain ⟨hnot, hl⟩ := List.nodupKeys_cons.1 hl
    rw [foldl_cons, ih hl]
    by_cases ha : a = e.1
    · subst ha
      rw [List.dlookup_eq_none.2 hnot, dlookup_cons_eq, lookup_insert,
        Option.none_or, Option.some_or]
    · rw [dlookup_cons_ne _ _ ha, lookup_insert_ne ha]

end AssocMap
