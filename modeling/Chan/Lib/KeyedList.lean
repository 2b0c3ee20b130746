import Mathlib

namespace KeyedList

variable {κ α : Type*} [LinearOrder κ]

def find (k : κ) : List (κ × α) → Option α
  | [] => none
  | (l, a) :: m => if k = l then some a else find k m

def insert (k : κ) (a : α) : List (κ × α) → List (κ × α)
  | [] => [(k, a)]
  | (l, b) :: m =>
    if k < l then (k, a) :: (l, b) :: m
    else if k = l then (k, a) :: m
    else (l, b) :: insert k a m

def erase (k : κ) (m : List (κ × α)) : List (κ × α) := m.filter fun e => e.1 ≠ k

def ofList (es : List (κ × α)) : List (κ × α) := es.foldl (fun m e => insert e.1 e.2 m) []

@[simp] lemma find_insert_self (k : κ) (a : α) (m : List (κ × α)) :
    find k (insert k a m) = some a := by
  induction m with
  | nil => simp [insert, find]
  | cons e m ih =>
    rw [insert]
    split_ifs with hlt heq
    · simp [find]
    · simp [find]
    · rw [find, if_neg heq, ih]

lemma find_insert_ne (h : l ≠ k) (a : α) (m : List (κ × α)) :
    find l (insert k a m) = find l m := by
  induction m with
  | nil => simp only [insert, find, if_neg h]
  | cons e m ih =>
    rw [insert]
    split_ifs with hlt heq
    · rw [find, if_neg h]
    · subst heq
      rw [find, find, if_neg h, if_neg h]
    · rw [find, find, ih]

/-- A key stands where an insert would put it, with the value it would put there. -/
def Placed (k : κ) (a : α) (m : List (κ × α)) : Prop := insert k a m = m

lemma placed_insert_self (k : κ) (a : α) (m : List (κ × α)) : Placed k a (insert k a m) := by
  induction m with
  | nil => simp [Placed, insert]
  | cons e m ih =>
    rw [insert]
    split_ifs with hlt heq
    · simp [Placed, insert]
    · simp [Placed, insert]
    · rw [Placed, insert, if_neg hlt, if_neg heq, ih]

lemma Placed.insert {m : List (κ × α)} (h : Placed k a m) (hl : k ≠ l) (b : α) :
    Placed k a (insert l b m) := by
  induction m with
  | nil => cases h
  | cons e m ih =>
    obtain ⟨j, c⟩ := e
    rw [Placed, KeyedList.insert] at h
    split_ifs at h with hlt heq
    · have hlen := congrArg List.length h
      simp at hlen
    · obtain ⟨rfl, -⟩ := Prod.mk.inj (List.cons.inj h).1
      obtain rfl := (Prod.mk.inj (List.cons.inj h).1).2
      rw [Placed, KeyedList.insert]
      split_ifs with hlk hlk'
      · simp only [KeyedList.insert, if_neg (lt_asymm hlk), if_neg hl, lt_irrefl, if_false, if_true]
      · exact absurd hlk'.symm hl
      · simp only [KeyedList.insert, lt_irrefl, if_false, if_true]
    · have hjk : j < k := lt_of_le_of_ne (not_lt.1 hlt) (Ne.symm heq)
      have hm : Placed k a m := (List.cons.inj h).2
      rw [Placed, KeyedList.insert]
      split_ifs with hlj hlj'
      · rw [KeyedList.insert, if_neg (lt_asymm (lt_trans hlj hjk)), if_neg hl, KeyedList.insert,
          if_neg hlt, if_neg heq, hm]
      · subst hlj'
        rw [KeyedList.insert, if_neg hlt, if_neg heq, hm]
      · rw [KeyedList.insert, if_neg hlt, if_neg heq, ih hm]

end KeyedList
