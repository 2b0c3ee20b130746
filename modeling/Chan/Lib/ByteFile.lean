import Mathlib

namespace ByteFile
open List

variable {capacity : Nat}

/-- The bytes of a file by their offsets. -/
abbrev Contents := Nat → UInt8

structure Write where
  offset : Nat
  bytes : List UInt8
  deriving DecidableEq

def write (f : Contents) (w : Write) : Contents := fun i =>
  if w.offset ≤ i then w.bytes.getD (i - w.offset) (f i) else f i

def writeAll (f : Contents) (ws : List Write) : Contents := ws.foldl write f

def read (f : Contents) (offset length : Nat) : List UInt8 :=
  (List.range length).map fun i => f (offset + i)

variable {f : Contents}

@[simp] lemma length_read : (read f offset n).length = n := by
  rw [read, length_map, length_range]

lemma writeAll_append : writeAll f (ws ++ ws') = writeAll (writeAll f ws) ws' := foldl_append

lemma getElem?_read : (read f offset n)[i]? = if i < n then some (f (offset + i)) else none := by
  rw [read, List.getElem?_map]
  split
  · rename_i hi
    rw [List.getElem?_range hi]
    rfl
  · rename_i hi
    rw [List.getElem?_eq_none (by rw [length_range]; exact Nat.not_lt.1 hi)]
    rfl

lemma write_of_lt (h : i < w.offset) : write f w i = f i := if_neg (Nat.not_le.2 h)

lemma write_of_ge (h : w.offset + w.bytes.length ≤ i) : write f w i = f i := by
  rw [write, getD_eq_default _ _ (Nat.le_sub_of_add_le (Nat.add_comm .. ▸ h))]
  exact ite_self _

lemma write_at (h : i < w.bytes.length) : write f w (w.offset + i) = w.bytes.getD i 0 := by
  rw [write, if_pos (Nat.le_add_right ..), Nat.add_sub_cancel_left, getD_eq_getElem _ _ h,
    getD_eq_getElem _ _ h]

lemma write_cases : write f w i = f i ∨ ∃ j < w.bytes.length, i = w.offset + j := by
  by_cases hlt : i < w.offset
  · exact .inl (write_of_lt hlt)
  · by_cases hge : w.offset + w.bytes.length ≤ i
    · exact .inl (write_of_ge hge)
    · exact .inr ⟨i - w.offset, by omega, by omega⟩

lemma read_write_disjoint (h : offset + n ≤ w.offset ∨ w.offset + w.bytes.length ≤ offset) :
    read (write f w) offset n = read f offset n := by
  refine map_congr_left fun i hi => ?_
  have hi := List.mem_range.1 hi
  rcases h with h | h
  · exact write_of_lt (Nat.lt_of_lt_of_le (Nat.add_lt_add_left hi _) h)
  · exact write_of_ge (h.trans (Nat.le_add_right ..))

lemma read_write (f : Contents) (w : Write) :
    read (write f w) w.offset w.bytes.length = w.bytes := by
  refine ext_getElem? fun i => ?_
  rw [getElem?_read]
  split
  · rename_i hi
    rw [write_at hi, getD_eq_getElem _ _ hi, List.getElem?_eq_getElem hi]
  · rename_i hi
    exact (List.getElem?_eq_none (Nat.not_lt.1 hi)).symm

lemma take_drop_read (h : a + n ≤ m) :
    ((read f offset m).drop a).take n = read f (offset + a) n := by
  refine ext_getElem? fun i => ?_
  rw [List.getElem?_take, List.getElem?_drop, getElem?_read, getElem?_read]
  by_cases hi : i < n
  · rw [if_pos hi, if_pos (by omega), if_pos hi, Nat.add_assoc]
  · rw [if_neg hi, if_neg hi]

lemma read_part (h : read f offset n = p ++ (b ++ q)) :
    read f (offset + p.length) b.length = b := by
  have hlength := congrArg List.length h
  rw [length_read, length_append, length_append] at hlength
  rw [← take_drop_read (m := n) (by omega), h, drop_left, take_left]

lemma read_write_part (f : Contents) (h : w.bytes = p ++ (b ++ q)) :
    read (write f w) (w.offset + p.length) b.length = b := read_part ((read_write f w).trans h)

/-- Writes that pass through states of one kind and end in one of another. -/
structure Passes (I J : Contents → Prop) (f : Contents) (ws : List Write) : Prop where
  through : ∀ n < ws.length, I (writeAll f (ws.take n))
  ends : J (writeAll f ws)

namespace Passes

variable {I J K : Contents → Prop}

lemma nil (h : J f) : Passes I J f [] := ⟨fun _ hn => absurd hn (Nat.not_lt_zero _), h⟩

lemma single (hI : I f) (hJ : J (write f w)) : Passes I J f [w] := by
  refine ⟨fun n hn => ?_, hJ⟩
  rw [Nat.lt_one_iff.1 hn]
  exact hI

lemma append (h : Passes I K f ws) (h' : ∀ g, K g → Passes I J g ws') :
    Passes I J f (ws ++ ws') := by
  obtain ⟨hthrough, hends⟩ := h' _ h.ends
  refine ⟨fun n hn => ?_, by rwa [writeAll_append]⟩
  by_cases hlt : n < ws.length
  · rw [take_append_of_le_length hlt.le]
    exact h.through n hlt
  · rw [length_append] at hn
    rw [take_append, take_of_length_le (Nat.not_lt.1 hlt), writeAll_append]
    exact hthrough _ (by omega)

lemma mono (h : Passes I J f ws) (hI : ∀ g, I g → I' g)
    (hJ : ∀ g, J g → J' g) : Passes I' J' f ws :=
  ⟨fun n hn => hI _ (h.through n hn), hJ _ h.ends⟩

end Passes

def toLe : Nat → Nat → List UInt8
  | 0, _ => []
  | width + 1, n => UInt8.ofNat n :: toLe width (n / 256)

def ofLe : List UInt8 → Nat
  | [] => 0
  | b :: bs => b.toNat + 256 * ofLe bs

@[simp] lemma length_toLe (width n : Nat) : (toLe width n).length = width := by
  induction width generalizing n with
  | zero => rfl
  | succ width ih => rw [toLe, length_cons, ih]

lemma ofLe_toLe (h : n < 256 ^ width) : ofLe (toLe width n) = n := by
  induction width generalizing n with
  | zero =>
    rw [Nat.pow_zero, Nat.lt_one_iff] at h
    rw [h]
    rfl
  | succ width ih =>
    have hdiv : n / 256 < 256 ^ width := Nat.div_lt_of_lt_mul (by rwa [Nat.pow_succ'] at h)
    rw [toLe, ofLe, ih hdiv, UInt8.toNat_ofNat']
    exact Nat.mod_add_div n 256

lemma add_mod_of_lt (h : n % capacity + i < capacity) :
    (n + i) % capacity = n % capacity + i := by
  rw [Nat.add_mod, Nat.mod_eq_of_lt (a := i) (Nat.lt_of_le_of_lt (Nat.le_add_left ..) h),
    Nat.mod_eq_of_lt h]

lemma add_mod_of_ge (hi : i ≤ capacity) (hn : 0 < capacity)
    (h : capacity ≤ n % capacity + i) : (n + i) % capacity = n % capacity + i - capacity := by
  have hlt := Nat.mod_lt n hn
  have hsplit : n + i = capacity * (n / capacity) + (n % capacity + i - capacity + capacity) := by
    have hdiv := Nat.div_add_mod n capacity
    omega
  rw [hsplit, Nat.mul_add_mod, Nat.add_mod_right, Nat.mod_eq_of_lt (by omega)]

lemma mod_ne_of_near (hlt : q < q') (hnear : q' < q + capacity) :
    q % capacity ≠ q' % capacity := by
  intro heq
  have hdvd : capacity ∣ q' - q := (Nat.modEq_iff_dvd' hlt.le).1 heq
  have hle := Nat.le_of_dvd (Nat.sub_pos_of_lt hlt) hdvd
  omega

end ByteFile
