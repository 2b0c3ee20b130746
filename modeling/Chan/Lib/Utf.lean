import Mathlib

namespace Utf
open List

/-- Text as the sequence of its Unicode scalar values. -/
abbrev Text := List Char

instance : LawfulBEq Text := inferInstance

def bytes (t : Text) : List UInt8 := t.flatMap String.utf8EncodeChar

def utf8Len (t : Text) : Nat := (t.map Char.utf8Size).sum

def lenUtf16 (c : Char) : Nat := if c.toNat < 0x10000 then 1 else 2

def utf16Len (t : Text) : Nat := (t.map lenUtf16).sum

@[simp] lemma utf8Len_nil : utf8Len [] = 0 := rfl

@[simp] lemma utf8Len_cons : utf8Len (c :: t) = c.utf8Size + utf8Len t := by
  simp [utf8Len]

@[simp] lemma utf8Len_append (a b : Text) : utf8Len (a ++ b) = utf8Len a + utf8Len b := by
  simp [utf8Len]

@[simp] lemma utf16Len_nil : utf16Len [] = 0 := rfl

@[simp] lemma utf16Len_cons (c : Char) (t : Text) :
    utf16Len (c :: t) = lenUtf16 c + utf16Len t := by
  simp [utf16Len]

@[simp] lemma utf16Len_append (a b : Text) :
    utf16Len (a ++ b) = utf16Len a + utf16Len b := by
  simp [utf16Len]

lemma lenUtf16_pos (c : Char) : 0 < lenUtf16 c := by
  rw [lenUtf16]
  split <;> omega

lemma utf8Len_eq_zero (h : utf8Len t = 0) : t = [] := by
  cases t with
  | nil => rfl
  | cons c t =>
    have := c.utf8Size_pos
    rw [utf8Len_cons] at h
    omega

lemma utf8Len_replicate : utf8Len (List.replicate n c) = n * c.utf8Size := by
  simp [utf8Len]

lemma bytes_append : bytes (a ++ b) = bytes a ++ bytes b := by
  simp [bytes]

lemma length_bytes (t : Text) : (bytes t).length = utf8Len t := by
  induction t with
  | nil => rfl
  | cons c t ih =>
    have hc : bytes (c :: t) = String.utf8EncodeChar c ++ bytes t := rfl
    rw [hc, length_append, String.length_utf8EncodeChar, ih, utf8Len_cons]

lemma bytes_injective (h : bytes a = bytes b) : a = b := by
  apply String.ofList_injective
  apply String.toByteArray_inj.1
  exact congrArg List.toByteArray h

def isCharBoundary : Text → Nat → Bool
  | _, 0 => true
  | [], _ + 1 => false
  | c :: t, n + 1 => decide (c.utf8Size ≤ n + 1) && isCharBoundary t (n + 1 - c.utf8Size)

def takeBytes : Text → Nat → Text
  | [], _ => []
  | c :: t, n => if c.utf8Size ≤ n then c :: takeBytes t (n - c.utf8Size) else []

def dropBytes : Text → Nat → Text
  | [], _ => []
  | c :: t, n => if c.utf8Size ≤ n then dropBytes t (n - c.utf8Size) else c :: t

def sliceBytes (t : Text) (i j : Nat) : Text := dropBytes (takeBytes t j) i

lemma isCharBoundary_split (h : isCharBoundary t n = true) :
    ∃ a b, t = a ++ b ∧ utf8Len a = n := by
  induction t generalizing n with
  | nil =>
    cases n with
    | zero => exact ⟨[], [], rfl, rfl⟩
    | succ n => cases h
  | cons c t ih =>
    cases n with
    | zero => exact ⟨[], c :: t, rfl, rfl⟩
    | succ n =>
      simp only [isCharBoundary, Bool.and_eq_true, decide_eq_true_eq] at h
      obtain ⟨a, b, rfl, ha⟩ := ih h.2
      refine ⟨c :: a, b, rfl, ?_⟩
      rw [utf8Len_cons, ha]
      omega

lemma isCharBoundary_utf8Len (a b : Text) : isCharBoundary (a ++ b) (utf8Len a) = true := by
  induction a with
  | nil => cases b <;> rfl
  | cons c a ih =>
    have hc := c.utf8Size_pos
    obtain ⟨n, hn⟩ : ∃ n, utf8Len (c :: a) = n + 1 :=
      Nat.exists_eq_succ_of_ne_zero (by rw [utf8Len_cons]; omega)
    have hsub : n + 1 - c.utf8Size = utf8Len a := by rw [← hn, utf8Len_cons]; omega
    have hle : c.utf8Size ≤ n + 1 := by rw [← hn, utf8Len_cons]; omega
    rw [hn, cons_append, isCharBoundary, hsub, ih, Bool.and_true]
    exact decide_eq_true hle

@[simp] lemma takeBytes_utf8Len : takeBytes (a ++ b) (utf8Len a) = a := by
  induction a with
  | nil =>
    cases b with
    | nil => rfl
    | cons c b =>
      have hc := c.utf8Size_pos
      simp only [nil_append, utf8Len_nil, takeBytes, if_neg (Nat.not_le_of_gt hc)]
  | cons c a ih =>
    rw [cons_append, utf8Len_cons, takeBytes, if_pos (Nat.le_add_right _ _),
      Nat.add_sub_cancel_left, ih]

@[simp] lemma dropBytes_utf8Len : dropBytes (a ++ b) (utf8Len a) = b := by
  induction a with
  | nil =>
    cases b with
    | nil => rfl
    | cons c b =>
      have hc := c.utf8Size_pos
      simp only [nil_append, utf8Len_nil, dropBytes, if_neg (Nat.not_le_of_gt hc)]
  | cons c a ih =>
    rw [cons_append, utf8Len_cons, dropBytes, if_pos (Nat.le_add_right _ _),
      Nat.add_sub_cancel_left, ih]

lemma sliceBytes_middle : sliceBytes (a ++ b ++ c) (utf8Len a) (utf8Len (a ++ b)) = b := by
  rw [sliceBytes, takeBytes_utf8Len, dropBytes_utf8Len]

lemma exists_append_of_utf8Len_le (h : a ++ b = c ++ d) (hl : utf8Len a ≤ utf8Len c) :
    ∃ m, c = a ++ m ∧ b = m ++ d := by
  rcases List.append_eq_append_iff.1 h with ⟨m, hc, hb⟩ | ⟨m, ha, hd⟩
  · exact ⟨m, hc, hb⟩
  · grind [utf8Len_eq_zero, utf8Len_append]

lemma take_bytes_utf8Len (a b : Text) : (bytes (a ++ b)).take (utf8Len a) = bytes a := by
  rw [bytes_append, ← length_bytes, take_left]

lemma drop_bytes_utf8Len (a b : Text) : (bytes (a ++ b)).drop (utf8Len a) = bytes b := by
  rw [bytes_append, ← length_bytes, drop_left]

def backOff (ok : Nat → Bool) : Nat → Nat
  | 0 => 0
  | n + 1 => if ok (n + 1) then n + 1 else backOff ok n

lemma backOff_le (ok : Nat → Bool) (n : Nat) : backOff ok n ≤ n := by
  induction n with
  | zero => exact Nat.le_refl _
  | succ n ih =>
    rw [backOff]
    split
    · exact Nat.le_refl _
    · omega

lemma backOff_ok (ok : Nat → Bool) (h0 : ok 0 = true) (n : Nat) :
    ok (backOff ok n) = true := by
  induction n with
  | zero => exact h0
  | succ n ih =>
    rw [backOff]
    split
    · assumption
    · exact ih

lemma take_eq_take_of_zip_takeWhile [DecidableEq α] {xs ys : List α}
    (hn : n ≤ ((xs.zip ys).takeWhile fun p => p.1 == p.2).length) :
    xs.take n = ys.take n := by
  induction n generalizing xs ys with
  | zero => rfl
  | succ n ih =>
    cases xs with
    | nil => simp only [zip_nil_left, takeWhile_nil, length_nil] at hn; omega
    | cons x xs =>
      cases ys with
      | nil => simp only [zip_nil_right, takeWhile_nil, length_nil] at hn; omega
      | cons y ys =>
        rw [zip_cons_cons, takeWhile_cons] at hn
        split at hn
        · rename_i he
          have ht : xs.take n = ys.take n := ih (Nat.le_of_succ_le_succ hn)
          have hx : x = y := eq_of_beq he
          rw [take_succ_cons, take_succ_cons, ht, hx]
        · simp only [length_nil] at hn; omega

lemma of_lt_takeWhile_range
    (h : i < ((List.range m).takeWhile p).length) : p i = true := by
  have hmem : ((List.range m).takeWhile p)[i] ∈ (List.range m).takeWhile p := getElem_mem h
  have hp := mem_takeWhile_imp hmem
  have hpre := (List.takeWhile_prefix (l := List.range m) p).getElem h
  rw [getElem_range] at hpre
  rwa [hpre] at hp

lemma drop_eq_drop_of_agree {xs ys : List α} (hx : n ≤ xs.length) (hy : n ≤ ys.length)
    (h : ∀ i < n, xs[xs.length - 1 - i]? = ys[ys.length - 1 - i]?) :
    xs.drop (xs.length - n) = ys.drop (ys.length - n) := by
  apply ext_getElem?
  intro j
  rw [List.getElem?_drop, List.getElem?_drop]
  by_cases hj : j < n
  · have hi := h (n - 1 - j) (by omega)
    rwa [show xs.length - 1 - (n - 1 - j) = xs.length - n + j by omega,
      show ys.length - 1 - (n - 1 - j) = ys.length - n + j by omega] at hi
  · rw [List.getElem?_eq_none (by omega), List.getElem?_eq_none (by omega)]

def utf16Units (c : Char) : List Nat :=
  if c.toNat < 0x10000 then [c.toNat]
  else [0xD800 + (c.toNat - 0x10000) / 0x400, 0xDC00 + (c.toNat - 0x10000) % 0x400]

def encodeUtf16 (t : Text) : List Nat := t.flatMap utf16Units

@[simp] lemma encodeUtf16_nil : encodeUtf16 [] = [] := rfl

lemma encodeUtf16_cons : encodeUtf16 (c :: t) = utf16Units c ++ encodeUtf16 t := rfl

lemma encodeUtf16_append (a b : Text) :
    encodeUtf16 (a ++ b) = encodeUtf16 a ++ encodeUtf16 b := by
  simp [encodeUtf16]

lemma length_utf16Units : (utf16Units c).length = lenUtf16 c := by
  rw [utf16Units, lenUtf16]
  split <;> rfl

lemma length_encodeUtf16 : (encodeUtf16 t).length = utf16Len t := by
  induction t with
  | nil => rfl
  | cons c t ih =>
    rw [encodeUtf16_cons, length_append, length_utf16Units, ih, utf16Len_cons]

lemma take_encodeUtf16 (a b : Text) :
    (encodeUtf16 (a ++ b)).take (utf16Len a) = encodeUtf16 a := by
  rw [encodeUtf16_append, ← length_encodeUtf16, take_left]

lemma drop_encodeUtf16 (a b : Text) :
    (encodeUtf16 (a ++ b)).drop (utf16Len a) = encodeUtf16 b := by
  rw [encodeUtf16_append, ← length_encodeUtf16, drop_left]

/-- A scalar value is no surrogate, so the first unit tells the two forms apart. -/
lemma utf16Units_append_inj (h : utf16Units c ++ us = utf16Units d ++ vs) :
    c = d ∧ us = vs := by
  have hc := c.valid
  have hd := d.valid
  simp only [UInt32.isValidChar, Nat.isValidChar] at hc hd
  have hcn : c.val.toNat = c.toNat := rfl
  have hdn : d.val.toNat = d.toNat := rfl
  rw [← Char.toNat_inj]
  unfold utf16Units at h
  split at h <;> split at h <;>
    simp only [cons_append, nil_append, List.cons.injEq] at h
  · exact h
  · omega
  · omega
  · obtain ⟨hhigh, hlow, htail⟩ := h
    exact ⟨by omega, htail⟩

lemma encodeUtf16_injective (h : encodeUtf16 a = encodeUtf16 b) : a = b := by
  induction a generalizing b with
  | nil =>
    have hb := congrArg List.length h
    rw [length_encodeUtf16, length_encodeUtf16, utf16Len_nil] at hb
    cases b with
    | nil => rfl
    | cons d b =>
      have hd := lenUtf16_pos d
      rw [utf16Len_cons] at hb
      omega
  | cons c a ih =>
    cases b with
    | nil =>
      have ha := congrArg List.length h
      have hc := lenUtf16_pos c
      rw [length_encodeUtf16, length_encodeUtf16, utf16Len_nil, utf16Len_cons] at ha
      omega
    | cons d b =>
      obtain ⟨rfl, htail⟩ := utf16Units_append_inj h
      rw [ih htail]

def isUtf16Boundary : Text → Nat → Bool
  | _, 0 => true
  | [], _ + 1 => false
  | c :: t, n + 1 => decide (lenUtf16 c ≤ n + 1) && isUtf16Boundary t (n + 1 - lenUtf16 c)

def splitsPair : Text → Nat → Bool
  | _, 0 => false
  | [], _ + 1 => false
  | c :: t, n + 1 => decide (n + 1 < lenUtf16 c) || splitsPair t (n + 1 - lenUtf16 c)

@[simp] lemma isUtf16Boundary_zero : isUtf16Boundary t 0 = true := by
  cases t <;> rfl

@[simp] lemma splitsPair_zero : splitsPair t 0 = false := by
  cases t <;> rfl

lemma isUtf16Boundary_split (h : isUtf16Boundary t n = true) :
    ∃ a b, t = a ++ b ∧ utf16Len a = n := by
  induction t generalizing n with
  | nil =>
    cases n with
    | zero => exact ⟨[], [], rfl, rfl⟩
    | succ n => cases h
  | cons c t ih =>
    cases n with
    | zero => exact ⟨[], c :: t, rfl, rfl⟩
    | succ n =>
      simp only [isUtf16Boundary, Bool.and_eq_true, decide_eq_true_eq] at h
      obtain ⟨a, b, rfl, ha⟩ := ih h.2
      apply Exists.intro (c :: a)
      apply Exists.intro b
      apply And.intro rfl
      rw [utf16Len_cons, ha]
      omega

lemma isUtf16Boundary_append (a b : Text) (n : Nat) :
    isUtf16Boundary (a ++ b) (utf16Len a + n) = isUtf16Boundary b n := by
  induction a with
  | nil => rw [nil_append, utf16Len_nil, Nat.zero_add]
  | cons c a ih =>
    have hc := lenUtf16_pos c
    obtain ⟨m, hm⟩ : ∃ m, utf16Len (c :: a) + n = m + 1 :=
      Nat.exists_eq_succ_of_ne_zero (by rw [utf16Len_cons]; omega)
    rw [utf16Len_cons] at hm
    have hsub : m + 1 - lenUtf16 c = utf16Len a + n := by omega
    have hle : lenUtf16 c ≤ m + 1 := by omega
    rw [utf16Len_cons, hm, cons_append, isUtf16Boundary, hsub, ih, decide_eq_true hle,
      Bool.true_and]

lemma splitsPair_append : splitsPair (a ++ b) (utf16Len a + n) = splitsPair b n := by
  induction a with
  | nil => rw [nil_append, utf16Len_nil, Nat.zero_add]
  | cons c a ih =>
    have hc := lenUtf16_pos c
    obtain ⟨m, hm⟩ : ∃ m, utf16Len (c :: a) + n = m + 1 :=
      Nat.exists_eq_succ_of_ne_zero (by rw [utf16Len_cons]; omega)
    rw [utf16Len_cons] at hm
    have hsub : m + 1 - lenUtf16 c = utf16Len a + n := by omega
    have hlt : ¬m + 1 < lenUtf16 c := by omega
    rw [utf16Len_cons, hm, cons_append, splitsPair, hsub, ih, decide_eq_false hlt,
      Bool.false_or]

lemma isUtf16Boundary_eq_not_splitsPair (h : n ≤ utf16Len t) :
    isUtf16Boundary t n = !splitsPair t n := by
  induction t generalizing n with
  | nil =>
    rw [Nat.le_zero.1 h]
    rfl
  | cons c t ih =>
    cases n with
    | zero => rfl
    | succ n =>
      rw [utf16Len_cons] at h
      rw [isUtf16Boundary, splitsPair, ih (by omega), Bool.not_or]
      congr 1
      by_cases hc : n + 1 < lenUtf16 c
      · rw [decide_eq_true hc, decide_eq_false (by omega), Bool.not_true]
      · rw [decide_eq_false hc, decide_eq_true (by omega), Bool.not_false]

end Utf
