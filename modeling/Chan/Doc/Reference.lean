import Chan.Doc.Changes

namespace Chan
open Utf List

def referenceApply : List Section → List Nat → List Nat
  | [], _ => []
  | .retain n :: ss, units => units.take n ++ referenceApply ss (units.drop n)
  | .edit del lines :: ss, units =>
    encodeUtf16 (['\n'].intercalate lines) ++ referenceApply ss (units.drop del)

def boundaries : List Section → List Nat
  | [] => [0]
  | s :: ss => 0 :: (boundaries ss).map (s.span + ·)

def ChangeSet.saturatingSpan (cs : ChangeSet) : Nat :=
  (cs.sections.map Section.span).foldl (fun total n => min (total + n) u64Max) 0

def applyWithLimitU64 (doc : Text) (docLen16 : Nat) (cs : ChangeSet) (limit : Nat) :
    Except ApplyError Applied :=
  let span := cs.saturatingSpan
  if span ≠ docLen16 then .error (.lengthMismatch span docLen16)
  else
    match applySections span doc cs.sections [] 0 doc 0 with
    | .error e => .error e
    | .ok (out, outLen16, rest) =>
      if rest ≠ [] then .error (.lengthMismatch span (utf16Len doc))
      else if limit < utf8Len out then .error (.docTooLarge (utf8Len out) limit)
      else .ok ⟨out, outLen16⟩

lemma foldl_saturating (ns : List Nat) (total : Nat) (h : total ≤ u64Max) :
    ns.foldl (fun total n => min (total + n) u64Max) total = min (total + ns.sum) u64Max := by
  induction ns generalizing total with
  | nil =>
    exact (Nat.min_eq_left h).symm
  | cons n ns ih =>
    rw [foldl_cons, ih _ (Nat.min_le_right _ _), sum_cons]
    omega

lemma ChangeSet.saturatingSpan_eq (cs : ChangeSet) :
    cs.saturatingSpan = min cs.span u64Max := by
  rw [saturatingSpan, foldl_saturating _ 0 (Nat.zero_le _), Nat.zero_add, ChangeSet.span]

/-- No document is as long as the largest `u64`, so the sum may as well be exact. -/
lemma applyWithLimitU64_eq (h : n < u64Max) :
    applyWithLimitU64 doc n cs limit = applyWithLimit doc n cs limit := by
  simp only [applyWithLimitU64, applyWithLimit, cs.saturatingSpan_eq]
  by_cases hn : cs.span = n
  · have hspan : min cs.span u64Max = cs.span := Nat.min_eq_left (by omega)
    rewrite [hspan]
    rfl
  · rw [if_pos hn, if_pos (by omega)]

lemma zero_mem_boundaries (ss : List Section) : 0 ∈ boundaries ss := by
  cases ss <;> exact mem_cons_self

lemma advance_of_boundary (h : isUtf16Boundary t n = true) (p : Nat) :
    ∃ a b, t = a ++ b ∧ utf16Len a = n ∧ advance t p n = .ok (a, b, p + n) := by
  obtain ⟨a, b, rfl, rfl⟩ := isUtf16Boundary_split h
  exact ⟨a, b, rfl, rfl, advance_append a b p⟩

lemma advance_of_splits (h : splitsPair t n = true) :
    advance t p n = .error (.split (p + n)) := by
  induction t generalizing n p with
  | nil => cases n <;> cases h
  | cons c t ih =>
    cases n with
    | zero => cases h
    | succ n =>
      rw [splitsPair] at h
      rw [advance]
      split
      case isTrue => rfl
      case isFalse hc =>
        rw [decide_eq_false hc, Bool.false_or] at h
        have hpos : p + lenUtf16 c + (n + 1 - lenUtf16 c) = p + (n + 1) := by omega
        rw [ih h, hpos]

lemma applySections_of_aligned (h : ∀ n ∈ boundaries ss, isUtf16Boundary t n = true)
    (k : Nat) (d out : Text) (m p : Nat) :
    ∃ res left, applySections k d ss out m t p = .ok (out ++ res, m + utf16Len res, left) ∧
      encodeUtf16 res = referenceApply ss (encodeUtf16 t) ∧
      utf16Len t = ChangeSet.span ⟨ss⟩ + utf16Len left := by
  induction ss generalizing out m t p with
  | nil =>
    refine ⟨[], t, ?_, rfl, (Nat.zero_add _).symm⟩
    rw [applySections, append_nil, utf16Len_nil, Nat.add_zero]
  | cons s ss ih =>
    have hs : isUtf16Boundary t s.span = true := by
      apply h
      apply mem_cons_of_mem
      exact List.mem_map.2 ⟨0, zero_mem_boundaries ss, Nat.add_zero _⟩
    obtain ⟨a, b, rfl, ha, hadvance⟩ := advance_of_boundary hs p
    have hb : ∀ n ∈ boundaries ss, isUtf16Boundary b n = true := by
      intro n hn
      rw [← isUtf16Boundary_append a b n, ha]
      apply h
      exact mem_cons_of_mem _ (mem_map_of_mem hn)
    have hspan : ChangeSet.span ⟨s :: ss⟩ = s.span + ChangeSet.span ⟨ss⟩ := by
      simp [ChangeSet.span]
    cases s with
    | retain n =>
      rw [Section.span] at ha hadvance hspan
      obtain ⟨res, left, hrun, hres, hlen⟩ :=
        ih hb (out ++ a) (m + n) (p + n)
      refine ⟨a ++ res, left, ?_, ?_, ?_⟩
      · rw [applySections, hadvance]
        dsimp only
        rw [hrun, append_assoc, utf16Len_append, ha, Nat.add_assoc]
      · rw [referenceApply, encodeUtf16_append, hres, ← ha, take_encodeUtf16, drop_encodeUtf16]
      · rw [utf16Len_append, hlen, hspan, ha]
        omega
    | edit del lines =>
      rw [Section.span] at ha hadvance hspan
      obtain ⟨res, left, hrun, hres, hlen⟩ :=
        ih hb (out ++ ['\n'].intercalate lines) (m + utf16Len (['\n'].intercalate lines))
          (p + del)
      refine ⟨['\n'].intercalate lines ++ res, left, ?_, ?_, ?_⟩
      · rw [applySections, hadvance]
        rw [pushLines_true]
        dsimp only
        rw [hrun, append_assoc, utf16Len_append, Nat.add_assoc]
      · rw [referenceApply, encodeUtf16_append, hres, ← ha, drop_encodeUtf16]
      · rw [utf16Len_append, hlen, hspan, ha]
        omega

lemma aligned_of_advance (h : advance t p n = .ok (a, b, q))
    (hb : ∀ m ∈ boundaries ss, isUtf16Boundary b m = true) :
    ∀ m ∈ 0 :: (boundaries ss).map (n + ·), isUtf16Boundary t m = true := by
  obtain ⟨rfl, ha, -⟩ := advance_ok h
  intro m hm
  rcases List.mem_cons.1 hm with rfl | hm
  · exact isUtf16Boundary_zero
  · obtain ⟨i, hi, rfl⟩ := List.mem_map.1 hm
    rw [← ha, isUtf16Boundary_append]
    exact hb i hi

lemma aligned_of_applySections (h : applySections k d ss out m t p = .ok r) :
    ∀ n ∈ boundaries ss, isUtf16Boundary t n = true := by
  induction ss generalizing out m t p with
  | nil =>
    intro n hn
    rw [List.mem_singleton.1 hn]
    exact isUtf16Boundary_zero
  | cons s ss ih =>
    cases s with
    | retain n =>
      rw [applySections] at h
      cases hr : advance t p n with
      | error e => rw [hr] at h; cases h
      | ok r =>
        rw [hr] at h
        exact aligned_of_advance hr (ih h)
    | edit del lines =>
      rw [applySections] at h
      cases hr : advance t p del with
      | error e => rw [hr] at h; cases h
      | ok r =>
        rw [hr] at h
        exact aligned_of_advance hr (ih h)

lemma applySections_of_splits (hspan : ChangeSet.span ⟨ss⟩ ≤ utf16Len t)
    (h : (boundaries ss).find? (splitsPair t) = some n) (k : Nat) (d out : Text) (m p : Nat) :
    applySections k d ss out m t p = .error (.splitSurrogate (p + n)) := by
  induction ss generalizing out m t p n with
  | nil =>
    rw [boundaries, List.find?_singleton, splitsPair_zero] at h
    cases h
  | cons s ss ih =>
    have hcons : ChangeSet.span ⟨s :: ss⟩ = s.span + ChangeSet.span ⟨ss⟩ := by
      simp [ChangeSet.span]
    rw [boundaries, List.find?_cons, splitsPair_zero] at h
    rw [List.find?_map] at h
    have hwalk : (∃ q, advance t p s.span = .error (.split q) ∧ q = p + n) ∨
        ∃ a b i, t = a ++ b ∧ utf16Len a = s.span ∧
          advance t p s.span = .ok (a, b, p + s.span) ∧ n = s.span + i ∧
          (boundaries ss).find? (splitsPair b) = some i := by
      cases hs : splitsPair t s.span with
      | true =>
        apply Or.inl
        apply Exists.intro (p + s.span)
        apply And.intro (advance_of_splits hs)
        have hfirst : (boundaries ss).find? (splitsPair t ∘ (s.span + ·)) = some 0 := by
          cases ss <;> rw [boundaries, List.find?_cons_of_pos (by exact hs)]
        rw [hfirst] at h
        cases h
        rfl
      | false =>
        have hb : isUtf16Boundary t s.span = true := by
          rw [isUtf16Boundary_eq_not_splitsPair (by omega), hs]
          rfl
        obtain ⟨a, b, rfl, ha, hadvance⟩ := advance_of_boundary hb p
        obtain ⟨i, hi, rfl⟩ := Option.map_eq_some_iff.1 h
        have hcomp : splitsPair (a ++ b) ∘ (s.span + ·) = splitsPair b := by
          funext j
          rw [← ha]
          exact splitsPair_append
        rw [hcomp] at hi
        exact .inr ⟨a, b, i, rfl, ha, hadvance, rfl, hi⟩
    rcases hwalk with ⟨q, hsplit, rfl⟩ | ⟨a, b, i, rfl, ha, hadvance, rfl, hi⟩
    · cases s <;> rw [applySections] <;> rw [Section.span] at hsplit <;> rw [hsplit] <;> rfl
    · have hleft : ChangeSet.span ⟨ss⟩ ≤ utf16Len b := by
        rw [utf16Len_append] at hspan
        omega
      have hpos : p + s.span + i = p + (s.span + i) := by omega
      cases s with
      | retain n =>
        rw [Section.span] at hadvance hpos ⊢
        rw [applySections, hadvance, ← hpos]
        exact ih hleft hi _ _ _
      | edit del lines =>
        rw [Section.span] at hadvance hpos ⊢
        rw [applySections, hadvance, ← hpos]
        exact ih hleft hi _ _ _

lemma applyWithLimitU64_ok (h : applyWithLimitU64 doc (utf16Len doc) cs limit = .ok a) :
    cs.span ≤ u64Max ∧ cs.span = utf16Len doc ∧
      (∀ n ∈ boundaries cs.sections, isUtf16Boundary doc n = true) ∧ utf8Len a.text ≤ limit ∧
      encodeUtf16 a.text = referenceApply cs.sections (encodeUtf16 doc) ∧
      a.len16 = utf16Len a.text := by
  rw [applyWithLimitU64, cs.saturatingSpan_eq] at h
  split at h
  case isTrue => cases h
  case isFalse hspan =>
    cases hr : applySections (min cs.span u64Max) doc cs.sections [] 0 doc 0 with
    | error e => rw [hr] at h; cases h
    | ok r =>
      have haligned := aligned_of_applySections hr
      obtain ⟨res, left, hrun, hres, hlen⟩ := applySections_of_aligned haligned
        (min cs.span u64Max) doc [] 0 0
      rw [hrun] at h
      dsimp only at h
      split at h
      case isTrue => cases h
      case isFalse hleft =>
        rw [not_not] at hleft
        subst hleft
        split at h
        case isTrue => cases h
        case isFalse hlimit =>
          cases h
          refine ⟨?_, ?_, haligned, Nat.le_of_not_lt hlimit, hres, Nat.zero_add _⟩
          · have hsections : ChangeSet.span ⟨cs.sections⟩ = cs.span := rfl
            omega
          · exact hlen.symm

lemma applyWithLimitU64_of_aligned (hfits : cs.span ≤ u64Max) (hspan : cs.span = utf16Len doc)
    (haligned : ∀ n ∈ boundaries cs.sections, isUtf16Boundary doc n = true)
    (hunits : encodeUtf16 text = referenceApply cs.sections (encodeUtf16 doc))
    (hlimit : utf8Len text ≤ limit) :
    applyWithLimitU64 doc (utf16Len doc) cs limit = .ok ⟨text, utf16Len text⟩ := by
  obtain ⟨res, left, hrun, hres, hlen⟩ := applySections_of_aligned haligned
    (min cs.span u64Max) doc [] 0 0
  have htext : res = text := encodeUtf16_injective (hres.trans hunits.symm)
  subst htext
  have hleft : left = [] := by
    have hsections : ChangeSet.span ⟨cs.sections⟩ = cs.span := rfl
    cases left with
    | nil => rfl
    | cons c left =>
      have hc := lenUtf16_pos c
      rw [utf16Len_cons] at hlen
      omega
  subst hleft
  rw [nil_append, Nat.zero_add] at hrun
  rw [applyWithLimitU64, cs.saturatingSpan_eq, if_neg (by omega), hrun]
  dsimp only
  rw [if_neg (by exact fun h => h rfl), if_neg (Nat.not_lt_of_le hlimit)]

/-- The applier is the one on code units: it succeeds exactly on sections that span the document,
cut it between scalar values and give a text within the limit, and it names the first cut inside a
pair. -/
theorem applyWithLimit_reference (doc : Text) (cs : ChangeSet) (limit : Nat) :
    ((∃ a, applyWithLimitU64 doc (utf16Len doc) cs limit = .ok a) ↔
      cs.span ≤ u64Max ∧ cs.span = utf16Len doc ∧
        (∀ n ∈ boundaries cs.sections, isUtf16Boundary doc n = true) ∧
        ∃ text, encodeUtf16 text = referenceApply cs.sections (encodeUtf16 doc) ∧
          utf8Len text ≤ limit) ∧
    (∀ a, applyWithLimitU64 doc (utf16Len doc) cs limit = .ok a →
      encodeUtf16 a.text = referenceApply cs.sections (encodeUtf16 doc) ∧
        a.len16 = utf16Len a.text) ∧
    (∀ n, cs.span ≤ u64Max → cs.span = utf16Len doc →
      (boundaries cs.sections).find? (splitsPair doc) = some n →
        applyWithLimitU64 doc (utf16Len doc) cs limit = .error (.splitSurrogate n)) := by
  refine ⟨⟨?_, ?_⟩, ?_, ?_⟩
  · intro ⟨a, h⟩
    obtain ⟨hfits, hspan, haligned, hlimit, hunits, -⟩ := applyWithLimitU64_ok h
    exact ⟨hfits, hspan, haligned, a.text, hunits, hlimit⟩
  · intro ⟨hfits, hspan, haligned, text, hunits, hlimit⟩
    exact ⟨_, applyWithLimitU64_of_aligned hfits hspan haligned hunits hlimit⟩
  · intro a h
    exact (applyWithLimitU64_ok h).2.2.2.2
  · intro n hfits hspan hsplit
    have hrun := applySections_of_splits (Nat.le_of_eq hspan) hsplit (min cs.span u64Max) doc []
      0 0
    rw [applyWithLimitU64, cs.saturatingSpan_eq, if_neg (by omega), hrun, Nat.zero_add]

theorem applyWithLimit_reference_pairs : (∃ a, applyWithLimitU64 ['a', '😀', 'b'] 4
      ⟨[.retain 1, .edit 2 [['x'], ['😀']], .retain 1]⟩ 8 = .ok a) ∧
    applyWithLimitU64 ['😀', '😀'] 4 ⟨[.retain 1, .retain 2, .retain 1]⟩ 8 =
      .error (.splitSurrogate 1) := by
  constructor
  · apply (applyWithLimit_reference ['a', '😀', 'b'] _ 8).1.2
    exact ⟨by decide, by decide, by decide, ['a', 'x', '\n', '😀', 'b'], by decide, by decide⟩
  · exact (applyWithLimit_reference ['😀', '😀'] _ 8).2.2 1 (by decide) (by decide) (by decide)

/-- A cut inside a pair goes unnamed when the sections do not span the document, and when an earlier
cut is inside a pair too. -/
theorem split_reported_otherwise : (1 ∈ boundaries [.retain 1] ∧ splitsPair ['😀'] 1 = true ∧
      applyWithLimitU64 ['😀'] (utf16Len ['😀']) ⟨[.retain 1]⟩ 8 =
        .error (.lengthMismatch 1 2)) ∧
    (3 ∈ boundaries [.retain 1, .retain 2, .retain 1] ∧ splitsPair ['😀', '😀'] 3 = true ∧
      applyWithLimitU64 ['😀', '😀'] (utf16Len ['😀', '😀'])
        ⟨[.retain 1, .retain 2, .retain 1]⟩ 8 = .error (.splitSurrogate 1)) := by
  refine ⟨⟨?_, ?_, ?_⟩, ?_, ?_, ?_⟩
  · decide
  · decide
  · rfl
  · decide
  · decide
  · rfl

end Chan
