import Chan.Lib.Utf
import Chan.Workspace

namespace Chan
open Utf List

variable {lines : List Text}

inductive Section
  | retain (n : Nat)
  | edit (del : Nat) (lines : List Text)
  deriving DecidableEq

structure ChangeSet where
  sections : List Section
  deriving DecidableEq

structure Update where
  clientId : Text
  changes : ChangeSet
  deriving DecidableEq

structure Applied where
  text : Text
  len16 : Nat
  deriving DecidableEq

inductive ApplyError
  | splitSurrogate («at» : Nat)
  | lengthMismatch (span doc : Nat)
  | docTooLarge (bytes limit : Nat)
  deriving DecidableEq

inductive AdvanceErr
  | eof
  | split («at» : Nat)
  deriving DecidableEq

def AdvanceErr.intoApply (span : Nat) (doc : Text) : AdvanceErr → ApplyError
  | .eof => .lengthMismatch span (utf16Len doc)
  | .split p => .splitSurrogate p

def advance : Text → Nat → Nat → Except AdvanceErr (Text × Text × Nat)
  | rest, pos16, 0 => .ok ([], rest, pos16)
  | [], _, _ + 1 => .error .eof
  | c :: rest, pos16, n + 1 =>
    if n + 1 < lenUtf16 c then .error (.split (pos16 + (n + 1)))
    else
      match advance rest (pos16 + lenUtf16 c) (n + 1 - lenUtf16 c) with
      | .error e => .error e
      | .ok (passed, left, pos) => .ok (c :: passed, left, pos)

def pushLines (first : Bool) : List Text → Text × Nat
  | [] => ([], 0)
  | line :: lines =>
    let (text, n) := pushLines false lines
    if first then (line ++ text, utf16Len line + n)
    else ('\n' :: (line ++ text), 1 + (utf16Len line + n))

def applySections (span : Nat) (doc : Text) :
    List Section → Text → Nat → Text → Nat → Except ApplyError (Text × Nat × Text)
  | [], out, outLen16, rest, _ => .ok (out, outLen16, rest)
  | .retain n :: ss, out, outLen16, rest, pos16 =>
    match advance rest pos16 n with
    | .error e => .error (e.intoApply span doc)
    | .ok (passed, left, pos) =>
      applySections span doc ss (out ++ passed) (outLen16 + n) left pos
  | .edit del lines :: ss, out, outLen16, rest, pos16 =>
    match advance rest pos16 del with
    | .error e => .error (e.intoApply span doc)
    | .ok (_, left, pos) =>
      let (text, n) := pushLines true lines
      applySections span doc ss (out ++ text) (outLen16 + n) left pos

def Section.span : Section → Nat
  | .retain n => n
  | .edit del _ => del

def ChangeSet.span (cs : ChangeSet) : Nat := (cs.sections.map Section.span).sum

def applyWithLimit (doc : Text) (docLen16 : Nat) (cs : ChangeSet) (limit : Nat) :
    Except ApplyError Applied :=
  -- The source's total saturates at `u64Max`, which no document length reaches.
  if cs.span ≠ docLen16 then .error (.lengthMismatch (min cs.span u64Max) docLen16)
  else
    match applySections cs.span doc cs.sections [] 0 doc 0 with
    | .error e => .error e
    | .ok (out, outLen16, rest) =>
      if rest ≠ [] then .error (.lengthMismatch cs.span (utf16Len doc))
      else if limit < utf8Len out then .error (.docTooLarge (utf8Len out) limit)
      else .ok ⟨out, outLen16⟩

def applyAllWithLimit (limit : Nat) : Text → Nat → List Update → Except ApplyError Applied
  | doc, docLen16, [] => .ok ⟨doc, docLen16⟩
  | doc, docLen16, u :: us =>
    match applyWithLimit doc docLen16 u.changes limit with
    | .error e => .error e
    | .ok a => applyAllWithLimit limit a.text a.len16 us

def diffPrefix (old new : Text) : Nat :=
  backOff (fun n => isCharBoundary old n && isCharBoundary new n)
    (((bytes old).zip (bytes new)).takeWhile fun p => p.1 == p.2).length

def diffSuffix (old new : Text) : Nat :=
  backOff (fun n => isCharBoundary old (utf8Len old - n) && isCharBoundary new (utf8Len new - n))
    ((List.range (min (utf8Len old) (utf8Len new) - diffPrefix old new)).takeWhile fun i =>
      (bytes old)[utf8Len old - 1 - i]? == (bytes new)[utf8Len new - 1 - i]?).length

def replaceDiff (old new : Text) : ChangeSet :=
  let front := diffPrefix old new
  let back := diffSuffix old new
  let midOld := sliceBytes old front (utf8Len old - back)
  let midNew := sliceBytes new front (utf8Len new - back)
  let lines := if midNew = [] then [] else midNew.splitOn '\n'
  ⟨(if 0 < front then [.retain (utf16Len (takeBytes old front))] else []) ++
    (if midOld ≠ [] ∨ midNew ≠ [] then [.edit (utf16Len midOld) lines] else []) ++
    (if 0 < back then [.retain (utf16Len (dropBytes old (utf8Len old - back)))] else [])⟩

lemma advance_ok (h : advance t p n = .ok (a, b, q)) :
    t = a ++ b ∧ utf16Len a = n ∧ q = p + n := by
  induction t generalizing p n a with
  | nil =>
    cases n with
    | zero => cases h; exact ⟨rfl, rfl, rfl⟩
    | succ n => cases h
  | cons c t ih =>
    cases n with
    | zero => cases h; exact ⟨rfl, rfl, rfl⟩
    | succ n =>
      grind [advance, utf16Len_cons]

lemma advance_append (a b : Text) (p : Nat) :
    advance (a ++ b) p (utf16Len a) = .ok (a, b, p + utf16Len a) := by
  induction a generalizing p with
  | nil => cases b <;> rfl
  | cons c a ih =>
    have hc := lenUtf16_pos c
    have hlen := utf16Len_cons c a
    obtain ⟨n, hn⟩ : ∃ n, utf16Len (c :: a) = n + 1 := ⟨utf16Len (c :: a) - 1, by omega⟩
    have hsub : n + 1 - lenUtf16 c = utf16Len a := by omega
    rw [hn, cons_append, advance, if_neg (by omega), hsub, ih]
    simp only [Except.ok.injEq, Prod.mk.injEq, true_and]
    omega

lemma pushLines_false : pushLines false lines =
      (lines.flatMap ('\n' :: ·), utf16Len (lines.flatMap ('\n' :: ·))) := by
  induction lines with
  | nil => rfl
  | cons line lines ih =>
    have hn : lenUtf16 '\n' = 1 := by decide
    simp [pushLines, ih, utf16Len_cons, utf16Len_append, hn]

lemma intercalate_newline :
    ['\n'].intercalate (line :: lines) = line ++ lines.flatMap ('\n' :: ·) := by
  induction lines generalizing line with
  | nil => simp
  | cons l lines ih =>
    have hstep : ['\n'].intercalate (line :: l :: lines) =
        line ++ '\n' :: ['\n'].intercalate (l :: lines) := by
      simp
    rw [hstep, ih, flatMap_cons, cons_append]

lemma pushLines_true (lines : List Text) :
    pushLines true lines = (['\n'].intercalate lines, utf16Len (['\n'].intercalate lines)) := by
  cases lines with
  | nil => rfl
  | cons line lines =>
    simp [pushLines, pushLines_false, intercalate_newline, utf16Len_append]

lemma applySections_ok (h : applySections k d ss out n t p = .ok (out', n', t'))
    (hn : n = utf16Len out) : n' = utf16Len out' := by
  induction ss generalizing out n t p with
  | nil =>
    obtain ⟨rfl, rfl, rfl⟩ := h
    exact hn
  | cons s ss ih =>
    cases s with
    | retain m =>
      simp only [applySections] at h
      cases hr : advance t p m with
      | error e => simp only [hr] at h; cases h
      | ok r =>
        simp only [hr] at h
        obtain ⟨_, ha, _⟩ := advance_ok hr
        exact ih h (by rw [utf16Len_append, ha, hn])
    | edit del lines =>
      simp only [applySections] at h
      cases hr : advance t p del with
      | error e => simp only [hr] at h; cases h
      | ok r =>
        simp only [hr, pushLines_true] at h
        exact ih h (by rw [utf16Len_append, hn])

lemma applyWithLimit_eq_ok (h : applyWithLimit d n cs l = .ok a) :
    a.len16 = utf16Len a.text ∧ utf8Len a.text ≤ l := by
  simp only [applyWithLimit] at h
  split at h
  · cases h
  · cases hr : applySections cs.span d cs.sections [] 0 d 0 with
    | error e => simp only [hr] at h; cases h
    | ok r =>
      simp only [hr] at h
      split at h
      · cases h
      · split at h
        · cases h
        · rename_i hle
          cases h
          exact ⟨applySections_ok hr rfl, Nat.le_of_not_lt hle⟩

def ChangeSet.inserted (cs : ChangeSet) : List Text :=
  cs.sections.flatMap fun
    | .retain _ => []
    | .edit _ lines => lines

lemma mem_pushLines (h : c ∈ (pushLines first lines).1) :
    c = '\n' ∨ ∃ line ∈ lines, c ∈ line := by
  induction lines generalizing first with
  | nil => cases h
  | cons line lines ih =>
    have hrest : c ∈ line ∨ c ∈ (pushLines false lines).1 →
        c = '\n' ∨ ∃ l ∈ line :: lines, c ∈ l := by
      rintro (hl | hr)
      · exact .inr ⟨line, mem_cons_self, hl⟩
      · rcases ih hr with hn | ⟨l, hl, hc⟩
        · exact .inl hn
        · exact .inr ⟨l, mem_cons_of_mem _ hl, hc⟩
    simp only [pushLines] at h
    split at h
    · exact hrest (List.mem_append.1 h)
    · rcases List.mem_cons.1 h with hn | h
      · exact .inl hn
      · exact hrest (List.mem_append.1 h)

lemma mem_applySections (h : applySections k d ss out n t p = .ok (out', n', t'))
    (hc : c ∈ out') :
    c ∈ out ∨ c ∈ t ∨ c = '\n' ∨ ∃ line ∈ (ChangeSet.mk ss).inserted, c ∈ line := by
  induction ss generalizing out n t p with
  | nil =>
    obtain ⟨rfl, rfl, rfl⟩ := h
    exact .inl hc
  | cons s ss ih =>
    cases s with
    | retain m =>
      simp only [applySections] at h
      cases hr : advance t p m with
      | error e => simp only [hr] at h; cases h
      | ok r =>
        obtain ⟨a, b, q⟩ := r
        simp only [hr] at h
        obtain ⟨rfl, _, _⟩ := advance_ok hr
        rcases ih h with ho | ht | hrest
        · rcases List.mem_append.1 ho with ho | ha
          · exact .inl ho
          · exact .inr (.inl (mem_append_left b ha))
        · exact .inr (.inl (mem_append_right a ht))
        · exact .inr (.inr hrest)
    | edit del lines =>
      simp only [applySections] at h
      cases hr : advance t p del with
      | error e => simp only [hr] at h; cases h
      | ok r =>
        obtain ⟨a, b, q⟩ := r
        simp only [hr] at h
        obtain ⟨rfl, _, _⟩ := advance_ok hr
        rcases ih h with ho | ht | hn | ⟨line, hl, hline⟩
        · rcases List.mem_append.1 ho with ho | hp
          · exact .inl ho
          · rcases mem_pushLines hp with hn | ⟨line, hl, hline⟩
            · exact .inr (.inr (.inl hn))
            · exact .inr (.inr (.inr ⟨line, mem_append_left _ hl, hline⟩))
        · exact .inr (.inl (mem_append_right a ht))
        · exact .inr (.inr (.inl hn))
        · exact .inr (.inr (.inr ⟨line, mem_append_right _ hl, hline⟩))

lemma mem_applyWithLimit (h : applyWithLimit d n cs l = .ok a) (hc : c ∈ a.text) :
    c ∈ d ∨ c = '\n' ∨ ∃ line ∈ cs.inserted, c ∈ line := by
  simp only [applyWithLimit] at h
  split at h
  · cases h
  · cases hr : applySections cs.span d cs.sections [] 0 d 0 with
    | error e => simp only [hr] at h; cases h
    | ok r =>
      simp only [hr] at h
      split at h
      · cases h
      · split at h
        · cases h
        · cases h
          exact (mem_applySections hr hc).resolve_left not_mem_nil

lemma applyWithLimit_of_le (h : applyWithLimit d n cs l = .ok a)
    (hl : utf8Len a.text ≤ m) : applyWithLimit d n cs m = .ok a := by
  simp only [applyWithLimit] at h ⊢
  split at h
  · cases h
  · grind

lemma applyWithLimit_identity : applyWithLimit t (utf16Len t) ⟨[.retain (utf16Len t)]⟩ l =
      if l < utf8Len t then .error (.docTooLarge (utf8Len t) l) else .ok ⟨t, utf16Len t⟩ := by
  have hspan : ChangeSet.span ⟨[.retain (utf16Len t)]⟩ = utf16Len t := by
    simp [ChangeSet.span, Section.span]
  have ha := advance_append t [] 0
  rw [append_nil] at ha
  simp [applyWithLimit, hspan, applySections, ha]

lemma diffPrefix_split (old new : Text) :
    ∃ a b d, old = a ++ b ∧ new = a ++ d ∧ utf8Len a = diffPrefix old new := by
  have hok := backOff_ok (fun n => isCharBoundary old n && isCharBoundary new n)
    (by cases old <;> cases new <;> rfl)
    (((bytes old).zip (bytes new)).takeWhile fun p => p.1 == p.2).length
  rw [Bool.and_eq_true] at hok
  obtain ⟨a, b, hold, ha⟩ := isCharBoundary_split hok.1
  obtain ⟨a', d, hnew, ha'⟩ := isCharBoundary_split hok.2
  have htake := take_eq_take_of_zip_takeWhile (backOff_le
    (fun n => isCharBoundary old n && isCharBoundary new n)
    (((bytes old).zip (bytes new)).takeWhile fun p => p.1 == p.2).length)
  have heq : a = a' := by
    apply bytes_injective
    rw [← take_bytes_utf8Len a b, ← take_bytes_utf8Len a' d, ← hold, ← hnew, ha, ha']
    exact htake
  subst heq
  exact ⟨a, b, d, hold, hnew, ha⟩

lemma diffSuffix_le (old new : Text) :
    diffSuffix old new ≤ min (utf8Len old) (utf8Len new) - diffPrefix old new := by
  apply Nat.le_trans (backOff_le _ _)
  apply Nat.le_trans (List.takeWhile_prefix _).length_le
  exact Nat.le_of_eq length_range

lemma diffSuffix_split (old new : Text) :
    ∃ x y c, old = x ++ c ∧ new = y ++ c ∧ utf8Len c = diffSuffix old new := by
  have hle := diffSuffix_le old new
  have hok : (isCharBoundary old (utf8Len old - diffSuffix old new) &&
      isCharBoundary new (utf8Len new - diffSuffix old new)) = true := by
    apply backOff_ok (fun n => isCharBoundary old (utf8Len old - n) &&
      isCharBoundary new (utf8Len new - n))
    have ho := isCharBoundary_utf8Len old []
    have hn := isCharBoundary_utf8Len new []
    rw [append_nil] at ho hn
    rw [Nat.sub_zero, Nat.sub_zero, ho, hn, Bool.and_true]
  rw [Bool.and_eq_true] at hok
  obtain ⟨x, c, hold, hx⟩ := isCharBoundary_split hok.1
  obtain ⟨y, c', hnew, hy⟩ := isCharBoundary_split hok.2
  have hagree : ∀ i < diffSuffix old new,
      (bytes old)[(bytes old).length - 1 - i]? = (bytes new)[(bytes new).length - 1 - i]? := by
    intro i hi
    rw [length_bytes, length_bytes]
    exact eq_of_beq (of_lt_takeWhile_range (Nat.lt_of_lt_of_le hi (backOff_le _ _)))
  have hdrop := drop_eq_drop_of_agree (by rw [length_bytes]; omega) (by rw [length_bytes]; omega)
    hagree
  have heq : c = c' := by
    apply bytes_injective
    rw [← drop_bytes_utf8Len x c, ← drop_bytes_utf8Len y c', ← hold, ← hnew, hx, hy,
      ← length_bytes, ← length_bytes]
    exact hdrop
  subst heq
  have hlen := congrArg utf8Len hold
  rw [utf8Len_append] at hlen
  exact ⟨x, y, c, hold, hnew, by omega⟩

lemma diff_split (old new : Text) :
    ∃ a mo mn c, old = a ++ mo ++ c ∧ new = a ++ mn ++ c ∧
      utf8Len a = diffPrefix old new ∧ utf8Len c = diffSuffix old new := by
  obtain ⟨a, b, d, hold, hnew, ha⟩ := diffPrefix_split old new
  obtain ⟨x, y, c, hold', hnew', hc⟩ := diffSuffix_split old new
  have hle := diffSuffix_le old new
  have hx := congrArg utf8Len hold'
  have hy := congrArg utf8Len hnew'
  have ho := congrArg utf8Len hold
  have hn := congrArg utf8Len hnew
  rw [utf8Len_append] at hx hy ho hn
  obtain ⟨mo, hmo, _⟩ := exists_append_of_utf8Len_le (hold.symm.trans hold') (by omega)
  obtain ⟨mn, hmn, _⟩ := exists_append_of_utf8Len_le (hnew.symm.trans hnew') (by omega)
  exact ⟨a, mo, mn, c, by rw [← hmo, hold'], by rw [← hmn, hnew'], ha, hc⟩

lemma applySections_retain (h : b = decide (0 < utf8Len a)) :
    applySections k d ((if b then [.retain (utf16Len a)] else []) ++ ss) out n (a ++ t) p =
      applySections k d ss (out ++ a) (n + utf16Len a) t (p + utf16Len a) := by
  subst h
  by_cases ha : 0 < utf8Len a
  · rw [if_pos (decide_eq_true ha), singleton_append, applySections, advance_append]
  · have hnil : a = [] := utf8Len_eq_zero (Nat.eq_zero_of_not_pos ha)
    subst hnil
    simp [utf8Len_nil, utf16Len_nil]

lemma applySections_edit : applySections k d
      ((if mo ≠ [] ∨ mn ≠ [] then
        [.edit (utf16Len mo) (if mn = [] then [] else mn.splitOn '\n')] else []) ++ ss)
      out n (mo ++ t) p =
      applySections k d ss (out ++ mn) (n + utf16Len mn) t (p + utf16Len mo) := by
  have hlines : ['\n'].intercalate (if mn = [] then [] else mn.splitOn '\n') = mn := by
    split
    · rename_i h; rw [h]; rfl
    · exact intercalate_splitOn '\n'
  split
  · simp [applySections, advance_append, pushLines_true, hlines]
  · rename_i h
    rw [not_or, not_not, not_not] at h
    obtain ⟨rfl, rfl⟩ := h
    simp [utf16Len_nil]

lemma replaceDiff_eq :
    ∃ a mo mn c, old = a ++ mo ++ c ∧ new = a ++ mn ++ c ∧ replaceDiff old new =
      ⟨(if decide (0 < utf8Len a) then [.retain (utf16Len a)] else []) ++
        ((if mo ≠ [] ∨ mn ≠ [] then
          [.edit (utf16Len mo) (if mn = [] then [] else mn.splitOn '\n')] else []) ++
        ((if decide (0 < utf8Len c) then [.retain (utf16Len c)] else []) ++ []))⟩ := by
  obtain ⟨a, mo, mn, c, hold, hnew, ha, hc⟩ := diff_split old new
  have hlo : utf8Len old - utf8Len c = utf8Len (a ++ mo) := by
    rw [hold, utf8Len_append, Nat.add_sub_cancel]
  have hln : utf8Len new - utf8Len c = utf8Len (a ++ mn) := by
    rw [hnew, utf8Len_append, Nat.add_sub_cancel]
  have htake : takeBytes old (utf8Len a) = a := by rw [hold, append_assoc, takeBytes_utf8Len]
  have hmo : sliceBytes old (utf8Len a) (utf8Len (a ++ mo)) = mo := by
    rw [hold, sliceBytes_middle]
  have hmn : sliceBytes new (utf8Len a) (utf8Len (a ++ mn)) = mn := by
    rw [hnew, sliceBytes_middle]
  have hdrop : dropBytes old (utf8Len (a ++ mo)) = c := by rw [hold, dropBytes_utf8Len]
  apply Exists.intro a
  apply Exists.intro mo
  apply Exists.intro mn
  apply Exists.intro c
  apply And.intro hold
  apply And.intro hnew
  simp only [replaceDiff, ← ha, ← hc, hlo, hln, htake, hmo, hmn, hdrop, decide_eq_true_eq,
    append_nil, append_assoc]

lemma span_append : ChangeSet.span ⟨ss ++ ts⟩ = ChangeSet.span ⟨ss⟩ + ChangeSet.span ⟨ts⟩ := by
  simp [ChangeSet.span]

lemma span_retain :
    ChangeSet.span ⟨if decide (0 < utf8Len a) then [.retain (utf16Len a)] else []⟩ =
      utf16Len a := by
  by_cases ha : 0 < utf8Len a
  · rw [if_pos (decide_eq_true ha)]
    rfl
  · rw [utf8Len_eq_zero (Nat.eq_zero_of_not_pos ha)]
    rfl

lemma span_edit : ChangeSet.span ⟨if mo ≠ [] ∨ mn ≠ [] then [.edit (utf16Len mo) lines] else []⟩ =
      utf16Len mo := by
  split
  · rfl
  · rename_i h
    rw [not_or, not_not] at h
    rw [h.1]
    rfl

lemma replaceDiff_span : (replaceDiff old new).span = utf16Len old := by
  obtain ⟨a, mo, mn, c, hold, -, hdiff⟩ := replaceDiff_eq
  rw [hdiff, span_append, span_append, span_append, span_retain, span_edit, span_retain, hold,
    utf16Len_append, utf16Len_append, Nat.add_assoc]
  rfl

lemma applyWithLimit_replaceDiff (old new : Text) (hl : utf8Len new ≤ l) :
    applyWithLimit old (utf16Len old) (replaceDiff old new) l = .ok ⟨new, utf16Len new⟩ := by
  obtain ⟨a, mo, mn, c, hold, hnew, hdiff⟩ := replaceDiff_eq
  have hrun : applySections (utf16Len old) old (replaceDiff old new).sections [] 0 old 0 =
      .ok (new, utf16Len new, []) := by
    rw [hdiff]
    have hsplit : old = a ++ (mo ++ (c ++ [])) := by
      rw [hold, append_nil, append_assoc]
    nth_rewrite 3 [hsplit]
    rw [applySections_retain rfl, applySections_edit, applySections_retain rfl, applySections,
      hnew, nil_append, utf16Len_append, utf16Len_append, Nat.zero_add]
  simp [applyWithLimit, replaceDiff_span, hrun, Nat.not_lt_of_le hl]

/-- The offsets at which a text is cut lie in it, in order, and between two scalar values. -/
def SlicedAt (t : Text) (front back : Nat) : Prop :=
  front + back ≤ utf8Len t ∧ isCharBoundary t front = true ∧
    isCharBoundary t (utf8Len t - back) = true

lemma slicedAt_append (a m c : Text) : SlicedAt (a ++ m ++ c) (utf8Len a) (utf8Len c) := by
  refine ⟨?_, ?_, ?_⟩
  · rw [utf8Len_append, utf8Len_append]
    omega
  · rw [append_assoc]
    exact isCharBoundary_utf8Len a (m ++ c)
  · rw [utf8Len_append, Nat.add_sub_cancel]
    exact isCharBoundary_utf8Len (a ++ m) c

/-- The change from one text to another cuts both between scalar values, spans the old one and turns
it into the new one. -/
theorem replaceDiff_round_trip (old new : Text) :
    SlicedAt old (diffPrefix old new) (diffSuffix old new) ∧
      SlicedAt new (diffPrefix old new) (diffSuffix old new) ∧
      (replaceDiff old new).span = utf16Len old ∧
      ∀ limit, utf8Len new ≤ limit →
        applyWithLimit old (utf16Len old) (replaceDiff old new) limit =
          .ok ⟨new, utf16Len new⟩ := by
  obtain ⟨a, mo, mn, c, hold, hnew, ha, hc⟩ := diff_split old new
  have hslicedOld := slicedAt_append a mo c
  have hslicedNew := slicedAt_append a mn c
  rw [← hold, ha, hc] at hslicedOld
  rw [← hnew, ha, hc] at hslicedNew
  refine ⟨hslicedOld, hslicedNew, replaceDiff_span, ?_⟩
  intro limit hlimit
  exact applyWithLimit_replaceDiff old new hlimit

theorem replaceDiff_round_trip_pairs :
    applyWithLimit ['a', '😀', 'b'] 4 (replaceDiff ['a', '😀', 'b'] ['a', '😁', '\n', 'b']) 7 =
      .ok ⟨['a', '😁', '\n', 'b'], 5⟩ :=
  (replaceDiff_round_trip ['a', '😀', 'b'] ['a', '😁', '\n', 'b']).2.2.2 7 (by decide)

end Chan
