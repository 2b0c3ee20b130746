import Chan.Tmux.Chunking

namespace Chan.Tmux
open List

variable {d : Decoder}

/-- After a byte that does not go on with a pattern whose first element is nowhere else in it, only
that byte can belong to the next occurrence. -/
lemma suffix_restart [DecidableEq α] {e b : α} {t l q : List α} (he : e ∉ t) (hl : l <+: e :: t)
    (hb : ¬l ++ [b] <+: e :: t) :
    e :: t <:+ l ++ b :: q ↔ e :: t <:+ (if b = e then [e] else []) ++ q := by
  constructor
  · rintro ⟨before, heq⟩
    rcases List.append_eq_append_iff.1 heq with ⟨cut, rfl, htail⟩ | ⟨cut, rfl, htail⟩
    · -- The occurrence starts in `l`: at its front, for the first element stands nowhere else.
      cases cut with
      | nil =>
        obtain ⟨rfl, rfl⟩ := List.cons.inj htail
        rw [if_pos rfl]
        exact suffix_refl _
      | cons c cut =>
        obtain ⟨rfl, rfl⟩ := List.cons.inj htail
        cases before with
        | nil => exact absurd ⟨q, by simp⟩ hb
        | cons a before =>
          obtain ⟨-, hpre⟩ := List.cons_prefix_cons.1 hl
          exact absurd (hpre.subset (by simp)) he
    · cases cut with
      | nil =>
        obtain ⟨rfl, rfl⟩ := List.cons.inj htail
        rw [if_pos rfl]
        exact suffix_refl _
      | cons c cut =>
        obtain ⟨rfl, rfl⟩ := List.cons.inj htail
        exact (suffix_append cut _).trans (suffix_append _ _)
  · intro h
    refine h.trans ?_
    split
    · rename_i hbe
      rw [hbe]
      exact suffix_append _ _
    · exact (suffix_cons b q).trans (suffix_append _ _)

namespace Decoder

/-- The decoder looks for the marker, and it stands at the end of the bytes, with what was matched
before them. -/
def Marked (d : Decoder) (q : Bytes) : Prop :=
  d.armed = true ∧ marker <:+ marker.take d.matched ++ q

lemma not_marked_nil (h : d.matched < marker.length) : ¬Marked d [] := by
  rintro ⟨-, hmarked⟩
  have hlength := hmarked.length_le
  rw [append_nil, length_take] at hlength
  omega

/-- The decoder right after the marker: in control mode, at the start of a line. -/
def entered (d : Decoder) : Decoder :=
  { d with matched := 0, state := .control, line := [], opened := none, paneState := none }

lemma passByte_marked (hplain : d.state = .plain) (hmatched : d.matched < marker.length)
    (b : UInt8) :
    (d.Marked [b] ∧ d.passByte b = (d.entered, [.passthrough [b], .entered], .ok ())) ∨
    ∃ d' : Decoder, d.passByte b = (d', [.passthrough [b]], .ok ()) ∧ d'.state = .plain ∧
      d'.matched < marker.length ∧ d'.entered = d.entered ∧
        ∀ q, d'.Marked q ↔ d.Marked (b :: q) := by
  rw [passByte, plainByte]
  by_cases hb : d.armed ∧ some b = marker[d.matched]?
  · have htake : marker.take (d.matched + 1) = marker.take d.matched ++ [b] := by
      rw [take_add_one, ← hb.2]
      rfl
    rw [if_pos hb]
    by_cases hlast : d.matched + 1 = marker.length
    · rw [if_pos hlast]
      refine .inl ⟨⟨hb.1, ?_⟩, rfl⟩
      rw [← htake, hlast, take_length]
    · rw [if_neg hlast]
      refine .inr ⟨_, rfl, hplain, by dsimp only; omega, rfl, fun q => ?_⟩
      refine and_congr_right fun _ => ?_
      rw [htake, append_assoc]
      rfl
  · rw [if_neg hb]
    refine .inr ⟨_, rfl, hplain, ?_, rfl, fun q => and_congr_right fun harmed => ?_⟩
    · dsimp only
      split <;> decide +kernel
    · replace harmed : d.armed = true := harmed
      have hmiss : ¬marker.take d.matched ++ [b] <+: marker := by
        rintro ⟨t, ht⟩
        have hget := congrArg (·[d.matched]?) ht
        rw [append_assoc] at hget
        exact hb ⟨harmed, by simpa [List.getElem?_append, hmatched.le] using hget⟩
      refine Iff.trans ?_ (suffix_restart (by decide +kernel) (List.take_prefix _ _) hmiss).symm
      have hesc : (d.armed ∧ some b = marker[0]?) ↔ b = esc := by simp [harmed, marker]
      simp only [hesc]
      split <;> rfl

lemma bytes_unmarked (hplain : d.state = .plain) (hmatched : d.matched < marker.length)
    (h : ∀ q, q <+: p → ¬d.Marked q) : (bytes p d).2 = (singles p, .ok ()) := by
  induction p generalizing d with
  | nil => rfl
  | cons b p ih =>
    rw [bytes, byte_plain hplain]
    rcases passByte_marked hplain hmatched b with ⟨hb, -⟩ | ⟨d', heq, hplain, hlt, -, hiff⟩
    · exact absurd hb (h [b] ⟨p, rfl⟩)
    · have hrest := ih hplain hlt fun q hq hmarked =>
        h (b :: q) (List.cons_prefix_cons.2 ⟨rfl, hq⟩) ((hiff q).1 hmarked)
      rw [heq]
      show (.passthrough [b] :: (bytes p d').2.1, (bytes p d').2.2) = _
      rw [hrest]
      rfl

lemma bytes_marked (hplain : d.state = .plain) (hmatched : d.matched < marker.length)
    (hq : d.Marked q) (hfirst : ∀ q', q' <+: q → q' ≠ q → ¬d.Marked q') :
    (bytes (q ++ r) d).2 =
      (singles q ++ .entered :: (bytes r d.entered).2.1, (bytes r d.entered).2.2) := by
  induction q generalizing d with
  | nil => exact absurd hq (not_marked_nil hmatched)
  | cons b q ih =>
    rw [cons_append, bytes, byte_plain hplain]
    rcases passByte_marked hplain hmatched b with
      ⟨hb, heq⟩ | ⟨d', heq, hplain, hlt, hentered, hiff⟩
    · obtain rfl : q = [] := by
        by_contra hne
        exact hfirst [b] ⟨q, rfl⟩ (fun h => hne (List.cons.inj h).2.symm) hb
      rw [heq]
      rfl
    · have hrest := ih hplain hlt ((hiff q).2 hq) fun q' hq' hne hmarked =>
        hfirst (b :: q') (List.cons_prefix_cons.2 ⟨rfl, hq'⟩) (fun h => hne (List.cons.inj h).2)
          ((hiff q').1 hmarked)
      rw [heq, ← hentered]
      show (.passthrough [b] :: (bytes (q ++ r) d').2.1, (bytes (q ++ r) d').2.2) = _
      rw [hrest]
      rfl

/-- What is left of the bytes after an exit: the string terminator is dropped, and an escape that
may begin it waits. -/
def closing : Bytes → Bytes
  | [] => []
  | [b] => if b = esc then [] else [b]
  | b :: c :: rest => if b = esc ∧ c = backslash then rest else b :: c :: rest

/-- The bytes that reach the terminal, but for those of control mode. -/
def outside (d : Decoder) (input : Bytes) : Bytes :=
  match d.state with
  | .awaitSt escaped => closing (if escaped then esc :: input else input)
  | _ => input

lemma bytes_escaped (h : d.state = .awaitSt true) (c : UInt8) (rest : Bytes) :
    (bytes (c :: rest) d).2 =
    (bytes (closing (esc :: c :: rest)) { d with state := .plain }).2 := by
  rw [bytes, byte_await h, closeByte, if_neg (by simp), closing]
  by_cases hc : c = backslash
  · rw [if_pos ⟨rfl, hc⟩, if_pos ⟨rfl, hc⟩]
    rfl
  · have hplain : ({ d with state := .plain }.passByte esc).1.state = .plain :=
        plainByte_esc _ [] []
    rw [if_neg fun h => hc h.2, if_neg fun h => hc h.2]
    dsimp only
    rw [if_pos rfl, Outcome.andThen_assoc, bytes, byte_plain rfl]
    refine congrArg (fun r : Outcome => (r.after _).2) ?_
    rw [bytes, byte_plain hplain]

lemma bytes_outside (hstate : d.state ≠ .control) :
    (bytes p d).2 = (bytes (d.outside p) { d with state := .plain }).2 := by
  rw [outside]
  cases h : d.state with
  | plain =>
    have hd : { d with state := .plain } = d := by
      cases d
      cases h
      rfl
    rw [hd]
  | control => exact absurd h hstate
  | awaitSt escaped =>
    cases p with
    | nil => cases escaped <;> rfl
    | cons b rest =>
      cases escaped with
      | true => exact bytes_escaped h b rest
      | false =>
        rw [bytes, byte_await h, closeByte]
        by_cases hb : b = esc
        · rw [if_pos ⟨rfl, hb⟩, hb]
          cases rest with
          | nil => rfl
          | cons c rest => exact bytes_escaped (d := { d with state := .awaitSt true }) rfl c rest
        · have hclosing : closing (b :: rest) = b :: rest := by
            cases rest with
            | nil => exact if_neg hb
            | cons c rest => exact if_neg fun h => hb h.1
          rw [if_neg fun h => hb h.2, if_neg (by simp)]
          show _ = (bytes (closing (b :: rest)) _).2
          rw [hclosing, bytes, byte_plain rfl]
          rfl

/-- Outside control mode every byte reaches the terminal, those of the marker too. The decoder
enters control mode if it is armed and has read the marker, at the marker's first end, and reads the
rest there. -/
theorem marker_found (hlive : d.poisoned = false) (hstate : d.state ≠ .control)
    (hmatched : d.matched < marker.length) (chunks : List Bytes) :
    ((∀ q, q <+: d.outside chunks.flatten → ¬d.Marked q) →
      merge (d.feedAll chunks).2.1 = (Frame.passthrough (d.outside chunks.flatten)).join [] ∧
      (d.feedAll chunks).2.2 = .ok ()) ∧
    ∀ q r, d.outside chunks.flatten = q ++ r → d.Marked q →
      (∀ q', q' <+: q → q' ≠ q → ¬d.Marked q') →
      merge (d.feedAll chunks).2.1 =
        .passthrough q :: .entered :: merge (d.entered.feedAll [r]).2.1 ∧
      (d.feedAll chunks).2.2 = (d.entered.feedAll [r]).2.2 := by
  have hspells := feedAll_spells hlive chunks
  have hbytes := bytes_outside (p := chunks.flatten) hstate
  have hmerge : merge (d.feedAll chunks).2.1 =
      merge (bytes (d.outside chunks.flatten) { d with state := .plain }).2.1 := by
    rw [← merge_spread, hspells.frames, ← hbytes]
    rfl
  constructor
  · intro h
    have hpass := bytes_unmarked (d := { d with state := .plain }) rfl hmatched h
    rw [hmerge, hpass, hspells.result]
    refine ⟨?_, (congrArg Prod.snd hbytes).trans (congrArg Prod.snd hpass)⟩
    rw [← append_nil (singles _)]
    exact merge_singles _ []
  · intro q r heq hq hfirst
    have hmarked := bytes_marked (d := { d with state := .plain }) (r := r) rfl hmatched hq hfirst
    have hrest := feedAll_spells (d := d.entered) hlive [r]
    rw [flatten_singleton] at hrest
    constructor
    · rw [← merge_spread (d.entered.feedAll [r]).2.1, hrest.frames, hmerge, heq, hmarked,
        merge_singles]
      cases q with
      | nil => exact absurd hq (not_marked_nil hmatched)
      | cons b q => rfl
    · rw [heq, hmarked] at hbytes
      have hresult : (bytes chunks.flatten d).2.2 = (bytes r d.entered).2.2 :=
        congrArg (·.2) hbytes
      rw [hspells.result, hrest.result]
      exact hresult

theorem marker_found_split :
    merge (feedAll [marker.take 3, marker.drop 3 ++ [newline]]
        { new .default with armed := true }).2.1 =
      .passthrough marker :: .entered ::
        merge (feedAll [[newline]] { new .default with armed := true, state := .control }).2.1 :=
  ((marker_found (d := { new .default with armed := true }) rfl nofun (by decide +kernel)
    [marker.take 3, marker.drop 3 ++ [newline]]).2 marker [newline] (by decide +kernel)
    ⟨rfl, suffix_refl _⟩ fun q' hq hne h => hne (hq.eq_of_length_le h.2.length_le)).1

/-- The marker's own bytes are passed on. -/
theorem marker_passed : (feed marker { new .default with armed := true }).2 =
    ([.passthrough marker, .entered], .ok ()) := by
  decide +kernel

end Decoder

end Chan.Tmux
