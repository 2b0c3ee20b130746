import Chan.Tmux.Decode

namespace Chan.Tmux
open List

variable {d : Decoder} {pass : Bytes}

/-- A frame before others, joined to the next when both pass bytes. -/
def Frame.join : Frame → List Frame → List Frame
  | .passthrough [], fs => fs
  | .passthrough p, .passthrough q :: fs => .passthrough (p ++ q) :: fs
  | f, fs => f :: fs

def merge (fs : List Frame) : List Frame := fs.foldr Frame.join []

/-- The frames with each passed byte in a frame of its own. -/
def spread (fs : List Frame) : List Frame :=
  fs.flatMap fun
    | .passthrough p => p.map fun b => .passthrough [b]
    | f => [f]

def singles (p : Bytes) : List Frame := p.map fun b => .passthrough [b]

lemma spread_append : spread (fs ++ gs) = spread fs ++ spread gs := flatMap_append

lemma spread_flush : spread (flush pass out) = spread out ++ singles pass := by
  unfold flush
  split
  · rename_i hnil
    rw [hnil]
    exact (append_nil _).symm
  · rw [spread_append]
    exact congrArg _ (append_nil _)

lemma spread_flush_append :
    spread (flush (pass ++ p) out) = spread (flush pass out) ++ singles p := by
  rw [spread_flush, spread_flush, append_assoc]
  exact congrArg _ map_append

lemma merge_singles (p : Bytes) (fs : List Frame) :
    merge (singles p ++ fs) = (Frame.passthrough p).join (merge fs) := by
  induction p with
  | nil => rfl
  | cons b p ih =>
    refine (congrArg (Frame.passthrough [b]).join ih).trans ?_
    cases p with
    | nil =>
      cases merge fs with
      | nil => rfl
      | cons f => cases f <;> rfl
    | cons c p =>
      cases merge fs with
      | nil => rfl
      | cons f => cases f <;> rfl

lemma merge_spread (fs : List Frame) : merge (spread fs) = merge fs := by
  induction fs with
  | nil => rfl
  | cons f fs ih =>
    cases f with
    | passthrough p => exact (merge_singles p (spread fs)).trans (congrArg _ ih)
    | _ => exact congrArg (_ :: ·) ih

namespace Decoder

abbrev Outcome : Type := Decoder × List Frame × Except Error Unit

def Outcome.after (frames : List Frame) (r : Outcome) : Outcome := (r.1, frames ++ r.2.1, r.2.2)

def Outcome.andThen (r : Outcome) (f : Decoder → Outcome) : Outcome :=
  match r.2.2 with
  | .error _ => r
  | .ok _ => (f r.1).after r.2.1

lemma Outcome.after_after (r : Outcome) : (r.after fs).after gs = r.after (gs ++ fs) :=
  Prod.ext rfl (Prod.ext (append_assoc ..).symm rfl)

lemma Outcome.andThen_assoc (r : Outcome) :
    (r.andThen f).andThen g = r.andThen fun d => (f d).andThen g := by
  obtain ⟨d, frames, result⟩ := r
  cases result with
  | error e => rfl
  | ok u =>
    show ((f d).after frames).andThen g = ((f d).andThen g).after frames
    generalize f d = r
    obtain ⟨d, frames', result⟩ := r
    cases result with
    | error e => rfl
    | ok u => exact (Outcome.after_after _).symm

def passByte (b : UInt8) (d : Decoder) : Outcome :=
  let (d, pass, out) := d.plainByte b [] []
  (d, spread (flush pass out), .ok ())

def lineByte (b : UInt8) (d : Decoder) : Outcome :=
  match d.pushLineBytes (if b = newline then [] else [b]) with
  | .error e => (d, [], .error e)
  | .ok d =>
    if b ≠ newline then (d, [], .ok ())
    else match d.finishLine with
      | (d, .error e) => (d, [], .error e)
      | (d, .ok frame) => (d, spread frame.toList, .ok ())

def closeByte (escaped : Bool) (b : UInt8) (d : Decoder) : Outcome :=
  if !escaped ∧ b = esc then ({ d with state := .awaitSt true }, [], .ok ())
  else if escaped ∧ b = backslash then ({ d with state := .plain }, [], .ok ())
  else
    let d := { d with state := .plain }
    (if escaped then d.passByte esc else (d, [], .ok ()) : Outcome).andThen (passByte b)

def byte (b : UInt8) (d : Decoder) : Outcome :=
  match d.state with
  | .plain => d.passByte b
  | .control => d.lineByte b
  | .awaitSt escaped => d.closeByte escaped b

def bytes : Bytes → Decoder → Outcome
  | [], d => (d, [], .ok ())
  | b :: rest, d => (d.byte b).andThen (bytes rest)

lemma byte_plain (h : d.state = .plain) : d.byte b = d.passByte b := by rw [byte, h]

lemma byte_control (h : d.state = .control) : d.byte b = d.lineByte b := by rw [byte, h]

lemma byte_await (h : d.state = .awaitSt escaped) : d.byte b = d.closeByte escaped b := by
  rw [byte, h]

lemma bytes_append (p q : Bytes) (d : Decoder) :
    bytes (p ++ q) d = (bytes p d).andThen (bytes q) := by
  induction p generalizing d with
  | nil => rfl
  | cons b p ih =>
    rw [bytes, Outcome.andThen_assoc]
    exact congrArg _ (funext ih)

lemma plainByte_idle (hmatched : d.matched = 0) (h : d.armed = false ∨ b ≠ esc) :
    d.plainByte b [] [] = (d, [b], []) := by
  have hmiss : ¬(d.armed = true ∧ some b = marker[0]?) := by
    rintro ⟨harmed, hb⟩
    rcases h with h | h
    · rw [h] at harmed
      cases harmed
    · exact h (Option.some.inj hb)
  rw [plainByte, hmatched]
  rw [if_neg hmiss, if_neg hmiss]
  cases d
  cases hmatched
  rfl

/-- Bytes that pass and leave the decoder as it is. -/
lemma bytes_passing (hplain : d.state = .plain)
    (hp : ∀ b ∈ p, d.plainByte b [] [] = (d, [b], [])) :
    bytes (p ++ q) d = (bytes q d).after (singles p) := by
  induction p with
  | nil => rfl
  | cons b p ih =>
    obtain ⟨hb, hp⟩ := List.forall_mem_cons.1 hp
    rw [cons_append, bytes, byte_plain hplain, passByte, hb]
    show ((bytes (p ++ q) d).after [.passthrough [b]]) = _
    rw [ih hp, Outcome.after_after]
    rfl

/-- What was passed before goes on passing, and a control stream starts with nothing held back. -/
lemma plainByte_spread (hplain : d.state = .plain) (b : UInt8) (pass : Bytes) (out : List Frame) :
    (d.plainByte b pass out).1 = (d.passByte b).1 ∧
    spread (flush (d.plainByte b pass out).2.1 (d.plainByte b pass out).2.2) =
      spread (flush pass out) ++ (d.passByte b).2.1 ∧
    ((d.plainByte b pass out).1.state = .control → (d.plainByte b pass out).2.1 = []) := by
  unfold passByte plainByte
  dsimp only
  split
  · split
    · refine ⟨rfl, ?_, fun _ => rfl⟩
      show spread (flush (pass ++ [b]) out ++ [.entered]) = _
      rw [spread_append, spread_flush_append, append_assoc]
      rfl
    · exact ⟨rfl, spread_flush_append, fun h => nomatch hplain.symm.trans h⟩
  · exact ⟨rfl, spread_flush_append, fun h => nomatch hplain.symm.trans h⟩

lemma plainByte_esc (d : Decoder) (pass : Bytes) (out : List Frame) :
    (d.plainByte esc pass out).1.state = d.state := by
  have hlast : ∀ n, n + 1 = marker.length → some esc ≠ marker[n]? := by
    intro n hn
    have hlength : marker.length = 7 := by decide +kernel
    obtain rfl : n = 6 := by omega
    decide +kernel
  unfold plainByte
  dsimp only
  split
  · rename_i hmatch
    rw [if_neg fun heq => hlast _ heq hmatch.2]
  · rfl

lemma byte_line (hstate : d.state = .control) (hb : b ≠ newline) :
    d.byte b = if d.line.length + 1 > d.limits.maxLine + 1 then (d, [], .error .lineTooLong)
      else ({ d with line := d.line ++ [b] }, [], .ok ()) := by
  rw [byte_control hstate, lineByte, if_neg hb, pushLineBytes, length_singleton]
  by_cases hlong : d.line.length + 1 > d.limits.maxLine + 1
  · rw [if_pos hlong, if_pos hlong]
  · rw [if_neg hlong, if_neg hlong]
    exact if_pos hb

lemma bytes_line (hstate : d.state = .control) (hp : newline ∉ p)
    (hlength : d.line.length + p.length ≤ d.limits.maxLine + 1) :
    bytes (p ++ q) d = bytes q { d with line := d.line ++ p } := by
  induction p generalizing d with
  | nil => rw [append_nil]; rfl
  | cons b p ih =>
    obtain ⟨hb, hp⟩ := not_or.1 (mt List.mem_cons.2 hp)
    rw [length_cons] at hlength
    rw [cons_append, bytes, byte_line hstate (Ne.symm hb), if_neg (by omega)]
    refine (ih (d := { d with line := d.line ++ [b] }) hstate hp ?_).trans ?_
    · rw [length_append, length_singleton]
      dsimp only
      omega
    · rw [append_assoc]
      rfl

lemma bytes_long (hstate : d.state = .control) (hp : newline ∉ p)
    (hq : p = [] → ∃ rest, q = newline :: rest)
    (hlength : d.limits.maxLine + 1 < d.line.length + p.length) :
    ∃ line, bytes (p ++ q) d = ({ d with line := line }, [], .error .lineTooLong) := by
  induction p generalizing d with
  | nil =>
    obtain ⟨rest, rfl⟩ := hq rfl
    refine ⟨d.line, ?_⟩
    rw [nil_append, bytes, byte_control hstate, lineByte, if_pos rfl, pushLineBytes,
      if_pos hlength]
    rfl
  | cons b p ih =>
    obtain ⟨hb, hp⟩ := not_or.1 (mt List.mem_cons.2 hp)
    rw [length_cons] at hlength
    rw [cons_append, bytes, byte_line hstate (Ne.symm hb)]
    split
    · exact ⟨d.line, rfl⟩
    · obtain ⟨line, hline⟩ := ih (d := { d with line := d.line ++ [b] }) hstate hp
        (by rintro rfl; rw [length_nil] at hlength; omega)
        (by rw [length_append, length_singleton]; dsimp only; omega)
      exact ⟨line, congrArg (Outcome.after []) hline⟩

lemma bytes_finish (hstate : d.state = .control) (hp : newline ∉ p)
    (hlength : d.line.length + p.length ≤ d.limits.maxLine + 1) :
    bytes (p ++ newline :: q) d = (match { d with line := d.line ++ p }.finishLine with
      | (d, .error e) => (d, [], .error e)
      | (d, .ok frame) => (d, spread frame.toList, .ok ()) : Outcome).andThen (bytes q) := by
  rw [← length_append] at hlength
  rw [bytes_line hstate hp (by rwa [← length_append]), bytes,
    byte_control (d := { d with line := d.line ++ p }) hstate, lineByte, if_pos rfl, pushLineBytes,
    if_neg (Nat.not_lt.2 hlength : ¬_ + [].length > _), append_nil]
  rfl

lemma line_split {seg input : Bytes} (h : seg = input.takeWhile (· ≠ newline)) :
    newline ∉ seg ∧ seg ++ input.drop seg.length = input ∧
      ∀ c rest, input.drop seg.length = c :: rest → c = newline := by
  rw [h]
  clear h
  induction input with
  | nil => exact ⟨nofun, rfl, nofun⟩
  | cons b input ih =>
    by_cases hb : b = newline
    · rw [takeWhile_cons_of_neg (by simpa using hb)]
      exact ⟨nofun, rfl, fun c rest h => (List.cons.inj h).1 ▸ hb⟩
    · rw [takeWhile_cons_of_pos (by simpa using hb)]
      obtain ⟨hnot, hsplit, hend⟩ := ih
      refine ⟨fun h => ?_, congrArg (b :: ·) hsplit, hend⟩
      exact (List.mem_cons.1 h).elim (fun h => hb h.symm) hnot

lemma pushLineBytes_cases (p : Bytes) (d : Decoder) :
    (d.limits.maxLine + 1 < d.line.length + p.length ∧ d.pushLineBytes p = .error .lineTooLong) ∨
    (d.line.length + p.length ≤ d.limits.maxLine + 1 ∧
      d.pushLineBytes p = .ok { d with line := d.line ++ p }) := by
  unfold pushLineBytes
  split
  · exact .inl ⟨‹_›, rfl⟩
  · exact .inr ⟨Nat.le_of_not_lt ‹_›, rfl⟩

lemma skipped_passing
    (h : skipped = if _ : d.matched = 0 then input.takeWhile (· ≠ esc) else []) :
    skipped ++ input.drop skipped.length = input ∧
      ∀ b ∈ skipped, d.plainByte b [] [] = (d, [b], []) := by
  rw [h]
  split
  · rename_i hmatched
    refine ⟨List.prefix_iff_eq_append.1 (List.takeWhile_prefix _), fun b hb => ?_⟩
    exact plainByte_idle hmatched (.inr (by simpa using mem_takeWhile_imp hb))
  · exact ⟨rfl, nofun⟩

/-- An outcome of reads and one of the bytes alone: equal, but for the cut of the passed bytes and
for what is kept of a line that is too long. -/
structure Spells (r w : Outcome) : Prop where
  frames : spread r.2.1 = w.2.1
  result : r.2.2 = w.2.2
  state : r.2.2 ≠ .error .lineTooLong → r.1 = w.1
  rest : { r.1 with line := [] } = { w.1 with line := [] }

lemma feedInner_spells (hpass : d.state = .control → pass = []) :
    Spells (d.feedInner pass out input) ((bytes input d).after (spread (flush pass out))) := by
  fun_induction feedInner d pass out input with
  | case1 d pass out => exact ⟨(append_nil _).symm, rfl, fun _ => rfl, rfl⟩
  | case2 d pass out b rest hplain hidle =>
    obtain ⟨harmed, hmatched⟩ := hidle
    have hbytes := bytes_passing (p := b :: rest) (q := []) hplain fun c _ =>
      plainByte_idle hmatched (.inl (by simpa using harmed))
    rw [append_nil] at hbytes
    rw [hbytes]
    exact ⟨spread_flush_append.trans (congrArg _ (append_nil _).symm), rfl, fun _ => rfl, rfl⟩
  | case3 d pass out b rest hplain _ skipped hdrop =>
    obtain ⟨hsplit, hskipped⟩ := skipped_passing (rfl : skipped = _)
    rw [← hsplit, hdrop, bytes_passing hplain hskipped]
    exact ⟨spread_flush_append.trans (congrArg _ (append_nil _).symm), rfl, fun _ => rfl, rfl⟩
  | case4 d pass out b rest hplain _ skipped c tail hdrop d₁ pass₁ out₁ hbyte ih =>
    obtain ⟨hsplit, hskipped⟩ := skipped_passing (rfl : skipped = _)
    obtain ⟨hd, hframes, hcontrol⟩ := plainByte_spread hplain c (pass ++ skipped) out
    rw [hbyte] at hd hframes hcontrol
    have h := ih hcontrol
    rw [hframes, spread_flush_append, append_assoc, ← Outcome.after_after,
      ← Outcome.after_after] at h
    rw [← hsplit, hdrop, bytes_passing hplain hskipped, bytes, byte_plain hplain]
    obtain rfl : d₁ = (d.passByte c).1 := hd
    exact h
  | case5 d pass out b rest hcontrol line e hpush =>
    obtain ⟨hline, hinput, hend⟩ := line_split (rfl : line = _)
    rcases d.pushLineBytes_cases line with ⟨hlong, heq⟩ | ⟨_, heq⟩ <;> cases hpush.symm.trans heq
    obtain ⟨kept, hbytes⟩ := bytes_long (q := (b :: rest).drop line.length) hcontrol hline
      (fun hnil => ⟨rest, by rw [hnil] at hend ⊢; rw [← hend b rest rfl]; rfl⟩) hlong
    rw [hinput] at hbytes
    rw [hpass hcontrol, hbytes]
    exact ⟨(append_nil _).symm, rfl, fun h => absurd rfl h, rfl⟩
  | case6 d pass out b rest hcontrol line d₁ hpush hdrop =>
    obtain ⟨hline, hinput, _⟩ := line_split (rfl : line = _)
    rcases d.pushLineBytes_cases line with ⟨_, heq⟩ | ⟨hfits, heq⟩ <;> cases hpush.symm.trans heq
    rw [← hinput, hdrop, bytes_line hcontrol hline hfits]
    exact ⟨(append_nil _).symm, rfl, fun _ => rfl, rfl⟩
  | case7 d pass out b rest hcontrol line d₁ hpush c tail hdrop d₂ e hfinish =>
    obtain ⟨hline, hinput, hend⟩ := line_split (rfl : line = _)
    rcases d.pushLineBytes_cases line with ⟨_, heq⟩ | ⟨hfits, heq⟩ <;> cases hpush.symm.trans heq
    rw [← hinput, hdrop, hend c tail hdrop, bytes_finish hcontrol hline hfits, hfinish,
      hpass hcontrol]
    exact ⟨(append_nil _).symm, rfl, fun _ => rfl, rfl⟩
  | case8 d pass out b rest hcontrol line d₁ hpush c tail hdrop d₂ frame hfinish ih =>
    obtain ⟨hline, hinput, hend⟩ := line_split (rfl : line = _)
    rcases d.pushLineBytes_cases line with ⟨_, heq⟩ | ⟨hfits, heq⟩ <;> cases hpush.symm.trans heq
    have h := ih fun _ => hpass hcontrol
    rw [hpass hcontrol] at h ⊢
    rw [← hinput, hdrop, hend c tail hdrop, bytes_finish hcontrol hline hfits, hfinish]
    rw [show flush [] (out ++ frame.toList) = out ++ frame.toList from rfl, spread_append,
      ← Outcome.after_after] at h
    exact h
  | case9 d pass out b rest escaped hawait hesc ih =>
    have h := ih nofun
    rw [← append_nil (spread _), ← Outcome.after_after] at h
    rw [bytes, byte_await hawait, closeByte, if_pos hesc]
    exact h
  | case10 d pass out b rest escaped hawait hesc hst ih =>
    have h := ih nofun
    rw [← append_nil (spread _), ← Outcome.after_after] at h
    rw [bytes, byte_await hawait, closeByte, if_neg hesc, if_pos hst]
    exact h
  | case11 d pass out b rest escaped hawait hesc hst d₁ d₂ pass₂ out₂ hfirst d₃ pass₃
      out₃ hbyte ih =>
    obtain ⟨frames, hreopen, hplain, hframes⟩ : ∃ frames,
        (if escaped then d₁.passByte esc else (d₁, [], .ok ()) : Outcome) = (d₂, frames, .ok ()) ∧
        d₂.state = .plain ∧ spread (flush pass₂ out₂) = spread (flush pass out) ++ frames := by
      cases escaped with
      | true =>
        obtain ⟨hd, hframes, -⟩ := plainByte_spread (d := d₁) rfl esc pass out
        have hstate := d₁.plainByte_esc pass out
        rw [show d₁.plainByte esc pass out = _ from hfirst] at hd hframes hstate
        exact ⟨_, Prod.ext hd.symm rfl, hstate, hframes⟩
      | false =>
        cases hfirst
        exact ⟨[], rfl, rfl, (append_nil _).symm⟩
    obtain ⟨hd, hframes', hcontrol⟩ := plainByte_spread hplain b pass₂ out₂
    rw [hbyte] at hd hframes' hcontrol
    have h := ih hcontrol
    rw [hframes', hframes, append_assoc, ← Outcome.after_after, ← Outcome.after_after] at h
    rw [bytes, byte_await hawait, closeByte, if_neg hesc, if_neg hst, Outcome.andThen_assoc]
    rw [hreopen]
    obtain rfl : d₃ = (d₂.passByte b).1 := hd
    exact h

def feedAll : List Bytes → Decoder → Decoder × List Frame × Except Error Unit
  | [], d => (d, [], .ok ())
  | chunk :: chunks, d =>
    match d.feed chunk with
    | (d, frames, .error e) => (d, frames, .error e)
    | (d, frames, .ok ()) =>
      let (d, rest, result) := feedAll chunks d
      (d, frames ++ rest, result)

lemma finishLine_poisoned (d : Decoder) : d.finishLine.1.poisoned = d.poisoned := by
  unfold finishLine handleLine blockLine beginLine openBlock
  dsimp only
  repeat' split
  all_goals rfl

lemma plainByte_poisoned (b : UInt8) (d : Decoder) :
    (d.plainByte b [] []).1.poisoned = d.poisoned := by
  unfold plainByte
  dsimp only
  split
  · split <;> rfl
  · rfl

lemma byte_poisoned (b : UInt8) (d : Decoder) : (d.byte b).1.poisoned = d.poisoned := by
  unfold byte
  split
  · exact plainByte_poisoned b d
  · unfold lineByte
    rcases d.pushLineBytes_cases (if b = newline then [] else [b]) with ⟨_, heq⟩ | ⟨_, heq⟩ <;>
      rw [heq]
    dsimp only
    split
    · rfl
    · have h := finishLine_poisoned { d with line := d.line ++ if b = newline then [] else [b] }
      split <;> (rename_i heq; rw [heq] at h; exact h)
  · unfold closeByte
    split
    · rfl
    · split
      · rfl
      · split
        · exact (plainByte_poisoned b _).trans (plainByte_poisoned esc { d with state := .plain })
        · exact plainByte_poisoned b { d with state := .plain }

lemma bytes_poisoned (input : Bytes) (d : Decoder) : (bytes input d).1.poisoned = d.poisoned := by
  induction input generalizing d with
  | nil => rfl
  | cons b rest ih =>
    have hb := byte_poisoned b d
    rw [bytes, Outcome.andThen]
    split
    · exact hb
    · exact (ih _).trans hb

/-- The outcome with the decoder marked as a read leaves it. -/
def Outcome.sealed (r : Outcome) : Outcome := ({ r.1 with poisoned := r.2.2.toOption.isNone }, r.2)

lemma feedAll_spells (hlive : d.poisoned = false) (chunks : List Bytes) :
    Spells (d.feedAll chunks) (bytes chunks.flatten d).sealed := by
  induction chunks generalizing d with
  | nil =>
    cases d
    cases hlive
    exact ⟨rfl, rfl, fun _ => rfl, rfl⟩
  | cons chunk chunks ih =>
    have hkept := (bytes_poisoned chunk d).trans hlive
    have h : Spells (d.feedInner [] [] chunk) (bytes chunk d) := feedInner_spells fun _ => rfl
    rw [feedAll, feed, if_neg (by rw [hlive]; exact Bool.false_ne_true),
      flatten_cons, bytes_append]
    generalize bytes chunk d = w at hkept h ⊢
    generalize d.feedInner [] [] chunk = r at h ⊢
    obtain ⟨d₁, frames, result⟩ := r
    obtain ⟨d₂, frames', result'⟩ := w
    obtain ⟨hframes, rfl : result = result', hstate, hrest⟩ := h
    cases result with
    | error e =>
      refine ⟨hframes, rfl, fun hne => ?_, congrArg (fun d => { d with poisoned := true }) hrest⟩
      obtain rfl : d₁ = d₂ := hstate hne
      rfl
    | ok u =>
      obtain rfl : d₁ = d₂ := hstate nofun
      have hd : { d₁ with poisoned := false } = d₁ := by
        cases d₁
        cases hkept
        rfl
      have h := ih hkept
      show Spells (Outcome.after frames (feedAll chunks { d₁ with poisoned := false })) _
      rw [hd]
      exact ⟨spread_append.trans (congrArg₂ (· ++ ·) hframes h.frames), h.result, h.state, h.rest⟩

/-- However a stream is cut into reads, the frames are the same once passed bytes are joined, the
error that stops it is the same, and so is the decoder, but for what it keeps of a line that is too
long. A decoder that has failed says so when it is fed: it is fed in both cuts or in neither. -/
theorem reads_alike (h : chunks.flatten = chunks'.flatten)
    (hcalls : d.poisoned = true → (chunks = [] ↔ chunks' = [])) :
    merge (d.feedAll chunks).2.1 = merge (d.feedAll chunks').2.1 ∧
    (d.feedAll chunks).2.2 = (d.feedAll chunks').2.2 ∧
    ((d.feedAll chunks).2.2 ≠ .error .lineTooLong → (d.feedAll chunks).1 = (d.feedAll chunks').1) ∧
    { (d.feedAll chunks).1 with line := [] } = { (d.feedAll chunks').1 with line := [] } := by
  cases hlive : d.poisoned with
  | false =>
    have hw := feedAll_spells hlive chunks
    have hw' := feedAll_spells hlive chunks'
    rw [← h] at hw'
    refine ⟨?_, hw.result.trans hw'.result.symm, fun hne => ?_, hw.rest.trans hw'.rest.symm⟩
    · rw [← merge_spread, hw.frames, ← hw'.frames, merge_spread]
    · exact (hw.state hne).trans (hw'.state (by rwa [hw'.result, ← hw.result])).symm
  | true =>
    have hdead chunk chunks :
        d.feedAll (chunk :: chunks) = (d, [], .error .poisoned) := by
      rw [feedAll, feed, if_pos hlive]
    have hnil := hcalls hlive
    cases chunks with
    | nil => rw [hnil.1 rfl]; exact ⟨rfl, rfl, fun _ => rfl, rfl⟩
    | cons chunk chunks =>
      cases chunks' with
      | nil => exact nomatch hnil.2 rfl
      | cons chunk' chunks' => rw [hdead, hdead]; exact ⟨rfl, rfl, fun _ => rfl, rfl⟩

theorem reads_alike_entering :
    merge (feedAll [marker ++ [newline]] { new .default with armed := true }).2.1 =
      merge (feedAll ((marker ++ [newline]).map ([·])) { new .default with armed := true }).2.1 :=
  (reads_alike (d := { new .default with armed := true }) (by decide +kernel) nofun).1

/-- A line that is too long is kept up to the read it overflows in. -/
theorem overflowing_read_dropped :
    (feedAll [utf8 "ab"] (inControl ⟨0, 0, 0⟩)).2.2 = .error .lineTooLong ∧
    (feedAll [utf8 "a", utf8 "b"] (inControl ⟨0, 0, 0⟩)).2.2 = .error .lineTooLong ∧
    (feedAll [utf8 "ab"] (inControl ⟨0, 0, 0⟩)).1 ≠
      (feedAll [utf8 "a", utf8 "b"] (inControl ⟨0, 0, 0⟩)).1 := by
  decide +kernel

end Decoder

end Chan.Tmux
