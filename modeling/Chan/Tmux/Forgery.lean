import Chan.Tmux.Chunking

namespace Chan.Tmux

variable {lines : List Bytes} {pass : Bytes} {o : OpenBlock} {l : Printed}

namespace Decoder

def unlines (lines : List Bytes) : Bytes := lines.flatMap (· ++ [newline])

structure Reading (d : Decoder) : Prop where
  state : d.state = .control
  poisoned : d.poisoned = false
  line : d.line = []

inductive Takes : Decoder → List Bytes → List Frame → Decoder → Prop
  | nil (hreading : d.Reading) : Takes d [] [] d
  | cons {l : Bytes} {lines : List Bytes} (hreading : d.Reading) (hnewline : newline ∉ l)
      (hlength : l.length ≤ d.limits.maxLine + 1)
      (hfinish : { d with line := l }.finishLine = (d', .ok frame))
      (h : Takes d' lines frames d'') : Takes d (l :: lines) (frame.toList ++ frames) d''

lemma Takes.append (h : Takes d lines frames d')
    (h' : Takes d' lines' frames' d'') :
    Takes d (lines ++ lines') (frames ++ frames') d'' := by
  induction h with
  | nil => exact h'
  | cons hreading hnewline hlength hfinish _ ih =>
    rw [List.append_assoc]
    exact .cons hreading hnewline hlength hfinish (ih h')

lemma Takes.reading (h : Takes d lines frames d') : d.Reading := by
  cases h <;> assumption

lemma clear_line {d : Decoder} (h : d.line = []) : { d with line := [] } = d := by
  cases d
  cases h
  rfl

lemma Takes.bytes (h : Takes d lines frames d') :
    bytes (unlines lines) d = (d', spread frames, .ok ()) := by
  induction h with
  | nil => rfl
  | @cons d _ _ _ _ l lines hreading hnewline hlength hfinish _ ih =>
    have hwhole : unlines (l :: lines) = l ++ newline :: unlines lines := List.append_assoc ..
    rw [hwhole, bytes_finish hreading.state hnewline
      (by rwa [hreading.line, List.length_nil, Nat.zero_add]), hreading.line,
      List.nil_append, hfinish]
    refine (congrArg (Outcome.after _) ih).trans ?_
    rw [spread_append]
    rfl

lemma finishLine_full (h : finishLine d = (d', .ok (some f))) : f ≠ .passthrough [] := by
  unfold finishLine handleLine blockLine beginLine openBlock at h
  dsimp only at h
  repeat' split at h
  all_goals grind

lemma flush_full (h : .passthrough [] ∉ out) : .passthrough [] ∉ flush pass out := by
  grind [flush]

lemma plainByte_full (h : .passthrough [] ∉ out)
    (hbyte : plainByte b pass out d = (d', pass', out')) : .passthrough [] ∉ out' := by
  grind [plainByte, flush]

lemma feedInner_full (h : .passthrough [] ∉ out) :
    .passthrough [] ∉ (feedInner d pass out input).2.1 := by
  fun_induction feedInner d pass out input with
  | case1 | case2 | case3 | case6 => exact flush_full h
  | case4 d pass out b rest _ _ skipped c tail _ d₁ pass₁ out₁ hbyte ih =>
    exact ih (plainByte_full h hbyte)
  | case5 | case7 => exact h
  | case8 d pass out b rest _ _ d₁ _ c tail _ d₂ frame hfinish ih =>
    refine ih ?_
    cases frame with
    | none => rwa [Option.toList, List.append_nil]
    | some f => grind [finishLine_full hfinish]
  | case9 _ _ _ _ _ _ _ _ ih | case10 _ _ _ _ _ _ _ _ _ ih => exact ih h
  | case11 d pass out b rest escaped _ _ _ d₁ d₂ pass₂ out₂ hfirst d₃ pass₃ out₃ hbyte ih =>
    refine ih (plainByte_full ?_ hbyte)
    split at hfirst
    · exact plainByte_full h hfirst
    · cases hfirst
      exact h

lemma feedAll_full (chunks : List Bytes) (d : Decoder) :
    .passthrough [] ∉ (d.feedAll chunks).2.1 := by
  induction chunks generalizing d with
  | nil => exact List.not_mem_nil
  | cons chunk chunks ih =>
    have h : .passthrough [] ∉ (feedInner d [] [] chunk).2.1 := feedInner_full List.not_mem_nil
    grind [feedAll, feed]

lemma spread_eq (hfull : .passthrough [] ∉ fs) (hfs : ∀ p, .passthrough p ∉ spread fs) :
    spread fs = fs := by
  induction fs with
  | nil => rfl
  | cons f fs ih =>
    have hrest : spread fs = fs := ih (fun h => hfull (List.mem_cons_of_mem f h)) fun p h =>
      hfs p (List.mem_append_right _ h)
    cases f with
    | passthrough p =>
      cases p with
      | nil => exact absurd List.mem_cons_self hfull
      | cons c p => exact absurd List.mem_cons_self (hfs [c])
    | _ => exact congrArg (_ :: ·) hrest

lemma Takes.feedAll (h : Takes d lines [.block b] d') (hlive : d'.poisoned = false)
    (hchunks : chunks.flatten = unlines lines) : d.feedAll chunks = (d', [.block b], .ok ()) := by
  have hspells := feedAll_spells h.reading.poisoned chunks
  rw [hchunks, h.bytes] at hspells
  have hframes := spread_eq (feedAll_full chunks d) (by rw [hspells.frames]; nofun)
  rw [hspells.frames] at hframes
  have hd : { d' with poisoned := false } = d' := by
    cases d'
    cases hlive
    rfl
  exact Prod.ext ((hspells.state (by rw [hspells.result]; nofun)).trans hd)
    (Prod.ext hframes.symm hspells.result)

end Decoder

structure Printed where
  text : Bytes
  cr : Bool

namespace Printed

def raw (l : Printed) : Bytes := l.text ++ if l.cr then [carriageReturn] else []

/-- A printed row whose line break can be told from it. -/
def Clear (l : Printed) : Prop :=
  newline ∉ l.text ∧ (l.cr = false → l.text.getLast? ≠ some carriageReturn)

lemma withoutReturn_raw (h : l.Clear) : withoutReturn l.raw = l.text := by
  unfold withoutReturn raw
  cases hcr : l.cr with
  | true =>
    rw [if_pos rfl, if_pos List.getLast?_concat, List.dropLast_concat]
  | false =>
    rw [if_neg Bool.false_ne_true, List.append_nil, if_neg (h.2 hcr)]

lemma length_raw : l.raw.length ≤ l.text.length + 1 := by
  unfold raw
  split <;> simp

lemma newline_notMem_raw (h : l.Clear) : newline ∉ l.raw := by
  unfold raw
  rw [List.mem_append]
  refine not_or.2 ⟨h.1, ?_⟩
  split <;> decide

end Printed

namespace Decoder

lemma Takes.line {d : Decoder} (hreading : d.Reading) (hl : l.Clear)
    (hlength : l.text.length ≤ d.limits.maxLine) (hline : d.handleLine l.text = (d', .ok f))
    (hreading' : d'.Reading) : Takes d [l.raw] f.toList d' := by
  have hfinish : { d with line := l.raw }.finishLine = (d', .ok f) := by
    rw [finishLine, l.withoutReturn_raw hl]
    rw [clear_line hreading.line, hline]
  have h := Takes.cons hreading (l.newline_notMem_raw hl)
    (l.length_raw.trans (Nat.succ_le_succ hlength)) hfinish (.nil hreading')
  rwa [List.append_nil] at h

lemma blockLine_row (d : Decoder) (hrows : o.rows = some n)
    (hlt : o.lines.length < n)
    (hbytes : o.bytes + text.length + 1 ≤ d.limits.maxBlockBytes)
    (hlines : o.lines.length < d.limits.maxBlockLines) :
    d.blockLine text o = ({ d with opened := some { o with
      lines := o.lines ++ [text], bytes := o.bytes + text.length + 1 } }, .ok none) := by
  have hmore : ¬n = o.lines.length := by omega
  have hnone : (terminator o.header text).filter (fun _ => o.rows.all (· = o.lines.length)) =
      none := by
    rw [hrows]
    simp [hmore]
  rw [blockLine, hnone]
  dsimp only
  rw [hrows, if_neg (by simpa using hlt), if_neg (by omega)]

lemma Takes.rows {d : Decoder} {rows : List Printed} (hreading : d.Reading)
    (hrows : o.rows = some n)
    (hn : o.lines.length + rows.length ≤ n)
    (hclear : ∀ row ∈ rows, row.Clear ∧ row.text.length ≤ d.limits.maxLine)
    (hbytes : o.bytes + (rows.map (·.text.length + 1)).sum ≤ d.limits.maxBlockBytes)
    (hlines : n ≤ d.limits.maxBlockLines) :
    ∃ bytes, Takes { d with opened := some o } (rows.map Printed.raw) []
      { d with opened := some { o with lines := o.lines ++ rows.map (·.text), bytes := bytes }
      } := by
  induction rows generalizing o with
  | nil =>
    refine ⟨o.bytes, ?_⟩
    rw [List.map_nil, List.map_nil, List.append_nil]
    exact .nil ⟨hreading.state, hreading.poisoned, hreading.line⟩
  | cons row rows ih =>
    obtain ⟨hrow, hclear⟩ := List.forall_mem_cons.1 hclear
    rw [List.map_cons, List.sum_cons] at hbytes
    rw [List.length_cons] at hn
    have hhandle : { d with opened := some o }.handleLine row.text =
        ({ d with opened := some { o with
        lines := o.lines ++ [row.text], bytes := o.bytes + row.text.length + 1 } }, .ok none) := by
      rw [handleLine, if_neg (Nat.not_lt.2 hrow.2)]
      exact blockLine_row { d with opened := some o } hrows (by omega) (by dsimp only; omega)
        (by dsimp only; omega)
    obtain ⟨bytes, htakes⟩ := ih (o := { o with
      lines := o.lines ++ [row.text], bytes := o.bytes + row.text.length + 1 }) hrows
      (by simp only [List.length_append, List.length_cons, List.length_nil]; omega) hclear
      (by dsimp only; omega)
    have hline := Takes.line (d := { d with opened := some o })
      ⟨hreading.state, hreading.poisoned, hreading.line⟩ hrow.1 hrow.2 hhandle
      ⟨hreading.state, hreading.poisoned, hreading.line⟩
    have hall := hline.append htakes
    dsimp only at hall
    rw [List.append_assoc] at hall
    exact ⟨bytes, hall⟩

/-- The next reply has to have this many rows. -/
def Promised (d : Decoder) (n : Nat) : Prop :=
  d.expect.head? = some (.rows n) ∨ ∃ historyRows state,
    d.expect.head? = some (.capture historyRows) ∧ d.paneState = some state ∧
    n = min historyRows state.historySize + state.height

lemma beginLine_promised {d : Decoder} (hpromised : d.Promised n)
    (hheader : parseHeader header = some (time, number, flags)) (hflags : flags % 2 = 1) :
    d.beginLine header = ({ d with
      expect := d.expect.tail, paneState := none,
      opened := some ⟨header, time, number, true, some n, false, [], 0⟩ }, .ok none) := by
  rw [beginLine, hheader]
  dsimp only
  rw [if_pos hflags]
  rcases hpromised with hhead | ⟨historyRows, state, hhead, hstate, rfl⟩
  · obtain ⟨queue, hqueue⟩ := List.head?_eq_some_iff.1 hhead
    rw [hqueue]
    rfl
  · obtain ⟨queue, hqueue⟩ := List.head?_eq_some_iff.1 hhead
    rw [hqueue]
    dsimp only
    rw [openBlock, hstate]
    rfl

lemma stripPrefix_append (start rest : Bytes) :
    stripPrefix start (start ++ rest) = some rest := by
  rw [stripPrefix, if_pos (List.isPrefixOf_iff_prefix.2 (List.prefix_append ..)), List.drop_left]

lemma blockLine_end (d : Decoder) (hrows : o.rows = some o.lines.length)
    (hstate : o.paneState = false) :
    d.blockLine (utf8 "%end " ++ o.header) o =
      ({ d with opened := none },
      .ok (some (.block ⟨o.time, o.number, o.solicited, true, o.lines⟩))) := by
  have hend : (terminator o.header (utf8 "%end " ++ o.header)).filter
      (fun _ => o.rows.all (· = o.lines.length)) = some true := by
    rw [terminator, stripPrefix_append]
    dsimp only
    rw [if_pos rfl, hrows]
    simp
  rw [blockLine, hend]
  dsimp only
  rw [hstate, if_neg Bool.false_ne_true]

end Decoder

lemma mem_of_parseUnsigned (h : parseUnsigned bits text = some n) (hb : b ∈ text) :
    b = 43 ∨ isDigit b = true := by
  have hdigits : ((stripPrefix (utf8 "+") text).getD text).all isDigit = true := by
    unfold parseUnsigned at h
    dsimp only at h
    split at h
    · rename_i hcond
      exact hcond.2.1
    · cases h
  rw [List.all_eq_true] at hdigits
  unfold stripPrefix at hdigits
  split at hdigits
  · rename_i hpre
    obtain ⟨rest, rfl⟩ := List.isPrefixOf_iff_prefix.1 hpre
    rw [Option.getD_some, List.drop_left] at hdigits
    rcases List.mem_append.1 hb with hsign | hrest
    · have hplus : utf8 "+" = [43] := by decide +kernel
      rw [hplus] at hsign
      exact .inl (List.mem_singleton.1 hsign)
    · exact .inr (hdigits b hrest)
  · exact .inr (hdigits b hb)

lemma mem_of_parseHeader (h : parseHeader header = some t) (hb : b ∈ header) :
    b = space ∨ b = 43 ∨ isDigit b = true := by
  unfold parseHeader at h
  split at h
  · cases h
  · split at h
    · rename_i time number flags hsplit
      obtain ⟨time', htime, h⟩ := Option.bind_eq_some_iff.1 h
      obtain ⟨number', hnumber, h⟩ := Option.bind_eq_some_iff.1 h
      obtain ⟨flags', hflags, h⟩ := Option.bind_eq_some_iff.1 h
      have hjoin : [space].intercalate [time, number, flags] = header :=
        hsplit ▸ List.intercalate_splitOn space
      rw [← hjoin] at hb
      simp only [List.intercalate, List.intersperse, List.flatten_cons, List.flatten_nil,
        List.mem_append, List.mem_singleton, List.append_nil] at hb
      rcases hb with hb | hb | hb | hb | hb
      · exact .inr (mem_of_parseUnsigned htime hb)
      · exact .inl hb
      · exact .inr (mem_of_parseUnsigned hnumber hb)
      · exact .inl hb
      · exact .inr (mem_of_parseUnsigned hflags hb)
    · cases h

lemma clear_header (h : parseHeader header = some t) (hkeyword : newline ∉ keyword)
    (hreturn : carriageReturn ∉ keyword) (cr : Bool) : Printed.Clear ⟨keyword ++ header, cr⟩ := by
  have hbytes : ∀ b ∈ header, b ≠ newline ∧ b ≠ carriageReturn := by
    intro b hb
    rcases mem_of_parseHeader h hb with rfl | rfl | hdigit
    · decide
    · decide
    · constructor <;> (rintro rfl; exact absurd hdigit (by decide))
  refine ⟨fun hmem => ?_, fun _ hlast => ?_⟩
  · exact (List.mem_append.1 hmem).elim hkeyword fun hmem => (hbytes _ hmem).1 rfl
  · exact (List.mem_append.1 (List.mem_of_getLast? hlast)).elim hreturn
      fun hmem => (hbytes _ hmem).2 rfl

def printedReply (header : Bytes) (rows : List Printed) (cr cr' : Bool) : List Printed :=
  ⟨utf8 "%begin " ++ header, cr⟩ :: rows ++ [⟨utf8 "%end " ++ header, cr'⟩]

namespace Decoder

/-- A reply whose rows were promised is one block of exactly those rows, whatever they are and
however the stream is cut. Only a row that ends in a carriage return has to be told from its line
break. -/
theorem promised_reply_framed {d : Decoder} {rows : List Printed} (hreading : d.Reading)
    (hopened : d.opened = none) (hpromised : d.Promised rows.length)
    (hheader : parseHeader header = some (time, number, flags)) (hflags : flags % 2 = 1)
    (hlength : 7 + header.length ≤ d.limits.maxLine)
    (hrows : ∀ row ∈ rows, row.Clear ∧ row.text.length ≤ d.limits.maxLine)
    (hbytes : (rows.map (·.text.length + 1)).sum ≤ d.limits.maxBlockBytes)
    (hlines : rows.length ≤ d.limits.maxBlockLines)
    (hchunks : chunks.flatten = unlines ((printedReply header rows cr cr').map Printed.raw)) :
    d.feedAll chunks = ({ d with expect := d.expect.tail, paneState := none },
      [.block ⟨time, number, true, true, rows.map (·.text)⟩], .ok ()) := by
  have hbegin : (utf8 "%begin ").length = 7 := by decide +kernel
  have hend : (utf8 "%end ").length = 5 := by decide +kernel
  let d₁ : Decoder := { d with expect := d.expect.tail, paneState := none }
  let o : OpenBlock := ⟨header, time, number, true, some rows.length, false, [], 0⟩
  have hreading₁ : ∀ opened, { d₁ with opened := opened }.Reading := fun _ =>
    ⟨hreading.state, hreading.poisoned, hreading.line⟩
  have htakes : Takes d [Printed.raw ⟨utf8 "%begin " ++ header, cr⟩] []
      { d₁ with opened := some o } := by
    refine Takes.line (f := none) hreading
      (clear_header hheader (by decide +kernel) (by decide +kernel) cr) ?_ ?_ (hreading₁ _)
    · rwa [List.length_append, hbegin]
    · rw [handleLine, if_neg (Nat.not_lt.2 (by rwa [List.length_append, hbegin])), hopened]
      dsimp only
      rw [stripPrefix_append]
      exact beginLine_promised hpromised hheader hflags
  obtain ⟨bytes, htakes'⟩ := Takes.rows (d := d₁) (o := o) (hreading₁ _) rfl
    (Nat.zero_add _).le hrows
    (by rwa [Nat.zero_add]) hlines
  have htakes'' : Takes
      { d₁ with opened := some { o with lines := rows.map (·.text), bytes := bytes } }
      [Printed.raw ⟨utf8 "%end " ++ header, cr'⟩]
      [.block ⟨time, number, true, true, rows.map (·.text)⟩] { d₁ with opened := none } := by
    have hlength' : (utf8 "%end " ++ header).length ≤ d.limits.maxLine := by
      rw [List.length_append, hend]
      omega
    refine Takes.line (f := some _) (hreading₁ _)
      (clear_header hheader (by decide +kernel) (by decide +kernel) cr') hlength' ?_ (hreading₁ _)
    rw [handleLine, if_neg (Nat.not_lt.2 hlength')]
    exact blockLine_end (o := { o with lines := rows.map (·.text), bytes := bytes }) _
      (by rw [List.length_map]) rfl
  have hall := (htakes.append htakes').append htakes''
  have hd₁ : { d₁ with opened := none } = d₁ := by
    show { d₁ with opened := none } = { d₁ with opened := d.opened }
    rw [hopened]
  rw [hd₁] at hall
  refine Takes.feedAll ?_ hreading.poisoned hchunks
  rw [printedReply, List.map_append]
  exact hall

/-- A decoder that waits for the rows of a pane of four rows, with up to three of its history. -/
def capturing : Decoder := { inControl .default with
  expect := [.capture 3, .any]
  paneState := some ⟨⟨9⟩, 0, 0, false, false, 0, 3, 80, 4, 1⟩ }

/-- Rows that look like the protocol's own lines, the terminator of their own block among them. -/
def forgedRows : List Printed :=
  [⟨utf8 "row one", true⟩, ⟨utf8 "%end 100 7 1", true⟩, ⟨utf8 "%exit", true⟩,
    ⟨utf8 "%output %9 pwned", false⟩, ⟨utf8 "%begin 100 7 1", true⟩]

theorem promised_reply_framed_forged :
    capturing.feedAll ((unlines ((printedReply (utf8 "100 7 1") forgedRows true true).map
      Printed.raw)).map fun b => [b]) =
    ({ capturing with expect := [.any], paneState := none },
      [.block ⟨100, 7, true, true, forgedRows.map (·.text)⟩], .ok ()) := by
  have hclear : ∀ row ∈ forgedRows, newline ∉ row.text ∧
      row.text.getLast? ≠ some carriageReturn ∧ row.text.length ≤ capturing.limits.maxLine := by
    decide +kernel
  refine promised_reply_framed ⟨rfl, rfl, rfl⟩ rfl (.inr ⟨3, _, rfl, rfl, rfl⟩)
    (by decide +kernel : parseHeader (utf8 "100 7 1") = some (100, 7, 1)) rfl (by decide +kernel)
    (fun row hrow => ?_) (by decide +kernel) (by decide +kernel)
    (by rw [← List.flatMap_def]; exact List.flatMap_singleton' _)
  obtain ⟨hnewline, hreturn, hlength⟩ := hclear row hrow
  exact ⟨⟨hnewline, fun _ => hreturn⟩, hlength⟩

/-- A row that ends in a carriage return loses it to a bare newline. -/
theorem final_return_lost :
    let printed := (printedReply (utf8 "1 1 1") [⟨utf8 "a\r", false⟩] false false).map Printed.raw
    (feedAll [unlines printed] { inControl .default with expect := [.rows 1] }).2.1 =
      [.block ⟨1, 1, true, true, [utf8 "a"]⟩] ∧
    utf8 "a\r" ≠ utf8 "a" := by
  decide +kernel

end Decoder

end Chan.Tmux
