import Chan.Tmux.Chunking

namespace Chan.Tmux
open List

variable {d : Decoder} {pass : Bytes}

/-- What pairing rests on: whether the stream is in control mode; whether a block is open that was
asked for, or one that was not; whether it records a pane's state; the replies to come; and whether
a pane's state was just read. -/
structure Stage where
  control : Bool
  opened : Option Bool
  records : Bool
  expect : List Expect
  sized : Bool

def Decoder.stage (d : Decoder) : Stage :=
  ⟨d.state = .control, d.opened.map (·.solicited), d.opened.any (·.paneState), d.expect,
    d.paneState.isSome⟩

inductive Stage.Step (g : Stage) : Option Frame → Stage → Prop
  | silent : Step g none g
  | flush (bytes : Bytes) : Step g (some (.passthrough bytes)) g
  | enter (hcontrol : g.control = false) :
      Step g (some .entered) { g with
        control := true, opened := none, records := false, sized := false }
  | line (line : Bytes) (hcontrol : g.control = true) (hopened : g.opened = none) :
      Step g (some (.line line)) g
  | solicited (hcontrol : g.control = true) (hopened : g.opened = none)
      (hexpect : g.expect = e :: queue)
      (hsized : ∀ historyRows, e = .capture historyRows → g.sized) :
      Step g none { g with
        opened := some true, records := e = .paneState, expect := queue, sized := false }
  | unsolicited (hcontrol : g.control = true) (hopened : g.opened = none) :
      Step g none { g with opened := some false, records := false, sized := false }
  | block (b : Block) (sized : Bool) (hcontrol : g.control = true)
      (hopened : g.opened = some b.solicited) (hsized : sized → (g.records ∧ b.ok) ∨ g.sized) :
      Step g (some (.block b)) { g with opened := none, records := false, sized := sized }
  | exit (reason : Option Bytes) (hcontrol : g.control = true) (hopened : g.opened = none) :
      Step g (some (.exit reason)) ⟨false, none, false, [], false⟩

inductive Stage.Steps : Stage → List Frame → Stage → Prop
  | refl (g : Stage) : Steps g [] g
  | step (h : Step g frame g') (hs : Steps g' frames g'') : Steps g (frame.toList ++ frames) g''

lemma Stage.Steps.trans (h : Steps g frames g') (h' : Steps g' frames' g'') :
    Steps g (frames ++ frames') g'' := by
  induction h with
  | refl => exact h'
  | step h _ ih => exact append_assoc .. ▸ .step h (ih h')

lemma Stage.Steps.single (h : Step g frame g') : Steps g frame.toList g' :=
  append_nil frame.toList ▸ .step h (.refl g')

namespace Decoder

lemma openBlock_step {expect : Expect}
    (h : d.openBlock rest time number solicited expect = (d', .ok frame)) :
    frame = none ∧ d'.stage = { d.stage with
        opened := some solicited, records := expect = .paneState, sized := false } ∧
      ∀ historyRows, expect = .capture historyRows → d.paneState.isSome := by
  cases expect with
  | any | rows n | paneState => cases h; exact ⟨rfl, rfl, nofun⟩
  | capture historyRows =>
    unfold openBlock at h
    dsimp only at h
    split at h
    · rename_i state hstate
      cases h
      exact ⟨rfl, rfl, fun _ _ => by rw [hstate]; rfl⟩
    · cases h

lemma blockLine_step (hcontrol : d.state = .control)
    (hopened : d.opened = some o) (h : d.blockLine l o = (d', .ok frame)) :
    d.stage.Step frame d'.stage := by
  have hc : d.stage.control = true := decide_eq_true hcontrol
  have ho : d.stage.opened = some o.solicited := congrArg (Option.map _) hopened
  unfold blockLine at h
  split at h
  · rename_i ok hend
    dsimp only at h
    split at h
    · split at h
      · rename_i hstate hok
        have hrecords : d.stage.records = true := by
          rw [stage, hopened]
          exact hstate
        split at h
        · cases h
          exact .block ⟨_, _, o.solicited, ok, _⟩ true hc ho fun _ => .inl ⟨hrecords, hok⟩
        · cases h
      · cases h
        exact .block ⟨_, _, o.solicited, ok, _⟩ false hc ho nofun
    · cases h
      exact .block ⟨_, _, o.solicited, ok, _⟩ _ hc ho .inr
  · split at h
    · cases h
    · dsimp only at h
      split at h
      · cases h
      · obtain ⟨rfl, ⟨⟩⟩ := Prod.mk.inj h
        have hsame : Decoder.stage { d with opened := some { o with
            bytes := o.bytes + l.length + 1, lines := o.lines ++ [l] } } = d.stage := by
          rw [stage, stage, hopened]
          rfl
        exact hsame ▸ .silent

lemma beginLine_step (hcontrol : d.state = .control) (hopened : d.opened = none)
    (h : d.beginLine rest = (d', .ok frame)) : d.stage.Step frame d'.stage := by
  have hc : d.stage.control = true := decide_eq_true hcontrol
  have ho : d.stage.opened = none := congrArg (Option.map _) hopened
  unfold beginLine at h
  split at h
  · cases h
  · split at h
    · split at h
      · cases h
      · rename_i expect queue hexpect
        obtain ⟨rfl, hstage, hsized⟩ := openBlock_step h
        exact hstage ▸ .solicited hc ho hexpect hsized
    · obtain ⟨rfl, hstage, -⟩ := openBlock_step h
      exact hstage ▸ .unsolicited hc ho

lemma finishLine_step (hcontrol : d.state = .control)
    (h : d.finishLine = (d', .ok frame)) : d.stage.Step frame d'.stage := by
  have hc : d.stage.control = true := decide_eq_true hcontrol
  unfold finishLine handleLine at h
  split at h
  · cases h
  · split at h
    · rename_i o hopened
      exact blockLine_step (d := { d with line := [] }) hcontrol hopened h
    · rename_i hopened
      have ho : d.stage.opened = none := congrArg (Option.map _) hopened
      split at h
      · exact beginLine_step (d := { d with line := [] }) hcontrol hopened h
      · split at h
        · cases h
          have hend : Decoder.stage { d with
              line := [], state := .awaitSt false, expect := [], paneState := none } =
              ⟨false, none, false, [], false⟩ := by
            rw [stage, hopened]
            rfl
          exact hend ▸ .exit _ hc ho
        · cases h
          exact .line _ hc ho

lemma plainByte_steps (hplain : d.state ≠ .control) (b : UInt8) (pass : Bytes)
    (out : List Frame) : ∃ frames, (d.plainByte b pass out).2.2 = out ++ frames ∧
      d.stage.Steps frames (d.plainByte b pass out).1.stage := by
  have hc : d.stage.control = false := decide_eq_false hplain
  unfold plainByte
  dsimp only
  split
  · split
    · have henter : d.stage.Steps [.entered] _ := .single (.enter hc)
      unfold flush
      split
      · exact ⟨_, rfl, henter⟩
      · exact ⟨_, append_assoc .., .step (.flush _) henter⟩
    · exact ⟨[], (append_nil _).symm, .refl _⟩
  · exact ⟨[], (append_nil _).symm, .refl _⟩

lemma flush_steps (pass : Bytes) (out : List Frame) (g : Stage) :
    ∃ frames, flush pass out = out ++ frames ∧ g.Steps frames g := by
  unfold flush
  split
  · exact ⟨[], (append_nil _).symm, .refl g⟩
  · exact ⟨_, rfl, .single (.flush pass)⟩

lemma pushLineBytes_stage (h : pushLineBytes p d = .ok d') :
    d'.stage = d.stage ∧ d'.state = d.state := by
  unfold pushLineBytes at h
  split at h
  · cases h
  · cases h
    exact ⟨rfl, rfl⟩

lemma feedInner_steps (h : feedInner d pass out input = (d', out', .ok ())) :
    ∃ frames, out' = out ++ frames ∧ d.stage.Steps frames d'.stage := by
  fun_induction feedInner d pass out input with
  | case1 d pass out | case2 | case3 => cases h; exact flush_steps ..
  | case4 d pass out b rest hplain _ skipped c tail _ d₁ pass₁ out₁ hbyte ih =>
    obtain ⟨frames, hout, hsteps⟩ :=
      plainByte_steps (d := d) (by rw [hplain]; exact (fun h => by cases h)) c
      (pass ++ skipped) out
    rw [hbyte] at hout hsteps
    dsimp only at hout
    obtain ⟨frames', rfl, hsteps'⟩ := ih h
    exact ⟨frames ++ frames', by rw [hout, append_assoc], hsteps.trans hsteps'⟩
  | case5 => cases h
  | case6 d pass out b rest _ bytes d₁ hpush =>
    cases h
    rw [(pushLineBytes_stage hpush).1]
    exact flush_steps ..
  | case7 => cases h
  | case8 d pass out b rest hcontrol bytes d₁ hpush c tail _ d₂ frame hfinish ih =>
    obtain ⟨hstage, hstate⟩ := pushLineBytes_stage hpush
    have hstep := finishLine_step (hstate.trans hcontrol) hfinish
    obtain ⟨frames, rfl, hsteps⟩ := ih h
    exact ⟨frame.toList ++ frames, append_assoc .., hstage ▸ .step hstep hsteps⟩
  | case9 d pass out b rest escaped hawait _ ih | case10 d pass out b rest escaped hawait _ _ ih =>
    obtain ⟨frames, rfl, hsteps⟩ := ih h
    refine ⟨frames, rfl, ?_⟩
    rw [stage, hawait]
    exact hsteps
  | case11 d pass out b rest escaped hawait _ _ d₁ d₂ pass₂ out₂ hesc d₃ pass₃ out₃ hbyte ih =>
    have hd₁ : d₁.stage = d.stage := by
      rw [stage, stage, hawait]
      rfl
    have hfirst : d₂.state ≠ .control ∧
        ∃ frames, out₂ = out ++ frames ∧ d₁.stage.Steps frames d₂.stage := by
      split at hesc
      · have hstate := d₁.plainByte_esc pass out
        have hsteps := plainByte_steps (d := d₁) (fun h => by cases h) esc pass out
        rw [hesc] at hstate hsteps
        exact ⟨by rw [hstate]; exact (fun h => by cases h), hsteps⟩
      · cases hesc
        exact ⟨(fun h => by cases h), [], (append_nil _).symm, .refl _⟩
    obtain ⟨hstate, frames, rfl, hsteps⟩ := hfirst
    obtain ⟨frames', hout', hsteps'⟩ := plainByte_steps hstate b pass₂ (out ++ frames)
    rw [hbyte] at hout' hsteps'
    dsimp only at hout'
    obtain ⟨frames'', rfl, hsteps''⟩ := ih h
    refine ⟨frames ++ (frames' ++ frames''), ?_, hd₁ ▸ hsteps.trans (hsteps'.trans hsteps'')⟩
    rw [hout', append_assoc, append_assoc]

lemma feed_steps (h : feed input d = (d', frames, .ok ())) : d.stage.Steps frames d'.stage := by
  unfold feed at h
  split at h
  · cases h
  · generalize hinner : d.feedInner [] [] input = result at h
    obtain ⟨d₁, out, result⟩ := result
    cases h
    obtain ⟨frames, rfl, hsteps⟩ := feedInner_steps hinner
    exact hsteps

/-- The frames of any reads that go through are those of a run of the stages. -/
theorem feedAll_steps (chunks : List Bytes) (d : Decoder) (h : (d.feedAll chunks).2.2 = .ok ()) :
    d.stage.Steps (d.feedAll chunks).2.1 (d.feedAll chunks).1.stage := by
  induction chunks generalizing d with
  | nil => exact .refl _
  | cons chunk chunks ih =>
    rcases hfeed : d.feed chunk with ⟨d₁, frames, e | _⟩ <;> rw [feedAll, hfeed] at h ⊢
    · cases h
    · exact (feed_steps hfeed).trans (ih d₁ h)

theorem feedAll_steps_entering :
    Stage.Steps (stage { new .default with armed := true })
      (feedAll [marker, [newline]] { new .default with armed := true }).2.1
      (feedAll [marker, [newline]] { new .default with armed := true }).1.stage :=
  feedAll_steps _ _ (by decide +kernel)

end Decoder

end Chan.Tmux
