import Chan.Lib.History
import Chan.Tmux.Question

namespace Chan.Tmux

variable {K : Links}

open History

namespace Gate

/-- One thing that happens to a gate. A call is a few of them, one after another. -/
inductive Cause (K : Links) where
  | read (client : Client) (bytes : Bytes)
  | entered (foreground : Foreground) (now : Nat)
  | event (e : Event) (now : Nat)
  | reported
  | flooded (bytes : Bytes) (now : Nat)
  | broken (client : Client) (bytes : Bytes) (error : Error)
  | answered (a : Answer) (now : Nat)
  | ticked (now : Nat)
  | gone
  | configured (policy : Policy)
  | served (steps : K.Conn → K.Conn × List (ConnectionStep K.Work K.Purpose)) (now : Nat)

def judge (a : Answer) (now : Nat) (g : Gate K) : Acts K :=
  match g.phase with
  | .asking _ _ _ origin =>
    match a with
    | .deny => g.deny "denied" now
    | _ => (g.allow a origin now, [])
  | _ => (g, [])

def replayed (a : Answer) (g : Gate K) : List Event :=
  match g.phase with
  | .asking _ held _ _ => if a = .deny then [] else held
  | _ => []

def Cause.handle : Cause K → Gate K → Acts K
  | .read client bytes, g => ({ g.countHeld bytes with client := client }, [])
  | .entered foreground now, g => (g.entered foreground now, [])
  | .event e now, g => g.event e now
  | .reported, g => g.publishStatusIfDirty
  | .flooded bytes now, g =>
    if g.floods bytes then
      (g.countHeld bytes).deny "denied: too much output while the question stood" now
    else (g, [])
  | .broken client bytes error, g =>
    { g.countHeld bytes with client := client }.endStream
      ("tmux control mode ended: " ++ error.display)
  | .answered a now, g => g.judge a now
  | .ticked now, g => g.tick now
  | .gone, g => g.controlExited
  | .configured policy, g => (g.setPolicy policy, [])
  | .served steps now, g => g.serve steps now

def handleAll : List (Cause K) → Gate K → Acts K
  | [], g => (g, [])
  | c :: cs, g => (c.handle g).andThen (handleAll cs)

def feedCauses (now : Nat) : List Event → Option Foreground → List (Cause K)
  | [], _ => []
  | .passthrough _ :: events, foreground => feedCauses now events foreground
  | .entered :: events, foreground =>
    .entered (foreground.getD ⟨none, none⟩) now :: feedCauses now events none
  | e :: events, foreground => .event e now :: feedCauses now events foreground

def Call.causes : Call K → Gate K → List (Cause K)
  | .feed bytes now foreground, g =>
    if g.floods bytes then [.flooded bytes now]
    else
      match g.client.feed bytes with
      | (client, .error e) => [.broken client bytes e]
      | (client, .ok events) =>
        .read client bytes :: (feedCauses now events (some foreground) ++ [.reported])
  | .answer a now, g => .answered a now :: (g.replayed a).map (.event · now)
  | .tick now, _ => [.ticked now]
  | .controlExited, _ => [.gone]
  | .typed _, _ => []
  | .setPolicy policy, _ => [.configured policy]
  | .workDone done now, _ => [.served (K.onWorkDone done) now]
  | .request r now, _ => [.served (requestSteps r) now]
  | .paneCommand pane command now, _ => [.served (K.onPaneCommand pane command) now]

lemma Acts.andThen_nil (t : Acts K) : (t.andThen fun g => (g, [])) = t := by
  rw [Acts.andThen, List.append_nil]

lemma Acts.andThen_assoc (t : Acts K) (f f' : Gate K → Acts K) :
    (t.andThen f).andThen f' = t.andThen fun g => (f g).andThen f' := by
  simp [Acts.andThen]

lemma handleAll_append (cs ds : List (Cause K)) (g : Gate K) :
    handleAll (cs ++ ds) g = (handleAll cs g).andThen (handleAll ds) := by
  induction cs generalizing g with
  | nil => rfl
  | cons c cs ih =>
    simp only [List.cons_append, handleAll, Acts.andThen_assoc]
    congr 1
    exact funext ih

lemma handleAll_events (now : Nat) (events : List Event) (g : Gate K) :
    handleAll (events.map (.event · now)) g = g.replay now events := by
  induction events generalizing g with
  | nil => rfl
  | cons e events ih =>
    simp only [List.map_cons, handleAll, replay, Cause.handle]
    congr 1
    exact funext ih

lemma handleAll_feedCauses (now : Nat) (events : List Event) (foreground : Option Foreground)
    (g : Gate K) :
    handleAll (feedCauses now events foreground) g =
      ((feedEvents now events foreground g).1, (feedEvents now events foreground g).2.2) := by
  fun_induction feedEvents now events foreground g with
  | case1 => rfl
  | case2 _ _ _ _ _ _ _ hrest ih | case3 _ _ _ _ _ _ _ hrest ih =>
    rw [hrest] at ih
    exact ih
  | case4 e events foreground g hpass henter t actions hevent t' _ _ hrest ih =>
    rw [hrest] at ih
    have hcause : feedCauses now (e :: events) foreground =
        (.event e now :: feedCauses now events foreground : List (Cause K)) := by
      rw [feedCauses]
      · exact hpass
      · exact henter
    simp only [hcause, handleAll, Cause.handle, hevent, Acts.andThen, ih]

lemma run_eq_handleAll (c : Call K) (g : Gate K) : c.run g = handleAll (c.causes g) g := by
  cases c with
  | feed bytes now foreground =>
    have hclient : (g.countHeld bytes).client = g.client := by
      rw [countHeld]
      split <;> rfl
    simp only [Call.run, Call.causes, feed]
    by_cases hf : g.floods bytes = true
    · simp only [if_pos hf, handleAll, Acts.andThen_nil, Cause.handle]
    · rw [if_neg hf, if_neg hf, hclient]
      rcases g.client.feed bytes with ⟨client, e | events⟩
      · simp only [handleAll, Acts.andThen_nil, Cause.handle]
      · simp [handleAll, handleAll_append, handleAll_feedCauses, Cause.handle, Acts.andThen]
  | answer a now =>
    simp only [Call.run, Call.causes, handleAll, Cause.handle]
    rw [answer, judge, replayed]
    cases g.phase with
    | asking => cases a <;> simp [Acts.andThen, handleAll, handleAll_events]
    | plain => rfl
    | probing => rfl
    | connected => rfl
    | draining => rfl
  | tick now | controlExited | workDone done now | request r now | paneCommand pane command now =>
    exact (Acts.andThen_nil _).symm
  | typed bytes => rfl
  | setPolicy policy => rfl

def causes : Gate K → List (Call K) → List (Cause K)
  | _, [] => []
  | g, c :: calls => c.causes g ++ causes (c.run g).1 calls

def runAll : List (Call K) → Gate K → Acts K
  | [], g => (g, [])
  | c :: calls, g => (c.run g).andThen (runAll calls)

lemma runAll_eq_handleAll (calls : List (Call K)) (g : Gate K) :
    runAll calls g = handleAll (causes g calls) g := by
  induction calls generalizing g with
  | nil => rfl
  | cons c calls ih =>
    rw [runAll, causes, handleAll_append, ← run_eq_handleAll, Acts.andThen, Acts.andThen, ih]

abbrev Moment (K : Links) := Gate K × Cause K

namespace Moment

def actions (m : Moment K) : List (Action K.Work) := (m.2.handle m.1).2

def after (m : Moment K) : Gate K := (m.2.handle m.1).1

def writes (m : Moment K) : List Bytes :=
  m.actions.filterMap fun
    | .write bytes => some bytes
    | _ => none

end Moment

def happened (g : Gate K) (calls : List (Call K)) : List (Moment K) :=
  history (fun g c => (c.handle g).1) g (causes g calls)

lemma handleAll_actions (cs : List (Cause K)) (g : Gate K) :
    (handleAll cs g).2 = (history (fun g c => (c.handle g).1) g cs).flatMap Moment.actions := by
  induction cs generalizing g with
  | nil => rfl
  | cons c cs ih =>
    rw [handleAll, Acts.andThen, ih, history, List.flatMap_cons]
    rfl

lemma runAll_actions : (runAll calls g).2 = (happened g calls).flatMap Moment.actions := by
  rw [runAll_eq_handleAll, handleAll_actions, happened]

/-- A phase, as far as consent goes. -/
inductive Stance where
  | asking (origin : Origin)
  | probing (probe : Option Token)
  | connected
  | settled
  deriving DecidableEq

def stance (g : Gate K) : Stance :=
  match g.phase with
  | .asking _ _ _ origin => .asking origin
  | .probing _ probe _ _ => .probing probe
  | .connected _ _ => .connected
  | .plain => .settled
  | .draining _ => .settled

namespace Moment

def Enters (foreground : Foreground) (m : Moment K) : Prop := ∃ now, m.2 = .entered foreground now

def Allows (origin : Origin) (m : Moment K) : Prop :=
  m.1.stance = .asking origin ∧ ∃ a now, m.2 = .answered a now ∧ a ≠ .deny

def AllowsForTab (m : Moment K) : Prop :=
  ∃ origin now, m.1.stance = .asking origin ∧ m.2 = .answered .allowForTab now

/-- A question is denied: by an answer, by its deadline, or by too much output. -/
def Denies (m : Moment K) : Prop :=
  ∃ deadline held heldBytes origin, m.1.phase = .asking deadline held heldBytes origin ∧
    ((∃ now, m.2 = .answered .deny now) ∨ (∃ now, m.2 = .ticked now ∧ deadline ≤ now) ∨
      ∃ bytes now, m.2 = .flooded bytes now ∧ heldBytesMax < heldBytes + bytes.length)

def Announces (token : Token) (m : Moment K) : Prop :=
  ∃ session name now, m.2 = .event (.message (.sessionChanged session name)) now ∧
    m.1.submitProbe.2 = .ok token

def Reports (token : Token) (m : Moment K) : Prop :=
  ∃ result version now, m.2 = .event (.reply token result) now ∧
    reportedVersion result = some version ∧ versionFloor.le version = true

def Connects (m : Moment K) : Prop :=
  (∃ title, .controlWindow title ∈ m.actions) ∨
    (m.1.stance ≠ .connected ∧ m.after.stance = .connected)

end Moment

/-- No control window is opened. -/
def Windowless (actions : List (Action W)) : Prop := ∀ title, .controlWindow title ∉ actions

/-- What a cause other than an entry can do. -/
inductive Turn (m : Moment K) : Stance → Stance → Prop where
  | keep (origin) : m.actions = [] → Turn m (.asking origin) (.asking origin)
  | allow : m.Allows origin → m.actions = [] → Turn m (.asking origin) (.probing none)
  | deny : m.Denies → m.writes = [[newline]] → Windowless m.actions →
      Turn m (.asking origin) .settled
  | drop (origin) : m.writes = [] → Windowless m.actions → Turn m (.asking origin) .settled
  | wait (probe) : Windowless m.actions → Turn m (.probing probe) (.probing probe)
  | announce : m.Announces token → Windowless m.actions →
      Turn m (.probing none) (.probing (some token))
  | report : m.Reports token → after = .connected ∨ after = .settled →
      Turn m (.probing (some token)) after
  | fail (probe) : Windowless m.actions → Turn m (.probing probe) .settled
  | carry : Windowless m.actions → Turn m .connected .connected
  | close : Windowless m.actions → Turn m .connected .settled
  | rest : m.writes = [] → Windowless m.actions → Turn m .settled .settled

lemma Windowless.nil : Windowless ([] : List (Action W)) := fun _ => List.not_mem_nil

lemma Windowless.append (h : Windowless l) (h' : Windowless l') :
    Windowless (l ++ l') := fun title hmem =>
  (List.mem_append.1 hmem).elim (h title) (h' title)

lemma Windowless.cons {l : List (Action W)} (h : Windowless l)
    (ha : ∀ title, .controlWindow title ≠ a) : Windowless (a :: l) := fun title hmem =>
  h title ((List.mem_cons.1 hmem).resolve_left (ha title))

lemma Windowless.single {a : Action W} (ha : ∀ title, .controlWindow title ≠ a) :
    Windowless [a] := Windowless.nil.cons ha

lemma drive_windowless (steps : List (ConnectionStep K.Work K.Purpose)) (client : Client)
    (c : K.Conn) : Windowless (drive steps client c).2.2.1 := by
  fun_induction drive steps client c with
  | case1 => exact .nil
  | case2 _ _ _ _ _ _ _ _ hrest ih | case3 _ _ _ _ _ _ _ _ _ _ _ _ _ hrest ih =>
    rw [hrest] at ih
    exact ih.cons nofun
  | case4 _ _ _ _ _ _ _ _ ih => exact ih
  | case5 _ _ _ _ _ _ _ _ ih => exact ih
  | case6 _ _ _ _ _ _ _ _ ih => exact ih
  | case7 => exact .nil

lemma endActions_windowless (steps : List (ConnectionStep K.Work K.Purpose)) :
    Windowless (endActions steps) := by
  intro title hmem
  obtain ⟨step, -, hstep⟩ := List.mem_filterMap.1 hmem
  cases step <;> cases hstep

lemma endConnection_spec (exit : TerminalExit) (g : Gate K) :
    (g.endConnection exit).1.stance = g.stance ∧ Windowless (g.endConnection exit).2 := by
  rw [endConnection]
  split
  · rename_i hphase
    exact ⟨by rw [stance, stance, hphase],
      (endActions_windowless _).append (.single (fun _ h => by cases h))⟩
  · exact ⟨rfl, .nil⟩

lemma endConnection_of_ne {g : Gate K} (h : g.stance ≠ .connected) (exit : TerminalExit) :
    g.endConnection exit = (g, []) := by
  rw [endConnection]
  split
  · rename_i hphase
    exact absurd (by rw [stance, hphase]) h
  · rfl

lemma endControl_spec (notice : String) (now : Nat) (g : Gate K) :
    (g.endControl notice now).1.stance = .settled ∧ Windowless (g.endControl notice now).2 := by
  refine ⟨rfl, (endConnection_spec .unknown g).2.append (.append ?_ (.single nofun))⟩
  split
  · exact .single nofun
  · exact .nil

lemma endStream_spec (notice : String) (g : Gate K) :
    (g.endStream notice).1.stance = .settled ∧ Windowless (g.endStream notice).2 :=
  ⟨rfl, (endConnection_spec .unknown g).2.append (.single nofun)⟩

lemma publishStatusIfDirty_spec (g : Gate K) :
    g.publishStatusIfDirty.1.stance = g.stance ∧ Windowless g.publishStatusIfDirty.2 := by
  rw [publishStatusIfDirty]
  split
  · rename_i hphase
    refine ⟨by rw [stance, stance, hphase], ?_⟩
    dsimp only
    split
    · exact .single (fun _ h => by cases h)
    · exact .nil
  · exact ⟨rfl, .nil⟩

lemma publishStatusIfDirty_of_ne {g : Gate K} (h : g.stance ≠ .connected) :
    g.publishStatusIfDirty = (g, []) := by
  rw [publishStatusIfDirty]
  split
  · rename_i hphase
    exact absurd (by rw [stance, hphase]) h
  · rfl

lemma driveConnected_spec (version : Version) (connection : K.Conn)
    (steps : List (ConnectionStep K.Work K.Purpose)) (now : Nat) (g : Gate K) :
    ((g.driveConnected version connection steps now).1.stance = .connected ∨
      (g.driveConnected version connection steps now).1.stance = .settled) ∧
      Windowless (g.driveConnected version connection steps now).2 := by
  have hdrive := drive_windowless steps g.client connection
  simp only [driveConnected]
  split
  · exact ⟨.inr rfl, hdrive.append (endControl_spec _ now _).2⟩
  · exact ⟨.inl rfl, hdrive⟩

lemma connect_stance (version : Version) (origin : Origin)
    (announced : Option (SessionId × Bytes)) (now : Nat) (g : Gate K) :
    (g.connect version origin announced now).1.stance = .connected ∨
      (g.connect version origin announced now).1.stance = .settled := by
  simp only [connect]
  split
  · exact .inr rfl
  · exact .inl ((publishStatusIfDirty_spec _).1.trans rfl)

lemma submitProbe_spec (g : Gate K) :
    g.submitProbe.1.1.phase = g.phase ∧ Windowless g.submitProbe.1.2 := by
  rw [submitProbe]
  split
  · exact ⟨rfl, .nil⟩
  · split
    · exact ⟨rfl, .single (fun _ h => by cases h)⟩
    · exact ⟨rfl, .cons (.single (fun _ h => by cases h)) (fun _ h => by cases h)⟩

lemma controlExited_spec (g : Gate K) :
    g.controlExited.1.stance = .settled ∧ Windowless g.controlExited.2 := by
  have hend := endConnection_spec .unknown g
  simp only [controlExited, Acts.andThen]
  split
  · rename_i hphase
    exact ⟨by rw [stance, hphase], by rw [List.append_nil]; exact hend.2⟩
  · exact ⟨rfl, by rw [List.append_nil]; exact hend.2⟩

lemma serve_spec {g : Gate K} (h : g.phase = .connected version connection) :
    ((g.serve steps now).1.stance = .connected ∨ (g.serve steps now).1.stance = .settled) ∧
      Windowless (g.serve steps now).2 := by
  obtain ⟨hstance, hactions⟩ := driveConnected_spec version (steps connection).1
    (steps connection).2 now g
  obtain ⟨hsame, hstatus⟩ := publishStatusIfDirty_spec
    (g.driveConnected version (steps connection).1 (steps connection).2 now).1
  simp only [serve, h]
  exact ⟨hstance.imp hsame.trans hsame.trans, hactions.append hstatus⟩

lemma Turn.idle (h : m.2.handle m.1 = (t, [])) (hs : t.stance = m.1.stance) :
    Turn m m.1.stance m.after.stance := by
  have hactions : m.actions = [] := congrArg Prod.snd h
  have hwindow : Windowless m.actions := by rw [hactions]; exact .nil
  have hwrites : m.writes = [] := by rw [Moment.writes, hactions]; rfl
  have hafter : m.after = t := congrArg Prod.fst h
  rw [hafter, hs]
  cases m.1.stance with
  | asking origin => exact .keep origin hactions
  | probing probe => exact .wait probe hwindow
  | connected => exact .carry hwindow
  | settled => exact .rest hwrites hwindow

lemma Turn.ends (hs : m.after.stance = .settled) (hw : Windowless m.actions)
    (hwrites : m.1.stance = .connected ∨ m.writes = []) : Turn m m.1.stance m.after.stance := by
  rw [hs]
  cases h : m.1.stance with
  | asking origin => exact .drop origin (hwrites.resolve_left (by rw [h]; nofun)) hw
  | probing probe => exact .fail probe hw
  | connected => exact .close hw
  | settled => exact .rest (hwrites.resolve_left (by rw [h]; nofun)) hw

lemma stance_countHeld (bytes : Bytes) (g : Gate K) : (g.countHeld bytes).stance = g.stance := by
  rw [countHeld]
  split
  · rename_i hphase
    simp only [stance, hphase]
  · rfl

lemma stance_asking {g : Gate K} (h : g.phase = .asking deadline held heldBytes origin) :
    g.stance = .asking origin := by
  rw [stance, h]

lemma stance_probing {g : Gate K} {session : Option (SessionId × Bytes)}
    (h : g.phase = .probing deadline probe session origin) :
    g.stance = .probing probe := by
  rw [stance, h]

lemma stance_connected {g : Gate K} (h : g.phase = .connected version connection) :
    g.stance = .connected := by
  rw [stance, h]

lemma turn_probing_event (e : Event) (now : Nat) {g : Gate K}
    {session : Option (SessionId × Bytes)}
    (hphase : g.phase = .probing deadline probe session origin) :
    Turn (g, .event e now) (.probing probe) (g.event e now).1.stance := by
  have hstance := stance_probing hphase
  have hidle (h : g.event e now = (g, [])) :
      Turn (g, .event e now) (.probing probe) (g.event e now).1.stance := by
    rw [← hstance]
    exact Turn.idle (m := (g, .event e now)) h rfl
  have hfail (h : (g.event e now).1.stance = .settled) (hw : Windowless (g.event e now).2) :
      Turn (g, .event e now) (.probing probe) (g.event e now).1.stance := by
    rw [h]
    exact .fail probe hw
  have hunfold := event.eq_def e now g
  simp only [hphase] at hunfold
  split at hunfold
  · rename_i session' name
    split at hunfold
    · rename_i hnone
      obtain rfl := Option.isNone_iff_eq_none.1 hnone
      obtain ⟨hsame, hprobe⟩ := submitProbe_spec g
      split at hunfold
      · rename_i t actions token hsubmit
        rw [hsubmit] at hprobe
        have hafter : (g.event (.message (.sessionChanged session' name)) now).1.stance =
            .probing (some token) := by rw [hunfold]; rfl
        rw [hafter]
        refine .announce ⟨session', name, now, rfl, by rw [hsubmit]⟩ ?_
        rw [Moment.actions, Cause.handle, hunfold]
        exact hprobe
      · rename_i t actions e hsubmit
        rw [hsubmit] at hprobe
        refine hfail (by rw [hunfold]; rfl) ?_
        rw [hunfold]
        exact hprobe.append (endControl_spec _ now t).2
    · exact hidle hunfold
  · rename_i token result
    split at hunfold
    · rename_i htoken
      subst htoken
      rw [probed] at hunfold
      split at hunfold
      · rename_i version hversion
        split at hunfold
        · rename_i hfloor
          refine .report ⟨result, version, now, rfl, hversion, hfloor⟩ ?_
          rw [hunfold]
          exact connect_stance version origin session now _
        · refine hfail (by rw [hunfold]; rfl) ?_
          rw [hunfold]
          exact (endControl_spec _ now _).2
      · refine hfail (by rw [hunfold]; rfl) ?_
        rw [hunfold]
        exact (endControl_spec _ now _).2
    · exact hidle hunfold
  · refine hfail (by rw [hunfold]; rfl) ?_
    rw [hunfold]
    exact .single (fun _ h => by cases h)
  · exact hidle hunfold

lemma turn_event (e : Event) (now : Nat) (g : Gate K) :
    Turn (g, .event e now) g.stance (g.event e now).1.stance := by
  cases hphase : g.phase with
  | plain =>
    have heq : g.event e now = (g, []) := by simp only [event, hphase]
    exact Turn.idle (m := (g, .event e now)) heq rfl
  | asking deadline held heldBytes origin =>
    have heq : g.event e now =
        ({ g with phase := .asking deadline (held ++ [e]) heldBytes origin }, []) := by
      simp only [event, hphase]
    exact Turn.idle (m := (g, .event e now)) heq (stance_asking hphase).symm
  | probing deadline probe session origin =>
    rw [stance_probing hphase]
    exact turn_probing_event e now hphase
  | connected version connection =>
    have hstance := stance_connected hphase
    by_cases hexit : ∃ reason dropped, e = .exited reason dropped
    · obtain ⟨reason, dropped, rfl⟩ := hexit
      have heq : g.event (.exited reason dropped) now = (g.endConnection (.code 0)).andThen
          (exited ("tmux " ++ versionText version) reason) := by
        simp only [event, hphase]
      exact Turn.ends (m := (g, .event (.exited reason dropped) now))
        (congrArg (fun t : Acts K => t.1.stance) heq)
        (by
          rw [Moment.actions, Cause.handle, heq]
          exact (endConnection_spec (.code 0) g).2.append (.single nofun))
        (.inl hstance)
    · have heq : g.event e now = g.driveConnected version (K.eventSteps e connection).1
          (K.eventSteps e connection).2 now := by
        simp only [event, hphase]
        split
        · rename_i reason dropped
          exact absurd ⟨reason, dropped, rfl⟩ hexit
        · rfl
      obtain ⟨hafter, hwindow⟩ := driveConnected_spec version (K.eventSteps e connection).1
        (K.eventSteps e connection).2 now g
      rw [← heq] at hafter hwindow
      rw [hstance]
      rcases hafter with hafter | hafter
      · rw [hafter]
        exact .carry hwindow
      · rw [hafter]
        exact .close hwindow
  | draining deadline =>
    by_cases hexit : ∃ reason dropped, e = .exited reason dropped
    · obtain ⟨reason, dropped, rfl⟩ := hexit
      have heq : g.event (.exited reason dropped) now = (g.reset, []) := by
        simp only [event, hphase]
      exact Turn.idle (m := (g, .event (.exited reason dropped) now)) heq
        (by simp only [stance, reset, hphase])
    · have heq : g.event e now = (g, []) := by
        simp only [event, hphase]
        split
        · rename_i reason dropped
          exact absurd ⟨reason, dropped, rfl⟩ hexit
        · rfl
      exact Turn.idle (m := (g, .event e now)) heq rfl

lemma deny_writes (why : String) (now : Nat) (g : Gate K) :
    Windowless (g.deny why now).2 := .cons (.single nofun) nofun

lemma turn_flooded (bytes : Bytes) (now : Nat) (g : Gate K) :
    Turn (g, .flooded bytes now) g.stance (Moment.after (g, .flooded bytes now)).stance := by
  by_cases hf : g.floods bytes = true
  · have hdone : Cause.handle (.flooded bytes now) g =
        (g.countHeld bytes).deny "denied: too much output while the question stood" now := if_pos hf
    rw [floods] at hf
    split at hf
    · rename_i deadline held heldBytes origin hphase
      rw [stance_asking hphase, Moment.after, hdone]
      refine .deny ⟨deadline, held, heldBytes, origin, hphase,
        .inr (.inr ⟨bytes, now, rfl, of_decide_eq_true hf⟩)⟩ ?_ ?_
      · rw [Moment.writes, Moment.actions, hdone]
        rfl
      · rw [Moment.actions, hdone]
        exact deny_writes _ now _
    · cases hf
  · exact Turn.idle (m := (g, .flooded bytes now)) (if_neg hf) rfl

lemma turn_answered (a : Answer) (now : Nat) (g : Gate K) :
    Turn (g, .answered a now) g.stance (Moment.after (g, .answered a now)).stance := by
  cases hphase : g.phase with
  | asking deadline held heldBytes origin =>
    have hstance := stance_asking hphase
    rw [hstance]
    have hallow (hne : a ≠ .deny) :
        Turn (g, .answered a now) (.asking origin) (Moment.after (g, .answered a now)).stance := by
      have hdone : Cause.handle (.answered a now) g = (g.allow a origin now, []) := by
        simp only [Cause.handle, judge, hphase]
      rw [Moment.after, hdone]
      exact .allow ⟨hstance, a, now, rfl, hne⟩ (congrArg Prod.snd hdone)
    cases a with
    | allow => exact hallow nofun
    | allowForTab => exact hallow nofun
    | deny =>
      have hdone : Cause.handle (.answered .deny now) g = g.deny "denied" now := by
        simp only [Cause.handle, judge, hphase]
      rw [Moment.after, hdone]
      refine .deny ⟨deadline, held, heldBytes, origin, hphase, .inl ⟨now, rfl⟩⟩ ?_ ?_
      · rw [Moment.writes, Moment.actions, hdone]
        rfl
      · rw [Moment.actions, hdone]
        exact deny_writes _ now _
  | _ =>
    exact Turn.idle (m := (g, .answered a now)) (by simp only [Cause.handle, judge, hphase]) rfl

lemma turn_ticked (now : Nat) (g : Gate K) :
    Turn (g, .ticked now) g.stance (g.tick now).1.stance := by
  cases hphase : g.phase with
  | asking deadline held heldBytes origin =>
    by_cases hlate : deadline ≤ now
    · have hdone : g.tick now = g.deny "denied: no answer" now := by
        simp only [tick, hphase, if_pos hlate]
      rw [stance_asking hphase, hdone]
      refine .deny ⟨deadline, held, heldBytes, origin, hphase, .inr (.inl ⟨now, rfl, hlate⟩)⟩ ?_ ?_
      · rw [Moment.writes, Moment.actions, Cause.handle, hdone]
        rfl
      · rw [Moment.actions, Cause.handle, hdone]
        exact deny_writes _ now _
    · exact Turn.idle (m := (g, .ticked now))
        (by simp only [Cause.handle, tick, hphase, if_neg hlate]) rfl
  | probing deadline probe session origin =>
    by_cases hlate : deadline ≤ now
    · have hunfold := tick.eq_def now g
      simp only [hphase, if_pos hlate] at hunfold
      rw [stance_probing hphase]
      split at hunfold
      · have hspec := endControl_spec "tmux control mode ended: no version reply" now g
        rw [← hunfold] at hspec
        rw [hspec.1]
        exact .fail probe hspec.2
      · have hspec := endStream_spec "tmux control mode ended: no session announced" g
        rw [hunfold]
        refine .fail probe ?_
        rw [Moment.actions, Cause.handle, hunfold]
        exact hspec.2.cons (fun _ h => by cases h)
    · exact Turn.idle (m := (g, .ticked now))
        (by simp only [Cause.handle, tick, hphase, if_neg hlate]) rfl
  | plain | connected =>
    exact Turn.idle (m := (g, .ticked now)) (by simp only [Cause.handle, tick, hphase]) rfl
  | draining deadline =>
    by_cases hlate : deadline ≤ now
    · exact Turn.idle (m := (g, .ticked now)) (t := g.reset)
        (by simp only [Cause.handle, tick, hphase, if_pos hlate])
        (by simp only [stance, reset, hphase])
    · exact Turn.idle (m := (g, .ticked now))
        (by simp only [Cause.handle, tick, hphase, if_neg hlate]) rfl

lemma turn_broken (client : Client) (bytes : Bytes) (error : Error) (g : Gate K) :
    Turn (g, .broken client bytes error) g.stance
      (Moment.after (g, .broken client bytes error)).stance := by
  have hspec := endStream_spec ("tmux control mode ended: " ++ error.display)
    { g.countHeld bytes with client := client }
  refine Turn.ends (m := (g, .broken client bytes error)) hspec.1 hspec.2 ?_
  by_cases h : g.stance = .connected
  · exact .inl h
  · have hnone := endConnection_of_ne (g := { g.countHeld bytes with client := client })
      (fun hc => h ((stance_countHeld bytes g).symm.trans hc)) .unknown
    right
    rw [Moment.writes, Moment.actions, Cause.handle, endStream, hnone]
    rfl

lemma turn_gone (g : Gate K) : Turn (g, .gone) g.stance g.controlExited.1.stance := by
  have hspec := controlExited_spec g
  refine Turn.ends (m := (g, .gone)) hspec.1 hspec.2 ?_
  by_cases h : g.stance = .connected
  · exact .inl h
  · right
    rw [Moment.writes, Moment.actions, Cause.handle, controlExited, endConnection_of_ne h,
      Acts.andThen]
    split <;> rfl

lemma turn_served (steps : K.Conn → K.Conn × List (ConnectionStep K.Work K.Purpose)) (now : Nat)
    (g : Gate K) : Turn (g, .served steps now) g.stance (g.serve steps now).1.stance := by
  cases hphase : g.phase with
  | connected version connection =>
    obtain ⟨hafter, hwindow⟩ := serve_spec hphase
    rw [stance_connected hphase]
    rcases hafter with hafter | hafter
    · rw [hafter]
      exact .carry hwindow
    · rw [hafter]
      exact .close hwindow
  | _ =>
    exact Turn.idle (m := (g, .served steps now)) (by simp only [Cause.handle, serve, hphase]) rfl

lemma turn_reported (g : Gate K) :
    Turn (g, .reported) g.stance g.publishStatusIfDirty.1.stance := by
  by_cases h : g.stance = .connected
  · have hspec := publishStatusIfDirty_spec g
    rw [hspec.1, h]
    exact .carry hspec.2
  · exact Turn.idle (m := (g, .reported)) (publishStatusIfDirty_of_ne h) rfl

lemma turn (m : Moment K) (h : ∀ foreground, ¬m.Enters foreground) :
    Turn m m.1.stance m.after.stance := by
  obtain ⟨g, c⟩ := m
  cases c with
  | read client bytes =>
    exact Turn.idle (m := (g, .read client bytes)) rfl (stance_countHeld bytes g)
  | entered foreground now => exact absurd ⟨now, rfl⟩ (h foreground)
  | event e now => exact turn_event e now g
  | reported => exact turn_reported g
  | flooded bytes now => exact turn_flooded bytes now g
  | broken client bytes error => exact turn_broken client bytes error g
  | answered a now => exact turn_answered a now g
  | ticked now => exact turn_ticked now g
  | gone => exact turn_gone g
  | configured policy => exact Turn.idle (m := (g, .configured policy)) rfl rfl
  | served steps now => exact turn_served steps now g

end Gate

end Chan.Tmux
