import Chan.Lib.Transition
import Chan.Tmux.Gate

namespace Chan.Tmux

variable {K : Links}

open Transition

namespace Gate

inductive Call (K : Links) where
  | feed (bytes : Bytes) (now : Nat) (foreground : Foreground)
  | answer (a : Answer) (now : Nat)
  | tick (now : Nat)
  | controlExited
  | typed (bytes : Bytes)
  | setPolicy (policy : Policy)
  | workDone (done : K.WorkDone) (now : Nat)
  | request (request : Request) (now : Nat)
  | paneCommand (pane : PaneId) (command : K.PtyCommand) (now : Nat)

def Call.run : Call K → Gate K → Acts K
  | .feed bytes now foreground, g =>
    let (g, _, actions) := g.feed bytes now foreground
    (g, actions)
  | .answer a now, g => g.answer a now
  | .tick now, g => g.tick now
  | .controlExited, g => g.controlExited
  -- Typed bytes reach the terminal or nothing: the gate is only asked whether it accepts them.
  | .typed _, g => (g, [])
  | .setPolicy policy, g => (g.setPolicy policy, [])
  | .workDone done now, g => g.workDone done now
  | .request r now, g => g.request r now
  | .paneCommand pane command now, g => g.paneCommand pane command now

def step (g : Gate K) (c : Call K) : Option (Gate K) := some (c.run g).1

def standing (g : Gate K) : Option Question :=
  match g.phase with
  | .asking _ _ _ origin => some origin.question
  | _ => none

/-- The published question is the one that stands. -/
def Consistent (g : Gate K) : Prop := g.published.question = g.standing

/-- A call under which a question that stands is withdrawn or kept: no exit of the process, no bytes
the client refuses, and no bytes with a single marker from a program that is trusted. -/
def Orderly (g : Gate K) (c : Call K) : Prop :=
  g.standing ≠ none →
    match c with
    | .controlExited => False
    | .feed bytes _ foreground =>
      g.floods bytes = true ∨ ∃ events, (g.client.feed bytes).2 = .ok events ∧
        ¬(g.trusts foreground = true ∧ events.count .entered = 1)
    | _ => True

structure Quiet (g g' : Gate K) : Prop where
  published : g'.published = g.published
  allowForTab : g'.allowForTab = g.allowForTab
  policy : g'.policy = g.policy
  standing : g'.standing = g.standing

namespace Quiet

lemma refl (g : Gate K) : Quiet g g := ⟨rfl, rfl, rfl, rfl⟩

lemma trans (h : Quiet g g') (h' : Quiet g' g'') : Quiet g g'' :=
  ⟨h'.published.trans h.published, h'.allowForTab.trans h.allowForTab, h'.policy.trans h.policy,
    h'.standing.trans h.standing⟩

lemma andThen {t : Acts K} {f : Gate K → Acts K} (h : Quiet g t.1) (hf : Quiet t.1 (f t.1).1) :
    Quiet g (t.andThen f).1 := h.trans hf

lemma consistent (h : Quiet g g') : g'.Consistent ↔ g.Consistent := by
  rw [Consistent, Consistent, h.published, h.standing]

lemma trusts (h : Quiet g g') (foreground : Foreground) :
    g'.trusts foreground = g.trusts foreground := by
  rw [Gate.trusts, Gate.trusts, h.policy]

end Quiet

lemma quiet_client (client : Client) (g : Gate K) : Quiet g { g with client := client } :=
  ⟨rfl, rfl, rfl, rfl⟩

lemma quiet_phase (hp : g'.published = g.published)
    (ha : g'.allowForTab = g.allowForTab) (hl : g'.policy = g.policy) (h : g.standing = none)
    (h' : g'.standing = none) : Quiet g g' := ⟨hp, ha, hl, h'.trans h.symm⟩

lemma quiet_endConnection (exit : TerminalExit) (g : Gate K) :
    Quiet g (g.endConnection exit).1 := by
  rw [endConnection]
  split
  · rename_i hphase
    exact quiet_phase rfl rfl rfl (by rw [standing, hphase]) rfl
  · exact .refl g

lemma quiet_reset (h : g.standing = none) : Quiet g (reset g : Gate K) :=
  quiet_phase rfl rfl rfl h rfl

lemma quiet_endControl {g : Gate K} (h : g.standing = none) :
    Quiet g (g.endControl notice now).1 := by
  have hend := quiet_endConnection .unknown g
  exact hend.andThen (quiet_phase rfl rfl rfl (hend.standing.trans h) rfl)

lemma quiet_endStream (notice : String) {g : Gate K} (h : g.standing = none) :
    Quiet g (g.endStream notice).1 := by
  have hend := quiet_endConnection .unknown g
  exact hend.andThen (quiet_reset (hend.standing.trans h))

lemma quiet_publishStatusIfDirty (g : Gate K) : Quiet g g.publishStatusIfDirty.1 := by
  rw [publishStatusIfDirty]
  split
  · rename_i hphase
    exact quiet_phase rfl rfl rfl (by rw [standing, hphase]) rfl
  · exact .refl g

lemma quiet_submitProbe (g : Gate K) : Quiet g g.submitProbe.1.1 := by
  rw [submitProbe]
  split
  · exact quiet_client _ g
  · split
    · exact quiet_client _ g
    · exact quiet_client _ g

lemma quiet_driveConnected {g : Gate K}
    (h : g.standing = none) : Quiet g (g.driveConnected version connection steps now).1 := by
  have hdriven client connection :
      Quiet g { g with client := client, phase := .connected version connection } :=
    quiet_phase rfl rfl rfl h rfl
  simp only [driveConnected]
  split
  · exact (hdriven _ _).andThen (quiet_endControl rfl)
  · exact hdriven _ _

lemma quiet_connect {g : Gate K} (h : g.standing = none) :
    Quiet g (g.connect version origin announced now).1 := by
  simp only [connect]
  split
  · exact Quiet.andThen ⟨rfl, rfl, rfl, rfl⟩ (quiet_endControl h)
  · exact Quiet.andThen (quiet_phase rfl rfl rfl h rfl) (quiet_publishStatusIfDirty _)

lemma quiet_probed (h : g.standing = none) :
    Quiet g (g.probed result origin announced now).1 := by
  rw [probed]
  split
  · split
    · exact quiet_connect h
    · exact quiet_endControl h
  · exact quiet_endControl h

lemma quiet_event (e : Event) (now : Nat) (g : Gate K) : Quiet g (g.event e now).1 := by
  unfold event
  split
  case h_1 => exact .refl g
  case h_2 hphase => exact ⟨rfl, rfl, rfl, by simp only [standing, hphase]⟩
  case h_3 hphase =>
    have hnone : g.standing = none := by rw [standing, hphase]
    split
    · split
      · have hprobe := quiet_submitProbe g
        split
        · rename_i heq
          rw [heq] at hprobe
          exact hprobe.trans (quiet_phase rfl rfl rfl (hprobe.standing.trans hnone) rfl)
        · rename_i heq
          rw [heq] at hprobe
          exact hprobe.andThen (quiet_endControl (hprobe.standing.trans hnone))
      · exact .refl g
    · split
      · have hwait d p o :
            Quiet g { g with phase := .probing d p none o } := quiet_phase rfl rfl rfl hnone rfl
        exact (hwait _ _ _).trans (quiet_probed rfl)
      · exact .refl g
    · exact quiet_phase rfl rfl rfl hnone rfl
    · exact .refl g
  case h_4 hphase =>
    have hnone : g.standing = none := by rw [standing, hphase]
    split
    · have hend := quiet_endConnection (.code 0) g
      exact hend.trans (quiet_phase rfl rfl rfl (hend.standing.trans hnone) rfl)
    · exact quiet_driveConnected hnone
  case h_5 hphase =>
    split
    · exact quiet_reset (by rw [standing, hphase])
    · exact .refl g

lemma quiet_replay (now : Nat) (events : List Event) (g : Gate K) :
    Quiet g (g.replay now events).1 := by
  induction events generalizing g with
  | nil => exact .refl g
  | cons e events ih => exact (quiet_event e now g).andThen (ih _)

lemma quiet_serve (steps : K.Conn → K.Conn × List (ConnectionStep K.Work K.Purpose)) (now : Nat)
    (g : Gate K) : Quiet g (g.serve steps now).1 := by
  rw [serve]
  split
  · rename_i hphase
    exact (quiet_driveConnected (by rw [standing, hphase])).andThen
      (quiet_publishStatusIfDirty _)
  · exact .refl g

lemma quiet_countHeld (bytes : Bytes) (g : Gate K) : Quiet g (g.countHeld bytes) := by
  rw [countHeld]
  split
  · rename_i hphase
    exact ⟨rfl, rfl, rfl, by simp only [standing, hphase]⟩
  · exact .refl g

section
variable (foreground : Foreground)

lemma entered_passes (now : Nat) {g : Gate K}
    (hpass : (g.trusts foreground || g.allowForTab) = true) :
    (g.entered foreground now).published = g.published ∧
      (g.entered foreground now).standing = none := by
  rw [entered, if_pos hpass]
  exact ⟨rfl, rfl⟩

lemma entered_consistent (now : Nat) {g : Gate K}
    (hpass : (g.trusts foreground || g.allowForTab) = false) :
    (g.entered foreground now).Consistent := by
  rw [entered, if_neg (by rw [hpass]; exact Bool.false_ne_true)]
  rfl

lemma entered_keeps (now : Nat) (g : Gate K) :
    (g.entered foreground now).allowForTab = g.allowForTab ∧
      (g.entered foreground now).policy = g.policy := by
  rw [entered]
  split <;> exact ⟨rfl, rfl⟩

end

@[simp] lemma trusts_unread (g : Gate K) : g.trusts ⟨none, none⟩ = false := rfl

lemma quiet_of_event_eq
    (h : g.event e now = (t, actions)) : Quiet g t := by
  have hq := quiet_event e now g
  rwa [h] at hq

lemma feedEvents_quiet (now : Nat) (events : List Event) (foreground : Option Foreground)
    (g : Gate K) (h : .entered ∉ events) : Quiet g (feedEvents now events foreground g).1 := by
  fun_induction feedEvents now events foreground g with
  | case1 => exact .refl _
  | case2 _ _ _ _ _ _ _ hrest ih =>
    rw [hrest] at ih
    exact ih (List.not_mem_of_not_mem_cons h)
  | case3 => exact absurd List.mem_cons_self h
  | case4 _ _ _ _ _ _ _ _ hevent _ _ _ hrest ih =>
    rw [hrest] at ih
    exact (quiet_of_event_eq hevent).trans (ih (List.not_mem_of_not_mem_cons h))

lemma feedEvents_keeps (now : Nat) (events : List Event) (foreground : Option Foreground)
    (g : Gate K) : (feedEvents now events foreground g).1.allowForTab = g.allowForTab := by
  fun_induction feedEvents now events foreground g with
  | case1 => rfl
  | case2 _ _ _ _ _ _ _ hrest ih => rwa [hrest] at ih
  | case3 _ _ g _ _ _ _ hrest ih =>
    rw [hrest] at ih
    exact ih.trans (entered_keeps _ now g).1
  | case4 _ _ _ _ _ _ _ _ hevent _ _ _ hrest ih =>
    rw [hrest] at ih
    exact ih.trans (quiet_of_event_eq hevent).allowForTab

lemma feedEvents_spent (now : Nat) (events : List Event) (foreground : Option Foreground)
    (g : Gate K) (ha : g.allowForTab = true) (hs : g.standing = none) :
    (feedEvents now events foreground g).1.published = g.published ∧
      (feedEvents now events foreground g).1.standing = none := by
  fun_induction feedEvents now events foreground g with
  | case1 => exact ⟨rfl, hs⟩
  | case2 _ _ _ _ _ _ _ hrest ih =>
    rw [hrest] at ih
    exact ih ha hs
  | case3 _ foreground g _ _ _ _ hrest ih =>
    rw [hrest] at ih
    obtain ⟨hpublished, hstanding⟩ := entered_passes (foreground.getD ⟨none, none⟩) now
      (g := g) (by rw [ha, Bool.or_true])
    obtain ⟨hsame, hnone⟩ := ih ((entered_keeps _ now g).1.trans ha) hstanding
    exact ⟨hsame.trans hpublished, hnone⟩
  | case4 _ _ _ _ _ _ _ _ hevent _ _ _ hrest ih =>
    rw [hrest] at ih
    have he := quiet_of_event_eq hevent
    obtain ⟨hsame, hnone⟩ := ih (he.allowForTab.trans ha) (he.standing.trans hs)
    exact ⟨hsame.trans he.published, hnone⟩

lemma feedEvents_asks (now : Nat) (events : List Event) (foreground : Option Foreground)
    (g : Gate K) (ha : g.allowForTab = false) (h : .entered ∈ events)
    (ht : g.trusts (foreground.getD ⟨none, none⟩) = false) :
    (feedEvents now events foreground g).1.Consistent := by
  fun_induction feedEvents now events foreground g with
  | case1 => cases h
  | case2 _ _ _ _ _ _ _ hrest ih =>
    rw [hrest] at ih
    exact ih ha ((List.mem_cons.1 h).resolve_left nofun) ht
  | case3 events foreground g g' _ _ _ hrest ih =>
    have hasks : g'.Consistent := entered_consistent _ now (by rw [ht, ha]; rfl)
    by_cases hmore : .entered ∈ events
    · rw [hrest] at ih
      exact ih ((entered_keeps _ now g).1.trans ha) hmore (trusts_unread _)
    · have hq := feedEvents_quiet now events none g' hmore
      rw [hrest] at hq
      exact hq.consistent.2 hasks
  | case4 _ _ foreground _ _ hne _ _ hevent _ _ _ hrest ih =>
    rw [hrest] at ih
    have he := quiet_of_event_eq hevent
    exact ih (he.allowForTab.trans ha) ((List.mem_cons.1 h).resolve_left fun h => hne h.symm)
      ((he.trusts _).trans ht)

/-- From a trusted foreground a single entry asks nothing and leaves what was published; a second
one in the same feed asks again. -/
lemma feedEvents_trusted (now : Nat) (events : List Event) (foreground : Option Foreground)
    (g : Gate K) (ha : g.allowForTab = false)
    (ht : g.trusts (foreground.getD ⟨none, none⟩) = true) :
    (events.count .entered = 1 →
      (feedEvents now events foreground g).1.published = g.published ∧
        (feedEvents now events foreground g).1.standing = none) ∧
    (2 ≤ events.count .entered → (feedEvents now events foreground g).1.Consistent) := by
  fun_induction feedEvents now events foreground g with
  | case1 => exact ⟨nofun, nofun⟩
  | case2 data _ _ _ _ _ _ hrest ih =>
    have hne : Event.passthrough data ≠ .entered := nofun
    rw [hrest] at ih
    rw [List.count_cons_of_ne hne]
    exact ih ha ht
  | case3 events foreground g g' _ _ _ hrest ih =>
    obtain ⟨hpublished, hstanding⟩ := entered_passes (foreground.getD ⟨none, none⟩) now
      (g := g) (by rw [ht]; rfl)
    rw [List.count_cons_self]
    refine ⟨fun hone => ?_, fun htwo => ?_⟩
    · have hq := feedEvents_quiet now events none g' (List.count_eq_zero.1 (by omega))
      rw [hrest] at hq
      exact ⟨hq.published.trans hpublished, hq.standing.trans hstanding⟩
    · have hasks := feedEvents_asks now events none g' ((entered_keeps _ now g).1.trans ha)
        (List.count_pos_iff.1 (by omega)) (trusts_unread _)
      rwa [hrest] at hasks
  | case4 e _ _ _ _ hne _ _ hevent _ _ _ hrest ih =>
    rw [hrest] at ih
    have he := quiet_of_event_eq hevent
    rw [List.count_cons_of_ne hne]
    obtain ⟨hone, htwo⟩ := ih (he.allowForTab.trans ha) ((he.trusts _).trans ht)
    exact ⟨fun h => ⟨(hone h).1.trans he.published, (hone h).2⟩, htwo⟩

/-- No question stands once the tab is allowed. -/
def Unspent (g : Gate K) : Prop := g.allowForTab = true → g.standing = none

lemma Quiet.unspent (h : Quiet g g') (hu : g.Unspent) : g'.Unspent := fun ha =>
  h.standing.trans (hu (h.allowForTab.symm.trans ha))

lemma unspent_of_standing (h : g.standing = none) : (g : Gate K).Unspent := fun _ => h

lemma feed_cases (bytes : Bytes) (now : Nat) (foreground : Foreground) (g : Gate K) :
    (g.floods bytes = true ∧ (g.feed bytes now foreground).1 =
      (deny "denied: too much output while the question stood" now (g.countHeld bytes)).1) ∨
    (g.floods bytes = false ∧ ∃ e client, (g.client.feed bytes).2 = .error e ∧
      (g.feed bytes now foreground).1 = (endStream ("tmux control mode ended: " ++ e.display)
        { g.countHeld bytes with client := client }).1) ∨
    (g.floods bytes = false ∧ ∃ events client, (g.client.feed bytes).2 = .ok events ∧
      (g.feed bytes now foreground).1 = (publishStatusIfDirty (feedEvents now events
        (some foreground) { g.countHeld bytes with client := client }).1).1) := by
  have hclient : (g.countHeld bytes).client = g.client := by
    rw [countHeld]
    split <;> rfl
  simp only [feed]
  by_cases hf : g.floods bytes = true
  · rw [if_pos hf]
    exact .inl ⟨hf, rfl⟩
  · grind

lemma consistent_iff_of_reset {g t : Gate K} (hc : g.Consistent)
    (hp : t.published = g.published) (hs : t.standing = none) :
    t.Consistent ↔ g.standing = none := by
  rw [Consistent, hp, hs, hc]

lemma endStream_reset (notice : String) (g : Gate K) :
    (g.endStream notice).1.published = g.published ∧ (g.endStream notice).1.standing = none ∧
      (g.endStream notice).1.allowForTab = g.allowForTab :=
  have hend := quiet_endConnection .unknown g
  ⟨hend.published, rfl, hend.allowForTab⟩

lemma feed_consistent (bytes : Bytes) (now : Nat) (foreground : Foreground) {g : Gate K}
    (hc : g.Consistent) (hu : g.Unspent) :
    (g.feed bytes now foreground).1.Consistent ↔ Orderly g (.feed bytes now foreground) := by
  have hcount := quiet_countHeld bytes g
  obtain ⟨hf, heq⟩ | ⟨hf, e, client, he, heq⟩ | ⟨hf, events, client, he, heq⟩ :=
    feed_cases bytes now foreground g
  · rw [heq]
    exact iff_of_true rfl fun _ => .inl hf
  · obtain ⟨hp, hs, -⟩ := endStream_reset ("tmux control mode ended: " ++ e.display)
      { g.countHeld bytes with client := client }
    rw [heq, consistent_iff_of_reset hc (hp.trans hcount.published) hs]
    refine ⟨fun h hstands => absurd h hstands, fun h => ?_⟩
    by_contra hstands
    rcases h hstands with hflood | ⟨events, hok, -⟩
    · rw [hf] at hflood
      cases hflood
    · rw [he] at hok
      cases hok
  · have hread : Quiet g { g.countHeld bytes with client := client } :=
      hcount.trans (quiet_client client _)
    generalize { g.countHeld bytes with client := client } = t at heq hread
    rw [heq, (quiet_publishStatusIfDirty _).consistent]
    have hOrderly : Orderly g (.feed bytes now foreground) ↔
        (g.standing ≠ none → ¬(g.trusts foreground = true ∧ events.count .entered = 1)) := by
      simp [Orderly, hf, he]
    have htrusts := hread.trusts foreground
    rw [hOrderly]
    by_cases hmarker : .entered ∈ events
    · cases ha : g.allowForTab with
      | true =>
        have hnone := hu ha
        obtain ⟨hp, hs⟩ := feedEvents_spent now events (some foreground) t
          (hread.allowForTab.trans ha) (hread.standing.trans hnone)
        rw [consistent_iff_of_reset hc (hp.trans hread.published) hs]
        exact iff_of_true hnone fun h => absurd hnone h
      | false =>
        have hat := hread.allowForTab.trans ha
        cases ht : g.trusts foreground with
        | false =>
          exact iff_of_true (feedEvents_asks now events _ t hat hmarker (htrusts.trans ht))
            fun _ h => nomatch h.1
        | true =>
          obtain ⟨hone, htwo⟩ := feedEvents_trusted now events (some foreground) t hat
            (htrusts.trans ht)
          have hpos := List.count_pos_iff.2 hmarker
          by_cases hn : events.count .entered = 1
          · obtain ⟨hp, hs⟩ := hone hn
            rw [consistent_iff_of_reset hc (hp.trans hread.published) hs]
            simp [hn]
          · exact iff_of_true (htwo (by omega)) fun _ h => hn h.2
    · rw [(feedEvents_quiet now events _ t hmarker).consistent, hread.consistent]
      exact iff_of_true hc fun _ h => by
        rw [List.count_eq_zero.2 hmarker] at h
        omega

def Withdrawn (g : Gate K) : Prop := g.published.question = none ∧ g.standing = none

lemma Withdrawn.consistent (h : Withdrawn g) : (g : Gate K).Consistent := h.1.trans h.2.symm

lemma Quiet.withdrawn (h : Quiet g g') (hw : g.Withdrawn) : g'.Withdrawn :=
  ⟨(congrArg Snapshot.question h.published).trans hw.1, h.standing.trans hw.2⟩

lemma answer_cases (a : Answer) (now : Nat) (g : Gate K) :
    (g.answer a now).1.Withdrawn ∨ Quiet g (g.answer a now).1 := by
  unfold answer
  split
  · split
    · exact .inl ⟨rfl, rfl⟩
    · exact .inl ((quiet_replay now _ _).withdrawn ⟨rfl, rfl⟩)
  · exact .inr (.refl g)

lemma tick_cases (now : Nat) (g : Gate K) :
    (g.tick now).1.Withdrawn ∨ Quiet g (g.tick now).1 := by
  rw [tick]
  split
  · split
    · exact .inl ⟨rfl, rfl⟩
    · exact .inr (.refl g)
  · rename_i hphase
    have hnone : g.standing = none := by rw [standing, hphase]
    split
    · split
      · exact .inr (quiet_endControl hnone)
      · exact .inr (quiet_endStream "tmux control mode ended: no session announced" hnone)
    · exact .inr (.refl g)
  · rename_i hphase
    split
    · exact .inr (quiet_reset (by rw [standing, hphase]))
    · exact .inr (.refl g)
  · exact .inr (.refl g)

lemma controlExited_reset (g : Gate K) :
    g.controlExited.1.published = g.published ∧ g.controlExited.1.standing = none ∧
      g.controlExited.1.allowForTab = g.allowForTab := by
  have hend := quiet_endConnection .unknown g
  simp only [controlExited, Acts.andThen]
  split
  · rename_i hphase
    exact ⟨hend.published, by rw [standing, hphase], hend.allowForTab⟩
  · exact ⟨hend.published, rfl, hend.allowForTab⟩

lemma run_consistent {g : Gate K} (hc : g.Consistent) (hu : g.Unspent) :
    (c.run g).1.Consistent ↔ Orderly g c := by
  cases c with
  | feed bytes now foreground => exact feed_consistent bytes now foreground hc hu
  | answer a now =>
    have hafter := (answer_cases a now g).elim Withdrawn.consistent fun h => h.consistent.2 hc
    exact iff_of_true hafter fun _ => trivial
  | tick now =>
    have hafter := (tick_cases now g).elim Withdrawn.consistent fun h => h.consistent.2 hc
    exact iff_of_true hafter fun _ => trivial
  | controlExited =>
    obtain ⟨hp, hs, -⟩ := controlExited_reset g
    exact (consistent_iff_of_reset hc hp hs).trans not_not.symm
  | typed bytes | setPolicy policy => exact iff_of_true hc fun _ => trivial
  | workDone done now | request r now | paneCommand pane command now =>
    exact iff_of_true ((quiet_serve _ now g).consistent.2 hc) fun _ => trivial

lemma feed_unspent (bytes : Bytes) (now : Nat) (foreground : Foreground) {g : Gate K}
    (hu : g.Unspent) : (g.feed bytes now foreground).1.Unspent := by
  have hcount := quiet_countHeld bytes g
  obtain ⟨-, heq⟩ | ⟨-, e, client, -, heq⟩ | ⟨-, events, client, -, heq⟩ :=
    feed_cases bytes now foreground g
  · rw [heq]
    exact unspent_of_standing rfl
  · rw [heq]
    exact unspent_of_standing rfl
  · rw [heq]
    refine (quiet_publishStatusIfDirty _).unspent fun ha => ?_
    have hat := (feedEvents_keeps now events _ _).symm.trans ha
    have ht : Unspent { g.countHeld bytes with client := client } :=
      (hcount.trans (quiet_client client _)).unspent hu
    exact (feedEvents_spent now events _ _ hat (ht hat)).2

lemma run_unspent (c : Call K) (hu : g.Unspent) : (c.run g).1.Unspent := by
  cases c with
  | feed bytes now foreground => exact feed_unspent bytes now foreground hu
  | answer a now =>
    exact (answer_cases a now g).elim (fun h => unspent_of_standing h.2) fun h => h.unspent hu
  | tick now =>
    exact (tick_cases now g).elim (fun h => unspent_of_standing h.2) fun h => h.unspent hu
  | controlExited => exact unspent_of_standing (controlExited_reset g).2.1
  | typed bytes => exact hu
  | setPolicy policy => exact hu
  | workDone done now | request r now | paneCommand pane command now =>
    exact (quiet_serve _ now g).unspent hu

/-- The question published is the one that stands in every state of a run, exactly when every call
of the run is orderly. -/
theorem published_question_stands (policy : Policy) (scrollbackMb nextConnection : Nat)
    (calls : List (Call K)) :
    (∀ done g, done <+: calls →
      exec step (new policy scrollbackMb nextConnection) done = some g → g.Consistent) ↔
      Along step Orderly (new policy scrollbackMb nextConnection) calls := by
  refine Along.iff_reached (J := Unspent) (fun _ _ => rfl) ?_ ?_ (unspent_of_standing rfl) rfl
  · intro g c t hu ht
    cases ht
    exact run_unspent c hu
  · intro g c t hu hc ht
    cases ht
    exact run_consistent hc hu

def idle : Links where
  Conn := Unit
  Work := Unit
  Purpose := Unit
  WorkDone := Unit
  PtyCommand := Unit
  fire := ()
  new _ _ _ _ _ := ()
  start c := (c, [])
  eventSteps _ c := (c, [])
  onWorkDone _ c := (c, [])
  onPaneCommand _ _ c := (c, [])
  openWindow _ c := (c, [])
  requestNewWindow c := (c, [])
  requestSplit _ _ c := (c, [])
  requestFocus _ c := (c, [])
  requestWindowSize _ _ _ c := (c, [])
  requestResizePane _ _ _ c := (c, [])
  onEnd _ c := (c, [])
  submitted _ _ c := c
  backlog _ _ c := c
  takeDirty c := (c, false)
  status _ := ()
  ended := ()
  startGateway _ := ()

/-- A line the client refuses ends the asking and leaves its question published. -/
theorem refused_line_leaves_question : (exec step (new ⟨true, []⟩ 8 1 : Gate idle)
      [.feed marker 0 ⟨some "ssh", none⟩, .feed (utf8 "%begin x\n") 1 ⟨some "ssh", none⟩]).map
        (fun g => (g.published.question, g.standing, g.acceptsInput)) =
      some (some ⟨"ssh", none, 60⟩, none, true) := by
  decide +kernel

end Gate

end Chan.Tmux
