import Chan.Scene.Replacement

namespace Chan
open Utf AssocMap Lww

def carried (frames : List SceneFrame) : List (Text × StoredElement) :=
  decoded (frames.flatMap SceneFrame.elements)

lemma carried_append : carried (fs ++ gs) = carried fs ++ carried gs := by
  rw [carried, List.flatMap_append, decoded_append]
  rfl

lemma carried_singleton (f : SceneFrame) : carried [f] = decoded f.elements := by
  rw [carried, List.flatMap_singleton]

def Bare (frames : List SceneFrame) : Prop := ∀ f ∈ frames, f.elements = []

lemma Bare.carried (h : Bare frames) : carried frames = [] := by
  have hnil : frames.flatMap SceneFrame.elements = [] := List.flatMap_eq_nil_iff.2 h
  rw [Chan.carried, hnil, decoded_nil]

lemma bare_nil : Bare [] := nofun

lemma bare_singleton (h : f.elements = []) : Bare [f] := by
  intro g hg
  rw [List.mem_singleton.1 hg, h]

namespace SceneState

variable {st st₁ st₂ st' : SceneState} {id : Nat} {f : SceneFrame}

def Sends (st st' : SceneState) (id : Nat) (frames : List SceneFrame) : Prop :=
  st'.attaches.lookup id =
    (st.attaches.lookup id).map fun sink => { sink with outbox := sink.outbox ++ frames }

lemma sends_nil (h : st'.attaches = st.attaches) (id : Nat) : Sends st st' id [] := by
  rw [Sends, h]
  simp only [List.append_nil]
  exact Option.map_id'.symm

lemma sends_deliver (st : SceneState) (sel : Nat → Bool) (frame : SceneFrame) (id : Nat) :
    Sends st (st.deliver sel frame) id (if sel id then [frame] else []) := by
  rw [Sends, deliver, lookup_mapWithKey]
  congr 1
  funext sink
  split
  · rfl
  · rw [List.append_nil]

lemma Sends.trans (h : Sends st st₁ id fs) (h' : Sends st₁ st₂ id gs) :
    Sends st st₂ id (fs ++ gs) := by
  rw [Sends] at *
  rw [h', h, Option.map_map]
  congr 1
  funext sink
  simp

/-- What a critical section changes and fans: every attachment gets the elements that moved, and
none that the authority does not hold. -/
structure Fans (st st' : SceneState) : Prop where
  normal : st'.scene.Normal
  sends : ∀ id, ∃ frames, Sends st st' id frames ∧
    (∀ k, height st'.scene.copy k = max (height st.scene.copy k) (level (carried frames) k)) ∧
    ∀ k el, (k, el) ∈ carried frames → st'.scene.copy k = some el

lemma Fans.of_bare (hn : st.scene.Normal) (hscene : st'.scene = st.scene)
    (h : ∀ id, ∃ frames, Sends st st' id frames ∧ Bare frames) : Fans st st' := by
  refine ⟨hscene ▸ hn, ?_⟩
  intro id
  obtain ⟨frames, hsends, hbare⟩ := h id
  refine ⟨frames, hsends, ?_, ?_⟩
  · intro k
    rw [hbare.carried, hscene, level_nil, max_bot_right]
  · intro k el hel
    rw [hbare.carried] at hel
    cases hel

lemma Fans.same (hn : st.scene.Normal) (hscene : st'.scene = st.scene)
    (hattaches : st'.attaches = st.attaches) : Fans st st' :=
  .of_bare hn hscene fun id => ⟨[], sends_nil hattaches id, bare_nil⟩

lemma Fans.delivered (hn : st.scene.Normal) (hscene : st₁.scene = st.scene)
    (hattaches : st₁.attaches = st.attaches) (hf : f.elements = []) (sel : Nat → Bool) :
    Fans st (st₁.deliver sel f) := by
  refine Fans.of_bare hn hscene ?_
  intro id
  refine ⟨_, (sends_nil hattaches id).trans (sends_deliver st₁ sel f id), ?_⟩
  split
  · exact bare_singleton hf
  · exact bare_nil

lemma Fans.before (h : Fans st₁ st') (hscene : st₁.scene = st.scene)
    (hattaches : st₁.attaches = st.attaches) : Fans st st' := by
  refine ⟨h.normal, ?_⟩
  intro id
  obtain ⟨frames, hsends, hheight, hheld⟩ := h.sends id
  exact ⟨frames, (sends_nil hattaches id).trans hsends, hscene ▸ hheight, hheld⟩

lemma Fans.after (h : Fans st st₁) (hscene : st'.scene = st₁.scene)
    (hattaches : st'.attaches = st₁.attaches) : Fans st st' := by
  refine ⟨hscene ▸ h.normal, ?_⟩
  intro id
  obtain ⟨frames, hsends, hheight, hheld⟩ := h.sends id
  have hboth := hsends.trans (sends_nil hattaches id)
  rw [List.append_nil] at hboth
  exact ⟨frames, hboth, hscene ▸ hheight, hscene ▸ hheld⟩

lemma Fans.trans (h : Fans st st₁) (h' : Fans st₁ st₂) (hscene : st₂.scene = st₁.scene) :
    Fans st st₂ := by
  refine ⟨h'.normal, ?_⟩
  intro id
  obtain ⟨fs, hfs, hheight, hheld⟩ := h.sends id
  obtain ⟨gs, hgs, hheight', hheld'⟩ := h'.sends id
  refine ⟨fs ++ gs, hfs.trans hgs, ?_, ?_⟩
  · intro k
    rw [hheight', hheight, carried_append, level_append, max_assoc]
  · intro k el hel
    rw [carried_append] at hel
    rcases List.mem_append.1 hel with hel | hel
    · rw [hscene]
      exact hheld k el hel
    · exact hheld' k el hel

structure Sane (st : SceneState) : Prop where
  normal : st.scene.Normal
  bounded : ∀ k el, st.scene.elements.lookup k = some el → el.version < u64Max

lemma carried_snapshot (hn : st.scene.Normal) (path : Text) :
    carried [sceneSnapshotFrame path st] = st.scene.ordered := by
  rw [carried_singleton]
  exact decoded_objects fun e he => hn e.1 e.2 (Scene.mem_ordered.1 he)

lemma level_ordered_le (s : Scene) (k : Text) : level s.ordered k ≤ height s.copy k := by
  apply peak_le
  intro el hel
  have hlookup : s.copy k = some el := Scene.mem_ordered.1 (mem_arrivals.1 hel)
  rw [height, hlookup]
  exact le_peak (List.mem_singleton_self el)

lemma Fans.snapshot (hn : st.scene.Normal) (path : Text)
    (hscene : st₁.scene = st.scene) (hattaches : st₁.attaches = st.attaches) :
    Fans st (st₁.fan (sceneSnapshotFrame path st₁)) := by
  refine ⟨hscene ▸ hn, ?_⟩
  intro id
  have hcarried := carried_snapshot (hscene ▸ hn : st₁.scene.Normal) path
  rw [hscene] at hcarried
  refine ⟨_, (sends_nil hattaches id).trans (sends_deliver st₁ (fun _ => true) _ id), ?_, ?_⟩
  · intro k
    rw [List.nil_append, if_pos rfl, hcarried, max_eq_left (level_ordered_le _ k)]
    exact congrArg (height · k) (congrArg Scene.copy hscene)
  · intro k el hel
    rw [List.nil_append, if_pos rfl, hcarried] at hel
    exact (congrArg (Scene.copy · k) hscene).trans (Scene.mem_ordered.1 hel)

lemma fans_installScene {scene : Scene} (hs : st.Sane)
    (h : st.scene.applyReplaceWithLimit fromStr text nonces limit = .ok (applied, scene)) :
    Fans st (st.installScene applied scene) := by
  have hr := Scene.applyReplaceWithLimit_ok hs.normal hs.bounded h
  have hscene : (st.installScene applied scene).scene = scene := by
    rw [installScene]
    split <;> rfl
  have hsent : ∀ id, ∃ frames, Sends st (st.installScene applied scene) id frames ∧
      carried frames = decoded applied.elements := by
    intro id
    rw [installScene]
    split
    · rename_i hempty
      refine ⟨[], sends_nil rfl id, ?_⟩
      simp only [SceneApplied.isEmpty, Bool.and_eq_true, List.isEmpty_iff] at hempty
      rw [hempty.1.1]
      rfl
    · refine ⟨_, sends_deliver _ (fun _ => true) _ id, ?_⟩
      rw [if_pos rfl, carried_singleton]
      rfl
  constructor
  · intro k el hel
    rw [hscene] at hel
    exact (hr k).normal (hs.normal k) hel
  · intro id
    obtain ⟨frames, hsends, hcarried⟩ := hsent id
    refine ⟨frames, hsends, ?_, ?_⟩
    · intro k
      rw [hcarried, hscene]
      exact (hr k).height_eq
    · intro k el hel
      rw [hcarried] at hel
      rw [hscene]
      exact (hr k).held (mem_arrivals.2 hel)

lemma fans_applyHttpReplace (hs : st.Sane)
    (h : st.applyHttpReplace fromStr body pre nonces now = .ok (r, st')) : Fans st st' := by
  simp only [applyHttpReplace] at h
  split at h
  · cases h
    exact .same hs.normal rfl rfl
  · split at h
    · cases h
    · split at h
      · cases h
        exact .same hs.normal rfl rfl
      · cases h
        exact .same hs.normal rfl rfl
      · simp only [applyReplaceLocked] at h
        split at h
        · cases h
        · rename_i hreplace
          cases h
          refine (fans_installScene hs hreplace).after ?_ ?_ <;> split <;> rfl

lemma fans_applyMergeOutcome (hs : st.Sane) :
    Fans st (st.applyMergeOutcomeLocked fromStr diskText stat outcome nonces now fresh) := by
  cases outcome with
  | conflict => exact .same hs.normal rfl rfl
  | merged mergedText =>
    simp only [applyMergeOutcomeLocked]
    split
    · exact .same hs.normal rfl rfl
    · split
      · exact .same hs.normal rfl rfl
      · rename_i hreplace
        have hs' : ((st.noteAdopted (contentHash diskText) now).adoptToken stat).Sane :=
          ⟨hs.normal, hs.bounded⟩
        have hfans : Fans st _ := (fans_installScene hs' hreplace).before rfl rfl
        exact hfans.after rfl rfl

lemma fans_mergeDisk (hs : st.Sane) :
    Fans st (st.mergeDisk fromStr diskText stat nonces now fresh) := by
  simp only [mergeDisk]
  split
  · exact fans_applyMergeOutcome hs
  · split
    · exact fans_applyMergeOutcome hs
    · split
      · exact .same hs.normal rfl rfl
      · rename_i hreplace
        have hs' : (st.noteAdopted (contentHash diskText) now).Sane := ⟨hs.normal, hs.bounded⟩
        have hfans : Fans st _ := (fans_installScene hs' hreplace).before rfl rfl
        exact hfans.after rfl rfl

lemma fans_reloadConflict (hs : st.Sane)
    (h : st.reloadConflict fromStr path nonces now = some st') : Fans st st' := by
  cases hstate : st.sessionState with
  | conflicted c =>
    simp only [reloadConflict, hstate] at h
    split at h
    · cases h
      apply Fans.delivered hs.normal
      · rfl
      · rfl
      · rfl
    · split at h
      · cases h
      · split at h
        · cases h
        · split at h
          · cases h
          · rename_i applied scene hreplace
            have hfans := fans_installScene hs hreplace
            split at h
            · rename_i hempty
              cases h
              exact hfans.trans (.snapshot hfans.normal path rfl rfl) rfl
            · cases h
              exact hfans.after rfl rfl
  | _ =>
    simp only [reloadConflict, hstate] at h
    cases h

def visible (st : SceneState) : Scene × Map Nat SceneSink := (st.scene, st.attaches)

lemma Fans.of_visible (hn : st.scene.Normal) (h : st'.visible = st.visible) : Fans st st' :=
  .same hn (congrArg Prod.fst h) (congrArg Prod.snd h)

lemma visible_observe (hash : UInt64) (m : Option Int) (now : Instant) (st : SceneState) :
    (st.observe hash m now).visible = st.visible := by
  rw [observe]
  split <;> rfl

lemma visible_statFailed («exists» : Bool) :
    (st.statFailed «exists» now).1.visible = st.visible := by
  simp only [statFailed]
  split
  · split <;> rfl
  · split
    · split <;> rfl
    · rfl

lemma visible_statOk (stat : FileStat) :
    (st.statOk stat).1.visible = st.visible := by
  simp only [statOk]
  split <;> rfl

lemma visible_readOk : (st.readOk fromStr stat diskText diskStat now).1.visible = st.visible := by
  simp only [readOk]
  split
  · rfl
  · split
    · split
      · rfl
      · exact visible_observe _ _ _ _
    · split
      · rfl
      · split
        · exact visible_observe _ _ _ _
        · split
          · split
            · rfl
            · exact visible_observe _ _ _ _
          · rfl

lemma fans_finishFlush (hn : st.scene.Normal) :
    Fans st (st.finishFlush epoch stat content now) := by
  refine .delivered hn ?_ ?_ rfl _ <;> split <;> rfl

lemma fans_noteFlushFailure (hn : st.scene.Normal) :
    Fans st (st.noteFlushFailure message) := by
  simp only [noteFlushFailure]
  split
  · refine .delivered hn ?_ ?_ ?_ _ <;> rfl
  · exact .same hn rfl rfl

lemma fans_markRemoved (hn : st.scene.Normal) :
    Fans st (st.markRemoved fresh) := by
  rw [markRemoved]
  split
  · exact .same hn rfl rfl
  · refine .delivered hn ?_ ?_ ?_ _ <;> rfl

lemma fans_cursor (hn : st.scene.Normal) : Fans st (st.cursor id x y tool selected) := by
  rw [cursor]
  split
  · exact .same hn rfl rfl
  · refine .delivered hn ?_ ?_ ?_ _ <;> rfl

end SceneState

def SceneOp.Fans : SceneOp → Prop
  | .attach .. | .detach .. | .push .. => False
  | _ => True

lemma fans_ioStep {s s' : SceneSession} (hs : s.state.Sane)
    (h : s.ioStep fromStr l = some s') : s.state.Fans s'.state := by
  have hn := hs.normal
  simp only [SceneSession.ioStep] at h
  split at h
  · simp only [SceneState.beginFlush] at h
    cases hd : s.state.sessionState.dirtySince with
    | none | some since =>
      simp only [hd] at h
      cases h
      exact .same hn rfl rfl
  all_goals cases h
  · exact SceneState.fans_finishFlush hn
  · exact SceneState.fans_noteFlushFailure hn
  · exact .same hn rfl rfl
  · exact .same hn rfl rfl
  · exact .of_visible hn (SceneState.visible_statFailed _)
  · rename_i stat _ _
    exact .of_visible hn (SceneState.visible_statOk stat)
  · exact .same hn rfl rfl
  · exact .of_visible hn (SceneState.visible_readOk)
  · exact .same hn rfl rfl
  · exact .same hn rfl rfl
  · exact SceneState.fans_mergeDisk hs
  · exact SceneState.fans_markRemoved hn
  · exact SceneState.fans_mergeDisk hs
  · exact SceneState.fans_markRemoved hn
  · exact .same hn rfl rfl

lemma fans_step {s s' : SceneSession} (hs : s.state.Sane) (hop : l.op.Fans)
    (h : s.step fromStr l = some s') : s.state.Fans s'.state := by
  have hn := hs.normal
  simp only [SceneSession.step] at h
  split at h
  · rename_i hl
    rw [hl] at hop
    cases hop
  · rename_i hl
    rw [hl] at hop
    cases hop
  · rename_i hl
    rw [hl] at hop
    cases hop
  · split at h
    · cases h
      exact SceneState.fans_cursor hn
    · cases h
  · split at h
    · rename_i hreplace
      cases h
      exact SceneState.fans_applyHttpReplace hs hreplace
    · cases h
      exact .same hn rfl rfl
  · cases h
    cases hr : s.state.reloadConflict fromStr s.path l.nonces l.now with
    | none => exact .same hn rfl rfl
    | some st => exact SceneState.fans_reloadConflict hs hr
  · cases h
    cases hr : s.state.overwriteConflict l.now with
    | none => exact .same hn rfl rfl
    | some st =>
      obtain ⟨hscene, hattaches⟩ : st.scene = s.state.scene ∧ st.attaches = s.state.attaches := by
        cases hstate : s.state.sessionState <;>
          simp only [SceneState.overwriteConflict, hstate] at hr
          <;> cases hr
        exact ⟨rfl, rfl⟩
      exact .same hn hscene hattaches
  · cases h
    exact .snapshot hn s.path rfl rfl
  · exact fans_ioStep hs h

end Chan
