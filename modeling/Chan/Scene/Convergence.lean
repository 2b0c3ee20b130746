import Chan.Scene.Fan

namespace Chan
open Utf AssocMap Lww Transition AList

variable {s : SceneSession}

lemma of_foldl_mergeAt {es : List (Text × StoredElement)} {m : Text → Option StoredElement}
    (h : es.foldl (mergeAt StoredElement.rank) m k = some el) : m k = some el ∨ (k, el) ∈ es := by
  have hl : Latest StoredElement.rank (m k) (arrivals es k)
      (es.foldl (mergeAt StoredElement.rank) m k) := latest_mergeAt es m k
  rw [h] at hl
  generalize ho : some el = o at hl
  cases hl with
  | kept => exact .inl rfl
  | arrived hx =>
    cases ho
    exact .inr (mem_arrivals.1 hx)

namespace Canvas

def copy (c : Canvas) (k : Text) : Option StoredElement := c.elements.lookup k

def sent (c : Canvas) : List (Text × StoredElement) :=
  decoded (c.inFlight.flatMap CanvasPush.elements)

lemma lookup_insert_fun (m : Map Text StoredElement) (k : Text) (el : StoredElement) :
    (fun l => (m.insert k el).lookup l) = Function.update (fun l => m.lookup l) k (some el) := by
  funext l
  by_cases hl : l = k
  · subst hl
    rw [lookup_insert, Function.update_self]
  · rw [lookup_insert_ne hl, Function.update_of_ne hl]

lemma lookup_fold (m : Map Text StoredElement) (e : Text × StoredElement) :
    (fun k => (fold m e).lookup k) = mergeAt StoredElement.rank (fun k => m.lookup k) e := by
  rw [fold, mergeAt]
  cases hc : m.lookup e.1 with
  | none => exact lookup_insert_fun m e.1 e.2
  | some c =>
    simp only [Option.any_some, merge]
    by_cases hlt : e.2.rank < c.rank
    · rw [if_pos ((storedWins_iff c e.2).2 hlt), if_pos hlt, ← hc]
      exact (Function.update_eq_self e.1 fun k => m.lookup k).symm
    · rw [if_neg fun hw => hlt ((storedWins_iff c e.2).1 hw), if_neg hlt]
      exact lookup_insert_fun m e.1 e.2

lemma lookup_foldl_fold (es : List (Text × StoredElement)) (m : Map Text StoredElement) :
    (fun k => (es.foldl fold m).lookup k) =
      es.foldl (mergeAt StoredElement.rank) fun k => m.lookup k := by
  induction es generalizing m with
  | nil => rfl
  | cons e es ih => rw [List.foldl_cons, List.foldl_cons, ih, lookup_fold]

lemma place_eq_some (h : place m e = some m') :
    (fun k => m'.lookup k) = mergeAt StoredElement.rank (fun k => m.lookup k) e := by
  rw [place] at h
  split at h
  · rename_i hall
    cases h
    rw [lookup_insert_fun, mergeAt]
    congr 1
    cases hc : m.lookup e.1 with
    | none => rfl
    | some c =>
      rw [hc] at hall
      have hlt : c.version < e.2.version := of_decide_eq_true hall
      exact (if_neg (not_lt.2 (Scene.rank_lt_of_version_lt hlt).le)).symm
  · cases h

lemma lookup_foldlM_place {es : List (Text × StoredElement)} {m m' : Map Text StoredElement}
    (h : es.foldlM place m = some m') :
    (fun k => m'.lookup k) = es.foldl (mergeAt StoredElement.rank) fun k => m.lookup k := by
  induction es generalizing m with
  | nil =>
    cases h
    rfl
  | cons e es ih =>
    obtain ⟨m₁, hm₁, hm'⟩ := Option.bind_eq_some_iff.1 h
    rw [ih hm', List.foldl_cons, place_eq_some hm₁]

lemma draw_eq_some {c c' : Canvas} (h : c.draw p = some c') :
    c'.copy = (decoded p.elements).foldl (mergeAt StoredElement.rank) c.copy ∧
      c'.received = c.received ∧ c'.inFlight = c.inFlight ++ [p] := by
  obtain ⟨m, hm, rfl⟩ := Option.map_eq_some_iff.1 h
  exact ⟨lookup_foldlM_place hm, rfl, rfl⟩

lemma copy_receive (c : Canvas) (f : SceneFrame) :
    (c.receive f).copy = (decoded f.elements).foldl (mergeAt StoredElement.rank) c.copy :=
  lookup_foldl_fold _ _

end Canvas

/-- Between an authority and one of its clients: every id is as high in what the authority holds
and is about to be sent as in what the client holds and is about to receive. -/
structure Aligned (seen : List (Text × StoredElement)) (authority : Text → Option StoredElement)
    (sink : SceneSink) (c : Canvas) : Prop where
  received : c.received ≤ sink.outbox.length
  balance : ∀ k, max (height authority k) (level c.sent k) =
    max (height c.copy k) (level (carried (sink.outbox.drop c.received)) k)
  copied : ∀ k el, c.copy k = some el → (k, el) ∈ seen
  coming : carried (sink.outbox.drop c.received) ⊆ seen
  sent : c.sent ⊆ seen

namespace Aligned

variable {c c' : Canvas} {sink : SceneSink}

lemma mono (h : Aligned seen authority sink c) (hseen : seen ⊆ seen') :
    Aligned seen' authority sink c :=
  ⟨h.received, h.balance, fun k el hel => hseen (h.copied k el hel),
    List.Subset.trans h.coming hseen, List.Subset.trans h.sent hseen⟩

lemma attach (hn : st.scene.Normal)
    (hheld : ∀ k el, st.scene.copy k = some el → (k, el) ∈ seen) (path windowId : Text) :
    Aligned seen st.scene.copy ⟨[sceneSnapshotFrame path st], windowId⟩ .empty := by
  have hcarried := SceneState.carried_snapshot hn path
  refine ⟨Nat.zero_le _, ?_, ?_, ?_, nofun⟩
  · intro k
    have hsent : level Canvas.empty.sent k = ⊥ := rfl
    have hcopy : height Canvas.empty.copy k = ⊥ := by
      rfl
    rw [hsent, hcopy, max_bot_right, max_bot_left, Canvas.empty, List.drop_zero, hcarried]
    apply le_antisymm _ (SceneState.level_ordered_le _ k)
    apply peak_le
    intro el hel
    exact le_level (Scene.mem_ordered.2 (Option.mem_toList.1 hel))
  · intro k el hel
    cases hel
  · rw [Canvas.empty, List.drop_zero, hcarried]
    intro e he
    exact hheld e.1 e.2 (Scene.mem_ordered.1 he)

lemma draw (h : Aligned seen authority sink c) (hd : c.draw p = some c') :
    Aligned (seen ++ decoded p.elements) authority sink c' := by
  obtain ⟨hcopy, hreceived, hflight⟩ := Canvas.draw_eq_some hd
  have hsent : c'.sent = c.sent ++ decoded p.elements := by
    rw [Canvas.sent, hflight, List.flatMap_append, List.flatMap_singleton, decoded_append]
    rfl
  refine ⟨hreceived ▸ h.received, ?_, ?_, ?_, ?_⟩
  · intro k
    rw [hsent, hcopy, hreceived, level_append, height_foldl_mergeAt, ← max_assoc, h.balance,
      max_right_comm]
  · intro k el hel
    rw [hcopy] at hel
    rcases of_foldl_mergeAt hel with hel | hel
    · exact List.mem_append_left _ (h.copied k el hel)
    · exact List.mem_append_right _ hel
  · rw [hreceived]
    exact List.Subset.trans h.coming (List.subset_append_left _ _)
  · rw [hsent]
    apply List.append_subset.2
    exact ⟨List.Subset.trans h.sent (List.subset_append_left _ _), List.subset_append_right _ _⟩

lemma receive (h : Aligned seen authority sink c) (hf : sink.outbox[c.received]? = some f) :
    Aligned seen authority sink (c.receive f) := by
  obtain ⟨hlt, hget⟩ := List.getElem?_eq_some_iff.1 hf
  have hdrop : carried (sink.outbox.drop c.received) =
      decoded f.elements ++ carried (sink.outbox.drop (c.received + 1)) := by
    rw [List.drop_eq_getElem_cons hlt, hget, ← List.singleton_append, carried_append,
      carried_singleton]
  have hcoming := h.coming
  rw [hdrop, List.append_subset] at hcoming
  refine ⟨hlt, ?_, ?_, hcoming.2, h.sent⟩
  · intro k
    have hlevel := h.balance k
    rw [hdrop, level_append] at hlevel
    rw [Canvas.copy_receive, height_foldl_mergeAt, max_assoc]
    exact hlevel
  · intro k el hel
    rw [Canvas.copy_receive] at hel
    rcases of_foldl_mergeAt hel with hel | hel
    · exact h.copied k el hel
    · exact hcoming.1 hel

lemma fanned (h : Aligned seen authority sink c)
    (hheight : ∀ k, height authority' k = max (height authority k) (level (carried frames) k))
    (hseen : carried frames ⊆ seen) :
    Aligned seen authority' { sink with outbox := sink.outbox ++ frames } c := by
  have hdrop : carried ((sink.outbox ++ frames).drop c.received) =
      carried (sink.outbox.drop c.received) ++ carried frames := by
    rw [List.drop_append_of_le_length h.received, carried_append]
  refine ⟨?_, ?_, h.copied, ?_, h.sent⟩
  · simp only [List.length_append]
    exact Nat.le_add_right_of_le h.received
  · intro k
    rw [hheight, hdrop, level_append, max_right_comm, h.balance, max_assoc]
  · rw [hdrop]
    exact List.append_subset.2 ⟨h.coming, hseen⟩

lemma served (h : Aligned seen authority sink c)
    (hc : c.inFlight = p :: rest)
    (hheight : ∀ k, height authority' k =
      max (height authority k) (level (decoded p.elements) k)) (hbare : Bare frames) :
    Aligned seen authority' { sink with outbox := sink.outbox ++ frames }
      { c with inFlight := rest } := by
  have hsent : c.sent = decoded p.elements ++ Canvas.sent { c with inFlight := rest } := by
    rw [Canvas.sent, hc, List.flatMap_cons, decoded_append]
    rfl
  have hdrop : carried ((sink.outbox ++ frames).drop c.received) =
      carried (sink.outbox.drop c.received) := by
    rw [List.drop_append_of_le_length h.received, carried_append, hbare.carried, List.append_nil]
  refine ⟨?_, ?_, h.copied, ?_, ?_⟩
  · simp only [List.length_append]
    exact Nat.le_add_right_of_le h.received
  · intro k
    have hlevel := h.balance k
    rw [hsent, level_append, ← max_assoc] at hlevel
    rw [hheight, hdrop]
    exact hlevel
  · rw [hdrop]
    exact h.coming
  · have hs := h.sent
    rw [hsent, List.append_subset] at hs
    exact hs.2

end Aligned

lemma SceneState.push_ok {st st' : SceneState} {id : Nat} (hn : st.scene.Normal)
    (h : st.push id vs a f closed now = .ok st') :
    st'.scene.Normal ∧
    (∀ k, height st'.scene.copy k = max (height st.scene.copy k) (level (decoded vs) k)) ∧
    (∃ frames, Sends st st' id frames ∧ Bare frames) ∧
    ∀ other, other ≠ id → ∃ frames, Sends st st' other frames ∧
      (∀ k, height st'.scene.copy k = max (height st.scene.copy k) (level (carried frames) k)) ∧
      carried frames ⊆ decoded vs := by
  rw [push] at h
  split at h
  · cases h
  · split at h
    · cases h
    · rename_i applied scene happly
      obtain ⟨es, won, hes, hsub, happlied, hfold, hwon⟩ := Scene.applyPushWithLimit_ok happly
      have hnormal : ∀ e ∈ es, StoredElement.Normal e.1 e.2 := by
        intro e he
        obtain ⟨v, -, hv⟩ := hes.mem.1 he
        exact StoredElement.normal_of_fromValue hv
      have hscene : st'.scene = scene := by
        cases h
        split <;> rfl
      have hheight : ∀ k, height st'.scene.copy k =
          max (height st.scene.copy k) (level es k) := by
        intro k
        rw [hscene, ← height_foldl_mergeAt]
        exact congrArg (height · k) hfold
      have hdecoded : decoded applied.elements = won := by
        rw [happlied]
        exact decoded_objects fun e he => hnormal e (hsub he)
      rw [hes.decoded_eq]
      refine ⟨?_, hheight, ?_, ?_⟩
      · intro k el hel
        rw [hscene] at hel
        rcases of_foldl_mergeAt ((congrFun hfold k).symm.trans hel) with hel | hel
        · exact hn k el hel
        · exact hnormal _ hel
      · cases h
        split
        · exact ⟨_, sends_deliver _ _ _ id, by rw [beq_self_eq_true]; exact bare_singleton rfl⟩
        · refine ⟨_, (sends_deliver _ _ _ id).trans (sends_deliver _ _ _ id), ?_⟩
          rw [bne_self_eq_false, beq_self_eq_true]
          exact bare_singleton rfl
      · intro other hother
        have hne : (other == id) = false := beq_false_of_ne hother
        have hlevel : ∀ k, height st'.scene.copy k =
            max (height st.scene.copy k) (level won k) := by
          intro k
          rw [hscene, ← height_foldl_mergeAt]
          exact congrArg (height · k) hwon
        suffices hsent : ∃ frames, Sends st st' other frames ∧ carried frames = won by
          obtain ⟨frames, hsends, hcarried⟩ := hsent
          refine ⟨frames, hsends, ?_, ?_⟩
          · rw [hcarried]
            exact hlevel
          · rw [hcarried]
            exact hsub
        cases h
        split
        · rename_i hempty
          refine ⟨_, sends_deliver _ _ _ other, ?_⟩
          simp only [SceneApplied.isEmpty, Bool.and_eq_true, List.isEmpty_iff] at hempty
          rw [hne, ← hdecoded, hempty.1.1]
          rfl
        · refine ⟨_, (sends_deliver _ _ _ other).trans (sends_deliver _ _ _ other), ?_⟩
          rw [bne, hne, ← hdecoded]
          exact carried_singleton _

/-- The authority and all its clients, in step. -/
structure SceneNet.Inv (N : SceneNet) : Prop where
  normal : N.session.state.scene.Normal
  held : ∀ k el, N.session.state.scene.copy k = some el → (k, el) ∈ N.seen
  clients : ∀ id sink, N.session.state.attaches.lookup id = some sink →
    ∃ c, N.canvases.lookup id = some c ∧ Aligned N.seen N.session.state.scene.copy sink c
  attached : ∀ id c, N.canvases.lookup id = some c →
    ∃ sink, N.session.state.attaches.lookup id = some sink

namespace SceneNet

def Bounded (N : SceneNet) : Prop := ∀ k el, (k, el) ∈ N.seen → el.version < u64Max

variable {N N' : SceneNet} {id : Nat} {c : Canvas} {p : CanvasPush}

lemma Inv.sane (h : N.Inv) (hb : N.Bounded) : N.session.state.Sane :=
  ⟨h.normal, fun k el hel => hb k el (h.held k el hel)⟩

lemma held_advance (N : SceneNet) (s : SceneSession) (canvases : Map Nat Canvas) :
    ∀ k el, s.state.scene.copy k = some el → (k, el) ∈ (N.advance s canvases).seen :=
  fun _ _ hel => List.mem_append_right _ (Scene.mem_entries.2 hel)

lemma seen_advance (N : SceneNet) (s : SceneSession) (canvases : Map Nat Canvas) :
    N.seen ⊆ (N.advance s canvases).seen := List.subset_append_left _ _

lemma Inv.advance (h : N.Inv) {canvases : Map Nat Canvas}
    (hn : s.state.scene.Normal)
    (hsends : ∀ id, ∃ frames, SceneState.Sends N.session.state s.state id frames ∧
      ∀ c sink, N.canvases.lookup id = some c →
        Aligned (N.advance s canvases).seen N.session.state.scene.copy sink c →
        ∃ c', canvases.lookup id = some c' ∧ Aligned (N.advance s canvases).seen
          s.state.scene.copy { sink with outbox := sink.outbox ++ frames } c')
    (hcanvases : ∀ id c, canvases.lookup id = some c → ∃ c', N.canvases.lookup id = some c') :
    (N.advance s canvases).Inv := by
  refine ⟨hn, N.held_advance s canvases, ?_, ?_⟩
  · intro id sink hsink
    obtain ⟨frames, hframes, hstep⟩ := hsends id
    rw [SceneNet.advance, hframes] at hsink
    obtain ⟨sink, hold, rfl⟩ := Option.map_eq_some_iff.1 hsink
    obtain ⟨c, hc, ha⟩ := h.clients id sink hold
    exact hstep c sink hc (ha.mono (N.seen_advance s canvases))
  · intro id c hc
    obtain ⟨c', hc'⟩ := hcanvases id c hc
    obtain ⟨sink, hsink⟩ := h.attached id c' hc'
    obtain ⟨frames, hframes, -⟩ := hsends id
    rw [SceneNet.advance, hframes, hsink]
    exact ⟨_, rfl⟩

lemma Inv.fans (h : N.Inv) (hf : N.session.state.Fans s.state) :
    (N.advance s N.canvases).Inv := by
  apply h.advance hf.normal
  · intro id
    obtain ⟨frames, hsends, hheight, hheld⟩ := hf.sends id
    refine ⟨frames, hsends, ?_⟩
    intro c sink hc ha
    refine ⟨c, hc, ha.fanned hheight ?_⟩
    intro e he
    exact N.held_advance s N.canvases e.1 e.2 (hheld e.1 e.2 he)
  · intro id c hc
    exact ⟨c, hc⟩

lemma Inv.serve (h : N.Inv) (hc : N.canvases.lookup id = some c) (hp : c.inFlight = p :: rest)
    (hpush : N.session.state.push id p.elements p.appState p.files closed now = .ok st) :
    (N.advance (N.session.withState st)
      (N.canvases.insert id { c with inFlight := rest })).Inv := by
  obtain ⟨hn, hheight, ⟨frames, hframes, hbare⟩, hothers⟩ := SceneState.push_ok h.normal hpush
  have hsub : decoded p.elements ⊆ c.sent := by
    rw [Canvas.sent, hp, List.flatMap_cons, decoded_append]
    exact List.subset_append_left _ _
  apply h.advance hn
  · intro other
    by_cases ho : other = id
    · subst ho
      refine ⟨frames, hframes, ?_⟩
      intro c' sink hc' ha
      cases hc.symm.trans hc'
      exact ⟨_, lookup_insert _, ha.served hp hheight hbare⟩
    · obtain ⟨frames', hframes', hheight', hsub'⟩ := hothers other ho
      refine ⟨frames', hframes', ?_⟩
      intro c' sink hc' ha
      refine ⟨c', (lookup_insert_ne ho).trans hc', ha.fanned hheight' ?_⟩
      obtain ⟨sink', hsink'⟩ := h.attached id c hc
      obtain ⟨c'', hc'', ha'⟩ := h.clients id sink' hsink'
      cases hc.symm.trans hc''
      exact List.Subset.trans hsub' (List.Subset.trans hsub
        (List.Subset.trans ha'.sent (N.seen_advance _ _)))
  · intro other c' hc'
    rcases lookup_insert_eq_some hc' with ⟨rfl, -⟩ | ⟨-, hc'⟩
    · exact ⟨c, hc⟩
    · exact ⟨c', hc'⟩

lemma dropAttach_spec : (st.dropAttach id closed).scene = st.scene ∧
    (st.dropAttach id closed).attaches.lookup id = none ∧
    ∀ other, other ≠ id → ∃ frames,
      SceneState.Sends st (st.dropAttach id closed) other frames ∧ Bare frames := by
  have herase : ∀ other, other ≠ id →
      SceneState.Sends st { st with attaches := st.attaches.erase id } other [] := by
    intro other ho
    rw [SceneState.Sends, lookup_erase_ne ho]
    simp only [List.append_nil]
    exact Option.map_id'.symm
  have hgone : (st.attaches.erase id).lookup id = none := lookup_erase _ _
  rw [SceneState.dropAttach]
  split
  · have hfan := SceneState.sends_deliver { st with
      attaches := st.attaches.erase id, cursors := st.cursors.erase id } (fun _ => true)
      (.cursorGone id)
    have hnone := hfan id
    rw [SceneState.Sends, hgone] at hnone
    refine ⟨?_, ?_, ?_⟩
    · split <;> rfl
    · split <;> exact hnone
    · intro other ho
      refine ⟨[.cursorGone id], ?_, bare_singleton rfl⟩
      split <;> exact (herase other ho).trans (hfan other)
  · refine ⟨?_, ?_, ?_⟩
    · split <;> rfl
    · split <;> exact hgone
    · intro other ho
      refine ⟨[], ?_, bare_nil⟩
      split <;> exact herase other ho

lemma Inv.detach (h : N.Inv)
    (hs : s.state = N.session.state.dropAttach id closed) :
    (N.advance s (N.canvases.erase id)).Inv := by
  obtain ⟨hscene, hgone, hothers⟩ := dropAttach_spec
  rw [← hs] at hscene hgone hothers
  refine ⟨hscene ▸ h.normal, N.held_advance _ _, ?_, ?_⟩
  · intro other sink hsink
    by_cases ho : other = id
    · subst ho
      rw [SceneNet.advance, hgone] at hsink
      cases hsink
    · obtain ⟨frames, hframes, hbare⟩ := hothers other ho
      rw [SceneNet.advance, hframes] at hsink
      obtain ⟨sink, hold, rfl⟩ := Option.map_eq_some_iff.1 hsink
      obtain ⟨c, hc, ha⟩ := h.clients other sink hold
      refine ⟨c, (lookup_erase_ne ho).trans hc,
        (ha.mono (N.seen_advance _ _)).fanned ?_ ?_⟩
      · intro k
        rw [hbare.carried, level_nil, max_bot_right, SceneNet.advance, hscene]
      · rw [hbare.carried]
        exact List.nil_subset _
  · intro other c hc
    obtain ⟨ho, hc⟩ := lookup_erase_eq_some hc
    obtain ⟨sink, hsink⟩ := h.attached other c hc
    obtain ⟨frames, hframes, -⟩ := hothers other ho
    rw [SceneNet.advance, hframes, hsink]
    exact ⟨_, rfl⟩

lemma Inv.attach (h : N.Inv)
    (hs : s.state = N.session.state.registerAttach path id windowId) :
    (N.advance s (N.canvases.insert id .empty)).Inv := by
  have hscene : s.state.scene = N.session.state.scene := by rw [hs]; rfl
  have hattaches : s.state.attaches = N.session.state.attaches.insert id
      ⟨[sceneSnapshotFrame path N.session.state], windowId⟩ := by rw [hs]; rfl
  refine ⟨hscene ▸ h.normal, N.held_advance _ _, ?_, ?_⟩
  · intro other sink hsink
    rw [SceneNet.advance, hattaches] at hsink
    rcases lookup_insert_eq_some hsink with ⟨rfl, rfl⟩ | ⟨ho, hsink⟩
    · refine ⟨.empty, lookup_insert _, ?_⟩
      rw [SceneNet.advance, hscene]
      apply Aligned.attach h.normal
      intro k el hel
      exact List.mem_append_left _ (h.held k el hel)
    · obtain ⟨c, hc, ha⟩ := h.clients other sink hsink
      refine ⟨c, (lookup_insert_ne ho).trans hc, ?_⟩
      rw [SceneNet.advance, hscene]
      exact ha.mono (List.subset_append_left _ _)
  · intro other c hc
    rw [SceneNet.advance, hattaches]
    rcases lookup_insert_eq_some hc with ⟨rfl, rfl⟩ | ⟨ho, hc⟩
    · exact ⟨_, lookup_insert _⟩
    · rw [lookup_insert_ne ho]
      exact h.attached other c hc

lemma Inv.client (h : N.Inv) {seen : List (Text × StoredElement)}
    (hc : N.canvases.lookup id = some c)
    (hseen : N.seen ⊆ seen)
    (hstep : ∀ sink, N.session.state.attaches.lookup id = some sink →
      Aligned N.seen N.session.state.scene.copy sink c →
      Aligned seen N.session.state.scene.copy sink c') :
    Inv ⟨N.session, N.canvases.insert id c', seen⟩ := by
  refine ⟨h.normal, fun k el hel => hseen (h.held k el hel), ?_, ?_⟩
  · intro other sink hsink
    obtain ⟨d, hd, ha⟩ := h.clients other sink hsink
    by_cases ho : other = id
    · subst ho
      cases hc.symm.trans hd
      exact ⟨c', lookup_insert _, hstep sink hsink ha⟩
    · exact ⟨d, (lookup_insert_ne ho).trans hd, ha.mono hseen⟩
  · intro other d hd
    rcases lookup_insert_eq_some hd with ⟨rfl, -⟩ | ⟨-, hd⟩
    · exact h.attached other c hc
    · exact h.attached other d hd

lemma Inv.session (h : N.Inv) (hb : N.Bounded)
    (hs : N.session.step fromStr l = some s)
    (hN : (match l.op with
      | .push .. => none
      | .attach id _ => some (N.advance s (N.canvases.insert id .empty))
      | .detach id _ => some (N.advance s (N.canvases.erase id))
      | _ => some (N.advance s N.canvases)) = some N') : N'.Inv := by
  cases hop : l.op with
  | push =>
    rw [hop] at hN
    cases hN
  | attach id windowId =>
    rw [hop] at hN
    cases hN
    simp only [SceneSession.step, hop] at hs
    split at hs
    · cases hs
    · cases hs
      exact h.attach rfl
  | detach id unixMillis =>
    rw [hop] at hN
    cases hN
    simp only [SceneSession.step, hop] at hs
    split at hs
    · cases hs
      exact h.detach rfl
    · cases hs
  | _ =>
    rw [hop] at hN
    cases hN
    exact h.fans (fans_step (h.sane hb) (by rw [hop]; trivial) hs)

lemma Inv.step (h : N.Inv) (hb : N.Bounded) (hs : N.step fromStr l = some N') : N'.Inv := by
  cases l with
  | draw id p =>
    obtain ⟨c, hc, hs⟩ := Option.bind_eq_some_iff.1 hs
    obtain ⟨c', hc', rfl⟩ := Option.map_eq_some_iff.1 hs
    exact h.client hc (List.subset_append_left _ _) fun _ _ ha => ha.draw hc'
  | serve id now unixMillis =>
    obtain ⟨c, hc, hs⟩ := Option.bind_eq_some_iff.1 hs
    split at hs
    · cases hs
    · rename_i p rest hp
      split at hs
      · rename_i hpush
        cases hs
        exact h.serve hc hp hpush
      · obtain ⟨s, hdetach, rfl⟩ := Option.map_eq_some_iff.1 hs
        exact h.session hb hdetach rfl
  | receive id =>
    obtain ⟨c, hc, hs⟩ := Option.bind_eq_some_iff.1 hs
    obtain ⟨sink, hsink, hs⟩ := Option.bind_eq_some_iff.1 hs
    obtain ⟨frame, hframe, rfl⟩ := Option.map_eq_some_iff.1 hs
    apply h.client hc (List.Subset.refl _)
    intro sink' hsink' ha
    cases hsink.symm.trans hsink'
    exact ha.receive hframe
  | session l =>
    obtain ⟨s, hs, hN⟩ := Option.bind_eq_some_iff.1 hs
    exact h.session hb hs hN

lemma seen_step (hs : N.step fromStr l = some N') : N.seen ⊆ N'.seen := by
  cases l with
  | draw id p =>
    obtain ⟨c, hc, hs⟩ := Option.bind_eq_some_iff.1 hs
    obtain ⟨c', hc', rfl⟩ := Option.map_eq_some_iff.1 hs
    exact List.subset_append_left _ _
  | serve id now unixMillis =>
    obtain ⟨c, hc, hs⟩ := Option.bind_eq_some_iff.1 hs
    split at hs
    · cases hs
    · split at hs
      · cases hs
        exact List.subset_append_left _ _
      · obtain ⟨s, -, rfl⟩ := Option.map_eq_some_iff.1 hs
        exact List.subset_append_left _ _
  | receive id =>
    obtain ⟨c, hc, hs⟩ := Option.bind_eq_some_iff.1 hs
    obtain ⟨sink, hsink, hs⟩ := Option.bind_eq_some_iff.1 hs
    obtain ⟨frame, hframe, rfl⟩ := Option.map_eq_some_iff.1 hs
    exact List.Subset.refl _
  | session l =>
    obtain ⟨s, -, hN⟩ := Option.bind_eq_some_iff.1 hs
    split at hN
    · cases hN
    all_goals
      cases hN
      exact List.subset_append_left _ _

lemma normal_diskScene
    (h : SceneSession.diskScene fromStr disk = (text, some scene)) : scene.Normal := by
  simp only [SceneSession.diskScene] at h
  split at h
  · obtain ⟨-, hscene⟩ := Prod.mk.inj h
    rename_i body _
    cases hp : Scene.parse fromStr body with
    | error e =>
      rw [hp] at hscene
      cases hscene
    | ok s =>
      rw [hp] at hscene
      cases hscene
      exact Scene.normal_parse hp
  · cases h

lemma normal_fromRecovery
    (h : SceneSession.fromRecovery fromStr path disk u r now fresh = .ok s) :
    s.state.scene.Normal ∧ s.state.attaches = ∅ := by
  simp only [SceneSession.fromRecovery] at h
  split at h
  · cases h
  · cases h
  · rename_i hauthority _
    have hresumed := Scene.normal_parse hauthority
    split_ifs at h
    split at h
    · rename_i hdisk
      cases h
      exact ⟨normal_diskScene (Prod.ext rfl hdisk), rfl⟩
    · cases h
    · cases h
      exact ⟨hresumed, rfl⟩
    · split at h
      · cases h
      · cases h
        exact ⟨hresumed, rfl⟩
    · rename_i hdisk
      cases h
      exact ⟨normal_diskScene (Prod.ext rfl hdisk), rfl⟩
    · cases h

lemma inv_new (h : SceneCreated fromStr s) : (new s).Inv := by
  have hcreated : s.state.scene.Normal ∧ s.state.attaches = ∅ := by
    cases h with
    | new hparse => exact ⟨Scene.normal_parse hparse, rfl⟩
    | recovered hr => exact normal_fromRecovery hr
  refine ⟨hcreated.1, fun k el hel => Scene.mem_entries.2 hel, ?_, ?_⟩
  · intro id sink hsink
    rw [new, hcreated.2, lookup_empty] at hsink
    cases hsink
  · intro id c hc
    cases hc

lemma inv_exec (hs : SceneCreated fromStr s)
    (hN : exec (step fromStr) (new s) ls = some N) (hb : N.Bounded) : N.Inv := by
  refine exec_invariant (I := fun N => N.Bounded → N.Inv) ?_ (fun _ => inv_new hs) hN hb
  intro N l N' hI hstep hb
  have hN : N.Bounded := fun k el hel => hb k el (seen_step hstep hel)
  exact (hI hN).step hN hstep

lemma quiescent_of_entries (h : ∀ e ∈ N.canvases.entries, e.2.inFlight.isEmpty = true ∧
    ∀ sink ∈ N.session.state.attaches.lookup e.1, e.2.received = sink.outbox.length) :
    N.Quiescent := by
  intro id c hc
  obtain ⟨hflight, hdrained⟩ := h ⟨id, c⟩ (AList.mem_lookup_iff.1 hc)
  exact ⟨List.isEmpty_iff.1 hflight, hdrained⟩

end SceneNet

/-- Once every outbox is drained and every push is answered, every attached client holds the
elements of the authority, tombstones included: provided no two elements of an id share their
version and nonce, and no version reaches the top. -/
theorem canvases_converge {session : SceneSession} {N : SceneNet}
    (hcreated : SceneCreated fromStr session)
    (hrun : exec (SceneNet.step fromStr) (SceneNet.new session) ls = some N)
    (hdet : ∀ k a b, (k, a) ∈ N.seen → (k, b) ∈ N.seen → a.version = b.version →
      a.versionNonce = b.versionNonce → a = b)
    (hmax : ∀ k a, (k, a) ∈ N.seen → a.version < u64Max) (hquiet : N.Quiescent) :
    ∀ id sink, N.session.state.attaches.lookup id = some sink →
      ∃ c, N.canvases.lookup id = some c ∧
        ∀ k, c.elements.lookup k = N.session.state.scene.elements.lookup k := by
  have hinv := SceneNet.inv_exec hcreated hrun hmax
  intro id sink hsink
  obtain ⟨c, hc, ha⟩ := hinv.clients id sink hsink
  obtain ⟨hflight, hdrained⟩ := hquiet id c hc
  refine ⟨c, hc, ?_⟩
  intro k
  have hbalance := ha.balance k
  have hsent : c.sent = [] := by rw [Canvas.sent, hflight]; rfl
  rw [hsent, hdrained sink hsink, List.drop_length, level_nil, max_bot_right] at hbalance
  have hcarried : carried [] = [] := rfl
  rw [hcarried, level_nil, max_bot_right] at hbalance
  apply eq_of_peak_eq hbalance.symm
  intro a b ha' hb hrank
  obtain ⟨hversion, hnonce⟩ := StoredElement.rank_inj.1 hrank
  exact hdet k a b (ha.copied k a ha') (hinv.held k b hb) hversion hnonce

/-- Two clients, a replacement that buries what they share, and a push that crosses it. -/
def crossingRun : List SceneNetLabel :=
  let session (op : SceneOp) : SceneNetLabel := .session ⟨0, 0, fun _ => 7, op⟩
  [session (.attach 1 []), session (.attach 2 []), .receive 1, .receive 2,
    .draw 1 ⟨[rectangle "x" 1 3], none, none⟩, .serve 1 0 0, .receive 1, .receive 2,
    .draw 2 ⟨[rectangle "x" 2 5], none, none⟩,
    session (.httpReplace [] ⟨none, some 1, some 1⟩), .serve 2 0 0,
    .receive 1, .receive 1, .receive 2, .receive 2]

def crossed : Option SceneNet :=
  exec (SceneNet.step fun _ => none)
    (SceneNet.new (.new [] [] .empty ⟨0, some 1⟩ 0)) crossingRun

lemma crossed_isSome : crossed.isSome = true := by decide +kernel

/-- The push came after the tombstone and wins on its nonce. -/
theorem canvases_converge_crossing :
    ∃ N, crossed = some N ∧ (N.session.state.attaches.lookup 1).isSome = true ∧
      ((N.session.state.scene.elements.lookup "x".toList).map fun el =>
        (el.version, el.versionNonce, el.isDeleted)) = some (2, 5, false) ∧
      ∀ id sink, N.session.state.attaches.lookup id = some sink →
        ∃ c, N.canvases.lookup id = some c ∧
          ∀ k, c.elements.lookup k = N.session.state.scene.elements.lookup k := by
  have hdet : ∀ a ∈ (crossed.get crossed_isSome).seen, ∀ b ∈ (crossed.get crossed_isSome).seen,
      a.1 = b.1 → a.2.version = b.2.version → a.2.versionNonce = b.2.versionNonce →
        a.2 = b.2 := by
    decide +kernel
  have hmax : ∀ a ∈ (crossed.get crossed_isSome).seen, a.2.version < u64Max := by
    decide +kernel
  refine ⟨_, (Option.some_get crossed_isSome).symm, by decide +kernel, by decide +kernel, ?_⟩
  apply canvases_converge (.new rfl) (Option.some_get crossed_isSome).symm
  · intro k a b ha hb
    exact hdet (k, a) ha (k, b) hb rfl
  · intro k a ha
    exact hmax (k, a) ha
  · apply SceneNet.quiescent_of_entries
    decide +kernel

end Chan
