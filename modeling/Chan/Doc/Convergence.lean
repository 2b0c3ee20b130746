import Chan.Lib.Transition
import Chan.Doc.LogInvariant

namespace Chan
open Utf AssocMap UpdateLog Transition List

variable {s s' : DocSession}

section
variable (hi : LogInv cap hist only clients st)
include hi

lemma LogInv.insert (k : Nat) (sink : AttachSink)
    (c : FakeClient) (hc : c.Fits) (ho : ∀ id, id ≠ k → only' id → only id)
    (hs : Synced (applyUpdate cap) hist c.follower (sink.outbox.map ServerFrame.view) st.text
      st.version) :
    LogInv cap hist only' (clients.insert k c)
      { st with attaches := st.attaches.insert k sink } := by
  refine ⟨hi.version, hi.len16, hi.faithful, hi.current, ?_⟩
  intro id sink' hid hlook
  rcases lookup_insert_eq_some hlook with ⟨rfl, rfl⟩ | ⟨hne, hold⟩
  · exact ⟨c, AList.lookup_insert _, hc, hs⟩
  · obtain ⟨client, hcl, hfit, hsync⟩ := hi.synced id sink' (ho id hne hid) hold
    exact ⟨client, by rw [AList.lookup_insert_ne hne, hcl], hfit, hsync⟩

lemma LogInv.attachFresh (ho : ∀ id, id ≠ k → only' id → only id) :
    LogInv cap hist only' (clients.insert k (FakeClient.attach none))
      (st.registerAttach path k w none) := by
  apply hi.insert k _ _ (FakeClient.attach_fits) ho
  exact Synced.fresh (applyUpdate cap) hist _ hi.current

lemma LogInv.attachResume (path : Text)
    (w : Text) (ho : ∀ id, id ≠ k → only' id → only id)
    (hm : st.logBase ≤ v ∧ v ≤ st.version → (v, t) ∈ hist) :
    LogInv cap hist only' (clients.insert k (FakeClient.attach (some (v, t))))
      (st.registerAttach path k w (some v)) := by
  apply hi.insert k _ _ (FakeClient.attach_fits) ho
  simp only
  split
  · rename_i hwin
    have hmem := hm hwin
    rw [map_append, map_append]
    have hrest : ∀ x ∈ [conflictFrame st.sessionState.isConflicted
        st.sessionState.conflictDiskMtimeNs.join, flushFrame st].map ServerFrame.view,
        x = .other := by
      intro x hx
      simp only [map_cons, map_nil, mem_cons, not_mem_nil, or_false] at hx
      rcases hx with rfl | rfl <;> rfl
    have hcur : ∀ x ∈ (st.cursors.entries.map fun e =>
        ServerFrame.cursor e.1 e.2.windowId e.2.anchor e.2.head e.2.version).map
          ServerFrame.view, x = .other := by
      intro x hx
      rw [map_map] at hx
      obtain ⟨e, _, rfl⟩ := List.mem_map.1 hx
      rfl
    apply Synced.others _ hi.current hrest
    apply Synced.others _ hi.current hcur
    have hstart : Synced (applyUpdate cap) hist (FakeClient.attach (some (v, t))).follower [] t v :=
      Synced.start (applyUpdate cap) hist t v hmem
    obtain ⟨-, hrep⟩ := hi.faithful v t hmem
    by_cases hlt : v < st.version
    · rw [if_pos hlt]
      have hup := hrep hwin.1
      have hdrop : (st.log.map LoggedUpdate.toUpdate).drop (v - st.logBase) =
          (st.log.drop (v - st.logBase)).map LoggedUpdate.toUpdate := List.map_drop.symm
      rw [hdrop] at hup
      have hver : v + ((st.log.drop (v - st.logBase)).map LoggedUpdate.toUpdate).length =
          st.version := by
        have hv := hi.version
        rw [length_map, length_drop]
        omega
      have hsync := hstart.updates hup (by rw [hver]; exact hi.current)
      rw [hver] at hsync
      exact hsync
    · grind [hi.faithful.eq_of_current, hi.version]
  · exact Synced.fresh (applyUpdate cap) hist _ hi.current

end

lemma logged_ioStep (h : s.ioStep diffy l = some s') :
    Logged s.state s'.state := by
  simp only [DocSession.ioStep] at h
  split at h
  · simp only [DocState.beginFlush] at h
    cases hd : s.state.sessionState.dirtySince with
    | none | some since =>
      simp only [hd] at h
      cases h
      exact SameLog.logged ⟨rfl, rfl, rfl, rfl, rfl, rfl⟩
  · cases h
    exact (calm_finishFlush).logged
  · cases h
    exact (calm_noteFlushFailure).logged
  · cases h
    exact (Calm.refl _).logged
  · cases h
    exact (Calm.refl _).logged
  · cases h
    exact (calm_statFailed _).logged
  · cases h
    exact (calm_statOk).logged
  · cases h
    exact (calm_readFailed).logged
  · cases h
    exact (calm_readOk).logged
  · cases h
    exact (Calm.refl _).logged
  · cases h
    exact (Calm.refl _).logged
  · cases h
    exact logged_mergeDisk
  · cases h
    exact (calm_markRemoved).logged
  · cases h
    exact logged_mergeDisk
  · cases h
    exact (calm_markRemoved).logged
  · cases h
    exact logged_reloadAdopt
  · cases h
    exact (Calm.refl _).logged
  · cases h
    exact (calm_reloadVanished).logged
  · cases h
    exact SameLog.logged ⟨rfl, rfl, rfl, rfl, rfl, rfl⟩
  · cases h

def DocSession.added (s : DocSession) (l : Label) (s' : DocSession) : List (Nat × Text) :=
  match l.op with
  | .push _ _ us => s.state.pushed s'.state us
  | _ => s.state.reached s'.state

lemma DocSession.step_attach (h : s.step diffy l = some s')
    (hop : l.op = .attach k w cv) :
    s.added l s' = [] ∧ s'.state = s.state.registerAttach s.path k w cv := by
  simp only [DocSession.step, hop] at h
  split at h
  · cases h
  · cases h
    rw [DocSession.added, hop]
    exact ⟨if_pos rfl, rfl⟩

lemma DocSession.step_pull (h : s.step diffy l = some s')
    (hop : l.op = .pull k v) : s.added l s' = [] ∧ s'.state = s.state.pull s.path k v := by
  simp only [DocSession.step, hop] at h
  split at h
  · cases h
    rw [DocSession.added, hop]
    exact ⟨if_pos (congrArg Core.version (s.state.core_pull s.path k v)), rfl⟩
  · cases h

lemma LogInv.of_logged (hi : LogInv cap hist only clients s.state)
    (hs : s.step diffy l = some s') (hl : Logged s.state s'.state)
    (hfit : ∀ p ∈ hist ++ s.state.reached s'.state, utf8Len p.2 ≤ cap) :
    LogInv cap (hist ++ s.state.reached s'.state) only clients s'.state := by
  apply hl cap hist only clients hi
  by_cases hv : s'.state.version = s.state.version
  · rw [DocSession.step_text_eq hs hv]
    exact hfit _ (mem_append_left _ hi.current)
  · apply hfit (s'.state.version, s'.state.text)
    apply mem_append_right
    rw [DocState.reached, if_neg hv]
    exact mem_singleton_self _

lemma LogInv.step (hi : LogInv cap hist only clients s.state)
    (hs : s.step diffy l = some s') (hatt : l.op.isAttach = false) (hp : l.op.isPull = false)
    (hfit : ∀ p ∈ hist ++ s.added l s', utf8Len p.2 ≤ cap) :
    LogInv cap (hist ++ s.added l s') only clients s'.state := by
  have hstep := hs
  simp only [DocSession.step] at hs
  cases hop : l.op with
  | attach k w cv => rw [hop] at hatt; cases hatt
  | pull k v => rw [hop] at hp; cases hp
  | detach k ms =>
    simp only [hop, DocSession.added] at hs hfit ⊢
    split at hs
    · cases hs
      have hv : (s.state.dropAttach k s.closed).version = s.state.version :=
        congrArg Core.version (s.state.core_dropAttach k s.closed)
      simp only [DocState.reached, if_pos hv, append_nil]
      exact hi.drop k _
    · cases hs
  | push k base us =>
    simp only [hop, DocSession.added] at hs hfit ⊢
    split at hs
    · split at hs
      · rename_i hpush
        cases hs
        exact hi.push hpush fun p hmem => hfit p (mem_append_right _ hmem)
      · cases hs
        simp only [DocState.pushed, if_true, append_nil]
        exact hi
    · cases hs
  | cursor k a b =>
    simp only [hop, DocSession.added] at hs hfit ⊢
    split at hs
    · cases hs
      exact hi.of_logged hstep (calm_cursor _ _ _ _).logged hfit
    · cases hs
  | httpReplace client t pre =>
    simp only [hop, DocSession.added] at hs hfit ⊢
    split at hs
    · rename_i hrep
      cases hs
      exact hi.of_logged hstep (logged_applyHttpReplace hrep) hfit
    · cases hs
      exact hi.of_logged hstep (Calm.refl _).logged hfit
  | overwriteConflict =>
    simp only [hop, DocSession.added] at hs hfit ⊢
    cases hs
    exact hi.of_logged hstep (calm_overwriteConflict).logged hfit
  | fanSnapshot =>
    simp only [hop, DocSession.added] at hs hfit ⊢
    cases hs
    exact hi.of_logged hstep (Calm.fan (.inr rfl)).logged hfit
  | _ =>
    simp only [hop, DocSession.added] at hs hfit ⊢
    exact hi.of_logged hstep (logged_ioStep hs) hfit

instance : LawfulBEq (Nat × Text) := inferInstance

structure Tracked where
  session : DocSession
  hist : List (Nat × Text)
  clients : Map Nat FakeClient

structure TrackedLabel where
  label : Label
  resume : Text

namespace Tracked

def new (path seed : Text) (stat : FileStat) (now : Instant) : Tracked :=
  ⟨DocSession.new path seed stat now, [(0, seed)], ∅⟩

/-- A resuming client holds the text this session had at the version it names. -/
def step (diffy : Text → Text → Text → Option Text) (T : Tracked) (l : TrackedLabel) :
    Option Tracked :=
  match T.session.step diffy l.label with
  | none => none
  | some s =>
    let hist := T.hist ++ T.session.added l.label s
    match l.label.op with
    | .attach id _ none => some ⟨s, hist, T.clients.insert id (FakeClient.attach none)⟩
    | .attach id _ (some v) =>
      if (v, l.resume) ∈ T.hist then
        some ⟨s, hist, T.clients.insert id (FakeClient.attach (some (v, l.resume)))⟩
      else none
    | _ => some ⟨s, hist, T.clients⟩

/-- While every state of the history fits the cap, every client is in step. -/
def Sound (cap : Nat) (T : Tracked) : Prop :=
  (∀ p ∈ T.hist, utf8Len p.2 ≤ cap) →
    LogInv cap T.hist (fun _ => True) T.clients T.session.state

lemma step_sound {T T' : Tracked} (hi : T.Sound cap) (h : T.step diffy l = some T')
    (hp : l.label.op.isPull = false) : T'.Sound cap := by
  simp only [step] at h
  cases hs : T.session.step diffy l.label with
  | none => rw [hs] at h; cases h
  | some s =>
    simp only [hs] at h
    split at h
    · rename_i k w hop
      obtain ⟨hadd, hst⟩ := DocSession.step_attach hs hop
      rw [hadd, append_nil] at h
      cases h
      intro hfit
      rw [hst]
      exact (hi hfit).attachFresh fun _ _ _ => trivial
    · rename_i k w v hop
      obtain ⟨hadd, hst⟩ := DocSession.step_attach hs hop
      rw [hadd, append_nil] at h
      split at h
      · cases h
        intro hfit
        rw [hst]
        exact (hi hfit).attachResume _ _ (fun _ _ _ => trivial) fun _ => ‹_›
      · cases h
    · rename_i hnone hsome
      have hatt : l.label.op.isAttach = false := by
        cases hop : l.label.op with
        | attach k w cv =>
          cases cv with
          | none => exact absurd hop (hnone k w)
          | some v => exact absurd hop (hsome k w v)
        | _ => rfl
      cases h
      intro hfit
      exact (hi fun p hmem => hfit p (mem_append_left _ hmem)).step hs hatt hp hfit

lemma new_sound : (new path seed stat now).Sound cap := by
  intro _
  refine ⟨rfl, rfl, Faithful.start _ _ _, mem_singleton_self _, ?_⟩
  intro id sink _ hs
  cases hs

lemma exec_sound (hi : T.Sound cap) (h : exec (step diffy) T ls = some T')
    (hp : ∀ l ∈ ls, l.label.op.isPull = false) : T'.Sound cap := by
  induction ls generalizing T with
  | nil => cases h; exact hi
  | cons l ls ih =>
    obtain ⟨U, hU, hT⟩ := exec_cons_eq_some.1 h
    apply ih _ hT
    · intro l' hl'
      exact hp l' (mem_cons_of_mem _ hl')
    · exact step_sound hi hU (hp l mem_cons_self)

end Tracked

/-- In every run of a session, each attachment's outbox folds without a gap, a repeat or a failed
update, and ends at the authority's text and version. -/
theorem session_converges {T : Tracked}
    (hrun : exec (Tracked.step diffy) (Tracked.new path seed stat now) ls = some T)
    (hpull : ∀ l ∈ ls, l.label.op.isPull = false)
    (hcap : ∀ p ∈ T.hist, utf8Len p.2 ≤ cap)
    (hsink : T.session.state.attaches.lookup k = some sink) :
    ∃ client : FakeClient, T.clients.lookup k = some client ∧
      client.drain cap sink.outbox =
        some ⟨T.session.state.text, T.session.state.len16, T.session.state.version⟩ := by
  have hinv := Tracked.exec_sound (Tracked.new_sound) hrun hpull hcap
  obtain ⟨client, hc, hfit, hsync⟩ := hinv.synced k sink trivial hsink
  apply Exists.intro client
  apply And.intro hc
  rw [hinv.len16]
  exact FakeClient.drain_of_follower hfit hsync.drained

def keepAll (t : Text) : Update := ⟨"c".toList, ⟨[.retain (utf16Len t)]⟩⟩

def keepAllRun (t : Text) : List TrackedLabel :=
  [⟨⟨0, 0, .attach 0 [] none⟩, []⟩, ⟨⟨0, 0, .push 0 0 [keepAll t]⟩, []⟩]

/-- A legacy text over the write limit is accepted by its session and refused by the fold. -/
lemma keepAllRun_overflows (diffy : Text → Text → Text → Option Text)
    (ht : textWriteLimit < utf8Len t) :
    ∃ T sink client, exec (Tracked.step diffy) (Tracked.new [] t ⟨utf8Len t, none⟩ 0)
        (keepAllRun t) = some T ∧
      T.session.state.attaches.lookup 0 = some sink ∧ T.clients.lookup 0 = some client ∧
      client.drain textWriteLimit sink.outbox = none := by
  have hfit : ¬semanticWriteBudget (some (utf8Len t)) < utf8Len t :=
    Nat.not_lt_of_le size_le_budget
  have hbatch : applyBatch (semanticWriteBudget (some (utf8Len t))) t (utf16Len t) none
      [keepAll t] = .ok (some ⟨t, utf16Len t⟩) := by
    simp only [applyBatch, keepAll, applyWithLimit_identity, if_neg hfit]
  have hfold : applyAllWithLimit textWriteLimit t (utf16Len t) [keepAll t] =
      .error (.docTooLarge (utf8Len t) textWriteLimit) := by
    simp only [applyAllWithLimit, keepAll, applyWithLimit_identity, if_pos ht]
  let s : DocState := (DocState.new t ⟨utf8Len t, none⟩ 0).registerAttach [] 0 [] none
  let s' : DocState :=
    ({ (s.commit [keepAll t] ⟨t, utf16Len t⟩).markDirty 0 with recoveryPending := true }).sendTo 0
      (.pushOk 1)
  have hpush : s.push 0 0 [keepAll t] false 0 = .ok s' := by
    have hb : applyBatch s.writeBudget s.text s.len16 none [keepAll t] =
      .ok (some ⟨t, utf16Len t⟩) := hbatch
    simp only [DocState.push, hb]
    rfl
  let T : Tracked := ⟨⟨[], s, 0, false, .idle⟩, [(0, t)], AList.insert 0 (.attach none) ∅⟩
  have hattach : Tracked.step diffy (Tracked.new [] t ⟨utf8Len t, none⟩ 0)
      ⟨⟨0, 0, .attach 0 [] none⟩, []⟩ = some T := rfl
  have hstep : Tracked.step diffy T ⟨⟨0, 0, .push 0 0 [keepAll t]⟩, []⟩ =
      some ⟨T.session.withState s', T.hist ++ s.pushed s' [keepAll t], T.clients⟩ := by
    have hs : T.session.step diffy ⟨0, 0, .push 0 0 [keepAll t]⟩ =
        some (T.session.withState s') := by
      have hp : T.session.state.push 0 0 [keepAll t] T.session.closed 0 = .ok s' := hpush
      simp only [DocSession.step, hp]
      rfl
    simp only [Tracked.step, hs]
    rfl
  refine ⟨_, _, _, exec_cons_eq_some.2 ⟨T, hattach, exec_cons_eq_some.2 ⟨_, hstep, rfl⟩⟩, rfl,
    rfl, ?_⟩
  have hdrain : FakeClient.receive textWriteLimit ⟨t, utf16Len t, 0⟩
      (.updates 0 [keepAll t]) = none := by
    simp [FakeClient.receive, hfold]
  change FakeClient.drain textWriteLimit (.attach none)
    [.snapshot [] 0 t false false none none [], .updates 0 [keepAll t], .pushOk 1] = none
  simp only [FakeClient.drain, foldlM_cons]
  rw [FakeClient.receive, Option.bind_eq_bind, Option.bind_some, hdrain, Option.bind_none]

/-- The same for one concrete text, one byte over the limit. -/
theorem oversized_fold_fails : ∃ T sink client, exec (Tracked.step fun _ _ _ => none)
        (Tracked.new [] (List.replicate (textWriteLimit + 1) 'a') ⟨textWriteLimit + 1, none⟩ 0)
        (keepAllRun (List.replicate (textWriteLimit + 1) 'a')) = some T ∧
      T.session.state.attaches.lookup 0 = some sink ∧ T.clients.lookup 0 = some client ∧
      client.drain textWriteLimit sink.outbox = none := by
  have hlen : utf8Len (List.replicate (textWriteLimit + 1) 'a') = textWriteLimit + 1 := by
    rw [utf8Len_replicate]
    exact Nat.mul_one _
  have h := keepAllRun_overflows (fun _ _ _ => none)
    (by rw [hlen]; exact Nat.lt_succ_self _)
  rw [hlen] at h
  exact h

/-- The second client comes back after the changes to two lines, one on disk, were merged. -/
def twoClientRun : List TrackedLabel :=
  [⟨⟨0, 0, .attach 0 [] none⟩, []⟩,
    ⟨⟨1, 0, .push 0 0 [⟨"c".toList, ⟨[.edit 1 ["x".toList], .retain 4]⟩⟩]⟩, []⟩,
    ⟨⟨2, 0, .mergeDisk "a\nb\ny".toList ⟨5, some 7⟩ true⟩, []⟩,
    ⟨⟨3, 0, .attach 1 [] (some 1)⟩, "x\nb\nc".toList⟩,
    ⟨⟨4, 0, .push 1 2 [⟨"d".toList, ⟨[.edit 5 ["z".toList]]⟩⟩]⟩, []⟩]

theorem session_converges_two_clients : let T :=
      (exec (Tracked.step fun _ _ _ => some "x\nb\ny".toList)
        (Tracked.new [] "a\nb\nc".toList ⟨5, some 1⟩ 0) twoClientRun).get (by decide)
    ∃ sink client, T.session.state.attaches.lookup 1 = some sink ∧
      T.clients.lookup 1 = some client ∧
      client.drain textWriteLimit sink.outbox = some ⟨"z".toList, 1, 3⟩ := by
  intro T
  have hsome : (T.session.state.attaches.lookup 1).isSome = true := by decide
  obtain ⟨client, hc, hd⟩ := session_converges (Option.some_get _).symm (by decide)
    (by decide : ∀ p ∈ T.hist, utf8Len p.2 ≤ textWriteLimit) (Option.some_get hsome).symm
  exact ⟨_, client, (Option.some_get hsome).symm, hc, hd.trans (by decide)⟩

end Chan
