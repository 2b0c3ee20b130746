import Chan.Doc.Client
import Chan.Doc.Effects

namespace Chan
open Utf AssocMap UpdateLog List DocState

/-- Every state the log reaches back to replays to the current one, and every attachment that is
followed ends there after its outbox. -/
structure LogInv (cap : Nat) (hist : List (Nat × Text)) (only : Nat → Prop)
    (clients : Map Nat FakeClient) (st : DocState) : Prop where
  version : st.version = st.logBase + st.log.length
  len16 : st.len16 = utf16Len st.text
  faithful : Faithful (applyUpdate cap) hist st.logBase (st.log.map LoggedUpdate.toUpdate) st.text
  current : (st.version, st.text) ∈ hist
  synced : ∀ id sink, only id → st.attaches.lookup id = some sink →
    ∃ client : FakeClient, clients.lookup id = some client ∧ client.Fits ∧
      Synced (applyUpdate cap) hist client.follower (sink.outbox.map ServerFrame.view)
        st.text st.version

/-- A change that leaves text and version alone and keeps every client in step. -/
structure Calm (st st' : DocState) : Prop where
  text : st'.text = st.text
  version : st'.version = st.version
  keeps : ∀ cap hist only clients, LogInv cap hist only clients st →
    LogInv cap hist only clients st'

def DocState.reached (st st' : DocState) : List (Nat × Text) :=
  if st'.version = st.version then [] else [(st'.version, st'.text)]

def Logged (st st' : DocState) : Prop :=
  ∀ cap hist only clients, LogInv cap hist only clients st → utf8Len st'.text ≤ cap →
    LogInv cap (hist ++ st.reached st') only clients st'

lemma Calm.refl (st : DocState) : Calm st st := ⟨rfl, rfl, fun _ _ _ _ h => h⟩

lemma Calm.trans (h : Calm a b) (h' : Calm b c) : Calm a c :=
  ⟨h'.text.trans h.text, h'.version.trans h.version,
    fun cap hist only clients hi =>
      h'.keeps cap hist only clients (h.keeps cap hist only clients hi)⟩

lemma Calm.logged (h : Calm st st') : Logged st st' := by
  intro cap hist only clients hi _
  rw [DocState.reached, if_pos h.version, append_nil]
  exact h.keeps cap hist only clients hi

lemma Calm.then_logged (h : Calm a b) (h' : Logged b c) : Logged a c := by
  intro cap hist only clients hi hle
  have hr : a.reached c = b.reached c := by rw [DocState.reached, DocState.reached, h.version]
  rw [hr]
  exact h' cap hist only clients (h.keeps cap hist only clients hi) hle

lemma Logged.then_calm (h : Logged a b) (h' : Calm b c) : Logged a c := by
  intro cap hist only clients hi hle
  have hr : a.reached c = a.reached b := by
    rw [DocState.reached, DocState.reached, h'.version, h'.text]
  rw [hr]
  apply h'.keeps
  exact h cap hist only clients hi (h'.text ▸ hle)

def SameLog (st st' : DocState) : Prop :=
  st'.text = st.text ∧ st'.len16 = st.len16 ∧ st'.version = st.version ∧ st'.log = st.log ∧
    st'.logBase = st.logBase ∧ st'.attaches = st.attaches

lemma SameLog.calm (h : SameLog st st') : Calm st st' := by
  obtain ⟨ht, hl, hv, hlog, hb, ha⟩ := h
  apply Calm.mk ht hv
  intro cap hist only clients hi
  constructor
  · rw [hv, hb, hlog]
    exact hi.version
  · rw [hl, ht]
    exact hi.len16
  · rw [hb, hlog, ht]
    exact hi.faithful
  · rw [hv, ht]
    exact hi.current
  · rw [ha, ht, hv]
    exact hi.synced

lemma SameLog.logged (h : SameLog st st') : Logged st st' := h.calm.logged

lemma LogInv.same (h : LogInv cap hist only clients st) (hs : SameLog st st') :
    LogInv cap hist only clients st' := hs.calm.keeps cap hist only clients h

lemma LogInv.unfollowed (h : LogInv cap hist only clients st)
    (hs : SameLog { st with attaches := st'.attaches } st') :
    LogInv cap hist (fun _ => False) clients' st' := by
  obtain ⟨ht, hl, hv, hlog, hb, -⟩ := hs
  constructor
  · rw [hv, hb, hlog]
    exact h.version
  · rw [hl, ht]
    exact h.len16
  · rw [hb, hlog, ht]
    exact h.faithful
  · rw [hv, ht]
    exact h.current
  · intro id sink hid
    exact hid.elim

lemma DocState.pull_sameLog (path : Text) (k v : Nat) (st : DocState) :
    SameLog { st with attaches := (st.pull path k v).attaches } (st.pull path k v) := by
  simp only [DocState.pull]
  split
  · split <;> exact ⟨rfl, rfl, rfl, rfl, rfl, rfl⟩
  · exact ⟨rfl, rfl, rfl, rfl, rfl, rfl⟩

def Neutral (st : DocState) (frame : ServerFrame) : Prop :=
  frame.view = .other ∨ frame.view = .snapshot st.version st.text

lemma Calm.deliver (sel : Nat → Bool) (hn : Neutral st frame) :
    Calm st (st.deliver sel frame) := by
  refine ⟨rfl, rfl, ?_⟩
  intro cap hist only clients hi
  refine ⟨hi.version, hi.len16, hi.faithful, hi.current, ?_⟩
  intro id sink ho hs
  simp only [DocState.deliver, lookup_mapWithKey] at hs
  obtain ⟨old, hold, rfl⟩ := Option.map_eq_some_iff.1 hs
  obtain ⟨client, hc, hfit, hsync⟩ := hi.synced id old ho hold
  apply Exists.intro client
  apply And.intro hc
  apply And.intro hfit
  split
  · rw [AttachSink.send, map_append, map_singleton]
    rcases hn with hn | hn
    · rw [hn]
      exact hsync.other hi.current
    · rw [hn]
      exact hsync.snapshot hi.current
  · exact hsync

lemma Calm.fan (hn : Neutral st frame) : Calm st (st.fan frame) := Calm.deliver _ hn

lemma SameLog.fan (h : SameLog st st') (hf : frame.view = .other) : Calm st (st'.fan frame) :=
  h.calm.trans (Calm.fan (.inl hf))

lemma Calm.setState (st : DocState) (ss : SessionState) : Calm st (st.setState ss) :=
  SameLog.calm ⟨rfl, rfl, rfl, rfl, rfl, rfl⟩

lemma DocState.evictLog_eq (log : List LoggedUpdate) (base size : Nat) :
    ∃ k, k ≤ log.length ∧ (evictLog log base size).1 = log.drop k ∧
      (evictLog log base size).2.1 = base + k := by
  induction log generalizing base size with
  | nil => exact ⟨0, Nat.le_refl _, rfl, rfl⟩
  | cons e log ih =>
    rw [evictLog]
    split
    · obtain ⟨k, hk, hlog, hbase⟩ := ih (base + 1) (size - e.cost)
      apply Exists.intro (k + 1)
      apply And.intro (Nat.succ_le_succ hk)
      apply And.intro hlog
      rw [hbase]
      exact Nat.add_right_comm base 1 k
    · exact ⟨0, Nat.zero_le _, rfl, rfl⟩

lemma DocState.appendLogs_eq (es : List LoggedUpdate) (st : DocState) :
    ∃ k, k ≤ (st.log ++ es).length ∧ (es.foldl appendLog st).log = (st.log ++ es).drop k ∧
      (es.foldl appendLog st).logBase = st.logBase + k := by
  induction es generalizing st with
  | nil => exact ⟨0, Nat.zero_le _, (append_nil _).symm, rfl⟩
  | cons e es ih =>
    obtain ⟨j, hj, hlog, hbase⟩ := evictLog_eq (st.log ++ [e]) st.logBase (st.logBytes + e.cost)
    obtain ⟨k, hk, hlog', hbase'⟩ := ih (st.appendLog e)
    have hl : (st.appendLog e).log = (st.log ++ [e]).drop j := hlog
    have hb : (st.appendLog e).logBase = st.logBase + j := hbase
    have happ : (st.log ++ [e]).drop j ++ es = (st.log ++ e :: es).drop j := by
      rw [← drop_append_of_le_length hj, append_assoc, singleton_append]
    rw [hl, happ, length_drop] at hk
    have hlen : j ≤ (st.log ++ e :: es).length := by
      rw [length_append, length_singleton] at hj
      rw [length_append, length_cons]
      omega
    apply Exists.intro (j + k)
    apply And.intro (by omega)
    constructor
    · rw [foldl_cons, hlog', hl, happ, drop_drop]
    · rw [foldl_cons, hbase', hb, Nat.add_assoc]

lemma DocState.appendLogs_attaches (es : List LoggedUpdate) (st : DocState) :
    (es.foldl appendLog st).attaches = st.attaches ∧ (es.foldl appendLog st).len16 = st.len16 := by
  induction es generalizing st with
  | nil => exact ⟨rfl, rfl⟩
  | cons e es ih => exact ih (st.appendLog e)

lemma map_logged_toUpdate (us : List Update) :
    (us.map Update.logged).map LoggedUpdate.toUpdate = us := by
  rw [map_map]
  exact map_id us

lemma LogInv.commit (h : LogInv cap hist only clients st)
    (hr : replay (applyUpdate cap) st.text us = some a.text) (hlen : a.len16 = utf16Len a.text)
    (hne : us ≠ []) :
    LogInv cap (hist ++ points (applyUpdate cap) st.version st.text us) only clients
      (st.commit us a) := by
  obtain ⟨k, hk, hlog, hbase⟩ := appendLogs_eq (us.map Update.logged)
    { st with text := a.text, len16 := a.len16 }
  obtain ⟨hatt, hlen'⟩ := appendLogs_attaches (us.map Update.logged)
    { st with text := a.text, len16 := a.len16 }
  have hcore := core_commit st us a
  simp only [DocState.core, Core.mk.injEq] at hcore
  obtain ⟨htext, hver, -, -, -⟩ := hcore
  have hmlen : (st.log.map LoggedUpdate.toUpdate).length = st.log.length := length_map _
  have hlast := mem_points_last hr hne st.version
  have hk' : k ≤ st.log.length + us.length := by
    rw [length_append, length_map] at hk
    exact hk
  have hlog' : (st.commit us a).log = (st.log ++ us.map Update.logged).drop k := hlog
  have hbase' : (st.commit us a).logBase = st.logBase + k := hbase
  constructor
  · rw [hver, hlog', hbase', length_drop, length_append, length_map, h.version]
    omega
  · rw [htext, ← hlen]
    exact hlen'
  · have hf := h.faithful.append hr
    rw [hmlen, ← h.version] at hf
    have hf' := hf.evict (k := k) (by rw [length_append, hmlen]; exact hk')
    rw [hlog', hbase', htext, map_drop, map_append, map_logged_toUpdate]
    exact hf'
  · rw [hver, htext]
    exact mem_append_right hist hlast
  · intro id sink ho hs
    rw [htext, hver]
    simp only [DocState.commit, DocState.fan, DocState.deliver, hatt, lookup_mapWithKey,
      if_true] at hs
    obtain ⟨old, hold, rfl⟩ := Option.map_eq_some_iff.1 hs
    obtain ⟨client, hc, hfit, hsync⟩ := h.synced id old ho hold
    apply Exists.intro client
    apply And.intro hc
    apply And.intro hfit
    rw [AttachSink.send, map_append, map_singleton, updatesFrame, map_logged_toUpdate]
    apply Synced.updates
    · exact hsync.mono fun p hp => mem_append_left _ hp
    · exact hr
    · exact mem_append_right hist hlast

lemma logged_replaceLocked : Logged st (st.replaceLocked client t) := by
  intro cap hist only clients h hle
  have hcore := core_commit st [⟨client, replaceDiff st.text t⟩] ⟨t, utf16Len t⟩
  simp only [DocState.core, Core.mk.injEq] at hcore
  obtain ⟨htext, hver, -, -, -⟩ := hcore
  have htext' : (st.replaceLocked client t).text = t := htext
  have hver' : (st.replaceLocked client t).version = st.version + 1 := hver
  rw [DocState.reached, htext', hver', if_neg (Nat.succ_ne_self _)]
  have ha : applyUpdate cap st.text ⟨client, replaceDiff st.text t⟩ = some t := by
    rw [applyUpdate, applyWithLimit_replaceDiff st.text t hle]
  have hr : replay (applyUpdate cap) st.text [⟨client, replaceDiff st.text t⟩] = some t := by
    rw [replay_cons, ha, Option.bind_some, replay_nil]
  have hc := h.commit (a := ⟨t, utf16Len t⟩) hr rfl (cons_ne_nil _ _)
  simp only [points, ha] at hc
  exact hc

lemma logged_installDisk (t : Text) (st : DocState) : Logged st (st.installDisk t) := by
  rw [DocState.installDisk]
  split
  · exact logged_replaceLocked
  · exact (Calm.refl st).logged

lemma calm_enterConflict : Calm st (st.enterConflictLocked dv m dc fresh) := by
  simp only [DocState.enterConflictLocked]
  split
  · exact SameLog.calm ⟨rfl, rfl, rfl, rfl, rfl, rfl⟩
  · exact SameLog.fan ⟨rfl, rfl, rfl, rfl, rfl, rfl⟩ rfl

lemma logged_adoptDisk
    (h : SameLog ((st.noteAdopted x now).installDisk t) st') : Logged st st' := by
  have hnote : Calm st (st.noteAdopted x now) := SameLog.calm ⟨rfl, rfl, rfl, rfl, rfl, rfl⟩
  exact hnote.then_logged ((logged_installDisk t _).then_calm h.calm)

lemma logged_mergeDisk : Logged st (st.mergeDisk diffy raw stat v now fresh) := by
  simp only [DocState.mergeDisk]
  split
  · cases mergeTextSnapshots diffy st.baseline.content st.text (normalizeLf raw) with
    | some m =>
      apply logged_adoptDisk
      exact ⟨rfl, rfl, rfl, rfl, rfl, rfl⟩
    | none => exact (calm_enterConflict).logged
  · apply logged_adoptDisk
    exact ⟨rfl, rfl, rfl, rfl, rfl, rfl⟩

lemma calm_markRemoved : Calm st (st.markRemoved fresh) := by
  rw [DocState.markRemoved]
  split
  · exact calm_enterConflict
  · exact SameLog.fan ⟨rfl, rfl, rfl, rfl, rfl, rfl⟩ rfl

lemma calm_reloadVanished : Calm st st.reloadVanished := by
  simp only [DocState.reloadVanished]
  have hforget : Calm st { st.forgetFile with flushFailures := 0 } :=
    SameLog.calm ⟨rfl, rfl, rfl, rfl, rfl, rfl⟩
  split
  · exact (hforget.trans (Calm.fan (.inl rfl))).trans (Calm.fan (.inl rfl))
  · exact hforget.trans (Calm.fan (.inl rfl))

lemma logged_reloadAdopt : Logged st (st.reloadAdopt path raw stat now) := by
  simp only [DocState.reloadAdopt]
  apply (logged_installDisk (normalizeLf raw) st).then_calm
  have hfan : ∀ (b : Bool) (frame : ServerFrame) (st' : DocState), frame.view = .other →
      Calm st' (if b then st'.fan frame else st') := by
    intro b frame st' hf
    cases b
    · exact Calm.refl st'
    · exact Calm.fan (.inl hf)
  split
  · apply Calm.trans _ (Calm.fan (.inl rfl))
    apply Calm.trans _ (hfan _ _ _ rfl)
    exact SameLog.calm ⟨rfl, rfl, rfl, rfl, rfl, rfl⟩
  · apply Calm.trans _ (Calm.fan (.inr rfl))
    apply Calm.trans _ (hfan _ _ _ rfl)
    exact SameLog.calm ⟨rfl, rfl, rfl, rfl, rfl, rfl⟩

lemma calm_overwriteConflict : Calm st ((st.overwriteConflict now).getD st) := by
  rw [DocState.overwriteConflict]
  split
  · exact SameLog.fan ⟨rfl, rfl, rfl, rfl, rfl, rfl⟩ rfl
  · exact Calm.refl st

lemma calm_finishFlush : Calm st (st.finishFlush epoch stat content now) := by
  simp only [DocState.finishFlush]
  split <;>
    exact SameLog.fan ⟨rfl, rfl, rfl, rfl, rfl, rfl⟩ rfl

lemma calm_noteFlushFailure : Calm st (st.noteFlushFailure m) := by
  simp only [DocState.noteFlushFailure]
  split
  · exact SameLog.fan ⟨rfl, rfl, rfl, rfl, rfl, rfl⟩ rfl
  · exact SameLog.calm ⟨rfl, rfl, rfl, rfl, rfl, rfl⟩

lemma calm_cursor (id a h : Nat) (st : DocState) : Calm st (st.cursor id a h) := by
  simp only [DocState.cursor]
  split
  · exact Calm.refl st
  · apply Calm.trans _ (Calm.deliver _ (.inl rfl))
    exact SameLog.calm ⟨rfl, rfl, rfl, rfl, rfl, rfl⟩

lemma calm_statFailed («exists» : Bool) :
    Calm st (st.statFailed «exists» now).1 := by
  obtain ⟨ss, -, hst, -⟩ := st.statFailed_eq «exists» now
  rw [hst]
  exact Calm.setState _ _

lemma calm_statOk : Calm st (st.statOk stat forceRead).1 := by
  obtain ⟨ss, -, hst, -⟩ := st.statOk_eq stat forceRead
  rw [hst]
  exact Calm.setState _ _

lemma calm_readFailed : Calm st (st.readFailed stat e fresh) := by
  rw [DocState.readFailed]
  split
  · exact Calm.refl st
  · exact calm_enterConflict

lemma calm_observe : Calm st (st.observe h m now) := by
  obtain ⟨ss, -, hst⟩ := st.observe_eq h m now
  rw [hst]
  exact Calm.setState _ _

lemma calm_reconcileConflicted : Calm st (st.reconcileConflictedLocked t stat h v now fresh) := by
  simp only [DocState.reconcileConflictedLocked]
  split
  · split
    · exact Calm.setState _ _
    · split
      · split
        · apply Calm.trans _ (Calm.fan (.inl rfl))
          exact SameLog.fan ⟨rfl, rfl, rfl, rfl, rfl, rfl⟩ rfl
        · split
          · exact SameLog.fan ⟨rfl, rfl, rfl, rfl, rfl, rfl⟩ rfl
          · exact calm_enterConflict
      · split
        · exact Calm.refl st
        · exact Calm.setState _ _
  · exact Calm.refl st

lemma calm_readOk : Calm st (st.readOk raw stat now fresh).1 := by
  simp only [DocState.readOk]
  split
  · exact calm_reconcileConflicted
  · split
    · split
      · exact SameLog.calm ⟨rfl, rfl, rfl, rfl, rfl, rfl⟩
      · apply Calm.trans _ calm_observe
        exact SameLog.calm ⟨rfl, rfl, rfl, rfl, rfl, rfl⟩
    · split
      · exact SameLog.calm ⟨rfl, rfl, rfl, rfl, rfl, rfl⟩
      · split
        · apply Calm.trans _ calm_observe
          exact SameLog.calm ⟨rfl, rfl, rfl, rfl, rfl, rfl⟩
        · split
          · split
            · exact SameLog.calm ⟨rfl, rfl, rfl, rfl, rfl, rfl⟩
            · apply Calm.trans _ calm_observe
              exact SameLog.calm ⟨rfl, rfl, rfl, rfl, rfl, rfl⟩
          · exact SameLog.calm ⟨rfl, rfl, rfl, rfl, rfl, rfl⟩

lemma logged_applyHttpReplace
    (h : st.applyHttpReplace client t pre now = .ok (r, st')) : Logged st st' := by
  simp only [DocState.applyHttpReplace] at h
  split at h
  · cases h
    exact (Calm.refl st).logged
  · split at h
    · cases h
      exact (Calm.refl st).logged
    · cases h
      exact (Calm.refl st).logged
    · split at h
      · cases h
      · cases h
        rw [DocState.applyReplaceLocked]
        split
        · exact (Calm.refl st).logged
        · apply (logged_replaceLocked).then_calm
          exact SameLog.calm ⟨rfl, rfl, rfl, rfl, rfl, rfl⟩

def DocState.pushed (st st' : DocState) (us : List Update) : List (Nat × Text) :=
  if st'.version = st.version then []
  else points (applyUpdate st.writeBudget) st.version st.text us

lemma LogInv.push (hi : LogInv cap hist only clients st)
    (h : st.push k base us closed now = .ok st')
    (hfit : ∀ p ∈ st.pushed st' us, utf8Len p.2 ≤ cap) :
    LogInv cap (hist ++ st.pushed st' us) only clients st' := by
  have hsend : ∀ (st' : DocState) (frame : ServerFrame), frame.view = .other →
      Calm st' (st'.sendTo k frame) := fun st' frame hf => Calm.deliver _ (.inl hf)
  simp only [DocState.push] at h
  split at h
  · cases h
  · split at h
    · cases h
    · split at h
      · cases h
        rw [DocState.pushed, if_pos (hsend _ _ rfl).version, append_nil]
        exact (hsend _ _ rfl).keeps _ _ _ _ hi
      · split at h
        · cases h
        · cases h
          rw [DocState.pushed, if_pos (hsend _ _ rfl).version, append_nil]
          exact (hsend _ _ rfl).keeps _ _ _ _ hi
        · rename_i a ha
          rw [Except.ok.injEq] at h
          have hcore := core_commit st us a
          simp only [DocState.core, Core.mk.injEq] at hcore
          obtain ⟨-, hver, -, -, -⟩ := hcore
          rw [hi.len16] at ha
          obtain ⟨hne, hr, hlen⟩ := applyBatch_none ha
          have hpos : 0 < us.length := List.length_pos_iff.2 hne
          have hmoved : st'.version ≠ st.version := by
            have hv : st'.version = (st.commit us a).version := by rw [← h]; rfl
            omega
          rw [DocState.pushed, if_neg hmoved] at hfit ⊢
          obtain ⟨hr', hp⟩ := replay_of_points_le hr hfit
          rw [← hp, ← h]
          apply (hsend _ _ rfl).keeps
          exact (hi.commit hr' hlen hne).same ⟨rfl, rfl, rfl, rfl, rfl, rfl⟩

lemma LogInv.drop (hi : LogInv cap hist only clients st) (k : Nat) (closed : Bool) :
    LogInv cap hist only clients (st.dropAttach k closed) := by
  have herase : LogInv cap hist only clients { st with attaches := st.attaches.erase k } := by
    refine ⟨hi.version, hi.len16, hi.faithful, hi.current, ?_⟩
    intro id sink ho hs
    exact hi.synced id sink ho (lookup_erase_eq_some hs).2
  have hcursor : Calm { st with attaches := st.attaches.erase k }
      (({ st with attaches := st.attaches.erase k, cursors := st.cursors.erase k } :
        DocState).fan (.cursorGone k)) :=
    SameLog.fan ⟨rfl, rfl, rfl, rfl, rfl, rfl⟩ rfl
  simp only [DocState.dropAttach]
  split
  · split
    · exact (hcursor.keeps _ _ _ _ herase).same ⟨rfl, rfl, rfl, rfl, rfl, rfl⟩
    · exact hcursor.keeps _ _ _ _ herase
  · split
    · exact herase.same ⟨rfl, rfl, rfl, rfl, rfl, rfl⟩
    · exact herase

end Chan
