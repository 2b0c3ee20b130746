import Chan.Doc.LogInvariant

namespace Chan
open Utf AssocMap UpdateLog List

namespace DocState

def evictChecked : List LoggedUpdate → Nat → Nat → Option (List LoggedUpdate × Nat × Nat)
  | [], base, size => some ([], base, size)
  | e :: log, base, size =>
    if docLogMaxUpdates < (e :: log).length ∨ docLogMaxBytes < size then
      if e.cost ≤ size then evictChecked log (base + 1) (size - e.cost) else none
    else some (e :: log, base, size)

def cost (log : List LoggedUpdate) : Nat := (log.map LoggedUpdate.cost).sum

lemma cost_cons (e : LoggedUpdate) (log : List LoggedUpdate) :
    cost (e :: log) = e.cost + cost log := by
  rw [cost, map_cons, sum_cons, cost]

lemma evictChecked_eq (log : List LoggedUpdate) (base : Nat) :
    evictChecked log base (cost log) = some (evictLog log base (cost log)) := by
  induction log generalizing base with
  | nil => rfl
  | cons e log ih =>
    have hcost := cost_cons e log
    have hrest : cost (e :: log) - e.cost = cost log := by omega
    rw [evictChecked, evictLog]
    split
    · rw [if_pos (by omega), hrest]
      exact ih (base + 1)
    · rfl

lemma evictLog_size (log : List LoggedUpdate) (base : Nat) :
    (evictLog log base (cost log)).2.2 = cost (evictLog log base (cost log)).1 := by
  induction log generalizing base with
  | nil => rfl
  | cons e log ih =>
    have hcost := cost_cons e log
    have hrest : cost (e :: log) - e.cost = cost log := by omega
    rw [evictLog]
    split
    · rw [hrest]
      exact ih (base + 1)
    · rfl

lemma evictLog_within (log : List LoggedUpdate) (base size : Nat)
    (hsize : size = cost log) :
    (evictLog log base size).1.length ≤ docLogMaxUpdates ∧
      (evictLog log base size).2.2 ≤ docLogMaxBytes := by
  induction log generalizing base size with
  | nil =>
    subst hsize
    exact ⟨Nat.zero_le _, Nat.zero_le _⟩
  | cons e log ih =>
    have hcost := cost_cons e log
    rw [evictLog]
    split
    · exact ih (base + 1) (size - e.cost) (by omega)
    case isFalse hcaps =>
      rw [not_or] at hcaps
      exact ⟨Nat.le_of_not_lt hcaps.1, Nat.le_of_not_lt hcaps.2⟩

/-- The log reaches back to its base, its total is that of its entries, and both caps hold. -/
structure Windowed (st : DocState) : Prop where
  version : st.version = st.logBase + st.log.length
  bytes : st.logBytes = cost st.log
  updates : st.log.length ≤ docLogMaxUpdates
  size : st.logBytes ≤ docLogMaxBytes

/-- A log that starts at the current version. -/
structure Fresh (st : DocState) : Prop where
  log : st.log = []
  base : st.logBase = st.version
  bytes : st.logBytes = 0

lemma fresh_new (text : Text) (stat : FileStat) (now : Instant) : Fresh (new text stat now) :=
  ⟨rfl, rfl, rfl⟩

lemma Fresh.windowed (h : Fresh st) : Windowed st := by
  refine ⟨?_, ?_, ?_, ?_⟩
  · rw [h.base, h.log]
    rfl
  · rw [h.bytes, h.log]
    rfl
  · rw [h.log]
    exact Nat.zero_le _
  · rw [h.bytes]
    exact Nat.zero_le _

lemma Windowed.appendLog (h : Windowed st) (e : LoggedUpdate) :
    Windowed (st.appendLog e) ∧
      evictChecked (st.log ++ [e]) st.logBase (st.logBytes + e.cost) =
        some (evictLog (st.log ++ [e]) st.logBase (st.logBytes + e.cost)) := by
  have hcost : st.logBytes + e.cost = cost (st.log ++ [e]) := by
    rw [h.bytes, cost, cost, map_append, sum_append, map_singleton,
      sum_singleton]
  obtain ⟨k, hk, hlog, hbase⟩ := evictLog_eq (st.log ++ [e]) st.logBase (st.logBytes + e.cost)
  obtain ⟨hupdates, hsize⟩ := evictLog_within (st.log ++ [e]) st.logBase _ hcost
  have hversion := h.version
  refine ⟨⟨?_, ?_, hupdates, hsize⟩, ?_⟩
  · have hl : (st.appendLog e).log = (st.log ++ [e]).drop k := hlog
    have hb : (st.appendLog e).logBase = st.logBase + k := hbase
    have hv : (st.appendLog e).version = st.version + 1 := rfl
    rw [length_append, length_singleton] at hk
    rw [hv, hl, hb, length_drop, length_append, length_singleton]
    omega
  · have hs := evictLog_size (st.log ++ [e]) st.logBase
    rw [← hcost] at hs
    exact hs
  · rw [hcost]
    exact evictChecked_eq _ _

lemma Windowed.appendLogs (h : Windowed st) (es : List LoggedUpdate) :
    Windowed (es.foldl DocState.appendLog st) := by
  induction es generalizing st with
  | nil => exact h
  | cons e es ih => exact ih (h.appendLog e).1

def Sends (st st' : DocState) (id : Nat) (frames : List ServerFrame) : Prop :=
  ∀ sink, st.attaches.lookup id = some sink →
    st'.attaches.lookup id = some { sink with outbox := sink.outbox ++ frames }

lemma sends_sendTo (st : DocState) (id : Nat) (frame : ServerFrame) :
    Sends st (st.sendTo id frame) id [frame] := by
  intro sink hsink
  rw [sendTo, deliver, lookup_mapWithKey, hsink, Option.map_some, if_pos (beq_self_eq_true id)]
  rfl

lemma sends_nothing (st : DocState) (id : Nat) : Sends st st id [] := by
  intro sink hsink
  rw [append_nil]
  exact hsink

def missed (st : DocState) (v : Nat) : List Update :=
  (st.log.drop (v - st.logBase)).map LoggedUpdate.toUpdate

def incremental (v : Nat) (us : List Update) : List ServerFrame :=
  if us = [] then [] else [.updates v us]

lemma Windowed.missed_eq_nil (h : Windowed st) (hbase : st.logBase ≤ v)
    (hv : v ≤ st.version) : st.missed v = [] ↔ v = st.version := by
  have hversion := h.version
  rw [missed, map_eq_nil_iff, drop_eq_nil_iff]
  omega

lemma Windowed.pull_inside (h : Windowed st) (path : Text) (id : Nat)
    (hbase : st.logBase ≤ v) (hv : v ≤ st.version) :
    Sends st (st.pull path id v) id (incremental v (st.missed v)) := by
  have hnil := h.missed_eq_nil hbase hv
  rw [pull, if_pos ⟨hbase, hv⟩, incremental]
  by_cases hlt : v < st.version
  · rw [if_pos hlt, if_neg fun hmissed => Nat.ne_of_lt hlt (hnil.1 hmissed)]
    exact sends_sendTo st id _
  · rw [if_neg hlt, if_pos (hnil.2 (by omega))]
    exact sends_nothing st id

lemma pull_outside (path : Text) (id : Nat) (h : ¬(st.logBase ≤ v ∧ v ≤ st.version)) :
    Sends st (st.pull path id v) id [snapshotFrame path st] := by
  rw [pull, if_neg h]
  exact sends_sendTo st id _

lemma Windowed.registerAttach_inside (h : Windowed st) (path windowId : Text) (id : Nat)
    (hbase : st.logBase ≤ v) (hv : v ≤ st.version) :
    ∃ others : List ServerFrame, (∀ f ∈ others, f.view = .other) ∧
      (st.registerAttach path id windowId (some v)).attaches.lookup id =
        some ⟨incremental v (st.missed v) ++ others, windowId⟩ := by
  have hnil := h.missed_eq_nil hbase hv
  have hsent : (if v < st.version then [updatesFrame v (st.log.drop (v - st.logBase))] else []) =
      incremental v (st.missed v) := by
    rw [incremental]
    by_cases hlt : v < st.version
    · rw [if_pos hlt, if_neg fun hmissed => Nat.ne_of_lt hlt (hnil.1 hmissed)]
      rfl
    · rw [if_neg hlt, if_pos (hnil.2 (by omega))]
  refine ⟨(st.cursors.entries.map fun e =>
      .cursor e.1 e.2.windowId e.2.anchor e.2.head e.2.version) ++
    [conflictFrame st.sessionState.isConflicted st.sessionState.conflictDiskMtimeNs.join,
      flushFrame st], ?_, ?_⟩
  · intro f hf
    rcases List.mem_append.1 hf with hf | hf
    · obtain ⟨e, -, rfl⟩ := List.mem_map.1 hf
      rfl
    · rcases List.mem_pair.1 hf with rfl | rfl <;> rfl
  · rw [registerAttach]
    rw [if_pos ⟨hbase, hv⟩, hsent, AList.lookup_insert, append_assoc]

lemma registerAttach_outside {st : DocState} (path windowId : Text) (id : Nat)
    (h : ¬(st.logBase ≤ v ∧ v ≤ st.version)) :
    (st.registerAttach path id windowId (some v)).attaches.lookup id =
      some ⟨[snapshotFrame path st], windowId⟩ := by
  rw [registerAttach]
  dsimp only
  rw [if_neg h, AList.lookup_insert]

lemma Fresh.missed_appendLogs (h : Fresh st) (es : List LoggedUpdate)
    (hbase : (es.foldl appendLog st).logBase ≤ v) :
    (es.foldl appendLog st).missed v =
      (es.drop (v - st.version)).map LoggedUpdate.toUpdate := by
  obtain ⟨k, hk, hlog, hbase'⟩ := appendLogs_eq es st
  rw [h.log, nil_append] at hk hlog
  rw [hbase', h.base] at hbase
  rw [missed, hlog, hbase', h.base, drop_drop]
  congr 2
  omega

def appended (st : DocState) (es : List LoggedUpdate) (text : Text) : DocState :=
  { es.foldl appendLog st with text := text, len16 := utf16Len text }

/-- The log is a faithful suffix of the history: it keeps its counts and its caps, and from every
version it reaches back to, what a client is sent leads from the text of that version to the current
one. Any other client is sent the text itself. -/
theorem log_faithful_suffix (st : DocState) (hfresh : Fresh st) (limit : Nat)
    (es : List LoggedUpdate) (text : Text)
    (htext : replay (applyUpdate limit) st.text (es.map LoggedUpdate.toUpdate) = some text) :
    Windowed (st.appended es text) ∧
    (∀ before e after, es = before ++ e :: after →
      let s := before.foldl appendLog st
      evictChecked (s.log ++ [e]) s.logBase (s.logBytes + e.cost) =
        some (evictLog (s.log ++ [e]) s.logBase (s.logBytes + e.cost))) ∧
    ∀ path windowId id v,
      ((st.appended es text).logBase ≤ v ∧ v ≤ (st.appended es text).version →
        ∃ t us others,
          replay (applyUpdate limit) st.text
            ((es.take (v - st.version)).map LoggedUpdate.toUpdate) = some t ∧
          replay (applyUpdate limit) t us = some (st.appended es text).text ∧
          Sends (st.appended es text) ((st.appended es text).pull path id v) id
            (incremental v us) ∧
          (∀ f ∈ others, ServerFrame.view f = .other) ∧
          ((st.appended es text).registerAttach path id windowId (some v)).attaches.lookup id =
            some ⟨incremental v us ++ others, windowId⟩) ∧
      (¬((st.appended es text).logBase ≤ v ∧ v ≤ (st.appended es text).version) →
        (snapshotFrame path (st.appended es text)).view =
          .snapshot (st.appended es text).version (st.appended es text).text ∧
        Sends (st.appended es text) ((st.appended es text).pull path id v) id
          [snapshotFrame path (st.appended es text)] ∧
        ((st.appended es text).registerAttach path id windowId (some v)).attaches.lookup id =
          some ⟨[snapshotFrame path (st.appended es text)], windowId⟩) := by
  have hruns := hfresh.windowed.appendLogs es
  have hwindowed : Windowed (st.appended es text) :=
    ⟨hruns.version, hruns.bytes, hruns.updates, hruns.size⟩
  refine ⟨hwindowed, ?_, ?_⟩
  · intro before e after _
    exact ((hfresh.windowed.appendLogs before).appendLog e).2
  · intro path windowId id v
    constructor
    · intro ⟨hbase, hv⟩
      have hmissed : (st.appended es text).missed v =
          (es.drop (v - st.version)).map LoggedUpdate.toUpdate :=
        hfresh.missed_appendLogs es hbase
      -- the history splits at the version the client is at
      rw [← take_append_drop (v - st.version) es, map_append, replay_append] at htext
      obtain ⟨t, ht, hrest⟩ := Option.bind_eq_some_iff.1 htext
      obtain ⟨others, hothers, hattach⟩ :=
        hwindowed.registerAttach_inside path windowId id hbase hv
      refine ⟨t, (st.appended es text).missed v, others, ht, ?_, ?_, hothers, hattach⟩
      · rw [hmissed]
        exact hrest
      · exact hwindowed.pull_inside path id hbase hv
    · intro houtside
      exact ⟨rfl, pull_outside path id houtside, registerAttach_outside path windowId id houtside⟩

/-- An entry over the byte cap evicts itself: a client one version behind gets the text. -/
theorem log_faithful_suffix_oversized : let st := new ['a'] ⟨1, none⟩ 0
    let e : LoggedUpdate := ⟨['c'], ⟨[.retain 1, .edit 0 [['b']]]⟩, docLogMaxBytes + 1⟩
    Windowed (st.appended [e] ['a', 'b']) ∧ (st.appended [e] ['a', 'b']).logBase = 1 ∧
      ((st.appended [e] ['a', 'b']).registerAttach [] 7 ['w'] (some 0)).attaches.lookup 7 =
        some ⟨[snapshotFrame [] (st.appended [e] ['a', 'b'])], ['w']⟩ := by
  intro st e
  have h := log_faithful_suffix st (fresh_new _ _ _) 2 [e] ['a', 'b'] (by decide)
  have hbase : (st.appended [e] ['a', 'b']).logBase = 1 := by decide +kernel
  apply And.intro h.1
  apply And.intro hbase
  exact ((h.2.2 [] ['w'] 7 0).2 (by omega)).2.2

end DocState
end Chan
