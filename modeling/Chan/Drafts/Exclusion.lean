import Chan.Drafts.Gates

namespace Chan.Drafts
open AssocMap Transition Utf AList

variable {gates : Map Nat DraftGate}

namespace Workspace

variable {ws ws' : Workspace} {g k : Nat} {old new gate : DraftGate}

/-- A checked draft is still on disk when its gate is looked up. -/
def Current (ws : Workspace) : Event → Prop
  | .look t => ∀ job ∈ (ws.calls.lookup t).bind (fun
      | .checked job => some job
      | .looked _ _ => none), ws.disk.lookup job.name = some job.id
  | _ => True

instance (ws : Workspace) (e : Event) : Decidable (ws.Current e) := by
  cases e <;> unfold Current <;> infer_instance

/-- A gate belongs to one lifetime, and one that is no longer filed is retired and its draft is
gone. -/
structure Shelved (ws : Workspace) : Prop where
  disk : ∀ n i, ws.disk.lookup n = some i → i ∈ ws.used
  fresh : ∀ g gate, ws.gates.lookup g = some gate → g < ws.next
  used : ∀ g gate, ws.gates.lookup g = some gate → gate.id ∈ ws.used
  filed : ∀ n g, ws.filed.lookup n = some g →
    ∃ gate, ws.gates.lookup g = some gate ∧ gate.name = n
  unfiled : ∀ g gate, ws.gates.lookup g = some gate → ws.filed.lookup gate.name ≠ some g →
    gate.retired = true ∧ ws.disk.lookup gate.name ≠ some gate.id
  unique : ∀ g g' gate gate', ws.gates.lookup g = some gate → ws.gates.lookup g' = some gate' →
    gate.name = gate'.name → gate.id = gate'.id → g = g'
  looked : ∀ t job g, ws.calls.lookup t = some (.looked job g) →
    ∃ gate, ws.gates.lookup g = some gate ∧ gate.name = job.name ∧ gate.id = job.id
  gone : ∀ n i, (n, i) ∈ ws.retired → ∃ g gate, ws.gates.lookup g = some gate ∧ gate.name = n ∧
    gate.id = i ∧ gate.retired = true

structure Counted (ws : Workspace) : Prop where
  fresh : ∀ k p, ws.pins.lookup k = some p → k < ws.next
  pins : ∀ k p, ws.pins.lookup k = some p →
    ∃ gate, ws.gates.lookup p.gate = some gate ∧ gate.name = p.name ∧ gate.id = p.id
  active : ∀ g gate, ws.gates.lookup g = some gate →
    gate.active = countWhere (fun p => decide (p.gate = g)) ws.pins

structure Holds (l : DraftLifecycle) (gate : DraftGate) : Prop where
  name : gate.name = l.name
  id : gate.id = l.id
  closing : gate.closing = true
  retired : gate.retired = true ↔ l.phase = .finished
  drained : l.phase ≠ .draining → gate.active = 0

/-- A gate has one lifecycle at most, and the draft of an open gate is on disk until one removes
it. -/
structure Exclusive (ws : Workspace) : Prop where
  fresh : ∀ k l, ws.lifecycles.lookup k = some l → k < ws.next
  holds : ∀ k l, ws.lifecycles.lookup k = some l →
    ∃ gate, ws.gates.lookup l.gate = some gate ∧ Holds l gate
  one : ∀ k k' l l', ws.lifecycles.lookup k = some l → ws.lifecycles.lookup k' = some l' →
    l.gate = l'.gate → k = k'
  closed : ∀ g gate, ws.gates.lookup g = some gate → gate.retired = true →
    gate.closing = true ∧ gate.active = 0
  present : ∀ g gate, ws.gates.lookup g = some gate → gate.retired = false →
    ws.disk.lookup gate.name = some gate.id ∨
      ∃ k l, ws.lifecycles.lookup k = some l ∧ l.gate = g ∧ l.phase = .held

structure Regated (ws ws' : Workspace) (g : Nat) (old new : DraftGate) : Prop where
  was : ws.gates.lookup g = some old
  self : ws'.gates.lookup g = some new
  other : ∀ k, k ≠ g → ws'.gates.lookup k = ws.gates.lookup k
  name : new.name = old.name
  id : new.id = old.id
  retired : old.retired = true → new.retired = true

lemma regated_refl (h : ws.gates.lookup g = some gate) (hgates : ws'.gates = ws.gates) :
    Regated ws ws' g gate gate :=
  ⟨h, hgates ▸ h, fun _ _ => by rw [hgates], rfl, rfl, fun hr => hr⟩

lemma regated_insert (h : ws.gates.lookup g = some old)
    (hgates : ws'.gates = ws.gates.insert g new) (hname : new.name = old.name)
    (hid : new.id = old.id) (hretired : old.retired = true → new.retired = true) :
    Regated ws ws' g old new :=
  ⟨h, by grind, by grind, hname, hid, hretired⟩

lemma Regated.cases (h : Regated ws ws' g old new) (hg : ws'.gates.lookup k = some gate) :
    (k = g ∧ gate = new) ∨ (k ≠ g ∧ ws.gates.lookup k = some gate) := by
  grind [h.self, h.other]

@[grind →]
lemma Regated.before (h : Regated ws ws' g old new) (hg : ws'.gates.lookup k = some gate) :
    ∃ was, ws.gates.lookup k = some was ∧ gate.name = was.name ∧ gate.id = was.id ∧
      (was.retired = true → gate.retired = true) := by
  rcases h.cases hg with ⟨rfl, rfl⟩ | ⟨-, hold⟩
  · exact ⟨old, h.was, h.name, h.id, h.retired⟩
  · exact ⟨gate, hold, rfl, rfl, fun hr => hr⟩

@[grind →]
lemma Regated.after (h : Regated ws ws' g old new) (hg : ws.gates.lookup k = some gate) :
    ∃ now, ws'.gates.lookup k = some now ∧ now.name = gate.name ∧ now.id = gate.id ∧
      (gate.retired = true → now.retired = true) := by
  by_cases hk : k = g
  · subst hk
    cases hg.symm.trans h.was
    exact ⟨new, h.self, h.name, h.id, h.retired⟩
  · exact ⟨gate, (h.other k hk).trans hg, rfl, rfl, fun hr => hr⟩

lemma Shelved.regated (h : Shelved ws) (hg : Regated ws ws' g old new)
    (hdisk : ws'.disk = ws.disk) (hused : ws'.used = ws.used) (hfiled : ws'.filed = ws.filed)
    (hcalls : ∀ t job k, ws'.calls.lookup t = some (.looked job k) →
      ws.calls.lookup t = some (.looked job k))
    (hnext : ws.next ≤ ws'.next)
    (hretired : ∀ n i, (n, i) ∈ ws'.retired → (n, i) ∈ ws.retired ∨
      n = new.name ∧ i = new.id ∧ new.retired = true) : Shelved ws' := by
  constructor
  · grind [h.disk]
  · intro k gate hk
    obtain ⟨was, hwas, -⟩ := hg.before hk
    exact Nat.lt_of_lt_of_le (h.fresh k was hwas) hnext
  · grind [h.used]
  · grind [h.filed]
  · grind [h.unfiled]
  · grind [h.unique]
  · grind [h.looked]
  · grind [h.gone, hg.self]

lemma Counted.regated (h : Counted ws) (hg : Regated ws ws' g old new)
    (hactive : new.active = old.active) (hpins : ws'.pins = ws.pins) (hnext : ws.next ≤ ws'.next) :
    Counted ws' := by
  refine ⟨?_, ?_, ?_⟩ <;> rw [hpins]
  · exact fun k p hp => Nat.lt_of_lt_of_le (h.fresh k p hp) hnext
  · grind [h.pins]
  · intro k gate hk
    rcases hg.cases hk with ⟨rfl, rfl⟩ | ⟨-, hold⟩
    · rw [hactive]
      exact h.active _ _ hg.was
    · exact h.active k gate hold

lemma Exclusive.regated (h : Exclusive ws) (hg : Regated ws ws' g old new)
    (hdisk : ws'.disk = ws.disk) (hnext : ws.next ≤ ws'.next)
    (hkeeps : ∀ k l, ws.lifecycles.lookup k = some l → l.gate ≠ g →
      ws'.lifecycles.lookup k = some l)
    (hlifecycles : ∀ k l, ws'.lifecycles.lookup k = some l →
      (l.gate ≠ g ∧ ws.lifecycles.lookup k = some l) ∨
        (l.gate = g ∧ k < ws'.next ∧ Holds l new))
    (hone : ∀ k k' l l', ws'.lifecycles.lookup k = some l → ws'.lifecycles.lookup k' = some l' →
      l.gate = g → l'.gate = g → k = k')
    (hclosed : new.retired = true → new.closing = true ∧ new.active = 0)
    (hpresent : new.retired = false → ws.disk.lookup new.name = some new.id ∨
      ∃ k l, ws'.lifecycles.lookup k = some l ∧ l.gate = g ∧ l.phase = .held) :
    Exclusive ws' := by
  constructor
  · intro k l hl
    rcases hlifecycles k l hl with ⟨-, hold⟩ | ⟨-, hlt, -⟩
    · exact Nat.lt_of_lt_of_le (h.fresh k l hold) hnext
    · exact hlt
  · grind [h.holds, hg.other, hg.self]
  · grind [h.one]
  · grind [hg.cases, h.closed]
  · intro k gate hk hretired
    rw [hdisk]
    rcases hg.cases hk with ⟨rfl, rfl⟩ | ⟨hne, hold⟩
    · exact hpresent hretired
    · grind [h.present]

structure Sound (ws : Workspace) : Prop where
  shelved : Shelved ws
  counted : Counted ws
  exclusive : Exclusive ws

lemma sound_opened (disk : Map DraftName DraftId) : Sound (opened disk) := by
  refine ⟨⟨?_, nofun, nofun, nofun, nofun, nofun, nofun, nofun⟩, ⟨nofun, nofun, nofun⟩,
    ⟨nofun, nofun, nofun, nofun, nofun⟩⟩
  intro n i hi
  apply List.mem_cons_of_mem
  exact List.mem_map.2 ⟨⟨n, i⟩, AList.mem_lookup_iff.1 hi, rfl⟩

lemma Sound.called (h : Sound ws) (calls : Map Nat Stage)
    (hcalls : ∀ t job g, calls.lookup t = some (.looked job g) →
      ws.calls.lookup t = some (.looked job g) ∨
        ∃ gate, ws.gates.lookup g = some gate ∧ gate.name = job.name ∧ gate.id = job.id) :
    Sound { ws with calls := calls } :=
  ⟨{ h.shelved with
      looked := fun t job g ht => (hcalls t job g ht).elim (h.shelved.looked t job g)
        fun hx => hx },
    { h.counted with }, { h.exclusive with }⟩

lemma Sound.endCall (h : Sound ws) (t : Nat) : Sound (ws.endCall t) :=
  h.called _ fun _ _ _ hlooked => .inl (lookup_erase_eq_some hlooked).2

lemma Sound.check (h : Sound ws) (hstep : ws.check t job = some ws') : Sound ws' := by
  obtain ⟨-, ⟨⟩⟩ := Option.ite_none_right_eq_some.1 hstep
  apply h.called
  grind

lemma gate_cases (h : Shelved ws) (n : DraftName) (i : DraftId) :
    ws.gate n i = none ∨
      (∃ g x, ws.gates.lookup g = some x ∧ x.name = n ∧ x.id = i ∧
        ws.filed.lookup n = some g ∧ ws.gate n i = some (ws, g)) ∨
      ((∀ g x, ws.filed.lookup n = some g → ws.gates.lookup g = some x →
          x.id ≠ i ∧ x.idle = true) ∧ ws.gate n i = some (ws.file n i, ws.next)) := by
  cases hfiled : ws.filed.lookup n with
  | none => grind [gate]
  | some g =>
    obtain ⟨x, hx, hname⟩ := h.filed n g hfiled
    grind [gate]

lemma Exclusive.retired_of_idle (h : Exclusive ws) (hg : ws.gates.lookup g = some gate)
    (hidle : gate.idle = true) (hdisk : ws.disk.lookup gate.name ≠ some gate.id) :
    gate.retired = true := by
  by_contra hopen
  rw [Bool.not_eq_true] at hopen
  rcases h.present g gate hg hopen with hthere | ⟨k, l, hl, rfl, -⟩
  · exact hdisk hthere
  · obtain ⟨x, hx, hholds⟩ := h.holds k l hl
    cases hx.symm.trans hg
    rw [DraftGate.idle, hholds.closing, hopen] at hidle
    simp at hidle

lemma Sound.file (h : Sound ws) (hdisk : ws.disk.lookup n = some i)
    (hidle : ∀ g x, ws.filed.lookup n = some g → ws.gates.lookup g = some x →
      x.id ≠ i ∧ x.idle = true) : Sound (ws.file n i) := by
  obtain ⟨hs, hc, he⟩ := h
  have hcases : ∀ g x, (ws.file n i).gates.lookup g = some x →
      (g = ws.next ∧ x = { name := n, id := i }) ∨ (g ≠ ws.next ∧ ws.gates.lookup g = some x) :=
    fun g x hx => lookup_insert_eq_some hx
  have hold : ∀ g x, ws.gates.lookup g = some x → (ws.file n i).gates.lookup g = some x := by
    intro g x hx
    exact (lookup_insert_ne (Nat.ne_of_lt (hs.fresh g x hx))).trans hx
  -- no gate of this lifetime was there: a filed one would have been found, an unfiled one is past
  have habsent : ∀ g x, ws.gates.lookup g = some x → x.name = n → x.id ≠ i := by
    intro g x hx hname hid
    subst hname hid
    by_cases hfiled : ws.filed.lookup x.name = some g
    · exact (hidle g x hfiled hx).1 rfl
    · exact (hs.unfiled g x hx hfiled).2 hdisk
  refine ⟨⟨hs.disk, ?_, ?_, ?_, ?_, ?_, ?_, ?_⟩,
    ⟨fun k p hp => Nat.lt_succ_of_lt (hc.fresh k p hp), ?_, ?_⟩,
    ⟨fun k l hl => Nat.lt_succ_of_lt (he.fresh k l hl), ?_, he.one, ?_, ?_⟩⟩
  · intro g x hx
    rcases hcases g x hx with ⟨rfl, -⟩ | ⟨-, hx⟩
    · exact Nat.lt_succ_self _
    · exact Nat.lt_succ_of_lt (hs.fresh g x hx)
  · grind [hs.disk, hs.used, file]
  · intro m g hg
    rcases lookup_insert_eq_some hg with ⟨rfl, rfl⟩ | ⟨-, hg⟩
    · exact ⟨_, lookup_insert _, rfl⟩
    · obtain ⟨x, hx, hname⟩ := hs.filed m g hg
      exact ⟨x, hold g x hx, hname⟩
  · intro g x hx hfile
    rcases hcases g x hx with ⟨rfl, rfl⟩ | ⟨-, hx⟩
    · exact absurd (lookup_insert _) hfile
    · by_cases hname : x.name = n
      · have hgone : ws.disk.lookup x.name ≠ some x.id := by
          grind
        refine ⟨?_, hgone⟩
        by_cases hfiled : ws.filed.lookup n = some g
        · exact he.retired_of_idle hx (hidle g x hfiled hx).2 hgone
        · exact (hs.unfiled g x hx (hname ▸ hfiled)).1
      · apply hs.unfiled g x hx
        intro hfiled
        exact hfile ((lookup_insert_ne hname).trans hfiled)
  · grind [hs.unique]
  · grind [hs.looked, file]
  · grind [hs.gone, file]
  · grind [hc.pins, file]
  · intro g x hx
    rcases hcases g x hx with ⟨rfl, rfl⟩ | ⟨-, hx⟩
    · apply Eq.symm
      apply Nat.eq_zero_of_not_pos
      intro hpos
      obtain ⟨e, he, hgate⟩ := countWhere_pos_iff.1 hpos
      obtain ⟨x, hx, -⟩ := hc.pins e.1 e.2 (AList.mem_lookup_iff.2 he)
      exact Nat.lt_irrefl _ (of_decide_eq_true hgate ▸ hs.fresh _ x hx)
    · exact hc.active g x hx
  · grind [he.holds, file]
  · grind [he.closed]
  · grind [he.present, file]

lemma Sound.look (h : Sound ws) (hcurrent : ws.Current (.look t))
    (hstep : ws.look t = some ws') : Sound ws' := by
  rw [Workspace.look] at hstep
  cases hcall : ws.calls.lookup t with
  | none => rw [hcall] at hstep; cases hstep
  | some stage =>
    cases stage with
    | looked job g => rw [hcall] at hstep; cases hstep
    | checked job =>
      have hdisk : ws.disk.lookup job.name = some job.id := by
        apply hcurrent job
        rw [hcall]
        rfl
      rw [hcall] at hstep
      dsimp only at hstep
      rcases gate_cases h.shelved job.name job.id with
        hgate | ⟨g, x, hx, hname, hid, -, hgate⟩ | ⟨hidle, hgate⟩
      · rw [hgate] at hstep
        cases hstep
        exact h.endCall t
      · rw [hgate] at hstep
        cases hstep
        apply h.called
        grind
      · rw [hgate] at hstep
        cases hstep
        apply (h.file hdisk hidle).called
        intro s job' g hlooked
        rcases lookup_insert_eq_some hlooked with ⟨-, heq⟩ | ⟨-, hold⟩
        · cases heq
          exact .inr ⟨_, lookup_insert _, rfl, rfl⟩
        · exact .inl hold

lemma enter_cases (hstep : ws.enter t = some ws') :
    ∃ job g gate, ws.calls.lookup t = some (.looked job g) ∧ ws.gates.lookup g = some gate ∧
      (ws' = ws.endCall t ∨ gate.closing = false ∧ gate.retired = false ∧
        (ws' = { (ws.setGate g { gate with active := gate.active + 1 }).endCall t with
            pins := ws.pins.insert ws.next ⟨job.name, job.id, g⟩
            next := ws.next + 1 } ∨
          ws' = { (ws.setGate g { gate with closing := true }).endCall t with
            lifecycles := ws.lifecycles.insert ws.next { name := job.name, id := job.id, gate := g }
            next := ws.next + 1 })) := by
  rw [Workspace.enter] at hstep
  cases hcall : ws.calls.lookup t with
  | none => rw [hcall] at hstep; cases hstep
  | some stage =>
    cases stage with
    | checked job => rw [hcall] at hstep; cases hstep
    | looked job g =>
      rw [hcall] at hstep
      obtain ⟨gate, hgate, rfl⟩ := Option.map_eq_some_iff.1 hstep
      refine ⟨job, g, gate, rfl, hgate, ?_⟩
      by_cases hclosed : (gate.closing || gate.retired) = true
      · exact .inl (if_pos hclosed)
      · rw [if_neg hclosed]
        rw [Bool.not_eq_true, Bool.or_eq_false_iff] at hclosed
        refine .inr ⟨hclosed.1, hclosed.2, ?_⟩
        cases job.call with
        | pinDraft => exact .inl rfl
        | beginDraftLifecycle => exact .inr rfl
        | discardBrokenDraft => exact .inr rfl

lemma Exclusive.none_on_open (h : Exclusive ws) (hg : ws.gates.lookup g = some gate)
    (hopen : gate.closing = false) (hl : ws.lifecycles.lookup k = some l) : l.gate ≠ g := by
  intro heq
  obtain ⟨x, hx, hholds⟩ := h.holds k l hl
  cases (heq ▸ hx).symm.trans hg
  cases hholds.closing.symm.trans hopen

lemma Exclusive.present_on_open (h : Exclusive ws) (hg : ws.gates.lookup g = some gate)
    (hopen : gate.closing = false) (hretired : gate.retired = false) :
    ws.disk.lookup gate.name = some gate.id := by
  rcases h.present g gate hg hretired with hdisk | ⟨k, l, hl, heq, -⟩
  · exact hdisk
  · exact absurd heq (h.none_on_open hg hopen hl)

lemma Sound.enterPin (h : Sound ws) (hgate : ws.gates.lookup g = some gate)
    (hname : gate.name = n) (hid : gate.id = i) (hopen : gate.closing = false)
    (hretired : gate.retired = false) :
    Sound { (ws.setGate g { gate with active := gate.active + 1 }).endCall t with
      pins := ws.pins.insert ws.next ⟨n, i, g⟩
      next := ws.next + 1 } := by
  obtain ⟨hs, hc, he⟩ := h
  have hg : Regated ws { (ws.setGate g { gate with active := gate.active + 1 }).endCall t with
      pins := ws.pins.insert ws.next ⟨n, i, g⟩
      next := ws.next + 1 } g gate { gate with active := gate.active + 1 } :=
    regated_insert hgate rfl rfl rfl fun hr => hr
  have hfree : ws.pins.lookup ws.next = none := by
    cases hp : ws.pins.lookup ws.next with
    | none => rfl
    | some p => exact absurd (hc.fresh _ p hp) (Nat.lt_irrefl _)
  have hdisk := he.present_on_open hgate hopen hretired
  refine ⟨?_, ⟨?_, ?_, ?_⟩, ?_⟩
  · exact hs.regated hg rfl rfl rfl (fun s job k hk => (lookup_erase_eq_some hk).2) (Nat.le_succ _)
      fun n i hm => .inl hm
  · intro k p hp
    rcases lookup_insert_eq_some hp with ⟨rfl, -⟩ | ⟨-, hp⟩
    · exact Nat.lt_succ_self _
    · exact Nat.lt_succ_of_lt (hc.fresh k p hp)
  · intro k p hp
    rcases lookup_insert_eq_some hp with ⟨-, rfl⟩ | ⟨-, hp⟩
    · exact ⟨_, hg.self, hname, hid⟩
    · grind [hc.pins]
  · intro k x hx
    change x.active = countWhere (fun p => decide (p.gate = k)) (ws.pins.insert ws.next ⟨n, i, g⟩)
    rw [countWhere_insert _ hfree]
    rcases hg.cases hx with ⟨rfl, rfl⟩ | ⟨hne, hx⟩
    · grind [hc.active]
    · grind [hc.active]
  · refine he.regated hg rfl (Nat.le_succ _) (fun k l hl _ => hl) ?_ ?_ ?_ ?_
    · exact fun k l hl => .inl ⟨he.none_on_open hgate hopen hl, hl⟩
    · exact fun k k' l l' hl _ heq _ => absurd heq (he.none_on_open hgate hopen hl)
    · exact fun hr => nomatch hretired.symm.trans hr
    · exact fun _ => .inl hdisk

lemma Sound.relocked (h : Sound ws) {calls : Map Nat Stage}
    {lifecycles : Map Nat DraftLifecycle} {gone : List (DraftName × DraftId)}
    (hg : Regated ws { ws with gates, calls, lifecycles, retired := gone, next := n } g gate new)
    (hactive : new.active = gate.active) (hnext : ws.next ≤ n)
    (hcalls : ∀ t job k, calls.lookup t = some (.looked job k) →
      ws.calls.lookup t = some (.looked job k))
    (hmine : ∀ j l, ws.lifecycles.lookup j = some l → l.gate = g → j = k)
    (hothers : ∀ j, j ≠ k → lifecycles.lookup j = ws.lifecycles.lookup j)
    (hleft : ∀ l, lifecycles.lookup k = some l → l.gate = g ∧ k < n ∧ Holds l new)
    (hfree : ∀ l, ws.lifecycles.lookup k = some l → l.gate = g)
    (hretired : ∀ n i, (n, i) ∈ gone → (n, i) ∈ ws.retired ∨
      n = new.name ∧ i = new.id ∧ new.retired = true)
    (hclosed : new.retired = true → new.closing = true ∧ new.active = 0)
    (hpresent : new.retired = false → ws.disk.lookup new.name = some new.id ∨
      ∃ l, lifecycles.lookup k = some l ∧ l.phase = .held) :
    Sound { ws with gates, calls, lifecycles, retired := gone, next := n } := by
  refine ⟨h.shelved.regated hg rfl rfl rfl hcalls hnext hretired,
    h.counted.regated hg hactive rfl hnext,
    h.exclusive.regated hg rfl hnext ?_ ?_ ?_ hclosed ?_⟩
  · grind
  · intro j l hl
    by_cases hj : j = k
    · exact .inr (hj ▸ hleft l (hj ▸ hl))
    · have hold := (hothers j hj).symm.trans hl
      exact .inl ⟨fun heq => hj (hmine j l hold heq), hold⟩
  · grind
  · grind

lemma Sound.enterLifecycle (h : Sound ws) (hgate : ws.gates.lookup g = some gate)
    (hname : gate.name = n) (hid : gate.id = i) (hopen : gate.closing = false)
    (hretired : gate.retired = false) :
    Sound { (ws.setGate g { gate with closing := true }).endCall t with
      lifecycles := ws.lifecycles.insert ws.next { name := n, id := i, gate := g }
      next := ws.next + 1 } := by
  have hdisk := h.exclusive.present_on_open hgate hopen hretired
  have hnone := fun j l => h.exclusive.none_on_open (k := j) (l := l) hgate hopen
  refine h.relocked (k := ws.next)
    (regated_insert hgate rfl rfl rfl id : Regated ws _ g gate { gate with closing := true })
    rfl (Nat.le_succ _)
    (fun s job k hk => (lookup_erase_eq_some hk).2) (fun j l hl heq => absurd heq (hnone j l hl))
    (fun j hj => lookup_insert_ne hj) ?_
    (fun l hl => absurd (h.exclusive.fresh _ l hl) (Nat.lt_irrefl _)) (fun n i hm => .inl hm)
    (fun hr => nomatch hretired.symm.trans hr)
    (fun _ => .inl hdisk)
  intro l hl
  cases (lookup_insert _).symm.trans hl
  refine ⟨rfl, Nat.lt_succ_self _, hname, hid, rfl, ?_, fun hne => absurd rfl hne⟩
  rw [show gate.retired = true ↔ False by simp [hretired]]
  exact ⟨nofun, nofun⟩

lemma Sound.enter (h : Sound ws) (hstep : ws.enter t = some ws') : Sound ws' := by
  obtain ⟨job, g, gate, hcall, hgate, hout⟩ := enter_cases hstep
  obtain ⟨x, hx, hname, hid⟩ := h.shelved.looked t job g hcall
  cases hgate.symm.trans hx
  rcases hout with rfl | ⟨hopen, hretired, rfl | rfl⟩
  · exact h.endCall t
  · exact h.enterPin hgate hname hid hopen hretired
  · exact h.enterLifecycle hgate hname hid hopen hretired

lemma find_eq_some (h : ws.find k = some (l, gate)) :
    ws.lifecycles.lookup k = some l ∧ ws.gates.lookup l.gate = some gate := by
  obtain ⟨l', hl, hgate⟩ := Option.bind_eq_some_iff.1 h
  obtain ⟨x, hx, heq⟩ := Option.map_eq_some_iff.1 hgate
  cases heq
  exact ⟨hl, hx⟩

lemma Exclusive.holds_of_find (h : Exclusive ws) (hl : ws.lifecycles.lookup k = some l)
    (hgate : ws.gates.lookup l.gate = some gate) : Holds l gate := by
  obtain ⟨x, hx, hholds⟩ := h.holds k l hl
  cases hgate.symm.trans hx
  exact hholds

lemma Sound.rephase (h : Sound ws) (hl : ws.lifecycles.lookup k = some l)
    {gone : List (DraftName × DraftId)}
    (hg : Regated ws { ws with
      gates := gates
      lifecycles := ws.lifecycles.insert k { l with phase := phase }
      retired := gone } l.gate gate new) (hactive : new.active = gate.active)
    (hretired : ∀ n i, (n, i) ∈ gone → (n, i) ∈ ws.retired ∨
      n = new.name ∧ i = new.id ∧ new.retired = true)
    (hholds : Holds { l with phase := phase } new) (hdraining : phase ≠ .draining)
    (hpresent : new.retired = false → phase = .held) :
    Sound { ws with
      gates := gates
      lifecycles := ws.lifecycles.insert k { l with phase := phase }
      retired := gone } := by
  refine h.relocked (k := k) hg hactive (Nat.le_refl _) (fun _ _ _ hk => hk)
    (fun j x hx heq => h.exclusive.one j k x l hx hl heq) (fun j hj => lookup_insert_ne hj)
    ?_ (fun x hx => by cases hl.symm.trans hx; rfl) hretired
    (fun _ => ⟨hholds.closing, hholds.drained hdraining⟩)
    fun hr => .inr ⟨{ l with phase := phase }, lookup_insert _, hpresent hr⟩
  intro x hx
  cases (lookup_insert _).symm.trans hx
  exact ⟨rfl, h.exclusive.fresh k l hl, hholds⟩

lemma Sound.unlock (h : Sound ws) (hl : ws.lifecycles.lookup k = some l)
    (hg : Regated ws { ws with gates := gates, lifecycles := ws.lifecycles.erase k } l.gate gate
      new)
    (hactive : new.active = gate.active)
    (hclosed : new.retired = true → new.closing = true ∧ new.active = 0)
    (hpresent : new.retired = false → ws.disk.lookup new.name = some new.id) :
    Sound { ws with gates := gates, lifecycles := ws.lifecycles.erase k } :=
  h.relocked (k := k) hg hactive (Nat.le_refl _) (fun _ _ _ hk => hk)
    (fun j x hx heq => h.exclusive.one j k x l hx hl heq) (fun j hj => lookup_erase_ne hj)
    (fun x hx => nomatch (lookup_erase _ _).symm.trans hx)
    (fun x hx => by cases hl.symm.trans hx; rfl) (fun _ _ hm => .inl hm) hclosed
    fun hr => .inl (hpresent hr)

lemma Sound.drain (h : Sound ws) (hstep : ws.drain k = some ws') : Sound ws' := by
  obtain ⟨⟨l, gate⟩, hfind, hstep⟩ := Option.bind_eq_some_iff.1 hstep
  obtain ⟨⟨hphase, hactive⟩, ⟨⟩⟩ := Option.ite_none_right_eq_some.1 hstep
  obtain ⟨hl, hgate⟩ := find_eq_some hfind
  have hholds := h.exclusive.holds_of_find hl hgate
  refine h.rephase hl (regated_refl hgate rfl) rfl (fun _ _ hm => .inl hm)
    ⟨hholds.name, hholds.id, hholds.closing, ?_, fun _ => hactive⟩ nofun fun _ => rfl
  rw [hholds.retired, hphase]
  exact ⟨nofun, nofun⟩

lemma Exclusive.present_of_draining (h : Exclusive ws) (hl : ws.lifecycles.lookup k = some l)
    (hgate : ws.gates.lookup l.gate = some gate) (hphase : l.phase = .draining) :
    gate.retired = false ∧ ws.disk.lookup gate.name = some gate.id := by
  have hholds := h.holds_of_find hl hgate
  have hretired : gate.retired = false := by
    rw [← Bool.not_eq_true, hholds.retired, hphase]
    nofun
  apply And.intro hretired
  rcases h.present l.gate gate hgate hretired with hdisk | ⟨j, x, hx, heq, hheld⟩
  · exact hdisk
  · cases h.one j k x l hx hl heq
    cases hx.symm.trans hl
    rw [hphase] at hheld
    cases hheld

lemma Sound.timeout (h : Sound ws) (hstep : ws.timeout k = some ws') : Sound ws' := by
  obtain ⟨⟨l, gate⟩, hfind, hstep⟩ := Option.bind_eq_some_iff.1 hstep
  obtain ⟨⟨hphase, -⟩, ⟨⟩⟩ := Option.ite_none_right_eq_some.1 hstep
  obtain ⟨hl, hgate⟩ := find_eq_some hfind
  obtain ⟨hretired, hdisk⟩ := h.exclusive.present_of_draining hl hgate hphase
  exact h.unlock hl (regated_insert hgate rfl rfl rfl fun hr => hr) rfl
    (fun hr => nomatch hretired.symm.trans hr) fun _ => hdisk

lemma Sound.retire (h : Sound ws) (hstep : ws.retire k = some ws') : Sound ws' := by
  obtain ⟨⟨l, gate⟩, hfind, hstep⟩ := Option.bind_eq_some_iff.1 hstep
  obtain ⟨hphase, ⟨⟩⟩ := Option.ite_none_right_eq_some.1 hstep
  obtain ⟨hl, hgate⟩ := find_eq_some hfind
  have hholds := h.exclusive.holds_of_find hl hgate
  refine h.rephase hl (regated_insert hgate rfl rfl rfl fun _ => rfl) rfl ?_
    ⟨hholds.name, hholds.id, hholds.closing, ⟨fun _ => rfl, fun _ => rfl⟩,
      fun _ => hholds.drained hphase⟩ nofun nofun
  intro n i hmem
  rcases List.mem_cons.1 hmem with heq | hmem
  · cases heq
    exact .inr ⟨hholds.name.symm, hholds.id.symm, rfl⟩
  · exact .inl hmem

lemma dropLifecycle_cases (hstep : ws.dropLifecycle k = some ws') :
    ∃ l gate, ws.lifecycles.lookup k = some l ∧ ws.gates.lookup l.gate = some gate ∧
      ((l.phase = .held ∧ ws.disk.lookup l.name = some l.id ∧
        ws' = { ws.setGate l.gate { gate with closing := false } with
          lifecycles := ws.lifecycles.erase k }) ∨
      (l.phase = .finished ∧ ws' = { ws with lifecycles := ws.lifecycles.erase k })) := by
  obtain ⟨⟨l, gate⟩, hfind, hstep⟩ := Option.bind_eq_some_iff.1 hstep
  obtain ⟨hl, hgate⟩ := find_eq_some hfind
  refine ⟨l, gate, hl, hgate, ?_⟩
  cases hphase : l.phase <;> grind

section
variable (h : Sound ws)
include h

lemma Sound.dropLifecycle (hstep : ws.dropLifecycle k = some ws') :
    Sound ws' := by
  obtain ⟨l, gate, hl, hgate, hout⟩ := dropLifecycle_cases hstep
  have hholds := h.exclusive.holds_of_find hl hgate
  rcases hout with ⟨hphase, hdisk, rfl⟩ | ⟨hphase, rfl⟩
  · refine h.unlock hl (regated_insert hgate rfl rfl rfl fun hr => hr) rfl ?_ ?_
    · intro hr
      rw [hholds.retired, hphase] at hr
      cases hr
    · intro _
      rw [← hholds.name, ← hholds.id] at hdisk
      exact hdisk
  · have hretired : gate.retired = true := hholds.retired.2 hphase
    exact h.unlock hl (regated_refl hgate rfl) rfl
      (fun _ => h.exclusive.closed l.gate gate hgate hretired)
      fun hr => nomatch hretired.symm.trans hr

lemma Sound.dropPin (hstep : ws.dropPin k = some ws') : Sound ws' := by
  obtain ⟨p, hp, hstep⟩ := Option.bind_eq_some_iff.1 hstep
  obtain ⟨gate, hgate, rfl⟩ := Option.map_eq_some_iff.1 hstep
  obtain ⟨hs, hc, he⟩ := h
  have hg : Regated ws { ws.setGate p.gate { gate with active := gate.active - 1 } with
      pins := ws.pins.erase k } p.gate gate { gate with active := gate.active - 1 } :=
    regated_insert hgate rfl rfl rfl fun hr => hr
  refine ⟨hs.regated hg rfl rfl rfl (fun _ _ _ hk => hk) (Nat.le_refl _) fun n i hm => .inl hm,
    ⟨fun j q hq => hc.fresh j q (lookup_erase_eq_some hq).2, ?_, ?_⟩, ?_⟩
  · grind [hc.pins]
  · intro g x hx
    change x.active = countWhere (fun q => decide (q.gate = g)) (ws.pins.erase k)
    have hcount := countWhere_erase (fun q => decide (q.gate = g)) hp
    rcases hg.cases hx with ⟨rfl, rfl⟩ | ⟨hne, hx⟩
    · grind [hc.active]
    · grind [hc.active]
  · refine he.regated hg rfl (Nat.le_refl _) (fun _ _ hl _ => hl) ?_ ?_ ?_ ?_
    · intro j l hl
      by_cases heq : l.gate = p.gate
      · have hholds := he.holds_of_find hl (heq ▸ hgate)
        refine .inr ⟨heq, he.fresh j l hl, hholds.name, hholds.id, hholds.closing,
          hholds.retired, fun hphase => ?_⟩
        exact Nat.sub_eq_zero_of_le (hholds.drained hphase ▸ Nat.zero_le 1)
      · exact .inl ⟨heq, hl⟩
    · exact fun j j' l l' hl hl' heq heq' => he.one j j' l l' hl hl' (heq.trans heq'.symm)
    · intro hr
      obtain ⟨hclosing, hzero⟩ := he.closed p.gate gate hgate hr
      exact ⟨hclosing, Nat.sub_eq_zero_of_le (hzero ▸ Nat.zero_le 1)⟩
    · exact fun hr => he.present p.gate gate hgate hr

lemma Sound.remove (hstep : ws.remove k = some ws') : Sound ws' := by
  obtain ⟨l, hl, hstep⟩ := Option.bind_eq_some_iff.1 hstep
  obtain ⟨⟨hphase, hdisk⟩, ⟨⟩⟩ := Option.ite_none_right_eq_some.1 hstep
  obtain ⟨gate, hgate, hholds⟩ := h.exclusive.holds k l hl
  refine ⟨{ h.shelved with
      disk := fun n i hi => h.shelved.disk n i (lookup_erase_eq_some hi).2
      unfiled := ?_ }, { h.counted with }, { h.exclusive with present := ?_ }⟩
  · intro g x hx hfile
    obtain ⟨hretired, hgone⟩ := h.shelved.unfiled g x hx hfile
    exact ⟨hretired, fun hi => hgone (lookup_erase_eq_some hi).2⟩
  · intro g x hx hretired
    rcases h.exclusive.present g x hx hretired with hthere | hheld
    · by_cases hname : x.name = l.name
      · -- the draft that goes is the one of this gate, and its lifecycle is held
        rw [hname, hdisk, Option.some.injEq] at hthere
        have heq := h.shelved.unique l.gate g gate x hgate hx (hholds.name.trans hname.symm)
          (hholds.id.trans hthere)
        exact .inr ⟨k, l, hl, heq, hphase⟩
      · exact .inl ((lookup_erase_ne hname).trans hthere)
    · exact .inr hheld

lemma Sound.create (hstep : ws.create n i = some ws') : Sound ws' := by
  obtain ⟨⟨hfree, hfresh⟩, ⟨⟩⟩ := Option.ite_none_right_eq_some.1 hstep
  refine ⟨{ h.shelved with
      disk := ?_
      used := fun g x hx => List.mem_cons_of_mem _ (h.shelved.used g x hx)
      unfiled := ?_ }, { h.counted with }, { h.exclusive with present := ?_ }⟩
  · grind [h.shelved.disk]
  · grind [h.shelved.unfiled, h.shelved.used]
  · intro g x hx hretired
    rcases h.exclusive.present g x hx hretired with hthere | hheld
    · have hname : x.name ≠ n := by
        intro heq
        rw [heq, hfree] at hthere
        cases hthere
      exact .inl ((lookup_insert_ne hname).trans hthere)
    · exact .inr hheld

lemma Sound.step (hcurrent : ws.Current e) (hstep : ws.step e = some ws') :
    Sound ws' := by
  cases e with
  | check t job => exact h.check hstep
  | look t => exact h.look hcurrent hstep
  | enter t => exact h.enter hstep
  | drain k => exact h.drain hstep
  | timeout k => exact h.timeout hstep
  | dropPin k => exact h.dropPin hstep
  | remove k => exact h.remove hstep
  | retire k => exact h.retire hstep
  | dropLifecycle k => exact h.dropLifecycle hstep
  | create name id => exact h.create hstep

lemma Sound.pin_granted (hgate : ws.gates.lookup g = some gate)
    (hopen : gate.closing = false) (hretired : gate.retired = false) (hid : gate.id ≠ brokenId)
    (hidle : ws.calls.lookup t = none) :
    ∃ ws' k, exec Workspace.step ws
        [.check t ⟨.pinDraft, gate.name, gate.id⟩, .look t, .enter t] = some ws' ∧
      ws'.pins.lookup k = some ⟨gate.name, gate.id, g⟩ := by
  have hfiled : ws.filed.lookup gate.name = some g := by
    by_contra hfile
    rw [(h.shelved.unfiled g gate hgate hfile).1] at hretired
    cases hretired
  have hdisk := h.exclusive.present_on_open hgate hopen hretired
  have hcall : (Call.pinDraft = .discardBrokenDraft) ↔ gate.id = brokenId := ⟨nofun, (absurd · hid)⟩
  let checked := { ws with calls := ws.calls.insert t (.checked ⟨.pinDraft, gate.name, gate.id⟩) }
  let looked :=
    { checked with calls := checked.calls.insert t (.looked ⟨.pinDraft, gate.name, gate.id⟩ g) }
  have hcheck : ws.step (.check t ⟨.pinDraft, gate.name, gate.id⟩) = some checked :=
    if_pos ⟨hidle, hdisk, hcall⟩
  have hlook : checked.step (.look t) = some looked := by
    have hmine : checked.calls.lookup t = some (.checked ⟨.pinDraft, gate.name, gate.id⟩) :=
      lookup_insert _
    have hfound : checked.gate gate.name gate.id = some (checked, g) := by
      have hthere : checked.filed.lookup gate.name = some g := hfiled
      have hx : checked.gates.lookup g = some gate := hgate
      rw [Workspace.gate, hthere, Option.bind_some, hx]
      exact if_pos rfl
    rw [Workspace.step, Workspace.look, hmine]
    dsimp only
    rw [hfound]
  have henter : looked.step (.enter t) = some
      { (looked.setGate g { gate with active := gate.active + 1 }).endCall t with
        pins := looked.pins.insert looked.next ⟨gate.name, gate.id, g⟩
        next := looked.next + 1 } := by
    have hmine : looked.calls.lookup t = some (.looked ⟨.pinDraft, gate.name, gate.id⟩ g) :=
      lookup_insert _
    have hx : looked.gates.lookup g = some gate := hgate
    rw [Workspace.step, Workspace.enter, hmine]
    dsimp only
    rw [hx, Option.map_some, hopen, hretired]
    rfl
  have hexec := exec_cons_eq_some.2 ⟨_, hcheck, exec_cons_eq_some.2 ⟨_, hlook,
    exec_cons_eq_some.2 ⟨_, henter, exec_nil⟩⟩⟩
  exact ⟨_, ws.next, hexec, lookup_insert _⟩

lemma Sound.reopened (hl : ws.lifecycles.lookup k = some l)
    (hphase : l.phase ≠ .finished)
    (hstep : ws.step (.timeout k) = some ws' ∨ ws.step (.dropLifecycle k) = some ws') :
    ∃ gate, ws'.gates.lookup l.gate = some gate ∧ gate.name = l.name ∧ gate.id = l.id ∧
      gate.closing = false ∧ gate.retired = false := by
  have hopen : ∀ x, ws.gates.lookup l.gate = some x → x.name = l.name ∧ x.id = l.id ∧
      x.retired = false := by
    intro x hx
    have hholds := h.exclusive.holds_of_find hl hx
    refine ⟨hholds.name, hholds.id, ?_⟩
    rw [← Bool.not_eq_true, hholds.retired]
    exact hphase
  rcases hstep with hstep | hstep
  · obtain ⟨⟨l', x⟩, hfind, hstep⟩ := Option.bind_eq_some_iff.1 hstep
    obtain ⟨-, ⟨⟩⟩ := Option.ite_none_right_eq_some.1 hstep
    obtain ⟨hl', hx⟩ := find_eq_some hfind
    cases hl.symm.trans hl'
    obtain ⟨hname, hid, hretired⟩ := hopen x hx
    exact ⟨_, lookup_insert _, hname, hid, rfl, hretired⟩
  · obtain ⟨l', x, hl', hx, ⟨-, -, rfl⟩ | ⟨hfinished, -⟩⟩ := dropLifecycle_cases hstep
    · cases hl.symm.trans hl'
      obtain ⟨hname, hid, hretired⟩ := hopen x hx
      exact ⟨_, lookup_insert _, hname, hid, rfl, hretired⟩
    · cases hl.symm.trans hl'
      exact absurd hfinished hphase

end

lemma Counted.pinned (h : Counted ws) (hp : ws.pins.lookup k = some p)
    (hgate : ws.gates.lookup p.gate = some gate) : 0 < gate.active := by
  rw [h.active p.gate gate hgate]
  apply countWhere_pos_iff.2
  exact ⟨⟨k, p⟩, AList.mem_lookup_iff.1 hp, decide_eq_true rfl⟩

lemma Sound.no_pin (h : Sound ws) (hgate : ws.gates.lookup g = some gate)
    (hdrained : gate.active = 0) (hp : ws.pins.lookup k = some p) :
    ¬(p.name = gate.name ∧ p.id = gate.id) := by
  intro ⟨hname, hid⟩
  obtain ⟨x, hx, hname', hid'⟩ := h.counted.pins k p hp
  have heq := h.shelved.unique p.gate g x gate hx hgate (hname'.trans hname) (hid'.trans hid)
  subst heq
  have hpos := h.counted.pinned hp hgate
  omega

lemma Sound.one_lifecycle (h : Sound ws) (hl : ws.lifecycles.lookup k = some l)
    (hl' : ws.lifecycles.lookup k' = some l') (hname : l.name = l'.name)
    (hclash : l.id = l'.id ∨ l.phase ≠ .finished ∧ l'.phase ≠ .finished) : k = k' := by
  obtain ⟨x, hx, hholds⟩ := h.exclusive.holds k l hl
  obtain ⟨x', hx', hholds'⟩ := h.exclusive.holds k' l' hl'
  apply h.exclusive.one k k' l l' hl hl'
  rcases hclash with hid | ⟨hphase, hphase'⟩
  · exact h.shelved.unique l.gate l'.gate x x' hx hx'
      (hholds.name.trans (hname.trans hholds'.name.symm))
      (hholds.id.trans (hid.trans hholds'.id.symm))
  · -- an open gate is the one filed under its name
    have hfiled : ∀ y g, ws.gates.lookup g = some y → y.retired ≠ true →
        ws.filed.lookup y.name = some g := by
      intro y g hy hopen
      by_contra hfile
      exact hopen (h.shelved.unfiled g y hy hfile).1
    have hg := hfiled x l.gate hx (fun hr => hphase (hholds.retired.1 hr))
    have hg' := hfiled x' l'.gate hx' (fun hr => hphase' (hholds'.retired.1 hr))
    rw [hholds.name] at hg
    rw [hholds'.name, ← hname, hg] at hg'
    exact Option.some.inj hg'

/-- Where a checked draft is still on disk when its gate is looked up: no pin of a lifetime is live
beside a granted lifecycle of it, a name has one unfinished lifecycle at most, a retired lifetime
has no pin and no unfinished lifecycle again, and a lifecycle that times out or is dropped
unfinished lets pins in. -/
theorem draft_exclusion (disk : Map DraftName DraftId) (es : List Event) (ws : Workspace)
    (hcurrent : Along step Current (opened disk) es) (hrun : exec step (opened disk) es = some ws) :
    (∀ k l j p, ws.lifecycles.lookup k = some l → l.phase ≠ .draining →
      ws.pins.lookup j = some p → ¬(p.name = l.name ∧ p.id = l.id)) ∧
    (∀ k k' l l', ws.lifecycles.lookup k = some l → ws.lifecycles.lookup k' = some l' →
      l.name = l'.name → l.id = l'.id ∨ l.phase ≠ .finished ∧ l'.phase ≠ .finished → k = k') ∧
    (∀ n i, (n, i) ∈ ws.retired →
      (∀ k p, ws.pins.lookup k = some p → ¬(p.name = n ∧ p.id = i)) ∧
      ∀ k l, ws.lifecycles.lookup k = some l → l.name = n → l.id = i → l.phase = .finished) ∧
    (∀ k l ws' t, ws.lifecycles.lookup k = some l → l.phase ≠ .finished → l.id ≠ brokenId →
      ws.step (.timeout k) = some ws' ∨ ws.step (.dropLifecycle k) = some ws' →
      ws'.calls.lookup t = none →
      ∃ ws'' j g, exec step ws' [.check t ⟨.pinDraft, l.name, l.id⟩, .look t, .enter t] =
        some ws'' ∧ ws''.pins.lookup j = some ⟨l.name, l.id, g⟩) := by
  have h : Sound ws :=
    hcurrent.invariant (fun _ _ _ h hc hs => h.step hc hs) (sound_opened disk) hrun
  refine ⟨?_, ?_, ?_, ?_⟩
  · intro k l j p hl hphase hp
    obtain ⟨gate, hgate, hholds⟩ := h.exclusive.holds k l hl
    rw [← hholds.name, ← hholds.id]
    exact h.no_pin hgate (hholds.drained hphase) hp
  · intro k k' l l' hl hl' hname hclash
    exact h.one_lifecycle hl hl' hname hclash
  · intro n i hmem
    obtain ⟨g, gate, hgate, rfl, rfl, hretired⟩ := h.shelved.gone n i hmem
    constructor
    · intro k p hp
      exact h.no_pin hgate (h.exclusive.closed g gate hgate hretired).2 hp
    · intro k l hl hname hid
      obtain ⟨x, hx, hholds⟩ := h.exclusive.holds k l hl
      have heq := h.shelved.unique l.gate g x gate hx hgate (hholds.name.trans hname)
        (hholds.id.trans hid)
      subst heq
      cases hx.symm.trans hgate
      exact hholds.retired.1 hretired
  · intro k l ws' t hl hphase hid hstep hidle
    obtain ⟨gate, hgate, hname, hid', hopen, hretired⟩ := h.reopened hl hphase hstep
    have hsound : Sound ws' := by
      rcases hstep with hstep | hstep
      · exact h.timeout hstep
      · exact h.dropLifecycle hstep
    rw [← hid'] at hid
    obtain ⟨ws'', j, hexec, hpin⟩ := hsound.pin_granted hgate hopen hretired hid hidle
    rw [hname, hid'] at hexec hpin
    exact ⟨ws'', j, l.gate, hexec, hpin⟩

/-- A draft is discarded, its name reused, and the new draft pinned and left again. -/
def reused : List Event :=
  [.check 1 ⟨.beginDraftLifecycle, ['n'], ['1']⟩, .look 1, .enter 1, .drain 1, .remove 1,
    .retire 1, .dropLifecycle 1, .create ['n'] ['2'], .check 2 ⟨.pinDraft, ['n'], ['2']⟩, .look 2,
    .enter 2, .dropPin 3]

theorem draft_exclusion_reused :
    ∃ ws, exec step (opened ((∅ : Map DraftName DraftId).insert ['n'] ['1'])) reused = some ws ∧
      (['n'], ['1']) ∈ ws.retired ∧
      ∀ k p, ws.pins.lookup k = some p → ¬(p.name = ['n'] ∧ p.id = ['1']) := by
  have hrun : (exec step (opened ((∅ : Map DraftName DraftId).insert ['n'] ['1'])) reused).any
      (fun ws => decide ((['n'], ['1']) ∈ ws.retired)) = true := by
    decide +kernel
  obtain ⟨ws, hws, hmem⟩ := (Option.any_eq_true _ _).1 hrun
  refine ⟨ws, hws, of_decide_eq_true hmem, ?_⟩
  exact ((draft_exclusion _ reused ws (by decide +kernel) hws).2.2.1 ['n'] ['1']
    (of_decide_eq_true hmem)).1

/-- A pin that was checked before all this takes the idle gate of the new draft away and gets a gate
of its own: it is granted for the retired draft. A lifecycle of the new draft then gets a third
gate, beside a pin that was on its way through the second. -/
theorem retired_draft_pinned :
    (∃ ws k p, exec step (opened ((∅ : Map DraftName DraftId).insert ['n'] ['1']))
        ([.check 0 ⟨.pinDraft, ['n'], ['1']⟩] ++ reused ++ [.look 0, .enter 0]) = some ws ∧
      (['n'], ['1']) ∈ ws.retired ∧ ws.pins.lookup k = some p ∧ p.name = ['n'] ∧ p.id = ['1']) ∧
    (∃ ws k l j p, exec step (opened ((∅ : Map DraftName DraftId).insert ['n'] ['1']))
        ([.check 0 ⟨.pinDraft, ['n'], ['1']⟩] ++ reused ++
          [.check 3 ⟨.pinDraft, ['n'], ['2']⟩, .look 3, .look 0,
            .check 4 ⟨.beginDraftLifecycle, ['n'], ['2']⟩, .look 4, .enter 4, .drain 6, .enter 3]) =
          some ws ∧
      ws.lifecycles.lookup k = some l ∧ l.phase = .held ∧ ws.pins.lookup j = some p ∧
      p.name = l.name ∧ p.id = l.id) := by
  constructor
  · have hrun : (exec step (opened ((∅ : Map DraftName DraftId).insert ['n'] ['1']))
        ([.check 0 ⟨.pinDraft, ['n'], ['1']⟩] ++ reused ++ [.look 0, .enter 0])).any
        (fun ws => decide ((['n'], ['1']) ∈ ws.retired) &&
          decide (ws.pins.lookup 5 = some ⟨['n'], ['1'], 4⟩)) = true := by
      decide +kernel
    obtain ⟨ws, hws, h⟩ := (Option.any_eq_true _ _).1 hrun
    rw [Bool.and_eq_true] at h
    exact ⟨ws, 5, _, hws, of_decide_eq_true h.1, of_decide_eq_true h.2, rfl, rfl⟩
  · have hrun : (exec step (opened ((∅ : Map DraftName DraftId).insert ['n'] ['1']))
        ([.check 0 ⟨.pinDraft, ['n'], ['1']⟩] ++ reused ++
          [.check 3 ⟨.pinDraft, ['n'], ['2']⟩, .look 3, .look 0,
            .check 4 ⟨.beginDraftLifecycle, ['n'], ['2']⟩, .look 4, .enter 4, .drain 6,
            .enter 3])).any
        (fun ws => decide (ws.lifecycles.lookup 6 = some ⟨['n'], ['2'], 5, .held⟩) &&
          decide (ws.pins.lookup 7 = some ⟨['n'], ['2'], 2⟩)) = true := by
      decide +kernel
    obtain ⟨ws, hws, h⟩ := (Option.any_eq_true _ _).1 hrun
    rw [Bool.and_eq_true] at h
    exact ⟨ws, 6, _, 7, _, hws, of_decide_eq_true h.1, rfl, of_decide_eq_true h.2, rfl, rfl⟩

end Workspace
end Chan.Drafts
