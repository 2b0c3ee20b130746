import Chan.Control.Joining

namespace Chan.Control
open Utf AssocMap Function

variable {s : ControllerState}

namespace Phase

def leave (k : SessionKey) (ph : Phase) : Phase :=
  { ph with
    stage := update ph.stage k.proxyId none
    deferred := ph.deferred.filter fun k' => decide (k' ≠ k) }

def abandon (k : SessionKey) (ph : Phase) : Phase :=
  { ph with
    commands := fun i => (ph.commands i).filter fun command => decide (command.session ≠ k)
    recon := ph.recon.map fun r => { r with
      commandIds := r.commandIds.filter fun i =>
        (ph.commands i).all fun command => decide (command.session ≠ k) } }

lemma Staged.abandon (h : Staged ph q) (hk : ph.Current k st)
    (hq : ∀ k' ∈ q, k' ≠ k → k' ∈ ph.deferred)
    (hinitial : ph.kind = some .initial → ph.deferred = []) :
    ((ph.leave k).abandon k).Staged (ph.leave k).deferred := by
  refine h.lose (fun k' hk' hne => List.mem_filter.2 ⟨hq k' hk' hne, decide_eq_true hne⟩)
    (fun hi => ?_) ?_ (fun r hr => ?_) (Sub.filter _ _) hk
  · show ph.deferred.filter _ = []
    rw [hinitial hi]
    rfl
  · show (ph.recon.map _).map _ = ph.recon.map _
    rw [Option.map_map]
    rfl
  · obtain ⟨r₀, hr₀, rfl⟩ := Option.map_eq_some_iff.1 hr
    refine ⟨r₀, hr₀, fun i hi => ?_⟩
    obtain ⟨hi, hall⟩ := Finset.mem_filter.1 hi
    have hne : ∀ command, ph.commands i = some command → command.session ≠ k := by
      intro command hc
      have hall : (ph.commands i).all _ = true := hall
      rw [hc] at hall
      exact of_decide_eq_true hall
    refine ⟨hi, ?_, hne⟩
    cases hc : ph.commands i with
    | none => exact congrArg (Option.filter _) hc
    | some command =>
      exact (congrArg (Option.filter _) hc).trans
        (Option.filter_some_pos (decide_eq_true (hne command hc)))

def Timed (ph : Phase) : Prop :=
  ∀ r k st, ph.recon = some r → r.commandIds = ∅ → r.failed = false → r.kind = .joining k →
    ph.Current k st → ph.ready = false → ph.deadline.isSome

def Manned (ph : Phase) : Prop :=
  ∀ r, ph.recon = some r → r.commandIds = ∅ → r.failed = false → r.kind = .initial → ph.Active

def Spent (ph : Phase) : Prop := ∀ r, ph.recon = some r → r.commandIds = ∅ → r.failed = true

lemma Staged.timed_abandon (h : Staged ph q) (hbusy : ph.Busy) :
    ((ph.leave k).abandon k).Timed := by
  rintro r' k' st hr' hempty - hkind ⟨hstage, -⟩ -
  obtain ⟨r, hr, rfl⟩ := Option.map_eq_some_iff.1 hr'
  obtain ⟨i, hi⟩ := Finset.nonempty_iff_ne_empty.2 (hbusy r hr)
  obtain ⟨command, hcommand, -, -, hjoining⟩ := h.backed r hr i hi
  have hne : command.session ≠ k := by
    rw [hjoining k' hkind]
    rintro rfl
    exact (update_none_eq_some.1 hstage).1 rfl
  refine absurd (hempty ▸ Finset.mem_filter.2 ⟨hi, ?_⟩) (Finset.notMem_empty i)
  show (ph.commands i).all _ = true
  rw [hcommand]
  exact decide_eq_true hne

end Phase

namespace ControllerState

variable {sizes : Sizes} {l : ControllerLabel} {kept : Prop}

lemma phase_retainAuthority (k : SessionKey) (boot : Uuid) (now : Instant) (s : ControllerState) :
    (s.retainAuthority k boot now).phase = s.phase.leave k :=
  congrArg (fun m => { s.phase with
    stage := m
    deferred := s.phase.deferred.filter fun k' => decide (k' ≠ k) })
    (map_lookup_erase_fun _ s.proxies k.proxyId)

lemma phase_retainRows (k : SessionKey) (u : FleetUsage) (s : ControllerState) :
    (s.retainRows k u).phase = s.phase := by
  obtain ⟨total, h⟩ := s.removeOrphanUsage_eq
  unfold retainRows
  rw [h]
  split <;> rfl

lemma phase_retainBrowserSessions (k : SessionKey) (u : FleetUsage) (s : ControllerState) :
    (s.retainBrowserSessions k u).phase = s.phase := by
  obtain ⟨total, h⟩ := s.removeBrowserOrphanUsage_eq
  unfold retainBrowserSessions
  rw [h]
  split <;> rfl

lemma phase_orphan : (s.orphan sizes k p now).phase = s.phase.leave k := by
  unfold orphan removePendingForSession
  dsimp only
  rw [phase_removePendings, phase_retainBrowserSessions, phase_retainRows]
  split
  · exact phase_retainAuthority k p.bootId now s
  · exact phase_retainAuthority k p.bootId now s

lemma phase_dropCommands (ids : List Uuid) (hnodup : ids.Nodup) (s : ControllerState)
    (h : ∀ i ∈ ids, (s.commands.lookup i).isSome) :
    (Turn.each (dropCommand outcome) ids s).1.phase = { s.phase with
      commands := fun i => if i ∈ ids then none else s.phase.commands i
      recon := s.phase.recon.map fun r => { r with
        commandIds := r.commandIds.filter fun i => i ∉ ids } } := by
  induction ids generalizing s with
  | nil =>
    have hrecon : s.phase.recon.map (fun r => { r with
        commandIds := r.commandIds.filter fun i => i ∉ ([] : List Uuid) }) = s.phase.recon := by
      cases s.phase.recon with
      | none => rfl
      | some r => simp
    rw [hrecon]
    rfl
  | cons i ids ih =>
    obtain ⟨hnot, hnodup⟩ := List.nodup_cons.1 hnodup
    obtain ⟨command, hcommand⟩ := Option.isSome_iff_exists.1 (h i List.mem_cons_self)
    have hdrop : (dropCommand outcome s i).1 = { s with
        commands := s.commands.erase i
        reconciliation := s.reconciliation.map fun r =>
          { r with commandIds := r.commandIds.erase i } } := by
      rw [dropCommand, hcommand]
    have hrest : ∀ i' ∈ ids, ((dropCommand outcome s i).1.commands.lookup i').isSome := by
      intro i' hi'
      have hne : i' ≠ i := fun he => hnot (he ▸ hi')
      rw [hdrop]
      rw [AList.lookup_erase_ne hne]
      exact h i' (List.mem_cons_of_mem i hi')
    show (Turn.each (dropCommand outcome) ids (dropCommand outcome s i).1).1.phase = _
    rw [ih hnodup _ hrest, hdrop]
    have hcommands : (fun j => if j ∈ ids then none else (s.commands.erase i).lookup j) =
        fun j => if j ∈ i :: ids then none else s.commands.lookup j :=
      funext fun j => ite_mem_lookup_erase s.commands i ids j
    have hrecon : (s.reconciliation.map fun r =>
        { r with commandIds := r.commandIds.erase i }).map (fun r => { r with
          commandIds := r.commandIds.filter fun j => j ∉ ids }) =
        s.reconciliation.map fun r => { r with
          commandIds := r.commandIds.filter fun j => j ∉ i :: ids } := by
      rw [Option.map_map]
      refine congrArg (Option.map · s.reconciliation) (funext fun r => ?_)
      refine congrArg (fun ids => { r with commandIds := ids }) (Finset.ext fun j => ?_)
      simp only [Finset.mem_filter, Finset.mem_erase, List.mem_cons, not_or]
      tauto
    exact congrArg₂ (fun m r => { s.phase with commands := m, recon := r }) hcommands hrecon

lemma phase_dropRevocations (ids : List Uuid) (s : ControllerState) :
    (Turn.each (dropRevocation outcome) ids s).1.phase = s.phase := by
  induction ids generalizing s with
  | nil => rfl
  | cons i ids ih => exact ih _

lemma phase_abandonCommands : (s.abandonCommands k).1.phase = s.phase.abandon k := by
  have hmem : ∀ i, i ∈ keysWhere (fun _ command => decide (command.session = k)) s.commands ↔
      ∃ command, s.commands.lookup i = some command ∧ command.session = k := by
    intro i
    rw [mem_keysWhere]
    simp
  refine (phase_dropRevocations _ _).trans ?_
  rw [phase_dropCommands _ (nodup_keysWhere _ _) s fun i hi => by
    obtain ⟨command, hcommand, _⟩ := (hmem i).1 hi
    rw [hcommand]
    rfl]
  refine congrArg₂ (fun m r => { s.phase with commands := m, recon := r }) (funext fun i => ?_)
    (congrArg (Option.map · s.phase.recon) (funext fun r =>
      congrArg (fun ids => { r with commandIds := ids }) (Finset.ext fun i => ?_)))
  · show (if i ∈ _ then none else s.commands.lookup i) = (s.commands.lookup i).filter _
    simp only [hmem]
    cases s.commands.lookup i with
    | none => simp
    | some command => by_cases hk : command.session = k <;> simp [hk, Option.filter_some]
  · simp only [Finset.mem_filter, hmem]
    show (i ∈ r.commandIds ∧ _) ↔ i ∈ r.commandIds ∧ (s.commands.lookup i).all _ = true
    cases s.commands.lookup i with
    | none => simp
    | some command => simp

lemma runs_abandonCommands : Runs sizes l kept s (s.abandonCommands k) :=
  Runs.andThen (Runs.each (fun _ _ s => s.runs_dropCommand) s) (runs_settleRevocations _ _)

def lost (sizes : Sizes) (k : SessionKey) (p : ProxySession) (now : Instant) (s : ControllerState) :
    Turn := (s.orphan sizes k p now).abandonCommands k

lemma phase_lost (k : SessionKey) (p : ProxySession) (now : Instant) (s : ControllerState) :
    (s.lost sizes k p now).1.phase = (s.phase.leave k).abandon k := by
  rw [lost, phase_abandonCommands, phase_orphan]

lemma runs_lost (hs : s.session k = some p) :
    Runs sizes l kept s (s.lost sizes k p l.now) :=
  (runs_orphan sizes hs).before runs_abandonCommands

lemma due_lost (h : s.phase.Due) :
    (s.lost sizes k p now).1.phase.Due := by
  rw [phase_lost]
  refine h.mono rfl rfl (fun hi => ?_) fun ⟨q, st, hst, hactive⟩ =>
    ⟨q, st, (update_none_eq_some.1 hst).2, hactive⟩
  obtain ⟨r, hr, hkind⟩ := Option.map_eq_some_iff.1 hi
  have hr : (s.phase.leave k).recon = some r := hr
  rw [Phase.kind, Phase.abandon, hr]
  exact congrArg some hkind

lemma anyActive_iff_active : s.anyActive = true ↔ s.phase.Active := by
  rw [anyActive_iff]
  constructor
  · rintro ⟨p, x, hx, hactive⟩
    obtain ⟨y, hy, rfl⟩ := Option.map_eq_some_iff.1 hx
    exact ⟨p, y.stage, by rw [phase_stage, hy]; rfl, hactive⟩
  · rintro ⟨p, st, hst, hactive⟩
    obtain ⟨y, hy, rfl⟩ := Option.map_eq_some_iff.1 hst
    exact ⟨p, y.live, by rw [core_live, hy]; rfl, hactive⟩

lemma phase_leaveReadiness (s : ControllerState) :
    s.phase.Active ∧ s.leaveReadinessIfNoActiveSessions.phase = s.phase ∨
      ¬s.phase.Active ∧ s.leaveReadinessIfNoActiveSessions.phase =
        { s.phase with ready := false, deadline := none } := by
  unfold leaveReadinessIfNoActiveSessions
  split
  · rename_i hactive
    exact .inl ⟨anyActive_iff_active.1 hactive, rfl⟩
  · rename_i hactive
    exact .inr ⟨fun ha => hactive (anyActive_iff_active.2 ha), rfl⟩

lemma settled_leaveReadiness (h : s.phase.Settled) :
    s.leaveReadinessIfNoActiveSessions.phase.Settled := by
  rcases s.phase_leaveReadiness with ⟨_, heq⟩ | ⟨_, heq⟩
  · rw [heq]
    exact h
  · rw [heq]
    exact ⟨h.staged.unready, h.busy, h.idle⟩

lemma lit_leaveReadiness (s : ControllerState) :
    s.leaveReadinessIfNoActiveSessions.phase.Lit := by
  rcases s.phase_leaveReadiness with ⟨ha, heq⟩ | ⟨_, heq⟩
  · rw [heq]
    exact fun _ => ha
  · rw [heq]
    exact nofun

lemma due_leaveReadiness (h : s.phase.Due) :
    s.leaveReadinessIfNoActiveSessions.phase.Due := by
  rcases s.phase_leaveReadiness with ⟨_, heq⟩ | ⟨hnot, heq⟩
  · rw [heq]
    exact h
  · rw [heq]
    exact fun _ ha => absurd ha hnot

structure Completes (sizes : Sizes) (l : ControllerLabel) (kept : Prop) (s : ControllerState)
    (t : Turn) : Prop where
  staged : t.1.phase.Staged t.1.phase.deferred
  busy : t.1.phase.Busy
  lit : s.phase.Manned → s.phase.Lit → t.1.phase.Lit
  due : s.phase.Timed → s.phase.Due → t.1.phase.Due
  runs : Runs sizes l kept s t

lemma startDeferredJoins_spec (h : s.phase.Staged s.phase.deferred)
    (hbusy : s.phase.Busy) (now : Instant) :
    Settles sizes l kept s (s.startDeferredJoins now) :=
  startDeferredFrom_spec now s.deferredJoins s h hbusy

lemma leaveReadiness_spec (h : s.phase.Settled) :
    Settles sizes l kept s (s.leaveReadinessIfNoActiveSessions.startDeferredJoins now) ∧
      (s.leaveReadinessIfNoActiveSessions.startDeferredJoins now).1.phase.Lit := by
  have hleave := settled_leaveReadiness h
  have hstart : Settles sizes l kept s.leaveReadinessIfNoActiveSessions
      (s.leaveReadinessIfNoActiveSessions.startDeferredJoins now) :=
    startDeferredJoins_spec hleave.staged hleave.busy now
  have hlit := hstart.lit s.lit_leaveReadiness
  exact ⟨⟨hstart.settled, fun _ => hlit, fun hd => hstart.due (due_leaveReadiness hd),
    (runs_leaveReadiness).before hstart.runs⟩, hlit⟩

lemma removeSessionWith_eq (hs : s.session k = some p) :
    s.removeSessionWith sizes complete k now =
      (((s.lost sizes k p now).andThen complete).andThen (startDeferredJoins now)).andThen fun s =>
        startDeferredJoins now s.leaveReadinessIfNoActiveSessions := by
  rw [removeSessionWith, hs]
  rfl

lemma removeSessionWith_spec (complete : ControllerState → Turn)
    (hs : s.session k = some p)
    (h : Completes sizes l kept (s.lost sizes k p l.now).1 (complete (s.lost sizes k p l.now).1))
    (htimed : (s.lost sizes k p l.now).1.phase.Timed) :
    (s.removeSessionWith sizes complete k l.now).1.phase.Settled ∧
      (s.removeSessionWith sizes complete k l.now).1.phase.Lit ∧
      (s.phase.Due → (s.removeSessionWith sizes complete k l.now).1.phase.Due) ∧
      Runs sizes l kept s (s.removeSessionWith sizes complete k l.now) := by
  have hlost : Runs sizes l kept s (s.lost sizes k p l.now) := runs_lost hs
  have hdue : s.phase.Due → (s.lost sizes k p l.now).1.phase.Due := due_lost
  rw [removeSessionWith_eq hs]
  generalize s.lost sizes k p l.now = t at *
  have hstart : Settles sizes l kept _ _ := startDeferredJoins_spec h.staged h.busy l.now
  obtain ⟨hleave, hlit⟩ : Settles sizes l kept _ _ ∧ _ := leaveReadiness_spec hstart.settled
  exact ⟨hleave.settled, hlit, fun hd => hleave.due (hstart.due (h.due htimed (hdue hd))),
    ((hlost.andThen h.runs).andThen hstart.runs).andThen hleave.runs⟩

lemma active_tell {ph : Phase} (h : ph.Active) :
    { ph with stage := fun p => (ph.stage p).map Stage.tell }.Active := by
  obtain ⟨p, st, hst, hactive⟩ := h
  refine ⟨p, st.tell, congrArg (Option.map Stage.tell) hst, ?_⟩
  rw [Stage.tell, if_pos hactive]
  exact hactive

lemma restart_spec (hrecon : s.reconciliation = none)
    (hready : s.ready = false) (h : s.phase.Staged [])
    (ht : t = s.restart (s.candidates test) now) :
    t.1.phase.Staged [] ∧ t.1.phase.Busy ∧ t.1.phase.deferred = s.phase.deferred ∧
      (s.phase.Active → t.1.phase.Lit) ∧ t.1.phase.Due ∧ Runs sizes l kept s t := by
  obtain ⟨htaken, hwithin, hrefused⟩ := s.initialPlan_spec (s.candidates test)
  unfold restart at ht
  dsimp only at ht
  generalize s.initialReconciliationPlan (s.candidates test) = plan at *
  split at ht
  · have hphase := phase_converge plan.1 s
    rw [← ht] at hphase
    rw [hphase]
    refine ⟨h.converge hrecon, busy_of_none hrecon, rfl, fun ha _ => active_tell ha,
      (fun h => by cases h), ?_⟩
    rw [ht]
    refine runs_converge hready (fun hsound K o ho => ?_) hwithin
    obtain ⟨hmem, hkey⟩ := htaken K o ho
    obtain ⟨p, i, hs, _, hrow⟩ := mem_candidates hmem
    obtain ⟨hk, hp⟩ := current_of_session hs
    have hproper := (hsound.proper _ _ hk.1).1
    have hi : o.row.registrationId = i := hproper.row i o.row hrow
    refine ⟨hkey, p.live, hk, ?_, hi ▸ hrow⟩
    -- A session with rows has its snapshot, and nobody with a snapshot is still joining.
    cases hstatus : p.live.status with
    | active => rfl
    | joining =>
      cases hg : p.live.generation with
      | none => cases ((hproper.blank hg).1 i).symm.trans hrow
      | some g =>
        rcases h.waiting _ _ (phase_current hs) hstatus (congrArg Option.isSome hg) with hq | hx
        · cases hq
        · rw [Phase.kind, show s.phase.recon = none from hrecon] at hx
          cases hx
  · rename_i hlosers
    obtain ⟨hstaged, hbusy⟩ : (s.startReconciliation .initial plan.2 now).1.phase.Staged [] ∧
        (s.startReconciliation .initial plan.2 now).1.phase.Busy :=
      staged_startReconciliation h hrecon hlosers
        (fun o ho => by
          obtain ⟨p, _, hs, _⟩ := mem_candidates (hrefused o ho)
          exact ⟨p, hs⟩)
        (fun _ h => by cases h) (fun _ hk => by cases hk) (fun _ => ⟨hready, rfl⟩)
        fun _ _ h => by cases h
    obtain ⟨cs, n, ids, hphase⟩ := phase_startReconciliation
    rw [← ht] at hstaged hbusy hphase
    rw [hphase] at hstaged hbusy ⊢
    refine ⟨hstaged, hbusy, rfl, fun _ hr => ?_, fun _ _ => .inr rfl, ?_⟩
    · cases hready.symm.trans hr
    · rw [ht]
      exact runs_startReconciliation

lemma completes_none (hrecon : s.reconciliation = none)
    (h : s.phase.Staged s.phase.deferred) : Completes sizes l kept s (s, []) :=
  ⟨h, busy_of_none hrecon, fun _ => id, fun _ => id, .refl s⟩

lemma Completes.forgotten (hkind : s.phase.kind ≠ some .initial)
    (h : Completes sizes l kept { s with reconciliation := none } t) :
    Completes sizes l kept s t := by
  refine ⟨h.staged, h.busy, fun _ hl => h.lit (fun _ hr => by cases hr) hl,
    fun _ hd => h.due (fun _ _ _ hr => by cases hr) ?_, h.runs.after rfl id⟩
  exact fun hr ha => .inl ((hd hr ha).resolve_right hkind)

lemma staged_lost (hs : s.session k = some p) (h : s.phase.Staged q)
    (hq : ∀ k' ∈ q, k' ≠ k → k' ∈ s.phase.deferred)
    (hinitial : s.phase.kind = some .initial → s.phase.deferred = []) :
    (s.lost sizes k p now).1.phase.Staged (s.lost sizes k p now).1.phase.deferred := by
  rw [phase_lost]
  exact h.abandon (phase_current hs) hq hinitial

lemma removeFailed_spec (hrecon : s.reconciliation = none)
    (h : s.phase.Staged (k :: s.phase.deferred)) :
    Completes sizes l kept s
    ((s.removeSessionWith sizes (fun s => (s, [])) k l.now).andThen fun s =>
      (s, [.retire k "joining snapshot reconciliation failed".toList])) := by
  have hplain : ∀ e ∈ [Effect.retire k "joining snapshot reconciliation failed".toList],
      e.Plain := by
    intro e he
    rw [List.mem_singleton.1 he]
    trivial
  cases hs : s.session k with
  | none =>
    have hdone : s.removeSessionWith sizes (fun s => (s, [])) k l.now = (s, []) := by
      rw [removeSessionWith, hs]
    have hstaged := h.dequeue fun st hst => by
      obtain ⟨p, hp, _⟩ := session_of_phase hst
      cases hs.symm.trans hp
    rw [hdone]
    have hnone : Completes sizes l kept s (s, []) := completes_none hrecon hstaged
    exact ⟨hnone.staged, hnone.busy, hnone.lit, hnone.due, hnone.runs.append hplain⟩
  | some p =>
    have hphase : (s.lost sizes k p l.now).1.phase = _ := phase_lost k p l.now s
    have hgone : (s.lost sizes k p l.now).1.phase.recon = none := by
      rw [hphase]
      exact congrArg (Option.map _) hrecon
    obtain ⟨hsettled, hlit, hdue, hruns⟩ := removeSessionWith_spec (fun s => (s, [])) hs
      (completes_none hgone (staged_lost hs h
        (fun k' hk' hne => (List.mem_cons.1 hk').resolve_left hne) fun hi => by
          rw [Phase.kind, show s.phase.recon = none from hrecon] at hi
          cases hi))
      (fun _ _ _ hr => by cases hgone.symm.trans hr)
    exact ⟨hsettled.staged, hsettled.busy, fun _ _ => hlit, fun _ => hdue, hruns.append hplain⟩

lemma completeReconciliation_spec (h : s.phase.Staged s.phase.deferred) :
    Completes sizes l kept s (s.completeReconciliation sizes l.now) := by
  unfold completeReconciliation
  split
  · rename_i hrecon
    exact completes_none hrecon h
  · rename_i r hr
    split
    · rename_i hne
      refine ⟨h, fun r' hr' => ?_, fun _ => id, fun _ => id, .refl s⟩
      cases hr.symm.trans hr'
      exact hne
    · rename_i hempty
      have hempty : r.commandIds = ∅ := Classical.not_not.1 hempty
      have hkind : s.phase.kind = some r.kind := congrArg (Option.map Reconciliation.kind) hr
      dsimp only
      split
      · rename_i hinitial
        obtain ⟨hready, hdeferred⟩ := h.initial (hkind.trans (congrArg some hinitial))
        have hstaged : { s with reconciliation := none }.phase.Staged [] :=
          h.finish (fun k hk => by rwa [hdeferred] at hk) fun k hx => by
            rw [hkind, hinitial] at hx
            cases hx
        split
        · refine ⟨?_, busy_of_none rfl, fun _ hl => hl, fun _ _ _ _ => .inl rfl, .quiet rfl id⟩
          show Phase.Staged _ s.phase.deferred
          rw [hdeferred]
          exact hstaged.deadline
        · rename_i hfailed
          obtain ⟨hstaged', hbusy, hsame, hlit, hdue, hruns⟩ :
              _ ∧ _ ∧ _ ∧ _ ∧ _ ∧ Runs sizes l kept { s with reconciliation := none } _ :=
            restart_spec (s := { s with reconciliation := none }) rfl hready hstaged rfl
          have hempty' := hsame.trans hdeferred
          refine ⟨?_, hbusy, fun hm _ => hlit (hm r hr hempty (Bool.eq_false_of_not_eq_true hfailed)
            hinitial), fun _ _ => hdue, hruns.after rfl id⟩
          rw [hempty']
          exact hstaged'
      · rename_i k hjoining
        rw [hjoining] at hkind
        have hstaged : { s with reconciliation := none }.phase.Staged (k :: s.phase.deferred) :=
          h.finish (fun k' hk' => List.mem_cons_of_mem k hk') fun k' hx => by
            cases hkind.symm.trans hx
            exact List.mem_cons_self
        split
        · exact Completes.forgotten (by rw [hkind]; nofun) (removeFailed_spec rfl hstaged)
        · rename_i hfailed
          split
          · rename_i hnone
            refine Completes.forgotten (by rw [hkind]; nofun) (completes_none rfl ?_)
            refine hstaged.dequeue fun st hst _ => ?_
            obtain ⟨p, hp, rfl⟩ := session_of_phase hst
            cases hg : p.stage.known with
            | false => rfl
            | true =>
              exact absurd (Option.filter_eq_some_iff.2 ⟨hp, hg⟩)
                (Option.eq_none_iff_forall_ne_some.1 hnone p)
          · rename_i p hp
            obtain ⟨hs, hg⟩ := Option.filter_eq_some_iff.1 hp
            have hcurrent := phase_current (s := s) hs
            have huntold : p.fleetReady = false := h.target k _ hkind hcurrent
            obtain ⟨hstaged', hbusy, habides⟩ := reconcileWith_spec hs huntold rfl hstaged l.now
            have hdeferred := habides.deferred
            refine ⟨?_, hbusy, fun _ hl => habides.lit hl, fun ht _ hunready _ => .inl ?_,
              (runs_reconcileWith hs hg huntold l.now).after rfl id⟩
            · rw [hdeferred]
              exact hstaged'
            · rw [habides.deadline]
              rw [habides.ready] at hunready
              exact ht r k _ hr hempty (Bool.eq_false_of_not_eq_true hfailed) hjoining hcurrent
                hunready

lemma finishReconciliation_spec (h : s.phase.Staged s.phase.deferred) :
    (s.finishReconciliationIfComplete sizes l.now).1.phase.Settled ∧
      (s.phase.Manned → s.phase.Lit →
        (s.finishReconciliationIfComplete sizes l.now).1.phase.Lit) ∧
      (s.phase.Timed → s.phase.Due →
        (s.finishReconciliationIfComplete sizes l.now).1.phase.Due) ∧
      Runs sizes l kept s (s.finishReconciliationIfComplete sizes l.now) := by
  have hdone : Completes sizes l kept s _ := completeReconciliation_spec h
  have hstart : Settles sizes l kept _ _ := startDeferredJoins_spec hdone.staged hdone.busy l.now
  exact ⟨hstart.settled, fun hm hl => hstart.lit (hdone.lit hm hl),
    fun ht hd => hstart.due (hdone.due ht hd), hdone.runs.andThen hstart.runs⟩

lemma removeSession_spec (h : s.phase.Settled) (hs : s.session k = some p) :
    (s.removeSession sizes k l.now).1.phase.Settled ∧
      (s.removeSession sizes k l.now).1.phase.Lit ∧
      (s.phase.Due → (s.removeSession sizes k l.now).1.phase.Due) ∧
      Runs sizes l kept s (s.removeSession sizes k l.now) := by
  refine removeSessionWith_spec _ hs (completeReconciliation_spec (staged_lost hs h.staged
    (fun _ hk _ => hk) fun hi => (h.staged.initial hi).2)) ?_
  rw [phase_lost]
  exact h.staged.timed_abandon h.busy

end ControllerState

end Chan.Control
