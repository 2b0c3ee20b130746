import Chan.Control.Phase
import Chan.Control.Plans
import Chan.Control.Simulation

namespace Chan.Control.ControllerState
open Utf AssocMap Function List

variable {s : ControllerState} {sizes : Sizes} {l : ControllerLabel} {kept : Prop}

lemma phase_current (h : s.session k = some p) :
    s.phase.Current k p.stage := by
  obtain ⟨hp, hi⟩ := Option.filter_eq_some_iff.1 h
  exact ⟨by rw [phase_stage, hp]; rfl, of_decide_eq_true hi⟩

lemma session_of_phase (h : s.phase.Current k st) :
    ∃ p, s.session k = some p ∧ p.stage = st := by
  obtain ⟨hst, hi⟩ := h
  obtain ⟨p, hp, rfl⟩ := Option.map_eq_some_iff.1 hst
  exact ⟨p, Option.filter_eq_some_iff.2 ⟨hp, decide_eq_true hi⟩, rfl⟩

lemma phase_issueKill (s : ControllerState) : (s.issueKill k ids purpose now).1.phase =
    { s.phase with
      commands := update s.phase.commands s.nextUuid
        (some ⟨k, ids.toFinset, purpose, now + commandTimeout⟩)
      nextUuid := s.nextUuid + 1 } :=
  congrArg (fun m => { s.phase with commands := m, nextUuid := s.nextUuid + 1 })
    (lookup_insert_fun s.commands s.nextUuid ⟨k, ids.toFinset, purpose, now + commandTimeout⟩)

lemma issueKills_spec (groups : List (SessionKey × List Uuid)) (purpose : CommandPurpose)
    (now : Instant) (s : ControllerState) :
    ∃ cs, (s.issueKills groups purpose now).1.phase =
        { s.phase with commands := cs, nextUuid := s.nextUuid + groups.length } ∧
      (∀ i, i < s.nextUuid → cs i = s.phase.commands i) ∧
      (∀ i ∈ s.drawn groups, ∃ g ∈ groups, ∃ command, cs i = some command ∧
        command.session = g.1 ∧ command.purpose = purpose) ∧
      ∀ i, i ∉ s.drawn groups → cs i = s.phase.commands i := by
  induction groups generalizing s with
  | nil => exact ⟨s.phase.commands, rfl, fun _ _ => rfl, nofun, fun _ _ => rfl⟩
  | cons g groups ih =>
    obtain ⟨cs, hphase, hold, hnew, hlate⟩ := ih (s.issueKill g.1 g.2 purpose now).1
    have hkill : (s.issueKill g.1 g.2 purpose now).1.phase = _ := phase_issueKill s
    have hdrawn : s.drawn (g :: groups) =
      s.nextUuid :: (s.issueKill g.1 g.2 purpose now).1.drawn groups := List.range'_succ ..
    have hcommands : ∀ i, i ≠ s.nextUuid →
        (s.issueKill g.1 g.2 purpose now).1.phase.commands i = s.phase.commands i := by
      intro i hi
      rw [hkill]
      exact update_of_ne hi ..
    have hself : cs s.nextUuid =
        some ⟨g.1, g.2.toFinset, purpose, now + commandTimeout⟩ := by
      rw [hold s.nextUuid (Nat.lt_succ_self _), hkill]
      exact update_self ..
    refine ⟨cs, ?_, fun i hi => ?_, fun i hi => ?_, fun i hi => ?_⟩
    · show ((s.issueKill g.1 g.2 purpose now).1.issueKills groups purpose now).1.phase = _
      rw [hphase, hkill, length_cons, Nat.add_comm groups.length 1, ← Nat.add_assoc]
      rfl
    · rw [hold i (Nat.lt_succ_of_lt hi), hcommands i (Nat.ne_of_lt hi)]
    · grind [mem_cons_self, mem_cons_of_mem]
    · rw [hdrawn, mem_cons, not_or] at hi
      rw [hlate i hi.2, hcommands i hi.1]

lemma phase_startReconciliation : ∃ cs n ids, (s.startReconciliation kind losers now).1.phase =
      { s.phase with commands := cs, nextUuid := n, recon := some ⟨kind, ids, false⟩ } := by
  obtain ⟨cs, hphase, _⟩ := issueKills_spec (groupedBySession losers) .reconciliation now s
  exact ⟨cs, _, _, congrArg (fun ph : Phase => { ph with
    recon := some ⟨kind, (s.drawn (groupedBySession losers)).toFinset, false⟩ }) hphase⟩

lemma staged_startReconciliation (h : s.phase.Staged q)
    (hrecon : s.reconciliation = none) (hlosers : losers ≠ [])
    (hsession : ∀ o ∈ losers, ∃ p, s.session o.session = some p)
    (hjoining : ∀ k, kind = .joining k → ∀ o ∈ losers, o.session = k)
    (hqueue : ∀ k ∈ q, k ∈ q' ∨ kind = .joining k)
    (hinitial : kind = .initial → s.ready = false ∧ q' = [])
    (htarget : ∀ k p, kind = .joining k → s.session k = some p → p.fleetReady = false) :
    (s.startReconciliation kind losers now).1.phase.Staged q' ∧
      (s.startReconciliation kind losers now).1.phase.Busy := by
  obtain ⟨cs, hphase, hold, hnew, hlate⟩ :=
    issueKills_spec (groupedBySession losers) .reconciliation now s
  have heq : (s.startReconciliation kind losers now).1.phase = { s.phase with
      commands := cs
      nextUuid := s.nextUuid + (groupedBySession losers).length
      recon := some ⟨kind, (s.drawn (groupedBySession losers)).toFinset, false⟩ } :=
    congrArg (fun ph : Phase => { ph with
      recon := some ⟨kind, (s.drawn (groupedBySession losers)).toFinset, false⟩ }) hphase
  rw [heq]
  constructor
  · refine h.start hrecon hqueue hinitial (fun k st hk hst => ?_) (fun i hi => ?_)
      (fun i command hc => ?_)
    · obtain ⟨p, hp, rfl⟩ := session_of_phase hst
      exact htarget k p hk hp
    · obtain ⟨g, hg, command, hcommand, hgs, hpurpose⟩ := hnew i (List.mem_toFinset.1 hi)
      obtain ⟨o, ho, hog⟩ := mem_groupedBySession hg
      obtain ⟨p, hp⟩ := hsession o ho
      refine ⟨command, hcommand, hpurpose, ⟨p.stage, ?_⟩, fun k hk => ?_⟩
      · rw [hgs, ← hog]
        exact phase_current hp
      · rw [hgs, ← hog, hjoining k hk o ho]
    · by_cases hi : i ∈ s.drawn (groupedBySession losers)
      · exact (mem_range'_1.1 hi).2
      · rw [hlate i hi] at hc
        exact Nat.lt_of_lt_of_le (h.fresh i command hc) (Nat.le_add_right ..)
  · rintro r hr hempty
    cases hr
    have hne := groupedBySession_ne_nil hlosers
    cases hgroups : groupedBySession losers with
    | nil => exact hne hgroups
    | cons g groups =>
      have hmem : s.nextUuid ∈ (s.drawn (groupedBySession losers)).toFinset := by
        rw [hgroups, mem_toFinset]
        exact mem_range'_1.2 ⟨le_rfl, Nat.lt_add_of_pos_right (Nat.succ_pos _)⟩
      rw [show (s.drawn (groupedBySession losers)).toFinset = ∅ from hempty] at hmem
      cases hmem

lemma runs_startReconciliation : Runs sizes l kept s (s.startReconciliation kind losers now) := by
  intro hs he
  obtain ⟨hm, he'⟩ := runs_issueKills hs he
  exact ⟨hm, he'⟩

lemma live_told (p : ProxySession) : p.told.live = p.live.told := by
  unfold ProxySession.told Live.told
  split
  · rename_i hactive
    rw [if_pos (show p.live.status = .active from hactive)]
    rfl
  · rename_i hactive
    rw [if_neg (show ¬p.live.status = .active from hactive)]

lemma stage_told (p : ProxySession) : p.told.stage = p.stage.tell := by
  unfold ProxySession.told Stage.tell
  split
  · rename_i hactive
    rw [if_pos (show p.stage.status = .active from hactive)]
    rfl
  · rename_i hactive
    rw [if_neg (show ¬p.stage.status = .active from hactive)]

lemma core_allTold :
    s.allTold.core = { s.core with live := fun p => (s.core.live p).map Live.told } := by
  have hlive : (fun p => (s.allTold.proxies.lookup p).map ProxySession.live) =
      fun p => (s.core.live p).map Live.told := by
    funext p
    rw [allTold, lookup_mapWithKey, core_live, Option.map_map, Option.map_map]
    exact congrArg (fun f => (s.proxies.lookup p).map f) (funext live_told)
  exact congrArg (fun m => { s.core with live := m }) hlive

lemma phase_allTold :
    s.allTold.phase = { s.phase with stage := fun p => (s.phase.stage p).map Stage.tell } := by
  have hstage : (fun p => (s.allTold.proxies.lookup p).map ProxySession.stage) =
      fun p => (s.phase.stage p).map Stage.tell := by
    funext p
    rw [allTold, lookup_mapWithKey, phase_stage, Option.map_map, Option.map_map]
    exact congrArg (fun f => (s.proxies.lookup p).map f) (funext stage_told)
  exact congrArg (fun m => { s.phase with stage := m }) hstage

lemma isFleetReady_iff {p : ProxySession} :
    p.isFleetReady = true ↔ p.status = .active ∧ p.fleetReady = true := by
  rw [ProxySession.isFleetReady, Bool.and_eq_true, decide_eq_true_eq]

lemma browser_replaceBrowserSessions
    (hproper : ∀ p x, s.core.live p = some x → ∀ i r, x.browserSessions i = some r →
      r.adminSessionId = i)
    (h : s.replaceBrowserSessions.browserSessions.lookup i = some o) :
    (s.core.browserSessions i = some o ∧ (s.core.browserUsage o.session).isSome) ∨
      s.core.HoldsBrowser i o := by
  rcases lookup_replaceBrowserSessions h with hold | ⟨p, j, hs, hready, hrow, hid⟩
  · exact .inl hold
  · obtain ⟨hk, _⟩ := current_of_session hs
    have hj : o.row.adminSessionId = j := hproper _ _ hk.1 j o.row hrow
    refine .inr ⟨p.live, hk, (isFleetReady_iff.1 hready).2, ?_⟩
    rw [← hid, hj]
    exact hrow

lemma restarted_eq : (s.restarted t).core = { s.core with ready := true, tunnels := t.lookup } ∧
      (s.restarted t).phase = { s.phase with ready := true, deadline := none } ∧
      (s.restarted t).proxies = s.proxies := by
  obtain ⟨occupancy, heq⟩ := replaceTunnels_eq t s
  refine ⟨?_, ?_, ?_⟩ <;> rw [restarted, heq] <;> rfl

lemma exact_restarted (h : Exact s) : (s.restarted t).Exact := by
  obtain ⟨occupancy, heq⟩ := replaceTunnels_eq t s
  refine ⟨counted_replaceTunnels s t, ?_⟩
  show Totalled { s.replaceTunnels t with ready := true }
  rw [heq]
  exact h.2

lemma attended_allTold (hs : s.session k = some p)
    (hactive : p.status = .active) (hg : p.generation.isSome) :
    Attended k (s.allTold.proxies.lookup k.proxyId) := by
  obtain ⟨hk, hp⟩ := current_of_session hs
  have htold : p.told = { p with fleetReady := true } := by
    rw [ProxySession.told, if_pos hactive]
  refine ⟨p.told, ?_, ?_, ?_, ?_⟩
  · rw [allTold, lookup_mapWithKey, hp]
    rfl
  · rw [htold]
    exact hk.2
  · rw [htold]
    exact hactive
  · rw [htold]
    exact hg

lemma mem_untold : k ∈ s.untold.map Prod.fst ↔
    ∃ x, s.core.Current k x ∧ x.status = .active ∧ x.fleetReady = false := by
  simp only [untold, mem_map, mem_filter, Bool.and_eq_true, decide_eq_true_eq,
    Bool.not_eq_true', Prod.exists]
  constructor
  · rintro ⟨k', p, ⟨hmem, hactive, htold⟩, rfl⟩
    exact ⟨p.live, (current_of_session (mem_sessions.1 hmem)).1, hactive, htold⟩
  · rintro ⟨x, hx, hactive, htold⟩
    obtain ⟨p, hp, rfl⟩ := session_of_current hx
    exact ⟨k, p, ⟨mem_sessions.2 hp, hactive, htold⟩, rfl⟩

lemma runs_converge
    (hready : s.ready = false)
    (ht : s.core.Sound sizes → ∀ K o, t.lookup K = some o → o.row.key = K ∧ s.core.Holds o)
    (hwithin : ∀ (owner : Uuid) (ds : Finset Text), (∀ d ∈ ds, (t.lookup (owner, d)).isSome) →
      ds.card ≤ s.deploymentLimit) :
    Runs sizes l kept s (s.converge t) := by
  intro hsound he
  obtain ⟨hcore, _, hproxies⟩ := restarted_eq
  have hpending : ∀ K, s.core.pending K = none := by
    intro K
    cases hK : s.core.pending K with
    | none => rfl
    | some claim => cases hready.symm.trans (hsound.claims K claim hK).1
  have hcore₁ : (s.restarted t).allTold.core = { s.core with
      ready := true
      tunnels := t.lookup
      live := fun p => (s.core.live p).map Live.told } := by
    rw [core_allTold, hcore]
  have hcurrent : ∀ k x, (s.restarted t).core.Current k x ↔ s.core.Current k x := by
    intro k x
    rw [hcore]
    exact Iff.rfl
  have hks : ∀ k, k ∈ (s.restarted t).untold.map Prod.fst ↔
      ∃ x, s.core.Current k x ∧ x.status = .active ∧ x.fleetReady = false := by
    intro k
    rw [mem_untold]
    simp only [hcurrent]
  have hb : ∀ i o, (s.restarted t).allTold.replaceBrowserSessions.browserSessions.lookup i =
      some o → (s.core.browserSessions i = some o ∧ (s.core.browserUsage o.session).isSome) ∨
      { s.core with live := fun p => (s.core.live p).map Live.told }.HoldsBrowser i o := by
    intro i o ho
    have hproper : ∀ p x, (s.restarted t).allTold.core.live p = some x →
        ∀ i r, x.browserSessions i = some r → r.adminSessionId = i := by
      intro p x hx
      rw [hcore₁] at hx
      obtain ⟨x', hx', rfl⟩ := Option.map_eq_some_iff.1 hx
      exact (hsound.proper p x' hx').1.afterTold.browser
    have h := browser_replaceBrowserSessions hproper ho
    rw [hcore₁] at h
    exact h
  have ha : ∀ k ∈ (s.restarted t).untold.map Prod.fst,
      Attended k ((s.restarted t).allTold.proxies.lookup k.proxyId) := by
    intro k hk
    obtain ⟨x, hx, hactive, _⟩ := (hks k).1 hk
    obtain ⟨p, hp, rfl⟩ := session_of_current ((hcurrent k x).2 hx)
    exact attended_allTold hp hactive ((hsound.properOf hx).known hactive)
  have hnodup : ((s.restarted t).untold.map Prod.fst).Nodup :=
    (List.filter_sublist.map _).nodup nodup_sessions
  have heffects : (s.converge t).2 = ((s.restarted t).untold.map Prod.fst).map fun k =>
      .send k .fleetReady ((s.restarted t).allTold.proxies.lookup k.proxyId) := by
    rw [map_map]
    rfl
  have hwithin' : { s.core with tunnels := t.lookup }.Within := by
    refine fun owner ds hds => hwithin owner ds fun d hd => (hds d hd).resolve_right ?_
    rw [hpending]
    exact nofun
  rw [heffects]
  refine ⟨.single ((Move.converge hpending (ht hsound) hwithin' hb hks hnodup ha).to ?_),
    exact_restarted he⟩
  exact congrArg (fun c : Core => { c with browserSessions :=
    (s.restarted t).allTold.replaceBrowserSessions.browserSessions.lookup }) hcore₁

lemma phase_converge (t : Map TunnelKey OwnedTunnel) (s : ControllerState) :
    (s.converge t).1.phase = { s.phase with
      ready := true
      deadline := none
      stage := fun p => (s.phase.stage p).map Stage.tell } := by
  obtain ⟨_, hphase, _⟩ := restarted_eq
  show (s.restarted t).allTold.phase = _
  rw [phase_allTold, hphase]

lemma joinedWith_eq (hp : s.proxies.lookup k.proxyId = some p) :
    (s.joinedWith k t).core =
        { s.core.setLive k.proxyId p.live.joined with tunnels := t.lookup } ∧
      (s.joinedWith k t).phase = { s.phase with
        stage := update s.phase.stage k.proxyId (some p.joined.stage) } ∧
      (s.joinedWith k t).proxies.lookup k.proxyId = some p.joined := by
  obtain ⟨occupancy, heq⟩ := replaceTunnels_eq t s
  have hp' : (s.replaceTunnels t).proxies.lookup k.proxyId = some p := by rw [heq]; exact hp
  refine ⟨?_, ?_, ?_⟩
  · rw [joinedWith, core_withSession hp', heq]
    rfl
  · rw [joinedWith, phase_withSession hp', heq]
    rfl
  · rw [joinedWith, lookup_withSession, if_pos rfl, hp']
    rfl

lemma Exact.clearOrphans (h : s.Exact) :
    (s.clearOrphansForProxyAuthority p boot).Exact := by
  refine ⟨?_, h.2.foldl_forgetOrphan _⟩
  obtain ⟨_, _, _, _, _, heq, _⟩ := clearOrphans_eq
  rw [heq]
  exact h.1

lemma exact_joinedWith (k : SessionKey) (h : Exact s) :
    (s.joinedWith k t).Exact := by
  obtain ⟨occupancy, heq⟩ := replaceTunnels_eq t s
  refine ⟨counted_replaceTunnels s t, ?_⟩
  show Totalled ((s.replaceTunnels t).withSession k.proxyId ProxySession.joined)
  rw [heq]
  exact h.2

lemma core_clearOrphans : ∃ b, (s.clearOrphansForProxyAuthority p boot).core = { s.core with
        browserSessions := b
        usage := fun k => if k.proxyId = p then none else s.core.usage k
        browserUsage := fun k => if k.proxyId = p then none else s.core.browserUsage k
        deadlines := fun k => if k.proxyId = p then none else s.core.deadlines k
        markers := update s.core.markers (p, boot) none } ∧
      ∀ i o, b i = some o → s.core.browserSessions i = some o ∧
        (o.session.proxyId = p → s.core.browserUsage o.session = none) := by
  obtain ⟨usage, total, browserUsage, browserTotal, browser, heq, husage, hbrowserUsage,
    hbrowser⟩ := clearOrphans_eq
  refine ⟨browser.lookup, ?_, hbrowser⟩
  have hdeadlines : (retain (fun (session : SessionKey) _ => decide (session.proxyId ≠ p))
      s.orphanDeadlines).lookup =
        fun k => if k.proxyId = p then none else s.core.deadlines k := by
    funext k
    rw [lookup_retain_key]
    by_cases hp : k.proxyId = p
    · rw [if_pos hp, if_neg (by rw [hp, decide_eq_true_eq]; exact fun h => h rfl)]
    · rw [if_neg hp, if_pos (decide_eq_true hp)]
      rfl
  rw [heq]
  show { s.core with
    browserSessions := browser.lookup
    usage := usage.lookup
    browserUsage := browserUsage.lookup
    deadlines := (retain (fun (session : SessionKey) _ => decide (session.proxyId ≠ p))
      s.orphanDeadlines).lookup
    markers := (s.disconnectedProxyDeadlines.erase (p, boot)).lookup } = _
  rw [hdeadlines, lookup_erase_fun, funext husage, funext hbrowserUsage]
  rfl

lemma phase_clearOrphans : (s.clearOrphansForProxyAuthority p boot).phase = s.phase := by
  obtain ⟨_, _, _, _, _, heq, _⟩ := clearOrphans_eq
  rw [heq]
  rfl

lemma runs_completeJoin (hs : s.session k = some p)
    (hg : p.generation.isSome) (hold : p.fleetReady = false)
    (hplan : JoinPlan s k (p.rows.entries.map fun r => r.2) plan) :
    Runs sizes l kept s (s.completeJoin k p.bootId plan.1) := by
  intro hsound he
  obtain ⟨hk, hp⟩ := current_of_session hs
  obtain ⟨hcore₁, _, hp₁⟩ := joinedWith_eq hp
  obtain ⟨b, hcore, hb⟩ := core_clearOrphans
  have hproper := hsound.properOf hk
  have ht : ∀ K o, plan.1.lookup K = some o →
      (s.core.tunnels K = some o ∧ (o.session.proxyId ≠ k.proxyId ∨ s.core.Holds o)) ∨
      (o.row.key = K ∧ o.session = k ∧ p.live.rows o.row.registrationId = some o.row) := by
    intro K o ho
    rcases hplan.origin K o ho with hlive | ⟨hsession, hrow, hkey⟩
    · obtain ⟨ho, hp | howns⟩ := lookup_liveFor.1 hlive
      · exact .inl ⟨ho, .inl hp⟩
      · obtain ⟨p', hp', hactive⟩ := ownsAggregateRows_iff.1 howns
        obtain ⟨hk', _⟩ := current_of_session hp'
        exact .inl ⟨ho, .inr ⟨p'.live, hk', hsound.holds ho hk'⟩⟩
    · obtain ⟨e, hmem, hrow⟩ := List.mem_map.1 hrow
      have hlookup : p.live.rows e.1 = some o.row := hrow ▸ AList.mem_lookup_iff.2 hmem
      refine .inr ⟨hkey, hsession, ?_⟩
      rw [hproper.row e.1 o.row hlookup]
      exact hlookup
  have hb' : ∀ i o, b i = some o →
      (s.core.browserSessions i = some o ∧ (s.core.browserUsage o.session).isSome ∧
        o.session.proxyId ≠ k.proxyId) ∨
      (s.core.setLive k.proxyId p.live.joined).HoldsBrowser i o := by
    intro i o ho
    obtain ⟨ho, hnone⟩ := hb i o ho
    have hkeyed : ∀ q x, (s.joinedWith k plan.1).core.live q = some x →
        ∀ i r, x.browserSessions i = some r → r.adminSessionId = i := by
      intro q x hx
      rw [hcore₁] at hx
      rcases update_some_eq_some.1 hx with ⟨_, rfl⟩ | ⟨_, hx⟩
      · exact hproper.browser
      · exact (hsound.proper q x hx).1.browser
    have h := browser_replaceBrowserSessions hkeyed ho
    rw [hcore₁] at h
    rcases h with ⟨ho, hused⟩ | hh
    · refine .inl ⟨ho, hused, fun hp => ?_⟩
      have hnone := hnone hp
      have hsame : (s.joinedWith k plan.1).replaceBrowserSessions.core.browserUsage =
          s.core.browserUsage := by
        show (s.joinedWith k plan.1).core.browserUsage = _
        rw [hcore₁]
        rfl
      rw [hsame] at hnone
      have hused : (s.core.browserUsage o.session).isSome := hused
      rw [hnone] at hused
      cases hused
    · exact .inr hh
  have ha : Attended k ((s.joinedWith k plan.1).proxies.lookup k.proxyId) := by
    rw [hp₁]
    exact ⟨p.joined, rfl, hk.2, rfl, hg⟩
  refine ⟨.single ((Move.join hk hg hold ht hplan.within hb' ha).to ?_),
    (show ((s.joinedWith k plan.1).replaceBrowserSessions).Exact from
      exact_joinedWith k he).clearOrphans⟩
  refine hcore.trans ?_
  have hcore₂ : (s.joinedWith k plan.1).replaceBrowserSessions.core =
      { (s.joinedWith k plan.1).core with browserSessions :=
        (s.joinedWith k plan.1).replaceBrowserSessions.browserSessions.lookup } := rfl
  rw [hcore₂, hcore₁]
  rfl

lemma phase_completeJoin (hs : s.session k = some p)
    (t : Map TunnelKey OwnedTunnel) (boot : Uuid) :
    (s.completeJoin k boot t).1.phase = { s.phase with
      stage := update s.phase.stage k.proxyId (some p.joined.stage) } := by
  obtain ⟨_, hp⟩ := current_of_session hs
  obtain ⟨_, hphase, _⟩ := joinedWith_eq hp
  refine (phase_clearOrphans).trans ?_
  exact hphase

lemma busy_of_none {ph : Phase} (h : ph.recon = none) : ph.Busy := by
  intro r hr
  cases h.symm.trans hr

section
variable (hs : s.session k = some p)
include hs

lemma reconcileWith_spec (hold : p.fleetReady = false) (hrecon : s.reconciliation = none)
    (h : s.phase.Staged (k :: q)) (now : Instant) :
    (s.reconcileWith k p now).1.phase.Staged q ∧ (s.reconcileWith k p now).1.phase.Busy ∧
      s.phase.Abides (s.reconcileWith k p now).1.phase := by
  have hplan := joiningPlan_spec s k (p.rows.entries.map fun r => r.2)
  unfold reconcileWith
  dsimp only
  split
  · have hphase := phase_completeJoin hs
    rw [hphase]
    exact ⟨h.activate (phase_current hs) hrecon rfl rfl, busy_of_none hrecon, rfl, rfl, rfl,
      fun ha => ha.update fun _ _ _ => rfl⟩
  · rename_i hlosers
    have hstart : (s.startReconciliation (.joining k)
        (s.joiningPlan k (p.rows.entries.map fun r => r.2)).2 now).1.phase.Staged q ∧
        (s.startReconciliation (.joining k)
          (s.joiningPlan k (p.rows.entries.map fun r => r.2)).2 now).1.phase.Busy :=
      staged_startReconciliation h hrecon hlosers
      (fun o ho => ⟨p, (hplan.losers o ho).1 ▸ hs⟩)
      (fun k' hk' o ho => by cases hk'; exact (hplan.losers o ho).1)
      (fun k' hk' => (List.mem_cons.1 hk').elim (fun he => .inr (by rw [he])) .inl) nofun
      (fun k' p' hk' hp' => by cases hk'; cases hs.symm.trans hp'; exact hold)
    obtain ⟨cs, n, ids, hphase⟩ := phase_startReconciliation
    rw [hphase] at hstart ⊢
    exact ⟨hstart.1, hstart.2, rfl, rfl, rfl, id⟩

lemma runs_reconcileWith
    (hg : p.generation.isSome) (hold : p.fleetReady = false) (now : Instant) :
    Runs sizes l kept s (s.reconcileWith k p now) := by
  unfold reconcileWith
  dsimp only
  split
  · exact runs_completeJoin hs hg hold (joiningPlan_spec s k _)
  · exact runs_startReconciliation

lemma staged_activate
    (hrecon : s.reconciliation = none) (h : s.phase.Staged (k :: q)) (d : Option Instant) :
    ({ s.withSession k.proxyId fun p => { p with status := .active } with
      convergenceDeadline := d } : ControllerState).phase.Staged q := by
  have hphase : (s.withSession k.proxyId fun p => { p with status := .active }).phase = _ :=
    phase_withSession (current_of_session hs).2
  have hstaged : (s.withSession k.proxyId fun p => { p with status := .active }).phase.Staged
      q := by
    rw [hphase]
    exact h.activate (phase_current hs) hrecon rfl rfl
  exact hstaged.deadline

lemma runs_activate (hj : p.status = .joining)
    (hg : p.generation.isSome) (d : Option Instant) :
    Runs sizes l kept s ({ s.withSession k.proxyId fun p => { p with status := .active } with
      convergenceDeadline := d }, []) := by
  obtain ⟨hk, hp⟩ := current_of_session hs
  have hcore : (s.withSession k.proxyId fun p => { p with status := .active }).core = _ :=
    core_withSession hp
  exact Runs.move id fun _ _ => (Move.activate hk hj hg).to hcore

end

/-- A turn that leaves the controller settled, keeps what holds of its readiness, and is made of
moves. -/
structure Settles (sizes : Sizes) (l : ControllerLabel) (kept : Prop) (s : ControllerState)
    (t : Turn) : Prop where
  settled : t.1.phase.Settled
  lit : s.phase.Lit → t.1.phase.Lit
  due : s.phase.Due → t.1.phase.Due
  runs : Runs sizes l kept s t

lemma startDeferredFrom_spec (now : Instant) (queue : List SessionKey) (s : ControllerState)
    (h : s.phase.Staged queue) (hbusy : s.phase.Busy) :
    Settles sizes l kept s (startDeferredFrom now queue s) := by
  induction queue generalizing s with
  | nil => exact ⟨⟨h.defer, hbusy, fun _ => rfl⟩, id, id, .quiet rfl id⟩
  | cons k queue ih =>
    unfold startDeferredFrom
    split
    · rename_i hsome
      refine ⟨⟨h.defer, hbusy, fun hnone => ?_⟩, id, id, .quiet rfl id⟩
      rw [show s.reconciliation = none from hnone] at hsome
      cases hsome
    · rename_i hnone
      have hrecon : s.reconciliation = none := Option.not_isSome_iff_eq_none.1 hnone
      dsimp only
      split
      · rename_i hskip
        have hstaged : { s with deferredJoins := queue }.phase.Staged queue := by
          refine (h.dequeue fun st hst hjoining => ?_).defer
          obtain ⟨p, hp, rfl⟩ := session_of_phase hst
          cases hknown : p.stage.known with
          | false => rfl
          | true =>
            refine absurd (Option.filter_eq_some_iff.2 ⟨hp, ?_⟩)
              (Option.eq_none_iff_forall_ne_some.1 hskip p)
            rw [Bool.and_eq_true]
            exact ⟨decide_eq_true hjoining, hknown⟩
        obtain ⟨hsettled, hlit, hdue, hruns⟩ := ih { s with deferredJoins := queue } hstaged hbusy
        exact ⟨hsettled, hlit, hdue, hruns.after rfl id⟩
      · rename_i p hp
        obtain ⟨hs, hp⟩ := Option.filter_eq_some_iff.1 hp
        rw [Bool.and_eq_true, decide_eq_true_eq] at hp
        have hcurrent := phase_current (s := s) hs
        have huntold : p.fleetReady = false := by
          cases ht : p.fleetReady with
          | false => rfl
          | true => cases (h.told _ _ hcurrent.1 ht).symm.trans hp.1
        split
        · rename_i hready
          have hs' : { s with deferredJoins := queue }.session k = some p := hs
          obtain ⟨hstaged, hbusy', habides⟩ := reconcileWith_spec hs' huntold hrecon h.defer now
          obtain ⟨hsettled, hlit, hdue, hruns⟩ := ih _ hstaged hbusy'
          refine ⟨hsettled, fun hl => hlit (habides.lit hl), fun _ => hdue fun hr => ?_,
            ((runs_reconcileWith hs' hp.2 huntold now).andThen hruns).after rfl id⟩
          rw [habides.ready] at hr
          cases hr.symm.trans hready
        · rename_i hready
          have hs' : { s with deferredJoins := queue }.session k = some p := hs
          obtain ⟨hsettled, hlit, hdue, hruns⟩ := ih _
            (staged_activate hs' hrecon h.defer _) (busy_of_none hrecon)
          refine ⟨hsettled, fun _ => hlit fun hr => absurd hr hready,
            fun _ => hdue fun _ _ => .inl ?_,
            ((runs_activate hs' hp.1 hp.2 _).before hruns).after rfl id⟩
          exact Option.isSome_or.trans (Bool.or_true _)

end Chan.Control.ControllerState
