import Chan.Control.Core
import Chan.Control.Index

namespace Chan.Control
open Utf AssocMap Function

variable {s : ControllerState} {f : ProxySession → ProxySession}

structure Stage where
  incarnation : Nat
  status : ProxyStatus
  known : Bool
  told : Bool
  deriving DecidableEq

def ProxySession.stage (p : ProxySession) : Stage :=
  ⟨p.incarnation, p.status, p.generation.isSome, p.fleetReady⟩

/-- The controller's readiness, its reconciliation and what that waits for. -/
structure Phase where
  ready : Bool
  deadline : Option Instant
  recon : Option Reconciliation
  deferred : List SessionKey
  stage : ProxyId → Option Stage
  commands : Uuid → Option PendingCommand
  nextUuid : Uuid

def ControllerState.phase (s : ControllerState) : Phase where
  ready := s.ready
  deadline := s.convergenceDeadline
  recon := s.reconciliation
  deferred := s.deferredJoins
  stage proxyId := (s.proxies.lookup proxyId).map ProxySession.stage
  commands := s.commands.lookup
  nextUuid := s.nextUuid

namespace ControllerState

def Exact (s : ControllerState) : Prop := s.Counted ∧ s.Totalled

lemma core_live (s : ControllerState) (p : ProxyId) :
    s.core.live p = (s.proxies.lookup p).map ProxySession.live := rfl

lemma phase_stage (s : ControllerState) (p : ProxyId) :
    s.phase.stage p = (s.proxies.lookup p).map ProxySession.stage := rfl

lemma lookup_withSession : (s.withSession p f).proxies.lookup q =
      if q = p then (s.proxies.lookup p).map f else s.proxies.lookup q := lookup_modify ..

lemma core_withSession (h : s.proxies.lookup p = some x) :
    (s.withSession p f).core = s.core.setLive p (f x).live := by
  have hlive : (s.withSession p f).core.live = update s.core.live p (some (f x).live) := by
    funext q
    show ((s.withSession p f).proxies.lookup q).map ProxySession.live = _
    rw [lookup_withSession, update_apply]
    split
    · rw [h]
      rfl
    · rfl
  rw [Core.setLive, ← hlive]
  rfl

lemma core_withSession_none
    (h : s.proxies.lookup p = none) : (s.withSession p f).core = s.core := by
  have hlive : (s.withSession p f).core.live = s.core.live := by
    funext q
    show ((s.withSession p f).proxies.lookup q).map ProxySession.live = _
    rw [lookup_withSession]
    split
    · rename_i hq
      rw [h, hq, core_live, h]
      rfl
    · rfl
  show { s.core with live := (s.withSession p f).core.live } = s.core
  rw [hlive]

lemma setLive_self_eq (h : s.proxies.lookup p = some x) :
    s.core.setLive p x.live = s.core := by
  have hlive : update s.core.live p (some x.live) = s.core.live :=
    update_eq_self_iff.2 (by rw [core_live, h]; rfl)
  rw [Core.setLive, hlive]

lemma core_withSession_quiet (hf : ∀ x, s.proxies.lookup p = some x → (f x).live = x.live) :
    (s.withSession p f).core = s.core := by
  cases h : s.proxies.lookup p with
  | none => exact core_withSession_none h
  | some x => rw [core_withSession h, hf x h, setLive_self_eq h]

lemma phase_withSession (h : s.proxies.lookup p = some x) :
    (s.withSession p f).phase =
      { s.phase with stage := update s.phase.stage p (some (f x).stage) } := by
  have hstage : (s.withSession p f).phase.stage = update s.phase.stage p (some (f x).stage) := by
    funext q
    show ((s.withSession p f).proxies.lookup q).map ProxySession.stage = _
    rw [lookup_withSession, update_apply]
    split
    · rw [h]
      rfl
    · rfl
  rw [← hstage]
  rfl

lemma phase_withSession_quiet (hf : ∀ x, s.proxies.lookup p = some x → (f x).stage = x.stage) :
    (s.withSession p f).phase = s.phase := by
  have hstage : (s.withSession p f).phase.stage = s.phase.stage := by
    funext q
    show ((s.withSession p f).proxies.lookup q).map ProxySession.stage = _
    rw [lookup_withSession]
    split
    · rename_i hq
      cases h : s.proxies.lookup p with
      | none => rw [hq, phase_stage, h]; rfl
      | some x => rw [hq, phase_stage, h, Option.map_some, Option.map_some, hf x h, Option.map_some]
    · rfl
  show { s.phase with stage := (s.withSession p f).phase.stage } = s.phase
  rw [hstage]

lemma touch_core (s : ControllerState) :
    (s.touch k now).core = s.core := core_withSession_quiet fun _ _ => rfl

lemma touch_phase (s : ControllerState) (k : SessionKey) (now : Instant) :
    (s.touch k now).phase = s.phase := phase_withSession_quiet fun _ _ => rfl

lemma current_of_session (h : s.session k = some p) :
    s.core.Current k p.live ∧ s.proxies.lookup k.proxyId = some p := by
  obtain ⟨hp, hi⟩ := Option.filter_eq_some_iff.1 h
  exact ⟨⟨by rw [core_live, hp]; rfl, of_decide_eq_true hi⟩, hp⟩

lemma session_of_lookup (h : s.proxies.lookup q = some p) :
    s.session ⟨q, p.incarnation⟩ = some p :=
  Option.filter_eq_some_iff.2 ⟨h, decide_eq_true rfl⟩

lemma session_of_current (h : s.core.Current k x) :
    ∃ p, s.session k = some p ∧ p.live = x := by
  obtain ⟨hlive, hi⟩ := h
  obtain ⟨p, hp, rfl⟩ := Option.map_eq_some_iff.1 hlive
  exact ⟨p, Option.filter_eq_some_iff.2 ⟨hp, decide_eq_true hi⟩, rfl⟩

lemma mem_sessions : (k, p) ∈ s.sessions ↔ s.session k = some p := by
  simp only [sessions, List.mem_map, Prod.exists, Prod.mk.injEq]
  constructor
  · rintro ⟨q, p', hmem, rfl, rfl⟩
    exact session_of_lookup (mem_sorted.1 hmem)
  · intro h
    obtain ⟨hp, hi⟩ := Option.filter_eq_some_iff.1 h
    exact ⟨k.proxyId, p, mem_sorted.2 hp, SessionKey.ext rfl (of_decide_eq_true hi), rfl⟩

lemma nodup_sessions : (s.sessions.map Prod.fst).Nodup := by
  refine List.Nodup.of_map SessionKey.proxyId ?_
  have hmap : (s.sessions.map Prod.fst).map SessionKey.proxyId =
      (sorted s.proxies).map Prod.fst := by
    simp only [sessions, List.map_map]
    rfl
  rw [hmap]
  exact nodup_sorted s.proxies

lemma anyActive_iff :
    s.anyActive = true ↔ ∃ p x, s.core.live p = some x ∧ x.status = .active := by
  simp only [anyActive, List.any_eq_true, decide_eq_true_eq]
  constructor
  · rintro ⟨e, he, hactive⟩
    exact ⟨e.1, e.2.live, by rw [core_live, AList.mem_lookup_iff.2 he]; rfl, hactive⟩
  · rintro ⟨p, x, hx, hactive⟩
    obtain ⟨y, hy, rfl⟩ := Option.map_eq_some_iff.1 hx
    exact ⟨⟨p, y⟩, AList.mem_lookup_iff.1 hy, hactive⟩

lemma removePending_eq (s : ControllerState) (K : TunnelKey) :
    ∃ occupancy index perSession, s.removePending K = { s with
      pending := s.pending.erase K
      ownerOccupancy := occupancy
      pendingIndex := index
      pendingPerSession := perSession } := by
  unfold removePending
  split
  · rename_i hnone
    refine ⟨s.ownerOccupancy, s.pendingIndex, s.pendingPerSession, ?_⟩
    rw [erase_of_lookup_none hnone]
  · obtain ⟨occupancy, h⟩ := removeOwnerKey_eq
    rw [h]
    exact ⟨occupancy, _, _, rfl⟩

lemma removePendings_eq (keys : List TunnelKey) (s : ControllerState) :
    ∃ pending occupancy index perSession, s.removePendings keys = { s with
        pending := pending
        ownerOccupancy := occupancy
        pendingIndex := index
        pendingPerSession := perSession } ∧
      ∀ K, pending.lookup K = if K ∈ keys then none else s.pending.lookup K := by
  induction keys generalizing s with
  | nil => exact ⟨s.pending, _, _, _, rfl, fun K => by rw [if_neg List.not_mem_nil]⟩
  | cons key keys ih =>
    obtain ⟨occupancy, index, perSession, hkey⟩ := s.removePending_eq key
    obtain ⟨pending, occupancy', index', perSession', hkeys, hlookup⟩ := ih (s.removePending key)
    refine ⟨pending, occupancy', index', perSession', ?_, fun K => ?_⟩
    · show (s.removePending key).removePendings keys = _
      rw [hkeys, hkey]
    · rw [hlookup K, hkey]
      exact ite_mem_lookup_erase s.pending key keys K

lemma Counted.removePendings (h : s.Counted) (keys : List TunnelKey) :
    (s.removePendings keys).Counted := by
  induction keys generalizing s with
  | nil => exact h
  | cons key keys ih => exact ih (h.removePending key)

lemma Exact.removePendings (h : s.Exact) (keys : List TunnelKey) :
    (s.removePendings keys).Exact := by
  refine ⟨h.1.removePendings keys, ?_⟩
  obtain ⟨_, _, _, _, heq, _⟩ := removePendings_eq keys s
  rw [heq]
  exact h.2

lemma core_removePendings :
    ∃ q, (s.removePendings keys).core = { s.core with pending := q } ∧ Sub q s.core.pending ∧
      ∀ K ∈ keys, q K = none := by
  obtain ⟨pending, _, _, _, heq, hlookup⟩ := removePendings_eq keys s
  refine ⟨pending.lookup, by rw [heq]; rfl, fun K claim hc => ?_, fun K hK => ?_⟩
  · exact (Option.ite_none_left_eq_some.1 ((hlookup K).symm.trans hc)).2
  · exact (hlookup K).trans (if_pos hK)

lemma phase_removePendings : (s.removePendings keys).phase = s.phase := by
  obtain ⟨_, _, _, _, heq, _⟩ := removePendings_eq keys s
  rw [heq]
  rfl

lemma core_removePendingForSession :
    ∃ q, (s.removePendingForSession k).core = { s.core with pending := q } ∧
      Sub q s.core.pending ∧ ∀ K claim, q K = some claim → claim.session ≠ k := by
  obtain ⟨q, hcore, hsub, hnone⟩ := core_removePendings
  refine ⟨q, hcore, hsub, fun K claim hc hs => ?_⟩
  have hK : K ∈ keysWhere (fun _ claim => decide (claim.session = k)) s.pending :=
    mem_keysWhere.2 ⟨claim, hsub K claim hc, decide_eq_true hs⟩
  cases (hnone K hK).symm.trans hc

lemma removeTunnel_eq (s : ControllerState) (K : TunnelKey) :
    ∃ occupancy, s.removeTunnel K = { s with
      tunnels := s.tunnels.erase K
      ownerOccupancy := occupancy } := by
  unfold removeTunnel
  split
  · obtain ⟨occupancy, h⟩ := removeOwnerKey_eq
    exact ⟨occupancy, h⟩
  · rename_i hnone
    refine ⟨s.ownerOccupancy, ?_⟩
    rw [erase_of_lookup_none (Option.not_isSome_iff_eq_none.1 hnone)]

lemma removeTunnels_eq (keys : List TunnelKey) (s : ControllerState) :
    ∃ tunnels occupancy, s.removeTunnels keys = { s with
        tunnels := tunnels
        ownerOccupancy := occupancy } ∧
      ∀ K, tunnels.lookup K = if K ∈ keys then none else s.tunnels.lookup K := by
  induction keys generalizing s with
  | nil => exact ⟨s.tunnels, _, rfl, fun K => by rw [if_neg List.not_mem_nil]⟩
  | cons key keys ih =>
    obtain ⟨occupancy, hkey⟩ := s.removeTunnel_eq key
    obtain ⟨tunnels, occupancy', hkeys, hlookup⟩ := ih (s.removeTunnel key)
    refine ⟨tunnels, occupancy', ?_, fun K => ?_⟩
    · show (s.removeTunnel key).removeTunnels keys = _
      rw [hkeys, hkey]
    · rw [hlookup K, hkey]
      exact ite_mem_lookup_erase s.tunnels key keys K

lemma Counted.removeTunnels (h : s.Counted) (keys : List TunnelKey) :
    (s.removeTunnels keys).Counted := by
  induction keys generalizing s with
  | nil => exact h
  | cons key keys ih => exact ih (h.removeTunnel key)

lemma removeTunnels_keysWhere :
    ∃ tunnels occupancy, s.removeTunnels (keysWhere test s.tunnels) = { s with
        tunnels := tunnels
        ownerOccupancy := occupancy } ∧
      ∀ K, tunnels.lookup K = (s.tunnels.lookup K).filter fun o => !test K o := by
  obtain ⟨tunnels, occupancy, heq, hlookup⟩ := removeTunnels_eq (keysWhere test s.tunnels) s
  refine ⟨tunnels, occupancy, heq, fun K => ?_⟩
  rw [hlookup K]
  cases hK : s.tunnels.lookup K with
  | none => rw [ite_self, Option.filter_none]
  | some o =>
    by_cases ht : test K o = true
    · rw [if_pos (mem_keysWhere.2 ⟨o, hK, ht⟩), Option.filter_some, ht]
      rfl
    · have hnot : K ∉ keysWhere test s.tunnels := by
        intro hmem
        obtain ⟨o', ho', ht'⟩ := mem_keysWhere.1 hmem
        cases hK.symm.trans ho'
        exact ht ht'
      rw [if_neg hnot, Option.filter_some, Bool.eq_false_iff.2 ht]
      rfl

lemma removeTunnelsForSession_eq : ∃ tunnels occupancy, s.removeTunnelsForSession k = { s with
        tunnels := tunnels
        ownerOccupancy := occupancy } ∧ tunnels.lookup = s.core.tunnelsBut k := by
  obtain ⟨tunnels, occupancy, heq, hlookup⟩ :=
    removeTunnels_keysWhere
  refine ⟨tunnels, occupancy, heq, funext fun K => (hlookup K).trans ?_⟩
  simp only [Core.tunnelsBut, ne_eq, decide_not]
  rfl

lemma replaceTunnels_eq (tunnels : Map TunnelKey OwnedTunnel) (s : ControllerState) :
    ∃ occupancy, s.replaceTunnels tunnels = { s with
      tunnels := tunnels
      ownerOccupancy := occupancy } := by
  obtain ⟨occupancy, h⟩ := foldl_addOwnerKey_eq (tunnels.keys ++ s.pending.keys)
    { s with tunnels := tunnels, ownerOccupancy := ∅ }
  exact ⟨occupancy, h⟩

lemma lookup_replaceBrowserSessions
    (h : s.replaceBrowserSessions.browserSessions.lookup i = some o) :
    (s.browserSessions.lookup i = some o ∧ (s.browserOrphanUsage.lookup o.session).isSome) ∨
    ∃ p j, s.session o.session = some p ∧ p.isFleetReady = true ∧
      p.browserSessions.lookup j = some o.row ∧ o.row.adminSessionId = i := by
  rcases lookup_foldl_insert_eq_some h with ⟨⟨k, row⟩, hmem, rfl, rfl⟩ | hold
  · obtain ⟨⟨k', p⟩, hsession, hrow⟩ := List.mem_flatMap.1 hmem
    split at hrow
    · rename_i hready
      obtain ⟨e, he, heq⟩ := List.mem_map.1 hrow
      cases heq
      exact .inr ⟨p, e.1, mem_sessions.1 hsession, hready, AList.mem_lookup_iff.2 he, rfl⟩
    · cases hrow
  · rw [lookup_retain] at hold
    exact .inl (Option.filter_eq_some_iff.1 hold)

lemma removeOrphanUsage_eq (s : ControllerState) :
    ∃ total, s.removeOrphanUsage k = { s with
      orphanUsage := s.orphanUsage.erase k
      orphanTotal := total } := by
  unfold removeOrphanUsage
  split
  · rename_i hnone
    exact ⟨s.orphanTotal, by rw [erase_of_lookup_none hnone]⟩
  · exact ⟨_, rfl⟩

lemma removeBrowserOrphanUsage_eq (s : ControllerState) :
    ∃ total, s.removeBrowserOrphanUsage k = { s with
      browserOrphanUsage := s.browserOrphanUsage.erase k
      browserOrphanTotal := total } := by
  unfold removeBrowserOrphanUsage
  split
  · rename_i hnone
    exact ⟨s.browserOrphanTotal, by rw [erase_of_lookup_none hnone]⟩
  · exact ⟨_, rfl⟩

lemma forgetOrphan_eq (s : ControllerState) (k : SessionKey) :
    ∃ total browserTotal, s.forgetOrphan k = { s with
      orphanUsage := s.orphanUsage.erase k
      orphanTotal := total
      browserOrphanUsage := s.browserOrphanUsage.erase k
      browserOrphanTotal := browserTotal
      browserSessions := retain (fun _ o => decide (o.session ≠ k)) s.browserSessions } := by
  obtain ⟨total, h⟩ := s.removeOrphanUsage_eq
  obtain ⟨browserTotal, h'⟩ := (s.removeOrphanUsage k).removeBrowserOrphanUsage_eq
  refine ⟨total, browserTotal, ?_⟩
  rw [forgetOrphan, removeBrowserSessionsForSession, h', h]

lemma Totalled.forgetOrphan (h : s.Totalled) (k : SessionKey) :
    (s.forgetOrphan k).Totalled := (h.removeOrphanUsage k).removeBrowserOrphanUsage k

lemma foldl_forgetOrphan_eq (ks : List SessionKey) (s : ControllerState) :
    ∃ usage total browserUsage browserTotal browser,
      ks.foldl (fun s k => s.forgetOrphan k) s = { s with
        orphanUsage := usage
        orphanTotal := total
        browserOrphanUsage := browserUsage
        browserOrphanTotal := browserTotal
        browserSessions := browser } ∧
      (∀ k, usage.lookup k = if k ∈ ks then none else s.orphanUsage.lookup k) ∧
      (∀ k, browserUsage.lookup k = if k ∈ ks then none else s.browserOrphanUsage.lookup k) ∧
      ∀ i o, browser.lookup i = some o ↔ s.browserSessions.lookup i = some o ∧ o.session ∉ ks := by
  induction ks generalizing s with
  | nil =>
    refine ⟨_, _, _, _, _, rfl, fun k => ?_, fun k => ?_, fun i o => ?_⟩
    · rw [if_neg List.not_mem_nil]
    · rw [if_neg List.not_mem_nil]
    · simp
  | cons k ks ih =>
    obtain ⟨_, _, hk⟩ := s.forgetOrphan_eq k
    obtain ⟨usage, total, browserUsage, browserTotal, browser, heq, husage, hbusage, hbrowser⟩ :=
      ih (s.forgetOrphan k)
    refine ⟨usage, total, browserUsage, browserTotal, browser, ?_, fun k' => ?_, fun k' => ?_,
      fun i o => ?_⟩
    · rw [List.foldl_cons, heq, hk]
    · rw [husage k', hk]
      exact ite_mem_lookup_erase s.orphanUsage k ks k'
    · rw [hbusage k', hk]
      exact ite_mem_lookup_erase s.browserOrphanUsage k ks k'
    · rw [hbrowser i o, hk]
      simp only [lookup_retain, Option.filter_eq_some_iff, decide_eq_true_eq, List.mem_cons, not_or,
        and_assoc]

lemma Totalled.foldl_forgetOrphan (h : s.Totalled) (ks : List SessionKey) :
    (ks.foldl (fun s k => s.forgetOrphan k) s).Totalled := by
  induction ks generalizing s with
  | nil => exact h
  | cons k ks ih => exact ih (h.forgetOrphan k)

lemma clearOrphans_eq : ∃ usage total browserUsage browserTotal browser,
      s.clearOrphansForProxyAuthority proxyId bootId = { s with
        orphanUsage := usage
        orphanTotal := total
        browserOrphanUsage := browserUsage
        browserOrphanTotal := browserTotal
        browserSessions := browser
        orphanDeadlines := retain (fun session _ => decide (session.proxyId ≠ proxyId))
          s.orphanDeadlines
        disconnectedProxyDeadlines := s.disconnectedProxyDeadlines.erase (proxyId, bootId) } ∧
      (∀ k, usage.lookup k = if k.proxyId = proxyId then none else s.orphanUsage.lookup k) ∧
      (∀ k, browserUsage.lookup k =
        if k.proxyId = proxyId then none else s.browserOrphanUsage.lookup k) ∧
      ∀ i o, browser.lookup i = some o → s.browserSessions.lookup i = some o ∧
        (o.session.proxyId = proxyId → s.browserOrphanUsage.lookup o.session = none) := by
  have hmem : ∀ k, k ∈ ((s.orphanUsage.keys ++ s.browserOrphanUsage.keys ++
      s.orphanDeadlines.keys).filter fun session => session.proxyId = proxyId).dedup ↔
      (k.proxyId = proxyId ∧ (k ∈ s.orphanUsage ∨ k ∈ s.browserOrphanUsage ∨
        k ∈ s.orphanDeadlines)) := by
    intro k
    simp only [List.mem_dedup, List.mem_filter, List.mem_append, decide_eq_true_eq,
      ← AList.mem_keys, or_assoc]
    exact and_comm
  have hnone : ∀ {β : Type} (m : Map SessionKey β) k, k ∉ m → m.lookup k = none :=
    fun m k hk => AList.lookup_eq_none.2 hk
  obtain ⟨usage, total, browserUsage, browserTotal, browser, heq, husage, hbusage, hbrowser⟩ :=
    foldl_forgetOrphan_eq ((s.orphanUsage.keys ++ s.browserOrphanUsage.keys ++
      s.orphanDeadlines.keys).filter fun session => session.proxyId = proxyId).dedup s
  refine ⟨usage, total, browserUsage, browserTotal, browser, ?_, fun k => ?_, fun k => ?_,
    fun i o ho => ?_⟩
  · unfold clearOrphansForProxyAuthority
    dsimp only
    rw [heq]
  · grind
  · grind
  · obtain ⟨ho, hnot⟩ := (hbrowser i o).1 ho
    refine ⟨ho, fun hp => hnone _ _ fun hk => hnot ((hmem _).2 ⟨hp, .inr (.inl hk)⟩)⟩

end ControllerState

end Chan.Control
