import Chan.Control.Frame
import Chan.Control.Sound

namespace Chan.Control
open Utf AssocMap Function List

variable {s : ControllerState}

lemma Move.to (h : Move sizes l kept c es c') (hc : c'' = c') : Move sizes l kept c es c'' :=
  hc ▸ h

def Runs (sizes : Sizes) (l : ControllerLabel) (kept : Prop) (s : ControllerState) (t : Turn) :
    Prop :=
  s.core.Sound sizes → s.Exact → Moves sizes l kept s.core t.2 t.1.core ∧ t.1.Exact

namespace Runs

variable {sizes : Sizes} {l : ControllerLabel} {kept : Prop}

lemma andThen (h : Runs sizes l kept s t) (h' : Runs sizes l kept t.1 (f t.1)) :
    Runs sizes l kept s (t.andThen f) := by
  intro hs he
  obtain ⟨hm, he'⟩ := h hs he
  obtain ⟨hm', he''⟩ := h' (hm.sound hs) he'
  exact ⟨hm.trans hm', he''⟩

lemma quiet (hcore : s'.core = s.core) (hexact : s.Exact → s'.Exact) :
    Runs sizes l kept s (s', []) := fun _ he => ⟨hcore ▸ .refl, hexact he⟩

lemma refl (s : ControllerState) : Runs sizes l kept s (s, []) := quiet rfl id

lemma move (hexact : s.Exact → t.1.Exact)
    (h : s.core.Sound sizes → s.Exact → Move sizes l kept s.core t.2 t.1.core) :
    Runs sizes l kept s t := fun hs he => ⟨.single (h hs he), hexact he⟩

lemma after (hcore : s'.core = s.core) (hexact : s.Exact → s'.Exact)
    (h : Runs sizes l kept s' t) : Runs sizes l kept s t := by
  intro hs he
  rw [← hcore] at hs ⊢
  exact h hs (hexact he)

lemma before (h : Runs sizes l kept s (s', [])) (h' : Runs sizes l kept s' t) :
    Runs sizes l kept s t := by
  intro hs he
  obtain ⟨hm, he'⟩ := h hs he
  obtain ⟨hm', he''⟩ := h' (hm.sound hs) he'
  exact ⟨hm.trans hm', he''⟩

lemma each (h : ∀ a ∈ as, ∀ s, Runs sizes l kept s (f s a))
    (s : ControllerState) : Runs sizes l kept s (Turn.each f as s) := by
  induction as generalizing s with
  | nil => exact refl s
  | cons a as ih =>
    exact (h a mem_cons_self s).andThen (ih (fun b hb => h b (mem_cons_of_mem a hb)) _)

lemma emit (hes : ∀ e ∈ es, e.Plain) : Runs sizes l kept s (s, es) :=
  move id fun _ _ => .emit hes le_rfl

lemma append (h : Runs sizes l kept s t) (hes : ∀ e ∈ es, e.Plain) :
    Runs sizes l kept s (t.1, t.2 ++ es) := h.andThen (f := fun s => (s, es)) (emit hes)

end Runs

namespace ControllerState

variable {sizes : Sizes} {l : ControllerLabel} {kept : Prop}

lemma runs_issueKill (s : ControllerState) :
    Runs sizes l kept s (s.issueKill k ids purpose now) :=
  Runs.move id fun _ _ =>
    (Move.kill rfl).to (congrArg
      (fun m => { s.core with commands := m, nextUuid := s.nextUuid + 1 })
      (lookup_insert_fun s.commands s.nextUuid
        ⟨k, ids.toFinset, purpose, now + commandTimeout⟩))

lemma runs_issueKills : Runs sizes l kept s (s.issueKills groups purpose now) :=
  Runs.each (fun _ _ s => s.runs_issueKill) s

lemma runs_dropCommand (s : ControllerState) :
    Runs sizes l kept s (dropCommand outcome s i) := by
  unfold dropCommand
  split
  · exact .refl s
  · rename_i command hcommand
    exact Runs.move id fun _ _ =>
      (Move.settleCommand hcommand).to (congrArg (fun m => { s.core with commands := m })
        (lookup_erase_fun s.commands i))

lemma runs_expireCommand (s : ControllerState) :
    Runs sizes l kept s (expireCommand s i) := by
  unfold expireCommand
  split
  · exact .refl s
  · rename_i command hcommand
    have hmove : Move sizes l kept s.core
        (if command.purpose = .runtime then [.commandSettled i .timedOut] else [])
        { s.core with commands := (s.commands.erase i).lookup } :=
      (Move.settleCommand hcommand).to (congrArg (fun m => { s.core with commands := m })
        (lookup_erase_fun s.commands i))
    split
    · rename_i hpurpose
      rw [hpurpose] at hmove
      exact Runs.move id fun _ _ => hmove
    · rename_i hpurpose
      rw [hpurpose] at hmove
      exact Runs.move id fun _ _ => hmove

lemma runs_dropRevocations (ids : List Uuid) (hnodup : ids.Nodup) (s : ControllerState)
    (h : ∀ i ∈ ids, (s.sessionRevocations.lookup i).isSome) :
    Runs sizes l kept s (Turn.each (dropRevocation outcome) ids s) := by
  induction ids generalizing s with
  | nil => exact .refl s
  | cons i ids ih =>
    obtain ⟨hnot, hnodup⟩ := List.nodup_cons.1 hnodup
    obtain ⟨revocation, hrevocation⟩ := Option.isSome_iff_exists.1 (h i mem_cons_self)
    have hone : Runs sizes l kept s (dropRevocation outcome s i) :=
      Runs.move id fun _ _ =>
        (Move.settleRevocation hrevocation).to (congrArg (fun m => { s.core with revocations := m })
          (lookup_erase_fun s.sessionRevocations i))
    refine hone.andThen (ih hnodup _ fun i' hj => ?_)
    have hne : i' ≠ i := fun he => hnot (he ▸ hj)
    rw [dropRevocation, AList.lookup_erase_ne hne]
    exact h i' (mem_cons_of_mem i hj)

lemma nodup_keysWhere (p : α → β → Bool) (m : Map α β) : (keysWhere p m).Nodup :=
  (List.filter_sublist.map _).nodup m.nodupKeys

lemma runs_settleRevocations (test : PendingSessionRevocation → Bool) (s : ControllerState) :
    Runs sizes l kept s (Turn.each (dropRevocation outcome)
      (keysWhere (fun _ command => test command) s.sessionRevocations) s) := by
  refine runs_dropRevocations _ (nodup_keysWhere _ _) s fun i hid => ?_
  obtain ⟨revocation, hrevocation, _⟩ := mem_keysWhere.1 hid
  rw [hrevocation]
  rfl

lemma runs_removePendings (keys : List TunnelKey) (s : ControllerState) :
    Runs sizes l kept s (s.removePendings keys, []) := by
  obtain ⟨q, hcore, hsub, _⟩ := core_removePendings
  exact Runs.move (fun he => he.removePendings keys) fun _ _ =>
    (Move.shrink (.refl _) hsub (.refl _)).to hcore

lemma live_rememberRemoval (i : Uuid) (p : ProxySession) :
    (p.rememberRemoval i).live =
      { p.live with removed := (p.rememberRemoval i).removedRegistrations } := by
  unfold ProxySession.rememberRemoval
  split <;> rfl

lemma stage_rememberRemoval (i : Uuid) (p : ProxySession) :
    (p.rememberRemoval i).stage = p.stage := by
  unfold ProxySession.rememberRemoval
  split <;> rfl

lemma rememberRemoval_spec (i : Uuid) (p : ProxySession) :
    p.removedRegistrations ⊆ (p.rememberRemoval i).removedRegistrations ∧
    (p.rememberRemoval i).removedRegistrations ⊆ insert i p.removedRegistrations ∧
    ((p.rememberRemoval i).removedRegistrations.card < maxRemovedRegistrations →
      i ∈ (p.rememberRemoval i).removedRegistrations) := by
  unfold ProxySession.rememberRemoval
  split
  · exact ⟨Finset.subset_insert .., Finset.Subset.refl _, fun _ => Finset.mem_insert_self ..⟩
  · rename_i hfull
    exact ⟨Finset.Subset.refl _, Finset.subset_insert .., fun hlt => absurd hlt hfull⟩

lemma runs_rememberRemoval (hs : s.session k = some p)
    (hl : l.op.session = some k) (hi : i ∈ l.op.registrations) :
    Runs sizes l kept s (s.withSession k.proxyId (ProxySession.rememberRemoval i), []) := by
  obtain ⟨hk, hp⟩ := current_of_session hs
  obtain ⟨hsub, hinsert, _⟩ := rememberRemoval_spec i p
  have hcore := core_withSession (f := ProxySession.rememberRemoval i) hp
  rw [live_rememberRemoval] at hcore
  exact Runs.move id fun _ _ => (Move.remember hk hl hi hsub hinsert).to hcore

section

variable (sizes)

lemma dropRow_eq : ∃ proxies, s.dropRow sizes k i = { s with proxies := proxies } := by
  unfold dropRow
  split
  · exact ⟨s.proxies, rfl⟩
  · exact ⟨_, rfl⟩

lemma core_dropRow (hs : s.session k = some p) (i : Uuid) :
    ∃ removed, (s.dropRow sizes k i).core = s.core.setLive k.proxyId
        { p.live with rows := update p.live.rows i none, removed := removed } ∧
      p.live.removed ⊆ removed ∧ removed ⊆ insert i p.live.removed ∧
      (removed.card < maxRemovedRegistrations → p.live.rows i ≠ none → i ∈ removed) ∧
      (p.live.rows i = none → removed = p.live.removed) := by
  obtain ⟨hk, hp⟩ := current_of_session hs
  unfold dropRow
  rw [hs, Option.bind_some]
  split
  · rename_i hnone
    refine ⟨p.live.removed, ?_, Finset.Subset.refl _, Finset.subset_insert .., ?_, fun _ => rfl⟩
    · rw [update_eq_self_iff.2 hnone.symm]
      exact (setLive_self_eq hp).symm
    · exact fun _ hne => absurd hnone hne
  · rename_i row hrow
    obtain ⟨hsub, hinsert, hroom⟩ := rememberRemoval_spec i p
    refine ⟨(p.rememberRemoval i).removedRegistrations, ?_, hsub, hinsert, fun hlt _ => hroom hlt,
      fun hnone => ?_⟩
    · rw [core_withSession hp]
      refine congrArg (s.core.setLive k.proxyId) ?_
      have hlive := live_rememberRemoval i p
      have hrows := lookup_erase_fun p.rows i
      show { (p.rememberRemoval i).live with rows := (p.rows.erase i).lookup } = _
      rw [hlive, hrows]
      rfl
    · cases hnone.symm.trans hrow

lemma dropRow_of_not_current (hs : s.session k = none) :
    s.dropRow sizes k i = s := by
  rw [dropRow, hs, Option.bind_none]

lemma phase_dropRow (k : SessionKey) (i : Uuid) (s : ControllerState) :
    (s.dropRow sizes k i).phase = s.phase := by
  unfold dropRow
  split
  · rfl
  · exact phase_withSession_quiet fun p _ => stage_rememberRemoval i p

lemma withdraw_eq (k : SessionKey) (i : Uuid) (s : ControllerState) :
    ∃ tunnels occupancy, s.withdraw sizes k i = { s.dropRow sizes k i with
        tunnels := tunnels
        ownerOccupancy := occupancy } ∧ tunnels.lookup = s.core.without k i := by
  obtain ⟨proxies, hdrop⟩ := dropRow_eq sizes
  obtain ⟨tunnels, occupancy, heq, hlookup⟩ := removeTunnels_keysWhere
  have hsame : (s.dropRow sizes k i).tunnels = s.tunnels := by rw [hdrop]
  rw [hsame] at heq hlookup
  refine ⟨tunnels, occupancy, heq, funext fun K => (hlookup K).trans ?_⟩
  simp only [Core.without, decide_not]
  rfl

lemma core_withdraw_current (hs : s.session k = some p) :
    ∃ removed, (s.withdraw sizes k i).core =
        { s.core.setLive k.proxyId
            { p.live with rows := update p.live.rows i none, removed := removed } with
          tunnels := s.core.without k i } ∧
      p.live.removed ⊆ removed ∧ removed ⊆ insert i p.live.removed ∧
      (removed.card < maxRemovedRegistrations → p.live.rows i ≠ none → i ∈ removed) ∧
      (p.live.rows i = none → removed = p.live.removed) := by
  obtain ⟨tunnels, occupancy, heq, hlookup⟩ := withdraw_eq sizes k i s
  obtain ⟨removed, hcore, hrest⟩ := core_dropRow sizes hs i
  refine ⟨removed, ?_, hrest⟩
  rw [← hcore, heq, ← hlookup]
  rfl

lemma core_withdraw_lost (hs : s.session k = none) :
    (s.withdraw sizes k i).core = { s.core with tunnels := s.core.without k i } := by
  obtain ⟨tunnels, occupancy, heq, hlookup⟩ := withdraw_eq sizes k i s
  rw [heq, dropRow_of_not_current sizes hs, ← hlookup]
  rfl

lemma Exact.withdraw (h : s.Exact) (k : SessionKey) (i : Uuid) :
    (s.withdraw sizes k i).Exact := by
  obtain ⟨proxies, hdrop⟩ := dropRow_eq sizes
  obtain ⟨tunnels, occupancy, heq, _⟩ := withdraw_eq sizes k i s
  refine ⟨Counted.removeTunnels ?_ _, ?_⟩
  · rw [hdrop]
    exact h.1
  · rw [heq, hdrop]
    exact h.2

lemma phase_withdraw (k : SessionKey) (i : Uuid) :
    (s.withdraw sizes k i).phase = s.phase := by
  obtain ⟨tunnels, occupancy, heq, _⟩ := withdraw_eq sizes k i s
  rw [← phase_dropRow sizes k i s, heq]
  rfl

end

lemma ledger_mem (hr : r ∈ rows) :
    1 ≤ (ledger sizes rows).rows ∧ sizes.rowResidentBytes r ≤ (ledger sizes rows).bytes ∧
    ((ledger sizes rows).rows ≤ 1 → ledger sizes rows = ⟨1, sizes.rowResidentBytes r⟩) := by
  rw [ledger_eq_add hr]
  refine ⟨Nat.le_add_left .., Nat.le_add_left .., fun hone => ?_⟩
  have hzero : (rows.erase r).length = 0 := by
    have hone : (rows.erase r).length + 1 ≤ 1 := hone
    omega
  rw [eq_nil_of_length_eq_zero hzero]
  simp [ledger, FleetUsage.add]

section

variable (sizes)

lemma runs_withdraw : Runs sizes l kept s (s.withdraw sizes k i, []) := by
  refine Runs.move (fun he => he.withdraw sizes k i) fun _ _ => ?_
  cases hs : s.session k with
  | none =>
    exact (Move.shrink Core.without_sub (.refl _) (.refl _)).to (core_withdraw_lost sizes hs)
  | some p =>
    obtain ⟨hk, _⟩ := current_of_session hs
    obtain ⟨removed, hcore, hsub, hinsert, hroom, hnone⟩ := core_withdraw_current sizes hs
    exact (Move.dropRow hk hsub hinsert hroom hnone).to hcore

lemma orphanBytes_eq_some (h : s.orphanBytes sizes k i = some b) :
    s.proxies.lookup k.proxyId = none ∧ ∃ K o, s.tunnels.lookup K = some o ∧ o.session = k ∧
      o.row.registrationId = i ∧ sizes.rowResidentBytes o.row = b := by
  unfold orphanBytes at h
  split at h
  · cases h
  · rename_i hp
    obtain ⟨e, he, rfl⟩ := Option.map_eq_some_iff.1 h
    have htest := List.find?_some he
    obtain ⟨hsession, hid⟩ := of_decide_eq_true htest
    exact ⟨Option.not_isSome_iff_eq_none.1 hp, e.1, e.2,
      AList.mem_lookup_iff.2 (mem_of_find?_eq_some he), hsession, hid, rfl⟩

lemma runs_removeRegistration (k : SessionKey) (i : Uuid) (s : ControllerState)
    (hkept : kept → s.proxies.lookup k.proxyId = none → ∀ u, s.orphanUsage.lookup k = some u →
      u.rows ≤ 1 → s.browserOrphanUsage.lookup k = none) :
    Runs sizes l kept s (s.removeRegistration sizes k i, []) := by
  unfold removeRegistration
  dsimp only
  split
  · exact runs_withdraw sizes
  · rename_i b hb
    intro hs he
    obtain ⟨hp, K, o, ho, rfl, rfl, rfl⟩ := orphanBytes_eq_some sizes hb
    have hnot : s.session o.session = none := by rw [session, hp]; rfl
    -- The row is of a lost session, so it is counted there.
    have howned := hs.owned K o ho
    have hlost : s.core.Lost o.session ∧ (s.core.usage o.session).isSome := by
      rcases howned with ⟨x, hx, _⟩ | hlost
      · obtain ⟨p, hp', _⟩ := session_of_current hx
        cases hnot.symm.trans hp'
      · exact hlost
    obtain ⟨u, hu⟩ := Option.isSome_iff_exists.1 hlost.2
    have hu : s.orphanUsage.lookup o.session = some u := hu
    obtain ⟨_, _, rows, rfl, hmem⟩ := hs.usage _ u hu
    obtain ⟨hrows, hbytes, hone⟩ := ledger_mem (hmem K o ho rfl)
    obtain ⟨tunnels, occupancy, heq, hlookup⟩ :=
      withdraw_eq sizes o.session o.row.registrationId s
    have hexact := he.withdraw sizes o.session o.row.registrationId
    rw [dropRow_of_not_current sizes hnot] at heq
    rw [heq] at hexact ⊢
    unfold releaseOrphanRow
    dsimp only
    rw [hu]
    dsimp only
    split
    · rename_i hzero
      have hlast : (ledger sizes rows).rows ≤ 1 := by
        have hzero : (ledger sizes rows).rows - 1 = 0 := hzero
        omega
      refine ⟨.single ((Move.releaseLast hlost.1 ho hu hlast fun hk => hkept hk hp _ hu hlast).to
        ?_), hexact.1, ?_, he.2.2⟩
      · show { s.core with
          tunnels := tunnels.lookup
          usage := (s.orphanUsage.erase o.session).lookup
          deadlines := (s.orphanDeadlines.erase o.session).lookup } = _
        rw [hlookup, lookup_erase_fun, lookup_erase_fun]
        rfl
      · show s.orphanTotal.sub _ = usageSum (s.orphanUsage.erase o.session)
        rw [usageSum_erase hu, ← hone hlast, he.2.1]
    · rename_i hmore
      have hlt : 1 < (ledger sizes rows).rows := by
        have hmore : ¬(ledger sizes rows).rows - 1 = 0 := hmore
        omega
      refine ⟨.single ((Move.release hlost.1 ho hu hlt).to ?_), hexact.1, ?_, he.2.2⟩
      · show { s.core with
          tunnels := tunnels.lookup
          usage := (s.orphanUsage.insert o.session
            ((ledger sizes rows).sub ⟨1, sizes.rowResidentBytes o.row⟩)).lookup } = _
        rw [hlookup, lookup_insert_fun]
        rfl
      · show s.orphanTotal.sub _ = usageSum (s.orphanUsage.insert o.session _)
        rw [usageSum_replace hu hrows hbytes, he.2.1]

end

lemma Exact.removePendingForSession (h : s.Exact) (k : SessionKey) :
    (s.removePendingForSession k).Exact := h.removePendings _

lemma Exact.removeTunnelsForSession (h : s.Exact) (k : SessionKey) :
    (s.removeTunnelsForSession k).Exact := by
  refine ⟨h.1.removeTunnels _, ?_⟩
  obtain ⟨_, _, heq, _⟩ := removeTunnelsForSession_eq
  rw [heq]
  exact h.2

lemma runs_leaveReadiness : Runs sizes l kept s (s.leaveReadinessIfNoActiveSessions, []) := by
  unfold leaveReadinessIfNoActiveSessions
  split
  · exact .refl s
  · rename_i hactive
    exact Runs.move id fun _ _ =>
      .unready fun p x hx hstatus => hactive (anyActive_iff.2 ⟨p, x, hx, hstatus⟩)

lemma core_removeTunnelsForSession :
    (s.removeTunnelsForSession k).core = { s.core with tunnels := s.core.tunnelsBut k } := by
  obtain ⟨tunnels, occupancy, heq, htunnels⟩ := removeTunnelsForSession_eq
  rw [heq, ← htunnels]
  rfl

lemma core_removeBrowserSessionsForSession : (s.removeBrowserSessionsForSession k).core =
      { s.core with browserSessions := s.core.browserBut k } := by
  have hlookup : (s.removeBrowserSessionsForSession k).browserSessions.lookup =
      s.core.browserBut k := funext fun i => lookup_retain ..
  rw [← hlookup]
  rfl

lemma runs_forceResync (hs : s.session k = some p)
    (hl : l.op.session = some k) (hop : l.op.mayResync = true) :
    Runs sizes l kept s (s.forceResync k g) := by
  obtain ⟨hk, hp⟩ := current_of_session hs
  let s₁ := s.withSession k.proxyId ProxySession.resynced
  let s₂ := (s₁.removeTunnelsForSession k).removeBrowserSessionsForSession k
  have hcore₁ : s₁.core = s.core.setLive k.proxyId p.live.resynced := by
    exact core_withSession hp
  obtain ⟨q, hcore₃, hsub, hclaims⟩ := core_removePendingForSession
  have hcore₂ : s₂.core = { s.core.setLive k.proxyId p.live.resynced with
      tunnels := s.core.tunnelsBut k
      browserSessions := s.core.browserBut k } := by
    rw [core_removeBrowserSessionsForSession, core_removeTunnelsForSession, hcore₁]
    rfl
  have hexact : s.Exact → (s₂.removePendingForSession k).Exact := by
    intro he
    have he₁ : s₁.Exact := he
    have he₂ : s₂.Exact := he₁.removeTunnelsForSession k
    exact he₂.removePendingForSession k
  have hresync : Runs sizes l kept s (s₂.removePendingForSession k,
      [(s₂.removePendingForSession k).leaveReadinessIfNoActiveSessions.send k
      (.resyncRequired g)]) :=
    Runs.move hexact fun _ _ => by
      refine (Move.resync hk hl hop (q := q) ?_ hclaims).to ?_
      · rw [hcore₂] at hsub
        exact hsub
      · rw [hcore₃, hcore₂]
  have hleave := hresync.andThen (f := fun s => (s.leaveReadinessIfNoActiveSessions, []))
    runs_leaveReadiness
  exact hleave

def publishedRows (k : SessionKey) (s : ControllerState) : List TunnelRow :=
  (s.tunnels.entries.filter fun e => decide (e.2.session = k)).map fun e => e.2.row

lemma mem_publishedRows (h : s.tunnels.lookup K = some o) :
    o.row ∈ s.publishedRows o.session :=
  List.mem_map.2 ⟨⟨K, o⟩, List.mem_filter.2 ⟨AList.mem_lookup_iff.1 h, decide_eq_true rfl⟩, rfl⟩

lemma publishedUsage_eq (k : SessionKey) (s : ControllerState) :
    s.publishedUsage sizes k = ledger sizes (s.publishedRows k) := by
  have hfold : ∀ (es : List (Sigma fun _ : TunnelKey => OwnedTunnel)) (u : FleetUsage),
      es.foldl (fun u e => u.add ⟨1, sizes.rowResidentBytes e.2.row⟩) u =
        u.add (ledger sizes (es.map fun e => e.2.row)) := by
    intro es
    induction es with
    | nil => exact fun u => rfl
    | cons e es ih =>
      intro u
      rw [foldl_cons, ih, map_cons]
      simp only [ledger, FleetUsage.add, length_cons, map_cons, sum_cons,
        FleetUsage.mk.injEq]
      omega
  rw [publishedUsage, hfold]
  simp only [FleetUsage.add, FleetUsage.zero, Nat.zero_add]
  rfl

lemma removeOrphanUsage_none (h : s.orphanUsage.lookup k = none) :
    s.removeOrphanUsage k = s := by rw [removeOrphanUsage, h]

lemma removeBrowserOrphanUsage_none
    (h : s.browserOrphanUsage.lookup k = none) : s.removeBrowserOrphanUsage k = s := by
  rw [removeBrowserOrphanUsage, h]

lemma core_eraseProxy : { s with proxies := s.proxies.erase p }.core = s.core.dropLive p :=
  congrArg (fun m => { s.core with live := m }) (map_lookup_erase_fun _ s.proxies p)

def markerUntil (authority : ProxyId × Uuid) (now : Instant) (s : ControllerState) : Instant :=
  (s.disconnectedProxyDeadlines.lookup authority).elim (now + disconnectedAuthorityRetention)
    (max · (now + disconnectedAuthorityRetention))

lemma core_retainAuthority (k : SessionKey) (boot : Uuid) (now : Instant) (s : ControllerState) :
    (s.retainAuthority k boot now).core = { s.core.dropLive k.proxyId with
      markers := update s.core.markers (k.proxyId, boot)
        (some (s.markerUntil (k.proxyId, boot) now)) } := by
  show { { s with proxies := s.proxies.erase k.proxyId }.core with
    markers := (s.disconnectedProxyDeadlines.insert (k.proxyId, boot)
      (s.markerUntil (k.proxyId, boot) now)).lookup } = _
  rw [core_eraseProxy, lookup_insert_fun]
  rfl

lemma le_markerUntil (authority : ProxyId × Uuid) (now : Instant) (s : ControllerState) :
    now + disconnectedAuthorityRetention ≤ s.markerUntil authority now ∧
      ∀ d, s.core.markers authority = some d → d ≤ s.markerUntil authority now := by
  unfold markerUntil
  cases h : s.disconnectedProxyDeadlines.lookup authority with
  | none => exact ⟨le_rfl, fun d hd => by cases h.symm.trans hd⟩
  | some d' =>
    refine ⟨le_max_right .., fun d hd => ?_⟩
    cases h.symm.trans hd
    exact le_max_left ..

lemma retainRows_spec (h : s.orphanUsage.lookup k = none) (u : FleetUsage) :
    ∃ us, (s.retainRows k u).core = { s.core with usage := us } ∧
      (s.Exact → (s.retainRows k u).Exact) ∧
      (u.rows = 0 ∧ us = s.core.usage ∨ 0 < u.rows ∧ us = update s.core.usage k (some u)) ∧
      (s.retainRows k u).browserOrphanUsage = s.browserOrphanUsage := by
  unfold retainRows
  rw [removeOrphanUsage_none h]
  split
  · rename_i hpos
    refine ⟨update s.core.usage k (some u), ?_, fun he => ⟨he.1, ?_, he.2.2⟩,
      .inr ⟨hpos, rfl⟩, rfl⟩
    · exact congrArg (fun m => { s.core with usage := m }) (lookup_insert_fun s.orphanUsage k u)
    · exact (congrArg (·.add u) he.2.1).trans (usageSum_insert h).symm
  · rename_i hpos
    exact ⟨s.core.usage, rfl, id, .inl ⟨Nat.eq_zero_of_not_pos hpos, rfl⟩, rfl⟩

lemma retainBrowserSessions_spec (h : s.browserOrphanUsage.lookup k = none)
    (u : FleetUsage) :
    ∃ bs, (s.retainBrowserSessions k u).core = { s.core with browserUsage := bs } ∧
      (s.Exact → (s.retainBrowserSessions k u).Exact) ∧
      (u.rows = 0 ∧ bs = s.core.browserUsage ∨
        0 < u.rows ∧ bs = update s.core.browserUsage k (some u)) := by
  unfold retainBrowserSessions
  rw [removeBrowserOrphanUsage_none h]
  split
  · rename_i hpos
    refine ⟨update s.core.browserUsage k (some u), ?_, fun he => ⟨he.1, he.2.1, ?_⟩,
      .inr ⟨hpos, rfl⟩⟩
    · exact congrArg (fun m => { s.core with browserUsage := m })
        (lookup_insert_fun s.browserOrphanUsage k u)
    · exact (congrArg (·.add u) he.2.2).trans (usageSum_insert h).symm
  · rename_i hpos
    exact ⟨s.core.browserUsage, rfl, id, .inl ⟨Nat.eq_zero_of_not_pos hpos, rfl⟩⟩

lemma orphanUntil_spec (k : SessionKey) (d : Instant) (s : ControllerState) (kept : Prop)
    [Decidable kept] :
    ∃ ds, (if kept then s.orphanUntil k d else s).core = { s.core with deadlines := ds } ∧
      (s.Exact → (if kept then s.orphanUntil k d else s).Exact) ∧
      (∀ k', k' ≠ k → ds k' = s.core.deadlines k') ∧ (kept → (ds k).isSome) ∧
      (if kept then s.orphanUntil k d else s).orphanUsage = s.orphanUsage ∧
      (if kept then s.orphanUntil k d else s).browserOrphanUsage = s.browserOrphanUsage := by
  split
  · refine ⟨update s.core.deadlines k (some d), ?_, id, fun k' hk' => update_of_ne hk' ..,
      fun _ => by rw [update_self]; rfl, rfl, rfl⟩
    exact congrArg (fun m => { s.core with deadlines := m })
      (lookup_insert_fun s.orphanDeadlines k d)
  · rename_i hnot
    exact ⟨s.core.deadlines, rfl, id, fun _ _ => rfl, fun h => absurd h hnot, rfl, rfl⟩

section

variable (sizes)

lemma runs_orphan (hs : s.session k = some p) :
    Runs sizes l kept s (s.orphan sizes k p l.now, []) := by
  intro hsound he
  obtain ⟨hk, hp⟩ := current_of_session hs
  obtain ⟨hmarker, hold⟩ := le_markerUntil (k.proxyId, p.bootId) l.now s
  have hu : s.orphanUsage.lookup k = none := by
    cases hu : s.orphanUsage.lookup k with
    | none => rfl
    | some u => exact absurd (hsound.usage k u hu).1 hk.not_lost
  have hb : s.browserOrphanUsage.lookup k = none := by
    cases hb : s.browserOrphanUsage.lookup k with
    | none => rfl
    | some u =>
      exact absurd (hsound.browserUsage k (Option.isSome_iff_exists.2 ⟨u, hb⟩)) hk.not_lost
  have hcore₀ := core_retainAuthority k p.bootId l.now s
  have hrows₀ : (s.retainAuthority k p.bootId l.now).publishedUsage sizes k =
      ledger sizes (s.publishedRows k) := publishedUsage_eq k s
  unfold orphan
  dsimp only
  rw [hrows₀]
  generalize hs₁ : (if 0 < (ledger sizes (s.publishedRows k)).rows ∨
    0 < p.browserSessions.entries.length then
    (s.retainAuthority k p.bootId l.now).orphanUntil k (l.now + convergenceWindow)
    else s.retainAuthority k p.bootId l.now) = s₁
  obtain ⟨ds, hcore₁, he₁, hds, hsome, hu₁, hb₁⟩ := orphanUntil_spec k (l.now + convergenceWindow)
    (s.retainAuthority k p.bootId l.now) (0 < (ledger sizes (s.publishedRows k)).rows ∨
      0 < p.browserSessions.entries.length)
  rw [hs₁] at hcore₁ he₁ hu₁ hb₁
  have hu₁ : s₁.orphanUsage.lookup k = none := by rw [hu₁]; exact hu
  obtain ⟨us, hcore₂, he₂, hus, hb₂⟩ := retainRows_spec hu₁ (ledger sizes (s.publishedRows k))
  generalize s₁.retainRows k (ledger sizes (s.publishedRows k)) = s₂ at hcore₂ he₂ hb₂ ⊢
  have hb₂ : s₂.browserOrphanUsage.lookup k = none := by rw [hb₂, hb₁]; exact hb
  obtain ⟨bs, hcore₃, he₃, hbs⟩ := retainBrowserSessions_spec hb₂
    ⟨p.browserSessions.entries.length, p.browserSessionResidentBytes⟩
  generalize s₂.retainBrowserSessions k
    ⟨p.browserSessions.entries.length, p.browserSessionResidentBytes⟩ = s₃ at hcore₃ he₃ ⊢
  obtain ⟨q, hcore₄, hq, hclaims⟩ := core_removePendingForSession
  have husage : (us = s.core.usage ∧ ∀ K o, s.core.tunnels K = some o → o.session ≠ k) ∨
      ∃ rows, us = update s.core.usage k (some (ledger sizes rows)) ∧ (ds k).isSome ∧
        ∀ K o, s.core.tunnels K = some o → o.session = k → o.row ∈ rows := by
    have hmem : ∀ K o, s.core.tunnels K = some o → o.session = k → o.row ∈ s.publishedRows k := by
      rintro K o ho rfl
      exact mem_publishedRows ho
    have hsame : s₁.core.usage = s.core.usage := by rw [hcore₁, hcore₀]; rfl
    rcases hus with ⟨hzero, hus⟩ | ⟨hpos, hus⟩
    · refine .inl ⟨hus.trans hsame, fun K o ho hsession => ?_⟩
      have hrow := hmem K o ho hsession
      rw [eq_nil_of_length_eq_zero hzero] at hrow
      cases hrow
    · exact .inr ⟨s.publishedRows k, hsame ▸ hus, hsome (.inl hpos), hmem⟩
  have hbrowser : (bs = s.core.browserUsage ∧ ∀ i, p.live.browserSessions i = none) ∨
      ∃ u, bs = update s.core.browserUsage k (some u) ∧ (ds k).isSome := by
    have hsame : s₂.core.browserUsage = s.core.browserUsage := by
      rw [hcore₂, hcore₁, hcore₀]
      rfl
    rcases hbs with ⟨hzero, hbs⟩ | ⟨hpos, hbs⟩
    · refine .inl ⟨hbs.trans hsame, fun i => ?_⟩
      show p.browserSessions.entries.dlookup i = none
      rw [eq_nil_of_length_eq_zero hzero]
      rfl
    · exact .inr ⟨_, hsame ▸ hbs, hsome (.inr hpos)⟩
  refine ⟨.single ((Move.lose hk hds rfl hmarker hold husage hbrowser ?_ hclaims).to ?_),
    (he₃ (he₂ (he₁ he))).removePendingForSession k⟩
  · have hsame : s₃.core.pending = s.core.pending := by
      rw [hcore₃, hcore₂, hcore₁, hcore₀]
      rfl
    exact hsame ▸ hq
  · rw [hcore₄, hcore₃, hcore₂, hcore₁, hcore₀]
    rfl

end

end ControllerState

end Chan.Control
