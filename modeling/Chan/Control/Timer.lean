import Chan.Control.Results

namespace Chan.Control.ControllerState
open Utf AssocMap Function List

variable {s : ControllerState} {sizes : Sizes} {l : ControllerLabel} {kept : Prop}

lemma removeTunnels_sublist (keys : List TunnelKey) (s : ControllerState) :
    (s.removeTunnels keys).tunnels.entries.Sublist s.tunnels.entries := by
  induction keys generalizing s with
  | nil => exact List.Sublist.refl _
  | cons K keys ih =>
    refine (ih (s.removeTunnel K)).trans ?_
    obtain ⟨occupancy, heq⟩ := s.removeTunnel_eq K
    rw [heq]
    exact kerase_sublist ..

lemma expireOrphan_eq (s : ControllerState) (k : SessionKey) :
    ∃ tunnels occupancy total browserTotal, s.expireOrphan k = { s with
        orphanDeadlines := s.orphanDeadlines.erase k
        orphanUsage := s.orphanUsage.erase k
        orphanTotal := total
        browserOrphanUsage := s.browserOrphanUsage.erase k
        browserOrphanTotal := browserTotal
        tunnels := tunnels
        ownerOccupancy := occupancy
        browserSessions := retain (fun _ o => decide (o.session ≠ k)) s.browserSessions } ∧
      tunnels.lookup = s.core.tunnelsBut k ∧ tunnels.entries.Sublist s.tunnels.entries := by
  let s₁ := { s with orphanDeadlines := s.orphanDeadlines.erase k }
  obtain ⟨total, h₁⟩ := s₁.removeOrphanUsage_eq
  obtain ⟨browserTotal, h₂⟩ := (s₁.removeOrphanUsage k).removeBrowserOrphanUsage_eq
  obtain ⟨tunnels, occupancy, h₃, htunnels⟩ := removeTunnelsForSession_eq
  have hsub := removeTunnels_sublist (keysWhere (fun _ o => decide (o.session = k))
    ((s₁.removeOrphanUsage k).removeBrowserOrphanUsage k).tunnels)
    ((s₁.removeOrphanUsage k).removeBrowserOrphanUsage k)
  refine ⟨tunnels, occupancy, total, browserTotal, ?_, ?_, ?_⟩
  · show (((s₁.removeOrphanUsage k).removeBrowserOrphanUsage k).removeTunnelsForSession
      k).removeBrowserSessionsForSession k = _
    rw [h₃, h₂, h₁]
    rfl
  · rw [htunnels, h₂, h₁]
    rfl
  · rw [← removeTunnelsForSession, h₃, h₂, h₁] at hsub
    exact hsub

lemma Exact.removeOrphanUsage (h : s.Exact) (k : SessionKey) :
    (s.removeOrphanUsage k).Exact := by
  refine ⟨?_, h.2.removeOrphanUsage k⟩
  obtain ⟨_, heq⟩ := s.removeOrphanUsage_eq
  rw [heq]
  exact h.1

lemma Exact.removeBrowserOrphanUsage (h : s.Exact) (k : SessionKey) :
    (s.removeBrowserOrphanUsage k).Exact := by
  refine ⟨?_, h.2.removeBrowserOrphanUsage k⟩
  obtain ⟨_, heq⟩ := s.removeBrowserOrphanUsage_eq
  rw [heq]
  exact h.1

lemma Exact.expireOrphan (h : s.Exact) (k : SessionKey) :
    (s.expireOrphan k).Exact := by
  have h₁ : { s with orphanDeadlines := s.orphanDeadlines.erase k }.Exact := h
  exact ((h₁.removeOrphanUsage k).removeBrowserOrphanUsage k).removeTunnelsForSession k

lemma serves_expireOrphan : Serves sizes l kept s (s.expireOrphan k, []) := by
  obtain ⟨tunnels, occupancy, total, browserTotal, heq, htunnels, _⟩ := s.expireOrphan_eq k
  have hbrowser : (retain (fun _ o => decide (o.session ≠ k)) s.browserSessions).lookup =
    s.core.browserBut k := funext fun i => lookup_retain ..
  have hcore : (s.expireOrphan k).core = { s.core with
      deadlines := update s.core.deadlines k none
      usage := update s.core.usage k none
      browserUsage := update s.core.browserUsage k none
      tunnels := s.core.tunnelsBut k
      browserSessions := s.core.browserBut k } := by
    rw [heq]
    show { s.core with
      deadlines := (s.orphanDeadlines.erase k).lookup
      usage := (s.orphanUsage.erase k).lookup
      browserUsage := (s.browserOrphanUsage.erase k).lookup
      tunnels := tunnels.lookup
      browserSessions := (retain (fun _ (o : OwnedBrowserSession) => decide (o.session ≠ k))
        s.browserSessions).lookup } = _
    rw [lookup_erase_fun, lookup_erase_fun, lookup_erase_fun, htunnels, hbrowser]
    rfl
  refine .keep (by rw [heq]; rfl) (Runs.move (fun he => he.expireOrphan k) fun _ _ => ?_)
  exact Move.expireOrphan.to hcore

lemma serves_expireDeadlines (s : ControllerState) :
    Serves sizes l kept s (s.expireDeadlines l.now, []) := by
  have hclaims : ∀ keys, Serves sizes l kept s (s.removePendings keys, []) := fun keys =>
    .keep phase_removePendings (runs_removePendings keys s)
  have horphans : ∀ (ks : List SessionKey) (s : ControllerState),
      Serves sizes l kept s (ks.foldl expireOrphan s, []) := by
    intro ks
    induction ks with
    | nil => exact Serves.refl
    | cons k ks ih => exact fun s => (serves_expireOrphan).before (ih _)
  have hmarkers : ∀ s : ControllerState, Serves sizes l kept s ({ s with
      disconnectedProxyDeadlines :=
        retain (fun _ deadline => decide (l.now < deadline)) s.disconnectedProxyDeadlines },
        []) := by
    intro s
    refine .keep rfl (Runs.move id fun _ _ => Move.expireMarkers.to ?_)
    exact congrArg (fun m => { s.core with markers := m })
      (funext fun a => lookup_retain _ s.disconnectedProxyDeadlines a)
  exact (hclaims _).before ((horphans _ _).before (hmarkers _))

lemma foldl_expireOrphan_spec (ks : List SessionKey) (s : ControllerState) :
    (ks.foldl expireOrphan s).proxies = s.proxies ∧
    (∀ k u, (ks.foldl expireOrphan s).orphanUsage.lookup k = some u →
      k ∉ ks ∧ s.orphanUsage.lookup k = some u) ∧
    (∀ k u, (ks.foldl expireOrphan s).browserOrphanUsage.lookup k = some u →
      k ∉ ks ∧ s.browserOrphanUsage.lookup k = some u) ∧
    (ks.foldl expireOrphan s).tunnels.entries.Sublist s.tunnels.entries := by
  induction ks generalizing s with
  | nil =>
    exact ⟨rfl, fun k u hu => ⟨not_mem_nil, hu⟩, fun k u hu => ⟨not_mem_nil, hu⟩,
      List.Sublist.refl _⟩
  | cons k ks ih =>
    obtain ⟨tunnels, _, _, _, heq, _, hsub⟩ := s.expireOrphan_eq k
    obtain ⟨hproxies, husage, hbrowser, hrest⟩ := ih (s.expireOrphan k)
    refine ⟨?_, fun k' u hu => ?_, fun k' u hu => ?_, ?_⟩
    · rw [foldl_cons, hproxies, heq]
    · grind
    · grind
    · rw [heq] at hrest
      rw [foldl_cons, heq]
      exact hrest.trans hsub

lemma expireDeadlines_spec (s : ControllerState) :
    (s.expireDeadlines now).proxies = s.proxies ∧
    (∀ k u, (s.expireDeadlines now).orphanUsage.lookup k = some u →
      s.orphanUsage.lookup k = some u ∧ ∀ d, s.orphanDeadlines.lookup k = some d → now < d) ∧
    (∀ k u, (s.expireDeadlines now).browserOrphanUsage.lookup k = some u →
      s.browserOrphanUsage.lookup k = some u ∧
        ∀ d, s.orphanDeadlines.lookup k = some d → now < d) ∧
    (s.expireDeadlines now).tunnels.entries.Sublist s.tunnels.entries := by
  obtain ⟨_, _, _, _, heq, _⟩ := removePendings_eq
    (keysWhere (fun _ claim => decide (claim.expiresAt ≤ now)) s.pending) s
  unfold expireDeadlines
  dsimp only
  rw [heq]
  obtain ⟨hproxies, husage, hbrowser, hsub⟩ := foldl_expireOrphan_spec
    (keysWhere (fun _ deadline => decide (deadline ≤ now)) s.orphanDeadlines) { s with
      pending := _, ownerOccupancy := _, pendingIndex := _, pendingPerSession := _ }
  have hdue : ∀ {k d}, k ∉ keysWhere (fun _ deadline => decide (deadline ≤ now)) s.orphanDeadlines →
      s.orphanDeadlines.lookup k = some d → now < d := fun hnot hd =>
    Nat.lt_of_not_le fun hle => hnot (mem_keysWhere.2 ⟨_, hd, decide_eq_true hle⟩)
  exact ⟨hproxies, fun k u hu => ⟨(husage k u hu).2, fun d => hdue (husage k u hu).1⟩,
    fun k u hu => ⟨(hbrowser k u hu).2, fun d => hdue (hbrowser k u hu).1⟩, hsub⟩

def expiredRows (s : ControllerState) (k : SessionKey) (wallNow : WallTime) : Nat :=
  (s.tunnels.entries.filter fun e =>
    decide (e.2.session = k) && decide (e.2.row.admissionLeaseExpiresAt ≤ wallNow)).length

/-- The timer takes no last counted row of a lost session that browser sessions are counted for. -/
def Spared (s : ControllerState) (l : ControllerLabel) : Prop :=
  l.op = .tick → ∀ k u, s.orphanUsage.lookup k = some u →
    (s.browserOrphanUsage.lookup k).isSome → s.proxies.lookup k.proxyId = none →
    (∀ d, s.orphanDeadlines.lookup k = some d → l.now < d) → s.expiredRows k l.wallNow < u.rows

/-- Some registrations are fewer than what is counted for each lost session with browser
sessions. -/
def Fewer (s : ControllerState) (es : List (SessionKey × Uuid)) : Prop :=
  ∀ k u, s.orphanUsage.lookup k = some u → (s.browserOrphanUsage.lookup k).isSome →
    s.proxies.lookup k.proxyId = none → (es.filter fun e => decide (e.1 = k)).length < u.rows

lemma length_filter_session (e : SessionKey × Uuid) (es : List (SessionKey × Uuid))
    (k : SessionKey) : ((e :: es).filter fun e => decide (e.1 = k)).length =
      (es.filter fun e => decide (e.1 = k)).length + if e.1 = k then 1 else 0 := by
  by_cases hk : e.1 = k <;> simp [hk]

lemma removeRegistration_usage (k : SessionKey) (i : Uuid) (s : ControllerState) :
    (s.removeRegistration sizes k i).browserOrphanUsage = s.browserOrphanUsage ∧
    (∀ p, (s.removeRegistration sizes k i).proxies.lookup p = none → s.proxies.lookup p = none) ∧
    ∀ k' u', (s.removeRegistration sizes k i).orphanUsage.lookup k' = some u' →
      ∃ u, s.orphanUsage.lookup k' = some u ∧ u.rows ≤ u'.rows + if k' = k then 1 else 0 := by
  have hwithdraw : (s.withdraw sizes k i).browserOrphanUsage = s.browserOrphanUsage ∧
      (s.withdraw sizes k i).orphanUsage = s.orphanUsage := by
    obtain ⟨_, hdrop⟩ := dropRow_eq sizes
    obtain ⟨_, _, heq, _⟩ := withdraw_eq sizes k i s
    rw [heq, hdrop]
    exact ⟨rfl, rfl⟩
  have hphase : (s.removeRegistration sizes k i).phase = s.phase := phase_removeRegistration k i s
  refine ⟨?_, fun p hp => ?_, fun k' u' hu' => ?_⟩
  · refine Eq.trans ?_ hwithdraw.1
    unfold removeRegistration releaseOrphanRow
    dsimp only
    split
    · rfl
    · split
      · rfl
      · split <;> rfl
  · have hstage := congrArg (fun ph : Phase => ph.stage p) hphase
    rw [phase_stage, phase_stage, hp] at hstage
    exact Option.map_eq_none_iff.1 hstage.symm
  · have hsame : ∀ {u}, (s.withdraw sizes k i).orphanUsage.lookup k' = some u →
        s.orphanUsage.lookup k' = some u := fun hu => hwithdraw.2 ▸ hu
    unfold removeRegistration releaseOrphanRow at hu'
    dsimp only at hu'
    split at hu'
    · exact ⟨u', hsame hu', Nat.le_add_right ..⟩
    · split at hu'
      · exact ⟨u', hsame hu', Nat.le_add_right ..⟩
      · rename_i b _ usage husage
        split at hu'
        · exact ⟨u', hsame (lookup_erase_eq_some hu').2, Nat.le_add_right ..⟩
        · rcases lookup_insert_eq_some hu' with ⟨rfl, rfl⟩ | ⟨_, hu'⟩
          · refine ⟨usage, hsame husage, ?_⟩
            rw [if_pos rfl]
            show usage.rows ≤ usage.rows - 1 + 1
            omega
          · exact ⟨u', hsame hu', Nat.le_add_right ..⟩

lemma Fewer.removeRegistration (h : s.Fewer ((k, i) :: es)) :
    (s.removeRegistration sizes k i).Fewer es := by
  obtain ⟨hbrowser, hproxies, husage⟩ :
    (s.removeRegistration sizes k i).browserOrphanUsage = _ ∧ _ := removeRegistration_usage k i s
  intro k' u' hu' hb hp
  obtain ⟨u, hu, hle⟩ := husage k' u' hu'
  have hlt := h k' u hu (hbrowser ▸ hb) (hproxies _ hp)
  rw [length_filter_session] at hlt
  simp only [eq_comm (a := k)] at hlt
  omega

lemma serves_expireRegistrations (es : List (SessionKey × Uuid)) (s : ControllerState)
    (hfewer : kept → s.Fewer es) :
    Serves sizes l kept s (Turn.each (fun s e =>
      (s.removeRegistration sizes e.1 e.2).issueKill e.1 [e.2] .runtime now) es s) := by
  induction es generalizing s with
  | nil => exact .refl s
  | cons e es ih =>
    have hremove : Serves sizes l kept s (s.removeRegistration sizes e.1 e.2, []) := by
      refine .keep (phase_removeRegistration e.1 e.2 s)
        (runs_removeRegistration sizes e.1 e.2 s fun hkept hp u hu hone => ?_)
      -- A last counted row would be fewer than itself.
      refine Option.not_isSome_iff_eq_none.1 fun hb => ?_
      have hlt := hfewer hkept e.1 u hu hb hp
      rw [length_filter_session, if_pos rfl] at hlt
      omega
    refine (hremove.before (serves_issueKill _)).andThen (ih _ fun hkept => ?_)
    exact (hfewer hkept).removeRegistration

lemma serves_expireLeases (hop : l.op = .tick) (hkept : kept → s.Spared l) :
    Serves sizes l kept (s.expireDeadlines l.now)
      (expireLeases sizes l.now l.wallNow (s.expireDeadlines l.now)) := by
  obtain ⟨hproxies, husage, hbrowser, hsub⟩ := s.expireDeadlines_spec
  refine serves_expireRegistrations _ _ fun hk k u hu hb hp => ?_
  obtain ⟨hu, hdeadline⟩ := husage k u hu
  obtain ⟨b, hb⟩ := Option.isSome_iff_exists.1 hb
  refine Nat.lt_of_le_of_lt ?_ (hkept hk hop k u hu
    (Option.isSome_iff_exists.2 ⟨b, (hbrowser k b hb).1⟩) (hproxies ▸ hp) hdeadline)
  rw [filter_map, length_map, filter_filter]
  exact (hsub.filter _).length_le

lemma expireCommand_spec (h : s.phase.Staged q) (hspent : s.phase.Spent) :
    ∃ cs r, (expireCommand s i).1.phase = { s.phase with commands := cs, recon := r } ∧
      r.map Reconciliation.kind = s.phase.kind ∧ Sub cs s.phase.commands ∧
      (expireCommand s i).1.phase.Staged q ∧ (expireCommand s i).1.phase.Spent ∧
      ((∀ command, s.phase.commands i = some command → command.purpose = .runtime) →
        r = s.phase.recon) := by
  unfold expireCommand
  split
  · exact ⟨_, _, rfl, rfl, .refl _, h, hspent, fun _ => rfl⟩
  · rename_i command hcommand
    have hcommand : s.phase.commands i = some command := hcommand
    have hcommands := lookup_erase_fun s.commands i
    split
    · rename_i hpurpose
      let failed (r : Reconciliation) : Reconciliation :=
        { r with commandIds := r.commandIds.erase i, failed := true }
      have hphase : { s with
          commands := s.commands.erase i
          reconciliation := s.reconciliation.map failed }.phase = { s.phase with
            commands := update s.phase.commands i none
            recon := s.phase.recon.map failed } :=
        congrArg (fun m => { s.phase with commands := m, recon := s.phase.recon.map failed })
        hcommands
      have hkind : (s.phase.recon.map failed).map Reconciliation.kind = s.phase.kind := by
        rw [Option.map_map]
        rfl
      refine ⟨_, _, hphase, hkind, Sub.update_none _ i, ?_, ?_, fun hruntime => ?_⟩
      · grind [h.settle, Sub.update_none, Option.map_eq_some_iff]
      · intro r' hr' _
        obtain ⟨r, hr, rfl⟩ := Option.map_eq_some_iff.1 hr'
        rfl
      · cases hpurpose.symm.trans (hruntime command hcommand)
    · rename_i hpurpose
      have hphase : { s with commands := s.commands.erase i }.phase =
          { s.phase with commands := update s.phase.commands i none } :=
        congrArg (fun m => { s.phase with commands := m }) hcommands
      refine ⟨_, _, hphase, rfl, Sub.update_none _ i, ?_, hspent, fun _ => rfl⟩
      rw [hphase]
      refine h.settle rfl (fun r hr => ⟨r, hr, fun j hj => ⟨hj, ?_⟩⟩) (Sub.update_none _ i)
      obtain ⟨command', hcommand', hpurpose', _⟩ := h.backed r hr j hj
      refine update_of_ne (fun hji => ?_) ..
      rw [hji, hcommand] at hcommand'
      cases hcommand'
      cases hpurpose.symm.trans hpurpose'

lemma expireEach_spec (ids : List Uuid) (h : s.phase.Staged q)
    (hspent : s.phase.Spent) :
    ∃ cs r, (Turn.each expireCommand ids s).1.phase = { s.phase with commands := cs, recon := r } ∧
      r.map Reconciliation.kind = s.phase.kind ∧
      (Turn.each expireCommand ids s).1.phase.Staged q ∧
      (Turn.each expireCommand ids s).1.phase.Spent ∧
      ((∀ i ∈ ids, ∀ command, s.phase.commands i = some command → command.purpose = .runtime) →
        r = s.phase.recon) := by
  induction ids generalizing s with
  | nil => exact ⟨_, _, rfl, rfl, h, hspent, fun _ => rfl⟩
  | cons i ids ih =>
    obtain ⟨cs, r, hphase, hkind, hsub, hstaged, hspent', hruntime⟩ := expireCommand_spec h hspent
    obtain ⟨cs', r', hphase', hkind', hstaged', hspent'', hruntime'⟩ := ih hstaged hspent'
    rw [hphase] at hphase' hkind' hruntime'
    refine ⟨cs', r', hphase', hkind'.trans hkind, hstaged', hspent'', fun hall => ?_⟩
    rw [hruntime' fun j hj command hc => hall j (mem_cons_of_mem i hj) command
      (hsub j command hc)]
    exact hruntime (hall i mem_cons_self)

lemma serves_expireCommands : Serves sizes l kept s (s.expireCommands sizes l.now) := by
  intro h
  have hspent : s.phase.Spent := fun r hr hempty => absurd hempty (h.busy r hr)
  unfold expireCommands
  dsimp only
  obtain ⟨cs, r, hphase, hkind, hstaged, hspent', hruntime⟩ := expireEach_spec
    (keysWhere (fun _ command => decide (command.expiresAt ≤ l.now)) s.commands) h.staged hspent
  have hruns : Runs sizes l kept s (Turn.each expireCommand
      (keysWhere (fun _ command => decide (command.expiresAt ≤ l.now)) s.commands) s) :=
    Runs.each (fun i _ s => s.runs_expireCommand) s
  generalize hids : keysWhere (fun _ command => decide (command.expiresAt ≤ l.now)) s.commands = ids
    at *
  generalize Turn.each expireCommand ids s = t at *
  have hlit : s.phase.Lit → t.1.phase.Lit := by
    intro hl
    rw [hphase]
    exact hl
  have hdue : s.phase.Due → t.1.phase.Due := by
    intro hd
    rw [hphase]
    exact hd.mono rfl rfl (fun hi => hkind.trans hi) id
  have hdeferred : t.1.phase.deferred = s.phase.deferred := by rw [hphase]
  rw [← hdeferred] at hstaged
  split
  · obtain ⟨hsettled, hlit', hdue', hruns'⟩ : _ ∧ _ ∧ _ ∧ Runs sizes l kept t.1 _ :=
      finishReconciliation_spec hstaged
    refine ⟨hsettled, fun hl => hlit' ?_ (hlit hl), fun hd => hdue' ?_ (hdue hd),
      hruns.andThen hruns'⟩
    · intro r' hr' hempty hfailed
      cases (hspent' r' hr' hempty).symm.trans hfailed
    · intro r' _ _ hr' hempty hfailed
      cases (hspent' r' hr' hempty).symm.trans hfailed
  · rename_i hnone
    -- No command of the reconciliation has timed out, so it waits as before.
    have hrecon : r = s.phase.recon := by
      cases hr : s.phase.recon with
      | none =>
        rw [Phase.kind, hr] at hkind
        exact Option.map_eq_none_iff.1 hkind
      | some r₀ =>
        rw [← hr]
        refine hruntime fun i hi command hc => ?_
        cases hpurpose : command.purpose with
        | runtime => rfl
        | reconciliation =>
          refine absurd (Bool.and_eq_true_iff.2 ⟨?_, List.any_eq_true.2 ⟨i, hi, ?_⟩⟩) hnone
          · rw [show s.reconciliation = some r₀ from hr]
            rfl
          · rw [show s.commands.lookup i = some command from hc]
            exact decide_eq_true hpurpose
    have hsettled : t.1.phase.Settled := by
      refine ⟨hstaged, ?_, ?_⟩
      · rw [hphase, hrecon]
        exact h.busy
      · rw [hphase, hrecon]
        exact h.idle
    exact ⟨hsettled, hlit, hdue, hruns.append (fun _ he => by cases he)⟩

lemma serves_expireRevocations : Serves sizes l kept s (s.expireRevocations now) :=
  .keep (phase_dropRevocations _ s) (runs_settleRevocations _ s)

lemma serves_sendPing : Serves sizes l kept s (sendPing now s k) := by
  let ping (p : ProxySession) : ProxySession :=
    { p with
      lastPing := now
      outstandingPings := (p.outstandingPings ++ [s.nextPingNonce]).drop
        ((p.outstandingPings ++ [s.nextPingNonce]).length - maxOutstandingPings) }
  have hcore : (s.withSession k.proxyId ping).core = s.core := core_withSession_quiet fun _ _ => rfl
  have hphase : (s.withSession k.proxyId ping).phase = s.phase :=
    phase_withSession_quiet fun _ _ => rfl
  have hquiet : Serves sizes l kept s ({ s.withSession k.proxyId ping with
      nextPingNonce := (s.nextPingNonce + 1) % 2 ^ 64 }, []) := .quiet hcore hphase id
  refine hquiet.before (.emit fun e he => ?_)
  rw [List.mem_singleton.1 he]
  trivial

lemma serves_sendPings : Serves sizes l kept s (s.sendPings now) :=
  Serves.each (fun _ _ _ => serves_sendPing) s

lemma serves_buryDead (dead : List SessionKey) (s : ControllerState) :
    Serves sizes l kept s (s.buryDead sizes l.now dead) := by
  refine Serves.each (fun k _ s => ?_) s
  have hplain : ∀ e ∈ [Effect.retire k "proxy control heartbeat expired".toList], e.Plain := by
    intro e he
    rw [List.mem_singleton.1 he]
    trivial
  refine Serves.andThen ?_ (.emit hplain)
  cases hs : s.session k with
  | none =>
    have hnone : s.removeSession sizes k l.now = (s, []) := by
      rw [removeSession, removeSessionWith, hs]
    rw [hnone]
    exact .refl s
  | some p => exact serves_removeSession hs

lemma serves_heartbeat : Serves sizes l kept s (s.heartbeat sizes l.now) :=
  (serves_sendPings).andThen (serves_buryDead _ _)

lemma serves_beginInitialReconciliation (hready : s.ready = false)
    (hrecon : s.reconciliation = none) :
    Serves sizes l kept s (s.beginInitialReconciliation l.now) := by
  intro h
  have hdeferred : s.phase.deferred = [] := h.idle hrecon
  unfold beginInitialReconciliation
  dsimp only
  split
  · rename_i hactive
    refine ⟨⟨h.staged.deadline, h.busy, h.idle⟩, id, fun _ _ ha => ?_, .quiet rfl id⟩
    cases (anyActive_iff_active.2 ha).symm.trans hactive
  · rename_i hactive
    have hstaged := h.staged
    rw [hdeferred] at hstaged
    have hstaged' : (s.quarantine (s.candidates fun _ => true)).phase.Staged [] := hstaged
    obtain ⟨hstaged', hbusy, hsame, hlit, hdue, hruns⟩ :
      _ ∧ _ ∧ _ ∧ _ ∧ _ ∧ Runs sizes l kept _ _ :=
      restart_spec (s := s.quarantine (s.candidates fun _ => true)) hrecon hready hstaged' rfl
    have hempty := hsame.trans hdeferred
    have hactive := anyActive_iff_active.1 (Bool.eq_true_of_not_eq_false hactive)
    have hsettled : ((s.quarantine (s.candidates fun _ => true)).restart
        ((s.quarantine (s.candidates fun _ => true)).candidates fun _ => true)
        l.now).1.phase.Settled := by
      refine ⟨?_, hbusy, fun _ => hempty⟩
      rw [hempty]
      exact hstaged'
    exact ⟨hsettled, fun _ => hlit hactive, fun _ => hdue, hruns.after rfl id⟩

lemma serves_convergeIfDue : Serves sizes l kept s (s.convergeIfDue l.now) := by
  unfold convergeIfDue
  split
  · rename_i hwindow
    exact serves_beginInitialReconciliation hwindow.1 (Option.isNone_iff_eq_none.1 hwindow.2.1)
  · exact .refl s

lemma serves_tick_expired (hop : l.op = .tick)
    (hkept : kept → s.Spared l) :
    Serves sizes l kept (s.expireDeadlines l.now) (s.tick sizes l.now l.wallNow) := by
  unfold tick
  refine Serves.andThen ?_ serves_convergeIfDue
  refine Serves.andThen ?_ serves_heartbeat
  refine Serves.andThen ?_ serves_expireRevocations
  refine Serves.andThen ?_ serves_expireCommands
  exact serves_expireLeases hop hkept

lemma serves_tick (hop : l.op = .tick) (hkept : kept → s.Spared l) :
    Serves sizes l kept s (s.tick sizes l.now l.wallNow) :=
  s.serves_expireDeadlines.before (serves_tick_expired hop hkept)

lemma answers_call (hkept : kept → s.Spared l) (h : s.phase.Settled) :
    Answers sizes l kept s (s.call sizes l).turn := by
  unfold call
  split
  · exact (serves_beginSession h).answers
  · rename_i hop
    exact (serves_acceptSnapshot hop h).answers
  · rename_i hop
    exact (serves_tunnelUp _ hop h).answers
  · rename_i hop
    exact (serves_tunnelDown _ hop h).answers
  · rename_i hop
    exact (serves_refuseTunnelUp _ hop h).answers
  · rename_i hop
    exact (serves_refuseLeaseRefresh _ hop h).answers
  · rename_i hop
    exact (serves_browserSessionUp hop h).answers
  · rename_i hop
    exact (serves_browserSessionDown hop h).answers
  · rename_i hop
    exact (serves_requestAdmission hop h).answers
  · exact (serves_cancelAdmission h).answers
  · rename_i hop
    exact (serves_refreshLease hop h).answers
  · exact (serves_recordActivity h).answers
  · exact (serves_pong h).answers
  · rename_i hop
    exact answers_commandResult hop h
  · exact (serves_beginSessionRevocation h).answers
  · exact (serves_sessionRevocationResult h).answers
  · exact (serves_disconnect h).answers
  · rename_i hop
    exact (serves_requireResync hop h).answers
  · exact (serves_beginExactKill h).answers
  · exact (serves_beginOwnerKill h).answers
  · exact (serves_beginAllKill h).answers
  · rename_i hop
    rw [Turn.answer_turn]
    exact (serves_tick hop hkept h).answers

end Chan.Control.ControllerState
