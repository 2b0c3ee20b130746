import Chan.Control.State

namespace Chan.Control
open Utf AssocMap

/-- What an operation leaves and what it emits, in order. -/
abbrev Turn := ControllerState × List Effect

namespace Turn

def andThen (t : Turn) (f : ControllerState → Turn) : Turn := ((f t.1).1, t.2 ++ (f t.1).2)

def each (f : ControllerState → α → Turn) : List α → ControllerState → Turn
  | [], s => (s, [])
  | a :: as, s => (f s a).andThen (each f as)

end Turn

def TunnelKey.le (a b : TunnelKey) : Bool :=
  decide (a.1 < b.1) || (a.1 == b.1 && decide (a.2 ≤ b.2))

def SessionKey.le (a b : SessionKey) : Bool :=
  decide (a.proxyId < b.proxyId) ||
    (a.proxyId == b.proxyId && decide (a.incarnation ≤ b.incarnation))

def groupedKeys (rows : List TunnelRow) : List TunnelKey :=
  (rows.map TunnelRow.key).dedup.insertionSort fun a b => TunnelKey.le a b = true

def groupedBySession (losers : List OwnedTunnel) : List (SessionKey × List Uuid) :=
  ((losers.map OwnedTunnel.session).dedup.insertionSort fun a b => SessionKey.le a b = true).map
    fun session => (session,
      (losers.filter fun o => o.session = session).map fun o => o.row.registrationId)

def firstOfEach (losers : List OwnedTunnel) : List OwnedTunnel :=
  losers.foldl (fun kept o =>
    if kept.any fun k => k.row.registrationId == o.row.registrationId then kept else kept ++ [o]) []

def TunnelRow.limit (row : TunnelRow) : Uuid × Nat := (row.ownerUserId, row.maxConnectedDevservers)

namespace ControllerState

def candidates (known : ProxySession → Bool) (s : ControllerState) : List OwnedTunnel :=
  s.sessions.flatMap fun e =>
    if known e.2 then e.2.rows.entries.map fun r => ⟨e.1, e.2.baseUrl, r.2⟩ else []

def signedLimit (s : ControllerState) (limits : List (Uuid × Nat)) (ownerUserId : Uuid) : Nat :=
  ((limits.filter fun l => l.1 = ownerUserId).map Prod.snd).foldl min s.deploymentLimit

/-- Restart reconciliation: a key claimed twice or in quarantine loses every row, and each owner
keeps the first rows that fit the least of the signed limits. -/
def initialReconciliationPlan (s : ControllerState) (candidates : List OwnedTunnel) :
    Map TunnelKey OwnedTunnel × List OwnedTunnel :=
  let rows := candidates.map OwnedTunnel.row
  let group (key : TunnelKey) := candidates.filter fun o => o.row.key = key
  let wins (key : TunnelKey) := decide ((group key).length = 1 ∧ key ∉ s.quarantinedRestartKeys)
  let keys := groupedKeys rows
  let winners := (keys.filter wins).flatMap group
  let conflicts := (keys.filter fun key => !wins key).flatMap group
  let limit := s.signedLimit (rows.map TunnelRow.limit)
  let owners := (winners.map fun o => o.row.ownerUserId).dedup
  let of (owner : Uuid) := winners.filter fun o => o.row.ownerUserId = owner
  let kept := owners.flatMap fun owner => (of owner).take (limit owner)
  let excess := owners.flatMap fun owner => (of owner).drop (limit owner)
  (kept.foldl (fun m o => m.insert o.row.key o) ∅, firstOfEach (conflicts ++ excess))

def idsOf (ownerUserId : Uuid) (keys : List TunnelKey) : List Text :=
  ((keys.filter fun key => key.1 = ownerUserId).map Prod.snd).dedup

/-- What of the aggregate a joining proxy finds: all but what its own earlier sessions left. -/
def liveFor (joining : SessionKey) (s : ControllerState) : Map TunnelKey OwnedTunnel :=
  retain (fun _ o => decide (o.session.proxyId ≠ joining.proxyId) || s.ownsAggregateRows o.session)
    s.tunnels

def joinKey (s : ControllerState) (joining : SessionKey) (baseUrl : Text) (rows : List TunnelRow)
    (limit : Uuid → Nat) (acc : Map TunnelKey OwnedTunnel × List OwnedTunnel) (key : TunnelKey) :
    Map TunnelKey OwnedTunnel × List OwnedTunnel :=
  match rows.filter fun row => row.key = key with
  | [row] =>
    let winner : OwnedTunnel := ⟨joining, baseUrl, row⟩
    let occupied := (acc.1.lookup key).isSome || (s.pending.lookup key).isSome
    let ids := idsOf key.1 (acc.1.keys ++ s.pending.keys)
    if occupied || decide (limit key.1 ≤ ids.length) then (acc.1, acc.2 ++ [winner])
    else (acc.1.insert key winner, acc.2)
  | group => (acc.1, acc.2 ++ group.map fun row => ⟨joining, baseUrl, row⟩)

/-- Live-first reconciliation: what is published and claimed stays, and a joining row wins only a
new key within its owner's limit. -/
def joiningPlan (s : ControllerState) (joining : SessionKey) (rows : List TunnelRow) :
    Map TunnelKey OwnedTunnel × List OwnedTunnel :=
  let live := s.liveFor joining
  let limit := s.signedLimit
    (live.entries.map (fun e => (e.1.1, e.2.row.maxConnectedDevservers)) ++
      s.pending.entries.map (fun e => (e.1.1, e.2.maxConnectedDevservers)) ++
      rows.map TunnelRow.limit)
  let baseUrl := (s.proxies.lookup joining.proxyId).elim [] ProxySession.baseUrl
  (groupedKeys rows).foldl (s.joinKey joining baseUrl rows limit) (live, [])

def issueKill (session : SessionKey) (registrationIds : List Uuid) (purpose : CommandPurpose)
    (now : Instant) (s : ControllerState) : Turn :=
  let command : PendingCommand := ⟨session, registrationIds.toFinset, purpose, now + commandTimeout⟩
  ({ s with
    commands := s.commands.insert s.nextUuid command
    nextUuid := s.nextUuid + 1 },
    [s.send session (.killRegistrations s.nextUuid registrationIds)])

def issueKills (groups : List (SessionKey × List Uuid)) (purpose : CommandPurpose)
    (now : Instant) (s : ControllerState) : Turn :=
  Turn.each (fun s g => s.issueKill g.1 g.2 purpose now) groups s

def drawn (s : ControllerState) (groups : List α) : List Uuid :=
  List.range' s.nextUuid groups.length

def refuseRegistration (session : SessionKey) (registrationId : Uuid) (now : Instant)
    (s : ControllerState) : Turn :=
  if (s.proxies.lookup session.proxyId).any fun p =>
      decide (registrationId ∈ p.removedRegistrations) then (s, [])
  else (s.withSession session.proxyId (ProxySession.rememberRemoval registrationId)).issueKill
    session [registrationId] .runtime now

def startReconciliation (kind : ReconciliationKind) (losers : List OwnedTunnel) (now : Instant)
    (s : ControllerState) : Turn :=
  let groups := groupedBySession losers
  let t := s.issueKills groups .reconciliation now
  ({ t.1 with reconciliation := some ⟨kind, (s.drawn groups).toFinset, false⟩ }, t.2)

def leaveReadinessIfNoActiveSessions (s : ControllerState) : ControllerState :=
  if s.anyActive then s else { s with ready := false, convergenceDeadline := none }

def untold (s : ControllerState) : List (SessionKey × ProxySession) :=
  s.sessions.filter fun e => decide (e.2.status = .active) && !e.2.fleetReady

def allTold (s : ControllerState) : ControllerState :=
  { s with proxies := mapWithKey (fun _ => ProxySession.told) s.proxies }

def markFleetReady (s : ControllerState) : Turn :=
  (s.allTold.replaceBrowserSessions, s.untold.map fun e => s.allTold.send e.1 .fleetReady)

def restarted (desired : Map TunnelKey OwnedTunnel) (s : ControllerState) : ControllerState :=
  { s.replaceTunnels desired with
    ready := true
    convergenceDeadline := none
    quarantinedRestartKeys := ∅ }

def converge (desired : Map TunnelKey OwnedTunnel) (s : ControllerState) : Turn :=
  (s.restarted desired).markFleetReady

def restart (candidates : List OwnedTunnel) (now : Instant) (s : ControllerState) : Turn :=
  let plan := s.initialReconciliationPlan candidates
  if plan.2 = [] then s.converge plan.1 else s.startReconciliation .initial plan.2 now

def joinedWith (joining : SessionKey) (desired : Map TunnelKey OwnedTunnel) (s : ControllerState) :
    ControllerState :=
  (s.replaceTunnels desired).withSession joining.proxyId ProxySession.joined

def completeJoin (joining : SessionKey) (bootId : Uuid) (desired : Map TunnelKey OwnedTunnel)
    (s : ControllerState) : Turn :=
  let s := s.joinedWith joining desired
  (s.replaceBrowserSessions.clearOrphansForProxyAuthority joining.proxyId bootId,
    [s.send joining .fleetReady])

def reconcileWith (joining : SessionKey) (p : ProxySession) (now : Instant) (s : ControllerState) :
    Turn :=
  let plan := s.joiningPlan joining (p.rows.entries.map fun r => r.2)
  if plan.2 = [] then s.completeJoin joining p.bootId plan.1
  else s.startReconciliation (.joining joining) plan.2 now

def reconcileJoining (joining : SessionKey) (now : Instant) (s : ControllerState) :
    Except StateError Turn :=
  if s.reconciliation.isSome then
    .ok (if joining ∈ s.deferredJoins then s
      else { s with deferredJoins := s.deferredJoins ++ [joining] }, [])
  else
    match s.session joining with
    | none => .error .staleSession
    | some p => .ok (s.reconcileWith joining p now)

def startDeferredFrom (now : Instant) : List SessionKey → ControllerState → Turn
  | [], s => ({ s with deferredJoins := [] }, [])
  | joining :: queue, s =>
    if s.reconciliation.isSome then ({ s with deferredJoins := joining :: queue }, [])
    else
      let s := { s with deferredJoins := queue }
      match (s.session joining).filter fun p =>
          decide (p.status = .joining) && p.generation.isSome with
      | none => startDeferredFrom now queue s
      | some p =>
        if s.ready then (s.reconcileWith joining p now).andThen (startDeferredFrom now queue)
        else
          let s := s.withSession joining.proxyId fun p => { p with status := .active }
          startDeferredFrom now queue { s with
            convergenceDeadline := s.convergenceDeadline.or (some (now + convergenceWindow)) }

def startDeferredJoins (now : Instant) (s : ControllerState) : Turn :=
  startDeferredFrom now s.deferredJoins s

def dropCommand (outcome : CommandOutcome) (s : ControllerState) (commandId : Uuid) : Turn :=
  match s.commands.lookup commandId with
  | none => (s, [])
  | some command =>
    ({ s with
      commands := s.commands.erase commandId
      reconciliation := s.reconciliation.map fun r =>
        { r with commandIds := r.commandIds.erase commandId } },
      if command.purpose = .runtime then [.commandSettled commandId outcome] else [])

def dropRevocation (outcome : CommandOutcome) (s : ControllerState) (commandId : Uuid) : Turn :=
  ({ s with sessionRevocations := s.sessionRevocations.erase commandId },
    [.commandSettled commandId outcome])

section

variable (sizes : Sizes)

def publishedUsage (key : SessionKey) (s : ControllerState) : FleetUsage :=
  (s.tunnels.entries.filter fun e => decide (e.2.session = key)).foldl
    (fun u e => u.add ⟨1, sizes.rowResidentBytes e.2.row⟩) .zero

def retainAuthority (key : SessionKey) (bootId : Uuid) (now : Instant) (s : ControllerState) :
    ControllerState :=
  let retainUntil := now + disconnectedAuthorityRetention
  let authority := (key.proxyId, bootId)
  { s with
    proxies := s.proxies.erase key.proxyId
    deferredJoins := s.deferredJoins.filter fun k => decide (k ≠ key)
    disconnectedProxyDeadlines := s.disconnectedProxyDeadlines.insert authority
      ((s.disconnectedProxyDeadlines.lookup authority).elim retainUntil (max · retainUntil)) }

def retainRows (key : SessionKey) (usage : FleetUsage) (s : ControllerState) : ControllerState :=
  if 0 < usage.rows then
    let s := s.removeOrphanUsage key
    { s with
      orphanTotal := s.orphanTotal.add usage
      orphanUsage := s.orphanUsage.insert key usage }
  else s

def retainBrowserSessions (key : SessionKey) (usage : FleetUsage) (s : ControllerState) :
    ControllerState :=
  if 0 < usage.rows then
    let s := s.removeBrowserOrphanUsage key
    { s with
      browserOrphanTotal := s.browserOrphanTotal.add usage
      browserOrphanUsage := s.browserOrphanUsage.insert key usage }
  else s

def orphanUntil (key : SessionKey) (deadline : Instant) (s : ControllerState) : ControllerState :=
  { s with orphanDeadlines := s.orphanDeadlines.insert key deadline }

/-- Take a session out, and keep what it published until the deadline. -/
def orphan (key : SessionKey) (p : ProxySession) (now : Instant) (s : ControllerState) :
    ControllerState :=
  let browserUsage : FleetUsage :=
    ⟨p.browserSessions.entries.length, p.browserSessionResidentBytes⟩
  let s := s.retainAuthority key p.bootId now
  let usage := s.publishedUsage sizes key
  let s :=
    if 0 < usage.rows ∨ 0 < browserUsage.rows then s.orphanUntil key (now + convergenceWindow)
    else s
  ((s.retainRows key usage).retainBrowserSessions key browserUsage).removePendingForSession key

def abandonCommands (key : SessionKey) (s : ControllerState) : Turn :=
  (Turn.each (dropCommand .sessionLost)
    (keysWhere (fun _ command => decide (command.session = key)) s.commands) s).andThen fun s =>
  Turn.each (dropRevocation .sessionLost)
    (keysWhere (fun _ command => decide (command.session = key)) s.sessionRevocations) s

def removeSessionWith (complete : ControllerState → Turn) (key : SessionKey) (now : Instant)
    (s : ControllerState) : Turn :=
  match s.session key with
  | none => (s, [])
  | some p =>
    ((((s.orphan sizes key p now).abandonCommands key).andThen complete).andThen
      (startDeferredJoins now)).andThen fun s =>
    startDeferredJoins now s.leaveReadinessIfNoActiveSessions

/-- Finish a reconciliation whose commands are all answered. Removing the session of a failed join
finds no reconciliation to complete. -/
def completeReconciliation (now : Instant) (s : ControllerState) : Turn :=
  match s.reconciliation with
  | none => (s, [])
  | some r =>
    if r.commandIds ≠ ∅ then (s, [])
    else
      let s := { s with reconciliation := none }
      match r.kind with
      | .initial =>
        if r.failed then
          ({ s with convergenceDeadline := some (now + convergenceWindow) }, [])
        else s.restart (s.candidates fun p => p.generation.isSome) now
      | .joining joining =>
        if r.failed then
          (s.removeSessionWith sizes (fun s => (s, [])) joining now).andThen fun s =>
          (s, [.retire joining "joining snapshot reconciliation failed".toList])
        else
          -- A departed or resyncing join cannot replace retained authority.
          match (s.session joining).filter fun p => p.generation.isSome with
          | none => (s, [])
          | some p => s.reconcileWith joining p now

def finishReconciliationIfComplete (now : Instant) (s : ControllerState) : Turn :=
  (s.completeReconciliation sizes now).andThen (startDeferredJoins now)

def removeSession (key : SessionKey) (now : Instant) (s : ControllerState) : Turn :=
  s.removeSessionWith sizes (completeReconciliation sizes now) key now

def releaseOrphanRow (session : SessionKey) (rowBytes : Nat) (s : ControllerState) :
    ControllerState :=
  let s := { s with orphanTotal := s.orphanTotal.sub ⟨1, rowBytes⟩ }
  match s.orphanUsage.lookup session with
  | none => s
  | some usage =>
    let usage := usage.sub ⟨1, rowBytes⟩
    if usage.rows = 0 then
      { s with
        orphanUsage := s.orphanUsage.erase session
        orphanDeadlines := s.orphanDeadlines.erase session }
    else { s with orphanUsage := s.orphanUsage.insert session usage }

def dropRow (session : SessionKey) (registrationId : Uuid) (s : ControllerState) :
    ControllerState :=
  match (s.session session).bind fun p => p.rows.lookup registrationId with
  | none => s
  | some row =>
    s.withSession session.proxyId fun p =>
      { p.rememberRemoval registrationId with
        rows := p.rows.erase registrationId
        residentBytes := p.residentBytes - sizes.rowResidentBytes row }

def withdraw (session : SessionKey) (registrationId : Uuid) (s : ControllerState) :
    ControllerState :=
  (s.dropRow sizes session registrationId).removeTunnels (keysWhere (fun _ o =>
    decide (o.session = session ∧ o.row.registrationId = registrationId)) s.tunnels)

def orphanBytes (session : SessionKey) (registrationId : Uuid) (s : ControllerState) : Option Nat :=
  if (s.proxies.lookup session.proxyId).isSome then none
  else (s.tunnels.entries.find? fun e =>
    decide (e.2.session = session ∧ e.2.row.registrationId = registrationId)).map fun e =>
      sizes.rowResidentBytes e.2.row

def removeRegistration (session : SessionKey) (registrationId : Uuid) (s : ControllerState) :
    ControllerState :=
  let rowBytes := s.orphanBytes sizes session registrationId
  let s := s.withdraw sizes session registrationId
  match rowBytes with
  | none => s
  | some rowBytes => s.releaseOrphanRow session rowBytes

end

def forceResync (key : SessionKey) (expectedGeneration : Nat) (s : ControllerState) : Turn :=
  let s := s.withSession key.proxyId ProxySession.resynced
  let s := s.removeTunnelsForSession key
  let s := s.removeBrowserSessionsForSession key
  let s := s.removePendingForSession key
  let s := s.leaveReadinessIfNoActiveSessions
  (s, [s.send key (.resyncRequired expectedGeneration)])

/-- A key claimed twice is in quarantine until nobody claims it. -/
def quarantine (candidates : List OwnedTunnel) (s : ControllerState) : ControllerState :=
  let keys := candidates.map fun o => o.row.key
  { s with quarantinedRestartKeys :=
      (s.quarantinedRestartKeys.filter fun key => key ∈ keys) ∪
        (keys.toFinset.filter fun key => 1 < keys.count key) }

def beginInitialReconciliation (now : Instant) (s : ControllerState) : Turn :=
  if s.anyActive = false then ({ s with convergenceDeadline := none }, [])
  else
    let candidates := s.candidates fun _ => true
    (s.quarantine candidates).restart candidates now

end ControllerState

end Chan.Control
