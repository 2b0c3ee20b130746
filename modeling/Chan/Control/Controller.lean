import Chan.Control.Reconcile

namespace Chan.Control
open Utf AssocMap

def succGeneration (generation : Nat) : Nat := (generation + 1) % 2 ^ 64

/-- What an operation answers: its effects, the commands it waits for, and for a revocation the
proxies it could not reach. -/
structure Reply where
  effects : List Effect
  commandIds : List Uuid
  unreachableProxies : Nat

abbrev Answer := ControllerState × Except StateError Reply

def Turn.answer (t : Turn) : Answer := (t.1, .ok ⟨t.2, [], 0⟩)

def Turn.issued (t : Turn) (commandIds : List Uuid) : Answer := (t.1, .ok ⟨t.2, commandIds, 0⟩)

namespace ControllerState

def beginSession (proxyId : ProxyId) (baseUrl : Text) (bootId : Uuid) (now : Instant)
    (s : ControllerState) : Answer :=
  let knownAuthorities := s.disconnectedProxyDeadlines.entries.length +
    (s.proxies.entries.filter fun e =>
      (s.disconnectedProxyDeadlines.lookup (e.1, e.2.bootId)).isNone).length
  if (s.proxies.lookup proxyId).isSome then (s, .error .duplicateProxyId)
  else if maxProxySessions ≤ s.proxies.entries.length then (s, .error .sessionLimit)
  else if maxProxyAuthorities ≤ knownAuthorities ∧
      (s.disconnectedProxyDeadlines.lookup (proxyId, bootId)).isNone then
    (s, .error .sessionLimit)
  else
    Turn.answer ({ s with
      nextIncarnation := s.nextIncarnation + 1
      proxies := s.proxies.insert proxyId (.opened s.nextIncarnation baseUrl bootId now) }, [])

def indexRows (wallNow : WallTime) :
    List TunnelRow → Map Uuid TunnelRow → Except StateError (Map Uuid TunnelRow)
  | [], byId => .ok byId
  | row :: rows, byId =>
    if row.admissionLeaseExpiresAt ≤ wallNow then .error .expiredAdmissionLease
    else if (byId.lookup row.registrationId).isSome then
      .error (.duplicateRegistration row.registrationId)
    else indexRows wallNow rows (byId.insert row.registrationId row)

def indexRefused (byId : Map Uuid TunnelRow) :
    List Uuid → Finset Uuid → Except StateError (Finset Uuid)
  | [], refused => .ok refused
  | id :: ids, refused =>
    if (byId.lookup id).isSome ∨ id ∈ refused then .error (.duplicateRegistration id)
    else indexRefused byId ids (insert id refused)

def indexBrowserSessions (s : ControllerState) (proxyId : ProxyId) (wallNow : WallTime) :
    List BrowserSessionRow → Map Uuid BrowserSessionRow →
      Except StateError (Map Uuid BrowserSessionRow)
  | [], byId => .ok byId
  | row :: rows, byId =>
    if row.expiresAt ≤ wallNow then .error .expiredBrowserSession
    else if (byId.lookup row.adminSessionId).isSome ∨ s.proxies.entries.any fun e =>
        decide (e.1 ≠ proxyId) && (e.2.browserSessions.lookup row.adminSessionId).isSome then
      .error (.duplicateBrowserSession row.adminSessionId)
    else indexBrowserSessions s proxyId wallNow rows (byId.insert row.adminSessionId row)

structure IndexedSnapshot where
  rows : Map Uuid TunnelRow
  residentBytes : Nat
  refused : Finset Uuid
  browserSessions : Map Uuid BrowserSessionRow
  browserSessionResidentBytes : Nat

section

variable (sizes : Sizes)

def indexSnapshot (proxyId : ProxyId) (rows : List TunnelRow) (refused : List Uuid)
    (browserSessions : List BrowserSessionRow) (wallNow : WallTime) (s : ControllerState) :
    Except StateError IndexedSnapshot :=
  let retained := s.fleetUsage (some proxyId)
  let retainedBrowser := s.browserSessionUsage (some proxyId)
  let snapshotBytes := (rows.map sizes.rowResidentBytes).sum
  let browserBytes := (browserSessions.map sizes.browserSessionResidentBytes).sum
  if maxRowsPerSession < rows.length + refused.length then
    .error (.snapshotTooLarge (rows.length + refused.length))
  else if maxBrowserSessionSnapshotRows < browserSessions.length then
    .error (.browserSessionSnapshotTooLarge browserSessions.length)
  else if maxFleetRows < retained.rows + rows.length then .error .fleetCapacity
  else if maxFleetResidentBytes < retained.bytes + snapshotBytes then .error .fleetCapacity
  else if maxFleetBrowserSessionRows < retainedBrowser.rows + browserSessions.length then
    .error .fleetCapacity
  else if maxBrowserSessionSnapshotBytes < browserBytes ∨
      maxFleetBrowserSessionBytes < retainedBrowser.bytes + browserBytes then
    .error .fleetCapacity
  else do
    let byId ← indexRows wallNow rows ∅
    let refusedIds ← indexRefused byId refused ∅
    let browserById ← s.indexBrowserSessions proxyId wallNow browserSessions ∅
    return ⟨byId, snapshotBytes, refusedIds, browserById, browserBytes⟩

def withSnapshot (baseGeneration : Nat) (snapshot : IndexedSnapshot) (ready : Bool) (now : Instant)
    (p : ProxySession) : ProxySession :=
  { p with
    generation := some baseGeneration
    rows := snapshot.rows
    residentBytes := snapshot.residentBytes
    removedRegistrations := snapshot.refused
    browserSessions := snapshot.browserSessions
    browserSessionResidentBytes := snapshot.browserSessionResidentBytes
    status := if ready then .joining else .active
    lastSeen := now }

/-- Bring a joining session up with its snapshot, kill what it refuses, and join the fleet or start
the convergence window. -/
def installSnapshot (key : SessionKey) (baseGeneration : Nat) (snapshot : IndexedSnapshot)
    (refused : List Uuid) (now : Instant) (s : ControllerState) : Answer :=
  let s := s.withSession key.proxyId (withSnapshot baseGeneration snapshot s.ready now)
  let accepted := s.send key (.snapshotAccepted baseGeneration)
  let t : Turn :=
    if refused = [] then (s, [accepted])
    else Turn.andThen (s, [accepted]) (issueKill key refused .runtime now)
  if t.1.ready then
    match t.1.reconcileJoining key now with
    | .error e => (t.1, .error e)
    | .ok joined => Turn.answer (joined.1, t.2 ++ joined.2)
  else
    Turn.answer ({ t.1 with
      convergenceDeadline := t.1.convergenceDeadline.or (some (now + convergenceWindow)) }, t.2)

def acceptSnapshot (proxyId : ProxyId) (incarnation baseGeneration : Nat) (rows : List TunnelRow)
    (refused : List Uuid) (browserSessions : List BrowserSessionRow) (now : Instant)
    (wallNow : WallTime) (s : ControllerState) : Answer :=
  match s.indexSnapshot sizes proxyId rows refused browserSessions wallNow with
  | .error e => (s, .error e)
  | .ok snapshot =>
    s.requireKey proxyId incarnation fun key p =>
      let previous := s.bootHistory.lookup proxyId
      if s.ready ∧ snapshot.rows.entries ≠ [] ∧ previous.any fun boot => decide (boot ≠ p.bootId)
      then (s, .error .bootIdMismatch)
      else if previous.isNone ∧ maxBootHistory ≤ s.bootHistory.entries.length then
        (s, .error .bootHistoryCapacity)
      else
        let s := { s with bootHistory := s.bootHistory.insert proxyId p.bootId }
        if p.status ≠ .joining then (s, .error .proxyNotJoining)
        else s.installSnapshot key baseGeneration snapshot refused now

def advanced (generation : Nat) (now : Instant) (p : ProxySession) : ProxySession :=
  { p with generation := some generation, lastSeen := now }

def delta (proxyId : ProxyId) (incarnation generation : Nat) (now : Instant)
    (f : SessionKey → ProxySession → ControllerState → Turn) (s : ControllerState) : Answer :=
  s.requireKey proxyId incarnation fun key p =>
    match p.generation with
    | none => (s, .error .staleSession)
    | some current =>
      if generation ≠ succGeneration current then
        Turn.answer (s.forceResync key (succGeneration current))
      else
        Turn.answer (f key p (s.withSession proxyId (advanced generation now)))

def publishesRegistration (s : ControllerState) (key : SessionKey) (registrationId : Uuid) : Bool :=
  (s.proxies.entries.any fun e => (e.2.rows.lookup registrationId).isSome) ||
    (s.proxies.lookup key.proxyId).any fun p => decide (registrationId ∈ p.removedRegistrations)

def claimed (s : ControllerState) (key : SessionKey) (row : TunnelRow) : Bool :=
  (s.pending.lookup row.key).any fun claim =>
    decide (claim.session = key ∧ claim.registrationId = row.registrationId)

def withRow (row : TunnelRow) (p : ProxySession) : ProxySession :=
  { p with
    residentBytes := p.residentBytes + sizes.rowResidentBytes row
    rows := p.rows.insert row.registrationId row }

def publish (key : SessionKey) (p : ProxySession) (row : TunnelRow) (now : Instant)
    (s : ControllerState) : Turn :=
  let replaced := s.tunnels.lookup row.key
  let s := s.withSession key.proxyId (withRow sizes row)
  let s := { s with tunnels := s.tunnels.insert row.key ⟨key, p.baseUrl, row⟩ }
  match replaced with
  | none => (s.addOwnerKey row.key, [])
  | some old =>
    if s.tunnels.entries.all fun e =>
        decide (e.2.row.registrationId ≠ old.row.registrationId) then
      s.issueKill old.session [old.row.registrationId] .runtime now
    else (s, [])

def tunnelUp (proxyId : ProxyId) (incarnation generation : Nat) (row : TunnelRow) (now : Instant)
    (wallNow : WallTime) (s : ControllerState) : Answer :=
  if row.admissionLeaseExpiresAt ≤ wallNow then (s, .error .expiredAdmissionLease)
  else
    s.delta proxyId incarnation generation now fun key p s =>
      if s.publishesRegistration key row.registrationId then
        s.forceResync key (saturatingSucc generation)
      else
        let usage := s.fleetUsage none
        let claimed := s.claimed key row
        let s := if claimed then s.removePending row.key else s
        if claimed = false ∨ maxRowsPerSession ≤ p.rows.entries.length ∨
            maxFleetRows ≤ usage.rows ∨
            maxFleetResidentBytes < usage.bytes + sizes.rowResidentBytes row then
          s.refuseRegistration key row.registrationId now
        else s.publish sizes key p row now

def tunnelDown (proxyId : ProxyId) (incarnation generation : Nat) (registrationId : Uuid)
    (now : Instant) (s : ControllerState) : Answer :=
  s.delta proxyId incarnation generation now fun key p s =>
    if (p.rows.lookup registrationId).isNone ∧ registrationId ∉ p.removedRegistrations then
      s.forceResync key (saturatingSucc generation)
    else
      -- One down for each registration: a late kill result must not expect another.
      ((s.removeRegistration sizes key registrationId).withSession proxyId fun p =>
        { p with removedRegistrations := p.removedRegistrations.erase registrationId }, [])

end

def refuseTunnelUp (proxyId : ProxyId) (incarnation generation : Nat) (registrationId : Uuid)
    (now : Instant) (s : ControllerState) : Answer :=
  s.delta proxyId incarnation generation now fun key _ s =>
    if s.publishesRegistration key registrationId then
      s.forceResync key (saturatingSucc generation)
    else s.refuseRegistration key registrationId now

def refuseLeaseRefresh (proxyId : ProxyId) (incarnation : Nat) (registrationId : Uuid)
    (now : Instant) (s : ControllerState) : Answer :=
  s.requireKey proxyId incarnation fun key _ =>
    Turn.answer ((s.touch key now).refuseRegistration key registrationId now)

section

variable (sizes : Sizes)

def browserSessionOverCapacity (p : ProxySession) (row : BrowserSessionRow) (s : ControllerState) :
    Bool :=
  let usage := s.browserSessionUsage none
  let rowBytes := sizes.browserSessionResidentBytes row
  decide (maxBrowserSessionSnapshotRows ≤ p.browserSessions.entries.length) ||
    decide (maxFleetBrowserSessionRows ≤ usage.rows) ||
    decide (maxBrowserSessionSnapshotBytes < p.browserSessionResidentBytes + rowBytes) ||
    decide (maxFleetBrowserSessionBytes < usage.bytes + rowBytes)

/-- Revoke a browser session over capacity, and expect its down. Nothing waits for the result. -/
def refuseBrowserSession (key : SessionKey) (adminSessionId : Uuid) (s : ControllerState) : Turn :=
  let s := s.withSession key.proxyId fun p =>
    if p.removedBrowserSessions.card < maxRemovedBrowserSessions then
      { p with removedBrowserSessions := insert adminSessionId p.removedBrowserSessions }
    else p
  ({ s with nextUuid := s.nextUuid + 1 },
    [s.send key (.revokeSessions s.nextUuid (.sessionId adminSessionId))])

def withBrowserSession (row : BrowserSessionRow) (p : ProxySession) : ProxySession :=
  { p with
    browserSessionResidentBytes :=
      p.browserSessionResidentBytes + sizes.browserSessionResidentBytes row
    browserSessions := p.browserSessions.insert row.adminSessionId row }

def withoutBrowserSession (adminSessionId : Uuid) (row : BrowserSessionRow) (p : ProxySession) :
    ProxySession :=
  { p with
    browserSessions := p.browserSessions.erase adminSessionId
    browserSessionResidentBytes :=
      p.browserSessionResidentBytes - sizes.browserSessionResidentBytes row }

def browserSessionUp (proxyId : ProxyId) (incarnation generation : Nat) (row : BrowserSessionRow)
    (now : Instant) (wallNow : WallTime) (s : ControllerState) : Answer :=
  if row.expiresAt ≤ wallNow then (s, .error .expiredBrowserSession)
  else
    s.delta proxyId incarnation generation now fun key p s =>
      if (s.proxies.entries.any fun e =>
          (e.2.browserSessions.lookup row.adminSessionId).isSome) ||
          decide (row.adminSessionId ∈ p.removedBrowserSessions) then
        s.forceResync key (saturatingSucc generation)
      else if s.browserSessionOverCapacity sizes p row then
        s.refuseBrowserSession key row.adminSessionId
      else
        let s := s.withSession proxyId (withBrowserSession sizes row)
        (if p.isFleetReady then
          { s with browserSessions := s.browserSessions.insert row.adminSessionId ⟨key, row⟩ }
        else s, [])

def browserSessionDown (proxyId : ProxyId) (incarnation generation : Nat) (adminSessionId : Uuid)
    (now : Instant) (s : ControllerState) : Answer :=
  s.delta proxyId incarnation generation now fun key p s =>
    if adminSessionId ∈ p.removedBrowserSessions then
      (s.withSession proxyId fun p =>
        { p with removedBrowserSessions := p.removedBrowserSessions.erase adminSessionId }, [])
    else
      match p.browserSessions.lookup adminSessionId with
      | none => s.forceResync key (saturatingSucc generation)
      | some row =>
        let s := s.withSession proxyId (withoutBrowserSession sizes adminSessionId row)
        (if (s.browserSessions.lookup adminSessionId).any fun o => decide (o.session = key) then
          { s with browserSessions := s.browserSessions.erase adminSessionId }
        else s, [])

end

def claimOverCapacity (key : SessionKey) (p : ProxySession) (s : ControllerState) : Bool :=
  let pendingForSession := (s.pendingPerSession.lookup key).getD 0
  let pendingFleet := s.pending.entries.length
  let usage := s.fleetUsage none
  decide (maxPendingFleet ≤ pendingFleet) ||
    decide (maxPendingPerSession ≤ pendingForSession) ||
    decide (maxRowsPerSession ≤ p.rows.entries.length + pendingForSession) ||
    decide (maxFleetRows ≤ usage.rows + pendingFleet) ||
    decide (maxFleetResidentBytes < usage.bytes + (pendingFleet + 1) * maxPendingTunnelBytes)

def decideAdmission (key : SessionKey) (p : ProxySession) (requestId registrationId : Uuid)
    (tunnelKey : TunnelKey) (maxConnectedDevservers : Nat) (now : Instant) (s : ControllerState) :
    Turn :=
  let answer (s : ControllerState) := s.admissionEffect key requestId registrationId
  let claim : PendingClaim :=
    ⟨key, requestId, registrationId, maxConnectedDevservers, now + admissionClaimTtl⟩
  if (s.pending.lookup tunnelKey).any fun c => decide
      (c.session = key ∧ c.requestId = requestId ∧ c.registrationId = registrationId) then
    ({ s with pending :=
        modify tunnelKey (fun c => { c with expiresAt := claim.expiresAt }) s.pending },
      [answer s .admits])
  else if (s.tunnels.lookup tunnelKey).isNone ∧ (s.pending.lookup tunnelKey).isNone ∧
      s.effectiveOwnerLimit tunnelKey.1 maxConnectedDevservers ≤ s.distinctForOwner tunnelKey.1 then
    (s, [answer s .atCapacity])
  else if s.claimOverCapacity key p then (s, [answer s .atCapacity])
  else
    let superseded := (s.pending.lookup tunnelKey).elim [] fun c =>
      [s.admissionEffect c.session c.requestId c.registrationId .stale]
    let s := (s.removePending tunnelKey).insertPending tunnelKey claim
    (s, superseded ++ [answer s .admits])

def requestAdmission (proxyId : ProxyId) (incarnation : Nat) (requestId registrationId : Uuid)
    (ownerUserId : Uuid) (devserverId : Text) (maxConnectedDevservers : Nat)
    (admissionLeaseExpiresAt : WallTime) (now : Instant) (wallNow : WallTime)
    (s : ControllerState) : Answer :=
  if admissionLeaseExpiresAt ≤ wallNow then (s, .error .expiredAdmissionLease)
  else
    s.requireKey proxyId incarnation fun key p =>
      let s := s.touch key now
      if s.ready = false ∨ p.isFleetReady = false then
        Turn.answer (s, [s.admissionEffect key requestId registrationId .controlWarming])
      else
        Turn.answer (s.decideAdmission key p requestId registrationId (ownerUserId, devserverId)
          maxConnectedDevservers now)

def cancelAdmission (proxyId : ProxyId) (incarnation : Nat) (requestId registrationId : Uuid)
    (now : Instant) (s : ControllerState) : Answer :=
  s.requireKey proxyId incarnation fun key _ =>
    let s := s.touch key now
    Turn.answer (match s.pendingIndex.lookup (key, requestId, registrationId) with
      | none => s
      | some tunnelKey => s.removePending tunnelKey, [])

structure Lease where
  ownerUserId : Uuid
  user : Text
  devserverId : Text
  maxConnectedDevservers : Nat
  admissionLease : Text
  admissionLeaseExpiresAt : WallTime
  deriving DecidableEq

def Lease.renew (lease : Lease) (row : TunnelRow) : TunnelRow :=
  { row with
    maxConnectedDevservers := lease.maxConnectedDevservers
    admissionLease := lease.admissionLease
    admissionLeaseExpiresAt := lease.admissionLeaseExpiresAt }

section

variable (sizes : Sizes)

def withRenewedRow (registrationId : Uuid) (old renewed : TunnelRow) (p : ProxySession) :
    ProxySession :=
  { p with
    residentBytes := p.residentBytes - sizes.rowResidentBytes old + sizes.rowResidentBytes renewed
    rows := p.rows.insert registrationId renewed }

def renewRow (key : SessionKey) (registrationId : Uuid) (old renewed : TunnelRow)
    (s : ControllerState) : ControllerState :=
  let s := s.withSession key.proxyId (withRenewedRow sizes registrationId old renewed)
  { s with tunnels := modify renewed.key (fun o =>
      if o.session = key ∧ o.row.registrationId = registrationId then { o with row := renewed }
      else o) s.tunnels }

def refreshLease (proxyId : ProxyId) (incarnation : Nat) (registrationId : Uuid) (lease : Lease)
    (now : Instant) (wallNow : WallTime) (s : ControllerState) : Answer :=
  if lease.admissionLeaseExpiresAt ≤ wallNow then (s, .error .expiredAdmissionLease)
  else
    s.requireKey proxyId incarnation fun key p =>
      let s := s.touch key now
      -- Its kill is already on the way; a refresh raced it.
      if registrationId ∈ p.removedRegistrations then Turn.answer (s, [])
      else
        match p.rows.lookup registrationId with
        | none => (s, .error .staleSession)
        | some old =>
          if old.ownerUserId ≠ lease.ownerUserId ∨ old.user ≠ lease.user ∨
              old.devserverId ≠ lease.devserverId then
            Turn.answer (s.refuseRegistration key registrationId now)
          else if maxFleetResidentBytes < (s.fleetUsage none).bytes -
              sizes.rowResidentBytes old + sizes.rowResidentBytes (lease.renew old) then
            Turn.answer (s.refuseRegistration key registrationId now)
          else Turn.answer (s.renewRow sizes key registrationId old (lease.renew old), [])

end

def recordActivity (proxyId : ProxyId) (incarnation : Nat) (now : Instant) (s : ControllerState) :
    Answer := s.requireKey proxyId incarnation fun key _ => Turn.answer (s.touch key now, [])

def pong (proxyId : ProxyId) (incarnation nonce : Nat) (now : Instant) (s : ControllerState) :
    Answer :=
  s.requireKey proxyId incarnation fun key p =>
    if nonce ∈ p.outstandingPings then
      Turn.answer ((s.withSession proxyId fun p =>
        { p with outstandingPings := p.outstandingPings.erase nonce }).touch key now, [])
    else (s, .error .invalidPong)

section

variable (sizes : Sizes)

/-- Whether a result does not account for every targeted registration exactly once, or reports a
failure. -/
def badResult (command : PendingCommand) (killed missing failed : List Uuid) : Bool :=
  let reported := (killed ++ missing ++ failed).toFinset
  decide (reported.card ≠ killed.length + missing.length + failed.length) ||
    decide (¬ reported ⊆ command.registrationIds) ||
    decide (¬ command.registrationIds ⊆ reported) || !failed.isEmpty

def removeReported (key : SessionKey) (reported : List Uuid) (s : ControllerState) :
    ControllerState :=
  reported.foldl (fun s registrationId => s.removeRegistration sizes key registrationId) s

def commandResult (proxyId : ProxyId) (incarnation : Nat) (commandId : Uuid)
    (killed missing failed : List Uuid) (now : Instant) (s : ControllerState) : Answer :=
  s.requireKey proxyId incarnation fun key _ =>
    let s := s.touch key now
    match s.commands.lookup commandId with
    | none => Turn.answer (s, [])
    | some command =>
      if command.session ≠ key then (s, .error .staleSession)
      else
        let bad := badResult command killed missing failed
        let s := { s with commands := s.commands.erase commandId }
        let s := s.removeReported sizes key
          ((killed ++ missing).filter fun id => decide (id ∈ command.registrationIds))
        match command.purpose with
        | .reconciliation =>
          Turn.answer (finishReconciliationIfComplete sizes now { s with
            reconciliation := s.reconciliation.map fun r =>
              { r with commandIds := r.commandIds.erase commandId, failed := r.failed || bad } })
        | .runtime =>
          Turn.answer (s, [.commandSettled commandId
            (if bad then .failed else .confirmed killed.length missing.length)])

end

def revokeAt (revocation : SessionRevocation) (now : Instant) (s : ControllerState)
    (e : SessionKey × ProxySession) : Turn :=
  ({ s with
    sessionRevocations := s.sessionRevocations.insert s.nextUuid ⟨e.1, now + commandTimeout⟩
    nextUuid := s.nextUuid + 1 },
    [s.send e.1 (.revokeSessions s.nextUuid revocation)])

def beginSessionRevocation (revocation : SessionRevocation) (now : Instant) (s : ControllerState) :
    Answer :=
  if revocation.validate = false then (s, .error .invalidRevocation)
  else
    let t := Turn.each (revokeAt revocation now) s.sessions s
    let unreachable := (s.disconnectedProxyDeadlines.keys.filter fun authority =>
      (s.proxies.lookup authority.1).all fun p => decide (p.bootId ≠ authority.2)).length
    (t.1, .ok ⟨t.2, s.drawn s.sessions, unreachable⟩)

def sessionRevocationResult (proxyId : ProxyId) (incarnation : Nat) (commandId : Uuid)
    (revoked : Nat) (s : ControllerState) : Answer :=
  if maxSessionRevocationCount < revoked then (s, .error .fleetCapacity)
  else
    s.requireKey proxyId incarnation fun key _ =>
      match s.sessionRevocations.lookup commandId with
      | none => Turn.answer (s, [])
      | some pending =>
        if pending.session ≠ key then (s, .error .staleSession)
        else Turn.answer (s.dropRevocation (.confirmed revoked 0) commandId)

def disconnect (sizes : Sizes) (proxyId : ProxyId) (incarnation : Nat) (now : Instant)
    (s : ControllerState) : Answer :=
  s.requireKey proxyId incarnation fun key _ => Turn.answer (s.removeSession sizes key now)

def requireResync (proxyId : ProxyId) (incarnation : Nat) (s : ControllerState) : Answer :=
  s.requireKey proxyId incarnation fun key p =>
    Turn.answer (s.forceResync key (p.generation.elim 0 saturatingSucc))

def beginExactKill (ownerUserId : Uuid) (devserverId : Text) (now : Instant) (s : ControllerState) :
    Answer :=
  if s.ready = false then (s, .error .notReady)
  else
    match s.tunnels.lookup (ownerUserId, devserverId) with
    | none => Turn.answer (s, [])
    | some o =>
      if s.ownsAggregateRows o.session = false then (s, .error .authorityTemporarilyUnavailable)
      else Turn.issued (s.issueKill o.session [o.row.registrationId] .runtime now) [s.nextUuid]

def killWhere (claims : TunnelKey → Bool) (rows : OwnedTunnel → Bool) (now : Instant)
    (s : ControllerState) : Answer :=
  let s := s.removePendings (s.pending.keys.filter claims)
  let groups := groupedBySession ((s.tunnels.entries.map fun e => e.2).filter rows)
  Turn.issued (s.issueKills groups .runtime now) (s.drawn groups)

def beginOwnerKill (ownerUserId : Uuid) (now : Instant) (s : ControllerState) : Answer :=
  if s.ready = false then (s, .error .notReady)
  else if s.tunnels.entries.any fun e =>
      decide (e.2.row.ownerUserId = ownerUserId) && !s.ownsAggregateRows e.2.session then
    (s, .error .authorityTemporarilyUnavailable)
  else
    s.killWhere (fun key => decide (key.1 = ownerUserId))
      (fun o => decide (o.row.ownerUserId = ownerUserId) && s.ownsAggregateRows o.session) now

def beginAllKill (now : Instant) (s : ControllerState) : Answer :=
  if s.ready = false then (s, .error .notReady)
  else if s.disconnectedProxyDeadlines.entries ≠ [] ∨
      (s.proxies.entries.any fun e => !e.2.isFleetReady) ∨
      s.tunnels.entries.any fun e => !s.ownsAggregateRows e.2.session then
    (s, .error .authorityTemporarilyUnavailable)
  else s.killWhere (fun _ => true) (fun _ => true) now

section

variable (sizes : Sizes)

def expireOrphan (s : ControllerState) (session : SessionKey) : ControllerState :=
  let s := { s with orphanDeadlines := s.orphanDeadlines.erase session }
  let s := (s.removeOrphanUsage session).removeBrowserOrphanUsage session
  (s.removeTunnelsForSession session).removeBrowserSessionsForSession session

def expireDeadlines (now : Instant) (s : ControllerState) : ControllerState :=
  let s := s.removePendings (keysWhere (fun _ claim => decide (claim.expiresAt ≤ now)) s.pending)
  let s := (keysWhere (fun _ deadline => decide (deadline ≤ now)) s.orphanDeadlines).foldl
    expireOrphan s
  { s with disconnectedProxyDeadlines :=
      retain (fun _ deadline => decide (now < deadline)) s.disconnectedProxyDeadlines }

def expireLeases (now : Instant) (wallNow : WallTime) (s : ControllerState) : Turn :=
  let expired := (s.tunnels.entries.filter fun e =>
    decide (e.2.row.admissionLeaseExpiresAt ≤ wallNow)).map fun e =>
      (e.2.session, e.2.row.registrationId)
  Turn.each (fun s e => (s.removeRegistration sizes e.1 e.2).issueKill e.1 [e.2] .runtime now)
    expired s

def expireCommand (s : ControllerState) (commandId : Uuid) : Turn :=
  match s.commands.lookup commandId with
  | none => (s, [])
  | some command =>
    let s := { s with commands := s.commands.erase commandId }
    match command.purpose with
    | .reconciliation =>
      ({ s with reconciliation := s.reconciliation.map fun r =>
          { r with commandIds := r.commandIds.erase commandId, failed := true } }, [])
    | .runtime => (s, [.commandSettled commandId .timedOut])

def expireCommands (now : Instant) (s : ControllerState) : Turn :=
  let expired := keysWhere (fun _ command => decide (command.expiresAt ≤ now)) s.commands
  let reconciliationExpired := s.reconciliation.isSome && expired.any fun id =>
    (s.commands.lookup id).any fun command => decide (command.purpose = .reconciliation)
  (Turn.each expireCommand expired s).andThen fun s =>
  if reconciliationExpired then s.finishReconciliationIfComplete sizes now else (s, [])

def expireRevocations (now : Instant) (s : ControllerState) : Turn :=
  Turn.each (dropRevocation .timedOut)
    (keysWhere (fun _ command => decide (command.expiresAt ≤ now)) s.sessionRevocations) s

def sendPing (now : Instant) (s : ControllerState) (key : SessionKey) : Turn :=
  let s' := s.withSession key.proxyId fun p =>
    let pings := p.outstandingPings ++ [s.nextPingNonce]
    { p with lastPing := now, outstandingPings := pings.drop (pings.length - maxOutstandingPings) }
  ({ s' with nextPingNonce := (s.nextPingNonce + 1) % 2 ^ 64 },
    [s'.send key (.ping s.nextPingNonce)])

def sendPings (now : Instant) (s : ControllerState) : Turn :=
  Turn.each (sendPing now) ((s.sessions.filter fun e =>
    decide (elapsed e.2.lastSeen now < sessionDeadAfter) &&
      decide (heartbeatInterval ≤ elapsed e.2.lastPing now)).map Prod.fst) s

def dead (now : Instant) (s : ControllerState) : List SessionKey :=
  (s.sessions.filter fun e => decide (sessionDeadAfter ≤ elapsed e.2.lastSeen now)).map Prod.fst

def buryDead (now : Instant) (dead : List SessionKey) (s : ControllerState) : Turn :=
  Turn.each (fun s key => (s.removeSession sizes key now).andThen fun s =>
    (s, [.retire key "proxy control heartbeat expired".toList])) dead s

def heartbeat (now : Instant) (s : ControllerState) : Turn :=
  (s.sendPings now).andThen (buryDead sizes now (s.dead now))

def convergeIfDue (now : Instant) (s : ControllerState) : Turn :=
  if s.ready = false ∧ s.reconciliation.isNone ∧
      s.convergenceDeadline.any fun deadline => decide (deadline ≤ now) then
    s.beginInitialReconciliation now
  else (s, [])

def tick (now : Instant) (wallNow : WallTime) (s : ControllerState) : Turn :=
  ((((expireLeases sizes now wallNow (s.expireDeadlines now)).andThen
    (expireCommands sizes now)).andThen (expireRevocations now)).andThen
      (heartbeat sizes now)).andThen (convergeIfDue now)

end

end ControllerState

inductive ControllerOp
  | beginSession (proxyId : ProxyId) (baseUrl : Text) (bootId : Uuid)
  | acceptSnapshot (proxyId : ProxyId) (incarnation baseGeneration : Nat) (rows : List TunnelRow)
      (refused : List Uuid) (browserSessions : List BrowserSessionRow)
  | tunnelUp (proxyId : ProxyId) (incarnation generation : Nat) (row : TunnelRow)
  | tunnelDown (proxyId : ProxyId) (incarnation generation : Nat) (registrationId : Uuid)
  | refuseTunnelUp (proxyId : ProxyId) (incarnation generation : Nat) (registrationId : Uuid)
  | refuseLeaseRefresh (proxyId : ProxyId) (incarnation : Nat) (registrationId : Uuid)
  | browserSessionUp (proxyId : ProxyId) (incarnation generation : Nat) (row : BrowserSessionRow)
  | browserSessionDown (proxyId : ProxyId) (incarnation generation : Nat) (adminSessionId : Uuid)
  | requestAdmission (proxyId : ProxyId) (incarnation : Nat) (requestId registrationId : Uuid)
      (ownerUserId : Uuid) (devserverId : Text) (maxConnectedDevservers : Nat)
      (admissionLeaseExpiresAt : WallTime)
  | cancelAdmission (proxyId : ProxyId) (incarnation : Nat) (requestId registrationId : Uuid)
  | refreshLease (proxyId : ProxyId) (incarnation : Nat) (registrationId : Uuid)
      (lease : ControllerState.Lease)
  | recordActivity (proxyId : ProxyId) (incarnation : Nat)
  | pong (proxyId : ProxyId) (incarnation nonce : Nat)
  | commandResult (proxyId : ProxyId) (incarnation : Nat) (commandId : Uuid)
      (killed missing failed : List Uuid)
  | beginSessionRevocation (revocation : SessionRevocation)
  | sessionRevocationResult (proxyId : ProxyId) (incarnation : Nat) (commandId : Uuid)
      (revoked : Nat)
  | disconnect (proxyId : ProxyId) (incarnation : Nat)
  | requireResync (proxyId : ProxyId) (incarnation : Nat)
  | beginExactKill (ownerUserId : Uuid) (devserverId : Text)
  | beginOwnerKill (ownerUserId : Uuid)
  | beginAllKill
  | tick

structure ControllerLabel where
  now : Instant
  wallNow : WallTime
  op : ControllerOp

namespace ControllerState

def call (sizes : Sizes) (s : ControllerState) (l : ControllerLabel) : Answer :=
  match l.op with
  | .beginSession proxyId baseUrl bootId => s.beginSession proxyId baseUrl bootId l.now
  | .acceptSnapshot proxyId incarnation baseGeneration rows refused browserSessions =>
    s.acceptSnapshot sizes proxyId incarnation baseGeneration rows refused browserSessions l.now
      l.wallNow
  | .tunnelUp proxyId incarnation generation row =>
    s.tunnelUp sizes proxyId incarnation generation row l.now l.wallNow
  | .tunnelDown proxyId incarnation generation registrationId =>
    s.tunnelDown sizes proxyId incarnation generation registrationId l.now
  | .refuseTunnelUp proxyId incarnation generation registrationId =>
    s.refuseTunnelUp proxyId incarnation generation registrationId l.now
  | .refuseLeaseRefresh proxyId incarnation registrationId =>
    s.refuseLeaseRefresh proxyId incarnation registrationId l.now
  | .browserSessionUp proxyId incarnation generation row =>
    s.browserSessionUp sizes proxyId incarnation generation row l.now l.wallNow
  | .browserSessionDown proxyId incarnation generation adminSessionId =>
    s.browserSessionDown sizes proxyId incarnation generation adminSessionId l.now
  | .requestAdmission proxyId incarnation requestId registrationId ownerUserId devserverId
      maxConnectedDevservers admissionLeaseExpiresAt =>
    s.requestAdmission proxyId incarnation requestId registrationId ownerUserId devserverId
      maxConnectedDevservers admissionLeaseExpiresAt l.now l.wallNow
  | .cancelAdmission proxyId incarnation requestId registrationId =>
    s.cancelAdmission proxyId incarnation requestId registrationId l.now
  | .refreshLease proxyId incarnation registrationId lease =>
    s.refreshLease sizes proxyId incarnation registrationId lease l.now l.wallNow
  | .recordActivity proxyId incarnation => s.recordActivity proxyId incarnation l.now
  | .pong proxyId incarnation nonce => s.pong proxyId incarnation nonce l.now
  | .commandResult proxyId incarnation commandId killed missing failed =>
    s.commandResult sizes proxyId incarnation commandId killed missing failed l.now
  | .beginSessionRevocation revocation => s.beginSessionRevocation revocation l.now
  | .sessionRevocationResult proxyId incarnation commandId revoked =>
    s.sessionRevocationResult proxyId incarnation commandId revoked
  | .disconnect proxyId incarnation => s.disconnect sizes proxyId incarnation l.now
  | .requireResync proxyId incarnation => s.requireResync proxyId incarnation
  | .beginExactKill ownerUserId devserverId => s.beginExactKill ownerUserId devserverId l.now
  | .beginOwnerKill ownerUserId => s.beginOwnerKill ownerUserId l.now
  | .beginAllKill => s.beginAllKill l.now
  | .tick => Turn.answer (s.tick sizes l.now l.wallNow)

end ControllerState

end Chan.Control
