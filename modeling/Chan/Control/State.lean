import Chan.Lib.AssocMap
import Chan.Collab.DiskEcho
import Chan.Workspace

namespace Chan.Control
open Utf AssocMap

def heartbeatInterval : Nat := millis 5000

def sessionDeadAfter : Nat := millis 15000

def convergenceWindow : Nat := millis 30000

def disconnectedAuthorityRetention : Nat := millis 60000

def admissionClaimTtl : Nat := millis 15000

def commandTimeout : Nat := millis 5000

def maxOutstandingPings : Nat := 8

def maxRemovedRegistrations : Nat := 4096

def maxRemovedBrowserSessions : Nat := maxRemovedRegistrations

def maxProxySessions : Nat := 128

def maxProxyAuthorities : Nat := maxProxySessions * 2

def maxRowsPerSession : Nat := 2048

def maxFleetRows : Nat := 16384

def maxFleetResidentBytes : Nat := 64 * 1024 * 1024

def maxUsernameBytes : Nat := 64

def maxDevserverIdBytes : Nat := 128

def maxAdmissionLeaseBytes : Nat := 4096

def maxPendingTunnelBytes : Nat :=
  2 * (maxUsernameBytes + maxDevserverIdBytes) + maxAdmissionLeaseBytes + 183 + 2 * 36 + 7 +
    2 * 33 + 58

def maxBrowserSessionSnapshotRows : Nat := 100000

def maxBrowserSessionSnapshotBytes : Nat := 32 * 1024 * 1024

def maxFleetBrowserSessionRows : Nat := 500000

def maxFleetBrowserSessionBytes : Nat := 128 * 1024 * 1024

def maxPendingPerSession : Nat := 1024

def maxPendingFleet : Nat := 16384

def maxBootHistory : Nat := 1024

def maxSessionRevocationCount : Nat := 100000

/-- An identifier; the nil one is zero. -/
abbrev Uuid := Nat

abbrev ProxyId := Text

abbrev WallTime := Int

structure TunnelRow where
  registrationId : Uuid
  ownerUserId : Uuid
  user : Text
  devserverId : Text
  maxConnectedDevservers : Nat
  admissionLease : Text
  admissionLeaseExpiresAt : WallTime
  peerAddr : Option Text
  connectedAt : WallTime
  deriving DecidableEq

structure BrowserSessionRow where
  adminSessionId : Uuid
  subjectUserId : Uuid
  ownerUserId : Uuid
  devserverId : Text
  createdAt : WallTime
  expiresAt : WallTime
  deriving DecidableEq

abbrev TunnelKey := Uuid × Text

def TunnelRow.key (row : TunnelRow) : TunnelKey := (row.ownerUserId, row.devserverId)

structure Sizes where
  rowResidentBytes : TunnelRow → Nat
  browserSessionResidentBytes : BrowserSessionRow → Nat

@[ext]
structure SessionKey where
  proxyId : ProxyId
  incarnation : Nat
  deriving DecidableEq

inductive ProxyStatus
  | joining
  | active
  deriving DecidableEq

structure OwnedTunnel where
  session : SessionKey
  proxyBaseUrl : Text
  row : TunnelRow
  deriving DecidableEq

structure OwnedBrowserSession where
  session : SessionKey
  row : BrowserSessionRow
  deriving DecidableEq

structure ProxySession where
  incarnation : Nat
  baseUrl : Text
  bootId : Uuid
  generation : Option Nat
  rows : Map Uuid TunnelRow
  residentBytes : Nat
  browserSessions : Map Uuid BrowserSessionRow
  browserSessionResidentBytes : Nat
  /-- Registrations removed or refused before the proxy publishes their down. -/
  removedRegistrations : Finset Uuid
  removedBrowserSessions : Finset Uuid
  status : ProxyStatus
  fleetReady : Bool
  lastSeen : Instant
  lastPing : Instant
  outstandingPings : List Nat

namespace ProxySession

def isFleetReady (p : ProxySession) : Bool := decide (p.status = .active) && p.fleetReady

def rememberRemoval (registrationId : Uuid) (p : ProxySession) : ProxySession :=
  if p.removedRegistrations.card < maxRemovedRegistrations then
    { p with removedRegistrations := insert registrationId p.removedRegistrations }
  else p

def opened (incarnation : Nat) (baseUrl : Text) (bootId : Uuid) (now : Instant) : ProxySession where
  incarnation := incarnation
  baseUrl := baseUrl
  bootId := bootId
  generation := none
  rows := ∅
  residentBytes := 0
  browserSessions := ∅
  browserSessionResidentBytes := 0
  removedRegistrations := ∅
  removedBrowserSessions := ∅
  status := .joining
  fleetReady := false
  lastSeen := now
  lastPing := now
  outstandingPings := []

def told (p : ProxySession) : ProxySession :=
  if p.status = .active then { p with fleetReady := true } else p

def joined (p : ProxySession) : ProxySession := { p with status := .active, fleetReady := true }

def resynced (p : ProxySession) : ProxySession :=
  { p with
    status := .joining
    fleetReady := false
    generation := none
    rows := ∅
    residentBytes := 0
    browserSessions := ∅
    browserSessionResidentBytes := 0
    removedRegistrations := ∅
    removedBrowserSessions := ∅ }

end ProxySession

structure PendingClaim where
  session : SessionKey
  requestId : Uuid
  registrationId : Uuid
  maxConnectedDevservers : Nat
  expiresAt : Instant
  deriving DecidableEq

inductive CommandPurpose
  | reconciliation
  | runtime
  deriving DecidableEq

structure PendingCommand where
  session : SessionKey
  registrationIds : Finset Uuid
  purpose : CommandPurpose
  expiresAt : Instant

structure PendingSessionRevocation where
  session : SessionKey
  expiresAt : Instant
  deriving DecidableEq

structure FleetUsage where
  rows : Nat
  bytes : Nat
  deriving DecidableEq

namespace FleetUsage

def zero : FleetUsage := ⟨0, 0⟩

def add (u v : FleetUsage) : FleetUsage := ⟨u.rows + v.rows, u.bytes + v.bytes⟩

def sub (u v : FleetUsage) : FleetUsage := ⟨u.rows - v.rows, u.bytes - v.bytes⟩

end FleetUsage

inductive ReconciliationKind
  | initial
  | joining (session : SessionKey)
  deriving DecidableEq

structure Reconciliation where
  kind : ReconciliationKind
  commandIds : Finset Uuid
  failed : Bool

inductive AdmissionDecision
  | admits
  | atCapacity
  | controlWarming
  | stale
  deriving DecidableEq

inductive SessionRevocation
  | exact (subjectUserId ownerUserId : Uuid) (devserverId : Text)
  | subject (subjectUserId : Uuid)
  | sessionId (adminSessionId : Uuid)
  | owner (ownerUserId : Uuid)
  | all
  deriving DecidableEq

def isControl (c : Char) : Bool := c.toNat ≤ 0x1f || (0x7f ≤ c.toNat && c.toNat ≤ 0x9f)

def validateText (value : Text) (limit : Nat) : Bool :=
  !value.isEmpty && decide (utf8Len value ≤ limit) && !value.any isControl

def SessionRevocation.validate : SessionRevocation → Bool
  | .exact subjectUserId ownerUserId devserverId =>
    subjectUserId != 0 && ownerUserId != 0 && validateText devserverId maxDevserverIdBytes
  | .subject subjectUserId => subjectUserId != 0
  | .sessionId adminSessionId => adminSessionId != 0
  | .owner ownerUserId => ownerUserId != 0
  | .all => true

inductive ServerFrame
  | snapshotAccepted (baseGeneration : Nat)
  | fleetReady
  | admissionDecision (requestId registrationId : Uuid) (decision : AdmissionDecision)
  | killRegistrations (commandId : Uuid) (registrationIds : List Uuid)
  | revokeSessions (commandId : Uuid) (revocation : SessionRevocation)
  | resyncRequired (expectedGeneration : Nat)
  | ping (nonce : Nat)
  deriving DecidableEq

inductive CommandOutcome
  | confirmed (killed missing : Nat)
  | failed
  | timedOut
  | sessionLost
  deriving DecidableEq

/-- What an operation asks of the actor. A sent frame comes with the session at its proxy id as it
stands when the frame is queued. -/
inductive Effect
  | send (session : SessionKey) (frame : ServerFrame) (addressee : Option ProxySession)
  | retire (session : SessionKey) (reason : Text)
  | commandSettled (commandId : Uuid) (outcome : CommandOutcome)

inductive StateError
  | notReady
  | staleSession
  | proxyNotJoining
  | snapshotTooLarge (rows : Nat)
  | duplicateRegistration (registrationId : Uuid)
  | browserSessionSnapshotTooLarge (rows : Nat)
  | duplicateBrowserSession (adminSessionId : Uuid)
  | invalidPong
  | duplicateProxyId
  | sessionLimit
  | fleetCapacity
  | bootIdMismatch
  | bootHistoryCapacity
  | expiredAdmissionLease
  | expiredBrowserSession
  | invalidRevocation
  | authorityTemporarilyUnavailable
  deriving DecidableEq

structure ControllerState where
  maxDevserversPerUser : Nat
  ready : Bool
  nextIncarnation : Nat
  nextPingNonce : Nat
  /-- The next identifier that has not been drawn. -/
  nextUuid : Uuid
  proxies : Map ProxyId ProxySession
  tunnels : Map TunnelKey OwnedTunnel
  browserSessions : Map Uuid OwnedBrowserSession
  /-- For each owner, how often each devserver id is published or claimed. -/
  ownerOccupancy : Map Uuid (Map Text Nat)
  pending : Map TunnelKey PendingClaim
  pendingIndex : Map (SessionKey × Uuid × Uuid) TunnelKey
  pendingPerSession : Map SessionKey Nat
  commands : Map Uuid PendingCommand
  sessionRevocations : Map Uuid PendingSessionRevocation
  quarantinedRestartKeys : Finset TunnelKey
  orphanDeadlines : Map SessionKey Instant
  disconnectedProxyDeadlines : Map (ProxyId × Uuid) Instant
  orphanUsage : Map SessionKey FleetUsage
  orphanTotal : FleetUsage
  browserOrphanUsage : Map SessionKey FleetUsage
  browserOrphanTotal : FleetUsage
  bootHistory : Map ProxyId Uuid
  reconciliation : Option Reconciliation
  /-- Sessions whose snapshot arrived while another reconciliation ran, oldest first. -/
  deferredJoins : List SessionKey
  convergenceDeadline : Option Instant

namespace ControllerState

/-- A controller as it starts. The identifiers it draws start above the nil one. -/
def new (maxDevserversPerUser : Nat) : ControllerState where
  maxDevserversPerUser := maxDevserversPerUser
  ready := false
  nextIncarnation := 1
  nextPingNonce := 1
  nextUuid := 1
  proxies := ∅
  tunnels := ∅
  browserSessions := ∅
  ownerOccupancy := ∅
  pending := ∅
  pendingIndex := ∅
  pendingPerSession := ∅
  commands := ∅
  sessionRevocations := ∅
  quarantinedRestartKeys := ∅
  orphanDeadlines := ∅
  disconnectedProxyDeadlines := ∅
  orphanUsage := ∅
  orphanTotal := .zero
  browserOrphanUsage := ∅
  browserOrphanTotal := .zero
  bootHistory := ∅
  reconciliation := none
  deferredJoins := []
  convergenceDeadline := none

def sessions (s : ControllerState) : List (SessionKey × ProxySession) :=
  (sorted s.proxies).map fun e => (⟨e.1, e.2.incarnation⟩, e.2)

def session (s : ControllerState) (key : SessionKey) : Option ProxySession :=
  (s.proxies.lookup key.proxyId).filter fun p => p.incarnation = key.incarnation

def requireKey (s : ControllerState) (proxyId : ProxyId) (incarnation : Nat)
    (f : SessionKey → ProxySession → ControllerState × Except StateError α) :
    ControllerState × Except StateError α :=
  match s.session ⟨proxyId, incarnation⟩ with
  | none => (s, .error .staleSession)
  | some p => f ⟨proxyId, incarnation⟩ p

def withSession (proxyId : ProxyId) (f : ProxySession → ProxySession) (s : ControllerState) :
    ControllerState := { s with proxies := modify proxyId f s.proxies }

def touch (key : SessionKey) (now : Instant) (s : ControllerState) : ControllerState :=
  s.withSession key.proxyId fun p => { p with lastSeen := now }

def send (s : ControllerState) (key : SessionKey) (frame : ServerFrame) : Effect :=
  .send key frame (s.proxies.lookup key.proxyId)

def admissionEffect (s : ControllerState) (key : SessionKey) (requestId registrationId : Uuid)
    (decision : AdmissionDecision) : Effect :=
  s.send key (.admissionDecision requestId registrationId decision)

def ownsAggregateRows (s : ControllerState) (key : SessionKey) : Bool :=
  (s.session key).any fun p => decide (p.status = .active)

def anyActive (s : ControllerState) : Bool :=
  s.proxies.entries.any fun e => decide (e.2.status = .active)

def addOwnerKey (key : TunnelKey) (s : ControllerState) : ControllerState :=
  let keys := (s.ownerOccupancy.lookup key.1).getD ∅
  { s with ownerOccupancy :=
      s.ownerOccupancy.insert key.1 (keys.insert key.2 ((keys.lookup key.2).getD 0 + 1)) }

def removeOwnerKey (key : TunnelKey) (s : ControllerState) : ControllerState :=
  match s.ownerOccupancy.lookup key.1 with
  | none => s
  | some keys =>
    let keys := match keys.lookup key.2 with
      | none => keys
      | some references =>
        if references - 1 = 0 then keys.erase key.2 else keys.insert key.2 (references - 1)
    { s with ownerOccupancy :=
        if keys.entries = [] then s.ownerOccupancy.erase key.1
        else s.ownerOccupancy.insert key.1 keys }

def distinctForOwner (s : ControllerState) (ownerUserId : Uuid) : Nat :=
  (s.ownerOccupancy.lookup ownerUserId).elim 0 fun keys => keys.entries.length

def deploymentLimit (s : ControllerState) : Nat :=
  if s.maxDevserversPerUser = 0 then u64Max else s.maxDevserversPerUser

def effectiveOwnerLimit (s : ControllerState) (ownerUserId : Uuid) (candidateLimit : Nat) : Nat :=
  let rows := s.tunnels.entries.filterMap fun e =>
    if e.1.1 = ownerUserId then some e.2.row.maxConnectedDevservers else none
  let claims := s.pending.entries.filterMap fun e =>
    if e.1.1 = ownerUserId then some e.2.maxConnectedDevservers else none
  (rows ++ claims ++ [candidateLimit]).foldl min s.deploymentLimit

def insertPending (key : TunnelKey) (claim : PendingClaim) (s : ControllerState) :
    ControllerState :=
  let s := { s with
    pendingIndex :=
      s.pendingIndex.insert (claim.session, claim.requestId, claim.registrationId) key }
  let s := s.addOwnerKey key
  { s with
    pendingPerSession := s.pendingPerSession.insert claim.session
      ((s.pendingPerSession.lookup claim.session).getD 0 + 1)
    pending := s.pending.insert key claim }

def removePending (key : TunnelKey) (s : ControllerState) : ControllerState :=
  match s.pending.lookup key with
  | none => s
  | some claim =>
    let s := { s with pending := s.pending.erase key }.removeOwnerKey key
    { s with
      pendingIndex :=
        s.pendingIndex.erase (claim.session, claim.requestId, claim.registrationId)
      pendingPerSession :=
        match s.pendingPerSession.lookup claim.session with
        | none => s.pendingPerSession
        | some count =>
          if count - 1 = 0 then s.pendingPerSession.erase claim.session
          else s.pendingPerSession.insert claim.session (count - 1) }

def removePendings (keys : List TunnelKey) (s : ControllerState) : ControllerState :=
  keys.foldl (fun s key => s.removePending key) s

def removePendingForSession (session : SessionKey) (s : ControllerState) : ControllerState :=
  s.removePendings (keysWhere (fun _ claim => decide (claim.session = session)) s.pending)

def removeTunnel (key : TunnelKey) (s : ControllerState) : ControllerState :=
  if (s.tunnels.lookup key).isSome then
    { s with tunnels := s.tunnels.erase key }.removeOwnerKey key
  else s

def removeTunnels (keys : List TunnelKey) (s : ControllerState) : ControllerState :=
  keys.foldl (fun s key => s.removeTunnel key) s

def removeTunnelsForSession (session : SessionKey) (s : ControllerState) : ControllerState :=
  s.removeTunnels (keysWhere (fun _ owned => decide (owned.session = session)) s.tunnels)

def replaceTunnels (tunnels : Map TunnelKey OwnedTunnel) (s : ControllerState) :
    ControllerState :=
  (tunnels.keys ++ s.pending.keys).foldl (fun s key => s.addOwnerKey key)
    { s with tunnels := tunnels, ownerOccupancy := ∅ }

def removeBrowserSessionsForSession (session : SessionKey) (s : ControllerState) :
    ControllerState :=
  { s with browserSessions :=
      retain (fun _ owned => decide (owned.session ≠ session)) s.browserSessions }

def replaceBrowserSessions (s : ControllerState) : ControllerState :=
  let kept := retain (fun _ owned => (s.browserOrphanUsage.lookup owned.session).isSome)
    s.browserSessions
  let published := s.sessions.flatMap fun e =>
    if e.2.isFleetReady then e.2.browserSessions.entries.map fun b => (e.1, b.2) else []
  { s with browserSessions :=
      published.foldl (fun m e => m.insert e.2.adminSessionId ⟨e.1, e.2⟩) kept }

def removeOrphanUsage (session : SessionKey) (s : ControllerState) : ControllerState :=
  match s.orphanUsage.lookup session with
  | none => s
  | some usage =>
    { s with
      orphanUsage := s.orphanUsage.erase session
      orphanTotal := s.orphanTotal.sub usage }

def removeBrowserOrphanUsage (session : SessionKey) (s : ControllerState) : ControllerState :=
  match s.browserOrphanUsage.lookup session with
  | none => s
  | some usage =>
    { s with
      browserOrphanUsage := s.browserOrphanUsage.erase session
      browserOrphanTotal := s.browserOrphanTotal.sub usage }

def forgetOrphan (session : SessionKey) (s : ControllerState) : ControllerState :=
  ((s.removeOrphanUsage session).removeBrowserOrphanUsage session).removeBrowserSessionsForSession
    session

def clearOrphansForProxyAuthority (proxyId : ProxyId) (bootId : Uuid) (s : ControllerState) :
    ControllerState :=
  let sessions := ((s.orphanUsage.keys ++ s.browserOrphanUsage.keys ++
    s.orphanDeadlines.keys).filter fun session => session.proxyId = proxyId).dedup
  let s := sessions.foldl (fun s session => s.forgetOrphan session) s
  { s with
    orphanDeadlines := retain (fun session _ => decide (session.proxyId ≠ proxyId))
      s.orphanDeadlines
    disconnectedProxyDeadlines := s.disconnectedProxyDeadlines.erase (proxyId, bootId) }

def usageOf (own : ProxySession → FleetUsage) (orphans : Map SessionKey FleetUsage)
    (total : FleetUsage) (replacing : Option ProxyId) (s : ControllerState) : FleetUsage :=
  let sessions := s.proxies.entries.filter fun e => decide (replacing ≠ some e.1)
  let held := sessions.foldl (fun u e => u.add (own e.2)) .zero
  match replacing with
  | none => held.add total
  | some proxyId =>
    (orphans.entries.filter fun e => decide (e.1.proxyId ≠ proxyId)).foldl
      (fun u e => u.add e.2) held

def fleetUsage (replacing : Option ProxyId) (s : ControllerState) : FleetUsage :=
  s.usageOf (fun p => ⟨p.rows.entries.length, p.residentBytes⟩) s.orphanUsage s.orphanTotal
    replacing

def browserSessionUsage (replacing : Option ProxyId) (s : ControllerState) : FleetUsage :=
  s.usageOf (fun p => ⟨p.browserSessions.entries.length, p.browserSessionResidentBytes⟩)
    s.browserOrphanUsage s.browserOrphanTotal replacing

end ControllerState

end Chan.Control
