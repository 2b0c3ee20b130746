import Chan.Control.Controller
import Chan.Lib.Trace

namespace Chan.Control
open Utf AssocMap Function

/-- A session without its clocks and sizes. -/
structure Live where
  incarnation : Nat
  bootId : Uuid
  status : ProxyStatus
  fleetReady : Bool
  generation : Option Nat
  rows : Uuid → Option TunnelRow
  browserSessions : Uuid → Option BrowserSessionRow
  removed : Finset Uuid

def ProxySession.live (p : ProxySession) : Live where
  incarnation := p.incarnation
  bootId := p.bootId
  status := p.status
  fleetReady := p.fleetReady
  generation := p.generation
  rows := p.rows.lookup
  browserSessions := p.browserSessions.lookup
  removed := p.removedRegistrations

/-- The controller without its timers, its plans and the indexes of what it holds. -/
structure Core where
  limit : Nat
  ready : Bool
  nextIncarnation : Nat
  nextUuid : Uuid
  live : ProxyId → Option Live
  tunnels : TunnelKey → Option OwnedTunnel
  browserSessions : Uuid → Option OwnedBrowserSession
  pending : TunnelKey → Option PendingClaim
  commands : Uuid → Option PendingCommand
  revocations : Uuid → Option PendingSessionRevocation
  deadlines : SessionKey → Option Instant
  markers : ProxyId × Uuid → Option Instant
  usage : SessionKey → Option FleetUsage
  browserUsage : SessionKey → Option FleetUsage

def ControllerState.core (s : ControllerState) : Core where
  limit := s.deploymentLimit
  ready := s.ready
  nextIncarnation := s.nextIncarnation
  nextUuid := s.nextUuid
  live proxyId := (s.proxies.lookup proxyId).map ProxySession.live
  tunnels := s.tunnels.lookup
  browserSessions := s.browserSessions.lookup
  pending := s.pending.lookup
  commands := s.commands.lookup
  revocations := s.sessionRevocations.lookup
  deadlines := s.orphanDeadlines.lookup
  markers := s.disconnectedProxyDeadlines.lookup
  usage := s.orphanUsage.lookup
  browserUsage := s.browserOrphanUsage.lookup

namespace Core

def Current (c : Core) (k : SessionKey) (x : Live) : Prop :=
  c.live k.proxyId = some x ∧ x.incarnation = k.incarnation

def Lost (c : Core) (k : SessionKey) : Prop :=
  k.incarnation < c.nextIncarnation ∧ ∀ x, ¬ c.Current k x

def Occupied (c : Core) (K : TunnelKey) : Prop := (c.tunnels K).isSome ∨ (c.pending K).isSome

def Within (c : Core) : Prop :=
  ∀ (owner : Uuid) (ds : Finset Text), (∀ d ∈ ds, c.Occupied (owner, d)) → ds.card ≤ c.limit

def setLive (c : Core) (proxyId : ProxyId) (x : Live) : Core :=
  { c with live := update c.live proxyId (some x) }

def dropLive (c : Core) (proxyId : ProxyId) : Core :=
  { c with live := update c.live proxyId none }

def without (c : Core) (k : SessionKey) (registrationId : Uuid) :
    TunnelKey → Option OwnedTunnel := fun K =>
  (c.tunnels K).filter fun o => decide ¬(o.session = k ∧ o.row.registrationId = registrationId)

def tunnelsBut (c : Core) (k : SessionKey) : TunnelKey → Option OwnedTunnel := fun K =>
  (c.tunnels K).filter fun o => decide (o.session ≠ k)

def browserBut (c : Core) (k : SessionKey) : Uuid → Option OwnedBrowserSession := fun id =>
  (c.browserSessions id).filter fun o => decide (o.session ≠ k)

def Holds (c : Core) (o : OwnedTunnel) : Prop :=
  ∃ x, c.Current o.session x ∧ x.status = .active ∧ x.rows o.row.registrationId = some o.row

def HoldsBrowser (c : Core) (id : Uuid) (o : OwnedBrowserSession) : Prop :=
  ∃ x, c.Current o.session x ∧ x.fleetReady = true ∧ x.browserSessions id = some o.row

end Core

def Live.opened (incarnation : Nat) (bootId : Uuid) : Live where
  incarnation := incarnation
  bootId := bootId
  status := .joining
  fleetReady := false
  generation := none
  rows _ := none
  browserSessions _ := none
  removed := ∅

def Live.resynced (x : Live) : Live := { Live.opened x.incarnation x.bootId with }

def Live.told (x : Live) : Live := if x.status = .active then { x with fleetReady := true } else x

def Live.joined (x : Live) : Live := { x with status := .active, fleetReady := true }

def ledger (sizes : Sizes) (rows : List TunnelRow) : FleetUsage :=
  ⟨rows.length, (rows.map sizes.rowResidentBytes).sum⟩

namespace ControllerOp

def session : ControllerOp → Option SessionKey
  | .acceptSnapshot p i _ _ _ _ | .tunnelUp p i _ _ | .tunnelDown p i _ _ | .refuseTunnelUp p i _ _
  | .refuseLeaseRefresh p i _ | .browserSessionUp p i _ _ | .browserSessionDown p i _ _
  | .requestAdmission p i _ _ _ _ _ _ | .cancelAdmission p i _ _ | .refreshLease p i _ _
  | .recordActivity p i | .pong p i _ | .commandResult p i _ _ _ _
  | .sessionRevocationResult p i _ _ | .disconnect p i | .requireResync p i => some ⟨p, i⟩
  | .beginSession .. | .beginSessionRevocation _ | .beginExactKill .. | .beginOwnerKill _
  | .beginAllKill | .tick => none

def generation : ControllerOp → Option Nat
  | .tunnelUp _ _ g _ | .tunnelDown _ _ g _ | .refuseTunnelUp _ _ g _ | .browserSessionUp _ _ g _
  | .browserSessionDown _ _ g _ => some g
  | _ => none

def registrations : ControllerOp → List Uuid
  | .acceptSnapshot _ _ _ rows refused _ => rows.map TunnelRow.registrationId ++ refused
  | .tunnelUp _ _ _ row => [row.registrationId]
  | .refuseTunnelUp _ _ _ id | .refuseLeaseRefresh _ _ id | .refreshLease _ _ id _ => [id]
  | _ => []

/-- Only a delta and a request for it can end in a resync. -/
def mayResync : ControllerOp → Bool
  | .requireResync .. => true
  | op => op.generation.isSome

end ControllerOp

def Effect.Plain : Effect → Prop
  | .send _ frame _ => match frame with
    | .snapshotAccepted _ | .fleetReady | .resyncRequired _ | .killRegistrations _ _
    | .admissionDecision _ _ .admits => False
    | _ => True
  | .retire _ _ => True
  | .commandSettled _ _ => False

def Attended (k : SessionKey) (addressee : Option ProxySession) : Prop :=
  ∃ p, addressee = some p ∧ p.incarnation = k.incarnation ∧ p.status = .active ∧
    p.generation.isSome

section

variable (sizes : Sizes) (l : ControllerLabel) (kept : Prop)

/-- The moves the operations are made of, for one call. With `kept`, no lost session loses its
deadline while browser sessions are counted for it. -/
inductive Move : Core → List Effect → Core → Prop
  | emit (hes : ∀ e ∈ es, e.Plain) (hn : c.nextUuid ≤ n) :
      Move c es { c with nextUuid := n }
  | opened (hp : c.live p = none) :
      Move c []
        { c.setLive p (.opened c.nextIncarnation boot) with
          nextIncarnation := c.nextIncarnation + 1 }
  | snapshot (hk : c.Current k x) (hx : x.status = .joining)
      (hop : l.op = .acceptSnapshot k.proxyId k.incarnation g given refused sessions)
      (hrows : ∀ i row, rows i = some row → row.registrationId = i ∧ i ∈ l.op.registrations)
      (hbrowser : ∀ i row, browser i = some row → row.adminSessionId = i)
      (hremoved : ∀ i ∈ removed, i ∈ l.op.registrations)
      (hcover : ∀ i ∈ l.op.registrations, (rows i).isSome ∨ i ∈ removed) :
      Move c [.send k (.snapshotAccepted g) a]
        (c.setLive k.proxyId { x with
          generation := some g
          rows := rows
          browserSessions := browser
          removed := removed
          status := if c.ready then .joining else .active })
  | advance (hk : c.Current k x) (hx : x.generation.isSome) (hl : l.op.session = some k)
      (hg : l.op.generation = some g) :
      Move c [] (c.setLive k.proxyId { x with generation := some g })
  | remember (hk : c.Current k x) (hl : l.op.session = some k) (hid : i ∈ l.op.registrations)
      (hsub : x.removed ⊆ removed) (hremoved : removed ⊆ insert i x.removed) :
      Move c [] (c.setLive k.proxyId { x with removed := removed })
  | forget (hk : c.Current k x) (hop : l.op = .tunnelDown k.proxyId k.incarnation g i) :
      Move c [] (c.setLive k.proxyId { x with removed := x.removed.erase i })
  | shrink (ht : Sub t c.tunnels) (hp : Sub q c.pending) (hb : Sub b c.browserSessions) :
      Move c [] { c with tunnels := t, pending := q, browserSessions := b }
  | claim (hop : l.op = .requestAdmission k.proxyId k.incarnation requestId registrationId K.1 K.2 m
        e) (hready : c.ready = true) (hk : c.Current k x) (hx : x.fleetReady = true)
      (hclaim : claim.session = k)
      (hroom : c.Occupied K ∨
        ∀ ds : Finset Text, (∀ d ∈ ds, c.Occupied (K.1, d)) → ds.card < c.limit)
      (hes : ∀ e ∈ es, e.Plain) :
      Move c
        (es ++ [.send k (.admissionDecision requestId registrationId .admits) a])
        { c with pending := update c.pending K (some claim) }
  | kill (hcommand : command.session = k) :
      Move c [.send k (.killRegistrations c.nextUuid ids) a]
        { c with
          commands := update c.commands c.nextUuid (some command)
          nextUuid := c.nextUuid + 1 }
  | publish (hk : c.Current k x) (hl : l.op.session = some k) (hg : l.op.generation.isSome)
      (hid : row.registrationId ∈ l.op.registrations)
      (hrow : x.rows row.registrationId = none) (hclaim : c.pending row.key = some claim)
      (hsession : claim.session = k) :
      Move c []
        { c.setLive k.proxyId { x with rows := update x.rows row.registrationId (some row) } with
          tunnels := update c.tunnels row.key (some ⟨k, url, row⟩)
          pending := update c.pending row.key none }
  | dropRow (hk : c.Current k x) (hsub : x.removed ⊆ removed)
      (hremoved : removed ⊆ insert i x.removed)
      (hfull : removed.card < maxRemovedRegistrations → x.rows i ≠ none → i ∈ removed)
      (hnone : x.rows i = none → removed = x.removed) :
      Move c []
        { c.setLive k.proxyId { x with rows := update x.rows i none, removed := removed } with
          tunnels := c.without k i }
  | release (hk : c.Lost o.session) (ho : c.tunnels K = some o) (hu : c.usage o.session = some u)
      (hrows : 1 < u.rows) :
      Move c []
        { c with
          tunnels := c.without o.session o.row.registrationId
          usage := update c.usage o.session (some (u.sub ⟨1, sizes.rowResidentBytes o.row⟩)) }
  | releaseLast (hk : c.Lost o.session) (ho : c.tunnels K = some o)
      (hu : c.usage o.session = some u) (hrows : u.rows ≤ 1)
      (hkept : kept → c.browserUsage o.session = none) :
      Move c []
        { c with
          tunnels := c.without o.session o.row.registrationId
          usage := update c.usage o.session none
          deadlines := update c.deadlines o.session none }
  | renewRow (hk : c.Current k x) (hid : x.rows i = some old)
      (hnew : new.registrationId = old.registrationId) (hkey : new.key = old.key)
      (hl : l.op.session = some k) :
      Move c []
        { c.setLive k.proxyId { x with rows := update x.rows i (some new) } with
          tunnels := update c.tunnels new.key ((c.tunnels new.key).map fun o =>
            if o.session = k ∧ o.row.registrationId = i then { o with row := new } else o) }
  | browserUp (hk : c.Current k x) (hg : x.generation.isSome) (hid : row.adminSessionId = i) :
      Move c []
        { c.setLive k.proxyId { x with
            browserSessions := update x.browserSessions i (some row) } with
          browserSessions :=
            if x.fleetReady then update c.browserSessions i (some ⟨k, row⟩)
            else c.browserSessions }
  | browserDown (hk : c.Current k x) (hb : Sub b c.browserSessions)
      (hid : ∀ o, b i = some o → o.session ≠ k) :
      Move c []
        { c.setLive k.proxyId { x with browserSessions := update x.browserSessions i none } with
          browserSessions := b }
  | settleCommand (hid : c.commands i = some command) :
      Move c
        (if command.purpose = .runtime then [.commandSettled i outcome] else [])
        { c with commands := update c.commands i none }
  | revoke :
      Move c [.send k (.revokeSessions c.nextUuid revocation) a]
        { c with
          revocations := update c.revocations c.nextUuid (some ⟨k, e⟩)
          nextUuid := c.nextUuid + 1 }
  | settleRevocation (hid : c.revocations i = some revocation) :
      Move c [.commandSettled i outcome]
        { c with revocations := update c.revocations i none }
  | resync (hk : c.Current k x) (hl : l.op.session = some k) (hop : l.op.mayResync = true)
      (hq : Sub q c.pending) (hclaims : ∀ K claim, q K = some claim → claim.session ≠ k) :
      Move c [.send k (.resyncRequired g) a]
        { c.setLive k.proxyId x.resynced with
          tunnels := c.tunnelsBut k
          browserSessions := c.browserBut k
          pending := q }
  | unready (hactive : ∀ p x, c.live p = some x → x.status ≠ .active) :
      Move c [] { c with ready := false }
  | lose {k : SessionKey} (hk : c.Current k x)
      (hdeadline : ∀ k', k' ≠ k → deadlines k' = c.deadlines k')
      (hmarker : markers = update c.markers (k.proxyId, x.bootId) (some d))
      (hd : l.now + disconnectedAuthorityRetention ≤ d)
      (hold : ∀ d', c.markers (k.proxyId, x.bootId) = some d' → d' ≤ d)
      (husage : (usage = c.usage ∧ ∀ K o, c.tunnels K = some o → o.session ≠ k) ∨
        ∃ rows, usage = update c.usage k (some (ledger sizes rows)) ∧ (deadlines k).isSome ∧
          ∀ K o, c.tunnels K = some o → o.session = k → o.row ∈ rows)
      (hbrowser : (browserUsage = c.browserUsage ∧ ∀ i, x.browserSessions i = none) ∨
        ∃ u, browserUsage = update c.browserUsage k (some u) ∧ (deadlines k).isSome)
      (hq : Sub q c.pending) (hclaims : ∀ K claim, q K = some claim → claim.session ≠ k) :
      Move c []
        { c.dropLive k.proxyId with
          deadlines := deadlines
          markers := markers
          usage := usage
          browserUsage := browserUsage
          pending := q }
  | join (hk : c.Current k x) (hx : x.generation.isSome) (hold : x.fleetReady = false)
      (ht : ∀ K o, t K = some o →
        (c.tunnels K = some o ∧ (o.session.proxyId ≠ k.proxyId ∨ c.Holds o)) ∨
        (o.row.key = K ∧ o.session = k ∧ x.rows o.row.registrationId = some o.row))
      (hwithin : c.Within → { c with tunnels := t }.Within)
      (hb : ∀ i o, b i = some o →
        (c.browserSessions i = some o ∧ (c.browserUsage o.session).isSome ∧
          o.session.proxyId ≠ k.proxyId) ∨
        (c.setLive k.proxyId x.joined).HoldsBrowser i o)
      (ha : Attended k a) :
      Move c [.send k .fleetReady a]
        { c.setLive k.proxyId x.joined with
          tunnels := t
          browserSessions := b
          usage := fun k' => if k'.proxyId = k.proxyId then none else c.usage k'
          browserUsage := fun k' => if k'.proxyId = k.proxyId then none else c.browserUsage k'
          deadlines := fun k' => if k'.proxyId = k.proxyId then none else c.deadlines k'
          markers := update c.markers (k.proxyId, x.bootId) none }
  | converge {ks : List SessionKey} {a : SessionKey → Option ProxySession}
      (hpending : ∀ K, c.pending K = none)
      (ht : ∀ K o, t K = some o → o.row.key = K ∧ c.Holds o)
      (hwithin : { c with tunnels := t }.Within)
      (hb : ∀ i o, b i = some o →
        (c.browserSessions i = some o ∧ (c.browserUsage o.session).isSome) ∨
        { c with live := fun p => (c.live p).map Live.told }.HoldsBrowser i o)
      (hks : ∀ k, k ∈ ks ↔ ∃ x, c.Current k x ∧ x.status = .active ∧ x.fleetReady = false)
      (hnodup : ks.Nodup) (ha : ∀ k ∈ ks, Attended k (a k)) :
      Move c (ks.map fun k => .send k .fleetReady (a k))
        { c with
          ready := true
          live := fun p => (c.live p).map Live.told
          tunnels := t
          browserSessions := b }
  | activate (hk : c.Current k x) (hx : x.status = .joining) (hg : x.generation.isSome) :
      Move c [] (c.setLive k.proxyId { x with status := .active })
  | expireOrphan :
      Move c []
        { c with
          deadlines := update c.deadlines k none
          usage := update c.usage k none
          browserUsage := update c.browserUsage k none
          tunnels := c.tunnelsBut k
          browserSessions := c.browserBut k }
  | expireMarkers :
      Move c []
        { c with markers := fun a => (c.markers a).filter fun d => decide (l.now < d) }

abbrev Moves : Core → List Effect → Core → Prop := Trace.Run (Move sizes l kept)

end

end Chan.Control
