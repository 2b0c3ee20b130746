import Chan.Proxy.EntryReplay

namespace Chan.Proxy
open AssocMap

structure SessionPrincipal where
  subjectUserId : Uuid
  ownerUserId : Uuid
  devserverId : String
  audience : String
  deriving DecidableEq

inductive ClientType where
  | desktop
  | browser
  | unknown
  deriving DecidableEq

/-- What the clones of a record share: its cancellation token and its registry of operations. -/
structure Authority where
  cancelled : Bool
  revoked : Bool
  nextId : Nat
  active : List Nat
  deriving DecidableEq

namespace Authority

def new : Authority := ⟨false, false, 0, []⟩

def begin (a : Authority) : Authority × Option Nat :=
  if a.revoked then (a, none)
  else ({ a with nextId := a.nextId + 1, active := a.nextId :: a.active }, some a.nextId)

def finish (id : Nat) (a : Authority) : Authority := { a with active := a.active.filter (· ≠ id) }

def isRevokedAndDrained (a : Authority) : Bool := a.revoked && a.active.isEmpty

end Authority

structure SessionRecord where
  adminSessionId : Uuid
  principal : SessionPrincipal
  client : ClientType
  createdAt : Nat
  expiresAt : Nat
  authority : Nat
  deriving DecidableEq

structure ExtensionTarget where
  tenant : String
  extensionId : String
  capability : String
  deriving DecidableEq

structure ExtensionBinding where
  verifier : String
  principal : SessionPrincipal
  client : ClientType
  target : ExtensionTarget
  lastUsed : Nat
  authority : Nat
  deriving DecidableEq

structure ResolvedBinding where
  target : ExtensionTarget
  authorization : SessionRecord
  deriving DecidableEq

inductive Revocation where
  | exact (subjectUserId ownerUserId : Uuid) (devserverId : String)
  | subject (subjectUserId : Uuid)
  | sessionId (adminSessionId : Uuid)
  | owner (ownerUserId : Uuid)
  | all
  deriving DecidableEq

namespace Revocation

def matchesPrincipal : Revocation → SessionPrincipal → Bool
  | .exact u o d, p => p.subjectUserId = u ∧ p.ownerUserId = o ∧ p.devserverId = d
  | .subject id, p => p.subjectUserId = id
  | .sessionId _, _ => false
  | .owner id, p => p.ownerUserId = id
  | .all, _ => true

def «matches» (r : Revocation) (record : SessionRecord) : Bool :=
  match r with
  | sessionId id => record.adminSessionId = id
  | r => r.matchesPrincipal record.principal

end Revocation

structure BrowserSessionRow where
  adminSessionId : Uuid
  subjectUserId : Uuid
  ownerUserId : Uuid
  devserverId : String
  deriving DecidableEq

def browserSessionRow (record : SessionRecord) : BrowserSessionRow :=
  ⟨record.adminSessionId, record.principal.subjectUserId, record.principal.ownerUserId,
    record.principal.devserverId⟩

inductive SessionEvent where
  | up (row : BrowserSessionRow)
  | down (adminSessionId : Uuid)
  deriving DecidableEq

inductive IssueError where
  | authoritySuspended
  | atCapacity
  | subjectAtCapacity
  | principalAtCapacity
  deriving DecidableEq

inductive BindError where
  | noLiveSession
  | atCapacity
  deriving DecidableEq

structure SessionLimits where
  maxSessions : Nat
  maxSessionsPerSubject : Nat
  maxSessionsPerPrincipal : Nat
  maxBindings : Nat
  maxBindingsPerPrincipal : Nat
  lifetime : Nat

def SessionLimits.new (maxSessions lifetime : Nat) : SessionLimits :=
  ⟨maxSessions, min maxSessions 64, min maxSessions 16, maxSessions * 4, 32, lifetime⟩

def isLowerHex (value : String) : Bool :=
  value.toList.all fun c => ('0' ≤ c && c ≤ '9') || ('a' ≤ c && c ≤ 'f')

def validSessionId (id : String) : Bool := id.length = 64 && isLowerHex id

/-- The selector and the verifier of a token. The verifier stays in its hex spelling, of which there
is one for each value. -/
def splitBindingToken (token : String) : Option (String × String) :=
  if token.length = 96 && isLowerHex token then
    some (String.ofList (token.toList.take 32), String.ofList (token.toList.drop 32))
  else none

/-- What the lock guards, and the authorities the records of the proxy share. The heap of expiries
is held in its order, earliest first. -/
structure SessionState where
  authoritySuspended : Bool
  sessions : Map String SessionRecord
  expiries : List (Nat ×ₗ String)
  subjectCounts : Map Uuid Nat
  principalSessions : Map SessionPrincipal (List String)
  bindings : Map String ExtensionBinding
  principalBindings : Map SessionPrincipal (List String)
  authorities : Nat → Authority
  nextAuthority : Nat

structure BindingHandle where
  selector : String
  authority : Nat
  deriving DecidableEq

namespace SessionState

def new : SessionState := ⟨false, ∅, [], ∅, ∅, ∅, ∅, fun _ => .new, 0⟩

def cancelled (s : SessionState) (a : Nat) : Bool := (s.authorities a).cancelled

def modifyAuthority (a : Nat) (f : Authority → Authority) (s : SessionState) : SessionState :=
  { s with authorities := Function.update s.authorities a (f (s.authorities a)) }

def cancel (a : Nat) (s : SessionState) : SessionState :=
  s.modifyAuthority a fun x => { x with cancelled := true }

def close (a : Nat) (s : SessionState) : SessionState :=
  s.modifyAuthority a fun x => { x with revoked := true }

def revokeAuthority (a : Nat) (s : SessionState) : SessionState := (s.cancel a).close a

def sessionsOf (p : SessionPrincipal) (s : SessionState) : List String :=
  (s.principalSessions.lookup p).getD []

def bindingsOf (p : SessionPrincipal) (s : SessionState) : List String :=
  (s.principalBindings.lookup p).getD []

def removeBinding (selector : String) (s : SessionState) : SessionState × Option ExtensionBinding :=
  match s.bindings.lookup selector with
  | none => (s, none)
  | some binding =>
    let s := { s with bindings := s.bindings.erase selector }
    match s.principalBindings.lookup binding.principal with
    | none => (s, some binding)
    | some selectors =>
      let selectors := selectors.filter (· ≠ selector)
      ({ s with principalBindings :=
          if selectors.isEmpty then s.principalBindings.erase binding.principal
          else s.principalBindings.insert binding.principal selectors }, some binding)

def dropBinding (selector : String) (s : SessionState) : SessionState :=
  match s.removeBinding selector with
  | (s, none) => s
  | (s, some binding) => s.revokeAuthority binding.authority

def removeSession (id : String) (s : SessionState) : SessionState × Option SessionRecord :=
  match s.sessions.lookup id with
  | none => (s, none)
  | some record =>
    let s := { s with
      sessions := s.sessions.erase id
      subjectCounts := decrementCount record.principal.subjectUserId s.subjectCounts }
    let ids := (s.sessionsOf record.principal).filter (· ≠ id)
    if ids.isEmpty then
      let s := { s with principalSessions := s.principalSessions.erase record.principal }
      ((s.bindingsOf record.principal).foldl (fun s selector => s.dropBinding selector) s,
        some record)
    else
      ({ s with principalSessions := s.principalSessions.insert record.principal ids }, some record)

def isDraining (record : SessionRecord) (s : SessionState) : Bool :=
  s.cancelled record.authority &&
    (!(s.authorities record.authority).isRevokedAndDrained ||
      ((s.bindingsOf record.principal).filterMap s.bindings.lookup).any fun binding =>
        s.cancelled binding.authority && !(s.authorities binding.authority).isRevokedAndDrained)

/-- The due expiries taken off the heap: the records removed, the expiries of those that have yet to
drain, and the heap that is left. -/
structure Taken where
  state : SessionState
  expired : List SessionRecord
  draining : List (Nat ×ₗ String)
  heap : List (Nat ×ₗ String)

def takeExpiredLoop (now : Nat) : List (Nat ×ₗ String) → SessionState → Taken
  | [], s => ⟨s, [], [], []⟩
  | e :: rest, s =>
    let (expiry, id) := ofLex e
    if now < expiry then ⟨s, [], [], e :: rest⟩
    else
      match (s.sessions.lookup id).filter (·.expiresAt = expiry) with
      | none => takeExpiredLoop now rest s
      | some record =>
        if s.isDraining record then
          let taken := takeExpiredLoop now rest s
          { taken with draining := e :: taken.draining }
        else
          let (s, removed) := s.removeSession id
          let taken := takeExpiredLoop now rest s
          { taken with expired := removed.toList ++ taken.expired }

def takeExpired (now : Nat) (s : SessionState) : SessionState × List SessionRecord :=
  let taken := takeExpiredLoop now s.expiries s
  -- The drains still pending are looked at again on the next turn.
  ({ taken.state with
    expiries := taken.draining.foldl (fun heap e => heap.orderedInsert (· ≤ ·) e) taken.heap },
    taken.expired)

def expireDue (now : Nat) (s : SessionState) : SessionState × List SessionEvent :=
  let (s, expired) := s.takeExpired now
  (expired.foldl (fun s record => s.revokeAuthority record.authority) s,
    expired.map fun record => .down record.adminSessionId)

def liveSessions (p : SessionPrincipal) (now : Nat) (s : SessionState) : List SessionRecord :=
  ((s.sessionsOf p).filterMap s.sessions.lookup).filter fun record =>
    !s.cancelled record.authority && now < record.expiresAt

def later (best : Option SessionRecord) (record : SessionRecord) : Option SessionRecord :=
  match best with
  | some b => if b.expiresAt ≤ record.expiresAt then some record else some b
  | none => some record

def liveSession (p : SessionPrincipal) (now : Nat) (s : SessionState) : Option SessionRecord :=
  (s.liveSessions p now).foldl later none

def insertSession (lifetime : Nat) (p : SessionPrincipal) (client : ClientType) (now : Nat)
    (id : String) (admin : Uuid) (s : SessionState) : SessionState × SessionRecord :=
  let record : SessionRecord := ⟨admin, p, client, now, now + lifetime, s.nextAuthority⟩
  ({ s with
    sessions := s.sessions.insert id record
    subjectCounts := s.subjectCounts.insert p.subjectUserId
      ((s.subjectCounts.lookup p.subjectUserId).getD 0 + 1)
    principalSessions := s.principalSessions.insert p (s.sessionsOf p ++ [id])
    expiries := s.expiries.orderedInsert (· ≤ ·) (toLex (record.expiresAt, id))
    authorities := Function.update s.authorities s.nextAuthority .new
    nextAuthority := s.nextAuthority + 1 }, record)

def issue (limits : SessionLimits) (p : SessionPrincipal) (client : ClientType) (now : Nat)
    (id : String) (admin : Uuid) (s : SessionState) :
    SessionState × List SessionEvent × Except IssueError SessionRecord :=
  if s.authoritySuspended then (s, [], .error .authoritySuspended)
  else
    -- Expiring first keeps a binding from outliving a gap: a principal whose last session lapsed
    -- loses its bindings before a new session is inserted.
    let (s, events) := s.expireDue now
    if limits.maxSessions ≤ s.sessions.entries.length then (s, events, .error .atCapacity)
    else if limits.maxSessionsPerSubject ≤ (s.subjectCounts.lookup p.subjectUserId).getD 0 then
      (s, events, .error .subjectAtCapacity)
    else if limits.maxSessionsPerPrincipal ≤ (s.sessionsOf p).length then
      (s, events, .error .principalAtCapacity)
    else
      let (s, record) := s.insertSession limits.lifetime p client now id admin
      (s, events ++ [.up (browserSessionRow record)], .ok record)

def lookup (id : String) (now : Nat) (s : SessionState) :
    SessionState × List SessionEvent × Option SessionRecord :=
  if !validSessionId id then (s, [], none)
  else
    match s.sessions.lookup id with
    | none => (s, [], none)
    | some record =>
      -- A revoked record stays until every transport it admitted has drained.
      if s.cancelled record.authority then (s, [], none)
      else if record.expiresAt ≤ now then
        let (s, _) := s.removeSession id
        (s.revokeAuthority record.authority, [.down record.adminSessionId], none)
      else (s, [], some record)

def leastRecentlyUsed (p : SessionPrincipal) (s : SessionState) : Option String :=
  (((s.bindingsOf p).filterMap fun selector =>
    (s.bindings.lookup selector).map fun binding => toLex (binding.lastUsed, selector)).min?).map
      fun used => (ofLex used).2

def insertBinding (p : SessionPrincipal) (client : ClientType) (target : ExtensionTarget)
    (now : Nat) (selector verifier : String) (s : SessionState) : SessionState :=
  { s with
    principalBindings := s.principalBindings.insert p (s.bindingsOf p ++ [selector])
    bindings := s.bindings.insert selector ⟨verifier, p, client, target, now, s.nextAuthority⟩
    authorities := Function.update s.authorities s.nextAuthority .new
    nextAuthority := s.nextAuthority + 1 }

def makeRoom (limits : SessionLimits) (p : SessionPrincipal) (now : Nat) (s : SessionState) :
    Except BindError SessionState :=
  if (s.liveSession p now).isNone then .error .noLiveSession
  else if limits.maxBindingsPerPrincipal = 0 then .error .atCapacity
  else if limits.maxBindingsPerPrincipal ≤ (s.bindingsOf p).length then
    match s.leastRecentlyUsed p with
    | some evicted => .ok (s.dropBinding evicted)
    | none => .ok s
  else if limits.maxBindings ≤ s.bindings.entries.length then .error .atCapacity
  else .ok s

def bindExtension (limits : SessionLimits) (p : SessionPrincipal) (client : ClientType)
    (target : ExtensionTarget) (now : Nat) (selector verifier : String) (s : SessionState) :
    SessionState × List SessionEvent × Except BindError String :=
  let (s, events) := s.expireDue now
  match s.makeRoom limits p now with
  | .error e => (s, events, .error e)
  | .ok s =>
    (s.insertBinding p client target now selector verifier, events, .ok (selector ++ verifier))

def resolveExtensionBinding (token : String) (now : Nat) (s : SessionState) :
    SessionState × Option ResolvedBinding :=
  match splitBindingToken token with
  | none => (s, none)
  | some (selector, verifier) =>
    match s.bindings.lookup selector with
    | none => (s, none)
    | some binding =>
      if binding.verifier ≠ verifier || s.cancelled binding.authority then (s, none)
      else
        match s.liveSession binding.principal now with
        | none => (s.dropBinding selector, none)
        | some session =>
          let client := if (s.liveSessions binding.principal now).any (·.client = binding.client)
            then binding.client else .unknown
          ({ s with bindings := s.bindings.insert selector { binding with lastUsed := now } },
            some ⟨binding.target, ⟨session.adminSessionId, binding.principal, client,
              session.createdAt, session.expiresAt, binding.authority⟩⟩)

def snapshot (s : SessionState) : List BrowserSessionRow :=
  (s.sessions.entries.filter fun e => !s.cancelled e.2.authority).map fun e => browserSessionRow e.2

def selectSessions (r : Revocation) (s : SessionState) : List (String × SessionRecord) :=
  (s.sessions.entries.filter fun e => r.matches e.2).map fun e => (e.1, e.2)

def bindingHandles (reached : SessionPrincipal → Bool) (s : SessionState) : List BindingHandle :=
  (s.bindings.entries.filter fun e => reached e.2.principal).map fun e => ⟨e.1, e.2.authority⟩

def removeHandle (handle : BindingHandle) (s : SessionState) : SessionState :=
  match s.bindings.lookup handle.selector with
  | some binding =>
    if binding.authority = handle.authority then (s.removeBinding handle.selector).1 else s
  | none => s

def removeSelected : List (String × SessionRecord) → SessionState → SessionState × List SessionEvent
  | [], s => (s, [])
  | (id, _) :: selected, s =>
    match s.removeSession id with
    | (s, none) => removeSelected selected s
    | (s, some record) =>
      let (s, events) := removeSelected selected s
      (s, .down record.adminSessionId :: events)

def finishRevocation (selected : List (String × SessionRecord)) (handles : List BindingHandle)
    (s : SessionState) : SessionState × List SessionEvent :=
  removeSelected selected (handles.foldl (fun s handle => s.removeHandle handle) s)

end SessionState

end Chan.Proxy
