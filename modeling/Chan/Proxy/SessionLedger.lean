import Chan.Proxy.SessionMoves

namespace Chan.Proxy
open AssocMap

structure Link where
  verifier : String
  principal : SessionPrincipal
  client : ClientType
  target : ExtensionTarget
  authority : Nat

def ExtensionBinding.link (b : ExtensionBinding) : Link :=
  ⟨b.verifier, b.principal, b.client, b.target, b.authority⟩

/-- Every session that was issued and not revoked, expired or not, and every link. -/
structure Ledger where
  sessions : String → Option SessionRecord
  links : String → Option Link

inductive Answer where
  | issued (answer : Except IssueError SessionRecord)
  | found (answer : Option SessionRecord)
  | bound (answer : Except BindError String)
  | resolved (answer : Option ResolvedBinding)

def World.observe (w : World) (now : Nat) : Move → Option Answer
  | .issue p client i admin => some (.issued (w.state.issue w.limits p client now i admin).2.2)
  | .lookup i => some (.found (w.state.lookup i now).2.2)
  | .bind p client target k verifier =>
    some (.bound (w.state.bindExtension w.limits p client target now k verifier).2.2)
  | .resolve token => some (.resolved (w.state.resolveExtensionBinding token now).2)
  | _ => none

namespace Ledger

def empty : Ledger := ⟨fun _ => none, fun _ => none⟩

def Serves (L : Ledger) (p : SessionPrincipal) (now : Nat) (r : SessionRecord) : Prop :=
  ∃ i, L.sessions i = some r ∧ r.principal = p ∧ now < r.expiresAt

def LiveAt (L : Ledger) (p : SessionPrincipal) (now : Nat) : Prop := ∃ r, L.Serves p now r

/-- A token is answered by its link, under the session of the principal that expires last. -/
inductive Resolves (L : Ledger) (token : String) (now : Nat) : Option ResolvedBinding → Prop where
  | unheld (h : ∀ k verifier x, splitBindingToken token = some (k, verifier) →
      L.links k = some x → x.verifier = verifier → ¬L.LiveAt x.principal now) :
      Resolves L token now none
  | held (hsplit : splitBindingToken token = some (k, verifier)) (hx : L.links k = some x)
      (hverifier : x.verifier = verifier) (hr : L.Serves x.principal now r)
      (hlatest : ∀ c, L.Serves x.principal now c → c.expiresAt ≤ r.expiresAt)
      (hclient : (client = x.client ∧ ∃ c, L.Serves x.principal now c ∧ c.client = x.client) ∨
        (client = .unknown ∧ ∀ c, L.Serves x.principal now c → c.client ≠ x.client)) :
      Resolves L token now (some ⟨x.target,
        ⟨r.adminSessionId, x.principal, client, r.createdAt, r.expiresAt, x.authority⟩⟩)

/-- What a call may answer, and what it makes of the ledger. A refused call changes nothing. A
session issued to a principal without a live one ends the links the principal had. A bind needs a
live session and may evict a link of the same principal. -/
inductive Allows (now : Nat) (L : Ledger) : Move → Answer → Ledger → Prop where
  | issued (hp : r.principal = p) (hadmin : r.adminSessionId = admin)
      (hsessions : ∀ j c, M.sessions j = some c ↔
        (j = i ∧ c = r) ∨ (j ≠ i ∧ L.sessions j = some c))
      (hlinks : ∀ k x, M.links k = some x ↔
        L.links k = some x ∧ (x.principal = p → L.LiveAt p now)) :
      Allows now L (.issue p client i admin) (.issued (.ok r)) M
  | refused : Allows now L (.issue p client i admin) (.issued (.error e)) L
  | found (h : ∀ r, answer = some r ↔
      validSessionId i = true ∧ L.sessions i = some r ∧ now < r.expiresAt) :
      Allows now L (.lookup i) (.found answer) L
  | bound (hlive : L.LiveAt p now) (evicted : Option String) (hsessions : M.sessions = L.sessions)
      (hlinks : ∀ j x, M.links j = some x ↔ (j = k ∧ x = ⟨verifier, p, client, target, a⟩) ∨
        (j ≠ k ∧ L.links j = some x ∧ ¬(x.principal = p ∧ evicted = some j))) :
      Allows now L (.bind p client target k verifier) (.bound (.ok (k ++ verifier))) M
  | unheld (h : ¬L.LiveAt p now) :
      Allows now L (.bind p client target k verifier) (.bound (.error .noLiveSession)) L
  | full : Allows now L (.bind p client target k verifier) (.bound (.error .atCapacity)) L
  | resolved (h : L.Resolves token now answer) : Allows now L (.resolve token) (.resolved answer) L

/-- A revocation at one point. Every matching session goes, and every link of a principal it
reaches: one that it names, or one of a session that matches. A matching session that has expired
may count or not. -/
def Revokes (now : Nat) (scope : Revocation) (L M : Ledger) : Prop :=
  ∃ reached : SessionPrincipal → Prop,
    (∀ p, scope.matchesPrincipal p = true → reached p) ∧
    (∀ p r, L.Serves p now r → scope.matches r = true → reached p) ∧
    (∀ p, reached p → scope.matchesPrincipal p = true ∨
      ∃ i r, L.sessions i = some r ∧ scope.matches r = true ∧ r.principal = p) ∧
    (∀ i r, M.sessions i = some r ↔ L.sessions i = some r ∧ scope.matches r = false) ∧
    ∀ k x, M.links k = some x ↔ L.links k = some x ∧ ¬reached x.principal

/-- The ledger gives every answer of the run, and keeps still otherwise. -/
def Explains : World → List (Nat × Move) → Ledger → Ledger → Prop
  | _, [], L, N => N = L
  | w, m :: ms, L, N => ∃ w' M, w.step m = some w' ∧
    (∀ answer, w.observe m.1 m.2 = some answer → L.Allows m.1 m.2 answer M) ∧
    (w.observe m.1 m.2 = none → M = L) ∧ Explains w' ms M N

end Ledger

end Chan.Proxy
