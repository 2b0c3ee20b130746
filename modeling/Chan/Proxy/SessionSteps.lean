import Chan.Lib.Transition
import Chan.Proxy.SessionCalls

namespace Chan.Proxy
open AssocMap Transition

variable {w w' : World}

/-- One thing a call has yet to do outside the lock. -/
inductive Chore where
  | cancel (authority : Nat)
  | close (authority : Nat)
  | drained (authority : Nat)
  | down (adminSessionId : Uuid)
  deriving DecidableEq

/-- A call that has left the lock: a prune, or a revocation with what it selected. -/
inductive Call where
  | prune (chores : List Chore)
  | revocation (scope : Revocation) (selected : List (String × SessionRecord))
      (handles : List BindingHandle) (chores : List Chore)
  deriving DecidableEq

def Call.chores : Call → List Chore
  | prune chores => chores
  | revocation _ _ _ chores => chores

def Call.withChores (chores : List Chore) : Call → Call
  | prune _ => prune chores
  | revocation scope selected handles _ => revocation scope selected handles chores

def revokeChores (authority : Nat) : List Chore := [.cancel authority, .close authority]

def pruneChores (expired : List SessionRecord) : List Chore :=
  expired.flatMap fun record => revokeChores record.authority ++ [.down record.adminSessionId]

/-- What a revocation does before it takes the lock again: the bindings first, then the sessions,
then the drains. -/
def revocationChores (selected : List (String × SessionRecord)) (handles : List BindingHandle) :
    List Chore :=
  handles.flatMap (fun handle => revokeChores handle.authority) ++
    selected.flatMap (fun e => revokeChores e.2.authority) ++
    (selected.map fun e => .drained e.2.authority) ++
    handles.map fun handle => .drained handle.authority

def reaches (scope : Revocation) (selected : List (String × SessionRecord)) (p : SessionPrincipal) :
    Bool :=
  scope.matchesPrincipal p || selected.any fun e => e.2.principal = p

/-- The store, the calls in progress, and the events sent so far. -/
structure World where
  limits : SessionLimits
  state : SessionState
  calls : Map Nat Call
  sent : List SessionEvent
  clock : Nat
  /-- The admin ids drawn so far. -/
  admins : List Uuid

inductive Move where
  | issue (p : SessionPrincipal) (client : ClientType) (id : String) (admin : Uuid)
  | lookup (id : String)
  | bind (p : SessionPrincipal) (client : ClientType) (target : ExtensionTarget)
      (selector verifier : String)
  | resolve (token : String)
  | resume
  | begin (authority : Nat)
  | finish (authority op : Nat)
  | prune (call : Nat)
  | revoke (call : Nat) (scope : Revocation) (selected : List (String × SessionRecord))
      (handles : List BindingHandle)
  | clear (call : Nat) (selected : List (String × SessionRecord)) (handles : List BindingHandle)
  | chore (call : Nat)
  | timeout (call : Nat)
  | complete (call : Nat)

namespace World

def new (limits : SessionLimits) : World := ⟨limits, .new, ∅, [], 0, []⟩

def issue (p : SessionPrincipal) (client : ClientType) (id : String) (admin : Uuid) (now : Nat)
    (w : World) : World :=
  let (state, events, _) := w.state.issue w.limits p client now id admin
  { w with state := state, sent := w.sent ++ events, admins := admin :: w.admins }

def lookup (id : String) (now : Nat) (w : World) : World :=
  let (state, events, _) := w.state.lookup id now
  { w with state := state, sent := w.sent ++ events }

def bind (p : SessionPrincipal) (client : ClientType) (target : ExtensionTarget)
    (selector verifier : String) (now : Nat) (w : World) : World :=
  let (state, events, _) := w.state.bindExtension w.limits p client target now selector verifier
  { w with state := state, sent := w.sent ++ events }

def prune (call now : Nat) (w : World) : World :=
  let (state, expired) := w.state.takeExpired now
  { w with state := state, calls := w.calls.insert call (.prune (pruneChores expired)) }

def Selects (scope : Revocation) (selected : List (String × SessionRecord))
    (handles : List BindingHandle) (s : SessionState) : Prop :=
  selected.Perm (s.selectSessions scope) ∧
    handles.Perm (s.bindingHandles (reaches scope selected))

instance : Decidable (Selects scope selected handles s) := inferInstanceAs (Decidable (_ ∧ _))

def select (call : Nat) (scope : Revocation) (selected : List (String × SessionRecord))
    (handles : List BindingHandle) (w : World) : World :=
  let c := .revocation scope selected handles (revocationChores selected handles)
  { w with calls := w.calls.insert call c }

def chore (call : Nat) (w : World) : Option World :=
  match w.calls.lookup call with
  | none => none
  | some c =>
    match c.chores with
    | [] => none
    | chore :: rest =>
      let w := { w with calls := w.calls.insert call (c.withChores rest) }
      match chore with
      | .cancel a => some { w with state := w.state.cancel a }
      | .close a => some { w with state := w.state.close a }
      | .drained a => if (w.state.authorities a).active.isEmpty then some w else none
      | .down admin => some { w with sent := w.sent ++ [.down admin] }

def timeout (call : Nat) (w : World) : Option World :=
  match w.calls.lookup call with
  | some c =>
    match c.chores with
    | .drained _ :: _ => some { w with calls := w.calls.erase call }
    | _ => none
  | none => none

def complete (call : Nat) (w : World) : Option World :=
  match w.calls.lookup call with
  | some (.prune []) => some { w with calls := w.calls.erase call }
  | some (.revocation _ selected handles []) =>
    let (state, events) := w.state.finishRevocation selected handles
    some { w with state := state, calls := w.calls.erase call, sent := w.sent ++ events }
  | _ => none

/-- What a move does at a moment. Draws are fresh, as the loops that draw see to. -/
def act (now : Nat) (w : World) : Move → Option World
  | .issue p client id admin =>
    if validSessionId id && ((w.state.expireDue now).1.sessions.lookup id).isNone &&
        !w.admins.contains admin then some (w.issue p client id admin now)
    else none
  | .lookup id => some (w.lookup id now)
  | .bind p client target selector verifier =>
    let taken := match (w.state.expireDue now).1.makeRoom w.limits p now with
      | .ok s => (s.bindings.lookup selector).isSome
      | .error _ => false
    if splitBindingToken (selector ++ verifier) = some (selector, verifier) ∧ taken = false then
      some (w.bind p client target selector verifier now)
    else none
  | .resolve token => some { w with state := (w.state.resolveExtensionBinding token now).1 }
  | .resume => some { w with state := { w.state with authoritySuspended := false } }
  | .begin a =>
    if a < w.state.nextAuthority then
      some { w with state := w.state.modifyAuthority a fun x => x.begin.1 }
    else none
  | .finish a op => some { w with state := w.state.modifyAuthority a (·.finish op) }
  | .prune call => if (w.calls.lookup call).isNone then some (w.prune call now) else none
  | .revoke call scope selected handles =>
    if (w.calls.lookup call).isNone ∧ Selects scope selected handles w.state then
      some (w.select call scope selected handles)
    else none
  | .clear call selected handles =>
    if (w.calls.lookup call).isNone ∧ Selects .all selected handles w.state then
      some ({ w with state := { w.state with authoritySuspended := true } }.select call .all
        selected handles)
    else none
  | .chore call => w.chore call
  | .timeout call => w.timeout call
  | .complete call => w.complete call

def step (w : World) (m : Nat × Move) : Option World :=
  if w.clock ≤ m.1 then (w.act m.1 m.2).map fun w => { w with clock := m.1 } else none

lemma step_eq_some (h : w.step m = some w') :
    w.clock ≤ m.1 ∧ ∃ u, w.act m.1 m.2 = some u ∧ w' = { u with clock := m.1 } := by
  rw [step] at h
  split at h
  · rename_i hclock
    obtain ⟨u, hu, rfl⟩ := Option.map_eq_some_iff.1 h
    exact ⟨hclock, u, hu, rfl⟩
  · cases h

inductive Does (now : Nat) (w : World) : Move → World → Prop where
  | refused : Does now w (.issue p client i admin) { w with admins := admin :: w.admins }
  | notIssued : Does now w (.issue p client i admin) { w with
      state := (w.state.expireDue now).1
      sent := w.sent ++ (w.state.expireDue now).2
      admins := admin :: w.admins }
  | issued (i : String) (hfresh : (w.state.expireDue now).1.sessions.lookup i = none)
      (hadmin : admin ∉ w.admins)
      (hr : r = ⟨admin, p, client, now, now + w.limits.lifetime,
        (w.state.expireDue now).1.nextAuthority⟩) :
      Does now w (.issue p client i admin) { w with
        state := ((w.state.expireDue now).1.insertSession w.limits.lifetime p client now i admin).1
        sent := w.sent ++ ((w.state.expireDue now).2 ++ [.up (browserSessionRow r)])
        admins := admin :: w.admins }
  | lookedUp : Does now w (.lookup i) w
  | lapsed (hr : w.state.sessions.lookup i = some r)
      (hcancelled : w.state.cancelled r.authority = false) (hexpired : r.expiresAt ≤ now) :
      Does now w (.lookup i) { w with
        state := (w.state.removeSession i).1.revokeAuthority r.authority
        sent := w.sent ++ [.down r.adminSessionId] }
  | notBound (he : (w.state.bindExtension w.limits p client target now k verifier).2.2 = .error e) :
      Does now w (.bind p client target k verifier) { w with
        state := (w.state.expireDue now).1
        sent := w.sent ++ (w.state.expireDue now).2 }
  | bound (htoken : splitBindingToken (k ++ verifier) = some (k, verifier))
      (ht : (w.state.expireDue now).1.makeRoom w.limits p now = .ok t)
      (hfresh : t.bindings.lookup k = none) :
      Does now w (.bind p client target k verifier) { w with
        state := t.insertBinding p client target now k verifier
        sent := w.sent ++ (w.state.expireDue now).2 }
  | unresolved : Does now w (.resolve token) w
  | unheld (hsplit : splitBindingToken token = some (k, verifier))
      (hb : w.state.bindings.lookup k = some b) (hcancelled : w.state.cancelled b.authority = false)
      (hlive : w.state.liveSession b.principal now = none) :
      Does now w (.resolve token) { w with state := w.state.dropBinding k }
  | resolved (hsplit : splitBindingToken token = some (k, verifier))
      (hb : w.state.bindings.lookup k = some b) (hverifier : b.verifier = verifier)
      (hcancelled : w.state.cancelled b.authority = false)
      (hlive : w.state.liveSession b.principal now ≠ none) :
      Does now w (.resolve token) { w with state :=
        { w.state with bindings := w.state.bindings.insert k { b with lastUsed := now } } }
  | resumed : Does now w .resume { w with state := { w.state with authoritySuspended := false } }
  | begun (ha : a < w.state.nextAuthority) :
      Does now w (.begin a) { w with state := w.state.modifyAuthority a fun x => x.begin.1 }
  | finished : Does now w (.finish a op)
      { w with state := w.state.modifyAuthority a (·.finish op) }
  | pruned (hcall : w.calls.lookup call = none) : Does now w (.prune call) { w with
      state := (w.state.takeExpired now).1
      calls := w.calls.insert call (.prune (pruneChores (w.state.takeExpired now).2)) }
  | selected (hcall : w.calls.lookup call = none)
      (hselects : Selects scope chosen handles w.state) :
      Does now w (.revoke call scope chosen handles) (w.select call scope chosen handles)
  | cleared (hcall : w.calls.lookup call = none) (hselects : Selects .all chosen handles w.state) :
      Does now w (.clear call chosen handles)
        ({ w with state := { w.state with authoritySuspended := true } }.select call .all chosen
          handles)
  | cancelled (hcall : w.calls.lookup call = some c) (hchores : c.chores = .cancel a :: rest) :
      Does now w (.chore call) { w with
        state := w.state.cancel a
        calls := w.calls.insert call (c.withChores rest) }
  | closed (hcall : w.calls.lookup call = some c) (hchores : c.chores = .close a :: rest) :
      Does now w (.chore call) { w with
        state := w.state.close a
        calls := w.calls.insert call (c.withChores rest) }
  | drained (hcall : w.calls.lookup call = some c) (hchores : c.chores = .drained a :: rest)
      (hactive : (w.state.authorities a).active = []) :
      Does now w (.chore call) { w with calls := w.calls.insert call (c.withChores rest) }
  | announced (hcall : w.calls.lookup call = some c) (hchores : c.chores = .down admin :: rest) :
      Does now w (.chore call) { w with
        calls := w.calls.insert call (c.withChores rest)
        sent := w.sent ++ [.down admin] }
  | timedOut (hcall : w.calls.lookup call = some c) (hchores : c.chores = .drained a :: rest) :
      Does now w (.timeout call) { w with calls := w.calls.erase call }
  | prunedAll (hcall : w.calls.lookup call = some (.prune [])) :
      Does now w (.complete call) { w with calls := w.calls.erase call }
  | completed (hcall : w.calls.lookup call = some (.revocation scope chosen handles [])) :
      Does now w (.complete call) { w with
        state := (w.state.finishRevocation chosen handles).1
        calls := w.calls.erase call
        sent := w.sent ++ (w.state.finishRevocation chosen handles).2 }

lemma does_chore (h : w.chore call = some w') : Does now w (.chore call) w' := by
  rw [chore] at h
  split at h
  · cases h
  · rename_i c hcall
    split at h
    · cases h
    · rename_i rest hchores
      split at h
      · cases h
        exact .cancelled hcall hchores
      · cases h
        exact .closed hcall hchores
      · obtain ⟨hactive, ⟨⟩⟩ := Option.ite_none_right_eq_some.1 h
        exact .drained hcall hchores (List.isEmpty_iff.1 hactive)
      · cases h
        exact .announced hcall hchores

lemma act_does (h : w.act now m = some w') : Does now w m w' := by
  cases m with
  | issue p client i admin =>
    obtain ⟨hfresh, ⟨⟩⟩ := Option.ite_none_right_eq_some.1 h
    simp only [Bool.and_eq_true, Option.isNone_iff_eq_none, Bool.not_eq_true', List.contains_eq_mem,
      decide_eq_false_iff_not] at hfresh
    rcases w.state.issue_cases with heq | ⟨e, heq⟩ | ⟨r, hr, heq⟩ <;>
      rw [issue, heq]
    · dsimp only
      rw [List.append_nil]
      exact .refused
    · exact .notIssued
    · exact .issued i hfresh.1.2 hfresh.2 hr
  | lookup i =>
    cases h
    rcases w.state.lookup_cases with ⟨answer, heq, -⟩ | ⟨r, hr, hc, he, heq⟩ <;>
      rw [lookup, heq]
    · dsimp only
      rw [List.append_nil]
      exact .lookedUp
    · exact .lapsed hr hc he
  | bind p client target k verifier =>
    obtain ⟨⟨htoken, hfresh⟩, ⟨⟩⟩ := Option.ite_none_right_eq_some.1 h
    rcases w.state.bindExtension_cases with
      ⟨e, -, heq⟩ | ⟨t, ht, heq⟩ <;> rw [bind, heq]
    · exact .notBound (e := e) (by rw [heq])
    · rw [ht] at hfresh
      exact .bound htoken ht (Option.isNone_iff_eq_none.1 (by simpa using hfresh))
  | resolve token =>
    cases h
    rcases w.state.resolve_cases with heq | ⟨k, v, b, hsplit, hb, hc, hlive, heq⟩ |
      ⟨k, v, b, answer, hsplit, hb, hv, hc, hlive, heq⟩ <;> rw [heq]
    · exact .unresolved
    · exact .unheld hsplit hb hc hlive
    · exact .resolved hsplit hb hv hc hlive
  | resume =>
    cases h
    exact .resumed
  | begin a =>
    obtain ⟨ha, ⟨⟩⟩ := Option.ite_none_right_eq_some.1 h
    exact .begun ha
  | finish a op =>
    cases h
    exact .finished
  | prune call =>
    obtain ⟨hcall, ⟨⟩⟩ := Option.ite_none_right_eq_some.1 h
    exact .pruned (Option.isNone_iff_eq_none.1 hcall)
  | revoke call scope chosen handles =>
    obtain ⟨⟨hcall, hselects⟩, ⟨⟩⟩ := Option.ite_none_right_eq_some.1 h
    exact .selected (Option.isNone_iff_eq_none.1 hcall) hselects
  | clear call chosen handles =>
    obtain ⟨⟨hcall, hselects⟩, ⟨⟩⟩ := Option.ite_none_right_eq_some.1 h
    exact .cleared (Option.isNone_iff_eq_none.1 hcall) hselects
  | chore call => exact does_chore h
  | timeout call =>
    simp only [act, timeout] at h
    split at h
    · rename_i c hcall
      split at h
      · rename_i hchores
        cases h
        exact .timedOut hcall hchores
      · cases h
    · cases h
  | complete call =>
    simp only [act, complete] at h
    split at h
    · rename_i hcall
      cases h
      exact .prunedAll hcall
    · rename_i hcall
      cases h
      exact .completed hcall
    · cases h

lemma makeRoom_wellFormed {s t : SessionState} (hw : s.WellFormed)
    (h : s.makeRoom l p now = .ok t) : t.WellFormed ∧ t.HasSession p := by
  obtain ⟨hlive, heq⟩ := SessionState.makeRoom_cases h
  have hhas : s.HasSession p := by
    by_contra hnot
    exact hlive ((SessionState.liveSession_eq_none hw.sessionsOf).2 fun hl => hnot hl.hasSession)
  rcases heq with rfl | ⟨k, -, -, rfl⟩
  · exact ⟨hw, hhas⟩
  · have hdrops := SessionState.DropsBindings.of_dropBinding k s
    refine ⟨hdrops.wellFormed hw, ?_⟩
    rw [SessionState.HasSession, hdrops.sessions]
    exact hhas

lemma Does.wellFormed (h : Does now w m w') (hw : w.state.WellFormed) :
    w'.state.WellFormed := by
  have hexpire := (SessionState.expireDue_expires hw now).wellFormed
  cases h with
  | notIssued | notBound => exact hexpire
  | issued i hfresh => exact SessionState.insertSession_wellFormed hexpire hfresh
  | lapsed => exact (SessionState.removeSession_removes hw _).wellFormed.of_maps rfl
  | bound _ ht hfresh =>
    obtain ⟨hwt, hp⟩ := makeRoom_wellFormed hexpire ht
    exact SessionState.insertBinding_wellFormed hwt hfresh hp
  | unheld => exact (SessionState.DropsBindings.of_dropBinding _ w.state).wellFormed hw
  | resolved _ hb => exact SessionState.touch_wellFormed hw hb
  | resumed | cleared | begun | finished | cancelled | closed => exact hw.of_maps rfl
  | pruned => exact (SessionState.takeExpired_expires hw now).wellFormed
  | completed =>
    obtain ⟨t, -, hremoves⟩ := SessionState.finishRevocation_removes hw
    exact hremoves.wellFormed
  | _ =>
    exact hw

lemma wellFormed_new (limits : SessionLimits) : (new limits).state.WellFormed :=
  SessionState.wellFormed_new

lemma step_wellFormed (hw : w.state.WellFormed) (h : w.step m = some w') :
    w'.state.WellFormed := by
  obtain ⟨-, u, hu, rfl⟩ := step_eq_some h
  exact (act_does hu).wellFormed hw

end World

end Chan.Proxy
