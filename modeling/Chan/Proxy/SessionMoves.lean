import Chan.Proxy.SessionSteps

namespace Chan.Proxy
open AssocMap Transition

variable {s : SessionState} {w w' : World}

lemma Authority.isRevokedAndDrained_iff {x : Authority} :
    x.isRevokedAndDrained = true ↔ x.revoked = true ∧ x.active = [] := by
  rw [isRevokedAndDrained, Bool.and_eq_true, List.isEmpty_iff]

/-- Nothing of a revocation is taken back. -/
structure Authority.Tightens (x y : Authority) : Prop where
  cancelled : x.cancelled = true → y.cancelled = true
  revoked : x.revoked = true → y.revoked = true
  drained : x.isRevokedAndDrained = true → y.isRevokedAndDrained = true

lemma Authority.Tightens.refl (x : Authority) : x.Tightens x := ⟨id, id, id⟩

lemma Authority.tightens_begin (x : Authority) : x.Tightens x.begin.1 := by
  rw [begin]
  split
  · exact .refl x
  · rename_i hopen
    exact ⟨id, id, fun h => absurd (isRevokedAndDrained_iff.1 h).1 hopen⟩

lemma Authority.tightens_finish (op : Nat) (x : Authority) : x.Tightens (x.finish op) := by
  refine ⟨id, id, fun h => isRevokedAndDrained_iff.2 ?_⟩
  obtain ⟨hrevoked, hactive⟩ := isRevokedAndDrained_iff.1 h
  refine ⟨hrevoked, ?_⟩
  rw [finish, hactive]
  rfl

namespace SessionState

lemma authorities_modifyAuthority : (s.modifyAuthority a f).authorities c =
      if c = a then f (s.authorities a) else s.authorities c :=
  Function.update_apply ..

lemma Shrinks.tightens (h : Shrinks s t) (a : Nat) :
    (s.authorities a).Tightens (t.authorities a) := by
  refine ⟨h.cancelled a, h.revoked a, fun hd => Authority.isRevokedAndDrained_iff.2 ?_⟩
  obtain ⟨hrevoked, hactive⟩ := Authority.isRevokedAndDrained_iff.1 hd
  exact ⟨h.revoked a hrevoked, (h.active a).trans hactive⟩

inductive Stores (s : SessionState) : SessionState → Prop where
  | shrinks (h : Shrinks s t) : Stores s t
  | session (h : Shrinks s t) : Stores s (t.insertSession lifetime p client now i admin).1
  | binding (h : Shrinks s t) : Stores s (t.insertBinding p client target now k verifier)
  | authority (a : Nat) (f : Authority → Authority) (hf : ∀ x, Authority.Tightens x (f x)) :
      Stores s (s.modifyAuthority a f)
  | touched (hb : s.bindings.lookup k = some b) :
      Stores s { s with bindings := s.bindings.insert k { b with lastUsed := now } }
  | suspended (x : Bool) : Stores s { s with authoritySuspended := x }

lemma Stores.nextAuthority (h : Stores s t) : s.nextAuthority ≤ t.nextAuthority := by
  cases h with
  | shrinks h => exact h.nextAuthority.ge
  | session h | binding h => exact h.nextAuthority.ge.trans (Nat.le_succ _)
  | authority | touched | suspended => exact le_refl _

lemma Stores.tightens (h : Stores s t) (ha : a < s.nextAuthority) :
    (s.authorities a).Tightens (t.authorities a) := by
  cases h with
  | shrinks h => exact h.tightens a
  | @session u _ _ _ _ _ _ h | @binding u _ _ _ _ _ _ h =>
    have heq : Function.update u.authorities u.nextAuthority .new a = u.authorities a :=
      Function.update_of_ne (by rw [h.nextAuthority]; exact Nat.ne_of_lt ha) _ _
    have htight := h.tightens a
    rw [← heq] at htight
    exact htight
  | authority c f hf =>
    rw [authorities_modifyAuthority]
    split
    · rename_i heq
      rw [heq]
      exact hf _
    · exact .refl _
  | touched | suspended => exact .refl _

lemma Stores.sessions (h : Stores s t) (hr : t.sessions.lookup i = some r)
    (ha : r.authority < s.nextAuthority) : s.sessions.lookup i = some r := by
  cases h with
  | shrinks h | binding h => exact h.sessions _ _ hr
  | session h =>
    rcases (insertSession_lookup ..).1 hr with ⟨-, rfl⟩ | ⟨-, hr⟩
    · exact absurd ha (Nat.not_lt.2 h.nextAuthority.ge)
    · exact h.sessions _ _ hr
  | authority | touched | suspended => exact hr

lemma Stores.bindings (h : Stores s t) (hb : t.bindings.lookup k = some b)
    (ha : b.authority < s.nextAuthority) :
    ∃ c, s.bindings.lookup k = some c ∧ c.principal = b.principal ∧ c.verifier = b.verifier ∧
      c.authority = b.authority := by
  cases h with
  | shrinks h | session h => exact ⟨b, h.bindings _ _ hb, rfl, rfl, rfl⟩
  | binding h =>
    rcases (insertBinding_lookup ..).1 hb with ⟨-, rfl⟩ | ⟨-, hb⟩
    · exact absurd ha (Nat.not_lt.2 h.nextAuthority.ge)
    · exact ⟨b, h.bindings _ _ hb, rfl, rfl, rfl⟩
  | touched hc =>
    rcases lookup_insert_eq_some hb with ⟨rfl, rfl⟩ | ⟨-, hb⟩
    · exact ⟨_, hc, rfl, rfl, rfl⟩
    · exact ⟨b, hb, rfl, rfl, rfl⟩
  | authority | suspended => exact ⟨b, hb, rfl, rfl, rfl⟩

lemma Stores.holds (h : Stores s t) (hx : t.Holds x a) (ha : a < s.nextAuthority) :
    s.Holds x a := by
  cases x with
  | session i =>
    obtain ⟨r, hr, rfl⟩ := hx
    exact ⟨r, h.sessions hr ha, rfl⟩
  | binding k =>
    obtain ⟨b, hb, rfl⟩ := hx
    obtain ⟨c, hc, -, -, heq⟩ := h.bindings hb ha
    exact ⟨c, hc, heq⟩

lemma makeRoom_shrinks (h : s.makeRoom limits p now = .ok t) :
    Shrinks s t := by
  rcases (makeRoom_cases h).2 with rfl | ⟨k, -, -, rfl⟩
  · exact .refl _
  · exact (DropsBindings.of_dropBinding k s).shrinks

end SessionState

namespace World
open SessionState

lemma bounded_session (hw : s.WellFormed) (hr : s.sessions.lookup i = some r) :
    r.authority < s.nextAuthority := hw.bounded (.session i) _ ⟨r, hr, rfl⟩

lemma cancelled_insertSession (h : a < s.nextAuthority) :
    (s.insertSession lifetime p client now i admin).1.cancelled a = s.cancelled a :=
  congrArg Authority.cancelled (Function.update_of_ne (Nat.ne_of_lt h) _ _)

lemma cancelled_insertBinding (h : a < s.nextAuthority) :
    (s.insertBinding p client target now k verifier).cancelled a = s.cancelled a :=
  congrArg Authority.cancelled (Function.update_of_ne (Nat.ne_of_lt h) _ _)

lemma cancelled_begin (x : Authority) : x.begin.1.cancelled = x.cancelled := by
  rw [Authority.begin]
  split <;> rfl

lemma cancelled_modifyAuthority
    (hf : ∀ x, (f x).cancelled = x.cancelled) (b : Nat) :
    (s.modifyAuthority a f).cancelled b = s.cancelled b := by
  rw [SessionState.cancelled, authorities_modifyAuthority]
  split
  · rename_i heq
    rw [hf, heq]
    rfl
  · rfl

lemma lapse_shrinks (hw : s.WellFormed) (hr : s.sessions.lookup i = some r) :
    Shrinks s ((s.removeSession i).1.revokeAuthority r.authority) := by
  have hremoves := removeSession_removes hw i
  refine hremoves.shrinks.revokeAuthority (x := .session i) ⟨r, hr, rfl⟩ ?_
  rintro ⟨c, hc, -⟩
  exact ((hremoves.sessions _ c).1 hc).2 rfl

lemma Does.stores (h : Does now w m w') (hw : w.state.WellFormed) :
    Stores w.state w'.state := by
  have hexpire := (expireDue_expires hw now).shrinks
  cases h with
  | notIssued | notBound => exact .shrinks hexpire
  | issued => exact .session hexpire
  | lapsed hr => exact .shrinks (lapse_shrinks hw hr)
  | bound _ ht _ => exact .binding (hexpire.trans (makeRoom_shrinks ht))
  | unheld => exact .shrinks (DropsBindings.of_dropBinding _ w.state).shrinks
  | resolved _ hb => exact .touched hb
  | resumed | cleared => exact .suspended _
  | begun => exact .authority _ _ Authority.tightens_begin
  | finished => exact .authority _ _ (Authority.tightens_finish _)
  | cancelled =>
    exact .authority _ (fun x => { x with cancelled := true }) fun _ => ⟨fun _ => rfl, id, id⟩
  | closed =>
    refine .authority _ (fun x => { x with revoked := true }) fun _ =>
      ⟨id, fun _ => rfl, fun hd => ?_⟩
    exact Authority.isRevokedAndDrained_iff.2 ⟨rfl, (Authority.isRevokedAndDrained_iff.1 hd).2⟩
  | pruned => exact .shrinks (takeExpired_expires hw now).shrinks
  | completed =>
    obtain ⟨t, hdrops, hremoves⟩ := finishRevocation_removes hw
    exact .shrinks (hdrops.shrinks.trans hremoves.shrinks)
  | _ =>
    exact .shrinks (.refl _)

lemma Does.sessions (h : Does now w m w') (hw : w.state.WellFormed)
    (hr : w'.state.sessions.lookup i = some r) :
    w.state.sessions.lookup i = some r ∨
      ∃ client, m = .issue r.principal client i r.adminSessionId ∧
        r.adminSessionId ∉ w.admins ∧ w'.state.authorities r.authority = .new := by
  have hexpire := (expireDue_expires hw now).shrinks
  cases h with
  | notIssued | notBound => exact .inl (hexpire.sessions _ _ hr)
  | issued _ _ hadmin =>
    rcases (insertSession_lookup ..).1 hr with ⟨rfl, rfl⟩ | ⟨-, hr⟩
    · exact .inr ⟨_, rfl, hadmin, Function.update_self ..⟩
    · exact .inl (hexpire.sessions _ _ hr)
  | lapsed hc => exact .inl ((lapse_shrinks hw hc).sessions _ _ hr)
  | bound _ ht _ => exact .inl ((hexpire.trans (makeRoom_shrinks ht)).sessions _ _ hr)
  | unheld => exact .inl ((DropsBindings.of_dropBinding _ w.state).shrinks.sessions _ _ hr)
  | pruned => exact .inl ((takeExpired_expires hw now).shrinks.sessions _ _ hr)
  | completed =>
    obtain ⟨t, hdrops, hremoves⟩ := finishRevocation_removes hw
    exact .inl ((hdrops.shrinks.trans hremoves.shrinks).sessions _ _ hr)
  | _ => exact .inl hr

lemma Does.bindings (h : Does now w m w') (hw : w.state.WellFormed)
    (hb : w'.state.bindings.lookup k = some b) :
    (∃ c, w.state.bindings.lookup k = some c ∧ c.principal = b.principal ∧
      c.verifier = b.verifier ∧ c.authority = b.authority) ∨
    ∃ client target, m = .bind b.principal client target k b.verifier ∧
      b.authority = w.state.nextAuthority ∧
      (w.state.bindExtension w.limits b.principal client target now k b.verifier).2.2 =
        .ok (k ++ b.verifier) ∧ w'.state.authorities b.authority = .new := by
  have hexpire := expireDue_expires hw now
  have hsame {t} (h : Shrinks w.state t) (hb : t.bindings.lookup k = some b) :
      ∃ c, w.state.bindings.lookup k = some c ∧ c.principal = b.principal ∧
        c.verifier = b.verifier ∧ c.authority = b.authority :=
    ⟨b, h.bindings _ _ hb, rfl, rfl, rfl⟩
  cases h with
  | notIssued | notBound | issued => exact .inl (hsame hexpire.shrinks hb)
  | lapsed => exact .inl (hsame (removeSession_removes hw _).shrinks hb)
  | @bound j verifier p t client target htoken ht hfresh =>
    have hshrinks := hexpire.shrinks.trans (makeRoom_shrinks ht)
    rcases (insertBinding_lookup ..).1 hb with ⟨rfl, rfl⟩ | ⟨-, hb⟩
    · refine .inr ⟨client, target, rfl, hshrinks.nextAuthority, ?_, Function.update_self ..⟩
      rw [bindExtension]
      simp only [ht]
    · exact .inl (hsame hshrinks hb)
  | unheld =>
    exact .inl (hsame (DropsBindings.of_dropBinding _ w.state).shrinks hb)
  | resolved _ hc =>
    rcases lookup_insert_eq_some hb with ⟨rfl, rfl⟩ | ⟨-, hb⟩
    · exact .inl ⟨_, hc, rfl, rfl, rfl⟩
    · exact .inl ⟨b, hb, rfl, rfl, rfl⟩
  | pruned => exact .inl (hsame (takeExpired_expires hw now).shrinks hb)
  | completed =>
    obtain ⟨t, hdrops, hremoves⟩ := finishRevocation_removes hw
    exact .inl (hsame (hdrops.shrinks.trans hremoves.shrinks) hb)
  | _ => exact .inl ⟨b, hb, rfl, rfl, rfl⟩

/-- The moves that take an expired session with the id out of the store. -/
def sweeps (i : String) : Move → Bool
  | .issue .. | .bind .. | .prune _ => true
  | .lookup j => j = i
  | _ => false

def Revoking (w : World) (scope : Revocation) (chosen : List (String × SessionRecord))
    (handles : List BindingHandle) (chores : List Chore) : Prop :=
  ∃ call, w.calls.lookup call = some (.revocation scope chosen handles chores)

lemma not_revoking (hcalls : w.calls = ∅) : ¬w.Revoking scope chosen handles chores := by
  rintro ⟨call, h⟩
  rw [hcalls] at h
  cases h

lemma makeRoom_sessions (h : s.makeRoom l p now = .ok t) :
    t.sessions = s.sessions := by
  rcases (makeRoom_cases h).2 with rfl | ⟨k, -, -, rfl⟩
  · rfl
  · exact (DropsBindings.of_dropBinding k s).sessions

lemma expired_of_gone (h : Expires now s t x) (hr : s.sessions.lookup i = some r)
    (hgone : t.sessions.lookup i ≠ some r) : r.expiresAt ≤ now ∧ s.isDraining r = false := by
  by_contra hkept
  refine hgone ((h.sessions i r).2 ⟨hr, ?_⟩)
  rw [not_and_or, Nat.not_le, Bool.not_eq_false] at hkept
  exact hkept

lemma Does.session_gone (h : Does now w m w') (hw : w.state.WellFormed)
    (hr : w.state.sessions.lookup i = some r) (hgone : w'.state.sessions.lookup i ≠ some r) :
    (sweeps i m = true ∧ r.expiresAt ≤ now ∧ w.state.isDraining r = false) ∨
    ∃ scope chosen handles, w.Revoking scope chosen handles [] ∧ ∃ e ∈ chosen, e.1 = i := by
  have hexpire := expireDue_expires hw now
  cases h with
  | refused | lookedUp | unresolved | selected | drained | announced | timedOut | prunedAll
    | resolved | resumed | cleared | begun | finished | cancelled | closed => exact absurd hr hgone
  | notIssued | notBound => exact .inl ⟨rfl, expired_of_gone hexpire hr hgone⟩
  | issued j hfresh =>
    refine .inl ⟨rfl, expired_of_gone hexpire hr fun hkept => hgone ?_⟩
    refine (insertSession_lookup ..).2 (.inr ⟨?_, hkept⟩)
    rintro rfl
    exact nomatch hfresh.symm.trans hkept
  | @lapsed j c hc hcancelled hexpired =>
    by_cases hij : j = i
    · subst hij
      cases hr.symm.trans hc
      exact .inl ⟨decide_eq_true rfl, hexpired, by rw [isDraining, hcancelled, Bool.false_and]⟩
    · exact absurd (((removeSession_removes hw j).sessions i r).2 ⟨hr, fun h => hij h.symm⟩) hgone
  | bound _ ht _ =>
    refine .inl ⟨rfl, expired_of_gone hexpire hr fun hkept => hgone ?_⟩
    rw [← makeRoom_sessions ht] at hkept
    exact hkept
  | @unheld _ k =>
    rw [(DropsBindings.of_dropBinding k w.state).sessions] at hgone
    exact absurd hr hgone
  | pruned => exact .inl ⟨rfl, expired_of_gone (takeExpired_expires hw now) hr hgone⟩
  | @completed _ scope chosen handles hcall =>
    obtain ⟨t, hdrops, hremoves⟩ := finishRevocation_removes hw
    refine .inr ⟨scope, chosen, handles, ⟨_, hcall⟩, ?_⟩
    by_contra hkept
    refine hgone ((hremoves.sessions i r).2 ⟨?_, hkept⟩)
    rw [hdrops.sessions]
    exact hr

def Deserted (w w' : World) (p : SessionPrincipal) : Prop :=
  ∀ i r, w.state.sessions.lookup i = some r → r.principal = p → w'.state.sessions.lookup i ≠ some r

lemma deserted_of_not_hasSession (h : ¬w'.state.HasSession p) : Deserted w w' p :=
  fun i r _ hp hr => h ⟨i, r, hr, hp⟩

lemma Does.binding_gone (h : Does now w m w') (hw : w.state.WellFormed)
    (hb : w.state.bindings.lookup k = some b) (hgone : ¬w'.state.Holds (.binding k) b.authority) :
    Deserted w w' b.principal ∨
    (∃ client target j verifier, m = .bind b.principal client target j verifier ∧
      w.limits.maxBindingsPerPrincipal ≤ (w.state.bindingsOf b.principal).length) ∨
    (∃ token verifier, m = .resolve token ∧ splitBindingToken token = some (k, verifier) ∧
      w.state.cancelled b.authority = false) ∨
    ∃ scope chosen handles, w.Revoking scope chosen handles [] ∧ ⟨k, b.authority⟩ ∈ handles := by
  have hexpire := expireDue_expires hw now
  cases h with
  | refused | lookedUp | unresolved | selected | drained | announced | timedOut | prunedAll
    | resumed | cleared | begun | finished | cancelled | closed => exact absurd ⟨b, hb, rfl⟩ hgone
  | notIssued | notBound =>
    exact .inl (deserted_of_not_hasSession fun hhas =>
      hgone ⟨b, (hexpire.bindings k b).2 ⟨hb, hhas⟩, rfl⟩)
  | issued j hfresh =>
    refine .inl fun i r hr hp hkept => hgone ⟨b, (hexpire.bindings k b).2 ⟨hb, i, r, ?_, hp⟩, rfl⟩
    rcases (insertSession_lookup ..).1 hkept with ⟨-, rfl⟩ | ⟨-, hkept⟩
    · have hlt := hw.bounded (.session i) _ ⟨_, hr, rfl⟩
      have hnext := hexpire.shrinks.nextAuthority
      dsimp only at hlt
      omega
    · exact hkept
  | @lapsed j c hc hcancelled hexpired =>
    exact .inl (deserted_of_not_hasSession fun hhas =>
      hgone ⟨b, ((removeSession_removes hw j).bindings k b).2 ⟨hb, hhas⟩, rfl⟩)
  | @bound j verifier p t client target htoken ht hfresh =>
    by_cases hkept : (w.state.expireDue now).1.bindings.lookup k = some b
    · rcases (makeRoom_cases ht).2 with rfl | ⟨l, hfull, hlru, rfl⟩
      · refine absurd ⟨b, (insertBinding_lookup ..).2 (.inr ⟨?_, hkept⟩), rfl⟩ hgone
        rintro rfl
        exact nomatch hfresh.symm.trans hkept
      · have hdrops := DropsBindings.of_dropBinding l (w.state.expireDue now).1
        by_cases hkl : k = l
        · subst hkl
          obtain ⟨c, hc, hp⟩ := (hexpire.wellFormed.bindingsOf p k).1 (leastRecentlyUsed_mem hlru)
          cases hkept.symm.trans hc
          subst hp
          exact .inr (.inl ⟨client, target, j, verifier, rfl,
            hfull.trans (hexpire.shrinks.bindingsOf _).length_le⟩)
        · have hdropped := (hdrops.bindings k b).2 ⟨hkept, hkl⟩
          refine absurd ⟨b, (insertBinding_lookup ..).2 (.inr ⟨?_, hdropped⟩), rfl⟩ hgone
          rintro rfl
          exact nomatch hfresh.symm.trans hdropped
    · refine .inl (deserted_of_not_hasSession fun hhas => hkept ((hexpire.bindings k b).2 ⟨hb, ?_⟩))
      rw [HasSession, ← makeRoom_sessions ht]
      exact hhas
  | @unheld token j v c hsplit hc hcancelled =>
    by_cases hkj : k = j
    · subst hkj
      cases hb.symm.trans hc
      exact .inr (.inr (.inl ⟨token, v, rfl, hsplit, hcancelled⟩))
    · exact absurd ⟨b, ((DropsBindings.of_dropBinding j w.state).bindings k b).2 ⟨hb, hkj⟩, rfl⟩
        hgone
  | @resolved token j v c hsplit hc hverifier hcancelled hlive =>
    refine absurd ?_ hgone
    by_cases hkj : k = j
    · subst hkj
      cases hb.symm.trans hc
      exact ⟨{ b with lastUsed := now }, AList.lookup_insert _, rfl⟩
    · exact ⟨b, (AList.lookup_insert_ne hkj).trans hb, rfl⟩
  | pruned =>
    exact .inl (deserted_of_not_hasSession fun hhas =>
      hgone ⟨b, ((takeExpired_expires hw now).bindings k b).2 ⟨hb, hhas⟩, rfl⟩)
  | @completed _ scope chosen handles hcall =>
    obtain ⟨t, hdrops, hremoves⟩ := finishRevocation_removes hw
    by_cases hhandle : ⟨k, b.authority⟩ ∈ handles
    · exact .inr (.inr (.inr ⟨scope, chosen, handles, ⟨_, hcall⟩, hhandle⟩))
    · refine .inl (deserted_of_not_hasSession fun hhas => hgone
        ⟨b, (hremoves.bindings k b).2 ⟨(hdrops.bindings k b).2 ⟨hb, ?_⟩, hhas⟩, rfl⟩)
      rintro ⟨h, hmem, rfl, ha⟩
      rw [ha] at hhandle
      exact hhandle hmem

end World

end Chan.Proxy
