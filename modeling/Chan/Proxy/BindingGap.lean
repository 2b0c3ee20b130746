import Chan.Proxy.SessionMoves

namespace Chan.Proxy
open AssocMap Transition SessionState

variable {w w' : World} {s : SessionState}

namespace World

/-- A session is issued to a principal with a cancelled record in the store only while the principal
holds a live one. -/
def Resident (w : World) (m : Nat × Move) : Prop :=
  match m.2 with
  | .issue p _ _ _ => (∃ i r, w.state.sessions.lookup i = some r ∧ r.principal = p ∧
      w.state.cancelled r.authority = true) → w.state.LiveAt p m.1
  | _ => True

/-- The binding minted under the authority is not in the store. -/
def Absent (a : Nat) (s : SessionState) : Prop :=
  ∀ k b, s.bindings.lookup k = some b → b.authority ≠ a

lemma liveAt_insertBinding (hw : s.WellFormed)
    (h : (s.insertBinding p client target now k verifier).LiveAt q time) : s.LiveAt q time := by
  obtain ⟨i, r, hr, hq, hc, ht⟩ := h
  rw [cancelled_insertBinding (bounded_session hw hr)] at hc
  exact ⟨i, r, hr, hq, hc, ht⟩

lemma liveAt_insertSession (hw : s.WellFormed)
    (h : (s.insertSession lifetime p client now i admin).1.LiveAt q time) :
    s.LiveAt q time ∨ q = p := by
  obtain ⟨j, r, hr, hq, hc, ht⟩ := h
  rcases (insertSession_lookup ..).1 hr with ⟨-, rfl⟩ | ⟨-, hr⟩
  · exact .inr hq.symm
  · rw [cancelled_insertSession (bounded_session hw hr)] at hc
    exact .inl ⟨j, r, hr, hq, hc, ht⟩

lemma liveAt_modifyAuthority
    (h : (s.modifyAuthority a f).LiveAt p time)
    (hf : ∀ x, x.cancelled = true → (f x).cancelled = true) : s.LiveAt p time := by
  obtain ⟨i, r, hr, hp, hc, ht⟩ := h
  refine ⟨i, r, hr, hp, ?_, ht⟩
  by_contra hcancelled
  rw [Bool.not_eq_false, SessionState.cancelled] at hcancelled
  simp only [SessionState.cancelled, SessionState.modifyAuthority, Function.update_apply] at hc
  split at hc
  · rename_i ha
    rw [ha] at hcancelled
    rw [hf _ hcancelled] at hc
    cases hc
  · rw [hcancelled] at hc
    cases hc

lemma Does.liveAt (h : Does now w m w') (hw : w.state.WellFormed)
    (hl : w'.state.LiveAt p time) : w.state.LiveAt p time ∨
      ∃ client i admin, m = .issue p client i admin ∧
        w'.state.bindings = (w.state.expireDue now).1.bindings := by
  have hexpire := expireDue_expires hw now
  cases h with
  | notIssued | notBound => exact .inl (hexpire.shrinks.liveAt hl)
  | issued i hfresh hadmin hr =>
    rcases liveAt_insertSession hexpire.wellFormed hl with hl | rfl
    · exact .inl (hexpire.shrinks.liveAt hl)
    · exact .inr ⟨_, i, _, rfl, rfl⟩
  | @lapsed i r hr hcancelled hexpired =>
    have hremoves := removeSession_removes hw i
    refine .inl ((hremoves.shrinks.revokeAuthority (x := .session i) ⟨r, hr, rfl⟩ ?_).liveAt hl)
    rintro ⟨c, hc, -⟩
    exact ((hremoves.sessions _ c).1 hc).2 rfl
  | bound _ ht _ =>
    have hroom := makeRoom_wellFormed hexpire.wellFormed ht
    have hl := liveAt_insertBinding hroom.1 hl
    rcases (makeRoom_cases ht).2 with rfl | ⟨k, -, -, rfl⟩
    · exact .inl (hexpire.shrinks.liveAt hl)
    · exact .inl (hexpire.shrinks.liveAt
        ((SessionState.DropsBindings.of_dropBinding k _).shrinks.liveAt hl))
  | unheld => exact .inl ((SessionState.DropsBindings.of_dropBinding _ w.state).shrinks.liveAt hl)
  | begun =>
    exact .inl (liveAt_modifyAuthority hl fun x hx => (cancelled_begin x).trans hx)
  | finished => exact .inl (liveAt_modifyAuthority hl fun _ hx => hx)
  | cancelled => exact .inl (liveAt_modifyAuthority hl fun _ _ => rfl)
  | closed => exact .inl (liveAt_modifyAuthority hl fun _ hx => hx)
  | pruned => exact .inl ((takeExpired_expires hw now).shrinks.liveAt hl)
  | completed =>
    obtain ⟨t, hdrops, hremoves⟩ := finishRevocation_removes hw
    exact .inl (hdrops.shrinks.liveAt (hremoves.shrinks.liveAt hl))
  | _ => exact .inl hl

lemma Does.absent (h : Does now w m w') (hw : w.state.WellFormed)
    (ha : a < w.state.nextAuthority) (habsent : Absent a w.state) : Absent a w'.state := by
  intro k b hb
  rcases h.bindings hw hb with ⟨c, hc, -, -, heq⟩ | ⟨_, _, -, heq, -⟩
  · rw [← heq]
    exact habsent k c hc
  · omega

def Tagged (a : Nat) (k : String) (p : SessionPrincipal) (s : SessionState) : Prop :=
  a < s.nextAuthority ∧ ∀ j b, s.bindings.lookup j = some b → b.authority = a →
    j = k ∧ b.principal = p

lemma Does.tagged (h : Does now w m w') (hw : w.state.WellFormed)
    (ht : Tagged a k p w.state) : Tagged a k p w'.state := by
  refine ⟨ht.1.trans_le (h.stores hw).nextAuthority, fun j b hb ha => ?_⟩
  rcases h.bindings hw hb with ⟨c, hc, hp, -, heq⟩ | ⟨_, _, -, heq, -⟩
  · rw [← hp]
    exact ht.2 j c hc (heq.trans ha)
  · exact absurd ht.1 (by omega)

def Broken (a : Nat) (p : SessionPrincipal) (time : Nat) (s : SessionState) : Prop :=
  Absent a s ∨ ¬s.LiveAt p time

lemma Does.broken (h : Does now w m w') (hw : w.state.WellFormed)
    (hresident : w.Resident (now, m)) (ht : Tagged a k p w.state)
    (hb : Broken a p now w.state) : Broken a p now w'.state := by
  rcases hb with habsent | hgap
  · exact .inl (h.absent hw ht.1 habsent)
  · by_contra hbroken
    rw [Broken, not_or, not_not] at hbroken
    rcases h.liveAt hw hbroken.2 with hl | ⟨client, i, admin, rfl, hbindings⟩
    · exact hgap hl
    · -- The session is issued in the gap: no cancelled record of the principal is left, so the
      -- expiry before it takes the last record and the binding with it.
      refine hbroken.1 fun j b hb ha => ?_
      rw [hbindings] at hb
      have hexpire := expireDue_expires hw now
      refine hexpire.no_binding (p := p) (fun i r hr hp => ?_) j b hb
        (ht.2 j b (hexpire.shrinks.bindings _ _ hb) ha).2
      have hcancelled : w.state.cancelled r.authority = false := by
        by_contra hne
        exact hgap (hresident ⟨i, r, hr, hp, Bool.eq_true_of_not_eq_false hne⟩)
      refine ⟨?_, by rw [SessionState.isDraining, hcancelled, Bool.false_and]⟩
      by_contra hlate
      exact hgap ⟨i, r, hr, hp, hcancelled, by omega⟩

lemma Broken.later (h : Broken a p time s) (hle : time ≤ time') : Broken a p time' s :=
  h.imp_right fun hgap hl => hgap (hl.earlier hle)

lemma broken_run (hw : w.state.WellFormed) (ht : Tagged a k p w.state)
    (hb : Broken a p w.clock w.state) (halong : Along step Resident w ms)
    (he : exec step w ms = some w') : Broken a p w'.clock w'.state := by
  refine (Along.invariant (I := fun w => w.state.WellFormed ∧ Tagged a k p w.state ∧
    Broken a p w.clock w.state) ?_ halong ⟨hw, ht, hb⟩ he).2.2
  rintro x m y ⟨hw, ht, hb⟩ hresident hstep
  obtain ⟨hclock, u, hu, rfl⟩ := step_eq_some hstep
  have hdoes := act_does hu
  exact ⟨hdoes.wellFormed hw, hdoes.tagged hw ht,
    hdoes.broken hw hresident ht (hb.later hclock)⟩

/-- The bind hands this token out. -/
def Mints (w : World) (now : Nat) (p : SessionPrincipal) (client : ClientType)
    (target : ExtensionTarget) (k verifier : String) : Prop :=
  (w.state.bindExtension w.limits p client target now k verifier).2.2 = .ok (k ++ verifier)

lemma Does.tagged_mint (h : Does now w (.bind p client target k verifier) w')
    (hw : w.state.WellFormed) (hm : Mints w now p client target k verifier) :
    Tagged w.state.nextAuthority k p w'.state := by
  have hfresh j b (hb : w'.state.bindings.lookup j = some b)
      (ha : b.authority = w.state.nextAuthority) : j = k ∧ b.principal = p := by
    rcases h.bindings hw hb with ⟨c, hc, -, -, heq⟩ | ⟨_, _, hmove, -, -⟩
    · have hlt := hw.bounded (.binding j) _ ⟨c, hc, rfl⟩
      omega
    · cases hmove
      exact ⟨rfl, rfl⟩
  refine ⟨?_, hfresh⟩
  have hexpire := (expireDue_expires hw now).shrinks.nextAuthority
  cases h with
  | notBound he => exact nomatch he.symm.trans hm
  | bound _ ht _ =>
    rcases (makeRoom_cases ht).2 with rfl | ⟨j, -, -, rfl⟩
    · exact Nat.lt_succ_of_le hexpire.ge
    · have hdrop := (SessionState.DropsBindings.of_dropBinding j
        (w.state.expireDue now).1).shrinks.nextAuthority
      exact Nat.lt_succ_of_le (hdrop.trans hexpire).ge

lemma exec_wellFormed (he : exec step (new l) ms = some w) :
    w.state.WellFormed :=
  exec_invariant (I := fun w => w.state.WellFormed) (fun _ _ _ hw h => step_wellFormed hw h)
    (wellFormed_new l) he

lemma exec_minted (he : exec step (new l) ms = some w)
    (hb : w.state.bindings.lookup k = some b) :
    ∃ as time client target bs u,
      ms = as ++ (time, .bind b.principal client target k b.verifier) :: bs ∧
      exec step (new l) as = some u ∧ b.authority = u.state.nextAuthority ∧
      Mints u time b.principal client target k b.verifier := by
  induction ms using List.reverseRecOn generalizing w k b with
  | nil =>
    cases he
    cases hb
  | append_singleton ms m ih =>
    obtain ⟨v, hv, hlast⟩ := exec_append_eq_some.1 he
    obtain ⟨w', hstep, hw'⟩ := exec_cons_eq_some.1 hlast
    cases hw'
    obtain ⟨-, u, hu, rfl⟩ := step_eq_some hstep
    rcases (act_does hu).bindings (exec_wellFormed hv) hb with
      ⟨c, hc, hp, hverifier, ha⟩ | ⟨client, target, hm, ha, hmint, -⟩
    · grind
    · refine ⟨ms, m.1, client, target, [], v, ?_, hv, ha, hmint⟩
      rw [← hm]

lemma splitBindingToken_eq (h : splitBindingToken token = some (k, verifier)) :
    token = k ++ verifier := by
  rw [splitBindingToken] at h
  split at h
  · cases h
    rw [← String.ofList_append, List.take_append_drop, String.ofList_toList]
  · cases h

/-- A token that resolves was minted in the run, and at every moment since its principal held a
session that was neither cancelled nor expired, if no session was ever issued to a principal of
which nothing but cancelled records was left. -/
theorem binding_survives_no_gap (limits : SessionLimits) (ms : List (Nat × Move)) (w : World)
    (halong : Along step Resident (new limits) ms) (he : exec step (new limits) ms = some w)
    (time : Nat) (hclock : w.clock ≤ time) (token : String)
    (hresolves : (w.state.resolveExtensionBinding token time).2.isSome = true) :
    ∃ as minted p client target k verifier bs u,
      ms = as ++ (minted, .bind p client target k verifier) :: bs ∧ token = k ++ verifier ∧
      exec step (new limits) as = some u ∧ Mints u minted p client target k verifier ∧
      ∀ cs ds x, bs = cs ++ ds →
        exec step (new limits) (as ++ (minted, .bind p client target k verifier) :: cs) = some x →
        ∀ moment, x.clock ≤ moment → moment ≤ (ds.head?.map Prod.fst).getD time →
          x.state.LiveAt p moment := by
  have hw := exec_wellFormed he
  rcases w.state.resolve_cases with heq | ⟨_, _, _, -, -, -, -, heq⟩ |
    ⟨k, verifier, b, answer, hsplit, hb, hverifier, -, hlive, -⟩
  · rw [heq] at hresolves
    cases hresolves
  · rw [heq] at hresolves
    cases hresolves
  have hlive : w.state.LiveAt b.principal time := by
    by_contra hgap
    exact hlive ((liveSession_eq_none hw.sessionsOf).2 hgap)
  obtain ⟨as, minted, client, target, bs, u, rfl, hu, ha, hmint⟩ := exec_minted he hb
  subst hverifier
  refine ⟨as, minted, b.principal, client, target, k, b.verifier, bs, u, rfl,
    splitBindingToken_eq hsplit, hu, hmint, ?_⟩
  rintro cs ds x rfl hx moment - hmoment
  by_contra hgap
  -- The binding is under its own authority from the mint on.
  obtain ⟨u', hu', hx'⟩ := exec_append_eq_some.1 hx
  cases hu.symm.trans hu'
  obtain ⟨y, hy, hyx⟩ := exec_cons_eq_some.1 hx'
  obtain ⟨-, y', hacts, rfl⟩ := step_eq_some hy
  have htagged : Tagged b.authority k b.principal y'.state := by
    rw [ha]
    exact (act_does hacts).tagged_mint (exec_wellFormed hu) hmint
  have hxtagged : Tagged b.authority k b.principal x.state :=
    (exec_invariant (I := fun w => w.state.WellFormed ∧ Tagged b.authority k b.principal w.state)
      (fun x m z ⟨hw, ht⟩ h => by
        obtain ⟨-, z', hz, rfl⟩ := step_eq_some h
        exact ⟨(act_does hz).wellFormed hw, (act_does hz).tagged hw ht⟩)
      ⟨step_wellFormed (exec_wellFormed hu) hy, htagged⟩ hyx).2
  have hsplit : as ++ (minted, .bind b.principal client target k b.verifier) :: (cs ++ ds) =
      (as ++ (minted, .bind b.principal client target k b.verifier) :: cs) ++ ds := by
    rw [List.append_assoc, List.cons_append]
  rw [hsplit] at halong he
  have hds := halong.append_right hx
  obtain ⟨x', hx'', hend⟩ := exec_append_eq_some.1 he
  cases hx.symm.trans hx''
  have hbroken : Broken b.authority b.principal time w.state := by
    cases ds with
    | nil =>
      cases hend
      exact .inr fun hl => hgap (hl.earlier hmoment)
    | cons m ds =>
      obtain ⟨z, hz, hzw⟩ := exec_cons_eq_some.1 hend
      obtain ⟨-, z', hzacts, rfl⟩ := step_eq_some hz
      have hmoves := act_does hzacts
      have hxw := exec_wellFormed hx
      refine (broken_run (w := { z' with clock := m.1 }) (hmoves.wellFormed hxw)
        (hmoves.tagged hxw hxtagged) ?_ (hds.2 _ hz) hzw).later hclock
      exact hmoves.broken hxw hds.1 hxtagged (.inr fun hl => hgap (hl.earlier hmoment))
  rcases hbroken with habsent | hgap
  · exact habsent k b hb rfl
  · exact hgap hlive

def sampleLimits : SessionLimits := ⟨8, 8, 8, 8, 8, 10⟩

def sampleId (c : Char) : String := String.ofList (List.replicate 64 c)

def sampleSelector (c : Char) : String := String.ofList (List.replicate 32 c)

def samplePrincipal : SessionPrincipal := ⟨1, 2, "box", "app"⟩

def sampleTarget : ExtensionTarget := ⟨"tenant", "extension", "capability"⟩

def sampleRecord (admin time authority : Nat) : SessionRecord :=
  ⟨admin, samplePrincipal, .browser, time, time + 10, authority⟩

def sampleBind : Move :=
  .bind samplePrincipal .browser sampleTarget (sampleSelector 'a') (sampleId 'b')

def sampleToken : String := sampleSelector 'a' ++ sampleId 'b'

theorem binding_survives_no_gap_bound : ∃ w, exec step (new sampleLimits)
        [(0, .issue samplePrincipal .browser (sampleId '0') 7), (1, sampleBind)] = some w ∧
      ∃ as minted p client target k verifier bs u,
        [(0, .issue samplePrincipal .browser (sampleId '0') 7), (1, sampleBind)] =
          as ++ (minted, .bind p client target k verifier) :: bs ∧ sampleToken = k ++ verifier ∧
        exec step (new sampleLimits) as = some u ∧ Mints u minted p client target k verifier ∧
        ∀ cs ds x, bs = cs ++ ds →
          exec step (new sampleLimits) (as ++ (minted, .bind p client target k verifier) :: cs) =
            some x →
          ∀ moment, x.clock ≤ moment → moment ≤ (ds.head?.map Prod.fst).getD 9 →
            x.state.LiveAt p moment := by
  have hrun : (exec step (new sampleLimits)
      [(0, .issue samplePrincipal .browser (sampleId '0') 7), (1, sampleBind)]).any (fun w =>
        w.clock ≤ 9 && (w.state.resolveExtensionBinding sampleToken 9).2.isSome) = true := by
    decide +kernel
  obtain ⟨w, hw, hends⟩ := (Option.any_eq_true _ _).1 hrun
  rw [Bool.and_eq_true, decide_eq_true_iff] at hends
  refine ⟨w, hw, binding_survives_no_gap sampleLimits _ w ?_ hw 9 hends.1 sampleToken hends.2⟩
  exact ⟨fun ⟨i, r, hr, _⟩ => (nomatch hr), fun _ _ => ⟨trivial, fun _ _ => trivial⟩⟩

/-- A revocation that timed out left a cancelled record. It holds the principal's place while the
one live session lapses, and the token resolves under the next. -/
theorem cancelled_record_bridges_gap :
    ∃ ms bs x w, exec step (new sampleLimits) (ms ++ [(2, sampleBind)]) = some x ∧
      exec step x bs = some w ∧ x.clock ≤ 15 ∧ (∀ m ∈ bs, 15 ≤ m.1) ∧
      ¬x.state.LiveAt samplePrincipal 15 ∧ w.clock ≤ 20 ∧
      (w.state.resolveExtensionBinding sampleToken 20).2.isSome = true := by
  let ms : List (Nat × Move) := [(0, .issue samplePrincipal .browser (sampleId '0') 7),
    (0, .begin 0),
    (0, .revoke 0 (.sessionId 7) [(sampleId '0', sampleRecord 7 0 0)] []),
    (0, .chore 0), (0, .chore 0), (0, .timeout 0),
    (1, .issue samplePrincipal .browser (sampleId '1') 8)]
  let bs : List (Nat × Move) := [(20, .issue samplePrincipal .browser (sampleId '2') 9)]
  have hrun : (exec step (new sampleLimits) (ms ++ [(2, sampleBind)])).any (fun x =>
      x.clock ≤ 15 && (x.state.liveSession samplePrincipal 15).isNone &&
      (exec step x bs).any fun w =>
        w.clock ≤ 20 && (w.state.resolveExtensionBinding sampleToken 20).2.isSome) = true := by
    decide +kernel
  obtain ⟨x, hx, hends⟩ := (Option.any_eq_true _ _).1 hrun
  simp only [Bool.and_eq_true, decide_eq_true_iff, Option.isNone_iff_eq_none] at hends
  obtain ⟨w, hw, hresolves⟩ := (Option.any_eq_true _ _).1 hends.2
  simp only [Bool.and_eq_true, decide_eq_true_iff] at hresolves
  exact ⟨ms, bs, x, w, hx, hw, hends.1.1, by decide,
    (liveSession_eq_none (exec_wellFormed hx).sessionsOf).1 hends.1.2, hresolves⟩

end World

end Chan.Proxy
