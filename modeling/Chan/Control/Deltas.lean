import Chan.Control.Serving

namespace Chan.Control.ControllerState
open Utf AssocMap Function

variable {s : ControllerState} {sizes : Sizes} {l : ControllerLabel} {kept : Prop}

lemma session_withSession
    (hs : s.session k = some p) (hf : (f p).incarnation = p.incarnation) :
    (s.withSession k.proxyId f).session k = some (f p) := by
  obtain ⟨hp, hi⟩ := Option.filter_eq_some_iff.1 hs
  refine Option.filter_eq_some_iff.2 ⟨?_, ?_⟩
  · rw [lookup_withSession, if_pos rfl, hp]
    rfl
  · rw [hf]
    exact hi

lemma serves_delta
    (hl : l.op.session = some ⟨proxyId, i⟩) (hg : l.op.generation = some g)
    (hop : l.op.mayResync = true)
    (hf : ∀ p, s.session ⟨proxyId, i⟩ = some p →
      (s.withSession proxyId (advanced g now)).session ⟨proxyId, i⟩ = some (advanced g now p) →
      Serves sizes l kept (s.withSession proxyId (advanced g now))
        (f ⟨proxyId, i⟩ p (s.withSession proxyId (advanced g now)))) :
    Serves sizes l kept s (s.delta proxyId i g now f).turn := by
  refine Serves.requireKey fun p hs => ?_
  obtain ⟨hk, hp⟩ := current_of_session hs
  split
  · exact .refl s
  · rename_i current hcurrent
    split
    · exact serves_forceResync hs hl hop
    · have hknown : p.generation.isSome = true := by rw [hcurrent]; rfl
      have hphase : (s.withSession proxyId (advanced g now)).phase = s.phase := by
        refine phase_withSession_quiet fun x hx => ?_
        cases hp.symm.trans hx
        show (⟨p.incarnation, p.status, true, p.fleetReady⟩ : Stage) = p.stage
        rw [ProxySession.stage, hknown]
      have hadvance : Serves sizes l kept s (s.withSession proxyId (advanced g now), []) :=
        .keep hphase (Runs.move id fun _ _ => (Move.advance hk hknown hl hg).to
        (core_withSession hp))
      exact hadvance.before (hf p hs (session_withSession (k := ⟨proxyId, i⟩) hs rfl))

lemma serves_refuseRegistration (hs : s.session k = some p)
    (hl : l.op.session = some k) (hi : i ∈ l.op.registrations) :
    Serves sizes l kept s (s.refuseRegistration k i now) := by
  unfold refuseRegistration
  split
  · exact .refl s
  · have hremember : Serves sizes l kept s
        (s.withSession k.proxyId (ProxySession.rememberRemoval i), []) :=
      .keep (phase_withSession_quiet fun p _ => stage_rememberRemoval i p)
        (runs_rememberRemoval hs hl hi)
    exact hremember.before (serves_issueKill _)

lemma phase_removePending (K : TunnelKey) (s : ControllerState) :
    (s.removePending K).phase = s.phase := by
  obtain ⟨_, _, _, heq⟩ := s.removePending_eq K
  rw [heq]
  rfl

lemma serves_removePending : Serves sizes l kept s (s.removePending K, []) :=
  .keep (phase_removePending K s) (runs_removePendings [K] s)

lemma phase_removeRegistration (k : SessionKey) (i : Uuid) (s : ControllerState) :
    (s.removeRegistration sizes k i).phase = s.phase := by
  unfold removeRegistration
  dsimp only
  split
  · exact phase_withdraw sizes k i
  · rename_i b _
    refine Eq.trans ?_ (phase_withdraw sizes k i)
    unfold releaseOrphanRow
    dsimp only
    split
    · rfl
    · split <;> rfl

lemma serves_removeRegistration (hs : s.session k = some p) :
    Serves sizes l kept s (s.removeRegistration sizes k i, []) := by
  refine .keep (phase_removeRegistration k i s)
    (runs_removeRegistration sizes k i s fun _ hnone => ?_)
  cases (current_of_session hs).2.symm.trans hnone

lemma core_removePending (K : TunnelKey) (s : ControllerState) :
    (s.removePending K).core = { s.core with pending := update s.core.pending K none } := by
  obtain ⟨_, _, _, heq⟩ := s.removePending_eq K
  rw [heq]
  exact congrArg (fun m => { s.core with pending := m }) (lookup_erase_fun s.pending K)

def published (sizes : Sizes) (k : SessionKey) (url : Text) (row : TunnelRow)
    (s : ControllerState) : ControllerState :=
  { (s.removePending row.key).withSession k.proxyId (withRow sizes row) with
    tunnels := (s.removePending row.key).tunnels.insert row.key ⟨k, url, row⟩ }

lemma phase_published (url : Text) :
    (s.published sizes k url row).phase = s.phase := by
  show ((s.removePending row.key).withSession k.proxyId (withRow sizes row)).phase = s.phase
  rw [phase_withSession_quiet (f := withRow sizes row) fun _ _ => rfl, phase_removePending]

lemma core_published (hs : s.session k = some p) :
    (s.published sizes k url row).core =
      { s.core.setLive k.proxyId
          { p.live with rows := update p.live.rows row.registrationId (some row) } with
        tunnels := update s.core.tunnels row.key (some ⟨k, url, row⟩)
        pending := update s.core.pending row.key none } := by
  obtain ⟨_, hp⟩ := current_of_session hs
  obtain ⟨_, _, _, heq⟩ := s.removePending_eq row.key
  have hp' : (s.removePending row.key).proxies.lookup k.proxyId = some p := by
    rw [heq]
    exact hp
  have htunnels : (s.removePending row.key).tunnels = s.tunnels := by rw [heq]
  have hcore := core_withSession (f := withRow sizes row) hp'
  have hlive : (withRow sizes row p).live =
      { p.live with rows := update p.live.rows row.registrationId (some row) } :=
    congrArg (fun m => { p.live with rows := m }) (lookup_insert_fun p.rows row.registrationId row)
  rw [core_removePending, hlive] at hcore
  show { ((s.removePending row.key).withSession k.proxyId (withRow sizes row)).core with
    tunnels := ((s.removePending row.key).tunnels.insert row.key (OwnedTunnel.mk k url row)).lookup
      } = _
  rw [hcore, htunnels, lookup_insert_fun]
  rfl

lemma serves_publish (hs : s.session k = some p)
    (hl : l.op.session = some k) (hg : l.op.generation.isSome)
    (hi : row.registrationId ∈ l.op.registrations)
    (hrow : p.rows.lookup row.registrationId = none) (hclaim : s.claimed k row = true) :
    Serves sizes l kept s ((s.removePending row.key).publish sizes k q row now) := by
  obtain ⟨hk, hp⟩ := current_of_session hs
  obtain ⟨claim, hclaim, hof⟩ := (Option.any_eq_true _ _).1 hclaim
  obtain ⟨hsession, _⟩ := of_decide_eq_true hof
  have hmove : Move sizes l kept s.core [] (s.published sizes k q.baseUrl row).core :=
    (Move.publish hk hl hg hi hrow hclaim hsession).to (core_published hs)
  have hexact : s.Exact → (s.removePending row.key).Exact := fun he => he.removePendings [row.key]
  unfold publish
  dsimp only
  split
  · rename_i hnone
    have hserves : Serves sizes l kept s
        ((s.published sizes k q.baseUrl row).addOwnerKey row.key, []) := by
      refine .keep (phase_published q.baseUrl) (Runs.move (fun he => ?_) fun _ _ => hmove)
      exact ⟨(hexact he).1.addTunnel hnone, (hexact he).2⟩
    exact hserves
  · rename_i old hold
    have hserves : Serves sizes l kept s (s.published sizes k q.baseUrl row, []) := by
      refine .keep (phase_published q.baseUrl) (Runs.move (fun he => ?_) fun _ _ => hmove)
      exact ⟨(hexact he).1.replaceTunnel (by rw [hold]; rfl), (hexact he).2⟩
    split
    · exact hserves.before (serves_issueKill _)
    · exact hserves

lemma publishesRegistration_of_row (hs : s.session k' = some p)
    (h : (p.rows.lookup i).isSome) : s.publishesRegistration k i = true := by
  obtain ⟨_, hp⟩ := current_of_session hs
  rw [publishesRegistration, Bool.or_eq_true, List.any_eq_true]
  exact .inl ⟨⟨k'.proxyId, p⟩, AList.mem_lookup_iff.1 hp, h⟩

section
variable (proxyId : ProxyId)

lemma serves_tunnelUp (hop : l.op = .tunnelUp proxyId incarnation g row) :
    Serves sizes l kept s (s.tunnelUp sizes proxyId incarnation g row now wallNow).turn := by
  have hl : l.op.session = some ⟨proxyId, incarnation⟩ := by rw [hop]; rfl
  have hg : l.op.generation = some g := by rw [hop]; rfl
  have hresync : l.op.mayResync = true := by rw [hop]; rfl
  have hi : row.registrationId ∈ l.op.registrations := by rw [hop]; exact List.mem_cons_self
  unfold tunnelUp
  split
  · exact .refl s
  · refine serves_delta hl hg hresync fun p hs hs' => ?_
    generalize s.withSession proxyId (advanced g now) = s' at hs' ⊢
    split
    · exact serves_forceResync hs' hl hresync
    · rename_i hfresh
      dsimp only
      have hrow : (advanced g now p).rows.lookup row.registrationId = none :=
        Option.not_isSome_iff_eq_none.1 fun hsome =>
          hfresh (publishesRegistration_of_row hs' hsome)
      split
      · rename_i hrefused
        split
        · have hs'' : (s'.removePending row.key).session ⟨proxyId, incarnation⟩ =
              some (advanced g now p) := by
            obtain ⟨_, _, _, heq⟩ := s'.removePending_eq row.key
            rw [heq]
            exact hs'
          exact (serves_removePending).before (serves_refuseRegistration hs'' hl hi)
        · exact serves_refuseRegistration hs' hl hi
      · rename_i hroom
        have hclaimed : s'.claimed ⟨proxyId, incarnation⟩ row = true :=
          Bool.eq_true_of_not_eq_false fun h => hroom (.inl h)
        rw [if_pos hclaimed]
        exact serves_publish hs' hl (by rw [hg]; rfl) hi hrow hclaimed

lemma serves_tunnelDown (hop : l.op = .tunnelDown proxyId incarnation g i) :
    Serves sizes l kept s (s.tunnelDown sizes proxyId incarnation g i now).turn := by
  have hl : l.op.session = some ⟨proxyId, incarnation⟩ := by rw [hop]; rfl
  have hg : l.op.generation = some g := by rw [hop]; rfl
  have hresync : l.op.mayResync = true := by rw [hop]; rfl
  refine serves_delta hl hg hresync fun p hs hs' => ?_
  generalize s.withSession proxyId (advanced g now) = s' at hs' ⊢
  split
  · exact serves_forceResync hs' hl hresync
  · have hstay : (s'.removeRegistration sizes ⟨proxyId, incarnation⟩ i).phase = s'.phase :=
      phase_removeRegistration _ i s'
    obtain ⟨p', hp', _⟩ := session_of_phase (hstay.symm ▸ phase_current hs')
    obtain ⟨hk, hp''⟩ := current_of_session hp'
    refine (serves_removeRegistration hs').before (.keep (phase_withSession_quiet fun _ _ => rfl)
      (Runs.move id fun _ _ => (Move.forget hk hop).to (core_withSession hp'')))

lemma serves_refuseTunnelUp (hop : l.op = .refuseTunnelUp proxyId incarnation g i) :
    Serves sizes l kept s (s.refuseTunnelUp proxyId incarnation g i now).turn := by
  have hl : l.op.session = some ⟨proxyId, incarnation⟩ := by rw [hop]; rfl
  have hresync : l.op.mayResync = true := by rw [hop]; rfl
  refine serves_delta hl (by rw [hop]; rfl) hresync fun p hs hs' => ?_
  split
  · exact serves_forceResync hs' hl hresync
  · exact serves_refuseRegistration hs' hl (by rw [hop]; exact List.mem_cons_self)

lemma serves_refuseLeaseRefresh (hop : l.op = .refuseLeaseRefresh proxyId incarnation i) :
    Serves sizes l kept s (s.refuseLeaseRefresh proxyId incarnation i now).turn := by
  refine Serves.requireKey fun p hs => ?_
  refine (serves_touch ⟨proxyId, incarnation⟩ now).before ?_
  exact serves_refuseRegistration (session_withSession hs rfl) (by rw [hop]; rfl)
    (by rw [hop]; exact List.mem_cons_self)

end

lemma serves_refuseBrowserSession : Serves sizes l kept s (s.refuseBrowserSession k i) := by
  let f (p : ProxySession) : ProxySession :=
    if p.removedBrowserSessions.card < maxRemovedBrowserSessions then
      { p with removedBrowserSessions := insert i p.removedBrowserSessions }
    else p
  have hlive : ∀ x, (f x).live = x.live := by
    intro x
    unfold f
    split <;> rfl
  have hstage : ∀ x, (f x).stage = x.stage := by
    intro x
    unfold f
    split <;> rfl
  have hquiet : Serves sizes l kept s (s.withSession k.proxyId f, []) :=
    .quiet (core_withSession_quiet fun x _ => hlive x)
    (phase_withSession_quiet fun x _ => hstage x) id
  refine hquiet.before fun h => ⟨⟨?_, h.busy, h.idle⟩, id, id, Runs.move id fun _ _ => .emit ?_ ?_⟩
  · exact h.staged.draw (fun _ _ => rfl) fun i command hc =>
      Nat.lt_succ_of_lt (h.staged.fresh i command hc)
  · intro e he
    rw [List.mem_singleton.1 he]
    trivial
  · exact Nat.le_succ _

lemma serves_withBrowserSession (hs : s.session k = some p)
    (hg : p.generation.isSome) :
    Serves sizes l kept s
      (if p.isFleetReady then
        { s.withSession k.proxyId (withBrowserSession sizes row) with
          browserSessions := s.browserSessions.insert row.adminSessionId ⟨k, row⟩ }
      else s.withSession k.proxyId (withBrowserSession sizes row), []) := by
  obtain ⟨hk, hp⟩ := current_of_session hs
  have hphase : (s.withSession k.proxyId (withBrowserSession sizes row)).phase = s.phase :=
    phase_withSession_quiet fun _ _ => rfl
  have hlive : (withBrowserSession sizes row p).live = { p.live with
      browserSessions := update p.live.browserSessions row.adminSessionId (some row) } :=
    congrArg (fun m => { p.live with browserSessions := m })
      (lookup_insert_fun p.browserSessions row.adminSessionId row)
  have hcore := core_withSession (f := withBrowserSession sizes row) hp
  rw [hlive] at hcore
  have hid : row.adminSessionId = row.adminSessionId := rfl
  have hup : Move sizes l kept s.core [] _ := Move.browserUp hk hg hid
  split
  · rename_i hready
    have htold : p.live.fleetReady = true := (Bool.and_eq_true_iff.1 hready).2
    refine .keep hphase (Runs.move id fun _ _ => hup.to ?_)
    rw [if_pos htold]
    show { (s.withSession k.proxyId (withBrowserSession sizes row)).core with
      browserSessions :=
        (s.browserSessions.insert row.adminSessionId (OwnedBrowserSession.mk k row)).lookup } = _
    rw [hcore, lookup_insert_fun]
    rfl
  · rename_i hready
    refine .keep hphase (Runs.move id fun hsound _ => ?_)
    have htold : p.live.fleetReady = false := by
      cases ht : p.live.fleetReady with
      | false => rfl
      | true =>
        have hactive := (hsound.proper _ _ hk.1).1.told ht
        exact absurd (Bool.and_eq_true_iff.2 ⟨decide_eq_true hactive, ht⟩) hready
    refine hup.to ?_
    rw [if_neg (Bool.eq_false_iff.1 htold)]
    exact hcore

lemma serves_withoutBrowserSession (hs : s.session k = some p) :
    Serves sizes l kept s
      (if (s.browserSessions.lookup i).any fun o => decide (o.session = k) then
        { s.withSession k.proxyId (withoutBrowserSession sizes i row) with
          browserSessions := s.browserSessions.erase i }
      else s.withSession k.proxyId (withoutBrowserSession sizes i row), []) := by
  obtain ⟨hk, hp⟩ := current_of_session hs
  have hphase : (s.withSession k.proxyId (withoutBrowserSession sizes i row)).phase = s.phase :=
    phase_withSession_quiet fun _ _ => rfl
  have hlive : (withoutBrowserSession sizes i row p).live = { p.live with
      browserSessions := update p.live.browserSessions i none } :=
    congrArg (fun m => { p.live with browserSessions := m }) (lookup_erase_fun p.browserSessions i)
  have hcore := core_withSession (f := withoutBrowserSession sizes i row) hp
  rw [hlive] at hcore
  split
  · refine .keep hphase (Runs.move id fun _ _ =>
      (Move.browserDown (i := i) hk (Sub.update_none s.core.browserSessions i) ?_).to ?_)
    · intro o ho
      rw [update_self] at ho
      cases ho
    · show { (s.withSession k.proxyId (withoutBrowserSession sizes i row)).core with
        browserSessions := (s.browserSessions.erase i).lookup } = _
      rw [hcore, lookup_erase_fun]
      rfl
  · rename_i hother
    refine .keep hphase (Runs.move id fun _ _ =>
      (Move.browserDown hk (Sub.refl s.core.browserSessions) fun o ho hsession => hother ?_).to
      hcore)
    exact (Option.any_eq_true _ _).2 ⟨o, ho, decide_eq_true hsession⟩

lemma serves_browserSessionUp (hop : l.op = .browserSessionUp proxyId incarnation g row) :
    Serves sizes l kept s
    (s.browserSessionUp sizes proxyId incarnation g row now wallNow).turn := by
  have hl : l.op.session = some ⟨proxyId, incarnation⟩ := by rw [hop]; rfl
  have hresync : l.op.mayResync = true := by rw [hop]; rfl
  unfold browserSessionUp
  split
  · exact .refl s
  · refine serves_delta hl (by rw [hop]; rfl) hresync fun p hs hs' => ?_
    generalize s.withSession proxyId (advanced g now) = s' at hs' ⊢
    split
    · exact serves_forceResync hs' hl hresync
    · split
      · exact serves_refuseBrowserSession
      · exact serves_withBrowserSession hs' rfl

lemma serves_browserSessionDown (hop : l.op = .browserSessionDown proxyId incarnation g i) :
    Serves sizes l kept s (s.browserSessionDown sizes proxyId incarnation g i now).turn := by
  have hl : l.op.session = some ⟨proxyId, incarnation⟩ := by rw [hop]; rfl
  have hresync : l.op.mayResync = true := by rw [hop]; rfl
  refine serves_delta hl (by rw [hop]; rfl) hresync fun p hs hs' => ?_
  split
  · exact .quiet (core_withSession_quiet fun _ _ => rfl) (phase_withSession_quiet fun _ _ => rfl) id
  · split
    · exact serves_forceResync hs' hl hresync
    · rename_i row _
      exact serves_withoutBrowserSession hs'

end Chan.Control.ControllerState
