import Chan.Control.Deltas

namespace Chan.Control.ControllerState
open Utf AssocMap Function

variable {s : ControllerState} {sizes : Sizes} {l : ControllerLabel} {kept : Prop}

lemma effectiveOwnerLimit_le (s : ControllerState) (owner : Uuid) (m : Nat) :
    s.effectiveOwnerLimit owner m ≤ s.deploymentLimit := foldl_min_le ..

lemma Exact.card_le (h : s.Exact) (owner : Uuid) (ds : Finset Text)
    (hds : ∀ d ∈ ds, s.core.Occupied (owner, d)) : ds.card ≤ s.distinctForOwner owner :=
  card_le_distinctForOwner s owner ds fun d hd => h.1.pos (hds d hd)

lemma core_insertPending : (s.insertPending K claim).core =
      { s.core with pending := update s.core.pending K (some claim) } :=
  congrArg (fun m => { s.core with pending := m }) (lookup_insert_fun s.pending K claim)

lemma replacePending_spec (K : TunnelKey) (claim : PendingClaim) (s : ControllerState) :
    ((s.removePending K).insertPending K claim).core =
        { s.core with pending := update s.core.pending K (some claim) } ∧
      ((s.removePending K).insertPending K claim).phase = s.phase ∧
      (s.Exact → ((s.removePending K).insertPending K claim).Exact) := by
  refine ⟨?_, ?_, fun he => ?_⟩
  · rw [core_insertPending, core_removePending]
    exact congrArg (fun m => { s.core with pending := m }) (update_idem ..)
  · exact phase_removePending K s
  · have he' : (s.removePending K).Exact := he.removePendings [K]
    have hnone : (s.removePending K).pending.lookup K = none := by
      have h := congrArg (fun c : Core => c.pending K) (core_removePending K s)
      exact h.trans (update_self ..)
    exact ⟨he'.1.insertPending claim hnone, he'.2⟩

lemma plain_admissionEffect (s : ControllerState) (h : decision ≠ .admits) :
    (s.admissionEffect k requestId registrationId decision).Plain := by
  cases decision with
  | admits => exact absurd rfl h
  | atCapacity => trivial
  | controlWarming => trivial
  | stale => trivial

lemma serves_decideAdmission (hs : s.session k = some p)
    (hready : s.ready = true) (htold : p.fleetReady = true)
    (hop : l.op = .requestAdmission k.proxyId k.incarnation requestId registrationId K.1 K.2 m e) :
    Serves sizes l kept s (s.decideAdmission k q requestId registrationId K m now) := by
  obtain ⟨hk, hp⟩ := current_of_session hs
  unfold decideAdmission
  dsimp only
  split
  · rename_i hsame
    obtain ⟨claim, hclaim, hof⟩ := (Option.any_eq_true _ _).1 hsame
    obtain ⟨hsession, _, _⟩ := of_decide_eq_true hof
    have hoccupied : s.core.Occupied K := .inr (Option.isSome_iff_exists.2 ⟨claim, hclaim⟩)
    have hlookup := lookup_modify_fun K
      (fun c : PendingClaim => { c with expiresAt := now + admissionClaimTtl }) s.pending
    rw [hclaim, Option.map_some] at hlookup
    refine .keep rfl (Runs.move (fun he => ⟨he.1.modifyPending, he.2⟩) fun _ _ => ?_)
    have hof : ({ claim with expiresAt := now + admissionClaimTtl } : PendingClaim).session = k :=
      hsession
    have hplain : ∀ e ∈ ([] : List Effect), e.Plain := nofun
    exact (Move.claim hop hready hk htold hof (.inl hoccupied) hplain).to
      (congrArg (fun m => { s.core with pending := m }) hlookup)
  · split
    · exact .emit fun e he => List.mem_singleton.1 he ▸ plain_admissionEffect s nofun
    · rename_i hroom
      split
      · exact .emit fun e he => List.mem_singleton.1 he ▸ plain_admissionEffect s nofun
      · obtain ⟨hcore, hphase, hexact⟩ := replacePending_spec K
          ⟨k, requestId, registrationId, m, now + admissionClaimTtl⟩ s
        refine .keep hphase (Runs.move hexact fun _ he => ?_)
        refine (Move.claim hop hready hk htold rfl ?_ fun e hmem => ?_).to hcore
        · by_cases hoccupied : s.core.Occupied K
          · exact .inl hoccupied
          · refine .inr fun ds hds => ?_
            obtain ⟨ht, hp⟩ := not_or.1 hoccupied
            have hlt : s.distinctForOwner K.1 < s.effectiveOwnerLimit K.1 m := by
              by_contra hle
              exact hroom ⟨Option.isNone_iff_eq_none.2 (Option.not_isSome_iff_eq_none.1 ht),
                Option.isNone_iff_eq_none.2 (Option.not_isSome_iff_eq_none.1 hp),
                Nat.le_of_not_lt hle⟩
            calc ds.card ≤ s.distinctForOwner K.1 := he.card_le K.1 ds hds
              _ < s.effectiveOwnerLimit K.1 m := hlt
              _ ≤ s.core.limit := s.effectiveOwnerLimit_le K.1 m
        · cases hclaim : s.pending.lookup K with
          | none =>
            rw [hclaim] at hmem
            cases hmem
          | some claim =>
            rw [hclaim] at hmem
            exact List.mem_singleton.1 hmem ▸ plain_admissionEffect s nofun

lemma serves_requestAdmission
    (hop : l.op = .requestAdmission proxyId incarnation requestId registrationId ownerUserId
      devserverId m e) :
    Serves sizes l kept s (s.requestAdmission proxyId incarnation requestId registrationId
      ownerUserId devserverId m e now wallNow).turn := by
  unfold requestAdmission
  split
  · exact .refl s
  · refine Serves.requireKey fun p hs => ?_
    have htouch : Serves sizes l kept s (s.touch ⟨proxyId, incarnation⟩ now, []) :=
      serves_touch _ now
    refine htouch.before ?_
    dsimp only
    split
    · exact .emit fun e he => List.mem_singleton.1 he ▸ plain_admissionEffect _ nofun
    · rename_i hwarm
      obtain ⟨hready, htold⟩ := not_or.1 hwarm
      have hs' : (s.touch ⟨proxyId, incarnation⟩ now).session ⟨proxyId, incarnation⟩ =
        some { p with lastSeen := now } := session_withSession hs rfl
      have htold : p.fleetReady = true :=
        (Bool.and_eq_true_iff.1 (Bool.eq_true_of_not_eq_false htold)).2
      exact serves_decideAdmission hs' (Bool.eq_true_of_not_eq_false hready) htold hop

lemma serves_cancelAdmission : Serves sizes l kept s
      (s.cancelAdmission proxyId incarnation requestId registrationId now).turn := by
  refine Serves.requireKey fun p _ => ?_
  have htouch : Serves sizes l kept s (s.touch ⟨proxyId, incarnation⟩ now, []) :=
    serves_touch _ now
  refine htouch.before ?_
  dsimp only
  split
  · exact .refl _
  · exact serves_removePending

lemma serves_renewRow (hs : s.session k = some p)
    (hrow : p.rows.lookup i = some old) (lease : Lease) (hl : l.op.session = some k) :
    Serves sizes l kept s (s.renewRow sizes k i old (lease.renew old), []) := by
  obtain ⟨hk, hp⟩ := current_of_session hs
  have hphase : (s.withSession k.proxyId (withRenewedRow sizes i old (lease.renew old))).phase =
    s.phase := phase_withSession_quiet fun _ _ => rfl
  have hlive : (withRenewedRow sizes i old (lease.renew old) p).live =
      { p.live with rows := update p.live.rows i (some (lease.renew old)) } :=
    congrArg (fun m => { p.live with rows := m }) (lookup_insert_fun p.rows i (lease.renew old))
  have hcore := core_withSession (f := withRenewedRow sizes i old (lease.renew old)) hp
  rw [hlive] at hcore
  refine .keep hphase (Runs.move (fun he => ⟨he.1.modifyTunnel _ _, he.2⟩) fun _ _ => ?_)
  have hid : (lease.renew old).registrationId = old.registrationId := rfl
  refine (Move.renewRow hk hrow hid rfl hl).to ?_
  show { (s.withSession k.proxyId (withRenewedRow sizes i old (lease.renew old))).core with
    tunnels := (AssocMap.modify (lease.renew old).key (fun o : OwnedTunnel =>
      if o.session = k ∧ o.row.registrationId = i then { o with row := lease.renew old } else o)
      s.tunnels).lookup } = _
  rw [hcore, lookup_modify_fun]
  rfl

lemma serves_refreshLease (hop : l.op = .refreshLease proxyId incarnation i lease) :
    Serves sizes l kept s (s.refreshLease sizes proxyId incarnation i lease now wallNow).turn := by
  have hl : l.op.session = some ⟨proxyId, incarnation⟩ := by rw [hop]; rfl
  have hi : i ∈ l.op.registrations := by rw [hop]; exact List.mem_cons_self
  unfold refreshLease
  split
  · exact .refl s
  · refine Serves.requireKey fun p hs => ?_
    have htouch : Serves sizes l kept s (s.touch ⟨proxyId, incarnation⟩ now, []) :=
      serves_touch _ now
    have hs' : (s.touch ⟨proxyId, incarnation⟩ now).session ⟨proxyId, incarnation⟩ =
      some { p with lastSeen := now } := session_withSession hs rfl
    dsimp only
    split
    · exact htouch
    · split
      · exact htouch
      · rename_i old hold
        split
        · exact htouch.before (serves_refuseRegistration hs' hl hi)
        · split
          · exact htouch.before (serves_refuseRegistration hs' hl hi)
          · exact htouch.before (serves_renewRow hs' hold lease hl)

lemma serves_recordActivity :
    Serves sizes l kept s (s.recordActivity proxyId incarnation now).turn :=
  Serves.requireKey fun _ _ => serves_touch _ now

lemma serves_pong : Serves sizes l kept s (s.pong proxyId incarnation nonce now).turn := by
  refine Serves.requireKey fun p _ => ?_
  split
  · have hquiet : Serves sizes l kept s (s.withSession proxyId fun p =>
        { p with outstandingPings := p.outstandingPings.erase nonce }, []) :=
      .quiet (core_withSession_quiet fun _ _ => rfl) (phase_withSession_quiet fun _ _ => rfl) id
    exact hquiet.before (serves_touch _ now)
  · exact .refl s

end Chan.Control.ControllerState
