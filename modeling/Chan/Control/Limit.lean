import Chan.Control.Authority

namespace Chan.Control
open Utf AssocMap Function Transition ControllerState

variable {s : ControllerState}

namespace ControllerState

def occupiedBy (s : ControllerState) (owner : Uuid) : Nat :=
  (idsOf owner (s.tunnels.keys ++ s.pending.keys)).length

lemma occupied_of_mem (h : d ∈ (idsOf owner (s.tunnels.keys ++ s.pending.keys)).toFinset) :
    s.core.Occupied (owner, d) := by
  rw [List.mem_toFinset, mem_idsOf, List.mem_append] at h
  exact h.imp (fun h => AList.lookup_isSome.2 (AList.mem_keys.1 h))
    fun h => AList.lookup_isSome.2 (AList.mem_keys.1 h)

lemma occupiedBy_eq_card :
    s.occupiedBy owner = (idsOf owner (s.tunnels.keys ++ s.pending.keys)).toFinset.card :=
  (List.toFinset_card_of_nodup (List.nodup_dedup _)).symm

lemma Valid.occupiedBy_le (h : s.Valid sizes) :
    s.occupiedBy owner ≤ s.deploymentLimit := by
  rw [occupiedBy_eq_card]
  exact h.sound.within owner _ fun _ => occupied_of_mem

lemma Valid.occupiedBy_le_distinct (h : s.Valid sizes) :
    s.occupiedBy owner ≤ s.distinctForOwner owner := by
  rw [occupiedBy_eq_card]
  exact h.indexed.card_le owner _ fun _ => occupied_of_mem

lemma room_of_admit (h : .send k (.admissionDecision i j .admits) a ∈
      (s.decideAdmission key p requestId registrationId K m now).2)
    (ht : s.tunnels.lookup K = none) (hp : s.pending.lookup K = none) :
    s.distinctForOwner K.1 < s.effectiveOwnerLimit K.1 m := by
  unfold decideAdmission at h
  rw [ht, hp] at h
  by_contra hroom
  rw [if_neg (by simp), if_pos ⟨rfl, rfl, Nat.le_of_not_lt hroom⟩] at h
  cases List.mem_singleton.1 h

lemma room_of_requestAdmission
    (h : .send k (.admissionDecision i j .admits) a ∈ (s.requestAdmission proxyId incarnation
      requestId registrationId owner devserverId m e now wallNow).turn.2)
    (ht : s.tunnels.lookup (owner, devserverId) = none)
    (hp : s.pending.lookup (owner, devserverId) = none) :
    s.distinctForOwner owner < s.effectiveOwnerLimit owner m := by
  unfold requestAdmission at h
  split at h
  · cases h
  unfold requireKey at h
  split at h
  · cases h
  dsimp only at h
  split at h
  · cases List.mem_singleton.1 h
  · exact room_of_admit (s := s.touch _ now) h ht hp

end ControllerState

lemma Move.requested (h : Move sizes l kept c es c')
    (he : .send k (.admissionDecision i j .admits) a ∈ es) :
    ∃ p n owner devserverId m e,
      l.op = .requestAdmission p n i j owner devserverId m e := by
  cases h with
  | emit hes _ => exact (hes _ he).elim
  | claim hop _ _ _ _ _ hes =>
    rcases List.mem_append.1 he with he | he
    · exact (hes _ he).elim
    · cases List.mem_singleton.1 he
      exact ⟨_, _, _, _, _, _, hop⟩
  | converge _ _ _ _ _ _ _ =>
    obtain ⟨k', _, heq⟩ := List.mem_map.1 he
    cases heq
  | settleCommand _ =>
    split at he
    · cases List.mem_singleton.1 he
    · cases he
  | snapshot | kill | revoke | settleRevocation | resync | join => cases List.mem_singleton.1 he
  | _ => cases he

lemma Move.limit (h : Move sizes l kept c es c') : c'.limit = c.limit := by
  cases h <;> rfl

namespace ControllerState

lemma tunnels_issueKills (groups : List (SessionKey × List Uuid)) (purpose : CommandPurpose)
    (now : Instant) (s : ControllerState) :
    (s.issueKills groups purpose now).1.tunnels = s.tunnels := by
  induction groups generalizing s with
  | nil => rfl
  | cons g groups ih => exact ih (s.issueKill g.1 g.2 purpose now).1

lemma tunnels_startReconciliation :
    (s.startReconciliation kind losers now).1.tunnels = s.tunnels := by
  exact tunnels_issueKills _ _ now s

lemma tunnels_completeJoin : (s.completeJoin joining boot t).1.tunnels = t := by
  obtain ⟨occupancy, heq⟩ := s.replaceTunnels_eq t
  obtain ⟨_, _, _, _, _, hclear, _⟩ := clearOrphans_eq
  have hjoined : (s.joinedWith joining t).tunnels = t := congrArg ControllerState.tunnels heq
  exact (congrArg ControllerState.tunnels hclear).trans hjoined

lemma reconcileWith_keeps (ho : s.tunnels.lookup K = some o)
    (hkeep : o.session.proxyId ≠ joining.proxyId ∨ s.ownsAggregateRows o.session = true) :
    (s.reconcileWith joining p now).1.tunnels.lookup K = some o := by
  have hplan := joiningPlan_spec s joining (p.rows.entries.map fun r => r.2)
  unfold reconcileWith
  dsimp only
  split
  · rw [tunnels_completeJoin]
    exact hplan.keeps K o (lookup_liveFor.2 ⟨ho, hkeep⟩)
  · rw [tunnels_startReconciliation]
    exact ho

lemma installSnapshot_keeps (ho : s.tunnels.lookup K = some o)
    (hp : o.session.proxyId ≠ key.proxyId) :
    (s.installSnapshot key g snapshot refused now).1.tunnels.lookup K = some o := by
  unfold installSnapshot
  dsimp only
  generalize hs' : (if refused = [] then _ else _ : Turn) = t
  have ht : t.1.tunnels.lookup K = some o := by
    rw [← hs']
    split <;> exact ho
  split
  · unfold reconcileJoining
    split
    · rename_i h
      split at h
      · cases h
      · split at h
        · exact ht
        · cases h
    · grind [Turn.answer, reconcileWith_keeps]
  · exact ht

lemma acceptSnapshot_keeps (ho : s.tunnels.lookup K = some o)
    (hp : o.session.proxyId ≠ proxyId) :
    (s.acceptSnapshot sizes proxyId incarnation g rows refused browser now
      wallNow).1.tunnels.lookup K = some o := by
  unfold acceptSnapshot
  split
  · exact ho
  · grind [requireKey, installSnapshot_keeps]

end ControllerState

namespace Controller

variable {sizes : Sizes}

lemma maxDevservers_exec (he : exec (step sizes) (new limit) ls = some c) :
    c.state.core.limit = (ControllerState.new limit).deploymentLimit :=
  exec_moves (I := fun c _ => c.limit = (ControllerState.new limit).deploymentLimit)
    (fun hm _ h => hm.limit.trans h) (valid_new) rfl he

/-- No owner is over the limit, an admission to a new key finds room, a join displaces nothing but
what an earlier session of its own proxy left, and only told sessions of a ready controller have
claims. -/
theorem owners_within_limit (hlimit : 0 < limit)
    (he : exec (step sizes) (new limit) ls = some c) :
    (∀ owner, c.state.occupiedBy owner ≤ limit) ∧
    (∀ l k i j a, .send k (.admissionDecision i j .admits) a ∈ (c.state.call sizes l).turn.2 →
      ∃ p n owner devserverId m e, l.op = .requestAdmission p n i j owner devserverId m e ∧
        (c.state.tunnels.lookup (owner, devserverId) = none →
          c.state.pending.lookup (owner, devserverId) = none →
          c.state.occupiedBy owner < c.state.effectiveOwnerLimit owner m)) ∧
    (∀ l p n g rows refused browser, l.op = .acceptSnapshot p n g rows refused browser →
      ∀ K o, c.state.tunnels.lookup K = some o → o.session.proxyId ≠ p →
        (c.state.call sizes l).1.tunnels.lookup K = some o) ∧
    (∀ (s : ControllerState) joining p now K o, s.tunnels.lookup K = some o →
      o.session.proxyId ≠ joining.proxyId ∨ s.ownsAggregateRows o.session = true →
      (s.reconcileWith joining p now).1.tunnels.lookup K = some o) ∧
    ∀ K claim, c.state.pending.lookup K = some claim → c.state.ready = true ∧
      ∃ p, c.state.session claim.session = some p ∧ p.status = .active ∧ p.fleetReady = true := by
  have hvalid := valid_exec he
  refine ⟨fun owner => ?_, fun l k i j a ha => ?_, fun l p n g rows refused browser hop K o ho hp =>
    ?_, fun s joining p now K o => reconcileWith_keeps, fun K claim hclaim => ?_⟩
  · have hmax : c.state.deploymentLimit = limit :=
      (maxDevservers_exec he).trans (if_neg (Nat.ne_of_gt hlimit))
    exact hmax ▸ hvalid.occupiedBy_le
  · obtain ⟨p, n, owner, devserverId, m, e, hop⟩ :=
      (moves_call hvalid l).emits (I := fun _ => True)
        (P := fun e => e = .send k (.admissionDecision i j .admits) a → ∃ p n owner devserverId m e,
          l.op = .requestAdmission p n i j owner devserverId m e)
        (fun _ _ => trivial) (fun hm _ e he heq => hm.requested (heq ▸ he)) trivial _ ha rfl
    refine ⟨p, n, owner, devserverId, m, e, hop, fun ht hp => ?_⟩
    rw [ControllerState.call, hop] at ha
    exact (hvalid.occupiedBy_le_distinct).trans_lt
      (room_of_requestAdmission ha ht hp)
  · rw [ControllerState.call, hop]
    exact acceptSnapshot_keeps ho hp
  · obtain ⟨hready, x, hx, htold⟩ := hvalid.sound.claims K claim hclaim
    obtain ⟨p, hp, rfl⟩ := session_of_current hx
    exact ⟨hready, p, hp, (hvalid.sound.proper _ _ hx.1).1.told htold, htold⟩

theorem owners_within_limit_converging : ∃ c, exec (step .unit) (new 3) converging = some c ∧
    c.state.occupiedBy 1 ≤ 3 := by
  have hsome : (exec (step .unit) (new 3) converging).isSome = true := by decide +kernel
  obtain ⟨c, he⟩ := Option.isSome_iff_exists.1 hsome
  exact ⟨c, he, (owners_within_limit (by decide) he).1 1⟩

/-- Two proxies converge, one leaves a row, comes back and claims the key anew. -/
def rejoining : List ControllerLabel :=
  [.second 0 (.beginSession ['a'] [] 7), .second 0 (.acceptSnapshot ['a'] 1 0 [.sample 1] [] []),
    .second 0 (.beginSession ['b'] [] 8), .second 0 (.acceptSnapshot ['b'] 2 0 [] [] []),
    .second 29 (.recordActivity ['a'] 1), .second 29 (.recordActivity ['b'] 2), .second 30 .tick,
    .second 31 (.disconnect ['a'] 1), .second 32 (.beginSession ['a'] [] 7)]

theorem rejoin_displaces_left_row : (exec (step .unit) (new 3) rejoining).map (fun c =>
      ((c.state.tunnels.lookup (1, ['d'])).map fun o => o.row.registrationId,
        ((c.state.call .unit (.second 32 (.acceptSnapshot ['a'] 3 0 [.sample 2] [] []))
          ).1.tunnels.lookup (1, ['d'])).map fun o => o.row.registrationId)) =
      some (some 1, some 2) := by
  decide +kernel

end Controller

end Chan.Control
