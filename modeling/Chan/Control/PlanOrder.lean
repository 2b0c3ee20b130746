import Chan.Control.Plans

namespace Chan.Control
open Utf AssocMap List

lemma TunnelKey.le_iff : TunnelKey.le a b = true ↔ toLex a ≤ toLex b := by
  rw [TunnelKey.le, Prod.Lex.le_iff, Bool.or_eq_true, Bool.and_eq_true, beq_iff_eq,
    decide_eq_true_eq, decide_eq_true_eq]
  exact Iff.rfl

lemma groupedKeys_perm (h : rows.Perm rows') : groupedKeys rows = groupedKeys rows' := by
  have : Std.Total fun a b => TunnelKey.le a b = true :=
    ⟨fun a b => by simpa only [TunnelKey.le_iff] using le_total (toLex a) (toLex b)⟩
  have : IsTrans TunnelKey fun a b => TunnelKey.le a b = true :=
    ⟨fun a b c => by simpa only [TunnelKey.le_iff] using le_trans⟩
  refine List.Perm.eq_of_pairwise (fun a b _ _ hab hba => ?_)
    (pairwise_insertionSort (fun a b => TunnelKey.le a b = true) _)
    (pairwise_insertionSort (fun a b => TunnelKey.le a b = true) _) ?_
  · exact toLex.injective (le_antisymm (TunnelKey.le_iff.1 hab) (TunnelKey.le_iff.1 hba))
  · exact (perm_insertionSort _ _).trans
      ((h.map TunnelRow.key).dedup.trans (perm_insertionSort _ _).symm)

lemma nodup_groupedKeys : (groupedKeys rows).Nodup :=
  (perm_insertionSort _ _).nodup_iff.2 (nodup_dedup _)

lemma mem_firstOfEach (hids : ∀ o ∈ losers, ∀ o' ∈ losers,
    o.row.registrationId = o'.row.registrationId → o = o') : o ∈ firstOfEach losers ↔
    o ∈ losers := by
  have hfold : ∀ (os kept : List OwnedTunnel), (∀ o ∈ kept, o ∈ losers) → (∀ o ∈ os, o ∈ losers) →
      ∀ o, o ∈ kept ∨ o ∈ os → o ∈ os.foldl (fun kept o =>
        if kept.any fun k => k.row.registrationId == o.row.registrationId then kept
        else kept ++ [o]) kept := by
    intro os
    induction os with
    | nil => grind
    | cons o os ih =>
      intro kept hkept hos
      rw [foldl_cons]
      grind
  exact ⟨fun ho => ControllerState.firstOfEach_subset losers ho,
    fun ho => hfold losers [] nofun (fun _ h => h) o (.inr ho)⟩

namespace ControllerState

lemma foldl_min_le_of_mem {l : List Nat} (h : a ∈ l) (n : Nat) : l.foldl min n ≤ a := by
  induction h generalizing n with
  | head l => exact (foldl_min_le l _).trans (min_le_right ..)
  | tail _ _ ih => exact ih _

lemma signedLimit_le_of_mem (s : ControllerState) (h : (owner, n) ∈ limits) :
    s.signedLimit limits owner ≤ n :=
  foldl_min_le_of_mem (List.mem_map.2 ⟨_, List.mem_filter.2 ⟨h, decide_eq_true rfl⟩, rfl⟩) _

lemma signedLimit_perm (s : ControllerState) (h : limits.Perm limits') :
    s.signedLimit limits = s.signedLimit limits' := by
  funext owner
  exact ((h.filter _).map _).foldl_eq _

section Restart
variable {s : ControllerState} {candidates : List OwnedTunnel}

lemma nodup_winners (hnodup : candidates.Nodup) : (s.winners candidates).Nodup := by
  refine List.nodup_flatMap.2 ⟨fun K _ => hnodup.filter _, ?_⟩
  refine ((nodup_groupedKeys).filter _).imp ?_
  intro K K' hne o ho ho'
  exact hne ((mem_contenders.1 ho).2.symm.trans (mem_contenders.1 ho').2)

lemma winners_perm (h : candidates.Perm candidates') :
    s.winners candidates = s.winners candidates' := by
  have hgroup : ∀ K, (contenders candidates K).Perm (contenders candidates' K) :=
      fun K => h.filter _
  have hwins : ∀ K, s.Wins candidates K ↔ s.Wins candidates' K := fun K => by
    rw [Wins, Wins, (hgroup K).length_eq]
  rw [winners, winners, groupedKeys_perm (h.map _)]
  simp only [hwins]
  refine flatMap_congr fun K hK => ?_
  obtain ⟨o, ho⟩ := List.length_eq_one_iff.1 (of_decide_eq_true (List.mem_filter.1 hK).2).1
  rw [ho]
  exact (ho ▸ hgroup K).eq_singleton

lemma mem_losers (hids : (candidates.map fun o => o.row.registrationId).Nodup) :
    o ∈ (s.initialReconciliationPlan candidates).2 ↔
      (o ∈ candidates ∧ ¬s.Wins candidates o.row.key) ∨
      o ∈ (s.winnersOf candidates o.row.ownerUserId).drop
      (s.limitOf candidates o.row.ownerUserId) := by
  have hmem : ∀ {x}, x ∈ ((groupedKeys (candidates.map OwnedTunnel.row)).filter
        fun K => !decide (s.Wins candidates K)).flatMap (contenders candidates) ++
      ((s.winners candidates).map fun o => o.row.ownerUserId).dedup.flatMap
        (fun owner => (s.winnersOf candidates owner).drop (s.limitOf candidates owner)) ↔
      (x ∈ candidates ∧ ¬s.Wins candidates x.row.key) ∨
      x ∈ (s.winnersOf candidates x.row.ownerUserId).drop
        (s.limitOf candidates x.row.ownerUserId) := by
    intro x
    rw [mem_append, mem_groups, Bool.not_eq_true', decide_eq_false_iff_not,
      mem_owned fun _ => drop_subset ..]
  have hcandidate : ∀ {x}, _ → x ∈ candidates := fun hx => (hmem.1 hx).elim And.left fun hx =>
    (mem_winners.1 (List.mem_filter.1 (mem_of_mem_drop hx)).1).1
  exact (mem_firstOfEach fun x hx x' hx' hid =>
    inj_on_of_nodup_map hids (hcandidate hx) (hcandidate hx') hid).trans hmem

end Restart

/-- The plan of a restart splits the candidates: each is published or refused, those of a key with
several or in quarantine are refused, and what is published of an owner is within every limit. -/
structure SplitsRestart (s : ControllerState) (candidates : List OwnedTunnel)
    (plan : Map TunnelKey OwnedTunnel × List OwnedTunnel) : Prop where
  split : ∀ o ∈ candidates, Xor (plan.1.lookup o.row.key = some o) (o ∈ plan.2)
  desired : ∀ K o, plan.1.lookup K = some o → o ∈ candidates ∧ o.row.key = K
  refused : ∀ o ∈ plan.2, o ∈ candidates
  contested : ∀ o ∈ candidates, (2 ≤ (candidates.filter fun o' => o'.row.key = o.row.key).length ∨
    o.row.key ∈ s.quarantinedRestartKeys) → o ∈ plan.2
  capped : ∀ owner (ds : Finset Text), (∀ d ∈ ds, (plan.1.lookup (owner, d)).isSome) →
    ds.card ≤ s.deploymentLimit ∧
      ∀ o ∈ candidates, o.row.ownerUserId = owner → ds.card ≤ o.row.maxConnectedDevservers

lemma splitsRestart (s : ControllerState) {candidates : List OwnedTunnel}
    (hids : (candidates.map fun o => o.row.registrationId).Nodup) :
    s.SplitsRestart candidates (s.initialReconciliationPlan candidates) := by
  obtain ⟨hdesired, -, hrefused⟩ := initialPlan_spec s candidates
  refine ⟨fun o ho => ?_, hdesired, hrefused, fun o ho hlost => ?_, fun owner ds hds => ?_⟩
  · have hdisjoint := disjoint_take_drop ((nodup_winners (s := s) hids.of_map).filter
      fun x => decide (x.row.ownerUserId = o.row.ownerUserId))
      (le_refl (s.limitOf candidates o.row.ownerUserId))
    have hmem : o ∈ s.winnersOf candidates o.row.ownerUserId ↔ s.Wins candidates o.row.key := by
      rw [winnersOf, mem_filter, mem_winners, decide_eq_true_eq]
      exact ⟨fun h => h.1.2, fun h => ⟨⟨ho, h⟩, rfl⟩⟩
    rw [← take_append_drop (s.limitOf candidates o.row.ownerUserId) (s.winnersOf candidates _),
      mem_append] at hmem
    rw [lookup_initialPlan, mem_losers hids]
    rw [Xor]
    tauto
  · refine (mem_losers hids).2 (.inl ⟨ho, fun hwins => ?_⟩)
    rcases hlost with hlost | hlost
    · exact absurd hwins.1 (Nat.ne_of_gt hlost)
    · exact hwins.2 hlost
  · have hcard := initialPlan_card owner ds hds
    refine ⟨hcard.trans (signedLimit_le ..), ?_⟩
    rintro o ho rfl
    exact hcard.trans (signedLimit_le_of_mem s
      (List.mem_map.2 ⟨o.row, mem_map_of_mem ho, rfl⟩))

lemma initialPlan_perm (s : ControllerState) {candidates candidates' : List OwnedTunnel}
    (h : candidates.Perm candidates')
    (hids : (candidates.map fun o => o.row.registrationId).Nodup) :
    (s.initialReconciliationPlan candidates').1 = (s.initialReconciliationPlan candidates).1 ∧
    ∀ o, o ∈ (s.initialReconciliationPlan candidates').2 ↔
      o ∈ (s.initialReconciliationPlan candidates).2 := by
  have hwinners := winners_perm (s := s) h
  have hlimit : s.limitOf candidates = s.limitOf candidates' :=
    signedLimit_perm s ((h.map _).map _)
  have hwins : ∀ K, s.Wins candidates K ↔ s.Wins candidates' K := fun K => by
    rw [Wins, Wins, contenders, contenders, (h.filter _).length_eq]
  constructor
  · show List.foldl _ _ (List.flatMap (fun owner => List.take (s.limitOf candidates' owner)
      ((s.winners candidates').filter _)) (List.dedup (List.map _ (s.winners candidates')))) = _
    rw [← hwinners, ← hlimit]
    rfl
  · intro o
    rw [mem_losers hids, mem_losers ((h.map _).nodup_iff.1 hids), winnersOf, winnersOf, hwinners,
      hlimit, hwins, h.mem_iff]

def joinUrl (s : ControllerState) (joining : SessionKey) : Text :=
  (s.proxies.lookup joining.proxyId).elim [] ProxySession.baseUrl

/-- The plan gives a row a key that nobody else has. -/
def Admits (s : ControllerState) (joining : SessionKey)
    (plan : Map TunnelKey OwnedTunnel × List OwnedTunnel) (row : TunnelRow) : Prop :=
  (s.liveFor joining).lookup row.key = none ∧
    plan.1.lookup row.key = some ⟨joining, s.joinUrl joining, row⟩

def joinLimit (s : ControllerState) (joining : SessionKey) (rows : List TunnelRow) : Uuid → Nat :=
  s.signedLimit ((s.liveFor joining).entries.map
    (fun e => (e.1.1, e.2.row.maxConnectedDevservers)) ++
    s.pending.entries.map (fun e => (e.1.1, e.2.maxConnectedDevservers)) ++
    rows.map TunnelRow.limit)

/-- What the plan of a join has after some keys. -/
structure SplitsKeys (s : ControllerState) (joining : SessionKey) (rows : List TunnelRow)
    (done : TunnelKey → Prop) (acc : Map TunnelKey OwnedTunnel × List OwnedTunnel) : Prop where
  split : ∀ row ∈ rows, done row.key →
    Xor (s.Admits joining acc row) (⟨joining, s.joinUrl joining, row⟩ ∈ acc.2)
  ahead : ∀ K, ¬done K → acc.1.lookup K = (s.liveFor joining).lookup K
  behind : ∀ o ∈ acc.2, done o.row.key
  unclaimed : ∀ K o, acc.1.lookup K = some o → (s.liveFor joining).lookup K = some o ∨
    (s.liveFor joining).lookup K = none ∧ s.pending.lookup K = none
  room : ∀ K o, acc.1.lookup K = some o → (s.liveFor joining).lookup K = none →
    (idsOf K.1 (acc.1.keys ++ s.pending.keys)).length ≤ s.joinLimit joining rows K.1

lemma length_idsOf_insert (m : Map TunnelKey OwnedTunnel) (K : TunnelKey) (o : OwnedTunnel)
    (keys : List TunnelKey) (owner : Uuid) :
    (idsOf owner ((m.insert K o).keys ++ keys)).length ≤
      (idsOf owner (m.keys ++ keys)).length + if owner = K.1 then 1 else 0 := by
  have hmem : ∀ d, d ∈ idsOf owner ((m.insert K o).keys ++ keys) →
      (owner, d) = K ∨ d ∈ idsOf owner (m.keys ++ keys) := by
    intro d hd
    rw [mem_idsOf, mem_append, ← AList.mem_keys, AList.mem_insert] at hd
    rw [mem_idsOf, mem_append, ← AList.mem_keys]
    tauto
  have hnodup : (idsOf owner ((m.insert K o).keys ++ keys)).Nodup := nodup_dedup _
  split
  · have hsub : idsOf owner ((m.insert K o).keys ++ keys) ⊆ idsOf owner (m.keys ++ keys) ++
        [K.2] := by
      grind
    have hle := (subperm_of_subset hnodup hsub).length_le
    rwa [length_append] at hle
  · exact (subperm_of_subset hnodup (by grind)).length_le

lemma SplitsKeys.joinKey (h : SplitsKeys s joining rows done acc) (hK : ¬done K) :
    SplitsKeys s joining rows (fun K' => K' = K ∨ done K')
      (s.joinKey joining (s.joinUrl joining) rows (s.joinLimit joining rows) acc K) := by
  have hnew : ∀ row : TunnelRow, row.key = K → ⟨joining, s.joinUrl joining, row⟩ ∉ acc.2 :=
    fun row hkey hmem => hK (hkey ▸ h.behind _ hmem)
  rcases joinKey_cases with
    heq | ⟨row, hrow, hfree, hpending, hroom, heq⟩
  · rw [heq]
    refine ⟨fun r hr hdone => ?_, fun K' hK' => h.ahead K' (fun h => hK' (.inr h)), fun o ho => ?_,
      h.unclaimed, h.room⟩
    · have hmem : (⟨joining, s.joinUrl joining, r⟩ : OwnedTunnel) ∈ (rows.filter
          fun row => row.key = K).map (fun row => ⟨joining, s.joinUrl joining, row⟩) ↔
          r.key = K := by
        simp [hr]
      rw [mem_append, hmem]
      by_cases hkey : r.key = K
      · refine .inr ⟨.inr hkey, fun hadmits => ?_⟩
        cases hadmits.1.symm.trans ((h.ahead _ (hkey ▸ hK)).symm.trans hadmits.2)
      · rw [iff_false_intro hkey, or_false]
        exact h.split r hr (hdone.resolve_left hkey)
    · rcases List.mem_append.1 ho with ho | ho
      · exact .inr (h.behind o ho)
      · obtain ⟨r, hr, rfl⟩ := List.mem_map.1 ho
        exact .inl (of_decide_eq_true (List.mem_filter.1 hr).2)
  · have hlive : (s.liveFor joining).lookup K = none := (h.ahead K hK).symm.trans hfree
    have hgrown := length_idsOf_insert acc.1 K ⟨joining, s.joinUrl joining, row⟩ s.pending.keys
    rw [heq]
    refine ⟨fun r hr hdone => ?_, fun K' hK' => ?_, fun o ho => .inr (h.behind o ho),
      fun K' o ho => ?_, fun K' o ho hnone => ?_⟩
    · by_cases hkey : r.key = K
      · have hsame : r = row := List.mem_singleton.1
          (hrow ▸ List.mem_filter.2 ⟨hr, decide_eq_true hkey⟩)
        subst hsame
        refine .inl ⟨⟨hkey ▸ hlive, ?_⟩, hnew r hkey⟩
        rw [hkey, AList.lookup_insert]
      · rw [Admits, AList.lookup_insert_ne hkey]
        exact h.split r hr (hdone.resolve_left hkey)
    · rw [not_or] at hK'
      rw [AList.lookup_insert_ne hK'.1]
      exact h.ahead K' hK'.2
    · rcases lookup_insert_eq_some ho with ⟨rfl, -⟩ | ⟨-, ho⟩
      · exact .inr ⟨hlive, hpending⟩
      · exact h.unclaimed K' o ho
    · refine (hgrown K'.1).trans ?_
      split
      · rename_i howner
        rw [howner]
        exact hroom
      · rename_i howner
        rcases lookup_insert_eq_some ho with ⟨rfl, -⟩ | ⟨-, ho⟩
        · exact absurd rfl howner
        · exact h.room K' o ho hnone

lemma SplitsKeys.foldl {keys : List TunnelKey} (h : SplitsKeys s joining rows done acc)
    (hkeys : keys.Nodup)
    (hfresh : ∀ K ∈ keys, ¬done K) :
    SplitsKeys s joining rows (fun K => K ∈ keys ∨ done K)
      (keys.foldl (s.joinKey joining (s.joinUrl joining) rows (s.joinLimit joining rows)) acc) := by
  induction keys generalizing done acc with
  | nil => simpa using h
  | cons K keys ih =>
    rw [nodup_cons] at hkeys
    have hrest := ih (h.joinKey (hfresh K mem_cons_self)) hkeys.2 (by grind)
    have hdone : (fun K' => K' ∈ keys ∨ K' = K ∨ done K') = fun K' => K' ∈ K :: keys ∨ done K' := by
      grind
    rw [hdone] at hrest
    exact hrest

lemma splitsKeys (s : ControllerState) (joining : SessionKey) (rows : List TunnelRow) :
    SplitsKeys s joining rows (fun K => K ∈ groupedKeys rows ∨ False)
      (s.joiningPlan joining rows) := by
  have hstart : SplitsKeys s joining rows (fun _ => False) (s.liveFor joining, []) :=
    ⟨fun _ _ => False.elim, fun _ _ => rfl, nofun, fun _ _ ho => .inl ho,
      fun _ _ ho hnone => by cases hnone.symm.trans ho⟩
  exact hstart.foldl nodup_groupedKeys fun _ _ h => h

/-- The plan of a join splits the rows that join: each gets a key that is free and unclaimed or is
refused, every other proxy keeps what it has, and an owner who gets a row is within every limit. -/
structure SplitsJoin (s : ControllerState) (joining : SessionKey) (rows : List TunnelRow)
    (plan : Map TunnelKey OwnedTunnel × List OwnedTunnel) : Prop where
  split : ∀ row ∈ rows, Xor (s.Admits joining plan row) (⟨joining, s.joinUrl joining, row⟩ ∈ plan.2)
  desired : ∀ K o, plan.1.lookup K = some o → (s.liveFor joining).lookup K = some o ∨
    o.session = joining ∧ o.row ∈ rows ∧ o.row.key = K
  refused : ∀ o ∈ plan.2, o.session = joining ∧ o.row ∈ rows
  kept : ∀ K o, s.tunnels.lookup K = some o → o.session.proxyId ≠ joining.proxyId →
    plan.1.lookup K = some o
  unclaimed : ∀ row, s.Admits joining plan row → s.pending.lookup row.key = none
  capped : ∀ row owner n, s.Admits joining plan row → owner = row.ownerUserId →
    n = (idsOf owner (plan.1.keys ++ s.pending.keys)).length → n ≤ s.deploymentLimit ∧
    (∀ d o, (s.liveFor joining).lookup (owner, d) = some o → n ≤ o.row.maxConnectedDevservers) ∧
    (∀ d claim, s.pending.lookup (owner, d) = some claim → n ≤ claim.maxConnectedDevservers) ∧
    ∀ r ∈ rows, r.ownerUserId = owner → n ≤ r.maxConnectedDevservers

lemma splitsJoin (s : ControllerState) (joining : SessionKey) (rows : List TunnelRow) :
    s.SplitsJoin joining rows (s.joiningPlan joining rows) := by
  have hplan := joiningPlan_spec s joining rows
  have hkeys := splitsKeys s joining rows
  refine ⟨fun row hrow => hkeys.split row hrow (.inl (mem_groupedKeys.2 ⟨row, hrow, rfl⟩)),
    hplan.origin,
    hplan.losers, fun K o ho hother => hplan.keeps K o (lookup_liveFor.2 ⟨ho, .inl hother⟩),
    fun row hadmits => ?_, ?_⟩
  · rcases hkeys.unclaimed _ _ hadmits.2 with hlive | hfree
    · cases hadmits.1.symm.trans hlive
    · exact hfree.2
  · rintro row _ _ hadmits rfl rfl
    have hroom : _ ≤ s.joinLimit joining rows row.ownerUserId := hkeys.room _ _ hadmits.2 hadmits.1
    refine ⟨hroom.trans (signedLimit_le ..), fun d o ho => ?_, fun d claim hclaim => ?_, ?_⟩
    · exact hroom.trans (signedLimit_le_of_mem s (mem_append_left _ (mem_append_left _
        (List.mem_map.2 ⟨_, AList.mem_lookup_iff.1 ho, rfl⟩))))
    · exact hroom.trans (signedLimit_le_of_mem s (mem_append_left _ (mem_append_right _
        (List.mem_map.2 ⟨_, AList.mem_lookup_iff.1 hclaim, rfl⟩))))
    · intro r hr howner
      exact hroom.trans (signedLimit_le_of_mem s (mem_append_right _
        (List.mem_map.2 ⟨r, hr, Prod.ext howner rfl⟩)))

/-- Plans with the same winners, and the same losers in some order. -/
def SamePlan (plan plan' : Map TunnelKey OwnedTunnel × List OwnedTunnel) : Prop :=
  plan.1 = plan'.1 ∧ plan.2.Perm plan'.2

lemma joinKey_perm (s : ControllerState) (h : rows.Perm rows') (hplan : SamePlan plan plan') :
    SamePlan (s.joinKey joining url rows limit plan K)
      (s.joinKey joining url rows' limit plan' K) := by
  have hgroup := h.filter fun row => decide (row.key = K)
  obtain ⟨m, losers⟩ := plan
  obtain ⟨m', losers'⟩ := plan'
  obtain ⟨rfl, hlosers⟩ := hplan
  rw [joinKey, joinKey]
  generalize (rows.filter fun row => decide (row.key = K)) = group at hgroup ⊢
  generalize (rows'.filter fun row => decide (row.key = K)) = group' at hgroup ⊢
  split
  · cases List.singleton_perm.1 hgroup
    dsimp only
    split
    · exact ⟨rfl, hlosers.append_right _⟩
    · exact ⟨rfl, hlosers⟩
  · split
    · rename_i hnot _ row
      exact absurd (List.perm_singleton.1 hgroup) (hnot row)
    · exact ⟨rfl, hlosers.append (hgroup.map _)⟩

lemma joiningPlan_perm (s : ControllerState) (joining : SessionKey) (h : rows.Perm rows') :
    SamePlan (s.joiningPlan joining rows) (s.joiningPlan joining rows') := by
  have hlimit := signedLimit_perm s ((h.map TunnelRow.limit).append_left
    ((s.liveFor joining).entries.map (fun e => (e.1.1, e.2.row.maxConnectedDevservers)) ++
      s.pending.entries.map fun e => (e.1.1, e.2.maxConnectedDevservers)))
  rw [joiningPlan, joiningPlan, groupedKeys_perm h, hlimit]
  exact foldl_rel ⟨rfl, .refl _⟩ fun _ _ _ _ => joinKey_perm s h

/-- Both plans split the rows they are made from, and are the same in whatever order the rows
come. -/
theorem plans_split (s : ControllerState) :
    (∀ candidates : List OwnedTunnel, (candidates.map fun o => o.row.registrationId).Nodup →
      s.SplitsRestart candidates (s.initialReconciliationPlan candidates) ∧
      ∀ candidates', candidates.Perm candidates' →
        (s.initialReconciliationPlan candidates').1 = (s.initialReconciliationPlan candidates).1 ∧
        ∀ o, o ∈ (s.initialReconciliationPlan candidates').2 ↔
          o ∈ (s.initialReconciliationPlan candidates).2) ∧
    ∀ joining rows, s.SplitsJoin joining rows (s.joiningPlan joining rows) ∧
      ∀ rows', rows.Perm rows' →
        SamePlan (s.joiningPlan joining rows) (s.joiningPlan joining rows') :=
  ⟨fun _ hids => ⟨splitsRestart s hids, fun _ hperm => initialPlan_perm s hperm hids⟩,
    fun joining rows => ⟨splitsJoin s joining rows, fun _ => joiningPlan_perm s joining⟩⟩

/-- Registrations of one owner, with a signed limit of one devserver. -/
def rival (registrationId : Uuid) (devserverId : Text) : OwnedTunnel :=
  ⟨⟨['a'], 1⟩, [], ⟨registrationId, 1, [], devserverId, 1, [], 1000, none, 0⟩⟩

/-- One of them is published. -/
def withRival : ControllerState :=
  { new 4 with tunnels := AList.insert (1, ['d']) (rival 1 ['d']) ∅ }

theorem plans_split_rivals :
    let candidates := [rival 1 ['d'], rival 2 ['e'], rival 3 ['f'], rival 4 ['f']]
    let rows := [(rival 5 ['d']).row, (rival 6 ['e']).row]
    withRival.SplitsRestart candidates (withRival.initialReconciliationPlan candidates) ∧
    (withRival.initialReconciliationPlan candidates.reverse).1.entries =
      [⟨(1, ['d']), rival 1 ['d']⟩] ∧
    (withRival.initialReconciliationPlan candidates).1 =
      (withRival.initialReconciliationPlan candidates.reverse).1 ∧
    withRival.SplitsJoin ⟨['b'], 2⟩ rows (withRival.joiningPlan ⟨['b'], 2⟩ rows) ∧
    (withRival.joiningPlan ⟨['b'], 2⟩ rows).2.map (fun o => o.row.registrationId) = [5, 6] := by
  intro candidates rows
  have hsplit := (plans_split withRival).1 candidates (by decide)
  exact ⟨hsplit.1, by decide +kernel, (hsplit.2 _ (reverse_perm _).symm).1.symm,
    ((plans_split withRival).2 _ _).1, by decide +kernel⟩

end ControllerState
end Chan.Control
