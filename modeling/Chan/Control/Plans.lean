import Chan.Control.Frame
import Chan.Control.Sound

namespace Chan.Control.ControllerState
open Utf AssocMap Function

variable {s : ControllerState}

lemma foldl_min_le (l : List Nat) (n : Nat) : l.foldl min n ≤ n := by
  induction l generalizing n with
  | nil => exact le_rfl
  | cons a l ih => exact (ih (min n a)).trans (min_le_left ..)

lemma signedLimit_le (s : ControllerState) (limits : List (Uuid × Nat)) (owner : Uuid) :
    s.signedLimit limits owner ≤ s.deploymentLimit := foldl_min_le ..

lemma mem_idsOf : d ∈ idsOf owner keys ↔ (owner, d) ∈ keys := by
  simp only [idsOf, List.mem_dedup, List.mem_map, List.mem_filter, decide_eq_true_eq, Prod.exists]
  constructor
  · rintro ⟨a, b, ⟨hmem, rfl⟩, rfl⟩
    exact hmem
  · exact fun hmem => ⟨owner, d, ⟨hmem, rfl⟩, rfl⟩

lemma lookup_liveFor : (s.liveFor joining).lookup K = some o ↔
    s.tunnels.lookup K = some o ∧
      (o.session.proxyId ≠ joining.proxyId ∨ s.ownsAggregateRows o.session = true) := by
  rw [liveFor, lookup_retain, Option.filter_eq_some_iff, Bool.or_eq_true, decide_eq_true_eq]

lemma ownsAggregateRows_iff :
    s.ownsAggregateRows k = true ↔ ∃ p, s.session k = some p ∧ p.status = .active := by
  simp only [ownsAggregateRows, Option.any_eq_true, decide_eq_true_eq]

section Joining

variable {s : ControllerState} {joining : SessionKey} {baseUrl : Text} {rows : List TunnelRow}
  {limit : Uuid → Nat}

/-- A key of a join's plan goes to a row that has it alone, if nobody else has it and its owner has
room; otherwise every row that has it loses. -/
lemma joinKey_cases : s.joinKey joining baseUrl rows limit acc K = (acc.1, acc.2 ++
      (rows.filter fun row => row.key = K).map fun row => ⟨joining, baseUrl, row⟩) ∨
    ∃ row, (rows.filter fun row => row.key = K) = [row] ∧ acc.1.lookup K = none ∧
      s.pending.lookup K = none ∧ (idsOf K.1 (acc.1.keys ++ s.pending.keys)).length < limit K.1 ∧
      s.joinKey joining baseUrl rows limit acc K =
        (acc.1.insert K ⟨joining, baseUrl, row⟩, acc.2) := by
  unfold joinKey
  split
  · rename_i row hrow
    dsimp only
    split
    · exact .inl (by rw [hrow]; rfl)
    · rename_i hfree
      simp only [Bool.or_eq_true, decide_eq_true_eq, not_or, Bool.not_eq_true,
        Option.isSome_eq_false_iff, Option.isNone_iff_eq_none, Nat.not_le] at hfree
      exact .inr ⟨row, hrow, hfree.1.1, hfree.1.2, hfree.2, rfl⟩
  · exact .inl rfl

structure JoinPlan (s : ControllerState) (joining : SessionKey) (rows : List TunnelRow)
    (acc : Map TunnelKey OwnedTunnel × List OwnedTunnel) : Prop where
  origin : ∀ K o, acc.1.lookup K = some o → (s.liveFor joining).lookup K = some o ∨
    (o.session = joining ∧ o.row ∈ rows ∧ o.row.key = K)
  keeps : ∀ K o, (s.liveFor joining).lookup K = some o → acc.1.lookup K = some o
  within : s.core.Within → { s.core with tunnels := acc.1.lookup }.Within
  losers : ∀ o ∈ acc.2, o.session = joining ∧ o.row ∈ rows

lemma JoinPlan.joinKey (h : JoinPlan s joining rows acc)
    (hlimit : ∀ owner, limit owner ≤ s.deploymentLimit) (K : TunnelKey) :
    JoinPlan s joining rows (s.joinKey joining baseUrl rows limit acc K) := by
  rcases joinKey_cases with
    heq | ⟨row, hrow, hfree, hpending, hroom, heq⟩
  · rw [heq]
    refine ⟨h.origin, h.keeps, h.within, fun o ho => ?_⟩
    rcases List.mem_append.1 ho with ho | ho
    · exact h.losers o ho
    · obtain ⟨row, hrow, rfl⟩ := List.mem_map.1 ho
      exact ⟨rfl, (List.mem_filter.1 hrow).1⟩
  · obtain ⟨hmem, hkey⟩ := List.mem_filter.1 (hrow ▸ List.mem_singleton_self row)
    rw [heq]
    refine ⟨fun K' o ho => ?_, fun K' o ho => ?_, fun hwithin owner ds hds => ?_, h.losers⟩
    · rcases lookup_insert_eq_some ho with ⟨rfl, rfl⟩ | ⟨_, ho⟩
      · exact .inr ⟨rfl, hmem, of_decide_eq_true hkey⟩
      · exact h.origin K' o ho
    · have hold := h.keeps K' o ho
      have hne : K' ≠ K := by
        rintro rfl
        cases hfree.symm.trans hold
      rw [AList.lookup_insert_ne hne]
      exact hold
    · have hds' : ∀ d ∈ ds, (owner, d) ≠ K →
          { s.core with tunnels := acc.1.lookup }.Occupied (owner, d) := by
        intro d hd hne
        have hd := hds d hd
        simp only [Core.Occupied, AList.lookup_insert_ne hne] at hd
        exact hd
      by_cases howner : owner = K.1
      · subst howner
        have hsub : ds.erase K.2 ⊆ (idsOf K.1 (acc.1.keys ++ s.pending.keys)).toFinset := by
          intro d hd
          obtain ⟨hne, hd⟩ := Finset.mem_erase.1 hd
          rw [List.mem_toFinset, mem_idsOf, List.mem_append]
          refine (hds' d hd fun hK => hne (congrArg Prod.snd hK)).imp ?_ ?_
          · exact fun h => AList.mem_keys.2 (AList.lookup_isSome.1 h)
          · exact fun h => AList.mem_keys.2 (AList.lookup_isSome.1 h)
        have hcard := (Finset.card_le_card hsub).trans (List.toFinset_card_le _)
        have herase := Finset.pred_card_le_card_erase (s := ds) (a := K.2)
        have hle := hlimit K.1
        show ds.card ≤ s.deploymentLimit
        omega
      · exact h.within hwithin owner ds fun d hd =>
          hds' d hd fun hK => howner (congrArg Prod.fst hK)

lemma joiningPlan_spec (s : ControllerState) (joining : SessionKey) (rows : List TunnelRow) :
    JoinPlan s joining rows (s.joiningPlan joining rows) := by
  have hstart : JoinPlan s joining rows (s.liveFor joining, []) :=
    ⟨fun _ _ ho => .inl ho, fun _ _ ho => ho, fun hwithin => hwithin.mono rfl fun K hK => by
      refine hK.imp (fun hK => ?_) id
      obtain ⟨o, ho⟩ := Option.isSome_iff_exists.1 hK
      exact Option.isSome_iff_exists.2 ⟨o, (lookup_liveFor.1 ho).1⟩, nofun⟩
  have hfold : ∀ (keys : List TunnelKey) (limit : Uuid → Nat) (baseUrl : Text)
      (acc : Map TunnelKey OwnedTunnel × List OwnedTunnel),
      (∀ owner, limit owner ≤ s.deploymentLimit) → JoinPlan s joining rows acc →
      JoinPlan s joining rows (keys.foldl (s.joinKey joining baseUrl rows limit) acc) := by
    intro keys limit baseUrl
    induction keys with
    | nil => exact fun _ _ h => h
    | cons K keys ih => exact fun acc hlimit h => ih _ hlimit (h.joinKey hlimit K)
  exact hfold _ _ _ _ (fun owner => signedLimit_le s _ owner) hstart

end Joining

def contenders (candidates : List OwnedTunnel) (K : TunnelKey) : List OwnedTunnel :=
  candidates.filter fun o => o.row.key = K

def Wins (s : ControllerState) (candidates : List OwnedTunnel) (K : TunnelKey) : Prop :=
  (contenders candidates K).length = 1 ∧ K ∉ s.quarantinedRestartKeys

instance (s : ControllerState) (candidates : List OwnedTunnel) (K : TunnelKey) :
    Decidable (s.Wins candidates K) := inferInstanceAs (Decidable (_ ∧ _))

def winners (s : ControllerState) (candidates : List OwnedTunnel) : List OwnedTunnel :=
  ((groupedKeys (candidates.map OwnedTunnel.row)).filter fun K => s.Wins candidates K).flatMap
    (contenders candidates)

def winnersOf (s : ControllerState) (candidates : List OwnedTunnel) (owner : Uuid) :
    List OwnedTunnel :=
  (s.winners candidates).filter fun o => o.row.ownerUserId = owner

def limitOf (s : ControllerState) (candidates : List OwnedTunnel) : Uuid → Nat :=
  s.signedLimit ((candidates.map OwnedTunnel.row).map TunnelRow.limit)

lemma mem_groupedKeys : K ∈ groupedKeys rows ↔ ∃ row ∈ rows, row.key = K := by
  rw [groupedKeys, List.mem_insertionSort, List.mem_dedup, List.mem_map]

section Restart
variable {s : ControllerState} {candidates : List OwnedTunnel}

lemma mem_contenders : o ∈ contenders candidates K ↔ o ∈ candidates ∧ o.row.key = K := by
  rw [contenders, List.mem_filter, decide_eq_true_eq]

lemma mem_groups :
    o ∈ ((groupedKeys (candidates.map OwnedTunnel.row)).filter test).flatMap
      (contenders candidates) ↔ o ∈ candidates ∧ test o.row.key = true := by
  simp only [List.mem_flatMap, List.mem_filter, mem_groupedKeys, List.mem_map, mem_contenders]
  grind

lemma mem_winners : o ∈ s.winners candidates ↔ o ∈ candidates ∧ s.Wins candidates o.row.key := by
  rw [winners, mem_groups, decide_eq_true_eq]

lemma winners_key (ho : o ∈ s.winners candidates) (ho' : o' ∈ s.winners candidates)
    (hkey : o.row.key = o'.row.key) : o = o' := by
  obtain ⟨hmem, hwins⟩ := mem_winners.1 ho
  obtain ⟨w, hw⟩ := List.length_eq_one_iff.1 hwins.1
  have hsame : ∀ x ∈ contenders candidates o.row.key, x = w := fun x hx =>
    List.mem_singleton.1 (hw ▸ hx)
  exact (hsame o (mem_contenders.2 ⟨hmem, rfl⟩)).trans
    (hsame o' (mem_contenders.2 ⟨(mem_winners.1 ho').1, hkey.symm⟩)).symm

lemma isSome_foldl_insert (l : List OwnedTunnel) (m : Map TunnelKey OwnedTunnel)
    (h : (∃ o ∈ l, o.row.key = K) ∨ (m.lookup K).isSome) :
    ((l.foldl (fun m o => m.insert o.row.key o) m).lookup K).isSome := by
  induction l generalizing m with
  | nil => simpa using h
  | cons c l ih => exact ih _ (by grind)

lemma mem_owned (hf : ∀ owner, f owner ⊆ s.winnersOf candidates owner) :
    o ∈ ((s.winners candidates).map fun o => o.row.ownerUserId).dedup.flatMap f ↔
      o ∈ f o.row.ownerUserId := by
  rw [List.mem_flatMap]
  constructor
  · rintro ⟨owner, -, ho⟩
    rwa [of_decide_eq_true (List.mem_filter.1 (hf owner ho)).2]
  · intro ho
    have hmem := (List.mem_filter.1 (hf _ ho)).1
    exact ⟨_, List.mem_dedup.2 (List.mem_map.2 ⟨o, hmem, rfl⟩), ho⟩

lemma lookup_initialPlan : (s.initialReconciliationPlan candidates).1.lookup K = some o ↔
    o.row.key = K ∧ o ∈ (s.winnersOf candidates o.row.ownerUserId).take
      (s.limitOf candidates o.row.ownerUserId) := by
  have hplan : ∀ {x}, _ ↔ x ∈ (s.winnersOf candidates x.row.ownerUserId).take
      (s.limitOf candidates x.row.ownerUserId) := mem_owned fun _ => List.take_subset ..
  have hwinner : ∀ {x : OwnedTunnel}, x ∈ (s.winnersOf candidates x.row.ownerUserId).take
      (s.limitOf candidates x.row.ownerUserId) → x ∈ s.winners candidates := fun hx =>
    (List.mem_filter.1 (List.mem_of_mem_take hx)).1
  have hfrom : ∀ {x}, (s.initialReconciliationPlan candidates).1.lookup K = some x →
      x.row.key = K ∧ x ∈ (s.winnersOf candidates x.row.ownerUserId).take
        (s.limitOf candidates x.row.ownerUserId) := by
    intro x hx
    rcases lookup_foldl_insert_eq_some hx with ⟨o', ho', hkey, rfl⟩ | hx
    · exact ⟨hkey, hplan.1 ho'⟩
    · rw [AList.lookup_empty] at hx
      cases hx
  refine ⟨hfrom, fun ⟨hkey, hmem⟩ => ?_⟩
  obtain ⟨x, hx⟩ := Option.isSome_iff_exists.1
    (isSome_foldl_insert _ ∅ (.inl ⟨o, hplan.2 hmem, hkey⟩))
  obtain ⟨hxkey, hxmem⟩ := hfrom hx
  rw [winners_key (hwinner hmem) (hwinner hxmem) (hkey.trans hxkey.symm)]
  exact hx

lemma initialPlan_card (owner : Uuid) (ds : Finset Text)
    (hds : ∀ d ∈ ds, ((s.initialReconciliationPlan candidates).1.lookup (owner, d)).isSome) :
    ds.card ≤ s.limitOf candidates owner := by
  have himage : ds ⊆ (((s.winnersOf candidates owner).take (s.limitOf candidates owner)).map
      fun o => o.row.devserverId).toFinset := by
    intro d hd
    obtain ⟨o, ho⟩ := Option.isSome_iff_exists.1 (hds d hd)
    obtain ⟨hkey, hmem⟩ := lookup_initialPlan.1 ho
    cases hkey
    exact List.mem_toFinset.2 (List.mem_map.2 ⟨o, hmem, rfl⟩)
  calc ds.card ≤ _ := Finset.card_le_card himage
    _ ≤ _ := List.toFinset_card_le _
    _ = ((s.winnersOf candidates owner).take (s.limitOf candidates owner)).length :=
      List.length_map ..
    _ ≤ s.limitOf candidates owner := List.length_take_le ..

end Restart

lemma firstOfEach_subset (losers : List OwnedTunnel) : firstOfEach losers ⊆ losers := by
  have hfold : ∀ (os kept : List OwnedTunnel), (∀ o ∈ kept, o ∈ losers) → (∀ o ∈ os, o ∈ losers) →
      ∀ o ∈ os.foldl (fun kept o =>
        if kept.any fun k => k.row.registrationId == o.row.registrationId then kept
        else kept ++ [o]) kept, o ∈ losers := by
    intro os
    induction os with
    | nil => exact fun kept hkept _ => hkept
    | cons o os ih =>
      grind
  exact fun o ho => hfold losers [] nofun (fun _ h => h) o ho

lemma initialPlan_spec (s : ControllerState) (candidates : List OwnedTunnel) :
    (∀ K o, (s.initialReconciliationPlan candidates).1.lookup K = some o →
      o ∈ candidates ∧ o.row.key = K) ∧
    (∀ (owner : Uuid) (ds : Finset Text), (∀ d ∈ ds,
      ((s.initialReconciliationPlan candidates).1.lookup (owner, d)).isSome) →
      ds.card ≤ s.deploymentLimit) ∧
    ∀ o ∈ (s.initialReconciliationPlan candidates).2, o ∈ candidates := by
  refine ⟨fun K o ho => ?_, fun owner ds hds => (initialPlan_card owner ds hds).trans
    (signedLimit_le ..), fun o ho => ?_⟩
  · obtain ⟨hkey, hmem⟩ := lookup_initialPlan.1 ho
    exact ⟨(mem_winners.1 (List.mem_filter.1 (List.mem_of_mem_take hmem)).1).1, hkey⟩
  · rcases List.mem_append.1 (firstOfEach_subset _ ho) with ho | ho
    · exact (mem_groups.1 ho).1
    · obtain ⟨owner, _, ho⟩ := List.mem_flatMap.1 ho
      exact (mem_winners.1 (List.mem_filter.1 (List.mem_of_mem_drop ho)).1).1

lemma mem_candidates
    (h : o ∈ s.candidates test) :
    ∃ p i, s.session o.session = some p ∧ test p = true ∧ p.rows.lookup i = some o.row := by
  obtain ⟨⟨k, p⟩, hsession, ho⟩ := List.mem_flatMap.1 h
  split at ho
  · rename_i htest
    obtain ⟨e, he, rfl⟩ := List.mem_map.1 ho
    exact ⟨p, e.1, mem_sessions.1 hsession, htest, AList.mem_lookup_iff.2 he⟩
  · cases ho

lemma mem_groupedBySession (h : g ∈ groupedBySession losers) : ∃ o ∈ losers, o.session = g.1 := by
  obtain ⟨k, hk, rfl⟩ := List.mem_map.1 h
  rw [List.mem_insertionSort, List.mem_dedup, List.mem_map] at hk
  exact hk

lemma groupedBySession_ne_nil (h : losers ≠ []) : groupedBySession losers ≠ [] := by
  obtain ⟨o, ho⟩ := List.exists_mem_of_ne_nil losers h
  refine List.ne_nil_of_mem (List.mem_map.2 ⟨o.session, ?_, rfl⟩)
  rw [List.mem_insertionSort, List.mem_dedup]
  exact List.mem_map.2 ⟨o, ho, rfl⟩

end Chan.Control.ControllerState
