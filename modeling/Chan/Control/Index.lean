import Chan.Control.Controller

namespace Chan.Control.ControllerState
open Utf AssocMap AList

variable {s : ControllerState} {m : Map SessionKey FleetUsage}

def references (s : ControllerState) (K : TunnelKey) : Nat :=
  ((s.ownerOccupancy.lookup K.1).bind fun keys => keys.lookup K.2).getD 0

def entry (m : Map TunnelKey β) (K : TunnelKey) : Nat := (m.lookup K).elim 0 fun _ => 1

def Counted (s : ControllerState) : Prop :=
  ∀ K, s.references K = entry s.tunnels K + entry s.pending K

lemma references_addOwnerKey (s : ControllerState) (K K' : TunnelKey) :
    (s.addOwnerKey K).references K' = s.references K' + if K' = K then 1 else 0 := by
  unfold references addOwnerKey
  by_cases howner : K'.1 = K.1
  · rw [howner, lookup_insert, Option.bind_some]
    by_cases hid : K'.2 = K.2
    · have hK : K' = K := Prod.ext howner hid
      rw [hid, lookup_insert, if_pos hK]
      cases s.ownerOccupancy.lookup K.1 <;> rfl
    · have hK : K' ≠ K := fun h => hid (by rw [h])
      rw [lookup_insert_ne hid, if_neg hK]
      cases s.ownerOccupancy.lookup K.1 <;> rfl
  · have hK : K' ≠ K := fun h => howner (by rw [h])
    rw [lookup_insert_ne howner, if_neg hK, Nat.add_zero]

lemma lookup_insert_or_erase (m : Map Uuid (Map Text Nat)) (owner : Uuid) (keys : Map Text Nat)
    (d : Text) :
    ((if keys.entries = [] then m.erase owner else m.insert owner keys).lookup owner).bind
      (fun keys => keys.lookup d) = keys.lookup d := by
  split
  · rename_i hempty
    have hnone : keys.lookup d = none := by rw [AList.lookup, hempty]; rfl
    rw [lookup_erase, hnone, Option.bind_none]
  · rw [lookup_insert, Option.bind_some]

lemma lookup_insert_or_erase_ne (m : Map Uuid (Map Text Nat)) (keys : Map Text Nat)
    (h : other ≠ owner) :
    (if keys.entries = [] then m.erase owner else m.insert owner keys).lookup other =
      m.lookup other := by
  split
  · exact lookup_erase_ne h
  · exact lookup_insert_ne h

lemma references_removeOwnerKey (s : ControllerState) (K K' : TunnelKey) :
    (s.removeOwnerKey K).references K' = s.references K' - if K' = K then 1 else 0 := by
  unfold removeOwnerKey
  split
  · rename_i hnone
    split
    · rename_i hK
      rw [references, hK, hnone]
      rfl
    · rw [Nat.sub_zero]
  · rename_i keys hkeys
    by_cases howner : K'.1 = K.1
    · have hold : s.references K' = (keys.lookup K'.2).getD 0 := by
        rw [references, howner, hkeys, Option.bind_some]
      rw [hold, references, howner, lookup_insert_or_erase]
      by_cases hid : K'.2 = K.2
      · grind
      · grind
    · have hK : K' ≠ K := fun h => howner (by rw [h])
      rw [if_neg hK, Nat.sub_zero, references, lookup_insert_or_erase_ne _ _ howner]
      rfl

lemma removeOwnerKey_eq :
    ∃ occupancy, s.removeOwnerKey K = { s with ownerOccupancy := occupancy } := by
  unfold removeOwnerKey
  split
  · exact ⟨s.ownerOccupancy, rfl⟩
  · exact ⟨_, rfl⟩

lemma card_le_distinctForOwner (s : ControllerState) (owner : Uuid) (ds : Finset Text)
    (h : ∀ d ∈ ds, s.references (owner, d) ≠ 0) : ds.card ≤ s.distinctForOwner owner := by
  unfold distinctForOwner
  unfold references at h
  cases hkeys : s.ownerOccupancy.lookup owner with
  | none =>
    have hempty : ds = ∅ := Finset.eq_empty_of_forall_notMem fun d hd => h d hd (by rw [hkeys]; rfl)
    rw [hempty]
    exact Nat.zero_le _
  | some keys =>
    have hsub : ds ⊆ keys.keys.toFinset := by
      intro d hd
      have hne := h d hd
      rw [hkeys, Option.bind_some] at hne
      rw [List.mem_toFinset]
      refine AList.mem_keys.2 (AList.lookup_isSome.1 ?_)
      cases hd' : keys.lookup d with
      | none => exact absurd (by rw [hd']; rfl) hne
      | some _ => rfl
    calc ds.card ≤ keys.keys.toFinset.card := Finset.card_le_card hsub
      _ ≤ keys.keys.length := List.toFinset_card_le _
      _ = keys.entries.length := List.length_map ..

section
variable (m : Map TunnelKey β)

lemma entry_erase (K' : TunnelKey) (h : (m.lookup K).isSome) :
    entry (m.erase K) K' + (if K' = K then 1 else 0) = entry m K' := by
  unfold entry
  split
  · rename_i hK
    obtain ⟨b, hb⟩ := Option.isSome_iff_exists.1 h
    rw [hK, lookup_erase, hb]
    rfl
  · rename_i hK
    rw [lookup_erase_ne hK, Nat.add_zero]

lemma entry_insert (h : m.lookup K = none) :
    entry (m.insert K b) K' = entry m K' + if K' = K then 1 else 0 := by
  unfold entry
  split
  · rename_i hK
    rw [hK, lookup_insert, h]
    rfl
  · rename_i hK
    rw [lookup_insert_ne hK, Nat.add_zero]

lemma entry_insert_some (h : (m.lookup K).isSome) :
    entry (m.insert K b) K' = entry m K' := by
  unfold entry
  by_cases hK : K' = K
  · obtain ⟨b', hb'⟩ := Option.isSome_iff_exists.1 h
    rw [hK, lookup_insert, hb']
    rfl
  · rw [lookup_insert_ne hK]

lemma entry_modify : entry (modify K f m) K' = entry m K' := by
  unfold entry
  rw [lookup_modify]
  split
  · rename_i hK
    rw [hK]
    cases m.lookup K <;> rfl
  · rfl

lemma entry_le (h : (m.lookup K).isSome) :
    entry m K = 1 := by
  obtain ⟨b, hb⟩ := Option.isSome_iff_exists.1 h
  rw [entry, hb]
  rfl

end

section
variable (h : s.Counted)
include h

lemma Counted.pos
    (hK : (s.tunnels.lookup K).isSome ∨ (s.pending.lookup K).isSome) : s.references K ≠ 0 := by
  rw [h K]
  rcases hK with hK | hK <;> have := entry_le _ hK <;> omega

lemma Counted.removePending (K : TunnelKey) :
    (s.removePending K).Counted := by
  unfold ControllerState.removePending
  split
  · exact h
  · rename_i claim hclaim
    intro K'
    have hrefs := references_removeOwnerKey { s with pending := s.pending.erase K } K K'
    have hentry := entry_erase s.pending K' (by rw [hclaim]; rfl)
    have hK' := h K'
    obtain ⟨occupancy, hoccupancy⟩ := removeOwnerKey_eq
    rw [hoccupancy] at hrefs ⊢
    refine hrefs.trans ?_
    show s.references K' - _ = entry s.tunnels K' + entry (s.pending.erase K) K'
    omega

lemma Counted.insertPending (claim : PendingClaim)
    (hK : s.pending.lookup K = none) : (s.insertPending K claim).Counted := by
  intro K'
  refine (references_addOwnerKey s K K').trans ?_
  show s.references K' + _ = entry s.tunnels K' + entry (s.pending.insert K claim) K'
  rw [entry_insert _ hK, h K', Nat.add_assoc]

lemma Counted.removeTunnel (K : TunnelKey) :
    (s.removeTunnel K).Counted := by
  unfold ControllerState.removeTunnel
  split
  · rename_i hsome
    intro K'
    have hrefs := references_removeOwnerKey { s with tunnels := s.tunnels.erase K } K K'
    have hentry := entry_erase s.tunnels K' hsome
    have hK' := h K'
    obtain ⟨occupancy, hoccupancy⟩ := removeOwnerKey_eq
    rw [hoccupancy] at hrefs ⊢
    refine hrefs.trans ?_
    show s.references K' - _ = entry (s.tunnels.erase K) K' + entry s.pending K'
    omega
  · exact h

lemma Counted.addTunnel (hK : s.tunnels.lookup K = none) :
    ({ s with tunnels := s.tunnels.insert K o }.addOwnerKey K).Counted := by
  intro K'
  refine (references_addOwnerKey _ K K').trans ?_
  show s.references K' + _ = entry (s.tunnels.insert K o) K' + entry s.pending K'
  rw [entry_insert _ hK, h K']
  omega

lemma Counted.replaceTunnel (hK : (s.tunnels.lookup K).isSome) :
    { s with tunnels := s.tunnels.insert K o }.Counted := by
  intro K'
  refine (h K').trans ?_
  rw [entry_insert_some _ hK]

lemma Counted.modifyTunnel (K : TunnelKey)
    (f : OwnedTunnel → OwnedTunnel) : { s with tunnels := modify K f s.tunnels }.Counted := by
  intro K'
  refine (h K').trans ?_
  rw [entry_modify]

lemma Counted.modifyPending : { s with pending := modify K f s.pending }.Counted := by
  intro K'
  refine (h K').trans ?_
  rw [entry_modify]

end

lemma references_foldl_addOwnerKey (keys : List TunnelKey) (s : ControllerState)
    (K : TunnelKey) : (keys.foldl (fun s key => s.addOwnerKey key) s).references K =
      s.references K + keys.count K := by
  induction keys generalizing s with
  | nil => rfl
  | cons key keys ih =>
    rw [List.foldl_cons, ih, references_addOwnerKey, List.count_cons]
    simp only [beq_iff_eq, eq_comm (a := key)]
    omega

lemma foldl_addOwnerKey_eq (keys : List TunnelKey) (s : ControllerState) :
    ∃ occupancy, keys.foldl (fun s key => s.addOwnerKey key) s =
      { s with ownerOccupancy := occupancy } := by
  induction keys generalizing s with
  | nil => exact ⟨s.ownerOccupancy, rfl⟩
  | cons key keys ih =>
    obtain ⟨occupancy, h⟩ := ih (s.addOwnerKey key)
    exact ⟨occupancy, h⟩

lemma count_keys (m : Map TunnelKey β) (K : TunnelKey) : m.keys.count K = entry m K := by
  cases hK : m.lookup K with
  | none =>
    rw [entry, hK]
    refine List.count_eq_zero_of_not_mem fun hmem => ?_
    have := AList.lookup_isSome.2 (AList.mem_keys.1 hmem)
    rw [hK] at this
    cases this
  | some b =>
    rw [entry, hK]
    refine List.count_eq_one_of_mem m.keys_nodup (AList.mem_keys.2 (AList.lookup_isSome.1 ?_))
    rw [hK]
    rfl

lemma counted_replaceTunnels (s : ControllerState) (tunnels : Map TunnelKey OwnedTunnel) :
    (s.replaceTunnels tunnels).Counted := by
  intro K
  refine (references_foldl_addOwnerKey ..).trans ?_
  obtain ⟨occupancy, hoccupancy⟩ := foldl_addOwnerKey_eq (tunnels.keys ++ s.pending.keys)
    { s with tunnels := tunnels, ownerOccupancy := ∅ }
  rw [replaceTunnels, hoccupancy, List.count_append, count_keys, count_keys]
  exact Nat.zero_add _

def usageSum (m : Map SessionKey FleetUsage) : FleetUsage :=
  ⟨sumOf FleetUsage.rows m, sumOf FleetUsage.bytes m⟩

def Totalled (s : ControllerState) : Prop :=
  s.orphanTotal = usageSum s.orphanUsage ∧ s.browserOrphanTotal = usageSum s.browserOrphanUsage

lemma usageSum_erase (h : m.lookup k = some u) :
    usageSum (m.erase k) = (usageSum m).sub u := by
  simp [usageSum, FleetUsage.sub, sumOf_erase h]

lemma usageSum_insert (h : m.lookup k = none) :
    usageSum (m.insert k u) = (usageSum m).add u := by
  simp only [usageSum, FleetUsage.add, sumOf_insert, erase_of_lookup_none h, Nat.add_comm]

lemma usageSum_replace (h : m.lookup k = some u)
    (hrows : v.rows ≤ u.rows) (hbytes : v.bytes ≤ u.bytes) :
    usageSum (m.insert k (u.sub v)) = (usageSum m).sub v := by
  simp only [usageSum, FleetUsage.sub, sumOf_insert, sumOf_erase h, FleetUsage.mk.injEq]
  omega

lemma Totalled.removeOrphanUsage (h : s.Totalled) (k : SessionKey) :
    (s.removeOrphanUsage k).Totalled := by
  unfold ControllerState.removeOrphanUsage
  split
  · exact h
  · rename_i u hu
    exact ⟨by rw [usageSum_erase hu, h.1], h.2⟩

lemma Totalled.removeBrowserOrphanUsage (h : s.Totalled) (k : SessionKey) :
    (s.removeBrowserOrphanUsage k).Totalled := by
  unfold ControllerState.removeBrowserOrphanUsage
  split
  · exact h
  · rename_i u hu
    exact ⟨h.1, by rw [usageSum_erase hu, h.2]⟩

end Chan.Control.ControllerState
