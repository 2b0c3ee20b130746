import Chan.Lib.Transition
import Chan.WireGuard.PassEffects

namespace Chan.WireGuard
open AssocMap Fallible Relation Transition Option

variable {w v : World}

namespace World

lemma reconcile_cases (w : World) :
    (∃ changes s, w.reconcile a desired oracle = (.done changes, endPass s true) ∧
        Path desired (w.beginPass a oracle) s ∧ Settled desired s) ∨
      ∃ e s, (w.reconcile a desired oracle).2 = endPass s (decide (e ≠ .crashed)) ∧
        (∀ changes, (w.reconcile a desired oracle).1 ≠ .done changes) ∧
        Cut desired (w.beginPass a oracle) e s := by
  have hspec := reconcile_spec desired (w.beginPass a oracle) _ rfl
  unfold reconcile
  generalize Fallible.exec (Agent.reconcile desired) (w.beginPass a oracle) = r at hspec ⊢
  obtain ⟨e | changes, s⟩ := r
  · refine .inr ⟨e, s, ?_⟩
    cases e with
    | failed | crashed | returned => exact ⟨rfl, nofun, hspec⟩
  · exact .inl ⟨changes, s, rfl, hspec⟩

def start : World := ⟨∅, ∅, none, []⟩

end World

/-- A write of the state file that forgets a key does not fail once the file is replaced. -/
def Event.Durable : Event → Prop
  | .pass _ oracle => .failAfter ∉ oracle.forgets
  | _ => True

instance (e : Event) : Decidable e.Durable := by
  cases e <;> unfold Event.Durable <;> infer_instance

/-- The state file names everything the agent manages, and that everything it added. -/
structure Pass.Owned (s : Pass) : Prop where
  kept : ∀ k, (s.managed.lookup k).isSome → (s.file.lookup k).isSome
  owned : ∀ k p, s.interface.lookup k = some p → p.byAgent = true → (s.managed.lookup k).isSome
  issued : ∀ i ∈ s.issued, i.inFile = true

lemma Interface.removePeer_eq_some {m : Interface} (h : (m.removePeer key).lookup k = some p) :
    k ≠ key ∧ m.lookup k = some p := by
  rw [lookup_removePeer] at h
  split at h
  case isTrue => cases h
  case isFalse hne => exact ⟨hne, h⟩

lemma Interface.setAllowedIps_eq_some {m : Interface}
    (h : (m.setAllowedIps key ips byAgent).lookup k = some p) :
    (k = key ∧ p = ⟨ips, ((m.lookup key).map Peer.byAgent).getD byAgent⟩) ∨
      k ≠ key ∧ ∃ q, m.lookup k = some q ∧ p = q.release ips := by
  rw [lookup_setAllowedIps] at h
  split at h
  case isTrue hk => exact .inl ⟨hk, (Option.some.inj h).symm⟩
  case isFalse hk =>
    obtain ⟨q, hq, rfl⟩ := Option.map_eq_some_iff.1 h
    exact .inr ⟨hk, q, hq, rfl⟩

namespace Pass.Owned

lemma issue (h : Pass.Owned s) (hm : s.managed.lookup k = some r) : (s.issue k).Owned := by
  refine ⟨h.kept, h.owned, fun i hi => ?_⟩
  rcases List.mem_append.1 hi with hi | hi
  · exact h.issued i hi
  · rw [List.mem_singleton.1 hi]
    exact h.kept k (isSome_of_eq_some hm)

lemma effect (h : Pass.Owned s) (heffect : Effect desired s t) : t.Owned := by
  cases heffect with
  | quiet => exact ⟨h.kept, h.owned, h.issued⟩
  | issueRemove hm | issuePut hm => exact h.issue hm
  | remove hm =>
    exact ⟨h.kept, fun k p hp => h.owned k p (Interface.removePeer_eq_some hp).2, h.issued⟩
  | @forget k₀ _ hd hgone =>
    refine ⟨fun k hk => hk, fun k p hp hb => ?_, h.issued⟩
    have hne : k ≠ k₀ := by rintro rfl; cases hgone.symm.trans hp
    rw [store, AList.lookup_erase_ne hne]
    exact h.owned k p hp hb
  | put hm =>
    refine ⟨h.kept, fun k p hp hb => ?_, h.issued⟩
    rcases Interface.setAllowedIps_eq_some hp with ⟨rfl, -⟩ | ⟨-, q, hq, rfl⟩
    · exact isSome_of_eq_some hm
    · exact h.owned k q hq hb
  | @record k₀ _ _ hd hips =>
    refine ⟨fun k hk => hk, fun k p hp hb => ?_, h.issued⟩
    by_cases hne : k = k₀
    · rw [store, hne, AList.lookup_insert]
      rfl
    · rw [store, AList.lookup_insert_ne hne]
      exact h.owned k p hp hb

lemma path (h : Pass.Owned s) (hpath : Path desired s t) : t.Owned := by
  induction hpath with
  | refl => exact h
  | tail _ hstep ih => exact ih.effect hstep

end Pass.Owned

structure World.Owned (w : World) : Prop where
  owned : ∀ k p, w.interface.lookup k = some p → p.byAgent = true → (w.file.lookup k).isSome
  issued : ∀ i ∈ w.issued, i.inFile = true
  running : ∀ a, w.agent = some a → ∀ oracle, (w.beginPass a oracle).Owned

namespace World.Owned

lemma endPass (h : Pass.Owned s) (alive : Bool) : (World.endPass s alive).Owned := by
  refine ⟨fun k p hp hb => h.kept k (h.owned k p hp hb), h.issued, fun a ha oracle => ?_⟩
  cases alive with
  | false => cases ha
  | true =>
    cases ha
    exact ⟨h.kept, h.owned, h.issued⟩

lemma cut (h : Pass.Owned s) (hdurable : .failAfter ∉ s.oracle.forgets)
    (hcut : Cut desired s e t) : (World.endPass t (decide (e ≠ .crashed))).Owned := by
  cases hcut with
  | between hpath => exact endPass (h.path hpath) _
  | @forget u k hpath hd hgone he =>
    have hu := h.path hpath
    -- only a crash leaves a forgotten key to a memory that still has it
    obtain rfl := he.resolve_right fun hf => hdurable hf.2
    refine ⟨fun b p hp hb => ?_, hu.issued, nofun⟩
    have hne : b ≠ k := by rintro rfl; cases hgone.symm.trans hp
    simpa only [World.endPass, Pass.write, AList.lookup_erase_ne hne] using hu.owned b p hp hb
  | @record u k ips hpath hd hips he =>
    have hu := h.path hpath
    have hkept b (hb : (u.managed.lookup b).isSome) :
        ((u.managed.insert k ips).lookup b).isSome := by
      by_cases hne : b = k
      · rw [hne, AList.lookup_insert]
        rfl
      · rwa [AList.lookup_insert_ne hne]
    exact endPass (s := u.write (u.managed.insert k ips)) ⟨hkept, hu.owned, hu.issued⟩ _

lemma interface (h : w.Owned)
    (hm : ∀ k p, m.lookup k = some p → p.byAgent = true →
      ∃ q, w.interface.lookup k = some q ∧ q.byAgent = true) :
    { w with interface := m }.Owned := by
  have howned {f : String → Prop} (hf : ∀ k p, w.interface.lookup k = some p →
      p.byAgent = true → f k)
      (k : String) (p : Peer) (hp : m.lookup k = some p) (hb : p.byAgent = true) : f k := by
    obtain ⟨q, hq, hqb⟩ := hm k p hp hb
    exact hf k q hq hqb
  refine ⟨howned h.owned, h.issued, fun a ha oracle => ?_⟩
  have hrun := h.running a ha oracle
  exact ⟨hrun.kept, howned hrun.owned, hrun.issued⟩

lemma step (h : w.Owned) (hdurable : e.Durable) (hstep : w.step e = some v) :
    v.Owned := by
  cases e with
  | opens =>
    obtain ⟨hnone, hv⟩ := Option.ite_none_right_eq_some.1 hstep
    cases hv
    refine ⟨h.owned, h.issued, fun a ha oracle => ?_⟩
    cases ha
    exact ⟨fun _ hk => hk, h.owned, h.issued⟩
  | crash =>
    cases hstep
    exact ⟨h.owned, h.issued, nofun⟩
  | pass desired oracle =>
    obtain ⟨a, ha, rfl⟩ := Option.map_eq_some_iff.1 hstep
    have hs := h.running a ha oracle
    obtain ⟨changes, s, heq, hpath, -⟩ | ⟨e, s, heq, -, hcut⟩ := w.reconcile_cases
    · rw [heq]
      exact endPass (hs.path hpath) true
    · rw [heq]
      exact cut hs hdurable hcut
  | operatorSet key ips =>
    cases hstep
    refine h.interface fun k p hp hb => ?_
    rcases Interface.setAllowedIps_eq_some hp with ⟨rfl, rfl⟩ | ⟨-, q, hq, rfl⟩
    · cases hq : w.interface.lookup k with
      | none => rw [hq] at hb; cases hb
      | some q => rw [hq] at hb; exact ⟨q, rfl, hb⟩
    · exact ⟨q, hq, hb⟩
  | operatorRemove key =>
    cases hstep
    exact h.interface fun k p hp hb => ⟨p, (Interface.removePeer_eq_some hp).2, hb⟩

lemma start : World.start.Owned := by
  refine ⟨fun k p hp => ?_, nofun, nofun⟩
  cases hp

end World.Owned

/-- The operator sets or removes the peer of the key. -/
def Event.Touches (key : String) : Event → Prop
  | .operatorSet k _ => k = key
  | .operatorRemove k => k = key
  | _ => False

/-- A pass is served a list that has the address for another key. -/
def Event.Serves (key ip : String) : Event → Prop
  | .pass desired _ => ∃ e ∈ desired.entries, e.1 ≠ key ∧ ip ∈ e.2
  | _ => False

/-- The operator gives the address to some peer. -/
def Event.Gives (ip : String) : Event → Prop
  | .operatorSet _ ips => ip ∈ ips
  | _ => False

instance (key : String) (e : Event) : Decidable (e.Touches key) := by
  cases e <;> unfold Event.Touches <;> infer_instance

instance (key ip : String) (e : Event) : Decidable (e.Serves key ip) := by
  cases e <;> unfold Event.Serves <;> infer_instance

instance (ip : String) (e : Event) : Decidable (e.Gives ip) := by
  cases e <;> unfold Event.Gives <;> infer_instance

lemma Peer.release_eq_self {p : Peer} (h : ∀ ip ∈ p.allowedIps, ip ∉ ips) :
    p.release ips = p := by
  have hfilter : p.allowedIps.filter (· ∉ ips) = p.allowedIps :=
    List.filter_eq_self.2 fun ip hip => decide_eq_true (h ip hip)
  rw [Peer.release, hfilter]

/-- An operator's peer, which has exactly these addresses if no served list has one of them. -/
structure Peer.Spared (ips : List String) (apart : Prop) (p : Peer) : Prop where
  operator : p.byAgent = false
  keeps : apart → p.allowedIps = ips

/-- An operator's peer that the agent does not know of and has issued no call for. -/
structure Pass.Guards (key : String) (ips : List String) (apart : Prop) (past : List Issued)
    (s : Pass) : Prop where
  peer : ∃ p, s.interface.lookup key = some p ∧ p.Spared ips apart
  unmanaged : s.managed.lookup key = none
  unfiled : s.file.lookup key = none
  untouched : ∃ new, s.issued = past ++ new ∧ ∀ i ∈ new, i.key ≠ key

namespace Pass.Guards

section
variable (h : Pass.Guards key ips apart past s)
include h

lemma issue (hne : k ≠ key) :
    (s.issue k).Guards key ips apart past := by
  obtain ⟨new, hnew, hkeys⟩ := h.untouched
  refine ⟨h.peer, h.unmanaged, h.unfiled, new ++ [⟨k, (s.file.lookup k).isSome⟩], ?_,
    fun i hi => ?_⟩
  · rw [Pass.issue, hnew, List.append_assoc]
  · rcases List.mem_append.1 hi with hi | hi
    · exact hkeys i hi
    · rw [List.mem_singleton.1 hi]
      exact hne

lemma ne_managed (hm : s.managed.lookup k = some r) :
    k ≠ key := by
  rintro rfl
  cases h.unmanaged.symm.trans hm

lemma lookup_insert
    (hips : ∀ p, s.interface.lookup k = some p → p.allowedIps = l ∧ (s.managed.lookup k).isSome) :
    (s.managed.insert k l).lookup key = none := by
  have hne : key ≠ k := by
    rintro rfl
    obtain ⟨p, hp, -⟩ := h.peer
    have hsome := (hips p hp).2
    rw [h.unmanaged] at hsome
    cases hsome
  rw [AList.lookup_insert_ne hne, h.unmanaged]

lemma lookup_erase : (s.managed.erase k).lookup key = none := by
  by_cases hk : key = k
  · rw [hk, AList.lookup_erase]
  · rw [AList.lookup_erase_ne hk, h.unmanaged]

lemma effect (hapart : apart → ∀ k l, desired.lookup k = some l → k ≠ key → ∀ ip ∈ ips, ip ∉ l)
    (heffect : Effect desired s t) : t.Guards key ips apart past := by
  cases heffect with
  | quiet => exact ⟨h.peer, h.unmanaged, h.unfiled, h.untouched⟩
  | issueRemove hm | issuePut hm => exact h.issue (h.ne_managed hm)
  | remove hm =>
    obtain ⟨p, hp, hspared⟩ := h.peer
    refine ⟨⟨p, ?_, hspared⟩, h.unmanaged, h.unfiled, h.untouched⟩
    rw [Pass.remove, Interface.lookup_removePeer, if_neg (h.ne_managed hm).symm, hp]
  | @put _ _ l _ hm hd =>
    obtain ⟨p, hp, hspared⟩ := h.peer
    have hne := h.ne_managed hm
    refine ⟨⟨p.release l, ?_, hspared.operator, fun ha => ?_⟩, h.unmanaged, h.unfiled, h.untouched⟩
    · rw [Pass.put, Interface.lookup_setAllowedIps, if_neg hne.symm, hp, map_some]
    · rw [Peer.release_eq_self (hspared.keeps ha ▸ hapart ha _ _ hd hne), hspared.keeps ha]
  | forget => exact ⟨h.peer, h.lookup_erase, h.lookup_erase, h.untouched⟩
  | record hd hips =>
    exact ⟨h.peer, h.lookup_insert hips, h.lookup_insert hips, h.untouched⟩

lemma path (hapart : apart → ∀ k l, desired.lookup k = some l → k ≠ key → ∀ ip ∈ ips, ip ∉ l)
    (hpath : Path desired s t) : t.Guards key ips apart past := by
  induction hpath with
  | refl => exact h
  | tail _ hstep ih => exact ih.effect hapart hstep

lemma cut (hapart : apart → ∀ k l, desired.lookup k = some l → k ≠ key → ∀ ip ∈ ips, ip ∉ l)
    (hcut : Cut desired s e t) : t.Guards key ips apart past := by
  cases hcut with
  | between hpath => exact h.path hapart hpath
  | forget hpath =>
    have hu := h.path hapart hpath
    exact ⟨hu.peer, hu.unmanaged, hu.lookup_erase, hu.untouched⟩
  | record hpath hd hips =>
    have hu := h.path hapart hpath
    exact ⟨hu.peer, hu.unmanaged, hu.lookup_insert hips, hu.untouched⟩

end

end Pass.Guards

structure World.Guards (key : String) (ips : List String) (apart : Prop) (past : List Issued)
    (w : World) : Prop where
  peer : ∃ p, w.interface.lookup key = some p ∧ p.Spared ips apart
  unmanaged : ∀ a, w.agent = some a → a.managed.lookup key = none
  unfiled : w.file.lookup key = none
  untouched : ∃ new, w.issued = past ++ new ∧ ∀ i ∈ new, i.key ≠ key

namespace World.Guards

lemma endPass (h : Pass.Guards key ips apart past s) (alive : Bool) :
    (World.endPass s alive).Guards key ips apart past := by
  refine ⟨h.peer, fun a ha => ?_, h.unfiled, h.untouched⟩
  cases alive with
  | false => cases ha
  | true =>
    cases ha
    exact h.unmanaged

lemma step (h : w.Guards key ips apart past) (hnot : ¬e.Touches key)
    (hapart : apart → ∀ ip ∈ ips, ¬e.Serves key ip) (hstep : w.step e = some v) :
    v.Guards key (ips.filter fun ip => ¬e.Gives ip) apart past := by
  have hall {f : Event} (hf : ∀ ip, ¬f.Gives ip) : (ips.filter fun ip => ¬f.Gives ip) = ips :=
    List.filter_eq_self.2 fun ip _ => decide_eq_true (hf ip)
  cases e with
  | opens =>
    rw [hall fun _ => id]
    obtain ⟨-, hv⟩ := Option.ite_none_right_eq_some.1 hstep
    cases hv
    refine ⟨h.peer, fun a ha => ?_, h.unfiled, h.untouched⟩
    cases ha
    exact h.unfiled
  | crash =>
    rw [hall fun _ => id]
    cases hstep
    exact ⟨h.peer, nofun, h.unfiled, h.untouched⟩
  | pass desired oracle =>
    rw [hall fun _ => id]
    obtain ⟨a, ha, rfl⟩ := Option.map_eq_some_iff.1 hstep
    have hs : (w.beginPass a oracle).Guards key ips apart past :=
      ⟨h.peer, h.unmanaged a ha, h.unfiled, h.untouched⟩
    have hlists (happ : apart) k l (hl : desired.lookup k = some l) (hne : k ≠ key) ip
        (hip : ip ∈ ips) (hgiven : ip ∈ l) : False :=
      hapart happ ip hip ⟨⟨k, l⟩, AList.mem_lookup_iff.1 hl, hne, hgiven⟩
    obtain ⟨changes, s, heq, hpath, -⟩ | ⟨e, s, heq, -, hcut⟩ := w.reconcile_cases
    · rw [heq]
      exact endPass (hs.path hlists hpath) true
    · rw [heq]
      exact endPass (hs.cut hlists hcut) _
  | operatorSet k l =>
    cases hstep
    obtain ⟨p, hp, hspared⟩ := h.peer
    refine ⟨⟨p.release l, ?_, hspared.operator, fun happ => ?_⟩, h.unmanaged, h.unfiled,
      h.untouched⟩
    · rw [Interface.lookup_setAllowedIps, if_neg (Ne.symm hnot), hp, map_some]
    · rw [Peer.release, hspared.keeps happ]
      rfl
  | operatorRemove k =>
    rw [hall fun _ => id]
    cases hstep
    obtain ⟨p, hp, hspared⟩ := h.peer
    refine ⟨⟨p, ?_, hspared⟩, h.unmanaged, h.unfiled, h.untouched⟩
    rw [Interface.lookup_removePeer, if_neg (Ne.symm hnot), hp]

lemma run (h : w.Guards key ips apart past) (hnot : ∀ e ∈ es, ¬e.Touches key)
    (hapart : apart → ∀ e ∈ es, ∀ ip ∈ ips, ¬e.Serves key ip)
    (hrun : Transition.exec World.step w es = some v) :
    v.Guards key (ips.filter fun ip => ∀ e ∈ es, ¬e.Gives ip) apart past := by
  induction es generalizing w ips with
  | nil =>
    cases hrun
    rwa [List.filter_eq_self.2 fun _ _ => by simp]
  | cons e es ih =>
    obtain ⟨u, hu, hrun⟩ := exec_cons_eq_some.1 hrun
    have hstep := h.step (hnot e List.mem_cons_self)
      (fun happ => hapart happ e List.mem_cons_self) hu
    have hrest := ih hstep (fun f hf => hnot f (List.mem_cons_of_mem e hf))
      (fun happ f hf ip hip =>
        hapart happ f (List.mem_cons_of_mem e hf) ip (List.mem_filter.1 hip).1) hrun
    rw [List.filter_filter] at hrest
    simpa only [List.forall_mem_cons, Bool.decide_and, Bool.and_comm] using hrest

lemma operatorSet (h : w.Owned) (hfile : w.file.lookup key = none)
    (hstep : w.step (.operatorSet key ips) = some v) (apart : Prop) :
    v.Guards key ips apart w.issued := by
  cases hstep
  have hput := (Interface.lookup_setAllowedIps w.interface key ips false key).trans (if_pos rfl)
  refine ⟨⟨_, hput, ?_, fun _ => rfl⟩, fun a ha => ?_, hfile, [], ?_, nofun⟩
  · cases hp : w.interface.lookup key with
    | none => rfl
    | some p =>
      -- a peer of the agent's would be in the file
      cases hb : p.byAgent with
      | false => exact hb
      | true =>
        have hsome := h.owned key p hp hb
        rw [hfile] at hsome
        cases hsome
  · have hkept := (h.running a ha {}).kept key
    cases hm : a.managed.lookup key with
    | none => rfl
    | some r =>
      have hsome := hkept (isSome_of_eq_some hm)
      rw [World.beginPass, hfile] at hsome
      cases hsome
  · rw [List.append_nil]

end World.Guards

/-- Unless a write that forgets a key fails after it replaced the file, the agent owns what it added
and nothing else, through every failure, stop, crash and restart. An operator's peer that the file
does not name stays, no call names it, and if no served list has one of its addresses for another
key, it loses only those that the operator gives to another peer. -/
theorem agent_owns_its_peers (es : List Event) (w : World)
    (hrun : Transition.exec World.step World.start es = some w) (hdurable : ∀ e ∈ es, e.Durable) :
    (∀ i ∈ w.issued, i.inFile = true) ∧
      (∀ key p, w.interface.lookup key = some p → p.byAgent = true →
        (w.file.lookup key).isSome) ∧
      ∀ xs key ips ys u, es = xs ++ .operatorSet key ips :: ys →
        Transition.exec World.step World.start xs = some u → u.file.lookup key = none →
        (∀ e ∈ ys, ¬e.Touches key) →
        ∃ p new, w.interface.lookup key = some p ∧ p.byAgent = false ∧
          w.issued = u.issued ++ new ∧ (∀ i ∈ new, i.key ≠ key) ∧
          ((∀ e ∈ ys, ∀ ip ∈ ips, ¬e.Serves key ip) →
            p.allowedIps = ips.filter fun ip => ∀ e ∈ ys, ¬e.Gives ip) := by
  have howned {fs : List Event} {v : World} (hfs : ∀ e ∈ fs, e.Durable)
      (hv : Transition.exec World.step World.start fs = some v) : v.Owned :=
    (Along.of_forall hfs World.start).invariant (fun _ _ _ h hd hs => h.step hd hs)
      World.Owned.start hv
  have hw := howned hdurable hrun
  refine ⟨hw.issued, hw.owned, ?_⟩
  rintro xs key ips ys u rfl hu hfile hnot
  obtain ⟨u', hu', hrest⟩ := exec_append_eq_some.1 hrun
  cases hu.symm.trans hu'
  obtain ⟨v, hv, hys⟩ := exec_cons_eq_some.1 hrest
  have huowned := howned (fun e he => hdurable e (List.mem_append_left _ he)) hu
  have hset := World.Guards.operatorSet huowned hfile hv (∀ e ∈ ys, ∀ ip ∈ ips, ¬e.Serves key ip)
  have hguards := hset.run hnot id hys
  obtain ⟨p, hp, hspared⟩ := hguards.peer
  obtain ⟨new, hnew, hkeys⟩ := hguards.untouched
  exact ⟨p, new, hp, hspared.operator, hnew, hkeys, hspared.keeps⟩

def sampleDesired : PeerSet := AList.insert "k" ["10.7.0.2/32"] ∅

/-- The state file is replaced and the flush of its directory fails: the agent still remembers a
peer it removed and forgot. -/
def sampleForgotten : List Event :=
  [.opens, .pass sampleDesired {}, .pass ∅ { forgets := [.failAfter] }]

/-- The operator then adds a peer of that key, which the file does not hold, and the next pass
removes it. -/
theorem forgotten_key_removed :
    ∃ u w, Transition.exec World.step World.start sampleForgotten = some u ∧
      u.file.lookup "k" = none ∧
      Transition.exec World.step u [.operatorSet "k" ["10.7.0.9/32"], .pass ∅ {}] = some w ∧
      w.interface.lookup "k" = none ∧ ∃ i ∈ w.issued, i.inFile = false := by
  have hrun : (Transition.exec World.step World.start sampleForgotten).any (fun u =>
      (u.file.lookup "k").isNone &&
      (Transition.exec World.step u [.operatorSet "k" ["10.7.0.9/32"], .pass ∅ {}]).any fun w =>
        (w.interface.lookup "k").isNone && w.issued.any fun i => !i.inFile) = true := by
    decide +kernel
  obtain ⟨u, hu, h⟩ := (any_eq_true _ _).1 hrun
  obtain ⟨hfile, h⟩ := Bool.and_eq_true_iff.1 h
  obtain ⟨w, hw, h⟩ := (any_eq_true _ _).1 h
  obtain ⟨hnone, h⟩ := Bool.and_eq_true_iff.1 h
  obtain ⟨i, hi, hin⟩ := List.any_eq_true.1 h
  exact ⟨u, w, hu, Option.isNone_iff_eq_none.1 hfile, hw, Option.isNone_iff_eq_none.1 hnone, i, hi,
    by simpa using hin⟩

/-- The agent adds a peer; the operator adds another, which is served too and left alone; a removal
crashes, and the restarted agent forgets the key. -/
def sampleHistory : List Event :=
  [.opens, .pass sampleDesired {}, .operatorSet "o" ["10.7.0.3/32"],
    .pass (AList.insert "o" ["10.7.0.4/32"] ∅) { forgets := [.crashBefore] }, .opens,
    .pass (AList.insert "o" ["10.7.0.4/32"] ∅) {}]

theorem agent_owns_its_peers_restart :
    ∃ w, Transition.exec World.step World.start sampleHistory = some w ∧
      (∀ i ∈ w.issued, i.inFile = true) ∧
      ∃ p, w.interface.lookup "o" = some p ∧ p.byAgent = false ∧
        p.allowedIps = ["10.7.0.3/32"] := by
  have hrun : (Transition.exec World.step World.start sampleHistory).isSome ∧
      ((Transition.exec World.step World.start (sampleHistory.take 2)).any fun u =>
        (u.file.lookup "o").isNone) = true := by
    decide +kernel
  obtain ⟨w, hw⟩ := Option.isSome_iff_exists.1 hrun.1
  obtain ⟨u, hu, hfile⟩ := (any_eq_true _ _).1 hrun.2
  obtain ⟨hissued, -, hspared⟩ := agent_owns_its_peers sampleHistory w hw (by decide +kernel)
  obtain ⟨p, -, hp, hop, -, -, hkeeps⟩ := hspared (sampleHistory.take 2) "o" ["10.7.0.3/32"]
    (sampleHistory.drop 3) u rfl hu (Option.isNone_iff_eq_none.1 hfile) (by decide)
  exact ⟨w, hw, hissued, p, hp, hop, hkeeps (by decide)⟩

end Chan.WireGuard
