import Chan.WireGuard.Ownership

namespace Chan.WireGuard
open AssocMap Fallible Relation Transition

variable {w : World}

/-- No two peers share an address. -/
def PeerSet.Apart (desired : PeerSet) : Prop :=
  ∀ k l b m, desired.lookup k = some l → desired.lookup b = some m → b ≠ k → ∀ ip ∈ m, ip ∉ l

/-- The file, the memory and the interface tell the agent's peers from the operator's. -/
structure Pass.Told (s : Pass) : Prop where
  sub : Sub s.managed.lookup s.file.lookup
  operator : ∀ k p, s.interface.lookup k = some p → p.byAgent = false → s.file.lookup k = none

namespace Pass.Told

section
variable (h : Pass.Told s)
include h

lemma lookup_none (hf : s.file.lookup k = none) : s.managed.lookup k = none := by
  cases hm : s.managed.lookup k with
  | none => rfl
  | some r => cases hf.symm.trans (h.sub k r hm)

lemma byAgent (hp : s.interface.lookup k = some p)
    (hm : s.managed.lookup k = some r) : p.byAgent = true := by
  cases hb : p.byAgent with
  | true => rfl
  | false => cases (h.lookup_none (h.operator k p hp hb)).symm.trans hm

lemma byAgent_put (hm : s.managed.lookup k = some r) :
    ((s.interface.lookup k).map Peer.byAgent).getD true = true := by
  cases hp : s.interface.lookup k with
  | none => rfl
  | some p => exact h.byAgent hp hm

lemma insert_none (hb : p.byAgent = false) (hp : s.interface.lookup b = some p)
    (hips : ∀ p, s.interface.lookup k = some p → p.allowedIps = ips ∧ (s.managed.lookup k).isSome) :
    (s.managed.insert k ips).lookup b = none := by
  have hnone := h.lookup_none (h.operator b p hp hb)
  have hne : b ≠ k := by
    rintro rfl
    have hsome := (hips p hp).2
    rw [hnone] at hsome
    cases hsome
  rw [AList.lookup_insert_ne hne, hnone]

lemma erase_none (hb : p.byAgent = false) (hp : s.interface.lookup b = some p) :
    (s.managed.erase k).lookup b = none := by
  by_cases hk : b = k
  · rw [hk, AList.lookup_erase]
  · rw [AList.lookup_erase_ne hk, h.lookup_none (h.operator b p hp hb)]

lemma effect (heffect : Effect desired s t) : t.Told := by
  cases heffect with
  | quiet | issueRemove | issuePut => exact ⟨h.sub, h.operator⟩
  | remove => exact ⟨h.sub, fun k p hp => h.operator k p (Interface.removePeer_eq_some hp).2⟩
  | forget => exact ⟨.refl _, fun b p hp hb => h.erase_none hb hp⟩
  | record _ hips => exact ⟨.refl _, fun b p hp hb => h.insert_none hb hp hips⟩
  | put hm =>
    refine ⟨h.sub, fun b p hp hb => ?_⟩
    rcases Interface.setAllowedIps_eq_some hp with ⟨rfl, rfl⟩ | ⟨-, q, hq, rfl⟩
    · cases (h.byAgent_put hm).symm.trans hb
    · exact h.operator b q hq hb

end

end Pass.Told

/-- Where the record of a peer is the desired list, the interface has it. -/
structure Pass.Sound (desired : PeerSet) (s : Pass) : Prop extends s.Told where
  agent : ∀ k p, s.interface.lookup k = some p → p.byAgent = true →
    ∃ r, s.managed.lookup k = some r ∧ (desired.lookup k = some r → p.allowedIps = r)

structure Pass.Exact (s : Pass) : Prop extends s.Told where
  agent : ∀ k p, s.interface.lookup k = some p → p.byAgent = true →
    s.managed.lookup k = some p.allowedIps

lemma Pass.Exact.sound (h : Pass.Exact s) (desired : PeerSet) : s.Sound desired :=
  ⟨h.toTold, fun k p hp hb => ⟨_, h.agent k p hp hb, fun _ => rfl⟩⟩

namespace Pass.Sound

lemma effect (h : Pass.Sound desired s) (hapart : desired.Apart) (heffect : Effect desired s t) :
    t.Sound desired := by
  refine ⟨h.toTold.effect heffect, fun b p hp hb => ?_⟩
  cases heffect with
  | quiet | issueRemove | issuePut => exact h.agent b p hp hb
  | remove => exact h.agent b p (Interface.removePeer_eq_some hp).2 hb
  | @forget k _ hd hgone =>
    have hne : b ≠ k := by rintro rfl; cases hgone.symm.trans hp
    simpa only [Pass.store, AList.lookup_erase_ne hne] using h.agent b p hp hb
  | @record k ips _ hd hips =>
    by_cases hne : b = k
    · subst hne
      exact ⟨ips, AList.lookup_insert _, fun _ => (hips p hp).1⟩
    · simpa only [Pass.store, AList.lookup_insert_ne hne] using h.agent b p hp hb
  | @put r k ips _ hm hd hcovered =>
    rcases Interface.setAllowedIps_eq_some hp with ⟨rfl, rfl⟩ | ⟨hne, q, hq, rfl⟩
    · exact ⟨r, hm, fun hr => Option.some.inj (hd.symm.trans hr)⟩
    · obtain ⟨rb, hrb, hsame⟩ := h.agent b q hq hb
      refine ⟨rb, hrb, fun hr => ?_⟩
      rw [Peer.release_eq_self (by rw [hsame hr]; exact hapart k ips b rb hd hr hne), hsame hr]

lemma path (h : Pass.Sound desired s) (hapart : desired.Apart) (hpath : Path desired s t) :
    t.Sound desired := by
  induction hpath with
  | refl => exact h
  | tail _ hstep ih => exact ih.effect hapart hstep

lemma exact_of_settled (h : Pass.Sound desired s) (hs : Settled desired s) : s.Exact := by
  refine ⟨h.toTold, fun k p hp hb => ?_⟩
  obtain ⟨r, hr, hsame⟩ := h.agent k p hp hb
  obtain ⟨l, hl⟩ := Option.isSome_iff_exists.1 (hs.covered k r hr)
  rcases (hs.applied k l hl).2 with hm | hm
  · cases hr.symm.trans hm
    rw [hr, hsame hl]
  · cases hr.symm.trans hm

end Pass.Sound

def PeerSet.Repeats (desired managed : PeerSet) : Prop :=
  ∀ k r l, managed.lookup k = some r → desired.lookup k = some l → r = l

lemma PeerSet.Repeats.insert (h : PeerSet.Repeats desired managed)
    (hd : desired.lookup k = some ips) : desired.Repeats (managed.insert k ips) := by
  intro b r l hr hl
  rcases lookup_insert_eq_some hr with ⟨rfl, rfl⟩ | ⟨-, hr⟩
  · exact Option.some.inj (hd.symm.trans hl)
  · exact h b r l hr hl

namespace Pass.Exact

lemma record (h : Pass.Exact s)
    (hips : ∀ p, s.interface.lookup k = some p → p.allowedIps = ips ∧ (s.managed.lookup k).isSome)
    (b : String) (p : Peer) (hp : s.interface.lookup b = some p) (hb : p.byAgent = true) :
    (s.managed.insert k ips).lookup b = some p.allowedIps := by
  by_cases hne : b = k
  · subst hne
    rw [AList.lookup_insert, (hips p hp).1]
  · rw [AList.lookup_insert_ne hne, h.agent b p hp hb]

lemma forget (h : Pass.Exact s) (hgone : s.interface.lookup k = none) (b : String) (p : Peer)
    (hp : s.interface.lookup b = some p) (hb : p.byAgent = true) :
    (s.managed.erase k).lookup b = some p.allowedIps := by
  have hne : b ≠ k := by rintro rfl; cases hgone.symm.trans hp
  rw [AList.lookup_erase_ne hne, h.agent b p hp hb]

lemma effect (h : Pass.Exact s) (hrepeats : desired.Repeats s.managed) (hapart : desired.Apart)
    (heffect : Effect desired s t) : t.Exact ∧ desired.Repeats t.managed := by
  refine ⟨⟨h.toTold.effect heffect, fun b p hp hb => ?_⟩, ?_⟩
  · cases heffect with
    | quiet | issueRemove | issuePut => exact h.agent b p hp hb
    | remove => exact h.agent b p (Interface.removePeer_eq_some hp).2 hb
    | forget _ hgone => exact h.forget hgone b p hp hb
    | record _ hips => exact h.record hips b p hp hb
    | @put r k ips _ hm hd hcovered =>
      rcases Interface.setAllowedIps_eq_some hp with ⟨rfl, rfl⟩ | ⟨hne, q, hq, rfl⟩
      · cases hrepeats b r ips hm hd
        exact hm
      · have hq' := h.agent b q hq hb
        obtain ⟨l, hl⟩ := Option.isSome_iff_exists.1 (hcovered b _ hq')
        cases hrepeats b _ l hq' hl
        rw [Peer.release_eq_self (hapart k ips b _ hd hl hne)]
        exact hq'
  · cases heffect with
    | quiet | issueRemove | issuePut | remove | put => exact hrepeats
    | forget => exact fun b r l hr => hrepeats b r l (lookup_erase_eq_some hr).2
    | record hd => exact hrepeats.insert hd

lemma path (h : Pass.Exact s) (hrepeats : desired.Repeats s.managed) (hapart : desired.Apart)
    (hpath : Path desired s t) : t.Exact ∧ desired.Repeats t.managed := by
  induction hpath with
  | refl => exact ⟨h, hrepeats⟩
  | tail _ hstep ih => exact ih.1.effect ih.2 hapart hstep

end Pass.Exact

/-- Nothing goes wrong in the pass and nobody stops it. -/
structure Oracle.Clean (o : Oracle) : Prop where
  dump : o.dump = .ok
  stops : ∀ b ∈ o.stops, b = false
  calls : ∀ f ∈ o.calls, f = .ok
  forgets : ∀ f ∈ o.forgets, f = .ok
  records : ∀ f ∈ o.records, f = .ok

lemma headD_of_forall {l : List α} {d : α} (h : ∀ a ∈ l, a = d) : l.headD d = d := by
  cases l with
  | nil => rfl
  | cons a l => exact h a List.mem_cons_self

namespace Agent

/-- A program that only an unclean oracle can cut short. -/
def Smooth (x : Agent α) : Prop :=
  Triple (fun s => s.oracle.Clean) x (fun _ s => s.oracle.Clean) fun _ _ => False

lemma Smooth.pure (a : α) : Smooth (Pure.pure a) := Triple.pure fun _ h => h

lemma Smooth.bind (hx : Smooth x) (hf : ∀ a, Smooth (f a)) :
    Smooth (x >>= f) :=
  Triple.bind hx hf

lemma Smooth.get_bind (hf : ∀ s, Smooth (f s)) : Smooth (get >>= f) :=
  Triple.get_bind fun t ht => (hf t).pre fun _ hs => hs ▸ ht

lemma Smooth.ite [Decidable c] (hx : Smooth x) (hy : Smooth y) :
    Smooth (if c then x else y) :=
  Triple.ite (fun _ => hx) fun _ => hy

lemma smooth_checkStop (changes : Changes) : Smooth (checkStop changes) := by
  refine Triple.bind (Q := fun b s => b = false ∧ s.oracle.Clean) (fun s hs => ?_) fun b => ?_
  · exact ⟨headD_of_forall hs.stops, hs.dump, fun b hb => hs.stops b (List.mem_of_mem_tail hb),
      hs.calls, hs.forgets, hs.records⟩
  · refine Triple.ite (fun hb s hs => ?_) fun _ => Triple.pure fun s hs => hs.2
    cases hb.symm.trans hs.1

lemma smooth_wgSet (key : String) (effect : Interface → Interface) :
    Smooth (wgSet key effect) := by
  refine Triple.bind (Q := fun f s => f = .ok ∧ s.oracle.Clean) (fun s hs => ?_) fun fate => ?_
  · exact ⟨headD_of_forall hs.calls, hs.dump, hs.stops,
      fun f hf => hs.calls f (List.mem_of_mem_tail hf), hs.forgets, hs.records⟩
  · rintro s ⟨rfl, hs⟩
    exact hs

lemma smooth_forgetPeer (key : String) : Smooth (forgetPeer key) := by
  refine Triple.bind (Q := fun f s => f = .ok ∧ s.oracle.Clean) (fun s hs => ?_) fun fate => ?_
  · exact ⟨headD_of_forall hs.forgets, hs.dump, hs.stops, hs.calls,
      fun f hf => hs.forgets f (List.mem_of_mem_tail hf), hs.records⟩
  · rintro s ⟨rfl, hs⟩
    exact hs

lemma smooth_recordPeer : Smooth (recordPeer key ips) := by
  refine Triple.bind (Q := fun f s => f = .ok ∧ s.oracle.Clean) (fun s hs => ?_) fun fate => ?_
  · exact ⟨headD_of_forall hs.records, hs.dump, hs.stops, hs.calls, hs.forgets,
      fun f hf => hs.records f (List.mem_of_mem_tail hf)⟩
  · rintro s ⟨rfl, hs⟩
    exact hs

lemma smooth_removeGone (present gone : List String) (changes : Changes) :
    Smooth (removeGone present gone changes) := by
  induction gone generalizing changes with
  | nil => exact .pure _
  | cons key gone ih =>
    refine .bind (smooth_checkStop changes) fun _ => .bind (.ite ?_ (.pure _)) fun changes =>
      .bind (smooth_forgetPeer key) fun _ => ih changes
    exact .bind (smooth_wgSet _ _) fun _ => .pure _

lemma smooth_logConflict : Smooth (logConflict key changes) := by
  refine Triple.get_bind fun t ht => .ite (fun _ => .pure fun s hs => hs ▸ ht) fun _ => ?_
  exact fun _ _ => ht

lemma smooth_applyPeer (present : List String) (key : String) (ips : List String)
    (changes : Changes) : Smooth (applyPeer present key ips changes) := by
  refine .get_bind fun s => ?_
  cases s.managed.lookup key with
  | none =>
    exact .ite smooth_logConflict (.bind smooth_recordPeer fun _ =>
      .bind (smooth_wgSet _ _) fun _ => .pure _)
  | some recorded =>
    refine .ite (.bind (smooth_wgSet _ _) fun _ => ?_) (.ite (.bind (smooth_wgSet _ _) fun _ => ?_)
      (.pure _))
    · exact .ite (.bind smooth_recordPeer fun _ => .pure _) (.pure _)
    · exact .bind smooth_recordPeer fun _ => .pure _

lemma smooth_applyDesired (present : List String) (rest : List (String × List String))
    (changes : Changes) : Smooth (applyDesired present rest changes) := by
  induction rest generalizing changes with
  | nil => exact .pure _
  | cons e rest ih =>
    exact .bind (smooth_checkStop changes) fun _ =>
      .bind (smooth_applyPeer present e.1 e.2 changes) fun changes => ih changes

lemma smooth_reconcile (desired : PeerSet) : Smooth (reconcile desired) := by
  refine .bind (Triple.get_bind fun t ht => ?_) fun present => .get_bind fun s =>
    .bind (smooth_removeGone _ _ _) fun _ => .bind (smooth_applyDesired _ _ _) fun _ =>
    .bind (fun _ hs => hs) fun _ => .pure _
  rintro s rfl
  rw [ht.dump]
  exact ht

end Agent

/-- The record of every peer of the agent's is what the interface has, in the file and in the memory
of a running agent. -/
structure World.Exact (w : World) : Prop where
  operator : ∀ k p, w.interface.lookup k = some p → p.byAgent = false → w.file.lookup k = none
  agent : ∀ k p, w.interface.lookup k = some p → p.byAgent = true →
    w.file.lookup k = some p.allowedIps
  running : ∀ a, w.agent = some a → ∀ oracle, (w.beginPass a oracle).Exact

/-- What the operator and the gateway may do: the operator leaves the keys of the state file alone,
and no address is served for two peers. -/
def World.Allowed (w : World) : Event → Prop
  | .operatorSet key _ => w.file.lookup key = none
  | .operatorRemove key => w.file.lookup key = none
  | .pass desired _ => desired.Apart
  | _ => True

/-- A pass in which anything goes wrong changes no list of a managed peer, and the operator takes no
address of the agent's. -/
def World.Undisturbed (w : World) : Event → Prop
  | .pass desired oracle => .failAfter ∉ oracle.forgets ∧
      (oracle.Clean ∨ ∀ a, w.agent = some a → desired.Repeats a.managed)
  | .operatorSet _ ips => ∀ k p, w.interface.lookup k = some p → p.byAgent = true →
      ∀ ip ∈ p.allowedIps, ip ∉ ips
  | _ => True

namespace World.Exact

lemma endPass (h : Pass.Exact s) (alive : Bool) : (World.endPass s alive).Exact := by
  refine ⟨h.operator, fun k p hp hb => h.sub k _ (h.agent k p hp hb), fun a ha oracle => ?_⟩
  cases alive with
  | false => cases ha
  | true =>
    cases ha
    exact ⟨⟨h.sub, h.operator⟩, h.agent⟩

lemma cut (h : Pass.Exact s) (hrepeats : desired.Repeats s.managed) (hapart : desired.Apart)
    (hdurable : .failAfter ∉ s.oracle.forgets) (hcut : Cut desired s e t) :
    (World.endPass t (decide (e ≠ .crashed))).Exact := by
  cases hcut with
  | between hpath => exact endPass (h.path hrepeats hapart hpath).1 _
  | @forget u k hpath hd hgone he =>
    obtain ⟨hu, -⟩ := h.path hrepeats hapart hpath
    obtain rfl := he.resolve_right fun hf => hdurable hf.2
    exact ⟨fun b p hp hb => hu.erase_none hb hp, hu.forget hgone, nofun⟩
  | @record u k ips hpath hd hips he =>
    obtain ⟨hu, hur⟩ := h.path hrepeats hapart hpath
    have hsub : Sub u.managed.lookup (u.managed.insert k ips).lookup := by
      intro b r hr
      by_cases hne : b = k
      · subst hne
        exact (AList.lookup_insert _).trans (congrArg some (hur b r ips hr hd).symm)
      · exact (AList.lookup_insert_ne hne).trans hr
    exact endPass (s := u.write (u.managed.insert k ips))
      ⟨⟨hsub, fun b p hp hb => hu.insert_none hb hp hips⟩, hu.agent⟩ _

lemma interface (h : w.Exact)
    (hagent : ∀ k p, m.lookup k = some p → p.byAgent = true → w.interface.lookup k = some p)
    (hoperator : ∀ k p, m.lookup k = some p → p.byAgent = false → w.file.lookup k = none) :
    { w with interface := m }.Exact := by
  refine ⟨hoperator, fun k p hp hb => h.agent k p (hagent k p hp hb) hb, fun a ha oracle => ?_⟩
  have hrun := h.running a ha oracle
  exact ⟨⟨hrun.sub, hoperator⟩, fun k p hp hb => hrun.agent k p (hagent k p hp hb) hb⟩

lemma pass (h : w.Exact) (ha : w.agent = some a) (hapart : desired.Apart)
    (hu : w.Undisturbed (.pass desired oracle)) : (w.reconcile a desired oracle).2.Exact := by
  have hs := h.running a ha oracle
  obtain ⟨changes, s, heq, hpath, hsettled⟩ | ⟨e, s, heq, hnot, hcut⟩ :=
    w.reconcile_cases
  · rw [heq]
    exact endPass (((hs.sound desired).path hapart hpath).exact_of_settled hsettled) true
  · rcases hu.2 with hclean | hrepeats
    · -- nothing went wrong, so the pass was not cut short
      have hsmooth := Agent.smooth_reconcile desired (w.beginPass a oracle) hclean
      unfold reconcile at hnot
      generalize Fallible.exec (Agent.reconcile desired) (w.beginPass a oracle) = r at hsmooth hnot
      obtain ⟨e | changes, s⟩ := r
      · exact hsmooth.elim
      · exact absurd rfl (hnot changes)
    · rw [heq]
      exact cut hs (hrepeats a ha) hapart hu.1 hcut

lemma step {w v : World} (h : w.Exact) (hallowed : w.Allowed e) (hu : w.Undisturbed e)
    (hstep : w.step e = some v) : v.Exact := by
  cases e with
  | opens =>
    obtain ⟨-, hv⟩ := Option.ite_none_right_eq_some.1 hstep
    cases hv
    refine ⟨h.operator, h.agent, fun a ha oracle => ?_⟩
    cases ha
    exact ⟨⟨.refl _, h.operator⟩, h.agent⟩
  | crash =>
    cases hstep
    exact ⟨h.operator, h.agent, nofun⟩
  | pass desired oracle =>
    obtain ⟨a, ha, rfl⟩ := Option.map_eq_some_iff.1 hstep
    exact h.pass ha hallowed hu
  | operatorSet key ips =>
    cases hstep
    refine h.interface (fun k p hp hb => ?_) fun k p hp hb => ?_
    · rcases Interface.setAllowedIps_eq_some hp with ⟨rfl, rfl⟩ | ⟨hne, q, hq, rfl⟩
      · -- the key is not the agent's: the file does not hold it
        cases hq : w.interface.lookup k with
        | none => rw [hq] at hb; cases hb
        | some q =>
          rw [hq] at hb
          cases (h.agent k q hq hb).symm.trans hallowed
      · rw [Peer.release_eq_self (hu k q hq hb), hq]
    · rcases Interface.setAllowedIps_eq_some hp with ⟨rfl, rfl⟩ | ⟨hne, q, hq, rfl⟩
      · exact hallowed
      · exact h.operator k q hq hb
  | operatorRemove key =>
    cases hstep
    exact h.interface (fun k p hp hb => (Interface.removePeer_eq_some hp).2)
      fun k p hp hb => h.operator k p (Interface.removePeer_eq_some hp).2 hb

lemma start : World.start.Exact := by
  refine ⟨fun k p hp => ?_, fun k p hp => ?_, nofun⟩ <;>
    · rw [World.start, AList.lookup_empty] at hp
      cases hp

end World.Exact

/-- A whole pass brings the interface to the served list, after any history in which the passes that
went wrong changed no list of a managed peer. -/
theorem reconcile_converges (es : List Event) (w v : World) (a : Reconciler) (desired : PeerSet)
    (oracle : Oracle) (changes : Changes)
    (hrun : Transition.exec World.step World.start es = some w)
    (hallowed : Along World.step World.Allowed World.start es)
    (hundisturbed : Along World.step World.Undisturbed World.start es) (hapart : desired.Apart)
    (ha : w.agent = some a) (hdone : w.reconcile a desired oracle = (.done changes, v)) :
    (∀ key ips, desired.lookup key = some ips → v.interface.lookup key = some ⟨ips, true⟩ ∨
        ∃ p, v.interface.lookup key = some p ∧ p.byAgent = false) ∧
      ∀ key p, v.interface.lookup key = some p → desired.lookup key = none → p.byAgent = false := by
  have hw : w.Exact :=
    (hallowed.and hundisturbed).invariant (fun _ _ _ h hc hs => h.step hc.1 hc.2 hs)
      World.Exact.start hrun
  obtain ⟨c, s, heq, hpath, hsettled⟩ | ⟨e, s, -, hnot, -⟩ := w.reconcile_cases
  swap
  · exact absurd (congrArg Prod.fst hdone) (hnot changes)
  cases hdone.symm.trans heq
  have hsound := ((hw.running a ha oracle).sound desired).path hapart hpath
  refine ⟨fun key ips hd => ?_, fun key p hp hd => ?_⟩
  · obtain ⟨hsome, hm⟩ := hsettled.applied key ips hd
    obtain ⟨p, hp⟩ := Option.isSome_iff_exists.1 hsome
    cases hb : p.byAgent with
    | false => exact .inr ⟨p, hp, hb⟩
    | true =>
      obtain ⟨r, hr, hsame⟩ := hsound.agent key p hp hb
      rcases hm with hm | hm
      · cases hr.symm.trans hm
        refine .inl (hp.trans ?_)
        rw [← hsame hd, ← hb]
      · cases hr.symm.trans hm
  · cases hb : p.byAgent with
    | false => rfl
    | true =>
      obtain ⟨r, hr, -⟩ := hsound.agent key p hp hb
      have hcovered := hsettled.covered key r hr
      rw [hd] at hcovered
      cases hcovered

def sampleMoved : PeerSet := AList.insert "k" ["10.7.0.3/32"] ∅

/-- What a running agent's pass leaves, if it goes through. -/
def World.passed (w : World) (desired : PeerSet) : Option World :=
  w.agent.bind fun a => match w.reconcile a desired {} with
    | (.done _, v) => some v
    | _ => none

lemma World.passed_eq_some (h : w.passed desired = some v) :
    ∃ a changes, w.agent = some a ∧ w.reconcile a desired {} = (.done changes, v) := by
  obtain ⟨a, ha, h⟩ := Option.bind_eq_some_iff.1 h
  split at h
  case h_1 changes _ heq =>
    cases h
    exact ⟨a, changes, ha, heq⟩
  case h_2 => cases h

/-- The new list reaches the interface and its record does not; then the old list is served
again. -/
theorem unrecorded_update_stays : ∃ w a changes v, Transition.exec World.step World.start
        [.opens, .pass sampleDesired {}, .pass sampleMoved { records := [.failBefore] }] = some w ∧
      w.agent = some a ∧ w.reconcile a sampleDesired {} = (.done changes, v) ∧
      sampleDesired.lookup "k" = some ["10.7.0.2/32"] ∧
      v.interface.lookup "k" = some ⟨["10.7.0.3/32"], true⟩ := by
  have hrun : (Transition.exec World.step World.start
      [.opens, .pass sampleDesired {}, .pass sampleMoved { records := [.failBefore] }]).any
      (fun w => (w.passed sampleDesired).any fun v =>
        decide (v.interface.lookup "k" = some ⟨["10.7.0.3/32"], true⟩)) = true := by
    decide +kernel
  obtain ⟨w, hw, h⟩ := (Option.any_eq_true _ _).1 hrun
  obtain ⟨v, hv, h⟩ := (Option.any_eq_true _ _).1 h
  obtain ⟨a, changes, ha, hdone⟩ := World.passed_eq_some hv
  exact ⟨w, a, changes, v, hw, ha, hdone, by decide +kernel, of_decide_eq_true h⟩

lemma PeerSet.apart_singleton : PeerSet.Apart (AList.insert key ips ∅) := by
  intro k l b m hk hb hne
  rcases lookup_insert_eq_some hk with ⟨rfl, -⟩ | ⟨-, hk⟩
  · rcases lookup_insert_eq_some hb with ⟨rfl, -⟩ | ⟨-, hb⟩
    · exact absurd rfl hne
    · cases (AList.lookup_empty b).symm.trans hb
  · cases (AList.lookup_empty k).symm.trans hk

/-- The second pass is served the list that is managed, and cannot read the interface. -/
def sampleMoves : List Event :=
  [.operatorSet "o" ["10.7.0.9/32"], .opens, .pass sampleDesired {},
    .pass sampleDesired { dump := .failBefore }]

theorem reconcile_converges_moved :
    ∃ w v, Transition.exec World.step World.start sampleMoves = some w ∧
      w.passed sampleMoved = some v ∧
      (v.interface.lookup "k" = some ⟨["10.7.0.3/32"], true⟩ ∨
        ∃ p, v.interface.lookup "k" = some p ∧ p.byAgent = false) := by
  have hrun : (Transition.exec World.step World.start sampleMoves).any
      (fun w => (w.passed sampleMoved).isSome) = true := by
    decide +kernel
  obtain ⟨w, hw, h⟩ := (Option.any_eq_true _ _).1 hrun
  obtain ⟨v, hv⟩ := Option.isSome_iff_exists.1 h
  obtain ⟨a, changes, ha, hdone⟩ := World.passed_eq_some hv
  have hclean : Oracle.Clean {} := ⟨rfl, nofun, nofun, nofun, nofun⟩
  have hallowed : Along World.step World.Allowed World.start sampleMoves :=
    ⟨rfl, fun _ _ => ⟨trivial, fun _ _ => ⟨PeerSet.apart_singleton, fun _ _ =>
      ⟨PeerSet.apart_singleton, fun _ _ => trivial⟩⟩⟩⟩
  have hundisturbed : Along World.step World.Undisturbed World.start sampleMoves := by
    refine ⟨fun k p hp => ?_, fun u hu => ⟨trivial, fun v hv => ⟨⟨nofun, .inl hclean⟩, fun x hx =>
      ⟨⟨nofun, .inr fun a ha => ?_⟩, fun _ _ => trivial⟩⟩⟩⟩
    · cases (AList.lookup_empty k).symm.trans hp
    · have hpassed : Transition.exec World.step World.start (sampleMoves.take 3) = some x :=
        exec_cons_eq_some.2 ⟨u, hu, exec_cons_eq_some.2 ⟨v, hv, exec_cons_eq_some.2 ⟨x, hx, rfl⟩⟩⟩
      have hmanaged : (Transition.exec World.step World.start (sampleMoves.take 3)).all (fun x =>
          x.agent.all fun a => decide (a.managed.entries = sampleDesired.entries)) = true := by
        decide +kernel
      rw [hpassed, Option.all_some, ha, Option.all_some] at hmanaged
      rw [AList.ext (of_decide_eq_true hmanaged)]
      intro k r ips hr hips
      cases hr.symm.trans hips
      rfl
  obtain ⟨hserved, -⟩ := reconcile_converges sampleMoves w v a sampleMoved {} changes hw hallowed
    hundisturbed (PeerSet.apart_singleton) ha hdone
  exact ⟨w, v, hw, hv, hserved "k" _ (AList.lookup_insert _)⟩

end Chan.WireGuard
