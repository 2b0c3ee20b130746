import Chan.WireGuard.Agent

namespace Chan.WireGuard
open AssocMap Fallible Relation List AList

lemma Interface.lookup_setAllowedIps (m : Interface) (key : String) (ips : List String)
    (byAgent : Bool) (k : String) :
    (m.setAllowedIps key ips byAgent).lookup k =
      if k = key then some ⟨ips, ((m.lookup key).map Peer.byAgent).getD byAgent⟩
      else (m.lookup k).map (Peer.release ips) := by
  rw [setAllowedIps]
  split
  case isTrue h => rw [h, lookup_insert]
  case isFalse h => rw [lookup_insert_ne h, lookup_mapWithKey]

lemma Interface.lookup_removePeer (m : Interface) (key k : String) :
    (m.removePeer key).lookup k = if k = key then none else m.lookup k := by
  rw [removePeer]
  split
  case isTrue h => rw [h, lookup_erase]
  case isFalse h => rw [lookup_erase_ne h]

namespace Pass

def issue (s : Pass) (key : String) : Pass :=
  { s with issued := s.issued ++ [⟨key, (s.file.lookup key).isSome⟩] }

def remove (s : Pass) (key : String) : Pass :=
  { s with interface := s.interface.removePeer key }

def put (s : Pass) (key : String) (ips : List String) : Pass :=
  { s with interface := s.interface.setAllowedIps key ips true }

def write (s : Pass) (next : PeerSet) : Pass := { s with file := next }

def store (s : Pass) (next : PeerSet) : Pass := { s with file := next, managed := next }

end Pass

/-- One effect of a pass toward the desired set, with what the pass knows when it takes it. -/
inductive Effect (desired : PeerSet) : Pass → Pass → Prop where
  | quiet (s : Pass) (ho : o.forgets ⊆ s.oracle.forgets) (c : List String) :
      Effect desired s { s with oracle := o, conflicts := c }
  | issueRemove (hm : s.managed.lookup k = some r) (hd : desired.lookup k = none) :
      Effect desired s (s.issue k)
  | remove (hm : s.managed.lookup k = some r) (hd : desired.lookup k = none) :
      Effect desired s (s.remove k)
  | forget (hd : desired.lookup k = none) (hgone : s.interface.lookup k = none) :
      Effect desired s (s.store (s.managed.erase k))
  | issuePut (hm : s.managed.lookup k = some r) (hd : desired.lookup k = some ips) :
      Effect desired s (s.issue k)
  | put (hm : s.managed.lookup k = some r) (hd : desired.lookup k = some ips)
      (hcovered : ∀ b r, s.managed.lookup b = some r → (desired.lookup b).isSome) :
      Effect desired s (s.put k ips)
  | record (hd : desired.lookup k = some ips)
      (hips : ∀ p, s.interface.lookup k = some p →
        p.allowedIps = ips ∧ (s.managed.lookup k).isSome) :
      Effect desired s (s.store (s.managed.insert k ips))

abbrev Path (desired : PeerSet) : Pass → Pass → Prop := ReflTransGen (Effect desired)

/-- How a pass that ended early got to its end: between two effects, or by a write of the state file
whose caller never learned of it. -/
inductive Cut (desired : PeerSet) (s₀ : Pass) (e : Exit Changes) : Pass → Prop where
  | between (h : Path desired s₀ t) : Cut desired s₀ e t
  | forget (h : Path desired s₀ s) (hd : desired.lookup k = none)
      (hgone : s.interface.lookup k = none)
      (he : e = .crashed ∨ e = .failed ∧ .failAfter ∈ s₀.oracle.forgets) :
      Cut desired s₀ e (s.write (s.managed.erase k))
  | record (h : Path desired s₀ s) (hd : desired.lookup k = some ips)
      (hips : ∀ p, s.interface.lookup k = some p →
        p.allowedIps = ips ∧ (s.managed.lookup k).isSome) (he : e = .crashed ∨ e = .failed) :
      Cut desired s₀ e (s.write (s.managed.insert k ips))

lemma Path.forgets (h : Path desired s₀ s) : s.oracle.forgets ⊆ s₀.oracle.forgets := by
  induction h with
  | refl => exact fun _ h => h
  | tail _ hstep ih =>
    cases hstep with
    | quiet _ ho => exact fun _ h => ih (ho h)
    | _ => exact ih

structure Removing (desired : PeerSet) (present : List String) (s₀ : Pass) (gone : List String)
    (s : Pass) : Prop where
  path : Path desired s₀ s
  covered : ∀ k r, s.managed.lookup k = some r → (desired.lookup k).isSome ∨ k ∈ gone
  drops : ∀ k ∈ gone, desired.lookup k = none ∧ (s.managed.lookup k).isSome
  nodup : gone.Nodup
  within : ∀ k, (s.interface.lookup k).isSome → k ∈ present
  stays : ∀ k ∈ present, (desired.lookup k).isSome → (s.interface.lookup k).isSome

structure Applying (desired : PeerSet) (present : List String) (s₀ : Pass) (todo : List String)
    (rest : List (String × List String)) (s : Pass) : Prop where
  path : Path desired s₀ s
  covered : ∀ k r, s.managed.lookup k = some r → (desired.lookup k).isSome
  wants : ∀ e ∈ rest, desired.lookup e.1 = some e.2
  nodup : (rest.map Prod.fst).Nodup
  fresh : ∀ k ∈ rest.map Prod.fst, k ∉ present → s.interface.lookup k = none
  stays : ∀ k ∈ present, (desired.lookup k).isSome → (s.interface.lookup k).isSome
  settled : ∀ k ips, desired.lookup k = some ips → k ∈ todo ∨
    (s.managed.lookup k = some ips ∧ (s.interface.lookup k).isSome) ∨
    (s.managed.lookup k = none ∧ k ∈ present)

namespace Agent

/-- An answer of the outside world changes nothing else. -/
def Quiet (I : Pass → Prop) : Prop :=
  ∀ s o, I s → o.forgets ⊆ s.oracle.forgets → I { s with oracle := o }

variable {I J : Pass → Prop} {E : Exit Changes → Pass → Prop}

lemma triple_stop (hI : Quiet I) : Triple I stop (fun _ => I) E :=
  fun s hs => hI s _ hs fun _ h => h

lemma triple_nextCall (hI : Quiet I) : Triple I nextCall (fun _ => I) E :=
  fun s hs => hI s _ hs fun _ h => h

lemma triple_nextRecord (hI : Quiet I) : Triple I nextRecord (fun _ => I) E :=
  fun s hs => hI s _ hs fun _ h => h

lemma triple_nextForget (hI : Quiet I) (hpath : ∀ s, I s → s.oracle.forgets ⊆ fates) :
    Triple I nextForget (fun fate s => I s ∧ (fate = .failAfter → .failAfter ∈ fates)) E := by
  intro s hs
  refine ⟨hI s _ hs fun _ h => mem_of_mem_tail h, fun hfate => hpath s hs ?_⟩
  cases hf : s.oracle.forgets with
  | nil => rw [hf] at hfate; cases hfate
  | cons f fs => rw [hf] at hfate; exact hfate ▸ mem_cons_self

lemma triple_wgSet (hI : Quiet I) (hissue : ∀ s, I s → I (s.issue key))
    (heffect : ∀ s, I s → J { s with interface := effect s.interface })
    (hcut : ∀ s e, I s → E e s) (hcut' : ∀ s e, J s → E e s) :
    Triple I (wgSet key effect) (fun _ => J) E := by
  refine .bind (triple_nextCall hI) fun fate =>
    .bind (Q := fun _ => I) (.modify hissue) fun _ => ?_
  exact .perform (fun s hs _ => heffect s hs) (fun s hs => ⟨hcut s _ hs, hcut s _ hs⟩)
    (fun s hs _ => hcut' _ _ (heffect s hs)) fun s hs => hcut' _ _ (heffect s hs)

lemma triple_changeManaged (hok : ∀ s, I s → J (s.store (edit s.managed)))
    (hbefore : ∀ s e, I s → E e s)
    (hfail : ∀ s, I s → fate = .failAfter → E .failed (s.write (edit s.managed)))
    (hcrash : ∀ s, I s → E .crashed (s.write (edit s.managed))) :
    Triple I (changeManaged fate edit) (fun _ => J) E := by
  intro s hs
  cases fate with
  | ok => exact hok s hs
  | failBefore | crashBefore => exact hbefore s _ hs
  | failAfter => exact hfail s hs rfl
  | crashAfter => exact hcrash s hs

end Agent

section Loops

variable {desired : PeerSet} {present : List String} {s₀ : Pass}

lemma Removing.quiet (gone : List String) : Agent.Quiet (Removing desired present s₀ gone) :=
  fun s _ h ho =>
    ⟨h.path.tail (.quiet s ho s.conflicts), h.covered, h.drops, h.nodup, h.within, h.stays⟩

section
variable (h : Removing desired present s₀ (key :: gone) s)
include h

lemma Removing.issue : Removing desired present s₀ (key :: gone) (s.issue key) := by
  obtain ⟨hd, hm⟩ := h.drops key mem_cons_self
  obtain ⟨r, hr⟩ := Option.isSome_iff_exists.1 hm
  exact ⟨h.path.tail (.issueRemove hr hd), h.covered, h.drops, h.nodup, h.within, h.stays⟩

lemma Removing.remove : Removing desired present s₀ (key :: gone) (s.remove key) := by
  obtain ⟨hd, hm⟩ := h.drops key mem_cons_self
  obtain ⟨r, hr⟩ := Option.isSome_iff_exists.1 hm
  refine ⟨h.path.tail (.remove hr hd), h.covered, h.drops, h.nodup, fun k hk => ?_,
    fun k hk hdk => ?_⟩
  · rw [Pass.remove, Interface.lookup_removePeer] at hk
    split at hk
    · cases hk
    · exact h.within k hk
  · rw [Pass.remove, Interface.lookup_removePeer, if_neg (by rintro rfl; rw [hd] at hdk; cases hdk)]
    exact h.stays k hk hdk

lemma Removing.forget (hgone : s.interface.lookup key = none) :
    Removing desired present s₀ gone (s.store (s.managed.erase key)) := by
  obtain ⟨hnot, hnodup⟩ := List.nodup_cons.1 h.nodup
  refine ⟨h.path.tail (.forget (h.drops key mem_cons_self).1 hgone), fun k r hr => ?_,
    fun k hk => ?_, hnodup, h.within, h.stays⟩
  · obtain ⟨hne, hr⟩ := lookup_erase_eq_some hr
    exact (h.covered k r hr).imp_right fun hk => (List.mem_cons.1 hk).resolve_left hne
  · obtain ⟨hd, hm⟩ := h.drops k (mem_cons_of_mem _ hk)
    refine ⟨hd, ?_⟩
    rwa [Pass.store, lookup_erase_ne (by rintro rfl; exact hnot hk)]

end

lemma Cut.of_removing (s : Pass) (e : Exit Changes) (h : Removing desired present s₀ gone s) :
    Cut desired s₀ e s :=
  .between h.path

lemma checkStop_spec (hI : Agent.Quiet I) (hcut : ∀ s e, I s → Cut desired s₀ e s)
    (changes : Changes) : Triple I (Agent.checkStop changes) (fun _ => I) (Cut desired s₀) := by
  refine .bind (Agent.triple_stop hI) fun stopped => .ite (fun _ => ?_) fun _ => ?_
  · exact .throw fun s hs => hcut s _ hs
  · exact .pure fun _ h => h

lemma dropPeer_spec (changes : Changes) :
    Triple (Removing desired present s₀ (key :: gone)) (Agent.dropPeer present key changes)
      (fun _ s => Removing desired present s₀ (key :: gone) s ∧ s.interface.lookup key = none)
      (Cut desired s₀) := by
  refine .ite (fun _ => ?_) fun hnot => .pure fun s h => ⟨h, ?_⟩
  · refine .bind (Agent.triple_wgSet (Removing.quiet _) (fun _ h => h.issue)
      (fun s h => ⟨h.remove, ?_⟩) Cut.of_removing fun s e h => .of_removing s e h.1)
      fun _ => .pure fun _ h => h
    exact (Interface.lookup_removePeer s.interface key key).trans (if_pos rfl)
  · exact Option.not_isSome_iff_eq_none.1 fun hsome => hnot (h.within key hsome)

lemma forgetPeer_spec :
    Triple (fun s => Removing desired present s₀ (key :: gone) s ∧ s.interface.lookup key = none)
      (Agent.forgetPeer key) (fun _ => Removing desired present s₀ gone) (Cut desired s₀) := by
  refine .bind (Agent.triple_nextForget (fun s o h ho => ⟨Removing.quiet _ s o h.1 ho, h.2⟩)
    fun s h => h.1.path.forgets) fun fate => ?_
  refine Agent.triple_changeManaged (fun s h => h.1.1.forget h.1.2)
    (fun s e h => .of_removing s e h.1.1)
    (fun s h hf => ?_) fun s h => ?_
  · exact .forget h.1.1.path (h.1.1.drops key mem_cons_self).1 h.1.2 (.inr ⟨rfl, h.2 hf⟩)
  · exact .forget h.1.1.path (h.1.1.drops key mem_cons_self).1 h.1.2 (.inl rfl)

lemma removeGone_spec (gone : List String) (changes : Changes) :
    Triple (Removing desired present s₀ gone) (Agent.removeGone present gone changes)
      (fun _ => Removing desired present s₀ []) (Cut desired s₀) := by
  induction gone generalizing changes with
  | nil => exact .pure fun _ h => h
  | cons key gone ih =>
    refine .bind (checkStop_spec (Removing.quiet _) Cut.of_removing changes) fun _ => ?_
    exact .bind (dropPeer_spec changes) fun changes => .bind forgetPeer_spec fun _ => ih changes

lemma Applying.quiet (todo : List String) (rest : List (String × List String)) :
    Agent.Quiet (Applying desired present s₀ todo rest) :=
  fun s _ h ho => ⟨h.path.tail (.quiet s ho s.conflicts), h.covered, h.wants, h.nodup, h.fresh,
    h.stays, h.settled⟩

lemma Cut.of_applying (s : Pass) (e : Exit Changes)
    (h : Applying desired present s₀ todo rest s) : Cut desired s₀ e s :=
  .between h.path

lemma Applying.of_removing (h : Removing desired present s₀ [] s) :
    Applying desired present s₀ ((sorted desired).map Prod.fst) (sorted desired) s := by
  refine ⟨h.path, fun k r hr => (h.covered k r hr).resolve_right (not_mem_nil), fun e he => ?_,
    nodup_sorted desired, fun k _ hnot => ?_, h.stays, fun k ips hk => .inl ?_⟩
  · exact mem_sorted.1 he
  · exact Option.not_isSome_iff_eq_none.1 fun hsome => hnot (h.within k hsome)
  · exact mem_map_of_mem (mem_sorted.2 hk)

lemma Applying.finish (h : Applying desired present s₀ (key :: todo) rest s)
    (hd : desired.lookup key = some ips)
    (hkey : (s.managed.lookup key = some ips ∧ (s.interface.lookup key).isSome) ∨
      (s.managed.lookup key = none ∧ key ∈ present)) :
    Applying desired present s₀ todo rest s := by
  refine ⟨h.path, h.covered, h.wants, h.nodup, h.fresh, h.stays, fun k ips' hk => ?_⟩
  by_cases hne : k = key
  · subst hne
    cases hd.symm.trans hk
    exact .inr hkey
  · exact (h.settled k ips' hk).imp_left fun hmem => (List.mem_cons.1 hmem).resolve_left hne

lemma Applying.issue (h : Applying desired present s₀ todo rest s)
    (hm : s.managed.lookup key = some r) (hd : desired.lookup key = some ips) :
    Applying desired present s₀ todo rest (s.issue key) :=
  ⟨h.path.tail (.issuePut hm hd), h.covered, h.wants, h.nodup, h.fresh, h.stays, h.settled⟩

lemma isSome_put (s : Pass) (key : String) (ips : List String) (k : String) :
    ((s.put key ips).interface.lookup k).isSome ↔ k = key ∨ (s.interface.lookup k).isSome := by
  rw [Pass.put, Interface.lookup_setAllowedIps]
  split
  case isTrue h => exact iff_of_true rfl (.inl h)
  case isFalse h => rw [Option.isSome_map, or_iff_right h]

lemma Applying.put (h : Applying desired present s₀ todo rest s)
    (hm : s.managed.lookup key = some r) (hd : desired.lookup key = some ips)
    (hrest : key ∉ rest.map Prod.fst) :
    Applying desired present s₀ todo rest (s.put key ips) := by
  refine ⟨h.path.tail (.put hm hd h.covered), h.covered, h.wants, h.nodup, fun k hk hnot => ?_,
    fun k hk hdk => (isSome_put s key ips k).2 (.inr (h.stays k hk hdk)), fun k ips' hk => ?_⟩
  · have hne : k ≠ key := by rintro rfl; exact hrest hk
    rw [Pass.put, Interface.lookup_setAllowedIps, if_neg hne, h.fresh k hk hnot, Option.map_none]
  · refine (h.settled k ips' hk).imp_right fun hset => hset.imp_left fun hset => ⟨hset.1, ?_⟩
    exact (isSome_put s key ips k).2 (.inr hset.2)

lemma Applying.record (h : Applying desired present s₀ (key :: todo) rest s)
    (hd : desired.lookup key = some ips)
    (hips : ∀ p, s.interface.lookup key = some p →
      p.allowedIps = ips ∧ (s.managed.lookup key).isSome) :
    Applying desired present s₀ (key :: todo) rest (s.store (s.managed.insert key ips)) := by
  refine ⟨h.path.tail (.record hd hips), fun k r hr => ?_, h.wants, h.nodup, h.fresh, h.stays,
    fun k ips' hk => ?_⟩
  · rcases lookup_insert_eq_some hr with ⟨rfl, -⟩ | ⟨-, hr⟩
    · exact Option.isSome_of_eq_some hd
    · exact h.covered k r hr
  · by_cases hne : k = key
    · exact .inl (List.mem_cons.2 (.inl hne))
    · simpa only [Pass.store, lookup_insert_ne hne] using h.settled k ips' hk

/-- The key being brought onto the interface. -/
structure Serving (desired : PeerSet) (present : List String) (s₀ : Pass) (key : String)
    (ips : List String) (rest : List (String × List String)) (s : Pass) : Prop where
  applying : Applying desired present s₀ (key :: rest.map Prod.fst) rest s
  wanted : desired.lookup key = some ips
  apart : key ∉ rest.map Prod.fst

lemma Serving.quiet : Agent.Quiet (Serving desired present s₀ key ips rest) :=
  fun s o h ho => ⟨Applying.quiet _ _ s o h.applying ho, h.wanted, h.apart⟩

lemma Serving.of_applying
    (h : Applying desired present s₀ (((key, ips) :: rest).map Prod.fst) ((key, ips) :: rest) s) :
    Serving desired present s₀ key ips rest s ∧
    (key ∉ present → s.interface.lookup key = none) := by
  obtain ⟨hnot, hnodup⟩ := List.nodup_cons.1 h.nodup
  exact ⟨⟨⟨h.path, h.covered, fun e he => h.wants e (mem_cons_of_mem _ he), hnodup,
    fun k hk => h.fresh k (mem_cons_of_mem _ hk), h.stays, h.settled⟩,
    h.wants _ mem_cons_self, hnot⟩, h.fresh key mem_cons_self⟩

lemma setAllowedIps_spec (present r : List String) (rest : List (String × List String)) :
    Triple (fun s => Serving desired present s₀ key ips rest s ∧ s.managed.lookup key = some r)
      (Agent.setAllowedIps key ips)
      (fun _ s => Serving desired present s₀ key ips rest s ∧ s.managed.lookup key = some r ∧
        ∃ p, s.interface.lookup key = some p ∧ p.allowedIps = ips) (Cut desired s₀) := by
  refine Agent.triple_wgSet (fun s o h ho => ⟨Serving.quiet s o h.1 ho, h.2⟩) (fun s h => ?_)
    (fun s h => ?_) (fun s e h => .of_applying s e h.1.applying)
    fun s e h => .of_applying s e h.1.applying
  · exact ⟨⟨h.1.applying.issue h.2 h.1.wanted, h.1.wanted, h.1.apart⟩, h.2⟩
  · have hput := (Interface.lookup_setAllowedIps s.interface key ips true key).trans (if_pos rfl)
    exact ⟨⟨h.1.applying.put h.2 h.1.wanted h.1.apart, h.1.wanted, h.1.apart⟩, h.2, _, hput, rfl⟩

lemma recordPeer_spec (present : List String) (rest : List (String × List String))
    (F : Interface → Prop) :
    Triple (fun s => Serving desired present s₀ key ips rest s ∧ F s.interface ∧
        ∀ p, s.interface.lookup key = some p → p.allowedIps = ips ∧ (s.managed.lookup key).isSome)
      (Agent.recordPeer key ips)
      (fun _ s => Serving desired present s₀ key ips rest s ∧ F s.interface ∧
        s.managed.lookup key = some ips) (Cut desired s₀) := by
  refine .bind (Agent.triple_nextRecord fun s o h ho => ⟨Serving.quiet s o h.1 ho, h.2⟩)
    fun fate => ?_
  refine Agent.triple_changeManaged (fun s h => ?_) (fun s e h => .of_applying s e h.1.applying)
    (fun s h _ => ?_) fun s h => ?_
  · exact ⟨⟨h.1.applying.record h.1.wanted h.2.2, h.1.wanted, h.1.apart⟩, h.2.1,
      lookup_insert _⟩
  · exact .record h.1.applying.path h.1.wanted h.2.2 (.inr rfl)
  · exact .record h.1.applying.path h.1.wanted h.2.2 (.inl rfl)

lemma logConflict_spec (changes : Changes) :
    Triple (fun s => Serving desired present s₀ key ips rest s ∧ s.managed.lookup key = none)
      (Agent.logConflict key changes)
      (fun _ s => Serving desired present s₀ key ips rest s ∧ s.managed.lookup key = none)
      (Cut desired s₀) := by
  refine .bind (.get (Q := fun t s => s = t ∧ Serving desired present s₀ key ips rest s ∧
    s.managed.lookup key = none) fun s h => ⟨rfl, h⟩) fun t => ?_
  refine .ite (fun _ => .pure fun s h => h.2) fun _ => ?_
  rintro s ⟨rfl, h, hm⟩
  refine ⟨⟨⟨h.applying.path.tail (.quiet s (fun _ h => h) _), h.applying.covered, h.applying.wants,
    h.applying.nodup, h.applying.fresh, h.applying.stays, h.applying.settled⟩, h.wanted, h.apart⟩,
    hm⟩

lemma recordPeer_after_put :
    Triple (fun s => Serving desired present s₀ key ips rest s ∧ s.managed.lookup key = some r ∧
        ∃ p, s.interface.lookup key = some p ∧ p.allowedIps = ips)
      (Agent.recordPeer key ips)
      (fun _ => Applying desired present s₀ (rest.map Prod.fst) rest) (Cut desired s₀) := by
  refine (recordPeer_spec present rest fun m => (m.lookup key).isSome).mono (fun s h => ?_)
    (fun _ s h => ?_)
    fun _ _ h => h
  · grind
  · exact h.1.applying.finish h.1.wanted (.inl ⟨h.2.2, h.2.1⟩)

lemma applyPeer_spec (changes : Changes) :
    Triple (Applying desired present s₀ (((key, ips) :: rest).map Prod.fst) ((key, ips) :: rest))
      (Agent.applyPeer present key ips changes)
      (fun _ => Applying desired present s₀ (rest.map Prod.fst) rest) (Cut desired s₀) := by
  refine .bind (.get (Q := fun t s => s.managed = t.managed ∧
    Serving desired present s₀ key ips rest s ∧
    (key ∉ present → s.interface.lookup key = none)) fun s h => ⟨rfl, Serving.of_applying h⟩)
    fun t => ?_
  cases hm : t.managed.lookup key with
  | none =>
    refine .ite (fun hp => ?_) fun hp => ?_
    · refine ((logConflict_spec changes).mono (fun s h => ⟨h.2.1, h.1 ▸ hm⟩) (fun _ s h => ?_)
        fun _ _ h => h)
      exact h.1.applying.finish h.1.wanted (.inr ⟨h.2, hp⟩)
    · refine .bind ((recordPeer_spec present rest fun _ => True).pre fun s h =>
        ⟨h.2.1, trivial, ?_⟩)
        fun _ => ?_
      · intro p hsome
        cases (h.2.2 hp).symm.trans hsome
      · refine .bind ((setAllowedIps_spec present ips rest).pre fun s h => ⟨h.1, h.2.2⟩)
          fun _ => .pure fun s h => ?_
        obtain ⟨hs, hman, p, hget, -⟩ := h
        exact hs.applying.finish hs.wanted (.inl ⟨hman, Option.isSome_of_eq_some hget⟩)
  | some recorded =>
    refine .ite (fun hp => ?_) fun hp => .ite (fun hne => ?_) fun heq => .pure fun s h => ?_
    · refine .bind ((setAllowedIps_spec present recorded rest).pre fun s h => ⟨h.2.1, h.1 ▸ hm⟩)
        fun _ => .ite (fun _ => .bind recordPeer_after_put fun _ => .pure fun _ h => h)
        fun heq => .pure fun s h => ?_
      obtain ⟨hs, hman, p, hget, -⟩ := h
      rw [not_not] at heq
      exact hs.applying.finish hs.wanted (.inl ⟨heq ▸ hman, Option.isSome_of_eq_some hget⟩)
    · exact .bind ((setAllowedIps_spec present recorded rest).pre fun s h => ⟨h.2.1, h.1 ▸ hm⟩)
        fun _ => .bind recordPeer_after_put fun _ => .pure fun _ h => h
    · have hsome := h.2.1.applying.stays key (not_not.1 hp) (Option.isSome_of_eq_some h.2.1.wanted)
      rw [not_not] at heq
      exact h.2.1.applying.finish h.2.1.wanted (.inl ⟨heq ▸ h.1 ▸ hm, hsome⟩)

lemma applyDesired_spec (rest : List (String × List String)) (changes : Changes) :
    Triple (Applying desired present s₀ (rest.map Prod.fst) rest)
      (Agent.applyDesired present rest changes)
      (fun _ => Applying desired present s₀ [] []) (Cut desired s₀) := by
  induction rest generalizing changes with
  | nil => exact .pure fun _ h => h
  | cons e rest ih =>
    refine .bind (checkStop_spec (Applying.quiet _ _) Cut.of_applying changes) fun _ => ?_
    exact .bind (applyPeer_spec changes) fun changes => ih changes

lemma Removing.start (hpath : Path desired s₀ s) :
    Removing desired s.interface.keys s₀ (Agent.goneKeys s.managed desired) s := by
  have hmem k : k ∈ Agent.goneKeys s.managed desired ↔
      (s.managed.lookup k).isSome ∧ desired.lookup k = none := by
    rw [Agent.goneKeys, mem_filter, Option.isNone_iff_eq_none, mem_map]
    refine and_congr_left fun _ => ⟨fun ⟨e, he, hk⟩ => ?_, fun hk => ?_⟩
    · subst hk
      exact Option.isSome_of_eq_some (mem_sorted.1 he)
    · obtain ⟨r, hr⟩ := Option.isSome_iff_exists.1 hk
      exact ⟨(k, r), mem_sorted.2 hr, rfl⟩
  refine ⟨hpath, fun k r hr => ?_, fun k hk => ((hmem k).1 hk).symm, (nodup_sorted _).filter _,
    fun k hk => AList.lookup_isSome.1 hk, fun k hk _ => AList.lookup_isSome.2 hk⟩
  cases hd : desired.lookup k with
  | none => exact .inr ((hmem k).2 ⟨Option.isSome_of_eq_some hr, hd⟩)
  | some ips => exact .inl rfl

/-- After a whole pass the managed set is the part of the desired set that was not an operator's. -/
structure Settled (desired : PeerSet) (s : Pass) : Prop where
  covered : ∀ k r, s.managed.lookup k = some r → (desired.lookup k).isSome
  applied : ∀ k ips, desired.lookup k = some ips → (s.interface.lookup k).isSome ∧
    (s.managed.lookup k = some ips ∨ s.managed.lookup k = none)

lemma Applying.done (h : Applying desired present s₀ [] [] s) : Settled desired s := by
  refine ⟨h.covered, fun k ips hk => ?_⟩
  rcases h.settled k ips hk with hmem | ⟨hm, hi⟩ | ⟨hm, hp⟩
  · cases hmem
  · exact ⟨hi, .inl hm⟩
  · exact ⟨h.stays k hp (Option.isSome_of_eq_some hk), .inr hm⟩

lemma reconcile_spec (desired : PeerSet) (s₀ : Pass) :
    Triple (fun s => s = s₀) (Agent.reconcile desired)
      (fun _ s => Path desired s₀ s ∧ Settled desired s) (Cut desired s₀) := by
  refine .bind (Q := fun present s => s = s₀ ∧ present = s₀.interface.keys) ?_ fun present => ?_
  · refine .get_bind fun t ht => .bind (Q := fun _ s => s = s₀) ?_ fun _ => .pure fun s hs => ?_
    · have hrefl e : Cut desired s₀ e s₀ := .between .refl
      subst ht
      refine .perform (fun s hs _ => hs) (fun s hs => ?_) (fun s hs _ => ?_) fun s hs =>
        ?_ <;> subst hs
      · exact ⟨hrefl _, hrefl _⟩
      · exact hrefl _
      · exact hrefl _
    · exact ⟨hs, congrArg (fun s => AList.keys s.interface) ht⟩
  · refine .get_bind fun t ht => ?_
    obtain ⟨rfl, rfl⟩ := ht
    refine .bind ((removeGone_spec _ _).pre fun s hs => ?_) fun changes =>
      .bind ((applyDesired_spec _ changes).pre fun s hs => .of_removing hs) fun changes =>
      .bind (.modify fun s hs => ?_) fun _ => .pure fun s hs => hs
    · subst hs
      exact .start .refl
    · exact ⟨hs.path.tail (.quiet s (fun _ h => h) _), hs.done.covered, hs.done.applied⟩

end Loops
end Chan.WireGuard
