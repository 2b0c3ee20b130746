import Chan.Proxy.SessionSteps

namespace Chan.Proxy
open AssocMap Transition

namespace SessionState

/-- The counts and the indexes are those of the maps, and no cap is exceeded. -/
structure Exact (limits : SessionLimits) (s : SessionState) : Prop where
  subjects : Tallies (fun r : SessionRecord => r.principal.subjectUserId) s.sessions s.subjectCounts
  principals : Inverts SessionRecord.principal s.sessions s.principalSessions
  bindings : Inverts ExtensionBinding.principal s.bindings s.principalBindings
  capped : s.sessions.entries.length ≤ limits.maxSessions
  cappedSubject : ∀ u, (s.subjectCounts.lookup u).getD 0 ≤ limits.maxSessionsPerSubject
  cappedPrincipal : ∀ p, (s.sessionsOf p).length ≤ limits.maxSessionsPerPrincipal
  cappedBindings : s.bindings.entries.length ≤ limits.maxBindings
  cappedLinks : ∀ p, (s.bindingsOf p).length ≤ limits.maxBindingsPerPrincipal

lemma exact_new : new.Exact limits where
  subjects _ := rfl
  principals := ⟨fun _ _ => ⟨nofun, fun ⟨_, h, _⟩ => nomatch h⟩, fun _ => List.nodup_nil,
    fun _ => nofun⟩
  bindings := ⟨fun _ _ => ⟨nofun, fun ⟨_, h, _⟩ => nomatch h⟩, fun _ => List.nodup_nil,
    fun _ => nofun⟩
  capped := Nat.zero_le _
  cappedSubject _ := Nat.zero_le _
  cappedPrincipal _ := Nat.zero_le _
  cappedBindings := Nat.zero_le _
  cappedLinks _ := Nat.zero_le _

variable {limits : SessionLimits}

lemma length_erase_le [DecidableEq α] (m : Map α β) (a : α) :
    (m.erase a).entries.length ≤ m.entries.length := (List.kerase_sublist a m.entries).length_le

lemma length_unlist_le [DecidableEq α] [DecidableEq κ] (index : Map κ (List α))
    (k j : κ) (a : α) :
    (((unlist index k a).lookup j).getD []).length ≤ ((index.lookup j).getD []).length := by
  rw [lookup_unlist]
  split
  · rename_i heq
    exact heq ▸ List.length_filter_le _ _
  · exact le_rfl

namespace Exact

lemma removeBinding_eq (h : Exact limits s) (hb : s.bindings.lookup k = some b) :
    (s.removeBinding k).1 = { s with
      bindings := s.bindings.erase k
      principalBindings := unlist s.principalBindings b.principal k } := by
  have hmem := (h.bindings.mem b.principal k).2 ⟨b, hb, rfl⟩
  rw [SessionState.removeBinding, hb]
  cases hlist : s.principalBindings.lookup b.principal with
  | none =>
    rw [hlist] at hmem
    cases hmem
  | some ks => simp [unlist, hlist]

lemma removeBinding (h : Exact limits s) (k : String) : (s.removeBinding k).1.Exact limits := by
  cases hb : s.bindings.lookup k with
  | none =>
    rw [removeBinding_none hb]
    exact h
  | some b =>
    rw [h.removeBinding_eq hb]
    exact { h with
      bindings := h.bindings.erase hb
      cappedBindings := (length_erase_le s.bindings k).trans h.cappedBindings
      cappedLinks := fun p => (length_unlist_le ..).trans (h.cappedLinks p) }

lemma dropBinding_authorities (k : String) (s : SessionState) :
    ∃ authorities, s.dropBinding k = { (s.removeBinding k).1 with authorities := authorities } := by
  rw [SessionState.dropBinding]
  rcases s.removeBinding k with ⟨t, - | b⟩
  · exact ⟨t.authorities, rfl⟩
  · exact ⟨_, rfl⟩

lemma dropBinding (h : Exact limits s) (k : String) : (s.dropBinding k).Exact limits := by
  obtain ⟨authorities, heq⟩ := dropBinding_authorities k s
  rw [heq]
  exact { h.removeBinding k with }

lemma foldl {f : SessionState → α → SessionState} (hf : ∀ {s} a, Exact limits s →
    (f s a).Exact limits)
    (as : List α) (h : Exact limits s) : (as.foldl f s).Exact limits := by
  induction as generalizing s with
  | nil => exact h
  | cons a as ih => exact ih (hf a h)

section
variable (h : Exact limits s)
include h

lemma removeSession (i : String) : (s.removeSession i).1.Exact limits := by
  cases hr : s.sessions.lookup i with
  | none =>
    rw [removeSession_none hr]
    exact h
  | some r =>
    have hcounts := ReplayState.tallies_decrementCount h.subjects hr
    have herased : Exact limits { s with
        sessions := s.sessions.erase i
        subjectCounts := decrementCount r.principal.subjectUserId s.subjectCounts
        principalSessions := unlist s.principalSessions r.principal i } :=
      { h with
        subjects := hcounts
        principals := h.principals.erase hr
        capped := (length_erase_le s.sessions i).trans h.capped
        cappedSubject := fun u => by
          have hcap := h.cappedSubject u
          have hcount := countWhere_erase (fun x : SessionRecord =>
            decide (x.principal.subjectUserId = u)) hr
          grind [hcounts u, h.subjects u]
        cappedPrincipal := fun p => (length_unlist_le ..).trans (h.cappedPrincipal p) }
    rw [SessionState.removeSession, hr]
    rw [unlist] at herased
    dsimp only [sessionsOf] at herased ⊢
    split
    · rename_i hempty
      rw [if_pos hempty] at herased
      exact herased.foldl (fun k => (·.dropBinding k)) _
    · rename_i hleft
      rw [if_neg hleft] at herased
      exact herased

lemma takeExpired (now : Nat) : (s.takeExpired now).1.Exact limits := by
  have hloop : ∀ heap s, Exact limits s → (takeExpiredLoop now heap s).state.Exact limits := by
    intro heap
    induction heap with
    | nil => exact fun _ h => h
    | cons e heap ih =>
      intro s h
      unfold takeExpiredLoop
      dsimp only
      split
      · exact h
      · split
        · exact ih s h
        · split
          · exact ih s h
          · exact ih _ (h.removeSession _)
  exact { hloop s.expiries s h with }

lemma expireDue (now : Nat) : (s.expireDue now).1.Exact limits := by
  have hrevoke : ∀ {s} (r : SessionRecord), Exact limits s →
      (s.revokeAuthority r.authority).Exact limits := fun _ h => { h with }
  exact (h.takeExpired now).foldl hrevoke _

lemma finishRevocation (selected : List (String × SessionRecord))
    (handles : List BindingHandle) : (s.finishRevocation selected handles).1.Exact limits := by
  have hselected : ∀ (selected : List (String × SessionRecord)) s, Exact limits s →
      (removeSelected selected s).1.Exact limits := by
    intro selected
    induction selected with
    | nil => exact fun _ h => h
    | cons e selected ih =>
      intro s h
      have hremoved := h.removeSession e.1
      rw [removeSelected]
      split
      · rename_i heq
        rw [heq] at hremoved
        exact ih _ hremoved
      · rename_i heq
        rw [heq] at hremoved
        exact ih _ hremoved
  refine hselected selected _ (h.foldl (fun handle h => ?_) handles)
  rw [removeHandle]
  split
  · split
    · exact h.removeBinding _
    · exact h
  · exact h

lemma issue (p : SessionPrincipal) (client : ClientType) (now : Nat) (i : String)
    (admin : Uuid) (hfresh : (s.expireDue now).1.sessions.lookup i = none) :
    (s.issue limits p client now i admin).1.Exact limits := by
  have hexpired := h.expireDue now
  rw [SessionState.issue]
  split
  · exact h
  · dsimp only
    split
    · exact hexpired
    · rename_i hroom
      split
      · exact hexpired
      · rename_i hsubject
        split
        · exact hexpired
        · rename_i hprincipal
          have hlength := length_erase_le (s.expireDue now).1.sessions i
          exact { hexpired with
            subjects := hexpired.subjects.insert hfresh _
            principals := hexpired.principals.insert hfresh _
            capped := Nat.lt_of_le_of_lt hlength (Nat.lt_of_not_le hroom)
            cappedSubject := fun u => by
              have hcap := hexpired.cappedSubject u
              rw [insertSession, lookup_insert_ite]
              split
              · exact Nat.lt_of_not_le hsubject
              · exact hcap
            cappedPrincipal := fun q => by
              have hcap := hexpired.cappedPrincipal q
              rw [sessionsOf] at hcap ⊢
              rw [insertSession, lookup_insert_ite]
              split
              · rw [Option.getD_some, List.length_append]
                exact Nat.lt_of_not_le hprincipal
              · exact hcap }

end

lemma length_erase [DecidableEq α] {m : Map α β} (h : m.lookup a = some b) :
    m.entries.length = (m.erase a).entries.length + 1 := by
  have hcount := countWhere_erase (fun _ => true) h
  simp only [countWhere, List.countP_true, if_true] at hcount
  omega

lemma makeRoom (h : Exact limits s) (ht : s.makeRoom limits p now = .ok t) :
    t.Exact limits ∧ t.bindings.entries.length < limits.maxBindings ∧
      (t.bindingsOf p).length < limits.maxBindingsPerPrincipal := by
  rw [SessionState.makeRoom] at ht
  split at ht
  · cases ht
  · split at ht
    · cases ht
    · rename_i hzero
      split at ht
      · rename_i hheld
        split at ht
        · rename_i k hk
          cases ht
          obtain ⟨b, hb, hp⟩ := (h.bindings.mem p k).1 (leastRecentlyUsed_mem hk)
          obtain ⟨authorities, hdrop⟩ := dropBinding_authorities k s
          refine ⟨h.dropBinding k, ?_, ?_⟩
          · have hcap := h.cappedBindings
            rw [length_erase hb] at hcap
            rw [hdrop, h.removeBinding_eq hb]
            exact hcap
          · have hmem := (h.bindings.mem p k).2 ⟨b, hb, hp⟩
            rw [hdrop, h.removeBinding_eq hb, bindingsOf, lookup_unlist, if_pos hp.symm, hp]
            exact (List.length_filter_lt_length_iff_exists.2 ⟨k, hmem, by simp⟩).trans_le
              (h.cappedLinks p)
        · rename_i hnone
          -- Every selector of the list has its binding, so one is the least recently used.
          rw [leastRecentlyUsed, Option.map_eq_none_iff, List.min?_eq_none_iff,
            List.filterMap_eq_nil_iff] at hnone
          obtain ⟨k, hk⟩ := List.exists_mem_of_length_pos
            ((Nat.pos_of_ne_zero hzero).trans_le hheld)
          obtain ⟨b, hb, -⟩ := (h.bindings.mem p k).1 hk
          have hk' := hnone k hk
          rw [hb] at hk'
          cases hk'
      · rename_i hheld
        split at ht
        · cases ht
        · rename_i hroom
          cases ht
          exact ⟨h, Nat.lt_of_not_le hroom, Nat.lt_of_not_le hheld⟩

lemma insertBinding (h : Exact limits s) (hfresh : s.bindings.lookup k = none)
    (hroom : s.bindings.entries.length < limits.maxBindings)
    (hlinks : (s.bindingsOf p).length < limits.maxBindingsPerPrincipal) :
    (s.insertBinding p client target now k verifier).Exact limits :=
  { h with
    bindings := h.bindings.insert hfresh ⟨verifier, p, client, target, now, s.nextAuthority⟩
    cappedBindings := Nat.lt_of_le_of_lt (length_erase_le s.bindings k) hroom
    cappedLinks := fun q => by
      have hcap := h.cappedLinks q
      rw [bindingsOf] at hcap ⊢
      rw [SessionState.insertBinding, lookup_insert_ite]
      split
      · rw [Option.getD_some, List.length_append]
        exact hlinks
      · exact hcap }

end Exact

/-- The bookkeeping of a store: it is exact, a binding's principal has a session, and a session is
queued under its expiry, so that a prune leaves none that is due but those still draining. -/
structure Bookkept (limits : SessionLimits) (s : SessionState) : Prop extends Exact limits s where
  held : ∀ k b, s.bindings.lookup k = some b → s.HasSession b.principal
  queued : ∀ i r, s.sessions.lookup i = some r → toLex (r.expiresAt, i) ∈ s.expiries
  pruned : ∀ now i r, (s.takeExpired now).1.sessions.lookup i = some r → r.expiresAt ≤ now →
    s.isDraining r = true

end SessionState

namespace World

lemma exact_issue {w w' : World} (h : w.state.Exact w.limits)
    (ha : w.act now (.issue p client i admin) = some w') :
    w'.limits = w.limits ∧ w'.state.Exact w.limits := by
  obtain ⟨hfresh, ⟨⟩⟩ := Option.ite_none_right_eq_some.1 ha
  simp only [Bool.and_eq_true, Option.isNone_iff_eq_none] at hfresh
  exact ⟨rfl, h.issue p client now i admin hfresh.1.2⟩

lemma exact_act {w w' : World} (h : w.state.Exact w.limits) (ha : w.act now m = some w') :
    w'.limits = w.limits ∧ w'.state.Exact w.limits := by
  have hexpired := h.expireDue now
  cases act_does ha with
  | refused | notIssued | issued => exact exact_issue h ha
  | resumed | cleared | begun | finished | cancelled | closed => exact ⟨rfl, { h with }⟩
  | notBound => exact ⟨rfl, hexpired⟩
  | lapsed => exact ⟨rfl, { h.removeSession _ with }⟩
  | bound _ ht hfresh =>
    obtain ⟨hroom, hbindings, hlinks⟩ := hexpired.makeRoom ht
    exact ⟨rfl, hroom.insertBinding hfresh hbindings hlinks⟩
  | unheld => exact ⟨rfl, h.dropBinding _⟩
  | resolved _ hb =>
    refine ⟨rfl, { h with bindings := h.bindings.update hb rfl, cappedBindings := ?_ }⟩
    have hcap := h.cappedBindings
    rw [SessionState.Exact.length_erase hb] at hcap
    exact hcap
  | pruned => exact ⟨rfl, h.takeExpired now⟩
  | completed => exact ⟨rfl, h.finishRevocation _ _⟩
  | _ => exact ⟨rfl, h⟩

/-- Whatever calls run in whatever order, the counts and the indexes of the store are exact, every
binding's principal has a session, no session outlives a prune but one that drains, and no cap is
exceeded. -/
theorem bookkeeping_exact (limits : SessionLimits) (ms : List (Nat × Move))
    (h : exec step (new limits) ms = some w) : w.state.Bookkept limits := by
  have hinv : w.limits = limits ∧ w.state.Exact limits ∧ w.state.WellFormed := by
    refine exec_invariant (I := fun w => w.limits = limits ∧ w.state.Exact limits ∧
      w.state.WellFormed) ?_ ⟨rfl, SessionState.exact_new, wellFormed_new limits⟩ h
    rintro v m u ⟨rfl, hexact, hwell⟩ hstep
    have hwell' := step_wellFormed hwell hstep
    obtain ⟨-, u', hu, rfl⟩ := step_eq_some hstep
    obtain ⟨hlimits, hexact'⟩ := exact_act hexact hu
    exact ⟨hlimits, hexact', hwell'⟩
  obtain ⟨-, hexact, hwell⟩ := hinv
  refine { hexact with held := hwell.held, queued := hwell.queued, pruned := ?_ }
  intro now i r hr hdue
  rcases (((SessionState.takeExpired_expires hwell now).sessions i r).1 hr).2 with hlate | hdraining
  · exact absurd hdue (Nat.not_le.2 hlate)
  · exact hdraining

/-- Two sessions of one principal, and a prune after the first of them is due. -/
theorem bookkeeping_exact_pruned :
    ∃ w, exec step (new (.new 4 10))
        [(0, .issue ⟨1, 2, "d", "a"⟩ .browser (String.ofList (.replicate 64 'a')) 7),
          (5, .issue ⟨1, 2, "d", "a"⟩ .desktop (String.ofList (.replicate 64 'b')) 8),
          (12, .prune 0)] = some w ∧
      w.state.sessions.entries.length = 1 ∧ w.state.Bookkept (.new 4 10) := by
  have hrun : (exec step (new (.new 4 10))
      [(0, .issue ⟨1, 2, "d", "a"⟩ .browser (String.ofList (.replicate 64 'a')) 7),
        (5, .issue ⟨1, 2, "d", "a"⟩ .desktop (String.ofList (.replicate 64 'b')) 8),
        (12, .prune 0)]).any (fun w => w.state.sessions.entries.length == 1) =
        true := by decide +kernel
  obtain ⟨w, hw, hlength⟩ := (Option.any_eq_true _ _).1 hrun
  exact ⟨w, hw, beq_iff_eq.1 hlength, bookkeeping_exact _ _ hw⟩

end World
end Chan.Proxy
