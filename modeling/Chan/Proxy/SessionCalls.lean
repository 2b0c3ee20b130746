import Chan.Proxy.SessionIndex

namespace Chan.Proxy
open AssocMap

variable {s : SessionState}

namespace SessionState

/-- The principal holds a session that is neither cancelled nor expired. -/
def LiveAt (s : SessionState) (p : SessionPrincipal) (now : Nat) : Prop :=
  ∃ i r, s.sessions.lookup i = some r ∧ r.principal = p ∧ s.cancelled r.authority = false ∧
    now < r.expiresAt

lemma LiveAt.earlier (h : LiveAt s p now) (hle : t ≤ now) : LiveAt s p t := by
  obtain ⟨i, r, hr, hp, hc, hnow⟩ := h
  exact ⟨i, r, hr, hp, hc, by omega⟩

lemma LiveAt.hasSession (h : LiveAt s p now) : s.HasSession p := by
  obtain ⟨i, r, hr, hp, -⟩ := h
  exact ⟨i, r, hr, hp⟩

lemma mem_liveSessions (hw : s.IndexesSessions) :
    r ∈ s.liveSessions p now ↔ ∃ i, s.sessions.lookup i = some r ∧ r.principal = p ∧
      s.cancelled r.authority = false ∧ now < r.expiresAt := by
  simp only [liveSessions, List.mem_filter, List.mem_filterMap, Bool.and_eq_true,
    Bool.not_eq_true', decide_eq_true_eq]
  constructor
  · rintro ⟨⟨i, hi, hr⟩, hlive⟩
    obtain ⟨c, hc, hp⟩ := (hw p i).1 hi
    cases hr.symm.trans hc
    exact ⟨i, hr, hp, hlive⟩
  · rintro ⟨i, hr, hp, hlive⟩
    exact ⟨⟨i, (hw p i).2 ⟨r, hr, hp⟩, hr⟩, hlive⟩

lemma later_cases : later best r = some r ∨ (later best r = best ∧ best ≠ none) := by
  cases best with
  | none => exact .inl rfl
  | some b =>
    rw [later]
    split
    · exact .inl rfl
    · exact .inr ⟨rfl, nofun⟩

lemma foldl_later : (l.foldl later best = none ↔ best = none ∧ l = []) ∧
      ∀ r, l.foldl later best = some r → r ∈ l ∨ best = some r := by
  induction l generalizing best with
  | nil => exact ⟨by simp, fun r h => .inr h⟩
  | cons x l ih =>
    grind [later, later_cases]

lemma le_later (h : later best x = some r) :
    x.expiresAt ≤ r.expiresAt ∧ ∀ c, best = some c → c.expiresAt ≤ r.expiresAt := by
  unfold later at h
  split at h
  · grind
  · cases h
    exact ⟨le_refl _, nofun⟩

lemma le_foldl_later {l : List SessionRecord} {best : Option SessionRecord}
    (h : l.foldl later best = some r) :
    (∀ c ∈ l, c.expiresAt ≤ r.expiresAt) ∧ ∀ c, best = some c → c.expiresAt ≤ r.expiresAt := by
  induction l generalizing best with
  | nil => exact ⟨List.forall_mem_nil _, fun c hc => by cases hc.symm.trans h; exact le_refl _⟩
  | cons x l ih =>
    obtain ⟨hl, hbest⟩ := ih h
    obtain ⟨y, hy⟩ : ∃ y, later best x = some y := by
      rcases later_cases with hx | ⟨hx, hne⟩
      · exact ⟨x, hx⟩
      · rw [hx]
        exact Option.ne_none_iff_exists'.1 hne
    have hle := hbest y hy
    refine ⟨List.forall_mem_cons.2 ⟨(le_later hy).1.trans hle, hl⟩, fun c hc => ?_⟩
    exact ((le_later hy).2 c hc).trans hle

lemma liveSession_eq_some (h : s.liveSession p now = some r) :
    r ∈ s.liveSessions p now ∧ ∀ c ∈ s.liveSessions p now, c.expiresAt ≤ r.expiresAt :=
  ⟨((foldl_later).2 r h).resolve_right nofun, (le_foldl_later h).1⟩

lemma liveSession_eq_none (hw : s.IndexesSessions) :
    s.liveSession p now = none ↔ ¬s.LiveAt p now := by
  rw [liveSession, (foldl_later).1]
  constructor
  · rintro ⟨-, hnil⟩ ⟨i, r, hr, hlive⟩
    have hmem := (mem_liveSessions hw).2 ⟨i, hr, hlive⟩
    rw [hnil] at hmem
    cases hmem
  · intro hnot
    refine ⟨rfl, List.eq_nil_iff_forall_not_mem.2 fun r hr => ?_⟩
    obtain ⟨i, hi, hlive⟩ := (mem_liveSessions hw).1 hr
    exact hnot ⟨i, r, hi, hlive⟩

lemma Shrinks.liveAt (h : Shrinks s t) (hl : t.LiveAt p now) : s.LiveAt p now := by
  obtain ⟨i, r, hr, hp, hc, hnow⟩ := hl
  refine ⟨i, r, h.sessions _ _ hr, hp, ?_, hnow⟩
  by_contra hcancelled
  rw [Bool.not_eq_false] at hcancelled
  rw [h.cancelled _ hcancelled] at hc
  cases hc

lemma insertSession_lookup (lifetime : Nat) (p : SessionPrincipal) (client : ClientType)
    (now : Nat) (i : String) (admin : Uuid) (s : SessionState) :
    (s.insertSession lifetime p client now i admin).1.sessions.lookup j = some r ↔
      (j = i ∧ r = ⟨admin, p, client, now, now + lifetime, s.nextAuthority⟩) ∨
        (j ≠ i ∧ s.sessions.lookup j = some r) := by
  refine ⟨lookup_insert_eq_some, ?_⟩
  rintro (⟨rfl, rfl⟩ | ⟨hne, hr⟩)
  · exact AList.lookup_insert _
  · exact (AList.lookup_insert_ne hne).trans hr

lemma WellFormed.authority_drawn {t : SessionState} (hw : s.WellFormed)
    (hnext : t.nextAuthority = s.nextAuthority + 1)
    (hholds : ∀ {x a}, t.Holds x a → s.Holds x a ∨ x = y ∧ a = s.nextAuthority) :
    (∀ x a, t.Holds x a → a < t.nextAuthority) ∧
      ∀ x x' a, t.Holds x a → t.Holds x' a → x = x' := by
  refine ⟨fun x a hx => ?_, fun x x' a hx hx' => ?_⟩
  · rw [hnext]
    rcases hholds hx with hx | ⟨-, rfl⟩
    · exact Nat.lt_succ_of_lt (hw.bounded x a hx)
    · exact Nat.lt_succ_self _
  · rcases hholds hx with hold | ⟨rfl, rfl⟩ <;> rcases hholds hx' with hold' | ⟨rfl, ha⟩
    · exact hw.unique x x' a hold hold'
    · exact absurd (hw.bounded x a hold) (by omega)
    · exact absurd (hw.bounded x' _ hold') (by omega)
    · rfl

lemma insertSession_wellFormed (hw : s.WellFormed)
    (hfresh : s.sessions.lookup i = none) :
    (s.insertSession lifetime p client now i admin).1.WellFormed := by
  have hlookup {j : String} {r : SessionRecord} :=
    insertSession_lookup (j := j) (r := r) lifetime p client now i admin s
  have hprincipals : (s.insertSession lifetime p client now i admin).1.principalSessions =
      s.principalSessions.insert p (s.sessionsOf p ++ [i]) := rfl
  have hkeeps {j r} (hr : s.sessions.lookup j = some r) :
      (s.insertSession lifetime p client now i admin).1.sessions.lookup j = some r := by
    refine hlookup.2 (.inr ⟨?_, hr⟩)
    rintro rfl
    exact nomatch hfresh.symm.trans hr
  have hholds {x a} (hx : (s.insertSession lifetime p client now i admin).1.Holds x a) :
      s.Holds x a ∨ x = .session i ∧ a = s.nextAuthority := by
    cases x with
    | session j =>
      obtain ⟨r, hr, ha⟩ := hx
      rcases hlookup.1 hr with ⟨rfl, rfl⟩ | ⟨-, hr⟩
      · exact .inr ⟨rfl, ha.symm⟩
      · exact .inl ⟨r, hr, ha⟩
    | binding k => exact .inl hx
  have hauthority := hw.authority_drawn (t := (s.insertSession lifetime p client now i admin).1) rfl
      hholds
  exact { hw with
    sessionsOf := by
      refine Lists.insert hw.sessionsOf hfresh _ fun q => ?_
      rw [SessionState.sessionsOf, hprincipals]
      grind [SessionState.sessionsOf]
    held := fun k b hb => by
      obtain ⟨j, r, hr, hp⟩ := hw.held k b hb
      exact ⟨j, r, hkeeps hr, hp⟩
    queued := fun j r hr => by
      refine (List.mem_orderedInsert _).2 ?_
      rcases hlookup.1 hr with ⟨rfl, rfl⟩ | ⟨-, hr⟩
      · exact .inl rfl
      · exact .inr (hw.queued j r hr)
    sorted := hw.sorted.orderedInsert _ _
    bounded := hauthority.1
    unique := hauthority.2 }

lemma insertBinding_lookup (p : SessionPrincipal) (client : ClientType)
    (target : ExtensionTarget) (now : Nat) (k verifier : String) (s : SessionState) :
    (s.insertBinding p client target now k verifier).bindings.lookup j = some b ↔
      (j = k ∧ b = ⟨verifier, p, client, target, now, s.nextAuthority⟩) ∨
        (j ≠ k ∧ s.bindings.lookup j = some b) := by
  refine ⟨lookup_insert_eq_some, ?_⟩
  rintro (⟨rfl, rfl⟩ | ⟨hne, hb⟩)
  · exact AList.lookup_insert _
  · exact (AList.lookup_insert_ne hne).trans hb

lemma insertBinding_wellFormed (hw : s.WellFormed)
    (hfresh : s.bindings.lookup k = none) (hp : s.HasSession p) :
    (s.insertBinding p client target now k verifier).WellFormed := by
  have hlookup {j : String} {b : ExtensionBinding} :=
    insertBinding_lookup (j := j) (b := b) p client target now k verifier s
  have hprincipals : (s.insertBinding p client target now k verifier).principalBindings =
      s.principalBindings.insert p (s.bindingsOf p ++ [k]) := rfl
  have hholds {x a} (hx : (s.insertBinding p client target now k verifier).Holds x a) :
      s.Holds x a ∨ x = .binding k ∧ a = s.nextAuthority := by
    cases x with
    | session j => exact .inl hx
    | binding j =>
      obtain ⟨b, hb, ha⟩ := hx
      rcases hlookup.1 hb with ⟨rfl, rfl⟩ | ⟨-, hb⟩
      · exact .inr ⟨rfl, ha.symm⟩
      · exact .inl ⟨b, hb, ha⟩
  have hauthority := hw.authority_drawn (t := s.insertBinding p client target now k verifier) rfl
      hholds
  exact { hw with
    bindingsOf := by
      refine Lists.insert hw.bindingsOf hfresh _ fun q => ?_
      rw [SessionState.bindingsOf, hprincipals]
      grind [SessionState.bindingsOf]
    held := fun j b hb => by
      rcases hlookup.1 hb with ⟨-, rfl⟩ | ⟨-, hb⟩
      · exact hp
      · exact hw.held j b hb
    bounded := hauthority.1
    unique := hauthority.2 }

lemma issue_cases (s : SessionState) :
    s.issue limits p client now i admin = (s, [], .error .authoritySuspended) ∨
    (∃ e, s.issue limits p client now i admin =
      ((s.expireDue now).1, (s.expireDue now).2, .error e)) ∨
    ∃ r, r = ⟨admin, p, client, now, now + limits.lifetime, (s.expireDue now).1.nextAuthority⟩ ∧
      s.issue limits p client now i admin =
        (((s.expireDue now).1.insertSession limits.lifetime p client now i admin).1,
          (s.expireDue now).2 ++ [.up (browserSessionRow r)], .ok r) := by
  simp only [issue]
  split
  · exact .inl rfl
  · split
    · exact .inr (.inl ⟨_, rfl⟩)
    · split
      · exact .inr (.inl ⟨_, rfl⟩)
      · split
        · exact .inr (.inl ⟨_, rfl⟩)
        · exact .inr (.inr ⟨_, rfl, rfl⟩)

lemma lookup_cases (s : SessionState) :
    (∃ answer, s.lookup i now = (s, [], answer) ∧ ∀ r, answer = some r ↔ validSessionId i = true ∧
      s.sessions.lookup i = some r ∧ s.cancelled r.authority = false ∧ now < r.expiresAt) ∨
    ∃ r, s.sessions.lookup i = some r ∧ s.cancelled r.authority = false ∧ r.expiresAt ≤ now ∧
      s.lookup i now =
        ((s.removeSession i).1.revokeAuthority r.authority, [.down r.adminSessionId], none) := by
  rw [lookup]
  split
  · rename_i hinvalid
    refine .inl ⟨none, rfl, fun r => iff_of_false nofun ?_⟩
    rintro ⟨hvalid, -⟩
    rw [hvalid] at hinvalid
    cases hinvalid
  · rename_i hvalid
    split
    · rename_i hnone
      exact .inl ⟨none, rfl, fun r => iff_of_false nofun fun h => nomatch hnone.symm.trans h.2.1⟩
    · grind

lemma makeRoom_cases (h : s.makeRoom limits p now = .ok t) :
    s.liveSession p now ≠ none ∧
      (t = s ∨ ∃ k, limits.maxBindingsPerPrincipal ≤ (s.bindingsOf p).length ∧
        s.leastRecentlyUsed p = some k ∧ t = s.dropBinding k) := by
  rw [makeRoom] at h
  split at h
  · cases h
  · grind

lemma makeRoom_error (h : s.makeRoom limits p now = .error e) :
    (e = .noLiveSession ∧ s.liveSession p now = none) ∨ e = .atCapacity := by
  rw [makeRoom] at h
  split at h
  · rename_i hnone
    cases h
    exact .inl ⟨rfl, Option.isNone_iff_eq_none.1 hnone⟩
  · grind

lemma leastRecentlyUsed_mem (h : s.leastRecentlyUsed p = some k) :
    k ∈ s.bindingsOf p := by
  obtain ⟨used, hused, rfl⟩ := Option.map_eq_some_iff.1 h
  have hmem := List.min?_mem hused
  obtain ⟨j, hj, hb⟩ := List.mem_filterMap.1 hmem
  obtain ⟨b, -, rfl⟩ := Option.map_eq_some_iff.1 hb
  exact hj

lemma bindExtension_cases (s : SessionState) :
    (∃ e, (s.expireDue now).1.makeRoom limits p now = .error e ∧
      s.bindExtension limits p client target now k verifier =
        ((s.expireDue now).1, (s.expireDue now).2, .error e)) ∨
    ∃ t, (s.expireDue now).1.makeRoom limits p now = .ok t ∧
      s.bindExtension limits p client target now k verifier =
        (t.insertBinding p client target now k verifier, (s.expireDue now).2,
          .ok (k ++ verifier)) := by
  simp only [bindExtension]
  split
  · rename_i e he
    exact .inl ⟨e, he, rfl⟩
  · rename_i t ht
    exact .inr ⟨t, ht, rfl⟩

lemma resolve_cases (s : SessionState) :
    s.resolveExtensionBinding token now = (s, none) ∨
    (∃ k verifier b, splitBindingToken token = some (k, verifier) ∧
      s.bindings.lookup k = some b ∧ s.cancelled b.authority = false ∧
      s.liveSession b.principal now = none ∧
      s.resolveExtensionBinding token now = (s.dropBinding k, none)) ∨
    ∃ k verifier b answer, splitBindingToken token = some (k, verifier) ∧
      s.bindings.lookup k = some b ∧ b.verifier = verifier ∧ s.cancelled b.authority = false ∧
      s.liveSession b.principal now ≠ none ∧
      s.resolveExtensionBinding token now =
        ({ s with bindings := s.bindings.insert k { b with lastUsed := now } }, some answer) := by
  rw [resolveExtensionBinding]
  split
  · exact .inl rfl
  · grind

lemma touch_wellFormed (hw : s.WellFormed) (hb : s.bindings.lookup k = some b) :
    ({ s with bindings := s.bindings.insert k { b with lastUsed := now } } :
      SessionState).WellFormed := by
  have hlookup {j c} (hc : (s.bindings.insert k { b with lastUsed := now }).lookup j = some c) :
      ∃ c', s.bindings.lookup j = some c' ∧ c'.principal = c.principal ∧
        c'.authority = c.authority := by
    rcases lookup_insert_eq_some hc with ⟨rfl, rfl⟩ | ⟨-, hc⟩
    · exact ⟨b, hb, rfl, rfl⟩
    · exact ⟨c, hc, rfl, rfl⟩
  have hholds {x a} (hx : Holds
      { s with bindings := s.bindings.insert k { b with lastUsed := now } } x a) :
      s.Holds x a := by
    cases x with
    | session j => exact hx
    | binding j =>
      obtain ⟨c, hc, ha⟩ := hx
      obtain ⟨c', hc', -, ha'⟩ := hlookup hc
      exact ⟨c', hc', ha'.trans ha⟩
  exact {
    sessionsOf := hw.sessionsOf
    bindingsOf := fun q j => by
      refine (hw.bindingsOf q j).trans ⟨?_, ?_⟩
      · grind
      · rintro ⟨c, hc, hp⟩
        obtain ⟨c', hc', hp', -⟩ := hlookup hc
        exact ⟨c', hc', hp'.trans hp⟩
    held := fun j c hc => by
      obtain ⟨c', hc', hp', -⟩ := hlookup hc
      rw [← hp']
      exact hw.held j c' hc'
    queued := hw.queued
    sorted := hw.sorted
    bounded := fun x a hx => hw.bounded x a (hholds hx)
    unique := fun x y a hx hy => hw.unique x y a (hholds hx) (hholds hy) }

lemma removeSelected_removes (hw : s.WellFormed) :
    Removes (fun i => ∃ e ∈ selected, e.1 = i) s (removeSelected selected s).1 ∧
      (∀ admin, s.countAdmin admin = (removeSelected selected s).2.count (.down admin) +
        (removeSelected selected s).1.countAdmin admin) ∧
      ∀ e ∈ (removeSelected selected s).2, ∃ admin, e = .down admin := by
  induction selected generalizing s with
  | nil =>
    refine ⟨(Removes.refl hw).of_iff fun i r _ => by simp, fun admin => ?_, nofun⟩
    rw [removeSelected, List.count_nil, Nat.zero_add]
  | cons e selected ih =>
    obtain ⟨i, r⟩ := e
    have hremoves := removeSession_removes hw i
    obtain ⟨hrest, hcount, hdowns⟩ := ih hremoves.wellFormed
    have hgone : Removes (fun j => ∃ e ∈ (i, r) :: selected, e.1 = j) s
        (removeSelected selected (s.removeSession i).1).1 :=
      (hremoves.trans hrest).of_iff fun j c _ => by simp [eq_comm]
    cases h : s.sessions.lookup i with
    | none =>
      rw [removeSession_none h] at hrest hcount hdowns hgone
      rw [removeSelected, removeSession_none h]
      exact ⟨hgone, hcount, hdowns⟩
    | some c =>
      have heq : s.removeSession i = ((s.removeSession i).1, some c) :=
        Prod.ext rfl (removeSession_some hw h).1
      rw [removeSelected, heq]
      refine ⟨hgone, fun admin => ?_, ?_⟩
      · rw [countAdmin_removeSession hw h, hcount admin, List.count_cons]
        simp only [beq_iff_eq, SessionEvent.down.injEq]
        omega
      · rintro e (_ | ⟨_, he⟩)
        · exact ⟨_, rfl⟩
        · exact hdowns e he

lemma finishRevocation_removes (hw : s.WellFormed) :
    ∃ t, DropsBindings (fun k b => ∃ h ∈ handles, k = h.selector ∧ b.authority = h.authority) s t ∧
      Removes (fun i => ∃ e ∈ selected, e.1 = i) t (finishRevocation selected handles s).1 :=
  have hdrops := DropsBindings.foldl (fun s h => DropsBindings.of_removeHandle h s) handles s
  ⟨_, hdrops, (removeSelected_removes (hdrops.wellFormed hw)).1⟩

end SessionState

end Chan.Proxy
