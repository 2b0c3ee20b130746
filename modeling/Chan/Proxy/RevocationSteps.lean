import Chan.Proxy.SessionMoves

namespace Chan.Proxy
open AssocMap Transition List AList

variable {w w' : World} {s : SessionState}

def targets (chosen : List (String × SessionRecord)) (handles : List BindingHandle) : List Nat :=
  chosen.map (fun e => e.2.authority) ++ handles.map fun x => x.authority

lemma mem_targets : a ∈ targets chosen handles ↔
    (∃ e ∈ chosen, e.2.authority = a) ∨ ∃ x ∈ handles, x.authority = a := by
  rw [targets, mem_append, mem_map, mem_map]

lemma mem_flatMap_revokeChores {f : α → Nat} {l : List α} :
    c ∈ l.flatMap (fun x => revokeChores (f x)) ↔
      ∃ x ∈ l, c = .cancel (f x) ∨ c = .close (f x) := by
  simp [revokeChores]

lemma drains_last (h : (.drained a :: rest) <:+ revocationChores chosen handles) (hc : c ∈ rest) :
    ∃ b, c = .drained b := by
  obtain ⟨front, heq⟩ := h
  rw [revocationChores, append_assoc _ _ (handles.map _)] at heq
  have hdrains {l} (hl : ∃ front, front ++ l =
      (chosen.map fun e => Chore.drained e.2.authority) ++
      handles.map fun x => Chore.drained x.authority) (hc : c ∈ l) : ∃ b, c = .drained b := by
    obtain ⟨front, hl⟩ := hl
    have hmem := mem_append_right front hc
    rw [hl, mem_append, mem_map, mem_map] at hmem
    rcases hmem with ⟨e, -, rfl⟩ | ⟨x, -, rfl⟩
    · exact ⟨_, rfl⟩
    · exact ⟨_, rfl⟩
  rcases List.append_eq_append_iff.1 heq with ⟨l, hrevokes, hl⟩ | ⟨l, -, hl⟩
  · cases l with
    | nil => exact hdrains ⟨[], by rw [hl]; rfl⟩ (mem_cons_of_mem _ hc)
    | cons d l =>
      obtain ⟨rfl, -⟩ := List.cons.inj hl
      have hmem : Chore.drained a ∈ front ++ Chore.drained a :: l :=
        mem_append_right _ mem_cons_self
      rw [← hrevokes, mem_append, mem_flatMap_revokeChores, mem_flatMap_revokeChores] at hmem
      rcases hmem with ⟨_, -, h | h⟩ | ⟨_, -, h | h⟩ <;> cases h
  · exact hdrains ⟨l, hl.symm⟩ (mem_cons_of_mem _ hc)

lemma sessions_cancelled_later (h : chores <:+ revocationChores chosen handles)
    (hdisjoint : ∀ e ∈ chosen, ∀ x ∈ handles, e.2.authority ≠ x.authority) (hx : x ∈ handles)
    (hc : .cancel x.authority ∈ chores) (he : e ∈ chosen) : .cancel e.2.authority ∈ chores := by
  obtain ⟨front, heq⟩ := h
  rw [revocationChores, append_assoc, append_assoc] at heq
  rcases List.append_eq_append_iff.1 heq with ⟨l, -, hl⟩ | ⟨l, -, hl⟩
  · rw [hl]
    refine mem_append_right _ (mem_append_left _ ?_)
    exact mem_flatMap_revokeChores.2 ⟨e, he, .inl rfl⟩
  · exfalso
    have hmem := mem_append_right l hc
    rw [← hl, mem_append, mem_flatMap_revokeChores, mem_append, mem_map,
      mem_map] at hmem
    rcases hmem with ⟨e, he, h | h⟩ | ⟨_, -, h⟩ | ⟨_, -, h⟩
    · exact hdisjoint e he x hx (Chore.cancel.inj h).symm
    · cases h
    · cases h
    · cases h

lemma cancel_mem_targets (h : chores <:+ revocationChores chosen handles)
    (hc : .cancel a ∈ chores) : a ∈ targets chosen handles := by
  have hmem := h.mem hc
  rw [revocationChores, mem_append, mem_append, mem_append, mem_flatMap_revokeChores,
    mem_flatMap_revokeChores, mem_map, mem_map] at hmem
  rw [mem_targets]
  rcases hmem with ((⟨x, hx, h | h⟩ | ⟨e, he, h | h⟩) | ⟨_, -, h⟩) | ⟨_, -, h⟩
  · exact .inr ⟨x, hx, (Chore.cancel.inj h).symm⟩
  · cases h
  · exact .inl ⟨e, he, (Chore.cancel.inj h).symm⟩
  · cases h
  · cases h
  · cases h

lemma targets_chores (h : a ∈ targets chosen handles) :
    .cancel a ∈ revocationChores chosen handles ∧ .close a ∈ revocationChores chosen handles ∧
      .drained a ∈ revocationChores chosen handles := by
  rw [mem_targets] at h
  simp only [revocationChores, mem_append, mem_flatMap_revokeChores, mem_map]
  rcases h with ⟨e, he, rfl⟩ | ⟨x, hx, rfl⟩
  · exact ⟨.inl (.inl (.inr ⟨e, he, .inl rfl⟩)), .inl (.inl (.inr ⟨e, he, .inr rfl⟩)),
      .inl (.inr ⟨e, he, rfl⟩)⟩
  · exact ⟨.inl (.inl (.inl ⟨x, hx, .inl rfl⟩)), .inl (.inl (.inl ⟨x, hx, .inr rfl⟩)),
      .inr ⟨x, hx, rfl⟩⟩

namespace World
open SessionState

lemma withChores_eq_revocation {c : Call}
    (h : c.withChores rest = .revocation scope chosen handles chores) :
    rest = chores ∧ c = .revocation scope chosen handles c.chores := by
  cases c with
  | prune => cases h
  | revocation =>
    cases h
    exact ⟨rfl, rfl⟩

def Done (s : SessionState) : Chore → Prop
  | .cancel a => s.cancelled a = true
  | .close a => (s.authorities a).revoked = true
  | .drained a => (s.authorities a).active = []
  | .down _ => True

lemma cancelled_cancel : (s.cancel a).cancelled a = true :=
  congrArg Authority.cancelled (Function.update_self a _ s.authorities)

lemma revoked_close : ((s.close a).authorities a).revoked = true :=
  congrArg Authority.revoked (Function.update_self a _ s.authorities)

lemma Does.revoking (h : Does now w m w')
    (hr : w'.Revoking scope chosen handles chores) :
    w.Revoking scope chosen handles chores ∨
    (Selects scope chosen handles w.state ∧ chores = revocationChores chosen handles ∧
      ∃ x, w'.state = { w.state with authoritySuspended := x }) ∨
    ∃ chore, w.Revoking scope chosen handles (chore :: chores) ∧ Done w'.state chore := by
  obtain ⟨call, hr⟩ := hr
  have hchore {n c chore rest s} (hcall : w.calls.lookup n = some c)
      (hchores : c.chores = chore :: rest) (hdone : Done s chore)
      (hr : (w.calls.insert n (c.withChores rest)).lookup call =
      some (.revocation scope chosen handles chores)) :
      w.Revoking scope chosen handles chores ∨
      (Selects scope chosen handles w.state ∧ chores = revocationChores chosen handles ∧
        ∃ x, s = { w.state with authoritySuspended := x }) ∨
      ∃ chore, w.Revoking scope chosen handles (chore :: chores) ∧ Done s chore := by
    rcases lookup_insert_eq_some hr with ⟨rfl, hc⟩ | ⟨-, hr⟩
    · obtain ⟨rfl, hform⟩ := withChores_eq_revocation hc.symm
      rw [hform, hchores] at hcall
      exact .inr (.inr ⟨chore, ⟨_, hcall⟩, hdone⟩)
    · exact .inl ⟨call, hr⟩
  cases h with
  | pruned =>
    rcases lookup_insert_eq_some hr with ⟨-, hc⟩ | ⟨-, hr⟩
    · cases hc
    · exact .inl ⟨call, hr⟩
  | selected hcall hselects =>
    rcases lookup_insert_eq_some hr with ⟨-, hc⟩ | ⟨-, hr⟩
    · cases hc
      exact .inr (.inl ⟨hselects, rfl, _, rfl⟩)
    · exact .inl ⟨call, hr⟩
  | cleared hcall hselects =>
    rcases lookup_insert_eq_some hr with ⟨-, hc⟩ | ⟨-, hr⟩
    · cases hc
      exact .inr (.inl ⟨hselects, rfl, _, rfl⟩)
    · exact .inl ⟨call, hr⟩
  | cancelled hcall hchores => exact hchore hcall hchores cancelled_cancel hr
  | closed hcall hchores => exact hchore hcall hchores revoked_close hr
  | drained hcall hchores hactive => exact hchore hcall hchores hactive hr
  | announced hcall hchores => exact hchore hcall hchores trivial hr
  | timedOut | prunedAll | completed => exact .inl ⟨call, (lookup_erase_eq_some hr).2⟩
  | _ => exact .inl ⟨call, hr⟩

lemma Does.goes_on (h : Does now w m w')
    (hr : w.Revoking scope chosen handles chores) :
    w'.Revoking scope chosen handles chores ∨
    (∃ chore rest, chores = chore :: rest ∧ w'.Revoking scope chosen handles rest ∧
      Done w'.state chore) ∨
    (chores = [] ∧ w'.state = (w.state.finishRevocation chosen handles).1) ∨
    ∃ a rest call, chores = .drained a :: rest ∧ m = .timeout call := by
  obtain ⟨call, hr⟩ := hr
  have hother {n c} (hne : call ≠ n) :
      (w.calls.insert n c).lookup call = some (.revocation scope chosen handles chores) :=
    (lookup_insert_ne hne).trans hr
  have hfresh {n c} (hn : w.calls.lookup n = none) :
      (w.calls.insert n c).lookup call = some (.revocation scope chosen handles chores) := by
    refine hother ?_
    rintro rfl
    exact nomatch hn.symm.trans hr
  have hchore {n c chore rest s sent} (hcall : w.calls.lookup n = some c)
      (hchores : c.chores = chore :: rest) (hdone : Done s chore) :
      ({ w with state := s, calls := w.calls.insert n (c.withChores rest), sent := sent } :
        World).Revoking scope chosen handles chores ∨
      (∃ chore rest', chores = chore :: rest' ∧
        ({ w with state := s, calls := w.calls.insert n (c.withChores rest), sent := sent } :
          World).Revoking scope chosen handles rest' ∧ Done s chore) ∨
      (chores = [] ∧ s = (w.state.finishRevocation chosen handles).1) ∨
      ∃ a rest call, chores = .drained a :: rest ∧ m = .timeout call := by
    by_cases hn : call = n
    · subst hn
      cases hr.symm.trans hcall
      exact .inr (.inl ⟨chore, rest, hchores, ⟨call, lookup_insert _⟩, hdone⟩)
    · exact .inl ⟨call, hother hn⟩
  cases h with
  | refused | notIssued | issued | lookedUp | lapsed | notBound | bound | unresolved | unheld
    | resolved | resumed | begun | finished => exact .inl ⟨call, hr⟩
  | pruned hcall | selected hcall | cleared hcall => exact .inl ⟨call, hfresh hcall⟩
  | cancelled hcall hchores => exact hchore hcall hchores cancelled_cancel
  | closed hcall hchores => exact hchore hcall hchores revoked_close
  | drained hcall hchores hactive => exact hchore hcall hchores hactive
  | announced hcall hchores => exact hchore hcall hchores trivial
  | @timedOut n _ _ _ hcall hchores =>
    by_cases hn : call = n
    · subst hn
      cases hr.symm.trans hcall
      exact .inr (.inr (.inr ⟨_, _, _, hchores, rfl⟩))
    · exact .inl ⟨call, (lookup_erase_ne hn).trans hr⟩
  | @prunedAll n hcall =>
    refine .inl ⟨call, (lookup_erase_ne ?_).trans hr⟩
    rintro rfl
    cases hr.symm.trans hcall
  | @completed n _ _ _ hcall =>
    by_cases hn : call = n
    · subst hn
      cases hr.symm.trans hcall
      exact .inr (.inr (.inl ⟨rfl, rfl⟩))
    · exact .inl ⟨call, (lookup_erase_ne hn).trans hr⟩

lemma Does.cancels (h : Does now w m w') (hw : w.state.WellFormed)
    (hx : w'.state.Holds x a) (ha : a < w.state.nextAuthority)
    (hnot : w.state.cancelled a = false) (hc : w'.state.cancelled a = true) :
    ∃ call c rest, w.calls.lookup call = some c ∧ c.chores = .cancel a :: rest ∧
      w'.calls = w.calls.insert call (c.withChores rest) ∧ w'.state = w.state.cancel a := by
  have hexpire := (expireDue_expires hw now).shrinks
  have hsame {t} (h : Shrinks w.state t) (hx : t.Holds x a) (hc : t.cancelled a = true) :
      False := by
    rw [SessionState.cancelled, h.authority_eq hw hx] at hc
    cases hnot.symm.trans hc
  have hmodify {b f} (hf : ∀ y, (f y).cancelled = y.cancelled)
      (hc : (w.state.modifyAuthority b f).cancelled a = true) : False := by
    rw [cancelled_modifyAuthority hf] at hc
    cases hnot.symm.trans hc
  cases h with
  | notIssued | notBound => exact (hsame hexpire hx hc).elim
  | issued =>
    refine (hsame hexpire ?_ ?_).elim
    · cases x with
      | session i =>
        obtain ⟨r, hr, hra⟩ := hx
        rcases (insertSession_lookup ..).1 hr with ⟨-, rfl⟩ | ⟨-, hr⟩
        · exact absurd (hexpire.nextAuthority.symm.trans hra) (Nat.ne_of_gt ha)
        · exact ⟨r, hr, hra⟩
      | binding k => exact hx
    · rw [cancelled_insertSession (by rw [hexpire.nextAuthority]; exact ha)] at hc
      exact hc
  | lapsed hr => exact (hsame (lapse_shrinks hw hr) hx hc).elim
  | bound _ ht _ =>
    have hroom := hexpire.trans (makeRoom_shrinks ht)
    refine (hsame hroom ?_ ?_).elim
    · cases x with
      | session i => exact hx
      | binding k =>
        obtain ⟨b, hb, hba⟩ := hx
        rcases (insertBinding_lookup ..).1 hb with ⟨-, rfl⟩ | ⟨-, hb⟩
        · exact absurd (hroom.nextAuthority.symm.trans hba) (Nat.ne_of_gt ha)
        · exact ⟨b, hb, hba⟩
    · rw [cancelled_insertBinding (by rw [hroom.nextAuthority]; exact ha)] at hc
      exact hc
  | unheld => exact (hsame (DropsBindings.of_dropBinding _ w.state).shrinks hx hc).elim
  | begun => exact (hmodify cancelled_begin hc).elim
  | @finished _ op => exact (hmodify (f := fun y => y.finish op) (fun _ => rfl) hc).elim
  | @cancelled call c rest b hcall hchores =>
    by_cases hab : a = b
    · subst hab
      exact ⟨call, c, rest, hcall, hchores, rfl, rfl⟩
    · rw [SessionState.cancelled, SessionState.cancel, authorities_modifyAuthority,
        if_neg hab] at hc
      cases hnot.symm.trans hc
  | closed => exact (hmodify (f := fun y => { y with revoked := true }) (fun _ => rfl) hc).elim
  | pruned => exact (hsame (takeExpired_expires hw now).shrinks hx hc).elim
  | completed =>
    obtain ⟨t, hdrops, hremoves⟩ := finishRevocation_removes hw
    exact (hsame (hdrops.shrinks.trans hremoves.shrinks) hx hc).elim
  | _ => cases hnot.symm.trans hc

lemma withChores_eq_prune {c : Call} (h : c.withChores rest = .prune chores) :
    rest = chores ∧ c = .prune c.chores := by
  cases c with
  | prune =>
    cases h
    exact ⟨rfl, rfl⟩
  | revocation => cases h

lemma Does.pruning (h : Does now w m w')
    (hp : w'.calls.lookup call = some (.prune chores)) :
    (∃ before, w.calls.lookup call = some (.prune before) ∧ ∀ c ∈ chores, c ∈ before) ∨
    (chores = pruneChores (w.state.takeExpired now).2 ∧
    w'.state = (w.state.takeExpired now).1) := by
  cases h with
  | refused | notIssued | issued | lookedUp | lapsed | notBound | bound | unresolved | unheld
    | resolved | resumed | begun | finished => exact .inl ⟨chores, hp, fun _ h => h⟩
  | pruned =>
    rcases lookup_insert_eq_some hp with ⟨-, hc⟩ | ⟨-, hp⟩
    · cases hc
      exact .inr ⟨rfl, rfl⟩
    · exact .inl ⟨chores, hp, fun _ h => h⟩
  | selected | cleared =>
    rcases lookup_insert_eq_some hp with ⟨-, hc⟩ | ⟨-, hp⟩
    · cases hc
    · exact .inl ⟨chores, hp, fun _ h => h⟩
  | cancelled hcall hchores | closed hcall hchores | drained hcall hchores
    | announced hcall hchores =>
    grind [lookup_insert_eq_some, withChores_eq_prune]
  | timedOut | prunedAll | completed =>
    exact .inl ⟨chores, (lookup_erase_eq_some hp).2, fun _ h => h⟩

structure Aims (s : SessionState) (chosen : List (String × SessionRecord))
    (handles : List BindingHandle) (chores : List Chore) : Prop where
  order : chores <:+ revocationChores chosen handles
  known : ∀ a ∈ targets chosen handles, a < s.nextAuthority
  disjoint : ∀ e ∈ chosen, ∀ x ∈ handles, e.2.authority ≠ x.authority
  ownSession : ∀ e ∈ chosen, ∀ y, s.Holds y e.2.authority → y = .session e.1
  ownRecord : ∀ e ∈ chosen, ∀ r, s.sessions.lookup e.1 = some r →
    r.authority = e.2.authority → r = e.2
  ownBinding : ∀ x ∈ handles, ∀ y, s.Holds y x.authority → y = .binding x.selector
  companion : ∀ x ∈ handles, ∀ b, s.bindings.lookup x.selector = some b →
    b.authority = x.authority → ∃ e ∈ chosen, e.2.principal = b.principal
  cancels : ∀ a ∈ targets chosen handles, .cancel a ∈ chores ∨ s.cancelled a = true

/-- A revocation in progress of which no selected id is drawn again. -/
structure Follows (s : SessionState) (chosen : List (String × SessionRecord))
    (handles : List BindingHandle) (chores : List Chore) : Prop extends
    Aims s chosen handles chores where
  same : ∀ e ∈ chosen, ∀ r, s.sessions.lookup e.1 = some r → r = e.2

lemma reaches_of_mem (he : e ∈ chosen) (hp : e.2.principal = p) :
    reaches scope chosen p = true := by
  rw [reaches, Bool.or_eq_true, any_eq_true]
  exact .inr ⟨e, he, decide_eq_true hp⟩

lemma Selects.mem_chosen (h : Selects scope chosen handles s) :
    e ∈ chosen ↔ s.sessions.lookup e.1 = some e.2 ∧ scope.matches e.2 = true := by
  rw [h.1.mem_iff, selectSessions, mem_map]
  constructor
  · rintro ⟨c, hc, rfl⟩
    obtain ⟨hmem, hmatch⟩ := List.mem_filter.1 hc
    exact ⟨AList.mem_lookup_iff.2 hmem, hmatch⟩
  · rintro ⟨hmem, hmatch⟩
    exact ⟨⟨e.1, e.2⟩, List.mem_filter.2 ⟨AList.mem_lookup_iff.1 hmem, hmatch⟩, rfl⟩

lemma Selects.mem_handles (h : Selects scope chosen handles s) :
    x ∈ handles ↔ ∃ b, s.bindings.lookup x.selector = some b ∧
      b.authority = x.authority ∧ reaches scope chosen b.principal = true := by
  rw [h.2.mem_iff, bindingHandles, mem_map]
  constructor
  · rintro ⟨c, hc, rfl⟩
    obtain ⟨hmem, hreach⟩ := List.mem_filter.1 hc
    exact ⟨c.2, AList.mem_lookup_iff.2 hmem, rfl, hreach⟩
  · rintro ⟨b, hmem, ha, hreach⟩
    refine ⟨⟨x.selector, b⟩, List.mem_filter.2 ⟨AList.mem_lookup_iff.1 hmem, hreach⟩, ?_⟩
    rw [ha]

lemma Aims.of_selects (hw : s.WellFormed)
    (h : Selects scope chosen handles s) :
    Aims s chosen handles (revocationChores chosen handles) where
  order := suffix_refl _
  known a ha := by
    rcases mem_targets.1 ha with ⟨e, he, rfl⟩ | ⟨x, hx, rfl⟩
    · exact hw.bounded (.session e.1) _ ⟨e.2, (h.mem_chosen.1 he).1, rfl⟩
    · obtain ⟨b, hb, ha, -⟩ := h.mem_handles.1 hx
      exact hw.bounded (.binding x.selector) _ ⟨b, hb, ha⟩
  disjoint e he x hx heq := by
    obtain ⟨b, hb, ha, -⟩ := h.mem_handles.1 hx
    cases hw.unique (.session e.1) (.binding x.selector) x.authority
      ⟨e.2, (h.mem_chosen.1 he).1, heq⟩ ⟨b, hb, ha⟩
  ownSession e he y hy := hw.unique y _ _ hy ⟨e.2, (h.mem_chosen.1 he).1, rfl⟩
  ownRecord e he r hr _ := Option.some.inj (hr.symm.trans (h.mem_chosen.1 he).1)
  ownBinding x hx y hy := by
    obtain ⟨b, hb, ha, -⟩ := h.mem_handles.1 hx
    exact hw.unique y _ _ hy ⟨b, hb, ha⟩
  companion x hx b hb ha := by
    obtain ⟨c, hc, -, hreach⟩ := h.mem_handles.1 hx
    cases hb.symm.trans hc
    rw [reaches, Bool.or_eq_true, any_eq_true] at hreach
    rcases hreach with hscope | ⟨e, he, hp⟩
    · -- The scope names the principal, and with it the record that holds the binding.
      obtain ⟨i, r, hr, hp⟩ := hw.held _ b hb
      refine ⟨(i, r), h.mem_chosen.2 ⟨hr, ?_⟩, hp⟩
      rw [← hp] at hscope
      cases scope with
      | sessionId => cases hscope
      | _ => exact hscope
    · exact ⟨e, he, of_decide_eq_true hp⟩
  cancels a ha := .inl (targets_chores ha).1

lemma Follows.of_selects (hw : s.WellFormed)
    (h : Selects scope chosen handles s) :
    Follows s chosen handles (revocationChores chosen handles) where
  toAims := .of_selects hw h
  same _ he _ hr := Option.some.inj (hr.symm.trans (h.mem_chosen.1 he).1)

lemma Aims.advance (h : Aims s chosen handles (c :: chores)) (hdone : Done s c) :
    Aims s chosen handles chores where
  order := (suffix_cons c chores).trans h.order
  known := h.known
  disjoint := h.disjoint
  ownSession := h.ownSession
  ownRecord := h.ownRecord
  ownBinding := h.ownBinding
  companion := h.companion
  cancels a ha := by
    rcases h.cancels a ha with hmem | hc
    · rcases List.mem_cons.1 hmem with rfl | hmem
      · exact .inr hdone
      · exact .inl hmem
    · exact .inr hc

lemma Follows.advance (h : Follows s chosen handles (c :: chores)) (hdone : Done s c) :
    Follows s chosen handles chores := ⟨h.toAims.advance hdone, h.same⟩

lemma Aims.stores (h : Aims s chosen handles chores) (hstores : Stores s t) :
    Aims t chosen handles chores := by
  have hsession {e} (he : e ∈ chosen) :
      e.2.authority < s.nextAuthority := h.known _ (mem_targets.2 (.inl ⟨e, he, rfl⟩))
  have hbinding {x} (hx : x ∈ handles) : x.authority < s.nextAuthority :=
    h.known _ (mem_targets.2 (.inr ⟨x, hx, rfl⟩))
  exact { h with
    known := fun a ha => (h.known a ha).trans_le hstores.nextAuthority
    ownSession := fun e he y hy => h.ownSession e he y (hstores.holds hy (hsession he))
    ownRecord := fun e he r hin ha =>
      h.ownRecord e he r (hstores.sessions hin (by rw [ha]; exact hsession he)) ha
    ownBinding := fun x hx y hy => h.ownBinding x hx y (hstores.holds hy (hbinding hx))
    companion := fun x hx b hb ha => by
      obtain ⟨c, hc, hp, -, hca⟩ := hstores.bindings hb (by rw [ha]; exact hbinding hx)
      rw [← hp]
      exact h.companion x hx c hc (hca.trans ha)
    cancels := fun a ha => (h.cancels a ha).imp_right (hstores.tightens (h.known a ha)).cancelled }

lemma Follows.stores (h : Follows s chosen handles chores) (hstores : Stores s t)
    (hsessions : ∀ e ∈ chosen, ∀ r, t.sessions.lookup e.1 = some r →
      s.sessions.lookup e.1 = some r) : Follows t chosen handles chores :=
  ⟨h.toAims.stores hstores, fun e he r hin => h.same e he r (hsessions e he r hin)⟩

lemma Follows.step (h : Follows w.state chosen handles chores)
    (hw : w.state.WellFormed) (hd : Does now w m w')
    (hid : ∀ p client i admin, m = .issue p client i admin → ∀ e ∈ chosen, e.1 ≠ i) :
    Follows w'.state chosen handles chores := by
  refine h.stores (hd.stores hw) fun e he r hin => ?_
  rcases hd.sessions hw hin with hin | ⟨client, rfl, -⟩
  · exact hin
  · exact absurd rfl (hid _ _ _ _ rfl e he)

def Aimed (w : World) : Prop := ∀ scope chosen handles chores,
  w.Revoking scope chosen handles chores → Aims w.state chosen handles chores

lemma Does.aimed (hd : Does now w m w') (hw : w.state.WellFormed)
    (h : w.Aimed) : w'.Aimed := by
  intro scope chosen handles chores hr
  have hstores := hd.stores hw
  rcases hd.revoking hr with hr | ⟨hselects, rfl, x, hstate⟩ | ⟨c, hr, hdone⟩
  · exact (h _ _ _ _ hr).stores hstores
  · rw [hstate]
    exact .of_selects (hw.of_maps rfl) hselects
  · exact ((h _ _ _ _ hr).stores hstores).advance hdone

def Pruned (w : World) : Prop := ∀ call chores a, w.calls.lookup call = some (.prune chores) →
  .cancel a ∈ chores → a < w.state.nextAuthority ∧ ∀ x, ¬w.state.Holds x a

lemma Does.prunes (hd : Does now w m w') (hw : w.state.WellFormed)
    (h : w.Pruned) : w'.Pruned := by
  intro call chores a hp hc
  have hstores := hd.stores hw
  rcases hd.pruning hp with ⟨before, hbefore, hsub⟩ | ⟨rfl, hstate⟩
  · obtain ⟨ha, hnone⟩ := h call before a hbefore (hsub _ hc)
    exact ⟨ha.trans_le hstores.nextAuthority, fun x hx => hnone x (hstores.holds hx ha)⟩
  · have hexpires := takeExpired_expires hw now
    rw [pruneChores, mem_flatMap] at hc
    obtain ⟨r, hr, hmem⟩ := hc
    simp only [revokeChores, cons_append, nil_append, mem_cons, Chore.cancel.injEq,
      reduceCtorEq, not_mem_nil, or_false] at hmem
    subst hmem
    obtain ⟨i, hin, hout⟩ := hexpires.expired r hr
    have ha := bounded_session hw hin
    refine ⟨ha.trans_le hstores.nextAuthority, fun x hx => ?_⟩
    cases hw.unique x (.session i) _ (hstores.holds hx ha) ⟨r, hin, rfl⟩
    obtain ⟨c, hc, -⟩ := hx
    rw [hstate] at hc
    exact nomatch hout.symm.trans hc

def Selected (w : World) (i : String) (r : SessionRecord) : Prop :=
  ∃ scope chosen handles chores, w.Revoking scope chosen handles chores ∧ (i, r) ∈ chosen

def SelectedBinding (w : World) (k : String) (a : Nat) : Prop :=
  ∃ scope chosen handles chores, w.Revoking scope chosen handles chores ∧ ⟨k, a⟩ ∈ handles

lemma revoking_chore (hcall : w.calls.lookup call = some c)
    (hcalls : w'.calls = w.calls.insert call (c.withChores rest)) :
    (∃ chores, w'.Revoking scope chosen handles chores) ↔
      ∃ chores, w.Revoking scope chosen handles chores := by
  constructor
  · rintro ⟨chores, n, hn⟩
    rw [hcalls] at hn
    rcases lookup_insert_eq_some hn with ⟨rfl, heq⟩ | ⟨-, hn⟩
    · rw [(withChores_eq_revocation heq.symm).2] at hcall
      exact ⟨_, _, hcall⟩
    · exact ⟨chores, n, hn⟩
  · rintro ⟨chores, n, hn⟩
    by_cases hne : n = call
    · subst hne
      cases hn.symm.trans hcall
      refine ⟨rest, n, ?_⟩
      rw [hcalls]
      exact lookup_insert _
    · refine ⟨chores, n, ?_⟩
      rw [hcalls]
      exact (lookup_insert_ne hne).trans hn

lemma selected_iff_exists : w.Selected i r ↔ ∃ scope chosen handles,
    (∃ chores, w.Revoking scope chosen handles chores) ∧ (i, r) ∈ chosen := by
  simp [Selected]

lemma selectedBinding_iff_exists : w.SelectedBinding k a ↔ ∃ scope chosen handles,
    (∃ chores, w.Revoking scope chosen handles chores) ∧ ⟨k, a⟩ ∈ handles := by
  simp [SelectedBinding]

def Accounted (w : World) : Prop := ∀ i r, w.state.sessions.lookup i = some r →
  w.state.cancelled r.authority = true → w.Selected i r

lemma Does.accounted (hd : Does now w m w') (hw : w.state.WellFormed)
    (ha : w.Aimed) (hp : w.Pruned) (hm : ∀ call, m ≠ .timeout call) (h : w.Accounted) :
    w'.Accounted := by
  intro i r hin hc
  rcases hd.sessions hw hin with hold | ⟨_, -, -, hnew⟩
  · have hholds : w.state.Holds (.session i) r.authority := ⟨r, hold, rfl⟩
    by_cases hcw : w.state.cancelled r.authority = true
    · obtain ⟨scope, chosen, handles, chores, hr, hmem⟩ := h i r hold hcw
      rcases hd.goes_on hr with hr | ⟨c, rest, -, hr, -⟩ | ⟨-, hstate⟩ | ⟨a, rest, call, -, rfl⟩
      · exact ⟨_, _, _, _, hr, hmem⟩
      · exact ⟨_, _, _, _, hr, hmem⟩
      · obtain ⟨t, -, hremoves⟩ := finishRevocation_removes hw
        rw [hstate] at hin
        exact absurd ⟨_, hmem, rfl⟩ ((hremoves.sessions i r).1 hin).2
      · exact absurd rfl (hm call)
    · obtain ⟨call, c, rest, hcall, hchores, hcalls, -⟩ := hd.cancels hw (x := .session i)
        ⟨r, hin, rfl⟩ (hw.bounded _ _ hholds) (Bool.eq_false_iff.2 hcw) hc
      cases c with
      | prune chores =>
        refine absurd hholds ((hp call chores r.authority hcall ?_).2 _)
        rw [show chores = _ from hchores]
        exact mem_cons_self
      | revocation scope chosen handles chores =>
        cases hchores
        have haims := ha _ _ _ _ ⟨call, hcall⟩
        rcases mem_targets.1 (cancel_mem_targets haims.order mem_cons_self) with
          ⟨e, he, hea⟩ | ⟨x, hx, hxa⟩
        · rw [← hea] at hholds
          cases haims.ownSession e he _ hholds
          cases haims.ownRecord e he r hold hea.symm
          refine ⟨scope, chosen, handles, rest, ⟨call, ?_⟩, he⟩
          rw [hcalls]
          exact lookup_insert _
        · rw [← hxa] at hholds
          cases haims.ownBinding x hx _ hholds
  · rw [SessionState.cancelled, hnew] at hc
    cases hc

end World

end Chan.Proxy
