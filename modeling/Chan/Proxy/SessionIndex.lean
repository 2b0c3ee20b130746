import Chan.Proxy.SessionStore

namespace Chan.Proxy
open AssocMap List AList

variable {s : SessionState}

namespace SessionState

/-- What holds an authority: a session by its id, or a binding by its selector. -/
inductive Holder where
  | session (id : String)
  | binding (selector : String)

def Holds (s : SessionState) : Holder → Nat → Prop
  | .session id, a => ∃ record, s.sessions.lookup id = some record ∧ record.authority = a
  | .binding selector, a => ∃ b, s.bindings.lookup selector = some b ∧ b.authority = a

def HasSession (s : SessionState) (p : SessionPrincipal) : Prop :=
  ∃ id record, s.sessions.lookup id = some record ∧ record.principal = p

def IndexesSessions (s : SessionState) : Prop :=
  ∀ p id, id ∈ s.sessionsOf p ↔ ∃ record, s.sessions.lookup id = some record ∧ record.principal = p

def IndexesBindings (s : SessionState) : Prop :=
  ∀ p k, k ∈ s.bindingsOf p ↔ ∃ b, s.bindings.lookup k = some b ∧ b.principal = p

/-- What every step of the store keeps. -/
structure WellFormed (s : SessionState) : Prop where
  sessionsOf : s.IndexesSessions
  bindingsOf : s.IndexesBindings
  held : ∀ k b, s.bindings.lookup k = some b → s.HasSession b.principal
  queued : ∀ id record, s.sessions.lookup id = some record →
    toLex (record.expiresAt, id) ∈ s.expiries
  sorted : s.expiries.Pairwise (· ≤ ·)
  bounded : ∀ x a, s.Holds x a → a < s.nextAuthority
  unique : ∀ x y a, s.Holds x a → s.Holds y a → x = y

lemma wellFormed_new : new.WellFormed where
  sessionsOf p id := ⟨nofun, fun ⟨_, h, _⟩ => nomatch h⟩
  bindingsOf p k := ⟨nofun, fun ⟨_, h, _⟩ => nomatch h⟩
  held k b h := nomatch h
  queued id record h := nomatch h
  sorted := .nil
  bounded x a h := by cases x <;> exact nomatch h.choose_spec.1
  unique x y a h := by cases x <;> exact nomatch h.choose_spec.1

lemma WellFormed.of_maps {s t : SessionState} (hw : s.WellFormed) (h : t = { s with
    authorities := t.authorities, authoritySuspended := t.authoritySuspended }) :
    t.WellFormed := by
  rw [h]
  exact { hw with
    bounded := fun x a hx => hw.bounded x a (by cases x <;> exact hx)
    unique := fun x y a hx hy =>
      hw.unique x y a (by cases x <;> exact hx) (by cases y <;> exact hy) }

/-- Sessions and bindings are removed, and nothing else changes but the authorities of those. -/
structure Shrinks (s t : SessionState) : Prop where
  sessions : Sub t.sessions.lookup s.sessions.lookup
  bindings : Sub t.bindings.lookup s.bindings.lookup
  bindingsOf : ∀ p, (t.bindingsOf p).Sublist (s.bindingsOf p)
  suspended : t.authoritySuspended = s.authoritySuspended
  nextAuthority : t.nextAuthority = s.nextAuthority
  active : ∀ a, (t.authorities a).active = (s.authorities a).active
  cancelled : ∀ a, s.cancelled a = true → t.cancelled a = true
  revoked : ∀ a, (s.authorities a).revoked = true → (t.authorities a).revoked = true
  touched : ∀ a, t.authorities a = s.authorities a ∨ ∃ x, s.Holds x a ∧ ¬t.Holds x a

namespace Shrinks

lemma refl (s : SessionState) : Shrinks s s where
  sessions := .refl _
  bindings := .refl _
  bindingsOf _ := .refl _
  suspended := rfl
  nextAuthority := rfl
  active _ := rfl
  cancelled _ h := h
  revoked _ h := h
  touched _ := .inl rfl

lemma holds (h : Shrinks s t) (hx : t.Holds x a) : s.Holds x a := by
  cases x with
  | session id =>
    obtain ⟨record, hr, ha⟩ := hx
    exact ⟨record, h.sessions _ _ hr, ha⟩
  | binding k =>
    obtain ⟨b, hb, ha⟩ := hx
    exact ⟨b, h.bindings _ _ hb, ha⟩

lemma trans (h : Shrinks s t) (h' : Shrinks t u) : Shrinks s u where
  sessions := h'.sessions.trans h.sessions
  bindings := h'.bindings.trans h.bindings
  bindingsOf p := (h'.bindingsOf p).trans (h.bindingsOf p)
  suspended := h'.suspended.trans h.suspended
  nextAuthority := h'.nextAuthority.trans h.nextAuthority
  active a := (h'.active a).trans (h.active a)
  cancelled a ha := h'.cancelled a (h.cancelled a ha)
  revoked a ha := h'.revoked a (h.revoked a ha)
  touched a := by
    rcases h'.touched a with heq | ⟨x, hx, hn⟩
    · rcases h.touched a with heq' | ⟨x, hx, hn⟩
      · exact .inl (heq.trans heq')
      · exact .inr ⟨x, hx, fun hu => hn (h'.holds hu)⟩
    · exact .inr ⟨x, h.holds hx, hn⟩

lemma authority_eq (h : Shrinks s t) (hw : s.WellFormed) (hx : t.Holds x a) :
    t.authorities a = s.authorities a := by
  rcases h.touched a with heq | ⟨y, hy, hn⟩
  · exact heq
  · rw [hw.unique y x a hy (h.holds hx)] at hn
    exact absurd hx hn

end Shrinks

lemma lookup_erase_iff [DecidableEq α] {m : Map α β} :
    (m.erase a).lookup k = some x ↔ m.lookup k = some x ∧ k ≠ a :=
  ⟨fun h => (lookup_erase_eq_some h).symm, fun ⟨h, hne⟩ => (lookup_erase_ne hne).trans h⟩

lemma removeBinding_none (h : s.bindings.lookup k = none) : removeBinding k s = (s, none) := by
  rw [removeBinding, h]

lemma removeBinding_some (h : s.bindings.lookup k = some b) :
    ∃ index, removeBinding k s =
      ({ s with bindings := s.bindings.erase k, principalBindings := index }, some b) ∧
      ∀ p, (index.lookup p).getD [] =
        if p = b.principal then (s.bindingsOf p).filter (· ≠ k) else s.bindingsOf p := by
  rw [removeBinding, h]
  dsimp only
  split
  · rename_i hnone
    refine ⟨s.principalBindings, rfl, fun p => ?_⟩
    split
    · rename_i hp
      rw [bindingsOf, hp, hnone]
      rfl
    · rfl
  · rename_i selectors hsome
    refine ⟨_, rfl, fun p => ?_⟩
    have hof : s.bindingsOf b.principal = selectors := by rw [bindingsOf, hsome]; rfl
    by_cases hp : p = b.principal
    · grind
    · rw [if_neg hp]
      split
      · rw [lookup_erase_ne hp, bindingsOf]
      · rw [lookup_insert_ne hp, bindingsOf]

/-- What dropping bindings leaves: the same sessions, the other bindings and their index, and the
authorities of the other holders. -/
structure DropsBindings (gone : String → ExtensionBinding → Prop) (s t : SessionState) : Prop where
  sessions : t.sessions = s.sessions
  principalSessions : t.principalSessions = s.principalSessions
  expiries : t.expiries = s.expiries
  bindings : ∀ k b, t.bindings.lookup k = some b ↔ s.bindings.lookup k = some b ∧ ¬gone k b
  indexes : s.IndexesBindings → t.IndexesBindings
  shrinks : Shrinks s t

lemma DropsBindings.of_removeBinding (k : String) (s : SessionState) :
    DropsBindings (fun j _ => j = k) s (removeBinding k s).1 := by
  cases h : s.bindings.lookup k with
  | none =>
    rw [removeBinding_none h]
    refine ⟨rfl, rfl, rfl, fun j b => ⟨fun hj => ⟨hj, ?_⟩, And.left⟩, id, .refl s⟩
    rintro rfl
    exact nomatch h.symm.trans hj
  | some b =>
    obtain ⟨index, heq, hindex⟩ := removeBinding_some h
    have hlookup j c :
        (s.bindings.erase k).lookup j = some c ↔ s.bindings.lookup j = some c ∧ j ≠ k :=
      lookup_erase_iff
    rw [heq]
    refine ⟨rfl, rfl, rfl, hlookup, fun hidx p j => ?_, ?_⟩
    · exact Lists.erase hidx h hindex p j
    · exact {
        sessions := .refl _
        bindings := fun j c hc => ((hlookup j c).1 hc).1
        bindingsOf := fun p => by
          rw [bindingsOf, hindex p]
          split
          · exact filter_sublist
          · exact .refl _
        suspended := rfl
        nextAuthority := rfl
        active := fun _ => rfl
        cancelled := fun _ h => h
        revoked := fun _ h => h
        touched := fun _ => .inl rfl }

lemma revokeAuthority_authorities : (s.revokeAuthority a).authorities =
      Function.update s.authorities a
      { s.authorities a with cancelled := true, revoked := true } := by
  simp [revokeAuthority, close, cancel, modifyAuthority]

lemma Shrinks.revokeAuthority (h : Shrinks s t) (hx : s.Holds x a) (hn : ¬t.Holds x a) :
    Shrinks s (t.revokeAuthority a) := by
  have hstep : Shrinks s (t.revokeAuthority a) := { h with
    active := fun c => by
      rw [revokeAuthority_authorities, Function.update_apply]
      split
      · rename_i hc
        rw [hc]
        exact h.active a
      · exact h.active c
    cancelled := fun c hc => by
      rw [SessionState.cancelled, revokeAuthority_authorities, Function.update_apply]
      split
      · rfl
      · exact h.cancelled c hc
    revoked := fun c hc => by
      rw [revokeAuthority_authorities, Function.update_apply]
      split
      · rfl
      · exact h.revoked c hc
    touched := fun c => by
      rw [revokeAuthority_authorities, Function.update_apply]
      split
      · rename_i hc
        rw [hc]
        exact .inr ⟨x, hx, fun ht => hn (by cases x <;> exact ht)⟩
      · rcases h.touched c with heq | ⟨y, hy, hny⟩
        · exact .inl heq
        · exact .inr ⟨y, hy, fun ht => hny (by cases y <;> exact ht)⟩ }
  exact hstep

lemma DropsBindings.of_dropBinding (k : String) (s : SessionState) :
    DropsBindings (fun j _ => j = k) s (s.dropBinding k) := by
  have hremove := DropsBindings.of_removeBinding k s
  rw [dropBinding]
  cases h : s.bindings.lookup k with
  | none =>
    rw [removeBinding_none h] at hremove ⊢
    exact hremove
  | some b =>
    obtain ⟨index, heq, -⟩ := removeBinding_some h
    rw [heq] at hremove ⊢
    have hgone : ¬Holds { s with bindings := s.bindings.erase k, principalBindings := index }
        (.binding k) b.authority := by
      rintro ⟨c, hc, -⟩
      exact ((hremove.bindings k c).1 hc).2 rfl
    exact ⟨hremove.sessions, hremove.principalSessions, hremove.expiries, hremove.bindings,
      hremove.indexes, hremove.shrinks.revokeAuthority (x := .binding k) ⟨b, h, rfl⟩ hgone⟩

lemma DropsBindings.trans
    (h : DropsBindings gone s t) (h' : DropsBindings gone' t u) :
    DropsBindings (fun k b => gone k b ∨ gone' k b) s u where
  sessions := h'.sessions.trans h.sessions
  principalSessions := h'.principalSessions.trans h.principalSessions
  expiries := h'.expiries.trans h.expiries
  bindings k b := by rw [h'.bindings, h.bindings, and_assoc, not_or]
  indexes hi := h'.indexes (h.indexes hi)
  shrinks := h.shrinks.trans h'.shrinks

lemma DropsBindings.of_iff
    (h : DropsBindings gone s t)
    (hg : ∀ k b, s.bindings.lookup k = some b → (gone k b ↔ gone' k b)) :
    DropsBindings gone' s t where
  sessions := h.sessions
  principalSessions := h.principalSessions
  expiries := h.expiries
  bindings k b := by
    rw [h.bindings]
    exact and_congr_right fun hb => not_congr (hg k b hb)
  indexes := h.indexes
  shrinks := h.shrinks

lemma DropsBindings.refl (s : SessionState) : DropsBindings (fun _ _ => False) s s where
  sessions := rfl
  principalSessions := rfl
  expiries := rfl
  bindings k b := by rw [not_false_iff, and_true]
  indexes := id
  shrinks := .refl s

lemma DropsBindings.foldl
    {g : α → String → ExtensionBinding → Prop} (hf : ∀ s x, DropsBindings (g x) s (f s x))
    (l : List α) (s : SessionState) :
    DropsBindings (fun k b => ∃ x ∈ l, g x k b) s (l.foldl f s) := by
  induction l generalizing s with
  | nil => exact (DropsBindings.refl s).of_iff fun k b _ => by simp
  | cons x l ih => exact ((hf s x).trans (ih (f s x))).of_iff fun k b _ => by simp

lemma DropsBindings.wellFormed
    (h : DropsBindings gone s t) (hw : s.WellFormed) : t.WellFormed where
  sessionsOf p i := by
    rw [SessionState.sessionsOf, h.principalSessions, h.sessions]
    exact hw.sessionsOf p i
  bindingsOf := h.indexes hw.bindingsOf
  held k b hb := by
    rw [HasSession, h.sessions]
    exact hw.held k b (h.shrinks.bindings _ _ hb)
  queued i r hr := by
    rw [h.expiries]
    exact hw.queued i r (h.shrinks.sessions _ _ hr)
  sorted := by
    rw [h.expiries]
    exact hw.sorted
  bounded x a hx := by
    rw [h.shrinks.nextAuthority]
    exact hw.bounded x a (h.shrinks.holds hx)
  unique x y a hx hy := hw.unique x y a (h.shrinks.holds hx) (h.shrinks.holds hy)

lemma DropsBindings.of_removeHandle (handle : BindingHandle) (s : SessionState) :
    DropsBindings (fun k b => k = handle.selector ∧ b.authority = handle.authority) s
      (s.removeHandle handle) := by
  rw [removeHandle]
  split
  · rename_i c hc
    split
    · rename_i hauthority
      refine (DropsBindings.of_removeBinding handle.selector s).of_iff fun k b hb => ?_
      refine ⟨?_, And.left⟩
      rintro rfl
      cases hc.symm.trans hb
      exact ⟨rfl, hauthority⟩
    · rename_i hauthority
      refine (DropsBindings.refl s).of_iff fun k b hb => iff_of_false id ?_
      rintro ⟨rfl, hb'⟩
      cases hc.symm.trans hb
      exact hauthority hb'
  · rename_i hnone
    refine (DropsBindings.refl s).of_iff fun k b hb => iff_of_false id ?_
    rintro ⟨rfl, -⟩
    exact nomatch hnone.symm.trans hb

def countAdmin (s : SessionState) (admin : Uuid) : Nat :=
  countWhere (fun record => record.adminSessionId = admin) s.sessions

/-- Sessions are removed, and with them the bindings of the principals that hold no other. -/
structure Removes (gone : String → Prop) (s t : SessionState) : Prop where
  sessions : ∀ id record, t.sessions.lookup id = some record ↔
    s.sessions.lookup id = some record ∧ ¬gone id
  bindings : ∀ k b, t.bindings.lookup k = some b ↔
    s.bindings.lookup k = some b ∧ t.HasSession b.principal
  expiries : t.expiries = s.expiries
  wellFormed : t.WellFormed
  shrinks : Shrinks s t

lemma Removes.refl (hw : s.WellFormed) : Removes (fun _ => False) s s where
  sessions id record := by rw [not_false_iff, and_true]
  bindings k b := ⟨fun h => ⟨h, hw.held k b h⟩, And.left⟩
  expiries := rfl
  wellFormed := hw
  shrinks := .refl s

lemma Shrinks.hasSession (h : Shrinks s t) (ht : t.HasSession p) : s.HasSession p := by
  obtain ⟨id, record, hr, hp⟩ := ht
  exact ⟨id, record, h.sessions _ _ hr, hp⟩

lemma Removes.trans (h : Removes gone s t) (h' : Removes gone' t u) :
    Removes (fun id => gone id ∨ gone' id) s u where
  sessions id record := by rw [h'.sessions, h.sessions, and_assoc, not_or]
  bindings k b := by
    rw [h'.bindings, h.bindings, and_assoc]
    exact and_congr_right fun _ => ⟨And.right, fun hu => ⟨h'.shrinks.hasSession hu, hu⟩⟩
  expiries := h'.expiries.trans h.expiries
  wellFormed := h'.wellFormed
  shrinks := h.shrinks.trans h'.shrinks

lemma Removes.of_iff (h : Removes gone s t)
    (hg : ∀ id record, s.sessions.lookup id = some record → (gone id ↔ gone' id)) :
    Removes gone' s t where
  sessions id record := by
    rw [h.sessions]
    exact and_congr_right fun hr => not_congr (hg id record hr)
  bindings := h.bindings
  expiries := h.expiries
  wellFormed := h.wellFormed
  shrinks := h.shrinks

lemma Shrinks.wellFormed (h : Shrinks s t) (hw : s.WellFormed) (he : t.expiries = s.expiries)
    (hs : t.IndexesSessions) (hb : t.IndexesBindings)
    (hheld : ∀ k b, t.bindings.lookup k = some b → t.HasSession b.principal) : t.WellFormed where
  sessionsOf := hs
  bindingsOf := hb
  held := hheld
  queued id record hr := by
    rw [he]
    exact hw.queued id record (h.sessions _ _ hr)
  sorted := by
    rw [he]
    exact hw.sorted
  bounded x a hx := by
    rw [h.nextAuthority]
    exact hw.bounded x a (h.holds hx)
  unique x y a hx hy := hw.unique x y a (h.holds hx) (h.holds hy)

lemma removeSession_none (h : s.sessions.lookup i = none) : removeSession i s = (s, none) := by
  rw [removeSession, h]

lemma indexesSessions_erase {s t : SessionState} (hw : s.IndexesSessions)
    (h : s.sessions.lookup i = some r) (hsessions : t.sessions = s.sessions.erase i)
    (hindex : ∀ p, t.sessionsOf p =
      if p = r.principal then (s.sessionsOf p).filter (· ≠ i) else s.sessionsOf p) :
    t.IndexesSessions := by
  intro p
  rw [hsessions]
  exact Lists.erase hw h hindex p

lemma shrinks_erase {s t : SessionState} (hsessions : t.sessions = s.sessions.erase i)
    (hbindings : t.bindings = s.bindings) (hbindingsOf : ∀ p, t.bindingsOf p = s.bindingsOf p)
    (hauthorities : t.authorities = s.authorities)
    (hsuspended : t.authoritySuspended = s.authoritySuspended)
    (hnext : t.nextAuthority = s.nextAuthority) : Shrinks s t where
  sessions j r hj := by
    rw [hsessions] at hj
    exact (lookup_erase_iff.1 hj).1
  bindings := by
    rw [hbindings]
    exact .refl _
  bindingsOf p := by
    rw [hbindingsOf]
  suspended := hsuspended
  nextAuthority := hnext
  active a := by rw [hauthorities]
  cancelled a h := by rwa [SessionState.cancelled, hauthorities]
  revoked a h := by rwa [hauthorities]
  touched a := .inl (by rw [hauthorities])

lemma hasSession_erase {s t : SessionState} (h : s.sessions.lookup i = some r)
    (hsessions : t.sessions = s.sessions.erase i) (hp : p ≠ r.principal) (hs : s.HasSession p) :
    t.HasSession p := by
  obtain ⟨j, r', hr, hrp⟩ := hs
  rw [HasSession, hsessions]
  refine ⟨j, r', lookup_erase_iff.2 ⟨hr, ?_⟩, hrp⟩
  rintro rfl
  cases h.symm.trans hr
  exact hp hrp.symm

lemma Removes.of_erase {s t : SessionState} (hw : s.WellFormed)
    (hsessions : t.sessions = s.sessions.erase i) (hexpiries : t.expiries = s.expiries)
    (hindex : t.IndexesSessions) (hbindings : t.IndexesBindings) (hshrinks : Shrinks s t)
    (hkept : ∀ k b, t.bindings.lookup k = some b ↔
      s.bindings.lookup k = some b ∧ t.HasSession b.principal) : Removes (· = i) s t where
  sessions j r := by
    rw [hsessions]
    exact lookup_erase_iff
  bindings := hkept
  expiries := hexpiries
  wellFormed := hshrinks.wellFormed hw hexpiries hindex hbindings
    fun k b hb => ((hkept k b).1 hb).2
  shrinks := hshrinks

lemma Removes.last {s t : SessionState} (hw : s.WellFormed) (h : s.sessions.lookup i = some r)
    (hlast : (s.sessionsOf r.principal).filter (· ≠ i) = [])
    (hsessions : t.sessions = s.sessions.erase i)
    (hprincipals : t.principalSessions = s.principalSessions.erase r.principal)
    (hbindings : t.bindings = s.bindings) (hbindingsOf : ∀ p, t.bindingsOf p = s.bindingsOf p)
    (hexpiries : t.expiries = s.expiries) (hshrinks : Shrinks s t) :
    Removes (· = i) s
      ((t.bindingsOf r.principal).foldl (fun s k => s.dropBinding k) t) := by
  have hnone : ¬t.HasSession r.principal := by
    rintro ⟨j, r', hr', hp⟩
    rw [hsessions, lookup_erase_iff] at hr'
    have hmem : j ∈ (s.sessionsOf r.principal).filter (· ≠ i) :=
      List.mem_filter.2 ⟨(hw.sessionsOf r.principal j).2 ⟨r', hr'.1, hp⟩, decide_eq_true hr'.2⟩
    rw [hlast] at hmem
    cases hmem
  have hindex : t.IndexesSessions := by
    refine indexesSessions_erase hw.sessionsOf h hsessions fun p => ?_
    rw [sessionsOf, hprincipals]
    split
    · rename_i hp
      rw [hp, lookup_erase]
      exact hlast.symm
    · rename_i hp
      rw [lookup_erase_ne hp, sessionsOf]
  have hdrops := DropsBindings.foldl (fun s k => DropsBindings.of_dropBinding k s)
    (t.bindingsOf r.principal) t
  generalize (t.bindingsOf r.principal).foldl (fun s k => s.dropBinding k) t = u at hdrops ⊢
  have husessions : u.sessions = s.sessions.erase i := hdrops.sessions.trans hsessions
  refine .of_erase hw husessions (hdrops.expiries.trans hexpiries) ?_ (hdrops.indexes ?_)
    (hshrinks.trans hdrops.shrinks) fun k b => ?_
  · intro p j
    rw [sessionsOf, hdrops.principalSessions, hdrops.sessions]
    exact hindex p j
  · intro p k
    rw [hbindingsOf, hbindings]
    exact hw.bindingsOf p k
  · rw [hdrops.bindings, hbindings, hbindingsOf]
    refine and_congr_right fun hb => ?_
    simp only [exists_eq_right']
    rw [hw.bindingsOf]
    by_cases hp : b.principal = r.principal
    · refine iff_of_false (fun hn => hn ⟨b, hb, hp⟩) ?_
      rw [hp, HasSession, hdrops.sessions]
      exact hnone
    · refine iff_of_true (fun ⟨c, hc, hcp⟩ => ?_)
        (hasSession_erase h husessions hp (hw.held k b hb))
      cases hb.symm.trans hc
      exact hp hcp

lemma Removes.other {s t : SessionState} (hw : s.WellFormed) (h : s.sessions.lookup i = some r)
    (hmore : (s.sessionsOf r.principal).filter (· ≠ i) ≠ [])
    (hsessions : t.sessions = s.sessions.erase i)
    (hprincipals : t.principalSessions = s.principalSessions.insert r.principal
      ((s.sessionsOf r.principal).filter (· ≠ i)))
    (hbindings : t.bindings = s.bindings) (hbindingsOf : ∀ p, t.bindingsOf p = s.bindingsOf p)
    (hexpiries : t.expiries = s.expiries) (hshrinks : Shrinks s t) : Removes (· = i) s t := by
  refine .of_erase hw hsessions hexpiries ?_ ?_ hshrinks fun k b => ?_
  · refine indexesSessions_erase hw.sessionsOf h hsessions fun p => ?_
    rw [sessionsOf, hprincipals]
    split
    · rename_i hp
      rw [hp, lookup_insert]
      rfl
    · rename_i hp
      rw [lookup_insert_ne hp, sessionsOf]
  · intro p k
    rw [hbindingsOf, hbindings]
    exact hw.bindingsOf p k
  · rw [hbindings]
    refine ⟨fun hb => ⟨hb, ?_⟩, And.left⟩
    by_cases hp : b.principal = r.principal
    · obtain ⟨j, hj⟩ := exists_mem_of_ne_nil _ hmore
      obtain ⟨hj, hne⟩ := List.mem_filter.1 hj
      obtain ⟨r', hr', hrp⟩ := (hw.sessionsOf r.principal j).1 hj
      rw [HasSession, hsessions, hp]
      exact ⟨j, r', lookup_erase_iff.2 ⟨hr', of_decide_eq_true hne⟩, hrp⟩
    · exact hasSession_erase h hsessions hp (hw.held k b hb)

lemma removeSession_some (hw : s.WellFormed)
    (h : s.sessions.lookup i = some r) :
    (removeSession i s).2 = some r ∧ (removeSession i s).1.sessions = s.sessions.erase i ∧
      Removes (· = i) s (removeSession i s).1 := by
  rw [removeSession, h]
  dsimp only
  split
  · rename_i hempty
    have hremoves := Removes.last (t := { s with
        sessions := s.sessions.erase i
        subjectCounts := decrementCount r.principal.subjectUserId s.subjectCounts
        principalSessions := s.principalSessions.erase r.principal })
      hw h (List.isEmpty_iff.1 hempty) rfl rfl rfl (fun _ => rfl) rfl
      (shrinks_erase rfl rfl (fun _ => rfl) rfl rfl rfl)
    have hdrops := DropsBindings.foldl (fun s k => DropsBindings.of_dropBinding k s)
      (s.bindingsOf r.principal) { s with
        sessions := s.sessions.erase i
        subjectCounts := decrementCount r.principal.subjectUserId s.subjectCounts
        principalSessions := s.principalSessions.erase r.principal }
    exact ⟨rfl, hdrops.sessions, hremoves⟩
  · rename_i hmore
    exact ⟨rfl, rfl, Removes.other hw h (fun hnil => hmore (List.isEmpty_iff.2 hnil)) rfl rfl rfl
      (fun _ => rfl) rfl (shrinks_erase rfl rfl (fun _ => rfl) rfl rfl rfl)⟩

lemma removeSession_removes (hw : s.WellFormed) (i : String) :
    Removes (· = i) s (removeSession i s).1 := by
  cases h : s.sessions.lookup i with
  | none =>
    rw [removeSession_none h]
    refine (Removes.refl hw).of_iff fun j r hr => iff_of_false id ?_
    rintro rfl
    exact nomatch h.symm.trans hr
  | some r => exact (removeSession_some hw h).2.2

lemma countAdmin_removeSession (hw : s.WellFormed)
    (h : s.sessions.lookup i = some r) :
    s.countAdmin admin =
      (if r.adminSessionId = admin then 1 else 0) + (removeSession i s).1.countAdmin admin := by
  rw [countAdmin, countAdmin, (removeSession_some hw h).2.1, countWhere_erase _ h]
  simp

lemma isDraining_iff (hw : s.IndexesBindings) :
    s.isDraining r = true ↔ s.cancelled r.authority = true ∧
      ((s.authorities r.authority).isRevokedAndDrained = false ∨
        ∃ k b, s.bindings.lookup k = some b ∧ b.principal = r.principal ∧
          s.cancelled b.authority = true ∧
          (s.authorities b.authority).isRevokedAndDrained = false) := by
  simp only [isDraining, Bool.and_eq_true, Bool.or_eq_true, any_eq_true, mem_filterMap,
    Bool.not_eq_true']
  refine and_congr_right fun _ => or_congr_right ⟨?_, ?_⟩
  · rintro ⟨b, ⟨k, hk, hb⟩, hdraining⟩
    obtain ⟨c, hc, hp⟩ := (hw r.principal k).1 hk
    cases hb.symm.trans hc
    exact ⟨k, b, hb, hp, hdraining⟩
  · rintro ⟨k, b, hb, hp, hdraining⟩
    exact ⟨b, ⟨k, (hw r.principal k).2 ⟨b, hb, hp⟩, hb⟩, hdraining⟩

lemma Removes.isDraining (h : Removes gone s t) (hw : s.WellFormed)
    (hr : t.sessions.lookup i = some r) : t.isDraining r = s.isDraining r := by
  have hsame k b (hb : t.bindings.lookup k = some b) :
      t.authorities b.authority = s.authorities b.authority :=
    h.shrinks.authority_eq hw (x := .binding k) ⟨b, hb, rfl⟩
  have hself : t.authorities r.authority = s.authorities r.authority :=
    h.shrinks.authority_eq hw (x := .session i) ⟨r, hr, rfl⟩
  rw [Bool.eq_iff_iff, isDraining_iff hw.bindingsOf, isDraining_iff h.wellFormed.bindingsOf]
  simp only [cancelled, hself]
  refine and_congr_right fun _ => or_congr_right ⟨?_, ?_⟩
  · rintro ⟨k, b, hb, hp, hdraining⟩
    rw [hsame k b hb] at hdraining
    exact ⟨k, b, h.shrinks.bindings _ _ hb, hp, hdraining⟩
  · rintro ⟨k, b, hb, hp, hdraining⟩
    have hbt : t.bindings.lookup k = some b := (h.bindings k b).2 ⟨hb, i, r, hr, hp.symm⟩
    rw [← hsame k b hbt] at hdraining
    exact ⟨k, b, hbt, hp, hdraining⟩

structure Takes (now : Nat) (heap : List (Nat ×ₗ String)) (s : SessionState) (x : Taken) :
    Prop where
  removes : Removes (fun i => ∃ r, s.sessions.lookup i = some r ∧
    toLex (r.expiresAt, i) ∈ heap ∧ r.expiresAt ≤ now ∧ s.isDraining r = false) s x.state
  kept : ∀ i r, x.state.sessions.lookup i = some r → toLex (r.expiresAt, i) ∈ heap →
    toLex (r.expiresAt, i) ∈ x.heap ∨ toLex (r.expiresAt, i) ∈ x.draining
  sublist : x.heap.Sublist heap
  count : ∀ admin, s.countAdmin admin =
    (x.expired.map SessionRecord.adminSessionId).count admin + x.state.countAdmin admin
  expired : ∀ r ∈ x.expired, ∃ i, s.sessions.lookup i = some r ∧ x.state.sessions.lookup i = none

lemma takes_none (hw : s.WellFormed)
    (h : ∀ i (r : SessionRecord), toLex (r.expiresAt, i) ∈ heap → ¬r.expiresAt ≤ now) :
    Takes now heap s ⟨s, [], [], heap⟩ where
  removes := (Removes.refl hw).of_iff fun i r hr =>
    iff_of_false id fun ⟨r, _, hmem, hdue, _⟩ => h i r hmem hdue
  kept i r _ hmem := .inl hmem
  sublist := .refl _
  count admin := by simp
  expired r h := nomatch h

lemma Takes.skip (h : Takes now rest s x)
    (hne : ∀ r, s.sessions.lookup i = some r → r.expiresAt ≠ expiry) :
    Takes now (toLex (expiry, i) :: rest) s x where
  removes := h.removes.of_iff fun j r hr => by
    refine ⟨fun ⟨r, hr, hmem, hrest⟩ => ⟨r, hr, mem_cons_of_mem _ hmem, hrest⟩, ?_⟩
    rintro ⟨r, hr, hmem, hrest⟩
    refine ⟨r, hr, (List.mem_cons.1 hmem).resolve_left fun heq => ?_, hrest⟩
    cases toLex_inj.1 heq
    exact hne r hr rfl
  kept j r hr hmem := by
    refine h.kept j r hr ((List.mem_cons.1 hmem).resolve_left fun heq => ?_)
    cases toLex_inj.1 heq
    exact hne r (h.removes.shrinks.sessions _ _ hr) rfl
  sublist := h.sublist.cons _
  count := h.count
  expired := h.expired

lemma Takes.defer (h : Takes now rest s x) (hr : s.sessions.lookup i = some r)
    (hexpiry : r.expiresAt = expiry) (hdraining : s.isDraining r = true) :
    Takes now (toLex (expiry, i) :: rest) s
      { x with draining := toLex (expiry, i) :: x.draining } where
  removes := h.removes.of_iff fun j c _ => by
    refine ⟨fun ⟨r, hr, hmem, hrest⟩ => ⟨r, hr, mem_cons_of_mem _ hmem, hrest⟩, ?_⟩
    rintro ⟨c, hc, hmem, hdue, hdrained⟩
    refine ⟨c, hc, (List.mem_cons.1 hmem).resolve_left fun heq => ?_, hdue, hdrained⟩
    cases toLex_inj.1 heq
    cases hr.symm.trans hc
    rw [hdraining] at hdrained
    cases hdrained
  kept j c hc hmem := by
    rcases List.mem_cons.1 hmem with heq | hmem
    · exact .inr (List.mem_cons.2 (.inl heq))
    · exact (h.kept j c hc hmem).imp_right (mem_cons_of_mem _)
  sublist := h.sublist.cons _
  count := h.count
  expired := h.expired

lemma Takes.remove (h : Takes now rest (removeSession i s).1 x)
    (hw : s.WellFormed) (hr : s.sessions.lookup i = some r) (hexpiry : r.expiresAt = expiry)
    (hdue : expiry ≤ now) (hdrained : s.isDraining r = false) :
    Takes now (toLex (expiry, i) :: rest) s { x with expired := [r] ++ x.expired } := by
  obtain ⟨-, hsessions, hremoves⟩ := removeSession_some hw hr
  have hgone : x.state.sessions.lookup i = none := by
    by_contra hne
    obtain ⟨c, hc⟩ := Option.ne_none_iff_exists'.1 hne
    exact ((hremoves.sessions i c).1 (h.removes.shrinks.sessions _ _ hc)).2 rfl
  exact {
    removes := (hremoves.trans h.removes).of_iff fun j c hc => by
      constructor
      · grind [hremoves.isDraining, hremoves.shrinks.sessions]
      · rintro ⟨c, hc', hmem, hrest, hd⟩
        by_cases hj : j = i
        · exact .inl hj
        · have hct := (hremoves.sessions j c).2 ⟨hc', hj⟩
          refine .inr ⟨c, hct, (List.mem_cons.1 hmem).resolve_left fun heq => ?_, hrest, ?_⟩
          · cases toLex_inj.1 heq
            exact hj rfl
          · rw [hremoves.isDraining hw hct]
            exact hd
    kept := fun j c hc hmem => by
      refine h.kept j c hc ((List.mem_cons.1 hmem).resolve_left fun heq => ?_)
      cases toLex_inj.1 heq
      cases hgone.symm.trans hc
    sublist := h.sublist.cons _
    count := fun admin => by
      rw [countAdmin_removeSession hw hr, h.count admin, map_append, count_append,
        ← Nat.add_assoc]
      simp [count_singleton]
    expired := fun c hc => by
      rcases List.mem_append.1 hc with hc | hc
      · cases List.mem_singleton.1 hc
        exact ⟨i, hr, hgone⟩
      · obtain ⟨j, hj, hnone⟩ := h.expired c hc
        exact ⟨j, hremoves.shrinks.sessions _ _ hj, hnone⟩ }

lemma takes_loop (hw : s.WellFormed) (now : Nat) (hsorted : heap.Pairwise (· ≤ ·)) :
    Takes now heap s (takeExpiredLoop now heap s) := by
  induction heap generalizing s with
  | nil =>
    exact {
      removes := (Removes.refl hw).of_iff fun i r _ => by simp
      kept := fun i r _ h => nomatch h
      sublist := .slnil
      count := fun admin => by simp [takeExpiredLoop]
      expired := fun r h => nomatch h }
  | cons e rest ih =>
    obtain ⟨⟨expiry, i⟩, rfl⟩ : ∃ x, e = toLex x := ⟨ofLex e, rfl⟩
    rw [takeExpiredLoop]
    dsimp only [ofLex_toLex]
    split
    · rename_i hlate
      refine takes_none hw fun j r hmem hdue => ?_
      have hle : expiry ≤ r.expiresAt := by
        rcases List.mem_cons.1 hmem with heq | hmem
        · exact (congrArg (fun x => (ofLex x).1) heq).ge
        · exact Prod.Lex.monotone_fst _ _ (rel_of_pairwise_cons hsorted hmem)
      omega
    · rename_i hdue
      split
      · rename_i hnone
        refine (ih hw hsorted.of_cons).skip fun r hr => ?_
        have hne := Option.filter_eq_none_iff.1 hnone r hr
        exact of_decide_eq_false (Bool.eq_false_iff.2 hne)
      · rename_i record hsome
        obtain ⟨hr, hexpiry⟩ := Option.filter_eq_some_iff.1 hsome
        have hexpiry : record.expiresAt = expiry := of_decide_eq_true hexpiry
        split
        · rename_i hdraining
          exact (ih hw hsorted.of_cons).defer hr hexpiry hdraining
        · rename_i hdrained
          obtain ⟨hremoved, -, hremoves⟩ := removeSession_some hw hr
          have htakes := ih hremoves.wellFormed hsorted.of_cons
          rw [hremoved]
          exact htakes.remove hw hr hexpiry (by omega) (Bool.eq_false_iff.2 hdrained)

lemma mem_foldl_orderedInsert {l heap : List (Nat ×ₗ String)} :
    e ∈ l.foldl (fun heap e => heap.orderedInsert (· ≤ ·) e) heap ↔ e ∈ heap ∨ e ∈ l := by
  induction l generalizing heap with
  | nil => simp
  | cons x l ih =>
    rw [foldl_cons, ih, mem_orderedInsert, mem_cons]
    tauto

lemma sorted_foldl_orderedInsert {l heap : List (Nat ×ₗ String)} (h : heap.Pairwise (· ≤ ·)) :
    (l.foldl (fun heap e => heap.orderedInsert (· ≤ ·) e) heap).Pairwise (· ≤ ·) := by
  induction l generalizing heap with
  | nil => exact h
  | cons x l ih => exact ih (h.orderedInsert x heap)

/-- The sessions that are due and not draining are removed, and with them the bindings of the
principals that hold no other. -/
structure Expires (now : Nat) (s t : SessionState) (expired : List SessionRecord) : Prop where
  sessions : ∀ i r, t.sessions.lookup i = some r ↔
    s.sessions.lookup i = some r ∧ (now < r.expiresAt ∨ s.isDraining r = true)
  bindings : ∀ k b, t.bindings.lookup k = some b ↔
    s.bindings.lookup k = some b ∧ t.HasSession b.principal
  wellFormed : t.WellFormed
  shrinks : Shrinks s t
  count : ∀ admin, s.countAdmin admin =
    (expired.map SessionRecord.adminSessionId).count admin + t.countAdmin admin
  expired : ∀ r ∈ expired, ∃ i, s.sessions.lookup i = some r ∧ t.sessions.lookup i = none

lemma takeExpired_expires (hw : s.WellFormed) (now : Nat) :
    Expires now s (s.takeExpired now).1 (s.takeExpired now).2 := by
  have htakes := takes_loop hw now hw.sorted
  have hqueue := htakes.removes.wellFormed
  exact { htakes with
    sessions := fun i r => by
      refine (htakes.removes.sessions i r).trans (and_congr_right fun hr => ?_)
      constructor
      · intro hkept
        by_contra hgone
        rw [not_or, Nat.not_lt, Bool.not_eq_true] at hgone
        exact hkept ⟨r, hr, hw.queued i r hr, hgone.1, hgone.2⟩
      · grind
    bindings := htakes.removes.bindings
    wellFormed := { hqueue with
      queued := fun i r hr => mem_foldl_orderedInsert.2
        (htakes.kept i r hr (hw.queued i r (htakes.removes.shrinks.sessions _ _ hr)))
      sorted := sorted_foldl_orderedInsert (hw.sorted.sublist htakes.sublist)
      bounded := fun x a hx => hqueue.bounded x a (by cases x <;> exact hx)
      unique := fun x y a hx hy =>
        hqueue.unique x y a (by cases x <;> exact hx) (by cases y <;> exact hy) }
    shrinks := {
      sessions := htakes.removes.shrinks.sessions
      bindings := htakes.removes.shrinks.bindings
      bindingsOf := htakes.removes.shrinks.bindingsOf
      suspended := htakes.removes.shrinks.suspended
      nextAuthority := htakes.removes.shrinks.nextAuthority
      active := htakes.removes.shrinks.active
      cancelled := htakes.removes.shrinks.cancelled
      revoked := htakes.removes.shrinks.revoked
      touched := fun a => (htakes.removes.shrinks.touched a).imp_right
        fun ⟨x, hx, hn⟩ => ⟨x, hx, fun ht => hn (by cases x <;> exact ht)⟩ }
    expired := htakes.expired }

lemma Expires.revoke (h : Expires now s t x) {l : List SessionRecord}
    (hl : ∀ r ∈ l, ∃ i, s.sessions.lookup i = some r ∧ t.sessions.lookup i = none) :
    Expires now s (l.foldl (fun s r => s.revokeAuthority r.authority) t) x := by
  induction l generalizing t with
  | nil => exact h
  | cons r l ih =>
    obtain ⟨i, hr, hnone⟩ := hl r mem_cons_self
    refine ih { h with
      wellFormed := h.wellFormed.of_maps rfl
      shrinks := h.shrinks.revokeAuthority (x := .session i) ⟨r, hr, rfl⟩
        fun ⟨c, hc, _⟩ => nomatch hnone.symm.trans hc
      expired := h.expired } fun c hc => hl c (mem_cons_of_mem _ hc)

lemma expireDue_expires (hw : s.WellFormed) (now : Nat) :
    Expires now s (s.expireDue now).1 (s.takeExpired now).2 :=
  have h := takeExpired_expires hw now
  h.revoke h.expired

lemma Expires.no_binding (h : Expires now s t x)
    (hp : ∀ i r, s.sessions.lookup i = some r → r.principal = p →
      r.expiresAt ≤ now ∧ s.isDraining r = false) :
    ∀ k b, t.bindings.lookup k = some b → b.principal ≠ p := by
  rintro k b hb rfl
  obtain ⟨i, r, hr, hrp⟩ := ((h.bindings k b).1 hb).2
  obtain ⟨hr, hkept⟩ := (h.sessions i r).1 hr
  obtain ⟨hdue, hdrained⟩ := hp i r hr hrp
  rcases hkept with hlate | hdraining
  · omega
  · rw [hdraining] at hdrained
    cases hdrained

end SessionState

end Chan.Proxy
