import Chan.Proxy.BindingGap
import Chan.Proxy.RevocationSteps

namespace Chan.Proxy
open AssocMap Transition List Option

variable {w w' : World}

namespace World
open SessionState

/-- A move that takes nothing from under a revocation in progress, and evicts no binding that has
yet to drain. -/
structure Spares (w : World) (m : Nat × Move) : Prop where
  /-- No session that is still to be cancelled expires under the move. -/
  unlapsed : ∀ scope chosen handles chores, w.Revoking scope chosen handles chores →
    ∀ e ∈ chosen, sweeps e.1 m.2 = true → .cancel e.2.authority ∈ chores → m.1 < e.2.expiresAt
  /-- No session is issued that a revocation in progress would select, or under an id it
  selected. -/
  unissued : ∀ p client i admin, m.2 = .issue p client i admin →
    ∀ scope chosen handles chores, w.Revoking scope chosen handles chores →
      scope.matchesPrincipal p = false ∧ scope ≠ .sessionId admin ∧ ∀ e ∈ chosen, e.1 ≠ i
  /-- No extension is bound for a principal that a revocation in progress reaches. -/
  unbound : ∀ p client target k verifier, m.2 = .bind p client target k verifier →
    ∀ scope chosen handles chores, w.Revoking scope chosen handles chores →
      reaches scope chosen p = false
  /-- No binding that is still to be cancelled is resolved. -/
  unresolved : ∀ token, m.2 = .resolve token →
    ∀ scope chosen handles chores, w.Revoking scope chosen handles chores →
      ∀ k verifier b, splitBindingToken token = some (k, verifier) →
        w.state.bindings.lookup k = some b → .cancel b.authority ∉ chores
  /-- A principal at its capacity has no cancelled binding that has yet to drain. -/
  unevicted : ∀ p client target k verifier, m.2 = .bind p client target k verifier →
    w.limits.maxBindingsPerPrincipal ≤ (w.state.bindingsOf p).length →
      ∀ j b, w.state.bindings.lookup j = some b → b.principal = p →
        w.state.cancelled b.authority = true →
          (w.state.authorities b.authority).isRevokedAndDrained = true

def Drained (s : SessionState) (a : Nat) : Prop := (s.authorities a).isRevokedAndDrained = true

/-- What holds of a revocation in progress. -/
structure Tracks (s : SessionState) (scope : Revocation) (chosen : List (String × SessionRecord))
    (handles : List BindingHandle) (chores : List Chore) : Prop extends
    Follows s chosen handles chores where
  sessions : ∀ i r, s.sessions.lookup i = some r → scope.matches r = true → (i, r) ∈ chosen
  bindings : ∀ k b, s.bindings.lookup k = some b → reaches scope chosen b.principal = true →
    ⟨k, b.authority⟩ ∈ handles
  closes : ∀ a ∈ targets chosen handles, .close a ∈ chores ∨ (s.authorities a).revoked = true
  drains : ∀ a ∈ targets chosen handles, .drained a ∈ chores ∨ Drained s a
  keptSession : ∀ e ∈ chosen, s.sessions.lookup e.1 = some e.2 ∨
    (Drained s e.2.authority ∧ ∀ k b, s.bindings.lookup k = some b →
      b.principal = e.2.principal → Drained s b.authority)
  keptBinding : ∀ x ∈ handles, Drained s x.authority ∨ s.Holds (.binding x.selector) x.authority

lemma Tracks.of_selects (hw : s.WellFormed)
    (h : Selects scope chosen handles s) :
    Tracks s scope chosen handles (revocationChores chosen handles) where
  toFollows := .of_selects hw h
  sessions i r hr hmatch := h.mem_chosen.2 ⟨hr, hmatch⟩
  bindings k b hb hreach := h.mem_handles.2 ⟨b, hb, rfl, hreach⟩
  closes a ha := .inl (targets_chores ha).2.1
  drains a ha := .inl (targets_chores ha).2.2
  keptSession e he := .inl (h.mem_chosen.1 he).1
  keptBinding x hx := by
    obtain ⟨b, hb, ha, -⟩ := h.mem_handles.1 hx
    exact .inr ⟨b, hb, ha⟩

lemma Tracks.advance (h : Tracks s scope chosen handles (c :: chores)) (hdone : Done s c) :
    Tracks s scope chosen handles chores where
  toFollows := h.toFollows.advance hdone
  sessions := h.sessions
  bindings := h.bindings
  closes a ha := by
    rcases h.closes a ha with hmem | hc
    · rcases List.mem_cons.1 hmem with rfl | hmem
      · exact .inr hdone
      · exact .inl hmem
    · exact .inr hc
  drains a ha := by
    rcases h.drains a ha with hmem | hd
    · rcases List.mem_cons.1 hmem with rfl | hmem
      · -- Everything was closed before the first drain.
        refine .inr (Authority.isRevokedAndDrained_iff.2 ⟨(h.closes a ha).resolve_left ?_, hdone⟩)
        intro hclose
        rcases List.mem_cons.1 hclose with hclose | hclose
        · cases hclose
        · obtain ⟨b, hb⟩ := drains_last h.order hclose
          cases hb
      · exact .inl hmem
    · exact .inr hd
  keptSession := h.keptSession
  keptBinding := h.keptBinding

def Condemned (w : World) (i : String) (r : SessionRecord) : Prop :=
  w.state.cancelled r.authority = true ∨ ∃ scope chosen handles chores,
    w.Revoking scope chosen handles chores ∧ (i, r) ∈ chosen ∧ .cancel r.authority ∈ chores

/-- The store under revocations. A cancelled binding that has yet to drain is held in place by a
session that cannot expire before it. -/
structure Guarded (w : World) : Prop where
  wellFormed : w.state.WellFormed
  tracks : ∀ scope chosen handles chores, w.Revoking scope chosen handles chores →
    Tracks w.state scope chosen handles chores
  pruned : w.Pruned
  anchored : ∀ k b, w.state.bindings.lookup k = some b → w.state.cancelled b.authority = true →
    Drained w.state b.authority ∨ ∃ i r, w.state.sessions.lookup i = some r ∧
      r.principal = b.principal ∧ Condemned w i r

section Step

variable {w w' : World} (hg : Guarded w) (hs : w.Spares (now, m)) (hd : Does now w m w')
include hg hs hd

lemma session_released (hr : w.Revoking scope chosen handles chores) (he : e ∈ chosen)
    (hin : w.state.sessions.lookup e.1 = some e.2)
    (hgone : w'.state.sessions.lookup e.1 ≠ some e.2) :
    Drained w.state e.2.authority ∧ ∀ k b, w.state.bindings.lookup k = some b →
      b.principal = e.2.principal → Drained w.state b.authority := by
  have ht := hg.tracks _ _ _ _ hr
  have ha : e.2.authority ∈ targets chosen handles := mem_targets.2 (.inl ⟨e, he, rfl⟩)
  rcases hd.session_gone hg.wellFormed hin hgone with ⟨hsweeps, hexpired, hdrained⟩ |
    ⟨scope', chosen', handles', hr', e', he', hid⟩
  · have hpending : .cancel e.2.authority ∉ chores := fun hmem =>
      absurd (hs.unlapsed _ _ _ _ hr e he hsweeps hmem) (Nat.not_lt.2 hexpired)
    have hcancelled := (ht.cancels _ ha).resolve_left hpending
    have hnot := mt (isDraining_iff hg.wellFormed.bindingsOf).2 (ne_true_of_eq_false hdrained)
    rw [not_and_or, not_or] at hnot
    obtain ⟨hself, hnone⟩ := hnot.resolve_left fun h => h hcancelled
    refine ⟨Bool.eq_true_of_not_eq_false hself, fun k b hb hp => ?_⟩
    have hhandle := ht.bindings k b hb (reaches_of_mem he hp.symm)
    have hb' : b.authority ∈ targets chosen handles := mem_targets.2 (.inr ⟨_, hhandle, rfl⟩)
    have hbcancelled := (ht.cancels _ hb').resolve_left fun hmem =>
      hpending (sessions_cancelled_later ht.order ht.disjoint hhandle hmem he)
    by_contra hundrained
    exact hnone ⟨k, b, hb, hp, hbcancelled, Bool.eq_false_iff.2 hundrained⟩
  · have ht' := hg.tracks _ _ _ _ hr'
    have hsame := ht'.same e' he' e.2 (by rw [hid]; exact hin)
    have hall a (ha : a ∈ targets chosen' handles') : Drained w.state a :=
      (ht'.drains a ha).resolve_left (not_mem_nil)
    refine ⟨hall _ (mem_targets.2 (.inl ⟨e', he', by rw [hsame]⟩)), fun k b hb hp => ?_⟩
    have hhandle := ht'.bindings k b hb (reaches_of_mem he' (by rw [← hsame, hp]))
    exact hall _ (mem_targets.2 (.inr ⟨_, hhandle, rfl⟩))

lemma binding_released (hr : w.Revoking scope chosen handles chores) (hx : x ∈ handles)
    (hin : w.state.Holds (.binding x.selector) x.authority)
    (hgone : ¬w'.state.Holds (.binding x.selector) x.authority) : Drained w.state x.authority := by
  have ht := hg.tracks _ _ _ _ hr
  obtain ⟨b, hb, ha⟩ := hin
  obtain ⟨e, he, hp⟩ := ht.companion x hx b hb ha
  rw [← ha] at hgone ⊢
  rcases hd.binding_gone hg.wellFormed hb hgone with hdeserted | ⟨client, target, j,
    verifier, rfl, -⟩ |
    ⟨token, verifier, rfl, hsplit, huncancelled⟩ | ⟨scope', chosen', handles', hr', hhandle⟩
  · rcases ht.keptSession e he with hin | ⟨-, hdrained⟩
    · exact (session_released hg hs hd hr he hin (hdeserted _ _ hin hp)).2 _ b hb hp.symm
    · exact hdrained _ b hb hp.symm
  · exact absurd (reaches_of_mem he hp) (ne_true_of_eq_false (hs.unbound _ _ _ _ _ rfl _ _ _ _ hr))
  · have hcancel := (ht.cancels _ (mem_targets.2 (.inr ⟨x, hx, rfl⟩))).resolve_right (by
      rw [← ha, huncancelled]
      exact Bool.false_ne_true)
    rw [← ha] at hcancel
    exact absurd hcancel (hs.unresolved _ rfl _ _ _ _ hr _ _ _ hsplit hb)
  · exact ((hg.tracks _ _ _ _ hr').drains _ (mem_targets.2 (.inr ⟨_, hhandle, rfl⟩))).resolve_left
      not_mem_nil

omit hs in
lemma drained_step (ha : a < w.state.nextAuthority) (h : Drained w.state a) :
    Drained w'.state a :=
  ((hd.stores hg.wellFormed).tightens ha).drained h

lemma tracks_step (hr : w.Revoking scope chosen handles chores) :
    Tracks w'.state scope chosen handles chores := by
  have ht := hg.tracks _ _ _ _ hr
  have hstores := hd.stores hg.wellFormed
  have hdrained {a : Nat} (ha : a < w.state.nextAuthority) := drained_step hg hd (a := a) ha
  have hbounded {k b} (hb : w.state.bindings.lookup k = some b) :
      b.authority < w.state.nextAuthority := hg.wellFormed.bounded (.binding k) _ ⟨b, hb, rfl⟩
  -- No binding of a principal the revocation reaches is new.
  have hold {k b} (hb : w'.state.bindings.lookup k = some b)
      (hreach : reaches scope chosen b.principal = true) : ∃ c, w.state.bindings.lookup k = some c ∧
        c.principal = b.principal ∧ c.authority = b.authority := by
    rcases hd.bindings hg.wellFormed hb with ⟨c, hc, hp, -, ha⟩ | ⟨_, _, rfl, -, -⟩
    · exact ⟨c, hc, hp, ha⟩
    · exact absurd hreach (ne_true_of_eq_false (hs.unbound _ _ _ _ _ rfl _ _ _ _ hr))
  have hall {e} (he : e ∈ chosen) (hself : Drained w.state e.2.authority)
      (hbindings : ∀ k b, w.state.bindings.lookup k = some b → b.principal = e.2.principal →
      Drained w.state b.authority) :
      Drained w'.state e.2.authority ∧ ∀ k b, w'.state.bindings.lookup k = some b →
        b.principal = e.2.principal → Drained w'.state b.authority := by
    refine ⟨hdrained (ht.known _ (mem_targets.2 (.inl ⟨e, he, rfl⟩))) hself, fun k b hb hp => ?_⟩
    obtain ⟨c, hc, hcp, ha⟩ := hold hb (reaches_of_mem he hp.symm)
    rw [← ha]
    exact hdrained (hbounded hc) (hbindings k c hc (hcp.trans hp))
  exact {
    toFollows := ht.toFollows.step hg.wellFormed hd fun _ _ _ _ h e he =>
      (hs.unissued _ _ _ _ h _ _ _ _ hr).2.2 e he
    sessions := fun i r hin hmatch => by
      rcases hd.sessions hg.wellFormed hin with hin | ⟨client, rfl, -⟩
      · exact ht.sessions i r hin hmatch
      · obtain ⟨hnot, hne, -⟩ := hs.unissued _ _ _ _ rfl _ _ _ _ hr
        cases scope with
        | sessionId id => exact absurd (congrArg _ (of_decide_eq_true hmatch).symm) hne
        | exact | subject | owner | all => exact absurd hmatch (ne_true_of_eq_false hnot)
    bindings := fun k b hb hreach => by
      obtain ⟨c, hc, hp, ha⟩ := hold hb hreach
      rw [← ha]
      exact ht.bindings k c hc (by rw [hp, hreach])
    closes := fun a ha => (ht.closes a ha).imp_right (hstores.tightens (ht.known a ha)).revoked
    drains := fun a ha => (ht.drains a ha).imp_right (hdrained (ht.known a ha))
    keptSession := fun e he => by
      by_cases hkept : w'.state.sessions.lookup e.1 = some e.2
      · exact .inl hkept
      · grind [ht.keptSession, session_released]
    keptBinding := fun x hx => by
      have hknown := ht.known _ (mem_targets.2 (.inr ⟨x, hx, rfl⟩))
      by_cases hkept : w'.state.Holds (.binding x.selector) x.authority
      · exact .inr hkept
      · rcases ht.keptBinding x hx with hself | hin
        · exact .inl (hdrained hknown hself)
        · exact .inl (hdrained hknown (binding_released hg hs hd hr hx hin hkept)) }

omit hs in
lemma condemned_step (hc : Condemned w i r) (ha : r.authority < w.state.nextAuthority) :
    Condemned w' i r := by
  rcases hc with hcancelled | ⟨scope, chosen, handles, chores, hr, hmem, hcancel⟩
  · exact .inl (((hd.stores hg.wellFormed).tightens ha).cancelled hcancelled)
  · rcases hd.goes_on hr with hr' | ⟨c, rest, rfl, hr', hdone⟩ | ⟨rfl, -⟩ | ⟨a, rest, _, rfl, -⟩
    · exact .inr ⟨_, _, _, _, hr', hmem, hcancel⟩
    · rcases List.mem_cons.1 hcancel with rfl | hcancel
      · exact .inl hdone
      · exact .inr ⟨_, _, _, _, hr', hmem, hcancel⟩
    · cases hcancel
    · rcases List.mem_cons.1 hcancel with hcancel | hcancel
      · cases hcancel
      · obtain ⟨b, hb⟩ := drains_last (hg.tracks _ _ _ _ hr).order hcancel
        cases hb

lemma anchor_kept (hin : w.state.sessions.lookup i = some r) (hc : Condemned w i r)
    (hb : w.state.bindings.lookup k = some b) (hp : r.principal = b.principal)
    (hcancelled : w.state.cancelled b.authority = true)
    (hundrained : ¬Drained w.state b.authority) :
    w'.state.sessions.lookup i = some r := by
  by_contra hgone
  rcases hd.session_gone hg.wellFormed hin hgone with ⟨hsweeps, hexpired, hdrained⟩ |
    ⟨scope, chosen, handles, hr, e, he, rfl⟩
  · rcases hc with hself | ⟨scope, chosen, handles, chores, hr, hmem, hcancel⟩
    · refine absurd hdrained (ne_false_of_eq_true ((isDraining_iff hg.wellFormed.bindingsOf).2 ?_))
      exact ⟨hself, .inr ⟨k, b, hb, hp.symm, hcancelled, Bool.eq_false_iff.2 hundrained⟩⟩
    · exact absurd (hs.unlapsed _ _ _ _ hr _ hmem hsweeps hcancel) (Nat.not_lt.2 hexpired)
  · have ht := hg.tracks _ _ _ _ hr
    have hsame := ht.same e he r hin
    have hhandle := ht.bindings k b hb (reaches_of_mem he (by rw [← hsame, hp]))
    exact hundrained ((ht.drains _ (mem_targets.2 (.inr ⟨_, hhandle, rfl⟩))).resolve_left
      not_mem_nil)

lemma anchored_step (hb : w'.state.bindings.lookup k = some b)
    (hc : w'.state.cancelled b.authority = true) :
    Drained w'.state b.authority ∨ ∃ i r, w'.state.sessions.lookup i = some r ∧
      r.principal = b.principal ∧ Condemned w' i r := by
  rcases hd.bindings hg.wellFormed hb with ⟨c, hcb, hp, -, ha⟩ | ⟨_, _, -, -, -, hnew⟩
  · have hholds : w.state.Holds (.binding k) b.authority := ⟨c, hcb, ha⟩
    have hbounded := hg.wellFormed.bounded _ _ hholds
    by_cases hundrained : Drained w.state b.authority
    · exact .inl (drained_step hg hd hbounded hundrained)
    refine .inr ?_
    have hsession {i r} (hr : w.state.sessions.lookup i = some r) :
        r.authority < w.state.nextAuthority := bounded_session hg.wellFormed hr
    rw [← ha] at hundrained
    by_cases hcw : w.state.cancelled b.authority = true
    · rw [← ha] at hcw
      rcases hg.anchored k c hcb hcw with hdrained | ⟨i, r, hin, hrp, hcond⟩
      · exact absurd hdrained hundrained
      · exact ⟨i, r, anchor_kept hg hs hd hin hcond hcb hrp hcw hundrained, hrp.trans hp,
          condemned_step hg hd hcond (hsession hin)⟩
    · -- The binding is cancelled by this move. The sessions its revocation selected come after it.
      obtain ⟨call, d, rest, hcall, hchores, hcalls, hstate⟩ := hd.cancels hg.wellFormed
        (x := .binding k) ⟨b, hb, rfl⟩ hbounded (Bool.eq_false_iff.2 hcw) hc
      cases d with
      | prune chores =>
        refine absurd hholds ((hg.pruned call chores b.authority hcall ?_).2 _)
        rw [show chores = _ from hchores]
        exact mem_cons_self
      | revocation scope chosen handles chores =>
        cases hchores
        have hr : w.Revoking scope chosen handles (.cancel b.authority :: rest) := ⟨call, hcall⟩
        have ht := hg.tracks _ _ _ _ hr
        have hunique {x} (hx : w.state.Holds x b.authority) : x = .binding k :=
          hg.wellFormed.unique _ _ _ hx hholds
        rcases mem_targets.1 (cancel_mem_targets ht.order mem_cons_self) with
          ⟨e, he, hea⟩ | ⟨x, hx, hxa⟩
        · rcases ht.keptSession e he with hin | ⟨hself, -⟩
          · cases hunique (x := .session e.1) ⟨e.2, hin, hea⟩
          · rw [hea, ← ha] at hself
            exact absurd hself hundrained
        · have hkept := ht.keptBinding x hx
          rw [hxa] at hkept
          have hkept := hkept.resolve_left (by rw [← ha]; exact hundrained)
          cases hunique hkept
          obtain ⟨e, he, hep⟩ := ht.companion x hx c hcb (ha.trans hxa.symm)
          rcases ht.keptSession e he with hin | ⟨-, hdrained⟩
          · refine ⟨e.1, e.2, ?_, hep.trans hp, .inr ⟨scope, chosen, handles, rest, ?_, he, ?_⟩⟩
            · rw [hstate]
              exact hin
            · refine ⟨call, ?_⟩
              rw [hcalls]
              exact AList.lookup_insert _
            · have hlater := sessions_cancelled_later ht.order ht.disjoint hx
                (by rw [hxa]; exact mem_cons_self) he
              rcases List.mem_cons.1 hlater with heq | hlater
              · exact absurd ((Chore.cancel.inj heq).trans hxa.symm) (ht.disjoint e he x hx)
              · exact hlater
          · exact absurd (hdrained _ c hcb hep.symm) hundrained
  · rw [SessionState.cancelled, hnew] at hc
    cases hc

lemma guarded_step : Guarded w' where
  wellFormed := hd.wellFormed hg.wellFormed
  tracks scope chosen handles chores hr := by
    rcases hd.revoking hr with hr | ⟨hselects, rfl, x, hstate⟩ | ⟨c, hr, hdone⟩
    · exact tracks_step hg hs hd hr
    · rw [hstate]
      exact .of_selects (hg.wellFormed.of_maps rfl) hselects
    · exact (tracks_step hg hs hd hr).advance hdone
  pruned := hd.prunes hg.wellFormed hg.pruned
  anchored k b hb hc := anchored_step hg hs hd hb hc

lemma tombstone_kept (hin : w.state.Holds x a) (hc : w.state.cancelled a = true)
    (hundrained : ¬Drained w.state a) : w'.state.Holds x a := by
  by_contra hgone
  cases x with
  | session i =>
    obtain ⟨r, hr, rfl⟩ := hin
    rcases hd.session_gone hg.wellFormed hr (fun hkept => hgone ⟨r, hkept, rfl⟩) with
      ⟨-, -, hdrained⟩ | ⟨scope, chosen, handles, hrevoking, e, he, rfl⟩
    · refine absurd hdrained (ne_false_of_eq_true ((isDraining_iff hg.wellFormed.bindingsOf).2 ?_))
      exact ⟨hc, .inl (Bool.eq_false_iff.2 hundrained)⟩
    · have ht := hg.tracks _ _ _ _ hrevoking
      cases ht.same e he r hr
      exact hundrained ((ht.drains _ (mem_targets.2 (.inl ⟨e, he, rfl⟩))).resolve_left
        not_mem_nil)
  | binding k =>
    obtain ⟨b, hb, rfl⟩ := hin
    rcases hd.binding_gone hg.wellFormed hb hgone with hdeserted |
      ⟨client, target, j, verifier, rfl, hfull⟩ | ⟨token, verifier, -, -, huncancelled⟩ |
      ⟨scope, chosen, handles, hrevoking, hhandle⟩
    · rcases hg.anchored k b hb hc with hdrained | ⟨i, r, hr, hp, hcond⟩
      · exact hundrained hdrained
      · exact hdeserted i r hr hp (anchor_kept hg hs hd hr hcond hb hp hc hundrained)
    · exact hundrained (hs.unevicted _ _ _ _ _ rfl hfull k b hb rfl hc)
    · exact nomatch huncancelled.symm.trans hc
    · exact hundrained (((hg.tracks _ _ _ _ hrevoking).drains _
        (mem_targets.2 (.inr ⟨_, hhandle, rfl⟩))).resolve_left not_mem_nil)

end Step

lemma guarded_new : Guarded (new l) where
  wellFormed := wellFormed_new l
  tracks _ _ _ _ h := by
    obtain ⟨_, h⟩ := h
    cases h
  pruned _ _ _ h := by cases h
  anchored _ _ h := by cases h

lemma guarded_run (hg : Guarded w) (halong : Along step Spares w l)
    (he : exec step w l = some w') : Guarded w' := by
  refine Along.invariant (I := Guarded) (fun x m y hg hs h => ?_) halong hg he
  obtain ⟨-, z, hz, rfl⟩ := step_eq_some h
  have hg' := guarded_step hg hs (act_does hz)
  exact ⟨hg'.wellFormed, hg'.tracks, hg'.pruned, hg'.anchored⟩

def Descends (s t : SessionState) : Prop :=
  s.nextAuthority ≤ t.nextAuthority ∧
  (∀ i r, t.sessions.lookup i = some r → r.authority < s.nextAuthority →
    s.sessions.lookup i = some r) ∧
  ∀ k b, t.bindings.lookup k = some b → b.authority < s.nextAuthority →
    ∃ c, s.bindings.lookup k = some c ∧ c.principal = b.principal ∧ c.authority = b.authority

lemma Descends.holds (h : Descends s t) (hx : t.Holds x a) (ha : a < s.nextAuthority) :
    s.Holds x a := by
  cases x with
  | session i =>
    obtain ⟨r, hr, rfl⟩ := hx
    exact ⟨r, h.2.1 i r hr ha, rfl⟩
  | binding k =>
    obtain ⟨b, hb, rfl⟩ := hx
    obtain ⟨c, hc, -, heq⟩ := h.2.2 k b hb ha
    exact ⟨c, hc, heq⟩

lemma descends_run (hw : w.state.WellFormed)
    (he : exec step w l = some w') :
    Descends w.state w'.state := by
  refine exec_relation (I := fun w => w.state.WellFormed)
    (R := fun x y => Descends x.state y.state) ?_ ?_
    (fun _ _ _ hw h => step_wellFormed hw h) ?_ hw he
  · exact fun s => ⟨le_refl _, fun _ _ h _ => h, fun k b h _ => ⟨b, h, rfl, rfl⟩⟩
  · rintro x y z ⟨hxy, hs, hb⟩ ⟨hyz, hs', hb'⟩
    refine ⟨hxy.trans hyz, fun i r hr ha => hs i r (hs' i r hr (ha.trans_le hxy)) ha,
      fun k b h ha => ?_⟩
    obtain ⟨c, hc, hp, heq⟩ := hb' k b h (ha.trans_le hxy)
    obtain ⟨d, hd, hp', heq'⟩ := hb k c hc (heq ▸ ha)
    exact ⟨d, hd, hp'.trans hp, heq'.trans heq⟩
  · intro x m y hw h
    obtain ⟨-, z, hz, rfl⟩ := step_eq_some h
    have hstores := (act_does hz).stores hw
    refine ⟨hstores.nextAuthority, fun i r hr ha => hstores.sessions hr ha, fun k b hb ha => ?_⟩
    obtain ⟨c, hc, hp, -, heq⟩ := hstores.bindings hb ha
    exact ⟨c, hc, hp, heq⟩

/-- Whether a revocation that selected the sessions reaches what holds the authority: a session that
it matches, or a binding of a principal that it reaches. -/
def Reached (scope : Revocation) (chosen : List (String × SessionRecord)) (s : SessionState) :
    Holder → Nat → Prop
  | .session i, a => ∃ r, s.sessions.lookup i = some r ∧ r.authority = a ∧ scope.matches r = true
  | .binding k, a => ∃ b, s.bindings.lookup k = some b ∧ b.authority = a ∧
      reaches scope chosen b.principal = true

/-- What a revocation cancelled is drained, or it is in the store still. -/
def Kept (x : Holder) (a : Nat) (s : SessionState) : Prop :=
  Drained s a ∨ (s.Holds x a ∧ s.cancelled a = true)

lemma kept_step (hg : Guarded w) (hs : w.Spares (now, m)) (hd : Does now w m w')
    (ha : a < w.state.nextAuthority) (h : Kept x a w.state) : Kept x a w'.state := by
  by_cases hdrained : Drained w.state a
  · exact .inl (drained_step hg hd ha hdrained)
  · obtain ⟨hin, hc⟩ := h.resolve_left hdrained
    exact .inr ⟨tombstone_kept hg hs hd hin hc hdrained,
      ((hd.stores hg.wellFormed).tightens ha).cancelled hc⟩

lemma kept_run (hg : Guarded w) (ha : a < w.state.nextAuthority)
    (h : Kept x a w.state) (halong : Along step Spares w ms) (he : exec step w ms = some w') :
    Kept x a w'.state := by
  refine (Along.invariant (I := fun w => Guarded w ∧ a < w.state.nextAuthority ∧ Kept x a w.state)
    ?_ halong ⟨hg, ha, h⟩ he).2.2
  rintro u m v ⟨hg, ha, h⟩ hs hstep
  refine ⟨guarded_run (l := [m]) hg ⟨hs, fun _ _ => trivial⟩
    (exec_cons_eq_some.2 ⟨v, hstep, rfl⟩), ?_⟩
  obtain ⟨-, z, hz, rfl⟩ := step_eq_some hstep
  have hkept : Kept x a z.state := kept_step hg hs (act_does hz) ha h
  exact ⟨ha.trans_le ((act_does hz).stores hg.wellFormed).nextAuthority, hkept⟩

lemma kept_cancelled {v u : World} (hg : Guarded u)
    (hv : v.state.WellFormed) (hvu : Descends v.state u.state) (hin : v.state.Holds x a)
    (hcall : u.calls.lookup call = some (.revocation scope chosen handles (.cancel a :: rest)))
    (hd : Does now u (.chore call) y) : Kept x a y.state := by
  have ht := hg.tracks _ _ _ _ ⟨call, hcall⟩
  have ha := hv.bounded x a hin
  by_cases hdrained : Drained u.state a
  · exact .inl (drained_step hg hd (ha.trans_le hvu.1) hdrained)
  have hheld : ∃ z, u.state.Holds z a := by
    rcases mem_targets.1 (cancel_mem_targets ht.order mem_cons_self) with
      ⟨e, he, rfl⟩ | ⟨z, hz, rfl⟩
    · exact ⟨.session e.1, e.2, (ht.keptSession e he).resolve_right fun h => hdrained h.1, rfl⟩
    · exact ⟨.binding z.selector, (ht.keptBinding z hz).resolve_left hdrained⟩
  obtain ⟨z, hz⟩ := hheld
  cases hv.unique z x a (hvu.holds hz ha) hin
  cases hd with
  | cancelled hcall' hchores =>
    cases hcall.symm.trans hcall'
    cases hchores
    refine .inr ⟨?_, cancelled_cancel⟩
    cases x <;> exact hz
  | closed hcall' hchores | drained hcall' hchores | announced hcall' hchores =>
    cases hcall.symm.trans hcall'
    cases hchores

/-- Once a revocation cancelled a session or a binding, it stays in the store until it has drained,
and no revocation that reaches it returns before. -/
theorem acknowledgement_truthful (l : SessionLimits) (as bs cs : List (Nat × Move)) (now call : Nat)
    (v u w : World)
    (halong : Along step Spares (new l) (as ++ (bs ++ (now, .chore call) :: cs)))
    (hv : exec step (new l) as = some v) (hu : exec step v bs = some u)
    (hw : exec step u ((now, .chore call) :: cs) = some w)
    (x : Holder) (a : Nat) (hin : v.state.Holds x a)
    (scope : Revocation) (chosen : List (String × SessionRecord)) (handles : List BindingHandle)
    (rest : List Chore)
    (hcall : u.calls.lookup call = some (.revocation scope chosen handles (.cancel a :: rest))) :
    ((w.state.authorities a).isRevokedAndDrained = true ∨ w.state.Holds x a) ∧
    ∀ call' scope' chosen' handles' chores' time w',
      w.calls.lookup call' = some (.revocation scope' chosen' handles' chores') →
      w.step (time, .complete call') = some w' → Reached scope' chosen' v.state x a →
      (w'.state.authorities a).active = [] := by
  have hgv := guarded_run guarded_new halong.append_left hv
  have hbs := halong.append_right hv
  have hgu := guarded_run hgv hbs.append_left hu
  have hcs := hbs.append_right hu
  obtain ⟨z, hz, hzw⟩ := exec_cons_eq_some.1 hw
  have hgz := guarded_run (l := [(now, .chore call)]) hgu ⟨hcs.1, fun _ _ => trivial⟩
    (exec_cons_eq_some.2 ⟨z, hz, rfl⟩)
  have hvu := descends_run hgv.wellFormed hu
  have hvw : Descends v.state w.state := descends_run hgv.wellFormed
    (exec_append_eq_some.2 ⟨u, hu, hw⟩)
  have ha := hgv.wellFormed.bounded x a hin
  have hgw := guarded_run hgz (hcs.2 z hz) hzw
  have hkept : Kept x a w.state := by
    refine kept_run hgz ?_ ?_ (hcs.2 z hz) hzw
    · have huz := descends_run (l := [(now, .chore call)]) hgu.wellFormed
        (exec_cons_eq_some.2 ⟨z, hz, rfl⟩)
      exact ha.trans_le (hvu.1.trans huz.1)
    · obtain ⟨-, y, hy, rfl⟩ := step_eq_some hz
      exact kept_cancelled (y := y) hgu hgv.wellFormed hvu hin hcall (act_does hy)
  refine ⟨hkept.imp_right And.left, fun call' scope' chosen' handles' chores' time w' hcall' hstep
    hreached => ?_⟩
  obtain ⟨-, y, hy, rfl⟩ := step_eq_some hstep
  have hd := act_does hy
  suffices hdrained : Drained w.state a from
    (Authority.isRevokedAndDrained_iff.1 (drained_step hgw hd (ha.trans_le hvw.1) hdrained)).2
  -- The revocation is at its end: what it selected has drained.
  have hchores : chores' = [] := by
    cases hd with
    | prunedAll h => cases hcall'.symm.trans h
    | completed h =>
      cases hcall'.symm.trans h
      rfl
  subst hchores
  have ht := hgw.tracks _ _ _ _ ⟨call', hcall'⟩
  rcases hkept with hdrained | ⟨hheld, -⟩
  · exact hdrained
  · refine (ht.drains a (mem_targets.2 ?_)).resolve_left not_mem_nil
    cases x with
    | session i =>
      obtain ⟨r, hr, rfl⟩ := hheld
      obtain ⟨r', hr', -, hmatch⟩ := hreached
      cases hr'.symm.trans (hvw.2.1 i r hr ha)
      exact .inl ⟨_, ht.sessions i r hr hmatch, rfl⟩
    | binding k =>
      obtain ⟨b, hb, rfl⟩ := hheld
      obtain ⟨c, hc, -, hreach⟩ := hreached
      obtain ⟨d, hd, hp, -⟩ := hvw.2.2 k b hb ha
      cases hc.symm.trans hd
      rw [hp] at hreach
      exact .inr ⟨_, ht.bindings k b hb hreach, rfl⟩

lemma spares_of_quiet (hsweeps : ∀ i, sweeps i m.2 = false)
    (hresolve : ∀ token, m.2 ≠ .resolve token) : w.Spares m where
  unlapsed _ _ _ _ _ e _ h := nomatch (hsweeps e.1).symm.trans h
  unissued p client i admin h := by
    have hsweep := hsweeps i
    rw [h] at hsweep
    cases hsweep
  unbound p client target k verifier h := by
    have hsweep := hsweeps k
    rw [h] at hsweep
    cases hsweep
  unresolved token h := absurd h (hresolve token)
  unevicted p client target k verifier h := by
    have hsweep := hsweeps k
    rw [h] at hsweep
    cases hsweep

lemma spares_of_idle (hcalls : w.calls = ∅)
    (hroom : ∀ p, (w.state.bindingsOf p).length < w.limits.maxBindingsPerPrincipal) :
    w.Spares m := by
  exact ⟨fun _ _ _ _ h => absurd h (not_revoking hcalls),
    fun _ _ _ _ _ _ _ _ _ h => absurd h (not_revoking hcalls),
    fun _ _ _ _ _ _ _ _ _ _ h => absurd h (not_revoking hcalls),
    fun _ _ _ _ _ _ h => absurd h (not_revoking hcalls),
    fun p _ _ _ _ _ h => absurd h (Nat.not_le.2 (hroom p))⟩

def samplePair : List (String × SessionRecord) := [(sampleId '0', sampleRecord 7 0 0)]

def sampleScope : Revocation := .exact 1 2 "box"

theorem acknowledgement_truthful_drained : ∃ v u w, exec step (new sampleLimits)
        [(0, .issue samplePrincipal .browser (sampleId '0') 7)] = some v ∧
      exec step v [(0, .begin 0), (0, .revoke 0 sampleScope samplePair [])] = some u ∧
      exec step u [(0, .chore 0), (0, .chore 0), (0, .finish 0 0), (0, .chore 0)] = some w ∧
      ((w.state.authorities 0).isRevokedAndDrained = true ∨
        w.state.Holds (.session (sampleId '0')) 0) ∧
      ∀ call' scope' chosen' handles' chores' time w',
        w.calls.lookup call' = some (.revocation scope' chosen' handles' chores') →
        w.step (time, .complete call') = some w' →
        Reached scope' chosen' v.state (.session (sampleId '0')) 0 →
        (w'.state.authorities 0).active = [] := by
  have hrun : (exec step (new sampleLimits)
      [(0, .issue samplePrincipal .browser (sampleId '0') 7)]).any (fun v =>
        decide (v.state.sessions.lookup (sampleId '0') = some (sampleRecord 7 0 0)) &&
        (exec step v [(0, .begin 0), (0, .revoke 0 sampleScope samplePair [])]).any fun u =>
          decide (u.calls.lookup 0 = some (.revocation sampleScope samplePair []
            [.cancel 0, .close 0, .drained 0])) &&
          (exec step u [(0, .chore 0), (0, .chore 0), (0, .finish 0 0), (0, .chore 0)]).isSome) =
      true := by decide +kernel
  obtain ⟨v, hv, hends⟩ := (any_eq_true _ _).1 hrun
  rw [Bool.and_eq_true, decide_eq_true_iff] at hends
  obtain ⟨u, hu, hends'⟩ := (any_eq_true _ _).1 hends.2
  rw [Bool.and_eq_true, decide_eq_true_iff] at hends'
  obtain ⟨w, hw⟩ := Option.isSome_iff_exists.1 hends'.2
  refine ⟨v, u, w, hv, hu, hw, acknowledgement_truthful sampleLimits _ _ _ 0 0 v u w ?_ hv hu hw _ 0
    ⟨_, hends.1, rfl⟩ sampleScope samplePair [] [.close 0, .drained 0] hends'.1⟩
  refine ⟨spares_of_idle rfl fun p => Nat.zero_lt_succ 7, fun t _ => ?_⟩
  refine (Along.of_forall (P := fun m => (∀ i, sweeps i m.2 = false) ∧
    ∀ token, m.2 ≠ .resolve token) ?_ t).mono fun _ _ h => spares_of_quiet h.1 h.2
  simp [sweeps]

/-- A revocation times out on a binding. The least recently used one makes room for another, and the
revocation that comes next returns with an operation still registered. -/
theorem eviction_drops_tombstone :
    ∃ l as bs cs v u w w' k scope chosen handles, exec step (new l) as = some v ∧
      exec step v bs = some u ∧ exec step u cs = some w ∧ v.state.Holds (.binding k) 1 ∧
      u.state.cancelled 1 = true ∧
      w.calls.lookup 1 = some (.revocation scope chosen handles []) ∧
      w.step (1, .complete 1) = some w' ∧ Reached scope chosen v.state (.binding k) 1 ∧
      (w'.state.authorities 1).active ≠ [] := by
  let l : SessionLimits := ⟨8, 8, 8, 8, 1, 10⟩
  let as : List (Nat × Move) := [(0, .issue samplePrincipal .browser (sampleId '0') 7),
    (0, sampleBind)]
  let bs : List (Nat × Move) := [(0, .begin 1),
    (0, .revoke 0 sampleScope samplePair [⟨sampleSelector 'a', 1⟩]),
    (0, .chore 0), (0, .chore 0), (0, .chore 0), (0, .chore 0), (0, .chore 0), (0, .timeout 0)]
  let chosen := samplePair ++ [(sampleId '1', sampleRecord 8 1 2)]
  let handles : List BindingHandle := [⟨sampleSelector 'c', 3⟩]
  let cs : List (Nat × Move) := [(1, .issue samplePrincipal .browser (sampleId '1') 8),
    (1, .bind samplePrincipal .browser sampleTarget (sampleSelector 'c') (sampleId 'b')),
    (1, .revoke 1 sampleScope chosen handles)] ++ List.replicate 9 (1, .chore 1)
  let b : ExtensionBinding :=
    ⟨sampleId 'b', samplePrincipal, .browser, sampleTarget, 0, 1⟩
  have hrun : (exec step (new l) as).any (fun v =>
      decide (v.state.bindings.lookup (sampleSelector 'a') = some b) &&
      (exec step v bs).any fun u => u.state.cancelled 1 && (exec step u cs).any fun w =>
        decide (w.calls.lookup 1 = some (.revocation sampleScope chosen handles [])) &&
        (w.step (1, .complete 1)).any fun w' => decide ((w'.state.authorities 1).active ≠ [])) =
      true := by decide +kernel
  obtain ⟨v, hv, hends⟩ := (any_eq_true _ _).1 hrun
  rw [Bool.and_eq_true, decide_eq_true_iff] at hends
  obtain ⟨u, hu, hends'⟩ := (any_eq_true _ _).1 hends.2
  rw [Bool.and_eq_true] at hends'
  obtain ⟨w, hw, hlast⟩ := (any_eq_true _ _).1 hends'.2
  rw [Bool.and_eq_true, decide_eq_true_iff] at hlast
  obtain ⟨w', hw', hactive⟩ := (any_eq_true _ _).1 hlast.2
  exact ⟨l, as, bs, cs, v, u, w, w', sampleSelector 'a', sampleScope, chosen, handles, hv, hu, hw,
    ⟨b, hends.1, rfl⟩, hends'.1, hlast.1, hw', ⟨b, hends.1, rfl, by decide⟩,
    of_decide_eq_true hactive⟩

/-- In any run a cancelled authority stays cancelled, one that has drained stays drained, and what
has left the store does not come back. -/
theorem authority_never_returns (hv : exec step (new l) as = some v) (hw : exec step v bs = some w)
    (ha : a < v.state.nextAuthority) :
    (v.state.authorities a).Tightens (w.state.authorities a) ∧
      ∀ x, w.state.Holds x a → v.state.Holds x a := by
  have hwell : v.state.WellFormed := exec_invariant (I := fun w => w.state.WellFormed)
    (fun _ _ _ h hs => step_wellFormed h hs) (wellFormed_new l) hv
  refine ⟨?_, fun x hx => (descends_run hwell hw).holds hx ha⟩
  refine (exec_invariant (I := fun w => w.state.WellFormed ∧ a < w.state.nextAuthority ∧
    (v.state.authorities a).Tightens (w.state.authorities a)) ?_ ⟨hwell, ha, .refl _⟩ hw).2.2
  rintro x m y ⟨hx, ha, h⟩ hs
  have hy := step_wellFormed hx hs
  obtain ⟨-, z, hz, rfl⟩ := step_eq_some hs
  have hstores := (act_does hz).stores hx
  have h' := hstores.tightens ha
  exact ⟨hy, ha.trans_le hstores.nextAuthority, h'.cancelled ∘ h.cancelled,
    h'.revoked ∘ h.revoked, h'.drained ∘ h.drained⟩

theorem authority_never_returns_revoked : ∃ as bs v w, exec step (new sampleLimits) as = some v ∧
    exec step v bs = some w ∧ (v.state.authorities 0).Tightens (w.state.authorities 0) := by
  have hrun : (exec step (new sampleLimits)
      [(0, .issue samplePrincipal .browser (sampleId '0') 7)]).any (fun v =>
        decide (0 < v.state.nextAuthority) &&
        (exec step v [(0, .revoke 0 sampleScope samplePair []), (0, .chore 0)]).isSome) =
      true := by decide +kernel
  obtain ⟨v, hv, hends⟩ := (any_eq_true _ _).1 hrun
  rw [Bool.and_eq_true, decide_eq_true_iff] at hends
  obtain ⟨w, hw⟩ := Option.isSome_iff_exists.1 hends.2
  exact ⟨_, _, v, w, hv, hw, (authority_never_returns hv hw hends.1).1⟩

end World

end Chan.Proxy
