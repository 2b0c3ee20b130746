import Chan.Proxy.Acknowledgement
import Chan.Proxy.SessionLedger

namespace Chan.Proxy
open AssocMap Transition Option

variable {w w' : World}

/-- The moves of the calls beside a revocation, and of the revocation itself once it has
selected. -/
def Move.runsBeside : Move → Bool
  | .prune _ | .revoke .. | .clear .. | .timeout _ => false
  | _ => true

namespace World
open SessionState

/-- A revocation has selected the session and is still to cancel it. -/
def Cancelling (w : World) (i : String) (r : SessionRecord) : Prop :=
  ∃ scope chosen handles chores, w.Revoking scope chosen handles chores ∧ (i, r) ∈ chosen ∧
    .cancel r.authority ∈ chores

/-- What a call beside a revocation leaves alone. -/
structure Heeds (w : World) (m : Nat × Move) : Prop where
  /-- No selected id is drawn again. -/
  fresh : ∀ p client i admin, m.2 = .issue p client i admin → ∀ r, ¬w.Selected i r
  /-- A session is issued to a principal with a selected one only while the principal holds a live
  one that was not selected, or has no binding that was not. -/
  issue : ∀ p client i admin, m.2 = .issue p client i admin →
    (∃ j r, w.Selected j r ∧ r.principal = p) →
      (∃ j r, w.state.sessions.lookup j = some r ∧ r.principal = p ∧ m.1 < r.expiresAt ∧
        ¬w.Selected j r) ∨
      ∀ k b, w.state.bindings.lookup k = some b → b.principal = p →
        w.SelectedBinding k b.authority
  /-- No session is looked up that is still to be cancelled. -/
  lookup : ∀ i, m.2 = .lookup i → ∀ r, ¬w.Cancelling i r
  /-- No extension is bound for a principal with a session that is still to be cancelled. -/
  bind : ∀ p client target k verifier, m.2 = .bind p client target k verifier →
    ∀ i r, r.principal = p → ¬w.Cancelling i r
  /-- No binding of such a principal is resolved. -/
  resolve : ∀ token k verifier b, m.2 = .resolve token →
    splitBindingToken token = some (k, verifier) → w.state.bindings.lookup k = some b →
      ∀ i r, r.principal = b.principal → ¬w.Cancelling i r

/-- The ledger accounts for what the store holds: the sessions that were not selected, and their
principals' bindings that were not. -/
structure Agrees (w : World) (L : Ledger) (now : Nat) : Prop where
  wellFormed : w.state.WellFormed
  unpruned : ∀ call chores, w.calls.lookup call ≠ some (.prune chores)
  follows : ∀ scope chosen handles chores, w.Revoking scope chosen handles chores →
    Follows w.state chosen handles chores
  cancelledSession : ∀ i r, w.state.sessions.lookup i = some r →
    w.state.cancelled r.authority = true → w.Selected i r
  cancelledBinding : ∀ k b, w.state.bindings.lookup k = some b →
    w.state.cancelled b.authority = true → w.SelectedBinding k b.authority
  entered : ∀ i r, w.state.sessions.lookup i = some r → ¬w.Selected i r → L.sessions i = some r
  live : ∀ i r, L.sessions i = some r → now < r.expiresAt →
    w.state.sessions.lookup i = some r ∧ ¬w.Selected i r
  links : ∀ k x, L.LiveAt x.principal now → (L.links k = some x ↔
    ∃ b, w.state.bindings.lookup k = some b ∧ b.link = x ∧ ¬w.SelectedBinding k b.authority)

lemma serves_earlier {L : Ledger} (h : L.Serves p time r) (hle : now ≤ time) :
    L.Serves p now r := by
  obtain ⟨i, hr, hp, hlt⟩ := h
  exact ⟨i, hr, hp, hle.trans_lt hlt⟩

section
variable (h : Agrees w L now)
include h

lemma Agrees.later (hle : now ≤ time) : Agrees w L time := { h with
  live i r hr hlt := h.live i r hr (hle.trans_lt hlt)
  links k x := fun ⟨r, hr⟩ => h.links k x ⟨r, serves_earlier hr hle⟩ }

lemma Agrees.serves_iff : L.Serves p now r ↔
    ∃ i, w.state.sessions.lookup i = some r ∧ r.principal = p ∧ now < r.expiresAt ∧
      ¬w.Selected i r := by
  constructor
  · rintro ⟨i, hr, hp, hlt⟩
    obtain ⟨hin, hnot⟩ := h.live i r hr hlt
    exact ⟨i, hin, hp, hlt, hnot⟩
  · rintro ⟨i, hin, hp, hlt, hnot⟩
    exact ⟨i, h.entered i r hin hnot, hp, hlt⟩

lemma Agrees.selected_iff (hin : w.state.sessions.lookup i = some r)
    (hc : ¬w.Cancelling i r) : w.Selected i r ↔ w.state.cancelled r.authority = true := by
  refine ⟨?_, h.cancelledSession i r hin⟩
  rintro ⟨scope, chosen, handles, chores, hr, hmem⟩
  refine ((h.follows _ _ _ _ hr).cancels _ (mem_targets.2 (.inl ⟨_, hmem, rfl⟩))).resolve_left ?_
  exact fun hcancel => hc ⟨_, _, _, _, hr, hmem, hcancel⟩

lemma Agrees.selectedBinding_iff (hb : w.state.bindings.lookup k = some b)
    (hc : ∀ i r, r.principal = b.principal → ¬w.Cancelling i r) :
    w.SelectedBinding k b.authority ↔ w.state.cancelled b.authority = true := by
  refine ⟨?_, h.cancelledBinding k b hb⟩
  rintro ⟨scope, chosen, handles, chores, hr, hmem⟩
  have hf := h.follows _ _ _ _ hr
  refine (hf.cancels _ (mem_targets.2 (.inr ⟨_, hmem, rfl⟩))).resolve_left fun hcancel => ?_
  obtain ⟨e, he, hp⟩ := hf.companion _ hmem b hb rfl
  exact hc e.1 e.2 hp ⟨_, _, _, _, hr, he,
    sessions_cancelled_later hf.order hf.disjoint hmem hcancel he⟩

lemma Agrees.mem_liveSessions (hc : ∀ i r, r.principal = p → ¬w.Cancelling i r) :
    r ∈ w.state.liveSessions p now ↔ L.Serves p now r := by
  rw [SessionState.mem_liveSessions h.wellFormed.sessionsOf, h.serves_iff]
  refine exists_congr fun i => and_congr_right fun hin => and_congr_right fun hp => ?_
  rw [h.selected_iff hin (hc i r hp), Bool.not_eq_true, and_comm]

lemma Agrees.liveAt_iff (hc : ∀ i r, r.principal = p → ¬w.Cancelling i r) :
    w.state.LiveAt p now ↔ L.LiveAt p now := by
  rw [Ledger.LiveAt]
  simp only [← h.mem_liveSessions hc, SessionState.mem_liveSessions h.wellFormed.sessionsOf]
  exact ⟨fun ⟨i, r, hr⟩ => ⟨r, i, hr⟩, fun ⟨r, i, hr⟩ => ⟨i, r, hr⟩⟩

end

lemma selected_congr (h : w'.calls = w.calls) :
    w'.Selected i r ↔ w.Selected i r := by
  simp only [Selected, Revoking, h]

lemma selectedBinding_congr (h : w'.calls = w.calls) :
    w'.SelectedBinding k a ↔ w.SelectedBinding k a := by
  simp only [SelectedBinding, Revoking, h]

lemma revoking_congr (h : w'.calls = w.calls) :
    w'.Revoking scope chosen handles chores ↔ w.Revoking scope chosen handles chores := by
  rw [Revoking, Revoking, h]

lemma Agrees.shrinks (h : Agrees w L now) (hw : w'.state.WellFormed)
    (hcalls : w'.calls = w.calls) (hs : Shrinks w.state w'.state)
    (hkept : ∀ i r, w.state.sessions.lookup i = some r → now < r.expiresAt →
      w'.state.sessions.lookup i = some r)
    (hbindings : ∀ k b, w.state.bindings.lookup k = some b → w'.state.HasSession b.principal →
      L.LiveAt b.principal now → w'.state.bindings.lookup k = some b) : Agrees w' L now where
  wellFormed := hw
  unpruned := by
    rw [hcalls]
    exact h.unpruned
  follows _ _ _ _ hr := (h.follows _ _ _ _ ((revoking_congr hcalls).1 hr)).stores (.shrinks hs)
    fun e _ => hs.sessions e.1
  cancelledSession i r hr hc := by
    rw [selected_congr hcalls]
    refine h.cancelledSession i r (hs.sessions _ _ hr) ?_
    rw [SessionState.cancelled, ← hs.authority_eq h.wellFormed (x := .session i) ⟨r, hr, rfl⟩]
    exact hc
  cancelledBinding k b hb hc := by
    rw [selectedBinding_congr hcalls]
    refine h.cancelledBinding k b (hs.bindings _ _ hb) ?_
    rw [SessionState.cancelled, ← hs.authority_eq h.wellFormed (x := .binding k) ⟨b, hb, rfl⟩]
    exact hc
  entered i r hr hnot := by
    rw [selected_congr hcalls] at hnot
    exact h.entered i r (hs.sessions _ _ hr) hnot
  live i r hr hlt := by
    obtain ⟨hin, hnot⟩ := h.live i r hr hlt
    rw [selected_congr hcalls]
    exact ⟨hkept i r hin hlt, hnot⟩
  links k x hlive := by
    rw [h.links k x hlive]
    simp only [selectedBinding_congr hcalls]
    obtain ⟨r, hr⟩ := hlive
    obtain ⟨i, hin, hp, hlt, -⟩ := h.serves_iff.1 hr
    constructor
    · rintro ⟨b, hb, rfl, hnot⟩
      exact ⟨b, hbindings k b hb ⟨i, r, hkept i r hin hlt, hp⟩ ⟨r, hr⟩, rfl, hnot⟩
    · rintro ⟨b, hb, hlink, hnot⟩
      exact ⟨b, hs.bindings _ _ hb, hlink, hnot⟩

lemma Agrees.expires (h : Agrees w L now) (hcalls : w'.calls = w.calls)
    (he : Expires now w.state w'.state x) : Agrees w' L now :=
  h.shrinks he.wellFormed hcalls he.shrinks
    (fun i r hr hlt => (he.sessions i r).2 ⟨hr, .inl hlt⟩)
    fun k b hb hhas _ => (he.bindings k b).2 ⟨hb, hhas⟩

lemma Agrees.still (h : Agrees w L now) (hw : w'.state.WellFormed)
    (hunpruned : ∀ call chores, w'.calls.lookup call ≠ some (.prune chores))
    (hfollows : ∀ scope chosen handles chores, w'.Revoking scope chosen handles chores →
      Follows w'.state chosen handles chores)
    (hsessions : w'.state.sessions = w.state.sessions)
    (hbindings : ∀ k x, (∃ b, w'.state.bindings.lookup k = some b ∧ b.link = x) ↔
      ∃ b, w.state.bindings.lookup k = some b ∧ b.link = x)
    (hselected : ∀ i r, w'.Selected i r ↔ w.Selected i r)
    (hselectedBinding : ∀ k a, w'.SelectedBinding k a ↔ w.SelectedBinding k a)
    (hcs : ∀ i r, w.state.sessions.lookup i = some r → w'.state.cancelled r.authority = true →
      w.Selected i r)
    (hcb : ∀ k b, w.state.bindings.lookup k = some b → w'.state.cancelled b.authority = true →
      w.SelectedBinding k b.authority) : Agrees w' L now where
  wellFormed := hw
  unpruned := hunpruned
  follows := hfollows
  cancelledSession i r hr hc := by
    rw [hsessions] at hr
    rw [hselected]
    exact hcs i r hr hc
  cancelledBinding k b hb hc := by
    obtain ⟨c, hc', hlink⟩ := (hbindings k b.link).1 ⟨b, hb, rfl⟩
    have ha : c.authority = b.authority := congrArg Link.authority hlink
    rw [hselectedBinding, ← ha]
    exact hcb k c hc' (by rw [ha]; exact hc)
  entered i r hr hnot := by
    rw [hsessions] at hr
    rw [hselected] at hnot
    exact h.entered i r hr hnot
  live i r hr hlt := by
    rw [hsessions, hselected]
    exact h.live i r hr hlt
  links k x hlive := by
    rw [h.links k x hlive]
    have hauthority {b : ExtensionBinding} (hb : b.link = x) : b.authority = x.authority :=
      congrArg Link.authority hb
    constructor
    · rintro ⟨b, hb, hlink, hnot⟩
      obtain ⟨c, hc, hclink⟩ := (hbindings k x).2 ⟨b, hb, hlink⟩
      refine ⟨c, hc, hclink, ?_⟩
      rw [hselectedBinding, hauthority hclink, ← hauthority hlink]
      exact hnot
    · rintro ⟨b, hb, hlink, hnot⟩
      obtain ⟨c, hc, hclink⟩ := (hbindings k x).1 ⟨b, hb, hlink⟩
      refine ⟨c, hc, hclink, ?_⟩
      rw [hselectedBinding, hauthority hlink] at hnot
      rw [hauthority hclink]
      exact hnot

lemma Agrees.congr (h : Agrees w L now) (hs : v.state = w.state)
    (hc : v.calls = w.calls) : Agrees v L now := by
  refine h.still (by rw [hs]; exact h.wellFormed) (by rw [hc]; exact h.unpruned)
    (fun _ _ _ _ hr => by rw [hs]; exact h.follows _ _ _ _ ((revoking_congr hc).1 hr)) (by rw [hs])
    (fun k x => by rw [hs]) (fun i r => selected_congr hc)
    (fun k a => selectedBinding_congr hc) ?_ ?_
  · rw [hs]
    exact h.cancelledSession
  · rw [hs]
    exact h.cancelledBinding

section Calls

variable {w w' : World} {L : Ledger} (h : Agrees w L now)
include h

lemma lookup_allowed (hh : w.Heeds (now, .lookup i)) :
    L.Allows now (.lookup i) (.found (w.state.lookup i now).2.2) L ∧
    Agrees (w.lookup i now) L now := by
  rcases w.state.lookup_cases with ⟨answer, heq, hanswer⟩ | ⟨r, hr, hc, hexpired, heq⟩
  · rw [World.lookup, heq]
    refine ⟨.found fun r => (hanswer r).trans (and_congr_right fun _ => ?_), h.congr rfl rfl⟩
    constructor
    · rintro ⟨hr, hc, hlt⟩
      refine ⟨h.entered i r hr ?_, hlt⟩
      rw [h.selected_iff hr (hh.lookup i rfl r), hc]
      exact Bool.false_ne_true
    · rintro ⟨hr, hlt⟩
      obtain ⟨hin, hnot⟩ := h.live i r hr hlt
      rw [h.selected_iff hin (hh.lookup i rfl r), Bool.not_eq_true] at hnot
      exact ⟨hin, hnot, hlt⟩
  · rw [World.lookup, heq]
    have hremoves := removeSession_removes h.wellFormed i
    have hexpiry {c} (hc : w.state.sessions.lookup i = some c) :
        ¬now < c.expiresAt := by
      cases hc.symm.trans hr
      exact Nat.not_lt.2 hexpired
    refine ⟨.found fun c => iff_of_false (fun h => by cases h) ?_,
      h.shrinks (hremoves.wellFormed.of_maps rfl) rfl
      (lapse_shrinks h.wellFormed hr) (fun j c hin hlt => ?_) fun k b hb hhas _ => ?_⟩
    · rintro ⟨-, hc, hlt⟩
      exact hexpiry (h.live i c hc hlt).1 hlt
    · refine (hremoves.sessions j c).2 ⟨hin, ?_⟩
      rintro rfl
      exact hexpiry hin hlt
    · exact (hremoves.bindings k b).2 ⟨hb, hhas⟩

lemma issued_allowed (hcalls : w'.calls = w.calls) (hw : w'.state.WellFormed)
    (hstate : w'.state = (w.state.insertSession lifetime p client now i admin).1)
    (hfresh : w.state.sessions.lookup i = none) (hunselected : ∀ r, ¬w.Selected i r)
    (hgap : ¬L.LiveAt p now → ∀ k b, w.state.bindings.lookup k = some b → b.principal = p →
      w.SelectedBinding k b.authority)
    (hr : r = ⟨admin, p, client, now, now + lifetime, w.state.nextAuthority⟩) :
    ∃ M, L.Allows now (.issue p client i admin) (.issued (.ok r)) M ∧ Agrees w' M now := by
  classical
  let M : Ledger := ⟨Function.update L.sessions i (some r),
    fun k => (L.links k).filter fun x => decide (x.principal = p → L.LiveAt p now)⟩
  have hsessions j c : M.sessions j = some c ↔
      (j = i ∧ c = r) ∨ (j ≠ i ∧ L.sessions j = some c) := by
    simp only [M, update_some_eq_some]
  have hlinks k x : M.links k = some x ↔
      L.links k = some x ∧ (x.principal = p → L.LiveAt p now) := by
    simp only [M, filter_eq_some_iff, decide_eq_true_iff]
  have hlookup {j c} : w'.state.sessions.lookup j = some c ↔
      (j = i ∧ c = r) ∨ (j ≠ i ∧ w.state.sessions.lookup j = some c) := by
    rw [hstate, hr]
    exact insertSession_lookup ..
  have hbindings : w'.state.bindings = w.state.bindings := by rw [hstate]; rfl
  have hcancelled {a} (ha : a < w.state.nextAuthority) :
      w'.state.cancelled a = w.state.cancelled a := by
    rw [hstate]
    exact cancelled_insertSession ha
  refine ⟨M, .issued (by rw [hr]) (by rw [hr]) hsessions hlinks, {
    wellFormed := hw
    unpruned := by rw [hcalls]; exact h.unpruned
    follows := fun _ _ _ _ hrev => ?_
    cancelledSession := fun j c hin hc => ?_
    cancelledBinding := fun k b hb hc => ?_
    entered := fun j c hin hnot => ?_
    live := fun j c hin hlt => ?_
    links := fun k x hlive => ?_ }⟩
  · have hrev := (revoking_congr hcalls).1 hrev
    rw [hstate]
    refine (h.follows _ _ _ _ hrev).stores (.session (.refl _)) fun e he c hin => ?_
    rcases (insertSession_lookup ..).1 hin with ⟨heq, -⟩ | ⟨-, hin⟩
    · refine absurd ⟨_, _, _, _, hrev, ?_⟩ (hunselected e.2)
      rw [← heq]
      exact he
    · exact hin
  · rw [selected_congr hcalls]
    rcases hlookup.1 hin with ⟨rfl, rfl⟩ | ⟨-, hin⟩
    · rw [hstate, hr] at hc
      rw [SessionState.cancelled] at hc
      rw [show ((w.state.insertSession lifetime p client now j admin).1.authorities
        w.state.nextAuthority) = .new from Function.update_self ..] at hc
      cases hc
    · rw [hcancelled (bounded_session h.wellFormed hin)] at hc
      exact h.cancelledSession j c hin hc
  · rw [selectedBinding_congr hcalls]
    rw [hbindings] at hb
    rw [hcancelled (h.wellFormed.bounded (.binding k) _ ⟨b, hb, rfl⟩)] at hc
    exact h.cancelledBinding k b hb hc
  · rw [selected_congr hcalls] at hnot
    rcases hlookup.1 hin with hnew | ⟨hne, hin⟩
    · exact (hsessions j c).2 (.inl hnew)
    · exact (hsessions j c).2 (.inr ⟨hne, h.entered j c hin hnot⟩)
  · grind [h.live, selected_congr]
  · rw [hlinks, hbindings]
    simp only [selectedBinding_congr hcalls]
    by_cases hgone : x.principal = p ∧ ¬L.LiveAt p now
    · refine iff_of_false (fun hx => hgone.2 (hx.2 hgone.1)) ?_
      rintro ⟨b, hb, rfl, hnot⟩
      exact hnot (hgap hgone.2 k b hb hgone.1)
    · have hkept : x.principal = p → L.LiveAt p now := fun hp => by
        by_contra hnot
        exact hgone ⟨hp, hnot⟩
      rw [and_iff_left hkept]
      refine h.links k x ?_
      by_cases hp : x.principal = p
      · rw [hp]
        exact hkept hp
      · obtain ⟨c, j, hc, hcp, hlt⟩ := hlive
        rcases (hsessions j c).1 hc with ⟨-, rfl⟩ | ⟨-, hc⟩
        · exact absurd (by rw [← hcp, hr]) hp
        · exact ⟨c, j, hc, hcp, hlt⟩

lemma issue_allowed (hh : w.Heeds (now, .issue p client i admin))
    (hact : w.act now (.issue p client i admin) = some w') :
    ∃ M, L.Allows now (.issue p client i admin)
      (.issued (w.state.issue w.limits p client now i admin).2.2) M ∧ Agrees w' M now := by
  have hw := (act_does hact).wellFormed h.wellFormed
  obtain ⟨hfresh, ⟨⟩⟩ := Option.ite_none_right_eq_some.1 hact
  simp only [Bool.and_eq_true, isNone_iff_eq_none] at hfresh
  have hexpires := expireDue_expires h.wellFormed now
  rcases w.state.issue_cases with heq | ⟨e, heq⟩ | ⟨r, hr, heq⟩ <;>
    rw [World.issue, heq] at hw ⊢
  · exact ⟨L, .refused, h.congr rfl rfl⟩
  · exact ⟨L, .refused, h.expires rfl hexpires⟩
  · have hswept : Agrees { w with state := (w.state.expireDue now).1 } L now :=
      h.expires rfl hexpires
    refine issued_allowed hswept rfl hw rfl hfresh.1.2 (hh.fresh _ _ _ _ rfl) ?_ hr
    intro hdead k b hb hp
    -- Nothing of the principal is live: its records are selected, or the expiry took them all.
    by_cases hsel : ∃ j r, w.Selected j r ∧ r.principal = p
    · rcases hh.issue _ _ _ _ rfl hsel with ⟨j, c, hc, hcp, hlt, hnot⟩ | hall
      · exact absurd ⟨c, h.serves_iff.2 ⟨j, hc, hcp, hlt, hnot⟩⟩ hdead
      · exact hall k b (hexpires.shrinks.bindings _ _ hb) hp
    · refine absurd hp (hexpires.no_binding (fun j c hc hcp => ?_) k b hb)
      have hnot : ¬w.Selected j c := fun hs => hsel ⟨j, c, hs, hcp⟩
      have huncancelled : w.state.cancelled c.authority = false :=
        Bool.eq_false_iff.2 fun hcancelled => hnot (h.cancelledSession j c hc hcancelled)
      refine ⟨?_, by rw [isDraining, huncancelled, Bool.false_and]⟩
      by_contra hlt
      exact hdead ⟨c, h.serves_iff.2 ⟨j, hc, hcp, Nat.lt_of_not_le hlt, hnot⟩⟩

lemma evicted_allowed (hj : j ∈ w.state.bindingsOf p) :
    ∃ M : Ledger, M.sessions = L.sessions ∧
      (∀ k x, M.links k = some x ↔ L.links k = some x ∧ ¬(x.principal = p ∧ some j = some k)) ∧
      Agrees { w with state := w.state.dropBinding j } M now := by
  classical
  have hdrops := DropsBindings.of_dropBinding j w.state
  obtain ⟨c, hc, hp⟩ := (h.wellFormed.bindingsOf p j).1 hj
  let M : Ledger := ⟨L.sessions, fun k =>
    (L.links k).filter fun x => decide ¬(x.principal = p ∧ some j = some k)⟩
  have hlinks k x : M.links k = some x ↔
      L.links k = some x ∧ ¬(x.principal = p ∧ some j = some k) := by
    simp only [M, filter_eq_some_iff, decide_eq_true_iff]
  have hsame {x a} (hx : (w.state.dropBinding j).Holds x a) :
      (w.state.dropBinding j).cancelled a = w.state.cancelled a :=
    congrArg Authority.cancelled (hdrops.shrinks.authority_eq h.wellFormed hx)
  refine ⟨M, rfl, hlinks, { h with
    wellFormed := hdrops.wellFormed h.wellFormed
    follows := fun _ _ _ _ hr => (h.follows _ _ _ _ hr).stores (.shrinks hdrops.shrinks)
      fun e _ => hdrops.shrinks.sessions e.1
    cancelledSession := fun i r hr hcancelled => ?_
    cancelledBinding := fun k b hb hcancelled => ?_
    entered := fun i r hr hnot => h.entered i r (hdrops.shrinks.sessions _ _ hr) hnot
    live := fun i r hr hlt => ?_
    links := fun k x hlive => ?_ }⟩
  · rw [hsame (x := .session i) ⟨r, hr, rfl⟩] at hcancelled
    exact h.cancelledSession i r (hdrops.shrinks.sessions _ _ hr) hcancelled
  · rw [hsame (x := .binding k) ⟨b, hb, rfl⟩] at hcancelled
    exact h.cancelledBinding k b (hdrops.shrinks.bindings _ _ hb) hcancelled
  · rw [hdrops.sessions]
    exact h.live i r hr hlt
  · rw [hlinks, h.links k x hlive]
    simp only [hdrops.bindings]
    constructor
    · rintro ⟨⟨b, hb, rfl, hnot⟩, hne⟩
      refine ⟨b, ⟨hb, ?_⟩, rfl, hnot⟩
      rintro rfl
      cases hb.symm.trans hc
      exact hne ⟨hp, rfl⟩
    · rintro ⟨b, ⟨hb, hne⟩, rfl, hnot⟩
      exact ⟨⟨b, hb, rfl, hnot⟩, fun hev => hne (Option.some.inj hev.2).symm⟩

lemma bound_allowed (hcalls : v.calls = w.calls) (hw : v.state.WellFormed)
    (hstate : v.state = w.state.insertBinding p client target now k verifier)
    (hfresh : w.state.bindings.lookup k = none) :
    ∃ M : Ledger, M.sessions = L.sessions ∧
      (∀ j x, M.links j = some x ↔
        (j = k ∧ x = ⟨verifier, p, client, target, w.state.nextAuthority⟩) ∨
        (j ≠ k ∧ L.links j = some x)) ∧ Agrees v M now := by
  let M : Ledger := ⟨L.sessions,
    Function.update L.links k (some ⟨verifier, p, client, target, w.state.nextAuthority⟩)⟩
  have hlinks j x : M.links j = some x ↔
      (j = k ∧ x = ⟨verifier, p, client, target, w.state.nextAuthority⟩) ∨
        (j ≠ k ∧ L.links j = some x) := by
    simp only [M, update_some_eq_some]
  have hlookup {j b} : v.state.bindings.lookup j = some b ↔
      (j = k ∧ b = ⟨verifier, p, client, target, now, w.state.nextAuthority⟩) ∨
        (j ≠ k ∧ w.state.bindings.lookup j = some b) := by
    rw [hstate]
    exact insertBinding_lookup ..
  have hsessions : v.state.sessions = w.state.sessions := by rw [hstate]; rfl
  have hcancelled {a} (ha : a < w.state.nextAuthority) :
      v.state.cancelled a = w.state.cancelled a := by
    rw [hstate]
    exact cancelled_insertBinding ha
  refine ⟨M, rfl, hlinks, {
    wellFormed := hw
    unpruned := by rw [hcalls]; exact h.unpruned
    follows := fun _ _ _ _ hrev => ?_
    cancelledSession := fun i r hr hc => ?_
    cancelledBinding := fun j b hb hc => ?_
    entered := fun i r hr hnot => ?_
    live := fun i r hr hlt => ?_
    links := fun j x hlive => ?_ }⟩
  · rw [hstate]
    exact (h.follows _ _ _ _ ((revoking_congr hcalls).1 hrev)).stores (.binding (.refl _))
      fun e _ r hr => hr
  · rw [hsessions] at hr
    rw [hcancelled (bounded_session h.wellFormed hr)] at hc
    rw [selected_congr hcalls]
    exact h.cancelledSession i r hr hc
  · rw [selectedBinding_congr hcalls]
    rcases hlookup.1 hb with ⟨-, rfl⟩ | ⟨-, hb⟩
    · rw [hstate, SessionState.cancelled] at hc
      rw [show (w.state.insertBinding p client target now k verifier).authorities
        w.state.nextAuthority = .new from Function.update_self ..] at hc
      cases hc
    · rw [hcancelled (h.wellFormed.bounded (.binding j) _ ⟨b, hb, rfl⟩)] at hc
      exact h.cancelledBinding j b hb hc
  · rw [hsessions] at hr
    rw [selected_congr hcalls] at hnot
    exact h.entered i r hr hnot
  · rw [hsessions, selected_congr hcalls]
    exact h.live i r hr hlt
  · rw [hlinks]
    simp only [selectedBinding_congr hcalls]
    by_cases hjk : j = k
    · subst hjk
      constructor
      · rintro (⟨-, rfl⟩ | ⟨hne, -⟩)
        · refine ⟨_, hlookup.2 (.inl ⟨rfl, rfl⟩), rfl, ?_⟩
          rintro ⟨scope, chosen, handles, chores, hrev, hmem⟩
          exact Nat.lt_irrefl _ ((h.follows _ _ _ _ hrev).known
            _ (mem_targets.2 (.inr ⟨_, hmem, rfl⟩)))
        · exact absurd rfl hne
      · rintro ⟨b, hb, rfl, -⟩
        rcases hlookup.1 hb with ⟨-, rfl⟩ | ⟨hne, -⟩
        · exact .inl ⟨rfl, rfl⟩
        · exact absurd rfl hne
    · have hleft : ((j = k ∧ x = ⟨verifier, p, client, target, w.state.nextAuthority⟩) ∨
          (j ≠ k ∧ L.links j = some x)) ↔ L.links j = some x := by
        simp [hjk]
      rw [hleft, h.links j x hlive]
      refine exists_congr fun b => and_congr_left fun _ => ?_
      rw [hlookup]
      simp [hjk]

lemma bind_allowed (hh : w.Heeds (now, .bind p client target k verifier))
    (hact : w.act now (.bind p client target k verifier) = some w') :
    ∃ M, L.Allows now (.bind p client target k verifier)
      (.bound (w.state.bindExtension w.limits p client target now k verifier).2.2) M ∧
      Agrees w' M now := by
  have hw := (act_does hact).wellFormed h.wellFormed
  obtain ⟨⟨-, hfresh⟩, ⟨⟩⟩ := Option.ite_none_right_eq_some.1 hact
  have hexpires := expireDue_expires h.wellFormed now
  have hswept : Agrees { w with state := (w.state.expireDue now).1 } L now := h.expires rfl hexpires
  have hlive : (w.state.expireDue now).1.LiveAt p now ↔ L.LiveAt p now :=
    hswept.liveAt_iff (hh.bind _ _ _ _ _ rfl)
  rcases w.state.bindExtension_cases with
    ⟨e, he, heq⟩ | ⟨t, ht, heq⟩ <;> rw [World.bind, heq] at hw ⊢
  · refine ⟨L, ?_, hswept.congr rfl rfl⟩
    rcases makeRoom_error he with ⟨rfl, hnone⟩ | rfl
    · rw [liveSession_eq_none hexpires.wellFormed.sessionsOf, hlive] at hnone
      exact .unheld hnone
    · exact .full
  · rw [ht] at hfresh
    have hfresh : t.bindings.lookup k = none := Option.isNone_iff_eq_none.1 (by simpa using hfresh)
    obtain ⟨hsome, hroom⟩ := makeRoom_cases ht
    have hheld : L.LiveAt p now := by
      rw [← hlive]
      by_contra hnot
      exact hsome ((liveSession_eq_none hexpires.wellFormed.sessionsOf).2 hnot)
    rcases hroom with rfl | ⟨j, -, hlru, rfl⟩
    · obtain ⟨M, hsessions, hlinks, hagrees⟩ := bound_allowed hswept
        (v := { w with state := _, sent := w.sent ++ (w.state.expireDue now).2 }) rfl hw rfl hfresh
      refine ⟨M, .bound hheld none hsessions
        (a := (w.state.expireDue now).1.nextAuthority) fun i x => (hlinks i x).trans ?_, hagrees⟩
      simp
    · obtain ⟨N, hsessions, hlinks, hagrees⟩ := evicted_allowed hswept (leastRecentlyUsed_mem hlru)
      obtain ⟨M, hsessions', hlinks', hagrees'⟩ := bound_allowed hagrees
        (v := { w with state := _, sent := w.sent ++ (w.state.expireDue now).2 }) rfl hw rfl hfresh
      refine ⟨M, .bound hheld (some j) (hsessions'.trans hsessions)
        (a := ((w.state.expireDue now).1.dropBinding j).nextAuthority)
        fun i x => (hlinks' i x).trans ?_, hagrees'⟩
      rw [hlinks]

lemma touched_agrees (hb : w.state.bindings.lookup k = some b) :
    Agrees { w with state :=
      { w.state with bindings := w.state.bindings.insert k { b with lastUsed := now } } } L
      now := by
  refine h.still (touch_wellFormed h.wellFormed hb) h.unpruned (fun _ _ _ _ hr =>
    (h.follows _ _ _ _ hr).stores (.touched hb) fun _ _ _ hr => hr) rfl (fun j x => ?_)
    (fun _ _ => Iff.rfl) (fun _ _ => Iff.rfl) h.cancelledSession h.cancelledBinding
  by_cases hjk : j = k
  · subst hjk
    constructor
    · rintro ⟨c, hc, rfl⟩
      cases (AList.lookup_insert _).symm.trans hc
      exact ⟨b, hb, rfl⟩
    · rintro ⟨c, hc, rfl⟩
      cases hb.symm.trans hc
      exact ⟨_, AList.lookup_insert _, rfl⟩
  · simp only [AList.lookup_insert_ne hjk]

lemma resolve_allowed (hh : w.Heeds (now, .resolve token))
    (hact : w.act now (.resolve token) = some w') :
    L.Allows now (.resolve token) (.resolved (w.state.resolveExtensionBinding token now).2) L ∧
      Agrees w' L now := by
  cases hact
  have hlink {k : String} {x : Link} (hx : L.links k = some x) (hlive : L.LiveAt x.principal now) :=
    (h.links k x hlive).1 hx
  rw [resolveExtensionBinding]
  split
  · rename_i hsplit
    refine ⟨.resolved (.unheld fun k v x hsome => ?_), h.congr rfl rfl⟩
    cases hsplit.symm.trans hsome
  rename_i k v hsplit
  split
  · rename_i hnone
    refine ⟨.resolved (.unheld fun j u x hsome hx _ hlive => ?_), h.congr rfl rfl⟩
    cases hsplit.symm.trans hsome
    obtain ⟨b, hb, -⟩ := hlink hx hlive
    cases hnone.symm.trans hb
  rename_i b hb
  have hc := hh.resolve token k v b rfl hsplit hb
  have hselected := h.selectedBinding_iff hb hc
  split
  · rename_i hrefused
    refine ⟨.resolved (.unheld fun j u x hsome hx hverifier hlive => ?_), h.congr rfl rfl⟩
    cases hsplit.symm.trans hsome
    obtain ⟨c, hc', rfl, hnot⟩ := hlink hx hlive
    cases hb.symm.trans hc'
    rw [hselected] at hnot
    rw [Bool.or_eq_true, decide_eq_true_iff] at hrefused
    exact hrefused.elim (fun hne => hne hverifier) hnot
  rename_i hadmitted
  rw [Bool.or_eq_true, not_or, decide_eq_true_iff, not_not] at hadmitted
  have hliveAt := h.liveAt_iff hc
  split
  · rename_i hnone
    rw [liveSession_eq_none h.wellFormed.sessionsOf, hliveAt] at hnone
    have hdrops := DropsBindings.of_dropBinding k w.state
    refine ⟨.resolved (.unheld fun j u x hsome hx _ hlive => ?_), h.shrinks
      (hdrops.wellFormed h.wellFormed) rfl hdrops.shrinks (fun i r hr _ => ?_)
      fun j c hc' _ hlive => ?_⟩
    · cases hsplit.symm.trans hsome
      obtain ⟨c, hc', rfl, -⟩ := hlink hx hlive
      cases hb.symm.trans hc'
      exact hnone hlive
    · rw [hdrops.sessions]
      exact hr
    · refine (hdrops.bindings j c).2 ⟨hc', ?_⟩
      rintro rfl
      cases hb.symm.trans hc'
      exact hnone hlive
  · rename_i r hr
    obtain ⟨hmem, hlatest⟩ := liveSession_eq_some hr
    have hserves {c : SessionRecord} := h.mem_liveSessions (r := c) hc
    have hheld : L.links k = some b.link := by
      refine (h.links k b.link ⟨r, hserves.1 hmem⟩).2 ⟨b, hb, rfl, ?_⟩
      rw [hselected]
      exact hadmitted.2
    refine ⟨.resolved (.held hsplit hheld hadmitted.1 (hserves.1 hmem)
      (fun c hc' => hlatest c (hserves.2 hc')) ?_), touched_agrees h hb⟩
    split
    · rename_i hany
      obtain ⟨c, hc', hclient⟩ := List.any_eq_true.1 hany
      exact .inl ⟨rfl, c, hserves.1 hc', of_decide_eq_true hclient⟩
    · rename_i hnone
      refine .inr ⟨rfl, fun c hc' hclient => hnone ?_⟩
      exact List.any_eq_true.2 ⟨c, hserves.2 hc', decide_eq_true hclient⟩

lemma follows_step (hd : Does now w m w') (hm : ∀ p client i admin, m ≠ .issue p client i admin)
    (hr : w'.Revoking scope chosen handles chores) : Follows w'.state chosen handles chores := by
  have hstep {chores} (hr : w.Revoking scope chosen handles chores) :
      Follows w'.state chosen handles chores :=
    (h.follows _ _ _ _ hr).step h.wellFormed hd fun _ _ _ _ heq => absurd heq (hm _ _ _ _)
  rcases hd.revoking hr with hr | ⟨hselects, rfl, x, hstate⟩ | ⟨c, hr, hdone⟩
  · exact hstep hr
  · rw [hstate]
    exact .of_selects (h.wellFormed.of_maps rfl) hselects
  · exact (hstep hr).advance hdone

lemma chore_agrees (hd : Does now w (.chore call) w') (hcall : w.calls.lookup call = some c)
    (hcalls : w'.calls = w.calls.insert call (c.withChores rest))
    (hsessions : w'.state.sessions = w.state.sessions)
    (hbindings : w'.state.bindings = w.state.bindings)
    (hcs : ∀ i r, w.state.sessions.lookup i = some r → w'.state.cancelled r.authority = true →
      w.Selected i r)
    (hcb : ∀ k b, w.state.bindings.lookup k = some b → w'.state.cancelled b.authority = true →
      w.SelectedBinding k b.authority) : Agrees w' L now := by
  refine h.still (hd.wellFormed h.wellFormed) (fun n chores hn => ?_)
    (fun _ _ _ _ hr => follows_step h hd nofun hr) hsessions (fun k x => by rw [hbindings])
    (fun i r => ?_) (fun k a => ?_) hcs hcb
  · rw [hcalls] at hn
    rcases lookup_insert_eq_some hn with ⟨rfl, heq⟩ | ⟨-, hn⟩
    · rw [(withChores_eq_prune heq.symm).2] at hcall
      exact h.unpruned _ _ hcall
    · exact h.unpruned _ _ hn
  · rw [selected_iff_exists, selected_iff_exists]
    simp only [revoking_chore hcall hcalls]
  · rw [selectedBinding_iff_exists, selectedBinding_iff_exists]
    simp only [revoking_chore hcall hcalls]

lemma cancel_agrees (hd : Does now w (.chore call) w') (hcall : w.calls.lookup call = some c)
    (hchores : c.chores = .cancel a :: rest)
    (hcalls : w'.calls = w.calls.insert call (c.withChores rest))
    (hstate : w'.state = w.state.cancel a) : Agrees w' L now := by
  have hcancelled {b} (hb : w'.state.cancelled b = true) :
      b = a ∨ w.state.cancelled b = true := by
    rw [hstate, SessionState.cancelled, SessionState.cancel, authorities_modifyAuthority] at hb
    split at hb
    · rename_i heq
      exact .inl heq
    · exact .inr hb
  cases c with
  | prune chores => exact absurd hcall (h.unpruned _ _)
  | revocation scope chosen handles chores =>
    cases hchores
    have hr : w.Revoking scope chosen handles (.cancel a :: rest) := ⟨call, hcall⟩
    have hf := h.follows _ _ _ _ hr
    have htarget := mem_targets.1 (cancel_mem_targets hf.order List.mem_cons_self)
    refine chore_agrees h hd hcall hcalls (by rw [hstate]; rfl) (by rw [hstate]; rfl)
      (fun i r hin hc => ?_) fun k b hb hc => ?_
    · rcases hcancelled hc with heq | hc
      · rcases htarget with ⟨e, he, rfl⟩ | ⟨x, hx, rfl⟩
        · cases hf.ownSession e he (.session i) ⟨r, hin, heq⟩
          cases hf.same e he r hin
          exact ⟨_, _, _, _, hr, he⟩
        · cases hf.ownBinding x hx (.session i) ⟨r, hin, heq⟩
      · exact h.cancelledSession i r hin hc
    · rcases hcancelled hc with heq | hc
      · rcases htarget with ⟨e, he, rfl⟩ | ⟨x, hx, rfl⟩
        · cases hf.ownSession e he (.binding k) ⟨b, hb, heq⟩
        · cases hf.ownBinding x hx (.binding k) ⟨b, hb, heq⟩
          rw [heq]
          exact ⟨_, _, _, _, hr, hx⟩
      · exact h.cancelledBinding k b hb hc

lemma complete_agrees (hcall : w.calls.lookup call = some (.revocation scope chosen handles []))
    (hcalls : w'.calls = w.calls.erase call)
    (hstate : w'.state = (w.state.finishRevocation chosen handles).1) : Agrees w' L now := by
  obtain ⟨t, hdrops, hremoves⟩ := finishRevocation_removes h.wellFormed
  rw [← hstate] at hremoves
  have hs := hdrops.shrinks.trans hremoves.shrinks
  have hr : w.Revoking scope chosen handles [] := ⟨call, hcall⟩
  have hf := h.follows _ _ _ _ hr
  have hrevoking {scope' chosen'} {handles' : List BindingHandle} {chores}
      (hr : w'.Revoking scope' chosen' handles' chores) :
      w.Revoking scope' chosen' handles' chores := by
    obtain ⟨n, hn⟩ := hr
    rw [hcalls] at hn
    exact ⟨n, (lookup_erase_eq_some hn).2⟩
  -- What stays in the store and was selected was selected by another call.
  have hother {scope' chosen'} {handles' : List BindingHandle} {chores}
      (hr : w.Revoking scope' chosen' handles' chores) :
      (chosen' = chosen ∧ handles' = handles) ∨ w'.Revoking scope' chosen' handles' chores := by
    obtain ⟨n, hn⟩ := hr
    by_cases hne : n = call
    · subst hne
      cases hn.symm.trans hcall
      exact .inl ⟨rfl, rfl⟩
    · refine .inr ⟨n, ?_⟩
      rw [hcalls]
      exact (AList.lookup_erase_ne hne).trans hn
  have hsession {i r} (hin : w'.state.sessions.lookup i = some r) :
      w'.Selected i r ↔ w.Selected i r := by
    constructor
    · rintro ⟨_, _, _, _, hr, hmem⟩
      exact ⟨_, _, _, _, hrevoking hr, hmem⟩
    · rintro ⟨_, _, _, _, hr, hmem⟩
      rcases hother hr with ⟨rfl, -⟩ | hr
      · exact absurd ⟨_, hmem, rfl⟩ ((hremoves.sessions i r).1 hin).2
      · exact ⟨_, _, _, _, hr, hmem⟩
  have hbinding {k b} (hb : w'.state.bindings.lookup k = some b) :
      w'.SelectedBinding k b.authority ↔ w.SelectedBinding k b.authority := by
    constructor
    · rintro ⟨_, _, _, _, hr, hmem⟩
      exact ⟨_, _, _, _, hrevoking hr, hmem⟩
    · rintro ⟨_, _, _, _, hr, hmem⟩
      rcases hother hr with ⟨-, rfl⟩ | hr
      · refine absurd ⟨_, hmem, rfl, rfl⟩ ((hdrops.bindings k b).1 ?_).2
        exact hremoves.shrinks.bindings _ _ hb
      · exact ⟨_, _, _, _, hr, hmem⟩
  have hkept {i r} (hin : w.state.sessions.lookup i = some r) (hnot : ¬w.Selected i r) :
      w'.state.sessions.lookup i = some r := by
    refine (hremoves.sessions i r).2 ⟨by rw [hdrops.sessions]; exact hin, ?_⟩
    rintro ⟨e, he, rfl⟩
    cases hf.same e he r hin
    exact hnot ⟨_, _, _, _, hr, he⟩
  exact { hremoves with
    unpruned := fun n chores hn => by
      rw [hcalls] at hn
      exact h.unpruned n chores (lookup_erase_eq_some hn).2
    follows := fun _ _ _ _ hr => (h.follows _ _ _ _ (hrevoking hr)).stores (.shrinks hs)
      fun e _ => hs.sessions e.1
    cancelledSession := fun i r hin hc => by
      rw [hsession hin]
      refine h.cancelledSession i r (hs.sessions _ _ hin) ?_
      rw [SessionState.cancelled, ← hs.authority_eq h.wellFormed (x := .session i) ⟨r, hin, rfl⟩]
      exact hc
    cancelledBinding := fun k b hb hc => by
      rw [hbinding hb]
      refine h.cancelledBinding k b (hs.bindings _ _ hb) ?_
      rw [SessionState.cancelled, ← hs.authority_eq h.wellFormed (x := .binding k) ⟨b, hb, rfl⟩]
      exact hc
    entered := fun i r hin hnot => by
      rw [hsession hin] at hnot
      exact h.entered i r (hs.sessions _ _ hin) hnot
    live := fun i r hin hlt => by
      obtain ⟨hin, hnot⟩ := h.live i r hin hlt
      have hin' := hkept hin hnot
      rw [hsession hin']
      exact ⟨hin', hnot⟩
    links := fun k x hlive => by
      rw [h.links k x hlive]
      obtain ⟨r, hserves⟩ := hlive
      obtain ⟨i, hin, hp, -, hnot⟩ := h.serves_iff.1 hserves
      constructor
      · rintro ⟨b, hb, rfl, hnotb⟩
        have hb' : w'.state.bindings.lookup k = some b := by
          refine (hremoves.bindings k b).2
            ⟨(hdrops.bindings k b).2 ⟨hb, ?_⟩, i, r, hkept hin hnot, hp⟩
          rintro ⟨y, hy, rfl, ha⟩
          refine hnotb ⟨_, _, _, _, hr, ?_⟩
          rw [ha]
          exact hy
        rw [← hbinding hb'] at hnotb
        exact ⟨b, hb', rfl, hnotb⟩
      · rintro ⟨b, hb, hlink, hnotb⟩
        rw [hbinding hb] at hnotb
        exact ⟨b, hs.bindings _ _ hb, hlink, hnotb⟩ }

lemma authority_agrees (hf : ∀ x, Authority.Tightens x (f x))
    (hcancelled : ∀ x, (f x).cancelled = x.cancelled) :
    Agrees { w with state := w.state.modifyAuthority a f } L now := by
  have hsame := cancelled_modifyAuthority (s := w.state) (a := a) hcancelled
  refine h.still (h.wellFormed.of_maps rfl) h.unpruned (fun _ _ _ _ hr =>
    (h.follows _ _ _ _ hr).stores (.authority a f hf) fun _ _ _ hr => hr) rfl (fun _ _ => Iff.rfl)
    (fun _ _ => Iff.rfl) (fun _ _ => Iff.rfl) (fun i r hr hc => ?_) fun k b hb hc => ?_
  · exact h.cancelledSession i r hr ((hsame _).symm.trans hc)
  · exact h.cancelledBinding k b hb ((hsame _).symm.trans hc)

lemma silent_agrees (hd : Does now w m w') (hsilent : w.observe now m = none)
    (hm : m.runsBeside = true) : Agrees w' L now := by
  cases hd with
  | pruned | selected | cleared | timedOut => cases hm
  | resumed =>
    exact h.still (h.wellFormed.of_maps rfl) h.unpruned (fun _ _ _ _ hr =>
      (h.follows _ _ _ _ hr).stores (.suspended _) fun _ _ _ hr => hr) rfl (fun _ _ => Iff.rfl)
      (fun _ _ => Iff.rfl) (fun _ _ => Iff.rfl) h.cancelledSession h.cancelledBinding
  | begun => exact authority_agrees h Authority.tightens_begin cancelled_begin
  | @finished _ op =>
    exact authority_agrees h (f := fun x => x.finish op) (Authority.tightens_finish op) fun _ => rfl
  | cancelled hcall hchores =>
    exact cancel_agrees h (.cancelled hcall hchores) hcall hchores rfl rfl
  | @closed _ _ _ a hcall hchores =>
    have hsame := cancelled_modifyAuthority (s := w.state) (a := a)
      (f := fun x => { x with revoked := true }) fun _ => rfl
    refine chore_agrees h (.closed hcall hchores) hcall rfl rfl rfl (fun i r hr hc => ?_)
      fun k b hb hc => ?_
    · exact h.cancelledSession i r hr ((hsame _).symm.trans hc)
    · exact h.cancelledBinding k b hb ((hsame _).symm.trans hc)
  | drained hcall hchores hactive =>
    exact chore_agrees h (.drained hcall hchores hactive) hcall rfl rfl rfl h.cancelledSession
      h.cancelledBinding
  | announced hcall hchores =>
    exact chore_agrees h (.announced hcall hchores) hcall rfl rfl rfl h.cancelledSession
      h.cancelledBinding
  | prunedAll hcall => exact absurd hcall (h.unpruned _ _)
  | completed hcall => exact complete_agrees h hcall rfl rfl
  | _ => cases hsilent

lemma allowed_step (hh : w.Heeds (now, m)) (hm : m.runsBeside = true)
    (hact : w.act now m = some w') :
    ∃ M, (∀ answer, w.observe now m = some answer → L.Allows now m answer M) ∧
      (w.observe now m = none → M = L) ∧ Agrees w' M now := by
  have hcall {a : Answer} {P : Answer → Ledger → Prop} {M : Ledger} (hallows : P a M) :
      (∀ answer, some a = some answer → P answer M) ∧ (some a = none → M = L) :=
    ⟨fun answer heq => by cases heq; exact hallows, nofun⟩
  cases m with
  | issue p client i admin =>
    obtain ⟨M, hallows, hagrees⟩ := issue_allowed h hh hact
    exact ⟨M, (hcall hallows).1, (hcall hallows).2, hagrees⟩
  | lookup i =>
    obtain ⟨hallows, hagrees⟩ := lookup_allowed h hh
    cases hact
    exact ⟨L, (hcall hallows).1, (hcall hallows).2, hagrees⟩
  | bind p client target k verifier =>
    obtain ⟨M, hallows, hagrees⟩ := bind_allowed h hh hact
    exact ⟨M, (hcall hallows).1, (hcall hallows).2, hagrees⟩
  | resolve token =>
    obtain ⟨hallows, hagrees⟩ := resolve_allowed h hh hact
    exact ⟨L, (hcall hallows).1, (hcall hallows).2, hagrees⟩
  | _ =>
    exact ⟨L, nofun, fun _ => rfl, silent_agrees h (act_does hact) rfl hm⟩

lemma select_revokes
    (hnone : ∀ scope chosen handles chores, ¬w.Revoking scope chosen handles chores)
    (hselects : Selects scope chosen handles w.state) (hfresh : w.calls.lookup call = none) :
    ∃ M, Ledger.Revokes now scope L M ∧ Agrees (w.select call scope chosen handles) M now := by
  classical
  let M : Ledger := ⟨fun i => (L.sessions i).filter fun r => !scope.matches r,
    fun k => (L.links k).filter fun x => !reaches scope chosen x.principal⟩
  have hsessions i r :
      M.sessions i = some r ↔ L.sessions i = some r ∧ scope.matches r = false := by
    simp only [M, filter_eq_some_iff, Bool.not_eq_true']
  have hlinks k x :
      M.links k = some x ↔ L.links k = some x ∧ ¬reaches scope chosen x.principal = true := by
    simp only [M, filter_eq_some_iff, Bool.not_eq_true', Bool.not_eq_true]
  have hunselected i r : ¬w.Selected i r := by
    rintro ⟨_, _, _, _, hr, _⟩
    exact hnone _ _ _ _ hr
  have hunselectedBinding k a : ¬w.SelectedBinding k a := by
    rintro ⟨_, _, _, _, hr, _⟩
    exact hnone _ _ _ _ hr
  have hnew : (w.select call scope chosen handles).Revoking scope chosen handles
      (revocationChores chosen handles) := ⟨call, AList.lookup_insert _⟩
  have honly {scope' chosen'} {handles' : List BindingHandle} {chores}
      (hr : (w.select call scope chosen handles).Revoking scope' chosen' handles' chores) :
      chosen' = chosen ∧ handles' = handles := by
    obtain ⟨n, hn⟩ := hr
    rcases lookup_insert_eq_some hn with ⟨-, heq⟩ | ⟨-, hn⟩
    · cases heq
      exact ⟨rfl, rfl⟩
    · exact absurd ⟨n, hn⟩ (hnone _ _ _ _)
  have hselected i r :
      (w.select call scope chosen handles).Selected i r ↔ (i, r) ∈ chosen := by
    refine ⟨?_, fun hmem => ⟨_, _, _, _, hnew, hmem⟩⟩
    rintro ⟨_, _, _, _, hr, hmem⟩
    rw [← (honly hr).1]
    exact hmem
  have hselectedBinding k a :
      (w.select call scope chosen handles).SelectedBinding k a ↔ ⟨k, a⟩ ∈ handles := by
    refine ⟨?_, fun hmem => ⟨_, _, _, _, hnew, hmem⟩⟩
    rintro ⟨_, _, _, _, hr, hmem⟩
    rw [← (honly hr).2]
    exact hmem
  have hlive {p} (hp : M.LiveAt p now) : L.LiveAt p now := by
    obtain ⟨r, i, hr, hp, hlt⟩ := hp
    exact ⟨r, i, ((hsessions i r).1 hr).1, hp, hlt⟩
  refine ⟨M, ⟨fun p => reaches scope chosen p = true, fun p hp => ?_, fun p r hr hmatch => ?_,
    fun p hp => ?_, hsessions, hlinks⟩, {
    wellFormed := h.wellFormed
    unpruned := fun n chores hn => ?_
    follows := fun _ _ _ _ hr =>
      follows_step h (m := .revoke call scope chosen handles) (.selected hfresh hselects)
        (fun _ _ _ _ h => by cases h) hr
    cancelledSession := fun i r hr hc => absurd (h.cancelledSession i r hr hc) (hunselected i r)
    cancelledBinding := fun k b hb hc =>
      absurd (h.cancelledBinding k b hb hc) (hunselectedBinding k _)
    entered := fun i r hr hnot => ?_
    live := fun i r hr hlt => ?_
    links := fun k x hx => ?_ }⟩
  · simp [reaches, hp]
  · obtain ⟨i, hin, hp, -, -⟩ := h.serves_iff.1 hr
    exact reaches_of_mem (e := (i, r)) (hselects.mem_chosen.2 ⟨hin, hmatch⟩) hp
  · simp only [reaches, Bool.or_eq_true, List.any_eq_true] at hp
    refine hp.imp_right ?_
    rintro ⟨e, he, heq⟩
    obtain ⟨hin, hmatch⟩ := hselects.mem_chosen.1 he
    exact ⟨e.1, e.2, h.entered _ _ hin (hunselected _ _), hmatch, of_decide_eq_true heq⟩
  · rcases lookup_insert_eq_some hn with ⟨-, heq⟩ | ⟨-, hn⟩
    · cases heq
    · exact h.unpruned n chores hn
  · rw [hselected] at hnot
    refine (hsessions i r).2
      ⟨h.entered i r hr (hunselected i r), Bool.eq_false_iff.2 fun hmatch => ?_⟩
    exact hnot (hselects.mem_chosen.2 ⟨hr, hmatch⟩)
  · obtain ⟨hr, hmatch⟩ := (hsessions i r).1 hr
    refine ⟨(h.live i r hr hlt).1, fun hsel => ?_⟩
    rw [hselected] at hsel
    cases hmatch.symm.trans (hselects.mem_chosen.1 hsel).2
  · rw [hlinks, h.links k x (hlive hx)]
    simp only [hselectedBinding]
    constructor
    · rintro ⟨⟨b, hb, rfl, -⟩, hreach⟩
      refine ⟨b, hb, rfl, fun hmem => ?_⟩
      obtain ⟨c, hc, -, hreach'⟩ := hselects.mem_handles.1 hmem
      cases hb.symm.trans hc
      exact hreach hreach'
    · rintro ⟨b, hb, rfl, hmem⟩
      refine ⟨⟨b, hb, rfl, hunselectedBinding _ _⟩, fun hreach => hmem ?_⟩
      exact hselects.mem_handles.2 ⟨b, hb, rfl, hreach⟩

end Calls

lemma agrees_run (h : Agrees w L w.clock)
    (halong : Along step Heeds w ms) (hms : ∀ m ∈ ms, m.2.runsBeside = true)
    (he : exec step w ms = some w') : ∃ M, Ledger.Explains w ms L M ∧ Agrees w' M w'.clock := by
  induction ms generalizing w L with
  | nil =>
    cases he
    exact ⟨L, rfl, h⟩
  | cons m ms ih =>
    obtain ⟨u, hu, hrest⟩ := exec_cons_eq_some.1 he
    obtain ⟨hclock, v, hv, rfl⟩ := step_eq_some hu
    obtain ⟨M, hallows, hsame, hagrees⟩ := allowed_step (h.later hclock) halong.1
      (hms m List.mem_cons_self) hv
    obtain ⟨N, hexplains, hends⟩ := ih (L := M)
      (Agrees.congr (v := { v with clock := m.1 }) hagrees rfl rfl) (halong.2 _ hu)
      (fun m hm => hms m (List.mem_cons_of_mem _ hm)) hrest
    exact ⟨N, ⟨_, M, hu, hallows, hsame, hexplains⟩, hends⟩

lemma agrees_new : Agrees (new l) .empty 0 where
  wellFormed := wellFormed_new l
  unpruned _ _ := nofun
  follows _ _ _ _ h := by
    obtain ⟨_, h⟩ := h
    cases h
  cancelledSession _ _ h := by cases h
  cancelledBinding _ _ h := by cases h
  entered _ _ h := by cases h
  live _ _ h := by cases h
  links _ _ := fun ⟨_, _, h, _⟩ => nomatch h

lemma calls_run (hcalls : w.calls = ∅) (hms : ∀ m ∈ ms, m.2.runsBeside = true)
    (he : exec step w ms = some w') : w'.calls = ∅ := by
  induction ms generalizing w with
  | nil =>
    cases he
    exact hcalls
  | cons m ms ih =>
    obtain ⟨u, hu, hrest⟩ := exec_cons_eq_some.1 he
    obtain ⟨-, v, hv, rfl⟩ := step_eq_some hu
    refine ih ?_ (fun m hm => hms m (List.mem_cons_of_mem _ hm)) hrest
    have hnone {n c} (hn : w.calls.lookup n = some c) : False := by
      rw [hcalls] at hn
      cases hn
    obtain ⟨time, m⟩ := m
    have hm := hms _ List.mem_cons_self
    cases act_does hv with
    | pruned | selected | cleared | timedOut => cases hm
    | cancelled hcall | closed hcall | drained hcall | announced hcall | prunedAll hcall
      | completed hcall => exact (hnone hcall).elim
    | _ => exact hcalls

/-- A revocation that returns is linearizable: every answer in the run is the one a ledger gives
from which the revocation takes, where it selects, every matching session and every link of a
principal it reaches. -/
theorem revocation_linearizable (l : SessionLimits) (as bs : List (Nat × Move)) (now call : Nat)
    (scope : Revocation) (chosen : List (String × SessionRecord)) (handles : List BindingHandle)
    (w : World) (has : ∀ m ∈ as, m.2.runsBeside = true) (hbs : ∀ m ∈ bs, m.2.runsBeside = true)
    (halong : Along step Heeds (new l) (as ++ (now, .revoke call scope chosen handles) :: bs))
    (he : exec step (new l) (as ++ (now, .revoke call scope chosen handles) :: bs) = some w) :
    ∃ u v L M N, exec step (new l) as = some u ∧
      u.step (now, .revoke call scope chosen handles) = some v ∧ exec step v bs = some w ∧
      Ledger.Explains (new l) as .empty L ∧ Ledger.Revokes now scope L M ∧
      Ledger.Explains v bs M N := by
  obtain ⟨u, hu, hrest⟩ := exec_append_eq_some.1 he
  obtain ⟨v, hv, hw⟩ := exec_cons_eq_some.1 hrest
  obtain ⟨L, hexplains, hagrees⟩ := agrees_run agrees_new halong.append_left has hu
  have hcalls : u.calls = ∅ := calls_run rfl has hu
  obtain ⟨hclock, x, hx, rfl⟩ := step_eq_some hv
  obtain ⟨⟨hfresh, hselects⟩, ⟨⟩⟩ := Option.ite_none_right_eq_some.1 hx
  obtain ⟨M, hrevokes, hagrees'⟩ := select_revokes (hagrees.later hclock)
    (fun _ _ _ _ ⟨n, hn⟩ => by rw [hcalls] at hn; cases hn) hselects
    (Option.isNone_iff_eq_none.1 hfresh)
  have halong' := (halong.append_right hu).2 _ hv
  obtain ⟨N, hexplains', -⟩ := agrees_run (L := M)
    (Agrees.congr (v := { u.select call scope chosen handles with clock := now }) hagrees' rfl rfl)
    halong' hbs hw
  exact ⟨u, _, L, M, N, hu, hv, hw, hexplains, hrevokes, hexplains'⟩

lemma heeds_of_silent (h : w.observe m.1 m.2 = none) : w.Heeds m where
  fresh _ _ _ _ heq := by rw [heq] at h; cases h
  issue _ _ _ _ heq := by rw [heq] at h; cases h
  lookup _ heq := by rw [heq] at h; cases h
  bind _ _ _ _ _ heq := by rw [heq] at h; cases h
  resolve _ _ _ _ heq := by rw [heq] at h; cases h

lemma heeds_lookup (h : ∀ r, ¬w.Cancelling i r) : w.Heeds (now, .lookup i) where
  fresh _ _ _ _ heq := by cases heq
  issue _ _ _ _ heq := by cases heq
  lookup j heq := by cases heq; exact h
  bind _ _ _ _ _ heq := by cases heq
  resolve _ _ _ _ heq := by cases heq

lemma heeds_of_idle (hcalls : w.calls = ∅) : w.Heeds m := by
  exact ⟨fun _ _ _ _ _ _ ⟨_, _, _, _, h, _⟩ => not_revoking hcalls h,
    fun _ _ _ _ _ ⟨_, _, ⟨_, _, _, _, h, _⟩, _⟩ => absurd h (not_revoking hcalls),
    fun _ _ _ ⟨_, _, _, _, h, _⟩ => not_revoking hcalls h,
    fun _ _ _ _ _ _ _ _ _ ⟨_, _, _, _, h, _⟩ => not_revoking hcalls h,
    fun _ _ _ _ _ _ _ _ _ _ ⟨_, _, _, _, h, _⟩ => not_revoking hcalls h⟩

/-- The revoked session is looked up between its cancellation and the return. -/
def lookedUp : List (Nat × Move) :=
  [(1, .chore 0), (1, .lookup (sampleId '0')), (1, .chore 0), (1, .chore 0), (1, .complete 0)]

theorem revocation_linearizable_returned : ∃ w u v L M N, exec step (new sampleLimits)
        [(0, .issue samplePrincipal .browser (sampleId '0') 7)] = some u ∧
      u.step (1, .revoke 0 sampleScope samplePair []) = some v ∧ exec step v lookedUp = some w ∧
      Ledger.Explains (new sampleLimits)
        [(0, .issue samplePrincipal .browser (sampleId '0') 7)] .empty L ∧
      Ledger.Revokes 1 sampleScope L M ∧ Ledger.Explains v lookedUp M N := by
  have hrun : (exec step (new sampleLimits)
      ([(0, .issue samplePrincipal .browser (sampleId '0') 7)] ++
        (1, .revoke 0 sampleScope samplePair []) :: lookedUp)).isSome = true := by
    decide +kernel
  obtain ⟨w, hw⟩ := Option.isSome_iff_exists.1 hrun
  have hsilent : ∀ {m : Nat × Move}, (∀ w : World, w.observe m.1 m.2 = none) → ∀ w, Heeds w m :=
    fun h w => heeds_of_silent (h w)
  refine ⟨w, revocation_linearizable sampleLimits
    [(0, .issue samplePrincipal .browser (sampleId '0') 7)] lookedUp 1 0 sampleScope samplePair [] w
    (by decide) (by decide) ⟨heeds_of_idle rfl, fun t ht => ⟨hsilent (fun _ => rfl) t, fun u hu =>
      ⟨hsilent (fun _ => rfl) u, fun v hv => ⟨heeds_lookup fun r => ?_,
        fun x _ => ?_⟩⟩⟩⟩ hw⟩
  · -- the session's cancellation is no chore any more
    have hchores : (exec step (new sampleLimits)
        [(0, .issue samplePrincipal .browser (sampleId '0') 7),
          (1, .revoke 0 sampleScope samplePair []), (1, .chore 0)]).all (fun v =>
        v.calls.entries.all fun e => decide (e.2.chores = [.close 0, .drained 0])) = true := by
      decide +kernel
    rw [exec_cons_eq_some.2 ⟨t, ht, exec_cons_eq_some.2 ⟨u, hu, exec_cons_eq_some.2 ⟨v, hv, rfl⟩⟩⟩,
      all_some, List.all_eq_true] at hchores
    rintro ⟨scope, chosen, handles, chores, ⟨call, hcall⟩, -, hcancel⟩
    have heq : chores = _ := of_decide_eq_true (hchores _ (AList.mem_lookup_iff.1 hcall))
    rw [heq] at hcancel
    simp at hcancel
  · refine (Along.of_forall (P := fun m => ∀ w : World, w.observe m.1 m.2 = none) ?_ x).mono
      fun w _ h => heeds_of_silent (h w)
    simp [observe]

/-- An extension is bound between the selection and the cancellation of its principal's one session,
and resolves when the revocation has returned: a session issued meanwhile kept it. -/
theorem doomed_binding_resolves :
    ∃ ms bs x y z chosen chores, exec step (new sampleLimits) ms = some x ∧
      x.calls.lookup 0 = some (.revocation sampleScope chosen [] chores) ∧
      (∀ i r, x.state.sessions.lookup i = some r → (i, r) ∈ chosen) ∧
      x.step (0, sampleBind) = some y ∧
      exec step y (bs ++ [(0, .complete 0)]) = some z ∧
      (z.state.resolveExtensionBinding sampleToken 0).2.isSome = true := by
  let ms : List (Nat × Move) := [(0, .issue samplePrincipal .browser (sampleId '0') 7),
    (0, .revoke 0 sampleScope samplePair [])]
  let bs : List (Nat × Move) := [(0, .issue samplePrincipal .browser (sampleId '1') 8),
    (0, .chore 0), (0, .chore 0), (0, .chore 0)]
  have hrun : (exec step (new sampleLimits) ms).any (fun x =>
      decide (x.calls.lookup 0 = some (.revocation sampleScope samplePair []
        (revocationChores samplePair []))) &&
      x.state.sessions.entries.all (fun e => decide ((e.1, e.2) ∈ samplePair)) &&
      (x.step (0, sampleBind)).any fun y => (exec step y (bs ++ [(0, .complete 0)])).any fun z =>
        (z.state.resolveExtensionBinding sampleToken 0).2.isSome) = true := by decide +kernel
  obtain ⟨x, hx, hends⟩ := (any_eq_true _ _).1 hrun
  simp only [Bool.and_eq_true, decide_eq_true_iff, List.all_eq_true] at hends
  obtain ⟨y, hy, hlast⟩ := (any_eq_true _ _).1 hends.2
  obtain ⟨z, hz, hresolves⟩ := (any_eq_true _ _).1 hlast
  exact ⟨ms, bs, x, y, z, samplePair, _, hx, hends.1.1,
    fun i r hr => hends.1.2 ⟨i, r⟩ (AList.mem_lookup_iff.1 hr), hy, hz, hresolves⟩

end World

end Chan.Proxy
