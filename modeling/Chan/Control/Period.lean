import Chan.Control.Readiness

namespace Chan.Control
open Utf AssocMap Function Transition List

def Effect.frameTo (k : SessionKey) : Effect → Option ServerFrame
  | .send k' frame _ => if k' = k then some frame else none
  | _ => none

def framesTo (k : SessionKey) (log : List Effect) : List ServerFrame :=
  log.filterMap (Effect.frameTo k)

def ServerFrame.extend (period : List ServerFrame) : ServerFrame → List ServerFrame
  | .resyncRequired _ => []
  | frame => period ++ [frame]

def period (frames : List ServerFrame) : List ServerFrame := frames.foldl ServerFrame.extend []

/-- When a frame may be sent: one `FleetReady` in a period, after the snapshot is accepted, and no
admission before it. -/
def Permitted (frames : List ServerFrame) : ServerFrame → Prop
  | .fleetReady => .fleetReady ∉ period frames ∧ ∃ g, .snapshotAccepted g ∈ period frames
  | .admissionDecision _ _ .admits => .fleetReady ∈ period frames
  | _ => True

def ServerFrame.Plain : ServerFrame → Prop
  | .snapshotAccepted _ | .fleetReady | .resyncRequired _ | .admissionDecision _ _ .admits => False
  | _ => True

lemma ServerFrame.Plain.permitted (h : ServerFrame.Plain f) :
    Permitted frames f := by
  unfold Permitted
  split
  · exact h.elim
  · exact h.elim
  · trivial

lemma framesTo_append (k : SessionKey) (log es : List Effect) :
    framesTo k (log ++ es) = framesTo k log ++ framesTo k es := filterMap_append ..

lemma framesTo_send (k : SessionKey) (frame : ServerFrame) (a : Option ProxySession) :
    framesTo k [.send k frame a] = [frame] := by
  simp [framesTo, Effect.frameTo]

lemma framesTo_other (h : k' ≠ k) (frame : ServerFrame) (a : Option ProxySession) :
    framesTo k [.send k' frame a] = [] := by
  simp [framesTo, Effect.frameTo, if_neg h]

lemma plain_framesTo (h : ∀ e ∈ es, Effect.Plain e) : ∀ f ∈ framesTo k es, f.Plain := by
  intro f hf
  obtain ⟨e, he, hframe⟩ := List.mem_filterMap.1 hf
  have hplain := h e he
  cases e with
  | send k' frame a =>
    by_cases hk : k' = k
    · rw [Effect.frameTo, if_pos hk] at hframe
      cases hframe
      unfold ServerFrame.Plain
      split <;> first | exact hplain | trivial
    · rw [Effect.frameTo, if_neg hk] at hframe
      cases hframe
  | retire | commandSettled => cases hframe

lemma plain_framesTo_send (h : ServerFrame.Plain frame) :
    ∀ f ∈ framesTo k [.send k' frame a], f.Plain := by
  intro f hf
  by_cases hk : k' = k
  · rw [hk, framesTo_send] at hf
    exact List.mem_singleton.1 hf ▸ h
  · rw [framesTo_other hk] at hf
    cases hf

lemma period_concat (frames : List ServerFrame) (frame : ServerFrame) :
    period (frames ++ [frame]) = frame.extend (period frames) := by
  rw [period, foldl_append]
  rfl

lemma period_append_plain (frames : List ServerFrame) (h : ∀ f ∈ gs, ServerFrame.Plain f) :
    period (frames ++ gs) = period frames ++ gs := by
  induction gs generalizing frames with
  | nil => rw [append_nil, append_nil]
  | cons g gs ih =>
    have hg : g.extend (period frames) = period frames ++ [g] := by
      unfold ServerFrame.extend
      split
      · exact (h _ mem_cons_self).elim
      · rfl
    rw [append_cons, ih _ fun f hf => h f (mem_cons_of_mem _ hf), period_concat, hg,
      ← append_cons]

lemma mem_extend_of_ne {f : ServerFrame} (hready : f ≠ .fleetReady)
    (hresync : ∀ g, f ≠ .resyncRequired g) :
    .fleetReady ∈ f.extend frames ↔ .fleetReady ∈ frames := by
  have hextend : f.extend frames = frames ++ [f] := by
    unfold ServerFrame.extend
    split
    · exact absurd rfl (hresync _)
    · rfl
  rw [hextend, mem_append, mem_singleton, or_iff_left fun h => hready h.symm]

structure Told (c : Core) (k : SessionKey) (frames : List ServerFrame) : Prop where
  guarded : Trace.Guarded Permitted frames
  ready : ∀ x, c.Current k x → (x.fleetReady = true ↔ .fleetReady ∈ period frames)
  known : ∀ x, c.Current k x → x.generation.isSome → ∃ g, .snapshotAccepted g ∈ period frames
  unopened : c.nextIncarnation ≤ k.incarnation → .fleetReady ∉ period frames

namespace Told

lemma stay (h : Told c k frames) (hplain : ∀ f ∈ gs, ServerFrame.Plain f)
    (hlive : ∀ y, c'.Current k y → ∃ x, c.Current k x ∧ y.fleetReady = x.fleetReady ∧
      (y.generation.isSome → x.generation.isSome))
    (hnext : c.nextIncarnation ≤ c'.nextIncarnation) : Told c' k (frames ++ gs) := by
  have hready : .fleetReady ∈ period (frames ++ gs) ↔ .fleetReady ∈ period frames := by
    rw [period_append_plain frames hplain, mem_append]
    exact or_iff_left fun hmem => hplain _ hmem
  refine ⟨h.guarded.append fun f hf xs => (hplain f hf).permitted, fun y hy => ?_,
    fun y hy hg => ?_, fun hle => hready.not.2 (h.unopened (hnext.trans hle))⟩
  · obtain ⟨x, hx, hf, _⟩ := hlive y hy
    rw [hready, hf]
    exact h.ready x hx
  · obtain ⟨x, hx, _, hg'⟩ := hlive y hy
    obtain ⟨g, hmem⟩ := h.known x hx (hg' hg)
    rw [period_append_plain frames hplain]
    exact ⟨g, mem_append_left _ hmem⟩

lemma congr (h : Told c k frames) (hlive : c'.live = c.live)
    (hnext : c'.nextIncarnation = c.nextIncarnation) : Told c' k frames :=
  ⟨h.guarded, fun x hx => h.ready x ⟨hlive ▸ hx.1, hx.2⟩,
    fun x hx => h.known x ⟨hlive ▸ hx.1, hx.2⟩, fun hle => h.unopened (hnext ▸ hle)⟩

lemma frame (h : Told c k frames) (hk : c.Current k x) (hlt : x.incarnation < c.nextIncarnation)
    (hf : Permitted frames f) (hcurrent : ∀ z, c'.Current k z → z = y)
    (hnext : c'.nextIncarnation = c.nextIncarnation)
    (hready : y.fleetReady = true ↔ .fleetReady ∈ f.extend (period frames))
    (hknown : y.generation.isSome → ∃ g, .snapshotAccepted g ∈ f.extend (period frames)) :
    Told c' k (frames ++ [f]) := by
  refine ⟨h.guarded.concat hf, fun z hz => ?_, fun z hz => ?_, fun hle => ?_⟩
  · rw [hcurrent z hz, period_concat]
    exact hready
  · rw [hcurrent z hz, period_concat]
    exact hknown
  · rw [hnext, ← hk.2] at hle
    exact absurd hlt (not_lt.2 hle)

end Told

lemma Core.Current.stay (hk : Current c k x) (hi : y.incarnation = x.incarnation)
    (hf : y.fleetReady = x.fleetReady) (hg : y.generation.isSome → x.generation.isSome) :
    ∀ z, (c.setLive k.proxyId y).Current k' z → ∃ x', c.Current k' x' ∧
      z.fleetReady = x'.fleetReady ∧ (z.generation.isSome → x'.generation.isSome) := by
  intro z hz
  rcases (hk.setLive hi).1 hz with ⟨rfl, rfl⟩ | ⟨_, hz⟩
  · exact ⟨x, hk, hf, hg⟩
  · exact ⟨z, hz, rfl, id⟩

lemma Core.Current.others (hk : Current c k x) (hi : y.incarnation = x.incarnation)
    (hne : k' ≠ k) : ∀ z, (c.setLive k.proxyId y).Current k' z → ∃ x', c.Current k' x' ∧
      z.fleetReady = x'.fleetReady ∧ (z.generation.isSome → x'.generation.isSome) := by
  intro z hz
  rcases (hk.setLive hi).1 hz with ⟨rfl, _⟩ | ⟨_, hz⟩
  · exact absurd rfl hne
  · exact ⟨z, hz, rfl, id⟩

lemma Core.Current.self (hk : Current c k x) (hi : y.incarnation = x.incarnation) :
    ∀ z, (c.setLive k.proxyId y).Current k z → z = y := by
  intro z hz
  rcases (hk.setLive hi).1 hz with ⟨_, rfl⟩ | ⟨hne, _⟩
  · rfl
  · exact absurd rfl hne

lemma framesTo_map_ready (ks : List SessionKey) (hnodup : ks.Nodup)
    (a : SessionKey → Option ProxySession) (k : SessionKey) :
    framesTo k (ks.map fun k => .send k .fleetReady (a k)) =
      if k ∈ ks then [.fleetReady] else [] := by
  induction ks with
  | nil => rfl
  | cons k' ks ih =>
    obtain ⟨hnot, hnodup⟩ := List.nodup_cons.1 hnodup
    have hcons : framesTo k ((k' :: ks).map fun k => Effect.send k .fleetReady (a k)) =
      framesTo k [.send k' .fleetReady (a k')] ++
        framesTo k (ks.map fun k => .send k .fleetReady (a k)) := framesTo_append k [_] _
    rw [hcons, ih hnodup]
    by_cases hk : k' = k
    · subst hk
      rw [framesTo_send, if_neg hnot, if_pos mem_cons_self, append_nil]
    · rw [framesTo_other hk, nil_append]
      simp [show k ≠ k' from fun h => hk h.symm]

lemma Told.converge {ks : List SessionKey} (h : Told c k frames) (hs : c.Sound sizes)
    (hks : ∀ k, k ∈ ks ↔ ∃ x, c.Current k x ∧ x.status = .active ∧ x.fleetReady = false) :
    Told { c with live := fun p => (c.live p).map Live.told } k
      (frames ++ if k ∈ ks then [.fleetReady] else []) := by
  have hback : ∀ {z}, { c with live := fun p => (c.live p).map Live.told }.Current k z →
      ∃ x, c.Current k x ∧ z = x.told := by
    rintro z ⟨hz, hi⟩
    obtain ⟨x, hx, rfl⟩ := Option.map_eq_some_iff.1 hz
    exact ⟨x, ⟨hx, x.told_incarnation.symm.trans hi⟩, rfl⟩
  by_cases hmem : k ∈ ks
  · obtain ⟨x, hx, hactive, hnot⟩ := (hks k).1 hmem
    have hproper := (hs.proper _ _ hx.1).1
    obtain ⟨g, hg⟩ := h.known x hx (hproper.known hactive)
    rw [if_pos hmem]
    refine h.frame (y := x.told) hx (hs.proper _ _ hx.1).2 ⟨?_, g, hg⟩ ?_ rfl ?_
      fun _ => ⟨g, mem_append_left _ hg⟩
    · rw [← h.ready x hx, hnot]
      exact Bool.false_ne_true
    · rintro z hz
      obtain ⟨x', hx', rfl⟩ := hback hz
      rw [hx.unique hx']
    · rw [Live.told, if_pos hactive]
      exact iff_of_true rfl (mem_append_right _ (List.mem_singleton.2 rfl))
  · rw [if_neg hmem]
    refine h.stay nofun (fun z hz => ?_) le_rfl
    obtain ⟨x, hx, rfl⟩ := hback hz
    refine ⟨x, hx, ?_, ?_⟩ <;> unfold Live.told <;> split
    · rename_i hactive
      exact (Bool.eq_true_of_not_eq_false fun hf => hmem ((hks k).2 ⟨x, hx, hactive, hf⟩)).symm
    · rfl
    · exact id
    · exact id

lemma Told.opened (h : Told c k frames) : Told { c.setLive p (.opened c.nextIncarnation boot) with
    nextIncarnation := c.nextIncarnation + 1 } k frames := by
  have hcases : ∀ y, (c.setLive p (.opened c.nextIncarnation boot)).Current k y →
      (y = .opened c.nextIncarnation boot ∧ c.nextIncarnation ≤ k.incarnation) ∨
        c.Current k y := by
    rintro y ⟨hy, hi⟩
    rcases update_some_eq_some.1 hy with ⟨_, rfl⟩ | ⟨_, hy⟩
    · exact .inl ⟨rfl, Nat.le_of_eq hi⟩
    · exact .inr ⟨hy, hi⟩
  refine ⟨h.guarded, fun y hy => ?_, fun y hy hg => ?_, fun hle =>
    h.unopened (Nat.le_of_succ_le hle)⟩
  · rcases hcases y hy with ⟨rfl, hle⟩ | hy
    · exact iff_of_false Bool.false_ne_true (h.unopened hle)
    · exact h.ready y hy
  · rcases hcases y hy with ⟨rfl, _⟩ | hy
    · cases hg
    · exact h.known y hy hg

lemma Told.send (h : Told c k frames) (hs : c.Sound sizes)
    (hk : c.Current k₀ x) (hlive : c'.live = (c.setLive k₀.proxyId y).live)
    (hi : y.incarnation = x.incarnation) (hnext : c'.nextIncarnation = c.nextIncarnation)
    (hf : k = k₀ → Permitted frames f)
    (hready : k = k₀ → (y.fleetReady = true ↔ .fleetReady ∈ f.extend (period frames)))
    (hknown : k = k₀ → y.generation.isSome →
      ∃ g, .snapshotAccepted g ∈ f.extend (period frames)) :
    Told c' k (frames ++ framesTo k [.send k₀ f a]) := by
  have hcurrent : ∀ z, c'.Current k z → (c.setLive k₀.proxyId y).Current k z := by
    rintro z ⟨hz, hi⟩
    exact ⟨hlive ▸ hz, hi⟩
  by_cases heq : k = k₀
  · subst heq
    rw [framesTo_send]
    exact h.frame hk (hs.proper _ _ hk.1).2 (hf rfl)
      (fun z hz => hk.self hi z (hcurrent z hz)) hnext
      (hready rfl) (hknown rfl)
  · rw [framesTo_other fun h => heq h.symm]
    exact h.stay nofun (fun z hz => hk.others hi heq z (hcurrent z hz)) (Nat.le_of_eq hnext.symm)

lemma Core.setLive_self_live (hk : Current c k x) : c.live = (c.setLive k.proxyId x).live :=
  (update_eq_self_iff.2 hk.1.symm).symm

lemma Move.told (h : Move sizes l kept c es c') (hs : c.Sound sizes)
    (ht : Told c k (framesTo k log)) : Told c' k (framesTo k (log ++ es)) := by
  rw [framesTo_append]
  have hsame : ∀ y, c.Current k y → ∃ x, c.Current k x ∧ y.fleetReady = x.fleetReady ∧
    (y.generation.isSome → x.generation.isSome) := fun y hy => ⟨y, hy, rfl, id⟩
  cases h with
  | emit hes _ => exact ht.stay (plain_framesTo hes) hsame le_rfl
  | opened _ =>
    show Told _ k (framesTo k log ++ [])
    rw [append_nil]
    exact ht.opened
  | snapshot hk _ _ _ _ _ _ =>
    refine ht.send hs hk rfl rfl rfl (fun _ => trivial) (fun heq => ?_)
      fun _ _ => ⟨_, mem_append_right _ (List.mem_singleton.2 rfl)⟩
    subst heq
    exact (ht.ready _ hk).trans (mem_extend_of_ne (f := .snapshotAccepted _) nofun nofun).symm
  | resync hk _ _ _ _ =>
    refine ht.send hs hk rfl rfl rfl (fun _ => trivial) (fun _ => ?_) fun _ hg => ?_
    · exact iff_of_false Bool.false_ne_true (not_mem_nil)
    · cases hg
  | join hk hx hold _ _ _ _ =>
    refine ht.send hs hk rfl rfl rfl (fun heq => ⟨?_, ht.known _ (heq ▸ hk) hx⟩)
      (fun _ => iff_of_true rfl (mem_append_right _ (List.mem_singleton.2 rfl)))
      fun heq _ => ?_
    · rw [← ht.ready _ (heq ▸ hk), hold]
      exact Bool.false_ne_true
    · obtain ⟨g, hg⟩ := ht.known _ (heq ▸ hk) hx
      exact ⟨g, mem_append_left _ hg⟩
  | claim _ _ hk hx _ _ hes =>
    rw [framesTo_append, ← append_assoc]
    have ht' := ht.stay (plain_framesTo (k := k) hes) hsame le_rfl
    refine (ht'.send hs hk (Core.setLive_self_live hk) rfl rfl (fun heq => ?_) (fun heq => ?_)
      fun heq hg => ?_).congr rfl rfl <;> subst heq
    · exact (ht'.ready _ hk).1 hx
    · exact (ht'.ready _ hk).trans
        (mem_extend_of_ne (f := .admissionDecision _ _ .admits) nofun nofun).symm
    · obtain ⟨g, hmem⟩ := ht'.known _ hk hg
      exact ⟨g, mem_append_left _ hmem⟩
  | @converge _ _ _ ks a _ _ _ _ hks hnodup _ =>
    rw [framesTo_map_ready ks hnodup]
    exact (ht.converge hs hks).congr rfl rfl
  | lose hk _ _ _ _ _ _ _ _ =>
    refine ht.stay nofun (fun y hy => ⟨y, ⟨(update_none_eq_some.1 hy.1).2, hy.2⟩, rfl, id⟩) le_rfl
  | kill | revoke => exact ht.stay (plain_framesTo_send trivial) hsame le_rfl
  | settleCommand _ =>
    refine ht.stay (fun f hf => ?_) hsame le_rfl
    split at hf <;> cases hf
  | settleRevocation _ => exact ht.stay (fun f hf => nomatch hf) hsame le_rfl
  | shrink | release | releaseLast | unready | expireOrphan | expireMarkers =>
    exact ht.stay nofun hsame le_rfl
  | advance hk hx _ _ => exact ht.stay nofun (hk.stay rfl rfl fun _ => hx) le_rfl
  | remember hk | forget hk | publish hk | dropRow hk | renewRow hk | browserUp hk
  | browserDown hk | activate hk => exact ht.stay nofun (hk.stay rfl rfl id) le_rfl

lemma Move.attended (h : Move sizes l kept c es c') (he : .send k .fleetReady a ∈ es) :
    Attended k a := by
  cases h with
  | emit hes _ => exact (hes _ he).elim
  | join _ _ _ _ _ _ ha =>
    cases List.mem_singleton.1 he
    exact ha
  | converge _ _ _ _ _ _ ha =>
    obtain ⟨k', hk', heq⟩ := List.mem_map.1 he
    obtain ⟨rfl, -, rfl⟩ := Effect.send.inj heq
    exact ha k' hk'
  | claim _ _ _ _ _ _ hes =>
    rcases List.mem_append.1 he with he | he
    · exact (hes _ he).elim
    · cases List.mem_singleton.1 he
  | settleCommand _ =>
    split at he
    · cases List.mem_singleton.1 he
    · cases he
  | snapshot | kill | revoke | settleRevocation | resync => cases List.mem_singleton.1 he
  | _ => cases he

namespace Controller

variable {sizes : Sizes}

lemma told_new : Told (ControllerState.new limit).core k [] :=
  ⟨.nil _, fun _ hx => (nomatch hx.1), fun _ hx => (nomatch hx.1), fun _ h => nomatch h⟩

/-- In each period a session is told once at most that the fleet is ready, when its snapshot has
been accepted and it is active, and it is admitted only afterwards. -/
theorem fleet_ready_discipline (he : exec (step sizes) (new limit) ls = some c) (k : SessionKey) :
    (∀ before frame after, framesTo k c.log = before ++ frame :: after →
      (frame = .fleetReady →
        .fleetReady ∉ period before ∧ ∃ g, .snapshotAccepted g ∈ period before) ∧
      ∀ requestId registrationId, frame = .admissionDecision requestId registrationId .admits →
        .fleetReady ∈ period before) ∧
    ∀ addressee, .send k .fleetReady addressee ∈ c.log → ∃ p, addressee = some p ∧
      p.incarnation = k.incarnation ∧ p.status = .active ∧ p.generation.isSome := by
  have htold : Told c.state.core k (framesTo k c.log) :=
    exec_moves (I := fun c log => Told c k (framesTo k log)) (fun hm hs ht => hm.told hs ht)
      (ControllerState.valid_new) told_new he
  refine ⟨fun before frame after heq => ⟨?_, ?_⟩, fun a ha => ?_⟩
  · rintro rfl
    exact htold.guarded before _ after heq
  · rintro requestId registrationId rfl
    exact htold.guarded before _ after heq
  · refine exec_moves (I := fun _ log => ∀ a, .send k .fleetReady a ∈ log → Attended k a) ?_
      (ControllerState.valid_new) (fun _ h => (not_mem_nil h).elim) he a ha
    intro l kept c es c' log hm _ hI a ha
    exact (List.mem_append.1 ha).elim (hI a) hm.attended

theorem converging_told_once : ∃ c, exec (step .unit) (new 3) converging = some c ∧
    framesTo ⟨['a'], 1⟩ c.log = [.snapshotAccepted 0, .ping 1, .fleetReady] ∧
    .fleetReady ∉ period [.snapshotAccepted 0, .ping 1] := by
  have hrun : (exec (step .unit) (new 3) converging).any (fun c => decide
      (framesTo ⟨['a'], 1⟩ c.log = [.snapshotAccepted 0, .ping 1, .fleetReady])) = true := by
    decide +kernel
  obtain ⟨c, he, hframes⟩ := (Option.any_eq_true _ _).1 hrun
  have hframes := of_decide_eq_true hframes
  exact ⟨c, he, hframes,
    (((fleet_ready_discipline he _).1 [.snapshotAccepted 0, .ping 1] _ [] hframes).1 rfl).1⟩

end Controller

end Chan.Control
