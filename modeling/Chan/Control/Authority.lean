import Chan.Control.Readiness

namespace Chan.Control
open Utf AssocMap Function Transition Option ControllerState

variable {s : ControllerState}

namespace Core

def tenure (c : Core) (p : ProxyId) : Option (Nat × Uuid) :=
  (c.live p).map fun x => (x.incarnation, x.bootId)

lemma tenure_setLive (hk : Current c k x) (hi : y.incarnation = x.incarnation)
    (hb : y.bootId = x.bootId) : (c.setLive k.proxyId y).tenure = c.tenure := by
  funext p
  by_cases hp : p = k.proxyId
  · rw [tenure, tenure, hp, setLive_self, hk.1]
    simp [hi, hb]
  · rw [tenure, tenure, setLive_ne c y hp]

lemma tenure_told (c : Core) :
    { c with live := fun p => (c.live p).map Live.told }.tenure = c.tenure := by
  funext p
  show ((c.live p).map Live.told).map _ = (c.live p).map _
  rw [map_map]
  congr 1
  funext x
  simp only [comp_apply, Live.told]
  split <;> rfl

lemma Current.tenure (hk : Current c k x) :
    c.tenure k.proxyId = some (k.incarnation, x.bootId) := by
  rw [Core.tenure, hk.1, map_some, hk.2]

lemma lost_iff {c : Core} : c.Lost k ↔ k.incarnation < c.nextIncarnation ∧
    ∀ boot, c.tenure k.proxyId ≠ some (k.incarnation, boot) := by
  refine and_congr_right fun _ => ⟨fun h boot ht => ?_, fun h x hx => h _ hx.tenure⟩
  obtain ⟨x, hx, heq⟩ := Option.map_eq_some_iff.1 ht
  exact h x ⟨hx, congrArg Prod.fst heq⟩

end Core

/-- What a move makes of the sessions: each proxy keeps its own, a proxy without one opens one, or
one is lost. -/
inductive Turnover (l : ControllerLabel) (c c' : Core) : Prop
  | stay (htenure : c'.tenure = c.tenure) (hnext : c'.nextIncarnation = c.nextIncarnation)
      (hmarkers : ∀ a d, c.markers a = some d → l.now < d →
        c'.markers a = some d ∨ ∃ i, c.tenure a.1 = some (i, a.2))
  | opened (p : ProxyId) (boot : Uuid) (hp : c.tenure p = none)
      (htenure : c'.tenure = update c.tenure p (some (c.nextIncarnation, boot)))
      (hnext : c'.nextIncarnation = c.nextIncarnation + 1) (hmarkers : c'.markers = c.markers)
  | lost (p : ProxyId) (i : Nat) (boot : Uuid) (d : Instant) (hp : c.tenure p = some (i, boot))
      (htenure : c'.tenure = update c.tenure p none)
      (hnext : c'.nextIncarnation = c.nextIncarnation)
      (hmarkers : c'.markers = update c.markers (p, boot) (some d))
      (hd : l.now + disconnectedAuthorityRetention ≤ d)

lemma Move.turnover (h : Move sizes l kept c es c') : Turnover l c c' := by
  cases h with
  | opened hp =>
    rename_i p boot
    refine .opened p boot (by rw [Core.tenure, hp, map_none]) ?_ rfl rfl
    funext q
    show (update c.live _ _ q).map _ = _
    rw [update_apply, update_apply]
    split <;> rfl
  | lose hk _ hmarker hd _ _ _ _ _ =>
    refine .lost _ _ _ _ hk.tenure ?_ rfl hmarker hd
    funext q
    show (update c.live _ _ q).map _ = _
    rw [update_apply, update_apply]
    split <;> rfl
  | converge _ _ _ _ _ _ _ => exact .stay c.tenure_told rfl fun _ _ h _ => .inl h
  | emit | shrink | claim | kill | release | releaseLast | settleCommand | revoke
  | settleRevocation | unready | expireOrphan => exact .stay rfl rfl fun _ _ h _ => .inl h
  | expireMarkers =>
    exact .stay rfl rfl fun _ _ h hd =>
      .inl (Option.filter_eq_some_iff.2 ⟨h, decide_eq_true hd⟩)
  | snapshot hk | advance hk | remember hk | forget hk | publish hk | dropRow hk | renewRow hk
  | browserUp hk | browserDown hk | resync hk | activate hk =>
    exact .stay (Core.tenure_setLive hk rfl rfl) rfl fun _ _ h _ => .inl h
  | @join _ k _ _ _ x hk _ _ _ _ _ _ =>
    refine .stay (Core.tenure_setLive hk rfl rfl) rfl fun a d h _ => ?_
    by_cases ha : a = (k.proxyId, x.bootId)
    · exact .inr ⟨k.incarnation, ha ▸ hk.tenure⟩
    · exact .inl ((update_of_ne ha ..).trans h)

lemma Move.lost (h : Move sizes l kept c es c') (hl : c.Lost k) : c'.Lost k := by
  rw [Core.lost_iff] at hl ⊢
  rcases h.turnover with ⟨htenure, hnext, _⟩ | ⟨p, boot, _, htenure, hnext, _⟩ |
    ⟨p, _, _, _, _, htenure, hnext, _, _⟩
  · rw [htenure, hnext]
    exact hl
  · refine ⟨by omega, fun boot' ht => ?_⟩
    rw [htenure] at ht
    rcases update_some_eq_some.1 ht with ⟨_, heq⟩ | ⟨_, ht⟩
    · have hi := congrArg Prod.fst heq
      omega
    · exact hl.2 boot' ht
  · refine ⟨by omega, fun boot' ht => ?_⟩
    rw [htenure] at ht
    exact hl.2 boot' (update_none_eq_some.1 ht).2

structure Retains (kept : Prop) (c c' : Core) (k : SessionKey) : Prop where
  usage : (c'.usage k).isSome → (c.usage k).isSome ∨ ∃ x, c.Current k x
  browserUsage : (c'.browserUsage k).isSome → (c.browserUsage k).isSome ∨ ∃ x, c.Current k x
  deadline : (c'.deadlines k).isSome → (c.deadlines k).isSome ∨ c'.Lost k
  covered : kept → ((c.browserUsage k).isSome → (c.deadlines k).isSome) →
    (c'.browserUsage k).isSome → (c'.deadlines k).isSome

lemma Retains.same (husage : c'.usage = c.usage) (hbrowser : c'.browserUsage = c.browserUsage)
    (hdeadlines : c'.deadlines = c.deadlines) : Retains kept c c' k :=
  ⟨fun h => .inl (husage ▸ h), fun h => .inl (hbrowser ▸ h), fun h => .inl (hdeadlines ▸ h),
    fun _ h hb => hdeadlines ▸ h (hbrowser ▸ hb)⟩

lemma Move.retains (h : Move sizes l kept c es c') (hs : c.Sound sizes) (k : SessionKey) :
    Retains kept c c' k := by
  cases h with
  | release _ _ hu _ =>
    refine ⟨fun h => .inl ?_, .inl, .inl, fun _ h => h⟩
    rcases isSome_update_some.1 h with rfl | h
    · exact Option.isSome_iff_exists.2 ⟨_, hu⟩
    · exact h
  | releaseLast _ _ _ _ hkept =>
    refine ⟨fun h => .inl (isSome_update_none.1 h).2, .inl,
      fun h => .inl (isSome_update_none.1 h).2,
      fun hk h hb => isSome_update_none.2 ⟨fun heq => ?_, h hb⟩⟩
    subst heq
    rw [show c.browserUsage _ = none from hkept hk] at hb
    cases hb
  | @lose _ _ _ usage browserUsage _ _ x k₀ hk hdeadline _ _ _ husage hbrowser _ _ =>
    have hlost := hk.lost_dropLive (hs.proper _ _ hk.1).2
    refine ⟨fun h => ?_, fun h => ?_, fun h => ?_, fun _ h hb => ?_⟩
    · rcases husage with ⟨rfl, _⟩ | ⟨rows, rfl, _⟩
      · exact .inl h
      · rcases isSome_update_some.1 h with rfl | h
        · exact .inr ⟨x, hk⟩
        · exact .inl h
    · rcases hbrowser with ⟨rfl, _⟩ | ⟨u, rfl, _⟩
      · exact .inl h
      · rcases isSome_update_some.1 h with rfl | h
        · exact .inr ⟨x, hk⟩
        · exact .inl h
    · by_cases heq : k = k₀
      · exact .inr (heq ▸ hlost)
      · exact .inl (hdeadline k heq ▸ h)
    · have hother : k ≠ k₀ → (c.browserUsage k).isSome → _ := fun hne hb =>
        (congrArg Option.isSome (hdeadline k hne)).trans (h hb)
      rcases hbrowser with ⟨rfl, _⟩ | ⟨u, rfl, hsome⟩
      · exact hother (fun heq => hk.not_lost (heq ▸ hs.browserUsage k hb)) hb
      · by_cases heq : k = k₀
        · exact heq ▸ hsome
        · exact hother heq ((isSome_update_some.1 hb).resolve_left heq)
  | @join _ k₀ _ _ _ _ _ _ _ _ _ _ _ =>
    have hstay : ∀ {β} {f : SessionKey → Option β},
        (if k.proxyId = k₀.proxyId then none else f k).isSome →
        k.proxyId ≠ k₀.proxyId ∧ (f k).isSome := by
      intro β f h
      split at h
      · cases h
      · exact ⟨‹_›, h⟩
    refine ⟨fun h => .inl (hstay h).2, fun h => .inl (hstay h).2, fun h => .inl (hstay h).2,
      fun _ h hb => ?_⟩
    obtain ⟨hp, hb⟩ := hstay hb
    exact (congrArg Option.isSome (if_neg hp)).trans (h hb)
  | expireOrphan =>
    refine ⟨fun h => .inl (isSome_update_none.1 h).2, fun h => .inl (isSome_update_none.1 h).2,
      fun h => .inl (isSome_update_none.1 h).2, fun _ h hb => ?_⟩
    obtain ⟨hne, hb⟩ := isSome_update_none.1 hb
    exact isSome_update_none.2 ⟨hne, h hb⟩
  | _ => exact .same rfl rfl rfl

structure Core.Gone (c : Core) (k : SessionKey) : Prop where
  lost : c.Lost k
  usage : c.usage k = none
  browserUsage : c.browserUsage k = none

lemma Move.gone (h : Move sizes l kept c es c') (hs : c.Sound sizes) (hk : c.Gone k) :
    c'.Gone k := by
  obtain ⟨hlost, husage, hbrowser⟩ := hk
  have hr := h.retains hs k
  refine ⟨h.lost hlost, Option.not_isSome_iff_eq_none.1 fun hu => ?_,
    Option.not_isSome_iff_eq_none.1 fun hu => ?_⟩
  · rcases hr.usage hu with hu | ⟨x, hx⟩
    · rw [husage] at hu
      cases hu
    · exact hx.not_lost hlost
  · rcases hr.browserUsage hu with hu | ⟨x, hx⟩
    · rw [hbrowser] at hu
      cases hu
    · exact hx.not_lost hlost

lemma Core.Gone.unpublished (h : Gone c k) (hs : c.Sound sizes) :
    (∀ K o, c.tunnels K = some o → o.session ≠ k) ∧
      ∀ i o, c.browserSessions i = some o → o.session ≠ k := by
  refine ⟨fun K o ho heq => ?_, fun i o ho heq => ?_⟩ <;> subst heq
  · rcases hs.owned K o ho with ⟨x, hx, _⟩ | ⟨_, hu⟩
    · exact hx.not_lost h.lost
    · rw [h.usage] at hu
      cases hu
  · rcases hs.browser i o ho with ⟨x, hx, _⟩ | ⟨_, hu⟩
    · exact hx.not_lost h.lost
    · rw [h.browserUsage] at hu
      cases hu

def Core.Timed (c : Core) : Prop := ∀ k, (c.deadlines k).isSome → c.Lost k

lemma Move.timed (h : Move sizes l kept c es c') (hs : c.Sound sizes) (ht : c.Timed) :
    c'.Timed := fun k hd => ((h.retains hs k).deadline hd).elim (fun hd => h.lost (ht k hd)) id

namespace Controller

variable {sizes : Sizes}

lemma timed_new : (ControllerState.new limit).core.Timed := fun _ h => nomatch h

lemma timed_exec (he : exec (step sizes) (new limit) ls = some c) : c.state.core.Timed :=
  exec_moves (I := fun c _ => c.Timed) (fun h hs ht => h.timed hs ht)
    (valid_new) timed_new he

lemma gone_tick {l : ControllerLabel} (h : s.Valid sizes)
    (ht : s.core.Timed) (hop : l.op = .tick) (hd : s.orphanDeadlines.lookup k = some d)
    (hle : d ≤ l.now) :
    (s.tick sizes l.now l.wallNow).1.core.Gone k := by
  obtain ⟨_, husage, hbrowser, _⟩ := s.expireDeadlines_spec
  have hexpired : ControllerState.Settles sizes l False s (s.expireDeadlines l.now, []) :=
    s.serves_expireDeadlines h.settled
  obtain ⟨hmoves, hindexed⟩ := hexpired.runs h.sound h.indexed
  have hsound := hmoves.sound h.sound
  have hlost : (s.expireDeadlines l.now).core.Lost k :=
    hmoves.keeps (I := fun c => c.Lost k) Move.lost
      (ht k (Option.isSome_iff_exists.2 ⟨d, hd⟩))
  have hgone : (s.expireDeadlines l.now).core.Gone k := by
    refine ⟨hlost, Option.eq_none_iff_forall_ne_some.2 fun u hu => ?_,
      Option.eq_none_iff_forall_ne_some.2 fun u hu => ?_⟩
    · exact absurd ((husage k u hu).2 d hd) (Nat.not_lt.2 hle)
    · exact absurd ((hbrowser k u hu).2 d hd) (Nat.not_lt.2 hle)
  have hrest : Moves sizes l False _ _ _ :=
    ((serves_tick_expired hop False.elim hexpired.settled).runs hsound hindexed).1
  exact (hrest.keeps (I := fun c => c.Sound sizes ∧ c.Gone k)
    (fun hm hI => ⟨hm.sound hI.1, hm.gone hI.1 hI.2⟩) ⟨hsound, hgone⟩).2

lemma covered_along (h : Along (step sizes) (fun c l => c.state.Spared l) (new limit) ls)
    (he : exec (step sizes) (new limit) ls = some c)
    (hk : (c.state.browserOrphanUsage.lookup k).isSome) :
    (c.state.orphanDeadlines.lookup k).isSome :=
  along_moves (I := fun c _ => ∀ k, (c.browserUsage k).isSome → (c.deadlines k).isSome)
    (fun hC hm hs hI k => (hm.retains hs k).covered hC (hI k)) h (valid_new)
    (fun _ h => nomatch h) he k hk

lemma session_of_lost (h : s.core.Lost k) : s.session k = none :=
  Option.eq_none_iff_forall_ne_some.2 fun _ hp =>
    (current_of_session hp).1.not_lost h

lemma isSome_session_of_current (h : s.core.Current k x) :
    (s.session k).isSome := by
  obtain ⟨p, hp, _⟩ := session_of_current h
  exact Option.isSome_iff_exists.2 ⟨p, hp⟩

/-- Unless the timer takes the last counted row of a lost session that browser sessions are counted
for, what a lost session leaves is counted, has a deadline, and is gone after it. -/
theorem retained_until_deadline
    (h : Along (step sizes) (fun c l => c.state.Spared l) (new limit) ls)
    (he : exec (step sizes) (new limit) ls = some c) :
    (∀ k, (c.state.orphanUsage.lookup k).isSome ∨ (c.state.browserOrphanUsage.lookup k).isSome →
      (c.state.orphanDeadlines.lookup k).isSome) ∧
    (∀ K o, c.state.tunnels.lookup K = some o →
      (c.state.session o.session).isSome ∨ (c.state.orphanDeadlines.lookup o.session).isSome) ∧
    (∀ i o, c.state.browserSessions.lookup i = some o →
      (c.state.session o.session).isSome ∨ (c.state.orphanDeadlines.lookup o.session).isSome) ∧
    c.state.orphanTotal = ControllerState.usageSum c.state.orphanUsage ∧
    c.state.browserOrphanTotal = ControllerState.usageSum c.state.browserOrphanUsage ∧
    ∀ l c', l.op = .tick → step sizes c l = some c' → ∀ k d,
      c.state.orphanDeadlines.lookup k = some d → d ≤ l.now →
      (∀ K o, c'.state.tunnels.lookup K = some o → o.session ≠ k) ∧
      (∀ i o, c'.state.browserSessions.lookup i = some o → o.session ≠ k) ∧
      c'.state.orphanUsage.lookup k = none ∧ c'.state.browserOrphanUsage.lookup k = none := by
  have hvalid := valid_exec he
  have husage : ∀ k, (c.state.orphanUsage.lookup k).isSome →
      (c.state.orphanDeadlines.lookup k).isSome := fun k hu =>
    (hvalid.sound.usage k _ (get_mem hu)).2.1
  refine ⟨fun k hk => hk.elim (husage k) (covered_along h he), fun K o ho => ?_, fun i o ho => ?_,
    hvalid.indexed.2.1, hvalid.indexed.2.2, fun l c' hop hstep k d hd hle => ?_⟩
  · rcases hvalid.sound.owned K o ho with ⟨x, hx, _⟩ | ⟨_, hu⟩
    · exact .inl (isSome_session_of_current hx)
    · exact .inr (husage _ hu)
  · rcases hvalid.sound.browser i o ho with ⟨x, hx, _⟩ | ⟨_, hu⟩
    · exact .inl (isSome_session_of_current hx)
    · exact .inr (covered_along h he hu)
  · have hvalid' := valid_step hvalid hstep
    have hgone : c'.state.core.Gone k := by
      rw [(step_eq_some.1 hstep).1, call_tick hop]
      exact gone_tick hvalid (timed_exec he) hop hd hle
    obtain ⟨htunnels, hbrowser⟩ := hgone.unpublished hvalid'.sound
    exact ⟨htunnels, hbrowser, hgone.usage, hgone.browserUsage⟩

lemma spared_of_nothing (h : s.orphanUsage.entries.isEmpty = true) :
    s.Spared l := by
  intro _ k u hu
  have hmem := AList.mem_lookup_iff.1 hu
  rw [List.isEmpty_iff.1 h] at hmem
  cases hmem

def leaving : List ControllerLabel := converging ++ [.second 31 (.disconnect ['a'] 1)]

theorem retained_until_deadline_leaving : ∃ c, exec (step .unit) (new 3) leaving = some c ∧
      (c.state.orphanUsage.lookup ⟨['a'], 1⟩).isSome ∧
      (c.state.orphanDeadlines.lookup ⟨['a'], 1⟩).isSome := by
  have hrun : (exec (step .unit) (new 3) leaving).any
      (fun c => (c.state.orphanUsage.lookup ⟨['a'], 1⟩).isSome) = true := by decide +kernel
  obtain ⟨c, he, hu⟩ := (any_eq_true _ _).1 hrun
  have hspared : Along (step .unit) (fun c _ => c.state.orphanUsage.entries.isEmpty = true) (new 3)
      leaving := by decide +kernel
  refine ⟨c, he, hu, (retained_until_deadline (hspared.mono ?_) he).1 _ (.inl hu)⟩
  exact fun _ _ => spared_of_nothing

/-- A proxy leaves a row and a browser session, and the lease of the row expires first. -/
def leaseFirst : List ControllerLabel :=
  [.second 0 (.beginSession ['a'] [] 7),
    .second 0 (.acceptSnapshot ['a'] 1 0 [{ TunnelRow.sample 1 with admissionLeaseExpiresAt := 40 }]
      [] [⟨9, 1, 1, [], 0, 1000⟩]),
    .second 29 (.recordActivity ['a'] 1), .second 30 .tick, .second 31 (.disconnect ['a'] 1),
    .second 40 .tick, .second 1000 .tick]

theorem browser_sessions_stranded : (leaseFirst.map ControllerLabel.now).Pairwise (· ≤ ·) ∧
    (exec (step .unit) (new 3) leaseFirst).map (fun c =>
      ((c.state.browserOrphanUsage.lookup ⟨['a'], 1⟩).isSome,
        (c.state.browserSessions.lookup 9).isSome,
        (c.state.orphanDeadlines.lookup ⟨['a'], 1⟩).isSome)) = some (true, true, false) := by
  decide +kernel

/-- Each published row stands under its own key, and is the row its active session holds, or one
that a lost session left and that has a deadline. -/
theorem tunnels_owned (he : exec (step sizes) (new limit) ls = some c) :
    (∀ K o, c.state.tunnels.lookup K = some o → o.row.key = K ∧
      ((∃ p, c.state.session o.session = some p ∧ p.status = .active ∧
          p.rows.lookup o.row.registrationId = some o.row) ∨
        c.state.session o.session = none ∧ (c.state.orphanDeadlines.lookup o.session).isSome)) ∧
    (∀ k p, c.state.session k = some p → p.status = .joining →
      ∀ K o, c.state.tunnels.lookup K = some o → o.session ≠ k) ∧
    ∀ k p, c.state.proxies.lookup k.proxyId = some p → p.incarnation ≠ k.incarnation →
      c.state.orphanDeadlines.lookup k = none →
      ∀ K o, c.state.tunnels.lookup K = some o → o.session ≠ k := by
  have hsound := (valid_exec he).sound
  have howned : ∀ K o, c.state.tunnels.lookup K = some o →
      (∃ p, c.state.session o.session = some p ∧ p.status = .active ∧
        p.rows.lookup o.row.registrationId = some o.row) ∨
      c.state.session o.session = none ∧ (c.state.orphanDeadlines.lookup o.session).isSome := by
    intro K o ho
    rcases hsound.owned K o ho with ⟨x, hx, hactive, hrow⟩ | ⟨hlost, hu⟩
    · obtain ⟨p, hp, rfl⟩ := session_of_current hx
      exact .inl ⟨p, hp, hactive, hrow⟩
    · exact .inr ⟨session_of_lost hlost, (hsound.usage _ _ (get_mem hu)).2.1⟩
  refine ⟨fun K o ho => ⟨hsound.key K o ho, howned K o ho⟩, fun k p hp hjoining K o ho heq => ?_,
    fun k p hp hi hd K o ho heq => ?_⟩ <;> subst heq
  · rcases howned K o ho with ⟨p', hp', hactive, _⟩ | ⟨hnone, _⟩
    · rw [hp] at hp'
      cases hp'
      cases hjoining.symm.trans hactive
    · cases hp.symm.trans hnone
  · rcases howned K o ho with ⟨p', hp', _⟩ | ⟨_, hsome⟩
    · obtain ⟨hp', hi'⟩ := Option.filter_eq_some_iff.1 hp'
      rw [hp] at hp'
      cases hp'
      exact hi (of_decide_eq_true hi')
    · rw [hd] at hsome
      cases hsome

theorem tunnels_owned_leaving : ∃ c, exec (step .unit) (new 3) leaving = some c ∧
    (c.state.tunnels.lookup (1, ['d'])).isSome ∧
    ∀ K o, c.state.tunnels.lookup K = some o → o.row.key = K := by
  have hrun : (exec (step .unit) (new 3) leaving).any
      (fun c => (c.state.tunnels.lookup (1, ['d'])).isSome) = true := by decide +kernel
  obtain ⟨c, he, hrow⟩ := (any_eq_true _ _).1 hrun
  exact ⟨c, he, hrow, fun K o ho => ((tunnels_owned he).1 K o ho).1⟩

/-- A proxy leaves and comes back: until it joins, the row its earlier session left is published. -/
theorem superseded_row_published :
    (exec (step .unit) (new 3) (leaving ++ [.second 32 (.beginSession ['a'] [] 7)])).map (fun c =>
      ((c.state.tunnels.lookup (1, ['d'])).map OwnedTunnel.session,
        (c.state.proxies.lookup ['a']).map ProxySession.incarnation)) =
      some (some ⟨['a'], 1⟩, some 2) := by decide +kernel

end Controller

def Core.Tracks (c : Core) (a : ProxyId × Uuid) (t : Instant) : Prop :=
  (∃ i, c.tenure a.1 = some (i, a.2)) ∨ ∃ d, c.markers a = some d ∧ t ≤ d

lemma Move.tracks (h : Move sizes l kept c es c') (hc : c.Tracks a t) (hlt : l.now < t)
    (hle : t ≤ l.now + disconnectedAuthorityRetention) : c'.Tracks a t := by
  rcases h.turnover with ⟨htenure, _, hmarkers⟩ | ⟨p, boot, hp, htenure, _, hmarkers⟩ |
    ⟨p, i, boot, d, hp, htenure, _, hmarkers, hd⟩
  · rw [Core.Tracks, htenure]
    rcases hc with hi | ⟨d, hd, htd⟩
    · exact .inl hi
    · exact (hmarkers a d hd (Nat.lt_of_lt_of_le hlt htd)).symm.imp_right fun hd => ⟨d, hd, htd⟩
  · rw [Core.Tracks, htenure, hmarkers]
    refine hc.imp_left fun ⟨i, hi⟩ => ⟨i, (update_of_ne (fun ha => ?_) ..).trans hi⟩
    rw [ha, hp] at hi
    cases hi
  · rw [Core.Tracks, htenure, hmarkers]
    by_cases ha : a = (p, boot)
    · exact .inr ⟨d, by rw [ha, update_self], Nat.le_trans hle hd⟩
    · rw [update_of_ne ha]
      refine hc.imp_left fun ⟨i', hi'⟩ => ⟨i', (update_of_ne (fun hap => ha ?_) ..).trans hi'⟩
      rw [hap, hp] at hi'
      exact Prod.ext hap (congrArg (fun v => v.2) (Option.some.inj hi')).symm

namespace ControllerState

def Connected (s : ControllerState) (a : ProxyId × Uuid) : Prop :=
  ∃ p, s.proxies.lookup a.1 = some p ∧ p.bootId = a.2

def unreachable (s : ControllerState) : List (ProxyId × Uuid) :=
  s.disconnectedProxyDeadlines.keys.filter fun a =>
    (s.proxies.lookup a.1).all fun p => decide (p.bootId ≠ a.2)

lemma connected_iff : s.Connected a ↔ ∃ i, s.core.tenure a.1 = some (i, a.2) := by
  constructor
  · rintro ⟨p, hp, hboot⟩
    refine ⟨p.incarnation, ?_⟩
    rw [Core.tenure, core_live, hp, ← hboot]
    rfl
  · rintro ⟨i, hi⟩
    obtain ⟨x, hx, heq⟩ := Option.map_eq_some_iff.1 hi
    obtain ⟨p, hp, rfl⟩ := Option.map_eq_some_iff.1 hx
    exact ⟨p, hp, congrArg Prod.snd heq⟩

lemma mem_unreachable (h : ¬ s.Connected a)
    (hd : s.disconnectedProxyDeadlines.lookup a = some d) : a ∈ s.unreachable := by
  refine List.mem_filter.2 ⟨AList.mem_keys.1 (AList.lookup_isSome.1 (by rw [hd]; rfl)), ?_⟩
  rw [all_eq_true]
  exact fun p hp => decide_eq_true fun hboot => h ⟨p, hp, hboot⟩

lemma mem_each_revokeAt (es : List (SessionKey × ProxySession)) (s : ControllerState)
    (he : e ∈ es) : ∃ i a, Effect.send e.1 (.revokeSessions i revocation) a ∈
      (Turn.each (revokeAt revocation now) es s).2 := by
  induction es generalizing s with
  | nil => cases he
  | cons e' es ih =>
    rcases List.mem_cons.1 he with rfl | he
    · exact ⟨s.nextUuid, s.proxies.lookup e.1.proxyId,
        List.mem_append_left _ (List.mem_singleton.2 rfl)⟩
    · obtain ⟨i, a, h⟩ := ih (revokeAt revocation now s e').1 he
      exact ⟨i, a, List.mem_append_right _ h⟩

lemma beginSessionRevocation_spec
    (h : s.beginSessionRevocation revocation now = (s', .ok reply)) :
    reply.unreachableProxies = s.unreachable.length ∧
      ∀ k p, s.session k = some p → ∃ i a,
        Effect.send k (.revokeSessions i revocation) a ∈ reply.effects := by
  unfold beginSessionRevocation at h
  split at h
  · cases h
  · cases h
    exact ⟨rfl, fun k p hp => mem_each_revokeAt _ s (e := (k, p)) (mem_sessions.2 hp)⟩

end ControllerState

namespace Controller

variable {sizes : Sizes}

/-- The call ends the connection of the proxy process. -/
def Departs (sizes : Sizes) (c : Controller) (l : ControllerLabel) (a : ProxyId × Uuid) : Prop :=
  c.state.Connected a ∧ ∀ c', step sizes c l = some c' → ¬ c'.state.Connected a

lemma tracks_exec (hc : c.state.Valid sizes) (ht : c.state.core.Tracks a t)
    (hclock : ∀ l ∈ ls, l.now < t ∧ t ≤ l.now + disconnectedAuthorityRetention)
    (he : exec (step sizes) c ls = some c') : c'.state.core.Tracks a t :=
  along_moves (I := fun c _ => c.Tracks a t) (fun hl hm _ ht => hm.tracks ht hl.1 hl.2)
    (.of_forall hclock c) hc ht he

/-- A revocation made while an authority is connected, or less than the retention after it left,
tells it or counts it. -/
theorem revocation_told_or_counted (hclock : (ls ++ [r]).Pairwise fun l l' => l.now ≤ l'.now)
    (he : exec (step sizes) (new limit) ls = some c)
    (hop : r.op = .beginSessionRevocation revocation)
    (ha : c.state.Connected a ∨ ∃ ls₁ l ls₂ c₁, ls = ls₁ ++ l :: ls₂ ∧
      exec (step sizes) (new limit) ls₁ = some c₁ ∧ Departs sizes c₁ l a ∧
      r.now < l.now + disconnectedAuthorityRetention)
    (hok : (c.state.call sizes r).2 = .ok reply) :
    (∃ k p i f, c.state.session k = some p ∧ k.proxyId = a.1 ∧ p.bootId = a.2 ∧
      Effect.send k (.revokeSessions i revocation) f ∈ reply.effects) ∨
    a ∈ c.state.unreachable ∧ c.state.unreachable.Nodup ∧
      reply.unreachableProxies = c.state.unreachable.length := by
  have hcall : c.state.call sizes r = c.state.beginSessionRevocation revocation r.now := by
    rw [ControllerState.call, hop]
  rw [hcall] at hok
  obtain ⟨hcount, htold⟩ := beginSessionRevocation_spec (Prod.ext rfl hok)
  by_cases hconnected : c.state.Connected a
  · obtain ⟨p, hp, hboot⟩ := hconnected
    have hs := session_of_lookup hp
    obtain ⟨i, f, hf⟩ := htold _ p hs
    exact .inl ⟨_, p, i, f, hs, rfl, hboot, hf⟩
  · obtain ⟨ls₁, l, ls₂, c₁, rfl, he₁, hdeparts, hlt⟩ := ha.resolve_left hconnected
    obtain ⟨c₁', he₁', he₂⟩ := exec_append_eq_some.1 he
    cases he₁.symm.trans he₁'
    -- Every call since then is within the retention, and so is the revocation.
    have hwithin : ∀ l' ∈ l :: ls₂, l'.now < l.now + disconnectedAuthorityRetention ∧
        l.now + disconnectedAuthorityRetention ≤ l'.now + disconnectedAuthorityRetention := by
      intro l' hl'
      rw [List.append_assoc, List.pairwise_append] at hclock
      have hlast : l'.now ≤ r.now :=
        (List.pairwise_append.1 hclock.2.1).2.2 l' hl' r (List.mem_singleton.2 rfl)
      have hfirst : l.now ≤ l'.now := by
        rcases List.mem_cons.1 hl' with rfl | hl'
        · exact Nat.le_refl _
        · exact (List.pairwise_cons.1 (List.pairwise_append.1 hclock.2.1).1).1 l' hl'
      exact ⟨Nat.lt_of_le_of_lt hlast hlt, Nat.add_le_add_right hfirst _⟩
    have htracks : c.state.core.Tracks a (l.now + disconnectedAuthorityRetention) :=
      tracks_exec (valid_exec he₁) (.inl (ControllerState.connected_iff.1 hdeparts.1)) hwithin he₂
    rcases htracks with hi | ⟨d, hd, _⟩
    · exact absurd (ControllerState.connected_iff.2 hi) hconnected
    · exact .inr ⟨mem_unreachable hconnected hd,
        (AList.keys_nodup _).filter _, hcount⟩

theorem revocation_counts_left_proxy : ∃ c reply, exec (step .unit) (new 3) leaving = some c ∧
      (c.state.call .unit (.second 40 (.beginSessionRevocation .all))).2 = .ok reply ∧
      ((∃ k p i f, c.state.session k = some p ∧ k.proxyId = ['a'] ∧ p.bootId = 7 ∧
        Effect.send k (.revokeSessions i .all) f ∈ reply.effects) ∨
      (['a'], 7) ∈ c.state.unreachable ∧ c.state.unreachable.Nodup ∧
        reply.unreachableProxies = c.state.unreachable.length) := by
  have hsome : (exec (step .unit) (new 3) leaving).isSome = true := by decide +kernel
  obtain ⟨c, he⟩ := Option.isSome_iff_exists.1 hsome
  have hdeparts : (exec (step .unit) (new 3) converging).any (fun c₁ =>
      (c₁.state.proxies.lookup ['a']).any (fun p => decide (p.bootId = 7)) &&
      (step .unit c₁ (.second 31 (.disconnect ['a'] 1))).all fun c' =>
        (c'.state.proxies.lookup ['a']).isNone) = true := by decide +kernel
  obtain ⟨c₁, he₁, hbefore⟩ := (any_eq_true _ _).1 hdeparts
  obtain ⟨hbefore, hafter⟩ := Bool.and_eq_true_iff.1 hbefore
  obtain ⟨p, hp, hboot⟩ := (any_eq_true _ _).1 hbefore
  have hleft : Departs .unit c₁ (.second 31 (.disconnect ['a'] 1)) (['a'], 7) := by
    refine ⟨⟨p, hp, of_decide_eq_true hboot⟩, fun c' hc' => ?_⟩
    rintro ⟨p', hp', _⟩
    rw [hc', all_some, isNone_iff_eq_none] at hafter
    cases hafter.symm.trans hp'
  have hclock : (leaving ++ [ControllerLabel.second 40 (.beginSessionRevocation .all)]).Pairwise
    fun l l' => l.now ≤ l'.now := by decide +kernel
  refine ⟨c, _, he, rfl, revocation_told_or_counted (a := (['a'], 7)) hclock he rfl
    (.inr ?_) rfl⟩
  exact ⟨converging, _, [], c₁, rfl, he₁, hleft, by decide⟩

end Controller

end Chan.Control
