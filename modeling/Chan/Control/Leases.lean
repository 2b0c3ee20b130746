import Chan.Control.Readiness

namespace Chan.Control
open Utf AssocMap Function Transition

/-- Whatever is published, and whatever a session holds, is a row the session may have. -/
structure Core.Only (may : SessionKey → TunnelRow → Prop) (c : Core) : Prop where
  published : ∀ K o, c.tunnels K = some o → may o.session o.row
  held : ∀ k x i row, c.Current k x → x.rows i = some row → row.registrationId = i ∧ may k row

variable {sizes : Sizes} {l : ControllerLabel} {may : SessionKey → TunnelRow → Prop} {c c' : Core}
  {x y : Live} {s : ControllerState}

lemma Core.Only.setLive (h : c.Only may) (hk : c.Current k x) (hy : y.incarnation = x.incarnation)
    (hrows : Sub y.rows x.rows) (k' : SessionKey) (z : Live) (i : Uuid) (row : TunnelRow)
    (hz : (c.setLive k.proxyId y).Current k' z) (hrow : z.rows i = some row) :
    row.registrationId = i ∧ may k' row := by
  rcases (hk.setLive hy).1 hz with ⟨rfl, rfl⟩ | ⟨-, hz⟩
  · exact h.held _ x i row hk (hrows i row hrow)
  · exact h.held k' z i row hz hrow

/-- A tick makes no row of its own. -/
lemma Move.only (hm : Move sizes l kept c es c') (hop : l.op = .tick) (h : c.Only may) :
    c'.Only may := by
  have hsession {k} (hl : l.op.session = some k) : False := by
    rw [hop] at hl
    cases hl
  cases hm with
  | snapshot _ _ hop' | forget _ hop' | claim hop' => cases hop.symm.trans hop'
  | advance _ _ hl | remember _ hl | publish _ hl | resync _ hl | renewRow _ _ _ _ hl =>
    exact (hsession hl).elim
  | opened hp =>
    refine ⟨h.published, fun k x i row hk hrow => ?_⟩
    rcases update_some_eq_some.1 hk.1 with ⟨-, rfl⟩ | ⟨-, hx⟩
    · cases hrow
    · exact h.held k x i row ⟨hx, hk.2⟩ hrow
  | shrink ht => exact ⟨fun K o ho => h.published K o (ht K o ho), h.held⟩
  | dropRow hk =>
    exact ⟨fun K o ho => h.published K o (Core.without_sub K o ho),
      h.setLive hk rfl (Sub.update_none _ _)⟩
  | release | releaseLast =>
    exact ⟨fun K o ho => h.published K o (Core.without_sub K o ho), h.held⟩
  | browserUp hk | browserDown hk | activate hk => exact ⟨h.published, h.setLive hk rfl (.refl _)⟩
  | lose hk =>
    exact ⟨h.published, fun k x i row hx => h.held k x i row ⟨(update_none_eq_some.1 hx.1).2, hx.2⟩⟩
  | join hk _ _ ht =>
    refine ⟨fun K o ho => ?_, h.setLive hk rfl (.refl _)⟩
    rcases ht K o ho with ⟨ho, -⟩ | ⟨-, rfl, hrow⟩
    · exact h.published K o ho
    · exact (h.held _ _ _ _ hk hrow).2
  | converge _ ht =>
    refine ⟨fun K o ho => ?_, fun k x i row hk hrow => ?_⟩
    · obtain ⟨-, x, hk, -, hrow⟩ := ht K o ho
      exact (h.held _ x _ _ hk hrow).2
    · obtain ⟨y, hy, rfl⟩ := Option.map_eq_some_iff.1 hk.1
      rw [Live.told_rows] at hrow
      exact h.held k y i row ⟨hy, y.told_incarnation ▸ hk.2⟩ hrow
  | expireOrphan => exact ⟨fun K o ho => h.published K o (Core.tunnelsBut_sub K o ho), h.held⟩
  | _ =>
    exact ⟨h.published, h.held⟩

namespace ControllerState

lemma only_removeRegistration (sizes : Sizes) (h : s.core.Only may) (k : SessionKey) (i : Uuid) :
    (s.removeRegistration sizes k i).core.Only fun k' row =>
      may k' row ∧ ¬(k' = k ∧ row.registrationId = i) := by
  have hsame : (s.removeRegistration sizes k i).core.tunnels = (s.withdraw sizes k i).core.tunnels ∧
      (s.removeRegistration sizes k i).core.live = (s.withdraw sizes k i).core.live := by
    unfold removeRegistration releaseOrphanRow
    dsimp only
    split
    · exact ⟨rfl, rfl⟩
    · split
      · exact ⟨rfl, rfl⟩
      · split <;> exact ⟨rfl, rfl⟩
  have htunnels : (s.withdraw sizes k i).core.tunnels = s.core.without k i :=
    (withdraw_eq sizes k i s).elim fun _ ⟨_, heq, hlookup⟩ => heq ▸ hlookup
  constructor
  · intro K o ho
    rw [hsame.1, htunnels] at ho
    obtain ⟨ho, hne⟩ := Core.without_eq_some.1 ho
    exact ⟨h.published K o ho, hne⟩
  intro k' x j row hx hj
  rw [Core.Current, hsame.2] at hx
  cases hsession : s.session k with
  | none =>
    rw [core_withdraw_lost sizes hsession] at hx
    obtain ⟨hid, hmay⟩ := h.held k' x j row hx hj
    refine ⟨hid, hmay, ?_⟩
    rintro ⟨rfl, -⟩
    obtain ⟨p, hp, -⟩ := session_of_current hx
    cases hsession.symm.trans hp
  | some p =>
    obtain ⟨hk, -⟩ := current_of_session hsession
    obtain ⟨removed, hcore, -⟩ := core_withdraw_current sizes hsession
    rw [hcore] at hx
    rcases (hk.setLive (y := { p.live with
      rows := update p.live.rows i none, removed := removed }) rfl).1 hx with ⟨rfl, rfl⟩ | ⟨hne, hx⟩
    · obtain ⟨hji, hj⟩ := update_none_eq_some.1 hj
      obtain ⟨hid, hmay⟩ := h.held _ _ j row hk hj
      exact ⟨hid, hmay, fun he => hji (hid ▸ he.2)⟩
    · obtain ⟨hid, hmay⟩ := h.held k' x j row hx hj
      exact ⟨hid, hmay, fun he => hne he.1⟩

lemma only_expireRegistrations (sizes : Sizes) (now : Instant) (es : List (SessionKey × Uuid))
    (h : s.core.Only may) :
    (Turn.each (fun s e => (s.removeRegistration sizes e.1 e.2).issueKill e.1 [e.2] .runtime now)
      es s).1.core.Only fun k row => may k row ∧ (k, row.registrationId) ∉ es := by
  induction es generalizing s may with
  | nil =>
    exact ⟨fun K o ho => ⟨h.published K o ho, List.not_mem_nil⟩, fun k x i row hk hrow =>
      (h.held k x i row hk hrow).imp_right fun hmay => ⟨hmay, List.not_mem_nil⟩⟩
  | cons e es ih =>
    have hgone := only_removeRegistration sizes h e.1 e.2
    have hkilled : ((s.removeRegistration sizes e.1 e.2).issueKill e.1 [e.2] .runtime
        now).1.core.Only
      fun k row => may k row ∧ ¬(k = e.1 ∧ row.registrationId = e.2) :=
      ⟨hgone.published, hgone.held⟩
    have hrest := ih hkilled
    have himp : ∀ {k row}, (may k row ∧ ¬(k = e.1 ∧ row.registrationId = e.2)) ∧
        (k, row.registrationId) ∉ es → may k row ∧ (k, row.registrationId) ∉ e :: es := by
      grind
    exact ⟨fun K o ho => himp (hrest.published K o ho),
      fun k x i row hk hrow => (hrest.held k x i row hk hrow).imp_right himp⟩

/-- Every registration a session holds whose lease has run out is published, so that the tick finds
it. -/
def Swept (s : ControllerState) (l : ControllerLabel) : Prop :=
  ∀ e ∈ s.sessions, ∀ r ∈ e.2.rows.entries, r.2.admissionLeaseExpiresAt ≤ l.wallNow →
    ∃ t ∈ (s.expireDeadlines l.now).tunnels.entries, t.2.session = e.1 ∧ t.2.row = r.2

instance (s : ControllerState) (l : ControllerLabel) : Decidable (s.Swept l) :=
  inferInstanceAs (Decidable (∀ e ∈ s.sessions, ∀ r ∈ e.2.rows.entries, _ → ∃ t ∈ _, _ ∧ _))

lemma only_expireLeases (hs : s.core.Sound sizes) (hswept : s.Swept l) :
    (expireLeases sizes l.now l.wallNow (s.expireDeadlines l.now)).1.core.Only
      fun _ row => l.wallNow < row.admissionLeaseExpiresAt := by
  obtain ⟨hproxies, -⟩ := s.expireDeadlines_spec
  generalize hes : ((s.expireDeadlines l.now).tunnels.entries.filter fun e =>
    decide (e.2.row.admissionLeaseExpiresAt ≤ l.wallNow)).map
      (fun e => (e.2.session, e.2.row.registrationId)) = es
  have hmem : ∀ {K o}, (s.expireDeadlines l.now).tunnels.lookup K = some o →
      l.wallNow < o.row.admissionLeaseExpiresAt ∨ (o.session, o.row.registrationId) ∈ es := by
    intro K o ho
    rw [← hes]
    refine (lt_or_ge ..).imp_right fun hle => List.mem_map.2
      ⟨⟨K, o⟩, List.mem_filter.2 ⟨?_, ?_⟩, rfl⟩
    · exact AList.mem_lookup_iff.1 ho
    · exact decide_eq_true hle
  have honly : (s.expireDeadlines l.now).core.Only fun k row =>
      l.wallNow < row.admissionLeaseExpiresAt ∨ (k, row.registrationId) ∈ es := by
    refine ⟨fun K o ho => hmem ho, fun k x i row hk hrow => ?_⟩
    have hlive : (s.expireDeadlines l.now).core.live = s.core.live :=
      congrArg (fun m proxyId => (AList.lookup proxyId m).map ProxySession.live) hproxies
    rw [Core.Current, hlive] at hk
    refine ⟨(hs.proper _ x hk.1).1.row i row hrow, ?_⟩
    obtain ⟨p, hp, rfl⟩ := session_of_current hk
    refine (lt_or_ge ..).elim .inl fun hle => ?_
    obtain ⟨⟨K, o⟩, ho, rfl, rfl⟩ := hswept (k, p) (mem_sessions.2 hp) ⟨i, row⟩
      (AList.mem_lookup_iff.1 hrow) hle
    exact hmem (AList.mem_lookup_iff.2 ho)
  have hall := only_expireRegistrations sizes l.now es honly
  rw [← hes] at hall
  exact ⟨fun K o ho => (hall.published K o ho).1.resolve_right (hall.published K o ho).2,
    fun k x i row hk hrow => (hall.held k x i row hk hrow).imp_right fun hmay =>
      hmay.1.resolve_right hmay.2⟩

/-- What a tick does once the leases that have run out are gone. -/
def afterLeases (sizes : Sizes) (now : Instant) (s : ControllerState) : Turn :=
  (((expireCommands sizes now s).andThen (expireRevocations now)).andThen
    (heartbeat sizes now)).andThen (convergeIfDue now)

lemma tick_eq : (s.tick sizes now wallNow).1 =
      ((expireLeases sizes now wallNow (s.expireDeadlines now)).1.afterLeases sizes now).1 := by
  rw [tick, afterLeases]
  simp only [Turn.andThen]

lemma serves_afterLeases : Serves sizes l kept s (s.afterLeases sizes l.now) := by
  refine Serves.andThen ?_ serves_convergeIfDue
  refine Serves.andThen ?_ serves_heartbeat
  refine Serves.andThen ?_ serves_expireRevocations
  exact serves_expireCommands

lemma only_tick (h : s.Valid sizes) (hop : l.op = .tick) (hswept : s.Swept l) :
    (s.tick sizes l.now l.wallNow).1.core.Only
      fun _ row => l.wallNow < row.admissionLeaseExpiresAt := by
  have hdeadlines : Settles sizes l False s (s.expireDeadlines l.now, []) :=
    s.serves_expireDeadlines h.settled
  have hleases : Settles sizes l False (s.expireDeadlines l.now)
      (expireLeases sizes l.now l.wallNow (s.expireDeadlines l.now)) :=
    serves_expireLeases hop False.elim hdeadlines.settled
  have hrest : Settles sizes l False _ _ := serves_afterLeases hleases.settled
  obtain ⟨hmoves, hexact⟩ := hdeadlines.runs h.sound h.indexed
  have hsound := hmoves.sound h.sound
  obtain ⟨hmoves', hexact'⟩ := hleases.runs hsound hexact
  obtain ⟨hmoves'', -⟩ := hrest.runs (hmoves'.sound hsound) hexact'
  rw [tick_eq]
  exact hmoves''.keeps (fun hm => hm.only hop) (only_expireLeases h.sound hswept)

lemma may_of_lookup (h : s.core.Only may) (ho : s.tunnels.lookup K = some o) :
    may o.session o.row := h.published K o ho

end ControllerState

namespace Controller

/-- After a tick that finds every expired registration a session holds among the published ones, no
published registration is expired. -/
theorem tick_unexpired {w t : Controller} (he : exec (step sizes) (new limit) ls = some w)
    (hop : l.op = .tick) (hswept : w.state.Swept l) (ht : step sizes w l = some t) :
    ∀ K o, t.state.tunnels.lookup K = some o → l.wallNow < o.row.admissionLeaseExpiresAt := by
  intro K o ho
  rw [(step_eq_some.1 ht).1, ControllerState.call_tick hop] at ho
  exact ControllerState.may_of_lookup (ControllerState.only_tick (valid_exec he) hop hswept) ho

/-- A proxy publishes a registration in its snapshot, and is heard from until the fleet
converges. -/
def untilConverged : List ControllerLabel :=
  [.second 0 (.beginSession ['a'] [] 7), .second 0 (.acceptSnapshot ['a'] 1 0 [.sample 1] [] []),
    .second 20 (.recordActivity ['a'] 1)]

/-- The lease runs out once the registration is published: the next tick takes it back. -/
theorem tick_unexpired_published : ∃ w t,
    exec (step .unit) (new 5) (untilConverged ++ [.second 30 .tick]) = some w ∧
    w.state.tunnels.entries.length = 1 ∧ w.state.Swept ⟨millis 31000, 1000, .tick⟩ ∧
    step .unit w ⟨millis 31000, 1000, .tick⟩ = some t ∧
    ∀ K o, t.state.tunnels.lookup K = some o → 1000 < o.row.admissionLeaseExpiresAt := by
  have hrun : (exec (step .unit) (new 5) (untilConverged ++ [.second 30 .tick])).any (fun w =>
      w.state.tunnels.entries.length = 1 ∧ w.state.Swept ⟨millis 31000, 1000, .tick⟩) = true := by
    decide +kernel
  obtain ⟨w, hw, hends⟩ := (Option.any_eq_true _ _).1 hrun
  obtain ⟨hlength, hswept⟩ := of_decide_eq_true hends
  exact ⟨w, _, hw, hlength, hswept, rfl, tick_unexpired hw rfl hswept rfl⟩

/-- The lease runs out while the fleet converges: the tick that ends the window finds nothing
published, and publishes the registration after that. -/
theorem tick_publishes_expired : ∃ t,
    exec (step .unit) (new 5) (untilConverged ++ [⟨millis 30000, 1000, .tick⟩]) = some t ∧
    ∃ e ∈ t.state.tunnels.entries, e.2.row.admissionLeaseExpiresAt ≤ 1000 := by
  have hrun : (exec (step .unit) (new 5) (untilConverged ++ [⟨millis 30000, 1000, .tick⟩])).any
      (fun t => ∃ e ∈ t.state.tunnels.entries, e.2.row.admissionLeaseExpiresAt ≤ 1000) = true := by
    decide +kernel
  obtain ⟨t, ht, hends⟩ := (Option.any_eq_true _ _).1 hrun
  exact ⟨t, ht, of_decide_eq_true hends⟩

end Controller
end Chan.Control
