import Chan.Control.Leaving

namespace Chan.Control
open Utf AssocMap Function List

variable {s : ControllerState}

namespace Phase

lemma Staged.draw (h : Staged ph q) (hold : ∀ i, i < ph.nextUuid → cs i = ph.commands i)
    (hfresh : ∀ i command, cs i = some command → i < n) :
    { ph with commands := cs, nextUuid := n }.Staged q := by
  refine ⟨h.waiting, h.initial, h.target, fun r hr i hi => ?_, hfresh, h.told⟩
  obtain ⟨command, hcommand, hrest⟩ := h.backed r hr i hi
  exact ⟨command, (hold i (h.fresh i command hcommand)).trans hcommand, hrest⟩

lemma Settled.open (h : Settled ph) (hp : ph.stage p = none) (hs : st.status = .joining)
    (hg : st.known = false) (ht : st.told = false) :
    { ph with stage := update ph.stage p (some st) }.Settled := by
  have hback : ∀ {k st'}, { ph with stage := update ph.stage p (some st) }.Current k st' →
      st' = st ∨ ph.Current k st' := by
    rintro k st' ⟨hst, hi⟩
    rcases update_some_eq_some.1 hst with ⟨_, he⟩ | ⟨_, hst⟩
    · exact .inl he
    · exact .inr ⟨hst, hi⟩
  refine ⟨⟨fun k st' hk hs' hg' => ?_, h.staged.initial, fun k st' hx hk => ?_,
    fun r hr i hi => ?_, h.staged.fresh, h.staged.told_update fun ht' => ?_⟩, h.busy, h.idle⟩
  · rcases hback hk with rfl | hk
    · cases hg.symm.trans hg'
    · exact h.staged.waiting k st' hk hs' hg'
  · rcases hback hk with rfl | hk
    · exact ht
    · exact h.staged.target k st' hx hk
  · obtain ⟨command, hcommand, hpurpose, ⟨st', hst', hi'⟩, hjoining⟩ := h.staged.backed r hr i hi
    refine ⟨command, hcommand, hpurpose, ⟨st', update_some_eq_some.2 (.inr ⟨?_, hst'⟩), hi'⟩,
      hjoining⟩
    intro he
    cases hp.symm.trans (he ▸ hst')
  · cases ht.symm.trans ht'

end Phase

def Answer.turn (a : Answer) : Turn :=
  (a.1, match a.2 with
    | .ok reply => reply.effects
    | .error _ => [])

lemma Turn.answer_turn (t : Turn) : t.answer.turn = t := rfl

def Serves (sizes : Sizes) (l : ControllerLabel) (kept : Prop) (s : ControllerState) (t : Turn) :
    Prop := s.phase.Settled → ControllerState.Settles sizes l kept s t

namespace Serves

variable {sizes : Sizes} {l : ControllerLabel} {kept : Prop}

lemma andThen (h : Serves sizes l kept s t) (h' : Serves sizes l kept t.1 (f t.1)) :
    Serves sizes l kept s (t.andThen f) := by
  intro hs
  have h := h hs
  have h' := h' h.settled
  exact ⟨h'.settled, fun hl => h'.lit (h.lit hl), fun hd => h'.due (h.due hd),
    h.runs.andThen h'.runs⟩

lemma before (h : Serves sizes l kept s (s', [])) (h' : Serves sizes l kept s' t) :
    Serves sizes l kept s t := by
  intro hs
  have h := h hs
  have h' := h' h.settled
  exact ⟨h'.settled, fun hl => h'.lit (h.lit hl), fun hd => h'.due (h.due hd),
    h.runs.before h'.runs⟩

lemma keep (hphase : t.1.phase = s.phase) (h : Runs sizes l kept s t) :
    Serves sizes l kept s t := by
  intro hs
  refine ⟨?_, fun hl => ?_, fun hd => ?_, h⟩
  · rw [hphase]
    exact hs
  · rw [hphase]
    exact hl
  · rw [hphase]
    exact hd

lemma refl (s : ControllerState) : Serves sizes l kept s (s, []) := keep rfl (.refl s)

lemma quiet (hcore : s'.core = s.core) (hphase : s'.phase = s.phase)
    (hexact : s.Exact → s'.Exact) : Serves sizes l kept s (s', []) :=
  keep hphase (.quiet hcore hexact)

lemma each (h : ∀ a ∈ as, ∀ s, Serves sizes l kept s (f s a))
    (s : ControllerState) : Serves sizes l kept s (Turn.each f as s) := by
  induction as generalizing s with
  | nil => exact refl s
  | cons a as ih =>
    exact (h a mem_cons_self s).andThen (ih (fun b hb => h b (mem_cons_of_mem a hb)) _)

lemma emit (hes : ∀ e ∈ es, e.Plain) : Serves sizes l kept s (s, es) := keep rfl (.emit hes)

lemma requireKey
    (h : ∀ p, s.session ⟨proxyId, i⟩ = some p →
      Serves sizes l kept s (Answer.turn (f ⟨proxyId, i⟩ p))) :
    Serves sizes l kept s (Answer.turn (s.requireKey proxyId i f)) := by
  unfold ControllerState.requireKey
  split
  · exact refl s
  · rename_i p hp
    exact h p hp

end Serves

namespace ControllerState

variable {sizes : Sizes} {l : ControllerLabel} {kept : Prop}

lemma staged_issueKill (h : s.phase.Staged q) :
    (s.issueKill k ids purpose now).1.phase.Staged q := by
  rw [phase_issueKill]
  refine h.draw (fun i hi => update_of_ne (Nat.ne_of_lt hi) ..) fun i command hc => ?_
  rcases update_some_eq_some.1 hc with ⟨rfl, _⟩ | ⟨_, hc⟩
  · exact Nat.lt_succ_self _
  · exact Nat.lt_succ_of_lt (h.fresh i command hc)

lemma serves_issueKill (s : ControllerState) :
    Serves sizes l kept s (s.issueKill k ids purpose now) := by
  intro hs
  have hstaged : (s.issueKill k ids purpose now).1.phase.Staged s.phase.deferred :=
    staged_issueKill hs.staged
  have hphase : (s.issueKill k ids purpose now).1.phase = _ := phase_issueKill s
  rw [hphase] at hstaged
  refine ⟨?_, fun hl => ?_, fun hd => ?_, runs_issueKill s⟩
  · rw [hphase]
    exact ⟨hstaged, hs.busy, hs.idle⟩
  · rw [hphase]
    exact hl
  · rw [hphase]
    exact hd

lemma serves_issueKills : Serves sizes l kept s (s.issueKills groups purpose now) :=
  Serves.each (fun _ _ s => s.serves_issueKill) s

lemma serves_touch (k : SessionKey) (now : Instant) :
    Serves sizes l kept s (s.touch k now, []) := .quiet (s.touch_core) (s.touch_phase k now) id

lemma serves_beginSession :
    Serves sizes l kept s (s.beginSession proxyId baseUrl bootId now).turn := by
  unfold beginSession
  dsimp only
  split
  · exact .refl s
  · rename_i hnone
    have hnone : s.proxies.lookup proxyId = none := Option.not_isSome_iff_eq_none.1 hnone
    split
    · exact .refl s
    · split
      · exact .refl s
      · let p : ProxySession := .opened s.nextIncarnation baseUrl bootId now
        have hphase : { s with
            proxies := s.proxies.insert proxyId p }.phase =
            { s.phase with stage := update s.phase.stage proxyId (some p.stage) } :=
          congrArg (fun m => { s.phase with stage := m })
            (map_lookup_insert_fun _ s.proxies proxyId p)
        have hcore : { s with
            nextIncarnation := s.nextIncarnation + 1
            proxies := s.proxies.insert proxyId p }.core =
            { s.core.setLive proxyId (.opened s.core.nextIncarnation bootId) with
              nextIncarnation := s.core.nextIncarnation + 1 } := by
          exact congrArg (fun m => { s.core with
            live := m
            nextIncarnation := s.nextIncarnation + 1 })
              (map_lookup_insert_fun _ s.proxies proxyId p)
        have hstage : s.phase.stage proxyId = none := by rw [phase_stage, hnone]; rfl
        have hlive : s.core.live proxyId = none := by rw [core_live, hnone]; rfl
        intro hs
        refine ⟨?_, fun hl hr => ?_, fun hd => ?_, Runs.move id fun _ _ =>
          (Move.opened hlive).to hcore⟩
        · exact hphase ▸ hs.open hstage rfl rfl rfl
        · have ha := hl hr
          exact hphase ▸ ha.update fun st₀ hst₀ => by cases hstage.symm.trans hst₀
        · refine hphase ▸ hd.mono rfl rfl id ?_
          rintro ⟨q, st, hst, hactive⟩
          rcases update_some_eq_some.1 hst with ⟨_, rfl⟩ | ⟨_, hst⟩
          · cases hactive
          · exact ⟨q, st, hst, hactive⟩

lemma phase_removeTunnelsForSession : (s.removeTunnelsForSession k).phase = s.phase := by
  obtain ⟨_, _, heq, _⟩ := removeTunnelsForSession_eq
  rw [heq]
  rfl

lemma serves_forceResync (hs : s.session k = some p)
    (hl : l.op.session = some k) (hop : l.op.mayResync = true) :
    Serves sizes l kept s (s.forceResync k g) := by
  intro hsettled
  let s₁ := (((s.withSession k.proxyId ProxySession.resynced).removeTunnelsForSession
    k).removeBrowserSessionsForSession k).removePendingForSession k
  have hphase : s₁.phase =
      { s.phase with stage := update s.phase.stage k.proxyId (some p.resynced.stage) } := by
    refine (phase_removePendings).trans ?_
    show (ControllerState.removeTunnelsForSession k _).phase = _
    rw [phase_removeTunnelsForSession, phase_withSession (current_of_session hs).2]
  have hsettled₁ : s₁.phase.Settled := by
    rw [hphase]
    exact ⟨hsettled.staged.resync (phase_current hs) rfl rfl rfl, hsettled.busy, hsettled.idle⟩
  refine ⟨settled_leaveReadiness hsettled₁, fun _ => s₁.lit_leaveReadiness,
    fun hd => due_leaveReadiness (s := s₁) ?_, runs_forceResync hs hl hop⟩
  rw [hphase]
  refine hd.mono rfl rfl id ?_
  rintro ⟨q, st, hst, hactive⟩
  rcases update_some_eq_some.1 hst with ⟨_, rfl⟩ | ⟨_, hst⟩
  · cases hactive
  · exact ⟨q, st, hst, hactive⟩

lemma serves_requireResync (hop : l.op = .requireResync proxyId i) :
    Serves sizes l kept s (s.requireResync proxyId i).turn := by
  refine Serves.requireKey fun p hs => ?_
  exact serves_forceResync hs (by rw [hop]; rfl) (by rw [hop]; rfl)

lemma lookup_indexRows (h : indexRows wallNow rows byId = .ok m) (hi : m.lookup i = some row) :
    byId.lookup i = some row ∨ row.registrationId = i ∧ row ∈ rows := by
  induction rows generalizing byId with
  | nil =>
    cases h
    exact .inl hi
  | cons r rows ih =>
    unfold indexRows at h
    split at h
    · cases h
    · grind

lemma mem_indexRefused (h : indexRefused byId ids refused = .ok m) (hi : i ∈ m) :
    i ∈ refused ∨ i ∈ ids := by
  induction ids generalizing refused with
  | nil =>
    cases h
    exact .inl hi
  | cons j ids ih =>
    unfold indexRefused at h
    split at h
    · cases h
    · grind

lemma lookup_indexBrowserSessions
    (h : s.indexBrowserSessions proxyId wallNow rows byId = .ok m) (hi : m.lookup i = some row) :
    byId.lookup i = some row ∨ row.adminSessionId = i := by
  induction rows generalizing byId with
  | nil =>
    cases h
    exact .inl hi
  | cons r rows ih =>
    unfold indexBrowserSessions at h
    split at h
    · cases h
    · grind

lemma ok_of_bind {f : α → Except ε β} (h : (x >>= f) = .ok b) :
    ∃ a, x = .ok a ∧ f a = .ok b := by
  cases x with
  | error e => cases h
  | ok a => exact ⟨a, rfl, h⟩

lemma isSome_indexRows (h : indexRows wallNow rows byId = .ok m)
    (hi : (byId.lookup i).isSome ∨ ∃ row ∈ rows, row.registrationId = i) : (m.lookup i).isSome := by
  induction rows generalizing byId with
  | nil =>
    cases h
    exact hi.resolve_right nofun
  | cons r rows ih =>
    unfold indexRows at h
    split at h
    · cases h
    · grind

lemma indexRefused_mem (h : indexRefused byId ids refused = .ok m) (hi : i ∈ refused ∨ i ∈ ids) :
    i ∈ m := by
  induction ids generalizing refused with
  | nil =>
    cases h
    exact hi.resolve_right not_mem_nil
  | cons j ids ih =>
    unfold indexRefused at h
    split at h
    · cases h
    · grind

/-- What an indexed snapshot holds came with it, and what came with it is held or refused. -/
structure Indexes (rows : List TunnelRow) (refused : List Uuid) (snapshot : IndexedSnapshot) :
    Prop where
  row : ∀ i row, snapshot.rows.lookup i = some row → row.registrationId = i ∧ row ∈ rows
  refusal : ∀ i ∈ snapshot.refused, i ∈ refused
  browser : ∀ i row, snapshot.browserSessions.lookup i = some row → row.adminSessionId = i
  cover : ∀ i ∈ rows.map TunnelRow.registrationId ++ refused,
    (snapshot.rows.lookup i).isSome ∨ i ∈ snapshot.refused

lemma indexSnapshot_spec
    (h : s.indexSnapshot sizes proxyId rows refused browser wallNow = .ok snapshot) :
    Indexes rows refused snapshot := by
  unfold indexSnapshot at h
  dsimp only at h
  iterate 6
    split at h
    · cases h
  obtain ⟨byId, hrows, h⟩ := ok_of_bind h
  obtain ⟨refusedIds, hrefused, h⟩ := ok_of_bind h
  obtain ⟨browserById, hbrowser, h⟩ := ok_of_bind h
  cases h
  refine ⟨fun i row hi => ?_, fun i hi => ?_, fun i row hi => ?_, fun i hi => ?_⟩
  · exact (lookup_indexRows hrows hi).resolve_left (by rw [AList.lookup_empty]; nofun)
  · exact (mem_indexRefused hrefused hi).resolve_left (Finset.notMem_empty i)
  · exact (lookup_indexBrowserSessions hbrowser hi).resolve_left (by rw [AList.lookup_empty]; nofun)
  · exact (List.mem_append.1 hi).imp
      (fun hi => isSome_indexRows hrows (.inr (List.mem_map.1 hi)))
      fun hi => indexRefused_mem hrefused (.inr hi)

lemma withSnapshot_spec (hs : s.session k = some p)
    (hj : p.status = .joining) (h : s.phase.Settled)
    (hindex : Indexes rows refused snapshot)
    (hop : l.op = .acceptSnapshot k.proxyId k.incarnation g rows refused browser)
    (hq : ∀ k' ∈ s.phase.deferred, k' ∈ q) (hinitial : s.phase.kind = some .initial → q = [])
    (hk : s.ready = true → k ∈ q) :
    (s.withSession k.proxyId (withSnapshot g snapshot s.ready now)).phase =
      { s.phase with
        stage :=
          update s.phase.stage k.proxyId (some (withSnapshot g snapshot s.ready now p).stage) } ∧
    (s.withSession k.proxyId (withSnapshot g snapshot s.ready now)).phase.Staged q ∧
    Runs sizes l kept s (s.withSession k.proxyId (withSnapshot g snapshot s.ready now),
      [.send k (.snapshotAccepted g) a]) := by
  obtain ⟨hcurrent, hp⟩ := current_of_session hs
  have hphase : (s.withSession k.proxyId (withSnapshot g snapshot s.ready now)).phase = _ :=
    phase_withSession hp
  have huntold : p.fleetReady = false := by
    cases ht : p.fleetReady with
    | false => rfl
    | true => cases (h.staged.told _ _ (phase_current hs).1 ht).symm.trans hj
  refine ⟨hphase, ?_, ?_⟩
  · rw [hphase]
    refine h.staged.snapshot (phase_current hs) rfl huntold hq hinitial fun hjoining _ => hk ?_
    cases hready : s.ready with
    | true => rfl
    | false =>
      rw [hready] at hjoining
      cases hjoining
  · refine Runs.move id fun _ _ => (Move.snapshot hcurrent hj hop (fun i row hi => ?_)
      hindex.browser (fun i hi => ?_) fun i hi => ?_).to (core_withSession hp)
    · obtain ⟨hid, hmem⟩ := hindex.row i row hi
      refine ⟨hid, ?_⟩
      rw [hop]
      exact mem_append_left _ (List.mem_map.2 ⟨row, hmem, hid⟩)
    · rw [hop]
      exact mem_append_right _ (hindex.refusal i hi)
    · rw [hop] at hi
      exact hindex.cover i hi

lemma refusedKills_spec (h : s'.phase.Staged q)
    (hruns : Runs sizes l kept s (s', [e]))
    (ht : t = if refused = [] then (s', [e])
      else Turn.andThen (s', [e]) (issueKill k refused .runtime now)) :
    ∃ cs n, t.1.phase = { s'.phase with commands := cs, nextUuid := n } ∧ t.1.phase.Staged q ∧
      t.1.proxies = s'.proxies ∧ Runs sizes l kept s t := by
  split at ht
  · cases ht
    exact ⟨_, _, rfl, h, rfl, hruns⟩
  · cases ht
    exact ⟨_, _, phase_issueKill s', staged_issueKill h, rfl, hruns.andThen s'.runs_issueKill⟩

lemma settles_reconcileJoining (hready : s.ready = true)
    (hs : s.session k = some p) (hg : p.generation.isSome) (huntold : p.fleetReady = false)
    (hstaged : s.phase.Staged (if k ∈ s.deferredJoins then s.deferredJoins
      else s.deferredJoins ++ [k]))
    (hidle : s.reconciliation = none → s.deferredJoins = []) (hbusy : s.phase.Busy)
    (hlit : s₀.phase.Lit → s.phase.Lit) (hruns : Runs sizes l kept s₀ (s, es))
    (hjoin : s.reconcileJoining k now = .ok t) :
    Settles sizes l kept s₀ (t.1, es ++ t.2) := by
  unfold reconcileJoining at hjoin
  split at hjoin
  · rename_i hsome
    cases hjoin
    have hlate : ∀ d : List SessionKey, s.phase.Staged d →
        Settles sizes l kept s₀ ({ s with deferredJoins := d }, es) := by
      intro d hd
      refine ⟨⟨hd.defer, hbusy, fun hnone => ?_⟩, hlit, fun _ hr => ?_,
        fun hsound he => hruns hsound he⟩
      · rw [show s.reconciliation = none from hnone] at hsome
        cases hsome
      · cases hready.symm.trans hr
    rw [append_nil]
    split at hstaged
    · rename_i hmem
      rw [if_pos hmem]
      exact hlate s.deferredJoins hstaged
    · rename_i hmem
      rw [if_neg hmem]
      exact hlate _ hstaged
  · rename_i hnone
    have hnone : s.reconciliation = none := Option.not_isSome_iff_eq_none.1 hnone
    rw [hs] at hjoin
    cases hjoin
    have hdeferred := hidle hnone
    rw [hdeferred, if_neg not_mem_nil, nil_append] at hstaged
    obtain ⟨hstaged', hbusy', habides⟩ := reconcileWith_spec hs huntold hnone hstaged now
    have hempty : (s.reconcileWith k p now).1.phase.deferred = [] :=
      habides.deferred.trans hdeferred
    refine ⟨⟨?_, hbusy', fun _ => hempty⟩, fun hl => habides.lit (hlit hl), fun _ hr => ?_,
      hruns.andThen (runs_reconcileWith hs hg huntold now)⟩
    · rw [hempty]
      exact hstaged'
    · rw [habides.ready] at hr
      cases hready.symm.trans hr

lemma serves_installSnapshot (hs : s.session k = some p)
    (hj : p.status = .joining)
    (hindex : Indexes rows refused snapshot)
    (hop : l.op = .acceptSnapshot k.proxyId k.incarnation g rows refused browser) :
    Serves sizes l kept s (s.installSnapshot k g snapshot refused now).turn := by
  intro h
  let p' := withSnapshot g snapshot s.ready now p
  let s' := s.withSession k.proxyId (withSnapshot g snapshot s.ready now)
  let q := if s.ready then (if k ∈ s.deferredJoins then s.deferredJoins
    else s.deferredJoins ++ [k]) else s.deferredJoins
  have hq : ∀ k' ∈ s.phase.deferred, k' ∈ q := by
    intro k' hk'
    unfold q
    split
    · split
      · exact hk'
      · exact mem_append_left _ hk'
    · exact hk'
  have hinitial : s.phase.kind = some .initial → q = [] := by
    intro hx
    obtain ⟨hready, hdeferred⟩ := h.staged.initial hx
    unfold q
    rw [if_neg (Bool.eq_false_iff.1 (show s.ready = false from hready))]
    exact hdeferred
  have hk : s.ready = true → k ∈ q := by
    intro hready
    unfold q
    rw [if_pos hready]
    split
    · assumption
    · exact mem_append_right _ mem_cons_self
  obtain ⟨hphase', hstaged', hruns'⟩ : _ ∧ _ ∧ Runs sizes l kept _ _ :=
    withSnapshot_spec hs hj h hindex hop hq hinitial hk
  unfold installSnapshot
  dsimp only
  generalize ht : (if refused = [] then (s', [s'.send k (.snapshotAccepted g)])
    else Turn.andThen (s', [s'.send k (.snapshotAccepted g)]) (issueKill k refused .runtime now)) =
      t
  obtain ⟨cs, n, hphase, hstaged, hproxies, hruns⟩ :=
    refusedKills_spec hstaged' hruns' ht.symm
  rw [hphase'] at hphase
  have hready : t.1.ready = s.ready := congrArg Phase.ready hphase
  have hrecon : t.1.reconciliation = s.reconciliation := congrArg Phase.recon hphase
  have hdeferred : t.1.deferredJoins = s.deferredJoins := congrArg Phase.deferred hphase
  have hbusy : t.1.phase.Busy := by
    rw [hphase]
    exact h.busy
  split
  · rename_i hr
    rw [hready] at hr
    have hs' : t.1.session k = some p' := by
      obtain ⟨hp, hi⟩ := Option.filter_eq_some_iff.1 hs
      refine Option.filter_eq_some_iff.2 ⟨?_, hi⟩
      rw [hproxies, lookup_withSession, if_pos rfl, hp]
      rfl
    have huntold : p'.fleetReady = false := by
      cases ht : p.fleetReady with
      | false => exact ht
      | true => cases (h.staged.told _ _ (phase_current hs).1 ht).symm.trans hj
    have hjoining : ∀ turn, t.1.reconcileJoining k now = .ok turn →
        Settles sizes l kept s (turn.1, t.2 ++ turn.2) := by
      intro turn hturn
      refine settles_reconcileJoining (hready.trans hr) hs' rfl huntold ?_ ?_ hbusy ?_ hruns hturn
      · have hstaged : t.1.phase.Staged q := hstaged
        unfold q at hstaged
        rw [if_pos hr] at hstaged
        rw [hdeferred]
        exact hstaged
      · rw [hdeferred, hrecon]
        exact h.idle
      · intro hl hlit
        rw [hphase] at hlit ⊢
        refine (hl hlit).update fun st₀ hst₀ hactive => ?_
        cases (phase_current hs).1.symm.trans hst₀
        cases hj.symm.trans hactive
    cases hjoin : t.1.reconcileJoining k now with
    | error e =>
      unfold reconcileJoining at hjoin
      rw [hs'] at hjoin
      split at hjoin <;> cases hjoin
    | ok turn => exact hjoining turn hjoin
  · rename_i hr
    rw [hready] at hr
    unfold q at hstaged
    rw [if_neg hr, ← hdeferred] at hstaged
    refine ⟨⟨hstaged.deadline, hbusy, fun hnone => ?_⟩, fun _ hlit => ?_, fun _ _ _ => .inl ?_,
      fun hsound he => hruns hsound he⟩
    · exact hdeferred.trans (h.idle (hrecon.symm.trans hnone))
    · exact absurd (hready.symm.trans hlit) hr
    · exact Option.isSome_or.trans (Bool.or_true _)

lemma serves_acceptSnapshot
    (hop : l.op = .acceptSnapshot proxyId incarnation g rows refused browser) :
    Serves sizes l kept s
      (s.acceptSnapshot sizes proxyId incarnation g rows refused browser now wallNow).turn := by
  unfold acceptSnapshot
  split
  · exact .refl s
  · rename_i snapshot hindex
    refine Serves.requireKey fun p hs => ?_
    dsimp only
    split
    · exact .refl s
    · split
      · exact .refl s
      · split
        · exact .quiet rfl rfl id
        · rename_i hj
          have hquiet : Serves sizes l kept s
              ({ s with bootHistory := s.bootHistory.insert proxyId p.bootId }, []) :=
            .quiet rfl rfl id
          have hs' : { s with bootHistory := s.bootHistory.insert proxyId p.bootId }.session
            ⟨proxyId, incarnation⟩ = some p := hs
          exact hquiet.before (serves_installSnapshot hs' (Classical.not_not.1 hj)
            (indexSnapshot_spec hindex) hop)

end ControllerState

end Chan.Control
