import Chan.Control.Core

namespace Chan.Control
open Utf AssocMap Function

/-- A session is active only with its snapshot, is told only while active, and keeps each row under
its own id. -/
structure Live.Proper (x : Live) : Prop where
  known : x.status = .active → x.generation.isSome
  told : x.fleetReady = true → x.status = .active
  blank : x.generation = none → (∀ i, x.rows i = none) ∧ ∀ i, x.browserSessions i = none
  row : ∀ i r, x.rows i = some r → r.registrationId = i
  browser : ∀ i r, x.browserSessions i = some r → r.adminSessionId = i

lemma Live.told_incarnation (x : Live) : x.told.incarnation = x.incarnation := by
  unfold Live.told; split <;> rfl

lemma Live.told_status (x : Live) : x.told.status = x.status := by
  unfold Live.told; split <;> rfl

lemma Live.told_rows (x : Live) : x.told.rows = x.rows := by
  unfold Live.told; split <;> rfl

lemma Live.Proper.afterTold {x : Live} (h : x.Proper) : x.told.Proper := by
  unfold Live.told
  split
  · rename_i hactive
    exact ⟨h.known, fun _ => hactive, h.blank, h.row, h.browser⟩
  · exact h

lemma ledger_eq_add (hr : r ∈ rows) :
    ledger sizes rows = (ledger sizes (rows.erase r)).add ⟨1, sizes.rowResidentBytes r⟩ := by
  have hperm := List.perm_cons_erase hr
  have hlength := hperm.length_eq
  have hsum := (hperm.map sizes.rowResidentBytes).sum_eq
  rw [List.length_cons] at hlength
  rw [List.map_cons, List.sum_cons] at hsum
  simp only [ledger, FleetUsage.add, FleetUsage.mk.injEq]
  omega

lemma ledger_erase (hr : r ∈ rows) :
    ledger sizes (rows.erase r) = (ledger sizes rows).sub ⟨1, sizes.rowResidentBytes r⟩ := by
  rw [ledger_eq_add hr]
  simp [FleetUsage.sub, FleetUsage.add]

namespace Core

/-- The rows of the aggregates are held by their sessions or counted for lost ones, claims are of
told sessions, and nobody is over the limit. -/
structure Sound (sizes : Sizes) (c : Core) : Prop where
  proper : ∀ p x, c.live p = some x → x.Proper ∧ x.incarnation < c.nextIncarnation
  key : ∀ K o, c.tunnels K = some o → o.row.key = K
  owned : ∀ K o, c.tunnels K = some o →
    c.Holds o ∨ c.Lost o.session ∧ (c.usage o.session).isSome
  browser : ∀ i o, c.browserSessions i = some o →
    c.HoldsBrowser i o ∨ c.Lost o.session ∧ (c.browserUsage o.session).isSome
  usage : ∀ k u, c.usage k = some u → c.Lost k ∧ (c.deadlines k).isSome ∧
    ∃ rows, u = ledger sizes rows ∧ ∀ K o, c.tunnels K = some o → o.session = k → o.row ∈ rows
  browserUsage : ∀ k, (c.browserUsage k).isSome → c.Lost k
  claims : ∀ K claim, c.pending K = some claim →
    c.ready = true ∧ ∃ x, c.Current claim.session x ∧ x.fleetReady = true
  within : c.Within

lemma Current.unique (h : Current c k x) (h' : Current c k y) : x = y :=
  Option.some.inj (h.1.symm.trans h'.1)

lemma Current.eq_of_proxyId (h : Current c k x) (h' : Current c k' y)
    (hp : k'.proxyId = k.proxyId) : k' = k := by
  have hxy : y = x := Option.some.inj (h'.1.symm.trans (hp ▸ h.1))
  exact SessionKey.ext hp (by rw [← h'.2, hxy, h.2])

lemma Current.not_lost (h : Current c k x) : ¬ c.Lost k := fun hl => hl.2 x h

lemma setLive_self (c : Core) (p : ProxyId) (x : Live) : (c.setLive p x).live p = some x :=
  update_self ..

lemma setLive_ne (c : Core) (x : Live) (h : q ≠ p) : (c.setLive p x).live q = c.live q :=
  update_of_ne h ..

lemma Current.setLive (hk : Current c k x) (hy : y.incarnation = x.incarnation) :
    (c.setLive k.proxyId y).Current k' z ↔ (k' = k ∧ z = y) ∨ (k' ≠ k ∧ c.Current k' z) := by
  by_cases hp : k'.proxyId = k.proxyId
  · have hlive : c.live k'.proxyId = some x := by rw [hp, hk.1]
    have hset : (c.setLive k.proxyId y).live k'.proxyId = some y := by rw [hp, setLive_self]
    rw [Current, Current, hlive, hset]
    constructor
    · rintro ⟨hz, hi⟩
      cases hz
      exact .inl ⟨SessionKey.ext hp (hi.symm.trans (hy.trans hk.2)), rfl⟩
    · rintro (⟨rfl, rfl⟩ | ⟨hne, hz, hi⟩)
      · exact ⟨rfl, hy.trans hk.2⟩
      · cases hz
        exact absurd (SessionKey.ext hp (hi.symm.trans hk.2)) hne
  · have hne : k' ≠ k := fun h => hp (by rw [h])
    rw [Current, setLive_ne c y hp]
    simp only [hne, false_and, false_or, true_and, ne_eq, not_false_eq_true]
    rfl

lemma Lost.setLive (hk : Current c k x) (hy : y.incarnation = x.incarnation) (h : c.Lost k') :
    (c.setLive k.proxyId y).Lost k' := by
  refine ⟨h.1, fun z hz => ?_⟩
  rcases (hk.setLive hy).1 hz with ⟨rfl, _⟩ | ⟨_, hz⟩
  · exact h.2 x hk
  · exact h.2 z hz

lemma Current.dropLive (h : Current c k' z) (hk : Current c k x) (hne : k' ≠ k) :
    (c.dropLive k.proxyId).Current k' z :=
  ⟨(update_of_ne (fun hp => hne (hk.eq_of_proxyId h hp)) ..).trans h.1, h.2⟩

lemma Lost.dropLive (h : Lost c k) : (c.dropLive p).Lost k :=
  ⟨h.1, fun z hz => h.2 z ⟨(update_none_eq_some.1 hz.1).2, hz.2⟩⟩

lemma Current.lost_dropLive (h : Current c k x) (hlt : x.incarnation < c.nextIncarnation) :
    (c.dropLive k.proxyId).Lost k :=
  ⟨h.2 ▸ hlt, fun _ hz => (update_none_eq_some.1 hz.1).1 rfl⟩

lemma without_eq_some : without c k i K = some o ↔
    c.tunnels K = some o ∧ ¬(o.session = k ∧ o.row.registrationId = i) := by
  simp only [without, Option.filter_eq_some_iff, decide_eq_true_eq]

lemma tunnelsBut_eq_some : tunnelsBut c k K = some o ↔ c.tunnels K = some o ∧ o.session ≠ k := by
  simp [tunnelsBut]

lemma browserBut_eq_some :
    browserBut c k i = some o ↔ c.browserSessions i = some o ∧ o.session ≠ k := by
  simp [browserBut]

lemma without_sub : Sub (without c k i) c.tunnels := fun _ _ ho => (without_eq_some.1 ho).1

lemma tunnelsBut_sub : Sub (tunnelsBut c k) c.tunnels :=
  fun _ _ ho => (tunnelsBut_eq_some.1 ho).1

lemma browserBut_sub : Sub (browserBut c k) c.browserSessions :=
  fun _ _ ho => (browserBut_eq_some.1 ho).1

lemma Within.mono (h : Within c) (hlimit : c'.limit = c.limit)
    (hK : ∀ K, Occupied c' K → c.Occupied K) :
    c'.Within :=
  fun owner ds hds => hlimit.symm ▸ h owner ds fun d hd => hK (owner, d) (hds d hd)

namespace Sound

variable {sizes : Sizes}

section
variable (h : Sound sizes c)
include h

lemma holds (ho : c.tunnels K = some o) (hk : c.Current o.session x) :
    x.status = .active ∧ x.rows o.row.registrationId = some o.row := by
  rcases h.owned K o ho with ⟨y, hy, hactive, hrow⟩ | ⟨hlost, _⟩
  · cases hk.unique hy
    exact ⟨hactive, hrow⟩
  · exact absurd hlost hk.not_lost

lemma holdsBrowser (ho : c.browserSessions i = some o)
    (hk : c.Current o.session x) : x.fleetReady = true ∧ x.browserSessions i = some o.row := by
  rcases h.browser i o ho with ⟨y, hy, htold, hrow⟩ | ⟨hlost, _⟩
  · cases hk.unique hy
    exact ⟨htold, hrow⟩
  · exact absurd hlost hk.not_lost

lemma claimed (hc : c.pending K = some claim)
    (hk : c.Current claim.session x) : x.fleetReady = true := by
  obtain ⟨_, y, hy, htold⟩ := h.claims K claim hc
  cases hk.unique hy
  exact htold

lemma properOf (hk : c.Current k x) : x.Proper := (h.proper _ x hk.1).1

lemma untold (hk : c.Current k x) (hx : x.status = .joining) :
    x.fleetReady = false := by
  cases ht : x.fleetReady with
  | false => rfl
  | true => cases ((h.properOf hk).told ht).symm.trans hx

lemma rebuild (hk : c.Current k x) (hy : y.incarnation = x.incarnation)
    (hproper : y.Proper)
    (ht : ∀ K o, t K = some o →
      (o.session = k ∧ o.row.key = K ∧ y.status = .active ∧
        y.rows o.row.registrationId = some o.row) ∨ (o.session ≠ k ∧ c.tunnels K = some o))
    (hb : ∀ i o, b i = some o →
      (o.session = k ∧ y.fleetReady = true ∧ y.browserSessions i = some o.row) ∨
      (o.session ≠ k ∧
        (c.HoldsBrowser i o ∨ c.Lost o.session ∧ (c.browserUsage o.session).isSome)))
    (hq : ∀ K claim, q K = some claim →
      c.pending K = some claim ∧ (claim.session = k → y.fleetReady = true))
    (hwithin : { c with tunnels := t, pending := q }.Within) :
    Sound sizes { c.setLive k.proxyId y with
      tunnels := t
      browserSessions := b
      pending := q } := by
  have hother : ∀ {k' z}, k' ≠ k → c.Current k' z → (c.setLive k.proxyId y).Current k' z :=
    fun hne hz => (hk.setLive hy).2 (.inr ⟨hne, hz⟩)
  have hself : (c.setLive k.proxyId y).Current k y := (hk.setLive hy).2 (.inl ⟨rfl, rfl⟩)
  refine ⟨?_, ?_, ?_, ?_, ?_, fun k' hu => (h.browserUsage k' hu).setLive hk hy, ?_, hwithin⟩
  · intro p z hz
    by_cases hp : p = k.proxyId
    · subst hp
      cases (setLive_self c _ y).symm.trans hz
      exact ⟨hproper, hy ▸ (h.proper _ x hk.1).2⟩
    · exact h.proper p z ((setLive_ne c y hp).symm.trans hz)
  · intro K o ho
    rcases ht K o ho with ⟨_, hkey, _⟩ | ⟨_, ho⟩
    · exact hkey
    · exact h.key K o ho
  · intro K o ho
    rcases ht K o ho with ⟨hs, _, hh⟩ | ⟨hs, ho⟩
    · exact .inl ⟨y, hs ▸ hself, hh⟩
    · rcases h.owned K o ho with ⟨z, hz, hh⟩ | ⟨hlost, hu⟩
      · exact .inl ⟨z, hother hs hz, hh⟩
      · exact .inr ⟨hlost.setLive hk hy, hu⟩
  · intro i o ho
    rcases hb i o ho with ⟨hs, hh⟩ | ⟨hs, ⟨z, hz, hh⟩ | ⟨hlost, hu⟩⟩
    · exact .inl ⟨y, hs ▸ hself, hh⟩
    · exact .inl ⟨z, hother hs hz, hh⟩
    · exact .inr ⟨hlost.setLive hk hy, hu⟩
  · intro k' u hu
    obtain ⟨hlost, hdeadline, rows, hrows, hmem⟩ := h.usage k' u hu
    refine ⟨hlost.setLive hk hy, hdeadline, rows, hrows, fun K o ho hs => ?_⟩
    rcases ht K o ho with ⟨hs', _⟩ | ⟨_, ho⟩
    · exact absurd hlost (hs ▸ hs' ▸ hk.not_lost)
    · exact hmem K o ho hs
  · intro K claim hc
    obtain ⟨hc, htold⟩ := hq K claim hc
    obtain ⟨hready, z, hz, hz'⟩ := h.claims K claim hc
    refine ⟨hready, ?_⟩
    by_cases hs : claim.session = k
    · exact ⟨y, hs ▸ hself, htold hs⟩
    · exact ⟨z, hother hs hz, hz'⟩

lemma amend (hk : c.Current k x) (hy : y.incarnation = x.incarnation)
    (hproper : y.Proper) (hstatus : x.status = .active → y.status = .active)
    (htold : x.fleetReady = true → y.fleetReady = true)
    (hrows : ∀ K o, c.tunnels K = some o → o.session = k →
      x.rows o.row.registrationId = some o.row → y.rows o.row.registrationId = some o.row)
    (hbrowser : ∀ i o, c.browserSessions i = some o → o.session = k →
      x.browserSessions i = some o.row → y.browserSessions i = some o.row) :
    Sound sizes (c.setLive k.proxyId y) := by
  refine h.rebuild (t := c.tunnels) (b := c.browserSessions) (q := c.pending) hk hy hproper ?_ ?_ ?_
    h.within
  · grind [h.holds, h.key]
  · grind [h.holdsBrowser, h.browser]
  · intro K claim hc
    exact ⟨hc, fun hs => htold (h.claimed hc (hs ▸ hk))⟩

lemma shrink (ht : Sub t c.tunnels) (hp : Sub q c.pending)
    (hb : Sub b c.browserSessions) :
    Sound sizes { c with tunnels := t, pending := q, browserSessions := b } := by
  refine ⟨h.proper, fun K o ho => h.key K o (ht K o ho), fun K o ho => h.owned K o (ht K o ho),
    fun i o ho => h.browser i o (hb i o ho), ?_, h.browserUsage,
    fun K claim hc => h.claims K claim (hp K claim hc), ?_⟩
  · intro k u hu
    obtain ⟨hlost, hdeadline, rows, hrows, hmem⟩ := h.usage k u hu
    exact ⟨hlost, hdeadline, rows, hrows, fun K o ho => hmem K o (ht K o ho)⟩
  · intro owner ds hds
    refine h.within owner ds fun d hd => ?_
    rcases hds d hd with hd | hd
    · obtain ⟨o, ho⟩ := Option.isSome_iff_exists.1 hd
      exact .inl (Option.isSome_iff_exists.2 ⟨o, ht _ o ho⟩)
    · obtain ⟨claim, hc⟩ := Option.isSome_iff_exists.1 hd
      exact .inr (Option.isSome_iff_exists.2 ⟨claim, hp _ claim hc⟩)

lemma opened (hp : c.live p = none) :
    Sound sizes { c.setLive p (.opened c.nextIncarnation boot) with
      nextIncarnation := c.nextIncarnation + 1 } := by
  have hcurrent : ∀ {k z}, c.Current k z →
      { c.setLive p (.opened c.nextIncarnation boot) with
        nextIncarnation := c.nextIncarnation + 1 }.Current k z := by
    intro k z hz
    have hne : k.proxyId ≠ p := by
      rintro rfl
      cases hp.symm.trans hz.1
    exact ⟨(setLive_ne c _ hne).trans hz.1, hz.2⟩
  have hlost : ∀ {k}, c.Lost k → { c.setLive p (.opened c.nextIncarnation boot) with
        nextIncarnation := c.nextIncarnation + 1 }.Lost k := by
    intro k hl
    refine ⟨Nat.lt_succ_of_lt hl.1, fun z hz => ?_⟩
    by_cases hk : k.proxyId = p
    · have hz' := (congrArg _ hk).symm.trans hz.1
      cases (setLive_self c p _).symm.trans hz'
      exact absurd hz.2 (Nat.ne_of_gt hl.1)
    · exact hl.2 z ⟨(setLive_ne c _ hk).symm.trans hz.1, hz.2⟩
  refine ⟨?_, h.key, ?_, ?_, ?_, fun k hu => hlost (h.browserUsage k hu), ?_, h.within⟩
  · intro q z hz
    by_cases hq : q = p
    · subst hq
      cases (setLive_self c q _).symm.trans hz
      exact ⟨⟨nofun, nofun, fun _ => ⟨fun _ => rfl, fun _ => rfl⟩, nofun, nofun⟩,
        Nat.lt_succ_self _⟩
    · obtain ⟨hproper, hlt⟩ := h.proper q z ((setLive_ne c _ hq).symm.trans hz)
      exact ⟨hproper, Nat.lt_succ_of_lt hlt⟩
  · intro K o ho
    rcases h.owned K o ho with ⟨z, hz, hh⟩ | ⟨hl, hu⟩
    · exact .inl ⟨z, hcurrent hz, hh⟩
    · exact .inr ⟨hlost hl, hu⟩
  · intro i o ho
    rcases h.browser i o ho with ⟨z, hz, hh⟩ | ⟨hl, hu⟩
    · exact .inl ⟨z, hcurrent hz, hh⟩
    · exact .inr ⟨hlost hl, hu⟩
  · intro k u hu
    obtain ⟨hl, hrest⟩ := h.usage k u hu
    exact ⟨hlost hl, hrest⟩
  · intro K claim hc
    obtain ⟨hready, z, hz, htold⟩ := h.claims K claim hc
    exact ⟨hready, z, hcurrent hz, htold⟩

section
variable (hk : c.Current k x)
include hk

lemma replaceJoining (hx : x.status ≠ .active)
    (hy : y.incarnation = x.incarnation) (hproper : y.Proper) :
    Sound sizes (c.setLive k.proxyId y) := by
  have hnot : x.fleetReady ≠ true := fun ht => hx ((h.properOf hk).told ht)
  refine h.rebuild (t := c.tunnels) (b := c.browserSessions) (q := c.pending) hk hy hproper ?_ ?_ ?_
    h.within
  · exact fun K o ho => .inr ⟨fun hs => hx (h.holds ho (hs ▸ hk)).1, ho⟩
  · exact fun i o ho => .inr ⟨fun hs => hnot (h.holdsBrowser ho (hs ▸ hk)).1, h.browser i o ho⟩
  · exact fun K claim hc => ⟨hc, fun hs => absurd (h.claimed hc (hs ▸ hk)) hnot⟩

lemma publish (hrow : x.rows row.registrationId = none) (hclaim : c.pending row.key = some claim)
    (hsession : claim.session = k) :
    Sound sizes
      { c.setLive k.proxyId { x with rows := update x.rows row.registrationId (some row) } with
        tunnels := update c.tunnels row.key (some ⟨k, url, row⟩)
        pending := update c.pending row.key none } := by
  obtain ⟨hknown, htold, hblank, hrows, hbrowser⟩ := h.properOf hk
  have hready := h.claimed hclaim (hsession ▸ hk)
  have hactive := htold hready
  have hproper : { x with rows := update x.rows row.registrationId (some row) : Live }.Proper := by
    refine ⟨hknown, htold, fun hg => ?_, fun j r hr => ?_, hbrowser⟩
    · cases (show x.generation = none from hg) ▸ hknown hactive
    · rcases update_some_eq_some.1 hr with ⟨rfl, rfl⟩ | ⟨_, hr⟩
      · rfl
      · exact hrows j r hr
  refine h.rebuild (b := c.browserSessions) hk rfl hproper ?_ ?_ ?_ ?_
  · grind [h.holds, h.key, update_some_eq_some]
  · intro i o ho
    by_cases hs : o.session = k
    · obtain ⟨htold, hheld⟩ := h.holdsBrowser ho (hs ▸ hk)
      exact .inl ⟨hs, htold, hheld⟩
    · exact .inr ⟨hs, h.browser _ o ho⟩
  · intro K claim' hc
    obtain ⟨_, hc⟩ := update_none_eq_some.1 hc
    exact ⟨hc, fun _ => hready⟩
  · refine h.within.mono rfl fun K hK => ?_
    by_cases hkey : K = row.key
    · exact .inr (by rw [hkey, hclaim]; rfl)
    · simpa only [Occupied, update_of_ne hkey] using hK

lemma renewRow (hid : x.rows i = some old)
    (hnew : new.registrationId = old.registrationId) (hkey : new.key = old.key) :
    Sound sizes { c.setLive k.proxyId { x with rows := update x.rows i (some new) } with
      tunnels := update c.tunnels new.key ((c.tunnels new.key).map fun o =>
        if o.session = k ∧ o.row.registrationId = i then { o with row := new } else o) } := by
  obtain ⟨hknown, htold, hblank, hrows, hbrowser⟩ := h.properOf hk
  have hi : new.registrationId = i := hnew.trans (hrows i old hid)
  have hproper : { x with rows := update x.rows i (some new) : Live }.Proper := by
    refine ⟨hknown, htold, fun hg => ?_, fun j r hr => ?_, hbrowser⟩
    · cases ((hblank hg).1 i).symm.trans hid
    · rcases update_some_eq_some.1 hr with ⟨rfl, rfl⟩ | ⟨_, hr⟩
      · exact hi
      · exact hrows j r hr
  -- Entries of other registrations stay as they are.
  refine h.rebuild (b := c.browserSessions) (q := c.pending) hk rfl hproper ?_ ?_ ?_ ?_
  · grind [h.holds, h.key, Option.map_eq_some_iff, update_some_eq_some]
  · intro j o ho
    by_cases hs : o.session = k
    · obtain ⟨htold, hheld⟩ := h.holdsBrowser ho (hs ▸ hk)
      exact .inl ⟨hs, htold, hheld⟩
    · exact .inr ⟨hs, h.browser _ o ho⟩
  · intro K claim hc
    refine ⟨hc, fun hs => ?_⟩
    have htold := h.claimed hc (hs ▸ hk)
    exact htold
  · refine h.within.mono rfl fun K hK => ?_
    by_cases hkey : K = new.key
    · simpa [Occupied, hkey] using hK
    · simpa only [Occupied, update_of_ne hkey] using hK

lemma dropRow : Sound sizes
      { c.setLive k.proxyId { x with rows := update x.rows i none, removed := removed } with
        tunnels := c.without k i } := by
  have hs := h.shrink (without_sub (k := k) (i := i)) (.refl c.pending) (.refl c.browserSessions)
  obtain ⟨hknown, htold, hblank, hrow, hbrowser⟩ := h.properOf hk
  refine hs.amend hk rfl ⟨hknown, htold, fun hg => ⟨fun j => ?_, (hblank hg).2⟩,
    fun j r hr => hrow j r (update_none_eq_some.1 hr).2, hbrowser⟩ id id ?_ (fun _ _ _ _ hr => hr)
  · have hnone := (hblank hg).1 j
    exact Option.eq_none_iff_forall_ne_some.2 fun r hr => by
      cases hnone.symm.trans (update_none_eq_some.1 hr).2
  · intro K o ho hsession hr
    have hne := (without_eq_some.1 ho).2
    exact update_none_eq_some.2 ⟨fun hi => hne ⟨hsession, hi⟩, hr⟩

lemma browserUp (hg : x.generation.isSome)
    (hid : row.adminSessionId = i) :
    Sound sizes
      { c.setLive k.proxyId { x with
          browserSessions := update x.browserSessions i (some row) } with
        browserSessions :=
          if x.fleetReady then update c.browserSessions i (some ⟨k, row⟩)
          else c.browserSessions } := by
  obtain ⟨hknown, htold, _, hrow, hbrowser⟩ := h.properOf hk
  refine h.rebuild (t := c.tunnels) (q := c.pending) hk rfl ⟨hknown, htold, ?_, hrow, ?_⟩ ?_ ?_ ?_
    h.within
  · intro hnone
    rw [show x.generation = none from hnone] at hg
    cases hg
  · intro j r hr
    rcases update_some_eq_some.1 hr with ⟨rfl, rfl⟩ | ⟨_, hr⟩
    · exact hid
    · exact hbrowser j r hr
  · grind [h.holds, h.key]
  · grind [h.holdsBrowser, h.browser, update_some_eq_some]
  · intro K claim hc
    refine ⟨hc, fun hs => ?_⟩
    have htold := h.claimed hc (hs ▸ hk)
    exact htold

lemma browserDown (hb : Sub b c.browserSessions)
    (hi : ∀ o, b i = some o → o.session ≠ k) :
    Sound sizes
      { c.setLive k.proxyId { x with browserSessions := update x.browserSessions i none } with
        browserSessions := b } := by
  have hs := h.shrink (.refl c.tunnels) (.refl c.pending) hb
  obtain ⟨hknown, htold, hblank, hrow, hbrowser⟩ := h.properOf hk
  refine hs.amend hk rfl ⟨hknown, htold, fun hg => ⟨(hblank hg).1, fun j => ?_⟩, hrow,
    fun j r hr => hbrowser j r (update_none_eq_some.1 hr).2⟩ id id (fun _ _ _ _ hr => hr) ?_
  · have hnone := (hblank hg).2 j
    exact Option.eq_none_iff_forall_ne_some.2 fun r hr => by
      cases hnone.symm.trans (update_none_eq_some.1 hr).2
  · intro j o ho hsession hr
    exact update_none_eq_some.2 ⟨fun hj => hi o (hj ▸ ho) hsession, hr⟩

lemma resync (hq : Sub q c.pending)
    (hclaims : ∀ K claim, q K = some claim → claim.session ≠ k) :
    Sound sizes { c.setLive k.proxyId x.resynced with
      tunnels := c.tunnelsBut k
      browserSessions := c.browserBut k
      pending := q } := by
  have hs := h.shrink (tunnelsBut_sub (k := k)) hq (browserBut_sub (k := k))
  refine h.rebuild hk rfl ⟨nofun, nofun, fun _ => ⟨fun _ => rfl, fun _ => rfl⟩, nofun, nofun⟩
    ?_ ?_ ?_ hs.within
  · intro K o ho
    obtain ⟨ho, hne⟩ := tunnelsBut_eq_some.1 ho
    exact .inr ⟨hne, ho⟩
  · intro i o ho
    obtain ⟨ho, hne⟩ := browserBut_eq_some.1 ho
    exact .inr ⟨hne, h.browser i o ho⟩
  · exact fun K claim hc => ⟨hq K claim hc, fun hsession => absurd hsession (hclaims K claim hc)⟩

end

lemma release (ho : c.tunnels K = some o)
    (hu : c.usage o.session = some u) :
    Sound sizes { c with
      tunnels := c.without o.session o.row.registrationId
      usage := update c.usage o.session
        (some (u.sub ⟨1, sizes.rowResidentBytes o.row⟩)) } := by
  have hs := h.shrink (without_sub (k := o.session) (i := o.row.registrationId)) (.refl c.pending)
    (.refl c.browserSessions)
  refine ⟨hs.proper, hs.key, ?_, hs.browser, ?_, hs.browserUsage, hs.claims, hs.within⟩
  · intro K' o' ho'
    rcases hs.owned K' o' ho' with hh | ⟨hlost, hused⟩
    · exact .inl hh
    · exact .inr ⟨hlost, isSome_update_some.2 (.inr hused)⟩
  · intro k u' hu'
    rcases update_some_eq_some.1 hu' with ⟨rfl, rfl⟩ | ⟨_, hu'⟩
    · obtain ⟨hlost, hdeadline, rows, hrows, hmem⟩ := h.usage _ u hu
      refine ⟨hlost, hdeadline, rows.erase o.row, ?_, fun K' o' ho' hsession => ?_⟩
      · rw [ledger_erase (hmem K o ho rfl), hrows]
      · obtain ⟨ho', hne⟩ := without_eq_some.1 ho'
        refine (List.mem_erase_of_ne fun hrow => ?_).2 (hmem K' o' ho' hsession)
        exact hne ⟨hsession, by rw [hrow]⟩
    · exact hs.usage k u' hu'

lemma releaseLast (ho : c.tunnels K = some o)
    (hu : c.usage o.session = some u) (hrows : u.rows ≤ 1) :
    Sound sizes { c with
      tunnels := c.without o.session o.row.registrationId
      usage := update c.usage o.session none
      deadlines := update c.deadlines o.session none } := by
  have hs := h.shrink (without_sub (k := o.session) (i := o.row.registrationId)) (.refl c.pending)
    (.refl c.browserSessions)
  -- No other row of the session is published: its ledger holds one row.
  have hnone : ∀ K' o', c.without o.session o.row.registrationId K' = some o' →
      o'.session ≠ o.session := by
    intro K' o' ho' hsession
    obtain ⟨ho', hne⟩ := without_eq_some.1 ho'
    obtain ⟨_, _, rows, rfl, hmem⟩ := h.usage _ u hu
    have hlength : rows.length ≤ 1 := hrows
    have h1 := hmem K o ho rfl
    have h2 := hmem K' o' ho' hsession
    match rows, hlength with
    | [r], _ =>
      rw [List.mem_singleton] at h1 h2
      exact hne ⟨hsession, by rw [h1, h2]⟩
  refine ⟨hs.proper, hs.key, ?_, hs.browser, ?_, hs.browserUsage, hs.claims, hs.within⟩
  · intro K' o' ho'
    rcases hs.owned K' o' ho' with hh | ⟨hlost, hused⟩
    · exact .inl hh
    · exact .inr ⟨hlost, isSome_update_none.2 ⟨hnone K' o' ho', hused⟩⟩
  · intro k u' hu'
    obtain ⟨hk, hu'⟩ := update_none_eq_some.1 hu'
    obtain ⟨hlost, hdeadline, hrest⟩ := hs.usage k u' hu'
    exact ⟨hlost, isSome_update_none.2 ⟨hk, hdeadline⟩, hrest⟩

lemma expireOrphan : Sound sizes { c with
      deadlines := update c.deadlines k none
      usage := update c.usage k none
      browserUsage := update c.browserUsage k none
      tunnels := c.tunnelsBut k
      browserSessions := c.browserBut k } := by
  have hs := h.shrink (tunnelsBut_sub (k := k)) (.refl c.pending) (browserBut_sub (k := k))
  refine ⟨hs.proper, hs.key, ?_, ?_, ?_, ?_, hs.claims, hs.within⟩
  · intro K o ho
    rcases hs.owned K o ho with hh | ⟨hlost, hused⟩
    · exact .inl hh
    · exact .inr ⟨hlost, isSome_update_none.2 ⟨(tunnelsBut_eq_some.1 ho).2, hused⟩⟩
  · intro i o ho
    rcases hs.browser i o ho with hh | ⟨hlost, hused⟩
    · exact .inl hh
    · exact .inr ⟨hlost, isSome_update_none.2 ⟨(browserBut_eq_some.1 ho).2, hused⟩⟩
  · intro k' u hu
    obtain ⟨hk, hu⟩ := update_none_eq_some.1 hu
    obtain ⟨hlost, hdeadline, hrest⟩ := hs.usage k' u hu
    exact ⟨hlost, isSome_update_none.2 ⟨hk, hdeadline⟩, hrest⟩
  · exact fun k' hu => hs.browserUsage k' (isSome_update_none.1 hu).2

lemma unready (hactive : ∀ p x, c.live p = some x → x.status ≠ .active) :
    Sound sizes { c with ready := false } := by
  refine ⟨h.proper, h.key, h.owned, h.browser, h.usage, h.browserUsage, ?_, h.within⟩
  intro K claim hc
  obtain ⟨_, x, hx, htold⟩ := h.claims K claim hc
  exact absurd ((h.properOf hx).told htold) (hactive _ x hx.1)

lemma admits (hready : c.ready = true) (hk : c.Current claim.session x)
    (hx : x.fleetReady = true)
    (hroom : c.Occupied K ∨
      ∀ ds : Finset Text, (∀ d ∈ ds, c.Occupied (K.1, d)) → ds.card < c.limit) :
    Sound sizes { c with pending := update c.pending K (some claim) } := by
  refine ⟨h.proper, h.key, h.owned, h.browser, h.usage, h.browserUsage, ?_, ?_⟩
  · intro K' claim' hc
    rcases update_some_eq_some.1 hc with ⟨rfl, rfl⟩ | ⟨_, hc⟩
    · exact ⟨hready, x, hk, hx⟩
    · exact h.claims K' claim' hc
  · intro owner ds hds
    have hold : ∀ d ∈ ds, (owner, d) ≠ K → c.Occupied (owner, d) := by
      intro d hd hK
      have hd := hds d hd
      simpa only [Occupied, update_of_ne hK] using hd
    rcases hroom with hocc | hroom
    · refine h.within owner ds fun d hd => ?_
      by_cases hK : (owner, d) = K
      · rw [hK]
        exact hocc
      · exact hold d hd hK
    · by_cases howner : owner = K.1
      · subst howner
        have hlt := hroom (ds.erase K.2) fun d hd => by
          obtain ⟨hne, hd⟩ := Finset.mem_erase.1 hd
          exact hold d hd fun hK => hne (congrArg Prod.snd hK)
        have hcard := Finset.pred_card_le_card_erase (s := ds) (a := K.2)
        show ds.card ≤ c.limit
        omega
      · exact h.within owner ds fun d hd => hold d hd fun hK => howner (congrArg Prod.fst hK)

lemma lose (hk : c.Current k x)
    (hdeadline : ∀ k', k' ≠ k → ds k' = c.deadlines k')
    (husage : (us = c.usage ∧ ∀ K o, c.tunnels K = some o → o.session ≠ k) ∨
      ∃ rows, us = update c.usage k (some (ledger sizes rows)) ∧ (ds k).isSome ∧
        ∀ K o, c.tunnels K = some o → o.session = k → o.row ∈ rows)
    (hbrowser : (bs = c.browserUsage ∧ ∀ i, x.browserSessions i = none) ∨
      ∃ u, bs = update c.browserUsage k (some u) ∧ (ds k).isSome)
    (hq : Sub q c.pending) (hclaims : ∀ K claim, q K = some claim → claim.session ≠ k) :
    Sound sizes { c.dropLive k.proxyId with
      deadlines := ds
      usage := us
      browserUsage := bs
      pending := q } := by
  have hother : ∀ {k' z}, k' ≠ k → c.Current k' z → (c.dropLive k.proxyId).Current k' z :=
    fun hne hz => hz.dropLive hk hne
  have hself : (c.dropLive k.proxyId).Lost k := hk.lost_dropLive (h.proper _ x hk.1).2
  have hlost : ∀ {k'}, c.Lost k' → (c.dropLive k.proxyId).Lost k' := fun hl => hl.dropLive
  have hnot : c.usage k = none := by
    cases hu : c.usage k with
    | none => rfl
    | some u => exact absurd (h.usage k u hu).1 hk.not_lost
  refine ⟨fun p z hz => h.proper p z (update_none_eq_some.1 hz).2, h.key, ?_, ?_, ?_, ?_, ?_, ?_⟩
  · intro K o ho
    by_cases hs : o.session = k
    · rcases husage with ⟨_, hnone⟩ | ⟨rows, rfl, _, _⟩
      · exact absurd hs (hnone K o ho)
      · exact .inr ⟨hs.symm ▸ hself, isSome_update_some.2 (.inl hs)⟩
    · rcases h.owned K o ho with ⟨z, hz, hh⟩ | ⟨hl, hu⟩
      · exact .inl ⟨z, hother hs hz, hh⟩
      · refine .inr ⟨hlost hl, ?_⟩
        rcases husage with ⟨rfl, _⟩ | ⟨rows, rfl, _, _⟩
        · exact hu
        · exact isSome_update_some.2 (.inr hu)
  · intro i o ho
    by_cases hs : o.session = k
    · rcases hbrowser with ⟨_, hnone⟩ | ⟨u, rfl, _⟩
      · cases (hnone i).symm.trans (h.holdsBrowser ho (hs ▸ hk)).2
      · exact .inr ⟨hs.symm ▸ hself, isSome_update_some.2 (.inl hs)⟩
    · rcases h.browser i o ho with ⟨z, hz, hh⟩ | ⟨hl, hu⟩
      · exact .inl ⟨z, hother hs hz, hh⟩
      · refine .inr ⟨hlost hl, ?_⟩
        rcases hbrowser with ⟨rfl, _⟩ | ⟨u, rfl, _⟩
        · exact hu
        · exact isSome_update_some.2 (.inr hu)
  · have hrest : ∀ k' u, c.usage k' = some u → (c.dropLive k.proxyId).Lost k' ∧
        (ds k').isSome ∧ ∃ rows, u = ledger sizes rows ∧
          ∀ K o, c.tunnels K = some o → o.session = k' → o.row ∈ rows := by
      intro k' u hu
      obtain ⟨hl, hd, hrest⟩ := h.usage k' u hu
      refine ⟨hlost hl, ?_, hrest⟩
      rw [hdeadline k' (by rintro rfl; cases hnot.symm.trans hu)]
      exact hd
    intro k' u hu
    rcases husage with ⟨rfl, _⟩ | ⟨rows, rfl, hd, hmem⟩
    · exact hrest k' u hu
    · rcases update_some_eq_some.1 hu with ⟨rfl, rfl⟩ | ⟨_, hu⟩
      · exact ⟨hself, hd, rows, rfl, hmem⟩
      · exact hrest k' u hu
  · intro k' hu
    rcases hbrowser with ⟨rfl, _⟩ | ⟨u, rfl, _⟩
    · exact hlost (h.browserUsage k' hu)
    · rcases isSome_update_some.1 hu with rfl | hu
      · exact hself
      · exact hlost (h.browserUsage k' hu)
  · intro K claim hc
    obtain ⟨hready, z, hz, htold⟩ := h.claims K claim (hq K claim hc)
    exact ⟨hready, z, hother (hclaims K claim hc) hz, htold⟩
  · refine h.within.mono rfl fun K hK => hK.imp id fun hK => ?_
    obtain ⟨claim, hc⟩ := Option.isSome_iff_exists.1 hK
    exact Option.isSome_iff_exists.2 ⟨claim, hq K claim hc⟩

lemma clearOrphans (ht : ∀ K o, c.tunnels K = some o → o.session.proxyId ≠ p ∨ c.Holds o)
    (hb : ∀ i o, c.browserSessions i = some o → o.session.proxyId ≠ p ∨ c.HoldsBrowser i o) :
    Sound sizes { c with
      usage := fun k => if k.proxyId = p then none else c.usage k
      browserUsage := fun k => if k.proxyId = p then none else c.browserUsage k
      deadlines := fun k => if k.proxyId = p then none else c.deadlines k } := by
  refine ⟨h.proper, h.key, ?_, ?_, ?_, ?_, h.claims, h.within⟩
  · intro K o ho
    rcases h.owned K o ho with hh | ⟨hlost, hu⟩
    · exact .inl hh
    · rcases ht K o ho with hp | hh
      · exact .inr ⟨hlost, by simpa only [if_neg hp] using hu⟩
      · exact .inl hh
  · intro i o ho
    rcases h.browser i o ho with hh | ⟨hlost, hu⟩
    · exact .inl hh
    · rcases hb i o ho with hp | hh
      · exact .inr ⟨hlost, by simpa only [if_neg hp] using hu⟩
      · exact .inl hh
  · intro k u hu
    obtain ⟨hp, hu⟩ := Option.ite_none_left_eq_some.1 hu
    obtain ⟨hlost, hd, hrest⟩ := h.usage k u hu
    exact ⟨hlost, by simpa only [if_neg hp] using hd, hrest⟩
  · intro k hu
    obtain ⟨u, hu⟩ := Option.isSome_iff_exists.1 hu
    exact h.browserUsage k (Option.isSome_iff_exists.2 ⟨u, (Option.ite_none_left_eq_some.1 hu).2⟩)

lemma join (hk : c.Current k x) (hx : x.generation.isSome)
    (ht : ∀ K o, t K = some o →
      (c.tunnels K = some o ∧ (o.session.proxyId ≠ k.proxyId ∨ c.Holds o)) ∨
      (o.row.key = K ∧ o.session = k ∧ x.rows o.row.registrationId = some o.row))
    (hwithin : { c with tunnels := t }.Within)
    (hb : ∀ i o, b i = some o →
      (c.browserSessions i = some o ∧ (c.browserUsage o.session).isSome ∧
        o.session.proxyId ≠ k.proxyId) ∨
      (c.setLive k.proxyId x.joined).HoldsBrowser i o) :
    Sound sizes
      { c.setLive k.proxyId x.joined with
        tunnels := t
        browserSessions := b
        usage := fun k' => if k'.proxyId = k.proxyId then none else c.usage k'
        browserUsage := fun k' => if k'.proxyId = k.proxyId then none else c.browserUsage k'
        deadlines := fun k' => if k'.proxyId = k.proxyId then none else c.deadlines k' } := by
  obtain ⟨hknown, htold, hblank, hrow, hbrowser⟩ := h.properOf hk
  have hset : ∀ {k' z}, (c.setLive k.proxyId x.joined).Current k' z ↔
      (k' = k ∧ z = x.joined) ∨ (k' ≠ k ∧ c.Current k' z) := hk.setLive rfl
  have hs : Sound sizes
      { c.setLive k.proxyId x.joined with
        tunnels := t
        browserSessions := b
        pending := c.pending } := by
    refine h.rebuild hk rfl ⟨fun _ => hx, fun _ => rfl, hblank, hrow, hbrowser⟩ ?_ ?_
      (fun K claim hc => ⟨hc, fun _ => rfl⟩) hwithin
    · intro K o ho
      rcases ht K o ho with ⟨ho, hp | hh⟩ | ⟨hkey, hs, hrow⟩
      · exact .inr ⟨fun hs => hp (by rw [hs]), ho⟩
      · by_cases hs : o.session = k
        · have hheld := (h.holds ho (hs ▸ hk)).2
          exact .inl ⟨hs, h.key K o ho, rfl, hheld⟩
        · exact .inr ⟨hs, ho⟩
      · exact .inl ⟨hs, hkey, rfl, hrow⟩
    · intro i o ho
      rcases hb i o ho with ⟨ho, _, hp⟩ | ⟨z, hz, hh⟩
      · exact .inr ⟨fun hs => hp (by rw [hs]), h.browser i o ho⟩
      · rcases hset.1 hz with ⟨hs, rfl⟩ | ⟨hs, hz⟩
        · exact .inl ⟨hs, hh⟩
        · exact .inr ⟨hs, .inl ⟨z, hz, hh⟩⟩
  have hholds : ∀ o, c.Holds o → (c.setLive k.proxyId x.joined).Holds o := by
    rintro o ⟨z, hz, hactive, hheld⟩
    by_cases hs : o.session = k
    · cases hk.unique (hs ▸ hz)
      exact ⟨x.joined, hset.2 (.inl ⟨hs, rfl⟩), rfl, hheld⟩
    · exact ⟨z, hset.2 (.inr ⟨hs, hz⟩), hactive, hheld⟩
  refine hs.clearOrphans ?_ ?_
  · intro K o ho
    rcases ht K o ho with ⟨_, hp | hh⟩ | ⟨_, hs, hheld⟩
    · exact .inl hp
    · exact .inr (hholds o hh)
    · exact .inr ⟨x.joined, hset.2 (.inl ⟨hs, rfl⟩), rfl, hheld⟩
  · intro i o ho
    rcases hb i o ho with ⟨_, _, hp⟩ | hh
    · exact .inl hp
    · exact .inr hh

lemma converge (hpending : ∀ K, c.pending K = none)
    (ht : ∀ K o, t K = some o → o.row.key = K ∧ c.Holds o)
    (hwithin : { c with tunnels := t }.Within)
    (hb : ∀ i o, b i = some o →
      (c.browserSessions i = some o ∧ (c.browserUsage o.session).isSome) ∨
      { c with live := fun p => (c.live p).map Live.told }.HoldsBrowser i o) :
    Sound sizes { c with
      ready := true
      live := fun p => (c.live p).map Live.told
      tunnels := t
      browserSessions := b } := by
  have hback : ∀ {k z}, { c with live := fun p => (c.live p).map Live.told }.Current k z →
      ∃ x, c.Current k x := by
    rintro k z ⟨hz, hi⟩
    obtain ⟨x, hx, rfl⟩ := Option.map_eq_some_iff.1 hz
    exact ⟨x, hx, x.told_incarnation.symm.trans hi⟩
  have hlost : ∀ {k}, c.Lost k →
      { c with live := fun p => (c.live p).map Live.told }.Lost k := by
    intro k hl
    refine ⟨hl.1, fun z hz => ?_⟩
    obtain ⟨x, hx⟩ := hback hz
    exact hl.2 x hx
  refine ⟨?_, fun K o ho => (ht K o ho).1, ?_, ?_, ?_, fun k hu => hlost (h.browserUsage k hu), ?_,
    hwithin⟩
  · intro p z hz
    obtain ⟨x, hx, rfl⟩ := Option.map_eq_some_iff.1 hz
    obtain ⟨hproper, hlt⟩ := h.proper p x hx
    exact ⟨hproper.afterTold, x.told_incarnation.symm ▸ hlt⟩
  · intro K o ho
    obtain ⟨x, hx, hactive, hrow⟩ := (ht K o ho).2
    refine .inl ⟨x.told, ⟨Option.map_eq_some_iff.2 ⟨x, hx.1, rfl⟩, x.told_incarnation.trans hx.2⟩,
      ?_⟩
    rw [x.told_status, x.told_rows]
    exact ⟨hactive, hrow⟩
  · intro i o ho
    rcases hb i o ho with ⟨_, hu⟩ | hh
    · exact .inr ⟨hlost (h.browserUsage _ hu), hu⟩
    · exact .inl hh
  · intro k u hu
    obtain ⟨hl, hd, rows, hrows, _⟩ := h.usage k u hu
    refine ⟨hlost hl, hd, rows, hrows, fun K o ho hs => ?_⟩
    obtain ⟨x, hx, _⟩ := (ht K o ho).2
    exact absurd (hs ▸ hl) hx.not_lost
  · intro K claim hc
    cases (hpending K).symm.trans hc

end

end Sound

end Core

lemma Move.sound (h : Move sizes l kept c es c') (hs : c.Sound sizes) :
    c'.Sound sizes := by
  cases h with
  | opened hp => exact hs.opened hp
  | snapshot hk hx _ hrows hbrowser _ _ =>
    have hnot := hs.untold hk hx
    refine hs.replaceJoining hk (by rw [hx]; exact nofun) rfl
      ⟨fun _ => rfl, fun ht => ?_, nofun, fun i r hr => (hrows i r hr).1, hbrowser⟩
    cases hnot.symm.trans ht
  | advance hk _ _ _ =>
    obtain ⟨hknown, htold, _, hrow, hbrowser⟩ := hs.properOf hk
    exact hs.amend hk rfl ⟨fun _ => rfl, htold, nofun, hrow, hbrowser⟩ id id
      (fun _ _ _ _ hr => hr) (fun _ _ _ _ hr => hr)
  | remember hk | forget hk =>
    obtain ⟨hknown, htold, hblank, hrow, hbrowser⟩ := hs.properOf hk
    exact hs.amend hk rfl ⟨hknown, htold, hblank, hrow, hbrowser⟩ id id
      (fun _ _ _ _ hr => hr) (fun _ _ _ _ hr => hr)
  | shrink ht hp hb => exact hs.shrink ht hp hb
  | claim _ hready hk hx hclaim hroom _ => exact hs.admits hready (hclaim ▸ hk) hx hroom
  | publish hk _ _ _ hrow hclaim hsession => exact hs.publish hk hrow hclaim hsession
  | dropRow hk _ _ _ _ => exact hs.dropRow hk
  | release _ ho hu _ => exact hs.release ho hu
  | releaseLast _ ho hu hrows _ => exact hs.releaseLast ho hu hrows
  | renewRow hk hid hnew hkey => exact hs.renewRow hk hid hnew hkey
  | browserUp hk hg hid => exact hs.browserUp hk hg hid
  | browserDown hk hb hid => exact hs.browserDown hk hb hid
  | resync hk _ _ hq hclaims => exact hs.resync hk hq hclaims
  | unready hactive => exact hs.unready hactive
  | lose hk hdeadline _ _ _ husage hbrowser hq hclaims =>
    have hs' := hs.lose hk hdeadline husage hbrowser hq hclaims
    exact ⟨hs'.1, hs'.2, hs'.3, hs'.4, hs'.5, hs'.6, hs'.7, hs'.8⟩
  | join hk hx _ ht hwithin hb _ =>
    have hs' := hs.join hk hx ht (hwithin hs.within) hb
    exact ⟨hs'.1, hs'.2, hs'.3, hs'.4, hs'.5, hs'.6, hs'.7, hs'.8⟩
  | converge hpending ht hwithin hb _ _ _ => exact hs.converge hpending ht hwithin hb
  | activate hk hx hg =>
    obtain ⟨_, htold, hblank, hrow, hbrowser⟩ := hs.properOf hk
    exact hs.replaceJoining hk (by rw [hx]; exact nofun) rfl
      ⟨fun _ => hg, fun _ => rfl, hblank, hrow, hbrowser⟩
  | expireOrphan => exact hs.expireOrphan
  | _ =>
    exact ⟨hs.1, hs.2, hs.3, hs.4, hs.5, hs.6, hs.7, hs.8⟩

lemma Moves.sound (h : Moves sizes l kept c es c') (hs : c.Sound sizes) :
    c'.Sound sizes := h.keeps Move.sound hs

end Chan.Control
