import Chan.Control.Commands
import Chan.Control.Authority

namespace Chan.Control
open Utf AssocMap Function Transition

structure Killing (k : SessionKey) (c : Core) (log : List Effect) : Prop where
  drawn : ∀ i ids a, .send k (.killRegistrations i ids) a ∈ log → i < c.nextUuid
  own : ∀ i ids a, .send k (.killRegistrations i ids) a ∈ log → ∀ command,
    c.commands i = some command → command.session = k

lemma Killing.stay (h : Killing k c log)
    (hes : ∀ i ids a, Effect.send k (.killRegistrations i ids) a ∉ es)
    (hnext : c.nextUuid ≤ c'.nextUuid) (hcommands : Sub c'.commands c.commands) :
    Killing k c' (log ++ es) := by
  have hlog : ∀ i ids a, .send k (.killRegistrations i ids) a ∈ log ++ es →
      .send k (.killRegistrations i ids) a ∈ log := fun i ids a hmem =>
    (List.mem_append.1 hmem).resolve_right (hes i ids a)
  exact ⟨fun i ids a hmem => Nat.lt_of_lt_of_le (h.drawn i ids a (hlog i ids a hmem)) hnext,
    fun i ids a hmem command hc => h.own i ids a (hlog i ids a hmem) command (hcommands _ _ hc)⟩

lemma Killing.kill (h : Killing k c log) (hcommand : command.session = k') :
    Killing k { c with
      commands := update c.commands c.nextUuid (some command)
      nextUuid := c.nextUuid + 1 } (log ++ [.send k' (.killRegistrations c.nextUuid ids) a]) := by
  have hcases : ∀ i ids' a', .send k (.killRegistrations i ids') a' ∈
      log ++ [.send k' (.killRegistrations c.nextUuid ids) a] →
      (.send k (.killRegistrations i ids') a' ∈ log ∧ i < c.nextUuid) ∨
        (i = c.nextUuid ∧ k' = k) := by
    intro i ids' a' hmem
    rcases List.mem_append.1 hmem with hmem | hmem
    · exact .inl ⟨hmem, h.drawn i ids' a' hmem⟩
    · obtain ⟨hk, hframe, _⟩ := Effect.send.inj (List.mem_singleton.1 hmem)
      exact .inr ⟨(ServerFrame.killRegistrations.inj hframe).1, hk.symm⟩
  refine ⟨fun i ids' a' hmem => ?_, fun i ids' a' hmem command' hc => ?_⟩
  · rcases hcases i ids' a' hmem with ⟨_, hlt⟩ | ⟨rfl, _⟩
    · exact Nat.lt_succ_of_lt hlt
    · exact Nat.lt_succ_self _
  · grind [h.own, update_some_eq_some]

lemma Move.killing (h : Move sizes l kept c es c') (hk : Killing k c log) :
    Killing k c' (log ++ es) := by
  cases h with
  | emit hes hn => exact hk.stay (fun _ _ _ hmem => hes _ hmem) hn (.refl _)
  | kill hcommand => exact hk.kill hcommand
  | settleCommand _ =>
    refine hk.stay (fun i ids a hmem => ?_) le_rfl (Sub.update_none _ _)
    split at hmem
    · cases List.mem_singleton.1 hmem
    · cases hmem
  | claim _ _ _ _ _ _ hes =>
    refine hk.stay (fun i ids a hmem => ?_) le_rfl (.refl _)
    rcases List.mem_append.1 hmem with hmem | hmem
    · exact hes _ hmem
    · cases List.mem_singleton.1 hmem
  | converge _ _ _ _ _ _ _ =>
    refine hk.stay (fun i ids a hmem => ?_) le_rfl (.refl _)
    obtain ⟨_, _, heq⟩ := List.mem_map.1 hmem
    cases heq
  | revoke =>
    exact hk.stay (fun _ _ _ hmem => nomatch List.mem_singleton.1 hmem) (Nat.le_succ _) (.refl _)
  | snapshot | settleRevocation | resync | join =>
    exact hk.stay (fun _ _ _ hmem => nomatch List.mem_singleton.1 hmem) le_rfl (.refl _)
  | _ => exact hk.stay (fun _ _ _ hmem => nomatch hmem) le_rfl (.refl _)

def Live.Knows (x : Live) (i : Uuid) : Prop := (x.rows i).isSome ∨ i ∈ x.removed

def Apart (k : SessionKey) (mine : Uuid → Prop) (past : Finset Uuid) (c : Core) : Prop :=
  ∀ p x, c.live p = some x → ∀ i, x.Knows i →
    ((⟨p, x.incarnation⟩ : SessionKey) = k → i ∈ past) ∧ (p ≠ k.proxyId → ¬ mine i)

lemma Apart.setLive (h : Apart k mine past c) (hk : c.Current k₀ x)
    (hlive : c'.live = (c.setLive k₀.proxyId y).live) (hi : y.incarnation = x.incarnation)
    (hy : ∀ i, y.Knows i → x.Knows i ∨
    ((k₀ = k → i ∈ past) ∧ (k₀.proxyId ≠ k.proxyId → ¬ mine i))) :
    Apart k mine past c' := by
  intro p z hz i hknows
  rw [hlive] at hz
  rcases update_some_eq_some.1 hz with ⟨rfl, rfl⟩ | ⟨_, hz⟩
  · have hkey : (⟨k₀.proxyId, z.incarnation⟩ : SessionKey) = k₀ :=
      SessionKey.ext rfl (hi.trans hk.2)
    rw [hkey]
    rcases hy i hknows with hknows | hy
    · have hx := h k₀.proxyId x hk.1 i hknows
      rwa [← hi, hkey] at hx
    · exact hy
  · exact h p z hz i hknows

lemma Apart.sub (h : Apart k mine past c) (hlive : ∀ p y, c'.live p = some y →
    ∃ x, c.live p = some x ∧ y.incarnation = x.incarnation ∧ ∀ i, y.Knows i → x.Knows i) :
    Apart k mine past c' := by
  intro p y hy i hknows
  obtain ⟨x, hx, hi, hsub⟩ := hlive p y hy
  rw [hi]
  exact h p x hx i (hsub i hknows)

lemma Apart.mono (h : Apart k mine past c) (hsub : past ⊆ past') : Apart k mine past' c :=
  fun p x hx i hknows => (h p x hx i hknows).imp_left fun hi heq => hsub (hi heq)

lemma Live.knows_told {x : Live} : x.told.Knows i ↔ x.Knows i := by
  unfold Live.told
  split <;> rfl

lemma Move.apart (h : Move sizes l kept c es c') (ha : Apart k mine past c)
    (hreg : ∀ k₀, l.op.session = some k₀ → ∀ i ∈ l.op.registrations,
      (k₀ = k → i ∈ past) ∧ (k₀.proxyId ≠ k.proxyId → ¬ mine i)) : Apart k mine past c' := by
  have hsame : c'.live = c.live → Apart k mine past c' := fun hlive p x hx => ha p x (hlive ▸ hx)
  cases h with
  | @opened _ p boot hp =>
    intro q y hy i hknows
    rcases update_some_eq_some.1 hy with ⟨_, rfl⟩ | ⟨_, hy⟩
    · rcases hknows with hknows | hknows
      · cases hknows
      · exact absurd hknows (Finset.notMem_empty i)
    · exact ha q y hy i hknows
  | snapshot hk _ hop hrows _ hremoved _ =>
    refine ha.setLive hk rfl rfl fun i hknows => .inr ?_
    have hmem : i ∈ l.op.registrations := by
      rcases hknows with hknows | hknows
      · exact (hrows i _ (Option.get_mem hknows)).2
      · exact hremoved i hknows
    exact hreg _ (by rw [hop]; rfl) i hmem
  | remember hk hl hid _ hremoved =>
    refine ha.setLive hk rfl rfl fun i hknows => ?_
    rcases hknows with hknows | hknows
    · exact .inl (.inl hknows)
    · rcases Finset.mem_insert.1 (hremoved hknows) with rfl | hknows
      · exact .inr (hreg _ hl _ hid)
      · exact .inl (.inr hknows)
  | forget hk _ =>
    refine ha.setLive hk rfl rfl fun i hknows => .inl ?_
    exact hknows.imp_right fun hknows => Finset.mem_of_mem_erase hknows
  | publish hk hl _ hid _ _ _ =>
    refine ha.setLive hk rfl rfl fun i hknows => ?_
    rcases hknows with hknows | hknows
    · rcases isSome_update_some.1 hknows with rfl | hknows
      · exact .inr (hreg _ hl _ hid)
      · exact .inl (.inl hknows)
    · exact .inl (.inr hknows)
  | dropRow hk _ hremoved _ hnone =>
    refine ha.setLive hk rfl rfl fun i hknows => .inl ?_
    rcases hknows with hknows | hknows
    · exact .inl (isSome_update_none.1 hknows).2
    · rcases Finset.mem_insert.1 (hremoved hknows) with rfl | hknows'
      · by_contra hnot
        rw [hnone (Option.not_isSome_iff_eq_none.1 fun hrow => hnot (.inl hrow))] at hknows
        exact hnot (.inr hknows)
      · exact .inr hknows'
  | renewRow hk hid _ _ =>
    refine ha.setLive hk rfl rfl fun i hknows => .inl ?_
    refine hknows.imp_left fun hknows => ?_
    rcases isSome_update_some.1 hknows with rfl | hknows
    · exact Option.isSome_iff_exists.2 ⟨_, hid⟩
    · exact hknows
  | resync hk _ _ _ _ =>
    refine ha.setLive hk rfl rfl fun i hknows => ?_
    rcases hknows with hknows | hknows
    · cases hknows
    · exact absurd hknows (Finset.notMem_empty i)
  | lose hk _ _ _ _ _ _ _ _ =>
    exact ha.sub fun p y hy => ⟨y, (update_none_eq_some.1 hy).2, rfl, fun _ => id⟩
  | converge _ _ _ _ _ _ _ =>
    refine ha.sub fun p y hy => ?_
    obtain ⟨x, hx, rfl⟩ := Option.map_eq_some_iff.1 hy
    exact ⟨x, hx, x.told_incarnation, fun _ => Live.knows_told.1⟩
  | advance hk | browserUp hk | browserDown hk | join hk | activate hk =>
    exact ha.setLive hk rfl rfl fun _ => .inl
  | _ => exact hsame rfl

/-- A session stands at a generation, and the controller knows what it has up unless too many
removals are remembered. -/
structure Steady (k : SessionKey) (generation : Option Nat) (up : Finset Uuid) (c : Core) :
    Prop where
  reached : ∀ x, c.Current k x → x.generation = generation
  cover : ∀ x, c.Current k x → x.removed.card < maxRemovedRegistrations → ∀ i ∈ up, x.Knows i
  unopened : c.nextIncarnation ≤ k.incarnation → generation = none ∧ up = ∅

lemma Steady.sub (h : Steady k generation up c) (hlive : ∀ y, c'.Current k y → ∃ x,
      c.Current k x ∧ y.generation = x.generation ∧ x.removed ⊆ y.removed ∧
      ∀ i, y.removed.card < maxRemovedRegistrations → x.Knows i → y.Knows i)
    (hnext : c.nextIncarnation ≤ c'.nextIncarnation) : Steady k generation up c' := by
  refine ⟨fun y hy => ?_, fun y hy hcard i hi => ?_, fun hle => h.unopened (hnext.trans hle)⟩
  · obtain ⟨x, hx, hg, _⟩ := hlive y hy
    rw [hg]
    exact h.reached x hx
  · obtain ⟨x, hx, _, hsub, hknows⟩ := hlive y hy
    exact hknows i hcard (h.cover x hx (Nat.lt_of_le_of_lt (Finset.card_le_card hsub) hcard) i hi)

lemma Steady.setLive (h : Steady k generation up c) (hk : c.Current k₀ x)
    (hlive : c'.live = (c.setLive k₀.proxyId y).live) (hi : y.incarnation = x.incarnation)
    (hnext : c.nextIncarnation ≤ c'.nextIncarnation)
    (hy : k₀ = k → y.generation = x.generation ∧ x.removed ⊆ y.removed ∧
      ∀ i, y.removed.card < maxRemovedRegistrations → x.Knows i → y.Knows i) :
    Steady k generation up c' := by
  refine h.sub (fun z hz => ?_) hnext
  have hz : (c.setLive k₀.proxyId y).Current k z := ⟨hlive ▸ hz.1, hz.2⟩
  rcases (hk.setLive hi).1 hz with ⟨rfl, rfl⟩ | ⟨_, hz⟩
  · exact ⟨x, hk, hy rfl⟩
  · exact ⟨z, hz, rfl, Finset.Subset.refl _, fun _ _ => id⟩

lemma Steady.opened (h : Steady k generation up c) :
    Steady k generation up { c.setLive p (.opened c.nextIncarnation boot) with
      nextIncarnation := c.nextIncarnation + 1 } := by
  have hcases : ∀ y, (c.setLive p (.opened c.nextIncarnation boot)).Current k y →
      (y = .opened c.nextIncarnation boot ∧ c.nextIncarnation ≤ k.incarnation) ∨
        c.Current k y := by
    rintro y ⟨hy, hi⟩
    rcases update_some_eq_some.1 hy with ⟨_, rfl⟩ | ⟨_, hy⟩
    · exact .inl ⟨rfl, Nat.le_of_eq hi⟩
    · exact .inr ⟨hy, hi⟩
  refine ⟨fun y hy => ?_, fun y hy hcard i hi => ?_, fun hle =>
    h.unopened (Nat.le_of_succ_le hle)⟩
  · rcases hcases y hy with ⟨rfl, hle⟩ | hy
    · exact (h.unopened hle).1.symm
    · exact h.reached y hy
  · rcases hcases y hy with ⟨_, hle⟩ | hy
    · rw [(h.unopened hle).2] at hi
      cases hi
    · exact h.cover y hy hcard i hi

lemma Steady.replaced {c c' : Core} {x y : Live} (hopen : k.incarnation < c.nextIncarnation)
    (hk : c.Current k x)
    (hlive : c'.live = (c.setLive k.proxyId y).live) (hi : y.incarnation = x.incarnation)
    (hnext : c'.nextIncarnation = c.nextIncarnation) (hg : y.generation = generation)
    (hcover : y.removed.card < maxRemovedRegistrations → ∀ i ∈ up, y.Knows i) :
    Steady k generation up c' := by
  have hcases : ∀ z, c'.Current k z → z = y := by
    intro z hz
    have hz : (c.setLive k.proxyId y).Current k z := ⟨hlive ▸ hz.1, hz.2⟩
    rcases (hk.setLive hi).1 hz with ⟨_, rfl⟩ | ⟨hne, _⟩
    · rfl
    · exact absurd rfl hne
  refine ⟨fun z hz => by rw [hcases z hz, hg], fun z hz hcard => ?_, fun hle => ?_⟩
  · rw [hcases z hz] at hcard ⊢
    exact hcover hcard
  · exact absurd hopen (Nat.not_lt.2 (hnext ▸ hle))

lemma Live.told_known (x : Live) :
    x.told.generation = x.generation ∧ x.told.removed = x.removed := by
  unfold Live.told
  split <;> exact ⟨rfl, rfl⟩

lemma ControllerOp.mayResync_of_generation {op : ControllerOp} (h : op.generation.isSome) :
    op.mayResync = true := by
  cases op <;> first | rfl | exact h

lemma Move.starts (h : Move sizes l kept c es c') (hs : c.Sound sizes)
    (hmem : .send k frame a ∈ es)
    (hframe : ∃ g, frame = .resyncRequired g ∨ frame = .snapshotAccepted g) :
    ((∃ g, frame = .resyncRequired g) ∧ l.op.session = some k ∧ l.op.mayResync = true) ∨
      ∃ g given refused sessions, frame = .snapshotAccepted g ∧
        l.op = .acceptSnapshot k.proxyId k.incarnation g given refused sessions ∧
        Steady k (some g) l.op.registrations.toFinset c' := by
  obtain ⟨g, hframe⟩ := hframe
  cases h with
  | emit hes _ => rcases hframe with rfl | rfl <;> exact absurd (hes _ hmem) id
  | claim _ _ _ _ _ _ hes =>
    rcases List.mem_append.1 hmem with hmem | hmem
    · rcases hframe with rfl | rfl <;> exact absurd (hes _ hmem) id
    · cases List.mem_singleton.1 hmem
      rcases hframe with hframe | hframe <;> cases hframe
  | settleCommand _ =>
    split at hmem
    · cases List.mem_singleton.1 hmem
    · cases hmem
  | converge _ _ _ _ _ _ _ =>
    obtain ⟨_, _, heq⟩ := List.mem_map.1 hmem
    cases heq
    rcases hframe with hframe | hframe <;> cases hframe
  | resync _ hl hmay _ _ =>
    cases List.mem_singleton.1 hmem
    exact .inl ⟨⟨_, rfl⟩, hl, hmay⟩
  | @snapshot g given refused sessions rows browser removed _ k₀ a x hk _ hop _ _ _ hcover =>
    cases List.mem_singleton.1 hmem
    refine .inr ⟨g, given, refused, sessions, rfl, hop, ?_⟩
    exact .replaced (hk.2 ▸ (hs.proper _ _ hk.1).2) hk rfl rfl rfl rfl fun _ i hi =>
      hcover i (List.mem_toFinset.1 hi)
  | kill | revoke | settleRevocation | join =>
    cases List.mem_singleton.1 hmem <;> rcases hframe with hframe | hframe <;> cases hframe
  | _ => cases hmem

lemma Move.steady (h : Move sizes l kept c es c')
    (hstart : l.op.session = some k → l.op.mayResync = false)
    (hquiet : ∀ g a, .send k (.snapshotAccepted g) a ∉ es) (ht : Steady k generation up c) :
    Steady k generation up c' := by
  have hsame : c'.live = c.live → c.nextIncarnation ≤ c'.nextIncarnation →
      Steady k generation up c' := fun hlive hnext =>
    ht.sub (fun y hy => ⟨y, ⟨hlive ▸ hy.1, hy.2⟩, rfl, Finset.Subset.refl _, fun _ _ => id⟩) hnext
  have hno : ∀ k₀, l.op.session = some k₀ → l.op.mayResync = true → k₀ ≠ k := by
    rintro k₀ hsession hmay rfl
    rw [hstart hsession] at hmay
    cases hmay
  cases h with
  | opened _ => exact ht.opened
  | snapshot hk _ _ _ _ _ _ =>
    refine ht.setLive hk rfl rfl le_rfl fun heq => ?_
    subst heq
    exact absurd (List.mem_singleton.2 rfl) (hquiet _ _)
  | advance hk _ hl hg =>
    have hmay := ControllerOp.mayResync_of_generation (hg ▸ Option.isSome_some)
    exact ht.setLive hk rfl rfl le_rfl fun h => absurd h (hno _ hl hmay)
  | remember hk _ _ hsub _ =>
    exact ht.setLive hk rfl rfl le_rfl fun _ =>
      ⟨rfl, hsub, fun _ _ hknows => hknows.imp_right fun h => hsub h⟩
  | forget hk hop =>
    exact ht.setLive hk rfl rfl le_rfl fun h =>
      absurd h (hno _ (by rw [hop]; rfl) (by rw [hop]; rfl))
  | publish hk hl hg _ _ _ _ =>
    have hmay := ControllerOp.mayResync_of_generation hg
    exact ht.setLive hk rfl rfl le_rfl fun h => absurd h (hno _ hl hmay)
  | @dropRow _ i _ _ _ hk hsub _ hfull _ =>
    refine ht.setLive hk rfl rfl le_rfl fun _ => ⟨rfl, hsub, fun j hcard hknows => ?_⟩
    rcases hknows with hrow | hremoved
    · by_cases hj : j = i
      · subst hj
        exact .inr (hfull hcard (Option.isSome_iff_ne_none.1 hrow))
      · exact .inl (isSome_update_none.2 ⟨hj, hrow⟩)
    · exact .inr (hsub hremoved)
  | renewRow hk _ _ _ =>
    refine ht.setLive hk rfl rfl le_rfl fun _ => ⟨rfl, Finset.Subset.refl _, fun j _ => ?_⟩
    exact Or.imp_left fun hrow => isSome_update_some.2 (.inr hrow)
  | browserUp hk | browserDown hk | join hk | activate hk =>
    exact ht.setLive hk rfl rfl le_rfl fun _ => ⟨rfl, Finset.Subset.refl _, fun _ _ => id⟩
  | resync hk hl hmay _ _ =>
    exact ht.setLive hk rfl rfl le_rfl fun h => absurd h (hno _ hl hmay)
  | lose hk _ _ _ _ _ _ _ _ =>
    exact ht.sub (fun y hy => ⟨y, ⟨(update_none_eq_some.1 hy.1).2, hy.2⟩, rfl,
      Finset.Subset.refl _, fun _ _ => id⟩) le_rfl
  | converge _ _ _ _ _ _ _ =>
    refine ht.sub (fun y hy => ?_) le_rfl
    obtain ⟨x, hx, rfl⟩ := Option.map_eq_some_iff.1 hy.1
    obtain ⟨hgeneration, hremoved⟩ := x.told_known
    exact ⟨x, ⟨hx, x.told_incarnation ▸ hy.2⟩, hgeneration, hremoved.symm.subset,
      fun _ _ => Live.knows_told.2⟩
  | _ => exact hsame rfl le_rfl

structure Reaches (l : ControllerLabel) (k : SessionKey) (generation : Option Nat)
    (up : Finset Uuid) (c : Core) (es : List Effect) : Prop where
  calm : ∀ g a, .send k (.resyncRequired g) a ∉ es
  stands : (Steady k generation up c ∧ ∀ g a, .send k (.snapshotAccepted g) a ∉ es) ∨
    ∃ g given refused sessions,
      l.op = .acceptSnapshot k.proxyId k.incarnation g given refused sessions ∧
      Steady k (some g) l.op.registrations.toFinset c

lemma Move.reaches (h : Move sizes l kept c es c') (hs : c.Sound sizes)
    (hstart : l.op.session = some k → l.op.mayResync = false)
    (ht : Reaches l k generation up c log) : Reaches l k generation up c' (log ++ es) := by
  have hcalm : ∀ g a, .send k (.resyncRequired g) a ∉ es := by
    intro g a hmem
    rcases h.starts hs hmem ⟨g, .inl rfl⟩ with ⟨_, hl, hmay⟩ | ⟨_, _, _, _, hframe, _⟩
    · rw [hstart hl] at hmay
      cases hmay
    · cases hframe
  refine ⟨fun g a hmem => (List.mem_append.1 hmem).elim (ht.calm g a) (hcalm g a), ?_⟩
  by_cases hquiet : ∀ g a, .send k (.snapshotAccepted g) a ∉ es
  · rcases ht.stands with ⟨hsteady, hlog⟩ | ⟨g, given, refused, sessions, hop, hsteady⟩
    · refine .inl ⟨h.steady hstart hquiet hsteady, fun g a hmem => ?_⟩
      exact (List.mem_append.1 hmem).elim (hlog g a) (hquiet g a)
    · exact .inr ⟨g, given, refused, sessions, hop, h.steady hstart hquiet hsteady⟩
  · simp only [not_forall, not_not] at hquiet
    obtain ⟨g, a, hmem⟩ := hquiet
    rcases h.starts hs hmem ⟨g, .inr rfl⟩ with ⟨⟨_, hframe⟩, _⟩ | ⟨g, _, _, _, _, hop, hsteady⟩
    · cases hframe
    · exact .inr ⟨g, _, _, _, hop, hsteady⟩

lemma ControllerState.reaches_call {s : ControllerState} (hvalid : s.Valid sizes)
    (hstart : l.op.session = some k → l.op.mayResync = false)
    (h : Steady k generation up s.core) :
    Reaches l k generation up (s.call sizes l).1.core (s.call sizes l).turn.2 := by
  have hnone : Reaches l k generation up s.core [] :=
    ⟨fun _ _ => List.not_mem_nil, .inl ⟨h, fun _ _ => List.not_mem_nil⟩⟩
  refine (Trace.Run.invariant
    (I := fun c es => c.Sound sizes ∧ Reaches l k generation up c es) ?_
    (moves_call hvalid l) ⟨hvalid.sound, hnone⟩).2
  exact fun hm hs => ⟨hm.sound hs.1, hm.reaches hs.1 hstart hs.2⟩

namespace ControllerState

variable {sizes : Sizes} {s : ControllerState} {k : SessionKey}

lemma delta_next
    (hs : s.session k = some p) (hg : p.generation.map succGeneration = some g) :
    s.delta k.proxyId k.incarnation g now f =
      (f k p (s.withSession k.proxyId (advanced g now))).answer := by
  obtain ⟨current, hcurrent, rfl⟩ := Option.map_eq_some_iff.1 hg
  rw [delta, requireKey, hs]
  dsimp only
  rw [hcurrent]
  exact if_neg (not_not_intro rfl)

structure Delivers (k : SessionKey) (generation : Option Nat) (up : Finset Uuid) (t : Turn) :
    Prop where
  steady : Steady k generation up t.1.core
  calm : ∀ g a, .send k (.resyncRequired g) a ∉ t.2

lemma Delivers.issueKill (h : Steady k generation up s.core) :
    Delivers k generation up (s.issueKill k' ids purpose now) :=
  ⟨h.sub (fun y hy => ⟨y, hy, rfl, Finset.Subset.refl _, fun _ _ => id⟩) le_rfl,
    fun _ _ hmem => nomatch List.mem_singleton.1 hmem⟩

lemma steady_advanced (g now : Nat) (hopen : k.incarnation < s.nextIncarnation)
    (hs : s.session k = some p)
    (h : Steady k generation up s.core) :
    Steady k (some g) up (s.withSession k.proxyId (advanced g now)).core := by
  obtain ⟨hk, hp⟩ := current_of_session hs
  have hcore := core_withSession (f := advanced g now) hp
  exact .replaced hopen hk (congrArg Core.live hcore) rfl rfl rfl (h.cover p.live hk)

lemma Delivers.refuseRegistration (hopen : k.incarnation < s.nextIncarnation)
    (hs : s.session k = some p) (h : Steady k generation up s.core)
    (hi : i ∉ p.removedRegistrations) :
    Delivers k generation (insert i up) (s.refuseRegistration k i now) := by
  obtain ⟨hk, hp⟩ := current_of_session hs
  obtain ⟨hsub, _, hroom⟩ := rememberRemoval_spec i p
  have hcore := core_withSession (f := ProxySession.rememberRemoval i) hp
  rw [live_rememberRemoval] at hcore
  rw [ControllerState.refuseRegistration, hp, Option.any_some, if_neg (by simpa using hi)]
  refine .issueKill (.replaced hopen hk (congrArg Core.live hcore) rfl rfl
    (h.reached p.live hk) fun hcard j hj => ?_)
  rcases Finset.mem_insert.1 hj with rfl | hj
  · exact .inr (hroom hcard)
  · have hlt := Nat.lt_of_le_of_lt (Finset.card_le_card hsub) hcard
    exact (h.cover _ hk hlt j hj).imp_right fun hremoved => hsub hremoved

lemma session_removePending : (s.removePending K).session k = s.session k := by
  obtain ⟨_, _, _, heq⟩ := s.removePending_eq K
  rw [heq]
  rfl

lemma Delivers.publish (hopen : k.incarnation < s.nextIncarnation)
    (hs : s.session k = some p) (h : Steady k generation up s.core) :
    Delivers k generation (insert row.registrationId up)
      ((s.removePending row.key).publish sizes k q row now) := by
  obtain ⟨hk, _⟩ := current_of_session hs
  have hlive : (s.published sizes k q.baseUrl row).core.live = _ :=
    congrArg Core.live (core_published hs)
  have hsteady : Steady k generation (insert row.registrationId up)
      (s.published sizes k q.baseUrl row).core := by
    refine .replaced hopen hk hlive rfl ?_ (h.reached p.live hk) fun hcard j hj => ?_
    · rw [core_published hs]
      rfl
    · rcases Finset.mem_insert.1 hj with rfl | hj
      · exact .inl (isSome_update_some.2 (.inl rfl))
      · exact (h.cover p.live hk hcard j hj).imp_left fun hrow => isSome_update_some.2 (.inr hrow)
  unfold ControllerState.publish
  dsimp only
  split
  · exact ⟨hsteady, fun _ _ hmem => nomatch hmem⟩
  · split
    · exact .issueKill hsteady
    · exact ⟨hsteady, fun _ _ hmem => nomatch hmem⟩

lemma notMem_of_unpublished (hs : s.session k = some p)
    (h : s.publishesRegistration k i = false) : i ∉ p.removedRegistrations := by
  intro hmem
  obtain ⟨_, hp⟩ := current_of_session hs
  rw [publishesRegistration, hp, Option.any_some, decide_eq_true hmem, Bool.or_true] at h
  cases h

lemma Delivers.tunnelUp (hopen : k.incarnation < s.nextIncarnation) (hs : s.session k = some p)
    (hg : p.generation.map succGeneration = some g)
    (hlease : ¬ row.admissionLeaseExpiresAt ≤ wallNow) (h : Steady k generation up s.core)
    (hfresh : (s.withSession k.proxyId (advanced g now)).publishesRegistration k
      row.registrationId = false) :
    ∃ t : Turn, s.tunnelUp sizes k.proxyId k.incarnation g row now wallNow = t.answer ∧
      Delivers k (some g) (insert row.registrationId up) t := by
  have hsteady := steady_advanced g now hopen hs h
  have hopen : k.incarnation < (s.withSession k.proxyId (advanced g now)).nextIncarnation := hopen
  have hs' : (s.withSession k.proxyId (advanced g now)).session k = some (advanced g now p) :=
    session_withSession hs rfl
  refine ⟨_, by rw [ControllerState.tunnelUp, if_neg hlease, delta_next hs hg], ?_⟩
  dsimp only
  rw [if_neg (by rw [hfresh]; exact Bool.false_ne_true)]
  generalize s.withSession k.proxyId (advanced g now) = s' at *
  have hremoved := notMem_of_unpublished hs' hfresh
  split
  · split
    · have hpending := core_removePending row.key s'
      refine .refuseRegistration (p := advanced g now p) ?_ ?_ ?_ hremoved
      · exact hopen.trans_eq (congrArg Core.nextIncarnation hpending).symm
      · rw [session_removePending, hs']
      · rw [hpending]
        exact hsteady.sub (fun y hy => ⟨y, hy, rfl, Finset.Subset.refl _, fun _ _ => id⟩) le_rfl
    · exact .refuseRegistration hopen hs' hsteady hremoved
  · rename_i hroom
    have hclaimed : s'.claimed k row = true :=
      Bool.eq_true_of_not_eq_false fun h => hroom (.inl h)
    rw [if_pos hclaimed]
    exact .publish hopen hs' hsteady

lemma Delivers.refuseTunnelUp (hopen : k.incarnation < s.nextIncarnation)
    (hs : s.session k = some p) (hg : p.generation.map succGeneration = some g)
    (h : Steady k generation up s.core)
    (hfresh : (s.withSession k.proxyId (advanced g now)).publishesRegistration k i = false) :
    ∃ t : Turn, s.refuseTunnelUp k.proxyId k.incarnation g i now = t.answer ∧
      Delivers k (some g) (insert i up) t := by
  have hs' : (s.withSession k.proxyId (advanced g now)).session k = some (advanced g now p) :=
    session_withSession hs rfl
  refine ⟨_, by rw [ControllerState.refuseTunnelUp, delta_next hs hg], ?_⟩
  rw [if_neg (by rw [hfresh]; exact Bool.false_ne_true)]
  exact .refuseRegistration hopen hs' (steady_advanced _ _ hopen hs h)
    (notMem_of_unpublished hs' hfresh)

lemma removeRegistration_of_current (hs : s.session k = some p) :
    s.removeRegistration sizes k i = s.withdraw sizes k i := by
  obtain ⟨_, hp⟩ := current_of_session hs
  rw [removeRegistration, orphanBytes, hp]
  rfl

lemma steady_forget {up : Finset Uuid} (hopen : k.incarnation < s.nextIncarnation)
    (hs : s.session k = some p)
    (hcover : ∀ j ∈ up, j ≠ i → p.live.Knows j) :
    Steady k p.generation (up.erase i) (s.withSession k.proxyId fun p =>
      { p with removedRegistrations := p.removedRegistrations.erase i }).core := by
  obtain ⟨hk, hp⟩ := current_of_session hs
  refine .replaced hopen hk (congrArg Core.live (core_withSession hp)) rfl rfl rfl fun _ j hj => ?_
  obtain ⟨hne, hj⟩ := Finset.mem_erase.1 hj
  exact (hcover j hj hne).imp_right fun hremoved => Finset.mem_erase.2 ⟨hne, hremoved⟩

lemma Delivers.tunnelDown (hopen : k.incarnation < s.nextIncarnation)
    (hs : s.session k = some p) (hg : p.generation.map succGeneration = some g)
    (hcard : p.removedRegistrations.card < maxRemovedRegistrations)
    (h : Steady k generation up s.core) (hi : i ∈ up) :
    ∃ t : Turn, s.tunnelDown sizes k.proxyId k.incarnation g i now = t.answer ∧
      Delivers k (some g) (up.erase i) t := by
  obtain ⟨hk, _⟩ := current_of_session hs
  have hcover := h.cover p.live hk hcard
  have hknown : ¬ ((p.rows.lookup i).isNone ∧ i ∉ p.removedRegistrations) := by
    rintro ⟨hrow, hremoved⟩
    rcases hcover i hi with hknows | hknows
    · cases (Option.isNone_iff_eq_none.1 hrow).symm.trans (Option.get_mem hknows)
    · exact hremoved hknows
  refine ⟨_, by rw [ControllerState.tunnelDown, delta_next hs hg, if_neg hknown], ?_⟩
  refine ⟨?_, fun _ _ hmem => nomatch hmem⟩
  have hs' : (s.withSession k.proxyId (advanced g now)).session k = some (advanced g now p) :=
    session_withSession hs rfl
  have hopen : k.incarnation < (s.withSession k.proxyId (advanced g now)).nextIncarnation := hopen
  generalize s.withSession k.proxyId (advanced g now) = s' at hs' hopen
  rw [removeRegistration_of_current hs']
  obtain ⟨hk', _⟩ := current_of_session hs'
  obtain ⟨removed, hcore, hsub, _⟩ := core_withdraw_current sizes hs'
  obtain ⟨q, hq, hlive⟩ := session_of_current (s := s'.withdraw sizes k i) (k := k) (by
    rw [hcore]
    exact ⟨update_self .., hk'.2⟩)
  have hgeneration : q.generation = some g := congrArg Live.generation hlive
  rw [← hgeneration]
  refine steady_forget (hopen.trans_eq (congrArg Core.nextIncarnation hcore).symm) hq
    fun j hj hne => ?_
  rw [hlive]
  exact (hcover j hj).imp (fun hrow => isSome_update_none.2 ⟨hne, hrow⟩) fun hremoved =>
    hsub hremoved

end ControllerState

end Chan.Control
