import Chan.Control.Frame

namespace Chan.Control
open Utf AssocMap Function

def Stage.tell (st : Stage) : Stage := if st.status = .active then { st with told := true } else st

namespace Phase

def kind (ph : Phase) : Option ReconciliationKind := ph.recon.map Reconciliation.kind

def Current (ph : Phase) (k : SessionKey) (st : Stage) : Prop :=
  ph.stage k.proxyId = some st ∧ st.incarnation = k.incarnation

def Backs (ph : Phase) (kind : ReconciliationKind) (i : Uuid) : Prop :=
  ∃ command, ph.commands i = some command ∧ command.purpose = .reconciliation ∧
    (∃ st, ph.Current command.session st) ∧ ∀ k, kind = .joining k → command.session = k

/-- With some sessions queued: every joining session with a snapshot is queued or reconciling, a
restart reconciles with nothing queued, a reconciliation waits for outstanding commands, and only
active sessions are told. -/
structure Staged (ph : Phase) (queue : List SessionKey) : Prop where
  waiting : ∀ k st, ph.Current k st → st.status = .joining → st.known = true →
    k ∈ queue ∨ ph.kind = some (.joining k)
  initial : ph.kind = some .initial → ph.ready = false ∧ queue = []
  target : ∀ k st, ph.kind = some (.joining k) → ph.Current k st → st.told = false
  backed : ∀ r, ph.recon = some r → ∀ i ∈ r.commandIds, ph.Backs r.kind i
  fresh : ∀ i command, ph.commands i = some command → i < ph.nextUuid
  told : ∀ p st, ph.stage p = some st → st.told = true → st.status = .active

def Busy (ph : Phase) : Prop := ∀ r, ph.recon = some r → r.commandIds ≠ ∅

structure Settled (ph : Phase) : Prop where
  staged : ph.Staged ph.deferred
  busy : ph.Busy
  idle : ph.recon = none → ph.deferred = []

def Active (ph : Phase) : Prop := ∃ p st, ph.stage p = some st ∧ st.status = .active

def Lit (ph : Phase) : Prop := ph.ready = true → ph.Active

def Due (ph : Phase) : Prop :=
  ph.ready = false → ph.Active → ph.deadline.isSome ∨ ph.kind = some .initial

lemma Active.update (h : Active ph)
    (hst : ∀ st₀, ph.stage k = some st₀ → st₀.status = .active → st.status = .active) :
    { ph with stage := update ph.stage k (some st) }.Active := by
  obtain ⟨p, st', hst', hactive⟩ := h
  by_cases hp : p = k
  · exact ⟨p, st, update_some_eq_some.2 (.inl ⟨hp, rfl⟩), hst st' (hp ▸ hst') hactive⟩
  · exact ⟨p, st', update_some_eq_some.2 (.inr ⟨hp, hst'⟩), hactive⟩

lemma Due.mono (h : Due ph) (hready : ph'.ready = ph.ready)
    (hdeadline : ph'.deadline = ph.deadline)
    (hkind : ph.kind = some .initial → ph'.kind = some .initial)
    (hactive : ph'.Active → ph.Active) :
    Due ph' := by
  intro hr ha
  rw [hdeadline]
  exact (h (hready ▸ hr) (hactive ha)).imp_right hkind

structure Abides (ph ph' : Phase) : Prop where
  ready : ph'.ready = ph.ready
  deadline : ph'.deadline = ph.deadline
  deferred : ph'.deferred = ph.deferred
  active : ph.Active → ph'.Active

lemma Abides.lit (h : Abides ph ph') (hlit : ph.Lit) : ph'.Lit :=
  fun hr => h.active (hlit (h.ready ▸ hr))

lemma Current.update (hk : Current ph k st) (hi : st'.incarnation = st.incarnation) :
    { ph with stage := update ph.stage k.proxyId (some st') }.Current k' st'' ↔
      (k' = k ∧ st'' = st') ∨ (k' ≠ k ∧ ph.Current k' st'') := by
  by_cases hp : k'.proxyId = k.proxyId
  · have hold : ph.stage k'.proxyId = some st := by rw [hp, hk.1]
    have hnew : Function.update ph.stage k.proxyId (some st') k'.proxyId = some st' := by
      rw [hp, update_self]
    show (Function.update ph.stage k.proxyId (some st') k'.proxyId = some st'' ∧ _) ↔ _
    rw [hnew, Current, hold]
    constructor
    · rintro ⟨h, h'⟩
      cases h
      exact .inl ⟨SessionKey.ext hp (h'.symm.trans (hi.trans hk.2)), rfl⟩
    · rintro (⟨rfl, rfl⟩ | ⟨hne, h, h'⟩)
      · exact ⟨rfl, hi.trans hk.2⟩
      · cases h
        exact absurd (SessionKey.ext hp (h'.symm.trans hk.2)) hne
  · have hne : k' ≠ k := fun h => hp (by rw [h])
    simp only [Current, update_of_ne hp, hne, false_and, false_or, ne_eq, not_false_eq_true,
      true_and]

namespace Staged

lemma told_update (h : Staged ph q) (hst : st'.told = true → st'.status = .active) :
    ∀ p st, Function.update ph.stage k (some st') p = some st → st.told = true →
      st.status = .active := by
  intro p st hp ht
  rcases update_some_eq_some.1 hp with ⟨_, rfl⟩ | ⟨_, hp⟩
  · exact hst ht
  · exact h.told p st hp ht

lemma dequeue (h : Staged ph (k :: q))
    (hk : ∀ st, ph.Current k st → st.status = .joining → st.known = false) : ph.Staged q := by
  refine ⟨fun k' st hk' hs hg => ?_, fun hi => ?_, h.target, h.backed, h.fresh, h.told⟩
  · rcases h.waiting k' st hk' hs hg with hmem | hkind
    · rcases List.mem_cons.1 hmem with rfl | hmem
      · cases (hk st hk' hs).symm.trans hg
      · exact .inl hmem
    · exact .inr hkind
  · cases (h.initial hi).2

lemma activate (h : Staged ph (k :: q)) (hk : ph.Current k st) (hrecon : ph.recon = none)
    (hi : st'.incarnation = st.incarnation) (hs : st'.status = .active) :
    { ph with stage := update ph.stage k.proxyId (some st') }.Staged q := by
  have hkind : ∀ {x}, ph.kind = some x → False := by
    intro x hx
    rw [kind, hrecon] at hx
    cases hx
  refine ⟨fun k' st'' hk' hs' hg' => ?_, fun hx => (hkind hx).elim, fun _ _ hx => (hkind hx).elim,
    fun r hr => ?_, h.fresh, h.told_update fun _ => hs⟩
  · grind [hk.update, h.waiting]
  · cases hrecon.symm.trans hr

lemma start (h : Staged ph q) (hrecon : ph.recon = none)
    (hqueue : ∀ k ∈ q, k ∈ q' ∨ r.kind = .joining k)
    (hinitial : r.kind = .initial → ph.ready = false ∧ q' = [])
    (htarget : ∀ k st, r.kind = .joining k → ph.Current k st → st.told = false)
    (hbacked : ∀ i ∈ r.commandIds,
      { ph with commands := cs, nextUuid := n, recon := some r }.Backs r.kind i)
    (hfresh : ∀ i command, cs i = some command → i < n) :
    { ph with commands := cs, nextUuid := n, recon := some r }.Staged q' := by
  refine ⟨fun k st hk hs hg => ?_, fun hi => hinitial (Option.some.inj hi),
    fun k st hx hk => htarget k st (Option.some.inj hx) hk, fun r' hr' => ?_, hfresh, h.told⟩
  · rcases h.waiting k st hk hs hg with hmem | hx
    · exact (hqueue k hmem).imp_right fun hx => congrArg some hx
    · rw [kind, hrecon] at hx
      cases hx
  · cases hr'
    exact hbacked

lemma converge (h : Staged ph []) (hrecon : ph.recon = none) :
    { ph with
      ready := true
      deadline := none
      stage := fun p => (ph.stage p).map Stage.tell }.Staged [] := by
  have hkind : ph.kind = none := by rw [kind, hrecon]; rfl
  refine ⟨fun k st hk hs hg => ?_, fun hx => ?_, fun _ _ hx => ?_, fun r hr => ?_, h.fresh,
    fun p st hst ht => ?_⟩
  · obtain ⟨hstage, hi⟩ := hk
    obtain ⟨st', hst', rfl⟩ := Option.map_eq_some_iff.1 hstage
    unfold Stage.tell at hs hg hi
    split at hs
    · rename_i hactive
      cases hactive.symm.trans hs
    · rename_i hjoining
      rw [if_neg hjoining] at hg hi
      rcases h.waiting k st' ⟨hst', hi⟩ hs hg with hmem | hx
      · cases hmem
      · cases hkind.symm.trans hx
  · cases hkind.symm.trans hx
  · cases hkind.symm.trans hx
  · cases hrecon.symm.trans hr
  · obtain ⟨st', hst', rfl⟩ := Option.map_eq_some_iff.1 hst
    unfold Stage.tell at ht ⊢
    split
    · assumption
    · rename_i hjoining
      rw [if_neg hjoining] at ht
      exact h.told p st' hst' ht

section
variable (h : Staged ph q)
include h

lemma unready : { ph with ready := false, deadline := d }.Staged q :=
  ⟨h.waiting, fun hi => ⟨rfl, (h.initial hi).2⟩, h.target, h.backed, h.fresh, h.told⟩

lemma finish (hqueue : ∀ k ∈ q, k ∈ q')
    (hjoining : ∀ k, ph.kind = some (.joining k) → k ∈ q') :
    { ph with recon := none }.Staged q' :=
  ⟨fun k st hk hs hg => .inl ((h.waiting k st hk hs hg).elim (hqueue k) (hjoining k)), nofun, nofun,
    nofun, h.fresh, h.told⟩

lemma deadline : { ph with deadline := d }.Staged q :=
  ⟨h.waiting, h.initial, h.target, h.backed, h.fresh, h.told⟩

lemma defer : { ph with deferred := d }.Staged q :=
  ⟨h.waiting, h.initial, h.target, h.backed, h.fresh, h.told⟩

lemma snapshot (hk : ph.Current k st) (hi : st'.incarnation = st.incarnation)
    (ht : st'.told = false) (hq : ∀ k' ∈ q, k' ∈ q')
    (hinitial : ph.kind = some .initial → q' = [])
    (hk' : st'.status = .joining → st'.known = true → k ∈ q') :
    { ph with stage := update ph.stage k.proxyId (some st') }.Staged q' := by
  refine ⟨fun k' st'' hcur hs' hg' => ?_, fun hx => ⟨(h.initial hx).1, hinitial hx⟩,
    fun k' st'' hx hcur => ?_, fun r hr i hir => ?_, h.fresh,
    h.told_update fun ht' => by cases ht.symm.trans ht'⟩
  · rcases (hk.update hi).1 hcur with ⟨rfl, rfl⟩ | ⟨_, hcur⟩
    · exact .inl (hk' hs' hg')
    · exact (h.waiting k' st'' hcur hs' hg').imp_left (hq k')
  · rcases (hk.update hi).1 hcur with ⟨rfl, rfl⟩ | ⟨_, hcur⟩
    · exact ht
    · exact h.target k' st'' hx hcur
  · obtain ⟨command, hcommand, hpurpose, ⟨st'', hst''⟩, hjoining⟩ := h.backed r hr i hir
    refine ⟨command, hcommand, hpurpose, ?_, hjoining⟩
    by_cases hne : command.session = k
    · exact ⟨st', (hk.update hi).2 (.inl ⟨hne, rfl⟩)⟩
    · exact ⟨st'', (hk.update hi).2 (.inr ⟨hne, hst''⟩)⟩

lemma resync (hk : ph.Current k st) (hi : st'.incarnation = st.incarnation)
    (hg : st'.known = false) (ht : st'.told = false) :
    { ph with stage := update ph.stage k.proxyId (some st') }.Staged q :=
  h.snapshot hk hi ht (fun _ hmem => hmem) (fun hx => (h.initial hx).2)
    fun _ hg' => absurd hg' (by rw [hg]; exact Bool.false_ne_true)

lemma settle (hkind : r'.map Reconciliation.kind = ph.kind)
    (hids : ∀ r, r' = some r → ∃ r₀, ph.recon = some r₀ ∧ ∀ i ∈ r.commandIds,
      i ∈ r₀.commandIds ∧ cs i = ph.commands i)
    (hcs : Sub cs ph.commands) : { ph with commands := cs, recon := r' }.Staged q := by
  refine ⟨fun k st hk hs hg => (h.waiting k st hk hs hg).imp_right fun hx => hkind.trans hx,
    fun hx => h.initial (hkind.symm.trans hx), fun k st hx => h.target k st (hkind.symm.trans hx),
    fun r hr i hi => ?_, fun i command hc => h.fresh i command (hcs i command hc), h.told⟩
  obtain ⟨r₀, hr₀, hmem⟩ := hids r hr
  obtain ⟨hi₀, hsame⟩ := hmem i hi
  obtain ⟨command, hcommand, hpurpose, hcurrent, hjoining⟩ := h.backed r₀ hr₀ i hi₀
  have hr : r' = some r := hr
  rw [hr, kind, hr₀] at hkind
  have hk : r.kind = r₀.kind := Option.some.inj hkind
  exact ⟨command, hsame.trans hcommand, hpurpose, hcurrent, hk ▸ hjoining⟩

lemma lose (hq : ∀ k' ∈ q, k' ≠ k → k' ∈ q')
    (hinitial : ph.kind = some .initial → q' = [])
    (hkind : r'.map Reconciliation.kind = ph.kind)
    (hids : ∀ r, r' = some r → ∃ r₀, ph.recon = some r₀ ∧ ∀ i ∈ r.commandIds,
      i ∈ r₀.commandIds ∧ cs i = ph.commands i ∧
        ∀ command, ph.commands i = some command → command.session ≠ k)
    (hcs : Sub cs ph.commands) (hk : ph.Current k st) :
    { ph with
      stage := update ph.stage k.proxyId none
      deferred := d
      commands := cs
      recon := r' }.Staged q' := by
  have hback : ∀ {k' st'}, { ph with stage := update ph.stage k.proxyId none }.Current k' st' →
      k' ≠ k ∧ ph.Current k' st' := by
    rintro k' st' ⟨hst, hi⟩
    obtain ⟨hne, hst⟩ := update_none_eq_some.1 hst
    exact ⟨fun he => hne (by rw [he]), hst, hi⟩
  refine ⟨fun k' st' hk' hs hg => ?_, fun hx => ?_, fun k' st' hx hk' => ?_, fun r hr i hi => ?_,
    fun i command hc => h.fresh i command (hcs i command hc),
    fun p st hst => h.told p st (update_none_eq_some.1 hst).2⟩
  · obtain ⟨hne, hk'⟩ := hback hk'
    rcases h.waiting k' st' hk' hs hg with hmem | hx
    · exact .inl (hq k' hmem hne)
    · exact .inr (hkind.trans hx)
  · have hx := hkind.symm.trans hx
    exact ⟨(h.initial hx).1, hinitial hx⟩
  · exact h.target k' st' (hkind.symm.trans hx) (hback hk').2
  · obtain ⟨r₀, hr₀, hmem⟩ := hids r hr
    obtain ⟨hi₀, hsame, hother⟩ := hmem i hi
    obtain ⟨command, hcommand, hpurpose, ⟨st', hst'⟩, hjoining⟩ := h.backed r₀ hr₀ i hi₀
    have hr : r' = some r := hr
    rw [hr, kind, hr₀] at hkind
    have hk' : r.kind = r₀.kind := Option.some.inj hkind
    have hne := hother command hcommand
    refine ⟨command, hsame.trans hcommand, hpurpose, ⟨st', ?_, hst'.2⟩, hk' ▸ hjoining⟩
    refine (update_of_ne (fun hp => hne ?_) ..).trans hst'.1
    have heq : st' = st := Option.some.inj (hst'.1.symm.trans (hp ▸ hk.1))
    exact SessionKey.ext hp (by rw [← hst'.2, heq, hk.2])

end

end Staged

end Phase

end Chan.Control
