import Chan.Workspace
import Chan.Lib.Transition

namespace Chan.Index
open Transition List

variable {c : Coordinator}

/-- Recovery work, ordered by dominance. -/
inductive RecoveryAction where
  | replay
  | reconcile
  | fullRebuild
  deriving DecidableEq

def RecoveryAction.rank : RecoveryAction → Nat
  | .replay => 0
  | .reconcile => 1
  | .fullRebuild => 2

instance : LinearOrder RecoveryAction :=
  LinearOrder.lift' RecoveryAction.rank fun a b => by cases a <;> cases b <;> decide

structure RecoveryPass where
  generation : Nat
  action : RecoveryAction
  deriving DecidableEq

inductive RecoveryOutcome where
  | complete
  | completeWithReportRefreshOwed
  | retry
  deriving DecidableEq

/-- A completed action counts as a retry while a refresh of the persisted report is owed. -/
def RecoveryOutcome.effective (owed : Bool) (outcome : RecoveryOutcome) : RecoveryOutcome :=
  if outcome = .complete ∧ owed then .retry else outcome

structure RecoveryStatus where
  generation : Nat
  completedGeneration : Nat
  active : Option RecoveryPass
  pending : Option RecoveryPass
  deriving DecidableEq

namespace RecoveryStatus

def isReady (s : RecoveryStatus) : Bool :=
  s.active.isNone && s.pending.isNone && decide (s.completedGeneration ≥ s.generation)

def ready : RecoveryStatus := ⟨0, 0, none, none⟩

def seeded (action : RecoveryAction) : RecoveryStatus :=
  ⟨saturatingSucc 0, 0, none, some ⟨saturatingSucc 0, action⟩⟩

def requestRecovery (s : RecoveryStatus) (action : RecoveryAction) : RecoveryStatus × Nat :=
  match s.pending with
  | some p => ({ s with pending := some { p with action := max p.action action } }, p.generation)
  | none =>
    let generation := saturatingSucc s.generation
    ({ s with generation, pending := some ⟨generation, action⟩ }, generation)

def requestPolicyRecovery (s : RecoveryStatus) (action : RecoveryAction) : RecoveryStatus × Nat :=
  let generation := saturatingSucc s.generation
  let action := (s.pending.map fun p => max p.action action).getD action
  ({ s with generation, pending := some ⟨generation, action⟩ }, generation)

def beginRecovery (s : RecoveryStatus) : RecoveryStatus × Option RecoveryPass :=
  match s.active, s.pending with
  | none, some p => ({ s with active := some p, pending := none }, some p)
  | _, _ => (s, none)

def requeue (pending : Option RecoveryPass) (pass : RecoveryPass) : RecoveryPass :=
  match pending with
  | some p => ⟨p.generation, max p.action pass.action⟩
  | none => pass

def finishRecovery (s : RecoveryStatus) (owed : Bool) (pass : RecoveryPass)
    (outcome : RecoveryOutcome) : RecoveryStatus × Except String RecoveryStatus :=
  if s.active = some pass then
    let t := { s with active := none }
    let t := match outcome.effective owed with
      | .complete | .completeWithReportRefreshOwed =>
        { t with completedGeneration := max t.completedGeneration pass.generation }
      | .retry => { t with pending := some (requeue t.pending pass) }
    (t, .ok t)
  else
    (s, .error ("recovery pass is not active: generation " ++ toString pass.generation))

/-- A direct run takes over a pending pass that it dominates; behind an active or a stronger pass it
runs without a claim. -/
def recoveryExecution (s : RecoveryStatus) (action : RecoveryAction) :
    RecoveryStatus × Option RecoveryPass :=
  if s.active.isSome ∨ s.pending.any fun p => decide (action < p.action) then (s, none)
  else
    match s.pending with
    | some p =>
      let pass := { p with action := max p.action action }
      ({ s with active := some pass, pending := none }, some pass)
    | none =>
      let generation := saturatingSucc s.generation
      let pass := ⟨generation, action⟩
      ({ s with generation, active := some pass }, some pass)

structure Sound (s : RecoveryStatus) : Prop where
  fits : s.generation ≤ u64Max
  completed_le : s.completedGeneration ≤ s.generation
  active_le : ∀ p, s.active = some p → p.generation ≤ s.generation
  newest : ∀ p, s.pending.or s.active = some p → p.generation = s.generation
  idle : s.pending = none → s.active = none → s.completedGeneration = s.generation

lemma Sound.isReady_iff (hs : Sound s) :
    s.isReady = true ↔ s.active = none ∧ s.pending = none := by
  simp only [isReady, Bool.and_eq_true, Option.isNone_iff_eq_none, decide_eq_true_eq,
    and_iff_left_iff_imp]
  rintro ⟨ha, hp⟩
  exact (hs.idle hp ha).ge

lemma le_saturatingSucc (h : n ≤ u64Max) : n ≤ saturatingSucc n :=
  le_min (Nat.le_succ n) h

lemma sound_ready : Sound ready := by
  refine ⟨Nat.zero_le _, le_rfl, fun p h => ?_, fun p h => ?_, fun _ _ => rfl⟩ <;> cases h

lemma sound_seeded : Sound (seeded action) := by
  refine ⟨Nat.min_le_right _ _, Nat.zero_le _, fun p h => ?_, fun p h => ?_, fun h => ?_⟩
  · cases h
  · cases h
    rfl
  · cases h

structure Raises (s t : RecoveryStatus) (action : RecoveryAction) : Prop where
  active : t.active = s.active
  completed : t.completedGeneration = s.completedGeneration
  pending : ∃ p, t.pending = some p ∧ action ≤ p.action ∧ ∀ q, s.pending = some q →
  q.action ≤ p.action

lemma requestRecovery_raises (s : RecoveryStatus) :
    Raises s (s.requestRecovery action).1 action := by
  unfold requestRecovery
  split
  case h_1 p hp =>
    refine ⟨rfl, rfl, _, rfl, le_max_right _ _, fun q hq => ?_⟩
    cases hp.symm.trans hq
    exact le_max_left _ _
  case h_2 hp =>
    refine ⟨rfl, rfl, _, rfl, le_rfl, fun q hq => ?_⟩
    cases hp.symm.trans hq

lemma requestPolicyRecovery_raises (s : RecoveryStatus) :
    Raises s (s.requestPolicyRecovery action).1 action := by
  refine ⟨rfl, rfl, _, rfl, ?_, fun q hq => ?_⟩
  · cases s.pending with
    | none => exact le_rfl
    | some p => exact le_max_right _ _
  · simp only [hq, Option.map_some, Option.getD_some]
    exact le_max_left _ _

lemma Sound.advance (hs : Sound s) (hp : p.generation = saturatingSucc s.generation) :
    Sound { s with generation := saturatingSucc s.generation, pending := some p } := by
  have hle := le_saturatingSucc hs.fits
  refine ⟨Nat.min_le_right _ _, hs.completed_le.trans hle, fun q hq => (hs.active_le q hq).trans
    hle, fun q hq => ?_, fun h => by cases h⟩
  cases hq
  exact hp

lemma Sound.requestRecovery (hs : Sound s) (action : RecoveryAction) :
    Sound (s.requestRecovery action).1 := by
  unfold RecoveryStatus.requestRecovery
  split
  case h_1 p hp =>
    refine ⟨hs.fits, hs.completed_le, hs.active_le, fun q hq => ?_, fun h => by cases h⟩
    cases hq
    exact hs.newest p (by rw [hp]; rfl)
  case h_2 => exact hs.advance rfl

lemma Sound.requestPolicyRecovery (hs : Sound s) (action : RecoveryAction) :
    Sound (s.requestPolicyRecovery action).1 :=
  hs.advance rfl

structure Claims (s t : RecoveryStatus) (pass : RecoveryPass) : Prop where
  free : s.active = none
  active : t.active = some pass
  completed : t.completedGeneration = s.completedGeneration
  pending : t.pending = none
  absorbs : ∀ q, s.pending = some q → q.action ≤ pass.action

lemma Sound.claim (hs : Sound s) (hp : p.generation = s.generation) :
    Sound { s with active := some p, pending := none } := by
  refine ⟨hs.fits, hs.completed_le, fun q hq => ?_, fun q hq => ?_, fun _ h => by cases h⟩ <;>
    cases hq
  · exact hp.le
  · exact hp

lemma beginRecovery_cases (s : RecoveryStatus) :
    (s.beginRecovery = (s, none)) ∨
      ∃ p, s.beginRecovery.2 = some p ∧ Claims s s.beginRecovery.1 p ∧
        (Sound s → Sound s.beginRecovery.1) := by
  unfold beginRecovery
  split
  case h_1 p ha hp =>
    refine .inr ⟨p, rfl, ⟨ha, rfl, rfl, rfl, fun q hq => ?_⟩, fun hs => ?_⟩
    · cases hp.symm.trans hq
      exact le_rfl
    · exact hs.claim (hs.newest p (by rw [hp]; rfl))
  case h_2 => exact .inl rfl

lemma recoveryExecution_cases (s : RecoveryStatus) :
    (s.recoveryExecution action = (s, none)) ∨
      ∃ p, (s.recoveryExecution action).2 = some p ∧ Claims s (s.recoveryExecution action).1 p ∧
        (Sound s → Sound (s.recoveryExecution action).1) := by
  unfold recoveryExecution
  split
  case isTrue => exact .inl rfl
  case isFalse hfree =>
    have ha : s.active = none := Option.not_isSome_iff_eq_none.1 fun h => hfree (.inl h)
    split
    case h_1 p hp =>
      refine .inr ⟨_, rfl, ⟨ha, rfl, rfl, rfl, fun q hq => ?_⟩, fun hs => ?_⟩
      · cases hp.symm.trans hq
        exact le_max_left _ _
      · exact hs.claim (hs.newest p (by rw [hp]; rfl))
    case h_2 hp =>
      refine .inr ⟨_, rfl, ⟨ha, rfl, rfl, hp, fun q hq => ?_⟩, fun hs => ?_⟩
      · cases hp.symm.trans hq
      · refine ⟨Nat.min_le_right _ _, hs.completed_le.trans (le_saturatingSucc hs.fits),
          fun q hq => ?_, fun q hq => ?_, fun _ h => by cases h⟩
        · cases hq
          exact le_rfl
        · rw [show s.pending = none from hp] at hq
          cases hq
          rfl

structure Ends (s t : RecoveryStatus) (pass : RecoveryPass) (outcome : RecoveryOutcome) : Prop where
  was : s.active = some pass
  active : t.active = none
  completed : s.completedGeneration ≤ t.completedGeneration
  kept : outcome ≠ .retry → t.pending = s.pending
  requeued : outcome = .retry → ∃ p, t.pending = some p ∧ pass.action ≤ p.action
  dominates : ∀ q, s.pending = some q → ∃ p, t.pending = some p ∧ q.action ≤ p.action

lemma action_le_requeue (pending : Option RecoveryPass) (pass : RecoveryPass) :
    pass.action ≤ (requeue pending pass).action := by
  cases pending with
  | none => exact le_rfl
  | some p => exact le_max_right _ _

lemma finishRecovery_cases (s : RecoveryStatus) (owed : Bool) (pass : RecoveryPass)
    (outcome : RecoveryOutcome) :
    (s.active ≠ some pass ∧ (s.finishRecovery owed pass outcome).1 = s ∧
        ∃ e, (s.finishRecovery owed pass outcome).2 = .error e) ∨
      ∃ t, s.finishRecovery owed pass outcome = (t, .ok t) ∧
        Ends s t pass (outcome.effective owed) := by
  unfold finishRecovery
  split
  case isFalse h => exact .inl ⟨h, rfl, _, rfl⟩
  case isTrue h =>
    refine .inr ⟨_, rfl, ?_⟩
    cases outcome.effective owed with
    | complete | completeWithReportRefreshOwed =>
      exact ⟨h, rfl, le_max_left _ _, fun _ => rfl, nofun, fun q hq => ⟨q, hq, le_rfl⟩⟩
    | retry =>
      refine ⟨h, rfl, le_rfl, fun hr => absurd rfl hr, fun _ => ⟨_, rfl, action_le_requeue _ _⟩,
        fun q hq => ⟨_, rfl, ?_⟩⟩
      simp only [hq]
      exact le_max_left _ _

lemma Sound.finishRecovery (hs : Sound s) (owed : Bool) (pass : RecoveryPass)
    (outcome : RecoveryOutcome) : Sound (s.finishRecovery owed pass outcome).1 := by
  unfold RecoveryStatus.finishRecovery
  split
  case isFalse => exact hs
  case isTrue ha =>
    have hle := hs.active_le pass ha
    cases outcome.effective owed with
    | complete | completeWithReportRefreshOwed =>
      refine ⟨hs.fits, max_le hs.completed_le hle, fun q hq => (by cases hq), fun q hq => ?_,
        fun hp _ => ?_⟩
      · have hq : s.pending = some q := by simpa using hq
        exact hs.newest q (by rw [hq]; rfl)
      · have hp : s.pending = none := hp
        have hg : pass.generation = s.generation := hs.newest pass (by rw [hp, ha]; rfl)
        exact (max_eq_right (hs.completed_le.trans hg.ge)).trans hg
    | retry =>
      refine ⟨hs.fits, hs.completed_le, fun q hq => (by cases hq), fun q hq => ?_,
        fun hp => by cases hp⟩
      cases hq
      cases hp : s.pending with
      | none => exact hs.newest pass (by rw [hp, ha]; rfl)
      | some p => exact hs.newest p (by rw [hp]; rfl)

end RecoveryStatus

/-- A run that may hold a pass: a `ClaimedPass`, or the guard of a direct run. The ticket tells the
claims apart. -/
structure Holder where
  ticket : Nat
  direct : Bool
  pass : Option RecoveryPass
  deriving DecidableEq

inductive Entry where
  | requested (action : RecoveryAction)
  | claimed (ticket : Nat) (pass : RecoveryPass)
  | finished (ticket : Nat) (outcome : RecoveryOutcome)
  deriving DecidableEq

structure Coordinator where
  status : RecoveryStatus
  holders : List Holder := []
  tickets : Nat := 0
  log : List Entry := []
  deriving DecidableEq

inductive Move where
  | request (action : RecoveryAction)
  | requestPolicy (action : RecoveryAction)
  | begin
  | execute (action : RecoveryAction)
  | finish (h : Holder) (outcome : RecoveryOutcome) (owed : Bool)
  | complete (h : Holder) (owed : Bool)
  | drop (h : Holder)
  deriving DecidableEq

namespace Coordinator

def requested (c : Coordinator) (s : RecoveryStatus) (action : RecoveryAction) : Coordinator :=
  { c with status := s, log := c.log ++ [.requested action] }

def taken (c : Coordinator) (s : RecoveryStatus) (direct : Bool) (pass : Option RecoveryPass) :
    Coordinator :=
  { status := s
    holders := ⟨c.tickets, direct, pass⟩ :: c.holders
    tickets := c.tickets + 1
    log := c.log ++ (pass.map (Entry.claimed c.tickets)).toList }

def settle (c : Coordinator) (h : Holder) (owed : Bool) (outcome : RecoveryOutcome)
    (refused : List Holder) : Coordinator :=
  match h.pass with
  | none => { c with holders := c.holders.erase h }
  | some pass =>
    match c.status.finishRecovery owed pass outcome with
    | (s, .ok _) =>
      { c with
        status := s
        holders := c.holders.erase h
        log := c.log ++ [.finished h.ticket (outcome.effective owed)] }
    | (s, .error _) => { c with status := s, holders := refused }

def step (c : Coordinator) : Move → Option Coordinator
  | .request action => some (c.requested (c.status.requestRecovery action).1 action)
  | .requestPolicy action => some (c.requested (c.status.requestPolicyRecovery action).1 action)
  | .begin =>
    match c.status.beginRecovery with
    | (s, some pass) => some (c.taken s false (some pass))
    | (s, none) => some { c with status := s }
  | .execute action =>
    match c.status.recoveryExecution action with
    | (s, pass) => some (c.taken s true pass)
  | .finish h outcome owed =>
    -- `ClaimedPass::finish` takes the pass out first, so its drop has nothing left to hand back
    if h ∈ c.holders ∧ h.direct = false then some (c.settle h owed outcome (c.holders.erase h))
      else none
  | .complete h owed =>
    -- a refused completion leaves the pass with the guard, whose drop follows
    if h ∈ c.holders ∧ h.direct = true then some (c.settle h owed .complete c.holders) else none
  | .drop h => if h ∈ c.holders then some (c.settle h false .retry (c.holders.erase h)) else none

/-- A pass that covers the action was claimed and has finished. -/
def Served (action : RecoveryAction) (ys : List Entry) : Prop :=
  ∃ n p bs cs outcome, ys = bs ++ .claimed n p :: cs ∧ action ≤ p.action ∧
    .finished n outcome ∈ cs ∧ outcome ≠ .retry

/-- A request is served, or waits in the pending pass, or is being served. -/
inductive Covers (c : Coordinator) (action : RecoveryAction) (ys : List Entry) : Prop where
  | served (h : Served action ys)
  | pending (hp : c.status.pending = some p) (hle : action ≤ p.action)
  | active (hh : h ∈ c.holders) (hp : h.pass = some p) (hle : action ≤ p.action)
      (hc : .claimed h.ticket p ∈ ys)

structure Sound (c : Coordinator) : Prop where
  status : c.status.Sound
  held : (c.holders.filterMap Holder.pass).Perm c.status.active.toList
  covered : ∀ xs action ys, c.log = xs ++ .requested action :: ys → c.Covers action ys

lemma Served.append (h : Served action ys) (es : List Entry) : Served action (ys ++ es) := by
  obtain ⟨n, p, bs, cs, outcome, rfl, hle, hf, ho⟩ := h
  exact ⟨n, p, bs, cs ++ es, outcome, append_assoc _ _ _, hle, mem_append_left _ hf, ho⟩

lemma covered_append {c d : Coordinator} (hc : c.Sound) (hlog : d.log = c.log ++ [e])
    (hnew : ∀ action, e = .requested action → d.Covers action [])
    (hold : ∀ action ys, c.Covers action ys → d.Covers action (ys ++ [e])) :
    ∀ xs action ys, d.log = xs ++ .requested action :: ys → d.Covers action ys := by
  intro xs action ys h
  rw [hlog] at h
  obtain rfl | ⟨zs, z, rfl⟩ := eq_nil_or_concat ys
  · exact hnew action (append_inj_right' h rfl |> List.cons.inj |>.1)
  · rw [concat_eq_append] at h ⊢
    rw [← cons_append, ← append_assoc] at h
    obtain ⟨hlog', hz⟩ := append_inj' h rfl
    cases hz
    exact hold action zs (hc.covered xs action zs hlog')

lemma Sound.requested (hc : c.Sound) (hs : s.Sound)
    (hr : RecoveryStatus.Raises c.status s action) : (c.requested s action).Sound := by
  obtain ⟨p, hp, hle, hraise⟩ := hr.pending
  refine ⟨hs, ?_, covered_append hc rfl (fun a h => ?_) fun a ys h => ?_⟩
  · rw [Coordinator.requested, hr.active]
    exact hc.held
  · cases h
    exact .pending hp hle
  · cases h with
    | served h => exact .served (h.append _)
    | pending hq hle => exact .pending hp (hle.trans (hraise _ hq))
    | active hh hq hle hclaim => exact .active hh hq hle (mem_append_left _ hclaim)

lemma Sound.claimed {pass : RecoveryPass} (hc : c.Sound) (hs : s.Sound)
    (hr : RecoveryStatus.Claims c.status s pass) (direct : Bool) :
    (c.taken s direct (some pass)).Sound := by
  refine ⟨hs, ?_, covered_append hc rfl (fun a h => by cases h) fun a ys h => ?_⟩
  · have hnone := hc.held
    rw [hr.free, Option.toList_none] at hnone
    simpa [taken, hr.active] using hnone.cons pass
  · cases h with
    | served h => exact .served (h.append _)
    | pending hq hle =>
      exact .active mem_cons_self rfl (hle.trans (hr.absorbs _ hq))
        (mem_append_right _ mem_cons_self)
    | active hh hq hle hclaim =>
      exact .active (mem_cons_of_mem _ hh) hq hle (mem_append_left _ hclaim)

lemma Sound.holders (hc : c.Sound)
    (hheld : (l.filterMap Holder.pass).Perm (c.holders.filterMap Holder.pass))
    (hmem : ∀ h ∈ c.holders, h.pass.isSome → h ∈ l) (n : Nat) :
    { c with holders := l, tickets := n }.Sound := by
  refine ⟨hc.status, hheld.trans hc.held, fun xs a ys h => ?_⟩
  cases hc.covered xs a ys h with
  | served h => exact .served h
  | pending hq hle => exact .pending hq hle
  | active hh hq hle hclaim => exact .active (hmem _ hh (by rw [hq]; rfl)) hq hle hclaim

lemma filterMap_erase [DecidableEq α] {as : List α} (h : a ∈ as) :
    (as.filterMap f).Perm ((f a).toList ++ (as.erase a).filterMap f) := by
  have hperm := (perm_cons_erase h).filterMap f
  cases hfa : f a with
  | none => rwa [filterMap_cons_none hfa] at hperm
  | some b => rwa [filterMap_cons_some hfa] at hperm

lemma Sound.settle (hc : c.Sound) (hh : h ∈ c.holders) (owed : Bool)
    (outcome : RecoveryOutcome) (refused : List Holder) :
    (c.settle h owed outcome refused).Sound := by
  have herase := filterMap_erase (f := Holder.pass) hh
  unfold Coordinator.settle
  cases hp : h.pass with
  | none =>
    rw [hp] at herase
    refine hc.holders herase.symm (fun k hk hsome => ?_) _
    exact (mem_erase_of_ne (by rintro rfl; rw [hp] at hsome; cases hsome)).2 hk
  | some pass =>
    rw [hp] at herase
    have hactive : c.status.active = some pass := by
      have hmem : pass ∈ c.status.active.toList :=
        hc.held.subset (List.mem_filterMap.2 ⟨h, hh, hp⟩)
      simpa using hmem
    -- the slot holds one pass, so no other holder has any
    have hnone : (c.holders.erase h).filterMap Holder.pass = [] := by
      have hperm := herase.symm.trans hc.held
      rw [hactive] at hperm
      exact (perm_cons _).1 hperm |>.eq_nil
    obtain ⟨hne, -⟩ | ⟨t, ht, hends⟩ := c.status.finishRecovery_cases owed pass outcome
    · exact absurd hactive hne
    have hsound := hc.status.finishRecovery owed pass outcome
    simp only [ht] at hsound ⊢
    refine ⟨hsound, ?_, covered_append hc rfl (fun a h => by cases h) fun a ys h => ?_⟩
    · simp [hnone, hends.active]
    · cases h with
      | served h => exact .served (h.append _)
      | pending hq hle =>
        obtain ⟨p, hp', hle'⟩ := hends.dominates _ hq
        exact .pending hp' (hle.trans hle')
      | @active k p hk hq hle hclaim =>
        have hkh : k = h := by
          by_contra hne
          have hmem : p ∈ (c.holders.erase h).filterMap Holder.pass :=
            List.mem_filterMap.2 ⟨k, (mem_erase_of_ne hne).2 hk, hq⟩
          rw [hnone] at hmem
          cases hmem
        subst hkh
        cases hp.symm.trans hq
        by_cases hretry : outcome.effective owed = .retry
        · obtain ⟨r, hr, hle'⟩ := hends.requeued hretry
          exact .pending hr (hle.trans hle')
        · obtain ⟨bs, cs, rfl⟩ := append_of_mem hclaim
          exact .served ⟨_, _, bs, cs ++ [_], _, append_assoc _ _ _, hle,
            mem_append_right _ mem_cons_self, hretry⟩

inductive Effect (c : Coordinator) : Coordinator → Prop where
  | requested (hr : RecoveryStatus.Raises c.status s action) (hs : c.status.Sound → s.Sound) :
      Effect c (c.requested s action)
  | claimed {pass : RecoveryPass} (hr : RecoveryStatus.Claims c.status s pass)
      (hs : c.status.Sound → s.Sound)
      (direct : Bool) : Effect c (c.taken s direct (some pass))
  | unclaimed (direct : Bool) : Effect c (c.taken c.status direct none)
  | nothing : Effect c c
  | settled (hh : h ∈ c.holders) (owed : Bool) (outcome : RecoveryOutcome) (refused : List Holder) :
      Effect c (c.settle h owed outcome refused)

lemma step_effect (hstep : c.step m = some d) : c.Effect d := by
  cases m with
  | request action =>
    cases hstep
    exact .requested (c.status.requestRecovery_raises) fun hs => hs.requestRecovery action
  | requestPolicy action =>
    cases hstep
    exact .requested (c.status.requestPolicyRecovery_raises) fun hs =>
      hs.requestPolicyRecovery action
  | begin =>
    rw [step] at hstep
    obtain hnone | ⟨p, hp, hclaims, hs⟩ := c.status.beginRecovery_cases
    · rw [hnone] at hstep
      cases hstep
      exact .nothing
    · rw [← Prod.eta c.status.beginRecovery, hp] at hstep
      cases hstep
      exact .claimed hclaims hs false
  | execute action =>
    rw [step] at hstep
    obtain hnone | ⟨p, hp, hclaims, hs⟩ := c.status.recoveryExecution_cases
    · rw [hnone] at hstep
      cases hstep
      exact .unclaimed true
    · rw [← Prod.eta (c.status.recoveryExecution action), hp] at hstep
      cases hstep
      exact .claimed hclaims hs true
  | finish h outcome owed =>
    obtain ⟨⟨hh, -⟩, hd⟩ := Option.ite_none_right_eq_some.1 hstep
    cases hd
    exact .settled hh owed outcome _
  | complete h owed =>
    obtain ⟨⟨hh, -⟩, hd⟩ := Option.ite_none_right_eq_some.1 hstep
    cases hd
    exact .settled hh owed .complete _
  | drop h =>
    obtain ⟨hh, hd⟩ := Option.ite_none_right_eq_some.1 hstep
    cases hd
    exact .settled hh false .retry _

lemma Sound.step (hc : c.Sound) (hstep : c.step m = some d) : d.Sound := by
  cases step_effect hstep with
  | requested hr hs => exact hc.requested (hs hc.status) hr
  | claimed hr hs direct => exact hc.claimed (hs hc.status) hr direct
  | nothing => exact hc
  | settled hh owed outcome refused => exact hc.settle hh owed outcome refused
  | unclaimed direct =>
    have hkept := hc.holders (l := ⟨c.tickets, direct, none⟩ :: c.holders) (.refl _)
      (fun h hh _ => mem_cons_of_mem _ hh) (c.tickets + 1)
    simpa [taken] using hkept

lemma completed_le_step (hstep : c.step m = some d) :
    c.status.completedGeneration ≤ d.status.completedGeneration := by
  cases step_effect hstep with
  | requested hr | claimed hr => exact hr.completed.ge
  | unclaimed | nothing => exact le_rfl
  | @settled h hh owed outcome refused =>
    unfold settle
    cases h.pass with
    | none => exact le_rfl
    | some pass =>
      obtain ⟨-, hs, e, he⟩ | ⟨t, ht, hends⟩ := c.status.finishRecovery_cases owed pass outcome
      · simp [show c.status.finishRecovery owed pass outcome =
          (c.status, .error e) from Prod.ext hs he]
      · simp only [ht]
        exact hends.completed

def opened (plan : Option RecoveryAction) : Coordinator :=
  { status := plan.elim .ready .seeded }

lemma sound_opened : (opened plan).Sound := by
  refine ⟨?_, ?_, fun xs action ys h => ?_⟩
  · cases plan with
    | none => exact RecoveryStatus.sound_ready
    | some action => exact RecoveryStatus.sound_seeded
  · cases plan <;> exact .refl _
  · cases (List.append_eq_nil_iff.1 h.symm).2

lemma Sound.served_of_isReady (hc : c.Sound) (hready : c.status.isReady = true)
    (hlog : c.log = xs ++ .requested action :: ys) : Served action ys := by
  obtain ⟨ha, hp⟩ := hc.status.isReady_iff.1 hready
  cases hc.covered xs action ys hlog with
  | served h => exact h
  | pending hq => cases hp.symm.trans hq
  | @active h p hh hq =>
    have hmem := hc.held.subset (List.mem_filterMap.2 ⟨h, hh, hq⟩)
    rw [ha] at hmem
    cases hmem

/-- Whatever the interleaving, the unfinished claims are the one active pass, and a workspace that
reports ready has served every request made of it. -/
theorem ready_has_served (plan : Option RecoveryAction) (ms ns : List Move) (c d : Coordinator)
    (hc : exec step (opened plan) ms = some c) (hd : exec step c ns = some d) :
    d.holders.filterMap Holder.pass = d.status.active.toList ∧
      c.status.completedGeneration ≤ d.status.completedGeneration ∧
      d.status.completedGeneration ≤ d.status.generation ∧
      (∀ p, d.status.pending = some p → p.generation = d.status.generation) ∧
      (∀ p, d.status.pending = none → d.status.active = some p →
        p.generation = d.status.generation) ∧
      (d.status.isReady = true → ∀ xs action ys, d.log = xs ++ .requested action :: ys →
        Served action ys) := by
  have hsound : c.Sound := exec_invariant (fun _ _ _ h => h.step) sound_opened hc
  have hdsound : d.Sound := exec_invariant (fun _ _ _ h => h.step) hsound hd
  refine ⟨?_, ?_, hdsound.status.completed_le, fun p hp => ?_, fun p hp ha => ?_,
    fun hready xs action ys hlog => hdsound.served_of_isReady hready hlog⟩
  · have hheld := hdsound.held
    cases ha : d.status.active with
    | none =>
      rw [ha] at hheld
      exact hheld.eq_nil
    | some p =>
      rw [ha] at hheld
      exact List.perm_singleton.1 hheld
  · exact exec_relation (I := fun _ => True)
      (R := fun u v => u.status.completedGeneration ≤ v.status.completedGeneration)
      (fun _ => le_rfl) (fun _ _ _ => le_trans) (fun _ _ _ _ _ => trivial)
      (fun _ _ _ _ h => completed_le_step h) trivial hd
  · exact hdsound.status.newest p (by rw [hp]; rfl)
  · exact hdsound.status.newest p (by rw [hp, ha]; rfl)

/-- A replay is requested and claimed, a policy change asks for a rebuild meanwhile, the replay is
requeued into it, and a direct rebuild takes over the merged pass. -/
def sampleMoves : List Move :=
  [.request .replay, .begin, .requestPolicy .fullRebuild,
    .finish ⟨0, false, some ⟨1, .replay⟩⟩ .retry false, .execute .fullRebuild,
    .complete ⟨1, true, some ⟨2, .fullRebuild⟩⟩ false]

theorem ready_has_served_rebuild :
    ∃ d, exec step (opened none) sampleMoves = some d ∧ d.status.isReady = true ∧
      d.status.completedGeneration = 2 ∧
      Served .replay (d.log.drop 1) ∧ Served .fullRebuild (d.log.drop 3) := by
  have hrun : (exec step (opened none) sampleMoves).any (fun d => d.status.isReady &&
      decide (d.status.completedGeneration = 2 ∧
        d.log = d.log.take 0 ++ .requested .replay :: d.log.drop 1 ∧
        d.log = d.log.take 2 ++ .requested .fullRebuild :: d.log.drop 3)) = true := by
    decide +kernel
  obtain ⟨d, hd, h⟩ := (Option.any_eq_true _ _).1 hrun
  obtain ⟨hready, hfacts⟩ := Bool.and_eq_true_iff.1 h
  obtain ⟨hcompleted, hreplay, hrebuild⟩ := of_decide_eq_true hfacts
  obtain ⟨-, -, -, -, -, hserved⟩ := ready_has_served none [] sampleMoves _ d rfl hd
  exact ⟨d, hd, hready, hcompleted, hserved hready _ _ _ hreplay, hserved hready _ _ _ hrebuild⟩

end Coordinator
end Chan.Index
