import Chan.Control.Run

namespace Chan.Control
open Utf AssocMap Function Transition ControllerState

variable {s : ControllerState}

def ControllerLabel.second (t : Nat) (op : ControllerOp) : ControllerLabel :=
  ⟨millis (1000 * t), t, op⟩

def Sizes.unit : Sizes := ⟨fun _ => 1, fun _ => 1⟩

/-- A registration of the owner `1` for the devserver `d`, its lease good for a thousand seconds. -/
def TunnelRow.sample (registrationId : Uuid) : TunnelRow :=
  ⟨registrationId, 1, ['u'], ['d'], 5, [], 1000, none, 0⟩

def ControllerOp.isResult : ControllerOp → Bool
  | .commandResult .. => true
  | _ => false

lemma ControllerState.not_completing (h : l.op.isResult = false) :
    ¬ s.Completing l r := by
  rintro ⟨_, _, _, _, _, _, _, hop, _⟩
  cases h.symm.trans (congrArg ControllerOp.isResult hop)

namespace Controller

variable {sizes : Sizes}

lemma active_iff : s.phase.Active ↔ ∃ k p, s.session k = some p ∧ p.status = .active := by
  constructor
  · rintro ⟨proxyId, st, hst, hactive⟩
    obtain ⟨p, hp, rfl⟩ :=
      session_of_phase (k := ⟨proxyId, st.incarnation⟩) ⟨hst, rfl⟩
    exact ⟨_, p, hp, hactive⟩
  · rintro ⟨k, p, hp, hactive⟩
    exact ⟨k.proxyId, p.stage, (phase_current hp).1, hactive⟩

lemma lit_step (hvalid : c.state.Valid sizes) (hlit : c.state.phase.Lit)
    (hstaffed : c.state.Staffed l) (h : step sizes c l = some c') : c'.state.phase.Lit := by
  rw [(step_eq_some.1 h).1]
  exact (answers_call id hvalid.settled).lit hstaffed hlit

/-- Unless a result completes a restart with nobody active, a ready controller has somebody
active. -/
theorem active_of_ready (h : Along (step sizes) (fun c l => c.state.Staffed l) (new limit) ls)
    (he : exec (step sizes) (new limit) ls = some c) (hready : c.state.ready = true) :
    ∃ k p, c.state.session k = some p ∧ p.status = .active := by
  have hall : c.state.Valid sizes ∧ c.state.phase.Lit := by
    refine h.invariant (I := fun c => c.state.Valid sizes ∧ c.state.phase.Lit) ?_
      ⟨valid_new, fun hr => nomatch hr⟩ he
    exact fun s l t hs hstaffed hstep =>
      ⟨valid_step hs.1 hstep, lit_step hs.1 hs.2 hstaffed hstep⟩
  exact active_iff.1 (hall.2 hready)

def converging : List ControllerLabel :=
  [.second 0 (.beginSession ['a'] [] 7), .second 0 (.acceptSnapshot ['a'] 1 0 [.sample 1] [] []),
    .second 29 (.recordActivity ['a'] 1), .second 30 .tick]

theorem active_of_ready_converging : ∃ c, exec (step .unit) (new 3) converging = some c ∧
    c.state.ready = true ∧ ∃ k p, c.state.session k = some p ∧ p.status = .active := by
  have hrun : (exec (step .unit) (new 3) converging).any (fun c => c.state.ready) = true := by
    decide +kernel
  obtain ⟨c, he, hready⟩ := (Option.any_eq_true _ _).1 hrun
  refine ⟨c, he, hready, active_of_ready ?_ he hready⟩
  refine (Along.of_forall (P := fun l => l.op.isResult = false) (by decide +kernel) _).mono ?_
  exact fun _ _ hl _ hc => absurd hc (not_completing hl)

/-- The only proxy claims a key twice, and is told to resync while the kills of its rows are
outstanding. -/
def resyncedWhileRestarting : List ControllerLabel :=
  [.second 0 (.beginSession ['a'] [] 7),
    .second 0 (.acceptSnapshot ['a'] 1 0 [.sample 1, .sample 2] [] []),
    .second 29 (.recordActivity ['a'] 1), .second 30 .tick,
    .second 30 (.requireResync ['a'] 1), .second 30 (.commandResult ['a'] 1 1 [1, 2] [] [])]

theorem ready_with_nobody_active :
    (resyncedWhileRestarting.map ControllerLabel.now).Pairwise (· ≤ ·) ∧
    (exec (step .unit) (new 3) resyncedWhileRestarting).map (fun c =>
      (c.state.ready, c.state.anyActive)) = some (true, false) := by decide +kernel

lemma due_step (hvalid : c.state.Valid sizes) (hdue : c.state.phase.Due)
    (hclocked : c.state.Clocked l) (h : step sizes c l = some c') : c'.state.phase.Due := by
  rw [(step_eq_some.1 h).1]
  exact (answers_call id hvalid.settled).due hclocked hdue

lemma outstanding_of_reconciliation (h : s.phase.Settled)
    (hr : s.reconciliation = some r) : r.commandIds ≠ ∅ ∧ ∀ i ∈ r.commandIds, ∃ command,
      s.commands.lookup i = some command ∧ command.purpose = .reconciliation ∧
      (s.session command.session).isSome := by
  refine ⟨h.busy r hr, fun i hi => ?_⟩
  obtain ⟨command, hcommand, hpurpose, ⟨st, hst⟩, _⟩ := h.staged.backed r hr i hi
  obtain ⟨p, hp, _⟩ := session_of_phase hst
  exact ⟨command, hcommand, hpurpose, Option.isSome_iff_exists.2 ⟨p, hp⟩⟩

/-- Unless a result completes a join while the controller is unready and no timer runs, an unready
controller with somebody active has its timer or a reconciliation running. -/
theorem pending_of_unready (h : Along (step sizes) (fun c l => c.state.Clocked l) (new limit) ls)
    (he : exec (step sizes) (new limit) ls = some c) :
    (c.state.ready = false → (∃ k p, c.state.session k = some p ∧ p.status = .active) →
      c.state.convergenceDeadline.isSome ∨ c.state.reconciliation.isSome) ∧
    ∀ r, c.state.reconciliation = some r → r.commandIds ≠ ∅ ∧ ∀ i ∈ r.commandIds, ∃ command,
      c.state.commands.lookup i = some command ∧ command.purpose = .reconciliation ∧
      (c.state.session command.session).isSome := by
  have hall : c.state.Valid sizes ∧ c.state.phase.Due := by
    refine h.invariant (I := fun c => c.state.Valid sizes ∧ c.state.phase.Due) ?_
      ⟨valid_new, fun _ ha => ?_⟩ he
    · exact fun s l t hs hclocked hstep =>
        ⟨valid_step hs.1 hstep, due_step hs.1 hs.2 hclocked hstep⟩
    · obtain ⟨p, st, hst, _⟩ := ha
      cases hst
  refine ⟨fun hready hactive => ?_, fun r hr => outstanding_of_reconciliation hall.1.settled hr⟩
  refine (hall.2 hready (active_iff.2 hactive)).imp_right fun hkind => ?_
  obtain ⟨r, hr, _⟩ := Option.map_eq_some_iff.1 hkind
  exact Option.isSome_iff_exists.2 ⟨r, hr⟩

theorem pending_of_unready_converging :
    ∃ c, exec (step .unit) (new 3) (converging.take 2) = some c ∧ c.state.ready = false ∧
      c.state.anyActive = true ∧ c.state.reconciliation = none ∧
      (c.state.convergenceDeadline.isSome ∨ c.state.reconciliation.isSome) := by
  have hrun : (exec (step .unit) (new 3) (converging.take 2)).any (fun c => !c.state.ready &&
      c.state.anyActive && c.state.reconciliation.isNone) = true := by decide +kernel
  obtain ⟨c, he, hc⟩ := (Option.any_eq_true _ _).1 hrun
  simp only [Bool.and_eq_true, Bool.not_eq_true', Option.isNone_iff_eq_none] at hc
  obtain ⟨⟨hready, hactive⟩, hnone⟩ := hc
  refine ⟨c, he, hready, hactive, hnone, (pending_of_unready ?_ he).1 hready ?_⟩
  swap
  · exact active_iff.1 (ControllerState.anyActive_iff_active.1 hactive)
  refine (Along.of_forall (P := fun l => l.op.isResult = false) (by decide +kernel) _).mono ?_
  exact fun _ _ hl _ _ hc => absurd hc (not_completing hl)

/-- A second proxy joins with a row the first has published; the first leaves before the kill of
that row is answered. -/
def leftWhileJoining : List ControllerLabel :=
  [.second 0 (.beginSession ['a'] [] 7), .second 0 (.acceptSnapshot ['a'] 1 0 [.sample 1] [] []),
    .second 29 (.recordActivity ['a'] 1), .second 30 .tick,
    .second 30 (.beginSession ['b'] [] 8),
    .second 30 (.acceptSnapshot ['b'] 2 0 [.sample 2] [] []), .second 31 (.disconnect ['a'] 1),
    .second 31 (.commandResult ['b'] 2 1 [2] [] [])]

theorem unready_with_nothing_pending : (leftWhileJoining.map ControllerLabel.now).Pairwise (· ≤ ·) ∧
    (exec (step .unit) (new 3) leftWhileJoining).map (fun c => (c.state.ready, c.state.anyActive,
      c.state.convergenceDeadline, c.state.reconciliation.isSome)) =
        some (false, true, none, false) := by decide +kernel

end Controller
end Chan.Control
