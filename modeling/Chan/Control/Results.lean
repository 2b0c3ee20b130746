import Chan.Control.Admissions

namespace Chan.Control.ControllerState
open Utf AssocMap Function

variable {s : ControllerState} {sizes : Sizes} {l : ControllerLabel} {kept : Prop}

def Completing (s : ControllerState) (l : ControllerLabel) (r : Reconciliation) : Prop :=
  ∃ proxyId incarnation i killed missing failed command,
    l.op = .commandResult proxyId incarnation i killed missing failed ∧
    s.commands.lookup i = some command ∧ command.session = ⟨proxyId, incarnation⟩ ∧
    badResult command killed missing failed = false ∧
    s.reconciliation = some r ∧ r.commandIds = {i} ∧ r.failed = false

/-- No restart is completed by a result while nobody is active. -/
def Staffed (s : ControllerState) (l : ControllerLabel) : Prop :=
  ∀ r, s.Completing l r → r.kind = .initial → s.anyActive = true

/-- No join is completed by a result while the controller is unready and no timer runs. -/
def Clocked (s : ControllerState) (l : ControllerLabel) : Prop :=
  ∀ r k, s.Completing l r → r.kind = .joining k → s.ready = true ∨ s.convergenceDeadline.isSome

structure Answers (sizes : Sizes) (l : ControllerLabel) (kept : Prop) (s : ControllerState)
    (t : Turn) : Prop where
  settled : t.1.phase.Settled
  lit : s.Staffed l → s.phase.Lit → t.1.phase.Lit
  due : s.Clocked l → s.phase.Due → t.1.phase.Due
  runs : Runs sizes l kept s t

lemma Settles.answers (h : Settles sizes l kept s t) : Answers sizes l kept s t :=
  ⟨h.settled, fun _ => h.lit, fun _ => h.due, h.runs⟩

lemma phase_removeReported (k : SessionKey) (ids : List Uuid) (s : ControllerState) :
    (s.removeReported sizes k ids).phase = s.phase := by
  induction ids generalizing s with
  | nil => rfl
  | cons i ids ih => exact (ih _).trans (phase_removeRegistration k i s)

lemma runs_removeReported (hs : s.session k = some p) :
    Runs sizes l kept s (s.removeReported sizes k ids, []) := by
  induction ids generalizing s p with
  | nil => exact .refl s
  | cons i ids ih =>
    have hstay : (s.removeRegistration sizes k i).phase = s.phase := phase_removeRegistration k i s
    obtain ⟨p', hp', _⟩ := session_of_phase (hstay.symm ▸ phase_current hs)
    refine (runs_removeRegistration sizes k i s fun _ hnone => ?_).before (ih hp')
    cases (current_of_session hs).2.symm.trans hnone

lemma answered_spec (hs : s.session k = some p)
    (hcommand : s.commands.lookup i = some command) (reported : List Uuid)
    (outcome : CommandOutcome) :
    ({ s with commands := s.commands.erase i }.removeReported sizes k reported).phase =
        { s.phase with commands := update s.phase.commands i none } ∧
      Runs sizes l kept s ({ s with commands := s.commands.erase i }.removeReported sizes k
        reported, if command.purpose = .runtime then [.commandSettled i outcome] else []) := by
  have hcommands := lookup_erase_fun s.commands i
  refine ⟨(phase_removeReported k reported _).trans (congrArg (fun m =>
    { s.phase with commands := m }) hcommands), ?_⟩
  have hsettle : Runs sizes l kept s ({ s with commands := s.commands.erase i },
      if command.purpose = .runtime then [.commandSettled i outcome] else []) :=
    Runs.move id fun _ _ => (Move.settleCommand hcommand).to
      (congrArg (fun m => { s.core with commands := m }) hcommands)
  have hall := hsettle.andThen (f := fun s => (s.removeReported sizes k reported, []))
    (runs_removeReported (show { s with commands := s.commands.erase i }.session k = some p
      from hs))
  intro hsound he
  obtain ⟨hm, he'⟩ := hall hsound he
  rw [Turn.andThen, List.append_nil] at hm
  exact ⟨hm, he'⟩

lemma eq_singleton_of_erase {ids : Finset Uuid} (hne : ids ≠ ∅) (h : ids.erase i = ∅) :
    ids = {i} := by
  rcases Finset.erase_eq_empty_iff ids i |>.1 h with hempty | hone
  · exact absurd hempty hne
  · exact hone

lemma settled_runtime {ph : Phase} (h : ph.Settled) (hcommand : ph.commands i = some command)
    (hpurpose : command.purpose = .runtime) :
    { ph with commands := update ph.commands i none }.Settled := by
  refine ⟨h.staged.settle rfl (fun r hr => ⟨r, hr, fun j hj => ⟨hj, ?_⟩⟩) (Sub.update_none _ i),
    h.busy, h.idle⟩
  obtain ⟨command', hcommand', hpurpose', _⟩ := h.staged.backed r hr j hj
  refine update_of_ne (fun hji => ?_) ..
  rw [hji, hcommand] at hcommand'
  cases hcommand'
  cases hpurpose.symm.trans hpurpose'

lemma answers_reconciled {s s' : ControllerState} (h : s.phase.Settled)
    (hphase : s'.phase = { s.phase with commands := update s.phase.commands i none })
    (hruns : Runs sizes l kept s (s', []))
    (hlast : ∀ r, s.reconciliation = some r → r.commandIds = {i} → r.failed = false →
      bad = false → s.Completing l r) :
    Answers sizes l kept s (finishReconciliationIfComplete sizes l.now { s' with
      reconciliation := s'.reconciliation.map fun r =>
        { r with commandIds := r.commandIds.erase i, failed := r.failed || bad } }) := by
  let less (r : Reconciliation) : Reconciliation :=
    { r with commandIds := r.commandIds.erase i, failed := r.failed || bad }
  let s₃ := { s' with reconciliation := s'.reconciliation.map less }
  have hphase₃ : s₃.phase = { s.phase with
      commands := update s.phase.commands i none
      recon := s.phase.recon.map less } :=
    congrArg (fun ph : Phase => { ph with recon := ph.recon.map less }) hphase
  have hkind : (s.phase.recon.map less).map Reconciliation.kind = s.phase.kind := by
    rw [Option.map_map]
    rfl
  -- A reconciliation left without a command was waiting for this one only.
  have hcompleting : ∀ r', s₃.phase.recon = some r' → r'.commandIds = ∅ → r'.failed = false →
      ∃ r, s.Completing l r ∧ r.kind = r'.kind := by
    intro r' hr' hempty hfailed
    rw [hphase₃] at hr'
    obtain ⟨r, hr, rfl⟩ := Option.map_eq_some_iff.1 hr'
    obtain ⟨hfailed, hbad⟩ := Bool.or_eq_false_iff.1 hfailed
    exact ⟨r, hlast r hr (eq_singleton_of_erase (h.busy r hr) hempty) hfailed hbad, rfl⟩
  have hstaged : s₃.phase.Staged s₃.phase.deferred := by
    rw [hphase₃]
    refine h.staged.settle hkind (fun r' hr' => ?_) (Sub.update_none _ i)
    obtain ⟨r, hr, rfl⟩ := Option.map_eq_some_iff.1 hr'
    refine ⟨r, hr, fun j hj => ?_⟩
    obtain ⟨hne, hj⟩ := Finset.mem_erase.1 hj
    exact ⟨hj, update_of_ne hne ..⟩
  obtain ⟨hsettled, hlit, hdue, hruns₃⟩ : _ ∧ _ ∧ _ ∧ Runs sizes l kept s₃ _ :=
    finishReconciliation_spec hstaged
  refine ⟨hsettled, fun hstaffed hl => hlit (fun r' hr' hempty hfailed hinitial => ?_) ?_,
    fun hclocked hd => hdue (fun r' k st hr' hempty hfailed hjoining _ hunready => ?_) ?_,
    hruns.before (hruns₃.after rfl id)⟩
  · obtain ⟨r, hcomplete, hsame⟩ := hcompleting r' hr' hempty hfailed
    rw [hphase₃]
    exact anyActive_iff_active.1 (hstaffed r hcomplete (hsame.trans hinitial))
  · rw [hphase₃]
    exact hl
  · obtain ⟨r, hcomplete, hsame⟩ := hcompleting r' hr' hempty hfailed
    rw [hphase₃] at hunready ⊢
    refine (hclocked r k hcomplete (hsame.trans hjoining)).resolve_left fun hready => ?_
    cases hready.symm.trans hunready
  · rw [hphase₃]
    exact hd.mono rfl rfl (fun hi => hkind.trans hi) id

lemma answers_commandResult
    (hop : l.op = .commandResult proxyId incarnation i killed missing failed)
    (h : s.phase.Settled) :
    Answers sizes l kept s
      (s.commandResult sizes proxyId incarnation i killed missing failed l.now).turn := by
  have htouch : Serves sizes l kept s (s.touch ⟨proxyId, incarnation⟩ l.now, []) :=
    serves_touch _ l.now
  unfold commandResult requireKey
  split
  · exact (Serves.refl s h).answers
  · rename_i p hs
    have hs' : (s.touch ⟨proxyId, incarnation⟩ l.now).session ⟨proxyId, incarnation⟩ =
      some { p with lastSeen := l.now } := session_withSession hs rfl
    have hphase := s.touch_phase ⟨proxyId, incarnation⟩ l.now
    dsimp only
    split
    · exact (htouch h).answers
    · rename_i command hcommand
      split
      · exact (htouch h).answers
      · rename_i hsession
        have hsession : command.session = ⟨proxyId, incarnation⟩ := Classical.not_not.1 hsession
        have hspec : ∀ outcome, _ ∧ Runs sizes l kept (s.touch ⟨proxyId, incarnation⟩ l.now) _ :=
          answered_spec hs' hcommand
            ((killed ++ missing).filter fun id => decide (id ∈ command.registrationIds))
        rw [hphase] at hspec
        split
        · rename_i hpurpose
          obtain ⟨hphase', hruns⟩ := hspec .failed
          rw [hpurpose] at hruns
          refine answers_reconciled h hphase' ((htouch h).runs.before hruns) fun r hr
            hone hf hbad => ?_
          exact ⟨proxyId, incarnation, i, killed, missing, failed, command, hop, hcommand, hsession,
            hbad, hr, hone, hf⟩
        · rename_i hpurpose
          obtain ⟨hphase', hruns⟩ := hspec (if badResult command killed missing failed then .failed
            else .confirmed killed.length missing.length)
          rw [hpurpose] at hruns
          have hsettled := settled_runtime h (show s.phase.commands i = _ from hcommand) hpurpose
          refine ⟨?_, fun _ hl => ?_, fun _ hd => ?_, (htouch h).runs.before hruns⟩
          · exact hphase' ▸ hsettled
          · exact hphase' ▸ hl
          · exact hphase' ▸ hd

lemma serves_revokeAt : Serves sizes l kept s (revokeAt revocation now s e) := by
  intro h
  refine ⟨⟨?_, h.busy, h.idle⟩, id, id, Runs.move id fun _ _ =>
    (Move.revoke (e := now + commandTimeout)).to ?_⟩
  · exact h.staged.draw (fun _ _ => rfl) fun i command hc =>
      Nat.lt_succ_of_lt (h.staged.fresh i command hc)
  · exact congrArg (fun m => { s.core with revocations := m, nextUuid := s.nextUuid + 1 })
      (lookup_insert_fun s.sessionRevocations s.nextUuid ⟨e.1, now + commandTimeout⟩)

lemma serves_beginSessionRevocation :
    Serves sizes l kept s (s.beginSessionRevocation revocation now).turn := by
  unfold beginSessionRevocation
  split
  · exact .refl s
  · exact Serves.each (f := revokeAt revocation now) (fun e _ s => serves_revokeAt) s

lemma serves_sessionRevocationResult :
    Serves sizes l kept s (s.sessionRevocationResult proxyId incarnation i revoked).turn := by
  unfold sessionRevocationResult
  split
  · exact .refl s
  · refine Serves.requireKey fun p _ => ?_
    split
    · exact .refl s
    · rename_i pending hpending
      split
      · exact .refl s
      · refine .keep rfl (Runs.move id fun _ _ => (Move.settleRevocation hpending).to ?_)
        exact congrArg (fun m => { s.core with revocations := m })
          (lookup_erase_fun s.sessionRevocations i)

lemma serves_removeSession (hs : s.session k = some p) :
    Serves sizes l kept s (s.removeSession sizes k l.now) := by
  intro h
  obtain ⟨hsettled, hlit, hdue, hruns⟩ : _ ∧ _ ∧ _ ∧ Runs sizes l kept s _ :=
    removeSession_spec h hs
  exact ⟨hsettled, fun _ => hlit, hdue, hruns⟩

lemma serves_disconnect :
    Serves sizes l kept s (s.disconnect sizes proxyId incarnation l.now).turn :=
  Serves.requireKey fun _ hs => serves_removeSession hs

lemma serves_killWhere : Serves sizes l kept s (s.killWhere claims rows now).turn := by
  have hclaims : Serves sizes l kept s (s.removePendings (s.pending.keys.filter claims), []) :=
    .keep phase_removePendings (runs_removePendings _ s)
  exact hclaims.before serves_issueKills

lemma serves_beginExactKill :
    Serves sizes l kept s (s.beginExactKill owner devserverId now).turn := by
  unfold beginExactKill
  split
  · exact .refl s
  · split
    · exact .refl s
    · split
      · exact .refl s
      · exact serves_issueKill s

lemma serves_beginOwnerKill : Serves sizes l kept s (s.beginOwnerKill owner now).turn := by
  unfold beginOwnerKill
  split
  · exact .refl s
  · split
    · exact .refl s
    · exact serves_killWhere

lemma serves_beginAllKill : Serves sizes l kept s (s.beginAllKill now).turn := by
  unfold beginAllKill
  split
  · exact .refl s
  · split
    · exact .refl s
    · exact serves_killWhere

end Chan.Control.ControllerState
