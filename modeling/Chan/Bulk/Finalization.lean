import Chan.Bulk.Job

namespace Chan.Bulk
open AssocMap Transition

variable {log : List (Note α)}

def reasons (log : List (Note α)) : List JobState :=
  log.filterMap fun
    | .recorded r => some r
    | _ => none

def values (log : List (Note α)) : List α :=
  log.filterMap fun
    | .returned v => some v
    | _ => none

def deliveries (log : List (Note α)) : List (BulkOutcome α) :=
  log.filterMap fun
    | .delivered o => some o
    | _ => none

/-- What a job that ended for this reason delivers. -/
def endedWith (α : Type) (reason : JobState) : BulkOutcome α := Job.completion reason none

/-- The first recorded reason, or else the value. -/
def report (log : List (Note α)) (v : α) : BulkOutcome α :=
  (reasons log).head?.elim (.done v) (endedWith α)

lemma endedWith_ne_done (reason : JobState) (v : α) : endedWith α reason ≠ .done v := by
  cases reason <;> nofun

lemma report_eq_done : report log v = .done v ↔ reasons log = [] := by
  rw [report]
  cases reasons log with
  | nil => exact ⟨fun _ => rfl, fun _ => rfl⟩
  | cons r rs => exact ⟨fun h => absurd h (endedWith_ne_done r v), nofun⟩

lemma mem_values (h : .returned v ∈ log) : v ∈ values log :=
  List.mem_filterMap.2 ⟨_, h, rfl⟩

lemma mem_deliveries (h : .delivered o ∈ log) : o ∈ deliveries log :=
  List.mem_filterMap.2 ⟨_, h, rfl⟩

namespace Job

variable {α : Type} {j j' : Job α} {t : Nat}

def Backed (s : JobState) (r : ClientCancelResult) : Prop :=
  (r = .requested → s = .clientCancelled) ∧ (r = .notCancellable → s = .finalizing)

def CallBacked (s : JobState) : Call → Prop
  | .rereading => s ≠ .running
  | .checking => s.isCancelled = true
  | .aborting _ r => Backed s r
  | .answering r => Backed s r
  | .reading _ _ => True
  | .withdrawing => True

/-- The state is the first thing that was claimed or recorded, and every answer comes from it. -/
structure Sealed (j : Job α) : Prop where
  reasons : reasons j.log = if j.state.isCancelled then [j.state] else []
  claimed : .finalization true ∈ j.log ↔ j.state = .finalizing
  answered : ∀ r, .answered r ∈ j.log → Backed j.state r
  calls : ∀ t c, j.calls.lookup t = some c → CallBacked j.state c

lemma Backed.of_running (h : Backed .running r) (s : JobState) : Backed s r := by
  cases r with
  | requested => cases h.1 rfl
  | notFound => exact ⟨nofun, nofun⟩
  | notCancellable => cases h.2 rfl

lemma CallBacked.of_running (h : CallBacked .running c) (s : JobState) : CallBacked s c := by
  cases c with
  | rereading => exact absurd rfl h
  | checking => cases h
  | reading client removed => trivial
  | aborting client r | answering r => exact Backed.of_running h s
  | withdrawing => trivial

lemma backed_found (s : JobState) : Backed s (found s) := by
  cases s <;> exact ⟨by decide, by decide⟩

lemma Backed.finalAnswer (h : Backed s r) : Backed s (finalAnswer s r) := by
  cases s with
  | finalizing => exact ⟨nofun, fun _ => rfl⟩
  | clientCancelled => exact ⟨fun _ => rfl, nofun⟩
  | _ => exact h

lemma Sealed.noted (h : Sealed j) (n : Note α) (hreason : Bulk.reasons [n] = [])
    (hclaim : n = .finalization true → j.state = .finalizing)
    (hanswer : ∀ r, n = .answered r → Backed j.state r) : Sealed (j.note n) := by
  refine { h with reasons := ?_, claimed := ?_, answered := ?_ }
  · exact List.filterMap_append.trans
      ((congrArg _ hreason).trans (List.append_nil _ |>.trans h.reasons))
  · grind [Job.note, h.claimed]
  · grind [Job.note, h.answered]

lemma Sealed.setCall (h : Sealed j) (hc : CallBacked j.state c) (t : Nat) :
    Sealed (j.setCall t c) :=
  { h with calls := by grind [Job.setCall, h.calls] }

lemma Sealed.endCall (h : Sealed j) (t : Nat) : Sealed (j.endCall t) :=
  { h with calls := by grind [Job.endCall, h.calls] }

lemma Sealed.seal (h : Sealed j) (hrunning : j.state = .running) (s : JobState) (n : Note α)
    (hreason : Bulk.reasons [n] = if s.isCancelled then [s] else [])
    (hclaim : n = .finalization true ↔ s = .finalizing) (hanswer : ∀ r, n ≠ .answered r) :
    Sealed ({ j with state := s }.note n) := by
  obtain ⟨hreasons, hclaimed, hanswered, hcalls⟩ := h
  rw [hrunning] at hreasons hclaimed hanswered hcalls
  refine ⟨?_, ?_, ?_, fun t c hc => (hcalls t c hc).of_running s⟩
  · exact List.filterMap_append.trans ((congrArg (· ++ _) hreasons).trans hreason)
  · grind [Job.note]
  · intro r hr
    rcases List.mem_append.1 hr with hold | hnew
    · exact (hanswered r hold).of_running s
    · exact absurd (List.mem_singleton.1 hnew).symm (hanswer r)

lemma Sealed.endJob (h : Sealed j) (hreason : reason.isCancelled = true) :
    Sealed (j.endJob reason) := by
  rw [Job.endJob]
  split
  case isFalse => exact h
  case isTrue hrunning =>
    refine h.seal hrunning reason _ ?_ ⟨nofun, ?_⟩ nofun
    · rw [hreason]
      rfl
    · rintro rfl
      cases hreason

def Takes : Call → Prop
  | .reading _ removed => removed = true
  | .aborting _ _ => True
  | .withdrawing => True
  | _ => False

def Quiet (j : Job α) (v : Option α) : Prop := values j.log = v.toList ∧ deliveries j.log = []

/-- One report was delivered, on the reasons recorded before it. -/
structure Delivered (j : Job α) (before after : List (Note α)) (v : α) : Prop where
  log : j.log = before ++ .delivered (report before v) :: after
  values : values before = [v] ∧ values after = []
  deliveries : deliveries before = [] ∧ deliveries after = []
  outcome : j.outcome = some (report before v)
  done : report before v = .done v → j.state ≠ .clientCancelled

/-- How far the worker is: where the lane has the job, what returned and what was delivered. -/
def Stage (j : Job α) : Prop :=
  match j.worker with
  | .waiting => j.place ≠ .active ∧ Quiet j none ∧ (∀ v, j.outcome ≠ some (.done v)) ∧
    (j.place = .queued → j.outcome = none)
  | .running => j.place = .active ∧ Quiet j none ∧ j.outcome = none
  | .returned v => j.place = .active ∧ Quiet j v ∧ j.outcome = none
  | .released v => j.place = .away ∧ Quiet j v ∧ j.outcome = none
  | .delivered none => j.place = .away ∧ Quiet j none ∧ j.outcome = some .cancelled
  | .delivered (some v) => j.place = .away ∧ ∃ before after, Delivered j before after v

structure Sound (j : Job α) : Prop extends Sealed j where
  stage : Stage j
  taken : ∀ t c, j.calls.lookup t = some c → Takes c → j.worker = .waiting ∧ j.place = .away

def Grown (j j' : Job α) : Prop :=
  ∃ ns, j'.log = j.log ++ ns ∧ values ns = [] ∧ deliveries ns = []

lemma grown_refl (h : j'.log = j.log) : Grown j j' := ⟨[], by rw [h, List.append_nil], rfl, rfl⟩

lemma Grown.quiet (h : Grown j j') (hq : Quiet j v) : Quiet j' v := by
  obtain ⟨ns, hlog, hvalues, hdeliveries⟩ := h
  rw [Quiet, hlog]
  constructor
  · exact List.filterMap_append.trans ((congrArg _ hvalues).trans (List.append_nil _ |>.trans hq.1))
  · exact List.filterMap_append.trans
      ((congrArg _ hdeliveries).trans (List.append_nil _ |>.trans hq.2))

lemma Stage.stay (h : Stage j) (hworker : j'.worker = j.worker) (hplace : j'.place = j.place)
    (houtcome : j'.outcome = j.outcome) (hlog : Grown j j')
    (hstate : j'.state = .clientCancelled → j.state = .clientCancelled ∨ j.place ≠ .away) :
    Stage j' := by
  rw [Stage, hworker, hplace, houtcome]
  rw [Stage] at h
  split at h
  · exact ⟨h.1, hlog.quiet h.2.1, h.2.2⟩
  · exact ⟨h.1, hlog.quiet h.2.1, h.2.2⟩
  · exact ⟨h.1, hlog.quiet h.2.1, h.2.2⟩
  · exact ⟨h.1, hlog.quiet h.2.1, h.2.2⟩
  · exact ⟨h.1, hlog.quiet h.2.1, h.2.2⟩
  · obtain ⟨haway, before, after, hlog', hvalues, hdeliveries, ho, hdone⟩ := h
    obtain ⟨ns, hns, hvalues', hdeliveries'⟩ := hlog
    refine ⟨haway, before, after ++ ns, ?_, ⟨hvalues.1, ?_⟩, ⟨hdeliveries.1, ?_⟩,
      houtcome.trans ho, ?_⟩
    · rw [hns, hlog', List.append_assoc, List.cons_append]
    · exact List.filterMap_append.trans (congr (congrArg _ hvalues.2) hvalues')
    · exact List.filterMap_append.trans (congr (congrArg _ hdeliveries.2) hdeliveries')
    · intro heq hc
      exact (hstate hc).elim (hdone heq) fun hne => hne haway

lemma Stage.wait (h : Stage j) (hw : j.worker = .waiting) (hworker : j'.worker = .waiting)
    (hplace : j'.place = .away) (hlog : Grown j j')
    (houtcome : ∀ v, j'.outcome = some (.done v) → j.outcome = some (.done v)) : Stage j' := by
  rw [Stage, hw] at h
  rw [Stage, hworker, hplace]
  exact ⟨nofun, hlog.quiet h.2.1, fun v hv => h.2.2.1 v (houtcome v hv), nofun⟩

lemma Stage.waiting (h : Stage j) (hplace : j.place = .queued) : j.worker = .waiting := by
  rw [Stage] at h
  split at h
  · assumption
  · cases h.1.symm.trans hplace
  · cases h.1.symm.trans hplace
  · cases h.1.symm.trans hplace
  · cases h.1.symm.trans hplace
  · cases h.1.symm.trans hplace

lemma grown_endJob : Grown j (j.endJob reason) := by
  rw [Job.endJob]
  split
  · exact ⟨[.recorded reason], rfl, rfl, rfl⟩
  · exact grown_refl rfl

lemma endJob_eq (j : Job α) (reason : JobState) :
    (j.endJob reason).worker = j.worker ∧ (j.endJob reason).place = j.place ∧
      (j.endJob reason).outcome = j.outcome ∧ (j.endJob reason).calls = j.calls ∧
      ((j.endJob reason).state = .clientCancelled →
        j.state = .clientCancelled ∨ reason = .clientCancelled) := by
  rw [Job.endJob]
  split
  · exact ⟨rfl, rfl, rfl, rfl, .inr⟩
  · exact ⟨rfl, rfl, rfl, rfl, .inl⟩

section
variable (h : Sound j)
include h

lemma Sound.endJob (hreason : reason.isCancelled = true)
    (hplace : reason = .clientCancelled → j.place ≠ .away) : Sound (j.endJob reason) := by
  obtain ⟨hworker, hsame, houtcome, hcalls, hstate⟩ := endJob_eq j reason
  refine { h.toSealed.endJob hreason with
    stage := h.stage.stay hworker hsame houtcome grown_endJob
      fun hc => (hstate hc).imp_right hplace
    taken := ?_ }
  rw [hcalls, hworker, hsame]
  exact h.taken

lemma Sound.noted (n : Note α) (hreason : Bulk.reasons [n] = [])
    (hclaim : n = .finalization true → j.state = .finalizing)
    (hanswer : ∀ r, n = .answered r → Backed j.state r)
    (hvalues : values [n] = []) (hdeliveries : deliveries [n] = []) : Sound (j.note n) :=
  { h.toSealed.noted n hreason hclaim hanswer with
    stage := h.stage.stay rfl rfl rfl ⟨[n], rfl, hvalues, hdeliveries⟩ .inl
    taken := h.taken }

lemma Sound.setCall (c : Call) (hc : CallBacked j.state c)
    (htakes : Takes c → j.worker = .waiting ∧ j.place = .away) (t : Nat) : Sound (j.setCall t c) :=
  { h.toSealed.setCall hc t with
    stage := h.stage.stay rfl rfl rfl (grown_refl rfl) .inl
    taken := by grind [Job.setCall, h.taken] }

lemma Sound.endCall (t : Nat) : Sound (j.endCall t) :=
  { h.toSealed.endCall t with
    stage := h.stage.stay rfl rfl rfl (grown_refl rfl) .inl
    taken := by grind [Job.endCall, h.taken] }

lemma Sound.flag (shutdown held : Bool) : Sound { j with shutdown, held } :=
  { h with stage := h.stage.stay rfl rfl rfl (grown_refl rfl) .inl }

lemma Sound.finishRead (hr : Backed j.state r) (t : Nat) (client : Bool) :
    Sound (j.finishRead t client r) := by
  cases client with
  | true => exact h.setCall (.answering r) hr nofun t
  | false => exact h.endCall t

lemma Sound.taken_off (hplace : j.place = .queued) :
    Sound { j with place := .away } ∧ j.worker = .waiting := by
  have hw := h.stage.waiting hplace
  refine ⟨{ h with
    stage := h.stage.wait hw hw rfl (grown_refl rfl) fun _ hv => hv
    taken := fun t c hc htakes => ⟨hw, rfl⟩ }, hw⟩

lemma Sound.settle (hw : j.worker = .waiting ∧ j.place = .away)
    (ho : ∀ v, o ≠ .done v) : Sound (j.settle o) := by
  refine { h with stage := h.stage.wait hw.1 hw.1 hw.2 (grown_refl rfl) ?_ }
  intro v hv
  cases hj : j.outcome with
  | none =>
    rw [Job.settle, hj] at hv
    exact absurd (Option.some.inj hv) (ho v)
  | some o' =>
    rw [Job.settle, hj] at hv
    exact hv

lemma Sound.cancelLocked (t : Nat) (client : Bool) :
    Sound (j.cancelLocked t client) := by
  have hreason : (if client then JobState.clientCancelled else .cancelled).isCancelled = true := by
    cases client <;> rfl
  rw [Job.cancelLocked]
  cases hplace : j.place with
  | queued =>
    obtain ⟨haway, hw⟩ := h.taken_off hplace
    obtain ⟨hworker, hsame, houtcome, -⟩ := endJob_eq { j with place := .away }
      (if client then .clientCancelled else .cancelled)
    have hended : Sound (Job.endJob { j with place := .away }
        (if client then .clientCancelled else .cancelled)) :=
      { haway.toSealed.endJob hreason with
        stage := haway.stage.wait hw (hworker.trans hw) hsame grown_endJob (by simp [houtcome])
        taken := fun _ _ _ _ => ⟨hworker.trans hw, hsame⟩ }
    exact hended.setCall (.reading client true) trivial (fun _ => ⟨hworker.trans hw, hsame⟩) t
  | active =>
    refine (h.endJob hreason fun _ => ?_).setCall (.reading client false) trivial nofun t
    rw [hplace]
    nofun
  | away =>
    cases client with
    | true => exact h.setCall (.answering .notFound) ⟨nofun, nofun⟩ nofun t
    | false => exact h

end

lemma Sealed.completion_eq (h : Sealed j) (v : α) :
    completion j.state (some v) = report j.log v := by
  rw [report, h.reasons]
  cases j.state <;> rfl

lemma Sound.work (h : Sound j) (hworker : j.worker ≠ .waiting ∨ j.place = .queued)
    (hsealed : Sealed j') (hcalls : j'.calls = j.calls) (hstage : Stage j') : Sound j' := by
  refine { hsealed with stage := hstage, taken := ?_ }
  intro t c hc htakes
  obtain ⟨hw, haway⟩ := h.taken t c (hcalls ▸ hc) htakes
  rcases hworker with hne | hqueued
  · exact absurd hw hne
  · cases haway.symm.trans hqueued

section
variable (h : Sound j)
include h

lemma Sound.pick (hstep : j.step .pick = some j') : Sound j' := by
  have hstage := h.stage
  rw [Stage] at hstage
  obtain ⟨⟨hplace, -⟩, ⟨⟩⟩ := Option.ite_none_right_eq_some.1 hstep
  rw [h.stage.waiting hplace] at hstage
  exact h.work (.inr hplace) { h.toSealed with } rfl ⟨rfl, hstage.2.1, hstage.2.2.2 hplace⟩

lemma Sound.returns (hstep : j.step (.returns v) = some j') : Sound j' := by
  have hstage := h.stage
  rw [Stage] at hstage
  cases hw : j.worker with
  | running =>
    rw [hw] at hstage
    simp only [Job.step, hw, Option.some.injEq] at hstep
    subst hstep
    refine h.work (.inl (hw ▸ nofun)) { h.toSealed.noted (.returned v) rfl nofun nofun with } rfl
      ?_
    refine ⟨hstage.1, ⟨?_, ?_⟩, hstage.2.2⟩
    · exact List.filterMap_append.trans (congrArg (· ++ _) hstage.2.1.1)
    · exact List.filterMap_append.trans (congrArg (· ++ _) hstage.2.1.2)
  | _ => simp [Job.step, hw] at hstep

lemma Sound.panics (hstep : j.step .panics = some j') : Sound j' := by
  have hstage := h.stage
  rw [Stage] at hstage
  cases hw : j.worker with
  | running =>
    rw [hw] at hstage
    simp only [Job.step, hw, Option.some.injEq] at hstep
    subst hstep
    exact h.work (.inl (hw ▸ nofun)) { h.toSealed with } rfl hstage
  | _ => simp [Job.step, hw] at hstep

lemma Sound.release (hstep : j.step .release = some j') : Sound j' := by
  have hstage := h.stage
  rw [Stage] at hstage
  cases hw : j.worker with
  | returned v =>
    rw [hw] at hstage
    simp only [Job.step, hw, Option.some.injEq] at hstep
    subst hstep
    exact h.work (.inl (hw ▸ nofun)) { h.toSealed with } rfl ⟨rfl, hstage.2⟩
  | _ => simp [Job.step, hw] at hstep

lemma Sound.deliver (hstep : j.step .deliver = some j') : Sound j' := by
  have hstage := h.stage
  rw [Stage] at hstage
  cases hw : j.worker with
  | released v =>
    rw [hw] at hstage
    obtain ⟨haway, hquiet, houtcome⟩ := hstage
    cases v with
    | none =>
      simp only [Job.step, hw, Option.some.injEq] at hstep
      subst hstep
      refine h.work (.inl (hw ▸ nofun)) { h.toSealed with } rfl ⟨haway, hquiet, ?_⟩
      rw [Job.settle, houtcome]
      rfl
    | some v =>
      simp only [Job.step, hw, Option.some.injEq] at hstep
      subst hstep
      refine h.work (.inl (hw ▸ nofun))
        { h.toSealed.noted (.delivered _) rfl nofun nofun with } rfl
        ⟨haway, j.log, [], ?_, ⟨hquiet.1, rfl⟩, ⟨hquiet.2, rfl⟩, ?_, ?_⟩
      · rw [← h.completion_eq v]
        rfl
      · rw [← h.completion_eq v]
        exact congrArg (fun o => o.or (some (completion j.state (some v)))) houtcome
      · rw [← h.completion_eq v]
        intro hdone hc
        rw [show j.state = .clientCancelled from hc] at hdone
        cases hdone
  | _ => simp [Job.step, hw] at hstep

lemma Sound.finalize (hstep : j.step (.finalize t) = some j') : Sound j' := by
  obtain ⟨⟨hsignalled, -⟩, hstep⟩ := Option.ite_none_right_eq_some.1 hstep
  split at hstep
  case isTrue hrunning =>
    cases hstep
    exact { h.toSealed.seal hrunning .finalizing (.finalization true) rfl
        ⟨fun _ => rfl, fun _ => rfl⟩ nofun with
      stage := h.stage.stay rfl rfl rfl ⟨_, rfl, rfl, rfl⟩ nofun
      taken := h.taken }
  case isFalse hended =>
    cases hstep
    exact h.setCall .rereading hended nofun t

lemma Sound.reread (hstep : j.step (.reread t) = some j') : Sound j' := by
  rw [Job.step] at hstep
  split at hstep
  case h_2 => cases hstep
  case h_1 hcall =>
    have hended : j.state ≠ .running := h.calls t _ hcall
    split at hstep
    case isTrue hfinalizing =>
      cases hstep
      exact (h.endCall t).noted _ rfl (fun _ => hfinalizing) nofun rfl rfl
    case isFalse hother =>
      cases hstep
      refine h.setCall .checking ?_ nofun t
      cases hs : j.state with
      | running => exact absurd hs hended
      | finalizing => exact absurd hs hother
      | _ => rfl

lemma Sound.checkCancelled (hstep : j.step (.checkCancelled t) = some j') : Sound j' := by
  rw [Job.step] at hstep
  split at hstep
  case h_2 => cases hstep
  case h_1 hcall =>
    have hcancelled : j.state.isCancelled = true := h.calls t _ hcall
    rw [hcancelled] at hstep
    cases hstep
    exact (h.endCall t).noted _ rfl nofun nofun rfl rfl

lemma Sound.read (hstep : j.step (.read t) = some j') : Sound j' := by
  rw [Job.step] at hstep
  split at hstep
  case h_2 => cases hstep
  case h_1 client removed hcall =>
    split at hstep
    case isTrue hremoved =>
      cases hstep
      exact h.setCall (.aborting client (found j.state)) (backed_found _)
        (fun _ => h.taken t _ hcall hremoved) t
    case isFalse =>
      cases hstep
      exact h.finishRead (backed_found _) t client

lemma Sound.abort (hstep : j.step (.abort t) = some j') : Sound j' := by
  rw [Job.step] at hstep
  split at hstep
  case h_2 => cases hstep
  case h_1 client result hcall =>
    cases hstep
    exact (h.settle (h.taken t _ hcall trivial) (endedWith_ne_done _)).finishRead
      (h.calls t _ hcall) t client

lemma Sound.answer (hstep : j.step (.answer t) = some j') : Sound j' := by
  rw [Job.step] at hstep
  split at hstep
  case h_2 => cases hstep
  case h_1 result hcall =>
    cases hstep
    have hbacked : Backed j.state result := h.calls t _ hcall
    refine (h.endCall t).noted _ rfl nofun ?_ rfl rfl
    intro r hr
    cases hr
    exact hbacked.finalAnswer

lemma Sound.withdrawn (hstep : j.step (.withdrawn t) = some j') : Sound j' := by
  rw [Job.step] at hstep
  split at hstep
  case h_2 => cases hstep
  case h_1 hcall =>
    cases hstep
    obtain ⟨hw, haway⟩ := h.taken t _ hcall trivial
    obtain ⟨hworker, hsame, -⟩ := endJob_eq j .cancelled
    have hended : Sound (j.endJob .cancelled) := h.endJob rfl nofun
    exact (hended.settle (o := .cancelled) ⟨hworker.trans hw, hsame.trans haway⟩ nofun).endCall t

lemma Sound.shutdown (hstep : j.step .shutdown = some j') : Sound j' := by
  rw [Job.step] at hstep
  split at hstep
  case h_1 hplace =>
    cases hstep
    obtain ⟨haway, hw⟩ := h.taken_off hplace
    exact (haway.flag true _).settle ⟨hw, rfl⟩ nofun
  case h_2 =>
    cases hstep
    exact (h.flag true _).endJob rfl nofun
  case h_3 =>
    cases hstep
    exact h.flag true _

lemma Sound.step (hstep : j.step e = some j') : Sound j' := by
  cases e with
  | pick => exact h.pick hstep
  | returns v => exact h.returns hstep
  | panics => exact h.panics hstep
  | release => exact h.release hstep
  | deliver => exact h.deliver hstep
  | finalize t => exact h.finalize hstep
  | reread t => exact h.reread hstep
  | checkCancelled t => exact h.checkCancelled hstep
  | stall =>
    obtain ⟨-, ⟨⟩⟩ := Option.ite_none_right_eq_some.1 hstep
    exact h.endJob rfl nofun
  | cancel t =>
    obtain ⟨-, ⟨⟩⟩ := Option.ite_none_right_eq_some.1 hstep
    exact h.cancelLocked t false
  | clientCancel t =>
    obtain ⟨-, ⟨⟩⟩ := Option.ite_none_right_eq_some.1 hstep
    exact h.cancelLocked t true
  | dropHandle t =>
    obtain ⟨-, ⟨⟩⟩ := Option.ite_none_right_eq_some.1 hstep
    exact (h.flag _ false).cancelLocked t false
  | read t => exact h.read hstep
  | abort t => exact h.abort hstep
  | answer t => exact h.answer hstep
  | withdrawQueued t =>
    obtain ⟨⟨-, -, hplace⟩, ⟨⟩⟩ := Option.ite_none_right_eq_some.1 hstep
    obtain ⟨haway, hw⟩ := h.taken_off hplace
    exact haway.setCall .withdrawing trivial (fun _ => ⟨hw, rfl⟩) t
  | withdrawn t => exact h.withdrawn hstep
  | shutdown => exact h.shutdown hstep

end

lemma sound_submitted : Sound ({} : Job α) where
  reasons := rfl
  claimed := ⟨nofun, nofun⟩
  answered := nofun
  calls := nofun
  stage := ⟨nofun, ⟨rfl, rfl⟩, nofun, fun _ => rfl⟩
  taken := nofun

lemma Delivered.notes (h : Delivered j before after v) :
    Bulk.values j.log = [v] ∧ Bulk.deliveries j.log = [report before v] := by
  rw [h.log]
  constructor
  · exact List.filterMap_append.trans (congr (congrArg _ h.values.1) h.values.2)
  · refine List.filterMap_append.trans ((congrArg (· ++ _) h.deliveries.1).trans ?_)
    exact congrArg (report before v :: ·) h.deliveries.2

lemma Sound.delivered (h : Sound j) (ho : .delivered o ∈ j.log) :
    ∃ before after v, Delivered j before after v ∧ o = report before v := by
  have hmem := mem_deliveries ho
  have hstage := h.stage
  rw [Stage] at hstage
  split at hstage
  · cases hstage.2.1.2 ▸ hmem
  · cases hstage.2.1.2 ▸ hmem
  · cases hstage.2.1.2 ▸ hmem
  · cases hstage.2.1.2 ▸ hmem
  · cases hstage.2.1.2 ▸ hmem
  · obtain ⟨-, before, after, hd⟩ := hstage
    exact ⟨before, after, _, hd, List.mem_singleton.1 (hd.notes.2 ▸ hmem)⟩

lemma Sound.returned (h : Sound j) (hv : .returned v ∈ j.log) :
    (j.outcome = none ∧ (j.worker = .returned (some v) ∨ j.worker = .released (some v))) ∨
      ∃ before after, Delivered j before after v := by
  have hmem := mem_values hv
  have hstage := h.stage
  rw [Stage] at hstage
  split at hstage
  · cases hstage.2.1.1 ▸ hmem
  · cases hstage.2.1.1 ▸ hmem
  · rename_i x hw
    rw [hstage.2.1.1] at hmem
    cases Option.mem_toList.1 hmem
    exact .inl ⟨hstage.2.2, .inl hw⟩
  · rename_i x hw
    rw [hstage.2.1.1] at hmem
    cases Option.mem_toList.1 hmem
    exact .inl ⟨hstage.2.2, .inr hw⟩
  · cases hstage.2.1.1 ▸ hmem
  · obtain ⟨-, before, after, hd⟩ := hstage
    cases List.mem_singleton.1 (hd.notes.1 ▸ hmem)
    exact .inr ⟨before, after, hd⟩

lemma deliver_of_released (hw : j.worker = .released (some v)) :
    ∃ j', exec step j [.deliver] = some j' ∧ .delivered (completion j.state (some v)) ∈ j'.log := by
  rw [exec_cons, step, hw]
  exact ⟨_, rfl, List.mem_append_right _ (List.mem_singleton_self _)⟩

lemma Sound.delivers (h : Sound j) (hv : .returned v ∈ j.log) :
    ∃ es o j', es <:+ [.release, .deliver] ∧ exec Job.step j es = some j' ∧
      .delivered o ∈ j'.log := by
  rcases h.returned hv with ⟨-, hw | hw⟩ | ⟨before, after, hd⟩
  · have hrelease : j.step .release =
        some { j with place := .away, worker := .released (some v) } := by
      rw [Job.step, hw]
    obtain ⟨j', hexec, hmem⟩ := deliver_of_released
      (j := { j with place := .away, worker := .released (some v) }) rfl
    exact ⟨_, _, j', List.suffix_refl _, exec_cons_eq_some.2 ⟨_, hrelease, hexec⟩, hmem⟩
  · obtain ⟨j', hexec, hmem⟩ := deliver_of_released hw
    exact ⟨_, _, j', List.suffix_cons _ _, hexec, hmem⟩
  · refine ⟨[], report before v, j, List.nil_suffix, exec_nil, ?_⟩
    rw [hd.log]
    exact List.mem_append_right _ List.mem_cons_self

lemma Sound.not_done (h : Sound j) (hstate : j.state = .clientCancelled) (v : α) :
    j.outcome ≠ some (.done v) := by
  intro ho
  have hstage := h.stage
  rw [Stage] at hstage
  split at hstage
  · exact hstage.2.2.1 v ho
  · cases hstage.2.2.symm.trans ho
  · cases hstage.2.2.symm.trans ho
  · cases hstage.2.2.symm.trans ho
  · cases hstage.2.2.symm.trans ho
  · obtain ⟨-, before, after, hd⟩ := hstage
    have heq := Option.some.inj (hd.outcome.symm.trans ho)
    refine hd.done ?_ hstate
    rw [report] at heq ⊢
    cases hreasons : Bulk.reasons before with
    | nil => rfl
    | cons r rs =>
      rw [hreasons] at heq
      exact absurd heq (endedWith_ne_done r v)

/-- However the closure, the worker and those who may end the job interleave: a finalization that
was granted excludes every end reason, and then the value that was returned is all that is ever
received; a client's cancel that is answered with a request excludes both a granted finalization and
a value, one answered with not-cancellable follows a granted finalization; and the worker of a
closure that returned delivers its value exactly if no reason is recorded by then, and the first
reason otherwise. -/
theorem cancel_excludes_publication (es : List (Event α)) (j : Job α)
    (hrun : exec step {} es = some j) :
    (.finalization true ∈ j.log → ∀ r, .recorded r ∉ j.log) ∧
    (∀ v, .finalization true ∈ j.log → .returned v ∈ j.log → ∀ o ∈ j.outcome, o = .done v) ∧
    (.answered .requested ∈ j.log → .finalization true ∉ j.log ∧
      ∀ v, j.outcome ≠ some (.done v)) ∧
    (.answered .notCancellable ∈ j.log → .finalization true ∈ j.log) ∧
    (∀ v, .returned v ∈ j.log → ∃ es o j', es <:+ [.release, .deliver] ∧
      exec step j es = some j' ∧ .delivered o ∈ j'.log) ∧
    ∀ o, .delivered o ∈ j.log → j.outcome = some o ∧ ∃ before after v,
      j.log = before ++ .delivered o :: after ∧ (∀ o, .delivered o ∉ before ++ after) ∧
      .returned v ∈ before ∧ (o = .done v ↔ reasons before = []) ∧
      ∀ r ∈ (reasons before).head?, o = endedWith α r := by
  have h : Sound j := exec_invariant (fun _ _ _ h hs => h.step hs) sound_submitted hrun
  have hrecorded : .finalization true ∈ j.log → Bulk.reasons j.log = [] := by
    intro hf
    rw [h.reasons, h.claimed.1 hf]
    rfl
  refine ⟨?_, ?_, ?_, ?_, fun v hv => h.delivers hv, ?_⟩
  · intro hf r hr
    have hmem : r ∈ Bulk.reasons j.log := List.mem_filterMap.2 ⟨_, hr, rfl⟩
    cases hrecorded hf ▸ hmem
  · intro v hf hv o ho
    rcases h.returned hv with ⟨hnone, -⟩ | ⟨before, after, hd⟩
    · cases hnone.symm.trans ho
    · cases hd.outcome.symm.trans ho
      have hreasons := hrecorded hf
      rw [hd.log, Bulk.reasons, List.filterMap_append] at hreasons
      exact report_eq_done.2 (List.append_eq_nil_iff.1 hreasons).1
  · intro ha
    have hstate := (h.answered _ ha).1 rfl
    constructor
    · intro hf
      cases hstate.symm.trans (h.claimed.1 hf)
    · exact h.not_done hstate
  · intro ha
    exact h.claimed.2 ((h.answered _ ha).2 rfl)
  · intro o ho
    obtain ⟨before, after, v, hd, rfl⟩ := h.delivered ho
    refine ⟨hd.outcome, before, after, v, hd.log, ?_, ?_, report_eq_done, ?_⟩
    · intro o ho
      have hmem := mem_deliveries ho
      rw [Bulk.deliveries, List.filterMap_append] at hmem
      rcases List.mem_append.1 hmem with hmem | hmem
      · cases (show o ∈ Bulk.deliveries before from hmem) |> (hd.deliveries.1 ▸ ·)
      · cases (show o ∈ Bulk.deliveries after from hmem) |> (hd.deliveries.2 ▸ ·)
    · obtain ⟨n, hn, hv⟩ := List.mem_filterMap.1 (show v ∈ Bulk.values before by simp [hd.values.1])
      cases n <;> cases hv
      exact hn
    · intro r hr
      rw [report, hr]
      rfl

/-- A client's cancel comes while the closure publishes, and is told that it is too late. -/
theorem cancel_excludes_publication_late :
    ∃ j, exec step {} [.pick, .finalize 0, .clientCancel 1, .read 1, .returns 7, .answer 1,
        .release, .deliver] = some j ∧
      .answered .notCancellable ∈ j.log ∧ .finalization true ∈ j.log ∧
      j.outcome = some (.done 7) ∧ ∀ r, .recorded r ∉ j.log := by
  have hrun : (exec step ({} : Job Nat) [.pick, .finalize 0, .clientCancel 1, .read 1, .returns 7,
      .answer 1, .release, .deliver]).any (fun j => decide (.answered .notCancellable ∈ j.log ∧
        .finalization true ∈ j.log ∧ j.outcome = some (.done 7))) = true := by
    decide +kernel
  obtain ⟨j, hj, h⟩ := (Option.any_eq_true _ _).1 hrun
  obtain ⟨hanswered, hclaimed, houtcome⟩ := of_decide_eq_true h
  exact ⟨j, hj, hanswered, hclaimed, houtcome, (cancel_excludes_publication _ j hj).1 hclaimed⟩

end Job
end Chan.Bulk
