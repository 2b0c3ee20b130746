import Chan.Control.Timer
import Chan.Lib.Transition

namespace Chan.Control
open Utf AssocMap Function Transition ControllerState

variable {s : ControllerState}

structure Controller where
  state : ControllerState
  log : List Effect

namespace ControllerState

variable {sizes : Sizes}

structure Valid (sizes : Sizes) (s : ControllerState) : Prop where
  sound : s.core.Sound sizes
  indexed : s.Exact
  settled : s.phase.Settled

lemma sound_new : (new limit).core.Sound sizes where
  proper _ _ h := nomatch h
  key _ _ h := nomatch h
  owned _ _ h := nomatch h
  browser _ _ h := nomatch h
  usage _ _ h := nomatch h
  browserUsage _ h := nomatch h
  claims _ _ h := nomatch h
  within owner ds h := by
    rw [Finset.eq_empty_of_forall_notMem fun d hd => nomatch h d hd]
    exact Nat.zero_le _

lemma settled_new : (new limit).phase.Settled where
  staged :=
    { waiting _ _ h := nomatch h.1
      initial h := nomatch h
      target _ _ h := nomatch h
      backed _ h := nomatch h
      fresh _ _ h := nomatch h
      told _ _ h := nomatch h }
  busy _ h := nomatch h
  idle _ := rfl

lemma valid_new : (new limit).Valid sizes :=
  ⟨sound_new, ⟨fun _ => rfl, rfl, rfl⟩, settled_new⟩

lemma call_tick (hop : l.op = .tick) :
    (s.call sizes l).1 = (s.tick sizes l.now l.wallNow).1 := by
  rw [call, hop, Turn.answer]

lemma moves_call (h : s.Valid sizes) (l : ControllerLabel) :
    Moves sizes l (s.Spared l) s.core (s.call sizes l).turn.2 (s.call sizes l).1.core :=
  ((answers_call id h.settled).runs h.sound h.indexed).1

lemma valid_call (h : s.Valid sizes) :
    (s.call sizes l).1.Valid sizes := by
  have hcall : Answers sizes l False s (s.call sizes l).turn :=
    answers_call False.elim h.settled
  obtain ⟨hmoves, hindexed⟩ := hcall.runs h.sound h.indexed
  exact ⟨hmoves.sound h.sound, hindexed, hcall.settled⟩

end ControllerState

/-- The abstract controller answers calls in their order, each by moves under its own label. Whether
`kept` holds of a call may depend on those before it. -/
inductive Core.Served (sizes : Sizes) (kept : List ControllerLabel → ControllerLabel → Prop) :
    Core → List ControllerLabel → List Effect → Core → Prop
  | nil : Served sizes kept c [] [] c
  | snoc (h : Served sizes kept c ls es d) (hmoves : Moves sizes l (kept ls l) d fs e) :
      Served sizes kept c (ls ++ [l]) (es ++ fs) e

namespace Controller

def new (maxDevserversPerUser : Nat) : Controller := ⟨.new maxDevserversPerUser, []⟩

/-- One call, whatever it answers. -/
def step (sizes : Sizes) (c : Controller) (l : ControllerLabel) : Option Controller :=
  let t := (c.state.call sizes l).turn
  some ⟨t.1, c.log ++ t.2⟩

variable {sizes : Sizes}

lemma step_eq_some : step sizes c l = some c' ↔
    c'.state = (c.state.call sizes l).1 ∧ c'.log = c.log ++ (c.state.call sizes l).turn.2 := by
  rw [step, Option.some_inj]
  constructor
  · rintro rfl
    exact ⟨rfl, rfl⟩
  · rintro ⟨hstate, hlog⟩
    cases c'
    exact congrArg₂ Controller.mk hstate.symm hlog.symm

lemma valid_step (h : c.state.Valid sizes) (hstep : step sizes c l = some c') :
    c'.state.Valid sizes := by
  rw [(step_eq_some.1 hstep).1]
  exact valid_call h

lemma valid_exec (he : exec (step sizes) (new limit) ls = some c) : c.state.Valid sizes :=
  exec_invariant (I := fun c => c.state.Valid sizes) (fun _ _ _ => valid_step)
    (valid_new) he

/-- What every move of the calls that meet a condition keeps of the core and of the log, a run of
such calls keeps. -/
lemma along_moves {I : Core → List Effect → Prop}
    (hmove : ∀ {s l c es c' log}, C s l → Move sizes l (s.state.Spared l) c es c' →
      c.Sound sizes → I c log → I c' (log ++ es))
    (h : Along (step sizes) C c ls) (hvalid : c.state.Valid sizes) (hI : I c.state.core c.log)
    (he : exec (step sizes) c ls = some c') : I c'.state.core c'.log := by
  have hall : c'.state.Valid sizes ∧ I c'.state.core c'.log := by
    refine h.invariant (I := fun c => c.state.Valid sizes ∧ I c.state.core c.log) ?_
      ⟨hvalid, hI⟩ he
    rintro s l t ⟨hvalid, hI⟩ hC hstep
    refine ⟨valid_step hvalid hstep, ?_⟩
    obtain ⟨hstate, hlog⟩ := step_eq_some.1 hstep
    rw [hstate, hlog]
    refine (Trace.Run.invariant (I := fun c log => c.Sound sizes ∧ I c log) ?_
      (moves_call hvalid l) ⟨hvalid.sound, hI⟩).2
    exact fun hm hs => ⟨hm.sound hs.1, hmove hC hm hs.1 hs.2⟩
  exact hall.2

lemma exec_moves {I : Core → List Effect → Prop}
    (hmove : ∀ {l kept c es c' log}, Move sizes l kept c es c' → c.Sound sizes → I c log →
      I c' (log ++ es))
    (hvalid : c.state.Valid sizes) (hI : I c.state.core c.log)
    (he : exec (step sizes) c ls = some c') : I c'.state.core c'.log :=
  along_moves (C := fun _ _ => True) (fun _ => hmove) (.of_forall (fun _ _ => trivial) _) hvalid hI
    he

section Reached
variable (sizes : Sizes) (limit : Nat) (ls : List ControllerLabel)

lemma exec_new : ∃ c, exec (step sizes) (new limit) ls = some c := by
  generalize new limit = c
  induction ls generalizing c with
  | nil => exact ⟨c, rfl⟩
  | cons l ls ih => exact ih _

/-- A claim is of a live session that was told the fleet is ready, and the fleet is ready. A browser
session's row is held by such a session, or counted for a lost one. -/
theorem claims_told : ∃ c, exec (step sizes) (new limit) ls = some c ∧
    (∀ K claim, c.state.pending.lookup K = some claim → c.state.ready = true ∧
      ∃ p, c.state.session claim.session = some p ∧ p.fleetReady = true) ∧
    ∀ i o, c.state.browserSessions.lookup i = some o →
      (∃ p, c.state.session o.session = some p ∧ p.fleetReady = true ∧
        p.browserSessions.lookup i = some o.row) ∨
      c.state.session o.session = none ∧ (c.state.browserOrphanUsage.lookup o.session).isSome := by
  obtain ⟨c, he⟩ := exec_new sizes limit ls
  have hsound := (valid_exec he).sound
  refine ⟨c, he, fun K claim hc => ?_, fun i o ho => ?_⟩
  · obtain ⟨hready, x, hx, htold⟩ := hsound.claims K claim hc
    obtain ⟨p, hp, rfl⟩ := session_of_current hx
    exact ⟨hready, p, hp, htold⟩
  · rcases hsound.browser i o ho with ⟨x, hx, htold, hrow⟩ | ⟨hlost, hcounted⟩
    · obtain ⟨p, hp, rfl⟩ := session_of_current hx
      exact .inl ⟨p, hp, htold, hrow⟩
    · refine .inr ⟨Option.eq_none_iff_forall_ne_some.2 fun p hp => ?_, hcounted⟩
      exact hlost.2 _ (current_of_session hp).1

end Reached

end Controller

end Chan.Control
