import Chan.Control.Standing

namespace Chan.Control
open Utf AssocMap Function Transition

variable {s : ControllerState} {op : ControllerOp} {h : HonestProxy}

def Effect.kills (k : SessionKey) (commandId : Uuid) : Effect → Bool
  | .send k' (.killRegistrations i _) _ => decide (k' = k ∧ i = commandId)
  | _ => false

lemma Effect.kills_eq_true {e : Effect} (h : e.kills k i = true) :
    ∃ ids a, e = .send k (.killRegistrations i ids) a := by
  unfold Effect.kills at h
  split at h
  · obtain ⟨rfl, rfl⟩ := of_decide_eq_true h
    exact ⟨_, _, rfl⟩
  · cases h

structure HonestProxy where
  generation : Option Nat
  up : Finset Uuid
  past : Finset Uuid

namespace HonestProxy

def connected : HonestProxy := ⟨none, ∅, ∅⟩

def after (h : HonestProxy) : ControllerOp → HonestProxy
  | .acceptSnapshot _ _ g rows refused _ =>
    let ids := (rows.map TunnelRow.registrationId ++ refused).toFinset
    ⟨some g, ids, h.past ∪ ids⟩
  | .tunnelUp _ _ g row =>
    ⟨some g, insert row.registrationId h.up, insert row.registrationId h.past⟩
  | .refuseTunnelUp _ _ g i => ⟨some g, insert i h.up, insert i h.past⟩
  | .tunnelDown _ _ g i => ⟨some g, h.up.erase i, h.past⟩
  | _ => h

/-- What a session may send next: one snapshot, then deltas in order, each registration up once and
down once, and of what it has up or was sent only refreshes and results. -/
def May (k : SessionKey) (mine : Uuid → Prop) (sent : List Effect) (h : HonestProxy) :
    ControllerOp → Prop
  | .acceptSnapshot .. => h.generation = none
  | .tunnelUp _ _ g row => h.generation.map succGeneration = some g ∧
    mine row.registrationId ∧ row.registrationId ∉ h.past
  | .refuseTunnelUp _ _ g i => h.generation.map succGeneration = some g ∧ mine i ∧ i ∉ h.past
  | .tunnelDown _ _ g i => h.generation.map succGeneration = some g ∧ i ∈ h.up
  | .refreshLease _ _ i _ | .refuseLeaseRefresh _ _ i => i ∈ h.up
  | .commandResult _ _ i _ _ _ => sent.any (Effect.kills k i) = true
  | .requestAdmission .. | .cancelAdmission .. | .recordActivity .. | .pong .. | .disconnect .. =>
    True
  | _ => False

instance [DecidablePred mine] (h : HonestProxy) (op : ControllerOp) :
    Decidable (h.May k mine sent op) := by
  cases op <;> dsimp only [May] <;> infer_instance

lemma up_after (hsub : h.up ⊆ h.past) :
    (h.after op).up ⊆ (h.after op).past := by
  cases op with
  | acceptSnapshot => exact Finset.subset_union_right
  | tunnelUp | refuseTunnelUp => exact Finset.insert_subset_insert _ hsub
  | tunnelDown => exact (Finset.erase_subset ..).trans hsub
  | _ => exact hsub

lemma past_after : h.past ⊆ (h.after op).past := by
  cases op with
  | acceptSnapshot => exact Finset.subset_union_left
  | tunnelUp | refuseTunnelUp => exact Finset.subset_insert ..
  | _ => exact Finset.Subset.refl _

lemma after_of_quiet (hg : op.generation = none)
    (hsnapshot : ∀ p i g rows refused sessions,
      op ≠ .acceptSnapshot p i g rows refused sessions) : h.after op = h := by
  cases op with
  | acceptSnapshot => exact (hsnapshot _ _ _ _ _ _ rfl).elim
  | tunnelUp | tunnelDown | refuseTunnelUp => cases hg
  | _ => rfl

lemma mayResync_of_may (hmay : h.May k mine sent op)
    (hg : op.generation = none) : op.mayResync = false := by
  cases op with
  | requireResync => exact hmay.elim
  | _ => first | rfl | cases hg

end HonestProxy

/-- A frame handled before the lease it carries has run out, or while its ping is outstanding. -/
def ControllerLabel.Timely (s : ControllerState) (l : ControllerLabel) : Prop :=
  match l.op with
  | .tunnelUp _ _ _ row => l.wallNow < row.admissionLeaseExpiresAt
  | .requestAdmission _ _ _ _ _ _ _ expiresAt => l.wallNow < expiresAt
  | .refreshLease _ _ _ lease => l.wallNow < lease.admissionLeaseExpiresAt
  | .pong p i nonce => (s.session ⟨p, i⟩).any (fun x => decide (nonce ∈ x.outstandingPings)) = true
  | _ => True

instance (s : ControllerState) (l : ControllerLabel) : Decidable (l.Timely s) := by
  obtain ⟨_, _, op⟩ := l
  cases op <;> dsimp only [ControllerLabel.Timely] <;> infer_instance

def ControllerOp.isSnapshot : ControllerOp → Bool
  | .acceptSnapshot .. => true
  | _ => false

structure Watched where
  controller : Controller
  proxy : HonestProxy

def Watched.new (maxDevserversPerUser : Nat) : Watched := ⟨.new maxDevserversPerUser, .connected⟩

def Watched.step (sizes : Sizes) (k : SessionKey) (w : Watched) (l : ControllerLabel) :
    Option Watched :=
  (w.controller.step sizes l).map fun c =>
    ⟨c, if l.op.session = some k then w.proxy.after l.op else w.proxy⟩

/-- A call of a fleet in which one session keeps to the protocol while it is current: its snapshot
is accepted, and no other proxy has its registrations. -/
structure Fair (sizes : Sizes) (k : SessionKey) (mine : Uuid → Prop) (w : Watched)
    (l : ControllerLabel) : Prop where
  room : ∀ p ∈ w.controller.state.session k,
    p.removedRegistrations.card < maxRemovedRegistrations
  own : l.op.session = some k → (w.controller.state.session k).isSome ∧
    w.proxy.May k mine w.controller.log l.op ∧ l.Timely w.controller.state ∧
    (l.op.isSnapshot = true → (w.controller.state.call sizes l).2.isOk = true)
  others : ∀ k' ∈ l.op.session, k'.proxyId ≠ k.proxyId → ∀ i ∈ l.op.registrations, ¬ mine i

instance [DecidablePred mine] : Decidable (Fair sizes k mine w l) :=
  decidable_of_iff (_ ∧ _ ∧ _) ⟨fun ⟨room, own, others⟩ => ⟨room, own, others⟩,
    fun h => ⟨h.room, h.own, h.others⟩⟩

namespace ControllerState

lemma unpublished_of_apart (h : Apart k mine past s.core)
    (hs : s.session k = some p) (hmine : mine i) (hpast : i ∉ past) :
    s.publishesRegistration k i = false := by
  obtain ⟨hk, hp⟩ := current_of_session hs
  have hown : ¬ p.live.Knows i := fun hknows =>
    hpast ((h k.proxyId p.live hk.1 i hknows).1 (SessionKey.ext rfl hk.2))
  rw [publishesRegistration, hp, Option.any_some, Bool.or_eq_false_iff]
  constructor
  · rw [List.any_eq_false]
    intro e he hrow
    have hlookup : s.proxies.lookup e.1 = some e.2 := AList.mem_lookup_iff.2 he
    by_cases heq : e.1 = k.proxyId
    · rw [heq, hp] at hlookup
      cases hlookup
      exact hown (.inl hrow)
    · have hlive : s.core.live e.1 = some e.2.live := by rw [core_live, hlookup]; rfl
      exact (h e.1 e.2.live hlive i (.inl hrow)).2 heq hmine
  · exact decide_eq_false fun hremoved => hown (.inr hremoved)

lemma accepted_of_installed (h : (s.installSnapshot k g snapshot refused now).2.isOk = true) :
    ∃ a, .send k (.snapshotAccepted g) a ∈ (s.installSnapshot k g snapshot refused now).turn.2 := by
  unfold installSnapshot at h ⊢
  dsimp only at h ⊢
  generalize s.withSession k.proxyId (withSnapshot g snapshot s.ready now) = s' at h ⊢
  have hsent : s'.send k (.snapshotAccepted g) ∈
      (if refused = [] then ((s', [s'.send k (.snapshotAccepted g)]) : Turn)
      else Turn.andThen (s', [s'.send k (.snapshotAccepted g)])
        (issueKill k refused .runtime now)).2 := by
    split
    · exact List.mem_singleton.2 rfl
    · exact List.mem_append_left _ (List.mem_singleton.2 rfl)
  refine ⟨s'.proxies.lookup k.proxyId, ?_⟩
  generalize (if refused = [] then ((s', [s'.send k (.snapshotAccepted g)]) : Turn)
    else Turn.andThen (s', [s'.send k (.snapshotAccepted g)])
      (issueKill k refused .runtime now)) = t at h hsent ⊢
  split at h
  · rename_i hready
    rw [if_pos hready]
    split at h
    · cases h
    · exact List.mem_append_left _ hsent
  · rename_i hready
    rw [if_neg hready]
    exact hsent

lemma accepted_of_ok
    (h : (s.acceptSnapshot sizes k.proxyId k.incarnation g rows refused browsers now
      wallNow).2.isOk = true) :
    ∃ a, .send k (.snapshotAccepted g) a ∈ (s.acceptSnapshot sizes k.proxyId k.incarnation g rows
      refused browsers now wallNow).turn.2 := by
  revert h
  unfold acceptSnapshot requireKey
  split
  · exact fun h => nomatch h
  · split
    · exact fun h => nomatch h
    · dsimp only
      split
      · exact fun h => nomatch h
      · split
        · exact fun h => nomatch h
        · split
          · exact fun h => nomatch h
          · exact accepted_of_installed

lemma isOk_requireKey
    (hs : s.session ⟨q, i⟩ = some p) (hf : (f ⟨q, i⟩ p).2.isOk = true) :
    Except.isOk (s.requireKey q i f).2 = true := by
  rw [requireKey, hs]
  exact hf

section
variable (hs : s.session ⟨q, i⟩ = some p)
include hs

lemma isOk_requestAdmission (hlease : ¬ expiresAt ≤ wallNow) :
    (s.requestAdmission q i requestId registrationId owner devserver limit expiresAt now
      wallNow).2.isOk = true := by
  rw [requestAdmission, if_neg hlease]
  refine isOk_requireKey hs ?_
  dsimp only
  split <;> rfl

lemma isOk_refreshLease
    (hlease : ¬ lease.admissionLeaseExpiresAt ≤ wallNow) (hknows : p.live.Knows registrationId) :
    (s.refreshLease sizes q i registrationId lease now wallNow).2.isOk = true := by
  rw [refreshLease, if_neg hlease]
  refine isOk_requireKey hs ?_
  dsimp only
  split
  · rfl
  · rename_i hremoved
    split
    · rename_i hnone
      rcases hknows with hrow | hknows
      · cases hnone.symm.trans (Option.get_mem hrow)
      · exact absurd hknows hremoved
    · split
      · rfl
      · split <;> rfl

lemma isOk_commandResult
    (hown : ∀ command, s.commands.lookup commandId = some command → command.session = ⟨q, i⟩) :
    (s.commandResult sizes q i commandId killed missing failed now).2.isOk = true := by
  refine isOk_requireKey hs ?_
  dsimp only
  split
  · rfl
  · rename_i command hcommand
    rw [if_neg (not_not_intro (hown command hcommand))]
    split <;> rfl

end

lemma call_acceptSnapshot (hop : l.op = .acceptSnapshot p i g rows refused browsers) :
    s.call sizes l = s.acceptSnapshot sizes p i g rows refused browsers l.now l.wallNow := by
  rw [call, hop]

end ControllerState

lemma Fair.sent (h : Fair sizes k mine w l)
    (hop : l.op = .acceptSnapshot k.proxyId k.incarnation g rows refused sessions) :
    ∃ a, .send k (.snapshotAccepted g) a ∈ (w.controller.state.call sizes l).turn.2 := by
  have hok := (h.own (by rw [hop]; rfl)).2.2.2 (by rw [hop]; rfl)
  rw [ControllerState.call_acceptSnapshot hop] at hok ⊢
  exact ControllerState.accepted_of_ok hok

/-- What holds of a watched session while it and its fleet are fair. -/
structure Abiding (sizes : Sizes) (k : SessionKey) (mine : Uuid → Prop) (w : Watched) : Prop where
  valid : w.controller.state.Valid sizes
  killing : Killing k w.controller.state.core w.controller.log
  apart : Apart k mine w.proxy.past w.controller.state.core
  steady : Steady k w.proxy.generation w.proxy.up w.controller.state.core
  had : w.proxy.up ⊆ w.proxy.past
  calm : ∀ g a, .send k (.resyncRequired g) a ∉ w.controller.log

namespace Abiding

variable {sizes : Sizes} {k : SessionKey} {mine : Uuid → Prop} {w : Watched} {l : ControllerLabel}

lemma opened (h : Abiding sizes k mine w) (hs : w.controller.state.session k = some p) :
    k.incarnation < w.controller.state.nextIncarnation := by
  obtain ⟨hk, _⟩ := ControllerState.current_of_session hs
  exact hk.2 ▸ (h.valid.sound.proper _ _ hk.1).2

lemma delivers (h : Abiding sizes k mine w) (hf : Fair sizes k mine w l)
    (hl : l.op.session = some k) (hg : l.op.generation.isSome) :
    ∃ t : Turn, w.controller.state.call sizes l = t.answer ∧
      ControllerState.Delivers k (w.proxy.after l.op).generation (w.proxy.after l.op).up t := by
  obtain ⟨hcurrent, hmay, htimely, _⟩ := hf.own hl
  obtain ⟨p, hs⟩ := Option.isSome_iff_exists.1 hcurrent
  obtain ⟨hk, hp⟩ := ControllerState.current_of_session hs
  have hreached : p.generation = w.proxy.generation := h.steady.reached _ hk
  have hfresh : ∀ i g, mine i → i ∉ w.proxy.past →
      (w.controller.state.withSession k.proxyId
        (ControllerState.advanced g l.now)).publishesRegistration k i = false := by
    intro i g hmine hpast
    refine ControllerState.unpublished_of_apart ?_ (ControllerState.session_withSession hs rfl)
      hmine hpast
    exact h.apart.setLive hk
      (congrArg Core.live (ControllerState.core_withSession hp)) rfl fun _ => .inl
  obtain ⟨now, wallNow, op⟩ := l
  cases op with
  | tunnelUp q i g row =>
    cases hl
    obtain ⟨hg, hmine, hpast⟩ := hmay
    exact ControllerState.Delivers.tunnelUp (h.opened hs) hs (hreached ▸ hg)
      (not_le.2 htimely) h.steady
      (hfresh _ g hmine hpast)
  | refuseTunnelUp q i g id =>
    cases hl
    obtain ⟨hg, hmine, hpast⟩ := hmay
    exact ControllerState.Delivers.refuseTunnelUp (h.opened hs) hs (hreached ▸ hg) h.steady
      (hfresh _ g hmine hpast)
  | tunnelDown q i g id =>
    cases hl
    obtain ⟨hg, hup⟩ := hmay
    exact ControllerState.Delivers.tunnelDown (h.opened hs) hs (hreached ▸ hg)
      (hf.room p hs) h.steady hup
  | browserSessionUp | browserSessionDown => exact hmay.elim
  | _ => cases hg

lemma registrations (h : Abiding sizes k mine w) (hf : Fair sizes k mine w l)
    (hl : l.op.session = some k) : ∀ i ∈ l.op.registrations, i ∈ (w.proxy.after l.op).past := by
  obtain ⟨_, hmay, _⟩ := hf.own hl
  obtain ⟨now, wallNow, op⟩ := l
  intro i hi
  cases op with
  | acceptSnapshot => exact Finset.mem_union_right _ (List.mem_toFinset.2 hi)
  | tunnelUp | refuseTunnelUp =>
    cases List.mem_singleton.1 hi
    exact Finset.mem_insert_self ..
  | refuseLeaseRefresh | refreshLease =>
    cases List.mem_singleton.1 hi
    exact h.had hmay
  | _ => cases hi

lemma reaches (h : Abiding sizes k mine w) (hf : Fair sizes k mine w l) :
    Steady k (if l.op.session = some k then w.proxy.after l.op else w.proxy).generation
        (if l.op.session = some k then w.proxy.after l.op else w.proxy).up
        (w.controller.state.call sizes l).1.core ∧
      ∀ g a, .send k (.resyncRequired g) a ∉ (w.controller.state.call sizes l).turn.2 := by
  by_cases hl : l.op.session = some k
  · rw [if_pos hl]
    cases hg : l.op.generation with
    | some g =>
      obtain ⟨t, hcall, ht⟩ := h.delivers hf hl (hg ▸ Option.isSome_some)
      rw [hcall]
      exact ⟨ht.steady, ht.calm⟩
    | none =>
      have hmay := (hf.own hl).2.1
      obtain ⟨hcalm, hstands⟩ := ControllerState.reaches_call h.valid
        (fun _ => HonestProxy.mayResync_of_may hmay hg) h.steady
      refine ⟨?_, hcalm⟩
      rcases hstands with ⟨hsteady, hquiet⟩ | ⟨g, given, refused, sessions, hop, hsteady⟩
      · rw [HonestProxy.after_of_quiet hg fun q i g rows refused sessions hop => ?_]
        · exact hsteady
        · have hkey : (⟨q, i⟩ : SessionKey) = k := by
            rw [hop] at hl
            exact Option.some.inj hl
          subst hkey
          obtain ⟨a, hmem⟩ := hf.sent hop
          exact hquiet g a hmem
      · rw [hop] at hsteady ⊢
        exact hsteady
  · rw [if_neg hl]
    obtain ⟨hcalm, hstands⟩ := ControllerState.reaches_call h.valid (fun h => absurd h hl) h.steady
    refine ⟨?_, hcalm⟩
    rcases hstands with ⟨hsteady, _⟩ | ⟨g, given, refused, sessions, hop, _⟩
    · exact hsteady
    · exact absurd (by rw [hop]; rfl) hl

lemma answered (h : Abiding sizes k mine w) (hf : Fair sizes k mine w l)
    (hl : l.op.session = some k) : (w.controller.state.call sizes l).2.isOk = true := by
  cases hg : l.op.generation with
  | some g =>
    obtain ⟨t, hcall, _⟩ := h.delivers hf hl (hg ▸ Option.isSome_some)
    rw [hcall]
    rfl
  | none =>
    obtain ⟨hcurrent, hmay, htimely, haccepted⟩ := hf.own hl
    obtain ⟨p, hs⟩ := Option.isSome_iff_exists.1 hcurrent
    obtain ⟨now, wallNow, op⟩ := l
    cases op with
    | acceptSnapshot q i g rows refused sessions =>
      exact haccepted rfl
    | refuseLeaseRefresh | cancelAdmission | recordActivity | disconnect =>
      cases hl
      exact ControllerState.isOk_requireKey hs rfl
    | requestAdmission q i requestId registrationId owner devserver limit expiresAt =>
      cases hl
      exact ControllerState.isOk_requestAdmission hs (not_le.2 htimely)
    | refreshLease q i registrationId lease =>
      cases hl
      exact ControllerState.isOk_refreshLease hs (not_le.2 htimely)
        (h.steady.cover p.live (ControllerState.current_of_session hs).1 (hf.room p hs) _ hmay)
    | pong q i nonce =>
      cases hl
      obtain ⟨x, hx, hnonce⟩ := (Option.any_eq_true _ _).1 htimely
      cases hs.symm.trans hx
      refine ControllerState.isOk_requireKey hs ?_
      rw [if_pos (of_decide_eq_true hnonce)]
      rfl
    | commandResult q i commandId killed missing failed =>
      cases hl
      obtain ⟨_, hsent, hkills⟩ := List.any_eq_true.1 hmay
      obtain ⟨ids, a, rfl⟩ := Effect.kills_eq_true hkills
      exact ControllerState.isOk_commandResult hs (h.killing.own commandId ids a hsent)
    | beginSession | beginSessionRevocation | beginExactKill | beginOwnerKill | beginAllKill
      | tick =>
      cases hl
    | tunnelUp | tunnelDown | refuseTunnelUp => cases hg
    | _ => exact hmay.elim

lemma step (h : Abiding sizes k mine w) (hf : Fair sizes k mine w l)
    (hstep : w.step sizes k l = some w') : Abiding sizes k mine w' := by
  obtain ⟨c, hc, rfl⟩ := Option.map_eq_some_iff.1 hstep
  obtain ⟨hstate, hlog⟩ := Controller.step_eq_some.1 hc
  have hmoves := ControllerState.moves_call h.valid l
  obtain ⟨hsteady, hcalm⟩ := h.reaches hf
  refine ⟨Controller.valid_step h.valid hc, ?_, ?_, ?_, ?_, ?_⟩
  · rw [hstate, hlog]
    exact Trace.Run.invariant (I := Killing k) (fun hm hk => hm.killing hk) hmoves h.killing
  · rw [hstate]
    refine Trace.Run.keeps (I := Apart k mine _) (fun hm ha => hm.apart ha fun k' hk' i hi => ?_)
      hmoves (h.apart.mono ?_)
    · split
      · exact HonestProxy.past_after ..
      · exact Finset.Subset.refl _
    · refine ⟨?_, fun hne => hf.others k' hk' hne i hi⟩
      rintro rfl
      rw [if_pos hk']
      exact h.registrations hf hk' i hi
  · rw [hstate]
    exact hsteady
  · show (if _ then _ else _ : HonestProxy).up ⊆ (if _ then _ else _ : HonestProxy).past
    split
    · exact HonestProxy.up_after h.had
    · exact h.had
  · rw [hlog]
    exact fun g a hmem => (List.mem_append.1 hmem).elim (h.calm g a) (hcalm g a)

end Abiding

namespace Watched

/-- A session that sends its deltas in order, with each registration up once and down once, is never
told to resync, and while it is current none of its frames is answered with an error. -/
theorem never_resynced (h : Along (step sizes k) (Fair sizes k mine) (new limit) ls)
    (he : exec (step sizes k) (new limit) ls = some w) :
    (∀ g a, .send k (.resyncRequired g) a ∉ w.controller.log) ∧
    ∀ l, Fair sizes k mine w l → l.op.session = some k →
      (w.controller.state.call sizes l).2.isOk = true := by
  have hnew : Abiding sizes k mine (new limit) :=
    { valid := ControllerState.valid_new
      killing := ⟨fun _ _ _ hmem => (List.not_mem_nil hmem).elim,
        fun _ _ _ hmem => (List.not_mem_nil hmem).elim⟩
      apart := fun _ _ hx => nomatch hx
      steady := ⟨fun _ hx => (nomatch hx.1), fun _ hx => (nomatch hx.1), fun _ => ⟨rfl, rfl⟩⟩
      had := Finset.Subset.refl _
      calm := fun _ _ => List.not_mem_nil }
  have hw : Abiding sizes k mine w :=
    h.invariant (fun _ _ _ hw hf hstep => hw.step hf hstep) hnew he
  exact ⟨hw.calm, fun l hf hl => hw.answered hf hl⟩

/-- A proxy brings a second registration up; the downs of both cross with the kill of both. -/
def crossing : List ControllerLabel :=
  Controller.converging ++
    [ControllerLabel.second 31 (.requestAdmission ['a'] 1 5 2 1 ['e'] 5 1000),
      ControllerLabel.second 31
      (.tunnelUp ['a'] 1 1 { TunnelRow.sample 2 with devserverId := ['e'] }),
      ControllerLabel.second 32 .beginAllKill, ControllerLabel.second 32 (.tunnelDown ['a'] 1 2 1),
      ControllerLabel.second 33 (.commandResult ['a'] 1 1 [1, 2] [] [])]

theorem never_resynced_crossing : ∃ w, exec (step .unit ⟨['a'], 1⟩) (new 3) crossing = some w ∧
    (∀ g a, .send ⟨['a'], 1⟩ (.resyncRequired g) a ∉ w.controller.log) ∧
    (w.controller.state.call .unit (.second 33 (.tunnelDown ['a'] 1 3 2))).2.isOk = true := by
  have hrun : (exec (step .unit ⟨['a'], 1⟩) (new 3) crossing).any (fun w =>
      decide (Fair .unit ⟨['a'], 1⟩ (fun _ => True) w
        (.second 33 (.tunnelDown ['a'] 1 3 2)))) = true := by decide +kernel
  obtain ⟨w, he, hfair⟩ := (Option.any_eq_true _ _).1 hrun
  have hall : Along (step .unit ⟨['a'], 1⟩) (Fair .unit ⟨['a'], 1⟩ fun _ => True) (new 3)
      crossing := by decide +kernel
  obtain ⟨hcalm, hok⟩ := never_resynced hall he
  exact ⟨w, he, hcalm, hok _ (of_decide_eq_true hfair) rfl⟩

/-- A registration comes up with a lease that has run out on the way. -/
theorem late_registration_answered_with_error :
    Along (step .unit ⟨['a'], 1⟩) (Fair .unit ⟨['a'], 1⟩ fun _ => True) (new 3)
      Controller.converging ∧
    (exec (step .unit ⟨['a'], 1⟩) (new 3) Controller.converging).map (fun w =>
      let late := { TunnelRow.sample 2 with devserverId := ['e'], admissionLeaseExpiresAt := 30 }
      let l := ControllerLabel.second 31 (.tunnelUp ['a'] 1 1 late)
      (decide (w.proxy.May ⟨['a'], 1⟩ (fun _ => True) w.controller.log l.op),
        (w.controller.state.call .unit l).2.isOk)) = some (true, false) := by decide +kernel

end Watched

end Chan.Control
