import Chan.Control.Readiness

namespace Chan.Control
open Utf AssocMap Function Transition

variable {s : ControllerState}

def Effect.settles (i : Uuid) : Effect → Bool
  | .commandSettled j _ => decide (j = i)
  | _ => false

def settlements (log : List Effect) (i : Uuid) : Nat := log.countP (Effect.settles i)

lemma settlements_append :
    settlements (log ++ es) i = settlements log i + settlements es i := List.countP_append

lemma settlements_eq_zero (h : ∀ e ∈ es, Effect.settles i e = false) : settlements es i = 0 :=
  List.countP_eq_zero.2 fun e he => by rw [h e he]; exact Bool.false_ne_true

lemma Effect.Plain.settles (h : Effect.Plain e) : Effect.settles i e = false := by
  cases e with
  | commandSettled => exact h.elim
  | send | retire => rfl

inductive Stand
  | undrawn
  | waiting (purpose : CommandPurpose)
  | revoking
  | retired
  | settled
  deriving DecidableEq

def Account (c : Core) (log : List Effect) (i : Uuid) : Stand → Prop
  | .undrawn => c.nextUuid ≤ i ∧ c.commands i = none ∧ c.revocations i = none ∧
      settlements log i = 0
  | .waiting purpose => i < c.nextUuid ∧ (c.commands i).map PendingCommand.purpose = some purpose ∧
      c.revocations i = none ∧ settlements log i = 0
  | .revoking => i < c.nextUuid ∧ c.commands i = none ∧ (c.revocations i).isSome ∧
      settlements log i = 0
  | .retired => i < c.nextUuid ∧ c.commands i = none ∧ c.revocations i = none ∧
      settlements log i = 0
  | .settled => i < c.nextUuid ∧ c.commands i = none ∧ c.revocations i = none ∧
      settlements log i = 1

inductive Stand.Follows : Stand → Stand → Prop
  | refl : Follows st st
  | drawn : Follows .undrawn st
  | answered : Follows (.waiting .runtime) .settled
  | reconciled : Follows (.waiting .reconciliation) .retired
  | revoked : Follows .revoking .settled

lemma Stand.Follows.trans (h : Follows a b) (h' : Follows b c) : Follows a c := by
  cases h with
  | refl => exact h'
  | drawn => exact .drawn
  | answered => cases h'; exact .answered
  | reconciled => cases h'; exact .reconciled
  | revoked => cases h'; exact .revoked

section
variable (h : Account c log i st)
include h

lemma Account.keep (hcommands : c'.commands i = c.commands i)
    (hrevocations : c'.revocations i = c.revocations i)
    (hnext : c'.nextUuid ≤ i ↔ c.nextUuid ≤ i) (hes : ∀ e ∈ es, Effect.settles i e = false) :
    ∃ st', st.Follows st' ∧ Account c' (log ++ es) i st' := by
  refine ⟨st, .refl, ?_⟩
  have hcount : settlements (log ++ es) i = settlements log i := by
    rw [settlements_append, settlements_eq_zero hes, Nat.add_zero]
  have hlt : i < c'.nextUuid ↔ i < c.nextUuid := by rw [← not_le, hnext, not_le]
  cases st <;> simp only [Account, hcommands, hrevocations, hnext, hlt, hcount] at h ⊢ <;> exact h

lemma Account.lt_or_undrawn : i < c.nextUuid ∨ st = .undrawn := by
  cases st with
  | undrawn => exact .inr rfl
  | _ => exact .inl h.1

lemma Account.eq_waiting (hcommand : c.commands i = some command) :
    st = .waiting command.purpose := by
  cases st with
  | waiting purpose =>
    have hpurpose := h.2.1
    rw [hcommand] at hpurpose
    rw [Option.some.inj hpurpose]
  | _ => cases hcommand.symm.trans h.2.1

lemma Account.eq_revoking (hrevocation : c.revocations i = some r) :
    st = .revoking := by
  cases st with
  | revoking => rfl
  | _ => cases hrevocation.symm.trans h.2.2.1

lemma Account.draw (hn : c.nextUuid ≤ n)
    (hes : ∀ e ∈ es, Effect.settles i e = false) :
    ∃ st', st.Follows st' ∧ Account { c with nextUuid := n } (log ++ es) i st' := by
  by_cases hi : n ≤ i ↔ c.nextUuid ≤ i
  · exact h.keep rfl rfl hi hes
  · have hlt : i < n := by
      by_contra hle
      exact hi ⟨fun h => hn.trans h, fun _ => not_lt.1 hle⟩
    have hundrawn : st = .undrawn := h.lt_or_undrawn.resolve_left fun hlt' =>
      hi ⟨fun h => absurd hlt (not_lt.2 h), fun h => absurd hlt' (not_lt.2 h)⟩
    subst hundrawn
    refine ⟨.retired, .drawn, hlt, h.2.1, h.2.2.1, ?_⟩
    rw [settlements_append, settlements_eq_zero hes, h.2.2.2]

end

lemma succ_le_iff_of_ne (hi : i ≠ n) : n + 1 ≤ i ↔ n ≤ i :=
  Nat.succ_le_iff.trans ⟨Nat.le_of_lt, fun h => Nat.lt_of_le_of_ne h hi.symm⟩

lemma Account.eq_undrawn (h : Account c log c.nextUuid st) : st = .undrawn :=
  h.lt_or_undrawn.resolve_left (lt_irrefl _)

lemma settles_send : ∀ e ∈ [Effect.send k frame a], Effect.settles i e = false := fun e he => by
  rw [List.mem_singleton.1 he]
  rfl

lemma Account.kill (h : Account c log i st) :
    ∃ st', st.Follows st' ∧ Account { c with
        commands := update c.commands c.nextUuid (some command)
        nextUuid := c.nextUuid + 1 } (log ++ [.send k frame a]) i st' := by
  by_cases hi : i = c.nextUuid
  · subst hi
    cases h.eq_undrawn
    have hself : update c.commands c.nextUuid (some command) c.nextUuid = some command :=
      update_self ..
    refine ⟨.waiting command.purpose, .drawn, Nat.lt_succ_self _,
      congrArg (Option.map PendingCommand.purpose) hself, h.2.2.1, ?_⟩
    rw [settlements_append, settlements_eq_zero settles_send, h.2.2.2]
  · exact h.keep (update_of_ne hi ..) rfl (succ_le_iff_of_ne hi) settles_send

lemma Account.revoke (h : Account c log i st) :
    ∃ st', st.Follows st' ∧ Account { c with
        revocations := update c.revocations c.nextUuid (some pending)
        nextUuid := c.nextUuid + 1 } (log ++ [.send k frame a]) i st' := by
  by_cases hi : i = c.nextUuid
  · subst hi
    cases h.eq_undrawn
    have hself : update c.revocations c.nextUuid (some pending) c.nextUuid = some pending :=
      update_self ..
    refine ⟨.revoking, .drawn, Nat.lt_succ_self _, h.2.1, congrArg Option.isSome hself, ?_⟩
    rw [settlements_append, settlements_eq_zero settles_send, h.2.2.2]
  · exact h.keep rfl (update_of_ne hi ..) (succ_le_iff_of_ne hi) settles_send

lemma settlements_self : settlements [.commandSettled i outcome] i = 1 := by
  simp [settlements, Effect.settles]

lemma settles_other (hi : i ≠ j) :
    ∀ e ∈ [Effect.commandSettled j outcome], Effect.settles i e = false := fun e he => by
  rw [List.mem_singleton.1 he]
  exact decide_eq_false fun h => hi h.symm

lemma Account.settleCommand (h : Account c log i st) (hid : c.commands j = some command) :
    ∃ st', st.Follows st' ∧ Account { c with commands := update c.commands j none }
      (log ++ if command.purpose = .runtime then [.commandSettled j outcome] else []) i st' := by
  by_cases hi : i = j
  · subst hi
    obtain rfl := h.eq_waiting hid
    obtain ⟨hlt, _, hrevocations, hcount⟩ := h
    cases hpurpose : command.purpose with
    | runtime =>
      refine ⟨.settled, .answered, hlt, update_self .., hrevocations, ?_⟩
      rw [if_pos rfl, settlements_append, hcount, settlements_self]
    | reconciliation =>
      refine ⟨.retired, .reconciled, hlt, update_self .., hrevocations, ?_⟩
      rw [if_neg nofun, List.append_nil, hcount]
  · refine h.keep (update_of_ne hi ..) rfl Iff.rfl ?_
    split
    · exact settles_other hi
    · exact fun e he => nomatch he

lemma Account.settleRevocation (h : Account c log i st) (hid : c.revocations j = some r) :
    ∃ st', st.Follows st' ∧ Account { c with revocations := update c.revocations j none }
      (log ++ [.commandSettled j outcome]) i st' := by
  by_cases hi : i = j
  · subst hi
    obtain rfl := h.eq_revoking hid
    obtain ⟨hlt, hcommands, _, hcount⟩ := h
    refine ⟨.settled, .revoked, hlt, hcommands, update_self .., ?_⟩
    rw [settlements_append, hcount, settlements_self]
  · exact h.keep rfl (update_of_ne hi ..) Iff.rfl (settles_other hi)

lemma Move.account (h : Move sizes l kept c es c') (hi : Account c log i st) :
    ∃ st', st.Follows st' ∧ Account c' (log ++ es) i st' := by
  cases h with
  | emit hes hn => exact hi.draw hn fun e he => (hes e he).settles
  | kill _ => exact hi.kill
  | revoke => exact hi.revoke
  | settleCommand hid => exact hi.settleCommand hid
  | settleRevocation hid => exact hi.settleRevocation hid
  | claim _ _ _ _ _ _ hes =>
    refine hi.keep rfl rfl Iff.rfl fun e he => ?_
    rcases List.mem_append.1 he with he | he
    · exact (hes e he).settles
    · exact settles_send e he
  | snapshot | resync | join => exact hi.keep rfl rfl Iff.rfl settles_send
  | converge =>
    refine hi.keep rfl rfl Iff.rfl fun e he => ?_
    obtain ⟨k, _, rfl⟩ := List.mem_map.1 he
    rfl
  | _ => exact hi.keep rfl rfl Iff.rfl fun e he => nomatch he

namespace Controller

variable {sizes : Sizes}

lemma account_exec (hvalid : c.state.Valid sizes) (h : Account c.state.core c.log i st)
    (he : exec (step sizes) c ls = some c') :
    ∃ st', st.Follows st' ∧ Account c'.state.core c'.log i st' := by
  refine exec_moves (I := fun c log => ∃ st', st.Follows st' ∧ Account c log i st') ?_ hvalid
    ⟨st, .refl, h⟩ he
  rintro l kept c es c' log hm _ ⟨st', hfollows, h⟩
  obtain ⟨st'', hfollows', h'⟩ := hm.account h
  exact ⟨st'', hfollows.trans hfollows', h'⟩

lemma account_new : ∃ st, Account (new limit).state.core (new limit).log i st := by
  by_cases hi : 1 ≤ i
  · exact ⟨.undrawn, hi, rfl, rfl, rfl⟩
  · exact ⟨.retired, Nat.lt_of_not_le hi, rfl, rfl, rfl⟩

lemma exists_account (he : exec (step sizes) (new limit) ls = some c) :
    ∃ st, Account c.state.core c.log i st := by
  obtain ⟨st, h⟩ := account_new
  obtain ⟨st', _, h'⟩ := account_exec (ControllerState.valid_new) h he
  exact ⟨st', h'⟩

end Controller

def ControllerOp.commands : ControllerOp → Bool
  | .beginExactKill .. | .beginOwnerKill _ | .beginAllKill | .beginSessionRevocation _ => true
  | _ => false

namespace ControllerState

def Awaited (s : ControllerState) (i : Uuid) : Prop :=
  (∃ command, s.commands.lookup i = some command ∧ command.purpose = .runtime) ∨
    (s.sessionRevocations.lookup i).isSome

lemma awaited_issueKills (groups : List (SessionKey × List Uuid)) (now : Instant)
    (s : ControllerState) (hi : i ∈ s.drawn groups) :
    (s.issueKills groups .runtime now).1.Awaited i := by
  obtain ⟨cs, hphase, _, hnew, _⟩ := issueKills_spec groups .runtime now s
  obtain ⟨_, _, command, hcommand, _, hpurpose⟩ := hnew i hi
  refine .inl ⟨command, ?_, hpurpose⟩
  have hcommands := congrArg (fun ph => ph.commands i) hphase
  exact hcommands.trans hcommand

lemma each_revokeAt_spec (es : List (SessionKey × ProxySession)) (s : ControllerState) :
    (∀ i, (s.sessionRevocations.lookup i).isSome →
      ((Turn.each (revokeAt revocation now) es s).1.sessionRevocations.lookup i).isSome) ∧
    ∀ i ∈ s.drawn es,
      ((Turn.each (revokeAt revocation now) es s).1.sessionRevocations.lookup i).isSome := by
  induction es generalizing s with
  | nil => exact ⟨fun i hi => hi, nofun⟩
  | cons e es ih =>
    obtain ⟨hold, hnew⟩ := ih (revokeAt revocation now s e).1
    have hself : ∀ i, i = s.nextUuid ∨ (s.sessionRevocations.lookup i).isSome →
        ((revokeAt revocation now s e).1.sessionRevocations.lookup i).isSome := by
      intro i hi
      exact (congrArg Option.isSome (congrFun (lookup_insert_fun s.sessionRevocations s.nextUuid
        ⟨e.1, now + commandTimeout⟩) i)).trans (isSome_update_some.2 hi)
    have hdrawn : s.drawn (e :: es) =
      s.nextUuid :: (revokeAt revocation now s e).1.drawn es := List.range'_succ ..
    refine ⟨fun i hi => hold i (hself i (.inr hi)), fun i hi => ?_⟩
    rcases List.mem_cons.1 hi with rfl | hi
    · exact hold _ (hself _ (.inl rfl))
    · exact hnew i hi

lemma awaited_killWhere
    (h : (s.killWhere claims rows now).2 = .ok reply) (hi : i ∈ reply.commandIds) :
    (s.killWhere claims rows now).1.Awaited i := by
  cases h
  exact awaited_issueKills _ now _ hi

lemma awaited_beginExactKill
    (h : (s.beginExactKill owner devserverId now).2 = .ok reply) (hi : i ∈ reply.commandIds) :
    (s.beginExactKill owner devserverId now).1.Awaited i := by
  unfold beginExactKill at h ⊢
  split at h <;> rename_i hready
  · cases h
  rw [if_neg hready]
  split at h
  · cases h
    cases hi
  rename_i o ho
  split at h <;> rename_i howns
  · cases h
  rw [if_neg howns]
  cases h
  exact awaited_issueKills [(o.session, [o.row.registrationId])] now s hi

lemma awaited_beginOwnerKill
    (h : (s.beginOwnerKill owner now).2 = .ok reply) (hi : i ∈ reply.commandIds) :
    (s.beginOwnerKill owner now).1.Awaited i := by
  unfold beginOwnerKill at h ⊢
  split at h <;> rename_i hready
  · cases h
  rw [if_neg hready]
  split at h <;> rename_i howns
  · cases h
  rw [if_neg howns]
  exact awaited_killWhere h hi

lemma awaited_beginAllKill (h : (s.beginAllKill now).2 = .ok reply) (hi : i ∈ reply.commandIds) :
    (s.beginAllKill now).1.Awaited i := by
  unfold beginAllKill at h ⊢
  split at h <;> rename_i hready
  · cases h
  rw [if_neg hready]
  split at h <;> rename_i howns
  · cases h
  rw [if_neg howns]
  exact awaited_killWhere h hi

lemma awaited_beginSessionRevocation
    (h : (s.beginSessionRevocation revocation now).2 = .ok reply) (hi : i ∈ reply.commandIds) :
    (s.beginSessionRevocation revocation now).1.Awaited i := by
  unfold beginSessionRevocation at h ⊢
  split at h <;> rename_i hvalid
  · cases h
  rw [if_neg hvalid]
  cases h
  exact .inr ((each_revokeAt_spec s.sessions s).2 i hi)

lemma awaited_of_returned (hop : l.op.commands = true)
    (h : (s.call sizes l).2 = .ok reply) (hi : i ∈ reply.commandIds) :
    (s.call sizes l).1.Awaited i := by
  unfold call at h ⊢
  cases hl : l.op with
  | beginExactKill owner devserverId =>
    rw [hl] at h
    exact awaited_beginExactKill h hi
  | beginOwnerKill owner =>
    rw [hl] at h
    exact awaited_beginOwnerKill h hi
  | beginAllKill =>
    rw [hl] at h
    exact awaited_beginAllKill h hi
  | beginSessionRevocation revocation =>
    rw [hl] at h
    exact awaited_beginSessionRevocation h hi
  | _ =>
    rw [hl] at hop
    cases hop

/-- A result from another session than the one it was asked of. -/
def Foreign (s : ControllerState) (l : ControllerLabel) : Prop :=
  (∃ proxyId incarnation i killed missing failed,
    l.op = .commandResult proxyId incarnation i killed missing failed ∧
    ∀ command, s.commands.lookup i = some command → command.session ≠ ⟨proxyId, incarnation⟩) ∨
  ∃ proxyId incarnation i revoked,
    l.op = .sessionRevocationResult proxyId incarnation i revoked ∧
    ∀ pending, s.sessionRevocations.lookup i = some pending →
      pending.session ≠ ⟨proxyId, incarnation⟩

structure Ignored (s : ControllerState) (a : Answer) : Prop where
  commands : a.1.commands = s.commands
  revocations : a.1.sessionRevocations = s.sessionRevocations
  silent : a.turn.2 = []

lemma ignored_requireKey
    (h : ∀ p, s.session ⟨proxyId, incarnation⟩ = some p →
      s.Ignored (f ⟨proxyId, incarnation⟩ p)) :
    s.Ignored (s.requireKey proxyId incarnation f) := by
  unfold requireKey
  split
  · exact ⟨rfl, rfl, rfl⟩
  · rename_i p hp
    exact h p hp

lemma ignored_of_foreign (h : s.Foreign l) :
    s.Ignored (s.call sizes l) := by
  rcases h with ⟨proxyId, incarnation, i, killed, missing, failed, hop, hforeign⟩ |
    ⟨proxyId, incarnation, i, revoked, hop, hforeign⟩ <;> rw [call, hop]
  · refine ignored_requireKey fun p _ => ?_
    dsimp only
    cases hcommand : (s.touch ⟨proxyId, incarnation⟩ l.now).commands.lookup i with
    | none => exact ⟨rfl, rfl, rfl⟩
    | some command =>
      dsimp only
      rw [if_pos (hforeign command hcommand)]
      exact ⟨rfl, rfl, rfl⟩
  · show s.Ignored (s.sessionRevocationResult proxyId incarnation i revoked)
    unfold sessionRevocationResult
    split
    · exact ⟨rfl, rfl, rfl⟩
    · refine ignored_requireKey fun p _ => ?_
      cases hpending : s.sessionRevocations.lookup i with
      | none => exact ⟨rfl, rfl, rfl⟩
      | some pending =>
        dsimp only
        rw [if_pos (hforeign pending hpending)]
        exact ⟨rfl, rfl, rfl⟩

def Outstanding (s : ControllerState) (i : Uuid) : Prop :=
  (s.commands.lookup i).isSome ∨ (s.sessionRevocations.lookup i).isSome

end ControllerState

lemma Account.settled_once {st st' : Stand}
    (h : Account s.core log i st')
    (hst : st = .waiting .runtime ∨ st = .revoking) (hfollows : st.Follows st') :
    (s.Outstanding i ∧ settlements log i = 0) ∨ (¬ s.Outstanding i ∧ settlements log i = 1) := by
  have hgone : Account s.core log i .settled → ¬ s.Outstanding i ∧ settlements log i = 1 := by
    rintro ⟨_, hcommands, hrevocations, hcount⟩
    refine ⟨fun ho => ?_, hcount⟩
    rcases ho with ho | ho
    · cases (congrArg Option.isSome hcommands).symm.trans ho
    · cases (congrArg Option.isSome hrevocations).symm.trans ho
  rcases hst with rfl | rfl
  · cases hfollows with
    | refl =>
      obtain ⟨_, hpurpose, _, hcount⟩ := h
      obtain ⟨command, hcommand, _⟩ := Option.map_eq_some_iff.1 hpurpose
      exact .inl ⟨.inl (Option.isSome_iff_exists.2 ⟨command, hcommand⟩), hcount⟩
    | answered => exact .inr (hgone h)
  · cases hfollows with
    | refl => exact .inl ⟨.inr h.2.2.1, h.2.2.2⟩
    | revoked => exact .inr (hgone h)

namespace Controller

variable {sizes : Sizes}

/-- A command a call returns is outstanding or has settled once, a command of a reconciliation never
settles, and a result from another session changes nothing that is outstanding. -/
theorem commands_settle_once (he : exec (step sizes) (new limit) ls = some c) :
    (∀ l reply i c' ls' c'', l.op.commands = true → (c.state.call sizes l).2 = .ok reply →
      i ∈ reply.commandIds → step sizes c l = some c' → exec (step sizes) c' ls' = some c'' →
      (c''.state.Outstanding i ∧ settlements c''.log i = 0) ∨
      (¬ c''.state.Outstanding i ∧ settlements c''.log i = 1)) ∧
    (∀ i command ls' c', c.state.commands.lookup i = some command →
      command.purpose = .reconciliation → exec (step sizes) c ls' = some c' →
      settlements c'.log i = 0) ∧
    ∀ l c', c.state.Foreign l → step sizes c l = some c' →
      c'.state.commands = c.state.commands ∧
      c'.state.sessionRevocations = c.state.sessionRevocations ∧ c'.log = c.log := by
  have hvalid := valid_exec he
  refine ⟨fun l reply i c' ls' c'' hop hok hi hstep he' => ?_,
    fun i command ls' c' hcommand hpurpose he' => ?_, fun l c' hforeign hstep => ?_⟩
  · have hawaited : c'.state.Awaited i := by
      rw [(step_eq_some.1 hstep).1]
      exact ControllerState.awaited_of_returned hop hok hi
    obtain ⟨st, h⟩ := exists_account (exec_append_eq_some.2 ⟨c, he, exec_cons_eq_some.2
      ⟨c', hstep, exec_nil ..⟩⟩)
    obtain ⟨st', hfollows, h'⟩ := account_exec (valid_step hvalid hstep) h he'
    refine Account.settled_once h' ?_ hfollows
    rcases hawaited with ⟨command, hcommand, hpurpose⟩ | hrevocation
    · exact .inl (hpurpose ▸ h.eq_waiting hcommand)
    · exact .inr (h.eq_revoking (Option.get_mem hrevocation))
  · obtain ⟨st, h⟩ := exists_account he
    obtain ⟨st', hfollows, h'⟩ := account_exec hvalid h he'
    rw [h.eq_waiting hcommand, hpurpose] at hfollows
    cases hfollows with
    | refl | reconciled => exact h'.2.2.2
  · obtain ⟨hstate, hlog⟩ := step_eq_some.1 hstep
    obtain ⟨hcommands, hrevocations, hsilent⟩ : c.state.Ignored (c.state.call sizes l) :=
      ControllerState.ignored_of_foreign hforeign
    rw [hstate, hlog]
    exact ⟨hcommands, hrevocations, by rw [hsilent, List.append_nil]⟩

/-- One proxy converges, all tunnels are killed, and the proxy answers. -/
theorem kill_of_all_settles_once : ∃ c c' c'' reply,
    exec (step .unit) (new 3) converging = some c ∧
    (c.state.call .unit (.second 31 .beginAllKill)).2 = .ok reply ∧ 1 ∈ reply.commandIds ∧
    step .unit c (.second 31 .beginAllKill) = some c' ∧
    exec (step .unit) c' [.second 32 (.commandResult ['a'] 1 1 [1] [] [])] = some c'' ∧
    ((c''.state.Outstanding 1 ∧ settlements c''.log 1 = 0) ∨
      (¬ c''.state.Outstanding 1 ∧ settlements c''.log 1 = 1)) := by
  have hrun : (exec (step .unit) (new 3) converging).any (fun c =>
      (c.state.call .unit (.second 31 .beginAllKill)).2.toOption.any fun reply =>
        decide (1 ∈ reply.commandIds)) = true := by decide +kernel
  obtain ⟨c, he, hreply⟩ := (Option.any_eq_true _ _).1 hrun
  cases hok : (c.state.call .unit (.second 31 .beginAllKill)).2 with
  | ok reply =>
    rw [hok] at hreply
    have hi := of_decide_eq_true hreply
    exact ⟨c, _, _, reply, he, hok, hi, rfl, rfl,
      (commands_settle_once he).1 (.second 31 .beginAllKill) reply 1 _
        [.second 32 (.commandResult ['a'] 1 1 [1] [] [])] _ rfl hok hi rfl rfl⟩
  | error e =>
    rw [hok] at hreply
    cases hreply

end Controller

end Chan.Control
