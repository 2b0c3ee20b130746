import Chan.Lib.Transition
import Chan.Presence.Registry

namespace Chan.Presence
open AssocMap Utf Transition List

variable {r : Registry} {ps : Map WindowId Participant} {id : RequestId}

lemma lowestOf_eq_some (h : lowestOf ps isLocal = some w) :
    ∃ p, ps.lookup w = some p ∧ 0 < p.sockets ∧ p.isLocal = isLocal := by
  obtain ⟨e, he, rfl⟩ := Option.map_eq_some_iff.1 h
  obtain ⟨hmem, hp⟩ := List.mem_filter.1 (argmin_mem he)
  rw [Bool.and_eq_true, decide_eq_true_eq, beq_iff_eq] at hp
  exact ⟨e.2, AList.mem_lookup_iff.2 hmem, hp.1, hp.2⟩

lemma lowestOf_isSome (h : ps.lookup w = some p)
    (hlive : 0 < p.sockets) : (lowestOf ps p.isLocal).isSome := by
  rw [lowestOf, Option.isSome_map, Option.isSome_iff_ne_none, ne_eq, argmin_eq_none]
  apply ne_nil_of_mem
  apply List.mem_filter.2
  apply And.intro (AList.mem_lookup_iff.1 h)
  rw [Bool.and_eq_true, decide_eq_true_eq, beq_self_eq_true]
  exact ⟨hlive, rfl⟩

lemma bestOwner_eq_some (h : bestOwner ps = some w) :
    ∃ p, ps.lookup w = some p ∧ 0 < p.sockets := by
  rw [bestOwner, Option.or_eq_some_iff] at h
  rcases h with h | ⟨-, h⟩
  · obtain ⟨p, hp, hlive, -⟩ := lowestOf_eq_some h
    exact ⟨p, hp, hlive⟩
  · obtain ⟨p, hp, hlive, -⟩ := lowestOf_eq_some h
    exact ⟨p, hp, hlive⟩

lemma bestOwner_isSome (h : ps.lookup w = some p)
    (hlive : 0 < p.sockets) : (bestOwner ps).isSome := by
  have hsome := lowestOf_isSome h hlive
  rw [bestOwner, Option.isSome_or, Bool.or_eq_true]
  cases hlocal : p.isLocal with
  | true => exact .inl (hlocal ▸ hsome)
  | false => exact .inr (hlocal ▸ hsome)

namespace Registry

lemma isLive_iff : r.isLive w = true ↔ ∃ p, r.participants.lookup w = some p ∧ 0 < p.sockets := by
  rw [isLive, Option.any_eq_true]
  simp

/-- A new local window takes the slot back from a remote one while a handover is parked. -/
def Reclaims (r : Registry) : Event → Prop
  | .join w isLocal => r.participants.lookup w = none ∧ isLocal = true ∧ r.leader.isSome ∧
      r.ownerIsLocal = false ∧ r.pending.isSome
  | _ => False

/-- A window comes back while the slot is empty. -/
def Strands (r : Registry) : Event → Prop
  | .join w _ => (r.participants.lookup w).isSome ∧ r.leader = none
  | _ => False

instance (r : Registry) (e : Event) : Decidable (r.Reclaims e) := by
  cases e <;> unfold Reclaims <;> infer_instance

instance (r : Registry) (e : Event) : Decidable (r.Strands e) := by
  cases e <;> unfold Strands <;> infer_instance

/-- The slot names a participant, and a parked handover asks the leader for another one. -/
structure Addressed (r : Registry) : Prop where
  leader : ∀ w, r.leader = some w → (r.participants.lookup w).isSome
  pending : ∀ h, r.pending = some h → r.leader = some h.leader ∧
    (r.participants.lookup h.target).isSome ∧ h.target ≠ h.leader

/-- A live window has a leader. -/
def Led (r : Registry) : Prop := ∀ w, r.isLive w = true → r.leader.isSome

lemma Addressed.pending_eq_none (h : Addressed r) (hleader : r.leader = none) :
    r.pending = none := by
  cases hp : r.pending with
  | none => rfl
  | some x =>
    have hx := (h.pending x hp).1
    rw [hleader] at hx
    cases hx

lemma Addressed.mono (h : Addressed r) (hleader : r'.leader = r.leader)
    (hpending : r'.pending = r.pending)
    (hgrows : ∀ w, (r.participants.lookup w).isSome → (r'.participants.lookup w).isSome) :
    Addressed r' := by
  constructor
  · intro w hw
    exact hgrows w (h.leader w (hleader ▸ hw))
  · intro x hx
    obtain ⟨hl, ht, hne⟩ := h.pending x (hpending ▸ hx)
    exact ⟨hleader ▸ hl, hgrows _ ht, hne⟩

lemma isSome_lookup_insert {m : Map WindowId Participant} (h : (m.lookup k).isSome) :
    ((m.insert w p).lookup k).isSome := by
  by_cases hk : k = w
  · rw [hk, AList.lookup_insert]
    rfl
  · rw [AList.lookup_insert_ne hk]
    exact h

lemma addressed_electLeader (h : r.pending = none) : Addressed r.electLeader := by
  constructor
  · intro w hw
    obtain ⟨p, hp, -⟩ := bestOwner_eq_some hw
    exact Option.isSome_iff_exists.2 ⟨p, hp⟩
  · intro x hx
    have hx : r.pending = some x := hx
    rw [h] at hx
    cases hx

lemma led_electLeader : Led r.electLeader := by
  intro w hw
  obtain ⟨p, hp, hlive⟩ := isLive_iff.1 hw
  exact bestOwner_isSome hp hlive

def entered (r : Registry) (w : WindowId) (isLocal : Bool) : Registry :=
  { r with
    nextSeq := r.nextSeq + 1
    participants := r.participants.insert w ⟨isLocal, 1, r.nextSeq, .live, none⟩ }

lemma join_new (h : r.participants.lookup w = none) :
    (r.join w isLocal).1 =
      if r.leader = none ∨ (isLocal && !(r.entered w isLocal).ownerIsLocal) = true then
        (r.entered w isLocal).electLeader
      else r.entered w isLocal := by
  rw [join, h]
  rfl

lemma join_back (h : r.participants.lookup w = some p) :
    ∃ q : Participant, 0 < q.sockets ∧
      (r.join w isLocal).1 = { r with participants := r.participants.insert w q } := by
  rw [join, h]
  exact ⟨_, Nat.succ_pos _, rfl⟩

lemma Addressed.ownerIsLocal_entered (h : Addressed r)
    (hnew : r.participants.lookup w = none) :
    (r.entered w isLocal).ownerIsLocal = r.ownerIsLocal := by
  rw [ownerIsLocal, ownerIsLocal]
  have hleader : (r.entered w isLocal).leader = r.leader := rfl
  rw [hleader]
  cases hl : r.leader with
  | none => rfl
  | some l =>
    have hne : l ≠ w := by
      intro heq
      have hsome := h.leader l hl
      rw [heq, hnew] at hsome
      cases hsome
    rw [Option.any_some, Option.any_some, entered, AList.lookup_insert_ne hne]

lemma Addressed.join (h : Addressed r) (hreclaims : ¬r.Reclaims (.join w isLocal)) :
    Addressed (r.join w isLocal).1 := by
  cases hw : r.participants.lookup w with
  | some p =>
    obtain ⟨q, -, hjoin⟩ := join_back hw
    rw [hjoin]
    exact h.mono rfl rfl fun _ => isSome_lookup_insert
  | none =>
    rw [join_new hw]
    split
    case isFalse => exact h.mono rfl rfl fun _ => isSome_lookup_insert
    case isTrue helect =>
      apply addressed_electLeader
      rw [h.ownerIsLocal_entered hw, Bool.and_eq_true, Bool.not_eq_true'] at helect
      change r.pending = none
      by_contra hpending
      obtain ⟨x, hx⟩ := Option.ne_none_iff_exists'.1 hpending
      have hleader := (h.pending x hx).1
      rcases helect with hnone | ⟨hlocal, howner⟩
      · exact hpending (h.pending_eq_none hnone)
      · apply hreclaims
        exact ⟨hw, hlocal, by rw [hleader]; rfl, howner, by rw [hx]; rfl⟩

lemma led_join (hstrands : ¬r.Strands (.join w isLocal)) :
    Led (r.join w isLocal).1 := by
  cases hw : r.participants.lookup w with
  | some p =>
    obtain ⟨q, -, hjoin⟩ := join_back hw
    rw [hjoin]
    intro k _
    apply Option.isSome_iff_ne_none.2
    intro hnone
    exact hstrands ⟨by rw [hw]; rfl, hnone⟩
  | none =>
    rw [join_new hw]
    split
    case isTrue => exact led_electLeader
    case isFalse helect =>
      rw [not_or] at helect
      intro k _
      exact Option.isSome_iff_ne_none.2 helect.1

lemma socketDropped_eq :
    (r.socketDropped w time).1 = r ∨ ∃ p q : Participant, r.participants.lookup w = some p ∧
      q.sockets = p.sockets - 1 ∧
      (r.socketDropped w time).1 = { r with participants := r.participants.insert w q } := by
  rw [socketDropped]
  cases hw : r.participants.lookup w with
  | none => exact .inl rfl
  | some p =>
    apply Or.inr
    refine ⟨p, _, rfl, ?_, rfl⟩
    split <;> rfl

lemma Addressed.socketDropped (h : Addressed r) (w : WindowId) (time : Nat) :
    Addressed (r.socketDropped w time).1 := by
  rcases socketDropped_eq with heq | ⟨p, q, -, -, heq⟩
  · rw [heq]
    exact h
  · rw [heq]
    exact h.mono rfl rfl fun _ => isSome_lookup_insert

lemma Led.socketDropped (h : Led r) (w : WindowId) (time : Nat) :
    Led (r.socketDropped w time).1 := by
  rcases socketDropped_eq with heq | ⟨p, q, hp, hq, heq⟩
  · rw [heq]
    exact h
  · rw [heq]
    intro k hk
    obtain ⟨x, hx, hlive⟩ := isLive_iff.1 hk
    rcases lookup_insert_eq_some hx with ⟨rfl, rfl⟩ | ⟨-, hold⟩
    · exact h k (isLive_iff.2 ⟨p, hp, by omega⟩)
    · exact h k (isLive_iff.2 ⟨x, hold, hlive⟩)

lemma removeGone_leader (r : Registry) (lost : Bool) (w : WindowId) :
    (removeGone (r, lost) w).1.leader = r.leader.filter fun l => decide (l ≠ w) := by
  rw [removeGone]
  cases hl : r.leader with
  | none => rfl
  | some l => by_cases hw : l = w <;> simp [Option.filter_some, hw]

lemma removeGone_pending (r : Registry) (lost : Bool) (w : WindowId) :
    (removeGone (r, lost) w).1.pending =
      r.pending.filter fun h => decide (h.leader ≠ w ∧ h.target ≠ w) := by
  rw [removeGone]
  cases hp : r.pending with
  | none => rfl
  | some h =>
    by_cases hleader : h.leader = w <;> by_cases htarget : h.target = w <;>
      simp [Option.filter_some, hleader, htarget]

lemma foldl_removeGone (ws : List WindowId) (r : Registry) (lost : Bool) :
    (∀ w, (ws.foldl removeGone (r, lost)).1.participants.lookup w =
      if w ∈ ws then none else r.participants.lookup w) ∧
    (ws.foldl removeGone (r, lost)).1.leader = r.leader.filter (fun w => decide (w ∉ ws)) ∧
    (ws.foldl removeGone (r, lost)).1.pending =
      r.pending.filter (fun h => decide (h.leader ∉ ws ∧ h.target ∉ ws)) ∧
    (ws.foldl removeGone (r, lost)).2 = (lost || r.leader.any fun w => decide (w ∈ ws)) := by
  induction ws generalizing r lost with
  | nil =>
    obtain ⟨ps, leader, seq, pending⟩ := r
    cases leader <;> cases pending <;> simp [Option.filter_some]
  | cons w ws ih =>
    obtain ⟨hparticipants, hleader, hpending, hlost⟩ :=
      ih (removeGone (r, lost) w).1 (removeGone (r, lost) w).2
    rw [removeGone_leader] at hleader hlost
    rw [removeGone_pending] at hpending
    rw [foldl_cons]
    refine ⟨?_, ?_, ?_, ?_⟩
    · intro k
      rw [hparticipants k]
      exact ite_mem_lookup_erase r.participants w ws k
    · rw [hleader, Option.filter_filter]
      congr 1
      simp
    · rw [hpending, Option.filter_filter]
      congr 1
      funext h
      rw [← Bool.decide_and]
      congr 1
      apply propext
      simp only [mem_cons, not_or]
      constructor
      · intro hall
        exact ⟨⟨hall.1.1, hall.2.1⟩, hall.1.2, hall.2.2⟩
      · intro hall
        exact ⟨⟨hall.1.1, hall.2.1⟩, hall.1.2, hall.2.2⟩
    · rw [hlost, removeGone]
      cases hl : r.leader with
      | none => simp
      | some l => by_cases hw : l = w <;> simp [Option.filter_some, hw]

def goneAt (r : Registry) (now : Nat) : List WindowId :=
  keysWhere (fun _ p => decide (p.sockets = 0) && p.computedState now == .gone) r.participants

lemma not_live_of_goneAt (h : w ∈ r.goneAt now) : r.isLive w = false := by
  obtain ⟨p, hp, hgone⟩ := mem_keysWhere.1 h
  rw [Bool.and_eq_true, decide_eq_true_eq] at hgone
  rw [isLive, hp, Option.any_some, hgone.1]
  rfl

lemma reapDue_eq : (∀ w, (r.reapDue now).1.participants.lookup w =
      if w ∈ r.goneAt now then none
      else (r.participants.lookup w).map fun p => p.steppedAt now) ∧
    (r.reapDue now).1.pending =
      r.pending.filter (fun h => decide (h.leader ∉ r.goneAt now ∧ h.target ∉ r.goneAt now)) ∧
    (r.reapDue now).1.leader =
      if (r.leader.any fun w => decide (w ∈ r.goneAt now)) = true then
        bestOwner (r.reapDue now).1.participants
      else r.leader := by
  obtain ⟨hparticipants, hleader, hpending, hlost⟩ := foldl_removeGone (r.goneAt now)
    { r with participants := mapWithKey (fun _ p => p.steppedAt now) r.participants } false
  rw [Bool.false_or] at hlost
  have hreap : (r.reapDue now).1 =
      if (r.leader.any fun w => decide (w ∈ r.goneAt now)) = true then
        ((r.goneAt now).foldl removeGone
          ({ r with participants := mapWithKey (fun _ p => p.steppedAt now) r.participants },
            false)).1.electLeader
      else ((r.goneAt now).foldl removeGone
          ({ r with participants := mapWithKey (fun _ p => p.steppedAt now) r.participants },
            false)).1 := by
    rw [← hlost]
    rfl
  rw [hreap]
  cases hany : r.leader.any fun w => decide (w ∈ r.goneAt now) with
  | true =>
    refine ⟨?_, hpending, rfl⟩
    intro w
    exact (hparticipants w).trans (by rw [lookup_mapWithKey])
  | false =>
    refine ⟨?_, hpending, ?_⟩
    · intro w
      exact (hparticipants w).trans (by rw [lookup_mapWithKey])
    · rw [if_neg Bool.false_ne_true, if_neg Bool.false_ne_true, hleader]
      cases hl : r.leader with
      | none => rfl
      | some l =>
        rw [hl, Option.any_some] at hany
        rw [Option.filter_some, if_pos (decide_eq_true (of_decide_eq_false hany))]

lemma Addressed.reapDue (h : Addressed r) (now : Nat) : Addressed (r.reapDue now).1 := by
  obtain ⟨hparticipants, hpending, hleader⟩ := reapDue_eq
  have hkept : ∀ w, (r.participants.lookup w).isSome → w ∉ r.goneAt now →
      ((r.reapDue now).1.participants.lookup w).isSome := by
    intro w hw hgone
    rw [hparticipants, if_neg hgone, Option.isSome_map]
    exact hw
  constructor
  · grind [h.leader, bestOwner_eq_some]
  · intro x hx
    rw [hpending, Option.filter_eq_some_iff, decide_eq_true_eq] at hx
    obtain ⟨hx, hleft, htarget⟩ := hx
    obtain ⟨hl, ht, hne⟩ := h.pending x hx
    refine ⟨?_, hkept _ ht htarget, hne⟩
    rw [hleader, hl, Option.any_some, decide_eq_false hleft, if_neg Bool.false_ne_true]

lemma Led.reapDue (h : Led r) (now : Nat) : Led (r.reapDue now).1 := by
  obtain ⟨hparticipants, -, hleader⟩ := reapDue_eq
  intro w hw
  obtain ⟨p, hp, hlive⟩ := isLive_iff.1 hw
  rw [hleader]
  split
  case isTrue => exact bestOwner_isSome hp hlive
  case isFalse =>
    rw [hparticipants] at hp
    split at hp
    case isTrue => cases hp
    case isFalse =>
      obtain ⟨q, hq, rfl⟩ := Option.map_eq_some_iff.1 hp
      apply h w
      apply isLive_iff.2
      refine ⟨q, hq, ?_⟩
      rw [Participant.steppedAt] at hlive
      split at hlive
      case isTrue hsockets => exact hsockets
      case isFalse => exact hlive

lemma reapDue_leader (hleader : r.leader = some l) (hlive : r.isLive l = true)
    (now : Nat) : (r.reapDue now).1.leader = some l := by
  have hgone : l ∉ r.goneAt now := by
    intro hgone
    rw [not_live_of_goneAt hgone] at hlive
    cases hlive
  rw [(reapDue_eq).2.2, hleader, Option.any_some, decide_eq_false hgone,
    if_neg Bool.false_ne_true]

lemma requestHandover_eq_ok (h : r.requestHandover id requester target = .ok (r', l)) :
    r.pending = none ∧ r.leader = some l ∧ l ≠ target.getD requester ∧
      (r.participants.lookup (target.getD requester)).isSome ∧
      r' = { r with pending := some ⟨id, requester, target.getD requester, l⟩ } := by
  rw [requestHandover] at h
  split at h
  case isTrue => cases h
  case isFalse hpending =>
    split at h
    case isTrue => cases h
    case isFalse =>
      dsimp only at h
      split at h
      case isTrue => cases h
      case isFalse htarget =>
        split at h
        case h_1 => cases h
        case h_2 leader hleader =>
          split at h
          case isTrue => cases h
          case isFalse hne =>
            split at h
            case isTrue =>
              cases h
              refine ⟨Option.not_isSome_iff_eq_none.1 hpending, hleader, hne, ?_, rfl⟩
              rw [Bool.not_eq_true, Option.isNone_eq_false_iff] at htarget
              exact htarget
            case isFalse => cases h

lemma Addressed.request (h : Addressed r) (id : RequestId) (requester : WindowId)
    (target : Option WindowId) : Addressed (r.apply (.request id requester target)) := by
  rw [apply]
  cases hr : r.requestHandover id requester target with
  | error e => exact h
  | ok out =>
    obtain ⟨r', l⟩ := out
    obtain ⟨-, hleader, hne, htarget, rfl⟩ := requestHandover_eq_ok hr
    refine ⟨h.leader, ?_⟩
    intro x hx
    cases hx
    exact ⟨hleader, htarget, hne.symm⟩

lemma resolveHandover_eq (r : Registry) (id : RequestId) (accept : Bool) :
    (r.resolveHandover id accept).1 = r ∨
      (∃ h, r.pending = some h ∧ h.requestId = id ∧ accept = true ∧
        (r.participants.lookup h.target).isSome ∧ (r.resolveHandover id accept).1 =
          { r with pending := none, leader := some h.target }) ∨
      (r.resolveHandover id accept).1 = { r with pending := none } := by
  rw [resolveHandover]
  cases hp : r.pending with
  | none => exact .inl rfl
  | some h =>
    grind

lemma Addressed.forget (h : Addressed r) : Addressed { r with pending := none } :=
  ⟨h.leader, nofun⟩

lemma Addressed.resolve (h : Addressed r) (id : RequestId) (accept : Bool) :
    Addressed (r.resolveHandover id accept).1 := by
  rcases resolveHandover_eq r id accept with heq | ⟨x, -, -, -, htarget, heq⟩ | heq
  · rw [heq]
    exact h
  · rw [heq]
    refine ⟨?_, nofun⟩
    intro w hw
    cases hw
    exact htarget
  · rw [heq]
    exact h.forget

lemma cancelHandover_eq (r : Registry) (id : RequestId) :
    r.cancelHandover id = r ∨ r.cancelHandover id = { r with pending := none } := by
  rw [cancelHandover]
  split
  · exact .inr rfl
  · exact .inl rfl

lemma takeover_eq_ok (h : r.takeover caller force = .ok (r', moved)) :
    (r' = r) ∨ ((r.participants.lookup caller).isSome ∧
      (force = true ∨ ∀ l, r.leader = some l → r.isLive l = false) ∧
      r' = { r with leader := some caller, pending := none }) := by
  rw [takeover] at h
  split at h
  case isTrue => cases h
  case isFalse hcaller =>
    split at h
    case isTrue =>
      cases h
      exact .inl rfl
    case isFalse =>
      split at h
      case isTrue => cases h
      case isFalse hlive =>
        cases h
        rw [Bool.not_eq_true, Option.isNone_eq_false_iff] at hcaller
        refine .inr ⟨hcaller, ?_, rfl⟩
        cases force with
        | true => exact .inl rfl
        | false =>
          apply Or.inr
          intro l hl
          rw [hl, Option.any_some, Bool.not_false, Bool.and_true, Bool.not_eq_true] at hlive
          exact hlive

lemma Addressed.takeover (h : Addressed r) (caller : WindowId) (force : Bool) :
    Addressed (r.apply (.takeover caller force)) := by
  rw [apply]
  cases hr : r.takeover caller force with
  | error e => exact h
  | ok out =>
    obtain ⟨r', moved⟩ := out
    rcases takeover_eq_ok hr with rfl | ⟨hcaller, -, rfl⟩
    · exact h
    · refine ⟨?_, nofun⟩
      intro w hw
      cases hw
      exact hcaller

lemma Addressed.apply (h : Addressed r) (hreclaims : ¬r.Reclaims e) :
    Addressed (r.apply e) := by
  cases e with
  | join w isLocal => exact h.join hreclaims
  | dropSocket w time => exact h.socketDropped w time
  | reap now => exact h.reapDue now
  | request id requester target => exact h.request id requester target
  | query w => exact h
  | resolve answering id accept => exact h.resolve id accept
  | cancel id =>
    rw [Registry.apply]
    rcases cancelHandover_eq r id with heq | heq
    · rw [heq]
      exact h
    · rw [heq]
      exact h.forget
  | takeover caller force => exact h.takeover caller force

lemma Led.of_participants (h : Led r) (hparticipants : r'.participants = r.participants)
    (hleader : r.leader.isSome → r'.leader.isSome) : Led r' := by
  intro w hw
  apply hleader
  apply h w
  rw [isLive] at hw ⊢
  rw [← hparticipants]
  exact hw

lemma Led.apply (h : Led r) (hstrands : ¬r.Strands e) : Led (r.apply e) := by
  cases e with
  | join w isLocal => exact led_join hstrands
  | dropSocket w time => exact h.socketDropped w time
  | reap now => exact h.reapDue now
  | request id requester target =>
    rw [Registry.apply]
    cases hr : r.requestHandover id requester target with
    | error e => exact h
    | ok out =>
      obtain ⟨r', l⟩ := out
      obtain ⟨-, -, -, -, rfl⟩ := requestHandover_eq_ok hr
      exact h.of_participants rfl fun hsome => hsome
  | query w => exact h
  | resolve answering id accept =>
    rw [Registry.apply]
    rcases resolveHandover_eq r id accept with heq | ⟨x, -, -, -, -, heq⟩ | heq
    · rw [heq]
      exact h
    · rw [heq]
      exact h.of_participants rfl fun _ => rfl
    · rw [heq]
      exact h.of_participants rfl fun hsome => hsome
  | cancel id =>
    rw [Registry.apply]
    rcases cancelHandover_eq r id with heq | heq
    · rw [heq]
      exact h
    · rw [heq]
      exact h.of_participants rfl fun hsome => hsome
  | takeover caller force =>
    rw [Registry.apply]
    cases hr : r.takeover caller force with
    | error e => exact h
    | ok out =>
      obtain ⟨r', moved⟩ := out
      rcases takeover_eq_ok hr with rfl | ⟨-, -, rfl⟩
      · exact h
      · exact h.of_participants rfl fun _ => rfl

lemma addressed_new : Addressed {} := ⟨nofun, nofun⟩

lemma led_new : Led {} := by
  intro w hw
  obtain ⟨p, hp, -⟩ := isLive_iff.1 hw
  cases hp

/-- Where no window comes back to an empty slot and no local one takes the slot from under a parked
handover, the slot names a participant, a live window has a leader, and a parked handover asks the
current leader for another participant. -/
theorem live_session_has_leader (es : List Event) (r : Registry)
    (hcalm : Along (fun r e => some (apply r e)) (fun r e => ¬r.Strands e ∧ ¬r.Reclaims e) {} es)
    (hrun : exec (fun r e => some (apply r e)) {} es = some r) :
    (∀ w, r.leader = some w → (r.participants.lookup w).isSome) ∧
      (∀ w, r.isLive w = true → r.leader.isSome) ∧
      ∀ h, r.pending = some h → r.leader = some h.leader ∧
        (r.participants.lookup h.target).isSome ∧ h.target ≠ h.leader := by
  have hinv : Addressed r ∧ Led r := by
    apply hcalm.invariant (I := fun r => Addressed r ∧ Led r) _ ⟨addressed_new, led_new⟩ hrun
    intro r e r' h hcond hstep
    cases hstep
    exact ⟨h.1.apply hcond.2, h.2.apply hcond.1⟩
  exact ⟨hinv.1.leader, hinv.2, hinv.1.pending⟩

theorem live_session_has_leader_reload : ∃ r, exec (fun r e => some (apply r e)) {}
        [.join ['a'] true, .join ['b'] false, .dropSocket ['a'] 0, .reap 6000, .join ['a'] true] =
          some r ∧ r.leader = some ['a'] ∧ (∀ w, r.isLive w = true → r.leader.isSome) := by
  refine ⟨_, rfl, by decide +kernel, ?_⟩
  exact (live_session_has_leader
    [.join ['a'] true, .join ['b'] false, .dropSocket ['a'] 0, .reap 6000, .join ['a'] true] _
    (by decide +kernel) rfl).2.1

/-- Both windows lose their socket, the leader is reaped first and the other one comes back: it
leads nobody, and nobody leads it. A local window that takes the slot leaves a handover to its
remote holder parked. -/
theorem returning_window_has_no_leader : (∃ r, exec (fun r e => some (apply r e)) {}
        [.join ['a'] true, .join ['b'] true, .dropSocket ['a'] 0, .dropSocket ['b'] 1000,
          .reap 30000, .join ['b'] true] = some r ∧
        r.isLive ['b'] = true ∧ r.leader = none) ∧
    (∃ r h, exec (fun r e => some (apply r e)) {}
        [.join ['a'] false, .join ['b'] false, .request ['q'] ['b'] none, .join ['c'] true] =
          some r ∧ r.pending = some h ∧ r.leader = some ['c'] ∧ h.leader = ['a']) := by
  constructor
  · exact ⟨_, rfl, by decide +kernel, by decide +kernel⟩
  · exact ⟨_, ⟨['q'], ['b'], ['b'], ['a']⟩, rfl, by decide +kernel, by decide +kernel, rfl⟩

lemma pending_apply (h : (r.apply e).pending = some x) :
    r.pending = some x ∨ ∃ id requester target r', e = .request id requester target ∧
      r.requestHandover id requester target = .ok (r', x.leader) ∧ x.requestId = id := by
  cases e with
  | join w isLocal =>
    apply Or.inl
    rw [apply] at h
    cases hw : r.participants.lookup w with
    | some p =>
      obtain ⟨q, -, hjoin⟩ := join_back hw
      rw [hjoin] at h
      exact h
    | none =>
      rw [join_new hw] at h
      split at h <;> exact h
  | dropSocket w time =>
    apply Or.inl
    rw [apply] at h
    rcases socketDropped_eq with heq | ⟨p, q, -, -, heq⟩
    · rw [heq] at h
      exact h
    · rw [heq] at h
      exact h
  | reap now =>
    apply Or.inl
    rw [apply, (reapDue_eq).2.1, Option.filter_eq_some_iff] at h
    exact h.1
  | request id requester target =>
    rw [apply] at h
    cases hr : r.requestHandover id requester target with
    | error e =>
      rw [hr] at h
      exact .inl h
    | ok out =>
      obtain ⟨r', l⟩ := out
      rw [hr] at h
      obtain ⟨-, -, -, -, rfl⟩ := requestHandover_eq_ok hr
      cases h
      exact .inr ⟨id, requester, target, _, rfl, hr, rfl⟩
  | query w => exact .inl h
  | resolve answering id accept =>
    apply Or.inl
    rw [apply] at h
    rcases resolveHandover_eq r id accept with heq | ⟨y, -, -, -, -, heq⟩ | heq
    · rw [heq] at h
      exact h
    · rw [heq] at h
      cases h
    · rw [heq] at h
      cases h
  | cancel id =>
    apply Or.inl
    rw [apply] at h
    rcases cancelHandover_eq r id with heq | heq
    · rw [heq] at h
      exact h
    · rw [heq] at h
      cases h
  | takeover caller force =>
    apply Or.inl
    rw [apply] at h
    cases hr : r.takeover caller force with
    | error e =>
      rw [hr] at h
      exact h
    | ok out =>
      obtain ⟨r', moved⟩ := out
      rw [hr] at h
      rcases takeover_eq_ok hr with rfl | ⟨-, -, rfl⟩
      · exact h
      · cases h

end Registry

structure Session where
  registry : Registry := {}
  asked : List (RequestId × WindowId) := []

namespace Session
open Registry

instance : LawfulBEq (RequestId × WindowId) := inferInstance

def allowed (s : Session) : Event → Bool
  | .request id _ _ => decide (id ∉ s.asked.map Prod.fst)
  | .resolve answering id _ => decide ((id, answering) ∈ s.asked)
  | _ => true

def prompted (s : Session) : Event → List (RequestId × WindowId)
  | .request id requester target =>
    match s.registry.requestHandover id requester target with
    | .ok (_, leader) => [(id, leader)]
    | .error _ => []
  | .query w =>
    match s.registry.pendingForLeader w with
    | some h => [(h.requestId, w)]
    | none => []
  | _ => []

def step (s : Session) (e : Event) : Option Session :=
  if s.allowed e then some ⟨s.registry.apply e, s.asked ++ s.prompted e⟩ else none

structure Prompted (s : Session) : Prop where
  addressed : Addressed s.registry
  recorded : ∀ h, s.registry.pending = some h → (h.requestId, h.leader) ∈ s.asked
  once : ∀ id w w', (id, w) ∈ s.asked → (id, w') ∈ s.asked → w = w'

lemma step_eq_some (h : step s e = some s') :
    s.allowed e = true ∧ s' = ⟨s.registry.apply e, s.asked ++ s.prompted e⟩ := by
  obtain ⟨hallowed, heq⟩ := Option.ite_none_right_eq_some.1 h
  cases heq
  exact ⟨hallowed, rfl⟩

lemma Prompted.of_prompted (h : Prompted s) (hallowed : s.allowed e = true)
    (hmem : (id, w) ∈ s.prompted e) :
    (id, w) ∈ s.asked ∨ s.prompted e = [(id, w)] ∧ id ∉ s.asked.map Prod.fst := by
  cases e with
  | request id' requester target =>
    rw [prompted] at hmem ⊢
    cases hr : s.registry.requestHandover id' requester target with
    | error e => rw [hr] at hmem; cases hmem
    | ok out =>
      rw [hr] at hmem
      cases List.mem_singleton.1 hmem
      exact .inr ⟨rfl, of_decide_eq_true hallowed⟩
  | query w' =>
    rw [prompted] at hmem
    cases hq : s.registry.pendingForLeader w' with
    | none => rw [hq] at hmem; cases hmem
    | some x =>
      rw [hq] at hmem
      cases List.mem_singleton.1 hmem
      rw [pendingForLeader, Option.filter_eq_some_iff, beq_iff_eq] at hq
      apply Or.inl
      rw [← hq.2]
      exact h.recorded x hq.1
  | join => cases hmem
  | dropSocket => cases hmem
  | reap => cases hmem
  | resolve => cases hmem
  | cancel => cases hmem
  | takeover => cases hmem

lemma Prompted.step (h : Prompted s) (hreclaims : ¬s.registry.Reclaims e)
    (hstep : s.step e = some s') : Prompted s' := by
  obtain ⟨hallowed, rfl⟩ := step_eq_some hstep
  refine ⟨h.addressed.apply hreclaims, ?_, ?_⟩
  · intro x hx
    rcases pending_apply hx with hold | ⟨id, requester, target, r', rfl, hr, rfl⟩
    · exact mem_append_left _ (h.recorded x hold)
    · apply mem_append_right
      rw [prompted, hr]
      exact mem_singleton_self _
  · intro id w w' hw hw'
    have hold : ∀ u, (id, u) ∈ s.asked ++ s.prompted e →
        (id, u) ∈ s.asked ∨ s.prompted e = [(id, u)] ∧ id ∉ s.asked.map Prod.fst := by
      intro u hu
      rcases List.mem_append.1 hu with hu | hu
      · exact .inl hu
      · exact h.of_prompted hallowed hu
    rcases hold w hw with hw | ⟨hw, hfresh⟩
    · rcases hold w' hw' with hw' | ⟨-, hfresh⟩
      · exact h.once id w w' hw hw'
      · exact absurd (mem_map_of_mem hw) hfresh
    · rcases hold w' hw' with hw' | ⟨hw', -⟩
      · exact absurd (mem_map_of_mem hw') hfresh
      · rw [hw] at hw'
        cases hw'
        rfl

/-- What moves a live leader: their consent, force, or a new local window. -/
def Cause (s : Session) (l : WindowId) (e : Event) : Prop :=
  (∃ id, e = .resolve l id true) ∨ (∃ w, e = .takeover w true) ∨
    ∃ w p, e = .join w true ∧ s.registry.participants.lookup w = none ∧
      s.registry.participants.lookup l = some p ∧ p.isLocal = false

lemma Prompted.cause_of_join (h : Prompted s) (hreclaims : ¬s.registry.Reclaims (.join w isLocal))
    (hleader : s.registry.leader = some l)
    (hlost : (s.registry.join w isLocal).1.leader ≠ some l) :
    s.Cause l (.join w isLocal) ∧ (s.registry.join w isLocal).1.pending = none := by
  cases hw : s.registry.participants.lookup w with
  | some p =>
    obtain ⟨q, -, hjoin⟩ := join_back hw
    rw [hjoin] at hlost
    exact absurd hleader hlost
  | none =>
    rw [join_new hw] at hlost ⊢
    split at hlost
    case isFalse => exact absurd hleader hlost
    case isTrue helect =>
      rw [if_pos helect]
      rw [h.addressed.ownerIsLocal_entered hw, hleader, Bool.and_eq_true, Bool.not_eq_true']
        at helect
      obtain ⟨rfl, howner⟩ := helect.resolve_left nofun
      obtain ⟨p, hp⟩ := Option.isSome_iff_exists.1 (h.addressed.leader l hleader)
      constructor
      · refine .inr (.inr ⟨w, p, rfl, hw, hp, ?_⟩)
        rw [ownerIsLocal, hleader, Option.any_some, hp, Option.any_some] at howner
        exact howner
      · change s.registry.pending = none
        by_contra hpending
        apply hreclaims
        exact ⟨hw, rfl, by rw [hleader]; rfl, howner, Option.isSome_iff_ne_none.2 hpending⟩

lemma Prompted.cause (h : Prompted s) (hreclaims : ¬s.registry.Reclaims e)
    (hallowed : s.allowed e = true) (hleader : s.registry.leader = some l)
    (hlive : s.registry.isLive l = true) (hlost : (s.registry.apply e).leader ≠ some l) :
    s.Cause l e ∧ (s.registry.apply e).pending = none := by
  cases e with
  | join w isLocal => exact h.cause_of_join hreclaims hleader hlost
  | dropSocket w time =>
    grind [Registry.apply, socketDropped_eq]
  | reap now => exact absurd (reapDue_leader hleader hlive now) hlost
  | request id requester target =>
    rw [Registry.apply] at hlost
    cases hr : s.registry.requestHandover id requester target with
    | error e =>
      rw [hr] at hlost
      exact absurd hleader hlost
    | ok out =>
      obtain ⟨r', l'⟩ := out
      rw [hr] at hlost
      obtain ⟨-, -, -, -, rfl⟩ := requestHandover_eq_ok hr
      exact absurd hleader hlost
  | query w => exact absurd hleader hlost
  | resolve answering id accept =>
    rw [Registry.apply] at hlost ⊢
    rcases resolveHandover_eq s.registry id accept with heq | ⟨x, hx, hid, rfl, -, heq⟩ | heq
    · rw [heq] at hlost
      exact absurd hleader hlost
    · rw [heq]
      have hasked := h.recorded x hx
      rw [hid] at hasked
      have hanswering := h.once id _ _ (of_decide_eq_true hallowed) hasked
      have hnamed := (h.addressed.pending x hx).1
      rw [hleader, Option.some.injEq] at hnamed
      refine ⟨.inl ⟨id, ?_⟩, rfl⟩
      rw [hanswering, hnamed]
    · rw [heq] at hlost
      exact absurd hleader hlost
  | cancel id =>
    rw [Registry.apply] at hlost
    rcases cancelHandover_eq s.registry id with heq | heq
    · rw [heq] at hlost
      exact absurd hleader hlost
    · rw [heq] at hlost
      exact absurd hleader hlost
  | takeover caller force =>
    rw [Registry.apply] at hlost ⊢
    cases hr : s.registry.takeover caller force with
    | error e =>
      rw [hr] at hlost
      exact absurd hleader hlost
    | ok out =>
      obtain ⟨r', moved⟩ := out
      rw [hr] at hlost
      rcases takeover_eq_ok hr with rfl | ⟨-, rfl | hdead, rfl⟩
      · exact absurd hleader hlost
      · exact ⟨.inr (.inl ⟨caller, rfl⟩), rfl⟩
      · rw [hdead l hleader] at hlive
        cases hlive

/-- The requests were asked before, and none of them is parked. -/
def Spent (ids : List RequestId) (s : Session) : Prop :=
  (∀ id ∈ ids, id ∈ s.asked.map Prod.fst) ∧ ∀ h, s.registry.pending = some h → h.requestId ∉ ids

lemma Spent.step (h : Spent ids s) (hstep : s.step e = some s') : Spent ids s' := by
  obtain ⟨hallowed, rfl⟩ := step_eq_some hstep
  constructor
  · intro id hid
    rw [map_append]
    exact mem_append_left _ (h.1 id hid)
  · intro x hx hid
    rcases pending_apply hx with hold | ⟨id, requester, target, r', rfl, -, rfl⟩
    · exact h.2 x hold hid
    · exact of_decide_eq_true hallowed (h.1 _ hid)

lemma Spent.resolve_leader (h : Spent ids s) (hid : id ∈ ids) (accept : Bool) :
    (s.registry.resolveHandover id accept).1.leader = s.registry.leader := by
  rcases resolveHandover_eq s.registry id accept with heq | ⟨x, hx, rfl, -⟩ | heq
  · rw [heq]
  · exact absurd hid (h.2 x hx)
  · rw [heq]

/-- Where no local window takes the slot from under a parked handover, a live leader is moved by
their own consent, by force or for a new local window, and no request parked before can move the
slot again. -/
theorem live_leader_moves (es : List Event) (e : Event) (s s' : Session) (l : WindowId)
    (hcalm : Along step (fun s e => ¬s.registry.Reclaims e) {} (es ++ [e]))
    (hrun : exec step {} es = some s) (hstep : s.step e = some s')
    (hleader : s.registry.leader = some l) (hlive : s.registry.isLive l = true)
    (hlost : s'.registry.leader ≠ some l) :
    s.Cause l e ∧ ∀ later t, exec step s' later = some t → ∀ id ∈ s.asked.map Prod.fst,
      ∀ accept, (t.registry.resolveHandover id accept).1.leader = t.registry.leader := by
  have hprompted : Prompted s := by
    apply hcalm.append_left.invariant _ ⟨addressed_new, nofun, nofun⟩ hrun
    intro s e s' h hreclaims hstep
    exact h.step hreclaims hstep
  have hreclaims : ¬s.registry.Reclaims e := (hcalm.append_right hrun).1
  obtain ⟨hallowed, rfl⟩ := step_eq_some hstep
  obtain ⟨hcause, hpending⟩ := hprompted.cause hreclaims hallowed hleader hlive hlost
  apply And.intro hcause
  intro later t hlater id hid accept
  have hspent : Spent (s.asked.map Prod.fst) t := by
    apply exec_invariant (fun _ _ _ h hs => h.step hs) _ hlater
    constructor
    · intro id hid
      rw [map_append]
      exact mem_append_left _ hid
    · intro x hx
      rw [hpending] at hx
      cases hx
  exact hspent.resolve_leader hid accept

def handedOver : List Event :=
  [.join ['a'] false, .join ['b'] false, .request ['q'] ['b'] none, .query ['a']]

theorem live_leader_moves_consent :
    ∃ s s', exec step {} handedOver = some s ∧ s.step (.resolve ['a'] ['q'] true) = some s' ∧
      s'.registry.leader = some ['b'] ∧ s.Cause ['a'] (.resolve ['a'] ['q'] true) := by
  refine ⟨_, _, rfl, rfl, by decide +kernel, ?_⟩
  exact (live_leader_moves handedOver (.resolve ['a'] ['q'] true) _ _ ['a'] (by decide +kernel)
    rfl rfl (by decide +kernel) (by decide +kernel) (by decide +kernel)).1

/-- A local window takes the slot from the remote leader, who then accepts the handover that was put
to them: the live local leader is moved by somebody else's answer. -/
theorem stale_handover_moves_leader :
    ∃ s s', exec step {} (handedOver ++ [.join ['c'] true]) = some s ∧
      s.registry.leader = some ['c'] ∧ s.registry.isLive ['c'] = true ∧
      s.step (.resolve ['a'] ['q'] true) = some s' ∧ s'.registry.leader = some ['b'] ∧
      ¬s.Cause ['c'] (.resolve ['a'] ['q'] true) := by
  refine ⟨_, _, rfl, by decide +kernel, by decide +kernel, rfl, by decide +kernel, ?_⟩
  rintro (⟨id, hid⟩ | ⟨w, hw⟩ | ⟨w, p, hw, -⟩)
  · cases hid
  · cases hw
  · cases hw

end Session
end Chan.Presence
