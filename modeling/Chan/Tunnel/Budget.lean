import Chan.Lib.Transition

namespace Chan.Tunnel
open Transition

def tunnelYamuxMaxStreams : Nat := 256

def peerStreamHeadroom : Nat := 16

def maxTunnelSubstreams : Nat := (tunnelYamuxMaxStreams - peerStreamHeadroom) / 2

def openRequests : Nat := 64

inductive Phase where
  | resting
  | draining
  | opening
  | reaping
  | shutdown
  deriving DecidableEq

/-- A caller of `open` is known by the number of its call. It holds its permit while it sends, while
it waits for the reply and while it has its stream. -/
structure Substreams where
  calls : Nat := 0
  sending : List Nat := []
  waiting : List Nat := []
  streams : List Nat := []
  channel : List Nat := []
  pending : List Nat := []
  dropped : Nat := 0
  peer : Nat := 0
  phase : Phase := .resting
  deriving DecidableEq

namespace Substreams

def permits (t : Substreams) : Nat := t.sending.length + t.waiting.length + t.streams.length

/-- The streams yamux counts: a dropped one until it is reaped. -/
def mapped (t : Substreams) : Nat := t.streams.length + t.dropped + t.peer

/-- The next open asks yamux for a stream past its cap. -/
def Exhausts (t : Substreams) : Prop :=
  t.phase = .opening ∧ t.pending ≠ [] ∧ tunnelYamuxMaxStreams ≤ t.mapped

instance (t : Substreams) : Decidable t.Exhausts := by
  unfold Exhausts
  infer_instance

inductive Move where
  | acquire
  | send (call : Nat)
  | cancel (call : Nat)
  | drop (call : Nat)
  | peer (streams : Nat)
  | wake
  | receive
  | drained
  | openNext
  | served
  | reap
  deriving DecidableEq

def deliver (t : Substreams) (call : Nat) : Substreams :=
  if call ∈ t.waiting then
    { t with waiting := t.waiting.erase call, streams := call :: t.streams }
  else { t with dropped := t.dropped + 1 }

def step (t : Substreams) : Move → Option Substreams
  | .acquire =>
    if t.permits < maxTunnelSubstreams then
      some { t with calls := t.calls + 1, sending := t.calls :: t.sending }
    else none
  | .send call =>
    if call ∈ t.sending ∧ t.channel.length < openRequests then
      some { t with
        sending := t.sending.erase call
        waiting := call :: t.waiting
        channel := t.channel ++ [call] }
    else none
  | .cancel call =>
    -- a request that was sent stays behind its caller
    if call ∈ t.sending then some { t with sending := t.sending.erase call }
    else if call ∈ t.waiting then some { t with waiting := t.waiting.erase call }
    else none
  | .drop call =>
    if call ∈ t.streams then
      some { t with streams := t.streams.erase call, dropped := t.dropped + 1 }
    else none
  | .peer streams => if streams ≤ peerStreamHeadroom then some { t with peer := streams } else none
  | .wake => if t.phase = .resting then some { t with phase := .draining } else none
  | .receive =>
    match t.phase, t.channel with
    | .draining, call :: rest => some { t with channel := rest, pending := t.pending ++ [call] }
    | _, _ => none
  | .drained => if t.phase = .draining then some { t with phase := .opening } else none
  | .openNext =>
    match t.phase, t.pending with
    | .opening, call :: rest =>
      if tunnelYamuxMaxStreams ≤ t.mapped then some { t with phase := .shutdown }
      else some (deliver { t with pending := rest } call)
    | _, _ => none
  | .served => if t.phase = .opening then some { t with phase := .reaping } else none
  | .reap =>
    if t.phase = .reaping then some { t with phase := .resting, dropped := 0 } else none

/-- The driver takes a request over only while its queue is shorter than the budget. -/
def Paced (t : Substreams) : Move → Prop
  | .receive => t.pending.length < maxTunnelSubstreams
  | _ => True

instance (t : Substreams) (m : Move) : Decidable (t.Paced m) := by
  cases m <;> unfold Paced <;> infer_instance

/-- The streams that were alive at the last reap and those opened since. -/
structure Bounded (t : Substreams) : Prop where
  permits : t.permits ≤ maxTunnelSubstreams
  peer : t.peer ≤ peerStreamHeadroom
  pending : t.pending.length ≤ maxTunnelSubstreams
  before : t.phase = .resting ∨ t.phase = .draining →
    t.streams.length + t.dropped ≤ maxTunnelSubstreams
  opening : t.phase = .opening →
    t.streams.length + t.dropped + t.pending.length ≤ 2 * maxTunnelSubstreams
  alive : t.phase ≠ .shutdown

lemma bounded_new : Bounded {} := by
  refine ⟨?_, ?_, ?_, fun _ => ?_, nofun, nofun⟩ <;> decide

lemma Bounded.not_exhausts (h : Bounded t) : ¬t.Exhausts := by
  rintro ⟨hphase, hpending, hfull⟩
  have hopening := h.opening hphase
  have hpeer := h.peer
  have hpos : 0 < t.pending.length := List.length_pos_iff.2 hpending
  have htwice : 2 * maxTunnelSubstreams + peerStreamHeadroom = tunnelYamuxMaxStreams := rfl
  rw [mapped] at hfull
  omega

lemma length_erase_add_one {l : List Nat} (h : a ∈ l) :
    (l.erase a).length + 1 = l.length := by
  rw [List.length_erase_of_mem h]
  have hpos := List.length_pos_of_mem h
  omega

lemma Bounded.deliver (h : Bounded t) (hphase : t.phase = .opening)
    (hpending : t.pending = call :: rest) : Bounded (deliver { t with pending := rest } call) := by
  have hopening := h.opening hphase
  have hlength := h.pending
  have hpermits := h.permits
  rw [hpending, List.length_cons] at hopening hlength
  rw [Substreams.permits] at hpermits
  unfold Substreams.deliver
  split
  case isTrue hmem =>
    have herase := length_erase_add_one hmem
    dsimp only at hmem herase
    refine ⟨?_, h.peer, by dsimp only; omega, ?_, fun _ => ?_, ?_⟩
    · rw [Substreams.permits, List.length_cons]
      dsimp only
      omega
    · rw [hphase]
      nofun
    · rw [List.length_cons]
      dsimp only
      omega
    · rw [hphase]
      nofun
  case isFalse =>
    refine ⟨h.permits, h.peer, by dsimp only; omega, ?_, fun _ => ?_, ?_⟩
    · rw [hphase]
      nofun
    · dsimp only
      omega
    · rw [hphase]
      nofun

lemma Bounded.step (h : Bounded t) (hpaced : t.Paced m) (hstep : t.step m = some u) :
    Bounded u := by
  have hpermits := h.permits
  rw [Substreams.permits] at hpermits
  cases m with
  | acquire =>
    obtain ⟨hroom, ⟨⟩⟩ := Option.ite_none_right_eq_some.1 hstep
    refine ⟨?_, h.peer, h.pending, h.before, h.opening, h.alive⟩
    rw [Substreams.permits] at hroom ⊢
    rw [List.length_cons]
    dsimp only
    omega
  | send call =>
    obtain ⟨⟨hmem, -⟩, ⟨⟩⟩ := Option.ite_none_right_eq_some.1 hstep
    have herase := length_erase_add_one hmem
    refine ⟨?_, h.peer, h.pending, h.before, h.opening, h.alive⟩
    rw [Substreams.permits, List.length_cons]
    dsimp only
    omega
  | cancel call =>
    rw [Substreams.step] at hstep
    split at hstep
    case isTrue hmem =>
      have herase := length_erase_add_one hmem
      cases hstep
      refine ⟨?_, h.peer, h.pending, h.before, h.opening, h.alive⟩
      rw [Substreams.permits]
      dsimp only
      omega
    case isFalse =>
      obtain ⟨hmem, ⟨⟩⟩ := Option.ite_none_right_eq_some.1 hstep
      have herase := length_erase_add_one hmem
      refine ⟨?_, h.peer, h.pending, h.before, h.opening, h.alive⟩
      rw [Substreams.permits]
      dsimp only
      omega
  | drop call =>
    obtain ⟨hmem, ⟨⟩⟩ := Option.ite_none_right_eq_some.1 hstep
    have herase := length_erase_add_one hmem
    refine ⟨?_, h.peer, h.pending, fun hphase => ?_, fun hphase => ?_, h.alive⟩
    · rw [Substreams.permits]
      dsimp only
      omega
    · have hbefore := h.before hphase
      dsimp only
      omega
    · have hopening := h.opening hphase
      dsimp only
      omega
  | peer streams =>
    obtain ⟨hpeer, ⟨⟩⟩ := Option.ite_none_right_eq_some.1 hstep
    exact ⟨h.permits, hpeer, h.pending, h.before, h.opening, h.alive⟩
  | wake =>
    obtain ⟨hphase, ⟨⟩⟩ := Option.ite_none_right_eq_some.1 hstep
    exact ⟨h.permits, h.peer, h.pending, fun _ => h.before (.inl hphase), nofun, nofun⟩
  | receive =>
    rw [Substreams.step] at hstep
    split at hstep
    case h_1 call rest hphase hchannel =>
      cases hstep
      refine ⟨h.permits, h.peer, ?_, h.before, ?_, h.alive⟩
      · rw [List.length_append]
        exact hpaced
      · rw [hphase]
        nofun
    case h_2 => cases hstep
  | drained =>
    obtain ⟨hphase, ⟨⟩⟩ := Option.ite_none_right_eq_some.1 hstep
    have hbefore := h.before (.inr hphase)
    have hpending := h.pending
    refine ⟨h.permits, h.peer, h.pending, nofun, fun _ => ?_, nofun⟩
    dsimp only
    omega
  | openNext =>
    have hroom := h.not_exhausts
    rw [Substreams.step] at hstep
    split at hstep
    case h_1 call rest hphase hpending =>
      rw [if_neg fun hfull => hroom ⟨hphase, by rw [hpending]; nofun, hfull⟩] at hstep
      cases hstep
      exact h.deliver hphase hpending
    case h_2 => cases hstep
  | served =>
    obtain ⟨hphase, ⟨⟩⟩ := Option.ite_none_right_eq_some.1 hstep
    exact ⟨h.permits, h.peer, h.pending, nofun, nofun, nofun⟩
  | reap =>
    obtain ⟨hphase, ⟨⟩⟩ := Option.ite_none_right_eq_some.1 hstep
    refine ⟨h.permits, h.peer, h.pending, fun _ => ?_, nofun, nofun⟩
    dsimp only
    omega

/-- While the driver's queue stays within the budget, it never asks yamux for a stream past the cap,
and no open tears the tunnel down. -/
theorem open_never_exhausts (ms : List Move) (t : Substreams)
    (hpaced : Along Substreams.step Paced {} ms) (hrun : exec Substreams.step {} ms = some t) :
    ¬t.Exhausts ∧ t.phase ≠ .shutdown := by
  have hbounded : Bounded t :=
    hpaced.invariant (fun _ _ _ h hp hs => h.step hp hs) bounded_new hrun
  exact ⟨hbounded.not_exhausts, hbounded.alive⟩

def served (call : Nat) : List Move :=
  [.acquire, .send call, .wake, .receive, .drained, .openNext, .served, .reap]

/-- The budget is used up and all of it dropped before the next reap, and then used up again. -/
def refilled : List Move :=
  (List.range 120).flatMap served ++ (List.range 120).map .drop ++ [.peer 16, .wake] ++
    (List.range 120).flatMap (fun i => [.acquire, .send (120 + i), .receive]) ++
    [.drained] ++ List.replicate 120 .openNext

theorem open_never_exhausts_refilled :
    ∃ t, exec Substreams.step {} refilled = some t ∧ t.mapped = tunnelYamuxMaxStreams ∧
      ¬t.Exhausts ∧ t.phase ≠ .shutdown := by
  have hrun : (exec Substreams.step {} refilled).any (fun t => t.mapped = tunnelYamuxMaxStreams) =
      true := by
    decide +kernel
  obtain ⟨t, ht, hmapped⟩ := (Option.any_eq_true _ _).1 hrun
  exact ⟨t, ht, of_decide_eq_true hmapped, open_never_exhausts _ t (by decide +kernel) ht⟩

/-- The budget is used up and all of it dropped before the next reap. In the next pass as many
callers send again, and one of them is cancelled for another: its request is still in the queue. -/
def overrun : List Move :=
  (List.range 120).flatMap served ++ (List.range 120).map .drop ++ [.peer 16, .wake] ++
    [.acquire, .send 120, .cancel 120, .receive] ++
    (List.range 120).flatMap (fun i => [.acquire, .send (121 + i), .receive]) ++
    [.drained] ++ List.replicate 120 .openNext

theorem cancelled_request_exhausts : ∃ t, exec Substreams.step {} overrun = some t ∧ t.Exhausts ∧
      (t.step .openNext).any (fun u => u.phase = .shutdown) = true := by
  have hrun : (exec Substreams.step {} overrun).any (fun t => decide (t.Exhausts ∧
      (t.step .openNext).any (fun u => u.phase = .shutdown) = true)) = true := by
    decide +kernel
  obtain ⟨t, ht, h⟩ := (Option.any_eq_true _ _).1 hrun
  obtain ⟨hexhausts, hshutdown⟩ := of_decide_eq_true h
  exact ⟨t, ht, hexhausts, hshutdown⟩

end Substreams
end Chan.Tunnel
