import Chan.Lib.UpdateLog
import Chan.Doc.Session

namespace Chan
open Utf AssocMap UpdateLog

structure FakeClient where
  doc : Text
  len16 : Nat
  version : Nat
  deriving DecidableEq

namespace FakeClient

/-- `resume` is the confirmed state of a reconnecting client. -/
def attach : Option (Nat × Text) → FakeClient
  | some (v, text) => ⟨text, utf16Len text, v⟩
  | none => ⟨[], 0, 0⟩

def receive (limit : Nat) (c : FakeClient) : ServerFrame → Option FakeClient
  | .snapshot _ version doc _ _ _ _ _ => some ⟨doc, utf16Len doc, version⟩
  | .updates version us =>
    if version = c.version then
      match applyAllWithLimit limit c.doc c.len16 us with
      | .ok a => some ⟨a.text, a.len16, c.version + us.length⟩
      | .error _ => none
    else none
  | _ => some c

def drain (limit : Nat) (c : FakeClient) (frames : List ServerFrame) : Option FakeClient :=
  frames.foldlM (receive limit) c

end FakeClient

def ServerFrame.view : ServerFrame → Frame Text Update
  | .snapshot _ version doc _ _ _ _ _ => .snapshot version doc
  | .updates version us => .updates version us
  | _ => .other

def applyUpdate (limit : Nat) (t : Text) (u : Update) : Option Text :=
  match applyWithLimit t (utf16Len t) u.changes limit with
  | .ok a => some a.text
  | .error _ => none

lemma applyUpdate_eq_some (h : applyUpdate l t u = some t') :
    applyWithLimit t (utf16Len t) u.changes l = .ok ⟨t', utf16Len t'⟩ ∧ utf8Len t' ≤ l := by
  rw [applyUpdate] at h
  cases ha : applyWithLimit t (utf16Len t) u.changes l with
  | error e => rw [ha] at h; cases h
  | ok a =>
    rw [ha] at h
    cases h
    obtain ⟨hlen, hle⟩ := applyWithLimit_eq_ok ha
    rw [← hlen]
    exact ⟨rfl, hle⟩

lemma applyUpdate_of_le (h : applyUpdate l t u = some t') (hm : utf8Len t' ≤ m) :
    applyUpdate m t u = some t' := by
  rw [applyUpdate, applyWithLimit_of_le (applyUpdate_eq_some h).1 hm]

lemma applyAllWithLimit_eq (l : Nat) (t : Text) (us : List Update) :
    (applyAllWithLimit l t (utf16Len t) us).toOption =
      (replay (applyUpdate l) t us).map fun t' => ⟨t', utf16Len t'⟩ := by
  induction us generalizing t with
  | nil => rfl
  | cons u us ih =>
    rw [applyAllWithLimit, replay_cons]
    cases ha : applyUpdate l t u with
    | some t' =>
      rw [(applyUpdate_eq_some ha).1]
      exact ih t'
    | none =>
      rw [applyUpdate] at ha
      cases hw : applyWithLimit t (utf16Len t) u.changes l with
      | error e => rfl
      | ok a => rw [hw] at ha; cases ha

lemma applyBatch_some (h : applyBatch l text n (some ⟨t, utf16Len t⟩) us = .ok (some a)) :
    replay (applyUpdate l) t us = some a.text ∧ a.len16 = utf16Len a.text := by
  induction us generalizing t with
  | nil =>
    simp only [applyBatch, Except.ok.injEq, Option.some.injEq] at h
    subst h
    exact ⟨rfl, rfl⟩
  | cons u us ih =>
    simp only [applyBatch] at h
    cases hw : applyWithLimit t (utf16Len t) u.changes l with
    | error e => rw [hw] at h; cases h
    | ok b =>
      simp only [hw] at h
      obtain ⟨hlen, -⟩ := applyWithLimit_eq_ok hw
      have hb : b = ⟨b.text, utf16Len b.text⟩ := by rw [← hlen]
      rw [hb] at h
      have hu : applyUpdate l t u = some b.text := by rw [applyUpdate, hw]
      rw [replay_cons, hu]
      exact ih h

lemma applyBatch_none (h : applyBatch l t (utf16Len t) none us = .ok (some a)) :
    us ≠ [] ∧ replay (applyUpdate l) t us = some a.text ∧ a.len16 = utf16Len a.text := by
  cases us with
  | nil => cases h
  | cons u us =>
    have hstart : applyBatch l t (utf16Len t) (some ⟨t, utf16Len t⟩) (u :: us) = .ok (some a) := h
    exact ⟨List.cons_ne_nil u us, applyBatch_some hstart⟩

lemma replay_of_points_le (h : replay (applyUpdate l) t us = some t')
    (hp : ∀ p ∈ points (applyUpdate l) v t us, utf8Len p.2 ≤ m) :
    replay (applyUpdate m) t us = some t' ∧
      points (applyUpdate m) v t us = points (applyUpdate l) v t us := by
  induction us generalizing t v with
  | nil => exact ⟨h, rfl⟩
  | cons u us ih =>
    rw [replay_cons] at h
    cases hu : applyUpdate l t u with
    | none => rw [hu] at h; cases h
    | some s =>
      rw [hu, Option.bind_some] at h
      simp only [points, hu, List.mem_cons] at hp
      have hm : applyUpdate m t u = some s := applyUpdate_of_le hu (hp _ (.inl rfl))
      obtain ⟨hr, hps⟩ := ih h fun p hmem => hp p (.inr hmem)
      rw [replay_cons, hm]
      simp only [points, hm, hu, hps]
      exact ⟨hr, trivial⟩

namespace FakeClient

def follower (c : FakeClient) : Follower Text := ⟨c.doc, c.version⟩

def Fits (c : FakeClient) : Prop := c.len16 = utf16Len c.doc

lemma attach_fits : (attach r).Fits := by
  cases r <;> rfl

lemma receive_eq (l : Nat) (f : Follower Text) (frame : ServerFrame) :
    receive l ⟨f.state, utf16Len f.state, f.version⟩ frame =
      (f.receive (applyUpdate l) frame.view).map fun g =>
      ⟨g.state, utf16Len g.state, g.version⟩ := by
  cases frame with
  | updates version us =>
    simp only [receive, ServerFrame.view, Follower.receive]
    split
    · have ha := applyAllWithLimit_eq l f.state us
      cases hr : applyAllWithLimit l f.state (utf16Len f.state) us with
      | error e =>
        rw [hr] at ha
        rw [Option.map_eq_none_iff.1 ha.symm]
        rfl
      | ok a =>
        rw [hr] at ha
        obtain ⟨t, ht, rfl⟩ := Option.map_eq_some_iff.1 ha.symm
        rw [ht]
        rfl
    · rfl
  | _ => rfl

lemma drain_eq (l : Nat) (f : Follower Text) (frames : List ServerFrame) :
    drain l ⟨f.state, utf16Len f.state, f.version⟩ frames =
      (f.drain (applyUpdate l) (frames.map ServerFrame.view)).map
        fun g => ⟨g.state, utf16Len g.state, g.version⟩ := by
  induction frames generalizing f with
  | nil => rfl
  | cons frame frames ih =>
    have hc : drain l ⟨f.state, utf16Len f.state, f.version⟩ (frame :: frames) =
        (receive l ⟨f.state, utf16Len f.state, f.version⟩ frame).bind fun c =>
          drain l c frames := by
      simp [drain]
    have hf : f.drain (applyUpdate l) ((frame :: frames).map ServerFrame.view) =
        (f.receive (applyUpdate l) frame.view).bind fun g =>
          g.drain (applyUpdate l) (frames.map ServerFrame.view) := by
      simp [Follower.drain]
    rw [hc, hf, receive_eq]
    cases f.receive (applyUpdate l) frame.view with
    | none => rfl
    | some g => exact ih g

lemma drain_of_follower {c : FakeClient} (hc : c.Fits)
    (h : c.follower.drain (applyUpdate l) (frames.map ServerFrame.view) = some ⟨t, v⟩) :
    c.drain l frames = some ⟨t, utf16Len t, v⟩ := by
  obtain ⟨doc, n, w⟩ := c
  have hn : n = utf16Len doc := hc
  subst hn
  have hd := drain_eq l ⟨doc, w⟩ frames
  have hf : Follower.drain (applyUpdate l) ⟨doc, w⟩ (frames.map ServerFrame.view) =
    some ⟨t, v⟩ := h
  rw [hf] at hd
  exact hd

end FakeClient

end Chan
