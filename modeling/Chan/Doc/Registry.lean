import Chan.Doc.Convergence
import Chan.Doc.Soundness

namespace Chan
open Utf AssocMap UpdateLog Transition

variable {R R' : DocRegistry}

def docDetachGrace : Int := 30000

structure Confirmed where
  incarnation : Nat
  version : Nat
  text : Text
  deriving DecidableEq

/-- The registry's entry for one path, with the states its live session went through and what
clients confirmed so far. -/
structure DocRegistry where
  session : Option DocSession
  hist : List (Nat × Text)
  incarnation : Nat
  confirmed : List Confirmed

inductive RegistryOp
  | attach (id : Nat) (windowId : Text) (resume : Option Confirmed) (disk : DocSession.Disk)
      (record : Option RecoveryRecord)
  | session (op : Op)
  | confirm (version : Nat) (text : Text)
  | reapPass (unixMillis : Int)

structure RegistryLabel where
  now : Instant
  fresh : Nat
  op : RegistryOp

def DocSession.reapable (s : DocSession) (unixMillis : Int) : Bool :=
  decide (s.state.attaches.entries = []) && !s.state.sessionState.isDirty &&
    decide (0 < s.detachedAt) && decide (docDetachGrace ≤ unixMillis - s.detachedAt)

namespace DocRegistry

def new : DocRegistry := ⟨none, [], 0, []⟩

def opened (R : DocRegistry) (path : Text) (disk : DocSession.Disk)
    (record : Option RecoveryRecord) (now : Instant) (fresh : Nat) : Option DocRegistry :=
  match R.session with
  | some _ => some R
  | none =>
    (DocSession.create path disk record now fresh).map fun s =>
      ⟨some s, [(s.state.version, s.state.text)], R.incarnation + 1, R.confirmed⟩

def sessionStep (diffy : Text → Text → Text → Option Text) (R : DocRegistry) (l : Label) :
    Option DocRegistry :=
  match R.session with
  | none => none
  | some s =>
    (s.step diffy l).map fun s' =>
      ⟨some s', R.hist ++ s.added l s', R.incarnation, R.confirmed⟩

def step (diffy : Text → Text → Text → Option Text) (path : Text) (R : DocRegistry)
    (l : RegistryLabel) : Option DocRegistry :=
  match l.op with
  | .attach id windowId resume disk record =>
    if ∀ c ∈ resume, c ∈ R.confirmed then
      (R.opened path disk record l.now l.fresh).bind fun R' =>
        R'.sessionStep diffy
          ⟨l.now, l.fresh, .attach id windowId (resume.map Confirmed.version)⟩
    else none
  | .session op => if op.isAttach then none else R.sessionStep diffy ⟨l.now, l.fresh, op⟩
  | .confirm version text =>
    if R.session.isSome ∧ (version, text) ∈ R.hist then
      some { R with confirmed := ⟨R.incarnation, version, text⟩ :: R.confirmed }
    else none
  | .reapPass unixMillis =>
    some (match R.session with
      | some s => if s.reapable unixMillis then { R with session := none } else R
      | none => R)

/-- Whether a resuming client names a version of the incarnation it reaches, a version the log
does not reach, or a state that incarnation went through. -/
def resumable (path : Text) (R : DocRegistry) (l : RegistryLabel) : Bool :=
  match l.op with
  | .attach _ _ (some c) disk record =>
    match R.opened path disk record l.now l.fresh with
    | some ⟨some s, hist, incarnation, _⟩ =>
      decide (c.incarnation = incarnation) ||
        !decide (s.state.logBase ≤ c.version ∧ c.version ≤ s.state.version) ||
        decide ((c.version, c.text) ∈ hist)
    | _ => true
  | _ => true

end DocRegistry

lemma LogInv.seeded (hlog : st.log = []) (hb : st.logBase = st.version)
    (hl : st.len16 = utf16Len st.text) :
    LogInv cap [(st.version, st.text)] (fun _ => False) clients st := by
  constructor
  · rw [hlog, hb]
    rfl
  · exact hl
  · rw [hlog, hb]
    exact Faithful.start _ _ _
  · exact List.mem_singleton_self _
  · intro id sink hid
    exact hid.elim

lemma DocState.lookup_registerAttach
    (st : DocState) : ∃ sink, (st.registerAttach path k w cv).attaches.lookup k = some sink :=
  ⟨_, AList.lookup_insert _⟩

lemma DocSession.create_log (h : DocSession.create p disk record now fresh = some s) :
    s.state.log = [] ∧ s.state.logBase = s.state.version ∧
      s.state.len16 = utf16Len s.state.text := by
  simp only [DocSession.create] at h
  split at h
  · rename_i r
    cases hr : DocSession.fromRecovery p disk r now fresh with
    | error e => rw [hr] at h; cases h
    | ok s' =>
      rw [hr] at h
      cases h
      rcases DocSession.fromRecovery_ok hr with ⟨t, stat, -, rfl⟩ | ⟨-, -, -, x, rfl⟩
      · exact ⟨rfl, rfl, rfl⟩
      · exact ⟨rfl, rfl, rfl⟩
  · cases h
    exact ⟨rfl, rfl, rfl⟩
  · cases h

namespace DocRegistry

/-- The live session's log is faithful to its history, and what clients confirmed of the live
incarnation is part of it. -/
structure Sound (R : DocRegistry) : Prop where
  log : ∀ s, R.session = some s → ∀ cap, (∀ p ∈ R.hist, utf8Len p.2 ≤ cap) →
    LogInv cap R.hist (fun _ => False) ∅ s.state
  past : ∀ c ∈ R.confirmed, c.incarnation ≤ R.incarnation
  mine : R.session.isSome = true → ∀ c ∈ R.confirmed, c.incarnation = R.incarnation →
    (c.version, c.text) ∈ R.hist

lemma sound_new : new.Sound := by
  constructor
  · intro s hs
    cases hs
  · intro c hc
    cases hc
  · intro hs
    cases hs

lemma opened_confirmed
    (ho : R.opened p disk record now fresh = some R') : R'.confirmed = R.confirmed := by
  simp only [DocRegistry.opened] at ho
  split at ho
  · cases ho
    rfl
  · obtain ⟨s, _, rfl⟩ := Option.map_eq_some_iff.1 ho
    rfl

lemma Sound.opened (h : R.Sound)
    (ho : R.opened p disk record now fresh = some R') : R'.Sound := by
  simp only [DocRegistry.opened] at ho
  split at ho
  · cases ho
    exact h
  · obtain ⟨s, hs, rfl⟩ := Option.map_eq_some_iff.1 ho
    obtain ⟨hlog, hb, hl⟩ := DocSession.create_log hs
    constructor
    · intro s' hs' cap _
      rw [Option.some.injEq] at hs'
      rw [← hs']
      exact LogInv.seeded hlog hb hl
    · intro c hc
      exact Nat.le_succ_of_le (h.past c hc)
    · intro _ c hc he
      have hle : c.incarnation ≤ R.incarnation := h.past c hc
      have he' : c.incarnation = R.incarnation + 1 := he
      rw [he'] at hle
      exact absurd hle (Nat.not_succ_le_self _)

lemma sessionStep_eq_some (h : R.sessionStep diffy l = some R') :
    ∃ s s', R.session = some s ∧ s.step diffy l = some s' ∧
      R' = ⟨some s', R.hist ++ s.added l s', R.incarnation, R.confirmed⟩ := by
  simp only [sessionStep] at h
  split at h
  · cases h
  · rename_i s hs
    obtain ⟨s', hs', rfl⟩ := Option.map_eq_some_iff.1 h
    exact ⟨s, s', hs, hs', rfl⟩

lemma logInv_step {s s' : DocSession} {past : List (Nat × Text)}
    (hi : LogInv cap past (fun _ => False) ∅ s.state) (hs : s.step diffy l = some s')
    (hfit : ∀ p ∈ past ++ s.added l s', utf8Len p.2 ≤ cap) :
    LogInv cap (past ++ s.added l s') (fun _ => False) ∅ s'.state := by
  cases hatt : l.op.isAttach with
  | true =>
    cases hop : l.op with
    | attach k w cv =>
      obtain ⟨hadd, hst⟩ := DocSession.step_attach hs hop
      rw [hadd, List.append_nil, hst]
      exact hi.unfollowed ⟨rfl, rfl, rfl, rfl, rfl, rfl⟩
    | _ => rw [hop] at hatt; cases hatt
  | false =>
    cases hp : l.op.isPull with
    | true =>
      cases hop : l.op with
      | pull k v =>
        obtain ⟨hadd, hst⟩ := DocSession.step_pull hs hop
        rw [hadd, List.append_nil, hst]
        exact hi.unfollowed (DocState.pull_sameLog _ _ _ _)
      | _ => rw [hop] at hp; cases hp
    | false => exact hi.step hs hatt hp hfit

lemma Sound.sessionStep (h : R.Sound)
    (hs : R.sessionStep diffy l = some R') : R'.Sound := by
  obtain ⟨s, s', hsome, hstep, rfl⟩ := sessionStep_eq_some hs
  constructor
  · intro t ht cap hfit
    cases ht
    apply logInv_step _ hstep hfit
    exact h.log s hsome cap fun p hp => hfit p (List.mem_append_left _ hp)
  · exact h.past
  · intro _ c hc he
    apply List.mem_append_left
    exact h.mine (by rw [hsome]; rfl) c hc he

lemma Sound.step (h : R.Sound) (hs : R.step diffy p l = some R') :
    R'.Sound := by
  simp only [DocRegistry.step] at hs
  split at hs
  · split at hs
    · obtain ⟨R₁, ho, hs⟩ := Option.bind_eq_some_iff.1 hs
      exact (h.opened ho).sessionStep hs
    · cases hs
  · split at hs
    · cases hs
    · exact h.sessionStep hs
  · split at hs
    · rename_i hm
      cases hs
      refine ⟨h.log, ?_, ?_⟩
      · intro c hc
        rcases List.mem_cons.1 hc with rfl | hc
        · exact Nat.le_refl _
        · exact h.past c hc
      · intro hsome c hc he
        rcases List.mem_cons.1 hc with rfl | hc
        · exact hm.2
        · exact h.mine hsome c hc he
    · cases hs
  · cases hs
    split
    · split
      · refine ⟨?_, h.past, ?_⟩
        · intro s hs
          cases hs
        · intro hs
          cases hs
      · exact h
    · exact h

lemma Sound.window (h : R'.Sound) (hmem : c ∈ R'.confirmed)
    (ho : R.opened p disk record l.now l.fresh = some R') (hs : R'.session = some s)
    (hop : l.op = .attach k w (some c) disk record) (hc : R.resumable p l = true)
    (hw : s.state.logBase ≤ c.version ∧ c.version ≤ s.state.version) :
    (c.version, c.text) ∈ R'.hist := by
  obtain ⟨session, hist, incarnation, confirmed⟩ := R'
  cases hs
  simp only [resumable, hop, ho, Bool.or_eq_true, decide_eq_true_eq, hw, and_self,
    Bool.not_true, Bool.false_eq_true, or_false, decide_true] at hc
  rcases hc with he | hm
  · exact h.mine rfl c hmem he
  · exact hm

lemma Sound.attach (h : R.Sound) (hs : R.step diffy p l = some R')
    (hop : l.op = .attach k w (some c) disk record) (hc : R.resumable p l = true) :
    ∃ s sink, R'.session = some s ∧ s.state.attaches.lookup k = some sink ∧
      ∀ cap, (∀ p ∈ R'.hist, utf8Len p.2 ≤ cap) →
        (FakeClient.attach (some (c.version, c.text))).drain cap sink.outbox =
          some ⟨s.state.text, s.state.len16, s.state.version⟩ := by
  simp only [DocRegistry.step, hop] at hs
  split at hs
  · rename_i hmem
    obtain ⟨R₁, ho, hs⟩ := Option.bind_eq_some_iff.1 hs
    have hR₁ := h.opened ho
    obtain ⟨s, s', hsome, hstep, rfl⟩ := sessionStep_eq_some hs
    obtain ⟨hadd, hst⟩ := DocSession.step_attach hstep rfl
    obtain ⟨sink, hsink⟩ := s.state.lookup_registerAttach
    refine ⟨s', sink, rfl, hst ▸ hsink, ?_⟩
    intro cap hfit
    simp only [hadd, List.append_nil] at hfit
    have hconf : c ∈ R₁.confirmed := by
      rw [opened_confirmed ho]
      exact hmem c rfl
    have hinv : LogInv cap R₁.hist (fun id => id = k) _ _ :=
      (hR₁.log s hsome cap hfit).attachResume s.path w (fun id hne he => hne he)
        (hR₁.window hconf ho hsome hop hc)
    obtain ⟨client, hcl, hfits, hsync⟩ := hinv.synced k sink rfl hsink
    rw [AList.lookup_insert, Option.some.injEq] at hcl
    subst hcl
    have hlen : s'.state.len16 = utf16Len s'.state.text := hst ▸ hinv.len16
    rw [hlen, hst]
    exact FakeClient.drain_of_follower hfits hsync.drained
  · cases hs

end DocRegistry

/-- Over every run of the registry on one path whose resuming attaches meet the condition, each
of them ends at the text of the session it reaches once its catch-up is folded. -/
theorem resume_is_safe {R : DocRegistry}
    (hrun : exec (DocRegistry.step diffy p) .new (ls ++ [l]) = some R)
    (hmet : Along (DocRegistry.step diffy p) (fun R l => R.resumable p l = true) .new (ls ++ [l]))
    (hop : l.op = .attach k w (some c) disk record) :
    ∃ s sink, R.session = some s ∧ s.state.attaches.lookup k = some sink ∧
      ∀ cap, (∀ p ∈ R.hist, utf8Len p.2 ≤ cap) →
        (FakeClient.attach (some (c.version, c.text))).drain cap sink.outbox =
          some ⟨s.state.text, s.state.len16, s.state.version⟩ := by
  obtain ⟨R₀, hR₀, hlast⟩ := exec_append_eq_some.1 hrun
  obtain ⟨R₁, hstep, hnil⟩ := exec_cons_eq_some.1 hlast
  cases hnil
  have hsound : R₀.Sound :=
    exec_invariant (fun _ _ _ hi hs => hi.step hs) DocRegistry.sound_new hR₀
  exact hsound.attach hstep hop (hmet.append_right hR₀).1

def DocSession.Disk.holding (text : Text) : DocSession.Disk :=
  ⟨some (text, ⟨utf8Len text, none⟩), none⟩

/-- A client confirms version zero and leaves, its session is reaped, and the client comes back
to a session seeded from what the file holds then. -/
def reapedResume (before after : Text) : List RegistryLabel :=
  [⟨0, 0, .attach 0 [] none (.holding before) none⟩, ⟨1, 0, .confirm 0 before⟩,
    ⟨2, 0, .session (.detach 0 1000)⟩, ⟨3, 0, .reapPass 31000⟩] ++
    [⟨4, 0, .attach 1 [] (some ⟨1, 0, before⟩) (.holding after) none⟩]

/-- The file changed in between: the client is told nothing and keeps the old text. -/
theorem reaped_resume_desyncs :
    let R := (exec (DocRegistry.step (fun _ _ _ => none) "a".toList) .new
      (reapedResume "old".toList "new".toList)).get (by decide)
    ∃ s sink, R.session = some s ∧ s.state.attaches.lookup 1 = some sink ∧
      s.state.text = "new".toList ∧
      (FakeClient.attach (some (0, "old".toList))).drain textWriteLimit sink.outbox =
        some ⟨"old".toList, 3, 0⟩ := by
  intro R
  have hs : R.session.isSome = true := by decide
  have hsink : ((R.session.get hs).state.attaches.lookup 1).isSome = true := by decide +revert
  exact ⟨_, _, (Option.some_get hs).symm, (Option.some_get hsink).symm, by decide +revert,
    by decide +revert⟩

/-- The file did not change: the client is in step without being told anything. -/
theorem resume_is_safe_unchanged :
    let R := (exec (DocRegistry.step (fun _ _ _ => none) "a".toList) .new
      (reapedResume "old".toList "old".toList)).get (by decide)
    ∃ s sink, R.session = some s ∧ s.state.attaches.lookup 1 = some sink ∧
      (FakeClient.attach (some (0, "old".toList))).drain textWriteLimit sink.outbox =
        some ⟨s.state.text, s.state.len16, s.state.version⟩ := by
  intro R
  have hrun : exec (DocRegistry.step (fun _ _ _ => none) "a".toList) .new
      (reapedResume "old".toList "old".toList) = some R := (Option.some_get _).symm
  obtain ⟨s, sink, hs, hsink, hd⟩ := resume_is_safe hrun (by decide) rfl
  exact ⟨s, sink, hs, hsink, hd textWriteLimit (by decide)⟩

end Chan
