import Chan.Tmux.Turn

namespace Chan.Tmux
open List

variable {K : Links}

open History

namespace Gate

lemma Moment.Denies.after {m : Moment K} (h : m.Denies) : m.after.stance = .settled := by
  obtain ⟨deadline, held, heldBytes, origin, hphase, hwhy⟩ := h
  obtain ⟨g, c⟩ := m
  dsimp only at hphase hwhy
  obtain ⟨now, rfl⟩ | ⟨now, rfl, hlate⟩ | ⟨bytes, now, rfl, hmany⟩ := hwhy
  · simp only [Moment.after, Cause.handle, judge, hphase]
    rfl
  · simp only [Moment.after, Cause.handle, tick, hphase, if_pos hlate]
    rfl
  · have hf : g.floods bytes = true := by simp only [floods, hphase, hmany, decide_true]
    simp only [Moment.after, Cause.handle, if_pos hf]
    rfl

lemma Moment.Enters.after {m : Moment K} (h : m.Enters foreground) :
    m.actions = [] ∧
      (m.after.stance = .asking (originOf foreground) ∧ m.1.trusts foreground = false ∧
          m.1.allowForTab = false ∨
        m.after.stance = .probing none ∧
          (m.1.trusts foreground = true ∨ m.1.allowForTab = true)) := by
  obtain ⟨g, c⟩ := m
  obtain ⟨now, rfl⟩ := h
  refine ⟨rfl, ?_⟩
  simp only [Moment.after, Cause.handle, entered]
  split
  · rename_i hpass
    exact .inr ⟨rfl, Bool.or_eq_true_iff.1 hpass⟩
  · rename_i hpass
    obtain ⟨ht, ha⟩ := Bool.or_eq_false_iff.1 (Bool.eq_false_iff.2 hpass)
    exact .inl ⟨rfl, ht, ha⟩

lemma Moment.allowForTab_after {m : Moment K} (h : m.after.allowForTab = true) :
    m.1.allowForTab = true ∨ m.AllowsForTab := by
  obtain ⟨g, c⟩ := m
  cases c with
  | read client bytes => exact .inl ((quiet_countHeld bytes g).allowForTab.symm.trans h)
  | entered foreground now => exact .inl ((entered_keeps foreground now g).1.symm.trans h)
  | event e now => exact .inl ((quiet_event e now g).allowForTab.symm.trans h)
  | reported => exact .inl ((quiet_publishStatusIfDirty g).allowForTab.symm.trans h)
  | flooded bytes now =>
    simp only [Moment.after, Cause.handle] at h
    split at h
    · exact .inl ((quiet_countHeld bytes g).allowForTab.symm.trans h)
    · exact .inl h
  | broken client bytes error =>
    have hread := (quiet_countHeld bytes g).trans (quiet_client client _)
    exact .inl ((((endStream_reset _ _).2.2).trans hread.allowForTab).symm.trans h)
  | answered a now =>
    simp only [Moment.after, Cause.handle, judge] at h
    split at h
    · rename_i origin hphase
      split at h
      · exact .inl h
      · simp only [allow, publish, Bool.or_eq_true, decide_eq_true_eq] at h
        exact h.imp_right fun ha => ⟨origin, now, stance_asking hphase, by rw [ha]⟩
    · exact .inl h
  | ticked now =>
    have hkeeps : (g.tick now).1.allowForTab = g.allowForTab := by
      rw [tick]
      split
      · split <;> rfl
      · split
        · split
          · exact (quiet_endConnection .unknown g).allowForTab
          · exact (quiet_endConnection .unknown g).allowForTab
        · rfl
      · split <;> rfl
      · rfl
    exact .inl (hkeeps.symm.trans h)
  | gone => exact .inl ((controlExited_reset g).2.2.symm.trans h)
  | configured policy => exact .inl h
  | served steps now => exact .inl ((quiet_serve steps now g).allowForTab.symm.trans h)

/-- The last entry of a history, and what came after it. -/
structure Since (xs before : List (Moment K)) (e : Moment K) (foreground : Foreground)
    (since : List (Moment K)) : Prop where
  eq : xs = before ++ e :: since
  enters : e.Enters foreground
  last : ∀ m ∈ since, ∀ f, ¬m.Enters f

/-- The entry is of a trusted foreground, of a tab that is allowed, or its own question was
allowed. -/
def Permitted (before : List (Moment K)) (e : Moment K) (foreground : Foreground)
    (since : List (Moment K)) : Prop :=
  e.1.trusts foreground = true ∨ (∃ m ∈ before, m.AllowsForTab) ∨
    ∃ m ∈ since, m.Allows (originOf foreground)

def Accounts (xs : List (Moment K)) : Stance → Prop
  | .asking origin => ∃ before e foreground since, Since xs before e foreground since ∧
      originOf foreground = origin ∧ ∀ m ∈ since, ¬m.Denies
  | .probing probe => ∃ before e foreground since, Since xs before e foreground since ∧
      Permitted before e foreground since ∧ (∀ m ∈ since, ¬m.Denies) ∧
      ∀ token, probe = some token → ∃ m ∈ since, m.Announces token
  | .connected => True
  | .settled => True

lemma Since.concat (h : Since xs before e foreground since) {m : Moment K}
    (hm : ∀ f, ¬m.Enters f) : Since (xs ++ [m]) before e foreground (since ++ [m]) := by
  refine ⟨by rw [h.eq, append_assoc, cons_append], h.enters, fun x hx => ?_⟩
  rcases List.mem_append.1 hx with hx | hx
  · exact h.last x hx
  · rw [List.mem_singleton.1 hx]
    exact hm

lemma forall_mem_concat {P : α → Prop} {l : List α} (h : ∀ x ∈ l, P x) (ha : P a) :
    ∀ x ∈ l ++ [a], P x := by
  simpa [or_imp, forall_and] using ⟨h, ha⟩

lemma Accounts.turn {m : Moment K} (h : Accounts xs m.1.stance) (hm : ∀ f, ¬m.Enters f) :
    Accounts (xs ++ [m]) m.after.stance := by
  have hundenied (hne : m.after.stance ≠ .settled) : ¬m.Denies := fun hd => hne hd.after
  have hturn := Gate.turn m hm
  generalize m.1.stance = s at h hturn
  generalize m.after.stance = s' at hundenied hturn ⊢
  cases hturn with
  | keep origin _ =>
    obtain ⟨before, e, foreground, since, hs, ho, hd⟩ := h
    exact ⟨before, e, foreground, _, hs.concat hm, ho, forall_mem_concat hd (hundenied nofun)⟩
  | allow hallows _ =>
    obtain ⟨before, e, foreground, since, hs, rfl, hd⟩ := h
    exact ⟨before, e, foreground, _, hs.concat hm,
      .inr (.inr ⟨m, mem_append_right _ mem_cons_self, hallows⟩),
      forall_mem_concat hd (hundenied nofun), nofun⟩
  | wait probe _ =>
    obtain ⟨before, e, foreground, since, hs, hp, hd, ha⟩ := h
    refine ⟨before, e, foreground, _, hs.concat hm, ?_, forall_mem_concat hd (hundenied nofun),
      fun token ht => ?_⟩
    · exact hp.imp_right (.imp_right fun ⟨x, hx, hallows⟩ =>
        ⟨x, mem_append_left _ hx, hallows⟩)
    · obtain ⟨x, hx, hx'⟩ := ha token ht
      exact ⟨x, mem_append_left _ hx, hx'⟩
  | announce hannounces _ =>
    obtain ⟨before, e, foreground, since, hs, hp, hd, ha⟩ := h
    refine ⟨before, e, foreground, _, hs.concat hm, ?_, forall_mem_concat hd (hundenied nofun),
      fun token ht => ?_⟩
    · exact hp.imp_right (.imp_right fun ⟨x, hx, hallows⟩ =>
        ⟨x, mem_append_left _ hx, hallows⟩)
    · cases ht
      exact ⟨m, mem_append_right _ mem_cons_self, hannounces⟩
  | report _ hafter => rcases hafter with rfl | rfl <;> trivial
  | deny | drop | fail | carry | close | rest => trivial

/-- The account of a history, and of the tab's allowance. -/
def Accounted (xs : List (Moment K)) (g : Gate K) : Prop :=
  Accounts xs g.stance ∧ (g.allowForTab = true → ∃ m ∈ xs, m.AllowsForTab)

lemma Accounted.step {m : Moment K} (h : Accounted xs m.1) : Accounted (xs ++ [m]) m.after := by
  constructor
  · by_cases hm : ∃ f, m.Enters f
    · obtain ⟨foreground, he⟩ := hm
      have hsince : Since (xs ++ [m]) xs m foreground [] := ⟨rfl, he, forall_mem_nil _⟩
      obtain ⟨-, ⟨hs, -, -⟩ | ⟨hs, hpass⟩⟩ := he.after
      · rw [hs]
        exact ⟨xs, m, foreground, [], hsince, rfl, forall_mem_nil _⟩
      · rw [hs]
        exact ⟨xs, m, foreground, [], hsince, hpass.imp_right fun ha => .inl (h.2 ha),
          forall_mem_nil _, nofun⟩
    · exact h.1.turn fun f hf => hm ⟨f, hf⟩
  · intro ha
    rcases Moment.allowForTab_after ha with ha | ha
    · obtain ⟨x, hx, hx'⟩ := h.2 ha
      exact ⟨x, mem_append_left _ hx, hx'⟩
    · exact ⟨m, mem_append_right _ mem_cons_self, ha⟩

lemma Moment.Connects.reports {m : Moment K} (h : m.Connects) :
    ∃ token, m.1.stance = .probing (some token) ∧ m.Reports token := by
  by_cases hm : ∃ f, m.Enters f
  · obtain ⟨f, he⟩ := hm
    obtain ⟨hactions, hafter⟩ := he.after
    rcases h with ⟨title, htitle⟩ | ⟨-, hs⟩
    · rw [hactions] at htitle
      cases htitle
    · rw [hs] at hafter
      rcases hafter with ⟨hafter, -⟩ | ⟨hafter, -⟩ <;> cases hafter
  · have hturn := Gate.turn m fun f hf => hm ⟨f, hf⟩
    rw [Moment.Connects] at h
    generalize m.1.stance = s at h hturn
    generalize m.after.stance = s' at h hturn
    have hquiet (hw : Windowless m.actions) (hs : s ≠ .connected → s' ≠ .connected) :
        ∃ token, s = .probing (some token) ∧ m.Reports token := by
      rcases h with ⟨title, htitle⟩ | ⟨hne, hs'⟩
      · exact absurd htitle (hw title)
      · exact absurd hs' (hs hne)
    cases hturn with
    | report hreports _ => exact ⟨_, rfl, hreports⟩
    | keep _ hactions | allow _ hactions =>
      exact hquiet (by rw [hactions]; exact .nil) fun _ => nofun
    | deny _ _ hw | drop _ _ hw | wait _ hw | announce _ hw | fail _ hw | rest _ hw =>
      exact hquiet hw fun _ => nofun
    | carry hw | close hw => exact hquiet hw fun hne => absurd rfl hne

/-- Since an entry was asked about and not allowed: nothing is written but the newline of a
denial. -/
def Silent (origin : Origin) (xs : List (Moment K)) (g : Gate K) : Prop :=
  (∀ m ∈ xs, (∀ f, ¬m.Enters f) ∧ ¬m.Allows origin) →
    (g.stance = .asking origin ∧ xs.flatMap Moment.writes = [] ∨
      g.stance = .settled ∧
        (xs.flatMap Moment.writes = [] ∨ xs.flatMap Moment.writes = [[newline]])) ∧
    ∀ m ∈ xs, m.writes ≠ [] → m.Denies

lemma Silent.step (h : Silent origin xs m.1) :
    Silent origin (xs ++ [m]) m.after := by
  intro hall
  obtain ⟨hstance, hwrites⟩ := h fun x hx => hall x (mem_append_left _ hx)
  obtain ⟨hm, hallows⟩ := hall m (mem_append_right _ mem_cons_self)
  have hturn := Gate.turn m hm
  rw [flatMap_append, flatMap_singleton]
  have hquiet (hw : m.writes = []) : ∀ x ∈ xs ++ [m], x.writes ≠ [] → x.Denies :=
    forall_mem_concat hwrites fun hne => absurd hw hne
  generalize hs' : m.after.stance = s' at hturn ⊢
  rcases hstance with ⟨hs, hnone⟩ | ⟨hs, hsome⟩
  · rw [hs] at hturn
    cases hturn with
    | keep _ hactions =>
      have hw : m.writes = [] := by rw [Moment.writes, hactions]; rfl
      exact ⟨.inl ⟨rfl, by rw [hnone, hw]; rfl⟩, hquiet hw⟩
    | allow ha _ => exact absurd ha hallows
    | deny hd hw _ =>
      exact ⟨.inr ⟨rfl, .inr (by rw [hnone, hw]; rfl)⟩, forall_mem_concat hwrites fun _ => hd⟩
    | drop _ hw _ => exact ⟨.inr ⟨rfl, .inl (by rw [hnone, hw]; rfl)⟩, hquiet hw⟩
  · rw [hs] at hturn
    cases hturn with
    | rest hw _ =>
      rw [hw, append_nil]
      exact ⟨.inr ⟨rfl, hsome⟩, hquiet hw⟩

section Run

variable (policy : Policy) (scrollbackMb nextConnection : Nat) (calls : List (Call K))

lemma accounted_at
    (h : happened (new policy scrollbackMb nextConnection) calls = before ++ m :: rest) :
    Accounted before m.1 :=
  history_invariant_at (P := Accounted) (s := new policy scrollbackMb nextConnection)
    ⟨trivial, fun ha => Bool.noConfusion ha⟩ (fun hacc => hacc.step) h

lemma asked_entry_writes {e : Moment K}
    (h : happened (new policy scrollbackMb nextConnection) calls = before ++ e :: (since ++ rest))
    (he : e.Enters foreground) (ht : e.1.trusts foreground = false)
    (htab : ∀ m ∈ before, ¬m.AllowsForTab)
    (hsince : ∀ m ∈ since, (∀ f, ¬m.Enters f) ∧ ¬m.Allows (originOf foreground)) :
    ((e :: since).flatMap Moment.writes = [] ∨
      (e :: since).flatMap Moment.writes = [[newline]]) ∧
      ∀ m ∈ e :: since, m.writes ≠ [] → m.Denies := by
  obtain ⟨hactions, hafter⟩ := he.after
  have hnone : e.writes = [] := by rw [Moment.writes, hactions]; rfl
  have hasks : e.after.stance = .asking (originOf foreground) := by
    rcases hafter with ⟨hs, -, -⟩ | ⟨-, htrust | ha⟩
    · exact hs
    · rw [ht] at htrust
      cases htrust
    · obtain ⟨m, hm, hallows⟩ := (accounted_at policy scrollbackMb nextConnection calls h).2 ha
      exact absurd hallows (htab m hm)
  obtain ⟨cs, rfl⟩ := history_after h
  have hsilent : Silent (originOf foreground) (history _ e.after cs) _ :=
    history_invariant (P := Silent (originOf foreground))
      (fun _ => ⟨.inl ⟨hasks, rfl⟩, forall_mem_nil _⟩) (fun h => h.step)
  obtain ⟨hstance, hwrites⟩ := hsilent hsince
  rw [flatMap_cons, hnone, nil_append]
  refine ⟨?_, List.forall_mem_cons.2 ⟨fun hne => absurd hnone hne, hwrites⟩⟩
  rcases hstance with ⟨-, hw⟩ | ⟨-, hw⟩
  · exact .inl hw
  · exact hw

lemma connection_account {m : Moment K}
    (h : happened (new policy scrollbackMb nextConnection) calls = before ++ m :: rest)
    (hm : m.Connects) :
    ∃ earlier e foreground since token, Since before earlier e foreground since ∧
      Permitted earlier e foreground since ∧ (∀ x ∈ since, ¬x.Denies) ∧
      (∃ x ∈ since, x.Announces token) ∧ m.Reports token := by
  obtain ⟨token, hstance, hreports⟩ := hm.reports
  have hacc := (accounted_at policy scrollbackMb nextConnection calls h).1
  rw [hstance] at hacc
  obtain ⟨earlier, e, foreground, since, hsince, hpermitted, hdenied, hannounced⟩ := hacc
  exact ⟨earlier, e, foreground, since, token, hsince, hpermitted, hdenied,
    hannounced token rfl, hreports⟩

end Run

lemma Moment.Denies.not_enters {m : Moment K} (h : m.Denies) : ∀ f, ¬m.Enters f := by
  rintro f ⟨now, hf⟩
  obtain ⟨_, _, _, _, -, ⟨_, hc⟩ | ⟨_, hc, -⟩ | ⟨_, _, hc, -⟩⟩ := h
  all_goals
    rw [hf] at hc
    cases hc

lemma Since.mem_of_append {e d : Moment K}
    (h : Since (xs ++ d :: ys) before e foreground since) (hd : ∀ f, ¬d.Enters f)
    (hys : ∀ x ∈ ys, ∀ f, ¬x.Enters f) : d ∈ since := by
  rcases List.append_eq_append_iff.1 h.eq with ⟨zs, rfl, hz⟩ | ⟨zs, rfl, hz⟩
  · cases zs with
    | nil =>
      obtain ⟨rfl, -⟩ := List.cons.inj hz
      exact absurd h.enters (hd foreground)
    | cons z zs =>
      obtain ⟨rfl, rfl⟩ := List.cons.inj hz
      exact absurd h.enters (hys e (mem_append_right _ mem_cons_self) foreground)
  · cases zs with
    | nil =>
      obtain ⟨rfl, -⟩ := List.cons.inj hz
      exact absurd h.enters (hd foreground)
    | cons z zs =>
      obtain ⟨rfl, rfl⟩ := List.cons.inj hz
      exact mem_append_right _ mem_cons_self

/-- Consent, over every run. Under an entry that is not trusted, with no allow for the tab before it
and none for its own question since, nothing is written but one newline, by a denial. A connection
rests on an entry that is trusted or allowed, whose session was announced and whose peer reported a
version at or past the floor. After a denial there is no connection before the next entry. -/
theorem consent_precedes_writes (policy : Policy) (scrollbackMb nextConnection : Nat)
    (calls : List (Call K)) :
    let g : Gate K := new policy scrollbackMb nextConnection
    (runAll calls g).2 = (happened g calls).flatMap Moment.actions ∧
    (∀ before e foreground since rest, happened g calls = before ++ e :: (since ++ rest) →
      e.Enters foreground → e.1.trusts foreground = false →
      (∀ m ∈ before, ¬m.AllowsForTab) →
      (∀ m ∈ since, (∀ f, ¬m.Enters f) ∧ ¬m.Allows (originOf foreground)) →
      ((e :: since).flatMap Moment.writes = [] ∨
        (e :: since).flatMap Moment.writes = [[newline]]) ∧
      ∀ m ∈ e :: since, m.writes ≠ [] → m.Denies) ∧
    (∀ before m rest, happened g calls = before ++ m :: rest → m.Connects →
      ∃ earlier e foreground since token, Since before earlier e foreground since ∧
        Permitted earlier e foreground since ∧ (∃ x ∈ since, x.Announces token) ∧
        m.Reports token) ∧
    (∀ before d since m rest, happened g calls = before ++ d :: (since ++ m :: rest) →
      d.Denies → (∀ x ∈ since, ∀ f, ¬x.Enters f) → ¬m.Connects) := by
  refine ⟨runAll_actions, ?_, ?_, ?_⟩
  · intro before e foreground since rest h he ht htab hsince
    exact asked_entry_writes policy scrollbackMb nextConnection calls h he ht htab hsince
  · intro before m rest h hm
    obtain ⟨earlier, e, foreground, since, token, hsince, hpermitted, -, hannounced, hreports⟩ :=
      connection_account policy scrollbackMb nextConnection calls h hm
    exact ⟨earlier, e, foreground, since, token, hsince, hpermitted, hannounced, hreports⟩
  · intro before d since m rest h hd hsince hm
    rw [← cons_append, ← append_assoc] at h
    obtain ⟨earlier, e, foreground, mid, token, hlast, -, hdenied, -⟩ :=
      connection_account policy scrollbackMb nextConnection calls h hm
    exact hdenied d (hlast.mem_of_append hd.not_enters hsince) hd

instance : DecidableEq idle.Work := inferInstanceAs (DecidableEq Unit)

/-- An allow for the tab lets the next untrusted entry be written to unasked; and a trusted entry is
written to while the question of an untrusted one before it has no answer. -/
theorem spent_tab_written_unasked : let ssh : Foreground := ⟨some "ssh", none⟩
    let probe := [.write [3, newline], .write (utf8 "display-message -p '#\x7bversion\x7d'\n")]
    let g : Gate idle := (runAll [.feed marker 0 ssh, .answer .allowForTab 1,
      .feed (utf8 "%exit\n") 2 ssh] (new ⟨true, []⟩ 8 1)).1
    let t : Gate idle := new ⟨true, []⟩ 8 1
    (g.trusts ssh = false ∧
      (g.client.feed marker).2.toOption = some [.passthrough marker, .entered] ∧
      (runAll [.feed marker 3 ssh, .feed (utf8 "%session-changed $1 main\n") 4 ssh] g).2 = probe) ∧
    t.trusts ssh = false ∧
      (t.client.feed marker).2.toOption = some [.passthrough marker, .entered] ∧
      (runAll [.feed marker 0 ssh, .feed (utf8 "%exit\n") 1 ssh,
        .feed marker 2 ⟨some "tmux", none⟩,
        .feed (utf8 "%session-changed $1 main\n") 3 ssh] t).2 = probe := by
  decide +kernel

end Gate

end Chan.Tmux
