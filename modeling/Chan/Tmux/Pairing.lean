import Chan.Tmux.Client
import Chan.Tmux.Stage

namespace Chan.Tmux
open List

variable {c : Client} {s : Session}

/-- What happened to a client, in order: it was to expect a reply, or it read a frame. -/
inductive Item where
  | asked (token : Token) (expect : Expect)
  | read (frame : Frame) (event : Option Event)

def Event.settled : Event → Option Token
  | .reply token _ => some token
  | .capture token _ _ => some token
  | _ => none

namespace Item

def event : Item → Option Event
  | asked _ _ => none
  | read _ event => event

def settled (item : Item) : Option Token := item.event.bind Event.settled

end Item

def answered (log : List Item) : List Token := log.filterMap Item.settled

/-- What was asked since control mode last ended, and the replies there were. -/
structure Session where
  asked : List (Token × Expect)
  replies : List Block

namespace Session

def after (s : Session) : Item → Session
  | .asked token expect => { s with asked := s.asked ++ [(token, expect)] }
  | .read (.block b) _ => if b.solicited then { s with replies := s.replies ++ [b] } else s
  | .read (.exit _) _ => ⟨[], []⟩
  | .read _ _ => s

def tokens (s : Session) : List Token := s.asked.map (·.1)

def rest (s : Session) : List (Token × Expect) := s.asked.drop s.replies.length

/-- A capture that was told that its pane has no state. -/
def HalfFailed (s : Session) (token : Token) : Prop :=
  ∃ (i : Nat) (b : Block), s.asked[i]? = some (token, .paneState) ∧
  s.replies[i]? = some b ∧ b.ok = false

end Session

def session (log : List Item) : Session := log.foldl Session.after ⟨[], []⟩

/-- An event that answers a token has the reply to what that token asked, found where it was
asked. -/
def Event.Answers (s : Session) : Event → Prop
  | .reply token result => ∃ (i : Nat) (expect : Expect) (b : Block),
      s.asked[i]? = some (token, expect) ∧
      s.replies[i]? = some b ∧ result = b.result ∧ (expect = .paneState → b.ok = false)
  | .capture token state rows => ∃ (i historyRows : Nat) (b b' : Block),
      s.asked[i]? = some (token, .paneState) ∧ s.replies[i]? = some b ∧ b.ok = true ∧
      parsePaneState b.lines = .ok state ∧ s.asked[i + 1]? = some (token, .capture historyRows) ∧
      s.replies[i + 1]? = some b' ∧ b'.ok = true ∧ rows = b'.lines
  | _ => True

def Event.Accounts (l : List Item) : Event → Prop
  | .exited _ dropped => dropped.Pairwise (· < ·) ∧ ∀ token, token ∈ dropped ↔
      token ∈ (session l).tokens ∧ (token ∉ answered l ∨ (session l).HalfFailed token)
  | _ => True

/-- An item that is right after what came before it. -/
structure Item.Sound (l : List Item) (item : Item) : Prop where
  order : ∀ token ∈ item.settled, ∀ earlier ∈ answered l, earlier < token
  answers : ∀ e ∈ item.event, e.Answers (session (l ++ [item]))
  accounts : ∀ e ∈ item.event, e.Accounts l

def Sound (log : List Item) : Prop := ∀ l item l', log = l ++ item :: l' → item.Sound l

@[simp] lemma session_snoc :
    session (log ++ [item]) = (session log).after item := foldl_concat ..

@[simp] lemma answered_snoc : answered (log ++ [item]) = answered log ++ item.settled.toList := by
  rw [answered, filterMap_append]
  cases h : item.settled with
  | none => rw [filterMap_cons_none h]; rfl
  | some t => rw [filterMap_cons_some h]; rfl

lemma Sound.snoc (h : Sound log) (hitem : item.Sound log) : Sound (log ++ [item]) := by
  intro l x l' heq
  rcases eq_nil_or_concat l' with rfl | ⟨l'', y, rfl⟩
  · obtain ⟨rfl, hx⟩ := append_inj' heq rfl
    cases hx
    exact hitem
  · rw [concat_eq_append, ← cons_append, ← append_assoc] at heq
    obtain ⟨rfl, -⟩ := append_inj' heq rfl
    exact h l x l'' rfl

lemma Sound.pairwise (h : Sound log) : (answered log).Pairwise (· < ·) := by
  induction log using List.reverseRecOn with
  | nil => exact .nil
  | append_singleton log item ih =>
    have hlog : Sound log :=
        fun l x l' heq => h l x (l' ++ [item]) (by rw [heq, append_assoc]; rfl)
    have hitem := h log item [] rfl
    rw [answered_snoc, pairwise_append]
    refine ⟨ih hlog, ?_, fun t ht t' ht' => hitem.order t' (Option.mem_toList.1 ht') t ht⟩
    cases item.settled with
    | none => exact .nil
    | some t => exact pairwise_singleton ..

def Shaped : List (Token × Expect) → Prop
  | [] => True
  | (t, .any) :: rest => (∀ a ∈ rest, t < a.1) ∧ Shaped rest
  | (t, .paneState) :: (t', .capture _) :: rest => t' = t ∧ (∀ a ∈ rest, t < a.1) ∧ Shaped rest
  | _ => False

lemma shaped_expects (t : Token) (command : Command) :
    Shaped (command.expects.map fun e => (t, e)) := by
  cases command <;> first
    | exact ⟨nofun, trivial⟩
    | exact ⟨rfl, nofun, trivial⟩

lemma Shaped.append (h : Shaped rest) (h' : Shaped rest')
    (hlt : ∀ a ∈ rest, ∀ a' ∈ rest', a.1 < a'.1) : Shaped (rest ++ rest') := by
  fun_induction Shaped rest with
  | case1 => exact h'
  | case2 t rest ih =>
    obtain ⟨hbelow, hrest⟩ := h
    obtain ⟨hfirst, hlt⟩ := List.forall_mem_cons.1 hlt
    exact ⟨fun a ha => (List.mem_append.1 ha).elim (hbelow a) (hfirst a), ih hrest hlt⟩
  | case3 t t' historyRows rest ih =>
    obtain ⟨rfl, hbelow, hrest⟩ := h
    obtain ⟨hfirst, hlt⟩ := List.forall_mem_cons.1 hlt
    exact ⟨rfl, fun a ha => (List.mem_append.1 ha).elim (hbelow a) (hfirst a),
      ih hrest (List.forall_mem_cons.1 hlt).2⟩
  | case4 => exact h.elim

def Stage.opens (g : Stage) : Nat := if g.opened = some true then 1 else 0

/-- Where a client stands in what it waits for, with some tokens answered. -/
inductive Stand (g : Stage) (c : Client) (s : Session) (ts : List Token) :
    List (Token × Expect) → Prop
  /-- Between two commands. -/
  | between (hshaped : Shaped rest) (hbelow : ∀ t ∈ ts, ∀ a ∈ rest, t < a.1)
      (hwhole : ∀ t, ¬s.HalfFailed t) : Stand g c s ts rest
  /-- With the state of a pane whose rows are next. -/
  | sized {b : Block} (hshaped : Shaped rest) (hrest : ∀ a ∈ rest, t < a.1)
      (hbelow : ∀ t' ∈ ts, t' < t) (hwhole : ∀ t, ¬s.HalfFailed t)
      (hlength : s.replies.length = m + 1) (hasked : s.asked[m]? = some (t, .paneState))
      (hreply : s.replies[m]? = some b) (hok : b.ok = true)
      (hstate : parsePaneState b.lines = .ok state) (hcapture : c.capture = some (t, state)) :
      Stand g c s ts ((t, .capture historyRows) :: rest)
  /-- Without the state of a pane, so that no block can open for its rows. -/
  | failed (hshaped : Shaped rest) (hrest : ∀ a ∈ rest, t < a.1)
      (hbelow : ∀ t' ∈ ts, t' ≤ t) (hhalf : ∀ t', s.HalfFailed t' ↔ t' = t)
      (hopened : g.opened ≠ some true) (hsized : g.sized = false) :
      Stand g c s ts ((t, .capture historyRows) :: rest)

lemma Stand.congr (h : Stand g c s ts rest) (hcapture : c'.capture = c.capture)
    (hfailed : ∀ {t n rest'}, rest = (t, .capture n) :: rest' → g.opened ≠ some true →
      g.sized = false → g'.opened ≠ some true ∧ g'.sized = false) : Stand g' c' s ts rest := by
  cases h with
  | between hshaped hbelow hwhole => exact .between hshaped hbelow hwhole
  | sized hshaped hrest hbelow hwhole hlength hasked hreply hok hstate hc =>
    exact .sized hshaped hrest hbelow hwhole hlength hasked hreply hok hstate (hcapture.trans hc)
  | failed hshaped hrest hbelow hhalf hopened hsized =>
    obtain ⟨hopened, hsized⟩ := hfailed rfl hopened hsized
    exact .failed hshaped hrest hbelow hhalf hopened hsized

/-- A decoder and a client that agree on what was asked, with some tokens answered. -/
structure Paired (g : Stage) (c : Client) (s : Session) (ts : List Token) : Prop where
  idle : g.control = false → g.opened = none ∧ s = ⟨[], []⟩ ∧ c.ready = false
  pending : c.pending = s.rest.map fun a => (a.1, a.2.part)
  expect : g.expect = (s.rest.drop g.opens).map (·.2)
  count : s.replies.length + g.opens ≤ s.asked.length
  taken : g.opened.isSome → g.sized = false
  records : g.records → g.opened = some true
  answered_lt : ∀ t ∈ ts, t < c.next
  asked_lt : ∀ a ∈ s.asked, a.1 < c.next
  covered : ∀ a ∈ s.asked.take s.replies.length, a.1 ∈ ts ∨ a.1 ∈ s.rest.map (·.1)
  stand : Stand g c s ts s.rest

lemma Paired.fresh (hopened : g.opened = none) (hrecords : g.records = false)
    (hexpect : g.expect = []) (hready : c.ready = false) (hpending : c.pending = [])
    (hlt : ∀ t ∈ ts, t < c.next) : Paired g c ⟨[], []⟩ ts := by
  have hopens : g.opens = 0 := by rw [Stage.opens, hopened]; rfl
  refine ⟨fun _ => ⟨hopened, rfl, hready⟩, hpending, ?_, ?_, ?_, ?_, hlt, nofun, nofun, ?_⟩
  · rw [hexpect, hopens]
    rfl
  · rw [hopens]
    exact Nat.le_refl 0
  · rw [hopened]
    nofun
  · rw [hrecords]
    nofun
  · exact .between trivial (fun _ _ => nofun) fun t ⟨i, b, _, h, _⟩ => nomatch h

namespace Paired

lemma solicited (h : Paired g c s ts) (hopened : g.opened = none) (hcontrol : g.control = true)
    (hexpect : g.expect = e :: queue) (hsized : ∀ historyRows, e = .capture historyRows → g.sized) :
    Paired { g with
        opened := some true, records := e = .paneState, expect := queue, sized := false }
      c s ts := by
  have hopens : g.opens = 0 := by rw [Stage.opens, hopened]; rfl
  have hqueue := h.expect
  rw [hopens, drop_zero, hexpect] at hqueue
  obtain ⟨a, rest, hrest, rfl, rfl⟩ := List.map_eq_cons_iff.1 hqueue.symm
  have hcount : s.replies.length < s.asked.length := by
    have hlength := congrArg List.length hrest
    rw [Session.rest, length_drop, length_cons] at hlength
    omega
  refine ⟨fun hidle => ?_, h.pending, ?_, ?_, fun _ => rfl, fun _ => rfl, h.answered_lt, h.asked_lt,
    h.covered, ?_⟩
  · exact absurd hidle (by rw [hcontrol]; nofun)
  · rw [hrest]
    rfl
  · exact hcount
  · refine h.stand.congr rfl fun heq _ hfalse => ?_
    cases hrest.symm.trans heq
    cases (hsized _ rfl).symm.trans hfalse

lemma unsolicited (h : Paired g c s ts) (hcontrol : g.control = true) (hg : g.opened ≠ some true)
    (hopened : o ≠ some true) (hsized : z = true → g.sized = true) (htaken : o.isSome → z = false) :
    Paired { g with opened := o, records := false, sized := z } c s ts := by
  have hopens : Stage.opens { g with opened := o, records := false, sized := z } = g.opens := by
    rw [Stage.opens, Stage.opens, if_neg hopened, if_neg hg]
  refine ⟨fun hidle => ?_, h.pending, ?_, ?_, htaken, nofun, h.answered_lt, h.asked_lt,
    h.covered, ?_⟩
  · exact absurd hidle (by rw [hcontrol]; nofun)
  · rw [hopens]
    exact h.expect
  · rw [hopens]
    exact h.count
  · refine h.stand.congr rfl fun _ _ hfalse => ⟨hopened, Bool.eq_false_iff.2 fun hz => ?_⟩
    cases (hsized hz).symm.trans hfalse

end Paired

namespace Session

def reply (b : Block) (s : Session) : Session := { s with replies := s.replies ++ [b] }

lemma rest_reply (hrest : s.rest = a :: q) (b : Block) : (s.reply b).rest = q := by
  rw [Session.rest] at hrest ⊢
  rw [reply, length_append, length_singleton, ← drop_drop, hrest]
  rfl

lemma asked_of_rest (hrest : s.rest = a :: q) :
    s.asked[s.replies.length]? = some a := by
  have hhead := congrArg List.head? hrest
  rwa [Session.rest, List.head?_drop] at hhead

lemma halfFailed_reply (hrest : s.rest = a :: q) :
    (s.reply b).HalfFailed t ↔ s.HalfFailed t ∨ (a = (t, .paneState) ∧ b.ok = false) := by
  have hasked := asked_of_rest hrest
  constructor
  · rintro ⟨i, b', hi, hreply, hok⟩
    rw [reply, List.getElem?_append] at hreply
    dsimp only [reply] at hi
    split at hreply
    · exact .inl ⟨i, b', hi, hreply, hok⟩
    · grind
  · rintro (⟨i, b', hi, hreply, hok⟩ | ⟨rfl, hok⟩)
    · refine ⟨i, b', hi, ?_, hok⟩
      rw [reply, List.getElem?_append_left (List.getElem?_eq_some_iff.1 hreply).1]
      exact hreply
    · exact ⟨s.replies.length, b, hasked, List.getElem?_concat_length, hok⟩

end Session

namespace Paired

lemma next (h : Paired g c s ts) (hcontrol : g.control = true) (hopened : g.opened = some true)
    (hrest : s.rest = a :: rest) (hpending : c'.pending = rest.map fun a => (a.1, a.2.part))
    (hnext : c'.next = c.next) (hts : ∀ t ∈ ts, t ∈ ts') (hlt : ∀ t ∈ ts', t < c.next)
    (hhead : a.1 ∈ ts' ∨ a.1 ∈ rest.map (·.1))
    (hstand : Stand { g with opened := none, records := false, sized := z } c' (s.reply b) ts'
      rest) :
    Paired { g with opened := none, records := false, sized := z } c' (s.reply b) ts' := by
  have hopens : g.opens = 1 := by rw [Stage.opens, if_pos hopened]
  have hexpect := h.expect
  have hcount := h.count
  rw [hopens] at hexpect hcount
  have hrest' := Session.rest_reply hrest b
  refine ⟨fun hidle => ?_, ?_, ?_, ?_, nofun, nofun, ?_, ?_, ?_, ?_⟩
  · exact absurd hidle (by rw [hcontrol]; nofun)
  · rw [hrest', hpending]
  · rw [hrest']
    rw [hrest] at hexpect
    exact hexpect
  · rw [Session.reply, length_append]
    exact hcount
  · rwa [hnext]
  · rw [hnext]
    exact h.asked_lt
  · intro a' ha'
    rw [hrest']
    rw [Session.reply, length_append, length_singleton, take_add_one,
      Session.asked_of_rest hrest] at ha'
    rcases List.mem_append.1 ha' with ha' | ha'
    · grind [h.covered]
    · rw [List.mem_singleton.1 ha']
      exact hhead
  · rw [hrest']
    exact hstand

end Paired

def Client.Made (c c' : Client) (b : Block) (t : Token) (event : Option Event) : Part → Prop
  | .whole => event = some (.reply t b.result)
  | .captureState => (b.ok = true ∧ event = none ∧
      ∃ state, parsePaneState b.lines = .ok state ∧ c'.capture = some (t, state)) ∨
      (b.ok = false ∧ event = some (.reply t b.result))
  | .captureRows => (b.ok = true ∧
      ∃ state, c.capture = some (t, state) ∧ event = some (.capture t state b.lines)) ∨
      (b.ok = false ∧ event = some (.reply t b.result))

lemma Client.answer_made (hpending : c.pending = (t, part) :: q)
    (h : c.answer b = (c', .ok e)) :
    c'.pending = q ∧ c'.next = c.next ∧ c.Made c' b t e part := by
  unfold answer at h
  rw [hpending] at h
  cases part with
  | whole =>
    cases h
    exact ⟨rfl, rfl, rfl⟩
  | captureState =>
    cases hok : b.ok with
    | true =>
      rw [Block.result, if_pos hok] at h
      dsimp only at h
      split at h
      · rename_i state hstate
        cases h
        exact ⟨rfl, rfl, .inl ⟨hok, rfl, state, hstate, rfl⟩⟩
      · cases h
    | false =>
      rw [Block.result, if_neg (by rw [hok]; exact Bool.false_ne_true)] at h
      cases h
      refine ⟨rfl, rfl, .inr ⟨hok, ?_⟩⟩
      rw [Block.result, if_neg (by rw [hok]; exact Bool.false_ne_true)]
  | captureRows =>
    cases hok : b.ok with
    | true =>
      rw [Block.result, if_pos hok] at h
      dsimp only at h
      split at h
      · rename_i t' state hcapture
        split at h
        · rename_i heq
          cases h
          exact ⟨rfl, rfl, .inl ⟨hok, state, heq ▸ hcapture, rfl⟩⟩
        · cases h
      · cases h
    | false =>
      rw [Block.result, if_neg (by rw [hok]; exact Bool.false_ne_true)] at h
      cases h
      refine ⟨rfl, rfl, .inr ⟨hok, ?_⟩⟩
      rw [Block.result, if_neg (by rw [hok]; exact Bool.false_ne_true)]

namespace Paired

lemma settle (h : Paired g c s ts) (hcontrol : g.control = true) (hopened : g.opened = some true)
    (hrest : s.rest = (t, x) :: rest) (hpending : c'.pending = rest.map fun a => (a.1, a.2.part))
    (hnext : c'.next = c.next)
    (hstand : Stand { g with opened := none, records := false, sized := z } c' (s.reply b)
      (ts ++ [t]) rest) :
    Paired { g with opened := none, records := false, sized := z } c' (s.reply b) (ts ++ [t]) := by
  have hasked := h.asked_lt _ (mem_of_getElem? (Session.asked_of_rest hrest))
  refine h.next hcontrol hopened hrest hpending hnext (fun _ => mem_append_left _) ?_
    (.inl (mem_append_right _ (mem_singleton_self t))) hstand
  intro t' ht'
  rcases List.mem_append.1 ht' with ht' | ht'
  · exact h.answered_lt t' ht'
  · rw [List.mem_singleton.1 ht']
    exact hasked

lemma stand_of_settled (hshaped : Shaped rest) (hrest : ∀ a ∈ rest, t < a.1)
    (hbelow : ∀ t' ∈ ts, t' < t) (hwhole : ∀ t', ¬s.HalfFailed t') :
    Stand g c s (ts ++ [t]) rest := by
  refine .between hshaped (fun t' ht' a ha => ?_) hwhole
  rcases List.mem_append.1 ht' with ht' | ht'
  · exact Nat.lt_trans (hbelow t' ht') (hrest a ha)
  · rw [List.mem_singleton.1 ht']
    exact hrest a ha

lemma replied (h : Paired g c s ts) (hcontrol : g.control = true) (hopened : g.opened = some true)
    (hsized : z = true → (g.records = true ∧ b.ok = true) ∨ g.sized = true)
    (hanswer : c.answer b = (c', .ok event)) :
    Paired { g with opened := none, records := false, sized := z } c' (s.reply b)
      (ts ++ (event.bind Event.settled).toList) ∧
    (∀ t ∈ event.bind Event.settled, ∀ t' ∈ ts, t' < t) ∧
    (∀ e ∈ event, e.Answers (s.reply b)) ∧ ∀ e ∈ event, ∀ l, e.Accounts l := by
  have hcount := h.count
  rw [Stage.opens, if_pos hopened] at hcount
  obtain ⟨⟨t, x⟩, rest, hrest⟩ : ∃ a rest, s.rest = a :: rest := by
    refine exists_cons_of_length_pos ?_
    rw [Session.rest, length_drop]
    omega
  have hpending := h.pending
  rw [hrest, map_cons] at hpending
  obtain ⟨hpending', hnext, hmade⟩ := Client.answer_made hpending hanswer
  have hasked := Session.asked_of_rest hrest
  have hreply : (s.reply b).replies[s.replies.length]? = some b := List.getElem?_concat_length
  have hstand := h.stand
  rw [hrest] at hstand
  cases hstand with
  | failed _ _ _ _ hclosed => exact absurd hopened hclosed
  | between hshaped hbelow hwhole =>
    have hbelow' : ∀ t' ∈ ts, t' < t := fun t' ht' => hbelow t' ht' _ mem_cons_self
    cases x with
    | any =>
      obtain rfl := hmade
      refine ⟨h.settle hcontrol hopened hrest hpending' hnext ?_, ?_, ?_, ?_⟩
      · refine stand_of_settled hshaped.2 hshaped.1 hbelow' fun t' hhalf => ?_
        rcases (Session.halfFailed_reply hrest).1 hhalf with hhalf | ⟨heq, -⟩
        · exact hwhole t' hhalf
        · cases heq
      · rintro _ ⟨⟩
        exact hbelow'
      · rintro _ ⟨⟩
        exact ⟨_, _, b, hasked, hreply, rfl, nofun⟩
      · rintro _ ⟨⟩ l
        trivial
    | paneState =>
      obtain ⟨⟨t₁, x₁⟩, rest₁, rfl⟩ : ∃ a rest₁, rest = a :: rest₁ := by
        cases rest with
        | nil => exact hshaped.elim
        | cons a rest => exact ⟨a, rest, rfl⟩
      cases x₁ with
      | capture historyRows =>
        obtain ⟨rfl, hlt, hshaped⟩ := hshaped
        rcases hmade with ⟨hok, rfl, state, hparse, hcapture⟩ | ⟨hok, rfl⟩
        · -- The rows are next, and the state is kept for them.
          refine ⟨?_, nofun, nofun, nofun⟩
          rw [Option.bind_none, Option.toList_none, append_nil]
          refine h.next hcontrol hopened hrest hpending' hnext (fun _ ht' => ht') h.answered_lt
            (.inr mem_cons_self) (.sized hshaped hlt hbelow' (fun t' hhalf => ?_)
              (length_append ..) hasked hreply hok hparse hcapture)
          rcases (Session.halfFailed_reply hrest).1 hhalf with hhalf | ⟨-, hfalse⟩
          · exact hwhole t' hhalf
          · rw [hok] at hfalse
            cases hfalse
        · have hz : z = false := by
            refine Bool.eq_false_iff.2 fun hz => ?_
            rcases hsized hz with ⟨-, htrue⟩ | htrue
            · rw [hok] at htrue
              cases htrue
            · rw [h.taken (by rw [hopened]; rfl)] at htrue
              cases htrue
          refine ⟨h.settle hcontrol hopened hrest hpending' hnext ?_, ?_, ?_, ?_⟩
          · refine .failed hshaped hlt (fun t' ht' => ?_) (fun t' => ?_) nofun hz
            · rcases List.mem_append.1 ht' with ht' | ht'
              · exact Nat.le_of_lt (hbelow' t' ht')
              · exact Nat.le_of_eq (List.mem_singleton.1 ht')
            · grind [Session.halfFailed_reply]
          · rintro _ ⟨⟩
            exact hbelow'
          · rintro _ ⟨⟩
            exact ⟨_, _, b, hasked, hreply, rfl, fun _ => hok⟩
          · rintro _ ⟨⟩ l
            trivial
      | any => exact hshaped.elim
      | rows n => exact hshaped.elim
      | paneState => exact hshaped.elim
    | rows n => exact hshaped.elim
    | capture historyRows => exact hshaped.elim
  | sized hshaped hlt hbelow hwhole hlength hstate hstateReply hstateOk hparse hcapture =>
    rename_i m _ _ _
    have hstand : Stand { g with opened := none, records := false, sized := z } c' (s.reply b)
        (ts ++ [t]) rest := by
      refine stand_of_settled hshaped hlt hbelow fun t' hhalf => ?_
      rcases (Session.halfFailed_reply hrest).1 hhalf with hhalf | ⟨heq, -⟩
      · exact hwhole t' hhalf
      · cases heq
    have hpaired := h.settle hcontrol hopened hrest hpending' hnext hstand
    rcases hmade with ⟨hok, state', hcapture', rfl⟩ | ⟨hok, rfl⟩
    · rw [hcapture] at hcapture'
      cases hcapture'
      refine ⟨hpaired, ?_, ?_, ?_⟩
      · rintro _ ⟨⟩
        exact hbelow
      · rintro _ ⟨⟩
        have hm : m < s.replies.length := by omega
        refine ⟨m, _, _, b, hstate, ?_, hstateOk, hparse, hlength ▸ hasked,
          hlength ▸ hreply, hok, rfl⟩
        rw [Session.reply, List.getElem?_append_left hm]
        exact hstateReply
      · rintro _ ⟨⟩ l
        trivial
    · refine ⟨hpaired, ?_, ?_, ?_⟩
      · rintro _ ⟨⟩
        exact hbelow
      · rintro _ ⟨⟩
        exact ⟨_, _, b, hasked, hreply, rfl, nofun⟩
      · rintro _ ⟨⟩ l
        trivial

end Paired

lemma Shaped.sorted (h : Shaped rest) : rest.Pairwise (·.1 ≤ ·.1) := by
  fun_induction Shaped rest with
  | case1 => exact .nil
  | case2 t rest ih => exact .cons (fun a ha => Nat.le_of_lt (h.1 a ha)) (ih h.2)
  | case3 t t' historyRows rest ih =>
    obtain ⟨rfl, hbelow, hrest⟩ := h
    have htail : ∀ a ∈ rest, t' ≤ a.1 := fun a ha => Nat.le_of_lt (hbelow a ha)
    exact .cons (List.forall_mem_cons.2 ⟨Nat.le_refl t', htail⟩) (.cons htail (ih hrest))
  | case4 => exact h.elim

lemma Stand.sorted (h : Stand g c s ts rest) : rest.Pairwise (·.1 ≤ ·.1) := by
  cases h with
  | between hshaped => exact hshaped.sorted
  | sized hshaped hrest | failed hshaped hrest =>
    exact .cons (fun a ha => Nat.le_of_lt (hrest a ha)) hshaped.sorted

lemma droppedTokens_spec (h : pending.Pairwise (·.1 ≤ ·.1)) :
    (Client.droppedTokens pending).Pairwise (· < ·) ∧
    ∀ t, t ∈ Client.droppedTokens pending ↔ t ∈ pending.map (·.1) := by
  suffices hfold : ∀ dropped : List Token, dropped.Pairwise (· < ·) →
      (∀ t ∈ dropped, ∀ a ∈ pending, t ≤ a.1) →
      (pending.foldl (fun dropped a =>
        if dropped.getLast? = some a.1 then dropped else dropped ++ [a.1]) dropped).Pairwise
          (· < ·) ∧
      ∀ t, t ∈ pending.foldl (fun dropped a =>
        if dropped.getLast? = some a.1 then dropped else dropped ++ [a.1]) dropped ↔
          t ∈ dropped ∨ t ∈ pending.map (·.1) by
    obtain ⟨hsorted, hmem⟩ := hfold [] .nil nofun
    exact ⟨hsorted, fun t => (hmem t).trans (by simp)⟩
  induction pending with
  | nil => exact fun dropped hsorted _ => ⟨hsorted, fun t => by simp⟩
  | cons a pending ih =>
    obtain ⟨hfirst, hrest⟩ := List.pairwise_cons.1 h
    intro dropped hsorted hle
    rw [foldl_cons]
    split
    · grind
    · rename_i hlast
      have hlt : ∀ t ∈ dropped, t < a.1 := by
        intro t ht
        refine Nat.lt_of_le_of_ne (hle t ht a mem_cons_self) ?_
        rintro rfl
        rcases eq_nil_or_concat dropped with rfl | ⟨init, y, rfl⟩
        · cases ht
        · rw [concat_eq_append] at hsorted ht hlast hle
          have hy := hle y (mem_append_right _ (mem_singleton_self y)) a
              mem_cons_self
          rcases List.mem_append.1 ht with ht | ht
          · have hbelow := (List.pairwise_append.1 hsorted).2.2 _ ht y (mem_singleton_self y)
            exact Nat.not_lt.2 hy hbelow
          · rw [List.mem_singleton.1 ht, List.getLast?_concat] at hlast
            exact hlast rfl
      have hsorted' : (dropped ++ [a.1]).Pairwise (· < ·) :=
        List.pairwise_append.2 ⟨hsorted, pairwise_singleton .., fun t ht t' ht' =>
          List.mem_singleton.1 ht' ▸ hlt t ht⟩
      have hle' : ∀ t ∈ dropped ++ [a.1], ∀ a' ∈ pending, t ≤ a'.1 := by
        intro t ht a' ha'
        rcases List.mem_append.1 ht with ht | ht
        · exact hle t ht a' (mem_cons_of_mem a ha')
        · rw [List.mem_singleton.1 ht]
          exact hfirst a' ha'
      obtain ⟨hsorted'', hmem⟩ := ih hrest (dropped ++ [a.1]) hsorted' hle'
      refine ⟨hsorted'', fun t => (hmem t).trans ?_⟩
      simp only [mem_append, mem_cons, map_cons, not_mem_nil,
        or_false, or_assoc]

/-- What is dropped: every token that was asked and not answered, and that of a failed capture. -/
lemma Paired.exited (h : Paired g c s ts) :
    (Client.droppedTokens c.pending).Pairwise (· < ·) ∧
    ∀ t, t ∈ Client.droppedTokens c.pending ↔ t ∈ s.tokens ∧ (t ∉ ts ∨ s.HalfFailed t) := by
  have hsorted : c.pending.Pairwise (·.1 ≤ ·.1) := by
    rw [h.pending, pairwise_map]
    exact h.stand.sorted
  obtain ⟨hpairwise, hmem⟩ := droppedTokens_spec hsorted
  refine ⟨hpairwise, fun t => ?_⟩
  have htokens : c.pending.map (·.1) = s.rest.map (·.1) := by
    rw [h.pending, map_map]
    rfl
  rw [hmem, htokens]
  constructor
  · intro ht
    obtain ⟨a, ha, rfl⟩ := List.mem_map.1 ht
    refine ⟨mem_map_of_mem (mem_of_mem_drop ha), ?_⟩
    have hstand := h.stand
    generalize s.rest = rest at hstand ha
    cases hstand with
    | between hshaped hbelow => exact .inl fun hts => Nat.lt_irrefl _ (hbelow _ hts a ha)
    | sized hshaped hrest hbelow =>
      grind
    | failed hshaped hrest hbelow hhalf =>
      rcases List.mem_cons.1 ha with rfl | ha
      · exact .inr ((hhalf _).2 rfl)
      · exact .inl fun hts => Nat.not_le.2 (hrest a ha) (hbelow _ hts)
  · rintro ⟨ht, hor⟩
    have hsplit : t ∈ ts ∨ t ∈ s.rest.map (·.1) := by
      obtain ⟨a, ha, rfl⟩ := List.mem_map.1 ht
      rw [← take_append_drop s.replies.length s.asked] at ha
      rcases List.mem_append.1 ha with ha | ha
      · exact h.covered a ha
      · exact .inr (mem_map_of_mem ha)
    rcases hor with hnot | hhalf
    · exact hsplit.resolve_left hnot
    · have hstand := h.stand
      generalize s.rest = rest at hstand ⊢
      cases hstand with
      | between _ _ hwhole | sized _ _ _ hwhole => exact absurd hhalf (hwhole t)
      | failed _ _ _ hiff =>
        rw [(hiff t).1 hhalf]
        exact mem_cons_self

lemma Paired.congr_client (h : Paired g c s ts) (hpending : c'.pending = c.pending)
    (hcapture : c'.capture = c.capture) (hnext : c'.next = c.next)
    (hready : g.control = false → c'.ready = c.ready) : Paired g c' s ts := by
  refine ⟨fun hidle => ?_, hpending.trans h.pending, h.expect, h.count, h.taken, h.records, ?_, ?_,
    h.covered, ?_⟩
  · obtain ⟨hopened, hs, hc⟩ := h.idle hidle
    exact ⟨hopened, hs, (hready hidle).trans hc⟩
  · rw [hnext]
    exact h.answered_lt
  · rw [hnext]
    exact h.asked_lt
  · exact h.stand.congr hcapture fun _ hopened hsized => ⟨hopened, hsized⟩

structure Abreast (g : Stage) (c : Client) (log : List Item) : Prop where
  sound : Sound log
  paired : Paired g c (session log) (answered log)

namespace Abreast

lemma silent (h : Abreast g c log) (hstep : g.Step none g') : Abreast g' c log := by
  refine ⟨h.sound, ?_⟩
  have hpaired := h.paired
  cases hstep with
  | silent => exact hpaired
  | solicited hcontrol hopened hexpect hsized =>
    exact hpaired.solicited hopened hcontrol hexpect hsized
  | unsolicited hcontrol hopened =>
    exact hpaired.unsolicited hcontrol (by rw [hopened]; nofun) nofun nofun fun _ => rfl

lemma quiet (h : Abreast g c log) (hsettled : ∀ e ∈ item.event, e.settled = none)
    (haccounts : ∀ e ∈ item.event, e.Accounts log)
    (hpaired : Paired g' c' ((session log).after item) (answered log)) :
    Abreast g' c' (log ++ [item]) := by
  have hnone : item.settled = none := by
    rw [Item.settled, Option.bind_eq_none_iff]
    exact hsettled
  refine ⟨h.sound.snoc ⟨?_, fun e he => ?_, haccounts⟩, ?_⟩
  · rw [hnone]
    nofun
  · have hnone := hsettled e he
    cases e <;> trivial
  · rw [session_snoc, answered_snoc, hnone, Option.toList_none, append_nil]
    exact hpaired

lemma read (h : Abreast g c log) (hstep : g.Step (some f) g') (hevent : c.event f = (c', .ok e)) :
    Abreast g' c' (log ++ [.read f e]) := by
  have hpaired := h.paired
  cases hstep with
  | flush bytes =>
    cases hevent
    exact h.quiet (by rintro _ ⟨⟩; rfl) (by rintro _ ⟨⟩; trivial) hpaired
  | enter hcontrol =>
    cases hevent
    obtain ⟨hopened, hs, hready⟩ := hpaired.idle hcontrol
    refine h.quiet (by rintro _ ⟨⟩; rfl) (by rintro _ ⟨⟩; trivial) ?_
    change Paired _ _ (session log) _
    rw [hs]
    refine .fresh rfl rfl ?_ rfl rfl hpaired.answered_lt
    have hexpect := hpaired.expect
    rw [hs] at hexpect
    exact hexpect.trans (by rw [Session.rest, drop_nil, drop_nil]; rfl)
  | line l hcontrol hopened =>
    unfold Client.event at hevent
    dsimp only at hevent
    split at hevent
    · cases hevent
      refine h.quiet (by rintro _ ⟨⟩; rfl) (by rintro _ ⟨⟩; trivial)
        (hpaired.congr_client rfl rfl rfl fun hidle => ?_)
      rw [hcontrol] at hidle
      cases hidle
    · split at hevent
      · cases hevent
        exact h.quiet (by rintro _ ⟨⟩; rfl) (by rintro _ ⟨⟩; trivial) hpaired
      · cases hevent
  | block b z hcontrol hopened hsized =>
    unfold Client.event at hevent
    dsimp only at hevent
    cases hb : b.solicited with
    | false =>
      rw [hb] at hevent hopened
      cases hevent
      have hafter : (session log).after (.read (.block b) (some (.unsolicited b.ok b.lines))) =
          session log := by
        rw [Session.after, hb]
        rfl
      refine h.quiet (by rintro _ ⟨⟩; rfl) (by rintro _ ⟨⟩; trivial) ?_
      rw [hafter]
      refine hpaired.unsolicited hcontrol (by rw [hopened]; nofun) nofun (fun hz => ?_) nofun
      refine (hsized hz).resolve_left fun ⟨hrecords, _⟩ => ?_
      have htrue := hpaired.records hrecords
      rw [hopened] at htrue
      cases htrue
    | true =>
      rw [hb] at hevent hopened
      obtain ⟨hpaired', horder, hanswers, haccounts⟩ :=
        hpaired.replied hcontrol hopened hsized hevent
      have hafter : (session log).after (.read (.block b) e) = (session log).reply b := by
        rw [Session.after, hb]
        rfl
      refine ⟨h.sound.snoc ⟨horder, ?_, fun e he => haccounts e he log⟩, ?_⟩
      · rw [session_snoc, hafter]
        exact hanswers
      · rw [session_snoc, answered_snoc, hafter]
        exact hpaired'
  | exit reason hcontrol hopened =>
    cases hevent
    exact h.quiet (by rintro _ ⟨⟩; rfl) (by rintro _ ⟨⟩; exact hpaired.exited)
      (.fresh rfl rfl rfl rfl rfl hpaired.answered_lt)

end Abreast

namespace Client

def items : List Frame → Client → List Item
  | [], _ => []
  | frame :: frames, c =>
    match c.event frame with
    | (_, .error _) => []
    | (c, .ok event) => .read frame event :: c.items frames

lemma events_cons (h : c.events (frame :: frames) = (c', .ok es)) :
    ∃ c₁ e es', c.event frame = (c₁, .ok e) ∧ c₁.events frames = (c', .ok es') ∧
      es = e.toList ++ es' := by
  rw [events] at h
  generalize c.event frame = r at h
  obtain ⟨c₁, _ | e⟩ := r
  · cases h
  · grind

lemma items_cons (h : c.event frame = (c₁, .ok e)) :
    c.items (frame :: frames) = .read frame e :: c₁.items frames := by
  rw [items, h]

lemma events_items (h : c.events frames = (c', .ok es)) :
    (c.items frames).filterMap Item.event = es := by
  induction frames generalizing c es with
  | nil =>
    cases h
    rfl
  | cons frame frames ih =>
    obtain ⟨c₁, e, es', hevent, hrest, rfl⟩ := events_cons h
    have hitems := ih hrest
    rw [items_cons hevent]
    cases e with
    | none => exact hitems
    | some e => exact congrArg (e :: ·) hitems

end Client

lemma Abreast.steps (h : Abreast g c log) (hsteps : g.Steps frames g')
    (hevents : c.events frames = (c', .ok es)) : Abreast g' c' (log ++ c.items frames) := by
  induction hsteps generalizing c log es with
  | refl g =>
    cases hevents
    rwa [Client.items, append_nil]
  | @step g f g' fs g'' hstep _ ih =>
    cases f with
    | none => exact ih (h.silent hstep) hevents
    | some f =>
      obtain ⟨c₁, e, es', hevent, hrest, rfl⟩ := Client.events_cons hevents
      have hall := ih (h.read hstep hevent) hrest
      rwa [append_assoc, singleton_append, ← Client.items_cons hevent] at hall

namespace Session

def ask (q : List (Token × Expect)) (s : Session) : Session := { s with asked := s.asked ++ q }

lemma halfFailed_ask (h : s.replies.length ≤ s.asked.length) :
    (s.ask q).HalfFailed t ↔ s.HalfFailed t := by
  refine exists_congr fun i => exists_congr fun b => and_congr_left fun ⟨hreply, _⟩ => ?_
  have hi : i < s.asked.length := Nat.lt_of_lt_of_le (List.getElem?_eq_some_iff.1 hreply).1 h
  rw [ask, List.getElem?_append_left hi]

end Session

lemma session_asked (log : List Item) (q : List (Token × Expect)) :
    session (log ++ q.map fun a => .asked a.1 a.2) = (session log).ask q ∧
    answered (log ++ q.map fun a => .asked a.1 a.2) = answered log ∧
    (Sound log → Sound (log ++ q.map fun a => .asked a.1 a.2)) := by
  induction q using List.reverseRecOn with
  | nil => simp [Session.ask]
  | append_singleton q a ih =>
    obtain ⟨hsession, hanswered, hsound⟩ := ih
    rw [map_append, ← append_assoc]
    refine ⟨?_, ?_, fun h => (hsound h).snoc ⟨nofun, nofun, nofun⟩⟩
    · rw [map_singleton, session_snoc, hsession, Session.after, Session.ask, Session.ask,
        append_assoc]
    · rw [map_singleton, answered_snoc, hanswered]
      exact append_nil _

lemma Paired.submitted (h : Paired g c s ts) (hready : c.ready = true) (hshaped : Shaped q)
    (hq : ∀ a ∈ q, a.1 = c.next)
    (hpending : d.pending = c.pending ++ q.map fun a => (a.1, a.2.part))
    (hcapture : d.capture = c.capture) (hnext : d.next = c.next + 1) :
    Paired { g with expect := g.expect ++ q.map (·.2) } d (s.ask q) ts := by
  have hcount := h.count
  have hle : s.replies.length ≤ s.asked.length := Nat.le_of_add_right_le hcount
  have hopens : g.opens ≤ s.rest.length := by
    rw [Session.rest, length_drop]
    omega
  have hrest : (s.ask q).rest = s.rest ++ q := by
    rw [Session.rest, Session.rest, Session.ask, drop_append_of_le_length hle]
  have hlt : ∀ a ∈ s.rest, ∀ a' ∈ q, a.1 < a'.1 := by
    intro a ha a' ha'
    rw [hq a' ha']
    exact h.asked_lt a (mem_of_mem_drop ha)
  refine ⟨fun hidle => ?_, ?_, ?_, ?_, h.taken, h.records, ?_, ?_, ?_, ?_⟩
  · have hnot := (h.idle hidle).2.2
    rw [hready] at hnot
    cases hnot
  · rw [hpending, h.pending, hrest, map_append]
  · rw [hrest, h.expect]
    show _ = ((s.rest ++ q).drop g.opens).map (·.2)
    rw [drop_append_of_le_length hopens, map_append]
  · rw [Session.ask, length_append]
    exact Nat.le_add_right_of_le hcount
  · rw [hnext]
    exact fun t ht => Nat.lt_succ_of_lt (h.answered_lt t ht)
  · intro a ha
    rw [hnext]
    rcases List.mem_append.1 ha with ha | ha
    · exact Nat.lt_succ_of_lt (h.asked_lt a ha)
    · rw [hq a ha]
      exact Nat.lt_succ_self _
  · intro a ha
    rw [Session.ask, take_append_of_le_length hle] at ha
    rw [hrest, map_append]
    exact (h.covered a ha).imp_right (mem_append_left _)
  · have hstand := h.stand
    rw [hrest]
    have hbound : ∀ t ∈ ts, ∀ a ∈ q, t < a.1 := fun t ht a ha => by
      rw [hq a ha]
      exact h.answered_lt t ht
    generalize s.rest = rest at hstand hlt ⊢
    cases hstand with
    | between hshaped' hbelow hwhole =>
      refine .between (hshaped'.append hshaped hlt) (fun t ht a ha => ?_) fun t hhalf =>
        hwhole t ((Session.halfFailed_ask hle).1 hhalf)
      exact (List.mem_append.1 ha).elim (hbelow t ht a) (hbound t ht a)
    | sized hshaped' hrest' hbelow hwhole hlength hasked hreply hok hstate hc =>
      obtain ⟨hfirst, hlt⟩ := List.forall_mem_cons.1 hlt
      refine .sized (hshaped'.append hshaped hlt)
        (fun a ha => (List.mem_append.1 ha).elim (hrest' a) (hfirst a)) hbelow
        (fun t hhalf => hwhole t ((Session.halfFailed_ask hle).1 hhalf)) hlength ?_
        hreply hok hstate
        (hcapture.trans hc)
      rw [Session.ask, List.getElem?_append_left (by omega)]
      exact hasked
    | failed hshaped' hrest' hbelow hhalf hopened hsized =>
      obtain ⟨hfirst, hlt⟩ := List.forall_mem_cons.1 hlt
      exact .failed (hshaped'.append hshaped hlt)
        (fun a ha => (List.mem_append.1 ha).elim (hrest' a) (hfirst a)) hbelow
        (fun t => (Session.halfFailed_ask hle).trans (hhalf t)) hopened hsized

inductive Call where
  | submit (command : Command)
  | feed (input : Bytes)
  | arm (armed : Bool)
  | fail

namespace Call

def run : Call → Client → Client × List Item
  | submit command, c =>
    match c.submit command with
    | (c, .ok (token, _)) => (c, command.expects.map fun e => .asked token e)
    | (c, .error _) => (c, [])
  | feed input, c =>
    let decoded := c.decoder.feed input
    match c.feed input with
    | (d, .ok _) => (d, { c with decoder := decoded.1 }.items decoded.2.1)
    | (d, .error _) => (d, [])
  | arm armed, c => (c.arm armed, [])
  | fail, c => (c.fail, [])

def runAll : List Call → Client → Client × List Item
  | [], c => (c, [])
  | call :: calls, c =>
    let (c, items) := call.run c
    let (c, rest) := runAll calls c
    (c, items ++ rest)

end Call

lemma Client.submit_cases (c : Client) (command : Command) :
    (∃ e, c.submit command = (c, .error e)) ∨
    (c.ready = true ∧ c.failed = false ∧
      ∃ line, c.submit command = (c.enqueue command, .ok (c.next, line))) := by
  unfold submit
  split
  · exact .inl ⟨_, rfl⟩
  · rename_i hfailed
    split
    · exact .inl ⟨_, rfl⟩
    · rename_i hready
      split
      · exact .inl ⟨_, rfl⟩
      · split
        · exact .inl ⟨_, rfl⟩
        · split
          · exact .inl ⟨_, rfl⟩
          · rw [not_or, Bool.not_eq_true', Bool.not_eq_true'] at hready
            exact .inr ⟨Bool.of_not_eq_false hready.2, Bool.eq_false_iff.2 hfailed, _, rfl⟩

lemma Decoder.stage_expectNext (es : List Expect) (d : Decoder) :
    (es.foldl (fun d e => d.expectNext e) d).stage = { d.stage with expect := d.expect ++ es } := by
  induction es generalizing d with
  | nil => rw [foldl_nil, append_nil]; rfl
  | cons e es ih =>
    rw [foldl_cons, ih, expectNext]
    rw [append_assoc]
    rfl

lemma Client.decoder_answer : (c.answer b).1.decoder = c.decoder := by
  unfold answer
  split
  · rfl
  · dsimp only
    split
    · rfl
    · split <;> rfl
    · split
      · split <;> rfl
      · rfl
    · rfl

lemma Client.decoder_event (f : Frame) (c : Client) : (c.event f).1.decoder = c.decoder := by
  unfold event
  split
  · rfl
  · rfl
  · split
    · rfl
    · split <;> rfl
  · split
    · rfl
    · exact decoder_answer ..
  · rfl

lemma Client.decoder_events (h : events frames c = (c', r)) : c'.decoder = c.decoder := by
  induction frames generalizing c r with
  | nil =>
    cases h
    rfl
  | cons f frames ih =>
    have hevent := c.decoder_event f
    unfold events at h
    split at h
    · rename_i c₁ e hc₁
      cases h
      rwa [hc₁] at hevent
    · grind

lemma Client.feed_cases (c : Client) (input : Bytes) :
    (∃ c' e, c.feed input = (c', .error e) ∧ c'.failed = true) ∨
    (c.failed = false ∧ ∃ d frames c' es, c.decoder.feed input = (d, frames, .ok ()) ∧
      { c with decoder := d }.events frames = (c', .ok es) ∧ c.feed input = (c', .ok es)) := by
  unfold feed
  cases hfailed : c.failed with
  | true => exact .inl ⟨c, _, rfl, hfailed⟩
  | false =>
    generalize hdecoded : c.decoder.feed input = decoded
    obtain ⟨d, frames, result⟩ := decoded
    dsimp only
    generalize hhandled : { c with decoder := d, failed := false }.events frames = handled
    obtain ⟨c', es⟩ := handled
    cases es with
    | error e => exact .inl ⟨_, e, rfl, rfl⟩
    | ok es =>
      cases result with
      | error e => exact .inl ⟨_, e, rfl, rfl⟩
      | ok => exact .inr ⟨rfl, d, frames, c', es, rfl, hhandled, rfl⟩

def Client.Follows (c : Client) (log : List Item) : Prop :=
  Sound log ∧ (c.failed = false → Abreast c.decoder.stage c log)

lemma Client.Follows.run (h : c.Follows log) (call : Call) :
    (call.run c).1.Follows (log ++ (call.run c).2) := by
  obtain ⟨hsound, habreast⟩ := h
  cases call with
  | arm armed =>
    refine (append_nil log).symm ▸ ⟨hsound, fun hfailed => ⟨hsound, ?_⟩⟩
    exact (habreast hfailed).paired.congr_client rfl rfl rfl fun _ => rfl
  | fail => exact (append_nil log).symm ▸ ⟨hsound, nofun⟩
  | submit command =>
    rcases c.submit_cases command with ⟨e, hsubmit⟩ | ⟨hready, hfailed, line, hsubmit⟩
    · rw [Call.run, hsubmit]
      exact (append_nil log).symm ▸ ⟨hsound, habreast⟩
    · rw [Call.run, hsubmit]
      obtain ⟨hsession, hanswered, hkeep⟩ :=
        session_asked log (command.expects.map fun e => (c.next, e))
      rw [map_map] at hsession hanswered hkeep
      refine ⟨hkeep hsound, fun _ => ⟨hkeep hsound, ?_⟩⟩
      have hpaired := (habreast hfailed).paired.submitted (d := c.enqueue command) hready
        (shaped_expects c.next command)
        (fun a ha => by obtain ⟨e, -, rfl⟩ := List.mem_map.1 ha; rfl) (by rw [map_map]; rfl)
        rfl rfl
      have hqueue : (command.expects.map fun e => (c.next, e)).map (·.2) = command.expects := by
        rw [map_map]
        exact map_id _
      rw [hqueue, ← hsession, ← hanswered] at hpaired
      have hstage : (c.enqueue command).decoder.stage =
          { c.decoder.stage with expect := c.decoder.stage.expect ++ command.expects } :=
        Decoder.stage_expectNext ..
      rw [hstage]
      exact hpaired
  | feed input =>
    rcases c.feed_cases input with ⟨c', e, hfeed, hfailed⟩ |
      ⟨hfailed, d, frames, c', es, hdecoded, hevents, hfeed⟩
    · rw [Call.run, hfeed]
      refine (append_nil log).symm ▸ ⟨hsound, fun hlive => ?_⟩
      rw [hfailed] at hlive
      cases hlive
    · rw [Call.run, hfeed, hdecoded]
      have hstart : Abreast c.decoder.stage { c with decoder := d } log :=
        ⟨hsound, (habreast hfailed).paired.congr_client rfl rfl rfl fun _ => rfl⟩
      have hend := hstart.steps (Decoder.feed_steps hdecoded) hevents
      exact ⟨hend.sound, fun _ => Client.decoder_events hevents ▸ hend⟩

lemma Client.Follows.runAll (h : c.Follows log) (calls : List Call) :
    (Call.runAll calls c).1.Follows (log ++ (Call.runAll calls c).2) := by
  induction calls generalizing c log with
  | nil => exact (append_nil log).symm ▸ h
  | cons call calls ih =>
    have hrest := ih (h.run call)
    rwa [append_assoc] at hrest

def Client.start (limits : Limits) (controlled : Bool) : Client :=
  if controlled then .inControl limits else .new limits

lemma Client.follows_start : (Client.start limits controlled).Follows [] := by
  have hsound : Sound [] := fun l item l' heq => nomatch List.append_eq_nil_iff.1 heq.symm
  refine ⟨hsound, fun _ => ⟨hsound, ?_⟩⟩
  cases controlled <;> exact .fresh rfl rfl rfl rfl rfl nofun

/-- After any calls a client that has not failed waits for one reply more than its decoder if a
reply is being read, and for as many otherwise; tokens are answered once at most and in the order
of their commands, each by the reply that was read for what it asked; what is dropped at an exit is
every token without an answer, once, and that of a capture that failed halfway; and a command that
is refused changes nothing. -/
theorem Client.replies_paired (limits : Limits) (controlled : Bool) (calls : List Call) :
    let c := (Call.runAll calls (.start limits controlled)).1
    let log := (Call.runAll calls (.start limits controlled)).2
    (c.failed = false →
      c.pending.length = c.decoder.expect.length + c.decoder.stage.opens ∧
      c.pending = (session log).rest.map (fun a => (a.1, a.2.part)) ∧
      c.decoder.expect = ((session log).rest.drop c.decoder.stage.opens).map (·.2)) ∧
    (answered log).Pairwise (· < ·) ∧
    (∀ l item l', log = l ++ item :: l' →
      ∀ e ∈ item.event, e.Answers (session (l ++ [item])) ∧ e.Accounts l) ∧
    (∀ input c' es, c.feed input = (c', .ok es) →
      ((Call.feed input).run c).2.filterMap Item.event = es) ∧
    ∀ command c' e, c.submit command = (c', .error e) → c' = c := by
  intro c log
  have hfollows : c.Follows log := (Client.follows_start).runAll calls
  obtain ⟨hsound, habreast⟩ := hfollows
  refine ⟨fun hfailed => ?_, hsound.pairwise, fun l item l' heq e he => ?_, fun input c' es hfeed =>
    ?_, fun command c' e hsubmit => ?_⟩
  · obtain ⟨-, hpaired⟩ := habreast hfailed
    have hcount := hpaired.count
    refine ⟨?_, hpaired.pending, hpaired.expect⟩
    have hexpect : c.decoder.expect = _ := hpaired.expect
    rw [hpaired.pending, hexpect, length_map, length_map, length_drop, Session.rest,
      length_drop]
    omega
  · have hitem := hsound l item l' heq
    exact ⟨hitem.answers e he, hitem.accounts e he⟩
  · rcases c.feed_cases input with ⟨c'', e, hfeed', -⟩ | ⟨-, d, frames, c'', es', hdecoded,
      hevents, hfeed'⟩
    · rw [hfeed] at hfeed'
      cases hfeed'
    · rw [hfeed] at hfeed'
      cases hfeed'
      rw [Call.run, hfeed, hdecoded]
      exact Client.events_items hevents
  · rcases c.submit_cases command with ⟨e', hsubmit'⟩ | ⟨-, -, line, hsubmit'⟩
    · rw [hsubmit] at hsubmit'
      cases hsubmit'
      rfl
    · rw [hsubmit] at hsubmit'
      cases hsubmit'

def lostPane : List Call :=
  [.feed (utf8 "%session-changed $0 main\n"), .submit (.capturePane ⟨5⟩ 0),
    .feed (utf8 "%begin 1 1 1\n%error 1 1 1\n")]

/-- A feed that fails leaves the two queues out of step: the block of a capture that has no pane
state takes its expectation and is never opened. -/
theorem Client.failed_feed_loses_count :
    let c := (Call.runAll (lostPane ++ [.feed (utf8 "%begin 2 2 1\n")]) (.start .default true)).1
    c.failed = true ∧ c.pending = [(0, .captureRows)] ∧ c.decoder.expect = [] ∧
      c.decoder.opened = none := by
  decide +kernel

end Chan.Tmux
