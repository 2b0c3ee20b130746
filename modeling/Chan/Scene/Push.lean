import Chan.Lib.Lww
import Chan.Lib.Transition
import Chan.Scene.Model

namespace Chan
open Utf AssocMap Transition

variable {s s' : Scene}

/-- The order of last-writer-wins: the version, then the lower nonce. -/
def StoredElement.rank (el : StoredElement) : Nat ×ₗ Natᵒᵈ :=
  toLex (el.version, OrderDual.toDual el.versionNonce)

lemma storedWins_iff (stored el : StoredElement) :
    storedWins stored el.version el.versionNonce = true ↔ el.rank < stored.rank := by
  rw [storedWins, StoredElement.rank, StoredElement.rank, Prod.Lex.toLex_lt_toLex]
  simp only [Bool.or_eq_true, Bool.and_eq_true, decide_eq_true_eq, beq_iff_eq,
    OrderDual.toDual_lt_toDual]
  exact or_congr_right (and_congr_left' eq_comm)

lemma StoredElement.rank_inj {a b : StoredElement} :
    a.rank = b.rank ↔ a.version = b.version ∧ a.versionNonce = b.versionNonce := by
  rw [rank, rank, toLex.injective.eq_iff, Prod.mk.injEq, OrderDual.toDual_inj]

def Decodes (vs : List Value) (es : List (Text × StoredElement)) : Prop :=
  List.Forall₂ (fun v e => StoredElement.fromValue v = .ok e) vs es

namespace Scene

def overlay (staged stored : Map Text StoredElement) (k : Text) : Option StoredElement :=
  (staged.lookup k).or (stored.lookup k)

lemma overlay_insert : overlay (staged.insert k el) stored =
      Function.update (overlay staged stored) k (some el) := by
  funext i
  by_cases hi : i = k
  · subst hi
    rw [overlay, AList.lookup_insert, Option.some_or, Function.update_self]
  · rw [overlay, AList.lookup_insert_ne hi, Function.update_of_ne hi, overlay]

lemma stage_ok
    (h : stage stored vs (staged, accepted) = .ok (all, accepted')) :
    ∃ es won, Decodes vs es ∧ won ⊆ es ∧
      accepted' = accepted ++ won.map (fun e => .object e.2.value) ∧
      overlay all stored = es.foldl (Lww.mergeAt StoredElement.rank) (overlay staged stored) ∧
      overlay all stored = won.foldl (Lww.mergeAt StoredElement.rank) (overlay staged stored) := by
  induction vs generalizing staged accepted with
  | nil =>
    cases h
    exact ⟨[], [], .nil, List.Subset.refl _, (List.append_nil _).symm, rfl, rfl⟩
  | cons v vs ih =>
    rw [stage] at h
    cases hv : StoredElement.fromValue v with
    | error e =>
      rw [hv] at h
      cases h
    | ok e =>
      obtain ⟨k, el⟩ := e
      simp only [hv] at h
      have hor : (staged.lookup k).or (stored.lookup k) = overlay staged stored k := rfl
      rw [hor] at h
      split at h
      · rename_i hwins
        obtain ⟨es, won, hes, hsub, hacc, hfold, hwon⟩ := ih h
        have hkept : Lww.mergeAt StoredElement.rank (overlay staged stored) (k, el) =
            overlay staged stored := by
          rw [Lww.mergeAt, Function.update_eq_self_iff]
          cases hc : overlay staged stored k with
          | none =>
            rw [hc] at hwins
            cases hwins
          | some c =>
            rw [hc] at hwins
            exact if_pos ((storedWins_iff c el).1 hwins)
        refine ⟨(k, el) :: es, won, .cons hv hes, List.subset_cons_of_subset _ hsub, hacc, ?_, hwon⟩
        rw [List.foldl_cons, hkept, hfold]
      · rename_i hloses
        obtain ⟨es, won, hes, hsub, hacc, hfold, hwon⟩ := ih h
        have htaken : overlay (staged.insert k el) stored =
            Lww.mergeAt StoredElement.rank (overlay staged stored) (k, el) := by
          rw [overlay_insert, Lww.mergeAt]
          congr 1
          cases hc : overlay staged stored k with
          | none => rfl
          | some c =>
            rw [hc] at hloses
            exact (if_neg fun hlt => hloses ((storedWins_iff c el).2 hlt)).symm
        refine ⟨(k, el) :: es, (k, el) :: won, .cons hv hes, List.cons_subset_cons _ hsub, ?_, ?_,
          ?_⟩
        · rw [hacc, List.append_assoc]
          rfl
        · rw [hfold, htaken, List.foldl_cons]
        · rw [hwon, htaken, List.foldl_cons]

lemma lookup_commit (staged : Map Text StoredElement) (elements : Map Text StoredElement)
    (cost : Nat) (k : Text) :
    (staged.entries.foldl commitElement (elements, cost)).1.lookup k =
      overlay staged elements k := by
  have hfst : ∀ (l : List (Sigma fun _ : Text => StoredElement)) (m : Map Text StoredElement)
      (c : Nat), (l.foldl commitElement (m, c)).1 =
        l.foldl (fun m e => m.insert e.1 e.2) m := by
    intro l
    induction l with
    | nil => intro m c; rfl
    | cons e l ih => intro m c; exact ih _ _
  rw [hfst, lookup_foldl_insert staged.nodupKeys]
  rfl

lemma applyPushWithLimit_ok (h : s.applyPushWithLimit vs a f limit = .ok (applied, s')) :
    ∃ es won, Decodes vs es ∧ won ⊆ es ∧
      applied.elements = won.map (fun e => .object e.2.value) ∧
      (fun k => s'.elements.lookup k) =
        es.foldl (Lww.mergeAt StoredElement.rank) (fun k => s.elements.lookup k) ∧
      (fun k => s'.elements.lookup k) =
        won.foldl (Lww.mergeAt StoredElement.rank) (fun k => s.elements.lookup k) := by
  simp only [applyPushWithLimit, bind, Except.bind, pure, Except.pure] at h
  split at h
  · cases h
  · rename_i staged hstage
    split at h
    · cases h
    · split at h
      · cases h
      · split at h
        · cases h
        · cases h
          obtain ⟨es, won, hes, hsub, hacc, hfold, hwon⟩ := stage_ok hstage
          have hview : (fun k => s.elements.lookup k) = overlay ∅ s.elements := by
            funext k
            rw [overlay, AList.lookup_empty, Option.none_or]
          have hcommit : (fun k => (staged.1.entries.foldl commitElement
              (s.elements, s.elementsCost)).1.lookup k) = overlay staged.1 s.elements := by
            funext k
            exact lookup_commit _ _ _ _
          refine ⟨es, won, hes, hsub, hacc, ?_, ?_⟩
          · rw [hview, ← hfold]
            exact hcommit
          · rw [hview, ← hwon]
            exact hcommit

end Scene

structure ScenePush where
  elements : List Value
  appState : Option Value
  files : Option Value
  limit : Nat

def Scene.pushed (s : Scene) (p : ScenePush) : Option Scene :=
  (s.applyPushWithLimit p.elements p.appState p.files p.limit).toOption.map Prod.snd

lemma Scene.pushed_ok (h : s.pushed p = some s') :
    ∃ es, Decodes p.elements es ∧ (fun k => s'.elements.lookup k) =
      es.foldl (Lww.mergeAt StoredElement.rank) fun k => s.elements.lookup k := by
  cases hp : s.applyPushWithLimit p.elements p.appState p.files p.limit with
  | error e =>
    rw [Scene.pushed, hp] at h
    cases h
  | ok r =>
    rw [Scene.pushed, hp] at h
    cases h
    obtain ⟨es, -, hes, -, -, hfold, -⟩ := Scene.applyPushWithLimit_ok hp
    exact ⟨es, hes, hfold⟩

lemma exec_pushed_ok (h : exec Scene.pushed s ps = some s') :
    ∃ es, Decodes (ps.flatMap ScenePush.elements) es ∧ (fun k => s'.elements.lookup k) =
      es.foldl (Lww.mergeAt StoredElement.rank) fun k => s.elements.lookup k := by
  induction ps generalizing s with
  | nil =>
    cases h
    exact ⟨[], .nil, rfl⟩
  | cons p ps ih =>
    obtain ⟨t, ht, hrest⟩ := exec_cons_eq_some.1 h
    obtain ⟨es, hes, hfold⟩ := Scene.pushed_ok ht
    obtain ⟨fs, hfs, hfold'⟩ := ih hrest
    refine ⟨es ++ fs, ?_, ?_⟩
    · rw [List.flatMap_cons]
      exact List.rel_append hes hfs
    · rw [hfold', hfold, List.foldl_append]

lemma fromValue_rightUnique :
    Relator.RightUnique fun v e => StoredElement.fromValue v = .ok e := by
  intro v e f he hf
  cases he.symm.trans hf
  rfl

lemma Decodes.perm (h : Decodes vs es) (h' : Decodes ws fs) (hp : vs.Perm ws) : es.Perm fs :=
  List.rel_perm_imp fromValue_rightUnique h h' hp

lemma Decodes.mem (h : Decodes vs es) :
    e ∈ es ↔ ∃ v ∈ vs, StoredElement.fromValue v = .ok e := by
  induction h with
  | nil => simp
  | cons hv _ ih =>
    simp only [List.mem_cons, ih, exists_eq_or_imp, hv, Except.ok.injEq]
    exact or_congr_left eq_comm

def Competes (s : Scene) (vs : List Value) (k : Text) (el : StoredElement) : Prop :=
  s.elements.lookup k = some el ∨ ∃ v ∈ vs, StoredElement.fromValue v = .ok (k, el)

/-- The element is the latest that competes for the id. -/
def Settled (s : Scene) (vs : List Value) (k : Text) (outcome : Option StoredElement) : Prop :=
  match outcome with
  | none => ∀ el, ¬ Competes s vs k el
  | some el => Competes s vs k el ∧
    ∀ other, Competes s vs k other → storedWins other el.version el.versionNonce = false

lemma settled_of_latest (h : Decodes vs es)
    (hl : Lww.Latest StoredElement.rank (s.elements.lookup k) (Lww.arrivals es k) r) :
    Settled s vs k r := by
  have hcomp : ∀ el, Competes s vs k el ↔
      s.elements.lookup k = some el ∨ el ∈ Lww.arrivals es k := by
    intro el
    rw [Competes, Lww.mem_arrivals, h.mem]
  have hnot : ∀ a b : StoredElement, a.rank ≤ b.rank →
      storedWins a b.version b.versionNonce = false := by
    intro a b hle
    rw [← Bool.not_eq_true, storedWins_iff]
    exact not_lt.2 hle
  cases hl with
  | kept hk =>
    cases hs : s.elements.lookup k with
    | none =>
      intro el hel
      rw [hcomp, hs] at hel
      rcases hel with hel | hel
      · cases hel
      · obtain ⟨x, hx, -⟩ := hk el hel
        rw [hs] at hx
        cases hx
    | some st =>
      refine ⟨.inl hs, fun other ho => hnot _ _ ?_⟩
      rw [hcomp, hs] at ho
      rcases ho with ho | ho
      · cases ho
        exact le_refl _
      · obtain ⟨x, hx, hlt⟩ := hk other ho
        rw [hs] at hx
        cases hx
        exact hlt.le
  | arrived hx hmax hs =>
    refine ⟨(hcomp _).2 (.inr hx), fun other ho => hnot _ _ ?_⟩
    rcases (hcomp other).1 ho with ho | ho
    · exact hs other ho
    · exact hmax other ho

/-- However permutations of the same elements are cut into accepted pushes, the same elements are
stored, each the latest of those competing for its id; and a batch stores what its elements store
one by one. -/
theorem scene_pushes_converge {s t u : Scene} (ht : exec Scene.pushed s ps = some t)
    (hu : exec Scene.pushed s qs = some u)
    (hperm : (ps.flatMap ScenePush.elements).Perm (qs.flatMap ScenePush.elements))
    (hdet : ∀ v ∈ ps.flatMap ScenePush.elements, ∀ w ∈ ps.flatMap ScenePush.elements,
      ∀ k a b, StoredElement.fromValue v = .ok (k, a) → StoredElement.fromValue w = .ok (k, b) →
      a.version = b.version → a.versionNonce = b.versionNonce → a = b) :
    (∀ k, t.elements.lookup k = u.elements.lookup k) ∧
    (∀ k, Settled s (ps.flatMap ScenePush.elements) k (t.elements.lookup k)) ∧
    ∀ (r b c : Scene) (p : ScenePush) (singles : List ScenePush),
      singles.map ScenePush.elements = p.elements.map (fun v => [v]) →
      r.pushed p = some b → exec Scene.pushed r singles = some c →
      ∀ k, b.elements.lookup k = c.elements.lookup k := by
  obtain ⟨es, hes, hfold⟩ := exec_pushed_ok ht
  obtain ⟨fs, hfs, hfold'⟩ := exec_pushed_ok hu
  refine ⟨?_, ?_, ?_⟩
  · intro k
    have heq : (fun k => t.elements.lookup k) = fun k => u.elements.lookup k := by
      rw [hfold, hfold']
      apply Lww.foldl_mergeAt_perm (hes.perm hfs hperm)
      intro k a b ha hb hrank
      obtain ⟨v, hv, hva⟩ := hes.mem.1 ha
      obtain ⟨w, hw, hwb⟩ := hes.mem.1 hb
      obtain ⟨hversion, hnonce⟩ := StoredElement.rank_inj.1 hrank
      exact hdet v hv w hw k a b hva hwb hversion hnonce
    exact congrFun heq k
  · intro k
    apply settled_of_latest hes
    have hk : t.elements.lookup k =
        es.foldl (Lww.mergeAt StoredElement.rank) (fun k => s.elements.lookup k) k :=
      congrFun hfold k
    rw [hk]
    exact Lww.latest_mergeAt es (fun k => s.elements.lookup k) k
  · intro r b c p singles hsingles hb hc k
    have hflat : singles.flatMap ScenePush.elements = p.elements := by
      rw [List.flatMap_def, hsingles, ← List.flatMap_def, List.flatMap_singleton']
    obtain ⟨gs, hgs, hfoldb⟩ := Scene.pushed_ok hb
    obtain ⟨gs', hgs', hfoldc⟩ := exec_pushed_ok hc
    rw [hflat] at hgs'
    cases List.right_unique_forall₂' fromValue_rightUnique hgs hgs'
    exact congrFun (hfoldb.trans hfoldc.symm) k

def rectangle (name : String) (version versionNonce : Nat) : Value :=
  .object [("id".toList, .string name.toList), ("version".toList, .ofNat version),
    ("versionNonce".toList, .ofNat versionNonce)]

def pushOf (elements : List Value) : ScenePush := ⟨elements, none, none, textWriteLimit⟩

/-- Two cuts of three elements, two of them competing for one id. -/
theorem scene_pushes_converge_tied :
    let ps := [pushOf [rectangle "x" 1 5, rectangle "y" 1 0], pushOf [rectangle "x" 1 3]]
    let qs := [pushOf [rectangle "x" 1 3], pushOf [rectangle "y" 1 0, rectangle "x" 1 5]]
    ∃ t u, exec Scene.pushed .empty ps = some t ∧ exec Scene.pushed .empty qs = some u ∧
      (t.elements.lookup "x".toList).map StoredElement.versionNonce = some 3 ∧
      ∀ k, t.elements.lookup k = u.elements.lookup k := by
  intro ps qs
  have ht : (exec Scene.pushed .empty ps).isSome = true := by decide
  have hu : (exec Scene.pushed .empty qs).isSome = true := by decide
  have hcheck : ∀ v ∈ ps.flatMap ScenePush.elements, ∀ w ∈ ps.flatMap ScenePush.elements,
      (match StoredElement.fromValue v, StoredElement.fromValue w with
      | .ok (k, a), .ok (l, b) => decide
        (k = l → a.version = b.version → a.versionNonce = b.versionNonce → a = b)
      | _, _ => true) = true := by decide
  refine ⟨_, _, (Option.some_get ht).symm, (Option.some_get hu).symm, by decide +revert, ?_⟩
  apply (scene_pushes_converge (Option.some_get ht).symm (Option.some_get hu).symm
    (by decide) _).1
  intro v hv w hw k a b ha hb
  have h := hcheck v hv w hw
  rw [ha, hb] at h
  exact of_decide_eq_true h rfl

end Chan
