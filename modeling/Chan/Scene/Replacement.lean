import Chan.Scene.Canvas

namespace Chan
open Utf AssocMap Lww List

variable {s : Scene}

def StoredElement.Normal (k : Text) (el : StoredElement) : Prop :=
  fromValue (.object el.value) = .ok (k, el)

lemma stamp_stamp : stamp v n d (stamp v n d o) = stamp v n d o := by
  have hv : KeyedList.Placed "version".toList (.ofNat v) (stamp v n d o) :=
    ((KeyedList.placed_insert_self _ _ o).insert (by decide) _).insert (by decide) _
  have hn : KeyedList.Placed "versionNonce".toList (.ofNat n) (stamp v n d o) :=
    (KeyedList.placed_insert_self _ _ _).insert (by decide) _
  have hd : KeyedList.Placed "isDeleted".toList (.bool d) (stamp v n d o) :=
    KeyedList.placed_insert_self _ _ _
  rw [stamp, hv, hn, hd]

lemma find_stamp (hv : k ≠ "version".toList) (hn : k ≠ "versionNonce".toList)
    (hd : k ≠ "isDeleted".toList) (v n : Nat) (d : Bool) (o : Fields) :
    KeyedList.find k (stamp v n d o) = KeyedList.find k o := by
  rw [stamp, KeyedList.find_insert_ne hd, KeyedList.find_insert_ne hn,
    KeyedList.find_insert_ne hv]

lemma fromValue_stamp (hk : (KeyedList.find "id".toList o).bind Value.asStr = some k)
    (hv : 1 ≤ v) :
    StoredElement.fromValue (.object (stamp v n d o)) =
      .ok (k, ⟨stamp v n d o, v, n, (KeyedList.find "index".toList o).bind Value.asStr, d,
        valueCost (.object (stamp v n d o))⟩) := by
  have hversion : KeyedList.find "version".toList (stamp v n d o) = some (.ofNat v) := by
    rw [stamp, KeyedList.find_insert_ne (by decide), KeyedList.find_insert_ne (by decide),
      KeyedList.find_insert_self]
  have hnonce : KeyedList.find "versionNonce".toList (stamp v n d o) = some (.ofNat n) := by
    rw [stamp, KeyedList.find_insert_ne (by decide), KeyedList.find_insert_self]
  have hdeleted : KeyedList.find "isDeleted".toList (stamp v n d o) = some (.bool d) := by
    rw [stamp, KeyedList.find_insert_self]
  have hid := find_stamp (k := "id".toList) (by decide) (by decide) (by decide) v n d o
  have hindex := find_stamp (k := "index".toList) (by decide) (by decide) (by decide) v n d o
  simp only [StoredElement.fromValue, hid, hk, hversion, hnonce, hdeleted, hindex,
    Option.bind_some, Value.asU64, Value.asBool, Value.ofNat, Option.getD_some, max_eq_left hv,
    stamp_stamp]

lemma fromValue_ok (h : StoredElement.fromValue v = .ok (k, el)) :
    ∃ o, (KeyedList.find "id".toList o).bind Value.asStr = some k ∧ 1 ≤ el.version ∧
      el = ⟨stamp el.version el.versionNonce el.isDeleted o, el.version, el.versionNonce,
        (KeyedList.find "index".toList o).bind Value.asStr, el.isDeleted,
        valueCost (.object (stamp el.version el.versionNonce el.isDeleted o))⟩ := by
  cases v with
  | object o =>
    simp only [StoredElement.fromValue] at h
    split at h
    · cases h
    · rename_i hk
      cases h
      exact ⟨o, hk, Nat.le_max_right _ _, rfl⟩
  | _ => cases h

namespace StoredElement

lemma normal_of_fromValue (h : fromValue v = .ok (k, el)) : Normal k el := by
  obtain ⟨o, hk, hv, hel⟩ := fromValue_ok h
  rw [hel]
  exact fromValue_stamp hk hv

lemma Normal.restamp (h : Normal k el) (hv : 1 ≤ v) (n : Nat) (d : Bool) :
    Normal k (el.restamp v n d) := by
  have hid : (KeyedList.find "id".toList el.value).bind Value.asStr = some k ∧
      el.index = (KeyedList.find "index".toList el.value).bind Value.asStr := by
    obtain ⟨o, hk, -, hel⟩ := fromValue_ok h
    rw [hel]
    simp only
    rw [find_stamp (by decide) (by decide) (by decide),
      find_stamp (by decide) (by decide) (by decide)]
    exact ⟨hk, rfl⟩
  rw [Normal, StoredElement.restamp, hid.2]
  exact fromValue_stamp hid.1 hv

end StoredElement

@[simp] lemma decoded_nil : decoded [] = [] := rfl

lemma decoded_append (vs ws : List Value) : decoded (vs ++ ws) = decoded vs ++ decoded ws :=
  filterMap_append

lemma Decodes.decoded_eq (h : Decodes vs es) : decoded vs = es := by
  induction h with
  | nil => rfl
  | cons hv _ ih =>
    rw [decoded, filterMap_cons, hv]
    exact congrArg _ ih

lemma decoded_objects (h : ∀ e ∈ es, StoredElement.Normal e.1 e.2) :
    decoded (es.map fun e => .object e.2.value) = es := by
  apply Decodes.decoded_eq
  induction es with
  | nil => exact .nil
  | cons e es ih =>
    exact .cons (h e mem_cons_self) (ih fun e he => h e (mem_cons_of_mem _ he))

@[simp] lemma arrivals_append [DecidableEq ι] (es fs : List (ι × β)) (i : ι) :
    arrivals (es ++ fs) i = arrivals es i ++ arrivals fs i := by
  simp [arrivals]

def level (es : List (Text × StoredElement)) (k : Text) : WithBot (Nat ×ₗ Natᵒᵈ) :=
  peak StoredElement.rank (arrivals es k)

@[simp] lemma level_nil : level [] k = ⊥ := rfl

@[simp] lemma level_append : level (es ++ fs) k = max (level es k) (level fs k) := by
  rw [level, arrivals_append, peak_append]
  rfl

def height (copy : Text → Option StoredElement) (k : Text) : WithBot (Nat ×ₗ Natᵒᵈ) :=
  peak StoredElement.rank (copy k).toList

lemma height_foldl_mergeAt : height (es.foldl (mergeAt StoredElement.rank) m) k =
      max (height m k) (level es k) := by
  rw [height, foldl_mergeAt, peak_foldl_merge]
  rfl

lemma le_level (h : (k, el) ∈ es) : (el.rank : WithBot (Nat ×ₗ Natᵒᵈ)) ≤ level es k :=
  le_peak (mem_arrivals.2 h)

namespace Scene

def Normal (s : Scene) : Prop :=
  ∀ k el, s.elements.lookup k = some el → StoredElement.Normal k el

def copy (s : Scene) (k : Text) : Option StoredElement := s.elements.lookup k

lemma normal_parseElements (h : parseElements vs acc = .ok acc')
    (hacc : ∀ k el, acc.1.lookup k = some el → StoredElement.Normal k el) :
    ∀ k el, acc'.1.lookup k = some el → StoredElement.Normal k el := by
  induction vs generalizing acc with
  | nil =>
    cases h
    exact hacc
  | cons v vs ih =>
    rw [parseElements] at h
    cases hv : StoredElement.fromValue v with
    | error e =>
      rw [hv] at h
      cases h
    | ok e =>
      grind [lookup_insert_eq_some, StoredElement.normal_of_fromValue]

lemma normal_parse (h : parse fromStr text = .ok s) : s.Normal := by
  have hnone : ∀ k el, (∅ : Map Text StoredElement).lookup k = some el →
      StoredElement.Normal k el := by
    intro k el hel
    rw [AList.lookup_empty] at hel
    cases hel
  rw [parse] at h
  split at h
  · cases h
    exact hnone
  · split at h
    · cases h
    · simp only [bind, Except.bind, pure, Except.pure] at h
      split at h
      · cases h
      · split at h
        · cases h
        · split at h
          · cases h
          · split at h
            · cases h
            · rename_i hparse
              cases h
              exact normal_parseElements hparse hnone
    · cases h

lemma mem_entries : (k, el) ∈ s.entries ↔ s.elements.lookup k = some el := by
  rw [entries, mem_map]
  constructor
  · rintro ⟨e, he, heq⟩
    cases heq
    exact AList.mem_lookup_iff.2 he
  · intro h
    exact ⟨⟨k, el⟩, AList.mem_lookup_iff.1 h, rfl⟩

lemma ordered_perm : s.ordered.Perm s.entries := perm_insertionSort _ _

lemma mem_ordered : (k, el) ∈ s.ordered ↔ s.elements.lookup k = some el :=
  s.ordered_perm.mem_iff.trans mem_entries

lemma nodup_ordered (s : Scene) : (s.ordered.map Prod.fst).Nodup := by
  have hkeys : s.entries.map Prod.fst = s.elements.keys := by
    rw [entries, map_map]
    rfl
  rw [(s.ordered_perm.map Prod.fst).nodup_iff, hkeys]
  exact s.elements.nodupKeys

/-- What a replacement makes of one id: it keeps it and sends nothing, or puts a later element
there and sends that. -/
inductive Replaces (k : Text) (old : Option StoredElement) :
    Option StoredElement → List StoredElement → Prop
  | keep : Replaces k old old []
  | put (hn : StoredElement.Normal k el) (hlt : ∀ x, old = some x → x.rank < el.rank) :
      Replaces k old (some el) [el]

lemma Replaces.height_eq (h : Replaces k old new sent) :
    peak StoredElement.rank new.toList =
      max (peak StoredElement.rank old.toList) (peak StoredElement.rank sent) := by
  cases h with
  | keep => rw [peak_nil, max_bot_right]
  | @put el _ hlt =>
    symm
    apply max_eq_right
    apply peak_le
    intro x hx
    exact WithBot.coe_le_coe.2 (hlt x (Option.mem_toList.1 hx)).le

def Settles (stored : Map Text StoredElement) (f : Replacing → Text × StoredElement → Replacing)
    (e : Text × StoredElement) : Prop :=
  ∀ r, ∃ new sent, Replaces e.1 (stored.lookup e.1) (some new) sent ∧
    (f r e).next = r.next.insert e.1 new ∧
    (f r e).changed = r.changed ++ sent.map fun el => .object el.value

lemma rank_lt_of_version_lt {a b : StoredElement} (h : a.version < b.version) :
    a.rank < b.rank := by
  rw [StoredElement.rank, StoredElement.rank, Prod.Lex.toLex_lt_toLex]
  exact .inl h

lemma lt_saturatingSucc (h : n < u64Max) : n < saturatingSucc n := by
  rw [saturatingSucc]
  omega

lemma settles_adoptIncoming
    (hn : StoredElement.Normal k el) (hmax : ∀ old, stored.lookup k = some old →
      old.version < u64Max) :
    Settles stored (adoptIncoming stored nonces) (k, el) := by
  intro r
  simp only [adoptIncoming]
  cases hold : stored.lookup k with
  | none => exact ⟨el, [el], .put hn nofun, rfl, rfl⟩
  | some old =>
    simp only
    split
    · exact ⟨old, [], .keep, rfl, (append_nil _).symm⟩
    · have hlt : old.version < max (saturatingSucc old.version) el.version :=
        Nat.lt_of_lt_of_le (lt_saturatingSucc (hmax old hold)) (Nat.le_max_left _ _)
      refine ⟨_, [_], .put (hn.restamp (Nat.lt_of_le_of_lt (Nat.zero_le _) hlt) _ _) ?_, rfl, rfl⟩
      intro x hx
      cases hx
      exact rank_lt_of_version_lt hlt

lemma settles_buryAbsent {stored incoming : Map Text StoredElement}
    (hn : StoredElement.Normal k el) (hel : stored.lookup k = some el)
    (hmax : el.version < u64Max) (habsent : incoming.lookup k = none) :
    Settles stored (buryAbsent incoming nonces) (k, el) := by
  intro r
  simp only [buryAbsent, habsent, Option.isSome_none, Bool.false_eq_true, if_false, hel]
  split
  · exact ⟨el, [], .keep, rfl, (append_nil _).symm⟩
  · have hlt := lt_saturatingSucc hmax
    refine ⟨_, [_], .put (hn.restamp (Nat.lt_of_le_of_lt (Nat.zero_le _) hlt) _ _) ?_, rfl, rfl⟩
    intro x hx
    cases hx
    exact rank_lt_of_version_lt hlt

def standing (r : Replacing) (k : Text) : Option StoredElement × List StoredElement :=
  (r.next.lookup k, arrivals (decoded r.changed) k)

lemma Replaces.normal_sent (h : Replaces k old new sent) :
    ∀ el ∈ sent, StoredElement.Normal k el := by
  cases h with
  | keep => nofun
  | put hn =>
    intro el hel
    cases List.mem_singleton.1 hel
    exact hn

lemma Replaces.held (h : Replaces k old new sent) (hel : el ∈ sent) : new = some el := by
  cases h with
  | keep => cases hel
  | put => rw [List.mem_singleton.1 hel]

lemma Replaces.normal (h : Replaces k old new sent)
    (hold : ∀ x, old = some x → StoredElement.Normal k x) (hel : new = some el) :
    StoredElement.Normal k el := by
  cases h with
  | keep => exact hold el hel
  | put hn =>
    cases hel
    exact hn

lemma arrivals_decoded_objects (h : ∀ el ∈ sent, StoredElement.Normal k el) (l : Text) :
    arrivals (decoded (sent.map fun el => .object el.value)) l = if k = l then sent else [] := by
  have hmap : (sent.map fun el => Value.object el.value) =
      (sent.map fun el => (k, el)).map fun e => .object e.2.value := by
    rw [map_map]
    rfl
  have hnormal : ∀ e ∈ sent.map fun el => (k, el), StoredElement.Normal e.1 e.2 := by
    intro e he
    obtain ⟨el, hel, rfl⟩ := List.mem_map.1 he
    exact h el hel
  rw [hmap, decoded_objects hnormal]
  by_cases hl : k = l
  · simp [arrivals, hl, filter_map, Function.comp_def]
  · simp [arrivals, hl, filter_map, Function.comp_def]

lemma standing_settles
    (h : Settles stored f e) (r : Replacing) :
    (∀ k, k ≠ e.1 → standing (f r e) k = standing r k) ∧
      ∃ new sent, Replaces e.1 (stored.lookup e.1) (some new) sent ∧
        standing (f r e) e.1 = (some new, (standing r e.1).2 ++ sent) := by
  obtain ⟨new, sent, hr, hnext, hchanged⟩ := h r
  have harr := arrivals_decoded_objects hr.normal_sent
  constructor
  · intro k hk
    rw [standing, standing, hnext, hchanged, AList.lookup_insert_ne hk, decoded_append,
      arrivals_append, harr, if_neg (Ne.symm hk), append_nil]
  · refine ⟨new, sent, hr, ?_⟩
    rw [standing, standing, hnext, hchanged, AList.lookup_insert, decoded_append,
      arrivals_append, harr, if_pos rfl]

lemma foldl_settles {l : List (Text × StoredElement)}
    (sel : Text → Prop)
    (hsel : ∀ e ∈ l, sel e.1 → Settles stored f e) (hskip : ∀ r e, ¬ sel e.1 → f r e = r)
    (hl : (l.map Prod.fst).Nodup) (r : Replacing) (k : Text) :
    (k ∈ l.map Prod.fst → sel k → ∃ new sent, Replaces k (stored.lookup k) (some new) sent ∧
      standing (l.foldl f r) k = (some new, (standing r k).2 ++ sent)) ∧
    (¬ (k ∈ l.map Prod.fst ∧ sel k) → standing (l.foldl f r) k = standing r k) := by
  induction l generalizing r with
  | nil =>
    constructor
    · nofun
    · intro _
      rfl
  | cons e l ih =>
    rw [map_cons, nodup_cons] at hl
    obtain ⟨ihin, ihout⟩ := ih (fun e he => hsel e (mem_cons_of_mem _ he)) hl.2 (f r e)
    have hstep : k ≠ e.1 → standing (f r e) k = standing r k := by
      intro hk
      by_cases hs : sel e.1
      · exact (standing_settles (hsel e mem_cons_self hs) r).1 k hk
      · rw [hskip r e hs]
    rw [foldl_cons, map_cons]
    constructor
    · intro hmem hs
      by_cases hk : k = e.1
      · subst hk
        rw [ihout fun h => hl.1 h.1]
        exact (standing_settles (hsel e mem_cons_self hs) r).2
      · obtain ⟨new, sent, hr, hat⟩ := ihin ((List.mem_cons.1 hmem).resolve_left hk) hs
        exact ⟨new, sent, hr, by rw [hat, hstep hk]⟩
    · grind

lemma mem_keys_ordered : k ∈ s.ordered.map Prod.fst ↔ ∃ el, s.elements.lookup k = some el := by
  rw [mem_map]
  constructor
  · rintro ⟨e, he, rfl⟩
    exact ⟨e.2, mem_ordered.1 he⟩
  · rintro ⟨el, hel⟩
    exact ⟨(k, el), mem_ordered.2 hel, rfl⟩

lemma replaces_passes {s incoming : Scene} (hs : s.Normal) (hi : incoming.Normal)
    (hmax : ∀ k el, s.elements.lookup k = some el → el.version < u64Max) (nonces : Nat → Nat)
    (k : Text) :
    Replaces k (s.elements.lookup k)
      (standing (s.ordered.foldl (buryAbsent incoming.elements nonces)
        (incoming.ordered.foldl (adoptIncoming s.elements nonces) ⟨∅, [], 0⟩)) k).1
      (standing (s.ordered.foldl (buryAbsent incoming.elements nonces)
        (incoming.ordered.foldl (adoptIncoming s.elements nonces) ⟨∅, [], 0⟩)) k).2 := by
  have hadopt : ∀ e ∈ incoming.ordered, True →
      Settles s.elements (adoptIncoming s.elements nonces) e := fun e he _ =>
    settles_adoptIncoming (hi _ _ (mem_ordered.1 he)) (hmax e.1)
  have hbury : ∀ e ∈ s.ordered, incoming.elements.lookup e.1 = none →
      Settles s.elements (buryAbsent incoming.elements nonces) e := fun e he ha =>
    settles_buryAbsent (hs _ _ (mem_ordered.1 he)) (mem_ordered.1 he)
      (hmax _ _ (mem_ordered.1 he)) ha
  have hskip : ∀ r (e : Text × StoredElement), ¬ incoming.elements.lookup e.1 = none →
      buryAbsent incoming.elements nonces r e = r := by
    intro r e hn
    rw [buryAbsent, if_pos (Option.isSome_iff_ne_none.2 hn)]
  obtain ⟨hadopted, hnew⟩ := foldl_settles (fun _ => True) hadopt
    (fun _ _ hn => absurd trivial hn) incoming.nodup_ordered ⟨∅, [], 0⟩ k
  obtain ⟨hburied, hkept⟩ := foldl_settles
    (fun k => incoming.elements.lookup k = none) hbury hskip s.nodup_ordered
    (incoming.ordered.foldl (adoptIncoming s.elements nonces) ⟨∅, [], 0⟩) k
  cases hin : incoming.elements.lookup k with
  | some el =>
    obtain ⟨new, sent, hr, hat⟩ := hadopted (mem_keys_ordered.2 ⟨el, hin⟩) trivial
    rw [hkept fun h => (Option.some_ne_none el) (hin.symm.trans h.2), hat]
    exact hr
  | none =>
    have hfirst := hnew fun h => by
      obtain ⟨el, hel⟩ := mem_keys_ordered.1 h.1
      rw [hin] at hel
      cases hel
    cases hst : s.elements.lookup k with
    | some el =>
      obtain ⟨new, sent, hr, hat⟩ := hburied (mem_keys_ordered.2 ⟨el, hst⟩) hin
      rw [hst] at hr
      rw [hat, hfirst]
      exact hr
    | none =>
      have hsecond := hkept fun h => by
        obtain ⟨el, hel⟩ := mem_keys_ordered.1 h.1
        rw [hst] at hel
        cases hel
      rw [hsecond, hfirst]
      exact .keep

lemma applyReplaceWithLimit_ok (hs : s.Normal)
    (hmax : ∀ k el, s.elements.lookup k = some el → el.version < u64Max)
    (h : s.applyReplaceWithLimit fromStr text nonces limit = .ok (applied, s')) (k : Text) :
    Replaces k (s.elements.lookup k) (s'.elements.lookup k)
      (arrivals (decoded applied.elements) k) := by
  simp only [applyReplaceWithLimit, bind, Except.bind, pure, Except.pure] at h
  split at h
  · cases h
  · rename_i incoming hparse
    have hpasses := replaces_passes hs (normal_parse hparse) hmax nonces k
    split_ifs at h
    all_goals
      cases h
      exact hpasses

end Scene

end Chan
