import Chan.Lib.Inverse

namespace Chan.Proxy
open AssocMap

variable {s : ReplayState}

abbrev Uuid := Nat

def maxEntriesPerSubject : Nat := 64

inductive ConsumeError
  | replay
  | atCapacity
  deriving DecidableEq

structure ReplayEntry where
  expiresAt : Int
  subjectUserId : Uuid
  deriving DecidableEq

/-- The consumed credentials. The heap of their expiries is held in its order, earliest first. -/
structure ReplayState where
  entries : Map Uuid ReplayEntry
  expiries : List (Int ×ₗ Uuid)
  subjectCounts : Map Uuid Nat

structure Consume where
  jti : Uuid
  subjectUserId : Uuid
  expiresAt : Int
  now : Int

/-- One less, wrapping around below zero, and nothing at zero. -/
def decrementCount (key : Uuid) (counts : Map Uuid Nat) : Map Uuid Nat :=
  match counts.lookup key with
  | none => counts
  | some count =>
    let count := if count = 0 then 2 ^ 64 - 1 else count - 1
    if count = 0 then counts.erase key else counts.insert key count

namespace ReplayState

def new : ReplayState := ⟨∅, [], ∅⟩

def expire (expiry : Int ×ₗ Uuid) (s : ReplayState) : ReplayState :=
  let jti := (ofLex expiry).2
  match s.entries.lookup jti with
  | none => s
  | some entry =>
    if entry.expiresAt = (ofLex expiry).1 then
      { s with
        entries := s.entries.erase jti
        subjectCounts := decrementCount entry.subjectUserId s.subjectCounts }
    else s

def pruneLoop (now : Int) : List (Int ×ₗ Uuid) → ReplayState → ReplayState
  | [], s => s
  | expiry :: rest, s =>
    if now ≤ (ofLex expiry).1 then s
    else pruneLoop now rest ({ s with expiries := rest }.expire expiry)

def pruneExpired (now : Int) (s : ReplayState) : ReplayState := pruneLoop now s.expiries s

def count (s : ReplayState) (subject : Uuid) : Nat := (s.subjectCounts.lookup subject).getD 0

def accept (c : Consume) (s : ReplayState) : ReplayState where
  entries := s.entries.insert c.jti ⟨c.expiresAt, c.subjectUserId⟩
  expiries := s.expiries.orderedInsert (· ≤ ·) (toLex (c.expiresAt, c.jti))
  subjectCounts := s.subjectCounts.insert c.subjectUserId (s.count c.subjectUserId + 1)

def live (s : ReplayState) (subject : Uuid) : Nat :=
  countWhere (fun entry => decide (entry.subjectUserId = subject)) s.entries

/-- The counters are those of the entries, and every entry is on the heap. -/
structure Exact (s : ReplayState) : Prop where
  counts : ∀ u, s.subjectCounts.lookup u = if s.live u = 0 then none else some (s.live u)
  queued : ∀ j e, s.entries.lookup j = some e → toLex (e.expiresAt, j) ∈ s.expiries
  sorted : s.expiries.Pairwise (· ≤ ·)

lemma exact_new : new.Exact := ⟨fun _ => rfl, fun _ _ h => (nomatch h), .nil⟩

lemma live_erase (h : s.entries.lookup j = some e) :
    s.live u = (if e.subjectUserId = u then 1 else 0) +
      countWhere (fun entry => decide (entry.subjectUserId = u)) (s.entries.erase j) := by
  rw [live, countWhere_erase _ h]
  simp

/-- A subject with an entry has one less; its counter does not wrap around. -/
lemma lookup_decrementCount (h : counts.lookup key = some (n + 1)) :
    (decrementCount key counts).lookup u =
      if u = key then (if n = 0 then none else some n) else counts.lookup u := by
  rw [decrementCount, h]
  simp only [Nat.add_one_ne_zero, if_false, Nat.add_sub_cancel]
  by_cases hu : u = key
  · subst hu
    rw [if_pos rfl]
    split
    · exact AList.lookup_erase ..
    · exact AList.lookup_insert ..
  · rw [if_neg hu]
    split
    · exact AList.lookup_erase_ne hu
    · exact AList.lookup_insert_ne hu

lemma tallies_decrementCount [DecidableEq α] {m : Map α β}
    (h : Tallies key m counts) (hb : m.lookup a = some b) :
    Tallies key (m.erase a) (decrementCount (key b) counts) := by
  have hcount := countWhere_erase (fun x => decide (key x = key b)) hb
  have hlookup := h (key b)
  rw [if_pos (decide_eq_true rfl), Nat.add_comm] at hcount
  rw [hcount, if_neg (Nat.succ_ne_zero _)] at hlookup
  refine h.erase hb fun u => ?_
  rw [lookup_decrementCount hlookup]
  grind

lemma toLex_eq_iff :
    toLex (t, j) = expiry ↔ t = (ofLex expiry).1 ∧ j = (ofLex expiry).2 :=
  toLex.eq_symm_apply.symm.trans Prod.ext_iff

lemma expire_cases (s : ReplayState) :
    (s.expire expiry = s ∧ ∀ e, s.entries.lookup (ofLex expiry).2 = some e →
      e.expiresAt ≠ (ofLex expiry).1) ∨
    ∃ e, s.entries.lookup (ofLex expiry).2 = some e ∧ e.expiresAt = (ofLex expiry).1 ∧
      s.expire expiry = { s with
        entries := s.entries.erase (ofLex expiry).2
        subjectCounts := decrementCount e.subjectUserId s.subjectCounts } := by
  grind [expire]

lemma lookup_expire : (s.expire expiry).entries.lookup j = some e ↔
    s.entries.lookup j = some e ∧ toLex (e.expiresAt, j) ≠ expiry := by
  rw [Ne, toLex_eq_iff]
  rcases s.expire_cases with ⟨heq, hother⟩ | ⟨entry, hentry, hexpires, heq⟩
  · rw [heq]
    refine ⟨fun he => ⟨he, ?_⟩, And.left⟩
    rintro ⟨ht, rfl⟩
    exact hother e he ht
  · grind

lemma expiries_expire : (s.expire expiry).expiries = s.expiries := by
  rcases s.expire_cases with ⟨heq, _⟩ | ⟨_, _, _, heq⟩ <;> rw [heq]

lemma tallies_expire (h : Tallies ReplayEntry.subjectUserId s.entries s.subjectCounts) :
    Tallies ReplayEntry.subjectUserId (s.expire expiry).entries
    (s.expire expiry).subjectCounts := by
  rcases s.expire_cases with ⟨heq, _⟩ | ⟨entry, hentry, _, heq⟩
  · rwa [heq]
  · rw [heq]
    exact tallies_decrementCount h hentry

lemma Exact.expire (h : s.Exact) (hs : s.expiries = expiry :: rest) :
    ({ s with expiries := rest }.expire expiry).Exact where
  counts := tallies_expire (s := { s with expiries := rest }) h.counts
  queued j e he := by
    obtain ⟨he, hne⟩ := lookup_expire.1 he
    rw [expiries_expire]
    have hmem := h.queued j e he
    rw [hs] at hmem
    exact (List.mem_cons.1 hmem).resolve_left hne
  sorted := by
    rw [expiries_expire]
    exact (hs ▸ h.sorted).of_cons

lemma Exact.pruneLoop (h : s.Exact) (hs : s.expiries = heap) :
    (s.pruneLoop now heap).Exact ∧ ∀ j e,
      (s.pruneLoop now heap).entries.lookup j = some e ↔
        s.entries.lookup j = some e ∧ now ≤ e.expiresAt := by
  induction heap generalizing s with
  | nil =>
    refine ⟨h, fun j e => ⟨fun he => ?_, And.left⟩⟩
    cases hs ▸ h.queued j e he
  | cons expiry rest ih =>
    unfold ReplayState.pruneLoop
    split
    · rename_i hnow
      refine ⟨h, fun j e => ⟨fun he => ⟨he, ?_⟩, And.left⟩⟩
      -- The heap is in order: what is queued behind the earliest expiry does not come before it.
      have hmem := h.queued j e he
      have hsorted := h.sorted
      rw [hs] at hmem hsorted
      rcases List.mem_cons.1 hmem with heq | hmem
      · rwa [← heq] at hnow
      · exact hnow.trans (Prod.Lex.monotone_fst _ _ (List.rel_of_pairwise_cons hsorted hmem))
    · rename_i hnow
      obtain ⟨hexact, hlookup⟩ := ih (h.expire hs) (expiries_expire ..)
      refine ⟨hexact, fun j e => (hlookup j e).trans ?_⟩
      rw [lookup_expire, and_assoc]
      refine and_congr_right fun he => ⟨And.right, fun hle => ⟨?_, hle⟩⟩
      rintro rfl
      exact hnow hle

lemma Exact.pruneExpired (h : s.Exact) (now : Int) :
    (s.pruneExpired now).Exact ∧ ∀ j e, (s.pruneExpired now).entries.lookup j = some e ↔
      s.entries.lookup j = some e ∧ now ≤ e.expiresAt := h.pruneLoop rfl

lemma Exact.count_eq (h : s.Exact) : s.count u = s.live u := by
  rw [count, h.counts]
  split
  · rename_i hzero
    rw [hzero]
    rfl
  · rfl

lemma live_accept (hnone : s.entries.lookup c.jti = none) :
    (s.accept c).live u = (if c.subjectUserId = u then 1 else 0) + s.live u := by
  rw [live, accept, countWhere_insert _ hnone]
  simp only [decide_eq_true_eq]
  rfl

lemma Exact.accept (h : s.Exact) (hnone : s.entries.lookup c.jti = none) :
    (s.accept c).Exact where
  counts := Tallies.insert h.counts hnone ⟨c.expiresAt, c.subjectUserId⟩
  queued j e he := by
    refine (List.mem_orderedInsert _).2 ?_
    rcases lookup_insert_eq_some he with ⟨rfl, rfl⟩ | ⟨_, he⟩
    · exact .inl rfl
    · exact .inr (h.queued j e he)
  sorted := h.sorted.orderedInsert _ _

end ReplayState

structure EntryReplayCache where
  maxEntries : Nat
  maxEntriesPerSubject : Nat

namespace EntryReplayCache

def new (maxEntries : Nat) : EntryReplayCache :=
  ⟨maxEntries, min maxEntries Proxy.maxEntriesPerSubject⟩

/-- Consume a credential until it expires. Capacity pressure evicts no unexpired one. -/
def consume (cache : EntryReplayCache) (s : ReplayState) (c : Consume) :
    ReplayState × Except ConsumeError Unit :=
  let s := s.pruneExpired c.now
  if (s.entries.lookup c.jti).isSome then (s, .error .replay)
  else if cache.maxEntries ≤ s.entries.entries.length then (s, .error .atCapacity)
  else if cache.maxEntriesPerSubject ≤ s.count c.subjectUserId then (s, .error .atCapacity)
  else (s.accept c, .ok ())

def run (cache : EntryReplayCache) (cs : List Consume) (s : ReplayState) : ReplayState :=
  cs.foldl (fun s c => (cache.consume s c).1) s

structure Fits (cache : EntryReplayCache) (s : ReplayState) : Prop where
  total : s.entries.entries.length ≤ cache.maxEntries
  perSubject : ∀ u, s.live u ≤ cache.maxEntriesPerSubject

lemma Fits.expire (h : Fits cache s) (expiry : Int ×ₗ Uuid) : Fits cache (s.expire expiry) := by
  rcases s.expire_cases with ⟨heq, _⟩ | ⟨entry, hentry, _, heq⟩
  · rwa [heq]
  · rw [heq]
    refine ⟨(List.kerase_sublist ..).length_le.trans h.total, fun u => ?_⟩
    refine Nat.le_trans ?_ (h.perSubject u)
    rw [ReplayState.live_erase hentry]
    exact Nat.le_add_left ..

lemma Fits.pruneLoop (h : Fits cache s) (heap : List (Int ×ₗ Uuid)) :
    Fits cache (s.pruneLoop now heap) := by
  induction heap generalizing s with
  | nil => exact h
  | cons expiry rest ih =>
    unfold ReplayState.pruneLoop
    split
    · exact h
    · exact ih (Fits.expire (s := { s with expiries := rest }) ⟨h.total, h.perSubject⟩ expiry)

lemma consume_cases (cache : EntryReplayCache) :
    (cache.consume s c = (s.pruneExpired c.now, .error .replay) ∧
      ((s.pruneExpired c.now).entries.lookup c.jti).isSome) ∨
    cache.consume s c = (s.pruneExpired c.now, .error .atCapacity) ∨
    (cache.consume s c = ((s.pruneExpired c.now).accept c, .ok ()) ∧
      (s.pruneExpired c.now).entries.lookup c.jti = none ∧
      (s.pruneExpired c.now).entries.entries.length < cache.maxEntries ∧
      (s.pruneExpired c.now).count c.subjectUserId < cache.maxEntriesPerSubject) := by
  grind [consume, Option.not_isSome_iff_eq_none]

lemma Fits.accept (h : Fits cache s) (hs : s.Exact) (hnone : s.entries.lookup c.jti = none)
    (htotal : s.entries.entries.length < cache.maxEntries)
    (hcount : s.count c.subjectUserId < cache.maxEntriesPerSubject) : Fits cache (s.accept c) := by
  constructor
  · show (s.entries.erase c.jti).entries.length + 1 ≤ cache.maxEntries
    rw [erase_of_lookup_none hnone]
    exact htotal
  · intro u
    rw [ReplayState.live_accept hnone]
    split
    · rename_i hu
      rw [hs.count_eq, hu] at hcount
      exact (Nat.add_comm ..).trans_le hcount
    · exact (Nat.zero_add _).trans_le (h.perSubject u)

structure Valid (cache : EntryReplayCache) (s : ReplayState) : Prop where
  indexed : s.Exact
  fits : Fits cache s

lemma Valid.consume (h : Valid cache s) (c : Consume) : Valid cache (cache.consume s c).1 := by
  obtain ⟨hexact, _⟩ := h.indexed.pruneExpired c.now
  have hfits : Fits cache (s.pruneExpired c.now) := h.fits.pruneLoop _
  rcases cache.consume_cases with ⟨heq, _⟩ | heq | ⟨heq, hnone, htotal, hcount⟩ <;> rw [heq]
  · exact ⟨hexact, hfits⟩
  · exact ⟨hexact, hfits⟩
  · exact ⟨hexact.accept hnone, hfits.accept hexact hnone htotal hcount⟩

lemma Valid.run (h : Valid cache s) (cs : List Consume) : Valid cache (cache.run cs s) := by
  induction cs generalizing s with
  | nil => exact h
  | cons c cs ih => exact ih (h.consume c)

lemma valid_new : Valid cache .new :=
  ⟨ReplayState.exact_new, ⟨Nat.zero_le _, fun _ => Nat.zero_le _⟩⟩

lemma held_consume (h : s.Exact) (hheld : s.entries.lookup j = some e)
    (hc : c.now ≤ e.expiresAt) :
    ((cache : EntryReplayCache).consume s c).1.entries.lookup j = some e := by
  have hpruned := ((h.pruneExpired c.now).2 j e).2 ⟨hheld, hc⟩
  rcases cache.consume_cases with ⟨heq, _⟩ | heq | ⟨heq, hnone, _⟩ <;> rw [heq]
  · exact hpruned
  · exact hpruned
  · have hne : j ≠ c.jti := by
      rintro rfl
      cases hnone.symm.trans hpruned
    exact (AList.lookup_insert_ne hne).trans hpruned

lemma held_run (h : Valid cache s) (hheld : s.entries.lookup j = some e)
    (hcs : ∀ c ∈ cs, c.now ≤ e.expiresAt) : (cache.run cs s).entries.lookup j = some e := by
  induction cs generalizing s with
  | nil => exact hheld
  | cons c cs ih =>
    exact ih (h.consume c) (held_consume h.indexed hheld (hcs c List.mem_cons_self))
      fun d hd => hcs d (List.mem_cons_of_mem c hd)

lemma held_of_accepted {cache : EntryReplayCache} (h : (cache.consume s c).2 = .ok ()) :
    (cache.consume s c).1.entries.lookup c.jti = some ⟨c.expiresAt, c.subjectUserId⟩ := by
  rcases cache.consume_cases with ⟨heq, _⟩ | heq | ⟨heq, _⟩ <;> rw [heq] at h ⊢
  · cases h
  · cases h
  · exact AList.lookup_insert ..

lemma replay_of_held {cache : EntryReplayCache} (h : s.Exact)
    (hheld : s.entries.lookup c.jti = some e) (hc : c.now ≤ e.expiresAt) :
    (cache.consume s c).2 = .error .replay := by
  rw [consume, ((h.pruneExpired c.now).2 c.jti e).2 ⟨hheld, hc⟩]
  rfl

/-- A credential is consumed once: until a call comes after its expiry it is a replay, whatever it
is presented with and however full the cache is. The counters and the heap follow the entries, and
no cap is exceeded. -/
theorem consumed_once (maxEntries : Nat) (cs : List Consume) :
    let cache := new maxEntries
    let s := cache.run cs .new
    (∀ c between again, (cache.consume s c).2 = .ok () →
      (∀ d ∈ between ++ [again], d.now ≤ c.expiresAt) → again.jti = c.jti →
      (cache.consume (cache.run between (cache.consume s c).1) again).2 = .error .replay) ∧
    (∀ u, s.subjectCounts.lookup u = if s.live u = 0 then none else some (s.live u)) ∧
    (∀ j e, s.entries.lookup j = some e → toLex (e.expiresAt, j) ∈ s.expiries) ∧
    s.entries.entries.length ≤ maxEntries ∧
    ∀ u, s.live u ≤ min maxEntries Proxy.maxEntriesPerSubject := by
  intro cache s
  have hvalid : Valid cache s := (valid_new).run cs
  refine ⟨fun c between again hok hbetween hjti => ?_, hvalid.indexed.counts, hvalid.indexed.queued,
    hvalid.fits.total, hvalid.fits.perSubject⟩
  have hvalid' := hvalid.consume c
  have hheld := held_run hvalid' (held_of_accepted hok) fun d hd =>
    hbetween d (List.mem_append_left _ hd)
  refine replay_of_held (hvalid'.run between).indexed (hjti ▸ hheld) ?_
  exact hbetween again (List.mem_append_right _ (List.mem_singleton.2 rfl))

/-- A full cache still knows the credential, presented for another subject on its last second. -/
theorem consumed_once_when_full :
    ((new 1).consume ((new 1).run [⟨8, 3, 30, 11⟩] ((new 1).consume .new ⟨7, 3, 20, 10⟩).1)
      ⟨7, 4, 90, 20⟩).2 = .error .replay :=
  (consumed_once 1 []).1 ⟨7, 3, 20, 10⟩ [⟨8, 3, 30, 11⟩] ⟨7, 4, 90, 20⟩ rfl (by decide) rfl

end EntryReplayCache

end Chan.Proxy
