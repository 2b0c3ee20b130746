import Chan.Proxy.Linearization

namespace Chan.Proxy
open AssocMap Transition

variable {w w' : World} {rows : List BrowserSessionRow} {calls : Map Nat Call}

/-- The rows of a subscriber after an event: an id that comes up is not among them, and one that
goes down is. -/
def follow (rows : List BrowserSessionRow) : SessionEvent → Option (List BrowserSessionRow)
  | .up row =>
    if row.adminSessionId ∈ rows.map BrowserSessionRow.adminSessionId then none
    else some (rows ++ [row])
  | .down id =>
    if id ∈ rows.map BrowserSessionRow.adminSessionId then
      some (rows.filter fun row => row.adminSessionId ≠ id)
    else none

lemma count_filter_ids (rows : List BrowserSessionRow) (d a : Uuid) :
    ((rows.filter fun row => row.adminSessionId ≠ d).map BrowserSessionRow.adminSessionId).count a =
      if a = d then 0 else (rows.map BrowserSessionRow.adminSessionId).count a := by
  induction rows with
  | nil =>
    exact (ite_self 0).symm
  | cons row rows ih =>
    grind

lemma follow_downs {ds : List Uuid}
    (hone : ∀ a, (rows.map BrowserSessionRow.adminSessionId).count a ≤ 1)
    (hle : ∀ a, ds.count a ≤ (rows.map BrowserSessionRow.adminSessionId).count a) :
    ∃ rows', exec follow rows (ds.map .down) = some rows' ∧ rows'.Sublist rows ∧
      ∀ a, (rows.map BrowserSessionRow.adminSessionId).count a =
        ds.count a + (rows'.map BrowserSessionRow.adminSessionId).count a := by
  induction ds generalizing rows with
  | nil => exact ⟨rows, rfl, .refl _, fun a => by rw [List.count_nil, Nat.zero_add]⟩
  | cons d ds ih =>
    have hd := hle d
    rw [List.count_cons_self] at hd
    have hmem : d ∈ rows.map BrowserSessionRow.adminSessionId :=
      List.count_pos_iff.1 (Nat.lt_of_lt_of_le (Nat.succ_pos _) hd)
    have hfiltered := count_filter_ids rows d
    have hone' a : ((rows.filter fun row => row.adminSessionId ≠ d).map
        BrowserSessionRow.adminSessionId).count a ≤ 1 := by
      rw [hfiltered]
      split
      · exact Nat.zero_le _
      · exact hone a
    have hle' a : ds.count a ≤ ((rows.filter fun row => row.adminSessionId ≠ d).map
        BrowserSessionRow.adminSessionId).count a := by
      rw [hfiltered]
      split
      · rename_i heq
        have hd' := hone d
        rw [heq]
        omega
      · rename_i hne
        have ha := hle a
        rwa [List.count_cons_of_ne (fun h => hne h.symm)] at ha
    obtain ⟨rows', hexec, hsub, hcount⟩ := ih hone' hle'
    refine ⟨rows', ?_, hsub.trans List.filter_sublist, fun a => ?_⟩
    · rw [List.map_cons, exec_cons_eq_some]
      exact ⟨_, if_pos hmem, hexec⟩
    · grind

namespace World
open SessionState

def pendingDowns (calls : Map Nat Call) (a : Uuid) : Nat :=
  sumOf (fun c => c.chores.count (.down a)) calls

lemma chores_withChores (c : Call) (chores : List Chore) :
    (c.withChores chores).chores = chores := by
  cases c <;> rfl

lemma pendingDowns_insert (h : calls.lookup n = none) :
    pendingDowns (calls.insert n c) a = c.chores.count (.down a) + pendingDowns calls a := by
  rw [pendingDowns, sumOf_insert, erase_of_lookup_none h]
  rfl

lemma pendingDowns_erase (h : calls.lookup n = some c) (a : Uuid) :
    pendingDowns calls a = c.chores.count (.down a) + pendingDowns (calls.erase n) a :=
  sumOf_erase h

lemma pendingDowns_chore (h : calls.lookup n = some c)
    (hchores : c.chores = d :: rest) :
    pendingDowns calls a =
      (if d = .down a then 1 else 0) + pendingDowns (calls.insert n (c.withChores rest)) a := by
  rw [pendingDowns_erase h, hchores, List.count_cons, pendingDowns, pendingDowns, sumOf_insert,
    chores_withChores]
  simp only [beq_iff_eq]
  omega

lemma not_down_mem (h : chores <:+ revocationChores chosen handles) : .down a ∉ chores := by
  intro hmem
  have hmem := h.mem hmem
  rw [revocationChores, List.mem_append, List.mem_append, List.mem_append, mem_flatMap_revokeChores,
    mem_flatMap_revokeChores, List.mem_map, List.mem_map] at hmem
  rcases hmem with ((⟨_, -, h | h⟩ | ⟨_, -, h | h⟩) | ⟨_, -, h⟩) | ⟨_, -, h⟩ <;> cases h

lemma count_pruneChores :
    (pruneChores l).count (.down a) = (l.map SessionRecord.adminSessionId).count a := by
  induction l with
  | nil => rfl
  | cons r l ih =>
    rw [pruneChores, List.flatMap_cons, List.count_append, List.map_cons, List.count_cons,
      show l.flatMap _ = pruneChores l from rfl, ih, Nat.add_comm]
    congr 1
    simp [revokeChores, List.count_cons]

lemma countAdmin_congr {s t : SessionState} (h : t.sessions = s.sessions) :
    t.countAdmin a = s.countAdmin a := by
  rw [countAdmin, countAdmin, h]

lemma exists_downs {events : List SessionEvent} (h : ∀ e ∈ events, ∃ a, e = .down a) :
    ∃ ds : List Uuid, events = ds.map .down ∧ ∀ a, events.count (.down a) = ds.count a := by
  induction events with
  | nil => exact ⟨[], rfl, fun _ => rfl⟩
  | cons e events ih =>
    obtain ⟨ds, rfl, hcount⟩ := ih fun e he => h e (List.mem_cons_of_mem _ he)
    obtain ⟨d, rfl⟩ := h _ List.mem_cons_self
    refine ⟨d :: ds, rfl, fun a => ?_⟩
    rw [List.count_cons, List.count_cons, hcount]
    simp

/-- What a move sends: ids that go down, and after them a row that comes up. Each id in the store or
still to go down is there after the move, or goes down in it. -/
structure Sends (w w' : World) (m : Move) (ds : List Uuid) (ups : List BrowserSessionRow) :
    Prop where
  sent : w'.sent = w.sent ++ (ds.map .down ++ ups.map .up)
  admins : ∀ a ∈ w.admins, a ∈ w'.admins
  count : ∀ a, w.state.countAdmin a + pendingDowns w.calls a +
    (ups.map BrowserSessionRow.adminSessionId).count a =
      ds.count a + w'.state.countAdmin a + pendingDowns w'.calls a
  ups : ups = [] ∨ ∃ i r client, ups = [browserSessionRow r] ∧
    w'.state.sessions.lookup i = some r ∧ r.adminSessionId ∉ w.admins ∧
    r.adminSessionId ∈ w'.admins ∧ m = .issue r.principal client i r.adminSessionId

lemma Sends.silent (hsent : w'.sent = w.sent) (hadmins : ∀ a ∈ w.admins, a ∈ w'.admins)
    (hsessions : w'.state.sessions = w.state.sessions)
    (hcalls : ∀ a, pendingDowns w'.calls a = pendingDowns w.calls a) : Sends w w' m [] [] where
  sent := by rw [hsent]; exact (List.append_nil _).symm
  admins := hadmins
  count a := by
    rw [countAdmin_congr hsessions, hcalls]
    simp only [List.map_nil, List.count_nil]
    omega
  ups := .inl rfl

lemma Sends.swept (hw : w.state.WellFormed)
    (hsent : w'.sent = w.sent ++ (w.state.expireDue now).2)
    (hadmins : ∀ a ∈ w.admins, a ∈ w'.admins)
    (hsessions : w'.state.sessions = (w.state.expireDue now).1.sessions)
    (hcalls : w'.calls = w.calls) :
    Sends w w' m ((w.state.takeExpired now).2.map SessionRecord.adminSessionId) [] where
  sent := by
    rw [hsent, List.map_nil, List.append_nil, List.map_map]
    rfl
  admins := hadmins
  count a := by
    rw [countAdmin_congr hsessions, hcalls, (expireDue_expires hw now).count a, List.map_nil,
      List.count_nil]
    omega
  ups := .inl rfl

lemma Sends.chore (hcall : w.calls.lookup n = some c)
    (hchores : c.chores = d :: rest) (hd : ∀ a, d ≠ .down a) (hsent : w'.sent = w.sent)
    (hadmins : w'.admins = w.admins) (hsessions : w'.state.sessions = w.state.sessions)
    (hcalls : w'.calls = w.calls.insert n (c.withChores rest)) : Sends w w' m [] [] := by
  refine .silent hsent (fun a ha => by rw [hadmins]; exact ha) hsessions fun a => ?_
  rw [hcalls, pendingDowns_chore hcall hchores, if_neg (hd a), Nat.zero_add]

lemma handlesRemoved {s : SessionState} (hw : s.WellFormed) (handles : List BindingHandle) :
    (handles.foldl (fun s handle => s.removeHandle handle) s).WellFormed ∧
      (handles.foldl (fun s handle => s.removeHandle handle) s).sessions = s.sessions := by
  have hdrops := DropsBindings.foldl (fun s handle => DropsBindings.of_removeHandle handle s)
    handles s
  exact ⟨hdrops.wellFormed hw, hdrops.sessions⟩

lemma Does.sends (hd : Does now w m w') (hw : w.state.WellFormed)
    (hm : ∀ call, m ≠ .timeout call) : ∃ ds ups, Sends w w' m ds ups := by
  cases hd with
  | refused =>
    exact ⟨[], [], .silent rfl (fun _ => List.mem_cons_of_mem _) rfl fun _ => rfl⟩
  | notIssued => exact ⟨_, [], .swept hw rfl (fun _ => List.mem_cons_of_mem _) rfl rfl⟩
  | notBound => exact ⟨_, [], .swept hw rfl (fun _ h => h) rfl rfl⟩
  | bound _ ht _ => exact ⟨_, [], .swept hw rfl (fun _ h => h) (by
    rw [← makeRoom_sessions ht]
    rfl) rfl⟩
  | @issued admin r p client i hfresh hadmin hr =>
    refine ⟨(w.state.takeExpired now).2.map SessionRecord.adminSessionId, [browserSessionRow r],
      ?_, fun _ => List.mem_cons_of_mem _, fun a => ?_, .inr ⟨i, r, client, rfl, ?_⟩⟩
    · dsimp only
      rw [List.map_map]
      rfl
    · have hinsert : ((w.state.expireDue now).1.insertSession w.limits.lifetime p client now i
          admin).1.countAdmin a =
          (if admin = a then 1 else 0) + (w.state.expireDue now).1.countAdmin a := by
        rw [countAdmin, insertSession, countWhere_insert _ hfresh]
        simp only [decide_eq_true_iff]
        rfl
      rw [hinsert, (expireDue_expires hw now).count a, hr, browserSessionRow, List.map_cons,
        List.map_nil, List.count_singleton]
      simp only [beq_iff_eq]
      omega
    · rw [hr]
      exact ⟨AList.lookup_insert _, hadmin, List.mem_cons_self, rfl⟩
  | @lapsed i r hr =>
    refine ⟨[r.adminSessionId], [], rfl, fun _ h => h, fun a => ?_, .inl rfl⟩
    have hrevoked : ((w.state.removeSession i).1.revokeAuthority r.authority).countAdmin a =
        (w.state.removeSession i).1.countAdmin a := rfl
    rw [hrevoked, countAdmin_removeSession hw hr, List.map_nil, List.count_nil,
      List.count_singleton]
    simp only [beq_iff_eq]
    omega
  | unheld =>
    exact ⟨[], [], .silent rfl (fun _ h => h) (DropsBindings.of_dropBinding _ w.state).sessions
      fun _ => rfl⟩
  | pruned hcall =>
    refine ⟨[], [], (List.append_nil _).symm, fun _ h => h, fun a => ?_, .inl rfl⟩
    dsimp only
    rw [(takeExpired_expires hw now).count a, pendingDowns_insert hcall, Call.chores,
      count_pruneChores, List.map_nil, List.count_nil]
    omega
  | selected hcall | cleared hcall =>
    refine ⟨[], [], .silent rfl (fun _ h => h) rfl fun a => (pendingDowns_insert hcall).trans ?_⟩
    rw [Call.chores, List.count_eq_zero.2 (not_down_mem (List.suffix_refl _)), Nat.zero_add]
  | cancelled hcall hchores | closed hcall hchores | drained hcall hchores =>
    exact ⟨[], [], .chore hcall hchores (fun _ h => by cases h) rfl rfl rfl rfl⟩
  | @announced n c rest admin hcall hchores =>
    refine ⟨[admin], [], rfl, fun _ h => h, fun a => ?_, .inl rfl⟩
    rw [pendingDowns_chore hcall hchores, List.map_nil, List.count_nil, List.count_singleton]
    simp only [beq_iff_eq, Chore.down.injEq]
    omega
  | timedOut => exact absurd rfl (hm _)
  | prunedAll hcall =>
    refine ⟨[], [], .silent rfl (fun _ h => h) rfl fun a => ?_⟩
    rw [pendingDowns_erase hcall a, Call.chores, List.count_nil, Nat.zero_add]
  | @completed n scope chosen handles hcall =>
    obtain ⟨hremoved, hcount, hdowns⟩ := removeSelected_removes (handlesRemoved hw handles).1
    obtain ⟨ds, hevents, hds⟩ := exists_downs hdowns
    refine ⟨ds, [], ?_, fun _ h => h, fun a => ?_, .inl rfl⟩
    · dsimp only
      rw [List.map_nil, List.append_nil, ← hevents]
      rfl
    · dsimp only
      rw [pendingDowns_erase hcall a, Call.chores, List.count_nil, List.map_nil, List.count_nil,
        ← countAdmin_congr (handlesRemoved hw handles).2, hcount a, hds a]
      rw [finishRevocation]
      omega
  | _ =>
    exact ⟨[], [], .silent rfl (fun _ h => h) rfl fun _ => rfl⟩

def Distinct (w : World) : Prop := ∀ a,
  w.state.countAdmin a + pendingDowns w.calls a ≤ 1 ∧
    (0 < w.state.countAdmin a + pendingDowns w.calls a → a ∈ w.admins)

lemma Sends.distinct (h : Sends w w' m ds rows)
    (hdistinct : w.Distinct) : w'.Distinct := by
  intro a
  have hcount := h.count a
  obtain ⟨hone, hdrawn⟩ := hdistinct a
  rcases h.ups with rfl | ⟨i, r, client, rfl, -, hfresh, hadmin, -⟩
  · rw [List.map_nil, List.count_nil] at hcount
    exact ⟨by omega, fun hpos => h.admins a (hdrawn (by omega))⟩
  · rw [List.map_cons, List.map_nil, List.count_singleton] at hcount
    by_cases heq : r.adminSessionId = a
    · grind
    · rw [if_neg (by rw [beq_iff_eq]; exact heq)] at hcount
      exact ⟨by omega, fun hpos => h.admins a (hdrawn (by omega))⟩

structure Sound (w : World) : Prop where
  wellFormed : w.state.WellFormed
  aimed : w.Aimed
  pruned : w.Pruned
  distinct : w.Distinct

lemma sound_new : Sound (new l) where
  wellFormed := wellFormed_new l
  aimed _ _ _ _ h := by
    obtain ⟨_, h⟩ := h
    cases h
  pruned _ _ _ h := by cases h
  distinct a := ⟨Nat.zero_le 1, fun h => absurd h (Nat.lt_irrefl 0)⟩

lemma Does.distinct (hd : Does now w m w') (hs : Sound w) : w'.Distinct := by
  by_cases hm : ∀ call, m ≠ .timeout call
  · obtain ⟨ds, ups, hsends⟩ := hd.sends hs.wellFormed hm
    exact hsends.distinct hs.distinct
  · -- What times out takes its chores with it.
    simp only [not_forall, not_not] at hm
    obtain ⟨call, rfl⟩ := hm
    cases hd with
    | timedOut hcall =>
      intro a
      have hcount := pendingDowns_erase hcall a
      obtain ⟨hone, hdrawn⟩ := hs.distinct a
      exact ⟨by dsimp only; omega, fun hpos => hdrawn (by dsimp only at hpos; omega)⟩

lemma sound_step (hs : Sound w) (h : w.step m = some w') : Sound w' := by
  obtain ⟨-, u, hu, rfl⟩ := step_eq_some h
  have hd := act_does hu
  exact ⟨hd.wellFormed hs.wellFormed, hd.aimed hs.wellFormed hs.aimed,
    hd.prunes hs.wellFormed hs.pruned, hd.distinct hs⟩

/-- A snapshot may be taken: no session in the store is cancelled, and no prune has an id still to
send down. -/
def Settled (w : World) : Prop :=
  (∀ i r, w.state.sessions.lookup i = some r → w.state.cancelled r.authority = false) ∧
  ∀ call chores a, w.calls.lookup call = some (.prune chores) → .down a ∉ chores

/-- The rows are those of the sessions in the store, and of those still to go down. -/
structure Lists (w : World) (rows : List BrowserSessionRow) : Prop where
  count : ∀ a, (rows.map BrowserSessionRow.adminSessionId).count a =
    w.state.countAdmin a + pendingDowns w.calls a
  named : ∀ row ∈ rows, ∀ i r, w.state.sessions.lookup i = some r →
    r.adminSessionId = row.adminSessionId → browserSessionRow r = row

lemma countAdmin_pos_iff {s : SessionState} : 0 < s.countAdmin a ↔
    ∃ i r, s.sessions.lookup i = some r ∧ r.adminSessionId = a := by
  rw [countAdmin, countWhere_pos_iff]
  constructor
  · rintro ⟨e, he, ha⟩
    exact ⟨e.1, e.2, AList.mem_lookup_iff.2 he, of_decide_eq_true ha⟩
  · rintro ⟨i, r, hr, ha⟩
    exact ⟨⟨i, r⟩, AList.mem_lookup_iff.1 hr, decide_eq_true ha⟩

lemma Lists.of_snapshot (hs : Sound w) (h : Settled w) : Lists w w.state.snapshot := by
  have hall : w.state.snapshot = w.state.sessions.entries.map fun e => browserSessionRow e.2 := by
    rw [snapshot, List.filter_eq_self.2 fun e he => ?_]
    rw [h.1 e.1 e.2 (AList.mem_lookup_iff.2 he)]
    rfl
  constructor
  · intro a
    have hpending : pendingDowns w.calls a = 0 := by
      refine List.sum_eq_zero fun n hn => ?_
      obtain ⟨⟨call, c⟩, he, rfl⟩ := List.mem_map.1 hn
      have hcall := AList.mem_lookup_iff.2 he
      refine List.count_eq_zero.2 ?_
      cases c with
      | prune chores => exact h.2 call chores a hcall
      | revocation scope chosen handles chores =>
        exact not_down_mem (hs.aimed _ _ _ _ ⟨call, hcall⟩).order
    rw [hpending, Nat.add_zero, hall, List.map_map, countAdmin, countWhere, List.count,
      List.countP_map]
    refine List.countP_congr fun e _ => ?_
    simp [browserSessionRow]
  · intro row hrow i r hr ha
    rw [hall, List.mem_map] at hrow
    obtain ⟨e, he, rfl⟩ := hrow
    have hone : w.state.countAdmin r.adminSessionId ≤ 1 := by
      have := (hs.distinct r.adminSessionId).1
      omega
    have hsame := AList.mem_lookup_iff.2 he
    have hkey := key_unique hone hr (decide_eq_true rfl) hsame (decide_eq_true ha.symm)
    rw [hkey] at hsame
    cases hsame.symm.trans hr
    rfl

lemma Lists.step (h : Lists w rows) (hs : Sound w)
    (hd : Does now w m w') (hm : ∀ call, m ≠ .timeout call) :
    ∃ events rows', w'.sent = w.sent ++ events ∧ exec follow rows events = some rows' ∧
      Lists w' rows' := by
  obtain ⟨ds, ups, hsends⟩ := hd.sends hs.wellFormed hm
  have hdrawn {row} (hrow : row ∈ rows) : row.adminSessionId ∈ w.admins := by
    refine (hs.distinct _).2 ?_
    rw [← h.count]
    exact List.count_pos_iff.2 (List.mem_map_of_mem hrow)
  have hone a : (rows.map BrowserSessionRow.adminSessionId).count a ≤ 1 := by
    rw [h.count]
    exact (hs.distinct a).1
  have hle a : ds.count a ≤ (rows.map BrowserSessionRow.adminSessionId).count a := by
    have htotal := hsends.count a
    rw [h.count]
    rcases hsends.ups with rfl | ⟨i, r, client, rfl, hr, hfresh, -, -⟩
    · rw [List.map_nil, List.count_nil] at htotal
      omega
    · rw [List.map_cons, List.map_nil, List.count_singleton] at htotal
      split at htotal
      · rename_i heq
        have hpos : 0 < w'.state.countAdmin a := countAdmin_pos_iff.2 ⟨i, r, hr, eq_of_beq heq⟩
        omega
      · omega
  obtain ⟨rows', hdowns, hsub, hcount⟩ := follow_downs hone hle
  have hnamed {row} (hrow : row ∈ rows') {i r} (hr : w'.state.sessions.lookup i = some r)
      (ha : r.adminSessionId = row.adminSessionId) :
      browserSessionRow r = row := by
    have hrow := hsub.subset hrow
    rcases hd.sessions hs.wellFormed hr with hr | ⟨_, -, hfresh, -⟩
    · exact h.named row hrow i r hr ha
    · rw [ha] at hfresh
      exact absurd (hdrawn hrow) hfresh
  have htotal (a : Uuid) := hsends.count a
  rcases hups : hsends.ups with rfl | ⟨i, r, client, rfl, hr, hfresh, -, hmove⟩
  · refine ⟨ds.map .down, rows', ?_, hdowns, fun a => ?_, fun row hrow i r => hnamed hrow⟩
    · rw [hsends.sent, List.map_nil, List.append_nil]
    · have htotal := htotal a
      have hcount := hcount a
      rw [h.count] at hcount
      rw [List.map_nil, List.count_nil] at htotal
      omega
  · have habsent : (browserSessionRow r).adminSessionId ∉
        rows'.map BrowserSessionRow.adminSessionId := by
      intro hmem
      obtain ⟨row, hrow, heq⟩ := List.mem_map.1 hmem
      have hin := hdrawn (hsub.subset hrow)
      rw [heq] at hin
      exact hfresh hin
    refine ⟨ds.map .down ++ [.up (browserSessionRow r)], rows' ++ [browserSessionRow r],
      hsends.sent, ?_, fun a => ?_, fun row hrow j c hc ha => ?_⟩
    · exact exec_append_eq_some.2 ⟨rows', hdowns, exec_cons_eq_some.2 ⟨_, if_neg habsent, rfl⟩⟩
    · have htotal := htotal a
      have hcount := hcount a
      rw [h.count] at hcount
      rw [List.map_append, List.count_append]
      omega
    · rcases List.mem_append.1 hrow with hrow | hrow
      · exact hnamed hrow hc ha
      · cases List.mem_singleton.1 hrow
        rcases hd.sessions hs.wellFormed hc with hold | ⟨_, heq, -, -⟩
        · refine absurd ((hs.distinct _).2 ?_) hfresh
          exact Nat.add_pos_left (countAdmin_pos_iff.2 ⟨j, c, hold, ha⟩) _
        · obtain ⟨-, -, rfl, -⟩ := Move.issue.inj (hmove.symm.trans heq)
          cases hc.symm.trans hr
          rfl

lemma lists_run (h : Lists w rows) (hs : Sound w)
    (ha : w.Accounted) (hms : ∀ m ∈ ms, ∀ call, m.2 ≠ .timeout call)
    (he : exec step w ms = some w') :
    ∃ events rows', w'.sent = w.sent ++ events ∧ exec follow rows events = some rows' ∧
      Lists w' rows' ∧ w'.Accounted := by
  induction ms generalizing w rows with
  | nil =>
    cases he
    exact ⟨[], rows, (List.append_nil _).symm, rfl, h, ha⟩
  | cons m ms ih =>
    obtain ⟨u, hu, hrest⟩ := exec_cons_eq_some.1 he
    have hsound := sound_step hs hu
    obtain ⟨-, v, hv, rfl⟩ := step_eq_some hu
    have hd := act_does hv
    have hm := hms m List.mem_cons_self
    obtain ⟨events, rows', hsent, hfollow, hlists⟩ := h.step hs hd hm
    have hlists : Lists { v with clock := m.1 } rows' := ⟨hlists.count, hlists.named⟩
    obtain ⟨more, rows'', hsent', hfollow', hlists', ha'⟩ := ih hlists hsound
      (hd.accounted hs.wellFormed hs.aimed hs.pruned hm ha)
      (fun m hm => hms m (List.mem_cons_of_mem _ hm)) hrest
    refine ⟨events ++ more, rows'', ?_, exec_append_eq_some.2 ⟨rows', hfollow, hfollow'⟩, hlists',
      ha'⟩
    rw [hsent', ← List.append_assoc, ← hsent]

/-- A subscriber whose snapshot was taken in a settled store, and that sees no drain time out, can
follow every event; and where no call is in progress it holds the rows of the uncancelled
sessions. -/
theorem inventory_faithful (l : SessionLimits) (as bs : List (Nat × Move)) (v w : World)
    (hv : exec step (new l) as = some v) (hsettled : Settled v)
    (hbs : ∀ m ∈ bs, ∀ call, m.2 ≠ .timeout call) (hw : exec step v bs = some w) :
    ∃ events rows, w.sent = v.sent ++ events ∧ exec follow v.state.snapshot events = some rows ∧
      (w.calls = ∅ → ∀ row, row ∈ rows ↔ ∃ i r, w.state.sessions.lookup i = some r ∧
        w.state.cancelled r.authority = false ∧ browserSessionRow r = row) := by
  have hs : Sound v := exec_invariant (I := Sound) (fun _ _ _ hs h => sound_step hs h) sound_new hv
  have ha : v.Accounted := fun i r hr hc => by
    rw [hsettled.1 i r hr] at hc
    cases hc
  obtain ⟨events, rows, hsent, hfollow, hlists, ha⟩ :=
    lists_run (Lists.of_snapshot hs hsettled) hs ha hbs hw
  refine ⟨events, rows, hsent, hfollow, fun hcalls row => ?_⟩
  have hpending a : pendingDowns w.calls a = 0 := by
    rw [hcalls]
    rfl
  have hcount a : a ∈ rows.map BrowserSessionRow.adminSessionId ↔
      ∃ i r, w.state.sessions.lookup i = some r ∧ r.adminSessionId = a := by
    rw [← List.count_pos_iff, hlists.count, hpending, Nat.add_zero, countAdmin_pos_iff]
  constructor
  · intro hrow
    obtain ⟨i, r, hr, heq⟩ := (hcount _).1 (List.mem_map_of_mem hrow)
    refine ⟨i, r, hr, Bool.eq_false_iff.2 fun hc => ?_, hlists.named row hrow i r hr heq⟩
    obtain ⟨_, _, _, _, ⟨call, hcall⟩, -⟩ := ha i r hr hc
    rw [hcalls] at hcall
    cases hcall
  · rintro ⟨i, r, hr, -, rfl⟩
    obtain ⟨row, hrow, heq⟩ := List.mem_map.1 ((hcount r.adminSessionId).2 ⟨i, r, hr, rfl⟩)
    rw [hlists.named row hrow i r hr heq.symm]
    exact hrow

theorem inventory_faithful_revoked : ∃ v w, exec step (new sampleLimits)
        [(0, .issue samplePrincipal .browser (sampleId '0') 7)] = some v ∧
      exec step v [(1, .issue samplePrincipal .browser (sampleId '1') 8),
        (2, .revoke 0 (.sessionId 7) samplePair []), (2, .chore 0), (2, .chore 0), (2, .chore 0),
        (2, .complete 0)] = some w ∧
      ∃ events rows, w.sent = v.sent ++ events ∧ exec follow v.state.snapshot events = some rows ∧
        (w.calls = ∅ → ∀ row, row ∈ rows ↔ ∃ i r, w.state.sessions.lookup i = some r ∧
          w.state.cancelled r.authority = false ∧ browserSessionRow r = row) := by
  have hrun : (exec step (new sampleLimits)
      [(0, .issue samplePrincipal .browser (sampleId '0') 7)]).any (fun v =>
        v.state.sessions.entries.all (fun e => v.state.cancelled e.2.authority = false) &&
        v.calls.entries.isEmpty &&
        (exec step v [(1, .issue samplePrincipal .browser (sampleId '1') 8),
          (2, .revoke 0 (.sessionId 7) samplePair []), (2, .chore 0), (2, .chore 0), (2, .chore 0),
          (2, .complete 0)]).isSome) = true := by decide +kernel
  obtain ⟨v, hv, hends⟩ := (Option.any_eq_true _ _).1 hrun
  simp only [Bool.and_eq_true, List.all_eq_true, decide_eq_true_iff, List.isEmpty_iff] at hends
  obtain ⟨w, hw⟩ := Option.isSome_iff_exists.1 hends.2
  have hsettled : Settled v := by
    refine ⟨fun i r hr => hends.1.1 ⟨i, r⟩ (AList.mem_lookup_iff.1 hr),
      fun call chores a hcall => ?_⟩
    have hmem := AList.mem_lookup_iff.1 hcall
    rw [hends.1.2] at hmem
    cases hmem
  exact ⟨v, w, hv, hw, inventory_faithful sampleLimits _ _ v w hv hsettled (by simp) hw⟩

/-- A drain timed out before the snapshot, which leaves the session out. The revocation that comes
next sends it down. -/
theorem unlisted_session_goes_down :
    ∃ as bs v w events, exec step (new sampleLimits) as = some v ∧ exec step v bs = some w ∧
      w.sent = v.sent ++ events ∧ exec follow v.state.snapshot events = none := by
  let as : List (Nat × Move) := [(0, .issue samplePrincipal .browser (sampleId '0') 7),
    (0, .begin 0), (0, .revoke 0 (.sessionId 7) samplePair []), (0, .chore 0), (0, .chore 0),
    (0, .timeout 0)]
  let bs : List (Nat × Move) := [(0, .finish 0 0), (0, .revoke 1 (.sessionId 7) samplePair []),
    (0, .chore 1), (0, .chore 1), (0, .chore 1), (0, .complete 1)]
  have hrun : (exec step (new sampleLimits) as).any (fun v => (exec step v bs).any fun w =>
      decide (w.sent = v.sent ++ [.down 7]) &&
      (exec follow v.state.snapshot [.down 7]).isNone) = true := by decide +kernel
  obtain ⟨v, hv, hends⟩ := (Option.any_eq_true _ _).1 hrun
  obtain ⟨w, hw, hsent⟩ := (Option.any_eq_true _ _).1 hends
  rw [Bool.and_eq_true, decide_eq_true_iff, Option.isNone_iff_eq_none] at hsent
  exact ⟨as, bs, v, w, [.down 7], hv, hw, hsent⟩

end World

end Chan.Proxy
