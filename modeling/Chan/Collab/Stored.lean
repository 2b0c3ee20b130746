import Chan.Collab.Ledger
import Chan.Collab.Recovery

namespace Chan
open Utf AssocMap

lemma RecoveryRecord.fits_of_valid {r : RecoveryRecord}
    (h : r.validateIdentity k p = .ok ()) :
    utf8Len r.authority.content ≤ r.authority.writeBudget := by
  simp only [RecoveryRecord.validateIdentity] at h
  split at h
  · cases h
  · split at h
    · cases h
    · split at h
      · cases h
      · exact Nat.le_of_not_lt ‹_›

/-- The checks of a record that do not depend on its size. -/
structure RecoveryRecord.Consistent (r : RecoveryRecord) : Prop where
  format : r.format = recoveryFormat
  hash : r.baseline.contentHash = contentHash r.baseline.content
  ahead : r.baseline.authorityVersion ≤ r.authority.version
  conflict : r.conflictMatches = true

lemma Ledger.Sound.consistent {L : Ledger} (h : L.Sound) (k : RecoveryKind) (p : Text)
    {a : RecoveryAuthority} (ha : a.version = L.version) :
    (RecoveryRecord.new k p a ⟨L.baseline.content, L.baseline.contentHash, L.baseline.mtimeNs,
      L.baseline.authorityVersion⟩ L.sessionState.recoveryState).Consistent := by
  refine ⟨rfl, h.hash, ?_, ?_⟩
  · exact Nat.le_trans h.ahead (Nat.le_of_eq ha.symm)
  · cases hs : L.sessionState with
    | conflicted c =>
      obtain ⟨hb, hv⟩ := h.conflict c.baselineVersion c.authorityVersion (by rw [hs]; rfl)
      simp [RecoveryRecord.conflictMatches, RecoveryRecord.new, SessionState.recoveryState, hb, hv,
        ha]
    | observing since o => cases since <;> rfl
    | _ => rfl

namespace RecoveryRecord

lemma Consistent.valid {r : RecoveryRecord} (h : r.Consistent)
    (hfits : utf8Len r.authority.content ≤ r.authority.writeBudget) :
    r.validateIdentity r.kind r.path = .ok () := by
  have hkind : ¬(r.kind ≠ r.kind ∨ r.path ≠ r.path) := by
    rintro (hne | hne)
    · exact hne rfl
    · exact hne rfl
  have hconflict : ¬ r.conflictMatches = false := by rw [h.conflict]; exact Bool.noConfusion
  rw [validateIdentity, if_neg (not_not.2 h.format), if_neg hkind,
    if_neg (Nat.not_lt_of_le hfits), if_neg (not_not.2 h.hash.symm),
    if_neg (Nat.not_lt_of_le h.ahead), if_neg hconflict]

lemma skipped_valid (r : RecoveryRecord) :
    (SkippedRecovery.new r).validateIdentity r.kind r.path = .ok () := by
  apply if_neg
  rintro (hne | hne | hne | hne)
  · exact hne rfl
  · exact hne rfl
  · exact hne rfl
  · cases hne

end RecoveryRecord

namespace Recovery

variable {serde : Serde} {files : SessionStore} {r : RecoveryRecord}

lemma loadInner_of_lookup (hp : files.lookup p = some bs)
    (hl : bs.length ≤ recoveryRecordLimit) (hs : serde.parse bs = some (.record r))
    (hv : r.validateIdentity r.kind r.path = .ok ()) :
    loadInner serde files r.kind r.path p = .ok (some r) := by
  simp only [loadInner, hp, hs, hv]
  exact if_neg (Nat.not_lt_of_le hl)

lemma loadInner_of_skipped (hp : files.lookup p = some bs)
    (hs : serde.parse bs = some (.skipped (.new r))) :
    ∀ x, loadInner serde files r.kind r.path p = .ok x → x = none := by
  intro x hx
  simp only [loadInner, hp, hs, r.skipped_valid] at hx
  split at hx <;> cases hx
  rfl

lemma fits_of_load (h : load serde files k p = .ok (some r)) :
    utf8Len r.authority.content ≤ r.authority.writeBudget := by
  have hvalid : ∀ q, loadInner serde files k p q = .ok (some r) →
      r.validateIdentity k p = .ok () := by
    intro q hq
    simp only [loadInner] at hq
    split at hq
    · cases hq
    · split at hq
      · cases hq
      · split at hq
        · cases hq
        · rename_i r' _
          cases hv : r'.validateIdentity k p with
          | error e => rw [hv] at hq; cases hq
          | ok u => rw [hv] at hq; cases hq; exact hv
        · rename_i m _
          cases hv : m.validateIdentity k p <;> rw [hv] at hq <;> cases hq
  simp only [load] at h
  split at h
  · cases h
  · split at h
    · cases h
      exact RecoveryRecord.fits_of_valid (hvalid _ ‹_›)
    · cases h

lemma store_of_unfit (hfits : ¬ utf8Len r.authority.content ≤ r.authority.writeBudget) :
    ∃ e, store serde files r = .error e := by
  cases hv : r.validateIdentity r.kind r.path with
  | ok u => exact absurd (RecoveryRecord.fits_of_valid hv) hfits
  | error e => exact ⟨e, by rw [store, hv]⟩

lemma load_of_store (hc : r.Consistent) (hs : serde.RoundTrips r)
    (hp : recoveryPath r.kind r.path = .ok p)
    (hfits : utf8Len r.authority.content ≤ r.authority.writeBudget) :
    ∃ files', store serde files r = .ok files' ∧
      (load serde files' r.kind r.path = .ok (some r) ∨
        load serde files' r.kind r.path = .ok none) := by
  have hv := hc.valid hfits
  by_cases hlen : min r.authority.writeBudget recoveryRecordLimit < (serde.record r).length
  · refine ⟨files.insert p (serde.skipped (.new r)), ?_, .inr ?_⟩
    · simp only [store, hv, hp, if_pos hlen]
    · simp only [load, hp]
      split
      · rename_i x hx
        exact congrArg _ (loadInner_of_skipped (AList.lookup_insert files) hs.2 x hx)
      · rfl
  · have hlimit : (serde.record r).length ≤ recoveryRecordLimit :=
      Nat.le_trans (Nat.le_of_not_lt hlen) (Nat.min_le_right _ _)
    refine ⟨files.insert p (serde.record r), ?_, .inl ?_⟩
    · simp only [store, hv, hp, if_neg hlen]
    · simp only [load, hp, loadInner_of_lookup (AList.lookup_insert files) hlimit hs.1 hv]

end Recovery

end Chan
