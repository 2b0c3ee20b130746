import Chan.Collab.Stored
import Chan.Doc.Soundness
import Chan.Scene.Soundness

namespace Chan
open Utf AssocMap Transition

/-- An open session of either kind. -/
inductive LiveSession
  | document (s : DocSession)
  | scene (s : SceneSession)

inductive LiveLabel
  | document (l : Label)
  | scene (l : SceneLabel)

namespace LiveSession

def path : LiveSession → Text
  | document s => s.path
  | scene s => s.path

def recoveryRecord : LiveSession → RecoveryRecord
  | document s => s.recoveryRecord
  | scene s => s.recoveryRecord

def captured : LiveSession → LiveSession
  | document s => .document { s with state := { s.state with recoveryPending := false } }
  | scene s => .scene { s with state := { s.state with recoveryPending := false } }

section

variable (diffy : Text → Text → Text → Option Text) (fromStr : Text → Option Value)

def step : LiveSession → LiveLabel → Option LiveSession
  | document s, .document l => (s.step diffy l).map .document
  | scene s, .scene l => (s.step fromStr l).map .scene
  | _, _ => none

/-- A session as a first attach opens it, at a path inside the workspace. -/
inductive Opened : LiveSession → Prop
  | document (h : Created s) (hp : validateRel s.path = .ok ()) : Opened (.document s)
  | scene (h : SceneCreated fromStr s) (hp : validateRel s.path = .ok ()) : Opened (.scene s)

end

structure Recordable (s : LiveSession) : Prop where
  path : validateRel s.path = .ok ()
  coherent : match s with
    | document s => Coherent s
    | scene s => SceneCoherent s

lemma Opened.recordable (h : Opened fromStr s) : Recordable s := by
  cases h with
  | document h hp | scene h hp => exact ⟨hp, h.coherent⟩

lemma Recordable.step (h : Recordable s)
    (hs : s.step diffy fromStr l = some s') : Recordable s' := by
  cases s with
  | document s =>
    cases l with
    | document l =>
      obtain ⟨t, ht, rfl⟩ := Option.map_eq_some_iff.1 hs
      refine ⟨?_, Coherent.step h.coherent ht⟩
      rw [LiveSession.path, DocSession.step_path ht]
      exact h.path
    | scene l => cases hs
  | scene s =>
    cases l with
    | document l => cases hs
    | scene l =>
      obtain ⟨t, ht, rfl⟩ := Option.map_eq_some_iff.1 hs
      refine ⟨?_, SceneCoherent.step h.coherent ht⟩
      rw [LiveSession.path, SceneSession.step_path ht]
      exact h.path

lemma Recordable.captured (h : Recordable s) : Recordable s.captured := by
  cases s with
  | document s =>
    obtain ⟨hash, ahead, conflict, flushing⟩ := h.coherent
    exact ⟨h.path, hash, ahead, conflict, flushing⟩
  | scene s =>
    obtain ⟨ledger, flushing⟩ := h.coherent
    exact ⟨h.path, ledger, flushing⟩

lemma Recordable.consistent (h : Recordable s) : s.recoveryRecord.Consistent := by
  cases s with
  | document s =>
    have hi : Coherent s := h.coherent
    have hl : Ledger.Sound ⟨s.state.version, s.state.sessionState, s.state.baseline⟩ :=
      ⟨hi.hash, hi.ahead, hi.conflict⟩
    exact hl.consistent .document s.path rfl
  | scene s =>
    have hi : SceneCoherent s := h.coherent
    exact hi.ledger.consistent .scene s.path rfl

lemma Recordable.recoveryPath (h : Recordable s) :
    ∃ p, recoveryPath s.recoveryRecord.kind s.recoveryRecord.path = .ok p := by
  have hp : validateRel s.recoveryRecord.path = .ok () := by
    have hv := h.path
    cases s <;> exact hv
  exact ⟨_, by rw [Chan.recoveryPath, hp]; rfl⟩

end LiveSession

structure Persistence where
  session : LiveSession
  files : SessionStore

inductive PersistenceOp
  | session (l : LiveLabel)
  | persist

namespace Persistence

section

variable (serde : Serde) (diffy : Text → Text → Text → Option Text)
  (fromStr : Text → Option Value)

def persist (P : Persistence) : Persistence :=
  { session := P.session.captured
    files := match Recovery.store serde P.files P.session.recoveryRecord with
      | .ok files => files
      | .error _ => P.files }

def step (P : Persistence) : PersistenceOp → Option Persistence
  | .session l => (P.session.step diffy fromStr l).map fun s => { P with session := s }
  | .persist => some (P.persist serde)

def load (P : Persistence) : Except ChanError (Option RecoveryRecord) :=
  Recovery.load serde P.files P.session.recoveryRecord.kind P.session.recoveryRecord.path

def fits (P : Persistence) : Prop :=
  utf8Len P.session.recoveryRecord.authority.content ≤
    P.session.recoveryRecord.authority.writeBudget

end

lemma recordable_step {P P' : Persistence} (h : P.session.Recordable)
    (hs : P.step serde diffy fromStr op = some P') : P'.session.Recordable := by
  cases op with
  | session l =>
    obtain ⟨s, ht, rfl⟩ := Option.map_eq_some_iff.1 hs
    exact h.step ht
  | persist =>
    cases hs
    exact h.captured

lemma load_persist (serde : Serde) (P : Persistence) :
    (P.persist serde).load serde =
      Recovery.load serde (P.persist serde).files P.session.recoveryRecord.kind
        P.session.recoveryRecord.path := by
  cases P with
  | mk s files => cases s <;> rfl

lemma load_scene (serde : Serde) (s : SceneSession) (files : SessionStore) :
    (⟨.scene s, files⟩ : Persistence).load serde = Recovery.load serde files .scene s.path := rfl

lemma persist_eq {P Q : Persistence}
    (hr : P.session.recoveryRecord = Q.session.recoveryRecord) (hf : P.files = Q.files) :
    P.persist serde = ⟨P.session.captured, (Q.persist serde).files⟩ := by
  rw [persist, persist, hr, hf]

lemma load_persist_of_fits {P : Persistence} {serde : Serde} (h : P.session.Recordable)
    (hs : serde.RoundTrips P.session.recoveryRecord) (hf : P.fits) :
    (P.persist serde).load serde = .ok (some P.session.recoveryRecord) ∨
      (P.persist serde).load serde = .ok none := by
  obtain ⟨p, hp⟩ := h.recoveryPath
  obtain ⟨files, hok, hload⟩ := Recovery.load_of_store h.consistent hs hp hf
  rw [load_persist, persist, hok]
  exact hload

lemma load_persist_of_unfit {P : Persistence} (hf : ¬ P.fits) :
    (P.persist serde).load serde = P.load serde := by
  obtain ⟨e, he⟩ := Recovery.store_of_unfit hf
  rw [load_persist, persist, he]
  rfl

end Persistence

/-- Storing a record leaves no other one behind exactly when its content is within its budget or
there was none: at every call in every run of a session of either kind, whatever the store held
at first. -/
theorem stored_record_is_current {P₀ P : Persistence} (ho : P₀.session.Opened fromStr)
    (he : exec (Persistence.step serde diffy fromStr) P₀ ops = some P)
    (hs : serde.RoundTrips P.session.recoveryRecord) :
    ((P.persist serde).load serde = .ok (some P.session.recoveryRecord) ∨
      (P.persist serde).load serde = .ok none) ↔ (P.fits ∨ P.load serde = .ok none) := by
  have hr : P.session.Recordable :=
    exec_invariant (I := fun P => P.session.Recordable)
      (fun _ _ _ hi hs => Persistence.recordable_step hi hs) ho.recordable he
  constructor
  · intro h
    by_cases hf : P.fits
    · exact .inl hf
    · rw [Persistence.load_persist_of_unfit hf] at h
      rcases h with h | h
      · exact absurd (Recovery.fits_of_load h) hf
      · exact .inr h
  · rintro (hf | hn)
    · exact Persistence.load_persist_of_fits hr hs hf
    · by_cases hf : P.fits
      · exact Persistence.load_persist_of_fits hr hs hf
      · rw [Persistence.load_persist_of_unfit hf]
        exact .inr hn

def optionalInt : Option Int → Value
  | none => .null
  | some (.ofNat n) => .ofNat n
  | some n => .number (.negInt n)

def RecoveryKind.json : RecoveryKind → Value
  | .document => .string "document".toList
  | .scene => .string "scene".toList

def RecoveryState.json : RecoveryState → Value
  | .clean => .object [("state".toList, .string "clean".toList)]
  | .dirty => .object [("state".toList, .string "dirty".toList)]
  | .conflicted c => .object
    [("state".toList, .string "conflicted".toList),
      ("conflict".toList, .object
        [("id".toList, .string c.id),
          ("baseline_version".toList, .ofNat c.baselineVersion.toNat),
          ("disk_version".toList, .ofNat c.diskVersion.toNat),
          ("authority_version".toList, .ofNat c.authorityVersion),
          ("disk_mtime_ns".toList, optionalInt c.diskMtimeNs)])]
  | .removed => .object [("state".toList, .string "removed".toList)]

def RecoveryRecord.json (r : RecoveryRecord) : Value :=
  .object
    [("format".toList, .ofNat r.format),
      ("kind".toList, r.kind.json),
      ("path".toList, .string r.path),
      ("authority".toList, .string r.authority.content),
      ("authority_version".toList, .ofNat r.authority.version),
      ("write_budget".toList, .ofNat r.authority.writeBudget),
      ("flushed_mtime_ns".toList, optionalInt r.authority.flushedMtimeNs),
      ("baseline".toList, .object
        [("content".toList, .string r.baseline.content),
          ("content_hash".toList, .ofNat r.baseline.contentHash.toNat),
          ("mtime_ns".toList, optionalInt r.baseline.mtimeNs),
          ("authority_version".toList, .ofNat r.baseline.authorityVersion)]),
      ("lifecycle".toList, r.lifecycle.json)]

def SkippedRecovery.json (m : SkippedRecovery) : Value :=
  .object
    [("format".toList, .ofNat m.format), ("kind".toList, m.kind.json),
      ("path".toList, .string m.path), ("skipped".toList, .bool m.skipped)]

def Serde.json (known : RecoveryRecord) : Serde where
  record r := bytes r.json.compact
  skipped m := bytes m.json.compact
  parse bs :=
    if bs = bytes known.json.compact then some (.record known)
    else if bs = bytes (SkippedRecovery.new known).json.compact then
      some (.skipped (.new known))
    else none

lemma Serde.roundTrips_json
    (h : bytes (SkippedRecovery.new r).json.compact ≠ bytes r.json.compact) :
    (Serde.json r).RoundTrips r := by
  simp [Serde.RoundTrips, Serde.json, if_neg h]

lemma flatMap_escapeChar {t : Text} (h : ∀ c ∈ t, escapeChar c = [c]) :
    t.flatMap escapeChar = t := by
  induction t with
  | nil => rfl
  | cons c t ih =>
    rw [List.flatMap_cons, h c List.mem_cons_self, ih fun d hd => h d (List.mem_cons_of_mem c hd)]
    rfl

def textElement (t : Text) : Value :=
  .object [("id".toList, .string "n".toList), ("text".toList, .string t)]

/-- The same, with its merge metadata. -/
def stampedText (t : Text) : Value :=
  .object [("id".toList, .string "n".toList), ("isDeleted".toList, .bool false),
    ("text".toList, .string t), ("version".toList, .ofNat 1), ("versionNonce".toList, .ofNat 0)]

def textScene (t : Text) : Scene where
  elements := (∅ : Map Text StoredElement).insert "n".toList
    ⟨(stampedText t).asObject.getD [], 1, 0, none, false, valueCost (stampedText t)⟩
  appState := []
  files := []
  elementsCost := 0 + valueCost (stampedText t) - 0
  appStateCost := 2
  filesCost := 0

lemma push_textElement (h : valueCost (stampedText t) + 2 ≤ limit) :
    Scene.empty.applyPushWithLimit [textElement t] none none limit =
      .ok (⟨[stampedText t], none, []⟩, textScene t) := by
  have htotal : ¬ (limit : Int) < Scene.empty.prospective (textScene t).elements none [] := by
    have heq : Scene.empty.prospective (textScene t).elements none [] =
        2 + (((valueCost (stampedText t) : Int) - 0) + 0) + 0 + 0 := rfl
    rw [heq]
    omega
  have hstage : Scene.stage Scene.empty.elements [textElement t] (∅, []) =
      .ok ((textScene t).elements, [stampedText t]) := rfl
  simp only [Scene.applyPushWithLimit, bind, Except.bind, pure, Except.pure, hstage]
  exact if_neg htotal

lemma envelope_textScene (t : Text) :
    valueCost (stampedText t) + 3 ≤ utf8Len (textScene t).serializeFile := by
  have heq : (textScene t).serializeFile = Value.pretty 0 (.object
    [("type".toList, .string sceneFileType), ("version".toList, .ofNat sceneFileVersion),
      ("source".toList, .string sceneFileSource),
      ("elements".toList, .array [stampedText t]), ("appState".toList, .object []),
      ("files".toList, .object [])]) := rfl
  rw [heq]
  apply Nat.le_trans _ (Value.utf8Len_compact_le _ _)
  simp only [Value.compact, Value.compactFields, Value.compactItems, utf8Len_append, utf8Len_cons,
    valueCost]
  have hkey : utf8Len (quoted "elements".toList) = 10 := rfl
  omega

def pushText (t : Text) : SceneLabel := ⟨1, 0, fun _ => 0, .push 0 [textElement t] none none⟩

lemma step_pushText {s : SceneSession} (fromStr : Text → Option Value)
    (hs : s.state.scene = Scene.empty) (ha : s.attached 0 = true) (hc : s.closed = false)
    (hb : valueCost (stampedText t) + 2 ≤ s.state.writeBudget) :
    ∃ s', s.step fromStr (pushText t) = some s' ∧
      s'.state.scene = textScene t ∧ s'.state.writeBudget = s.state.writeBudget := by
  simp only [SceneSession.step, pushText, ha, hc, Bool.true_or, if_true, SceneState.push, hs,
    push_textElement hb]
  exact ⟨_, rfl, rfl, rfl⟩

lemma valueCost_stampedText {t : Text} (h : ∀ c ∈ t, escapeChar c = [c]) :
    valueCost (stampedText t) = utf8Len t + 67 := by
  have heq : (stampedText t).compact =
      "\x7b\"id\":\"n\",\"isDeleted\":false,\"text\":\"".toList ++ ((t.flatMap escapeChar ++
        ['"']) ++ ",\"version\":1,\"versionNonce\":0".toList ++ ['\x7d']) := rfl
  rw [valueCost, heq, flatMap_escapeChar h]
  simp only [utf8Len_append]
  have hhead : utf8Len "\x7b\"id\":\"n\",\"isDeleted\":false,\"text\":\"".toList = 36 := by decide
  have htail : utf8Len ",\"version\":1,\"versionNonce\":0".toList = 29 := by decide
  have hends : utf8Len ['"'] = 1 ∧ utf8Len ['\x7d'] = 1 := by decide
  omega

def board : SceneSession := .new "a.excalidraw".toList [] .empty ⟨0, none⟩ 0

def openBoard : Persistence := ⟨.scene board, ∅⟩

def attachBoard : SceneLabel := ⟨0, 0, fun _ => 0, .attach 0 []⟩

def attachedBoard : SceneSession := (board.step (fun _ => none) attachBoard).get rfl

lemma push_outgrows (hs : s.state.scene = Scene.empty)
    (ha : s.attached 0 = true) (hc : s.closed = false)
    (hb : valueCost (stampedText t) + 2 = s.state.writeBudget) :
    ∃ s', (⟨.scene s, files⟩ : Persistence).step serde (fun _ _ _ => none) (fun _ => none)
        (.session (.scene (pushText t))) = some ⟨.scene s', files⟩ ∧ s'.path = s.path ∧
      ¬ (⟨.scene s', files⟩ : Persistence).fits := by
  obtain ⟨s', hpush, hscene, hbudget⟩ :=
    step_pushText (fun _ => none) hs ha hc (Nat.le_of_eq hb)
  refine ⟨s', ?_, SceneSession.step_path hpush, ?_⟩
  · simp [Persistence.step, LiveSession.step, hpush]
  · intro hfits
    have henv := envelope_textScene t
    have hfits' : utf8Len s'.state.scene.serializeFile ≤ s'.state.writeBudget := hfits
    rw [hscene, hbudget] at hfits'
    omega

/-- A text whose scene is just within the budget as it is counted, not as it is recorded. -/
def longText : Text := List.replicate (textWriteLimit - 69) 'a'

lemma valueCost_longText : valueCost (stampedText longText) + 2 = textWriteLimit := by
  have hplain : ∀ c ∈ longText, escapeChar c = [c] := by
    intro c hc
    rw [List.eq_of_mem_replicate hc]
    rfl
  rw [valueCost_stampedText hplain, longText, utf8Len_replicate]
  rfl

/-- The record of the empty board survives a later call, for a scene within the same budget. -/
theorem outgrown_scene_leaves_stale_record : let serde := Serde.json board.recoveryRecord
    ∃ P, exec (Persistence.step serde (fun _ _ _ => none) fun _ => none) openBoard
        [.session (.scene attachBoard), .persist, .session (.scene (pushText longText))] =
          some P ∧
      (P.persist serde).load serde = .ok (some board.recoveryRecord) ∧
      board.recoveryRecord ≠ P.session.recoveryRecord := by
  intro serde
  have hload : Recovery.load serde (openBoard.persist serde).files .scene board.path =
      .ok (some board.recoveryRecord) := by
    decide +kernel
  have hbudget : attachedBoard.state.writeBudget = textWriteLimit := rfl
  obtain ⟨s, hpush, hpath, hunfit⟩ := push_outgrows rfl rfl rfl
    (valueCost_longText.trans hbudget.symm)
  have hattach : openBoard.step serde (fun _ _ _ => none) (fun _ => none)
      (.session (.scene attachBoard)) = some ⟨.scene attachedBoard, ∅⟩ := rfl
  have hpersist : (⟨.scene attachedBoard, ∅⟩ : Persistence).persist serde =
      ⟨.scene attachedBoard, (openBoard.persist serde).files⟩ :=
    Persistence.persist_eq rfl rfl
  refine ⟨⟨.scene s, (openBoard.persist serde).files⟩, ?_, ?_, ?_⟩
  · rw [exec_cons, hattach, Option.bind_some, exec_cons, Persistence.step, hpersist,
      Option.bind_some, exec_cons, hpush, Option.bind_some, exec_nil]
  · rw [Persistence.load_persist_of_unfit hunfit, Persistence.load_scene, hpath]
    exact hload
  · intro heq
    apply hunfit
    have hfits := Recovery.fits_of_load hload
    rw [heq] at hfits
    exact hfits

lemma board_opened : openBoard.session.Opened fun _ => none := by
  have hparse : Scene.parse (fun _ => none) [] = .ok .empty := rfl
  exact .scene (.new hparse) (by decide)

theorem stored_record_is_current_pushed : let s := (exec (SceneSession.step fun _ => none) board
      [attachBoard, pushText "a".toList]).get (by decide)
    let serde := Serde.json s.recoveryRecord
    let P := (exec (Persistence.step serde (fun _ _ _ => none) fun _ => none) openBoard
      [.session (.scene attachBoard), .persist, .session (.scene (pushText "a".toList))]).get
        (by decide +kernel)
    P.session.recoveryRecord = s.recoveryRecord ∧
      ((P.persist serde).load serde = .ok (some P.session.recoveryRecord) ∨
        (P.persist serde).load serde = .ok none) := by
  intro s serde P
  have hrecord : P.session.recoveryRecord = s.recoveryRecord := by decide +kernel
  have hs : serde.RoundTrips P.session.recoveryRecord := by
    exact Serde.roundTrips_json (by decide +kernel)
  have hfits : P.fits := by
    rw [Persistence.fits, hrecord]
    decide +kernel
  exact ⟨hrecord, (stored_record_is_current board_opened (Option.some_get _).symm hs).2
    (.inl hfits)⟩

end Chan
