import Chan.Scene.Model

namespace Chan
open Utf AssocMap

def unionKeys (maps : List Fields) : List Text :=
  (KeyedList.ofList (maps.flatten.map fun e => (e.1, ()))).map fun e => e.1

lemma sizeOf_find_lt :
    sizeOf (KeyedList.find k fields) < sizeOf (some (Value.object fields)) := by
  have hle : sizeOf (KeyedList.find k fields) ≤ 1 + sizeOf fields := by
    induction fields with
    | nil => simp [KeyedList.find]
    | cons e fields ih =>
      obtain ⟨l, v⟩ := e
      rw [KeyedList.find]
      split
      · simp
        omega
      · simp at ih ⊢
        omega
  simp at hle ⊢
  omega

/-- Merge two JSON values from their baseline: objects field by field, anything else whole. `none`
is a conflict. -/
def mergeValue (baseline authority disk : Option Value) : Option (Option Value) :=
  if authority = disk then some authority
  else if authority = baseline then some disk
  else if disk = baseline then some authority
  else
    match baseline, authority, disk with
    | some (.object b), some (.object a), some (.object d) =>
      ((unionKeys [b, a, d]).foldlM (fun merged k =>
        (mergeValue (KeyedList.find k b) (KeyedList.find k a) (KeyedList.find k d)).map fun v =>
          v.elim merged fun v => KeyedList.insert k v merged) []).map fun m => some (.object m)
    | none, some (.object a), some (.object d) =>
      ((unionKeys [a, d]).foldlM (fun merged k =>
        (mergeValue none (KeyedList.find k a) (KeyedList.find k d)).map fun v =>
          v.elim merged fun v => KeyedList.insert k v merged) []).map fun m => some (.object m)
    | _, _, _ => none
termination_by sizeOf authority
decreasing_by
  · exact sizeOf_find_lt
  · exact sizeOf_find_lt

def mergeObject (baseline authority disk : Fields) : Option Fields :=
  ((mergeValue (some (.object baseline)) (some (.object authority)) (some (.object disk))).bind
    fun v => v).bind Value.asObject

def buildElement (elementId : Text) (content : Value)
    (baseline authority disk : Option StoredElement) : Option StoredElement :=
  match content with
  | .object object =>
    let version := ([baseline, authority, disk].filterMap fun el =>
      el.map StoredElement.version).foldl max 0
    let versionNonce := ((authority.or disk).or baseline).elim 0 StoredElement.versionNonce
    let object := KeyedList.insert "id".toList (.string elementId) object
    match StoredElement.fromValue (.object (stamp version versionNonce false object)) with
    | .ok (_, el) => some el
    | .error _ => none
  | _ => none

def distinctIds : List Value → List Text → Bool
  | [], _ => true
  | v :: vs, seen =>
    match (v.asObject.bind fun o => KeyedList.find "id".toList o).bind Value.asStr with
    | none => false
    | some elementId => !seen.contains elementId && distinctIds vs (elementId :: seen)

section

variable (fromStr : Text → Option Value)

def parseMergeInput (text : Text) : Option Scene :=
  let checked :=
    if isBlank text then true
    else match fromStr text with
    | none => false
    | some root =>
      match root.asObject.bind fun o => KeyedList.find "elements".toList o with
      | none | some .null => true
      | some (.array items) => distinctIds items []
      | some _ => false
  if checked then (Scene.parse fromStr text).toOption else none

def Scene.liveElement (s : Scene) (elementId : Text) : Option StoredElement :=
  (s.elements.lookup elementId).filter fun el => !el.isDeleted

def mergeElement (elementId : Text) (baseline authority disk : Option StoredElement) :
    Option (Option StoredElement) :=
  let value (el : Option StoredElement) : Option Value :=
    el.map fun el => .object el.content
  if baseline.isNone ∧ authority.isSome ∧ disk.isSome ∧ value authority ≠ value disk then none
  else
    (mergeValue (value baseline) (value authority) (value disk)).bind fun merged =>
      match merged with
      | none => some none
      | some v =>
        if value authority = some v then some authority
        else if value disk = some v then some disk
        else (buildElement elementId v baseline authority disk).map some

def mergeThreeWayWithLimit (baselineText : Text) (authority : Scene) (diskText : Text)
    (limit : Nat) : Option Text := do
  let baseline ← parseMergeInput fromStr baselineText
  let disk ← parseMergeInput fromStr diskText
  let ids := (KeyedList.ofList ((baseline.elements.keys ++ authority.elements.keys ++
    disk.elements.keys).map fun k => (k, ()))).map fun e => e.1
  let elements ← ids.foldlM (fun (merged : Map Text StoredElement) k =>
    (mergeElement k (baseline.liveElement k) (authority.liveElement k)
      (disk.liveElement k)).map fun el => el.elim merged fun el => merged.insert k el) ∅
  let appState ← mergeObject baseline.appState authority.appState disk.appState
  let files ← mergeObject baseline.files authority.files disk.files
  let merged : Scene := ⟨elements, appState, files, Scene.elementsCostOf elements,
    valueCost (.object appState), fileEntriesCost files⟩
  let text := merged.serializeFile
  if limit < merged.totalCost ∨ limit < utf8Len text then none else some text

end

end Chan
