import Chan.Lib.AssocMap
import Chan.Scene.Value
import Chan.Workspace

namespace Chan
open Utf AssocMap

def sceneFileType : Text := "excalidraw".toList

def sceneFileVersion : Nat := 2

def sceneFileSource : Text := "chan".toList

inductive SceneError
  | invalid (reason : Text)
  | tooLarge (bytes limit : Nat)
  deriving DecidableEq

def SceneError.bad (reason : String) : SceneError := .invalid reason.toList

/-- An element as the authority holds it: the client's object with the merge metadata, which the
object repeats. -/
structure StoredElement where
  value : Fields
  version : Nat
  versionNonce : Nat
  index : Option Text
  isDeleted : Bool
  /-- The compact byte cost of `value`. -/
  cost : Nat
  deriving DecidableEq

def stamp (version versionNonce : Nat) (isDeleted : Bool) (object : Fields) : Fields :=
  KeyedList.insert "isDeleted".toList (.bool isDeleted)
    (KeyedList.insert "versionNonce".toList (.ofNat versionNonce)
      (KeyedList.insert "version".toList (.ofNat version) object))

namespace StoredElement

/-- Normalise a raw element: an object with a string id, the metadata defaulted and written back. -/
def fromValue (value : Value) : Except SceneError (Text × StoredElement) :=
  match value with
  | .object object =>
    match (KeyedList.find "id".toList object).bind Value.asStr with
    | none => .error (.bad "element without a string id")
    | some elementId =>
      let version :=
        max (((KeyedList.find "version".toList object).bind Value.asU64).getD 1) 1
      let versionNonce :=
        ((KeyedList.find "versionNonce".toList object).bind Value.asU64).getD 0
      let index := (KeyedList.find "index".toList object).bind Value.asStr
      let isDeleted :=
        ((KeyedList.find "isDeleted".toList object).bind Value.asBool).getD false
      let object := stamp version versionNonce isDeleted object
      .ok (elementId,
        ⟨object, version, versionNonce, index, isDeleted, valueCost (.object object)⟩)
  | _ => .error (.bad "element is not an object")

def restamp (el : StoredElement) (version versionNonce : Nat) (isDeleted : Bool) :
    StoredElement :=
  let value := stamp version versionNonce isDeleted el.value
  { el with value, version, versionNonce, isDeleted, cost := valueCost (.object value) }

def content (el : StoredElement) : Fields :=
  ["id".toList, "version".toList, "versionNonce".toList, "isDeleted".toList].foldl
    (fun object k => KeyedList.erase k object) el.value

end StoredElement

def storedWins (stored : StoredElement) (version versionNonce : Nat) : Bool :=
  decide (version < stored.version) ||
    (stored.version == version && decide (stored.versionNonce < versionNonce))

structure SceneApplied where
  elements : List Value
  appState : Option Value
  files : Fields
  deriving DecidableEq

def SceneApplied.isEmpty (a : SceneApplied) : Bool :=
  a.elements.isEmpty && a.appState.isNone && a.files.isEmpty

/-- The authority scene: elements by id, tombstones included, with the costs of its parts. -/
structure Scene where
  elements : Map Text StoredElement
  appState : Fields
  files : Fields
  elementsCost : Nat
  appStateCost : Nat
  filesCost : Nat

def isWhitespace (c : Char) : Bool :=
  let n := c.toNat
  n == 0x20 || (0x09 ≤ n && n ≤ 0x0d) || n == 0x85 || n == 0xa0 || n == 0x1680 ||
    (0x2000 ≤ n && n ≤ 0x200a) || n == 0x2028 || n == 0x2029 || n == 0x202f || n == 0x205f ||
    n == 0x3000

def isBlank (text : Text) : Bool := text.all isWhitespace

def fileEntriesCost (files : Fields) : Nat := (files.map fun e => utf8Len e.1 + valueCost e.2).sum

namespace Scene

def empty : Scene := ⟨∅, [], [], 0, valueCost (.object []), 0⟩

def totalCost (s : Scene) : Nat := s.elementsCost + s.appStateCost + s.filesCost

def optionalArray (root : Fields) (key : Text) (reason : String) :
    Except SceneError (List Value) :=
  match KeyedList.find key root with
  | none | some .null => .ok []
  | some (.array items) => .ok items
  | some _ => .error (.bad reason)

def optionalObject (payload : Option Value) (reason : String) :
    Except SceneError (Option Fields) :=
  match payload with
  | none | some .null => .ok none
  | some (.object fields) => .ok (some fields)
  | some _ => .error (.bad reason)

def parseElements : List Value → Map Text StoredElement × Nat →
    Except SceneError (Map Text StoredElement × Nat)
  | [], acc => .ok acc
  | v :: vs, (elements, cost) =>
    match StoredElement.fromValue v with
    | .error e => .error e
    | .ok (elementId, el) =>
      match elements.lookup elementId with
      | some _ => parseElements vs (elements, cost)
      | none => parseElements vs (elements.insert elementId el, cost + el.cost)

def parse (fromStr : Text → Option Value) (text : Text) : Except SceneError Scene :=
  if isBlank text then .ok empty
  else match fromStr text with
  | none => .error (.bad "not valid JSON")
  | some (.object root) => do
    let raw ← optionalArray root "elements".toList "elements is not an array"
    let appState ← optionalObject (KeyedList.find "appState".toList root)
      "appState is not an object"
    let files ← optionalObject (KeyedList.find "files".toList root) "files is not an object"
    let (elements, cost) ← parseElements raw (∅, 0)
    let appState := appState.getD []
    let files := files.getD []
    return ⟨elements, appState, files, cost, valueCost (.object appState),
      fileEntriesCost files⟩
  | some _ => .error (.bad "top level is not an object")

def stage (stored : Map Text StoredElement) : List Value →
    Map Text StoredElement × List Value → Except SceneError (Map Text StoredElement × List Value)
  | [], acc => .ok acc
  | v :: vs, (staged, accepted) =>
    match StoredElement.fromValue v with
    | .error e => .error e
    | .ok (elementId, el) =>
      if ((staged.lookup elementId).or (stored.lookup elementId)).any fun c =>
          storedWins c el.version el.versionNonce then
        stage stored vs (staged, accepted)
      else stage stored vs (staged.insert elementId el, accepted ++ [.object el.value])

def newFiles (s : Scene) (files : Fields) : Fields :=
  files.filter fun e => (KeyedList.find e.1 s.files).isNone

def addFiles (files added : Fields) : Fields :=
  added.foldl (fun m e => KeyedList.insert e.1 e.2 m) files

def commitElement (acc : Map Text StoredElement × Nat)
    (e : Sigma fun _ : Text => StoredElement) : Map Text StoredElement × Nat :=
  (acc.1.insert e.1 e.2, acc.2 + e.2.cost - ((acc.1.lookup e.1).elim 0 StoredElement.cost))

def prospective (s : Scene) (staged : Map Text StoredElement) (appState : Option Fields)
    (added : Fields) : Int :=
  s.totalCost +
    (staged.entries.map fun e =>
      (e.2.cost : Int) - ((s.elements.lookup e.1).elim 0 StoredElement.cost : Nat)).sum +
    (appState.elim 0 fun o => (valueCost (.object o) : Int) - s.appStateCost) +
    fileEntriesCost added

def applyPushWithLimit (s : Scene) (elements : List Value) (appState files : Option Value)
    (limit : Nat) : Except SceneError (SceneApplied × Scene) := do
  let (staged, accepted) ← stage s.elements elements (∅, [])
  let carried ← optionalObject appState "appState is not an object"
  let carried := carried.filter fun o => o ≠ s.appState
  let payload ← optionalObject files "files is not an object"
  let added := s.newFiles (payload.getD [])
  let total := s.prospective staged carried added
  if limit < total then .error (.tooLarge total.toNat limit)
  else
    let (elements, cost) := staged.entries.foldl commitElement (s.elements, s.elementsCost)
    return (⟨accepted, carried.map .object, added⟩,
      { elements
        appState := carried.getD s.appState
        files := addFiles s.files added
        elementsCost := cost
        appStateCost := carried.elim s.appStateCost fun o => valueCost (.object o)
        filesCost := s.filesCost + fileEntriesCost added })

/-- By index, then by id; an element without an index comes after those with one. -/
def orderedLe (a b : Text × StoredElement) : Bool :=
  match a.2.index, b.2.index with
  | some i, some j => decide (i < j) || (i == j && decide (a.1 ≤ b.1))
  | some _, none => true
  | none, some _ => false
  | none, none => decide (a.1 ≤ b.1)

def ordered (s : Scene) : List (Text × StoredElement) :=
  (s.elements.entries.map fun e => (e.1, e.2)).insertionSort fun a b => orderedLe a b = true

def elementsSnapshot (s : Scene) : List Value := s.ordered.map fun e => .object e.2.value

end Scene

structure Replacing where
  next : Map Text StoredElement
  changed : List Value
  drawn : Nat

namespace Scene

def adoptIncoming (stored : Map Text StoredElement) (nonces : Nat → Nat) (r : Replacing)
    (e : Text × StoredElement) : Replacing :=
  match stored.lookup e.1 with
  | some old =>
    if old.value = e.2.value then { r with next := r.next.insert e.1 old }
    else
      let el := e.2.restamp (max (saturatingSucc old.version) e.2.version) (nonces r.drawn)
        e.2.isDeleted
      ⟨r.next.insert e.1 el, r.changed ++ [.object el.value], r.drawn + 1⟩
  | none => ⟨r.next.insert e.1 e.2, r.changed ++ [.object e.2.value], r.drawn⟩

def buryAbsent (incoming : Map Text StoredElement) (nonces : Nat → Nat) (r : Replacing)
    (e : Text × StoredElement) : Replacing :=
  if (incoming.lookup e.1).isSome then r
  else if e.2.isDeleted then { r with next := r.next.insert e.1 e.2 }
  else
    let el := e.2.restamp (saturatingSucc e.2.version) (nonces r.drawn) true
    ⟨r.next.insert e.1 el, r.changed ++ [.object el.value], r.drawn + 1⟩

def elementsCostOf (elements : Map Text StoredElement) : Nat :=
  (elements.entries.map fun e => e.2.cost).sum

def applyReplaceWithLimit (fromStr : Text → Option Value) (s : Scene) (text : Text)
    (nonces : Nat → Nat) (limit : Nat) : Except SceneError (SceneApplied × Scene) := do
  let incoming ← parse fromStr text
  let r := incoming.ordered.foldl (adoptIncoming s.elements nonces) ⟨∅, [], 0⟩
  let r := s.ordered.foldl (buryAbsent incoming.elements nonces) r
  let changed := decide (incoming.appState ≠ s.appState)
  let added := s.newFiles incoming.files
  let cost := elementsCostOf r.next
  let appStateCost := if changed then incoming.appStateCost else s.appStateCost
  let total := cost + appStateCost + s.filesCost + fileEntriesCost added
  if limit < total then .error (.tooLarge total limit)
  else
    return (⟨r.changed, if changed then some (.object incoming.appState) else none, added⟩,
      { elements := r.next
        appState := if changed then incoming.appState else s.appState
        files := addFiles s.files added
        elementsCost := cost
        appStateCost := appStateCost
        filesCost := s.filesCost + fileEntriesCost added })

def live (s : Scene) : List (Text × StoredElement) := s.ordered.filter fun e => !e.2.isDeleted

def referencedFiles (s : Scene) : Fields :=
  KeyedList.ofList (s.live.filterMap fun e =>
    ((KeyedList.find "fileId".toList e.2.value).bind Value.asStr).bind fun k =>
      (KeyedList.find k s.files).map fun v => (k, v))

/-- Whether two scenes mean the same file: content apart from merge clocks, tombstones and
unreferenced files. -/
def fileContentEq (s t : Scene) : Bool :=
  s.appState == t.appState &&
    KeyedList.ofList (s.live.map fun e => (e.1, e.2.content)) ==
      KeyedList.ofList (t.live.map fun e => (e.1, e.2.content)) &&
    s.referencedFiles == t.referencedFiles

def serializeFile (s : Scene) : Text :=
  Value.pretty 0 (.object
    [("type".toList, .string sceneFileType),
      ("version".toList, .ofNat sceneFileVersion),
      ("source".toList, .string sceneFileSource),
      ("elements".toList, .array (s.live.map fun e => .object e.2.value)),
      ("appState".toList, .object s.appState),
      ("files".toList, .object s.referencedFiles)])

end Scene

end Chan
