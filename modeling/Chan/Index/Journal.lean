import Chan.Lib.AssocMap
import Chan.Lib.Utf
import Chan.Workspace

namespace Chan.Index
open AssocMap Utf List

inductive PendingOp where
  | index
  | forget
  deriving DecidableEq

structure FileStat where
  isDir : Bool := false
  mtime : Option Int
  size : Nat

structure StatRow (ρ : Type) where
  mtime : Option Int
  size : Option Nat
  parsed : ρ
  noIndexEntry : Bool := false
  deriving DecidableEq

structure Stores (ρ χ : Type) where
  pendingWrites : Map Text PendingOp := ∅
  nodes : Map Text (StatRow ρ) := ∅
  textFiles : Map Text (StatRow Unit) := ∅
  index : Map Text (List χ) := ∅

structure IndexRules (ρ χ : Type) where
  isIndexableText : Text → Bool
  isMarkdownFile : Text → Bool
  parseForGraph : Text → Text → ρ
  chunks : Text → Text → List χ

/-- What a call is answered about its path: whether the policy includes it, its stat, what
`read_text` returns, and whether the bytes that `read` returns decode. -/
structure Sight where
  included : Bool
  stat : Option FileStat
  text : Option Text
  decodes : Option Bool

def Sight.oversized (v : Sight) : Bool :=
  v.stat.any fun s => !s.isDir && decide (textWriteLimit < s.size)

section

variable {ρ χ : Type}

namespace Stores

def journalRecord (rel : Text) (op : PendingOp) (s : Stores ρ χ) : Stores ρ χ :=
  { s with pendingWrites := s.pendingWrites.insert rel op }

def journalClearOne (rel : Text) (s : Stores ρ χ) : Stores ρ χ :=
  { s with pendingWrites := s.pendingWrites.erase rel }

def replaceFile (rel : Text) (row : StatRow ρ) (s : Stores ρ χ) : Stores ρ χ :=
  { s with nodes := s.nodes.insert rel row }

def stampTextFile (rel : Text) (mtime : Option Int) (size : Option Nat) (s : Stores ρ χ) :
    Stores ρ χ :=
  { s with
    nodes := s.nodes.erase rel
    textFiles := s.textFiles.insert rel ⟨mtime, size, (), false⟩ }

def markNoIndexEntry (rel : Text) (s : Stores ρ χ) : Stores ρ χ :=
  { s with
    nodes := mapWithKey (fun p row =>
      { row with noIndexEntry := row.noIndexEntry || decide (p = rel) })
      s.nodes
    textFiles :=
      mapWithKey (fun p row => { row with noIndexEntry := row.noIndexEntry || decide (p = rel) })
        s.textFiles }

def forgetGraph (rel : Text) (s : Stores ρ χ) : Stores ρ χ :=
  { s with
    nodes := s.nodes.erase rel
    textFiles := s.textFiles.erase rel }

def indexOne (rel : Text) (chunks : List χ) (s : Stores ρ χ) : Stores ρ χ :=
  { s with index := if chunks.isEmpty then s.index.erase rel else s.index.insert rel chunks }

def forgetIndex (rel : Text) (s : Stores ρ χ) : Stores ρ χ := { s with index := s.index.erase rel }

def view (s : Stores ρ χ) (p : Text) :
    Option PendingOp × Option (StatRow ρ) × Option (StatRow Unit) × Option (List χ) :=
  (s.pendingWrites.lookup p, s.nodes.lookup p, s.textFiles.lookup p, s.index.lookup p)

end Stores

abbrev Steps (ρ χ : Type) := List (Stores ρ χ → Stores ρ χ)

def Steps.run (steps : Steps ρ χ) (s : Stores ρ χ) : Stores ρ χ := steps.foldl (fun s f => f s) s

def forgetFileSerial (rel : Text) : Steps ρ χ :=
  [.journalRecord rel .forget, .forgetGraph rel, .forgetIndex rel, .journalClearOne rel]

variable (rules : IndexRules ρ χ)

def indexFileInner (rel : Text) (mtime : Option Int) (size : Option Nat) (content : Text) :
    Steps ρ χ :=
  [if rules.isMarkdownFile rel then
      .replaceFile rel ⟨mtime, size, rules.parseForGraph rel content, false⟩
    else .stampTextFile rel mtime size,
    .indexOne rel (rules.chunks rel content)] ++
  if (rules.chunks rel content).isEmpty then [.markNoIndexEntry rel] else []

def indexFileSerial (rel : Text) (v : Sight) : Steps ρ χ :=
  if !rules.isIndexableText rel then []
  else if !v.included then forgetFileSerial rel
  else if v.oversized then []
  else
    let mtime := v.stat.bind (·.mtime)
    let size := v.stat.map (·.size)
    .journalRecord rel .index ::
      match v.text with
      | some content => indexFileInner rules rel mtime size content ++ [.journalClearOne rel]
      | none =>
        if !rules.isMarkdownFile rel && v.decodes == some false then
          -- `record_undecodable_text_serial`
          [.stampTextFile rel mtime size, .markNoIndexEntry rel, .forgetIndex rel,
          .journalClearOne rel]
        else forgetFileSerial rel

inductive FileCall where
  | indexFile (rel : Text) (v : Sight)
  | forgetFile (rel : Text)

def FileCall.steps : FileCall → Steps ρ χ
  | indexFile rel v => indexFileSerial rules rel v
  | forgetFile rel => forgetFileSerial rel

def runCalls (calls : List (FileCall × Nat)) (s : Stores ρ χ) : Stores ρ χ :=
  calls.foldl (fun s c => Steps.run ((c.1.steps rules).take c.2) s) s

def replayEntry (disk : Text → Option Sight) (rel : Text) : PendingOp → Steps ρ χ
  | .index =>
    match disk rel with
    | some v => indexFileSerial rules rel v
    | none => forgetFileSerial rel
  | .forget => forgetFileSerial rel

def replayPendingWrites (disk : Text → Option Sight) (s : Stores ρ χ) : Stores ρ χ :=
  s.pendingWrites.entries.foldl (fun s e => (replayEntry rules disk e.1 e.2).run s) s

def source (disk : Text → Option Sight) (p : Text) : Option (Sight × Text) :=
  (disk p).bind fun v =>
    if rules.isIndexableText p && v.included && !v.oversized then v.text.map fun content =>
      (v, content)
    else none

/-- The stores say of the path what is on disk. -/
def Reflects (disk : Text → Option Sight) (s : Stores ρ χ) (p : Text) : Prop :=
  match source rules disk p with
  | some (v, content) =>
    let row {α : Type} (parsed : α) : StatRow α :=
      ⟨v.stat.bind (·.mtime), v.stat.map (·.size), parsed, (rules.chunks p content).isEmpty⟩
    s.index.lookup p =
        (if (rules.chunks p content).isEmpty then none else some (rules.chunks p content)) ∧
      if rules.isMarkdownFile p then
        s.nodes.lookup p = some (row (rules.parseForGraph p content)) ∧ s.textFiles.lookup p = none
      else s.nodes.lookup p = none ∧ s.textFiles.lookup p = some (row ())
  | none =>
    s.nodes.lookup p = none ∧ s.index.lookup p = none ∧
      ((s.textFiles.lookup p).isSome → ∃ v, disk p = some v ∧ v.text = none ∧
      v.decodes = some false)

/-- An entry whose replay settles it: no file that was to be indexed is over the limit now, and no
file that was to be forgotten is back. -/
def Settles (disk : Text → Option Sight) (p : Text) : PendingOp → Prop
  | .index => ∀ v ∈ disk p, v.included = true → v.oversized = false
  | .forget => source rules disk p = none

/-- Only a text file that is no Markdown has a stamp, and only indexable text is journaled to be
indexed. -/
def Kept (s : Stores ρ χ) : Prop :=
  ∀ p, ((s.textFiles.lookup p).isSome → rules.isMarkdownFile p = false) ∧
    (s.pendingWrites.lookup p = some .index → rules.isIndexableText p = true)

variable {rules} {s : Stores ρ χ} {disk : Text → Option Sight}

/-- A step of a call on a path: it leaves the other paths alone. -/
structure Local (rules : IndexRules ρ χ) (rel : Text) (f : Stores ρ χ → Stores ρ χ) : Prop where
  frame : ∀ s p, p ≠ rel → (f s).view p = s.view p
  kept : ∀ s, Kept rules s → Kept rules (f s)

namespace Local

lemma journalRecord (h : op = .index → rules.isIndexableText rel = true) :
    Local rules rel (.journalRecord rel op) := by
  constructor <;> grind [Kept, Stores.view, Stores.journalRecord]

lemma journalClearOne : Local rules rel (.journalClearOne rel) := by
  constructor <;> grind [Kept, Stores.view, Stores.journalClearOne]

lemma replaceFile : Local rules rel (.replaceFile rel row) := by
  constructor <;> grind [Kept, Stores.view, Stores.replaceFile]

lemma stampTextFile (h : rules.isMarkdownFile rel = false) :
    Local rules rel (.stampTextFile rel mtime size) := by
  constructor <;> grind [Kept, Stores.view, Stores.stampTextFile]

lemma forgetGraph : Local rules rel (.forgetGraph rel) := by
  constructor <;> grind [Kept, Stores.view, Stores.forgetGraph]

lemma indexOne : Local rules rel (.indexOne rel chunks) := by
  constructor <;> grind [Kept, Stores.view, Stores.indexOne]

lemma forgetIndex : Local rules rel (.forgetIndex rel) := by
  constructor <;> grind [Kept, Stores.view, Stores.forgetIndex]

lemma markNoIndexEntry : Local rules rel (.markNoIndexEntry rel) := by
  refine ⟨fun s p hp => ?_, fun s h p => ?_⟩
  · simp [Stores.view, Stores.markNoIndexEntry, lookup_mapWithKey, hp]
  · simpa [Stores.markNoIndexEntry, lookup_mapWithKey] using h p

lemma forgetFileSerial (hf : f ∈ forgetFileSerial rel) :
    Local rules rel f := by
  simp only [Index.forgetFileSerial, mem_cons, not_mem_nil, or_false] at hf
  rcases hf with rfl | rfl | rfl | rfl
  · exact journalRecord nofun
  · exact forgetGraph
  · exact forgetIndex
  · exact journalClearOne

lemma indexFileSerial (hf : f ∈ indexFileSerial rules rel v) :
    Local rules rel f := by
  unfold Index.indexFileSerial at hf
  split at hf
  · cases hf
  · rename_i hindexable
    split at hf
    · exact forgetFileSerial hf
    · split at hf
      · cases hf
      · rcases List.mem_cons.1 hf with rfl | hf
        · exact journalRecord fun _ => by simpa using hindexable
        · split at hf
          · simp only [indexFileInner, mem_append, mem_cons, not_mem_nil,
              or_false] at hf
            rcases hf with ((rfl | rfl) | hf) | rfl
            · split
              · exact replaceFile
              · rename_i hmarkdown
                exact stampTextFile (Bool.not_eq_true _ ▸ hmarkdown)
            · exact indexOne
            · split at hf
              · exact List.mem_singleton.1 hf ▸ markNoIndexEntry
              · cases hf
            · exact journalClearOne
          · split at hf
            · rename_i hmarkdown
              simp only [mem_cons, not_mem_nil, or_false] at hf
              rcases hf with rfl | rfl | rfl | rfl
              · exact stampTextFile (by simp at hmarkdown; exact hmarkdown.1)
              · exact markNoIndexEntry
              · exact forgetIndex
              · exact journalClearOne
            · exact forgetFileSerial hf

lemma steps : ∀ {c : FileCall}, f ∈ c.steps rules →
    ∃ rel, Local rules rel f
  | .indexFile rel _, hf => ⟨rel, indexFileSerial hf⟩
  | .forgetFile rel, hf => ⟨rel, forgetFileSerial hf⟩

lemma replayEntry (hf : f ∈ replayEntry rules disk rel op) :
    Local rules rel f := by
  cases op with
  | forget => exact forgetFileSerial hf
  | index =>
    rw [Index.replayEntry] at hf
    split at hf
    · exact indexFileSerial hf
    · exact forgetFileSerial hf

end Local

lemma Kept.run {steps : Steps ρ χ} (h : Kept rules s)
    (hsteps : ∀ f ∈ steps, ∃ rel, Local rules rel f) :
    Kept rules (steps.run s) := by
  induction steps generalizing s with
  | nil => exact h
  | cons f steps ih =>
    obtain ⟨rel, hf⟩ := hsteps f mem_cons_self
    exact ih (hf.kept s h) fun g hg => hsteps g (mem_cons_of_mem _ hg)

lemma Kept.runCalls (h : Kept rules s) (calls : List (FileCall × Nat)) :
    Kept rules (runCalls rules calls s) := by
  induction calls generalizing s with
  | nil => exact h
  | cons c calls ih =>
    exact ih (h.run fun f hf => Local.steps (mem_of_mem_take hf))

lemma view_run {steps : Steps ρ χ} (hsteps : ∀ f ∈ steps, Local rules rel f) (hp : p ≠ rel) :
    (steps.run s).view p = s.view p := by
  induction steps generalizing s with
  | nil => rfl
  | cons f steps ih =>
    exact (ih fun g hg => hsteps g (mem_cons_of_mem _ hg)).trans
      ((hsteps f mem_cons_self).frame s p hp)

lemma view_forgetFileSerial :
    (Steps.run (forgetFileSerial p) s).view p = (none, none, none, none) := by
  simp [forgetFileSerial, Steps.run, Stores.view, Stores.journalRecord, Stores.forgetGraph,
    Stores.forgetIndex, Stores.journalClearOne]

lemma view_indexFileInner (content : Text) (h : Kept rules s)
    (mtime : Option Int) (size : Option Nat) :
    (Steps.run (indexFileInner rules p mtime size content ++ [.journalClearOne p])
      (s.journalRecord p .index)).view p =
      let row {α : Type} (parsed : α) : StatRow α :=
        ⟨mtime, size, parsed, (rules.chunks p content).isEmpty⟩
      (none, if rules.isMarkdownFile p then some (row (rules.parseForGraph p content)) else none,
        if rules.isMarkdownFile p then none else some (row ()),
        if (rules.chunks p content).isEmpty then none else some (rules.chunks p content)) := by
  have hstamp := (h p).1
  cases hmarkdown : rules.isMarkdownFile p <;> cases hchunks : (rules.chunks p content).isEmpty <;>
    simp_all [indexFileInner, Steps.run, Stores.view, Stores.journalRecord, Stores.replaceFile,
      Stores.stampTextFile, Stores.indexOne, Stores.markNoIndexEntry, Stores.journalClearOne,
      lookup_mapWithKey]

def Settled (rules : IndexRules ρ χ) (disk : Text → Option Sight) (s : Stores ρ χ) (p : Text) :
    Prop :=
  s.pendingWrites.lookup p = none ∧ Reflects rules disk s p

lemma Settled.congr (h : s.view p = s'.view p) :
    Settled rules disk s p ↔ Settled rules disk s' p := by
  simp only [Stores.view, Prod.mk.injEq] at h
  simp only [Settled, Reflects, h]

lemma settled_forgotten (h : s.view p = (none, none, none, none)) :
    Settled rules disk s p ↔ source rules disk p = none := by
  simp only [Stores.view, Prod.mk.injEq] at h
  simp only [Settled, Reflects, h]
  split
  · rename_i heq
    cases hmarkdown : rules.isMarkdownFile p <;> simp [heq]
  · rename_i heq
    simp [heq]

lemma settled_replayEntry (h : Kept rules s) (hop : s.pendingWrites.lookup p = some op) :
    Settled rules disk ((replayEntry rules disk p op).run s) p ↔ Settles rules disk p op := by
  cases op with
  | forget => exact settled_forgotten view_forgetFileSerial
  | index =>
    have hindexable := (h p).2 hop
    cases hdisk : disk p with
    | none =>
      rw [replayEntry, hdisk]
      simp [settled_forgotten view_forgetFileSerial, source, Settles, hdisk]
    | some v =>
      simp only [replayEntry, hdisk, indexFileSerial, hindexable, Settles, Option.mem_def,
        Option.some.injEq, forall_eq', Bool.not_true, Bool.false_eq_true, if_false]
      cases hincluded : v.included with
      | false => simp [settled_forgotten view_forgetFileSerial, source, hdisk, hincluded]
      | true =>
        cases hover : v.oversized with
        | true => simp [Steps.run, Settled, hop]
        | false =>
          simp only [Bool.not_true, Bool.false_eq_true, if_false, implies_true, iff_true]
          have hsource : source rules disk p = v.text.map fun content => (v, content) := by
            simp [source, hdisk, hindexable, hincluded, hover]
          cases htext : v.text with
          | some content =>
            rw [htext] at hsource
            have hview := view_indexFileInner (p := p) content h (v.stat.bind (·.mtime))
              (v.stat.map (·.size))
            simp only [Stores.view, Prod.mk.injEq] at hview
            obtain ⟨hpending, hnodes, htextFiles, hindex⟩ := hview
            refine ⟨hpending, ?_⟩
            rw [Reflects, hsource]
            refine ⟨hindex, ?_⟩
            cases hmarkdown : rules.isMarkdownFile p <;>
              exact ⟨hnodes.trans (by simp [hmarkdown]), htextFiles.trans (by simp [hmarkdown])⟩
          | none =>
            rw [htext] at hsource
            cases hstamp : !rules.isMarkdownFile p && v.decodes == some false with
            | false => exact (settled_forgotten view_forgetFileSerial).2 hsource
            | true =>
              simp only [Bool.and_eq_true, beq_iff_eq] at hstamp
              rw [Settled, Reflects, hsource]
              simp [Steps.run, Stores.journalRecord, Stores.stampTextFile, Stores.markNoIndexEntry,
                Stores.forgetIndex, Stores.journalClearOne, lookup_mapWithKey, hdisk,
                htext, hstamp.2]

lemma foldl_replayEntry (disk : Text → Option Sight)
    (entries : List (Sigma fun _ : Text => PendingOp)) (hnodup : entries.NodupKeys)
    (hkept : Kept rules s) (hops : ∀ e ∈ entries, s.pendingWrites.lookup e.1 = some e.2) :
    (∀ p, p ∉ entries.keys →
      (entries.foldl (fun s e => (replayEntry rules disk e.1 e.2).run s) s).view p = s.view p) ∧
    ∀ e ∈ entries, Settled rules disk
      (entries.foldl (fun s e => (replayEntry rules disk e.1 e.2).run s) s) e.1 ↔
        Settles rules disk e.1 e.2 := by
  induction entries generalizing s with
  | nil => exact ⟨fun _ _ => rfl, nofun⟩
  | cons e entries ih =>
    obtain ⟨hnew, hnodup⟩ := List.nodupKeys_cons.1 hnodup
    have hframe : ∀ {p}, p ≠ e.1 → ((replayEntry rules disk e.1 e.2).run s).view p = s.view p :=
      fun hp => view_run (fun _ => Local.replayEntry) hp
    obtain ⟨hother, hsettled⟩ := ih (s := (replayEntry rules disk e.1 e.2).run s) hnodup
      (hkept.run fun _ hf => ⟨_, Local.replayEntry hf⟩) fun e' he' => by
        have hne : e'.1 ≠ e.1 := fun heq => hnew (heq ▸ mem_keys_of_mem he')
        have hview := congrArg Prod.fst (hframe hne)
        exact hview.trans (hops e' (mem_cons_of_mem _ he'))
    refine ⟨fun p hp => ?_, fun e' he' => ?_⟩
    · simp only [keys_cons, mem_cons, not_or] at hp
      exact (hother p hp.2).trans (hframe hp.1)
    · rcases List.mem_cons.1 he' with rfl | he'
      · rw [foldl_cons, Settled.congr (hother e'.1 hnew)]
        exact settled_replayEntry hkept (hops e' mem_cons_self)
      · exact hsettled e' he'

/-- However calls were cut short and the disk changed since, a replay that ends with an empty
journal and with stores that say of every journaled path what is on disk is one whose entries can
all be settled. -/
theorem replay_converges_iff (rules : IndexRules ρ χ) (s : Stores ρ χ) (hkept : Kept rules s)
    (calls : List (FileCall × Nat)) (disk : Text → Option Sight) :
    ((∀ p, (replayPendingWrites rules disk (runCalls rules calls s)).pendingWrites.lookup p =
      none) ∧ ∀ p op, (runCalls rules calls s).pendingWrites.lookup p = some op →
        Reflects rules disk (replayPendingWrites rules disk (runCalls rules calls s)) p) ↔
    ∀ p op, (runCalls rules calls s).pendingWrites.lookup p = some op →
    Settles rules disk p op := by
  generalize hleft : runCalls rules calls s = left
  have hleftKept : Kept rules left := hleft ▸ hkept.runCalls calls
  obtain ⟨hother, hsettled⟩ := foldl_replayEntry disk left.pendingWrites.entries
    left.pendingWrites.nodupKeys hleftKept fun e he => AList.mem_lookup_iff.2 he
  have hentry : ∀ p op, left.pendingWrites.lookup p = some op →
      (Settled rules disk (replayPendingWrites rules disk left) p ↔ Settles rules disk p op) :=
    fun p op hop => hsettled ⟨p, op⟩ (AList.mem_lookup_iff.1 hop)
  constructor
  · rintro ⟨hempty, hreflects⟩ p op hop
    exact (hentry p op hop).1 ⟨hempty p, hreflects p op hop⟩
  · intro h
    refine ⟨fun p => ?_, fun p op hop => ((hentry p op hop).2 (h p op hop)).2⟩
    cases hop : left.pendingWrites.lookup p with
    | some op => exact ((hentry p op hop).2 (h p op hop)).1
    | none =>
      have hview := congrArg Prod.fst (hother p (AList.lookup_eq_none.1 hop))
      exact hview.trans hop

end

def oneChunk : IndexRules Text Text where
  isIndexableText _ := true
  isMarkdownFile _ := true
  parseForGraph _ content := content
  chunks _ content := [content]

def seen (size : Nat) (content : Text) : Sight :=
  ⟨true, some { mtime := some 0, size }, some content, some true⟩

/-- A call that was cut after its graph transaction, on a file that was written again since. -/
theorem replay_converges_iff_edited :
    Reflects oneChunk (fun _ => some (seen 1 ['y'])) (replayPendingWrites oneChunk
      (fun _ => some (seen 1 ['y'])) (runCalls oneChunk [(.indexFile ['p'] (seen 1 ['x']), 2)] {}))
      ['p'] := by
  have hkept : Kept oneChunk ({} : Stores Text Text) := fun p => ⟨nofun, nofun⟩
  refine ((replay_converges_iff oneChunk {} hkept [(.indexFile ['p'] (seen 1 ['x']), 2)]
    fun _ => some (seen 1 ['y'])).2 ?_).2 ['p'] .index (by decide +kernel)
  intro p op hop
  have hpending : (runCalls oneChunk [(.indexFile ['p'] (seen 1 ['x']), 2)] {}).pendingWrites =
      (∅ : Map Text PendingOp).insert ['p'] .index := by rfl
  rcases lookup_insert_eq_some hop with ⟨-, rfl⟩ | ⟨-, hop⟩
  · rintro v ⟨⟩ -
    decide
  · cases hop

/-- A file that grew over the limit stays journaled, and one that was created again is in neither
store. -/
theorem replay_leaves_journaled :
    (replayPendingWrites oneChunk (fun _ => some (seen (textWriteLimit + 1) ['y']))
      (runCalls oneChunk [(.indexFile ['p'] (seen 1 ['x']), 2)] {})).pendingWrites.lookup ['p'] =
        some .index ∧
    ¬Reflects oneChunk (fun _ => some (seen 1 ['y'])) (replayPendingWrites oneChunk
      (fun _ => some (seen 1 ['y'])) (runCalls oneChunk [(.forgetFile ['p'], 1)] {})) ['p'] := by
  refine ⟨by decide +kernel, fun h => ?_⟩
  have hindex := h.1
  exact absurd hindex (by decide +kernel)

end Chan.Index
