import Chan.Lib.AssocMap
import Chan.Lib.Utf

namespace Chan.Index
open AssocMap Utf List

structure TreeEntry (β : Type) where
  path : Text
  isDir : Bool := false
  mtime : Option Int
  size : Nat
  bytes : β
  opens : Bool := true

structure GraphRules (β ρ : Type) where
  isIndexableText : Text → Bool
  isMarkdownFile : Text → Bool
  decode : β → Option Text
  parseForGraph : Text → Text → ρ

structure FileGraph (ρ : Type) where
  mtime : Option Int
  size : Nat
  parsed : ρ
  deriving DecidableEq

structure GraphTables (ρ : Type) where
  live : Map Text (FileGraph ρ) := ∅
  staging : Map Text (FileGraph ρ) := ∅
  textFiles : List (Text × Option Int × Nat) := []

section

variable {β ρ : Type} (rules : GraphRules β ρ)

def readText (e : TreeEntry β) : Option Text := if e.opens then rules.decode e.bytes else none

def GraphTables.stagingCursor (g : GraphTables ρ) : Option Text := g.staging.keys.argmax id

/-- Drop the rows of files that are gone or have another stat. -/
def GraphTables.sanitizeStagingAgainstLive (g : GraphTables ρ) (entries : List (TreeEntry β)) :
    GraphTables ρ :=
  { g with staging := retain (fun p row => entries.any fun e =>
      !e.isDir && rules.isMarkdownFile e.path && decide (e.path = p) &&
        decide (row.mtime = e.mtime) && decide (row.size = e.size)) g.staging }

def GraphTables.resumed (g : GraphTables ρ) (entries : List (TreeEntry β)) : GraphTables ρ :=
  match g.stagingCursor with
  | some _ => g.sanitizeStagingAgainstLive rules entries
  | none => { g with staging := ∅ }

def stageEntry (cursor : Option Text) (acc : GraphTables ρ × List (Text × Option Int × Nat))
    (e : TreeEntry β) : GraphTables ρ × List (Text × Option Int × Nat) :=
  if e.isDir || !rules.isIndexableText e.path then acc
  else if !rules.isMarkdownFile e.path then
    (acc.1, if (readText rules e).isSome then acc.2 ++ [(e.path, e.mtime, e.size)] else acc.2)
  else if cursor.any (fun c => decide (e.path ≤ c)) then acc
  else
    match readText rules e with
    | some content =>
      ({ acc.1 with staging :=
          acc.1.staging.insert e.path ⟨e.mtime, e.size, rules.parseForGraph e.path content⟩ },
          acc.2)
    | none => acc

def walk (g : GraphTables ρ) (cursor : Option Text) (entries : List (TreeEntry β)) :
    GraphTables ρ × List (Text × Option Int × Nat) :=
  entries.foldl (stageEntry rules cursor) (g, [])

/-- What a run that does not complete leaves. It ends before the stale rows are purged, which leaves
the tables as they were, or after that purge and `n` entries of its walk. -/
def cutRebuild (g : GraphTables ρ) (entries : List (TreeEntry β)) : Option Nat → GraphTables ρ
  | none => g
  | some n =>
    let g := g.resumed rules entries
    (walk rules g g.stagingCursor (entries.take n)).1

def rebuildGraph (g : GraphTables ρ) (entries : List (TreeEntry β)) : GraphTables ρ :=
  let g := g.resumed rules entries
  let (g, textFiles) := walk rules g g.stagingCursor entries
  { live := g.staging, textFiles }

def cutRuns (runs : List (List (TreeEntry β) × Option Nat)) : GraphTables ρ :=
  runs.foldl (fun g r => cutRebuild rules g r.1 r.2) {}

def document (entries : List (TreeEntry β)) (p : Text) : Option (TreeEntry β) :=
  entries.find? fun e =>
    decide (e.path = p) && !e.isDir && rules.isIndexableText e.path && rules.isMarkdownFile e.path

def fresh (entries : List (TreeEntry β)) (p : Text) : Option (FileGraph ρ) :=
  (document rules entries p).bind fun e =>
    (readText rules e).map fun content => ⟨e.mtime, e.size, rules.parseForGraph p content⟩

/-- A row is staged for the file, and it has the file's stat. -/
def GraphTables.Stages (g : GraphTables ρ) (e : TreeEntry β) : Prop :=
  ∃ row, g.staging.lookup e.path = some row ∧ row.mtime = e.mtime ∧ row.size = e.size

/-- Every listed document that is staged with its stat can still be read, and so is staged every
listed document at a lesser path that can be read. -/
def Resumable (g : GraphTables ρ) (entries : List (TreeEntry β)) : Prop :=
  ∀ p e, document rules entries p = some e → g.Stages e →
    (readText rules e).isSome ∧ ∀ q ≤ p, ∀ e', document rules entries q = some e' →
      (readText rules e').isSome → g.Stages e'

/-- A file listed in both with one stat has one content. -/
def Unedited (entries entries' : List (TreeEntry β)) : Prop :=
  ∀ e ∈ entries, ∀ e' ∈ entries', e'.path = e.path → e'.mtime = e.mtime → e'.size = e.size →
    e'.bytes = e.bytes

/-- Every staged row was parsed from one of the entries. -/
def Derived (entries : List (TreeEntry β)) (g : GraphTables ρ) : Prop :=
  ∀ p row, g.staging.lookup p = some row → ∃ e ∈ entries, e.path = p ∧ e.isDir = false ∧
    rules.isIndexableText p = true ∧ rules.isMarkdownFile p = true ∧ ∃ content,
      rules.decode e.bytes = some content ∧ row = ⟨e.mtime, e.size, rules.parseForGraph p content⟩

variable {rules} {g : GraphTables ρ} {entries entries' : List (TreeEntry β)} {cursor : Option Text}

lemma lookup_resumed (p : Text) (row : FileGraph ρ) :
    (g.resumed rules entries).staging.lookup p = some row ↔
      g.staging.lookup p = some row ∧ ∃ e ∈ entries, e.isDir = false ∧
        rules.isMarkdownFile e.path = true ∧ e.path = p ∧ row.mtime = e.mtime ∧
          row.size = e.size := by
  rw [GraphTables.resumed]
  split
  · change (retain _ g.staging).lookup p = some row ↔ _
    rw [lookup_retain, Option.filter_eq_some_iff]
    simp only [any_eq_true, Bool.and_eq_true, decide_eq_true_eq, Bool.not_eq_true', and_assoc]
  · rename_i hcursor
    have hkeys : g.staging.keys = [] := List.argmax_eq_none.1 hcursor
    constructor
    · intro hrow
      cases hrow
    · rintro ⟨hrow, -⟩
      have hmem := AList.lookup_isSome.1 (Option.isSome_of_eq_some hrow)
      cases hkeys ▸ AList.mem_keys.1 hmem

/-- With distinct paths the document of a path is the one entry of it, if that is a document. -/
lemma document_eq_some_iff (hnodup : (entries.map (·.path)).Nodup) :
    document rules entries p = some e ↔
      e ∈ entries ∧ e.path = p ∧ e.isDir = false ∧ rules.isIndexableText p = true ∧
        rules.isMarkdownFile p = true := by
  constructor
  · intro h
    have hdoc := List.find?_some h
    simp only [Bool.and_eq_true, decide_eq_true_eq, Bool.not_eq_true'] at hdoc
    obtain ⟨⟨⟨rfl, hfile⟩, hindexable⟩, hmarkdown⟩ := hdoc
    exact ⟨mem_of_find?_eq_some h, rfl, hfile, hindexable, hmarkdown⟩
  · rintro ⟨he, rfl, hfile, hindexable, hmarkdown⟩
    cases h : document rules entries e.path with
    | none =>
      have hnot := List.find?_eq_none.1 h e he
      simp [hfile, hindexable, hmarkdown] at hnot
    | some e' =>
      have hpath := List.find?_some h
      simp only [Bool.and_eq_true, decide_eq_true_eq] at hpath
      rw [inj_on_of_nodup_map hnodup (mem_of_find?_eq_some h) he hpath.1.1.1]

lemma fresh_isSome_iff :
    (fresh rules entries p).isSome ↔
      ∃ e, document rules entries p = some e ∧ (readText rules e).isSome := by
  rw [fresh]
  cases document rules entries p <;> simp

lemma lookup_stageEntry (acc : GraphTables ρ × List (Text × Option Int × Nat)) (e : TreeEntry β)
    (p : Text) :
    (stageEntry rules cursor acc e).1.staging.lookup p =
      if cursor.any (fun c => decide (p ≤ c)) then acc.1.staging.lookup p
      else (fresh rules [e] p).or (acc.1.staging.lookup p) := by
  grind [stageEntry, fresh, document, readText]

lemma fresh_eq_none (h : p ∉ entries.map (·.path)) : fresh rules entries p = none := by
  have hnone : document rules entries p = none := by
    refine List.find?_eq_none.2 fun e he => ?_
    have hne : e.path ≠ p := fun heq => h (heq ▸ mem_map_of_mem he)
    simp [hne]
  rw [fresh, hnone]
  rfl

lemma fresh_cons (h : e.path ∉ entries.map (·.path)) :
    fresh rules (e :: entries) p =
      if e.path = p then fresh rules [e] p else fresh rules entries p := by
  by_cases hp : e.path = p
  · have hrest : fresh rules entries p = none := fresh_eq_none (hp ▸ h)
    grind [fresh, document]
  · grind [fresh, document]

lemma lookup_walk (hnodup : (entries.map (·.path)).Nodup) :
    (entries.foldl (stageEntry rules cursor) acc).1.staging.lookup p =
      if cursor.any (fun c => decide (p ≤ c)) then acc.1.staging.lookup p
      else (fresh rules entries p).or (acc.1.staging.lookup p) := by
  induction entries generalizing acc with
  | nil => cases h : cursor.any (fun c => decide (p ≤ c)) <;> rfl
  | cons e entries ih =>
    obtain ⟨hnew, hnodup⟩ := List.nodup_cons.1 (map_cons ▸ hnodup)
    rw [foldl_cons, ih hnodup, lookup_stageEntry, fresh_cons hnew]
    by_cases hp : e.path = p
    · subst hp
      have hrest : fresh rules entries e.path = none := fresh_eq_none hnew
      grind
    · have hother : fresh rules [e] p = none := fresh_eq_none (by simp [Ne.symm hp])
      grind

lemma fresh_eq_some (h : fresh rules entries p = some row) :
    ∃ e ∈ entries, e.path = p ∧ e.isDir = false ∧ rules.isIndexableText p = true ∧
      rules.isMarkdownFile p = true ∧ ∃ content, rules.decode e.bytes = some content ∧
        row = ⟨e.mtime, e.size, rules.parseForGraph p content⟩ := by
  obtain ⟨e, he, hrow⟩ := Option.bind_eq_some_iff.1 h
  obtain ⟨content, hread, rfl⟩ := Option.map_eq_some_iff.1 hrow
  have hdoc := List.find?_some he
  simp only [Bool.and_eq_true, decide_eq_true_eq, Bool.not_eq_true'] at hdoc
  obtain ⟨⟨⟨rfl, hfile⟩, hindexable⟩, hmarkdown⟩ := hdoc
  exact ⟨e, mem_of_find?_eq_some he, rfl, hfile, hindexable, hmarkdown, content,
    (Option.ite_none_right_eq_some.1 hread).2, rfl⟩

lemma Derived.stageEntries {all walked : List (TreeEntry β)}
    (acc : GraphTables ρ × List (Text × Option Int × Nat)) (h : Derived rules all acc.1)
    (hsub : ∀ e ∈ walked, e ∈ all) :
    Derived rules all (walked.foldl (stageEntry rules cursor) acc).1 := by
  induction walked generalizing acc with
  | nil => exact h
  | cons e walked ih =>
    refine ih _ ?_ fun e' he' => hsub e' (mem_cons_of_mem _ he')
    intro p row hrow
    rw [lookup_stageEntry] at hrow
    split at hrow
    · exact h p row hrow
    · rcases Option.or_eq_some_iff.1 hrow with hnew | ⟨-, hold⟩
      · obtain ⟨e', he', hrest⟩ := fresh_eq_some hnew
        cases List.mem_singleton.1 he'
        exact ⟨e, hsub e mem_cons_self, hrest⟩
      · exact h p row hold

lemma Derived.cutRebuild {all : List (TreeEntry β)} (h : Derived rules all g)
    (hsub : ∀ e ∈ entries, e ∈ all) (cut : Option Nat) :
    Derived rules all (cutRebuild rules g entries cut) := by
  cases cut with
  | none => exact h
  | some n =>
    apply Derived.stageEntries
    · intro p row hrow
      exact h p row ((lookup_resumed p row).1 hrow).1
    · intro e he
      exact hsub e (mem_of_mem_take he)

lemma derived_cutRuns (runs : List (List (TreeEntry β) × Option Nat)) :
    Derived rules (runs.flatMap Prod.fst) (cutRuns rules runs) := by
  apply List.foldlRecOn
  · intro p row hrow
    cases hrow
  · exact fun _ hg r hr => hg.cutRebuild (fun e he => List.mem_flatMap.2 ⟨r, hr, he⟩) r.2

/-- The rows that the purge leaves are those of the listed documents staged with their stat. -/
lemma resumed_isSome_iff {all : List (TreeEntry β)} (hnodup : (entries.map (·.path)).Nodup)
    (h : Derived rules all g) :
    ((g.resumed rules entries).staging.lookup p).isSome ↔
      ∃ e, document rules entries p = some e ∧ g.Stages e := by
  rw [Option.isSome_iff_exists]
  constructor
  · rintro ⟨row, hrow⟩
    obtain ⟨hstaged, e, he, hfile, hmarkdown, rfl, hstat⟩ := (lookup_resumed p row).1 hrow
    obtain ⟨-, -, -, -, hindexable, -⟩ := h _ row hstaged
    exact ⟨e, (document_eq_some_iff hnodup).2 ⟨he, rfl, hfile, hindexable, hmarkdown⟩, row, hstaged,
      hstat⟩
  · rintro ⟨e, hdoc, row, hstaged, hstat⟩
    obtain ⟨he, rfl, hfile, -, hmarkdown⟩ := (document_eq_some_iff hnodup).1 hdoc
    exact ⟨row, (lookup_resumed _ row).2 ⟨hstaged, e, he, hfile, hmarkdown, rfl, hstat⟩⟩

lemma Derived.resumed_eq_fresh {all : List (TreeEntry β)} {row row' : FileGraph ρ}
    (h : Derived rules all g) (hsame : Unedited all entries)
    (hnodup : (entries.map (·.path)).Nodup)
    (hrow : (g.resumed rules entries).staging.lookup p = some row)
    (hfresh : fresh rules entries p = some row') : row = row' := by
  obtain ⟨hstaged, e', he', -, -, rfl, hmtime, hsize⟩ := (lookup_resumed p row).1 hrow
  obtain ⟨e, he, hpath, -, -, -, content, hdecode, rfl⟩ := h _ row hstaged
  obtain ⟨e'', he'', hpath', -, -, -, content', hdecode', rfl⟩ := fresh_eq_some hfresh
  cases inj_on_of_nodup_map hnodup he'' he' hpath'
  have hbytes := hsame e he e' he' hpath.symm hmtime.symm hsize.symm
  cases (hbytes ▸ hdecode).symm.trans hdecode'
  rw [show e.mtime = e'.mtime from hmtime, show e.size = e'.size from hsize]

lemma lookup_past_cursor (h : g.stagingCursor.any (fun c => decide (p ≤ c)) = false) :
    g.staging.lookup p = none := by
  by_contra hsome
  have hmem : p ∈ g.staging.keys :=
    AList.lookup_isSome.1 (Option.isSome_iff_ne_none.2 hsome)
  cases hc : g.stagingCursor with
  | none => cases List.argmax_eq_none.1 hc ▸ hmem
  | some c =>
    rw [hc, Option.any_some, decide_eq_false_iff_not] at h
    have hle := le_of_mem_argmax (f := id) hmem (m := c)
      (by rw [GraphTables.stagingCursor] at hc; convert Option.mem_def.2 hc)
    exact h hle

lemma below_cursor (hq : q ≤ p) (hp : (g.staging.lookup p).isSome) :
    g.stagingCursor.any (fun c => decide (q ≤ c)) = true := by
  by_contra hpast
  have hnone : g.staging.lookup p = none := by
    refine lookup_past_cursor (Bool.eq_false_iff.2 fun hany => hpast ?_)
    obtain ⟨c, hc, hle⟩ := (Option.any_eq_true _ _).1 hany
    exact (Option.any_eq_true _ _).2 ⟨c, hc, decide_eq_true (hq.trans (of_decide_eq_true hle))⟩
  rw [hnone] at hp
  cases hp

lemma stagingCursor_mem (h : g.stagingCursor = some c) : (g.staging.lookup c).isSome := by
  apply AList.lookup_isSome.2
  rw [GraphTables.stagingCursor] at h
  exact AList.mem_keys.2 (argmax_mem (Option.mem_def.2 h))

lemma lookup_rebuildGraph (hnodup : (entries.map (·.path)).Nodup) (p : Text) :
    (rebuildGraph rules g entries).live.lookup p =
      if (g.resumed rules entries).stagingCursor.any (fun c => decide (p ≤ c)) then
        (g.resumed rules entries).staging.lookup p
      else fresh rules entries p := by
  refine (lookup_walk hnodup).trans ?_
  split
  · rfl
  · rename_i hpast
    rw [lookup_past_cursor (Bool.not_eq_true _ ▸ hpast), Option.or_none]

/-- However the runs before were cut short and files changed between the runs, the last one leaves
exactly the rows of the documents it lists and can read if and only if what was staged before it is
resumable. -/
theorem rebuild_resumes_iff (rules : GraphRules β ρ) (runs : List (List (TreeEntry β) × Option Nat))
    (entries : List (TreeEntry β)) (hnodup : (entries.map (·.path)).Nodup)
    (hsame : ∀ r ∈ runs, Unedited r.1 entries) :
    (∀ p, (rebuildGraph rules (cutRuns rules runs) entries).live.lookup p = fresh rules entries p) ↔
      Resumable rules (cutRuns rules runs) entries := by
  have hderived : Derived rules _ (cutRuns rules runs) := derived_cutRuns runs
  have hunedited : Unedited (runs.flatMap Prod.fst) entries := by
    intro e he
    obtain ⟨r, hr, her⟩ := List.mem_flatMap.1 he
    exact hsame r hr e her
  generalize cutRuns rules runs = g at hderived ⊢
  constructor
  · intro h
    -- at or below a path that the purge leaves, the published rows are those it leaves
    have hcovered : ∀ p q, q ≤ p → ((g.resumed rules entries).staging.lookup p).isSome →
        (g.resumed rules entries).staging.lookup q = fresh rules entries q := by
      intro p q hq hp
      rw [← h q, lookup_rebuildGraph hnodup, if_pos (below_cursor hq hp)]
    intro p e hdoc hstaged
    have hp := (resumed_isSome_iff hnodup hderived).2 ⟨e, hdoc, hstaged⟩
    constructor
    · rw [hcovered p p le_rfl hp] at hp
      obtain ⟨e', hdoc', hread⟩ := fresh_isSome_iff.1 hp
      cases hdoc.symm.trans hdoc'
      exact hread
    · intro q hq e' hdoc' hread
      have hfresh := fresh_isSome_iff.2 ⟨e', hdoc', hread⟩
      rw [← hcovered p q hq hp] at hfresh
      obtain ⟨e'', hdoc'', hstaged'⟩ := (resumed_isSome_iff hnodup hderived).1 hfresh
      cases hdoc'.symm.trans hdoc''
      exact hstaged'
  · intro h p
    rw [lookup_rebuildGraph hnodup]
    split
    · rename_i hpast
      obtain ⟨c, hc, hp⟩ := (Option.any_eq_true _ _).1 hpast
      obtain ⟨e, hdoc, hstaged⟩ := (resumed_isSome_iff hnodup hderived).1 (stagingCursor_mem hc)
      have hbelow := (h c e hdoc hstaged).2 p (of_decide_eq_true hp)
      cases hrow : (g.resumed rules entries).staging.lookup p with
      | none =>
        refine (Option.not_isSome_iff_eq_none.1 fun hfresh => ?_).symm
        obtain ⟨e', hdoc', hread⟩ := fresh_isSome_iff.1 hfresh
        have hkept := (resumed_isSome_iff hnodup hderived).2 ⟨e', hdoc', hbelow e' hdoc' hread⟩
        rw [hrow] at hkept
        cases hkept
      | some row =>
        obtain ⟨e', hdoc', hstaged'⟩ :=
          (resumed_isSome_iff hnodup hderived).1 (Option.isSome_of_eq_some hrow)
        obtain ⟨row', hfresh⟩ := Option.isSome_iff_exists.1
          (fresh_isSome_iff.2 ⟨e', hdoc', (h p e' hdoc' hstaged').1⟩)
        rw [hfresh, hderived.resumed_eq_fresh hunedited hnodup hrow hfresh]
    · rfl

end

def plainRules : GraphRules Text Text where
  isIndexableText _ := true
  isMarkdownFile _ := true
  decode := some
  parseForGraph _ content := content

def listed (path : Text) : TreeEntry Text := { path, mtime := some 0, size := 0, bytes := [] }

theorem rebuild_resumes_iff_sorted :
    (rebuildGraph plainRules (cutRuns plainRules [([listed ['a'], listed ['b']], some 1)])
      [listed ['a'], listed ['b']]).live.lookup ['b'] = some ⟨some 0, 0, []⟩ := by
  refine (rebuild_resumes_iff plainRules [([listed ['a'], listed ['b']], some 1)]
    [listed ['a'], listed ['b']] (by decide) (by simp [Unedited, listed])).2 ?_ ['b']
  intro p e hdoc hstaged
  have hlast : (cutRuns plainRules [([listed ['a'], listed ['b']], some 1)]).staging.lookup ['b'] =
    none := by decide +kernel
  have hfirst : (cutRuns plainRules [([listed ['a'], listed ['b']], some 1)]).staging.lookup ['a'] =
    some ⟨some 0, 0, []⟩ := by decide +kernel
  obtain ⟨he, rfl, -⟩ := (document_eq_some_iff (by decide)).1 hdoc
  obtain ⟨row, hrow, -⟩ := hstaged
  simp only [mem_cons, not_mem_nil, or_false] at he
  rcases he with rfl | rfl
  · refine ⟨rfl, fun q hq e' hdoc' _ => ?_⟩
    obtain ⟨he', rfl, -⟩ := (document_eq_some_iff (by decide)).1 hdoc'
    simp only [mem_cons, not_mem_nil, or_false] at he'
    rcases he' with rfl | rfl
    · exact ⟨_, hfirst, rfl, rfl⟩
    · exact absurd hq (by decide)
  · cases hlast.symm.trans hrow

/-- A walk need not list paths in their order: the file that comes after a greater path is
skipped. -/
theorem rebuild_skips_unsorted :
    (rebuildGraph plainRules (cutRuns plainRules [([listed ['b'], listed ['a']], some 1)])
      [listed ['b'], listed ['a']]).live.lookup ['a'] = none ∧
    fresh plainRules [listed ['b'], listed ['a']] ['a'] = some ⟨some 0, 0, []⟩ := by
  decide +kernel

end Chan.Index
