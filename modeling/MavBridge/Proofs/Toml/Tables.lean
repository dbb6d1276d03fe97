import MavBridge.Proofs.Lookup
import MavBridge.Proofs.Toml.Document
import MavBridge.Toml.Record
import Mathlib.Data.List.Forall2

/-!
# Tables, and what is left of them

The text of tables makes these tables.  Whatever is deleted from it, as long as every entry that is
left keeps its header, each key that is left has the value that was written, and no other has one.
-/

namespace MavBridge.Toml

/-! ## The pieces of tables -/

/-- A header and the entries below it. -/
def sectionPieces (table : String × Entries) : List Piece :=
  .header table.1 :: table.2.map fun entry => .entry table.1 entry.1 entry.2

/-- Tables with an empty line between them. -/
def pieces (sections : List (String × Entries)) : List Piece :=
  [Piece.gap].intercalate (sections.map sectionPieces)

theorem written?_append (before after : List Piece) :
    written? (before ++ after) =
      (written? before).bind fun text => (written? after).map (text ++ ·) := by
  induction before with
  | nil =>
      rw [List.nil_append, written?_nil]
      cases written? after <;> rfl
  | cons piece before inductionHypothesis =>
      rw [List.cons_append, written?_cons, written?_cons, inductionHypothesis]
      cases piece.text? with
      | none => rfl
      | some text =>
          cases written? before with
          | none => rfl
          | some texts => cases written? after <;> simp

theorem isSome_written?_iff {pieces : List Piece} :
    (written? pieces).isSome = true ↔ ∀ piece ∈ pieces, piece.text?.isSome = true := by
  induction pieces with
  | nil => simp [written?_nil]
  | cons piece pieces inductionHypothesis =>
      rw [List.forall_mem_cons, ← inductionHypothesis, written?_cons]
      cases piece.text? <;> simp

theorem written?_sectionPieces (table : String × Entries) :
    written? (sectionPieces table) = sectionText? table := by
  have lines : written? (table.2.map fun entry => .entry table.1 entry.1 entry.2) =
      (table.2.mapM entryLine?).map List.flatten := by
    rw [written?, List.mapM_map]
    rfl
  rw [sectionPieces, written?_cons, lines, sectionText?]
  cases table.2.mapM entryLine? <;> simp [Piece.text?]

/-- The text of tables is the text of their pieces. -/
theorem render?_eq_written? (sections : List (String × Entries)) :
    render? sections = written? (pieces sections) := by
  unfold render? pieces
  induction sections with
  | nil => rfl
  | cons table sections inductionHypothesis =>
      rw [List.mapM_cons, List.map_cons]
      cases sections with
      | nil =>
          rw [List.map_nil, List.intercalate_singleton, written?_sectionPieces]
          cases sectionText? table with
          | none => rfl
          | some text => simp
      | cons next others =>
          rw [List.map_cons, List.intercalate_cons_cons, ← List.map_cons, written?_append,
            written?_append, ← inductionHypothesis, written?_sectionPieces]
          have gap : written? [Piece.gap] = some ['\n'] := rfl
          rw [gap, List.mapM_cons]
          cases sectionText? table with
          | none => rfl
          | some text =>
              cases sectionText? next with
              | none => rfl
              | some second => cases others.mapM sectionText? <;> simp

/-! ## Reading tables -/

/-- Tables by their headers. -/
def asTables (sections : List (String × Entries)) : Entries :=
  sections.map fun table => (table.1, .table .header table.2)

/-- Names and keys that do not repeat. -/
structure Distinct (sections : List (String × Entries)) : Prop where
  names : (sections.map (·.1)).Nodup
  keys : ∀ table ∈ sections, (table.2.map (·.1)).Nodup

theorem lookup?_eq_some_iff {entries : Entries} (distinct : (entries.map (·.1)).Nodup)
    {key : String} {value : Toml} :
    lookup? entries key = some value ↔ (key, value) ∈ entries := by
  unfold lookup?
  rw [Option.map_eq_some_iff]
  constructor
  · rintro ⟨entry, found, rfl⟩
    obtain ⟨membership, rfl⟩ := (find?_key_eq_some_iff Prod.fst distinct).mp found
    exact membership
  · intro membership
    exact ⟨(key, value), (find?_key_eq_some_iff Prod.fst distinct).mpr ⟨membership, rfl⟩, rfl⟩

theorem lookup?_eq_none {entries : Entries} {key : String} (fresh : key ∉ entries.map (·.1)) :
    lookup? entries key = none := by
  unfold lookup?
  rw [Option.map_eq_none_iff]
  exact (find?_key_eq_none_iff Prod.fst).mpr fresh

theorem lookup?_append {before : Entries} {key : String} (fresh : key ∉ before.map (·.1))
    (value : Toml) : lookup? (before ++ [(key, value)]) key = some value := by
  have missing := (find?_key_eq_none_iff Prod.fst).mpr fresh
  rw [lookup?, List.find?_append, missing]
  simp

theorem put_append {before : Entries} {key : String} (fresh : key ∉ before.map (·.1))
    (value other : Toml) : put key value (before ++ [(key, other)]) = before ++ [(key, value)] := by
  induction before with
  | nil => simp [put]
  | cons entry before inductionHypothesis =>
      rw [List.map_cons, List.mem_cons, not_or] at fresh
      rw [List.cons_append, put, if_neg (Ne.symm fresh.1), inductionHypothesis fresh.2,
        List.cons_append]

theorem not_mem_of_nodup {before after : List String} {name : String}
    (distinct : (before ++ name :: after).Nodup) : name ∉ before := by
  intro membership
  have apart := (List.nodup_cons.mp (List.nodup_middle.mp distinct)).1
  exact apart (List.mem_append_left after membership)

/-- An entry goes into the table whose header came last. -/
theorem apply?_entry {before inner : Entries} {name key : String}
    (fresh : name ∉ before.map (·.1)) (freshKey : key ∉ inner.map (·.1)) (value : Toml) :
    Draft.apply? ⟨before ++ [(name, .table .header inner)], [name]⟩ (.entry ⟨[], key⟩ value) =
      some ⟨before ++ [(name, .table .header (inner ++ [(key, value)]))], [name]⟩ := by
  simp [lookup?_append fresh, lookup?_eq_none freshKey, put_append fresh, alterAt?, addDotted?,
    add?, Draft.apply?]

theorem foldlM_entries {before inner entries : Entries} {name : String}
    (fresh : name ∉ before.map (·.1)) (distinct : ((inner ++ entries).map (·.1)).Nodup) :
    (entries.map fun entry => Statement.entry ⟨[], entry.1⟩ entry.2).foldlM Draft.apply?
        ⟨before ++ [(name, .table .header inner)], [name]⟩ =
      some ⟨before ++ [(name, .table .header (inner ++ entries))], [name]⟩ := by
  -- On the entries, for a table that has those before them.
  induction entries generalizing inner with
  | nil => simp
  | cons entry entries inductionHypothesis =>
      have freshKey : entry.1 ∉ inner.map (·.1) := by
        rw [List.map_append, List.map_cons] at distinct
        exact not_mem_of_nodup distinct
      rw [List.append_cons inner] at distinct ⊢
      rw [List.map_cons, List.foldlM_cons, apply?_entry fresh freshKey]
      exact inductionHypothesis distinct

def sectionStatements (table : String × Entries) : List Statement :=
  .header ⟨[], table.1⟩ :: table.2.map fun entry => .entry ⟨[], entry.1⟩ entry.2

theorem foldlM_section {before entries : Entries} {name : String} (current : List String)
    (fresh : name ∉ before.map (·.1)) (distinct : (entries.map (·.1)).Nodup) :
    (sectionStatements (name, entries)).foldlM Draft.apply? ⟨before, current⟩ =
      some ⟨before ++ [(name, .table .header entries)], [name]⟩ := by
  have header : Draft.apply? ⟨before, current⟩ (.header ⟨[], name⟩) =
      some ⟨before ++ [(name, .table .header [])], [name]⟩ := by
    simp [lookup?_eq_none fresh, alterAt?, define?, Path.parts, Draft.apply?]
  rw [sectionStatements, List.foldlM_cons, header]
  exact foldlM_entries fresh distinct

theorem foldlM_sections {before : Entries} {sections : List (String × Entries)}
    (current : List String) (fresh : ((before.map (·.1)) ++ sections.map (·.1)).Nodup)
    (keys : ∀ table ∈ sections, (table.2.map (·.1)).Nodup) :
    ∃ last, (sections.flatMap sectionStatements).foldlM Draft.apply? ⟨before, current⟩ =
      some ⟨before ++ asTables sections, last⟩ := by
  -- On the sections, for a text that has made the tables before them.
  induction sections generalizing before current with
  | nil => exact ⟨current, by simp [asTables]⟩
  | cons table sections inductionHypothesis =>
      rw [List.forall_mem_cons] at keys
      rw [List.map_cons] at fresh
      have freshName : table.1 ∉ before.map (·.1) := not_mem_of_nodup fresh
      have made := foldlM_section current freshName keys.1
      have freshLater : ((before ++ [(table.1, Toml.table .header table.2)]).map (·.1) ++
          sections.map (·.1)).Nodup := by
        simpa using fresh
      obtain ⟨last, rest⟩ := inductionHypothesis [table.1] freshLater keys.2
      refine ⟨last, ?_⟩
      rw [List.flatMap_cons, List.foldlM_append, made]
      simpa [asTables] using rest

theorem filterMap_sectionPieces (sections : List (String × Entries)) :
    (sections.flatMap sectionPieces).filterMap Piece.statement? =
      sections.flatMap sectionStatements := by
  induction sections with
  | nil => rfl
  | cons table sections inductionHypothesis =>
      rw [List.flatMap_cons, List.filterMap_append, inductionHypothesis, List.flatMap_cons]
      refine congrArg (· ++ _) ?_
      rw [sectionPieces, sectionStatements, List.filterMap_cons, List.filterMap_map]
      exact congrArg (List.cons _) (congrFun List.filterMap_eq_map _)

/-- The statements of tables make these tables. -/
theorem ofStatements?_sections {sections : List (String × Entries)} (distinct : Distinct sections) :
    ofStatements? ((sections.flatMap sectionPieces).filterMap Piece.statement?) =
      some (asTables sections) := by
  have fresh : (([] : Entries).map (·.1) ++ sections.map (·.1)).Nodup := distinct.names
  obtain ⟨last, made⟩ := foldlM_sections [] fresh distinct.keys
  rw [filterMap_sectionPieces, ofStatements?]
  exact congrArg (Option.map (·.entries)) made

/-! ## What is left -/

/-- What is left of the pieces of some tables: whatever is deleted, an entry keeps its header. -/
structure Remains (sections : List (String × Entries)) (rest : List Piece) : Prop where
  sublist : rest.Sublist (pieces sections)
  headed : ∀ owner key value, .entry owner key value ∈ rest → .header owner ∈ rest

/-- A piece of a section that is wanted, and of a key that is wanted if it is an entry. -/
def Piece.isChosen (table : String → Bool) (key : String → String → Bool) : Piece → Bool
  | gap => true
  | header name => table name
  | entry owner name _ => table owner && key owner name

/-- An entry with this key is left. -/
def keeps (rest : List Piece) (owner key : String) : Bool :=
  rest.any fun
    | .entry name other _ => name == owner && other == key
    | _ => false

/-- Tables with fewer entries, and fewer of them. -/
def Within (kept sections : List (String × Entries)) : Prop :=
  List.SublistForall₂ (fun left table => left.1 = table.1 ∧ left.2.Sublist table.2) kept sections

def Piece.isGap : Piece → Bool
  | gap => true
  | _ => false

theorem filter_sectionPieces (table : String × Entries) :
    (sectionPieces table).filter (!·.isGap) = sectionPieces table := by
  rw [List.filter_eq_self]
  intro piece membership
  rcases List.mem_cons.mp membership with rfl | entry
  · rfl
  · obtain ⟨entry, _, rfl⟩ := List.mem_map.mp entry
    rfl

theorem filter_pieces (sections : List (String × Entries)) :
    (pieces sections).filter (!·.isGap) = sections.flatMap sectionPieces := by
  unfold pieces
  induction sections with
  | nil => rfl
  | cons table sections inductionHypothesis =>
      cases sections with
      | nil => simp [filter_sectionPieces]
      | cons next others =>
          rw [List.map_cons, List.map_cons, List.intercalate_cons_cons, ← List.map_cons,
            List.filter_append, List.filter_append, inductionHypothesis, filter_sectionPieces]
          simp [Piece.isGap]

/-- A text has no more to it than its headers and entries. -/
theorem isSome_render?_iff {sections : List (String × Entries)} :
    (render? sections).isSome = true ↔
      ∀ piece ∈ sections.flatMap sectionPieces, piece.text?.isSome = true := by
  rw [render?_eq_written?, isSome_written?_iff, ← filter_pieces]
  constructor
  · intro all piece membership
    exact all piece (List.mem_filter.mp membership).1
  · intro all piece membership
    cases piece with
    | gap => rfl
    | header name => exact all _ (List.mem_filter.mpr ⟨membership, rfl⟩)
    | entry owner key value => exact all _ (List.mem_filter.mpr ⟨membership, rfl⟩)

theorem mem_flatMap_iff {sections : List (String × Entries)} {owner key : String} {value : Toml} :
    .entry owner key value ∈ sections.flatMap sectionPieces ↔
      ∃ entries, (owner, entries) ∈ sections ∧ (key, value) ∈ entries := by
  simp only [List.mem_flatMap, sectionPieces, List.mem_cons, List.mem_map]
  constructor
  · rintro ⟨⟨name, entries⟩, membership, header | ⟨⟨other, stored⟩, among, same⟩⟩
    · cases header
    · cases same
      exact ⟨entries, membership, among⟩
  · rintro ⟨entries, membership, among⟩
    exact ⟨(owner, entries), membership, .inr ⟨(key, value), among, rfl⟩⟩

theorem header_mem_flatMap {sections : List (String × Entries)} {name : String}
    (membership : .header name ∈ sections.flatMap sectionPieces) :
    name ∈ sections.map (·.1) := by
  obtain ⟨table, among, here⟩ := List.mem_flatMap.mp membership
  rcases List.mem_cons.mp here with same | entry
  · cases same
    exact List.mem_map_of_mem among
  · obtain ⟨entry, _, same⟩ := List.mem_map.mp entry
    cases same

theorem exists_kept {sections : List (String × Entries)} (distinct : (sections.map (·.1)).Nodup)
    {rest : List Piece} (sublist : rest.Sublist (sections.flatMap sectionPieces))
    (headed : ∀ owner key value, .entry owner key value ∈ rest → .header owner ∈ rest) :
    ∃ kept, rest = kept.flatMap sectionPieces ∧ Within kept sections := by
  induction sections generalizing rest with
  | nil =>
      rw [List.flatMap_nil, List.sublist_nil] at sublist
      exact ⟨[], sublist, .nil⟩
  | cons table sections inductionHypothesis =>
      rw [List.map_cons, List.nodup_cons] at distinct
      rw [List.flatMap_cons] at sublist
      obtain ⟨here, later, rfl, sublistHere, sublistLater⟩ := List.sublist_append_iff.mp sublist
      have headedLater : ∀ owner key value, .entry owner key value ∈ later →
          .header owner ∈ later := by
        intro owner key value membership
        have header := headed owner key value (List.mem_append_right _ membership)
        rcases List.mem_append.mp header with own | other
        · have among := mem_flatMap_iff.mp (sublistLater.subset membership)
          obtain ⟨entries, among, _⟩ := among
          rcases List.mem_cons.mp (sublistHere.subset own) with same | entry
          · cases same
            exact absurd (List.mem_map_of_mem among) distinct.1
          · obtain ⟨entry, _, same⟩ := List.mem_map.mp entry
            cases same
        · exact other
      obtain ⟨kept, rfl, within⟩ := inductionHypothesis distinct.2 sublistLater headedLater
      rw [sectionPieces, List.sublist_cons_iff] at sublistHere
      rcases sublistHere with headless | ⟨entries, rfl, left⟩
      · -- An entry of the table would have kept the header.
        have empty : here = [] := by
          refine List.eq_nil_iff_forall_not_mem.mpr ?_
          intro piece membership
          obtain ⟨entry, _, rfl⟩ := List.mem_map.mp (headless.subset membership)
          have header := headed _ _ _ (List.mem_append_left _ membership)
          rcases List.mem_append.mp header with own | other
          · obtain ⟨entry, _, same⟩ := List.mem_map.mp (headless.subset own)
            cases same
          · exact distinct.1 (header_mem_flatMap (sublistLater.subset other))
        exact ⟨kept, by rw [empty, List.nil_append], .cons_right within⟩
      · obtain ⟨fewer, shorter, rfl⟩ := List.sublist_map_iff.mp left
        exact ⟨(table.1, fewer) :: kept, rfl, .cons ⟨rfl, shorter⟩ within⟩

namespace Within

variable {kept sections : List (String × Entries)} (within : Within kept sections)

include within

theorem names : (kept.map (·.1)).Sublist (sections.map (·.1)) := by
  induction within with
  | nil => exact List.nil_sublist _
  | cons related _ inductionHypothesis =>
      rw [List.map_cons, List.map_cons, related.1]
      exact inductionHypothesis.cons_cons _
  | cons_right _ inductionHypothesis => exact inductionHypothesis.cons _

theorem exists_of_mem {name : String} {entries : Entries} (membership : (name, entries) ∈ kept) :
    ∃ whole, (name, whole) ∈ sections ∧ entries.Sublist whole := by
  induction within with
  | nil => cases membership
  | @cons left table kept sections related _ inductionHypothesis =>
      rcases List.mem_cons.mp membership with rfl | later
      · exact ⟨table.2, List.mem_cons.mpr (.inl (Prod.ext related.1 rfl)), related.2⟩
      · obtain ⟨whole, among, sublist⟩ := inductionHypothesis later
        exact ⟨whole, List.mem_cons_of_mem _ among, sublist⟩
  | cons_right _ inductionHypothesis =>
      obtain ⟨whole, among, sublist⟩ := inductionHypothesis membership
      exact ⟨whole, List.mem_cons_of_mem _ among, sublist⟩

theorem distinct (distinct : Distinct sections) : Distinct kept where
  names := distinct.names.sublist within.names
  keys := by
    rintro ⟨name, entries⟩ membership
    obtain ⟨whole, among, sublist⟩ := within.exists_of_mem membership
    exact (distinct.keys _ among).sublist (sublist.map _)

theorem mem_flatMap {owner key : String} {value : Toml}
    (membership : .entry owner key value ∈ kept.flatMap sectionPieces) :
    .entry owner key value ∈ sections.flatMap sectionPieces := by
  obtain ⟨entries, left, among⟩ := mem_flatMap_iff.mp membership
  obtain ⟨whole, present, sublist⟩ := within.exists_of_mem left
  exact mem_flatMap_iff.mpr ⟨whole, present, sublist.subset among⟩

end Within

/-- The entries under a name. -/
def entriesOf (sections : List (String × Entries)) (name : String) : Entries :=
  ((sections.find? fun table => table.1 == name).map (·.2)).getD []

theorem lookup?_entriesOf {sections : List (String × Entries)} (distinct : Distinct sections)
    {owner key : String} {value : Toml} :
    lookup? (entriesOf sections owner) key = some value ↔
      .entry owner key value ∈ sections.flatMap sectionPieces := by
  rw [mem_flatMap_iff]
  constructor
  · intro found
    unfold entriesOf at found
    cases holder : sections.find? fun table => table.1 == owner with
    | none =>
        rw [holder] at found
        cases found
    | some table =>
        rw [holder] at found
        obtain ⟨membership, rfl⟩ := (find?_key_eq_some_iff Prod.fst distinct.names).mp holder
        exact ⟨table.2, membership,
          (lookup?_eq_some_iff (distinct.keys table membership)).mp found⟩
  · rintro ⟨entries, membership, among⟩
    have holder : (sections.find? fun table => table.1 == owner) = some (owner, entries) :=
      (find?_key_eq_some_iff Prod.fst distinct.names).mpr ⟨membership, rfl⟩
    rw [entriesOf, holder]
    exact (lookup?_eq_some_iff (distinct.keys _ membership)).mpr among

theorem keeps_iff {rest : List Piece} {owner key : String} :
    keeps rest owner key = true ↔ ∃ value, .entry owner key value ∈ rest := by
  unfold keeps
  rw [List.any_eq_true]
  constructor
  · rintro ⟨piece, membership, same⟩
    cases piece with
    | entry name other value =>
        obtain ⟨rfl, rfl⟩ : name = owner ∧ other = key := by simpa using same
        exact ⟨value, membership⟩
    | _ => cases same
  · rintro ⟨value, membership⟩
    exact ⟨_, membership, by simp⟩

/-- Each key that is left has the value that was written, and no other has one. -/
theorem lookup?_kept {sections kept : List (String × Entries)} (distinct : Distinct sections)
    (within : Within kept sections) (owner key : String) :
    lookup? (entriesOf kept owner) key =
      if keeps (kept.flatMap sectionPieces) owner key then lookup? (entriesOf sections owner) key
      else none := by
  split
  next left =>
    obtain ⟨value, membership⟩ := keeps_iff.mp left
    rw [(lookup?_entriesOf (within.distinct distinct)).mpr membership,
      (lookup?_entriesOf distinct).mpr (within.mem_flatMap membership)]
  next deleted =>
    cases found : lookup? (entriesOf kept owner) key with
    | none => rfl
    | some value =>
        have membership := (lookup?_entriesOf (within.distinct distinct)).mp found
        exact absurd (keeps_iff.mpr ⟨value, membership⟩) deleted

/-! ## Reading what is left -/

/-- No name needs quotes. -/
def Bare (sections : List (String × Entries)) : Prop :=
  ∀ piece ∈ sections.flatMap sectionPieces, piece.IsPlain

theorem filterMap_statement? (rest : List Piece) :
    rest.filterMap Piece.statement? = (rest.filter (!·.isGap)).filterMap Piece.statement? := by
  rw [List.filterMap_filter]
  refine List.filterMap_congr ?_
  intro piece _
  cases piece <;> rfl

namespace Remains

variable {sections : List (String × Entries)} {rest : List Piece} {text : List Char}

theorem whole (sections : List (String × Entries)) : Remains sections (pieces sections) where
  sublist := List.Sublist.refl _
  headed := by
    intro owner key value membership
    have solid : .entry owner key value ∈ (pieces sections).filter (!·.isGap) :=
      List.mem_filter.mpr ⟨membership, rfl⟩
    rw [filter_pieces] at solid
    obtain ⟨entries, among, _⟩ := mem_flatMap_iff.mp solid
    have header : .header owner ∈ (pieces sections).filter (!·.isGap) := by
      rw [filter_pieces]
      exact List.mem_flatMap.mpr ⟨_, among, List.mem_cons_self⟩
    exact (List.mem_filter.mp header).1

/-- Any sections, and any keys of the others, may be deleted. -/
theorem chosen (sections : List (String × Entries)) (table : String → Bool)
    (key : String → String → Bool) :
    Remains sections ((pieces sections).filter (Piece.isChosen table key)) where
  sublist := List.filter_sublist
  headed := by
    intro owner name value membership
    obtain ⟨present, both⟩ := List.mem_filter.mp membership
    have wanted : table owner = true ∧ key owner name = true := by
      simpa [Piece.isChosen] using both
    exact List.mem_filter.mpr ⟨(whole sections).headed owner name value present, wanted.1⟩

variable (remains : Remains sections rest)

include remains

/-- What is left of a text is a text. -/
theorem exists_written (written : written? (pieces sections) = some text) :
    ∃ left, written? rest = some left := by
  have all := isSome_written?_iff.mp (Option.isSome_of_eq_some written)
  rw [← Option.isSome_iff_exists, isSome_written?_iff]
  exact fun piece membership => all piece (remains.sublist.subset membership)

theorem plain (bare : Bare sections) : ∀ piece ∈ rest, piece.IsPlain := by
  intro piece membership
  cases piece with
  | gap => exact trivial
  | _ =>
      refine bare _ ?_
      rw [← filter_pieces]
      exact List.mem_filter.mpr ⟨remains.sublist.subset membership, rfl⟩

theorem parse? (distinct : Distinct sections) (bare : Bare sections)
    (written : written? rest = some text) :
    ∃ kept, Toml.parse? text = some (asTables kept) ∧ ∀ owner key,
      lookup? (entriesOf kept owner) key =
        if keeps rest owner key then lookup? (entriesOf sections owner) key else none := by
  have solid : (rest.filter (!·.isGap)).Sublist (sections.flatMap sectionPieces) := by
    rw [← filter_pieces]
    exact remains.sublist.filter _
  have headed : ∀ owner key value, .entry owner key value ∈ rest.filter (!·.isGap) →
      .header owner ∈ rest.filter (!·.isGap) := by
    intro owner key value membership
    have header := remains.headed owner key value (List.mem_filter.mp membership).1
    exact List.mem_filter.mpr ⟨header, rfl⟩
  obtain ⟨kept, same, within⟩ := exists_kept distinct.names solid headed
  refine ⟨kept, ?_, ?_⟩
  · rw [parse?_pieces (remains.plain bare) written, filterMap_statement?, same]
    exact ofStatements?_sections (within.distinct distinct)
  · intro owner key
    have keepsToo : keeps (kept.flatMap sectionPieces) owner key = keeps rest owner key := by
      rw [← same, Bool.eq_iff_iff, keeps_iff, keeps_iff]
      simp [Piece.isGap]
    rw [lookup?_kept distinct within, keepsToo]

end Remains

/-- A table that is not there is read like one without entries. -/
theorem orDefault_asTables {α : Type} {missing : α} {read : Toml → Option α}
    (empty : read (.table .header []) = some missing) (kept : List (String × Entries))
    (name : String) :
    orDefault missing read (lookup? (asTables kept) name) =
      read (.table .header (entriesOf kept name)) := by
  have found : lookup? (asTables kept) name =
      (kept.find? fun table => table.1 == name).map fun table => .table .header table.2 := by
    rw [lookup?, asTables, List.find?_map, Option.map_map]
    rfl
  rw [found, entriesOf]
  cases kept.find? fun table => table.1 == name with
  | none => exact empty.symm
  | some table => rfl

end MavBridge.Toml
