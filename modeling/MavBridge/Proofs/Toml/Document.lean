import MavBridge.Proofs.Toml.Scalar

/-!
# Lines

A written text is a row of pieces: headers, entries and empty lines.  Each piece is read as the
statement that it makes, whatever follows it, so that any pieces make the statements that they make
one by one.
-/

namespace MavBridge.Toml

/-- A part of a written text. -/
inductive Piece where
  /-- An empty line. -/
  | gap
  | header (name : String)
  | entry (owner key : String) (value : Toml)

/-- A name that needs no quotes. -/
def IsBareName (name : String) : Prop :=
  name.toList.isEmpty = false ∧ name.toList.all isBare = true

instance (name : String) : Decidable (IsBareName name) := inferInstanceAs (Decidable (_ ∧ _))

namespace Piece

/-- The text of a piece; an entry is written without the name of its table. -/
def text? : Piece → Option (List Char)
  | gap => some ['\n']
  | header name => some ('[' :: name.toList ++ [']', '\n'])
  | entry _ key value => entryLine? (key, value)

def statement? : Piece → Option Statement
  | gap => none
  | header name => some (.header ⟨[], name⟩)
  | entry _ key value => some (.entry ⟨[], key⟩ value)

/-- No name in a piece needs quotes. -/
def IsPlain : Piece → Prop
  | gap => True
  | header name => IsBareName name
  | entry _ key _ => IsBareName key

end Piece

/-- The text of pieces in a row. -/
def written? (pieces : List Piece) : Option (List Char) :=
  (pieces.mapM Piece.text?).map List.flatten

theorem written?_nil : written? [] = some [] := rfl

theorem written?_cons (piece : Piece) (pieces : List Piece) :
    written? (piece :: pieces) =
      piece.text?.bind fun text => (written? pieces).map (text ++ ·) := by
  unfold written?
  rw [List.mapM_cons]
  cases piece.text? with
  | none => rfl
  | some text => cases pieces.mapM Piece.text? <;> rfl

theorem written?_cons_eq_some {piece : Piece} {pieces : List Piece} {text : List Char} :
    written? (piece :: pieces) = some text ↔
      ∃ first rest, piece.text? = some first ∧ written? pieces = some rest ∧
        first ++ rest = text := by
  rw [written?_cons, Option.bind_eq_some_iff]
  simp [Option.map_eq_some_iff]

/-! ## Keys -/

section Keys

variable {name : String} {rest : List Char}

theorem ne_of_isBare {char other : Char} (bare : isBare char = true)
    (special : isBare other = false) : char ≠ other := by
  rintro rfl
  rw [bare] at special
  cases special

theorem isSpace_of_isBare {char : Char} (bare : isBare char = true) : isSpace char = false := by
  have notSpace : char ≠ ' ' := ne_of_isBare bare rfl
  have notTab : char ≠ '\t' := ne_of_isBare bare rfl
  simp [isSpace, notSpace, notTab]

theorem IsBareName.starts (bare : IsBareName name) :
    ∃ first others, name.toList = first :: others ∧ isBare first = true := by
  obtain ⟨nonempty, all⟩ := bare
  rcases letters : name.toList with _ | ⟨first, others⟩
  · rw [letters] at nonempty
    cases nonempty
  · rw [letters, List.all_cons, Bool.and_eq_true] at all
    exact ⟨first, others, rfl, all.1⟩

theorem takeWhile_bare (bare : IsBareName name) (ends : rest.head?.any isBare = false) :
    (name.toList ++ rest).takeWhile isBare = name.toList ∧
      (name.toList ++ rest).dropWhile isBare = rest := by
  have all := List.all_eq_true.mp bare.2
  rw [List.takeWhile_append_of_pos all, List.dropWhile_append_of_pos all]
  cases rest with
  | nil => simp
  | cons first others =>
      have special : ¬ isBare first = true := by simpa using ends
      simp [special]

theorem readPart_bare (bare : IsBareName name) (ends : rest.head?.any isBare = false) :
    readPart (name.toList ++ rest) = some (name, rest) := by
  obtain ⟨taken, dropped⟩ := takeWhile_bare bare ends
  obtain ⟨first, others, letters, bareFirst⟩ := bare.starts
  unfold readPart
  split
  next line =>
    rw [letters] at line
    exact absurd (List.cons.inj line).1 (ne_of_isBare bareFirst rfl)
  next line =>
    rw [letters] at line
    exact absurd (List.cons.inj line).1 (ne_of_isBare bareFirst rfl)
  next => simp [taken, dropped, bare.1]

/-- A bare name is read as a key, if no point follows. -/
theorem readPath_bare (bare : IsBareName name) (ends : rest.head?.any isBare = false)
    (single : (rest.dropWhile isSpace).head? ≠ some '.') :
    readPath (name.toList ++ rest) = some (⟨[], name⟩, rest.dropWhile isSpace) := by
  obtain ⟨first, others, letters, bareFirst⟩ := bare.starts
  have noSpace : (name.toList ++ rest).dropWhile isSpace = name.toList ++ rest := by
    rw [letters, List.cons_append, List.dropWhile_cons_of_neg]
    exact Bool.eq_false_iff.mp (isSpace_of_isBare bareFirst)
  have fuel : (name.toList ++ rest).length = (others ++ rest).length + 1 := by
    rw [letters]
    rfl
  have parts : readParts (name.toList ++ rest).length (name.toList ++ rest) =
      some ([name], rest.dropWhile isSpace) := by
    rw [fuel, readParts, noSpace, readPart_bare bare ends]
    dsimp only
    split
    next line =>
      rw [line] at single
      exact absurd rfl single
    next => rfl
  rw [readPath, parts]
  rfl

end Keys

/-! ## Lines -/

theorem readLine_gap (rest : List Char) : readLine ('\n' :: rest) = some (none, rest) := rfl

theorem afterLine?_break (rest : List Char) : afterLine? ('\n' :: rest) = some rest := rfl

theorem readLine_header {name : String} (bare : IsBareName name) (rest : List Char) :
    readLine ('[' :: name.toList ++ [']', '\n'] ++ rest) =
      some (some (.header ⟨[], name⟩), rest) := by
  obtain ⟨first, others, letters, bareFirst⟩ := bare.starts
  have parts : '[' :: name.toList ++ [']', '\n'] ++ rest =
      '[' :: (name.toList ++ ']' :: '\n' :: rest) := by simp
  have read : readPath (name.toList ++ ']' :: '\n' :: rest) =
      some (⟨[], name⟩, ']' :: '\n' :: rest) := readPath_bare bare rfl (by simp [isSpace])
  rw [parts]
  unfold readLine
  split
  next line =>
    rw [letters] at line
    exact absurd (List.cons.inj (List.cons.inj line).2).1 (ne_of_isBare bareFirst rfl)
  next line =>
    cases line
    simp [read, expect, afterLine?_break]
  next single other => exact absurd rfl (other _)

/-- A line that begins with a key is neither empty nor a comment. -/
theorem afterLine?_bare {name : String} (bare : IsBareName name) (rest : List Char) :
    afterLine? (name.toList ++ rest) = none := by
  obtain ⟨first, others, letters, bareFirst⟩ := bare.starts
  have solid : ¬ isSpace first = true := Bool.eq_false_iff.mp (isSpace_of_isBare bareFirst)
  have noBreak : afterLineBreak? (first :: (others ++ rest)) = none :=
    afterLineBreak?_cons ⟨ne_of_isBare bareFirst rfl, ne_of_isBare bareFirst rfl⟩ _
  rw [letters, List.cons_append]
  unfold afterLine?
  rw [List.dropWhile_cons_of_neg solid]
  split
  next line => exact absurd (List.cons.inj line).1 (ne_of_isBare bareFirst rfl)
  next => simp [noBreak]

theorem readLine_entry {key : String} (bare : IsBareName key) {value : Toml} {text : List Char}
    (written : entryLine? (key, value) = some text) (rest : List Char) :
    readLine (text ++ rest) = some (some (.entry ⟨[], key⟩ value), rest) := by
  obtain ⟨first, others, letters, bareFirst⟩ := bare.starts
  obtain ⟨scalar, found, rfl⟩ := Option.map_eq_some_iff.mp written
  have parts : key.toList ++ " = ".toList ++ scalar ++ ['\n'] ++ rest =
      key.toList ++ ' ' :: '=' :: ' ' :: (scalar ++ '\n' :: rest) := by
    simp
  have readKey : readPath (key.toList ++ ' ' :: '=' :: ' ' :: (scalar ++ '\n' :: rest)) =
      some (⟨[], key⟩, '=' :: ' ' :: (scalar ++ '\n' :: rest)) :=
    readPath_bare bare rfl (by simp [isSpace])
  have readIt := readValue_scalarText found depthLimit rest
  have noSpace : (' ' :: (scalar ++ '\n' :: rest)).dropWhile isSpace =
      scalar ++ '\n' :: rest := dropWhile_scalarText found rest
  rw [parts]
  unfold readLine
  split
  next line =>
    rw [letters] at line
    exact absurd (List.cons.inj line).1 (ne_of_isBare bareFirst rfl)
  next line =>
    rw [letters] at line
    exact absurd (List.cons.inj line).1 (ne_of_isBare bareFirst rfl)
  next =>
    rw [afterLine?_bare bare]
    simp [readEntry, readKey, expect, noSpace, readIt, isSpace, afterLine?_break]

theorem readLine_piece {piece : Piece} (plain : piece.IsPlain) {text : List Char}
    (written : piece.text? = some text) (rest : List Char) :
    readLine (text ++ rest) = some (piece.statement?, rest) := by
  cases piece with
  | gap =>
      cases written
      exact readLine_gap rest
  | header name =>
      cases written
      exact readLine_header plain rest
  | entry owner key value => exact readLine_entry plain written rest

/-- A piece starts with neither a space nor a mark of the byte order. -/
theorem Piece.starts {piece : Piece} (plain : piece.IsPlain) {text : List Char}
    (written : piece.text? = some text) :
    ∃ first others, text = first :: others ∧ isSpace first = false ∧ first.toNat ≠ 0xFEFF := by
  cases piece with
  | gap =>
      cases written
      exact ⟨'\n', [], rfl, rfl, by decide⟩
  | header name =>
      cases written
      exact ⟨'[', _, rfl, rfl, by decide⟩
  | entry owner key value =>
      obtain ⟨first, others, letters, bareFirst⟩ := IsBareName.starts plain
      obtain ⟨scalar, _, rfl⟩ := Option.map_eq_some_iff.mp written
      have solid := isSpace_of_isBare bareFirst
      refine ⟨first, others ++ " = ".toList ++ scalar ++ ['\n'], ?_, solid, ?_⟩
      · simp [letters]
      · intro marked
        have mark : isBare (Char.ofNat 0xFEFF) = false := by decide
        refine ne_of_isBare bareFirst mark ?_
        rw [← marked, Char.ofNat_toNat]

theorem readLines_pieces {pieces : List Piece} (plain : ∀ piece ∈ pieces, piece.IsPlain)
    {text : List Char} (written : written? pieces = some text) {fuel : Nat}
    (enough : text.length < fuel) :
    readLines fuel text = some (pieces.filterMap Piece.statement?) := by
  induction pieces generalizing text fuel with
  | nil =>
      cases written
      obtain ⟨fuel, rfl⟩ := Nat.exists_eq_succ_of_ne_zero (Nat.ne_zero_of_lt enough)
      rfl
  | cons piece pieces inductionHypothesis =>
      rw [List.forall_mem_cons] at plain
      obtain ⟨line, rest, here, later, rfl⟩ := written?_cons_eq_some.mp written
      obtain ⟨fuel, rfl⟩ := Nat.exists_eq_succ_of_ne_zero (Nat.ne_zero_of_lt enough)
      obtain ⟨first, others, rfl, solid, _⟩ := Piece.starts plain.1 here
      have read := readLine_piece plain.1 here rest
      have shorter : rest.length < fuel := by
        simp only [List.length_append, List.length_cons] at enough
        omega
      rw [List.cons_append] at read ⊢
      rw [readLines, List.dropWhile_cons_of_neg (Bool.eq_false_iff.mp solid)]
      dsimp only
      rw [read]
      dsimp only
      rw [inductionHypothesis plain.2 later shorter, List.filterMap_cons]
      cases piece.statement? <;> rfl

/-- Pieces in a row make their statements, whichever they are. -/
theorem parse?_pieces {pieces : List Piece} (plain : ∀ piece ∈ pieces, piece.IsPlain)
    {text : List Char} (written : written? pieces = some text) :
    parse? text = ofStatements? (pieces.filterMap Piece.statement?) := by
  have unmarked : ∀ first others, text = first :: others → first.toNat ≠ 0xFEFF := by
    rintro first others rfl
    rcases pieces with _ | ⟨piece, pieces⟩
    · cases written
    · obtain ⟨line, rest, here, _, joined⟩ := written?_cons_eq_some.mp written
      obtain ⟨start, _, rfl, _, unmarked⟩ :=
        Piece.starts (plain piece List.mem_cons_self) here
      exact (List.cons.inj joined).1 ▸ unmarked
  have read := readLines_pieces plain written (Nat.lt_succ_self text.length)
  unfold parse?
  cases text with
  | nil => exact congrArg (Option.bind · ofStatements?) read
  | cons first others =>
      dsimp only
      rw [if_neg (unmarked first others rfl)]
      exact congrArg (Option.bind · ofStatements?) read

end MavBridge.Toml
