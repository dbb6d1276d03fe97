import MavBridge.Json.Parser
import MavBridge.Proofs.Json.Writing

/-!
# What is read from a text

Words that are read as a value are read as the same value inside of arrays and objects, so an array
of texts is read text by text, and what was written is read back.
-/

namespace MavBridge.Json

/-! ## Words inside of containers -/

/-- Read words one after the other. -/
def Progress.run (progress : Progress) (words : List Token) : Option Progress :=
  words.foldlM Progress.step? progress

theorem Progress.run_cons (progress : Progress) (word : Token) (words : List Token) :
    progress.run (word :: words) = (progress.step? word).bind fun after => after.run words := rfl

theorem Progress.run_append (progress : Progress) (words rest : List Token) :
    progress.run (words ++ rest) = (progress.run words).bind fun after => after.run rest :=
  List.foldlM_append

/-- A value starts the same way with further containers around. -/
theorem begin?_append {stack after : List Context} {next : Expected} {token : Token}
    (begun : begin? stack token = some ⟨after, next⟩) (around : List Context) :
    begin? (stack ++ around) token = some ⟨after ++ around, next⟩ := by
  cases token <;> cases begun <;> rfl

/-- An item starts as a value does. -/
theorem step?_itemOrEnd {token : Token} (notEnd : token ≠ .rightBracket) (stack : List Context) :
    Progress.step? ⟨stack, .itemOrEnd⟩ token = begin? stack token := by
  cases stack <;> cases token <;> first | rfl | exact absurd rfl notEnd

/-- A step goes the same way with further containers around. -/
theorem step?_append {stack after : List Context} {expected next : Expected} {token : Token}
    (stepped : Progress.step? ⟨stack, expected⟩ token = some ⟨after, next⟩)
    (around : List Context) :
    Progress.step? ⟨stack ++ around, expected⟩ token = some ⟨after ++ around, next⟩ := by
  cases expected with
  | value => exact begin?_append stepped around
  | itemOrEnd =>
      by_cases isEnd : token = .rightBracket
      · subst isEnd
        rcases stack with _ | ⟨context, stack⟩
        · cases stepped
        · cases stepped
          rfl
      · rw [step?_itemOrEnd isEnd] at stepped ⊢
        exact begin?_append stepped around
  | keyOrEnd => cases stack <;> cases token <;> cases stepped <;> rfl
  | key fields =>
      cases token <;> cases stepped
      rfl
  | colon fields key =>
      cases token <;> cases stepped
      rfl
  | ending value =>
      rcases stack with _ | ⟨context, stack⟩
      · cases stepped
      · cases context <;> cases token <;> cases stepped <;> rfl

theorem run_append_stack {words : List Token} {stack after : List Context}
    {expected next : Expected}
    (done : Progress.run ⟨stack, expected⟩ words = some ⟨after, next⟩) (around : List Context) :
    Progress.run ⟨stack ++ around, expected⟩ words = some ⟨after ++ around, next⟩ := by
  induction words generalizing stack expected with
  | nil =>
      cases done
      rfl
  | cons word words inductionHypothesis =>
      rw [Progress.run_cons, Option.bind_eq_some_iff] at done
      rcases done with ⟨⟨middle, between⟩, stepped, rest⟩
      rw [Progress.run_cons, step?_append stepped around, Option.bind_some]
      exact inductionHypothesis rest

/-- Words that are a value wherever they stand. -/
def Reads (words : List Token) (value : Json) : Prop :=
  ∀ stack, Progress.run ⟨stack, .value⟩ words = some ⟨stack, .ending value⟩

/-- Words that are read as a value on their own are one everywhere. -/
theorem reads_iff {words : List Token} {value : Json} :
    Reads words value ↔ Progress.run {} words = some ⟨[], .ending value⟩ := by
  constructor
  · intro reads
    exact reads []
  · intro done stack
    exact run_append_stack done stack

theorem parseTree?_eq_some_iff {text : List Char} {value : Json} :
    parseTree? text = some value ↔ ∃ words, tokens? text = some words ∧ Reads words value := by
  have ended (progress : Progress) :
      progress.value? = some value ↔ progress = ⟨[], .ending value⟩ := by
    rcases progress with ⟨_ | ⟨context, stack⟩, expected⟩
    · cases expected <;> simp [Progress.value?]
    · simp [Progress.value?]
  simp only [parseTree?, Option.bind_eq_bind, Option.bind_eq_some_iff, ended, reads_iff]
  constructor
  · rintro ⟨words, read, progress, done, rfl⟩
    exact ⟨words, read, done⟩
  · rintro ⟨words, read, done⟩
    exact ⟨words, read, _, done, rfl⟩

/-- Words that go on with an array after an item. -/
def ReadsItems (words : List Token) (items : List Json) : Prop :=
  ∀ stack before item, Progress.run ⟨.array before :: stack, .ending item⟩
      (words ++ [.rightBracket]) =
    some ⟨stack, .ending (.arr ((item :: before).reverse ++ items))⟩

/-- The fields of an object that have been read, the last one first. -/
def readFields (fields : List (String × Json)) : List (Option String × Json) :=
  fields.map fun field => (some field.1, field.2)

/-- Words that go on with an object after a field. -/
def ReadsFields (words : List Token) (fields : List (String × Json)) : Prop :=
  ∀ stack before key value, Progress.run
      ⟨.object (readFields before) (some key) :: stack, .ending value⟩ (words ++ [.rightBrace]) =
    some ⟨stack, .ending (.obj (((key, value) :: before).reverse ++ fields))⟩

section Containers

variable {words rest : List Token} {value : Json} {items : List Json}
  {fields : List (String × Json)}

theorem reads_nil : Reads [.leftBracket, .rightBracket] (.arr []) := fun _ => rfl

theorem reads_noFields : Reads [.leftBrace, .rightBrace] (.obj []) := fun _ => rfl

theorem readsItems_nil : ReadsItems [] [] := by
  intro stack before item
  rw [List.append_nil]
  rfl

/-- A value in the place of a first item. -/
theorem Reads.run_itemOrEnd (reads : Reads words value) (stack : List Context) :
    Progress.run ⟨stack, .itemOrEnd⟩ words = some ⟨stack, .ending value⟩ := by
  have done := reads stack
  rcases words with _ | ⟨word, words⟩
  · cases done
  · have notEnd : word ≠ .rightBracket := by
      rintro rfl
      cases done
    rw [Progress.run_cons] at done ⊢
    rw [step?_itemOrEnd notEnd]
    exact done

theorem Reads.readsItems_cons (reads : Reads words value) (later : ReadsItems rest items) :
    ReadsItems (.comma :: words ++ rest) (value :: items) := by
  intro stack before item
  calc
    _ = Progress.run ⟨.array (item :: before) :: stack, .value⟩
          (words ++ (rest ++ [.rightBracket])) := by
      rw [List.append_assoc]
      rfl
    _ = Progress.run ⟨.array (item :: before) :: stack, .ending value⟩
          (rest ++ [.rightBracket]) := by rw [Progress.run_append, reads, Option.bind_some]
    _ = _ := by rw [later, List.reverse_cons, List.append_assoc, List.singleton_append]

theorem Reads.array (reads : Reads words value) (later : ReadsItems rest items) :
    Reads (.leftBracket :: words ++ rest ++ [.rightBracket]) (.arr (value :: items)) := by
  intro stack
  calc
    _ = Progress.run ⟨.array [] :: stack, .itemOrEnd⟩ (words ++ (rest ++ [.rightBracket])) := by
      rw [List.append_assoc]
      rfl
    _ = Progress.run ⟨.array [] :: stack, .ending value⟩ (rest ++ [.rightBracket]) := by
      rw [Progress.run_append, reads.run_itemOrEnd, Option.bind_some]
    _ = _ := later stack [] value

/-- What has been read makes an object. -/
theorem closeObject_readFields (fields : List (String × Json)) :
    closeObject (readFields fields) = .obj fields.reverse := by
  have named : (readFields fields).reverse.mapM (fun field => field.1.map (·, field.2)) =
      some fields.reverse := by
    rw [readFields, ← List.map_reverse, List.mapM_map]
    exact List.mapM_pure.trans (congrArg some (List.map_id _))
  simp only [closeObject]
  rw [named]

theorem readsFields_nil : ReadsFields [] [] := by
  intro stack before key value
  have closed := closeObject_readFields ((key, value) :: before)
  rw [List.append_nil, ← closed]
  rfl

theorem Reads.readsFields_cons (reads : Reads words value) (key : String)
    (later : ReadsFields rest fields) :
    ReadsFields (.comma :: .text (some key) :: .colon :: words ++ rest)
      ((key, value) :: fields) := by
  intro stack before firstKey first
  calc
    _ = Progress.run ⟨.object (readFields ((firstKey, first) :: before)) (some key) :: stack,
          .value⟩ (words ++ (rest ++ [.rightBrace])) := by
      rw [List.append_assoc]
      rfl
    _ = Progress.run ⟨.object (readFields ((firstKey, first) :: before)) (some key) :: stack,
          .ending value⟩ (rest ++ [.rightBrace]) := by
      rw [Progress.run_append, reads, Option.bind_some]
    _ = _ := by rw [later, List.reverse_cons, List.append_assoc, List.singleton_append]

theorem Reads.object (reads : Reads words value) (key : String) (later : ReadsFields rest fields) :
    Reads (.leftBrace :: .text (some key) :: .colon :: words ++ rest ++ [.rightBrace])
      (.obj ((key, value) :: fields)) := by
  intro stack
  calc
    _ = Progress.run ⟨.object (readFields []) (some key) :: stack, .value⟩
          (words ++ (rest ++ [.rightBrace])) := by
      rw [List.append_assoc]
      rfl
    _ = Progress.run ⟨.object (readFields []) (some key) :: stack, .ending value⟩
          (rest ++ [.rightBrace]) := by rw [Progress.run_append, reads, Option.bind_some]
    _ = _ := later stack [] key value

end Containers

/-! ## What was written -/

mutual

theorem reads_words (value : Json) (plain : value.isPlain = true) : Reads value.words value := by
  cases value with
  | null | bool | int | str =>
      rw [words]
      intro stack
      rfl
  | real value => simp [isPlain] at plain
  | malformed => simp [isPlain] at plain
  | arr items =>
      cases items with
      | nil =>
          rw [words]
          exact reads_nil
      | cons item items =>
          rw [isPlain, isPlainItems, Bool.and_eq_true] at plain
          rw [words]
          exact (reads_words item plain.1).array (readsItems_words items plain.2)
  | obj fields =>
      cases fields with
      | nil =>
          rw [words]
          exact reads_noFields
      | cons field fields =>
          rcases field with ⟨key, value⟩
          rw [isPlain, isPlainFields, Bool.and_eq_true] at plain
          rw [words]
          exact (reads_words value plain.1).object key (readsFields_words fields plain.2)

theorem readsItems_words (items : List Json) (plain : isPlainItems items = true) :
    ReadsItems (wordsItems items) items := by
  cases items with
  | nil =>
      rw [wordsItems]
      exact readsItems_nil
  | cons item items =>
      rw [isPlainItems, Bool.and_eq_true] at plain
      rw [wordsItems]
      exact (reads_words item plain.1).readsItems_cons (readsItems_words items plain.2)

theorem readsFields_words (fields : List (String × Json)) (plain : isPlainFields fields = true) :
    ReadsFields (wordsFields fields) fields := by
  cases fields with
  | nil =>
      rw [wordsFields]
      exact readsFields_nil
  | cons field fields =>
      rcases field with ⟨key, value⟩
      rw [isPlainFields, Bool.and_eq_true] at plain
      rw [wordsFields]
      exact (reads_words value plain.1).readsFields_cons key (readsFields_words fields plain.2)

end

mutual

theorem isDefinite_of_isPlain (value : Json) (plain : value.isPlain = true) :
    value.isDefinite = true := by
  cases value with
  | null | bool | int | str => simp [isDefinite]
  | real value => simp [isPlain] at plain
  | malformed => simp [isPlain] at plain
  | arr items =>
      rw [isPlain] at plain
      rw [isDefinite]
      exact isDefiniteItems_of_isPlain items plain
  | obj fields =>
      rw [isPlain] at plain
      rw [isDefinite]
      exact isDefiniteFields_of_isPlain fields plain

theorem isDefiniteItems_of_isPlain (items : List Json) (plain : isPlainItems items = true) :
    isDefiniteItems items = true := by
  cases items with
  | nil => rw [isDefiniteItems]
  | cons item items =>
      rw [isPlainItems, Bool.and_eq_true] at plain
      rw [isDefiniteItems, isDefinite_of_isPlain item plain.1,
        isDefiniteItems_of_isPlain items plain.2, Bool.and_self]

theorem isDefiniteFields_of_isPlain (fields : List (String × Json))
    (plain : isPlainFields fields = true) : isDefiniteFields fields = true := by
  cases fields with
  | nil => rw [isDefiniteFields]
  | cons field fields =>
      rcases field with ⟨key, value⟩
      rw [isPlainFields, Bool.and_eq_true] at plain
      rw [isDefiniteFields, isDefinite_of_isPlain value plain.1,
        isDefiniteFields_of_isPlain fields plain.2, Bool.and_self]

end

/-- What was written in a style that only puts spaces between the words is read back. -/
theorem parse?_render {style : Style} (onlySpaces : style.OnlySpaces) {value : Json}
    (plain : value.isPlain = true) (shallow : value.depth ≤ depthLimit) :
    parse? (value.render style).toList = some value := by
  have read : tokens? (value.write style 0 ++ []) = (tokens? []).map (value.words ++ ·) :=
    tokens?_write onlySpaces value 0 plain (by rintro char ⟨⟩)
  rw [List.append_nil, tokens?_nil, Option.map_some, List.append_nil] at read
  have tree : parseTree? (value.write style 0) = some value :=
    parseTree?_eq_some_iff.mpr ⟨_, read, reads_words value plain⟩
  rw [render, String.toList_ofList, parse?, tree]
  simp [isDefinite_of_isPlain value plain, shallow]

theorem parse?_eq_some_iff {text : List Char} {value : Json} :
    parse? text = some value ↔
      parseTree? text = some value ∧ value.isDefinite = true ∧ value.depth ≤ depthLimit := by
  simp [parse?, Option.filter_eq_some_iff]

/-- Spaces around a value change nothing. -/
theorem parse?_surrounded {text before after : List Char} {value : Json}
    (read : parse? text = some value) (blankBefore : ∀ char ∈ before, Token.isSpace char = true)
    (blankAfter : ∀ char ∈ after, Token.isSpace char = true) :
    parse? (before ++ (text ++ after)) = some value := by
  rw [parse?_eq_some_iff, parseTree?_eq_some_iff] at read ⊢
  rcases read with ⟨⟨words, read, reads⟩, definite⟩
  have ends : Token.Ends (after ++ []) := ends_spaces blankAfter (by rintro char ⟨⟩)
  have blank : tokens? (after ++ []) = some [] := tokens?_spaces blankAfter []
  rw [List.append_nil] at ends blank
  refine ⟨⟨words, ?_, reads⟩, definite⟩
  rw [tokens?_spaces blankBefore, tokens?_append ends read, blank, Option.map_some,
    List.append_nil]

/-! ## Arrays of texts -/

/-- The text of an array of texts. -/
def arrayText (elements : List (List Char)) : List Char :=
  '[' :: [','].intercalate elements ++ [']']

theorem intercalate_cons (first : List Char) (rest : List (List Char)) :
    [','].intercalate (first :: rest) = first ++ rest.flatMap (',' :: ·) := by
  induction rest generalizing first with
  | nil => simp
  | cons second rest inductionHypothesis =>
      rw [List.intercalate_cons_cons, inductionHypothesis, List.flatMap_cons, List.append_assoc,
        List.singleton_append, List.cons_append]

theorem ends_elements (elements : List (List Char)) {rest : List Char} (ends : Token.Ends rest) :
    Token.Ends (elements.flatMap (',' :: ·) ++ rest) := by
  cases elements with
  | nil => exact ends
  | cons element elements => exact ends_mark (by decide) _

section Elements

variable {elements : List (List Char)} {value : List Char → Json}

/-- Texts that are read as values, with commas before them. -/
theorem tokens?_elements (read : ∀ element ∈ elements, parseTree? element = some (value element)) :
    ∃ words, ReadsItems words (elements.map value) ∧ ∀ rest, Token.Ends rest →
      tokens? (elements.flatMap (',' :: ·) ++ rest) = (tokens? rest).map (words ++ ·) := by
  induction elements with
  | nil => exact ⟨[], readsItems_nil, fun rest _ => by simp⟩
  | cons element elements inductionHypothesis =>
      rw [List.forall_mem_cons] at read
      rcases parseTree?_eq_some_iff.mp read.1 with ⟨words, readFirst, reads⟩
      rcases inductionHypothesis read.2 with ⟨later, readsLater, readLater⟩
      refine ⟨_, reads.readsItems_cons readsLater, ?_⟩
      intro rest ends
      rw [List.flatMap_cons, List.append_assoc, List.cons_append, tokens?_comma,
        tokens?_append (ends_elements elements ends) readFirst, readLater rest ends,
        Option.map_map, Option.map_map]
      simp [Function.comp_def]

/-- An array of texts is read text by text. -/
theorem parseTree?_arrayText
    (read : ∀ element ∈ elements, parseTree? element = some (value element)) :
    parseTree? (arrayText elements) = some (.arr (elements.map value)) := by
  rw [parseTree?_eq_some_iff]
  cases elements with
  | nil => exact ⟨_, rfl, reads_nil⟩
  | cons element elements =>
      rw [List.forall_mem_cons] at read
      rcases parseTree?_eq_some_iff.mp read.1 with ⟨words, readFirst, reads⟩
      rcases tokens?_elements read.2 with ⟨later, readsLater, readLater⟩
      refine ⟨_, ?_, reads.array readsLater⟩
      have close : Token.Ends [']'] := ends_mark (by decide) []
      rw [arrayText, intercalate_cons, List.cons_append, List.append_assoc, tokens?_leftBracket,
        tokens?_append (ends_elements elements close) readFirst, readLater _ close,
        tokens?_rightBracket, tokens?_nil]
      simp

theorem isDefiniteItems_eq_true_iff {items : List Json} :
    isDefiniteItems items = true ↔ ∀ item ∈ items, item.isDefinite = true := by
  induction items with
  | nil => simp [isDefiniteItems]
  | cons item items inductionHypothesis => simp [isDefiniteItems, inductionHypothesis]

theorem depthItems_le_iff {items : List Json} {limit : Nat} :
    depthItems items ≤ limit ↔ ∀ item ∈ items, item.depth ≤ limit := by
  induction items with
  | nil => simp [depthItems]
  | cons item items inductionHypothesis =>
      rw [depthItems, Nat.max_le, inductionHypothesis, List.forall_mem_cons]

/-- The same as far as everything denotes something and nothing is too deep; the array is one level
deeper than its items. -/
theorem parse?_arrayText
    (read : ∀ element ∈ elements, parse? element = some (value element) ∧
      (value element).depth < depthLimit) :
    parse? (arrayText elements) = some (.arr (elements.map value)) := by
  have parsed (element : List Char) (membership : element ∈ elements) :=
    parse?_eq_some_iff.mp (read element membership).1
  refine parse?_eq_some_iff.mpr ⟨parseTree?_arrayText fun element membership =>
    (parsed element membership).1, ?_, ?_⟩
  · rw [isDefinite, isDefiniteItems_eq_true_iff, List.forall_mem_map]
    intro element membership
    exact (parsed element membership).2.1
  · have shallow : depthItems (elements.map value) ≤ depthLimit - 1 := by
      rw [depthItems_le_iff, List.forall_mem_map]
      intro element membership
      exact Nat.le_sub_one_of_lt (read element membership).2
    rw [depth]
    exact Nat.succ_le_succ shallow

end Elements

end MavBridge.Json
