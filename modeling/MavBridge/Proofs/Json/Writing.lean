import MavBridge.Json.Writer
import MavBridge.Proofs.Json.Tokens
import Mathlib.Algebra.Group.Nat.Defs
import Mathlib.Data.List.TakeWhile
import Mathlib.Tactic.SplitIfs

/-!
# The words of a written value

A text is quoted so that it can be read back, and so are whole numbers of 64 bits.  In any style
that only breaks lines, a value is written with the same words.
-/

namespace MavBridge.Hex

theorem value?_digit (value : Nat) : value? (digit value) = some (value % 16) := by
  have digits : ∀ nibble, nibble < 16 → value? (Nat.digitChar nibble) = some nibble := by decide
  exact digits (value % 16) (Nat.mod_lt _ (by decide))

theorem number?_append (chars : List Char) (char : Char) :
    number? (chars ++ [char]) =
      (number? chars).bind fun value => (value? char).map (16 * value + ·) := by
  simp [number?, List.foldlM_append]

/-- Digits are read back, as far as they go. -/
theorem number?_digits (width value : Nat) :
    number? (digits width value) = some (value % 16 ^ width) := by
  induction width generalizing value with
  | zero => simp [digits, number?, Nat.mod_one]
  | succ width inductionHypothesis =>
      rw [digits, number?_append, inductionHypothesis, Option.bind_some, value?_digit,
        Option.map_some, Nat.pow_succ, Nat.mul_comm (16 ^ width) 16, Nat.mod_mul, Nat.add_comm]

end MavBridge.Hex

namespace MavBridge.Json

open Token

/-! ## Quoted texts -/

theorem readText_escapeChar (char : Char) (rest : List Char) :
    readText (escapeChar char ++ rest) =
      (readText rest).map fun (units, after) => (char.toNat :: units, after) := by
  unfold escapeChar
  split_ifs with quote escape newline return_ tab back form control
  · subst quote
    exact readText_letter rfl
  · subst escape
    exact readText_letter rfl
  · subst newline
    exact readText_letter rfl
  · subst return_
    exact readText_letter rfl
  · subst tab
    exact readText_letter rfl
  · have isBack : char = Char.ofNat 8 := by rw [← back, Char.ofNat_toNat]
    rw [isBack]
    exact readText_letter rfl
  · have isForm : char = Char.ofNat 12 := by rw [← form, Char.ofNat_toNat]
    rw [isForm]
    exact readText_letter rfl
  · have written := Hex.number?_digits 4 char.toNat
    rw [Nat.mod_eq_of_lt (by omega)] at written
    exact readText_unit written
  · exact readText_plain quote escape control

theorem readText_escaped (chars : List Char) (rest : List Char) :
    readText (chars.flatMap escapeChar ++ '"' :: rest) = some (chars.map Char.toNat, rest) := by
  induction chars with
  | nil => rw [List.flatMap_nil, List.nil_append, readText, List.map_nil]
  | cons char chars inductionHypothesis =>
      rw [List.flatMap_cons, List.append_assoc, readText_escapeChar, inductionHypothesis]
      rfl

/-- No character is half of a surrogate pair. -/
theorem joinUnits_map_toNat (chars : List Char) :
    joinUnits (chars.map Char.toNat) = some chars := by
  induction chars with
  | nil => rw [List.map_nil, joinUnits]
  | cons char chars inductionHypothesis =>
      have valid : char.toNat < 0xD800 ∨ 0xDFFF < char.toNat ∧ char.toNat < 0x110000 := char.valid
      have notHigh : ¬ isHighSurrogate char.toNat = true := by
        simp only [isHighSurrogate, Bool.and_eq_true, decide_eq_true_eq]
        omega
      have notLow : ¬ isLowSurrogate char.toNat = true := by
        simp only [isLowSurrogate, Bool.and_eq_true, decide_eq_true_eq]
        omega
      rw [List.map_cons, joinUnits.eq_def]
      simp only [notHigh, notLow, inductionHypothesis, Option.map_some, Char.ofNat_toNat]
      rfl

theorem tokens?_quote {style : Style} (escapes : style.char = escapeChar) (text : String)
    (rest : List Char) :
    tokens? (quote style text ++ rest) = (tokens? rest).map (.text (some text) :: ·) := by
  have body : quote style text ++ rest =
      '"' :: (text.toList.flatMap escapeChar ++ '"' :: rest) := by
    simp [quote, escapes]
  rw [body]
  apply tokens?_read (by decide)
  simp only [read?, readText_escaped, Option.map_some, joinUnits_map_toNat, String.ofList_toList]

/-! ## Whole numbers -/

theorem head?_toDigits {magnitude : Nat} (positive : 0 < magnitude) :
    (Nat.toDigits 10 magnitude).head? ≠ some '0' := by
  induction magnitude using Nat.strongRecOn with
  | ind magnitude inductionHypothesis =>
      by_cases small : magnitude < 10
      · have single : ∀ digit, digit < 10 → 0 < digit →
            [Nat.digitChar digit].head? ≠ some '0' := by decide
        rw [Nat.toDigits_of_lt_base small]
        exact single magnitude small positive
      · rw [Nat.toDigits_of_base_le (by decide) (Nat.le_of_not_lt small),
          List.head?_append_of_ne_nil _ Nat.toDigits_ne_nil]
        exact inductionHypothesis _ (by omega) (by omega)

theorem readUnsigned_toDigits (negative : Bool) (magnitude : Nat) :
    readUnsigned negative (Nat.toDigits 10 magnitude) =
      some (integerValue negative magnitude, []) := by
  have digits (char : Char) (membership : char ∈ Nat.toDigits 10 magnitude) :
      isDigit char = true := Nat.isDigit_of_mem_toDigits (by decide) (by decide) membership
  have value : naturalOf (Nat.toDigits 10 magnitude) = magnitude :=
    Nat.ofDigitChars_toDigits (by decide) (by decide)
  have whole : readWhole (Nat.toDigits 10 magnitude) = some (Nat.toDigits 10 magnitude, []) := by
    by_cases zero : magnitude = 0
    · subst zero
      rfl
    · have leading := head?_toDigits (Nat.pos_of_ne_zero zero)
      rcases written : Nat.toDigits 10 magnitude with _ | ⟨first, rest⟩
      · exact absurd written Nat.toDigits_ne_nil
      · rw [written] at digits leading
        rw [List.forall_mem_cons] at digits
        have notZero : first ≠ '0' := by simpa using leading
        rw [readWhole, if_neg notZero, if_pos digits.1, List.takeWhile_eq_self_iff.mpr digits.2,
          List.dropWhile_eq_nil_iff.mpr digits.2]
  simp only [readUnsigned, whole, readFraction, readExponent, numberValue, value,
    Option.bind_eq_bind, Option.bind_some, Option.pure_def]

/-- The whole numbers that have a form of their own: those of 64 bits, with a sign or without. -/
def IsWide (value : Int) : Prop := -0x8000000000000000 ≤ value ∧ value < 0x10000000000000000

instance (value : Int) : Decidable (IsWide value) := inferInstanceAs (Decidable (_ ∧ _))

theorem readNumber_integer {value : Int} (wide : IsWide value) :
    readNumber (integer value) = some (.int value, []) := by
  unfold IsWide at wide
  unfold integer
  split_ifs with negative
  · have read := readUnsigned_toDigits true value.natAbs
    rw [integerValue, if_pos rfl, if_neg (by omega)] at read
    rw [readNumber, read]
    congr
    omega
  · have read := readUnsigned_toDigits false value.natAbs
    rw [integerValue, if_neg (by decide), if_pos (by omega), Int.natAbs_of_nonneg (by omega)]
      at read
    unfold readNumber
    split
    next digits isMinus =>
      have isDigit : isDigit '-' = true :=
        Nat.isDigit_of_mem_toDigits (by decide) (by decide) (isMinus ▸ List.mem_cons_self)
      exact absurd isDigit (by decide)
    next => exact read

theorem tokens?_integer {value : Int} (wide : IsWide value) :
    tokens? (integer value) = some [.scalar (.int value)] := by
  have read := readNumber_integer wide
  rcases written : integer value with _ | ⟨first, rest⟩
  · rw [written] at read
    cases read
  · rw [written] at read
    have starts := starts_of_readNumber read
    have solid : ¬ isSpace first = true := by
      intro space
      simp only [isSpace, Bool.or_eq_true, beq_iff_eq] at space
      rcases space with ((rfl | rfl) | rfl) | rfl <;> exact absurd starts (by decide)
    have word := read?_number starts rest
    rw [read, Option.map_some] at word
    rw [tokens?_read solid word, tokens?_nil, Option.map_some]

/-! ## Words of values -/

mutual

/-- The words of a value. -/
def words : Json → List Token
  | null => [.scalar .null]
  | malformed => [.scalar .null]
  | bool value => [.scalar (.bool value)]
  | int value => [.scalar (.int value)]
  | real value => [.scalar (.real value)]
  | str value => [.text (some value)]
  | arr [] => [.leftBracket, .rightBracket]
  | arr (item :: items) => .leftBracket :: words item ++ wordsItems items ++ [.rightBracket]
  | obj [] => [.leftBrace, .rightBrace]
  | obj ((key, value) :: fields) =>
      .leftBrace :: .text (some key) :: .colon :: words value ++ wordsFields fields ++ [.rightBrace]

def wordsItems : List Json → List Token
  | [] => []
  | item :: items => .comma :: words item ++ wordsItems items

def wordsFields : List (String × Json) → List Token
  | [] => []
  | (key, value) :: fields =>
      .comma :: .text (some key) :: .colon :: words value ++ wordsFields fields

end

mutual

/-- A value without reals, and without whole numbers beyond 64 bits. -/
def isPlain : Json → Bool
  | arr items => isPlainItems items
  | obj fields => isPlainFields fields
  | int value => decide (IsWide value)
  | real _ => false
  | malformed => false
  | _ => true

def isPlainItems : List Json → Bool
  | [] => true
  | item :: items => item.isPlain && isPlainItems items

def isPlainFields : List (String × Json) → Bool
  | [] => true
  | (_, value) :: fields => value.isPlain && isPlainFields fields

end

/-- A style that only puts spaces between the words. -/
structure Style.OnlySpaces (style : Style) : Prop where
  char : style.char = escapeChar
  lineBreak : ∀ level, ∀ char ∈ style.lineBreak level, isSpace char = true
  colon : ∃ spaces, style.colon = ':' :: spaces ∧ ∀ char ∈ spaces, isSpace char = true

theorem Style.onlySpaces_pretty : Style.pretty.OnlySpaces where
  char := rfl
  lineBreak level char membership := by
    rcases List.mem_cons.mp membership with rfl | indented
    · rfl
    · rw [List.eq_of_mem_replicate indented]
      rfl
  colon := ⟨[' '], rfl, by simp [isSpace]⟩

theorem tokens?_spaces {spaces : List Char} (blank : ∀ char ∈ spaces, isSpace char = true)
    (rest : List Char) : tokens? (spaces ++ rest) = tokens? rest := by
  induction spaces with
  | nil => rfl
  | cons char spaces inductionHypothesis =>
      rw [List.forall_mem_cons] at blank
      rw [List.cons_append, tokens?_space blank.1, inductionHypothesis blank.2]

theorem ends_spaces {spaces : List Char} (blank : ∀ char ∈ spaces, isSpace char = true)
    {rest : List Char} (ends : Ends rest) : Ends (spaces ++ rest) := by
  rcases spaces with _ | ⟨first, spaces⟩
  · exact ends
  · intro char membership
    cases membership
    have space := blank first List.mem_cons_self
    simp only [isSpace, Bool.or_eq_true, beq_iff_eq] at space
    rcases space with ((rfl | rfl) | rfl) | rfl <;> decide

theorem ends_writeItems (style : Style) (items : List Json) (level : Nat) {rest : List Char}
    (ends : Ends rest) :
    Ends (writeItems style level items ++ rest) := by
  cases items with
  | nil => rw [writeItems]; exact ends
  | cons item items =>
      rw [writeItems]
      exact ends_mark (by decide) _

theorem ends_writeFields (style : Style) (fields : List (String × Json)) (level : Nat)
    {rest : List Char} (ends : Ends rest) : Ends (writeFields style level fields ++ rest) := by
  cases fields with
  | nil => rw [writeFields]; exact ends
  | cons field fields =>
      rw [writeFields]
      exact ends_mark (by decide) _

section Writing

variable {style : Style} (onlySpaces : style.OnlySpaces)
include onlySpaces

theorem tokens?_name (key : String) (rest : List Char) :
    tokens? (quote style key ++ (style.colon ++ rest)) =
      (tokens? rest).map fun words => .text (some key) :: .colon :: words := by
  rcases onlySpaces.colon with ⟨spaces, isColon, blank⟩
  rw [tokens?_quote onlySpaces.char, isColon, List.cons_append, tokens?_colon,
    tokens?_spaces blank, Option.map_map]
  rfl

mutual

theorem tokens?_write (value : Json) (level : Nat) {rest : List Char} (plain : value.isPlain = true)
    (ends : Ends rest) :
    tokens? (write style level value ++ rest) = (tokens? rest).map (value.words ++ ·) := by
  cases value with
  | null =>
      rw [write, words]
      exact tokens?_read (by decide) rfl
  | bool flag =>
      cases flag
      · rw [write, words]
        exact tokens?_read (by decide) rfl
      · rw [write, words]
        exact tokens?_read (by decide) rfl
  | int value =>
      rw [write, words]
      exact tokens?_append ends (tokens?_integer (by simpa [isPlain] using plain))
  | str value =>
      rw [write, words]
      exact tokens?_quote onlySpaces.char value rest
  | real value => simp [isPlain] at plain
  | malformed => simp [isPlain] at plain
  | arr items =>
      cases items with
      | nil =>
          simp only [write, words, List.cons_append, List.nil_append, tokens?_leftBracket,
            tokens?_rightBracket, Option.map_map]
          rfl
      | cons item items =>
          rw [isPlain, isPlainItems, Bool.and_eq_true] at plain
          have close : Ends (style.lineBreak level ++ ']' :: rest) :=
            ends_spaces (onlySpaces.lineBreak level) (ends_mark (by decide) rest)
          have first := tokens?_write item (level + 1) plain.1
            (ends_writeItems style items (level + 1) close)
          have later := tokens?_writeItems items (level + 1) plain.2 close
          simp only [write, words, List.cons_append, List.append_assoc, List.nil_append,
            tokens?_leftBracket, tokens?_spaces (onlySpaces.lineBreak _), first, later,
            tokens?_rightBracket, Option.map_map]
          rfl
  | obj fields =>
      cases fields with
      | nil =>
          simp only [write, words, List.cons_append, List.nil_append, tokens?_leftBrace,
            tokens?_rightBrace, Option.map_map]
          rfl
      | cons field fields =>
          rcases field with ⟨key, value⟩
          rw [isPlain, isPlainFields, Bool.and_eq_true] at plain
          have close : Ends (style.lineBreak level ++ '}' :: rest) :=
            ends_spaces (onlySpaces.lineBreak level) (ends_mark (by decide) rest)
          have first := tokens?_write value (level + 1) plain.1
            (ends_writeFields style fields (level + 1) close)
          have later := tokens?_writeFields fields (level + 1) plain.2 close
          simp only [write, words, List.cons_append, List.append_assoc, List.nil_append,
            tokens?_leftBrace, tokens?_spaces (onlySpaces.lineBreak _), tokens?_name onlySpaces,
            first, later, tokens?_rightBrace, Option.map_map]
          rfl

theorem tokens?_writeItems (items : List Json) (level : Nat) {rest : List Char}
    (plain : isPlainItems items = true) (ends : Ends rest) :
    tokens? (writeItems style level items ++ rest) =
      (tokens? rest).map (wordsItems items ++ ·) := by
  cases items with
  | nil => simp [writeItems, wordsItems]
  | cons item items =>
      rw [isPlainItems, Bool.and_eq_true] at plain
      have first := tokens?_write item level plain.1 (ends_writeItems style items level ends)
      have later := tokens?_writeItems items level plain.2 ends
      simp only [writeItems, wordsItems, List.cons_append, List.append_assoc, tokens?_comma,
        tokens?_spaces (onlySpaces.lineBreak _), first, later, Option.map_map]
      rfl

theorem tokens?_writeFields (fields : List (String × Json)) (level : Nat) {rest : List Char}
    (plain : isPlainFields fields = true) (ends : Ends rest) :
    tokens? (writeFields style level fields ++ rest) =
      (tokens? rest).map (wordsFields fields ++ ·) := by
  cases fields with
  | nil => simp [writeFields, wordsFields]
  | cons field fields =>
      rcases field with ⟨key, value⟩
      rw [isPlainFields, Bool.and_eq_true] at plain
      have first := tokens?_write value level plain.1 (ends_writeFields style fields level ends)
      have later := tokens?_writeFields fields level plain.2 ends
      simp only [writeFields, wordsFields, List.cons_append, List.append_assoc, tokens?_comma,
        tokens?_spaces (onlySpaces.lineBreak _), tokens?_name onlySpaces, first, later,
        Option.map_map]
      rfl

end

end Writing

end MavBridge.Json
