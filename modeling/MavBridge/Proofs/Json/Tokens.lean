import MavBridge.Json.Token
import Mathlib.Data.List.Basic

/-!
# The words of a text

Every word takes at least one character, and what follows a word does not change it unless it can be
read as more of a number.
-/

namespace MavBridge.Json

namespace Token

/-! ## Texts -/

variable {chars after : List Char}

/-- A text is the same whatever follows it. -/
theorem exists_of_readText {units : List Nat} (read : readText chars = some (units, after)) :
    ∃ body, chars = body ++ after ∧ body ≠ [] ∧
      ∀ more, readText (body ++ more) = some (units, more) := by
  fun_induction readText chars generalizing units after with
  | case1 => cases read
  | case2 rest =>
      cases read
      exact ⟨['"'], rfl, by simp, fun more => by rw [List.singleton_append, readText]⟩
  | case3 a b c d rest unit units later readRest written inductionHypothesis =>
      cases read
      rcases inductionHypothesis readRest with ⟨body, rfl, -, same⟩
      refine ⟨'\\' :: 'u' :: a :: b :: c :: d :: body, rfl, by simp, ?_⟩
      intro more
      simp only [List.cons_append, readText_unit written, same, Option.map_some]
  | case5 letter rest notUnit char units later readRest escapes inductionHypothesis =>
      cases read
      rcases inductionHypothesis readRest with ⟨body, rfl, -, same⟩
      refine ⟨'\\' :: letter :: body, rfl, by simp, ?_⟩
      intro more
      simp only [List.cons_append, readText_letter escapes, same, Option.map_some]
  | case8 char rest notQuote notUnit notLetter isPrinted units later readRest inductionHypothesis =>
      cases read
      rcases inductionHypothesis readRest with ⟨body, rfl, nonempty, same⟩
      have notEscape : char ≠ '\\' := by
        rintro rfl
        rcases body with _ | ⟨letter, body⟩
        · exact nonempty rfl
        · exact notLetter letter (body ++ _) rfl rfl
      refine ⟨char :: body, rfl, by simp, ?_⟩
      intro more
      simp only [List.cons_append, readText_plain notQuote notEscape isPrinted, same,
        Option.map_some]
  | case4 | case6 | case7 | case9 => cases read

/-! ## Numbers -/

/-- What cannot be read as more of a number. -/
def Ends (rest : List Char) : Prop :=
  ∀ char ∈ rest.head?, isDigit char = false ∧ char ≠ '.' ∧ char ≠ 'e' ∧ char ≠ 'E'

section Number

variable {rest : List Char} (ends : Ends rest)
include ends

theorem takeWhile_digits_append (chars : List Char) :
    (chars ++ rest).takeWhile isDigit = chars.takeWhile isDigit ∧
      (chars ++ rest).dropWhile isDigit = chars.dropWhile isDigit ++ rest := by
  induction chars with
  | nil =>
      rcases rest with _ | ⟨char, rest⟩
      · exact ⟨rfl, rfl⟩
      · have notDigit := (ends char rfl).1
        simp [notDigit]
  | cons char chars inductionHypothesis =>
      by_cases digit : isDigit char = true <;> simp [digit, inductionHypothesis]

theorem readWhole_append {digits : List Char} (read : readWhole chars = some (digits, after)) :
    readWhole (chars ++ rest) = some (digits, after ++ rest) := by
  rcases chars with _ | ⟨char, chars⟩
  · cases read
  · rcases takeWhile_digits_append ends chars with ⟨taken, dropped⟩
    simp only [readWhole, List.cons_append, taken, dropped] at read ⊢
    split
    next zero =>
      rw [if_pos zero] at read
      cases read
      rfl
    next notZero =>
      rw [if_neg notZero] at read
      split
      next digit =>
        rw [if_pos digit] at read
        cases read
        rfl
      next other =>
        rw [if_neg other] at read
        cases read

theorem readFraction_append {fraction : Option (List Char)}
    (read : readFraction chars = some (fraction, after)) :
    readFraction (chars ++ rest) = some (fraction, after ++ rest) := by
  have missing (char : Char) (later : List Char) (other : char ≠ '.') :
      readFraction (char :: later) = some (none, char :: later) := by
    rw [readFraction]
    intro digits isPoint
    exact absurd (List.cons.inj isPoint).1 other
  rcases chars with _ | ⟨char, chars⟩
  · cases read
    rcases rest with _ | ⟨next, rest⟩
    · rfl
    · exact missing next rest (ends next rfl).2.1
  · by_cases point : char = '.'
    · subst point
      rcases takeWhile_digits_append ends chars with ⟨taken, dropped⟩
      simp only [readFraction, List.cons_append, taken, dropped] at read ⊢
      split at read
      next none => cases read
      next found =>
        cases read
        rw [if_neg found]
    · rw [missing char chars point] at read
      cases read
      exact missing char (chars ++ rest) point

theorem readPower_append {negative : Bool} {power : Option Int}
    (read : readPower negative chars = some (power, after)) :
    readPower negative (chars ++ rest) = some (power, after ++ rest) := by
  rcases takeWhile_digits_append ends chars with ⟨taken, dropped⟩
  unfold readPower at read ⊢
  rw [taken, dropped]
  split at read
  next missing => cases read
  next found =>
    cases read
    rw [if_neg found]

theorem readExponent_append {power : Option Int} (read : readExponent chars = some (power, after)) :
    readExponent (chars ++ rest) = some (power, after ++ rest) := by
  rcases chars with _ | ⟨char, chars⟩
  · cases read
    rcases rest with _ | ⟨next, rest⟩
    · rfl
    · have other := (ends next rfl).2.2
      simp [readExponent, other]
  · simp only [readExponent, List.cons_append] at read ⊢
    split
    next marked =>
      rw [if_pos marked] at read
      rcases chars with _ | ⟨sign, chars⟩
      · cases read
      · rw [List.cons_append]
        split at read
        next digits isPlus =>
          cases isPlus
          exact readPower_append ends read
        next digits isMinus =>
          cases isMinus
          exact readPower_append ends read
        next digits notPlus notMinus =>
          have unsigned := readPower_append ends read
          rw [List.cons_append] at unsigned
          split
          next isPlus =>
            cases isPlus
            exact absurd rfl (notPlus chars)
          next isMinus =>
            cases isMinus
            exact absurd rfl (notMinus chars)
          next => exact unsigned
    next unmarked =>
      rw [if_neg unmarked] at read
      cases read
      rfl

theorem readUnsigned_append {negative : Bool} {value : Json}
    (read : readUnsigned negative chars = some (value, after)) :
    readUnsigned negative (chars ++ rest) = some (value, after ++ rest) := by
  simp only [readUnsigned, Option.bind_eq_bind, Option.bind_eq_some_iff, Option.pure_def] at read
  rcases read with ⟨⟨whole, afterWhole⟩, readWhole, ⟨fraction, afterFraction⟩, readFraction,
    ⟨power, afterPower⟩, readPower, done⟩
  cases done
  simp only [readUnsigned, readWhole_append ends readWhole, readFraction_append ends readFraction,
    readExponent_append ends readPower, Option.bind_eq_bind, Option.bind_some, Option.pure_def]

theorem readNumber_append {value : Json} (read : readNumber chars = some (value, after)) :
    readNumber (chars ++ rest) = some (value, after ++ rest) := by
  unfold readNumber at read
  split at read
  next digits => exact readUnsigned_append ends read
  next notMinus =>
    rcases chars with _ | ⟨char, chars⟩
    · cases read
    · have unsigned := readUnsigned_append ends read
      rw [List.cons_append] at unsigned ⊢
      unfold readNumber
      split
      next isMinus =>
        cases isMinus
        exact absurd rfl (notMinus chars)
      next => exact unsigned

end Number

theorem length_dropWhile_le (chars : List Char) :
    (chars.dropWhile isDigit).length ≤ chars.length :=
  (List.dropWhile_suffix _).length_le

theorem length_readPower_le {negative : Bool} {power : Option Int}
    (read : readPower negative chars = some (power, after)) : after.length ≤ chars.length := by
  unfold readPower at read
  split at read
  next missing => cases read
  next found =>
    cases read
    exact length_dropWhile_le chars

theorem length_readExponent_le {power : Option Int}
    (read : readExponent chars = some (power, after)) : after.length ≤ chars.length := by
  rcases chars with _ | ⟨char, chars⟩
  · cases read
    exact Nat.le_refl _
  · simp only [readExponent] at read
    split at read
    next marked =>
      rw [List.length_cons]
      split at read
      next digits =>
        have shorter := length_readPower_le read
        rw [List.length_cons]
        omega
      next digits =>
        have shorter := length_readPower_le read
        rw [List.length_cons]
        omega
      next =>
        have shorter := length_readPower_le read
        omega
    next unmarked =>
      cases read
      exact Nat.le_refl _

theorem length_readFraction_le {fraction : Option (List Char)}
    (read : readFraction chars = some (fraction, after)) : after.length ≤ chars.length := by
  unfold readFraction at read
  split at read
  next digits =>
    split at read
    next missing => cases read
    next found =>
      cases read
      exact Nat.le_succ_of_le (length_dropWhile_le digits)
  next =>
    cases read
    exact Nat.le_refl _

theorem length_readWhole_lt {digits : List Char} (read : readWhole chars = some (digits, after)) :
    after.length < chars.length := by
  rcases chars with _ | ⟨char, chars⟩
  · cases read
  · simp only [readWhole] at read
    split at read
    next zero =>
      cases read
      exact Nat.lt_succ_self _
    next notZero =>
      split at read
      next digit =>
        cases read
        exact Nat.lt_succ_of_le (length_dropWhile_le chars)
      next other => cases read

theorem length_readUnsigned_lt {negative : Bool} {value : Json}
    (read : readUnsigned negative chars = some (value, after)) : after.length < chars.length := by
  simp only [readUnsigned, Option.bind_eq_bind, Option.bind_eq_some_iff, Option.pure_def] at read
  rcases read with ⟨⟨whole, afterWhole⟩, readWhole, ⟨fraction, afterFraction⟩, readFraction,
    ⟨power, afterPower⟩, readPower, done⟩
  cases done
  have first := length_readWhole_lt readWhole
  have second := length_readFraction_le readFraction
  have third := length_readExponent_le readPower
  dsimp only at *
  omega

theorem length_readNumber_lt {value : Json} (read : readNumber chars = some (value, after)) :
    after.length < chars.length := by
  unfold readNumber at read
  split at read
  next digits => exact Nat.lt_succ_of_lt (length_readUnsigned_lt read)
  next => exact length_readUnsigned_lt read

/-- A number starts with a digit or with its sign. -/
theorem starts_of_readNumber {char : Char} {value : Json}
    (read : readNumber (char :: chars) = some (value, after)) :
    isDigit char = true ∨ char = '-' := by
  unfold readNumber at read
  split at read
  next isMinus => exact .inr (List.cons.inj isMinus).1
  next =>
    simp only [readUnsigned, readWhole, Option.bind_eq_bind, Option.bind_eq_some_iff] at read
    rcases read with ⟨whole, isWhole, -⟩
    split at isWhole
    next zero => exact .inl (by rw [zero]; decide)
    next =>
      split at isWhole
      next digit => exact .inl digit
      next => cases isWhole

/-! ## Words -/

/-- A word has characters that stand for it whatever follows them, unless it is a number. -/
theorem exists_of_read? {token : Token} (read : read? chars = some (token, after)) :
    (∃ word, word ≠ [] ∧ chars = word ++ after ∧
        ∀ rest, read? (word ++ rest) = some (token, rest)) ∨
      ∃ value, readNumber chars = some (value, after) ∧ token = .scalar value := by
  unfold read? at read
  split at read
  case h_1 => cases read
  case h_8 later =>
    rcases found : readText later with _ | ⟨units, afterText⟩
    · rw [found] at read
      cases read
    · rw [found] at read
      cases read
      rcases exists_of_readText found with ⟨body, rfl, -, same⟩
      refine .inl ⟨'"' :: body, List.cons_ne_nil _ _, rfl, ?_⟩
      intro rest
      rw [List.cons_append, read?, same, Option.map_some]
  case h_12 =>
    rcases found : readNumber chars with _ | ⟨value, afterNumber⟩
    · rw [found] at read
      cases read
    · rw [found] at read
      cases read
      exact .inr ⟨value, rfl, rfl⟩
  case h_9 =>
    cases read
    exact .inl ⟨['n', 'u', 'l', 'l'], List.cons_ne_nil _ _, rfl, fun _ => rfl⟩
  case h_10 =>
    cases read
    exact .inl ⟨['t', 'r', 'u', 'e'], List.cons_ne_nil _ _, rfl, fun _ => rfl⟩
  case h_11 =>
    cases read
    exact .inl ⟨['f', 'a', 'l', 's', 'e'], List.cons_ne_nil _ _, rfl, fun _ => rfl⟩
  all_goals
    cases read
    exact .inl ⟨[_], List.cons_ne_nil _ _, rfl, fun _ => rfl⟩

/-- A word is the same whatever follows it, unless that is more of a number. -/
theorem read?_append {rest : List Char} (ends : Ends rest) {token : Token}
    (read : read? chars = some (token, after)) :
    read? (chars ++ rest) = some (token, after ++ rest) := by
  rcases exists_of_read? read with ⟨word, -, rfl, same⟩ | ⟨value, found, rfl⟩
  · rw [List.append_assoc]
    exact same (after ++ rest)
  · rcases chars with _ | ⟨char, chars⟩
    · cases found
    · have longer := readNumber_append ends found
      rw [List.cons_append] at longer ⊢
      rw [read?_number (starts_of_readNumber found), longer, Option.map_some]

theorem length_read?_lt {token : Token} (read : read? chars = some (token, after)) :
    after.length < chars.length := by
  rcases exists_of_read? read with ⟨word, nonempty, rfl, -⟩ | ⟨value, found, -⟩
  · have longer := List.length_pos_of_ne_nil nonempty
    rw [List.length_append]
    omega
  · exact length_readNumber_lt found

end Token

open Token (Ends isSpace)

/-! ## Texts of words -/

variable {text rest : List Char}

/-- Counts of steps that are large enough come to the same. -/
theorem tokensWith_congr {fuel other : Nat} (enough : text.length ≤ fuel)
    (enoughToo : text.length ≤ other) : tokensWith fuel text = tokensWith other text := by
  induction fuel generalizing text other with
  | zero =>
      cases List.length_eq_zero_iff.mp (Nat.le_zero.mp enough)
      cases other <;> rfl
  | succ fuel inductionHypothesis =>
      rcases text with _ | ⟨char, rest⟩
      · cases other <;> rfl
      · rcases other with _ | other
        · cases enoughToo
        · rw [List.length_cons] at enough enoughToo
          simp only [tokensWith]
          split
          next space => exact inductionHypothesis (by omega) (by omega)
          next solid =>
            split
            next unread => rfl
            next token after read =>
              have shorter := Token.length_read?_lt read
              rw [List.length_cons] at shorter
              rw [inductionHypothesis (show after.length ≤ fuel by omega)
                (show after.length ≤ other by omega)]

theorem tokens?_nil : tokens? [] = some [] := rfl

theorem tokens?_cons (char : Char) (rest : List Char) :
    tokens? (char :: rest) =
      if isSpace char then tokens? rest
      else
        match Token.read? (char :: rest) with
        | none => none
        | some (token, after) => (tokensWith rest.length after).map (token :: ·) := rfl

theorem tokens?_space {char : Char} (isSpace : isSpace char = true) :
    tokens? (char :: rest) = tokens? rest := by
  rw [tokens?_cons, if_pos isSpace]

theorem tokens?_read {char : Char} (isSolid : ¬ isSpace char = true) {token : Token}
    {after : List Char} (read : Token.read? (char :: rest) = some (token, after)) :
    tokens? (char :: rest) = (tokens? after).map (token :: ·) := by
  have shorter := Token.length_read?_lt read
  rw [List.length_cons] at shorter
  have same : tokensWith rest.length after = tokens? after :=
    tokensWith_congr (by omega) (Nat.le_refl _)
  rw [tokens?_cons, if_neg isSolid, read, ← same]

theorem tokens?_unread {char : Char} (isSolid : ¬ isSpace char = true)
    (unread : Token.read? (char :: rest) = none) : tokens? (char :: rest) = none := by
  rw [tokens?_cons, if_neg isSolid, unread]

section Marks

variable (rest)

theorem tokens?_leftBrace : tokens? ('{' :: rest) = (tokens? rest).map (.leftBrace :: ·) :=
  tokens?_read (by decide) rfl

theorem tokens?_rightBrace : tokens? ('}' :: rest) = (tokens? rest).map (.rightBrace :: ·) :=
  tokens?_read (by decide) rfl

theorem tokens?_leftBracket : tokens? ('[' :: rest) = (tokens? rest).map (.leftBracket :: ·) :=
  tokens?_read (by decide) rfl

theorem tokens?_rightBracket : tokens? (']' :: rest) = (tokens? rest).map (.rightBracket :: ·) :=
  tokens?_read (by decide) rfl

theorem tokens?_colon : tokens? (':' :: rest) = (tokens? rest).map (.colon :: ·) :=
  tokens?_read (by decide) rfl

theorem tokens?_comma : tokens? (',' :: rest) = (tokens? rest).map (.comma :: ·) :=
  tokens?_read (by decide) rfl

end Marks

/-- A mark cannot be read as more of a number. -/
theorem ends_mark {char : Char} (isMark : char ∈ ['}', ']', ',']) (rest : List Char) :
    Ends (char :: rest) := by
  intro other membership
  cases membership
  simp only [List.mem_cons, List.not_mem_nil, or_false] at isMark
  rcases isMark with rfl | rfl | rfl <;> decide

/-- The words of two texts, of which the second starts anew. -/
theorem tokens?_append (ends : Ends rest) {words : List Token} (read : tokens? text = some words) :
    tokens? (text ++ rest) = (tokens? rest).map (words ++ ·) := by
  induction length : text.length using Nat.strongRecOn generalizing text words with
  | ind count inductionHypothesis =>
      rcases text with _ | ⟨char, text⟩
      · cases read
        simp
      · rw [List.length_cons] at length
        by_cases space : isSpace char = true
        · rw [tokens?_space space] at read
          rw [List.cons_append, tokens?_space space]
          exact inductionHypothesis text.length (by omega) read rfl
        · rcases first : Token.read? (char :: text) with _ | ⟨token, after⟩
          · rw [tokens?_unread space first] at read
            cases read
          · have shorter := Token.length_read?_lt first
            rw [List.length_cons] at shorter
            have longer := Token.read?_append ends first
            rw [List.cons_append] at longer ⊢
            rw [tokens?_read space first, Option.map_eq_some_iff] at read
            rcases read with ⟨later, readLater, rfl⟩
            rw [tokens?_read space longer,
              inductionHypothesis after.length (by omega) readLater rfl, Option.map_map]
            rfl

end MavBridge.Json
