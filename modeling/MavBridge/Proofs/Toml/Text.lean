import MavBridge.Toml.Text
import Mathlib.Data.List.TakeWhile
import Mathlib.Tactic.SplitIfs

/-!
# Quoted texts

Every text is read back from the form in which it is written, whichever quotes it needs.  `Spells`
says how a text may stand between quotes: each character in some form that is read as one piece, and
quotes as they are while there are too few of them in a row to end the text.
-/

namespace MavBridge.Toml

/-! ## How a text may stand -/

/-- How many quotes in a row may stand in a text. -/
def Quoting.allowance (quoting : Quoting) : Nat := if quoting.isBlock then 2 else 0

section Spelling

variable {quoting : Quoting}

/-- A form of a character, which is neither a quote nor a line break of its own. -/
structure Stands (quoting : Quoting) (char : Char) (form : List Char) : Prop where
  piece : ∀ rest, piece? quoting (form ++ rest) = some ([char], rest)
  start : ∃ first rest, form = first :: rest ∧ first ≠ quoting.quote ∧ first ≠ '\r' ∧
    (first = '\n' → char = '\n')

/-- Characters that stand for a text; `run` counts the quotes right before them. -/
inductive Spells (quoting : Quoting) : (run : Nat) → (chars text : List Char) → Prop where
  | nil (run : Nat) : Spells quoting run [] []
  | form {run : Nat} {char : Char} {form chars text : List Char} :
      Stands quoting char form → Spells quoting 0 chars text →
      Spells quoting run (form ++ chars) (char :: text)
  | quote {run : Nat} {chars text : List Char} :
      run < quoting.allowance → Spells quoting (run + 1) chars text →
      Spells quoting run (quoting.quote :: chars) (quoting.quote :: text)

variable {run : Nat} {chars text after : List Char}

/-- The quotes that come first are few, and another character follows unless they are all. -/
theorem Spells.leading (spells : Spells quoting run chars text)
    (bounded : run ≤ quoting.allowance) :
    ∃ count, run + count ≤ quoting.allowance ∧
      ((chars = List.replicate count quoting.quote ∧
          text = List.replicate count quoting.quote) ∨
        ∃ first rest, first ≠ quoting.quote ∧
          chars = List.replicate count quoting.quote ++ first :: rest) := by
  induction spells with
  | nil run => exact ⟨0, bounded, .inl ⟨rfl, rfl⟩⟩
  | form stands _ _ =>
      obtain ⟨first, rest, rfl, other, _⟩ := stands.start
      exact ⟨0, bounded, .inr ⟨first, _, other, rfl⟩⟩
  | quote more _ inductionHypothesis =>
      obtain ⟨count, few, parts⟩ := inductionHypothesis more
      refine ⟨count + 1, by omega, ?_⟩
      rcases parts with ⟨rfl, rfl⟩ | ⟨first, rest, other, rfl⟩
      · exact .inl ⟨rfl, rfl⟩
      · exact .inr ⟨first, rest, other, rfl⟩

/-! ## The end of a text -/

theorem takeWhile_quotes (count : Nat) {char : Char} {rest : List Char}
    (apart : rest.head? ≠ some char) :
    ((List.replicate count char ++ rest).takeWhile (· = char)).length = count := by
  rw [List.takeWhile_append_of_pos (by simp), List.length_append, List.length_replicate]
  cases rest with
  | nil => rfl
  | cons first rest =>
      have other : first ≠ char := by simpa using apart
      simp [other]

theorem close?_delimiter {count : Nat} (few : count ≤ quoting.allowance)
    (apart : after.head? ≠ some quoting.quote) :
    close? quoting (List.replicate count quoting.quote ++ (quoting.delimiter ++ after)) =
      some (List.replicate count quoting.quote, after) := by
  unfold Quoting.allowance at few
  unfold Quoting.delimiter close?
  rw [← List.append_assoc, List.replicate_append_replicate, takeWhile_quotes _ apart]
  cases block : quoting.isBlock with
  | true =>
      rw [block, if_pos rfl] at few
      have kept : min (count + 3 - 3) 2 = count := by omega
      have taken : min (count + 3) 5 = count + 3 := by omega
      dsimp only
      rw [if_pos rfl, if_pos rfl, if_neg (by omega), kept, taken]
      simp
  | false =>
      rw [block, if_neg Bool.false_ne_true] at few
      simp [Nat.le_zero.mp few]

theorem close?_eq_none {count : Nat} (few : count ≤ quoting.allowance) {first : Char}
    (other : first ≠ quoting.quote) (rest : List Char) :
    close? quoting (List.replicate count quoting.quote ++ first :: rest) = none := by
  unfold Quoting.allowance at few
  unfold close?
  rw [takeWhile_quotes count (by simpa using other)]
  cases block : quoting.isBlock with
  | true =>
      rw [block, if_pos rfl] at few
      simp [Nat.lt_of_le_of_lt few]
  | false =>
      rw [block, if_neg Bool.false_ne_true] at few
      simp [Nat.le_zero.mp few]

theorem Spells.close (spells : Spells quoting run chars text)
    (bounded : run ≤ quoting.allowance) (apart : after.head? ≠ some quoting.quote) :
    close? quoting (chars ++ (quoting.delimiter ++ after)) = some (text, after) ∨
      close? quoting (chars ++ (quoting.delimiter ++ after)) = none ∧ chars ≠ [] := by
  obtain ⟨count, few, parts⟩ := spells.leading bounded
  rcases parts with ⟨rfl, rfl⟩ | ⟨first, rest, other, rfl⟩
  · exact .inl (close?_delimiter (by omega) apart)
  · rw [List.append_assoc, List.cons_append]
    exact .inr ⟨close?_eq_none (by omega) other _, by simp⟩

/-! ## Reading -/

/-- A quote that does not end a text is a piece of it. -/
def Quoting.Admits (quoting : Quoting) : Prop :=
  ∀ rest, piece? quoting (quoting.quote :: rest) = some ([quoting.quote], rest)

theorem readBody_of_spells (admits : quoting.Admits) (spells : Spells quoting run chars text)
    (bounded : run ≤ quoting.allowance) (apart : after.head? ≠ some quoting.quote) {fuel : Nat}
    (enough : chars.length < fuel) :
    readBody quoting fuel (chars ++ (quoting.delimiter ++ after)) = some (text, after) := by
  -- On the spelling; each form is read as one piece.
  induction spells generalizing fuel with
  | nil run =>
      obtain ⟨fuel, rfl⟩ := Nat.exists_eq_succ_of_ne_zero (Nat.ne_zero_of_lt enough)
      rcases (Spells.nil run).close bounded apart with ended | ⟨_, nonempty⟩
      · rw [readBody, ended]
      · exact absurd rfl nonempty
  | @form run char form chars text stands spells inductionHypothesis =>
      obtain ⟨fuel, rfl⟩ := Nat.exists_eq_succ_of_ne_zero (Nat.ne_zero_of_lt enough)
      rcases (Spells.form stands spells).close bounded apart with ended | ⟨goesOn, _⟩
      · rw [readBody, ended]
      · obtain ⟨first, rest, rfl, _⟩ := stands.start
        rw [List.length_append, List.length_cons] at enough
        have shorter : chars.length < fuel := by omega
        have later := inductionHypothesis (Nat.zero_le _) shorter
        rw [readBody, goesOn, List.append_assoc, stands.piece]
        dsimp only
        rw [later]
        rfl
  | quote more spells inductionHypothesis =>
      obtain ⟨fuel, rfl⟩ := Nat.exists_eq_succ_of_ne_zero (Nat.ne_zero_of_lt enough)
      rcases (Spells.quote more spells).close bounded apart with ended | ⟨goesOn, _⟩
      · rw [readBody, ended]
      · rw [List.length_cons] at enough
        have later := inductionHypothesis more (Nat.lt_of_succ_lt_succ enough)
        rw [readBody, goesOn, List.cons_append, admits]
        dsimp only
        rw [later]
        rfl

theorem afterLineBreak?_cons {first : Char} (solid : first ≠ '\n' ∧ first ≠ '\r')
    (rest : List Char) : afterLineBreak? (first :: rest) = none := by
  unfold afterLineBreak?
  split
  next line => exact absurd (List.cons.inj line).1 solid.1
  next line => exact absurd (List.cons.inj line).1 solid.2
  next => rfl

theorem Spells.afterLineBreak?_eq_none (spells : Spells quoting run chars text)
    (clear : '\n' ∉ text) (solid : quoting.quote ≠ '\n' ∧ quoting.quote ≠ '\r')
    (rest : List Char) :
    afterLineBreak? (chars ++ (quoting.delimiter ++ rest)) = none := by
  cases spells with
  | nil run =>
      unfold Quoting.delimiter
      split
      next => exact afterLineBreak?_cons solid _
      next => exact afterLineBreak?_cons solid _
  | form stands spells =>
      obtain ⟨first, others, rfl, _, noReturn, ownBreak⟩ := stands.start
      refine afterLineBreak?_cons ⟨?_, noReturn⟩ _
      intro isBreak
      exact clear (List.mem_cons.mpr (.inl (ownBreak isBreak).symm))
  | quote more spells => exact afterLineBreak?_cons solid _

/-! ## Escapes -/

/-- Between double quotes a backslash starts an escape. -/
def Quoting.IsDouble (quoting : Quoting) : Prop := quoting = .basic ∨ quoting = .basicBlock

theorem piece?_unit (double : quoting.IsDouble) {a b c d char : Char}
    (written : codePoint? [a, b, c, d] = some char) (rest : List Char) :
    piece? quoting ('\\' :: 'u' :: a :: b :: c :: d :: rest) = some ([char], rest) := by
  have long : ¬ (a :: b :: c :: d :: rest).length < 4 := by simp
  rcases double with rfl | rfl
  · simp [piece?, escape?, Quoting.basic, written]
  · simp [piece?, escape?, Quoting.basicBlock, written, afterLineBreak?, isSpace]

theorem codePoint?_control {char : Char} (control : isControl char = true) :
    codePoint? ((Hex.digits 4 char.toNat).map Char.toUpper) = some char := by
  have all : ∀ code < 128, isControl (Char.ofNat code) = true →
      codePoint? ((Hex.digits 4 code).map Char.toUpper) = some (Char.ofNat code) := by decide
  have small : char.toNat < 128 := by
    simp [isControl] at control
    omega
  have written := all char.toNat small
  rw [Char.ofNat_toNat] at written
  exact written control

theorem stands_of_piece (double : quoting.IsDouble) {char : Char} {letters : List Char}
    (piece : ∀ rest, piece? quoting ('\\' :: letters ++ rest) = some ([char], rest)) :
    Stands quoting char ('\\' :: letters) := by
  refine ⟨piece, '\\', letters, rfl, ?_, by decide, fun isBreak => absurd isBreak (by decide)⟩
  rcases double with rfl | rfl <;> decide

theorem stands_letter (double : quoting.IsDouble) {letter char : Char}
    (solid : letter ∉ [' ', '\t', '\n', '\r']) (stands : escaped? letter = some char) :
    Stands quoting char ['\\', letter] := by
  simp only [List.mem_cons, List.not_mem_nil, or_false, not_or] at solid
  obtain ⟨notSpace, notTab, notBreak, notReturn⟩ := solid
  refine stands_of_piece double ?_
  intro rest
  have noBreak : afterLineBreak? (letter :: rest) = none :=
    afterLineBreak?_cons ⟨notBreak, notReturn⟩ rest
  have sameLine : ¬ (afterLineBreak? ((letter :: rest).dropWhile isSpace)).isSome = true := by
    simp [isSpace, notSpace, notTab, noBreak]
  have read : escape? quoting (letter :: rest) = some ([char], rest) := by
    unfold escape?
    rw [if_neg fun both => sameLine both.2]
    split
    next unit =>
      cases unit
      cases stands
    next unit =>
      cases unit
      cases stands
    next plain =>
      cases plain
      rw [stands, Option.map_some]
    next empty => cases empty
  rcases double with rfl | rfl <;> exact read

theorem stands_of_escaped (double : quoting.IsDouble) {run : Nat} {char : Char}
    {form : List Char} (escaped : escapedForm? quoting.isBlock run char = some form) :
    Stands quoting char form := by
  unfold escapedForm? at escaped
  split_ifs at escaped with isQuote block few never isEscape isTab isBreak inLine isReturn isBack
    isForm control
  · cases escaped
    subst isQuote
    exact stands_letter double (by decide) rfl
  · cases escaped
    subst isQuote
    exact stands_letter double (by decide) rfl
  · cases escaped
    subst isEscape
    exact stands_letter double (by decide) rfl
  · cases escaped
    subst isTab
    exact stands_letter double (by decide) rfl
  · cases escaped
    subst isBreak
    exact stands_letter double (by decide) rfl
  · cases escaped
    subst isReturn
    exact stands_letter double (by decide) rfl
  · cases escaped
    have eight : char = Char.ofNat 8 := by rw [← isBack, Char.ofNat_toNat]
    subst eight
    exact stands_letter double (by decide) rfl
  · cases escaped
    have twelve : char = Char.ofNat 12 := by rw [← isForm, Char.ofNat_toNat]
    subst twelve
    exact stands_letter double (by decide) rfl
  · cases escaped
    exact stands_of_piece double (piece?_unit double (codePoint?_control control))

/-! ## Characters as they are -/

theorem piece?_self {char : Char} (noEscape : char ≠ '\\' ∨ quoting.escapes = false)
    (fits : isControl char = true → char = '\n' ∧ quoting.isBlock = true) (rest : List Char) :
    piece? quoting (char :: rest) = some ([char], rest) := by
  by_cases backslash : char = '\\'
  · subst backslash
    have raw : quoting.escapes = false := by simpa using noEscape
    simp [piece?, raw]
  · by_cases control : isControl char = true
    · obtain ⟨rfl, block⟩ := fits control
      simp [piece?, control, block, afterLineBreak?]
    · simp [piece?, control]

theorem stands_self {char : Char} (other : char ≠ quoting.quote)
    (noEscape : char ≠ '\\' ∨ quoting.escapes = false)
    (fits : isControl char = true → char = '\n' ∧ quoting.isBlock = true) :
    Stands quoting char [char] := by
  refine ⟨piece?_self noEscape fits, char, [], rfl, other, ?_, id⟩
  rintro rfl
  exact absurd (fits (by decide)).1 (by decide)

theorem stands_of_plain (double : quoting.IsDouble) {run : Nat} {char : Char}
    (plain : escapedForm? quoting.isBlock run char = none) (other : char ≠ quoting.quote) :
    Stands quoting char [char] := by
  have isQuote : quoting.quote = '"' := by rcases double with rfl | rfl <;> rfl
  unfold escapedForm? at plain
  rw [if_neg (isQuote ▸ other)] at plain
  split_ifs at plain with isEscape isTab isBreak block isReturn isBack isForm control
  · exact stands_self other (.inl isEscape) fun _ => ⟨isBreak, block⟩
  · exact stands_self other (.inl isEscape) fun isControl => absurd isControl control

theorem spells_escapeBody (double : quoting.IsDouble) (run : Nat) (text : List Char) :
    Spells quoting run (escapeBody quoting.isBlock run text) text := by
  have isQuote : quoting.quote = '"' := by rcases double with rfl | rfl <;> rfl
  induction text generalizing run with
  | nil => exact .nil run
  | cons char rest inductionHypothesis =>
      rw [escapeBody]
      cases escaped : escapedForm? quoting.isBlock run char with
      | some form => exact .form (stands_of_escaped double escaped) (inductionHypothesis 0)
      | none =>
          dsimp only
          rw [← isQuote]
          split_ifs with same
          · subst same
            have more : run < quoting.allowance := by
              by_contra enough
              rw [Quoting.allowance] at enough
              rw [escapedForm?, if_pos isQuote, if_neg enough] at escaped
              cases escaped
            exact .quote more (inductionHypothesis (run + 1))
          · exact .form (stands_of_plain double escaped same) (inductionHypothesis 0)

/-! ## Texts as they are -/

/-- Between single quotes every character stands for itself. -/
def Quoting.IsSingle (quoting : Quoting) : Prop := quoting = .literal ∨ quoting = .literalBlock

/-- A text may stand as it is if it has no control characters but line breaks where these may
stand, and few quotes in a row; `run` counts those right before it. -/
theorem spells_self (single : quoting.IsSingle) {text : List Char}
    (fits : ∀ char ∈ text, isControl char = true → char = '\n' ∧ quoting.isBlock = true)
    {longest run : Nat}
    (few : (text.foldl
      (fun (longest, run) c =>
        if c = quoting.quote then (max longest (run + 1), run + 1) else (longest, 0))
      (longest, run)).1 ≤ quoting.allowance) :
    Spells quoting run text text ∧ longest ≤ quoting.allowance := by
  have raw : quoting.escapes = false := by rcases single with rfl | rfl <;> rfl
  induction text generalizing longest run with
  | nil => exact ⟨.nil run, few⟩
  | cons char rest inductionHypothesis =>
      rw [List.forall_mem_cons] at fits
      rw [List.foldl_cons] at few
      dsimp only at few
      by_cases isQuote : char = quoting.quote
      · subst isQuote
        rw [if_pos rfl] at few
        obtain ⟨spells, bounded⟩ := inductionHypothesis fits.2 few
        exact ⟨.quote (by omega) spells, by omega⟩
      · rw [if_neg isQuote] at few
        obtain ⟨spells, bounded⟩ := inductionHypothesis fits.2 few
        exact ⟨.form (stands_self isQuote (.inr raw) fits.1) spells, bounded⟩

end Spelling

/-! ## Quotes for a text -/

theorem quoting_cases (text : List Char) :
    (quoting text).IsDouble ∨ (quoting text).IsSingle ∧
      (∀ char ∈ text, isControl char = true → char = '\n' ∧ (quoting text).isBlock = true) ∧
      longestRun '\'' text ≤ (quoting text).allowance := by
  unfold quoting
  dsimp only
  split_ifs with plain literal block literalBlock broken
  · exact .inl (.inl rfl)
  · have ⟨⟨controls, noBreak⟩, noQuotes⟩ :
        ((∀ char ∈ text, isControl char = true → char = '\n') ∧ '\n' ∉ text) ∧
          longestRun '\'' text = 0 := by simpa using literal
    refine .inr ⟨.inl rfl, ?_, noQuotes.le⟩
    intro char membership control
    have isBreak := controls char membership control
    exact absurd (isBreak ▸ membership) noBreak
  · exact .inl (.inr rfl)
  · have ⟨controls, few⟩ :
        (∀ char ∈ text, isControl char = true → char = '\n') ∧ longestRun '\'' text ≤ 2 := by
      simpa using literalBlock
    exact .inr ⟨.inr rfl, fun char membership control =>
      ⟨controls char membership control, rfl⟩, few⟩
  · exact .inl (.inr rfl)
  · exact .inl (.inl rfl)

/-- What stands between the quotes of a text, after a line break that does not belong to it. -/
def body (text : List Char) : List Char :=
  if (quoting text).escapes then escapeBody (quoting text).isBlock 0 text else text

theorem spells_body (text : List Char) : Spells (quoting text) 0 (body text) text := by
  unfold body
  rcases quoting_cases text with double | ⟨single, fits, few⟩
  · have escapes : (quoting text).escapes = true := by
      rcases double with same | same <;> rw [same] <;> rfl
    rw [if_pos escapes]
    exact spells_escapeBody double 0 text
  · have raw : ¬ (quoting text).escapes = true := by
      rcases single with same | same <;> rw [same] <;> decide
    have isQuote : (quoting text).quote = '\'' := by
      rcases single with same | same <;> rw [same] <;> rfl
    rw [if_neg raw]
    rw [← isQuote] at few
    exact (spells_self single fits few).1

/-! ## Whole texts -/

section Whole

variable {quoting : Quoting} {text chars after : List Char}

theorem admits_of_known (known : quoting.IsDouble ∨ quoting.IsSingle) : quoting.Admits := by
  rcases known with (rfl | rfl) | (rfl | rfl)
  all_goals exact piece?_self (.inl (by decide)) fun control => absurd control (by decide)

theorem readQuoted_line (inLine : quoting.isBlock = false) (admits : quoting.Admits)
    (spells : Spells quoting 0 chars text) (apart : after.head? ≠ some quoting.quote) :
    readQuoted quoting (chars ++ (quoting.delimiter ++ after)) = some (text, after) := by
  have enough : chars.length < (chars ++ (quoting.delimiter ++ after)).length := by
    simp [Quoting.delimiter, inLine]
  unfold readQuoted
  rw [inLine, if_neg Bool.false_ne_true]
  exact readBody_of_spells admits spells (Nat.zero_le _) apart enough

theorem readQuoted_block (block : quoting.isBlock = true) (admits : quoting.Admits)
    (solid : quoting.quote ≠ '\n' ∧ quoting.quote ≠ '\r') (spells : Spells quoting 0 chars text)
    (apart : after.head? ≠ some quoting.quote) :
    readQuoted quoting ((if quoting.isBlock ∧ '\n' ∈ text then ['\n'] else []) ++
      (chars ++ (quoting.delimiter ++ after))) = some (text, after) := by
  have enough : chars.length < (chars ++ (quoting.delimiter ++ after)).length := by
    simp [Quoting.delimiter, block]
  have read := readBody_of_spells admits spells (Nat.zero_le _) apart enough
  unfold readQuoted
  by_cases broken : '\n' ∈ text
  · rw [if_pos block, if_pos ⟨block, broken⟩]
    exact read
  · rw [if_pos block, if_neg fun both => broken both.2, List.nil_append,
      spells.afterLineBreak?_eq_none broken solid]
    exact read

/-- A text on one line does not begin with two quotes of its own. -/
theorem Spells.opens (spells : Spells quoting 0 chars text) (inLine : quoting.isBlock = false)
    (apart : after.head? ≠ some quoting.quote) (more : List Char) :
    chars ++ (quoting.delimiter ++ after) ≠ quoting.quote :: quoting.quote :: more := by
  have single : quoting.delimiter = [quoting.quote] := by rw [Quoting.delimiter, inLine]; rfl
  have noQuotes : quoting.allowance = 0 := by rw [Quoting.allowance, inLine]; rfl
  obtain ⟨count, few, parts⟩ := spells.leading (Nat.zero_le _)
  obtain rfl : count = 0 := by omega
  rintro opened
  rcases parts with ⟨rfl, _⟩ | ⟨first, rest, other, rfl⟩
  · rw [single] at opened
    exact apart (congrArg List.head? (List.cons.inj opened).2)
  · exact other (List.cons.inj opened).1

end Whole

theorem readText_double {rest : List Char} (opens : ∀ more, rest ≠ '"' :: '"' :: more) :
    readText ('"' :: rest) = readQuoted .basic rest := by
  unfold readText
  split
  next more line => exact absurd (List.cons.inj line).2 (opens more)
  next line => rw [(List.cons.inj line).2]
  next line => exact absurd (List.cons.inj line).1 (by decide)
  next line => exact absurd (List.cons.inj line).1 (by decide)
  next _ other _ _ => exact absurd rfl (other rest)

theorem readText_single {rest : List Char} (opens : ∀ more, rest ≠ '\'' :: '\'' :: more) :
    readText ('\'' :: rest) = readQuoted .literal rest := by
  unfold readText
  split
  next line => exact absurd (List.cons.inj line).1 (by decide)
  next line => exact absurd (List.cons.inj line).1 (by decide)
  next more line => exact absurd (List.cons.inj line).2 (opens more)
  next line => rw [(List.cons.inj line).2]
  next other => exact absurd rfl (other rest)

/-- Every text is read back from what is written for it, if no quote follows. -/
theorem readText_quote (text : List Char) {after : List Char}
    (noDouble : after.head? ≠ some '"') (noSingle : after.head? ≠ some '\'') :
    readText (quote text ++ after) = some (text, after) := by
  have spells := spells_body text
  have parts : quote text ++ after = (quoting text).delimiter ++
      ((if (quoting text).isBlock ∧ '\n' ∈ text then ['\n'] else []) ++
        (body text ++ ((quoting text).delimiter ++ after))) := by
    simp [quote, body]
  rw [parts]
  rcases quoting_cases text with (same | same) | ⟨same | same, _⟩
  · rw [same] at spells ⊢
    exact (readText_double (spells.opens rfl noDouble)).trans
      (readQuoted_line rfl (admits_of_known (.inl (.inl rfl))) spells noDouble)
  · rw [same] at spells ⊢
    exact readQuoted_block rfl (admits_of_known (.inl (.inr rfl))) (by decide) spells noDouble
  · rw [same] at spells ⊢
    exact (readText_single (spells.opens rfl noSingle)).trans
      (readQuoted_line rfl (admits_of_known (.inr (.inl rfl))) spells noSingle)
  · rw [same] at spells ⊢
    exact readQuoted_block rfl (admits_of_known (.inr (.inr rfl))) (by decide) spells noSingle

end MavBridge.Toml
