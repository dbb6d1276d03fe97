import MavBridge.Proofs.Json.Writing
import MavBridge.Proofs.Toml.Text
import MavBridge.Toml.Document

/-!
# Scalars

A scalar is read back from the text in which it is written, if a line break follows: a whole number
of 64 bits with a sign is neither a date nor a time, and has no leading zeros.
-/

namespace MavBridge.Toml

/-! ## Digits -/

theorem digitValue?_of_isDigit {char : Char} (digit : char.isDigit = true) :
    digitValue? 10 char = some (char.toNat - '0'.toNat) := by
  have bounds : '0' ≤ char ∧ char ≤ '9' := by
    simpa [Char.isDigit, Char.le_def] using digit
  have greatest : char.toNat ≤ 57 := bounds.2
  have below : char.toNat - '0'.toNat < 10 := by
    have : '0'.toNat = 48 := rfl
    omega
  rw [digitValue?, Hex.value?, if_pos bounds]
  exact Option.filter_some_pos (decide_eq_true below)

/-- What the digits of a decimal number stand for. -/
def digitValues (digits : List Char) : List Nat := digits.map fun char => char.toNat - '0'.toNat

theorem readDigits_line {digits : List Char} (nonempty : digits ≠ [])
    (decimal : ∀ char ∈ digits, char.isDigit = true) (rest : List Char) :
    readDigits 10 (digits ++ '\n' :: rest) =
      some (digitValues digits, '\n' :: rest) := by
  induction digits with
  | nil => exact absurd rfl nonempty
  | cons first others inductionHypothesis =>
      rw [List.forall_mem_cons] at decimal
      rw [List.cons_append, readDigits, digitValue?_of_isDigit decimal.1]
      cases others with
      | nil => rfl
      | cons second others =>
          have read := inductionHypothesis (List.cons_ne_nil _ _) decimal.2
          have digit : isDigit 10 second = true := by
            rw [isDigit, digitValue?_of_isDigit (decimal.2 second List.mem_cons_self)]
            rfl
          have noUnderscore : second ≠ '_' := by
            rintro rfl
            exact absurd digit (by decide)
          rw [List.cons_append] at read ⊢
          dsimp only
          split
          next line => exact absurd (List.cons.inj line).1 noUnderscore
          next line =>
            cases line
            rw [if_pos digit, read]
            rfl
          next line => cases line

theorem ofDigits_toDigits (number : Nat) :
    ofDigits 10 (digitValues (Nat.toDigits 10 number)) = number := by
  rw [ofDigits, digitValues, List.foldl_map]
  exact Nat.ofDigitChars_toDigits (by decide) (by decide)

section Decimals

variable (number : Nat) (rest : List Char)

theorem isDigit_toDigits {char : Char} (membership : char ∈ Nat.toDigits 10 number) :
    char.isDigit = true := Nat.isDigit_of_mem_toDigits (by decide) (by decide) membership

theorem readWhole_toDigits :
    readWhole (Nat.toDigits 10 number ++ '\n' :: rest) =
      some (digitValues (Nat.toDigits 10 number), '\n' :: rest) := by
  by_cases zero : number = 0
  · subst zero
    rfl
  · have leading := Json.head?_toDigits (Nat.pos_of_ne_zero zero)
    have read := readDigits_line Nat.toDigits_ne_nil (fun _ => isDigit_toDigits number) rest
    unfold readWhole
    split
    next after line =>
      rcases written : Nat.toDigits 10 number with _ | ⟨first, others⟩
      · exact absurd written Nat.toDigits_ne_nil
      · rw [written] at leading line
        exact absurd (congrArg some (List.cons.inj line).1) leading
    next => exact read

theorem readDecimal_toDigits (negative : Bool) {value : Int}
    (signed : (if negative then -(number : Int) else number) = value)
    (fits : (integer? value).isSome = true) :
    readDecimal negative (Nat.toDigits 10 number ++ '\n' :: rest) =
      some (.int value, '\n' :: rest) := by
  have whole : integer? value = some (.int value) := by
    unfold integer? at fits ⊢
    split at fits
    next bounds => rw [if_pos bounds]
    next => cases fits
  rw [readDecimal, readWhole_toDigits]
  simp [isReal, ofDigits_toDigits, signed, whole]

end Decimals

/-! ## What is no date -/

theorem isDigit_lineBreak : isDigit 10 '\n' = false := by decide

/-- The characters before a mark are not all digits, if a line of digits ends before the mark. -/
theorem not_marked {digits : List Char} (decimal : ∀ char ∈ digits, char.isDigit = true)
    {mark : Char} (noDigit : mark.isDigit = false) (noBreak : mark ≠ '\n') (count : Nat)
    (rest : List Char) :
    (((digits ++ '\n' :: rest).take count).all (isDigit 10) &&
      (digits ++ '\n' :: rest)[count]? == some mark) = false := by
  induction digits generalizing count with
  | nil =>
      cases count with
      | zero => simpa using noBreak.symm
      | succ count => simp [isDigit_lineBreak]
  | cons first others inductionHypothesis =>
      rw [List.forall_mem_cons] at decimal
      cases count with
      | zero =>
          have other : first ≠ mark := by
            rintro rfl
            rw [decimal.1] at noDigit
            cases noDigit
          simpa using other
      | succ count =>
          rw [List.cons_append, List.take_succ_cons, List.getElem?_cons_succ, List.all_cons,
            Bool.and_assoc, inductionHypothesis decimal.2, Bool.and_false]

/-- A line of digits starts with a digit, after which comes another one or the end. -/
theorem starts_of_digits {digits : List Char} (nonempty : digits ≠ [])
    (decimal : ∀ char ∈ digits, char.isDigit = true) (rest : List Char) :
    (∀ first tail, digits ++ '\n' :: rest = first :: tail → first.isDigit = true) ∧
      ∀ first second tail, digits ++ '\n' :: rest = first :: second :: tail →
        second.isDigit = true ∨ second = '\n' := by
  rcases digits with _ | ⟨digit, others⟩
  · exact absurd rfl nonempty
  · rw [List.forall_mem_cons] at decimal
    refine ⟨?_, ?_⟩
    · rintro first tail line
      exact (List.cons.inj line).1 ▸ decimal.1
    · rintro first second tail line
      have later := (List.cons.inj line).2
      rcases others with _ | ⟨next, others⟩
      · exact .inr (List.cons.inj later).1.symm
      · exact .inl ((List.cons.inj later).1 ▸ decimal.2 next List.mem_cons_self)

theorem readSigned_digits {digits : List Char} (nonempty : digits ≠ [])
    (decimal : ∀ char ∈ digits, char.isDigit = true) (negative : Bool) (rest : List Char) :
    readSigned negative (digits ++ '\n' :: rest) =
      readDecimal negative (digits ++ '\n' :: rest) := by
  have starts := (starts_of_digits nonempty decimal rest).1
  unfold readSigned
  split
  next line => exact absurd (starts _ _ line) (by decide)
  next line => exact absurd (starts _ _ line) (by decide)
  next => rfl

theorem readScalar_digits {digits : List Char} (nonempty : digits ≠ [])
    (decimal : ∀ char ∈ digits, char.isDigit = true) (rest : List Char) :
    readScalar (digits ++ '\n' :: rest) = readDecimal false (digits ++ '\n' :: rest) := by
  have noDate : startsDate (digits ++ '\n' :: rest) = false :=
    not_marked decimal (by decide) (by decide) 4 rest
  have noTime : startsTime (digits ++ '\n' :: rest) = false :=
    not_marked decimal (by decide) (by decide) 2 rest
  obtain ⟨starts, goesOn⟩ := starts_of_digits nonempty decimal rest
  unfold readScalar
  split
  next line => exact absurd (starts _ _ line) (by decide)
  next line => exact absurd (starts _ _ line) (by decide)
  next line => exact absurd (starts _ _ line) (by decide)
  next line => exact absurd (starts _ _ line) (by decide)
  next line => exact absurd (starts _ _ line) (by decide)
  next line => exact absurd (starts _ _ line) (by decide)
  next line => exact absurd (goesOn _ _ _ line) (by decide)
  next line => exact absurd (goesOn _ _ _ line) (by decide)
  next line => exact absurd (goesOn _ _ _ line) (by decide)
  next =>
    rw [noDate, noTime, if_neg Bool.false_ne_true, if_neg Bool.false_ne_true]
    exact readSigned_digits nonempty decimal false rest

/-! ## Scalars -/

theorem quote_starts (text : List Char) :
    ∃ rest, quote text = '"' :: rest ∨ quote text = '\'' :: rest := by
  have parts : quote text = (quoting text).delimiter ++
      ((if (quoting text).isBlock ∧ '\n' ∈ text then ['\n'] else []) ++
        (body text ++ (quoting text).delimiter)) := by
    simp [quote, body]
  rw [parts]
  rcases quoting_cases text with (same | same) | ⟨same | same, _⟩
  all_goals rw [same]
  · exact ⟨_, .inl rfl⟩
  · exact ⟨_, .inl rfl⟩
  · exact ⟨_, .inr rfl⟩
  · exact ⟨_, .inr rfl⟩

/-- Every scalar is read back from its text. -/
theorem readScalar_scalarText {value : Toml} {text : List Char}
    (written : scalarText? value = some text) (rest : List Char) :
    readScalar (text ++ '\n' :: rest) = some (value, '\n' :: rest) := by
  cases value with
  | str value =>
      cases written
      have noDouble : ('\n' :: rest).head? ≠ some '"' := by simp
      have noSingle : ('\n' :: rest).head? ≠ some '\'' := by simp
      have read := readText_quote value.toList noDouble noSingle
      obtain ⟨tail, starts | starts⟩ := quote_starts value.toList
      all_goals
        rw [starts, List.cons_append] at read ⊢
        rw [readScalar, read, Option.map_some]
        exact congrArg (fun text => some (str text, _)) String.ofList_toList
  | int value =>
      obtain ⟨whole, fits, parts⟩ := Option.map_eq_some_iff.mp written
      have isWhole : (integer? value).isSome = true := by rw [fits]; rfl
      have digits : Nat.toDigits 10 value.natAbs ≠ [] := Nat.toDigits_ne_nil
      have decimal : ∀ char ∈ Nat.toDigits 10 value.natAbs, char.isDigit = true :=
        fun _ => isDigit_toDigits value.natAbs
      subst parts
      by_cases negative : value < 0
      · have signed : (if true then -(value.natAbs : Int) else value.natAbs) = value := by
          simp only [if_true]
          omega
        rw [if_pos negative, List.append_assoc]
        exact (readSigned_digits digits decimal true rest).trans
          (readDecimal_toDigits value.natAbs rest true signed isWhole)
      · have unsigned : (if false then -(value.natAbs : Int) else value.natAbs) = value := by
          simp only [Bool.false_eq_true, if_false]
          omega
        rw [if_neg negative, List.nil_append]
        exact (readScalar_digits digits decimal rest).trans
          (readDecimal_toDigits value.natAbs rest false unsigned isWhole)
  | bool value => cases value <;> cases written <;> rfl
  | _ => cases written

/-- No scalar starts like an array or a table between braces. -/
theorem readValue_scalarText {value : Toml} {text : List Char}
    (written : scalarText? value = some text) (depth : Nat) (rest : List Char) :
    readValue depth (text ++ '\n' :: rest) = some (value, '\n' :: rest) := by
  have read := readScalar_scalarText written rest
  unfold readValue
  split
  next opens =>
    rw [opens] at read
    exact absurd (read : none = some _) (Option.some_ne_none _).symm
  next opens =>
    rw [opens] at read
    exact absurd (read : none = some _) (Option.some_ne_none _).symm
  next => exact read

/-- No scalar starts with a space. -/
theorem dropWhile_scalarText {value : Toml} {text : List Char}
    (written : scalarText? value = some text) (rest : List Char) :
    (text ++ '\n' :: rest).dropWhile isSpace = text ++ '\n' :: rest := by
  have read := readScalar_scalarText written rest
  rcases chars : text ++ '\n' :: rest with _ | ⟨first, others⟩
  · rfl
  · rw [chars] at read
    rw [List.dropWhile_cons_of_neg]
    intro space
    simp only [isSpace, Bool.or_eq_true, beq_iff_eq] at space
    rcases space with rfl | rfl
    · exact absurd (read : none = some _) (Option.some_ne_none _).symm
    · exact absurd (read : none = some _) (Option.some_ne_none _).symm

end MavBridge.Toml
