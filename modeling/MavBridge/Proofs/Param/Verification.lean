import MavBridge.Proofs.Number.Rounding
import MavBridge.Proofs.Param.Answering

/-!
# When an echo confirms an integer

Integers are compared as 64 signed bits, so that two of them count as the same from 2 ^ 63 on, which
only the widest unsigned type has room for.  The request carries its value as a float.  A vehicle
that echoes this float confirms the value if a float denotes it, and below 2 ^ 63 no other.
-/

namespace MavBridge

open Exchange (Step)

/-! ## Comparing integers -/

namespace ParamType

/-- The least value of an integer type, and the number next to its greatest. -/
def ends : ParamType → ℤ × ℤ
  | uint8 => (0, 2 ^ 8)
  | int8 => (-2 ^ 7, 2 ^ 7)
  | uint16 => (0, 2 ^ 16)
  | int16 => (-2 ^ 15, 2 ^ 15)
  | uint32 => (0, 2 ^ 32)
  | int32 => (-2 ^ 31, 2 ^ 31)
  | uint64 => (0, 2 ^ 64)
  | int64 => (-2 ^ 63, 2 ^ 63)
  | real32 => (0, 0)
  | real64 => (0, 0)

/-- The values of an integer type; a type of reals has none. -/
def integers (type : ParamType) : Set ℤ :=
  { number | type.ends.1 ≤ number ∧ number < type.ends.2 }

instance (type : ParamType) (number : ℤ) : Decidable (number ∈ type.integers) :=
  inferInstanceAs (Decidable (type.ends.1 ≤ number ∧ number < type.ends.2))

theorem isInteger_of_mem {type : ParamType} {number : ℤ} (listed : number ∈ type.integers) :
    type.isInteger = true := by
  obtain ⟨least, below⟩ := listed
  cases type with
  | real32 => exact absurd below (Int.not_lt.mpr least)
  | real64 => exact absurd below (Int.not_lt.mpr least)
  | _ => rfl

theorem bounds_of_mem {type : ParamType} {number : ℤ} (listed : number ∈ type.integers) :
    -2 ^ 63 ≤ number ∧ number < 2 ^ 64 ∧ (type ≠ .uint64 → number < 2 ^ 63) := by
  have lowest : -2 ^ 63 ≤ type.ends.1 := by cases type <;> decide
  have highest : type.ends.2 ≤ 2 ^ 64 := by cases type <;> decide
  have narrower : type ≠ .uint64 → type.ends.2 ≤ 2 ^ 63 := by cases type <;> decide
  obtain ⟨least, below⟩ := listed
  exact ⟨lowest.trans least, below.trans_le highest, fun other => below.trans_le (narrower other)⟩

end ParamType

namespace Binary64

variable {x y : Binary64}

/-- Doubles become the same 64-bit integer exactly if they have the same integer part, or leave the
range at the same end. -/
theorem toInt64_eq_iff (finite : x.isFinite = true) (otherFinite : y.isFinite = true) :
    x.toInt64 = y.toInt64 ↔ integerPart x.value = integerPart y.value ∨
      (2 ^ 63 ≤ integerPart x.value ∧ 2 ^ 63 ≤ integerPart y.value) ∨
      (integerPart x.value ≤ -2 ^ 63 ∧ integerPart y.value ≤ -2 ^ 63) := by
  have first := x.integerPart_ne_greatest
  have second := y.integerPart_ne_greatest
  rw [toInt64_of_isFinite finite, toInt64_of_isFinite otherFinite, saturated, saturated]
  omega

end Binary64

namespace ParamType

theorem verify_eq_true_iff {type : ParamType} (integer : type.isInteger = true)
    (requested actual : Binary64) :
    type.verify requested actual = true ↔ requested.toInt64 = actual.toInt64 := by
  rw [verify, if_pos integer, decide_eq_true_iff]

/-- An integer type confirms an echo whose integer part is the requested one, and takes any two that
are not below 2 ^ 63 to be the same; so all types but one compare exactly. -/
theorem verify_iff_integerPart {type : ParamType} {requested actual : Binary64}
    (requestedFinite : requested.isFinite = true) (actualFinite : actual.isFinite = true)
    (requestedListed : integerPart requested.value ∈ type.integers)
    (actualListed : integerPart actual.value ∈ type.integers) :
    (type.verify requested actual = true ↔
        integerPart requested.value = integerPart actual.value ∨
          (2 ^ 63 ≤ integerPart requested.value ∧ 2 ^ 63 ≤ integerPart actual.value)) ∧
      (type ≠ .uint64 →
        (type.verify requested actual = true ↔
          integerPart requested.value = integerPart actual.value)) := by
  obtain ⟨requestedLeast, -, requestedBelow⟩ := bounds_of_mem requestedListed
  obtain ⟨actualLeast, -, actualBelow⟩ := bounds_of_mem actualListed
  rw [verify_eq_true_iff (isInteger_of_mem requestedListed),
    Binary64.toInt64_eq_iff requestedFinite actualFinite]
  refine ⟨by omega, fun narrower => ?_⟩
  have := requestedBelow narrower
  omega

theorem verify_iff_integerPart_ends :
    uint8.verify ⟨0x406FFFFFFFFFFFFF⟩ ⟨0x406FE00000000000⟩ = true ∧
      uint64.verify ⟨0x43E0000000000000⟩ ⟨0x43EFFFFFFFFFFFFF⟩ = true := by
  constructor
  · refine ((verify_iff_integerPart (by decide) (by decide) ?_ ?_).2 (by decide)).mpr ?_
    all_goals
      simp only [← Binary64.truncate_eq_integerPart]
      decide +kernel
  · refine (verify_iff_integerPart (by decide) (by decide) ?_ ?_).1.mpr (.inr ?_)
    all_goals
      simp only [← Binary64.truncate_eq_integerPart]
      decide +kernel

/-- All doubles from 2 ^ 63 on are the same as 64-bit integers. -/
theorem verify_unequal :
    ¬ ∀ (type : ParamType) (requested actual : Binary64), requested.isFinite = true →
      actual.isFinite = true → integerPart requested.value ∈ type.integers →
      integerPart actual.value ∈ type.integers →
      (type.verify requested actual = true ↔
        integerPart requested.value = integerPart actual.value) := by
  intro exact
  have first : integerPart (Binary64.value ⟨0x43E0000000000000⟩) = 2 ^ 63 := by
    rw [← Binary64.truncate_eq_integerPart]
    decide +kernel
  have second : integerPart (Binary64.value ⟨0x43E8000000000000⟩) = 2 ^ 63 + 2 ^ 62 := by
    rw [← Binary64.truncate_eq_integerPart]
    decide +kernel
  have listed : 2 ^ 63 ∈ uint64.integers ∧ 2 ^ 63 + 2 ^ 62 ∈ uint64.integers := by decide
  have confirmed : uint64.verify ⟨0x43E0000000000000⟩ ⟨0x43E8000000000000⟩ = true := by
    decide +kernel
  have same := (exact .uint64 ⟨0x43E0000000000000⟩ ⟨0x43E8000000000000⟩ (by decide) (by decide)
    (first ▸ listed.1) (second ▸ listed.2)).mp confirmed
  rw [first, second] at same
  cases same

end ParamType

/-! ## Whole writes -/

namespace Message

/-- The value to set that a frame carries. -/
def valueIn? (frame : Bytes) : Option Binary32 :=
  (read? frame).bind fun carried => carried.2.paramRequest?.bind (·.2)

theorem paramRequest?_of_setsTo {message : Message} {target : Identity} {nameField : Bytes}
    {value : Binary32} {type : ParamType} (sets : message.SetsTo target nameField value type) :
    message.paramRequest? = some (message.payload.text 6 NameField.width, some value) := by
  rw [paramRequest?, sets.kind, if_neg (by decide), if_pos rfl, sets.value]

end Message

/-- The frame of a write carries the value as the nearest float. -/
theorem ParamRequest.valueIn?_of_frame {builder after : FrameBuilder} {target : Identity}
    {name : String} {value : Binary64} {type : ParamType} {frame : Bytes}
    (accepted : (ParamRequest.write name value type).frame builder target = (.ok frame, after)) :
    Message.valueIn? frame = some value.narrow := by
  obtain ⟨field, encoded, width⟩ := ParamRequest.exists_field_of_frame accepted
  obtain ⟨header, read⟩ := FrameBuilder.exists_read?_of_buildNamed encoded
    (Message.normal_paramSet target width value type) accepted
  rw [Message.valueIn?, read, Option.bind_some,
    Message.paramRequest?_of_setsTo (Message.setsTo_paramSet target width value type)]
  rfl

/-- The float next to an integer is the same 64-bit integer exactly if it denotes this integer,
unless both are beyond the range. -/
theorem ParamType.verify_widen_narrow_iff {type : ParamType} {value : Binary64}
    (finite : value.isFinite = true) {number : ℤ} (denotes : value.value = number)
    (listed : number ∈ type.integers) :
    (IsFloat number → type.verify value value.narrow.widen = true) ∧
      (number < 2 ^ 63 → (type.verify value value.narrow.widen = true ↔ IsFloat number)) := by
  obtain ⟨least, below, -⟩ := bounds_of_mem listed
  have fits : value.unit ≤ 103 := Binary64.unit_le_of_intCast denotes (by omega) (by omega)
  obtain ⟨widens, widened⟩ := Binary32.value_widen (Binary64.value_narrow finite fits).1
  rw [verify_eq_true_iff (isInteger_of_mem listed)]
  constructor
  · intro isFloat
    have kept := (Binary64.isFloat_iff finite fits).mp (denotes ▸ isFloat)
    rw [Binary64.toInt64_of_isFinite finite, Binary64.toInt64_of_isFinite widens, widened, kept]
  · exact Binary64.toInt64_widen_narrow_iff finite denotes least

namespace Surroundings

/-- Whatever steps calls and echoes have taken before.  A write of an integer of the parameter's
type is echoed with the float that its frame carries: if its name reads back, the write returns with
the echoed value, which is verified if a float denotes the integer, and below 2 ^ 63 exactly then.
Under any other name no echo comes. -/
theorem faithful_echo_verified {σ : Type} {around : Surroundings σ} {ready : σ → Prop}
    (keeps : around.Keeps ready) {steps : List Step} {s : σ} (isReady : ready s)
    (same : around.exchange s = Exchange.empty.run steps)
    {target : Identity} {name : String} {value : Binary64} {type : ParamType} {frame : Bytes}
    {echo : Message} {sending waiting : List Step}
    (echoed : around.Echoed target (.write name value type) s frame echo sending waiting)
    (faithful : Message.valueIn? frame = some echo.report.value)
    (finite : value.isFinite = true) {number : ℤ} (denotes : value.value = number)
    (listed : number ∈ type.integers) :
    (NameField.ReadsBack name →
      ∃ verified,
        (around.write target name value type s).1 =
          .ok ⟨true, verified, value, echo.report.value.widen⟩ ∧
        (IsFloat number → verified = true) ∧
        (number < 2 ^ 63 → (verified = true ↔ IsFloat number))) ∧
      (¬ NameField.ReadsBack name →
        (around.write target name value type s).1 = .error (.paramTimeout name)) := by
  have carried : echo.report.value = value.narrow := by
    have sent := ParamRequest.valueIn?_of_frame (Prod.ext echoed.accepted rfl)
    exact Option.some.inj (faithful.symm.trans sent)
  have answered := echoed.perform_eq keeps isReady (same ▸ Exchange.coherent_run steps)
  have written : (around.write target name value type s).1 =
      (around.perform target (.write name value type) s).1.map (.ofEcho value type) := rfl
  have verdict := ParamType.verify_widen_narrow_iff finite denotes listed
  rw [← carried] at verdict
  rw [written, answered]
  constructor
  · intro readsBack
    refine ⟨type.verify value echo.report.value.widen, ?_, verdict⟩
    exact congrArg (Except.map _) (if_pos readsBack)
  · intro garbled
    exact congrArg (Except.map _) (if_neg garbled)

end Surroundings

namespace Exchange

def setFrame (name : String) (value : Binary64) (type : ParamType) : Bytes :=
  ((ParamRequest.write name value type).frame {} ⟨1, 1⟩).1.toOption.getD []

/-- What a vehicle says of its sole parameter once it is set. -/
def setReport (name : String) (value : Binary64) (type : ParamType) : Message :=
  ⟨.paramValue, Bytes.ofNat 4 value.narrow.bits.toNat ++ [1, 0, 0, 0] ++
    (NameField.encode? name).getD [] ++ [type.code]⟩

def setReportFrame (name : String) (value : Binary64) (type : ParamType) : Bytes :=
  Packet.frame ⟨22, 0, 1, 1⟩ (Packet.sentPayload (setReport name value type).payload)

theorem echoed_setReport {name : String} {value : Binary64} {type : ParamType}
    (accepted : ((ParamRequest.write name value type).frame {} ⟨1, 1⟩).1 =
      .ok (setFrame name value type))
    (named : (setReport name value type).nameField? =
      Message.nameFieldIn? (setFrame name value type))
    (answered : (Decoder.empty.feedFrame (setReportFrame name value type)).1 =
      some ⟨1, 1, 0, (setReport name value type).body⟩) :
    (reporting (setReport name value type).report).Echoed ⟨1, 1⟩ (.write name value type) empty
      (setFrame name value type) (setReport name value type) []
      [.resolve (setReport name value type).report] := by
  have body := Message.body_of_paramValue (rfl : (setReport name value type).kind = .paramValue)
  exact echoed_reporting accepted ⟨rfl, named⟩ ⟨_, _, _, answered, body⟩

/-- An integer of 25 bits whose last one is zero is a float. -/
theorem faithful_echo_verified_even :
    ((reporting (setReport "RATE" ⟨0x4170000020000000⟩ .int32).report).write ⟨1, 1⟩ "RATE"
        ⟨0x4170000020000000⟩ .int32 empty).1 =
      .ok ⟨true, true, ⟨0x4170000020000000⟩, ⟨0x4170000020000000⟩⟩ := by
  have denotes : Binary64.value ⟨0x4170000020000000⟩ = (16777218 : ℤ) := by decide +kernel
  have isFloat : IsFloat (16777218 : ℤ) := ⟨⟨0x4B800001⟩, by decide, by decide +kernel⟩
  have echoed := @echoed_setReport "RATE" ⟨0x4170000020000000⟩ .int32 rfl (by decide +kernel)
    (by decide +kernel)
  obtain ⟨verified, written, ofFloat, -⟩ :=
    (@Surroundings.faithful_echo_verified Exchange (reporting _) (fun _ => True)
      (keeps_reporting _) [] empty trivial rfl _ _ _ _ _ _ _ _ echoed (by decide +kernel)
        (by decide) 16777218 denotes (by decide)).1
      (by decide +kernel)
  rw [ofFloat isFloat] at written
  exact written.trans (by decide +kernel)

/-- No float is 16777217, and the vehicle has the float next to it. -/
theorem faithful_echo_unverified :
    let value : Binary64 := ⟨0x4170000010000000⟩
    let echo := setReport "RATE" value .int32
    let frame := setFrame "RATE" value .int32
    value.isFinite = true ∧ value.value = (16777217 : ℤ) ∧ 16777217 ∈ ParamType.int32.integers ∧
      (reporting echo.report).Echoed ⟨1, 1⟩ (.write "RATE" value .int32) empty frame echo []
        [.resolve echo.report] ∧
      Message.valueIn? frame = some echo.report.value ∧
      ((reporting echo.report).write ⟨1, 1⟩ "RATE" value .int32 empty).1 =
        .ok ⟨true, false, value, ⟨0x4170000000000000⟩⟩ := by
  refine ⟨by decide, by decide +kernel, by decide, ?_, by decide +kernel, by decide +kernel⟩
  exact echoed_setReport rfl (by decide +kernel) (by decide +kernel)

end Exchange

end MavBridge
