import MavBridge.Proofs.Param.Coherence
import MavBridge.Proofs.Sending
import MavBridge.Proofs.Text.NameField

/-!
# Requests and their echoes

A vehicle answers a request with a report that carries the very bytes of its name field.  The report
comes under the text of the field, which is the name of the request exactly if this reads back.
Whatever a decoder reports, it is under a name that reads back.
-/

namespace MavBridge

namespace Message

/-- The bytes that name the parameter of a request or of a report. -/
def nameField? (message : Message) : Option Bytes :=
  if message.kind = .paramRequestRead then some (message.payload.slice 4 NameField.width)
  else if message.kind = .paramSet then some (message.payload.slice 6 NameField.width)
  else if message.kind = .paramValue then some (message.payload.slice 8 NameField.width)
  else none

/-- The bytes that name the parameter of what a frame carries. -/
def nameFieldIn? (frame : Bytes) : Option Bytes :=
  (read? frame).bind fun carried => carried.2.nameField?

/-- A frame that carries a name in its field. -/
def Addresses (frame : Bytes) (name : String) : Prop :=
  ∃ field, NameField.encode? name = some field ∧ nameFieldIn? frame = some field

/-- A report with the very name field of the request that a frame carries. -/
structure Echoes (message : Message) (request : Bytes) : Prop where
  kind : message.kind = .paramValue
  field : message.nameField? = nameFieldIn? request

/-- The report that a message of its kind is. -/
def report (message : Message) : ParamReport :=
  ⟨message.payload.text 8 NameField.width, message.payload.f32 0, message.payload.u8 24,
    message.payload.u16 4, message.payload.u16 6⟩

theorem body_of_paramValue {message : Message} (kind : message.kind = .paramValue) :
    message.body = .paramValue message.report := by
  rw [body, kind, if_neg (by decide), if_neg (by decide), if_pos rfl]
  rfl

theorem report_of_body {message : Message} {said : ParamReport}
    (reported : message.body = .paramValue said) : said = message.report := by
  unfold body at reported
  split_ifs at reported
  cases reported
  rfl

/-- What any message reports is under a name that reads back. -/
theorem readsBack_of_body {message : Message} {said : ParamReport}
    (reported : message.body = .paramValue said) : NameField.ReadsBack said.name := by
  rw [report_of_body reported]
  exact NameField.readsBack_decode _

end Message

/-- The frame that is built for a name carries the message with its field. -/
theorem FrameBuilder.exists_read?_of_buildNamed {builder after : FrameBuilder} {name : String}
    {field frame : Bytes} {message : Bytes → Message}
    (encoded : NameField.encode? name = some field)
    (normal : (message field).Normal)
    (built : builder.buildNamed name message = (.ok frame, after)) :
    ∃ header, Message.read? frame = some (header, message field) := by
  rw [buildNamed_of_encode? builder encoded] at built
  obtain rfl := Except.ok.inj (congrArg Prod.fst built)
  exact ⟨_, (carries_build UInt8.ofNat_toNat.symm normal).read⟩

/-- The name of a request that gets a frame fits into its field. -/
theorem ParamRequest.exists_field_of_frame {request : ParamRequest} {builder after : FrameBuilder}
    {target : Identity} {frame : Bytes}
    (accepted : request.frame builder target = (.ok frame, after)) :
    ∃ field, NameField.encode? request.name = some field ∧ field.length = NameField.width := by
  have valid := (request.exists_frame_iff builder target).mp ⟨frame, after, accepted⟩
  obtain ⟨field, encoded⟩ := Option.isSome_iff_exists.mp valid
  obtain ⟨-, -, rfl⟩ := NameField.encode?_eq_some_iff.mp encoded
  exact ⟨_, encoded, Bytes.length_resize _ _⟩

/-- The frame of a request carries its name. -/
theorem ParamRequest.addresses_of_frame {request : ParamRequest} {builder after : FrameBuilder}
    {target : Identity} {frame : Bytes}
    (accepted : request.frame builder target = (.ok frame, after)) :
    Message.Addresses frame request.name := by
  obtain ⟨field, encoded, width⟩ := ParamRequest.exists_field_of_frame accepted
  refine ⟨field, encoded, ?_⟩
  cases request with
  | read name =>
      obtain ⟨header, read⟩ := FrameBuilder.exists_read?_of_buildNamed encoded
        (Message.normal_paramRequestRead target width) accepted
      rw [Message.nameFieldIn?, read]
      exact congrArg some (Message.asksFor_paramRequestRead target width).name
  | write name value type =>
      obtain ⟨header, read⟩ := FrameBuilder.exists_read?_of_buildNamed encoded
        (Message.normal_paramSet target width value type) accepted
      rw [Message.nameFieldIn?, read]
      exact congrArg some (Message.setsTo_paramSet target width value type).name

/-- An echo comes under the name of its request exactly if this reads back. -/
theorem Message.Echoes.name_eq_iff {message : Message} {request : Bytes} {name : String}
    (echoes : message.Echoes request) (addresses : Addresses request name) :
    message.report.name = name ↔ NameField.ReadsBack name := by
  obtain ⟨field, encoded, carried⟩ := addresses
  have ours : message.nameField? = some (message.payload.slice 8 NameField.width) := by
    rw [nameField?, echoes.kind, if_neg (by decide), if_neg (by decide), if_pos rfl]
  have same : message.payload.slice 8 NameField.width = field := by
    have both := echoes.field
    rw [ours, carried] at both
    exact Option.some.inj both
  rw [← NameField.decode_eq_self_iff encoded, ← same]
  rfl

namespace Decoder

/-- A decoder reads a report out of some frame. -/
def Reports (report : ParamReport) : Prop :=
  ∃ decoder frame decoded, (feedFrame decoder frame).1 = some decoded ∧
    decoded.body = .paramValue report

/-- A report of a decoder is that of a message. -/
theorem exists_message_of_reports {report : ParamReport} (reports : Reports report) :
    ∃ message : Message, message.body = .paramValue report := by
  obtain ⟨decoder, frame, decoded, answered, body⟩ := reports
  have judged : (judge frame).message? = some decoded := answered
  unfold judge judgeFrame at judged
  split at judged
  next => cases judged
  next whole extracted =>
    split at judged
    next => cases judged
    next header headed =>
      split at judged
      next unlisted =>
        cases judged
        cases body
      next listed =>
        split at judged
        next header message read =>
          cases judged
          exact ⟨message, body⟩
        next => cases judged

theorem readsBack_of_reports {report : ParamReport} (reports : Reports report) :
    NameField.ReadsBack report.name := by
  obtain ⟨message, body⟩ := exists_message_of_reports reports
  exact Message.readsBack_of_body body

end Decoder

end MavBridge
