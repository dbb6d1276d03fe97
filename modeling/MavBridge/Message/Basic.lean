import MavBridge.Dialect.Catalogue

/-!
Messages of the dialect in normal form: the whole payload, without cut-off zeros, surplus bytes or
unknown flags, and with a listed value in every field of an enumeration.
-/

namespace MavBridge

/-- `bytes` without the unknown flags of one field. -/
def FlagField.mask (field : FlagField) (bytes : Bytes) : Bytes :=
  bytes.take field.offset
    ++ Bytes.ofNat field.width (bytes.field field.offset field.width &&& field.known)
    ++ bytes.drop (field.offset + field.width)

namespace MessageKind

/-- The whole payload that `payload` stands for. -/
def normalize (kind : MessageKind) (payload : Bytes) : Bytes :=
  kind.flags.foldl (fun bytes field => field.mask bytes) (payload.resize kind.length)

/-- Every field of an enumeration holds a listed value. -/
def admits (kind : MessageKind) (payload : Bytes) : Bool :=
  kind.enums.all fun field => field.values.lists (payload.field field.offset field.width)

end MessageKind

/-- A message: its kind and its whole payload. -/
structure Message where
  kind : MessageKind
  payload : Bytes
  deriving DecidableEq, Repr

namespace Message

/-- The message that a payload as sent stands for. -/
def ofPayload? (id : Nat) (payload : Bytes) : Option Message := do
  let kind ← MessageKind.ofId? id
  let normal := kind.normalize payload
  if kind.admits normal then some ⟨kind, normal⟩ else none

/-- The form in which a message is held. -/
structure Normal (message : Message) : Prop where
  listed : message.kind ∈ dialect
  normalized : message.kind.normalize message.payload = message.payload
  admitted : message.kind.admits message.payload = true

end Message

end MavBridge
