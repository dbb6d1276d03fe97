import MavBridge.Router.Basic

/-!
Restoring the outputs that were kept.

Entries of an unsupported kind, with an identifier that is taken, or without a channel are passed
over; nothing is written. The notes say what became of each entry, in order.
-/

namespace MavBridge

/-- What became of an entry while the list was restored. -/
inductive LoadNote where
  | unsupported (id : String)
  | duplicate (id : String)
  | unbuildable (id : String) (fault : Fault)
  | registered (config : OutputConfig)
  | started (config : OutputConfig) (message : String)
  | notStarted (config : OutputConfig) (fault : Fault)
  deriving Repr

namespace Router

variable {ω χ : Type} (outlets : Outlets ω χ)

/-- Register one entry and start it if it starts itself. -/
def restore (router : Router χ) (config : OutputConfig) (world : ω) : LoadNote × Router χ × ω :=
  if config.kind = .unsupported then (.unsupported config.id, router, world)
  else if (router.find? config.id).isSome then (.duplicate config.id, router, world)
  else
    match outlets.create config world with
    | (.error fault, world) => (.unbuildable config.id fault, router, world)
    | (.ok channel, world) =>
        let router := router.register config channel
        if config.startsItself then
          match router.startChannel outlets config.id channel world with
          | (.ok message, router, world) => (.started config message, router, world)
          | (.error fault, router, world) => (.notStarted config fault, router, world)
        else (.registered config, router, world)

/-- Register the entries of a list in order. -/
def restoreAll : List OutputConfig → Router χ → ω → List LoadNote × Router χ × ω
  | [], router, world => ([], router, world)
  | config :: rest, router, world =>
      let (note, router, world) := router.restore outlets config world
      let (notes, router, world) := restoreAll rest router world
      (note :: notes, router, world)

/-- A router with the outputs that were kept; without any when they cannot be read. -/
def load (world : ω) : Except Fault (List LoadNote) × Router χ × ω :=
  match outlets.load world with
  | .error fault => (.error fault, empty, world)
  | .ok configs =>
      let (notes, router, world) := restoreAll outlets configs empty world
      (.ok notes, router, world)

end Router

end MavBridge
