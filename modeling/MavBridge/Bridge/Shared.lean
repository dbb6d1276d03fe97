import MavBridge.Bridge.Basic

/-!
A router that several hold on to.

Its owner holds it, and so does every bridge over it; it works as long as one of them does. Changes
are told from the first bridge on, also after that bridge is gone.
-/

namespace MavBridge

structure SharedRouter (ω χ : Type) where
  router : Router χ := {}
  world : ω
  hub : EventHub := {}
  /-- Its owner still holds it. -/
  isOwned : Bool := true
  /-- A bridge holds it. -/
  hasBridge : Bool := false
  /-- Changes are told. -/
  tells : Bool := false
  deriving Repr

namespace SharedRouter

variable {ω χ : Type} (outlets : Outlets ω χ)

def isHeld (shared : SharedRouter ω χ) : Bool := shared.isOwned || shared.hasBridge

/-- Put a bridge over the router, in place of one that was there. -/
def attachBridge (shared : SharedRouter ω χ) : SharedRouter ω χ :=
  { shared with hasBridge := true, tells := true }

/-- The outlets that tell of changes, once they are told. -/
def tellingOutlets (shared : SharedRouter ω χ) : Outlets (ω × EventHub) χ :=
  if shared.tells then outlets.announcing else outlets.beside fun _ hub => hub

/-- An output says that something has changed. -/
def changed (shared : SharedRouter ω χ) : SharedRouter ω χ :=
  if shared.isHeld then
    let (world, hub) :=
      shared.router.announce (shared.tellingOutlets outlets) (shared.world, shared.hub)
    { shared with world, hub }
  else shared

def add (shared : SharedRouter ω χ) (config : OutputConfig) :
    Except Fault String × SharedRouter ω χ :=
  let (outcome, router, world, hub) :=
    shared.router.add (shared.tellingOutlets outlets) config (shared.world, shared.hub)
  (outcome, { shared with router, world, hub })

end SharedRouter

end MavBridge
