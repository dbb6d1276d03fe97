import MavBridge.Fault
import MavBridge.Network.Address

/-!
The sockets of a machine: how the text of an address is understood, which endpoints are taken, and
whether anything can be reached.
-/

namespace MavBridge

/-- The endpoints that are taken, and what is known of others. -/
structure Network where
  taken : List Endpoint := []
  /-- Ports that the system has given out. -/
  issued : Nat := 0
  /-- Whether the endpoints of this machine can be reached from it. -/
  isReachable : Bool := false
  hosts : List (String × IpAddress) := [("localhost", .v4 [127, 0, 0, 1])]
  deriving Repr, Inhabited

namespace Network

/-- A port in decimal digits, perhaps with a sign in front. -/
def port? (digits : List Char) : Option Nat :=
  let digits := match digits with
    | '+' :: digits => digits
    | digits => digits
  if digits.isEmpty ∨ digits.any fun char => !char.isDigit then none
  else (some (IpAddress.ofDigits 10 (digits.map fun char => char.toNat - '0'.toNat))).filter
    (· < 65536)

/-- The text before the last colon, and after it. -/
def splitPort (address : List Char) : Option (List Char × List Char) :=
  let after := address.reverse.takeWhile (· ≠ ':')
  if after.length = address.length then none
  else some (address.take (address.length - after.length - 1), after.reverse)

/-- The address of a host by its name or its text, which may stand in brackets. -/
def host? (network : Network) (name : List Char) : Option IpAddress :=
  let bare := match name, name.getLast? with
    | '[' :: rest, some ']' => rest.dropLast
    | _, _ => name
  (IpAddress.ofText? bare).or
    ((network.hosts.find? fun entry => entry.1.toList == name).map (·.2))

/-- The endpoint that a text names. -/
def resolve (network : Network) (address : String) : Except Fault Endpoint :=
  match splitPort address.toList with
  | none => .error (.io .invalidInput (some "invalid socket address"))
  | some (host, digits) =>
      match port? digits with
      | none => .error (.io .invalidInput (some "invalid port value"))
      | some port =>
          match network.host? host with
          | none =>
              .error (.io .uncategorized
                (some "failed to lookup address information: Name or service not known"))
          | some ip => .ok ⟨ip, port⟩

def isWildcard : IpAddress → Bool
  | .v4 octets => octets.all (· == 0)
  | .v6 groups => groups.all (· == 0)

/-- An address of this machine; it has none but those that stay within it. -/
def isOwn (ip : IpAddress) : Bool :=
  isWildcard ip || match ip with
    | .v4 octets => octets.head? == some 127
    | .v6 groups => groups == [0, 0, 0, 0, 0, 0, 0, 1]

/-- Two endpoints cannot be listened at together. -/
def clash (a b : Endpoint) : Bool :=
  a.port == b.port && (a.ip == b.ip || isWildcard a.ip || isWildcard b.ip)

/-- Take an endpoint; port zero stands for any free one. -/
def bind (network : Network) (endpoint : Endpoint) : Except IoKind Endpoint × Network :=
  if !isOwn endpoint.ip then (.error .addrNotAvailable, network)
  else if endpoint.port = 0 then
    let chosen := ⟨endpoint.ip, 49152 + network.issued⟩
    (.ok chosen, { network with taken := chosen :: network.taken, issued := network.issued + 1 })
  else if network.taken.any (clash endpoint) then (.error .addrInUse, network)
  else (.ok endpoint, { network with taken := endpoint :: network.taken })

/-- Give an endpoint back. -/
def unbind (network : Network) (endpoint : Endpoint) : Network :=
  { network with taken := network.taken.filter (· != endpoint) }

/-- Connect to an endpoint. -/
def connect (network : Network) (endpoint : Endpoint) : Except IoKind Unit :=
  if !network.isReachable then .error .networkUnreachable
  else if network.taken.contains endpoint then .ok ()
  else .error .connectionRefused

/-- Send a datagram to an endpoint, whether anyone is there or not. -/
def sendTo (network : Network) (_endpoint : Endpoint) : Except IoKind Unit :=
  if network.isReachable then .ok () else .error .networkUnreachable

end Network

end MavBridge
