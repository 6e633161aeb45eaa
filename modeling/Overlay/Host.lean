import Overlay.Address.Short
import Overlay.Log

namespace Overlay

/-!
# The machine a node runs on

Whether an address can be bound and whether a peer gets through depends on the machine. Two
machines are described: an ordinary one, with a loopback network, and one without any network.

* `Host.bind` — opening a socket at an address;
* `Host.connect` — a peer on the same machine connecting to the node;
* `Host.listen` — opening the listener, with what is logged about it.
-/

/-- What the machine lets a node do. -/
inductive Host where
  /-- Local addresses can be bound, and local peers get through. -/
  | loopback
  /-- Without a network any address can be bound, but no peer gets through. -/
  | isolated
deriving DecidableEq, Inhabited, Repr

namespace Host

/-- Ports below this one are kept for the system. -/
def firstFreePort : UInt16 := 1024

/-- Whether a version 4 address belongs to the machine itself. -/
def isLocal : List UInt8 → Bool
  | [127, _, _, _] => true
  | [0, 0, 0, 0] => true
  | _ => false

/-- Open a socket at an address. -/
def bind (host : Host) (address : Address) : Except IoFault Unit :=
  match host, address with
  | _, .v6 .. => .error .addressNotAvailable
  | .loopback, .v4 octets port =>
    if !isLocal octets then .error .addressNotAvailable
    else if port < firstFreePort then .error .permissionDenied
    else .ok ()
  | .isolated, .v4 _ port =>
    if port < firstFreePort then .error .permissionDenied else .ok ()

/-- A local peer connects to the node, which may or may not be listening. -/
def connect (host : Host) (listening : Bool) : Except IoFault Unit :=
  match host with
  | .loopback => if listening then .ok () else .error .connectionRefused
  | .isolated => .error .networkUnreachable

/-- Nothing is found under a name. -/
def nameUnknown : IoFault :=
  .described "failed to lookup address information: Name or service not known"

/-- Find the address that a `host:port` text names. Names are not looked up. -/
def resolve (target : String) : Except IoFault Address :=
  match Address.parse? target with
  | some address => .ok address
  | none =>
    if target.toList.contains '\x00' then .error .zeroInName
    else
      match Address.shortForm? target with
      | some address => .ok address
      | none => .error nameUnknown

/-- Open the listener at `target`: the address it got, or why there is none. A failure to bind
names the address, a failure to find it the text that was looked up. -/
def openListener (host : Host) (target : String) : Except Failure Address :=
  match resolve target with
  | .error fault => .error (.listen target fault)
  | .ok address =>
    match host.bind address with
    | .error fault => .error (.listen address.text fault)
    | .ok () => .ok address

/-- Open the listener of the node `localName` at `target`, and log what comes of it. -/
def listen (host : Host) (localName target : String) :
    Except Failure Address × List Log.Entry :=
  match host.openListener target with
  | .ok address => (.ok address, [.listening localName address.text])
  | .error failure => (.error failure, [.listenerFailed failure])

end Host

end Overlay
