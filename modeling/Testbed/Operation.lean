/-!
# Operations on a host

An operation is one step in the configuration of a host, small enough to be one
command and to either happen or not. A namespace or an interface is referred to
by name only; whether it exists is for the host to say. Interfaces are created
outside all namespaces and then moved, so a veth pair has no namespace of its
own.
-/

namespace Testbed

inductive Operation where
  | createNamespace (name : String)
  | createBridge (ns bridge : String)
  | setUp (ns interface : String)
  /-- Concerns the interfaces that are in the namespace at that moment. -/
  | enableForwarding (ns : String)
  /-- Concerns the interfaces that are in the namespace at that moment. -/
  | disableReversePathFilter (ns : String)
  | createVethPair (left right : String)
  /-- Takes the interface from outside all namespaces. -/
  | move (interface ns : String)
  | attach (ns interface bridge : String)
  | assign (ns interface address : String)
  deriving DecidableEq

namespace Operation

def describe : Operation → String
  | createNamespace name => s!"create namespace {name}"
  | createBridge ns bridge => s!"[{ns}] create bridge {bridge}"
  | setUp ns interface => s!"[{ns}] set {interface} up"
  | enableForwarding ns => s!"[{ns}] enable forwarding"
  | disableReversePathFilter ns => s!"[{ns}] disable rp_filter"
  | createVethPair left right => s!"create veth pair {left} <-> {right}"
  | move interface ns => s!"move {interface} into {ns}"
  | attach ns interface bridge => s!"[{ns}] attach {interface} to {bridge}"
  | assign ns interface address => s!"[{ns}] assign {address} to {interface}"

/-- The namespace in which the operation takes effect. -/
def namespace? : Operation → Option String
  | createNamespace name => some name
  | createBridge ns _ => some ns
  | setUp ns _ => some ns
  | enableForwarding ns => some ns
  | disableReversePathFilter ns => some ns
  | createVethPair _ _ => none
  | move _ ns => some ns
  | attach ns _ _ => some ns
  | assign ns _ _ => some ns

/-- Creations are what cannot be done a second time. -/
def isCreation : Operation → Bool
  | createNamespace _ => true
  | createBridge _ _ => true
  | createVethPair _ _ => true
  | _ => false

end Operation

end Testbed
