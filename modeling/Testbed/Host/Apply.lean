import Testbed.Host.Basic
import Testbed.Operation

/-!
# What an operation does to a host

Each operation has its conditions, tested in the order in which a message names
them, and its effect. A host that refuses an operation is not changed by it: the
result is either a fault or the host afterwards, never both.

The conditions look at names and at kinds of interfaces. They do not look at
whether an address is well formed or an interface is up, so a host takes more
than a validated topology would ever ask of it.
-/

namespace Testbed.Host

def createNamespace (h : Host) (name : String) : Except Fault Host :=
  if name ∈ h.namespaces then .error (.namespaceExists name)
  else
    .ok (h.setInterfaces name
      ((∅ : NameMap Interface).insert loopbackName { kind := .loopback }))

def createBridge (h : Host) (ns bridge : String) : Except Fault Host := do
  let interfaces ← h.interfacesOf ns
  match interfaces.find? bridge with
  | some i =>
    if i.kind = .bridge then .error (.bridgeExists ns bridge)
    else .error (.interfaceExists ns bridge)
  | none => .ok (h.setInterface ns bridge { kind := .bridge })

def setUp (h : Host) (ns interface : String) : Except Fault Host := do
  let i ← h.interfaceOf ns interface
  .ok (h.setInterface ns interface { i with up := true })

def enableForwarding (h : Host) (ns : String) : Except Fault Host := do
  let interfaces ← h.interfacesOf ns
  .ok (h.setInterfaces ns (interfaces.map fun i => { i with forwarding := true }))

def disableReversePathFilter (h : Host) (ns : String) : Except Fault Host := do
  let interfaces ← h.interfacesOf ns
  .ok (h.setInterfaces ns (interfaces.map fun i => { i with rpFilter := false }))

/-- Both names have to be free in the root, and they have to be two. -/
def createVethPair (h : Host) (left right : String) : Except Fault Host :=
  if left ∈ h.root then .error (.interfaceExists rootName left)
  else if right ∈ h.root then .error (.interfaceExists rootName right)
  else if left = right then .error (.interfaceExists rootName right)
  else
    .ok { h with
      root := (h.root.insert left { kind := .veth right }).insert right { kind := .veth left } }

/-- An interface goes down when it is moved. -/
def move (h : Host) (interface ns : String) : Except Fault Host :=
  match h.root.find? interface with
  | none => .error (.unknownInterface rootName interface)
  | some i => do
    let interfaces ← h.interfacesOf ns
    if interface ∈ interfaces then .error (.interfaceExists ns interface)
    else
      .ok { h.setInterface ns interface { i with up := false } with
        root := h.root.erase interface }

def attach (h : Host) (ns interface bridge : String) : Except Fault Host := do
  let interfaces ← h.interfacesOf ns
  if (interfaces.find? bridge).map (·.kind) = some .bridge then do
    let i ← h.interfaceOf ns interface
    .ok (h.setInterface ns interface { i with master := some bridge })
  else
    .error (.unknownBridge ns bridge)

def assign (h : Host) (ns interface address : String) : Except Fault Host := do
  let i ← h.interfaceOf ns interface
  if address ∈ i.addresses then .error (.addressExists ns interface address)
  else .ok (h.setInterface ns interface { i with addresses := i.addresses ++ [address] })

def apply (h : Host) : Operation → Except Fault Host
  | .createNamespace name => h.createNamespace name
  | .createBridge ns bridge => h.createBridge ns bridge
  | .setUp ns interface => h.setUp ns interface
  | .enableForwarding ns => h.enableForwarding ns
  | .disableReversePathFilter ns => h.disableReversePathFilter ns
  | .createVethPair left right => h.createVethPair left right
  | .move interface ns => h.move interface ns
  | .attach ns interface bridge => h.attach ns interface bridge
  | .assign ns interface address => h.assign ns interface address

end Testbed.Host
