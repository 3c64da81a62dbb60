import Testbed.NameMap

/-!
# Hosts

A host is what operations act on: interfaces that are in no namespace yet, which
are said to be in the root, and namespaces with the interfaces in each. Only what
an operation can change or ask for is kept. An interface of one namespace and an
interface of another may have the same name, and the two ends of a veth pair know
each other by name only, so moving one end tells the other nothing.

A `Fault` is the reason why a host refuses an operation.
-/

namespace Testbed

inductive InterfaceKind where
  | loopback
  | bridge
  | veth (peer : String)
  deriving DecidableEq

/-- An interface is created down, unattached, without addresses, and with the
settings the kernel starts from. -/
structure Interface where
  kind : InterfaceKind
  up : Bool := false
  /-- The bridge it is attached to. -/
  master : Option String := none
  /-- In the order in which they were assigned. -/
  addresses : List String := []
  forwarding : Bool := false
  rpFilter : Bool := true
  deriving DecidableEq

/-- Every namespace is created with this interface in it. -/
def loopbackName : String := "lo"

/-- How messages refer to the interfaces that are in no namespace. -/
def rootName : String := "<root>"

structure Host where
  root : NameMap Interface := ∅
  namespaces : NameMap (NameMap Interface) := ∅
  deriving DecidableEq

instance : EmptyCollection Host := ⟨{}⟩

inductive Fault where
  | namespaceExists (ns : String)
  | unknownNamespace (ns : String)
  | interfaceExists (ns interface : String)
  | unknownInterface (ns interface : String)
  | bridgeExists (ns bridge : String)
  | unknownBridge (ns bridge : String)
  | addressExists (ns interface address : String)
  deriving DecidableEq

def Fault.message : Fault → String
  | namespaceExists ns => s!"Namespace {ns} already exists"
  | unknownNamespace ns => s!"Namespace {ns} does not exist"
  | interfaceExists ns interface => s!"Interface {interface} already exists in namespace {ns}"
  | unknownInterface ns interface => s!"Interface {interface} does not exist in namespace {ns}"
  | bridgeExists ns bridge => s!"Bridge {bridge} already exists in namespace {ns}"
  | unknownBridge ns bridge => s!"Bridge {bridge} does not exist in namespace {ns}"
  | addressExists ns interface address =>
    s!"Address {address} is already assigned to {interface} in namespace {ns}"

namespace Host

def interface? (h : Host) (ns interface : String) : Option Interface :=
  (h.namespaces.find? ns).bind (·.find? interface)

/-- The interfaces of a namespace that has to exist. -/
def interfacesOf (h : Host) (ns : String) : Except Fault (NameMap Interface) :=
  match h.namespaces.find? ns with
  | some interfaces => .ok interfaces
  | none => .error (.unknownNamespace ns)

/-- An interface that has to exist, in a namespace that has to exist. -/
def interfaceOf (h : Host) (ns interface : String) : Except Fault Interface := do
  let interfaces ← h.interfacesOf ns
  match interfaces.find? interface with
  | some i => .ok i
  | none => .error (.unknownInterface ns interface)

/-- Replaces all interfaces of a namespace, which is there afterwards. -/
def setInterfaces (h : Host) (ns : String) (interfaces : NameMap Interface) : Host :=
  { h with namespaces := h.namespaces.insert ns interfaces }

/-- Replaces one interface of a namespace. -/
def setInterface (h : Host) (ns interface : String) (i : Interface) : Host :=
  h.setInterfaces ns (((h.namespaces.find? ns).getD ∅).insert interface i)

end Host

end Testbed
