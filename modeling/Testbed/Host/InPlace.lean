import Testbed.Sink

/-!
# Hosts that are changed in place

An operation that is carried out in place works on the one host there is. It looks things
up, it stops with a fault, and it writes, one step after the other, and what it has
written stays written when a later step stops. Moving an interface is the operation in
which a look-up that can fail comes behind a write: the interface has been taken out of
the root when the namespace it is to go to is looked up once more.
-/

namespace Testbed

namespace Host

/-- Steps on a host. A fault ends them, and the host stays as far as they have come. -/
abbrev Steps := ExceptT Fault (StateM Host)

namespace Steps

def findInterfaces (ns : String) : Steps (NameMap Interface) := do
  match (← get).namespaces.find? ns with
  | some interfaces => return interfaces
  | none => throw (.unknownNamespace ns)

def findInterface (ns interface : String) : Steps Interface := do
  match (← findInterfaces ns).find? interface with
  | some i => return i
  | none => throw (.unknownInterface ns interface)

def writeInterfaces (ns : String) (interfaces : NameMap Interface) : Steps Unit :=
  modify (·.setInterfaces ns interfaces)

def writeInterface (ns interface : String) (i : Interface) : Steps Unit :=
  modify (·.setInterface ns interface i)

def writeRoot (f : NameMap Interface → NameMap Interface) : Steps Unit :=
  modify fun h => { h with root := f h.root }

/-- The name is still to be had in the root. -/
def requireFree (interface : String) : Steps Unit := do
  if interface ∈ (← get).root then throw (.interfaceExists rootName interface)

/-- Takes an interface out of the root and puts it into a namespace. -/
def transfer (interface ns : String) : Steps Unit := do
  match (← get).root.find? interface with
  | none => return
  | some i =>
    writeRoot (·.erase interface)
    let interfaces ← findInterfaces ns
    writeInterfaces ns (interfaces.insert interface { i with up := false })

end Steps

open Steps in
/-- Carries an operation out in place. -/
def carryOut : Operation → Steps Unit
  | .createNamespace name => do
    if name ∈ (← get).namespaces then throw (.namespaceExists name)
    writeInterfaces name ((∅ : NameMap Interface).insert loopbackName { kind := .loopback })
  | .createBridge ns bridge => do
    let interfaces ← findInterfaces ns
    match interfaces.find? bridge with
    | some { kind := .bridge, .. } => throw (.bridgeExists ns bridge)
    | some _ => throw (.interfaceExists ns bridge)
    | none => writeInterfaces ns (interfaces.insert bridge { kind := .bridge })
  | .setUp ns interface => do
    let i ← findInterface ns interface
    writeInterface ns interface { i with up := true }
  | .enableForwarding ns => do
    let interfaces ← findInterfaces ns
    writeInterfaces ns (interfaces.map fun i => { i with forwarding := true })
  | .disableReversePathFilter ns => do
    let interfaces ← findInterfaces ns
    writeInterfaces ns (interfaces.map fun i => { i with rpFilter := false })
  | .createVethPair left right => do
    requireFree left
    requireFree right
    if left = right then throw (.interfaceExists rootName right)
    writeRoot (·.insert left { kind := .veth right })
    writeRoot (·.insert right { kind := .veth left })
  | .move interface ns => do
    if interface ∉ (← get).root then throw (.unknownInterface rootName interface)
    let interfaces ← findInterfaces ns
    if interface ∈ interfaces then throw (.interfaceExists ns interface)
    transfer interface ns
  | .attach ns interface bridge => do
    let interfaces ← findInterfaces ns
    if (interfaces.find? bridge).map (·.kind) ≠ some .bridge then throw (.unknownBridge ns bridge)
    let i ← findInterface ns interface
    writeInterface ns interface { i with master := some bridge }
  | .assign ns interface address => do
    let i ← findInterface ns interface
    if address ∈ i.addresses then throw (.addressExists ns interface address)
    writeInterface ns interface { i with addresses := i.addresses ++ [address] }

end Host

/-- A host on which operations are carried out in place. -/
def Sink.inPlace : Sink Fault Host where
  apply := Host.carryOut

end Testbed
