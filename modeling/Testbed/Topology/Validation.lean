import Testbed.Text.Blank
import Testbed.Text.Quoted
import Testbed.Topology.Address
import Testbed.Topology.Basic

/-!
# Topologies that can be built

`validate` is everything that stands between a description and a host. It looks
at the names first, in the order of creation, and then at the circuits one after
the other, and it reports the first thing it finds. What it reports names the
culprit by content and, for a circuit, by its position.

Two of the conditions are about names that nobody wrote: the interfaces at the
two ends of a circuit are called after both namespaces, the kernel limits such a
name to fifteen bytes, and two circuits can come to claim the same one. Which
circuit claimed a name first is kept in a list as the circuits are walked.
-/

namespace Testbed

/-- What is wrong with a topology. Circuits are counted from zero. -/
inductive Violation where
  | invalidName (name : String)
  | duplicateName (name : String)
  | unknownEndpoint (circuit : Nat) (name : String)
  | segmentInitiates (circuit : Nat) (name : String)
  | selfLoop (circuit : Nat) (name : String)
  | addressingMismatch (circuit : Nat) (b : String) (addressing : Addressing)
  | invalidAddress (circuit : Nat) (address : String)
  | interfaceCollision (name : String) (first second : Nat)
  | interfaceTooLong (name : String)
  deriving DecidableEq

def Violation.message : Violation → String
  | invalidName name => s!"Invalid name: {Text.quoted name}"
  | duplicateName name => s!"Name is declared more than once: {name}"
  | unknownEndpoint i name => s!"Circuit {i} references an unknown endpoint: {name}"
  | segmentInitiates i name => s!"Circuit {i} is initiated by the segment {name}"
  | selfLoop i name => s!"Circuit {i} connects {name} to itself"
  | addressingMismatch i b addressing =>
    s!"Circuit {i}: address {addressing.describe} does not match the endpoint {b}"
  | invalidAddress i address => s!"Circuit {i}: invalid address {Text.quoted address}"
  | interfaceCollision name first second =>
    s!"Interface {name} is created by circuit {first} and circuit {second}"
  | interfaceTooLong name => s!"Interface name {name} is longer than 15 characters"

/-- Fit to name a namespace and to be an argument of a command: it is not empty,
cannot be read as an option, holds no white space, and names neither a path of
several steps nor one of the two directories that are everywhere. -/
def isUsableName (name : String) : Bool :=
  name ≠ "" && name.toList.head? ≠ some '-' && name ≠ "." && name ≠ ".." &&
    name.toList.all fun c => !Text.isBlank c && c ≠ '/'

def Addressing.isWellFormed : Addressing → Bool
  | bridged address => Address.isWithLength address
  | pointToPoint block => Address.isThreeOctetBlock block

/-- The longest name, in bytes, that the kernel gives to an interface. -/
def maxInterfaceNameLength : Nat := 15

namespace Topology

/-- Walks the names, given those that came before. -/
def checkNames (earlier : List String) : List String → Except Violation Unit
  | [] => .ok ()
  | name :: names =>
    if !isUsableName name then .error (.invalidName name)
    else if name ∈ earlier then .error (.duplicateName name)
    else checkNames (name :: earlier) names

/-- The conditions on a circuit that concern no other circuit. -/
def checkCircuit (t : Topology) (i : Nat) (c : Circuit) : Except Violation Unit :=
  match t.endpoint? c.a, t.endpoint? c.b with
  | none, _ => .error (.unknownEndpoint i c.a)
  | some _, none => .error (.unknownEndpoint i c.b)
  | some a, some b =>
    if a.isSegment then .error (.segmentInitiates i c.a)
    else if a = b then .error (.selfLoop i c.a)
    else if b.isSegment ≠ c.addressing.isBridged then
      .error (.addressingMismatch i c.b c.addressing)
    else if !c.addressing.isWellFormed then .error (.invalidAddress i c.addressing.text)
    else .ok ()

/-- Interface names that are spoken for, each with the circuit it belongs to. -/
abbrev Owners := List (String × Nat)

def claim (owners : Owners) (i : Nat) (name : String) : Except Violation Owners :=
  if name.utf8ByteSize > maxInterfaceNameLength then .error (.interfaceTooLong name)
  else
    match owners.lookup name with
    | some first => .error (.interfaceCollision name first i)
    | none => .ok ((name, i) :: owners)

/-- Claims both interface names of a circuit. -/
def claimBoth (owners : Owners) (i : Nat) (c : Circuit) : Except Violation Owners := do
  let owners ← claim owners i c.interfaces.1
  claim owners i c.interfaces.2

/-- Walks the circuits, the first of which has number `i`. -/
def checkCircuits (t : Topology) (i : Nat) (owners : Owners) :
    List Circuit → Except Violation Unit
  | [] => .ok ()
  | c :: cs => do
    t.checkCircuit i c
    let owners ← claimBoth owners i c
    t.checkCircuits (i + 1) owners cs

def validate (t : Topology) : Except Violation Unit := do
  checkNames [] t.namespaces
  t.checkCircuits 0 [] t.circuits

end Topology

end Testbed
