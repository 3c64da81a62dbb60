/-!
# Lab topologies

A lab is made of devices and of shared Ethernet segments, joined by circuits.
Every device and every segment becomes a network namespace, so they draw their
names from one pool. A circuit always starts at a device `a` and leads either to
another device or onto a segment; the two cases need different addresses, and
`Addressing` says which one was meant.

All three collections are lists in order of declaration. The order decides the
order in which the lab is built and which of several mistakes is reported, and
nothing else.
-/

namespace Testbed

/-- How the ends of a circuit are numbered. -/
inductive Addressing where
  /-- The end at the device gets this address; the end on the segment gets none. -/
  | bridged (address : String)
  /-- Both ends get an address out of this block, which is a text to be continued
  with the last octet. -/
  | pointToPoint (block : String)
  deriving DecidableEq

namespace Addressing

/-- The address or the block, as it was written. -/
def text : Addressing → String
  | bridged address => address
  | pointToPoint block => block

def isBridged : Addressing → Bool
  | bridged _ => true
  | pointToPoint _ => false

/-- The address of the end at `a`, and of the end at `b` if that has one. The two
addresses of a point-to-point circuit are the only two of a 31-bit network. -/
def ends : Addressing → String × Option String
  | bridged address => (address, none)
  | pointToPoint block => (block ++ "0/31", some (block ++ "1/31"))

def describe : Addressing → String
  | bridged address => address ++ " (bridged)"
  | pointToPoint block => block ++ "0/31 <-> " ++ block ++ "1/31"

end Addressing

/-- A virtual cable between two namespaces. -/
structure Circuit where
  a : String
  b : String
  addressing : Addressing
  deriving DecidableEq

namespace Circuit

/-- An interface is called after the namespace it is in and the one it leads to. -/
def interfaceName (here there : String) : String :=
  here ++ "-" ++ there

/-- The interfaces at `a` and at `b`. -/
def interfaces (c : Circuit) : String × String :=
  (interfaceName c.a c.b, interfaceName c.b c.a)

def describe (c : Circuit) : String :=
  c.a ++ " --- " ++ c.b ++ ": " ++ c.addressing.describe

end Circuit

/-- What a name in a circuit stands for. -/
inductive Endpoint where
  | segment (name : String)
  | device (name : String)
  deriving DecidableEq

namespace Endpoint

def isSegment : Endpoint → Bool
  | segment _ => true
  | device _ => false

def name : Endpoint → String
  | segment name => name
  | device name => name

end Endpoint

structure Topology where
  devices : List String := []
  segments : List String := []
  circuits : List Circuit := []
  deriving DecidableEq

namespace Topology

def addDevice (t : Topology) (name : String) : Topology :=
  { t with devices := t.devices ++ [name] }

def addSegment (t : Topology) (name : String) : Topology :=
  { t with segments := t.segments ++ [name] }

def addCircuit (t : Topology) (c : Circuit) : Topology :=
  { t with circuits := t.circuits ++ [c] }

/-- The addressing of a circuit that leads to `b`: bridged if `b` is a segment by
now. A segment declared later does not change it. -/
def addressingTo (t : Topology) (b address : String) : Addressing :=
  if b ∈ t.segments then .bridged address else .pointToPoint address

/-- Adds a circuit whose addressing follows from where it leads. -/
def connect (t : Topology) (a b address : String) : Topology :=
  t.addCircuit ⟨a, b, t.addressingTo b address⟩

/-- The namespaces a lab consists of, in the order in which they are created. -/
def namespaces (t : Topology) : List String :=
  t.segments ++ t.devices

/-- A name that was declared as both is taken for a segment. -/
def endpoint? (t : Topology) (name : String) : Option Endpoint :=
  if name ∈ t.segments then some (.segment name)
  else if name ∈ t.devices then some (.device name)
  else none

@[simp]
theorem endpoint?_eq_none_iff {t : Topology} {name : String} :
    t.endpoint? name = none ↔ name ∉ t.namespaces := by
  by_cases hs : name ∈ t.segments <;> by_cases hd : name ∈ t.devices <;>
    simp [endpoint?, namespaces, hs, hd]

theorem name_of_endpoint? {t : Topology} {name : String} {e : Endpoint}
    (h : t.endpoint? name = some e) : e.name = name := by
  rw [endpoint?] at h
  split at h
  · cases h; rfl
  · split at h
    · cases h; rfl
    · cases h

end Topology

end Testbed
