import Testbed.Operation
import Testbed.Topology.Basic

/-!
# The plan of a lab

The plan is the list of operations that builds a topology, and it comes in three
phases. Segments and devices are namespaces, three operations each; a circuit is
a veth pair whose ends are moved into place, seven operations whichever way it
is addressed. Circuits come last because both their namespaces, and the bridge
of a segment, have to be there.

Planning never fails and looks nothing up. A topology that does not pass its
validation has a plan as well, which some operation of it will not survive.
-/

namespace Testbed

/-- Every segment has one bridge, and this is its name. -/
def bridgeName : String := "br0"

inductive Phase where
  | segments
  | devices
  | circuits
  deriving DecidableEq

namespace Phase

def all : List Phase := [segments, devices, circuits]

def name : Phase → String
  | segments => "segments"
  | devices => "devices"
  | circuits => "circuits"

end Phase

namespace Plan

def segment (name : String) : List Operation :=
  [.createNamespace name, .createBridge name bridgeName, .setUp name bridgeName]

/-- A device forwards, and does not ask whether it would have sent a reply the way
a packet came. -/
def device (name : String) : List Operation :=
  [.createNamespace name, .enableForwarding name, .disableReversePathFilter name]

/-- An end that lies on a segment is attached to the bridge there; every other end
gets its address. -/
def addressing (c : Circuit) : List Operation :=
  match c.addressing.ends with
  | (atA, none) => [.attach c.b c.interfaces.2 bridgeName, .assign c.a c.interfaces.1 atA]
  | (atA, some atB) => [.assign c.a c.interfaces.1 atA, .assign c.b c.interfaces.2 atB]

def circuit (c : Circuit) : List Operation :=
  [.createVethPair c.interfaces.1 c.interfaces.2,
    .move c.interfaces.1 c.a, .setUp c.a c.interfaces.1,
    .move c.interfaces.2 c.b, .setUp c.b c.interfaces.2] ++ addressing c

end Plan

namespace Topology

/-- The part of the plan that belongs to one phase. -/
def planOf (t : Topology) : Phase → List Operation
  | .segments => t.segments.flatMap Plan.segment
  | .devices => t.devices.flatMap Plan.device
  | .circuits => t.circuits.flatMap Plan.circuit

def plan (t : Topology) : List Operation :=
  Phase.all.flatMap t.planOf

theorem plan_eq (t : Topology) :
    t.plan = t.segments.flatMap Plan.segment ++ t.devices.flatMap Plan.device ++
      t.circuits.flatMap Plan.circuit := by
  simp [plan, Phase.all, planOf]

theorem mem_plan_iff {t : Topology} {op : Operation} :
    op ∈ t.plan ↔
      (∃ s ∈ t.segments, op ∈ Plan.segment s) ∨ (∃ d ∈ t.devices, op ∈ Plan.device d) ∨
        ∃ c ∈ t.circuits, op ∈ Plan.circuit c := by
  simp only [plan_eq, List.mem_append, List.mem_flatMap, or_assoc]

end Topology

theorem Plan.mem_segment_iff {op : Operation} {name : String} :
    op ∈ segment name ↔
      op = .createNamespace name ∨ op = .createBridge name bridgeName ∨
        op = .setUp name bridgeName := by
  simp only [segment, List.mem_cons, List.not_mem_nil, or_false]

theorem Plan.mem_device_iff {op : Operation} {name : String} :
    op ∈ device name ↔
      op = .createNamespace name ∨ op = .enableForwarding name ∨
        op = .disableReversePathFilter name := by
  simp only [device, List.mem_cons, List.not_mem_nil, or_false]

theorem Plan.length_segment (name : String) : (Plan.segment name).length = 3 := rfl

theorem Plan.length_device (name : String) : (Plan.device name).length = 3 := rfl

theorem Plan.length_circuit (c : Circuit) : (Plan.circuit c).length = 7 := by
  rcases c with ⟨a, b, _ | _⟩ <;> rfl

/-- Operations that come in blocks of one size. -/
theorem Plan.length_flatMap {α : Type} {block : α → List Operation} {n : Nat}
    (h : ∀ x, (block x).length = n) (xs : List α) :
    (xs.flatMap block).length = n * xs.length := by
  induction xs with
  | nil => rfl
  | cons x xs ih =>
    rw [List.flatMap_cons, List.length_append, h, ih, List.length_cons, Nat.mul_succ, Nat.add_comm]

theorem Topology.length_plan (t : Topology) :
    t.plan.length =
      3 * (t.segments.length + t.devices.length) + 7 * t.circuits.length := by
  rw [plan_eq, List.length_append, List.length_append, Plan.length_flatMap Plan.length_segment,
    Plan.length_flatMap Plan.length_device, Plan.length_flatMap Plan.length_circuit, Nat.mul_add]

end Testbed
