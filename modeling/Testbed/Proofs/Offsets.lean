import Testbed.Proofs.Lossless

/-!
# Where in a plan an operation stands

A plan is a row of blocks, three operations for a namespace and seven for a circuit, with
nothing between them. So the place of a block follows from how many blocks of which kind come
before it, and there is nothing to look up: the same holds of a topology that names what it
does not declare, or declares a name twice.

A block is found by cutting the plan in front of it and behind it
(`exists_flatMap_eq_append`), which says more than its length does and is what survives when
other blocks are put around. What stands in the block of a circuit is said kind by kind
(`RealizedBy`).
-/

namespace Testbed

namespace Operation

/-- What an operation does, apart from what it does it to. -/
inductive Kind where
  | createNamespace
  | createBridge
  | setUp
  | enableForwarding
  | disableReversePathFilter
  | createVethPair
  | move
  | attach
  | assign
  deriving DecidableEq

def kind : Operation → Kind
  | createNamespace _ => .createNamespace
  | createBridge _ _ => .createBridge
  | setUp _ _ => .setUp
  | enableForwarding _ => .enableForwarding
  | disableReversePathFilter _ => .disableReversePathFilter
  | createVethPair _ _ => .createVethPair
  | move _ _ => .move
  | attach _ _ _ => .attach
  | assign _ _ _ => .assign

def createdNamespace? : Operation → Option String
  | createNamespace name => some name
  | _ => none

end Operation

/-- These operations realize the circuit: seven of them, among them one pair, two ends that
are each moved and then set up, and what its addressing asks for. -/
structure Circuit.RealizedBy (c : Circuit) (ops : List Operation) : Prop where
  length : ops.length = 7
  pair : ops.filter (·.kind = .createVethPair) =
    [.createVethPair (c.a ++ "-" ++ c.b) (c.b ++ "-" ++ c.a)]
  ends : ops.filter (fun op => op.kind = .move ∨ op.kind = .setUp) =
    [.move (c.a ++ "-" ++ c.b) c.a, .setUp c.a (c.a ++ "-" ++ c.b),
      .move (c.b ++ "-" ++ c.a) c.b, .setUp c.b (c.b ++ "-" ++ c.a)]
  attached : ops.filter (·.kind = .attach) =
    match c.addressing with
    | .bridged _ => [.attach c.b (c.b ++ "-" ++ c.a) "br0"]
    | .pointToPoint _ => []
  assigned : ops.filter (·.kind = .assign) =
    match c.addressing with
    | .bridged address => [.assign c.a (c.a ++ "-" ++ c.b) address]
    | .pointToPoint block =>
      [.assign c.a (c.a ++ "-" ++ c.b) (block ++ "0/31"),
        .assign c.b (c.b ++ "-" ++ c.a) (block ++ "1/31")]

/-! ## Blocks in a row -/

namespace Plan

theorem realizedBy_circuit (c : Circuit) : c.RealizedBy (circuit c) := by
  rcases c with ⟨a, b, address | block⟩
  · exact ⟨rfl, rfl, rfl, rfl, rfl⟩
  · exact ⟨rfl, rfl, rfl, rfl, rfl⟩

/-- Behind `i` blocks of one size comes the next one. -/
theorem exists_flatMap_eq_append {α : Type} {block : α → List Operation} {n : Nat}
    (hlength : ∀ x, (block x).length = n) {xs : List α} {i : Nat} {x : α} (hx : xs[i]? = some x) :
    ∃ before after, xs.flatMap block = before ++ (block x ++ after) ∧ before.length = n * i := by
  obtain ⟨hi, rfl⟩ := List.getElem?_eq_some_iff.mp hx
  refine ⟨(xs.take i).flatMap block, (xs.drop (i + 1)).flatMap block, ?_, ?_⟩
  · rw [← List.flatMap_cons, ← List.drop_eq_getElem_cons, ← List.flatMap_append,
      List.take_append_drop]
  · rw [length_flatMap hlength, List.length_take_of_le (Nat.le_of_lt hi)]

theorem take_drop_append {before block after : List Operation} {offset n : Nat}
    (hoffset : before.length = offset) (hn : block.length = n) :
    ((before ++ (block ++ after)).drop offset).take n = block := by
  rw [List.drop_left' hoffset, List.take_left' hn]

end Plan

namespace Topology

variable {t : Topology} {i : Nat}

theorem length_planOf_segments : (t.planOf .segments).length = 3 * t.segments.length :=
  Plan.length_flatMap Plan.length_segment _

theorem length_planOf_devices : (t.planOf .devices).length = 3 * t.devices.length :=
  Plan.length_flatMap Plan.length_device _

theorem plan_eq_planOf (t : Topology) :
    t.plan = t.planOf .segments ++ t.planOf .devices ++ t.planOf .circuits :=
  t.plan_eq

/-- A block that stands somewhere in a part of the plan stands as much further back in the
whole as there is before that part. -/
theorem take_drop_plan {part before after : List Operation}
    (hplan : t.plan = before ++ part ++ after) {offset n : Nat} {block : List Operation}
    (hn : block.length = n)
    (hpart : ∃ front back, part = front ++ (block ++ back) ∧ front.length = offset) :
    (t.plan.drop (before.length + offset)).take n = block := by
  obtain ⟨front, back, rfl, rfl⟩ := hpart
  have hcut : t.plan = (before ++ front) ++ (block ++ (back ++ after)) := by
    rw [hplan]
    simp only [List.append_assoc]
  rw [hcut, Plan.take_drop_append List.length_append hn]

theorem take_drop_plan_segment {s : String} (hs : t.segments[i]? = some s) :
    (t.plan.drop (3 * i)).take 3 = Plan.segment s := by
  have hplan : t.plan = [] ++ t.planOf .segments ++ (t.planOf .devices ++ t.planOf .circuits) := by
    rw [plan_eq_planOf, List.append_assoc, List.nil_append]
  have hblock := take_drop_plan hplan (Plan.length_segment s)
    (Plan.exists_flatMap_eq_append Plan.length_segment hs)
  rwa [List.length_nil, Nat.zero_add] at hblock

theorem take_drop_plan_device {d : String} (hd : t.devices[i]? = some d) :
    (t.plan.drop (3 * (t.segments.length + i))).take 3 = Plan.device d := by
  have hblock := take_drop_plan t.plan_eq_planOf (Plan.length_device d)
    (Plan.exists_flatMap_eq_append Plan.length_device hd)
  rwa [length_planOf_segments, ← Nat.mul_add] at hblock

theorem take_drop_plan_circuit {c : Circuit} (hc : t.circuits[i]? = some c) :
    (t.plan.drop (3 * (t.segments.length + t.devices.length) + 7 * i)).take 7 =
      Plan.circuit c := by
  have hplan : t.plan = t.planOf .segments ++ t.planOf .devices ++ t.planOf .circuits ++ [] := by
    rw [plan_eq_planOf, List.append_nil]
  have hblock := take_drop_plan hplan (Plan.length_circuit c)
    (Plan.exists_flatMap_eq_append Plan.length_circuit hc)
  rwa [List.length_append, length_planOf_segments, length_planOf_devices, ← Nat.mul_add] at hblock

/-! ## The whole plan -/

theorem filterMap_createdNamespace?_plan (t : Topology) :
    t.plan.filterMap Operation.createdNamespace? = t.namespaces := by
  have hsegment (s : String) :
      (Plan.segment s).filterMap Operation.createdNamespace? = [s] := rfl
  have hdevice (d : String) :
      (Plan.device d).filterMap Operation.createdNamespace? = [d] := rfl
  have hcircuit (c : Circuit) :
      (Plan.circuit c).filterMap Operation.createdNamespace? = [] := by
    rcases c with ⟨a, b, address | block⟩
    · rfl
    · rfl
  simp only [filterMap_plan, hsegment, hdevice, hcircuit, List.flatMap_singleton',
    List.flatMap_eq_nil_iff.mpr fun _ _ => rfl, List.append_nil, namespaces]

/-- What was declared says where each operation of the plan stands, and the block of a circuit
realizes it. -/
theorem plan_laid_out (t : Topology) :
    t.plan.filterMap Operation.createdNamespace? = t.namespaces ∧
    t.plan.length = 3 * (t.segments.length + t.devices.length) + 7 * t.circuits.length ∧
    (t.plan = t.planOf .segments ++ t.planOf .devices ++ t.planOf .circuits ∧
      (t.planOf .segments).length = 3 * t.segments.length ∧
      (t.planOf .devices).length = 3 * t.devices.length) ∧
    (∀ i s, t.segments[i]? = some s → (t.plan.drop (3 * i)).take 3 = Plan.segment s) ∧
    (∀ i d, t.devices[i]? = some d →
      (t.plan.drop (3 * (t.segments.length + i))).take 3 = Plan.device d) ∧
    ∀ i c, t.circuits[i]? = some c →
      (t.plan.drop (3 * (t.segments.length + t.devices.length) + 7 * i)).take 7 =
        Plan.circuit c ∧ c.RealizedBy (Plan.circuit c) :=
  ⟨t.filterMap_createdNamespace?_plan, t.length_plan,
    ⟨t.plan_eq_planOf, length_planOf_segments, length_planOf_devices⟩,
    fun _ _ => take_drop_plan_segment, fun _ _ => take_drop_plan_device,
    fun _ c hc => ⟨take_drop_plan_circuit hc, Plan.realizedBy_circuit c⟩⟩

/-- One name for three namespaces, and a circuit that leads to none. -/
def overused : Topology where
  devices := ["d", "d"]
  segments := ["d"]
  circuits := [
    ⟨"d", "e", .pointToPoint "10.0.1."⟩,
    ⟨"d", "d", .bridged "10.0.0.1/24"⟩]

theorem plan_laid_out_overused :
    overused.segments[0]? = some "d" ∧ (overused.plan.drop 0).take 3 = Plan.segment "d" ∧
      overused.devices[1]? = some "d" ∧ (overused.plan.drop 6).take 3 = Plan.device "d" ∧
      overused.circuits[1]? = some ⟨"d", "d", .bridged "10.0.0.1/24"⟩ ∧
      (overused.plan.drop 16).take 7 = Plan.circuit ⟨"d", "d", .bridged "10.0.0.1/24"⟩ := by
  obtain ⟨-, -, -, hsegments, hdevices, hcircuits⟩ := plan_laid_out overused
  exact ⟨rfl, hsegments 0 _ rfl, rfl, hdevices 1 _ rfl, rfl, (hcircuits 1 _ rfl).1⟩

end Topology

end Testbed
