import Testbed.Proofs.Arguments
import Testbed.Proofs.Scripts

/-!
# A plan and its script give the topology away

Nothing that was declared is lost on the way to the plan. Where one phase ends and the
next begins is not marked in it, but a segment is the only thing that comes with a
bridge, and a device the only thing that forwards, so both lists are found in any part
of the plan. What is left when they are known is the circuits, and those are blocks of
seven operations each, one circuit to a block: the two moves name its ends, and a bridge
to attach to or a second address tells which way it is addressed.

This asks for no validation. A script does, since it can be read back only if no text of
it holds a space or a line feed. Validation refuses both as white space, so among valid
topologies the script is as good as the plan.
-/

namespace Testbed

variable {t : Topology} {c d : Circuit}

/-! ## The namespaces -/

/-- The namespace that gets a bridge. -/
def Operation.bridgedNamespace? : Operation → Option String
  | createBridge ns _ => some ns
  | _ => none

/-- The namespace that is to forward. -/
def Operation.forwardingNamespace? : Operation → Option String
  | enableForwarding ns => some ns
  | _ => none

namespace Topology

theorem filterMap_plan (f : Operation → Option String) (t : Topology) :
    t.plan.filterMap f =
      t.segments.flatMap (fun s => (Plan.segment s).filterMap f) ++
        t.devices.flatMap (fun d => (Plan.device d).filterMap f) ++
        t.circuits.flatMap fun c => (Plan.circuit c).filterMap f := by
  rw [plan_eq, List.filterMap_append, List.filterMap_append, List.filterMap_flatMap,
    List.filterMap_flatMap, List.filterMap_flatMap]

theorem filterMap_bridgedNamespace?_plan (t : Topology) :
    t.plan.filterMap Operation.bridgedNamespace? = t.segments := by
  have hsegment (s : String) :
      (Plan.segment s).filterMap Operation.bridgedNamespace? = [s] := rfl
  have hdevice (d : String) : (Plan.device d).filterMap Operation.bridgedNamespace? = [] := rfl
  have hcircuit (c : Circuit) :
      (Plan.circuit c).filterMap Operation.bridgedNamespace? = [] := by
    rcases c with ⟨a, b, address | block⟩
    · rfl
    · rfl
  simp only [filterMap_plan, hsegment, hdevice, hcircuit, List.flatMap_singleton',
    List.flatMap_eq_nil_iff.mpr fun _ _ => rfl, List.append_nil]

theorem filterMap_forwardingNamespace?_plan (t : Topology) :
    t.plan.filterMap Operation.forwardingNamespace? = t.devices := by
  have hsegment (s : String) :
      (Plan.segment s).filterMap Operation.forwardingNamespace? = [] := rfl
  have hdevice (d : String) :
      (Plan.device d).filterMap Operation.forwardingNamespace? = [d] := rfl
  have hcircuit (c : Circuit) :
      (Plan.circuit c).filterMap Operation.forwardingNamespace? = [] := by
    rcases c with ⟨a, b, address | block⟩
    · rfl
    · rfl
  simp only [filterMap_plan, hsegment, hdevice, hcircuit, List.flatMap_singleton',
    List.flatMap_eq_nil_iff.mpr fun _ _ => rfl, List.append_nil, List.nil_append]

end Topology

/-! ## The circuits -/

namespace Plan

/-- Addressings of different kinds are never planned alike. -/
theorem circuit_injective : Function.Injective circuit := by
  intro c d h
  rcases c with ⟨a, b, address | block⟩
  all_goals rcases d with ⟨a', b', address' | block'⟩
  · simp only [circuit, addressing, Addressing.ends, List.cons_append, List.nil_append,
      List.cons.injEq, Operation.move.injEq, Operation.assign.injEq] at h
    obtain ⟨-, ⟨-, rfl⟩, -, ⟨-, rfl⟩, -, -, ⟨-, -, rfl⟩, -⟩ := h
    rfl
  · simp [circuit, addressing, Addressing.ends] at h
  · simp [circuit, addressing, Addressing.ends] at h
  · simp only [circuit, addressing, Addressing.ends, List.cons_append, List.nil_append,
      List.cons.injEq, Operation.move.injEq, Operation.assign.injEq, String.append_left_inj] at h
    obtain ⟨-, ⟨-, rfl⟩, -, ⟨-, rfl⟩, -, ⟨-, -, rfl⟩, -⟩ := h
    rfl

/-- Blocks of one size can be told apart in a row of them. -/
theorem flatMap_injective {α : Type} {block : α → List Operation} {n : Nat}
    (hlength : ∀ x, (block x).length = n + 1) (hinj : Function.Injective block) :
    Function.Injective fun xs : List α => xs.flatMap block := by
  have hne (x : α) : block x ≠ [] := List.ne_nil_of_length_eq_add_one (hlength x)
  intro xs
  induction xs with
  | nil =>
    intro ys h
    cases ys with
    | nil => rfl
    | cons y ys => exact absurd (List.append_eq_nil_iff.mp h.symm).1 (hne y)
  | cons x xs ih =>
    intro ys h
    cases ys with
    | nil => exact absurd (List.append_eq_nil_iff.mp h).1 (hne x)
    | cons y ys =>
      obtain ⟨hfirst, hrest⟩ := List.append_inj h ((hlength x).trans (hlength y).symm)
      rw [hinj hfirst, ih hrest]

end Plan

namespace Topology

theorem plan_injective : Function.Injective plan := by
  intro t₁ t₂ h
  have hsegments : t₁.segments = t₂.segments := by
    rw [← filterMap_bridgedNamespace?_plan t₁, h, filterMap_bridgedNamespace?_plan]
  have hdevices : t₁.devices = t₂.devices := by
    rw [← filterMap_forwardingNamespace?_plan t₁, h, filterMap_forwardingNamespace?_plan]
  have hcircuits : t₁.circuits = t₂.circuits := by
    rw [plan_eq, plan_eq, hsegments, hdevices] at h
    exact Plan.flatMap_injective Plan.length_circuit Plan.circuit_injective
      (List.append_cancel_left h)
  calc t₁
      = ⟨t₁.devices, t₁.segments, t₁.circuits⟩ := rfl
    _ = t₂ := by rw [hdevices, hsegments, hcircuits]

/-- A topology is known from its plan, and a valid one is known from its script. -/
theorem eq_of_plan_eq_of_script_eq :
    (∀ t₁ t₂ : Topology, t₁.plan = t₂.plan → t₁ = t₂) ∧
    ∀ t₁ t₂ : Topology, t₁.validate = .ok () → t₂.validate = .ok () →
      script t₁.plan = script t₂.plan → t₁ = t₂ := by
  refine ⟨fun t₁ t₂ h => plan_injective h, fun t₁ t₂ hv₁ hv₂ hscript => ?_⟩
  have hw₁ : t₁.WellFormed := validate_eq_ok_iff.mp hv₁
  have hw₂ : t₂.WellFormed := validate_eq_ok_iff.mp hv₂
  have hplain {blank : Char} (hblank : Text.isBlank blank = true) :
      ∀ op ∈ t₁.plan ++ t₂.plan, ∀ field ∈ op.fields, blank ∉ field.toList :=
    List.forall_mem_append.mpr ⟨hw₁.not_mem_fields hblank, hw₂.not_mem_fields hblank⟩
  exact plan_injective ((script_inj (hplain (by decide)) (hplain (by decide))).mp hscript)

/-- The same lab, declared step by step. -/
def twoRouterLanStepwise : Topology :=
  ((({} : Topology).addSegment "L").addDevice "X").addDevice "Y"
    |>.connect "X" "L" "10.0.0.1/24" |>.connect "X" "Y" "10.0.1."

theorem eq_of_plan_eq_of_script_eq_twoRouterLan :
    (twoRouterLan.plan = twoRouterLanStepwise.plan ∧ twoRouterLan = twoRouterLanStepwise) ∧
      twoRouterLan.validate = .ok () ∧ twoRouterLanStepwise.validate = .ok () ∧
      script twoRouterLan.plan = script twoRouterLanStepwise.plan ∧
      twoRouterLan = twoRouterLanStepwise := by
  have hplan : twoRouterLan.plan = twoRouterLanStepwise.plan := rfl
  have hscript : script twoRouterLan.plan = script twoRouterLanStepwise.plan := by rw [hplan]
  obtain ⟨hofPlan, hofScript⟩ := eq_of_plan_eq_of_script_eq
  exact ⟨⟨hplan, hofPlan _ _ hplan⟩, rfl, rfl, hscript, hofScript _ _ rfl rfl hscript⟩

end Topology

end Testbed
