import Testbed.Command
import Testbed.Proofs.Territory

/-!
# The texts of operations

What an operation is about it says in texts: the names of a namespace and of
interfaces, and an address. Its command is made of these texts and of words that
belong to the command itself, so what is to hold of all arguments of a plan is a
question about the texts and about a short list of words.

A text is of one of three kinds (`mem_fields_iff`), and in the plan of a valid topology
the kind says where it is from (`WellFormed.concerns`, `WellFormed.mem_fields`): a
namespace is a declared name, an interface is the bridge of a segment or an end of a
circuit, and what is left is the address that is assigned. What comes before the
creation of a namespace carries fewer: the names of the namespaces before it, and the
name of their bridges (`exists_plan_eq_append`).
-/

namespace Testbed

/-- The texts that an operation carries, in order. -/
def Operation.fields : Operation → List String
  | createNamespace name => [name]
  | createBridge ns bridge => [ns, bridge]
  | setUp ns interface => [ns, interface]
  | enableForwarding ns => [ns]
  | disableReversePathFilter ns => [ns]
  | createVethPair left right => [left, right]
  | move interface ns => [interface, ns]
  | attach ns interface bridge => [ns, interface, bridge]
  | assign ns interface address => [ns, interface, address]

/-- The names of interfaces among them, bridges included. -/
def Operation.interfaces : Operation → List String
  | createNamespace _ => []
  | createBridge _ bridge => [bridge]
  | setUp _ interface => [interface]
  | enableForwarding _ => []
  | disableReversePathFilter _ => []
  | createVethPair left right => [left, right]
  | move interface _ => [interface]
  | attach _ interface bridge => [interface, bridge]
  | assign _ interface _ => [interface]

/-- The address among them, if there is one. -/
def Operation.address? : Operation → Option String
  | assign _ _ address => some address
  | _ => none

variable {op : Operation} {argument field name : String} {t : Topology} {c : Circuit}

/-- A setting is made by a loop of the shell. -/
def Operation.isSetting : Operation → Bool
  | enableForwarding _ => true
  | disableReversePathFilter _ => true
  | _ => false

/-- There are no other texts than these three kinds. -/
theorem Operation.mem_fields_iff :
    field ∈ op.fields ↔
      op.namespace? = some field ∨ field ∈ op.interfaces ∨ op.address? = some field := by
  cases op
  all_goals
    simp only [fields, namespace?, interfaces, address?, List.mem_cons, List.not_mem_nil,
      Option.some.injEq, reduceCtorEq]
    grind

theorem Operation.eq_assign_of_address? (h : op.address? = some field) :
    ∃ ns interface, op = .assign ns interface field := by
  cases op with
  | assign ns interface address =>
    cases h
    exact ⟨ns, interface, rfl⟩
  | _ => cases h

namespace Command

theorem ofOperation_ne_nil (op : Operation) : ofOperation op ≠ [] := by
  cases op
  all_goals exact List.cons_ne_nil _ _

/-- The arguments that no operation has to supply. -/
def ownWords : List String :=
  ["ip", "netns", "add", "exec", "link", "name", "type", "bridge", "set", "up", "dev", "bash",
    "-c", settingLoop "1" "forwarding", settingLoop "0" "rp_filter", "veth", "peer", "master",
    "addr"]

theorem mem_fields_or_ownWords (h : argument ∈ ofOperation op) :
    argument ∈ op.fields ∨ argument ∈ ownWords := by
  cases op
  all_goals
    simp only [ofOperation, inNamespace, Operation.fields, ownWords, List.mem_append,
      List.mem_cons, List.not_mem_nil, or_false] at h ⊢
    grind

/-- Only the loop of a setting has spaces of its own. -/
theorem mem_fields_or_no_space (hsetting : op.isSetting = false) (h : argument ∈ ofOperation op) :
    argument ∈ op.fields ∨ argument ∈ ownWords ∧ ' ' ∉ argument.toList := by
  by_cases hspace : ' ' ∈ argument.toList
  · have hne {word : String} (hword : ' ' ∉ word.toList) : argument ≠ word := fun heq =>
      hword (heq ▸ hspace)
    refine .inl ?_
    cases op with
    | enableForwarding ns => cases hsetting
    | disableReversePathFilter ns => cases hsetting
    | _ => simpa [ofOperation, inNamespace, Operation.fields, hne, or_comm] using h
  · exact (mem_fields_or_ownWords h).imp_right fun hword => ⟨hword, hspace⟩

theorem mem_ofOperation (h : field ∈ op.fields) : field ∈ ofOperation op := by
  cases op
  all_goals
    simp only [ofOperation, inNamespace, Operation.fields, List.mem_append, List.mem_cons,
      List.not_mem_nil, or_false] at h ⊢
    grind

end Command

namespace Plan

theorem mem_fields_segment (hop : op ∈ segment name) (hfield : field ∈ op.fields) :
    field = name ∨ field = bridgeName := by
  rcases mem_segment_iff.mp hop with rfl | rfl | rfl
  · exact .inl (List.mem_singleton.mp hfield)
  · exact List.mem_pair.mp hfield
  · exact List.mem_pair.mp hfield

theorem mem_fields_device (hop : op ∈ device name) (hfield : field ∈ op.fields) :
    field = name := by
  rcases mem_device_iff.mp hop with rfl | rfl | rfl
  all_goals exact List.mem_singleton.mp hfield

theorem mem_fields_flatMap_segment {names : List String} (hop : op ∈ names.flatMap segment)
    (hfield : field ∈ op.fields) : field ∈ names ∨ field = bridgeName := by
  obtain ⟨s, hs, hop⟩ := List.mem_flatMap.mp hop
  rcases mem_fields_segment hop hfield with rfl | hbridge
  · exact .inl hs
  · exact .inr hbridge

theorem mem_fields_flatMap_device {names : List String} (hop : op ∈ names.flatMap device)
    (hfield : field ∈ op.fields) : field ∈ names := by
  obtain ⟨d, hd, hop⟩ := List.mem_flatMap.mp hop
  rwa [mem_fields_device hop hfield]

end Plan

/-! ## Where the texts of a plan come from -/

/-- The operation takes effect in one of these namespaces, and the interfaces it is about
are bridges of segments or have one of these names. -/
structure Operation.Concerns (op : Operation) (names interfaces : List String) : Prop where
  mem_names : ∀ ns, op.namespace? = some ns → ns ∈ names
  mem_interfaces : ∀ interface ∈ op.interfaces, interface = bridgeName ∨ interface ∈ interfaces

theorem Operation.Concerns.mono {names names' interfaces interfaces' : List String}
    (h : op.Concerns names interfaces) (hnames : names ⊆ names')
    (hinterfaces : interfaces ⊆ interfaces') : op.Concerns names' interfaces' where
  mem_names ns hns := hnames (h.mem_names ns hns)
  mem_interfaces interface hi := (h.mem_interfaces interface hi).imp_right fun hmem =>
    hinterfaces hmem

namespace Plan

theorem concerns_segment (hop : op ∈ segment name) : op.Concerns [name] [] := by
  rcases mem_segment_iff.mp hop with rfl | rfl | rfl
  all_goals
    constructor
    · simp [Operation.namespace?]
    · simp [Operation.interfaces]

theorem concerns_device (hop : op ∈ device name) : op.Concerns [name] [] := by
  rcases mem_device_iff.mp hop with rfl | rfl | rfl
  all_goals
    constructor
    · simp [Operation.namespace?]
    · simp [Operation.interfaces]

theorem concerns_circuit (hop : op ∈ circuit c) :
    op.Concerns [c.a, c.b] [c.interfaces.1, c.interfaces.2] := by
  rcases mem_circuit hop with rfl | (rfl | rfl) | (rfl | rfl) | rfl | ⟨address, rfl | rfl⟩
  all_goals
    constructor
    · simp [Operation.namespace?]
    · simp [Operation.interfaces]

end Plan

namespace Topology.WellFormed

theorem concerns (hw : t.WellFormed) (hop : op ∈ t.plan) :
    op.Concerns t.namespaces (Circuit.interfaceNames t.circuits) := by
  rcases mem_plan_iff.mp hop with ⟨s, hs, hop⟩ | ⟨d, hd, hop⟩ | ⟨c, hc, hop⟩
  · refine (Plan.concerns_segment hop).mono ?_ (List.nil_subset _)
    exact List.cons_subset.mpr ⟨List.mem_append_left _ hs, List.nil_subset _⟩
  · refine (Plan.concerns_device hop).mono ?_ (List.nil_subset _)
    exact List.cons_subset.mpr ⟨List.mem_append_right _ hd, List.nil_subset _⟩
  · refine (Plan.concerns_circuit hop).mono ?_ ?_
    · intro ns hns
      rcases List.mem_pair.mp hns with rfl | rfl
      · exact (hw.admits c hc).a_mem_namespaces
      · exact (hw.admits c hc).b_mem_namespaces
    · intro interface hi
      exact Circuit.mem_interfaceNames.mpr ⟨c, hc, List.mem_pair.mp hi⟩

theorem mem_fields (hw : t.WellFormed) (hop : op ∈ t.plan) (hfield : field ∈ op.fields) :
    field ∈ t.namespaces ∨ field = bridgeName ∨ field ∈ Circuit.interfaceNames t.circuits ∨
      ∃ ns interface, op = .assign ns interface field := by
  rcases Operation.mem_fields_iff.mp hfield with hns | hinterface | haddress
  · exact .inl ((hw.concerns hop).mem_names field hns)
  · rcases (hw.concerns hop).mem_interfaces field hinterface with hbridge | hend
    · exact .inr (.inl hbridge)
    · exact .inr (.inr (.inl hend))
  · exact .inr (.inr (.inr (Operation.eq_assign_of_address? haddress)))

end Topology.WellFormed

/-! ## Where a namespace is created -/

/-- A namespace is a segment, or a device with all the segments before it. -/
theorem Topology.segments_or_devices_eq_append {before after : List String}
    (hsplit : t.namespaces = before ++ name :: after) :
    (∃ later, t.segments = before ++ name :: later) ∨
      ∃ devices, before = t.segments ++ devices ∧ t.devices = devices ++ name :: after := by
  rcases List.append_eq_append_iff.mp hsplit with ⟨devices, hbefore, hdevices⟩ |
    ⟨segments, hsegments, hafter⟩
  · exact .inr ⟨devices, hbefore, hdevices⟩
  · cases segments with
    | nil =>
      rw [List.append_nil] at hsegments
      exact .inr ⟨[], by rw [hsegments, List.append_nil], hafter.symm⟩
    | cons s later =>
      rw [List.cons_append, List.cons.injEq] at hafter
      obtain ⟨rfl, -⟩ := hafter
      exact .inl ⟨later, hsegments⟩

/-- What stands before the creation of a namespace is the building of those before it. -/
theorem Topology.exists_plan_eq_append {before after : List String}
    (hsplit : t.namespaces = before ++ name :: after) :
    ∃ done rest, t.plan = done ++ .createNamespace name :: rest ∧
      done.length = 3 * before.length ∧
      ∀ op ∈ done, ∀ field ∈ op.fields, field ∈ before ∨ field = bridgeName := by
  rcases segments_or_devices_eq_append hsplit with ⟨later, hsegments⟩ |
    ⟨devices, rfl, hdevices⟩
  · refine ⟨before.flatMap Plan.segment, (Plan.segment name).tail ++
      later.flatMap Plan.segment ++ t.devices.flatMap Plan.device ++
      t.circuits.flatMap Plan.circuit, ?_, Plan.length_flatMap Plan.length_segment before,
      fun _ hop _ hfield => Plan.mem_fields_flatMap_segment hop hfield⟩
    simp [t.plan_eq, hsegments, Plan.segment]
  · refine ⟨t.segments.flatMap Plan.segment ++ devices.flatMap Plan.device,
      (Plan.device name).tail ++ after.flatMap Plan.device ++ t.circuits.flatMap Plan.circuit,
      ?_, ?_, fun op hop field hfield => ?_⟩
    · simp [t.plan_eq, hdevices, Plan.device]
    · rw [List.length_append, Plan.length_flatMap Plan.length_segment,
        Plan.length_flatMap Plan.length_device, List.length_append, Nat.mul_add]
    · rw [List.mem_append]
      rcases List.mem_append.mp hop with hop | hop
      · exact (Plan.mem_fields_flatMap_segment hop hfield).imp_left .inl
      · exact .inl (.inr (Plan.mem_fields_flatMap_device hop hfield))

end Testbed
