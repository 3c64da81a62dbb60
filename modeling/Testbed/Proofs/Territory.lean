import Testbed.Plan
import Testbed.Proofs.Blocks
import Testbed.Proofs.Locality
import Testbed.Proofs.WellFormed

/-!
# Where the parts of a plan write and look

The block of a segment or of a device stays within its own namespace. The block of
a circuit writes four locations, all of which carry one of its two interface names,
and looks besides for its namespaces and for the bridge. So a plan as a whole uses
what belongs to its topology and nothing else, which is what lets one host have a
topology built beside whatever it held before.

The four locations of one circuit are foreign to every other circuit, as far as
writing and looking go, because validation gives each interface name to one
circuit. That is what makes the blocks of two circuits independent.
-/

namespace Testbed

open Location

/-- The locations that a circuit changes on the way. -/
def Circuit.territory (c : Circuit) : Set Location :=
  {.outside c.interfaces.1, .outside c.interfaces.2,
    .inside c.a c.interfaces.1, .inside c.b c.interfaces.2}

/-- The locations that a circuit finds as they are. -/
def Circuit.ground (c : Circuit) : Set Location :=
  {.presence c.a, .presence c.b, .inside c.b bridgeName}

/-- The locations that belong to a topology. -/
def Topology.Owns (t : Topology) : Location → Prop
  | .outside name => name ∈ Circuit.interfaceNames t.circuits
  | .presence ns => ns ∈ t.namespaces
  | .inside ns _ => ns ∈ t.namespaces

variable {op p q : Operation} {l : Location} {c d : Circuit} {t : Topology} {ns : String}

namespace Plan

theorem uses_segment (hop : op ∈ segment ns) : op.uses ⊆ within ns := by
  rcases mem_segment_iff.mp hop with rfl | rfl | rfl
  all_goals
    intro l hl
    rcases hl with hl | hl
    all_goals simp_all [Operation.writes, Operation.consults, within]

theorem uses_device (hop : op ∈ device ns) : op.uses ⊆ within ns := by
  rcases mem_device_iff.mp hop with rfl | rfl | rfl
  all_goals
    intro l hl
    rcases hl with hl | hl
    all_goals simp_all [Operation.writes, Operation.consults, within]

/-- The operations of a circuit, whichever way it is addressed. -/
theorem mem_circuit (hop : op ∈ circuit c) :
    op = .createVethPair c.interfaces.1 c.interfaces.2 ∨
      (op = .move c.interfaces.1 c.a ∨ op = .move c.interfaces.2 c.b) ∨
      (op = .setUp c.a c.interfaces.1 ∨ op = .setUp c.b c.interfaces.2) ∨
      op = .attach c.b c.interfaces.2 bridgeName ∨
      ∃ address, op = .assign c.a c.interfaces.1 address ∨
        op = .assign c.b c.interfaces.2 address := by
  rcases c with ⟨a, b, address | block⟩
  all_goals
    simp only [circuit, addressing, Addressing.ends, List.mem_append, List.mem_cons,
      List.not_mem_nil, or_false] at hop
    rcases hop with (rfl | rfl | rfl | rfl | rfl) | rfl | rfl
    all_goals simp

theorem writes_circuit (hop : op ∈ circuit c) : op.writes ⊆ c.territory := by
  intro l hl
  rw [Circuit.territory]
  rcases mem_circuit hop with rfl | (rfl | rfl) | (rfl | rfl) | rfl | ⟨address, rfl | rfl⟩
  · exact hl.elim .inl fun hr => .inr (.inl hr)
  · exact hl.elim .inl fun hin => .inr (.inr (.inl hin))
  · exact hl.elim (fun hout => .inr (.inl hout)) fun hin => .inr (.inr (.inr hin))
  · exact .inr (.inr (.inl hl))
  · exact .inr (.inr (.inr hl))
  · exact .inr (.inr (.inr hl))
  · exact .inr (.inr (.inl hl))
  · exact .inr (.inr (.inr hl))

theorem consults_circuit (hop : op ∈ circuit c) : op.consults ⊆ c.ground := by
  rcases mem_circuit hop with rfl | (rfl | rfl) | (rfl | rfl) | rfl | ⟨address, rfl | rfl⟩
  all_goals simp [Operation.consults, Circuit.ground]

theorem uses_circuit (hop : op ∈ circuit c) : op.uses ⊆ c.territory ∪ c.ground :=
  Set.union_subset_union (writes_circuit hop) (consults_circuit hop)

end Plan

namespace Topology

theorem Admits.a_mem_namespaces (hc : t.Admits c) : c.a ∈ t.namespaces :=
  List.mem_append_right _ hc.a_mem

theorem Admits.b_mem_namespaces (hc : t.Admits c) : c.b ∈ t.namespaces :=
  List.mem_append.mpr hc.b_mem

theorem owns_of_mem_within (hns : ns ∈ t.namespaces) (hl : l ∈ within ns) : t.Owns l := by
  rcases hl with rfl | ⟨name, rfl⟩
  · exact hns
  · exact hns

theorem WellFormed.owns_territory (hw : t.WellFormed) (hc : c ∈ t.circuits)
    (hl : l ∈ c.territory) : t.Owns l := by
  rcases hl with rfl | rfl | rfl | rfl
  · exact Circuit.mem_interfaceNames.mpr ⟨c, hc, .inl rfl⟩
  · exact Circuit.mem_interfaceNames.mpr ⟨c, hc, .inr rfl⟩
  · exact (hw.admits c hc).a_mem_namespaces
  · exact (hw.admits c hc).b_mem_namespaces

theorem WellFormed.owns_ground (hw : t.WellFormed) (hc : c ∈ t.circuits)
    (hl : l ∈ c.ground) : t.Owns l := by
  rcases hl with rfl | rfl | rfl
  · exact (hw.admits c hc).a_mem_namespaces
  · exact (hw.admits c hc).b_mem_namespaces
  · exact (hw.admits c hc).b_mem_namespaces

/-- No operation of a plan looks at anything that is not the topology's own. -/
theorem WellFormed.owns_of_mem_uses (hw : t.WellFormed) (hop : op ∈ t.plan) (hl : l ∈ op.uses) :
    t.Owns l := by
  rcases mem_plan_iff.mp hop with ⟨s, hs, hop⟩ | ⟨d, hd, hop⟩ | ⟨c, hc, hop⟩
  · exact owns_of_mem_within (List.mem_append_left _ hs) (Plan.uses_segment hop hl)
  · exact owns_of_mem_within (List.mem_append_right _ hd) (Plan.uses_device hop hl)
  · exact (Plan.uses_circuit hop hl).elim (hw.owns_territory hc) (hw.owns_ground hc)

end Topology

/-! ## Circuits side by side -/

/-- The name of the interface that a location is about. -/
def Location.interface? : Location → Option String
  | outside name => some name
  | presence _ => none
  | inside _ name => some name

namespace Circuit

theorem interface?_of_mem_territory (hl : l ∈ c.territory) :
    ∃ name ∈ [c.interfaces.1, c.interfaces.2], l.interface? = some name := by
  rcases hl with rfl | rfl | rfl | rfl
  · exact ⟨_, List.mem_cons_self, rfl⟩
  · exact ⟨_, List.mem_cons_of_mem _ List.mem_cons_self, rfl⟩
  · exact ⟨_, List.mem_cons_self, rfl⟩
  · exact ⟨_, List.mem_cons_of_mem _ List.mem_cons_self, rfl⟩

theorem interface?_of_mem_ground (hl : l ∈ c.ground) :
    l.interface? = none ∨ l.interface? = some bridgeName := by
  rcases hl with rfl | rfl | rfl
  · exact .inl rfl
  · exact .inl rfl
  · exact .inr rfl

/-- No interface of one is called like an interface of the other. -/
def Apart (c d : Circuit) : Prop :=
  List.Disjoint [c.interfaces.1, c.interfaces.2] [d.interfaces.1, d.interfaces.2]

theorem Apart.symm (h : c.Apart d) : d.Apart c :=
  fun _ hd hc => h hc hd

theorem Apart.not_mem_territory (h : c.Apart d) (hc : l ∈ c.territory) : l ∉ d.territory := by
  intro hd
  obtain ⟨name, hname, hl⟩ := interface?_of_mem_territory hc
  obtain ⟨name', hname', hl'⟩ := interface?_of_mem_territory hd
  cases hl.symm.trans hl'
  exact h hname hname'

/-- No circuit changes what another one only looks for. -/
theorem not_mem_ground_of_mem_territory (hc : l ∈ c.territory) : l ∉ d.ground := by
  intro hd
  obtain ⟨name, hname, hl⟩ := interface?_of_mem_territory hc
  have hbridge : name ≠ bridgeName := by
    rcases List.mem_pair.mp hname with rfl | rfl
    · exact interfaceName_ne_bridgeName _ _
    · exact interfaceName_ne_bridgeName _ _
  rcases interface?_of_mem_ground hd with hnone | hsome
  · rw [hl] at hnone
    cases hnone
  · rw [hl, Option.some.injEq] at hsome
    exact hbridge hsome

theorem Apart.not_mem_uses (h : c.Apart d) (hq : q ∈ Plan.circuit d) (hc : l ∈ c.territory) :
    l ∉ q.uses := by
  intro hl
  rcases Plan.uses_circuit hq hl with hd | hd
  · exact h.not_mem_territory hc hd
  · exact not_mem_ground_of_mem_territory hc hd

end Circuit

/-- Whatever circuits that are apart do, each goes unnoticed by the other. -/
theorem Plan.independent_of_apart (h : c.Apart d) (hp : p ∈ Plan.circuit c)
    (hq : q ∈ Plan.circuit d) : p.Independent q :=
  ⟨fun _ hl => h.not_mem_uses hq (writes_circuit hp hl),
    fun _ hl => h.symm.not_mem_uses hp (writes_circuit hq hl)⟩

theorem Topology.WellFormed.pairwise_apart (hw : t.WellFormed) :
    t.circuits.Pairwise Circuit.Apart :=
  (List.nodup_flatMap.mp hw.nodup_interfaces).2

end Testbed
