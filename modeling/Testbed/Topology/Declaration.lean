import Testbed.Topology.Basic

/-!
# Declarations

A topology grows by one declaration after the other. A circuit is declared in one of two
ways: by where it leads and with an address, in which case what was declared so far decides
how the address is meant, or as it is, with its addressing.

A declaration adds to the end of one of the three lists. It takes nothing back and looks at
nothing but the segments, so a circuit that was added stays where it is (`circuits_prefix`),
and a segment that comes too late for a circuit does not reach it any more.
-/

namespace Testbed

inductive Declaration where
  | device (name : String)
  | segment (name : String)
  /-- A circuit whose addressing follows from where it leads. -/
  | connection (a b address : String)
  /-- A circuit whose addressing is given. -/
  | circuit (c : Circuit)
  deriving DecidableEq

namespace Topology

def declare (t : Topology) : Declaration → Topology
  | .device name => t.addDevice name
  | .segment name => t.addSegment name
  | .connection a b address => t.connect a b address
  | .circuit c => t.addCircuit c

def declareAll (t : Topology) (ds : List Declaration) : Topology :=
  ds.foldl declare t

/-- The topology of which this and nothing else was declared. -/
def ofDeclarations (ds : List Declaration) : Topology :=
  declareAll {} ds

/-- The circuit that is added by the declaration, if it is one of a circuit. -/
def circuitOf? (t : Topology) : Declaration → Option Circuit
  | .connection a b address => some ⟨a, b, t.addressingTo b address⟩
  | .circuit c => some c
  | _ => none

variable {t : Topology} {earlier later ds : List Declaration} {d : Declaration}

theorem declareAll_cons : t.declareAll (d :: ds) = (t.declare d).declareAll ds :=
  List.foldl_cons

theorem declareAll_append : t.declareAll (earlier ++ later) =
    (t.declareAll earlier).declareAll later :=
  List.foldl_append

theorem ofDeclarations_append : ofDeclarations (earlier ++ later) =
    (ofDeclarations earlier).declareAll later :=
  declareAll_append

theorem circuits_declare : (t.declare d).circuits = t.circuits ++ (t.circuitOf? d).toList := by
  cases d with
  | device name => exact (List.append_nil _).symm
  | segment name => exact (List.append_nil _).symm
  | connection a b address => rfl
  | circuit c => rfl

theorem mem_segments_declare {name : String} :
    name ∈ (t.declare d).segments ↔ name ∈ t.segments ∨ d = .segment name := by
  cases d with
  | segment other => simp [declare, addSegment, eq_comm]
  | device other => simp [declare, addDevice]
  | connection a b address => simp [declare, connect, addCircuit]
  | circuit c => simp [declare, addCircuit]

theorem mem_segments_declareAll {name : String} :
    name ∈ (t.declareAll ds).segments ↔ name ∈ t.segments ∨ .segment name ∈ ds := by
  induction ds generalizing t with
  | nil => simp [declareAll]
  | cons d ds ih =>
    rw [declareAll_cons, ih, mem_segments_declare, List.mem_cons, or_assoc, eq_comm (a := d)]

@[simp]
theorem mem_segments_ofDeclarations {name : String} :
    name ∈ (ofDeclarations ds).segments ↔ .segment name ∈ ds := by
  rw [ofDeclarations, mem_segments_declareAll]
  exact or_iff_right List.not_mem_nil

theorem circuits_prefix : t.circuits <+: (t.declareAll ds).circuits := by
  induction ds generalizing t with
  | nil => exact List.prefix_refl _
  | cons d ds ih =>
    have hstep : t.circuits <+: (t.declare d).circuits := by
      rw [circuits_declare]
      exact List.prefix_append _ _
    rw [declareAll_cons]
    exact hstep.trans ih

/-- Every circuit of the topology was added by one of the declarations. -/
theorem mem_circuits_declareAll {c : Circuit} :
    c ∈ (t.declareAll ds).circuits ↔
      c ∈ t.circuits ∨ ∃ earlier d later, ds = earlier ++ d :: later ∧
        (t.declareAll earlier).circuitOf? d = some c := by
  induction ds generalizing t with
  | nil => simp [declareAll]
  | cons d ds ih =>
    rw [declareAll_cons, ih, circuits_declare, List.mem_append, Option.mem_toList, or_assoc]
    refine or_congr_right ⟨?_, ?_⟩
    · rintro (hd | ⟨earlier, d', later, rfl, hd'⟩)
      · exact ⟨[], d, ds, rfl, hd⟩
      · exact ⟨d :: earlier, d', later, rfl, hd'⟩
    · rintro ⟨_ | ⟨d'', earlier⟩, d', later, hds, hd'⟩
      · obtain ⟨rfl, -⟩ := List.cons.inj hds
        exact .inl hd'
      · obtain ⟨rfl, rfl⟩ := List.cons.inj hds
        exact .inr ⟨earlier, d', later, rfl, hd'⟩

end Topology

end Testbed
