import Testbed.Proofs.Documents
import Testbed.Proofs.WellFormed
import Testbed.Proofs.Written

/-!
# What a document keeps of a topology

A document that was written is read back as it was, whatever its texts are: nothing is
asked of names or addresses, and a quote, a control character or a character outside
the first plane is no worse than a letter.

A topology says more than its document. The document leaves out how the address of a
circuit is meant, and a reader decides it by where the circuit leads. So what comes back
is the topology with every circuit connected anew (`reconnected`), and it is the same
topology exactly if every addressing was what connecting would have made of it.
Validation asks for that, so a valid topology comes back as it was.
-/

namespace Testbed

/-! ## Documents -/

namespace Document

open Json

theorem Entry.writes_print (entry : Entry) (depth : Nat) : Writes (entry.print depth) entry := by
  refine ⟨printString entry.a, printString entry.b, printString entry.address,
    writesString_printString _, writesString_printString _, writesString_printString _, ?_⟩
  exact writesRecord_printObject _ depth [("a", _), ("b", _), ("address", _)]

theorem writes_print (d : Document) : Writes d.print.toList d := by
  have hnames (names : List String) := writesList_printList writesString_printString 1 names
  have hcircuits := writesList_printList (fun entry => Entry.writes_print entry 2) 1 d.circuits
  refine ⟨_, _, _, .written (hnames d.devices), .written (hnames d.segments),
    .written hcircuits, ?_⟩
  rw [print, String.toList_ofList]
  exact writesRecord_printObject _ 0 [("devices", _), ("segments", _), ("circuits", _)]

/-- A document is read back, also with blanks behind it. -/
theorem parse_print_append (d : Document) {gap : String} (hgap : Blank gap.toList) :
    parse (d.print ++ gap) = .ok d :=
  parse_of_writesWhole ⟨[], _, _, blank_nil, hgap, d.writes_print, by simp⟩

end Document

/-! ## Topologies -/

namespace Topology

variable {t : Topology}

/-- The topology with its circuits connected again, to the same ends and by the same
texts. -/
def reconnected (t : Topology) : Topology :=
  { t with circuits := t.circuits.map fun c =>
      ⟨c.a, c.b, t.addressingTo c.b c.addressing.text⟩ }

theorem toTopology_ofTopology (t : Topology) :
    (Document.ofTopology t).toTopology = t.reconnected := by
  rw [Document.toTopology, foldl_connect]
  simp only [Document.ofTopology, reconnected, List.nil_append, List.map_map]
  rfl

theorem parse_print_append (t : Topology) {gap : String} (hgap : Json.Blank gap.toList) :
    parse (t.print ++ gap) = .ok t.reconnected := by
  rw [parse, print, Document.parse_print_append _ hgap, ← t.toTopology_ofTopology]

theorem parse_print (t : Topology) : parse t.print = .ok t.reconnected := by
  have hempty : Json.Blank "".toList := Json.blank_nil
  simpa using t.parse_print_append hempty

theorem addressingTo_text_eq_iff {c : Circuit} :
    t.addressingTo c.b c.addressing.text = c.addressing ↔
      (c.addressing.isBridged = true ↔ c.b ∈ t.segments) := by
  rw [addressingTo]
  cases c.addressing with
  | bridged address => simp [Addressing.isBridged, Addressing.text]
  | pointToPoint block => simp [Addressing.isBridged, Addressing.text]

theorem reconnected_eq_self_iff :
    t.reconnected = t ↔ ∀ c ∈ t.circuits, (c.addressing.isBridged = true ↔ c.b ∈ t.segments) := by
  have hcircuits : t.reconnected = t ↔ t.reconnected.circuits = t.circuits.map id := by
    cases t
    simp [reconnected]
  rw [hcircuits, reconnected, List.map_inj_left]
  refine forall₂_congr fun c _ => ?_
  rw [← addressingTo_text_eq_iff, id, Circuit.mk.injEq]
  exact ⟨fun h => h.2.2, fun h => ⟨rfl, rfl, h⟩⟩

theorem WellFormed.reconnected_eq_self (hw : t.WellFormed) : t.reconnected = t :=
  reconnected_eq_self_iff.mpr fun c hc => (hw.admits c hc).isBridged_iff

/-- Reading what was written always succeeds, and it returns the topology itself if and
only if no addressing was lost. -/
theorem parse_print_exact (t : Topology) :
    (∃ t', parse t.print = .ok t' ∧ t'.devices = t.devices ∧ t'.segments = t.segments ∧
      t'.circuits = t.circuits.map fun c =>
        ⟨c.a, c.b, if c.b ∈ t.segments then .bridged c.addressing.text
          else .pointToPoint c.addressing.text⟩) ∧
    (parse t.print = .ok t ↔
      ∀ c ∈ t.circuits, (c.addressing.isBridged = true ↔ c.b ∈ t.segments)) ∧
    (t.validate = .ok () → parse t.print = .ok t) := by
  rw [parse_print, Except.ok.injEq]
  refine ⟨⟨t.reconnected, rfl, rfl, rfl, rfl⟩, reconnected_eq_self_iff, fun hv => ?_⟩
  exact (validate_eq_ok_iff.mp hv).reconnected_eq_self

/-- A valid topology whose names are not written as they are. -/
def escapedNames : Topology where
  devices := ["\"", "\\\x01"]
  segments := ["é😀"]
  circuits := [
    ⟨"\"", "é😀", .bridged "10.0.0.1/24"⟩,
    ⟨"\"", "\\\x01", .pointToPoint "10.0.1."⟩]

theorem parse_print_exact_escapedNames :
    escapedNames.validate = .ok () ∧ parse escapedNames.print = .ok escapedNames := by
  have hv : escapedNames.validate = .ok () := rfl
  exact ⟨hv, (parse_print_exact escapedNames).2.2 hv⟩

end Topology

end Testbed
