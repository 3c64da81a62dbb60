import Testbed.Proofs.Dumps
import Testbed.Proofs.FirstViolation
import Testbed.Topology.Declaration

/-!
# When it is settled how an address is meant

A circuit that is declared by where it leads is bridged if and only if that segment was
declared before it. This is settled at that moment. Whatever is declared later leaves the
circuit as it is and where it is, and that goes for the very segment that would have made it
bridged: then the circuit and the name it leads to disagree for good, and validation finds
out (`exists_mismatch_iff`).

A topology that was read has no such circuit. A reader connects the circuits when it has all
names, in whatever order the document lists them, so connecting them again would change
nothing (`reconnected_toTopology`), and that is to say that all of them agree.
-/

namespace Testbed.Topology

variable {t : Topology} {ds : List Declaration} {b address : String}

theorem isBridged_addressingTo :
    (t.addressingTo b address).isBridged = true ↔ b ∈ t.segments := by
  rw [addressingTo]
  split
  · next hb => exact iff_of_true rfl hb
  · next hb => exact iff_of_false Bool.false_ne_true hb

theorem text_addressingTo : (t.addressingTo b address).text = address := by
  rw [addressingTo]
  split
  · rfl
  · rfl

/-- With no circuit given as it is, every circuit was connected. -/
theorem mem_circuits_iff_of_connected (hconnected : ∀ c, .circuit c ∉ ds) :
    c ∈ (ofDeclarations ds).circuits ↔
      ∃ earlier a b address later, ds = earlier ++ .connection a b address :: later ∧
        c = ⟨a, b, (ofDeclarations earlier).addressingTo b address⟩ := by
  rw [ofDeclarations, mem_circuits_declareAll, or_iff_right List.not_mem_nil]
  constructor
  · rintro ⟨earlier, d, later, rfl, hd⟩
    cases d with
    | device name => cases hd
    | segment name => cases hd
    | connection a b address =>
      exact ⟨earlier, a, b, address, later, rfl, (Option.some.inj hd).symm⟩
    | circuit c => exact absurd (List.mem_append_right _ List.mem_cons_self) (hconnected c)
  · rintro ⟨earlier, a, b, address, later, rfl, rfl⟩
    exact ⟨earlier, _, later, rfl, rfl⟩

/-- A circuit disagrees with where it leads if and only if its segment came too late. -/
theorem exists_mismatch_iff (hconnected : ∀ c, .circuit c ∉ ds) :
    (∃ c ∈ (ofDeclarations ds).circuits,
        ¬ (c.addressing.isBridged = true ↔ c.b ∈ (ofDeclarations ds).segments)) ↔
      ∃ earlier a b address later, ds = earlier ++ .connection a b address :: later ∧
        .segment b ∉ earlier ∧ .segment b ∈ later := by
  -- A segment that was declared by then stays declared.
  have hlate {earlier later : List Declaration} {a b address : String}
      (hds : ds = earlier ++ .connection a b address :: later) :
      ¬ (.segment b ∈ earlier ↔ .segment b ∈ ds) ↔ .segment b ∉ earlier ∧ .segment b ∈ later := by
    have hmem : .segment b ∈ ds ↔ .segment b ∈ earlier ∨ .segment b ∈ later := by simp [hds]
    rw [hmem]
    by_cases hearlier : .segment b ∈ earlier
    · simp [hearlier]
    · simp [hearlier]
  constructor
  · rintro ⟨c, hc, hmismatch⟩
    obtain ⟨earlier, a, b, address, later, hds, rfl⟩ :=
      (mem_circuits_iff_of_connected hconnected).mp hc
    rw [isBridged_addressingTo, mem_segments_ofDeclarations, mem_segments_ofDeclarations]
      at hmismatch
    exact ⟨earlier, a, b, address, later, hds, (hlate hds).mp hmismatch⟩
  · rintro ⟨earlier, a, b, address, later, hds, hsegment⟩
    refine ⟨_, (mem_circuits_iff_of_connected hconnected).mpr
      ⟨earlier, a, b, address, later, hds, rfl⟩, ?_⟩
    rw [isBridged_addressingTo, mem_segments_ofDeclarations, mem_segments_ofDeclarations]
    exact (hlate hds).mpr hsegment

theorem exists_mismatch_of_validate {i : Nat} {addressing : Addressing}
    (hv : t.validate = .error (.addressingMismatch i b addressing)) :
    ∃ c ∈ t.circuits, ¬ (c.addressing.isBridged = true ↔ c.b ∈ t.segments) := by
  obtain ⟨-, earlier, c, later, hsplit, -, _, hobjects, -⟩ :=
    firstOffence_of_validate hv (fun _ => nofun) fun _ => nofun
  cases hobjects with
  | addressingMismatch hmismatch =>
    exact ⟨c, hsplit ▸ List.mem_append_right _ List.mem_cons_self, hmismatch⟩

/-- A circuit is bridged by what was declared before it and by nothing else, so only a
segment that is declared after a circuit to it makes the two disagree. No document does. -/
theorem addressing_settled_when_declared :
    (∀ earlier a b address, ∃ c : Circuit,
      (c.a = a ∧ c.b = b ∧ c.addressing.text = address) ∧
      (c.addressing.isBridged = true ↔ .segment b ∈ earlier) ∧
      (ofDeclarations (earlier ++ [.connection a b address])).circuits =
        (ofDeclarations earlier).circuits ++ [c] ∧
      ∀ later, (ofDeclarations earlier).circuits ++ [c] <+:
        (ofDeclarations (earlier ++ .connection a b address :: later)).circuits) ∧
    (∀ ds, (∀ c, .circuit c ∉ ds) →
      ((∃ c ∈ (ofDeclarations ds).circuits,
          ¬ (c.addressing.isBridged = true ↔ c.b ∈ (ofDeclarations ds).segments)) ↔
        ∃ earlier a b address later, ds = earlier ++ .connection a b address :: later ∧
          .segment b ∉ earlier ∧ .segment b ∈ later)) ∧
    ∀ text t, parse text = .ok t →
      (∀ c ∈ t.circuits, (c.addressing.isBridged = true ↔ c.b ∈ t.segments)) ∧
      ∀ i b addressing, t.validate ≠ .error (.addressingMismatch i b addressing) := by
  refine ⟨fun earlier a b address => ?_, fun ds => exists_mismatch_iff, fun text t hparse => ?_⟩
  · have hadded : ((ofDeclarations earlier).declare (.connection a b address)).circuits =
        (ofDeclarations earlier).circuits ++
          [⟨a, b, (ofDeclarations earlier).addressingTo b address⟩] := circuits_declare
    refine ⟨⟨a, b, (ofDeclarations earlier).addressingTo b address⟩, ⟨rfl, rfl, text_addressingTo⟩,
      isBridged_addressingTo.trans mem_segments_ofDeclarations, ?_, fun later => ?_⟩
    · rw [ofDeclarations_append]
      exact hadded
    · rw [ofDeclarations_append, declareAll_cons, ← hadded]
      exact circuits_prefix
  · obtain ⟨d, rfl⟩ := exists_toTopology_of_parse hparse
    have hagree := reconnected_eq_self_iff.mp (reconnected_toTopology d)
    refine ⟨hagree, fun i b addressing hv => ?_⟩
    obtain ⟨c, hc, hmismatch⟩ := exists_mismatch_of_validate hv
    exact hmismatch (hagree c hc)

/-- The first circuit comes before its segment, the second one after it. -/
def lateSegment : List Declaration :=
  [.device "r", .device "s", .connection "r" "s" "10.0.1.", .segment "s",
    .connection "r" "s" "10.0.0.1/24"]

def lateLab : Topology := ofDeclarations lateSegment

/-- Written as a document and read again, the lab has no such circuit any more. -/
theorem addressing_settled_when_declared_lateLab :
    (∀ c, .circuit c ∉ lateSegment) ∧
      (∃ c ∈ lateLab.circuits, ¬ (c.addressing.isBridged = true ↔ c.b ∈ lateLab.segments)) ∧
      parse lateLab.print = .ok lateLab.reconnected ∧
      ∀ c ∈ lateLab.reconnected.circuits,
        c.addressing.isBridged = true ↔ c.b ∈ lateLab.reconnected.segments := by
  obtain ⟨-, hmismatch, hdocument⟩ := addressing_settled_when_declared
  have hconnected : ∀ c, .circuit c ∉ lateSegment := by simp [lateSegment]
  have hlate : ∃ earlier a b address later,
      lateSegment = earlier ++ .connection a b address :: later ∧
        .segment b ∉ earlier ∧ .segment b ∈ later :=
    ⟨lateSegment.take 2, "r", "s", "10.0.1.", lateSegment.drop 3, rfl, by decide, by decide⟩
  have hparse := parse_print lateLab
  exact ⟨hconnected, (hmismatch _ hconnected).mpr hlate, hparse, (hdocument _ _ hparse).1⟩

end Testbed.Topology
