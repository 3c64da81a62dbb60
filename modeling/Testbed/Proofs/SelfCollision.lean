import Testbed.Proofs.Buildable
import Testbed.Proofs.FirstViolation
import Testbed.Text.Powers

/-!
# Circuits that collide with themselves

The interfaces at the two ends of a circuit are called after the same two namespaces in
opposite order, so they have different names as a rule. They have the same name if and only
if both namespaces repeat one word with dashes between (`interfaceName_comm_iff`), like `x`
and `x-x`. Such a circuit needs no other one to be refused: its second name is looked up when
its first one has been claimed, and is found to be its own. That is the only way in which a
circuit is reported as colliding with itself.
-/

namespace Testbed

namespace Circuit

variable {a b : String}

/-- A word that many times, with dashes between. -/
def chained (w : String) (n : Nat) : String :=
  "-".intercalate (List.replicate n w)

/-- The two names repeat one word. -/
def Akin (a b : String) : Prop :=
  ∃ w i j, 1 ≤ i ∧ 1 ≤ j ∧ a = chained w i ∧ b = chained w j

theorem toList_chained (w : String) (n : Nat) :
    (chained w n).toList = ['-'].intercalate (List.replicate n w.toList) := by
  rw [chained, String.toList_intercalate, List.map_replicate]
  rfl

theorem eq_chained_iff {w : String} {n : Nat} :
    a = chained w n ↔ a.toList = ['-'].intercalate (List.replicate n w.toList) := by
  rw [← toList_chained, String.toList_inj]

theorem akin_iff : Akin a b ↔ ∃ w i j,
    a.toList = ['-'].intercalate (List.replicate (i + 1) w) ∧
      b.toList = ['-'].intercalate (List.replicate (j + 1) w) := by
  constructor
  · rintro ⟨w, i, j, hi, hj, ha, hb⟩
    obtain ⟨i, rfl⟩ := Nat.exists_eq_add_of_le' hi
    obtain ⟨j, rfl⟩ := Nat.exists_eq_add_of_le' hj
    exact ⟨w.toList, i, j, eq_chained_iff.mp ha, eq_chained_iff.mp hb⟩
  · rintro ⟨w, i, j, ha, hb⟩
    rw [← String.toList_ofList (l := w), ← eq_chained_iff] at ha hb
    exact ⟨String.ofList w, i + 1, j + 1, Nat.le_add_left _ _, Nat.le_add_left _ _, ha, hb⟩

theorem interfaceName_comm_iff : interfaceName a b = interfaceName b a ↔ Akin a b := by
  have htext (here there : String) :
      (interfaceName here there).toList = here.toList ++ ['-'] ++ there.toList := by
    simp [interfaceName]
  rw [← String.toList_inj, htext, htext, Text.append_sep_comm_iff, akin_iff]

end Circuit

open Circuit (Akin interfaceName_comm_iff)

namespace Topology

variable {t : Topology} {earlier : List Circuit} {c : Circuit} {k : Nat}

/-- A circuit that owns the name it is refused for is named alike at both ends. -/
theorem foremost_self_iff :
    (∃ name, Objections.Foremost (CircuitObjection t) earlier c (.interfaceCollision name k k)) ↔
      earlier.length = k ∧ Objections.Clear (CircuitObjection t) earlier c 9 ∧
        c.interfaces.1 = c.interfaces.2 := by
  constructor
  · rintro ⟨name, rank, hobjects, hclear⟩
    cases hobjects with
    | takenAtA hholds => exact absurd hholds.lt_length (Nat.lt_irrefl _)
    | takenAtB hholds =>
      rcases hholds with hholds | ⟨-, hsame⟩
      · exact absurd hholds.lt_length (Nat.lt_irrefl _)
      · exact ⟨rfl, hclear, hsame.symm⟩
  · rintro ⟨rfl, hclear, hsame⟩
    exact ⟨_, 9, .takenAtB (.inr ⟨rfl, hsame.symm⟩), hclear⟩

theorem validate_eq_self_collision_iff :
    (∃ name, t.validate = .error (.interfaceCollision name k k)) ↔
      Objections.Passes NameObjection t.namespaces ∧
        ∃ earlier c later, t.circuits = earlier ++ c :: later ∧ earlier.length = k ∧
          Objections.Passes (CircuitObjection t) earlier ∧
          Objections.Clear (CircuitObjection t) earlier c 9 ∧ c.a ≠ c.b ∧ Akin c.a c.b := by
  constructor
  · rintro ⟨name, hv⟩
    obtain ⟨hnames, earlier, c, later, hsplit, hpasses, hforemost⟩ :=
      firstOffence_of_validate hv (fun _ => nofun) fun _ => nofun
    obtain ⟨hlength, hclear, hsame⟩ := foremost_self_iff.mp ⟨name, hforemost⟩
    have hne : c.a ≠ c.b := fun hloop => hclear 3 (by decide) _ (.selfLoop hloop)
    exact ⟨hnames, earlier, c, later, hsplit, hlength, hpasses, hclear, hne,
      interfaceName_comm_iff.mp hsame⟩
  · rintro ⟨hnames, earlier, c, later, hsplit, hlength, hpasses, hclear, -, hakin⟩
    obtain ⟨name, hforemost⟩ :=
      foremost_self_iff.mpr ⟨hlength, hclear, interfaceName_comm_iff.mpr hakin⟩
    exact ⟨name, validate_eq_error_iff.mpr
      (.inr ⟨hnames, earlier, c, later, hsplit, hpasses, hforemost⟩)⟩

theorem WellFormed.not_akin (hw : t.WellFormed) (hc : c ∈ t.circuits) : ¬ Akin c.a c.b := by
  rw [← interfaceName_comm_iff]
  exact (hw.supports hc).2.1

/-- The ends of a circuit get one name if and only if their namespaces repeat one word. That
is what a report of a circuit that collides with itself comes from, and no topology with such
a circuit is accepted. -/
theorem ends_named_alike_iff :
    (∀ a b : String, a ++ "-" ++ b = b ++ "-" ++ a ↔
      ∃ w i j, 1 ≤ i ∧ 1 ≤ j ∧ a = "-".intercalate (List.replicate i w) ∧
        b = "-".intercalate (List.replicate j w)) ∧
    ∀ t : Topology,
      (∀ k, (∃ name, t.validate = .error (.interfaceCollision name k k)) ↔
        Objections.Passes NameObjection t.namespaces ∧
          ∃ earlier c later, t.circuits = earlier ++ c :: later ∧ earlier.length = k ∧
            Objections.Passes (CircuitObjection t) earlier ∧
            Objections.Clear (CircuitObjection t) earlier c 9 ∧ c.a ≠ c.b ∧ Akin c.a c.b) ∧
      ∀ c ∈ t.circuits, Akin c.a c.b → t.validate ≠ .ok () :=
  ⟨fun _ _ => interfaceName_comm_iff, fun _ => ⟨fun _ => validate_eq_self_collision_iff,
    fun _ hc hakin hv => (validate_eq_ok_iff.mp hv).not_akin hc hakin⟩⟩

/-- The word that both names of the circuit repeat has a dash of its own. -/
def selfColliding : Topology where
  devices := ["x-y", "x-y-x-y-x-y"]
  circuits := [⟨"x-y", "x-y-x-y-x-y", .pointToPoint "10.0.1."⟩]

theorem ends_named_alike_iff_selfColliding :
    Akin "x-y" "x-y-x-y-x-y" ∧ selfColliding.validate ≠ .ok () ∧
      selfColliding.validate = .error (.interfaceCollision "x-y-x-y-x-y-x-y" 0 0) ∧
      ∃ earlier c later, selfColliding.circuits = earlier ++ c :: later ∧ earlier.length = 0 ∧
        c.a ≠ c.b ∧ Akin c.a c.b := by
  obtain ⟨hnames, htopologies⟩ := ends_named_alike_iff
  obtain ⟨hcollision, hrefused⟩ := htopologies selfColliding
  have hakin : Akin "x-y" "x-y-x-y-x-y" := (hnames _ _).mp rfl
  have hv : selfColliding.validate = .error (.interfaceCollision "x-y-x-y-x-y-x-y" 0 0) := rfl
  obtain ⟨-, earlier, c, later, hsplit, hlength, -, -, hne, hakin'⟩ := (hcollision 0).mp ⟨_, hv⟩
  exact ⟨hakin, hrefused _ List.mem_cons_self hakin, hv, earlier, c, later, hsplit, hlength, hne,
    hakin'⟩

end Topology

end Testbed
