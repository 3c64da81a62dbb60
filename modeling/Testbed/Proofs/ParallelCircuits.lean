import Testbed.Proofs.Buildable
import Testbed.Proofs.FirstViolation

/-!
# Circuits in parallel

The name of an interface is two names with a dash between them. Where no name holds a dash of
its own, the name of an interface can be taken apart again (`interfaceName_eq_iff`), and two
circuits meet in a name only if they join the same two namespaces, in this direction or in the
other. Then they meet in both of their names. So once everything else is right, validation
refuses exactly the circuits that run in parallel to an earlier one, and reports the first of
them with its partner.

The condition on the dashes carries this. From `a-b` to `c` and from `a` to `b-c` there are two
circuits that join four namespaces and have an interface name in common.
-/

namespace Testbed

/-! ## Names without dashes -/

namespace Circuit

variable {c d : Circuit} {cs earlier later : List Circuit} {i j : Nat}

theorem interfaceName_eq_iff {here there here' there' : String} (hhere : '-' ∉ here.toList)
    (hhere' : '-' ∉ here'.toList) :
    interfaceName here there = interfaceName here' there' ↔ here = here' ∧ there = there' := by
  constructor
  · intro h
    have htext : here.toList ++ '-' :: there.toList = here'.toList ++ '-' :: there'.toList := by
      simpa [interfaceName] using congrArg String.toList h
    have hpieces := congrArg (Text.pieces '-') htext
    rw [Text.pieces_append_cons hhere, Text.pieces_append_cons hhere'] at hpieces
    obtain rfl : here = here' := String.toList_inj.mp (List.cons.inj hpieces).1
    exact ⟨rfl, interfaceName_inj.mp h⟩
  · rintro ⟨rfl, rfl⟩
    rfl

example : interfaceName "a-b" "c" = interfaceName "a" "b-c" := by decide

/-- The two ends of the circuit have no dash in their names. -/
def Undashed (c : Circuit) : Prop :=
  '-' ∉ c.a.toList ∧ '-' ∉ c.b.toList

/-- A circuit has its first interface name in common with those that join the same two. -/
theorem Undashed.fst_mem_iff (hc : c.Undashed) (hd : d.Undashed) :
    d.interfaces.1 = c.interfaces.1 ∨ d.interfaces.1 = c.interfaces.2 ↔ d.joined = c.joined := by
  simp only [interfaces, interfaceName_eq_iff hd.1 hc.1, interfaceName_eq_iff hd.1 hc.2, joined,
    Sym2.eq_iff]

theorem Undashed.snd_mem_iff (hc : c.Undashed) (hd : d.Undashed) :
    d.interfaces.2 = c.interfaces.1 ∨ d.interfaces.2 = c.interfaces.2 ↔ d.joined = c.joined := by
  simp only [interfaces, interfaceName_eq_iff hd.2 hc.1, interfaceName_eq_iff hd.2 hc.2, joined,
    Sym2.eq_swap (a := d.a), Sym2.eq_iff]

theorem Undashed.interfaces_ne (hc : c.Undashed) (hne : c.a ≠ c.b) :
    c.interfaces.1 ≠ c.interfaces.2 := fun h =>
  hne ((interfaceName_eq_iff hc.1 hc.2).mp h).1

/-! ## Two circuits of a list -/

/-- The circuits with these two numbers join the same two namespaces. -/
def Parallel (cs : List Circuit) (i j : Nat) : Prop :=
  i < j ∧ ∃ c d, cs[i]? = some c ∧ cs[j]? = some d ∧ c.joined = d.joined

theorem nodup_joined_iff : (cs.map joined).Nodup ↔ ∀ i j, ¬ Parallel cs i j := by
  rw [List.nodup_iff_getElem?_ne_getElem?]
  constructor
  · rintro hne i j ⟨hlt, c, d, hc, hd, hjoined⟩
    refine hne i j hlt ?_ ?_
    · rw [List.length_map]
      exact (List.getElem?_eq_some_iff.mp hd).1
    · rw [List.getElem?_map, List.getElem?_map, hc, hd, Option.map_some, Option.map_some, hjoined]
  · intro hnone i j hlt hj heq
    rw [List.length_map] at hj
    refine hnone i j ⟨hlt, cs[i], cs[j], List.getElem?_eq_getElem _, List.getElem?_eq_getElem _, ?_⟩
    simpa [hj, Nat.lt_trans hlt hj] using heq

/-- What runs in parallel to the circuit after these has a number below its own. -/
theorem parallel_iff_of_split (hsplit : cs = earlier ++ d :: later) :
    Parallel cs i earlier.length ↔ ∃ c, earlier[i]? = some c ∧ d.joined = c.joined := by
  have hd : cs[earlier.length]? = some d := by simp [hsplit]
  have hearlier (hlt : i < earlier.length) : cs[i]? = earlier[i]? := by
    rw [hsplit, List.getElem?_append_left hlt]
  constructor
  · rintro ⟨hlt, c, d', hc, hd', hjoined⟩
    obtain rfl : d = d' := Option.some.inj (hd.symm.trans hd')
    exact ⟨c, (hearlier hlt).symm.trans hc, hjoined.symm⟩
  · rintro ⟨c, hc, hjoined⟩
    have hlt : i < earlier.length := (List.getElem?_eq_some_iff.mp hc).1
    exact ⟨hlt, c, d, (hearlier hlt).trans hc, hd, hjoined.symm⟩

theorem Parallel.trans_joined {k : Nat} (hi : Parallel cs i k) (hj : Parallel cs j k)
    (hlt : i < j) : Parallel cs i j := by
  obtain ⟨-, c, e, hc, he, hjoined⟩ := hi
  obtain ⟨-, d, e', hd, he', hjoined'⟩ := hj
  obtain rfl : e = e' := Option.some.inj (he.symm.trans he')
  exact ⟨hlt, c, d, hc, hd, hjoined.trans hjoined'.symm⟩

end Circuit

/-! ## What is left to be wrong -/

open Circuit (Parallel)

namespace Topology

variable {t : Topology} {earlier later : List Circuit} {d : Circuit} {i rank : Nat} {e : Violation}

/-- Each name and each circuit is right by itself, and the names are distinct and hold no
dash. -/
structure SoundPiecewise (t : Topology) : Prop where
  no_dash : ∀ name ∈ t.namespaces, '-' ∉ name.toList
  usable : ∀ name ∈ t.namespaces, IsNamespaceName name
  nodup : t.namespaces.Nodup
  admits : ∀ c ∈ t.circuits, t.Admits c
  short : ∀ c ∈ t.circuits, c.interfaces.1.utf8ByteSize ≤ maxInterfaceNameLength ∧
    c.interfaces.2.utf8ByteSize ≤ maxInterfaceNameLength

namespace SoundPiecewise

theorem circuit (h : t.SoundPiecewise) {c : Circuit} (hc : c ∈ t.circuits) : c.Undashed := by
  have hadmits := h.admits c hc
  exact ⟨h.no_dash _ (List.mem_append_right _ hadmits.a_mem),
    h.no_dash _ (List.mem_append.mpr hadmits.b_mem)⟩

/-- An interface name of the next circuit is taken by those that run in parallel to it. -/
theorem holds_iff (h : t.SoundPiecewise) (hsplit : t.circuits = earlier ++ d :: later)
    {name : String} (hname : name = d.interfaces.1 ∨ name = d.interfaces.2) :
    Circuit.Holds earlier i name ↔ Parallel t.circuits i earlier.length := by
  rw [Circuit.parallel_iff_of_split hsplit, Circuit.Holds]
  refine exists_congr fun c => and_congr_right fun hc => ?_
  have hcmem : c ∈ t.circuits := hsplit ▸ List.mem_append_left _ (List.mem_of_getElem? hc)
  have hdmem : d ∈ t.circuits := hsplit ▸ List.mem_append_right _ List.mem_cons_self
  rcases hname with rfl | rfl
  · exact (h.circuit hcmem).fst_mem_iff (h.circuit hdmem)
  · exact (h.circuit hcmem).snd_mem_iff (h.circuit hdmem)

/-- The only objection to a circuit is that it runs in parallel to an earlier one. -/
theorem collision_of_objection (h : t.SoundPiecewise) (hsplit : t.circuits = earlier ++ d :: later)
    (hobjects : CircuitObjection t earlier d rank e) :
    ∃ name first, e = .interfaceCollision name first earlier.length ∧
      Parallel t.circuits first earlier.length := by
  have hmem : d ∈ t.circuits := hsplit ▸ List.mem_append_right _ List.mem_cons_self
  have hrank : 6 ≤ rank := by
    by_contra hlt
    exact clear_of_admits (h.admits d hmem) rank (Nat.lt_of_not_le hlt) e hobjects
  obtain ⟨hshort, hshort'⟩ := h.short d hmem
  cases hobjects with
  | tooLongAtA hlong => exact absurd hlong (Nat.not_lt.mpr hshort)
  | tooLongAtB hlong => exact absurd hlong (Nat.not_lt.mpr hshort')
  | takenAtA hholds => exact ⟨_, _, rfl, (h.holds_iff hsplit (.inl rfl)).mp hholds⟩
  | takenAtB hholds =>
    rcases hholds with hholds | ⟨-, hsame⟩
    · exact ⟨_, _, rfl, (h.holds_iff hsplit (.inr rfl)).mp hholds⟩
    · exact absurd hsame.symm ((h.circuit hmem).interfaces_ne (h.admits d hmem).ends_ne)
  | _ => exact absurd hrank (by decide)

/-- Circuits that are passed do not run in parallel. -/
theorem not_parallel_of_passes (h : t.SoundPiecewise) (hsplit : t.circuits = earlier ++ later)
    (hpasses : Objections.Passes (CircuitObjection t) earlier) {j : Nat} (hj : j < earlier.length) :
    ¬ Parallel t.circuits i j := by
  intro hparallel
  have hcut : earlier = earlier.take j ++ earlier[j] :: earlier.drop (j + 1) := by
    rw [← List.drop_eq_getElem_cons, List.take_append_drop]
  have hlength : (earlier.take j).length = j := List.length_take_of_le (Nat.le_of_lt hj)
  have hsplit' : t.circuits = earlier.take j ++ earlier[j] :: (earlier.drop (j + 1) ++ later) := by
    rw [← List.cons_append, ← List.append_assoc, ← hcut, hsplit]
  have hholds : Circuit.Holds (earlier.take j) i earlier[j].interfaces.1 :=
    (h.holds_iff hsplit' (.inl rfl)).mpr (hlength.symm ▸ hparallel)
  exact hpasses _ _ _ hcut 7 _ (.takenAtA hholds)

/-- What is refused runs in parallel to an earlier circuit, and is the first that does. -/
theorem collision_of_validate (h : t.SoundPiecewise) (hv : t.validate = .error e) :
    ∃ name first second, e = .interfaceCollision name first second ∧
      Parallel t.circuits first second ∧ ∀ i j, Parallel t.circuits i j → second ≤ j := by
  rcases validate_eq_error_iff.mp hv with hnames | ⟨-, hcircuits⟩
  · have hok : checkNames [] t.namespaces = .ok () :=
      checkNames_eq_ok_iff.mpr ⟨fun name hname => isUsableName_iff.mpr (h.usable name hname),
        h.nodup, fun _ _ => List.not_mem_nil⟩
    rw [← checkNames_eq_error_iff, hok] at hnames
    cases hnames
  · obtain ⟨earlier, d, later, hsplit, hpasses, rank, hobjects, -⟩ := hcircuits
    obtain ⟨name, first, rfl, hparallel⟩ := h.collision_of_objection hsplit hobjects
    refine ⟨name, first, earlier.length, rfl, hparallel, fun i j hij => ?_⟩
    by_contra hlt
    exact h.not_parallel_of_passes hsplit hpasses (Nat.lt_of_not_le hlt) hij

end SoundPiecewise

/-- Without dashes in the names, validation refuses circuits in parallel and nothing else of
what concerns more than one circuit, and it reports the first that has an earlier one to run
in parallel to. -/
theorem validate_of_soundPiecewise (h : t.SoundPiecewise) :
    (t.validate = .ok () ↔ (t.circuits.map fun c => s(c.a, c.b)).Nodup) ∧
    (¬ (t.circuits.map fun c => s(c.a, c.b)).Nodup → ∃ name first second,
      t.validate = .error (.interfaceCollision name first second) ∧
      Parallel t.circuits first second ∧
      (∀ i j, Parallel t.circuits i j → second ≤ j) ∧
      ∀ i, Parallel t.circuits i second → i = first) := by
  have hok : t.validate = .ok () ↔ (t.circuits.map Circuit.joined).Nodup := by
    refine ⟨fun hv => (validate_eq_ok_iff.mp hv).nodup_joined, fun hnodup => ?_⟩
    cases hv : t.validate with
    | ok _ => rfl
    | error e =>
      obtain ⟨_, first, second, -, hparallel, -⟩ := h.collision_of_validate hv
      exact absurd hparallel (Circuit.nodup_joined_iff.mp hnodup first second)
  refine ⟨hok, fun hnot => ?_⟩
  cases hv : t.validate with
  | ok _ => exact absurd (hok.mp hv) hnot
  | error e =>
    obtain ⟨name, first, second, rfl, hparallel, hleast⟩ := h.collision_of_validate hv
    refine ⟨name, first, second, rfl, hparallel, hleast, fun i hi => ?_⟩
    -- Two partners of one circuit would run in parallel before it.
    rcases Nat.lt_trichotomy i first with hlt | rfl | hlt
    · exact absurd (hleast _ _ (hi.trans_joined hparallel hlt)) (Nat.not_le.mpr hparallel.1)
    · rfl
    · exact absurd (hleast _ _ (hparallel.trans_joined hi hlt)) (Nat.not_le.mpr hi.1)

/-- The last two circuits run in parallel to earlier ones. -/
def doubled : Topology where
  devices := ["x", "y"]
  segments := ["l"]
  circuits := [
    ⟨"x", "l", .bridged "10.0.0.1/24"⟩,
    ⟨"x", "y", .pointToPoint "10.0.1."⟩,
    ⟨"y", "x", .pointToPoint "10.0.2."⟩,
    ⟨"x", "l", .bridged "10.0.0.2/24"⟩]

theorem soundPiecewise_doubled : doubled.SoundPiecewise where
  no_dash := by decide
  usable name hname := isUsableName_iff.mp ((by decide : ∀ name ∈ doubled.namespaces,
    isUsableName name = true) name hname)
  nodup := by decide
  admits c hc := checkCircuit_eq_ok_iff.mp ((by decide : ∀ c ∈ doubled.circuits,
    doubled.checkCircuit 0 c = .ok ()) c hc)
  short := by decide

theorem validate_of_soundPiecewise_doubled :
    doubled.SoundPiecewise ∧ ¬ (doubled.circuits.map fun c => s(c.a, c.b)).Nodup ∧
      doubled.validate = .error (.interfaceCollision "y-x" 1 2) ∧ Parallel doubled.circuits 1 2 ∧
      ∀ i j, Parallel doubled.circuits i j → 2 ≤ j := by
  have hnot : ¬ (doubled.circuits.map fun c => s(c.a, c.b)).Nodup := by decide
  have hv : doubled.validate = .error (.interfaceCollision "y-x" 1 2) := rfl
  obtain ⟨name, first, second, hcollision, hparallel, hleast, -⟩ :=
    (validate_of_soundPiecewise soundPiecewise_doubled).2 hnot
  obtain ⟨rfl, rfl, rfl⟩ : name = "y-x" ∧ first = 1 ∧ second = 2 := by
    simpa using hcollision.symm.trans hv
  exact ⟨soundPiecewise_doubled, hnot, hv, hparallel, hleast⟩

end Topology

end Testbed
