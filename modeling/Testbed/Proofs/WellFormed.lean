import Testbed.Except
import Testbed.Topology.Validation
import Mathlib.Data.List.Nodup

/-!
# Validation accepts exactly the well-formed topologies

`validate` walks the names and the circuits once, keeps what it has seen, and
stops at the first mistake. What it accepts can be said without any of that: each
name and each circuit is right by itself, and no name is taken twice, neither
among the namespaces nor among the interfaces (`validate_eq_ok_iff`).

The right-hand side asks only what is a member of what and whether a list has
duplicates, so the order of declaration is gone from it. It keeps the tests of
`validate` for a single name and a single circuit, since those are what the proofs
to come use. `validate_eq_ok_iff_forall` takes them apart as well, down to the
characters of a name and to the two forms of address.
-/

namespace Testbed

/-- The names of the interfaces of these circuits, two for each. -/
def Circuit.interfaceNames (cs : List Circuit) : List String :=
  cs.flatMap fun c => [c.interfaces.1, c.interfaces.2]

theorem Circuit.interfaceNames_cons (c : Circuit) (cs : List Circuit) :
    interfaceNames (c :: cs) = c.interfaces.1 :: c.interfaces.2 :: interfaceNames cs := rfl

theorem Circuit.mem_interfaceNames {cs : List Circuit} {name : String} :
    name ∈ interfaceNames cs ↔ ∃ c ∈ cs, name = c.interfaces.1 ∨ name = c.interfaces.2 := by
  simp [interfaceNames]

/-- What a namespace may be called. -/
structure IsNamespaceName (name : String) : Prop where
  ne_empty : name ≠ ""
  no_leading_dash : name.toList.head? ≠ some '-'
  ne_dot : name ≠ "."
  ne_dotDot : name ≠ ".."
  no_blank : ∀ c ∈ name.toList, Text.isBlank c = false
  no_slash : '/' ∉ name.toList

theorem isUsableName_iff {name : String} : isUsableName name = true ↔ IsNamespaceName name := by
  simp only [isUsableName, Bool.and_eq_true, decide_eq_true_eq, List.all_eq_true,
    Bool.not_eq_true']
  constructor
  · intro husable
    obtain ⟨⟨⟨⟨hempty, hdash⟩, hdot⟩, hdots⟩, hchars⟩ := husable
    exact ⟨hempty, hdash, hdot, hdots, fun c hc => (hchars c hc).1,
      fun hslash => (hchars '/' hslash).2 rfl⟩
  · intro hname
    obtain ⟨hempty, hdash, hdot, hdots, hblank, hslash⟩ := hname
    exact ⟨⟨⟨⟨hempty, hdash⟩, hdot⟩, hdots⟩, fun c hc =>
      ⟨hblank c hc, fun heq => hslash (heq ▸ hc)⟩⟩

namespace Topology

/-- A circuit that is right by itself: it leads from a device to something else, and
its addressing suits where it leads. -/
structure Admits (t : Topology) (c : Circuit) : Prop where
  a_mem : c.a ∈ t.devices
  a_not_mem : c.a ∉ t.segments
  b_mem : c.b ∈ t.segments ∨ c.b ∈ t.devices
  ends_ne : c.a ≠ c.b
  isBridged_iff : c.addressing.isBridged = true ↔ c.b ∈ t.segments
  address : c.addressing.isWellFormed = true

structure WellFormed (t : Topology) : Prop where
  usable : ∀ name ∈ t.namespaces, isUsableName name = true
  nodup : t.namespaces.Nodup
  admits : ∀ c ∈ t.circuits, t.Admits c
  short : ∀ name ∈ Circuit.interfaceNames t.circuits, name.utf8ByteSize ≤ maxInterfaceNameLength
  nodup_interfaces : (Circuit.interfaceNames t.circuits).Nodup

variable {t : Topology}

/-! ## The names -/

theorem checkNames_eq_ok_iff {earlier names : List String} :
    checkNames earlier names = .ok () ↔
      (∀ name ∈ names, isUsableName name = true) ∧ names.Nodup ∧
        ∀ name ∈ names, name ∉ earlier := by
  induction names generalizing earlier with
  | nil => simp [checkNames]
  | cons name names ih =>
    rw [checkNames]
    split
    · next hbad => simp_all
    · next hgood =>
      split
      · next hmem => simp [hmem]
      · next hnew =>
        rw [ih, List.forall_mem_cons, List.nodup_cons, List.forall_mem_cons]
        simp only [List.mem_cons, not_or]
        constructor
        · intro hok
          obtain ⟨husable, hnodup, hfresh⟩ := hok
          exact ⟨⟨by simpa using hgood, husable⟩,
            ⟨fun hmem => (hfresh name hmem).1 rfl, hnodup⟩,
            hnew, fun other hmem => (hfresh other hmem).2⟩
        · intro hcond
          obtain ⟨⟨-, husable⟩, ⟨hfirst, hnodup⟩, -, hfresh⟩ := hcond
          exact ⟨husable, hnodup, fun other hmem =>
            ⟨fun heq => hfirst (heq ▸ hmem), hfresh other hmem⟩⟩

/-! ## One circuit -/

theorem endpoint?_eq_some_iff {name : String} {e : Endpoint} :
    t.endpoint? name = some e ↔
      (name ∈ t.segments ∧ e = .segment name) ∨
        (name ∉ t.segments ∧ name ∈ t.devices ∧ e = .device name) := by
  rw [endpoint?]
  split
  · next hs => simp [hs, eq_comm]
  · next hs =>
    split
    · next hd => simp [hs, hd, eq_comm]
    · next hd => simp [hs, hd]

theorem checkCircuit_eq_ok_iff {i : Nat} {c : Circuit} :
    t.checkCircuit i c = .ok () ↔ t.Admits c := by
  rw [checkCircuit]
  split
  · next ha =>
    rw [endpoint?_eq_none_iff] at ha
    exact ⟨fun h => (nomatch h), fun h => absurd (List.mem_append_right _ h.a_mem) ha⟩
  · next hb =>
    rw [endpoint?_eq_none_iff] at hb
    exact ⟨fun h => (nomatch h), fun h => absurd (List.mem_append.mpr h.b_mem) hb⟩
  · next a b ha hb =>
    have hbmem : c.b ∈ t.segments ∨ c.b ∈ t.devices := by
      rcases endpoint?_eq_some_iff.mp hb with ⟨hs, -⟩ | ⟨-, hd, -⟩
      · exact .inl hs
      · exact .inr hd
    have hbseg : b.isSegment = true ↔ c.b ∈ t.segments := by
      rcases endpoint?_eq_some_iff.mp hb with ⟨hs, rfl⟩ | ⟨hs, -, rfl⟩
      · exact iff_of_true rfl hs
      · exact iff_of_false Bool.false_ne_true hs
    rcases endpoint?_eq_some_iff.mp ha with ⟨has, rfl⟩ | ⟨has, had, rfl⟩
    · exact ⟨fun h => (nomatch h), fun h => absurd has h.a_not_mem⟩
    · have hsame : Endpoint.device c.a = b ↔ c.a = c.b := by
        rcases endpoint?_eq_some_iff.mp hb with ⟨hs, rfl⟩ | ⟨-, -, rfl⟩
        · exact iff_of_false (fun h => nomatch h) fun h => has (h ▸ hs)
        · exact Endpoint.device.injEq _ _ ▸ Iff.rfl
      rw [if_neg (show ¬ (Endpoint.device c.a).isSegment = true from Bool.false_ne_true)]
      split
      · next hloop => exact ⟨fun h => (nomatch h), fun h => absurd (hsame.mp hloop) h.ends_ne⟩
      · next hloop =>
        split
        · next hkind =>
          exact ⟨fun h => (nomatch h), fun h =>
            absurd (Bool.eq_iff_iff.mpr (hbseg.trans h.isBridged_iff.symm)) hkind⟩
        · next hkind =>
          have hkind : b.isSegment = c.addressing.isBridged := not_not.mp hkind
          split
          · next haddress =>
            rw [Bool.not_eq_true'] at haddress
            exact ⟨fun h => (nomatch h), fun h => absurd h.address (by rw [haddress]; simp)⟩
          · next haddress =>
            rw [Bool.not_eq_true', Bool.not_eq_false] at haddress
            exact ⟨fun _ => ⟨had, has, hbmem, fun h => hloop (hsame.mpr h), hkind ▸ hbseg,
              haddress⟩, fun _ => rfl⟩

/-! ## The interfaces -/

theorem lookup_owners_eq_none_iff {owners : Owners} {name : String} :
    owners.lookup name = none ↔ name ∉ owners.map (·.1) := by
  rw [List.lookup_eq_none_iff, List.mem_map, not_exists]
  simp only [bne_iff_ne, not_and]
  exact forall₂_congr fun owner _ => ne_comm

theorem claim_eq_ok_iff {owners owners' : Owners} {i : Nat} {name : String} :
    claim owners i name = .ok owners' ↔
      name.utf8ByteSize ≤ maxInterfaceNameLength ∧ name ∉ owners.map (·.1) ∧
        owners' = (name, i) :: owners := by
  rw [claim, ← lookup_owners_eq_none_iff]
  split
  · next hlong => simp [Nat.not_le.mpr hlong]
  · next hshort =>
    split
    · next first hfound => simp [hfound]
    · next hfree => simp [hfree, Nat.not_lt.mp hshort, eq_comm]

theorem claimBoth_eq_ok_iff {owners owners' : Owners} {i : Nat} {c : Circuit} :
    claimBoth owners i c = .ok owners' ↔
      (c.interfaces.1.utf8ByteSize ≤ maxInterfaceNameLength ∧
        c.interfaces.2.utf8ByteSize ≤ maxInterfaceNameLength) ∧
        c.interfaces.1 ≠ c.interfaces.2 ∧
        (c.interfaces.1 ∉ owners.map (·.1) ∧ c.interfaces.2 ∉ owners.map (·.1)) ∧
        owners' = (c.interfaces.2, i) :: (c.interfaces.1, i) :: owners := by
  simp only [claimBoth, bind_eq_ok_iff, claim_eq_ok_iff]
  constructor
  · intro hok
    obtain ⟨_, ⟨hshort₁, hfree₁, rfl⟩, hshort₂, hfree₂, rfl⟩ := hok
    rw [List.map_cons, List.mem_cons, not_or] at hfree₂
    exact ⟨⟨hshort₁, hshort₂⟩, Ne.symm hfree₂.1, ⟨hfree₁, hfree₂.2⟩, rfl⟩
  · intro hcond
    obtain ⟨⟨hshort₁, hshort₂⟩, hne, ⟨hfree₁, hfree₂⟩, rfl⟩ := hcond
    refine ⟨_, ⟨hshort₁, hfree₁, rfl⟩, hshort₂, ?_, rfl⟩
    rw [List.map_cons, List.mem_cons, not_or]
    exact ⟨Ne.symm hne, hfree₂⟩

theorem checkCircuits_eq_ok_iff {i : Nat} {owners : Owners} {cs : List Circuit} :
    t.checkCircuits i owners cs = .ok () ↔
      (∀ c ∈ cs, t.Admits c) ∧
        (∀ name ∈ Circuit.interfaceNames cs, name.utf8ByteSize ≤ maxInterfaceNameLength) ∧
        (Circuit.interfaceNames cs).Nodup ∧
        ∀ name ∈ Circuit.interfaceNames cs, name ∉ owners.map (·.1) := by
  induction cs generalizing i owners with
  | nil => simp [checkCircuits, Circuit.interfaceNames]
  | cons c cs ih =>
    rw [checkCircuits, check_bind_eq_ok_iff, checkCircuit_eq_ok_iff, bind_eq_ok_iff,
      Circuit.interfaceNames_cons]
    simp only [claimBoth_eq_ok_iff, ih]
    rw [List.forall_mem_cons, List.forall_mem_cons, List.forall_mem_cons, List.forall_mem_cons,
      List.forall_mem_cons, List.nodup_cons, List.nodup_cons, List.mem_cons, not_or]
    constructor
    · intro hok
      obtain ⟨hc, _, ⟨⟨hshort₁, hshort₂⟩, hne, ⟨hfree₁, hfree₂⟩, rfl⟩, hcs, hshorts, hnodup,
        hfrees⟩ := hok
      simp only [List.map_cons, List.mem_cons, not_or] at hfrees
      exact ⟨⟨hc, hcs⟩, ⟨hshort₁, hshort₂, hshorts⟩,
        ⟨⟨hne, fun hmem => (hfrees _ hmem).2.1 rfl⟩, fun hmem => (hfrees _ hmem).1 rfl, hnodup⟩,
        hfree₁, hfree₂, fun name hmem => (hfrees name hmem).2.2⟩
    · intro hcond
      obtain ⟨⟨hc, hcs⟩, ⟨hshort₁, hshort₂, hshorts⟩, ⟨⟨hne, hnew₁⟩, hnew₂, hnodup⟩, hfree₁,
        hfree₂, hfrees⟩ := hcond
      refine ⟨hc, _, ⟨⟨hshort₁, hshort₂⟩, hne, ⟨hfree₁, hfree₂⟩, rfl⟩, hcs, hshorts, hnodup, ?_⟩
      intro name hmem
      simp only [List.map_cons, List.mem_cons, not_or]
      exact ⟨fun heq => hnew₂ (heq ▸ hmem), fun heq => hnew₁ (heq ▸ hmem), hfrees name hmem⟩

/-! ## The topology -/

theorem validate_eq_ok_iff : t.validate = .ok () ↔ t.WellFormed := by
  rw [validate, check_bind_eq_ok_iff, checkNames_eq_ok_iff, checkCircuits_eq_ok_iff]
  constructor
  · intro hok
    obtain ⟨⟨husable, hnodup, -⟩, hadmits, hshort, hinterfaces, -⟩ := hok
    exact ⟨husable, hnodup, hadmits, hshort, hinterfaces⟩
  · intro hw
    obtain ⟨husable, hnodup, hadmits, hshort, hinterfaces⟩ := hw
    exact ⟨⟨husable, hnodup, by simp⟩, hadmits, hshort, hinterfaces, by simp⟩

/-! ## Condition by condition -/

/-- The addressing of a circuit is of the kind its far end asks for, and its text has
the form of that kind. -/
def Suits (t : Topology) (c : Circuit) : Prop :=
  match c.addressing with
  | .bridged address => c.b ∈ t.segments ∧ Address.isWithLength address = true
  | .pointToPoint block => c.b ∉ t.segments ∧ Address.isThreeOctetBlock block = true

theorem suits_iff {c : Circuit} :
    t.Suits c ↔
      (c.addressing.isBridged = true ↔ c.b ∈ t.segments) ∧ c.addressing.isWellFormed = true := by
  rcases c with ⟨a, b, address | block⟩
  · simp [Suits, Addressing.isBridged, Addressing.isWellFormed]
  · simp [Suits, Addressing.isBridged, Addressing.isWellFormed]

/-- That `a` is no segment need not be asked once no name is declared twice. -/
theorem admits_iff (hnodup : t.namespaces.Nodup) {c : Circuit} :
    t.Admits c ↔
      c.a ∈ t.devices ∧ (c.b ∈ t.devices ∨ c.b ∈ t.segments) ∧ c.a ≠ c.b ∧ t.Suits c := by
  rw [suits_iff]
  constructor
  · intro hc
    exact ⟨hc.a_mem, hc.b_mem.symm, hc.ends_ne, hc.isBridged_iff, hc.address⟩
  · intro hcond
    obtain ⟨ha, hb, hne, hbridged, haddress⟩ := hcond
    have hapart : c.a ∉ t.segments := fun hs => (List.nodup_append.mp hnodup).2.2 _ hs _ ha rfl
    exact ⟨ha, hapart, hb.symm, hne, hbridged, haddress⟩

/-- What `validate` accepts, with nothing left to look up but the two forms of address. -/
theorem validate_eq_ok_iff_forall (t : Topology) :
    t.validate = .ok () ↔
      (∀ name ∈ t.segments ++ t.devices, IsNamespaceName name) ∧
      (t.segments ++ t.devices).Nodup ∧
      (∀ c ∈ t.circuits,
        c.a ∈ t.devices ∧ (c.b ∈ t.devices ∨ c.b ∈ t.segments) ∧ c.a ≠ c.b ∧ t.Suits c ∧
        (c.a ++ "-" ++ c.b).utf8ByteSize ≤ 15 ∧ (c.b ++ "-" ++ c.a).utf8ByteSize ≤ 15) ∧
      (t.circuits.flatMap fun c => [c.a ++ "-" ++ c.b, c.b ++ "-" ++ c.a]).Nodup := by
  rw [validate_eq_ok_iff]
  constructor
  · intro hw
    refine ⟨fun name hname => isUsableName_iff.mp (hw.usable name hname), hw.nodup,
      fun c hc => ?_, hw.nodup_interfaces⟩
    obtain ⟨ha, hb, hne, hsuits⟩ := (admits_iff hw.nodup).mp (hw.admits c hc)
    exact ⟨ha, hb, hne, hsuits, hw.short _ (Circuit.mem_interfaceNames.mpr ⟨c, hc, .inl rfl⟩),
      hw.short _ (Circuit.mem_interfaceNames.mpr ⟨c, hc, .inr rfl⟩)⟩
  · intro hcond
    obtain ⟨hnames, hnodup, hcircuits, hinterfaces⟩ := hcond
    refine ⟨fun name hname => isUsableName_iff.mpr (hnames name hname), hnodup, fun c hc => ?_,
      fun name hname => ?_, hinterfaces⟩
    · obtain ⟨ha, hb, hne, hsuits, -⟩ := hcircuits c hc
      exact (admits_iff hnodup).mpr ⟨ha, hb, hne, hsuits⟩
    · obtain ⟨c, hc, rfl | rfl⟩ := Circuit.mem_interfaceNames.mp hname
      · exact (hcircuits c hc).2.2.2.2.1
      · exact (hcircuits c hc).2.2.2.2.2

end Topology

end Testbed
