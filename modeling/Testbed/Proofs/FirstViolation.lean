import Testbed.Proofs.Walks
import Testbed.Proofs.WellFormed

/-!
# Which violation is reported

A topology can be wrong in many ways at once, and one of them is reported. Which one it
is can be said without the walk that finds it. The names come before the circuits, an
earlier item comes before a later one, and what can be wrong with one item has an order
of its own: it is ranked.

Whether there is an objection to an item depends on the items before it, since a name may
be taken. That the list of owners, which grows while the circuits are walked, says the
same as the circuits walked so far (`Knows`) is what the walk of the circuits keeps. It
also makes the owner of a name unique: the circuits before the first offence share no
interface.

A circuit can offend against itself. The name of its second interface is looked up when
the first one has been claimed already, so a circuit between `x` and `x-x` is reported
as colliding with itself.
-/

namespace Testbed

/-! ## The names -/

/-- What is wrong with a name, given the names before it. -/
inductive NameObjection (earlier : List String) (name : String) : Nat → Violation → Prop
  | invalid : ¬ IsNamespaceName name → NameObjection earlier name 0 (.invalidName name)
  | duplicate : name ∈ earlier → NameObjection earlier name 1 (.duplicateName name)

namespace Topology

/-- The names so far, the last one first. -/
def nameStep (earlier : List String) (name : String) : Except Violation (List String) :=
  if !isUsableName name then .error (.invalidName name)
  else if name ∈ earlier then .error (.duplicateName name)
  else .ok (name :: earlier)

theorem checkNames_eq (earlier names : List String) :
    checkNames earlier names = names.foldlM nameStep earlier >>= fun _ => .ok () := by
  induction names generalizing earlier with
  | nil => rfl
  | cons name names ih =>
    rw [checkNames, List.foldlM_cons, nameStep]
    split
    · rfl
    · split
      · rfl
      · exact ih _

theorem nameStep_eq_ok_iff {earlier earlier' : List String} {name : String} :
    nameStep earlier name = .ok earlier' ↔
      IsNamespaceName name ∧ name ∉ earlier ∧ earlier' = name :: earlier := by
  rw [nameStep, ← isUsableName_iff]
  cases isUsableName name with
  | false => simp
  | true =>
    by_cases hmem : name ∈ earlier
    · simp [hmem]
    · simp [hmem, eq_comm]

theorem nameStep_eq_error_iff {earlier : List String} {name : String} {e : Violation} :
    nameStep earlier name = .error e ↔
      ¬ IsNamespaceName name ∧ e = .invalidName name ∨
        IsNamespaceName name ∧ name ∈ earlier ∧ e = .duplicateName name := by
  rw [nameStep, ← isUsableName_iff]
  cases isUsableName name with
  | false => simp [eq_comm]
  | true =>
    by_cases hmem : name ∈ earlier
    · simp [hmem, eq_comm]
    · simp [hmem]

theorem walks_names :
    Walks NameObjection nameStep [] fun earlier names => names = earlier.reverse where
  start := rfl
  remembers {earlier s name s'} hs hok := by
    obtain ⟨-, -, rfl⟩ := nameStep_eq_ok_iff.mp hok
    rw [hs, List.reverse_append]
    rfl
  passes {earlier s name s'} hs hok := by
    obtain ⟨hname, hnew, -⟩ := nameStep_eq_ok_iff.mp hok
    intro rank e hobjects
    cases hobjects with
    | invalid hinvalid => exact hinvalid hname
    | duplicate hmem => exact hnew (hs ▸ List.mem_reverse.mpr hmem)
  foremost {earlier s name e} hs herror := by
    rcases nameStep_eq_error_iff.mp herror with ⟨hinvalid, rfl⟩ | ⟨hname, hmem, rfl⟩
    · exact ⟨0, .invalid hinvalid, Objections.clear_zero⟩
    · refine ⟨1, .duplicate (List.mem_reverse.mp (hs ▸ hmem)), Objections.clear_zero.succ ?_⟩
      intro e hobjects
      cases hobjects with | invalid hinvalid => exact hinvalid hname
  unique _ _ h h' := by
    cases h with
    | invalid _ => cases h'; rfl
    | duplicate _ => cases h'; rfl

end Topology

/-! ## The circuits -/

/-- One of the circuits, the one with this number, has an interface of this name. -/
def Circuit.Holds (circuits : List Circuit) (i : Nat) (name : String) : Prop :=
  ∃ c, circuits[i]? = some c ∧ (name = c.interfaces.1 ∨ name = c.interfaces.2)

/-- What is wrong with a circuit, given the circuits before it, in the order in which it is
looked for. -/
inductive CircuitObjection (t : Topology) (earlier : List Circuit) (c : Circuit) :
    Nat → Violation → Prop
  | unknownA : c.a ∉ t.namespaces →
      CircuitObjection t earlier c 0 (.unknownEndpoint earlier.length c.a)
  | unknownB : c.b ∉ t.namespaces →
      CircuitObjection t earlier c 1 (.unknownEndpoint earlier.length c.b)
  | segmentInitiates : c.a ∈ t.segments →
      CircuitObjection t earlier c 2 (.segmentInitiates earlier.length c.a)
  | selfLoop : c.a = c.b → CircuitObjection t earlier c 3 (.selfLoop earlier.length c.a)
  | addressingMismatch : ¬ (c.addressing.isBridged = true ↔ c.b ∈ t.segments) →
      CircuitObjection t earlier c 4 (.addressingMismatch earlier.length c.b c.addressing)
  | invalidAddress : c.addressing.isWellFormed = false →
      CircuitObjection t earlier c 5 (.invalidAddress earlier.length c.addressing.text)
  | tooLongAtA : maxInterfaceNameLength < c.interfaces.1.utf8ByteSize →
      CircuitObjection t earlier c 6 (.interfaceTooLong c.interfaces.1)
  | takenAtA {first : Nat} : Circuit.Holds earlier first c.interfaces.1 →
      CircuitObjection t earlier c 7 (.interfaceCollision c.interfaces.1 first earlier.length)
  | tooLongAtB : maxInterfaceNameLength < c.interfaces.2.utf8ByteSize →
      CircuitObjection t earlier c 8 (.interfaceTooLong c.interfaces.2)
  | takenAtB {first : Nat} :
      Circuit.Holds earlier first c.interfaces.2 ∨
        first = earlier.length ∧ c.interfaces.2 = c.interfaces.1 →
      CircuitObjection t earlier c 9 (.interfaceCollision c.interfaces.2 first earlier.length)

theorem Circuit.Holds.lt_length {circuits : List Circuit} {i : Nat} {name : String}
    (h : Holds circuits i name) : i < circuits.length := by
  obtain ⟨c, hc, -⟩ := h
  exact (List.getElem?_eq_some_iff.mp hc).1

theorem Circuit.holds_append {earlier : List Circuit} {c : Circuit} {i : Nat} {name : String} :
    Holds (earlier ++ [c]) i name ↔
      Holds earlier i name ∨
        i = earlier.length ∧ (name = c.interfaces.1 ∨ name = c.interfaces.2) := by
  simp only [Holds]
  rcases Nat.lt_trichotomy i earlier.length with hlt | rfl | hgt
  · rw [List.getElem?_append_left hlt]
    simp [Nat.ne_of_lt hlt]
  · simp
  · rw [List.getElem?_eq_none (by rw [List.length_append]; exact hgt),
      List.getElem?_eq_none (Nat.le_of_lt hgt)]
    simp [Nat.ne_of_gt hgt]

namespace Topology

variable {t : Topology} {earlier : List Circuit} {c : Circuit} {e : Violation} {owners : Owners}

/-- The number of circuits so far and the owners of their interfaces. -/
def circuitStep (t : Topology) (s : Nat × Owners) (c : Circuit) :
    Except Violation (Nat × Owners) := do
  t.checkCircuit s.1 c
  let owners ← claimBoth s.2 s.1 c
  return (s.1 + 1, owners)

theorem checkCircuits_eq (i : Nat) (owners : Owners) (cs : List Circuit) :
    t.checkCircuits i owners cs = cs.foldlM t.circuitStep (i, owners) >>= fun _ => .ok () := by
  induction cs generalizing i owners with
  | nil => rfl
  | cons c cs ih =>
    rw [checkCircuits, List.foldlM_cons, circuitStep]
    cases t.checkCircuit i c with
    | error e => rfl
    | ok _ =>
      cases claimBoth owners i c with
      | error e => rfl
      | ok owners' => exact ih _ _

theorem clear_of_admits (h : t.Admits c) : Objections.Clear (CircuitObjection t) earlier c 6 := by
  refine .succ (.succ (.succ (.succ (.succ (.succ Objections.clear_zero ?_) ?_) ?_) ?_) ?_) ?_
  all_goals intro e hobjects
  · cases hobjects with | unknownA ha => exact ha (List.mem_append_right _ h.a_mem)
  · cases hobjects with | unknownB hb => exact hb (List.mem_append.mpr h.b_mem)
  · cases hobjects with | segmentInitiates ha => exact h.a_not_mem ha
  · cases hobjects with | selfLoop heq => exact h.ends_ne heq
  · cases hobjects with | addressingMismatch hkind => exact hkind h.isBridged_iff
  · cases hobjects with | invalidAddress hbad => cases h.address.symm.trans hbad

theorem mem_namespaces_of_endpoint? {name : String} {a : Endpoint}
    (ha : t.endpoint? name = some a) : name ∈ t.namespaces := by
  by_contra hnot
  rw [endpoint?_eq_none_iff.mpr hnot] at ha
  cases ha

theorem isSegment_iff_of_endpoint? {name : String} {a : Endpoint}
    (ha : t.endpoint? name = some a) : a.isSegment = true ↔ name ∈ t.segments := by
  rcases endpoint?_eq_some_iff.mp ha with ⟨hs, rfl⟩ | ⟨hs, -, rfl⟩
  · exact iff_of_true rfl hs
  · exact iff_of_false Bool.false_ne_true hs

/-- Ends are the same if and only if they are called the same. -/
theorem endpoint_eq_iff {name other : String} {a b : Endpoint} (ha : t.endpoint? name = some a)
    (hb : t.endpoint? other = some b) : a = b ↔ name = other := by
  constructor
  · rintro rfl
    rw [← name_of_endpoint? ha, ← name_of_endpoint? hb]
  · rintro rfl
    exact Option.some.inj (ha.symm.trans hb)

theorem clear_of_endpoints {a b : Endpoint} (ha : t.endpoint? c.a = some a)
    (hb : t.endpoint? c.b = some b) : Objections.Clear (CircuitObjection t) earlier c 2 := by
  refine .succ (.succ Objections.clear_zero ?_) ?_
  all_goals intro e hobjects
  · cases hobjects with | unknownA hnot => exact hnot (mem_namespaces_of_endpoint? ha)
  · cases hobjects with | unknownB hnot => exact hnot (mem_namespaces_of_endpoint? hb)

/-- A refused circuit is refused for the foremost of the reasons that concern no other. -/
theorem foremost_of_checkCircuit_eq_error (herror : t.checkCircuit earlier.length c = .error e) :
    Objections.Foremost (CircuitObjection t) earlier c e := by
  rw [checkCircuit] at herror
  split at herror
  · next ha =>
    cases herror
    exact ⟨0, .unknownA (endpoint?_eq_none_iff.mp ha), Objections.clear_zero⟩
  · next a ha hb =>
    cases herror
    refine ⟨1, .unknownB (endpoint?_eq_none_iff.mp hb), .succ Objections.clear_zero ?_⟩
    intro e hobjects
    cases hobjects with | unknownA hnot => exact hnot (mem_namespaces_of_endpoint? ha)
  · next a b ha hb =>
    have hinitiates := isSegment_iff_of_endpoint? ha
    have hloops := endpoint_eq_iff ha hb
    have hkind : b.isSegment ≠ c.addressing.isBridged ↔
        ¬ (c.addressing.isBridged = true ↔ c.b ∈ t.segments) := by
      rw [← isSegment_iff_of_endpoint? hb, ne_comm, ne_eq, Bool.eq_iff_iff]
    have hclear₂ : Objections.Clear (CircuitObjection t) earlier c 2 := clear_of_endpoints ha hb
    by_cases hsegment : a.isSegment = true
    · rw [if_pos hsegment] at herror
      cases herror
      exact ⟨2, .segmentInitiates (hinitiates.mp hsegment), hclear₂⟩
    rw [if_neg hsegment] at herror
    have hclear₃ : Objections.Clear (CircuitObjection t) earlier c 3 :=
      hclear₂.succ fun e hobjects => by
        cases hobjects with | segmentInitiates hmem => exact hsegment (hinitiates.mpr hmem)
    by_cases hloop : a = b
    · rw [if_pos hloop] at herror
      cases herror
      exact ⟨3, .selfLoop (hloops.mp hloop), hclear₃⟩
    rw [if_neg hloop] at herror
    have hclear₄ : Objections.Clear (CircuitObjection t) earlier c 4 :=
      hclear₃.succ fun e hobjects => by
        cases hobjects with | selfLoop heq => exact hloop (hloops.mpr heq)
    by_cases hmismatch : b.isSegment ≠ c.addressing.isBridged
    · rw [if_pos hmismatch] at herror
      cases herror
      exact ⟨4, .addressingMismatch (hkind.mp hmismatch), hclear₄⟩
    rw [if_neg hmismatch] at herror
    have hclear₅ : Objections.Clear (CircuitObjection t) earlier c 5 :=
      hclear₄.succ fun e hobjects => by
        cases hobjects with | addressingMismatch hnot => exact hmismatch (hkind.mpr hnot)
    split at herror
    · next hbad =>
      cases herror
      exact ⟨5, .invalidAddress (by simpa using hbad), hclear₅⟩
    · cases herror

/-! ### The interfaces -/

/-- The list of owners says who has which interface. -/
def Knows (owners : Owners) (earlier : List Circuit) : Prop :=
  ∀ name i, owners.lookup name = some i ↔ Circuit.Holds earlier i name

theorem lookup_cons_eq_some_iff {name other : String} {i j : Nat}
    (hfree : owners.lookup other = none) :
    List.lookup name ((other, i) :: owners) = some j ↔
      owners.lookup name = some j ∨ j = i ∧ name = other := by
  rw [List.lookup_cons]
  by_cases hname : name = other
  · simp [hname, hfree, eq_comm]
  · rw [beq_false_of_ne hname]
    simp [hname]

theorem Knows.append (hknows : Knows owners earlier) {i : Nat} {owners' : Owners}
    (hi : i = earlier.length) (hok : claimBoth owners i c = .ok owners') :
    Knows owners' (earlier ++ [c]) := by
  rw [claimBoth, bind_eq_ok_iff] at hok
  obtain ⟨owners₁, hfirst, hsecond⟩ := hok
  obtain ⟨-, hfree₁, rfl⟩ := claim_eq_ok_iff.mp hfirst
  obtain ⟨-, hfree₂, rfl⟩ := claim_eq_ok_iff.mp hsecond
  rw [← lookup_owners_eq_none_iff] at hfree₁ hfree₂
  intro name j
  rw [lookup_cons_eq_some_iff hfree₂, lookup_cons_eq_some_iff hfree₁, hknows, or_assoc,
    ← and_or_left, Circuit.holds_append, hi]

theorem claim_eq_error_iff {i : Nat} {name : String} :
    claim owners i name = .error e ↔
      (maxInterfaceNameLength < name.utf8ByteSize ∧ e = .interfaceTooLong name) ∨
        (name.utf8ByteSize ≤ maxInterfaceNameLength ∧
          ∃ first, owners.lookup name = some first ∧ e = .interfaceCollision name first i) := by
  rw [claim]
  split
  · next hlong => simp [hlong, Nat.not_le.mpr hlong, eq_comm]
  · next hshort =>
    rw [gt_iff_lt, Nat.not_lt] at hshort
    split
    · next first hfound => simp [hshort, Nat.not_lt.mpr hshort, hfound, eq_comm]
    · next hfree => simp [hshort, Nat.not_lt.mpr hshort, hfree]

theorem Knows.not_holds (hknows : Knows owners earlier) {name : String}
    (hfree : owners.lookup name = none) (i : Nat) : ¬ Circuit.Holds earlier i name := by
  rw [← hknows, hfree]
  exact fun h => nomatch h

theorem Knows.clear_of_claim (hknows : Knows owners earlier)
    (hclear₆ : Objections.Clear (CircuitObjection t) earlier c 6) {i : Nat} {owners' : Owners}
    (hok : claim owners i c.interfaces.1 = .ok owners') :
    Objections.Clear (CircuitObjection t) earlier c 8 := by
  obtain ⟨hshort, hfree, -⟩ := claim_eq_ok_iff.mp hok
  refine (hclear₆.succ ?_).succ ?_
  all_goals intro e hobjects
  · cases hobjects with | tooLongAtA hlong => exact Nat.not_lt.mpr hshort hlong
  · cases hobjects with
    | takenAtA hholds =>
      exact hknows.not_holds (lookup_owners_eq_none_iff.mpr hfree) _ hholds

/-- What was claimed for the first interface counts for the second. -/
theorem Knows.lookup_cons_iff (hknows : Knows owners earlier) {name other : String} {i j : Nat}
    (hfree : owners.lookup other = none) :
    List.lookup name ((other, i) :: owners) = some j ↔
      Circuit.Holds earlier j name ∨ j = i ∧ name = other := by
  rw [lookup_cons_eq_some_iff hfree, hknows]

theorem Knows.foremost_of_claimBoth_eq_error (hknows : Knows owners earlier)
    (hclear₆ : Objections.Clear (CircuitObjection t) earlier c 6)
    (herror : claimBoth owners earlier.length c = .error e) :
    Objections.Foremost (CircuitObjection t) earlier c e := by
  rw [claimBoth] at herror
  cases hfirst : claim owners earlier.length c.interfaces.1 with
  | error e' =>
    rw [hfirst] at herror
    obtain rfl : e' = e := Except.error.inj herror
    rcases claim_eq_error_iff.mp hfirst with ⟨hlong, rfl⟩ | ⟨hshort, first, hfound, rfl⟩
    · exact ⟨6, .tooLongAtA hlong, hclear₆⟩
    · refine ⟨7, .takenAtA ((hknows _ _).mp hfound), hclear₆.succ fun e hobjects => ?_⟩
      cases hobjects with | tooLongAtA hlong => exact Nat.not_lt.mpr hshort hlong
  | ok owners' =>
    rw [hfirst] at herror
    have hsecond : claim owners' earlier.length c.interfaces.2 = .error e := herror
    have hclear₈ := hknows.clear_of_claim hclear₆ hfirst
    obtain ⟨-, hfree, rfl⟩ := claim_eq_ok_iff.mp hfirst
    rw [← lookup_owners_eq_none_iff] at hfree
    rcases claim_eq_error_iff.mp hsecond with ⟨hlong, rfl⟩ | ⟨hshort, first, hfound, rfl⟩
    · exact ⟨8, .tooLongAtB hlong, hclear₈⟩
    · refine ⟨9, .takenAtB ((hknows.lookup_cons_iff hfree).mp hfound), ?_⟩
      refine hclear₈.succ fun e hobjects => ?_
      cases hobjects with | tooLongAtB hlong => exact Nat.not_lt.mpr hshort hlong

theorem Knows.not_objection_of_claimBoth_eq_ok (hknows : Knows owners earlier)
    (hclear₆ : Objections.Clear (CircuitObjection t) earlier c 6) {owners' : Owners}
    (hok : claimBoth owners earlier.length c = .ok owners') (rank : Nat) (e : Violation) :
    ¬ CircuitObjection t earlier c rank e := by
  rw [claimBoth, bind_eq_ok_iff] at hok
  obtain ⟨owners₁, hfirst, hsecond⟩ := hok
  have hclear₈ := hknows.clear_of_claim hclear₆ hfirst
  obtain ⟨-, hfree, rfl⟩ := claim_eq_ok_iff.mp hfirst
  obtain ⟨hshort, hfree', -⟩ := claim_eq_ok_iff.mp hsecond
  rw [← lookup_owners_eq_none_iff] at hfree hfree'
  have hclear₁₀ : Objections.Clear (CircuitObjection t) earlier c 10 := by
    refine (hclear₈.succ ?_).succ ?_
    all_goals intro e hobjects
    · cases hobjects with | tooLongAtB hlong => exact Nat.not_lt.mpr hshort hlong
    · cases hobjects with
      | takenAtB hholds =>
        rw [← hknows.lookup_cons_iff hfree, hfree'] at hholds
        cases hholds
  intro hobjects
  refine hclear₁₀ rank ?_ e hobjects
  cases hobjects <;> decide

theorem circuitStep_eq_ok_iff {s s' : Nat × Owners} :
    t.circuitStep s c = .ok s' ↔
      t.Admits c ∧ ∃ owners, claimBoth s.2 s.1 c = .ok owners ∧ s' = (s.1 + 1, owners) := by
  rw [circuitStep, check_bind_eq_ok_iff, checkCircuit_eq_ok_iff, bind_eq_ok_iff]
  refine and_congr_right fun _ => exists_congr fun owners => and_congr_right fun _ => ?_
  show Except.ok (s.1 + 1, owners) = .ok s' ↔ _
  rw [Except.ok.injEq, eq_comm]

theorem circuitStep_eq_error_iff {s : Nat × Owners} :
    t.circuitStep s c = .error e ↔
      t.checkCircuit s.1 c = .error e ∨ t.Admits c ∧ claimBoth s.2 s.1 c = .error e := by
  rw [circuitStep, ← checkCircuit_eq_ok_iff]
  cases t.checkCircuit s.1 c with
  | error e' => simp [bind, Except.bind]
  | ok _ =>
    cases claimBoth s.2 s.1 c with
    | error e' => simp [bind, Except.bind]
    | ok owners => simp [bind, Except.bind, pure, Except.pure]

theorem walks_circuits (t : Topology) :
    Walks (CircuitObjection t) t.circuitStep (0, []) fun earlier s =>
      s.1 = earlier.length ∧ Knows s.2 earlier where
  start := ⟨rfl, fun name i => by simp [Circuit.Holds]⟩
  remembers {earlier s c s'} hs hok := by
    obtain ⟨hlength, hknows⟩ := hs
    obtain ⟨-, owners, hclaim, rfl⟩ := circuitStep_eq_ok_iff.mp hok
    exact ⟨by simp [hlength], hknows.append hlength hclaim⟩
  passes {earlier s c s'} hs hok := by
    obtain ⟨hlength, hknows⟩ := hs
    obtain ⟨hadmits, owners, hclaim, -⟩ := circuitStep_eq_ok_iff.mp hok
    rw [hlength] at hclaim
    exact hknows.not_objection_of_claimBoth_eq_ok (clear_of_admits hadmits) hclaim
  foremost {earlier s c e} hs herror := by
    obtain ⟨hlength, hknows⟩ := hs
    rw [circuitStep_eq_error_iff, hlength] at herror
    rcases herror with hcheck | ⟨hadmits, hclaim⟩
    · exact foremost_of_checkCircuit_eq_error hcheck
    · exact hknows.foremost_of_claimBoth_eq_error (clear_of_admits hadmits) hclaim
  unique {earlier s c rank e e'} hs hclear h h' := by
    obtain ⟨-, hknows⟩ := hs
    have howner {name : String} {i j : Nat} (hi : Circuit.Holds earlier i name)
        (hj : Circuit.Holds earlier j name) : i = j :=
      Option.some.inj (((hknows _ _).mpr hi).symm.trans ((hknows _ _).mpr hj))
    cases h with
    | takenAtA hi =>
      cases h' with | takenAtA hj => rw [howner hi hj]
    | takenAtB hi =>
      cases h' with
      | takenAtB hj =>
        -- The own first interface is no rival: it had to be free to be claimed.
        have hfree {k : Nat} : ¬ Circuit.Holds earlier k c.interfaces.1 := fun hk =>
          hclear 7 (by decide) _ (.takenAtA hk)
        rcases hi with hi | ⟨rfl, hsame⟩
        · rcases hj with hj | ⟨rfl, hsame⟩
          · rw [howner hi hj]
          · exact absurd (hsame ▸ hi) hfree
        · rcases hj with hj | ⟨rfl, -⟩
          · exact absurd (hsame ▸ hj) hfree
          · rfl
    | _ => cases h'; rfl

/-! ## The report -/

theorem checkNames_eq_error_iff {names : List String} :
    checkNames [] names = .error e ↔ Objections.FirstOffence NameObjection names e := by
  rw [← walks_names.error_iff, checkNames_eq, forget_eq_error_iff]

theorem checkNames_eq_ok_iff_passes {names : List String} :
    checkNames [] names = .ok () ↔ Objections.Passes NameObjection names := by
  rw [← walks_names.ok_iff, checkNames_eq, forget_eq_ok_iff]

theorem checkCircuits_eq_error_iff {cs : List Circuit} :
    t.checkCircuits 0 [] cs = .error e ↔ Objections.FirstOffence (CircuitObjection t) cs e := by
  rw [← t.walks_circuits.error_iff, checkCircuits_eq, forget_eq_error_iff]

theorem validate_eq_error_iff :
    t.validate = .error e ↔
      Objections.FirstOffence NameObjection t.namespaces e ∨
        Objections.Passes NameObjection t.namespaces ∧
          Objections.FirstOffence (CircuitObjection t) t.circuits e := by
  rw [← checkNames_eq_error_iff, ← checkNames_eq_ok_iff_passes, ← checkCircuits_eq_error_iff,
    validate]
  cases checkNames [] t.namespaces with
  | error e' => simp [bind, Except.bind]
  | ok _ => simp [bind, Except.bind]

/-- What is not about a name is about a circuit, and then there is nothing wrong with the
names. -/
theorem firstOffence_of_validate (hv : t.validate = .error e)
    (hinvalid : ∀ name, e ≠ .invalidName name) (hduplicate : ∀ name, e ≠ .duplicateName name) :
    Objections.Passes NameObjection t.namespaces ∧
      Objections.FirstOffence (CircuitObjection t) t.circuits e := by
  refine (validate_eq_error_iff.mp hv).resolve_left ?_
  rintro ⟨_, _, _, -, -, _, hobjects, -⟩
  cases hobjects with
  | invalid _ => exact hinvalid _ rfl
  | duplicate _ => exact hduplicate _ rfl

end Topology

end Testbed
