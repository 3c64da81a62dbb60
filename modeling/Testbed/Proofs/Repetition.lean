import Testbed.Proofs.Addresses
import Testbed.Proofs.Histories

/-!
# Operations tried once more

A host on which a topology was built is handed an operation of the plan again. Whether
it takes it is a question about the finished host, and not about the one that the
operation met when its turn came. A namespace, a bridge and an address are still where
they were put, and are refused. The ends of a veth pair are not: they were created in
the root and have left it, so the pair is created again, beside the first one and under
the same names, and what is refused is to move an end of it.

So a creation is refused if and only if it takes place in a namespace, and not every
operation that is refused is a creation. `Operation.faultAgain?` says for each operation
which fault it meets, and `Host.Shows.answersAgain` that this is what a host answers that
shows the topology, whatever was done to bring it there.
-/

namespace Testbed

open Host

/-- Why a host refuses an operation of a plan that was carried out on it, if it does. -/
def Operation.faultAgain? : Operation → Option Fault
  | createNamespace name => some (.namespaceExists name)
  | createBridge ns bridge => some (.bridgeExists ns bridge)
  | setUp _ _ => none
  | enableForwarding _ => none
  | disableReversePathFilter _ => none
  | createVethPair _ _ => none
  | move interface _ => some (.unknownInterface rootName interface)
  | attach _ _ _ => none
  | assign ns interface address => some (.addressExists ns interface address)

variable {h h' : Host} {op : Operation} {fault : Fault} {i : Interface} {c : Circuit} {t : Topology}
  {ns interface bridge address name left right : String}

namespace Host

/-! ## What refuses an operation -/

theorem createBridge_of_isBridge (hbridge : (h.interface? ns bridge).map (·.kind) = some .bridge) :
    h.createBridge ns bridge = .error (.bridgeExists ns bridge) := by
  obtain ⟨i, hi, hkind⟩ := Option.map_eq_some_iff.mp hbridge
  obtain ⟨interfaces, hns, hfound⟩ := Option.bind_eq_some_iff.mp hi
  rw [createBridge, interfacesOf_eq_ok_iff.mpr hns]
  simp only [bind, Except.bind, hfound, hkind, if_true]

theorem move_of_not_mem_root (hroot : interface ∉ h.root) :
    h.move interface ns = .error (.unknownInterface rootName interface) := by
  rw [move, NameMap.find?_eq_none_iff.mpr hroot]

theorem move_of_taken {j : Interface} (hroot : h.root.find? interface = some j)
    (hi : h.interface? ns interface = some i) :
    h.move interface ns = .error (.interfaceExists ns interface) := by
  obtain ⟨interfaces, hns, hfound⟩ := Option.bind_eq_some_iff.mp hi
  have htaken : interface ∈ interfaces := NameMap.mem_iff.mpr ⟨i, hfound⟩
  simp only [move, hroot, interfacesOf_eq_ok_iff.mpr hns, bind, Except.bind, if_pos htaken]

theorem assign_of_mem (hi : h.interface? ns interface = some i) (hmem : address ∈ i.addresses) :
    h.assign ns interface address = .error (.addressExists ns interface address) := by
  rw [assign, interfaceOf_eq_ok_iff.mpr hi]
  exact if_pos hmem

/-- The host answers the operation as it answers what was carried out on it. -/
def AnswersAgain (h : Host) (op : Operation) : Prop :=
  ∀ fault, h.apply op = .error fault ↔ op.faultAgain? = some fault

theorem AnswersAgain.of_error (hrefused : h.apply op = .error fault)
    (hfault : op.faultAgain? = some fault) : h.AnswersAgain op := by
  intro other
  rw [hrefused, hfault, Except.error.injEq, Option.some.injEq]

theorem AnswersAgain.of_ok (hok : h.apply op = .ok h') (hfault : op.faultAgain? = none) :
    h.AnswersAgain op := by
  intro fault
  rw [hok, hfault]
  exact iff_of_false nofun nofun

/-- A creation is refused where it takes place in a namespace. -/
theorem AnswersAgain.exists_error_iff (hagain : h.AnswersAgain op)
    (hcreation : op.isCreation = true) :
    (∃ fault, h.apply op = .error fault) ↔ ∃ ns, op.namespace? = some ns := by
  simp only [hagain _]
  cases op with
  | createNamespace name => exact iff_of_true ⟨_, rfl⟩ ⟨_, rfl⟩
  | createBridge ns bridge => exact iff_of_true ⟨_, rfl⟩ ⟨_, rfl⟩
  | createVethPair left right => exact iff_of_false nofun nofun
  | _ => cases hcreation

theorem AnswersAgain.createVethPair (hagain : h.AnswersAgain (.createVethPair left right)) :
    h.apply (.createVethPair left right) = .ok (h.withVethPair left right) := by
  cases hop : h.apply (.createVethPair left right) with
  | error fault => cases (hagain fault).mp hop
  | ok k =>
    obtain ⟨-, -, -, rfl⟩ := createVethPair_eq_ok_iff.mp hop
    rfl

end Host

/-- Only a circuit that leads to a segment is attached there. -/
theorem Plan.attach_mem_circuit_iff :
    .attach ns interface bridge ∈ circuit c ↔
      c.addressing.isBridged = true ∧
        ns = c.b ∧ interface = c.interfaces.2 ∧ bridge = bridgeName := by
  rcases c with ⟨a, b, text | block⟩
  · simp [circuit, addressing, Addressing.ends, Addressing.isBridged]
  · simp [circuit, addressing, Addressing.ends, Addressing.isBridged]

/-! ## Block by block -/

namespace Host.Shows

theorem interface?_endAtA (hs : h.Shows t) (hc : c ∈ t.circuits) :
    h.interface? c.a c.interfaces.1 = some c.endAtA :=
  (hs.interface?_eq_some_iff _ _ _).mpr (.inr (.inr ⟨c, hc, .inl ⟨rfl, rfl, rfl⟩⟩))

theorem interface?_endAtB (hs : h.Shows t) (hc : c ∈ t.circuits) :
    h.interface? c.b c.interfaces.2 = some c.endAtB :=
  (hs.interface?_eq_some_iff _ _ _).mpr (.inr (.inr ⟨c, hc, .inr ⟨rfl, rfl, rfl⟩⟩))

theorem createVethPair (hs : h.Shows t) (hne : left ≠ right) :
    h.createVethPair left right = .ok (h.withVethPair left right) :=
  createVethPair_eq_ok_iff.mpr ⟨hs.not_mem_root left, hs.not_mem_root right, hne, rfl⟩

/-- What a circuit assigns is among the addresses of the end that it is assigned to. -/
theorem assign_of_mem_circuit (hs : h.Shows t) (hc : c ∈ t.circuits)
    (hop : .assign ns interface address ∈ Plan.circuit c) :
    h.assign ns interface address = .error (.addressExists ns interface address) := by
  rcases Plan.assign_mem_circuit_iff.mp hop with ⟨rfl, rfl, rfl⟩ | ⟨rfl, rfl, haddress⟩
  · exact assign_of_mem (hs.interface?_endAtA hc) (List.mem_singleton_self _)
  · exact assign_of_mem (hs.interface?_endAtB hc) (Option.mem_toList.mpr haddress.symm)

theorem answersAgain_segment (hs : h.Shows t) (hmem : name ∈ t.segments)
    (hop : op ∈ Plan.segment name) : h.AnswersAgain op := by
  have hbridge := hs.kind_bridgeName_iff.mpr hmem
  rcases Plan.mem_segment_iff.mp hop with rfl | rfl | rfl
  · have hns : name ∈ h.namespaces := (hs.mem_namespaces_iff name).mpr (.inl hmem)
    exact .of_error (apply_createNamespace_of_mem hns) rfl
  · exact .of_error (createBridge_of_isBridge hbridge) rfl
  · obtain ⟨i, hi, -⟩ := Option.map_eq_some_iff.mp hbridge
    exact .of_ok (setUp_eq_ok_iff.mpr ⟨i, hi, rfl⟩) rfl

theorem answersAgain_device (hs : h.Shows t) (hmem : name ∈ t.devices)
    (hop : op ∈ Plan.device name) : h.AnswersAgain op := by
  have hns : name ∈ h.namespaces := (hs.mem_namespaces_iff name).mpr (.inr hmem)
  rcases Plan.mem_device_iff.mp hop with rfl | rfl | rfl
  · exact .of_error (apply_createNamespace_of_mem hns) rfl
  · exact .of_ok (enableForwarding_eq_ok_iff.mpr ⟨hns, rfl⟩) rfl
  · exact .of_ok (disableReversePathFilter_eq_ok_iff.mpr ⟨hns, rfl⟩) rfl

theorem answersAgain_circuit (hs : h.Shows t) (hc : c ∈ t.circuits) (hsupports : t.Supports c)
    (hop : op ∈ Plan.circuit c) : h.AnswersAgain op := by
  obtain ⟨-, hne, hbridge⟩ := hsupports
  have hatA := hs.interface?_endAtA hc
  have hatB := hs.interface?_endAtB hc
  rcases Plan.mem_circuit hop with rfl | (rfl | rfl) | (rfl | rfl) | rfl | ⟨address, rfl | rfl⟩
  · exact .of_ok (hs.createVethPair hne) rfl
  · exact .of_error (move_of_not_mem_root (hs.not_mem_root _)) rfl
  · exact .of_error (move_of_not_mem_root (hs.not_mem_root _)) rfl
  · exact .of_ok (setUp_eq_ok_iff.mpr ⟨_, hatA, rfl⟩) rfl
  · exact .of_ok (setUp_eq_ok_iff.mpr ⟨_, hatB, rfl⟩) rfl
  · obtain ⟨hbridged, -⟩ := Plan.attach_mem_circuit_iff.mp hop
    have hkind := hs.kind_bridgeName_iff.mpr (hbridge hbridged)
    exact .of_ok (attach_eq_ok_iff.mpr ⟨hkind, _, hatB, rfl⟩) rfl
  · exact .of_error (hs.assign_of_mem_circuit hc hop) rfl
  · exact .of_error (hs.assign_of_mem_circuit hc hop) rfl

/-- A host that shows a topology answers every operation of the plan in this way. -/
theorem answersAgain (hs : h.Shows t) (hsupports : ∀ c ∈ t.circuits, t.Supports c)
    (hop : op ∈ t.plan) : h.AnswersAgain op := by
  rcases Topology.mem_plan_iff.mp hop with ⟨s, hmem, hop⟩ | ⟨d, hmem, hop⟩ | ⟨c, hc, hop⟩
  · exact hs.answersAgain_segment hmem hop
  · exact hs.answersAgain_device hmem hop
  · exact hs.answersAgain_circuit hc (hsupports c hc) hop

/-- The pair of a circuit is created again, and then neither end of it can be moved to
where the first one is. -/
theorem move_withVethPair (hs : h.Shows t) (hc : c ∈ t.circuits)
    (hne : c.interfaces.1 ≠ c.interfaces.2) :
    (h.withVethPair c.interfaces.1 c.interfaces.2).move c.interfaces.1 c.a =
        .error (.interfaceExists c.a c.interfaces.1) ∧
      (h.withVethPair c.interfaces.1 c.interfaces.2).move c.interfaces.2 c.b =
        .error (.interfaceExists c.b c.interfaces.2) := by
  have hleft : (h.withVethPair c.interfaces.1 c.interfaces.2).root.find? c.interfaces.1 =
      some { kind := .veth c.interfaces.2 } := by
    rw [find?_root_withVethPair, if_neg hne, if_pos rfl]
  have hright : (h.withVethPair c.interfaces.1 c.interfaces.2).root.find? c.interfaces.2 =
      some { kind := .veth c.interfaces.1 } := by
    rw [find?_root_withVethPair, if_pos rfl]
  exact ⟨move_of_taken hleft (hs.interface?_endAtA hc),
    move_of_taken hright (hs.interface?_endAtB hc)⟩

end Host.Shows

/-! ## Creations -/

namespace Topology

/-- Where a topology was built, its namespaces and bridges are not created again. Its veth
pairs are, and then the ends cannot be moved to where the first ones are. -/
theorem creation_again_exact (hv : t.validate = .ok ()) :
    ∃ h, t.check = .ok h ∧
      (∀ op ∈ t.plan, op.isCreation = true →
        ((∃ fault, h.apply op = .error fault) ↔ ∃ ns, op.namespace? = some ns)) ∧
      (∀ name, .createNamespace name ∈ t.plan →
        h.apply (.createNamespace name) = .error (.namespaceExists name)) ∧
      (∀ ns bridge, .createBridge ns bridge ∈ t.plan →
        h.apply (.createBridge ns bridge) = .error (.bridgeExists ns bridge)) ∧
      (∀ left right, .createVethPair left right ∈ t.plan →
        h.apply (.createVethPair left right) = .ok (h.withVethPair left right)) ∧
      ∀ c ∈ t.circuits,
        (h.withVethPair c.interfaces.1 c.interfaces.2).apply (.move c.interfaces.1 c.a) =
            .error (.interfaceExists c.a c.interfaces.1) ∧
          (h.withVethPair c.interfaces.1 c.interfaces.2).apply (.move c.interfaces.2 c.b) =
            .error (.interfaceExists c.b c.interfaces.2) := by
  have hw : t.WellFormed := validate_eq_ok_iff.mp hv
  obtain ⟨h, hcheck, hs⟩ := hw.exists_check_eq_ok
  have hagain {op : Operation} (hop : op ∈ t.plan) : h.AnswersAgain op :=
    hs.answersAgain (fun _ => hw.supports) hop
  exact ⟨h, hcheck,
    fun op hop hcreation => (hagain hop).exists_error_iff hcreation,
    fun name hop => (hagain hop _).mpr rfl,
    fun ns bridge hop => (hagain hop _).mpr rfl,
    fun left right hop => (hagain hop).createVethPair,
    fun c hc => hs.move_withVethPair hc (hw.supports hc).2.1⟩

theorem creation_again_exact_twoRouterLan :
    twoRouterLan.validate = .ok () ∧ ∃ h, twoRouterLan.check = .ok h ∧
      h.apply (.createNamespace "X") = .error (.namespaceExists "X") ∧
      h.apply (.createBridge "L" "br0") = .error (.bridgeExists "L" "br0") ∧
      h.apply (.createVethPair "X-L" "L-X") = .ok (h.withVethPair "X-L" "L-X") ∧
      (h.withVethPair "X-L" "L-X").apply (.move "X-L" "X") =
        .error (.interfaceExists "X" "X-L") := by
  have hv : twoRouterLan.validate = .ok () := rfl
  obtain ⟨h, hcheck, -, hnamespaces, hbridges, hpairs, hmoves⟩ := creation_again_exact hv
  exact ⟨hv, h, hcheck, hnamespaces _ (by decide), hbridges _ _ (by decide),
    hpairs _ _ (by decide), (hmoves _ List.mem_cons_self).1⟩

/-- Not every creation is refused where the plan was carried out. -/
theorem not_forall_creation_again_refused :
    ¬ ∀ (t : Topology) (h : Host), t.validate = .ok () → t.check = .ok h →
      ∀ op ∈ t.plan, op.isCreation = true → ∃ fault, h.apply op = .error fault := by
  intro hall
  have hv : twoRouterLan.validate = .ok () := rfl
  have hw : twoRouterLan.WellFormed := validate_eq_ok_iff.mp hv
  obtain ⟨h, hcheck, hs⟩ := hw.exists_check_eq_ok
  have hop : .createVethPair "X-Y" "Y-X" ∈ twoRouterLan.plan := by decide
  obtain ⟨fault, hrefused⟩ := hall twoRouterLan h hv hcheck _ hop rfl
  cases (hs.answersAgain (fun _ => hw.supports) hop fault).mp hrefused

end Topology

end Testbed
