import Testbed.Sink
import Testbed.Proofs.Steps

/-!
# What the parts of a plan do

A plan is made of blocks, one for each segment, device and circuit. As far as
success goes a block is one operation: it has conditions on the host it starts
from, and if they hold it leaves a host that can be written down. A namespace
block needs its name to be free. A circuit block needs both interface names to be
free in the root and in the namespaces they go to, and it returns the root as it
was: the pair it creates there is gone again when it ends.

The conditions are exact, and the host is arbitrary. Nothing is said of blocks
that fail halfway.

Whether the operations of a plan are applied to a host or handed to the simulated
host makes no difference (`provision_host_eq_ok_iff`), so the plan is all that has to
be looked at.
-/

namespace Testbed

/-! ## Names of interfaces -/

theorem Circuit.dash_mem_interfaceName (here there : String) :
    '-' ∈ (interfaceName here there).toList := by
  simp [interfaceName]

/-- No circuit makes an interface that looks like the bridge of a segment. -/
theorem Circuit.interfaceName_ne_bridgeName (here there : String) :
    interfaceName here there ≠ bridgeName := fun heq =>
  absurd (heq ▸ dash_mem_interfaceName here there) (by decide)

theorem Circuit.interfaceName_ne_loopbackName (here there : String) :
    interfaceName here there ≠ loopbackName := fun heq =>
  absurd (heq ▸ dash_mem_interfaceName here there) (by decide)

namespace Host

variable {h h' : Host} {ns interface name : String}

/-! ## Namespaces -/

/-- What is in the namespace of a segment before any circuit leads there. -/
def segmentInterfaces : NameMap Interface :=
  loopbackOnly.insert bridgeName { kind := .bridge, up := true }

/-- What is in the namespace of a device before any circuit leads there. -/
def deviceInterfaces : NameMap Interface :=
  (∅ : NameMap Interface).insert loopbackName
    { kind := .loopback, forwarding := true, rpFilter := false }

theorem find?_segmentInterfaces_eq_some_iff {i : Interface} :
    segmentInterfaces.find? name = some i ↔
      (name = loopbackName ∧ i = { kind := .loopback }) ∨
        (name = bridgeName ∧ i = { kind := .bridge, up := true }) := by
  have hne : bridgeName ≠ loopbackName := by decide
  rw [segmentInterfaces, NameMap.find?_insert, find?_loopbackOnly]
  split
  · next hbridge => simp [hbridge, hne, eq_comm]
  · next hbridge =>
    split
    · next hloopback => simp [hloopback, hne.symm, eq_comm]
    · next hloopback => simp [hloopback, hbridge]

theorem find?_deviceInterfaces_eq_some_iff {i : Interface} :
    deviceInterfaces.find? name = some i ↔
      name = loopbackName ∧
        i = { kind := .loopback, forwarding := true, rpFilter := false } := by
  rw [deviceInterfaces, NameMap.find?_insert]
  split
  · next hloopback => simp [hloopback, eq_comm]
  · next hloopback => simp [hloopback]

/-- A block that begins by creating a namespace and then cannot fail. -/
theorem applyAll_createNamespace_eq_ok_iff {ops : List Operation} {interfaces : NameMap Interface}
    (hops : (h.setInterfaces name loopbackOnly).applyAll ops =
      .ok (h.setInterfaces name interfaces)) :
    h.applyAll (.createNamespace name :: ops) = .ok h' ↔
      name ∉ h.namespaces ∧ h' = h.setInterfaces name interfaces := by
  refine eq_ok_iff_of_imp (fun hnew => ?_) (fun hok => ?_)
  · exact applyAll_cons_eq_ok_iff.mpr ⟨_, createNamespace_eq_ok_iff.mpr ⟨hnew, rfl⟩, hops⟩
  · obtain ⟨_, hop, -⟩ := applyAll_cons_eq_ok_iff.mp hok
    exact (createNamespace_eq_ok_iff.mp hop).1

theorem applyAll_segment_eq_ok_iff :
    h.applyAll (Plan.segment name) = .ok h' ↔
      name ∉ h.namespaces ∧ h' = h.setInterfaces name segmentInterfaces := by
  refine applyAll_createNamespace_eq_ok_iff ?_
  have hpresent : name ∈ (h.setInterfaces name loopbackOnly).namespaces :=
    mem_namespaces_setInterfaces.mpr (.inl rfl)
  have hfree : (h.setInterfaces name loopbackOnly).interface? name bridgeName = none := by
    rw [interface?_setInterfaces, if_pos rfl]
    rfl
  refine applyAll_cons_eq_ok_iff.mpr ⟨_, createBridge_eq_ok_iff.mpr ⟨hpresent, hfree, rfl⟩, ?_⟩
  refine applyAll_cons_eq_ok_iff.mpr ⟨_, setUp_eq_ok_iff.mpr ⟨{ kind := .bridge }, ?_, rfl⟩, ?_⟩
  · rw [interface?_setInterface, if_pos ⟨rfl, rfl⟩]
  · rw [setInterface_setInterface, setInterface_setInterfaces]
    rfl

theorem applyAll_device_eq_ok_iff :
    h.applyAll (Plan.device name) = .ok h' ↔
      name ∉ h.namespaces ∧ h' = h.setInterfaces name deviceInterfaces := by
  refine applyAll_createNamespace_eq_ok_iff ?_
  have hpresent (interfaces : NameMap Interface) :
      name ∈ (h.setInterfaces name interfaces).namespaces :=
    mem_namespaces_setInterfaces.mpr (.inl rfl)
  refine applyAll_cons_eq_ok_iff.mpr ⟨_, enableForwarding_eq_ok_iff.mpr
    ⟨hpresent _, (withAllChanged_setInterfaces _ _).symm⟩, ?_⟩
  refine applyAll_cons_eq_ok_iff.mpr ⟨_, disableReversePathFilter_eq_ok_iff.mpr
    ⟨hpresent _, (withAllChanged_setInterfaces _ _).symm⟩, ?_⟩
  rfl

/-! ## Circuits -/

/-- The two operations that take an end of a veth pair to its namespace. -/
theorem applyAll_move_setUp_eq_ok_iff :
    h.applyAll [.move interface ns, .setUp ns interface] = .ok h' ↔
      ∃ i, h.root.find? interface = some i ∧ ns ∈ h.namespaces ∧
        h.interface? ns interface = none ∧ h' = h.withMoved interface ns { i with up := true } := by
  have hup (i : Interface) : (h.withMoved interface ns { i with up := false }).applyAll
      [.setUp ns interface] = .ok (h.withMoved interface ns { i with up := true }) := by
    have hin : (h.withMoved interface ns { i with up := false }).interface? ns interface =
        some { i with up := false } := by
      rw [interface?_withMoved, if_pos ⟨rfl, rfl⟩]
    refine applyAll_cons_eq_ok_iff.mpr ⟨_, setUp_eq_ok_iff.mpr ⟨_, hin, rfl⟩, ?_⟩
    rw [setInterface_withMoved]
    rfl
  rw [applyAll_cons_eq_ok_iff]
  constructor
  · intro hok
    obtain ⟨_, hop, hok⟩ := hok
    obtain ⟨i, hi, hns, hfree, rfl⟩ := move_eq_ok_iff.mp hop
    rw [hup] at hok
    exact ⟨i, hi, hns, hfree, by cases hok; rfl⟩
  · intro hcond
    obtain ⟨i, hi, hns, hfree, rfl⟩ := hcond
    exact ⟨_, move_eq_ok_iff.mpr ⟨i, hi, hns, hfree, rfl⟩, hup i⟩

/-- The host with two interfaces set, which the ends of a veth pair will be. -/
def withEnds (h : Host) (ns left : String) (i : Interface) (other right : String) (j : Interface) :
    Host :=
  (h.setInterface ns left i).setInterface other right j

section Ends

variable {left right other : String} {i j : Interface}

theorem interface?_withEnds_left (hne : left ≠ right) :
    (h.withEnds ns left i other right j).interface? ns left = some i := by
  rw [withEnds, interface?_setInterface, if_neg fun heq => hne heq.2, interface?_setInterface,
    if_pos ⟨rfl, rfl⟩]

theorem interface?_withEnds_right :
    (h.withEnds ns left i other right j).interface? other right = some j := by
  rw [withEnds, interface?_setInterface, if_pos ⟨rfl, rfl⟩]

theorem interface?_withEnds_of_ne (hleft : name ≠ left) (hright : name ≠ right) (ns' : String) :
    (h.withEnds ns left i other right j).interface? ns' name = h.interface? ns' name := by
  rw [withEnds, interface?_setInterface, if_neg fun heq => hright heq.2, interface?_setInterface,
    if_neg fun heq => hleft heq.2]

theorem setInterface_withEnds_left (hne : left ≠ right) (i' : Interface) :
    (h.withEnds ns left i other right j).setInterface ns left i' =
      h.withEnds ns left i' other right j := by
  rw [withEnds, setInterface_comm hne.symm, setInterface_setInterface]
  rfl

theorem setInterface_withEnds_right (j' : Interface) :
    (h.withEnds ns left i other right j).setInterface other right j' =
      h.withEnds ns left i other right j' :=
  setInterface_setInterface j j'

/-- A pair made in the root and taken out of it leaves no trace there. -/
theorem withMoved_withMoved_withVethPair (hleft : left ∉ h.root) (hright : right ∉ h.root) :
    ((h.withVethPair left right).withMoved left ns i).withMoved right other j =
      h.withEnds ns left i other right j := by
  refine ext_interface? (fun name => ?_) (fun _ => Iff.rfl) (fun _ _ => rfl)
  rw [find?_root_withMoved, find?_root_withMoved, find?_root_withVethPair]
  by_cases hr : name = right
  · rw [if_pos hr, hr]
    exact (NameMap.find?_eq_none_iff.mpr hright).symm
  · by_cases hl : name = left
    · rw [if_neg hr, if_pos hl, hl]
      exact (NameMap.find?_eq_none_iff.mpr hleft).symm
    · rw [if_neg hr, if_neg hl, if_neg hr, if_neg hl]
      rfl

/-- The operations with which a circuit begins, however it is addressed. -/
theorem applyAll_pair_eq_ok_iff :
    h.applyAll [.createVethPair left right, .move left ns, .setUp ns left, .move right other,
        .setUp other right] = .ok h' ↔
      left ∉ h.root ∧ right ∉ h.root ∧ left ≠ right ∧
        (ns ∈ h.namespaces ∧ h.interface? ns left = none) ∧
        (other ∈ h.namespaces ∧ h.interface? other right = none) ∧
        h' = h.withEnds ns left { kind := .veth right, up := true }
          other right { kind := .veth left, up := true } := by
  have hsplit : [.createVethPair left right, .move left ns, .setUp ns left, .move right other,
      .setUp other right] = Operation.createVethPair left right ::
        ([.move left ns, .setUp ns left] ++ [.move right other, .setUp other right]) := rfl
  rw [hsplit, applyAll_cons_eq_ok_iff]
  simp only [applyAll_append_eq_ok_iff, applyAll_move_setUp_eq_ok_iff]
  constructor
  · intro hok
    obtain ⟨_, hop, _, ⟨i, hi, hns, hfree, rfl⟩, j, hj, hother, hfree', rfl⟩ := hok
    obtain ⟨hleft, hright, hne, rfl⟩ := createVethPair_eq_ok_iff.mp hop
    rw [find?_root_withVethPair, if_neg hne, if_pos rfl] at hi
    rw [find?_root_withMoved, if_neg hne.symm, find?_root_withVethPair, if_pos rfl] at hj
    rw [mem_namespaces_withMoved] at hother
    rw [interface?_withMoved, if_neg fun heq => hne heq.2.symm] at hfree'
    refine ⟨hleft, hright, hne, ⟨hns, hfree⟩, ⟨?_, hfree'⟩, ?_⟩
    · exact hother.elim (fun heq => heq ▸ hns) id
    · cases hi
      cases hj
      exact withMoved_withMoved_withVethPair hleft hright
  · intro hcond
    obtain ⟨hleft, hright, hne, ⟨hns, hfree⟩, ⟨hother, hfree'⟩, rfl⟩ := hcond
    refine ⟨_, createVethPair_eq_ok_iff.mpr ⟨hleft, hright, hne, rfl⟩,
      _, ⟨{ kind := .veth right }, ?_, hns, hfree, rfl⟩,
      { kind := .veth left }, ?_, mem_namespaces_withMoved.mpr (.inr hother), ?_,
      (withMoved_withMoved_withVethPair hleft hright).symm⟩
    · rw [find?_root_withVethPair, if_neg hne, if_pos rfl]
    · rw [find?_root_withMoved, if_neg hne.symm, find?_root_withVethPair, if_pos rfl]
    · rw [interface?_withMoved, if_neg fun heq => hne heq.2.symm]
      exact hfree'

theorem attach_withEnds {bridge : String} (hleft : bridge ≠ left) (hright : bridge ≠ right) :
    (h.withEnds ns left i other right j).attach other right bridge = .ok h' ↔
      (h.interface? other bridge).map (·.kind) = some .bridge ∧
        h' = h.withEnds ns left i other right { j with master := some bridge } := by
  rw [attach_eq_ok_iff, interface?_withEnds_of_ne hleft hright, interface?_withEnds_right]
  simp only [Option.some.injEq, exists_eq_left', setInterface_withEnds_right]

theorem assign_withEnds_left {address : String} (hne : left ≠ right) (hi : i.addresses = []) :
    (h.withEnds ns left i other right j).assign ns left address =
      .ok (h.withEnds ns left { i with addresses := [address] } other right j) := by
  rw [assign_eq_ok_iff]
  refine ⟨i, interface?_withEnds_left hne, by rw [hi]; exact List.not_mem_nil, ?_⟩
  rw [setInterface_withEnds_left hne, hi]
  rfl

theorem assign_withEnds_right {address : String} (hj : j.addresses = []) :
    (h.withEnds ns left i other right j).assign other right address =
      .ok (h.withEnds ns left i other right { j with addresses := [address] }) := by
  rw [assign_eq_ok_iff]
  refine ⟨j, interface?_withEnds_right, by rw [hj]; exact List.not_mem_nil, ?_⟩
  rw [setInterface_withEnds_right, hj]
  rfl

end Ends

end Host

namespace Circuit

/-- The end at `a` as the circuit leaves it. -/
def endAtA (c : Circuit) : Interface where
  kind := .veth c.interfaces.2
  up := true
  addresses := [c.addressing.ends.1]

/-- The end at `b` as the circuit leaves it. -/
def endAtB (c : Circuit) : Interface where
  kind := .veth c.interfaces.1
  up := true
  master := if c.addressing.isBridged then some bridgeName else none
  addresses := c.addressing.ends.2.toList

/-- What a circuit asks of a host. -/
structure Fits (c : Circuit) (h : Host) : Prop where
  a_free_root : c.interfaces.1 ∉ h.root
  b_free_root : c.interfaces.2 ∉ h.root
  interfaces_ne : c.interfaces.1 ≠ c.interfaces.2
  a_mem : c.a ∈ h.namespaces
  a_free : h.interface? c.a c.interfaces.1 = none
  b_mem : c.b ∈ h.namespaces
  b_free : h.interface? c.b c.interfaces.2 = none
  bridge : c.addressing.isBridged = true →
    (h.interface? c.b bridgeName).map (·.kind) = some .bridge

end Circuit

namespace Host

variable {h h' : Host} {c : Circuit}

/-- The host with both ends of a circuit in place. -/
def withCircuit (h : Host) (c : Circuit) : Host :=
  h.withEnds c.a c.interfaces.1 c.endAtA c.b c.interfaces.2 c.endAtB

theorem applyAll_addressing_eq_ok_iff (hne : c.interfaces.1 ≠ c.interfaces.2) :
    (h.withEnds c.a c.interfaces.1 { kind := .veth c.interfaces.2, up := true }
        c.b c.interfaces.2 { kind := .veth c.interfaces.1, up := true }).applyAll
        (Plan.addressing c) = .ok h' ↔
      (c.addressing.isBridged = true →
        (h.interface? c.b bridgeName).map (·.kind) = some .bridge) ∧ h' = h.withCircuit c := by
  have hleft : bridgeName ≠ c.interfaces.1 := (Circuit.interfaceName_ne_bridgeName _ _).symm
  have hright : bridgeName ≠ c.interfaces.2 := (Circuit.interfaceName_ne_bridgeName _ _).symm
  rcases c with ⟨a, b, address | block⟩
  · refine eq_ok_iff_of_imp (fun hkind => ?_) (fun hok _ => ?_)
    · exact applyAll_cons_eq_ok_iff.mpr ⟨_, (attach_withEnds hleft hright).mpr ⟨hkind rfl, rfl⟩,
        applyAll_cons_eq_ok_iff.mpr ⟨_, assign_withEnds_left hne rfl, rfl⟩⟩
    · obtain ⟨_, hop, -⟩ := applyAll_cons_eq_ok_iff.mp hok
      exact ((attach_withEnds hleft hright).mp hop).1
  · refine eq_ok_iff_of_imp (fun _ => ?_) (fun _ hbridged => nomatch hbridged)
    exact applyAll_cons_eq_ok_iff.mpr ⟨_, assign_withEnds_left hne rfl,
      applyAll_cons_eq_ok_iff.mpr ⟨_, assign_withEnds_right rfl, rfl⟩⟩

theorem applyAll_circuit_eq_ok_iff :
    h.applyAll (Plan.circuit c) = .ok h' ↔ c.Fits h ∧ h' = h.withCircuit c := by
  rw [Plan.circuit, applyAll_append_eq_ok_iff]
  simp only [applyAll_pair_eq_ok_iff]
  constructor
  · intro hok
    obtain ⟨_, ⟨haroot, hbroot, hne, ⟨ha, hafree⟩, ⟨hb, hbfree⟩, rfl⟩, hok⟩ := hok
    obtain ⟨hbridge, rfl⟩ := (applyAll_addressing_eq_ok_iff hne).mp hok
    exact ⟨⟨haroot, hbroot, hne, ha, hafree, hb, hbfree, hbridge⟩, rfl⟩
  · intro hcond
    obtain ⟨⟨haroot, hbroot, hne, ha, hafree, hb, hbfree, hbridge⟩, rfl⟩ := hcond
    exact ⟨_, ⟨haroot, hbroot, hne, ⟨ha, hafree⟩, ⟨hb, hbfree⟩, rfl⟩,
      (applyAll_addressing_eq_ok_iff hne).mpr ⟨hbridge, rfl⟩⟩

end Host

/-! ## The simulated host -/

namespace Host

variable {h h' : Host}

/-- The simulated host takes an operation if and only if `apply` does. -/
theorem run_host_apply (op : Operation) :
    (Sink.host.apply op).run.run h =
      match h.apply op with
      | .ok next => (.ok (), next)
      | .error fault => (.error fault, h) := by
  show ((match h.apply op with
    | .ok next => set next
    | .error fault => throw fault : ExceptT Fault (StateM Host) Unit)).run.run h = _
  cases h.apply op with
  | error fault => rfl
  | ok next => rfl

theorem run_takeAll_host_eq_iff {ops : List Operation} {m n : Nat} :
    (Sink.host.takeAll m ops).run.run h = (.ok n, h') ↔
      h.applyAll ops = .ok h' ∧ n = m + ops.length := by
  induction ops generalizing h m with
  | nil =>
    show ((.ok m, h) : Except Fault Nat × Host) = (.ok n, h') ↔ _
    rw [applyAll_nil]
    simp [eq_comm, and_comm]
  | cons op ops ih =>
    rw [Sink.run_takeAll_cons, applyAll_cons_eq_ok_iff, run_host_apply]
    cases hop : h.apply op with
    | error fault =>
      exact iff_of_false (fun hrun => nomatch hrun) fun ⟨⟨_, hnone, _⟩, _⟩ => nomatch hnone
    | ok k =>
      simp only [ih, Except.ok.injEq, exists_eq_left', List.length_cons]
      rw [Nat.add_right_comm, Nat.add_assoc]

end Host

theorem provision_host_eq_ok_iff {t : Topology} {h h' : Host} {n : Nat} :
    (provision t Sink.host).run.run h = (.ok n, h') ↔
      h.applyAll t.plan = .ok h' ∧
        n = 3 * (t.segments.length + t.devices.length) + 7 * t.circuits.length := by
  rw [Sink.provision_eq_takeAll, Host.run_takeAll_host_eq_iff, Nat.zero_add, t.length_plan]

end Testbed
