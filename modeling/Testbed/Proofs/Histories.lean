import Testbed.Proofs.Fields
import Testbed.Proofs.Provisioning

/-!
# What a host has been through

A host that refuses an operation stays as it is, and whoever hands operations over
may go on with the next one. So a host is reached by a history of operations in
which some were taken and others were not, and nothing in the host tells which.

What holds of every such host is what the accepted operations preserve
(`attemptAll_induction`): a refusal is no step. The first thing that is preserved is
that a namespace is there. Nothing takes a namespace away, which is why a topology
cannot be built again where it was built once, whatever happened in between, and
why a list of operations that creates a namespace does not succeed twice.
-/

namespace Testbed

variable {h h' k : Host} {op : Operation} {ops : List Operation} {ns : String} {t : Topology}

namespace Host

/-- The host after it was handed an operation, whether it took it or not. -/
def attempt (h : Host) (op : Operation) : Host :=
  ((Sink.host.apply op).run.run h).2

/-- The host after it was handed all of these, one after the other. -/
def attemptAll (h : Host) (ops : List Operation) : Host :=
  ops.foldl attempt h

theorem attempt_of_ok (hok : h.apply op = .ok h') : h.attempt op = h' := by
  rw [attempt, run_host_apply, hok]

theorem attempt_of_error {fault : Fault} (herror : h.apply op = .error fault) :
    h.attempt op = h := by
  rw [attempt, run_host_apply, herror]

/-- What the operations preserve that a host takes holds of all that it goes through. -/
theorem attemptAll_induction {P : Host → Prop}
    (hstep : ∀ {k k' : Host} {op : Operation}, k.apply op = .ok k' → P k → P k') (hstart : P h)
    (ops : List Operation) : P (h.attemptAll ops) := by
  induction ops generalizing h with
  | nil => exact hstart
  | cons op ops ih =>
    have hnext : P (h.attempt op) := by
      cases hop : h.apply op with
      | error fault =>
        rw [attempt_of_error hop]
        exact hstart
      | ok k =>
        rw [attempt_of_ok hop]
        exact hstep hop hstart
    exact ih hnext

theorem applyAll_induction {P : Host → Prop}
    (hstep : ∀ {k k' : Host} {op : Operation}, k.apply op = .ok k' → P k → P k') (hstart : P h)
    (hok : h.applyAll ops = .ok h') : P h' := by
  induction ops generalizing h with
  | nil =>
    cases hok
    exact hstart
  | cons op ops ih =>
    obtain ⟨k, hop, hok⟩ := applyAll_cons_eq_ok_iff.mp hok
    exact ih (hstep hop hstart) hok

/-- Either a host takes all the operations or there is the first that it refuses. -/
theorem applyAll_ok_or_error (h : Host) (ops : List Operation) :
    (∃ h', h.applyAll ops = .ok h') ∨
      ∃ done op rest k fault, ops = done ++ op :: rest ∧ h.applyAll done = .ok k ∧
        k.apply op = .error fault := by
  induction ops generalizing h with
  | nil => exact .inl ⟨h, rfl⟩
  | cons op ops ih =>
    cases hop : h.apply op with
    | error fault => exact .inr ⟨[], op, ops, h, fault, rfl, rfl, hop⟩
    | ok k =>
      rcases ih k with ⟨h', hok⟩ | ⟨done, next, rest, k', fault, rfl, hdone, hnext⟩
      · exact .inl ⟨h', applyAll_cons_eq_ok_iff.mpr ⟨k, hop, hok⟩⟩
      · exact .inr ⟨op :: done, next, rest, k', fault, rfl,
          applyAll_cons_eq_ok_iff.mpr ⟨k, hop, hdone⟩, hnext⟩

/-! ## Namespaces stay -/

theorem mem_namespaces_of_apply (hok : h.apply op = .ok h') (hns : ns ∈ h.namespaces) :
    ns ∈ h'.namespaces := by
  cases op with
  | createNamespace name =>
    obtain ⟨-, rfl⟩ := createNamespace_eq_ok_iff.mp hok
    exact mem_namespaces_setInterfaces.mpr (.inr hns)
  | createBridge there bridge =>
    obtain ⟨-, -, rfl⟩ := createBridge_eq_ok_iff.mp hok
    exact mem_namespaces_setInterface.mpr (.inr hns)
  | setUp there interface =>
    obtain ⟨i, -, rfl⟩ := setUp_eq_ok_iff.mp hok
    exact mem_namespaces_setInterface.mpr (.inr hns)
  | enableForwarding there =>
    obtain ⟨-, rfl⟩ := enableForwarding_eq_ok_iff.mp hok
    exact mem_namespaces_setInterfaces.mpr (.inr hns)
  | disableReversePathFilter there =>
    obtain ⟨-, rfl⟩ := disableReversePathFilter_eq_ok_iff.mp hok
    exact mem_namespaces_setInterfaces.mpr (.inr hns)
  | createVethPair left right =>
    obtain ⟨-, -, -, rfl⟩ := createVethPair_eq_ok_iff.mp hok
    exact hns
  | move interface there =>
    obtain ⟨i, -, -, -, rfl⟩ := move_eq_ok_iff.mp hok
    exact mem_namespaces_withMoved.mpr (.inr hns)
  | attach there interface bridge =>
    obtain ⟨-, i, -, rfl⟩ := attach_eq_ok_iff.mp hok
    exact mem_namespaces_setInterface.mpr (.inr hns)
  | assign there interface address =>
    obtain ⟨i, -, -, rfl⟩ := assign_eq_ok_iff.mp hok
    exact mem_namespaces_setInterface.mpr (.inr hns)

theorem mem_namespaces_attemptAll (hns : ns ∈ h.namespaces) (ops : List Operation) :
    ns ∈ (h.attemptAll ops).namespaces :=
  attemptAll_induction (P := fun k => ns ∈ k.namespaces) mem_namespaces_of_apply hns ops

theorem mem_namespaces_of_applyAll (hok : h.applyAll ops = .ok h') (hns : ns ∈ h.namespaces) :
    ns ∈ h'.namespaces :=
  applyAll_induction (P := fun k => ns ∈ k.namespaces) mem_namespaces_of_apply hns hok

/-- What was created is there in the end. -/
theorem mem_namespaces_of_createNamespace_mem (hok : h.applyAll ops = .ok h')
    (hmem : .createNamespace ns ∈ ops) : ns ∈ h'.namespaces := by
  obtain ⟨done, rest, rfl⟩ := List.append_of_mem hmem
  obtain ⟨k, -, hok⟩ := applyAll_append_eq_ok_iff.mp hok
  obtain ⟨k', hop, hok⟩ := applyAll_cons_eq_ok_iff.mp hok
  obtain ⟨-, rfl⟩ := createNamespace_eq_ok_iff.mp hop
  exact mem_namespaces_of_applyAll hok (mem_namespaces_setInterfaces.mpr (.inl rfl))

theorem apply_createNamespace_of_mem (hns : ns ∈ h.namespaces) :
    h.apply (.createNamespace ns) = .error (.namespaceExists ns) :=
  if_pos hns

/-- Where all the operations were taken once, one of them is refused the next time, and
no namespace is created before that. -/
theorem exists_error_of_applyAll (hok : h.applyAll ops = .ok h')
    (hcreates : ∃ name, .createNamespace name ∈ ops) :
    ∃ done op rest k fault, ops = done ++ op :: rest ∧ (∀ name, .createNamespace name ∉ done) ∧
      h'.applyAll done = .ok k ∧ k.apply op = .error fault := by
  -- A creation that was taken the second time would be of a namespace that is there.
  have hnone {done rest : List Operation} {k : Host} (hops : ops = done ++ rest)
      (hdone : h'.applyAll done = .ok k) (name : String) : .createNamespace name ∉ done := by
    intro hmem
    obtain ⟨before, after, rfl⟩ := List.append_of_mem hmem
    have hthere : name ∈ h'.namespaces := by
      refine mem_namespaces_of_createNamespace_mem hok ?_
      rw [hops]
      exact List.mem_append_left _ hmem
    obtain ⟨g, hbefore, hafter⟩ := applyAll_append_eq_ok_iff.mp hdone
    obtain ⟨g', hop, -⟩ := applyAll_cons_eq_ok_iff.mp hafter
    rw [apply_createNamespace_of_mem (mem_namespaces_of_applyAll hbefore hthere)] at hop
    cases hop
  rcases applyAll_ok_or_error h' ops with ⟨k, hall⟩ | ⟨done, op, rest, k, fault, hops, hdone, hop⟩
  · obtain ⟨name, hmem⟩ := hcreates
    exact absurd hmem (hnone (List.append_nil ops).symm hall name)
  · exact ⟨done, op, rest, k, fault, hops, hnone hops hdone, hdone, hop⟩

end Host

/-! ## Provisioning again -/

/-- A plan begins with the first namespace. -/
theorem Topology.exists_plan_eq_cons (hns : t.namespaces.head? = some ns) :
    ∃ rest, t.plan = .createNamespace ns :: rest := by
  obtain ⟨after, hnamespaces⟩ := List.head?_eq_some_iff.mp hns
  have hsplit : t.namespaces = [] ++ ns :: after := hnamespaces
  obtain ⟨done, rest, hplan, hlength, -⟩ := exists_plan_eq_append hsplit
  rw [List.length_eq_zero_iff.mp hlength] at hplan
  exact ⟨rest, hplan⟩

/-- Whatever a host went through after a topology was built on it, the topology is not
built on it again, and the attempt leaves no trace. -/
theorem provision_again_refused :
    (∀ (t : Topology) (ns : String), t.namespaces.head? = some ns →
      ∀ (h h₁ : Host) (n : Nat), (provision t Sink.host).run.run h = (.ok n, h₁) →
        ∀ ops : List Operation,
          (provision t Sink.host).run.run (h₁.attemptAll ops) =
            (.error (.namespaceExists ns), h₁.attemptAll ops)) ∧
    ∀ (ops : List Operation) (h h₁ : Host), (∃ name, .createNamespace name ∈ ops) →
      h.applyAll ops = .ok h₁ →
        ∃ done op rest k fault, ops = done ++ op :: rest ∧
          (∀ name, .createNamespace name ∉ done) ∧
          h₁.applyAll done = .ok k ∧ k.apply op = .error fault := by
  refine ⟨fun t ns hns h h₁ n hbuilt ops => ?_,
    fun ops h h₁ hcreates hok => Host.exists_error_of_applyAll hok hcreates⟩
  obtain ⟨rest, hplan⟩ := Topology.exists_plan_eq_cons hns
  obtain ⟨hok, -⟩ := provision_host_eq_ok_iff.mp hbuilt
  have hthere : ns ∈ h₁.namespaces :=
    Host.mem_namespaces_of_createNamespace_mem hok (hplan ▸ List.mem_cons_self)
  have hstill : ns ∈ (h₁.attemptAll ops).namespaces := Host.mem_namespaces_attemptAll hthere ops
  rw [Sink.provision_eq_takeAll, hplan, Sink.run_takeAll_cons, Host.run_host_apply,
    Host.apply_createNamespace_of_mem hstill]

/-- The bridge of a segment is changed in between, and an operation is refused. -/
theorem provision_again_refused_twoRouterLan :
    ∃ h₁, (provision Topology.twoRouterLan Sink.host).run.run Host.inUse = (.ok 23, h₁) ∧
      (provision Topology.twoRouterLan Sink.host).run.run
          (h₁.attemptAll [.createNamespace "X", .assign "L" "br0" "10.0.0.9/24"]) =
        (.error (.namespaceExists "L"),
          h₁.attemptAll [.createNamespace "X", .assign "L" "br0" "10.0.0.9/24"]) ∧
      ∃ done op rest k fault, Topology.twoRouterLan.plan = done ++ op :: rest ∧
        (∀ name, .createNamespace name ∉ done) ∧
        h₁.applyAll done = .ok k ∧ k.apply op = .error fault := by
  have hw : Topology.twoRouterLan.WellFormed := Topology.validate_eq_ok_iff.mp rfl
  obtain ⟨-, h₁, -, hok, -⟩ := hw.exists_applyAll_plan_of_hasRoomOn (h := Host.inUse) (by decide)
  have hbuilt : (provision Topology.twoRouterLan Sink.host).run.run Host.inUse = (.ok 23, h₁) :=
    provision_host_eq_ok_iff.mpr ⟨hok, rfl⟩
  obtain ⟨hagain, hlist⟩ := provision_again_refused
  exact ⟨h₁, hbuilt, hagain _ "L" rfl _ _ _ hbuilt _,
    hlist _ _ _ ⟨"L", List.mem_cons_self⟩ hok⟩

end Testbed
