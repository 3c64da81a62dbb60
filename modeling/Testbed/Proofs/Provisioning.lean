import Testbed.Run
import Testbed.Topology.Examples
import Testbed.Proofs.Buildable
import Testbed.Proofs.Territory

/-!
# Provisioning a host that is in use

A valid topology is built on any host that has room for it, and on no other. Room
means names: no namespace of the topology is there yet, and no name of an interface
is taken in the root. What else the host holds does not matter and is not changed,
and what is added is what `check` adds to an empty host.

That room suffices is not proved by running the plan again. It runs on the empty
host, by `exists_applyAll_plan`, and a host with room cannot be told from the empty
one where the plan looks. That room is needed takes a run apart: no part of a plan
removes a namespace or leaves anything behind in the root, so what a part finds
taken was taken in the beginning.
-/

namespace Testbed

variable {t : Topology} {h h' k : Host} {c : Circuit} {name : String}

/-! ## What no part of a plan takes back -/

/-- The root is the same and every namespace is still there. -/
structure Host.GrowsTo (h k : Host) : Prop where
  root : k.root = h.root
  namespaces : ∀ ns ∈ h.namespaces, ns ∈ k.namespaces

namespace Host

theorem GrowsTo.refl (h : Host) : h.GrowsTo h :=
  ⟨rfl, fun _ => id⟩

theorem GrowsTo.trans {g : Host} (hgh : g.GrowsTo h) (hhk : h.GrowsTo k) : g.GrowsTo k :=
  ⟨hhk.root.trans hgh.root, fun ns hns => hhk.namespaces ns (hgh.namespaces ns hns)⟩

theorem growsTo_setInterfaces (interfaces : NameMap Interface) :
    h.GrowsTo (h.setInterfaces name interfaces) :=
  ⟨rfl, fun _ hns => mem_namespaces_setInterfaces.mpr (.inr hns)⟩

theorem growsTo_segment (hok : h.applyAll (Plan.segment name) = .ok h') : h.GrowsTo h' := by
  obtain ⟨-, rfl⟩ := applyAll_segment_eq_ok_iff.mp hok
  exact growsTo_setInterfaces _

theorem growsTo_device (hok : h.applyAll (Plan.device name) = .ok h') : h.GrowsTo h' := by
  obtain ⟨-, rfl⟩ := applyAll_device_eq_ok_iff.mp hok
  exact growsTo_setInterfaces _

theorem growsTo_circuit (hok : h.applyAll (Plan.circuit c) = .ok h') : h.GrowsTo h' := by
  obtain ⟨-, rfl⟩ := applyAll_circuit_eq_ok_iff.mp hok
  exact ⟨rfl, fun _ hns =>
    mem_namespaces_setInterface.mpr (.inr (mem_namespaces_setInterface.mpr (.inr hns)))⟩

/-- A run of blocks grows, and each block ran on a host that had grown until then. -/
theorem growsTo_flatMap {α : Type} {block : α → List Operation} {xs : List α}
    (hblock : ∀ (x : α) (k k' : Host), k.applyAll (block x) = .ok k' → k.GrowsTo k')
    (hok : h.applyAll (xs.flatMap block) = .ok h') :
    h.GrowsTo h' ∧ ∀ x ∈ xs, ∃ k k', h.GrowsTo k ∧ k.applyAll (block x) = .ok k' := by
  induction xs generalizing h with
  | nil =>
    cases hok
    exact ⟨.refl _, fun _ hx => absurd hx List.not_mem_nil⟩
  | cons x xs ih =>
    obtain ⟨k, hx, hxs⟩ := applyAll_append_eq_ok_iff.mp hok
    have hgrows : h.GrowsTo k := hblock x h k hx
    obtain ⟨hrest, hruns⟩ := ih hxs
    refine ⟨hgrows.trans hrest, List.forall_mem_cons.mpr ⟨⟨h, k, .refl h, hx⟩, fun y hy => ?_⟩⟩
    obtain ⟨g, g', hg, hy⟩ := hruns y hy
    exact ⟨g, g', hgrows.trans hg, hy⟩

end Host

namespace Topology

/-- The names that a topology would take are not taken on the host. -/
structure HasRoomOn (t : Topology) (h : Host) : Prop where
  namespaces : ∀ ns ∈ t.namespaces, ns ∉ h.namespaces
  interfaces : ∀ c ∈ t.circuits, c.interfaces.1 ∉ h.root ∧ c.interfaces.2 ∉ h.root

instance (t : Topology) (h : Host) : Decidable (t.HasRoomOn h) :=
  decidable_of_iff
    ((∀ ns ∈ t.namespaces, ns ∉ h.namespaces) ∧
      ∀ c ∈ t.circuits, c.interfaces.1 ∉ h.root ∧ c.interfaces.2 ∉ h.root)
    ⟨fun hroom => ⟨hroom.1, hroom.2⟩, fun hroom => ⟨hroom.1, hroom.2⟩⟩

theorem hasRoomOn_of_applyAll_plan (hok : h.applyAll t.plan = .ok h') :
    h.GrowsTo h' ∧ t.HasRoomOn h := by
  rw [t.plan_eq, Host.applyAll_append_eq_ok_iff] at hok
  obtain ⟨h₂, hok, hcircuits⟩ := hok
  obtain ⟨h₁, hsegments, hdevices⟩ := Host.applyAll_append_eq_ok_iff.mp hok
  obtain ⟨hgrows₁, hsegments⟩ := Host.growsTo_flatMap (fun _ _ _ => Host.growsTo_segment) hsegments
  obtain ⟨hgrows₂, hdevices⟩ := Host.growsTo_flatMap (fun _ _ _ => Host.growsTo_device) hdevices
  obtain ⟨hgrows₃, hcircuits⟩ := Host.growsTo_flatMap (fun _ _ _ => Host.growsTo_circuit) hcircuits
  refine ⟨(hgrows₁.trans hgrows₂).trans hgrows₃, fun ns hns => ?_, fun c hc => ?_⟩
  · rcases List.mem_append.mp hns with hns | hns
    · obtain ⟨k, _, hk, hblock⟩ := hsegments ns hns
      exact mt (hk.namespaces ns) (Host.applyAll_segment_eq_ok_iff.mp hblock).1
    · obtain ⟨k, _, hk, hblock⟩ := hdevices ns hns
      exact mt ((hgrows₁.trans hk).namespaces ns) (Host.applyAll_device_eq_ok_iff.mp hblock).1
  · obtain ⟨k, _, hk, hblock⟩ := hcircuits c hc
    have hfits : c.Fits k := (Host.applyAll_circuit_eq_ok_iff.mp hblock).1
    rw [← ((hgrows₁.trans hgrows₂).trans hk).root]
    exact ⟨hfits.a_free_root, hfits.b_free_root⟩

/-! ## What a host with room looks like to a plan -/

theorem HasRoomOn.agreesAt_empty (hroom : t.HasRoomOn h) {l : Location} (hl : t.Owns l) :
    (∅ : Host).AgreesAt h l := by
  cases l with
  | outside name =>
    have hfree : name ∉ h.root := by
      obtain ⟨c, hc, rfl | rfl⟩ := Circuit.mem_interfaceNames.mp hl
      · exact (hroom.interfaces c hc).1
      · exact (hroom.interfaces c hc).2
    exact (NameMap.find?_eq_none_iff.mpr hfree).symm
  | presence ns => exact iff_of_false (NameMap.not_mem_empty ns) (hroom.namespaces ns hl)
  | inside ns name => exact (Host.interface?_of_not_mem (hroom.namespaces ns hl)).symm

end Topology

/-- `h'` is `h` with all of `k` added, as far as namespaces go. -/
structure Host.Joins (h k h' : Host) : Prop where
  root : h'.root = h.root
  kept : ∀ ns ∈ h.namespaces, h'.namespaces.find? ns = h.namespaces.find? ns
  added : ∀ ns, ns ∉ h.namespaces → h'.namespaces.find? ns = k.namespaces.find? ns
  apart : ∀ ns ∈ k.namespaces, ns ∉ h.namespaces

namespace Topology.WellFormed

theorem exists_applyAll_plan_of_hasRoomOn (hw : t.WellFormed) (hroom : t.HasRoomOn h) :
    ∃ k h', (∅ : Host).applyAll t.plan = .ok k ∧ h.applyAll t.plan = .ok h' ∧ h.Joins k h' := by
  obtain ⟨k, hk, hshows⟩ := hw.exists_applyAll_plan
  obtain ⟨h', hh', hsame⟩ := Host.applyAll_congr
    (fun op hop l hl => hroom.agreesAt_empty (hw.owns_of_mem_uses hop hl)) hk
  have hframe {l : Location} (hl : ¬ t.Owns l) : h.AgreesAt h' l :=
    Host.applyAll_frame hh' fun op hop hwrites =>
      hl (hw.owns_of_mem_uses hop (Operation.mem_uses_of_mem_writes hwrites))
  refine ⟨k, h', hk, hh', (hasRoomOn_of_applyAll_plan hh').1.root, fun ns hns => ?_,
    fun ns hns => ?_, fun ns hns => ?_⟩
  · have hnot : ns ∉ t.namespaces := fun hmem => hroom.namespaces ns hmem hns
    exact Host.find?_namespaces_congr (hframe (l := .presence ns) hnot).symm
      fun name => (hframe (l := .inside ns name) hnot).symm
  · have hempty : ns ∉ (∅ : Host).namespaces := NameMap.not_mem_empty ns
    refine (Host.find?_namespaces_congr (hsame (.presence ns) (iff_of_false hempty hns))
      fun name => hsame (.inside ns name) ?_).symm
    exact (Host.interface?_of_not_mem hempty).trans (Host.interface?_of_not_mem hns).symm
  · exact hroom.namespaces ns (List.mem_append.mpr ((hshows.mem_namespaces_iff ns).mp hns))

end Topology.WellFormed

/-! ## The empty host -/

namespace Topology

theorem check_eq_ok_iff :
    t.check = .ok h ↔ t.validate = .ok () ∧ (∅ : Host).applyAll t.plan = .ok h := by
  rw [check, check_bind_eq_ok_iff, mapError_eq_ok_iff]
  refine and_congr_right fun _ => ?_
  split
  · next n host hsim =>
    obtain ⟨hplan, -⟩ := provision_host_eq_ok_iff.mp hsim
    rw [hplan, Except.ok.injEq]
    exact iff_of_eq (Except.ok.injEq host h)
  · next fault host hsim =>
    constructor
    · intro hok
      cases hok
    · intro hplan
      have hok : t.simulate = (.ok _, h) := provision_host_eq_ok_iff.mpr ⟨hplan, rfl⟩
      cases hsim.symm.trans hok

/-- What `check` returns for a valid topology. -/
theorem WellFormed.exists_check_eq_ok (hw : t.WellFormed) : ∃ h, t.check = .ok h ∧ h.Shows t := by
  obtain ⟨h, hh, hshows⟩ := hw.exists_applyAll_plan
  exact ⟨h, check_eq_ok_iff.mpr ⟨validate_eq_ok_iff.mpr hw, hh⟩, hshows⟩

theorem check_ne_refused (t : Topology) (fault : Fault) : t.check ≠ .error (.refused fault) := by
  intro hrefused
  cases hv : t.validate with
  | error violation =>
    have hinvalid : t.check = .error (.invalid violation) := by
      rw [check, hv]
      rfl
    cases hinvalid.symm.trans hrefused
  | ok _ =>
    obtain ⟨h, hok, -⟩ := (validate_eq_ok_iff.mp hv).exists_check_eq_ok
    cases hok.symm.trans hrefused

end Topology

/-! ## The theorem -/

/-- A valid topology is built exactly where there is room for it, and then it is
built beside what was there. -/
theorem provision_host_exact (t : Topology) :
    (t.validate = .ok () → ∀ h : Host,
      ((∃ n h', (provision t Sink.host).run.run h = (.ok n, h')) ↔ t.HasRoomOn h) ∧
      ∀ n h', (provision t Sink.host).run.run h = (.ok n, h') →
        n = 3 * (t.segments.length + t.devices.length) + 7 * t.circuits.length ∧
        ∃ k, t.check = .ok k ∧ h.Joins k h') ∧
    ∀ fault, t.check ≠ .error (.refused fault) := by
  refine ⟨fun hv h => ?_, Topology.check_ne_refused t⟩
  have hw : t.WellFormed := Topology.validate_eq_ok_iff.mp hv
  simp only [provision_host_eq_ok_iff]
  refine ⟨⟨?_, fun hroom => ?_⟩, ?_⟩
  · intro hok
    obtain ⟨n, h', hok, -⟩ := hok
    exact (Topology.hasRoomOn_of_applyAll_plan hok).2
  · obtain ⟨k, h', -, hok, -⟩ := hw.exists_applyAll_plan_of_hasRoomOn hroom
    exact ⟨_, h', hok, rfl⟩
  · intro n h' hok
    obtain ⟨hok, hn⟩ := hok
    obtain ⟨k, k', hk, hok', hjoins⟩ := hw.exists_applyAll_plan_of_hasRoomOn
      (Topology.hasRoomOn_of_applyAll_plan hok).2
    cases hok.symm.trans hok'
    exact ⟨hn, k, Topology.check_eq_ok_iff.mpr ⟨hv, hk⟩, hjoins⟩

/-- A host with a namespace and an interface of its own. -/
def Host.inUse : Host where
  root := (∅ : NameMap Interface).insert "eth0" { kind := .veth "eth1", up := true }
  namespaces := (∅ : NameMap (NameMap Interface)).insert "Z" Host.deviceInterfaces

theorem provision_host_exact_inUse :
    Topology.twoRouterLan.validate = .ok () ∧ Topology.twoRouterLan.HasRoomOn Host.inUse ∧
      ∃ h', (provision Topology.twoRouterLan Sink.host).run.run Host.inUse = (.ok 23, h') ∧
        ∃ k, Topology.twoRouterLan.check = .ok k ∧ Host.inUse.Joins k h' := by
  have hv : Topology.twoRouterLan.validate = .ok () := rfl
  have hroom : Topology.twoRouterLan.HasRoomOn Host.inUse := by decide
  obtain ⟨hiff, hexact⟩ := (provision_host_exact Topology.twoRouterLan).1 hv Host.inUse
  obtain ⟨n, h', hok⟩ := hiff.mpr hroom
  obtain ⟨rfl, hjoins⟩ := hexact n h' hok
  exact ⟨hv, hroom, h', hok, hjoins⟩

end Testbed
