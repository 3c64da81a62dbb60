import Testbed.Proofs.Provisioning

/-!
# The order of declaration

Two topologies that declare the same in different orders are reordered forms of
each other. Validation accepts both or neither, the hosts they describe are equal,
and the plans have the same operations: what the order decides is the order of the
plan, and which of several mistakes is reported.

Being well-formed and being shown speak of members and of duplicates, and both are
the same for a list and its permutations. So the order is gone as soon as `validate`
and `check` are replaced by what they are equivalent to.
-/

namespace Testbed

namespace Topology

/-- The same declarations in another order. Circuits keep the addressing they were
given. -/
structure Reorders (t t' : Topology) : Prop where
  devices : t.devices.Perm t'.devices
  segments : t.segments.Perm t'.segments
  circuits : t.circuits.Perm t'.circuits

variable {t t' : Topology} {c : Circuit} {ns name : String} {i : Interface} {h : Host}

namespace Reorders

theorem symm (hr : t.Reorders t') : t'.Reorders t :=
  ⟨hr.devices.symm, hr.segments.symm, hr.circuits.symm⟩

theorem namespaces (hr : t.Reorders t') : t.namespaces.Perm t'.namespaces :=
  hr.segments.append hr.devices

theorem interfaceNames (hr : t.Reorders t') :
    (Circuit.interfaceNames t.circuits).Perm (Circuit.interfaceNames t'.circuits) :=
  hr.circuits.flatMap_right _

theorem plan (hr : t.Reorders t') : t.plan.Perm t'.plan := by
  rw [plan_eq, plan_eq]
  exact ((hr.segments.flatMap_right _).append (hr.devices.flatMap_right _)).append
    (hr.circuits.flatMap_right _)

theorem admits (hr : t.Reorders t') (hc : t.Admits c) : t'.Admits c where
  a_mem := hr.devices.mem_iff.mp hc.a_mem
  a_not_mem := mt hr.segments.mem_iff.mpr hc.a_not_mem
  b_mem := hc.b_mem.imp hr.segments.mem_iff.mp hr.devices.mem_iff.mp
  ends_ne := hc.ends_ne
  isBridged_iff := hc.isBridged_iff.trans hr.segments.mem_iff
  address := hc.address

theorem wellFormed (hr : t.Reorders t') (hw : t.WellFormed) : t'.WellFormed where
  usable name hmem := hw.usable name (hr.namespaces.mem_iff.mpr hmem)
  nodup := hr.namespaces.nodup_iff.mp hw.nodup
  admits c hc := hr.admits (hw.admits c (hr.circuits.mem_iff.mpr hc))
  short name hmem := hw.short name (hr.interfaceNames.mem_iff.mpr hmem)
  nodup_interfaces := hr.interfaceNames.nodup_iff.mp hw.nodup_interfaces

theorem holds_iff (hr : t.Reorders t') : t.Holds ns name i ↔ t'.Holds ns name i := by
  simp only [Holds, hr.segments.mem_iff, hr.devices.mem_iff, hr.circuits.mem_iff]

theorem shows (hr : t.Reorders t') (hs : h.Shows t) : h.Shows t' where
  root := hs.root
  mem_namespaces_iff ns := by
    rw [hs.mem_namespaces_iff, hr.segments.mem_iff, hr.devices.mem_iff]
  interface?_eq_some_iff ns name i := by
    rw [hs.interface?_eq_some_iff, hr.holds_iff]

end Reorders

/-- Nothing but the order of the plan depends on the order of declaration. -/
theorem check_eq_of_reorders (hr : t.Reorders t') :
    (t.validate = .ok () ↔ t'.validate = .ok ()) ∧
      (t.validate = .ok () → ∃ h, t.check = .ok h ∧ t'.check = .ok h) ∧
      t'.plan.Perm t.plan := by
  simp only [validate_eq_ok_iff]
  refine ⟨⟨hr.wellFormed, hr.symm.wellFormed⟩, fun hw => ?_, hr.symm.plan⟩
  obtain ⟨h, hh, hshows⟩ := hw.exists_check_eq_ok
  obtain ⟨h', hh', hshows'⟩ := (hr.wellFormed hw).exists_check_eq_ok
  have heq : h = h' := (hr.shows hshows).unique hshows'
  exact ⟨h, hh, heq ▸ hh'⟩

theorem check_eq_of_reorders_twoRouterLan :
    twoRouterLan.validate = .ok () ∧
      ∃ t' h, t'.circuits = twoRouterLan.circuits.reverse ∧ twoRouterLan.Reorders t' ∧
        twoRouterLan.check = .ok h ∧ t'.check = .ok h := by
  have hv : twoRouterLan.validate = .ok () := rfl
  let t' : Topology :=
    { devices := ["Y", "X"], segments := ["L"], circuits := twoRouterLan.circuits.reverse }
  have hr : twoRouterLan.Reorders t' :=
    ⟨.swap "Y" "X" [], .refl _, (List.reverse_perm _).symm⟩
  obtain ⟨h, hh, hh'⟩ := (check_eq_of_reorders hr).2.1 hv
  exact ⟨hv, t', h, rfl, hr, hh, hh'⟩

end Topology

end Testbed
