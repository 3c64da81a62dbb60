import Testbed.Proofs.Provisioning

/-!
# The declared network

What a topology declares can be written down without a plan and without a host:
seven kinds of interfaces, each with the declarations that ask for it and with
everything that can be said about it. `check` returns the one host that has an
empty root, the declared namespaces, and in them the declared interfaces.

The texts below are spelled out on purpose. They do not go through the functions
that name interfaces and number their ends.
-/

namespace Testbed

variable {t : Topology} {ns name : String} {i : Interface}

namespace Topology

/-- The namespace, the name and the state of each declared interface. -/
inductive Declares (t : Topology) : String → String → Interface → Prop
  | segmentLoopback {s : String} : s ∈ t.segments →
      t.Declares s "lo" { kind := .loopback, up := false, master := none, addresses := [],
                          forwarding := false, rpFilter := true }
  | segmentBridge {s : String} : s ∈ t.segments →
      t.Declares s "br0" { kind := .bridge, up := true, master := none, addresses := [],
                           forwarding := false, rpFilter := true }
  /-- The end of a circuit that leads onto the segment. -/
  | segmentPort {a s : String} {addressing : Addressing} :
      s ∈ t.segments → ⟨a, s, addressing⟩ ∈ t.circuits →
      t.Declares s (s ++ "-" ++ a)
        { kind := .veth (a ++ "-" ++ s), up := true, master := some "br0", addresses := [],
          forwarding := false, rpFilter := true }
  /-- Forwarding is a setting of the loopback only: no other interface is there when it
  is made. -/
  | deviceLoopback {d : String} : d ∈ t.devices →
      t.Declares d "lo" { kind := .loopback, up := false, master := none, addresses := [],
                          forwarding := true, rpFilter := false }
  | devicePort {d b address : String} :
      d ∈ t.devices → ⟨d, b, .bridged address⟩ ∈ t.circuits →
      t.Declares d (d ++ "-" ++ b)
        { kind := .veth (b ++ "-" ++ d), up := true, master := none, addresses := [address],
          forwarding := false, rpFilter := true }
  | deviceNear {d b block : String} :
      d ∈ t.devices → ⟨d, b, .pointToPoint block⟩ ∈ t.circuits →
      t.Declares d (d ++ "-" ++ b)
        { kind := .veth (b ++ "-" ++ d), up := true, master := none,
          addresses := [block ++ "0/31"], forwarding := false, rpFilter := true }
  | deviceFar {a d block : String} :
      d ∈ t.devices → ⟨a, d, .pointToPoint block⟩ ∈ t.circuits →
      t.Declares d (d ++ "-" ++ a)
        { kind := .veth (a ++ "-" ++ d), up := true, master := none,
          addresses := [block ++ "1/31"], forwarding := false, rpFilter := true }

theorem WellFormed.holds_of_declares (hw : t.WellFormed) (hi : t.Declares ns name i) :
    t.Holds ns name i := by
  cases hi with
  | segmentLoopback hs => exact .inl ⟨hs, rfl⟩
  | segmentBridge hs => exact .inl ⟨hs, rfl⟩
  | segmentPort hs hc =>
    next a addressing =>
    cases addressing with
    | bridged address => exact .inr (.inr ⟨_, hc, .inr ⟨rfl, rfl, rfl⟩⟩)
    | pointToPoint block =>
      cases (hw.admits _ hc).isBridged_iff.mpr hs
  | deviceLoopback hd => exact .inr (.inl ⟨hd, rfl⟩)
  | devicePort hd hc => exact .inr (.inr ⟨_, hc, .inl ⟨rfl, rfl, rfl⟩⟩)
  | deviceNear hd hc => exact .inr (.inr ⟨_, hc, .inl ⟨rfl, rfl, rfl⟩⟩)
  | deviceFar hd hc => exact .inr (.inr ⟨_, hc, .inr ⟨rfl, rfl, rfl⟩⟩)

theorem WellFormed.declares_of_holds (hw : t.WellFormed) (hi : t.Holds ns name i) :
    t.Declares ns name i := by
  rcases hi with ⟨hs, hi⟩ | ⟨hd, hi⟩ | ⟨⟨a, b, addressing⟩, hc, hputs⟩
  · rcases Host.find?_segmentInterfaces_eq_some_iff.mp hi with ⟨rfl, rfl⟩ | ⟨rfl, rfl⟩
    · exact .segmentLoopback hs
    · exact .segmentBridge hs
  · obtain ⟨rfl, rfl⟩ := Host.find?_deviceInterfaces_eq_some_iff.mp hi
    exact .deviceLoopback hd
  · have hadmits := hw.admits _ hc
    cases addressing with
    | bridged address =>
      rcases hputs with ⟨rfl, rfl, rfl⟩ | ⟨rfl, rfl, rfl⟩
      · exact .devicePort hadmits.a_mem hc
      · exact .segmentPort (hadmits.isBridged_iff.mp rfl) hc
    | pointToPoint block =>
      have hb : b ∉ t.segments := fun hmem => nomatch hadmits.isBridged_iff.mpr hmem
      rcases hputs with ⟨rfl, rfl, rfl⟩ | ⟨rfl, rfl, rfl⟩
      · exact .deviceNear hadmits.a_mem hc
      · exact .deviceFar (hadmits.b_mem.resolve_left hb) hc

theorem WellFormed.declares_iff_holds (hw : t.WellFormed) :
    t.Declares ns name i ↔ t.Holds ns name i :=
  ⟨hw.holds_of_declares, hw.declares_of_holds⟩

/-- `check` returns a host, and it is the declared one. -/
theorem check_eq_ok_iff_declares (hv : t.validate = .ok ()) :
    (∃ h, t.check = .ok h) ∧
      ∀ h, t.check = .ok h ↔
        h.root = ∅ ∧
        (∀ ns, ns ∈ h.namespaces ↔ ns ∈ t.segments ∨ ns ∈ t.devices) ∧
        ∀ ns name i, h.interface? ns name = some i ↔ t.Declares ns name i := by
  have hw : t.WellFormed := validate_eq_ok_iff.mp hv
  simp only [hw.declares_iff_holds]
  obtain ⟨k, hk, hshows⟩ := hw.exists_check_eq_ok
  refine ⟨⟨k, hk⟩, fun h => ⟨fun hh => ?_, ?_⟩⟩
  · cases hk.symm.trans hh
    exact ⟨hshows.root, hshows.mem_namespaces_iff, hshows.interface?_eq_some_iff⟩
  · intro hshown
    obtain ⟨hroot, hnamespaces, hinterfaces⟩ := hshown
    have heq : h = k := Host.Shows.unique ⟨hroot, hnamespaces, hinterfaces⟩ hshows
    rw [heq, hk]

theorem check_eq_ok_iff_declares_twoRouterLan :
    twoRouterLan.validate = .ok () ∧
      ∃ h, twoRouterLan.check = .ok h ∧ h.root = ∅ ∧
        h.interface? "L" "L-X" =
          some { kind := .veth "X-L", up := true, master := some "br0" } ∧
        h.interface? "Y" "Y-X" =
          some { kind := .veth "X-Y", up := true, addresses := ["10.0.1.1/31"] } := by
  have hv : twoRouterLan.validate = .ok () := rfl
  obtain ⟨⟨h, hh⟩, hiff⟩ := check_eq_ok_iff_declares hv
  obtain ⟨hroot, -, hinterfaces⟩ := (hiff h).mp hh
  have hs : "L" ∈ twoRouterLan.segments := List.mem_cons_self
  have hd : "Y" ∈ twoRouterLan.devices := List.mem_cons_of_mem _ List.mem_cons_self
  have hport : twoRouterLan.Declares "L" "L-X"
      { kind := .veth "X-L", up := true, master := some "br0" } :=
    .segmentPort (a := "X") hs List.mem_cons_self
  have hfar : twoRouterLan.Declares "Y" "Y-X"
      { kind := .veth "X-Y", up := true, addresses := ["10.0.1.1/31"] } :=
    .deviceFar (a := "X") hd (List.mem_cons_of_mem _ List.mem_cons_self)
  exact ⟨hv, h, hh, hroot, (hinterfaces _ _ _).mpr hport, (hinterfaces _ _ _).mpr hfar⟩

end Topology

end Testbed
