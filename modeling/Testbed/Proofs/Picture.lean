import Testbed.Proofs.Blocks

/-!
# The host a plan builds shows the topology

`Shows` says that a host holds what a topology asks for and nothing else. It
speaks of members of lists only, so it can be asked of a topology that is still
being declared, and that is how it is used: a host that shows what was declared so
far is taken by one more block of the plan to a host that shows one more
declaration. Runs of this step, one for each phase, lead from the empty host to a
host that shows the whole topology (`shows_of_applyAll_plan`).

None of this asks whether the topology is valid. It is all about plans that a host
took to the end; when it does is another question.
-/

namespace Testbed

open Host

/-- The two interfaces of a circuit: the namespace each is in, its name and its state. -/
def Circuit.Puts (c : Circuit) (ns name : String) (i : Interface) : Prop :=
  (ns = c.a ∧ name = c.interfaces.1 ∧ i = c.endAtA) ∨
    (ns = c.b ∧ name = c.interfaces.2 ∧ i = c.endAtB)

/-- The interface that a topology asks for under a name in a namespace. -/
def Topology.Holds (t : Topology) (ns name : String) (i : Interface) : Prop :=
  (ns ∈ t.segments ∧ segmentInterfaces.find? name = some i) ∨
    (ns ∈ t.devices ∧ deviceInterfaces.find? name = some i) ∨
    ∃ c ∈ t.circuits, c.Puts ns name i

/-- A host with everything a topology asks for and nothing else. -/
structure Host.Shows (h : Host) (t : Topology) : Prop where
  root : h.root = ∅
  mem_namespaces_iff : ∀ ns, ns ∈ h.namespaces ↔ ns ∈ t.segments ∨ ns ∈ t.devices
  interface?_eq_some_iff : ∀ ns name i, h.interface? ns name = some i ↔ t.Holds ns name i

namespace Topology

variable {t : Topology} {ns name : String} {i : Interface}

theorem holds_addSegment_iff {s : String} :
    (t.addSegment s).Holds ns name i ↔
      t.Holds ns name i ∨ (ns = s ∧ segmentInterfaces.find? name = some i) := by
  simp only [Holds, addSegment, List.mem_append, List.mem_singleton, or_and_right]
  exact or_right_comm

theorem holds_addDevice_iff {d : String} :
    (t.addDevice d).Holds ns name i ↔
      t.Holds ns name i ∨ (ns = d ∧ deviceInterfaces.find? name = some i) := by
  simp only [Holds, addDevice, List.mem_append, List.mem_singleton, or_and_right, or_assoc]
  exact or_congr_right (or_congr_right or_comm)

theorem holds_addCircuit_iff {c : Circuit} :
    (t.addCircuit c).Holds ns name i ↔ t.Holds ns name i ∨ c.Puts ns name i := by
  simp only [Holds, addCircuit, List.mem_append, List.mem_singleton, or_and_right, exists_or,
    exists_eq_left, or_assoc]

end Topology

namespace Host.Shows

variable {h k : Host} {t : Topology}

/-- A topology is shown by one host only. -/
theorem unique (hh : h.Shows t) (hk : k.Shows t) : h = k := by
  refine ext_interface? (fun name => by rw [hh.root, hk.root]) (fun ns => ?_) (fun ns name => ?_)
  · rw [hh.mem_namespaces_iff, hk.mem_namespaces_iff]
  · exact Option.ext fun i => by rw [hh.interface?_eq_some_iff, hk.interface?_eq_some_iff]

theorem empty : (∅ : Host).Shows {} where
  root := rfl
  mem_namespaces_iff ns := by
    have hnot : ns ∉ (∅ : Host).namespaces := NameMap.not_mem_empty ns
    simp [hnot]
  interface?_eq_some_iff ns name i := by
    have hnone : (∅ : Host).interface? ns name = none := rfl
    simp [hnone, Topology.Holds]

/-! ## One more declaration -/

theorem addSegment {s : String} (hs : h.Shows t) (hnew : s ∉ h.namespaces) :
    (h.setInterfaces s segmentInterfaces).Shows (t.addSegment s) where
  root := hs.root
  mem_namespaces_iff ns := by
    rw [mem_namespaces_setInterfaces, hs.mem_namespaces_iff]
    simp only [Topology.addSegment, List.mem_append, List.mem_singleton]
    exact or_left_comm.trans or_assoc.symm
  interface?_eq_some_iff ns name i := by
    rw [interface?_setInterfaces, Topology.holds_addSegment_iff, ← hs.interface?_eq_some_iff]
    by_cases hns : ns = s
    · subst hns
      simp [interface?_of_not_mem hnew]
    · simp [hns]

theorem addDevice {d : String} (hs : h.Shows t) (hnew : d ∉ h.namespaces) :
    (h.setInterfaces d deviceInterfaces).Shows (t.addDevice d) where
  root := hs.root
  mem_namespaces_iff ns := by
    rw [mem_namespaces_setInterfaces, hs.mem_namespaces_iff]
    simp only [Topology.addDevice, List.mem_append, List.mem_singleton]
    exact or_rotate
  interface?_eq_some_iff ns name i := by
    rw [interface?_setInterfaces, Topology.holds_addDevice_iff, ← hs.interface?_eq_some_iff]
    by_cases hns : ns = d
    · subst hns
      simp [interface?_of_not_mem hnew]
    · simp [hns]

theorem addCircuit {c : Circuit} (hs : h.Shows t) (hfits : c.Fits h) :
    (h.withCircuit c).Shows (t.addCircuit c) where
  root := hs.root
  mem_namespaces_iff ns := by
    rw [withCircuit, withEnds, mem_namespaces_setInterface, mem_namespaces_setInterface,
      ← or_assoc, or_iff_right_of_imp]
    · exact hs.mem_namespaces_iff ns
    · intro hend
      rcases hend with rfl | rfl
      · exact hfits.b_mem
      · exact hfits.a_mem
  interface?_eq_some_iff ns name i := by
    rw [Topology.holds_addCircuit_iff, ← hs.interface?_eq_some_iff, withCircuit, withEnds,
      interface?_setInterface, interface?_setInterface, Circuit.Puts]
    by_cases hb : ns = c.b ∧ name = c.interfaces.2
    · obtain ⟨rfl, rfl⟩ := hb
      simp [hfits.b_free, hfits.interfaces_ne.symm, eq_comm]
    · by_cases ha : ns = c.a ∧ name = c.interfaces.1
      · obtain ⟨rfl, rfl⟩ := ha
        simp [hfits.a_free, hfits.interfaces_ne, eq_comm]
      · rw [if_neg hb, if_neg ha]
        refine ⟨.inl, ?_⟩
        intro hin
        rcases hin with hi | ⟨hns, hname, -⟩ | ⟨hns, hname, -⟩
        · exact hi
        · exact absurd ⟨hns, hname⟩ ha
        · exact absurd ⟨hns, hname⟩ hb

theorem mem_namespaces {ns : String} (hs : h.Shows t) : ns ∈ h.namespaces ↔ ns ∈ t.namespaces :=
  (hs.mem_namespaces_iff ns).trans List.mem_append.symm

theorem not_mem_root (hs : h.Shows t) (name : String) : name ∉ h.root :=
  hs.root ▸ NameMap.not_mem_empty name

end Host.Shows

/-! ## The three phases -/

/-- A run of blocks, from what one block does to what was done before it. -/
theorem Host.applyAll_flatMap_induction {α : Type} {block : α → List Operation}
    {P : Host → List α → Prop} {h h' : Host} {done xs : List α}
    (hblock : ∀ {k k' : Host} {done : List α} {x : α}, P k done →
      k.applyAll (block x) = .ok k' → P k' (done ++ [x]))
    (hstart : P h done) (hok : h.applyAll (xs.flatMap block) = .ok h') : P h' (done ++ xs) := by
  induction xs generalizing h done with
  | nil =>
    cases hok
    rw [List.append_nil]
    exact hstart
  | cons x xs ih =>
    obtain ⟨k, hx, hxs⟩ := applyAll_append_eq_ok_iff.mp hok
    rw [List.append_cons]
    exact ih (hblock hstart hx) hxs

namespace Host.Shows

variable {h h' : Host} {t : Topology}

theorem applyAll_segments {names : List String} (hs : h.Shows t)
    (hok : h.applyAll (names.flatMap Plan.segment) = .ok h') :
    h'.Shows { t with segments := t.segments ++ names } := by
  refine applyAll_flatMap_induction (P := fun k done => k.Shows { t with segments := done })
    (fun hk hblock => ?_) hs hok
  obtain ⟨hnew, rfl⟩ := applyAll_segment_eq_ok_iff.mp hblock
  exact hk.addSegment hnew

theorem applyAll_devices {names : List String} (hs : h.Shows t)
    (hok : h.applyAll (names.flatMap Plan.device) = .ok h') :
    h'.Shows { t with devices := t.devices ++ names } := by
  refine applyAll_flatMap_induction (P := fun k done => k.Shows { t with devices := done })
    (fun hk hblock => ?_) hs hok
  obtain ⟨hnew, rfl⟩ := applyAll_device_eq_ok_iff.mp hblock
  exact hk.addDevice hnew

theorem applyAll_circuits {cs : List Circuit} (hs : h.Shows t)
    (hok : h.applyAll (cs.flatMap Plan.circuit) = .ok h') :
    h'.Shows { t with circuits := t.circuits ++ cs } := by
  refine applyAll_flatMap_induction (P := fun k done => k.Shows { t with circuits := done })
    (fun hk hblock => ?_) hs hok
  obtain ⟨hfits, rfl⟩ := applyAll_circuit_eq_ok_iff.mp hblock
  exact hk.addCircuit hfits

end Host.Shows

/-- What a plan leaves of an empty host, if it leaves anything. -/
theorem Topology.shows_of_applyAll_plan {t : Topology} {h : Host}
    (hok : (∅ : Host).applyAll t.plan = .ok h) : h.Shows t := by
  rw [t.plan_eq, applyAll_append_eq_ok_iff] at hok
  obtain ⟨h₂, hok, hcircuits⟩ := hok
  obtain ⟨h₁, hsegments, hdevices⟩ := applyAll_append_eq_ok_iff.mp hok
  have hs₁ : h₁.Shows { segments := t.segments } := Shows.empty.applyAll_segments hsegments
  have hs₂ : h₂.Shows { t with circuits := [] } := hs₁.applyAll_devices hdevices
  exact hs₂.applyAll_circuits hcircuits

end Testbed
