import Testbed.Proofs.Picture
import Testbed.Proofs.WellFormed
import Mathlib.Data.Sym.Sym2

/-!
# What can be built at all

A plan can be handed to a host whether its topology is valid or not. An empty host
takes the whole of it under conditions that are weaker than those of validation, and
they are exact (`exists_applyAll_plan_iff`). Names of namespaces are distinct; a
circuit has both ends declared, is named apart at its two ends, and leads to a bridge
if it is bridged; and no two circuits join the same two namespaces.

The last condition is what is left of all clashes between interfaces. An interface is
called after the namespace it is in and the one it leads to, so within a namespace the
name says where it leads, and it is taken there exactly if another circuit joins the
same two. In the root two circuits do not meet, since each has left it before the
next one comes. And no name of an interface is that of the loopback or of the bridge.

A host shows at any time what was declared up to then, so what a block finds on it
is a question about declarations. Validation asks for more than all of this, which is
why the plan of a well-formed topology always succeeds (`exists_applyAll_plan`).
-/

namespace Testbed

open Host

variable {h h' k : Host} {t : Topology} {c d : Circuit} {ns : String}

/-- The two namespaces of a circuit, in no order. -/
def Circuit.joined (c : Circuit) : Sym2 String :=
  s(c.a, c.b)

theorem Circuit.interfaceName_inj {here there other : String} :
    interfaceName here there = interfaceName here other ↔ there = other := by
  simp [interfaceName, String.append_right_inj]

/-- What a circuit asks of the namespaces that were declared. -/
def Topology.Supports (t : Topology) (c : Circuit) : Prop :=
  (c.a ∈ t.namespaces ∧ c.b ∈ t.namespaces) ∧ c.interfaces.1 ≠ c.interfaces.2 ∧
    (c.addressing.isBridged = true → c.b ∈ t.segments)

/-! ## What a circuit finds -/

namespace Host.Shows

/-- The bridge is in the segments and nowhere else. -/
theorem kind_bridgeName_iff (hs : h.Shows t) :
    (h.interface? ns bridgeName).map (·.kind) = some .bridge ↔ ns ∈ t.segments := by
  rw [Option.map_eq_some_iff]
  constructor
  · rintro ⟨i, hi, -⟩
    rcases (hs.interface?_eq_some_iff _ _ _).mp hi with ⟨hsegment, -⟩ | ⟨-, hin⟩ | ⟨c, -, hputs⟩
    · exact hsegment
    · exact absurd (find?_deviceInterfaces_eq_some_iff.mp hin).1 (by decide)
    · rcases hputs with ⟨-, hname, -⟩ | ⟨-, hname, -⟩
      · exact absurd hname.symm (Circuit.interfaceName_ne_bridgeName _ _)
      · exact absurd hname.symm (Circuit.interfaceName_ne_bridgeName _ _)
  · intro hsegment
    have hin : segmentInterfaces.find? bridgeName = some { kind := .bridge, up := true } :=
      NameMap.find?_insert_self _ _ _
    exact ⟨_, (hs.interface?_eq_some_iff _ _ _).mpr (.inl ⟨hsegment, hin⟩), rfl⟩

/-- The name of an end is free until a circuit joins the same two namespaces. -/
theorem interface?_eq_none_iff (hs : h.Shows t) {here there : String} :
    h.interface? here (Circuit.interfaceName here there) = none ↔
      s(here, there) ∉ t.circuits.map Circuit.joined := by
  constructor
  · intro hfree hmem
    have hnot (i : Interface) : ¬ t.Holds here (Circuit.interfaceName here there) i := by
      rw [← hs.interface?_eq_some_iff, hfree]
      exact nofun
    obtain ⟨d, hd, hjoined⟩ := List.mem_map.mp hmem
    rcases Sym2.eq_iff.mp hjoined with ⟨rfl, rfl⟩ | ⟨rfl, rfl⟩
    · exact hnot _ (.inr (.inr ⟨d, hd, .inl ⟨rfl, rfl, rfl⟩⟩))
    · exact hnot _ (.inr (.inr ⟨d, hd, .inr ⟨rfl, rfl, rfl⟩⟩))
  · intro hnew
    by_contra hsome
    obtain ⟨i, hi⟩ := Option.ne_none_iff_exists'.mp hsome
    rcases (hs.interface?_eq_some_iff _ _ _).mp hi with ⟨-, hin⟩ | ⟨-, hin⟩ | ⟨d, hd, hputs⟩
    · rcases find?_segmentInterfaces_eq_some_iff.mp hin with ⟨hname, -⟩ | ⟨hname, -⟩
      · exact Circuit.interfaceName_ne_loopbackName here there hname
      · exact Circuit.interfaceName_ne_bridgeName here there hname
    · obtain ⟨hname, -⟩ := find?_deviceInterfaces_eq_some_iff.mp hin
      exact Circuit.interfaceName_ne_loopbackName here there hname
    · refine hnew (List.mem_map.mpr ⟨d, hd, Sym2.eq_iff.mpr ?_⟩)
      rcases hputs with ⟨hhere, hname, -⟩ | ⟨hhere, hname, -⟩
      · subst hhere
        exact .inl ⟨rfl, (Circuit.interfaceName_inj.mp hname).symm⟩
      · subst hhere
        exact .inr ⟨(Circuit.interfaceName_inj.mp hname).symm, rfl⟩

theorem fits_iff (hs : h.Shows t) :
    c.Fits h ↔ t.Supports c ∧ c.joined ∉ t.circuits.map Circuit.joined := by
  constructor
  · intro hfits
    exact ⟨⟨⟨hs.mem_namespaces.mp hfits.a_mem, hs.mem_namespaces.mp hfits.b_mem⟩,
      hfits.interfaces_ne, fun hbridged => hs.kind_bridgeName_iff.mp (hfits.bridge hbridged)⟩,
      hs.interface?_eq_none_iff.mp hfits.a_free⟩
  · intro hcond
    obtain ⟨⟨⟨ha, hb⟩, hne, hbridge⟩, hnew⟩ := hcond
    have hnew' : s(c.b, c.a) ∉ t.circuits.map Circuit.joined := by rwa [Sym2.eq_swap]
    exact {
      a_free_root := hs.not_mem_root _
      b_free_root := hs.not_mem_root _
      interfaces_ne := hne
      a_mem := hs.mem_namespaces.mpr ha
      a_free := hs.interface?_eq_none_iff.mpr hnew
      b_mem := hs.mem_namespaces.mpr hb
      b_free := hs.interface?_eq_none_iff.mpr hnew'
      bridge := fun hbridged => hs.kind_bridgeName_iff.mpr (hbridge hbridged) }

end Host.Shows

/-! ## Phase by phase -/

/-- Success of a whole is success of its first part and a condition under which the rest
succeeds on whatever host the first part leaves. -/
theorem Host.exists_applyAll_append_iff {ops rest : List Operation} {p : Prop}
    (hrest : ∀ k, h.applyAll ops = .ok k → ((∃ h', k.applyAll rest = .ok h') ↔ p)) :
    (∃ h', h.applyAll (ops ++ rest) = .ok h') ↔ (∃ k, h.applyAll ops = .ok k) ∧ p := by
  simp only [applyAll_append_eq_ok_iff]
  constructor
  · intro hok
    obtain ⟨h', k, hk, hh'⟩ := hok
    exact ⟨⟨k, hk⟩, (hrest k hk).mp ⟨h', hh'⟩⟩
  · intro hcond
    obtain ⟨⟨k, hk⟩, hp⟩ := hcond
    obtain ⟨h', hh'⟩ := (hrest k hk).mpr hp
    exact ⟨h', k, hk, hh'⟩

/-- Blocks of which each begins by creating a namespace and then cannot fail. -/
theorem Host.exists_applyAll_namespaces_iff {block : String → List Operation}
    {interfaces : NameMap Interface} {names : List String}
    (hblock : ∀ {k k' : Host} {name : String}, k.applyAll (block name) = .ok k' ↔
      name ∉ k.namespaces ∧ k' = k.setInterfaces name interfaces) :
    (∃ h', h.applyAll (names.flatMap block) = .ok h') ↔
      names.Nodup ∧ ∀ name ∈ names, name ∉ h.namespaces := by
  induction names generalizing h with
  | nil => simp
  | cons name names ih =>
    have hfirst : (∃ k, h.applyAll (block name) = .ok k) ↔ name ∉ h.namespaces := by
      simp only [hblock, exists_and_left, exists_eq, and_true]
    have hrest (k : Host) (hk : h.applyAll (block name) = .ok k) :
        (∃ h', k.applyAll (names.flatMap block) = .ok h') ↔
          names.Nodup ∧ ∀ other ∈ names, other ≠ name ∧ other ∉ h.namespaces := by
      obtain ⟨-, rfl⟩ := hblock.mp hk
      simp only [ih, mem_namespaces_setInterfaces, not_or, ne_eq]
    rw [List.flatMap_cons, exists_applyAll_append_iff hrest, hfirst, List.nodup_cons,
      List.forall_mem_cons]
    constructor
    · intro hcond
      obtain ⟨hnew, hnodup, hfresh⟩ := hcond
      exact ⟨⟨fun hmem => (hfresh name hmem).1 rfl, hnodup⟩, hnew,
        fun other hmem => (hfresh other hmem).2⟩
    · intro hcond
      obtain ⟨⟨hname, hnodup⟩, hnew, hfresh⟩ := hcond
      exact ⟨hnew, hnodup, fun other hmem => ⟨fun heq => hname (heq ▸ hmem), hfresh other hmem⟩⟩

/-- Circuits that come on top of those that are there. -/
theorem Host.Shows.exists_applyAll_circuits_iff {cs : List Circuit} (hs : h.Shows t)
    (hnodup : (t.circuits.map Circuit.joined).Nodup) :
    (∃ h', h.applyAll (cs.flatMap Plan.circuit) = .ok h') ↔
      (∀ c ∈ cs, t.Supports c) ∧ ((t.circuits ++ cs).map Circuit.joined).Nodup := by
  induction cs generalizing h t with
  | nil => simp [hnodup]
  | cons c cs ih =>
    have hfirst : (∃ k, h.applyAll (Plan.circuit c) = .ok k) ↔
        t.Supports c ∧ c.joined ∉ t.circuits.map Circuit.joined := by
      simp only [applyAll_circuit_eq_ok_iff, exists_and_left, exists_eq, and_true, hs.fits_iff]
    have hrest (k : Host) (hk : h.applyAll (Plan.circuit c) = .ok k) :
        (∃ h', k.applyAll (cs.flatMap Plan.circuit) = .ok h') ↔
          (∀ d ∈ cs, t.Supports d) ∧ ((t.circuits ++ c :: cs).map Circuit.joined).Nodup := by
      obtain ⟨hfits, rfl⟩ := applyAll_circuit_eq_ok_iff.mp hk
      have hnew := (hs.fits_iff.mp hfits).2
      have hnodup' : ((t.addCircuit c).circuits.map Circuit.joined).Nodup := by
        rw [Topology.addCircuit, List.map_append, List.nodup_append]
        exact ⟨hnodup, List.nodup_singleton _,
          fun x hx y hy heq => hnew (List.mem_singleton.mp hy ▸ heq ▸ hx)⟩
      rw [ih (hs.addCircuit hfits) hnodup', Topology.addCircuit, List.append_assoc]
      rfl
    rw [List.flatMap_cons, exists_applyAll_append_iff hrest, hfirst, List.forall_mem_cons]
    constructor
    · intro hcond
      obtain ⟨⟨hc, -⟩, hcs, hall⟩ := hcond
      exact ⟨⟨hc, hcs⟩, hall⟩
    · intro hcond
      obtain ⟨⟨hc, hcs⟩, hall⟩ := hcond
      refine ⟨⟨hc, ?_⟩, hcs, hall⟩
      rw [List.map_append, List.map_cons, List.nodup_middle, List.nodup_cons, List.mem_append,
        not_or] at hall
      exact hall.1.1

/-! ## The plan -/

theorem Topology.exists_applyAll_plan_iff :
    (∃ h, (∅ : Host).applyAll t.plan = .ok h) ↔
      t.namespaces.Nodup ∧ (∀ c ∈ t.circuits, t.Supports c) ∧
        (t.circuits.map Circuit.joined).Nodup := by
  have hsegments : (∃ h₁, (∅ : Host).applyAll (t.segments.flatMap Plan.segment) = .ok h₁) ↔
      t.segments.Nodup := by
    rw [exists_applyAll_namespaces_iff applyAll_segment_eq_ok_iff]
    exact and_iff_left fun name _ => NameMap.not_mem_empty name
  have hdevices (h₁ : Host) (hok : (∅ : Host).applyAll (t.segments.flatMap Plan.segment) = .ok h₁) :
      (∃ h₂, h₁.applyAll (t.devices.flatMap Plan.device) = .ok h₂) ↔
        t.devices.Nodup ∧ ∀ d ∈ t.devices, d ∉ t.segments := by
    have hs : h₁.Shows { segments := t.segments } := Host.Shows.empty.applyAll_segments hok
    rw [exists_applyAll_namespaces_iff applyAll_device_eq_ok_iff]
    simp only [hs.mem_namespaces, namespaces, List.append_nil]
  have hcircuits (h₂ : Host) (hok : (∅ : Host).applyAll
        (t.segments.flatMap Plan.segment ++ t.devices.flatMap Plan.device) = .ok h₂) :
      (∃ h, h₂.applyAll (t.circuits.flatMap Plan.circuit) = .ok h) ↔
        (∀ c ∈ t.circuits, t.Supports c) ∧ (t.circuits.map Circuit.joined).Nodup := by
    obtain ⟨h₁, hok₁, hok₂⟩ := applyAll_append_eq_ok_iff.mp hok
    have hs : h₂.Shows { t with circuits := [] } :=
      (Host.Shows.empty.applyAll_segments hok₁).applyAll_devices hok₂
    exact hs.exists_applyAll_circuits_iff List.nodup_nil
  rw [t.plan_eq, exists_applyAll_append_iff hcircuits, exists_applyAll_append_iff hdevices,
    hsegments]
  refine and_congr_left fun _ => ?_
  rw [namespaces, List.nodup_append]
  exact and_congr_right fun _ => and_congr_right fun _ =>
    ⟨fun hapart s hs d hd heq => hapart d hd (heq ▸ hs),
      fun hapart d hd hs => hapart d hs d hd rfl⟩

namespace Topology.WellFormed

theorem supports (hw : t.WellFormed) (hc : c ∈ t.circuits) : t.Supports c := by
  have hadmits := hw.admits c hc
  obtain ⟨hends, -⟩ := List.nodup_flatMap.mp hw.nodup_interfaces
  have hne : c.interfaces.1 ≠ c.interfaces.2 :=
    List.ne_of_not_mem_cons (List.nodup_cons.mp (hends c hc)).1
  exact ⟨⟨List.mem_append_right _ hadmits.a_mem, List.mem_append.mpr hadmits.b_mem⟩, hne,
    hadmits.isBridged_iff.mp⟩

/-- No two circuits join the same two namespaces, since the names of their interfaces
would be the same. -/
theorem nodup_joined (hw : t.WellFormed) : (t.circuits.map Circuit.joined).Nodup := by
  obtain ⟨-, hapart⟩ := List.nodup_flatMap.mp hw.nodup_interfaces
  refine List.pairwise_map.mpr (hapart.imp fun {c d} hdisjoint hjoined => ?_)
  refine hdisjoint (a := c.interfaces.1) List.mem_cons_self ?_
  rcases Sym2.eq_iff.mp hjoined with ⟨ha, hb⟩ | ⟨ha, hb⟩
  · simp [Circuit.interfaces, ha, hb]
  · simp [Circuit.interfaces, ha, hb]

/-- On an empty host the plan of a well-formed topology succeeds. -/
theorem exists_applyAll_plan (hw : t.WellFormed) :
    ∃ h, (∅ : Host).applyAll t.plan = .ok h ∧ h.Shows t := by
  obtain ⟨h, hok⟩ := exists_applyAll_plan_iff.mpr
    ⟨hw.nodup, fun _ => hw.supports, hw.nodup_joined⟩
  exact ⟨h, hok, shows_of_applyAll_plan hok⟩

end Topology.WellFormed

/-! ## Provisioning -/

/-- An empty host takes the plan of a topology under these conditions and no others. -/
theorem provision_empty_iff (t : Topology) :
    (∃ n h, (provision t Sink.host).run.run ∅ = (.ok n, h)) ↔
      t.namespaces.Nodup ∧
      (∀ c ∈ t.circuits,
        (c.a ∈ t.namespaces ∧ c.b ∈ t.namespaces) ∧
        c.a ++ "-" ++ c.b ≠ c.b ++ "-" ++ c.a ∧
        (c.addressing.isBridged = true → c.b ∈ t.segments)) ∧
      t.circuits.Pairwise fun c d => s(c.a, c.b) ≠ s(d.a, d.b) := by
  have hplan : (∃ n h, (provision t Sink.host).run.run ∅ = (.ok n, h)) ↔
      ∃ h, (∅ : Host).applyAll t.plan = .ok h := by
    simp only [provision_host_eq_ok_iff]
    exact ⟨fun ⟨_, h, hok, _⟩ => ⟨h, hok⟩, fun ⟨h, hok⟩ => ⟨_, h, hok, rfl⟩⟩
  have hpairs : (t.circuits.map Circuit.joined).Nodup ↔
      t.circuits.Pairwise fun c d => s(c.a, c.b) ≠ s(d.a, d.b) :=
    List.pairwise_map
  rw [hplan, Topology.exists_applyAll_plan_iff, hpairs]
  exact Iff.rfl

end Testbed
