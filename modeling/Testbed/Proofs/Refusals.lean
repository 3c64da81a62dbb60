import Testbed.Proofs.Atomicity
import Testbed.Proofs.Picture
import Testbed.Topology.Examples

/-!
# Plans that fail halfway

The plan of any topology can be handed to an empty host, whatever is wrong with the
topology, and the host refuses it at some operation. The lemmas about blocks say what a
block does if it succeeds. Here is the other half: where a block stops, why, and what it
leaves in the root.

What carries the argument is that the root is empty between blocks. A namespace block
never writes there, and a circuit that succeeds returns it as it was. So a pair meets
nothing in the root and is refused only if its two names are one, and whatever is asked of
an end after that is asked of an interface that was just made: it is there, it has no
address, and it is alone under its name unless the namespace it is moved to has the name
already. That leaves four kinds of fault (`Fault.OfPlan`), and it leaves the root empty but
for the ends that could not be moved.
-/

namespace Testbed

open Host

/-- The faults that a plan can meet on a host that was empty. -/
inductive Fault.OfPlan : Fault → Prop
  | namespaceExists (ns : String) : OfPlan (.namespaceExists ns)
  | unknownNamespace (ns : String) : OfPlan (.unknownNamespace ns)
  | interfaceExists (ns interface : String) : OfPlan (.interfaceExists ns interface)
  | unknownBridge (ns bridge : String) : OfPlan (.unknownBridge ns bridge)

variable {h h' k : Host} {ops xs ys done : List Operation} {op first : Operation} {fault : Fault}
  {ns interface bridge name : String} {i : Interface} {c : Circuit} {t : Topology}

namespace Host

/-- The host takes `done`, which makes it `k`, and then refuses `op`. -/
structure StopsAt (h : Host) (ops done : List Operation) (op : Operation) (k : Host)
    (fault : Fault) : Prop where
  split : ∃ rest, ops = done ++ op :: rest
  taken : h.applyAll done = .ok k
  refused : k.apply op = .error fault

namespace StopsAt

theorem not_nil : ¬ h.StopsAt [] done op k fault := by
  rintro ⟨⟨rest, hsplit⟩, -, -⟩
  exact absurd hsplit (by simp)

theorem cons (hstop : h.StopsAt (first :: ops) done op k fault) :
    (done = [] ∧ op = first ∧ k = h ∧ h.apply first = .error fault) ∨
      ∃ m later, h.apply first = .ok m ∧ done = first :: later ∧
        m.StopsAt ops later op k fault := by
  obtain ⟨⟨rest, hsplit⟩, htaken, hrefused⟩ := hstop
  cases done with
  | nil =>
    cases hsplit
    cases htaken
    exact .inl ⟨rfl, rfl, rfl, hrefused⟩
  | cons _ later =>
    cases hsplit
    obtain ⟨m, hfirst, hlater⟩ := applyAll_cons_eq_ok_iff.mp htaken
    exact .inr ⟨m, later, hfirst, rfl, ⟨rest, rfl⟩, hlater, hrefused⟩

/-- A host that stops at an operation does not take all of them. -/
theorem not_ok (hstop : h.StopsAt ops done op k fault) : h.applyAll ops ≠ .ok h' := by
  obtain ⟨⟨rest, rfl⟩, htaken, hrefused⟩ := hstop
  intro hok
  obtain ⟨m, hm, hrest⟩ := applyAll_append_eq_ok_iff.mp hok
  cases htaken.symm.trans hm
  obtain ⟨_, hop, -⟩ := applyAll_cons_eq_ok_iff.mp hrest
  cases hrefused.symm.trans hop

theorem append (hstop : h.StopsAt (xs ++ ys) done op k fault) :
    h.StopsAt xs done op k fault ∨
      ∃ m later, h.applyAll xs = .ok m ∧ done = xs ++ later ∧ m.StopsAt ys later op k fault := by
  induction xs generalizing h done with
  | nil => exact .inr ⟨h, done, rfl, rfl, hstop⟩
  | cons x xs ih =>
    rcases hstop.cons with ⟨rfl, rfl, rfl, hrefused⟩ | ⟨m, later, hx, rfl, hlater⟩
    · exact .inl ⟨⟨xs, rfl⟩, rfl, hrefused⟩
    · rcases ih hlater with ⟨⟨rest, hsplit⟩, htaken, hrefused⟩ | ⟨m', later', hxs, rfl, hys⟩
      · exact .inl ⟨⟨rest, congrArg (x :: ·) hsplit⟩,
          applyAll_cons_eq_ok_iff.mpr ⟨m, hx, htaken⟩, hrefused⟩
      · exact .inr ⟨m', later', applyAll_cons_eq_ok_iff.mpr ⟨m, hx, hxs⟩, rfl, hys⟩

/-- A run of blocks stops in one of them, and what blocks keep holds where that begins. -/
theorem flatMap {α : Type} {block : α → List Operation} {P : Host → Prop} {items : List α}
    (hblock : ∀ {k k' : Host} {x : α}, P k → k.applyAll (block x) = .ok k' → P k') (hstart : P h)
    (hstop : h.StopsAt (items.flatMap block) done op k fault) :
    ∃ before x after m later, items = before ++ x :: after ∧
      done = before.flatMap block ++ later ∧ P m ∧ m.StopsAt (block x) later op k fault := by
  induction items generalizing h done with
  | nil => exact absurd hstop not_nil
  | cons x items ih =>
    rw [List.flatMap_cons] at hstop
    rcases hstop.append with hhere | ⟨m, later, hx, rfl, hlater⟩
    · exact ⟨[], x, items, h, done, rfl, rfl, hstart, hhere⟩
    · obtain ⟨before, y, after, m', later', rfl, rfl, hm', hy⟩ := ih (hblock hstart hx) hlater
      refine ⟨x :: before, y, after, m', later', rfl, ?_, hm', hy⟩
      rw [List.flatMap_cons, List.append_assoc]

end StopsAt

/-! ## Faults of single operations -/

theorem createNamespace_eq_error (hrefused : h.createNamespace name = .error fault) :
    fault = .namespaceExists name := by
  rw [createNamespace] at hrefused
  split at hrefused
  · cases hrefused
    rfl
  · cases hrefused

theorem createVethPair_eq_error {left right : String} (hroot : h.root = ∅)
    (hrefused : h.createVethPair left right = .error fault) :
    left = right ∧ fault = .interfaceExists rootName right := by
  have hfree (name : String) : name ∉ h.root := hroot ▸ NameMap.not_mem_empty name
  rw [createVethPair, if_neg (hfree left), if_neg (hfree right)] at hrefused
  split at hrefused
  · next heq =>
    cases hrefused
    exact ⟨heq, rfl⟩
  · cases hrefused

theorem interfacesOf_eq_error (hrefused : h.interfacesOf ns = .error fault) :
    fault = .unknownNamespace ns := by
  rw [interfacesOf] at hrefused
  split at hrefused
  · cases hrefused
  · cases hrefused
    rfl

theorem move_eq_error (hi : h.root.find? interface = some i)
    (hrefused : h.move interface ns = .error fault) :
    fault = .unknownNamespace ns ∨ fault = .interfaceExists ns interface := by
  simp only [move, hi] at hrefused
  cases hns : h.interfacesOf ns with
  | error fault' =>
    rw [hns] at hrefused
    cases hrefused
    exact .inl (interfacesOf_eq_error hns)
  | ok interfaces =>
    rw [hns] at hrefused
    simp only [bind, Except.bind] at hrefused
    split at hrefused
    · cases hrefused
      exact .inr rfl
    · cases hrefused

theorem attach_eq_error (hi : h.interface? ns interface = some i)
    (hrefused : h.attach ns interface bridge = .error fault) :
    fault = .unknownBridge ns bridge := by
  obtain ⟨interfaces, hns⟩ := NameMap.mem_iff.mp (mem_namespaces_of_interface? hi)
  rw [attach, interfacesOf_eq_ok_iff.mpr hns, interfaceOf_eq_ok_iff.mpr hi] at hrefused
  simp only [bind, Except.bind] at hrefused
  split at hrefused
  · cases hrefused
  · cases hrefused
    rfl

/-! ## Namespaces -/

/-- Blocks that begin by creating a namespace, and then cannot fail, stop where one of
them begins. -/
theorem StopsAt.namespaces {block : String → List Operation} {interfaces : NameMap Interface}
    {names : List String}
    (hfirst : ∀ name, ∃ settings, block name = .createNamespace name :: settings)
    (hblock : ∀ {h h' : Host} {name : String}, h.applyAll (block name) = .ok h' ↔
      name ∉ h.namespaces ∧ h' = h.setInterfaces name interfaces)
    (hroot : h.root = ∅) (hstop : h.StopsAt (names.flatMap block) done op k fault) :
    ∃ name, op = .createNamespace name ∧ k.root = ∅ ∧ fault = .namespaceExists name := by
  obtain ⟨_, name, _, m, _, -, -, hm, hstop⟩ := hstop.flatMap (P := fun m => m.root = ∅)
    (fun hk hok => by
      obtain ⟨-, rfl⟩ := hblock.mp hok
      exact hk) hroot
  obtain ⟨settings, hsettings⟩ := hfirst name
  have hsplit := hstop
  rw [hsettings] at hsplit
  rcases hsplit.cons with ⟨-, rfl, rfl, hrefused⟩ | ⟨m', _, hop, -, -⟩
  · exact ⟨name, rfl, hm, createNamespace_eq_error hrefused⟩
  · obtain ⟨hnew, -⟩ := createNamespace_eq_ok_iff.mp hop
    exact absurd (hblock.mpr ⟨hnew, rfl⟩) hstop.not_ok

end Host

/-! ## Circuits -/

namespace Circuit

/-- The root with both ends of the circuit and nothing else. -/
def bothEnds (c : Circuit) : NameMap Interface :=
  ((∅ : NameMap Interface).insert c.interfaces.1 { kind := .veth c.interfaces.2 }).insert
    c.interfaces.2 { kind := .veth c.interfaces.1 }

/-- The root with the end at `b` and nothing else. -/
def secondEnd (c : Circuit) : NameMap Interface :=
  (∅ : NameMap Interface).insert c.interfaces.2 { kind := .veth c.interfaces.1 }

/-- How the block of a circuit can stop where the root was empty: what was done of the
block, the operation that is refused and why, and the root then. -/
inductive Stops (c : Circuit) : List Operation → Operation → Fault → NameMap Interface → Prop
  | pair : c.interfaces.1 = c.interfaces.2 →
      c.Stops [] (.createVethPair c.interfaces.1 c.interfaces.2)
        (.interfaceExists rootName c.interfaces.2) ∅
  | firstMove {fault : Fault} : c.interfaces.1 ≠ c.interfaces.2 →
      fault = .unknownNamespace c.a ∨ fault = .interfaceExists c.a c.interfaces.1 →
      c.Stops ((Plan.circuit c).take 1) (.move c.interfaces.1 c.a) fault c.bothEnds
  | secondMove {fault : Fault} : c.interfaces.1 ≠ c.interfaces.2 →
      fault = .unknownNamespace c.b ∨ fault = .interfaceExists c.b c.interfaces.2 →
      c.Stops ((Plan.circuit c).take 3) (.move c.interfaces.2 c.b) fault c.secondEnd
  | bridge : c.Stops ((Plan.circuit c).take 5) (.attach c.b c.interfaces.2 bridgeName)
      (.unknownBridge c.b bridgeName) ∅

end Circuit

namespace Host

theorem root_withVethPair (hroot : h.root = ∅) :
    (h.withVethPair c.interfaces.1 c.interfaces.2).root = c.bothEnds := by
  rw [withVethPair, hroot]
  rfl

theorem root_withMoved_bothEnds (ns : String) (i : Interface) (hroot : h.root = c.bothEnds)
    (hne : c.interfaces.1 ≠ c.interfaces.2) :
    (h.withMoved c.interfaces.1 ns i).root = c.secondEnd := by
  refine NameMap.ext_find? fun name => ?_
  rw [find?_root_withMoved, hroot, Circuit.bothEnds, Circuit.secondEnd, NameMap.find?_insert,
    NameMap.find?_insert, NameMap.find?_insert, NameMap.find?_empty]
  by_cases hfirst : name = c.interfaces.1
  · rw [if_pos hfirst, if_neg fun hsecond => hne (hfirst.symm.trans hsecond)]
  · rw [if_neg hfirst, if_neg hfirst]

namespace StopsAt

/-- An end that is there can be refused by the namespace it is to go to, and once it is
there it can be set up. -/
theorem move_setUp (hi : h.root.find? interface = some i)
    (hstop : h.StopsAt [.move interface ns, .setUp ns interface] done op k fault) :
    done = [] ∧ op = .move interface ns ∧ k = h ∧
      (fault = .unknownNamespace ns ∨ fault = .interfaceExists ns interface) := by
  rcases hstop.cons with ⟨rfl, rfl, rfl, hrefused⟩ | ⟨m, later, hop, -, -⟩
  · exact ⟨rfl, rfl, rfl, move_eq_error hi hrefused⟩
  · obtain ⟨j, hj, hns, hfree, rfl⟩ := move_eq_ok_iff.mp hop
    exact absurd (applyAll_move_setUp_eq_ok_iff.mpr ⟨j, hj, hns, hfree, rfl⟩) hstop.not_ok

/-- Once both ends are in place, a circuit can lack a bridge and nothing else. -/
theorem addressing (hne : c.interfaces.1 ≠ c.interfaces.2)
    (hstop : (h.withEnds c.a c.interfaces.1 { kind := .veth c.interfaces.2, up := true }
      c.b c.interfaces.2 { kind := .veth c.interfaces.1, up := true }).StopsAt
        (Plan.addressing c) done op k fault) :
    done = [] ∧ op = .attach c.b c.interfaces.2 bridgeName ∧ k.root = h.root ∧
      fault = .unknownBridge c.b bridgeName := by
  have hleft : bridgeName ≠ c.interfaces.1 := (Circuit.interfaceName_ne_bridgeName _ _).symm
  have hright : bridgeName ≠ c.interfaces.2 := (Circuit.interfaceName_ne_bridgeName _ _).symm
  rcases c with ⟨a, b, address | block⟩
  · rcases hstop.cons with ⟨rfl, rfl, rfl, hrefused⟩ | ⟨m, later, hop, -, -⟩
    · exact ⟨rfl, rfl, rfl, attach_eq_error interface?_withEnds_right hrefused⟩
    · obtain ⟨hbridge, -⟩ := (attach_withEnds hleft hright).mp hop
      exact absurd ((applyAll_addressing_eq_ok_iff hne).mpr ⟨fun _ => hbridge, rfl⟩) hstop.not_ok
  · exact absurd ((applyAll_addressing_eq_ok_iff hne).mpr ⟨nofun, rfl⟩) hstop.not_ok

theorem circuit (hroot : h.root = ∅) (hstop : h.StopsAt (Plan.circuit c) done op k fault) :
    c.Stops done op fault k.root := by
  have hsplit : Plan.circuit c = .createVethPair c.interfaces.1 c.interfaces.2 ::
      ([.move c.interfaces.1 c.a, .setUp c.a c.interfaces.1] ++
        ([.move c.interfaces.2 c.b, .setUp c.b c.interfaces.2] ++ Plan.addressing c)) := rfl
  rw [hsplit] at hstop
  rcases hstop.cons with ⟨rfl, rfl, rfl, hrefused⟩ | ⟨h₁, later, hpair, rfl, hstop⟩
  · obtain ⟨heq, rfl⟩ := createVethPair_eq_error hroot hrefused
    rw [hroot]
    exact .pair heq
  obtain ⟨hleft, hright, hne, rfl⟩ := createVethPair_eq_ok_iff.mp hpair
  have hroot₁ := root_withVethPair (c := c) hroot
  rcases hstop.append with hstop | ⟨h₂, later, hmoved, rfl, hstop⟩
  · have hfirst : (h.withVethPair c.interfaces.1 c.interfaces.2).root.find? c.interfaces.1 =
        some { kind := .veth c.interfaces.2 } := by
      rw [find?_root_withVethPair, if_neg hne, if_pos rfl]
    obtain ⟨rfl, rfl, rfl, hfault⟩ := hstop.move_setUp hfirst
    rw [hroot₁]
    exact .firstMove hne hfault
  obtain ⟨i, -, -, -, rfl⟩ := applyAll_move_setUp_eq_ok_iff.mp hmoved
  have hroot₂ := root_withMoved_bothEnds c.a { i with up := true } hroot₁ hne
  rcases hstop.append with hstop | ⟨h₃, later, hmoved', rfl, hstop⟩
  · obtain ⟨rfl, rfl, rfl, hfault⟩ := hstop.move_setUp (by
      rw [hroot₂, Circuit.secondEnd, NameMap.find?_insert_self])
    rw [hroot₂]
    exact .secondMove hne hfault
  · -- The five operations so far are a pair that was put in place.
    have hends : h.applyAll [.createVethPair c.interfaces.1 c.interfaces.2,
        .move c.interfaces.1 c.a, .setUp c.a c.interfaces.1,
        .move c.interfaces.2 c.b, .setUp c.b c.interfaces.2] = .ok h₃ :=
      applyAll_cons_eq_ok_iff.mpr ⟨_, hpair, applyAll_append_eq_ok_iff.mpr ⟨_, hmoved, hmoved'⟩⟩
    obtain ⟨-, -, -, -, -, rfl⟩ := applyAll_pair_eq_ok_iff.mp hends
    obtain ⟨rfl, rfl, hroot₃, rfl⟩ := hstop.addressing hne
    rw [hroot₃, hroot]
    exact .bridge

theorem circuits {cs : List Circuit} (hroot : h.root = ∅)
    (hstop : h.StopsAt (cs.flatMap Plan.circuit) done op k fault) :
    ∃ before c after later, cs = before ++ c :: after ∧
      done = before.flatMap Plan.circuit ++ later ∧ c.Stops later op fault k.root := by
  obtain ⟨before, c, after, m, later, hcs, hdone, hm, hblock⟩ :=
    hstop.flatMap (P := fun m => m.root = ∅) (fun hk hok => by
      obtain ⟨-, rfl⟩ := applyAll_circuit_eq_ok_iff.mp hok
      exact hk) hroot
  exact ⟨before, c, after, later, hcs, hdone, hblock.circuit hm⟩

end StopsAt

end Host

/-! ## Plans -/

theorem Topology.plan_with_circuits (t : Topology) (cs : List Circuit) :
    { t with circuits := cs }.plan = t.segments.flatMap Plan.segment ++
      t.devices.flatMap Plan.device ++ cs.flatMap Plan.circuit :=
  plan_eq _

/-- A plan stops at a namespace that is there already or within a circuit. -/
theorem Topology.stops_of_stopsAt_plan (hstop : (∅ : Host).StopsAt t.plan done op k fault) :
    (∃ name, op = .createNamespace name ∧ k.root = ∅ ∧ fault = .namespaceExists name) ∨
      ∃ before c after later, t.circuits = before ++ c :: after ∧
        done = { t with circuits := before }.plan ++ later ∧ c.Stops later op fault k.root := by
  rw [t.plan_eq] at hstop
  rcases hstop.append with hnamespaces | ⟨h₂, later, hok, rfl, hcircuits⟩
  · rcases hnamespaces.append with hsegments | ⟨h₁, later, hok, -, hdevices⟩
    · exact .inl (hsegments.namespaces (fun _ => ⟨_, rfl⟩) applyAll_segment_eq_ok_iff rfl)
    · have hs : h₁.Shows { segments := t.segments } := Shows.empty.applyAll_segments hok
      exact .inl (hdevices.namespaces (fun _ => ⟨_, rfl⟩) applyAll_device_eq_ok_iff hs.root)
  · obtain ⟨h₁, hok₁, hok₂⟩ := applyAll_append_eq_ok_iff.mp hok
    have hs : h₂.Shows { t with circuits := [] } :=
      (Shows.empty.applyAll_segments hok₁).applyAll_devices hok₂
    obtain ⟨before, c, after, later', hcs, rfl, hc⟩ := hcircuits.circuits hs.root
    refine .inr ⟨before, c, after, later', hcs, ?_, hc⟩
    rw [plan_with_circuits, ← List.append_assoc]

theorem Host.stopsAt_of_provision (hrun : (provision t Sink.host).run.run h = (.error fault, h')) :
    ∃ done op, h.StopsAt t.plan done op h' fault := by
  rw [Sink.provision_eq_takeAll] at hrun
  obtain ⟨done, op, rest, k, hplan, hdone, hop⟩ := Sink.exists_of_run_takeAll_eq_error hrun
  obtain rfl : h' = k := Sink.atomic_host op k fault h' hop
  refine ⟨done, op, ⟨rest, hplan⟩, (run_takeAll_host_eq_iff.mp hdone).1, ?_⟩
  rw [run_host_apply] at hop
  cases hk : h'.apply op with
  | error fault' =>
    rw [hk] at hop
    cases hop
    rfl
  | ok next =>
    rw [hk] at hop
    cases hop

/-- How the plan of a topology, valid or not, ends on an empty host: with which faults, and
with what in the root. -/
theorem provision_empty_root (t : Topology) :
    (∀ n h, (provision t Sink.host).run.run ∅ = (.ok n, h) → h.root = ∅) ∧
    ∀ fault h, (provision t Sink.host).run.run ∅ = (.error fault, h) →
      fault.OfPlan ∧ ∃ done op, (∅ : Host).StopsAt t.plan done op h fault ∧
        ((∀ interface ns, op ≠ .move interface ns) ∧ h.root = ∅ ∨
          ∃ before c after, t.circuits = before ++ c :: after ∧
            c.interfaces.1 ≠ c.interfaces.2 ∧
            (done = { t with circuits := before }.plan ++ (Plan.circuit c).take 1 ∧
                op = .move c.interfaces.1 c.a ∧ h.root = c.bothEnds ∨
              done = { t with circuits := before }.plan ++ (Plan.circuit c).take 3 ∧
                op = .move c.interfaces.2 c.b ∧ h.root = c.secondEnd)) := by
  refine ⟨fun n h hrun => ?_, fun fault h hrun => ?_⟩
  · exact (Topology.shows_of_applyAll_plan (provision_host_eq_ok_iff.mp hrun).1).root
  obtain ⟨done, op, hstop⟩ := stopsAt_of_provision hrun
  rcases Topology.stops_of_stopsAt_plan hstop with
    ⟨name, rfl, hroot, rfl⟩ | ⟨before, c, after, later, hcs, rfl, hc⟩
  · exact ⟨.namespaceExists name, _, _, hstop, .inl ⟨nofun, hroot⟩⟩
  · generalize h.root = root at hc ⊢
    cases hc with
    | pair heq => exact ⟨.interfaceExists _ _, _, _, hstop, .inl ⟨nofun, rfl⟩⟩
    | firstMove hne hfault =>
      refine ⟨?_, _, _, hstop, .inr ⟨before, c, after, hcs, hne, .inl ⟨rfl, rfl, rfl⟩⟩⟩
      rcases hfault with rfl | rfl
      · exact .unknownNamespace _
      · exact .interfaceExists _ _
    | secondMove hne hfault =>
      refine ⟨?_, _, _, hstop, .inr ⟨before, c, after, hcs, hne, .inr ⟨rfl, rfl, rfl⟩⟩⟩
      rcases hfault with rfl | rfl
      · exact .unknownNamespace _
      · exact .interfaceExists _ _
    | bridge => exact ⟨.unknownBridge _ _, _, _, hstop, .inl ⟨nofun, rfl⟩⟩

/-- A lab that can be built, and the same lab with a circuit to a namespace that is not
there, one of whose ends stays where it is. -/
theorem provision_empty_root_dangling :
    (∃ h, (provision Topology.twoRouterLan Sink.host).run.run ∅ = (.ok 23, h) ∧ h.root = ∅) ∧
      ∃ h, (provision (Topology.twoRouterLan.addCircuit ⟨"Y", "Z", .pointToPoint "10.0.2."⟩)
          Sink.host).run.run ∅ = (.error (.unknownNamespace "Z"), h) ∧
        h.root.names = ["Z-Y"] ∧ Fault.OfPlan (.unknownNamespace "Z") ∧
        ∃ done op, (∅ : Host).StopsAt
          (Topology.twoRouterLan.addCircuit ⟨"Y", "Z", .pointToPoint "10.0.2."⟩).plan
          done op h (.unknownNamespace "Z") := by
  have hok : ∃ h, (provision Topology.twoRouterLan Sink.host).run.run ∅ = (.ok 23, h) := ⟨_, rfl⟩
  have hfails : ∃ h, (provision (Topology.twoRouterLan.addCircuit
      ⟨"Y", "Z", .pointToPoint "10.0.2."⟩) Sink.host).run.run ∅ =
        (.error (.unknownNamespace "Z"), h) ∧ h.root.names = ["Z-Y"] := ⟨_, rfl, rfl⟩
  obtain ⟨h, hok⟩ := hok
  obtain ⟨k, hfails, hnames⟩ := hfails
  obtain ⟨hplan, done, op, hstop, -⟩ := (provision_empty_root _).2 _ _ hfails
  exact ⟨⟨h, hok, (provision_empty_root _).1 _ _ hok⟩, k, hfails, hnames, hplan, done, op, hstop⟩

end Testbed
