import Testbed.Except
import Testbed.Host.Apply

/-!
# What an operation needs and what it does

Each operation is taken apart once, here, into the conditions under which a host
accepts it and the host it leaves. The conditions are said through three
questions about a host: whether an interface is in the root, whether there is a
namespace, and which interface of a namespace has a name. Nothing else about a
host matters, and two hosts that answer all three alike are the same host.

Later files cite the equivalences below and do not look into the operations
again.
-/

namespace Testbed.Host

variable {h h' : Host} {ns name interface bridge address : String}

/-! ## The three questions -/

theorem mem_namespaces_of_interface? {i : Interface} (hi : h.interface? ns interface = some i) :
    ns ∈ h.namespaces := by
  obtain ⟨interfaces, hn, -⟩ := Option.bind_eq_some_iff.mp hi
  exact NameMap.mem_iff.mpr ⟨interfaces, hn⟩

theorem interface?_of_not_mem (hn : ns ∉ h.namespaces) : h.interface? ns interface = none := by
  rw [interface?, NameMap.find?_eq_none_iff.mpr hn]
  rfl

theorem interface?_of_find? {interfaces : NameMap Interface}
    (hn : h.namespaces.find? ns = some interfaces) :
    h.interface? ns interface = interfaces.find? interface := by
  rw [interface?, hn]
  rfl

/-- What a namespace holds is known when it is known to be there and every name in
it is known. -/
theorem find?_namespaces_congr {k : Host} (hn : ns ∈ h.namespaces ↔ ns ∈ k.namespaces)
    (hi : ∀ interface, h.interface? ns interface = k.interface? ns interface) :
    h.namespaces.find? ns = k.namespaces.find? ns := by
  by_cases hmem : ns ∈ h.namespaces
  · obtain ⟨xs, hxs⟩ := NameMap.mem_iff.mp hmem
    obtain ⟨ys, hys⟩ := NameMap.mem_iff.mp (hn.mp hmem)
    have heq : xs = ys := NameMap.ext_find? fun interface => by
      rw [← interface?_of_find? hxs, ← interface?_of_find? hys, hi]
    rw [hxs, hys, heq]
  · rw [NameMap.find?_eq_none_iff.mpr hmem, NameMap.find?_eq_none_iff.mpr (mt hn.mpr hmem)]

theorem ext_interface? {k : Host} (hr : ∀ name, h.root.find? name = k.root.find? name)
    (hn : ∀ ns, ns ∈ h.namespaces ↔ ns ∈ k.namespaces)
    (hi : ∀ ns interface, h.interface? ns interface = k.interface? ns interface) : h = k := by
  have hroot : h.root = k.root := NameMap.ext_find? hr
  have hnamespaces : h.namespaces = k.namespaces :=
    NameMap.ext_find? fun ns => find?_namespaces_congr (hn ns) (hi ns)
  cases h
  cases k
  cases hroot
  cases hnamespaces
  rfl

/-! ## Replacing interfaces -/

theorem mem_namespaces_setInterfaces {interfaces : NameMap Interface} {other : String} :
    other ∈ (h.setInterfaces ns interfaces).namespaces ↔ other = ns ∨ other ∈ h.namespaces := by
  rw [NameMap.mem_iff, NameMap.mem_iff]
  simp only [setInterfaces, NameMap.find?_insert]
  split
  · next heq => simp [heq]
  · next hne => simp [hne]

theorem interface?_setInterfaces (interfaces : NameMap Interface) (other name : String) :
    (h.setInterfaces ns interfaces).interface? other name =
      if other = ns then interfaces.find? name else h.interface? other name := by
  simp only [interface?, setInterfaces, NameMap.find?_insert]
  split <;> rfl

theorem mem_namespaces_setInterface {i : Interface} {other : String} :
    other ∈ (h.setInterface ns interface i).namespaces ↔ other = ns ∨ other ∈ h.namespaces :=
  mem_namespaces_setInterfaces

theorem interface?_setInterface (i : Interface) (other name : String) :
    (h.setInterface ns interface i).interface? other name =
      if other = ns ∧ name = interface then some i else h.interface? other name := by
  rw [setInterface, interface?_setInterfaces, NameMap.find?_insert]
  by_cases hns : other = ns
  · subst hns
    cases hn : h.namespaces.find? other <;> simp [interface?, hn]
  · simp [hns]

/-! What is set later is what counts. -/

theorem find?_namespaces_setInterfaces_self (interfaces : NameMap Interface) :
    (h.setInterfaces ns interfaces).namespaces.find? ns = some interfaces :=
  NameMap.find?_insert_self _ _ _

theorem setInterfaces_setInterfaces (xs ys : NameMap Interface) :
    (h.setInterfaces ns xs).setInterfaces ns ys = h.setInterfaces ns ys := by
  simp only [setInterfaces, NameMap.insert_insert]

theorem setInterface_setInterfaces (interfaces : NameMap Interface) (i : Interface) :
    (h.setInterfaces ns interfaces).setInterface ns interface i =
      h.setInterfaces ns (interfaces.insert interface i) := by
  rw [setInterface, find?_namespaces_setInterfaces_self, setInterfaces_setInterfaces]
  rfl

theorem setInterface_setInterface (i j : Interface) :
    (h.setInterface ns interface i).setInterface ns interface j =
      h.setInterface ns interface j := by
  rw [setInterface.eq_def h ns interface i, setInterface_setInterfaces, NameMap.insert_insert]
  rfl

theorem setInterface_comm {other name : String} (hne : interface ≠ name) (i j : Interface) :
    (h.setInterface ns interface i).setInterface other name j =
      (h.setInterface other name j).setInterface ns interface i := by
  refine ext_interface? (fun _ => rfl) (fun ns' => ?_) (fun ns' name' => ?_)
  · simp only [mem_namespaces_setInterface]
    exact or_left_comm
  · simp only [interface?_setInterface]
    by_cases hname : name' = name
    · have hother : ¬ (ns' = ns ∧ name' = interface) := fun heq => hne (heq.2.symm.trans hname)
      rw [if_neg hother, if_neg hother]
    · have hother : ¬ (ns' = other ∧ name' = name) := fun heq => hname heq.2
      rw [if_neg hother, if_neg hother]

/-! ## The hosts that operations leave

Four of them are an interface set in a namespace. The others are given a name and
their answers to the three questions. -/

/-- What a new namespace holds. -/
def loopbackOnly : NameMap Interface :=
  (∅ : NameMap Interface).insert loopbackName { kind := .loopback }

theorem find?_loopbackOnly (name : String) :
    loopbackOnly.find? name = if name = loopbackName then some { kind := .loopback } else none := by
  rw [loopbackOnly, NameMap.find?_insert, NameMap.find?_empty]

/-- The host with every interface of a namespace changed. -/
def withAllChanged (h : Host) (ns : String) (f : Interface → Interface) : Host :=
  h.setInterfaces ns (((h.namespaces.find? ns).getD ∅).map f)

theorem interface?_withAllChanged (f : Interface → Interface) (other name : String) :
    (h.withAllChanged ns f).interface? other name =
      if other = ns then (h.interface? ns name).map f else h.interface? other name := by
  rw [withAllChanged, interface?_setInterfaces, NameMap.find?_map]
  cases hn : h.namespaces.find? ns <;> simp [interface?, hn]

theorem withAllChanged_setInterfaces (interfaces : NameMap Interface) (f : Interface → Interface) :
    (h.setInterfaces ns interfaces).withAllChanged ns f =
      h.setInterfaces ns (interfaces.map f) := by
  rw [withAllChanged, find?_namespaces_setInterfaces_self, setInterfaces_setInterfaces]
  rfl

/-- The host with both ends of a new veth pair in the root. -/
def withVethPair (h : Host) (left right : String) : Host :=
  { h with
    root := (h.root.insert left { kind := .veth right }).insert right { kind := .veth left } }

theorem find?_root_withVethPair (left right other : String) :
    (h.withVethPair left right).root.find? other =
      if other = right then some { kind := .veth left }
      else if other = left then some { kind := .veth right }
      else h.root.find? other := by
  rw [withVethPair, NameMap.find?_insert, NameMap.find?_insert]

/-- The host with an interface gone from the root into a namespace, where it is in
the state `i`. -/
def withMoved (h : Host) (interface ns : String) (i : Interface) : Host :=
  { h.setInterface ns interface i with root := h.root.erase interface }

theorem find?_root_withMoved (i : Interface) (other : String) :
    (h.withMoved interface ns i).root.find? other =
      if other = interface then none else h.root.find? other := by
  rw [withMoved, NameMap.find?_erase]

theorem interface?_withMoved (i : Interface) (other name : String) :
    (h.withMoved interface ns i).interface? other name =
      if other = ns ∧ name = interface then some i else h.interface? other name :=
  interface?_setInterface i other name

theorem mem_namespaces_withMoved {i : Interface} {other : String} :
    other ∈ (h.withMoved interface ns i).namespaces ↔ other = ns ∨ other ∈ h.namespaces :=
  mem_namespaces_setInterface

theorem setInterface_withMoved (i j : Interface) :
    (h.withMoved interface ns i).setInterface ns interface j = h.withMoved interface ns j :=
  congrArg (fun k : Host => { k with root := h.root.erase interface })
    (setInterface_setInterface i j)

/-! ## Asking for what has to be there -/

theorem interfacesOf_eq_ok_iff {interfaces : NameMap Interface} :
    h.interfacesOf ns = .ok interfaces ↔ h.namespaces.find? ns = some interfaces := by
  rw [interfacesOf]
  split
  · next found hn => simp [hn]
  · next hn => simp [hn]

theorem interfaceOf_eq_ok_iff {i : Interface} :
    h.interfaceOf ns interface = .ok i ↔ h.interface? ns interface = some i := by
  rw [interfaceOf, bind_eq_ok_iff, interface?, Option.bind_eq_some_iff]
  refine exists_congr fun interfaces => and_congr interfacesOf_eq_ok_iff ?_
  cases interfaces.find? interface <;> simp

/-! ## The operations -/

theorem createNamespace_eq_ok_iff :
    h.createNamespace name = .ok h' ↔
      name ∉ h.namespaces ∧ h' = h.setInterfaces name loopbackOnly := by
  rw [createNamespace]
  split
  · next hmem => simp [hmem]
  · next hmem => simp [hmem, eq_comm, loopbackOnly]

theorem createBridge_eq_ok_iff :
    h.createBridge ns bridge = .ok h' ↔
      ns ∈ h.namespaces ∧ h.interface? ns bridge = none ∧
        h' = h.setInterface ns bridge { kind := .bridge } := by
  simp only [createBridge, bind_eq_ok_iff, interfacesOf_eq_ok_iff]
  constructor
  · intro hok
    obtain ⟨interfaces, hn, hok⟩ := hok
    split at hok
    · split at hok <;> cases hok
    · next hnone =>
      cases hok
      exact ⟨NameMap.mem_iff.mpr ⟨_, hn⟩, (interface?_of_find? hn).trans hnone, rfl⟩
  · intro hcond
    obtain ⟨hmem, hnone, rfl⟩ := hcond
    obtain ⟨interfaces, hn⟩ := NameMap.mem_iff.mp hmem
    rw [interface?_of_find? hn] at hnone
    exact ⟨interfaces, hn, by rw [hnone]⟩

theorem setUp_eq_ok_iff :
    h.setUp ns interface = .ok h' ↔
      ∃ i, h.interface? ns interface = some i ∧
        h' = h.setInterface ns interface { i with up := true } := by
  rw [setUp, bind_eq_ok_iff]
  refine exists_congr fun i => and_congr interfaceOf_eq_ok_iff ?_
  rw [Except.ok.injEq, eq_comm]

theorem changeAll_eq_ok_iff {f : Interface → Interface} :
    (h.interfacesOf ns >>= fun interfaces => .ok (h.setInterfaces ns (interfaces.map f))) = .ok h' ↔
      ns ∈ h.namespaces ∧ h' = h.withAllChanged ns f := by
  simp only [bind_eq_ok_iff, interfacesOf_eq_ok_iff, Except.ok.injEq, NameMap.mem_iff]
  constructor
  · intro hok
    obtain ⟨interfaces, hn, rfl⟩ := hok
    exact ⟨⟨interfaces, hn⟩, by rw [withAllChanged, hn]; rfl⟩
  · intro hcond
    obtain ⟨⟨interfaces, hn⟩, rfl⟩ := hcond
    exact ⟨interfaces, hn, by rw [withAllChanged, hn]; rfl⟩

theorem enableForwarding_eq_ok_iff :
    h.enableForwarding ns = .ok h' ↔
      ns ∈ h.namespaces ∧ h' = h.withAllChanged ns fun i => { i with forwarding := true } :=
  changeAll_eq_ok_iff

theorem disableReversePathFilter_eq_ok_iff :
    h.disableReversePathFilter ns = .ok h' ↔
      ns ∈ h.namespaces ∧ h' = h.withAllChanged ns fun i => { i with rpFilter := false } :=
  changeAll_eq_ok_iff

theorem createVethPair_eq_ok_iff {left right : String} :
    h.createVethPair left right = .ok h' ↔
      left ∉ h.root ∧ right ∉ h.root ∧ left ≠ right ∧ h' = h.withVethPair left right := by
  rw [createVethPair]
  split
  · next hl => simp [hl]
  · next hl =>
    split
    · next hr => simp [hr]
    · next hr =>
      split
      · next heq => simp [heq]
      · next hne => simp [hl, hr, hne, eq_comm, withVethPair]

theorem move_eq_ok_iff :
    h.move interface ns = .ok h' ↔
      ∃ i, h.root.find? interface = some i ∧ ns ∈ h.namespaces ∧
        h.interface? ns interface = none ∧
          h' = h.withMoved interface ns { i with up := false } := by
  rw [move]
  split
  · next hnone => simp [hnone]
  · next i hi =>
    simp only [bind_eq_ok_iff, interfacesOf_eq_ok_iff, hi, Option.some.injEq, exists_eq_left']
    constructor
    · intro hok
      obtain ⟨interfaces, hn, hok⟩ := hok
      split at hok
      · cases hok
      · next hfree =>
        cases hok
        refine ⟨NameMap.mem_iff.mpr ⟨_, hn⟩, ?_, rfl⟩
        rw [interface?_of_find? hn, NameMap.find?_eq_none_iff]
        exact hfree
    · intro hcond
      obtain ⟨hmem, hnone, rfl⟩ := hcond
      obtain ⟨interfaces, hn⟩ := NameMap.mem_iff.mp hmem
      rw [interface?_of_find? hn, NameMap.find?_eq_none_iff] at hnone
      exact ⟨interfaces, hn, by rw [if_neg hnone]; rfl⟩

theorem attach_eq_ok_iff :
    h.attach ns interface bridge = .ok h' ↔
      (h.interface? ns bridge).map (·.kind) = some .bridge ∧
        ∃ i, h.interface? ns interface = some i ∧
          h' = h.setInterface ns interface { i with master := some bridge } := by
  simp only [attach, bind_eq_ok_iff, interfacesOf_eq_ok_iff]
  constructor
  · intro hok
    obtain ⟨interfaces, hn, hok⟩ := hok
    split at hok
    · next hbridge =>
      obtain ⟨i, hi, hset⟩ := bind_eq_ok_iff.mp hok
      rw [interface?_of_find? hn]
      exact ⟨hbridge, i, interfaceOf_eq_ok_iff.mp hi, by cases hset; rfl⟩
    · cases hok
  · intro hcond
    obtain ⟨hbridge, i, hi, rfl⟩ := hcond
    obtain ⟨interfaces, hn⟩ := NameMap.mem_iff.mp (mem_namespaces_of_interface? hi)
    rw [interface?_of_find? hn] at hbridge
    refine ⟨interfaces, hn, ?_⟩
    rw [if_pos hbridge, bind_eq_ok_iff]
    exact ⟨i, interfaceOf_eq_ok_iff.mpr hi, rfl⟩

theorem assign_eq_ok_iff :
    h.assign ns interface address = .ok h' ↔
      ∃ i, h.interface? ns interface = some i ∧ address ∉ i.addresses ∧
        h' = h.setInterface ns interface { i with addresses := i.addresses ++ [address] } := by
  simp only [assign, bind_eq_ok_iff, interfaceOf_eq_ok_iff]
  refine exists_congr fun i => and_congr_right fun _ => ?_
  split
  · next hmem => simp [hmem]
  · next hmem => simp [hmem, eq_comm]

/-! ## Sequences of operations -/

/-- The host after all the operations, each of which has to succeed. -/
def applyAll (h : Host) (ops : List Operation) : Except Fault Host :=
  ops.foldlM apply h

@[simp]
theorem applyAll_nil : h.applyAll [] = .ok h := rfl

theorem applyAll_cons_eq_ok_iff {op : Operation} {ops : List Operation} :
    h.applyAll (op :: ops) = .ok h' ↔ ∃ k, h.apply op = .ok k ∧ k.applyAll ops = .ok h' := by
  rw [applyAll, List.foldlM_cons, bind_eq_ok_iff]
  rfl

theorem applyAll_append_eq_ok_iff {ops ops' : List Operation} :
    h.applyAll (ops ++ ops') = .ok h' ↔
      ∃ k, h.applyAll ops = .ok k ∧ k.applyAll ops' = .ok h' := by
  rw [applyAll, List.foldlM_append, bind_eq_ok_iff]
  rfl

end Testbed.Host
