import Testbed.Proofs.Atomicity

/-!
# The ends of veth pairs, counted

A veth knows its peer by name only, and names are used again: once both ends of a pair
have left the root, a pair of the same names can be created, and the first pair is still
there. So that every end has an end of its own to belong to cannot be said of one
interface. It is said by counting. There are as many veths `x` with the peer `y` as veths
`y` with the peer `x`, and as many as pairs of these names were created.

Each operation changes the number by what it creates (`vethCount_of_apply`), on any host.
This is more than that it loses nothing: it says as well that whatever is written anywhere
is written where nothing was, or where an interface of the same kind was. A replacement
is therefore weighed against what it replaces (`vethCount_setInterface`), and the move is
weighed in the root and in the namespace.
-/

namespace Testbed

/-- One for a veth `x` with the peer `y`, nothing for all others. -/
def Interface.vethWeight (x y name : String) (i : Interface) : Nat :=
  if name = x ∧ i.kind = .veth y then 1 else 0

/-- The number of veths `x` with the peer `y`, in the root and in all namespaces. -/
def Host.vethCount (h : Host) (x y : String) : Nat :=
  h.root.total (Interface.vethWeight x y) +
    h.namespaces.total fun _ interfaces => interfaces.total (Interface.vethWeight x y)

/-- Whether the operation creates a veth pair with these two ends, in either order. -/
def Operation.pairs (x y : String) : Operation → Bool
  | createVethPair left right => (left = x ∧ right = y) ∨ (left = y ∧ right = x)
  | _ => false

variable {h h' : Host} {x y ns name : String} {i : Interface} {op : Operation}

theorem Operation.pairs_comm (x y : String) : pairs x y = pairs y x := by
  funext op
  cases op with
  | createVethPair left right => exact decide_eq_decide.mpr or_comm
  | _ => rfl

namespace Interface

theorem vethWeight_congr {j : Interface} (hkind : j.kind = i.kind) :
    j.vethWeight x y name = i.vethWeight x y name := by
  rw [vethWeight, vethWeight, hkind]

@[simp]
theorem vethWeight_loopback : vethWeight x y name { kind := .loopback } = 0 :=
  if_neg fun hveth => nomatch hveth.2

@[simp]
theorem vethWeight_bridge : vethWeight x y name { kind := .bridge } = 0 :=
  if_neg fun hveth => nomatch hveth.2

/-- The two ends of a pair. -/
theorem vethWeight_add_vethWeight {left right : String} (hne : left ≠ right) :
    vethWeight x y left { kind := .veth right } + vethWeight x y right { kind := .veth left } =
      if (Operation.createVethPair left right).pairs x y then 1 else 0 := by
  simp only [vethWeight, Operation.pairs, InterfaceKind.veth.injEq, decide_eq_true_eq]
  by_cases hl : left = x ∧ right = y
  · -- Only one end counts, since the other would need both names to be the same.
    have hr : ¬ (right = x ∧ left = y) := fun hr => hne (hl.1.trans hr.1.symm)
    rw [if_pos hl, if_neg hr, if_pos (.inl hl)]
  · rw [if_neg hl, Nat.zero_add]
    exact if_congr ⟨fun hr => .inr hr.symm, fun hor => (hor.resolve_left hl).symm⟩ rfl rfl

end Interface

namespace Host

/-! ## Changes of a host -/

theorem vethCount_setInterfaces (h : Host) (x y ns : String) (interfaces : NameMap Interface) :
    (h.setInterfaces ns interfaces).vethCount x y +
        ((h.namespaces.find? ns).getD ∅).total (Interface.vethWeight x y) =
      h.vethCount x y + interfaces.total (Interface.vethWeight x y) := by
  have htotal := h.namespaces.total_insert ns interfaces
    fun _ interfaces => interfaces.total (Interface.vethWeight x y)
  have hold : (h.namespaces.find? ns).elim 0
        (fun interfaces => interfaces.total (Interface.vethWeight x y)) =
      ((h.namespaces.find? ns).getD ∅).total (Interface.vethWeight x y) := by
    cases h.namespaces.find? ns with
    | none => rfl
    | some _ => rfl
  rw [hold] at htotal
  simp only [vethCount, setInterfaces]
  omega

/-- What was there is replaced. -/
theorem vethCount_setInterface (h : Host) (x y ns name : String) (i : Interface) :
    (h.setInterface ns name i).vethCount x y +
        (h.interface? ns name).elim 0 (Interface.vethWeight x y name) =
      h.vethCount x y + i.vethWeight x y name := by
  have htotal := ((h.namespaces.find? ns).getD ∅).total_insert name i (Interface.vethWeight x y)
  have hold : ((h.namespaces.find? ns).getD ∅).find? name = h.interface? ns name := by
    rw [interface?]
    cases h.namespaces.find? ns with
    | none => rfl
    | some _ => rfl
  rw [hold] at htotal
  have hset := h.vethCount_setInterfaces x y ns (((h.namespaces.find? ns).getD ∅).insert name i)
  rw [setInterface]
  omega

/-- An interface is replaced by one of its kind. -/
theorem vethCount_setInterface_of_interface? {j : Interface} (hi : h.interface? ns name = some i)
    (hkind : j.kind = i.kind) : (h.setInterface ns name j).vethCount x y = h.vethCount x y := by
  have hset := h.vethCount_setInterface x y ns name j
  rw [hi, Option.elim_some, Interface.vethWeight_congr hkind] at hset
  omega

theorem vethCount_setInterface_of_free (hfree : h.interface? ns name = none) :
    (h.setInterface ns name i).vethCount x y = h.vethCount x y + i.vethWeight x y name := by
  have hset := h.vethCount_setInterface x y ns name i
  rwa [hfree, Option.elim_none, Nat.add_zero] at hset

theorem vethCount_withAllChanged {f : Interface → Interface} (hf : ∀ i, (f i).kind = i.kind) :
    (h.withAllChanged ns f).vethCount x y = h.vethCount x y := by
  have hset := h.vethCount_setInterfaces x y ns (((h.namespaces.find? ns).getD ∅).map f)
  have hmap : (((h.namespaces.find? ns).getD ∅).map f).total (Interface.vethWeight x y) =
      ((h.namespaces.find? ns).getD ∅).total (Interface.vethWeight x y) :=
    NameMap.total_map _ fun _ i => Interface.vethWeight_congr (hf i)
  rw [withAllChanged]
  omega

theorem vethCount_createNamespace (hnew : name ∉ h.namespaces) :
    (h.setInterfaces name loopbackOnly).vethCount x y = h.vethCount x y := by
  have hset := h.vethCount_setInterfaces x y name loopbackOnly
  have hloopback : loopbackOnly.total (Interface.vethWeight x y) = 0 := by
    have htotal := (∅ : NameMap Interface).total_insert loopbackName { kind := .loopback }
      (Interface.vethWeight x y)
    rw [Interface.vethWeight_loopback] at htotal
    exact htotal
  rw [NameMap.find?_eq_none_iff.mpr hnew, hloopback] at hset
  exact hset

theorem vethCount_withVethPair {left right : String} (hleft : left ∉ h.root)
    (hright : right ∉ h.root) (hne : left ≠ right) :
    (h.withVethPair left right).vethCount x y =
      h.vethCount x y + if (Operation.createVethPair left right).pairs x y then 1 else 0 := by
  have hfirst := h.root.total_insert left { kind := .veth right } (Interface.vethWeight x y)
  have hsecond := (h.root.insert left { kind := .veth right }).total_insert right
    { kind := .veth left } (Interface.vethWeight x y)
  rw [NameMap.find?_eq_none_iff.mpr hleft, Option.elim_none] at hfirst
  rw [NameMap.find?_insert, if_neg hne.symm, NameMap.find?_eq_none_iff.mpr hright,
    Option.elim_none] at hsecond
  rw [← Interface.vethWeight_add_vethWeight hne]
  simp only [vethCount, withVethPair]
  omega

/-- What is taken out of the root arrives in the namespace. -/
theorem vethCount_withMoved {j : Interface} (hi : h.root.find? name = some i)
    (hfree : h.interface? ns name = none) (hkind : j.kind = i.kind) :
    (h.withMoved name ns j).vethCount x y = h.vethCount x y := by
  have hroot := h.root.total_eq name (Interface.vethWeight x y)
  have hset := h.vethCount_setInterface_of_free (x := x) (y := y) (i := j) hfree
  rw [hi, Option.elim_some] at hroot
  rw [Interface.vethWeight_congr hkind] at hset
  simp only [vethCount, withMoved, setInterface, setInterfaces] at hset ⊢
  omega

/-! ## Histories -/

/-- An operation adds the pair that it creates, and nothing else changes the number. -/
theorem vethCount_of_apply (hok : h.apply op = .ok h') :
    h'.vethCount x y = h.vethCount x y + if op.pairs x y then 1 else 0 := by
  cases op with
  | createNamespace name =>
    obtain ⟨hnew, rfl⟩ := createNamespace_eq_ok_iff.mp hok
    exact vethCount_createNamespace hnew
  | createBridge ns bridge =>
    obtain ⟨-, hfree, rfl⟩ := createBridge_eq_ok_iff.mp hok
    rw [vethCount_setInterface_of_free hfree, Interface.vethWeight_bridge]
    rfl
  | setUp ns interface =>
    obtain ⟨i, hi, rfl⟩ := setUp_eq_ok_iff.mp hok
    exact vethCount_setInterface_of_interface? hi rfl
  | enableForwarding ns =>
    obtain ⟨-, rfl⟩ := enableForwarding_eq_ok_iff.mp hok
    exact vethCount_withAllChanged fun _ => rfl
  | disableReversePathFilter ns =>
    obtain ⟨-, rfl⟩ := disableReversePathFilter_eq_ok_iff.mp hok
    exact vethCount_withAllChanged fun _ => rfl
  | createVethPair left right =>
    obtain ⟨hleft, hright, hne, rfl⟩ := createVethPair_eq_ok_iff.mp hok
    exact vethCount_withVethPair hleft hright hne
  | move interface ns =>
    obtain ⟨i, hi, -, hfree, rfl⟩ := move_eq_ok_iff.mp hok
    exact vethCount_withMoved hi hfree rfl
  | attach ns interface bridge =>
    obtain ⟨-, i, hi, rfl⟩ := attach_eq_ok_iff.mp hok
    exact vethCount_setInterface_of_interface? hi rfl
  | assign ns interface address =>
    obtain ⟨i, hi, -, rfl⟩ := assign_eq_ok_iff.mp hok
    exact vethCount_setInterface_of_interface? hi rfl

theorem vethCount_offerAll (h : Host) (ops : List Operation) (x y : String) :
    (Sink.host.offerAll h ops).2.vethCount x y =
      h.vethCount x y + (Sink.host.offerAll h ops).1.countP (·.pairs x y) := by
  induction ops generalizing h with
  | nil => rfl
  | cons op ops ih =>
    rw [Sink.offerAll, run_host_apply]
    cases hop : h.apply op with
    | error fault => exact ih h
    | ok k =>
      simp only [ih k, vethCount_of_apply hop, List.countP_cons]
      omega

/-- Veths come in pairs: in whatever a host that was empty has gone through, as many ends
are called `x` with the peer `y` as the other way round, and as many as pairs of them
were created. -/
theorem vethCount_eq_countP_pairs (ops : List Operation) (x y : String) :
    (Sink.host.offerAll ∅ ops).2.vethCount x y = (Sink.host.offerAll ∅ ops).2.vethCount y x ∧
      (Sink.host.offerAll ∅ ops).2.vethCount x y =
        (Sink.host.offerAll ∅ ops).1.countP (·.pairs x y) := by
  have hcount (x y : String) : (Sink.host.offerAll ∅ ops).2.vethCount x y =
      (Sink.host.offerAll ∅ ops).1.countP (·.pairs x y) := by
    have hempty : (∅ : Host).vethCount x y = 0 := rfl
    rw [vethCount_offerAll, hempty, Nat.zero_add]
  refine ⟨?_, hcount x y⟩
  rw [hcount x y, hcount y x, Operation.pairs_comm]

/-- The same names again, the other way round, once the first pair has left the root. -/
example : (Sink.host.offerAll ∅ [.createNamespace "L", .createVethPair "X" "Y", .move "X" "L",
    .createVethPair "Y" "X", .move "Y" "L", .createVethPair "Y" "X"]).2.vethCount "X" "Y" = 2 := by
  decide

end Host

end Testbed
