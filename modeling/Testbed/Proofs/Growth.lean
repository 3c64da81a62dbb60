import Testbed.Proofs.Atomicity

/-!
# A host only grows

No operation takes back what another one has done. A namespace stays, what is in it stays in
it and keeps its kind, and what was set for an interface is set for good: it does not go down
again, it loses no address, and once attached it is attached to something from then on. Only
the root can lose an interface, and what it loses has gone into a namespace
(`attemptAll_only_grows`).

The comparison is not what is carried along a history. An account is: `Interface.undergo` is
what an operation that was taken has done to an interface of a namespace, and the interface
at the end is the one at the beginning with all of this done to it in order
(`interface?_offerAll`). That there is such an account on every host is because a creation
and a move need a name that is free. Were one of them to put its interface in the place of
another, the account of that one would break off. With the account at hand, that nothing is
undone is a fact about one interface and one operation, and no host has a part in it.
-/

namespace Testbed

namespace Interface

/-- What has become of the interface `name` in the namespace `ns` when a host has taken the
operation. -/
def undergo (ns name : String) (i : Interface) : Operation → Interface
  | .setUp there interface => if ns = there ∧ name = interface then { i with up := true } else i
  | .enableForwarding there => if ns = there then { i with forwarding := true } else i
  | .disableReversePathFilter there => if ns = there then { i with rpFilter := false } else i
  | .attach there interface bridge =>
    if ns = there ∧ name = interface then { i with master := some bridge } else i
  | .assign there interface address =>
    if ns = there ∧ name = interface then { i with addresses := i.addresses ++ [address] } else i
  -- What is created or moved comes to a name that is not taken.
  | .createNamespace _ | .createBridge _ _ | .createVethPair _ _ | .move _ _ => i

/-- Nothing that `i` has reached is undone in `j`. -/
structure AdvancesTo (i j : Interface) : Prop where
  kind : j.kind = i.kind
  up : i.up = true → j.up = true
  forwarding : i.forwarding = true → j.forwarding = true
  rpFilter : i.rpFilter = false → j.rpFilter = false
  addresses : i.addresses <+: j.addresses
  /-- It need not be the same one. -/
  master : i.master ≠ none → j.master ≠ none

variable {i j : Interface}

namespace AdvancesTo

theorem refl (i : Interface) : i.AdvancesTo i :=
  ⟨rfl, id, id, id, List.prefix_rfl, id⟩

theorem trans {l : Interface} (hij : i.AdvancesTo j) (hjl : j.AdvancesTo l) : i.AdvancesTo l where
  kind := hjl.kind.trans hij.kind
  up := hjl.up ∘ hij.up
  forwarding := hjl.forwarding ∘ hij.forwarding
  rpFilter := hjl.rpFilter ∘ hij.rpFilter
  addresses := hij.addresses.trans hjl.addresses
  master := hjl.master ∘ hij.master

theorem ite {p : Prop} [Decidable p] (hij : i.AdvancesTo j) :
    i.AdvancesTo (if p then j else i) := by
  split
  · exact hij
  · exact refl i

end AdvancesTo

theorem advancesTo_undergo (ns name : String) (i : Interface) (op : Operation) :
    i.AdvancesTo (i.undergo ns name op) := by
  cases op with
  | createNamespace name => exact .refl i
  | createBridge there bridge => exact .refl i
  | setUp there interface => exact .ite ⟨rfl, fun _ => rfl, id, id, List.prefix_rfl, id⟩
  | enableForwarding there => exact .ite ⟨rfl, id, fun _ => rfl, id, List.prefix_rfl, id⟩
  | disableReversePathFilter there => exact .ite ⟨rfl, id, id, fun _ => rfl, List.prefix_rfl, id⟩
  | createVethPair left right => exact .refl i
  | move interface there => exact .refl i
  | attach there interface bridge =>
    exact .ite ⟨rfl, id, id, id, List.prefix_rfl, fun _ => Option.some_ne_none bridge⟩
  | assign there interface address => exact .ite ⟨rfl, id, id, id, List.prefix_append _ _, id⟩

theorem advancesTo_foldl_undergo (ns name : String) (i : Interface) (ops : List Operation) :
    i.AdvancesTo (ops.foldl (undergo ns name) i) := by
  induction ops generalizing i with
  | nil => exact .refl i
  | cons op ops ih => exact (advancesTo_undergo ns name i op).trans (ih _)

end Interface

namespace Host

variable {h h' : Host} {op : Operation} {ns there name interface : String} {i j : Interface}

/-! ## Interfaces of a namespace -/

theorem interface?_setInterface_of_interface? {f : Interface → Interface}
    (hi : h.interface? ns name = some i) (hj : h.interface? there interface = some j) :
    (h.setInterface there interface (f j)).interface? ns name =
      some (if ns = there ∧ name = interface then f i else i) := by
  rw [interface?_setInterface]
  split
  · next heq =>
    rw [heq.1, heq.2, hj] at hi
    rw [Option.some.inj hi]
  · exact hi

theorem interface?_setInterface_of_free (hi : h.interface? ns name = some i)
    (hfree : h.interface? there interface = none) :
    (h.setInterface there interface j).interface? ns name = some i := by
  rw [interface?_setInterface, if_neg]
  · exact hi
  · intro heq
    rw [heq.1, heq.2, hfree] at hi
    cases hi

theorem interface?_withAllChanged_of_interface? {f : Interface → Interface}
    (hi : h.interface? ns name = some i) :
    (h.withAllChanged there f).interface? ns name = some (if ns = there then f i else i) := by
  rw [interface?_withAllChanged]
  split
  · next heq => rw [← heq, hi, Option.map_some]
  · exact hi

theorem interface?_of_apply (hok : h.apply op = .ok h') (hi : h.interface? ns name = some i) :
    h'.interface? ns name = some (i.undergo ns name op) := by
  cases op with
  | createNamespace new =>
    obtain ⟨hnew, rfl⟩ := createNamespace_eq_ok_iff.mp hok
    have hne : ns ≠ new := fun heq => hnew (heq ▸ mem_namespaces_of_interface? hi)
    rw [interface?_setInterfaces, if_neg hne]
    exact hi
  | createBridge there bridge =>
    obtain ⟨-, hfree, rfl⟩ := createBridge_eq_ok_iff.mp hok
    exact interface?_setInterface_of_free hi hfree
  | setUp there interface =>
    obtain ⟨j, hj, rfl⟩ := setUp_eq_ok_iff.mp hok
    exact interface?_setInterface_of_interface? (f := fun i => { i with up := true }) hi hj
  | enableForwarding there =>
    obtain ⟨-, rfl⟩ := enableForwarding_eq_ok_iff.mp hok
    exact interface?_withAllChanged_of_interface? hi
  | disableReversePathFilter there =>
    obtain ⟨-, rfl⟩ := disableReversePathFilter_eq_ok_iff.mp hok
    exact interface?_withAllChanged_of_interface? hi
  | createVethPair left right =>
    obtain ⟨-, -, -, rfl⟩ := createVethPair_eq_ok_iff.mp hok
    exact hi
  | move interface there =>
    obtain ⟨j, -, -, hfree, rfl⟩ := move_eq_ok_iff.mp hok
    exact interface?_setInterface_of_free hi hfree
  | attach there interface bridge =>
    obtain ⟨-, j, hj, rfl⟩ := attach_eq_ok_iff.mp hok
    exact interface?_setInterface_of_interface?
      (f := fun i => { i with master := some bridge }) hi hj
  | assign there interface address =>
    obtain ⟨j, hj, -, rfl⟩ := assign_eq_ok_iff.mp hok
    exact interface?_setInterface_of_interface?
      (f := fun i => { i with addresses := i.addresses ++ [address] }) hi hj

/-- An interface of a namespace is there at the end, with what the operations that were taken
have done to it, and nothing else. -/
theorem interface?_offerAll (hi : h.interface? ns name = some i) (ops : List Operation) :
    (Sink.host.offerAll h ops).2.interface? ns name =
      some ((Sink.host.offerAll h ops).1.foldl (Interface.undergo ns name) i) := by
  induction ops generalizing h i with
  | nil => exact hi
  | cons op ops ih =>
    rw [Sink.offerAll, run_host_apply]
    cases hop : h.apply op with
    | error fault => exact ih hi
    | ok k => exact ih (interface?_of_apply hop hi)

/-! ## Interfaces of the root -/

/-- A new pair does not touch what is in the root, and nothing else but a move writes there. -/
theorem find?_root_of_apply (hok : h.apply op = .ok h') (hi : h.root.find? name = some i) :
    h'.root.find? name = some i ∨
      ∃ ns, op = .move name ns ∧ h'.interface? ns name = some { i with up := false } := by
  cases op with
  | createVethPair left right =>
    obtain ⟨hleft, hright, -, rfl⟩ := createVethPair_eq_ok_iff.mp hok
    have hmem : name ∈ h.root := NameMap.mem_iff.mpr ⟨i, hi⟩
    have hne_left : name ≠ left := fun heq => hleft (heq ▸ hmem)
    have hne_right : name ≠ right := fun heq => hright (heq ▸ hmem)
    rw [find?_root_withVethPair, if_neg hne_right, if_neg hne_left]
    exact .inl hi
  | move interface ns =>
    obtain ⟨j, hj, -, -, rfl⟩ := move_eq_ok_iff.mp hok
    by_cases heq : name = interface
    · subst heq
      obtain rfl : i = j := Option.some.inj (hi.symm.trans hj)
      refine .inr ⟨ns, rfl, ?_⟩
      rw [interface?_withMoved, if_pos ⟨rfl, rfl⟩]
    · rw [find?_root_withMoved, if_neg heq]
      exact .inl hi
  | _ =>
    have hsame : h.root.find? name = h'.root.find? name :=
      apply_frame (l := .outside name) hok (by simp [Operation.writes, Location.within])
    exact .inl (hsame ▸ hi)

theorem attemptAll_concat (h : Host) (ops : List Operation) (op : Operation) :
    h.attemptAll (ops ++ [op]) = (h.attemptAll ops).attempt op :=
  List.foldl_concat ..

/-- An interface of the root is as it was, or it was as it was until a move took it away. -/
theorem find?_root_attemptAll (hi : h.root.find? name = some i) (ops : List Operation) :
    (h.attemptAll ops).root.find? name = some i ∨
      ∃ before ns after k, ops = before ++ .move name ns :: after ∧
        (h.attemptAll before).root.find? name = some i ∧
        (h.attemptAll before).apply (.move name ns) = .ok k ∧
        k.interface? ns name = some { i with up := false } ∧
        h.attemptAll ops = k.attemptAll after := by
  induction ops using List.reverseRecOn with
  | nil => exact .inl hi
  | append_singleton ops op ih =>
    rw [attemptAll_concat]
    rcases ih with hstays | ⟨before, ns, after, k, rfl, hstill, hmove, harrives, hrest⟩
    · cases hop : (h.attemptAll ops).apply op with
      | error fault =>
        rw [attempt_of_error hop]
        exact .inl hstays
      | ok k =>
        rw [attempt_of_ok hop]
        refine (find?_root_of_apply hop hstays).imp_right fun hmoved => ?_
        obtain ⟨ns, rfl, harrives⟩ := hmoved
        exact ⟨ops, ns, [], k, rfl, hstays, hop, harrives, rfl⟩
    · refine .inr ⟨before, ns, after ++ [op], k, ?_, hstill, hmove, harrives, ?_⟩
      · rw [List.append_assoc, List.cons_append]
      · rw [hrest, attemptAll_concat]

/-! ## The whole host -/

theorem exists_interface?_attemptAll (hi : h.interface? ns name = some i) (ops : List Operation) :
    ∃ j, (h.attemptAll ops).interface? ns name = some j ∧ i.AdvancesTo j ∧
      j = (Sink.host.offerAll h ops).1.foldl (Interface.undergo ns name) i := by
  rw [← Sink.offerAll_host_snd]
  exact ⟨_, interface?_offerAll hi ops, Interface.advancesTo_foldl_undergo ns name i _, rfl⟩

/-- Whatever is asked of a host, it keeps its namespaces and the interfaces in them, none of
which loses anything, and it keeps the interfaces of its root but for those that are moved
into a namespace. -/
theorem attemptAll_only_grows (h : Host) (ops : List Operation) :
    (∀ ns ∈ h.namespaces, ns ∈ (h.attemptAll ops).namespaces) ∧
    (∀ ns name i, h.interface? ns name = some i →
      ∃ j, (h.attemptAll ops).interface? ns name = some j ∧ i.AdvancesTo j ∧
        j = (Sink.host.offerAll h ops).1.foldl (Interface.undergo ns name) i) ∧
    ∀ name i, h.root.find? name = some i →
      (h.attemptAll ops).root.find? name = some i ∨
        ∃ before ns after k j, ops = before ++ .move name ns :: after ∧
          (h.attemptAll before).root.find? name = some i ∧
          (h.attemptAll before).apply (.move name ns) = .ok k ∧
          k.interface? ns name = some { i with up := false } ∧
          (h.attemptAll ops).interface? ns name = some j ∧
          { i with up := false }.AdvancesTo j := by
  refine ⟨fun ns hns => mem_namespaces_attemptAll hns ops,
    fun ns name i hi => exists_interface?_attemptAll hi ops, fun name i hi => ?_⟩
  refine (find?_root_attemptAll hi ops).imp_right fun hmoved => ?_
  obtain ⟨before, ns, after, k, hsplit, hstill, hmove, harrives, hrest⟩ := hmoved
  obtain ⟨j, hj, hadvances, -⟩ := exists_interface?_attemptAll harrives after
  rw [← hrest] at hj
  exact ⟨before, ns, after, k, j, hsplit, hstill, hmove, harrives, hj, hadvances⟩

/-- An address is refused the second time, and so is the move of an interface to where
another one has its name. -/
def eventful : List Operation :=
  [.createNamespace "Z", .createBridge "Z" "br0", .assign "Z" "lo" "10.0.0.1/32",
    .assign "Z" "lo" "10.0.0.1/32", .move "eth0" "Y", .move "eth0" "Z",
    .createVethPair "eth0" "eth1", .move "eth0" "Z", .attach "Z" "eth0" "br0",
    .setUp "Z" "eth0"]

/-- The root has an `eth0` in the end as well, but it is not the one of the beginning. -/
theorem attemptAll_only_grows_eventful :
    "Z" ∈ inUse.namespaces ∧ "Z" ∈ (inUse.attemptAll eventful).namespaces ∧
    (∃ i j, inUse.interface? "Z" "lo" = some i ∧
      (inUse.attemptAll eventful).interface? "Z" "lo" = some j ∧ i.AdvancesTo j) ∧
    ∃ i before ns after k j, inUse.root.find? "eth0" = some i ∧
      eventful = before ++ .move "eth0" ns :: after ∧
      (inUse.attemptAll before).apply (.move "eth0" ns) = .ok k ∧
      (inUse.attemptAll eventful).interface? ns "eth0" = some j ∧
      { i with up := false }.AdvancesTo j := by
  obtain ⟨hnamespaces, hinterfaces, hroot⟩ := attemptAll_only_grows inUse eventful
  have hthere : "Z" ∈ inUse.namespaces := by decide
  have hlo : inUse.interface? "Z" "lo" =
      some { kind := .loopback, forwarding := true, rpFilter := false } := rfl
  have heth0 : inUse.root.find? "eth0" = some { kind := .veth "eth1", up := true } := rfl
  have hother : (inUse.attemptAll eventful).root.find? "eth0" ≠
      some { kind := .veth "eth1", up := true } := by decide
  obtain ⟨j, hj, hadvances, -⟩ := hinterfaces _ _ _ hlo
  obtain ⟨before, ns, after, k, j', hsplit, -, hmove, -, hj', hadvances'⟩ :=
    (hroot _ _ heth0).resolve_left hother
  exact ⟨hthere, hnamespaces _ hthere, ⟨_, j, hlo, hj, hadvances⟩,
    _, before, ns, after, k, j', heth0, hsplit, hmove, hj', hadvances'⟩

end Host

end Testbed
