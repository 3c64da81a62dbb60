import Testbed.Proofs.Histories

/-!
# What can be relied on in every host

A host is a table of tables, and most such tables are hosts that no history leads to.
`Coherent` says what sets the others apart. Its conditions support each other: that a
namespace has its loopback is why nothing else can come to be called so, neither a
bridge nor a veth that is moved in; that interfaces in the root are as they were made
is why an interface that arrives in a namespace has no master to be looked for there.

An operation puts one interface into a namespace, changes all interfaces of one, or
changes the root. The proofs are about these three and about a namespace that is new,
with conditions on what is put there. For a single interface the condition is that
whatever had the name before was of the same kind, since kinds are what the others
depend on: a bridge stays a bridge for those attached to it.
-/

namespace Testbed

/-- What can be said of an interface alone, given its name. -/
structure Interface.Proper (i : Interface) (name : String) : Prop where
  loopback : i.kind = .loopback → name = loopbackName
  /-- A veth is not its own peer. -/
  peer : i.kind ≠ .veth name
  addresses : i.addresses.Nodup

namespace Host

/-- The kind of the interface of this name. -/
def kind? (h : Host) (ns name : String) : Option InterfaceKind :=
  (h.interface? ns name).map (·.kind)

structure Coherent (h : Host) : Prop where
  loopback : ∀ ns ∈ h.namespaces, h.kind? ns loopbackName = some .loopback
  proper : ∀ ns name i, h.interface? ns name = some i → i.Proper name
  /-- Whatever an interface is attached to is a bridge beside it. -/
  master : ∀ ns name i bridge, h.interface? ns name = some i → i.master = some bridge →
    h.kind? ns bridge = some .bridge
  /-- In the root there are veths only, and nothing has been done to them. -/
  root : ∀ name i, h.root.find? name = some i → ∃ peer, peer ≠ name ∧
    i = { kind := .veth peer, up := false, master := none, addresses := [],
          forwarding := false, rpFilter := true }

namespace Coherent

variable {h h' : Host} {ns name : String} {i j : Interface} {op : Operation}

theorem empty : (∅ : Host).Coherent where
  loopback ns hns := absurd hns (NameMap.not_mem_empty ns)
  proper _ _ _ hi := nomatch hi
  master _ _ _ _ hi := nomatch hi
  root _ _ hi := nomatch hi

/-! ## Changes to a namespace -/

/-- A new namespace holds the loopback. -/
theorem createNamespace (hc : h.Coherent) : (h.setInterfaces name loopbackOnly).Coherent where
  loopback ns hns := by
    rw [kind?, interface?_setInterfaces]
    split
    · rfl
    · next hne =>
      exact hc.loopback ns ((mem_namespaces_setInterfaces.mp hns).resolve_left hne)
  proper ns other i hi := by
    rw [interface?_setInterfaces] at hi
    split at hi
    · rw [find?_loopbackOnly] at hi
      split at hi
      · next hother =>
        cases hi
        exact ⟨fun _ => hother, nofun, .nil⟩
      · cases hi
    · exact hc.proper ns other i hi
  master ns other i bridge hi hmaster := by
    rw [interface?_setInterfaces] at hi
    split at hi
    · rw [find?_loopbackOnly] at hi
      split at hi
      · cases hi
        cases hmaster
      · cases hi
    · next hne =>
      rw [kind?, interface?_setInterfaces, if_neg hne]
      exact hc.master ns other i bridge hi hmaster
  root := hc.root

theorem kind?_setInterface (hkind : ∀ i, h.interface? ns name = some i → i.kind = j.kind)
    {there other : String} {kind : InterfaceKind} (hwas : h.kind? there other = some kind) :
    (h.setInterface ns name j).kind? there other = some kind := by
  rw [kind?, interface?_setInterface]
  split
  · next heq =>
    obtain ⟨i, hi, rfl⟩ := Option.map_eq_some_iff.mp hwas
    rw [heq.1, heq.2] at hi
    rw [hkind i hi]
    rfl
  · exact hwas

theorem setInterface (hc : h.Coherent) (hns : ns ∈ h.namespaces)
    (hkind : ∀ i, h.interface? ns name = some i → i.kind = j.kind) (hproper : j.Proper name)
    (hmaster : ∀ bridge, j.master = some bridge → h.kind? ns bridge = some .bridge) :
    (h.setInterface ns name j).Coherent where
  loopback there hthere := by
    refine kind?_setInterface hkind (hc.loopback there ?_)
    exact (mem_namespaces_setInterface.mp hthere).elim (fun heq => heq ▸ hns) id
  proper there other i hi := by
    rw [interface?_setInterface] at hi
    split at hi
    · next heq =>
      cases hi
      exact heq.2 ▸ hproper
    · exact hc.proper there other i hi
  master there other i bridge hi hm := by
    refine kind?_setInterface hkind ?_
    rw [interface?_setInterface] at hi
    split at hi
    · next heq =>
      cases hi
      exact heq.1 ▸ hmaster bridge hm
    · exact hc.master there other i bridge hi hm
  root := hc.root

/-- An interface is replaced by one of its kind. -/
theorem setInterface_of_interface? (hc : h.Coherent) (hi : h.interface? ns name = some i)
    (hkind : j.kind = i.kind) (haddresses : j.addresses.Nodup)
    (hmaster : ∀ bridge, j.master = some bridge → h.kind? ns bridge = some .bridge) :
    (h.setInterface ns name j).Coherent := by
  have hi' : i.Proper name := hc.proper ns name i hi
  refine hc.setInterface (mem_namespaces_of_interface? hi) (fun i' hi' => ?_) ?_ hmaster
  · rw [hi, Option.some.injEq] at hi'
    rw [← hi', hkind]
  · exact ⟨fun hl => hi'.loopback (hkind ▸ hl), hkind ▸ hi'.peer, haddresses⟩

/-- A name that was free is given to an interface that is no loopback. -/
theorem setInterface_of_free (hc : h.Coherent) (hns : ns ∈ h.namespaces)
    (hfree : h.interface? ns name = none) (hloopback : j.kind ≠ .loopback)
    (hpeer : j.kind ≠ .veth name) (haddresses : j.addresses = []) (hmaster : j.master = none) :
    (h.setInterface ns name j).Coherent := by
  refine hc.setInterface hns (fun i hi => ?_) ⟨fun hl => absurd hl hloopback, hpeer, ?_⟩ ?_
  · rw [hfree] at hi
    cases hi
  · rw [haddresses]
    exact .nil
  · intro bridge hm
    rw [hmaster] at hm
    cases hm

theorem kind?_withAllChanged {f : Interface → Interface} (hf : ∀ i, (f i).kind = i.kind)
    (there other : String) : (h.withAllChanged ns f).kind? there other = h.kind? there other := by
  rw [kind?, interface?_withAllChanged]
  split
  · next heq =>
    have hkind : (fun i => i.kind) ∘ f = fun i => i.kind := funext hf
    rw [Option.map_map, hkind, heq]
    rfl
  · rfl

/-- All interfaces of a namespace are changed in what nothing depends on. -/
theorem withAllChanged (hc : h.Coherent) (hns : ns ∈ h.namespaces) {f : Interface → Interface}
    (hf : ∀ i, (f i).kind = i.kind ∧ (f i).master = i.master ∧ (f i).addresses = i.addresses) :
    (h.withAllChanged ns f).Coherent := by
  -- Every interface goes back to one that was there under the same name.
  have hback {there other : String} {i : Interface}
      (hi : (h.withAllChanged ns f).interface? there other = some i) :
      ∃ j, h.interface? there other = some j ∧ i.kind = j.kind ∧ i.master = j.master ∧
        i.addresses = j.addresses := by
    rw [interface?_withAllChanged] at hi
    split at hi
    · next heq =>
      obtain ⟨j, hj, rfl⟩ := Option.map_eq_some_iff.mp hi
      exact ⟨j, heq ▸ hj, hf j⟩
    · exact ⟨i, hi, rfl, rfl, rfl⟩
  have hkind (there other : String) :
      (h.withAllChanged ns f).kind? there other = h.kind? there other :=
    kind?_withAllChanged (fun i => (hf i).1) there other
  refine ⟨fun there hthere => ?_, fun there other i hi => ?_,
    fun there other i bridge hi hm => ?_, hc.root⟩
  · rw [hkind]
    exact hc.loopback there
      ((mem_namespaces_setInterfaces.mp hthere).elim (fun heq => heq ▸ hns) id)
  · obtain ⟨j, hj, hkindj, -, haddresses⟩ := hback hi
    have hproper := hc.proper there other j hj
    exact ⟨hkindj ▸ hproper.loopback, hkindj ▸ hproper.peer, haddresses ▸ hproper.addresses⟩
  · obtain ⟨j, hj, -, hmaster, -⟩ := hback hi
    rw [hkind]
    exact hc.master there other j bridge hj (hmaster ▸ hm)

/-! ## Changes to the root -/

theorem withVethPair (hc : h.Coherent) {left right : String} (hne : left ≠ right) :
    (h.withVethPair left right).Coherent := by
  refine ⟨hc.loopback, hc.proper, hc.master, fun name i hi => ?_⟩
  rw [find?_root_withVethPair] at hi
  split at hi
  · next hright =>
    cases hi
    exact ⟨left, hright ▸ hne, rfl⟩
  · split at hi
    · next hleft =>
      cases hi
      exact ⟨right, hleft ▸ hne.symm, rfl⟩
    · exact hc.root name i hi

theorem withMoved (hc : h.Coherent) (hi : h.root.find? name = some i) (hns : ns ∈ h.namespaces)
    (hfree : h.interface? ns name = none) :
    (h.withMoved name ns { i with up := false }).Coherent := by
  obtain ⟨peer, hpeer, rfl⟩ := hc.root name i hi
  have hset : (h.setInterface ns name { kind := .veth peer }).Coherent :=
    hc.setInterface_of_free hns hfree nofun (fun heq => hpeer (InterfaceKind.veth.inj heq)) rfl rfl
  refine ⟨hset.loopback, hset.proper, hset.master, fun other j hj => ?_⟩
  rw [find?_root_withMoved] at hj
  split at hj
  · cases hj
  · exact hc.root other j hj

/-! ## Histories -/

theorem apply (hok : h.apply op = .ok h') (hc : h.Coherent) : h'.Coherent := by
  cases op with
  | createNamespace name =>
    obtain ⟨-, rfl⟩ := createNamespace_eq_ok_iff.mp hok
    exact hc.createNamespace
  | createBridge ns bridge =>
    obtain ⟨hns, hfree, rfl⟩ := createBridge_eq_ok_iff.mp hok
    exact hc.setInterface_of_free hns hfree nofun nofun rfl rfl
  | setUp ns interface =>
    obtain ⟨i, hi, rfl⟩ := setUp_eq_ok_iff.mp hok
    exact hc.setInterface_of_interface? hi rfl (hc.proper _ _ _ hi).addresses
      fun bridge hm => hc.master _ _ _ bridge hi hm
  | enableForwarding ns =>
    obtain ⟨hns, rfl⟩ := enableForwarding_eq_ok_iff.mp hok
    exact hc.withAllChanged hns fun i => ⟨rfl, rfl, rfl⟩
  | disableReversePathFilter ns =>
    obtain ⟨hns, rfl⟩ := disableReversePathFilter_eq_ok_iff.mp hok
    exact hc.withAllChanged hns fun i => ⟨rfl, rfl, rfl⟩
  | createVethPair left right =>
    obtain ⟨-, -, hne, rfl⟩ := createVethPair_eq_ok_iff.mp hok
    exact hc.withVethPair hne
  | move interface ns =>
    obtain ⟨i, hi, hns, hfree, rfl⟩ := move_eq_ok_iff.mp hok
    exact hc.withMoved hi hns hfree
  | attach ns interface bridge =>
    obtain ⟨hbridge, i, hi, rfl⟩ := attach_eq_ok_iff.mp hok
    refine hc.setInterface_of_interface? hi rfl (hc.proper _ _ _ hi).addresses ?_
    rintro _ ⟨⟩
    exact hbridge
  | assign ns interface address =>
    obtain ⟨i, hi, hnew, rfl⟩ := assign_eq_ok_iff.mp hok
    refine hc.setInterface_of_interface? hi rfl ?_ fun bridge hm => hc.master _ _ _ bridge hi hm
    exact List.nodup_append.mpr ⟨(hc.proper _ _ _ hi).addresses, List.nodup_singleton _,
      fun x hx y hy heq => hnew (List.mem_singleton.mp hy ▸ heq ▸ hx)⟩

end Coherent

/-- Whatever was asked of a host that was empty in the beginning. -/
theorem coherent_attemptAll_empty (ops : List Operation) :
    ((∅ : Host).attemptAll ops).Coherent :=
  attemptAll_induction Coherent.apply Coherent.empty ops

end Host

end Testbed
