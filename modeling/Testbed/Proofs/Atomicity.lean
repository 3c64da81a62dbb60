import Testbed.Host.InPlace
import Testbed.Proofs.Histories

/-!
# Operations that fail leave nothing behind

An operation that is carried out in place writes to the host step by step, and a fault
does not undo what was written. So that a refused operation leaves no trace is a fact
about the order of the steps: every look-up that can fail comes before the first write.
One does not. A move looks the namespace up again when the interface is out of the root
already, and there it cannot fail, because the same look-up has succeeded before and
the root is all that was written since. With that, carrying out in place is the same as
putting the result of `Host.apply` into the place of the host (`inPlace_eq_host`).

Of any sink that keeps to this, `Atomic`, two things follow. The operations that failed can
be left out of a history: without them the others succeed again and lead to the same
state. And where a plan fails, what is left is what the operations before the failure
have made.
-/

namespace Testbed

namespace Host

open Steps

variable {h : Host}

/-! ## Step by step -/

/-- What an operation comes to if it is carried out either in full or not at all. -/
def settle (h : Host) : Except Fault Host → Except Fault Unit × Host
  | .ok next => (.ok (), next)
  | .error fault => (.error fault, h)

theorem run_get_bind {α : Type} (f : Host → Steps α) :
    (do f (← get) : Steps α).run.run h = (f h).run.run h := rfl

theorem run_findInterfaces (ns : String) :
    (findInterfaces ns).run.run h = (h.interfacesOf ns, h) := by
  rw [findInterfaces, run_get_bind, interfacesOf]
  cases h.namespaces.find? ns with
  | none => rfl
  | some interfaces => rfl

theorem run_findInterface (ns interface : String) :
    (findInterface ns interface).run.run h = (h.interfaceOf ns interface, h) := by
  rw [findInterface, run_bind, run_findInterfaces, interfaceOf]
  cases h.interfacesOf ns with
  | error fault => rfl
  | ok interfaces =>
    dsimp only [bind, Except.bind]
    cases interfaces.find? interface with
    | none => rfl
    | some i => rfl

theorem run_findInterfaces_bind (ns : String) (f : NameMap Interface → Steps Unit)
    (g : NameMap Interface → Except Fault Host)
    (hfg : ∀ interfaces, h.namespaces.find? ns = some interfaces →
      (f interfaces).run.run h = h.settle (g interfaces)) :
    (findInterfaces ns >>= f).run.run h = h.settle (h.interfacesOf ns >>= g) := by
  rw [run_bind, run_findInterfaces]
  cases hn : h.interfacesOf ns with
  | error fault => rfl
  | ok interfaces => exact hfg interfaces (interfacesOf_eq_ok_iff.mp hn)

theorem run_findInterface_bind (ns interface : String) (f : Interface → Steps Unit)
    (g : Interface → Except Fault Host)
    (hfg : ∀ i, (f i).run.run h = h.settle (g i)) :
    (findInterface ns interface >>= f).run.run h = h.settle (h.interfaceOf ns interface >>= g) := by
  rw [run_bind, run_findInterface]
  cases h.interfaceOf ns interface with
  | error fault => rfl
  | ok i => exact hfg i

theorem settle_ite {p : Prop} [Decidable p] {fault : Fault} {s : Steps Unit}
    {r : Except Fault Host} (hsr : ¬ p → s.run.run h = h.settle r) :
    (do if p then throw fault
        s : Steps Unit).run.run h = h.settle (if p then .error fault else r) := by
  split
  · rfl
  · next hp => exact hsr hp

theorem run_requireFree_bind (interface : String) {s : Steps Unit} {r : Except Fault Host}
    (hsr : s.run.run h = h.settle r) :
    (requireFree interface >>= fun _ => s).run.run h =
      h.settle (if interface ∈ h.root then .error (.interfaceExists rootName interface)
        else r) := by
  rw [run_bind, requireFree, run_get_bind]
  by_cases hmem : interface ∈ h.root
  · rw [if_pos hmem, if_pos hmem]
    rfl
  · rw [if_neg hmem, if_neg hmem]
    exact hsr

theorem run_carryOut_createNamespace (name : String) :
    (carryOut (.createNamespace name)).run.run h = h.settle (h.createNamespace name) := by
  rw [carryOut, run_get_bind, createNamespace]
  exact settle_ite fun _ => rfl

theorem run_carryOut_createBridge (ns bridge : String) :
    (carryOut (.createBridge ns bridge)).run.run h = h.settle (h.createBridge ns bridge) := by
  rw [carryOut, createBridge]
  refine run_findInterfaces_bind ns _ _ fun interfaces hn => ?_
  rcases hi : interfaces.find? bridge with _ | ⟨kind, up, master, addresses, forwarding, rpFilter⟩
  · rw [setInterface, hn]
    rfl
  · cases kind with
    | loopback => rfl
    | bridge => rfl
    | veth peer => rfl

theorem run_carryOut_setUp (ns interface : String) :
    (carryOut (.setUp ns interface)).run.run h = h.settle (h.setUp ns interface) := by
  rw [carryOut, setUp]
  exact run_findInterface_bind ns interface _ _ fun _ => rfl

theorem run_carryOut_enableForwarding (ns : String) :
    (carryOut (.enableForwarding ns)).run.run h = h.settle (h.enableForwarding ns) := by
  rw [carryOut, enableForwarding]
  exact run_findInterfaces_bind ns _ _ fun _ _ => rfl

theorem run_carryOut_disableReversePathFilter (ns : String) :
    (carryOut (.disableReversePathFilter ns)).run.run h =
      h.settle (h.disableReversePathFilter ns) := by
  rw [carryOut, disableReversePathFilter]
  exact run_findInterfaces_bind ns _ _ fun _ _ => rfl

theorem run_carryOut_createVethPair (left right : String) :
    (carryOut (.createVethPair left right)).run.run h = h.settle (h.createVethPair left right) := by
  rw [carryOut, createVethPair]
  exact run_requireFree_bind left (run_requireFree_bind right (settle_ite fun _ => rfl))

/-- The second look-up of the namespace succeeds, since it comes behind the first one and
only the root was written in between. -/
theorem run_transfer {interface ns : String} {i : Interface} {interfaces : NameMap Interface}
    (hi : h.root.find? interface = some i) (hn : h.namespaces.find? ns = some interfaces) :
    (transfer interface ns).run.run h =
      (.ok (), { h.setInterface ns interface { i with up := false } with
        root := h.root.erase interface }) := by
  have hagain : { h with root := h.root.erase interface }.interfacesOf ns = .ok interfaces :=
    interfacesOf_eq_ok_iff.mpr hn
  rw [transfer, run_get_bind, hi, setInterface, hn]
  show (findInterfaces ns >>= fun interfaces =>
    writeInterfaces ns (interfaces.insert interface { i with up := false })).run.run
      { h with root := h.root.erase interface } = _
  rw [run_bind, run_findInterfaces, hagain]
  rfl

theorem run_carryOut_move (interface ns : String) :
    (carryOut (.move interface ns)).run.run h = h.settle (h.move interface ns) := by
  rw [carryOut, run_get_bind, move]
  cases hi : h.root.find? interface with
  | none =>
    rw [if_pos (NameMap.find?_eq_none_iff.mp hi)]
    rfl
  | some i =>
    rw [if_neg (not_not.mpr (NameMap.mem_iff.mpr ⟨i, hi⟩))]
    refine run_findInterfaces_bind ns _ _ fun interfaces hn => settle_ite fun _ => ?_
    exact run_transfer hi hn

theorem run_carryOut_attach (ns interface bridge : String) :
    (carryOut (.attach ns interface bridge)).run.run h =
      h.settle (h.attach ns interface bridge) := by
  rw [carryOut, attach]
  refine run_findInterfaces_bind ns _ _ fun interfaces _ => ?_
  by_cases hbridge : (interfaces.find? bridge).map (·.kind) = some .bridge
  · rw [if_neg (not_not.mpr hbridge), if_pos hbridge]
    exact run_findInterface_bind ns interface _ _ fun _ => rfl
  · rw [if_pos hbridge, if_neg hbridge]
    rfl

theorem run_carryOut_assign (ns interface address : String) :
    (carryOut (.assign ns interface address)).run.run h =
      h.settle (h.assign ns interface address) := by
  rw [carryOut, assign]
  exact run_findInterface_bind ns interface _ _ fun i => settle_ite fun _ => rfl

theorem settle_apply (op : Operation) : h.settle (h.apply op) = (Sink.host.apply op).run.run h := by
  rw [run_host_apply]
  cases h.apply op with
  | error fault => rfl
  | ok next => rfl

/-- Carried out in place, an operation either has its full effect or none. -/
theorem run_carryOut (op : Operation) : (carryOut op).run.run h = h.settle (h.apply op) := by
  cases op with
  | createNamespace name => exact run_carryOut_createNamespace name
  | createBridge ns bridge => exact run_carryOut_createBridge ns bridge
  | setUp ns interface => exact run_carryOut_setUp ns interface
  | enableForwarding ns => exact run_carryOut_enableForwarding ns
  | disableReversePathFilter ns => exact run_carryOut_disableReversePathFilter ns
  | createVethPair left right => exact run_carryOut_createVethPair left right
  | move interface ns => exact run_carryOut_move interface ns
  | attach ns interface bridge => exact run_carryOut_attach ns interface bridge
  | assign ns interface address => exact run_carryOut_assign ns interface address

end Host

namespace Sink

theorem inPlace_eq_host : inPlace = host := by
  have happly : Host.carryOut = host.apply := by
    funext op
    funext h
    have hrun := (Host.run_carryOut (h := h) op).trans (Host.settle_apply op)
    exact hrun
  rw [inPlace, happly]
  rfl

/-! ## Atomic sinks -/

variable {ε σ : Type} {sink : Sink ε σ}

/-- An operation that fails leaves the state as it was. -/
def Atomic (sink : Sink ε σ) : Prop :=
  ∀ op s e s', (sink.apply op).run.run s = (.error e, s') → s' = s

/-- Offers all the operations, also those that come after one that failed. What comes back
are the operations that were taken and the state in the end. -/
def offerAll (sink : Sink ε σ) (s : σ) : List Operation → List Operation × σ
  | [] => ([], s)
  | op :: ops =>
    match (sink.apply op).run.run s with
    | (.ok (), next) => (op :: (sink.offerAll next ops).1, (sink.offerAll next ops).2)
    | (.error _, next) => sink.offerAll next ops

/-- What was taken is taken again when nothing else is offered, and it leads to the same
state. -/
theorem Atomic.run_takeAll_offerAll (hsink : sink.Atomic) (n : Nat) (s : σ)
    (ops : List Operation) :
    (sink.takeAll n (sink.offerAll s ops).1).run.run s =
      (.ok (n + (sink.offerAll s ops).1.length), (sink.offerAll s ops).2) := by
  induction ops generalizing n s with
  | nil => rfl
  | cons op ops ih =>
    rcases hop : (sink.apply op).run.run s with ⟨e | ⟨⟩, next⟩
    · obtain rfl : next = s := hsink op s e next hop
      simp only [offerAll, hop]
      exact ih n next
    · simp only [offerAll, hop]
      rw [run_takeAll_cons, hop, List.length_cons, ← Nat.add_assoc, Nat.add_right_comm]
      exact ih (n + 1) next

/-- A run that fails has taken some operations and fails at the next one. -/
theorem exists_of_run_takeAll_eq_error {n : Nat} {ops : List Operation} {s s' : σ} {e : ε}
    (h : (sink.takeAll n ops).run.run s = (.error e, s')) :
    ∃ done op rest k, ops = done ++ op :: rest ∧
      (sink.takeAll n done).run.run s = (.ok (n + done.length), k) ∧
      (sink.apply op).run.run k = (.error e, s') := by
  induction ops generalizing n s with
  | nil => cases h
  | cons op ops ih =>
    rw [run_takeAll_cons] at h
    rcases hop : (sink.apply op).run.run s with ⟨e' | ⟨⟩, next⟩
    · rw [hop] at h
      cases h
      exact ⟨[], op, ops, s, rfl, rfl, hop⟩
    · rw [hop] at h
      obtain ⟨done, op', rest, k, rfl, hdone, hop'⟩ := ih h
      refine ⟨op :: done, op', rest, k, rfl, ?_, hop'⟩
      rw [run_takeAll_cons, hop, List.length_cons, ← Nat.add_assoc, Nat.add_right_comm]
      exact hdone

theorem atomic_host : host.Atomic := by
  intro op h fault h' hrun
  rw [Host.run_host_apply] at hrun
  cases hop : h.apply op with
  | error fault' =>
    rw [hop] at hrun
    cases hrun
    rfl
  | ok next =>
    rw [hop] at hrun
    cases hrun

theorem offerAll_host_snd (h : Host) (ops : List Operation) :
    (host.offerAll h ops).2 = h.attemptAll ops := by
  induction ops generalizing h with
  | nil => rfl
  | cons op ops ih =>
    rw [Host.attemptAll, List.foldl_cons, Host.attempt, offerAll]
    rcases (host.apply op).run.run h with ⟨fault | ⟨⟩, next⟩
    · exact ih next
    · exact ih next

/-- On a host that is changed in place, what fails leaves no trace: not an operation, not
a part of a history, and not the last step of a plan. -/
theorem inPlace_failure_leaves_no_trace :
    (∀ (h h' : Host) (op : Operation) (fault : Fault),
      (inPlace.apply op).run.run h = (.error fault, h') → h' = h) ∧
    (∀ (h : Host) (ops : List Operation),
      (inPlace.offerAll h ops).2 = h.attemptAll ops ∧
      (inPlace.takeAll 0 (inPlace.offerAll h ops).1).run.run h =
        (.ok (inPlace.offerAll h ops).1.length, h.attemptAll ops)) ∧
    (∀ (t : Topology) (h h' : Host) (fault : Fault),
      (provision t inPlace).run.run h = (.error fault, h') →
        ∃ done op rest, t.plan = done ++ op :: rest ∧
          (inPlace.takeAll 0 done).run.run h = (.ok done.length, h') ∧
          (inPlace.apply op).run.run h' = (.error fault, h')) ∧
    inPlace = host := by
  rw [inPlace_eq_host]
  refine ⟨fun h h' op fault => atomic_host op h fault h', fun h ops => ?_,
    fun t h h' fault hrun => ?_, rfl⟩
  · rw [← offerAll_host_snd]
    refine ⟨rfl, ?_⟩
    rw [atomic_host.run_takeAll_offerAll, Nat.zero_add]
  · rw [provision_eq_takeAll] at hrun
    obtain ⟨done, op, rest, k, hplan, hdone, hop⟩ := exists_of_run_takeAll_eq_error hrun
    obtain rfl : h' = k := atomic_host op k fault h' hop
    rw [Nat.zero_add] at hdone
    exact ⟨done, op, rest, hplan, hdone, hop⟩

/-- An interface that cannot be moved, a history with that in the middle, and a plan that
fails at its fourth operation. -/
theorem inPlace_failure_leaves_no_trace_inUse :
    (∃ h', (inPlace.apply (.move "eth0" "Y")).run.run Host.inUse =
      (.error (.unknownNamespace "Y"), h') ∧ h' = Host.inUse) ∧
    (inPlace.takeAll 0 (inPlace.offerAll Host.inUse
        [.createNamespace "X", .move "eth0" "Y", .move "eth0" "X"]).1).run.run Host.inUse =
      (.ok 2, Host.inUse.attemptAll [.createNamespace "X", .move "eth0" "Y", .move "eth0" "X"]) ∧
    ∃ h' done op rest, Topology.twoRouterLan.plan = done ++ op :: rest ∧
      (provision Topology.twoRouterLan inPlace).run.run
        (Host.inUse.attempt (.createNamespace "X")) = (.error (.namespaceExists "X"), h') ∧
      (inPlace.takeAll 0 done).run.run (Host.inUse.attempt (.createNamespace "X")) =
        (.ok done.length, h') := by
  obtain ⟨hop, hhistory, hplan, -⟩ := inPlace_failure_leaves_no_trace
  have hmove : ∃ h', (inPlace.apply (.move "eth0" "Y")).run.run Host.inUse =
      (.error (.unknownNamespace "Y"), h') := ⟨_, rfl⟩
  have hfails : ∃ h', (provision Topology.twoRouterLan inPlace).run.run
      (Host.inUse.attempt (.createNamespace "X")) = (.error (.namespaceExists "X"), h') := ⟨_, rfl⟩
  obtain ⟨h₁, hmove⟩ := hmove
  obtain ⟨h₂, hfails⟩ := hfails
  obtain ⟨done, op, rest, hsplit, hdone, -⟩ := hplan _ _ _ _ hfails
  exact ⟨⟨h₁, hmove, hop _ _ _ _ hmove⟩, (hhistory _ _).2, h₂, done, op, rest, hsplit, hfails,
    hdone⟩

end Sink

end Testbed
