import Testbed.Proofs.Provisioning

/-!
# Circuits can be built at the same time

The plan builds one circuit after the other. It need not: the operations of a circuit
have an order among themselves, but how the circuits are mixed makes no difference,
neither to whether an operation succeeds nor to the host in the end.

The proof moves the operations of a mixture back, one at a time. The first operation
of an interleaving heads one of its lists, and everything that stands before it in
the unmixed order belongs to other circuits; so it can be exchanged with all of that,
and comes first. What the exchange needs is that circuits of a valid topology are
apart, which is about names only.
-/

namespace Testbed

/-- The second list takes all the elements of the lists of the first, each time the
first that is left of one of them. -/
inductive Interleaving {α : Type} : List (List α) → List α → Prop
  | done {ls : List (List α)} : (∀ l ∈ ls, l = []) → Interleaving ls []
  | step (before after : List (List α)) (x : α) (l : List α) {xs : List α} :
      Interleaving (before ++ l :: after) xs →
      Interleaving (before ++ (x :: l) :: after) (x :: xs)

namespace Interleaving

variable {α : Type} {ls : List (List α)} {xs : List α}

theorem nil_cons (h : Interleaving ls xs) : Interleaving ([] :: ls) xs := by
  induction h with
  | done hls => exact .done (List.forall_mem_cons.mpr ⟨rfl, hls⟩)
  | step before after x l _ ih => exact .step ([] :: before) after x l ih

theorem append (h : Interleaving ls xs) (l : List α) : Interleaving (l :: ls) (l ++ xs) := by
  induction l with
  | nil => exact h.nil_cons
  | cons x l ih => exact .step [] ls x l ih

/-- Without mixing, one list comes after the other. -/
theorem flatten (ls : List (List α)) : Interleaving ls ls.flatten := by
  induction ls with
  | nil => exact .done fun _ hl => absurd hl List.not_mem_nil
  | cons l ls ih => exact ih.append l

end Interleaving

/-- No operation of one list notices any of the other. -/
def Operation.AllIndependent (ps qs : List Operation) : Prop :=
  ∀ p ∈ ps, ∀ q ∈ qs, p.Independent q

theorem Operation.pairwise_allIndependent_of_step {before after : List (List Operation)}
    {x : Operation} {l : List Operation}
    (hind : (before ++ (x :: l) :: after).Pairwise AllIndependent) :
    (before ++ l :: after).Pairwise AllIndependent := by
  rw [List.pairwise_append, List.pairwise_cons] at hind ⊢
  obtain ⟨hbefore, ⟨hhead, hafter⟩, hcross⟩ := hind
  refine ⟨hbefore, ⟨fun l' hl' p hp => hhead l' hl' p (List.mem_cons_of_mem _ hp), hafter⟩, ?_⟩
  intro l' hl' m hm
  rcases List.mem_cons.mp hm with rfl | hm
  · exact fun p hp q hq => hcross l' hl' _ List.mem_cons_self p hp q (List.mem_cons_of_mem _ hq)
  · exact hcross l' hl' m (List.mem_cons_of_mem _ hm)

namespace Host

variable {h h' : Host} {x : Operation}

/-- What is independent of everything before it can come first. -/
theorem applyAll_bring_front {ps qs : List Operation} (hind : ∀ p ∈ ps, p.Independent x)
    (hok : h.applyAll (ps ++ x :: qs) = .ok h') : h.applyAll (x :: (ps ++ qs)) = .ok h' := by
  induction ps generalizing h with
  | nil => exact hok
  | cons p ps ih =>
    rw [List.forall_mem_cons] at hind
    obtain ⟨k, hp, hok⟩ := applyAll_cons_eq_ok_iff.mp hok
    obtain ⟨g, hx, hok⟩ := applyAll_cons_eq_ok_iff.mp (ih hind.2 hok)
    obtain ⟨k', hx', hp'⟩ := apply_comm hind.1 hp hx
    exact applyAll_cons_eq_ok_iff.mpr ⟨k', hx', applyAll_cons_eq_ok_iff.mpr ⟨g, hp', hok⟩⟩

theorem applyAll_interleaving {ls : List (List Operation)} {xs : List Operation}
    (hind : ls.Pairwise Operation.AllIndependent) (hxs : Interleaving ls xs)
    (hok : h.applyAll ls.flatten = .ok h') : h.applyAll xs = .ok h' := by
  induction hxs generalizing h with
  | done hls => rwa [List.flatten_eq_nil_iff.mpr hls] at hok
  | step before after x l _ ih =>
    -- What the unmixed order has before `x` belongs to other lists.
    have hfirst : ∀ p ∈ before.flatten, p.Independent x := fun p hp => by
      obtain ⟨l', hl', hp⟩ := List.mem_flatten.mp hp
      exact (List.pairwise_append.mp hind).2.2 l' hl' (x :: l) List.mem_cons_self p hp x
        List.mem_cons_self
    rw [List.flatten_append, List.flatten_cons, List.cons_append] at hok
    obtain ⟨k, hx, hok⟩ := applyAll_cons_eq_ok_iff.mp (applyAll_bring_front hfirst hok)
    refine applyAll_cons_eq_ok_iff.mpr ⟨k, hx, ih ?_ ?_⟩
    · exact Operation.pairwise_allIndependent_of_step hind
    · rwa [List.flatten_append, List.flatten_cons]

end Host

namespace Topology

variable {t : Topology}

theorem WellFormed.pairwise_allIndependent (hw : t.WellFormed) :
    (t.circuits.map Plan.circuit).Pairwise Operation.AllIndependent :=
  List.pairwise_map.mpr (hw.pairwise_apart.imp fun hapart _ hp _ hq =>
    Plan.independent_of_apart hapart hp hq)

/-- Once all namespaces are there, the circuits can be built in any mixture. -/
theorem check_eq_of_interleaving (hv : t.validate = .ok ()) {L : List Operation}
    (hL : Interleaving (t.circuits.map Plan.circuit) L) :
    ∃ h₀ h, (∅ : Host).applyAll (t.planOf .segments ++ t.planOf .devices) = .ok h₀ ∧
      h₀.applyAll L = .ok h ∧ t.check = .ok h := by
  have hw : t.WellFormed := validate_eq_ok_iff.mp hv
  obtain ⟨h, hcheck, -⟩ := hw.exists_check_eq_ok
  obtain ⟨-, hplan⟩ := check_eq_ok_iff.mp hcheck
  rw [t.plan_eq, Host.applyAll_append_eq_ok_iff] at hplan
  obtain ⟨h₀, hnamespaces, hcircuits⟩ := hplan
  rw [List.flatMap_def] at hcircuits
  exact ⟨h₀, h, hnamespaces, Host.applyAll_interleaving hw.pairwise_allIndependent hL hcircuits,
    hcheck⟩

/-- Both pairs are made before either circuit goes on. -/
theorem check_eq_of_interleaving_twoRouterLan :
    twoRouterLan.validate = .ok () ∧
      ∃ L h₀ h, Interleaving (twoRouterLan.circuits.map Plan.circuit) L ∧
        L.take 3 = [.createVethPair "X-L" "L-X", .createVethPair "X-Y" "Y-X", .move "X-L" "X"] ∧
        (∅ : Host).applyAll (twoRouterLan.planOf .segments ++ twoRouterLan.planOf .devices) =
          .ok h₀ ∧
        h₀.applyAll L = .ok h ∧ twoRouterLan.check = .ok h := by
  have hv : twoRouterLan.validate = .ok () := rfl
  have hmix (p q : Operation) (ps qs : List Operation) :
      Interleaving [p :: ps, q :: qs] (p :: q :: [ps, qs].flatten) :=
    .step [] [q :: qs] p ps (.step [ps] [] q qs (.flatten [ps, qs]))
  have hL : Interleaving (twoRouterLan.circuits.map Plan.circuit) _ := hmix _ _ _ _
  obtain ⟨h₀, h, hnamespaces, hmixed, hcheck⟩ := check_eq_of_interleaving hv hL
  exact ⟨hv, _, h₀, h, hL, rfl, hnamespaces, hmixed, hcheck⟩

end Topology

end Testbed
