import Testbed.Proofs.Arguments
import Testbed.Proofs.Attempts

/-!
# Names that no command can carry

An argument of a command ends at its first zero byte, so a command that has one inside
an argument does not start on any machine. A name may hold a zero byte all the same:
it is no white space and none of the other characters that `validate` looks for. On a
machine that does whatever it is asked, a valid topology is therefore built if and only
if no declared name holds a zero byte.

If one does, the run ends at the creation of the first such namespace, and that is
after those before it have been built. Nothing of this is due to addresses: what is
assigned consists of digits and separators.
-/

namespace Testbed

/-- The text can be an argument of a command. -/
def IsArgument (s : String) : Prop :=
  '\x00' ∉ s.toList

instance : DecidablePred IsArgument := fun s =>
  inferInstanceAs (Decidable ('\x00' ∉ s.toList))

variable {t : Topology} {op : Operation} {ops : List Operation} {field name : String}

/-! ## The texts of a plan -/

theorem Topology.WellFormed.isArgument_fields (hw : t.WellFormed)
    (hnames : ∀ name ∈ t.namespaces, IsArgument name) (hop : op ∈ t.plan)
    (hfield : field ∈ op.fields) : IsArgument field := by
  intro hzero
  rcases hw.mem_toList_field hop hfield hzero with ⟨name, hname, hc⟩ | hdigit | hown
  · exact hnames name hname hc
  · exact absurd hdigit (by decide)
  · exact absurd hown (by decide)

/-! ## Commands that can be handed over -/

theorem Command.head?_ofOperation (op : Operation) : (ofOperation op).head? = some "ip" := by
  cases op
  all_goals rfl

theorem Command.isArgument_of_mem {argument : String}
    (hfields : ∀ field ∈ op.fields, IsArgument field) (h : argument ∈ ofOperation op) :
    IsArgument argument := by
  have hown : ∀ word ∈ ownWords, IsArgument word := by decide +kernel
  rcases mem_fields_or_ownWords h with hfield | hword
  · exact hfields argument hfield
  · exact hown argument hword

namespace Machine

variable {m : Machine} {past : List Attempt} {command : Command}

theorem answer_of_isArgument (h : ∀ argument ∈ command, IsArgument argument) :
    m.answer past command = m past command := by
  refine if_neg fun hany => ?_
  obtain ⟨argument, hmem, hzero⟩ := List.any_eq_true.mp hany
  exact h argument hmem (of_decide_eq_true hzero)

theorem answer_of_not_isArgument {argument : String} (hmem : argument ∈ command)
    (h : ¬ IsArgument argument) : m.answer past command = .notStarted .nulInArgument := by
  refine if_pos (List.any_eq_true.mpr ⟨argument, hmem, decide_eq_true ?_⟩)
  exact Decidable.not_not.mp h

/-- The machine has the program and no namespaces, and does whatever it is asked. -/
structure Willing (m : Machine) : Prop where
  succeeds (past : List Attempt) (command : Command) (hip : command.head? = some "ip") :
    ∃ stdout stderr, m past command = .exited (some 0) stdout stderr
  bare {past : List Attempt} {status : Option Nat} {stdout stderr : List UInt8} :
    m past Command.listNamespaces = .exited status stdout stderr → stdout = []

namespace Willing

theorem succeeded_ask (h : m.Willing) (past : List Attempt)
    (hfields : ∀ field ∈ op.fields, IsArgument field) :
    (m.ask past (Command.ofOperation op)).Succeeded := by
  obtain ⟨stdout, stderr, houtcome⟩ := h.succeeds past _ (Command.head?_ofOperation op)
  refine ⟨stdout, stderr, ?_⟩
  rw [ask, answer_of_isArgument fun _ => Command.isArgument_of_mem hfields, houtcome]

theorem succeeded_of_mem_askAll (h : m.Willing) (past : List Attempt)
    (hops : ∀ op ∈ ops, ∀ field ∈ op.fields, IsArgument field) :
    ∀ a ∈ m.askAll past ops, a.Succeeded := by
  induction ops generalizing past with
  | nil => exact fun _ ha => absurd ha List.not_mem_nil
  | cons op ops ih =>
    rw [List.forall_mem_cons] at hops
    rw [askAll, List.forall_mem_cons]
    exact ⟨h.succeeded_ask past hops.1, ih _ hops.2⟩

theorem lists_ask_listNamespaces (h : m.Willing) (past : List Attempt) :
    (m.ask past Command.listNamespaces).outcome.Lists [] := by
  obtain ⟨stdout, stderr, houtcome⟩ := h.succeeds past Command.listNamespaces rfl
  obtain rfl : stdout = [] := h.bare houtcome
  have hnothing : Text.decodeLossy [] = "" := Text.decodeLossy_bytes ""
  refine ⟨[], stderr, ?_, ?_⟩
  · rw [ask, answer_of_isArgument (by decide), houtcome]
  · rw [hnothing]
    exact .nil

/-- Nothing is printed, so nothing is there to collide with. -/
theorem not_obstacle (h : m.Willing) (past : List Attempt) (t : Topology) :
    ¬ ∃ error, t.Obstacle (m.ask past Command.listNamespaces) error :=
  Topology.not_obstacle_of_lists (h.lists_ask_listNamespaces past) fun _ _ => List.not_mem_nil

theorem run_build_of_isArgument (h : m.Willing) (hw : t.WellFormed)
    (hnames : ∀ name ∈ t.namespaces, IsArgument name) :
    ((m.build t).run.run {}).1 = .ok t.plan.length := by
  have hall := h.succeeded_of_mem_askAll ([] ++ [m.ask [] Command.listNamespaces])
    fun _ hop _ hfield => hw.isArgument_fields hnames hop hfield
  rw [run_build_of_not_obstacle (h.not_obstacle [] t), run_takeAll_of_succeeded hall,
    Nat.zero_add]

/-- The namespaces before the one that cannot be created are there by then. -/
theorem run_build_of_not_isArgument (h : m.Willing) {before after : List String}
    (hsplit : t.namespaces = before ++ name :: after)
    (hbefore : ∀ earlier ∈ before, IsArgument earlier) (hname : ¬ IsArgument name) :
    ((m.build t).run.run {}).1 = .error (.cannotStart .nulInArgument) ∧
      ((m.build t).run.run {}).2.executed = 3 * before.length := by
  obtain ⟨done, rest, hplan, hlength, hfields⟩ := Topology.exists_plan_eq_append hsplit
  have hdone : ∀ op ∈ done, ∀ field ∈ op.fields, IsArgument field := by
    intro op hop field hfield
    rcases hfields op hop field hfield with hmem | rfl
    · exact hbefore field hmem
    · decide
  have hsucceeded := h.succeeded_of_mem_askAll ([] ++ [m.ask [] Command.listNamespaces]) hdone
  have hmem : name ∈ Command.ofOperation (.createNamespace name) :=
    Command.mem_ofOperation (List.mem_singleton.mpr rfl)
  have herror (past : List Attempt) :
      (m.ask past (Command.ofOperation (.createNamespace name))).FailsWith
        (.cannotStart .nulInArgument) :=
    .notStarted (answer_of_not_isArgument hmem hname)
  rw [run_build_of_not_obstacle (h.not_obstacle [] t), hplan,
    run_takeAll_of_failsWith hsucceeded (herror _), Nat.zero_add]
  exact ⟨rfl, hlength⟩

end Willing

end Machine

/-! ## The run -/

namespace Topology

/-- On a machine that does what it is asked, a valid topology is built unless a name holds a
zero byte. The first name that does ends the run and leaves what was built before. -/
theorem run_execute_of_willing (hv : t.validate = .ok ()) (s : Surroundings)
    (hm : s.machine.Willing) :
    ((∀ name ∈ t.namespaces, IsArgument name) →
      (t.run .execute s).result = .ok t.plan.length) ∧
    (∀ before name after, t.namespaces = before ++ name :: after →
      (∀ earlier ∈ before, IsArgument earlier) → ¬ IsArgument name →
      (t.run .execute s).result = .error (.execution (.cannotStart .nulInArgument)) ∧
      (t.run .execute s).session.executed = 3 * before.length) := by
  obtain ⟨hresult, hsession⟩ := run_execute_of_ok hv s
  rw [hresult, hsession]
  refine ⟨fun hnames => ?_, fun before name after hsplit hbefore hname => ?_⟩
  · rw [hm.run_build_of_isArgument (validate_eq_ok_iff.mp hv) hnames]
    rfl
  · obtain ⟨herror, hexecuted⟩ := hm.run_build_of_not_isArgument hsplit hbefore hname
    rw [herror]
    exact ⟨rfl, hexecuted⟩

end Topology

/-- Does everything, and prints nothing. -/
def Machine.obliging : Machine := fun _ _ => .exited (some 0) [] []

theorem Machine.willing_obliging : obliging.Willing where
  succeeds _ _ _ := ⟨[], [], rfl⟩
  bare h := by
    cases h
    rfl

namespace Topology

/-- A segment, and a device that has a zero byte in its name. -/
def zeroByteNamed : Topology where
  segments := ["L"]
  devices := ["x\x00y"]

theorem run_execute_of_willing_obliging :
    (twoRouterLan.validate = .ok () ∧ Machine.obliging.Willing ∧
      (∀ name ∈ twoRouterLan.namespaces, IsArgument name) ∧
      (twoRouterLan.run .execute ⟨Machine.obliging, none⟩).result =
        .ok twoRouterLan.plan.length) ∧
    (zeroByteNamed.validate = .ok () ∧ ¬ IsArgument "x\x00y" ∧
      (zeroByteNamed.run .execute ⟨Machine.obliging, none⟩).session.executed = 3) := by
  have hv : twoRouterLan.validate = .ok () := rfl
  have hnames : ∀ name ∈ twoRouterLan.namespaces, IsArgument name := by decide
  have hv' : zeroByteNamed.validate = .ok () := rfl
  have hsplit : zeroByteNamed.namespaces = ["L"] ++ "x\x00y" :: [] := rfl
  have hname : ¬ IsArgument "x\x00y" := by decide
  exact ⟨⟨hv, Machine.willing_obliging, hnames,
      (run_execute_of_willing hv ⟨Machine.obliging, none⟩ Machine.willing_obliging).1 hnames⟩,
    hv', hname,
    ((run_execute_of_willing hv' ⟨Machine.obliging, none⟩ Machine.willing_obliging).2
      ["L"] _ [] hsplit (by decide) hname).2⟩

theorem not_forall_run_execute_eq_ok :
    ¬ ∀ (t : Topology) (s : Surroundings), t.validate = .ok () → s.machine.Willing →
      (t.run .execute s).result = .ok t.plan.length := by
  intro h
  have hok := h zeroByteNamed ⟨Machine.obliging, none⟩ rfl Machine.willing_obliging
  have hsplit : zeroByteNamed.namespaces = ["L"] ++ "x\x00y" :: [] := rfl
  obtain ⟨herror, -⟩ :=
    Machine.willing_obliging.run_build_of_not_isArgument hsplit (by decide) (by decide)
  rw [(run_execute_of_ok rfl _).1, herror] at hok
  cases hok

end Topology

end Testbed
