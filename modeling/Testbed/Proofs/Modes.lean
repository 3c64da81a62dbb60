import Testbed.Proofs.Arguments
import Testbed.Proofs.Buildable
import Testbed.Proofs.Scripts
import Testbed.Proofs.ZeroBytes

/-!
# The three modes of a run

A run prints the plan, tries it out or carries it out, and the three are to come to the
same result. They share the validation, which ends all of them alike, and the plan; what
they do with it has nothing in common. A writer fails for want of room, a simulated host
refuses what does not fit into it, and a machine answers as it likes.

So each of them has its own reason not to fail. For the writer it is that the script fits,
and the script is all that counts, as writing it command by command is writing it at once
(`Writer.run_takeAll_sink`). The simulated host has no choice: it is empty, and validation is
what makes it take the plan. For the machine it is that every command succeeds, and this is
asked of the commands of the run only, since a machine may change its mind with every
question.

That the lines that are printed are the commands that would be run needs validation a
second time. A name with a line feed in it would take up two lines.
-/

namespace Testbed

variable {t : Topology} {m : Machine} {names : List String} {s : Surroundings}

/-! ## Every command succeeds -/

theorem Attempt.Succeeded.started {a : Attempt} (h : a.Succeeded) : a.started = true := by
  obtain ⟨stdout, stderr, houtcome⟩ := h
  simp only [Attempt.started, houtcome]

theorem Session.ran_eq_of_succeeded {session : Session}
    (h : ∀ a ∈ session.attempts, a.Succeeded) :
    session.ran = session.attempts.map (·.command) := by
  rw [ran, List.filter_eq_self.mpr fun a ha => (h a ha).started]

/-- If nothing that is asked in a run fails, the run asks for the whole plan. -/
theorem Machine.run_build_of_succeeded
    (hlists : (m.ask [] Command.listNamespaces).outcome.Lists names)
    (hfree : ∀ name ∈ t.namespaces, name ∉ names)
    (hall : ∀ a ∈ ((m.build t).run.run {}).2.attempts, a.Succeeded) :
    ((m.build t).run.run {}).1 = .ok t.plan.length ∧
      ((m.build t).run.run {}).2.attempts.map (·.command) =
        Command.listNamespaces :: t.plan.map Command.ofOperation := by
  rw [run_build_of_not_obstacle (Topology.not_obstacle_of_lists hlists hfree)] at hall ⊢
  rcases m.askAll_succeeded_or_failsWith ([] ++ [m.ask [] Command.listNamespaces]) t.plan with
    hsucceeded | ⟨done, op, rest, error, hplan, hdone, herror⟩
  · rw [run_takeAll_of_succeeded hsucceeded, Nat.zero_add]
    refine ⟨rfl, ?_⟩
    rw [List.map_append, map_command_askAll]
    rfl
  · -- The attempt at which a run stops is the last one of its session.
    rw [hplan, run_takeAll_of_failsWith hdone herror] at hall
    have hlast := hall _ (List.mem_append_right _ (List.mem_singleton.mpr rfl))
    exact absurd hlast herror.not_succeeded

/-- A machine that does what it is asked fails nothing, if it can be asked. -/
theorem Machine.Willing.succeeded_of_mem_attempts (h : m.Willing) (hw : t.WellFormed)
    (hnames : ∀ name ∈ t.namespaces, IsArgument name) :
    ∀ a ∈ ((m.build t).run.run {}).2.attempts, a.Succeeded := by
  have hall := h.succeeded_of_mem_askAll ([] ++ [m.ask [] Command.listNamespaces])
    fun _ hop _ hfield => hw.isArgument_fields hnames hop hfield
  rw [run_build_of_not_obstacle (h.not_obstacle [] t), run_takeAll_of_succeeded hall]
  intro a ha
  rcases List.mem_append.mp ha with ha | ha
  · obtain rfl : a = m.ask [] Command.listNamespaces := List.mem_singleton.mp ha
    obtain ⟨stdout, stderr, houtcome, -⟩ := h.lists_ask_listNamespaces []
    exact ⟨stdout, stderr, houtcome⟩
  · exact hall a ha

/-! ## The three modes -/

namespace Topology

theorem run_of_error {violation : Violation} (hv : t.validate = .error violation) (mode : Mode)
    (s : Surroundings) : t.run mode s = { result := .error (.invalid violation) } := by
  simp only [run, hv]

theorem run_dryRun_of_ok (hv : t.validate = .ok ()) (s : Surroundings) :
    (t.run .dryRun s).result = (t.dryRun s.outputRoom).result ∧
      (t.run .dryRun s).printed = (t.dryRun s.outputRoom).printed ∧
      (t.run .dryRun s).session = {} := by
  rw [run, hv]
  exact ⟨rfl, rfl, rfl⟩

theorem run_check_of_ok (hv : t.validate = .ok ()) (s : Surroundings) :
    (t.run .check s).result = t.simulate.1.mapError .refused ∧
      (t.run .check s).printed = [] ∧ (t.run .check s).session = {} := by
  rw [run, hv]
  exact ⟨rfl, rfl, rfl⟩

theorem dryRun_of_le_room {room : Option Nat}
    (hroom : ∀ n ∈ room, (Text.bytes (script t.plan)).length ≤ n) :
    (t.dryRun room).result = .ok t.plan.length ∧
      (t.dryRun room).printed = Text.bytes (script t.plan) := by
  rw [dryRun, Sink.provision_eq_takeAll, Writer.run_takeAll_sink, Writer.write_of_le_room hroom,
    Nat.zero_add]
  exact ⟨rfl, rfl⟩

theorem WellFormed.simulate_fst (hw : t.WellFormed) : t.simulate.1 = .ok t.plan.length := by
  obtain ⟨h, hok, -⟩ := hw.exists_applyAll_plan
  have hsimulate : t.simulate = (.ok t.plan.length, h) :=
    provision_host_eq_ok_iff.mpr ⟨hok, t.length_plan⟩
  rw [hsimulate]

/-- Without a fault of the topology, of the output or of the machine, the three modes of a run
come to the same number of operations, and what one of them prints is what another runs. If
the fault is the topology's, they all fail with it before they have done anything. -/
theorem run_modes_agree (t : Topology) (s : Surroundings) :
    (∀ violation, t.validate = .error violation → ∀ mode,
      (t.run mode s).result = .error (.invalid violation) ∧
      (t.run mode s).printed = [] ∧ (t.run mode s).session = {}) ∧
    (t.validate = .ok () →
      ((t.run .dryRun s).session = {} ∧
        ((∀ room, s.outputRoom = some room → (Text.bytes (script t.plan)).length ≤ room) →
          (t.run .dryRun s).result = .ok t.plan.length ∧
          (t.run .dryRun s).printed = Text.bytes (script t.plan))) ∧
      ((t.run .check s).result = .ok t.plan.length ∧
        (t.run .check s).printed = [] ∧ (t.run .check s).session = {}) ∧
      (∀ names, (s.machine.answer [] ["ip", "netns", "list"]).Lists names →
        (∀ name ∈ t.namespaces, name ∉ names) →
        (∀ a ∈ (t.run .execute s).session.attempts, a.Succeeded) →
        (t.run .execute s).result = .ok t.plan.length ∧
        ∃ commands : List Command,
          (t.run .execute s).session.ran = ["ip", "netns", "list"] :: commands ∧
          Text.lines (script t.plan).toList = commands.map fun command =>
            (" ".intercalate (command.map fun argument =>
              if ' ' ∈ argument.toList then "\"" ++ argument ++ "\"" else argument)).toList)) := by
  refine ⟨fun violation hv mode => ?_, fun hv => ⟨⟨?_, fun hroom => ?_⟩, ?_,
    fun names hlists hfree hall => ?_⟩⟩
  · rw [run_of_error hv]
    exact ⟨rfl, rfl, rfl⟩
  · exact (run_dryRun_of_ok hv s).2.2
  · obtain ⟨hresult, hprinted, -⟩ := run_dryRun_of_ok hv s
    rw [hresult, hprinted]
    exact dryRun_of_le_room hroom
  · obtain ⟨hresult, hquiet⟩ := run_check_of_ok hv s
    have hw : t.WellFormed := validate_eq_ok_iff.mp hv
    rw [hresult, hw.simulate_fst]
    exact ⟨rfl, hquiet⟩
  · obtain ⟨hresult, hsession⟩ := run_execute_of_ok hv s
    have hw : t.WellFormed := validate_eq_ok_iff.mp hv
    have hran := Session.ran_eq_of_succeeded hall
    rw [hsession] at hall hran ⊢
    obtain ⟨hbuilt, hcommands⟩ := Machine.run_build_of_succeeded hlists hfree hall
    rw [hcommands] at hran
    rw [hresult, hbuilt]
    refine ⟨rfl, t.plan.map Command.ofOperation, hran, ?_⟩
    simp only [← Command.line_eq]
    rw [lines_script (hw.not_mem_fields (by decide)), List.map_map]
    rfl

/-- A topology that is not valid, and a lab on a machine that does what it is asked. -/
theorem run_modes_agree_twoRouterLan :
    ((⟨["-"], [], []⟩ : Topology).validate = .error (.invalidName "-") ∧
      ((⟨["-"], [], []⟩ : Topology).run .execute ⟨Machine.obliging, none⟩).session = {}) ∧
    (twoRouterLan.validate = .ok () ∧
      (twoRouterLan.run .dryRun ⟨Machine.obliging, none⟩).printed =
        Text.bytes (script twoRouterLan.plan) ∧
      (twoRouterLan.run .check ⟨Machine.obliging, none⟩).result = .ok 23 ∧
      (Machine.obliging.answer [] ["ip", "netns", "list"]).Lists [] ∧
      (∀ a ∈ (twoRouterLan.run .execute ⟨Machine.obliging, none⟩).session.attempts,
        a.Succeeded) ∧
      (twoRouterLan.run .execute ⟨Machine.obliging, none⟩).result = .ok 23) := by
  have hinvalid : (⟨["-"], [], []⟩ : Topology).validate = .error (.invalidName "-") := rfl
  have hv : twoRouterLan.validate = .ok () := rfl
  have hlists : (Machine.obliging.answer [] ["ip", "netns", "list"]).Lists [] :=
    Machine.willing_obliging.lists_ask_listNamespaces []
  have hall : ∀ a ∈ (twoRouterLan.run .execute ⟨Machine.obliging, none⟩).session.attempts,
      a.Succeeded := by
    rw [(run_execute_of_ok hv _).2]
    exact Machine.willing_obliging.succeeded_of_mem_attempts (validate_eq_ok_iff.mp hv) (by decide)
  have hlength : twoRouterLan.plan.length = 23 := rfl
  obtain ⟨⟨-, hdryRun⟩, hcheck, hexecute⟩ :=
    (run_modes_agree twoRouterLan ⟨Machine.obliging, none⟩).2 hv
  rw [hlength] at hcheck hexecute
  refine ⟨⟨hinvalid, ?_⟩, hv, ?_, hcheck.1, hlists, hall, ?_⟩
  · exact ((run_modes_agree _ ⟨Machine.obliging, none⟩).1 _ hinvalid .execute).2.2
  · exact (hdryRun fun _ hroom => absurd hroom (Option.some_ne_none _).symm).2
  · exact (hexecute [] hlists (fun _ _ => List.not_mem_nil) hall).1

end Topology

end Testbed
