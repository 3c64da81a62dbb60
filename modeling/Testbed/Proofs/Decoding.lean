import Testbed.Proofs.Modes
import Testbed.Proofs.Scripts

/-!
# What a machine is told

A machine is given arguments and no operations. Nothing is lost by that, whatever texts
the operations carry: a namespace may be called `up`, an interface `master`, and an
address may be empty or be a whole command. An argument stays in its place, so the words
that a command has of its own are looked for where they have to be, and the first place
where two commands have different words of their own tells them apart.

The decoder is the one that reads lines (`Command.decodeWith`), with each loop as a single
word, and it is exact (`Command.decode_eq_some_iff`). So the commands that a run attempts
can be read back as the operations it was about, and the question for the namespaces is
not one of them. What is read back is a beginning of the plan, however the machine answers.
-/

namespace Testbed

variable {op : Operation} {ops : List Operation} {command : Command}

namespace Command

/-- The operation that has this command, if there is one. -/
def decode (command : Command) : Option Operation :=
  decodeWith [settingLoop "1" "forwarding"] [settingLoop "0" "rp_filter"] command

theorem wordsWith_loops (op : Operation) :
    wordsWith [settingLoop "1" "forwarding"] [settingLoop "0" "rp_filter"] op =
      ofOperation op := by
  cases op
  all_goals rfl

theorem decode_eq_some_iff : decode command = some op ↔ command = ofOperation op := by
  have hapart : [settingLoop "1" "forwarding"] ≠ [settingLoop "0" "rp_filter"] := by
    decide +kernel
  rw [decode, decodeWith_eq_some_iff hapart, wordsWith_loops, eq_comm]

theorem ofOperation_inj {op' : Operation} : ofOperation op = ofOperation op' ↔ op = op' := by
  rw [← decode_eq_some_iff, decode_eq_some_iff.mpr rfl, Option.some.injEq]

theorem filterMap_decode (ops : List Operation) : (ops.map ofOperation).filterMap decode = ops := by
  have hsome : decode ∘ ofOperation = some := funext fun _ => decode_eq_some_iff.mpr rfl
  rw [List.filterMap_map, hsome, List.filterMap_some]

end Command

/-! ## The commands of a run -/

/-- The operations whose commands were attempted. -/
def Session.operations (session : Session) : List Operation :=
  (session.attempts.map (·.command)).filterMap Command.decode

namespace Account

variable {attempts : List Attempt} {result : Except ExecutionError Nat} {executed n : Nat}

theorem filterMap_decode (h : Account ops attempts result executed) :
    (attempts.map (·.command)).filterMap Command.decode = ops.take attempts.length := by
  cases h with
  | complete hcommands _ =>
    have hlength : attempts.length = ops.length := by
      rw [← List.length_map, hcommands, List.length_map]
    rw [hcommands, Command.filterMap_decode, hlength, List.take_length]
  | @stopped done rest op attempts a _ hops hcommands _ hlast _ =>
    -- The attempt that failed was at the operation after those that succeeded.
    have hall : (attempts ++ [a]).map (·.command) = (done ++ [op]).map Command.ofOperation := by
      rw [List.map_append, List.map_append, hcommands, List.map_singleton, hlast]
      rfl
    have hlength : (attempts ++ [a]).length = (done ++ [op]).length := by
      rw [← List.length_map, hall, List.length_map]
    rw [hall, Command.filterMap_decode, hlength,
      hops.trans (List.append_cons done op rest), List.take_left]

theorem length_eq_of_ok (h : Account ops attempts (.ok n) executed) :
    attempts.length = ops.length := by
  cases h with
  | complete hcommands _ => rw [← List.length_map, hcommands, List.length_map]

end Account

theorem Machine.operations_build (m : Machine) (t : Topology) :
    ((m.build t).run.run {}).2.operations =
        t.plan.take (((m.build t).run.run {}).2.attempts.length - 1) ∧
      ∀ n, ((m.build t).run.run {}).1 = .ok n → ((m.build t).run.run {}).2.operations = t.plan := by
  by_cases h : ∃ error, t.Obstacle (m.ask [] Command.listNamespaces) error
  · obtain ⟨error, hobstacle⟩ := h
    rw [run_build_of_obstacle hobstacle]
    exact ⟨rfl, nofun⟩
  · obtain ⟨attempts, result, executed, hrun, -, haccount⟩ :=
      run_takeAll_account t.plan ⟨[] ++ [m.ask [] Command.listNamespaces], 0⟩
        (m.answered_nil.append_ask Command.listNamespaces)
    rw [run_build_of_not_obstacle h, hrun]
    -- The question for the namespaces is no command of an operation.
    have hoperations : (Session.operations ⟨m.ask [] Command.listNamespaces :: attempts,
        executed⟩) = t.plan.take attempts.length := haccount.filterMap_decode
    refine ⟨hoperations, ?_⟩
    rintro n rfl
    refine hoperations.trans ?_
    rw [haccount.length_eq_of_ok, List.take_length]

namespace Topology

/-- Different operations have different commands, and so the machine of a run is told the
operations of the plan: those that the run came to, and all of them if it succeeds. -/
theorem commands_decodable :
    (∀ op op' : Operation, Command.ofOperation op = Command.ofOperation op' ↔ op = op') ∧
    (∀ (command : Command) (op : Operation),
      Command.decode command = some op ↔ command = Command.ofOperation op) ∧
    ∀ (t : Topology) (s : Surroundings),
      (t.run .execute s).session.operations =
        t.plan.take ((t.run .execute s).session.attempts.length - 1) ∧
      ∀ n, (t.run .execute s).result = .ok n → (t.run .execute s).session.operations = t.plan := by
  refine ⟨fun op op' => Command.ofOperation_inj, fun command op => Command.decode_eq_some_iff,
    fun t s => ?_⟩
  cases hv : t.validate with
  | error violation =>
    rw [run_of_error hv]
    exact ⟨rfl, nofun⟩
  | ok _ =>
    obtain ⟨hresult, hsession⟩ := run_execute_of_ok hv s
    obtain ⟨hoperations, hall⟩ := s.machine.operations_build t
    rw [hresult, hsession]
    exact ⟨hoperations, fun n hok => hall n (mapError_eq_ok_iff.mp hok)⟩

/-- Devices that are called like words of commands. -/
def keywordNamed : Topology where
  devices := ["up", "netns"]
  circuits := [⟨"up", "netns", .pointToPoint "10.0.1."⟩]

theorem commands_decodable_keywordNamed :
    (keywordNamed.run .execute ⟨Machine.obliging, none⟩).result =
      .ok keywordNamed.plan.length ∧
    (keywordNamed.run .execute ⟨Machine.obliging, none⟩).session.operations =
      keywordNamed.plan := by
  have hv : keywordNamed.validate = .ok () := rfl
  have hresult : (keywordNamed.run .execute ⟨Machine.obliging, none⟩).result =
      .ok keywordNamed.plan.length := by
    rw [(run_execute_of_ok hv _).1, Machine.willing_obliging.run_build_of_isArgument
      (validate_eq_ok_iff.mp hv) (by decide)]
    rfl
  obtain ⟨-, -, htold⟩ := commands_decodable
  exact ⟨hresult, (htold _ _).2 _ hresult⟩

end Topology

end Testbed
