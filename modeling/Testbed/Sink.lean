import Testbed.Except
import Testbed.Host.Apply
import Testbed.Log
import Testbed.Plan

/-!
# Takers of operations

A sink takes operations one at a time. Taking one may change the sink's state and
may fail, and it may do both: a writer that runs full has written a part. So a
sink is a function from operations to actions on its state, and whether a failed
operation left a trace is a property of the particular sink.

To provision a topology is to hand its plan to a sink, phase by phase, up to the
first operation that fails. What the run records is described beside it by a
function that replays the run: a heading for each phase that was reached, every
operation before it is handed over, and what the sink itself has to say.
-/

namespace Testbed

structure Sink (ε σ : Type) where
  apply : Operation → ExceptT ε (StateM σ) Unit
  /-- What is recorded when the operation meets this state. -/
  journal : Operation → σ → List Log.Entry := fun _ _ => []

/-- Hands over the plan and counts the operations that were taken. -/
def provision {ε σ : Type} (t : Topology) (sink : Sink ε σ) : ExceptT ε (StateM σ) Nat :=
  Phase.all.foldlM (fun applied phase =>
    (t.planOf phase).foldlM (fun applied op => do
      sink.apply op
      return applied + 1) applied) 0

namespace Sink

variable {ε σ : Type}

/-- Hands over the operations of a list and goes on counting at `n`. -/
def takeAll (sink : Sink ε σ) (n : Nat) (ops : List Operation) : ExceptT ε (StateM σ) Nat :=
  ops.foldlM (fun applied op => do
    sink.apply op
    return applied + 1) n

/-- Phases do not matter to a sink: it is handed one plan. -/
theorem provision_eq_takeAll (sink : Sink ε σ) (t : Topology) :
    provision t sink = sink.takeAll 0 t.plan := by
  simp only [provision, takeAll, Topology.plan, Phase.all, List.flatMap_cons, List.flatMap_nil,
    List.foldlM_append, List.foldlM_cons, List.foldlM_nil]

theorem takeAll_append (sink : Sink ε σ) (n : Nat) (ops rest : List Operation) :
    sink.takeAll n (ops ++ rest) = sink.takeAll n ops >>= fun k => sink.takeAll k rest :=
  List.foldlM_append

theorem run_takeAll_nil (sink : Sink ε σ) (n : Nat) (state : σ) :
    (sink.takeAll n []).run.run state = (.ok n, state) := rfl

theorem run_takeAll_cons (sink : Sink ε σ) (n : Nat) (op : Operation) (ops : List Operation)
    (state : σ) :
    (sink.takeAll n (op :: ops)).run.run state =
      match (sink.apply op).run.run state with
      | (.ok (), next) => (sink.takeAll (n + 1) ops).run.run next
      | (.error e, next) => (.error e, next) := by
  rw [takeAll, List.foldlM_cons, run_bind, run_bind]
  rcases (sink.apply op).run.run state with ⟨_ | _, next⟩
  · rfl
  · rfl

/-- The record of handing over these operations, and the state afterwards unless
one of them failed. -/
def journalOf (sink : Sink ε σ) : List Operation → σ → List Log.Entry × Option σ
  | [], state => ([], some state)
  | op :: ops, state =>
    let entries := ⟨.debug, .provisioning, op.describe⟩ :: sink.journal op state
    match (sink.apply op).run.run state with
    | (.error _, _) => (entries, none)
    | (.ok _, next) =>
      let later := sink.journalOf ops next
      (entries ++ later.1, later.2)

def phaseHeading (phase : Phase) (operations : Nat) : Log.Entry :=
  ⟨.info, .provisioning, s!"Provisioning {phase.name} ({operations} operations)"⟩

def journalOfPhases (sink : Sink ε σ) (t : Topology) : List Phase → σ → List Log.Entry
  | [], _ => []
  | phase :: phases, state =>
    let heading := phaseHeading phase (t.planOf phase).length
    match sink.journalOf (t.planOf phase) state with
    | (entries, none) => heading :: entries
    | (entries, some next) => heading :: entries ++ sink.journalOfPhases t phases next

/-- The record of provisioning a topology. -/
def journalOfProvision (sink : Sink ε σ) (t : Topology) (state : σ) : List Log.Entry :=
  sink.journalOfPhases t Phase.all state

/-! ## Sinks that keep what they take -/

/-- Collects the operations. Nothing can go wrong. -/
def collector : Sink Empty (List Operation) where
  apply op := modify (· ++ [op])

/-- Simulates a host, which stays as it is when it refuses an operation. -/
def host : Sink Fault Host where
  apply op := do
    match (← get).apply op with
    | .ok next => set next
    | .error fault => throw fault

end Sink

end Testbed
