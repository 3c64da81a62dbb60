import Testbed.Proofs.Atomicity
import Testbed.Proofs.Attempts

/-!
# Provisioning, one operation after the other

Provisioning hands a plan over in phases and counts as it goes. Neither shows in what
comes of it: the sink takes the operations of the plan in their order up to the first that
fails, and whatever that one did to the state stays done. `Ends` says so without phases,
without a counter, and without looking at what the sink is. It may change its state when
it fails, so the state in the end is the one after the operation that failed and not the
one before it.

The counter is why the two equivalences of `takeAll` are about any number to begin with:
a run that has taken an operation goes on from the next number.
-/

namespace Testbed

namespace Sink

variable {ε σ : Type} {sink : Sink ε σ} {s s' : σ} {n total : Nat} {op : Operation}
  {ops done : List Operation} {e : ε} {r : Except ε Nat × σ}

/-- Each of the operations succeeds after those before it, and `s'` is the state then. -/
inductive Takes (sink : Sink ε σ) : σ → List Operation → σ → Prop
  | nil {s : σ} : sink.Takes s [] s
  | cons {s k s' : σ} {op : Operation} {ops : List Operation} :
      (sink.apply op).run.run s = (.ok (), k) → sink.Takes k ops s' → sink.Takes s (op :: ops) s'

/-- How handing over operations can end: which of them succeed, what is returned, and the
state in the end. -/
inductive Ends (sink : Sink ε σ) (s : σ) (ops : List Operation) :
    List Operation → Except ε Nat × σ → Prop
  | complete {s' : σ} : sink.Takes s ops s' → sink.Ends s ops ops (.ok ops.length, s')
  /-- The operations after the first that fails are not handed over. -/
  | stopped {done rest : List Operation} {op : Operation} {k s' : σ} {e : ε} :
      ops = done ++ op :: rest → sink.Takes s done k →
      (sink.apply op).run.run k = (.error e, s') → sink.Ends s ops done (.error e, s')

theorem takes_cons_iff :
    sink.Takes s (op :: ops) s' ↔ ∃ k, (sink.apply op).run.run s = (.ok (), k) ∧
      sink.Takes k ops s' := by
  constructor
  · intro htakes
    cases htakes with
    | cons hop hrest => exact ⟨_, hop, hrest⟩
  · rintro ⟨k, hop, hrest⟩
    exact .cons hop hrest

theorem run_takeAll_eq_ok_iff :
    (sink.takeAll n ops).run.run s = (.ok total, s') ↔
      sink.Takes s ops s' ∧ total = n + ops.length := by
  induction ops generalizing s n with
  | nil =>
    rw [run_takeAll_nil]
    constructor
    · rintro ⟨⟩
      exact ⟨.nil, rfl⟩
    · rintro ⟨⟨⟩, rfl⟩
      rfl
  | cons op ops ih =>
    -- What is left is counted from one more, and is one shorter.
    rw [run_takeAll_cons, takes_cons_iff, List.length_cons, Nat.add_comm ops.length,
      ← Nat.add_assoc]
    rcases (sink.apply op).run.run s with ⟨_ | ⟨⟩, k⟩
    · exact iff_of_false nofun fun ⟨⟨_, hok, _⟩, _⟩ => nomatch hok
    · refine ih.trans (and_congr_left fun _ => ⟨fun hrest => ⟨k, rfl, hrest⟩, ?_⟩)
      rintro ⟨_, ⟨⟩, hrest⟩
      exact hrest

theorem run_takeAll_eq_error_iff :
    (sink.takeAll n ops).run.run s = (.error e, s') ↔
      ∃ done op rest k, ops = done ++ op :: rest ∧ sink.Takes s done k ∧
        (sink.apply op).run.run k = (.error e, s') := by
  constructor
  · intro herror
    obtain ⟨done, op, rest, k, hops, hdone, hop⟩ := exists_of_run_takeAll_eq_error herror
    exact ⟨done, op, rest, k, hops, (run_takeAll_eq_ok_iff.mp hdone).1, hop⟩
  · rintro ⟨done, op, rest, k, rfl, hdone, hop⟩
    rw [takeAll_append, run_bind, run_takeAll_eq_ok_iff.mpr ⟨hdone, rfl⟩]
    simp only [run_takeAll_cons, hop]

theorem run_takeAll_zero_eq_iff :
    (sink.takeAll 0 ops).run.run s = r ↔ ∃ done, sink.Ends s ops done r := by
  obtain ⟨e | total, s'⟩ := r
  · rw [run_takeAll_eq_error_iff]
    constructor
    · rintro ⟨done, op, rest, k, hops, hdone, hop⟩
      exact ⟨done, .stopped hops hdone hop⟩
    · rintro ⟨done, hends⟩
      cases hends with
      | stopped hops hdone hop => exact ⟨_, _, _, _, hops, hdone, hop⟩
  · rw [run_takeAll_eq_ok_iff, Nat.zero_add]
    constructor
    · rintro ⟨htakes, rfl⟩
      exact ⟨ops, .complete htakes⟩
    · rintro ⟨done, hends⟩
      cases hends with
      | complete htakes => exact ⟨htakes, rfl⟩

theorem takes_collector (ops kept : List Operation) : collector.Takes kept ops (kept ++ ops) := by
  induction ops generalizing kept with
  | nil =>
    rw [List.append_nil]
    exact .nil
  | cons op ops ih =>
    have hrest := ih (kept ++ [op])
    rw [List.append_assoc] at hrest
    exact .cons rfl hrest

end Sink

namespace Machine

variable {m : Machine} {session session' : Session} {op : Operation} {ops done : List Operation}

theorem executed_of_takes (htakes : m.sink.Takes session ops session') :
    session'.executed = session.executed + ops.length := by
  induction htakes with
  | nil => rfl
  | @cons s k _ op ops hop _ ih =>
    have hcounted : k.executed = s.executed + 1 := by
      rcases (m.ask s.attempts (Command.ofOperation op)).succeeded_or_failsWith with
        hsucceeded | ⟨error, herror⟩
      · rw [run_sink_apply_of_succeeded hsucceeded] at hop
        cases hop
        rfl
      · rw [run_sink_apply_of_failsWith herror] at hop
        cases hop
    rw [ih, hcounted, List.length_cons, Nat.add_right_comm, Nat.add_assoc]

/-- A failed operation is attempted and not counted. -/
theorem executed_of_run_sink_apply {error : ExecutionError}
    (hop : (m.sink.apply op).run.run session = (.error error, session')) :
    session'.executed = session.executed := by
  rcases (m.ask session.attempts (Command.ofOperation op)).succeeded_or_failsWith with
    hsucceeded | ⟨error', herror⟩
  · rw [run_sink_apply_of_succeeded hsucceeded] at hop
    cases hop
  · rw [run_sink_apply_of_failsWith herror] at hop
    cases hop
    rfl

theorem executed_of_ends {r : Except ExecutionError Nat × Session}
    (hends : m.sink.Ends session ops done r) :
    r.2.executed = session.executed + done.length := by
  cases hends with
  | complete htakes => exact executed_of_takes htakes
  | stopped _ hdone hop => rw [executed_of_run_sink_apply hop, executed_of_takes hdone]

end Machine

/-- To provision is to hand over the plan, one operation after the other, whatever the
sink is. A list keeps the plan, and a machine counts what it carried out. -/
theorem provision_eq_iff_ends (t : Topology) :
    (∀ (ε σ : Type) (sink : Sink ε σ) (s : σ) (r : Except ε Nat × σ),
      (provision t sink).run.run s = r ↔ ∃ done, sink.Ends s t.plan done r) ∧
    (∀ kept : List Operation,
      (provision t Sink.collector).run.run kept = (.ok t.plan.length, kept ++ t.plan)) ∧
    ∀ (m : Machine) (session : Session), ∃ done,
      m.sink.Ends session t.plan done ((provision t m.sink).run.run session) ∧
      ((provision t m.sink).run.run session).2.executed = session.executed + done.length := by
  have hends {ε σ : Type} (sink : Sink ε σ) (s : σ) (r : Except ε Nat × σ) :
      (provision t sink).run.run s = r ↔ ∃ done, sink.Ends s t.plan done r := by
    rw [Sink.provision_eq_takeAll, Sink.run_takeAll_zero_eq_iff]
  refine ⟨fun _ _ => hends, fun kept => ?_, fun m session => ?_⟩
  · exact (hends _ _ _).mpr ⟨t.plan, .complete (Sink.takes_collector t.plan kept)⟩
  · obtain ⟨done, hdone⟩ := (hends m.sink session _).mp rfl
    exact ⟨done, hdone, Machine.executed_of_ends hdone⟩

end Testbed
