import Testbed.Proofs.Listings
import Testbed.Run

/-!
# What a run attempts on a machine

A machine may answer anything to anything: its answer depends on the command and on
all that it was asked before. Nothing is assumed of it here, and still a run that
builds a lab has only three shapes. A topology that is not valid asks nothing. A valid
one asks for the listing of namespaces and asks nothing else if the answer is an
obstacle. Otherwise it asks for the commands of its plan, in order, up to the first
that does not succeed.

The proof is about `askAll`, which puts all commands of a list to the machine whatever
comes of them. What succeeds of it is what a run does as well, so a run is known once
it is known where the first failure is (`run_takeAll_of_succeeded`,
`run_takeAll_of_failsWith`), and there either is a first failure or there is none
(`askAll_succeeded_or_failsWith`).

`Account` and `Obstacle` say the outcome without `askAll`. They go by the answers alone, and
what an error shows is said by its characters: the line of a command as its arguments side
by side, what the command printed as a text between white space, and what a listing holds
by the lines there are (`Listing.Names`).
-/

namespace Testbed

namespace Attempt

/-- The command ran, and ended with status zero. -/
def Succeeded (a : Attempt) : Prop :=
  ∃ stdout stderr, a.outcome = .exited (some 0) stdout stderr

/-- How an attempt can fail, and with which error. An argument with a space in it is shown
between double quotes, and what was printed without the white space around it. -/
inductive FailsWith (a : Attempt) : ExecutionError → Prop
  | notStarted {reason : StartFailure} :
      a.outcome = .notStarted reason → a.FailsWith (.cannotStart reason)
  | exited {status : Option Nat} {stdout stderr : List UInt8} {text : String} :
      a.outcome = .exited status stdout stderr → status ≠ some 0 →
      Text.Trims (Text.decodeLossy stderr).toList text.toList →
      a.FailsWith (.commandFailed
        (" ".intercalate (a.command.map fun argument =>
          if ' ' ∈ argument.toList then "\"" ++ argument ++ "\"" else argument))
        status text)

variable {a : Attempt} {error : ExecutionError}

theorem succeeded_or_failsWith (a : Attempt) : a.Succeeded ∨ ∃ error, a.FailsWith error := by
  rcases houtcome : a.outcome with reason | ⟨status, stdout, stderr⟩
  · exact .inr ⟨_, .notStarted houtcome⟩
  · by_cases hstatus : status = some 0
    · rw [hstatus] at houtcome
      exact .inl ⟨stdout, stderr, houtcome⟩
    · exact .inr ⟨_, .exited houtcome hstatus (printedText_eq_iff.mp rfl)⟩

theorem FailsWith.not_succeeded (h : a.FailsWith error) : ¬ a.Succeeded := by
  rintro ⟨stdout, stderr, houtcome⟩
  cases h with
  | notStarted hreason => cases hreason.symm.trans houtcome
  | exited hexited hstatus =>
    cases hexited.symm.trans houtcome
    exact hstatus rfl

end Attempt

/-- How carrying out operations, one command each, can go: which attempts are made, what
is returned, and how many operations are counted. -/
inductive Account (ops : List Operation) : List Attempt → Except ExecutionError Nat → Nat → Prop
  | complete {attempts : List Attempt} :
      attempts.map (·.command) = ops.map Command.ofOperation →
      (∀ a ∈ attempts, a.Succeeded) →
      Account ops attempts (.ok ops.length) ops.length
  /-- The operations after the first that fails are not attempted. -/
  | stopped {done rest : List Operation} {op : Operation} {attempts : List Attempt} {a : Attempt}
      {error : ExecutionError} :
      ops = done ++ op :: rest →
      attempts.map (·.command) = done.map Command.ofOperation →
      (∀ a ∈ attempts, a.Succeeded) →
      a.command = Command.ofOperation op → a.FailsWith error →
      Account ops (attempts ++ [a]) (.error error) done.length

namespace Machine

/-- An attempt to run the command, after those of the past. -/
def ask (m : Machine) (past : List Attempt) (command : Command) : Attempt :=
  ⟨command, m.answer past command⟩

/-- One attempt for each operation, whatever the ones before it come to. -/
def askAll (m : Machine) (past : List Attempt) : List Operation → List Attempt
  | [] => []
  | op :: ops =>
    let a := m.ask past (Command.ofOperation op)
    a :: m.askAll (past ++ [a]) ops

/-- Every attempt was answered by the machine, which knew of those before it. -/
def Answered (m : Machine) (attempts : List Attempt) : Prop :=
  ∀ past a later, attempts = past ++ a :: later → a.outcome = m.answer past a.command

variable {m : Machine} {past : List Attempt} {ops done rest : List Operation} {op : Operation}
  {error : ExecutionError} {session : Session} {n : Nat} {t : Topology}

theorem map_command_askAll (m : Machine) (past : List Attempt) (ops : List Operation) :
    (m.askAll past ops).map (·.command) = ops.map Command.ofOperation := by
  induction ops generalizing past with
  | nil => rfl
  | cons op ops ih =>
    rw [askAll, List.map_cons, List.map_cons, ih]
    rfl

/-- Either everything succeeds or something is the first not to. -/
theorem askAll_succeeded_or_failsWith (m : Machine) (past : List Attempt) (ops : List Operation) :
    (∀ a ∈ m.askAll past ops, a.Succeeded) ∨
      ∃ done op rest error, ops = done ++ op :: rest ∧
        (∀ a ∈ m.askAll past done, a.Succeeded) ∧
        (m.ask (past ++ m.askAll past done) (Command.ofOperation op)).FailsWith error := by
  induction ops generalizing past with
  | nil => exact .inl fun _ ha => absurd ha List.not_mem_nil
  | cons op ops ih =>
    rcases (m.ask past (Command.ofOperation op)).succeeded_or_failsWith with
      hfirst | ⟨error, herror⟩
    · rcases ih (past ++ [m.ask past (Command.ofOperation op)]) with hall |
        ⟨done, next, rest, error, rfl, hdone, herror⟩
      · exact .inl (List.forall_mem_cons.mpr ⟨hfirst, hall⟩)
      · refine .inr ⟨op :: done, next, rest, error, rfl,
          List.forall_mem_cons.mpr ⟨hfirst, hdone⟩, ?_⟩
        rwa [List.append_assoc] at herror
    · refine .inr ⟨[], op, ops, error, rfl, fun _ ha => absurd ha List.not_mem_nil, ?_⟩
      rwa [askAll, List.append_nil]

theorem answered_nil (m : Machine) : m.Answered [] := by
  intro past a later h
  cases past with
  | nil => cases h
  | cons => cases h

theorem Answered.append_ask (h : m.Answered past) (command : Command) :
    m.Answered (past ++ [m.ask past command]) := by
  intro before a later hsplit
  rcases List.eq_nil_or_concat later with rfl | ⟨init, last, rfl⟩
  · obtain ⟨rfl, heq⟩ := List.append_inj' hsplit rfl
    cases heq
    rfl
  · rw [List.concat_eq_append, ← List.cons_append, ← List.append_assoc] at hsplit
    exact h before a init (List.append_inj' hsplit rfl).1

theorem Answered.append_askAll (h : m.Answered past) (ops : List Operation) :
    m.Answered (past ++ m.askAll past ops) := by
  induction ops generalizing past with
  | nil => rwa [askAll, List.append_nil]
  | cons op ops ih =>
    have hrest := ih (h.append_ask (Command.ofOperation op))
    rwa [List.append_assoc] at hrest

/-! ## Carrying out operations -/

theorem run_attempt (command : Command) (session : Session) :
    (m.attempt command : ExceptT ExecutionError (StateM Session) Outcome).run.run session =
      (.ok (m.answer session.attempts command),
        ⟨session.attempts ++ [m.ask session.attempts command], session.executed⟩) := rfl

theorem run_output_of_exited {command : Command} {stdout stderr : List UInt8}
    (h : (m.ask session.attempts command).outcome = .exited (some 0) stdout stderr) :
    (m.output command).run.run session =
      (.ok stdout, ⟨session.attempts ++ [m.ask session.attempts command], session.executed⟩) := by
  have hanswer : m.answer session.attempts command = .exited (some 0) stdout stderr := h
  rw [output, run_bind, run_attempt, hanswer]
  rfl

theorem run_output_of_failsWith {command : Command}
    (h : (m.ask session.attempts command).FailsWith error) :
    (m.output command).run.run session =
      (.error error,
        ⟨session.attempts ++ [m.ask session.attempts command], session.executed⟩) := by
  rw [output, run_bind, run_attempt]
  cases h with
  | @notStarted reason houtcome =>
    have hanswer : m.answer session.attempts command = .notStarted reason := houtcome
    rw [hanswer]
    rfl
  | @exited status stdout stderr text houtcome hstatus htext =>
    have hanswer : m.answer session.attempts command = .exited status stdout stderr := houtcome
    obtain rfl : printedText stderr = text := printedText_eq_iff.mpr htext
    rw [hanswer]
    match status with
    | some 0 => exact absurd rfl hstatus
    | some (n + 1) => rfl
    | none => rfl

theorem run_sink_apply_of_succeeded
    (h : (m.ask session.attempts (Command.ofOperation op)).Succeeded) :
    (m.sink.apply op).run.run session =
      (.ok (), ⟨session.attempts ++ [m.ask session.attempts (Command.ofOperation op)],
        session.executed + 1⟩) := by
  obtain ⟨stdout, stderr, houtcome⟩ := h
  simp only [sink]
  rw [run_bind, run_output_of_exited houtcome]
  rfl

theorem run_sink_apply_of_failsWith
    (h : (m.ask session.attempts (Command.ofOperation op)).FailsWith error) :
    (m.sink.apply op).run.run session =
      (.error error, ⟨session.attempts ++ [m.ask session.attempts (Command.ofOperation op)],
        session.executed⟩) := by
  simp only [sink]
  rw [run_bind, run_output_of_failsWith h]

theorem run_takeAll_of_succeeded (hall : ∀ a ∈ m.askAll session.attempts ops, a.Succeeded) :
    (m.sink.takeAll n ops).run.run session =
      (.ok (n + ops.length), ⟨session.attempts ++ m.askAll session.attempts ops,
        session.executed + ops.length⟩) := by
  induction ops generalizing session n with
  | nil =>
    rw [askAll, List.append_nil]
    exact Sink.run_takeAll_nil _ _ _
  | cons op ops ih =>
    rw [askAll, List.forall_mem_cons] at hall
    obtain ⟨hfirst, hrest⟩ := hall
    rw [Sink.run_takeAll_cons, run_sink_apply_of_succeeded hfirst]
    simp only []
    rw [ih hrest, askAll, List.append_assoc, List.length_cons, Nat.add_right_comm n,
      Nat.add_right_comm session.executed]
    rfl

/-- The first operation that fails is attempted and not counted, and the rest is left
alone. -/
theorem run_takeAll_of_failsWith
    (hdone : ∀ a ∈ m.askAll session.attempts done, a.Succeeded)
    (herror : (m.ask (session.attempts ++ m.askAll session.attempts done)
      (Command.ofOperation op)).FailsWith error) :
    (m.sink.takeAll n (done ++ op :: rest)).run.run session =
      (.error error, ⟨session.attempts ++ m.askAll session.attempts done ++
        [m.ask (session.attempts ++ m.askAll session.attempts done) (Command.ofOperation op)],
        session.executed + done.length⟩) := by
  rw [Sink.takeAll_append, run_bind, run_takeAll_of_succeeded hdone]
  simp only [Sink.run_takeAll_cons]
  rw [run_sink_apply_of_failsWith herror]

theorem run_takeAll_account (ops : List Operation) (session : Session)
    (hpast : m.Answered session.attempts) :
    ∃ attempts result executed,
      (m.sink.takeAll 0 ops).run.run session =
        (result, ⟨session.attempts ++ attempts, session.executed + executed⟩) ∧
      m.Answered (session.attempts ++ attempts) ∧ Account ops attempts result executed := by
  rcases m.askAll_succeeded_or_failsWith session.attempts ops with hall |
    ⟨done, op, rest, error, rfl, hdone, herror⟩
  · refine ⟨_, _, _, ?_, hpast.append_askAll ops, .complete (m.map_command_askAll _ ops) hall⟩
    rw [run_takeAll_of_succeeded hall, Nat.zero_add]
  · refine ⟨_, _, _, ?_, ?_, .stopped rfl (m.map_command_askAll _ done) hdone rfl herror⟩
    · rw [run_takeAll_of_failsWith hdone herror, List.append_assoc]
    · rw [← List.append_assoc]
      exact (hpast.append_askAll done).append_ask _

end Machine

/-! ## The first question -/

/-- A success that lists these names. -/
def Outcome.Lists (outcome : Outcome) (names : List String) : Prop :=
  ∃ stdout stderr, outcome = .exited (some 0) stdout stderr ∧
    List.Forall₂ Listing.Names (Listing.entries (Text.decodeLossy stdout)) names

theorem Outcome.lists_iff {outcome : Outcome} {names : List String} :
    outcome.Lists names ↔ ∃ stdout stderr, outcome = .exited (some 0) stdout stderr ∧
      Listing.parse (Text.decodeLossy stdout) = .ok names := by
  simp only [Lists, Listing.parse_eq_ok_iff]

namespace Topology

variable {t : Topology} {listing : Attempt} {names : List String} {error : ExecutionError}

/-- How the attempt to list the namespaces can forbid to begin. -/
inductive Obstacle (t : Topology) (listing : Attempt) : ExecutionError → Prop
  | failed {error : ExecutionError} : listing.FailsWith error → t.Obstacle listing error
  /-- The first line that names no namespace is shown. -/
  | unreadable {stdout stderr : List UInt8} {before after : List (List Char)}
      {entry : List Char} :
      listing.outcome = .exited (some 0) stdout stderr →
      Listing.entries (Text.decodeLossy stdout) = before ++ entry :: after →
      (∀ e ∈ before, ∃ name, Listing.Names e name) → (∀ name, ¬ Listing.Names entry name) →
      t.Obstacle listing (.unexpectedListing (String.ofList entry))
  /-- Of several namespaces that exist already, the first one of the topology counts. -/
  | collision {names before after : List String} {name : String} :
      listing.outcome.Lists names → t.segments ++ t.devices = before ++ name :: after →
      name ∈ names → (∀ earlier ∈ before, earlier ∉ names) →
      t.Obstacle listing (.namespaceCollision name)

theorem exists_lists_of_not_obstacle (h : ¬ ∃ error, t.Obstacle listing error) :
    ∃ names, listing.outcome.Lists names ∧ t.collision? names = none := by
  rcases listing.succeeded_or_failsWith with ⟨stdout, stderr, houtcome⟩ | ⟨error, herror⟩
  · cases hparse : Listing.parse (Text.decodeLossy stdout) with
    | error found =>
      obtain ⟨before, entry, after, hentries, hbefore, hentry, -⟩ :=
        Listing.parse_eq_error_iff.mp hparse
      exact absurd ⟨_, .unreadable houtcome hentries hbefore hentry⟩ h
    | ok names =>
      have hlists : listing.outcome.Lists names :=
        Outcome.lists_iff.mpr ⟨stdout, stderr, houtcome, hparse⟩
      refine ⟨names, hlists, Option.eq_none_iff_forall_ne_some.mpr fun name hcollision => h ?_⟩
      obtain ⟨hmem, before, after, hsplit, hbefore⟩ := collision?_eq_some_iff.mp hcollision
      exact ⟨_, .collision hlists hsplit hmem hbefore⟩
  · exact absurd ⟨error, .failed herror⟩ h

/-- A listing that has none of the names is no obstacle. -/
theorem not_obstacle_of_lists (hlists : listing.outcome.Lists names)
    (hfree : ∀ name ∈ t.namespaces, name ∉ names) : ¬ ∃ error, t.Obstacle listing error := by
  obtain ⟨stdout, stderr, houtcome, hparse⟩ := Outcome.lists_iff.mp hlists
  rintro ⟨error, hobstacle⟩
  cases hobstacle with
  | failed herror => exact herror.not_succeeded ⟨stdout, stderr, houtcome⟩
  | unreadable houtcome' hentries hbefore hentry =>
    cases houtcome.symm.trans houtcome'
    have hfails := Listing.parse_eq_error_iff.mpr ⟨_, _, _, hentries, hbefore, hentry, rfl⟩
    cases hparse.symm.trans hfails
  | @collision names' before after name hlists' hsplit hmem _ =>
    obtain ⟨_, _, houtcome', hparse'⟩ := Outcome.lists_iff.mp hlists'
    cases houtcome.symm.trans houtcome'
    cases hparse.symm.trans hparse'
    have hname : name ∈ t.namespaces := by
      rw [namespaces, hsplit]
      exact List.mem_append_right before List.mem_cons_self
    exact hfree name hname hmem

end Topology

namespace Machine

variable {t : Topology} {m : Machine} {session : Session} {error : ExecutionError}

theorem run_existing_of_failsWith
    (h : (m.ask session.attempts Command.listNamespaces).FailsWith error) :
    m.existing.run.run session =
      (.error error, ⟨session.attempts ++ [m.ask session.attempts Command.listNamespaces],
        session.executed⟩) := by
  rw [existing, run_bind, run_output_of_failsWith h]

theorem run_existing_of_exited {stdout stderr : List UInt8}
    (h : (m.ask session.attempts Command.listNamespaces).outcome =
      .exited (some 0) stdout stderr) :
    m.existing.run.run session =
      ((Listing.parse (Text.decodeLossy stdout)).mapError .unexpectedListing,
        ⟨session.attempts ++ [m.ask session.attempts Command.listNamespaces],
          session.executed⟩) := by
  rw [existing, run_bind, run_output_of_exited h]
  cases hparse : Listing.parse (Text.decodeLossy stdout) with
  | error line =>
    simp only [hparse]
    rfl
  | ok names =>
    simp only [hparse]
    rfl

theorem run_build (m : Machine) (t : Topology) (session : Session) :
    (m.build t).run.run session =
      match m.existing.run.run session with
      | (.error error, next) => (.error error, next)
      | (.ok names, next) =>
        match t.collision? names with
        | some name => (.error (.namespaceCollision name), next)
        | none => (m.sink.takeAll 0 t.plan).run.run next := by
  rw [build, run_bind, Sink.provision_eq_takeAll]
  rcases m.existing.run.run session with ⟨_ | names, next⟩
  · rfl
  · cases hcollision : t.collision? names with
    | none => simp only [hcollision]
    | some name =>
      simp only [hcollision]
      rfl

/-- A machine is asked nothing but the first question if the answer is an obstacle. -/
theorem run_build_of_obstacle
    (h : t.Obstacle (m.ask session.attempts Command.listNamespaces) error) :
    (m.build t).run.run session =
      (.error error, ⟨session.attempts ++ [m.ask session.attempts Command.listNamespaces],
        session.executed⟩) := by
  rw [run_build]
  cases h with
  | failed herror => rw [run_existing_of_failsWith herror]
  | unreadable houtcome hentries hbefore hentry =>
    rw [run_existing_of_exited houtcome,
      Listing.parse_eq_error_iff.mpr ⟨_, _, _, hentries, hbefore, hentry, rfl⟩]
    rfl
  | collision hlists hsplit hmem hbefore =>
    obtain ⟨stdout, stderr, houtcome, hparse⟩ := Outcome.lists_iff.mp hlists
    rw [run_existing_of_exited houtcome, hparse]
    simp only [Except.mapError, Topology.collision?_eq_some_iff.mpr ⟨hmem, _, _, hsplit, hbefore⟩]

theorem run_build_of_not_obstacle
    (h : ¬ ∃ error, t.Obstacle (m.ask session.attempts Command.listNamespaces) error) :
    (m.build t).run.run session =
      (m.sink.takeAll 0 t.plan).run.run
        ⟨session.attempts ++ [m.ask session.attempts Command.listNamespaces],
          session.executed⟩ := by
  obtain ⟨names, hlists, hfree⟩ := Topology.exists_lists_of_not_obstacle h
  obtain ⟨stdout, stderr, houtcome, hparse⟩ := Outcome.lists_iff.mp hlists
  rw [run_build, run_existing_of_exited houtcome, hparse]
  simp only [Except.mapError, hfree]

end Machine

/-! ## The run -/

namespace Topology

theorem run_execute_of_ok {t : Topology} (hv : t.validate = .ok ()) (s : Surroundings) :
    (t.run .execute s).result = ((s.machine.build t).run.run {}).1.mapError .execution ∧
      (t.run .execute s).session = ((s.machine.build t).run.run {}).2 := by
  rw [run, hv]
  exact ⟨rfl, rfl⟩

/-- What a run attempts, returns and counts, for every topology and every machine. -/
theorem run_execute_account (t : Topology) (s : Surroundings) :
    (∀ violation, t.validate = .error violation →
      (t.run .execute s).result = .error (.invalid violation) ∧
      (t.run .execute s).session = {}) ∧
    (t.validate = .ok () → ∃ listing : Attempt,
      listing.command = ["ip", "netns", "list"] ∧
      listing.outcome = s.machine.answer [] listing.command ∧
      (∀ error, t.Obstacle listing error →
        (t.run .execute s).result = .error (.execution error) ∧
        (t.run .execute s).session = { attempts := [listing] }) ∧
      ((¬ ∃ error, t.Obstacle listing error) → ∃ attempts result,
        (t.run .execute s).session.attempts = listing :: attempts ∧
        s.machine.Answered (listing :: attempts) ∧
        Account t.plan attempts result (t.run .execute s).session.executed ∧
        (t.run .execute s).result = result.mapError .execution)) := by
  refine ⟨fun violation hv => ?_, fun hv => ?_⟩
  · rw [run, hv]
    exact ⟨rfl, rfl⟩
  · obtain ⟨hresult, hsession⟩ := run_execute_of_ok hv s
    rw [hresult, hsession]
    refine ⟨s.machine.ask [] Command.listNamespaces, rfl, rfl, fun error h => ?_, fun h => ?_⟩
    · rw [Machine.run_build_of_obstacle h]
      exact ⟨rfl, rfl⟩
    · rw [Machine.run_build_of_not_obstacle h]
      obtain ⟨attempts, result, executed, hrun, hanswered, haccount⟩ :=
        Machine.run_takeAll_account t.plan ⟨[] ++ [s.machine.ask [] Command.listNamespaces], 0⟩
          (s.machine.answered_nil.append_ask Command.listNamespaces)
      rw [hrun]
      refine ⟨attempts, result, rfl, hanswered, ?_, rfl⟩
      rwa [Nat.zero_add]

end Topology

/-- Has a namespace of its own, and refuses the third operation it is asked for. -/
def Machine.reluctant : Machine := fun past command =>
  if command = ["ip", "netns", "list"] then .exited (some 0) (Text.bytes "Z (id: 1)\n") []
  else if past.length = 3 then .exited (some 2) [] (Text.bytes " Busy.\n")
  else .exited (some 0) [] []

namespace Topology

theorem not_obstacle_reluctant :
    ¬ ∃ error, twoRouterLan.Obstacle
      ⟨["ip", "netns", "list"], Machine.reluctant.answer [] ["ip", "netns", "list"]⟩ error := by
  have hparse : Listing.parse (Text.decodeLossy (Text.bytes "Z (id: 1)\n")) = .ok ["Z"] := by
    rw [Text.decodeLossy_bytes]
    rfl
  have hlists : (Machine.reluctant.answer [] ["ip", "netns", "list"]).Lists ["Z"] :=
    Outcome.lists_iff.mpr ⟨_, _, rfl, hparse⟩
  exact not_obstacle_of_lists hlists (by decide)

theorem run_execute_account_reluctant :
    twoRouterLan.validate = .ok () ∧
      (¬ ∃ error, twoRouterLan.Obstacle
        ⟨["ip", "netns", "list"], Machine.reluctant.answer [] ["ip", "netns", "list"]⟩ error) ∧
      ∃ listing attempts result,
        (twoRouterLan.run .execute ⟨Machine.reluctant, none⟩).session.attempts =
          listing :: attempts ∧
        Machine.reluctant.Answered (listing :: attempts) ∧
        Account twoRouterLan.plan attempts result
          (twoRouterLan.run .execute ⟨Machine.reluctant, none⟩).session.executed ∧
        (twoRouterLan.run .execute ⟨Machine.reluctant, none⟩).result =
          result.mapError .execution := by
  have hv : twoRouterLan.validate = .ok () := rfl
  obtain ⟨⟨command, outcome⟩, hcommand, houtcome, -, hclear⟩ :=
    (run_execute_account twoRouterLan ⟨Machine.reluctant, none⟩).2 hv
  obtain rfl : command = ["ip", "netns", "list"] := hcommand
  obtain rfl : outcome = Machine.reluctant.answer [] ["ip", "netns", "list"] := houtcome
  exact ⟨hv, not_obstacle_reluctant, _, hclear not_obstacle_reluctant⟩

end Topology

end Testbed
