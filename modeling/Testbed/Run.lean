import Testbed.Machine.Build
import Testbed.Topology.Validation
import Testbed.Writer

/-!
# Runs

A run validates a topology and then does one of three things with its plan: it
prints the commands, it tries the plan on a simulated host, or it builds the lab
on a machine. A topology that is not valid ends every run before it has touched
anything. The three take the same plan, so what the first prints is what the last
carries out.
-/

namespace Testbed

inductive Mode where
  | dryRun
  | check
  | execute
  deriving DecidableEq

inductive RunError where
  | invalid (violation : Violation)
  | refused (fault : Fault)
  | execution (error : ExecutionError)
  | output (failure : WriteFailure)
  deriving DecidableEq

def RunError.message : RunError → String
  | invalid violation => s!"Invalid topology: {violation.message}"
  | refused fault => s!"Check failed: {fault.message}"
  | execution error => s!"Execution failed: {error.message}"
  | output failure => s!"IO error: {failure.message}"

/-- What a run finds around it. -/
structure Surroundings where
  machine : Machine
  /-- How many bytes can be printed; `none` if there is no limit. -/
  outputRoom : Option Nat := none

/-- What a run leaves behind. -/
structure Report where
  /-- The number of operations that were carried out. -/
  result : Except RunError Nat
  printed : List UInt8 := []
  session : Session := {}
  journal : List Log.Entry := []

namespace Topology

def runHeading (t : Topology) : Log.Entry :=
  ⟨.info, .run, s!"Topology with {t.devices.length} devices, {t.segments.length} segments"
    ++ s!" and {t.circuits.length} circuits"⟩

def dryRun (t : Topology) (room : Option Nat) : Report :=
  let w : Writer := { room }
  match (provision t Writer.sink).run.run w with
  | (result, w') =>
    { result := result.mapError .output
      printed := w'.written
      journal := Writer.sink.journalOfProvision t w }

/-- The state of a host without namespaces after the plan, and the number of
operations if it took all of them. -/
def simulate (t : Topology) : Except Fault Nat × Host :=
  (provision t Sink.host).run.run ∅

def checkRun (t : Topology) : Report :=
  match t.simulate with
  | (result, host) =>
    { result := result.mapError .refused
      journal := Sink.host.journalOfProvision t ∅ ++
        match result with
        | .ok applied =>
          [⟨.info, .run, s!"Check passed: {host.namespaces.names.length} namespaces, "
            ++ s!"{applied} operations"⟩]
        | .error _ => [] }

def buildRun (t : Topology) (m : Machine) : Report :=
  match (m.build t).run.run {} with
  | (result, session) =>
    { result := result.mapError .execution
      session
      journal :=
        match m.existing.run.run {} with
        | (.ok names, listed) =>
          if (t.collision? names).isSome then []
          else
            m.sink.journalOfProvision t listed ++
              match result with
              | .ok _ => [⟨.info, .run, s!"Executed {session.executed} commands"⟩]
              | .error _ => []
        | (.error _, _) => [] }

def run (t : Topology) (mode : Mode) (s : Surroundings) : Report :=
  match t.validate with
  | .error violation => { result := .error (.invalid violation) }
  | .ok () =>
    let report :=
      match mode with
      | .dryRun => t.dryRun s.outputRoom
      | .check => t.checkRun
      | .execute => t.buildRun s.machine
    { report with journal := t.runHeading :: report.journal }

end Topology

/-! ## The simulated host on its own -/

inductive CheckError where
  | invalid (violation : Violation)
  | refused (fault : Fault)
  deriving DecidableEq

def CheckError.message : CheckError → String
  | invalid violation => s!"Invalid topology: {violation.message}"
  | refused fault => s!"Cannot apply operation: {fault.message}"

/-- The host a valid topology describes. -/
def Topology.check (t : Topology) : Except CheckError Host := do
  t.validate.mapError .invalid
  match t.simulate with
  | (.ok _, host) => return host
  | (.error fault, _) => throw (.refused fault)

end Testbed
