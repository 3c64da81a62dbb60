import Testbed.CommandLine.Options
import Testbed.Detail

/-!
# The program behind the command line

What the program does is a function of its arguments, of what reading a path comes
to, and of the machine it runs on. It takes a topology from a file or takes one that
is built in, and it either prints it as a document or runs it. Errors end the
program with status one and are shown in full, after whatever else went wrong on
the way; arguments that cannot be understood end it with status two.

The environment can ask for more of the record to be shown. Here it is assumed to ask for
nothing, and then errors are shown and no entry below them. Two entries of the program
itself are below: that it reads a file, with the path, and that it has carried out its
operations, with their number. Nothing would come of them, so they are not in the record.
-/

namespace Testbed.CommandLine

/-- What reading each path comes to. -/
abbrev Files := String → Except FileFailure (List UInt8)

structure Exit where
  status : Nat
  stdout : List UInt8 := []
  stderr : String := ""
  session : Session := {}

/-- An entry of the record as it is shown while the program runs. -/
def alert (e : Log.Entry) : String :=
  s!" {e.level.name} {e.source.name} > {e.message}\n"

/-- What is shown of a record where the environment asks for no level: errors and nothing
below them. -/
def alerts (journal : List Log.Entry) : String :=
  String.join ((journal.filter (·.level = .error)).map alert)

def failure (detail : String) : Exit :=
  { status := 1, stderr := s!"Error: {detail}\n" }

namespace Options

/-- The topology that is asked for. That a file is read for it is not recorded. -/
def load (o : Options) (files : Files) : Except LoadError Topology :=
  match o.topology with
  | some path => Topology.load (files path)
  | none => .ok o.builtin.topology

def runMode (o : Options) : Mode :=
  if o.execute then .execute else if o.check then .check else .dryRun

/-- Does with a topology what the options say. That a run has succeeded is not recorded. -/
def runOn (o : Options) (t : Topology) (machine : Machine) : Exit :=
  if o.dumpJson then { status := 0, stdout := Text.bytes (t.print ++ "\n") }
  else
    match o.mode with
    | .destroy => failure (ModeError.unsupported .destroy).detail
    | .create =>
      let report := t.run o.runMode { machine }
      match report.result with
      | .ok _ =>
        { status := 0
          stdout := report.printed
          stderr := alerts report.journal
          session := report.session }
      | .error e =>
        { failure e.detail with
          stdout := report.printed
          stderr := alerts report.journal ++ (failure e.detail).stderr
          session := report.session }

def run (o : Options) (files : Files) (machine : Machine) : Exit :=
  match o.load files with
  | .error e => failure e.detail
  | .ok t => o.runOn t machine

end Options

def program (arguments : List String) (files : Files) (machine : Machine) : Exit :=
  match Options.parse arguments with
  | .error e => { status := 2, stderr := s!"error: {e.message}\n" }
  | .ok o => o.run files machine

end Testbed.CommandLine
