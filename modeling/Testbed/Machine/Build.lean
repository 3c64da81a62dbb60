import Testbed.Listing
import Testbed.Machine.Basic
import Testbed.Sink
import Testbed.Text.Quoted
import Testbed.Text.Utf8

/-!
# Building a lab on a machine

As a sink of operations, a machine is asked to run the command of each. It has
carried the operation out if the command ends with status zero; nothing is undone
when one does not.

Before the first operation the machine is asked which namespaces it has. A lab
whose namespaces are partly there already would fail halfway, so finding one of
them is a reason not to begin.
-/

namespace Testbed

inductive ExecutionError where
  | cannotStart (reason : StartFailure)
  | commandFailed (line : String) (status : Option Nat) (stderr : String)
  | namespaceCollision (name : String)
  | unexpectedListing (line : String)
  deriving DecidableEq

/-- An optional exit status as messages show it. -/
def statusText : Option Nat → String
  | some status => s!"Some({status})"
  | none => "None"

def ExecutionError.message : ExecutionError → String
  | cannotStart reason => s!"Cannot run command: {reason.message}"
  | commandFailed line status stderr =>
    s!"Command `{line}` failed with status {statusText status}: {stderr}"
  | namespaceCollision name => s!"Namespace {name} already exists on the host"
  | unexpectedListing line => s!"Unexpected line in the namespace list: {Text.quoted line}"

/-- What a command printed, as text without the blanks around it. -/
def printedText (bytes : List UInt8) : String :=
  String.ofList (Text.trim (Text.decodeLossy bytes).toList)

theorem printedText_eq_iff {bytes : List UInt8} {text : String} :
    printedText bytes = text ↔ Text.Trims (Text.decodeLossy bytes).toList text.toList := by
  rw [← String.toList_inj, printedText, String.toList_ofList, Text.trim_eq_iff]

namespace Machine

/-- What a command prints, which has to succeed. -/
def output (m : Machine) (command : Command) :
    ExceptT ExecutionError (StateM Session) (List UInt8) := do
  match ← m.attempt command with
  | .notStarted reason => throw (.cannotStart reason)
  | .exited (some 0) stdout _ => return stdout
  | .exited status _ stderr => throw (.commandFailed command.line status (printedText stderr))

def sink (m : Machine) : Sink ExecutionError Session where
  apply op := do
    let _ ← m.output (Command.ofOperation op)
    modify fun s => { s with executed := s.executed + 1 }
  journal op session :=
    let command := Command.ofOperation op
    let starting : Log.Entry := ⟨.debug, .execution, s!"executing: {command.line}"⟩
    match m.answer session.attempts command with
    | .notStarted _ | .exited (some 0) _ _ => [starting]
    | .exited _ _ stderr =>
      [starting, ⟨.error, .execution, s!"`{command.line}` failed: {printedText stderr}"⟩]

/-- The namespaces the machine has. -/
def existing (m : Machine) : ExceptT ExecutionError (StateM Session) (List String) := do
  match Listing.parse (Text.decodeLossy (← m.output Command.listNamespaces)) with
  | .ok names => return names
  | .error line => throw (.unexpectedListing line)

/-- Provisions a topology none of whose namespaces exists yet. -/
def build (m : Machine) (t : Topology) : ExceptT ExecutionError (StateM Session) Nat := do
  match t.collision? (← m.existing) with
  | some name => throw (.namespaceCollision name)
  | none => provision t m.sink

end Machine

end Testbed
