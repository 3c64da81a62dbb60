import Testbed.Command

/-!
# Machines that run commands

A machine is known by its answers alone. Asked to run a command, it either fails
to start it or lets it run to its end, and then there is a status and what was
printed. The answer may depend on everything the machine was asked before, so a
machine is a function of the past attempts and the command.

One answer is not the machine's to give. An argument ends at its first zero
byte, so a command that has one inside an argument cannot be handed over at all.
-/

namespace Testbed

inductive StartFailure where
  | notFound
  | nulInArgument
  deriving DecidableEq

def StartFailure.message : StartFailure → String
  | notFound => "No such file or directory (os error 2)"
  | nulInArgument => "nul byte found in provided data"

inductive Outcome where
  | notStarted (reason : StartFailure)
  /-- There is no status if the command was killed. -/
  | exited (status : Option Nat) (stdout stderr : List UInt8)
  deriving DecidableEq

structure Attempt where
  command : Command
  outcome : Outcome
  deriving DecidableEq

def Attempt.started (a : Attempt) : Bool :=
  match a.outcome with
  | .notStarted _ => false
  | .exited .. => true

/-- What a machine answers, given the attempts so far, oldest first. -/
abbrev Machine := List Attempt → Command → Outcome

/-- The attempts made on a machine, and how many operations were carried out. -/
structure Session where
  attempts : List Attempt := []
  executed : Nat := 0
  deriving DecidableEq

namespace Session

/-- The commands that came to run. -/
def ran (s : Session) : List Command :=
  (s.attempts.filter (·.started)).map (·.command)

end Session

namespace Machine

def answer (m : Machine) (past : List Attempt) (command : Command) : Outcome :=
  if command.any fun argument => '\x00' ∈ argument.toList then .notStarted .nulInArgument
  else m past command

/-- Asks the machine to run a command and remembers the attempt. -/
def attempt (m : Machine) (command : Command) : StateM Session Outcome := do
  let outcome := m.answer (← get).attempts command
  modify fun session => { session with attempts := session.attempts ++ [⟨command, outcome⟩] }
  return outcome

end Machine

end Testbed
