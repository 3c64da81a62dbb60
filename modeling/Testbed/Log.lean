/-!
# The record of a run

While a lab is built, what happens is recorded in entries, each with a level and
with the part of the program it comes from. An entry is a value like any other:
a run is described by a function that returns its entries in order, next to the
one that returns its result.
-/

namespace Testbed.Log

inductive Level where
  | debug
  | info
  | error
  deriving DecidableEq

def Level.name : Level → String
  | debug => "DEBUG"
  | info => "INFO"
  | error => "ERROR"

inductive Source where
  /-- Handing over the operations of a plan. -/
  | provisioning
  /-- A run as a whole. -/
  | run
  /-- Starting commands on a machine. -/
  | execution
  deriving DecidableEq

def Source.name : Source → String
  | provisioning => "netlab::compiler"
  | run => "netlab_runtime"
  | execution => "netlab_runtime::executor"

structure Entry where
  level : Level
  source : Source
  message : String
  deriving DecidableEq

def Entry.line (e : Entry) : String :=
  s!"{e.level.name} {e.source.name}: {e.message}"

end Testbed.Log
