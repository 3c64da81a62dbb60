import Testbed.FileTree
import Testbed.Json.Form
import Testbed.Json.Printer
import Testbed.Topology.Basic

/-!
# Topologies as documents

A document lists the devices, the segments and the circuits of a topology, and it
is written as an object with these three members. It says of a circuit where it
leads and which address was given, and not how the address is meant: that follows
from whether the circuit leads to a segment, and since the lists are complete
before a circuit is looked at, their order in the document does not matter.

A document that leaves a list out has an empty one. An entry for a circuit has to
be complete.
-/

namespace Testbed

structure Document.Entry where
  a : String
  b : String
  address : String
  deriving DecidableEq

structure Document where
  devices : List String := []
  segments : List String := []
  circuits : List Document.Entry := []
  deriving DecidableEq

namespace Document.Entry

/-- An entry that is being read. -/
structure Draft where
  a : Option String := none
  b : Option String := none
  address : Option String := none

def form : Json.Form Draft Entry where
  title := "struct CircuitEntry"
  fields := [
    .option "a" (·.a) (fun a d => { d with a := some a }) .string,
    .option "b" (·.b) (fun b d => { d with b := some b }) .string,
    .option "address" (·.address) (fun x d => { d with address := some x }) .string]
  blank := {}
  finish
    | ⟨none, _, _⟩ => .error "a"
    | ⟨some _, none, _⟩ => .error "b"
    | ⟨some _, some _, none⟩ => .error "address"
    | ⟨some a, some b, some address⟩ => .ok ⟨a, b, address⟩

def print (depth : Nat) (entry : Entry) : List Char :=
  Json.printObject depth [
    Json.printMember "a" (Json.printString entry.a),
    Json.printMember "b" (Json.printString entry.b),
    Json.printMember "address" (Json.printString entry.address)]

end Document.Entry

namespace Document

/-- A document that is being read. -/
structure Draft where
  devices : Option (List String) := none
  segments : Option (List String) := none
  circuits : Option (List Entry) := none

def form : Json.Form Draft Document where
  title := "struct TopologyFile"
  fields := [
    .option "devices" (·.devices) (fun x d => { d with devices := some x }) Json.Reader.string.list,
    .option "segments" (·.segments) (fun x d => { d with segments := some x })
      Json.Reader.string.list,
    .option "circuits" (·.circuits) (fun x d => { d with circuits := some x })
      Entry.form.reader.list]
  blank := {}
  finish d := .ok ⟨d.devices.getD [], d.segments.getD [], d.circuits.getD []⟩

def parse (text : String) : Except Json.ReadError Document :=
  form.reader.parse text

def print (d : Document) : String :=
  String.ofList <|
    Json.printObject 0 [
      Json.printMember "devices" (Json.printList 1 (d.devices.map Json.printString)),
      Json.printMember "segments" (Json.printList 1 (d.segments.map Json.printString)),
      Json.printMember "circuits" (Json.printList 1 (d.circuits.map (Entry.print 2)))]

/-- The topology that is described, whose circuits are connected after everything
else was declared. -/
def toTopology (d : Document) : Topology :=
  d.circuits.foldl (fun t entry => t.connect entry.a entry.b entry.address)
    { devices := d.devices, segments := d.segments }

def ofTopology (t : Topology) : Document where
  devices := t.devices
  segments := t.segments
  circuits := t.circuits.map fun c => ⟨c.a, c.b, c.addressing.text⟩

end Document

/-! ## Topologies in files -/

inductive LoadError where
  | unreadable (failure : FileFailure)
  | malformed (error : Json.ReadError)
  deriving DecidableEq

def LoadError.message : LoadError → String
  | unreadable failure => s!"Cannot read the topology file: {failure.message}"
  | malformed error => s!"Cannot parse the topology: {error.message}"

namespace Topology

def parse (text : String) : Except LoadError Topology :=
  match Document.parse text with
  | .ok d => .ok d.toTopology
  | .error e => .error (.malformed e)

/-- The topology in a file, given what reading the file comes to. -/
def load : Except FileFailure (List UInt8) → Except LoadError Topology
  | .error failure => .error (.unreadable failure)
  | .ok content =>
    match Text.decode? content with
    | some text => parse text
    | none => .error (.unreadable .notText)

def print (t : Topology) : String :=
  (Document.ofTopology t).print

end Topology

end Testbed
