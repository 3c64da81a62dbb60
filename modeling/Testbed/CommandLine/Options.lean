import Testbed.OperatingMode
import Testbed.Topology.Examples

/-!
# Options of the command line

An option takes a value or none, and it has a long name and most often a short
one. A value stands in the next argument, or behind an equals sign, or right
behind the short name. Short names can share an argument, of which one that takes
a value takes all that is left.

Nothing may be given twice, and nothing but options may be given. The next
argument is not taken for a value if it looks like an option itself. Two dashes
alone end the options, and then nothing more may follow.
-/

namespace Testbed

/-- The topologies that can be asked for by name. -/
inductive Builtin where
  | referenceLab
  | twoRouterLan
  deriving DecidableEq

namespace Builtin

def all : List Builtin := [referenceLab, twoRouterLan]

def name : Builtin → String
  | referenceLab => "reference-lab"
  | twoRouterLan => "two-router-lan"

def topology : Builtin → Topology
  | referenceLab => .referenceLab
  | twoRouterLan => .twoRouterLan

def ofName? (name : String) : Option Builtin :=
  all.find? (·.name = name)

end Builtin

namespace CommandLine

inductive Key where
  | mode
  | topology
  | builtin
  | execute
  | check
  | dumpJson
  deriving DecidableEq

namespace Key

def all : List Key := [mode, topology, builtin, execute, check, dumpJson]

def long : Key → String
  | mode => "mode"
  | topology => "topology"
  | builtin => "example"
  | execute => "execute"
  | check => "check"
  | dumpJson => "dump-json"

def short? : Key → Option Char
  | mode => some 'm'
  | topology => some 't'
  | builtin => some 'e'
  | execute => some 'x'
  | check => some 'c'
  | dumpJson => none

def takesValue : Key → Bool
  | mode | topology | builtin => true
  | execute | check | dumpJson => false

def ofLong? (name : List Char) : Option Key :=
  all.find? (·.long.toList = name)

def ofShort? (c : Char) : Option Key :=
  all.find? (·.short? = some c)

end Key

inductive UsageError where
  | unknownOption (name : String)
  | unexpectedArgument (argument : String)
  | missingValue (key : Key)
  | unexpectedValue (key : Key) (value : String)
  | repeated (key : Key)
  | invalidValue (key : Key) (value : String)
  | conflict (first second : Key)
  deriving DecidableEq

def UsageError.message : UsageError → String
  | unknownOption name => s!"unknown option: {name}"
  | unexpectedArgument argument => s!"unexpected argument: {argument}"
  | missingValue key => s!"--{key.long} needs a value"
  | unexpectedValue key value => s!"--{key.long} takes no value: {value}"
  | repeated key => s!"--{key.long} is given more than once"
  | invalidValue key value => s!"--{key.long} cannot be {value}"
  | conflict first second => s!"--{first.long} and --{second.long} cannot both be given"

/-- An option and its value, which is empty if it takes none. -/
structure Given where
  key : Key
  value : String := ""
  deriving DecidableEq

/-- What an argument gives, and the option that waits for the next argument. -/
structure Reading where
  given : List Given := []
  pending : Option Key := none

/-- An argument with two dashes, which are left out here. -/
def readLong (text : List Char) : Except UsageError Reading :=
  let name := text.takeWhile (· ≠ '=')
  match Key.ofLong? name with
  | none => .error (.unknownOption (String.ofList name))
  | some key =>
    match text.dropWhile (· ≠ '='), key.takesValue with
    | [], true => .ok { pending := some key }
    | [], false => .ok { given := [⟨key, ""⟩] }
    | _ :: value, true => .ok { given := [⟨key, String.ofList value⟩] }
    | _ :: value, false => .error (.unexpectedValue key (String.ofList value))

/-- An argument with one dash, which is left out here. -/
def readShort : List Char → Except UsageError Reading
  | [] => .ok {}
  | c :: cs =>
    match Key.ofShort? c with
    | none => .error (.unknownOption (String.singleton c))
    | some key =>
      if key.takesValue then
        match cs with
        | [] => .ok { pending := some key }
        | '=' :: value => .ok { given := [⟨key, String.ofList value⟩] }
        | value => .ok { given := [⟨key, String.ofList value⟩] }
      else do
        let more ← readShort cs
        return { more with given := ⟨key, ""⟩ :: more.given }

def readArgument (argument : String) : Except UsageError Reading :=
  match argument.toList with
  | '-' :: '-' :: text => readLong text
  | '-' :: c :: cs => readShort (c :: cs)
  | _ => .error (.unexpectedArgument argument)

/-- A dash alone is a value like any other. -/
def looksLikeOption (argument : String) : Bool :=
  match argument.toList with
  | '-' :: _ :: _ => true
  | _ => false

/-- All options in the order in which they are given. -/
def readArguments : List String → Except UsageError (List Given)
  | [] => .ok []
  | ["--"] => .ok []
  | "--" :: argument :: _ => .error (.unexpectedArgument argument)
  | argument :: rest => do
    let reading ← readArgument argument
    match reading.pending, rest with
    | none, rest => return reading.given ++ (← readArguments rest)
    | some key, [] => throw (.missingValue key)
    | some key, value :: rest =>
      if looksLikeOption value then throw (.missingValue key)
      else return reading.given ++ ⟨key, value⟩ :: (← readArguments rest)

/-! ## The options that were given -/

structure Options where
  mode : OperatingMode := .create
  /-- The path of a document, which goes before the built-in topology. -/
  topology : Option String := none
  builtin : Builtin := .referenceLab
  execute : Bool := false
  check : Bool := false
  dumpJson : Bool := false
  deriving DecidableEq

namespace Options

/-- Adds one option to those before it. -/
def add (o : Options) (g : Given) : Except UsageError Options :=
  match g.key with
  | .mode =>
    match OperatingMode.parse g.value with
    | .ok mode => .ok { o with mode }
    | .error _ => .error (.invalidValue .mode g.value)
  | .topology => .ok { o with topology := some g.value }
  | .builtin =>
    match Builtin.ofName? g.value with
    | some builtin => .ok { o with builtin }
    | none => .error (.invalidValue .builtin g.value)
  | .execute => .ok { o with execute := true }
  | .check => .ok { o with check := true }
  | .dumpJson => .ok { o with dumpJson := true }

def ofGiven (given : List Given) : Except UsageError Options := do
  match Key.all.find? fun key => 1 < (given.map (·.key)).count key with
  | some key => throw (.repeated key)
  | none =>
    let options ← given.foldlM add {}
    if options.execute && options.check then throw (.conflict .execute .check)
    return options

def parse (arguments : List String) : Except UsageError Options := do
  ofGiven (← readArguments arguments)

end Options

end CommandLine

end Testbed
