import Testbed.Document
import Testbed.OperatingMode
import Testbed.Run

/-!
# Errors in full

A message is for reading. When a program ends in an error, the error is shown in
full instead: its name and everything it carries, as a name with parts in
parentheses or with named parts in braces, one inside the other. Texts are
quoted, so that where a part begins and ends is never in doubt.
-/

namespace Testbed.Detail

def tuple (name : String) (parts : List String) : String :=
  name ++ "(" ++ ", ".intercalate parts ++ ")"

def record (name : String) (parts : List (String × String)) : String :=
  name ++ " \x7b " ++ ", ".intercalate (parts.map fun p => p.1 ++ ": " ++ p.2) ++ " \x7d"

/-- An error that the system has a number for. -/
def numbered (code : Nat) (kind message : String) : String :=
  record "Os" [("code", toString code), ("kind", kind), ("message", Text.quoted message)]

/-- An error that the system has no number for. -/
def unnumbered (kind message : String) : String :=
  record "Error" [("kind", kind), ("message", Text.quoted message)]

def notFound : String :=
  numbered 2 "NotFound" "No such file or directory"

end Testbed.Detail

namespace Testbed

open Detail Text

def Addressing.detail : Addressing → String
  | bridged address => tuple "Bridge" [quoted address]
  | pointToPoint block => tuple "PointToPoint" [quoted block]

def Violation.detail : Violation → String
  | invalidName name => tuple "InvalidName" [quoted name]
  | duplicateName name => tuple "DuplicateName" [quoted name]
  | unknownEndpoint i name =>
    record "UnknownEndpoint" [("circuit", toString i), ("name", quoted name)]
  | segmentInitiates i name =>
    record "SegmentInitiatesCircuit" [("circuit", toString i), ("name", quoted name)]
  | selfLoop i name => record "SelfLoop" [("circuit", toString i), ("name", quoted name)]
  | addressingMismatch i b addressing =>
    record "AddressKindMismatch"
      [("circuit", toString i), ("b", quoted b), ("address", addressing.detail)]
  | invalidAddress i address =>
    record "InvalidAddress" [("circuit", toString i), ("address", quoted address)]
  | interfaceCollision name first second =>
    record "InterfaceNameCollision"
      [("name", quoted name), ("first", toString first), ("second", toString second)]
  | interfaceTooLong name => tuple "InterfaceNameTooLong" [quoted name]

def Fault.detail : Fault → String
  | namespaceExists ns => tuple "NamespaceExists" [quoted ns]
  | unknownNamespace ns => tuple "UnknownNamespace" [quoted ns]
  | interfaceExists ns interface =>
    record "InterfaceExists" [("namespace", quoted ns), ("interface", quoted interface)]
  | unknownInterface ns interface =>
    record "UnknownInterface" [("namespace", quoted ns), ("interface", quoted interface)]
  | bridgeExists ns bridge =>
    record "BridgeExists" [("namespace", quoted ns), ("bridge", quoted bridge)]
  | unknownBridge ns bridge =>
    record "UnknownBridge" [("namespace", quoted ns), ("bridge", quoted bridge)]
  | addressExists ns interface address =>
    record "AddressExists"
      [("namespace", quoted ns), ("interface", quoted interface), ("address", quoted address)]

def StartFailure.detail : StartFailure → String
  | notFound => Detail.notFound
  | nulInArgument => unnumbered "InvalidInput" nulInArgument.message

def ExecutionError.detail : ExecutionError → String
  | cannotStart reason => tuple "Io" [reason.detail]
  | commandFailed line status stderr =>
    record "CommandFailed"
      [("command", quoted line), ("status", statusText status), ("stderr", quoted stderr)]
  | namespaceCollision name => tuple "NamespaceCollision" [quoted name]
  | unexpectedListing line => tuple "UnexpectedNamespaceListing" [quoted line]

def WriteFailure.detail : WriteFailure → String
  | full => unnumbered "WriteZero" full.message

def RunError.detail : RunError → String
  | invalid violation => tuple "ValidationError" [violation.detail]
  | refused fault => tuple "SinkError" [fault.detail]
  | execution error => tuple "ExecError" [error.detail]
  | output failure => tuple "Io" [failure.detail]

def Json.ReadError.detail (e : Json.ReadError) : String :=
  tuple "Error" [quoted e.cause.describe, "line: " ++ toString e.position.line,
    "column: " ++ toString e.position.column]

def FileFailure.detail : FileFailure → String
  | notFound => Detail.notFound
  | accessDenied => numbered 13 "PermissionDenied" "Permission denied"
  | notDirectory => numbered 20 "NotADirectory" "Not a directory"
  | isDirectory => numbered 21 "IsADirectory" "Is a directory"
  | nameTooLong => numbered 36 "InvalidFilename" "File name too long"
  | notText => unnumbered "InvalidData" notText.message

def LoadError.detail : LoadError → String
  | unreadable failure => tuple "Io" [failure.detail]
  | malformed error => tuple "Json" [error.detail]

def OperatingMode.detail : OperatingMode → String
  | create => "Create"
  | destroy => "Destroy"

def ModeError.detail : ModeError → String
  | unknown text => tuple "UnknownMode" [quoted text]
  | unsupported mode => tuple "UnsupportedMode" [mode.detail]

end Testbed
