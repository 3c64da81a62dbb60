import Testbed.Operation

/-!
# The commands that carry operations out

Every operation is one call of `ip`, given as its arguments with the program in
front. What happens inside a namespace is run there by `ip netns exec`, and the
two settings that have no subcommand of their own are made by a loop of the
shell over the files of the kernel.

A command is also shown as a line. An argument with a space in it is put between
double quotes; no other character is looked for, and what is between the quotes stays
as it is.
-/

namespace Testbed

/-- The arguments of a command, the program first. -/
abbrev Command := List String

namespace Command

/-- Sets one value for all interfaces the namespace has when the loop runs. -/
def settingLoop (value file : String) : String :=
  "for i in /proc/sys/net/ipv4/conf/*; do echo " ++ value ++ " > $i/" ++ file ++ "; done"

def inNamespace (ns : String) (command : Command) : Command :=
  ["ip", "netns", "exec", ns] ++ command

def ofOperation : Operation → Command
  | .createNamespace name => ["ip", "netns", "add", name]
  | .createBridge ns bridge =>
    inNamespace ns ["ip", "link", "add", "name", bridge, "type", "bridge"]
  | .setUp ns interface => inNamespace ns ["ip", "link", "set", "up", "dev", interface]
  | .enableForwarding ns => inNamespace ns ["bash", "-c", settingLoop "1" "forwarding"]
  | .disableReversePathFilter ns => inNamespace ns ["bash", "-c", settingLoop "0" "rp_filter"]
  | .createVethPair left right =>
    ["ip", "link", "add", left, "type", "veth", "peer", "name", right]
  | .move interface ns => ["ip", "link", "set", interface, "netns", ns]
  | .attach ns interface bridge =>
    inNamespace ns ["ip", "link", "set", interface, "master", bridge]
  | .assign ns interface address =>
    inNamespace ns ["ip", "addr", "add", address, "dev", interface]

/-- Prints the names of the namespaces a machine has. -/
def listNamespaces : Command := ["ip", "netns", "list"]

def word (argument : String) : String :=
  if ' ' ∈ argument.toList then "\"" ++ argument ++ "\"" else argument

def line (command : Command) : String :=
  " ".intercalate (command.map word)

theorem line_eq (command : Command) :
    command.line = " ".intercalate (command.map fun argument =>
      if ' ' ∈ argument.toList then "\"" ++ argument ++ "\"" else argument) := rfl

end Command

/-- The operations as commands, one to a line. -/
def script (operations : List Operation) : String :=
  String.join (operations.map fun op => (Command.ofOperation op).line ++ "\n")

theorem script_cons (op : Operation) (ops : List Operation) :
    script (op :: ops) = (Command.ofOperation op).line ++ "\n" ++ script ops := by
  rw [script, List.map_cons, String.join_cons, script]

end Testbed
