import Testbed.Topology.Basic

/-!
# Two labs to begin with

Both are built in, so that there is something to try without a file.
-/

namespace Testbed.Topology

/-- Six routers and two hosts on two segments. -/
def referenceLab : Topology where
  devices := ["S1", "S2", "R1", "R2", "R3", "R4", "R5", "R6"]
  segments := ["LANA", "LANB"]
  circuits := [
    ⟨"S1", "LANA", .bridged "192.168.100.100/24"⟩,
    ⟨"R1", "LANA", .bridged "192.168.100.1/24"⟩,
    ⟨"R2", "LANA", .bridged "192.168.100.2/24"⟩,
    ⟨"R1", "R2", .pointToPoint "192.168.1."⟩,
    ⟨"R1", "R3", .pointToPoint "192.168.2."⟩,
    ⟨"R2", "R4", .pointToPoint "192.168.3."⟩,
    ⟨"R1", "R4", .pointToPoint "192.168.4."⟩,
    ⟨"R2", "R3", .pointToPoint "192.168.5."⟩,
    ⟨"R3", "R5", .pointToPoint "192.168.6."⟩,
    ⟨"R4", "R6", .pointToPoint "192.168.7."⟩,
    ⟨"R3", "R6", .pointToPoint "192.168.8."⟩,
    ⟨"R4", "R5", .pointToPoint "192.168.9."⟩,
    ⟨"R5", "R6", .pointToPoint "192.168.10."⟩,
    ⟨"S2", "LANB", .bridged "192.168.200.100/24"⟩,
    ⟨"R5", "LANB", .bridged "192.168.200.1/24"⟩,
    ⟨"R6", "LANB", .bridged "192.168.200.2/24"⟩]

/-- Two routers, one of them attached to a segment. -/
def twoRouterLan : Topology where
  devices := ["X", "Y"]
  segments := ["L"]
  circuits := [
    ⟨"X", "L", .bridged "10.0.0.1/24"⟩,
    ⟨"X", "Y", .pointToPoint "10.0.1."⟩]

end Testbed.Topology
