import Testbed.CommandLine.Program
import Testbed.Proofs.RoundTrip
import Testbed.Proofs.ZeroBytes

/-!
# Running on a dump

A topology that comes from a document is printed as a document of its own, which says the
same in a layout that is always the same. The document leaves out how the address of a
circuit is meant, and for most topologies that is a loss. It is none for a topology that was
read: its circuits were connected by a reader, so how an address is meant is what a reader
makes of it, and connecting the circuits again changes nothing (`reconnected_toTopology`).

So whoever has the printed document has the topology, and a program that depends on a file
by nothing but the topology in it cannot tell the two files apart.
-/

namespace Testbed

/-! ## Topologies that were read -/

namespace Topology

variable {text : String} {t : Topology}

theorem reconnected_toTopology (d : Document) : d.toTopology.reconnected = d.toTopology := by
  rw [reconnected_eq_self_iff, Document.toTopology, foldl_connect]
  intro c hc
  obtain ⟨entry, -, rfl⟩ := List.mem_map.mp hc
  by_cases hb : entry.b ∈ d.segments <;> simp [addressingTo, hb, Addressing.isBridged]

theorem exists_toTopology_of_parse (h : parse text = .ok t) : ∃ d : Document, d.toTopology = t := by
  rw [parse] at h
  split at h
  · next d _ => exact ⟨d, Except.ok.inj h⟩
  · cases h

/-- A topology that was read is read again from what it is printed as. -/
theorem parse_print_append_of_parse (h : parse text = .ok t) {gap : String}
    (hgap : Json.Blank gap.toList) : parse (t.print ++ gap) = .ok t := by
  obtain ⟨d, rfl⟩ := exists_toTopology_of_parse h
  rw [parse_print_append _ hgap, reconnected_toTopology]

theorem load_bytes (text : String) : load (.ok (Text.bytes text)) = parse text := by
  simp only [load, Text.decode?_bytes]

end Topology

/-! ## Programs that run on a file -/

namespace CommandLine

variable {o : Options} {arguments : List String} {files : Files} {path text : String} {t : Topology}

theorem Options.run_of_parse (hpath : o.topology = some path)
    (hfile : files path = .ok (Text.bytes text)) (h : Topology.parse text = .ok t)
    (machine : Machine) : o.run files machine = o.runOn t machine := by
  have hload : o.load files = .ok t := by
    rw [Options.load, hpath]
    show Topology.load (files path) = .ok t
    rw [hfile, Topology.load_bytes, h]
  rw [Options.run, hload]

theorem program_of_parse (ho : Options.parse arguments = .ok o) (hpath : o.topology = some path)
    (hfile : files path = .ok (Text.bytes text)) (h : Topology.parse text = .ok t)
    (machine : Machine) : program arguments files machine = o.runOn t machine := by
  rw [program, ho]
  exact Options.run_of_parse hpath hfile h machine

theorem program_dump (ho : Options.parse arguments = .ok o) (hdump : o.dumpJson = true)
    (hpath : o.topology = some path) (hfile : files path = .ok (Text.bytes text))
    (h : Topology.parse text = .ok t) (machine : Machine) :
    program arguments files machine = { status := 0, stdout := Text.bytes (t.print ++ "\n") } := by
  rw [program_of_parse ho hpath hfile h, Options.runOn, if_pos hdump]

theorem stdout_program_dump (ho : Options.parse arguments = .ok o) (hdump : o.dumpJson = true)
    (hpath : o.topology = some path) (hfile : files path = .ok (Text.bytes text))
    (h : Topology.parse text = .ok t) (machine : Machine) :
    (program arguments files machine).stdout = Text.bytes (t.print ++ "\n") := by
  rw [program_dump ho hdump hpath hfile h]

/-- What is printed of a topology in a file is a file with the same topology. Whatever else
is asked of the program, be it to print once more, it does the same with the one file as
with the other. -/
theorem program_on_dump (text : String) (t : Topology) (h : Topology.parse text = .ok t) :
    Topology.parse (t.print ++ "\n") = .ok t ∧
    ∀ (dump before after : List String) (d o : Options) (files files' : Files)
      (path path' : String) (machine machine' : Machine),
      Options.parse dump = .ok { d with topology := some path, dumpJson := true } →
      Options.parse before = .ok { o with topology := some path } →
      Options.parse after = .ok { o with topology := some path' } →
      files path = .ok (Text.bytes text) →
      files' path' = .ok (program dump files machine).stdout →
      program dump files machine = { status := 0, stdout := Text.bytes (t.print ++ "\n") } ∧
        program after files' machine' = program before files machine' := by
  have hagain : Topology.parse (t.print ++ "\n") = .ok t :=
    Topology.parse_print_append_of_parse h (by decide)
  refine ⟨hagain, fun dump before after d o files files' path path' machine machine' hdump hbefore
    hafter hfile hfile' => ?_⟩
  have hdumped := program_dump hdump rfl rfl hfile h machine
  have hprinted := stdout_program_dump hdump rfl rfl hfile h machine
  refine ⟨hdumped, ?_⟩
  have hbefore := program_of_parse hbefore rfl hfile h machine'
  have hafter := program_of_parse hafter rfl (hfile'.trans (congrArg Except.ok hprinted)) hagain
    machine'
  -- What is done with a topology does not depend on the path it was read from.
  exact hafter.trans hbefore.symm

/-- A document and what is printed of it, side by side. -/
def scatteredFiles : Files := fun path =>
  if path = "lab.json" then .ok (Text.bytes Topology.scattered)
  else .ok (Text.bytes (Topology.gathered.toTopology.print ++ "\n"))

theorem program_on_dump_scattered :
    Topology.parse Topology.scattered = .ok Topology.gathered.toTopology ∧
    scatteredFiles "dump.json" =
      .ok (program ["-t", "lab.json", "--dump-json"] scatteredFiles .obliging).stdout ∧
    program ["-x", "-t", "dump.json"] scatteredFiles .obliging =
      program ["-x", "-t", "lab.json"] scatteredFiles .obliging := by
  have hparse := Topology.parse_of_writesWhole Topology.writesWhole_scattered
  have hdump : Options.parse ["-t", "lab.json", "--dump-json"] =
      .ok { topology := some "lab.json", dumpJson := true } := by decide +kernel
  have hbefore : Options.parse ["-x", "-t", "lab.json"] =
      .ok { topology := some "lab.json", execute := true } := by decide +kernel
  have hafter : Options.parse ["-x", "-t", "dump.json"] =
      .ok { topology := some "dump.json", execute := true } := by decide +kernel
  have hfile : scatteredFiles "lab.json" = .ok (Text.bytes Topology.scattered) := if_pos rfl
  have hfile' : scatteredFiles "dump.json" =
      .ok (program ["-t", "lab.json", "--dump-json"] scatteredFiles .obliging).stdout := by
    have hother : ¬ "dump.json" = "lab.json" := by decide
    rw [stdout_program_dump hdump rfl rfl hfile hparse]
    exact if_neg hother
  refine ⟨hparse, hfile', ?_⟩
  exact ((program_on_dump _ _ hparse).2 _ _ _ {} { execute := true } scatteredFiles scatteredFiles
    "lab.json" "dump.json" .obliging .obliging hdump hbefore hafter hfile hfile').2

end CommandLine

end Testbed
