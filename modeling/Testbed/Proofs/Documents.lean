import Testbed.Document
import Testbed.Proofs.Layouts
import Testbed.Proofs.Written

/-!
# What a document may look like

A document is described here by what it says and not by how it is read: it is an object
with three lists, whose members may stand in any order and among others that mean
nothing, and an empty list may be left out. Every entry for a circuit is such an object
too, with three strings. Whatever the layout, the topology that is read is the one the
lists describe.

Where a circuit leads decides how its address is meant. It is decided when the lists are
complete, so the order of the lists in the text has no part in it.
-/

namespace Testbed

namespace Document

open Json

variable {text : List Char}

/-! ## Entries -/

namespace Entry

/-- A text that is an entry for a circuit. -/
def Writes (text : List Char) (entry : Entry) : Prop :=
  ∃ a b address, WritesString a entry.a ∧ WritesString b entry.b ∧
    WritesString address entry.address ∧
    WritesRecord ["a", "b", "address"] text [("a", a), ("b", b), ("address", address)]

theorem lawful_form : form.Lawful where
  marks := by
    simp only [form, List.forall_mem_cons]
    exact ⟨Field.marks_option fun _ _ => rfl, Field.marks_option fun _ _ => rfl,
      Field.marks_option fun _ _ => rfl, fun _ h => nomatch h⟩
  apart := by
    simp only [form, List.pairwise_cons, List.forall_mem_cons, List.not_mem_nil, false_implies,
      implies_true, and_true, List.Pairwise.nil]
    refine ⟨⟨Field.apart_option ?_ ?_ ?_, Field.apart_option ?_ ?_ ?_⟩,
      Field.apart_option ?_ ?_ ?_⟩
    all_goals
      intros
      rfl

theorem Writes.takes {entry : Entry} (h : Writes text entry) : form.reader.Takes text entry := by
  obtain ⟨a, b, address, ha, hb, haddress, hrecord⟩ := h
  have hfills : form.Fills {} [("a", a), ("b", b), ("address", address)]
      ⟨entry.a, entry.b, entry.address⟩ :=
    .cons rfl rfl (Field.puts_option (takes_string ha)) <|
    .cons rfl rfl (Field.puts_option (takes_string hb)) <|
    .cons rfl rfl (Field.puts_option (takes_string haddress)) .nil
  exact Form.takes_record lawful_form hrecord hfills rfl

end Entry

/-! ## Documents -/

/-- A text that is a document with these three lists. -/
def Writes (text : List Char) (d : Document) : Prop :=
  ∃ devices segments circuits, WritesSlot WritesString "devices" devices d.devices ∧
    WritesSlot WritesString "segments" segments d.segments ∧
    WritesSlot Entry.Writes "circuits" circuits d.circuits ∧
    WritesRecord ["devices", "segments", "circuits"] text (devices ++ (segments ++ circuits))

theorem lawful_form : form.Lawful where
  marks := by
    simp only [form, List.forall_mem_cons]
    exact ⟨Field.marks_option fun _ _ => rfl, Field.marks_option fun _ _ => rfl,
      Field.marks_option fun _ _ => rfl, fun _ h => nomatch h⟩
  apart := by
    simp only [form, List.pairwise_cons, List.forall_mem_cons, List.not_mem_nil, false_implies,
      implies_true, and_true, List.Pairwise.nil]
    refine ⟨⟨Field.apart_option ?_ ?_ ?_, Field.apart_option ?_ ?_ ?_⟩,
      Field.apart_option ?_ ?_ ?_⟩
    all_goals
      intros
      rfl

theorem Writes.takes {d : Document} (h : Writes text d) : form.reader.Takes text d := by
  obtain ⟨ds, ss, cs, hds, hss, hcs, hrecord⟩ := h
  obtain ⟨devices?, hdevices, hfills⟩ : ∃ x?, x?.getD [] = d.devices ∧
      form.Fills ⟨none, none, none⟩ ds ⟨x?, none, none⟩ :=
    Form.fills_slot (fun x? => (⟨x?, none, none⟩ : Draft)) rfl rfl (fun _ => rfl) takes_string hds
  obtain ⟨segments?, hsegments, hfills'⟩ : ∃ x?, x?.getD [] = d.segments ∧
      form.Fills ⟨devices?, none, none⟩ ss ⟨devices?, x?, none⟩ :=
    Form.fills_slot (fun x? => (⟨devices?, x?, none⟩ : Draft)) rfl rfl (fun _ => rfl) takes_string
      hss
  obtain ⟨circuits?, hcircuits, hfills''⟩ : ∃ x?, x?.getD [] = d.circuits ∧
      form.Fills ⟨devices?, segments?, none⟩ cs ⟨devices?, segments?, x?⟩ :=
    Form.fills_slot (fun x? => (⟨devices?, segments?, x?⟩ : Draft)) rfl rfl (fun _ => rfl)
      Entry.Writes.takes hcs
  have hfinish : form.finish ⟨devices?, segments?, circuits?⟩ =
      .ok ⟨devices?.getD [], segments?.getD [], circuits?.getD []⟩ := rfl
  rw [hdevices, hsegments, hcircuits] at hfinish
  exact Form.takes_record lawful_form hrecord (hfills.append (hfills'.append hfills'')) hfinish

theorem parse_of_writesWhole {text : String} {d : Document} (h : WritesWhole Writes text d) :
    parse text = .ok d := by
  obtain ⟨before, inner, after, hbefore, hafter, hinner, htext⟩ := h
  exact Json.parse_of_writesWhole ⟨before, inner, after, hbefore, hafter, hinner.takes, htext⟩

end Document

/-! ## Topologies -/

namespace Topology

open Json

theorem foldl_connect (t : Topology) (entries : List Document.Entry) :
    entries.foldl (fun t entry => t.connect entry.a entry.b entry.address) t =
      { t with circuits := t.circuits ++ entries.map fun entry =>
          ⟨entry.a, entry.b, t.addressingTo entry.b entry.address⟩ } := by
  induction entries generalizing t with
  | nil => simp
  | cons entry entries ih =>
    rw [List.foldl_cons, ih]
    simp only [connect, addCircuit, List.append_assoc, List.singleton_append, List.map_cons]
    rfl

theorem parse_of_writesWhole {text : String} {d : Document}
    (h : WritesWhole Document.Writes text d) : parse text = .ok d.toTopology := by
  rw [parse, Document.parse_of_writesWhole h]

/-- Whatever the layout of a document, its lists make the topology. -/
theorem parse_of_writes (devices segments : List String) (entries : List Document.Entry)
    (text : String) (h : WritesWhole Document.Writes text ⟨devices, segments, entries⟩) :
    parse text = .ok {
      devices, segments
      circuits := entries.map fun entry =>
        ⟨entry.a, entry.b, if entry.b ∈ segments then .bridged entry.address
          else .pointToPoint entry.address⟩ } := by
  rw [parse_of_writesWhole h]
  simp only [Document.toTopology, foldl_connect, List.nil_append, addressingTo]

/-- A document with its circuits in front of the segments and without devices. -/
def scattered : String := "
  \x7b\"circuits\": [ \x7b\"address\":\"10.0.0.1\\/24\",
    \"note\":[null,\x7b\x7d],\"b\":\"s\",\"a\" :\"r1\"\x7d],\t\"\\u0073egments\":[\"s\"] \x7d "

/-- What is in `scattered`. -/
def gathered : Document where
  segments := ["s"]
  circuits := [⟨"r1", "s", "10.0.0.1/24"⟩]

/-! The pieces of `scattered`, from within. -/

def note : String :=
  "[null,\x7b\x7d]"

def scatteredEntry : String := "\x7b\"address\":\"10.0.0.1\\/24\",
    \"note\":[null,\x7b\x7d],\"b\":\"s\",\"a\" :\"r1\"\x7d"

def scatteredCircuits : String := "[ \x7b\"address\":\"10.0.0.1\\/24\",
    \"note\":[null,\x7b\x7d],\"b\":\"s\",\"a\" :\"r1\"\x7d]"

theorem forall₂_writesChar {cs : List Char} (h : cs.all fun c => c ≠ '"' ∧ c ≠ '\\' ∧ ¬ c < ' ') :
    List.Forall₂ WritesChar (cs.map ([·])) cs := by
  refine List.forall₂_map_left_iff.mpr (List.forall₂_same.mpr fun c hc => ?_)
  obtain ⟨hquote, hbackslash, hcontrol⟩ := of_decide_eq_true (List.all_eq_true.mp h c hc)
  exact .plain hquote hbackslash hcontrol

theorem writesMember_toList (key value : String) {gap gap' : List Char} (hgap : Blank gap)
    (hgap' : Blank gap') :
    WritesMember (printString key ++ (gap ++ ':' :: (gap' ++ value.toList))) (key, value.toList) :=
  ⟨_, gap, gap', writesString_printString key, hgap, hgap', rfl⟩

theorem blank_space : Blank [' '] := by decide

theorem isValue_note : IsValue note.toList := by
  have hnone (container : Container) : IsValue [container.opening, container.closing] :=
    .container container [] (fun _ h => nomatch h) (fun _ h => nomatch h) (.empty blank_nil)
  refine .container .list [([], "null".toList), ([], "\x7b\x7d".toList)] ?_ ?_ ?_
  · simp [Container.IsLabel]
  · simp only [List.forall_mem_cons]
    exact ⟨.null, hnone .object, fun _ h => nomatch h⟩
  · exact .parts (.cons blank_nil blank_nil (.last blank_nil blank_nil))

theorem writes_scatteredEntry :
    Document.Entry.Writes scatteredEntry.toList ⟨"r1", "s", "10.0.0.1/24"⟩ := by
  have haddress : WritesString "\"10.0.0.1\\/24\"".toList "10.0.0.1/24" := by
    have hfront : List.Forall₂ WritesChar _ "10.0.0.1".toList := forall₂_writesChar (by decide)
    have hback : List.Forall₂ WritesChar _ "24".toList := forall₂_writesChar (by decide)
    have hslash := WritesChar.short (by decide : ('/', '/') ∈ shortEscapes)
    exact ⟨_, List.rel_append hfront (.cons hslash hback), rfl⟩
  have hobject : WritesObject scatteredEntry.toList
      [("address", "\"10.0.0.1\\/24\"".toList), ("note", note.toList), ("b", "\"s\"".toList),
        ("a", "\"r1\"".toList)] :=
    have hline : Blank ['\n', ' ', ' ', ' ', ' '] := by decide
    ⟨_, .parts <| .cons blank_nil blank_nil <| .cons hline blank_nil <|
        .cons blank_nil blank_nil <| .last blank_nil blank_nil,
      .cons (writesMember_toList _ _ blank_nil blank_nil) <|
        .cons (writesMember_toList _ _ blank_nil blank_nil) <|
        .cons (writesMember_toList _ _ blank_nil blank_nil) <|
        .cons (writesMember_toList _ _ blank_space blank_nil) .nil⟩
  refine ⟨_, _, _, writesString_printString "r1", writesString_printString "s", haddress,
    _, [("note", note.toList)], hobject, by decide, ?_⟩
  simp only [List.forall_mem_cons]
  exact ⟨⟨by decide, isValue_note⟩, fun _ h => nomatch h⟩

theorem writesWhole_scattered : WritesWhole Document.Writes scattered gathered := by
  have hsegments : WritesList WritesString "[\"s\"]".toList ["s"] :=
    ⟨_, .parts (.last blank_nil blank_nil), .cons (writesString_printString "s") .nil⟩
  have hcircuits : WritesList Document.Entry.Writes scatteredCircuits.toList
      [⟨"r1", "s", "10.0.0.1/24"⟩] :=
    ⟨_, .parts (.last blank_space blank_nil), .cons writes_scatteredEntry .nil⟩
  have hkey : WritesString "\"\\u0073egments\"".toList "segments" := by
    have hdigit {n : Nat} (hn : n < 16) : IsHexDigit n.digitChar n := ⟨hn, .inl rfl⟩
    have hletter : WritesChar "\\u0073".toList 's' :=
      .unit (.mk (hdigit (by decide : 0 < 16)) (hdigit (by decide : 0 < 16))
        (hdigit (by decide : 7 < 16)) (hdigit (by decide : 3 < 16)))
    have hletters : List.Forall₂ WritesChar _ "egments".toList := forall₂_writesChar (by decide)
    exact ⟨_, .cons hletter hletters, rfl⟩
  have hobject : WritesObject (scattered.toList.drop 3).dropLast
      [("circuits", scatteredCircuits.toList), ("segments", "[\"s\"]".toList)] :=
    have htab : Blank ['\t'] := by decide
    ⟨_, .parts <| .cons blank_nil blank_nil <| .last htab blank_space,
      .cons (writesMember_toList _ _ blank_nil blank_space) <|
        .cons ⟨_, _, _, hkey, blank_nil, blank_nil, rfl⟩ .nil⟩
  exact ⟨['\n', ' ', ' '], _, [' '], by decide, blank_space, ⟨_, _, _, .absent, .written hsegments,
    .written hcircuits, _, [], hobject, .swap _ _ _, fun _ h => nomatch h⟩, rfl⟩

theorem parse_of_writes_scattered :
    WritesWhole Document.Writes scattered gathered ∧
    parse scattered =
      .ok { segments := ["s"], circuits := [⟨"r1", "s", .bridged "10.0.0.1/24"⟩] } := by
  have hparse := parse_of_writes [] gathered.segments gathered.circuits scattered
    writesWhole_scattered
  exact ⟨writesWhole_scattered, by simpa [gathered] using hparse⟩

end Topology

end Testbed
