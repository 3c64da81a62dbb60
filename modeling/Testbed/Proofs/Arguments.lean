import Testbed.Proofs.Addresses
import Testbed.Proofs.Fields
import Testbed.Topology.Examples

/-!
# What a valid topology puts into commands

A command is handed over as a list of arguments, and nothing looks at them again
before `ip` does. An argument that is empty is no name at all, one that begins with a
dash is an option, and one with a slash in it leads somewhere in the file system. None
of the three gets past validation, and what is made from names and addresses after
validation is as good as what it is made from.

For the names this is closed under what is done to them: the name of an interface is
put together from two names of namespaces, and what holds of both holds of it
(`IsNamespaceName.interfaceName`). An address is digits and separators, and begins
with a digit.

So the only argument of any command that could be read as an option is the `-c` that
the commands for settings bring along, and no topology supplies it.
-/

namespace Testbed

variable {t : Topology} {op : Operation} {field name : String}

/-! ## The three kinds of texts -/

theorem IsNamespaceName.interfaceName {here there : String} (hhere : IsNamespaceName here)
    (hthere : IsNamespaceName there) : IsNamespaceName (Circuit.interfaceName here there) := by
  have htext : (Circuit.interfaceName here there).toList =
      here.toList ++ '-' :: there.toList := by
    simp [Circuit.interfaceName, String.toList_append]
  have hdash : '-' ∈ (Circuit.interfaceName here there).toList := by
    rw [htext]
    exact List.mem_append_right _ List.mem_cons_self
  obtain ⟨c, cs, hcs⟩ := List.exists_cons_of_ne_nil (mt String.toList_eq_nil_iff.mp hhere.ne_empty)
  constructor
  case ne_empty =>
    intro h
    rw [h] at hdash
    exact absurd hdash (by decide)
  case no_leading_dash =>
    have hlead := hhere.no_leading_dash
    rw [hcs] at hlead
    rwa [htext, hcs]
  case ne_dot =>
    intro h
    rw [h] at hdash
    exact absurd hdash (by decide)
  case ne_dotDot =>
    intro h
    rw [h] at hdash
    exact absurd hdash (by decide)
  case no_blank =>
    intro c hc
    rw [htext, List.mem_append, List.mem_cons] at hc
    rcases hc with hc | rfl | hc
    · exact hhere.no_blank c hc
    · decide
    · exact hthere.no_blank c hc
  case no_slash =>
    rw [htext, List.mem_append, List.mem_cons]
    rintro (hslash | hslash | hslash)
    · exact hhere.no_slash hslash
    · exact absurd hslash (by decide)
    · exact hthere.no_slash hslash

theorem isNamespaceName_bridgeName : IsNamespaceName bridgeName :=
  isUsableName_iff.mp (by decide)

/-- Neither a digit nor a separator of an address is white space or a dash. -/
theorem Address.Reads.isBlank_eq_false {s : String} {octets : List (List Char)}
    {network : List Char} (h : Reads s octets network) {c : Char} (hc : c ∈ s.toList) :
    Text.isBlank c = false := by
  rcases h.mem hc with hdigit | rfl | rfl
  · rw [← Bool.not_eq_true, Text.isBlank, Text.inRanges_iff]
    rintro ⟨r, hr, hlow, hhigh⟩
    have hapart : ∀ r ∈ Text.blankRanges, r.2 < '0'.toNat ∨ '9'.toNat < r.1 := by decide
    simp only [Char.isDigit, Bool.and_eq_true, decide_eq_true_eq] at hdigit
    rcases hapart r hr with hbelow | habove
    · exact absurd (Nat.le_trans hdigit.1 hhigh) (Nat.not_le_of_lt hbelow)
    · exact absurd (Nat.le_trans hlow hdigit.2) (Nat.not_le_of_lt habove)
  · decide
  · decide

namespace Topology.WellFormed

theorem isNamespaceName (hw : t.WellFormed) (hname : name ∈ t.namespaces) :
    IsNamespaceName name :=
  isUsableName_iff.mp (hw.usable name hname)

theorem isNamespaceName_of_mem_interfaces (hw : t.WellFormed) (hop : op ∈ t.plan)
    (hname : name ∈ op.interfaces) : IsNamespaceName name := by
  rcases (hw.concerns hop).mem_interfaces name hname with rfl | hend
  · exact isNamespaceName_bridgeName
  · obtain ⟨c, hc, hend⟩ := Circuit.mem_interfaceNames.mp hend
    have ha : IsNamespaceName c.a := hw.isNamespaceName (hw.admits c hc).a_mem_namespaces
    have hb : IsNamespaceName c.b := hw.isNamespaceName (hw.admits c hc).b_mem_namespaces
    rcases hend with rfl | rfl
    · exact ha.interfaceName hb
    · exact hb.interfaceName ha

theorem utf8ByteSize_le_of_mem_interfaces (hw : t.WellFormed) (hop : op ∈ t.plan)
    (hname : name ∈ op.interfaces) : name.utf8ByteSize ≤ maxInterfaceNameLength := by
  rcases (hw.concerns hop).mem_interfaces name hname with rfl | hend
  · decide
  · exact hw.short name hend

theorem exists_reads_of_address? (hw : t.WellFormed) (hop : op ∈ t.plan)
    (haddress : op.address? = some field) :
    ∃ octets network, Address.Reads field octets network := by
  obtain ⟨ns, interface, rfl⟩ := Operation.eq_assign_of_address? haddress
  exact hw.exists_reads_of_assign hop

end Topology.WellFormed

/-- The texts of a plan have no characters but those of the names, digits, and these. -/
theorem Topology.WellFormed.mem_toList_field (hw : t.WellFormed) (hop : op ∈ t.plan)
    (hfield : field ∈ op.fields) {c : Char} (hc : c ∈ field.toList) :
    (∃ name ∈ t.namespaces, c ∈ name.toList) ∨ c.isDigit = true ∨ c ∈ "br0-./".toList := by
  have hend {here there : String} (hhere : here ∈ t.namespaces) (hthere : there ∈ t.namespaces)
      (hc : c ∈ (Circuit.interfaceName here there).toList) :
      (∃ name ∈ t.namespaces, c ∈ name.toList) ∨ c ∈ "br0-./".toList := by
    have hdash : "-".toList ⊆ "br0-./".toList := by decide
    simp only [Circuit.interfaceName, String.toList_append, List.mem_append] at hc
    rcases hc with (hc | hc) | hc
    · exact .inl ⟨here, hhere, hc⟩
    · exact .inr (hdash hc)
    · exact .inl ⟨there, hthere, hc⟩
  rcases hw.mem_fields hop hfield with hname | rfl | hinterface | ⟨ns, interface, rfl⟩
  · exact .inl ⟨field, hname, hc⟩
  · have hbridge : bridgeName.toList ⊆ "br0-./".toList := by decide
    exact .inr (.inr (hbridge hc))
  · obtain ⟨circuit, hcircuit, rfl | rfl⟩ := Circuit.mem_interfaceNames.mp hinterface
    · exact (hend (hw.admits circuit hcircuit).a_mem_namespaces
        (hw.admits circuit hcircuit).b_mem_namespaces hc).imp_right .inr
    · exact (hend (hw.admits circuit hcircuit).b_mem_namespaces
        (hw.admits circuit hcircuit).a_mem_namespaces hc).imp_right .inr
  · obtain ⟨octets, network, hreads⟩ := hw.exists_reads_of_assign hop
    rcases hreads.mem hc with hdigit | rfl | rfl
    · exact .inr (.inl hdigit)
    · exact .inr (.inr (by decide))
    · exact .inr (.inr (by decide))

/-! ## The arguments of a command -/

/-- The text is an argument of its own, and not an option. -/
structure IsPlainArgument (s : String) : Prop where
  ne_empty : s ≠ ""
  no_blank : ∀ c ∈ s.toList, Text.isBlank c = false
  no_leading_dash : s.toList.head? ≠ some '-'

theorem IsNamespaceName.isPlainArgument (h : IsNamespaceName name) : IsPlainArgument name :=
  ⟨h.ne_empty, h.no_blank, h.no_leading_dash⟩

theorem Address.Reads.isPlainArgument {s : String} {octets : List (List Char)}
    {network : List Char} (h : Reads s octets network) : IsPlainArgument s := by
  obtain ⟨c, hhead, hdigit⟩ := h.exists_head?_isDigit
  refine ⟨fun hempty => ?_, fun c hc => h.isBlank_eq_false hc, fun hdash => ?_⟩
  · rw [hempty] at hhead
    cases hhead
  · rw [hhead, Option.some.injEq] at hdash
    rw [hdash] at hdigit
    exact absurd hdigit (by decide)

theorem Topology.WellFormed.isPlainArgument (hw : t.WellFormed) (hop : op ∈ t.plan)
    (hfield : field ∈ op.fields) : IsPlainArgument field := by
  rcases Operation.mem_fields_iff.mp hfield with hns | hinterface | haddress
  · exact (hw.isNamespaceName ((hw.concerns hop).mem_names field hns)).isPlainArgument
  · exact (hw.isNamespaceName_of_mem_interfaces hop hinterface).isPlainArgument
  · obtain ⟨octets, network, hreads⟩ := hw.exists_reads_of_address? hop haddress
    exact hreads.isPlainArgument

/-- No text of a plan holds a space, a line feed or any other white space. -/
theorem Topology.WellFormed.not_mem_fields (hw : t.WellFormed) {blank : Char}
    (hblank : Text.isBlank blank = true) :
    ∀ op ∈ t.plan, ∀ field ∈ op.fields, blank ∉ field.toList := by
  intro op hop field hfield hmem
  have hnot := (hw.isPlainArgument hop hfield).no_blank blank hmem
  rw [hblank] at hnot
  cases hnot

namespace Topology

/-- Every text in the plan of a valid topology is what it is meant to be, a name or an
address, and it is never taken for an option of the command that it gets into. -/
theorem fields_plain_of_mem_plan (hv : t.validate = .ok ()) (hop : op ∈ t.plan) :
    (∀ field ∈ op.fields, field ≠ "" ∧ (∀ c ∈ field.toList, Text.isBlank c = false) ∧
      field.toList.head? ≠ some '-') ∧
    (∀ name, op.namespace? = some name ∨ name ∈ op.interfaces →
      '/' ∉ name.toList ∧ name ≠ "." ∧ name ≠ "..") ∧
    (∀ name ∈ op.interfaces, name.utf8ByteSize ≤ 15) ∧
    (∀ address, op.address? = some address →
      (∀ c ∈ address.toList, c.isDigit = true ∨ c = '.' ∨ c = '/') ∧
      address.toList.count '/' = 1 ∧
      ∃ c, address.toList.head? = some c ∧ c.isDigit = true) ∧
    (∀ field, field ∈ op.fields ↔
      op.namespace? = some field ∨ field ∈ op.interfaces ∨ op.address? = some field) ∧
    ∀ argument ∈ Command.ofOperation op, argument ≠ "" ∧
      (argument.toList.head? = some '-' → argument = "-c" ∧ argument ∉ op.fields) := by
  have hw : t.WellFormed := validate_eq_ok_iff.mp hv
  refine ⟨fun field hfield => ?_, fun name hname => ?_, fun name hname => ?_,
    fun address haddress => ?_, fun field => Operation.mem_fields_iff, fun argument hmem => ?_⟩
  · have hplain := hw.isPlainArgument hop hfield
    exact ⟨hplain.ne_empty, hplain.no_blank, hplain.no_leading_dash⟩
  · have hvalid : IsNamespaceName name := by
      rcases hname with hns | hinterface
      · exact hw.isNamespaceName ((hw.concerns hop).mem_names name hns)
      · exact hw.isNamespaceName_of_mem_interfaces hop hinterface
    exact ⟨hvalid.no_slash, hvalid.ne_dot, hvalid.ne_dotDot⟩
  · exact hw.utf8ByteSize_le_of_mem_interfaces hop hname
  · obtain ⟨octets, network, hreads⟩ := hw.exists_reads_of_address? hop haddress
    exact ⟨fun c hc => hreads.mem hc, hreads.count_slash, hreads.exists_head?_isDigit⟩
  · have hown : ∀ word ∈ Command.ownWords,
        word ≠ "" ∧ (word.toList.head? = some '-' → word = "-c") := by decide +kernel
    have hfields : argument.toList.head? = some '-' → argument ∉ op.fields :=
      fun hdash hfield => (hw.isPlainArgument hop hfield).no_leading_dash hdash
    rcases Command.mem_fields_or_ownWords hmem with hfield | hword
    · exact ⟨(hw.isPlainArgument hop hfield).ne_empty, fun hdash =>
        absurd hfield (hfields hdash)⟩
    · exact ⟨(hown argument hword).1, fun hdash => ⟨(hown argument hword).2 hdash, hfields hdash⟩⟩

/-- Of the three kinds of texts, one each. -/
theorem fields_plain_of_mem_plan_twoRouterLan :
    twoRouterLan.validate = .ok () ∧
      .assign "Y" "Y-X" "10.0.1.1/31" ∈ twoRouterLan.plan ∧
      (∀ field ∈ ["Y", "Y-X", "10.0.1.1/31"], field ≠ "" ∧
        (∀ c ∈ field.toList, Text.isBlank c = false) ∧ field.toList.head? ≠ some '-') ∧
      '/' ∉ "Y-X".toList ∧ "Y-X".utf8ByteSize ≤ 15 ∧ "10.0.1.1/31".toList.count '/' = 1 ∧
      ∀ argument ∈ ["ip", "netns", "exec", "Y", "ip", "addr", "add", "10.0.1.1/31", "dev", "Y-X"],
        argument ≠ "" := by
  have hv : twoRouterLan.validate = .ok () := rfl
  have hop : .assign "Y" "Y-X" "10.0.1.1/31" ∈ twoRouterLan.plan := by decide
  obtain ⟨hfields, hnames, hshort, haddress, -, harguments⟩ := fields_plain_of_mem_plan hv hop
  have hinterface : "Y-X" ∈ (Operation.assign "Y" "Y-X" "10.0.1.1/31").interfaces :=
    List.mem_singleton.mpr rfl
  exact ⟨hv, hop, hfields, (hnames "Y-X" (.inr hinterface)).1, hshort "Y-X" hinterface,
    (haddress _ rfl).2.1, fun argument hmem => (harguments argument hmem).1⟩

end Topology

end Testbed
