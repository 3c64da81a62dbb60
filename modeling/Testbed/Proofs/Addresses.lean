import Testbed.Plan
import Testbed.Proofs.WellFormed
import Testbed.Topology.Examples

/-!
# The addresses that a plan assigns

An address reaches a host by one of two ways. The address of a bridged circuit is the
text that validation read as an address; those of a point-to-point circuit are made
from its block, by appending the last octet and the length of the network, and
validation has read only the block.

What is made so is four octets and a length in every case, but the two forms do not
agree on how an octet is written. A block may put zeros in front of an octet, an
address may not, and completing a block does not touch the octets it has. So a plan
assigns nothing but addresses of the strict form if and only if no block is padded
with zeros (`forall_assign_isWithLength_iff`), and `zeroPadded` is a topology that
passes validation and is padded.

A text that is read in the wider sense is read in one way only, since its octets hold
neither of the two separators. That is why both forms come down to the same cutting,
and why the strict one adds a condition on the pieces and no other.
-/

namespace Testbed

namespace Address

open Text

variable {limit : Nat} {cs octet : List Char} {octets : List (List Char)} {s : String}

/-! ## One octet -/

theorem isNumeralUpTo_iff :
    isNumeralUpTo limit cs = true ↔
      cs ≠ [] ∧ (∀ c ∈ cs, c.isDigit = true) ∧ numeral cs ≤ limit := by
  simp only [isNumeralUpTo, Bool.and_eq_true, Bool.not_eq_true', List.isEmpty_eq_false_iff,
    List.all_eq_true, decide_eq_true_eq, and_assoc]

theorem not_mem_of_isNumeralUpTo {c : Char} (h : isNumeralUpTo limit cs = true)
    (hc : c.isDigit = false) : c ∉ cs := fun hmem => by
  have hdigit : c.isDigit = true := (isNumeralUpTo_iff.mp h).2.1 c hmem
  exact Bool.false_ne_true (hc.symm.trans hdigit)

/-- No zero stands in front of another digit. -/
def HasNoLeadingZero (digits : List Char) : Prop :=
  digits.head? = some '0' → digits = ['0']

instance (digits : List Char) : Decidable (HasNoLeadingZero digits) :=
  inferInstanceAs (Decidable (_ → _))

/-- No further digit makes a numeral smaller. -/
theorem le_foldl (n : Nat) (digits : List Char) :
    n ≤ digits.foldl (fun n d => 10 * n + (d.toNat - '0'.toNat)) n := by
  induction digits generalizing n with
  | nil => exact Nat.le_refl n
  | cons d ds ih =>
    calc n
        ≤ 10 * n + (d.toNat - '0'.toNat) := by omega
      _ ≤ _ := ih _

theorem one_le_of_isDigit {c : Char} (hdigit : c.isDigit = true) (hne : c ≠ '0') :
    1 ≤ c.toNat - '0'.toNat := by
  have hlow : '0'.toNat ≤ c.toNat := by
    simp only [Char.isDigit, Bool.and_eq_true, decide_eq_true_eq] at hdigit
    exact hdigit.1
  have hne' : c.toNat ≠ '0'.toNat := fun h => hne (Char.toNat_inj.mp h)
  omega

/-- A fourth digit makes at least a thousand. -/
theorem length_le_three (h : isNumeralUpTo 255 octet = true) (hzero : HasNoLeadingZero octet) :
    octet.length ≤ 3 := by
  obtain ⟨-, hdigits, hle⟩ := isNumeralUpTo_iff.mp h
  match octet with
  | [] | [_] | [_, _] | [_, _, _] => simp
  | d :: e :: f :: g :: rest =>
    have hd : d ≠ '0' := by
      rintro rfl
      cases hzero rfl
    have hfirst : 1 ≤ d.toNat - '0'.toNat := one_le_of_isDigit (hdigits d List.mem_cons_self) hd
    have hfour := le_foldl (10 * (10 * (10 * (10 * 0 + (d.toNat - '0'.toNat)) +
      (e.toNat - '0'.toNat)) + (f.toNat - '0'.toNat)) + (g.toNat - '0'.toNat)) rest
    have hthousand : 1000 ≤ numeral (d :: e :: f :: g :: rest) := Nat.le_trans (by omega) hfour
    omega

/-- That a strict octet has at most three digits follows from the rest. -/
theorem isStrictOctet_iff :
    isStrictOctet octet = true ↔ isNumeralUpTo 255 octet = true ∧ HasNoLeadingZero octet := by
  simp only [isStrictOctet, Bool.and_eq_true, Bool.or_eq_true, decide_eq_true_eq]
  constructor
  · intro hstrict
    obtain ⟨⟨hnumeral, -⟩, hlead⟩ := hstrict
    refine ⟨hnumeral, fun hzero => ?_⟩
    have hlength : octet.length = 1 := hlead.resolve_left fun hne => hne hzero
    obtain ⟨c, rfl⟩ := List.length_eq_one_iff.mp hlength
    exact congrArg (· :: []) (Option.some.inj hzero)
  · intro hcond
    obtain ⟨hnumeral, hzero⟩ := hcond
    refine ⟨⟨hnumeral, length_le_three hnumeral hzero⟩, ?_⟩
    by_cases hhead : octet.head? = some '0'
    · exact .inr (by rw [hzero hhead]; rfl)
    · exact .inl hhead

/-! ## Reading in the wider sense -/

/-- The text is four octets and the length of a network, all of them plain numerals. -/
structure Reads (s : String) (octets : List (List Char)) (network : List Char) : Prop where
  text : s.toList = ['.'].intercalate octets ++ '/' :: network
  four : octets.length = 4
  octet : ∀ o ∈ octets, isNumeralUpTo 255 o = true
  network : isNumeralUpTo 32 network = true

namespace Reads

variable {network : List Char}

theorem mem (h : Reads s octets network) {c : Char} (hc : c ∈ s.toList) :
    c.isDigit = true ∨ c = '.' ∨ c = '/' := by
  rw [h.text, List.mem_append, List.mem_cons] at hc
  rcases hc with hc | rfl | hc
  · rcases eq_or_mem_of_mem_intercalate hc with rfl | ⟨o, ho, hc⟩
    · exact .inr (.inl rfl)
    · exact .inl ((isNumeralUpTo_iff.mp (h.octet o ho)).2.1 c hc)
  · exact .inr (.inr rfl)
  · exact .inl ((isNumeralUpTo_iff.mp h.network).2.1 c hc)

theorem slash_not_mem (h : Reads s octets network) :
    '/' ∉ ['.'].intercalate octets ∧ '/' ∉ network := by
  refine ⟨fun hmem => ?_, not_mem_of_isNumeralUpTo h.network rfl⟩
  rcases eq_or_mem_of_mem_intercalate hmem with heq | ⟨o, ho, hmem⟩
  · cases heq
  · exact not_mem_of_isNumeralUpTo (h.octet o ho) rfl hmem

theorem pieces_slash (h : Reads s octets network) :
    pieces '/' s.toList = [['.'].intercalate octets, network] := by
  obtain ⟨hoctets, hnetwork⟩ := h.slash_not_mem
  rw [h.text, pieces_append_cons hoctets, pieces_of_not_mem hnetwork]

theorem count_slash (h : Reads s octets network) : s.toList.count '/' = 1 := by
  obtain ⟨hoctets, hnetwork⟩ := h.slash_not_mem
  rw [h.text, List.count_append, List.count_cons_self, List.count_eq_zero.mpr hoctets,
    List.count_eq_zero.mpr hnetwork]

theorem exists_head?_isDigit (h : Reads s octets network) :
    ∃ c, s.toList.head? = some c ∧ c.isDigit = true := by
  obtain ⟨a, rest, rfl⟩ := List.exists_cons_of_ne_nil (List.ne_nil_of_length_eq_add_one h.four)
  obtain ⟨hne, hdigits, -⟩ := isNumeralUpTo_iff.mp (h.octet a List.mem_cons_self)
  obtain ⟨c, cs, rfl⟩ := List.exists_cons_of_ne_nil hne
  refine ⟨c, ?_, hdigits c List.mem_cons_self⟩
  rw [h.text]
  cases rest with
  | nil => rfl
  | cons b rest => rfl

theorem pieces_dot (h : Reads s octets network) :
    pieces '.' (['.'].intercalate octets) = octets :=
  pieces_intercalate (List.ne_nil_of_length_eq_add_one h.four)
    fun o ho => not_mem_of_isNumeralUpTo (h.octet o ho) rfl

/-- Among the texts that are read so, the strict form is the one without leading zeros. -/
theorem isWithLength_iff (h : Reads s octets network) :
    isWithLength s = true ↔ ∀ o ∈ octets, HasNoLeadingZero o := by
  have hquad : isDottedQuad (['.'].intercalate octets) = octets.all isStrictOctet := by
    rw [isDottedQuad, h.pieces_dot]
    match octets, h.four with
    | [_, _, _, _], _ => rfl
  simp only [isWithLength, h.pieces_slash, hquad, h.network, Bool.and_true, List.all_eq_true,
    isStrictOctet_iff]
  exact forall₂_congr fun o ho => and_iff_right (h.octet o ho)

end Reads

theorem exists_reads_of_isWithLength (h : isWithLength s = true) :
    ∃ octets network, Reads s octets network := by
  rw [isWithLength] at h
  split at h
  · next address network hs =>
    rw [Bool.and_eq_true, isDottedQuad] at h
    obtain ⟨hquad, hnetwork⟩ := h
    split at hquad
    · next a b c d haddress =>
      have htext := intercalate_pieces '/' s.toList
      rw [hs, List.intercalate_cons_cons, List.intercalate_singleton, List.append_assoc,
        List.singleton_append, ← intercalate_pieces '.' address, haddress] at htext
      refine ⟨[a, b, c, d], network, htext.symm, rfl, fun o ho => ?_, hnetwork⟩
      exact (isStrictOctet_iff.mp (List.all_eq_true.mp hquad o ho)).1
    · cases hquad
  · cases h

/-! ## Completing a block -/

variable {block suffix : String}

theorem exists_pieces_of_isThreeOctetBlock (h : isThreeOctetBlock block = true) :
    ∃ octets, pieces '.' block.toList = octets ++ [[]] ∧ octets.length = 3 ∧
      ∀ o ∈ octets, isNumeralUpTo 255 o = true := by
  rw [isThreeOctetBlock] at h
  split at h
  · next a b c hblock => exact ⟨[a, b, c], hblock, rfl, List.all_eq_true.mp h⟩
  · cases h

theorem reads_append (h : isThreeOctetBlock block = true) (host : List Char)
    (hsuffix : suffix.toList = host ++ ['/', '3', '1']) (hhost : isNumeralUpTo 255 host = true) :
    ∃ octets, pieces '.' block.toList = octets ++ [[]] ∧
      Reads (block ++ suffix) (octets ++ [host]) ['3', '1'] := by
  obtain ⟨octets, hpieces, hthree, hoctets⟩ := exists_pieces_of_isThreeOctetBlock h
  refine ⟨octets, hpieces, ?_, by rw [List.length_append, hthree]; rfl, fun o ho => ?_, by decide⟩
  · have hblock := intercalate_pieces '.' block.toList
    rw [hpieces] at hblock
    rw [String.toList_append, hsuffix, ← hblock]
    match octets, hthree with
    | [a, b, c], _ => simp [List.intercalate]
  · rcases List.mem_append.mp ho with ho | ho
    · exact hoctets o ho
    · rwa [List.mem_singleton.mp ho]

/-- Appending the last octet and the length keeps the octets of a block as they were
written. -/
theorem isWithLength_append (h : isThreeOctetBlock block = true) (host : List Char)
    (hsuffix : suffix.toList = host ++ ['/', '3', '1']) (hhost : isStrictOctet host = true) :
    (∃ octets network, Reads (block ++ suffix) octets network) ∧
      (isWithLength (block ++ suffix) = true ↔
        ∀ o ∈ pieces '.' block.toList, HasNoLeadingZero o) := by
  obtain ⟨hnumeral, hzero⟩ := isStrictOctet_iff.mp hhost
  obtain ⟨octets, hpieces, hreads⟩ := reads_append h host hsuffix hnumeral
  have hempty : HasNoLeadingZero [] := fun hhead => (nomatch hhead)
  refine ⟨⟨_, _, hreads⟩, ?_⟩
  rw [hreads.isWithLength_iff, hpieces, List.forall_mem_append, List.forall_mem_append,
    List.forall_mem_singleton, List.forall_mem_singleton, iff_true_intro hzero,
    iff_true_intro hempty]

end Address

/-! ## The plan of a topology -/

/-- A block is unpadded if none of its octets has a zero in front. -/
def Addressing.IsUnpadded : Addressing → Prop
  | bridged _ => True
  | pointToPoint block => ∀ o ∈ Text.pieces '.' block.toList, Address.HasNoLeadingZero o

instance : DecidablePred Addressing.IsUnpadded
  | .bridged _ => inferInstanceAs (Decidable True)
  | .pointToPoint block =>
    inferInstanceAs (Decidable (∀ o ∈ Text.pieces '.' block.toList, Address.HasNoLeadingZero o))

variable {t : Topology} {c : Circuit} {ns interface address : String}

theorem Plan.assign_mem_circuit_iff :
    .assign ns interface address ∈ circuit c ↔
      (ns = c.a ∧ interface = c.interfaces.1 ∧ address = c.addressing.ends.1) ∨
        (ns = c.b ∧ interface = c.interfaces.2 ∧ some address = c.addressing.ends.2) := by
  rcases c with ⟨a, b, text | block⟩
  · simp [circuit, addressing, Addressing.ends]
  · simp [circuit, addressing, Addressing.ends]

namespace Topology

theorem assign_mem_plan_iff :
    .assign ns interface address ∈ t.plan ↔
      ∃ c ∈ t.circuits, .assign ns interface address ∈ Plan.circuit c := by
  have hsegments : ¬ ∃ s ∈ t.segments, .assign ns interface address ∈ Plan.segment s := by
    simp [Plan.segment]
  have hdevices : ¬ ∃ d ∈ t.devices, .assign ns interface address ∈ Plan.device d := by
    simp [Plan.device]
  rw [mem_plan_iff, or_iff_right hsegments, or_iff_right hdevices]

/-- Whatever a valid circuit assigns is four octets and a length; to be of the strict form
its block must be unpadded, if it has one. -/
theorem Admits.reads_of_assign (hc : t.Admits c)
    (hop : .assign ns interface address ∈ Plan.circuit c) :
    (∃ octets network, Address.Reads address octets network) ∧
      (Address.isWithLength address = true ↔ c.addressing.IsUnpadded) := by
  have hform : c.addressing.isWellFormed = true := hc.address
  rw [Plan.assign_mem_circuit_iff] at hop
  cases haddressing : c.addressing with
  | bridged text =>
    rw [haddressing] at hform hop
    rcases hop with ⟨-, -, rfl⟩ | ⟨-, -, hnone⟩
    · exact ⟨Address.exists_reads_of_isWithLength hform, iff_of_true hform trivial⟩
    · cases hnone
  | pointToPoint block =>
    rw [haddressing] at hform hop
    have hblock : Address.isThreeOctetBlock block = true := hform
    rcases hop with ⟨-, -, rfl⟩ | ⟨-, -, hsome⟩
    · exact Address.isWithLength_append hblock ['0'] rfl (by decide)
    · cases hsome
      exact Address.isWithLength_append hblock ['1'] rfl (by decide)

theorem WellFormed.exists_reads_of_assign (hw : t.WellFormed)
    (hop : .assign ns interface address ∈ t.plan) :
    ∃ octets network, Address.Reads address octets network := by
  obtain ⟨c, hc, hop⟩ := assign_mem_plan_iff.mp hop
  exact ((hw.admits c hc).reads_of_assign hop).1

/-- A valid topology assigns four octets and a length everywhere. They are of the form that
validation asks of an address if and only if no block is padded. -/
theorem forall_assign_isWithLength_iff (hv : t.validate = .ok ()) :
    (∀ ns interface address, .assign ns interface address ∈ t.plan →
      ∃ octets network, Address.Reads address octets network) ∧
    ((∀ ns interface address, .assign ns interface address ∈ t.plan →
        Address.isWithLength address = true) ↔
      ∀ c ∈ t.circuits, c.addressing.IsUnpadded) := by
  have hw : t.WellFormed := validate_eq_ok_iff.mp hv
  refine ⟨fun _ _ _ hop => hw.exists_reads_of_assign hop, fun hstrict c hc => ?_,
    fun hunpadded ns interface address hop => ?_⟩
  · have hop : .assign c.a c.interfaces.1 c.addressing.ends.1 ∈ Plan.circuit c :=
      Plan.assign_mem_circuit_iff.mpr (.inl ⟨rfl, rfl, rfl⟩)
    exact ((hw.admits c hc).reads_of_assign hop).2.mp
      (hstrict _ _ _ (assign_mem_plan_iff.mpr ⟨c, hc, hop⟩))
  · obtain ⟨c, hc, hop⟩ := assign_mem_plan_iff.mp hop
    exact ((hw.admits c hc).reads_of_assign hop).2.mpr (hunpadded c hc)

theorem forall_assign_isWithLength_twoRouterLan :
    twoRouterLan.validate = .ok () ∧
      ∀ ns interface address, .assign ns interface address ∈ twoRouterLan.plan →
        Address.isWithLength address = true := by
  have hv : twoRouterLan.validate = .ok () := rfl
  have hunpadded : ∀ c ∈ twoRouterLan.circuits, c.addressing.IsUnpadded := by decide
  exact ⟨hv, (forall_assign_isWithLength_iff hv).2.mpr hunpadded⟩

/-- Two devices, joined by a circuit whose block begins with a padded octet. -/
def zeroPadded : Topology where
  devices := ["X", "Y"]
  circuits := [⟨"X", "Y", .pointToPoint "010.0.1."⟩]

theorem assign_not_isWithLength_zeroPadded :
    zeroPadded.validate = .ok () ∧ .assign "X" "X-Y" "010.0.1.0/31" ∈ zeroPadded.plan ∧
      Address.isWithLength "010.0.1.0/31" = false := by
  refine ⟨rfl, by decide, by decide⟩

end Topology

end Testbed
