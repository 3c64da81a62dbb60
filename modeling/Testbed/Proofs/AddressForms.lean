import Mathlib.Data.Nat.Digits.Defs
import Testbed.Proofs.Scanning

/-!
# The languages of the two forms of address

A form of address is a language: a text has it if and only if it can be put together from
numbers and separators in a certain way. Here that is said of the text as it is written, with
the value of its digits taken from their places in a numeral of base ten, and no word about how
a text is cut or read. The octets of a block are numbers up to 255 and may be as long as they
like, since zeros may stand in front of them. Those of an address may not have such zeros and
are of three digits at the most. The length of the network is a number up to 32 of the first
kind.

`forms_accepted_exactly` says this of both forms, and that it holds of the reader from left
to right as well.
-/

namespace Testbed.Address

open Text

variable {limit : Nat} {c : Char} {s : String}

/-! ## The languages -/

/-- The digits of ASCII, each at the place that is its value. -/
def tenDigits : List Char :=
  "0123456789".toList

/-- The number that a row of digits stands for. -/
def value (s : String) : Nat :=
  Nat.ofDigits 10 (s.toList.reverse.map tenDigits.idxOf)

/-- A number within the limit, with any number of zeros in front. -/
structure IsDecimal (limit : Nat) (s : String) : Prop where
  nonempty : s ≠ ""
  digits : ∀ c ∈ s.toList, c ∈ tenDigits
  value : value s ≤ limit

/-- One to three digits, without a zero in front that could be left out. -/
structure IsOctet (s : String) : Prop extends IsDecimal 255 s where
  short : s.length ≤ 3
  zero : ∀ rest, s = "0" ++ rest → rest = ""

theorem mem_tenDigits_iff : c ∈ tenDigits ↔ c.isDigit = true := by
  have hdigits : tenDigits.all Char.isDigit = true := by decide
  constructor
  · exact List.all_eq_true.mp hdigits c
  · intro hc
    obtain ⟨hlow, hhigh⟩ := isDigit_iff.mp hc
    have hrow : tenDigits = (List.range' 48 10).map Char.ofNat := rfl
    rw [hrow, List.mem_map]
    refine ⟨c.toNat, List.mem_range'_1.mpr ⟨hlow, ?_⟩, Char.ofNat_toNat c⟩
    exact Nat.lt_succ_of_le hhigh

theorem idxOf_tenDigits (hc : c ∈ tenDigits) : tenDigits.idxOf c = c.toNat - '0'.toNat := by
  have hplaces : (tenDigits.all fun c => tenDigits.idxOf c = c.toNat - '0'.toNat) = true := by
    decide
  exact of_decide_eq_true (List.all_eq_true.mp hplaces c hc)

theorem value_eq_numeral (hdigits : ∀ c ∈ s.toList, c ∈ tenDigits) :
    value s = numeral s.toList := by
  rw [value, Nat.ofDigits_eq_foldr, List.foldr_map, List.foldr_reverse, numeral]
  refine List.foldl_ext _ _ 0 fun n c hc => ?_
  rw [idxOf_tenDigits (hdigits c hc), Nat.cast_id, Nat.add_comm]

theorem isDecimal_iff : IsDecimal limit s ↔ isNumeralUpTo limit s.toList = true := by
  rw [isNumeralUpTo_iff, ne_eq, String.toList_eq_nil_iff]
  constructor
  · intro h
    have hvalue := h.value
    rw [value_eq_numeral h.digits] at hvalue
    exact ⟨h.nonempty, fun c hc => mem_tenDigits_iff.mp (h.digits c hc), hvalue⟩
  · rintro ⟨hne, hdigits, hle⟩
    have hten : ∀ c ∈ s.toList, c ∈ tenDigits := fun c hc => mem_tenDigits_iff.mpr (hdigits c hc)
    exact ⟨hne, hten, (value_eq_numeral hten).symm ▸ hle⟩

theorem hasNoLeadingZero_iff :
    HasNoLeadingZero s.toList ↔ ∀ rest, s = "0" ++ rest → rest = "" := by
  constructor
  · rintro hzero rest rfl
    have hhead : ("0" ++ rest).toList.head? = some '0' := by simp
    have htext := hzero hhead
    simpa using htext
  · intro hzero hhead
    obtain ⟨rest, htext⟩ := List.head?_eq_some_iff.mp hhead
    have hs : s = "0" ++ String.ofList rest := by
      rw [← String.toList_inj, htext]
      simp
    have hrest := hzero _ hs
    rw [hs, hrest]
    rfl

theorem isOctet_iff : IsOctet s ↔ isStrictOctet s.toList = true := by
  rw [isStrictOctet_iff, hasNoLeadingZero_iff]
  constructor
  · intro h
    exact ⟨isDecimal_iff.mp h.toIsDecimal, h.zero⟩
  · rintro ⟨hnumeral, hzero⟩
    refine ⟨isDecimal_iff.mpr hnumeral, ?_, hzero⟩
    rw [← String.length_toList]
    exact length_le_three hnumeral (hasNoLeadingZero_iff.mpr hzero)

theorem isThreeOctetBlock_iff_exists_isDecimal : isThreeOctetBlock s = true ↔
    ∃ o₁ o₂ o₃, s = o₁ ++ "." ++ o₂ ++ "." ++ o₃ ++ "." ∧
      IsDecimal 255 o₁ ∧ IsDecimal 255 o₂ ∧ IsDecimal 255 o₃ := by
  simp only [isThreeOctetBlock_iff, isDecimal_iff]
  constructor
  · intro h
    obtain ⟨octets, htext, hthree, hoctets⟩ := h
    obtain ⟨a, b, c, rfl⟩ := List.length_eq_three.mp hthree
    simp only [List.forall_mem_cons] at hoctets
    obtain ⟨ha, hb, hc, -⟩ := hoctets
    refine ⟨String.ofList a, String.ofList b, String.ofList c, ?_, ?_⟩
    · rw [← String.toList_inj, htext]
      simp [List.intercalate]
    · simp only [String.toList_ofList]
      exact ⟨ha, hb, hc⟩
  · intro h
    obtain ⟨o₁, o₂, o₃, rfl, h₁, h₂, h₃⟩ := h
    refine ⟨[o₁.toList, o₂.toList, o₃.toList], ?_, rfl, by simp [h₁, h₂, h₃]⟩
    simp [List.intercalate]

theorem isWithLength_iff_exists_isOctet : isWithLength s = true ↔
    ∃ q₁ q₂ q₃ q₄ l, s = q₁ ++ "." ++ q₂ ++ "." ++ q₃ ++ "." ++ q₄ ++ "/" ++ l ∧
      IsOctet q₁ ∧ IsOctet q₂ ∧ IsOctet q₃ ∧ IsOctet q₄ ∧ IsDecimal 32 l := by
  simp only [isWithLength_iff_exists_reads, isOctet_iff, isDecimal_iff]
  constructor
  · intro h
    obtain ⟨octets, network, hreads, hoctets⟩ := h
    obtain ⟨a, b, c, d, rfl⟩ := List.length_eq_four.mp hreads.four
    simp only [List.forall_mem_cons] at hoctets
    obtain ⟨ha, hb, hc, hd, -⟩ := hoctets
    refine ⟨String.ofList a, String.ofList b, String.ofList c, String.ofList d,
      String.ofList network, ?_, ?_⟩
    · rw [← String.toList_inj, hreads.text]
      simp [List.intercalate]
    · simp only [String.toList_ofList]
      exact ⟨ha, hb, hc, hd, hreads.network⟩
  · intro h
    obtain ⟨q₁, q₂, q₃, q₄, l, rfl, h₁, h₂, h₃, h₄, hl⟩ := h
    have hoctets : ∀ o ∈ [q₁.toList, q₂.toList, q₃.toList, q₄.toList], isStrictOctet o = true := by
      simp [h₁, h₂, h₃, h₄]
    refine ⟨_, l.toList, ⟨?_, rfl, fun o ho => ?_, hl⟩, hoctets⟩
    · simp [List.intercalate]
    · exact (isStrictOctet_iff.mp (hoctets o ho)).1

/-- Both forms of address are the texts of one language each, and a reader who goes from left to
right and has one byte for a number takes the same texts. -/
theorem forms_accepted_exactly (s : String) :
    (isThreeOctetBlock s = true ↔ ∃ o₁ o₂ o₃, s = o₁ ++ "." ++ o₂ ++ "." ++ o₃ ++ "." ∧
      IsDecimal 255 o₁ ∧ IsDecimal 255 o₂ ∧ IsDecimal 255 o₃) ∧
    (isWithLength s = true ↔ ∃ q₁ q₂ q₃ q₄ l,
      s = q₁ ++ "." ++ q₂ ++ "." ++ q₃ ++ "." ++ q₄ ++ "/" ++ l ∧
        IsOctet q₁ ∧ IsOctet q₂ ∧ IsOctet q₃ ∧ IsOctet q₄ ∧ IsDecimal 32 l) ∧
    Scan.isThreeOctetBlock s = isThreeOctetBlock s ∧ Scan.isWithLength s = isWithLength s :=
  ⟨isThreeOctetBlock_iff_exists_isDecimal, isWithLength_iff_exists_isOctet,
    scan_isThreeOctetBlock s, scan_isWithLength s⟩

end Testbed.Address
