import Mathlib.Data.List.TakeWhile
import Testbed.Proofs.Addresses
import Testbed.Topology.AddressScan

/-!
# Reading from left to right takes the same texts

The two forms are said of whole texts, and a reader who goes from left to right settles some
things before the text is over. There are three of them, and in none is the reader too early.

A number is given up at the first digit with which it does not fit in a byte. No further
digit makes it smaller (`le_foldl`), so that it is given up if and only if all its digits
together are too much (`foldlM_push?_eq_some_iff`). An octet takes all the digits that there
are, and what may follow it, a dot or the end of the text, is no digit (`octet?_append`). The
cut is made at the first slash, and a slash that comes later is in what should be the length,
where it is refused for not being a digit.
-/

namespace Testbed.Address

open Text

variable {limit n : Nat} {cs ds octet rest : List Char} {c sep : Char} {s : String}

/-- The number that the digits make with `n` in front of them. -/
def numeralFrom (n : Nat) (digits : List Char) : Nat :=
  digits.foldl (fun n d => 10 * n + (d.toNat - '0'.toNat)) n

theorem numeralFrom_cons (n : Nat) (d : Char) (ds : List Char) :
    numeralFrom n (d :: ds) = numeralFrom (10 * n + (d.toNat - '0'.toNat)) ds := by
  rw [numeralFrom, numeralFrom, List.foldl_cons]

/-- Octets hold no dots, so joining them can be undone. -/
theorem pieces_intercalate_octets {octets : List (List Char)} (hlength : octets.length = n + 1)
    (hoctets : ∀ o ∈ octets, isNumeralUpTo limit o = true) :
    pieces '.' (['.'].intercalate octets) = octets :=
  pieces_intercalate (List.ne_nil_of_length_eq_add_one hlength)
    fun o ho => not_mem_of_isNumeralUpTo (hoctets o ho) rfl

theorem isDigit_iff : c.isDigit = true ↔ '0'.toNat ≤ c.toNat ∧ c.toNat ≤ '9'.toNat := by
  rw [Char.isDigit, Bool.and_eq_true, decide_eq_true_eq, decide_eq_true_eq]
  exact Iff.rfl

namespace Scan

/-! ## Numbers in a byte -/

variable {k l m : UInt8}

theorem exists_toNat_eq (h : n < 256) : ∃ b : UInt8, b.toNat = n :=
  ⟨UInt8.ofNatLT n h, UInt8.toNat_ofNatLT⟩

theorem mul?_eq_some_iff : mul? k l = some m ↔ m.toNat = k.toNat * l.toNat := by
  have hm : m.toNat < 256 := m.toNat_lt
  rw [mul?]
  split
  · next hfits =>
    rw [Option.some.injEq, ← UInt8.toNat_inj, UInt8.toNat_mul, Nat.mod_eq_of_lt hfits, eq_comm]
  · next hover => exact iff_of_false nofun (by omega)

theorem add?_eq_some_iff : add? k l = some m ↔ m.toNat = k.toNat + l.toNat := by
  have hm : m.toNat < 256 := m.toNat_lt
  rw [add?]
  split
  · next hfits =>
    rw [Option.some.injEq, ← UInt8.toNat_inj, UInt8.toNat_add, Nat.mod_eq_of_lt hfits, eq_comm]
  · next hover => exact iff_of_false nofun (by omega)

theorem digit?_eq_some_iff :
    digit? c = some m ↔ c.isDigit = true ∧ m.toNat = c.toNat - '0'.toNat := by
  rw [digit?]
  split
  · next hc =>
    have hnine : c.toNat ≤ '9'.toNat := (isDigit_iff.mp hc).2
    have hsmall : c.toNat - '0'.toNat < 256 := Nat.lt_of_le_of_lt (Nat.sub_le _ _)
      (Nat.lt_of_le_of_lt hnine (by decide))
    rw [Option.some.injEq, ← UInt8.toNat_inj, and_iff_right hc, eq_comm, Nat.toUInt8,
      UInt8.toNat_ofNat', Nat.mod_eq_of_lt hsmall]
  · next hc => exact iff_of_false nofun fun h => hc h.1

/-- Either check fails only if the number with the digit behind does not fit in a byte. -/
theorem push?_eq_some_iff :
    push? k c = some m ↔ c.isDigit = true ∧ m.toNat = 10 * k.toNat + (c.toNat - '0'.toNat) := by
  have hten : (10 : UInt8).toNat = 10 := rfl
  simp only [push?, Option.bind_eq_bind, Option.bind_eq_some_iff, mul?_eq_some_iff,
    digit?_eq_some_iff, add?_eq_some_iff, hten]
  constructor
  · intro hpush
    obtain ⟨tenfold, htenfold, digit, ⟨hc, hdigit⟩, hm⟩ := hpush
    exact ⟨hc, by omega⟩
  · intro hcond
    obtain ⟨hc, hm⟩ := hcond
    have hlt : m.toNat < 256 := m.toNat_lt
    obtain ⟨tenfold, htenfold⟩ := exists_toNat_eq (n := k.toNat * 10) (by omega)
    obtain ⟨digit, hdigit⟩ := exists_toNat_eq (n := c.toNat - '0'.toNat) (by omega)
    exact ⟨tenfold, htenfold, digit, ⟨hc, hdigit⟩, by omega⟩

/-- What the digits come to does not fit in a byte if it has not fit at one of them. -/
theorem foldlM_push?_eq_some_iff :
    ds.foldlM push? k = some m ↔
      (∀ d ∈ ds, d.isDigit = true) ∧ m.toNat = numeralFrom k.toNat ds := by
  induction ds generalizing k with
  | nil =>
    rw [List.foldlM_nil, Option.pure_def, Option.some.injEq, ← UInt8.toNat_inj, eq_comm]
    exact (and_iff_right fun _ hd => absurd hd List.not_mem_nil).symm
  | cons d ds ih =>
    simp only [List.foldlM_cons, Option.bind_eq_bind, Option.bind_eq_some_iff, push?_eq_some_iff,
      ih, List.forall_mem_cons, numeralFrom_cons]
    constructor
    · intro hread
      obtain ⟨next, ⟨hd, hnext⟩, hds, hm⟩ := hread
      rw [hnext] at hm
      exact ⟨⟨hd, hds⟩, hm⟩
    · intro hcond
      obtain ⟨⟨hd, hds⟩, hm⟩ := hcond
      have hle : 10 * k.toNat + (d.toNat - '0'.toNat) ≤ m.toNat := hm ▸ le_foldl _ ds
      have hlt : m.toNat < 256 := m.toNat_lt
      obtain ⟨next, hnext⟩ := exists_toNat_eq (Nat.lt_of_le_of_lt hle hlt)
      rw [← hnext] at hm
      exact ⟨next, ⟨hd, hnext⟩, hds, hm⟩

/-- A byte is read from digits, with a plus sign in front or without one, unless their number is
too large for it. -/
theorem byte?_eq_some_iff :
    byte? cs = some m ↔ ∃ digits, (cs = digits ∨ cs = '+' :: digits) ∧ digits ≠ [] ∧
      (∀ d ∈ digits, d.isDigit = true) ∧ m.toNat = numeral digits := by
  have hfold (ds : List Char) : ds.foldlM push? 0 = some m ↔
      (∀ d ∈ ds, d.isDigit = true) ∧ m.toNat = numeral ds := foldlM_push?_eq_some_iff
  have hplus {digits : List Char} (hdigits : ∀ d ∈ digits, d.isDigit = true) : '+' ∉ digits :=
    fun hmem => nomatch hdigits '+' hmem
  rw [byte?.eq_def]
  split
  · refine iff_of_false nofun ?_
    rintro ⟨digits, rfl | hcs, hne, -⟩
    · exact hne rfl
    · cases hcs
  · refine iff_of_false nofun ?_
    rintro ⟨digits, rfl | hcs, hne, hdigits, -⟩
    · exact hplus hdigits List.mem_cons_self
    · exact hne (List.cons.inj hcs).2.symm
  · next ds hne =>
    rw [hfold]
    constructor
    · intro hread
      exact ⟨ds, .inr rfl, fun hnil => hne (hnil ▸ rfl), hread⟩
    · rintro ⟨digits, rfl | hcs, -, hread⟩
      · exact absurd List.mem_cons_self (hplus hread.1)
      · cases hcs
        exact hread
  · next hnil _ hsign =>
    rw [hfold]
    constructor
    · intro hread
      exact ⟨cs, .inl rfl, hnil, hread⟩
    · rintro ⟨digits, rfl | hcs, -, hread⟩
      · exact hread
      · exact absurd hcs (hsign digits)

theorem isByteUpTo_eq (limit : UInt8) (cs : List Char) :
    isByteUpTo limit cs = isNumeralUpTo limit.toNat cs := by
  rw [Bool.eq_iff_iff, isNumeralUpTo_iff, isByteUpTo]
  simp only [Bool.and_eq_true, Bool.not_eq_true', List.isEmpty_eq_false_iff, List.all_eq_true,
    Option.any_eq_true, decide_eq_true_eq, UInt8.le_iff_toNat_le, byte?_eq_some_iff, and_assoc]
  refine and_congr_right fun hne => and_congr_right fun hdigits => ?_
  constructor
  · rintro ⟨b, ⟨digits, rfl | rfl, -, -, hb⟩, hle⟩
    · omega
    · -- A sign is no digit, so it has been refused already.
      cases hdigits '+' List.mem_cons_self
  · intro hle
    obtain ⟨b, hb⟩ := exists_toNat_eq (Nat.lt_of_le_of_lt hle limit.toNat_lt)
    exact ⟨b, ⟨cs, .inl rfl, hne, hdigits, hb⟩, by omega⟩

/-! ## Octets -/

theorem digits?_eq (cs : List Char) {n count : Nat} (hcount : count ≤ 3) :
    digits? n count cs =
      if count + (cs.takeWhile Char.isDigit).length ≤ 3 then
        some (numeralFrom n (cs.takeWhile Char.isDigit),
          count + (cs.takeWhile Char.isDigit).length, cs.dropWhile Char.isDigit)
      else none := by
  induction cs generalizing n count with
  | nil =>
    rw [digits?, List.takeWhile_nil, List.length_nil, Nat.add_zero, if_pos hcount]
    rfl
  | cons c cs ih =>
    rw [digits?]
    by_cases hc : c.isDigit = true
    · have hlength : count + 1 + (cs.takeWhile Char.isDigit).length =
          count + ((cs.takeWhile Char.isDigit).length + 1) := by omega
      rw [if_pos hc, List.takeWhile_cons_of_pos hc, List.dropWhile_cons_of_pos hc,
        List.length_cons, numeralFrom_cons, ← hlength]
      by_cases hroom : count < 3
      · rw [if_pos hroom]
        exact ih hroom
      · rw [if_neg hroom, if_neg (by omega)]
    · rw [if_neg hc, List.takeWhile_cons_of_neg hc, List.dropWhile_cons_of_neg hc,
        List.length_nil, Nat.add_zero, if_pos hcount]
      rfl

/-- What is asked of an octet, in the order in which it can be told. -/
theorem isStrictOctet_iff_of_isDigit (hdigits : ∀ d ∈ octet, d.isDigit = true) :
    isStrictOctet octet = true ↔ octet.length ≤ 3 ∧ octet.length ≠ 0 ∧
      ¬ (octet.head? = some '0' ∧ 1 < octet.length) ∧ numeral octet < 256 := by
  have hempty : octet ≠ [] ↔ octet.length ≠ 0 := not_congr List.length_eq_zero_iff.symm
  simp only [isStrictOctet, Bool.and_eq_true, Bool.or_eq_true, decide_eq_true_eq,
    isNumeralUpTo_iff, hempty]
  constructor
  · intro hstrict
    obtain ⟨⟨⟨hne, -, hle⟩, hshort⟩, hlead⟩ := hstrict
    refine ⟨hshort, hne, ?_, by omega⟩
    rintro ⟨hzero, hlong⟩
    rcases hlead with hlead | hlead
    · exact hlead hzero
    · omega
  · intro hchecks
    obtain ⟨hshort, hne, hlead, hlt⟩ := hchecks
    refine ⟨⟨⟨hne, hdigits, by omega⟩, hshort⟩, ?_⟩
    by_cases hzero : octet.head? = some '0'
    · have hone : ¬ 1 < octet.length := fun hlong => hlead ⟨hzero, hlong⟩
      exact .inr (by omega)
    · exact .inl hzero

/-- The digits at the beginning are an octet, or there is none. -/
theorem octet?_eq_some_iff :
    octet? cs = some rest ↔
      isStrictOctet (cs.takeWhile Char.isDigit) = true ∧ cs.dropWhile Char.isDigit = rest := by
  have hhead : (cs.takeWhile Char.isDigit).head? = some '0' ↔ cs.head? = some '0' := by
    rw [List.head?_takeWhile, Option.filter_eq_some_iff]
    exact and_iff_left rfl
  rw [isStrictOctet_iff_of_isDigit fun d hd => List.mem_takeWhile_imp hd, hhead, octet?,
    digits?_eq cs (Nat.zero_le 3), Nat.zero_add]
  simp only [Option.bind_eq_bind, Option.bind_eq_some_iff, Option.ite_none_right_eq_some,
    Option.ite_none_left_eq_some, Option.some.injEq]
  constructor
  · rintro ⟨_, ⟨hshort, rfl⟩, hne, hlead, hlt, hrest⟩
    exact ⟨⟨hshort, hne, hlead, hlt⟩, hrest⟩
  · rintro ⟨⟨hshort, hne, hlead, hlt⟩, hrest⟩
    exact ⟨_, ⟨hshort, rfl⟩, hne, hlead, hlt, hrest⟩

theorem octet?_append (hoctet : isStrictOctet octet = true)
    (hends : rest.takeWhile Char.isDigit = []) : octet? (octet ++ rest) = some rest := by
  have hdigits : ∀ d ∈ octet, d.isDigit = true :=
    (isNumeralUpTo_iff.mp (isStrictOctet_iff.mp hoctet).1).2.1
  have hrest : rest.takeWhile Char.isDigit ++ rest.dropWhile Char.isDigit = rest :=
    List.takeWhile_append_dropWhile
  rw [hends, List.nil_append] at hrest
  rw [octet?_eq_some_iff, List.takeWhile_append_of_pos hdigits,
    List.dropWhile_append_of_pos hdigits, hends, List.append_nil]
  exact ⟨hoctet, hrest⟩

theorem exists_of_octet? (h : octet? cs = some rest) :
    ∃ octet, isStrictOctet octet = true ∧ cs = octet ++ rest := by
  obtain ⟨hoctet, rfl⟩ := octet?_eq_some_iff.mp h
  exact ⟨_, hoctet, List.takeWhile_append_dropWhile.symm⟩

theorem dottedOctet?_eq_some_iff :
    dottedOctet? cs = some rest ↔ ∃ tail, cs = '.' :: tail ∧ octet? tail = some rest := by
  rw [dottedOctet?.eq_def]
  split
  · next tail => simp
  · next hdot => exact iff_of_false nofun fun ⟨tail, hcs, _⟩ => hdot tail hcs

theorem isDottedQuad_iff :
    isDottedQuad cs = true ↔ ∃ octets : List (List Char), cs = ['.'].intercalate octets ∧
      octets.length = 4 ∧ ∀ o ∈ octets, isStrictOctet o = true := by
  have htext (a b c d : List Char) : ['.'].intercalate [a, b, c, d] =
      a ++ '.' :: (b ++ '.' :: (c ++ '.' :: (d ++ []))) := by simp [List.intercalate]
  simp only [isDottedQuad, Option.bind_eq_bind, decide_eq_true_eq, Option.bind_eq_some_iff,
    dottedOctet?_eq_some_iff]
  constructor
  · rintro ⟨_, hfirst, _, ⟨_, rfl, hsecond⟩, _, ⟨_, rfl, hthird⟩, _, rfl, hfourth⟩
    obtain ⟨a, ha, rfl⟩ := exists_of_octet? hfirst
    obtain ⟨b, hb, rfl⟩ := exists_of_octet? hsecond
    obtain ⟨c, hc, rfl⟩ := exists_of_octet? hthird
    obtain ⟨d, hd, rfl⟩ := exists_of_octet? hfourth
    exact ⟨[a, b, c, d], (htext a b c d).symm, rfl, by simp [ha, hb, hc, hd]⟩
  · rintro ⟨octets, rfl, hfour, hoctets⟩
    obtain ⟨a, b, c, d, rfl⟩ := List.length_eq_four.mp hfour
    simp only [List.forall_mem_cons] at hoctets
    obtain ⟨ha, hb, hc, hd, -⟩ := hoctets
    rw [htext]
    -- A dot ends the first three octets, and the text ends the last one.
    exact ⟨_, octet?_append ha rfl, _, ⟨_, rfl, octet?_append hb rfl⟩,
      _, ⟨_, rfl, octet?_append hc rfl⟩, _, rfl, octet?_append hd rfl⟩

/-! ## Both forms -/

variable {before after : List Char}

theorem cut?_append (hbefore : sep ∉ before) :
    cut? sep (before ++ sep :: after) = some (before, after) := by
  induction before with
  | nil => rw [List.nil_append, cut?, if_pos rfl]
  | cons c before ih =>
    rw [List.mem_cons, not_or] at hbefore
    rw [List.cons_append, cut?, if_neg (Ne.symm hbefore.1), ih hbefore.2, Option.map_some]

theorem eq_of_cut? (h : cut? sep cs = some (before, after)) : cs = before ++ sep :: after := by
  induction cs generalizing before with
  | nil => cases h
  | cons c cs ih =>
    rw [cut?] at h
    split at h
    · next hc =>
      cases h
      rw [hc, List.nil_append]
    · next hc =>
      obtain ⟨⟨first, rest⟩, hcut, heq⟩ := Option.map_eq_some_iff.mp h
      cases heq
      rw [ih hcut, List.cons_append]

theorem stripLast?_eq_some_iff {last : Char} :
    stripLast? last cs = some before ↔ cs = before ++ [last] := by
  rw [stripLast?, Option.ite_none_right_eq_some, List.getLast?_eq_some_iff, Option.some.injEq]
  constructor
  · rintro ⟨⟨before, rfl⟩, rfl⟩
    rw [List.dropLast_concat]
  · rintro rfl
    exact ⟨⟨before, rfl⟩, List.dropLast_concat⟩

theorem isWithLength_iff_exists_reads : isWithLength s = true ↔
    ∃ octets network, Reads s octets network ∧ ∀ o ∈ octets, isStrictOctet o = true := by
  rw [isWithLength]
  constructor
  · intro h
    split at h
    · next address network hcut =>
      rw [Bool.and_eq_true, isDottedQuad_iff, isByteUpTo_eq] at h
      obtain ⟨⟨octets, rfl, hfour, hoctets⟩, hnetwork⟩ := h
      exact ⟨octets, network, ⟨eq_of_cut? hcut, hfour,
        fun o ho => (isStrictOctet_iff.mp (hoctets o ho)).1, hnetwork⟩, hoctets⟩
    · cases h
  · intro h
    obtain ⟨octets, network, hreads, hoctets⟩ := h
    have hquad : isDottedQuad (['.'].intercalate octets) = true :=
      isDottedQuad_iff.mpr ⟨octets, rfl, hreads.four, hoctets⟩
    -- No octet holds a slash, so the first one is the one in front of the length.
    rw [hreads.text, cut?_append hreads.slash_not_mem.1]
    show (isDottedQuad _ && isByteUpTo 32 network) = true
    rw [hquad, isByteUpTo_eq, Bool.true_and]
    exact hreads.network

theorem isThreeOctetBlock_iff : isThreeOctetBlock s = true ↔
    ∃ octets : List (List Char), s.toList = ['.'].intercalate octets ++ ['.'] ∧
      octets.length = 3 ∧ ∀ o ∈ octets, isNumeralUpTo 255 o = true := by
  rw [isThreeOctetBlock]
  constructor
  · intro h
    split at h
    · next before hstrip =>
      simp only [Bool.and_eq_true, decide_eq_true_eq, List.all_eq_true, isByteUpTo_eq] at h
      refine ⟨pieces '.' before, ?_, h⟩
      rw [intercalate_pieces, stripLast?_eq_some_iff.mp hstrip]
    · cases h
  · rintro ⟨octets, htext, hthree, hoctets⟩
    rw [stripLast?_eq_some_iff.mpr htext]
    simp only [pieces_intercalate_octets hthree hoctets, hthree, Bool.and_eq_true,
      decide_eq_true_eq, List.all_eq_true, isByteUpTo_eq]
    exact ⟨trivial, hoctets⟩

end Scan

/-! ## As a text and from left to right -/

theorem isWithLength_iff_exists_reads : isWithLength s = true ↔
    ∃ octets network, Reads s octets network ∧ ∀ o ∈ octets, isStrictOctet o = true := by
  constructor
  · intro h
    obtain ⟨octets, network, hreads⟩ := exists_reads_of_isWithLength h
    have hzero := hreads.isWithLength_iff.mp h
    exact ⟨octets, network, hreads,
      fun o ho => isStrictOctet_iff.mpr ⟨hreads.octet o ho, hzero o ho⟩⟩
  · intro h
    obtain ⟨octets, network, hreads, hoctets⟩ := h
    exact hreads.isWithLength_iff.mpr fun o ho => (isStrictOctet_iff.mp (hoctets o ho)).2

theorem isThreeOctetBlock_iff : isThreeOctetBlock s = true ↔
    ∃ octets : List (List Char), s.toList = ['.'].intercalate octets ++ ['.'] ∧
      octets.length = 3 ∧ ∀ o ∈ octets, isNumeralUpTo 255 o = true := by
  constructor
  · intro h
    obtain ⟨octets, hpieces, hthree, hoctets⟩ := exists_pieces_of_isThreeOctetBlock h
    refine ⟨octets, ?_, hthree, hoctets⟩
    rw [← intercalate_pieces '.' s.toList, hpieces]
    obtain ⟨a, b, c, rfl⟩ := List.length_eq_three.mp hthree
    simp [List.intercalate]
  · rintro ⟨octets, htext, hthree, hoctets⟩
    rw [isThreeOctetBlock, htext, pieces_append_sep, pieces_intercalate_octets hthree hoctets]
    obtain ⟨a, b, c, rfl⟩ := List.length_eq_three.mp hthree
    exact List.all_eq_true.mpr hoctets

theorem scan_isWithLength (s : String) : Scan.isWithLength s = isWithLength s := by
  rw [Bool.eq_iff_iff, Scan.isWithLength_iff_exists_reads, isWithLength_iff_exists_reads]

theorem scan_isThreeOctetBlock (s : String) :
    Scan.isThreeOctetBlock s = isThreeOctetBlock s := by
  rw [Bool.eq_iff_iff, Scan.isThreeOctetBlock_iff, isThreeOctetBlock_iff]

end Testbed.Address
