/-!
# Text as bytes

Files, pipes and limited writers deal in bytes, and names are measured in them.
Writing is the standard encoding of each character in turn.

Reading meets bytes that are no text. `segments` cuts any sequence of bytes into
the characters that are there and, between them, the gaps: a gap is as long a
piece as could still have begun a character, and a single byte when none could.
A strict reader refuses a text with a gap, and a lenient one shows each gap as
one replacement character; both are read off the same cut.
-/

namespace Testbed.Text

def bytes (s : String) : List UInt8 :=
  s.toList.flatMap String.utf8EncodeChar

@[simp]
theorem bytes_append (s t : String) : bytes (s ++ t) = bytes s ++ bytes t := by
  simp [bytes]

/-- The bytes that a piece of text takes up. -/
def byteCount (cs : List Char) : Nat :=
  cs.foldr (fun c n => c.utf8Size + n) 0

/-- What may follow a leading byte: the bounds of the second byte, and how many
bytes come after the first. The bounds exclude long spellings of small code
points, the surrogates, and everything above the last code point. -/
structure Continuation where
  value : Nat
  low : Nat
  high : Nat
  length : Nat

def continuation? (lead : Nat) : Option Continuation :=
  if lead < 0x80 then some ⟨lead, 0x80, 0xBF, 0⟩
  else if lead < 0xC2 then none
  else if lead < 0xE0 then some ⟨lead - 0xC0, 0x80, 0xBF, 1⟩
  else if lead = 0xE0 then some ⟨0, 0xA0, 0xBF, 2⟩
  else if lead = 0xED then some ⟨0xD, 0x80, 0x9F, 2⟩
  else if lead < 0xF0 then some ⟨lead - 0xE0, 0x80, 0xBF, 2⟩
  else if lead = 0xF0 then some ⟨0, 0x90, 0xBF, 3⟩
  else if lead < 0xF4 then some ⟨lead - 0xF0, 0x80, 0xBF, 3⟩
  else if lead = 0xF4 then some ⟨4, 0x80, 0x8F, 3⟩
  else none

/-- Reads the remaining bytes of one character; stops in front of a byte that is
out of bounds. -/
def finish (value low high : Nat) : Nat → List UInt8 → Option Char × List UInt8
  | 0, rest => (some (Char.ofNat value), rest)
  | _ + 1, [] => (none, [])
  | n + 1, b :: rest =>
    if low ≤ b.toNat ∧ b.toNat ≤ high then
      finish (value * 64 + (b.toNat - 0x80)) 0x80 0xBF n rest
    else
      (none, b :: rest)

theorem length_finish_le (value low high n : Nat) (bs : List UInt8) :
    (finish value low high n bs).2.length ≤ bs.length := by
  fun_induction finish value low high n bs with
  | case1 | case2 | case4 => exact Nat.le_refl _
  | case3 _ _ _ _ _ _ _ ih => exact Nat.le_succ_of_le ih

/-- The characters of a sequence of bytes, with `none` for each gap. -/
def segments : List UInt8 → List (Option Char)
  | [] => []
  | b :: rest =>
    match continuation? b.toNat with
    | none => none :: segments rest
    | some k =>
      (finish k.value k.low k.high k.length rest).1 ::
        segments (finish k.value k.low k.high k.length rest).2
termination_by bs => bs.length
decreasing_by
  · exact Nat.lt_succ_self _
  · exact Nat.lt_succ_of_le (length_finish_le ..)

/-- The text that these bytes encode, if they do. -/
def decode? (bs : List UInt8) : Option String :=
  ((segments bs).mapM id).map String.ofList

/-- The text of these bytes, a replacement character for each gap. -/
def decodeLossy (bs : List UInt8) : String :=
  String.ofList ((segments bs).map (·.getD '\uFFFD'))

/-! ## What was encoded is decoded

The first byte of an encoded character tells how many follow, and the bounds it gives for
the second one are those that the code points of this length need.
-/

theorem continuation?_two {v : Nat} (h : 0x7F < v) (hle : v ≤ 0x7FF) :
    continuation? (v / 64 + 0xC0) = some ⟨v / 64, 0x80, 0xBF, 1⟩ := by
  rw [continuation?, if_neg (by omega), if_neg (by omega), if_pos (by omega), Nat.add_sub_cancel]

theorem exists_continuation?_three {v : Nat} (h : 0x7FF < v) (hle : v ≤ 0xFFFF)
    (hvalid : v < 0xD800 ∨ 0xDFFF < v) :
    ∃ low high, continuation? (v / 4096 + 0xE0) = some ⟨v / 4096, low, high, 2⟩ ∧
      low ≤ v / 64 % 64 + 0x80 ∧ v / 64 % 64 + 0x80 ≤ high := by
  rw [continuation?, if_neg (by omega), if_neg (by omega), if_neg (by omega)]
  by_cases hfirst : v / 4096 = 0
  · rw [if_pos (by omega), hfirst]
    exact ⟨_, _, rfl, by omega⟩
  by_cases hsurrogates : v / 4096 = 0xD
  · rw [if_neg (by omega), if_pos (by omega), hsurrogates]
    exact ⟨_, _, rfl, by omega⟩
  · rw [if_neg (by omega), if_neg (by omega), if_pos (by omega), Nat.add_sub_cancel]
    exact ⟨_, _, rfl, by omega⟩

theorem exists_continuation?_four {v : Nat} (h : 0xFFFF < v) (hlt : v < 0x110000) :
    ∃ low high, continuation? (v / 262144 + 0xF0) = some ⟨v / 262144, low, high, 3⟩ ∧
      low ≤ v / 4096 % 64 + 0x80 ∧ v / 4096 % 64 + 0x80 ≤ high := by
  rw [continuation?, if_neg (by omega), if_neg (by omega), if_neg (by omega), if_neg (by omega),
    if_neg (by omega), if_neg (by omega)]
  by_cases hfirst : v / 262144 = 0
  · rw [if_pos (by omega), hfirst]
    exact ⟨_, _, rfl, by omega⟩
  by_cases hlast : v / 262144 = 4
  · rw [if_neg (by omega), if_neg (by omega), if_pos (by omega), hlast]
    exact ⟨_, _, rfl, by omega⟩
  · rw [if_neg (by omega), if_pos (by omega), Nat.add_sub_cancel]
    exact ⟨_, _, rfl, by omega⟩

/-- The byte behind the first one has the bounds that the first one gives. -/
theorem finish_second {low high digit : Nat} (hlt : digit < 64) (hlow : low ≤ digit + 0x80)
    (hhigh : digit + 0x80 ≤ high) (value n : Nat) (rest : List UInt8) :
    finish value low high (n + 1) (UInt8.ofNat (digit + 0x80) :: rest) =
      finish (value * 64 + digit) 0x80 0xBF n rest := by
  have hbyte : (UInt8.ofNat (digit + 0x80)).toNat = digit + 0x80 :=
    UInt8.toNat_ofNat_of_lt' (by omega : digit + 0x80 < 256)
  rw [finish, hbyte, if_pos ⟨hlow, hhigh⟩, Nat.add_sub_cancel]

theorem finish_tail {digit : Nat} (hlt : digit < 64) (value n : Nat) (rest : List UInt8) :
    finish value 0x80 0xBF (n + 1) (UInt8.ofNat (digit + 0x80) :: rest) =
      finish (value * 64 + digit) 0x80 0xBF n rest :=
  finish_second hlt (by omega) (by omega) value n rest

theorem segments_ofNat_cons {lead : Nat} (hlt : lead < 256) {k : Continuation}
    (hk : continuation? lead = some k) {c : Char} {bs rest : List UInt8}
    (hfinish : finish k.value k.low k.high k.length bs = (some c, rest)) :
    segments (UInt8.ofNat lead :: bs) = some c :: segments rest := by
  rw [segments, UInt8.toNat_ofNat_of_lt' hlt, hk]
  simp only [hfinish]

/-- An encoded character is cut off the front of whatever it stands in front of. -/
theorem segments_utf8EncodeChar_append (c : Char) (rest : List UInt8) :
    segments (String.utf8EncodeChar c ++ rest) = some c :: segments rest := by
  have hvalid : c.val.toNat < 0xD800 ∨ 0xDFFF < c.val.toNat ∧ c.val.toNat < 0x110000 := c.valid
  have hc : Char.ofNat c.val.toNat = c := c.ofNat_toNat
  rw [String.utf8EncodeChar]
  generalize c.val.toNat = v at *
  by_cases h1 : v ≤ 0x7F
  · rw [if_pos h1]
    refine segments_ofNat_cons (by omega) (if_pos (by omega)) ?_
    show finish _ _ _ _ rest = _
    rw [finish, hc]
  by_cases h2 : v ≤ 0x7FF
  · rw [if_neg h1, if_pos h2, Nat.mod_eq_of_lt (by omega : v / 64 < 32)]
    refine segments_ofNat_cons (by omega) (continuation?_two (by omega) h2) ?_
    show finish _ _ _ _ (_ :: rest) = _
    rw [finish_tail (by omega), finish, show v / 64 * 64 + v % 64 = v by omega, hc]
  by_cases h3 : v ≤ 0xFFFF
  · obtain ⟨low, high, hk, hlow, hhigh⟩ := exists_continuation?_three (by omega) h3 (by omega)
    rw [if_neg h1, if_neg h2, if_pos h3, Nat.mod_eq_of_lt (by omega : v / 4096 < 16)]
    refine segments_ofNat_cons (by omega) hk ?_
    show finish _ _ _ _ (_ :: _ :: rest) = _
    rw [finish_second (by omega) hlow hhigh, finish_tail (by omega), finish,
      show (v / 4096 * 64 + v / 64 % 64) * 64 + v % 64 = v by omega, hc]
  · obtain ⟨low, high, hk, hlow, hhigh⟩ :=
      exists_continuation?_four (by omega : 0xFFFF < v) (by omega)
    rw [if_neg h1, if_neg h2, if_neg h3, Nat.mod_eq_of_lt (by omega : v / 262144 < 8)]
    refine segments_ofNat_cons (by omega) hk ?_
    show finish _ _ _ _ (_ :: _ :: _ :: rest) = _
    rw [finish_second (by omega) hlow hhigh, finish_tail (by omega), finish_tail (by omega), finish,
      show ((v / 262144 * 64 + v / 4096 % 64) * 64 + v / 64 % 64) * 64 + v % 64 = v by omega, hc]

theorem segments_bytes (s : String) : segments (bytes s) = s.toList.map some := by
  rw [bytes]
  induction s.toList with
  | nil => rw [List.flatMap_nil, segments, List.map_nil]
  | cons c cs ih => rw [List.flatMap_cons, segments_utf8EncodeChar_append, ih, List.map_cons]

theorem decode?_bytes (s : String) : decode? (bytes s) = some s := by
  have hall : (s.toList.map some).mapM id = some s.toList := by
    induction s.toList with
    | nil => rfl
    | cons c cs ih => simp [ih]
  rw [decode?, segments_bytes, hall, Option.map_some, String.ofList_toList]

theorem decodeLossy_bytes (s : String) : decodeLossy (bytes s) = s := by
  have hshown (cs : List Char) : (cs.map some).map (·.getD '\uFFFD') = cs := by
    rw [List.map_map]
    exact List.map_id cs
  rw [decodeLossy, segments_bytes, hshown, String.ofList_toList]

end Testbed.Text
