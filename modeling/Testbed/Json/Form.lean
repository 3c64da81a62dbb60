import Testbed.Json.Skip

/-!
# Reading values of a known form

A text is read into a value without an intermediate tree: whoever reads knows
which form comes next. There are three forms, strings, lists of one form, and
records of named fields. A value of another form is a failure that says what was
found, and to say it the value is read as far as its kind demands.

A record may be written in two ways: as an object, with its fields in any order
and with further members, which are skipped; or as a list with the fields in
their order. Whether a field may be absent is up to the record.

A failure about a record as a whole is placed once its closing bracket has been
looked for, at the end of what that took.
-/

namespace Testbed.Json

/-! ## Values of another form -/

/-- What a value is, if it is no object or list: the front of it has to be taken
to tell. -/
def findScalar : List Char → Reading (Found × List Char)
  | 'n' :: s => return (.null, ← word ['u', 'l', 'l'] s)
  | 't' :: s => return (.boolean true, ← word ['r', 'u', 'e'] s)
  | 'f' :: s => return (.boolean false, ← word ['a', 'l', 's', 'e'] s)
  | '"' :: s => do
    let (x, rest) ← stringRest [] s
    return (.string x, rest)
  | '-' :: s => do
    let (n, rest) ← number true s
    return (.number n, rest)
  | '[' :: s => return (.list, '[' :: s)
  | '{' :: s => return (.object, '{' :: s)
  | s =>
    if isDigitAhead s then do
      let (n, rest) ← number false s
      return (.number n, rest)
    else .error (.peeked .expectedValue s)

/-- The failure to find what was expected in front of this text, the blanks in
front of it having been dropped. -/
def mismatch (expected : String) (s : List Char) : Failure :=
  if s.isEmpty then .peeked .endInValue []
  else
    match findScalar s with
    | .error e => e
    | .ok (found, rest) => .behind (.invalidType found expected) rest

/-! ## Strings -/

namespace Reader

def string : Reader String where
  read s :=
    match dropGap s with
    | '"' :: rest => stringRest [] rest
    | rest => .error (mismatch "a string" rest)
  progress {s x rest} h := by
    split at h
    next hs => exact Nat.lt_trans (length_lt_of_stringRest h) (length_lt_of_dropGap_eq_cons hs)
    next => cases h

end Reader

/-! ## Changing what was read -/

namespace Reader

def map {α β : Type} (f : α → β) (reader : Reader α) : Reader β where
  read s :=
    match reader.read s with
    | .error e => .error e
    | .ok (x, rest) => .ok (f x, rest)
  progress {s y rest} h := by
    split at h
    · cases h
    next hr =>
      cases h
      exact reader.progress hr

end Reader

/-! ## Brackets

A container is closed even if reading it has failed, so that the failure can be
placed; `Closing` says how far the reader comes, and whether the bracket was
there. -/

structure Closing where
  rest : List Char
  failure? : Option Failure

def closeList (s : List Char) : Closing :=
  match dropGap s with
  | [] => ⟨[], some (.peeked .endInList [])⟩
  | ']' :: rest => ⟨rest, none⟩
  | ',' :: rest =>
    let rest := dropGap rest
    let cause := if rest.head? = some ']' then .trailingComma else .trailingCharacters
    ⟨rest, some (.peeked cause rest)⟩
  | rest => ⟨rest, some (.peeked .trailingCharacters rest)⟩

def closeObject (s : List Char) : Closing :=
  match dropGap s with
  | [] => ⟨[], some (.peeked .endInObject [])⟩
  | '}' :: rest => ⟨rest, none⟩
  | ',' :: rest => ⟨',' :: rest, some (.peeked .trailingComma (',' :: rest))⟩
  | rest => ⟨rest, some (.peeked .trailingCharacters rest)⟩

/-- The outcome of reading a container, given the outcome of reading what is in it. -/
def enclosed {α : Type} (close : List Char → Closing) :
    Reading (α × List Char) → Reading (α × List Char)
  | .ok (x, s) =>
    match close s with
    | ⟨rest, none⟩ => .ok (x, rest)
    | ⟨_, some failure⟩ => .error failure
  | .error (.unplaced cause s) => .error (.behind cause (close s).rest)
  | .error failure => .error failure

theorem length_le_of_closeList (s : List Char) : (closeList s).rest.length ≤ s.length := by
  have := length_dropGap_le s
  unfold closeList
  split
  · exact Nat.zero_le _
  next hs => exact Nat.le_of_lt (length_lt_of_dropGap_eq_cons hs)
  next rest hs =>
    exact Nat.le_trans (length_dropGap_le rest) (Nat.le_of_lt (length_lt_of_dropGap_eq_cons hs))
  · exact this

theorem length_le_of_closeObject (s : List Char) : (closeObject s).rest.length ≤ s.length := by
  have := length_dropGap_le s
  unfold closeObject
  split
  · exact Nat.zero_le _
  next hs => exact Nat.le_of_lt (length_lt_of_dropGap_eq_cons hs)
  next hs => exact hs ▸ this
  · exact this

theorem length_le_of_enclosed {α : Type} {close : List Char → Closing}
    (hclose : ∀ s, (close s).rest.length ≤ s.length) {r : Reading (α × List Char)} {x : α}
    {rest : List Char} (h : enclosed close r = .ok (x, rest)) :
    ∃ s, r = .ok (x, s) ∧ rest.length ≤ s.length := by
  unfold enclosed at h
  split at h
  next y s =>
    have := hclose s
    split at h
    next hs =>
      cases h
      rw [hs] at this
      exact ⟨s, rfl, this⟩
    · cases h
  · cases h
  · cases h

/-! ## Lists -/

/-- Whether a list goes on, and the text in front of the next element or of the
closing bracket. -/
def nextElement (first : Bool) (s : List Char) : Reading (Bool × List Char) :=
  match dropGap s with
  | [] => .error (.peeked .endInList [])
  | c :: rest =>
    if c = ']' then .ok (false, c :: rest)
    else if first then .ok (true, c :: rest)
    else if c = ',' then
      match dropGap rest with
      | [] => .error (.peeked .endInValue [])
      | d :: rest =>
        if d = ']' then .error (.peeked .trailingComma (d :: rest)) else .ok (true, d :: rest)
    else .error (.peeked .expectedListEnd (c :: rest))

theorem length_le_of_nextElement {first more : Bool} {s rest : List Char}
    (h : nextElement first s = .ok (more, rest)) : rest.length ≤ s.length := by
  have := length_dropGap_le s
  unfold nextElement at h
  split at h
  · cases h
  next c rest' hs =>
    have := length_dropGap_le rest'
    grind

/-- The elements of a list up to its closing bracket, given those before in
reverse. -/
def elements {α : Type} (item : Reader α) (soFar : List α) (s : List Char) :
    Reading (List α × List Char) :=
  match h : nextElement soFar.isEmpty s with
  | .error e => .error e
  | .ok (false, rest) => .ok (soFar.reverse, rest)
  | .ok (true, rest) =>
    match h' : item.read rest with
    | .error e => .error e
    | .ok (x, rest') =>
      have := length_le_of_nextElement h
      have := item.progress h'
      elements item (x :: soFar) rest'
termination_by s.length

theorem length_le_of_elements {α : Type} {item : Reader α} {soFar xs : List α}
    {s rest : List Char} (h : elements item soFar s = .ok (xs, rest)) :
    rest.length ≤ s.length := by
  fun_induction elements item soFar s with
  | case1 => cases h
  | case2 => cases h; exact length_le_of_nextElement ‹_›
  | case3 => cases h
  | case4 => grind

namespace Reader

def list {α : Type} (item : Reader α) : Reader (List α) where
  read s :=
    match dropGap s with
    | '[' :: rest => enclosed closeList (elements item [] rest)
    | rest => .error (mismatch "a sequence" rest)
  progress {s x rest} h := by
    split at h
    next hs =>
      obtain ⟨s', h', hle⟩ := length_le_of_enclosed length_le_of_closeList h
      have := length_le_of_elements h'
      have := length_lt_of_dropGap_eq_cons hs
      omega
    next => cases h

end Reader

/-! ## Records -/

/-- A field of a record that is being filled in. -/
structure Field (σ : Type) where
  key : String
  isSet : σ → Bool
  read : σ → Reader σ

/-- A field whose value is kept as an option until the record is finished. -/
def Field.option {σ β : Type} (key : String) (get : σ → Option β) (set : β → σ → σ)
    (reader : Reader β) : Field σ where
  key := key
  isSet state := (get state).isSome
  read state := reader.map (set · state)

/-- A form with named fields. `finish` turns what was filled in into the record, or
names the first field that is missing. -/
structure Form (σ α : Type) where
  title : String
  fields : List (Field σ)
  blank : σ
  finish : σ → Except String α

namespace Form

variable {σ α : Type}

/-- How a message refers to the record as a list of its fields. -/
def expectedItems (form : Form σ α) : String :=
  s!"{form.title} with {form.fields.length} elements"

/-- The record at the end of a list, in which `count` fields were found. -/
def finishItems (form : Form σ α) (count : Nat) (state : σ) (s : List Char) :
    Reading (α × List Char) :=
  match form.finish state with
  | .ok x => .ok (x, s)
  | .error _ => .error (.unplaced (.invalidLength count form.expectedItems) s)

/-- The fields in their order, as far as the list goes; what is left of it then is
for the closing bracket to judge. -/
def items (form : Form σ α) (count : Nat) (state : σ) (s : List Char) :
    List (Field σ) → Reading (α × List Char)
  | [] => form.finishItems count state s
  | field :: fields =>
    match nextElement (count = 0) s with
    | .error e => .error e
    | .ok (false, rest) => form.finishItems count state rest
    | .ok (true, rest) =>
      match (field.read state).read rest with
      | .error e => .error e
      | .ok (state', rest') => form.items (count + 1) state' rest' fields

theorem length_le_of_finishItems {form : Form σ α} {count : Nat} {state : σ} {x : α}
    {s rest : List Char} (h : form.finishItems count state s = .ok (x, rest)) :
    rest.length ≤ s.length := by
  unfold finishItems at h
  split at h
  · cases h
    exact Nat.le_refl _
  · cases h

theorem length_le_of_items {form : Form σ α} {fields : List (Field σ)} {count : Nat} {state : σ}
    {x : α} {s rest : List Char} (h : form.items count state s fields = .ok (x, rest)) :
    rest.length ≤ s.length := by
  induction fields generalizing count state s with
  | nil => exact length_le_of_finishItems h
  | cons field fields ih =>
      unfold items at h
      split at h
      · cases h
      next hnext => exact Nat.le_trans (length_le_of_finishItems h) (length_le_of_nextElement hnext)
      next hnext =>
        split at h
        · cases h
        next hread =>
          have := ih h
          have := length_le_of_nextElement hnext
          have := (field.read state).progress hread
          omega

end Form

/-- Whether an object goes on, and the text behind the opening quote of the next
key or in front of the closing bracket. -/
def nextMember (first : Bool) (s : List Char) : Reading (Bool × List Char) :=
  match dropGap s with
  | [] => .error (.peeked .endInObject [])
  | c :: rest =>
    if c = '}' then .ok (false, c :: rest)
    else if first then
      if c = '"' then .ok (true, rest) else .error (.peeked .keyNotString (c :: rest))
    else if c = ',' then
      match dropGap rest with
      | [] => .error (.peeked .endInValue [])
      | d :: rest =>
        if d = '"' then .ok (true, rest)
        else
          .error (.peeked (if d = '}' then .trailingComma else .keyNotString) (d :: rest))
    else .error (.peeked .expectedObjectEnd (c :: rest))

theorem length_le_of_nextMember {first more : Bool} {s rest : List Char}
    (h : nextMember first s = .ok (more, rest)) : rest.length ≤ s.length := by
  have := length_dropGap_le s
  unfold nextMember at h
  split at h
  · cases h
  next c rest' hs =>
    have := length_dropGap_le rest'
    grind

namespace Form

variable {σ α : Type}

/-- The value of a member, which is filled in if the key is that of a field. A
field cannot be filled in twice. -/
def member (form : Form σ α) (state : σ) (key : String) (s : List Char) :
    Reading (σ × List Char) :=
  match form.fields.find? (·.key = key) with
  | none => return (state, ← skipValue (← skipColon s))
  | some field =>
    if field.isSet state then .error (.unplaced (.duplicateField key) s)
    else do (field.read state).read (← skipColon s)

theorem length_lt_of_member {form : Form σ α} {state state' : σ} {key : String}
    {s rest : List Char} (h : form.member state key s = .ok (state', rest)) :
    rest.length < s.length := by
  unfold member at h
  split at h
  · obtain ⟨s₁, h₁, h⟩ := bind_eq_ok_iff.mp h
    obtain ⟨s₂, h₂, h⟩ := bind_eq_ok_iff.mp h
    cases h
    have := length_lt_of_skipColon h₁
    have := length_le_of_skip h₂
    omega
  · split at h
    · cases h
    · obtain ⟨s₁, h₁, h⟩ := bind_eq_ok_iff.mp h
      have := length_lt_of_skipColon h₁
      have := (Field.read _ state).progress h
      omega

/-- The members of an object up to its closing bracket. -/
def members (form : Form σ α) (first : Bool) (state : σ) (s : List Char) :
    Reading (α × List Char) :=
  match h : nextMember first s with
  | .error e => .error e
  | .ok (false, rest) =>
    match form.finish state with
    | .ok x => .ok (x, rest)
    | .error key => .error (.unplaced (.missingField key) rest)
  | .ok (true, rest) =>
    match h' : stringRest [] rest with
    | .error e => .error e
    | .ok (key, rest') =>
      match h'' : form.member state key rest' with
      | .error e => .error e
      | .ok (state', rest'') =>
        have := length_le_of_nextMember h
        have := length_lt_of_stringRest h'
        have := length_lt_of_member h''
        form.members false state' rest''
termination_by s.length

theorem length_le_of_members {form : Form σ α} {first : Bool} {state : σ} {x : α}
    {s rest : List Char} (h : form.members first state s = .ok (x, rest)) :
    rest.length ≤ s.length := by
  fun_induction members form first state s with
  | case2 => cases h; exact length_le_of_nextMember ‹_›
  | case6 => grind
  | _ => cases h

def reader (form : Form σ α) : Reader α where
  read s :=
    match dropGap s with
    | '[' :: rest => enclosed closeList (form.items 0 form.blank rest form.fields)
    | '{' :: rest => enclosed closeObject (form.members true form.blank rest)
    | rest => .error (mismatch form.title rest)
  progress {s x rest} h := by
    split at h
    next hs =>
      obtain ⟨s', h', hle⟩ := length_le_of_enclosed length_le_of_closeList h
      have := length_le_of_items h'
      have := length_lt_of_dropGap_eq_cons hs
      omega
    next hs =>
      obtain ⟨s', h', hle⟩ := length_le_of_enclosed length_le_of_closeObject h
      have := length_le_of_members h'
      have := length_lt_of_dropGap_eq_cons hs
      omega
    next => cases h

end Form

/-! ## Whole texts -/

/-- Reads a text that holds one value and nothing after it. -/
def Reader.parse {α : Type} (reader : Reader α) (text : String) : Except ReadError α :=
  match reader.read text.toList with
  | .error e => .error (.ofFailure text e)
  | .ok (x, rest) =>
    match dropGap rest with
    | [] => .ok x
    | rest => .error (.ofFailure text (.peeked .trailingCharacters rest))

end Testbed.Json
