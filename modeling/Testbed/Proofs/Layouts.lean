import Testbed.Json.Form
import Testbed.Proofs.Skipping
import Mathlib.Data.List.Pairwise
import Mathlib.Data.List.TakeWhile

/-!
# Readers take every layout of a value

A reader takes a text for a value whatever stands behind it, since a value stands in a
container as a rule, and whatever blanks stand in front of it, since whoever looks for the
next part drops them. `Takes` says both: it speaks of a text that becomes the one in
question, followed by anything, when its blanks are dropped.

A container is proved by an induction over its parts. The first part follows the bracket
and every other one a comma, and the reader of a container knows which of the two it
has to find. So the induction is about the text behind some part, or behind the bracket,
with the comma in front of it if there has to be one (`Leads`).

A record is read member by member, and `Fills` follows the record through the members of
an object. The members may come in any order. If what two fields do to the record can
be done in either order, then two neighbours among the members can change places, and so
can all of them (`Fills.perm`).
-/

namespace Testbed.Json

variable {α β σ : Type}

/-! ## Strings -/

section Strings

variable {soFar s rest text : List Char} {c : Char}

theorem stringRest_of_escape (h : escape s = .ok (c, rest)) :
    stringRest soFar ('\\' :: s) = stringRest (c :: soFar) rest := by
  rw [stringRest]
  split
  · next herror =>
    rw [h] at herror
    cases herror
  · next hok =>
    rw [h] at hok
    cases hok
    rfl

theorem stringRest_of_plain (hquote : c ≠ '"') (hbackslash : c ≠ '\\') (hcontrol : ¬ c < ' ')
    (soFar s : List Char) : stringRest soFar (c :: s) = stringRest (c :: soFar) s := by
  rw [stringRest]
  · rw [if_neg hcontrol]
  · exact fun h => hquote h
  · exact fun h => hbackslash h

theorem escape_of_mem {letter : Char} (h : (letter, c) ∈ shortEscapes) (s : List Char) :
    escape (letter :: s) = .ok (c, s) := by
  obtain ⟨hletter, hshort⟩ := shortEscape?_of_mem h
  rw [escape, hshort]
  exact hletter

/-- No character is a surrogate. -/
theorem not_surrogate_toNat (c : Char) :
    isTrailingSurrogate c.toNat = false ∧ isLeadingSurrogate c.toNat = false := by
  have hvalid : c.toNat < 0xD800 ∨ 0xDFFF < c.toNat := c.valid.imp_right And.left
  simp only [isTrailingSurrogate, isLeadingSurrogate, Bool.and_eq_false_iff,
    decide_eq_false_iff_not]
  omega

theorem codePointEscape_of_unit {quad : List Char} (h : HexQuad quad c.toNat) (s : List Char) :
    codePointEscape (quad ++ s) = .ok (c, s) := by
  obtain ⟨htrailing, hleading⟩ := not_surrogate_toNat c
  rw [codePointEscape, bind_eq_ok_iff]
  refine ⟨_, hexQuad_of_hexQuad h s, ?_⟩
  simp [htrailing, hleading]

theorem codePointEscape_of_surrogates {leading trailing : List Char} (hc : 0x10000 ≤ c.toNat)
    (hl : HexQuad leading (0xD800 + (c.toNat - 0x10000) / 0x400))
    (ht : HexQuad trailing (0xDC00 + (c.toNat - 0x10000) % 0x400)) (s : List Char) :
    codePointEscape (leading ++ '\\' :: 'u' :: (trailing ++ s)) = .ok (c, s) := by
  have hlt : c.toNat < 0x110000 := c.valid.elim (fun h => Nat.lt_trans h (by decide)) And.right
  generalize hx : 0xD800 + (c.toNat - 0x10000) / 0x400 = x at hl
  generalize hy : 0xDC00 + (c.toNat - 0x10000) % 0x400 = y at ht
  have hnottrailing : isTrailingSurrogate x = false := by simp [isTrailingSurrogate]; omega
  have hleading : isLeadingSurrogate x = true := by simp [isLeadingSurrogate]; omega
  have htrailing : isTrailingSurrogate y = true := by simp [isTrailingSurrogate]; omega
  have hjoin : joinSurrogates x y = c.toNat := by rw [joinSurrogates]; omega
  have hsecond : trailingEscape x ('\\' :: 'u' :: (trailing ++ s)) = .ok (c, s) := by
    show (hexQuad (trailing ++ s) >>= _) = _
    rw [bind_eq_ok_iff]
    refine ⟨_, hexQuad_of_hexQuad ht s, ?_⟩
    simp [htrailing, hjoin]
  rw [codePointEscape, bind_eq_ok_iff]
  refine ⟨_, hexQuad_of_hexQuad hl _, ?_⟩
  simp [hnottrailing, hleading, hsecond]

/-- Between quotes every text of a character is read as the character. -/
theorem stringRest_writesChar (h : WritesChar text c) (soFar s : List Char) :
    stringRest soFar (text ++ s) = stringRest (c :: soFar) s := by
  cases h with
  | plain hquote hbackslash hcontrol => exact stringRest_of_plain hquote hbackslash hcontrol soFar s
  | short hmem => exact stringRest_of_escape (escape_of_mem hmem s)
  | unit hquad => exact stringRest_of_escape (codePointEscape_of_unit hquad s)
  | surrogates hc hl ht =>
    have hescape := codePointEscape_of_surrogates hc hl ht s
    rw [← List.cons_append, ← List.cons_append, ← List.append_assoc] at hescape
    exact stringRest_of_escape hescape

theorem stringRest_flatten {parts : List (List Char)} {cs : List Char}
    (h : List.Forall₂ WritesChar parts cs) (soFar rest : List Char) :
    stringRest soFar (parts.flatten ++ '"' :: rest) =
      .ok (String.ofList (soFar.reverse ++ cs), rest) := by
  induction h generalizing soFar with
  | nil => rw [List.flatten_nil, List.nil_append, stringRest, List.append_nil]
  | cons hc _ ih =>
    rw [List.flatten_cons, List.append_assoc, stringRest_writesChar hc, ih, List.reverse_cons,
      List.append_assoc, List.singleton_append]

/-- A string is a quote and what is read as the string behind it. -/
theorem WritesString.exists_cons {x : String} (h : WritesString text x) :
    ∃ inner, text = '"' :: inner ∧ ∀ rest, stringRest [] (inner ++ rest) = .ok (x, rest) := by
  obtain ⟨parts, hparts, rfl⟩ := h
  refine ⟨_, rfl, fun rest => ?_⟩
  rw [List.append_assoc, List.singleton_append, stringRest_flatten hparts, List.reverse_nil,
    List.nil_append, String.ofList_toList]

end Strings

/-! ## Taking a text for a value -/

/-- The reader takes the text for the value, wherever it stands. -/
structure Reader.Takes (reader : Reader α) (text : List Char) (x : α) : Prop where
  opens : ∃ c s, text = c :: s ∧ (c = '"' ∨ c = '[' ∨ c = '{')
  read : ∀ {s rest}, dropGap s = text ++ rest → reader.read s = .ok (x, rest)

namespace Reader.Takes

variable {reader : Reader α} {text gap : List Char} {x : α}

/-- A text that is taken for a value is no blank and closes no list. -/
theorem exists_cons (h : reader.Takes text x) :
    ∃ c s, text = c :: s ∧ isGap c = false ∧ c ≠ ']' := by
  obtain ⟨c, s, rfl, rfl | rfl | rfl⟩ := h.opens
  all_goals exact ⟨_, _, rfl, rfl, by decide⟩

theorem dropGap_append (h : reader.Takes text x) (hgap : Blank gap) (rest : List Char) :
    dropGap (gap ++ (text ++ rest)) = text ++ rest := by
  obtain ⟨c, s, rfl, hc, -⟩ := h.exists_cons
  exact dropGap_append_cons hgap hc (s ++ rest)

theorem read_append (h : reader.Takes text x) (hgap : Blank gap) (rest : List Char) :
    reader.read (gap ++ (text ++ rest)) = .ok (x, rest) :=
  h.read (h.dropGap_append hgap rest)

protected theorem map (h : reader.Takes text x) (f : α → β) : (reader.map f).Takes text (f x) where
  opens := h.opens
  read hs := by simp only [Reader.map, h.read hs]

end Reader.Takes

theorem parse_of_writesWhole {reader : Reader α} {text : String} {x : α}
    (h : WritesWhole reader.Takes text x) : reader.parse text = .ok x := by
  obtain ⟨before, inner, after, hbefore, hafter, hinner, htext⟩ := h
  have hend : dropGap after = [] := List.dropWhile_eq_nil_iff.mpr hafter
  rw [Reader.parse, htext, hinner.read_append hbefore]
  simp only [hend]

theorem takes_string {text : List Char} {x : String} (h : WritesString text x) :
    Reader.string.Takes text x := by
  obtain ⟨inner, rfl, hinner⟩ := h.exists_cons
  refine ⟨⟨_, _, rfl, .inl rfl⟩, fun {s rest} hs => ?_⟩
  rw [List.cons_append] at hs
  simp only [Reader.string, hs, hinner]

/-! ## Parts of a container -/

/-- What stands in front of a part and the blanks before it: nothing if it is the first
one, and else a comma. -/
inductive Leads : Bool → List Char → Prop
  | first : Leads true []
  | later {gap : List Char} : Blank gap → Leads false (gap ++ [','])

section Lists

variable {item : Reader α} {soFar xs : List α} {s s' rest lead before part text : List Char}
  {parts : List (List Char)} {x : α} {first : Bool}

theorem nextElement_of_leads (hlead : Leads first lead) (hbefore : Blank before)
    (hpart : item.Takes part x) (rest : List Char) :
    nextElement first (lead ++ (before ++ (part ++ rest))) = .ok (true, part ++ rest) := by
  have hdrop := hpart.dropGap_append hbefore rest
  obtain ⟨c, cs, rfl, -, hc⟩ := hpart.exists_cons
  cases hlead with
  | first =>
    rw [nextElement, List.nil_append, hdrop]
    exact if_neg hc
  | @later gap hgap =>
    have hcomma := dropGap_append_cons hgap (c := ',') rfl (before ++ (c :: cs ++ rest))
    rw [List.append_assoc, List.singleton_append, nextElement, hcomma]
    rw [List.cons_append] at hdrop
    simp [hdrop, hc]

theorem nextElement_close (hs : dropGap s = ']' :: rest) :
    nextElement first s = .ok (false, ']' :: rest) := by
  rw [nextElement, hs]
  exact if_pos rfl

theorem elements_of_next (hnext : nextElement soFar.isEmpty s = .ok (true, s'))
    (hread : item.read s' = .ok (x, rest)) :
    elements item soFar s = elements item (x :: soFar) rest := by
  rw [elements]
  split <;> grind

theorem elements_of_close (hnext : nextElement soFar.isEmpty s = .ok (false, rest)) :
    elements item soFar s = .ok (soFar.reverse, rest) := by
  rw [elements]
  split <;> grind

/-- One part of a list is read, whether it is the first or not. -/
theorem elements_of_leads (hlead : Leads soFar.isEmpty lead) (hbefore : Blank before)
    (hpart : item.Takes part x) (rest : List Char) :
    elements item soFar (lead ++ (before ++ (part ++ rest))) = elements item (x :: soFar) rest :=
  elements_of_next (nextElement_of_leads hlead hbefore hpart rest) <|
    hpart.read (hpart.dropGap_append blank_nil rest)

theorem elements_of_separated (hsep : Separated parts text)
    (hparts : List.Forall₂ item.Takes parts xs) (hlead : Leads soFar.isEmpty lead)
    (rest : List Char) :
    elements item soFar (lead ++ (text ++ ']' :: rest)) =
      .ok (soFar.reverse ++ xs, ']' :: rest) := by
  induction hsep generalizing soFar xs lead with
  | @last before part after hbefore hafter =>
    obtain ⟨x, xs, hx, hxs, rfl⟩ := List.forall₂_cons_left_iff.mp hparts
    obtain rfl := List.forall₂_nil_left_iff.mp hxs
    simp only [List.append_assoc]
    rw [elements_of_leads hlead hbefore hx,
      elements_of_close (nextElement_close (dropGap_append_cons hafter rfl rest)),
      List.reverse_cons]
  | @cons before part after text parts hbefore hafter _ ih =>
    obtain ⟨x, xs, hx, hxs, rfl⟩ := List.forall₂_cons_left_iff.mp hparts
    have hlater : elements item (x :: soFar) (after ++ [','] ++ (text ++ ']' :: rest)) =
        .ok ((x :: soFar).reverse ++ xs, ']' :: rest) := ih hxs (.later hafter)
    simp only [List.append_assoc, List.cons_append, List.nil_append] at hlater ⊢
    rw [elements_of_leads hlead hbefore hx, hlater, List.reverse_cons, List.append_assoc,
      List.singleton_append]

theorem takes_list {Writes : List Char → α → Prop}
    (hitem : ∀ {part x}, Writes part x → item.Takes part x) (h : WritesList Writes text xs) :
    (Reader.list item).Takes text xs := by
  obtain ⟨parts, hencl, hparts⟩ := h
  replace hparts := hparts.imp fun _ _ => hitem
  obtain ⟨inner, rfl, hinner⟩ := hencl.exists_inner
  refine ⟨⟨_, _, rfl, .inr (.inl rfl)⟩, fun {s rest} hs => ?_⟩
  have hs : dropGap s = '[' :: (inner ++ ']' :: rest) := by
    simpa [Container.opening, Container.closing] using hs
  have helements : elements item [] (inner ++ ']' :: rest) = .ok (xs, ']' :: rest) := by
    rcases hinner with ⟨rfl, hblank⟩ | hsep
    · obtain rfl := List.forall₂_nil_left_iff.mp hparts
      exact elements_of_close (nextElement_close (dropGap_append_cons hblank rfl rest))
    · have hfirst : Leads ([] : List α).isEmpty [] := .first
      exact elements_of_separated hsep hparts hfirst rest
  simp only [Reader.list, hs, helements]
  rfl

end Lists

/-! ## Records -/

/-- A text that fills in the field, and what it does to the record. -/
def Field.Puts (field : Field σ) (text : List Char) (put : σ → σ) : Prop :=
  ∀ state, (field.read state).Takes text (put state)

theorem Field.puts_option {key : String} {get : σ → Option β} {set : β → σ → σ} {reader : Reader β}
    {text : List Char} {x : β} (h : reader.Takes text x) :
    (Field.option key get set reader).Puts text (set x) :=
  fun state => h.map (set · state)

namespace Form

/-- Members of an object that take a record from one state to another. They fill in fields
that are not set, or have keys that mean nothing. -/
inductive Fills (form : Form σ α) : σ → List (String × List Char) → σ → Prop
  | nil {state : σ} : form.Fills state [] state
  | cons {state final : σ} {put : σ → σ} {key : String} {field : Field σ} {text : List Char}
      {members : List (String × List Char)} :
      form.fields.find? (·.key = key) = some field → field.isSet state = false →
      field.Puts text put → form.Fills (put state) members final →
      form.Fills state ((key, text) :: members) final
  | skip {state final : σ} {key : String} {text : List Char} {members : List (String × List Char)} :
      form.fields.find? (·.key = key) = none → IsValue text → form.Fills state members final →
      form.Fills state ((key, text) :: members) final

variable {form : Form σ α} {state final : σ} {ms : List (String × List Char)} {x : α}
  {s s' rest lead before part text gap gap' : List Char} {parts : List (List Char)} {key : String}
  {first : Bool}

theorem nextMember_of_leads (hlead : Leads first lead) (hbefore : Blank before) (rest : List Char) :
    nextMember first (lead ++ (before ++ '"' :: rest)) = .ok (true, rest) := by
  have hdrop := dropGap_append_cons hbefore (c := '"') rfl rest
  cases hlead with
  | first => simp [nextMember, hdrop]
  | @later gap hgap =>
    have hcomma := dropGap_append_cons hgap (c := ',') rfl (before ++ '"' :: rest)
    rw [List.append_assoc, List.singleton_append, nextMember, hcomma]
    simp [hdrop]

theorem nextMember_close (hs : dropGap s = '}' :: rest) :
    nextMember first s = .ok (false, '}' :: rest) := by
  rw [nextMember, hs]
  exact if_pos rfl

theorem members_of_close (hnext : nextMember first s = .ok (false, rest))
    (hfinish : form.finish state = .ok x) : form.members first state s = .ok (x, rest) := by
  rw [members]
  split <;> grind

theorem members_of_next {next : σ} {s'' : List Char} (hnext : nextMember first s = .ok (true, s'))
    (hkey : stringRest [] s' = .ok (key, s''))
    (hmember : form.member state key s'' = .ok (next, rest)) :
    form.members first state s = form.members false next rest := by
  rw [members]
  split <;> grind

/-- The first of some members that fill in a record is read behind its key. -/
theorem member_of_fills (hfills : form.Fills state ((key, text) :: ms) final) (hgap : Blank gap)
    (hgap' : Blank gap') (hrest : Delimited rest) :
    ∃ next, form.member state key (gap ++ ':' :: (gap' ++ (text ++ rest))) = .ok (next, rest) ∧
      form.Fills next ms final := by
  have hcolon : skipColon (gap ++ ':' :: (gap' ++ (text ++ rest))) =
      .ok (gap' ++ (text ++ rest)) := by
    rw [skipColon, dropGap_append_cons hgap rfl]
    rfl
  cases hfills with
  | @cons _ _ put _ field _ _ hfind hunset hputs hfills =>
    refine ⟨put state, ?_, hfills⟩
    rw [member, hfind]
    simp only [hunset, hcolon, Bool.false_eq_true, if_false]
    exact (hputs state).read_append hgap' rest
  | skip hfind hvalue hfills =>
    refine ⟨state, ?_, hfills⟩
    have hskip := skipValue_append hvalue hgap' hrest
    rw [member, hfind]
    simp only [hcolon]
    show (skipValue _ >>= _) = _
    rw [hskip]
    rfl

/-- One member of an object is read, whether it is the first or not. -/
theorem members_of_leads {m : String × List Char} (hlead : Leads first lead)
    (hbefore : Blank before) (hpart : WritesMember part m)
    (hfills : form.Fills state (m :: ms) final) (hrest : Delimited rest) :
    ∃ next, form.members first state (lead ++ (before ++ (part ++ rest))) =
      form.members false next rest ∧ form.Fills next ms final := by
  obtain ⟨key, text⟩ := m
  obtain ⟨keyText, gap, gap', hkey, hgap, hgap', rfl⟩ := hpart
  obtain ⟨inner, rfl, hinner⟩ := hkey.exists_cons
  obtain ⟨next, hmember, hnext⟩ := member_of_fills hfills hgap hgap' hrest
  refine ⟨next, ?_, hnext⟩
  simp only [List.append_assoc, List.cons_append]
  exact members_of_next (nextMember_of_leads hlead hbefore _) (hinner _) hmember

theorem members_of_separated (hsep : Separated parts text)
    (hparts : List.Forall₂ WritesMember parts ms) (hlead : Leads first lead)
    (hfills : form.Fills state ms final) (hfinish : form.finish final = .ok x) (rest : List Char) :
    form.members first state (lead ++ (text ++ '}' :: rest)) = .ok (x, '}' :: rest) := by
  have hends : Delimited ('}' :: rest) := ⟨_, _, rfl, .inr (.inr (.inr rfl))⟩
  induction hsep generalizing first lead ms state with
  | @last before part after hbefore hafter =>
    obtain ⟨m, ms, hm, hms, rfl⟩ := List.forall₂_cons_left_iff.mp hparts
    obtain rfl := List.forall₂_nil_left_iff.mp hms
    obtain ⟨next, hmembers, hnext⟩ :=
      members_of_leads hlead hbefore hm hfills (hends.of_blank hafter)
    cases hnext
    simp only [List.append_assoc]
    rw [hmembers]
    exact members_of_close (nextMember_close (dropGap_append_cons hafter rfl rest)) hfinish
  | @cons before part after text parts hbefore hafter _ ih =>
    obtain ⟨m, ms, hm, hms, rfl⟩ := List.forall₂_cons_left_iff.mp hparts
    have hcomma : Delimited (',' :: (text ++ '}' :: rest)) := ⟨_, _, rfl, .inr (.inl rfl)⟩
    obtain ⟨next, hmembers, hnext⟩ :=
      members_of_leads hlead hbefore hm hfills (hcomma.of_blank hafter)
    have hlater := ih hms (.later hafter) hnext
    simp only [List.append_assoc, List.cons_append, List.nil_append] at hlater ⊢
    rw [hmembers, hlater]

theorem takes_object (h : WritesObject text ms) (hfills : form.Fills form.blank ms final)
    (hfinish : form.finish final = .ok x) : form.reader.Takes text x := by
  obtain ⟨parts, hencl, hparts⟩ := h
  obtain ⟨inner, rfl, hinner⟩ := hencl.exists_inner
  refine ⟨⟨_, _, rfl, .inr (.inr rfl)⟩, fun {s rest} hs => ?_⟩
  have hs : dropGap s = '{' :: (inner ++ '}' :: rest) := by
    simpa [Container.opening, Container.closing] using hs
  have hmembers : form.members true form.blank (inner ++ '}' :: rest) = .ok (x, '}' :: rest) := by
    rcases hinner with ⟨rfl, hblank⟩ | hsep
    · obtain rfl := List.forall₂_nil_left_iff.mp hparts
      cases hfills
      exact members_of_close (nextMember_close (dropGap_append_cons hblank rfl rest)) hfinish
    · exact members_of_separated hsep hparts .first hfills hfinish rest
  simp only [reader, hs, hmembers]
  rfl

end Form

/-! ### The order of members -/

section Order

/-- What two fields do to a record can be done in either order. -/
def Field.Apart (f g : Field σ) : Prop :=
  ∀ text text' p q, f.Puts text p → g.Puts text' q → ∀ state,
    g.isSet (p state) = g.isSet state ∧ f.isSet (q state) = f.isSet state ∧
      p (q state) = q (p state)

/-- A form whose fields are set once they have been filled in, each on its own. -/
structure Form.Lawful (form : Form σ α) : Prop where
  marks : ∀ f ∈ form.fields, ∀ text put, f.Puts text put → ∀ state, f.isSet (put state) = true
  apart : form.fields.Pairwise Field.Apart

instance : Std.Symm (Field.Apart (σ := σ)) where
  symm f g h text text' p q hp hq state := by
    obtain ⟨hg, hf, hcomm⟩ := h text' text q p hq hp state
    exact ⟨hf, hg, hcomm.symm⟩

/-- All that a text can do to an optional field is to set it to one value. -/
theorem Field.exists_eq_of_puts_option {key : String} {get : σ → Option β} {set : β → σ → σ}
    {reader : Reader β} {text : List Char} {put : σ → σ}
    (h : (Field.option key get set reader).Puts text put) (state : σ) : ∃ x, put = set x := by
  have hread (state : σ) : (reader.map (set · state)).read text = .ok (put state, []) := by
    have hread := (h state).read_append blank_nil []
    rwa [List.nil_append, List.append_nil] at hread
  cases hx : reader.read text with
  | error e =>
    have herror := hread state
    simp [Reader.map, hx] at herror
  | ok r =>
    refine ⟨r.1, funext fun state => ?_⟩
    have hok := hread state
    simp only [Reader.map, hx, Except.ok.injEq, Prod.mk.injEq] at hok
    exact hok.1.symm

theorem Field.marks_option {key : String} {get : σ → Option β} {set : β → σ → σ}
    {reader : Reader β} (hget : ∀ x state, (get (set x state)).isSome = true) (text : List Char)
    (put : σ → σ) (h : (Field.option key get set reader).Puts text put) (state : σ) :
    (Field.option key get set reader).isSet (put state) = true := by
  obtain ⟨x, rfl⟩ := exists_eq_of_puts_option h state
  exact hget x state

theorem Field.apart_option {γ : Type} {key key' : String} {get : σ → Option β}
    {get' : σ → Option γ} {set : β → σ → σ} {set' : γ → σ → σ} {reader : Reader β}
    {reader' : Reader γ} (hget' : ∀ x state, get' (set x state) = get' state)
    (hget : ∀ y state, get (set' y state) = get state)
    (hset : ∀ x y state, set x (set' y state) = set' y (set x state)) :
    (Field.option key get set reader).Apart (Field.option key' get' set' reader') := by
  intro text text' p q hp hq state
  obtain ⟨x, rfl⟩ := exists_eq_of_puts_option hp state
  obtain ⟨y, rfl⟩ := exists_eq_of_puts_option hq state
  exact ⟨congrArg Option.isSome (hget' x state), congrArg Option.isSome (hget y state),
    hset x y state⟩

variable {form : Form σ α} {state final : σ} {ms ms' others : List (String × List Char)} {x : α}
  {text : List Char} {m m' : String × List Char}

namespace Form

theorem Fills.swap (hform : form.Lawful) (h : form.Fills state (m :: m' :: ms) final) :
    form.Fills state (m' :: m :: ms) final := by
  cases h with
  | @cons _ _ p _ f _ _ hf hfunset hp h =>
    cases h with
    | @cons _ _ q _ g _ _ hg hgunset hq h =>
      have hfmem := List.mem_of_find?_eq_some hf
      have hgmem := List.mem_of_find?_eq_some hg
      by_cases hfg : f = g
      · subst hfg
        rw [hform.marks f hfmem _ p hp state] at hgunset
        cases hgunset
      · have hapart := hform.apart.forall hfmem hgmem hfg
        obtain ⟨hgstill, hfstill, hcomm⟩ := hapart _ _ p q hp hq state
        exact .cons hg (hgstill.symm.trans hgunset) hq <|
          .cons hf (hfstill.trans hfunset) hp (hcomm ▸ h)
    | skip hg hvalue h => exact .skip hg hvalue (.cons hf hfunset hp h)
  | skip hf hvalue h =>
    cases h with
    | cons hg hgunset hq h => exact .cons hg hgunset hq (.skip hf hvalue h)
    | skip hg hvalue' h => exact .skip hg hvalue' (.skip hf hvalue h)

/-- The members of an object fill in the same record in whatever order they stand. -/
theorem Fills.perm (hform : form.Lawful) (hperm : ms.Perm ms') (h : form.Fills state ms final) :
    form.Fills state ms' final := by
  induction hperm generalizing state with
  | nil => exact h
  | cons _ _ ih =>
    cases h with
    | cons hfind hunset hputs h => exact .cons hfind hunset hputs (ih h)
    | skip hfind hvalue h => exact .skip hfind hvalue (ih h)
  | swap => exact h.swap hform
  | trans _ _ ih ih' => exact ih' (ih h)

theorem fills_others (h : ∀ m ∈ others, m.1 ∉ form.fields.map (·.key) ∧ IsValue m.2) (state : σ) :
    form.Fills state others state := by
  induction others with
  | nil => exact .nil
  | cons m others ih =>
    obtain ⟨⟨hkey, hvalue⟩, hothers⟩ := List.forall_mem_cons.mp h
    refine .skip (List.find?_eq_none.mpr fun field hfield heq => hkey ?_) hvalue (ih hothers)
    exact List.mem_map.mpr ⟨field, hfield, of_decide_eq_true heq⟩

theorem Fills.append {next : σ} (h : form.Fills state ms next) (h' : form.Fills next ms' final) :
    form.Fills state (ms ++ ms') final := by
  induction h with
  | nil => exact h'
  | cons hfind hunset hputs _ ih => exact .cons hfind hunset hputs (ih h')
  | skip hfind hvalue _ ih => exact .skip hfind hvalue (ih h')

/-- A list that was left out and an empty list come to the same. -/
theorem fills_slot {key : String} {get : σ → Option (List β)} {set : List β → σ → σ}
    {item : Reader β} {Writes : List Char → β → Prop} {xs : List β} (put : Option (List β) → σ)
    (hfind : form.fields.find? (·.key = key) = some (.option key get set item.list))
    (hunset : (get (put none)).isSome = false) (hset : ∀ xs, set xs (put none) = put (some xs))
    (hitem : ∀ {part x}, Writes part x → item.Takes part x) (h : WritesSlot Writes key ms xs) :
    ∃ x?, x?.getD [] = xs ∧ form.Fills (put none) ms (put x?) := by
  cases h with
  | written hlist =>
    refine ⟨some xs, rfl, .cons hfind hunset (Field.puts_option (takes_list hitem hlist)) ?_⟩
    rw [hset]
    exact .nil
  | absent => exact ⟨none, rfl, .nil⟩

/-- A record is read from every object that has its members, whatever their order is and
whatever else the object has. -/
theorem takes_record (hform : form.Lawful)
    (h : WritesRecord (form.fields.map (·.key)) text ms) (hfills : form.Fills form.blank ms final)
    (hfinish : form.finish final = .ok x) : form.reader.Takes text x := by
  obtain ⟨all, others, hobject, hperm, hothers⟩ := h
  have hall : form.Fills form.blank all final :=
    (hfills.append (fills_others hothers final)).perm hform hperm.symm
  exact takes_object hobject hall hfinish

end Form

end Order

end Testbed.Json
