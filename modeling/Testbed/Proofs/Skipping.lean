import Testbed.Json.Grammar

/-!
# Every value can be skipped

Skipping walks through a value without building it, and it is one loop: the containers
that are open are a list, and the nesting of a value is nowhere in the program. So what the
induction over a value has to say is about the loop in the middle of its walk. Whatever is
open already, a loop that looks for a value comes out behind it, looking for what follows
a value, with the same containers open (`Skippable`).

A value is told by its first character and, but for numbers, by its last one. A number goes
on as long as it can, and what stands behind it has to end it. In a container that is a
blank, a comma or a closing bracket (`Delimited`).
-/

namespace Testbed.Json

variable {s rest gap text : List Char} {openContainers : List Container}

/-! ## Blanks -/

theorem dropGap_append_of_blank (h : Blank gap) (s : List Char) : dropGap (gap ++ s) = dropGap s :=
  List.dropWhile_append_of_pos h

/-! ## Hexadecimal digits -/

theorem hexDigit?_digitChar {n : Nat} (h : n < 16) : hexDigit? n.digitChar = some n := by
  revert n
  decide

theorem hexDigit?_of_isHexDigit {c : Char} {n : Nat} (h : IsHexDigit c n) :
    hexDigit? c = some n := by
  obtain ⟨hn, rfl | rfl⟩ := h
  · exact hexDigit?_digitChar hn
  · revert n
    decide

theorem le_byteCount (cs : List Char) : cs.length ≤ Text.byteCount cs := by
  induction cs with
  | nil => exact Nat.le_refl _
  | cons c cs ih =>
    have hc : 0 < c.utf8Size := c.utf8Size_pos
    show cs.length + 1 ≤ c.utf8Size + Text.byteCount cs
    omega

theorem hexQuad_of_hexQuad {quad : List Char} {n : Nat} (h : HexQuad quad n) (rest : List Char) :
    hexQuad (quad ++ rest) = .ok (n, rest) := by
  cases h with
  | @mk a b c d p q r s ha hb hc hd =>
    have hlong : ¬ Text.byteCount ((a :: b :: c :: d :: rest).take 4) < 4 :=
      Nat.not_lt.mpr (le_byteCount [a, b, c, d])
    show hexQuad (a :: b :: c :: d :: rest) = _
    rw [hexQuad, if_neg hlong]
    simp only [hexDigit?_of_isHexDigit ha, hexDigit?_of_isHexDigit hb, hexDigit?_of_isHexDigit hc,
      hexDigit?_of_isHexDigit hd]

/-! ## Strings -/

theorem shortEscape?_of_mem {letter c : Char} (h : (letter, c) ∈ shortEscapes) :
    letter ≠ 'u' ∧ shortEscape? letter = some c := by
  simp only [shortEscapes, List.mem_cons, Prod.mk.injEq, List.not_mem_nil, or_false] at h
  rcases h with h | h | h | h | h | h | h | h
  all_goals
    rw [h.1, h.2]
    exact ⟨by decide, rfl⟩

theorem skipEscape_of_mem {letter c : Char} (h : (letter, c) ∈ shortEscapes) (s : List Char) :
    skipEscape (letter :: s) = .ok s := by
  obtain ⟨hletter, hshort⟩ := shortEscape?_of_mem h
  rw [skipEscape, hshort]
  exact hletter

theorem skipString_of_escape (h : skipEscape s = .ok rest) :
    skipString ('\\' :: s) = skipString rest := by
  rw [skipString]
  split
  · next herror =>
    rw [h] at herror
    cases herror
  · next hok =>
    rw [h] at hok
    cases hok
    rfl

theorem skipString_of_plain {c : Char} (hquote : c ≠ '"') (hbackslash : c ≠ '\\')
    (hcontrol : ¬ c < ' ') (s : List Char) : skipString (c :: s) = skipString s := by
  rw [skipString]
  · rw [if_neg hcontrol]
  · exact fun h => hquote h
  · exact fun h => hbackslash h

theorem skipString_isCharText (h : IsCharText text) (s : List Char) :
    skipString (text ++ s) = skipString s := by
  cases h with
  | plain hquote hbackslash hcontrol => exact skipString_of_plain hquote hbackslash hcontrol s
  | short hmem => exact skipString_of_escape (skipEscape_of_mem hmem s)
  | unit hquad =>
    refine skipString_of_escape ?_
    show (hexQuad (_ ++ s)).map (·.2) = _
    rw [hexQuad_of_hexQuad hquad]
    rfl

/-- What follows the opening quote of a string. -/
theorem skipString_flatten {parts : List (List Char)} (h : ∀ part ∈ parts, IsCharText part)
    (rest : List Char) : skipString (parts.flatten ++ '"' :: rest) = .ok rest := by
  induction parts with
  | nil => rw [List.flatten_nil, List.nil_append, skipString]
  | cons part parts ih =>
    obtain ⟨hpart, hparts⟩ := List.forall_mem_cons.mp h
    rw [List.flatten_cons, List.append_assoc, skipString_isCharText hpart, ih hparts]

/-! ## Numbers -/

/-- The text goes on with no digit. -/
def NoDigit (s : List Char) : Prop :=
  isDigitAhead s = false

theorem dropWhile_isDigit {digits : List Char} (h : IsDigits digits) (hs : NoDigit s) :
    (digits ++ s).dropWhile Char.isDigit = s := by
  rw [List.dropWhile_append_of_pos h.2]
  cases s with
  | nil => rfl
  | cons c s => exact List.dropWhile_cons_of_neg (Bool.not_eq_true _ ▸ hs)

theorem IsDigits.exists_cons {digits : List Char} (h : IsDigits digits) :
    ∃ d ds, digits = d :: ds ∧ d.isDigit = true := by
  obtain ⟨d, ds, rfl⟩ := List.exists_cons_of_ne_nil h.1
  exact ⟨d, ds, rfl, h.2 d List.mem_cons_self⟩

theorem skipWhole_append {whole : List Char} (h : IsWhole whole) (hs : NoDigit s) :
    skipWhole (whole ++ s) = .ok s := by
  rcases h with rfl | ⟨hdigits, hzero⟩
  · show (if isDigitAhead s = true then _ else _) = _
    rw [hs]
    rfl
  · have hdrop := dropWhile_isDigit hdigits hs
    obtain ⟨d, ds, rfl, hd⟩ := hdigits.exists_cons
    have hd0 : d ≠ '0' := fun h => hzero (congrArg some h)
    rw [List.cons_append, List.dropWhile_cons_of_pos hd] at hdrop
    rw [List.cons_append, skipWhole, if_neg hd0, if_pos hd, hdrop]

theorem skipFraction_append {fraction : List Char} (h : IsFraction fraction) (hs : NoDigit s)
    (hpoint : s.head? ≠ some '.') : skipFraction (fraction ++ s) = .ok s := by
  rcases h with rfl | ⟨digits, hdigits, rfl⟩
  · rw [List.nil_append, skipFraction.eq_def]
    split
    · exact absurd rfl hpoint
    · rfl
  · have hdrop := dropWhile_isDigit hdigits hs
    have hahead : isDigitAhead (digits ++ s) = true := by
      obtain ⟨d, ds, rfl, hd⟩ := hdigits.exists_cons
      exact hd
    rw [List.cons_append, skipFraction, if_pos hahead, hdrop]

theorem signPart_append {sign : List Char} (h : sign = [] ∨ sign = ['+'] ∨ sign = ['-'])
    (hs : isDigitAhead s = true) : (signPart (sign ++ s)).2 = s := by
  rcases h with rfl | rfl | rfl
  · rw [List.nil_append, signPart.eq_def]
    split
    · cases hs
    · cases hs
    · rfl
  · rfl
  · rfl

theorem skipExponent_append {exponent : List Char} (h : IsExponent exponent) (hs : NoDigit s)
    (hmark : s.head? ≠ some 'e' ∧ s.head? ≠ some 'E') : skipExponent (exponent ++ s) = .ok s := by
  rcases h with rfl | ⟨mark, sign, digits, hm, hsign, hdigits, rfl⟩
  · cases s with
    | nil => rfl
    | cons c s =>
      have hc : ¬ ((c = 'e' || c = 'E') = true) := by
        simpa [not_or] using hmark
      rw [List.nil_append, skipExponent, if_neg hc]
  · have hdrop := dropWhile_isDigit hdigits hs
    obtain ⟨d, ds, rfl, hd⟩ := hdigits.exists_cons
    have hm : (mark = 'e' || mark = 'E') = true := by simpa using hm
    have hahead : isDigitAhead (d :: ds ++ s) = true := hd
    rw [List.cons_append, List.append_assoc, skipExponent, if_pos hm]
    show (if isDigitAhead (signPart _).2 = true then _ else _) = _
    rw [signPart_append hsign hahead, if_pos hahead, hdrop]

/-- What stands behind a value in a container: a blank, a comma or a closing bracket. -/
def Delimited (s : List Char) : Prop :=
  ∃ c rest, s = c :: rest ∧ (isGap c = true ∨ c = ',' ∨ c = ']' ∨ c = '}')

theorem Delimited.noDigit (h : Delimited s) : NoDigit s := by
  obtain ⟨c, rest, rfl, hgap | rfl | rfl | rfl⟩ := h
  · simp only [isGap, Bool.or_eq_true, decide_eq_true_eq] at hgap
    rcases hgap with ((rfl | rfl) | rfl) | rfl
    all_goals rfl
  all_goals rfl

theorem Delimited.head?_ne {d : Char} (h : Delimited s) (hd : d ∈ ['.', 'e', 'E']) :
    s.head? ≠ some d := by
  obtain ⟨c, rest, rfl, hc⟩ := h
  intro hhead
  obtain rfl : c = d := Option.some.inj hhead
  simp only [List.mem_cons, List.not_mem_nil, or_false] at hd
  rcases hd with rfl | rfl | rfl
  all_goals exact absurd hc (by decide)

theorem Delimited.of_blank (h : Blank gap) (hs : Delimited s) : Delimited (gap ++ s) := by
  cases gap with
  | nil => exact hs
  | cons c gap => exact ⟨c, gap ++ s, rfl, .inl (h c List.mem_cons_self)⟩

theorem noDigit_exponent {exponent : List Char} (h : IsExponent exponent) (hs : Delimited s) :
    NoDigit (exponent ++ s) ∧ (exponent ++ s).head? ≠ some '.' := by
  rcases h with rfl | ⟨mark, sign, digits, rfl | rfl, -, -, rfl⟩
  · exact ⟨hs.noDigit, hs.head?_ne (by decide)⟩
  all_goals exact ⟨rfl, by simp⟩

theorem noDigit_fraction {fraction : List Char} (h : IsFraction fraction) (hs : NoDigit s) :
    NoDigit (fraction ++ s) := by
  rcases h with rfl | ⟨digits, -, rfl⟩
  · exact hs
  · rfl

theorem skipNumber_append {whole fraction exponent : List Char} (hwhole : IsWhole whole)
    (hfraction : IsFraction fraction) (hexponent : IsExponent exponent) (hs : Delimited s) :
    skipNumber (whole ++ (fraction ++ (exponent ++ s))) = .ok s := by
  obtain ⟨hdigit, hpoint⟩ := noDigit_exponent hexponent hs
  rw [skipNumber, skipWhole_append hwhole (noDigit_fraction hfraction hdigit)]
  show (skipFraction _ >>= skipExponent) = _
  rw [skipFraction_append hfraction hdigit hpoint]
  exact skipExponent_append hexponent hs.noDigit ⟨hs.head?_ne (by decide), hs.head?_ne (by decide)⟩

theorem skipScalar_of_isDigit {d : Char} (hd : d.isDigit = true) (s : List Char) :
    skipScalar (d :: s) = skipNumber (d :: s) := by
  rw [skipScalar.eq_def]
  split
  iterate 5 next heq => cases heq; exact absurd hd (by decide)
  · exact if_pos hd

theorem IsWhole.exists_cons {whole : List Char} (h : IsWhole whole) :
    ∃ d ds, whole = d :: ds ∧ d.isDigit = true := by
  rcases h with rfl | ⟨hdigits, -⟩
  · exact ⟨'0', [], rfl, rfl⟩
  · exact hdigits.exists_cons

/-! ## Steps of the walk -/

section Steps

variable {container : Container} {c : Char}

theorem skip_scalar (hs : dropGap s = c :: rest) (hlist : c ≠ '[') (hobject : c ≠ '{')
    (hscalar : skipScalar (c :: rest) = .ok text) :
    skip .value openContainers s = skip .closed openContainers text := by
  rw [skip]
  split <;> grind

theorem skip_opening (hs : dropGap s = container.opening :: rest) :
    skip .value openContainers s = skip .opened (container :: openContainers) rest := by
  conv_lhs => rw [skip]
  cases container <;> split <;> grind [Container.opening]

theorem skip_opened_closing (hs : dropGap s = container.closing :: rest) :
    skip .opened (container :: openContainers) s = skip .closed openContainers rest := by
  rw [skip]
  split <;> grind

theorem skip_closed_closing (hs : dropGap s = container.closing :: rest) :
    skip .closed (container :: openContainers) s = skip .closed openContainers rest := by
  rw [skip]
  cases container <;> split <;> grind [Container.closing]

theorem skip_opened_part (hs : dropGap s = c :: rest) (hc : c ≠ container.closing)
    (hlabel : skipLabel container (c :: rest) = .ok text) :
    skip .opened (container :: openContainers) s =
      skip .value (container :: openContainers) text := by
  rw [skip]
  split <;> grind

theorem skip_closed_comma (hs : dropGap s = ',' :: rest)
    (hlabel : skipLabel container rest = .ok text) :
    skip .closed (container :: openContainers) s =
      skip .value (container :: openContainers) text := by
  rw [skip]
  split <;> grind

end Steps

/-! ## Values -/

/-- The walk comes out behind the text if it looked for a value in front of it. -/
structure Skippable (text : List Char) : Prop where
  opens : ∃ c s, text = c :: s ∧ isGap c = false ∧ c ≠ ']'
  skip : ∀ {openContainers gap rest}, Blank gap → Delimited rest →
    skip .value openContainers (gap ++ (text ++ rest)) = skip .closed openContainers rest

theorem dropGap_append_cons {c : Char} (h : Blank gap) (hc : isGap c = false) (s : List Char) :
    dropGap (gap ++ c :: s) = c :: s := by
  rw [dropGap_append_of_blank h, dropGap_cons_of_not_isGap hc]

theorem Skippable.of_scalar {c : Char} (hgap : isGap c = false) (hc : c ∉ ['[', ']', '{'])
    (hscalar : ∀ {rest}, Delimited rest → skipScalar (c :: (s ++ rest)) = .ok rest) :
    Skippable (c :: s) := by
  simp only [List.mem_cons, List.not_mem_nil, or_false, not_or] at hc
  refine ⟨⟨c, s, rfl, hgap, hc.2.1⟩, fun {openContainers gap rest} hblank hrest => ?_⟩
  exact skip_scalar (dropGap_append_cons hblank hgap (s ++ rest)) hc.1 hc.2.2 (hscalar hrest)

theorem skippable_number (h : IsNumber text) : Skippable text := by
  obtain ⟨sign, whole, fraction, exponent, hsign, hwhole, hfraction, hexponent, rfl⟩ := h
  have hnumber {rest : List Char} (hrest : Delimited rest) :
      skipNumber (whole ++ (fraction ++ exponent) ++ rest) = .ok rest := by
    rw [List.append_assoc, List.append_assoc]
    exact skipNumber_append hwhole hfraction hexponent hrest
  rcases hsign with rfl | rfl
  · obtain ⟨d, ds, rfl, hd⟩ := hwhole.exists_cons
    have hne {c : Char} (hc : c.isDigit = false) : d ≠ c := by
      rintro rfl
      cases hc.symm.trans hd
    refine .of_scalar ?_ ?_ fun hrest => (skipScalar_of_isDigit hd _).trans (hnumber hrest)
    · simp [isGap, hne (c := ' ') rfl, hne (c := '\n') rfl, hne (c := '\t') rfl,
        hne (c := '\r') rfl]
    · simp [hne (c := '[') rfl, hne (c := ']') rfl, hne (c := '{') rfl]
  · exact .of_scalar rfl (by decide) hnumber

theorem skippable_string (h : IsString text) : Skippable text := by
  obtain ⟨parts, hparts, rfl⟩ := h
  refine .of_scalar rfl (by decide) fun {rest} _ => ?_
  rw [List.append_assoc]
  exact skipString_flatten hparts rest

/-! ## Containers -/

section Containers

variable {container : Container} {label value : List Char}

/-- A label is passed, up to blanks that stand in front of the value. -/
theorem skipLabel_append (hlabel : container.IsLabel label) (hgap : Blank gap) (s : List Char) :
    ∃ gap', Blank gap' ∧ skipLabel container (gap ++ (label ++ s)) = .ok (gap' ++ s) := by
  cases container with
  | list =>
    obtain rfl : label = [] := hlabel
    exact ⟨gap, hgap, rfl⟩
  | object =>
    obtain ⟨_, gap₁, gap₂, ⟨parts, hparts, rfl⟩, hgap₁, hgap₂, rfl⟩ := hlabel
    refine ⟨gap₂, hgap₂, ?_⟩
    have hkey := dropGap_append_cons hgap (c := '"') rfl
      (parts.flatten ++ '"' :: (gap₁ ++ ':' :: (gap₂ ++ s)))
    have hcolon := dropGap_append_cons hgap₁ (c := ':') rfl (gap₂ ++ s)
    show skipKey _ = _
    simp only [List.cons_append, List.append_assoc, List.nil_append]
    rw [skipKey, hkey]
    show (skipString _ >>= skipColon) = _
    rw [skipString_flatten hparts]
    show skipColon _ = _
    rw [skipColon, hcolon]
    rfl

/-- A part of a container is told from its end by its first character. -/
theorem exists_cons_part (hlabel : container.IsLabel label) (hvalue : Skippable value) :
    ∃ c s, label ++ value = c :: s ∧ isGap c = false ∧ c ≠ container.closing := by
  cases container with
  | list =>
    obtain rfl : label = [] := hlabel
    exact hvalue.opens
  | object =>
    obtain ⟨_, gap₁, gap₂, ⟨parts, hparts, rfl⟩, -, -, rfl⟩ := hlabel
    exact ⟨'"', _, rfl, rfl, by decide⟩

/-- From where a part has to follow, the walk comes to the end of the container. -/
theorem skip_separated {parts : List (List Char × List Char)}
    (hlabels : ∀ part ∈ parts, container.IsLabel part.1)
    (hvalues : ∀ part ∈ parts, Skippable part.2)
    (hsep : Separated (parts.map fun part => part.1 ++ part.2) text)
    (openContainers : List Container) (rest : List Char) :
    ∃ s, skipLabel container (text ++ container.closing :: rest) = .ok s ∧
      skip .value (container :: openContainers) s = skip .closed openContainers rest := by
  have hclosing : isGap container.closing = false := by cases container <;> rfl
  have hends : Delimited (container.closing :: rest) := by
    cases container with
    | list => exact ⟨_, _, rfl, .inr (.inr (.inl rfl))⟩
    | object => exact ⟨_, _, rfl, .inr (.inr (.inr rfl))⟩
  generalize hparts : (parts.map fun part => part.1 ++ part.2) = texts at hsep
  induction hsep generalizing parts with
  | @last before part after hbefore hafter =>
    obtain ⟨⟨label, value⟩, rfl, rfl⟩ := List.map_eq_singleton_iff.mp hparts
    obtain ⟨gap, hgap, hskip⟩ := skipLabel_append (hlabels _ List.mem_cons_self) hbefore
      (value ++ (after ++ container.closing :: rest))
    refine ⟨_, by simpa using hskip, ?_⟩
    rw [(hvalues _ List.mem_cons_self).skip hgap (hends.of_blank hafter)]
    exact skip_closed_closing (dropGap_append_cons hafter hclosing rest)
  | @cons before part after text texts hbefore hafter hsep ih =>
    obtain ⟨⟨label, value⟩, parts, rfl, rfl, rfl⟩ := List.map_eq_cons_iff.mp hparts
    obtain ⟨hlabel, hlabels⟩ := List.forall_mem_cons.mp hlabels
    obtain ⟨hvalue, hvalues⟩ := List.forall_mem_cons.mp hvalues
    obtain ⟨s, hnext, hlater⟩ := ih hlabels hvalues rfl
    obtain ⟨gap, hgap, hskip⟩ := skipLabel_append hlabel hbefore
      (value ++ (after ++ ',' :: (text ++ container.closing :: rest)))
    have hcomma : Delimited (',' :: (text ++ container.closing :: rest)) :=
      ⟨_, _, rfl, .inr (.inl rfl)⟩
    refine ⟨_, by simpa using hskip, ?_⟩
    rw [hvalue.skip hgap (hcomma.of_blank hafter), ← hlater]
    exact skip_closed_comma (dropGap_append_cons hafter rfl _) hnext

/-- The blanks in front of the first part say nothing. -/
theorem Separated.trim {part : List Char} {parts : List (List Char)} {c : Char} {s : List Char}
    (h : Separated (part :: parts) text) (hpart : part = c :: s) (hc : isGap c = false) :
    ∃ trimmed, Separated (part :: parts) (c :: trimmed) ∧
      ∀ rest, dropGap (text ++ rest) = c :: (trimmed ++ rest) := by
  subst hpart
  cases h with
  | @last before _ after hbefore hafter =>
    refine ⟨s ++ after, .last blank_nil hafter, fun rest => ?_⟩
    simp only [List.append_assoc, List.cons_append]
    exact dropGap_append_cons hbefore hc _
  | @cons before _ after later _ hbefore hafter hsep =>
    refine ⟨s ++ (after ++ ',' :: later), .cons blank_nil hafter hsep,
      fun rest => ?_⟩
    simp only [List.append_assoc, List.cons_append]
    exact dropGap_append_cons hbefore hc _

/-- Either nothing or some parts are between the brackets. -/
theorem Enclosed.exists_inner {parts : List (List Char)} (h : Enclosed container parts text) :
    ∃ inner, text = container.opening :: (inner ++ [container.closing]) ∧
      (parts = [] ∧ Blank inner ∨ Separated parts inner) := by
  cases h with
  | empty hgap => exact ⟨_, rfl, .inl ⟨rfl, hgap⟩⟩
  | parts hsep => exact ⟨_, rfl, .inr hsep⟩

theorem skippable_container {parts : List (List Char × List Char)}
    (hlabels : ∀ part ∈ parts, container.IsLabel part.1)
    (hvalues : ∀ part ∈ parts, Skippable part.2)
    (h : Enclosed container (parts.map fun part => part.1 ++ part.2) text) : Skippable text := by
  have hopening : isGap container.opening = false ∧ container.opening ≠ ']' := by
    cases container <;> exact ⟨rfl, by decide⟩
  have hclosing : isGap container.closing = false := by cases container <;> rfl
  obtain ⟨inner, rfl, hinner⟩ := h.exists_inner
  refine ⟨⟨_, _, rfl, hopening⟩, fun {openContainers gap rest} hgap _ => ?_⟩
  rw [List.cons_append, List.append_assoc, skip_opening (dropGap_append_cons hgap hopening.1 _)]
  rcases hinner with ⟨-, hblank⟩ | hsep
  · exact skip_opened_closing (dropGap_append_cons hblank hclosing rest)
  · rcases parts with _ | ⟨⟨label, value⟩, parts⟩
    · cases hsep
    · obtain ⟨c, s, hpart, hc, hne⟩ := exists_cons_part (hlabels _ List.mem_cons_self)
        (hvalues _ List.mem_cons_self)
      obtain ⟨trimmed, htrimmed, hdrop⟩ := hsep.trim hpart hc
      obtain ⟨s', hlabel, hskip⟩ := skip_separated hlabels hvalues htrimmed openContainers rest
      rw [← hskip]
      exact skip_opened_part (hdrop _) hne hlabel

end Containers

theorem IsValue.skippable (h : IsValue text) : Skippable text := by
  induction h with
  | null => exact .of_scalar rfl (by decide) fun _ => rfl
  | yes => exact .of_scalar rfl (by decide) fun _ => rfl
  | no => exact .of_scalar rfl (by decide) fun _ => rfl
  | number h => exact skippable_number h
  | string h => exact skippable_string h
  | container _ _ hlabels _ hencl ih => exact skippable_container hlabels ih hencl

/-- A value in a container is skipped, with the blanks in front of it. -/
theorem skipValue_append (h : IsValue text) (hgap : Blank gap) (hrest : Delimited rest) :
    skipValue (gap ++ (text ++ rest)) = .ok rest := by
  rw [skipValue, h.skippable.skip hgap hrest, skip]

end Testbed.Json
