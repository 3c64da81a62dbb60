import Mathlib.Data.List.Forall2
import Mathlib.Data.List.TakeWhile
import Testbed.Except
import Testbed.Listing
import Testbed.Topology.Examples

/-!
# Which listings can be read

A listing is read line by line, and a line is read by cutting it at its first blank: what
is in front is the name, and what is behind is nothing or the number. `Names` says which
lines there are without cutting anything, as a name and what may follow it, and since a
name has no blank in it there is one way only to see a line like that. Names may look like
parts of a number, as `(id:` does, and are names all the same.

Lines end at a line feed or at a carriage return and a line feed (`endedLines`). A reader
that knows of line feeds only leaves the carriage return at the end of the line, where
trimming takes it away together with all other blanks. This is why it makes no difference.
-/

namespace Testbed

namespace Text

/-- The lines of a text, each ended by a line feed or by a carriage return and a line feed.
The last one may do without. -/
def endedLines : List Char → List (List Char)
  | [] => []
  | '\n' :: cs => [] :: endedLines cs
  | '\r' :: '\n' :: cs => [] :: endedLines cs
  | c :: cs =>
    match endedLines cs with
    | [] => [[c]]
    | line :: more => (c :: line) :: more

/-- A line by line feeds is a line, or it has the carriage return of its ending as well. -/
theorem forall₂_endedLines (cs : List Char) :
    List.Forall₂ (fun line line' => line' = line ∨ line' = line ++ ['\r']) (endedLines cs)
      (lines cs) := by
  induction cs using endedLines.induct with
  | case1 => exact .nil
  | case2 cs ih =>
    rw [endedLines, lines, if_pos rfl]
    exact .cons (.inl rfl) ih
  | case3 cs ih =>
    rw [endedLines, lines, if_neg (by decide), lines, if_pos rfl]
    exact .cons (.inr rfl) ih
  | case4 c cs hc hpair hnil ih =>
    -- The last character, and nothing ends its line.
    have hlines : lines cs = [] := List.forall₂_nil_left_iff.mp (hnil ▸ ih)
    rw [endedLines, lines, if_neg hc, hnil, hlines]
    · exact .cons (.inl rfl) .nil
    · exact hc
    · exact hpair
  | case5 c cs hc hpair line more hcons ih =>
    obtain ⟨line', more', hline, hmore, hlines⟩ := List.forall₂_cons_left_iff.mp (hcons ▸ ih)
    rw [endedLines, lines, if_neg hc, hcons, hlines]
    · exact .cons (hline.imp (congrArg (c :: ·)) (congrArg (c :: ·))) hmore
    · exact hc
    · exact hpair

theorem map_trim_endedLines (cs : List Char) :
    (endedLines cs).map trim = (lines cs).map trim := by
  have hreturn : ∀ c ∈ ['\r'], isBlank c = true := List.forall_mem_singleton.mpr (by decide)
  have hsame : List.Forall₂ (· = ·) ((endedLines cs).map trim) ((lines cs).map trim) := by
    rw [List.forall₂_map_left_iff, List.forall₂_map_right_iff]
    refine (forall₂_endedLines cs).imp fun line line' hline => ?_
    rcases hline with rfl | rfl
    · rfl
    · exact (trim_append_of_isBlank hreturn line).symm
  rwa [List.forall₂_eq_eq_eq] at hsame

end Text

namespace Listing

open Text

/-! ## Lines that name a namespace -/

/-- What can be the name of a namespace in a listing. -/
def IsName (name : String) : Prop :=
  name ≠ "" ∧ ∀ c ∈ name.toList, isBlank c = false

theorem isName_iff {name : String} :
    IsName name ↔ name ≠ "" ∧ (name.toList.all fun c => !isBlank c) = true := by
  simp only [IsName, List.all_eq_true, Bool.not_eq_true']

instance (name : String) : Decidable (IsName name) :=
  decidable_of_iff' _ isName_iff

/-- What can stand behind a name. -/
inductive IsNote : List Char → Prop
  | none : IsNote []
  | number {digits : List Char} : digits ≠ [] → (∀ c ∈ digits, isDecimalDigit c = true) →
      IsNote (" (id: ".toList ++ digits ++ [')'])

/-- A trimmed line with this name on it, and with its number or without. -/
def Names (line : List Char) (name : String) : Prop :=
  IsName name ∧ ∃ note, IsNote note ∧ line = name.toList ++ note

/-- What there is on some lines, without the blanks around it. -/
def entriesOn (lines : List (List Char)) : List (List Char) :=
  (lines.map trim).filter (· ≠ [])

/-- What there is on the lines of a text, without the blanks around it. -/
def entries (text : String) : List (List Char) :=
  entriesOn (endedLines text.toList)

variable {line note rest : List Char} {lines : List (List Char)} {text name : String}
  {names : List String}

theorem isNumberNote_iff :
    isNumberNote rest = true ↔ ∃ digits, digits ≠ [] ∧
      (∀ c ∈ digits, isDecimalDigit c = true) ∧ rest = " (id: ".toList ++ digits ++ [')'] := by
  constructor
  · intro hnote
    unfold isNumberNote at hnote
    split at hnote
    · next rest =>
      simp only [Bool.and_eq_true, Bool.not_eq_true', List.isEmpty_eq_false_iff,
        decide_eq_true_eq] at hnote
      obtain ⟨hdigits, hclose⟩ := hnote
      refine ⟨rest.takeWhile isDecimalDigit, hdigits, fun c => List.mem_takeWhile_imp, ?_⟩
      rw [← hclose, List.append_assoc, List.takeWhile_append_dropWhile]
      rfl
    · cases hnote
  · rintro ⟨digits, hne, hdigits, rfl⟩
    have hclose : isDecimalDigit ')' = false := by decide
    show (!((digits ++ [')']).takeWhile isDecimalDigit).isEmpty &&
      decide ((digits ++ [')']).dropWhile isDecimalDigit = [')'])) = true
    rw [List.takeWhile_append_of_pos hdigits, List.dropWhile_append_of_pos hdigits]
    simp [hclose, hne]

theorem isNote_iff : IsNote rest ↔ rest.isEmpty = true ∨ isNumberNote rest = true := by
  rw [isNumberNote_iff, List.isEmpty_iff]
  constructor
  · rintro (_ | ⟨hne, hdigits⟩)
    · exact .inl rfl
    · exact .inr ⟨_, hne, hdigits, rfl⟩
  · rintro (rfl | ⟨digits, hne, hdigits, rfl⟩)
    · exact .none
    · exact .number hne hdigits

instance (note : List Char) : Decidable (IsNote note) :=
  decidable_of_iff' _ isNote_iff

theorem IsNote.isBlank_of_mem_head? {c : Char} (hnote : IsNote note) (hc : c ∈ note.head?) :
    isBlank c = true := by
  cases hnote with
  | none => cases hc
  | number =>
    cases hc
    decide

/-- A line names what stands in front of its first blank, or nothing. -/
theorem name?_eq_some_iff : name? line = some name ↔ Names line name := by
  rw [name?]
  constructor
  · intro hname
    split at hname
    · cases hname
    · next hword =>
      split at hname
      · next hrest =>
        cases hname
        have hnote : IsNote (line.dropWhile (!isBlank ·)) :=
          isNote_iff.mpr (Bool.or_eq_true_iff.mp hrest)
        refine ⟨⟨?_, fun c hc => ?_⟩, _, hnote, ?_⟩
        · intro hempty
          exact hword (List.isEmpty_iff.mpr (String.ofList_eq_empty_iff.mp hempty))
        · rw [String.toList_ofList] at hc
          simpa using List.mem_takeWhile_imp hc
        · rw [String.toList_ofList, List.takeWhile_append_dropWhile]
      · cases hname
  · rintro ⟨⟨hne, hword⟩, note, hnote, rfl⟩
    have hword' : ∀ c ∈ name.toList, (!isBlank c) = true := fun c hc => by rw [hword c hc]; rfl
    have hcut : note.takeWhile (!isBlank ·) = [] ∧ note.dropWhile (!isBlank ·) = note := by
      cases note with
      | nil => exact ⟨rfl, rfl⟩
      | cons c cs =>
        have hblank : isBlank c = true := hnote.isBlank_of_mem_head? rfl
        rw [List.takeWhile_cons, List.dropWhile_cons, hblank]
        exact ⟨rfl, rfl⟩
    rw [List.takeWhile_append_of_pos hword', List.dropWhile_append_of_pos hword', hcut.1, hcut.2,
      List.append_nil, if_neg, if_pos, String.ofList_toList]
    · exact Bool.or_eq_true_iff.mpr (isNote_iff.mp hnote)
    · rw [List.isEmpty_iff, String.toList_eq_nil_iff]
      exact hne

/-! ## Reading -/

theorem entriesOn_cons_of_eq (hline : trim line = []) :
    entriesOn (line :: lines) = entriesOn lines :=
  List.filter_cons_of_neg (by simp [hline])

theorem entriesOn_cons_of_ne (hline : trim line ≠ []) :
    entriesOn (line :: lines) = trim line :: entriesOn lines :=
  List.filter_cons_of_pos (by simp [hline])

theorem ofLines_cons_of_eq (hline : trim line = []) : ofLines (line :: lines) = ofLines lines := by
  rw [ofLines, hline]
  rfl

theorem ofLines_cons_of_names (hline : trim line ≠ []) (hname : Names (trim line) name) :
    ofLines (line :: lines) = ofLines lines >>= fun names => .ok (name :: names) := by
  rw [ofLines]
  simp only [List.isEmpty_iff, if_neg hline, name?_eq_some_iff.mpr hname]
  rfl

theorem ofLines_cons_of_not_names (hline : trim line ≠ [])
    (hnot : ∀ name, ¬ Names (trim line) name) :
    ofLines (line :: lines) = .error (String.ofList (trim line)) := by
  have hnone : name? (trim line) = none :=
    Option.eq_none_iff_forall_ne_some.mpr fun name hname => hnot name (name?_eq_some_iff.mp hname)
  rw [ofLines]
  simp only [List.isEmpty_iff, if_neg hline, hnone]

theorem names_inj {name' : String} (hname : Names line name) (hname' : Names line name') :
    name = name' :=
  Option.some.inj ((name?_eq_some_iff.mpr hname).symm.trans (name?_eq_some_iff.mpr hname'))

theorem ofLines_eq_ok_iff :
    ofLines lines = .ok names ↔ List.Forall₂ Names (entriesOn lines) names := by
  induction lines generalizing names with
  | nil =>
    constructor
    · rintro ⟨⟩
      exact .nil
    · rintro ⟨⟩
      rfl
  | cons line lines ih =>
    by_cases hline : trim line = []
    · rw [ofLines_cons_of_eq hline, entriesOn_cons_of_eq hline, ih]
    rw [entriesOn_cons_of_ne hline, List.forall₂_cons_left_iff]
    by_cases hnames : ∃ name, Names (trim line) name
    · obtain ⟨name, hname⟩ := hnames
      rw [ofLines_cons_of_names hline hname, bind_eq_ok_iff]
      constructor
      · rintro ⟨later, hlater, ⟨⟩⟩
        exact ⟨name, later, hname, ih.mp hlater, rfl⟩
      · rintro ⟨name', later, hname', hlater, rfl⟩
        exact ⟨later, ih.mpr hlater, by rw [names_inj hname hname']⟩
    · rw [not_exists] at hnames
      rw [ofLines_cons_of_not_names hline hnames]
      exact iff_of_false nofun fun ⟨name, _, hname, _⟩ => hnames name hname

/-- The first entry of its kind is the one in front, or those in front are not of it. -/
theorem exists_split_cons_iff {α : Type} {p q : α → Prop} {x : α} {xs : List α} :
    (∃ before y after, x :: xs = before ++ y :: after ∧ (∀ e ∈ before, p e) ∧ q y) ↔
      q x ∨ p x ∧ ∃ before y after, xs = before ++ y :: after ∧ (∀ e ∈ before, p e) ∧ q y := by
  constructor
  · rintro ⟨_ | ⟨z, before⟩, y, after, hsplit, hbefore, hy⟩
    · obtain ⟨rfl, -⟩ := List.cons.inj hsplit
      exact .inl hy
    · obtain ⟨rfl, rfl⟩ := List.cons.inj hsplit
      obtain ⟨hx, hbefore⟩ := List.forall_mem_cons.mp hbefore
      exact .inr ⟨hx, before, y, after, rfl, hbefore, hy⟩
  · rintro (hx | ⟨hx, before, y, after, rfl, hbefore, hy⟩)
    · exact ⟨[], x, xs, rfl, fun _ he => absurd he List.not_mem_nil, hx⟩
    · exact ⟨x :: before, y, after, rfl, List.forall_mem_cons.mpr ⟨hx, hbefore⟩, hy⟩

theorem ofLines_eq_error_iff {found : String} :
    ofLines lines = .error found ↔ ∃ before entry after,
      entriesOn lines = before ++ entry :: after ∧ (∀ e ∈ before, ∃ name, Names e name) ∧
        (∀ name, ¬ Names entry name) ∧ found = String.ofList entry := by
  induction lines with
  | nil =>
    refine iff_of_false nofun ?_
    rintro ⟨before, entry, after, hsplit, -⟩
    exact absurd hsplit.symm (List.append_ne_nil_of_right_ne_nil _ (List.cons_ne_nil _ _))
  | cons line lines ih =>
    by_cases hline : trim line = []
    · rw [ofLines_cons_of_eq hline, entriesOn_cons_of_eq hline, ih]
    rw [entriesOn_cons_of_ne hline, exists_split_cons_iff]
    by_cases hnames : ∃ name, Names (trim line) name
    · rw [or_iff_right fun hnot => hnames.elim hnot.1, and_iff_right hnames, ← ih]
      obtain ⟨name, hname⟩ := hnames
      rw [ofLines_cons_of_names hline hname]
      cases ofLines lines with
      | error found' => exact Iff.rfl
      | ok names => exact iff_of_false nofun nofun
    · rw [or_iff_left fun hlater => hnames hlater.1]
      rw [not_exists] at hnames
      rw [ofLines_cons_of_not_names hline hnames, and_iff_right hnames, Except.error.injEq, eq_comm]

theorem entries_eq (text : String) : entries text = entriesOn (Text.lines text.toList) := by
  rw [entries, entriesOn, map_trim_endedLines]
  rfl

theorem parse_eq_ok_iff : parse text = .ok names ↔ List.Forall₂ Names (entries text) names := by
  rw [parse, ofLines_eq_ok_iff, entries_eq]

theorem parse_eq_error_iff {found : String} :
    parse text = .error found ↔ ∃ before entry after,
      entries text = before ++ entry :: after ∧ (∀ e ∈ before, ∃ name, Names e name) ∧
        (∀ name, ¬ Names entry name) ∧ found = String.ofList entry := by
  rw [parse, ofLines_eq_error_iff, entries_eq]

/-! ## Printed listings -/

/-- A text that lists these names, each on a line of its own, with or without a number, and
with any number of blank lines anywhere. -/
inductive Prints : List Char → List String → Prop
  | nil : Prints [] []
  | blank {gap rest : List Char} {names : List String} :
      (∀ c ∈ gap, isBlank c = true) → '\n' ∉ gap → Prints rest names →
      Prints (gap ++ '\n' :: rest) names
  | name {name : String} {note gap rest : List Char} {names : List String} :
      IsName name → IsNote note → gap = [] ∨ gap = ['\r'] → Prints rest names →
      Prints (name.toList ++ note ++ gap ++ '\n' :: rest) (name :: names)

theorem newline_not_mem_of_isName (hname : IsName name) : '\n' ∉ name.toList := fun hmem =>
  absurd (hname.2 _ hmem) (by decide)

theorem IsNote.newline_not_mem (hnote : IsNote note) : '\n' ∉ note := by
  cases hnote with
  | none => exact List.not_mem_nil
  | @number digits _ hdigits =>
    have hdigit : '\n' ∉ digits := fun hmem => absurd (hdigits _ hmem) (by decide)
    simp [hdigit]

/-- A line with a name on it has nothing to be trimmed. -/
theorem Names.trim_eq (hnames : Names line name) : trim line = line := by
  obtain ⟨⟨hne, hword⟩, note, hnote, rfl⟩ := hnames
  obtain ⟨first, more, hfirst⟩ :=
    List.exists_cons_of_ne_nil (mt String.toList_eq_nil_iff.mp hne)
  refine trim_eq_self (fun c hc => ?_) (fun c hc => ?_)
  · rw [hfirst] at hc
    cases hc
    exact hword first (hfirst ▸ List.mem_cons_self)
  · cases hnote with
    | none =>
      rw [List.append_nil] at hc
      exact hword c (List.mem_of_getLast? hc)
    | number =>
      rw [← List.append_assoc, List.getLast?_concat] at hc
      cases hc
      decide

theorem Names.ne_nil (hnames : Names line name) : line ≠ [] := by
  obtain ⟨⟨hne, -⟩, note, -, rfl⟩ := hnames
  exact List.append_ne_nil_of_left_ne_nil (mt String.toList_eq_nil_iff.mp hne) note

theorem forall₂_entriesOn_of_prints {cs : List Char} (hprints : Prints cs names) :
    List.Forall₂ Names (entriesOn (Text.lines cs)) names := by
  induction hprints with
  | nil => exact .nil
  | blank hgap hline _ ih =>
    rw [lines_append_newline hline, entriesOn_cons_of_eq (trim_of_isBlank hgap)]
    exact ih
  | @name name note gap rest names hname hnote hgap _ ih =>
    have hnames : Names (name.toList ++ note) name := ⟨hname, note, hnote, rfl⟩
    have hgap' : '\n' ∉ gap ∧ ∀ c ∈ gap, isBlank c = true := by
      rcases hgap with rfl | rfl
      · exact ⟨List.not_mem_nil, List.forall_mem_nil _⟩
      · exact ⟨by decide, List.forall_mem_singleton.mpr (by decide)⟩
    have hline : '\n' ∉ name.toList ++ note ++ gap := by
      simp only [List.mem_append, not_or]
      exact ⟨⟨newline_not_mem_of_isName hname, hnote.newline_not_mem⟩, hgap'.1⟩
    have htrim : trim (name.toList ++ note ++ gap) = name.toList ++ note := by
      rw [trim_append_of_isBlank hgap'.2, hnames.trim_eq]
    have hfilled : trim (name.toList ++ note ++ gap) ≠ [] := by
      rw [htrim]
      exact hnames.ne_nil
    rw [lines_append_newline hline, entriesOn_cons_of_ne hfilled, htrim]
    exact .cons hnames ih

/-- Reading a listing: which texts are read and as which names, which line is found fault
with otherwise, and that the names of a printed listing are read back, so that a topology
collides with what was listed and with nothing else. -/
theorem parse_exact :
    (∀ (text : String) (names : List String),
      parse text = .ok names ↔ List.Forall₂ Names (entries text) names) ∧
    (∀ text found : String, parse text = .error found ↔ ∃ before entry after,
      entries text = before ++ entry :: after ∧ (∀ e ∈ before, ∃ name, Names e name) ∧
        (∀ name, ¬ Names entry name) ∧ found = String.ofList entry) ∧
    ∀ (text : String) (names : List String), Prints text.toList names →
      parse text = .ok names ∧ ∀ t : Topology,
        ((t.collision? names).isSome = true ↔ ∃ ns ∈ t.namespaces, ns ∈ names) ∧
        ∀ ns, t.collision? names = some ns ↔ ns ∈ names ∧
          ∃ before after, t.namespaces = before ++ ns :: after ∧
            ∀ earlier ∈ before, earlier ∉ names := by
  refine ⟨fun text names => parse_eq_ok_iff, fun text found => parse_eq_error_iff,
    fun text names hprints => ⟨?_, fun t => ⟨?_, fun ns => Topology.collision?_eq_some_iff⟩⟩⟩
  · rw [parse_eq_ok_iff, entries_eq]
    exact forall₂_entriesOn_of_prints hprints
  · simp only [Topology.collision?, List.find?_isSome, decide_eq_true_eq]

/-- A name that begins like a number, lines with and without a carriage return, and a blank
line. Two names of the topology are listed, and the one that is created first counts. -/
theorem parse_exact_oddNames :
    Prints "Y (id: 3)\r\n \n(id: (id: 07)\nX\n".toList ["Y", "(id:", "X"] ∧
      parse "Y (id: 3)\r\n \n(id: (id: 07)\nX\n" = .ok ["Y", "(id:", "X"] ∧
      Topology.twoRouterLan.collision? ["Y", "(id:", "X"] = some "X" := by
  have hprints : Prints "Y (id: 3)\r\n \n(id: (id: 07)\nX\n".toList ["Y", "(id:", "X"] := by
    have hX : IsName "X" := by decide
    have hY : IsName "Y" := by decide
    have hid : IsName "(id:" := by decide
    have hthree : IsNote " (id: 3)".toList := by decide
    have hseven : IsNote " (id: 07)".toList := by decide
    have hspace : ∀ c ∈ [' '], isBlank c = true := List.forall_mem_singleton.mpr (by decide)
    have hlast : Prints _ ["(id:", "X"] :=
      .name hid hseven (.inl rfl) (.name hX .none (.inl rfl) .nil)
    exact .name hY hthree (.inr rfl) (.blank hspace (by decide) hlast)
  obtain ⟨hparse, hcollision⟩ := parse_exact.2.2 _ _ hprints
  refine ⟨hprints, hparse, ((hcollision Topology.twoRouterLan).2 "X").mpr ?_⟩
  exact ⟨by decide, ["L"], ["Y"], rfl, by decide⟩

end Listing

end Testbed
