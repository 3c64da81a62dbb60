import Testbed.Text.CodeRanges

/-!
# White space, and text without it at either end

White space is the property of that name in the Unicode standard: twenty-five
characters, among them the no-break space, which is why it is wider than what a
programming language usually skips. A name that holds one of them cannot be told
from two names once it is listed on a line, so the same class serves for judging
names and for taking listings apart.
-/

namespace Testbed.Text

def blankRanges : List (Nat × Nat) :=
  [
    (0x0009, 0x000D), (0x0020, 0x0020), (0x0085, 0x0085), (0x00A0, 0x00A0),
    (0x1680, 0x1680), (0x2000, 0x200A), (0x2028, 0x2029), (0x202F, 0x202F),
    (0x205F, 0x205F), (0x3000, 0x3000)]

def isBlank (c : Char) : Bool :=
  inRanges blankRanges c

theorem isBlank_of_isWhitespace {c : Char} (h : c.isWhitespace = true) : isBlank c = true := by
  simp only [Char.isWhitespace, Bool.or_eq_true, decide_eq_true_eq] at h
  rcases h with ((rfl | rfl) | rfl) | rfl <;> decide

/-- What is left of a text without the white space at its two ends. -/
def trim (cs : List Char) : List Char :=
  ((cs.dropWhile isBlank).reverse.dropWhile isBlank).reverse

/-- The second text is the first one without the white space around it, and has none at its own
ends. -/
structure Trims (cs trimmed : List Char) : Prop where
  between : ∃ front back, cs = front ++ trimmed ++ back ∧
    (∀ c ∈ front, isBlank c = true) ∧ ∀ c ∈ back, isBlank c = true
  first : ∀ c ∈ trimmed.head?, isBlank c = false
  last : ∀ c ∈ trimmed.getLast?, isBlank c = false

variable {cs trimmed gap : List Char} {c : Char}

/-! ## White space in front -/

theorem isBlank_of_mem_takeWhile (hc : c ∈ cs.takeWhile isBlank) : isBlank c = true :=
  List.all_eq_true.mp List.all_takeWhile c hc

theorem not_isBlank_of_mem_head?_dropWhile (hc : c ∈ (cs.dropWhile isBlank).head?) :
    isBlank c = false := by
  have hhead := List.head?_dropWhile_not isBlank cs
  rwa [Option.mem_def.mp hc] at hhead

theorem dropWhile_append_of_isBlank (hgap : ∀ c ∈ gap, isBlank c = true)
    (hfirst : ∀ c ∈ cs.head?, isBlank c = false) : (gap ++ cs).dropWhile isBlank = cs := by
  rw [List.dropWhile_append_of_pos hgap]
  cases cs with
  | nil => rfl
  | cons c cs => rw [List.dropWhile_cons, hfirst c rfl, if_neg nofun]

/-! ## White space at both ends -/

theorem dropWhile_eq_trim_append (cs : List Char) :
    cs.dropWhile isBlank =
      trim cs ++ ((cs.dropWhile isBlank).reverse.takeWhile isBlank).reverse := by
  rw [trim, ← List.reverse_append, List.takeWhile_append_dropWhile, List.reverse_reverse]

theorem trims_trim (cs : List Char) : Trims cs (trim cs) where
  between := by
    refine ⟨cs.takeWhile isBlank, ((cs.dropWhile isBlank).reverse.takeWhile isBlank).reverse, ?_,
      fun _ => isBlank_of_mem_takeWhile, fun c hc => ?_⟩
    · rw [List.append_assoc, ← dropWhile_eq_trim_append, List.takeWhile_append_dropWhile]
    · exact isBlank_of_mem_takeWhile (List.mem_reverse.mp hc)
  first c hc := by
    have hhead : c ∈ (cs.dropWhile isBlank).head? := by
      rw [dropWhile_eq_trim_append, List.head?_append, Option.mem_def.mp hc]
      rfl
    exact not_isBlank_of_mem_head?_dropWhile hhead
  last c hc := by
    rw [trim, List.getLast?_reverse] at hc
    exact not_isBlank_of_mem_head?_dropWhile hc

theorem trim_eq_of_trims (h : Trims cs trimmed) : trim cs = trimmed := by
  obtain ⟨front, back, rfl, hfront, hback⟩ := h.between
  have hback' : ∀ c ∈ back.reverse, isBlank c = true := fun c hc =>
    hback c (List.mem_reverse.mp hc)
  have hlast : ∀ c ∈ trimmed.reverse.head?, isBlank c = false := by
    rw [List.head?_reverse]
    exact h.last
  rw [trim, List.append_assoc]
  cases trimmed with
  | nil =>
    rw [List.nil_append, List.dropWhile_append_of_pos hfront, ← List.append_nil back,
      List.dropWhile_append_of_pos hback]
    rfl
  | cons c ds =>
    have hfirst : ∀ d ∈ (c :: ds ++ back).head?, isBlank d = false := h.first
    rw [dropWhile_append_of_isBlank hfront hfirst, List.reverse_append,
      dropWhile_append_of_isBlank hback' hlast, List.reverse_reverse]

/-- There is one way only to take the white space away. -/
theorem trim_eq_iff : trim cs = trimmed ↔ Trims cs trimmed :=
  ⟨fun h => h ▸ trims_trim cs, trim_eq_of_trims⟩

theorem Trims.append_of_isBlank (h : Trims cs trimmed) (hgap : ∀ c ∈ gap, isBlank c = true) :
    Trims (cs ++ gap) trimmed := by
  obtain ⟨front, back, rfl, hfront, hback⟩ := h.between
  refine ⟨⟨front, back ++ gap, List.append_assoc _ _ _, hfront, fun c hc => ?_⟩, h.first, h.last⟩
  exact (List.mem_append.mp hc).elim (hback c) (hgap c)

theorem trim_append_of_isBlank (hgap : ∀ c ∈ gap, isBlank c = true) (cs : List Char) :
    trim (cs ++ gap) = trim cs :=
  trim_eq_of_trims ((trims_trim cs).append_of_isBlank hgap)

theorem trim_of_isBlank (hgap : ∀ c ∈ gap, isBlank c = true) : trim gap = [] :=
  trim_append_of_isBlank hgap []

theorem trim_eq_self (hfirst : ∀ c ∈ cs.head?, isBlank c = false)
    (hlast : ∀ c ∈ cs.getLast?, isBlank c = false) : trim cs = cs :=
  trim_eq_of_trims ⟨⟨[], [], (List.append_nil cs).symm, nofun, nofun⟩, hfirst, hlast⟩

end Testbed.Text
