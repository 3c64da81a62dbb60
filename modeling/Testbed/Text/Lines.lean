/-!
# The lines of a text

A line ends at a line feed, and the last one may do without. A text that ends in
a line feed therefore has no empty line after it. A carriage return in front of
the line feed stays in the line; whoever reads lines that may carry one trims
them, since it is blank.
-/

namespace Testbed.Text

def lines : List Char → List (List Char)
  | [] => []
  | c :: cs =>
    if c = '\n' then [] :: lines cs
    else
      match lines cs with
      | [] => [[c]]
      | line :: more => (c :: line) :: more

@[simp]
theorem lines_nil : lines [] = [] := rfl

/-- A piece without a line feed, once it is ended, is the first line. -/
theorem lines_append_newline {line : List Char} (h : '\n' ∉ line) (rest : List Char) :
    lines (line ++ '\n' :: rest) = line :: lines rest := by
  induction line with
  | nil => simp [lines]
  | cons c cs ih =>
      simp only [List.mem_cons, not_or] at h
      simp [lines, ih h.2, Ne.symm h.1]

end Testbed.Text
