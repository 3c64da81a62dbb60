/-!
# Cutting text at a separator

Cutting never loses anything and never comes up empty: `n` separators make
`n + 1` pieces, some of which may hold no character, and the pieces joined by
the separator are the text again. Pieces that hold no separator are what cutting
their join gives back.
-/

namespace Testbed.Text

/-- The pieces between the separators, in order. -/
def pieces (sep : Char) : List Char → List (List Char)
  | [] => [[]]
  | c :: cs =>
    if c = sep then [] :: pieces sep cs
    else
      match pieces sep cs with
      | [] => [[c]]
      | p :: ps => (c :: p) :: ps

theorem pieces_ne_nil (sep : Char) (cs : List Char) : pieces sep cs ≠ [] := by
  cases cs with
  | nil => simp [pieces]
  | cons c cs =>
      rw [pieces]
      split
      · simp
      · split <;> simp

theorem pieces_of_not_mem {sep : Char} {cs : List Char} (h : sep ∉ cs) :
    pieces sep cs = [cs] := by
  induction cs with
  | nil => rfl
  | cons c cs ih =>
      simp only [List.mem_cons, not_or] at h
      simp [pieces, ih h.2, Ne.symm h.1]

/-- A separator ends a piece whatever the text before it is. -/
theorem pieces_append_sep (sep : Char) (before rest : List Char) :
    pieces sep (before ++ sep :: rest) = pieces sep before ++ pieces sep rest := by
  induction before with
  | nil => simp [pieces]
  | cons c cs ih =>
      by_cases hc : c = sep
      · simp [pieces, hc, ih]
      · obtain ⟨p, ps, hp⟩ := List.exists_cons_of_ne_nil (pieces_ne_nil sep cs)
        rw [hp] at ih
        simp [pieces, hc, ih, hp]

theorem pieces_append_cons {sep : Char} {p : List Char} (h : sep ∉ p) (rest : List Char) :
    pieces sep (p ++ sep :: rest) = p :: pieces sep rest := by
  rw [pieces_append_sep, pieces_of_not_mem h, List.singleton_append]

theorem of_mem_pieces {sep : Char} {p cs : List Char} (hp : p ∈ pieces sep cs) :
    sep ∉ p ∧ p ⊆ cs := by
  induction cs generalizing p with
  | nil =>
      obtain rfl : p = [] := List.mem_singleton.mp hp
      exact ⟨List.not_mem_nil, List.nil_subset _⟩
  | cons c cs ih =>
      obtain ⟨q, qs, hq⟩ := List.exists_cons_of_ne_nil (pieces_ne_nil sep cs)
      have hrest {r : List Char} (hr : r ∈ q :: qs) : sep ∉ r ∧ r ⊆ c :: cs :=
        (ih (hq ▸ hr)).imp_right fun hsub => List.subset_cons_of_subset c hsub
      by_cases hc : c = sep
      · rw [pieces, if_pos hc, hq, List.mem_cons] at hp
        rcases hp with rfl | hp
        · exact ⟨List.not_mem_nil, List.nil_subset _⟩
        · exact hrest hp
      · rw [pieces, if_neg hc, hq, List.mem_cons] at hp
        rcases hp with rfl | hp
        · obtain ⟨hsep, hsub⟩ := ih (hq ▸ List.mem_cons_self)
          exact ⟨List.not_mem_cons_of_ne_of_not_mem (Ne.symm hc) hsep, List.cons_subset_cons c hsub⟩
        · exact hrest (List.mem_cons_of_mem q hp)

theorem intercalate_pieces (sep : Char) (cs : List Char) :
    [sep].intercalate (pieces sep cs) = cs := by
  induction cs with
  | nil => rfl
  | cons c cs ih =>
      cases hp : pieces sep cs with
      | nil => exact absurd hp (pieces_ne_nil sep cs)
      | cons p ps =>
          rw [hp] at ih
          by_cases hc : c = sep
          · subst hc
            simp only [pieces, hp, if_true]
            simpa [List.intercalate] using ih
          · simp only [pieces, hp, if_neg hc]
            cases ps <;> simpa [List.intercalate] using ih

/-- Replacing each element by itself changes nothing. -/
theorem flatMap_eq_self {α : Type} {f : α → List α} {xs : List α} (h : ∀ x ∈ xs, f x = [x]) :
    xs.flatMap f = xs := by
  have hself : xs.map f = xs.map fun x => [x] := List.map_congr_left h
  rw [List.flatMap_def, hself, ← List.flatMap_def, List.flatMap_singleton']

/-- Cutting a join cuts each part by itself. -/
theorem pieces_intercalate_eq_flatMap {sep : Char} {ps : List (List Char)} (hne : ps ≠ []) :
    pieces sep ([sep].intercalate ps) = ps.flatMap (pieces sep) := by
  induction ps with
  | nil => exact absurd rfl hne
  | cons p ps ih =>
      cases ps with
      | nil => rw [List.intercalate_singleton, List.flatMap_singleton]
      | cons q qs =>
          rw [List.intercalate_cons_cons, List.append_assoc, List.singleton_append,
            pieces_append_sep, ih (List.cons_ne_nil q qs)]
          rfl

theorem pieces_intercalate {sep : Char} {ps : List (List Char)} (hne : ps ≠ [])
    (hps : ∀ p ∈ ps, sep ∉ p) : pieces sep ([sep].intercalate ps) = ps := by
  rw [pieces_intercalate_eq_flatMap hne]
  exact flatMap_eq_self fun p hp => pieces_of_not_mem (hps p hp)

theorem mem_intercalate_of_mem {sep c : Char} {p : List Char} {ps : List (List Char)}
    (hp : p ∈ ps) (hc : c ∈ p) : c ∈ [sep].intercalate ps := by
  induction ps with
  | nil => cases hp
  | cons q qs ih =>
      cases qs with
      | nil =>
          obtain rfl : p = q := List.mem_singleton.mp hp
          rwa [List.intercalate_singleton]
      | cons r rs =>
          rw [List.intercalate_cons_cons, List.mem_append, List.mem_append]
          rcases List.mem_cons.mp hp with rfl | hp
          · exact .inl (.inl hc)
          · exact .inr (ih hp)

theorem eq_or_mem_of_mem_intercalate {sep c : Char} {ps : List (List Char)}
    (hc : c ∈ [sep].intercalate ps) : c = sep ∨ ∃ p ∈ ps, c ∈ p := by
  induction ps with
  | nil => exact absurd hc List.not_mem_nil
  | cons p ps ih =>
      cases ps with
      | nil =>
          rw [List.intercalate_singleton] at hc
          exact .inr ⟨p, List.mem_cons_self, hc⟩
      | cons q qs =>
          rw [List.intercalate_cons_cons, List.mem_append, List.mem_append,
            List.mem_singleton] at hc
          rcases hc with (hc | hc) | hc
          · exact .inr ⟨p, List.mem_cons_self, hc⟩
          · exact .inl hc
          · exact (ih hc).imp_right fun ⟨r, hr, hmem⟩ => ⟨r, List.mem_cons_of_mem p hr, hmem⟩

end Testbed.Text
