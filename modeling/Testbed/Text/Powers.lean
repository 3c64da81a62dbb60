/-!
# Words that commute

Two words are the same in either order if and only if both are powers of one word
(`append_comm_iff`). The induction is on both lengths together: of two words that commute
the shorter one begins the longer one, and what is left of the longer one still commutes
with the shorter.

A separator in the middle changes little. Two words with a separator between them are the
same in either order if and only if both repeat one word with separators between
(`append_sep_comm_iff`): each of the two with a separator behind it is a power, and the word
it is a power of ends in that separator as well.
-/

namespace Testbed.Text

variable {α : Type} {u v w : List α} {sep : α}

/-- The word that many times in a row. -/
def power (w : List α) (n : Nat) : List α :=
  (List.replicate n w).flatten

theorem power_zero : power w 0 = [] := rfl

theorem power_succ {n : Nat} : power w (n + 1) = w ++ power w n := by
  rw [power, List.replicate_succ, List.flatten_cons, power]

theorem power_one : power w 1 = w := by
  rw [power_succ, power_zero, List.append_nil]

theorem power_add {m n : Nat} : power w (m + n) = power w m ++ power w n := by
  rw [power, ← List.replicate_append_replicate, List.flatten_append, power, power]

theorem exists_power_of_append_comm (h : u ++ v = v ++ u) :
    ∃ w i j, u = power w i ∧ v = power w j := by
  induction hn : u.length + v.length using Nat.strongRecOn generalizing u v with
  | ind n ih =>
    by_cases hu : u = []
    · exact ⟨v, 0, 1, hu, power_one.symm⟩
    by_cases hv : v = []
    · exact ⟨u, 1, 0, power_one.symm, hv⟩
    have hupos : 0 < u.length := List.length_pos_iff.mpr hu
    have hvpos : 0 < v.length := List.length_pos_iff.mpr hv
    rcases List.append_eq_append_iff.mp h with ⟨rest, hbegins, hends⟩ | ⟨rest, hbegins, hends⟩
    · have hlength : v.length = u.length + rest.length := by rw [hbegins, List.length_append]
      obtain ⟨w, i, j, hi, hj⟩ := ih (u.length + rest.length) (by omega)
        (hbegins.symm.trans hends) rfl
      exact ⟨w, i, i + j, hi, by rw [hbegins, hi, hj, power_add]⟩
    · have hlength : u.length = v.length + rest.length := by rw [hbegins, List.length_append]
      obtain ⟨w, i, j, hi, hj⟩ := ih (v.length + rest.length) (by omega)
        (hbegins.symm.trans hends) rfl
      exact ⟨w, i + j, i, by rw [hbegins, hi, hj, power_add], hi⟩

theorem append_comm_iff : u ++ v = v ++ u ↔ ∃ w i j, u = power w i ∧ v = power w j := by
  refine ⟨exists_power_of_append_comm, ?_⟩
  rintro ⟨w, i, j, rfl, rfl⟩
  rw [← power_add, Nat.add_comm, power_add]

/-! ## With separators -/

theorem power_append_sep (n : Nat) :
    power (w ++ [sep]) (n + 1) = [sep].intercalate (List.replicate (n + 1) w) ++ [sep] := by
  induction n with
  | zero => rw [power_one, List.replicate_one, List.intercalate_singleton]
  | succ n ih =>
    have hne : List.replicate (n + 1) w ≠ [] := List.cons_ne_nil _ _
    have hcons : List.replicate (n + 1 + 1) w = w :: List.replicate (n + 1) w := rfl
    rw [power_succ, ih, hcons, List.intercalate_cons_of_ne_nil hne]
    simp only [List.append_assoc]

/-- A power that ends in a separator is a power of a word that does. -/
theorem exists_of_append_sep_eq_power {i : Nat} (h : u ++ [sep] = power w i) :
    ∃ w' n, w = w' ++ [sep] ∧ i = n + 1 := by
  cases i with
  | zero => exact absurd h (List.append_ne_nil_of_right_ne_nil _ (List.cons_ne_nil _ _))
  | succ n =>
    rw [power_add, power_one] at h
    rcases List.eq_nil_or_concat w with rfl | ⟨w', last, rfl⟩
    · have hnil : power ([] : List α) n = [] := List.flatten_replicate_nil
      rw [hnil] at h
      exact absurd h (List.append_ne_nil_of_right_ne_nil _ (List.cons_ne_nil _ _))
    · rw [List.concat_eq_append, ← List.append_assoc] at h
      obtain ⟨-, hlast⟩ := List.append_inj' h rfl
      exact ⟨w', n, by rw [List.concat_eq_append, ← hlast], rfl⟩

theorem append_sep_comm_iff :
    u ++ [sep] ++ v = v ++ [sep] ++ u ↔ ∃ w i j,
      u = [sep].intercalate (List.replicate (i + 1) w) ∧
        v = [sep].intercalate (List.replicate (j + 1) w) := by
  have hends : u ++ [sep] ++ v = v ++ [sep] ++ u ↔
      (u ++ [sep]) ++ (v ++ [sep]) = (v ++ [sep]) ++ (u ++ [sep]) := by
    rw [← List.append_assoc, ← List.append_assoc, List.append_left_inj]
  rw [hends]
  constructor
  · intro h
    obtain ⟨w, i, j, hu, hv⟩ := append_comm_iff.mp h
    obtain ⟨w', i, rfl, rfl⟩ := exists_of_append_sep_eq_power hu
    obtain ⟨-, j, -, rfl⟩ := exists_of_append_sep_eq_power hv
    rw [power_append_sep, List.append_left_inj] at hu hv
    exact ⟨w', i, j, hu, hv⟩
  · rintro ⟨w, i, j, rfl, rfl⟩
    rw [← power_append_sep, ← power_append_sep]
    exact append_comm_iff.mpr ⟨_, _, _, rfl, rfl⟩

end Testbed.Text
