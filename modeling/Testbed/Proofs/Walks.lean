import Testbed.Except

/-!
# Walks that stop at the first offence

A walk takes the items of a list one by one, remembers something of what it has taken, and
stops where an item offends. What it reports can be said without what it remembers: it is
the foremost objection to the first item that there is any objection to, given the items
before it (`FirstOffence`).

For that, the memory has to say of an item what the items before it say. `Walks` asks for
this one step at a time: the memory is right at the start, a step that is taken keeps it
right and leaves no objection behind, and a step that fails names the foremost one. What a
whole walk reports follows by an induction over the list, once for all walks
(`Walks.error_iff`).
-/

namespace Testbed

variable {α ε σ : Type}

/-- What is wrong with an item that comes after these, each with its rank: a lower one is
reported before a higher one. -/
abbrev Objections (α ε : Type) := List α → α → Nat → ε → Prop

namespace Objections

variable (objects : Objections α ε)

/-- There is no objection to the item below this rank. -/
def Clear (earlier : List α) (x : α) (rank : Nat) : Prop :=
  ∀ r < rank, ∀ e, ¬ objects earlier x r e

/-- The objection of the lowest rank. -/
def Foremost (earlier : List α) (x : α) (e : ε) : Prop :=
  ∃ rank, objects earlier x rank e ∧ objects.Clear earlier x rank

/-- There is no objection to any of the items, given those before it. -/
def Passes (items : List α) : Prop :=
  ∀ earlier x later, items = earlier ++ x :: later → ∀ rank e, ¬ objects earlier x rank e

/-- The foremost objection to the first item that there is an objection to. -/
def FirstOffence (items : List α) (e : ε) : Prop :=
  ∃ earlier x later, items = earlier ++ x :: later ∧ objects.Passes earlier ∧
    objects.Foremost earlier x e

variable {objects} {earlier items : List α} {x : α} {rank : Nat} {e : ε}

theorem clear_zero : objects.Clear earlier x 0 :=
  fun _ hr => absurd hr (Nat.not_lt_zero _)

theorem Clear.succ (h : objects.Clear earlier x rank) (hnone : ∀ e, ¬ objects earlier x rank e) :
    objects.Clear earlier x (rank + 1) := by
  intro r hr e
  rcases Nat.lt_succ_iff_lt_or_eq.mp hr with hr | rfl
  · exact h r hr e
  · exact hnone e

end Objections

/-- A fold that fails has taken some items and then fails on the next one. -/
theorem foldlM_eq_error_iff {step : σ → α → Except ε σ} {s : σ} {items : List α} {e : ε} :
    items.foldlM step s = .error e ↔
      ∃ earlier x later s', items = earlier ++ x :: later ∧ earlier.foldlM step s = .ok s' ∧
        step s' x = .error e := by
  induction items generalizing s with
  | nil =>
    refine ⟨fun h => (nomatch h), fun h => ?_⟩
    obtain ⟨earlier, x, later, -, hitems, -⟩ := h
    exact absurd hitems.symm (List.append_ne_nil_of_right_ne_nil _ (List.cons_ne_nil _ _))
  | cons y items ih =>
    rw [List.foldlM_cons]
    constructor
    · intro h
      cases hy : step s y with
      | error e' =>
        rw [hy] at h
        exact ⟨[], y, items, s, rfl, rfl, hy.trans h⟩
      | ok s₁ =>
        rw [hy] at h
        obtain ⟨earlier, x, later, s', rfl, hearlier, hx⟩ := ih.mp h
        refine ⟨y :: earlier, x, later, s', rfl, ?_, hx⟩
        rw [List.foldlM_cons, hy]
        exact hearlier
    · rintro ⟨_ | ⟨z, earlier⟩, x, later, s', hitems, hearlier, hx⟩
      · obtain ⟨rfl, rfl⟩ := List.cons.inj hitems
        cases hearlier
        rw [hx]
        rfl
      · obtain ⟨rfl, rfl⟩ := List.cons.inj hitems
        rw [List.foldlM_cons, bind_eq_ok_iff] at hearlier
        obtain ⟨s₁, hy, hearlier⟩ := hearlier
        rw [hy]
        exact ih.mpr ⟨earlier, x, later, s', rfl, hearlier, hx⟩

theorem forget_eq_error_iff {x : Except ε σ} {e : ε} :
    (x >>= fun _ => .ok ()) = .error e ↔ x = .error e := by
  cases x with
  | error e' =>
    show (Except.error e' : Except ε Unit) = .error e ↔ _
    rw [Except.error.injEq, Except.error.injEq]
  | ok s => exact iff_of_false (fun h => nomatch h) fun h => nomatch h

theorem forget_eq_ok_iff {x : Except ε σ} :
    (x >>= fun _ => .ok ()) = .ok () ↔ ∃ s, x = .ok s := by
  rw [bind_eq_ok_iff]
  exact exists_congr fun s => and_iff_left rfl

/-- What a walk remembers of the items it has taken, and how it decides on the next one. -/
structure Walks (objects : Objections α ε) (step : σ → α → Except ε σ) (start : σ)
    (Remembers : List α → σ → Prop) : Prop where
  start : Remembers [] start
  remembers : ∀ {earlier s x s'}, Remembers earlier s → step s x = .ok s' →
    Remembers (earlier ++ [x]) s'
  passes : ∀ {earlier s x s'}, Remembers earlier s → step s x = .ok s' →
    ∀ rank e, ¬ objects earlier x rank e
  foremost : ∀ {earlier s x e}, Remembers earlier s → step s x = .error e →
    objects.Foremost earlier x e
  unique : ∀ {earlier s x rank e e'}, Remembers earlier s → objects.Clear earlier x rank →
    objects earlier x rank e → objects earlier x rank e' → e = e'

namespace Walks

variable {objects : Objections α ε} {step : σ → α → Except ε σ} {start : σ}
  {Remembers : List α → σ → Prop} {items : List α} {e : ε}

theorem remembers_append (hwalk : Walks objects step start Remembers) {earlier : List α}
    {s s' : σ} (hs : Remembers earlier s) (hok : items.foldlM step s = .ok s') :
    Remembers (earlier ++ items) s' := by
  induction items generalizing earlier s with
  | nil =>
    cases hok
    rw [List.append_nil]
    exact hs
  | cons x items ih =>
    rw [List.foldlM_cons, bind_eq_ok_iff] at hok
    obtain ⟨s₁, hx, hok⟩ := hok
    rw [List.append_cons]
    exact ih (hwalk.remembers hs hx) hok

theorem remembers_of_ok (hwalk : Walks objects step start Remembers) {s : σ}
    (hok : items.foldlM step start = .ok s) : Remembers items s :=
  hwalk.remembers_append hwalk.start hok

theorem ok_iff (hwalk : Walks objects step start Remembers) :
    (∃ s, items.foldlM step start = .ok s) ↔ objects.Passes items := by
  constructor
  · rintro ⟨s, hok⟩ earlier x later rfl
    rw [List.foldlM_append, bind_eq_ok_iff] at hok
    obtain ⟨s', hearlier, hok⟩ := hok
    rw [List.foldlM_cons, bind_eq_ok_iff] at hok
    obtain ⟨s'', hx, -⟩ := hok
    exact hwalk.passes (hwalk.remembers_of_ok hearlier) hx
  · intro hpasses
    cases hrun : items.foldlM step start with
    | ok s => exact ⟨s, rfl⟩
    | error e =>
      obtain ⟨earlier, x, later, s, rfl, hearlier, hx⟩ := foldlM_eq_error_iff.mp hrun
      obtain ⟨rank, hobjects, -⟩ := hwalk.foremost (hwalk.remembers_of_ok hearlier) hx
      exact absurd hobjects (hpasses earlier x later rfl rank e)

theorem foremost_unique (hwalk : Walks objects step start Remembers) {earlier : List α} {x : α}
    {s : σ} {e' : ε} (hs : Remembers earlier s) (h : objects.Foremost earlier x e)
    (h' : objects.Foremost earlier x e') : e = e' := by
  obtain ⟨rank, hobjects, hclear⟩ := h
  obtain ⟨rank', hobjects', hclear'⟩ := h'
  rcases Nat.lt_trichotomy rank rank' with hlt | rfl | hlt
  · exact absurd hobjects (hclear' rank hlt e)
  · exact hwalk.unique hs hclear hobjects hobjects'
  · exact absurd hobjects' (hclear rank' hlt e')

theorem error_iff (hwalk : Walks objects step start Remembers) :
    items.foldlM step start = .error e ↔ objects.FirstOffence items e := by
  rw [foldlM_eq_error_iff]
  constructor
  · rintro ⟨earlier, x, later, s, hitems, hearlier, hx⟩
    exact ⟨earlier, x, later, hitems, hwalk.ok_iff.mp ⟨s, hearlier⟩,
      hwalk.foremost (hwalk.remembers_of_ok hearlier) hx⟩
  · rintro ⟨earlier, x, later, hitems, hpasses, hfirst⟩
    obtain ⟨s, hearlier⟩ := hwalk.ok_iff.mpr hpasses
    have hs := hwalk.remembers_of_ok hearlier
    refine ⟨earlier, x, later, s, hitems, hearlier, ?_⟩
    cases hx : step s x with
    | error e' => rw [hwalk.foremost_unique hs hfirst (hwalk.foremost hs hx)]
    | ok s' =>
      obtain ⟨rank, hobjects, -⟩ := hfirst
      exact absurd hobjects (hwalk.passes hs hx rank e)

end Walks

end Testbed
