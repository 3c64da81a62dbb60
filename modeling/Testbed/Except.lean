/-!
# Results that may be errors

A computation that can fail is opened by asking when it does not: success of the
whole is success of its parts. A computation that also has a state is run part by
part.
-/

namespace Testbed

theorem bind_eq_ok_iff {ε α β : Type} {x : Except ε α} {f : α → Except ε β} {b : β} :
    x >>= f = .ok b ↔ ∃ a, x = .ok a ∧ f a = .ok b := by
  cases x with
  | error e => exact ⟨fun h => (nomatch h), fun ⟨_, h, _⟩ => (nomatch h)⟩
  | ok a => exact ⟨fun h => ⟨a, rfl, h⟩, fun ⟨_, h, h'⟩ => by cases h; exact h'⟩

/-- A check has nothing to hand on. -/
theorem check_bind_eq_ok_iff {ε β : Type} {x : Except ε Unit} {f : Unit → Except ε β} {b : β} :
    x >>= f = .ok b ↔ x = .ok () ∧ f () = .ok b := by
  rw [bind_eq_ok_iff]
  exact ⟨fun ⟨(), h⟩ => h, fun h => ⟨(), h⟩⟩

theorem mapError_eq_ok_iff {ε δ α : Type} {x : Except ε α} {f : ε → δ} {a : α} :
    x.mapError f = .ok a ↔ x = .ok a := by
  cases x with
  | error e => exact ⟨fun h => (nomatch h), fun h => (nomatch h)⟩
  | ok b => exact ⟨fun h => by cases h; rfl, fun h => by cases h; rfl⟩

/-- What a computation answers, from what it answers when it may and from what it
needs. -/
theorem eq_ok_iff_of_imp {ε α : Type} {x : Except ε α} {a b : α} {p : Prop}
    (hdoes : p → x = .ok a) (hneeds : x = .ok b → p) : x = .ok b ↔ p ∧ b = a := by
  constructor
  · intro hx
    have ha := hdoes (hneeds hx)
    rw [hx, Except.ok.injEq] at ha
    exact ⟨hneeds hx, ha⟩
  · intro hcond
    obtain ⟨hp, rfl⟩ := hcond
    exact hdoes hp

theorem run_bind {ε σ α β : Type} (x : ExceptT ε (StateM σ) α) (f : α → ExceptT ε (StateM σ) β)
    (s : σ) :
    (x >>= f).run.run s =
      match x.run.run s with
      | (.ok a, s') => (f a).run.run s'
      | (.error e, s') => (.error e, s') := by
  show (match x.run.run s with | (r, s') => (ExceptT.bindCont f r).run s') = _
  rcases x.run.run s with ⟨_ | _, s'⟩
  · rfl
  · rfl

end Testbed
