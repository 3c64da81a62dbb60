/-!
# Finite maps from names

A host keeps its interfaces and its namespaces by name. The bindings are a list
that strictly ascends by name, so a map has one representation: two maps that
answer every look-up alike are equal, in the order they were built or not. That
is what lets the state of a host be compared by equality, and what makes listing
it in order a projection.

Names are compared by code points, which is the order of their UTF-8 bytes.

Everything below is stated through `find?`. The representation appears in this
file only, and in `bindings` where a host is printed or counted.
-/

namespace Testbed

structure NameMap (α : Type) where
  bindings : List (String × α)
  sorted : bindings.Pairwise (fun x y => x.1 < y.1)
  deriving DecidableEq

namespace NameMap

variable {α β : Type}

theorem eq_of_not_lt {a b : String} (hab : ¬ a < b) (hba : ¬ b < a) : a = b :=
  String.le_antisymm (String.not_lt.mp hba) (String.not_lt.mp hab)

def empty : NameMap α := ⟨[], .nil⟩

instance : EmptyCollection (NameMap α) := ⟨empty⟩

def names (m : NameMap α) : List String :=
  m.bindings.map (·.1)

def find? (m : NameMap α) (name : String) : Option α :=
  (m.bindings.find? (·.1 = name)).map (·.2)

instance : Membership String (NameMap α) := ⟨fun m name => (m.find? name).isSome = true⟩

instance (m : NameMap α) (name : String) : Decidable (name ∈ m) :=
  inferInstanceAs (Decidable ((m.find? name).isSome = true))

/-- Binds the name, whatever it was bound to before. -/
def insert (m : NameMap α) (name : String) (value : α) : NameMap α where
  bindings := m.bindings.filter (·.1 < name) ++ (name, value) :: m.bindings.filter (name < ·.1)
  sorted := by
    rw [List.pairwise_append, List.pairwise_cons]
    refine ⟨m.sorted.filter _, ⟨?_, m.sorted.filter _⟩, ?_⟩
    · intro x hx
      simpa using (List.mem_filter.mp hx).2
    · intro x hx y hy
      have hlt : x.1 < name := by simpa using (List.mem_filter.mp hx).2
      rcases List.mem_cons.mp hy with rfl | hy
      · exact hlt
      · exact String.lt_trans hlt (by simpa using (List.mem_filter.mp hy).2)

def erase (m : NameMap α) (name : String) : NameMap α where
  bindings := m.bindings.filter (·.1 ≠ name)
  sorted := m.sorted.filter _

/-- Changes every value. -/
def map (m : NameMap α) (f : α → β) : NameMap β where
  bindings := m.bindings.map fun x => (x.1, f x.2)
  sorted := List.pairwise_map.mpr m.sorted

/-- The sum of what all bindings weigh. -/
def total (m : NameMap α) (weight : String → α → Nat) : Nat :=
  m.bindings.foldr (fun x rest => weight x.1 x.2 + rest) 0

/-! ## Bindings and look-ups -/

theorem find?_eq_some_iff {m : NameMap α} {name : String} {value : α} :
    m.find? name = some value ↔ (name, value) ∈ m.bindings := by
  obtain ⟨bindings, sorted⟩ := m
  simp only [find?]
  induction bindings with
  | nil => simp
  | cons x xs ih =>
      rw [List.pairwise_cons] at sorted
      rw [List.find?_cons]
      by_cases hx : x.1 = name
      · simp only [hx, decide_true, Option.map_some, Option.some.injEq, List.mem_cons]
        constructor
        · rintro rfl
          exact .inl (by simp [← hx])
        · rintro (h | h)
          · rw [← h]
          · exact absurd (hx ▸ sorted.1 _ h) (String.lt_irrefl _)
      · simp only [hx, decide_false, List.mem_cons]
        rw [ih sorted.2]
        constructor
        · exact .inr
        · rintro (h | h)
          · exact absurd (by rw [← h]) hx
          · exact h

theorem mem_iff {m : NameMap α} {name : String} : name ∈ m ↔ ∃ value, m.find? name = some value :=
  Option.isSome_iff_exists

theorem find?_eq_none_iff {m : NameMap α} {name : String} : m.find? name = none ↔ name ∉ m := by
  rw [mem_iff]
  cases m.find? name <;> simp

theorem nodup_bindings (m : NameMap α) : m.bindings.Nodup :=
  m.sorted.imp (S := (· ≠ ·)) fun {a b} (h : a.1 < b.1) (heq : a = b) =>
    String.lt_irrefl _ (heq ▸ h)

/-- Maps that answer alike are equal. -/
theorem ext_find? {m n : NameMap α} (h : ∀ name, m.find? name = n.find? name) : m = n := by
  have hmem : ∀ x, x ∈ m.bindings ↔ x ∈ n.bindings := fun ⟨name, value⟩ => by
    rw [← find?_eq_some_iff, ← find?_eq_some_iff, h]
  have heq : m.bindings = n.bindings :=
    List.Perm.eq_of_pairwise
      (fun _ _ _ _ hab hba => absurd (String.lt_trans hab hba) (String.lt_irrefl _))
      m.sorted n.sorted
      ((List.perm_ext_iff_of_nodup m.nodup_bindings n.nodup_bindings).mpr hmem)
  cases m
  cases n
  cases heq
  rfl

/-! ## Look-ups after each operation -/

@[simp]
theorem find?_empty (name : String) : (∅ : NameMap α).find? name = none := rfl

theorem not_mem_empty (name : String) : name ∉ (∅ : NameMap α) :=
  find?_eq_none_iff.mp (find?_empty name)

theorem find?_insert (m : NameMap α) (name other : String) (value : α) :
    (m.insert name value).find? other = if other = name then some value else m.find? other := by
  apply Option.ext
  intro v
  rw [find?_eq_some_iff]
  simp only [insert, List.mem_append, List.mem_filter, List.mem_cons, decide_eq_true_eq]
  split
  next h =>
    subst h
    simp only [String.lt_irrefl, and_false, false_or, or_false, Prod.mk.injEq, true_and,
      Option.some.injEq, eq_comm]
  next h =>
    rw [find?_eq_some_iff]
    constructor
    · rintro (h' | h' | h')
      · exact h'.1
      · exact absurd (congrArg Prod.fst h') h
      · exact h'.1
    · intro h'
      by_cases hlt : other < name
      · exact .inl ⟨h', hlt⟩
      · exact .inr (.inr ⟨h', Decidable.byContradiction fun hgt => h (eq_of_not_lt hlt hgt)⟩)

@[simp]
theorem find?_insert_self (m : NameMap α) (name : String) (value : α) :
    (m.insert name value).find? name = some value := by
  simp [find?_insert]

theorem find?_erase (m : NameMap α) (name other : String) :
    (m.erase name).find? other = if other = name then none else m.find? other := by
  apply Option.ext
  intro v
  rw [find?_eq_some_iff]
  simp only [erase, List.mem_filter, ne_eq, decide_eq_true_eq]
  split
  next h => simp [h]
  next h => rw [find?_eq_some_iff]; simp [h]

@[simp]
theorem find?_map (m : NameMap α) (f : α → β) (name : String) :
    (m.map f).find? name = (m.find? name).map f := by
  simp only [find?, map, List.find?_map, Option.map_map]
  rfl

theorem insert_insert (m : NameMap α) (name : String) (value other : α) :
    (m.insert name value).insert name other = m.insert name other :=
  ext_find? fun name' => by
    simp only [find?_insert]
    split <;> rfl

theorem erase_insert (m : NameMap α) (name : String) (value : α) :
    (m.insert name value).erase name = m.erase name :=
  ext_find? fun name' => by
    simp only [find?_erase, find?_insert]
    split <;> rfl

theorem erase_of_find?_eq_none {m : NameMap α} {name : String} (h : m.find? name = none) :
    m.erase name = m :=
  ext_find? fun name' => by
    rw [find?_erase]
    split
    · next heq => rw [heq, h]
    · rfl

/-! ## Totals -/

theorem perm_bindings_of_find? {m : NameMap α} {name : String} {value : α}
    (h : m.find? name = some value) :
    m.bindings.Perm ((name, value) :: (m.erase name).bindings) := by
  have hnot : (name, value) ∉ (m.erase name).bindings := by
    rw [← find?_eq_some_iff, find?_erase, if_pos rfl]
    exact nofun
  refine (List.perm_ext_iff_of_nodup m.nodup_bindings
    (List.nodup_cons.mpr ⟨hnot, nodup_bindings _⟩)).mpr fun ⟨other, v⟩ => ?_
  rw [List.mem_cons, ← find?_eq_some_iff, ← find?_eq_some_iff, find?_erase, Prod.mk.injEq]
  by_cases heq : other = name
  · simp [heq, h, eq_comm]
  · simp [heq]

/-- What a name is bound to is one part of the whole. -/
theorem total_eq (m : NameMap α) (name : String) (weight : String → α → Nat) :
    m.total weight = (m.find? name).elim 0 (weight name) + (m.erase name).total weight := by
  cases h : m.find? name with
  | none => rw [erase_of_find?_eq_none h, Option.elim_none, Nat.zero_add]
  | some value =>
    have hcomm (x y : String × α) (rest : Nat) :
        weight y.1 y.2 + (weight x.1 x.2 + rest) = weight x.1 x.2 + (weight y.1 y.2 + rest) :=
      Nat.add_left_comm _ _ _
    exact (perm_bindings_of_find? h).foldr_eq' (fun x _ y _ => hcomm x y) 0

theorem total_insert (m : NameMap α) (name : String) (value : α) (weight : String → α → Nat) :
    (m.insert name value).total weight + (m.find? name).elim 0 (weight name) =
      m.total weight + weight name value := by
  rw [total_eq _ name, total_eq m name, find?_insert_self, erase_insert, Option.elim_some]
  omega

theorem total_map (m : NameMap α) {f : α → β} {weight : String → α → Nat}
    {weight' : String → β → Nat} (h : ∀ name value, weight' name (f value) = weight name value) :
    (m.map f).total weight' = m.total weight := by
  simp only [total, map, List.foldr_map, h]

end NameMap

end Testbed
