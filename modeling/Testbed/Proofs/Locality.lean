import Testbed.Proofs.Steps
import Mathlib.Data.Set.Insert

/-!
# Operations are local

A host is taken for a store whose locations are the names in the root, the
namespaces, and the names in each namespace. Every operation writes few of them
and uses few more, and this file proves that the two lists below are right: what
is not written stays (`apply_frame`), and what is not used does not matter
(`apply_congr`).

From there on nothing needs to know what an operation does. Two operations of
which neither uses what the other writes can be exchanged (`apply_comm`), because
each finds the other's absence unnoticed; a sequence that succeeds on one host
succeeds on every host that looks alike where the sequence looks (`applyAll_congr`).

Agreement is only ever asked of success. Of two operations that cannot both
succeed, the one that fails may depend on their order, and so may its fault.
-/

namespace Testbed

inductive Location where
  /-- What interface of this name is outside all namespaces. -/
  | outside (interface : String)
  /-- Whether there is this namespace. -/
  | presence (ns : String)
  /-- What interface of this name is in the namespace. -/
  | inside (ns interface : String)
  deriving DecidableEq

namespace Location

/-- A namespace with everything in it. -/
def within (ns : String) : Set Location :=
  {l | l = .presence ns ∨ ∃ interface, l = .inside ns interface}

end Location

namespace Operation

open Location

/-- Where a host may be different after the operation. -/
def writes : Operation → Set Location
  | createNamespace name => within name
  | createBridge ns bridge => {.inside ns bridge}
  | setUp ns interface => {.inside ns interface}
  | enableForwarding ns => within ns
  | disableReversePathFilter ns => within ns
  | createVethPair left right => {.outside left, .outside right}
  | move interface ns => {.outside interface, .inside ns interface}
  | attach ns interface _ => {.inside ns interface}
  | assign ns interface _ => {.inside ns interface}

/-- Where the operation looks without changing anything there. -/
def consults : Operation → Set Location
  | createBridge ns _ => {.presence ns}
  | move _ ns => {.presence ns}
  | attach ns _ bridge => {.inside ns bridge}
  | _ => ∅

def uses (op : Operation) : Set Location :=
  op.writes ∪ op.consults

/-- Neither operation writes where the other looks. -/
def Independent (p q : Operation) : Prop :=
  (∀ l ∈ p.writes, l ∉ q.uses) ∧ ∀ l ∈ q.writes, l ∉ p.uses

theorem mem_uses_of_mem_writes {op : Operation} {l : Location} (h : l ∈ op.writes) : l ∈ op.uses :=
  .inl h

end Operation

namespace Host

variable {h h' k k' : Host} {op : Operation} {l : Location}

/-- The two hosts cannot be told apart at this location. -/
def AgreesAt (h k : Host) : Location → Prop
  | .outside interface => h.root.find? interface = k.root.find? interface
  | .presence ns => ns ∈ h.namespaces ↔ ns ∈ k.namespaces
  | .inside ns interface => h.interface? ns interface = k.interface? ns interface

namespace AgreesAt

theorem refl (h : Host) (l : Location) : h.AgreesAt h l := by
  cases l <;> simp only [AgreesAt]

theorem symm (hl : h.AgreesAt k l) : k.AgreesAt h l := by
  cases l with
  | outside interface => exact Eq.symm hl
  | presence ns => exact Iff.symm hl
  | inside ns interface => exact Eq.symm hl

theorem trans {g : Host} (hl : g.AgreesAt h l) (hl' : h.AgreesAt k l) : g.AgreesAt k l := by
  cases l with
  | outside interface => exact Eq.trans hl hl'
  | presence ns => exact Iff.trans hl hl'
  | inside ns interface => exact Eq.trans hl hl'

theorem ext (hl : ∀ l, h.AgreesAt k l) : h = k :=
  ext_interface? (fun name => hl (.outside name)) (fun ns => hl (.presence ns))
    fun ns interface => hl (.inside ns interface)

/-! Setting the same thing in two hosts keeps them alike where they were alike. -/

theorem setInterface (hl : h.AgreesAt k l) (ns interface : String) (i : Interface) :
    (h.setInterface ns interface i).AgreesAt (k.setInterface ns interface i) l := by
  cases l with
  | outside name => exact hl
  | presence other =>
    simp only [AgreesAt, mem_namespaces_setInterface] at hl ⊢
    rw [hl]
  | inside other name =>
    simp only [AgreesAt, interface?_setInterface] at hl ⊢
    rw [hl]

theorem setInterfaces (hl : h.AgreesAt k l) (ns : String) (interfaces : NameMap Interface) :
    (h.setInterfaces ns interfaces).AgreesAt (k.setInterfaces ns interfaces) l := by
  cases l with
  | outside name => exact hl
  | presence other =>
    simp only [AgreesAt, mem_namespaces_setInterfaces] at hl ⊢
    rw [hl]
  | inside other name =>
    simp only [AgreesAt, interface?_setInterfaces] at hl ⊢
    rw [hl]

theorem withAllChanged (hl : h.AgreesAt k l) (ns : String) (f : Interface → Interface) :
    (h.withAllChanged ns f).AgreesAt (k.withAllChanged ns f) l := by
  cases l with
  | outside name => exact hl
  | presence other =>
    simp only [AgreesAt, Host.withAllChanged, mem_namespaces_setInterfaces] at hl ⊢
    rw [hl]
  | inside other name =>
    simp only [AgreesAt, interface?_withAllChanged] at hl ⊢
    split
    · next heq => rw [← heq, hl]
    · exact hl

theorem withVethPair (hl : h.AgreesAt k l) (left right : String) :
    (h.withVethPair left right).AgreesAt (k.withVethPair left right) l := by
  cases l with
  | outside name =>
    simp only [AgreesAt, find?_root_withVethPair] at hl ⊢
    rw [hl]
  | presence other => exact hl
  | inside other name => exact hl

theorem withMoved (hl : h.AgreesAt k l) (interface ns : String) (i : Interface) :
    (h.withMoved interface ns i).AgreesAt (k.withMoved interface ns i) l := by
  cases l with
  | outside name =>
    simp only [AgreesAt, find?_root_withMoved] at hl ⊢
    rw [hl]
  | presence other =>
    exact setInterface (l := .presence other) hl ns interface i
  | inside other name =>
    exact setInterface (l := .inside other name) hl ns interface i

/-! Setting something keeps a host as it was everywhere else. -/

theorem of_setInterface {ns interface : String} (i : Interface) (hns : ns ∈ h.namespaces)
    (hl : l ≠ .inside ns interface) : h.AgreesAt (h.setInterface ns interface i) l := by
  cases l with
  | outside name => exact rfl
  | presence other =>
    simp only [AgreesAt, mem_namespaces_setInterface]
    exact ⟨.inr, fun hmem => hmem.elim (fun heq => heq ▸ hns) id⟩
  | inside other name =>
    simp only [AgreesAt, interface?_setInterface]
    rw [if_neg fun heq => hl (by rw [heq.1, heq.2])]

theorem of_setInterfaces {ns : String} (interfaces : NameMap Interface)
    (hl : l ∉ Location.within ns) : h.AgreesAt (h.setInterfaces ns interfaces) l := by
  cases l with
  | outside name => exact rfl
  | presence other =>
    have hne : other ≠ ns := fun heq => hl (.inl (by rw [heq]))
    simp only [AgreesAt, mem_namespaces_setInterfaces]
    exact ⟨.inr, fun hmem => hmem.resolve_left hne⟩
  | inside other name =>
    have hne : other ≠ ns := fun heq => hl (.inr ⟨name, by rw [heq]⟩)
    simp only [AgreesAt, interface?_setInterfaces]
    rw [if_neg hne]

theorem of_withVethPair {left right : String} (hleft : l ≠ .outside left)
    (hright : l ≠ .outside right) : h.AgreesAt (h.withVethPair left right) l := by
  cases l with
  | outside name =>
    simp only [AgreesAt, find?_root_withVethPair]
    rw [if_neg fun heq => hright (by rw [heq]), if_neg fun heq => hleft (by rw [heq])]
  | presence other => exact Iff.rfl
  | inside other name => exact rfl

theorem of_withMoved {interface ns : String} (i : Interface) (hns : ns ∈ h.namespaces)
    (hout : l ≠ .outside interface) (hin : l ≠ .inside ns interface) :
    h.AgreesAt (h.withMoved interface ns i) l := by
  cases l with
  | outside name =>
    simp only [AgreesAt, find?_root_withMoved]
    rw [if_neg fun heq => hout (by rw [heq])]
  | presence other => exact of_setInterface (l := .presence other) _ hns hin
  | inside other name => exact of_setInterface (l := .inside other name) _ hns hin

end AgreesAt

/-! ## What is not written stays -/

theorem apply_frame (hok : h.apply op = .ok h') (hl : l ∉ op.writes) : h.AgreesAt h' l := by
  cases op with
  | createNamespace name =>
    obtain ⟨-, rfl⟩ := createNamespace_eq_ok_iff.mp hok
    exact .of_setInterfaces _ hl
  | createBridge ns bridge =>
    obtain ⟨hns, -, rfl⟩ := createBridge_eq_ok_iff.mp hok
    exact .of_setInterface _ hns hl
  | setUp ns interface =>
    obtain ⟨i, hi, rfl⟩ := setUp_eq_ok_iff.mp hok
    exact .of_setInterface _ (mem_namespaces_of_interface? hi) hl
  | enableForwarding ns =>
    obtain ⟨-, rfl⟩ := enableForwarding_eq_ok_iff.mp hok
    exact .of_setInterfaces _ hl
  | disableReversePathFilter ns =>
    obtain ⟨-, rfl⟩ := disableReversePathFilter_eq_ok_iff.mp hok
    exact .of_setInterfaces _ hl
  | createVethPair left right =>
    obtain ⟨-, -, -, rfl⟩ := createVethPair_eq_ok_iff.mp hok
    exact .of_withVethPair (fun heq => hl (.inl heq)) (fun heq => hl (.inr heq))
  | move interface ns =>
    obtain ⟨i, -, hns, -, rfl⟩ := move_eq_ok_iff.mp hok
    exact .of_withMoved _ hns (fun heq => hl (.inl heq)) (fun heq => hl (.inr heq))
  | attach ns interface bridge =>
    obtain ⟨-, i, hi, rfl⟩ := attach_eq_ok_iff.mp hok
    exact .of_setInterface _ (mem_namespaces_of_interface? hi) hl
  | assign ns interface address =>
    obtain ⟨i, hi, -, rfl⟩ := assign_eq_ok_iff.mp hok
    exact .of_setInterface _ (mem_namespaces_of_interface? hi) hl

/-! ## What is not used does not matter -/

/-- An operation that succeeds on a host succeeds on every host that looks alike
where the operation looks, and does the same to both. -/
theorem apply_congr (huses : ∀ l ∈ op.uses, h.AgreesAt k l) (hok : h.apply op = .ok h') :
    ∃ k', k.apply op = .ok k' ∧ ∀ l, h.AgreesAt k l → h'.AgreesAt k' l := by
  cases op with
  | createNamespace name =>
    obtain ⟨hnew, rfl⟩ := createNamespace_eq_ok_iff.mp hok
    have hname : name ∈ h.namespaces ↔ name ∈ k.namespaces :=
      huses (.presence name) (.inl (.inl rfl))
    exact ⟨_, createNamespace_eq_ok_iff.mpr ⟨mt hname.mpr hnew, rfl⟩,
      fun l hl => hl.setInterfaces _ _⟩
  | createBridge ns bridge =>
    obtain ⟨hns, hfree, rfl⟩ := createBridge_eq_ok_iff.mp hok
    have hpresent : ns ∈ h.namespaces ↔ ns ∈ k.namespaces := huses (.presence ns) (.inr rfl)
    have hbridge : h.interface? ns bridge = k.interface? ns bridge :=
      huses (.inside ns bridge) (.inl rfl)
    exact ⟨_, createBridge_eq_ok_iff.mpr ⟨hpresent.mp hns, hbridge ▸ hfree, rfl⟩,
      fun l hl => hl.setInterface _ _ _⟩
  | setUp ns interface =>
    obtain ⟨i, hi, rfl⟩ := setUp_eq_ok_iff.mp hok
    have hsame : h.interface? ns interface = k.interface? ns interface :=
      huses (.inside ns interface) (.inl rfl)
    exact ⟨_, setUp_eq_ok_iff.mpr ⟨i, hsame ▸ hi, rfl⟩, fun l hl => hl.setInterface _ _ _⟩
  | enableForwarding ns =>
    obtain ⟨hns, rfl⟩ := enableForwarding_eq_ok_iff.mp hok
    have hpresent : ns ∈ h.namespaces ↔ ns ∈ k.namespaces :=
      huses (.presence ns) (.inl (.inl rfl))
    exact ⟨_, enableForwarding_eq_ok_iff.mpr ⟨hpresent.mp hns, rfl⟩,
      fun l hl => hl.withAllChanged _ _⟩
  | disableReversePathFilter ns =>
    obtain ⟨hns, rfl⟩ := disableReversePathFilter_eq_ok_iff.mp hok
    have hpresent : ns ∈ h.namespaces ↔ ns ∈ k.namespaces :=
      huses (.presence ns) (.inl (.inl rfl))
    exact ⟨_, disableReversePathFilter_eq_ok_iff.mpr ⟨hpresent.mp hns, rfl⟩,
      fun l hl => hl.withAllChanged _ _⟩
  | createVethPair left right =>
    obtain ⟨hleft, hright, hne, rfl⟩ := createVethPair_eq_ok_iff.mp hok
    have hl : h.root.find? left = k.root.find? left := huses (.outside left) (.inl (.inl rfl))
    have hr : h.root.find? right = k.root.find? right := huses (.outside right) (.inl (.inr rfl))
    rw [← NameMap.find?_eq_none_iff] at hleft hright
    refine ⟨_, createVethPair_eq_ok_iff.mpr ⟨?_, ?_, hne, rfl⟩, fun l hl => hl.withVethPair _ _⟩
    · exact NameMap.find?_eq_none_iff.mp (hl ▸ hleft)
    · exact NameMap.find?_eq_none_iff.mp (hr ▸ hright)
  | move interface ns =>
    obtain ⟨i, hi, hns, hfree, rfl⟩ := move_eq_ok_iff.mp hok
    have hout : h.root.find? interface = k.root.find? interface :=
      huses (.outside interface) (.inl (.inl rfl))
    have hin : h.interface? ns interface = k.interface? ns interface :=
      huses (.inside ns interface) (.inl (.inr rfl))
    have hpresent : ns ∈ h.namespaces ↔ ns ∈ k.namespaces := huses (.presence ns) (.inr rfl)
    exact ⟨_, move_eq_ok_iff.mpr ⟨i, hout ▸ hi, hpresent.mp hns, hin ▸ hfree, rfl⟩,
      fun l hl => hl.withMoved _ _ _⟩
  | attach ns interface bridge =>
    obtain ⟨hbridge, i, hi, rfl⟩ := attach_eq_ok_iff.mp hok
    have hsame : h.interface? ns interface = k.interface? ns interface :=
      huses (.inside ns interface) (.inl rfl)
    have hseen : h.interface? ns bridge = k.interface? ns bridge :=
      huses (.inside ns bridge) (.inr rfl)
    exact ⟨_, attach_eq_ok_iff.mpr ⟨hseen ▸ hbridge, i, hsame ▸ hi, rfl⟩,
      fun l hl => hl.setInterface _ _ _⟩
  | assign ns interface address =>
    obtain ⟨i, hi, hnew, rfl⟩ := assign_eq_ok_iff.mp hok
    have hsame : h.interface? ns interface = k.interface? ns interface :=
      huses (.inside ns interface) (.inl rfl)
    exact ⟨_, assign_eq_ok_iff.mpr ⟨i, hsame ▸ hi, hnew, rfl⟩, fun l hl => hl.setInterface _ _ _⟩

/-- Whichever of two independent operations comes first, the host is the same. -/
theorem apply_comm {p q : Operation} (hind : p.Independent q) (hp : h.apply p = .ok h')
    (hq : h'.apply q = .ok k') : ∃ k, h.apply q = .ok k ∧ k.apply p = .ok k' := by
  -- `q` does not see that `p` is missing, and then `p` does not see that `q` came first.
  obtain ⟨k, hqk, hk⟩ := apply_congr
    (fun l hl => (apply_frame hp fun hmem => hind.1 l hmem hl).symm) hq
  obtain ⟨g, hpg, hg⟩ := apply_congr
    (fun l hl => apply_frame hqk fun hmem => hind.2 l hmem hl) hp
  refine ⟨k, hqk, ?_⟩
  have heq : k' = g := AgreesAt.ext fun l => by
    by_cases hl : l ∈ q.writes
    · have hlp : l ∉ p.writes := fun hmem =>
        hind.1 l hmem (Operation.mem_uses_of_mem_writes hl)
      exact (hk l (apply_frame hp hlp).symm).trans (apply_frame hpg hlp)
    · exact (apply_frame hq hl).symm.trans (hg l (apply_frame hqk hl))
  rw [heq, hpg]

/-! ## Sequences of operations -/

theorem applyAll_frame {ops : List Operation} (hok : h.applyAll ops = .ok h')
    (hl : ∀ op ∈ ops, l ∉ op.writes) : h.AgreesAt h' l := by
  induction ops generalizing h with
  | nil =>
    cases hok
    exact .refl _ l
  | cons op ops ih =>
    obtain ⟨k, hk, hok⟩ := applyAll_cons_eq_ok_iff.mp hok
    rw [List.forall_mem_cons] at hl
    exact (apply_frame hk hl.1).trans (ih hok hl.2)

theorem applyAll_congr {ops : List Operation} (huses : ∀ op ∈ ops, ∀ l ∈ op.uses, h.AgreesAt k l)
    (hok : h.applyAll ops = .ok h') :
    ∃ k', k.applyAll ops = .ok k' ∧ ∀ l, h.AgreesAt k l → h'.AgreesAt k' l := by
  induction ops generalizing h k with
  | nil =>
    cases hok
    exact ⟨k, rfl, fun l hl => hl⟩
  | cons op ops ih =>
    obtain ⟨h₁, hop, hok⟩ := applyAll_cons_eq_ok_iff.mp hok
    rw [List.forall_mem_cons] at huses
    obtain ⟨k₁, hop', hkeep⟩ := apply_congr huses.1 hop
    obtain ⟨k', hok', hkeep'⟩ := ih (fun op hmem l hl => hkeep l (huses.2 op hmem l hl)) hok
    exact ⟨k', applyAll_cons_eq_ok_iff.mpr ⟨k₁, hop', hok'⟩,
      fun l hl => hkeep' l (hkeep l hl)⟩

end Host

end Testbed
