import Mathlib.Data.List.Nodup
import Mathlib.Logic.Equiv.Basic
import Mathlib.Logic.Relation

/-!
# Resources and their owners

An environment hands out resources and is handed them back; each owner holds at most one.
`Transfer` lists what careful owners do: one receives a resource that is handed out or
hands back the one it holds, or two exchange what they hold. A resource that is out and
held by nobody is lost: no transfer makes one, and none brings one back.
-/
namespace PnC.Library

universe u v

/-- What is out now, and the record of all that was handed out and handed back. -/
structure Ledger (ρ : Type v) where
  out : List ρ
  granted : List ρ
  released : List ρ

namespace Ledger

variable {ρ : Type v}

def empty : Ledger ρ := ⟨[], [], []⟩

def grant (l : Ledger ρ) (r : ρ) : Ledger ρ :=
  { l with out := r :: l.out, granted := r :: l.granted }

def release [DecidableEq ρ] (l : Ledger ρ) (r : ρ) : Ledger ρ :=
  { l with out := l.out.erase r, released := r :: l.released }

end Ledger

/-- A ledger with what each owner holds. -/
structure Holding (ι : Type u) (ρ : Type v) where
  held : ι → Option ρ
  ledger : Ledger ρ

variable {ι : Type u} {ρ : Type v}

/-- What the owners hold is out, each of it held by one of them, and a resource was handed
back once for every time it was handed out and is out no more. -/
structure Backed [DecidableEq ρ] (h : Holding ι ρ) : Prop where
  nodup : h.ledger.out.Nodup
  out : ∀ x r, h.held x = some r → r ∈ h.ledger.out
  sole : ∀ x y r, h.held x = some r → h.held y = some r → x = y
  balance : ∀ r, h.ledger.granted.count r = h.ledger.released.count r + h.ledger.out.count r

/-- The resource is out and nobody holds it. -/
def Lost (h : Holding ι ρ) (r : ρ) : Prop := r ∈ h.ledger.out ∧ ∀ x, h.held x ≠ some r

theorem backed_empty [DecidableEq ρ] : Backed (⟨fun _ => none, .empty⟩ : Holding ι ρ) where
  nodup := List.nodup_nil
  out x r has := by cases has
  sole x y r has := by cases has
  balance r := rfl

/-- Handing out a resource that nobody takes. -/
def Holding.lose (h : Holding ι ρ) (r : ρ) : Holding ι ρ := { h with ledger := h.ledger.grant r }

theorem lost_lose_iff {h : Holding ι ρ} {r : ρ} (nobody : ∀ x, h.held x ≠ some r) (s : ρ) :
    Lost (h.lose r) s ↔ s = r ∨ Lost h s := by
  unfold Lost Holding.lose Ledger.grant
  rw [List.mem_cons]
  constructor
  · intro lost
    obtain ⟨same | out, free⟩ := lost
    · exact Or.inl same
    · exact Or.inr ⟨out, free⟩
  · intro lost
    obtain rfl | ⟨out, free⟩ := lost
    · exact ⟨Or.inl rfl, nobody⟩
    · exact ⟨Or.inr out, free⟩

/-- A list of all that is lost. -/
def LostAre (h : Holding ι ρ) (lost : List ρ) : Prop := lost.Nodup ∧ ∀ r, r ∈ lost ↔ Lost h r

theorem lostAre_empty : LostAre (⟨fun _ => none, .empty⟩ : Holding ι ρ) [] := by
  refine ⟨List.nodup_nil, ?_⟩
  intro r
  simp [Lost, Ledger.empty]

section
variable [DecidableEq ρ] {h : Holding ι ρ}

theorem Backed.nobody (backed : Backed h) {r : ρ} (fresh : r ∉ h.ledger.out) (x : ι) :
    h.held x ≠ some r := fun has => fresh (backed.out x r has)

theorem Ledger.balance_grant {l : Ledger ρ}
    (balance : ∀ r, l.granted.count r = l.released.count r + l.out.count r) (r s : ρ) :
    (l.grant r).granted.count s = (l.grant r).released.count s + (l.grant r).out.count s := by
  simp only [Ledger.grant, List.count_cons, balance s]
  omega

theorem Backed.lose (backed : Backed h) {r : ρ} (fresh : r ∉ h.ledger.out) :
    Backed (h.lose r) where
  nodup := List.nodup_cons.mpr ⟨fresh, backed.nodup⟩
  out x s has := List.mem_cons_of_mem r (backed.out x s has)
  sole := backed.sole
  balance := Ledger.balance_grant backed.balance r

/-- The new resource joins the lost ones. -/
theorem LostAre.lose (backed : Backed h) {r : ρ} (fresh : r ∉ h.ledger.out) {lost : List ρ}
    (are : LostAre h lost) : LostAre (h.lose r) (r :: lost) := by
  obtain ⟨nodup, all⟩ := are
  refine ⟨List.nodup_cons.mpr ⟨fun member => fresh ((all r).mp member).1, nodup⟩, ?_⟩
  intro s
  rw [List.mem_cons, all s, lost_lose_iff (backed.nobody fresh)]

end

variable [DecidableEq ι] [DecidableEq ρ]

inductive Transfer : Holding ι ρ → Holding ι ρ → Prop where
  | give {h : Holding ι ρ} (x : ι) (r : ρ) (free : h.held x = none) (fresh : r ∉ h.ledger.out) :
      Transfer h ⟨Function.update h.held x (some r), h.ledger.grant r⟩
  | handBack {h : Holding ι ρ} (x : ι) (r : ρ) (holds : h.held x = some r) :
      Transfer h ⟨Function.update h.held x none, h.ledger.release r⟩
  | exchange {h : Holding ι ρ} (x y : ι) :
      Transfer h ⟨h.held ∘ Equiv.swap x y, h.ledger⟩

abbrev Transfers : Holding ι ρ → Holding ι ρ → Prop := Relation.ReflTransGen Transfer

omit [DecidableEq ρ] in
/-- An update changes what one owner holds. -/
theorem held_update {held : ι → Option ρ} {x y : ι} {value : Option ρ} {r : ρ} :
    Function.update held x value y = some r ↔
      y = x ∧ value = some r ∨ y ≠ x ∧ held y = some r := by
  by_cases same : y = x
  · rw [same, Function.update_self]
    simp
  · rw [Function.update_of_ne same]
    simp [same]

variable {h after : Holding ι ρ}

theorem Backed.give (backed : Backed h) (x : ι) {r : ρ} (fresh : r ∉ h.ledger.out) :
    Backed ⟨Function.update h.held x (some r), h.ledger.grant r⟩ where
  nodup := List.nodup_cons.mpr ⟨fresh, backed.nodup⟩
  out y s has := by
    obtain ⟨-, same⟩ | ⟨-, has⟩ := held_update.mp has
    · cases same
      exact List.mem_cons_self
    · exact List.mem_cons_of_mem r (backed.out y s has)
  sole y z s first second := by
    obtain ⟨rfl, same⟩ | ⟨-, has⟩ := held_update.mp first
    · obtain ⟨rfl, -⟩ | ⟨-, has⟩ := held_update.mp second
      · rfl
      · cases same
        exact absurd has (backed.nobody fresh z)
    · obtain ⟨rfl, same⟩ | ⟨-, has'⟩ := held_update.mp second
      · cases same
        exact absurd has (backed.nobody fresh y)
      · exact backed.sole y z s has has'
  balance := Ledger.balance_grant backed.balance r

theorem Backed.handBack (backed : Backed h) {x : ι} {r : ρ} (holds : h.held x = some r) :
    Backed ⟨Function.update h.held x none, h.ledger.release r⟩ where
  nodup := backed.nodup.erase r
  out y s has := by
    obtain ⟨-, impossible⟩ | ⟨elsewhere, has⟩ := held_update.mp has
    · cases impossible
    · refine backed.nodup.mem_erase_iff.mpr ⟨?_, backed.out y s has⟩
      intro same
      rw [same] at has
      exact elsewhere (backed.sole y x r has holds)
  sole y z s first second := by
    obtain ⟨-, impossible⟩ | ⟨-, has⟩ := held_update.mp first
    · cases impossible
    · obtain ⟨-, impossible⟩ | ⟨-, has'⟩ := held_update.mp second
      · cases impossible
      · exact backed.sole y z s has has'
  balance s := by
    have member := backed.out x r holds
    simp only [Ledger.release, List.count_cons, backed.balance s]
    by_cases same : s = r
    · rw [same, List.count_erase_self]
      have positive := List.count_pos_iff.mpr member
      simp
      omega
    · rw [List.count_erase_of_ne same]
      simp [Ne.symm same]

/-- A transfer keeps everything backed. -/
theorem Transfer.backed (transfer : Transfer h after) (backed : Backed h) : Backed after := by
  cases transfer with
  | give x r free fresh => exact backed.give x fresh
  | handBack x r holds => exact backed.handBack holds
  | exchange x y =>
    refine ⟨backed.nodup, fun _ r has => backed.out _ r has, ?_, backed.balance⟩
    intro v w r first second
    exact (Equiv.swap x y).injective (backed.sole _ _ r first second)

/-- A transfer loses nothing and finds nothing. -/
theorem Transfer.lost_iff (transfer : Transfer h after) (backed : Backed h) (r : ρ) :
    Lost after r ↔ Lost h r := by
  unfold Lost
  cases transfer with
  | give x s free fresh =>
    simp only [Ledger.grant, List.mem_cons, ne_eq, held_update, Option.some.injEq]
    constructor
    · intro lost
      obtain ⟨out, nobody⟩ := lost
      have other : r ≠ s := fun same => nobody x (Or.inl ⟨rfl, same.symm⟩)
      refine ⟨out.resolve_left other, ?_⟩
      intro y has
      refine nobody y (Or.inr ⟨?_, has⟩)
      intro same
      rw [same, free] at has
      cases has
    · intro lost
      obtain ⟨out, nobody⟩ := lost
      refine ⟨Or.inr out, ?_⟩
      intro y later
      obtain ⟨-, same⟩ | ⟨-, has⟩ := later
      · exact fresh (same ▸ out)
      · exact nobody y has
  | handBack x s holds =>
    simp only [Ledger.release, backed.nodup.mem_erase_iff, ne_eq, held_update]
    constructor
    · intro lost
      obtain ⟨⟨other, out⟩, nobody⟩ := lost
      refine ⟨out, ?_⟩
      intro y has
      refine nobody y (Or.inr ⟨?_, has⟩)
      intro same
      rw [same, holds] at has
      exact other (Option.some.inj has).symm
    · intro lost
      obtain ⟨out, nobody⟩ := lost
      refine ⟨⟨fun same => nobody x (same ▸ holds), out⟩, ?_⟩
      intro y later
      obtain ⟨-, impossible⟩ | ⟨-, has⟩ := later
      · cases impossible
      · exact nobody y has
  | exchange x y =>
    have moved := (Equiv.swap x y).surjective.forall (p := fun z => h.held z ≠ some r)
    exact and_congr_right' moved.symm

theorem Transfers.backed (transfers : Transfers h after) (backed : Backed h) : Backed after := by
  induction transfers with
  | refl => exact backed
  | tail _ transfer ih => exact transfer.backed ih

theorem Transfers.lostAre (transfers : Transfers h after) (backed : Backed h) {lost : List ρ}
    (are : LostAre h lost) : LostAre after lost := by
  induction transfers with
  | refl => exact are
  | tail before transfer ih =>
    have same := transfer.lost_iff (Transfers.backed before backed)
    exact ⟨ih.1, fun r => (ih.2 r).trans (same r).symm⟩

end PnC.Library
