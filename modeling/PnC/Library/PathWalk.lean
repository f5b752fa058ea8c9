import Mathlib.Data.List.Basic

/-!
# Walking a path

A path is split at its separators. A walk starts in a directory, which is given by the
names that lead to it from the root, and follows the parts one by one.
-/
namespace PnC.Library

universe u

structure PathSyntax (α : Type u) where
  separator : α
  /-- the part that stays -/
  here : List α
  /-- the part that leads to the parent -/
  up : List α

namespace PathSyntax

variable {α : Type u} (syn : PathSyntax α)

/-- The path of a directory from the root, without a separator at its end. -/
def render (directory : List (List α)) : List α :=
  if directory = [] then [syn.separator] else directory.flatMap (syn.separator :: ·)

/-- The path goes on behind the directory's. -/
def Within (directory p : List α) : Prop :=
  directory ++ [syn.separator] <+: p ∨ directory = [syn.separator] ∧ p.head? = some syn.separator

theorem within_render (directory : List (List α)) {names : List (List α)} (nonempty : names ≠ []) :
    syn.Within (syn.render directory) (syn.render (directory ++ names)) := by
  obtain ⟨name, rest, rfl⟩ := List.exists_cons_of_ne_nil nonempty
  have below : directory ++ name :: rest ≠ [] := by simp
  unfold Within render
  rw [if_neg below]
  split
  next root =>
    rw [root]
    exact .inr ⟨rfl, rfl⟩
  next =>
    apply Or.inl
    rw [List.flatMap_append, List.flatMap_cons]
    exact (List.prefix_append_right_inj _).mpr ⟨name ++ rest.flatMap (syn.separator :: ·), rfl⟩

variable [DecidableEq α]

instance (directory p : List α) : Decidable (syn.Within directory p) :=
  inferInstanceAs (Decidable (_ ∨ _))

def parts (p : List α) : List (List α) := p.splitOn syn.separator

/-- The directory, or file, that one part leads to. -/
def enter (directory : List (List α)) (part : List α) : List (List α) :=
  if part = [] ∨ part = syn.here then directory
  else if part = syn.up then directory.dropLast
  else directory ++ [part]

def walk (directory : List (List α)) (p : List α) : List (List α) :=
  (syn.parts p).foldl syn.enter directory

theorem walk_nil (directory : List (List α)) : syn.walk directory [] = directory := by
  simp [walk, parts, enter, List.splitOn_eq_splitOnP]

/-- A path is walked part after part. -/
theorem walk_append (directory : List (List α)) (p q : List α) :
    syn.walk directory (p ++ syn.separator :: q) = syn.walk (syn.walk directory p) q := by
  simp only [walk, parts, List.splitOn_append_cons_self, List.foldl_append]

/-- A walk that never goes up stays below its start. -/
theorem walk_below (directory : List (List α)) {p : List α} (noUp : syn.up ∉ syn.parts p) :
    ∃ names, syn.walk directory p = directory ++ names := by
  unfold walk
  generalize syn.parts p = parts at noUp
  induction parts generalizing directory with
  | nil => exact ⟨[], (List.append_nil directory).symm⟩
  | cons part rest ih =>
    have notUp : part ≠ syn.up := fun same => noUp (same ▸ List.mem_cons_self)
    obtain ⟨names, walked⟩ :=
      ih (syn.enter directory part) fun later => noUp (List.mem_cons_of_mem part later)
    rw [List.foldl_cons, walked, enter, if_neg notUp]
    split
    · exact ⟨names, rfl⟩
    · rw [List.append_assoc]
      exact ⟨part :: names, rfl⟩

end PathSyntax

end PnC.Library
