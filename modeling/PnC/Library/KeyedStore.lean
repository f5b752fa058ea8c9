import Mathlib.Data.List.Nodup

/-!
# Stores of items that carry their own key

The items are held in a list with pairwise distinct keys. The list order stands
for the iteration order of a hash map, which is unspecified: no lemma below
depends on it.
-/
namespace PnC.Library

universe u v

structure KeyedStore (κ : Type u) (α : Type v) (key : α → κ) where
  items : List α
  unique : (items.map key).Nodup

namespace KeyedStore

variable {κ : Type u} {α : Type v} {key : α → κ}

def empty : KeyedStore κ α key := ⟨[], List.nodup_nil⟩

/-- Rewrite every item by a function that keeps its key. -/
def mapItems (s : KeyedStore κ α key) (f : α → α) (keeps : ∀ a, key (f a) = key a) :
    KeyedStore κ α key where
  items := s.items.map f
  unique := by
    have same : key ∘ f = key := funext keeps
    rw [List.map_map, same]
    exact s.unique

@[simp] theorem items_empty : (empty : KeyedStore κ α key).items = [] := rfl

@[simp] theorem items_mapItems (s : KeyedStore κ α key) (f : α → α)
    (keeps : ∀ a, key (f a) = key a) : (s.mapItems f keeps).items = s.items.map f := rfl

variable [DecidableEq κ]

def find (s : KeyedStore κ α key) (k : κ) : Option α :=
  s.items.find? (fun a => key a = k)

/-- Update in place the item under `k`, if there is one. -/
def modify (s : KeyedStore κ α key) (k : κ) (f : α → α) (keeps : ∀ a, key (f a) = key a) :
    KeyedStore κ α key :=
  s.mapItems (fun a => if key a = k then f a else a) (fun a => by
    by_cases same : key a = k
    · simp only [same, if_true, keeps]
    · simp only [same, if_false])

def erase (s : KeyedStore κ α key) (k : κ) : KeyedStore κ α key where
  items := s.items.filter (fun a => key a ≠ k)
  unique := s.unique.sublist (List.filter_sublist.map key)

/-- Insert the item under its own key, replacing an item already there. -/
def put (s : KeyedStore κ α key) (a : α) : KeyedStore κ α key where
  items := a :: (s.erase (key a)).items
  unique := by
    rw [List.map_cons, List.nodup_cons]
    refine ⟨?_, (s.erase (key a)).unique⟩
    simp [erase]

theorem find_eq_some_iff {s : KeyedStore κ α key} {k : κ} {a : α} :
    s.find k = some a ↔ a ∈ s.items ∧ key a = k := by
  constructor
  · intro found
    exact ⟨List.mem_of_find?_eq_some found, by simpa using List.find?_some found⟩
  · rintro ⟨member, rfl⟩
    cases found : s.find (key a) with
    | none =>
      have absent := List.find?_eq_none.mp found a member
      simp at absent
    | some b =>
      have present : b ∈ s.items := List.mem_of_find?_eq_some found
      have same : key b = key a := by simpa using List.find?_some found
      rw [List.inj_on_of_nodup_map s.unique present member same]

theorem find_eq_none_iff {s : KeyedStore κ α key} {k : κ} :
    s.find k = none ↔ ∀ a ∈ s.items, key a ≠ k := by
  simp [find, List.find?_eq_none]

theorem mem_of_find {s : KeyedStore κ α key} {k : κ} {a : α} (found : s.find k = some a) :
    a ∈ s.items := (find_eq_some_iff.mp found).1

theorem key_of_find {s : KeyedStore κ α key} {k : κ} {a : α} (found : s.find k = some a) :
    key a = k := (find_eq_some_iff.mp found).2

theorem find_of_mem {s : KeyedStore κ α key} {a : α} (member : a ∈ s.items) :
    s.find (key a) = some a := find_eq_some_iff.mpr ⟨member, rfl⟩

@[simp] theorem find_empty (k : κ) : (empty : KeyedStore κ α key).find k = none := rfl

theorem find_mapItems (s : KeyedStore κ α key) (f : α → α) (keeps : ∀ a, key (f a) = key a)
    (k : κ) : (s.mapItems f keeps).find k = (s.find k).map f := by
  simp only [find, mapItems, List.find?_map]
  congr 2
  funext a
  simp [keeps]

theorem find_modify (s : KeyedStore κ α key) (k : κ) (f : α → α)
    (keeps : ∀ a, key (f a) = key a) (queried : κ) :
    (s.modify k f keeps).find queried =
      if queried = k then (s.find k).map f else s.find queried := by
  rw [modify, find_mapItems]
  cases found : s.find queried with
  | none =>
    by_cases same : queried = k
    · simp [same ▸ found, same]
    · simp [same]
  | some a =>
    have location := key_of_find found
    by_cases same : queried = k
    · simp [same ▸ found, same, same ▸ location]
    · simp [same, location]

theorem find_erase (s : KeyedStore κ α key) (k queried : κ) :
    (s.erase k).find queried = if queried = k then none else s.find queried := by
  by_cases same : queried = k
  · subst same
    rw [if_pos rfl, find_eq_none_iff]
    intro a member
    simpa using (List.mem_filter.mp member).2
  · rw [if_neg same]
    apply Option.ext
    intro a
    rw [find_eq_some_iff, find_eq_some_iff]
    simp only [erase, List.mem_filter]
    constructor
    · rintro ⟨⟨member, _⟩, location⟩
      exact ⟨member, location⟩
    · rintro ⟨member, location⟩
      exact ⟨⟨member, by simpa [location] using same⟩, location⟩

theorem find_put (s : KeyedStore κ α key) (a : α) (queried : κ) :
    (s.put a).find queried = if queried = key a then some a else s.find queried := by
  by_cases same : queried = key a
  · rw [if_pos same, find_eq_some_iff]
    exact ⟨List.mem_cons_self, same.symm⟩
  · have tail := find_erase s (key a) queried
    rw [if_neg same] at tail ⊢
    rw [← tail]
    simp [find, put, Ne.symm same]

theorem items_put_fresh (s : KeyedStore κ α key) (a : α) (fresh : s.find (key a) = none) :
    (s.put a).items = a :: s.items := by
  have kept : (s.erase (key a)).items = s.items := by
    refine List.filter_eq_self.mpr fun b member => ?_
    simpa using find_eq_none_iff.mp fresh b member
  simp only [put, kept]

/-- Modifying the item under `k` moves one item's contribution in every count. -/
theorem countP_modify (s : KeyedStore κ α key) (k : κ) (f : α → α)
    (keeps : ∀ a, key (f a) = key a) (p : α → Bool) (a : α) (found : s.find k = some a) :
    (s.modify k f keeps).items.countP p + (if p a then 1 else 0) =
      s.items.countP p + (if p (f a) then 1 else 0) := by
  obtain ⟨member, location⟩ := find_eq_some_iff.mp found
  obtain ⟨before, after, split⟩ := List.append_of_mem member
  have distinct : ∀ b ∈ before ++ after, key b ≠ k := by
    intro b present same
    have nodup := s.unique
    rw [split, List.map_append, List.map_cons, List.nodup_append, List.nodup_cons] at nodup
    obtain ⟨_, ⟨fresh, _⟩, apart⟩ := nodup
    rcases List.mem_append.mp present with left | right
    · exact apart _ (List.mem_map_of_mem left) _ List.mem_cons_self (same.trans location.symm)
    · exact fresh (location ▸ same ▸ List.mem_map_of_mem right)
  have frame : ∀ part : List α, (∀ b ∈ part, key b ≠ k) →
      part.map (fun b => if key b = k then f b else b) = part := by
    intro part others
    conv_rhs => rw [← List.map_id part]
    exact List.map_congr_left fun b present => by simp [others b present]
  have left := frame before fun b present => distinct b (List.mem_append_left _ present)
  have right := frame after fun b present => distinct b (List.mem_append_right _ present)
  simp only [modify, items_mapItems, split, List.map_append, List.map_cons, left, right, location,
    if_true, List.countP_append, List.countP_cons]
  omega

theorem items_modify_absent (s : KeyedStore κ α key) (k : κ) (f : α → α)
    (keeps : ∀ a, key (f a) = key a) (absent : s.find k = none) :
    (s.modify k f keeps).items = s.items := by
  have others := find_eq_none_iff.mp absent
  simp only [modify, items_mapItems]
  conv_rhs => rw [← List.map_id s.items]
  exact List.map_congr_left fun b present => by simp [others b present]

end KeyedStore

end PnC.Library
