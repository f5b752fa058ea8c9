import Mathlib.Data.List.Dedup
import Mathlib.Data.List.TakeWhile

/-!
# Most recently used items

The distinct items of a history in the order of their last use, most recent first. A
history is newest first. What is among the `n` most recent is what fewer than `n` others
were used after.
-/
namespace PnC.Library

universe u
variable {α : Type u} [DecidableEq α]

/-- The items of the history, each at its most recent use. -/
def recent : List α → List α
  | [] => []
  | a :: earlier => a :: (recent earlier).filter (· ≠ a)

theorem mem_recent {history : List α} {a : α} : a ∈ recent history ↔ a ∈ history := by
  induction history with
  | nil => exact Iff.rfl
  | cons b earlier ih =>
    rw [recent, List.mem_cons, List.mem_cons, List.mem_filter, ih]
    by_cases same : a = b <;> simp [same]

theorem nodup_recent (history : List α) : (recent history).Nodup := by
  induction history with
  | nil => exact List.nodup_nil
  | cons a earlier ih =>
    rw [recent, List.nodup_cons]
    exact ⟨by simp, ih.filter _⟩

/-- The uses of a later part of the history come first and hide the earlier ones. -/
theorem recent_append (later earlier : List α) :
    recent (later ++ earlier) = recent later ++ (recent earlier).filter (· ∉ later) := by
  induction later with
  | nil => exact (List.filter_eq_self.mpr fun b _ => by simp).symm
  | cons a later ih =>
    rw [List.cons_append, recent, ih, List.filter_append, List.filter_filter, recent,
      List.cons_append]
    congr 2
    refine List.filter_congr fun b _ => ?_
    simp

theorem length_recent (history : List α) : (recent history).length = history.dedup.length := by
  apply List.Perm.length_eq
  rw [List.perm_ext_iff_of_nodup (nodup_recent history) history.nodup_dedup]
  intro a
  rw [mem_recent, List.mem_dedup]

/-- The items used since the last use of `a` come right in front of it. -/
theorem getElem?_recent {later : List α} {a : α} (last : a ∉ later) (earlier : List α) :
    (recent (later ++ a :: earlier))[later.dedup.length]? = some a := by
  rw [recent_append, recent, List.filter_cons_of_pos (by simpa using last), ← length_recent,
    List.getElem?_append_right (Nat.le_refl _), Nat.sub_self]
  rfl

/-- An item is among the `n` most recent exactly when it was used, and fewer than `n`
different items since. -/
theorem mem_take_recent_iff {history : List α} {a : α} {n : Nat} :
    a ∈ (recent history).take n ↔
      ∃ later earlier, history = later ++ a :: earlier ∧ a ∉ later ∧ later.dedup.length < n := by
  constructor
  · intro member
    have used := mem_recent.mp (List.mem_of_mem_take member)
    obtain ⟨later, earlier, rfl, last⟩ := List.eq_append_cons_of_mem used
    refine ⟨later, earlier, rfl, last, ?_⟩
    obtain ⟨i, inside, found⟩ := List.mem_take_iff_getElem.mp member
    have place := getElem?_recent last earlier
    obtain ⟨reached, same⟩ := List.getElem?_eq_some_iff.mp place
    have index := (nodup_recent _).getElem_inj_iff.mp (same.trans found.symm)
    omega
  · intro position
    obtain ⟨later, earlier, rfl, last, few⟩ := position
    apply List.mem_of_getElem? (i := later.dedup.length)
    rw [List.getElem?_take_of_lt few]
    exact getElem?_recent last earlier

/-- An item is among the `n` most recent when fewer than `n` others were used since. -/
theorem mem_take_recent {history : List α} {a : α} {n : Nat} (used : a ∈ history)
    (few : (recent (history.takeWhile (· ≠ a))).length < n) : a ∈ (recent history).take n := by
  obtain ⟨later, earlier, rfl, last⟩ := List.eq_append_cons_of_mem used
  have since : (later ++ a :: earlier).takeWhile (· ≠ a) = later := by
    rw [List.takeWhile_append_of_pos (by
      intro b member
      exact decide_eq_true fun same : b = a => last (same ▸ member))]
    simp
  rw [since, length_recent] at few
  exact mem_take_recent_iff.mpr ⟨later, earlier, rfl, last, few⟩

/-- Keeping only the `n + 1` most recent items loses nothing when one of them is moved to
the front. -/
theorem take_filter_take {items : List α} (distinct : items.Nodup) (a : α) (n : Nat) :
    ((items.take (n + 1)).filter (· ≠ a)).take n = (items.filter (· ≠ a)).take n := by
  induction items generalizing n with
  | nil => rfl
  | cons b items ih =>
    obtain ⟨fresh, distinct⟩ := List.nodup_cons.mp distinct
    by_cases same : b = a
    · subst same
      have kept : ∀ part : List α, b ∉ part → part.filter (· ≠ b) = part := by
        intro part absent
        refine List.filter_eq_self.mpr fun c member => ?_
        simpa using fun equal : c = b => absent (equal ▸ member)
      have part : b ∉ items.take n := fun member => fresh (List.mem_of_mem_take member)
      rw [List.take_succ_cons, List.filter_cons_of_neg (by simp), List.filter_cons_of_neg (by simp),
        kept _ part, kept _ fresh, List.take_take, Nat.min_self]
    · rw [List.take_succ_cons, List.filter_cons_of_pos (by simpa using same),
        List.filter_cons_of_pos (by simpa using same)]
      cases n with
      | zero => rfl
      | succ n => rw [List.take_succ_cons, List.take_succ_cons, ih distinct]

end PnC.Library
