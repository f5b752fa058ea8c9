import Mathlib.Algebra.Order.BigOperators.Group.List
import PnC.Source.PwdGaps

/-!
# The first unit behind a starting password

The generator is advanced twice before the first unit, once by startup and once by next_unit.
With the non-alpha class the places that it shows then are the digits of the starting password
or of its successor for few starting passwords only.
-/
namespace PnC.Source

open PnC.Library PwdNextUnit

/-! ## The places -/

section Places
variable {k a b : Nat}

theorem writtenPlace_eq_some : writtenPlace true k b = some a ↔
    (b + 3 < k ∧ b = a) ∨ (k < b + 3 ∧ b - 1 = a) := by
  unfold writtenPlace
  rw [if_pos rfl]
  split_ifs with low caret
  · rw [Option.some_inj]
    omega
  · simp only [false_iff]
    omega
  · rw [Option.some_inj]
    omega

theorem bump_writtenPlace (large : 24 ≤ k) : bump (writtenPlace true k a) =
    if a + 3 < k then a + 1 else if a + 3 = k then 0 else a := by
  unfold writtenPlace
  rw [if_pos rfl]
  split_ifs with low caret
  · rfl
  · rfl
  · rw [bump]
    omega

/-- What the first unit shows. -/
def firstPlaces (k : Nat) (digits : List Nat) : List (Option Nat) :=
  advanceGaps k (advanceGaps k (digits.map (writtenPlace true k)))

/-- Both advances move the position of the leftmost character on. -/
theorem firstPlaces_plain (large : 24 ≤ k) (low : a + 1 < k) (rest : List Nat) :
    firstPlaces k (a :: rest) =
      some (bump (writtenPlace true k a) + 1) :: rest.map (writtenPlace true k) := by
  have bumped := bump_writtenPlace (a := a) large
  rw [firstPlaces, List.map_cons, advanceGaps, if_pos (by rw [bumped]; split_ifs <;> omega),
    advanceGaps, bump, if_pos (by rw [bumped]; split_ifs <;> omega)]

/-- Behind a comma the second one carries. -/
theorem firstPlaces_comma (large : 24 ≤ k) (last : a + 1 = k) :
    firstPlaces k [a] = [some 0, some 0] := by
  have bumped := bump_writtenPlace (a := a) large
  rw [if_neg (by omega), if_neg (by omega)] at bumped
  rw [firstPlaces, List.map_singleton, advanceGaps, bumped, if_pos (by omega), advanceGaps, bump,
    if_neg (by omega), advanceGaps]

theorem firstPlaces_comma_cons (large : 24 ≤ k) (last : a + 1 = k) (low : b < k) (rest : List Nat) :
    firstPlaces k (a :: b :: rest) =
      some 0 :: some (bump (writtenPlace true k b)) :: rest.map (writtenPlace true k) := by
  have bumped := bump_writtenPlace (a := a) large
  rw [if_neg (by omega), if_neg (by omega)] at bumped
  have next := bump_writtenPlace (a := b) large
  rw [firstPlaces, List.map_cons, advanceGaps, bumped, if_pos (by omega), advanceGaps, bump,
    if_neg (by omega), List.map_cons, advanceGaps, if_pos (by rw [next]; split_ifs <;> omega)]

theorem length_firstAdvance (large : 24 ≤ k) {digits : List Nat} (valid : Digits k digits)
    (started : digits ≠ []) :
    (advanceGaps k (digits.map (writtenPlace true k))).length = digits.length := by
  obtain ⟨a, rest, rfl⟩ := List.exists_cons_of_ne_nil started
  have low := valid a List.mem_cons_self
  have bumped := bump_writtenPlace (a := a) large
  rw [List.map_cons, advanceGaps, if_pos (by rw [bumped]; split_ifs <;> omega), List.length_cons,
    List.length_map, List.length_cons]

theorem length_firstPlaces (large : 24 ≤ k) {digits : List Nat} (valid : Digits k digits)
    (started : digits ≠ []) : (firstPlaces k digits).length ≤ max digits.length 2 := by
  obtain ⟨a, rest, rfl⟩ := List.exists_cons_of_ne_nil started
  have low := valid a List.mem_cons_self
  by_cases last : a + 1 = k
  · cases rest with
    | nil =>
      rw [firstPlaces_comma large last]
      exact Nat.le_max_right _ _
    | cons b tail =>
      rw [firstPlaces_comma_cons large last (valid b (by simp))]
      simp only [List.length_cons, List.length_map]
      exact Nat.le_max_left _ _
  · rw [firstPlaces_plain large (by omega)]
    simp only [List.length_cons, List.length_map]
    exact Nat.le_max_left _ _

/-- Characters that come out turned around as they went in are the same from both ends. -/
theorem palindrome_of_written {m : List Nat} (large : 24 ≤ k)
    (turned : m.map (writtenPlace true k) = m.reverse.map some) :
    m.reverse = m ∧ ∀ d ∈ m, d + 3 < k := by
  have known : ∀ d ∈ m, ∃ e, writtenPlace true k d = some e := by
    intro d member
    have image := List.mem_map_of_mem (f := writtenPlace true k) member
    rw [turned] at image
    obtain ⟨e, -, same⟩ := List.mem_map.mp image
    exact ⟨e, same.symm⟩
  have values : m.map (fun d => (writtenPlace true k d).getD 0) = m.reverse := by
    have all := congrArg (List.map fun place : Option Nat => place.getD 0) turned
    rw [List.map_map, List.map_map] at all
    refine all.trans ?_
    exact (List.map_congr_left fun _ _ => rfl).trans (List.map_id _)
  -- no place shows more than its character, and in sum they show the same
  have lower : ∀ d ∈ m, (writtenPlace true k d).getD 0 ≤ d := by
    intro d member
    obtain ⟨e, place⟩ := known d member
    rw [place, Option.getD_some]
    rcases writtenPlace_eq_some.mp place with ⟨-, same⟩ | ⟨-, same⟩ <;> omega
  have same : ∀ d ∈ m, (writtenPlace true k d).getD 0 = d := by
    intro d member
    by_contra other
    have less := List.sum_lt_sum (l := m) (fun d => (writtenPlace true k d).getD 0) (fun d => d)
      lower ⟨d, member, Nat.lt_of_le_of_ne (lower d member) other⟩
    rw [values, List.map_id', List.sum_reverse] at less
    exact Nat.lt_irrefl _ less
  constructor
  · rw [← values]
    exact (List.map_congr_left same).trans (List.map_id _)
  · intro d member
    obtain ⟨e, place⟩ := known d member
    have here := same d member
    rw [place, Option.getD_some] at here
    rcases writtenPlace_eq_some.mp place with ⟨low, -⟩ | ⟨high, lowered⟩ <;> omega

/-- The asterisk alone, the comma alone, or an asterisk and a comma around a palindrome of
characters in front of the caret. -/
def Fortunate (k : Nat) (digits : List Nat) : Prop :=
  digits = [k - 2] ∨ digits = [k - 1] ∨
    ∃ m, digits = (k - 2) :: (m ++ [k - 1]) ∧ m.reverse = m ∧ ∀ d ∈ m, d + 3 < k

/-- The first unit shows the starting password itself. -/
def ShowsStart (k : Nat) (digits : List Nat) : Prop :=
  firstPlaces k digits = digits.reverse.map some

/-- The first unit shows its successor. -/
def ShowsNext (k : Nat) (digits : List Nat) : Prop :=
  firstPlaces k digits = (advance k digits.reverse).map some

theorem single_fortunate (large : 24 ≤ k) (valid : a < k) :
    (ShowsStart k [a] ∨ ShowsNext k [a]) ↔ a = k - 2 ∨ a = k - 1 := by
  unfold ShowsStart ShowsNext
  rw [List.reverse_singleton, List.map_singleton]
  by_cases last : a + 1 = k
  · rw [firstPlaces_comma large last, advance, if_neg (by omega), advance]
    simp only [List.map_cons, List.map_nil, or_true, true_iff]
    omega
  · have low : a + 1 < k := by omega
    have bumped := bump_writtenPlace (a := a) large
    rw [firstPlaces_plain large low, advance, if_pos low, List.map_nil]
    simp only [List.map_cons, List.map_nil, List.cons.injEq, Option.some_inj, and_true]
    split_ifs at bumped <;> omega

/-- A first unit that begins with a comma and ends with anything is never right. -/
theorem comma_unfortunate (large : 24 ≤ k) (last : a + 1 = k) (lower : b < k) {m : List Nat}
    (valid : ∀ d ∈ m, d < k) :
    ¬ (ShowsStart k (a :: (m ++ [b])) ∨ ShowsNext k (a :: (m ++ [b]))) := by
  unfold ShowsStart ShowsNext
  rw [List.reverse_cons, List.reverse_append, List.reverse_singleton, List.singleton_append,
    List.cons_append]
  have bumped := bump_writtenPlace (a := b) large
  cases m with
  | nil =>
    rw [List.nil_append, firstPlaces_comma_cons large last lower, List.reverse_nil, List.nil_append,
      advance]
    rintro (start | next)
    · simp only [List.map_cons, List.map_nil, List.cons.injEq, Option.some_inj] at start
      split_ifs at bumped <;> omega
    · split_ifs at next with room
      · simp only [List.map_cons, List.cons.injEq, Option.some_inj] at next
        omega
      · rw [advance, if_neg (by omega), advance] at next
        simp at next
  | cons c rest =>
    rw [List.cons_append, firstPlaces_comma_cons large last (valid c List.mem_cons_self),
      List.map_append, List.map_singleton, advance]
    rintro (start | next)
    · rw [List.map_cons, List.map_append, List.map_singleton] at start
      have heads := (List.cons.inj start).1
      have tails := (List.cons.inj start).2
      rw [← List.cons_append] at tails
      have lasts := List.singleton_inj.mp (List.append_inj_right' tails rfl)
      rw [Option.some_inj] at heads
      have place := writtenPlace_eq_some.mp lasts
      omega
    · split_ifs at next with room
      · simp only [List.map_cons, List.cons.injEq, Option.some_inj] at next
        omega
      · have tails := (List.cons.inj next).2
        have short : (advance k ((c :: rest).reverse ++ [a])).length =
            (c :: rest).reverse.length + 1 := by
          have lengths := congrArg List.length tails
          simp only [List.length_cons, List.length_append, List.length_map, List.length_nil,
            List.length_reverse] at lengths ⊢
          omega
        obtain ⟨front, same⟩ := advance_top _ last short
        rw [same, List.map_append, List.map_singleton, ← List.cons_append] at tails
        have lasts := List.singleton_inj.mp (List.append_inj_right' tails rfl)
        have place := writtenPlace_eq_some.mp lasts
        omega

/-- Anything else is right between an asterisk and a comma only. -/
theorem pair_fortunate (large : 24 ≤ k) (low : a + 1 < k) (lower : b < k) {m : List Nat} :
    (ShowsStart k (a :: (m ++ [b])) ∨ ShowsNext k (a :: (m ++ [b]))) ↔
      a = k - 2 ∧ b = k - 1 ∧ m.reverse = m ∧ ∀ d ∈ m, d + 3 < k := by
  unfold ShowsStart ShowsNext
  rw [List.reverse_cons, List.reverse_append, List.reverse_singleton, List.singleton_append,
    List.cons_append, firstPlaces_plain large low, List.map_append, List.map_singleton, advance]
  have bumped := bump_writtenPlace (a := a) large
  constructor
  · rintro (start | next)
    · rw [List.map_cons, List.map_append, List.map_singleton] at start
      have heads := Option.some_inj.mp (List.cons.inj start).1
      obtain ⟨inner, lasts⟩ := List.append_inj' (List.cons.inj start).2 rfl
      have place := writtenPlace_eq_some.mp (List.singleton_inj.mp lasts)
      obtain ⟨palindrome, plain⟩ := palindrome_of_written large inner
      refine ⟨?_, ?_, palindrome, plain⟩ <;> split_ifs at bumped <;> omega
    · exfalso
      split_ifs at next with room
      · rw [List.map_cons, List.map_append, List.map_singleton] at next
        have heads := Option.some_inj.mp (List.cons.inj next).1
        have lasts := List.append_inj_right' (List.cons.inj next).2 rfl
        have place := writtenPlace_eq_some.mp (List.singleton_inj.mp lasts)
        split_ifs at bumped <;> omega
      · have heads := Option.some_inj.mp (List.cons.inj next).1
        omega
  · rintro ⟨rfl, rfl, palindrome, plain⟩
    left
    have inner : m.map (writtenPlace true k) = m.map some := by
      apply List.map_congr_left
      intro d member
      exact writtenPlace_eq_some.mpr (Or.inl ⟨plain d member, rfl⟩)
    have top : writtenPlace true k (k - 1) = some (k - 2) :=
      writtenPlace_eq_some.mpr (Or.inr ⟨by omega, by omega⟩)
    rw [if_neg (by omega), if_neg (by omega)] at bumped
    rw [inner, top, palindrome, bumped, List.map_cons, List.map_append, List.map_singleton]
    congr 2
    omega

/-- The first unit shows the starting password or its successor for these alone. -/
theorem fortunate_iff (large : 24 ≤ k) {digits : List Nat} (valid : Digits k digits)
    (started : digits ≠ []) :
    (ShowsStart k digits ∨ ShowsNext k digits) ↔ Fortunate k digits := by
  obtain ⟨a, rest, rfl⟩ := List.exists_cons_of_ne_nil started
  have first : a < k := valid a List.mem_cons_self
  unfold Fortunate
  rcases List.eq_nil_or_concat' rest with rfl | ⟨m, b, rfl⟩
  · rw [single_fortunate large first]
    constructor
    · rintro (rfl | rfl)
      · exact Or.inl rfl
      · exact Or.inr (Or.inl rfl)
    · rintro (same | same | ⟨m, same, -⟩)
      · exact Or.inl (List.singleton_inj.mp same)
      · exact Or.inr (List.singleton_inj.mp same)
      · simp at same
  · have top : b < k := valid b (by simp)
    have inner : ∀ d ∈ m, d < k := fun d member => valid d (by simp [member])
    by_cases last : a + 1 = k
    · constructor
      · intro shows
        exact absurd shows (comma_unfortunate large last top inner)
      · rintro (same | same | ⟨n, same, -⟩)
        · simp at same
        · simp at same
        · have heads := (List.cons.inj same).1
          omega
    · rw [pair_fortunate large (by omega) top]
      constructor
      · rintro ⟨rfl, rfl, palindrome, plain⟩
        exact Or.inr (Or.inr ⟨m, rfl, palindrome, plain⟩)
      · rintro (same | same | ⟨n, same, palindrome, plain⟩)
        · simp at same
        · simp at same
        · obtain ⟨middles, lasts⟩ := List.append_inj' (List.cons.inj same).2 rfl
          subst middles
          exact ⟨(List.cons.inj same).1, List.singleton_inj.mp lasts, palindrome, plain⟩

end Places

end PnC.Source
