import Mathlib.Data.Nat.Digits.Defs
import Mathlib.Data.List.GetD
import Mathlib.Algebra.BigOperators.Intervals

/-!
# Words in length-then-lexicographic order, and the odometer that walks them

An odometer is a list of digits, least significant first, with no digit beyond
the length reached so far. Advancing it carries past maximal digits and opens a
new position when every digit is maximal. Reading the digits as bijective base-k
numeration, `position` counts the advances since the empty odometer, and the
odometer at position n spells the n-th word in shortlex order.
-/
namespace PnC.Library

universe u
variable {α : Type u}

/-- All words of one length, in lexicographic order of the alphabet. -/
def wordsOfLength (A : List α) : Nat → List (List α)
  | 0 => [[]]
  | l + 1 => A.flatMap fun a => (wordsOfLength A l).map (a :: ·)

/-- All words of length 1 to m: shorter first, lexicographic within a length. -/
def shortlex (A : List α) : Nat → List (List α)
  | 0 => []
  | m + 1 => shortlex A m ++ wordsOfLength A (m + 1)

@[simp] theorem length_wordsOfLength (A : List α) (l : Nat) :
    (wordsOfLength A l).length = A.length ^ l := by
  induction l with
  | zero => rfl
  | succ l ih =>
    simp [wordsOfLength, List.length_flatMap, ih, Nat.pow_succ']

theorem length_shortlex (A : List α) (m : Nat) :
    (shortlex A m).length = ∑ l ∈ Finset.Icc 1 m, A.length ^ l := by
  induction m with
  | zero => rfl
  | succ m ih =>
    rw [shortlex, List.length_append, ih, length_wordsOfLength,
      Finset.sum_Icc_succ_top (by omega)]

theorem mem_wordsOfLength {A : List α} {l : Nat} {w : List α} :
    w ∈ wordsOfLength A l ↔ w.length = l ∧ ∀ a ∈ w, a ∈ A := by
  induction l generalizing w with
  | zero =>
    rw [wordsOfLength, List.mem_singleton, List.length_eq_zero_iff]
    constructor
    · rintro rfl
      exact ⟨rfl, fun a member => by cases member⟩
    · exact fun empty => empty.1
  | succ l ih =>
    cases w with
    | nil => simp [wordsOfLength]
    | cons head tail =>
      rw [wordsOfLength, List.mem_flatMap, List.length_cons, Nat.add_right_cancel_iff,
        List.forall_mem_cons]
      constructor
      · rintro ⟨a, letter, member⟩
        obtain ⟨rest, inside, same⟩ := List.mem_map.mp member
        cases same
        obtain ⟨length, letters⟩ := ih.mp inside
        exact ⟨length, letter, letters⟩
      · rintro ⟨length, letter, letters⟩
        exact ⟨head, letter, List.mem_map.mpr ⟨tail, ih.mpr ⟨length, letters⟩, rfl⟩⟩

theorem mem_shortlex {A : List α} {m : Nat} {w : List α} :
    w ∈ shortlex A m ↔ 1 ≤ w.length ∧ w.length ≤ m ∧ ∀ a ∈ w, a ∈ A := by
  induction m with
  | zero =>
    simp only [shortlex, List.not_mem_nil, false_iff]
    omega
  | succ m ih =>
    rw [shortlex, List.mem_append, ih, mem_wordsOfLength]
    constructor
    · rintro (⟨low, high, letters⟩ | ⟨length, letters⟩)
      · exact ⟨low, by omega, letters⟩
      · exact ⟨by omega, by omega, letters⟩
    · rintro ⟨low, high, letters⟩
      rcases Nat.lt_or_ge w.length (m + 1) with short | long
      · exact Or.inl ⟨low, by omega, letters⟩
      · exact Or.inr ⟨by omega, letters⟩

theorem nodup_wordsOfLength {A : List α} (distinct : A.Nodup) (l : Nat) :
    (wordsOfLength A l).Nodup := by
  induction l with
  | zero => exact List.nodup_singleton []
  | succ l ih =>
    rw [wordsOfLength, List.nodup_flatMap]
    refine ⟨fun a _ => ih.map (List.cons_injective), ?_⟩
    apply distinct.imp
    intro a b different w first second
    obtain ⟨tail, -, rfl⟩ := List.mem_map.mp first
    obtain ⟨other, -, same⟩ := List.mem_map.mp second
    exact different (List.cons.inj same).1.symm

/-- No word is listed twice. -/
theorem nodup_shortlex {A : List α} (distinct : A.Nodup) (m : Nat) : (shortlex A m).Nodup := by
  induction m with
  | zero => exact List.nodup_nil
  | succ m ih =>
    rw [shortlex, List.nodup_append]
    refine ⟨ih, nodup_wordsOfLength distinct (m + 1), ?_⟩
    intro w shorter v longer same
    subst same
    have short := (mem_shortlex.mp shorter).2.1
    have long := (mem_wordsOfLength.mp longer).1
    omega

/-- Blocks of equal size: position `c * d + i` of the concatenation is position
`i` of block `d`. -/
theorem getElem?_blocks {β : Type u} (A : List α) (f : α → List β) (c d i : Nat) (a : α)
    (sizes : ∀ a ∈ A, (f a).length = c) (block : A[d]? = some a) (inside : i < c) :
    (A.flatMap f)[c * d + i]? = (f a)[i]? := by
  induction A generalizing d with
  | nil => simp at block
  | cons head rest ih =>
    have size := sizes head List.mem_cons_self
    rw [List.flatMap_cons]
    cases d with
    | zero =>
      simp only [List.getElem?_cons_zero, Option.some.injEq] at block
      subst block
      rw [Nat.mul_zero, Nat.zero_add, List.getElem?_append_left (by omega)]
    | succ d =>
      rw [List.getElem?_cons_succ] at block
      have later := ih d (fun b member => sizes b (List.mem_cons_of_mem head member)) block
      have beyond : (f head).length ≤ c * (d + 1) + i := by
        rw [size, Nat.mul_succ]
        omega
      have shifted : c * (d + 1) + i - (f head).length = c * d + i := by
        rw [size, Nat.mul_succ]
        omega
      rw [List.getElem?_append_right beyond, shifted, later]

/-- The word an odometer spells: most significant digit first. -/
def spell (A : List α) (digits : List Nat) : List α :=
  digits.reverse.filterMap (A[·]?)

theorem spell_append (A : List α) (digits : List Nat) (d : Nat) (a : α) (shown : A[d]? = some a) :
    spell A (digits ++ [d]) = a :: spell A digits := by
  simp [spell, shown]

/-- Digits name letters of an alphabet of size k. -/
def Digits (k : Nat) (digits : List Nat) : Prop := ∀ d ∈ digits, d < k

theorem wordsOfLength_spell (A : List α) (digits : List Nat) (valid : Digits A.length digits) :
    (wordsOfLength A digits.length)[Nat.ofDigits A.length digits]? = some (spell A digits) := by
  induction digits using List.reverseRecOn with
  | nil => rfl
  | append_singleton lower d ih =>
    have lowerValid : Digits A.length lower :=
      fun e member => valid e (List.mem_append_left _ member)
    have top : d < A.length := valid d (by simp)
    have shown : A[d]? = some A[d] := List.getElem?_eq_getElem top
    have index : Nat.ofDigits A.length (lower ++ [d]) =
        A.length ^ lower.length * d + Nat.ofDigits A.length lower := by
      rw [Nat.ofDigits_append, Nat.ofDigits_singleton, Nat.add_comm]
    have inside : Nat.ofDigits A.length lower < A.length ^ lower.length := by
      rcases Nat.lt_or_ge A.length 2 with small | large
      · have zeros : ∀ e ∈ lower, e = 0 := fun e member => by
          have := lowerValid e member
          omega
        rw [List.eq_replicate_of_mem zeros, Nat.ofDigits_replicate_zero]
        exact Nat.pow_pos (by omega)
      · exact Nat.ofDigits_lt_base_pow_length (by omega) lowerValid
    rw [spell_append A lower d _ shown, List.length_append, List.length_singleton, wordsOfLength,
      index, getElem?_blocks A _ _ d _ A[d] (fun a _ => by simp) shown inside,
      List.getElem?_map, ih lowerValid]
    rfl

/-- Advance by one: carry past maximal digits, open a position at the end. -/
def advance (k : Nat) : List Nat → List Nat
  | [] => [0]
  | d :: rest => if d + 1 < k then (d + 1) :: rest else 0 :: advance k rest

/-- The number of advances from the empty odometer (bijective base k). -/
def position (k : Nat) : List Nat → Nat
  | [] => 0
  | d :: rest => d + 1 + k * position k rest

theorem digits_advance {k : Nat} {digits : List Nat} (positive : 0 < k) (valid : Digits k digits) :
    Digits k (advance k digits) := by
  induction digits with
  | nil => simpa [Digits, advance] using positive
  | cons d rest ih =>
    have tail : Digits k rest := fun e member => valid e (List.mem_cons_of_mem d member)
    rw [advance]
    split
    next room => exact List.forall_mem_cons.mpr ⟨room, tail⟩
    next => exact List.forall_mem_cons.mpr ⟨positive, ih tail⟩

theorem position_advance {k : Nat} {digits : List Nat} (valid : Digits k digits) :
    position k (advance k digits) = position k digits + 1 := by
  induction digits with
  | nil => simp [advance, position]
  | cons d rest ih =>
    have here : d < k := valid d List.mem_cons_self
    have tail : Digits k rest := fun e member => valid e (List.mem_cons_of_mem d member)
    rw [advance]
    split
    next => simp only [position]; omega
    next full =>
      simp only [position, ih tail, Nat.mul_add, Nat.mul_one]
      omega

theorem length_le_advance (k : Nat) (digits : List Nat) :
    digits.length ≤ (advance k digits).length := by
  induction digits with
  | nil => exact Nat.zero_le _
  | cons d rest ih =>
    rw [advance]
    split
    · exact Nat.le_refl _
    · simpa using ih

theorem advance_ne_nil (k : Nat) (digits : List Nat) : advance k digits ≠ [] := by
  cases digits with
  | nil => simp [advance]
  | cons d rest =>
    rw [advance]
    split <;> simp

theorem sum_powers_succ (k m : Nat) :
    ∑ l ∈ Finset.Icc 1 (m + 1), k ^ l = k + k * ∑ l ∈ Finset.Icc 1 m, k ^ l := by
  induction m with
  | zero => simp
  | succ m ih =>
    have inner := Finset.sum_Icc_succ_top (a := 1) (b := m) (by omega) (fun l => k ^ l)
    calc ∑ l ∈ Finset.Icc 1 (m + 2), k ^ l
        = ∑ l ∈ Finset.Icc 1 (m + 1), k ^ l + k ^ (m + 2) :=
          Finset.sum_Icc_succ_top (by omega) _
      _ = k + k * ∑ l ∈ Finset.Icc 1 m, k ^ l + k * k ^ (m + 1) := by rw [ih, ← Nat.pow_succ']
      _ = k + k * (∑ l ∈ Finset.Icc 1 m, k ^ l + k ^ (m + 1)) := by
          rw [Nat.mul_add, Nat.add_assoc]
      _ = k + k * ∑ l ∈ Finset.Icc 1 (m + 1), k ^ l := by rw [inner]

/-- Within one length the position is the base-k value, after all shorter words. -/
theorem position_eq (A : List α) (digits : List Nat) :
    position A.length digits + A.length ^ digits.length =
      1 + (shortlex A digits.length).length + Nat.ofDigits A.length digits := by
  rw [length_shortlex]
  induction digits with
  | nil => simp [position]
  | cons d rest ih =>
    rw [List.length_cons, sum_powers_succ, position, Nat.ofDigits_cons, Nat.pow_succ']
    have scaled := congrArg (A.length * ·) ih
    simp only [Nat.mul_add, Nat.mul_one] at scaled
    omega

/-- An odometer of length l has passed every word of length below l. -/
theorem shortlex_lt_position (A : List α) (d : Nat) (rest : List Nat) :
    (shortlex A rest.length).length < position A.length (d :: rest) := by
  have equation := position_eq A (d :: rest)
  rw [List.length_cons, shortlex, List.length_append, length_wordsOfLength] at equation
  omega

theorem length_shortlex_mono (A : List α) {m n : Nat} (le : m ≤ n) :
    (shortlex A m).length ≤ (shortlex A n).length := by
  induction le with
  | refl => exact Nat.le_refl _
  | step _ ih =>
    rw [shortlex, List.length_append]
    omega

theorem getElem?_shortlex_mono (A : List α) {m n : Nat} (le : m ≤ n) {i : Nat} {w : List α}
    (found : (shortlex A m)[i]? = some w) : (shortlex A n)[i]? = some w := by
  induction le with
  | refl => exact found
  | step _ ih =>
    have inside := (List.getElem?_eq_some_iff.mp ih).1
    rw [shortlex, List.getElem?_append_left inside, ih]

/-- The odometer at position n spells the n-th word. -/
theorem shortlex_spell (A : List α) {digits : List Nat} {m : Nat} (valid : Digits A.length digits)
    (started : digits ≠ []) (fits : digits.length ≤ m) :
    (shortlex A m)[position A.length digits - 1]? = some (spell A digits) := by
  apply getElem?_shortlex_mono A fits
  obtain ⟨d, rest, rfl⟩ := List.exists_cons_of_ne_nil started
  have equation := position_eq A (d :: rest)
  have word := wordsOfLength_spell A (d :: rest) valid
  rw [List.length_cons] at equation word ⊢
  rw [shortlex, List.length_append, length_wordsOfLength] at equation
  have index : position A.length (d :: rest) - 1 =
      (shortlex A rest.length).length + Nat.ofDigits A.length (d :: rest) := by
    omega
  rw [shortlex, index, List.getElem?_append_right (Nat.le_add_right _ _), Nat.add_sub_cancel_left,
    word]

/-- The odometer is longer than m exactly past the last word of length m. -/
theorem length_le_iff_position_le (A : List α) {digits : List Nat} {m : Nat}
    (valid : Digits A.length digits) :
    digits.length ≤ m ↔ position A.length digits ≤ (shortlex A m).length := by
  constructor
  · intro fits
    cases digits with
    | nil => exact Nat.zero_le _
    | cons d rest =>
      have word := shortlex_spell A valid (by simp) fits
      have inside := (List.getElem?_eq_some_iff.mp word).1
      omega
  · intro reached
    by_contra long
    cases digits with
    | nil => exact long (Nat.zero_le _)
    | cons d rest =>
      have passed := shortlex_lt_position A d rest
      have shorter := length_shortlex_mono A (m := m) (n := rest.length)
        (by rw [List.length_cons] at long; omega)
      omega

/-- The odometer after n advances. -/
def odometer (k n : Nat) : List Nat := (advance k)^[n] []

theorem odometer_succ (k n : Nat) : odometer k (n + 1) = advance k (odometer k n) :=
  Function.iterate_succ_apply' _ _ _

theorem digits_odometer {k : Nat} (positive : 0 < k) (n : Nat) : Digits k (odometer k n) := by
  induction n with
  | zero => simp [odometer, Digits]
  | succ n ih =>
    rw [odometer_succ]
    exact digits_advance positive ih

theorem position_odometer {k : Nat} (positive : 0 < k) (n : Nat) :
    position k (odometer k n) = n := by
  induction n with
  | zero => rfl
  | succ n ih => rw [odometer_succ, position_advance (digits_odometer positive n), ih]

end PnC.Library
