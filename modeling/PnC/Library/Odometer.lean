import PnC.Library.Shortlex

/-!
# More about odometers

An odometer is determined by its position, and a word by its digits. Turned around it keeps
its position up to multiples of one less than the base. A position that is not set counts
like the place in front of the first digit.
-/
namespace PnC.Library

universe u
variable {α : Type u}

/-- Different odometers are at different positions. -/
theorem position_injective {k : Nat} {digits others : List Nat} (valid : Digits k digits)
    (validOthers : Digits k others) (same : position k digits = position k others) :
    digits = others := by
  induction digits generalizing others with
  | nil =>
    cases others with
    | nil => rfl
    | cons e tail =>
      simp only [position] at same
      omega
  | cons d rest ih =>
    cases others with
    | nil =>
      simp only [position] at same
      omega
    | cons e tail =>
      have digit : d < k := valid d List.mem_cons_self
      have other : e < k := validOthers e List.mem_cons_self
      simp only [position] at same
      have heads : d = e := by
        have sums : d + k * position k rest = e + k * position k tail := by omega
        have left := congrArg (· % k) sums
        simpa only [Nat.add_mul_mod_self_left, Nat.mod_eq_of_lt digit, Nat.mod_eq_of_lt other]
          using left
      subst heads
      have tails := Nat.eq_of_mul_eq_mul_left (Nat.zero_lt_of_lt digit)
        (show k * position k rest = k * position k tail by omega)
      rw [ih (fun f member => valid f (List.mem_cons_of_mem d member))
        (fun f member => validOthers f (List.mem_cons_of_mem d member)) tails]

/-- Up to multiples of `k - 1` a position is the sum of its digits, and of their number. -/
theorem position_eq_sum {k : Nat} (positive : 0 < k) (digits : List Nat) :
    ∃ q, position k digits = (digits.map (· + 1)).sum + (k - 1) * q := by
  induction digits with
  | nil => exact ⟨0, rfl⟩
  | cons d rest ih =>
    obtain ⟨q, equation⟩ := ih
    obtain ⟨m, rfl⟩ : ∃ m, k = m + 1 := ⟨k - 1, by omega⟩
    refine ⟨position (m + 1) rest + q, ?_⟩
    rw [position, List.map_cons, List.sum_cons, Nat.succ_mul, equation]
    simp only [Nat.add_sub_cancel, Nat.mul_add]
    omega

/-- Turning an odometer around keeps its position up to multiples of `k - 1`. -/
theorem position_reverse {k : Nat} (positive : 0 < k) (digits : List Nat) :
    position k digits.reverse % (k - 1) = position k digits % (k - 1) := by
  obtain ⟨q, equation⟩ := position_eq_sum positive digits
  obtain ⟨r, turned⟩ := position_eq_sum positive digits.reverse
  rw [equation, turned, List.map_reverse, List.sum_reverse, Nat.add_mul_mod_self_left,
    Nat.add_mul_mod_self_left]

/-- The odometer that has to open a position is full. -/
theorem full_of_longer {k : Nat} {digits : List Nat} (valid : Digits k digits)
    (longer : digits.length < (advance k digits).length) :
    digits = List.replicate digits.length (k - 1) := by
  induction digits with
  | nil => rfl
  | cons d rest ih =>
    have here : d < k := valid d List.mem_cons_self
    rw [advance] at longer
    split at longer
    next => exact absurd longer (Nat.lt_irrefl _)
    next full =>
      have tail := ih (fun e member => valid e (List.mem_cons_of_mem d member))
        (Nat.lt_of_succ_lt_succ longer)
      rw [List.length_cons, List.replicate_succ, ← tail]
      congr 1
      omega

theorem length_advance_replicate {k : Nat} (positive : 0 < k) (length : Nat) :
    (advance k (List.replicate length (k - 1))).length = length + 1 := by
  induction length with
  | zero => rfl
  | succ length ih =>
    rw [List.replicate_succ, advance, if_neg (by omega), List.length_cons, ih]

/-- A full top digit stays what it is, or the odometer gets longer. -/
theorem advance_top {k : Nat} (lower : List Nat) {d : Nat} (full : d + 1 = k)
    (short : (advance k (lower ++ [d])).length = lower.length + 1) :
    ∃ front, advance k (lower ++ [d]) = front ++ [d] := by
  induction lower with
  | nil =>
    rw [List.nil_append, advance, if_neg (by omega), advance] at short
    cases short
  | cons c rest ih =>
    rw [List.cons_append, advance] at short ⊢
    split at short
    next room => exact ⟨(c + 1) :: rest, by rw [if_pos room, List.cons_append]⟩
    next carried =>
      obtain ⟨front, same⟩ := ih (by simpa using short)
      exact ⟨0 :: front, by rw [if_neg carried, same, List.cons_append]⟩

/-- The digits of a word spell it. -/
theorem spell_idxOf [DecidableEq α] {A : List α} {w : List α} (letters : ∀ a ∈ w, a ∈ A) :
    spell A (w.map A.idxOf).reverse = w := by
  rw [spell, List.reverse_reverse, List.filterMap_map]
  induction w with
  | nil => rfl
  | cons a rest ih =>
    have found : A[A.idxOf a]? = some a := List.getElem?_idxOf (letters a List.mem_cons_self)
    rw [List.filterMap_cons, Function.comp, found]
    dsimp only
    rw [ih fun b member => letters b (List.mem_cons_of_mem a member)]

theorem digits_reverse {k : Nat} {digits : List Nat} (valid : Digits k digits) :
    Digits k digits.reverse := fun d member => valid d (List.mem_reverse.mp member)

/-- Different words have different digits. -/
theorem map_idxOf_inj [DecidableEq α] {A : List α} {v w : List α} (letters : ∀ a ∈ v, a ∈ A)
    (same : v.map A.idxOf = w.map A.idxOf) : v = w := by
  induction v generalizing w with
  | nil => exact (List.map_eq_nil_iff.mp same.symm).symm
  | cons a rest ih =>
    cases w with
    | nil => cases same
    | cons b tail =>
      obtain ⟨heads, tails⟩ := List.cons.inj same
      rw [(List.idxOf_inj (letters a List.mem_cons_self)).mp heads,
        ih (fun c member => letters c (List.mem_cons_of_mem a member)) tails]

theorem digits_idxOf [DecidableEq α] {A : List α} {w : List α} (letters : ∀ a ∈ w, a ∈ A) :
    Digits A.length (w.map A.idxOf) := by
  intro d member
  obtain ⟨a, inside, rfl⟩ := List.mem_map.mp member
  exact List.idxOf_lt_length_of_mem (letters a inside)
/-! ## Unset positions -/

/-- The digit that a position moves on to. -/
def bump : Option Nat → Nat
  | none => 0
  | some d => d + 1

def advanceGaps (k : Nat) : List (Option Nat) → List (Option Nat)
  | [] => [some 0]
  | place :: rest =>
    if bump place < k then some (bump place) :: rest else some 0 :: advanceGaps k rest

theorem advanceGaps_ne_nil (k : Nat) (places : List (Option Nat)) : advanceGaps k places ≠ [] := by
  cases places with
  | nil => simp [advanceGaps]
  | cons place rest =>
    rw [advanceGaps]
    split <;> simp

/-- What one advance does: it resets the full positions in front and moves the next one on. -/
theorem advanceGaps_spec {k : Nat} (positive : 0 < k) {places : List (Option Nat)}
    (valid : ∀ d, some d ∈ places → d < k) :
    ∃ r, (∀ j, j < r → places[j]?.join = some (k - 1)) ∧ bump places[r]?.join < k ∧
      (advanceGaps k places).length = max places.length (r + 1) ∧
      ∀ j, (advanceGaps k places)[j]?.join =
        if j < r then some 0
        else if j = r then some (bump places[r]?.join) else places[j]?.join := by
  induction places with
  | nil =>
    refine ⟨0, fun j less => absurd less (Nat.not_lt_zero j), positive, rfl, fun j => ?_⟩
    cases j with
    | zero => rfl
    | succ j => rfl
  | cons place rest ih =>
    rw [advanceGaps]
    by_cases room : bump place < k
    · rw [if_pos room]
      refine ⟨0, fun j less => absurd less (Nat.not_lt_zero j), room, ?_, fun j => ?_⟩
      · rw [List.length_cons, List.length_cons]
        omega
      · cases j with
        | zero => rfl
        | succ j => rfl
    · rw [if_neg room]
      have full : place = some (k - 1) := by
        cases place with
        | none => exact absurd positive room
        | some d =>
          have here := valid d List.mem_cons_self
          rw [bump] at room
          congr 1
          omega
      obtain ⟨r, fulls, moves, length, entries⟩ :=
        ih fun d member => valid d (List.mem_cons_of_mem place member)
      refine ⟨r + 1, fun j less => ?_, moves, ?_, fun j => ?_⟩
      · cases j with
        | zero => rw [full]; rfl
        | succ j => exact fulls j (by omega)
      · rw [List.length_cons, List.length_cons, length]
        omega
      · cases j with
        | zero => rfl
        | succ j =>
          rw [List.getElem?_cons_succ, List.getElem?_cons_succ, List.getElem?_cons_succ, entries j]
          simp only [Nat.add_lt_add_iff_right, Nat.add_right_cancel_iff]

/-- An advance over digits leaves digits. -/
theorem advanceGaps_valid {k : Nat} (positive : 0 < k) {places : List (Option Nat)}
    (valid : ∀ d, some d ∈ places → d < k) : ∀ d, some d ∈ advanceGaps k places → d < k := by
  induction places with
  | nil =>
    intro d member
    cases List.mem_singleton.mp member
    exact positive
  | cons place rest ih =>
    have later : ∀ d, some d ∈ rest → d < k :=
      fun d member => valid d (List.mem_cons_of_mem place member)
    intro d member
    rw [advanceGaps] at member
    split at member
    next room =>
      rcases List.mem_cons.mp member with same | inside
      · cases same
        exact room
      · exact later d inside
    next =>
      rcases List.mem_cons.mp member with same | inside
      · cases same
        exact positive
      · exact ih later d inside

end PnC.Library
