import PnC.Source.PwdText

/-!
# One call of setNext, from any indices

The scan passes the positions that show the last enabled index and stops at the first one
that does not. It ends there with a password if the position is unset or shows an enabled
index, and never ends if it shows anything else.
-/
namespace PnC.Source.PwdNextUnit

open PnC.Library

/-! ## The indices that the classes recognise -/

theorem mem_classRange {use : Bool} {lower upper x : Int} {count : Nat}
    (size : upper = lower + count - 1) :
    (x ∈ if use then classRange lower count else []) ↔ use = true ∧ lower ≤ x ∧ x ≤ upper := by
  cases use with
  | false => simp
  | true =>
    rw [if_pos rfl, classRange, List.mem_map]
    constructor
    · rintro ⟨i, member, rfl⟩
      have bound := List.mem_range.mp member
      exact ⟨rfl, by omega, by omega⟩
    · rintro ⟨-, low, high⟩
      exact ⟨(x - lower).toNat, List.mem_range.mpr (by omega), by omega⟩

theorem mem_indexAlphabet {la ua num na : Bool} {x : Int} :
    x ∈ indexAlphabet la ua num na ↔
      ((la = true ∧ rangeLaLower ≤ x ∧ x ≤ rangeLaUpper) ∨
        (ua = true ∧ rangeUaLower ≤ x ∧ x ≤ rangeUaUpper)) ∨
      (num = true ∧ rangeNumLower ≤ x ∧ x ≤ rangeNumUpper) ∨
      (na = true ∧ rangeNaLower ≤ x ∧ x ≤ rangeNaUpper) := by
  rw [indexAlphabet, List.mem_append, List.mem_append, List.mem_append,
    mem_classRange (show rangeLaUpper = rangeLaLower + laCount - 1 from rfl),
    mem_classRange (show rangeUaUpper = rangeUaLower + uaCount - 1 from rfl),
    mem_classRange (show rangeNumUpper = rangeNumLower + numCount - 1 from rfl),
    mem_classRange (show rangeNaUpper = rangeNaLower + naCount - 1 from rfl),
    or_assoc]

/-- A class block passes an index that it does not recognise. -/
theorem classBlock_foreign {use : Bool} {lower upper lowest x : Int} {jump : Option Int}
    (s : Scan) (order : lower ≤ upper) (foreign : ¬ (use = true ∧ lower ≤ x ∧ x ≤ upper)) :
    classBlock use lower upper jump lowest x s = s := by
  cases used : use with
  | false => exact classBlock_unused rfl
  | true => exact classBlock_outside lower (by rw [used] at foreign; simp at foreign; omega) order

theorem blocks_foreign (u : PwdNextUnit) {x : Int} (s : Scan) (foreign : x ∉ u.indices) :
    u.blocks x s = s := by
  rw [indices, mem_indexAlphabet, not_or, not_or, not_or] at foreign
  obtain ⟨⟨la, ua⟩, num, na⟩ := foreign
  simp only [blocks, lowerAlphaBlock, upperAlphaBlock, numericBlock, nonAlphaBlock]
  rw [classBlock_foreign s (by decide) la, classBlock_foreign s (by decide) ua,
    classBlock_foreign s (by decide) num, classBlock_foreign s (by decide) na]

/-- A position that setNext can count on from. -/
def Good (u : PwdNextUnit) (x : Int) : Prop := x = -1 ∨ x ∈ u.indices

/-- The last index of the last enabled class. -/
def Last (u : PwdNextUnit) (x : Int) : Prop :=
  IsLast u.useLAlpha u.useUAlpha u.useNumeric u.useNAlpha x

instance (u : PwdNextUnit) (x : Int) : Decidable (u.Good x) := inferInstanceAs (Decidable (_ ∨ _))

instance (u : PwdNextUnit) (x : Int) : Decidable (u.Last x) :=
  inferInstanceAs (Decidable (IsLast ..))

/-- Only indices of the tables have a next one. -/
theorem follows_nonneg {la ua num na : Bool} {x y : Int} (follows : Follows la ua num na x y) :
    0 ≤ x := by
  have order := ranges_ordered
  have start : 0 ≤ rangeLaLower := by decide
  rcases follows with ⟨-, low, -⟩ | ⟨-, here, -⟩ | ⟨-, low, -⟩ | ⟨-, here, -⟩ | ⟨-, low, -⟩ |
    ⟨-, here, -⟩ | ⟨-, low, -⟩ <;> omega

/-- What the scan writes to the position it ends at. -/
def Next (u : PwdNextUnit) (x y : Int) : Prop :=
  (x = -1 ∧ y = u.getLowestIndex) ∨ Follows u.useLAlpha u.useUAlpha u.useNumeric u.useNAlpha x y

/-- An enabled index has a next one unless it is the last. -/
theorem next_of_good {u : PwdNextUnit} {x : Int} (good : u.Good x) (notLast : ¬ u.Last x) :
    ∃ y, u.Next x y := by
  rcases good with unset | member
  · exact ⟨_, Or.inl ⟨unset, rfl⟩⟩
  · obtain ⟨d, valid, rfl⟩ := List.mem_iff_getElem.mp member
    by_cases room : d + 1 < u.indices.length
    · refine ⟨shown u.indices (some (d + 1)), Or.inr ?_⟩
      have follows := u.follows_of_lt room
      rwa [shown_of_lt valid] at follows
    · have last := u.isLast_of_full valid room
      rw [shown_of_lt valid] at last
      exact absurd last notLast

theorem follows_mem {la ua num na : Bool} {x y : Int} (follows : Follows la ua num na x y) :
    x < y ∧ y ∈ indexAlphabet la ua num na := by
  have order := ranges_ordered
  rw [mem_indexAlphabet]
  rcases follows with ⟨used, low, high, rfl⟩ | ⟨-, rfl, jump⟩ | ⟨used, low, high, rfl⟩ |
    ⟨-, rfl, jump⟩ | ⟨used, low, high, rfl⟩ | ⟨-, rfl, jump⟩ | ⟨used, low, high, rfl⟩
  · exact ⟨by omega, Or.inl (Or.inl ⟨used, by omega, by omega⟩)⟩
  · split_ifs at jump with ua num na <;> cases jump
    · exact ⟨by omega, Or.inl (Or.inr ⟨ua, by omega, by omega⟩)⟩
    · exact ⟨by omega, Or.inr (Or.inl ⟨num, by omega, by omega⟩)⟩
    · exact ⟨by omega, Or.inr (Or.inr ⟨na, by omega, by omega⟩)⟩
  · exact ⟨by omega, Or.inl (Or.inr ⟨used, by omega, by omega⟩)⟩
  · split_ifs at jump with num na <;> cases jump
    · exact ⟨by omega, Or.inr (Or.inl ⟨num, by omega, by omega⟩)⟩
    · exact ⟨by omega, Or.inr (Or.inr ⟨na, by omega, by omega⟩)⟩
  · exact ⟨by omega, Or.inr (Or.inl ⟨used, by omega, by omega⟩)⟩
  · split_ifs at jump with na
    cases jump
    exact ⟨by omega, Or.inr (Or.inr ⟨na, by omega, by omega⟩)⟩
  · exact ⟨by omega, Or.inr (Or.inr ⟨used, by omega, by omega⟩)⟩

theorem good_lowest (u : PwdNextUnit) : u.Good u.getLowestIndex := by
  rw [Good, indices, mem_indexAlphabet]
  unfold getLowestIndex
  have order := ranges_ordered
  split_ifs with la ua num na
  · exact Or.inr (Or.inl (Or.inl ⟨la, by omega, by omega⟩))
  · exact Or.inr (Or.inl (Or.inr ⟨ua, by omega, by omega⟩))
  · exact Or.inr (Or.inr (Or.inl ⟨num, by omega, by omega⟩))
  · exact Or.inr (Or.inr (Or.inr ⟨na, by omega, by omega⟩))
  · exact Or.inl rfl

/-- What it writes can be counted on. -/
theorem next_good {u : PwdNextUnit} {x y : Int} (next : u.Next x y) : u.Good y := by
  rcases next with ⟨-, rfl⟩ | follows
  · exact u.good_lowest
  · exact Or.inr (follows_mem follows).2

theorem last_mem {u : PwdNextUnit} {x : Int} (last : u.Last x) : x ∈ u.indices := by
  rw [indices, mem_indexAlphabet]
  rcases last with ⟨used, rfl, -⟩ | ⟨used, rfl, -⟩ | ⟨used, rfl, -⟩ | ⟨used, rfl⟩
  · exact Or.inl (Or.inl ⟨used, by decide, Int.le_refl _⟩)
  · exact Or.inl (Or.inr ⟨used, by decide, Int.le_refl _⟩)
  · exact Or.inr (Or.inl ⟨used, by decide, Int.le_refl _⟩)
  · exact Or.inr (Or.inr ⟨used, by decide, Int.le_refl _⟩)

/-! ## The loop -/

section Loop
variable (u : PwdNextUnit) {v : Vector Int maxPwdLen} {p : Nat} {y : Int}

theorem last_ne_unset {x : Int} (last : u.Last x) : x ≠ -1 := by
  have low := nonneg_of_mem_indexAlphabet (last_mem last)
  omega

/-- The scan goes on from a position that shows the last index. -/
theorem scanLoop_carry (fuel : Nat) (more : p + 1 < maxPwdLen) (last : u.Last v[p]) :
    u.scanLoop (fuel + 1) ⟨v, p, false, .success⟩ =
      u.scanLoop fuel ⟨v.setIfInBounds p u.getLowestIndex, p + 1, false, .success⟩ := by
  have here : (Scan.mk v p false .success).localCharIndicies[p]? = some v[p] :=
    Vector.getElem?_eq_getElem (Nat.lt_of_succ_lt more)
  rw [u.scanLoop_step fuel rfl, u.scanBody_eq here, if_neg (u.last_ne_unset last),
    u.blocks_carry rfl last, Scan.carry]
  dsimp only
  rw [if_pos more, Nat.add_sub_cancel]

/-- It resets the positions that it passes. -/
theorem scanLoop_lasts (fuel n : Nat) (inside : p + n < maxPwdLen)
    (lasts : ∀ j, (bound : j < maxPwdLen) → p ≤ j → j < p + n → u.Last v[j]) :
    ∃ w, u.scanLoop (fuel + n) ⟨v, p, false, .success⟩ =
        u.scanLoop fuel ⟨w, p + n, false, .success⟩ ∧
      ∀ j, (bound : j < maxPwdLen) →
        w[j] = if p ≤ j ∧ j < p + n then u.getLowestIndex else v[j] := by
  induction n generalizing v p with
  | zero =>
    refine ⟨v, rfl, fun j bound => ?_⟩
    rw [if_neg (by omega)]
  | succ n ih =>
    have carried := u.scanLoop_carry (fuel + n) (by omega) (lasts p (by omega) (Nat.le_refl p)
      (by omega))
    obtain ⟨w, loop, reset⟩ := ih (v := v.setIfInBounds p u.getLowestIndex) (p := p + 1) (by omega)
      (by
        intro j bound above below
        rw [Vector.getElem_setIfInBounds bound, if_neg (by omega)]
        exact lasts j bound (by omega) (by omega))
    refine ⟨w, ?_, fun j bound => ?_⟩
    · rw [← Nat.add_assoc, carried, loop, Nat.add_assoc, Nat.add_comm 1]
    · rw [reset j bound, Vector.getElem_setIfInBounds bound]
      by_cases here : p = j
      · rw [if_neg (by omega), if_pos here, if_pos (by omega)]
      · rw [if_neg here]
        by_cases passed : p + 1 ≤ j ∧ j < p + 1 + n
        · rw [if_pos passed, if_pos (by omega)]
        · rw [if_neg passed, if_neg (by omega)]

/-- It ends at a position that it can write to. -/
theorem scanLoop_next (fuel : Nat) (inside : p < maxPwdLen) (next : u.Next v[p] y) :
    u.scanLoop (fuel + 1) ⟨v, p, false, .success⟩ =
      some ⟨v.setIfInBounds p y, p, true, .success⟩ := by
  have here : (Scan.mk v p false .success).localCharIndicies[p]? = some v[p] :=
    Vector.getElem?_eq_getElem inside
  rw [u.scanLoop_step fuel rfl, u.scanBody_eq here]
  rcases next with ⟨unset, rfl⟩ | follows
  · rw [if_pos unset, u.scanLoop_done fuel rfl]
    rfl
  · have used : v[p] ≠ -1 := by
      intro unset
      have started := follows_nonneg follows
      omega
    rw [if_neg used, u.blocks_place rfl follows, u.scanLoop_done fuel rfl]
    rfl

/-- It never gets past a position that no class recognises. -/
theorem scanLoop_foreign (fuel : Nat) (inside : p < maxPwdLen) (foreign : ¬ u.Good v[p]) :
    u.scanLoop fuel ⟨v, p, false, .success⟩ = none := by
  have here : (Scan.mk v p false .success).localCharIndicies[p]? = some v[p] :=
    Vector.getElem?_eq_getElem inside
  obtain ⟨used, outside⟩ := not_or.mp foreign
  have stuck : u.scanBody ⟨v, p, false, .success⟩ = ⟨v, p, false, .success⟩ := by
    rw [u.scanBody_eq here, if_neg used, u.blocks_foreign _ outside]
  exact u.scanLoop_stuck rfl stuck fuel

/-- Past the highest position it gives up. -/
theorem scanLoop_ends (fuel : Nat) (inside : p < maxPwdLen) (top : p + 1 = maxPwdLen)
    (last : u.Last v[p]) :
    u.scanLoop (fuel + 1) ⟨v, p, false, .success⟩ = some ⟨v, p + 1, true, .done⟩ := by
  have here : (Scan.mk v p false .success).localCharIndicies[p]? = some v[p] :=
    Vector.getElem?_eq_getElem inside
  rw [u.scanLoop_step fuel rfl, u.scanBody_eq here, if_neg (u.last_ne_unset last),
    u.blocks_carry rfl last, Scan.carry]
  dsimp only
  rw [if_neg (by omega), u.scanLoop_done fuel rfl]

end Loop

/-! ## setNext -/

section SetNext
variable {u : PwdNextUnit} {r : Nat} {y : Int}

/-- Every position below `r` shows the last index. -/
def LastBelow (u : PwdNextUnit) (r : Nat) : Prop :=
  ∀ j, (bound : j < maxPwdLen) → j < r → u.Last u.charIndicies[j]

/-- Every position does, or there is a first one that does not. -/
theorem stops_or_lasts (u : PwdNextUnit) :
    (∃ r, ∃ inside : r < maxPwdLen, u.LastBelow r ∧ ¬ u.Last u.charIndicies[r]) ∨
      u.LastBelow maxPwdLen := by
  have upTo : ∀ n ≤ maxPwdLen,
      (∃ r, ∃ inside : r < maxPwdLen, u.LastBelow r ∧ ¬ u.Last u.charIndicies[r]) ∨
        u.LastBelow n := by
    intro n
    induction n with
    | zero => exact fun _ => Or.inr fun j _ below => absurd below (Nat.not_lt_zero j)
    | succ n ih =>
      intro bound
      rcases ih (Nat.le_of_succ_le bound) with found | lasts
      · exact Or.inl found
      · by_cases last : u.Last u.charIndicies[n]
        · refine Or.inr fun j inside below => ?_
          rcases Nat.lt_succ_iff_lt_or_eq.mp below with lower | rfl
          · exact lasts j inside lower
          · exact last
        · exact Or.inl ⟨n, bound, lasts, last⟩
  exact upTo maxPwdLen (Nat.le_refl _)

/-- What the loop of setNext does when it has reached position `r`. -/
theorem scanLoop_reaches (inside : r < maxPwdLen) (lasts : u.LastBelow r) :
    ∃ w fuel, u.scanLoop maxPwdLen ⟨u.charIndicies, 0, false, .success⟩ =
        u.scanLoop (fuel + 1) ⟨w, r, false, .success⟩ ∧
      ∀ j, (bound : j < maxPwdLen) →
        w[j] = if j < r then u.getLowestIndex else u.charIndicies[j] := by
  obtain ⟨w, loop, reset⟩ := u.scanLoop_lasts (v := u.charIndicies) (p := 0) (maxPwdLen - r) r
    (by omega) (fun j bound _ below => lasts j bound (by omega))
  have all : maxPwdLen - r + r = maxPwdLen := by omega
  have left : maxPwdLen - r = maxPwdLen - r - 1 + 1 := by omega
  rw [all, Nat.zero_add] at loop
  refine ⟨w, maxPwdLen - r - 1, left ▸ loop, fun j bound => ?_⟩
  rw [reset j bound, Nat.zero_add]
  simp only [Nat.zero_le, true_and]

/-- A call that ends at position `r` writes there and resets what is below. -/
theorem setNext_next (enabled : u.useNone = false) (running : u.permuteStatus = false)
    (inside : r < maxPwdLen) (lasts : u.LastBelow r) (next : u.Next u.charIndicies[r] y) :
    ∃ w : Vector Int maxPwdLen,
      u.setNext = .ok (.success,
        { u with
          charIndicies := w
          testPwdLen := if (r : Int) + 1 > u.testPwdLen then r + 1 else u.testPwdLen }) ∧
      ∀ j, (bound : j < maxPwdLen) → w[j] =
        if j < r then u.getLowestIndex else if j = r then y else u.charIndicies[j] := by
  obtain ⟨w, fuel, loop, reset⟩ := scanLoop_reaches inside lasts
  have here := reset r inside
  rw [if_neg (Nat.lt_irrefl r)] at here
  rw [← here] at next
  rw [u.scanLoop_next fuel inside next] at loop
  refine ⟨w.setIfInBounds r y, ?_, fun j bound => ?_⟩
  · simp [setNext, enabled, running, loop, commit]
  · rw [Vector.getElem_setIfInBounds bound, reset j bound]
    split_ifs <;> first | rfl | omega

/-- A call that comes to a position that no class recognises does not return. -/
theorem setNext_foreign (enabled : u.useNone = false) (running : u.permuteStatus = false)
    (inside : r < maxPwdLen) (lasts : u.LastBelow r) (foreign : ¬ u.Good u.charIndicies[r]) :
    u.setNext = .error .diverges := by
  obtain ⟨w, fuel, loop, reset⟩ := scanLoop_reaches inside lasts
  have here := reset r inside
  rw [if_neg (Nat.lt_irrefl r)] at here
  rw [← here] at foreign
  rw [u.scanLoop_foreign (fuel + 1) inside foreign] at loop
  simp [setNext, enabled, running, loop]

/-- A call that finds the last index everywhere runs out. -/
theorem setNext_lasts (enabled : u.useNone = false) (running : u.permuteStatus = false)
    (lasts : u.LastBelow maxPwdLen) :
    u.setNext = .ok (.done, { u with permuteStatus := true }) := by
  have inside : 9 < maxPwdLen := by decide
  obtain ⟨w, fuel, loop, reset⟩ := scanLoop_reaches inside
    (fun j bound _ => lasts j bound bound)
  have here := reset 9 inside
  have last := lasts 9 inside inside
  rw [if_neg (Nat.lt_irrefl 9)] at here
  rw [← here] at last
  rw [u.scanLoop_ends fuel inside rfl last] at loop
  simp [setNext, enabled, running, loop]

end SetNext

end PnC.Source.PwdNextUnit
