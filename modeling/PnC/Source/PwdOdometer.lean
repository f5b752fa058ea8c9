import PnC.Library.Shortlex
import PnC.Source.PwdNextUnit

/-!
# setNext is an odometer

The enabled classes form one alphabet of table indices. A generator whose
charIndicies show the digits of an odometer over that alphabet is taken by
setNext to one that shows the advanced odometer, or answers PERMUTE_DONE when
the advanced odometer has more than ten positions (`setNext_advances`,
`setNext_exhausted`).
-/
namespace PnC.Source.PwdNextUnit

open PnC.Library

/-- The table indices of one class. -/
def classRange (lower : Int) (count : Nat) : List Int :=
  (List.range count).map fun i : Nat => lower + (i : Int)

def indexAlphabet (la ua num na : Bool) : List Int :=
  (if la then classRange rangeLaLower laCount else []) ++
  (if ua then classRange rangeUaLower uaCount else []) ++
  (if num then classRange rangeNumLower numCount else []) ++
  (if na then classRange rangeNaLower naCount else [])

/-- The characters behind the indices, class by class in array order. -/
def charAlphabet (la ua num na : Bool) : List Char :=
  (if la then lowerAlpha else []) ++ (if ua then upperAlpha else []) ++
  (if num then numeric else []) ++ (if na then nonAlpha else [])

def indices (u : PwdNextUnit) : List Int :=
  indexAlphabet u.useLAlpha u.useUAlpha u.useNumeric u.useNAlpha

def characters (u : PwdNextUnit) : List Char :=
  charAlphabet u.useLAlpha u.useUAlpha u.useNumeric u.useNAlpha

/-- The index shown for a digit; an unused position shows the sentinel. -/
def shown (A : List Int) (digit : Option Nat) : Int :=
  (digit.bind (A[·]?)).getD (-1)

/-! ## One class block -/

section ClassBlock
variable {use : Bool} {lower upper lowest look : Int} {jump : Option Int} {s : Scan}

theorem classBlock_unused (unused : use = false) :
    classBlock use lower upper jump lowest look s = s := by
  simp [classBlock, unused]

theorem classBlock_done (finished : s.done = true) :
    classBlock use lower upper jump lowest look s = s := by
  simp [classBlock, finished]

theorem classBlock_outside (lower : Int) (outside : look < lower ∨ upper < look)
    (order : lower ≤ upper) :
    classBlock use lower upper jump lowest look s = s := by
  unfold classBlock
  rw [if_neg (c := lower ≤ look ∧ look < upper) (by omega), if_neg (c := look = upper) (by omega)]
  simp

theorem classBlock_inside (used : use = true) (open_ : s.done = false) (above : lower ≤ look)
    (below : look < upper) :
    classBlock use lower upper jump lowest look s = s.place (look + 1) := by
  simp [classBlock, used, open_, above, below]

theorem classBlock_jump {next : Int} (used : use = true) (open_ : s.done = false)
    (last : look = upper) (target : jump = some next) :
    classBlock use lower upper jump lowest look s = s.place next := by
  simp [classBlock, used, open_, last, target]

theorem classBlock_carry (used : use = true) (open_ : s.done = false) (last : look = upper)
    (target : jump = none) :
    classBlock use lower upper jump lowest look s = s.carry lowest := by
  simp [classBlock, used, open_, last, target]

end ClassBlock

/-! ## The four blocks of the loop body -/

/-- The classes occupy consecutive ranges of indices. -/
theorem ranges_ordered : rangeLaLower ≤ rangeLaUpper ∧ rangeLaUpper < rangeUaLower ∧
    rangeUaLower ≤ rangeUaUpper ∧ rangeUaUpper < rangeNumLower ∧
    rangeNumLower ≤ rangeNumUpper ∧ rangeNumUpper < rangeNaLower ∧
    rangeNaLower ≤ rangeNaUpper := by decide

/-- The four class blocks in source order, for one looked-up index. -/
def blocks (u : PwdNextUnit) (look : Int) (s : Scan) : Scan :=
  u.nonAlphaBlock look (u.numericBlock look (u.upperAlphaBlock look (u.lowerAlphaBlock look s)))

theorem blocks_done (u : PwdNextUnit) (look : Int) {s : Scan} (finished : s.done = true) :
    u.blocks look s = s := by
  simp only [blocks, lowerAlphaBlock, upperAlphaBlock, numericBlock, nonAlphaBlock,
    classBlock_done finished]

/-- `y` is the index after `x`: one further in the same class, or the first of
the next enabled class. -/
def Follows (la ua num na : Bool) (x y : Int) : Prop :=
  (la = true ∧ rangeLaLower ≤ x ∧ x < rangeLaUpper ∧ y = x + 1) ∨
  (la = true ∧ x = rangeLaUpper ∧
    (if ua then some rangeUaLower else if num then some rangeNumLower
      else if na then some rangeNaLower else none) = some y) ∨
  (ua = true ∧ rangeUaLower ≤ x ∧ x < rangeUaUpper ∧ y = x + 1) ∨
  (ua = true ∧ x = rangeUaUpper ∧
    (if num then some rangeNumLower else if na then some rangeNaLower else none) = some y) ∨
  (num = true ∧ rangeNumLower ≤ x ∧ x < rangeNumUpper ∧ y = x + 1) ∨
  (num = true ∧ x = rangeNumUpper ∧ (if na then some rangeNaLower else none) = some y) ∨
  (na = true ∧ rangeNaLower ≤ x ∧ x < rangeNaUpper ∧ y = x + 1)

/-- `x` is the last index of the last enabled class. -/
def IsLast (la ua num na : Bool) (x : Int) : Prop :=
  (la = true ∧ x = rangeLaUpper ∧ ua = false ∧ num = false ∧ na = false) ∨
  (ua = true ∧ x = rangeUaUpper ∧ num = false ∧ na = false) ∨
  (num = true ∧ x = rangeNumUpper ∧ na = false) ∨
  (na = true ∧ x = rangeNaUpper)

instance (la ua num na : Bool) (x y : Int) : Decidable (Follows la ua num na x y) :=
  inferInstanceAs (Decidable (_ ∨ _))

instance (la ua num na : Bool) (x : Int) : Decidable (IsLast la ua num na x) :=
  inferInstanceAs (Decidable (_ ∨ _))

/-- Consecutive letters of the index alphabet follow each other. -/
theorem alphabet_follows : ∀ la ua num na : Bool, ∀ d < (indexAlphabet la ua num na).length - 1,
    Follows la ua num na (shown (indexAlphabet la ua num na) (some d))
      (shown (indexAlphabet la ua num na) (some (d + 1))) := by
  decide +kernel

theorem alphabet_last : ∀ la ua num na : Bool, indexAlphabet la ua num na ≠ [] →
    IsLast la ua num na (shown (indexAlphabet la ua num na)
      (some ((indexAlphabet la ua num na).length - 1))) := by
  decide +kernel

theorem alphabet_chars : ∀ la ua num na : Bool, ∀ d < (indexAlphabet la ua num na).length,
    plainChar (shown (indexAlphabet la ua num na) (some d)) = (charAlphabet la ua num na)[d]? := by
  decide +kernel

theorem length_charAlphabet : ∀ la ua num na : Bool,
    (charAlphabet la ua num na).length = (indexAlphabet la ua num na).length := by
  decide +kernel

theorem place_done (s : Scan) (value : Int) : (s.place value).done = true := rfl

/-- On an index with a successor the blocks place the successor: the block of the
index's own class acts, the ones before pass and the ones after see the scan done. -/
theorem blocks_place (u : PwdNextUnit) {s : Scan} {x y : Int} (running : s.done = false)
    (follows : Follows u.useLAlpha u.useUAlpha u.useNumeric u.useNAlpha x y) :
    u.blocks x s = s.place y := by
  have order := ranges_ordered
  simp only [blocks, lowerAlphaBlock, upperAlphaBlock, numericBlock, nonAlphaBlock]
  rcases follows with ⟨used, above, below, rfl⟩ | ⟨used, last, target⟩ |
    ⟨used, above, below, rfl⟩ | ⟨used, last, target⟩ | ⟨used, above, below, rfl⟩ |
    ⟨used, last, target⟩ | ⟨used, above, below, rfl⟩
  · rw [classBlock_inside used running above below]
    simp only [classBlock_done (place_done _ _)]
  · rw [classBlock_jump used running last target]
    simp only [classBlock_done (place_done _ _)]
  · rw [classBlock_outside rangeLaLower (by omega) (by decide),
      classBlock_inside used running above below]
    simp only [classBlock_done (place_done _ _)]
  · rw [classBlock_outside rangeLaLower (by omega) (by decide),
      classBlock_jump used running last target]
    simp only [classBlock_done (place_done _ _)]
  · rw [classBlock_outside rangeLaLower (by omega) (by decide),
      classBlock_outside rangeUaLower (by omega) (by decide),
      classBlock_inside used running above below]
    simp only [classBlock_done (place_done _ _)]
  · rw [classBlock_outside rangeLaLower (by omega) (by decide),
      classBlock_outside rangeUaLower (by omega) (by decide),
      classBlock_jump used running last target]
    simp only [classBlock_done (place_done _ _)]
  · rw [classBlock_outside rangeLaLower (by omega) (by decide),
      classBlock_outside rangeUaLower (by omega) (by decide),
      classBlock_outside rangeNumLower (by omega) (by decide),
      classBlock_inside used running above below]

/-- On the last index of the alphabet the blocks carry: the classes after it are
not enabled, so no later block acts on the position the carry moved to. -/
theorem blocks_carry (u : PwdNextUnit) {s : Scan} {x : Int} (running : s.done = false)
    (last : IsLast u.useLAlpha u.useUAlpha u.useNumeric u.useNAlpha x) :
    u.blocks x s = s.carry u.getLowestIndex := by
  have order := ranges_ordered
  simp only [blocks, lowerAlphaBlock, upperAlphaBlock, numericBlock, nonAlphaBlock]
  rcases last with ⟨used, here, ua, num, na⟩ | ⟨used, here, num, na⟩ | ⟨used, here, na⟩ |
    ⟨used, here⟩
  · rw [classBlock_carry used running here (by simp [ua, num, na]),
      classBlock_unused ua, classBlock_unused num, classBlock_unused na]
  · rw [classBlock_outside rangeLaLower (by omega) (by decide),
      classBlock_carry used running here (by simp [num, na]),
      classBlock_unused num, classBlock_unused na]
  · rw [classBlock_outside rangeLaLower (by omega) (by decide),
      classBlock_outside rangeUaLower (by omega) (by decide),
      classBlock_carry used running here (by simp [na]),
      classBlock_unused na]
  · rw [classBlock_outside rangeLaLower (by omega) (by decide),
      classBlock_outside rangeUaLower (by omega) (by decide),
      classBlock_outside rangeNumLower (by omega) (by decide),
      classBlock_carry used running here rfl]

/-- A class block passes, places a higher index or carries. -/
theorem classBlock_cases {use : Bool} {lower upper : Int} {jump : Option Int} {lowest look : Int}
    {s : Scan} (start : 0 ≤ lower) (order : lower ≤ upper) (inTable : upper ≤ rangeNaUpper)
    (later : ∀ next, jump = some next → upper < next ∧ next ≤ rangeNaUpper) :
    classBlock use lower upper jump lowest look s = s ∨
      (∃ y, look < y ∧ 0 ≤ y ∧ y ≤ rangeNaUpper ∧
        classBlock use lower upper jump lowest look s = s.place y) ∨
      classBlock use lower upper jump lowest look s = s.carry lowest := by
  unfold classBlock
  split
  · split
    next inside => exact Or.inr (Or.inl ⟨look + 1, by omega, by omega, by omega, rfl⟩)
    next =>
      split
      next last =>
        cases jump with
        | some next =>
          obtain ⟨above, bounded⟩ := later next rfl
          exact Or.inr (Or.inl ⟨next, by omega, by omega, bounded, rfl⟩)
        | none => exact Or.inr (Or.inr rfl)
      next => exact Or.inl rfl
  · exact Or.inl rfl

/-- The classes are disjoint, so at most one block acts on any index. -/
theorem blocks_cases (u : PwdNextUnit) (look : Int) (s : Scan) :
    u.blocks look s = s ∨
      (∃ y, look < y ∧ 0 ≤ y ∧ y ≤ rangeNaUpper ∧ u.blocks look s = s.place y) ∨
      u.blocks look s = s.carry u.getLowestIndex := by
  have order := ranges_ordered
  have start : 0 ≤ rangeLaLower := by decide
  simp only [blocks, lowerAlphaBlock, upperAlphaBlock, numericBlock, nonAlphaBlock]
  by_cases la : look ≤ rangeLaUpper
  · rw [classBlock_outside rangeUaLower (by omega) (by omega),
      classBlock_outside rangeNumLower (by omega) (by omega),
      classBlock_outside rangeNaLower (by omega) (by omega)]
    refine classBlock_cases (by omega) (by omega) (by omega) fun next target => ?_
    split_ifs at target <;> cases target <;> omega
  rw [classBlock_outside rangeLaLower (by omega) (by omega)]
  by_cases ua : look ≤ rangeUaUpper
  · rw [classBlock_outside rangeNumLower (by omega) (by omega),
      classBlock_outside rangeNaLower (by omega) (by omega)]
    refine classBlock_cases (by omega) (by omega) (by omega) fun next target => ?_
    split_ifs at target <;> cases target <;> omega
  rw [classBlock_outside rangeUaLower (by omega) (by omega)]
  by_cases num : look ≤ rangeNumUpper
  · rw [classBlock_outside rangeNaLower (by omega) (by omega)]
    refine classBlock_cases (by omega) (by omega) (by omega) fun next target => ?_
    split_ifs at target
    cases target
    omega
  rw [classBlock_outside rangeNumLower (by omega) (by omega)]
  exact classBlock_cases (by omega) (by omega) (by omega) nofun

/-! ## One iteration of the loop -/

/-- The ten positions show the digits of an odometer. -/
def Shows (A : List Int) (digits : List Nat) (v : Vector Int maxPwdLen) : Prop :=
  ∀ i, (inside : i < maxPwdLen) → v[i] = shown A digits[i]?

theorem nonneg_of_mem_classRange {use : Bool} {lower x : Int} {count : Nat} (start : 0 ≤ lower)
    (member : x ∈ if use then classRange lower count else []) : 0 ≤ x := by
  cases use with
  | false => simp at member
  | true =>
    obtain ⟨i, -, rfl⟩ := List.mem_map.mp member
    exact Int.add_nonneg start (Int.natCast_nonneg i)

theorem nonneg_of_mem_indexAlphabet {la ua num na : Bool} {x : Int}
    (member : x ∈ indexAlphabet la ua num na) : 0 ≤ x := by
  simp only [indexAlphabet, List.mem_append] at member
  rcases member with ((lower | upper) | digit) | other
  · exact nonneg_of_mem_classRange (by decide) lower
  · exact nonneg_of_mem_classRange (by decide) upper
  · exact nonneg_of_mem_classRange (by decide) digit
  · exact nonneg_of_mem_classRange (by decide) other

theorem shown_none (A : List Int) : shown A none = -1 := rfl

theorem shown_of_lt {A : List Int} {d : Nat} (valid : d < A.length) : shown A (some d) = A[d] := by
  simp [shown, valid]

theorem getLowestIndex_eq (u : PwdNextUnit) : u.getLowestIndex = shown u.indices (some 0) := by
  unfold getLowestIndex shown indices
  cases u.useLAlpha <;> cases u.useUAlpha <;> cases u.useNumeric <;> cases u.useNAlpha <;> rfl

theorem Shows.set {A : List Int} {lower rest : List Nat} {v : Vector Int maxPwdLen} {d e : Nat}
    (shows : Shows A (lower ++ d :: rest) v) :
    Shows A (lower ++ e :: rest) (v.setIfInBounds lower.length (shown A (some e))) := by
  intro i inside
  rw [Vector.getElem_setIfInBounds inside]
  by_cases here : lower.length = i
  · subst here
    simp
  · rw [if_neg here, shows i inside]
    rcases Nat.lt_or_ge i lower.length with before | after
    · simp [List.getElem?_append_left before]
    · obtain ⟨j, rfl⟩ : ∃ j, i = lower.length + 1 + j := ⟨i - lower.length - 1, by omega⟩
      rw [List.getElem?_append_right after, List.getElem?_append_right after]
      simp [show lower.length + 1 + j - lower.length = j + 1 by omega]

theorem Shows.push {A : List Int} {lower : List Nat} {v : Vector Int maxPwdLen} {e : Nat}
    (shows : Shows A lower v) :
    Shows A (lower ++ [e]) (v.setIfInBounds lower.length (shown A (some e))) := by
  intro i inside
  rw [Vector.getElem_setIfInBounds inside]
  by_cases here : lower.length = i
  · subst here
    simp
  · rw [if_neg here, shows i inside]
    rcases Nat.lt_or_ge i lower.length with before | after
    · rw [List.getElem?_append_left before]
    · obtain ⟨j, rfl⟩ : ∃ j, i = lower.length + 1 + j := ⟨i - lower.length - 1, by omega⟩
      rw [List.getElem?_append_right after, List.getElem?_eq_none (by omega)]
      simp [show lower.length + 1 + j - lower.length = j + 1 by omega]

section Body
variable (u : PwdNextUnit) {v : Vector Int maxPwdLen} {lower : List Nat}

/-- What the loop body does at the position after `lower`, with `found` there. -/
theorem scanBody_eq {s : Scan} {found : Int}
    (here : s.localCharIndicies[s.pwdCharIndex]? = some found) :
    u.scanBody s = if found = -1 then s.place u.getLowestIndex else u.blocks found s := by
  simp only [scanBody, here, Option.getD_some]
  split
  · exact u.blocks_done _ (place_done _ _)
  · rfl

theorem shows_getElem? {digits : List Nat} (shows : Shows u.indices digits v) {i : Nat}
    (inside : i < maxPwdLen) : v[i]? = some (shown u.indices digits[i]?) := by
  rw [Vector.getElem?_eq_getElem inside, shows i inside]

theorem shown_ne_sentinel {d : Nat} (valid : d < u.indices.length) :
    shown u.indices (some d) ≠ -1 := by
  rw [shown_of_lt valid]
  have nonneg := nonneg_of_mem_indexAlphabet (List.getElem_mem valid)
  unfold indices at *
  omega

theorem follows_of_lt {d : Nat} (room : d + 1 < u.indices.length) :
    Follows u.useLAlpha u.useUAlpha u.useNumeric u.useNAlpha
      (shown u.indices (some d)) (shown u.indices (some (d + 1))) :=
  alphabet_follows _ _ _ _ d (by unfold indices at room; omega)

theorem isLast_of_full {d : Nat} (valid : d < u.indices.length)
    (full : ¬ d + 1 < u.indices.length) :
    IsLast u.useLAlpha u.useUAlpha u.useNumeric u.useNAlpha (shown u.indices (some d)) := by
  have last := alphabet_last u.useLAlpha u.useUAlpha u.useNumeric u.useNAlpha
    (List.ne_nil_of_length_pos (Nat.zero_lt_of_lt valid))
  have index : u.indices.length - 1 = d := by omega
  exact index ▸ last

theorem scanBody_unset (shows : Shows u.indices lower v) (inside : lower.length < maxPwdLen) :
    u.scanBody ⟨v, lower.length, false, .success⟩ =
      ⟨v.setIfInBounds lower.length (shown u.indices (some 0)), lower.length, true, .success⟩ := by
  have here := shows_getElem? u shows inside
  rw [List.getElem?_eq_none (Nat.le_refl _)] at here
  rw [u.scanBody_eq here, shown_none, if_pos rfl, getLowestIndex_eq]
  rfl

theorem scanBody_step {d : Nat} {rest : List Nat} (shows : Shows u.indices (lower ++ d :: rest) v)
    (inside : lower.length < maxPwdLen) (room : d + 1 < u.indices.length) :
    u.scanBody ⟨v, lower.length, false, .success⟩ =
      ⟨v.setIfInBounds lower.length (shown u.indices (some (d + 1))), lower.length, true,
        .success⟩ := by
  have here := shows_getElem? u shows inside
  rw [List.getElem?_append_right (Nat.le_refl _), Nat.sub_self, List.getElem?_cons_zero] at here
  rw [u.scanBody_eq here, if_neg (u.shown_ne_sentinel (by omega)),
    u.blocks_place rfl (u.follows_of_lt room)]
  rfl

theorem scanBody_last {d : Nat} {rest : List Nat} (shows : Shows u.indices (lower ++ d :: rest) v)
    (inside : lower.length < maxPwdLen) (valid : d < u.indices.length)
    (full : ¬ d + 1 < u.indices.length) :
    u.scanBody ⟨v, lower.length, false, .success⟩ =
      Scan.carry ⟨v, lower.length, false, .success⟩ u.getLowestIndex := by
  have here := shows_getElem? u shows inside
  rw [List.getElem?_append_right (Nat.le_refl _), Nat.sub_self, List.getElem?_cons_zero] at here
  rw [u.scanBody_eq here, if_neg (u.shown_ne_sentinel valid),
    u.blocks_carry rfl (u.isLast_of_full valid full)]

end Body

/-! ## The whole loop -/

theorem scanLoop_done (u : PwdNextUnit) (fuel : Nat) {s : Scan} (finished : s.done = true) :
    u.scanLoop fuel s = some s := by
  cases fuel <;> rw [scanLoop, if_pos finished]

theorem scanLoop_step (u : PwdNextUnit) (fuel : Nat) {s : Scan} (running : s.done = false) :
    u.scanLoop (fuel + 1) s = u.scanLoop fuel (u.scanBody s) := by
  rw [scanLoop, if_neg (by simp [running])]

/-- An iteration ends the loop, moves to the next position or changes nothing. -/
theorem scanBody_cases (u : PwdNextUnit) {s : Scan} (inside : s.pwdCharIndex < maxPwdLen) :
    (u.scanBody s).done = true ∨
      ((u.scanBody s).pwdCharIndex = s.pwdCharIndex + 1 ∧ s.pwdCharIndex + 1 < maxPwdLen) ∨
      u.scanBody s = s := by
  rw [u.scanBody_eq (Vector.getElem?_eq_getElem inside)]
  split
  · exact Or.inl rfl
  · rcases u.blocks_cases s.localCharIndicies[s.pwdCharIndex] s with
      same | ⟨y, -, -, -, placed⟩ | carried
    · exact Or.inr (Or.inr same)
    · rw [placed]
      exact Or.inl rfl
    · rw [carried, Scan.carry]
      split
      next more => exact Or.inr (Or.inl ⟨rfl, more⟩)
      next => exact Or.inl rfl

theorem scanLoop_stuck (u : PwdNextUnit) {s : Scan} (running : s.done = false)
    (stuck : u.scanBody s = s) : ∀ fuel, u.scanLoop fuel s = none
  | 0 => by simp [scanLoop, running]
  | fuel + 1 => by rw [u.scanLoop_step fuel running, stuck, scanLoop_stuck u running stuck fuel]

/-- A loop that has not ended after one iteration per remaining position never
ends, however long it runs. -/
theorem scanLoop_diverges (u : PwdNextUnit) (fuel : Nat) {s : Scan} (running : s.done = false)
    (inside : s.pwdCharIndex < maxPwdLen) (enough : maxPwdLen ≤ s.pwdCharIndex + fuel)
    (unfinished : u.scanLoop fuel s = none) : ∀ more, u.scanLoop more s = none := by
  induction fuel generalizing s with
  | zero => omega
  | succ fuel ih =>
    rw [u.scanLoop_step fuel running] at unfinished
    intro more
    cases more with
    | zero => simp [scanLoop, running]
    | succ more =>
      rw [u.scanLoop_step more running]
      rcases u.scanBody_cases inside with finished | ⟨moved, next⟩ | stuck
      · rw [u.scanLoop_done fuel finished] at unfinished
        cases unfinished
      · cases finished : (u.scanBody s).done with
        | true =>
          rw [u.scanLoop_done fuel finished] at unfinished
          cases unfinished
        | false => exact ih finished (by omega) (by omega) unfinished more
      · rw [stuck]
        exact u.scanLoop_stuck running stuck more

/-- The scan started at the position after `lower` advances the digits from there
on; it gives up when the advanced odometer does not fit into ten positions. The
induction is on the digits still to be looked at: each carry moves one of them
to `lower`, reset to the first letter. -/
theorem scanLoop_advances (u : PwdNextUnit) (digits : List Nat) :
    ∀ (lower : List Nat) (v : Vector Int maxPwdLen) (fuel : Nat),
      Shows u.indices (lower ++ digits) v → Digits u.indices.length digits →
      lower.length < maxPwdLen → (lower ++ digits).length ≤ maxPwdLen →
      maxPwdLen ≤ lower.length + fuel →
      if (lower ++ advance u.indices.length digits).length ≤ maxPwdLen then
        ∃ w p, u.scanLoop fuel ⟨v, lower.length, false, .success⟩ =
            some ⟨w, p, true, .success⟩ ∧
          Shows u.indices (lower ++ advance u.indices.length digits) w ∧
          p + 1 ≤ (lower ++ advance u.indices.length digits).length ∧
          (lower ++ advance u.indices.length digits).length ≤
            max (p + 1) (lower ++ digits).length
      else
        ∃ w p, u.scanLoop fuel ⟨v, lower.length, false, .success⟩ = some ⟨w, p, true, .done⟩ := by
  induction digits with
  | nil =>
    intro lower v fuel shows _ inside _ enough
    rw [List.append_nil] at shows
    obtain ⟨fuel, rfl⟩ : ∃ n, fuel = n + 1 := ⟨fuel - 1, by omega⟩
    rw [if_pos (by simpa [advance] using inside)]
    refine ⟨_, lower.length, ?_, shows.push (e := 0), by simp [advance], by simp [advance]⟩
    rw [u.scanLoop_step fuel rfl, u.scanBody_unset shows inside, u.scanLoop_done fuel rfl]
  | cons d rest ih =>
    intro lower v fuel shows valid inside fits enough
    have here : d < u.indices.length := valid d List.mem_cons_self
    have tail : Digits u.indices.length rest :=
      fun e member => valid e (List.mem_cons_of_mem d member)
    obtain ⟨fuel, rfl⟩ : ∃ n, fuel = n + 1 := ⟨fuel - 1, by omega⟩
    rw [u.scanLoop_step fuel rfl, advance]
    by_cases room : d + 1 < u.indices.length
    · rw [if_pos room, if_pos (by simpa using fits)]
      refine ⟨_, lower.length, ?_, shows.set, by simp, by simp⟩
      rw [u.scanBody_step shows inside room, u.scanLoop_done fuel rfl]
    · rw [if_neg room, u.scanBody_last shows inside here room, getLowestIndex_eq]
      have regroup : ∀ more : List Nat, lower ++ 0 :: more = (lower ++ [0]) ++ more := by simp
      by_cases next : lower.length + 1 < maxPwdLen
      · have carried : Scan.carry ⟨v, lower.length, false, .success⟩ (shown u.indices (some 0)) =
            ⟨v.setIfInBounds lower.length (shown u.indices (some 0)), (lower ++ [0]).length, false,
              .success⟩ := by
          simp [Scan.carry, next]
        rw [carried, regroup]
        have later := ih (lower ++ [0]) _ fuel (regroup rest ▸ shows.set) tail (by simpa using next)
          (by simpa using fits) (by simp; omega)
        simpa using later
      · have empty : rest = [] := by
          simp only [List.length_append, List.length_cons] at fits
          exact List.eq_nil_of_length_eq_zero (by omega)
        subst empty
        rw [if_neg (by simp [advance]; omega)]
        refine ⟨v, lower.length + 1, ?_⟩
        have gaveUp : Scan.carry ⟨v, lower.length, false, .success⟩ (shown u.indices (some 0)) =
            ⟨v, lower.length + 1, true, .done⟩ := by
          simp [Scan.carry, next]
        rw [gaveUp, u.scanLoop_done fuel rfl]

/-- A generator in the middle of an enumeration: its indices show an odometer of
the current length, and it has not run out. -/
structure Holds (u : PwdNextUnit) (digits : List Nat) : Prop where
  enabled : u.useNone = false
  running : u.permuteStatus = false
  valid : Digits u.indices.length digits
  fits : digits.length ≤ maxPwdLen
  shows : Shows u.indices digits u.charIndicies
  length : u.testPwdLen = digits.length

theorem setNext_advances {u : PwdNextUnit} {digits : List Nat} (holds : u.Holds digits)
    (nonempty : 0 < u.indices.length)
    (room : (advance u.indices.length digits).length ≤ maxPwdLen) :
    ∃ v, u.setNext = .ok (.success, v) ∧ v.Holds (advance u.indices.length digits) ∧
      v.indices = u.indices ∧ v.characters = u.characters := by
  have scan := scanLoop_advances u digits [] u.charIndicies maxPwdLen holds.shows holds.valid
    (by decide) holds.fits (by simp)
  simp only [List.nil_append, List.length_nil, if_pos room] at scan
  obtain ⟨w, p, result, shows, low, high⟩ := scan
  refine ⟨u.commit ⟨w, p, true, .success⟩, ?_, ?_, rfl, rfl⟩
  · simp [setNext, holds.enabled, holds.running, result]
  · refine ⟨holds.enabled, holds.running, digits_advance nonempty holds.valid, room, shows, ?_⟩
    have before := holds.length
    have grows := length_le_advance u.indices.length digits
    simp only [commit]
    split <;> omega

theorem setNext_exhausted {u : PwdNextUnit} {digits : List Nat} (holds : u.Holds digits)
    (beyond : maxPwdLen < (advance u.indices.length digits).length) :
    u.setNext = .ok (.done, { u with permuteStatus := true }) := by
  have scan := scanLoop_advances u digits [] u.charIndicies maxPwdLen holds.shows holds.valid
    (by decide) holds.fits (by simp)
  simp only [List.nil_append, List.length_nil, if_neg (Nat.not_le.mpr beyond)] at scan
  obtain ⟨w, p, result⟩ := scan
  simp [setNext, holds.enabled, holds.running, result]

theorem setNext_after_done {u : PwdNextUnit} (enabled : u.useNone = false)
    (finished : u.permuteStatus = true) : u.setNext = .ok (.done, u) := by
  simp [setNext, enabled, finished]

/-- The plain password of a generator in the middle of an enumeration is the word
its odometer spells over the characters. -/
theorem getPlainPassword_spells {u : PwdNextUnit} {digits : List Nat} (holds : u.Holds digits) :
    u.getPlainPassword = .ok (some (String.ofList (spell u.characters digits))) := by
  have loop : ∀ count written, count ≤ digits.length →
      u.plainLoop count written = .ok (some (written ++ spell u.characters (digits.take count))) := by
    intro count
    induction count with
    | zero =>
      intro written _
      simp [plainLoop, spell]
    | succ count ih =>
      intro written bound
      have fits := holds.fits
      have digit : digits[count]? = some digits[count] := List.getElem?_eq_getElem bound
      have valid : digits[count] < u.indices.length := holds.valid _ (List.getElem_mem bound)
      have found := shows_getElem? u holds.shows (i := count) (by omega)
      have letter : plainChar (shown u.indices (some digits[count])) = u.characters[digits[count]]? :=
        alphabet_chars _ _ _ _ _ valid
      have covered : digits[count] < u.characters.length := by
        rw [characters, length_charAlphabet]
        exact valid
      rw [List.getElem?_eq_getElem covered] at letter
      rw [digit] at found
      simp only [plainLoop, found, letter]
      rw [ih _ (by omega), List.take_add_one, digit, Option.toList_some,
        spell_append _ _ _ _ (List.getElem?_eq_getElem covered), List.append_assoc,
        List.singleton_append]
  have length := holds.length
  have all := loop digits.length [] (Nat.le_refl _)
  rw [List.take_length, List.nil_append] at all
  rw [getPlainPassword, length, Int.toNat_natCast, all]
  simp

end PnC.Source.PwdNextUnit
