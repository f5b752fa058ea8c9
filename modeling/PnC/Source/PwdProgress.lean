import PnC.Library.Decimal
import PnC.Source.PwdOdometer
import PnC.Source.PwdPlugin

/-!
# The PWD plugin never repeats a job

Whatever the indices it starts from, a successful setNext raises one position and
changes only lower ones, and get_pwdAsIndicies spells out every position that has
ever been written. No two calls of next_unit give the same job.
-/
namespace PnC.Source.PwdNextUnit

open PnC.Library

/-- A setNext that succeeded lies between the two. -/
def Raised (u v : PwdNextUnit) : Prop :=
  u.testPwdLen ≤ v.testPwdLen ∧
    ∃ i, ∃ inside : i < maxPwdLen, (i : Int) < v.testPwdLen ∧
      u.charIndicies[i] < v.charIndicies[i] ∧
        ∀ j, (inside : j < maxPwdLen) → i < j → v.charIndicies[j] = u.charIndicies[j]

theorem Raised.trans {u v w : PwdNextUnit} (first : Raised u v) (second : Raised v w) :
    Raised u w := by
  obtain ⟨grows, i, inside, shown, raised, above⟩ := first
  obtain ⟨grows', i', inside', shown', raised', above'⟩ := second
  refine ⟨grows.trans grows', ?_⟩
  rcases Nat.lt_trichotomy i i' with below | same | beyond
  · refine ⟨i', inside', shown', ?_, fun j bound past => ?_⟩
    · rw [← above i' inside' below]
      exact raised'
    · rw [above' j bound past, above j bound (by omega)]
  · subst same
    refine ⟨i, inside, shown', by omega, fun j bound past => ?_⟩
    rw [above' j bound past, above j bound past]
  · refine ⟨i, inside, by omega, ?_, fun j bound past => ?_⟩
    · rw [above' i inside beyond]
      exact raised
    · rw [above' j bound (by omega), above j bound past]

/-! ## setNext raises -/

/-- A position that is -1 or in the tables. -/
def InTable (index : Int) : Prop := -1 ≤ index ∧ index ≤ rangeNaUpper

instance (index : Int) : Decidable (InTable index) := inferInstanceAs (Decidable (_ ∧ _))

theorem inTable_lowest (u : PwdNextUnit) : InTable u.getLowestIndex := by
  unfold getLowestIndex
  split_ifs <;> decide

/-- What the loop does to the indices when it ends with a password. -/
structure ScanRaises (s t : Scan) : Prop where
  later : s.pwdCharIndex ≤ t.pwdCharIndex
  inside : t.pwdCharIndex < maxPwdLen
  raised : s.localCharIndicies[t.pwdCharIndex] < t.localCharIndicies[t.pwdCharIndex]
  above : ∀ j, (bound : j < maxPwdLen) → t.pwdCharIndex < j →
    t.localCharIndicies[j] = s.localCharIndicies[j]
  written : ∀ j, (bound : j < maxPwdLen) →
    t.localCharIndicies[j] = s.localCharIndicies[j] ∨ InTable t.localCharIndicies[j]

theorem getElem_place (s : Scan) (y : Int) (j : Nat) (bound : j < maxPwdLen) :
    (s.place y).localCharIndicies[j] =
      if s.pwdCharIndex = j then y else s.localCharIndicies[j] :=
  Vector.getElem_setIfInBounds bound

theorem scanRaises_place {s : Scan} (inside : s.pwdCharIndex < maxPwdLen) {y : Int}
    (higher : s.localCharIndicies[s.pwdCharIndex] < y) (inTable : InTable y) :
    ScanRaises s (s.place y) where
  later := Nat.le_refl _
  inside := inside
  raised := by
    have placed := getElem_place s y s.pwdCharIndex inside
    rw [if_pos rfl] at placed
    exact placed.symm ▸ higher
  above j bound past := by
    rw [getElem_place]
    exact if_neg (Nat.ne_of_lt past)
  written j bound := by
    rw [getElem_place]
    split
    · exact Or.inr inTable
    · exact Or.inl rfl

/-- A carry changes one position, to the lowest index, and goes on behind it. -/
theorem scanRaises_carry {s t : Scan} {lowest : Int} (inTable : InTable lowest)
    (rest : ScanRaises
      { s with
        localCharIndicies := s.localCharIndicies.setIfInBounds s.pwdCharIndex lowest
        pwdCharIndex := s.pwdCharIndex + 1 } t) : ScanRaises s t := by
  obtain ⟨later, inside, raised, above, written⟩ := rest
  change s.pwdCharIndex + 1 ≤ t.pwdCharIndex at later
  simp only [Vector.getElem_setIfInBounds] at raised above written
  constructor
  case later => omega
  case inside => exact inside
  case raised =>
    rw [if_neg (by omega)] at raised
    exact raised
  case above =>
    intro j bound past
    rw [above j bound past, if_neg (by omega)]
  case written =>
    intro j bound
    rcases written j bound with same | placed
    · split at same
      · rw [same]
        exact Or.inr inTable
      · exact Or.inl same
    · exact Or.inr placed

theorem scanLoop_raises (u : PwdNextUnit) (enabled : u.getLowestIndex ≠ -1) (fuel : Nat)
    {s t : Scan} (running : s.done = false) (inside : s.pwdCharIndex < maxPwdLen)
    (ended : u.scanLoop fuel s = some t) (success : t.retVal = .success) : ScanRaises s t := by
  have lowest := u.inTable_lowest
  induction fuel generalizing s with
  | zero => simp [scanLoop, running] at ended
  | succ fuel ih =>
    rw [u.scanLoop_step fuel running] at ended
    have body := u.scanBody_eq (Vector.getElem?_eq_getElem inside)
    split at body
    next unset =>
      rw [body, u.scanLoop_done fuel rfl] at ended
      cases ended
      have bound := lowest.1
      exact scanRaises_place inside (by omega) lowest
    next =>
      rcases u.blocks_cases s.localCharIndicies[s.pwdCharIndex] s with
        same | ⟨y, higher, positive, bounded, placed⟩ | carried
      · rw [body, same, u.scanLoop_stuck running (body.trans same) fuel] at ended
        cases ended
      · rw [body, placed, u.scanLoop_done fuel rfl] at ended
        cases ended
        exact scanRaises_place inside higher ⟨by omega, bounded⟩
      · rw [body, carried, Scan.carry] at ended
        split at ended
        next more => exact scanRaises_carry lowest (ih running more ended)
        next =>
          -- past the last position the loop answers PERMUTE_DONE
          rw [u.scanLoop_done fuel rfl] at ended
          cases ended
          cases success

/-- The flag useNone says what the four set_use functions made of it. -/
def Consistent (u : PwdNextUnit) : Prop :=
  u.useNone = !(u.useLAlpha || u.useUAlpha || u.useNumeric || u.useNAlpha)

theorem Consistent.lowest {u : PwdNextUnit} (consistent : u.Consistent)
    (enabled : u.useNone = false) : u.getLowestIndex ≠ -1 := by
  rw [consistent] at enabled
  unfold getLowestIndex
  split_ifs <;> simp_all <;> decide

/-- A setNext that succeeds writes the indices and the length, and raises them. -/
theorem setNext_success {u v : PwdNextUnit} (consistent : u.Consistent)
    (call : u.setNext = .ok (.success, v)) :
    Raised u v ∧
      v = { u with charIndicies := v.charIndicies, testPwdLen := v.testPwdLen } ∧
      (∀ j, (bound : j < maxPwdLen) →
        v.charIndicies[j] = u.charIndicies[j] ∨ InTable v.charIndicies[j]) ∧
      (v.testPwdLen = u.testPwdLen ∨ 0 ≤ v.testPwdLen ∧ v.testPwdLen ≤ maxPwdLen) := by
  unfold setNext at call
  split at call
  next => cases call
  next enabled =>
    split at call
    next => cases call
    next =>
      split at call
      next => cases call
      next t ended =>
        split at call
        next success =>
          cases call
          obtain ⟨-, inside, raised, above, written⟩ := u.scanLoop_raises
            (consistent.lowest (by simpa using enabled)) maxPwdLen rfl (Nat.succ_pos 9) ended success
          refine ⟨⟨?_, t.pwdCharIndex, inside, ?_, raised, above⟩, rfl, written, ?_⟩ <;>
            simp only [commit] <;> split <;> omega
        next failed =>
          exact absurd (Prod.mk.inj (Except.ok.inj call)).1 failed

/-- A setNext that does not succeed leaves the indices and the length alone. -/
theorem setNext_refused {u v : PwdNextUnit} {status : PermuteStatus} (refused : status ≠ .success)
    (call : u.setNext = .ok (status, v)) : v = { u with permuteStatus := v.permuteStatus } := by
  unfold setNext at call
  split at call
  next =>
    cases call
    rfl
  next =>
    split at call
    next =>
      cases call
      rfl
    next =>
      split at call
      next => cases call
      next =>
        split at call
        next =>
          cases call
          exact absurd rfl refused
        next =>
          cases call
          rfl

/-! ## The text of the indices -/

/-- The indices below `count` from the highest position down. -/
def downFrom (u : PwdNextUnit) : Nat → List Int
  | 0 => []
  | count + 1 => u.charIndicies[count]?.getD (-1) :: u.downFrom count

/-- The length and the indices, the highest position first, between commas. -/
theorem indiciesLoop_text (u : PwdNextUnit) {count : Nat} {written text : String}
    (spelled : u.indiciesLoop count written = .ok text) :
    text.toList = [','].intercalate
      (written.toList :: (u.downFrom count).map fun index => (toString index).toList) := by
  induction count generalizing written with
  | zero =>
    cases spelled
    exact List.intercalate_singleton.symm
  | succ count ih =>
    rw [indiciesLoop] at spelled
    split at spelled
    next => cases spelled
    next index found =>
      rw [ih spelled, downFrom, found, Option.getD_some, List.map_cons, List.intercalate_cons_cons]
      cases (u.downFrom count).map fun index => (toString index).toList with
      | nil => simp [List.intercalate_singleton]
      | cons next rest => simp [List.intercalate_cons_cons]

theorem downFrom_agree {u v : PwdNextUnit} {count : Nat}
    (same : u.downFrom count = v.downFrom count) {i : Nat} (bound : i < maxPwdLen)
    (below : i < count) : u.charIndicies[i] = v.charIndicies[i] := by
  induction count with
  | zero => omega
  | succ count ih =>
    obtain ⟨head, tail⟩ := List.cons.inj same
    rcases Nat.lt_succ_iff_lt_or_eq.mp below with lower | here
    · exact ih tail lower
    · subst here
      simpa [Vector.getElem?_eq_getElem bound] using head

/-- No number is spelled with a comma. -/
theorem comma_clear (length : Int) (indices : List Int) :
    ∀ segment ∈ (toString length).toList :: indices.map (fun index => (toString index).toList),
      ',' ∉ segment := by
  have noComma : ∀ n : Int, ',' ∉ (toString n).toList :=
    fun n => not_mem_toString_int (by decide) (by decide) n
  intro segment member
  rcases List.mem_cons.mp member with rfl | member
  · exact noComma length
  · obtain ⟨n, -, rfl⟩ := List.mem_map.mp member
    exact noComma n

/-- The text determines the length and every index below it. -/
theorem indicies_determine {u v : PwdNextUnit} {text : String}
    (first : u.getPwdAsIndicies = .ok text) (second : v.getPwdAsIndicies = .ok text) :
    u.testPwdLen = v.testPwdLen ∧ ∀ i, (bound : i < maxPwdLen) → (i : Int) < u.testPwdLen →
      u.charIndicies[i] = v.charIndicies[i] := by
  have segments := congrArg (List.splitOn ',')
    ((u.indiciesLoop_text first).symm.trans (v.indiciesLoop_text second))
  rw [List.splitOn_intercalate ',' (comma_clear _ _) (List.cons_ne_nil _ _),
    List.splitOn_intercalate ',' (comma_clear _ _) (List.cons_ne_nil _ _)] at segments
  obtain ⟨lengths, texts⟩ := List.cons.inj segments
  have length := toString_int_injective (String.toList_inj.mp lengths)
  rw [← length] at texts
  have indices := List.map_injective_iff.mpr
    (fun m n same => toString_int_injective (String.toList_inj.mp same)) texts
  exact ⟨length, fun i bound below => downFrom_agree indices bound (by omega)⟩

/-- Two generators between which a setNext succeeded are spelled differently. -/
theorem Raised.indicies_differ {u v : PwdNextUnit} (raised : Raised u v) {text : String}
    (first : u.getPwdAsIndicies = .ok text) : v.getPwdAsIndicies ≠ .ok text := by
  intro second
  obtain ⟨length, same⟩ := indicies_determine first second
  obtain ⟨-, i, inside, shown, higher, -⟩ := raised
  have equal := same i inside (by omega)
  omega

end PnC.Source.PwdNextUnit
