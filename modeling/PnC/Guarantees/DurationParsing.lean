import PnC.Source.UtilParsers

/-!
# Durations

A duration is decimal digits and perhaps a unit. parse_duration hands what is in front of
the unit to std::stoi, which also takes white space and a sign, stops at the first byte that
is no digit, and knows nothing of the multiplication that follows.
-/
namespace PnC.Guarantees.DurationParsing

open PnC.Library PnC.Source

inductive TimeUnit where
  | bare
  | seconds
  | minutes
  | hours

namespace TimeUnit

def suffix : TimeUnit → List UInt8
  | .bare => []
  | .seconds => [letterS]
  | .minutes => [letterM]
  | .hours => [letterH]

def factor : TimeUnit → Nat
  | .bare | .seconds => 1
  | .minutes => 60
  | .hours => 3600

/-- The unit that the last byte says. -/
def ofLast (last : UInt8) : TimeUnit :=
  if last = letterS then .seconds
  else if last = letterM then .minutes
  else if last = letterH then .hours
  else .bare

end TimeUnit

/-- The text is a duration of `n` seconds. -/
inductive Denotes : List UInt8 → Nat → Prop
  | empty : Denotes [] 0
  | number (digits : List UInt8) (all : Numeral digits) (unit : TimeUnit) :
      Denotes (digits ++ unit.suffix) (decimalValue digits * unit.factor)

/-- parse_duration returns the number of seconds that the text denotes if it denotes one
that fits in int, and throws otherwise. -/
def Exact (s : List UInt8) : Prop :=
  (∀ n : Nat, Denotes s n → FitsInt32 n → parseDuration s = some (.ok n)) ∧
  ((¬ ∃ n : Nat, Denotes s n ∧ FitsInt32 n) →
    ∃ failure, parseDuration s = some (.error failure))

/-- A number in the range of int that the part in front of the unit begins with is all of
that part, without white space or sign, and still in the range when multiplied. -/
def ReadWhole (s : List UInt8) : Prop :=
  ∀ last, s.getLast? = some last → ∀ value : Int,
    BeginsWith (numPart s last) value → FitsInt32 value →
      Numeral (numPart s last) ∧ FitsInt32 (value * (TimeUnit.ofLast last).factor)

theorem numPart_append (s : List UInt8) {last : UInt8} (ends : s.getLast? = some last) :
    s = numPart s last ++ (TimeUnit.ofLast last).suffix := by
  obtain ⟨front, rfl⟩ := List.getLast?_eq_some_iff.mp ends
  unfold numPart TimeUnit.ofLast
  by_cases second : last = letterS
  · simp [second, TimeUnit.suffix]
  by_cases minute : last = letterM
  · simp [minute, TimeUnit.suffix, letterM, letterS]
  by_cases hour : last = letterH
  · simp [hour, TimeUnit.suffix, letterH, letterM, letterS]
  · simp [second, minute, hour, TimeUnit.suffix]

theorem not_letter_of_isDigit {b : UInt8} (digit : isDigit b = true) :
    b ≠ letterS ∧ b ≠ letterM ∧ b ≠ letterH := by
  simp only [isDigit, Bool.and_eq_true, decide_eq_true_eq] at digit
  unfold letterS letterM letterH
  grind

/-- A duration is split where its unit begins. -/
theorem split_duration {digits : List UInt8} (all : Numeral digits) (unit : TimeUnit) :
    ∃ last, (digits ++ unit.suffix).getLast? = some last ∧
      numPart (digits ++ unit.suffix) last = digits ∧ TimeUnit.ofLast last = unit := by
  cases unit with
  | bare =>
    have ends := List.getLast?_eq_some_getLast all.nonempty
    have member := List.getLast_mem all.nonempty
    generalize digits.getLast all.nonempty = last at ends member
    obtain ⟨second, minute, hour⟩ := not_letter_of_isDigit (all.all last member)
    refine ⟨last, ?_, ?_, ?_⟩
    · simpa [TimeUnit.suffix] using ends
    · simp [numPart, TimeUnit.suffix, second, minute, hour]
    · simp [TimeUnit.ofLast, second, minute, hour]
  | seconds => exact ⟨letterS, by simp [TimeUnit.suffix], by simp [numPart, TimeUnit.suffix], rfl⟩
  | minutes => exact ⟨letterM, by simp [TimeUnit.suffix], by simp [numPart, TimeUnit.suffix], rfl⟩
  | hours => exact ⟨letterH, by simp [TimeUnit.suffix], by simp [numPart, TimeUnit.suffix], rfl⟩

/-- What stoi rejects is rejected. -/
theorem parseDuration_error {s : List UInt8} {last : UInt8} (ends : s.getLast? = some last)
    {failure : StoiFailure} (parsed : stoi (numPart s last) = .error failure) :
    parseDuration s = some (.error failure) := by
  unfold parseDuration
  rw [ends]
  dsimp only
  rw [parsed]

/-- What stoi reads is multiplied by the unit. -/
theorem parseDuration_ok {s : List UInt8} {last : UInt8} (ends : s.getLast? = some last)
    {value : Int} (parsed : stoi (numPart s last) = .ok value) :
    parseDuration s = (checkedInt (value * (TimeUnit.ofLast last).factor)).map .ok := by
  have fits := (stoi_ok_iff.mp parsed).2
  unfold parseDuration
  rw [ends]
  dsimp only
  rw [parsed]
  dsimp only
  unfold TimeUnit.ofLast
  by_cases second : last = letterS
  · simp [second, TimeUnit.factor, letterS, letterM, letterH, checkedInt_of_fits fits]
  by_cases minute : last = letterM
  · simp [minute, TimeUnit.factor, letterM, letterS]
  by_cases hour : last = letterH
  · simp [hour, TimeUnit.factor, letterH, letterM, letterS]
  · simp [second, minute, hour, TimeUnit.factor, checkedInt_of_fits fits]

/-- A duration that fits in int is returned. -/
theorem parseDuration_denoted {s : List UInt8} {n : Nat} (denotes : Denotes s n)
    (fits : FitsInt32 n) : parseDuration s = some (.ok n) := by
  cases denotes with
  | empty => rfl
  | number digits all unit =>
    obtain ⟨last, ends, part, same⟩ := split_duration all unit
    have least : decimalValue digits ≤ decimalValue digits * unit.factor := by
      apply Nat.le_mul_of_pos_right
      cases unit <;> simp [TimeUnit.factor]
    have small : FitsInt32 (decimalValue digits) := by
      unfold FitsInt32 at fits ⊢
      omega
    have parsed : stoi (numPart (digits ++ unit.suffix) last) = .ok (decimalValue digits) := by
      rw [part]
      exact stoi_ok_iff.mpr ⟨all.begins, small⟩
    have product : (decimalValue digits : Int) * unit.factor =
        ((decimalValue digits * unit.factor : Nat) : Int) := (Int.natCast_mul ..).symm
    rw [parseDuration_ok ends parsed, same, product, checkedInt_of_fits fits]
    rfl

/-- parse_duration is exact on a text exactly when stoi reads the whole of the number and the
product fits. -/
theorem exact_iff (s : List UInt8) : Exact s ↔ ReadWhole s := by
  constructor
  · intro exact last ends value begins fits
    have parsed : stoi (numPart s last) = .ok value := stoi_ok_iff.mpr ⟨begins, fits⟩
    have returned := parseDuration_ok ends parsed
    by_cases denoted : ∃ n : Nat, Denotes s n ∧ FitsInt32 n
    · obtain ⟨n, denotes, small⟩ := denoted
      have known := exact.1 n denotes small
      rw [returned] at known
      obtain ⟨product, checked, -⟩ := Option.map_eq_some_iff.mp known
      refine ⟨?_, (checkedInt_eq_some checked).1⟩
      cases denotes with
      | empty => cases ends
      | number digits all unit =>
        obtain ⟨last', ends', part, -⟩ := split_duration all unit
        cases ends.symm.trans ends'
        rw [part]
        exact all
    · obtain ⟨failure, threw⟩ := exact.2 denoted
      rw [returned] at threw
      obtain ⟨product, -, same⟩ := Option.map_eq_some_iff.mp threw
      cases same
  · intro whole
    refine ⟨fun n denotes fits => parseDuration_denoted denotes fits, fun nothing => ?_⟩
    cases ends : s.getLast? with
    | none =>
      rw [List.getLast?_eq_none_iff.mp ends] at nothing
      exact absurd ⟨0, .empty, by decide⟩ nothing
    | some last =>
      cases parsed : stoi (numPart s last) with
      | error failure => exact ⟨failure, parseDuration_error ends parsed⟩
      | ok value =>
        -- the digits and the unit make a duration
        obtain ⟨begins, fits⟩ := stoi_ok_iff.mp parsed
        obtain ⟨all, product⟩ := whole last ends value begins fits
        have value_eq : value = decimalValue (numPart s last) := by
          have own := leadingNumber_complete all.begins
          rw [leadingNumber_complete begins] at own
          exact Option.some.inj own
        apply absurd _ nothing
        refine ⟨decimalValue (numPart s last) * (TimeUnit.ofLast last).factor, ?_, ?_⟩
        · have denotes := Denotes.number _ all (TimeUnit.ofLast last)
          rw [← numPart_append s ends] at denotes
          exact denotes
        · rw [value_eq] at product
          rw [Int.natCast_mul]
          exact product

/-- `1h30m` is read as one minute. -/
theorem embedded_letter_is_ignored : ¬ ∀ s, Exact s := by
  intro claimed
  have whole := (exact_iff _).mp (claimed [49, letterH, 51, 48, letterM]) letterM rfl 1
    (leadingNumber_sound rfl) (by decide)
  have digit : isDigit letterH = true := whole.1.all letterH (by decide)
  exact absurd digit (by decide)

end PnC.Guarantees.DurationParsing
