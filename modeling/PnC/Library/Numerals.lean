import Mathlib.Algebra.Group.Nat.Defs
import Mathlib.Data.List.TakeWhile

/-!
# Decimal numerals in bytes

The value of decimal digits, most significant first, and the number that a text begins
with: white space, a sign, and as many digits as there are.
-/
namespace PnC.Library

def isDigit (b : UInt8) : Bool := 48 ≤ b && b ≤ 57

def digitValue (b : UInt8) : Nat := b.toNat - 48

def decimalValue (digits : List UInt8) : Nat :=
  digits.foldl (fun value b => value * 10 + digitValue b) 0

/-- White space in the C locale. -/
def isSpace (b : UInt8) : Bool := b = 32 || (9 ≤ b && b ≤ 13)

def plusSign : UInt8 := 43

def minusSign : UInt8 := 45

/-- A sign that may be missing, and what follows. -/
def readSign : List UInt8 → List UInt8 × List UInt8
  | [] => ([], [])
  | b :: rest => if b = plusSign ∨ b = minusSign then ([b], rest) else ([], b :: rest)

def signed (sign : List UInt8) (value : Nat) : Int := if sign = [minusSign] then -value else value

/-- The number that the text begins with, if it begins with one. -/
def leadingNumber (text : List UInt8) : Option Int :=
  let (sign, unsigned) := readSign (text.dropWhile isSpace)
  let digits := unsigned.takeWhile isDigit
  if digits = [] then none else some (signed sign (decimalValue digits))

/-- One or more digits and nothing else. -/
structure Numeral (digits : List UInt8) : Prop where
  nonempty : digits ≠ []
  all : ∀ b ∈ digits, isDigit b = true

/-- The text begins with a numeral of the value, up to the last digit. -/
inductive BeginsWith (text : List UInt8) : Int → Prop
  | intro (space sign digits rest : List UInt8)
      (parts : text = space ++ (sign ++ (digits ++ rest)))
      (blank : ∀ b ∈ space, isSpace b = true)
      (sign_cases : sign = [] ∨ sign = [plusSign] ∨ sign = [minusSign])
      (number : Numeral digits)
      (ended : ∀ b, rest.head? = some b → isDigit b = false) :
      BeginsWith text (signed sign (decimalValue digits))

@[simp] theorem decimalValue_nil : decimalValue [] = 0 := rfl

theorem decimalValue_concat (digits : List UInt8) (b : UInt8) :
    decimalValue (digits ++ [b]) = decimalValue digits * 10 + digitValue b := by
  simp [decimalValue]

theorem decimalValue_le_append (front back : List UInt8) :
    decimalValue front ≤ decimalValue (front ++ back) := by
  induction back generalizing front with
  | nil => simp
  | cons b back ih =>
    have step := decimalValue_concat front b
    have more := ih (front ++ [b])
    rw [List.append_assoc, List.singleton_append] at more
    omega

theorem digitValue_le {b : UInt8} (digit : isDigit b = true) : digitValue b ≤ 9 := by
  simp only [isDigit, Bool.and_eq_true, decide_eq_true_eq, UInt8.le_iff_toNat_le] at digit
  have upper : b.toNat ≤ 57 := digit.2
  unfold digitValue
  omega

/-- What takeWhile takes ends where the test fails. -/
theorem takeWhile_front {α : Type} {p : α → Bool} {front rest : List α}
    (inside : ∀ a ∈ front, p a = true) (ended : ∀ a, rest.head? = some a → p a = false) :
    (front ++ rest).takeWhile p = front := by
  rw [List.takeWhile_append_of_pos inside]
  cases rest with
  | nil => simp
  | cons a rest => simp [ended a rfl]

theorem dropWhile_front {α : Type} {p : α → Bool} {front rest : List α}
    (inside : ∀ a ∈ front, p a = true) (ended : ∀ a, rest.head? = some a → p a = false) :
    (front ++ rest).dropWhile p = rest := by
  rw [List.dropWhile_append_of_pos inside]
  cases rest with
  | nil => rfl
  | cons a rest => simp [ended a rfl]

theorem head_takeWhile {α : Type} {p : α → Bool} {items : List α} {a : α}
    (next : (items.dropWhile p).head? = some a) : p a = false := by
  have stopped := List.head?_dropWhile_not p items
  rw [next] at stopped
  simpa using stopped

/-- The bytes with a meaning of their own are apart. -/
theorem isSpace_of_isDigit {b : UInt8} (digit : isDigit b = true) : isSpace b = false := by
  simp only [isDigit, Bool.and_eq_true, decide_eq_true_eq] at digit
  simp only [isSpace, Bool.or_eq_false_iff, Bool.and_eq_false_iff, decide_eq_false_iff_not]
  grind

theorem not_sign_of_isDigit {b : UInt8} (digit : isDigit b = true) :
    ¬ (b = plusSign ∨ b = minusSign) := by
  simp only [isDigit, Bool.and_eq_true, decide_eq_true_eq] at digit
  unfold plusSign minusSign
  grind

/-- The sign and the digits behind it are read off. -/
theorem readSign_append {sign digits rest : List UInt8}
    (sign_cases : sign = [] ∨ sign = [plusSign] ∨ sign = [minusSign]) (number : Numeral digits) :
    readSign (sign ++ (digits ++ rest)) = (sign, digits ++ rest) := by
  obtain rfl | rfl | rfl := sign_cases
  · cases digits with
    | nil => exact absurd rfl number.nonempty
    | cons b digits =>
      have apart := not_sign_of_isDigit (number.all b List.mem_cons_self)
      simp [readSign, apart]
  · rfl
  · rfl

theorem head_sign_digits {sign digits rest : List UInt8}
    (sign_cases : sign = [] ∨ sign = [plusSign] ∨ sign = [minusSign]) (number : Numeral digits)
    {b : UInt8} (first : (sign ++ (digits ++ rest)).head? = some b) : isSpace b = false := by
  obtain rfl | rfl | rfl := sign_cases
  · cases digits with
    | nil => exact absurd rfl number.nonempty
    | cons d digits =>
      cases first
      exact isSpace_of_isDigit (number.all _ List.mem_cons_self)
  · cases first
    decide
  · cases first
    decide

theorem readSign_split (text : List UInt8) :
    text = (readSign text).1 ++ (readSign text).2 ∧
      ((readSign text).1 = [] ∨ (readSign text).1 = [plusSign] ∨
        (readSign text).1 = [minusSign]) := by
  unfold readSign
  split
  next => simp
  next b rest =>
    split
    next sign =>
      obtain rfl | rfl := sign
      · simp
      · simp
    next => simp

theorem leadingNumber_sound {text : List UInt8} {value : Int}
    (read : leadingNumber text = some value) : BeginsWith text value := by
  unfold leadingNumber at read
  have split := readSign_split (text.dropWhile isSpace)
  generalize readSign (text.dropWhile isSpace) = signAndRest at split read
  obtain ⟨sign, unsigned⟩ := signAndRest
  obtain ⟨parts, sign_cases⟩ := split
  dsimp only at parts sign_cases read
  split at read
  next => cases read
  next nonempty =>
    cases read
    refine .intro (text.takeWhile isSpace) sign (unsigned.takeWhile isDigit)
      (unsigned.dropWhile isDigit) ?_ ?_ sign_cases ⟨nonempty, ?_⟩ ?_
    · rw [List.takeWhile_append_dropWhile, ← parts, List.takeWhile_append_dropWhile]
    · intro b member
      exact List.mem_takeWhile_imp member
    · intro b member
      exact List.mem_takeWhile_imp member
    · intro b next
      exact head_takeWhile next

theorem leadingNumber_complete {text : List UInt8} {value : Int} (begins : BeginsWith text value) :
    leadingNumber text = some value := by
  obtain ⟨space, sign, digits, rest, parts, blank, sign_cases, number, ended⟩ := begins
  have unspaced : text.dropWhile isSpace = sign ++ (digits ++ rest) := by
    rw [parts]
    exact dropWhile_front blank fun b first => head_sign_digits sign_cases number first
  have taken : (digits ++ rest).takeWhile isDigit = digits := takeWhile_front number.all ended
  unfold leadingNumber
  rw [unspaced, readSign_append sign_cases number]
  dsimp only
  rw [taken, if_neg number.nonempty]

theorem leadingNumber_eq_some_iff {text : List UInt8} {value : Int} :
    leadingNumber text = some value ↔ BeginsWith text value :=
  ⟨leadingNumber_sound, leadingNumber_complete⟩

/-- A numeral begins with its own value. -/
theorem Numeral.begins {digits : List UInt8} (number : Numeral digits) :
    BeginsWith digits (decimalValue digits) :=
  .intro [] [] digits [] (by simp) (by simp) (.inl rfl) number (by simp)

end PnC.Library
