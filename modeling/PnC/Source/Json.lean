import Mathlib.Algebra.Group.Int.Defs
import Mathlib.Algebra.Group.Nat.Defs

/-!
# JSON values and the typed reads of nlohmann::json

The library is a third-party dependency; this is the part of its documented
behaviour that the program relies on. Numbers that were stored as integers are
kept exactly. A floating-point number is kept by its truncation, the only thing
a conversion to an integer type reads; out of range that conversion is undefined,
and reduced here like the one of an integer. Object fields are a list of pairs and
`find` returns the first pair of a key.
-/
namespace PnC.Source

inductive Json where
  | null
  | boolean (b : Bool)
  | numberInteger (n : Int)
  | numberFloat (truncated : Int)
  | string (s : String)
  | array (elements : List Json)
  | object (fields : List (String × Json))
  deriving Inhabited

/-- The std::exception values that the modelled code can throw. -/
inductive Exception where
  | typeError (id : Nat)
  | lengthError
  | runtimeError (what : String)
  deriving DecidableEq, Repr

/-- Ways in which a call does not return to its caller. -/
inductive Fault where
  | outOfBounds
  | diverges
  | divisionByZero
  deriving DecidableEq, Repr

/-- Conversion of a stored 64-bit number to `int`: reduction modulo 2^32. -/
def toInt32 (n : Int) : Int := n.bmod (2 ^ 32)

/-- Conversion of a stored number to `int64_t`; a stored `uint64_t` wraps. -/
def toInt64 (n : Int) : Int := n.bmod (2 ^ 64)

/-- The range of C++ `int`. -/
def FitsInt32 (n : Int) : Prop := -2 ^ 31 ≤ n ∧ n < 2 ^ 31

/-- The range of C++ `int64_t`. -/
def FitsInt64 (n : Int) : Prop := -2 ^ 63 ≤ n ∧ n < 2 ^ 63

instance (n : Int) : Decidable (FitsInt32 n) := inferInstanceAs (Decidable (_ ∧ _))

instance (n : Int) : Decidable (FitsInt64 n) := inferInstanceAs (Decidable (_ ∧ _))

theorem toInt32_of_fits {n : Int} (fits : FitsInt32 n) : toInt32 n = n := by
  unfold FitsInt32 at fits
  unfold toInt32
  rw [Int.bmod_eq_of_le] <;> omega

theorem fits_toInt32 (n : Int) : FitsInt32 (toInt32 n) := by
  have low := Int.le_bmod (x := n) (m := 2 ^ 32) (by decide)
  have high := Int.bmod_lt (x := n) (m := 2 ^ 32) (by decide)
  unfold toInt32 FitsInt32
  omega

/-- The numbers that int keeps are the ones in its range. -/
theorem toInt32_eq_self_iff (n : Int) : toInt32 n = n ↔ FitsInt32 n := by
  constructor
  · intro kept
    rw [← kept]
    exact fits_toInt32 n
  · exact toInt32_of_fits

theorem fits_toInt64 (n : Int) : FitsInt64 (toInt64 n) := by
  have low := Int.le_bmod (x := n) (m := 2 ^ 64) (by decide)
  have high := Int.bmod_lt (x := n) (m := 2 ^ 64) (by decide)
  unfold toInt64 FitsInt64
  omega

theorem toInt64_of_fits {n : Int} (fits : FitsInt64 n) : toInt64 n = n := by
  unfold FitsInt64 at fits
  unfold toInt64
  rw [Int.bmod_eq_of_le] <;> omega

namespace Json

def getString : Json → Except Exception String
  | .string s => .ok s
  | _ => .error (.typeError 302)

def getBool : Json → Except Exception Bool
  | .boolean b => .ok b
  | _ => .error (.typeError 302)

/-- `get<int>`: the arithmetic conversion, which also accepts a boolean. -/
def getInt : Json → Except Exception Int
  | .numberInteger n => .ok (toInt32 n)
  | .numberFloat t => .ok (toInt32 t)
  | .boolean b => .ok (if b then 1 else 0)
  | _ => .error (.typeError 302)

def getInt64 : Json → Except Exception Int
  | .numberInteger n => .ok (toInt64 n)
  | .numberFloat t => .ok (toInt64 t)
  | _ => .error (.typeError 302)

def getJson (j : Json) : Except Exception Json := .ok j

def find (key : String) : Json → Option Json
  | .object fields => fields.lookup key
  | _ => none

def contains (j : Json) (key : String) : Bool := (j.find key).isSome

/-- `value(key, fallback)`: only objects may be asked, and a present value is
converted to the C++ type of the fallback. -/
def value {α : Type} (j : Json) (key : String) (fallback : α)
    (get : Json → Except Exception α) : Except Exception α :=
  match j with
  | .object fields =>
    match fields.lookup key with
    | some stored => get stored
    | none => .ok fallback
  | _ => .error (.typeError 306)

/-- `j[key].get<T>()`, made only where `contains` returned true. -/
def require {α : Type} (j : Json) (key : String) (get : Json → Except Exception α) :
    Except Exception α :=
  match j.find key with
  | some stored => get stored
  | none => .error (.typeError 305)

/-- `contains` followed by `j[key].get<T>()` into an optional. -/
def optional {α : Type} (j : Json) (key : String) (get : Json → Except Exception α) :
    Except Exception (Option α) :=
  if j.contains key then (j.require key get).map some else .ok none

theorem fits_getInt {j : Json} {n : Int} (read : j.getInt = .ok n) : FitsInt32 n := by
  unfold getInt at read
  split at read <;> cases read
  · exact fits_toInt32 _
  · exact fits_toInt32 _
  · split <;> decide

/-- What a read through `int` gives is in the range of int. -/
theorem fits_value {j : Json} {key : String} {fallback n : Int} (fits : FitsInt32 fallback)
    (read : j.value key fallback getInt = .ok n) : FitsInt32 n := by
  unfold value at read
  split at read
  · split at read
    · exact fits_getInt read
    · cases read
      exact fits
  · cases read

def isEmpty : Json → Bool
  | .null => true
  | .array elements => elements.isEmpty
  | .object fields => fields.isEmpty
  | _ => false

def isObject : Json → Bool
  | .object _ => true
  | _ => false

/-- What a range-for over a json value visits: a primitive visits itself. -/
def elements : Json → List Json
  | .null => []
  | .array elements => elements
  | .object fields => fields.map Prod.snd
  | j => [j]

end Json

end PnC.Source
