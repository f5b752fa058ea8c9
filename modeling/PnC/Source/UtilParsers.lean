import PnC.Library.Numerals
import PnC.Source.Json

/-!
# The parsers of util.cpp

parse_duration and is_localhost_host. A std::string is its bytes. Arithmetic of int is
undefined where the result is out of range; `none` stands for that.
-/
namespace PnC.Source

open PnC.Library

/-- The result of an operation on ints. -/
def checkedInt (n : Int) : Option Int := if FitsInt32 n then some n else none

/-- The exceptions of std::stoi. -/
inductive StoiFailure where
  | invalidArgument
  | outOfRange
  deriving DecidableEq, Repr

/-- std::stoi reads the longest numeral at the front and ignores what is behind it. -/
def stoi (text : List UInt8) : Except StoiFailure Int :=
  match leadingNumber text with
  | none => .error .invalidArgument
  | some value => if FitsInt32 value then .ok value else .error .outOfRange

def letterS : UInt8 := 115

def letterM : UInt8 := 109

def letterH : UInt8 := 104

/-- The text in front of the suffix, if there is a suffix. -/
def numPart (s : List UInt8) (suffix : UInt8) : List UInt8 :=
  if suffix = letterS ∨ suffix = letterM ∨ suffix = letterH then s.dropLast else s

/-- parse_duration -/
def parseDuration (s : List UInt8) : Option (Except StoiFailure Int) :=
  match s.getLast? with
  | none => some (.ok 0)
  | some suffix =>
    match stoi (numPart s suffix) with
    | .error failure => some (.error failure)
    | .ok value =>
      if suffix = letterM then (checkedInt (value * 60)).map .ok
      else if suffix = letterH then (checkedInt (value * 3600)).map .ok
      else some (.ok value)

/-- std::tolower in the C locale -/
def toLower (b : UInt8) : UInt8 := if 65 ≤ b ∧ b ≤ 90 then b + 32 else b

def dot : UInt8 := 46

/-- The variables of the loop in is_localhost_host. -/
structure OctetScan where
  octets : Int
  cur : Int
  anyDigit : Bool
  deriving DecidableEq

/-- How the loop has ended or goes on; `overflows` is an int out of its range. -/
inductive Scanned where
  | goesOn (scan : OctetScan)
  | returnsFalse
  | overflows
  deriving DecidableEq

namespace OctetScan

def start : OctetScan := ⟨0, 0, false⟩

/-- The loop body -/
def read (scan : OctetScan) (c : UInt8) : Scanned :=
  if isDigit c then
    match checkedInt (scan.cur * 10 + digitValue c) with
    | none => .overflows
    | some cur => if cur > 255 then .returnsFalse else .goesOn ⟨scan.octets, cur, true⟩
  else if c = dot then
    if scan.anyDigit then
      match checkedInt (scan.octets + 1) with
      | none => .overflows
      | some octets => .goesOn ⟨octets, 0, false⟩
    else .returnsFalse
  else .returnsFalse

/-- The loop -/
def readAll (scan : OctetScan) : List UInt8 → Scanned
  | [] => .goesOn scan
  | c :: rest =>
    match scan.read c with
    | .goesOn next => readAll next rest
    | ended => ended

/-- is_localhost_host from the loop on -/
def finish : Scanned → Option Bool
  | .overflows => none
  | .returnsFalse => some false
  | .goesOn scan =>
    if scan.anyDigit then (checkedInt (scan.octets + 1)).map (· = 3) else some false

end OctetScan

/-- The names that is_localhost_host knows. -/
def localhostName : List UInt8 := [108, 111, 99, 97, 108, 104, 111, 115, 116]

def loopbackV6 : List UInt8 := [58, 58, 49]

/-- `127.` -/
def loopbackPrefix : List UInt8 := [49, 50, 55, 46]

/-- is_localhost_host -/
def isLocalhostHost (host : List UInt8) : Option Bool :=
  let h := host.map toLower
  if h = localhostName ∨ h = loopbackV6 then some true
  else if loopbackPrefix <+: h then
    OctetScan.finish (OctetScan.start.readAll (h.drop loopbackPrefix.length))
  else some false

theorem checkedInt_of_fits {n : Int} (fits : FitsInt32 n) : checkedInt n = some n := if_pos fits

theorem checkedInt_eq_some {n m : Int} (checked : checkedInt n = some m) :
    FitsInt32 n ∧ m = n := by
  unfold checkedInt at checked
  split at checked
  next fits => exact ⟨fits, (Option.some.inj checked).symm⟩
  next => cases checked

theorem checkedInt_eq_none_iff {n : Int} : checkedInt n = none ↔ ¬ FitsInt32 n := by
  simp [checkedInt]

theorem stoi_ok_iff {text : List UInt8} {value : Int} :
    stoi text = .ok value ↔ BeginsWith text value ∧ FitsInt32 value := by
  rw [← leadingNumber_eq_some_iff]
  unfold stoi
  constructor
  · intro parsed
    split at parsed
    next => cases parsed
    next number read =>
      split at parsed
      next fits =>
        cases parsed
        exact ⟨read, fits⟩
      next => cases parsed
  · intro number
    rw [number.1]
    exact if_pos number.2

end PnC.Source
