import PnC.Source.Json

/-!
# Password permutation generator

PWD_NextUnit.h and PWD_NextUnit.cpp. The buffer testPassword is left out: each
call of get_plainPassword rewrites and terminates it before it is read, so only
the bound on its index is kept. An array access outside its bounds and a loop
that never ends are outcomes of their own.
-/
namespace PnC.Source

/-- MAX_PWD_LEN -/
abbrev maxPwdLen : Nat := 10

abbrev laCount : Nat := 26
abbrev uaCount : Nat := 26
abbrev naCount : Nat := 24
abbrev numCount : Nat := 10

abbrev rangeLaLower : Int := 0
abbrev rangeLaUpper : Int := laCount - 1
abbrev rangeUaLower : Int := laCount
abbrev rangeUaUpper : Int := (laCount + uaCount) - 1
abbrev rangeNumLower : Int := laCount + uaCount
abbrev rangeNumUpper : Int := (laCount + uaCount + numCount) - 1
abbrev rangeNaLower : Int := laCount + uaCount + numCount
abbrev rangeNaUpper : Int := (laCount + uaCount + numCount + naCount) - 1

/-- PERMUTE_SUCCESS, PERMUTE_DONE, PERMUTE_NO_OPTION -/
inductive PermuteStatus where
  | success | done | noOption
  deriving DecidableEq, Repr

def lowerAlpha : List Char :=
  ['a', 'b', 'c', 'd', 'e', 'f', 'g', 'h', 'i', 'j', 'k', 'l', 'm',
   'n', 'o', 'p', 'q', 'r', 's', 't', 'u', 'v', 'w', 'x', 'y', 'z']

def upperAlpha : List Char :=
  ['A', 'B', 'C', 'D', 'E', 'F', 'G', 'H', 'I', 'J', 'K', 'L', 'M',
   'N', 'O', 'P', 'Q', 'R', 'S', 'T', 'U', 'V', 'W', 'X', 'Y', 'Z']

def numeric : List Char :=
  ['0', '1', '2', '3', '4', '5', '6', '7', '8', '9']

/-- The two curly brackets and the grave accent are written by code point. -/
def nonAlpha : List Char :=
  ['~', '-', '=', '_', '$', '%', '+', '.', ';', ':', '[', '(', '\x7b',
   '\x7d', ')', ']', '?', '@', '!', '#', '\x60', '^', '*', ',']

structure PwdNextUnit where
  testPwdLen : Int
  charIndicies : Vector Int maxPwdLen
  useLAlpha : Bool
  useUAlpha : Bool
  useNAlpha : Bool
  useNumeric : Bool
  useNone : Bool
  /-- declared bool in the source: any status but PERMUTE_SUCCESS is stored as true -/
  permuteStatus : Bool
  deriving DecidableEq

namespace PwdNextUnit

/-- PWD_NextUnit::PWD_NextUnit -/
def new : PwdNextUnit where
  testPwdLen := 0
  charIndicies := Vector.replicate maxPwdLen (-1)
  useLAlpha := false
  useUAlpha := false
  useNAlpha := false
  useNumeric := false
  useNone := true
  permuteStatus := false

/-- The last line of the four set_use functions. -/
def refreshUseNone (u : PwdNextUnit) : PwdNextUnit :=
  { u with useNone := !(u.useLAlpha || u.useUAlpha || u.useNumeric || u.useNAlpha) }

def setUseLAlpha (u : PwdNextUnit) (newValue : Bool) : PwdNextUnit :=
  { u with useLAlpha := newValue }.refreshUseNone

def setUseUAlpha (u : PwdNextUnit) (newValue : Bool) : PwdNextUnit :=
  { u with useUAlpha := newValue }.refreshUseNone

def setUseNAlpha (u : PwdNextUnit) (newValue : Bool) : PwdNextUnit :=
  { u with useNAlpha := newValue }.refreshUseNone

def setUseNumeric (u : PwdNextUnit) (newValue : Bool) : PwdNextUnit :=
  { u with useNumeric := newValue }.refreshUseNone

/-- set_charIndicies writes without a bounds check. -/
def setCharIndicies (u : PwdNextUnit) (charIdx charIdxValue : Int) : Except Fault PwdNextUnit :=
  if 0 ≤ charIdx ∧ charIdx < maxPwdLen then
    .ok { u with charIndicies := u.charIndicies.setIfInBounds charIdx.toNat charIdxValue }
  else .error .outOfBounds

def setTestPwdLen (u : PwdNextUnit) (testLen : Int) : PwdNextUnit :=
  { u with testPwdLen := testLen }

/-- set_permuteStatus takes an int and stores it in a bool. -/
def setPermuteStatus (u : PwdNextUnit) (status : Int) : PwdNextUnit :=
  { u with permuteStatus := decide (status ≠ 0) }

/-- get_permuteStatus -/
def getPermuteStatus (u : PwdNextUnit) : Int := if u.permuteStatus then 1 else 0

def getLowestIndex (u : PwdNextUnit) : Int :=
  if u.useLAlpha then rangeLaLower
  else if u.useUAlpha then rangeUaLower
  else if u.useNumeric then rangeNumLower
  else if u.useNAlpha then rangeNaLower
  else -1

/-- The locals of setNext's while loop. -/
structure Scan where
  localCharIndicies : Vector Int maxPwdLen
  pwdCharIndex : Nat
  done : Bool
  retVal : PermuteStatus
  deriving DecidableEq

/-- The position under the scan takes a new index and the loop is done. -/
def Scan.place (s : Scan) (value : Int) : Scan :=
  { s with
    localCharIndicies := s.localCharIndicies.setIfInBounds s.pwdCharIndex value
    done := true }

/-- The carry: reset the position and look at the next one, or give up past the
last. -/
def Scan.carry (s : Scan) (lowest : Int) : Scan :=
  let pwdCharIndex := s.pwdCharIndex + 1
  if pwdCharIndex < maxPwdLen then
    { s with
      localCharIndicies := s.localCharIndicies.setIfInBounds (pwdCharIndex - 1) lowest
      pwdCharIndex := pwdCharIndex }
  else { s with pwdCharIndex := pwdCharIndex, done := true, retVal := .done }

/-- One of the four class blocks of the loop body: step inside the class, jump
from its last index to the next enabled class, or carry when there is none. -/
def classBlock (use : Bool) (lower upper : Int) (jump : Option Int) (lowest : Int)
    (charLookupIndex : Int) (s : Scan) : Scan :=
  if use && !s.done then
    if lower ≤ charLookupIndex ∧ charLookupIndex < upper then s.place (charLookupIndex + 1)
    else if charLookupIndex = upper then
      match jump with
      | some next => s.place next
      | none => s.carry lowest
    else s
  else s

def lowerAlphaBlock (u : PwdNextUnit) : Int → Scan → Scan :=
  classBlock u.useLAlpha rangeLaLower rangeLaUpper
    (if u.useUAlpha then some rangeUaLower
      else if u.useNumeric then some rangeNumLower
      else if u.useNAlpha then some rangeNaLower
      else none)
    u.getLowestIndex

def upperAlphaBlock (u : PwdNextUnit) : Int → Scan → Scan :=
  classBlock u.useUAlpha rangeUaLower rangeUaUpper
    (if u.useNumeric then some rangeNumLower
      else if u.useNAlpha then some rangeNaLower
      else none)
    u.getLowestIndex

def numericBlock (u : PwdNextUnit) : Int → Scan → Scan :=
  classBlock u.useNumeric rangeNumLower rangeNumUpper
    (if u.useNAlpha then some rangeNaLower else none) u.getLowestIndex

def nonAlphaBlock (u : PwdNextUnit) : Int → Scan → Scan :=
  classBlock u.useNAlpha rangeNaLower rangeNaUpper none u.getLowestIndex

/-- The body of setNext's while loop. The index looked up at the top is the one
every block tests, also after a carry has moved the position. -/
def scanBody (u : PwdNextUnit) (s : Scan) : Scan :=
  let found := s.localCharIndicies[s.pwdCharIndex]?.getD (-1)
  let charLookupIndex := if found = -1 then u.getLowestIndex else found
  let s := if found = -1 then s.place u.getLowestIndex else s
  let s := u.lowerAlphaBlock charLookupIndex s
  let s := u.upperAlphaBlock charLookupIndex s
  let s := u.numericBlock charLookupIndex s
  u.nonAlphaBlock charLookupIndex s

/-- The while loop, for at most `fuel` iterations. -/
def scanLoop (u : PwdNextUnit) : Nat → Scan → Option Scan
  | 0, s => if s.done then some s else none
  | fuel + 1, s => if s.done then some s else scanLoop u fuel (u.scanBody s)

/-- The write-back of a successful setNext. -/
def commit (u : PwdNextUnit) (s : Scan) : PwdNextUnit :=
  { u with
    charIndicies := s.localCharIndicies
    testPwdLen :=
      if (s.pwdCharIndex : Int) + 1 > u.testPwdLen then s.pwdCharIndex + 1 else u.testPwdLen }

/-- setNext. Every iteration that does not end the loop either moves to a later
position or changes nothing, so a loop that has not ended after as many
iterations as there are positions never ends (`scanLoop_diverges`). -/
def setNext (u : PwdNextUnit) : Except Fault (PermuteStatus × PwdNextUnit) :=
  if u.useNone then .ok (.noOption, u)
  else if u.permuteStatus then .ok (.done, u)
  else
    match u.scanLoop maxPwdLen ⟨u.charIndicies, 0, false, .success⟩ with
    | none => .error .diverges
    | some s =>
      if s.retVal = .success then .ok (.success, u.commit s)
      else .ok (s.retVal, { u with permuteStatus := true })

/-- The table lookup of get_plainPassword for one index. -/
def plainChar (charLookupIndex : Int) : Option Char :=
  if rangeLaLower ≤ charLookupIndex ∧ charLookupIndex ≤ rangeLaUpper then
    lowerAlpha[(charLookupIndex - rangeLaLower).toNat]?
  else if rangeUaLower ≤ charLookupIndex ∧ charLookupIndex ≤ rangeUaUpper then
    upperAlpha[(charLookupIndex - rangeUaLower).toNat]?
  else if rangeNumLower ≤ charLookupIndex ∧ charLookupIndex ≤ rangeNumUpper then
    numeric[(charLookupIndex - rangeNumLower).toNat]?
  else if rangeNaLower ≤ charLookupIndex ∧ charLookupIndex ≤ rangeNaUpper then
    nonAlpha[(charLookupIndex - rangeNaLower).toNat]?
  else none

/-- The loop of get_plainPassword from `x = count - 1` down to 0, over the
characters written so far; `none` is the early `return nullptr`. -/
def plainLoop (u : PwdNextUnit) : Nat → List Char → Except Fault (Option (List Char))
  | 0, written => .ok (some written)
  | count + 1, written =>
    match u.charIndicies[count]? with
    | none => .error .outOfBounds
    | some index =>
      match plainChar index with
      | none => .ok none
      | some c => plainLoop u count (written ++ [c])

/-- get_plainPassword: the string up to the terminator it writes, or null. -/
def getPlainPassword (u : PwdNextUnit) : Except Fault (Option String) :=
  match u.plainLoop u.testPwdLen.toNat [] with
  | .error fault => .error fault
  | .ok none => .ok none
  | .ok (some written) =>
    if u.testPwdLen < 0 then .error .outOfBounds else .ok (some (String.ofList written))

/-- The loop of get_pwdAsIndicies from `x = count - 1` down to 0. -/
def indiciesLoop (u : PwdNextUnit) : Nat → String → Except Fault String
  | 0, pwdStr => .ok pwdStr
  | count + 1, pwdStr =>
    match u.charIndicies[count]? with
    | none => .error .outOfBounds
    | some index => indiciesLoop u count (pwdStr ++ ("," ++ toString index))

/-- get_pwdAsIndicies -/
def getPwdAsIndicies (u : PwdNextUnit) : Except Fault String :=
  u.indiciesLoop u.testPwdLen.toNat (toString u.testPwdLen)

/-- The spelled-out names of the non-alpha characters. -/
def nonAlphaName (tmpChar : Char) : String :=
  match tmpChar with
  | '~' => "tilda"
  | '-' => "hyphen"
  | '=' => "equal"
  | '_' => "underscore"
  | '$' => "dollar"
  | '%' => "percent"
  | '+' => "plus"
  | '.' => "period"
  | ';' => "semicolon"
  | ':' => "colon"
  | '[' => "L brace"
  | '(' => "L parenthesis"
  | '\x7b' => "L curly"
  | '\x7d' => "R curly"
  | ')' => "R parenthesis"
  | ']' => "R brace"
  | '?' => "question"
  | '@' => "at"
  | '!' => "exclamation"
  | '#' => "number"
  | '\x60' => "grave"
  | '^' => "caret"
  | '*' => "asterisk"
  | ',' => "comma"
  | other => "ERROR " ++ toString other.toNat

/-- What get_pwdAsText appends for one index; an index in no range adds nothing. -/
def textOf (index : Int) : String :=
  if rangeNaLower ≤ index ∧ index ≤ rangeNaUpper then
    ((plainChar index).map nonAlphaName).getD ""
  else ((plainChar index).map Char.toString).getD ""

/-- The loop of get_pwdAsText from `x = count - 1` down to 0. -/
def textLoop (u : PwdNextUnit) : Nat → String → Except Fault String
  | 0, pwdStr => .ok pwdStr
  | count + 1, pwdStr =>
    match u.charIndicies[count]? with
    | none => .error .outOfBounds
    | some index =>
      textLoop u count (pwdStr ++ textOf index ++ (if count ≠ 0 then "," else ""))

/-- get_pwdAsText -/
def getPwdAsText (u : PwdNextUnit) : Except Fault String :=
  u.textLoop u.testPwdLen.toNat (toString u.testPwdLen ++ " chars ")

end PwdNextUnit

end PnC.Source
