import PnC.Source.PwdNextUnit
import PnC.Source.TestPlugin

/-!
# PWD plugin

PWD_plugin.cpp. The start password is taken by its bytes. The globals of a found
password belong to the producer's state.
-/
namespace PnC.Source

structure PwdState where
  generator : PwdNextUnit
  useLowerAlpha : Bool
  useUpperAlpha : Bool
  useNumeric : Bool
  useNonAlpha : Bool
  maxPwdLen : Int
  seq : Int

namespace PwdState

def new : PwdState := ⟨.new, false, false, false, false, 10, 0⟩

/-- The local array nonAlpha of startup: 23 characters, without the caret. -/
def startNonAlpha : List Char :=
  ['~', '-', '=', '_', '$', '%', '+', '.', ';', ':', '[', '(', '\x7b', '\x7d', ')', ']', '?',
    '@', '!', '#', '\x60', '*', ',']

/-- The index that startup finds for a character of the start password, or -1. -/
def startIndex (c : UInt8) : Int :=
  if 97 ≤ c.toNat ∧ c.toNat < 97 + 26 then c.toNat - 97
  else if 65 ≤ c.toNat ∧ c.toNat < 65 + 26 then 26 + (c.toNat - 65)
  else if 48 ≤ c.toNat ∧ c.toNat < 48 + 10 then 52 + (c.toNat - 48)
  else
    match startNonAlpha.findIdx? (fun character => character.toNat = c.toNat) with
    | some j => 62 + j
    | none => -1

/-- The loop over the start password from position `i` on. -/
def setStart : (i : Nat) → List UInt8 → PwdNextUnit → Except Fault PwdNextUnit
  | _, [], u => .ok u
  | i, c :: rest, u =>
    if 0 ≤ startIndex c then
      match u.setCharIndicies i (startIndex c) with
      | .error fault => .error fault
      | .ok u => setStart (i + 1) rest u
    else setStart (i + 1) rest u

/-- `for (int i = start_len; i < 10; i++)`, with `count` rounds to go. -/
def clearRest : (count : Nat) → PwdNextUnit → Except Fault PwdNextUnit
  | 0, u => .ok u
  | count + 1, u =>
    match u.setCharIndicies (10 - (count + 1)) (-1) with
    | .error fault => .error fault
    | .ok u => clearRest count u

/-- What startup does with a start password that is not empty. -/
def startFrom (s : PwdState) (startingPwd : List UInt8) : Except Fault PwdState :=
  let startLen := min (toInt32 startingPwd.length) s.maxPwdLen
  match setStart 0 (startingPwd.take startLen.toNat) (s.generator.setTestPwdLen startLen) with
  | .error fault => .error fault
  | .ok u =>
    match clearRest (10 - startLen).toNat u with
    | .error fault => .error fault
    | .ok u =>
      match u.setNext with
      | .error fault => .error fault
      | .ok (_, u) => .ok { s with generator := u }

/-- The four set_use calls, in their order. -/
def setUse (s : PwdState) : PwdState :=
  { s with
    generator :=
      (((s.generator.setUseLAlpha s.useLowerAlpha).setUseUAlpha s.useUpperAlpha).setUseNumeric
        s.useNumeric).setUseNAlpha s.useNonAlpha }

/-- The try block of startup: a read that throws ends it. -/
def readConfig (s : PwdState) (cfg : Json) : Except Fault PwdState :=
  match cfg.value "use_lower_alpha" false Json.getBool with
  | .error _ => .ok s
  | .ok useLowerAlpha =>
    let s := { s with useLowerAlpha := useLowerAlpha }
    match cfg.value "use_upper_alpha" false Json.getBool with
    | .error _ => .ok s
    | .ok useUpperAlpha =>
      let s := { s with useUpperAlpha := useUpperAlpha }
      match cfg.value "use_numeric" false Json.getBool with
      | .error _ => .ok s
      | .ok useNumeric =>
        let s := { s with useNumeric := useNumeric }
        match cfg.value "use_non_alpha" false Json.getBool with
        | .error _ => .ok s
        | .ok useNonAlpha =>
          let s := { s with useNonAlpha := useNonAlpha }
          match cfg.value "max_password_length" 10 Json.getInt with
          | .error _ => .ok s
          | .ok maxPwdLen =>
            let s := { s with maxPwdLen := maxPwdLen }.setUse
            match cfg.value "starting_password" "" Json.getString with
            | .error _ => .ok s
            | .ok startingPwd =>
              if startingPwd = "" then .ok s
              else s.startFrom startingPwd.toUTF8.toList

/-- `ci[i]` on a const json: only an array may be indexed by a number. -/
def elementAt (ci : Json) (i : Nat) : Except Exception Json :=
  match ci with
  | .array elements =>
    match elements[i]? with
    | some element => .ok element
    | none => .error (.typeError 305)
  | _ => .error (.typeError 305)

/-- The loop over resume_state["charIndicies"] with `count` rounds to go. -/
def resumeIndicies (ci : Json) :
    (i count : Nat) → PwdNextUnit → Except StartupFailure PwdNextUnit
  | _, 0, u => .ok u
  | i, count + 1, u =>
    match elementAt ci i with
    | .error what => .error (.threw what)
    | .ok element =>
      match element.getInt with
      | .error what => .error (.threw what)
      | .ok index =>
        match u.setCharIndicies i index with
        | .error fault => .error (.fault fault)
        | .ok u => resumeIndicies ci (i + 1) count u

/-- startup up to the look at resume_state; a config file may be missing. -/
def configured : Option Json → Except Fault PwdState
  | some cfg => new.readConfig cfg
  | none => .ok new

/-- The charIndicies block of startup. -/
def resumeGenerator (resume : Json) (u : PwdNextUnit) : Except StartupFailure PwdNextUnit :=
  match resume.find "charIndicies" with
  | some ci => resumeIndicies ci 0 (min 10 ci.elements.length) u
  | none => .ok u

/-- startup -/
def startup (config : Option Json) (resume : Json) : Except StartupFailure PwdState := do
  let s ← (configured config).mapError .fault
  if resume.isEmpty then return s
  let u ← resumeGenerator resume s.generator
  let testPwdLen ← resumeField resume "testPwdLen" u.testPwdLen Json.getInt
  let u := u.setTestPwdLen testPwdLen
  let permuteStatus ← resumeField resume "permuteStatus" u.getPermuteStatus Json.getInt
  let u := u.setPermuteStatus permuteStatus
  let seq ← resumeField resume "seq" s.seq Json.getInt
  return { s with generator := u, seq := seq }

/-- The job that next_unit writes for the generator's password. -/
def job (u : PwdNextUnit) (seq : Int) : Except Fault Json := do
  let password ← u.getPlainPassword
  let indicies ← u.getPwdAsIndicies
  let text ← u.getPwdAsText
  return .object [("task", .string "PWD"), ("password", .string (password.getD "")),
    ("indicies", .string indicies), ("text", .string text), ("seq", .numberInteger seq)]

def nextUnit (s : PwdState) : NextUnit PwdState :=
  match s.generator.setNext with
  | .error fault => .stuck fault
  | .ok (status, u) =>
    if status = .success then
      let seq := toInt32 (s.seq + 1)
      match job u seq with
      | .error fault => .stuck fault
      | .ok job => .unit { s with generator := u, seq := seq } job
    else .exhausted { s with generator := u }

def checkpoint (s : PwdState) : Json :=
  .object [("seq", .numberInteger s.seq), ("testPwdLen", .numberInteger s.generator.testPwdLen),
    ("permuteStatus", .numberInteger s.generator.getPermuteStatus),
    ("charIndicies", .array (s.generator.charIndicies.toList.map Json.numberInteger))]

end PwdState

/-- create_pwd_plugin. Its exit_conditions look at the globals of a found password and
of a file error, not at this state. -/
def createPwdPlugin : TestPlugin PwdState where
  nextUnit := PwdState.nextUnit
  checkpoint := PwdState.checkpoint
  exitConditions := fun _ => false

end PnC.Source
