import PnC.Library.Ascii
import PnC.Library.Odometer
import PnC.Source.PwdCalls

/-!
# The generator behind a starting password

startup writes the starting password from position 0 on, and get_plainPassword reads position
0 last: the characters are turned around. Its table of the other characters has no caret, which
is left unset, and the two characters behind the caret are one too low.
-/
namespace PnC.Source

open PnC.Library PwdNextUnit

namespace PwdNextUnit

/-- A generator that shows an odometer, some of whose positions may not be set. -/
structure Gapped (u : PwdNextUnit) (places : List (Option Nat)) : Prop where
  enabled : u.useNone = false
  running : u.permuteStatus = false
  valid : ∀ d, some d ∈ places → d < u.indices.length
  fits : places.length ≤ maxPwdLen
  shows : ∀ j, (bound : j < maxPwdLen) → u.charIndicies[j] = shown u.indices places[j]?.join
  length : u.testPwdLen = places.length

section Gapped
variable {u : PwdNextUnit} {places : List (Option Nat)}

/-- Without a gap it is in the middle of the enumeration. -/
theorem Gapped.holds {digits : List Nat} (gapped : u.Gapped (digits.map some)) :
    u.Holds digits := by
  refine ⟨gapped.enabled, gapped.running, ?_, ?_, ?_, ?_⟩
  · intro d member
    exact gapped.valid d (List.mem_map_of_mem member)
  · have fits := gapped.fits
    rwa [List.length_map] at fits
  · intro j bound
    rw [gapped.shows j bound, List.getElem?_map]
    cases digits[j]? <;> rfl
  · rw [gapped.length, List.length_map]

theorem next_bump {place : Option Nat} (room : bump place < u.indices.length) :
    u.Next (shown u.indices place) (shown u.indices (some (bump place))) := by
  cases place with
  | none => exact Or.inl ⟨rfl, u.getLowestIndex_eq.symm⟩
  | some d => exact Or.inr (u.follows_of_lt room)

/-- A call of setNext advances it. -/
theorem setNext_gapped (gapped : u.Gapped places) (nonempty : 0 < u.indices.length)
    (room : (advanceGaps u.indices.length places).length ≤ maxPwdLen) :
    ∃ v, u.setNext = .ok (.success, v) ∧ v.Gapped (advanceGaps u.indices.length places) ∧
      v.indices = u.indices ∧ v.characters = u.characters := by
  obtain ⟨r, fulls, moves, length, entries⟩ := advanceGaps_spec nonempty gapped.valid
  have inside : r < maxPwdLen := by omega
  have lasts : u.LastBelow r := by
    intro j bound below
    rw [gapped.shows j bound, fulls j below]
    exact u.isLast_of_full (by omega) (by omega)
  have next := next_bump moves
  rw [← gapped.shows r inside] at next
  obtain ⟨w, call, written⟩ := setNext_next gapped.enabled gapped.running inside lasts next
  refine ⟨_, call, ⟨gapped.enabled, gapped.running, ?_, room, ?_, ?_⟩, rfl, rfl⟩
  · exact advanceGaps_valid nonempty gapped.valid
  · intro j bound
    change w[j] = shown u.indices _
    rw [written j bound, entries j, u.getLowestIndex_eq, gapped.shows j bound]
    split_ifs <;> rfl
  · have before := gapped.length
    dsimp only
    rw [length]
    split <;> omega

/-- A gap in the password makes get_plainPassword return null. -/
theorem plainLoop_gap {count j : Nat} (below : j < count) (bound : count ≤ maxPwdLen)
    (gap : u.charIndicies[j]? = some (-1)) (written : List Char) :
    u.plainLoop count written = .ok none := by
  induction count generalizing written with
  | zero => omega
  | succ count ih =>
    rw [plainLoop, Vector.getElem?_eq_getElem bound]
    dsimp only
    cases here : plainChar u.charIndicies[count] with
    | none => rfl
    | some c =>
      have lower : j < count := by
        refine Nat.lt_of_le_of_ne (Nat.le_of_lt_succ below) fun same => ?_
        subst same
        rw [Vector.getElem?_eq_getElem bound] at gap
        rw [Option.some.inj gap] at here
        cases here
      exact ih lower (Nat.le_of_succ_le bound) _

theorem Gapped.plain_null (gapped : u.Gapped places) (gap : none ∈ places) :
    u.getPlainPassword = .ok none := by
  obtain ⟨j, inside, here⟩ := List.mem_iff_getElem.mp gap
  have fits := gapped.fits
  have length := gapped.length
  have unset : u.charIndicies[j]? = some (-1) := by
    rw [Vector.getElem?_eq_getElem (by omega), gapped.shows j (by omega),
      List.getElem?_eq_getElem inside, here]
    rfl
  rw [getPlainPassword, length, Int.toNat_natCast, plainLoop_gap inside fits unset]

end Gapped

end PwdNextUnit

/-! ## What startup writes -/

/-- The place that startup leaves for the character with index `d` of `k`. The last three
of the other characters are the caret, the asterisk and the comma. -/
def writtenPlace (na : Bool) (k d : Nat) : Option Nat :=
  if na = true then
    if d + 3 < k then some d else if d + 3 = k then none else some (d - 1)
  else some d

theorem startIndex_written : ∀ la ua num na : Bool,
    ∀ d < (indexAlphabet la ua num na).length,
      PwdState.startIndex (UInt8.ofNat ((charAlphabet la ua num na)[d]?.getD ' ').toNat) =
        shown (indexAlphabet la ua num na)
          (writtenPlace na (indexAlphabet la ua num na).length d) := by
  decide +kernel

theorem ascii_tables :
    (lowerAlpha ++ upperAlpha ++ numeric ++ nonAlpha).all (fun ch => decide (ch.toNat < 128)) =
      true := by
  decide +kernel

theorem ascii_charAlphabet {la ua num na : Bool} {ch : Char}
    (letter : ch ∈ charAlphabet la ua num na) : ch.toNat < 128 := by
  have listed : ch ∈ lowerAlpha ++ upperAlpha ++ numeric ++ nonAlpha := by
    revert letter
    simp only [charAlphabet, List.mem_append]
    cases la <;> cases ua <;> cases num <;> cases na <;> simp only [if_true, Bool.false_eq_true,
      if_false, List.not_mem_nil, or_false, false_or] <;> tauto
  exact of_decide_eq_true (List.all_eq_true.mp ascii_tables ch listed)

namespace PwdConfig

/-- A starting password over the characters of the classes that fits. -/
structure StartsWithin (c : PwdConfig) : Prop where
  nonempty : c.startingPassword.toList ≠ []
  letters : ∀ ch ∈ c.startingPassword.toList, ch ∈ c.characters
  short : c.startingPassword.toList.length ≤ maxPwdLen
  within : c.startingPassword.toList.length ≤ c.maxPasswordLength

/-- The digits of the starting password, the leftmost character first. -/
def startDigits (c : PwdConfig) : List Nat := c.startingPassword.toList.map c.characters.idxOf

section StartsWithin
variable {c : PwdConfig}

theorem someClass_of_mem {ch : Char} (letter : ch ∈ c.characters) : c.SomeClass := by
  revert letter
  unfold SomeClass characters
  cases c.useLowerAlpha <;> cases c.useUpperAlpha <;> cases c.useNumeric <;>
    cases c.useNonAlpha <;> simp [charAlphabet]

theorem StartsWithin.someClass (starts : c.StartsWithin) : c.SomeClass := by
  obtain ⟨ch, rest, spelt⟩ := List.exists_cons_of_ne_nil starts.nonempty
  exact someClass_of_mem (starts.letters ch (spelt ▸ List.mem_cons_self))

theorem StartsWithin.bytes (starts : c.StartsWithin) :
    c.startingPassword.toUTF8.toList =
      c.startingPassword.toList.map fun ch => UInt8.ofNat ch.toNat := by
  have ascii := utf8_of_ascii fun ch member => ascii_charAlphabet (starts.letters ch member)
  rw [String.ofList_toList] at ascii
  rw [toList_eq_data, ascii]

theorem StartsWithin.startLen (starts : c.StartsWithin) :
    c.startLen = c.startingPassword.toList.length := by
  have within := starts.within
  have short := starts.short
  have most : maxPwdLen = 10 := rfl
  have fits : FitsInt32 (c.startingPassword.toList.length : Int) := by
    unfold FitsInt32
    omega
  rw [PwdConfig.startLen, starts.bytes, List.length_map, toInt32_of_fits fits]
  omega

theorem StartsWithin.startBytes (starts : c.StartsWithin) :
    c.startBytes = c.startingPassword.toList.map fun ch => UInt8.ofNat ch.toNat := by
  rw [PwdConfig.startBytes, starts.startLen, starts.bytes, Int.toNat_natCast,
    List.take_of_length_le (by rw [List.length_map])]

theorem StartsWithin.fits (starts : c.StartsWithin) : c.StartFits := by
  refine ⟨by rw [starts.startLen]; omega, fun k b found beyond => ?_⟩
  have short := starts.short
  rw [starts.startBytes] at found
  have inside := (List.getElem?_eq_some_iff.mp found).1
  rw [List.length_map] at inside
  omega

/-- startup's generator in front of its own call shows the digits, as far as it knows them,
from the leftmost character on. -/
theorem StartsWithin.gapped (starts : c.StartsWithin) :
    c.started.Gapped (c.startDigits.map (writtenPlace c.useNonAlpha c.characters.length)) := by
  have enabled : c.started.useNone = false := by
    change (!(c.useLowerAlpha || c.useUpperAlpha || c.useNumeric || c.useNonAlpha)) = false
    rw [starts.someClass]
    rfl
  have size : c.started.indices.length = c.characters.length :=
    (length_charAlphabet _ _ _ _).symm
  have digits := digits_idxOf starts.letters
  refine ⟨enabled, rfl, ?_, ?_, ?_, ?_⟩
  · intro d member
    obtain ⟨e, inside, place⟩ := List.mem_map.mp member
    have low := digits e inside
    rw [size]
    unfold writtenPlace at place
    split_ifs at place <;> cases place <;> omega
  · rw [List.length_map, startDigits, List.length_map]
    exact starts.short
  · intro j bound
    change (Vector.ofFn fun i : Fin maxPwdLen => c.startedIndex i)[j] = _
    rw [Vector.getElem_ofFn, startedIndex, starts.startBytes, List.getElem?_map,
      List.getElem?_map, startDigits, List.getElem?_map]
    cases found : c.startingPassword.toList[j]? with
    | none => rfl
    | some ch =>
      have letter := starts.letters ch (List.mem_of_getElem? found)
      have inside : c.characters.idxOf ch < c.started.indices.length := by
        rw [size]
        exact List.idxOf_lt_length_of_mem letter
      have char : c.characters[c.characters.idxOf ch]? = some ch := List.getElem?_idxOf letter
      have table : PwdState.startIndex
          (UInt8.ofNat ((c.characters[c.characters.idxOf ch]?).getD ' ').toNat) =
          shown c.started.indices
            (writtenPlace c.useNonAlpha c.started.indices.length (c.characters.idxOf ch)) :=
        startIndex_written _ _ _ _ _ inside
      rw [char, size] at table
      exact table
  · change c.startLen = _
    rw [starts.startLen, List.length_map, startDigits, List.length_map]

end StartsWithin

end PwdConfig

end PnC.Source
