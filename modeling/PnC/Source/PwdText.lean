import PnC.Library.Separated
import PnC.Source.PwdProgress

/-!
# The three encodings of a candidate

get_plainPassword, get_pwdAsIndicies and get_pwdAsText each translate the indices below
testPwdLen one by one, from the highest position down. The tables give every index a
character and a text of its own.
-/
namespace PnC.Source.PwdNextUnit

open PnC.Library

/-- The indices that the three functions look at. -/
def candidate (u : PwdNextUnit) : List Int := u.downFrom u.testPwdLen.toNat

/-- The length fits the arrays and every index below it is in the tables. -/
structure Filled (u : PwdNextUnit) : Prop where
  started : 0 ≤ u.testPwdLen
  fits : u.testPwdLen ≤ maxPwdLen
  indexed : ∀ index ∈ u.candidate, 0 ≤ index ∧ index ≤ rangeNaUpper

theorem length_downFrom (u : PwdNextUnit) (count : Nat) : (u.downFrom count).length = count := by
  induction count with
  | zero => rfl
  | succ count ih => rw [downFrom, List.length_cons, ih]

theorem Filled.length {u : PwdNextUnit} (filled : u.Filled) :
    u.testPwdLen = u.candidate.length := by
  have started := filled.started
  rw [candidate, length_downFrom]
  omega

/-! ## The tables -/

/-- The character of an index in the tables. -/
def charOf (index : Int) : Char := (plainChar index).getD '\x00'

/-- Every index that get_plainPassword translates, in order. -/
def tableIndices : List Int := (List.range 86).map Int.ofNat

theorem mem_tableIndices {index : Int} (low : 0 ≤ index) (high : index ≤ rangeNaUpper) :
    index ∈ tableIndices := by
  have bound : rangeNaUpper = 85 := rfl
  exact List.mem_map.mpr ⟨index.toNat, List.mem_range.mpr (by omega), Int.toNat_of_nonneg low⟩

/-- The position of a character in the tables. -/
def indexOfChar (c : Char) : Int := ((tableIndices.map charOf).idxOf c : Nat)

/-- The position of a text among the texts of the indices. -/
def indexOfText (text : List Char) : Int :=
  ((tableIndices.map fun index => (textOf index).toList).idxOf text : Nat)

theorem tables_spec : ∀ index ∈ tableIndices,
    plainChar index = some (charOf index) ∧ indexOfChar (charOf index) = index := by
  decide +kernel

/-- No text has a comma, and none is the fallback of nonAlphaName. -/
theorem texts_spec : ∀ index ∈ tableIndices,
    indexOfText (textOf index).toList = index ∧ ',' ∉ (textOf index).toList ∧
      "ERROR ".toList.isPrefixOf (textOf index).toList = false := by
  decide +kernel

/-! ## The loops -/

section Loops
variable {u v : PwdNextUnit}

/-- An index of a candidate is in the tables. -/
theorem Filled.inTables (filled : u.Filled) {index : Int} (member : index ∈ u.candidate) :
    index ∈ tableIndices :=
  mem_tableIndices (filled.indexed index member).1 (filled.indexed index member).2

theorem plainLoop_chars {count : Nat} (bound : count ≤ maxPwdLen)
    (inTables : ∀ index ∈ u.downFrom count, index ∈ tableIndices) (written : List Char) :
    u.plainLoop count written = .ok (some (written ++ (u.downFrom count).map charOf)) := by
  induction count generalizing written with
  | zero => rw [plainLoop, downFrom, List.map_nil, List.append_nil]
  | succ count ih =>
    have found : u.charIndicies[count]? = some u.charIndicies[count] :=
      Vector.getElem?_eq_getElem bound
    rw [downFrom, found, Option.getD_some] at inTables
    have char := (tables_spec _ (inTables _ List.mem_cons_self)).1
    rw [plainLoop, found]
    dsimp only
    rw [char]
    dsimp only
    rw [ih (by omega) (fun index member => inTables index (List.mem_cons_of_mem _ member)),
      downFrom, found, Option.getD_some, List.map_cons, List.append_assoc, List.singleton_append]

theorem Filled.plain (filled : u.Filled) :
    u.getPlainPassword = .ok (some (String.ofList (u.candidate.map charOf))) := by
  have started := filled.started
  have fits := filled.fits
  rw [getPlainPassword, plainLoop_chars (by omega) (fun _ => filled.inTables), List.nil_append]
  dsimp only
  rw [if_neg (by omega), candidate]

theorem indiciesLoop_ok (u : PwdNextUnit) (count : Nat) (bound : count ≤ maxPwdLen)
    (written : String) : ∃ text, u.indiciesLoop count written = .ok text := by
  induction count generalizing written with
  | zero => exact ⟨written, rfl⟩
  | succ count ih =>
    have found : u.charIndicies[count]? = some u.charIndicies[count] :=
      Vector.getElem?_eq_getElem bound
    rw [indiciesLoop, found]
    exact ih (by omega) _

theorem textLoop_text (u : PwdNextUnit) (count : Nat) (bound : count ≤ maxPwdLen)
    (written : String) : ∃ text, u.textLoop count written = .ok text ∧
      text.toList = written.toList ++
        [','].intercalate ((u.downFrom count).map fun index => (textOf index).toList) := by
  induction count generalizing written with
  | zero => exact ⟨written, rfl, by simp [downFrom]⟩
  | succ count ih =>
    have found : u.charIndicies[count]? = some u.charIndicies[count] :=
      Vector.getElem?_eq_getElem bound
    rw [textLoop, found]
    dsimp only
    obtain ⟨text, loop, spelled⟩ := ih (by omega)
      (written ++ textOf u.charIndicies[count] ++ if count ≠ 0 then "," else "")
    refine ⟨text, loop, ?_⟩
    rw [spelled, downFrom, found, Option.getD_some, List.map_cons]
    cases count with
    | zero => simp [downFrom]
    | succ count =>
      rw [downFrom, List.map_cons, List.intercalate_cons_cons]
      simp

theorem Filled.indicies (filled : u.Filled) : ∃ text, u.getPwdAsIndicies = .ok text ∧
    text.toList = [','].intercalate ((toString u.testPwdLen).toList ::
      u.candidate.map fun index => (toString index).toList) := by
  have fits := filled.fits
  obtain ⟨text, loop⟩ := u.indiciesLoop_ok u.testPwdLen.toNat (by omega)
    (toString u.testPwdLen)
  exact ⟨text, loop, u.indiciesLoop_text loop⟩

theorem Filled.text (filled : u.Filled) : ∃ text, u.getPwdAsText = .ok text ∧
    text.toList = (toString u.testPwdLen).toList ++ ' ' :: ("chars ".toList ++
      [','].intercalate (u.candidate.map fun index => (textOf index).toList)) := by
  have fits := filled.fits
  obtain ⟨text, loop, spelled⟩ := u.textLoop_text u.testPwdLen.toNat (by omega)
    (toString u.testPwdLen ++ " chars ")
  refine ⟨text, loop, ?_⟩
  rw [spelled, String.toList_append, List.append_assoc]
  rfl

/-! ## Each encoding determines the candidate -/

theorem Filled.same_length (first : u.Filled) (second : v.Filled)
    (same : u.candidate = v.candidate) : u.testPwdLen = v.testPwdLen := by
  rw [first.length, second.length, same]

theorem plain_eq_iff (first : u.Filled) (second : v.Filled) :
    u.getPlainPassword = v.getPlainPassword ↔ u.candidate = v.candidate := by
  rw [first.plain, second.plain]
  constructor
  · intro same
    have chars := String.ofList_inj.mp (Option.some.inj (Except.ok.inj same))
    exact map_injective_of_back (fun index member => (tables_spec index (first.inTables member)).2)
      (fun index member => (tables_spec index (second.inTables member)).2) chars
  · intro same
    rw [same]

theorem indicies_eq_iff (first : u.Filled) (second : v.Filled) :
    u.getPwdAsIndicies = v.getPwdAsIndicies ↔ u.candidate = v.candidate := by
  obtain ⟨text, spelled, parts⟩ := first.indicies
  obtain ⟨other, spelled', parts'⟩ := second.indicies
  constructor
  · intro same
    have equal : text = other := Except.ok.inj ((spelled.symm.trans same).trans spelled')
    rw [equal, parts'] at parts
    have segments := intercalate_injective (comma_clear _ _) (comma_clear _ _) (by simp) parts
    have indices := (List.cons.inj segments).2
    exact (List.map_injective_iff.mpr
      (fun m n same => toString_int_injective (String.toList_inj.mp same)) indices).symm
  · intro same
    have texts : text = other := by
      apply String.toList_inj.mp
      rw [parts, parts', same, first.same_length second same]
    rw [spelled, spelled', texts]

/-- The length in front ends at the first blank, and what follows is cut at the commas. -/
theorem text_eq_iff (first : u.Filled) (second : v.Filled) :
    u.getPwdAsText = v.getPwdAsText ↔ u.candidate = v.candidate := by
  obtain ⟨text, spelled, parts⟩ := first.text
  obtain ⟨other, spelled', parts'⟩ := second.text
  have noBlank : ∀ n : Int, ' ' ∉ (toString n).toList :=
    fun n => not_mem_toString_int (by decide) (by decide) n
  have clear : ∀ {w : PwdNextUnit}, w.Filled →
      ∀ part ∈ w.candidate.map fun index => (textOf index).toList, ',' ∉ part := by
    intro w filled part member
    obtain ⟨index, inside, rfl⟩ := List.mem_map.mp member
    exact (texts_spec index (filled.inTables inside)).2.1
  constructor
  · intro same
    have equal : text = other := Except.ok.inj ((spelled.symm.trans same).trans spelled')
    rw [equal, parts'] at parts
    obtain ⟨lengths, rest⟩ := append_cons_injective (noBlank _) (noBlank _) parts
    have length : v.testPwdLen = u.testPwdLen :=
      toString_int_injective (String.toList_inj.mp lengths)
    have both : v.candidate = [] ↔ u.candidate = [] := by
      have here := first.length
      have there := second.length
      rw [← List.length_eq_zero_iff, ← List.length_eq_zero_iff]
      omega
    have names := intercalate_injective (clear second) (clear first) (by simpa using both)
      (List.append_cancel_left rest)
    exact (map_injective_of_back
      (fun index member => (texts_spec index (second.inTables member)).1)
      (fun index member => (texts_spec index (first.inTables member)).1)
      names).symm
  · intro same
    have texts : text = other := by
      apply String.toList_inj.mp
      rw [parts, parts', same, first.same_length second same]
    rw [spelled, spelled', texts]

end Loops

/-! ## Generators in the middle of an enumeration -/

theorem indexAlphabet_bounds : ∀ la ua num na : Bool, ∀ index ∈ indexAlphabet la ua num na,
    0 ≤ index ∧ index ≤ rangeNaUpper := by
  decide +kernel

theorem filled_of_holds {u : PwdNextUnit} {digits : List Nat} (holds : u.Holds digits) :
    u.Filled := by
  have length := holds.length
  have fits := holds.fits
  refine ⟨by omega, by omega, ?_⟩
  have below : ∀ count ≤ digits.length, ∀ index ∈ u.downFrom count,
      0 ≤ index ∧ index ≤ rangeNaUpper := by
    intro count
    induction count with
    | zero =>
      intro _ index member
      cases member
    | succ count ih =>
      intro bound index member
      have found := shows_getElem? u holds.shows (i := count) (by omega)
      have digit : digits[count]? = some digits[count] := List.getElem?_eq_getElem bound
      have valid := holds.valid _ (List.getElem_mem bound)
      rw [digit, shown_of_lt valid] at found
      rw [downFrom, found, Option.getD_some, List.mem_cons] at member
      rcases member with rfl | lower
      · exact indexAlphabet_bounds _ _ _ _ _ (List.getElem_mem valid)
      · exact ih (by omega) index lower
  intro index member
  exact below u.testPwdLen.toNat (by omega) index member

end PnC.Source.PwdNextUnit
