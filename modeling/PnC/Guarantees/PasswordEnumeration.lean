import PnC.Source.PwdOdometer

/-!
# Password enumeration

From a fresh generator with at least one class enabled, the n-th call of setNext
succeeds and leaves the n-th string over the enabled characters in
length-then-lexicographic order, as long as there is one of length at most ten;
after that every call answers PERMUTE_DONE and moves nothing.
-/
namespace PnC.Guarantees.PasswordEnumeration

open PnC.Library PnC.Source PnC.Source.PwdNextUnit

/-- A new generator after the four set_use calls. -/
def fresh (la ua num na : Bool) : PwdNextUnit :=
  (((new.setUseLAlpha la).setUseUAlpha ua).setUseNumeric num).setUseNAlpha na

/-- The generator after `n` calls of setNext. -/
def afterCalls (u : PwdNextUnit) : Nat → Except Fault PwdNextUnit
  | 0 => .ok u
  | n + 1 =>
    match afterCalls u n with
    | .error fault => .error fault
    | .ok v => v.setNext.map Prod.snd

section Fresh
variable {la ua num na : Bool}


theorem alphabet_pos (some_class : (la || ua || num || na) = true) :
    0 < (indexAlphabet la ua num na).length := by
  revert some_class
  cases la <;> cases ua <;> cases num <;> cases na <;> decide

theorem fresh_holds (some_class : (la || ua || num || na) = true) :
    (fresh la ua num na).Holds [] := by
  refine ⟨?_, rfl, by simp [Digits], by simp, ?_, rfl⟩
  · show (!(la || ua || num || na)) = false
    rw [some_class]
    rfl
  · intro i inside
    show (Vector.replicate maxPwdLen (-1 : Int))[i] = _
    simp [shown_none]

theorem afterCalls_succ {u v w : PwdNextUnit} {n : Nat} {status : PermuteStatus}
    (before : afterCalls u n = .ok v) (call : v.setNext = .ok (status, w)) :
    afterCalls u (n + 1) = .ok w := by
  simp only [afterCalls, before, call]
  rfl

/-- The advanced odometer fits into ten positions exactly while words are left. -/
theorem advance_fits_iff (some_class : (la || ua || num || na) = true) (n : Nat) :
    (advance (indexAlphabet la ua num na).length
        (odometer (indexAlphabet la ua num na).length n)).length ≤ maxPwdLen ↔
      n + 1 ≤ (shortlex (charAlphabet la ua num na) maxPwdLen).length := by
  have positive := alphabet_pos some_class
  rw [← odometer_succ]
  rw [← length_charAlphabet] at positive ⊢
  rw [length_le_iff_position_le _ (digits_odometer positive _), position_odometer positive]

/-- While words are left the next call succeeds, and the generator walks the
odometer. -/
theorem call_succeeds (some_class : (la || ua || num || na) = true) (n : Nat)
    (reached : n + 1 ≤ (shortlex (charAlphabet la ua num na) maxPwdLen).length) :
    ∃ u v, afterCalls (fresh la ua num na) n = .ok u ∧
      u.Holds (odometer (indexAlphabet la ua num na).length n) ∧
      u.setNext = .ok (.success, v) ∧
      v.Holds (odometer (indexAlphabet la ua num na).length (n + 1)) ∧
      v.indices = indexAlphabet la ua num na ∧ v.characters = charAlphabet la ua num na := by
  have positive := alphabet_pos some_class
  have room := (advance_fits_iff some_class n).mpr reached
  induction n with
  | zero =>
    obtain ⟨v, call, next, indices, characters⟩ :=
      setNext_advances (fresh_holds some_class) positive room
    exact ⟨_, v, rfl, fresh_holds some_class, call, next, indices, characters⟩
  | succ n ih =>
    obtain ⟨u, v, before, -, call, holds, indices, characters⟩ :=
      ih (by omega) ((advance_fits_iff some_class n).mpr (by omega))
    rw [← indices] at room positive
    obtain ⟨w, nextCall, next, sameIndices, sameCharacters⟩ :=
      setNext_advances holds positive (indices ▸ room)
    refine ⟨v, w, afterCalls_succ before call, holds, nextCall, ?_, sameIndices.trans indices,
      sameCharacters.trans characters⟩
    rw [odometer_succ, ← indices]
    exact indices ▸ next

/-- The generator before each call: still holding an odometer, or exhausted. -/
theorem afterCalls_cases (some_class : (la || ua || num || na) = true) (n : Nat) :
    ∃ u, afterCalls (fresh la ua num na) n = .ok u ∧ u.useNone = false ∧
      (u.permuteStatus = true ∨
        u.Holds (odometer (indexAlphabet la ua num na).length n) ∧
          u.indices = indexAlphabet la ua num na) := by
  have positive := alphabet_pos some_class
  induction n with
  | zero =>
    have start := fresh_holds some_class
    exact ⟨_, rfl, start.enabled, Or.inr ⟨start, rfl⟩⟩
  | succ n ih =>
    obtain ⟨u, before, enabled, finished | ⟨holds, indices⟩⟩ := ih
    · have call := setNext_after_done enabled finished
      exact ⟨u, afterCalls_succ before call, enabled, Or.inl finished⟩
    · rcases Nat.lt_or_ge maxPwdLen (advance u.indices.length
          (odometer (indexAlphabet la ua num na).length n)).length with beyond | room
      · have call := setNext_exhausted holds beyond
        exact ⟨_, afterCalls_succ before call, enabled, Or.inl rfl⟩
      · obtain ⟨v, call, next, sameIndices, -⟩ := setNext_advances holds (indices ▸ positive) room
        refine ⟨v, afterCalls_succ before call, next.enabled, Or.inr ⟨?_, sameIndices.trans indices⟩⟩
        rw [odometer_succ]
        exact indices ▸ next

/-- Past the last word a call answers PERMUTE_DONE and moves nothing. -/
theorem call_exhausted (some_class : (la || ua || num || na) = true) (n : Nat)
    (passed : (shortlex (charAlphabet la ua num na) maxPwdLen).length < n + 1) :
    ∃ u v, afterCalls (fresh la ua num na) n = .ok u ∧ u.setNext = .ok (.done, v) ∧
      v.charIndicies = u.charIndicies ∧ v.testPwdLen = u.testPwdLen := by
  obtain ⟨u, before, enabled, finished | ⟨holds, indices⟩⟩ := afterCalls_cases some_class n
  · exact ⟨u, u, before, setNext_after_done enabled finished, rfl, rfl⟩
  · have beyond : maxPwdLen < (advance u.indices.length
        (odometer (indexAlphabet la ua num na).length n)).length := by
      rw [indices, ← Nat.not_le, advance_fits_iff some_class]
      omega
    exact ⟨u, _, before, setNext_exhausted holds beyond, rfl, rfl⟩

end Fresh

/-- The n-th call, counted from one, for every non-empty choice of classes. -/
theorem enumeration (la ua num na : Bool) (some_class : (la || ua || num || na) = true) (n : Nat)
    (counted : 1 ≤ n) :
    ∃ before, afterCalls (fresh la ua num na) (n - 1) = .ok before ∧
      if n ≤ ∑ l ∈ Finset.Icc 1 maxPwdLen, (charAlphabet la ua num na).length ^ l then
        ∃ after word, before.setNext = .ok (.success, after) ∧
          (shortlex (charAlphabet la ua num na) maxPwdLen)[n - 1]? = some word ∧
          after.getPlainPassword = .ok (some (String.ofList word))
      else
        ∃ after, before.setNext = .ok (.done, after) ∧
          after.charIndicies = before.charIndicies ∧ after.testPwdLen = before.testPwdLen := by
  obtain ⟨n, rfl⟩ : ∃ m, n = m + 1 := ⟨n - 1, by omega⟩
  rw [← length_shortlex, Nat.add_sub_cancel]
  by_cases reached : n + 1 ≤ (shortlex (charAlphabet la ua num na) maxPwdLen).length
  · obtain ⟨u, v, before, -, call, holds, -, characters⟩ := call_succeeds some_class n reached
    have positive := alphabet_pos some_class
    rw [← length_charAlphabet] at positive holds
    have room := (length_le_iff_position_le _ (digits_odometer positive (n + 1))).mpr
      (by rw [position_odometer positive]; exact reached)
    have started : odometer (charAlphabet la ua num na).length (n + 1) ≠ [] := by
      rw [odometer_succ]
      exact advance_ne_nil _ _
    have word := shortlex_spell _ (digits_odometer positive (n + 1)) started room
    rw [position_odometer positive, Nat.add_sub_cancel] at word
    refine ⟨u, before, ?_⟩
    rw [if_pos reached]
    have plain := getPlainPassword_spells holds
    rw [characters] at plain
    exact ⟨v, _, call, word, plain⟩
  · obtain ⟨u, v, before, call, same, length⟩ := call_exhausted some_class n (Nat.not_le.mp reached)
    refine ⟨u, before, ?_⟩
    rw [if_neg reached]
    exact ⟨v, call, same, length⟩

/-- The first call of a lower-case generator. -/
theorem enumeration_first_lower :
    ∃ before, afterCalls (fresh true false false false) 0 = .ok before ∧
      ∃ after word, before.setNext = .ok (.success, after) ∧
        (shortlex (charAlphabet true false false false) maxPwdLen)[0]? = some word ∧
        after.getPlainPassword = .ok (some (String.ofList word)) := by
  obtain ⟨before, reached, step⟩ := enumeration true false false false rfl 1 (Nat.le_refl 1)
  rw [if_pos (by decide +kernel)] at step
  exact ⟨before, reached, step⟩

end PnC.Guarantees.PasswordEnumeration
