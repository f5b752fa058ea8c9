import PnC.Guarantees.PasswordEnumeration
import PnC.Source.PwdText

/-!
# The three encodings agree

Of the generators that a fresh one with any classes reaches by successful calls of
setNext, two have the same password exactly when they have the same indices and exactly
when they have the same text.
-/
namespace PnC.Guarantees.PasswordEncodings

open PnC.Library PnC.Source PnC.Source.PwdNextUnit PnC.Guarantees.PasswordEnumeration

/-- Successful calls of setNext one after the other. -/
inductive Stepped (start : PwdNextUnit) : PwdNextUnit → Prop where
  | start : Stepped start start
  | next {u v : PwdNextUnit} (before : Stepped start u) (call : u.setNext = .ok (.success, v)) :
    Stepped start v

section Stepped
variable {la ua num na : Bool} {start u v : PwdNextUnit}

/-- With a class enabled every call finds an odometer and leaves one. -/
theorem holds_of_stepped (some_class : (la || ua || num || na) = true)
    (stepped : Stepped (fresh la ua num na) u) :
    ∃ digits, u.Holds digits ∧ 0 < u.indices.length := by
  induction stepped with
  | start => exact ⟨[], fresh_holds some_class, alphabet_pos some_class⟩
  | next before call ih =>
    obtain ⟨digits, holds, positive⟩ := ih
    rename_i w x
    rcases Nat.lt_or_ge maxPwdLen (advance w.indices.length digits).length with beyond | room
    · rw [setNext_exhausted holds beyond] at call
      cases call
    · obtain ⟨y, success, next, indices, -⟩ := setNext_advances holds positive room
      rw [success] at call
      cases call
      exact ⟨_, next, indices ▸ positive⟩

/-- Without one no call succeeds. -/
theorem fresh_of_stepped (no_class : (la || ua || num || na) = false)
    (stepped : Stepped (fresh la ua num na) u) : u = fresh la ua num na := by
  have refused : (fresh la ua num na).setNext = .ok (.noOption, fresh la ua num na) := by
    have none : (fresh la ua num na).useNone = true := by
      change (!(la || ua || num || na)) = true
      rw [no_class]
      rfl
    rw [setNext, if_pos none]
  induction stepped with
  | start => rfl
  | next before call ih =>
    rw [ih, refused] at call
    cases call

theorem filled_of_stepped (stepped : Stepped (fresh la ua num na) u) : u.Filled := by
  cases classes : la || ua || num || na with
  | true =>
    obtain ⟨digits, holds, -⟩ := holds_of_stepped classes stepped
    exact filled_of_holds holds
  | false =>
    rw [fresh_of_stepped classes stepped]
    have short : (0 : Int) ≤ maxPwdLen := by decide
    refine ⟨Int.le_refl 0, short, ?_⟩
    intro index member
    cases member

end Stepped

/-- A password that is not null, of the length testPwdLen, and a text of names from the
tables. -/
def Encodes (u : PwdNextUnit) : Prop :=
  (∃ password, u.getPlainPassword = .ok (some password) ∧
    (password.length : Int) = u.testPwdLen) ∧
  (∃ text, u.getPwdAsText = .ok text) ∧
  ∀ index ∈ u.candidate, "ERROR ".toList.isPrefixOf (textOf index).toList = false

theorem encodes_of_filled {u : PwdNextUnit} (filled : u.Filled) : Encodes u := by
  obtain ⟨text, spelled, -⟩ := filled.text
  refine ⟨⟨_, filled.plain, ?_⟩, ⟨text, spelled⟩, ?_⟩
  · rw [String.length_ofList, List.length_map, filled.length]
  · intro index member
    exact (texts_spec index (filled.inTables member)).2.2

/-- For any classes of either generator and any numbers of calls. -/
theorem encodings_agree (la ua num na la' ua' num' na' : Bool) (u v : PwdNextUnit)
    (first : Stepped (fresh la ua num na) u) (second : Stepped (fresh la' ua' num' na') v) :
    (u.getPlainPassword = v.getPlainPassword ↔ u.getPwdAsIndicies = v.getPwdAsIndicies) ∧
    (u.getPwdAsIndicies = v.getPwdAsIndicies ↔ u.getPwdAsText = v.getPwdAsText) ∧
    Encodes u ∧ Encodes v := by
  have here := filled_of_stepped first
  have there := filled_of_stepped second
  refine ⟨?_, ?_, encodes_of_filled here, encodes_of_filled there⟩
  · rw [plain_eq_iff here there, indicies_eq_iff here there]
  · rw [indicies_eq_iff here there, text_eq_iff here there]

/-- The first candidate of the digits and the fresh generator of the letters. -/
theorem encodings_agree_first_digit :
    ∃ u, (u.getPlainPassword = (fresh true false false false).getPlainPassword ↔
        u.getPwdAsIndicies = (fresh true false false false).getPwdAsIndicies) ∧
      (u.getPwdAsIndicies = (fresh true false false false).getPwdAsIndicies ↔
        u.getPwdAsText = (fresh true false false false).getPwdAsText) ∧
      Encodes u ∧ Encodes (fresh true false false false) :=
  ⟨_, encodings_agree false false true false true false false false _ _ (.next .start rfl) .start⟩

end PnC.Guarantees.PasswordEncodings
