import PnC.Source.PwdConfig

/-!
# The maximum password length

startup reads max_password_length and next_unit never looks at it: whatever it is, the
words of up to ten characters are given.
-/
namespace PnC.Guarantees.PasswordLength

open PnC.Library PnC.Source PnC.Source.PwdNextUnit PnC.Source.PwdState

/-- From `s` on next_unit gives every word of one to `maxLength` of the characters, each
once, and then only answers false. -/
def Honours (s : PwdState) (characters : List Char) (maxLength : Nat) : Prop :=
  ∃ given : List (List Char), given.Nodup ∧
    (∀ w, w ∈ given ↔ 1 ≤ w.length ∧ w.length ≤ maxLength ∧ ∀ c ∈ w, c ∈ characters) ∧
    (∀ n w, given[n]? = some w → EmitsWord (createPwdPlugin.after^[n] s) w) ∧
    ∀ n, given.length ≤ n → Refuses (createPwdPlugin.after^[n] s)

section Walking
variable {la ua num na : Bool} {s : PwdState}

/-- Ten is honoured: the calls go through the list of words. -/
theorem honours_ten (walks : Walks la ua num na 0 s.generator) :
    Honours s (charAlphabet la ua num na) 10 := by
  refine ⟨words la ua num na, nodup_shortlex (nodup_charAlphabet la ua num na) _, ?_, ?_, ?_⟩
  · intro w
    exact mem_shortlex
  · intro n w word
    exact emitsWord_of_walks walks (by rwa [Nat.zero_add])
  · intro n ended
    exact refuses_of_walks walks (by rwa [Nat.zero_add])

/-- A smaller length has fewer words, and the call behind the last of them gives one. -/
theorem not_honours_less (walks : Walks la ua num na 0 s.generator) {maxLength : Nat}
    (less : maxLength < 10) : ¬ Honours s (charAlphabet la ua num na) maxLength := by
  rintro ⟨given, distinct, members, -, ends⟩
  have same : given.length = (shortlex (charAlphabet la ua num na) maxLength).length := by
    apply List.Perm.length_eq
    rw [List.perm_ext_iff_of_nodup distinct (nodup_shortlex (nodup_charAlphabet la ua num na) _)]
    intro w
    rw [members, mem_shortlex]
  have fewer : given.length < (words la ua num na).length := by
    have longer := length_shortlex_mono (charAlphabet la ua num na) (Nat.succ_le_of_lt less)
    have letters := walks.letters
    rw [← length_charAlphabet] at letters
    have more := Nat.pow_pos (n := maxLength + 1) letters
    rw [shortlex, List.length_append, length_wordsOfLength] at longer
    change given.length < (shortlex (charAlphabet la ua num na) 10).length
    omega
  obtain ⟨next, refused⟩ := ends given.length (Nat.le_refl _)
  obtain ⟨unit, job, given, -⟩ := emitsWord_of_walks walks (n := given.length)
    (by rw [Nat.zero_add]; exact List.getElem?_eq_getElem fewer)
  rw [given] at refused
  cases refused

end Walking

/-- For every configuration with a class, a length of 1 to 10 and no starting password: the
length is honoured exactly when it is ten. -/
theorem length_honoured_iff (cfg : Json) (c : PwdConfig) (reads : c.ReadFrom cfg)
    (some_class : c.SomeClass) (noStart : c.startingPassword = "") (maxLength : Nat)
    (given : c.maxPasswordLength = maxLength) (low : 1 ≤ maxLength) (high : maxLength ≤ 10)
    (s : PwdState) (started : startup (some cfg) .null = .ok s) :
    Honours s c.characters maxLength ↔ maxLength = 10 := by
  rw [PwdConfig.startup_of_readFrom reads, if_pos noStart] at started
  cases started
  have walks := PwdConfig.walks_state some_class
  constructor
  · intro honoured
    by_contra other
    exact not_honours_less walks (by omega) honoured
  · rintro rfl
    exact honours_ten walks

/-- Lower case letters, up to this length. -/
def lowerConfig (maxLength : Int) : PwdConfig := ⟨true, false, false, false, maxLength, ""⟩

def lowerJson (maxLength : Int) : Json :=
  .object [("use_lower_alpha", .boolean true), ("max_password_length", .numberInteger maxLength)]

theorem length_honoured_iff_lower :
    Honours (lowerConfig 10).state lowerAlpha 10 ↔ 10 = 10 :=
  length_honoured_iff (lowerJson 10) (lowerConfig 10) ⟨rfl, rfl, rfl, rfl, rfl, rfl⟩ rfl rfl 10 rfl
    (by decide) (by decide) (lowerConfig 10).state rfl

/-- With a maximum of one letter the 27th call gives two. -/
theorem length_one_not_honoured :
    ¬ ∀ (cfg : Json) (c : PwdConfig) (maxLength : Nat) (s : PwdState), c.ReadFrom cfg →
      c.SomeClass → c.startingPassword = "" → c.maxPasswordLength = maxLength → 1 ≤ maxLength →
      maxLength ≤ 10 → startup (some cfg) .null = .ok s → Honours s c.characters maxLength := by
  intro claimed
  exact not_honours_less (PwdConfig.walks_state (c := lowerConfig 1) rfl) (by decide)
    (claimed (lowerJson 1) (lowerConfig 1) 1 (lowerConfig 1).state ⟨rfl, rfl, rfl, rfl, rfl, rfl⟩ rfl
      rfl rfl (Nat.le_refl 1) (by decide) rfl)

end PnC.Guarantees.PasswordLength
