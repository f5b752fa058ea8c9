import PnC.Source.PwdText

/-!
# next_unit walks the enumeration

From a generator at any place of the enumeration the calls of next_unit give the words
that follow, one a call, up to the last word of ten characters, and then answer false.
-/
namespace PnC.Source

open PnC.Library PwdNextUnit

namespace PwdNextUnit

/-- A generator that has `p` words of the enumeration over these classes behind it. -/
structure Walks (la ua num na : Bool) (p : Nat) (u : PwdNextUnit) : Prop where
  letters : 0 < (indexAlphabet la ua num na).length
  digits : ∃ digits, u.Holds digits ∧ position u.indices.length digits = p
  indices : u.indices = indexAlphabet la ua num na
  characters : u.characters = charAlphabet la ua num na

/-- The words of up to ten characters over the classes. -/
abbrev words (la ua num na : Bool) : List (List Char) :=
  shortlex (charAlphabet la ua num na) maxPwdLen

section Walks
variable {la ua num na : Bool} {p : Nat} {u : PwdNextUnit}

theorem Walks.bounded (walks : Walks la ua num na p u) : p ≤ (words la ua num na).length := by
  obtain ⟨digits, holds, rfl⟩ := walks.digits
  have valid := holds.valid
  rw [walks.indices, ← length_charAlphabet] at valid ⊢
  exact (length_le_iff_position_le _ valid).mp holds.fits

/-- While words are left a call gives the next one. -/
theorem Walks.step (walks : Walks la ua num na p u) (more : p < (words la ua num na).length) :
    ∃ v w, u.setNext = .ok (.success, v) ∧ Walks la ua num na (p + 1) v ∧ v.Filled ∧
      (words la ua num na)[p]? = some w ∧ v.getPlainPassword = .ok (some (String.ofList w)) := by
  obtain ⟨digits, holds, place⟩ := walks.digits
  have size : u.indices.length = (charAlphabet la ua num na).length := by
    rw [walks.indices, length_charAlphabet]
  have valid := holds.valid
  have positive : 0 < u.indices.length := by
    rw [walks.indices]
    exact walks.letters
  have further := digits_advance positive valid
  have position := position_advance valid
  have room : (advance u.indices.length digits).length ≤ maxPwdLen := by
    rw [size] at further position place ⊢
    rw [length_le_iff_position_le _ further, position, place]
    exact more
  obtain ⟨v, call, next, indices, characters⟩ := setNext_advances holds positive room
  have word := shortlex_spell (charAlphabet la ua num na) (size ▸ further)
    (advance_ne_nil _ _) (size ▸ room)
  have plain := getPlainPassword_spells next
  rw [characters, walks.characters] at plain
  refine ⟨v, _, call, ⟨walks.letters, ⟨_, next, ?_⟩, indices.trans walks.indices,
    characters.trans walks.characters⟩, filled_of_holds next, ?_, plain⟩
  · rw [indices, position, place]
  · rw [size] at position place ⊢
    rw [position, place, Nat.add_sub_cancel] at word
    exact word

/-- Past the last word the generator has run out. -/
theorem Walks.ends (walks : Walks la ua num na p u) (ended : (words la ua num na).length ≤ p) :
    u.useNone = false ∧ u.setNext = .ok (.done, { u with permuteStatus := true }) := by
  obtain ⟨digits, holds, place⟩ := walks.digits
  have valid := holds.valid
  have size : u.indices.length = (charAlphabet la ua num na).length := by
    rw [walks.indices, length_charAlphabet]
  refine ⟨holds.enabled, setNext_exhausted holds ?_⟩
  by_contra short
  have room : (advance u.indices.length digits).length ≤ maxPwdLen := by omega
  have positive : 0 < u.indices.length := by
    rw [walks.indices]
    exact walks.letters
  have further := digits_advance positive valid
  rw [size] at further room place valid
  rw [length_le_iff_position_le _ further, position_advance valid, place] at room
  exact absurd ended (Nat.not_le.mpr room)

end Walks

end PwdNextUnit

namespace PwdState

/-- A call of next_unit that gives this password. -/
def EmitsWord (s : PwdState) (w : List Char) : Prop :=
  ∃ next job, s.nextUnit = .unit next job ∧
    job.find "password" = some (.string (String.ofList w))

/-- A call of next_unit that answers false. -/
def Refuses (s : PwdState) : Prop := ∃ next, s.nextUnit = .exhausted next

section Calls
variable {s : PwdState} {v : PwdNextUnit}

theorem nextUnit_of_success (call : s.generator.setNext = .ok (.success, v)) (filled : v.Filled)
    {password : String} (plain : v.getPlainPassword = .ok (some password)) :
    ∃ seq job, s.nextUnit = .unit { s with generator := v, seq := seq } job ∧
      job.find "password" = some (.string password) := by
  obtain ⟨indicies, spelled, -⟩ := filled.indicies
  obtain ⟨text, named, -⟩ := filled.text
  refine ⟨toInt32 (s.seq + 1), .object [("task", .string "PWD"), ("password", .string password),
    ("indicies", .string indicies), ("text", .string text),
    ("seq", .numberInteger (toInt32 (s.seq + 1)))], ?_, rfl⟩
  simp only [nextUnit, call, if_true, job, plain, spelled, named, bind, Except.bind, pure,
    Except.pure, Option.getD_some]

theorem nextUnit_of_refusal {status : PermuteStatus} (refused : status ≠ .success)
    (call : s.generator.setNext = .ok (status, v)) :
    s.nextUnit = .exhausted { s with generator := v } := by
  simp only [nextUnit, call, refused, if_false]

theorem after_of_unit {next : PwdState} {job : Json} (call : s.nextUnit = .unit next job) :
    createPwdPlugin.after s = next := by
  unfold TestPlugin.after createPwdPlugin
  dsimp only
  rw [call]

theorem after_of_exhausted {next : PwdState} (call : s.nextUnit = .exhausted next) :
    createPwdPlugin.after s = next := by
  unfold TestPlugin.after createPwdPlugin
  dsimp only
  rw [call]

end Calls

section Walking
variable {la ua num na : Bool} {p : Nat} {s : PwdState}

/-- Where the generator is after any number of calls. -/
theorem walks_iterate (walks : Walks la ua num na p s.generator) (n : Nat) :
    (Walks la ua num na (p + n) (createPwdPlugin.after^[n] s).generator) ∨
      ((words la ua num na).length < p + n ∧
        (createPwdPlugin.after^[n] s).generator.useNone = false ∧
        (createPwdPlugin.after^[n] s).generator.permuteStatus = true) := by
  induction n with
  | zero => exact Or.inl walks
  | succ n ih =>
    rw [Function.iterate_succ_apply', ← Nat.add_assoc]
    generalize createPwdPlugin.after^[n] s = t at ih ⊢
    rcases ih with here | ⟨past, enabled, finished⟩
    · rcases Nat.lt_or_ge (p + n) (words la ua num na).length with more | ended
      · obtain ⟨v, w, call, next, filled, -, plain⟩ := here.step more
        obtain ⟨seq, job, unit, -⟩ := nextUnit_of_success call filled plain
        rw [after_of_unit unit]
        exact Or.inl next
      · obtain ⟨enabled, call⟩ := here.ends ended
        rw [after_of_exhausted (nextUnit_of_refusal (by decide) call)]
        exact Or.inr ⟨Nat.lt_succ_of_le ended, enabled, rfl⟩
    · have call := setNext_after_done enabled finished
      rw [after_of_exhausted (nextUnit_of_refusal (by decide) call)]
      exact Or.inr ⟨Nat.lt_succ_of_lt past, enabled, finished⟩

/-- The call that `n` others precede gives word `p + n`, if there is one. -/
theorem emitsWord_of_walks (walks : Walks la ua num na p s.generator) {n : Nat} {w : List Char}
    (word : (words la ua num na)[p + n]? = some w) :
    EmitsWord (createPwdPlugin.after^[n] s) w := by
  have more := (List.getElem?_eq_some_iff.mp word).1
  rcases walks_iterate walks n with here | ⟨past, -⟩
  · obtain ⟨v, w', call, -, filled, word', plain⟩ := here.step more
    cases word.symm.trans word'
    obtain ⟨seq, job, unit, password⟩ := nextUnit_of_success call filled plain
    exact ⟨_, job, unit, password⟩
  · omega

theorem refuses_of_walks (walks : Walks la ua num na p s.generator) {n : Nat}
    (ended : (words la ua num na).length ≤ p + n) : Refuses (createPwdPlugin.after^[n] s) := by
  rcases walks_iterate walks n with here | ⟨-, enabled, finished⟩
  · exact ⟨_, nextUnit_of_refusal (by decide) (here.ends ended).2⟩
  · exact ⟨_, nextUnit_of_refusal (by decide) (setNext_after_done enabled finished)⟩

end Walking

end PwdState

end PnC.Source
