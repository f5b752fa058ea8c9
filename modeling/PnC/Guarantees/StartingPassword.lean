import PnC.Source.PwdFirstUnit

/-!
# The starting password

starting_password is to put the enumeration at a place. The generator that startup leaves
counts from somewhere else, but for a few starting passwords.
-/
namespace PnC.Guarantees.StartingPassword

open PnC.Library PnC.Source PnC.Source.PwdNextUnit PnC.Source.PwdState

/-- The words over the configuration's characters, in their order. -/
def allWords (c : PwdConfig) : List (List Char) :=
  words c.useLowerAlpha c.useUpperAlpha c.useNumeric c.useNonAlpha

/-- From `s` on the calls give the words from `w` or from its successor on, each call the
immediate successor of the word before, and nothing else. -/
def Positions (s : PwdState) (listed : List (List Char)) (w : List Char) : Prop :=
  ∃ r, (r = listed.idxOf w ∨ r = listed.idxOf w + 1) ∧
    ∀ n v, EmitsWord (createPwdPlugin.after^[n] s) v ↔ listed[r + n]? = some v

/-! ## Runs -/

theorem emitsWord_unique {s : PwdState} {v w : List Char} (first : EmitsWord s v)
    (second : EmitsWord s w) : v = w := by
  obtain ⟨next, job, call, password⟩ := first
  obtain ⟨other, again, same, text⟩ := second
  rw [call] at same
  cases same
  rw [password] at text
  exact String.ofList_injective (Json.string.inj (Option.some.inj text))

section Runs
variable {la ua num na : Bool} {p : Nat} {s : PwdState}

/-- The calls from a walking generator give the words from its place on. -/
theorem emits_iff_of_walks (walks : Walks la ua num na p s.generator) (n : Nat) (v : List Char) :
    EmitsWord (createPwdPlugin.after^[n] s) v ↔ (words la ua num na)[p + n]? = some v := by
  constructor
  · intro emits
    rcases Nat.lt_or_ge (p + n) (words la ua num na).length with more | ended
    · have word := List.getElem?_eq_getElem more
      rw [word, emitsWord_unique emits (emitsWord_of_walks walks word)]
    · obtain ⟨next, refused⟩ := refuses_of_walks walks ended
      obtain ⟨unit, job, given, -⟩ := emits
      rw [refused] at given
      cases given
  · exact emitsWord_of_walks walks

/-- A generator that has given up gives nothing. -/
theorem not_emits_of_finished (enabled : s.generator.useNone = false)
    (finished : s.generator.permuteStatus = true) (n : Nat) (v : List Char) :
    ¬ EmitsWord (createPwdPlugin.after^[n] s) v := by
  have stays : createPwdPlugin.after^[n] s = s := by
    induction n with
    | zero => rfl
    | succ n ih =>
      have call := setNext_after_done enabled finished
      rw [Function.iterate_succ_apply', ih,
        after_of_exhausted (nextUnit_of_refusal (by decide) call)]
  rintro ⟨next, job, given, -⟩
  rw [stays, nextUnit_of_refusal (by decide) (setNext_after_done enabled finished)] at given
  cases given

end Runs

/-- Where a run that gives words one after the other has to begin. -/
theorem positions_iff {s : PwdState} {listed : List (List Char)} (distinct : listed.Nodup)
    {w : List Char} {p : Nat}
    (runs : ∀ n v, EmitsWord (createPwdPlugin.after^[n] s) v ↔ listed[p + n]? = some v) :
    Positions s listed w ↔ (p = listed.idxOf w ∨ p = listed.idxOf w + 1) ∨
      (listed.length ≤ p ∧ listed.length ≤ listed.idxOf w + 1) := by
  constructor
  · rintro ⟨r, place, gives⟩
    have same : ∀ v, listed[r]? = some v ↔ listed[p]? = some v := fun v =>
      (gives 0 v).symm.trans (runs 0 v)
    rcases Nat.lt_or_ge r listed.length with more | ended
    · left
      have word := List.getElem?_eq_getElem more
      have again := (same _).mp word
      have equal := (List.getElem?_inj more distinct).mp (word.trans again.symm)
      rwa [← equal]
    · right
      refine ⟨?_, by omega⟩
      by_contra more
      have word := List.getElem?_eq_getElem (Nat.not_le.mp more)
      have none := (same _).mpr word
      rw [List.getElem?_eq_none ended] at none
      cases none
  · rintro (place | ⟨past, last⟩)
    · exact ⟨p, place, runs⟩
    · refine ⟨listed.idxOf w + 1, Or.inr rfl, fun n v => ?_⟩
      rw [runs n v, List.getElem?_eq_none (by omega), List.getElem?_eq_none (by omega)]

/-! ## The place of the starting password -/

section Start
variable {c : PwdConfig} {cfg : Json}

theorem distinct_allWords (c : PwdConfig) : (allWords c).Nodup :=
  nodup_shortlex (nodup_charAlphabet _ _ _ _) _

/-- The digits of the starting password, turned around, are its place. -/
theorem rank_start (starts : c.StartsWithin) :
    (allWords c).idxOf c.startingPassword.toList + 1 =
        position c.characters.length c.startDigits.reverse ∧
      position c.characters.length c.startDigits.reverse ≤ (allWords c).length := by
  have valid : Digits c.characters.length c.startDigits.reverse :=
    digits_reverse (digits_idxOf starts.letters)
  have some_digit : c.startDigits.reverse ≠ [] := by
    rw [Ne, List.reverse_eq_nil_iff, PwdConfig.startDigits, List.map_eq_nil_iff]
    exact starts.nonempty
  have length : c.startDigits.reverse.length ≤ Source.maxPwdLen := by
    rw [List.length_reverse, PwdConfig.startDigits, List.length_map]
    exact starts.short
  have word := shortlex_spell c.characters valid some_digit length
  have spelt : spell c.characters c.startDigits.reverse = c.startingPassword.toList :=
    spell_idxOf starts.letters
  rw [spelt] at word
  change (allWords c)[_]? = _ at word
  have found := List.getElem?_idxOf (List.mem_of_getElem? word)
  have place := (List.getElem?_inj (List.getElem?_eq_some_iff.mp word).1 (distinct_allWords c)).mp
    (word.trans found.symm)
  have begun : 1 ≤ position c.characters.length c.startDigits.reverse := by
    obtain ⟨d, rest, same⟩ := List.exists_cons_of_ne_nil some_digit
    rw [same, position]
    omega
  exact ⟨by omega, (length_le_iff_position_le c.characters valid).mp length⟩

/-- startup with this starting password is its one call of setNext. -/
theorem startup_starts (reads : c.ReadFrom cfg) (starts : c.StartsWithin) {status : PermuteStatus}
    {v : PwdNextUnit} (call : c.started.setNext = .ok (status, v)) :
    startup (some cfg) .null = .ok { c.state with generator := v } := by
  have nonempty : c.startingPassword ≠ "" := by
    intro empty
    apply starts.nonempty
    rw [empty]
    rfl
  rw [PwdConfig.startup_of_readFrom reads, if_neg nonempty, PwdConfig.startFrom_inside starts.fits,
    call]
  rfl

/-- There is one state that startup leaves. -/
theorem started_iff {config : Option Json} {resume : Json} {s : PwdState} {p : PwdState → Prop}
    (started : startup config resume = .ok s) :
    (∃ t, startup config resume = .ok t ∧ p t) ↔ p s := by
  constructor
  · rintro ⟨t, again, holds⟩
    cases started.symm.trans again
    exact holds
  · intro holds
    exact ⟨s, started, holds⟩

theorem size_started (c : PwdConfig) : c.started.indices.length = c.characters.length :=
  (length_charAlphabet _ _ _ _).symm

/-! ## Without the non-alpha class -/

/-- The run begins two words behind the starting password read from its end. -/
theorem plain_run (reads : c.ReadFrom cfg) (starts : c.StartsWithin)
    (plain : c.useNonAlpha = false) :
    ∃ s, startup (some cfg) .null = .ok s ∧ ∀ n v, EmitsWord (createPwdPlugin.after^[n] s) v ↔
      (allWords c)[position c.characters.length c.startDigits + 1 + n]? = some v := by
  have gapped := starts.gapped
  have places : c.startDigits.map (writtenPlace c.useNonAlpha c.characters.length) =
      c.startDigits.map some := by
    rw [plain]
    rfl
  rw [places] at gapped
  have walks : Walks c.useLowerAlpha c.useUpperAlpha c.useNumeric c.useNonAlpha
      (position c.characters.length c.startDigits) c.started := by
    refine ⟨PwdConfig.letters_pos starts.someClass, ⟨_, gapped.holds, ?_⟩, rfl, rfl⟩
    rw [size_started]
  rcases Nat.lt_or_ge (position c.characters.length c.startDigits) (allWords c).length with
    more | ended
  · obtain ⟨v, w, call, next, -⟩ := walks.step more
    exact ⟨_, startup_starts reads starts call, emits_iff_of_walks next⟩
  · obtain ⟨enabled, call⟩ := walks.ends ended
    refine ⟨_, startup_starts reads starts call, fun n v => ?_⟩
    have silent := not_emits_of_finished
      (s := { c.state with generator := { c.started with permuteStatus := true } }) enabled rfl n v
    rw [List.getElem?_eq_none (by omega)]
    constructor
    · intro emits
      exact absurd emits silent
    · intro word
      cases word

theorem ten_letters : ∀ la ua num : Bool, charAlphabet la ua num false ≠ [] →
    10 ≤ (charAlphabet la ua num false).length := by
  decide +kernel

/-- The starting password is the last word. -/
def IsLastWord (c : PwdConfig) : Prop :=
  ∃ last, c.characters.getLast? = some last ∧
    c.startingPassword.toList = List.replicate Source.maxPwdLen last

theorem idxOf_last {last : Char} (found : c.characters.getLast? = some last) :
    c.characters.idxOf last = c.characters.length - 1 := by
  rw [List.getLast?_eq_getElem?] at found
  have again := List.getElem?_idxOf (List.mem_of_getElem? found)
  have distinct : c.characters.Nodup := nodup_charAlphabet _ _ _ _
  exact ((List.getElem?_inj (List.getElem?_eq_some_iff.mp found).1 distinct).mp
    (found.trans again.symm)).symm

/-- Its digits are the highest ones. -/
theorem isLastWord_iff (starts : c.StartsWithin) : IsLastWord c ↔
    c.startDigits = List.replicate Source.maxPwdLen (c.characters.length - 1) := by
  constructor
  · rintro ⟨last, found, same⟩
    rw [PwdConfig.startDigits, same, List.map_replicate, idxOf_last found]
  · intro digits
    obtain ⟨ch, rest, spelt⟩ := List.exists_cons_of_ne_nil starts.nonempty
    have letter := starts.letters ch (spelt ▸ List.mem_cons_self)
    obtain ⟨last, found⟩ : ∃ last, c.characters.getLast? = some last :=
      ⟨_, List.getLast?_eq_some_getLast (List.ne_nil_of_mem letter)⟩
    refine ⟨last, found, map_idxOf_inj starts.letters ?_⟩
    rw [List.map_replicate, idxOf_last found]
    exact digits

/-- And its place is that of the last word. -/
theorem rank_last_iff (starts : c.StartsWithin) :
    position c.characters.length c.startDigits.reverse = (allWords c).length ↔ IsLastWord c := by
  obtain ⟨-, bounded⟩ := rank_start starts
  have valid : Digits c.characters.length c.startDigits.reverse :=
    digits_reverse (digits_idxOf starts.letters)
  have positive : 0 < c.characters.length := by
    have letters := PwdConfig.letters_pos starts.someClass
    rwa [← length_charAlphabet] at letters
  have length : c.startDigits.reverse.length ≤ Source.maxPwdLen := by
    rw [List.length_reverse, PwdConfig.startDigits, List.length_map]
    exact starts.short
  have fits := length_le_iff_position_le (m := Source.maxPwdLen) c.characters
    (digits_advance positive valid)
  rw [position_advance valid] at fits
  change _ ↔ _ ≤ (allWords c).length at fits
  rw [isLastWord_iff starts]
  constructor
  · intro top
    have long : Source.maxPwdLen < (advance c.characters.length c.startDigits.reverse).length := by
      rw [← Nat.not_le, fits]
      omega
    have full := full_of_longer valid (by omega)
    rw [full, length_advance_replicate positive] at long
    have all : c.startDigits.reverse.length = Source.maxPwdLen := by omega
    rw [all] at full
    rw [← List.reverse_reverse c.startDigits, full, List.reverse_replicate]
  · intro digits
    rw [digits, List.reverse_replicate, length_advance_replicate positive] at fits
    rw [digits, List.reverse_replicate] at bounded ⊢
    omega

/-- Read from its end a word is never one or two places before itself, so the run is right
only where neither word has a successor. -/
theorem plain_positions_iff (reads : c.ReadFrom cfg) (starts : c.StartsWithin)
    (plain : c.useNonAlpha = false) :
    (∃ s, startup (some cfg) .null = .ok s ∧
        Positions s (allWords c) c.startingPassword.toList) ↔ IsLastWord c := by
  obtain ⟨s, started, runs⟩ := plain_run reads starts plain
  rw [started_iff started, positions_iff (distinct_allWords c) runs]
  obtain ⟨rank, bounded⟩ := rank_start starts
  have ten : 10 ≤ c.characters.length := by
    obtain ⟨ch, rest, spelt⟩ := List.exists_cons_of_ne_nil starts.nonempty
    have letter := starts.letters ch (spelt ▸ List.mem_cons_self)
    have letters := ten_letters c.useLowerAlpha c.useUpperAlpha c.useNumeric
    rw [← plain] at letters
    exact letters (List.ne_nil_of_mem letter)
  have turned := position_reverse (show 0 < c.characters.length by omega) c.startDigits
  rw [← rank_last_iff starts]
  constructor
  · rintro (near | ⟨-, last⟩)
    · exfalso
      have apart := Nat.sub_mod_eq_zero_of_mod_eq turned
      rcases near with before | here
      · have two : position c.characters.length c.startDigits.reverse -
            position c.characters.length c.startDigits = 2 := by omega
        rw [two, Nat.mod_eq_of_lt (by omega)] at apart
        cases apart
      · have one : position c.characters.length c.startDigits.reverse -
            position c.characters.length c.startDigits = 1 := by omega
        rw [one, Nat.mod_eq_of_lt (by omega)] at apart
        cases apart
    · omega
  · intro last
    have digits := (isLastWord_iff starts).mp ((rank_last_iff starts).mp last)
    have same : c.startDigits.reverse = c.startDigits := by
      rw [digits, List.reverse_replicate]
    rw [same] at rank last
    right
    omega

/-! ## With the non-alpha class -/

theorem nonAlpha_letters : ∀ la ua num : Bool, 24 ≤ (charAlphabet la ua num true).length := by
  decide +kernel

theorem letters_large (nonAlpha : c.useNonAlpha = true) : 24 ≤ c.characters.length := by
  rw [PwdConfig.characters, nonAlpha]
  exact nonAlpha_letters _ _ _

theorem digits_ne_nil (starts : c.StartsWithin) : c.startDigits ≠ [] := by
  rw [Ne, PwdConfig.startDigits, List.map_eq_nil_iff]
  exact starts.nonempty

/-- startup advances what the starting password left, and the first call does it again. -/
theorem nonAlpha_start (reads : c.ReadFrom cfg) (starts : c.StartsWithin)
    (nonAlpha : c.useNonAlpha = true) :
    ∃ s v, startup (some cfg) .null = .ok s ∧ s.generator.setNext = .ok (.success, v) ∧
      v.Gapped (firstPlaces c.characters.length c.startDigits) ∧
      v.indices = c.started.indices ∧ v.characters = c.characters := by
  have large := letters_large nonAlpha
  have size := size_started c
  have valid : Digits c.characters.length c.startDigits := digits_idxOf starts.letters
  have short : c.startDigits.length ≤ Source.maxPwdLen := by
    rw [PwdConfig.startDigits, List.length_map]
    exact starts.short
  have gapped := starts.gapped
  rw [nonAlpha] at gapped
  have first := length_firstAdvance large valid (digits_ne_nil starts)
  obtain ⟨u, call, next, indices, characters⟩ :=
    setNext_gapped gapped (by omega) (by rw [size, first]; exact short)
  rw [size] at next
  have room : (advanceGaps u.indices.length (advanceGaps c.characters.length
      (c.startDigits.map (writtenPlace true c.characters.length)))).length ≤
        Source.maxPwdLen := by
    rw [indices, size]
    have most := length_firstPlaces large valid (digits_ne_nil starts)
    exact most.trans (Nat.max_le.mpr ⟨short, by decide⟩)
  obtain ⟨v, again, last, sameIndices, sameCharacters⟩ :=
    setNext_gapped next (by rw [indices]; omega) room
  refine ⟨_, v, startup_starts reads starts call, again, ?_, sameIndices.trans indices,
    sameCharacters.trans characters⟩
  rw [indices, size] at last
  exact last

/-- A gap makes the first unit carry the empty password. -/
theorem emits_empty {s : PwdState} {v : PwdNextUnit} {places : List (Option Nat)}
    (call : s.generator.setNext = .ok (.success, v)) (gapped : v.Gapped places)
    (gap : none ∈ places) : EmitsWord s [] := by
  have length := gapped.length
  have fits := gapped.fits
  obtain ⟨indicies, spelled⟩ := v.indiciesLoop_ok v.testPwdLen.toNat (by omega)
    (toString v.testPwdLen)
  obtain ⟨text, named, -⟩ := v.textLoop_text v.testPwdLen.toNat (by omega)
    (toString v.testPwdLen ++ " chars ")
  refine ⟨{ s with generator := v, seq := toInt32 (s.seq + 1) },
    .object [("task", .string "PWD"), ("password", .string ""), ("indicies", .string indicies),
      ("text", .string text), ("seq", .numberInteger (toInt32 (s.seq + 1)))], ?_, rfl⟩
  simp only [nextUnit, call, if_true, job, gapped.plain_null gap, getPwdAsIndicies, spelled,
    getPwdAsText, named, bind, Except.bind, pure, Except.pure, Option.getD_none]

/-- Without a gap the run begins with the word that the places spell. -/
theorem digits_run {s : PwdState} {v : PwdNextUnit} {digits : List Nat} (starts : c.StartsWithin)
    (call : s.generator.setNext = .ok (.success, v)) (holds : v.Holds digits)
    (begun : digits ≠ []) (indices : v.indices = c.started.indices)
    (characters : v.characters = c.characters) (n : Nat) (w : List Char) :
    EmitsWord (createPwdPlugin.after^[n] s) w ↔
      (allWords c)[position c.characters.length digits - 1 + n]? = some w := by
  have size := size_started c
  have valid := holds.valid
  rw [indices, size] at valid
  have plain := getPlainPassword_spells holds
  obtain ⟨seq, job, unit, password⟩ := nextUnit_of_success call (filled_of_holds holds) plain
  have word := shortlex_spell c.characters valid begun holds.fits
  rw [characters] at password
  change (allWords c)[_]? = _ at word
  cases n with
  | zero =>
    rw [Nat.add_zero, word]
    constructor
    · intro emits
      rw [emitsWord_unique emits ⟨_, job, unit, password⟩]
    · intro same
      cases same
      exact ⟨_, job, unit, password⟩
  | succ n =>
    have walks : Walks c.useLowerAlpha c.useUpperAlpha c.useNumeric c.useNonAlpha
        (position c.characters.length digits) v := by
      refine ⟨PwdConfig.letters_pos starts.someClass, ⟨digits, holds, ?_⟩, indices, characters⟩
      rw [indices, size]
    have place : position c.characters.length digits - 1 + (n + 1) =
        position c.characters.length digits + n := by
      obtain ⟨d, rest, rfl⟩ := List.exists_cons_of_ne_nil begun
      rw [position]
      omega
    rw [Function.iterate_succ_apply, after_of_unit unit, place]
    exact emits_iff_of_walks (s := { s with generator := v, seq := seq }) walks n w

theorem gap_or_digits (places : List (Option Nat)) :
    none ∈ places ∨ ∃ digits : List Nat, places = digits.map some := by
  induction places with
  | nil => exact Or.inr ⟨[], rfl⟩
  | cons place rest ih =>
    cases place with
    | none => exact Or.inl List.mem_cons_self
    | some d =>
      rcases ih with gap | ⟨digits, rfl⟩
      · exact Or.inl (List.mem_cons_of_mem _ gap)
      · exact Or.inr ⟨d :: digits, rfl⟩

theorem nonAlpha_positions_iff (reads : c.ReadFrom cfg) (starts : c.StartsWithin)
    (nonAlpha : c.useNonAlpha = true) :
    (∃ s, startup (some cfg) .null = .ok s ∧
        Positions s (allWords c) c.startingPassword.toList) ↔
      Fortunate c.characters.length c.startDigits := by
  obtain ⟨s, v, started, call, gapped, indices, characters⟩ := nonAlpha_start reads starts nonAlpha
  have valid : Digits c.characters.length c.startDigits := digits_idxOf starts.letters
  rw [started_iff started, ← fortunate_iff (letters_large nonAlpha) valid (digits_ne_nil starts),
    ShowsStart, ShowsNext]
  rcases gap_or_digits (firstPlaces c.characters.length c.startDigits) with gap | ⟨digits, same⟩
  · constructor
    · rintro ⟨r, -, gives⟩
      have word := (gives 0 []).mp (emits_empty call gapped gap)
      have length := (mem_shortlex.mp (List.mem_of_getElem? word)).1
      cases length
    · rintro (shows | shows)
      · rw [shows] at gap
        simp at gap
      · rw [shows] at gap
        simp at gap
  · rw [same] at gapped ⊢
    have holds := gapped.holds
    have begun : digits ≠ [] := by
      rintro rfl
      exact advanceGaps_ne_nil _ _ same
    have turned := digits_reverse valid
    have here := holds.valid
    rw [indices, size_started] at here
    obtain ⟨rank, bounded⟩ := rank_start starts
    have inside := (length_le_iff_position_le c.characters here).mp holds.fits
    change _ ≤ (allWords c).length at inside
    have first : 1 ≤ position c.characters.length digits := by
      obtain ⟨d, rest, rfl⟩ := List.exists_cons_of_ne_nil begun
      rw [position]
      omega
    have injective := List.map_injective_iff.mpr (Option.some_injective Nat)
    rw [positions_iff (distinct_allWords c)
      (digits_run starts call holds begun indices characters), injective.eq_iff, injective.eq_iff]
    have start : digits = c.startDigits.reverse ↔
        position c.characters.length digits =
          position c.characters.length c.startDigits.reverse :=
      ⟨congrArg _, position_injective here turned⟩
    have next : digits = advance c.characters.length c.startDigits.reverse ↔
        position c.characters.length digits =
          position c.characters.length c.startDigits.reverse + 1 := by
      rw [← position_advance turned]
      exact ⟨congrArg _, position_injective here
        (digits_advance (by have large := letters_large nonAlpha; omega) turned)⟩
    rw [start, next]
    omega

/-! ## The exact condition -/

/-- The starting passwords for which the detour comes out right. -/
def ComesOutRight (c : PwdConfig) : Prop :=
  if c.useNonAlpha = true then
    c.startingPassword.toList = ['*'] ∨ c.startingPassword.toList = [','] ∨
      ∃ m, c.startingPassword.toList = '*' :: (m ++ [',']) ∧ m.reverse = m ∧
        ∀ ch ∈ m, ch ∉ ['^', '*', ',']
  else IsLastWord c

theorem last_letters : ∀ la ua num : Bool,
    ((charAlphabet la ua num true).idxOf '^' + 3 = (charAlphabet la ua num true).length ∧
      (charAlphabet la ua num true).idxOf '*' + 2 = (charAlphabet la ua num true).length) ∧
      (charAlphabet la ua num true).idxOf ',' + 1 = (charAlphabet la ua num true).length := by
  decide +kernel

theorem fortunate_chars (starts : c.StartsWithin) (nonAlpha : c.useNonAlpha = true) :
    Fortunate c.characters.length c.startDigits ↔ ComesOutRight c := by
  have large := letters_large nonAlpha
  obtain ⟨⟨caret, asterisk⟩, comma⟩ :=
    last_letters c.useLowerAlpha c.useUpperAlpha c.useNumeric
  rw [← nonAlpha] at caret asterisk comma
  change c.characters.idxOf '^' + 3 = c.characters.length at caret
  change c.characters.idxOf '*' + 2 = c.characters.length at asterisk
  change c.characters.idxOf ',' + 1 = c.characters.length at comma
  have asteriskDigit : c.characters.idxOf '*' = c.characters.length - 2 := by omega
  have commaDigit : c.characters.idxOf ',' = c.characters.length - 1 := by omega
  rw [ComesOutRight, if_pos nonAlpha]
  unfold Fortunate PwdConfig.startDigits
  have letters := starts.letters
  generalize c.startingPassword.toList = w at letters
  have word : ∀ v : List Char, w = v ↔ w.map c.characters.idxOf = v.map c.characters.idxOf := by
    intro v
    constructor
    · rintro rfl
      rfl
    · exact map_idxOf_inj letters
  constructor
  · rintro (one | one | ⟨places, same, palindrome, plain⟩)
    · left
      rw [word, List.map_singleton, asteriskDigit]
      exact one
    · right
      left
      rw [word, List.map_singleton, commaDigit]
      exact one
    · obtain ⟨a, rest, rfl, first, tail⟩ := List.map_eq_cons_iff.mp same
      obtain ⟨m, end_, rfl, inner, top⟩ := List.map_eq_append_iff.mp tail
      obtain ⟨b, rfl, last⟩ := List.map_eq_singleton_iff.mp top
      have letterA := letters a List.mem_cons_self
      have letterB := letters b (by simp)
      have lettersM : ∀ ch ∈ m, ch ∈ c.characters := fun ch member => letters ch (by simp [member])
      have startsWith := (List.idxOf_inj letterA).mp (first.trans asteriskDigit.symm)
      have endsWith := (List.idxOf_inj letterB).mp (last.trans commaDigit.symm)
      subst startsWith endsWith
      refine Or.inr (Or.inr ⟨m, rfl, ?_, fun ch member bad => ?_⟩)
      · refine map_idxOf_inj (fun ch member => lettersM ch (List.mem_reverse.mp member)) ?_
        rw [List.map_reverse, inner, palindrome]
      · have low := plain (c.characters.idxOf ch) (inner ▸ List.mem_map_of_mem member)
        simp only [List.mem_cons, List.not_mem_nil, or_false] at bad
        rcases bad with rfl | rfl | rfl <;> omega
  · rintro (rfl | rfl | ⟨m, rfl, palindrome, plain⟩)
    · left
      rw [List.map_singleton, asteriskDigit]
    · right
      left
      rw [List.map_singleton, commaDigit]
    · refine Or.inr (Or.inr ⟨m.map c.characters.idxOf, ?_, ?_, fun d member => ?_⟩)
      · rw [List.map_cons, List.map_append, List.map_singleton, asteriskDigit, commaDigit]
      · rw [← List.map_reverse, palindrome]
      · obtain ⟨ch, inside, rfl⟩ := List.mem_map.mp member
        have letter := letters ch (by simp [inside])
        have low := List.idxOf_lt_length_of_mem letter
        have other := plain ch inside
        simp only [List.mem_cons, List.not_mem_nil, or_false, not_or] at other
        obtain ⟨notCaret, notAsterisk, notComma⟩ := other
        rw [← List.idxOf_inj letter] at notCaret notAsterisk notComma
        omega

end Start

/-- For every configuration file and every starting password over its characters that fits:
the calls begin with it or with its successor, and go through the words from there, exactly
if with the non-alpha class it is an asterisk, a comma, or a palindrome between the two, and
without it the last word, behind which there is nothing to give. -/
theorem starting_password_iff (cfg : Json) (c : PwdConfig) (reads : c.ReadFrom cfg)
    (starts : c.StartsWithin) :
    (∃ s, startup (some cfg) .null = .ok s ∧
        Positions s (allWords c) c.startingPassword.toList) ↔ ComesOutRight c := by
  by_cases nonAlpha : c.useNonAlpha = true
  · rw [nonAlpha_positions_iff reads starts nonAlpha, fortunate_chars starts nonAlpha]
  · rw [plain_positions_iff reads starts (Bool.eq_false_of_not_eq_true nonAlpha), ComesOutRight,
      if_neg nonAlpha]

def otherJson (start : String) : Json :=
  .object [("use_non_alpha", .boolean true), ("starting_password", .string start)]

def otherConfig (start : String) : PwdConfig := ⟨false, false, false, true, 10, start⟩

/-- The asterisk is read as a caret, and two places behind that is the comma. -/
theorem starting_password_iff_asterisk :
    ∃ s, startup (some (otherJson "*")) .null = .ok s ∧
      Positions s (allWords (otherConfig "*")) ['*'] := by
  have letters : ∀ ch ∈ ['*'], ch ∈ (otherConfig "*").characters := by
    intro ch member
    cases List.mem_singleton.mp member
    decide
  have right : ComesOutRight (otherConfig "*") := by
    have nonAlpha : (otherConfig "*").useNonAlpha = true := rfl
    rw [ComesOutRight, if_pos nonAlpha]
    exact Or.inl rfl
  exact (starting_password_iff (otherJson "*") (otherConfig "*") ⟨rfl, rfl, rfl, rfl, rfl, rfl⟩
    ⟨by decide, letters, by decide, by decide⟩).mpr right

def lowerJson (start : String) : Json :=
  .object [("use_lower_alpha", .boolean true), ("starting_password", .string start)]

def lowerConfig (start : String) : PwdConfig := ⟨true, false, false, false, 10, start⟩

/-- The letters "ab" are read as "ba", and the first unit carries "bc". -/
theorem starting_password_ab_skips :
    ¬ ∃ s, startup (some (lowerJson "ab")) .null = .ok s ∧
        Positions s (allWords (lowerConfig "ab")) ['a', 'b'] := by
  have letters : ∀ ch ∈ ['a', 'b'], ch ∈ (lowerConfig "ab").characters := by
    intro ch member
    rcases List.mem_cons.mp member with rfl | second
    · decide
    · cases List.mem_singleton.mp second
      decide
  have starts : (lowerConfig "ab").StartsWithin := ⟨by decide, letters, by decide, by decide⟩
  intro positioned
  obtain ⟨last, -, same⟩ := (plain_positions_iff (c := lowerConfig "ab")
    ⟨rfl, rfl, rfl, rfl, rfl, rfl⟩ starts rfl).mp positioned
  have length := congrArg List.length same
  rw [List.length_replicate] at length
  revert length
  decide

end PnC.Guarantees.StartingPassword
