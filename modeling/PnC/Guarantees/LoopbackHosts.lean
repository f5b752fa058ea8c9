import Mathlib.Data.List.Basic
import PnC.Source.UtilParsers

/-!
# Loopback hosts

is_localhost_host reads `127.` and three octets in one pass. Its end counts the last octet
as a dot would, so the pass is one over octets with a dot behind each. The octets are counted
in an int.
-/
namespace PnC.Guarantees.LoopbackHosts

open PnC.Library PnC.Source

/-- Decimal digits with a value of at most 255; leading zeros are allowed. -/
structure Octet (part : List UInt8) : Prop where
  digits : Numeral part
  value : decimalValue part ≤ 255

/-- The names and addresses of the loopback interface, in lower case. -/
inductive Loopback : List UInt8 → Prop
  | name : Loopback localhostName
  | v6 : Loopback loopbackV6
  | v4 (a b c : List UInt8) (first : Octet a) (second : Octet b) (third : Octet c) :
      Loopback (loopbackPrefix ++ (a ++ [dot] ++ (b ++ [dot] ++ c)))

/-- is_localhost_host returns, and true exactly for a loopback host. -/
def Recognises (host : List UInt8) : Prop :=
  ∃ answer, isLocalhostHost host = some answer ∧
    (answer = true ↔ Loopback (host.map toLower))

/-- Whatever the loop has read, the next digit makes a value of at most 2559. -/
def ValuesBounded (host : List UInt8) : Prop :=
  ∀ rest, host.map toLower = loopbackPrefix ++ rest → ∀ front c, front ++ [c] <+: rest →
    ∀ scan, OctetScan.start.readAll front = .goesOn scan → isDigit c = true →
      scan.cur * 10 + digitValue c ≤ 2559

/-- Octets with a dot behind each. -/
def dotted (parts : List (List UInt8)) : List UInt8 := parts.flatMap (· ++ [dot])

/-- Behind `127.` there are 2^31 octets: more than int can count. -/
def TooManyOctets (host : List UInt8) : Prop :=
  ∃ rest, host.map toLower = loopbackPrefix ++ rest ∧
    ∃ parts, parts.length = 2 ^ 31 ∧ (∀ part ∈ parts, Octet part) ∧
      dotted parts <+: rest ++ [dot]

/-- What the loop has read: octets and a part of the next one. -/
inductive Parsed : List UInt8 → OctetScan → Prop
  | intro (parts : List (List UInt8)) (part : List UInt8) (fits : FitsInt32 parts.length)
      (octets : ∀ p ∈ parts, Octet p) (digits : ∀ b ∈ part, isDigit b = true)
      (value : decimalValue part ≤ 255) :
      Parsed (dotted parts ++ part) ⟨parts.length, decimalValue part, decide (part ≠ [])⟩

theorem dotted_concat (parts : List (List UInt8)) (part : List UInt8) :
    dotted (parts ++ [part]) = dotted parts ++ (part ++ [dot]) := by
  simp [dotted]

theorem parsed_start : Parsed [] .start := by
  have nothing := Parsed.intro [] [] (by decide) (by simp) (by simp) (by decide)
  exact nothing

/-- The next digit, in Nat and in int. -/
theorem value_concat (part : List UInt8) (c : UInt8) :
    (decimalValue part : Int) * 10 + digitValue c = decimalValue (part ++ [c]) := by
  rw [decimalValue_concat]
  omega

theorem read_digit {k cur : Int} {any : Bool} {c : UInt8} (digit : isDigit c = true)
    (low : 0 ≤ cur) (high : cur ≤ 255) :
    OctetScan.read ⟨k, cur, any⟩ c =
      if cur * 10 + digitValue c > 255 then .returnsFalse
      else .goesOn ⟨k, cur * 10 + digitValue c, true⟩ := by
  have bound := digitValue_le digit
  have fits : FitsInt32 (cur * 10 + digitValue c) := by
    unfold FitsInt32
    omega
  unfold OctetScan.read
  rw [if_pos digit]
  dsimp only
  rw [checkedInt_of_fits fits]

theorem read_dot (k cur : Int) (any : Bool) :
    OctetScan.read ⟨k, cur, any⟩ dot =
      if any = true then
        match checkedInt (k + 1) with
        | none => .overflows
        | some octets => .goesOn ⟨octets, 0, false⟩
      else .returnsFalse := by
  unfold OctetScan.read
  rw [if_neg (by decide)]
  exact if_pos rfl

/-- One more byte is read, or the octets are too many for int. -/
theorem Parsed.read {front : List UInt8} {scan : OctetScan} (parsed : Parsed front scan)
    (c : UInt8) :
    (∀ next, scan.read c = .goesOn next → Parsed (front ++ [c]) next) ∧
    (scan.read c = .overflows → ∃ parts, parts.length = 2 ^ 31 ∧ (∀ p ∈ parts, Octet p) ∧
      front ++ [c] = dotted parts) := by
  obtain ⟨parts, part, fits, octets, digits, value⟩ := parsed
  by_cases digit : isDigit c = true
  · rw [read_digit digit (by omega) (by omega), value_concat]
    constructor
    · intro next read
      split at read
      next => cases read
      next small =>
        cases read
        have more := Parsed.intro parts (part ++ [c]) fits octets (by
          intro b member
          obtain inside | last := List.mem_append.mp member
          · exact digits b inside
          · rw [List.mem_singleton.mp last]
            exact digit) (by omega)
        rw [List.append_assoc]
        simpa using more
    · intro read
      split at read <;> cases read
  by_cases separator : c = dot
  · subst separator
    rw [read_dot]
    by_cases nonempty : part = []
    · simp [nonempty]
    have octet : ∀ p ∈ parts ++ [part], Octet p := by
      intro p member
      obtain inside | last := List.mem_append.mp member
      · exact octets p inside
      · rw [List.mem_singleton.mp last]
        exact ⟨⟨nonempty, digits⟩, value⟩
    rw [if_pos (decide_eq_true nonempty), List.append_assoc, ← dotted_concat]
    constructor
    · intro next read
      split at read
      next => cases read
      next count counted =>
        cases read
        obtain ⟨fits', rfl⟩ := checkedInt_eq_some counted
        have more := Parsed.intro (parts ++ [part]) [] (by simpa using fits') octet (by simp)
          (by simp)
        simpa using more
    · intro read
      split at read
      next full =>
        refine ⟨parts ++ [part], ?_, octet, rfl⟩
        have past := checkedInt_eq_none_iff.mp full
        unfold FitsInt32 at fits past
        rw [List.length_append, List.length_singleton]
        omega
      next => cases read
  · simp [OctetScan.read, digit, separator]

/-- The same for all that is read. -/
theorem Parsed.readAll {front : List UInt8} {scan : OctetScan} (parsed : Parsed front scan)
    (back : List UInt8) :
    (∀ last, scan.readAll back = .goesOn last → Parsed (front ++ back) last) ∧
    (scan.readAll back = .overflows → ∃ parts, parts.length = 2 ^ 31 ∧ (∀ p ∈ parts, Octet p) ∧
      dotted parts <+: front ++ back) := by
  induction back generalizing front scan with
  | nil =>
    refine ⟨fun last read => ?_, fun read => nomatch read⟩
    cases read
    simpa using parsed
  | cons c back ih =>
    obtain ⟨goes, full⟩ := parsed.read c
    have split : front ++ c :: back = front ++ [c] ++ back := by simp
    rw [OctetScan.readAll, split]
    cases step : scan.read c with
    | goesOn next => exact ih (goes next step)
    | returnsFalse => exact ⟨fun last read => (nomatch read), fun read => nomatch read⟩
    | overflows =>
      refine ⟨fun last read => (nomatch read), fun _ => ?_⟩
      obtain ⟨parts, count, octets, same⟩ := full step
      exact ⟨parts, count, octets, same ▸ List.prefix_append ..⟩

theorem parsed_of_readAll {text : List UInt8} {scan : OctetScan}
    (read : OctetScan.start.readAll text = .goesOn scan) : Parsed text scan :=
  (parsed_start.readAll text).1 scan read

/-- What is behind is read from where the loop stands. -/
theorem readAll_append (scan : OctetScan) (front back : List UInt8) :
    scan.readAll (front ++ back) =
      match scan.readAll front with
      | .goesOn next => next.readAll back
      | ended => ended := by
  induction front generalizing scan with
  | nil => rfl
  | cons c front ih =>
    rw [List.cons_append, OctetScan.readAll, OctetScan.readAll]
    cases scan.read c with
    | goesOn next => exact ih next
    | returnsFalse => rfl
    | overflows => rfl

theorem readAll_digits (k : Int) (done : List UInt8) {part : List UInt8}
    (digits : ∀ b ∈ part, isDigit b = true) (value : decimalValue (done ++ part) ≤ 255) :
    OctetScan.readAll ⟨k, decimalValue done, decide (done ≠ [])⟩ part =
      .goesOn ⟨k, decimalValue (done ++ part), decide (done ++ part ≠ [])⟩ := by
  induction part generalizing done with
  | nil => simp [OctetScan.readAll]
  | cons b part ih =>
    have split : done ++ b :: part = done ++ [b] ++ part := by simp
    rw [split] at value ⊢
    have before := decimalValue_le_append done [b]
    have after := decimalValue_le_append (done ++ [b]) part
    have later := ih (done ++ [b]) (fun d member => digits d (List.mem_cons_of_mem b member)) value
    rw [OctetScan.readAll, read_digit (digits b List.mem_cons_self) (by omega) (by omega),
      value_concat, if_neg (by omega)]
    simpa using later

/-- An octet and its dot are counted. -/
theorem readAll_octet (k : Int) {part : List UInt8} (octet : Octet part) :
    OctetScan.readAll ⟨k, 0, false⟩ (part ++ [dot]) =
      match checkedInt (k + 1) with
      | none => .overflows
      | some octets => .goesOn ⟨octets, 0, false⟩ := by
  have read := readAll_digits k [] octet.digits.all octet.value
  have nonempty := octet.digits.nonempty
  rw [List.nil_append, decide_eq_true nonempty] at read
  have begun : OctetScan.readAll ⟨k, 0, false⟩ part = .goesOn ⟨k, decimalValue part, true⟩ := read
  rw [readAll_append, begun]
  dsimp only
  rw [OctetScan.readAll, read_dot, if_pos rfl]
  cases checkedInt (k + 1) with
  | none => rfl
  | some octets => rfl

theorem readAll_dotted {parts : List (List UInt8)} (octets : ∀ p ∈ parts, Octet p) (k : Nat)
    (fits : FitsInt32 (k + parts.length : Nat)) :
    OctetScan.readAll ⟨k, 0, false⟩ (dotted parts) =
      .goesOn ⟨(k + parts.length : Nat), 0, false⟩ := by
  induction parts generalizing k with
  | nil => rfl
  | cons part parts ih =>
    have length : k + (part :: parts).length = k + 1 + parts.length := by
      rw [List.length_cons]
      omega
    rw [length] at fits ⊢
    have fits' : FitsInt32 ((k : Int) + 1) := by
      unfold FitsInt32 at fits ⊢
      omega
    have first := readAll_octet k (octets part List.mem_cons_self)
    rw [checkedInt_of_fits fits'] at first
    rw [dotted, List.flatMap_cons, readAll_append, first]
    exact ih (fun p member => octets p (List.mem_cons_of_mem part member)) (k + 1) fits

/-- The end counts the last octet as a dot behind it would. -/
theorem finish_eq (rest : List UInt8) :
    OctetScan.finish (OctetScan.start.readAll rest) =
      match OctetScan.start.readAll (rest ++ [dot]) with
      | .overflows => none
      | .returnsFalse => some false
      | .goesOn scan => some (decide (scan.octets = 3)) := by
  rw [readAll_append]
  cases OctetScan.start.readAll rest with
  | returnsFalse => rfl
  | overflows => rfl
  | goesOn scan =>
    dsimp only [OctetScan.finish]
    rw [OctetScan.readAll, read_dot]
    by_cases digit : scan.anyDigit = true
    · rw [if_pos digit, if_pos digit]
      cases checkedInt (scan.octets + 1) with
      | none => rfl
      | some octets => rfl
    · rw [if_neg digit, if_neg digit]

/-- The count leaves the range of int exactly when it reaches 2^31 octets. -/
theorem overflows_iff (text : List UInt8) :
    OctetScan.start.readAll text = .overflows ↔
      ∃ parts, parts.length = 2 ^ 31 ∧ (∀ p ∈ parts, Octet p) ∧ dotted parts <+: text := by
  constructor
  · intro full
    exact (parsed_start.readAll text).2 full
  · intro many
    obtain ⟨parts, count, octets, tail, rfl⟩ := many
    obtain rfl | ⟨counted, last, rfl⟩ := parts.eq_nil_or_concat'
    · cases count
    rw [List.length_append, List.length_singleton] at count
    have inside : ∀ p ∈ counted, Octet p := fun p member =>
      octets p (List.mem_append_left _ member)
    have before := readAll_dotted inside 0 (by
      unfold FitsInt32
      omega)
    have full : checkedInt ((0 + counted.length : Nat) + 1) = none := by
      rw [checkedInt_eq_none_iff]
      unfold FitsInt32
      omega
    have reached := readAll_octet (0 + counted.length : Nat)
      (octets last (List.mem_append_right _ (List.mem_singleton_self _)))
    rw [full] at reached
    have start : OctetScan.start = ⟨(0 : Nat), 0, false⟩ := rfl
    rw [start, dotted_concat, List.append_assoc, readAll_append, before]
    dsimp only
    rw [readAll_append, reached]

/-- Three octets are counted exactly in the address of a loopback host. -/
theorem three_iff (rest : List UInt8) :
    (∃ scan, OctetScan.start.readAll (rest ++ [dot]) = .goesOn scan ∧ scan.octets = 3) ↔
      Loopback (loopbackPrefix ++ rest) := by
  constructor
  · intro counted
    obtain ⟨scan, read, three⟩ := counted
    generalize whole : rest ++ [dot] = text at read
    obtain ⟨parts, part, -, octets, digits, -⟩ := parsed_of_readAll read
    -- the last byte is a dot, so nothing is left of a next octet
    obtain rfl | ⟨front, last, rfl⟩ := part.eq_nil_or_concat'
    · match parts, Int.ofNat.inj three with
      | [a, b, c], _ =>
        have same : rest ++ [dot] = a ++ [dot] ++ (b ++ [dot] ++ c) ++ [dot] := by
          rw [whole]
          simp [dotted]
        rw [List.append_cancel_right same]
        exact .v4 a b c (octets a (by simp)) (octets b (by simp)) (octets c (by simp))
    · have ends := congrArg List.getLast? whole
      rw [← List.append_assoc, List.getLast?_concat, List.getLast?_concat] at ends
      have digit := digits last (by simp)
      rw [← Option.some.inj ends] at digit
      exact absurd digit (by decide)
  · intro loopback
    generalize whole : loopbackPrefix ++ rest = h at loopback
    cases loopback with
    | name => cases whole
    | v6 => cases whole
    | v4 a b c first second third =>
      rw [List.append_cancel_left whole]
      have octets : ∀ p ∈ [a, b, c], Octet p := by
        intro p member
        simp only [List.mem_cons, List.not_mem_nil, or_false] at member
        obtain rfl | rfl | rfl := member
        · exact first
        · exact second
        · exact third
      have text : a ++ [dot] ++ (b ++ [dot] ++ c) ++ [dot] = dotted [a, b, c] := by simp [dotted]
      have three : FitsInt32 3 := by decide
      rw [text]
      exact ⟨_, readAll_dotted octets 0 three, rfl⟩

/-- A digit is read behind a value of at most 255. -/
theorem values_bounded (host : List UInt8) : ValuesBounded host := by
  intro rest _ front c _ scan read digit
  obtain ⟨parts, part, -, -, -, value⟩ := parsed_of_readAll read
  have bound := digitValue_le digit
  dsimp only
  omega

theorem isLocalhostHost_v4 {host rest : List UInt8}
    (behind : host.map toLower = loopbackPrefix ++ rest) :
    isLocalhostHost host = OctetScan.finish (OctetScan.start.readAll rest) := by
  unfold isLocalhostHost
  rw [behind]
  dsimp only
  rw [if_neg, if_pos (List.prefix_append ..), List.drop_left]
  intro named
  obtain same | same := named <;> cases same

/-- Every other host is looked up among the names. -/
theorem recognises_other {host : List UInt8}
    (other : ∀ rest, host.map toLower ≠ loopbackPrefix ++ rest) : Recognises host := by
  unfold Recognises isLocalhostHost
  generalize host.map toLower = h at other
  dsimp only
  by_cases named : h = localhostName ∨ h = loopbackV6
  · refine ⟨true, if_pos named, fun _ => ?_, fun _ => rfl⟩
    obtain rfl | rfl := named
    · exact .name
    · exact .v6
  · have outside : ¬ loopbackPrefix <+: h := fun ⟨rest, same⟩ => other rest same.symm
    refine ⟨false, by rw [if_neg named, if_neg outside], fun no => (nomatch no), fun loopback => ?_⟩
    cases loopback with
    | name => exact absurd (.inl rfl) named
    | v6 => exact absurd (.inr rfl) named
    | v4 a b c => exact absurd rfl (other _)

/-- The values fit, and is_localhost_host is exact as long as the octets behind `127.` can be
counted in an int. -/
theorem recognises_iff (host : List UInt8) :
    ValuesBounded host ∧ (Recognises host ↔ ¬ TooManyOctets host) := by
  refine ⟨values_bounded host, ?_⟩
  by_cases v4 : ∃ rest, host.map toLower = loopbackPrefix ++ rest
  · obtain ⟨rest, behind⟩ := v4
    have many : TooManyOctets host ↔ OctetScan.start.readAll (rest ++ [dot]) = .overflows := by
      rw [overflows_iff]
      constructor
      · intro many
        obtain ⟨rest', behind', parts⟩ := many
        rw [List.append_cancel_left (behind.symm.trans behind')]
        exact parts
      · intro parts
        exact ⟨rest, behind, parts⟩
    have three := three_iff rest
    rw [many]
    unfold Recognises
    rw [isLocalhostHost_v4 behind, finish_eq, behind, ← three]
    cases OctetScan.start.readAll (rest ++ [dot]) with
    | overflows => simp
    | returnsFalse => simp
    | goesOn scan => simp
  · have other : ∀ rest, host.map toLower ≠ loopbackPrefix ++ rest :=
      fun rest same => v4 ⟨rest, same⟩
    constructor
    · intro _ many
      obtain ⟨rest, behind, -⟩ := many
      exact other rest behind
    · intro _
      exact recognises_other other

theorem le_length_dotted {parts : List (List UInt8)} (octets : ∀ p ∈ parts, Octet p) :
    2 * parts.length ≤ (dotted parts).length := by
  induction parts with
  | nil => exact le_refl 0
  | cons part parts ih =>
    have nonempty := List.length_pos_of_ne_nil (octets part List.mem_cons_self).digits.nonempty
    have later := ih fun p member => octets p (List.mem_cons_of_mem part member)
    rw [dotted] at later
    simp only [dotted, List.flatMap_cons, List.length_append, List.length_cons, List.length_nil]
    omega

/-- 2^31 octets do not fit into a string below four gigabytes. -/
theorem not_tooManyOctets {host : List UInt8} (short : host.length < 2 ^ 32) :
    ¬ TooManyOctets host := by
  intro many
  obtain ⟨rest, behind, parts, count, octets, front⟩ := many
  have long := le_length_dotted octets
  have room := front.length_le
  have size := congrArg List.length behind
  have opening : loopbackPrefix.length = 4 := rfl
  simp only [List.length_map, List.length_append, List.length_singleton] at room size
  omega

example : isLocalhostHost [49, 50, 55, 46, 48, 46, 48, 48, 46, 49] = some true := by decide

/-- `127.` and 2^31 octets of the value one -/
def endlessHost : List UInt8 := loopbackPrefix ++ dotted (List.replicate (2 ^ 31) [49])

/-- On a host of four gigabytes the count overflows. -/
theorem octets_overflow : ¬ ∀ host, Recognises host ∧ ValuesBounded host := by
  intro claimed
  refine (recognises_iff endlessHost).2.mp (claimed endlessHost).1 ?_
  have lower : ∀ n,
      (dotted (List.replicate n [49])).map toLower = dotted (List.replicate n [49]) := by
    intro n
    induction n with
    | zero => rfl
    | succ n ih =>
      rw [List.replicate_succ, dotted, List.flatMap_cons, List.map_append]
      exact congrArg (_ ++ ·) ih
  refine ⟨dotted (List.replicate (2 ^ 31) [49]), ?_, List.replicate (2 ^ 31) [49],
    List.length_replicate, ?_, List.prefix_append ..⟩
  · rw [endlessHost, List.map_append, lower]
    rfl
  · intro part member
    have one : isDigit 49 = true := by decide
    rw [List.eq_of_mem_replicate member]
    exact ⟨⟨by simp, by simpa using one⟩, by decide⟩

end PnC.Guarantees.LoopbackHosts
