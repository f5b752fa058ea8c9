import PnC.Library.Lines
import PnC.Source.Message

/-!
# The result file of a consumer

file_result_sink.cpp without summary. The file is its text, which is only appended to. The
counters are int64_t and do not come near its end.
-/
namespace PnC.Source

open PnC.Library

structure FileResultSink where
  filePath : String
  maxFailures : Int
  maxDurationSec : Int
  /-- file_.is_open() -/
  isOpen : Bool
  total : Int
  successes : Int
  failures : Int
  /-- the text of the file -/
  contents : List Char

namespace FileResultSink

/-- The constructor, on a file with this text. -/
def new (filePath : String) (maxFailures maxDurationSec : Int) (isOpen : Bool)
    (contents : List Char) : FileResultSink :=
  ⟨filePath, maxFailures, maxDurationSec, isOpen, 0, 0, 0, contents⟩

/-- The counters of on_result. -/
def count (result : ResultMessage) (s : FileResultSink) : FileResultSink :=
  if result.status = "success" then { s with total := s.total + 1, successes := s.successes + 1 }
  else { s with total := s.total + 1, failures := s.failures + 1 }

/-- `sink_stats` -/
def stats (s : FileResultSink) : Json :=
  .object [("total", .numberInteger s.total), ("successes", .numberInteger s.successes),
    ("failures", .numberInteger s.failures)]

/-- `j["sink_stats"] = ...`; to_json has no such key. -/
def entry (result : ResultMessage) (s : FileResultSink) : Json :=
  match result.toJson with
  | .object fields => .object (fields ++ [("sink_stats", s.stats)])
  | j => j

/-- The write of one line. -/
def write (text : JsonText) (j : Json) (s : FileResultSink) : FileResultSink :=
  { s with contents := s.contents ++ ((text.dump j).toList ++ ['\n']) }

def onResult (text : JsonText) (result : ResultMessage) (s : FileResultSink) : FileResultSink :=
  let counted := s.count result
  if s.isOpen then counted.write text (counted.entry result) else counted

/-- should_stop, so many seconds after the start. -/
def shouldStop (elapsed : Int) (s : FileResultSink) : Bool :=
  if 0 < s.maxFailures ∧ s.maxFailures ≤ s.failures then true
  else decide (0 < s.maxDurationSec ∧ s.maxDurationSec ≤ elapsed)

/-- The sink after some results. -/
def afterAll (text : JsonText) (s : FileResultSink) (results : List ResultMessage) :
    FileResultSink :=
  results.foldl (fun s result => s.onResult text result) s

/-- The documents of these lines. -/
def entries (s : FileResultSink) : List ResultMessage → List Json
  | [] => []
  | result :: rest => (s.count result).entry result :: (s.count result).entries rest

/-- What a reader of the file finds, line by line. -/
def read (text : JsonText) (contents : List Char) : List (Except Exception Json) :=
  (lines '\n' contents).map fun line => text.parse (String.ofList line)

variable {text : JsonText} {s : FileResultSink} {result : ResultMessage}
  {results : List ResultMessage}

theorem afterAll_snoc :
    s.afterAll text (results ++ [result]) = (s.afterAll text results).onResult text result := by
  simp [afterAll]

def succeeded (result : ResultMessage) : Bool := decide (result.status = "success")

/-- The line of a result is read as the result. -/
theorem fromJson_entry (result : ResultMessage) (s : FileResultSink) :
    ResultMessage.fromJson (s.entry result) = .ok { result with seq := toInt32 result.seq } := by
  obtain ⟨_, _, _, _, _, _, found, error⟩ := result
  cases found <;> cases error <;> rfl

theorem entry_stats (result : ResultMessage) (s : FileResultSink) :
    (s.entry result).find "sink_stats" = some s.stats := by
  obtain ⟨_, _, _, _, _, _, found, error⟩ := result
  cases found <;> cases error <;> rfl

theorem counted (result : ResultMessage) (s : FileResultSink) :
    (s.count result).total = s.total + 1 ∧
      (s.count result).successes = s.successes + [result].countP succeeded ∧
      (s.count result).failures = s.failures + [result].countP fun r => !succeeded r := by
  unfold count
  by_cases success : result.status = "success" <;> simp [success, succeeded]

/-- Writing leaves the counters alone, and counting the rest. -/
theorem onResult_eq (text : JsonText) (result : ResultMessage) (s : FileResultSink) :
    s.onResult text result = { s.count result with contents := (s.onResult text result).contents } := by
  unfold onResult write
  dsimp only
  split <;> rfl

/-- Counters that agree give the same documents. -/
theorem entries_contents (s : FileResultSink) (contents : List Char)
    (results : List ResultMessage) :
    entries { s with contents := contents } results = s.entries results := by
  induction results generalizing s with
  | nil => rfl
  | cons result rest ih =>
    have moved : count result { s with contents := contents } =
        { s.count result with contents := contents } := by
      unfold count
      split <;> rfl
    rw [entries, entries, moved, ih]
    rfl

theorem entries_onResult (s : FileResultSink) (result : ResultMessage) :
    (s.onResult text result).entries results = (s.count result).entries results := by
  rw [onResult_eq, entries_contents]

theorem isOpen_onResult : (s.onResult text result).isOpen = s.isOpen := by
  rw [onResult_eq]
  unfold count
  split <;> rfl

/-- The same sink at some later time. -/
structure Later (s t : FileResultSink) : Prop where
  maxFailures : t.maxFailures = s.maxFailures
  maxDurationSec : t.maxDurationSec = s.maxDurationSec
  failures : s.failures ≤ t.failures

theorem Later.refl (s : FileResultSink) : Later s s := ⟨rfl, rfl, Int.le_refl _⟩

theorem Later.trans {t u : FileResultSink} (first : Later s t) (second : Later t u) :
    Later s u :=
  ⟨second.maxFailures.trans first.maxFailures, second.maxDurationSec.trans first.maxDurationSec,
    Int.le_trans first.failures second.failures⟩

theorem later_onResult (text : JsonText) (result : ResultMessage) (s : FileResultSink) :
    Later s (s.onResult text result) := by
  have counts := (s.counted result).2.2
  rw [onResult_eq]
  refine ⟨?_, ?_, ?_⟩
  · unfold count
    split <;> rfl
  · unfold count
    split <;> rfl
  · dsimp only
    omega

theorem later_afterAll (text : JsonText) (s : FileResultSink) (results : List ResultMessage) :
    Later s (s.afterAll text results) := by
  induction results generalizing s with
  | nil => exact .refl s
  | cons result rest ih => exact (later_onResult text result s).trans (ih _)

theorem shouldStop_iff (s : FileResultSink) (elapsed : Int) :
    s.shouldStop elapsed = true ↔ (0 < s.maxFailures ∧ s.maxFailures ≤ s.failures) ∨
      (0 < s.maxDurationSec ∧ s.maxDurationSec ≤ elapsed) := by
  unfold shouldStop
  split
  next enough => exact iff_of_true rfl (.inl enough)
  next few => rw [decide_eq_true_iff, or_iff_right few]

/-- A sink that has asked to stop goes on asking. -/
theorem Later.shouldStop {t : FileResultSink} (later : Later s t) {elapsed further : Int}
    (order : elapsed ≤ further) (asks : s.shouldStop elapsed = true) :
    t.shouldStop further = true := by
  obtain ⟨maxFailures, maxDurationSec, failures⟩ := later
  rw [shouldStop_iff] at asks ⊢
  rw [maxFailures, maxDurationSec]
  omega

/-- The counters after some results. -/
theorem counted_afterAll (text : JsonText) (s : FileResultSink) (results : List ResultMessage) :
    (s.afterAll text results).total = s.total + results.length ∧
      (s.afterAll text results).successes = s.successes + results.countP succeeded ∧
      (s.afterAll text results).failures = s.failures + results.countP fun r => !succeeded r := by
  induction results generalizing s with
  | nil => simp [afterAll]
  | cons result rest ih =>
    have here := s.counted result
    have step : (s.onResult text result).total = (s.count result).total ∧
        (s.onResult text result).successes = (s.count result).successes ∧
        (s.onResult text result).failures = (s.count result).failures := by
      rw [onResult_eq]
      exact ⟨rfl, rfl, rfl⟩
    have later := ih (s.onResult text result)
    rw [← List.singleton_append, List.countP_append, List.countP_append, List.length_append]
    change (afterAll text (s.onResult text result) rest).total = _ ∧
      (afterAll text (s.onResult text result) rest).successes = _ ∧
      (afterAll text (s.onResult text result) rest).failures = _
    simp only [List.length_singleton]
    omega

/-- The lines that some results append. -/
theorem contents_afterAll (opened : s.isOpen = true) :
    (s.afterAll text results).contents = s.contents ++
      ((s.entries results).map fun j => (text.dump j).toList).flatMap (· ++ ['\n']) := by
  induction results generalizing s with
  | nil => simp [afterAll, entries]
  | cons result rest ih =>
    have later := @ih (s.onResult text result) (isOpen_onResult.trans opened)
    rw [entries_onResult] at later
    have line : (s.onResult text result).contents =
        s.contents ++ ((text.dump ((s.count result).entry result)).toList ++ ['\n']) := by
      unfold onResult
      rw [if_pos opened]
      unfold write count
      split <;> rfl
    change (afterAll text (s.onResult text result) rest).contents = _
    rw [later, line, entries, List.map_cons, List.flatMap_cons, List.append_assoc]

/-- The whole lines of the file and what the results add to them. -/
theorem read_afterAll (opened : s.isOpen = true) (ended : Ended '\n' s.contents)
    (undone : ∀ j ∈ s.entries results, text.parse (text.dump j) = .ok j)
    (oneLine : ∀ j ∈ s.entries results, '\n' ∉ (text.dump j).toList) :
    read text (s.afterAll text results).contents =
      read text s.contents ++ (s.entries results).map .ok := by
  have clear : ∀ line ∈ (s.entries results).map fun j => (text.dump j).toList, '\n' ∉ line := by
    intro line member
    obtain ⟨j, there, rfl⟩ := List.mem_map.mp member
    exact oneLine j there
  rw [contents_afterAll opened, read, lines_written ended clear, List.map_append, List.map_map]
  refine congrArg (read text s.contents ++ ·) (List.map_congr_left ?_)
  intro j there
  simp only [Function.comp_apply, String.ofList_toList]
  exact undone j there

/-- The document of the result at a place, with the counters up to it. -/
theorem entries_getElem? {i : Nat} (here : results[i]? = some result) :
    ∃ t : FileResultSink, (s.entries results)[i]? = some (t.entry result) ∧
      t.total = s.total + (i + 1 : Nat) ∧
      t.successes = s.successes + (results.take (i + 1)).countP succeeded ∧
      t.failures = s.failures + (results.take (i + 1)).countP fun r => !succeeded r := by
  induction results generalizing s i with
  | nil => cases here
  | cons first rest ih =>
    have counts := s.counted first
    cases i with
    | zero =>
      cases here
      exact ⟨s.count result, rfl, counts⟩
    | succ i =>
      obtain ⟨t, there, total, successes, failures⟩ := @ih (s.count first) i here
      refine ⟨t, there, ?_⟩
      rw [List.take_succ_cons, ← List.singleton_append, List.countP_append, List.countP_append]
      omega

theorem entries_front (s : FileResultSink) (results more : List ResultMessage) :
    s.entries results <+: s.entries (results ++ more) := by
  induction results generalizing s with
  | nil => exact List.nil_prefix
  | cons result rest ih => exact List.prefix_cons_inj _ |>.mpr (ih (s.count result))

theorem length_entries : (s.entries results).length = results.length := by
  induction results generalizing s with
  | nil => rfl
  | cons result rest ih => simp [entries, ih]

end FileResultSink

end PnC.Source
