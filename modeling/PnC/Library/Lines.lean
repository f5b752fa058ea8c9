import Mathlib.Data.List.Basic

/-!
# Texts of lines

Every line is ended by a terminator. A text that is appended to whole lines adds its own lines
to theirs, and lines without the terminator in them are read back.
-/
namespace PnC.Library

universe u
variable {α : Type u}

/-- The ended lines of a text; what follows the last terminator is none. -/
def lines [DecidableEq α] (terminator : α) (text : List α) : List (List α) :=
  (text.splitOn terminator).dropLast

/-- No line has been begun. -/
def Ended (terminator : α) (text : List α) : Prop := text = [] ∨ ∃ front, text = front ++ [terminator]

variable {terminator : α} {text line : List α} {written : List (List α)}

theorem ended_line (text line : List α) : Ended terminator (text ++ (line ++ [terminator])) :=
  .inr ⟨text ++ line, (List.append_assoc ..).symm⟩

variable [DecidableEq α]

theorem lines_ended_front (front more : List α) :
    lines terminator (front ++ terminator :: more) =
      front.splitOn terminator ++ lines terminator more := by
  rw [lines, List.splitOn_append_cons_self,
    List.dropLast_append_of_ne_nil (List.splitOn_ne_nil terminator more), lines]

theorem lines_append (ended : Ended terminator text) (more : List α) :
    lines terminator (text ++ more) = lines terminator text ++ lines terminator more := by
  obtain rfl | ⟨front, rfl⟩ := ended
  · simp [lines]
  · rw [List.append_assoc, List.singleton_append, lines_ended_front, lines_ended_front]
    simp [lines]

theorem lines_line (clear : terminator ∉ line) :
    lines terminator (line ++ [terminator]) = [line] := by
  rw [lines_ended_front, List.splitOn_eq_singleton clear]
  simp [lines]

/-- Lines that are appended one after the other. -/
theorem lines_written (ended : Ended terminator text)
    (clear : ∀ line ∈ written, terminator ∉ line) :
    lines terminator (text ++ written.flatMap (· ++ [terminator])) =
      lines terminator text ++ written := by
  induction written generalizing text with
  | nil => simp
  | cons line rest ih =>
    rw [List.flatMap_cons, ← List.append_assoc,
      ih (ended_line text line) fun other member => clear other (List.mem_cons_of_mem _ member),
      lines_append ended, lines_line (clear line List.mem_cons_self), List.append_assoc,
      List.singleton_append]

end PnC.Library
