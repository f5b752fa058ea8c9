import Mathlib.Data.List.Basic

/-!
# Streams that are moved in pieces

A call that is offered some items moves at least one of them, how many is the choice of
its environment. A loop of calls moves all of them, whatever is chosen.
-/
namespace PnC.Library

universe u
variable {α : Type u}

/-- How many of the offered items a call moves. -/
def moved (choice offered : Nat) : Nat := min (choice + 1) offered

theorem moved_pos (choice offered : Nat) (offers : 0 < offered) :
    0 < moved choice offered := by
  unfold moved
  omega

theorem moved_le (choice offered : Nat) : moved choice offered ≤ offered :=
  Nat.min_le_right ..

/-- What a loop of calls puts on the stream, each offered the items that are left. -/
def sendAll (choices : Nat → Nat) (call : Nat) (items : List α) : List α :=
  if items = [] then []
  else
    let n := moved (choices call) items.length
    items.take n ++ sendAll choices (call + 1) (items.drop n)
termination_by items.length
decreasing_by
  have nonempty := List.length_pos_iff.mpr ‹items ≠ []›
  have progress := moved_pos (choices call) items.length nonempty
  rw [List.length_drop]
  omega

/-- What a loop of calls takes from the stream until it has the items it wants, and what
it leaves there; `none` when the stream ends before. -/
def readAll (choices : Nat → Nat) (call want : Nat) (stream : List α) :
    Option (List α × List α) :=
  if want = 0 then some ([], stream)
  else if stream = [] then none
  else
    let n := moved (choices call) (min want stream.length)
    (readAll choices (call + 1) (want - n) (stream.drop n)).map
      fun (taken, rest) => (stream.take n ++ taken, rest)
termination_by want
decreasing_by
  have nonempty := List.length_pos_iff.mpr ‹stream ≠ []›
  have progress := moved_pos (choices call) (min want stream.length) (by omega)
  omega

/-- Everything is sent, in order. -/
theorem sendAll_eq (choices : Nat → Nat) (call : Nat) (items : List α) :
    sendAll choices call items = items := by
  fun_induction sendAll choices call items with
  | case1 => rfl
  | case2 call items nonempty n ih => rw [ih, List.take_append_drop]

/-- What is read depends on the stream alone. -/
theorem readAll_eq (choices : Nat → Nat) (call want : Nat) (stream : List α) :
    readAll choices call want stream =
      if want ≤ stream.length then some (stream.take want, stream.drop want) else none := by
  fun_induction readAll choices call want stream with
  | case1 => simp
  | case2 call want nothing =>
    rw [if_neg]
    simpa using nothing
  | case3 call want stream wanted nonempty n ih =>
    have offers := List.length_pos_iff.mpr nonempty
    have progress := moved_pos (choices call) (min want stream.length) (by omega)
    have bound : n ≤ min want stream.length := moved_le ..
    rw [ih, List.length_drop]
    by_cases enough : want ≤ stream.length
    · have split : n + (want - n) = want := by omega
      rw [if_pos (by omega), if_pos enough, Option.map_some]
      dsimp only
      rw [List.drop_drop, ← List.take_add, split]
    · rw [if_neg (by omega), if_neg enough, Option.map_none]

end PnC.Library
