/-
This file is about a value that changes at given times and keeps a record of its
changes, newest first. The record answers which value was in force at a time by
looking for the newest change that is not later. It is truthful if changes are
recorded in the order of their times: a new change at the end of the record leaves the
answer for every earlier time alone.
-/

import Mathlib.Data.List.Basic

namespace MegaEvm.Library

variable {Value : Type}

/-- A value with the changes it went through, newest first, each with the time it took effect. -/
structure Timeline (Value : Type) where
  initial : Value
  changes : List (Nat × Value)

namespace Timeline

/-- The value in force at a time. -/
def valueAt (timeline : Timeline Value) (time : Nat) : Value :=
  match timeline.changes.find? fun change => change.1 ≤ time with
  | some change => change.2
  | none => timeline.initial

/-- The value after all changes. -/
def latest (timeline : Timeline Value) : Value :=
  (timeline.changes.head?.map Prod.snd).getD timeline.initial

/-- Record a change. -/
def push (timeline : Timeline Value) (time : Nat) (value : Value) : Timeline Value :=
  { timeline with changes := (time, value) :: timeline.changes }

@[simp] theorem latest_push (timeline : Timeline Value) (time : Nat) (value : Value) :
    (timeline.push time value).latest = value := rfl

/-- A change does not reach back. -/
theorem valueAt_push_of_lt (timeline : Timeline Value) {time earlier : Nat} (value : Value)
    (before : earlier < time) :
    (timeline.push time value).valueAt earlier = timeline.valueAt earlier := by
  have later : ¬ time ≤ earlier := Nat.not_le.mpr before
  simp [valueAt, push, later]

/-- Once the newest change is past, the latest value is in force. -/
theorem valueAt_of_past {timeline : Timeline Value} {time : Nat}
    (past : ∀ change ∈ timeline.changes, change.1 ≤ time) :
    timeline.valueAt time = timeline.latest := by
  obtain ⟨initial, changes⟩ := timeline
  rcases changes with _ | ⟨newest, older⟩
  · rfl
  · have reached : newest.1 ≤ time := past newest (List.mem_cons_self ..)
    simp [valueAt, latest, reached]

end Timeline

end MegaEvm.Library
