/-
This file is about undo logs over a keyed state. A log entry names the key it changed
and how to undo the change; rolling back undoes the entries newest first. Rolling back
the entries of one key is a matter of that key's value alone, and a map of values that
commutes with every undo of a log carries the rolled-back state along.
-/

import Mathlib.Data.List.Basic
import Mathlib.Logic.Function.Basic

namespace MegaEvm.Library

variable {Key Value Image Change : Type}

/-- Undo the changes of one value, newest first. -/
def unwind (undo : Change → Value → Value) (changes : List Change) (value : Value) : Value :=
  changes.foldl (fun value change => undo change value) value

variable (undo : Change → Value → Value)

@[simp] theorem unwind_nil (value : Value) :
    unwind undo [] value = value := rfl

@[simp] theorem unwind_cons (change : Change) (changes : List Change) (value : Value) :
    unwind undo (change :: changes) value = unwind undo changes (undo change value) := rfl

theorem unwind_append (newer older : List Change) (value : Value) :
    unwind undo (newer ++ older) value = unwind undo older (unwind undo newer value) :=
  List.foldl_append ..

/-- A map that commutes with every undo of the log, on the values the rollback meets, commutes
with the rollback. `invariant` says which values those are. -/
theorem unwind_map (undoImage : Change → Image → Image) (image : Value → Image)
    (invariant : Value → Prop) (changes : List Change)
    (kept : ∀ change ∈ changes, ∀ value, invariant value → invariant (undo change value))
    (commutes : ∀ change ∈ changes, ∀ value, invariant value →
      image (undo change value) = undoImage change (image value))
    (value : Value) (holds : invariant value) :
    image (unwind undo changes value) = unwind undoImage changes (image value) := by
  induction changes generalizing value with
  | nil => rfl
  | cons change rest inductionHypothesis =>
    rw [unwind_cons, unwind_cons, ← commutes change List.mem_cons_self value holds]
    refine inductionHypothesis (fun other member => kept other (List.mem_cons_of_mem _ member))
      (fun other member => commutes other (List.mem_cons_of_mem _ member)) _ ?_
    exact kept change List.mem_cons_self value holds

variable [DecidableEq Key]

/-- Undo the entries of a log, newest first. -/
def rollback (undo : Change → Value → Value) (entries : List (Key × Change))
    (state : Key → Value) : Key → Value :=
  entries.foldl (fun state entry => Function.update state entry.1 (undo entry.2 (state entry.1)))
    state

/-- The changes a log holds for one key. -/
def changesOf (key : Key) (entries : List (Key × Change)) : List Change :=
  (entries.filter fun entry => entry.1 = key).map Prod.snd

theorem changesOf_cons_same (entry : Key × Change) (rest : List (Key × Change)) :
    changesOf entry.1 (entry :: rest) = entry.2 :: changesOf entry.1 rest := by
  simp only [changesOf, List.filter_cons, decide_true, if_true, List.map_cons]

theorem changesOf_cons_other {key : Key} (entry : Key × Change) (rest : List (Key × Change))
    (distinct : entry.1 ≠ key) : changesOf key (entry :: rest) = changesOf key rest := by
  unfold changesOf
  rw [List.filter_cons_of_neg (by simpa using distinct)]

/-- Rolling back is undoing, for every key, the changes of that key. -/
theorem rollback_apply (undo : Change → Value → Value) (entries : List (Key × Change))
    (state : Key → Value) (key : Key) :
    rollback undo entries state key = unwind undo (changesOf key entries) (state key) := by
  induction entries generalizing state with
  | nil => rfl
  | cons entry rest inductionHypothesis =>
    show rollback undo rest (Function.update state entry.1 (undo entry.2 (state entry.1))) key = _
    rw [inductionHypothesis]
    by_cases same : entry.1 = key
    · subst same
      rw [Function.update_self, changesOf_cons_same, unwind_cons]
    · rw [Function.update_of_ne (Ne.symm same), changesOf_cons_other entry rest same]

theorem changesOf_append (key : Key) (newer older : List (Key × Change)) :
    changesOf key (newer ++ older) = changesOf key newer ++ changesOf key older := by
  simp only [changesOf, List.filter_append, List.map_append]

theorem changesOf_same (key : Key) (changes : List Change) :
    changesOf key (changes.map fun change => (key, change)) = changes := by
  induction changes with
  | nil => rfl
  | cons change rest inductionHypothesis =>
    rw [List.map_cons, changesOf_cons_same (key, change), inductionHypothesis]

theorem changesOf_other {key other : Key} (changes : List Change) (distinct : other ≠ key) :
    changesOf other (changes.map fun change => (key, change)) = [] := by
  unfold changesOf
  rw [List.map_eq_nil_iff, List.filter_eq_nil_iff]
  intro entry member
  obtain ⟨change, _, rfl⟩ := List.mem_map.mp member
  simpa using distinct.symm

end MegaEvm.Library
