/-
This file takes apart computations that may fail. A sequence of steps that went
through went through at each step, and a check that went through did not apply.
-/

import Mathlib.Data.List.Basic

namespace MegaEvm.Library

variable {Error Value Result : Type} {step : Except Error Value} {result : Result}

/-- Steps in sequence went through if each of them did. -/
theorem bind_eq_ok {next : Value → Except Error Result} (through : step >>= next = .ok result) :
    ∃ value, step = .ok value ∧ next value = .ok result := by
  cases step with
  | error error => cases through
  | ok value => exact ⟨value, rfl, through⟩

/-- A check that went through did not apply. -/
theorem check_eq_ok {condition : Prop} [Decidable condition] {error : Error}
    {rest : Except Error Value} {value : Value}
    (through : (if condition then .error error else rest) = .ok value) :
    ¬ condition ∧ rest = .ok value := by
  split at through
  · cases through
  · next passed => exact ⟨passed, through⟩

/-- A step whose result is mapped went through if the step did. -/
theorem map_eq_ok {change : Value → Result} (through : change <$> step = .ok result) :
    ∃ value, step = .ok value ∧ change value = result := by
  cases step with
  | error error => cases through
  | ok value => exact ⟨value, rfl, Except.ok.inj through⟩

/-- Every result of a loop comes from one of its inputs. -/
theorem exists_of_mapM_eq_ok {step : Value → Except Error Result} {values : List Value}
    {results : List Result} (through : values.mapM step = .ok results) :
    ∀ result ∈ results, ∃ value ∈ values, step value = .ok result := by
  induction values generalizing results with
  | nil =>
    cases through
    intro result member
    exact nomatch member
  | cons value rest inductionHypothesis =>
    rw [List.mapM_cons] at through
    obtain ⟨first, ran, through⟩ := bind_eq_ok through
    obtain ⟨others, loop, through⟩ := bind_eq_ok through
    cases through
    intro result member
    rcases List.mem_cons.mp member with rfl | older
    · exact ⟨value, List.mem_cons_self .., ran⟩
    · obtain ⟨source, sourced, from_⟩ := inductionHypothesis loop result older
      exact ⟨source, List.mem_cons_of_mem _ sourced, from_⟩

/-- A computation that is observed to give something went through. -/
theorem exists_of_toOption {observe : Value → Result}
    (observed : step.toOption.map observe = some result) :
    ∃ value, step = .ok value ∧ observe value = result := by
  cases step with
  | error error => cases observed
  | ok value => exact ⟨value, rfl, Option.some.inj observed⟩

end MegaEvm.Library
