/-
This file says what the hooks of the limits do to the rescued gas. Only a hook that is
offered the gas of a frame adds to it, and only when it leaves an exceed of the whole
transaction latched, whether it found the exceed or latched it itself.
-/

import MegaEvm.Limit.Stacks

namespace MegaEvm

namespace AdditionalLimit

variable (limit : AdditionalLimit)

/-- The gas of a frame that may be rescued, with its stipend on top of the stack. -/
def rescuable (gas : Gas) : Nat :=
  limit.storageCallStipend.effectiveRemainingForRescue gas

theorem rescuable_of_rex5 {limit : AdditionalLimit} (rex5 : limit.setup.stipendRex5 = true)
    (gas : Gas) : limit.rescuable gas = gas.remaining :=
  if_pos rex5

theorem tryRescueGas_hasExceededLimit (gas : Gas) :
    (limit.tryRescueGas gas).hasExceededLimit = limit.checkLimit.hasExceededLimit := by
  rw [tryRescueGas]
  split <;> rfl

/-- Gas is rescued exactly if an exceed of the transaction is latched afterwards. -/
theorem tryRescueGas_rescuedGas (gas : Gas) :
    (limit.tryRescueGas gas).rescuedGas =
      limit.rescuedGas +
        if (limit.tryRescueGas gas).hasExceededLimit.IsTxExceed then limit.rescuable gas
        else 0 := by
  rw [tryRescueGas_hasExceededLimit]
  by_cases exceeds : limit.checkLimit.hasExceededLimit.IsTxExceed
  · have rescues : (limit.checkLimit.limitExceeded &&
        !limit.checkLimit.hasExceededLimit.isFrameLocal) = true := by
      rw [limitExceeded, exceeds.exceeded, exceeds.notFrameLocal]
      rfl
    rw [if_pos exceeds, tryRescueGas]
    simp only [rescues, if_true, rescueGas, checkLimit_rescuedGas, checkLimit_storageCallStipend,
      rescuable]
  · have keeps : (limit.checkLimit.limitExceeded &&
        !limit.checkLimit.hasExceededLimit.isFrameLocal) = false := by
      refine Bool.eq_false_iff.mpr fun rescues => exceeds ?_
      rw [Bool.and_eq_true, Bool.not_eq_true'] at rescues
      exact LimitCheck.isTxExceed_of rescues.1 rescues.2
    rw [if_neg exceeds, tryRescueGas]
    simp only [keeps, Bool.false_eq_true, if_false, checkLimit_rescuedGas, Nat.add_zero]

variable (result : FrameResult) (gasRemainingBefore : Option Nat)

/-- The end of a frame records compute gas and offers the gas of the result. -/
theorem afterFrameRun_eq_tryRescueGas :
    ∃ computeGas verdict, (limit.afterFrameRun result gasRemainingBefore).1 =
      { limit with computeGas, hasExceededLimit := verdict }.tryRescueGas result.gas := by
  cases gasRemainingBefore with
  | none => exact ⟨limit.computeGas, limit.hasExceededLimit, rfl⟩
  | some before =>
    obtain ⟨verdict, equation⟩ := limit.recordComputeGas_eq (before - result.gas.remaining)
    refine ⟨limit.computeGas.recordGasUsed (before - result.gas.remaining), verdict, ?_⟩
    rw [afterFrameRun_fst, ← equation]

/-- The end of a frame rescues the gas of its result. -/
theorem afterFrameRun_rescuedGas :
    (limit.afterFrameRun result gasRemainingBefore).1.rescuedGas =
      limit.rescuedGas +
        if (limit.afterFrameRun result gasRemainingBefore).1.hasExceededLimit.IsTxExceed then
          limit.rescuable result.gas
        else 0 := by
  obtain ⟨computeGas, verdict, equation⟩ :=
    limit.afterFrameRun_eq_tryRescueGas result gasRemainingBefore
  rw [equation]
  exact tryRescueGas_rescuedGas _ _

end AdditionalLimit

end MegaEvm
