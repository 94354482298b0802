/-
This file says how far the compute gas of a transaction is over the limit in force. A
recording on usage within the limit takes it over by at most what was recorded; frames
that are pushed, capped or popped change nothing, since compute gas is never discarded
and never refunded; and from Rex4 on the cap of a detained transaction counts from what
it has used.
-/

import MegaEvm.Limit.Clear

namespace MegaEvm

namespace ComputeGasTracker

variable {tracker : ComputeGasTracker} {amount : Nat}

/-- Nothing was refunded, and the usage is over the limit in force by at most the amount. -/
structure OvershootsBy (tracker : ComputeGasTracker) (amount : Nat) : Prop where
  unrefunded : tracker.frameTracker.cachedTotalRefund = 0
  usage : tracker.frameTracker.cachedTotalUsed ≤ tracker.txLimit + amount

namespace OvershootsBy

theorem mono (overshoots : tracker.OvershootsBy 0) (amount : Nat) : tracker.OvershootsBy amount :=
  ⟨overshoots.unrefunded, overshoots.usage.trans (Nat.le_add_right _ _)⟩

theorem txUsage_le (overshoots : tracker.OvershootsBy amount) :
    tracker.txUsage ≤ tracker.txLimit + amount :=
  (Nat.sub_le _ _).trans overshoots.usage

/-- A check that finds nothing finds the usage within the limit. -/
theorem of_within (overshoots : tracker.OvershootsBy amount)
    (within : tracker.checkLimit.exceededLimit = false) : tracker.OvershootsBy 0 := by
  have total := (tracker.checkLimit_eq_false_iff.mp within).2
  rw [FrameLimitTracker.netUsage, overshoots.unrefunded, Nat.sub_zero] at total
  exact ⟨overshoots.unrefunded, total⟩

theorem reset (tracker : ComputeGasTracker) : tracker.reset.OvershootsBy 0 :=
  ⟨rfl, Nat.zero_le _⟩

theorem recordGasUsed (overshoots : tracker.OvershootsBy amount) (gas : Nat) :
    (tracker.recordGasUsed gas).OvershootsBy (amount + gas) := by
  obtain ⟨unrefunded, usage⟩ := overshoots
  obtain ⟨rex1, detained, ⟨txEntry, frames, rex4, rex5, rex6, used, refund, usedSynced,
    refundSynced⟩⟩ := tracker
  cases frames with
  | nil => exact ⟨unrefunded, (Nat.add_le_add_right usage gas).trans_eq (Nat.add_assoc _ _ _)⟩
  | cons =>
    exact ⟨unrefunded, (Nat.add_le_add_right usage gas).trans_eq (Nat.add_assoc _ _ _)⟩

theorem mergePersistentUsage (overshoots : tracker.OvershootsBy 0) (gas : Nat) :
    (tracker.mergePersistentUsage gas).OvershootsBy gas := by
  refine ⟨overshoots.unrefunded, ?_⟩
  exact Nat.add_le_add_right overshoots.usage gas

variable (overshoots : tracker.OvershootsBy amount)

include overshoots

theorem setDetainedLimit (rex4 : tracker.frameTracker.rex4Enabled = true)
    (fits : tracker.frameTracker.txLimit ≤ u64Max) (cap : Nat) :
    (tracker.setDetainedLimit cap).OvershootsBy amount := by
  obtain ⟨unrefunded, usage⟩ := overshoots
  refine ⟨unrefunded, ?_⟩
  simp only [ComputeGasTracker.setDetainedLimit, rex4, if_true, txLimit, txUsage,
    FrameLimitTracker.netUsage, unrefunded, Nat.sub_zero] at usage ⊢
  show tracker.frameTracker.cachedTotalUsed ≤ _
  omega

theorem pushFrame : tracker.pushFrame.OvershootsBy amount := by
  obtain ⟨unrefunded, usage⟩ := overshoots
  rw [ComputeGasTracker.pushFrame]
  split <;> exact ⟨unrefunded, usage⟩

theorem capCurrentFrameLimit (cap : Nat) :
    (tracker.capCurrentFrameLimit cap).OvershootsBy amount := by
  obtain ⟨unrefunded, usage⟩ := overshoots
  obtain ⟨rex1, detained, ⟨txEntry, frames, rex4, rex5, rex6, used, refund, usedSynced,
    refundSynced⟩⟩ := tracker
  cases frames <;> exact ⟨unrefunded, usage⟩

theorem beforeFrameReturnResult (success : Bool) :
    (tracker.beforeFrameReturnResult success).OvershootsBy amount := by
  obtain ⟨unrefunded, usage⟩ := overshoots
  obtain ⟨rex1, detained, ⟨txEntry, frames, rex4, rex5, rex6, used, refund, usedSynced,
    refundSynced⟩⟩ := tracker
  have unrefunded : refund = 0 := unrefunded
  subst unrefunded
  rcases frames with _ | ⟨entry, _ | ⟨parent, below⟩⟩
  · exact ⟨rfl, usage⟩
  all_goals
    cases success with
    | true => exact ⟨rfl, usage⟩
    | false => exact ⟨Nat.zero_sub _, (Nat.sub_le _ _).trans usage⟩

end OvershootsBy

end ComputeGasTracker

namespace AdditionalLimit

variable {limit : AdditionalLimit} {amount : Nat}

/-- The start of a frame leaves the compute gas of the transaction as it is. -/
theorem overshootsBy_pushedFrame (overshoots : limit.computeGas.OvershootsBy amount)
    (init : FrameInit) (growth : StateGrowthTracker) :
    (limit.pushedFrame init growth).computeGas.OvershootsBy amount := by
  simp only [pushedFrame, StorageCallStipendTracker.beforeFrameInit]
  split_ifs
  · exact overshoots.pushFrame
  · split
    · exact overshoots.pushFrame.capCurrentFrameLimit _
    · exact overshoots.pushFrame
  · exact overshoots.pushFrame

@[simp] theorem tryRescueGas_computeGas (gas : Gas) :
    (limit.tryRescueGas gas).computeGas = limit.computeGas := by
  obtain equation | equation := limit.tryRescueGas_cases gas <;> rw [equation] <;>
    exact limit.checkLimit_computeGas

theorem overshootsBy_checkLimit (overshoots : limit.computeGas.OvershootsBy amount) :
    limit.checkLimit.computeGas.OvershootsBy amount := by
  rw [checkLimit_computeGas]
  exact overshoots

theorem overshootsBy_tryRescueGas (overshoots : limit.computeGas.OvershootsBy amount) (gas : Gas) :
    (limit.tryRescueGas gas).computeGas.OvershootsBy amount := by
  rw [tryRescueGas_computeGas]
  exact overshoots

@[simp] theorem recordComputeGas_computeGas (gas : Nat) :
    (limit.recordComputeGas gas).1.computeGas = limit.computeGas.recordGasUsed gas := by
  obtain ⟨verdict, equation⟩ := limit.recordComputeGas_eq gas
  rw [equation]

@[simp] theorem afterFrameRunInstructions_computeGas (isCreate : Bool)
    (result : InterpreterResult) :
    (limit.afterFrameRunInstructions isCreate result).1.computeGas = limit.computeGas := by
  obtain equation | equation := limit.afterFrameRunInstructions_cases isCreate result <;>
    rw [equation]
  exact checkLimit_computeGas _

theorem afterFrameRun_computeGas (result : FrameResult) (gasRemainingBefore : Option Nat) :
    (limit.afterFrameRun result gasRemainingBefore).1.computeGas =
      match gasRemainingBefore with
      | some before => limit.computeGas.recordGasUsed (before - result.gas.remaining)
      | none => limit.computeGas := by
  rw [afterFrameRun_fst, tryRescueGas_computeGas]
  cases gasRemainingBefore with
  | none => rfl
  | some before => exact recordComputeGas_computeGas _

@[simp] theorem beforeFrameReturnResult_computeGas (lastFrame : Bool) (result : FrameResult) :
    (limit.beforeFrameReturnResult lastFrame result).1.computeGas =
      limit.computeGas.beforeFrameReturnResult result.instructionResult.isOk := by
  have checked := checkLimit_computeGas (limit.poppedFrame result)
  obtain equation | equation := limit.beforeFrameReturnResult_cases lastFrame result <;>
    rw [equation] <;> exact checked

/-- On clear limits the compute gas is within its limit, unless the transaction is exempt. -/
theorem Clear.overshootsBy (clear : limit.Clear)
    (overshoots : limit.computeGas.OvershootsBy amount) :
    limit.hasExceededLimit = .exempt ∨ limit.computeGas.OvershootsBy 0 := by
  obtain exempt | ⟨_, none⟩ := clear_iff.mp clear
  · exact Or.inl exempt
  · obtain ⟨_, _, compute, _⟩ := limit.firstExceed_eq_withinLimit_iff.mp none
    exact Or.inr (overshoots.of_within compute)

/-- A verdict that is neither an exceed nor an exemption is one of within. -/
theorem within_of_going (going : limit.limitExceeded = false)
    (metered : limit.hasExceededLimit ≠ .exempt) : limit.hasExceededLimit = .withinLimit := by
  rw [limitExceeded] at going
  cases verdict : limit.hasExceededLimit with
  | withinLimit => rfl
  | exempt => exact absurd verdict metered
  | exceedsLimit =>
    rw [verdict] at going
    cases going

variable (within : limit.hasExceededLimit = .withinLimit)

include within

/-- A check that latches nothing on a verdict of within finds every dimension within. -/
theorem within_checkLimit (goes : limit.checkLimit.limitExceeded = false) :
    limit.checkLimit.hasExceededLimit = .withinLimit ∧
      limit.computeGas.checkLimit.exceededLimit = false := by
  have clear : limit.Clear := goes
  rw [clear.checkLimit_eq]
  obtain exempt | ⟨_, none⟩ := clear_iff.mp clear
  · cases within.symm.trans exempt
  · exact ⟨within, (limit.firstExceed_eq_withinLimit_iff.mp none).2.2.1⟩

/-- Compute gas that is recorded without an exceed on a verdict of within is within its limit. -/
theorem within_recordComputeGas {gas : Nat}
    (goes : (limit.recordComputeGas gas).1.limitExceeded = false) :
    (limit.recordComputeGas gas).1.hasExceededLimit = .withinLimit ∧
      (limit.recordComputeGas gas).1.computeGas.checkLimit.exceededLimit = false := by
  have isWithin : limit.hasExceededLimit.isWithinLimit = true :=
    congrArg LimitCheck.isWithinLimit within
  revert goes
  simp only [recordComputeGas, isWithin, if_true]
  split
  · rename_i exceeded
    intro goes
    cases goes.symm.trans exceeded
  · rename_i notExceeded
    exact fun _ => ⟨within, Bool.eq_false_iff.mpr notExceeded⟩

end AdditionalLimit

end MegaEvm
