/-
This file is about the return of a frame that failed. Its discardable usage is dropped,
and so are its refunds, which other frames may have been counting on: the usage of the
transaction can rise above its limit only there. A frame that succeeded leaves the usage
as it is, and compute gas is neither discarded nor refunded.
-/

import Mathlib.Tactic.MkIffOfInductiveProp
import MegaEvm.Limit.Overshoot

namespace MegaEvm

open FrameLimitTracker LimitCheck

namespace FrameLimitTracker

variable {Info : Type} {tracker : FrameLimitTracker Info} {budgeted : Bool} {limit : Nat}

/-! ### Usage after a pop -/

/-- The net usage without what the top frame used until it reverts and without its refunds. -/
def revertedUsage (tracker : FrameLimitTracker Info) : Nat :=
  match tracker.frameStack with
  | entry :: _ =>
    tracker.cachedTotalUsed - entry.discardableUsage - (tracker.cachedTotalRefund - entry.refund)
  | [] => tracker.netUsage

/-- A frame that succeeds leaves the usage as it is; of one that fails the discardable usage and the
refunds are gone. -/
theorem netUsage_popFrame (tracker : FrameLimitTracker Info) (success : Bool) :
    (tracker.popFrame success).1.netUsage =
      if success then tracker.netUsage else tracker.revertedUsage := by
  obtain ⟨txEntry, _ | ⟨entry, _ | ⟨parent, below⟩⟩, rex4, rex5, rex6, used, refund, usedSynced,
    refundSynced⟩ := tracker
  · cases success <;> rfl
  · cases success <;> rfl
  · cases success <;> rfl

theorem netUsage_updateInfo (tracker : FrameLimitTracker Info) (update : Info → Info) :
    (tracker.updateInfo update).netUsage = tracker.netUsage := by
  obtain ⟨_, frames, _⟩ := tracker
  cases frames <;> rfl

theorem netUsage_popFrameUnwindParent (tracker : FrameLimitTracker CallFrameInfo) (success : Bool) :
    (tracker.popFrameUnwindParent success).netUsage =
      if success then tracker.netUsage else tracker.revertedUsage := by
  rw [← netUsage_popFrame, popFrameUnwindParent]
  rcases tracker.popFrame success with ⟨popped, _ | child⟩
  · rfl
  · dsimp only
    split
    · exact netUsage_updateInfo popped _
    · rfl

/-- A new frame has used nothing, so pushing one gives a tracker nothing to report. -/
theorem Fits.pushFrameWithLimit (fits : tracker.Fits budgeted limit) (frameLimit : Nat)
    (info : Info) : (tracker.pushFrameWithLimit frameLimit info).Fits budgeted limit := by
  refine ⟨fun _ entry member => ?_, fits.2⟩
  cases member
  exact Nat.zero_le _

theorem Fits.pushCallFrameInfo {tracker : FrameLimitTracker CallFrameInfo}
    (fits : tracker.Fits budgeted limit) (info : CallFrameInfo) :
    (tracker.pushCallFrameInfo info).Fits budgeted limit := by
  rw [FrameLimitTracker.pushCallFrameInfo]
  split <;> exact fits.pushFrameWithLimit _ _

/-- The check of the data size and of the key-value updates. -/
theorem checkAgainst_pushDummyFrame {tracker : FrameLimitTracker CallFrameInfo} {kind : LimitKind}
    (within : (tracker.checkAgainst kind tracker.txLimit).exceededLimit = false) :
    (tracker.pushDummyFrame.checkAgainst kind tracker.pushDummyFrame.txLimit).exceededLimit =
      false := by
  injection tracker.moves_pushDummyFrame.setup with rex4 _ _ txLimit
  rw [checkAgainst_eq_false_iff] at within ⊢
  rw [rex4, FrameLimitTracker.txLimit, txLimit]
  exact within.pushCallFrameInfo _

end FrameLimitTracker

/-! ### Trackers -/

theorem ComputeGasTracker.checkLimit_pushFrame {tracker : ComputeGasTracker}
    (within : tracker.checkLimit.exceededLimit = false) :
    tracker.pushFrame.checkLimit.exceededLimit = false := by
  rw [checkLimit_eq_false_iff] at within ⊢
  rw [pushFrame]
  split <;> exact within.pushFrameWithLimit _ _

theorem StateGrowthTracker.checkLimit_pushFrame {tracker : StateGrowthTracker}
    (within : tracker.checkLimit.exceededLimit = false) :
    tracker.pushFrame.checkLimit.exceededLimit = false := by
  rw [checkLimit_eq_false_iff] at within ⊢
  rw [pushFrame]
  split <;> exact within.pushFrameWithLimit _ _

theorem StateGrowthTracker.isTxExceed_checkLimit {tracker : StateGrowthTracker}
    (exceeds : tracker.checkLimit.IsTxExceed) :
    tracker.frameTracker.txLimit < tracker.frameTracker.netUsage := by
  obtain ⟨_, _, _, equation⟩ := exceeds
  rw [checkLimit] at equation
  split at equation
  · rw [exceedsCurrentFrameLimit] at equation
    split at equation
    · split at equation <;> cases equation
    · cases equation
  · split at equation
    · assumption
    · cases equation

/-! ### Frames that return -/

/-- The transaction keeps its limit when a frame returns, if it does so without what a failed frame
used and refunded. -/
theorem FrameLimitTracker.not_isTxExceed_of_reverts {Info : Type}
    {tracker popped : FrameLimitTracker Info} {kind : LimitKind} {success : Bool} {limit : Nat}
    (within : (tracker.checkAgainst kind limit).exceededLimit = false)
    (usage : popped.netUsage = if success then tracker.netUsage else tracker.revertedUsage)
    (reverts : success = false → tracker.revertedUsage ≤ limit) :
    ¬ (popped.checkAgainst kind limit).IsTxExceed := by
  intro exceeds
  have overrun := popped.isTxExceed_checkAgainst exceeds
  rw [usage] at overrun
  cases success with
  | true =>
    exact absurd overrun (Nat.not_lt.mpr
      ((tracker.checkAgainst_eq_false_iff kind limit).mp within).2)
  | false => exact absurd overrun (Nat.not_lt.mpr (reverts rfl))

section Trackers

variable {success : Bool}

/-- The data size and the key-value updates. -/
theorem FrameLimitTracker.not_isTxExceed_popped {tracker : FrameLimitTracker CallFrameInfo}
    {kind : LimitKind} (within : (tracker.checkAgainst kind tracker.txLimit).exceededLimit = false)
    (reverts : success = false → tracker.revertedUsage ≤ tracker.txLimit) :
    ¬ ((tracker.popFrameUnwindParent success).checkAgainst kind
      (tracker.popFrameUnwindParent success).txLimit).IsTxExceed := by
  injection (tracker.moves_popFrameUnwindParent success).setup with _ _ _ txLimit
  rw [FrameLimitTracker.txLimit, txLimit]
  exact not_isTxExceed_of_reverts within (tracker.netUsage_popFrameUnwindParent success) reverts

/-- Compute gas is never refunded, so no return of a frame raises it. -/
theorem ComputeGasTracker.not_isTxExceed_popped {tracker : ComputeGasTracker}
    (within : tracker.checkLimit.exceededLimit = false)
    (unrefunded : tracker.frameTracker.cachedTotalRefund = 0) :
    ¬ (tracker.beforeFrameReturnResult success).checkLimit.IsTxExceed := by
  have frameLimit : (tracker.beforeFrameReturnResult success).frameTracker.txLimit =
      tracker.frameTracker.txLimit := tracker.frameTracker.txLimit_popFrame success
  have txLimit : (tracker.beforeFrameReturnResult success).txLimit = tracker.txLimit :=
    congrArg (min · tracker.detainedLimit) frameLimit
  have total := (tracker.checkLimit_eq_false_iff.mp within).2
  rw [checkLimit, txLimit]
  refine not_isTxExceed_of_reverts within
    (tracker.frameTracker.netUsage_popFrame success) fun _ => ?_
  rw [netUsage, unrefunded, Nat.sub_zero] at total
  rw [revertedUsage]
  split
  · exact (Nat.sub_le _ _).trans ((Nat.sub_le _ _).trans total)
  · rw [netUsage]
    exact (Nat.sub_le _ _).trans total

theorem StateGrowthTracker.not_isTxExceed_popped {tracker : StateGrowthTracker}
    (within : tracker.checkLimit.exceededLimit = false)
    (reverts : success = false → tracker.frameTracker.revertedUsage ≤
      tracker.frameTracker.txLimit) :
    ¬ (tracker.beforeFrameReturnResult success).checkLimit.IsTxExceed := by
  intro exceeds
  have overrun := isTxExceed_checkLimit exceeds
  have txLimit : (tracker.beforeFrameReturnResult success).frameTracker.txLimit =
      tracker.frameTracker.txLimit := tracker.frameTracker.txLimit_popFrame success
  have usage : (tracker.beforeFrameReturnResult success).frameTracker.netUsage =
      if success then tracker.frameTracker.netUsage else tracker.frameTracker.revertedUsage :=
    tracker.frameTracker.netUsage_popFrame success
  rw [txLimit, usage] at overrun
  cases success with
  | true => exact absurd overrun (Nat.not_lt.mpr (tracker.checkLimit_eq_false_iff.mp within).2)
  | false => exact absurd overrun (Nat.not_lt.mpr (reverts rfl))

end Trackers

namespace AdditionalLimit

variable {limit : AdditionalLimit}

/-! ### Frames that are answered at once -/

/-- A frame that is pushed for a call without an own run leaves clear limits clear. -/
theorem Clear.pushEmptyFrame (clear : limit.Clear) : limit.pushEmptyFrame.Clear :=
  clear.of_checks rfl checkAgainst_pushDummyFrame
    checkAgainst_pushDummyFrame ComputeGasTracker.checkLimit_pushFrame
    StateGrowthTracker.checkLimit_pushFrame

/-! ### Checked limits -/

/-- A check finds nothing that is not latched. -/
def Checked (limit : AdditionalLimit) : Prop :=
  limit.hasExceededLimit = .withinLimit → limit.Clear

theorem checked_checkLimit (limit : AdditionalLimit) : limit.checkLimit.Checked := by
  intro within
  refine clear_checkLimit ?_
  rw [limitExceeded, within]
  rfl

theorem checked_tryRescueGas (limit : AdditionalLimit) (gas : Gas) :
    (limit.tryRescueGas gas).Checked := by
  rw [tryRescueGas]
  split
  · intro within
    have clear := limit.checked_checkLimit within
    exact clear.of_checks rfl id id id id
  · exact limit.checked_checkLimit

theorem Checked.setComputeGasLimit (checked : limit.Checked)
    (rex4 : limit.computeGas.frameTracker.rex4Enabled = true)
    (fits : limit.computeGas.frameTracker.txLimit ≤ u64Max) (cap : Nat) :
    (limit.setComputeGasLimit cap).Checked :=
  fun within => (checked within).setComputeGasLimit rex4 fits cap

theorem Checked.recordComputeGas (checked : limit.Checked) (gas : Nat) :
    (limit.recordComputeGas gas).1.Checked := by
  intro within
  have goes : (limit.recordComputeGas gas).1.limitExceeded = false := by
    rw [limitExceeded, within]
    rfl
  refine Clear.recordComputeGas (checked ?_) goes
  by_contra latched
  have latched : limit.hasExceededLimit.isWithinLimit = false :=
    Bool.eq_false_iff.mpr fun isWithin =>
      latched ((isWithinLimit_iff _).mp isWithin)
  exact Bool.false_ne_true
    (latched.symm.trans (congrArg isWithinLimit
      ((recordComputeGas_verdict latched gas).symm.trans within)))

theorem Checked.pushEmptyFrame (checked : limit.Checked) : limit.pushEmptyFrame.Checked :=
  fun within => (checked within).pushEmptyFrame

/-! ### Frames that fail -/

/-- The transaction keeps its limits on data, key-value updates and state growth without what the
top frame used and refunded. -/
@[mk_iff] structure RevertsWithin (limit : AdditionalLimit) : Prop where
  dataSize : limit.dataSize.frameTracker.revertedUsage ≤ limit.dataSize.frameTracker.txLimit
  kvUpdate : limit.kvUpdate.frameTracker.revertedUsage ≤ limit.kvUpdate.frameTracker.txLimit
  stateGrowth :
    limit.stateGrowth.frameTracker.revertedUsage ≤ limit.stateGrowth.frameTracker.txLimit

instance (limit : AdditionalLimit) : Decidable limit.RevertsWithin :=
  decidable_of_iff' _ (revertsWithin_iff limit)

/-- The first exceed is the one of a tracker. -/
theorem firstExceed_cases (exceeds : limit.firstExceed.IsTxExceed) :
    limit.dataSize.checkLimit.IsTxExceed ∨ limit.kvUpdate.checkLimit.IsTxExceed ∨
      limit.computeGas.checkLimit.IsTxExceed ∨ limit.stateGrowth.checkLimit.IsTxExceed := by
  revert exceeds
  unfold firstExceed
  split_ifs
  · exact fun exceeds => Or.inl exceeds
  · exact fun exceeds => Or.inr (Or.inl exceeds)
  · exact fun exceeds => Or.inr (Or.inr (Or.inl exceeds))
  · exact fun exceeds => Or.inr (Or.inr (Or.inr exceeds))
  · rintro ⟨_, _, _, impossible⟩
    cases impossible

/-- The pop of a frame on clear limits latches no exceed of the transaction, unless the frame failed
and its refunds kept the transaction within. -/
theorem Clear.not_isTxExceed_poppedFrame (clear : limit.Clear)
    (unrefunded : limit.computeGas.frameTracker.cachedTotalRefund = 0) {result : FrameResult}
    (reverts : result.instructionResult.isOk = false → limit.hasExceededLimit = .withinLimit →
      limit.RevertsWithin) :
    ¬ (limit.poppedFrame result).checkLimit.hasExceededLimit.IsTxExceed := by
  intro exceeds
  obtain exempt | ⟨within, none⟩ := clear_iff.mp clear
  · have latched : (limit.poppedFrame result).hasExceededLimit.isWithinLimit = false :=
      congrArg isWithinLimit exempt
    rw [checkLimit_of_latched latched] at exceeds
    obtain ⟨_, _, _, equation⟩ := exceeds
    cases exempt.symm.trans equation
  · have isWithin : (limit.poppedFrame result).hasExceededLimit.isWithinLimit = true :=
      congrArg isWithinLimit within
    rw [checkLimit_of_within isWithin] at exceeds
    obtain ⟨data, kv, compute, growth⟩ := limit.firstExceed_eq_withinLimit_iff.mp none
    obtain overData | overKv | overCompute | overGrowth := firstExceed_cases exceeds
    · exact not_isTxExceed_popped data
        (fun failed => (reverts failed within).dataSize) overData
    · exact not_isTxExceed_popped kv
        (fun failed => (reverts failed within).kvUpdate) overKv
    · exact ComputeGasTracker.not_isTxExceed_popped compute unrefunded overCompute
    · exact StateGrowthTracker.not_isTxExceed_popped growth
        (fun failed => (reverts failed within).stateGrowth) overGrowth

/-- An exceed of the transaction that is latched after a frame returned is found by the check. -/
theorem isTxExceed_poppedFrame {lastFrame : Bool} {result : FrameResult}
    (exceeds :
      (limit.beforeFrameReturnResult lastFrame result).1.hasExceededLimit.IsTxExceed) :
    (limit.poppedFrame result).checkLimit.hasExceededLimit.IsTxExceed := by
  revert exceeds
  simp only [beforeFrameReturnResult]
  split_ifs
  · rintro ⟨_, _, _, impossible⟩
    cases impossible
  · exact id
  · exact id

/-- The return of a frame on checked limits latches no exceed of the transaction, unless the frame
failed and its refunds kept the transaction within. -/
theorem Checked.not_isTxExceed_beforeFrameReturnResult (checked : limit.Checked)
    (notLatched : ¬ limit.hasExceededLimit.IsTxExceed)
    (unrefunded : limit.computeGas.frameTracker.cachedTotalRefund = 0) {result : FrameResult}
    (reverts : result.instructionResult.isOk = false → limit.hasExceededLimit = .withinLimit →
      limit.RevertsWithin) (lastFrame : Bool) :
    ¬ (limit.beforeFrameReturnResult lastFrame result).1.hasExceededLimit.IsTxExceed := by
  intro exceeds
  have found := isTxExceed_poppedFrame exceeds
  cases verdict : limit.hasExceededLimit with
  | withinLimit =>
    exact (checked verdict).not_isTxExceed_poppedFrame unrefunded reverts found
  | exempt =>
    exact (clear_iff.mpr (Or.inl verdict)).not_isTxExceed_poppedFrame unrefunded reverts found
  | exceedsLimit =>
    have latched : (limit.poppedFrame result).hasExceededLimit.isWithinLimit = false :=
      congrArg isWithinLimit verdict
    rw [checkLimit_of_latched latched] at found
    exact notLatched found

end AdditionalLimit

end MegaEvm
