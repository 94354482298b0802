/-
This file is about limits before the first frame of a transaction. What is recorded
there is charged to the transaction itself and nothing is refunded, so usage only adds
up. Every record ends with a check of what it recorded, so limits that latch no exceed
have none.
-/

import MegaEvm.Limit.Clear

namespace MegaEvm

open FrameLimitTracker ComputeGasTracker LimitCheck

/-! ### Usage -/

namespace LimitUsage

/-- The usage of two parts of a transaction. -/
def add (usage other : LimitUsage) : LimitUsage where
  dataSize := usage.dataSize + other.dataSize
  kvUpdates := usage.kvUpdates + other.kvUpdates
  computeGas := usage.computeGas + other.computeGas
  stateGrowth := usage.stateGrowth + other.stateGrowth

/-- No dimension is over its limit. -/
structure Within (usage : LimitUsage) (limits : EvmTxRuntimeLimits) : Prop where
  dataSize : usage.dataSize ≤ limits.txDataSizeLimit
  kvUpdates : usage.kvUpdates ≤ limits.txKvUpdatesLimit
  computeGas : usage.computeGas ≤ limits.txComputeGasLimit
  stateGrowth : usage.stateGrowth ≤ limits.txStateGrowthLimit

end LimitUsage

theorem FrameLimitTracker.netUsage_addTxPersistent {Info : Type} {tracker : FrameLimitTracker Info}
    (unrefunded : tracker.cachedTotalRefund = 0) (amount : Nat) :
    (tracker.addTxPersistent amount).netUsage = tracker.netUsage + amount := by
  show tracker.cachedTotalUsed + amount - tracker.cachedTotalRefund =
    tracker.cachedTotalUsed - tracker.cachedTotalRefund + amount
  rw [unrefunded, Nat.sub_zero, Nat.sub_zero]

/-- Recording compute gas refunds nothing. -/
theorem ComputeGasTracker.refund_recordGasUsed (tracker : ComputeGasTracker) (gas : Nat) :
    (tracker.recordGasUsed gas).frameTracker.cachedTotalRefund =
      tracker.frameTracker.cachedTotalRefund := by
  rw [recordGasUsed_eq]
  dsimp only
  split
  · obtain ⟨txEntry, _ | ⟨entry, below⟩, _⟩ := tracker.frameTracker <;> rfl
  · rfl

namespace AdditionalLimit

variable {limit : AdditionalLimit}

/-! ### Nothing is refunded -/

structure Unrefunded (limit : AdditionalLimit) : Prop where
  stateGrowth : limit.stateGrowth.frameTracker.cachedTotalRefund = 0
  dataSize : limit.dataSize.frameTracker.cachedTotalRefund = 0
  kvUpdate : limit.kvUpdate.frameTracker.cachedTotalRefund = 0
  computeGas : limit.computeGas.frameTracker.cachedTotalRefund = 0

namespace Unrefunded

variable (unrefunded : limit.Unrefunded)

include unrefunded

theorem checkLimit : limit.checkLimit.Unrefunded := by
  obtain ⟨verdict, equation⟩ := limit.checkLimit_eq
  rw [equation]
  exact ⟨unrefunded.1, unrefunded.2, unrefunded.3, unrefunded.4⟩

theorem recordComputeGas (gas : Nat) : (limit.recordComputeGas gas).1.Unrefunded := by
  obtain ⟨verdict, equation⟩ := limit.recordComputeGas_eq gas
  rw [equation]
  exact ⟨unrefunded.1, unrefunded.2, unrefunded.3,
    (limit.computeGas.refund_recordGasUsed gas).trans unrefunded.4⟩

theorem setComputeGasLimit (cap : Nat) : (limit.setComputeGasLimit cap).Unrefunded :=
  ⟨unrefunded.1, unrefunded.2, unrefunded.3, unrefunded.4⟩

/-- Merged usage adds up with the usage so far. -/
theorem getUsage_mergeUsage (usage : LimitUsage) :
    (limit.mergeUsage usage).getUsage = limit.getUsage.add usage :=
  congr (congr (congr
    (congrArg LimitUsage.mk
      (netUsage_addTxPersistent unrefunded.dataSize usage.dataSize))
    (netUsage_addTxPersistent unrefunded.kvUpdate usage.kvUpdates))
    (netUsage_addTxPersistent unrefunded.computeGas usage.computeGas))
    (netUsage_addTxPersistent unrefunded.stateGrowth usage.stateGrowth)

end Unrefunded

/-! ### Records before the first frame -/

theorem checkLimit_idempotent (limit : AdditionalLimit) :
    limit.checkLimit.checkLimit = limit.checkLimit := by
  cases exceeded : limit.checkLimit.limitExceeded with
  | false => exact (clear_checkLimit exceeded).checkLimit_eq
  | true => exact checkLimit_of_latched (notWithin_of_exceeded exceeded)

/-- Limits on which everything was recorded before a frame started: no frame is active, nothing was
refunded, and an exceed, which is one of the transaction, is latched when there is one. -/
structure BeforeFrames (limit : AdditionalLimit) : Prop where
  empty : limit.AtHeight 0
  unrefunded : limit.Unrefunded
  notLocal : limit.hasExceededLimit.isFrameLocal = false
  reports : limit.limitExceeded = false → limit.Clear

/-- A check reports what there is to report. -/
theorem beforeFrames_checkLimit (empty : limit.AtHeight 0) (unrefunded : limit.Unrefunded)
    (notLocal : limit.hasExceededLimit.isFrameLocal = false) : limit.checkLimit.BeforeFrames :=
  ⟨limit.moves_checkLimit.atHeight empty, unrefunded.checkLimit,
    empty.isFrameLocal_checkLimit notLocal, clear_checkLimit⟩

theorem beforeFrames_beforeTxStart (limit : AdditionalLimit) (tx : MegaTransaction) :
    (limit.reset.beforeTxStart tx).BeforeFrames := by
  have unrefunded : Unrefunded
      { limit.reset with
        dataSize := limit.reset.dataSize.beforeTxStart tx
        kvUpdate := limit.reset.kvUpdate.beforeTxStart tx } := by
    refine ⟨rfl, ?_, ?_, rfl⟩
    · dsimp only [DataSizeTracker.beforeTxStart]
      split <;> rfl
    · dsimp only [KVUpdateTracker.beforeTxStart]
      split <;> rfl
  have empty : AtHeight
      { limit.reset with
        dataSize := limit.reset.dataSize.beforeTxStart tx
        kvUpdate := limit.reset.kvUpdate.beforeTxStart tx } 0 := by
    refine ⟨rfl, ?_, ?_, rfl, rfl⟩
    · dsimp only [DataSizeTracker.beforeTxStart]
      split <;> rfl
    · dsimp only [KVUpdateTracker.beforeTxStart]
      split <;> rfl
  exact beforeFrames_checkLimit empty unrefunded rfl

namespace BeforeFrames

variable (before : limit.BeforeFrames)

include before

theorem markExempt : limit.markExempt.BeforeFrames :=
  ⟨{ before.empty with }, { before.unrefunded with }, rfl, fun _ => clear_iff.mpr (Or.inl rfl)⟩

theorem setComputeGasLimit (rex4 : limit.computeGas.frameTracker.rex4Enabled = true)
    (fits : limit.computeGas.frameTracker.txLimit ≤ u64Max) (cap : Nat) :
    (limit.setComputeGasLimit cap).BeforeFrames :=
  ⟨{ before.empty with }, before.unrefunded.setComputeGasLimit cap, before.notLocal,
    fun within => (before.reports within).setComputeGasLimit rex4 fits cap⟩

theorem recordComputeGas (gas : Nat) : (limit.recordComputeGas gas).1.BeforeFrames := by
  refine ⟨(limit.moves_recordComputeGas gas).atHeight before.empty,
    before.unrefunded.recordComputeGas gas, ?_,
    fun within => (before.reports (within_before_recordComputeGas within)).recordComputeGas within⟩
  unfold AdditionalLimit.recordComputeGas
  dsimp only
  split
  · split
    · exact isFrameLocal_checkAgainst
        ((limit.computeGas.moves_recordGasUsed gas).height.trans before.empty.computeGas) _ _
    · exact before.notLocal
  · exact before.notLocal

/-- Growth that is recorded on the transaction and checked. -/
theorem grown (amount : Nat) :
    { limit with
      stateGrowth := limit.stateGrowth.mergePersistentUsage amount }.checkLimit.BeforeFrames :=
  beforeFrames_checkLimit { before.empty with } { before.unrefunded with } before.notLocal

theorem onRex5Eip7702AuthorityCreations (amount : Nat) :
    (limit.onRex5Eip7702AuthorityCreations amount).BeforeFrames :=
  before.grown amount

theorem recordDepositCallerCreation : limit.recordDepositCallerCreation.BeforeFrames :=
  before.grown 1

theorem onRex6Eip7702AuthorityApplied (createsAuthority : Bool) :
    (limit.onRex6Eip7702AuthorityApplied createsAuthority).BeforeFrames := by
  cases createsAuthority with
  | true | false =>
    exact beforeFrames_checkLimit { before.empty with } { before.unrefunded with } before.notLocal

end BeforeFrames

/-! ### Exemptions -/

/-- A check exempts nothing. -/
theorem firstExceed_ne_exempt (limit : AdditionalLimit) : limit.firstExceed ≠ .exempt := by
  intro exempt
  have within := firstExceed_eq_withinLimit_of_not_exceeded
    (congrArg exceededLimit exempt)
  exact nomatch within.symm.trans exempt

theorem checkLimit_ne_exempt (metered : limit.hasExceededLimit ≠ .exempt) :
    limit.checkLimit.hasExceededLimit ≠ .exempt := by
  unfold checkLimit
  split
  · exact limit.firstExceed_ne_exempt
  · exact metered

theorem recordComputeGas_ne_exempt (metered : limit.hasExceededLimit ≠ .exempt) (gas : Nat) :
    (limit.recordComputeGas gas).1.hasExceededLimit ≠ .exempt := by
  unfold recordComputeGas
  dsimp only
  split
  · split
    · next exceeded =>
      intro exempt
      exact nomatch (congrArg exceededLimit exempt).symm.trans exceeded
    · exact metered
  · exact metered

/-! ### Usage with room -/

/-- The limits in force: those of the transaction, with a detained one for compute gas. -/
def inForce (limit : AdditionalLimit) : EvmTxRuntimeLimits :=
  { limit.limits with
    txComputeGasLimit := limit.computeGas.txLimit
    txDataSizeLimit := limit.dataSize.txLimit
    txKvUpdatesLimit := limit.kvUpdate.txLimit
    txStateGrowthLimit := limit.stateGrowth.txLimit }

/-- Clear limits of a transaction that is not exempt are kept in every dimension. -/
theorem Clear.within (clear : limit.Clear) (metered : limit.hasExceededLimit ≠ .exempt) :
    limit.getUsage.Within limit.inForce := by
  obtain exempt | ⟨_, none⟩ := clear_iff.mp clear
  · exact absurd exempt metered
  · obtain ⟨data, kv, compute, growth⟩ := limit.firstExceed_eq_withinLimit_iff.mp none
    exact
      { dataSize := ((checkAgainst_eq_false_iff _ _ _).mp data).2
        kvUpdates := ((checkAgainst_eq_false_iff _ _ _).mp kv).2
        computeGas := ((checkLimit_eq_false_iff _).mp compute).2
        stateGrowth := ((StateGrowthTracker.checkLimit_eq_false_iff _).mp growth).2 }

/-- Usage for which the current call has room in every dimension leaves clear limits clear. -/
theorem Clear.mergeUsage (clear : limit.Clear) {usage : LimitUsage}
    (dataSize : usage.dataSize ≤ limit.dataSize.currentCallRemaining)
    (kvUpdates : usage.kvUpdates ≤ limit.kvUpdate.currentCallRemaining)
    (computeGas : usage.computeGas ≤ limit.computeGas.currentCallRemaining)
    (stateGrowth : usage.stateGrowth ≤ limit.stateGrowth.currentCallRemaining) :
    (limit.mergeUsage usage).Clear := by
  refine clear.of_checks rfl (fun within => ?_) (fun within => ?_) (fun within => ?_)
    (fun within => ?_)
  · have fits := (checkAgainst_eq_false_iff _ _ _).mp within
    exact (checkAgainst_eq_false_iff _ _ _).mpr (fits.addTxPersistent dataSize)
  · have fits := (checkAgainst_eq_false_iff _ _ _).mp within
    exact (checkAgainst_eq_false_iff _ _ _).mpr (fits.addTxPersistent kvUpdates)
  · have fits := (checkLimit_eq_false_iff _).mp within
    exact (checkLimit_eq_false_iff _).mpr (fits.addTxPersistent computeGas)
  · have fits := (StateGrowthTracker.checkLimit_eq_false_iff _).mp within
    exact (StateGrowthTracker.checkLimit_eq_false_iff _).mpr (fits.addTxPersistent stateGrowth)

end AdditionalLimit

end MegaEvm
