/-
This file is about limits on which a check finds nothing, which are clear. Clear limits
are the ones a frame can run on. A hook that ends with a check leaves them clear unless
it latches an exceed; recording compute gas checks that dimension alone, which is enough
on clear limits; detaining a transaction caps it above what it has used; and the last
frame of a transaction leaves its usage as it is when it succeeds.
-/

import MegaEvm.Limit.Budget
import MegaEvm.Limit.Stacks

namespace MegaEvm

open FrameLimitTracker LimitCheck ComputeGasTracker InstructionResult

namespace FrameLimitTracker

variable {Info : Type} {tracker : FrameLimitTracker Info} {budgeted : Bool} {limit : Nat}

/-- A persistent charge for which there is room gives a tracker nothing to report. -/
theorem Fits.addFramePersistent (fits : tracker.Fits budgeted limit) {amount : Nat}
    (room : amount ≤ tracker.room budgeted limit) :
    (tracker.addFramePersistent amount).1.Fits budgeted limit := by
  unfold FrameLimitTracker.addFramePersistent
  dsimp only
  exact fits.updateTop (fun _ => rfl) room

theorem Fits.addTxPersistent (fits : tracker.Fits budgeted limit) {amount : Nat}
    (room : amount ≤ tracker.room budgeted limit) :
    (tracker.addTxPersistent amount).Fits budgeted limit := by
  have totalRoom := Nat.le_trans room (room_le_netUsage _ budgeted limit)
  have total := fits.2
  refine ⟨fits.1, ?_⟩
  simp only [netUsage] at total totalRoom ⊢
  show tracker.cachedTotalUsed + amount - tracker.cachedTotalRefund ≤ limit
  omega

/-- The last frame leaves the usage of the transaction as it is when it succeeds. -/
theorem Fits.popFrame_last (fits : tracker.Fits budgeted limit) (last : tracker.height = 1) :
    (tracker.popFrame true).1.Fits budgeted limit := by
  obtain ⟨txEntry, _ | ⟨entry, _ | ⟨parent, below⟩⟩, rex4, rex5, rex6, used, refund, usedSynced,
    refundSynced⟩ := tracker
  · exact fits
  · exact ⟨fun _ _ member => absurd member nofun, fits.2⟩
  · cases last

theorem popFrameUnwindParent_true (tracker : FrameLimitTracker CallFrameInfo) :
    tracker.popFrameUnwindParent true = (tracker.popFrame true).1 := by
  rw [popFrameUnwindParent]
  rcases tracker.popFrame true with ⟨popped, _ | child⟩ <;> rfl

theorem rex4Enabled_popFrame (tracker : FrameLimitTracker Info) (success : Bool) :
    (tracker.popFrame success).1.rex4Enabled = tracker.rex4Enabled :=
  congrArg TrackerSetup.rex4Enabled (tracker.moves_popFrame success).setup

theorem txLimit_popFrame (tracker : FrameLimitTracker Info) (success : Bool) :
    (tracker.popFrame success).1.txLimit = tracker.txLimit :=
  congrArg TrackerSetup.txLimit (tracker.moves_popFrame success).setup

/-- A tracker that finds nothing exceeded finds nothing after its last frame succeeded. -/
theorem checkAgainst_popFrame_last {kind : LimitKind}
    (within : (tracker.checkAgainst kind limit).exceededLimit = false) (last : tracker.height = 1) :
    ((tracker.popFrame true).1.checkAgainst kind limit).exceededLimit = false := by
  rw [checkAgainst_eq_false_iff] at within ⊢
  rw [rex4Enabled_popFrame]
  exact within.popFrame_last last

/-- Without a frame no budget of a frame is exceeded. -/
theorem exceedsCurrentFrameLimit_of_empty (empty : tracker.height = 0) (kind : LimitKind) :
    tracker.exceedsCurrentFrameLimit kind = .withinLimit := by
  rw [exceedsCurrentFrameLimit, List.length_eq_zero_iff.mp empty]

theorem isFrameLocal_checkAgainst (empty : tracker.height = 0) (kind : LimitKind) (limit : Nat) :
    (tracker.checkAgainst kind limit).isFrameLocal = false := by
  rw [checkAgainst, exceedsCurrentFrameLimit_of_empty empty, exceededLimit_withinLimit,
    Bool.and_false, if_neg Bool.false_ne_true]
  split <;> rfl

end FrameLimitTracker

namespace ComputeGasTracker

variable {tracker : ComputeGasTracker}

theorem checkLimit_eq_false_iff (tracker : ComputeGasTracker) :
    tracker.checkLimit.exceededLimit = false ↔
      tracker.frameTracker.Fits tracker.frameTracker.rex4Enabled tracker.txLimit :=
  tracker.frameTracker.checkAgainst_eq_false_iff .computeGas tracker.txLimit

/-- Recording charges the top frame, or the transaction when no frame is active. -/
theorem recordGasUsed_eq (tracker : ComputeGasTracker) (gas : Nat) :
    tracker.recordGasUsed gas =
      { tracker with
        frameTracker :=
          if tracker.frameTracker.hasActiveFrame then
            (tracker.frameTracker.addFramePersistent gas).1
          else tracker.frameTracker.addTxPersistent gas } := by
  rw [recordGasUsed, addFramePersistent]
  cases tracker.frameTracker.hasActiveFrame <;> rfl

theorem recordGasUsed_zero (tracker : ComputeGasTracker) : tracker.recordGasUsed 0 = tracker := by
  obtain ⟨_, _, ⟨_, frames, _⟩⟩ := tracker
  cases frames <;> rfl

theorem txLimit_recordGasUsed (tracker : ComputeGasTracker) (gas : Nat) :
    (tracker.recordGasUsed gas).txLimit = tracker.txLimit := by
  have sameTxLimit : (tracker.recordGasUsed gas).frameTracker.txLimit =
      tracker.frameTracker.txLimit :=
    congrArg TrackerSetup.txLimit (tracker.moves_recordGasUsed gas).setup
  rw [txLimit, txLimit, sameTxLimit, recordGasUsed_eq]

/-- Compute gas for which there is room can be recorded. -/
theorem checkLimit_recordGasUsed (within : tracker.checkLimit.exceededLimit = false) {gas : Nat}
    (room : gas ≤ tracker.currentCallRemaining) :
    (tracker.recordGasUsed gas).checkLimit.exceededLimit = false := by
  have charged : (tracker.recordGasUsed gas).frameTracker.Fits tracker.frameTracker.rex4Enabled
      tracker.txLimit := by
    rw [checkLimit_eq_false_iff] at within
    rw [recordGasUsed_eq]
    dsimp only
    split
    · exact within.addFramePersistent room
    · exact within.addTxPersistent room
  have setup := (tracker.moves_recordGasUsed gas).setup
  have sameRex4 : (tracker.recordGasUsed gas).frameTracker.rex4Enabled =
      tracker.frameTracker.rex4Enabled := congrArg TrackerSetup.rex4Enabled setup
  rw [checkLimit_eq_false_iff, sameRex4, txLimit_recordGasUsed]
  exact charged

/-- A detained transaction that was within its limit still is: from Rex4 on the cap counts from what
it has used. -/
theorem checkLimit_setDetainedLimit (within : tracker.checkLimit.exceededLimit = false)
    (rex4 : tracker.frameTracker.rex4Enabled = true) (fits : tracker.frameTracker.txLimit ≤ u64Max)
    (cap : Nat) : (tracker.setDetainedLimit cap).checkLimit.exceededLimit = false := by
  rw [checkLimit_eq_false_iff] at within ⊢
  obtain ⟨top, total⟩ := within
  refine ⟨top, ?_⟩
  rw [setDetainedLimit, rex4, if_pos rfl, txLimit]
  rw [txLimit] at total
  show tracker.frameTracker.netUsage ≤
    min tracker.frameTracker.txLimit
      (min tracker.detainedLimit (min (tracker.frameTracker.netUsage + cap) u64Max))
  omega

end ComputeGasTracker

namespace AdditionalLimit

variable {limit : AdditionalLimit}

/-! ### Clear limits -/

/-- A check finds no exceed. -/
def Clear (limit : AdditionalLimit) : Prop :=
  limit.checkLimit.limitExceeded = false

theorem firstExceed_eq_withinLimit_of_not_exceeded
    (within : limit.firstExceed.exceededLimit = false) : limit.firstExceed = .withinLimit := by
  revert within
  unfold firstExceed
  split_ifs with data kv compute growth
  · exact fun within => nomatch within.symm.trans data
  · exact fun within => nomatch within.symm.trans kv
  · exact fun within => nomatch within.symm.trans compute
  · exact fun within => nomatch within.symm.trans growth
  · exact fun _ => rfl

/-- The limits are clear for a transaction that is exempt, and for one that is within them. -/
theorem clear_iff :
    limit.Clear ↔ limit.hasExceededLimit = .exempt ∨
      (limit.hasExceededLimit = .withinLimit ∧ limit.firstExceed = .withinLimit) := by
  rw [Clear]
  cases verdict : limit.hasExceededLimit with
  | withinLimit =>
    rw [checkLimit_of_within (congrArg isWithinLimit verdict)]
    constructor
    · exact fun within => Or.inr ⟨rfl, firstExceed_eq_withinLimit_of_not_exceeded within⟩
    · rintro (impossible | ⟨_, within⟩)
      · cases impossible
      · exact congrArg exceededLimit within
  | exempt =>
    rw [checkLimit_of_latched (congrArg isWithinLimit verdict), limitExceeded, verdict]
    exact iff_of_true rfl (Or.inl rfl)
  | exceedsLimit =>
    rw [checkLimit_of_latched (congrArg isWithinLimit verdict), limitExceeded, verdict]
    refine iff_of_false (by rintro ⟨⟩) ?_
    rintro (⟨⟨⟩⟩ | ⟨⟨⟩, _⟩)

theorem Clear.checkLimit_eq (clear : limit.Clear) : limit.checkLimit = limit := by
  obtain exempt | ⟨within, none⟩ := clear_iff.mp clear
  · exact checkLimit_of_latched (congrArg isWithinLimit exempt)
  · rw [checkLimit_of_within (congrArg isWithinLimit within), none, ← within]

theorem Clear.notExceeded (clear : limit.Clear) : limit.limitExceeded = false := by
  rw [← clear.checkLimit_eq]
  exact clear

/-- A check that latches nothing leaves the limits clear. -/
theorem clear_checkLimit (within : limit.checkLimit.limitExceeded = false) :
    limit.checkLimit.Clear := by
  have clear : limit.Clear := within
  rw [clear.checkLimit_eq]
  exact clear

variable (clear : limit.Clear)

include clear

/-- Clear limits stay clear when neither the verdict nor what the trackers find changes. -/
theorem Clear.of_checks {other : AdditionalLimit}
    (verdict : other.hasExceededLimit = limit.hasExceededLimit)
    (dataSize : limit.dataSize.checkLimit.exceededLimit = false →
      other.dataSize.checkLimit.exceededLimit = false)
    (kvUpdate : limit.kvUpdate.checkLimit.exceededLimit = false →
      other.kvUpdate.checkLimit.exceededLimit = false)
    (computeGas : limit.computeGas.checkLimit.exceededLimit = false →
      other.computeGas.checkLimit.exceededLimit = false)
    (stateGrowth : limit.stateGrowth.checkLimit.exceededLimit = false →
      other.stateGrowth.checkLimit.exceededLimit = false) :
    other.Clear := by
  obtain exempt | ⟨within, none⟩ := clear_iff.mp clear
  · exact clear_iff.mpr (Or.inl (verdict.trans exempt))
  · obtain ⟨data, kv, compute, growth⟩ := limit.firstExceed_eq_withinLimit_iff.mp none
    exact clear_iff.mpr (Or.inr ⟨verdict.trans within,
      other.firstExceed_eq_withinLimit_iff.mpr
        ⟨dataSize data, kvUpdate kv, computeGas compute, stateGrowth growth⟩⟩)

theorem Clear.tryConsumeStorageStipend (amount : Nat) :
    (limit.tryConsumeStorageStipend amount).1.Clear :=
  clear.of_checks rfl id id id id

/-- Detaining keeps the limits clear from Rex4 on. -/
theorem Clear.setComputeGasLimit (rex4 : limit.computeGas.frameTracker.rex4Enabled = true)
    (fits : limit.computeGas.frameTracker.txLimit ≤ u64Max) (cap : Nat) :
    (limit.setComputeGasLimit cap).Clear :=
  clear.of_checks rfl id id
    (fun within => checkLimit_setDetainedLimit within rex4 fits cap) id

/-- Recording compute gas leaves clear limits clear unless it latches an exceed. -/
theorem Clear.recordComputeGas {gas : Nat}
    (goes : (limit.recordComputeGas gas).1.limitExceeded = false) :
    (limit.recordComputeGas gas).1.Clear := by
  obtain exempt | ⟨within, none⟩ := clear_iff.mp clear
  · refine clear_iff.mpr (Or.inl ?_)
    exact (recordComputeGas_verdict (congrArg isWithinLimit exempt) gas).trans exempt
  · obtain ⟨data, kv, _, growth⟩ := limit.firstExceed_eq_withinLimit_iff.mp none
    have settled : limit.Settled := fun _ => ⟨data, kv, growth⟩
    have allDims := congrArg Prod.fst (settled.recordComputeGas_eq_allDims gas)
    rw [allDims] at goes ⊢
    exact clear_checkLimit goes

/-- Compute gas for which there is room latches nothing on clear limits. -/
theorem Clear.recordComputeGas_of_room {gas : Nat}
    (room : gas ≤ limit.computeGas.currentCallRemaining) :
    (limit.recordComputeGas gas).1.limitExceeded = false := by
  obtain exempt | ⟨within, none⟩ := clear_iff.mp clear
  · have kept := recordComputeGas_verdict (congrArg isWithinLimit exempt) gas
    rw [limitExceeded, kept, exempt]
    rfl
  · obtain ⟨data, kv, compute, growth⟩ := limit.firstExceed_eq_withinLimit_iff.mp none
    have recorded := checkLimit_recordGasUsed compute room
    simp only [AdditionalLimit.recordComputeGas, within, isWithinLimit_withinLimit, if_true,
      recorded, Bool.false_eq_true, if_false, limitExceeded, exceededLimit_withinLimit]

/-- Nothing is rescued on clear limits. -/
theorem Clear.tryRescueGas_eq (gas : Gas) : limit.tryRescueGas gas = limit := by
  simp only [tryRescueGas, clear.checkLimit_eq, clear.notExceeded, Bool.false_and,
    Bool.false_eq_true, if_false]

omit clear

variable {result : FrameResult}

/-- Finishing a frame makes no success of another result. -/
theorem isOk_afterFrameRun (limit : AdditionalLimit)
    (failed : result.instructionResult.isOk = false) (gasRemainingBefore : Option Nat) :
    (limit.afterFrameRun result gasRemainingBefore).2.instructionResult.isOk = false := by
  cases gasRemainingBefore with
  | none => exact failed
  | some before =>
    simp only [afterFrameRun]
    rcases limit.recordComputeGas (before - result.gas.remaining) with ⟨recorded, _ | _⟩
    · exact (congrArg isOk (FrameResult.instructionResult_mark _ _ _)).trans (isOk_exceeding _)
    · exact failed

/-- Recording no gas leaves clear limits as they are. -/
theorem Clear.recordComputeGas_zero (clear : limit.Clear) :
    limit.recordComputeGas 0 = (limit, true) := by
  have within := clear.recordComputeGas_of_room (Nat.zero_le limit.computeGas.currentCallRemaining)
  revert within
  simp only [AdditionalLimit.recordComputeGas, recordGasUsed_zero]
  split_ifs with notLatched exceeds
  · intro within
    cases within.symm.trans exceeds
  · exact fun _ => rfl
  · intro within
    rw [show limit.hasExceededLimit.exceededLimit = false from within]
    rfl

/-- Finishing a frame that takes no gas for it leaves clear limits and the result as they are. -/
theorem Clear.afterFrameRun_eq (clear : limit.Clear) (result : FrameResult)
    {gasRemainingBefore : Option Nat}
    (free : ∀ before ∈ gasRemainingBefore, before = result.gas.remaining) :
    limit.afterFrameRun result gasRemainingBefore = (limit, result) := by
  cases gasRemainingBefore with
  | none => exact Prod.ext (clear.tryRescueGas_eq _) rfl
  | some before =>
    simp only [afterFrameRun, free before rfl, Nat.sub_self,
      clear.recordComputeGas_zero, clear.tryRescueGas_eq]

/-- Finishing a frame that takes no gas for it finds what the limits exceed. -/
theorem limitExceeded_afterFrameRun (exceeds : ¬ limit.Clear) (result : FrameResult)
    {gasRemainingBefore : Option Nat}
    (free : ∀ before ∈ gasRemainingBefore, before = result.gas.remaining) :
    (limit.afterFrameRun result gasRemainingBefore).1.limitExceeded = true := by
  have checks : ∀ (limit : AdditionalLimit) (gas : Gas), ¬ limit.Clear →
      (limit.tryRescueGas gas).limitExceeded = true := by
    intro limit gas exceeds
    rw [tryRescueGas]
    split <;> exact (Bool.not_eq_false _).mp exceeds
  cases gasRemainingBefore with
  | none => exact checks limit result.gas exceeds
  | some before =>
    have stillExceeds : ¬ (limit.recordComputeGas 0).1.Clear := by
      simp only [recordComputeGas, recordGasUsed_zero]
      split_ifs with _ latched
      · intro clear
        cases clear.notExceeded.symm.trans latched
      · exact exceeds
      · exact exceeds
    simp only [afterFrameRun, free before rfl, Nat.sub_self]
    revert stillExceeds
    rcases limit.recordComputeGas 0 with ⟨recorded, _ | _⟩ <;> exact checks recorded _

/-- A check on empty stacks latches no exceed that is local to a frame. -/
theorem AtHeight.isFrameLocal_checkLimit (aligned : limit.AtHeight 0)
    (notLocal : limit.hasExceededLimit.isFrameLocal = false) :
    limit.checkLimit.hasExceededLimit.isFrameLocal = false := by
  rw [checkLimit]
  split
  · show limit.firstExceed.isFrameLocal = false
    unfold firstExceed
    split_ifs
    · exact isFrameLocal_checkAgainst aligned.dataSize _ _
    · exact isFrameLocal_checkAgainst aligned.kvUpdate _ _
    · exact isFrameLocal_checkAgainst aligned.computeGas _ _
    · rw [StateGrowthTracker.checkLimit,
        exceedsCurrentFrameLimit_of_empty aligned.stateGrowth,
        exceededLimit_withinLimit, Bool.and_false, if_neg Bool.false_ne_true]
      split <;> rfl
    · rfl
  · exact notLocal

/-- When the last frame succeeds, clear limits stay clear. -/
theorem Clear.poppedFrame_last (clear : limit.Clear) (last : limit.AtHeight 1)
    (succeeds : result.instructionResult.isOk = true) : (limit.poppedFrame result).Clear := by
  refine clear.of_checks rfl ?_ ?_ ?_ ?_
  · intro within
    simp only [poppedFrame, succeeds, DataSizeTracker.beforeFrameReturnResult,
      DataSizeTracker.checkLimit, DataSizeTracker.txLimit,
      popFrameUnwindParent_true, txLimit_popFrame]
    exact checkAgainst_popFrame_last within last.dataSize
  · intro within
    simp only [poppedFrame, succeeds, KVUpdateTracker.beforeFrameReturnResult,
      KVUpdateTracker.checkLimit, KVUpdateTracker.txLimit,
      popFrameUnwindParent_true, txLimit_popFrame]
    exact checkAgainst_popFrame_last within last.kvUpdate
  · intro within
    simp only [poppedFrame, succeeds, ComputeGasTracker.beforeFrameReturnResult,
      ComputeGasTracker.checkLimit, ComputeGasTracker.txLimit, txLimit_popFrame]
    exact checkAgainst_popFrame_last within last.computeGas
  · intro within
    rw [StateGrowthTracker.checkLimit_eq_false_iff] at within ⊢
    simp only [poppedFrame, succeeds, StateGrowthTracker.beforeFrameReturnResult, txLimit_popFrame]
    exact within.popFrame_last last.stateGrowth

/-! ### The return of a frame -/

/-- Returning a frame makes no success of another result. -/
theorem isOk_beforeFrameReturnResult {lastFrame : Bool} (pops : limit.PopsFrame lastFrame)
    (failed : result.instructionResult.isOk = false) :
    (limit.beforeFrameReturnResult lastFrame result).2.instructionResult.isOk = false := by
  rw [beforeFrameReturnResult_of_pops pops]
  dsimp only
  split
  · split <;> rw [FrameResult.instructionResult_mark] <;> rfl
  · exact (congrArg isOk (limit.instructionResult_burnedResult result)).trans failed

/-- A frame whose parent can go on is returned with the status it ended with: an exceed that the
return itself finds is found again. -/
theorem Clear.isOk_beforeFrameReturnResult
    (clear : result.instructionResult.isOk = true → limit.Clear)
    (clearAfter : (limit.beforeFrameReturnResult false result).1.Clear) :
    (limit.beforeFrameReturnResult false result).2.instructionResult.isOk =
      result.instructionResult.isOk := by
  have pops : limit.PopsFrame false := nofun
  cases succeeds : result.instructionResult.isOk with
  | false => exact AdditionalLimit.isOk_beforeFrameReturnResult pops succeeds
  | true =>
    rw [beforeFrameReturnResult_of_pops pops] at clearAfter ⊢
    dsimp only at clearAfter ⊢
    split
    · rename_i exceeded
      rw [if_pos exceeded] at clearAfter
      obtain exempt | ⟨within, _⟩ := clear_iff.mp (clear succeeds)
      · -- An exempt transaction exceeds nothing.
        have latched : (limit.poppedFrame result).hasExceededLimit.isWithinLimit = false :=
          congrArg isWithinLimit exempt
        rw [checkLimit_of_latched latched] at exceeded
        exact nomatch (congrArg exceededLimit exempt).symm.trans exceeded
      · split at clearAfter
        · -- The absorbed exceed is found again, since the trackers are the same.
          obtain ⟨verdict, equation⟩ := (limit.poppedFrame result).checkLimit_eq
          have same : { (limit.poppedFrame result).checkLimit with
              hasExceededLimit := .withinLimit } = limit.poppedFrame result := by
            rw [equation, ← within]
            rfl
          rw [same] at clearAfter
          exact nomatch clearAfter.symm.trans exceeded
        · exact nomatch clearAfter.notExceeded.symm.trans exceeded
    · exact (congrArg isOk (limit.instructionResult_burnedResult result)).trans succeeds

/-- The last frame is returned with the status it ended with. -/
theorem Clear.isOk_beforeFrameReturnResult_last {lastFrame : Bool}
    (clear : result.instructionResult.isOk = true → limit.Clear) (pops : limit.PopsFrame lastFrame)
    (last : limit.AtHeight 1) :
    (limit.beforeFrameReturnResult lastFrame result).2.instructionResult.isOk =
      result.instructionResult.isOk := by
  cases succeeds : result.instructionResult.isOk with
  | false => exact AdditionalLimit.isOk_beforeFrameReturnResult pops succeeds
  | true =>
    have clearAfter := (clear succeeds).poppedFrame_last last succeeds
    have within : (limit.poppedFrame result).checkLimit.limitExceeded = false := clearAfter
    rw [beforeFrameReturnResult_of_pops pops]
    simp only [within, Bool.false_eq_true, if_false]
    exact (congrArg isOk (limit.instructionResult_burnedResult result)).trans succeeds

end AdditionalLimit

end MegaEvm
