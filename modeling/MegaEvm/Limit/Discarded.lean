/-
This file is about usage that is charged to the top frame until it reverts. It says exactly
when such a charge, with a refund, leaves the limits clear, and that a frame which fails
takes it away: popped, the frame leaves the trackers as if nothing had been charged.
-/

import Mathlib.Tactic.MkIffOfInductiveProp
import MegaEvm.Limit.Clear

namespace MegaEvm

open FrameLimitTracker

namespace FrameLimitTracker

variable {Info : Type} {tracker : FrameLimitTracker Info} {budgeted : Bool} {limit : Nat}

/-! ### Charges that fit -/

/-- The top frame can be charged the amount and be given the refund: it keeps its budget, if frames
have one, and the transaction keeps its limit. -/
def Takes (tracker : FrameLimitTracker Info) (budgeted : Bool) (limit amount refund : Nat) : Prop :=
  ∀ entry ∈ tracker.frameStack.head?,
    (budgeted = true → entry.used + amount ≤ entry.limit + entry.refund + refund) ∧
      tracker.cachedTotalUsed + amount ≤ limit + tracker.cachedTotalRefund + refund

instance (tracker : FrameLimitTracker Info) (budgeted : Bool) (limit amount refund : Nat) :
    Decidable (tracker.Takes budgeted limit amount refund) :=
  inferInstanceAs (Decidable (∀ entry ∈ tracker.frameStack.head?, _))

/-- A tracker with nothing to report has nothing to report after a charge and a refund exactly if
the top frame can be charged. -/
theorem Fits.charged_iff (fits : tracker.Fits budgeted limit) (amount refund : Nat) :
    ((tracker.addFrameDiscardable amount).addFrameRefund refund).Fits budgeted limit ↔
      tracker.Takes budgeted limit amount refund := by
  obtain ⟨txEntry, _ | ⟨entry, below⟩, rex4, rex5, rex6, used, refunded, usedSynced,
    refundSynced⟩ :=
    tracker
  · exact iff_of_true fits nofun
  · have top : (entry.used + amount - (entry.refund + refund) ≤ entry.limit) ↔
        entry.used + amount ≤ entry.limit + entry.refund + refund := by omega
    have total : (used + amount - (refunded + refund) ≤ limit) ↔
        used + amount ≤ limit + refunded + refund := by omega
    have charged : entry.persistentUsage + (entry.discardableUsage + amount) =
        entry.used + amount :=
      (Nat.add_assoc _ _ _).symm
    constructor
    · rintro ⟨fitsTop, fitsTotal⟩ _ ⟨⟩
      refine ⟨fun budgets => top.mp ?_, total.mp fitsTotal⟩
      rw [← charged]
      exact fitsTop budgets _ rfl
    · intro takes
      obtain ⟨takesTop, takesTotal⟩ := takes entry rfl
      refine ⟨fun budgets => ?_, total.mpr takesTotal⟩
      rintro _ ⟨⟩
      have kept := top.mpr (takesTop budgets)
      rw [← charged] at kept
      exact kept

theorem addFrameRefund_zero (tracker : FrameLimitTracker Info) :
    tracker.addFrameRefund 0 = tracker := by
  obtain ⟨_, frames, _⟩ := tracker
  cases frames <;> rfl

theorem addFrameDiscardable_zero (tracker : FrameLimitTracker Info) :
    tracker.addFrameDiscardable 0 = tracker := by
  obtain ⟨_, frames, _⟩ := tracker
  cases frames <;> rfl

theorem checkAgainst_discardable_iff {kind : LimitKind}
    (within : (tracker.checkAgainst kind tracker.txLimit).exceededLimit = false) (amount : Nat) :
    ((tracker.addFrameDiscardable amount).checkAgainst kind
        (tracker.addFrameDiscardable amount).txLimit).exceededLimit = false ↔
      tracker.Takes tracker.rex4Enabled tracker.txLimit amount 0 := by
  have rex4 : (tracker.addFrameDiscardable amount).rex4Enabled = tracker.rex4Enabled :=
    rex4Enabled_updateTop ..
  rw [checkAgainst_eq_false_iff] at within ⊢
  have charged := within.charged_iff amount 0
  rw [addFrameRefund_zero] at charged
  rw [rex4, txLimit, addFrameDiscardable_txEntry]
  exact charged

/-! ### Charges that are dropped -/

/-- A failed frame takes its discardable usage and its refunds with it. -/
theorem popFrame_charged (tracker : FrameLimitTracker Info) (amount refund : Nat) :
    (((tracker.addFrameDiscardable amount).addFrameRefund refund).popFrame false).1 =
      (tracker.popFrame false).1 := by
  obtain ⟨txEntry, _ | ⟨entry, _ | ⟨parent, below⟩⟩, rex4, rex5, rex6, used, refunded, usedSynced,
    refundSynced⟩ := tracker
  · rfl
  all_goals
    simp only [addFrameDiscardable, addFrameRefund, updateTop, popFrame, Bool.false_eq_true,
      if_false, Nat.add_zero, Nat.add_sub_add_right]
    rfl

theorem popFrameUnwindParent_addFrameDiscardable (tracker : FrameLimitTracker CallFrameInfo)
    (amount : Nat) :
    (tracker.addFrameDiscardable amount).popFrameUnwindParent false =
      tracker.popFrameUnwindParent false := by
  have popped := tracker.popFrame_charged amount 0
  rw [addFrameRefund_zero] at popped
  have child : ((tracker.addFrameDiscardable amount).popFrame false).2.map FrameLimitEntry.info =
      (tracker.popFrame false).2.map FrameLimitEntry.info := by
    obtain ⟨_, _ | ⟨entry, _ | ⟨parent, below⟩⟩, _⟩ := tracker <;> rfl
  unfold popFrameUnwindParent
  revert popped child
  rcases (tracker.addFrameDiscardable amount).popFrame false with ⟨first, _ | entry⟩ <;>
    rcases tracker.popFrame false with ⟨second, _ | other⟩
  · exact fun popped _ => popped
  · exact nofun
  · exact nofun
  · intro popped child
    have info : entry.info = other.info := Option.some.inj child
    dsimp only
    rw [info, show first = second from popped]

end FrameLimitTracker

theorem DataSizeTracker.recordDiscardable_zero (tracker : DataSizeTracker) :
    tracker.recordDiscardable 0 = tracker :=
  congrArg DataSizeTracker.mk tracker.frameTracker.addFrameDiscardable_zero

theorem StateGrowthTracker.recordGrowth_zero (tracker : StateGrowthTracker) :
    tracker.recordGrowth 0 = tracker :=
  congrArg (StateGrowthTracker.mk tracker.spec) tracker.frameTracker.addFrameDiscardable_zero

theorem StateGrowthTracker.recordRefund_zero (tracker : StateGrowthTracker) :
    tracker.recordRefund 0 = tracker :=
  congrArg (StateGrowthTracker.mk tracker.spec) tracker.frameTracker.addFrameRefund_zero

namespace AdditionalLimit

variable {limit : AdditionalLimit}

/-- Charge the top frame in three dimensions until it reverts, and refund growth. -/
def charged (limit : AdditionalLimit) (data kv growth refund : Nat) : AdditionalLimit :=
  { limit with
    dataSize := limit.dataSize.recordDiscardable data
    kvUpdate := { frameTracker := limit.kvUpdate.frameTracker.addFrameDiscardable kv }
    stateGrowth := (limit.stateGrowth.recordGrowth growth).recordRefund refund }

/-- The top frame and the transaction have room for the charge in each dimension. -/
@[mk_iff] structure Takes (limit : AdditionalLimit) (data kv growth refund : Nat) : Prop where
  dataSize : limit.dataSize.frameTracker.Takes limit.dataSize.frameTracker.rex4Enabled
    limit.dataSize.txLimit data 0
  kvUpdate : limit.kvUpdate.frameTracker.Takes limit.kvUpdate.frameTracker.rex4Enabled
    limit.kvUpdate.txLimit kv 0
  stateGrowth : limit.stateGrowth.frameTracker.Takes (limit.stateGrowth.spec.isEnabled .rex4)
    limit.stateGrowth.txLimit growth refund

instance (limit : AdditionalLimit) (data kv growth refund : Nat) :
    Decidable (limit.Takes data kv growth refund) :=
  decidable_of_iff' _ (takes_iff limit data kv growth refund)

theorem dataSize_charged_iff (within : limit.dataSize.checkLimit.exceededLimit = false)
    (amount : Nat) :
    (limit.dataSize.recordDiscardable amount).checkLimit.exceededLimit = false ↔
      limit.dataSize.frameTracker.Takes limit.dataSize.frameTracker.rex4Enabled
        limit.dataSize.txLimit amount 0 := by
  exact checkAgainst_discardable_iff within amount

theorem kvUpdate_charged_iff (within : limit.kvUpdate.checkLimit.exceededLimit = false)
    (amount : Nat) :
    ({ frameTracker := limit.kvUpdate.frameTracker.addFrameDiscardable amount } :
        KVUpdateTracker).checkLimit.exceededLimit = false ↔
      limit.kvUpdate.frameTracker.Takes limit.kvUpdate.frameTracker.rex4Enabled
        limit.kvUpdate.txLimit amount 0 := by
  exact checkAgainst_discardable_iff within amount

theorem stateGrowth_charged_iff (within : limit.stateGrowth.checkLimit.exceededLimit = false)
    (amount refund : Nat) :
    ((limit.stateGrowth.recordGrowth amount).recordRefund refund).checkLimit.exceededLimit = false ↔
      limit.stateGrowth.frameTracker.Takes (limit.stateGrowth.spec.isEnabled .rex4)
        limit.stateGrowth.txLimit amount refund := by
  have txEntry : ((limit.stateGrowth.recordGrowth amount).recordRefund
      refund).frameTracker.txEntry = limit.stateGrowth.frameTracker.txEntry :=
    (addFrameRefund_txEntry _ refund).trans
      (addFrameDiscardable_txEntry _ amount)
  rw [StateGrowthTracker.checkLimit_eq_false_iff] at within ⊢
  rw [txLimit, txEntry]
  exact within.charged_iff amount refund

/-- A charge of the top frame leaves clear limits clear exactly if there is room for it, or if the
transaction is exempt. -/
theorem Clear.charged_iff (clear : limit.Clear) (data kv growth refund : Nat) :
    (limit.charged data kv growth refund).Clear ↔
      limit.hasExceededLimit = .exempt ∨ limit.Takes data kv growth refund := by
  obtain exempt | ⟨within, none⟩ := clear_iff.mp clear
  · exact iff_of_true (clear_iff.mpr (Or.inl exempt)) (Or.inl exempt)
  · obtain ⟨dataWithin, kvWithin, compute, growthWithin⟩ :=
      firstExceed_eq_withinLimit_iff _ |>.mp none
    have notExempt : limit.hasExceededLimit ≠ .exempt := within ▸ nofun
    rw [clear_iff, firstExceed_eq_withinLimit_iff, or_iff_right notExempt,
      or_iff_right (show (limit.charged data kv growth refund).hasExceededLimit ≠ .exempt from
        notExempt), takes_iff, ← dataSize_charged_iff dataWithin, ← kvUpdate_charged_iff kvWithin,
      ← stateGrowth_charged_iff growthWithin]
    exact ⟨fun checks => ⟨checks.2.1, checks.2.2.1, checks.2.2.2.2⟩,
      fun checks => ⟨within, checks.1, checks.2.1, compute, checks.2.2⟩⟩

/-- A frame that fails takes what was charged to it away. -/
theorem poppedFrame_charged (limit : AdditionalLimit) (data kv growth refund : Nat)
    {result : FrameResult} (fails : result.instructionResult.isOk = false) :
    (limit.charged data kv growth refund).poppedFrame result = limit.poppedFrame result := by
  have dataSize : (limit.dataSize.recordDiscardable data).beforeFrameReturnResult false =
      limit.dataSize.beforeFrameReturnResult false :=
    congrArg DataSizeTracker.mk (popFrameUnwindParent_addFrameDiscardable _ data)
  have kvUpdate : ({ frameTracker := limit.kvUpdate.frameTracker.addFrameDiscardable kv } :
      KVUpdateTracker).beforeFrameReturnResult false =
        limit.kvUpdate.beforeFrameReturnResult false :=
    congrArg KVUpdateTracker.mk (popFrameUnwindParent_addFrameDiscardable _ kv)
  have stateGrowth :
      ((limit.stateGrowth.recordGrowth growth).recordRefund refund).beforeFrameReturnResult false =
        limit.stateGrowth.beforeFrameReturnResult false :=
    congrArg (StateGrowthTracker.mk limit.stateGrowth.spec) (popFrame_charged _ growth refund)
  simp only [poppedFrame, charged, fails, dataSize, kvUpdate, stateGrowth]

end AdditionalLimit

end MegaEvm
