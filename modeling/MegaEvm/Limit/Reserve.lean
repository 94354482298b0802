/-
This file is about what the frames of a stack hold in reserve. What a frame and all
entries beneath it leave of the limit of the transaction must cover the budget of the
frame above: as long as it does, a transaction can exceed its limit only through a
frame that exceeds its own budget. Unlike the chain of budgets, this survives that a
frame is charged while another frame runs on it, as long as the transaction can pay
for the charge.
-/

import Mathlib.Algebra.Order.Ring.Int
import MegaEvm.Limit.Budget

namespace MegaEvm

/-! ### Signed usage -/

namespace FrameLimitEntry

variable {Info : Type}

/-- The usage less the refund, below zero if the refund is larger. -/
def balance (entry : FrameLimitEntry Info) : Int :=
  entry.used - entry.refund

theorem balance_le_net (entry : FrameLimitEntry Info) : entry.balance ≤ entry.net := by
  rw [balance, net]
  omega

end FrameLimitEntry

namespace FrameLimitTracker

variable {Info : Type} {tracker : FrameLimitTracker Info}

/-- The signed usage of the transaction and some frames. -/
def signedUsage (txEntry : FrameLimitEntry Unit) (frames : List (FrameLimitEntry Info)) : Int :=
  txEntry.balance + (frames.map FrameLimitEntry.balance).sum

variable (txEntry : FrameLimitEntry Unit)

theorem signedUsage_nil :
    signedUsage txEntry ([] : List (FrameLimitEntry Info)) = txEntry.balance := by
  simp [signedUsage]

theorem signedUsage_cons (entry : FrameLimitEntry Info) (below : List (FrameLimitEntry Info)) :
    signedUsage txEntry (entry :: below) = signedUsage txEntry below + entry.balance := by
  simp only [signedUsage, List.map_cons, List.sum_cons]
  omega

theorem sum_balance (frames : List (FrameLimitEntry Info)) :
    (frames.map FrameLimitEntry.balance).sum =
      ((frames.map FrameLimitEntry.used).sum : Int) -
        ((frames.map FrameLimitEntry.refund).sum : Int) := by
  induction frames with
  | nil => rfl
  | cons entry below inductionHypothesis =>
    simp only [List.map_cons, List.sum_cons, inductionHypothesis, FrameLimitEntry.balance]
    omega

/-- The net usage is the signed usage, or nothing if that is below zero. -/
theorem netUsage_eq_signedUsage (tracker : FrameLimitTracker Info) :
    (tracker.netUsage : Int) = max (signedUsage tracker.txEntry tracker.frameStack) 0 := by
  have frames := sum_balance tracker.frameStack
  rw [netUsage_eq, signedUsage, FrameLimitEntry.balance]
  omega

/-! ### Reserves -/

/-- What the entries beneath each frame leave of the limit of the transaction covers the budget of
the frame. -/
def Reserved (txEntry : FrameLimitEntry Unit) : List (FrameLimitEntry Info) → Prop
  | [] => True
  | entry :: below =>
    signedUsage txEntry below + entry.limit ≤ txEntry.limit ∧ Reserved txEntry below

/-- The budgets of all frames on the stack are reserved. -/
def HasReserve (tracker : FrameLimitTracker Info) : Prop :=
  Reserved tracker.txEntry tracker.frameStack

/-- Without frames nothing has to be reserved. -/
theorem hasReserve_of_empty (empty : tracker.frameStack = []) : tracker.HasReserve := by
  rw [HasReserve, empty]
  trivial

/-- What the top frame has used does not matter. -/
theorem Reserved.modifyHead {txEntry : FrameLimitEntry Unit} {frames : List (FrameLimitEntry Info)}
    (reserved : Reserved txEntry frames) {update : FrameLimitEntry Info → FrameLimitEntry Info}
    (sameLimit : ∀ entry, (update entry).limit = entry.limit) :
    Reserved txEntry (frames.modifyHead update) := by
  cases frames with
  | nil => trivial
  | cons =>
    refine ⟨?_, reserved.2⟩
    rw [sameLimit]
    exact reserved.1

theorem Reserved.drop {txEntry : FrameLimitEntry Unit} {frames : List (FrameLimitEntry Info)}
    (reserved : Reserved txEntry frames) (count : Nat) : Reserved txEntry (frames.drop count) := by
  induction count generalizing frames with
  | zero => exact reserved
  | succ count inductionHypothesis =>
    cases frames with
    | nil => trivial
    | cons => exact inductionHypothesis reserved.2

section Operations

variable (reserved : tracker.HasReserve)

include reserved

theorem HasReserve.addFrameDiscardable (amount : Nat) :
    (tracker.addFrameDiscardable amount).HasReserve := by
  rw [HasReserve, addFrameDiscardable_txEntry, addFrameDiscardable_frameStack]
  exact Reserved.modifyHead reserved fun _ => rfl

theorem HasReserve.addFrameRefund (amount : Nat) : (tracker.addFrameRefund amount).HasReserve := by
  rw [HasReserve, addFrameRefund_txEntry, addFrameRefund_frameStack]
  exact Reserved.modifyHead reserved fun _ => rfl

theorem HasReserve.updateInfo (update : Info → Info) : (tracker.updateInfo update).HasReserve := by
  rw [HasReserve, updateInfo_txEntry, updateInfo_frameStack]
  exact Reserved.modifyHead reserved fun _ => rfl

end Operations

/-- A frame pushed onto one that keeps its budget is reserved. -/
theorem HasReserve.pushFrame (reserved : tracker.HasReserve) (within : tracker.BelowWithin)
    (info : Info) : (tracker.pushFrame info).HasReserve := by
  rw [HasReserve, pushFrame_txEntry, pushFrame_frameStack]
  refine ⟨?_, reserved⟩
  rw [HasReserve] at reserved
  rw [BelowWithin] at within
  show signedUsage tracker.txEntry tracker.frameStack + (tracker.maxForwardLimit : Int) ≤ _
  rw [maxForwardLimit]
  revert reserved within
  cases tracker.frameStack with
  | nil =>
    intro _ within
    have spent := within.remaining_add_net
    have signed := tracker.txEntry.balance_le_net
    rw [signedUsage_nil]
    dsimp only
    omega
  | cons entry below =>
    intro reserved within
    have spent := within.remaining_add_net
    have signed := entry.balance_le_net
    have covered := reserved.1
    have share : entry.remaining * frameLimitNumerator / frameLimitDenominator ≤
        entry.remaining := by
      simp only [frameLimitNumerator, frameLimitDenominator]
      omega
    rw [signedUsage_cons]
    dsimp only
    omega

/-- The frames beneath a popped one stay reserved. -/
theorem reserved_popFrame (reserved : Reserved tracker.txEntry (tracker.frameStack.drop 1))
    (success : Bool) : (tracker.popFrame success).1.HasReserve := by
  rcases frames : tracker.frameStack with _ | ⟨child, _ | ⟨parent, below⟩⟩
  · rw [popFrame_empty frames]
    exact hasReserve_of_empty frames
  · exact hasReserve_of_empty (popFrame_single frames success).1
  · rw [HasReserve, (popFrame_nested frames success).1, (popFrame_nested frames success).2]
    rw [frames] at reserved
    exact ⟨reserved.1, reserved.2⟩

/-- While the top frame keeps its budget, the transaction keeps its limit. -/
theorem HasReserve.netUsage_le (reserved : tracker.HasReserve) (active : tracker.frameStack ≠ [])
    (within : tracker.TopWithin) : tracker.netUsage ≤ tracker.txLimit := by
  have usage := tracker.netUsage_eq_signedUsage
  rw [HasReserve] at reserved
  rw [TopWithin] at within
  rw [txLimit]
  revert reserved within usage
  cases frames : tracker.frameStack with
  | nil => exact absurd frames active
  | cons entry below =>
    intro reserved within usage
    have covered := reserved.1
    have signed := entry.balance_le_net
    have kept : entry.net ≤ entry.limit := within entry rfl
    rw [signedUsage_cons] at usage
    omega

/-- An exceed of the transaction is reported only if the top frame keeps its budget. -/
theorem topWithin_of_isTxExceed {kind : LimitKind} {limit : Nat} (rex4 : tracker.rex4Enabled = true)
    (exceeds : (tracker.checkAgainst kind limit).IsTxExceed) : tracker.TopWithin := by
  rw [← tracker.exceedsCurrentFrameLimit_eq_false_iff kind]
  rw [checkAgainst, rex4, Bool.true_and] at exceeds
  cases exceeded : (tracker.exceedsCurrentFrameLimit kind).exceededLimit with
  | false => rfl
  | true =>
    rw [exceeded, if_pos rfl] at exceeds
    rw [exceedsCurrentFrameLimit] at exceeds
    obtain ⟨_, _, _, equation⟩ := exceeds
    split at equation
    · split at equation <;> cases equation
    · cases equation

/-- With all budgets reserved, an exceed while a frame is active is one of the frame. -/
theorem HasReserve.not_isTxExceed (reserved : tracker.HasReserve)
    (rex4 : tracker.rex4Enabled = true) (active : tracker.frameStack ≠ []) (kind : LimitKind) :
    ¬ (tracker.checkAgainst kind tracker.txLimit).IsTxExceed := by
  intro exceeds
  have within := topWithin_of_isTxExceed rex4 exceeds
  exact absurd (reserved.netUsage_le active within)
    (Nat.not_le.mpr (tracker.isTxExceed_checkAgainst exceeds))

/-- A tracker with nothing to report can push a frame. -/
theorem belowWithin_of_checkAgainst {kind : LimitKind} (rex4 : tracker.rex4Enabled = true)
    (within : (tracker.checkAgainst kind tracker.txLimit).exceededLimit = false) :
    tracker.BelowWithin := by
  obtain ⟨top, total⟩ := (tracker.checkAgainst_eq_false_iff kind _).mp within
  have topWithin := top rex4
  rw [netUsage_eq, txLimit] at total
  rw [TopWithin] at topWithin
  rw [BelowWithin]
  revert total topWithin
  cases tracker.frameStack with
  | nil =>
    intro total _
    simpa [FrameLimitEntry.Within, FrameLimitEntry.net] using total
  | cons entry below => exact fun _ topWithin => topWithin entry rfl

end FrameLimitTracker

/-! ### Frame starts -/

namespace FrameLimitTracker

variable {tracker : FrameLimitTracker CallFrameInfo}

theorem HasReserve.markParentPaid (reserved : tracker.HasReserve) :
    tracker.markParentPaid.HasReserve := by
  rw [FrameLimitTracker.markParentPaid]
  split
  · exact reserved.updateInfo _
  · exact reserved

theorem BelowWithin.updateInfo (within : tracker.BelowWithin)
    (update : CallFrameInfo → CallFrameInfo) : (tracker.updateInfo update).BelowWithin := by
  obtain ⟨txEntry, _ | ⟨entry, below⟩, _⟩ := tracker
  · exact within
  · exact within

theorem BelowWithin.markParentPaid (within : tracker.BelowWithin) :
    tracker.markParentPaid.BelowWithin := by
  rw [FrameLimitTracker.markParentPaid]
  split
  · exact within.updateInfo _
  · exact within

theorem rex4Enabled_markParentPaid (tracker : FrameLimitTracker CallFrameInfo) :
    tracker.markParentPaid.rex4Enabled = tracker.rex4Enabled := by
  rw [markParentPaid]
  split
  · exact rex4Enabled_updateTop ..
  · rfl

theorem netUsage_markParentPaid (tracker : FrameLimitTracker CallFrameInfo) :
    tracker.markParentPaid.netUsage = tracker.netUsage := by
  rw [markParentPaid]
  split
  · obtain ⟨_, _ | ⟨entry, below⟩, _⟩ := tracker <;> rfl
  · rfl

theorem txLimit_markParentPaid (tracker : FrameLimitTracker CallFrameInfo) :
    tracker.markParentPaid.txLimit = tracker.txLimit := by
  rw [markParentPaid]
  split
  · rw [txLimit, updateInfo_txEntry, txLimit]
  · rfl

variable (reserved : tracker.HasReserve)

include reserved

theorem HasReserve.pushCallFrameInfo (rex4 : tracker.rex4Enabled = true)
    (within : tracker.BelowWithin) (info : CallFrameInfo) :
    (tracker.pushCallFrameInfo info).HasReserve := by
  rw [FrameLimitTracker.pushCallFrameInfo, rex4, if_pos rfl]
  exact reserved.pushFrame within info

/-- The frame beneath a new one can be charged one unit if the transaction has one left. Without a
unit left the frame has none for its child either, and with one left the child does not get it. -/
theorem HasReserve.pushFrame_addParent (within : tracker.BelowWithin)
    (room : tracker.netUsage < tracker.txLimit) (info : CallFrameInfo) :
    ((tracker.pushFrame info).addParentDiscardable 1).HasReserve := by
  have usage := tracker.netUsage_eq_signedUsage
  rw [HasReserve] at reserved
  rw [BelowWithin] at within
  rw [txLimit] at room
  obtain ⟨txEntry, _ | ⟨entry, below⟩, rex4, rex5, rex6, used, refund, usedSynced, refundSynced⟩ :=
    tracker
  · exact HasReserve.pushFrame reserved within info
  · have spent := within.remaining_add_net
    have signed := entry.balance_le_net
    have covered := reserved.1
    have share : entry.remaining * frameLimitNumerator / frameLimitDenominator ≤
        entry.remaining - 1 := by
      simp only [frameLimitNumerator, frameLimitDenominator]
      omega
    refine ⟨?_, reserved⟩
    show signedUsage txEntry
        ({ entry with discardableUsage := entry.discardableUsage + 1 } :: below) +
      ((entry.remaining * frameLimitNumerator / frameLimitDenominator : Nat) : Int) ≤ txEntry.limit
    have charged : FrameLimitEntry.balance
        { entry with discardableUsage := entry.discardableUsage + 1 } = entry.balance + 1 := by
      simp only [FrameLimitEntry.balance, FrameLimitEntry.used]
      omega
    dsimp only at usage room covered
    rw [signedUsage_cons] at usage ⊢
    rw [charged]
    omega

variable (rex4 : tracker.rex4Enabled = true)

include rex4

variable (within : tracker.BelowWithin)

include within

theorem HasReserve.pushCallFrame (target : Address) (hasTransfer : Bool) :
    (tracker.pushCallFrame target hasTransfer).1.HasReserve := by
  simp only [FrameLimitTracker.pushCallFrame]
  split
  · exact reserved.markParentPaid.pushCallFrameInfo (tracker.rex4Enabled_markParentPaid.trans rex4)
      within.markParentPaid _
  · exact reserved.pushCallFrameInfo rex4 within _

theorem HasReserve.pushCreateFrame : tracker.pushCreateFrame.1.HasReserve := by
  simp only [FrameLimitTracker.pushCreateFrame]
  split
  · exact reserved.markParentPaid.pushCallFrameInfo (tracker.rex4Enabled_markParentPaid.trans rex4)
      within.markParentPaid _
  · exact reserved.pushCallFrameInfo rex4 within _

/-- A create whose creator is charged keeps the reserves if the transaction has room for the
charge. -/
theorem HasReserve.pushCreateFrame_addParent (unpaid : tracker.parentUnpaid = true)
    (room : tracker.netUsage < tracker.txLimit) :
    (tracker.pushCreateFrame.1.addParentDiscardable 1).HasReserve := by
  have markedRoom : tracker.markParentPaid.netUsage < tracker.markParentPaid.txLimit := by
    rw [netUsage_markParentPaid, txLimit_markParentPaid]
    exact room
  simp only [FrameLimitTracker.pushCreateFrame, unpaid, if_true,
    FrameLimitTracker.pushCallFrameInfo, tracker.rex4Enabled_markParentPaid.trans rex4]
  exact reserved.markParentPaid.pushFrame_addParent within.markParentPaid markedRoom _

/-- The start of a call or a create keeps the reserves, if a creator that is charged after the
budget of its child was derived leaves the transaction room for the charge. -/
theorem HasReserve.chargeFrameInit {input : FrameInput}
    (room : input.isCreate = true → tracker.rex6Enabled = true → tracker.parentUnpaid = true →
      tracker.netUsage < tracker.txLimit) :
    (tracker.chargeFrameInit 1 input).HasReserve := by
  cases input with
  | call inputs =>
    have pushed := reserved.pushCallFrame rex4 within inputs.targetAddress inputs.transfersValue
    simp only [FrameLimitTracker.chargeFrameInit]
    split_ifs
    · exact pushed.addFrameDiscardable 1
    · exact pushed
    · exact (pushed.addFrameDiscardable 1).addFrameDiscardable 1
    · exact pushed.addFrameDiscardable 1
    · exact pushed
  | create inputs =>
    have pushed := reserved.pushCreateFrame rex4 within
    simp only [FrameLimitTracker.chargeFrameInit]
    split_ifs with unpaid rex6
    · exact reserved.pushCreateFrame_addParent rex4 within unpaid (room rfl rex6 unpaid)
    · exact pushed.addFrameDiscardable 1
    · exact pushed

omit within rex4 reserved

/-! ### The frames beneath the top one -/

/-- The budgets of the frames beneath the top one are reserved. -/
def ReservedBelow (tracker : FrameLimitTracker CallFrameInfo) : Prop :=
  Reserved tracker.txEntry (tracker.frameStack.drop 1)

theorem HasReserve.below (reserved : tracker.HasReserve) : tracker.ReservedBelow :=
  Reserved.drop reserved 1

theorem ReservedBelow.addFrameDiscardable (reserved : tracker.ReservedBelow) (amount : Nat) :
    (tracker.addFrameDiscardable amount).ReservedBelow := by
  obtain ⟨txEntry, _ | ⟨entry, below⟩, _⟩ := tracker <;> exact reserved

theorem ReservedBelow.updateInfo (reserved : tracker.ReservedBelow)
    (update : CallFrameInfo → CallFrameInfo) : (tracker.updateInfo update).ReservedBelow := by
  obtain ⟨txEntry, _ | ⟨entry, below⟩, _⟩ := tracker <;> exact reserved

theorem ReservedBelow.addParentDiscardable (reserved : tracker.ReservedBelow) (amount : Nat) :
    (tracker.addParentDiscardable amount).ReservedBelow := by
  obtain ⟨txEntry, _ | ⟨entry, _ | ⟨parent, below⟩⟩, _⟩ := tracker
  · exact reserved
  · exact reserved
  · exact ⟨reserved.1, reserved.2⟩

theorem HasReserve.below_pushCallFrameInfo (reserved : tracker.HasReserve) (info : CallFrameInfo) :
    (tracker.pushCallFrameInfo info).ReservedBelow := by
  rw [FrameLimitTracker.pushCallFrameInfo]
  split <;> exact reserved

/-- Whatever the start of a frame charges, the frames that were there stay reserved. -/
theorem HasReserve.below_chargeFrameInit (reserved : tracker.HasReserve) (input : FrameInput) :
    (tracker.chargeFrameInit 1 input).ReservedBelow := by
  cases input with
  | call inputs =>
    have pushed :
        (tracker.pushCallFrame inputs.targetAddress inputs.transfersValue).1.ReservedBelow := by
      simp only [FrameLimitTracker.pushCallFrame]
      split
      · exact reserved.markParentPaid.below_pushCallFrameInfo _
      · exact reserved.below_pushCallFrameInfo _
    simp only [FrameLimitTracker.chargeFrameInit]
    split_ifs
    · exact pushed.addFrameDiscardable 1
    · exact pushed
    · exact (pushed.addFrameDiscardable 1).addFrameDiscardable 1
    · exact pushed.addFrameDiscardable 1
    · exact pushed
  | create inputs =>
    have pushed : tracker.pushCreateFrame.1.ReservedBelow := by
      simp only [FrameLimitTracker.pushCreateFrame]
      split
      · exact reserved.markParentPaid.below_pushCallFrameInfo _
      · exact reserved.below_pushCallFrameInfo _
    simp only [FrameLimitTracker.chargeFrameInit]
    split_ifs
    · exact pushed.addParentDiscardable 1
    · exact pushed.addFrameDiscardable 1
    · exact pushed

theorem ReservedBelow.chargeCreated (reserved : tracker.ReservedBelow) (address : Address) :
    (tracker.chargeCreated 1 address).ReservedBelow :=
  (reserved.updateInfo _).addFrameDiscardable 1

theorem HasReserve.chargeCreated (reserved : tracker.HasReserve) (address : Address) :
    (tracker.chargeCreated 1 address).HasReserve :=
  (reserved.updateInfo _).addFrameDiscardable 1

theorem HasReserve.chargeSstore (reserved : tracker.HasReserve) (store : SStoreResult) :
    (tracker.chargeSstore 1 store).HasReserve := by
  rw [FrameLimitTracker.chargeSstore]
  split_ifs
  · exact reserved
  · exact reserved.addFrameDiscardable 1
  · exact reserved.addFrameRefund 1
  · exact reserved

/-- Returning from a frame leaves the frames beneath it reserved. -/
theorem ReservedBelow.popFrameUnwindParent (reserved : tracker.ReservedBelow) (success : Bool) :
    (tracker.popFrameUnwindParent success).HasReserve := by
  have popped := reserved_popFrame reserved success
  rw [FrameLimitTracker.popFrameUnwindParent]
  revert popped
  rcases tracker.popFrame success with ⟨next, _ | child⟩
  · exact id
  · intro popped
    dsimp only
    split
    · exact popped.updateInfo _
    · exact popped

end FrameLimitTracker

end MegaEvm
