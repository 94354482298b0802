/-
This file models the frame-aware usage tracker that the four resource limits share.
Each call frame has a lane of persistent usage, which survives a revert, a lane of
discardable usage and a lane of refunds, which a revert drops together. The
transaction has an entry of its own beneath the stack. The tracker caches the total
usage and the total refund; that the caches are the sums over the entries is a field
of the tracker, so that every operation has to keep it.

The top of the stack is the head of the list. The budget of a child frame is the
98/100 share of what its parent has left.
-/

import Mathlib.Algebra.BigOperators.Group.List.Basic
import MegaEvm.Spec

namespace MegaEvm

/-! ### Verdicts -/

/-- The four resource dimensions. -/
inductive LimitKind
  | dataSize
  | kvUpdate
  | computeGas
  | stateGrowth
deriving DecidableEq

/-- The number of a dimension in the revert data. -/
def LimitKind.asU8 : LimitKind → Nat
  | dataSize => 0
  | kvUpdate => 1
  | computeGas => 2
  | stateGrowth => 3

/-- The verdict of a limit check. An exceed is either local to one call frame or concerns the
whole transaction. -/
inductive LimitCheck
  | withinLimit
  | exceedsLimit (kind : LimitKind) (limit used : Nat) (frameLocal : Bool)
  | exempt
deriving DecidableEq

/-- The data a frame reverts with when a limit stops it: nothing, or the error
`MegaLimitExceeded(kind, limit)`. -/
inductive LimitRevertData
  | empty
  | megaLimitExceeded (kind limit : Nat)
deriving DecidableEq

namespace LimitCheck

def exceededLimit : LimitCheck → Bool
  | exceedsLimit .. => true
  | _ => false

def isWithinLimit : LimitCheck → Bool
  | withinLimit => true
  | _ => false

def isExempt : LimitCheck → Bool
  | exempt => true
  | _ => false

def isFrameLocal : LimitCheck → Bool
  | exceedsLimit _ _ _ true => true
  | _ => false

def revertData : LimitCheck → LimitRevertData
  | exceedsLimit kind limit _ _ => .megaLimitExceeded kind.asU8 limit
  | _ => .empty

/-- The verdict is an exceed of the whole transaction. -/
def IsTxExceed (check : LimitCheck) : Prop :=
  ∃ kind limit used, check = exceedsLimit kind limit used false

instance (check : LimitCheck) : Decidable check.IsTxExceed :=
  match check with
  | withinLimit => isFalse (by rintro ⟨_, _, _, impossible⟩; cases impossible)
  | exempt => isFalse (by rintro ⟨_, _, _, impossible⟩; cases impossible)
  | exceedsLimit _ _ _ true => isFalse (by rintro ⟨_, _, _, impossible⟩; cases impossible)
  | exceedsLimit kind limit used false => isTrue ⟨kind, limit, used, rfl⟩

@[simp] theorem exceededLimit_withinLimit : withinLimit.exceededLimit = false := rfl

theorem isWithinLimit_iff (check : LimitCheck) :
    check.isWithinLimit = true ↔ check = withinLimit := by
  cases check <;> simp [isWithinLimit]

end LimitCheck

/-! ### Entries -/

/-- The usage of one frame, or of the transaction itself. -/
structure FrameLimitEntry (Info : Type) where
  limit : Nat
  persistentUsage : Nat
  discardableUsage : Nat
  refund : Nat
  info : Info
deriving DecidableEq

namespace FrameLimitEntry

variable {Info ChildInfo : Type}

/-- A fresh entry with nothing used. -/
def new (limit : Nat) (info : Info) : FrameLimitEntry Info :=
  { limit, persistentUsage := 0, discardableUsage := 0, refund := 0, info }

def used (entry : FrameLimitEntry Info) : Nat :=
  entry.persistentUsage + entry.discardableUsage

def remaining (entry : FrameLimitEntry Info) : Nat :=
  entry.limit - (entry.used - entry.refund)

/-- What a finished child leaves in the entry beneath it: its persistent usage in any case, its
discardable usage and its refund only when it succeeded. -/
def absorb (entry : FrameLimitEntry Info) (child : FrameLimitEntry ChildInfo) (success : Bool) :
    FrameLimitEntry Info :=
  { entry with
    persistentUsage := entry.persistentUsage + child.persistentUsage
    discardableUsage :=
      if success then entry.discardableUsage + child.discardableUsage
      else entry.discardableUsage
    refund := if success then entry.refund + child.refund else entry.refund }

variable (entry : FrameLimitEntry Info) (child : FrameLimitEntry ChildInfo) (limit : Nat)
  (info : Info)

@[simp] theorem used_new : (new limit info).used = 0 := rfl

@[simp] theorem refund_new : (new limit info).refund = 0 := rfl

theorem used_absorb_true : (entry.absorb child true).used = entry.used + child.used := by
  simp only [absorb, used, if_true]
  omega

theorem used_absorb_false :
    (entry.absorb child false).used = entry.used + child.persistentUsage := by
  simp only [absorb, used, Bool.false_eq_true, if_false]
  omega

@[simp] theorem refund_absorb_true :
    (entry.absorb child true).refund = entry.refund + child.refund := rfl

@[simp] theorem refund_absorb_false : (entry.absorb child false).refund = entry.refund := rfl

@[simp] theorem limit_absorb (success : Bool) :
    (entry.absorb child success).limit = entry.limit := rfl

end FrameLimitEntry

/-! ### The tracker -/

/-- The entries of a transaction and of its active frames, with the cached totals. -/
structure FrameLimitTracker (Info : Type) where
  txEntry : FrameLimitEntry Unit
  frameStack : List (FrameLimitEntry Info)
  rex4Enabled : Bool
  rex5Enabled : Bool
  rex6Enabled : Bool
  cachedTotalUsed : Nat
  cachedTotalRefund : Nat
  usedSynced : cachedTotalUsed = txEntry.used + (frameStack.map FrameLimitEntry.used).sum
  refundSynced : cachedTotalRefund = txEntry.refund + (frameStack.map FrameLimitEntry.refund).sum
deriving DecidableEq

namespace FrameLimitTracker

variable {Info : Type}

/-- The numerator of the share of its remaining budget a frame forwards to a child. -/
def frameLimitNumerator : Nat := 98

def frameLimitDenominator : Nat := 100

def new (spec : MegaSpecId) (txLimit : Nat) : FrameLimitTracker Info where
  txEntry := .new txLimit ()
  frameStack := []
  rex4Enabled := spec.isEnabled .rex4
  rex5Enabled := spec.isEnabled .rex5
  rex6Enabled := spec.isEnabled .rex6
  cachedTotalUsed := 0
  cachedTotalRefund := 0
  usedSynced := rfl
  refundSynced := rfl

def txLimit (tracker : FrameLimitTracker Info) : Nat :=
  tracker.txEntry.limit

/-- Forget the usage of the last transaction. -/
def reset (tracker : FrameLimitTracker Info) : FrameLimitTracker Info :=
  { tracker with
    txEntry := { tracker.txEntry with persistentUsage := 0, discardableUsage := 0, refund := 0 }
    frameStack := []
    cachedTotalUsed := 0
    cachedTotalRefund := 0
    usedSynced := rfl
    refundSynced := rfl }

def currentFrameRemaining (tracker : FrameLimitTracker Info) : Nat :=
  match tracker.frameStack with
  | entry :: _ => entry.remaining
  | [] => tracker.txEntry.remaining

/-- The budget of the next frame. -/
def maxForwardLimit (tracker : FrameLimitTracker Info) : Nat :=
  match tracker.frameStack with
  | entry :: _ => entry.remaining * frameLimitNumerator / frameLimitDenominator
  | [] => tracker.txEntry.remaining

def pushFrameWithLimit (tracker : FrameLimitTracker Info) (limit : Nat) (info : Info) :
    FrameLimitTracker Info :=
  { tracker with
    frameStack := .new limit info :: tracker.frameStack
    usedSynced := by
      rw [tracker.usedSynced, List.map_cons, List.sum_cons, FrameLimitEntry.used_new, zero_add]
    refundSynced := by
      rw [tracker.refundSynced, List.map_cons, List.sum_cons, FrameLimitEntry.refund_new,
        zero_add] }

def pushFrame (tracker : FrameLimitTracker Info) (info : Info) : FrameLimitTracker Info :=
  tracker.pushFrameWithLimit tracker.maxForwardLimit info

/-- Pop the top frame into the frame beneath it, or into the transaction when it was the last. -/
def popFrame (tracker : FrameLimitTracker Info) (success : Bool) :
    FrameLimitTracker Info × Option (FrameLimitEntry Info) :=
  match tracker with
  | ⟨txEntry, child :: parent :: below, rex4, rex5, rex6, totalUsed, totalRefund, usedSynced,
      refundSynced⟩ =>
    ({  txEntry
        frameStack := parent.absorb child success :: below
        rex4Enabled := rex4
        rex5Enabled := rex5
        rex6Enabled := rex6
        cachedTotalUsed := if success then totalUsed else totalUsed - child.discardableUsage
        cachedTotalRefund := if success then totalRefund else totalRefund - child.refund
        usedSynced := by
          simp only [List.map_cons, List.sum_cons] at usedSynced ⊢
          cases success with
          | true => rw [if_pos rfl, FrameLimitEntry.used_absorb_true]; omega
          | false =>
            rw [if_neg Bool.false_ne_true, FrameLimitEntry.used_absorb_false]
            simp only [FrameLimitEntry.used] at usedSynced ⊢
            omega
        refundSynced := by
          simp only [List.map_cons, List.sum_cons] at refundSynced ⊢
          cases success with
          | true => rw [if_pos rfl, FrameLimitEntry.refund_absorb_true]; omega
          | false => rw [if_neg Bool.false_ne_true, FrameLimitEntry.refund_absorb_false]; omega },
      some child)
  | ⟨txEntry, [child], rex4, rex5, rex6, totalUsed, totalRefund, usedSynced, refundSynced⟩ =>
    ({  txEntry := txEntry.absorb child success
        frameStack := []
        rex4Enabled := rex4
        rex5Enabled := rex5
        rex6Enabled := rex6
        cachedTotalUsed := if success then totalUsed else totalUsed - child.discardableUsage
        cachedTotalRefund := if success then totalRefund else totalRefund - child.refund
        usedSynced := by
          simp only [List.map_cons, List.sum_cons, List.map_nil, List.sum_nil] at usedSynced ⊢
          cases success with
          | true => rw [if_pos rfl, FrameLimitEntry.used_absorb_true]; omega
          | false =>
            rw [if_neg Bool.false_ne_true, FrameLimitEntry.used_absorb_false]
            simp only [FrameLimitEntry.used] at usedSynced ⊢
            omega
        refundSynced := by
          simp only [List.map_cons, List.sum_cons, List.map_nil, List.sum_nil] at refundSynced ⊢
          cases success with
          | true => rw [if_pos rfl, FrameLimitEntry.refund_absorb_true]; omega
          | false => rw [if_neg Bool.false_ne_true, FrameLimitEntry.refund_absorb_false]; omega },
      some child)
  | tracker => (tracker, none)

/-- The verdict on the top frame: its net usage against its own budget. -/
def exceedsCurrentFrameLimit (tracker : FrameLimitTracker Info) (kind : LimitKind) : LimitCheck :=
  match tracker.frameStack with
  | entry :: _ =>
    if entry.limit < entry.used - entry.refund then
      .exceedsLimit kind entry.limit entry.used true
    else .withinLimit
  | [] => .withinLimit

def hasActiveFrame (tracker : FrameLimitTracker Info) : Bool :=
  !tracker.frameStack.isEmpty

def netUsage (tracker : FrameLimitTracker Info) : Nat :=
  tracker.cachedTotalUsed - tracker.cachedTotalRefund

/-- Charge the transaction itself. -/
def addTxPersistent (tracker : FrameLimitTracker Info) (amount : Nat) : FrameLimitTracker Info :=
  { tracker with
    txEntry :=
      { tracker.txEntry with persistentUsage := tracker.txEntry.persistentUsage + amount }
    cachedTotalUsed := tracker.cachedTotalUsed + amount
    usedSynced := by
      rw [tracker.usedSynced]
      simp only [FrameLimitEntry.used]
      omega }

/-- Change the top entry by a function that adds `used` to its usage and `refund` to its refund,
together with the caches. -/
def updateTop (tracker : FrameLimitTracker Info)
    (update : FrameLimitEntry Info → FrameLimitEntry Info) (used refund : Nat)
    (addsUsed : ∀ entry, (update entry).used = entry.used + used)
    (addsRefund : ∀ entry, (update entry).refund = entry.refund + refund) :
    FrameLimitTracker Info :=
  match tracker with
  | ⟨txEntry, entry :: below, rex4, rex5, rex6, totalUsed, totalRefund, usedSynced,
      refundSynced⟩ =>
    { txEntry
      frameStack := update entry :: below
      rex4Enabled := rex4
      rex5Enabled := rex5
      rex6Enabled := rex6
      cachedTotalUsed := totalUsed + used
      cachedTotalRefund := totalRefund + refund
      usedSynced := by
        simp only [List.map_cons, List.sum_cons, addsUsed] at usedSynced ⊢
        omega
      refundSynced := by
        simp only [List.map_cons, List.sum_cons, addsRefund] at refundSynced ⊢
        omega }
  | tracker => tracker

/-- Charge the top frame for good. Says whether there was one. -/
def addFramePersistent (tracker : FrameLimitTracker Info) (amount : Nat) :
    FrameLimitTracker Info × Bool :=
  (tracker.updateTop
      (fun entry => { entry with persistentUsage := entry.persistentUsage + amount }) amount 0
      (fun entry => by simp only [FrameLimitEntry.used]; omega) (fun _ => rfl),
    tracker.hasActiveFrame)

/-- Charge the top frame until it reverts. -/
def addFrameDiscardable (tracker : FrameLimitTracker Info) (amount : Nat) :
    FrameLimitTracker Info :=
  tracker.updateTop
    (fun entry => { entry with discardableUsage := entry.discardableUsage + amount }) amount 0
    (fun entry => by simp only [FrameLimitEntry.used]; omega) (fun _ => rfl)

def addFrameRefund (tracker : FrameLimitTracker Info) (amount : Nat) : FrameLimitTracker Info :=
  tracker.updateTop (fun entry => { entry with refund := entry.refund + amount }) 0 amount
    (fun _ => rfl) (fun _ => rfl)

/-- Change what the top frame records besides its usage. -/
def updateInfo (tracker : FrameLimitTracker Info) (update : Info → Info) :
    FrameLimitTracker Info :=
  tracker.updateTop (fun entry => { entry with info := update entry.info }) 0 0
    (fun _ => rfl) (fun _ => rfl)

/-- Charge the frame beneath the top one until it reverts. The first frame has none beneath it
and charges nothing. -/
def addParentDiscardable (tracker : FrameLimitTracker Info) (amount : Nat) :
    FrameLimitTracker Info :=
  match tracker with
  | ⟨txEntry, current :: parent :: below, rex4, rex5, rex6, totalUsed, totalRefund, usedSynced,
      refundSynced⟩ =>
    { txEntry
      frameStack :=
        current :: { parent with discardableUsage := parent.discardableUsage + amount } :: below
      rex4Enabled := rex4
      rex5Enabled := rex5
      rex6Enabled := rex6
      cachedTotalUsed := totalUsed + amount
      cachedTotalRefund := totalRefund
      usedSynced := by
        simp only [List.map_cons, List.sum_cons, FrameLimitEntry.used] at usedSynced ⊢
        omega
      refundSynced := by
        simp only [List.map_cons, List.sum_cons] at refundSynced ⊢
        omega }
  | tracker => tracker

/-! ### What the operations do to the entries -/

/-- The cached net usage is the one the entries sum to. -/
theorem netUsage_eq (tracker : FrameLimitTracker Info) :
    tracker.netUsage =
      (tracker.txEntry.used + (tracker.frameStack.map FrameLimitEntry.used).sum) -
        (tracker.txEntry.refund + (tracker.frameStack.map FrameLimitEntry.refund).sum) := by
  rw [netUsage, tracker.usedSynced, tracker.refundSynced]

/-- The entries and the specification are the whole tracker: the caches follow from them. -/
theorem eq_of_entries {first second : FrameLimitTracker Info}
    (txEntry : first.txEntry = second.txEntry) (frameStack : first.frameStack = second.frameStack)
    (rex4 : first.rex4Enabled = second.rex4Enabled) (rex5 : first.rex5Enabled = second.rex5Enabled)
    (rex6 : first.rex6Enabled = second.rex6Enabled) : first = second := by
  obtain ⟨_, _, _, _, _, _, _, rfl, rfl⟩ := first
  obtain ⟨_, _, _, _, _, _, _, rfl, rfl⟩ := second
  dsimp only at txEntry frameStack rex4 rex5 rex6
  subst txEntry frameStack rex4 rex5 rex6
  rfl

section Operations

variable (tracker : FrameLimitTracker Info) (amount : Nat)
  (update : FrameLimitEntry Info → FrameLimitEntry Info) (info : Info) (used refund : Nat)
  (addsUsed : ∀ entry, (update entry).used = entry.used + used)
  (addsRefund : ∀ entry, (update entry).refund = entry.refund + refund)

@[simp] theorem pushFrame_frameStack :
    (tracker.pushFrame info).frameStack =
      .new tracker.maxForwardLimit info :: tracker.frameStack := rfl

@[simp] theorem pushFrame_txEntry :
    (tracker.pushFrame info).txEntry = tracker.txEntry := rfl

theorem updateTop_frameStack :
    (tracker.updateTop update used refund addsUsed addsRefund).frameStack =
      tracker.frameStack.modifyHead update := by
  obtain ⟨_, frames, _⟩ := tracker
  cases frames <;> rfl

theorem updateTop_txEntry :
    (tracker.updateTop update used refund addsUsed addsRefund).txEntry = tracker.txEntry := by
  obtain ⟨_, frames, _⟩ := tracker
  cases frames <;> rfl

@[simp] theorem addFrameDiscardable_frameStack :
    (tracker.addFrameDiscardable amount).frameStack =
      tracker.frameStack.modifyHead fun entry =>
        { entry with discardableUsage := entry.discardableUsage + amount } :=
  updateTop_frameStack ..

@[simp] theorem addFrameDiscardable_txEntry :
    (tracker.addFrameDiscardable amount).txEntry = tracker.txEntry :=
  updateTop_txEntry ..

theorem addFrameDiscardable_cachedTotals (active : tracker.frameStack ≠ []) :
    (tracker.addFrameDiscardable amount).cachedTotalUsed = tracker.cachedTotalUsed + amount ∧
      (tracker.addFrameDiscardable amount).cachedTotalRefund = tracker.cachedTotalRefund := by
  obtain ⟨_, frames, _⟩ := tracker
  cases frames with
  | nil => exact absurd rfl active
  | cons => exact ⟨rfl, rfl⟩

theorem addFrameRefund_cachedTotals (active : tracker.frameStack ≠ []) :
    (tracker.addFrameRefund amount).cachedTotalUsed = tracker.cachedTotalUsed ∧
      (tracker.addFrameRefund amount).cachedTotalRefund = tracker.cachedTotalRefund + amount := by
  obtain ⟨_, frames, _⟩ := tracker
  cases frames with
  | nil => exact absurd rfl active
  | cons => exact ⟨rfl, rfl⟩

@[simp] theorem addFrameRefund_frameStack :
    (tracker.addFrameRefund amount).frameStack =
      tracker.frameStack.modifyHead fun entry => { entry with refund := entry.refund + amount } :=
  updateTop_frameStack ..

@[simp] theorem addFrameRefund_txEntry :
    (tracker.addFrameRefund amount).txEntry = tracker.txEntry :=
  updateTop_txEntry ..

@[simp] theorem addFramePersistent_frameStack :
    (tracker.addFramePersistent amount).1.frameStack =
      tracker.frameStack.modifyHead fun entry =>
        { entry with persistentUsage := entry.persistentUsage + amount } := by
  simp only [addFramePersistent, updateTop_frameStack]

@[simp] theorem addFramePersistent_txEntry :
    (tracker.addFramePersistent amount).1.txEntry = tracker.txEntry := by
  simp only [addFramePersistent, updateTop_txEntry]

@[simp] theorem updateInfo_frameStack (update : Info → Info) :
    (tracker.updateInfo update).frameStack =
      tracker.frameStack.modifyHead fun entry => { entry with info := update entry.info } :=
  updateTop_frameStack ..

@[simp] theorem updateInfo_txEntry (update : Info → Info) :
    (tracker.updateInfo update).txEntry = tracker.txEntry :=
  updateTop_txEntry ..

end Operations

/-- Popping the only frame merges it into the transaction. -/
theorem popFrame_single {tracker : FrameLimitTracker Info} {child : FrameLimitEntry Info}
    (frames : tracker.frameStack = [child]) (success : Bool) :
    (tracker.popFrame success).1.frameStack = [] ∧
      (tracker.popFrame success).1.txEntry = tracker.txEntry.absorb child success := by
  obtain ⟨_, stack, _⟩ := tracker
  subst frames
  exact ⟨rfl, rfl⟩

/-- Popping a nested frame merges it into the frame beneath. -/
theorem popFrame_nested {tracker : FrameLimitTracker Info}
    {child parent : FrameLimitEntry Info} {below : List (FrameLimitEntry Info)}
    (frames : tracker.frameStack = child :: parent :: below) (success : Bool) :
    (tracker.popFrame success).1.frameStack = parent.absorb child success :: below ∧
      (tracker.popFrame success).1.txEntry = tracker.txEntry := by
  obtain ⟨_, stack, _⟩ := tracker
  subst frames
  exact ⟨rfl, rfl⟩

theorem popFrame_empty {tracker : FrameLimitTracker Info} (frames : tracker.frameStack = [])
    (success : Bool) : tracker.popFrame success = (tracker, none) := by
  obtain ⟨_, stack, _⟩ := tracker
  subst frames
  rfl

end FrameLimitTracker

/-! ### Frames that deduplicate account writes -/

/-- What the data-size and key-value trackers record about a frame: the account it runs on, whether
the write of that account is already paid for, and whether entering this frame is what marked the
write of the parent's account as paid. -/
structure CallFrameInfo where
  targetAddress : Option Address
  targetUpdated : Bool
  chargedParentUpdate : Bool
deriving DecidableEq

namespace FrameLimitTracker

/-- Push a frame with the budget of the specification: before Rex4 frames have none. -/
def pushCallFrameInfo (tracker : FrameLimitTracker CallFrameInfo) (info : CallFrameInfo) :
    FrameLimitTracker CallFrameInfo :=
  if tracker.rex4Enabled then tracker.pushFrame info
  else tracker.pushFrameWithLimit u64Max info

/-- Push a frame for a call that is answered without running. -/
def pushDummyFrame (tracker : FrameLimitTracker CallFrameInfo) :
    FrameLimitTracker CallFrameInfo :=
  tracker.pushCallFrameInfo
    { targetAddress := none, targetUpdated := false, chargedParentUpdate := false }

/-- There is a frame on the stack whose own account write is not paid for yet. -/
def parentUnpaid (tracker : FrameLimitTracker CallFrameInfo) : Bool :=
  match tracker.frameStack with
  | entry :: _ => !entry.info.targetUpdated
  | [] => false

/-- From Rex5 on, mark the account write of the top frame as paid. -/
def markParentPaid (tracker : FrameLimitTracker CallFrameInfo) :
    FrameLimitTracker CallFrameInfo :=
  if tracker.rex5Enabled then tracker.updateInfo fun info => { info with targetUpdated := true }
  else tracker

/-- Push the frame of a call. Says whether the write of the caller's account is still to be
charged. -/
def pushCallFrame (tracker : FrameLimitTracker CallFrameInfo) (target : Address)
    (hasTransfer : Bool) : FrameLimitTracker CallFrameInfo × Bool :=
  let parentNeedsUpdate := hasTransfer && tracker.parentUnpaid
  let marked := if parentNeedsUpdate then tracker.markParentPaid else tracker
  (marked.pushCallFrameInfo
      { targetAddress := some target
        targetUpdated := hasTransfer
        chargedParentUpdate := tracker.rex5Enabled && parentNeedsUpdate },
    parentNeedsUpdate)

/-- Push the frame of a create. The creator's nonce always changes, so its account is written
whether or not value moves. From Rex6 on the charge lives with the creator and a failed create
does not take it back. -/
def pushCreateFrame (tracker : FrameLimitTracker CallFrameInfo) :
    FrameLimitTracker CallFrameInfo × Bool :=
  let parentNeedsUpdate := tracker.parentUnpaid
  let marked := if parentNeedsUpdate then tracker.markParentPaid else tracker
  (marked.pushCallFrameInfo
      { targetAddress := none
        targetUpdated := true
        chargedParentUpdate := tracker.rex5Enabled && parentNeedsUpdate && !tracker.rex6Enabled },
    parentNeedsUpdate)

/-- Record the address of the account a create frame makes. The source asserts that none was
recorded before. -/
def setCreatedAddress (tracker : FrameLimitTracker CallFrameInfo) (address : Address) :
    FrameLimitTracker CallFrameInfo :=
  tracker.updateInfo fun info => { info with targetAddress := some address }

/-- Pop the top frame. A failed frame that had marked its parent's account write as paid unmarks
it, since its own charge for that write is dropped with it. -/
def popFrameUnwindParent (tracker : FrameLimitTracker CallFrameInfo) (success : Bool) :
    FrameLimitTracker CallFrameInfo :=
  match tracker.popFrame success with
  | (popped, some child) =>
    if !success && child.info.chargedParentUpdate then
      popped.updateInfo fun info => { info with targetUpdated := false }
    else popped
  | (popped, none) => popped

end FrameLimitTracker

end MegaEvm
