/-
This file models the state-growth tracker: the net number of accounts and storage
slots a transaction adds to the state. A value call to an empty account and a create
count one account, the first write of an empty slot counts one slot, and clearing
such a slot or self-destructing an account of the same transaction refunds. All
growth of a frame is discardable.
-/

import MegaEvm.Revm.Interface

namespace MegaEvm

structure StateGrowthTracker where
  spec : MegaSpecId
  frameTracker : FrameLimitTracker Unit
deriving DecidableEq

namespace StateGrowthTracker

def new (spec : MegaSpecId) (txLimit : Nat) : StateGrowthTracker :=
  { spec, frameTracker := .new spec txLimit }

def txLimit (tracker : StateGrowthTracker) : Nat :=
  tracker.frameTracker.txLimit

def txUsage (tracker : StateGrowthTracker) : Nat :=
  tracker.frameTracker.netUsage

def reset (tracker : StateGrowthTracker) : StateGrowthTracker :=
  { tracker with frameTracker := tracker.frameTracker.reset }

def pushFrame (tracker : StateGrowthTracker) : StateGrowthTracker :=
  { tracker with
    frameTracker :=
      if tracker.spec.isEnabled .rex4 then tracker.frameTracker.pushFrame ()
      else tracker.frameTracker.pushFrameWithLimit u64Max () }

def recordGrowth (tracker : StateGrowthTracker) (amount : Nat) : StateGrowthTracker :=
  { tracker with frameTracker := tracker.frameTracker.addFrameDiscardable amount }

def recordRefund (tracker : StateGrowthTracker) (amount : Nat) : StateGrowthTracker :=
  { tracker with frameTracker := tracker.frameTracker.addFrameRefund amount }

/-- Growth that belongs to the transaction: the sender a deposit creates, accounts of an
authorization list, and the usage of a nested sandbox. -/
def mergePersistentUsage (tracker : StateGrowthTracker) (amount : Nat) : StateGrowthTracker :=
  { tracker with frameTracker := tracker.frameTracker.addTxPersistent amount }

def recordDepositCallerCreation (tracker : StateGrowthTracker) : StateGrowthTracker :=
  tracker.mergePersistentUsage 1

def recordAuthorityCreations (tracker : StateGrowthTracker) (amount : Nat) : StateGrowthTracker :=
  tracker.mergePersistentUsage amount

def currentCallRemaining (tracker : StateGrowthTracker) : Nat :=
  let txRemaining := tracker.frameTracker.txLimit - tracker.frameTracker.netUsage
  if tracker.spec.isEnabled .rex4 then min tracker.frameTracker.currentFrameRemaining txRemaining
  else txRemaining

def checkLimit (tracker : StateGrowthTracker) : LimitCheck :=
  let frameCheck := tracker.frameTracker.exceedsCurrentFrameLimit .stateGrowth
  if tracker.spec.isEnabled .rex4 && frameCheck.exceededLimit then frameCheck
  else if tracker.frameTracker.txLimit < tracker.txUsage then
    .exceedsLimit .stateGrowth tracker.frameTracker.txLimit tracker.txUsage false
  else .withinLimit

/-- Push the frame of a call or a create and count the account it materialises. From Rex6 on a
create onto an account that exists counts nothing. -/
def beforeFrameInit (tracker : StateGrowthTracker) (journal : JournalInspect) :
    FrameInput → Option StateGrowthTracker
  | .call inputs =>
    if inputs.transfersValue then
      let inspected :=
        if tracker.spec.isEnabled .rex5 then journal.inspectAccount inputs.targetAddress
        else journal.inspectAccountDelegated tracker.spec inputs.targetAddress
      inspected.map fun account =>
        if account.isEmpty then tracker.pushFrame.recordGrowth 1 else tracker.pushFrame
    else some tracker.pushFrame
  | .create inputs =>
    if tracker.spec.isEnabled .rex6 then
      (journal.inspectAccount inputs.caller).bind fun caller =>
        (journal.inspectAccount (inputs.createdAddress caller.info.nonce)).map fun account =>
          if account.isEmpty then tracker.pushFrame.recordGrowth 1 else tracker.pushFrame
    else some (tracker.pushFrame.recordGrowth 1)

/-- A slot that is zero at the start of the transaction grows the state when it becomes non-zero
and refunds when it becomes zero again. -/
def afterSstore (tracker : StateGrowthTracker) (store : SStoreResult) : StateGrowthTracker :=
  match store.originalValue == 0, store.presentValue == 0, store.newValue == 0 with
  | true, true, false => tracker.recordGrowth 1
  | true, false, true => tracker.recordRefund 1
  | _, _, _ => tracker

def beforeFrameReturnResult (tracker : StateGrowthTracker) (success : Bool) :
    StateGrowthTracker :=
  { tracker with frameTracker := (tracker.frameTracker.popFrame success).1 }

def afterSelfdestruct (tracker : StateGrowthTracker) (refund : Nat) : StateGrowthTracker :=
  tracker.recordRefund refund

end StateGrowthTracker

end MegaEvm
