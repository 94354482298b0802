/-
This file models the two trackers that count writes: the data-size tracker in bytes
and the key-value tracker in updates. Both deduplicate the account writes of value
calls and creates in the same way and differ in what a write costs; the data-size
tracker also counts the transaction itself, logs, deployed code and oracle hints.

The flags of the source's trackers are copies of the ones their frame trackers hold,
and only those are kept here.
-/

import MegaEvm.Revm.Interface
import MegaEvm.Transaction

namespace MegaEvm

/-! ### What the trackers share -/

namespace FrameLimitTracker

variable {Info : Type}

/-- The verdict of a tracker: from Rex4 on the top frame is checked against its own budget first,
then the whole transaction against `limit`. -/
def checkAgainst (tracker : FrameLimitTracker Info) (kind : LimitKind) (limit : Nat) :
    LimitCheck :=
  let frameCheck := tracker.exceedsCurrentFrameLimit kind
  if tracker.rex4Enabled && frameCheck.exceededLimit then frameCheck
  else if limit < tracker.netUsage then .exceedsLimit kind limit tracker.netUsage false
  else .withinLimit

/-- What the current call may still use. -/
def callRemaining (tracker : FrameLimitTracker Info) (limit : Nat) : Nat :=
  let txRemaining := limit - tracker.netUsage
  if tracker.rex4Enabled then min tracker.currentFrameRemaining txRemaining else txRemaining

/-- Push the frame of a call or a create and charge the account writes it causes at `cost` each.
A value call writes the caller, unless that write is paid for already, and the target; from Rex6
on a call to oneself writes one account. A create writes its creator: before Rex6 the child frame
pays for that, from Rex6 on the creator's own frame. -/
def chargeFrameInit (tracker : FrameLimitTracker CallFrameInfo) (cost : Nat) :
    FrameInput → FrameLimitTracker CallFrameInfo
  | .call inputs =>
    let (pushed, parentNeedsUpdate) :=
      tracker.pushCallFrame inputs.targetAddress inputs.transfersValue
    if inputs.transfersValue then
      let callerPaid := if parentNeedsUpdate then pushed.addFrameDiscardable cost else pushed
      if tracker.rex6Enabled && inputs.targetAddress == inputs.caller then callerPaid
      else callerPaid.addFrameDiscardable cost
    else pushed
  | .create _ =>
    let (pushed, parentNeedsUpdate) := tracker.pushCreateFrame
    if parentNeedsUpdate then
      if tracker.rex6Enabled then pushed.addParentDiscardable cost
      else pushed.addFrameDiscardable cost
    else pushed

/-- Charge the account a create frame makes, once the frame exists. -/
def chargeCreated (tracker : FrameLimitTracker CallFrameInfo) (cost : Nat) (address : Address) :
    FrameLimitTracker CallFrameInfo :=
  (tracker.setCreatedAddress address).addFrameDiscardable cost

/-- Charge the first write that changes a slot and refund the write that restores it. -/
def chargeSstore (tracker : FrameLimitTracker CallFrameInfo) (cost : Nat) (store : SStoreResult) :
    FrameLimitTracker CallFrameInfo :=
  if store.originalValue = store.presentValue then
    if store.originalValue = store.newValue then tracker else tracker.addFrameDiscardable cost
  else if store.originalValue = store.newValue then tracker.addFrameRefund cost
  else tracker

end FrameLimitTracker

/-! ### Data size -/

def baseTxSize : Nat := 110

def authorizationSize : Nat := 101

def logTopicSize : Nat := 32

/-- A SALT key and the delta of an account. -/
def accountInfoWriteSize : Nat := 8 + 32

/-- A SALT key and the delta of a slot. -/
def storageSlotWriteSize : Nat := 8 + 32

/-- The receipt overhead of a log, from Rex6 on. -/
def logBaseSize : Nat := 32

structure DataSizeTracker where
  frameTracker : FrameLimitTracker CallFrameInfo
deriving DecidableEq

namespace DataSizeTracker

def new (spec : MegaSpecId) (txLimit : Nat) : DataSizeTracker :=
  { frameTracker := .new spec txLimit }

def hasActiveFrame (tracker : DataSizeTracker) : Bool :=
  tracker.frameTracker.hasActiveFrame

def txLimit (tracker : DataSizeTracker) : Nat :=
  tracker.frameTracker.txLimit

def txUsage (tracker : DataSizeTracker) : Nat :=
  tracker.frameTracker.netUsage

def reset (tracker : DataSizeTracker) : DataSizeTracker :=
  { frameTracker := tracker.frameTracker.reset }

def recordDiscardable (tracker : DataSizeTracker) (size : Nat) : DataSizeTracker :=
  { frameTracker := tracker.frameTracker.addFrameDiscardable size }

/-- Usage that belongs to the transaction: hints to the oracle, authorities from Rex6 on, and the
usage of a nested sandbox. -/
def mergePersistentUsage (tracker : DataSizeTracker) (amount : Nat) : DataSizeTracker :=
  { frameTracker := tracker.frameTracker.addTxPersistent amount }

def recordOracleHintBytes (tracker : DataSizeTracker) (length : Nat) : DataSizeTracker :=
  tracker.mergePersistentUsage length

def recordAccountWrite (tracker : DataSizeTracker) : DataSizeTracker :=
  tracker.recordDiscardable accountInfoWriteSize

def recordPersistentAccountWrite (tracker : DataSizeTracker) : DataSizeTracker :=
  tracker.mergePersistentUsage accountInfoWriteSize

def currentCallRemaining (tracker : DataSizeTracker) : Nat :=
  tracker.frameTracker.callRemaining tracker.txLimit

def checkLimit (tracker : DataSizeTracker) : LimitCheck :=
  tracker.frameTracker.checkAgainst .dataSize tracker.txLimit

/-- The transaction itself, before Rex6 the write of every recoverable authority, and the write of
the caller. -/
def beforeTxStart (tracker : DataSizeTracker) (tx : MegaTransaction) : DataSizeTracker :=
  let intrinsic := tracker.mergePersistentUsage
    (baseTxSize + tx.inputLength + tx.accessListSizes.sum +
      tx.authorities.length * authorizationSize)
  let authorities :=
    if tracker.frameTracker.rex6Enabled then intrinsic
    else intrinsic.mergePersistentUsage (tx.recoverableAuthorities * accountInfoWriteSize)
  authorities.mergePersistentUsage accountInfoWriteSize

def pushEmptyFrame (tracker : DataSizeTracker) : DataSizeTracker :=
  { frameTracker := tracker.frameTracker.pushDummyFrame }

def beforeFrameInit (tracker : DataSizeTracker) (input : FrameInput) : DataSizeTracker :=
  { frameTracker := tracker.frameTracker.chargeFrameInit accountInfoWriteSize input }

/-- Only create frames have a created address. -/
def afterFrameInitOnFrame (tracker : DataSizeTracker) (created : Option Address) :
    DataSizeTracker :=
  match created with
  | some address =>
    { frameTracker := tracker.frameTracker.chargeCreated accountInfoWriteSize address }
  | none => tracker

/-- Whatever a create frame returns counts as deployed code. -/
def afterFrameRun (tracker : DataSizeTracker) (isCreate : Bool) (outputLength : Nat) :
    DataSizeTracker :=
  if isCreate then tracker.recordDiscardable outputLength else tracker

def beforeFrameReturnResult (tracker : DataSizeTracker) (success : Bool) : DataSizeTracker :=
  { frameTracker := tracker.frameTracker.popFrameUnwindParent success }

def afterSstore (tracker : DataSizeTracker) (store : SStoreResult) : DataSizeTracker :=
  { frameTracker := tracker.frameTracker.chargeSstore storageSlotWriteSize store }

def afterLog (tracker : DataSizeTracker) (numTopics dataSize : Nat) : DataSizeTracker :=
  let base := if tracker.frameTracker.rex6Enabled then logBaseSize else 0
  tracker.recordDiscardable (base + numTopics * logTopicSize + dataSize)

end DataSizeTracker

/-! ### Key-value updates -/

structure KVUpdateTracker where
  frameTracker : FrameLimitTracker CallFrameInfo
deriving DecidableEq

namespace KVUpdateTracker

def new (spec : MegaSpecId) (txLimit : Nat) : KVUpdateTracker :=
  { frameTracker := .new spec txLimit }

def txLimit (tracker : KVUpdateTracker) : Nat :=
  tracker.frameTracker.txLimit

def txUsage (tracker : KVUpdateTracker) : Nat :=
  tracker.frameTracker.netUsage

def reset (tracker : KVUpdateTracker) : KVUpdateTracker :=
  { frameTracker := tracker.frameTracker.reset }

def recordAccountUpdate (tracker : KVUpdateTracker) : KVUpdateTracker :=
  { frameTracker := tracker.frameTracker.addFrameDiscardable 1 }

def mergePersistentUsage (tracker : KVUpdateTracker) (amount : Nat) : KVUpdateTracker :=
  { frameTracker := tracker.frameTracker.addTxPersistent amount }

def recordPersistentAccountUpdate (tracker : KVUpdateTracker) : KVUpdateTracker :=
  tracker.mergePersistentUsage 1

def currentCallRemaining (tracker : KVUpdateTracker) : Nat :=
  tracker.frameTracker.callRemaining tracker.txLimit

def checkLimit (tracker : KVUpdateTracker) : LimitCheck :=
  tracker.frameTracker.checkAgainst .kvUpdate tracker.txLimit

/-- Before Rex6 one update for every recoverable authority, and one for the caller. -/
def beforeTxStart (tracker : KVUpdateTracker) (tx : MegaTransaction) : KVUpdateTracker :=
  let authorities :=
    if tracker.frameTracker.rex6Enabled then tracker
    else tracker.mergePersistentUsage tx.recoverableAuthorities
  authorities.mergePersistentUsage 1

def pushEmptyFrame (tracker : KVUpdateTracker) : KVUpdateTracker :=
  { frameTracker := tracker.frameTracker.pushDummyFrame }

def beforeFrameInit (tracker : KVUpdateTracker) (input : FrameInput) : KVUpdateTracker :=
  { frameTracker := tracker.frameTracker.chargeFrameInit 1 input }

def afterFrameInitOnFrame (tracker : KVUpdateTracker) (created : Option Address) :
    KVUpdateTracker :=
  match created with
  | some address => { frameTracker := tracker.frameTracker.chargeCreated 1 address }
  | none => tracker

def beforeFrameReturnResult (tracker : KVUpdateTracker) (success : Bool) : KVUpdateTracker :=
  { frameTracker := tracker.frameTracker.popFrameUnwindParent success }

def afterSstore (tracker : KVUpdateTracker) (store : SStoreResult) : KVUpdateTracker :=
  { frameTracker := tracker.frameTracker.chargeSstore 1 store }

end KVUpdateTracker

end MegaEvm
