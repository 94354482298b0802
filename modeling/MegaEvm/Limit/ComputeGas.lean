/-
This file models the compute-gas tracker and the storage stipend of value calls. The
compute-gas tracker counts persistent usage only, and a transaction that reads
volatile data is detained: its limit drops to a cap, from Rex4 on to a cap above what
it has used so far.

The stipend of an internal value call is extra gas for storage. In Rex4 it inflates
the gas limit of the callee, whose compute budget is capped at the limit before, and
what is left of it is burned when the callee returns. From Rex5 on it is an allowance
beside the gas.
-/

import MegaEvm.Limit.AccountWrites

namespace MegaEvm

/-! ### Compute gas -/

structure ComputeGasTracker where
  rex1Enabled : Bool
  detainedLimit : Nat
  frameTracker : FrameLimitTracker Unit
deriving DecidableEq

namespace ComputeGasTracker

def new (spec : MegaSpecId) (txLimit : Nat) : ComputeGasTracker :=
  { rex1Enabled := spec.isEnabled .rex1
    detainedLimit := txLimit
    frameTracker := .new spec txLimit }

/-- The limit in force: the one of the transaction, or the detained one. -/
def txLimit (tracker : ComputeGasTracker) : Nat :=
  min tracker.frameTracker.txLimit tracker.detainedLimit

def txUsage (tracker : ComputeGasTracker) : Nat :=
  tracker.frameTracker.netUsage

/-- Forget the last transaction. Before Rex1 its detention stays. -/
def reset (tracker : ComputeGasTracker) : ComputeGasTracker :=
  { tracker with
    frameTracker := tracker.frameTracker.reset
    detainedLimit :=
      if tracker.rex1Enabled then tracker.frameTracker.txLimit else tracker.detainedLimit }

def pushFrame (tracker : ComputeGasTracker) : ComputeGasTracker :=
  { tracker with
    frameTracker :=
      if tracker.frameTracker.rex4Enabled then tracker.frameTracker.pushFrame ()
      else tracker.frameTracker.pushFrameWithLimit u64Max () }

/-- Detain the transaction. From Rex4 on the cap counts from the usage so far. -/
def setDetainedLimit (tracker : ComputeGasTracker) (cap : Nat) : ComputeGasTracker :=
  let newLimit :=
    if tracker.frameTracker.rex4Enabled then min (tracker.txUsage + cap) u64Max else cap
  { tracker with detainedLimit := min tracker.detainedLimit newLimit }

def currentCallRemaining (tracker : ComputeGasTracker) : Nat :=
  tracker.frameTracker.callRemaining tracker.txLimit

def isDetainedExceed (tracker : ComputeGasTracker) : Bool :=
  decide (tracker.detainedLimit < tracker.txUsage) &&
    decide (tracker.detainedLimit < tracker.frameTracker.txLimit)

/-- Lower the budget of the top frame. -/
def capCurrentFrameLimit (tracker : ComputeGasTracker) (cap : Nat) : ComputeGasTracker :=
  { tracker with
    frameTracker :=
      tracker.frameTracker.updateTop (fun entry => { entry with limit := min entry.limit cap }) 0 0
        (fun _ => rfl) (fun _ => rfl) }

/-- Charge the top frame, or the transaction when no frame is active. -/
def recordGasUsed (tracker : ComputeGasTracker) (gas : Nat) : ComputeGasTracker :=
  match tracker.frameTracker.addFramePersistent gas with
  | (charged, true) => { tracker with frameTracker := charged }
  | (_, false) => { tracker with frameTracker := tracker.frameTracker.addTxPersistent gas }

def mergePersistentUsage (tracker : ComputeGasTracker) (amount : Nat) : ComputeGasTracker :=
  { tracker with frameTracker := tracker.frameTracker.addTxPersistent amount }

def checkLimit (tracker : ComputeGasTracker) : LimitCheck :=
  tracker.frameTracker.checkAgainst .computeGas tracker.txLimit

def beforeFrameReturnResult (tracker : ComputeGasTracker) (success : Bool) : ComputeGasTracker :=
  { tracker with frameTracker := (tracker.frameTracker.popFrame success).1 }

end ComputeGasTracker

/-! ### Storage stipend -/

def storageCallStipend : Nat := 23000

/-- What a frame has left of its stipend, and whether its gas limit was inflated by it. -/
structure StipendFrame where
  remaining : Nat
  legacyInflated : Bool
deriving DecidableEq

def StipendFrame.default : StipendFrame :=
  { remaining := 0, legacyInflated := false }

/-- The stipends of the active frames, the top frame first. -/
structure StorageCallStipendTracker where
  stipendAmount : Nat
  rex5Enabled : Bool
  stack : List StipendFrame
deriving DecidableEq

namespace StorageCallStipendTracker

def new (spec : MegaSpecId) : StorageCallStipendTracker :=
  { stipendAmount := if spec.isEnabled .rex4 then storageCallStipend else 0
    rex5Enabled := spec.isEnabled .rex5
    stack := [] }

def reset (tracker : StorageCallStipendTracker) : StorageCallStipendTracker :=
  { tracker with stack := [] }

def push (tracker : StorageCallStipendTracker) (frame : StipendFrame) :
    StorageCallStipendTracker :=
  { tracker with stack := frame :: tracker.stack }

def pushEmptyFrame (tracker : StorageCallStipendTracker) : StorageCallStipendTracker :=
  tracker.push .default

/-- Pay from the allowance of the top frame as far as it goes. -/
def tryConsume (tracker : StorageCallStipendTracker) (amount : Nat) :
    StorageCallStipendTracker × Nat :=
  if tracker.rex5Enabled then
    match tracker.stack with
    | frame :: below =>
      let drained := min frame.remaining amount
      ({ tracker with stack := { frame with remaining := frame.remaining - drained } :: below },
        drained)
    | [] => (tracker, 0)
  else (tracker, 0)

/-- Internal value calls by `CALL` and `CALLCODE` get a stipend. -/
def detectGrant (tracker : StorageCallStipendTracker) (init : FrameInit) : Bool :=
  match init.input with
  | .call inputs =>
    tracker.stipendAmount != 0 && init.depth != 0 && inputs.transfersValue &&
      (inputs.scheme == .call || inputs.scheme == .callCode)
  | .create _ => false

/-- Grant the stipend of a new frame: from Rex5 on as an allowance, in Rex4 by inflating the gas
limit of the frame and capping its compute budget at the limit before. -/
def beforeFrameInit (tracker : StorageCallStipendTracker) (init : FrameInit)
    (computeGas : ComputeGasTracker) :
    StorageCallStipendTracker × FrameInit × ComputeGasTracker :=
  if tracker.detectGrant init then
    if tracker.rex5Enabled then
      (tracker.push { remaining := tracker.stipendAmount, legacyInflated := false }, init,
        computeGas)
    else
      match init.input with
      | .call inputs =>
        (tracker.push { remaining := tracker.stipendAmount, legacyInflated := true },
          { init with
            input := .call
              { inputs with gasLimit := min (inputs.gasLimit + tracker.stipendAmount) u64Max } },
          computeGas.capCurrentFrameLimit inputs.gasLimit)
      | .create _ => (tracker.pushEmptyFrame, init, computeGas)
  else (tracker.pushEmptyFrame, init, computeGas)

/-- Pop the top frame. In Rex4 what is left of the inflated gas above the limit before is burned. -/
def beforeFrameReturnResult (tracker : StorageCallStipendTracker) (result : FrameResult) :
    StorageCallStipendTracker × FrameResult :=
  let frame := tracker.stack.head?.getD .default
  let popped := { tracker with stack := tracker.stack.tail }
  if !tracker.rex5Enabled && frame.legacyInflated then
    let originalLimit := result.gas.limit - tracker.stipendAmount
    let burn := result.gas.remaining - originalLimit
    (popped, result.setGas { result.gas with remaining := result.gas.remaining - burn })
  else (popped, result)

def currentFrameStipend (tracker : StorageCallStipendTracker) : Nat :=
  (tracker.stack.head?.map StipendFrame.remaining).getD 0

/-- The gas of the top frame that may be rescued: in Rex4 without its stipend. -/
def effectiveRemainingForRescue (tracker : StorageCallStipendTracker) (gas : Gas) : Nat :=
  if tracker.rex5Enabled then gas.remaining
  else if 0 < tracker.currentFrameStipend then
    min gas.remaining (gas.limit - tracker.currentFrameStipend)
  else gas.remaining

end StorageCallStipendTracker

end MegaEvm
