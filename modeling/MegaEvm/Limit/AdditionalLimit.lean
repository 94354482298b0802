/-
This file models the object that ties the four resource trackers and the storage
stipend together. It latches the first exceed a check finds: a latched exceed of the
whole transaction stays until the next transaction, one that is local to a frame is
absorbed when that frame returns. The gas of frames that an exceed of the whole
transaction stops is rescued for the sender.

A check returns the verdict that is latched afterwards, so each function here that
checks returns only the new state, and its verdict is read from there.
-/

import MegaEvm.Limit.ComputeGas
import MegaEvm.Limit.StateGrowth

namespace MegaEvm

structure AdditionalLimit where
  hasExceededLimit : LimitCheck
  rescuedGas : Nat
  limits : EvmTxRuntimeLimits
  stateGrowth : StateGrowthTracker
  dataSize : DataSizeTracker
  kvUpdate : KVUpdateTracker
  computeGas : ComputeGasTracker
  storageCallStipend : StorageCallStipendTracker
deriving DecidableEq

/-- The usage of a transaction in the four dimensions. -/
structure LimitUsage where
  dataSize : Nat
  kvUpdates : Nat
  computeGas : Nat
  stateGrowth : Nat
deriving DecidableEq

namespace AdditionalLimit

def new (spec : MegaSpecId) (limits : EvmTxRuntimeLimits) : AdditionalLimit where
  hasExceededLimit := .withinLimit
  rescuedGas := 0
  limits := limits
  stateGrowth := .new spec limits.txStateGrowthLimit
  dataSize := .new spec limits.txDataSizeLimit
  kvUpdate := .new spec limits.txKvUpdatesLimit
  computeGas := .new spec limits.txComputeGasLimit
  storageCallStipend := .new spec

/-! ### Verdicts -/

/-- The status a frame stopped by a limit ends with. -/
def exceedingInstructionResult (limit : AdditionalLimit) : InstructionResult :=
  if limit.hasExceededLimit.isFrameLocal then .revert else .outOfGas

def reset (limit : AdditionalLimit) : AdditionalLimit :=
  { limit with
    hasExceededLimit := .withinLimit
    rescuedGas := 0
    computeGas := limit.computeGas.reset
    stateGrowth := limit.stateGrowth.reset
    dataSize := limit.dataSize.reset
    kvUpdate := limit.kvUpdate.reset
    storageCallStipend := limit.storageCallStipend.reset }

/-- System transactions are not limited, whatever they use. -/
def markExempt (limit : AdditionalLimit) : AdditionalLimit :=
  { limit with hasExceededLimit := .exempt }

def getUsage (limit : AdditionalLimit) : LimitUsage where
  dataSize := limit.dataSize.txUsage
  kvUpdates := limit.kvUpdate.txUsage
  computeGas := limit.computeGas.txUsage
  stateGrowth := limit.stateGrowth.txUsage

def setComputeGasLimit (limit : AdditionalLimit) (newLimit : Nat) : AdditionalLimit :=
  { limit with computeGas := limit.computeGas.setDetainedLimit newLimit }

/-- The first of the four trackers that is over a limit, in the order they are checked. -/
def firstExceed (limit : AdditionalLimit) : LimitCheck :=
  if limit.dataSize.checkLimit.exceededLimit then limit.dataSize.checkLimit
  else if limit.kvUpdate.checkLimit.exceededLimit then limit.kvUpdate.checkLimit
  else if limit.computeGas.checkLimit.exceededLimit then limit.computeGas.checkLimit
  else if limit.stateGrowth.checkLimit.exceededLimit then limit.stateGrowth.checkLimit
  else .withinLimit

/-- Latch the first exceed, unless a verdict is latched already. -/
def checkLimit (limit : AdditionalLimit) : AdditionalLimit :=
  if limit.hasExceededLimit.isWithinLimit then
    { limit with hasExceededLimit := limit.firstExceed }
  else limit

def limitExceeded (limit : AdditionalLimit) : Bool :=
  limit.hasExceededLimit.exceededLimit

/-! ### Gas -/

/-- Record compute gas and check that dimension alone. Says whether the transaction may go on. -/
def recordComputeGas (limit : AdditionalLimit) (gas : Nat) : AdditionalLimit × Bool :=
  let recorded := { limit with computeGas := limit.computeGas.recordGasUsed gas }
  if recorded.hasExceededLimit.isWithinLimit then
    let check := recorded.computeGas.checkLimit
    if check.exceededLimit then ({ recorded with hasExceededLimit := check }, false)
    else (recorded, true)
  else (recorded, !recorded.hasExceededLimit.exceededLimit)

/-- Record compute gas and check all dimensions. -/
def recordComputeGasAllDims (limit : AdditionalLimit) (gas : Nat) : AdditionalLimit × Bool :=
  let checked := { limit with computeGas := limit.computeGas.recordGasUsed gas }.checkLimit
  (checked, !checked.limitExceeded)

def rescueGas (limit : AdditionalLimit) (gas : Gas) : AdditionalLimit :=
  { limit with
    rescuedGas := limit.rescuedGas + limit.storageCallStipend.effectiveRemainingForRescue gas }

/-- Rescue the gas of a frame when an exceed of the whole transaction stops it. -/
def tryRescueGas (limit : AdditionalLimit) (gas : Gas) : AdditionalLimit :=
  let checked := limit.checkLimit
  if checked.limitExceeded && !checked.hasExceededLimit.isFrameLocal then checked.rescueGas gas
  else checked

def tryConsumeStorageStipend (limit : AdditionalLimit) (amount : Nat) : AdditionalLimit × Nat :=
  let (stipend, drained) := limit.storageCallStipend.tryConsume amount
  ({ limit with storageCallStipend := stipend }, drained)

/-! ### Before the first frame -/

def beforeTxStart (limit : AdditionalLimit) (tx : MegaTransaction) : AdditionalLimit :=
  { limit with
    dataSize := limit.dataSize.beforeTxStart tx
    kvUpdate := limit.kvUpdate.beforeTxStart tx }.checkLimit

def onRex5Eip7702AuthorityCreations (limit : AdditionalLimit) (amount : Nat) : AdditionalLimit :=
  { limit with stateGrowth := limit.stateGrowth.recordAuthorityCreations amount }.checkLimit

def onRex6Eip7702AuthorityApplied (limit : AdditionalLimit) (createsAuthority : Bool) :
    AdditionalLimit :=
  { limit with
    dataSize := limit.dataSize.recordPersistentAccountWrite
    kvUpdate := limit.kvUpdate.recordPersistentAccountUpdate
    stateGrowth :=
      if createsAuthority then limit.stateGrowth.recordAuthorityCreations 1
      else limit.stateGrowth }.checkLimit

def recordDepositCallerCreation (limit : AdditionalLimit) : AdditionalLimit :=
  { limit with stateGrowth := limit.stateGrowth.recordDepositCallerCreation }.checkLimit

/-- The verdict on what a transaction uses before its first frame, from a fresh tracker. -/
def intrinsicCheckForTx (spec : MegaSpecId) (tx : MegaTransaction) (limits : EvmTxRuntimeLimits) :
    LimitCheck :=
  (((new spec limits).beforeTxStart tx).recordComputeGas
    tx.initialGas).1.checkLimit.hasExceededLimit

/-! ### Frames -/

/-- Keep the stacks aligned for a call that is answered without a frame. -/
def pushEmptyFrame (limit : AdditionalLimit) : AdditionalLimit :=
  { limit with
    stateGrowth := limit.stateGrowth.pushFrame
    dataSize := limit.dataSize.pushEmptyFrame
    kvUpdate := limit.kvUpdate.pushEmptyFrame
    computeGas := limit.computeGas.pushFrame
    storageCallStipend := limit.storageCallStipend.pushEmptyFrame }

/-- The result of a frame that a latched exceed stops before it starts. -/
def exceededLimitResult (limit : AdditionalLimit) (input : FrameInput) : FrameResult :=
  let outcome : InterpreterResult :=
    { result := limit.exceedingInstructionResult
      output := .limit limit.hasExceededLimit.revertData
      gas := .new input.gasLimit }
  match input with
  | .call _ => .call outcome
  | .create _ => .create outcome none

/-- Stop a frame before it starts and rescue its gas. -/
def createExceededLimitResult (limit : AdditionalLimit) (input : FrameInput) :
    AdditionalLimit × FrameResult :=
  (limit.tryRescueGas (limit.exceededLimitResult input).gas, limit.exceededLimitResult input)

/-- The result of a frame that starts although an exceed is latched. -/
def frameResultIfExceedingLimit (limit : AdditionalLimit) (input : FrameInput) :
    AdditionalLimit × Option FrameResult :=
  if limit.limitExceeded then
    let (rescued, result) := limit.createExceededLimitResult input
    (rescued, some result)
  else (limit, none)

/-- Push the frame in every tracker, then check. Fails when an inspection of the journal does. -/
def beforeFrameInit (limit : AdditionalLimit) (journal : JournalInspect) (init : FrameInit) :
    Option (AdditionalLimit × FrameInit × Option FrameResult) :=
  (limit.stateGrowth.beforeFrameInit journal init.input).map fun stateGrowth =>
    let (stipend, init', computeGas) :=
      limit.storageCallStipend.beforeFrameInit init limit.computeGas.pushFrame
    let checked :=
      { limit with
        stateGrowth
        dataSize := limit.dataSize.beforeFrameInit init.input
        kvUpdate := limit.kvUpdate.beforeFrameInit init.input
        computeGas
        storageCallStipend := stipend }.checkLimit
    if checked.limitExceeded then
      let (rescued, result) := checked.createExceededLimitResult init'.input
      (rescued, init', some result)
    else (checked, init', none)

/-- What the engine made of a frame start: a frame, with the address it creates if it is a create
frame, or a result at once. -/
inductive FrameInitResult
  | item (created : Option Address)
  | result (frameResult : FrameResult)

def afterFrameInit (limit : AdditionalLimit) : FrameInitResult → AdditionalLimit
  | .item created =>
    { limit with
      dataSize := limit.dataSize.afterFrameInitOnFrame created
      kvUpdate := limit.kvUpdate.afterFrameInitOnFrame created }
  | .result frameResult => limit.tryRescueGas frameResult.gas

/-- Check before a frame runs or resumes. The result, if any, replaces running it. -/
def beforeFrameRun (limit : AdditionalLimit) (gas : Gas) :
    AdditionalLimit × Option InterpreterResult :=
  let checked := limit.checkLimit
  if checked.limitExceeded then
    (checked,
      some
        { result := checked.exceedingInstructionResult
          output := .limit checked.hasExceededLimit.revertData
          gas })
  else (checked, none)

/-- Count what a create frame returned as code, and stop it when a limit is exceeded. -/
def afterFrameRunInstructions (limit : AdditionalLimit) (isCreate : Bool)
    (result : InterpreterResult) : AdditionalLimit × InterpreterResult :=
  let counted :=
    { limit with dataSize := limit.dataSize.afterFrameRun isCreate result.output.length }
  if isCreate then
    let checked := counted.checkLimit
    if checked.limitExceeded then
      (checked,
        { result with
          result := checked.exceedingInstructionResult
          output := .limit checked.hasExceededLimit.revertData })
    else (checked, result)
  else (counted, result)

/-- Record the gas that finishing a frame took, if it is to be recorded, and rescue what is left
of it. -/
def afterFrameRun (limit : AdditionalLimit) (result : FrameResult)
    (gasRemainingBefore : Option Nat) : AdditionalLimit × FrameResult :=
  let (recorded, marked) :=
    match gasRemainingBefore with
    | some before =>
      match limit.recordComputeGas (before - result.gas.remaining) with
      | (recorded, true) => (recorded, result)
      | (recorded, false) =>
        (recorded, result.mark recorded.exceedingInstructionResult .empty)
    | none => (limit, result)
  (recorded.tryRescueGas marked.gas, marked)

/-- Pop the frame from every tracker and check. An exceed that is local to the frame becomes a
revert of it and is absorbed; one of the whole transaction becomes an out-of-gas. The last frame
is popped twice, and the second time nothing is left to pop and the result stays. -/
def beforeFrameReturnResult (limit : AdditionalLimit) (lastFrame : Bool) (result : FrameResult) :
    AdditionalLimit × FrameResult :=
  let duplicate := lastFrame && !limit.dataSize.hasActiveFrame
  let success := result.instructionResult.isOk
  let (stipend, burned) := limit.storageCallStipend.beforeFrameReturnResult result
  let checked :=
    { limit with
      stateGrowth := limit.stateGrowth.beforeFrameReturnResult success
      dataSize := limit.dataSize.beforeFrameReturnResult success
      kvUpdate := limit.kvUpdate.beforeFrameReturnResult success
      computeGas := limit.computeGas.beforeFrameReturnResult success
      storageCallStipend := stipend }.checkLimit
  if checked.limitExceeded && !duplicate then
    if checked.hasExceededLimit.isFrameLocal then
      ({ checked with hasExceededLimit := .withinLimit },
        burned.mark .revert (.limit checked.hasExceededLimit.revertData))
    else (checked, burned.mark .outOfGas .empty)
  else (checked, burned)

/-! ### Instructions -/

/-- Add the usage of a nested sandbox to the transaction. -/
def mergeUsage (limit : AdditionalLimit) (usage : LimitUsage) : AdditionalLimit :=
  { limit with
    computeGas := limit.computeGas.mergePersistentUsage usage.computeGas
    dataSize := limit.dataSize.mergePersistentUsage usage.dataSize
    kvUpdate := limit.kvUpdate.mergePersistentUsage usage.kvUpdates
    stateGrowth := limit.stateGrowth.mergePersistentUsage usage.stateGrowth }

def onSstore (limit : AdditionalLimit) (store : SStoreResult) : AdditionalLimit :=
  { limit with
    stateGrowth := limit.stateGrowth.afterSstore store
    dataSize := limit.dataSize.afterSstore store
    kvUpdate := limit.kvUpdate.afterSstore store }.checkLimit

def recordOracleHintBytes (limit : AdditionalLimit) (length : Nat) : AdditionalLimit :=
  { limit with dataSize := limit.dataSize.recordOracleHintBytes length }.checkLimit

def onLog (limit : AdditionalLimit) (numTopics dataSize : Nat) : AdditionalLimit :=
  { limit with dataSize := limit.dataSize.afterLog numTopics dataSize }.checkLimit

/-- The refund of an account that self-destructs in the transaction that created it. -/
def onSelfdestruct (limit : AdditionalLimit) (refund : Nat) : AdditionalLimit :=
  { limit with stateGrowth := limit.stateGrowth.afterSelfdestruct refund }

/-- The beneficiary of a self-destruct that comes into existence. Nothing is checked here. -/
def onSelfdestructNewAccount (limit : AdditionalLimit) : AdditionalLimit :=
  { limit with
    dataSize := limit.dataSize.recordAccountWrite
    kvUpdate := limit.kvUpdate.recordAccountUpdate
    stateGrowth := limit.stateGrowth.recordGrowth 1 }

/-- The beneficiary of a self-destruct that exists. Nothing is checked here. -/
def onSelfdestructExistingAccount (limit : AdditionalLimit) : AdditionalLimit :=
  { limit with
    dataSize := limit.dataSize.recordAccountWrite
    kvUpdate := limit.kvUpdate.recordAccountUpdate }

end AdditionalLimit

end MegaEvm
