/-
This file models the tracker of volatile data: which kinds of it a transaction has
read, the cap of compute gas the reads impose, and the journal depth from which on
reading it is disabled. A contract disables and enables the access by calling the
access control contract, whose calls are intercepted and answered without a frame.
-/

import Mathlib.Data.Finset.Insert
import MegaEvm.Block.Deploy

namespace MegaEvm

/-- The kinds of volatile data. -/
inductive VolatileDataAccessType
  | blockNumber
  | timestamp
  | coinbase
  | difficulty
  | gasLimit
  | baseFee
  | prevRandao
  | blockHash
  | blobBaseFee
  | blobHash
  | beneficiary
  | oracle
deriving DecidableEq

/-- The tracker. The bitmap of the kinds that were read is the set of them. -/
structure VolatileDataAccessTracker where
  volatileDataAccessed : Finset VolatileDataAccessType
  computeGasLimit : Option Nat
  blockEnvAccessLimit : Nat
  oracleAccessLimit : Nat
  disableDepth : Option Nat
deriving DecidableEq

namespace VolatileDataAccessTracker

def new (blockEnvAccessLimit oracleAccessLimit : Nat) : VolatileDataAccessTracker where
  volatileDataAccessed := ∅
  computeGasLimit := none
  blockEnvAccessLimit
  oracleAccessLimit
  disableDepth := none

variable (tracker : VolatileDataAccessTracker)

/-! ### Reads -/

/-- Of two caps the smaller one applies. -/
def applyOrCreateLimit (limit : Nat) : VolatileDataAccessTracker :=
  match tracker.computeGasLimit with
  | some current => { tracker with computeGasLimit := some (min current limit) }
  | none => { tracker with computeGasLimit := some limit }

/-- Add a kind to those that were read. -/
def insert (accessType : VolatileDataAccessType) : VolatileDataAccessTracker :=
  { tracker with volatileDataAccessed := Insert.insert accessType tracker.volatileDataAccessed }

def markBlockEnvAccessed (accessType : VolatileDataAccessType) : VolatileDataAccessTracker :=
  (tracker.insert accessType).applyOrCreateLimit tracker.blockEnvAccessLimit

def markBeneficiaryBalanceAccessed : VolatileDataAccessTracker :=
  (tracker.insert .beneficiary).applyOrCreateLimit tracker.blockEnvAccessLimit

def checkAndMarkOracleAccess (address : Address) : Bool × VolatileDataAccessTracker :=
  if address = oracleContractAddress then
    (true, (tracker.insert .oracle).applyOrCreateLimit tracker.oracleAccessLimit)
  else (false, tracker)

/-- Mark the read of a kind, by the function of its instructions. -/
def markAccessed : VolatileDataAccessType → VolatileDataAccessTracker
  | .beneficiary => tracker.markBeneficiaryBalanceAccessed
  | .oracle => (tracker.checkAndMarkOracleAccess oracleContractAddress).2
  | blockEnv => tracker.markBlockEnvAccessed blockEnv

/-! ### The disabled access -/

/-- Of two depths the shallower one is kept. -/
def disableAccess (depth : Nat) : VolatileDataAccessTracker :=
  match tracker.disableDepth with
  | some current => if depth ≥ current then tracker else { tracker with disableDepth := some depth }
  | none => { tracker with disableDepth := some depth }

def volatileAccessDisabled (currentDepth : Nat) : Bool :=
  tracker.disableDepth.any fun depth => currentDepth ≥ depth

/-- It fails if a frame above the caller disabled the access. -/
def enableAccess (callerDepth : Nat) : Bool × VolatileDataAccessTracker :=
  match tracker.disableDepth with
  | none => (true, tracker)
  | some depth =>
    if callerDepth ≤ depth then (true, { tracker with disableDepth := none })
    else (false, tracker)

def enableAccessIfReturning (currentDepth : Nat) : VolatileDataAccessTracker :=
  if tracker.disableDepth.any fun depth => currentDepth < depth then
    { tracker with disableDepth := none }
  else tracker

/-- For a new transaction. The configured limits stay. -/
def reset : VolatileDataAccessTracker :=
  { tracker with volatileDataAccessed := ∅, computeGasLimit := none, disableDepth := none }

@[simp] theorem disableDepth_applyOrCreateLimit (limit : Nat) :
    (tracker.applyOrCreateLimit limit).disableDepth = tracker.disableDepth := by
  unfold applyOrCreateLimit
  split <;> rfl

variable (accessType : VolatileDataAccessType)

@[simp] theorem disableDepth_insert :
    (tracker.insert accessType).disableDepth = tracker.disableDepth := rfl

/-- Reading leaves alone where the access is disabled. -/
theorem disableDepth_markAccessed :
    (tracker.markAccessed accessType).disableDepth = tracker.disableDepth := by
  cases accessType <;>
    simp [markAccessed, markBlockEnvAccessed, markBeneficiaryBalanceAccessed,
      checkAndMarkOracleAccess]

end VolatileDataAccessTracker

/-! ### The access control contract -/

/-- The functions of the access control contract. -/
inductive AccessControlCall
  | disableVolatileDataAccess
  | enableVolatileDataAccess
  | isVolatileDataAccessDisabled
deriving DecidableEq

/-- The selector of `NonZeroTransfer()`. -/
def nonZeroTransferSelector : List Nat :=
  [0xfa, 0x37, 0x50, 0x1e]

/-- The selector of `DisabledByParent()`. -/
def disabledByParentRevertData : List Nat :=
  [0xd0, 0x89, 0xba, 0xe0]

/-- A truth value as the word that a call returns. -/
def abiEncodeBool (value : Bool) : List Nat :=
  List.replicate 31 0 ++ [value.toNat]

/-- The result of a call that is answered without a frame: all its gas is left. -/
def interceptedResult (inputs : CallInputs) (result : InstructionResult) (output : List Nat) :
    FrameResult :=
  .call { result, output := .bytes output, gas := .new inputs.gasLimit }

def rejectNonZeroTransfer (inputs : CallInputs) : Option FrameResult :=
  if inputs.transfersValue then
    some (interceptedResult inputs .revert nonZeroTransferSelector)
  else none

namespace AccessControlInterceptor

variable (tracker : VolatileDataAccessTracker) (inputs : CallInputs) (callerJournalDepth : Nat)

def handleDisable : FrameResult × VolatileDataAccessTracker :=
  match rejectNonZeroTransfer inputs with
  | some rejected => (rejected, tracker)
  | none => (interceptedResult inputs .returned [], tracker.disableAccess callerJournalDepth)

def handleEnable : FrameResult × VolatileDataAccessTracker :=
  match rejectNonZeroTransfer inputs with
  | some rejected => (rejected, tracker)
  | none =>
    match tracker.enableAccess callerJournalDepth with
    | (true, enabled) => (interceptedResult inputs .returned [], enabled)
    | (false, unchanged) =>
      (interceptedResult inputs .revert disabledByParentRevertData, unchanged)

def handleIsDisabled : FrameResult × VolatileDataAccessTracker :=
  match rejectNonZeroTransfer inputs with
  | some rejected => (rejected, tracker)
  | none =>
    (interceptedResult inputs .returned
      (abiEncodeBool (tracker.volatileAccessDisabled callerJournalDepth)), tracker)

/-- Answer a call of the contract. The call data is given by the function its selector names, if
any; the depth of the call is the journal depth of its caller. -/
def intercept (selector : Option AccessControlCall) (depth : Nat) :
    Option (FrameResult × VolatileDataAccessTracker) :=
  if inputs.targetAddress ≠ accessControlAddress then none
  else
    match selector with
    | some .disableVolatileDataAccess => some (handleDisable tracker inputs depth)
    | some .enableVolatileDataAccess => some (handleEnable tracker inputs depth)
    | some .isVolatileDataAccessDisabled => some (handleIsDisabled tracker inputs depth)
    | none => none

end AccessControlInterceptor

end MegaEvm
