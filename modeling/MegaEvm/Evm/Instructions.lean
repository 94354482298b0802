/-
This file models the instruction wrappers. Every metered instruction runs the engine's
own instruction and then records the gas it took as compute gas; around that, layers
charge storage gas, cap the gas a child gets, detain the transaction when it reads
volatile data, and count writes and logs. A wrapper stops when what it wraps failed, but
goes on when it reverted.

The engine's instructions are not part of the source. What one does to the gas and to
the pending action of the interpreter is given with the instruction, as are the answers
of the host and the database.
-/

import MegaEvm.Limit.AdditionalLimit

namespace MegaEvm

/-! ### Metering -/

/-- A recording of compute gas: the gas of the interpreter before and after, the storage gas charged
in between and the gas forwarded to a child. -/
structure ComputeCharge where
  gasBefore : Nat
  gasAfter : Nat
  storageCharged : Nat
  forwarded : Nat
deriving DecidableEq

namespace ComputeCharge

/-- The amount that is recorded. -/
def gas (charge : ComputeCharge) : Nat :=
  charge.gasBefore - charge.gasAfter - charge.storageCharged - charge.forwarded

/-- A recording of a given amount. -/
def ofGas (gas : Nat) : ComputeCharge :=
  { gasBefore := gas, gasAfter := 0, storageCharged := 0, forwarded := 0 }

/-- None of the subtractions saturates. -/
def IsExact (charge : ComputeCharge) : Prop :=
  charge.gasAfter + charge.storageCharged + charge.forwarded ≤ charge.gasBefore

instance (charge : ComputeCharge) : Decidable charge.IsExact :=
  inferInstanceAs (Decidable (_ ≤ _))

@[simp] theorem gas_ofGas (gas : Nat) : (ofGas gas).gas = gas := rfl

theorem isExact_ofGas (gas : Nat) : (ofGas gas).IsExact := Nat.zero_le gas

end ComputeCharge

/-- The limits, with a history: the limits as they were each time compute gas was recorded with the
check of that dimension alone, the recordings of the frames of the transaction, both the last
first, and the storage gas its frames were charged. -/
structure Meter where
  limit : AdditionalLimit
  entered : List AdditionalLimit
  charges : List ComputeCharge
  storageCharged : Nat

namespace Meter

variable (meter : Meter)

/-- Change the limits by a hook that records no compute gas. -/
def update (hook : AdditionalLimit → AdditionalLimit) : Meter :=
  { meter with limit := hook meter.limit }

def recordComputeGas (charge : ComputeCharge) : Meter × Bool :=
  ({ meter with
      limit := (meter.limit.recordComputeGas charge.gas).1
      entered := meter.limit :: meter.entered
      charges := charge :: meter.charges },
    (meter.limit.recordComputeGas charge.gas).2)

def recordComputeGasAllDims (charge : ComputeCharge) : Meter :=
  { meter with
    limit := (meter.limit.recordComputeGasAllDims charge.gas).1
    charges := charge :: meter.charges }

def chargeStorage (amount : Nat) : Meter :=
  { meter with storageCharged := meter.storageCharged + amount }

section Fields

variable (hook : AdditionalLimit → AdditionalLimit) (charge : ComputeCharge) (amount : Nat)

@[simp] theorem update_limit : (meter.update hook).limit = hook meter.limit := rfl

@[simp] theorem recordComputeGas_limit :
    (meter.recordComputeGas charge).1.limit = (meter.limit.recordComputeGas charge.gas).1 := rfl

@[simp] theorem recordComputeGas_charges :
    (meter.recordComputeGas charge).1.charges = charge :: meter.charges := rfl

@[simp] theorem recordComputeGasAllDims_limit :
    (meter.recordComputeGasAllDims charge).limit =
      (meter.limit.recordComputeGasAllDims charge.gas).1 := rfl

@[simp] theorem recordComputeGasAllDims_charges :
    (meter.recordComputeGasAllDims charge).charges = charge :: meter.charges := rfl

end Fields

end Meter

/-! ### The interpreter -/

/-- What an interpreter stops for. -/
inductive InterpreterAction
  | newFrame (input : FrameInput)
  | returnResult (result : InterpreterResult)

/-- An interpreter with its gas and its pending action, over the meter. -/
structure Interpreter where
  meter : Meter
  gas : Gas
  action : Option InterpreterAction

/-- What an instruction of the engine leaves: the gas remaining and the pending action. -/
structure RawOutcome where
  remaining : Nat
  action : Option InterpreterAction

namespace Interpreter

variable (interpreter : Interpreter)

/-- Stop with a status. A pending child frame is discarded. -/
def halt (result : InstructionResult) : Interpreter :=
  { interpreter with
    action := some (.returnResult { result, output := .empty, gas := interpreter.gas }) }

/-- Revert with data. -/
def revertWith (data : List Nat) : Interpreter :=
  { interpreter with
    action := some
      (.returnResult { result := .revert, output := .bytes data, gas := interpreter.gas }) }

def instructionResult : Option InstructionResult :=
  match interpreter.action with
  | some (.returnResult result) => some result.result
  | _ => none

/-- The wrapped instruction failed, so the wrapper stops too. -/
def aborts : Bool :=
  interpreter.instructionResult.any InstructionResult.isError

/-- Run an instruction of the engine. -/
def runInner (raw : RawOutcome) : Interpreter :=
  { interpreter with
    gas := { interpreter.gas with remaining := raw.remaining }
    action := raw.action }

/-- Spend gas, or stop when there is not enough. -/
def spendGas (amount : Nat) : Interpreter × Bool :=
  match interpreter.gas.recordCost amount with
  | some gas => ({ interpreter with gas }, true)
  | none => (interpreter.halt .outOfGas, false)

/-- Record compute gas, or stop when a limit is exceeded. -/
def computeGas (charge : ComputeCharge) : Interpreter × Bool :=
  match interpreter.meter.recordComputeGas charge with
  | (meter, true) => ({ interpreter with meter }, true)
  | (meter, false) =>
    (halt { interpreter with meter } meter.limit.exceedingInstructionResult, false)

/-- Stop when the limits, as a hook left them, are exceeded. -/
def haltIfExceeded : Interpreter :=
  if interpreter.meter.limit.limitExceeded then
    interpreter.halt interpreter.meter.limit.exceedingInstructionResult
  else interpreter

end Interpreter

/-! ### Compute gas -/

/-- What the engine adds to the gas of a callee that is sent value. -/
def callStipend : Nat := 2300

/-- The gas a pending child frame takes from its parent. Before Rex5 the engine's stipend counts as
taken too. -/
def forwardedChildGas (spec : MegaSpecId) : Option InterpreterAction → Nat
  | some (.newFrame (.call inputs)) =>
    let stipendFromRevm :=
      if spec.isEnabled .rex5 && (inputs.scheme == .call || inputs.scheme == .callCode) &&
          inputs.transfersValue then callStipend
      else 0
    inputs.gasLimit - stipendFromRevm
  | some (.newFrame (.create inputs)) => inputs.gasLimit
  | _ => 0

namespace ComputeGasExt

/-- An instruction that starts no child frame. -/
def wrapOp (raw : RawOutcome) (interpreter : Interpreter) : Interpreter :=
  let ran := interpreter.runInner raw
  if ran.aborts then ran
  else
    (ran.computeGas
      { gasBefore := interpreter.gas.remaining
        gasAfter := ran.gas.remaining
        storageCharged := 0
        forwarded := 0 }).1

/-- A call-like instruction of MiniRex. -/
def wrapFrameOp (spec : MegaSpecId) (raw : RawOutcome) (interpreter : Interpreter) : Interpreter :=
  let ran := interpreter.runInner raw
  if ran.aborts then ran
  else
    (ran.computeGas
      { gasBefore := interpreter.gas.remaining
        gasAfter := ran.gas.remaining
        storageCharged := 0
        forwarded := forwardedChildGas spec ran.action }).1

/-- `SELFDESTRUCT`. The host records the refund of an account of this transaction before the
instruction ends, and the check afterwards is over all dimensions. -/
def selfdestruct (refund : Option Nat) (raw : RawOutcome) (interpreter : Interpreter) :
    Interpreter :=
  let refunded :=
    match refund with
    | some amount =>
      { interpreter with meter := interpreter.meter.update (·.onSelfdestruct amount) }
    | none => interpreter
  let ran := refunded.runInner raw
  if ran.aborts then ran
  else
    Interpreter.haltIfExceeded
      { ran with
        meter := ran.meter.recordComputeGasAllDims
          { gasBefore := interpreter.gas.remaining
            gasAfter := ran.gas.remaining
            storageCharged := 0
            forwarded := 0 } }

end ComputeGasExt

/-! ### Storage gas -/

/-- Record the compute gas of an instruction that charged storage gas or forwards gas to a child.
From Rex6 on a child that is discarded gives its gas back. -/
def recordStorageComputeGas (spec : MegaSpecId) (gasBefore storageCharged : Nat)
    (interpreter : Interpreter) : Interpreter × Bool :=
  let forwarded := forwardedChildGas spec interpreter.action
  let charge : ComputeCharge :=
    { gasBefore, gasAfter := interpreter.gas.remaining, storageCharged, forwarded }
  match interpreter.meter.recordComputeGas charge with
  | (meter, true) => ({ interpreter with meter }, true)
  | (meter, false) =>
    let gas :=
      if spec.isEnabled .rex6 then interpreter.gas.eraseCost forwarded else interpreter.gas
    (Interpreter.halt { interpreter with meter, gas } meter.limit.exceedingInstructionResult, false)

/-- Charge storage gas, from the stipend of the frame first. Says what the gas was charged. -/
def chargeStorageGas (amount : Nat) (interpreter : Interpreter) : Interpreter × Option Nat :=
  let drained := (interpreter.meter.limit.tryConsumeStorageStipend amount).2
  let drawn :=
    { interpreter with
      meter := interpreter.meter.update fun limit => (limit.tryConsumeStorageStipend amount).1 }
  match drawn.spendGas (amount - drained) with
  | (spent, true) =>
    ({ spent with meter := spent.meter.chargeStorage (amount - drained) }, some (amount - drained))
  | (stopped, false) => (stopped, none)

/-- Run the instruction of the engine after storage gas was charged, and record its compute gas. -/
def runCharged (spec : MegaSpecId) (gasBefore : Nat) (raw : RawOutcome) :
    Interpreter × Option Nat → Interpreter
  | (stopped, none) => stopped
  | (charged, some storageCharged) =>
    let ran := charged.runInner raw
    if ran.aborts then ran else (recordStorageComputeGas spec gasBefore storageCharged ran).1

def logTopicStorageGas : Nat := 3750

def logDataStorageGas : Nat := 80

namespace StorageGasExt

/-- A call-like instruction. Sending value to an empty account costs the storage of a new one.
`early` is why it stops before that: the stack is too short, or the host cannot answer. -/
def call (spec : MegaSpecId) (early : Option InstructionResult) (newAccountGas : Option Nat)
    (raw : RawOutcome) (interpreter : Interpreter) : Interpreter :=
  match early with
  | some result => interpreter.halt result
  | none =>
    runCharged spec interpreter.gas.remaining raw
      (match newAccountGas with
      | some amount => chargeStorageGas amount interpreter
      | none => (interpreter, some 0))

/-- The storage gas of a log, if it can be represented. -/
def logStorageCost (topics length : Nat) : Option Nat :=
  let cost := logTopicStorageGas * topics + logDataStorageGas * length
  if cost ≤ u64Max then some cost else none

def log (spec : MegaSpecId) (early : Option InstructionResult) (topics length : Nat)
    (raw : RawOutcome) (interpreter : Interpreter) : Interpreter :=
  match early with
  | some result => interpreter.halt result
  | none =>
    match logStorageCost topics length with
    | none => interpreter.halt .outOfGas
    | some cost =>
      runCharged spec interpreter.gas.remaining raw (chargeStorageGas cost interpreter)

/-- `SSTORE`. Only the first write of an empty slot costs storage. -/
def sstore (spec : MegaSpecId) (early : Option InstructionResult) (store : SStoreResult)
    (setGas : Nat) (raw : RawOutcome) (interpreter : Interpreter) : Interpreter :=
  match early with
  | some result => interpreter.halt result
  | none =>
    runCharged spec interpreter.gas.remaining raw
      (if store.originalValue = 0 ∧ store.presentValue = 0 ∧ store.newValue ≠ 0 then
        chargeStorageGas setGas interpreter
      else (interpreter, some 0))

/-- What a create finds before the engine's instruction: why it stops before its initcode is hashed,
the gas the memory for that takes, why it stops afterwards, and the storage gas of a contract. -/
structure CreateInputs where
  early : Option InstructionResult
  resizeGas : Nat
  late : Option InstructionResult
  storageGas : Nat

/-- The interpreter after the memory of the initcode was expanded. -/
def resized (interpreter : Interpreter) (resizeGas : Nat) : Interpreter :=
  { interpreter with
    gas := { interpreter.gas with remaining := interpreter.gas.remaining - resizeGas } }

/-- A create before Rex6 from the expansion of its memory on. Before Rex5 the memory is recorded as
compute gas only here, when the instruction went through. -/
def createResized (spec : MegaSpecId) (inputs : CreateInputs) (raw : RawOutcome)
    (interpreter : Interpreter) : Interpreter :=
  match inputs.late with
  | some result => interpreter.halt result
  | none =>
    match chargeStorageGas inputs.storageGas interpreter with
    | (stopped, none) => stopped
    | (charged, some _) =>
      let ran := charged.runInner raw
      if ran.aborts then ran
      else
        match recordStorageComputeGas spec charged.gas.remaining 0 ran with
        | (stopped, false) => stopped
        | (done, true) =>
          if !spec.isEnabled .rex5 && inputs.resizeGas != 0 then
            (done.computeGas (.ofGas inputs.resizeGas)).1
          else done

/-- `CREATE` and `CREATE2` before Rex6. In Rex5 the memory is recorded as compute gas at once. -/
def createBeforeRex6 (spec : MegaSpecId) (inputs : CreateInputs) (raw : RawOutcome)
    (interpreter : Interpreter) : Interpreter :=
  match inputs.early with
  | some result => interpreter.halt result
  | none =>
    let expanded := resized interpreter inputs.resizeGas
    if spec.isEnabled .rex5 && inputs.resizeGas != 0 then
      match expanded.computeGas (.ofGas inputs.resizeGas) with
      | (stopped, false) => stopped
      | (recorded, true) => createResized spec inputs raw recorded
    else createResized spec inputs raw expanded

/-- `CREATE` and `CREATE2` from Rex6 on. The memory is part of the one recording. -/
def createRex6 (spec : MegaSpecId) (inputs : CreateInputs) (raw : RawOutcome)
    (interpreter : Interpreter) : Interpreter :=
  match inputs.early with
  | some result => interpreter.halt result
  | none =>
    let expanded := resized interpreter inputs.resizeGas
    match inputs.late with
    | some result => expanded.halt result
    | none =>
      runCharged spec interpreter.gas.remaining raw (chargeStorageGas inputs.storageGas expanded)

def create (spec : MegaSpecId) (inputs : CreateInputs) (raw : RawOutcome)
    (interpreter : Interpreter) : Interpreter :=
  if spec.isEnabled .rex6 then createRex6 spec inputs raw interpreter
  else createBeforeRex6 spec inputs raw interpreter

/-- What a self-destruct finds: whether the frame is static, why it stops at once, whether its
beneficiary is empty, is another account and gets value, and the storage gas of a new account. -/
structure SelfdestructInputs where
  isStatic : Bool
  early : Option InstructionResult
  targetIsEmpty : Bool
  targetIsOther : Bool
  hasValue : Bool
  newAccountGas : Nat
deriving DecidableEq

/-- The beneficiary comes into existence. -/
def SelfdestructInputs.createsTarget (inputs : SelfdestructInputs) : Bool :=
  inputs.targetIsEmpty && inputs.hasValue

/-- The beneficiary exists and is credited. -/
def SelfdestructInputs.creditsTarget (inputs : SelfdestructInputs) : Bool :=
  inputs.hasValue && inputs.targetIsOther

/-- Charge and record what a self-destruct does to its beneficiary. Says whether to go on. -/
def recordBeneficiary (spec : MegaSpecId) (inputs : SelfdestructInputs)
    (interpreter : Interpreter) : Interpreter × Bool :=
  if inputs.createsTarget then
    match chargeStorageGas inputs.newAccountGas interpreter with
    | (stopped, none) => (stopped, false)
    | (charged, some _) =>
      ({ charged with meter := charged.meter.update (·.onSelfdestructNewAccount) }, true)
  else if spec.isEnabled .rex6 && inputs.creditsTarget then
    ({ interpreter with meter := interpreter.meter.update (·.onSelfdestructExistingAccount) }, true)
  else (interpreter, true)

/-- `SELFDESTRUCT` from Rex5 on: the writes to the beneficiary are recorded first, and the check of
the wrapped instruction finds what they exceed, unless the engine's instruction fails. -/
def selfdestruct (spec : MegaSpecId) (inputs : SelfdestructInputs) (refund : Option Nat)
    (raw : RawOutcome) (interpreter : Interpreter) : Interpreter :=
  if inputs.isStatic then ComputeGasExt.selfdestruct refund raw interpreter
  else
    match inputs.early with
    | some result => interpreter.halt result
    | none =>
      match recordBeneficiary spec inputs interpreter with
      | (stopped, false) => stopped
      | (recorded, true) => ComputeGasExt.selfdestruct refund raw recorded

end StorageGasExt

/-! ### Forwarded gas -/

namespace ForwardGasExt

/-- What a parent may forward of the gas it has left: all but 2 percent. -/
def forwardedGasCap (gasLeft : Nat) : Nat :=
  gasLeft - gasLeft * 2 / 100

/-- Whether a call-like instruction sends value: `CALL` and `CALLCODE` peek at the value on the
stack, and the others have none. -/
def checkCallHasTransfer : CallScheme → U256 → Bool
  | .call, value | .callCode, value => value != 0
  | .delegateCall, _ | .staticCall, _ => false

/-- Cap the gas of a pending child frame and give the rest back. The engine's stipend is not part of
what is forwarded. -/
def capForwarded (hasTransfer : Bool) (interpreter : Interpreter) : Interpreter :=
  match interpreter.action with
  | some (.newFrame (.call inputs)) =>
    let stipend := if hasTransfer then callStipend else 0
    let forwarded := inputs.gasLimit - stipend
    let capped := min forwarded (forwardedGasCap (interpreter.gas.remaining + forwarded))
    { interpreter with
      gas := interpreter.gas.eraseCost (forwarded - capped)
      action := some (.newFrame (.call { inputs with gasLimit := capped + stipend })) }
  | some (.newFrame (.create inputs)) =>
    let forwarded := inputs.gasLimit
    let capped := min forwarded (forwardedGasCap (interpreter.gas.remaining + forwarded))
    { interpreter with
      gas := interpreter.gas.eraseCost (forwarded - capped)
      action := some (.newFrame (.create { inputs with gasLimit := capped })) }
  | _ => interpreter

/-- Run a wrapped instruction and cap what it forwards. -/
def wrapGasCap (hasTransfer : Bool) (inner : Interpreter → Interpreter)
    (interpreter : Interpreter) : Interpreter :=
  let ran := inner interpreter
  if ran.aborts then ran else capForwarded hasTransfer ran

end ForwardGasExt

/-! ### Volatile data -/

/-- How an instruction meets volatile data: the data it reverts with when the access is disabled,
and the cap of compute gas the accesses so far impose. -/
structure VolatileAccess where
  disabled : Option (List Nat)
  computeGasLimit : Option Nat

namespace VolatileDataExt

def applyComputeGasLimit (access : VolatileAccess) (interpreter : Interpreter) : Interpreter :=
  match access.computeGasLimit with
  | some cap =>
    { interpreter with meter := interpreter.meter.update (·.setComputeGasLimit cap) }
  | none => interpreter

/-- Run a wrapped instruction and detain the transaction if it read volatile data. -/
def wrapDetainGas (access : VolatileAccess) (inner : Interpreter → Interpreter)
    (interpreter : Interpreter) : Interpreter :=
  match access.disabled with
  | some data => interpreter.revertWith data
  | none =>
    let ran := inner interpreter
    if ran.aborts then ran else applyComputeGasLimit access ran

/-- A call-like instruction detains even if it failed. -/
def wrapCall (access : VolatileAccess) (inner : Interpreter → Interpreter)
    (interpreter : Interpreter) : Interpreter :=
  match access.disabled with
  | some data => interpreter.revertWith data
  | none => applyComputeGasLimit access (inner interpreter)

end VolatileDataExt

/-! ### Data size and key-value updates -/

namespace AdditionalLimitExt

def sstore (spec : MegaSpecId) (early : Option InstructionResult) (store : SStoreResult)
    (setGas : Nat) (raw : RawOutcome) (interpreter : Interpreter) : Interpreter :=
  match early with
  | some result => interpreter.halt result
  | none =>
    let ran := StorageGasExt.sstore spec none store setGas raw interpreter
    if ran.aborts then ran
    else Interpreter.haltIfExceeded { ran with meter := ran.meter.update (·.onSstore store) }

def log (spec : MegaSpecId) (early : Option InstructionResult) (topics length : Nat)
    (raw : RawOutcome) (interpreter : Interpreter) : Interpreter :=
  match early with
  | some result => interpreter.halt result
  | none =>
    let ran := StorageGasExt.log spec none topics length raw interpreter
    if ran.aborts then ran
    else Interpreter.haltIfExceeded { ran with meter := ran.meter.update (·.onLog topics length) }

end AdditionalLimitExt

/-! ### The instruction table -/

/-- An instruction, with what the engine, the host and the database answer to it. `unknown` stops at
once and is not metered. -/
inductive Instruction
  | unknown (result : InstructionResult)
  | plain (raw : RawOutcome)
  | volatile (access : VolatileAccess) (raw : RawOutcome)
  | selfbalance (access : VolatileAccess) (raw : RawOutcome)
  | sload (access : VolatileAccess) (raw : RawOutcome)
  | sstore (early : Option InstructionResult) (store : SStoreResult) (setGas : Nat)
      (raw : RawOutcome)
  | log (early : Option InstructionResult) (topics length : Nat) (raw : RawOutcome)
  | call (scheme : CallScheme) (access : VolatileAccess) (value : U256)
      (early : Option InstructionResult) (newAccountGas : Option Nat) (raw : RawOutcome)
  | create (inputs : StorageGasExt.CreateInputs) (raw : RawOutcome)
  | selfdestruct (access : VolatileAccess) (inputs : StorageGasExt.SelfdestructInputs)
      (refund : Option Nat) (raw : RawOutcome)

/-- The wrapper of a call-like instruction. MiniRex wraps `CALL` alone in the cap on forwarded
gas, and from Rex4 on the beneficiary of the block is volatile data. -/
def Instruction.executeCall (spec : MegaSpecId) (scheme : CallScheme) (access : VolatileAccess)
    (value : U256) (early : Option InstructionResult) (newAccountGas : Option Nat)
    (raw : RawOutcome) : Interpreter → Interpreter :=
  let forward := ForwardGasExt.wrapGasCap (ForwardGasExt.checkCallHasTransfer scheme value)
    (StorageGasExt.call spec early newAccountGas raw)
  if spec.isEnabled .rex4 then VolatileDataExt.wrapCall access forward
  else if spec.isEnabled .rex || scheme == .call then forward
  else ComputeGasExt.wrapFrameOp spec raw

/-- The wrapper of `SELFDESTRUCT`, which is an unknown instruction before Rex2. -/
def Instruction.executeSelfdestruct (spec : MegaSpecId) (access : VolatileAccess)
    (inputs : StorageGasExt.SelfdestructInputs) (refund : Option Nat) (raw : RawOutcome) :
    Interpreter → Interpreter :=
  if spec.isEnabled .rex5 then
    VolatileDataExt.wrapDetainGas access (StorageGasExt.selfdestruct spec inputs refund raw)
  else if spec.isEnabled .rex4 then
    VolatileDataExt.wrapDetainGas access (ComputeGasExt.selfdestruct refund raw)
  else if spec.isEnabled .rex2 then ComputeGasExt.selfdestruct none raw
  else fun interpreter => interpreter.halt (.otherError 0xfe)

/-- Execute an instruction as the table of the specification has it. -/
def Instruction.execute (spec : MegaSpecId) : Instruction → Interpreter → Interpreter
  | unknown result => fun interpreter => interpreter.halt result
  | plain raw => ComputeGasExt.wrapOp raw
  | volatile access raw => VolatileDataExt.wrapDetainGas access (ComputeGasExt.wrapOp raw)
  | selfbalance access raw =>
    if spec.isEnabled .rex4 then VolatileDataExt.wrapDetainGas access (ComputeGasExt.wrapOp raw)
    else ComputeGasExt.wrapOp raw
  | sload access raw =>
    if spec.isEnabled .rex3 then VolatileDataExt.wrapDetainGas access (ComputeGasExt.wrapOp raw)
    else ComputeGasExt.wrapOp raw
  | sstore early store setGas raw => AdditionalLimitExt.sstore spec early store setGas raw
  | log early topics length raw => AdditionalLimitExt.log spec early topics length raw
  | call scheme access value early newAccountGas raw =>
    executeCall spec scheme access value early newAccountGas raw
  | create inputs raw => ForwardGasExt.wrapGasCap false (StorageGasExt.create spec inputs raw)
  | selfdestruct access inputs refund raw => executeSelfdestruct spec access inputs refund raw

end MegaEvm
