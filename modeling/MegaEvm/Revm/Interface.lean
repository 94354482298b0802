/-
This file models the values the execution engine exchanges with the code: the inputs
a frame starts from, the result it ends with, its gas, what a storage write reports,
and the journal as the code inspects it. Only what the modelled functions read is
kept; calldata and return data appear as their lengths where a charge depends on
them.
-/

import MegaEvm.Limit.FrameLimit
import MegaEvm.Revm.State

namespace MegaEvm

/-! ### Frame inputs -/

/-- The value of a call: it moves with the call, or is only shown to the callee. -/
inductive CallValue
  | transfer (value : U256)
  | apparent (value : U256)
deriving DecidableEq

inductive CallScheme
  | call
  | callCode
  | delegateCall
  | staticCall
deriving DecidableEq

/-- The inputs of a call frame. `targetAddress` is the account whose storage the frame runs on. -/
structure CallInputs where
  caller : Address
  targetAddress : Address
  value : CallValue
  scheme : CallScheme
  gasLimit : Nat
deriving DecidableEq

/-- The call moves a non-zero value. -/
def CallInputs.transfersValue (inputs : CallInputs) : Bool :=
  match inputs.value with
  | .transfer value => value != 0
  | .apparent _ => false

/-- The inputs of a create frame. `createdAddress` is the address the create scheme derives from
the creator's nonce. -/
structure CreateInputs where
  caller : Address
  value : U256
  createdAddress : Nat → Address
  gasLimit : Nat

inductive FrameInput
  | call (inputs : CallInputs)
  | create (inputs : CreateInputs)

/-- What a frame is started with: its input and its depth in the call stack. -/
structure FrameInit where
  depth : Nat
  input : FrameInput

def FrameInput.gasLimit : FrameInput → Nat
  | .call inputs => inputs.gasLimit
  | .create inputs => inputs.gasLimit

def FrameInput.isCreate : FrameInput → Bool
  | .call _ => false
  | .create _ => true

/-! ### Results -/

/-- How a frame or an instruction ended. The engine has more exceptional halts than the code
tells apart; they share `otherError`. -/
inductive InstructionResult
  | stop
  | returned
  | selfDestruct
  | revert
  | callTooDeep
  | outOfFunds
  | outOfGas
  | fatalExternalError
  | createCollision
  | otherError (code : Nat)
deriving DecidableEq

namespace InstructionResult

def isOk : InstructionResult → Bool
  | stop | returned | selfDestruct => true
  | _ => false

def isRevert : InstructionResult → Bool
  | revert | callTooDeep | outOfFunds => true
  | _ => false

def isError (result : InstructionResult) : Bool :=
  !result.isOk && !result.isRevert

def isOkOrRevert (result : InstructionResult) : Bool :=
  result.isOk || result.isRevert

end InstructionResult

/-- A gas counter, with the refund that is paid out at the end of the transaction. -/
structure Gas where
  limit : Nat
  remaining : Nat
  refunded : Int := 0
deriving DecidableEq

namespace Gas

def new (limit : Nat) : Gas :=
  { limit, remaining := limit }

def spent (gas : Gas) : Nat :=
  gas.limit - gas.remaining

/-- Spend gas if there is enough of it. -/
def recordCost (gas : Gas) (cost : Nat) : Option Gas :=
  if cost ≤ gas.remaining then some { gas with remaining := gas.remaining - cost } else none

def eraseCost (gas : Gas) (returned : Nat) : Gas :=
  { gas with remaining := gas.remaining + returned }

def spendAll (gas : Gas) : Gas :=
  { gas with remaining := 0 }

theorem remaining_of_recordCost {gas left : Gas} {cost : Nat}
    (paid : gas.recordCost cost = some left) : left.remaining + cost = gas.remaining := by
  rw [recordCost] at paid
  split at paid
  · rename_i enough
    rw [← Option.some.inj paid]
    exact Nat.sub_add_cancel enough
  · cases paid

end Gas

/-- What a frame returns: bytes, or the data the limits of the code revert with. -/
inductive ReturnData
  | bytes (contents : List Nat)
  | limit (data : LimitRevertData)
deriving DecidableEq

def ReturnData.empty : ReturnData :=
  .bytes []

/-- The length in bytes. An encoded error is a selector and two words. -/
def ReturnData.length : ReturnData → Nat
  | .bytes contents => contents.length
  | .limit .empty => 0
  | .limit (.megaLimitExceeded _ _) => 4 + 32 + 32

/-- The first byte of returned code. The data of a limit is never returned as code. -/
def ReturnData.head? : ReturnData → Option Nat
  | .bytes contents => contents.head?
  | .limit _ => none

/-- How an interpreter ended: the status, the returned data and the gas left. -/
structure InterpreterResult where
  result : InstructionResult
  output : ReturnData
  gas : Gas
deriving DecidableEq

/-- The result of a frame. A create that succeeded has the address it made. -/
inductive FrameResult
  | call (outcome : InterpreterResult)
  | create (outcome : InterpreterResult) (address : Option Address)
deriving DecidableEq

namespace FrameResult

def outcome : FrameResult → InterpreterResult
  | call outcome => outcome
  | create outcome _ => outcome

def withOutcome (outcome : InterpreterResult) : FrameResult → FrameResult
  | call _ => call outcome
  | create _ address => create outcome address

def isCreate : FrameResult → Bool
  | call _ => false
  | create _ _ => true

def instructionResult (result : FrameResult) : InstructionResult :=
  result.outcome.result

def gas (result : FrameResult) : Gas :=
  result.outcome.gas

def setGas (result : FrameResult) (gas : Gas) : FrameResult :=
  result.withOutcome { result.outcome with gas }

/-- Give the result another status and other data, and keep its gas. -/
def mark (result : FrameResult) (status : InstructionResult) (output : ReturnData) :
    FrameResult :=
  result.withOutcome { result.outcome with result := status, output }

variable (result : FrameResult) (status : InstructionResult) (output : ReturnData)

@[simp] theorem outcome_withOutcome (outcome : InterpreterResult) :
    (result.withOutcome outcome).outcome = outcome := by
  cases result <;> rfl

@[simp] theorem instructionResult_mark :
    (result.mark status output).instructionResult = status := by
  simp only [instructionResult, mark, outcome_withOutcome]

@[simp] theorem gas_mark : (result.mark status output).gas = result.gas := by
  simp only [gas, mark, outcome_withOutcome]

@[simp] theorem instructionResult_setGas (gas : Gas) :
    (result.setGas gas).instructionResult = result.instructionResult := by
  simp only [instructionResult, setGas, outcome_withOutcome]

@[simp] theorem gas_setGas (gas : Gas) : (result.setGas gas).gas = gas := by
  simp only [FrameResult.gas, setGas, outcome_withOutcome]

end FrameResult

/-! ### Storage writes and inspection -/

/-- What a storage write reports: the value at the start of the transaction, the value before
the write and the value written. -/
structure SStoreResult where
  originalValue : U256
  presentValue : U256
  newValue : U256
deriving DecidableEq

/-- The journal as the code inspects it. An inspection fails when the database does. -/
structure JournalInspect where
  inspectAccount : Address → Option Account
  inspectAccountDelegated : MegaSpecId → Address → Option Account

namespace World

/-- Follow one delegation. -/
def resolved (world : World) (address : Address) : Account :=
  match (world address).delegate with
  | some target => world target
  | none => world address

/-- Inspection of a world whose database answers. From Rex4 on a delegation is followed exactly
once. -/
def inspect (world : World) : JournalInspect where
  inspectAccount address := some (world address)
  inspectAccountDelegated _ address := some (world.resolved address)

/-- Write a slot of an account, over the database that answers for slots not loaded yet. -/
def sstore (world : World) (database : Address → U256 → U256) (address : Address)
    (key value : U256) : World × SStoreResult :=
  let slot := (world address).slot (database address key) key
  (world.set address ((world address).writeSlot (database address key) key value),
    { originalValue := slot.originalValue, presentValue := slot.presentValue, newValue := value })

end World

end MegaEvm
