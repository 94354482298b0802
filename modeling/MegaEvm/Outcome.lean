/-
This file models the results of transactions: why a transaction halted, what the
engine reports of a run, and what is reported with it of the resources it used.
-/

import MegaEvm.Revm.Journal

namespace MegaEvm

/-- Why a transaction halted, as far as the code tells reasons apart. -/
inductive MegaHaltReason
  | failedDeposit
  | outOfGas
  | limitExceeded (kind : LimitKind) (limit actual : Nat)
  | volatileDataAccessOutOfGas (limit actual : Nat)
  | other (code : Nat)
deriving DecidableEq

/-- The output of a transaction. -/
inductive TxOutput
  | create (bytecode : List Nat) (address : Option Address)
  | call (data : List Nat)
deriving DecidableEq

inductive ExecutionResult
  | success (gasUsed : Nat) (output : TxOutput) (logs : List Log)
  | revert (gasUsed : Nat) (output : List Nat)
  | halt (gasUsed : Nat) (reason : MegaHaltReason)
deriving DecidableEq

namespace ExecutionResult

/-- The logs of a transaction. One that failed has none. -/
def logs : ExecutionResult → List Log
  | success _ _ logs => logs
  | _ => []

def gasUsed : ExecutionResult → Nat
  | success gasUsed _ _ | revert gasUsed _ | halt gasUsed _ => gasUsed

def isSuccess : ExecutionResult → Bool
  | success .. => true
  | _ => false

end ExecutionResult

/-- The result of a transaction, the state it leaves and the resources it used. -/
structure MegaTransactionOutcome where
  result : ExecutionResult
  state : EvmState
  dataSize : Nat
  kvUpdates : Nat
  computeGasUsed : Nat
  stateGrowthUsed : Nat

end MegaEvm
