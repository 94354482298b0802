/-
This file models what the metering code reads of a transaction and of its limits.
Calldata appears as its length, an access list as the sizes of its items, and an
authorization list as the authorities its signatures recover to. The initial gas of a
transaction is computed by the execution engine and is carried as a number.
-/

import MegaEvm.Spec

namespace MegaEvm

/-- The limits a transaction runs under: four resource limits, and the two caps that detain its
compute gas once it reads volatile data. -/
structure EvmTxRuntimeLimits where
  txDataSizeLimit : Nat
  txKvUpdatesLimit : Nat
  txComputeGasLimit : Nat
  txStateGrowthLimit : Nat
  blockEnvAccessComputeGasLimit : Nat
  oracleAccessComputeGasLimit : Nat
deriving DecidableEq

/-- The storage gas of a token, and what it adds to the floor. -/
def calldataStandardTokenStorageGas : Nat := 40

def calldataStandardTokenStorageFloorGas : Nat := 100

/-- The storage gas that every transaction pays from Rex on. -/
def txIntrinsicStorageGas : Nat := 39000

/-! ### Initial gas -/

/-- The tokens of the calldata: a byte that is not zero counts for four. -/
def tokensInCalldata (input : List Nat) : Nat :=
  input.count 0 + (input.length - input.count 0) * 4

structure InitialAndFloorGas where
  initialGas : Nat
  floorGas : Nat
deriving DecidableEq

namespace InitialAndFloorGas

def addInitial (gas : InitialAndFloorGas) (amount : Nat) : InitialAndFloorGas :=
  { gas with initialGas := u64Wrap (gas.initialGas + amount) }

def addFloor (gas : InitialAndFloorGas) (amount : Nat) : InitialAndFloorGas :=
  { gas with floorGas := u64Wrap (gas.floorGas + amount) }

/-- The gas for the calldata and the base, added to what the engine asks. -/
def addCalldata (gas : InitialAndFloorGas) (spec : MegaSpecId) (input : List Nat) :
    InitialAndFloorGas :=
  let tokens := u64Wrap (tokensInCalldata input)
  let gas := gas.addInitial (u64Wrap (calldataStandardTokenStorageGas * tokens))
  let gas := gas.addFloor (u64Wrap (calldataStandardTokenStorageFloorGas * tokens))
  if spec.isEnabled .rex then gas.addInitial txIntrinsicStorageGas else gas

end InitialAndFloorGas

/-! ### Transactions -/

inductive TxKind
  | create
  | call (target : Address)
deriving DecidableEq

/-- A transaction, as far as it is metered. An authorization whose authority cannot be recovered
is `none`. -/
structure MegaTransaction where
  caller : Address
  kind : TxKind
  value : U256
  gasLimit : Nat
  inputLength : Nat
  accessListSizes : List Nat
  authorities : List (Option Address)
  initialGas : Nat
deriving DecidableEq

/-- The number of authorizations whose authority can be recovered. -/
def MegaTransaction.recoverableAuthorities (tx : MegaTransaction) : Nat :=
  tx.authorities.countP Option.isSome

end MegaEvm
