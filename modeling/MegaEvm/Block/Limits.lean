/-
This file models the limits of a block and the limiter that counts what its committed
transactions use. Gas, encoded size and data availability size are known before a
transaction runs: they are refused when the sum would pass the limit. Data, KV
updates, compute gas and state growth are only known afterwards: they are refused
once the limit is reached, so the last transaction may pass it. Deposits are exempt
from the data availability limits.

The check does not change the limiter, and every counter saturates.
-/

import MegaEvm.Library.Fallible
import MegaEvm.Library.Tally
import MegaEvm.Outcome

namespace MegaEvm

open Library

/-! ### Errors -/

/-- The transaction exceeds a limit of its own. -/
inductive MegaTxLimitExceededError
  | transactionGasLimit (txGasLimit limit : Nat)
  | transactionEncodeSizeLimit (txSize limit : Nat)
  | dataAvailabilitySizeLimit (daSize limit : Nat)
deriving DecidableEq

/-- The block has no room for the transaction. -/
inductive MegaBlockLimitExceededError
  | transactionDataLimit (blockUsed limit : Nat)
  | kvUpdateLimit (blockUsed limit : Nat)
  | computeGasLimit (blockUsed limit : Nat)
  | transactionEncodeSizeLimit (blockUsed txUsed limit : Nat)
  | dataAvailabilitySizeLimit (blockUsed txUsed limit : Nat)
  | stateGrowthLimit (blockUsed limit : Nat)
deriving DecidableEq

/-- Why a block is not executed, or a transaction not included in it. -/
inductive BlockExecutionError
  | other
  | blockHashContractCall (message : String)
  | beaconRootContractCall (message : String)
  | unexpectedCodeHash (address : Address) (found expected : CodeHash)
  | transactionGasLimitMoreThanAvailableBlockGas (transactionGasLimit blockAvailableGas : Nat)
  | txLimitExceeded (hash : Nat) (error : MegaTxLimitExceededError)
  | blockLimitExceeded (hash : Nat) (error : MegaBlockLimitExceededError)
  | evm (hash : Nat)
deriving DecidableEq

/-! ### Limits -/

/-- The limits of a block that its limiter reads. -/
structure BlockLimits where
  txGasLimit : Nat
  blockGasLimit : Nat
  txEncodeSizeLimit : Nat
  blockTxsEncodeSizeLimit : Nat
  txDaSizeLimit : Nat
  blockDaSizeLimit : Nat
  blockTxsDataLimit : Nat
  blockKvUpdateLimit : Nat
  blockComputeGasLimit : Nat
  blockStateGrowthLimit : Nat
deriving DecidableEq

/-- The limits, and what the committed transactions of the block have used. -/
structure BlockLimiter where
  limits : BlockLimits
  blockGasUsed : Nat
  blockTxSizeUsed : Nat
  blockDaSizeUsed : Nat
  blockDataUsed : Nat
  blockKvUpdatesUsed : Nat
  blockComputeGasUsed : Nat
  blockStateGrowthUsed : Nat
deriving DecidableEq

/-- A limiter with nothing used. -/
def BlockLimits.toBlockLimiter (limits : BlockLimits) : BlockLimiter where
  limits := limits
  blockGasUsed := 0
  blockTxSizeUsed := 0
  blockDaSizeUsed := 0
  blockDataUsed := 0
  blockKvUpdatesUsed := 0
  blockComputeGasUsed := 0
  blockStateGrowthUsed := 0

/-- Every limit of the block is below the value that stands for no limit. -/
structure BlockLimits.BelowMax (limits : BlockLimits) : Prop where
  gas : limits.blockGasLimit < u64Max
  txSize : limits.blockTxsEncodeSizeLimit < u64Max
  daSize : limits.blockDaSizeLimit < u64Max
  data : limits.blockTxsDataLimit < u64Max
  kvUpdates : limits.blockKvUpdateLimit < u64Max
  computeGas : limits.blockComputeGasLimit < u64Max
  stateGrowth : limits.blockStateGrowthLimit < u64Max

namespace BlockLimiter

variable (limiter : BlockLimiter)

/-- Check a transaction against the limits before it runs, and again before it is committed. -/
def preExecutionCheck (txHash gasLimit txSize daSize : Nat) (isDeposit : Bool) :
    Except BlockExecutionError Unit :=
  let limits := limiter.limits
  if gasLimit > limits.txGasLimit then
    .error (.txLimitExceeded txHash (.transactionGasLimit gasLimit limits.txGasLimit))
  else if saturatingAdd u64Max limiter.blockGasUsed gasLimit > limits.blockGasLimit then
    .error (.transactionGasLimitMoreThanAvailableBlockGas gasLimit
      (limits.blockGasLimit - limiter.blockGasUsed))
  else if txSize > limits.txEncodeSizeLimit then
    .error (.txLimitExceeded txHash (.transactionEncodeSizeLimit txSize limits.txEncodeSizeLimit))
  else if saturatingAdd u64Max txSize limiter.blockTxSizeUsed > limits.blockTxsEncodeSizeLimit then
    .error (.blockLimitExceeded txHash
      (.transactionEncodeSizeLimit limiter.blockTxSizeUsed txSize limits.blockTxsEncodeSizeLimit))
  else if !isDeposit && daSize > limits.txDaSizeLimit then
    .error (.txLimitExceeded txHash (.dataAvailabilitySizeLimit daSize limits.txDaSizeLimit))
  else if !isDeposit &&
      saturatingAdd u64Max daSize limiter.blockDaSizeUsed > limits.blockDaSizeLimit then
    .error (.blockLimitExceeded txHash
      (.dataAvailabilitySizeLimit limiter.blockDaSizeUsed daSize limits.blockDaSizeLimit))
  else if limiter.blockDataUsed ≥ limits.blockTxsDataLimit then
    .error (.blockLimitExceeded txHash
      (.transactionDataLimit limiter.blockDataUsed limits.blockTxsDataLimit))
  else if limiter.blockKvUpdatesUsed ≥ limits.blockKvUpdateLimit then
    .error (.blockLimitExceeded txHash
      (.kvUpdateLimit limiter.blockKvUpdatesUsed limits.blockKvUpdateLimit))
  else if limiter.blockComputeGasUsed ≥ limits.blockComputeGasLimit then
    .error (.blockLimitExceeded txHash
      (.computeGasLimit limiter.blockComputeGasUsed limits.blockComputeGasLimit))
  else if limiter.blockStateGrowthUsed ≥ limits.blockStateGrowthLimit then
    .error (.blockLimitExceeded txHash
      (.stateGrowthLimit limiter.blockStateGrowthUsed limits.blockStateGrowthLimit))
  else .ok ()

/-- Count what a transaction used. No limit is looked at here. -/
def postExecutionUpdateRaw
    (gasUsed txSize daSize txData kvUpdates computeGasUsed stateGrowthUsed : Nat)
    (isDeposit : Bool) : BlockLimiter :=
  { limiter with
    blockGasUsed := saturatingAdd u64Max limiter.blockGasUsed gasUsed
    blockTxSizeUsed := saturatingAdd u64Max limiter.blockTxSizeUsed txSize
    blockDaSizeUsed :=
      if !isDeposit then saturatingAdd u64Max limiter.blockDaSizeUsed daSize
      else limiter.blockDaSizeUsed
    blockDataUsed := saturatingAdd u64Max limiter.blockDataUsed txData
    blockKvUpdatesUsed := saturatingAdd u64Max limiter.blockKvUpdatesUsed kvUpdates
    blockComputeGasUsed := saturatingAdd u64Max limiter.blockComputeGasUsed computeGasUsed
    blockStateGrowthUsed := saturatingAdd u64Max limiter.blockStateGrowthUsed stateGrowthUsed }

/-- Whether some limit of the block has been reached. -/
def isBlockLimitReached : Bool :=
  limiter.blockGasUsed ≥ limiter.limits.blockGasLimit ||
    limiter.blockTxSizeUsed ≥ limiter.limits.blockTxsEncodeSizeLimit ||
    limiter.blockDaSizeUsed ≥ limiter.limits.blockDaSizeLimit ||
    limiter.blockDataUsed ≥ limiter.limits.blockTxsDataLimit ||
    limiter.blockKvUpdatesUsed ≥ limiter.limits.blockKvUpdateLimit ||
    limiter.blockComputeGasUsed ≥ limiter.limits.blockComputeGasLimit ||
    limiter.blockStateGrowthUsed ≥ limiter.limits.blockStateGrowthLimit

/-! ### What a check that goes through says -/

/-- The block has room for a transaction. -/
structure HasRoom (gasLimit txSize daSize : Nat) (isDeposit : Bool) : Prop where
  gas : limiter.blockGasUsed + gasLimit ≤ limiter.limits.blockGasLimit
  txSize : limiter.blockTxSizeUsed + txSize ≤ limiter.limits.blockTxsEncodeSizeLimit
  daSize : isDeposit = false → limiter.blockDaSizeUsed + daSize ≤ limiter.limits.blockDaSizeLimit
  data : limiter.blockDataUsed < limiter.limits.blockTxsDataLimit
  kvUpdates : limiter.blockKvUpdatesUsed < limiter.limits.blockKvUpdateLimit
  computeGas : limiter.blockComputeGasUsed < limiter.limits.blockComputeGasLimit
  stateGrowth : limiter.blockStateGrowthUsed < limiter.limits.blockStateGrowthLimit

variable {limiter}
variable {txHash gasLimit txSize daSize : Nat} {isDeposit : Bool}

theorem hasRoom_of_check (below : limiter.limits.BelowMax)
    (admitted : limiter.preExecutionCheck txHash gasLimit txSize daSize isDeposit = .ok ()) :
    limiter.HasRoom gasLimit txSize daSize isDeposit := by
  unfold preExecutionCheck at admitted
  obtain ⟨_, admitted⟩ := check_eq_ok admitted
  obtain ⟨gas, admitted⟩ := check_eq_ok admitted
  obtain ⟨_, admitted⟩ := check_eq_ok admitted
  obtain ⟨size, admitted⟩ := check_eq_ok admitted
  obtain ⟨_, admitted⟩ := check_eq_ok admitted
  obtain ⟨da, admitted⟩ := check_eq_ok admitted
  obtain ⟨data, admitted⟩ := check_eq_ok admitted
  obtain ⟨kvUpdates, admitted⟩ := check_eq_ok admitted
  obtain ⟨computeGas, admitted⟩ := check_eq_ok admitted
  obtain ⟨stateGrowth, _⟩ := check_eq_ok admitted
  refine ⟨?_, ?_, ?_, Nat.lt_of_not_le data, Nat.lt_of_not_le kvUpdates,
    Nat.lt_of_not_le computeGas, Nat.lt_of_not_le stateGrowth⟩
  · exact (saturatingAdd_le_iff below.gas _ _).mp (Nat.le_of_not_lt gas)
  · rw [Nat.add_comm]
    exact (saturatingAdd_le_iff below.txSize _ _).mp (Nat.le_of_not_lt size)
  · intro notDeposit
    rw [Nat.add_comm]
    refine (saturatingAdd_le_iff below.daSize _ _).mp (Nat.le_of_not_lt fun exceeds => da ?_)
    simp [notDeposit, exceeds]

/-- A block that has reached a limit has no room for a transaction that needs some of each
resource. -/
theorem not_hasRoom_of_reached (reached : limiter.isBlockLimitReached = true)
    (gasPositive : 0 < gasLimit) (sizePositive : 0 < txSize) (daPositive : 0 < daSize) :
    ¬ limiter.HasRoom gasLimit txSize daSize false := by
  intro room
  have da := room.daSize rfl
  obtain ⟨gas, size, _, data, kvUpdates, computeGas, stateGrowth⟩ := room
  simp only [isBlockLimitReached, Bool.or_eq_true, decide_eq_true_eq] at reached
  omega

/-- Once a limit is reached, no such transaction passes the check. -/
theorem preExecutionCheck_of_reached (below : limiter.limits.BelowMax)
    (reached : limiter.isBlockLimitReached = true) (gasPositive : 0 < gasLimit)
    (sizePositive : 0 < txSize) (daPositive : 0 < daSize) (txHash : Nat) :
    ∃ error, limiter.preExecutionCheck txHash gasLimit txSize daSize false = .error error := by
  cases checked : limiter.preExecutionCheck txHash gasLimit txSize daSize false with
  | error error => exact ⟨error, rfl⟩
  | ok =>
    exact absurd (hasRoom_of_check below checked)
      (not_hasRoom_of_reached reached gasPositive sizePositive daPositive)

end BlockLimiter

end MegaEvm
