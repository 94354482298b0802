/-
This file models how a block executor runs transactions and commits their outcomes.
Running and committing are two calls, and any number of other commits may come between
them, so a commit checks the limits again. The executor's calls may fail halfway, so
they are computations on its state that keep what was changed before an error.

The history of a block is the executor with the outcomes committed so far. In every
interleaving the executor is what committing exactly these outcomes in order makes of
the state the block began with, and the limits hold for their exact sums.
-/

import Mathlib.Data.List.Induction
import MegaEvm.Block.Deploy
import MegaEvm.Library.Runs
import MegaEvm.Transaction

namespace MegaEvm

open Library BlockLimiter BlockLimits

/-! ### Transactions and receipts -/

/-- The type byte of a deposit. -/
def depositTransactionType : Nat := 0x7e

/-- A recovered transaction, and the engine's form of it. -/
structure RecoveredTx where
  txHash : Nat
  signer : Address
  ty : Nat
  gasLimit : Nat
  txEnv : MegaTransaction

def RecoveredTx.isDeposit (tx : RecoveredTx) : Bool :=
  tx.ty == depositTransactionType

/-- The outcome of a transaction, with the sizes it was checked with and, for a deposit, the
account of its signer before it ran. -/
structure BlockMegaTransactionOutcome where
  tx : RecoveredTx
  txSize : Nat
  daSize : Nat
  depositor : Option AccountInfo
  inner : MegaTransactionOutcome

structure OpDepositReceipt where
  status : Bool
  cumulativeGasUsed : Nat
  logs : List Log
  depositReceiptVersion : Option Nat
  depositNonce : Option Nat

/-- How receipts are built. The first kind is refused for a deposit, which gets the second. -/
structure OpReceiptBuilder (Receipt : Type) where
  buildReceipt : RecoveredTx → ExecutionResult → Nat → EvmState → Option Receipt
  buildDepositReceipt : OpDepositReceipt → Receipt

/-! ### The executor -/

/-- The executor of a block: its limiter, the receipts so far, the database, and the changes its
state hook was told of, each with the index of its transaction. -/
structure MegaBlockExecutor (Receipt : Type) where
  blockLimiter : BlockLimiter
  receipts : List Receipt
  database : BlockState
  observed : List (Nat × EvmState)

/-- How the engine executes a transaction on a database. -/
abbrev ExecuteTransaction := BlockState → MegaTransaction → Option MegaTransactionOutcome

/-- A call of the executor. What it changed before an error stays changed. -/
abbrev Executing (Receipt : Type) :=
  ExceptT BlockExecutionError (StateM (MegaBlockExecutor Receipt))

section Calls

variable {Receipt : Type}

/-- Check the limits on the executor's limiter. -/
def checkLimits (tx : RecoveredTx) (txSize daSize : Nat) : Executing Receipt Unit := do
  let executor ← get
  MonadExcept.ofExcept
    (executor.blockLimiter.preExecutionCheck tx.txHash tx.gasLimit txSize daSize tx.isDeposit)

/-- The account of a depositor, which is empty if the database has none. -/
def loadDepositor (tx : RecoveredTx) : Executing Receipt (Option AccountInfo) := do
  let executor ← get
  if tx.isDeposit then
    let account ← MonadExcept.ofExcept (executor.database.loadCacheAccount tx.signer)
    return some (account.getD .default)
  else return none

/-- Run a transaction. Nothing is committed. -/
def runTransactionWithSizes (execute : ExecuteTransaction) (tx : RecoveredTx)
    (txSize daSize : Nat) : Executing Receipt BlockMegaTransactionOutcome := do
  checkLimits tx txSize daSize
  let depositor ← loadDepositor tx
  let executor ← get
  match execute executor.database tx.txEnv with
  | none => throw (.evm tx.txHash)
  | some inner => return { tx, txSize, daSize, depositor, inner }

/-- Count what an outcome used. -/
def BlockLimiter.postExecutionUpdate (limiter : BlockLimiter)
    (outcome : BlockMegaTransactionOutcome) : BlockLimiter :=
  limiter.postExecutionUpdateRaw outcome.inner.result.gasUsed outcome.txSize outcome.daSize
    outcome.inner.dataSize outcome.inner.kvUpdates outcome.inner.computeGasUsed
    outcome.inner.stateGrowthUsed outcome.tx.isDeposit

/-- The receipt of an outcome. -/
def OpReceiptBuilder.receipt (builder : OpReceiptBuilder Receipt)
    (outcome : BlockMegaTransactionOutcome) (blockGasUsed : Nat) : Receipt :=
  let result := outcome.inner.result
  (builder.buildReceipt outcome.tx result blockGasUsed outcome.inner.state).getD
    (builder.buildDepositReceipt
      { status := result.isSuccess
        cumulativeGasUsed := blockGasUsed
        logs := result.logs
        depositReceiptVersion := outcome.depositor.map fun _ => 1
        depositNonce := outcome.depositor.map (·.nonce) })

/-- Commit an outcome. The limits are checked again, for others may have been committed since it
was run. -/
def commitTransactionOutcome (builder : OpReceiptBuilder Receipt)
    (outcome : BlockMegaTransactionOutcome) : Executing Receipt Nat := do
  checkLimits outcome.tx outcome.txSize outcome.daSize
  modify fun executor =>
    { executor with blockLimiter := executor.blockLimiter.postExecutionUpdate outcome }
  let state := outcome.inner.state
  modify fun executor =>
    { executor with observed := executor.observed ++ [(executor.receipts.length, state)] }
  let blockGasUsed := (← get).blockLimiter.blockGasUsed
  modify fun executor =>
    { executor with receipts := executor.receipts ++ [builder.receipt outcome blockGasUsed] }
  modify fun executor => { executor with database := executor.database.commit state }
  return outcome.inner.result.gasUsed

end Calls

/-! ### What a call does -/

section Specs

variable {Receipt : Type} {Value : Type}

/-- Make a call. -/
def Executing.on (call : Executing Receipt Value) (executor : MegaBlockExecutor Receipt) :
    Except BlockExecutionError Value × MegaBlockExecutor Receipt :=
  (ExceptT.run call).run executor

/-- What the limiter of an executor says of a transaction. -/
def MegaBlockExecutor.check (executor : MegaBlockExecutor Receipt) (tx : RecoveredTx)
    (txSize daSize : Nat) : Except BlockExecutionError Unit :=
  executor.blockLimiter.preExecutionCheck tx.txHash tx.gasLimit txSize daSize tx.isDeposit

/-- The executor once an outcome is in the block. -/
def MegaBlockExecutor.include (builder : OpReceiptBuilder Receipt)
    (executor : MegaBlockExecutor Receipt) (outcome : BlockMegaTransactionOutcome) :
    MegaBlockExecutor Receipt :=
  let blockLimiter := executor.blockLimiter.postExecutionUpdate outcome
  { blockLimiter := blockLimiter
    receipts := executor.receipts ++ [builder.receipt outcome blockLimiter.blockGasUsed]
    database := executor.database.commit outcome.inner.state
    observed := executor.observed ++ [(executor.receipts.length, outcome.inner.state)] }

variable (executor : MegaBlockExecutor Receipt) (tx : RecoveredTx) {Next : Type}
  (txSize daSize : Nat)

/-- Calls in sequence. An error ends the sequence with the state it was raised in. -/
theorem Executing.bind_on (call : Executing Receipt Value) (next : Value → Executing Receipt Next) :
    Executing.on (call >>= next) executor =
      match call.on executor with
      | (.error error, after) => (.error error, after)
      | (.ok value, after) => (next value).on after := by
  show (ExceptT.run (call >>= next)).run executor = _
  unfold Executing.on
  rw [ExceptT.run_bind, StateT.run_bind]
  rcases (ExceptT.run call).run executor with ⟨_ | _, _⟩ <;> rfl

theorem checkLimits_on :
    (checkLimits tx txSize daSize).on executor = (executor.check tx txSize daSize, executor) := by
  unfold checkLimits
  rw [Executing.bind_on]
  show Executing.on (MonadExcept.ofExcept (executor.check tx txSize daSize)) executor = _
  cases executor.check tx txSize daSize <;> rfl

/-- A commit that the limiter rejects changes nothing, any other includes the outcome. -/
theorem commitTransactionOutcome_on (builder : OpReceiptBuilder Receipt)
    (outcome : BlockMegaTransactionOutcome) :
    (commitTransactionOutcome builder outcome).on executor =
      match executor.check outcome.tx outcome.txSize outcome.daSize with
      | .error error => (.error error, executor)
      | .ok _ => (.ok outcome.inner.result.gasUsed, executor.include builder outcome) := by
  unfold commitTransactionOutcome
  rw [Executing.bind_on, checkLimits_on]
  cases executor.check outcome.tx outcome.txSize outcome.daSize <;> rfl

/-- The call only reads the executor. -/
def Executing.Reads (call : Executing Receipt Value) : Prop :=
  ∀ executor, (call.on executor).2 = executor

theorem Executing.Reads.bind {call : Executing Receipt Value}
    {next : Value → Executing Receipt Next} (first : call.Reads)
    (second : ∀ value, (next value).Reads) : Executing.Reads (call >>= next) := by
  intro executor
  have kept := first executor
  rw [Executing.bind_on]
  rcases called : call.on executor with ⟨_ | value, after⟩
  · rw [called] at kept
    exact kept
  · rw [called] at kept
    exact (second value after).trans kept

theorem Executing.reads_get : Executing.Reads (get : Executing Receipt _) :=
  fun _ => rfl

theorem Executing.reads_ofExcept (result : Except BlockExecutionError Value) :
    Executing.Reads (MonadExcept.ofExcept result : Executing Receipt Value) := by
  intro executor
  cases result <;> rfl

theorem Executing.reads_pure (value : Value) :
    Executing.Reads (pure value : Executing Receipt Value) :=
  fun _ => rfl

theorem checkLimits_reads :
    Executing.Reads (checkLimits tx txSize daSize : Executing Receipt Unit) :=
  Executing.reads_get.bind fun _ => Executing.reads_ofExcept _

theorem loadDepositor_reads : Executing.Reads (loadDepositor tx : Executing Receipt _) := by
  refine Executing.reads_get.bind fun executor => ?_
  split
  · exact (Executing.reads_ofExcept _).bind fun _ => Executing.reads_pure _
  · exact Executing.reads_pure _

/-- Running a transaction changes nothing. -/
theorem runTransactionWithSizes_reads (execute : ExecuteTransaction) (tx : RecoveredTx)
    (txSize daSize : Nat) :
    Executing.Reads (runTransactionWithSizes execute tx txSize daSize : Executing Receipt _) := by
  refine (checkLimits_reads tx txSize daSize).bind fun _ => ?_
  refine (loadDepositor_reads tx).bind fun depositor => ?_
  refine Executing.reads_get.bind fun executor => ?_
  cases execute executor.database tx.txEnv with
  | none => exact fun _ => rfl
  | some inner => exact Executing.reads_pure _

/-- A transaction that the limiter rejects is not run. -/
theorem runTransactionWithSizes_of_rejected (execute : ExecuteTransaction) {tx : RecoveredTx}
    {txSize daSize : Nat} {error : BlockExecutionError}
    (rejected : executor.check tx txSize daSize = .error error) :
    (runTransactionWithSizes execute tx txSize daSize).on executor = (.error error, executor) := by
  unfold runTransactionWithSizes
  rw [Executing.bind_on, checkLimits_on, rejected]

end Specs

/-! ### What committed outcomes add up to -/

namespace BlockMegaTransactionOutcome

def gasUsed (outcome : BlockMegaTransactionOutcome) : Nat :=
  outcome.inner.result.gasUsed

/-- The data availability size that counts. That of a deposit does not. -/
def nonDepositDaSize (outcome : BlockMegaTransactionOutcome) : Nat :=
  if outcome.tx.isDeposit then 0 else outcome.daSize

end BlockMegaTransactionOutcome

/-- The exact sum of a quantity over outcomes. -/
def total (measure : BlockMegaTransactionOutcome → Nat)
    (outcomes : List BlockMegaTransactionOutcome) : Nat :=
  (outcomes.map measure).sum

theorem total_concat (measure : BlockMegaTransactionOutcome → Nat)
    (outcomes : List BlockMegaTransactionOutcome) (outcome : BlockMegaTransactionOutcome) :
    total measure (outcomes ++ [outcome]) = total measure outcomes + measure outcome := by
  unfold total
  rw [List.map_append, List.sum_append_nat, List.map_singleton, List.sum_singleton]

/-- The limiter of a block with these outcomes: each counter is the saturated sum. -/
def BlockLimits.limiterAfter (limits : BlockLimits)
    (outcomes : List BlockMegaTransactionOutcome) : BlockLimiter :=
  let counted (measure : BlockMegaTransactionOutcome → Nat) := tally u64Max (outcomes.map measure)
  { limits := limits
    blockGasUsed := counted (·.gasUsed)
    blockTxSizeUsed := counted (·.txSize)
    blockDaSizeUsed := counted (·.nonDepositDaSize)
    blockDataUsed := counted (·.inner.dataSize)
    blockKvUpdatesUsed := counted (·.inner.kvUpdates)
    blockComputeGasUsed := counted (·.inner.computeGasUsed)
    blockStateGrowthUsed := counted (·.inner.stateGrowthUsed) }

open BlockMegaTransactionOutcome

/-- Counting an outcome adds it to the outcomes counted. -/
theorem BlockLimits.postExecutionUpdate_limiterAfter (limits : BlockLimits)
    (outcomes : List BlockMegaTransactionOutcome) (outcome : BlockMegaTransactionOutcome) :
    (limits.limiterAfter outcomes).postExecutionUpdate outcome =
      limits.limiterAfter (outcomes ++ [outcome]) := by
  have daSize : (if !outcome.tx.isDeposit then
        tally u64Max (outcomes.map (·.nonDepositDaSize) ++ [outcome.daSize])
      else tally u64Max (outcomes.map (·.nonDepositDaSize))) =
      tally u64Max (outcomes.map (·.nonDepositDaSize) ++ [outcome.nonDepositDaSize]) := by
    cases deposit : outcome.tx.isDeposit with
    | false => simp [nonDepositDaSize, deposit]
    | true => simp [nonDepositDaSize, deposit, tally]
  simp only [limiterAfter, postExecutionUpdate, postExecutionUpdateRaw,
    daSize, saturatingAdd_tally, List.map_append, List.map_singleton]
  rfl

/-! ### Histories of a block -/

/-- The executor of a block, and the outcomes committed so far. -/
structure BlockHistory (Receipt : Type) where
  executor : MegaBlockExecutor Receipt
  committed : List BlockMegaTransactionOutcome

/-- A call made on the executor. The outcome to commit need not come from this executor, nor be
committed before other transactions are run. -/
inductive BlockEvent
  | runTransaction (tx : RecoveredTx) (txSize daSize : Nat)
  | commitTransaction (outcome : BlockMegaTransactionOutcome)

/-- No transaction uses more gas than its limit. -/
def BlockEvent.WithinGas : BlockEvent → Prop
  | runTransaction .. => True
  | commitTransaction outcome => outcome.inner.result.gasUsed ≤ outcome.tx.gasLimit

namespace BlockHistory

section Machine

variable {Receipt : Type} (execute : ExecuteTransaction) (builder : OpReceiptBuilder Receipt)

/-- A block with no transaction yet. -/
def new (limits : BlockLimits) (database : BlockState) : BlockHistory Receipt where
  executor :=
    { blockLimiter := limits.toBlockLimiter, receipts := [], database := database, observed := [] }
  committed := []

/-- Make a call. -/
def step (history : BlockHistory Receipt) : BlockEvent → Option (BlockHistory Receipt)
  | .runTransaction tx txSize daSize =>
    let (_, executor) := (runTransactionWithSizes execute tx txSize daSize).on history.executor
    some { history with executor }
  | .commitTransaction outcome =>
    match (commitTransactionOutcome builder outcome).on history.executor with
    | (.ok _, executor) => some { executor, committed := history.committed ++ [outcome] }
    | (.error _, executor) => some { history with executor }

/-- A step commits an outcome that the limiter admits, or changes nothing. -/
theorem step_cases {history next : BlockHistory Receipt} {event : BlockEvent}
    (stepped : history.step execute builder event = some next) :
    next = history ∨
      ∃ outcome, event = .commitTransaction outcome ∧
        history.executor.check outcome.tx outcome.txSize outcome.daSize = .ok () ∧
        next =
          { executor := history.executor.include builder outcome
            committed := history.committed ++ [outcome] } := by
  cases event with
  | runTransaction tx txSize daSize =>
    refine Or.inl ?_
    have kept := runTransactionWithSizes_reads execute tx txSize daSize history.executor
    rw [← Option.some.inj stepped]
    show ({ history with
      executor := ((runTransactionWithSizes execute tx txSize daSize).on history.executor).2 } :
        BlockHistory Receipt) = history
    rw [kept]
  | commitTransaction outcome =>
    simp only [step, commitTransactionOutcome_on] at stepped
    cases checked : history.executor.check outcome.tx outcome.txSize outcome.daSize with
    | error error =>
      rw [checked] at stepped
      cases stepped
      exact Or.inl rfl
    | ok =>
      rw [checked] at stepped
      cases stepped
      exact Or.inr ⟨outcome, rfl, checked, rfl⟩

end Machine

/-! ### The limits of a block hold -/

section Limits

variable {Receipt : Type}

/-- No limit that is compared with a sum is passed, and none that is compared with what was used
before was reached before the last outcome. -/
structure Respects (limits : BlockLimits) (committed : List BlockMegaTransactionOutcome) :
    Prop where
  gas : total (·.gasUsed) committed ≤ limits.blockGasLimit
  txSize : total (·.txSize) committed ≤ limits.blockTxsEncodeSizeLimit
  daSize : total (·.nonDepositDaSize) committed ≤ limits.blockDaSizeLimit
  data : BeforeEach (total (·.inner.dataSize) · < limits.blockTxsDataLimit) committed
  kvUpdates : BeforeEach (total (·.inner.kvUpdates) · < limits.blockKvUpdateLimit) committed
  computeGas :
    BeforeEach (total (·.inner.computeGasUsed) · < limits.blockComputeGasLimit) committed
  stateGrowth :
    BeforeEach (total (·.inner.stateGrowthUsed) · < limits.blockStateGrowthLimit) committed

theorem respects_nil (limits : BlockLimits) : Respects limits [] where
  gas := Nat.zero_le _
  txSize := Nat.zero_le _
  daSize := Nat.zero_le _
  data := beforeEach_nil _
  kvUpdates := beforeEach_nil _
  computeGas := beforeEach_nil _
  stateGrowth := beforeEach_nil _

/-- An outcome for which the limiter has room keeps the limits. -/
theorem Respects.concat {limits : BlockLimits} (below : limits.BelowMax)
    {committed : List BlockMegaTransactionOutcome} {outcome : BlockMegaTransactionOutcome}
    (earlier : Respects limits committed)
    (room : (limits.limiterAfter committed).HasRoom outcome.tx.gasLimit outcome.txSize
      outcome.daSize outcome.tx.isDeposit)
    (withinGas : outcome.gasUsed ≤ outcome.tx.gasLimit) :
    Respects limits (committed ++ [outcome]) where
  gas := by
    have counted : tally u64Max (committed.map (·.gasUsed)) = total (·.gasUsed) committed :=
      tally_eq_sum (earlier.gas.trans below.gas.le)
    have fits : tally u64Max (committed.map (·.gasUsed)) + outcome.tx.gasLimit ≤
      limits.blockGasLimit := room.gas
    rw [total_concat]
    omega
  txSize := by
    have counted : tally u64Max (committed.map (·.txSize)) = total (·.txSize) committed :=
      tally_eq_sum (earlier.txSize.trans below.txSize.le)
    rw [total_concat, ← counted]
    exact room.txSize
  daSize := by
    have counted : tally u64Max (committed.map (·.nonDepositDaSize)) =
        total (·.nonDepositDaSize) committed :=
      tally_eq_sum (earlier.daSize.trans below.daSize.le)
    rw [total_concat]
    cases deposit : outcome.tx.isDeposit with
    | true =>
      rw [nonDepositDaSize, if_pos deposit]
      exact earlier.daSize
    | false =>
      rw [nonDepositDaSize, if_neg (by simp [deposit]), ← counted]
      exact room.daSize deposit
  data := earlier.data.concat ((tally_lt_iff below.data _).mp room.data) outcome
  kvUpdates := earlier.kvUpdates.concat ((tally_lt_iff below.kvUpdates _).mp room.kvUpdates) outcome
  computeGas :=
    earlier.computeGas.concat ((tally_lt_iff below.computeGas _).mp room.computeGas) outcome
  stateGrowth :=
    earlier.stateGrowth.concat ((tally_lt_iff below.stateGrowth _).mp room.stateGrowth) outcome

/-- The executor is what the committed outcomes make of a new one, and they respect the limits. -/
structure Sound (builder : OpReceiptBuilder Receipt) (limits : BlockLimits)
    (database : BlockState) (history : BlockHistory Receipt) : Prop where
  executor : history.executor =
    history.committed.foldl (MegaBlockExecutor.include builder) (new limits database).executor
  limiter : history.executor.blockLimiter = limits.limiterAfter history.committed
  respects : Respects limits history.committed

theorem sound_new (builder : OpReceiptBuilder Receipt) (limits : BlockLimits)
    (database : BlockState) : (new limits database).Sound builder limits database where
  executor := rfl
  limiter := by simp [new, toBlockLimiter, limiterAfter]
  respects := respects_nil limits

variable {execute : ExecuteTransaction} {builder : OpReceiptBuilder Receipt}
  {limits : BlockLimits} {database : BlockState}

/-- One call keeps a history sound. -/
theorem Sound.step (below : limits.BelowMax) {history next : BlockHistory Receipt}
    {event : BlockEvent} (sound : history.Sound builder limits database)
    (withinGas : event.WithinGas) (stepped : history.step execute builder event = some next) :
    next.Sound builder limits database := by
  rcases step_cases execute builder stepped with rfl | ⟨outcome, rfl, admitted, rfl⟩
  · exact sound
  · have room : (limits.limiterAfter history.committed).HasRoom outcome.tx.gasLimit
        outcome.txSize outcome.daSize outcome.tx.isDeposit := by
      rw [MegaBlockExecutor.check, sound.limiter] at admitted
      exact hasRoom_of_check below admitted
    refine ⟨?_, ?_, sound.respects.concat below room withinGas⟩
    · rw [List.foldl_concat, ← sound.executor]
    · show history.executor.blockLimiter.postExecutionUpdate outcome = _
      rw [sound.limiter, postExecutionUpdate_limiterAfter]

/-- Every interleaving of calls keeps a history sound. -/
theorem sound_of_run (below : limits.BelowMax) {events : List BlockEvent}
    {history : BlockHistory Receipt} (withinGas : ∀ event ∈ events, event.WithinGas)
    (ran : run (BlockHistory.step execute builder) (new limits database) events = some history) :
    history.Sound builder limits database :=
  run_invariant_of_meets
    (fun _ _ _ sound within stepped => sound.step below within stepped)
    (sound_new builder limits database) (stepsMeet_of_forall_mem withinGas _) ran

end Limits

end BlockHistory

open BlockHistory in
/-- In every interleaving of runs and commits of transactions that use no more gas than their
limit: gas, encoded size and data availability size never exceed their limits and the counters are
their exact sums; data, KV updates, compute gas and state growth were below their limits before
each committed transaction; a commit that fails changes nothing; and once a limit is reached, no
transaction but a deposit that needs gas, size and data availability is run or committed. -/
theorem blockLimits_respected {Receipt : Type} (execute : ExecuteTransaction)
    (builder : OpReceiptBuilder Receipt) (limits : BlockLimits) (below : limits.BelowMax)
    (database : BlockState) (events : List BlockEvent)
    (withinGas : ∀ event ∈ events, event.WithinGas) (history : BlockHistory Receipt)
    (ran : run (BlockHistory.step execute builder) (.new limits database) events = some history) :
    (history.executor.blockLimiter.blockGasUsed = total (·.gasUsed) history.committed ∧
      history.executor.blockLimiter.blockTxSizeUsed = total (·.txSize) history.committed ∧
      history.executor.blockLimiter.blockDaSizeUsed =
        total (·.nonDepositDaSize) history.committed ∧
      total (·.gasUsed) history.committed ≤ limits.blockGasLimit ∧
      total (·.txSize) history.committed ≤ limits.blockTxsEncodeSizeLimit ∧
      total (·.nonDepositDaSize) history.committed ≤ limits.blockDaSizeLimit) ∧
    (∀ before outcome after, history.committed = before ++ outcome :: after →
      total (·.inner.dataSize) before < limits.blockTxsDataLimit ∧
      total (·.inner.kvUpdates) before < limits.blockKvUpdateLimit ∧
      total (·.inner.computeGasUsed) before < limits.blockComputeGasLimit ∧
      total (·.inner.stateGrowthUsed) before < limits.blockStateGrowthLimit) ∧
    (∀ outcome error after,
      (commitTransactionOutcome builder outcome).on history.executor = (.error error, after) →
        after = history.executor) ∧
    (history.executor.blockLimiter.isBlockLimitReached = true →
      ∀ outcome : BlockMegaTransactionOutcome, outcome.tx.isDeposit = false →
        0 < outcome.tx.gasLimit → 0 < outcome.txSize → 0 < outcome.daSize →
          ∃ error,
            (runTransactionWithSizes execute outcome.tx outcome.txSize outcome.daSize).on
              history.executor = (.error error, history.executor) ∧
            (commitTransactionOutcome builder outcome).on history.executor =
              (.error error, history.executor)) := by
  have sound := sound_of_run below withinGas ran
  have respects := sound.respects
  refine ⟨?_, ?_, ?_, ?_⟩
  · rw [sound.limiter]
    exact ⟨tally_eq_sum (respects.gas.trans below.gas.le),
      tally_eq_sum (respects.txSize.trans below.txSize.le),
      tally_eq_sum (respects.daSize.trans below.daSize.le),
      respects.gas, respects.txSize, respects.daSize⟩
  · intro before outcome after split
    exact ⟨respects.data before outcome after split, respects.kvUpdates before outcome after split,
      respects.computeGas before outcome after split,
      respects.stateGrowth before outcome after split⟩
  · intro outcome error after failed
    rw [commitTransactionOutcome_on] at failed
    cases checked : history.executor.check outcome.tx outcome.txSize outcome.daSize with
    | error _ =>
      rw [checked] at failed
      exact (Prod.mk.inj failed).2.symm
    | ok =>
      rw [checked] at failed
      cases failed
  · intro reached outcome notDeposit gasPositive sizePositive daPositive
    obtain ⟨error, rejected⟩ :
        ∃ error, history.executor.check outcome.tx outcome.txSize outcome.daSize =
          .error error := by
      rw [MegaBlockExecutor.check, notDeposit]
      refine preExecutionCheck_of_reached ?_ reached gasPositive sizePositive daPositive _
      rw [sound.limiter]
      exact below
    refine ⟨error, runTransactionWithSizes_of_rejected _ execute rejected, ?_⟩
    rw [commitTransactionOutcome_on, rejected]

/-- Limits with room for two transactions in every dimension but data. -/
def crowdedLimits : BlockLimits where
  txGasLimit := 50
  blockGasLimit := 100
  txEncodeSizeLimit := 10
  blockTxsEncodeSizeLimit := 100
  txDaSizeLimit := 10
  blockDaSizeLimit := 100
  blockTxsDataLimit := 5
  blockKvUpdateLimit := 5
  blockComputeGasLimit := 100
  blockStateGrowthLimit := 5

/-- An outcome whose data reaches the limit of the block. -/
def crowdedOutcome (txHash : Nat) : BlockMegaTransactionOutcome where
  tx :=
    { txHash := txHash
      signer := 1
      ty := 2
      gasLimit := 40
      txEnv :=
        { caller := 1
          kind := .call 2
          value := 0
          gasLimit := 40
          inputLength := 0
          accessListSizes := []
          authorities := []
          initialGas := 21 } }
  txSize := 8
  daSize := 3
  depositor := none
  inner :=
    { result := .success 30 (.call []) []
      state := ∅
      dataSize := 7
      kvUpdates := 1
      computeGasUsed := 20
      stateGrowthUsed := 0 }

/-- Receipts that only have the cumulative gas. -/
def gasReceipts : OpReceiptBuilder Nat where
  buildReceipt _ _ gas _ := some gas
  buildDepositReceipt receipt := receipt.cumulativeGasUsed

/-- Both transactions are run before either is committed. The first commit crosses the data limit,
so the second is rejected although its own check had passed. -/
theorem blockLimits_respected_crossing :
    ∃ history : BlockHistory Nat,
      (history.committed.length = 1 ∧ history.executor.receipts = [30] ∧
        history.executor.blockLimiter.isBlockLimitReached = true) ∧
      total (·.gasUsed) history.committed ≤ crowdedLimits.blockGasLimit := by
  let execute : ExecuteTransaction := fun _ _ => some (crowdedOutcome 0).inner
  let events : List BlockEvent :=
    [.runTransaction (crowdedOutcome 0).tx 8 3, .runTransaction (crowdedOutcome 1).tx 8 3,
      .commitTransaction (crowdedOutcome 0), .commitTransaction (crowdedOutcome 1)]
  have below : crowdedLimits.BelowMax := by constructor <;> decide
  have withinGas : ∀ event ∈ events, event.WithinGas := by
    simp [events, BlockEvent.WithinGas, crowdedOutcome, ExecutionResult.gasUsed]
  obtain ⟨history, ran, observed⟩ := Option.map_eq_some_iff.mp
    (by decide :
      (run (BlockHistory.step execute gasReceipts) (.new crowdedLimits emptyDatabase) events).map
          (fun history => (history.committed.length, history.executor.receipts,
            history.executor.blockLimiter.isBlockLimitReached)) = some (1, [30], true))
  simp only [Prod.mk.injEq] at observed
  exact ⟨history, observed,
    (blockLimits_respected execute gasReceipts crowdedLimits below emptyDatabase events withinGas
      history ran).1.2.2.2.1⟩

/-! ### Receipts -/

namespace BlockHistory

variable {Receipt : Type} (builder : OpReceiptBuilder Receipt) (limits : BlockLimits)
  (database : BlockState)

/-- What committed outcomes make of a new executor: the receipt of each is built with the gas
counted up to it, the hook is told of each in order, and the database has all their states. -/
theorem foldl_include (committed : List BlockMegaTransactionOutcome) :
    committed.foldl (MegaBlockExecutor.include builder) (new limits database).executor =
      { blockLimiter := limits.limiterAfter committed
        receipts := committed.mapIdx fun index outcome => builder.receipt outcome
          (limits.limiterAfter (committed.take (index + 1))).blockGasUsed
        database := database.commitAll (committed.map (·.inner.state))
        observed := committed.mapIdx fun index outcome => (index, outcome.inner.state) } := by
  induction committed using List.reverseRecOn with
  | nil => simp [new, toBlockLimiter, limiterAfter]
  | append_singleton committed outcome inductionHypothesis =>
    have earlier : ∀ index < committed.length,
        (committed ++ [outcome]).take (index + 1) = committed.take (index + 1) :=
      fun index below => List.take_append_of_le_length below
    rw [List.foldl_concat, inductionHypothesis, MegaBlockExecutor.include]
    simp only [postExecutionUpdate_limiterAfter, List.mapIdx_concat, List.length_mapIdx,
      List.map_append, BlockState.commitAll_append]
    congr 1
    congr 1
    · refine List.ext_getElem (by simp) fun index below _ => ?_
      rw [List.length_mapIdx] at below
      simp only [List.getElem_mapIdx, earlier index below]
    · rw [List.take_of_length_le (by simp)]

end BlockHistory

open BlockHistory in
/-- In every interleaving of runs and commits, the block has one receipt for each committed outcome,
in order and with the exact gas used up to and including it; its state hook was told of exactly
their states under the indices of their receipts; and its database is the one it began with, with
these states committed. -/
theorem blockReceipts_cumulative {Receipt : Type} (execute : ExecuteTransaction)
    (builder : OpReceiptBuilder Receipt) (limits : BlockLimits) (below : limits.BelowMax)
    (database : BlockState) (events : List BlockEvent)
    (withinGas : ∀ event ∈ events, event.WithinGas) (history : BlockHistory Receipt)
    (ran : run (BlockHistory.step execute builder) (.new limits database) events = some history) :
    history.executor.receipts =
        history.committed.mapIdx (fun index outcome =>
          builder.receipt outcome (total (·.gasUsed) (history.committed.take (index + 1)))) ∧
      history.executor.observed =
        history.committed.mapIdx (fun index outcome => (index, outcome.inner.state)) ∧
      history.executor.database = database.commitAll (history.committed.map (·.inner.state)) := by
  have sound := sound_of_run below withinGas ran
  have counted : ∀ count, tally u64Max ((history.committed.take count).map (·.gasUsed)) =
      total (·.gasUsed) (history.committed.take count) := by
    intro count
    have split := congrArg (total (·.gasUsed)) (List.take_append_drop count history.committed)
    rw [total, List.map_append, List.sum_append_nat] at split
    have part := split ▸ sound.respects.gas
    exact tally_eq_sum ((Nat.le_of_add_right_le part).trans below.gas.le)
  rw [sound.executor, foldl_include]
  simp only [limiterAfter, counted, and_true]

/-- Two transactions of 30 gas each have receipts with 30 and 60. -/
theorem blockReceipts_cumulative_two :
    ∃ history : BlockHistory Nat, history.committed.length = 2 ∧
      history.executor.receipts = [30, 60] := by
  let events : List BlockEvent :=
    [.commitTransaction (crowdedOutcome 0), .commitTransaction (crowdedOutcome 1)]
  have withinGas : ∀ event ∈ events, event.WithinGas := by
    simp [events, BlockEvent.WithinGas, crowdedOutcome, ExecutionResult.gasUsed]
  exact ⟨_, rfl, (blockReceipts_cumulative (fun _ _ => none) gasReceipts
    { crowdedLimits with blockTxsDataLimit := 50 } (by constructor <;> decide) emptyDatabase events
    withinGas _ rfl).1⟩

end MegaEvm
