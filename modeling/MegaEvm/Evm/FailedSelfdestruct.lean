/-
This file is about a self-destruct whose engine instruction fails after the wrapper recorded
what happens to the beneficiary. Nothing is latched when that is recorded, and a frame that
fails takes it away. But the hook that ends the frame checks the limits, and the frame is
popped after it. So such a self-destruct leaves no trace exactly if the frame and the
transaction had room for what was recorded.
-/

import MegaEvm.Evm.CreateResults
import MegaEvm.Evm.FullRescue

namespace MegaEvm

open StateGrowthTracker AdditionalLimit Interpreter

/-! ### Dropped with the frame -/

/-- The stipend that is left of a frame is dropped with it. -/
theorem StorageCallStipendTracker.beforeFrameReturnResult_tryConsume
    (tracker : StorageCallStipendTracker) (amount : Nat) (result : FrameResult) :
    (tracker.tryConsume amount).1.beforeFrameReturnResult result =
      tracker.beforeFrameReturnResult result := by
  obtain ⟨_, rex5, stack⟩ := tracker
  cases rex5 <;> cases stack <;> rfl

namespace AdditionalLimit

variable {limit other : AdditionalLimit}

/-- The limits differ only in what a frame that fails takes with it. -/
def DropsLike (other limit : AdditionalLimit) : Prop :=
  ∀ result : FrameResult, result.instructionResult.isOk = false →
    other.beforeFrameReturnResult false result = limit.beforeFrameReturnResult false result

theorem dropsLike_charged (data kv growth refund : Nat) {stipend : StorageCallStipendTracker}
    (dropped : ∀ result, stipend.beforeFrameReturnResult result =
      limit.storageCallStipend.beforeFrameReturnResult result) :
    ({ limit with storageCallStipend := stipend }.charged data kv growth
      refund).DropsLike limit := by
  intro result fails
  have popped : ({ limit with storageCallStipend := stipend }.charged data kv growth
      refund).poppedFrame result = limit.poppedFrame result := by
    rw [poppedFrame_charged _ data kv growth refund fails, poppedFrame, dropped]
    rfl
  have burned : ({ limit with storageCallStipend := stipend }.charged data kv growth
      refund).burnedResult result = limit.burnedResult result :=
    congrArg Prod.snd (dropped result)
  have pops (limit : AdditionalLimit) : limit.PopsFrame false :=
    (by rintro ⟨⟩)
  rw [beforeFrameReturnResult_of_pops (pops _), beforeFrameReturnResult_of_pops (pops _), popped,
    burned]

end AdditionalLimit

namespace StorageGasExt

variable {spec : MegaSpecId} {inputs : SelfdestructInputs} {interpreter : Interpreter}

/-- The writes of accounts that are recorded for the beneficiary. -/
def SelfdestructInputs.writes (inputs : SelfdestructInputs) (spec : MegaSpecId) : Nat :=
  if inputs.createsTarget || spec.isEnabled .rex6 && inputs.creditsTarget then 1 else 0

/-- The accounts that are recorded as new. -/
def SelfdestructInputs.growth (inputs : SelfdestructInputs) : Nat :=
  if inputs.createsTarget then 1 else 0

/-- The limits with the beneficiary and the refund recorded. -/
def SelfdestructInputs.charged (inputs : SelfdestructInputs) (spec : MegaSpecId)
    (refund : Option Nat) (limit : AdditionalLimit) : AdditionalLimit :=
  limit.charged (inputs.writes spec * accountInfoWriteSize) (inputs.writes spec) inputs.growth
    (refund.getD 0)

/-- What is recorded for the beneficiary is charged to the top frame. -/
theorem limit_recordBeneficiary (goes : (recordBeneficiary spec inputs interpreter).2 = true) :
    ∃ stipend : StorageCallStipendTracker,
      (∀ result, stipend.beforeFrameReturnResult result =
        interpreter.meter.limit.storageCallStipend.beforeFrameReturnResult result) ∧
      (recordBeneficiary spec inputs interpreter).1.meter.limit =
        inputs.charged spec none
          { interpreter.meter.limit with storageCallStipend := stipend } := by
  revert goes
  rw [recordBeneficiary]
  split_ifs with creates credits
  · -- the new account is paid from the stipend first
    obtain ⟨_, charged⟩ | stopped := chargeStorageGas_cases inputs.newAccountGas interpreter
    · intro _
      refine ⟨_, interpreter.meter.limit.storageCallStipend.beforeFrameReturnResult_tryConsume
        inputs.newAccountGas, ?_⟩
      rw [charged]
      simp only [SelfdestructInputs.charged, SelfdestructInputs.writes, SelfdestructInputs.growth,
        creates, Bool.true_or, if_true, Option.getD_none, AdditionalLimit.charged,
        recordRefund_zero]
      rfl
    · rw [stopped]
      rintro ⟨⟩
  · intro _
    refine ⟨_, fun _ => rfl, ?_⟩
    simp only [SelfdestructInputs.charged, SelfdestructInputs.writes, SelfdestructInputs.growth,
      creates, credits, Bool.or_true, if_true, if_false, Option.getD_none, AdditionalLimit.charged,
      Bool.false_eq_true, recordGrowth_zero,
      recordRefund_zero]
    rfl
  · intro _
    refine ⟨_, fun _ => rfl, ?_⟩
    simp only [SelfdestructInputs.charged, SelfdestructInputs.writes, SelfdestructInputs.growth,
      creates, credits, Bool.or_false, if_false, Option.getD_none, AdditionalLimit.charged,
      Bool.false_eq_true, recordGrowth_zero,
      recordRefund_zero, DataSizeTracker.recordDiscardable_zero,
      FrameLimitTracker.addFrameDiscardable_zero, Nat.zero_mul]

/-- An engine instruction that fails stops the wrapper of the compute gas at once. Only the refund
of the host was recorded. -/
theorem computeGasExt_selfdestruct_of_failed {refund : Option Nat} {raw : RawOutcome}
    {failure : InterpreterResult} (fails : raw.action = some (.returnResult failure))
    (isError : failure.result.isError = true) :
    (ComputeGasExt.selfdestruct refund raw interpreter).action = raw.action ∧
      (ComputeGasExt.selfdestruct refund raw interpreter).meter.limit =
        { interpreter.meter.limit with
          stateGrowth := interpreter.meter.limit.stateGrowth.recordRefund (refund.getD 0) } := by
  have aborts (interpreter : Interpreter) : (interpreter.runInner raw).aborts = true := by
    rw [aborts, instructionResult,
      show (interpreter.runInner raw).action = some (.returnResult failure) from fails]
    exact isError
  simp only [ComputeGasExt.selfdestruct, aborts, if_true]
  cases refund with
  | some amount => exact ⟨rfl, rfl⟩
  | none =>
    rw [Option.getD_none, recordRefund_zero]
    exact ⟨rfl, rfl⟩

/-- An engine instruction that fails stops a self-destruct with what was recorded. -/
theorem execute_selfdestruct_of_failed (refund : Option Nat) {raw : RawOutcome}
    {access : VolatileAccess} {failure : InterpreterResult}
    (rex5 : spec.isEnabled .rex5 = true) (allowed : access.disabled = none)
    (writable : inputs.isStatic = false) (found : inputs.early = none)
    (goes : (recordBeneficiary spec inputs interpreter).2 = true)
    (fails : raw.action = some (.returnResult failure)) (isError : failure.result.isError = true) :
    ∃ stipend : StorageCallStipendTracker,
      (∀ result, stipend.beforeFrameReturnResult result =
        interpreter.meter.limit.storageCallStipend.beforeFrameReturnResult result) ∧
      ((Instruction.selfdestruct access inputs refund raw).execute spec interpreter).action =
        some (.returnResult failure) ∧
      ((Instruction.selfdestruct access inputs refund raw).execute spec interpreter).meter.limit =
        inputs.charged spec refund
          { interpreter.meter.limit with storageCallStipend := stipend } := by
  obtain ⟨stipend, dropped, recorded⟩ := limit_recordBeneficiary goes
  obtain ⟨action, limit⟩ := @computeGasExt_selfdestruct_of_failed
    (recordBeneficiary spec inputs interpreter).1 refund raw failure fails isError
  have inner : selfdestruct spec inputs refund raw interpreter =
      ComputeGasExt.selfdestruct refund raw (recordBeneficiary spec inputs interpreter).1 := by
    rw [selfdestruct, writable, if_neg Bool.false_ne_true, found]
    revert goes
    generalize recordBeneficiary spec inputs interpreter = beneficiary
    obtain ⟨_, _ | _⟩ := beneficiary
    · rintro ⟨⟩
    · exact fun _ => rfl
  have aborts : (selfdestruct spec inputs refund raw interpreter).aborts = true := by
    rw [inner, aborts, instructionResult, action, fails]
    exact isError
  have execute : (Instruction.selfdestruct access inputs refund raw).execute spec interpreter =
      ComputeGasExt.selfdestruct refund raw (recordBeneficiary spec inputs interpreter).1 := by
    simp only [Instruction.execute, Instruction.executeSelfdestruct, rex5, if_true,
      VolatileDataExt.wrapDetainGas, allowed, aborts]
    exact inner
  refine ⟨stipend, dropped, ?_, ?_⟩
  · rw [execute, action, fails]
  · rw [execute, limit, recorded]
    simp only [SelfdestructInputs.charged, charged, Option.getD_none, recordRefund_zero]

end StorageGasExt

namespace Execution

variable {config : EvmConfig} {state stopped ended : Execution} {frame : EngineFrame}
  {failure : InterpreterResult} {address : Option Address}

/-! ### The end of the frame -/

/-- The engine hands on a result that failed. -/
theorem processNextAction_of_failed (isCreate : Bool) (fails : failure.result.isOk = false) :
    (processNextAction config isCreate address failure).1.outcome = failure := by
  cases isCreate with
  | false => rfl
  | true =>
    show (returnCreate config failure).1 = failure
    rw [returnCreate, fails, Bool.not_false, if_pos rfl]

/-- The data of a frame that returned none does not count. -/
theorem afterFrameRun_of_empty (isCreate : Bool) (empty : failure.output = .empty)
    (tracker : DataSizeTracker) :
    tracker.afterFrameRun isCreate failure.output.length = tracker := by
  rw [empty, DataSizeTracker.afterFrameRun]
  split
  · exact tracker.recordDiscardable_zero
  · rfl

section Ends

variable (rex5 : config.spec.isEnabled .rex5 = true)
  (stops : stopped.phase = .stopped frame (.returnResult failure))
  (fails : failure.result.isOk = false) (empty : failure.output = .empty)

include rex5 stops fails empty

/-- On clear limits a frame that failed without data ends with its result and the limits as they
are. -/
theorem endFrame_of_clear
    (clear : stopped.meter.limit.Clear) (ends : endFrame config address stopped = some ended) :
    ended.meter.limit = stopped.meter.limit ∧
      ∃ outcome, ended.phase = .returning outcome ∧ outcome.result.outcome = failure := by
  have counted : stopped.meter.limit.afterFrameRunInstructions frame.isCreate failure =
      (stopped.meter.limit, failure) := by
    simp only [afterFrameRunInstructions, afterFrameRun_of_empty _ empty,
      clear.checkLimit_eq, clear.notExceeded, Bool.false_eq_true, if_false, ite_self]
  have processes := processes_processNextAction config frame.isCreate address failure
  have same := clear.afterFrameRun_eq _ (free_of_processes rex5 processes)
  rw [endFrame_eq config address stops, Option.some.injEq,
    settleResult_of_failed frame.isCreate fails, counted] at ends
  simp only [afterProcess, Meter.update_limit, counted, same] at ends
  rw [← ends]
  exact ⟨rfl, _, rfl, processNextAction_of_failed frame.isCreate fails⟩

/-- The end of a frame that failed without data finds what the limits exceed. -/
theorem endFrame_of_exceeded
    (exceeds : ¬ stopped.meter.limit.Clear) (ends : endFrame config address stopped = some ended) :
    ended.meter.limit.limitExceeded = true := by
  have stillExceeds :
      ¬ (stopped.meter.limit.afterFrameRunInstructions frame.isCreate failure).1.Clear := by
    have latches : ¬ stopped.meter.limit.checkLimit.Clear := fun clear =>
      exceeds clear.notExceeded
    simp only [afterFrameRunInstructions, afterFrameRun_of_empty _ empty]
    split
    · split <;> exact latches
    · exact exceeds
  have processes := processes_processNextAction config frame.isCreate address
    (stopped.meter.limit.afterFrameRunInstructions frame.isCreate failure).2
  rw [endFrame_eq config address stops, Option.some.injEq,
    settleResult_of_failed frame.isCreate fails] at ends
  rw [← ends]
  exact limitExceeded_afterFrameRun stillExceeds _ (free_of_processes rex5 processes)

end Ends

/-- The frame ends as if the instruction had recorded nothing: no exceed is latched and no gas
rescued, the result is the one of the engine and leaves the parent no gas, and popping the frame
leaves what it would have left before the instruction. -/
structure EndsUntraced (state ended : Execution) (failure : InterpreterResult) : Prop where
  within : ended.meter.limit.limitExceeded = false
  unrescued : ended.meter.limit.rescuedGas = state.meter.limit.rescuedGas
  returns : ∃ outcome, ended.phase = .returning outcome ∧ outcome.result.outcome = failure ∧
    (∀ parent, deliveredGas parent outcome.result = parent) ∧
    (ended.afterPop outcome).meter.limit = (state.afterPop outcome).meter.limit ∧
    (ended.afterPop outcome).phase = (state.afterPop outcome).phase

/-- A self-destruct whose engine instruction fails leaves no trace exactly if the frame and the
transaction had room for what was recorded for the beneficiary, or if the transaction is exempt. -/
theorem failedSelfdestruct_untraced_iff {limits : EvmTxRuntimeLimits} {events : List Event}
    {access : VolatileAccess} {inputs : StorageGasExt.SelfdestructInputs} {refund : Option Nat}
    {raw : RawOutcome} (rex5 : config.spec.isEnabled .rex5 = true)
    (fits : limits.txComputeGasLimit ≤ u64Max)
    (ran : Library.run (step config) (initial config limits) events = some state)
    (runs : state.phase = .interpreting frame) (allowed : access.disabled = none)
    (writable : inputs.isStatic = false) (found : inputs.early = none)
    (recorded : (StorageGasExt.recordBeneficiary config.spec inputs
      { meter := state.meter, gas := frame.gas, action := none }).2 = true)
    (fails : raw.action = some (.returnResult failure)) (isError : failure.result.isError = true)
    (empty : failure.output = .empty)
    (executed : step config state (.execute (.selfdestruct access inputs refund raw)) =
      some stopped)
    (ends : endFrame config address stopped = some ended) :
    EndsUntraced state ended failure ↔
      state.meter.limit.hasExceededLimit = .exempt ∨
        state.meter.limit.Takes (inputs.writes config.spec * accountInfoWriteSize)
          (inputs.writes config.spec) inputs.growth (refund.getD 0) := by
  have clear : state.meter.limit.Clear :=
    (checked_of_run (MegaSpecId.rex4_of_rex5 rex5) fits ran).at runs
  have notOk : failure.result.isOk = false := by
    rw [InstructionResult.isError, Bool.and_eq_true, Bool.not_eq_true'] at isError
    exact isError.1
  obtain ⟨stipend, dropped, action, charged⟩ :=
    StorageGasExt.execute_selfdestruct_of_failed refund rex5 allowed writable found recorded fails
      isError
  rw [step, execute, runs, Option.some.injEq] at executed
  have stops : ∃ gas, stopped.phase =
      .stopped { frame with gas } (.returnResult failure) := by
    rw [← executed, afterInstruction]
    exact ⟨_, by rw [action]⟩
  have limit : stopped.meter.limit = inputs.charged config.spec refund
      { state.meter.limit with storageCallStipend := stipend } := by
    rw [← executed]
    exact charged
  obtain ⟨gas, stops⟩ := stops
  have withStipend : { state.meter.limit with storageCallStipend := stipend }.Clear :=
    clear.of_checks rfl id id id id
  have takes := withStipend.charged_iff (inputs.writes config.spec * accountInfoWriteSize)
    (inputs.writes config.spec) inputs.growth (refund.getD 0)
  rw [takes_iff] at takes ⊢
  refine Iff.trans ?_ takes
  constructor
  · intro untraced
    by_contra exceeds
    have latched := endFrame_of_exceeded rex5 stops notOk empty (limit ▸ exceeds) ends
    cases untraced.within.symm.trans latched
  · intro charges
    obtain ⟨same, outcome, returns, result⟩ :=
      endFrame_of_clear rex5 stops notOk empty (limit ▸ charges) ends
    have failed : outcome.result.instructionResult = failure.result :=
      congrArg InterpreterResult.result result
    have dropsLike := dropsLike_charged
      (inputs.writes config.spec * accountInfoWriteSize) (inputs.writes config.spec) inputs.growth
      (refund.getD 0) dropped outcome.result (failed ▸ notOk)
    have popped : ended.meter.limit.beforeFrameReturnResult false outcome.result =
        state.meter.limit.beforeFrameReturnResult false outcome.result := by
      rw [same, limit]
      exact dropsLike
    refine ⟨?_, ?_, outcome, returns, result, ?_, ?_, ?_⟩
    · rw [same, limit]
      exact charges.notExceeded
    · rw [same, limit]
      rfl
    · intro parent
      have keeps : outcome.result.instructionResult.isOkOrRevert = false := by
        rw [failed, InstructionResult.isOkOrRevert, ← Bool.not_eq_true', Bool.not_or]
        exact isError
      rw [deliveredGas, keeps, if_neg Bool.false_ne_true]
    · exact congrArg Prod.fst popped
    · simp only [afterPop, popped]
      rfl

/-- A self-destruct in favour of an account that does not exist yet. -/
def newBeneficiary : StorageGasExt.SelfdestructInputs where
  isStatic := false
  early := none
  targetIsEmpty := true
  targetIsOther := true
  hasValue := true
  newAccountGas := 1000

def outOfGasFailure : InterpreterResult :=
  emptyResult .outOfGas ⟨40000, 0, 0⟩

/-- The engine's instruction runs out of gas. -/
def unpaidSelfdestruct : Instruction :=
  .selfdestruct { disabled := none, computeGasLimit := none } newBeneficiary none
    { remaining := 0, action := some (.returnResult outOfGasFailure) }

/-- The first frame of a transaction, when it runs. -/
def startedState (limits : EvmTxRuntimeLimits) : Execution :=
  (Library.run (step rex6Config) (initial rex6Config limits) startedRun).getD
    (initial rex6Config limits)

/-- The frame after the self-destruct. -/
def destroyedState (limits : EvmTxRuntimeLimits) : Execution :=
  (step rex6Config (startedState limits) (.execute unpaidSelfdestruct)).getD (startedState limits)

theorem failedSelfdestruct_untraced_iff_roomy :
    ∃ ended : Execution,
      endFrame rex6Config none (destroyedState roomyLimits) = some ended ∧
      EndsUntraced (startedState roomyLimits) ended outOfGasFailure := by
  refine ⟨_, rfl, ?_⟩
  refine (@failedSelfdestruct_untraced_iff rex6Config (startedState roomyLimits)
    (destroyedState roomyLimits) _ _ outOfGasFailure none roomyLimits startedRun
    { disabled := none, computeGasLimit := none } newBeneficiary none _ (by decide) (by decide)
    rfl rfl rfl rfl rfl (by decide +kernel) rfl (by decide) rfl rfl rfl).mpr ?_
  exact Or.inr (by decide +kernel)

/-- On limits without room for the beneficiary the end of the frame latches an exceed of the usage
that the frame is about to drop. The frame that ran out of gas becomes one that reverted. -/
theorem failedSelfdestruct_traced :
    ∃ state stopped ended : Execution, ∃ outcome : Outcome,
      Library.run (step rex6Config)
        (initial rex6Config { roomyLimits with txDataSizeLimit := 180 }) startedRun = some state ∧
      step rex6Config state (.execute unpaidSelfdestruct) = some stopped ∧
      endFrame rex6Config none stopped = some ended ∧ ended.phase = .returning outcome ∧
      ended.meter.limit.limitExceeded = true ∧
      (ended.meter.limit.beforeFrameReturnResult false outcome.result).2.instructionResult =
        .revert ∧
      (state.meter.limit.beforeFrameReturnResult false outcome.result).2.instructionResult =
        .outOfGas := by
  refine ⟨_, _, _, _, rfl, rfl, rfl, rfl, ?_, ?_, ?_⟩ <;> decide +kernel

end Execution

end MegaEvm
