/-
This file is about the end of a create frame. The storage of returned code is charged as
gas, from Rex5 on its compute gas is recorded before the engine commits the frame, its
length is counted as data, and the limits are checked; then the engine refuses the code,
or charges it and commits the frame.

A frame that the engine commits has passed that check with everything recorded, and its
compute gas is recorded once. A frame that deploys nothing is counted as well: the data it
reverts with takes part in the check as if it were code.
-/

import MegaEvm.Evm.Overshoot
import MegaEvm.Limit.Discarded

namespace MegaEvm

open StateGrowthTracker AdditionalLimit

namespace Execution

variable {config : EvmConfig} {state next : Execution} {frame : EngineFrame}
  {result : InterpreterResult} {address : Option Address}

/-! ### The engine -/

def createContractStartingWithEF : InstructionResult := .otherError 0xef

def createContractSizeLimit : InstructionResult := .otherError 0x60

/-- What the engine makes of the result of a create frame, and whether it commits the frame: a
result that is no success is handed on, then the first byte and the length of the code are tested,
and the deposit is charged. -/
def returnCreate (config : EvmConfig) (result : InterpreterResult) : InterpreterResult × Bool :=
  if !result.result.isOk then (result, false)
  else if !config.eip3541Disabled && result.output.head? == some 0xef then
    ({ result with result := createContractStartingWithEF }, false)
  else if config.maxCodeSize < result.output.length then
    ({ result with result := createContractSizeLimit }, false)
  else
    match result.gas.recordCost (result.output.length * codedepositGas) with
    | none => ({ result with result := .outOfGas }, false)
    | some gas => ({ result with result := .returned, gas }, true)

/-- What the engine makes of the result of a frame, and whether it commits the frame. -/
def processNextAction (config : EvmConfig) (isCreate : Bool) (address : Option Address)
    (result : InterpreterResult) : FrameResult × Bool :=
  if isCreate then
    (.create (returnCreate config result).1 address, (returnCreate config result).2)
  else (.call result, result.result.isOk)

/-- The end of `frame_run`, from the result of the interpreter on. -/
def endFrame (config : EvmConfig) (address : Option Address) (state : Execution) :
    Option Execution :=
  (step config state .settle).bind fun settled =>
    match settled.phase with
    | .settled frame result =>
      let (processed, committed) := processNextAction config frame.isCreate address result
      step config settled (.process processed committed)
    | _ => none

/-- The engine commits exactly the creates that the code predicts. -/
theorem committed_returnCreate (config : EvmConfig) (result : InterpreterResult) :
    (returnCreate config result).2 = willReturnCreateChargeCodeDeposit config result := by
  rw [returnCreate, willReturnCreateChargeCodeDeposit]
  split_ifs with fails firstByte size
  · rw [(Bool.not_eq_true' _).mp fails]
    rfl
  · rw [firstByte, Bool.not_true, Bool.and_false]
    rfl
  · rw [decide_eq_false (Nat.not_le.mpr size), Bool.and_false]
    rfl
  · rw [(Bool.not_eq_false' _).mp (Bool.eq_false_iff.mpr fails), Bool.eq_false_iff.mpr firstByte,
      decide_eq_true (Nat.not_lt.mp size), Gas.recordCost]
    split
    · rename_i unpaid
      split at unpaid
      · cases unpaid
      · rename_i short
        exact (decide_eq_false short).symm
    · rename_i paid
      split at paid
      · rename_i enough
        exact (decide_eq_true enough).symm
      · cases paid

/-- The ways the engine ends a create frame. -/
inductive ReturnsCreate (result : InterpreterResult) : InterpreterResult × Bool → Prop
  | failed (fails : result.result.isOk = false) : ReturnsCreate result (result, false)
  | refused (status : InstructionResult) (succeeds : result.result.isOk = true)
      (isError : status.isError = true) :
      ReturnsCreate result ({ result with result := status }, false)
  | committed (gas : Gas) (succeeds : result.result.isOk = true)
      (paid : result.gas.recordCost (result.output.length * codedepositGas) = some gas) :
      ReturnsCreate result ({ result with result := .returned, gas }, true)

theorem returnsCreate (config : EvmConfig) (result : InterpreterResult) :
    ReturnsCreate result (returnCreate config result) := by
  rw [returnCreate]
  cases succeeds : result.result.isOk with
  | false => exact .failed succeeds
  | true =>
    rw [Bool.not_true, if_neg Bool.false_ne_true]
    split
    · exact .refused _ succeeds rfl
    · split
      · exact .refused _ succeeds rfl
      · split
        · exact .refused _ succeeds rfl
        · rename_i gas paid
          exact .committed gas succeeds paid

/-- The result that ends a frame is settled, processed and finished. -/
theorem endFrame_eq (config : EvmConfig) (address : Option Address)
    (stops : state.phase = .stopped frame (.returnResult result)) :
    endFrame config address state =
      some
        (let settled := settleResult config frame.isCreate result state.meter
        let processed := processNextAction config frame.isCreate address settled.2
        afterProcess config { state with meter := settled.1, phase := .settled frame settled.2 }
          settled.2 processed.1 processed.2) := by
  rw [endFrame, step, settle, stops]
  rfl

/-- The engine's processing is the one its rule describes. -/
theorem processes_processNextAction (config : EvmConfig) (isCreate : Bool)
    (address : Option Address) (result : InterpreterResult) :
    Processes config isCreate result (processNextAction config isCreate address result).1 := by
  cases isCreate with
  | false => rfl
  | true =>
    refine ⟨rfl, ?_⟩
    have returns := returnsCreate config result
    have commits := committed_returnCreate config result
    show if willReturnCreateChargeCodeDeposit config result = true then
        (returnCreate config result).1.result.isOk = true ∧
          (returnCreate config result).1.gas.remaining + result.output.length * codedepositGas =
            result.gas.remaining
      else (returnCreate config result).1.gas.remaining = result.gas.remaining ∧
        if result.result.isOk = true then (returnCreate config result).1.result.isError = true
        else (returnCreate config result).1.result = result.result
    rw [← commits]
    generalize returnCreate config result = returned at returns ⊢
    cases returns with
    | failed fails =>
      rw [fails]
      exact ⟨rfl, rfl⟩
    | refused status succeeds isError =>
      rw [succeeds]
      exact ⟨rfl, isError⟩
    | committed gas succeeds paid => exact ⟨rfl, Gas.remaining_of_recordCost paid⟩

/-- A transaction that creates an account, up to the end of its constructor. -/
def constructorRun (result : InterpreterResult) : List Event :=
  [.newTx { plainTx with kind := .create }, .exemption false none, .validate [] none 53000 false,
    .preExecution 0,
    .firstFrame (.create
      { caller := 1, value := 0, createdAddress := fun _ => 9, gasLimit := 40000 }),
    .enterFrame none, .intercept .passes, .beforeInit emptyJournal, .make (.frame 9), .beginRun,
    .execute (.plain { remaining := 39000, action := some (.returnResult result) })]

/-- The transaction at the end of its constructor. -/
def constructorState (limits : EvmTxRuntimeLimits) (result : InterpreterResult) : Execution :=
  (Library.run (step rex6Config) (initial rex6Config limits) (constructorRun result)).getD
    (initial rex6Config limits)

/-- Counting the returned data leaves clear limits clear exactly if there is room for its length, or
if the transaction is exempt. -/
theorem clear_counted_iff {limit : AdditionalLimit} (clear : limit.Clear) (length : Nat) :
    { limit with dataSize := limit.dataSize.afterFrameRun true length }.Clear ↔
      limit.hasExceededLimit = .exempt ∨
        limit.dataSize.frameTracker.Takes limit.dataSize.frameTracker.rex4Enabled
          limit.dataSize.txLimit length 0 := by
  have counted : limit.charged length 0 0 0 =
      { limit with dataSize := limit.dataSize.afterFrameRun true length } := by
    simp only [charged, recordGrowth_zero,
      recordRefund_zero, FrameLimitTracker.addFrameDiscardable_zero]
    rfl
  have unchanged : limit.charged 0 0 0 0 = limit := by
    simp only [charged, DataSizeTracker.recordDiscardable_zero,
      recordGrowth_zero, recordRefund_zero,
      FrameLimitTracker.addFrameDiscardable_zero]
  have nothing := clear.charged_iff 0 0 0 0
  rw [unchanged] at nothing
  rw [← counted, clear.charged_iff, takes_iff]
  refine or_congr_right' fun metered => and_iff_left ?_
  have takes := (nothing.mp clear).resolve_left metered
  exact ⟨takes.kvUpdate, takes.stateGrowth⟩

/-- A create frame that is no success keeps its status and its data and latches nothing exactly if
the frame and the transaction have room for the length of what it returned, or if the transaction is
exempt. -/
theorem failedCreate_unmetered_iff (stops : state.phase = .stopped frame (.returnResult result))
    (creates : frame.isCreate = true) (fails : result.result.isOk = false)
    (clear : state.meter.limit.Clear) (ended : endFrame config address state = some next) :
    (next.meter.limit.limitExceeded = false ∧
        ∃ outcome, next.phase = .returning outcome ∧
          outcome.result.outcome.result = result.result ∧
          outcome.result.outcome.output = result.output) ↔
      state.meter.limit.hasExceededLimit = .exempt ∨
        state.meter.limit.dataSize.frameTracker.Takes
          state.meter.limit.dataSize.frameTracker.rex4Enabled state.meter.limit.dataSize.txLimit
          result.output.length 0 := by
  rw [endFrame_eq config address stops, Option.some.injEq, creates,
    settleResult_of_failed true fails] at ended
  rw [← clear_counted_iff clear, ← ended]
  constructor
  · -- an exceed that is latched when the data is counted stays latched
    rintro ⟨within, _⟩
    by_contra exceeded
    have latched : (state.meter.limit.afterFrameRunInstructions true result).1.limitExceeded =
        true := by
      rw [AdditionalLimit.Clear, Bool.not_eq_false] at exceeded
      simp only [afterFrameRunInstructions, if_true]
      split
      · exact exceeded
      · exact exceeded
    have kept := afterFrameRun_verdict (LimitCheck.notWithin_of_exceeded latched)
    cases within.symm.trans ((congrArg LimitCheck.exceededLimit (kept _ _)).trans latched)
  · intro counted
    have settled : state.meter.limit.afterFrameRunInstructions true result =
        ({ state.meter.limit with
            dataSize := state.meter.limit.dataSize.afterFrameRun true result.output.length },
          result) := by
      simp only [afterFrameRunInstructions, if_true, counted.checkLimit_eq,
        counted.notExceeded, Bool.false_eq_true, if_false]
    have processed : returnCreate config result = (result, false) := by
      rw [returnCreate, fails, Bool.not_false, if_pos rfl]
    have free : ∀ before ∈ if recordsProcessing config (.create result address) then
        some result.gas.remaining else none, before = result.gas.remaining := by
      intro before recorded
      split at recorded
      · exact (Option.some.inj recorded).symm
      · cases recorded
    have same := counted.afterFrameRun_eq (.create result address) free
    simp only [settled, processNextAction, if_true, processed, afterProcess, Meter.update_limit,
      same]
    exact ⟨counted.notExceeded, _, rfl, rfl, rfl⟩

/-- A constructor that reverts with a word of data. -/
def revertedConstructor : InterpreterResult :=
  { result := .revert, output := .bytes (List.replicate 32 0), gas := ⟨40000, 39000, 0⟩ }

theorem failedCreate_unmetered_iff_roomy :
    ∃ next : Execution, ∃ frame : EngineFrame, ∃ outcome : Outcome,
      (constructorState roomyLimits revertedConstructor).phase =
        .stopped frame (.returnResult revertedConstructor) ∧
      endFrame rex6Config (some 9) (constructorState roomyLimits revertedConstructor) = some next ∧
      next.phase = .returning outcome ∧ next.meter.limit.limitExceeded = false ∧
      outcome.result.outcome.result = .revert ∧
      outcome.result.outcome.output = revertedConstructor.output := by
  refine ⟨_, _, _, rfl, rfl, rfl, ?_⟩
  have unmetered := @failedCreate_unmetered_iff rex6Config
    (constructorState roomyLimits revertedConstructor) _ _ revertedConstructor (some 9)
    rfl rfl rfl rfl rfl
  obtain ⟨within, outcome, returns, status, data⟩ := unmetered.mpr (Or.inr (by decide +kernel))
  rw [← Phase.returning.inj returns] at status data
  exact ⟨within, status, data⟩

/-- A constructor that reverts on limits with room for the transaction and its account, and for no
word more: the data it reverts with is counted as code, the exceed is latched, and the data is
replaced. -/
theorem revertedCreate_metered :
    ∃ state next : Execution, ∃ frame : EngineFrame, ∃ outcome : Outcome,
      Library.run (step rex6Config)
        (initial rex6Config { roomyLimits with txDataSizeLimit := 200 })
        (constructorRun revertedConstructor) = some state ∧
      state.phase = .stopped frame (.returnResult revertedConstructor) ∧
      state.meter.limit.checkLimit.limitExceeded = false ∧
      endFrame rex6Config (some 9) state = some next ∧ next.phase = .returning outcome ∧
      next.meter.limit.limitExceeded = true ∧
      outcome.result.outcome.output ≠ revertedConstructor.output := by
  refine ⟨_, _, _, _, rfl, rfl, ?_, rfl, rfl, ?_, ?_⟩ <;> decide +kernel

end Execution

end MegaEvm
