/-
This file is about precompiles from Rex5 on. A precompile gets no more gas than the compute
gas that is left for its frame and for the transaction, and what is recorded for it is never
more than what it got, whether it succeeds, reverts or fails. So it cannot take a
transaction over its compute limit. A result that the caller may take gas back from is put
on the gas the caller forwarded.
-/

import MegaEvm.Evm.Engine
import MegaEvm.Evm.Terminal
import MegaEvm.Limit.Reverted
import MegaEvm.Limit.Unframed

namespace MegaEvm

namespace Execution

variable {config : EvmConfig} {limits : EvmTxRuntimeLimits} {state next : Execution} {event : Event}
  {output : InterpreterResult} {gasLimit given : Nat}

/-! ### The gas of a precompile -/

theorem result_precompileOutput (gasLimit : Nat) (output : InterpreterResult) :
    (precompileOutput config gasLimit output).result = output.result := by
  rw [precompileOutput]
  split <;> rfl

theorem precompileOutput_of_failed (failed : output.result.isOkOrRevert = false) (gasLimit : Nat) :
    precompileOutput config gasLimit output = output := by
  rw [precompileOutput, failed, Bool.and_false, if_neg Bool.false_ne_true]

section Rex5

variable (rex5 : config.spec.isEnabled .rex5 = true)

include rex5

/-- A precompile gets at most the compute gas that is left. -/
theorem precompileGasLimit_le_remaining (limit : AdditionalLimit) (gasLimit : Nat) :
    precompileGasLimit config limit gasLimit ≤ limit.computeGas.currentCallRemaining := by
  rw [precompileGasLimit, if_pos rex5]
  exact Nat.min_le_right _ _

theorem precompileGasLimit_le (limit : AdditionalLimit) (gasLimit : Nat) :
    precompileGasLimit config limit gasLimit ≤ gasLimit := by
  rw [precompileGasLimit, if_pos rex5]
  exact Nat.min_le_left _ _

variable (runs : RunsOn given output)

include runs

/-- A success or a revert returns what was not spent of the gas the caller forwarded. -/
theorem gas_precompileOutput (fits : given ≤ gasLimit)
    (returns : output.result.isOkOrRevert = true) :
    (precompileOutput config gasLimit output).gas.limit = gasLimit ∧
      (precompileOutput config gasLimit output).gas.spent = output.gas.spent ∧
      (precompileOutput config gasLimit output).gas.refunded = output.gas.refunded := by
  have spent : output.gas.spent ≤ given := by
    rw [Gas.spent, runs.1]
    exact Nat.sub_le _ _
  rw [precompileOutput, rex5, returns, Bool.and_self, if_pos rfl]
  exact ⟨rfl, Nat.sub_sub_self (spent.trans fits), rfl⟩

/-- A failed precompile is recorded with all the gas it got, or with its fixed cost. -/
theorem precompileComputeGas_of_failed (isKzg : Bool) (failed : output.result.isOkOrRevert = false)
    (gasLimit : Nat) :
    precompileComputeGas config isKzg (precompileOutput config gasLimit output) =
      if isKzg = true ∧ kzgGasCost ≤ given then kzgGasCost else given := by
  rw [precompileOutput_of_failed failed, precompileComputeGas, if_pos rex5, failed,
    if_neg Bool.false_ne_true, runs.1]
  simp only [Bool.and_eq_true, decide_eq_true_eq]

/-- What is recorded for a precompile is at most what it got. -/
theorem precompileComputeGas_le (fits : given ≤ gasLimit) (isKzg : Bool) :
    precompileComputeGas config isKzg (precompileOutput config gasLimit output) ≤ given := by
  cases returns : output.result.isOkOrRevert with
  | true =>
    rw [precompileComputeGas, if_pos rex5, result_precompileOutput, returns, if_pos rfl,
      (gas_precompileOutput rex5 runs fits returns).2.1, Gas.spent, runs.1]
    exact Nat.sub_le _ _
  | false =>
    rw [precompileComputeGas_of_failed rex5 runs isKzg returns]
    split
    · rename_i fixed
      exact fixed.2
    · exact le_rfl

omit runs

/-- On clear limits a precompile latches nothing: its recording leaves the limits clear, so that the
check which follows finds nothing either. -/
theorem limit_afterPrecompile {init : FrameInit} {run : Nat → InterpreterResult}
    (clear : state.meter.limit.Clear)
    (runs : RunsOn (precompileGasLimit config state.meter.limit init.input.gasLimit)
      (run (precompileGasLimit config state.meter.limit init.input.gasLimit)))
    (isKzg committed : Bool) :
    (state.afterPrecompile config isKzg (state.precompileResult config init run)
        committed).meter.limit =
      (state.meter.limit.recordComputeGas
        (precompileComputeGas config isKzg (state.precompileResult config init run))).1 ∧
    (state.afterPrecompile config isKzg (state.precompileResult config init run)
      committed).meter.limit.Clear := by
  have capped := precompileGasLimit_le rex5 state.meter.limit init.input.gasLimit
  have room := (precompileComputeGas_le rex5 runs capped isKzg).trans
    (precompileGasLimit_le_remaining rex5 state.meter.limit init.input.gasLimit)
  have recorded := clear.recordComputeGas (clear.recordComputeGas_of_room room)
  have settled : (state.afterPrecompile config isKzg (state.precompileResult config init run)
      committed).meter.limit = _ :=
    recorded.tryRescueGas_eq (state.precompileResult config init run).gas
  exact ⟨settled, settled.symm ▸ recorded⟩

end Rex5

/-! ### Runs -/

/-- A frame is made on limits that were just checked. -/
def MakesChecked (state : Execution) : Prop :=
  ∀ init, state.phase = .making init → state.meter.limit.Checked

theorem answer_ne_making (state : Execution) (outcome : Outcome) (init : FrameInit) :
    state.answer outcome ≠ .making init := by
  rw [answer]
  split <;> rintro ⟨⟩

theorem makesChecked_transition (moves : Transition config state event next) :
    next.MakesChecked := by
  cases moves with
  | keyless init starts first =>
    obtain ⟨next, equation, started⟩ := keylessStart config state init
    rw [equation]
    cases started <;> rintro _ ⟨⟩
  | keylessCaller | keylessMerge =>
    rw [continueKeyless]
    split <;> rintro _ ⟨⟩
  | reply => exact fun init makes => absurd makes (answer_ne_making _ _ init)
  | admitStopped _ init | madeResult _ _ init makes | madePrecompile _ _ _ init makes =>
    exact fun init makes => absurd makes (answer_ne_making _ _ init)
  | admitted =>
    exact fun _ _ => AdditionalLimit.checked_checkLimit _
  | execute =>
    rw [afterInstruction]
    intro init
    dsimp only
    split <;> rintro ⟨⟩
  | _ => rintro _ ⟨⟩

theorem makesChecked_of_run {events : List Event} (ran : Reaches config limits events state) :
    state.MakesChecked := by
  have starts : (initial config limits).MakesChecked := nofun
  exact Library.run_invariant
    (fun _ _ _ _ stepped => makesChecked_transition (transition_of_step stepped)) starts ran

/-- In every reachable state that makes a precompile with nothing latched, its recorded compute gas
is within what is left of the frame and of the transaction, and nothing is latched by it. A result
that returns gas is based on the gas of the caller, and a failed one is recorded with the gas it got
or with its fixed cost. -/
theorem precompile_within_computeGas {events : List Event} {init : FrameInit}
    {run : Nat → InterpreterResult} {isKzg committed : Bool}
    (rex5 : config.spec.isEnabled .rex5 = true)
    (ran : Library.run (step config) (initial config limits) events = some state)
    (makes : state.phase = .making init)
    (unlatched : state.meter.limit.hasExceededLimit = .withinLimit)
    (runs : RunsOn (precompileGasLimit config state.meter.limit init.input.gasLimit)
      (run (precompileGasLimit config state.meter.limit init.input.gasLimit)))
    (stepped : step config state (.make (.precompile isKzg run committed)) = some next) :
    let limit := state.meter.limit
    let given := precompileGasLimit config limit init.input.gasLimit
    let returned := state.precompileResult config init run
    let recorded := precompileComputeGas config isKzg returned
    given = min init.input.gasLimit limit.computeGas.currentCallRemaining ∧
      recorded ≤ limit.computeGas.currentCallRemaining ∧
      next.meter.limit.computeGas = limit.computeGas.recordGasUsed recorded ∧
      next.meter.limit.hasExceededLimit = .withinLimit ∧
      ((run given).result.isOkOrRevert = true →
        returned.gas.limit = init.input.gasLimit ∧
          returned.gas.spent = (run given).gas.spent ∧
          returned.gas.refunded = (run given).gas.refunded) ∧
      ((run given).result.isOkOrRevert = false →
        recorded = if isKzg = true ∧ kzgGasCost ≤ given then kzgGasCost else given) := by
  intro limit given returned recorded
  have clear : limit.Clear := makesChecked_of_run ran init makes unlatched
  have capped : given ≤ init.input.gasLimit := precompileGasLimit_le rex5 limit _
  have room : recorded ≤ limit.computeGas.currentCallRemaining :=
    (precompileComputeGas_le rex5 runs capped isKzg).trans
      (precompileGasLimit_le_remaining rex5 limit _)
  have after : next = state.afterPrecompile config isKzg returned committed := by
    rw [step, make, makes] at stepped
    exact (Option.some.inj stepped).symm
  obtain ⟨settled, stillClear⟩ := limit_afterPrecompile rex5 clear runs isKzg committed
  rw [← after] at settled stillClear
  refine ⟨if_pos rex5, room, ?_, ?_, gas_precompileOutput rex5 runs capped,
    fun failed => precompileComputeGas_of_failed rex5 runs isKzg failed _⟩
  · rw [settled]
    exact AdditionalLimit.recordComputeGas_computeGas recorded
  · have metered : limit.hasExceededLimit ≠ .exempt := by rw [unlatched]; rintro ⟨⟩
    obtain exempt | ⟨within, _⟩ := AdditionalLimit.clear_iff.mp stillClear
    · rw [settled] at exempt
      exact absurd exempt (AdditionalLimit.recordComputeGas_ne_exempt metered recorded)
    · exact within

/-- Limits with less compute gas than the call below forwards. -/
def kzgLimits : EvmTxRuntimeLimits :=
  { roomyLimits with txComputeGasLimit := 150000 }

/-- A transaction that calls a precompile with more gas than its compute limit. -/
def kzgCall : List Event :=
  preparedRun ++
    [.firstFrame (.call
        { caller := 1, targetAddress := 10, value := .apparent 0, scheme := .call,
          gasLimit := 500000 }),
      .enterFrame none, .intercept .passes, .beforeInit emptyJournal]

/-- A verification that fails. -/
def kzgFailure (given : Nat) : InterpreterResult :=
  { result := .otherError 0, output := .empty, gas := .new given }

/-- The call gets the 129000 of compute gas that are left, and is recorded with its fixed cost. -/
theorem precompile_within_computeGas_kzg :
    ∃ state next : Execution, ∃ init : FrameInit,
      Library.run (step rex6Config) (initial rex6Config kzgLimits) kzgCall = some state ∧
      state.phase = .making init ∧
      step rex6Config state (.make (.precompile true kzgFailure false)) = some next ∧
      precompileGasLimit rex6Config state.meter.limit init.input.gasLimit = 129000 ∧
      precompileComputeGas rex6Config true (state.precompileResult rex6Config init kzgFailure) =
        100000 ∧
      next.meter.limit.hasExceededLimit = .withinLimit := by
  refine ⟨_, _, _, rfl, rfl, rfl, by decide +kernel, ?_, ?_⟩
  · have recorded := @precompile_within_computeGas rex6Config kzgLimits _ _ kzgCall _
      kzgFailure true false (by decide) rfl rfl (by decide +kernel) (by decide +kernel) rfl
    rw [recorded.2.2.2.2.2 rfl]
    decide +kernel
  · have recorded := @precompile_within_computeGas rex6Config kzgLimits _ _ kzgCall _
      kzgFailure true false (by decide) rfl rfl (by decide +kernel) (by decide +kernel) rfl
    exact recorded.2.2.2.1

end Execution

end MegaEvm
