/-
This file says in which phases an exceed of the whole transaction can be latched, from
Rex4 on. No frame is made or runs, a frame that stopped or was settled did not succeed,
a result that is delivered is out of gas, and a keyless deployment is halted exactly
then.
-/

import MegaEvm.Evm.Terminal

namespace MegaEvm

open AdditionalLimit

/-- What an exceed leaves possible: no frame is made or run, and no result is a success. A keyless
deployment is halted by an exceed of the transaction only. -/
def Phase.Halts (limit : AdditionalLimit) : Phase → Prop
  | intercepting _ | making _ | interpreting _ | stopped _ (.newFrame _) =>
    limit.limitExceeded = false
  | keyless _ => ¬ limit.hasExceededLimit.IsTxExceed
  | keylessHalted _ _ => limit.hasExceededLimit.IsTxExceed
  | stopped _ (.returnResult result) | settled _ result =>
    limit.hasExceededLimit.IsTxExceed → result.result.isOk = false
  | delivering delivery =>
    limit.hasExceededLimit.IsTxExceed → delivery.result.instructionResult = .outOfGas
  | returned outcome =>
    limit.hasExceededLimit.IsTxExceed → outcome.result.instructionResult = .outOfGas
  | _ => True

namespace Execution

variable {config : EvmConfig} {state next : Execution} {event : Event}

/-- The phase is one that the latched verdict leaves possible. -/
def Halts (state : Execution) : Prop :=
  state.phase.Halts state.meter.limit

theorem Halts.at {phase : Phase} (halts : state.Halts) (inPhase : state.phase = phase) :
    phase.Halts state.meter.limit :=
  inPhase ▸ halts

theorem notTxExceed_of_within {limit : AdditionalLimit} (within : limit.limitExceeded = false) :
    ¬ limit.hasExceededLimit.IsTxExceed :=
  fun exceeds => nomatch within.symm.trans exceeds.exceeded

theorem halts_answer (state : Execution) (limit : AdditionalLimit) (outcome : Outcome) :
    (state.answer outcome).Halts limit := by
  rw [answer]
  split <;> trivial

/-- The overhead of a keyless deployment halts it if it exceeds a limit of the transaction. -/
theorem halts_startKeyless (within : state.meter.limit.limitExceeded = false) (init : FrameInit) :
    (startKeyless config state init).Halts := by
  have goes := state.meter.limit.recordComputeGas_snd keylessDeployOverheadGas
  have latches := recordComputeGas_latches within keylessDeployOverheadGas
  obtain ⟨next, equation, started⟩ := keylessStart config state init
  rw [equation]
  cases started with
  | unmetered => exact notTxExceed_of_within within
  | metered gas paid rex3 meter recorded =>
    rw [Meter.recordComputeGas, ComputeCharge.gas_ofGas, Prod.mk.injEq] at recorded
    rw [recorded.2] at goes
    rw [← recorded.1]
    exact notTxExceed_of_within ((Bool.not_eq_true' _).mp goes.symm)
  | halted gas paid rex3 meter recorded notLocal exceeded =>
    rw [Meter.recordComputeGas, ComputeCharge.gas_ofGas, Prod.mk.injEq] at recorded
    rw [recorded.2] at goes
    have latched := latches ((Bool.not_eq_false' _).mp goes.symm)
    rw [← recorded.1] at notLocal exceeded ⊢
    exact LimitCheck.isTxExceed_of (latched ▸ exceeded) (latched ▸ notLocal)
  | _ => trivial

theorem halts_continueKeyless (meter : Meter) (gas : Gas) :
    (state.continueKeyless meter gas).Halts := by
  rw [continueKeyless]
  split
  · rename_i halted
    rw [Bool.and_eq_true, Bool.not_eq_true'] at halted
    exact LimitCheck.isTxExceed_of halted.1 halted.2
  · rename_i goes
    intro exceeds
    refine goes ?_
    rw [Bool.and_eq_true, Bool.not_eq_true']
    exact ⟨exceeds.exceeded, exceeds.notFrameLocal⟩

/-- After an instruction an exceed has stopped the frame. -/
theorem halts_afterInstruction {frame : EngineFrame} {ran : Interpreter}
    (stops : ran.meter.limit.limitExceeded = true → ran.Returns) :
    (state.afterInstruction frame ran).Halts := by
  cases exceeded : ran.meter.limit.limitExceeded with
  | true =>
    obtain ⟨result, returns, failed⟩ := stops exceeded
    rw [afterInstruction, returns]
    exact fun _ => failed
  | false =>
    rw [afterInstruction]
    rcases ran.action with _ | input | result
    · exact exceeded
    · exact exceeded
    · exact fun exceeds => absurd exceeds (notTxExceed_of_within exceeded)

/-- Settling makes no success of a result when an exceed of the transaction is latched. -/
theorem isOk_settleResult {isCreate : Bool} {result : InterpreterResult} {meter : Meter}
    (fails : meter.limit.hasExceededLimit.IsTxExceed → result.result.isOk = false)
    (exceeds : (settleResult config isCreate result meter).1.limit.hasExceededLimit.IsTxExceed) :
    (settleResult config isCreate result meter).2.result.isOk = false := by
  cases isCreate with
  | false =>
    rw [settleResult] at exceeds
    rw [deposits_call] at exceeds
    exact fails exceeds
  | true =>
    revert exceeds
    simp only [settleResult, afterFrameRunInstructions, if_true]
    split
    · exact fun _ => isOk_exceeding _
    · rename_i within
      exact fun exceeds => absurd exceeds.exceeded within

variable (rex4 : config.spec.isEnabled .rex4 = true)

include rex4

theorem halts_transition (halts : state.Halts) (moves : Transition config state event next) :
    next.Halts := by
  cases moves with
  | entered cap init starts admitted => exact admitted rex4
  | keyless init starts first => exact halts_startKeyless (halts.at starts) init
  | keylessCaller => exact halts_continueKeyless _ _
  | keylessMerge =>
    exact halts_continueKeyless _ _
  | reply | admitStopped | madeResult | madePrecompile => exact halts_answer _ _ _
  | admitted _ _ _ _ _ within | runGoes _ _ within => exact within
  | runStopped => exact fun _ => isOk_exceeding _
  | execute instruction frame interprets =>
    exact halts_afterInstruction
      (@returns_of_exceeded { meter := state.meter, gas := frame.gas, action := none }
        (halts.at interprets) config.spec instruction)
  | settled frame result stops => exact isOk_settleResult (halts.at stops)
  | popped outcome returns =>
    exact beforeFrameReturnResult_outOfGas
      (fun impossible => absurd impossible Bool.false_ne_true) outcome.result
  | deliveredLast parentGas delivery delivers suspended =>
    have outOfGas := halts.at delivers
    exact outOfGas
  | _ => trivial

theorem halts_of_run {limits : EvmTxRuntimeLimits} {events : List Event}
    (ran : Reaches config limits events state) : state.Halts := by
  refine @Library.run_invariant _ _ (step config) Halts ?_ (initial config limits) _ _ trivial ran
  exact fun _ _ _ halts stepped => halts_transition rex4 halts (transition_of_step stepped)

end Execution

end MegaEvm
