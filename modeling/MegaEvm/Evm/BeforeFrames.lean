/-
This file is about the states of the frame loop before the first frame of a transaction is
started. What is recorded there is charged to the transaction, nothing was refunded, and an
exceed is latched as soon as there is one; so when a call is intercepted at depth zero the
limits are clear.
-/

import MegaEvm.Evm.Halted
import MegaEvm.Limit.Unframed

namespace MegaEvm

/-- No frame of the transaction was started yet. -/
def Phase.BeforeFrames : Phase → Prop
  | started | validating | preExecution | execution => True
  | frameInit init | intercepting init => init.depth = 0
  | _ => False

namespace Execution

/-- Before its first frame everything is recorded on the transaction, and an exceed is latched. -/
def BeforeFrames (state : Execution) : Prop :=
  state.phase.BeforeFrames → state.meter.limit.BeforeFrames

variable {config : EvmConfig} {limits : EvmTxRuntimeLimits} {state next : Execution} {event : Event}

/-! ### Hooks -/

/-- Before the first frame, with the setup that tells how the limits are detained. -/
theorem beforeFrames_start {setup : LimitSetup} (detainable : Detainable setup) :
    StartInvariant fun meter => meter.limit.BeforeFrames ∧ meter.limit.setup = setup where
  detain cap before := by
    obtain ⟨rex4, fits⟩ := detainable.of_setup before.2
    exact ⟨before.1.setComputeGasLimit rex4 fits cap, before.2⟩
  record charge before :=
    ⟨before.1.recordComputeGas charge.gas,
      (setup_steady _).record charge before.2⟩
  authority creates before :=
    ⟨before.1.onRex6Eip7702AuthorityApplied creates,
      (setup_steady _).authority creates before.2⟩
  caller before :=
    ⟨before.1.recordDepositCallerCreation,
      (setup_steady _).caller before.2⟩

/-! ### Transitions -/

theorem not_beforeFrames_answer (state : Execution) (outcome : Outcome) :
    ¬(state.answer outcome).BeforeFrames := by
  rw [answer]
  split <;> exact id

theorem not_beforeFrames_continueKeyless (state : Execution) (meter : Meter) (gas : Gas) :
    ¬(state.continueKeyless meter gas).phase.BeforeFrames := by
  rw [continueKeyless]
  split <;> exact id

theorem not_beforeFrames_startKeyless (config : EvmConfig) (state : Execution) (init : FrameInit) :
    ¬(startKeyless config state init).phase.BeforeFrames := by
  obtain ⟨next, equation, started⟩ := keylessStart config state init
  rw [equation]
  cases started <;> exact id

theorem beforeFrames_transition (detainable : Detainable state.meter.limit.setup)
    (since3 : config.spec.isEnabled .rex3 = true)
    (before : state.BeforeFrames) (moves : Transition config state event next) :
    next.BeforeFrames := by
  cases moves with
  | newTx tx between => exact fun _ => AdditionalLimit.beforeFrames_beforeTxStart _ tx
  | exemption systemOriginated cap starts =>
    have starting := before (by rw [starts]; trivial)
    exact fun _ => ((beforeFrames_start detainable).exempt config systemOriginated cap
      ⟨starting, rfl⟩ fun _ => ⟨starting.markExempt, rfl⟩).1
  | validate applied cap initialGas createsCaller validates =>
    have validating := before (by rw [validates]; trivial)
    exact fun _ => ((beforeFrames_start detainable).validated config applied cap initialGas
      createsCaller ⟨validating, rfl⟩).1
  | systemCall validates => exact fun _ => before (by rw [validates]; trivial)
  | authorityCreations amount prepares =>
    have preparing := before (by rw [prepares]; trivial)
    exact fun _ => preparing.onRex5Eip7702AuthorityCreations amount
  | preExecution amount prepares => exact fun _ => before (by rw [prepares]; trivial)
  | firstFrame input executes => exact fun _ => before (by rw [executes]; trivial)
  | entered cap init starts admitted =>
    intro first
    have starting := before (by rw [starts]; exact first)
    show (detainOracle config cap state.meter.limit).BeforeFrames
    rw [detainOracle, since3, if_pos rfl]
    exact starting
  | keyless init starts first =>
    exact fun early => absurd early (not_beforeFrames_startKeyless config state init)
  | keylessCaller | keylessMerge =>
    exact fun early => absurd early (not_beforeFrames_continueKeyless _ _ _)
  | reply => exact fun early => absurd early (not_beforeFrames_answer _ _)
  | admitStopped | madeResult | madePrecompile =>
    exact fun early => absurd early (not_beforeFrames_answer _ _)
  | startChild => exact fun early => absurd early (Nat.succ_ne_zero _)
  | execute =>
    intro early
    revert early
    simp only [afterInstruction]
    split <;> exact fun early => absurd early id
  | _ => exact fun early => absurd early id

theorem beforeFrames_of_run (rex4 : config.spec.isEnabled .rex4 = true)
    (bounded : limits.txComputeGasLimit ≤ u64Max) {events : List Event}
    (ran : Reaches config limits events state) : state.BeforeFrames := by
  have since3 : config.spec.isEnabled .rex3 = true :=
    MegaSpecId.isEnabled_mono (by decide) rex4
  have starts : (initial config limits).BeforeFrames := fun early => absurd early id
  refine Library.reached_invariant ?_ starts ran
  rintro current event after ⟨history, reached⟩ before stepped
  exact beforeFrames_transition (detainable_of_run rex4 bounded reached) since3 before
    (transition_of_step stepped)

end Execution

end MegaEvm
