/-
This file is about the start of a keyless deployment. It records its overhead as compute
gas, and when that stops the transaction it looks for the reason in the compute gas
alone: finding none there, it panics. The recording also stops for an exceed of another
dimension that is latched already. From Rex4 on a latched exceed refuses the frame before
the deployment is dispatched, so none is left. In Rex3 nothing looks at it in between, and a
transaction whose own data is over its limit reaches the panic.
-/

import MegaEvm.Evm.Halted
import MegaEvm.Evm.Recorded

namespace MegaEvm

open ComputeGasTracker

/-! ### Recording the overhead -/

namespace ComputeGasTracker

variable {tracker : ComputeGasTracker}

/-- What is recorded is added to the usage, since compute gas is never refunded. -/
theorem txUsage_recordGasUsed {amount : Int} (holds : tracker.Holds amount) (gas : Nat) :
    (tracker.recordGasUsed gas).txUsage = tracker.txUsage + gas := by
  have before := holds.txUsage_eq
  have after := (holds.recordGasUsed gas).txUsage_eq
  omega

/-- Before Rex4 only the transaction has a budget. -/
theorem exceeded_checkLimit_iff (old : tracker.frameTracker.rex4Enabled = false) :
    tracker.checkLimit.exceededLimit = true ↔ tracker.txLimit < tracker.txUsage := by
  rw [checkLimit, FrameLimitTracker.checkAgainst, old, Bool.false_and, if_neg Bool.false_ne_true]
  change _ ↔ tracker.txLimit < tracker.frameTracker.netUsage
  split
  · rename_i exceeds
    exact iff_of_true rfl exceeds
  · rename_i within
    exact iff_of_false Bool.false_ne_true within

end ComputeGasTracker

namespace AdditionalLimit

variable {limit : AdditionalLimit}

/-- When recording the compute gas stops the transaction, the compute gas is over a limit. -/
def ExplainsStop (limit : AdditionalLimit) (gas : Nat) : Prop :=
  (limit.recordComputeGas gas).2 = false →
    (limit.recordComputeGas gas).1.computeGas.checkLimit.exceededLimit = true

theorem explainsStop_of_within (within : limit.limitExceeded = false) (gas : Nat) :
    limit.ExplainsStop gas := by
  intro stops
  rw [recordComputeGas_snd, Bool.not_eq_false'] at stops
  rw [← recordComputeGas_latches within gas stops]
  exact stops

/-- A latched exceed stops the transaction, whatever its dimension. -/
theorem explainsStop_iff_of_exceeded (exceeded : limit.limitExceeded = true) (gas : Nat) :
    limit.ExplainsStop gas ↔
      (limit.computeGas.recordGasUsed gas).checkLimit.exceededLimit = true := by
  have latched : limit.hasExceededLimit.isWithinLimit = false :=
    LimitCheck.notWithin_of_exceeded exceeded
  have stops : (limit.recordComputeGas gas).2 = false := by
    rw [recordComputeGas_snd, limitExceeded, recordComputeGas_verdict latched gas]
    exact congrArg not exceeded
  rw [ExplainsStop, recordComputeGas_computeGas]
  exact ⟨fun explains => explains stops, fun explained _ => explained⟩

end AdditionalLimit

namespace Execution

variable {config : EvmConfig} {limits : EvmTxRuntimeLimits} {state next : Execution}

/-! ### Dispatch -/

/-- A keyless deployment is dispatched under limits that explain why its overhead would stop it: no
exceed is latched, as from Rex4 on, or the compute gas is over its limit with the overhead. -/
def ExplainsOverhead (config : EvmConfig) (limit : AdditionalLimit) : Prop :=
  config.spec.isEnabled .rex4 = true ∨ limit.limitExceeded = false ∨
    limit.computeGas.txLimit < limit.computeGas.txUsage + keylessDeployOverheadGas

instance (config : EvmConfig) (limit : AdditionalLimit) :
    Decidable (ExplainsOverhead config limit) :=
  inferInstanceAs (Decidable (_ ∨ _ ∨ _))

/-- The overhead of a keyless deployment is recorded without a panic exactly under such limits. -/
theorem explainsStop_iff {events : List Event} {init : FrameInit}
    (ran : Reaches config limits events state) (starts : state.phase = .intercepting init) :
    state.meter.limit.ExplainsStop keylessDeployOverheadGas ↔
      ExplainsOverhead config state.meter.limit := by
  cases exceeded : state.meter.limit.limitExceeded with
  | false =>
    exact iff_of_true (AdditionalLimit.explainsStop_of_within exceeded _) (Or.inr (Or.inl exceeded))
  | true =>
    have old : config.spec.isEnabled .rex4 = false := by
      refine Bool.eq_false_iff.mpr fun rex4 => ?_
      have within := (halts_of_run rex4 ran).at starts
      exact nomatch exceeded.symm.trans within
    have setup := congrArg LimitSetup.computeGas (setup_of_run ran)
    have flag : state.meter.limit.computeGas.frameTracker.rex4Enabled = false :=
      (congrArg TrackerSetup.rex4Enabled setup).trans old
    obtain ⟨base, recorded⟩ := recorded_of_run ran
    have stillOld : (state.meter.limit.computeGas.recordGasUsed
        keylessDeployOverheadGas).frameTracker.rex4Enabled = false :=
      (congrArg TrackerSetup.rex4Enabled (moves_recordGasUsed _ _).setup).trans flag
    rw [AdditionalLimit.explainsStop_iff_of_exceeded exceeded,
      exceeded_checkLimit_iff stillOld,
      txUsage_recordGasUsed recorded, txLimit_recordGasUsed,
      ExplainsOverhead, old, exceeded]
    simp only [Bool.false_eq_true, Bool.true_eq_false, false_or]

/-- Charging the overhead of a keyless deployment panics exactly if its gas pays the overhead, the
recording of it stops the transaction, and the compute gas does not explain that. -/
theorem panics_iff (rex3 : config.spec.isEnabled .rex3 = true) (init : FrameInit) :
    (startKeyless config state init).phase = .failed ↔
      keylessDeployOverheadGas ≤ init.input.gasLimit ∧
        ¬ state.meter.limit.ExplainsStop keylessDeployOverheadGas := by
  obtain ⟨next, equation, started⟩ := keylessStart config state init
  rw [equation]
  have explains {meter : Meter} {goes : Bool}
      (recorded : state.meter.recordComputeGas (.ofGas keylessDeployOverheadGas) = (meter, goes)) :
      state.meter.limit.ExplainsStop keylessDeployOverheadGas ↔
        (goes = false → meter.limit.computeGas.checkLimit.exceededLimit = true) := by
    rw [Meter.recordComputeGas, ComputeCharge.gas_ofGas, Prod.mk.injEq] at recorded
    rw [AdditionalLimit.ExplainsStop, recorded.2, ← recorded.1]
  cases started with
  | unpaid unpaid =>
    refine iff_of_false (by rintro ⟨⟩) fun covered => ?_
    have pays : keylessDeployOverheadGas ≤ (Gas.new init.input.gasLimit).remaining := covered.1
    rw [Gas.recordCost, if_pos pays] at unpaid
    cases unpaid
  | unmetered gas paid old => cases old.symm.trans rex3
  | metered gas paid rex3 meter recorded =>
    exact iff_of_false (by rintro ⟨⟩) fun panics =>
      panics.2 ((explains recorded).mpr (by rintro ⟨⟩))
  | reverted gas paid rex3 meter recorded frameLocal =>
    exact iff_of_false (by rintro ⟨⟩) fun panics =>
      panics.2 ((explains recorded).mpr fun _ => LimitCheck.exceeded_of_isFrameLocal frameLocal)
  | halted gas paid rex3 meter recorded notLocal exceeded =>
    exact iff_of_false (by rintro ⟨⟩) fun panics =>
      panics.2 ((explains recorded).mpr fun _ => exceeded)
  | panicked gas paid rex3 meter recorded within =>
    refine iff_of_true rfl ⟨?_, fun explained => ?_⟩
    · exact Nat.le_of_add_left_le (Gas.remaining_of_recordCost paid).le
    · cases within.symm.trans ((explains recorded).mp explained rfl)

/-- In every reachable state in which a keyless deployment is dispatched, recording its overhead
stops the transaction only for its compute gas exactly under the condition, and the dispatch panics
exactly if the gas of the call pays the overhead and the condition fails. -/
theorem keylessDispatch_panics_iff {events : List Event} {init : FrameInit}
    (rex3 : config.spec.isEnabled .rex3 = true)
    (ran : Library.run (step config) (initial config limits) events = some state)
    (starts : state.phase = .intercepting init)
    (stepped : step config state (.intercept .keyless) = some next) :
    (state.meter.limit.ExplainsStop keylessDeployOverheadGas ↔
        ExplainsOverhead config state.meter.limit) ∧
      (next.phase = .failed ↔
        keylessDeployOverheadGas ≤ init.input.gasLimit ∧
          ¬ ExplainsOverhead config state.meter.limit) := by
  have explained := explainsStop_iff ran starts
  have dispatched : next = startKeyless config state init := by
    rw [step, intercept, starts] at stepped
    dsimp only at stepped
    split at stepped
    · exact (Option.some.inj stepped).symm
    · cases stepped
  rw [dispatched, panics_iff rex3, explained]
  exact ⟨Iff.rfl, Iff.rfl⟩

def rex3Config : EvmConfig :=
  { rex6Config with spec := .rex3, metered := by decide }

/-- A keyless deployment that is started by a transaction of its own. -/
def keylessDispatch : List Event :=
  preparedRun ++
    [.firstFrame (.call
        { caller := 1, targetAddress := 2, value := .apparent 0, scheme := .call,
          gasLimit := 500000 }),
      .enterFrame none]

/-- The overhead takes the compute gas over its limit, which explains the stop. -/
theorem keylessDispatch_panics_iff_rex6 :
    ∃ state next : Execution, ∃ init : FrameInit,
      Library.run (step rex6Config)
        (initial rex6Config { roomyLimits with txComputeGasLimit := 100000 }) keylessDispatch =
          some state ∧
      state.phase = .intercepting init ∧
      step rex6Config state (.intercept .keyless) = some next ∧
      (state.meter.limit.recordComputeGas keylessDeployOverheadGas).2 = false ∧
      next.phase ≠ .failed ∧ state.meter.limit.ExplainsStop keylessDeployOverheadGas := by
  refine ⟨_, _, _, rfl, rfl, rfl, by decide +kernel, ?_⟩
  have dispatched := @keylessDispatch_panics_iff rex6Config
    { roomyLimits with txComputeGasLimit := 100000 } _ _ keylessDispatch _ (by decide) rfl rfl rfl
  exact ⟨fun failed => (dispatched.2.mp failed).2 (by decide), dispatched.1.mpr (by decide)⟩

/-- In Rex3 a transaction whose data is over its limit panics when it starts a keyless deployment:
the data limit is what stops the recording, and the compute gas is within its own. -/
theorem keylessDispatch_panics :
    ∃ state next : Execution,
      Library.run (step rex3Config) (initial rex3Config noDataLimits) keylessDispatch =
        some state ∧
      step rex3Config state (.intercept .keyless) = some next ∧ next.phase = .failed ∧
      (state.meter.limit.recordComputeGas keylessDeployOverheadGas).2 = false ∧
      (state.meter.limit.recordComputeGas keylessDeployOverheadGas).1.computeGas.checkLimit =
        .withinLimit := by
  refine ⟨_, _, rfl, rfl, rfl, ?_, ?_⟩ <;> decide +kernel

end Execution

end MegaEvm
