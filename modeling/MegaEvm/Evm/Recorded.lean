/-
This file shows that the compute gas of a transaction is the sum of what was recorded: in
every state of a run the total of the tracker is some amount, fixed since the transaction
or its first frame was started, and the recordings since then. Nothing is refunded and no
frame that fails takes its recordings back.
-/

import MegaEvm.Evm.Overshoot
import MegaEvm.Limit.Recorded

namespace MegaEvm

open AdditionalLimit ComputeGasTracker.Holds

namespace Meter

variable {meter : Meter} {base : Int}

/-- The compute gas of all recordings. -/
def recordedGas (meter : Meter) : Nat :=
  (meter.charges.map ComputeCharge.gas).sum

/-- The compute gas of the limits is the amount and the recordings. -/
def Recorded (base : Int) (meter : Meter) : Prop :=
  meter.limit.computeGas.Holds (base + meter.recordedGas)

theorem recordedGas_of_charged {next : Meter} {charge : ComputeCharge}
    (charges : next.charges = charge :: meter.charges) :
    next.recordedGas = meter.recordedGas + charge.gas := by
  rw [recordedGas, recordedGas, charges, List.map_cons, List.sum_cons, Nat.add_comm]

variable (recorded : meter.Recorded base)

include recorded

/-- A hook that leaves the compute gas and the recordings as they are. -/
theorem Recorded.of_same {next : Meter}
    (computeGas : next.limit.computeGas = meter.limit.computeGas)
    (charges : next.charges = meter.charges) : next.Recorded base := by
  rw [Recorded, recordedGas, computeGas, charges]
  exact recorded

/-- What is recorded is added to both sides. -/
theorem Recorded.of_charged {next : Meter} {charge : ComputeCharge}
    (computeGas : next.limit.computeGas = meter.limit.computeGas.recordGasUsed charge.gas)
    (charges : next.charges = charge :: meter.charges) : next.Recorded base := by
  rw [Recorded, computeGas, recordedGas_of_charged charges, Int.natCast_add, ← Int.add_assoc]
  exact recordGasUsed recorded charge.gas

theorem Recorded.recordComputeGas (charge : ComputeCharge) :
    (meter.recordComputeGas charge).1.Recorded base :=
  recorded.of_charged (recordComputeGas_computeGas charge.gas) rfl

theorem Recorded.recordComputeGasAllDims (charge : ComputeCharge) :
    (meter.recordComputeGasAllDims charge).Recorded base := by
  refine recorded.of_charged ?_ rfl
  rw [Meter.recordComputeGasAllDims_limit, AdditionalLimit.recordComputeGasAllDims]
  exact checkLimit_computeGas _

theorem Recorded.check : (meter.update (·.checkLimit)).Recorded base :=
  recorded.of_same (checkLimit_computeGas _) rfl

theorem Recorded.detain (cap : Nat) : (meter.update (·.setComputeGasLimit cap)).Recorded base :=
  setDetainedLimit recorded cap

end Meter

namespace Execution

variable {config : EvmConfig} {state next : Execution} {event : Event} {base : Int}

/-- Every hook changes the compute gas by what it records only. -/
theorem recorded_steady (base : Int) : SteadyInvariant (Meter.Recorded base) where
  check recorded := recorded.check
  detain cap recorded := recorded.detain cap
  record charge recorded := recorded.recordComputeGas charge
  recordAll charge recorded := recorded.recordComputeGasAllDims charge
  storage _ recorded := recorded
  stipend _ recorded := recorded
  settle isCreate result recorded :=
    recorded.of_same (afterFrameRunInstructions_computeGas isCreate result) rfl
  sstore _ recorded := recorded.of_same (checkLimit_computeGas _) rfl
  log _ _ recorded := recorded.of_same (checkLimit_computeGas _) rfl
  refund _ recorded := recorded
  created recorded := recorded
  credited recorded := recorded
  authority _ recorded := recorded.of_same (checkLimit_computeGas _) rfl
  creations _ recorded := recorded.of_same (checkLimit_computeGas _) rfl
  caller recorded := recorded.of_same (checkLimit_computeGas _) rfl
  hint _ recorded := recorded.of_same (checkLimit_computeGas _) rfl
  merge {meter} usage recorded := by
    rw [Meter.Recorded, @Meter.recordedGas_of_charged meter _ (.ofGas usage.computeGas) rfl,
      Int.natCast_add, ← Int.add_assoc]
    exact mergePersistentUsage recorded usage.computeGas
  rescue _ recorded := recorded
  pushEmpty recorded := pushFrame recorded
  push _ recorded := holds_pushedFrame recorded _ _
  make created recorded := by
    cases created <;> exact recorded
  reward _ recorded := recorded

/-- A step changes the compute gas by its recordings, unless it starts a transaction or a new
history of recordings. -/
theorem recorded_transition (recorded : state.meter.Recorded base)
    (continues : ∀ tx, event ≠ .newTx tx) (later : event.firstInput? = none)
    (moves : Transition config state event next) : next.meter.Recorded base := by
  refine (recorded_steady base).transition moves recorded
    (fun tx same => absurd same (continues tx)) (fun input same => ?_) (fun _ _ _ => recorded)
    fun _ lastFrame result => ?_
  · rw [same] at later
    cases later
  · rw [Meter.Recorded, Meter.update_limit, beforeFrameReturnResult_computeGas]
    exact ComputeGasTracker.Holds.beforeFrameReturnResult recorded _

/-- In every state of a run the compute gas is an amount and the recordings. -/
theorem recorded_of_run {limits : EvmTxRuntimeLimits} {events : List Event}
    (ran : Reaches config limits events state) : ∃ base, state.meter.Recorded base := by
  refine @Library.run_invariant _ _ (step config)
    (fun reached => ∃ base, reached.meter.Recorded base) ?_ (initial config limits) _ _
    ⟨0, rfl, nofun, rfl⟩ ran
  rintro state event next ⟨base, recorded⟩ stepped
  by_cases continues : ∀ tx, event ≠ .newTx tx
  · cases first : event.firstInput? with
    | none =>
      exact ⟨base, recorded_transition recorded continues first (transition_of_step stepped)⟩
    | some input =>
      cases transition_of_step stepped with
      | firstFrame =>
        refine ⟨base + state.meter.recordedGas, ?_⟩
        rw [Meter.Recorded]
        exact (Int.add_zero _).symm ▸ recorded
      | _ => cases first
  · simp only [ne_eq, not_forall, not_not] at continues
    obtain ⟨tx, rfl⟩ := continues
    cases transition_of_step stepped with
    | newTx =>
      refine ⟨-state.meter.recordedGas, ?_⟩
      rw [Meter.Recorded]
      show (checkLimit _).computeGas.Holds (-state.meter.recordedGas +
        state.meter.recordedGas)
      rw [checkLimit_computeGas, Int.add_left_neg]
      exact ComputeGasTracker.Holds.reset _

/-! ### Compute gas that goes up -/

/-- No hook takes a recording back. -/
theorem recordedGas_steady (amount : Nat) :
    SteadyInvariant fun meter => amount ≤ meter.recordedGas where
  check := id
  detain _ := id
  record _ below := below.trans (Nat.le_add_left _ _)
  recordAll _ below := below.trans (Nat.le_add_left _ _)
  storage _ := id
  stipend _ := id
  settle _ _ := id
  sstore _ := id
  log _ _ := id
  refund _ := id
  created := id
  credited := id
  authority _ := id
  creations _ := id
  caller := id
  hint _ := id
  merge _ below := below.trans (Nat.le_add_left _ _)
  rescue _ := id
  pushEmpty := id
  push _ := id
  make _ := id
  reward _ := id

/-- The compute gas goes down only when a transaction starts. -/
theorem txUsage_le_transition (recorded : state.meter.Recorded base)
    (continues : ∀ tx, event ≠ .newTx tx) (moves : Transition config state event next) :
    state.meter.limit.computeGas.txUsage ≤ next.meter.limit.computeGas.txUsage := by
  cases first : event.firstInput? with
  | none =>
    have after := (recorded_transition recorded continues first moves).txUsage_eq
    have grows := (recordedGas_steady state.meter.recordedGas).transition moves (Nat.le_refl _)
      (fun tx same => absurd same (continues tx))
      (fun input same => by rw [same] at first; cases first)
      (fun _ _ _ => Nat.le_refl _) fun _ _ _ => Nat.le_refl _
    have before := recorded.txUsage_eq
    omega
  | some input =>
    cases moves with
    | firstFrame => exact Nat.le_refl _
    | _ => cases first

/-- Within a transaction the compute gas never goes down: no frame that fails or reverts, no refund
and no result that is absorbed gives any of it back. -/
theorem computeGas_monotone {limits : EvmTxRuntimeLimits} {history events : List Event}
    {final : Execution}
    (reached : Library.run (step config) (initial config limits) history = some state)
    (sameTx : ∀ event ∈ events, ∀ tx, event ≠ .newTx tx)
    (ran : Library.run (step config) state events = some final) :
    state.meter.limit.computeGas.txUsage ≤ final.meter.limit.computeGas.txUsage := by
  induction events generalizing state history with
  | nil =>
    cases ran
    exact Nat.le_refl _
  | cons event rest inductionHypothesis =>
    obtain ⟨next, stepped, remaining⟩ := Library.run_cons_some ran
    obtain ⟨base, recorded⟩ := recorded_of_run reached
    obtain ⟨continues, later⟩ := List.forall_mem_cons.mp sameTx
    exact (txUsage_le_transition recorded continues (transition_of_step stepped)).trans
      (inductionHypothesis (Library.run_snoc reached stepped) later remaining)

/-- Also when a child takes more than its budget and is absorbed as a revert. -/
theorem computeGas_monotone_absorbed :
    ∃ state final : Execution,
      Library.run (step rex6Config) (initial rex6Config tightLimits) [.newTx plainTx] =
        some state ∧
      Library.run (step rex6Config) state absorbedRun.tail = some final ∧
      state.meter.limit.computeGas.txUsage ≤ final.meter.limit.computeGas.txUsage :=
  ⟨_, _, rfl, rfl, @computeGas_monotone rex6Config _ tightLimits [.newTx plainTx]
    absorbedRun.tail _ rfl
    (by simp [absorbedRun, startedRun, preparedRun, childStart, frameStart]) rfl⟩

end Execution

end MegaEvm
