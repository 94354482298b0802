/-
This file proves that the frame loop keeps the setup of the limits: in every reachable
state the trackers have the specification and the limits they were made with.
-/

import MegaEvm.Evm.Invariants
import MegaEvm.Limit.Stacks

namespace MegaEvm

open AdditionalLimit AdditionalLimit.Moves Library

namespace Execution

variable {config : EvmConfig} {state next : Execution} {event : Event}

section Moves

variable {holds : AdditionalLimit → Prop}
  (kept : ∀ {limit next : AdditionalLimit}, limit.Moves id next → holds limit → holds next)

include kept

/-- What depends on the setup and the height of the stacks, the hooks of an instruction keep. -/
theorem opcodes_of_moves : OpcodeInvariant fun meter => holds meter.limit where
  stipend amount := kept (moves_tryConsumeStorageStipend _ amount)
  storage _ := id
  record charge := kept (moves_recordComputeGas _ charge.gas)
  recordAll charge := kept (moves_recordComputeGasAllDims _ charge.gas)
  detain _ := kept { refl _ with }
  sstore store := kept (moves_onSstore _ store)
  log topics length := kept (moves_onLog _ topics length)
  refund amount := kept (moves_onSelfdestruct _ amount)
  created := kept (moves_onSelfdestructNewAccount _)
  credited := kept (moves_onSelfdestructExistingAccount _)

theorem hooks_of_moves : HookInvariant fun meter => holds meter.limit where
  check := kept (moves_checkLimit _)
  detain _ := kept { refl _ with }
  record charge := kept (moves_recordComputeGas _ charge.gas)
  storage _ := id
  settle isCreate result :=
    kept (moves_afterFrameRunInstructions _ isCreate result)

theorem start_of_moves : StartInvariant fun meter => holds meter.limit where
  detain _ := kept { refl _ with }
  record charge := kept (moves_recordComputeGas _ charge.gas)
  authority creates := kept (moves_onRex6Eip7702AuthorityApplied _ creates)
  caller := kept (moves_recordDepositCallerCreation _)

end Moves

/-- Every hook keeps the setup. -/
theorem setup_steady (setup : LimitSetup) :
    SteadyInvariant fun meter => meter.limit.setup = setup :=
  { opcodes_of_moves fun moves => moves.setup.trans, hooks_of_moves fun moves => moves.setup.trans,
    start_of_moves fun moves => moves.setup.trans with
    creations := fun amount same =>
      (moves_onRex5Eip7702AuthorityCreations _ amount).setup.trans same
    hint := fun length same =>
      (moves_recordOracleHintBytes _ length).setup.trans same
    merge := fun _ same => same
    rescue := fun _ same => same
    pushEmpty := fun same => (moves_pushEmptyFrame _).setup.trans same
    push := fun grown same => (moves_pushedFrame grown).setup.trans same
    make := fun _ same => (moves_afterFrameInit _ _).setup.trans same
    reward := fun created same => by
      cases created <;> exact same }

/-- Every step keeps the setup. -/
theorem setup_transition (moves : Transition config state event next) :
    next.meter.limit.setup = state.meter.limit.setup :=
  (setup_steady _).transition moves rfl
    (fun tx _ => (moves_beforeTxStart _ tx).setup) (fun _ _ => rfl)
    (fun _ _ _ => rfl) fun _ _ _ => (moves_beforeFrameReturnResult ..).setup

variable {limits : EvmTxRuntimeLimits} {events : List Event}

/-- In every reachable state the limits have the setup they were made with. -/
theorem setup_of_run (ran : Reaches config limits events state) :
    state.meter.limit.setup = (new config.spec limits).setup := by
  have kept : (fun reached : Execution =>
      reached.meter.limit.setup = (new config.spec limits).setup) state :=
    run_invariant
      (fun _ _ _ same stepped => (setup_transition (transition_of_step stepped)).trans same) rfl ran
  exact kept

/-! ### Budgets -/

/-- What the trackers of a machine with budgets are made with. -/
structure Detainable (setup : LimitSetup) : Prop where
  rex4 : setup.computeGas.rex4Enabled = true
  fits : setup.computeGas.txLimit ≤ u64Max

theorem Detainable.of_setup {setup : LimitSetup} (detainable : Detainable setup)
    {limit : AdditionalLimit} (same : limit.setup = setup) :
    limit.computeGas.frameTracker.rex4Enabled = true ∧
      limit.computeGas.frameTracker.txLimit ≤ u64Max := by
  subst same
  exact ⟨detainable.rex4, detainable.fits⟩

theorem detainable_of_run (rex4 : config.spec.isEnabled .rex4 = true)
    (fits : limits.txComputeGasLimit ≤ u64Max) (ran : Reaches config limits events state) :
    Detainable state.meter.limit.setup := by
  rw [setup_of_run ran]
  exact ⟨rex4, fits⟩

end Execution

end MegaEvm
