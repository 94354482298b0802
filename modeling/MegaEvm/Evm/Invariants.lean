/-
This file states when a property of the meter holds through a whole run: it is enough that
the single hooks of the limits keep it. There is one rule for the hooks of an instruction,
one for those before the first frame, and one for all hooks of the frame loop.
-/

import MegaEvm.Evm.Transitions
import MegaEvm.Evm.Wrappers

namespace MegaEvm

/-! ### Instructions -/

/-- A property of the meter that every hook of an instruction keeps. -/
structure OpcodeInvariant (holds : Meter → Prop) : Prop where
  stipend : ∀ {meter} (amount : Nat), holds meter →
    holds (meter.update fun limit => (limit.tryConsumeStorageStipend amount).1)
  storage : ∀ {meter} (amount : Nat), holds meter → holds (meter.chargeStorage amount)
  record : ∀ {meter} (charge : ComputeCharge), holds meter →
    holds (meter.recordComputeGas charge).1
  recordAll : ∀ {meter} (charge : ComputeCharge), holds meter →
    holds (meter.recordComputeGasAllDims charge)
  detain : ∀ {meter} (cap : Nat), holds meter → holds (meter.update (·.setComputeGasLimit cap))
  sstore : ∀ {meter} (store : SStoreResult), holds meter → holds (meter.update (·.onSstore store))
  log : ∀ {meter} (topics length : Nat), holds meter →
    holds (meter.update (·.onLog topics length))
  refund : ∀ {meter} (amount : Nat), holds meter → holds (meter.update (·.onSelfdestruct amount))
  created : ∀ {meter}, holds meter → holds (meter.update (·.onSelfdestructNewAccount))
  credited : ∀ {meter}, holds meter → holds (meter.update (·.onSelfdestructExistingAccount))

namespace OpcodeInvariant

variable {holds : Meter → Prop} (kept : OpcodeInvariant holds)

/-- The property holds whether the wrappers go on or stop. -/
def wrapper : WrapperInvariant where
  live := holds
  halted := holds
  live_halted before := before
  live_stipend := kept.stipend
  live_storage := kept.storage
  live_record charge before _ := kept.record charge before
  halted_record := kept.record
  live_detain := kept.detain
  halted_detain := kept.detain
  live_sstore store before _ := kept.sstore store before
  halted_sstore := kept.sstore
  live_log topics length before _ := kept.log topics length before
  halted_log := kept.log

include kept

theorem execute {interpreter : Interpreter} (before : holds interpreter.meter) (spec : MegaSpecId)
    (instruction : Instruction) : holds (instruction.execute spec interpreter).meter := by
  have allows : kept.wrapper.Allows spec interpreter.meter instruction := by
    cases instruction with
    | selfdestruct access inputs refund raw =>
      refine ⟨holds, ?_, ?_⟩
      · exact
          { refund := kept.refund
            live := fun charge before _ => kept.recordAll charge before
            halted := kept.recordAll
            fails := fun _ before => before }
      · exact
          { unrecorded := before
            created := fun _ _ _ _ amount charged =>
              kept.created (kept.storage charged (kept.stipend amount before))
            credited := fun _ _ _ _ => kept.credited before }
    | _ => trivial
  have live : kept.wrapper.live interpreter.meter := before
  exact (WrapperInvariant.ends_execute spec live allows).elim id fun stopped => stopped.2

end OpcodeInvariant

/-! ### Before the first frame -/

namespace Execution

variable {config : EvmConfig} {state next : Execution} {event : Event}

/-- A property of the meter that the hooks of the validation keep. -/
structure StartInvariant (holds : Meter → Prop) : Prop where
  detain : ∀ {meter} (cap : Nat), holds meter → holds (meter.update (·.setComputeGasLimit cap))
  record : ∀ {meter} (charge : ComputeCharge), holds meter →
    holds (meter.recordComputeGas charge).1
  authority : ∀ {meter} (creates : Bool), holds meter →
    holds (meter.update (·.onRex6Eip7702AuthorityApplied creates))
  caller : ∀ {meter}, holds meter → holds (meter.update (·.recordDepositCallerCreation))

namespace StartInvariant

variable {holds : Meter → Prop} (kept : StartInvariant holds) {meter : Meter}

include kept

theorem detainIf (cap : Option Nat) (before : holds meter) :
    holds (meter.update (Execution.detain cap)) := by
  cases cap with
  | none => exact before
  | some cap => exact kept.detain cap before

theorem exempt (config : EvmConfig) (systemOriginated : Bool) (cap : Option Nat)
    (before : holds meter)
    (exempted : (config.spec.isEnabled .rex6 && systemOriginated) = true →
      holds (meter.update (·.markExempt))) :
    holds (meter.update (Execution.exempt config systemOriginated cap)) := by
  unfold Execution.exempt
  split_ifs with exempts
  · exact @detainIf holds kept (meter.update (·.markExempt)) cap (exempted exempts)
  · exact exempted exempts
  · exact kept.detainIf cap before
  · exact before

theorem recordAuthorities (applied : List Bool) (cap : Option Nat) (before : holds meter) :
    holds (meter.update (Execution.recordAuthorities applied cap)) := by
  have folded : ∀ meter : Meter, holds meter →
      holds (meter.update (applied.foldl AdditionalLimit.onRex6Eip7702AuthorityApplied)) := by
    induction applied with
    | nil => exact fun _ => id
    | cons creates rest inductionHypothesis =>
      exact fun meter before => inductionHypothesis _ (kept.authority creates before)
  exact kept.detainIf cap (folded meter before)

theorem validated (config : EvmConfig) (applied : List Bool) (cap : Option Nat)
    (initialGas : Nat) (createsCaller : Bool) (before : holds state.meter) :
    holds (state.validated config applied cap initialGas createsCaller) := by
  have authorities :
      holds (if config.spec.isEnabled .rex6 then
        state.meter.update (Execution.recordAuthorities applied cap) else state.meter) := by
    split
    · exact kept.recordAuthorities applied cap before
    · exact before
  have recorded := kept.record (.ofGas initialGas) authorities
  simp only [Execution.validated]
  split
  · exact kept.caller recorded
  · exact recorded

end StartInvariant

/-! ### The frame loop -/

/-- The event returns the result of a frame, which absorbs an exceed of that frame. -/
def Event.absorbs : Event → Bool
  | .popResult | .lastFrameResult _ => true
  | _ => false

/-- A property of the meter that every hook keeps but those that start a transaction, exempt it or
pop a frame. -/
structure SteadyInvariant (holds : Meter → Prop) : Prop extends
    HookInvariant holds, OpcodeInvariant holds, StartInvariant holds where
  creations : ∀ {meter} (amount : Nat), holds meter →
    holds (meter.update (·.onRex5Eip7702AuthorityCreations amount))
  hint : ∀ {meter} (length : Nat), holds meter →
    holds (meter.update (·.recordOracleHintBytes length))
  merge : ∀ {meter} (usage : LimitUsage), holds meter →
    holds
      { meter.update (·.mergeUsage usage) with
        charges := .ofGas usage.computeGas :: meter.charges }
  rescue : ∀ {meter} (gas : Gas), holds meter → holds (meter.update (·.rescueGas gas))
  pushEmpty : ∀ {meter}, holds meter → holds (meter.update (·.pushEmptyFrame))
  push : ∀ {meter} {journal : JournalInspect} {init : FrameInit} {growth : StateGrowthTracker},
    meter.limit.stateGrowth.beforeFrameInit journal init.input = some growth → holds meter →
      holds (meter.update (·.pushedFrame init growth))
  make : ∀ {meter} (created : Option Address), holds meter →
    holds (meter.update (·.afterFrameInit (.item created)))
  reward : ∀ {meter} (created : Bool), holds meter → holds (meter.update (recordReward · created))

namespace SteadyInvariant

variable {holds : Meter → Prop} (kept : SteadyInvariant holds) {meter : Meter}

include kept

theorem tryRescue (gas : Gas) (before : holds meter) :
    holds (meter.update (·.tryRescueGas gas)) := by
  have checked := kept.check before
  show holds { meter with limit := meter.limit.tryRescueGas gas }
  obtain equation | equation := meter.limit.tryRescueGas_cases gas <;> rw [equation]
  · exact checked
  · exact kept.rescue gas checked

theorem rescueKeyless (gas : Gas) (cause : KeylessExceed) (before : holds meter) :
    holds (meter.update (Execution.rescueKeyless config gas cause)) := by
  cases cause with
  | overhead =>
    unfold Execution.rescueKeyless
    dsimp only
    split
    · exact kept.tryRescue gas before
    · exact before
  | overflow => exact kept.rescue gas before

theorem rewards (credited : List Bool) (before : holds meter) :
    holds (meter.update fun limit => credited.foldl recordReward limit) := by
  induction credited generalizing meter with
  | nil => exact before
  | cons created rest inductionHypothesis => exact inductionHypothesis (kept.reward created before)

theorem afterProcess (result : InterpreterResult) (processed : FrameResult) (committed : Bool)
    (before : holds state.meter) :
    holds (state.afterProcess config result processed committed).meter := by
  unfold Execution.afterProcess
  cases records : recordsProcessing config processed with
  | false => exact kept.tryRescue processed.gas before
  | true =>
    have recorded := kept.record
      { gasBefore := result.gas.remaining
        gasAfter := processed.gas.remaining
        storageCharged := 0
        forwarded := 0 } before
    have rescued := kept.tryRescue processed.gas recorded
    dsimp only
    rw [if_pos rfl, if_pos rfl, AdditionalLimit.afterFrameRun_fst]
    exact rescued

/-- Every step keeps the property, if the hooks do that are no part of it. -/
theorem transition (moves : Transition config state event next) (before : holds state.meter)
    (starts : ∀ tx, event = .newTx tx →
      holds (state.meter.update fun limit => limit.reset.beforeTxStart tx))
    (enters : ∀ input, event = .firstFrame input →
      holds { state.meter with charges := [], storageCharged := 0 })
    (exempts : ∀ cap, event = .exemption true cap → config.spec.isEnabled .rex6 = true →
      holds (state.meter.update (·.markExempt)))
    (pops : event.absorbs = true → ∀ lastFrame result,
      holds (state.meter.update fun limit => (limit.beforeFrameReturnResult lastFrame result).1)) :
    holds next.meter := by
  cases moves with
  | newTx tx => exact starts tx rfl
  | firstFrame input => exact enters input rfl
  | exemption systemOriginated cap =>
    refine kept.toStartInvariant.exempt config systemOriginated cap before fun exempted => ?_
    obtain ⟨rex6, rfl⟩ := Bool.and_eq_true_iff.mp exempted
    exact exempts cap rfl rex6
  | validate applied cap initialGas createsCaller =>
    exact kept.toStartInvariant.validated config applied cap initialGas createsCaller before
  | authorityCreations amount => exact kept.creations amount before
  | refused cap init =>
    exact kept.tryRescue (.new init.input.gasLimit)
      (kept.toHookInvariant.detainOracle config cap before)
  | tooDeep cap | entered cap => exact kept.toHookInvariant.detainOracle config cap before
  | hint length => exact kept.hint length before
  | keyless init => exact kept.toHookInvariant.startKeyless config before init
  | keylessCaller _ _ _ _ left =>
    exact kept.toHookInvariant.continueKeyless state (kept.caller before) left
  | keylessMerge usage =>
    exact kept.toHookInvariant.continueKeyless state (kept.merge usage before) _
  | keylessReject gas cause => exact kept.rescueKeyless gas cause before
  | reply => exact kept.pushEmpty before
  | admitStopped journal init admits growth grown =>
    exact kept.tryRescue _ (kept.check (kept.push grown before))
  | admitted journal init admits growth grown => exact kept.check (kept.push grown before)
  | madeFrame => exact kept.make _ before
  | madeResult result => exact kept.tryRescue result.gas before
  | madePrecompile => exact kept.tryRescue _ (kept.record _ before)
  | runStopped | runGoes => exact kept.check before
  | execute instruction frame =>
    exact @OpcodeInvariant.execute _ kept.toOpcodeInvariant
      { meter := state.meter, gas := frame.gas, action := none } before config.spec instruction
  | settled frame result =>
    exact kept.toHookInvariant.settleResult config before frame.isCreate result
  | processed processed committed frame result =>
    exact kept.afterProcess result processed committed before
  | popped | finishedAnswer | finished => exact pops rfl _ _
  | rewarded credited => exact kept.rewards credited before
  | _ => exact before

end SteadyInvariant

end Execution

end MegaEvm
