/-
This file proves that the verdict can be trusted whenever compute gas is recorded. The
recording checks compute gas alone, and that is enough because every other recording is
followed by a check before the next one: a verdict of within then means that data size,
key-value updates and state growth are within, and the short check decides as the full
one.

`SELFDESTRUCT` is the exception from Rex5 on. It records the writes to its beneficiary
without a check and leaves the check to the instruction it wraps, which makes none when
the engine's instruction fails. A call then finishes with an exceed that is not latched,
unless there was room for the writes; the result of a create is checked on its own.
-/

import MegaEvm.Evm.Engine
import MegaEvm.Evm.Terminal
import MegaEvm.Limit.Budget

namespace MegaEvm

open AdditionalLimit FrameLimitTracker

/-! ### Self-destructs -/

namespace AdditionalLimit

variable {limit : AdditionalLimit}

/-- The top frame may still write an account, and create it. -/
def HasRoom (limit : AdditionalLimit) (creates : Bool) : Prop :=
  accountInfoWriteSize ≤ limit.dataSize.currentCallRemaining ∧
    1 ≤ limit.kvUpdate.currentCallRemaining ∧
    (creates = true → 1 ≤ limit.stateGrowth.currentCallRemaining)

instance (limit : AdditionalLimit) (creates : Bool) : Decidable (limit.HasRoom creates) :=
  inferInstanceAs (Decidable (_ ∧ _))

variable (within : limit.WritesWithin)

include within

theorem WritesWithin.onSelfdestruct (refund : Nat) : (limit.onSelfdestruct refund).WritesWithin :=
  ⟨within.dataSize, within.kvUpdate,
    StateGrowthTracker.checkLimit_recordRefund within.stateGrowth refund⟩

theorem WritesWithin.onSelfdestructNewAccount (room : limit.HasRoom true) :
    limit.onSelfdestructNewAccount.WritesWithin :=
  ⟨checkAgainst_addFrameDiscardable within.dataSize room.1,
    checkAgainst_addFrameDiscardable within.kvUpdate room.2.1,
    StateGrowthTracker.checkLimit_recordGrowth within.stateGrowth (room.2.2 rfl)⟩

theorem WritesWithin.onSelfdestructExistingAccount (room : limit.HasRoom false) :
    limit.onSelfdestructExistingAccount.WritesWithin :=
  ⟨checkAgainst_addFrameDiscardable within.dataSize room.1,
    checkAgainst_addFrameDiscardable within.kvUpdate room.2.1,
    within.stateGrowth⟩

end AdditionalLimit

namespace Execution

/-- The self-destruct an event executes, with what the engine answers. -/
def destructs? : Event → Option (StorageGasExt.SelfdestructInputs × RawOutcome)
  | .execute (.selfdestruct _ inputs _ raw) => some (inputs, raw)
  | _ => none

/-- A self-destruct of a call that records the writes to its beneficiary while nothing is exceeded
has room for them, if the engine's instruction then fails. -/
def RecordsWithRoom (config : EvmConfig) (state : Execution) (event : Event) : Prop :=
  ∀ frame ∈ state.phase.interpreting?, ∀ destruct ∈ destructs? event,
    frame.isCreate = false → state.verdict = .withinLimit →
      config.spec.isEnabled .rex5 = true → destruct.1.isStatic = false →
        destruct.1.early = none → destruct.2.fails = true →
          (destruct.1.createsTarget = true → state.meter.limit.HasRoom true) ∧
            (config.spec.isEnabled .rex6 = true → destruct.1.creditsTarget = true →
              state.meter.limit.HasRoom false)

instance (config : EvmConfig) (state : Execution) (event : Event) :
    Decidable (RecordsWithRoom config state event) :=
  inferInstanceAs (Decidable (∀ frame ∈ state.phase.interpreting?, _))

/-! ### Instructions -/

/-- The limits were settled each time compute gas was recorded. -/
def EnteredSettled (meter : Meter) : Prop :=
  ∀ limit ∈ meter.entered, limit.Settled

theorem EnteredSettled.recordComputeGas {meter : Meter} (entered : EnteredSettled meter)
    (settled : meter.limit.Settled) (charge : ComputeCharge) :
    EnteredSettled (meter.recordComputeGas charge).1 :=
  List.forall_mem_cons.mpr ⟨settled, entered⟩

/-- The limits are settled while the wrappers of an instruction go on. If `strict`, they were so
whenever compute gas was recorded and, if there is `room`, they are so also when the frame stops. -/
def settledInvariant (strict room : Bool) : WrapperInvariant where
  live meter := meter.limit.Settled ∧ (strict = true → EnteredSettled meter)
  halted meter := strict = true → (room = true → meter.limit.Settled) ∧ EnteredSettled meter
  live_halted live isStrict := ⟨fun _ => live.1, live.2 isStrict⟩
  live_stipend amount live := ⟨live.1.tryConsumeStorageStipend amount, live.2⟩
  live_storage _ live := live
  live_record charge live _ :=
    ⟨live.1.recordComputeGas charge.gas,
      fun isStrict => (live.2 isStrict).recordComputeGas live.1 charge⟩
  halted_record charge live isStrict :=
    ⟨fun _ => live.1.recordComputeGas charge.gas,
      (live.2 isStrict).recordComputeGas live.1 charge⟩
  live_detain cap live := ⟨live.1.setComputeGasLimit cap, live.2⟩
  halted_detain cap halted isStrict :=
    ⟨fun hasRoom => ((halted isStrict).1 hasRoom).setComputeGasLimit cap, (halted isStrict).2⟩
  live_sstore _ live _ := ⟨checkLimit_settled _, live.2⟩
  halted_sstore _ halted isStrict :=
    ⟨fun _ => checkLimit_settled _, (halted isStrict).2⟩
  live_log _ _ live _ := ⟨checkLimit_settled _, live.2⟩
  halted_log _ _ halted isStrict :=
    ⟨fun _ => checkLimit_settled _, (halted isStrict).2⟩

/-- What holds of the meter from the recording of a beneficiary to the check: if there is `room`,
nothing is over its limit when the engine's instruction fails. -/
def RecordedWithin (strict room : Bool) (raw : RawOutcome) (meter : Meter) : Prop :=
  strict = true →
    (room = true → raw.fails = true → meter.limit.Settled) ∧ EnteredSettled meter

theorem settledInvariant_destructs (strict room : Bool) (raw : RawOutcome) :
    (settledInvariant strict room).Destructs raw (RecordedWithin strict room raw) where
  refund amount recorded isStrict :=
    ⟨fun hasRoom fails within =>
      ((recorded isStrict).1 hasRoom fails within).onSelfdestruct amount, (recorded isStrict).2⟩
  live _ recorded _ :=
    ⟨checkLimit_settled _, fun isStrict => (recorded isStrict).2⟩
  halted _ recorded isStrict := ⟨fun _ => checkLimit_settled _, (recorded isStrict).2⟩
  fails fails recorded isStrict :=
    ⟨fun hasRoom => (recorded isStrict).1 hasRoom fails, (recorded isStrict).2⟩

variable {config : EvmConfig} {state next : Execution} {event : Event} {strict : Bool}

theorem settledInvariant_allows {instruction : Instruction} {frame : EngineFrame}
    (live : (settledInvariant strict !frame.isCreate).live state.meter)
    (interprets : state.phase = .interpreting frame)
    (room : strict = true → RecordsWithRoom config state (.execute instruction)) :
    (settledInvariant strict !frame.isCreate).Allows config.spec state.meter instruction := by
  cases instruction with
  | selfdestruct access inputs refund raw =>
    have hasRoom := fun isStrict isCall within =>
      room isStrict frame (interprets ▸ rfl) (inputs, raw) rfl
        ((Bool.not_eq_true' _).mp isCall) within
    refine ⟨_, settledInvariant_destructs strict _ raw, ?_⟩
    constructor
    · exact fun isStrict => ⟨fun _ _ => live.1, live.2 isStrict⟩
    · intro rex5 notStatic early creates amount charged isStrict
      refine ⟨fun isCall fails within => ?_, live.2 isStrict⟩
      have writes := (hasRoom isStrict isCall within rex5 notStatic early fails).1 creates
      exact (live.1.tryConsumeStorageStipend amount within).onSelfdestructNewAccount writes
    · intro rex6 notStatic early credits isStrict
      refine ⟨fun isCall fails within => ?_, live.2 isStrict⟩
      have writes := (hasRoom isStrict isCall within (MegaSpecId.rex5_of_rex6 rex6) notStatic early
        fails).2 rex6 credits
      exact (live.1 within).onSelfdestructExistingAccount writes
  | _ => trivial

end Execution

/-! ### Phases -/

/-- A verdict of within can be trusted here. The result of a frame that returns is trusted only if
`strict`, and that of a create that failed not before it is settled. -/
def Phase.trusts (strict : Bool) : Phase → Bool
  | started | validating | preExecution | execution | frameInit _ | intercepting _ | keyless _
  | keylessHalted _ _ | replying _ | admitting _ | making _ | interpreting _
  | stopped _ (.newFrame _) => true
  | stopped frame (.returnResult result) => strict && (!frame.isCreate || result.result.isOk)
  | settled _ _ => strict
  | _ => false

namespace Execution

variable {config : EvmConfig} {state next : Execution} {event : Event} {strict : Bool}

/-- The limits are settled where they are trusted and, if `strict`, whenever compute gas was
recorded. -/
structure Trusted (strict : Bool) (state : Execution) : Prop where
  settled : state.phase.trusts strict = true → state.meter.limit.Settled
  entered : strict = true → EnteredSettled state.meter

theorem Trusted.at {strict : Bool} {state : Execution} (trusted : state.Trusted strict)
    {phase : Phase} (inPhase : state.phase = phase) (trusts : phase.trusts strict = true) :
    state.meter.limit.Settled :=
  trusted.settled (inPhase ▸ trusts)

theorem trusts_answer (state : Execution) (outcome : Outcome) :
    (state.answer outcome).trusts strict = false := by
  rw [answer]
  split <;> rfl

/-- A result that is not from a frame of the engine goes where the limits are not trusted. -/
theorem trusted_answer {meter : Meter} (entered : strict = true → EnteredSettled meter)
    (outcome : Outcome) : { state with meter, phase := state.answer outcome }.Trusted strict :=
  ⟨fun trusts => absurd ((trusts_answer state outcome).symm.trans trusts) Bool.false_ne_true,
    entered⟩

/-- The limits are settled and, if `strict`, were so whenever compute gas was recorded. -/
def MeterSettled (strict : Bool) (meter : Meter) : Prop :=
  meter.limit.Settled ∧ (strict = true → EnteredSettled meter)

theorem settled_hooks (strict : Bool) : HookInvariant (MeterSettled strict) where
  check before := ⟨checkLimit_settled _, before.2⟩
  detain cap before := ⟨before.1.setComputeGasLimit cap, before.2⟩
  record charge before :=
    ⟨before.1.recordComputeGas charge.gas,
      fun isStrict => (before.2 isStrict).recordComputeGas before.1 charge⟩
  storage _ before := before
  settle _ result before :=
    ⟨afterFrameRunInstructions_settled (fun _ => before.1) result, before.2⟩

theorem settled_start (strict : Bool) : StartInvariant (MeterSettled strict) where
  detain := (settled_hooks strict).detain
  record := (settled_hooks strict).record
  authority _ before := ⟨checkLimit_settled _, before.2⟩
  caller before := ⟨checkLimit_settled _, before.2⟩

theorem trusted_continueKeyless {meter : Meter} (entered : strict = true → EnteredSettled meter)
    (gas : Gas) : (state.continueKeyless meter gas).Trusted strict := by
  rw [continueKeyless]
  split <;> exact ⟨fun _ => checkLimit_settled _, entered⟩

theorem settled_rescueKeyless {limit : AdditionalLimit} (settled : limit.Settled)
    (config : EvmConfig) (gas : Gas) (cause : KeylessExceed) :
    (rescueKeyless config gas cause limit).Settled := by
  cases cause with
  | overhead =>
    simp only [rescueKeyless]
    split
    · exact limit.tryRescueGas_settled gas
    · exact settled
  | overflow => exact settled.of_eq rfl rfl rfl rfl

/-- After an instruction the limits are settled where they are trusted. -/
theorem trusted_afterInstruction {frame : EngineFrame} {ran : Interpreter}
    (ends : (settledInvariant strict !frame.isCreate).Ends ran) :
    (state.afterInstruction frame ran).Trusted strict := by
  obtain live | ⟨⟨result, returns, failed⟩, halted⟩ := ends
  · exact ⟨fun _ => live.1, live.2⟩
  · refine ⟨fun trusts => ?_, fun isStrict => (halted isStrict).2⟩
    rw [afterInstruction, returns] at trusts
    obtain ⟨isStrict, isCall⟩ := (Bool.and_eq_true _ _).mp trusts
    rw [failed, Bool.or_false] at isCall
    exact (halted isStrict).1 isCall

/-- Settling the result of a frame leaves the limits settled, also those of a create that failed:
nothing is recorded before its check. -/
theorem settled_settleResult (config : EvmConfig) {frame : EngineFrame} {result : InterpreterResult}
    (trusted : state.Trusted true) (stops : state.phase = .stopped frame (.returnResult result)) :
    MeterSettled true (settleResult config frame.isCreate result state.meter).1 := by
  cases trusts : (!frame.isCreate || result.result.isOk) with
  | true =>
    exact (settled_hooks true).settleResult config ⟨trusted.at stops trusts, trusted.entered⟩ _ _
  | false =>
    obtain ⟨isCreate, failed⟩ := Bool.or_eq_false_iff.mp trusts
    rw [settleResult_of_failed frame.isCreate failed]
    refine ⟨afterFrameRunInstructions_settled (fun isCall => ?_) result, trusted.entered⟩
    rw [isCall] at isCreate
    cases isCreate

theorem trusted_afterProcess (trusted : state.Trusted strict)
    (settled : strict = true → state.meter.limit.Settled) (result : InterpreterResult)
    (processed : FrameResult) (committed : Bool) :
    (state.afterProcess config result processed committed).Trusted strict := by
  refine ⟨nofun, fun isStrict => ?_⟩
  rw [afterProcess, EnteredSettled]
  dsimp only
  split
  · exact List.forall_mem_cons.mpr ⟨settled isStrict, trusted.entered isStrict⟩
  · exact trusted.entered isStrict

/-! ### Transitions -/

/-- A step leaves the limits settled where they are trusted. -/
theorem trusted_transition (trusted : state.Trusted strict)
    (room : strict = true → RecordsWithRoom config state event)
    (moves : Transition config state event next) : next.Trusted strict := by
  cases moves with
  | newTx => exact ⟨fun _ => checkLimit_settled _, trusted.entered⟩
  | exemption systemOriginated cap starts =>
    have exempted := (settled_start strict).exempt config systemOriginated cap
      ⟨trusted.at starts rfl, trusted.entered⟩ fun _ => ⟨nofun, trusted.entered⟩
    exact ⟨fun _ => exempted.1, exempted.2⟩
  | validate applied cap initialGas createsCaller validates =>
    have validated := (settled_start strict).validated config applied cap initialGas createsCaller
      ⟨trusted.at validates rfl, trusted.entered⟩
    exact ⟨fun _ => validated.1, validated.2⟩
  | systemCall validates => exact ⟨fun _ => trusted.at validates rfl, trusted.entered⟩
  | authorityCreations | hint | admitted | runStopped | runGoes =>
    exact ⟨fun _ => checkLimit_settled _, trusted.entered⟩
  | preExecution amount prepares => exact ⟨fun _ => trusted.at prepares rfl, trusted.entered⟩
  | firstFrame input executes => exact ⟨fun _ => trusted.at executes rfl, trusted.entered⟩
  | refused =>
    exact ⟨fun _ => tryRescueGas_settled _ _, trusted.entered⟩
  | tooDeep cap _ starts | entered cap _ starts =>
    have settled := trusted.at starts rfl
    have detained := (settled_hooks strict).detainOracle config cap ⟨settled, trusted.entered⟩
    exact ⟨fun _ => detained.1, detained.2⟩
  | passes _ _ starts | answers _ _ starts =>
    exact ⟨fun _ => trusted.at starts rfl, trusted.entered⟩
  | keyless init starts first =>
    have started := (settled_hooks strict).startKeyless config
      ⟨trusted.at starts rfl, trusted.entered⟩ init
    exact ⟨fun _ => started.1, started.2⟩
  | keylessCallerUnpaid _ _ deploys | keylessAnswer _ _ _ deploys =>
    exact ⟨fun _ => trusted.at deploys rfl, trusted.entered⟩
  | keylessCaller storageGas gas deploys rex5 left paid =>
    refine trusted_continueKeyless ?_ left
    exact trusted.entered
  | keylessMerge =>
    refine trusted_continueKeyless ?_ _
    exact trusted.entered
  | keylessReject gas cause halted =>
    have settled := trusted.at halted rfl
    exact ⟨fun _ => settled_rescueKeyless settled config gas cause, trusted.entered⟩
  | reply outcome replies =>
    refine trusted_answer ?_ outcome
    exact trusted.entered
  | admitStopped | madeResult =>
    refine trusted_answer ?_ _
    exact trusted.entered
  | madePrecompile isKzg run committed init makes =>
    have settled := trusted.at makes rfl
    refine trusted_answer (fun isStrict => ?_) _
    exact (trusted.entered isStrict).recordComputeGas settled
      (.ofGas (precompileComputeGas config isKzg (state.precompileResult config init run)))
  | execute instruction frame interprets =>
    have live : (settledInvariant strict !frame.isCreate).live state.meter :=
      ⟨trusted.at interprets rfl, trusted.entered⟩
    have allows := settledInvariant_allows live interprets room
    exact trusted_afterInstruction (WrapperInvariant.ends_execute config.spec live allows)
  | startChild frame input stops => exact ⟨fun _ => trusted.at stops rfl, trusted.entered⟩
  | settled frame result stops =>
    cases strict with
    | true =>
      have settles := settled_settleResult config trusted stops
      exact ⟨fun _ => settles.1, settles.2⟩
    | false => exact ⟨nofun, nofun⟩
  | processed processed committed frame result settles =>
    exact trusted_afterProcess trusted (trusted.at settles) result processed committed
  | _ => exact ⟨nofun, trusted.entered⟩

theorem trusted_initial (strict : Bool) (config : EvmConfig) (limits : EvmTxRuntimeLimits) :
    (initial config limits).Trusted strict :=
  ⟨fun trusts => absurd trusts Bool.false_ne_true,
    fun _ _ member => nomatch member⟩

/-- In every reachable state the limits are settled where the loop trusts them, except perhaps for
the result of a frame. -/
theorem trusted_of_run {limits : EvmTxRuntimeLimits} {events : List Event}
    (ran : Reaches config limits events state) : state.Trusted false :=
  Library.run_invariant
    (fun _ _ _ trusted stepped => trusted_transition trusted
      (fun impossible => absurd impossible Bool.false_ne_true) (transition_of_step stepped))
    (trusted_initial false config limits) ran

/-- In every run whose self-destructs have room for what they record before they fail, whenever
compute gas was recorded on a verdict of within, no other dimension was over its limit, and the
check of compute gas alone is the check of all dimensions. -/
theorem latch_sound {limits : EvmTxRuntimeLimits} {events : List Event} {final : Execution}
    (room : Library.StepsMeet (step config) (RecordsWithRoom config) (initial config limits) events)
    (ran : Library.run (step config) (initial config limits) events = some final) :
    ∀ limit ∈ final.meter.entered,
      (limit.hasExceededLimit = .withinLimit → limit.WritesWithin) ∧
        ∀ gas, limit.recordComputeGas gas = limit.recordComputeGasAllDims gas := by
  have trusted : final.Trusted true :=
    Library.run_invariant_of_meets
      (fun _ _ _ trusted room stepped =>
        trusted_transition trusted (fun _ => room) (transition_of_step stepped))
      (trusted_initial true config limits) room ran
  intro limit member
  have settled := trusted.entered rfl limit member
  exact ⟨settled, settled.recordComputeGas_eq_allDims⟩

/-- Limits that allow the caller of a transaction to be written and nothing else. -/
def oneUpdateLimits (kvUpdates : Nat) : EvmTxRuntimeLimits :=
  { roomyLimits with txKvUpdatesLimit := kvUpdates }

/-- A self-destruct to an account that does not exist, which runs out of gas after its beneficiary
was recorded. -/
def failingSelfdestruct : Instruction :=
  .selfdestruct { disabled := none, computeGasLimit := none }
    { isStatic := false, early := none, targetIsEmpty := true, targetIsOther := true,
      hasValue := true, newAccountGas := 25000 }
    none
    { remaining := 0, action := some (.returnResult (emptyResult .outOfGas ⟨40000, 0, 0⟩)) }

/-- A transaction whose only frame fails in a self-destruct. -/
def failingSelfdestructRun : List Event :=
  preparedRun ++
    [.firstFrame plainCall, .enterFrame none, .intercept .passes,
      .beforeInit { inspectAccount := fun _ => none, inspectAccountDelegated := fun _ _ => none },
      .make (.frame 0), .beginRun, .execute failingSelfdestruct, .settle,
      .process (.call (emptyResult .outOfGas ⟨40000, 0, 0⟩)) false]

theorem latch_sound_room :
    ∃ final : Execution,
      Library.run (step rex6Config) (initial rex6Config (oneUpdateLimits 2))
        failingSelfdestructRun = some final ∧
      ∀ limit ∈ final.meter.entered,
        (limit.hasExceededLimit = .withinLimit → limit.WritesWithin) ∧
          ∀ gas, limit.recordComputeGas gas = limit.recordComputeGasAllDims gas :=
  ⟨_, rfl, @latch_sound rex6Config (oneUpdateLimits 2) failingSelfdestructRun _ (by decide) rfl⟩

/-- A self-destruct that fails after it recorded its beneficiary leaves key-value updates over the
limit under a verdict of within, and compute gas is recorded so. -/
theorem latch_lost_by_selfdestruct :
    ∃ final limit,
      Library.run (step rex6Config) (initial rex6Config (oneUpdateLimits 1))
        failingSelfdestructRun = some final ∧
      limit ∈ final.meter.entered ∧ limit.hasExceededLimit = .withinLimit ∧
      limit.kvUpdate.checkLimit = .exceedsLimit .kvUpdate 0 1 true ∧
      (limit.recordComputeGas 0).2 = true ∧ (limit.recordComputeGasAllDims 0).2 = false :=
  ⟨_, _, rfl, List.mem_cons_self, rfl, rfl, rfl, rfl⟩

end Execution

end MegaEvm
