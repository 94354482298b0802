/-
This file proves that key-value updates exceed their limit frame by frame. From Rex4 on
the budgets of the frames are reserved within the limit of the transaction, so while a
frame is active a check of the updates finds either nothing or an exceed of that frame.

From Rex6 on a create charges its creator after the budget of the created frame was
derived. When the transaction has no update left at that point, the charge takes it over
its limit while the frames keep their budgets, and the check finds an exceed of the
transaction with a frame active, which the source asserts never to happen.
-/

import MegaEvm.Evm.Latch
import MegaEvm.Limit.Reserve

namespace MegaEvm

open AdditionalLimit Meter FrameLimitTracker LimitCheck Library

/-! ### Phases -/

/-- What is reserved in a phase in which an exceed of a frame is latched: the budgets of all frames,
or, when the frame is still on the stack, of all frames beneath it. -/
def Phase.Reserves (tracker : FrameLimitTracker CallFrameInfo) : Phase → Prop
  | failed => True
  | making _ | running _ | interpreting _ | stopped _ _ | settled _ _ | returning _ | answered _ =>
    tracker.ReservedBelow
  | _ => tracker.HasReserve

theorem Phase.reserves_of_hasReserve {tracker : FrameLimitTracker CallFrameInfo}
    (reserved : tracker.HasReserve) (phase : Phase) : phase.Reserves tracker := by
  cases phase <;>
    first
    | exact reserved
    | exact reserved.below
    | trivial

namespace Execution

variable {config : EvmConfig} {state next : Execution} {event : Event}

/-- The tracker of key-value updates. -/
def kvTracker (state : Execution) : FrameLimitTracker CallFrameInfo :=
  state.meter.limit.kvUpdate.frameTracker

/-- The event starts the frame of a create. -/
def startsCreate (state : Execution) : Event → Bool
  | .beforeInit _ =>
    match state.phase with
    | .admitting init => init.input.isCreate
    | _ => false
  | _ => false

/-- A create that charges its creator while nothing is exceeded finds an update left in the
transaction. -/
def CreatesWithRoom (config : EvmConfig) (state : Execution) (event : Event) : Prop :=
  state.verdict = .withinLimit → state.startsCreate event = true →
    config.spec.isEnabled .rex6 = true → state.kvTracker.parentUnpaid = true →
      state.kvTracker.netUsage < state.kvTracker.txLimit

instance (config : EvmConfig) (state : Execution) (event : Event) :
    Decidable (CreatesWithRoom config state event) :=
  inferInstanceAs (Decidable (_ → _))

/-- While the verdict is within, the budgets of all frames are reserved. While an exceed of a frame
is latched, those are that remain when it is absorbed. -/
structure Reserves (state : Execution) : Prop where
  within : state.verdict = .withinLimit → state.kvTracker.HasReserve
  frameLocal : state.verdict.isFrameLocal = true → state.phase.Reserves state.kvTracker

theorem reserves_of_hasReserve (reserved : state.kvTracker.HasReserve) : state.Reserves :=
  ⟨fun _ => reserved, fun _ => Phase.reserves_of_hasReserve reserved state.phase⟩

/-- Between frames of different transactions nothing has to be reserved. -/
theorem hasReserve_of_outermost (aligned : state.Aligned)
    (outermost : state.phase.isOutermost = true) (unopened : state.phase.opened = 0) :
    state.kvTracker.HasReserve := by
  have notFailed : state.phase ≠ .failed := by
    intro failed
    rw [failed] at outermost
    exact Bool.false_ne_true outermost
  have height := (aligned.at rfl notFailed).kvUpdate
  rw [aligned.outermost outermost, unopened] at height
  exact hasReserve_of_empty (List.length_eq_zero_iff.mp height)

/-! ### Instructions -/

/-- Instructions charge and refund the top frame only. -/
def reserveInvariant : WrapperInvariant where
  live meter := meter.limit.kvUpdate.frameTracker.HasReserve
  halted meter := meter.limit.kvUpdate.frameTracker.HasReserve
  live_halted reserved := reserved
  live_stipend _ reserved := reserved
  live_storage _ reserved := reserved
  live_record charge reserved _ := by
    rw [Meter.recordComputeGas_limit, AdditionalLimit.recordComputeGas_kvUpdate]
    exact reserved
  halted_record charge reserved := by
    rw [Meter.recordComputeGas_limit, AdditionalLimit.recordComputeGas_kvUpdate]
    exact reserved
  live_detain _ reserved := reserved
  halted_detain _ reserved := reserved
  live_sstore store reserved _ := by
    rw [Meter.update_limit, AdditionalLimit.onSstore, AdditionalLimit.checkLimit_kvUpdate]
    exact reserved.chargeSstore store
  halted_sstore store reserved := by
    rw [Meter.update_limit, AdditionalLimit.onSstore, AdditionalLimit.checkLimit_kvUpdate]
    exact reserved.chargeSstore store
  live_log _ _ reserved _ := by
    rw [Meter.update_limit, AdditionalLimit.onLog, AdditionalLimit.checkLimit_kvUpdate]
    exact reserved
  halted_log _ _ reserved := by
    rw [Meter.update_limit, AdditionalLimit.onLog, AdditionalLimit.checkLimit_kvUpdate]
    exact reserved

theorem reserveInvariant_allows {meter : Meter}
    (reserved : meter.limit.kvUpdate.frameTracker.HasReserve) (spec : MegaSpecId)
    (instruction : Instruction) : reserveInvariant.Allows spec meter instruction := by
  have checked : ∀ {meter : Meter} (charge : ComputeCharge),
      meter.limit.kvUpdate.frameTracker.HasReserve →
        (meter.recordComputeGasAllDims charge).limit.kvUpdate.frameTracker.HasReserve := by
    intro meter charge reserved
    rw [recordComputeGasAllDims_limit, AdditionalLimit.recordComputeGasAllDims, checkLimit_kvUpdate]
    exact reserved
  cases instruction with
  | selfdestruct access inputs refund raw =>
    refine ⟨fun meter => meter.limit.kvUpdate.frameTracker.HasReserve, ?_, ?_⟩
    · exact
        { refund := fun _ reserved => reserved
          live := fun charge reserved _ => checked charge reserved
          halted := checked
          fails := fun _ reserved => reserved }
    · exact
        { unrecorded := reserved
          created := fun _ _ _ _ _ _ => reserved.addFrameDiscardable 1
          credited := fun _ _ _ _ => reserved.addFrameDiscardable 1 }
  | _ => trivial

theorem hasReserve_execute {interpreter : Interpreter}
    (reserved : interpreter.meter.limit.kvUpdate.frameTracker.HasReserve) (spec : MegaSpecId)
    (instruction : Instruction) :
    (instruction.execute spec interpreter).meter.limit.kvUpdate.frameTracker.HasReserve := by
  have ends : reserveInvariant.Ends (instruction.execute spec interpreter) :=
    WrapperInvariant.ends_execute spec reserved (reserveInvariant_allows reserved spec instruction)
  exact ends.elim id fun stopped => stopped.2

/-! ### Hooks of the loop -/

theorem kvUpdate_hooks (tracker : KVUpdateTracker) :
    HookInvariant fun meter => meter.limit.kvUpdate = tracker where
  check same := (checkLimit_kvUpdate _).trans same
  detain _ same := same
  record charge same := (recordComputeGas_kvUpdate _ charge.gas).trans same
  storage _ same := same
  settle isCreate result same :=
    (afterFrameRunInstructions_kvUpdate _ isCreate result).trans same

theorem kvUpdate_rescueKeyless (gas : Gas) (cause : KeylessExceed) (limit : AdditionalLimit) :
    (rescueKeyless config gas cause limit).kvUpdate = limit.kvUpdate := by
  cases cause with
  | overhead =>
    simp only [rescueKeyless]
    split
    · exact limit.tryRescueGas_kvUpdate gas
    · rfl
  | overflow => rfl

/-! ### Steps from a verdict of within -/

/-- What a step that pushes a frame needs to know of the tracker. -/
structure Budgeted (config : EvmConfig) (state : Execution) : Prop where
  rex4 : state.kvTracker.rex4Enabled = true
  rex6 : state.kvTracker.rex6Enabled = config.spec.isEnabled .rex6

/-- On a verdict of within a frame can be pushed wherever the limits are trusted. -/
theorem belowWithin_of_trusted (trusted : state.Trusted false) (budgeted : Budgeted config state)
    (within : state.verdict = .withinLimit) {phase : Phase} (inPhase : state.phase = phase)
    (trusts : phase.trusts false = true) : state.kvTracker.BelowWithin :=
  belowWithin_of_checkAgainst budgeted.rex4
    (trusted.at inPhase trusts within).kvUpdate

/-- The start of a frame keeps the budgets reserved. -/
theorem hasReserve_pushedFrame (trusted : state.Trusted false) (budgeted : Budgeted config state)
    (within : state.verdict = .withinLimit) (reserved : state.kvTracker.HasReserve)
    {journal : JournalInspect} (room : CreatesWithRoom config state (.beforeInit journal))
    {init : FrameInit} (admits : state.phase = .admitting init) :
    (state.meter.limit.kvUpdate.beforeFrameInit init.input).frameTracker.HasReserve := by
  have below := belowWithin_of_trusted trusted budgeted within admits rfl
  refine reserved.chargeFrameInit budgeted.rex4 below fun isCreate rex6 unpaid => ?_
  have starts : state.startsCreate (.beforeInit journal) = true := by
    rw [startsCreate, admits]
    exact isCreate
  exact room within starts (budgeted.rex6.symm.trans rex6) unpaid

theorem outermost_continueKeyless (meter : Meter) (gas : Gas) :
    (state.continueKeyless meter gas).phase.isOutermost = true ∧
      (state.continueKeyless meter gas).phase.opened = 0 := by
  rw [continueKeyless]
  split <;> exact ⟨rfl, rfl⟩

/-- A step from a verdict of within leaves the budgets reserved, whatever it latches. -/
theorem hasReserve_transition (aligned : next.Aligned) (trusted : state.Trusted false)
    (budgeted : Budgeted config state) (within : state.verdict = .withinLimit)
    (reserved : state.kvTracker.HasReserve) (room : CreatesWithRoom config state event)
    (moves : Transition config state event next) : next.kvTracker.HasReserve := by
  have kept : ∀ {meter : Meter}, meter.limit.kvUpdate = state.meter.limit.kvUpdate →
      meter.limit.kvUpdate.frameTracker.HasReserve := by
    intro meter same
    rw [same]
    exact reserved
  have hooks := kvUpdate_hooks state.meter.limit.kvUpdate
  cases moves with
  | refused cap init starts rex4 exceeded =>
    exact kept ((tryRescueGas_kvUpdate _ _).trans (hooks.detainOracle config cap rfl))
  | tooDeep cap | entered cap => exact kept (hooks.detainOracle config cap rfl)
  | hint | runStopped | runGoes => exact kept (checkLimit_kvUpdate _)
  | keyless init starts first => exact kept (hooks.startKeyless config rfl init)
  | keylessReject gas cause halted => exact kept (kvUpdate_rescueKeyless gas cause _)
  | reply outcome replies =>
    exact reserved.pushCallFrameInfo budgeted.rex4
      (belowWithin_of_trusted trusted budgeted within replies rfl) _
  | admitStopped journal init admits growth grown exceeded =>
    have pushed := hasReserve_pushedFrame trusted budgeted within reserved room admits
    rw [kvTracker, go, update_limit, tryRescueGas_kvUpdate, checkLimit_kvUpdate]
    exact pushed
  | admitted journal init admits growth grown admitted =>
    have pushed := hasReserve_pushedFrame trusted budgeted within reserved room admits
    rw [kvTracker, go, update_limit, checkLimit_kvUpdate]
    exact pushed
  | madeFrame created init makes =>
    rw [kvTracker, go, update_limit]
    cases init.input.isCreate with
    | false => exact reserved
    | true => exact reserved.chargeCreated created
  | madeResult => exact kept (tryRescueGas_kvUpdate _ _)
  | madePrecompile =>
    exact kept ((tryRescueGas_kvUpdate _ _).trans (recordComputeGas_kvUpdate _ _))
  | execute instruction frame interprets =>
    exact @hasReserve_execute { meter := state.meter, gas := frame.gas, action := none } reserved
      config.spec instruction
  | settled frame result stops =>
    exact kept (hooks.settleResult config rfl frame.isCreate result)
  | processed processed committed frame result settles =>
    exact kept (afterFrameRun_kvUpdate _ processed _)
  | popped =>
    rw [kvTracker, afterPop, go, update_limit, beforeFrameReturnResult_kvUpdate]
    exact reserved.below.popFrameUnwindParent _
  | finishedAnswer | finished | rewarded | newTx | exemption | authorityCreations | validate =>
    exact hasReserve_of_outermost aligned rfl rfl
  | keylessCaller | keylessMerge =>
    exact hasReserve_of_outermost aligned (outermost_continueKeyless _ _).1
      (outermost_continueKeyless _ _).2
  | _ => exact reserved

/-! ### Steps while an exceed of a frame is latched -/

theorem reserves_answer (state : Execution) (outcome : Outcome)
    {tracker : FrameLimitTracker CallFrameInfo} (reserved : tracker.ReservedBelow) :
    (state.answer outcome).Reserves tracker := by
  rw [answer]
  split <;> exact reserved

/-- A step that leaves an exceed of a frame latched has to keep only what is reserved then. -/
theorem reserves_of_same (frameLocal : state.verdict.isFrameLocal = true)
    (same : next.verdict = state.verdict) (reserved : next.phase.Reserves next.kvTracker) :
    next.Reserves := by
  refine ⟨fun within => ?_, fun _ => reserved⟩
  rw [same.symm.trans within] at frameLocal
  exact nomatch frameLocal

/-- While an exceed of a frame is latched, the frame is unwound and the frames beneath it stay
reserved. -/
theorem reserves_transition_frameLocal (aligned : next.Aligned) (going : state.Going)
    (frameLocal : state.verdict.isFrameLocal = true)
    (reserved : state.phase.Reserves state.kvTracker) (keeps : KeepsVerdict config event)
    (moves : Transition config state event next) : next.Reserves := by
  have exceeded := exceeded_of_isFrameLocal frameLocal
  have latched := notWithin_of_exceeded exceeded
  have same : event.absorbs = false → next.verdict = state.verdict := fun unabsorbed =>
    verdict_transition latched (fun absorbs => nomatch unabsorbed.symm.trans absorbs) keeps moves
  have hooks := kvUpdate_hooks state.meter.limit.kvUpdate
  -- The frame is not on the stack yet, or not any more.
  have free : ∀ {phase : Phase} {tracker : KVUpdateTracker}, state.phase = phase →
      (phase.Reserves state.kvTracker → state.kvTracker.HasReserve) →
      tracker = state.meter.limit.kvUpdate → tracker.frameTracker.HasReserve := by
    intro phase tracker inPhase unwinds sameTracker
    rw [sameTracker]
    exact unwinds (inPhase ▸ reserved)
  -- The frame is on the stack.
  have below : ∀ {phase : Phase} {tracker : KVUpdateTracker}, state.phase = phase →
      (phase.Reserves state.kvTracker → state.kvTracker.ReservedBelow) →
      tracker = state.meter.limit.kvUpdate → tracker.frameTracker.ReservedBelow := by
    intro phase tracker inPhase unwinds sameTracker
    rw [sameTracker]
    exact unwinds (inPhase ▸ reserved)
  cases moves with
  | firstFrame input executes => exact reserves_of_hasReserve (free executes id rfl)
  | refused cap init starts rex4 exceeded =>
    exact reserves_of_hasReserve (free starts id ((tryRescueGas_kvUpdate _ _).trans
      (hooks.detainOracle config cap rfl)))
  | tooDeep cap _ starts | entered cap _ starts =>
    exact reserves_of_hasReserve (free starts id (hooks.detainOracle config cap rfl))
  | passes _ _ starts | answers _ _ starts => exact reserves_of_hasReserve (free starts id rfl)
  | hint length init starts rex5 =>
    exact reserves_of_hasReserve (free starts id (checkLimit_kvUpdate _))
  | keyless init starts first =>
    exact reserves_of_hasReserve (free starts id (hooks.startKeyless config rfl init))
  | keylessCallerUnpaid storageGas gas deploys unpaid =>
    exact reserves_of_hasReserve (free deploys id rfl)
  | keylessAnswer result output gas deploys => exact reserves_of_hasReserve (free deploys id rfl)
  | keylessReject gas cause halted =>
    exact reserves_of_hasReserve (free halted id (kvUpdate_rescueKeyless gas cause _))
  | reply outcome replies =>
    have unpushed := free replies id rfl
    exact reserves_of_same frameLocal (same rfl)
      (reserves_answer state outcome (unpushed.below_pushCallFrameInfo _))
  | admitFailed | fail => exact reserves_of_same frameLocal (same rfl) trivial
  | admitStopped journal init admits growth grown exceeded =>
    have pushed := (free admits id rfl).below_chargeFrameInit init.input
    refine reserves_of_same frameLocal (same rfl) (reserves_answer state _ ?_)
    rw [kvTracker, go, update_limit, tryRescueGas_kvUpdate, checkLimit_kvUpdate]
    exact pushed
  | admitted journal init admits growth grown within =>
    have verdictKept := checkLimit_pushedFrame_verdict latched init growth
    have stillExceeded :
        (state.meter.limit.pushedFrame init growth).checkLimit.limitExceeded = true :=
      (congrArg exceededLimit verdictKept).trans exceeded
    exact nomatch within.symm.trans stillExceeded
  | madeFrame created init makes =>
    have unwound := below makes id rfl
    refine reserves_of_same frameLocal (same rfl) ?_
    rw [kvTracker, go, update_limit]
    cases init.input.isCreate with
    | false => exact unwound
    | true => exact unwound.chargeCreated created
  | madeResult result committed init makes =>
    exact reserves_of_same frameLocal (same rfl)
      (reserves_answer state _ (below makes id (tryRescueGas_kvUpdate _ _)))
  | madePrecompile isKzg run committed init makes =>
    exact reserves_of_same frameLocal (same rfl)
      (reserves_answer state _ (below makes id ((tryRescueGas_kvUpdate _ _).trans
        (recordComputeGas_kvUpdate _ _))))
  | runStopped frame runs exceeded =>
    exact reserves_of_same frameLocal (same rfl) (below runs id (checkLimit_kvUpdate _))
  | runGoes frame runs within =>
    have stillExceeded : state.meter.limit.checkLimit.limitExceeded = true :=
      (congrArg exceededLimit (checkLimit_verdict latched)).trans exceeded
    exact nomatch within.symm.trans stillExceeded
  | execute instruction frame interprets =>
    exact nomatch (going (interprets ▸ rfl)).symm.trans exceeded
  | startChild frame input stops =>
    exact nomatch (going (stops ▸ rfl)).symm.trans exceeded
  | settled frame result stops =>
    exact reserves_of_same frameLocal (same rfl)
      (below stops id (hooks.settleResult config rfl frame.isCreate result))
  | processed processed committed frame result settles =>
    exact reserves_of_same frameLocal (same rfl)
      (below settles id (afterFrameRun_kvUpdate _ processed _))
  | popped outcome returns =>
    refine reserves_of_hasReserve ?_
    rw [kvTracker, afterPop, go, update_limit, beforeFrameReturnResult_kvUpdate]
    exact (below returns id rfl).popFrameUnwindParent _
  | delivered _ _ _ _ delivers | deliveredLast _ _ delivers =>
    exact reserves_of_hasReserve (free delivers id rfl)
  | keylessCaller | keylessMerge =>
    exact reserves_of_hasReserve (hasReserve_of_outermost aligned
      (outermost_continueKeyless _ _).1 (outermost_continueKeyless _ _).2)
  | _ => exact reserves_of_hasReserve (hasReserve_of_outermost aligned rfl rfl)

/-! ### Runs -/

/-- A step that overwrites the verdict lies before the first frame. -/
theorem reserves_of_not_keeps (aligned : next.Aligned) (overwrites : ¬ KeepsVerdict config event)
    (moves : Transition config state event next) : next.Reserves := by
  cases moves with
  | newTx => exact reserves_of_hasReserve (hasReserve_of_outermost aligned rfl rfl)
  | exemption =>
    exact reserves_of_hasReserve (hasReserve_of_outermost aligned rfl rfl)
  | _ => exact absurd trivial overwrites

theorem reserves_transition (aligned : next.Aligned) (trusted : state.Trusted false)
    (going : state.Going) (budgeted : Budgeted config state) (reserves : state.Reserves)
    (room : CreatesWithRoom config state event) (moves : Transition config state event next) :
    next.Reserves := by
  by_cases keeps : KeepsVerdict config event
  · obtain final | within | frameLocal := state.verdict.isFinal_or
    · have same := verdict_transition final.notWithin (fun _ => final) keeps moves
      refine ⟨fun within => ?_, fun frameLocal => ?_⟩
      · have notWithin := final.notWithin
        rw [same.symm.trans within] at notWithin
        exact nomatch notWithin
      · rw [same, final.notFrameLocal] at frameLocal
        exact nomatch frameLocal
    · exact reserves_of_hasReserve
        (hasReserve_transition aligned trusted budgeted within (reserves.within within) room moves)
    · exact reserves_transition_frameLocal aligned going frameLocal (reserves.frameLocal frameLocal)
        keeps moves
  · exact reserves_of_not_keeps aligned keeps moves

variable {limits : EvmTxRuntimeLimits} {events : List Event}

theorem budgeted_of_run (rex4 : config.spec.isEnabled .rex4 = true)
    (ran : Reaches config limits events state) : Budgeted config state := by
  have setup := congrArg (fun setup => setup.kvUpdate) (setup_of_run ran)
  exact ⟨(congrArg TrackerSetup.rex4Enabled setup).trans rex4,
    congrArg TrackerSetup.rex6Enabled setup⟩

theorem reserves_of_run (rex4 : config.spec.isEnabled .rex4 = true)
    (room : StepsMeet (step config) (CreatesWithRoom config) (initial config limits) events)
    (ran : Reaches config limits events state) : state.Reserves := by
  refine reached_invariant_of_meets ?_ ?_ room ran
  · intro state event next reached reserves room stepped
    obtain ⟨_, ranNext⟩ := reached.snoc stepped
    obtain ⟨_, ran⟩ := reached
    exact reserves_transition (aligned_of_run ranNext) (trusted_of_run ran) (going_of_run ran)
      (budgeted_of_run rex4 ran) reserves room (transition_of_step stepped)
  · exact reserves_of_hasReserve (hasReserve_of_empty rfl)

/-- A check of the key-value updates finds no exceed of the whole transaction while a frame is
active. -/
def ChecksFrameLocal (state : Execution) : Prop :=
  state.kvTracker.frameStack ≠ [] → ¬ state.meter.limit.kvUpdate.checkLimit.IsTxExceed

/-- In every run whose creates find an update left when they charge their creator, the updates are
never checked to exceed the limit of the transaction while a frame is active. The limits are checked
on a verdict of within only, and a step checks the updates it starts from or those it ends with. -/
theorem kvOverrun_frameLocal {limits : EvmTxRuntimeLimits} {history : List Event}
    {before after : Execution} (rex4 : config.spec.isEnabled .rex4 = true)
    (room : Library.StepsMeet (step config) (CreatesWithRoom config)
      (initial config limits) history)
    (reached : Library.run (step config) (initial config limits) history = some before)
    (within : before.verdict = .withinLimit) (charges : CreatesWithRoom config before event)
    (stepped : step config before event = some after) :
    before.ChecksFrameLocal ∧ after.ChecksFrameLocal := by
  have budgeted := budgeted_of_run rex4 reached
  have reserved := (reserves_of_run rex4 room reached).within within
  have reachedAfter := Library.Reached.snoc ⟨history, reached⟩ stepped
  obtain ⟨_, ranAfter⟩ := reachedAfter
  have reservedAfter := hasReserve_transition (aligned_of_run ranAfter) (trusted_of_run reached)
    budgeted within reserved charges (transition_of_step stepped)
  exact ⟨fun active => reserved.not_isTxExceed budgeted.rex4 active .kvUpdate,
    fun active => reservedAfter.not_isTxExceed (budgeted_of_run rex4 ranAfter).rex4
      active .kvUpdate⟩

/-- A create with an empty initcode. -/
def plainCreate : Instruction :=
  .create { early := none, resizeGas := 0, late := none, storageGas := 0 }
    { remaining := 1000,
      action := some
        (.newFrame (.create { caller := 2, value := 0, createdAddress := fun _ => 3,
                              gasLimit := 7000 })) }

/-- A transaction whose first frame starts a create, up to the start of the created frame. -/
def creatingRun : List Event :=
  startedRun ++ [.execute plainCreate, .settle, .enterFrame none, .intercept .passes]

/-- With an update left for its creator, the create of a transaction stays within the limit. -/
theorem kvOverrun_frameLocal_room :
    ∃ before after : Execution,
      Library.run (step rex6Config) (initial rex6Config (oneUpdateLimits 2)) creatingRun =
        some before ∧
      step rex6Config before (.beforeInit emptyJournal) = some after ∧
      after.kvTracker.frameStack.length = 2 ∧ before.ChecksFrameLocal ∧ after.ChecksFrameLocal :=
  ⟨_, _, rfl, rfl, rfl,
    @kvOverrun_frameLocal rex6Config (.beforeInit emptyJournal) (oneUpdateLimits 2)
      creatingRun _ _ rfl (by decide) rfl rfl (by decide) rfl⟩

/-- A create that charges its creator when no update is left takes the whole transaction over its
limit, with two frames active. -/
theorem kvOverrun_of_create :
    ∃ before after : Execution,
      Library.run (step rex6Config) (initial rex6Config (oneUpdateLimits 1)) creatingRun =
        some before ∧
      before.verdict = .withinLimit ∧
      step rex6Config before (.beforeInit emptyJournal) = some after ∧
      after.kvTracker.frameStack.length = 2 ∧
      after.meter.limit.kvUpdate.checkLimit = .exceedsLimit .kvUpdate 1 2 false ∧
      after.verdict = .exceedsLimit .kvUpdate 1 2 false :=
  ⟨_, _, rfl, rfl, rfl, rfl, rfl, rfl⟩

end Execution

end MegaEvm
