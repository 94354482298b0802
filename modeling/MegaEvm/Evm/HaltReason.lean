/-
This file is about the reason that is reported for a transaction that halts. The latched
verdict is not kept with the result: the reason is found by checking the limits once more
after everything is done, and by asking whether the transaction is over its detained
limit. From Rex6 on the writes of the fee recipients are recorded in between without a
check, and compute gas is recorded on limits that have latched another dimension, so the
reason can be another one than was latched, or one where nothing was latched. This file
says exactly when it is the latched one.
-/

import MegaEvm.Evm.BeforeFrames
import MegaEvm.Evm.Detained
import MegaEvm.Outcome

namespace MegaEvm

open AdditionalLimit Library FrameLimitTracker LimitCheck

/-! ### Reasons -/

/-- Why a result that is neither a success nor a revert halted. -/
def haltReason (limit : AdditionalLimit) (accesses : Nat) (result : InstructionResult) :
    MegaHaltReason :=
  if result = .outOfGas ∧ limit.checkLimit.limitExceeded then
    if accesses ≠ 0 ∧ limit.computeGas.isDetainedExceed then
      .volatileDataAccessOutOfGas limit.computeGas.detainedLimit limit.computeGas.txUsage
    else
      match limit.checkLimit.hasExceededLimit with
      | .exceedsLimit kind bound used _ => .limitExceeded kind bound used
      | _ => .outOfGas
  else if result = .outOfGas then .outOfGas
  else .other 0

/-- The dimension a reason is about: being detained is about compute gas. -/
def MegaHaltReason.limitKind? : MegaHaltReason → Option LimitKind
  | limitExceeded kind _ _ => some kind
  | volatileDataAccessOutOfGas _ _ => some .computeGas
  | _ => none

namespace AdditionalLimit

variable {limit : AdditionalLimit}

/-- Without a frame, a transaction that is within every limit has clear limits. -/
theorem clear_of_within (empty : limit.AtHeight 0) (verdict : limit.hasExceededLimit = .withinLimit)
    (within : limit.getUsage.Within limit.inForce) : limit.Clear := by
  have noTop : ∀ {Info : Type} {tracker : FrameLimitTracker Info}, tracker.height = 0 →
      tracker.TopWithin := by
    intro Info tracker height entry member
    rw [List.length_eq_zero_iff.mp height] at member
    cases member
  refine clear_iff.mpr (Or.inr ⟨verdict, limit.firstExceed_eq_withinLimit_iff.mpr ⟨?_, ?_, ?_, ?_⟩⟩)
  · exact (checkAgainst_eq_false_iff _ _ _).mpr ⟨fun _ => noTop empty.dataSize, within.dataSize⟩
  · exact (checkAgainst_eq_false_iff _ _ _).mpr ⟨fun _ => noTop empty.kvUpdate, within.kvUpdates⟩
  · exact (ComputeGasTracker.checkLimit_eq_false_iff _).mpr
      ⟨fun _ => noTop empty.computeGas, within.computeGas⟩
  · exact (StateGrowthTracker.checkLimit_eq_false_iff _).mpr
      ⟨fun _ => noTop empty.stateGrowth, within.stateGrowth⟩

/-- Without a frame there is nothing to pop. -/
theorem Clear.poppedFrame_empty (clear : limit.Clear) (empty : limit.AtHeight 0)
    (result : FrameResult) : (limit.poppedFrame result).Clear := by
  have nothing : ∀ {Info : Type} {tracker : FrameLimitTracker Info} (success : Bool),
      tracker.height = 0 → tracker.popFrame success = (tracker, none) := by
    intro Info tracker success height
    obtain ⟨txEntry, _ | ⟨entry, below⟩, _⟩ := tracker
    · rfl
    · cases height
  have dataSize : (limit.poppedFrame result).dataSize = limit.dataSize := by
    show DataSizeTracker.beforeFrameReturnResult _ _ = _
    unfold DataSizeTracker.beforeFrameReturnResult popFrameUnwindParent
    rw [nothing _ empty.dataSize]
  have kvUpdate : (limit.poppedFrame result).kvUpdate = limit.kvUpdate := by
    show KVUpdateTracker.beforeFrameReturnResult _ _ = _
    unfold KVUpdateTracker.beforeFrameReturnResult popFrameUnwindParent
    rw [nothing _ empty.kvUpdate]
  have computeGas : (limit.poppedFrame result).computeGas = limit.computeGas := by
    show ComputeGasTracker.beforeFrameReturnResult _ _ = _
    unfold ComputeGasTracker.beforeFrameReturnResult
    rw [nothing _ empty.computeGas]
  have stateGrowth : (limit.poppedFrame result).stateGrowth = limit.stateGrowth := by
    show StateGrowthTracker.beforeFrameReturnResult _ _ = _
    unfold StateGrowthTracker.beforeFrameReturnResult
    rw [nothing _ empty.stateGrowth]
  refine clear.of_checks rfl ?_ ?_ ?_ ?_
  · rw [dataSize]
    exact id
  · rw [kvUpdate]
    exact id
  · rw [computeGas]
    exact id
  · rw [stateGrowth]
    exact id

/-- A frame that returned for the first time leaves no exceed of its own latched, and if it neither
succeeded nor reverted, nothing that is not latched. -/
theorem reports_beforeFrameReturnResult {lastFrame : Bool} (pops : limit.PopsFrame lastFrame)
    (result : FrameResult) :
    (limit.beforeFrameReturnResult lastFrame result).1.hasExceededLimit.isFrameLocal = false ∧
      ((limit.beforeFrameReturnResult lastFrame result).2.instructionResult.isOkOrRevert = false →
        (limit.beforeFrameReturnResult lastFrame result).1.limitExceeded = false →
        (limit.beforeFrameReturnResult lastFrame result).1.Clear) := by
  rw [beforeFrameReturnResult_of_pops pops]
  dsimp only
  split
  · next exceeded =>
    split
    · refine ⟨rfl, fun halts => ?_⟩
      rw [FrameResult.instructionResult_mark] at halts
      exact nomatch halts
    · next notLocal =>
      exact ⟨Bool.eq_false_iff.mpr notLocal,
        fun _ within => nomatch within.symm.trans exceeded⟩
  · next within =>
    have notExceeded := Bool.eq_false_iff.mpr within
    exact ⟨notFrameLocal_of_within notExceeded, fun _ _ => clear_checkLimit notExceeded⟩

end AdditionalLimit

/-! ### Results that are returned -/

/-- What the limits report when the result of a frame was returned: no exceed of a frame is left,
and if the result halts, nothing that is not latched. -/
def Phase.Reports (limit : AdditionalLimit) : Phase → Prop
  | delivering delivery =>
    limit.hasExceededLimit.isFrameLocal = false ∧
      (delivery.result.instructionResult.isOkOrRevert = false → limit.limitExceeded = false →
        limit.Clear)
  | returned outcome =>
    limit.hasExceededLimit.isFrameLocal = false ∧
      (outcome.result.instructionResult.isOkOrRevert = false → limit.limitExceeded = false →
        limit.Clear)
  | ended _ => limit.hasExceededLimit.isFrameLocal = false
  | _ => True

namespace Execution

variable {config : EvmConfig} {limits : EvmTxRuntimeLimits} {state next final : Execution}
  {event : Event}

def Reports (state : Execution) : Prop :=
  state.phase.Reports state.meter.limit

theorem Reports.at {phase : Phase} (reports : state.Reports) (inPhase : state.phase = phase) :
    phase.Reports state.meter.limit :=
  inPhase ▸ reports

theorem reports_answer (state : Execution) (limit : AdditionalLimit) (outcome : Outcome) :
    (state.answer outcome).Reports limit := by
  rw [answer]
  split <;> trivial

theorem reports_startKeyless (config : EvmConfig) (state : Execution) (init : FrameInit) :
    (startKeyless config state init).Reports := by
  obtain ⟨next, equation, started⟩ := keylessStart config state init
  rw [equation]
  cases started <;> trivial

theorem reports_continueKeyless (state : Execution) (meter : Meter) (gas : Gas) :
    (state.continueKeyless meter gas).Reports := by
  rw [continueKeyless]
  split <;> trivial

theorem reports_transition (aligned : state.Aligned) (before : state.BeforeFrames)
    (reports : state.Reports) (moves : Transition config state event next) : next.Reports := by
  cases moves with
  | outOfInitialGas isCreate executes old =>
    have beforeFrames := before (by rw [executes]; trivial)
    exact beforeFrames.notLocal
  | keyless init starts first => exact reports_startKeyless config state init
  | keylessCaller => exact reports_continueKeyless _ _ _
  | keylessMerge =>
    exact reports_continueKeyless _ _ _
  | reply | admitStopped | madeResult | madePrecompile => exact reports_answer _ _ _
  | execute =>
    show Phase.Reports _ (afterInstruction _ _ _).phase
    simp only [afterInstruction]
    split <;> trivial
  | popped outcome returns =>
    exact reports_beforeFrameReturnResult
      (fun impossible => absurd impossible Bool.false_ne_true) outcome.result
  | deliveredLast parentGas delivery delivers suspended =>
    have delivered := reports.at delivers
    exact delivered
  | finishedAnswer gas outcome answers =>
    have active := (aligned.at answers (by rintro ⟨⟩)).hasActiveFrame
    exact (reports_beforeFrameReturnResult (fun _ => active) outcome.result).1
  | finished gas outcome returns =>
    have height := aligned.at returns (by rintro ⟨⟩)
    rw [aligned.outermost (returns ▸ rfl)] at height
    show (state.meter.limit.beforeFrameReturnResult true
      outcome.result).1.hasExceededLimit.isFrameLocal = false
    rw [beforeFrameReturnResult_of_not_pops (aligned.inactive returns)]
    exact ((moves_poppedFrame _ outcome.result).atHeight height
      ).isFrameLocal_checkLimit (reports.at returns).1
  | rewarded credited outcome ends rex6 =>
    have notLocal : state.meter.limit.hasExceededLimit.isFrameLocal = false := reports.at ends
    show (credited.foldl recordReward state.meter.limit).hasExceededLimit.isFrameLocal = false
    rw [recordRewards_verdict]
    exact notLocal
  | _ => trivial

theorem reports_of_run (rex4 : config.spec.isEnabled .rex4 = true)
    (bounded : limits.txComputeGasLimit ≤ u64Max) {events : List Event}
    (ran : Reaches config limits events state) : state.Reports := by
  have starts : (initial config limits).Reports := trivial
  refine reached_invariant ?_ starts ran
  rintro current event after ⟨history, reached⟩ reports stepped
  exact reports_transition (aligned_of_run reached)
    (beforeFrames_of_run rex4 bounded reached) reports (transition_of_step stepped)

/-! ### Exceeds that were latched -/

/-- The event starts no transaction. -/
def Event.continues : Event → Bool
  | .newTx _ | .exemption _ _ => false
  | _ => true

theorem keepsVerdict_of_continues (continues : event.continues = true) :
    KeepsVerdict config event := by
  cases event with
  | newTx | exemption => exact nomatch continues
  | _ => trivial

/-- From a returned result the only step is the one that ends the transaction. -/
theorem step_of_returned {outcome : Outcome} (returned : state.phase = .returned outcome)
    (stepped : step config state event = some next) :
    (∃ gas, next = state.finish outcome gas) ∨ next.phase = .failed := by
  cases event with
  | lastFrameResult gas =>
    simp only [step, lastFrameResult, returned, Option.some.injEq] at stepped
    exact Or.inl ⟨gas, stepped.symm⟩
  | fail =>
    cases stepped
    exact Or.inr rfl
  | _ =>
    simp only [step, newTx, exemption, validate, systemCall, preExecution, outOfInitialGas,
      firstFrame, enterFrame, intercept, keylessCaller, keylessMerge, keylessAnswer, keylessReject,
      reply, beforeInit, make, beginRun, execute, settle, process, popResult, deliver, reward,
      returned, reduceCtorEq] at stepped

/-- Once a transaction has ended, nothing changes its result. -/
theorem step_of_ended {outcome : Outcome}
    (ended : state.phase = .ended outcome ∨ state.phase = .failed)
    (continues : event.continues = true) (stepped : step config state event = some next) :
    next.phase = .ended outcome ∨ next.phase = .failed := by
  cases event with
  | reward credited =>
    obtain ended | failed := ended
    · simp only [step, reward, ended] at stepped
      split at stepped
      · cases stepped
        exact Or.inl rfl
      · cases stepped
    · simp only [step, reward, failed, reduceCtorEq] at stepped
  | fail =>
    cases stepped
    exact Or.inr rfl
  | newTx tx => cases continues
  | _ =>
    obtain ended | ended := ended <;>
      simp only [step, exemption, validate, systemCall, preExecution, outOfInitialGas, firstFrame,
        enterFrame, intercept, keylessCaller, keylessMerge, keylessAnswer, keylessReject, reply,
        beforeInit, make, beginRun, execute, settle, process, popResult, deliver, lastFrameResult,
        ended, reduceCtorEq] at stepped

/-- An exceed of the transaction is terminal, except for one that only the second pop of the last
frame finds, which leaves a result that succeeded or reverted. -/
def LatchesEarly (state : Execution) : Prop :=
  state.verdict.IsTxExceed → state.phase.Doomed ∨
    ∃ outcome, state.phase = .ended outcome ∧
      outcome.result.instructionResult.isOkOrRevert = true

/-- A result that halts is ended on limits that have latched what there is. -/
theorem latchesEarly_finish (aligned : state.Aligned) (reports : state.Reports) {outcome : Outcome}
    (returned : state.phase = .returned outcome) (notLatched : ¬ state.verdict.IsTxExceed)
    (gas : Gas) : (state.finish outcome gas).LatchesEarly := by
  intro exceeds
  have same : (state.finish outcome gas).phase = .ended
      { result := (state.meter.limit.beforeFrameReturnResult true outcome.result).2.setGas
          (gas.eraseCost (state.meter.limit.beforeFrameReturnResult true
            outcome.result).1.rescuedGas)
        committed := outcome.committed } := rfl
  have popped := beforeFrameReturnResult_of_not_pops (aligned.inactive returned)
    outcome.result
  cases halts : outcome.result.instructionResult.isOkOrRevert with
  | true =>
    refine Or.inr ⟨_, same, ?_⟩
    rw [FrameResult.instructionResult_setGas, popped]
    exact (congrArg InstructionResult.isOkOrRevert (instructionResult_burnedResult _ _)).trans halts
  | false =>
    have height := aligned.at returned nofun
    rw [aligned.outermost (returned ▸ rfl)] at height
    obtain ⟨notLocal, reportsHalt⟩ := reports.at returned
    have within : state.meter.limit.limitExceeded = false := by
      cases exceeded : state.meter.limit.limitExceeded with
      | false => rfl
      | true => exact absurd (isTxExceed_of exceeded notLocal) notLatched
    have clear := (reportsHalt halts within).poppedFrame_empty height outcome.result
    have exceededAfter := exceeds.exceeded
    change (state.meter.limit.beforeFrameReturnResult true
      outcome.result).1.hasExceededLimit.exceededLimit = true at exceededAfter
    rw [popped] at exceededAfter
    exact nomatch (show _ = false from clear).symm.trans exceededAfter

theorem latchesEarly_of_run (rex4 : config.spec.isEnabled .rex4 = true)
    (bounded : limits.txComputeGasLimit ≤ u64Max) {events : List Event}
    (ran : Reaches config limits events state) : state.LatchesEarly := by
  have starts : (initial config limits).LatchesEarly := fun _ => Or.inl trivial
  refine reached_invariant ?_ starts ran
  rintro current event after ⟨history, reached⟩ early stepped exceeds
  have aligned := aligned_of_run reached
  have going := going_of_run reached
  have moves := transition_of_step stepped
  by_cases latched : current.verdict.IsTxExceed
  · obtain doomed | ⟨outcome, ended, returns⟩ := early latched
    · exact Or.inl (doomed_transition aligned going (Or.inl ⟨latched, doomed⟩) moves exceeds).1
    · cases continues : event.continues with
      | true =>
        obtain kept | failed := step_of_ended (Or.inl ended) continues stepped
        · exact Or.inr ⟨outcome, kept, returns⟩
        · exact Or.inl (by rw [failed]; trivial)
      | false =>
        cases moves with
        | newTx | exemption => exact Or.inl trivial
        | _ => exact nomatch continues
  · by_cases returned : ∃ outcome, current.phase = .returned outcome
    · obtain ⟨outcome, returned⟩ := returned
      obtain ⟨gas, rfl⟩ | failed := step_of_returned returned stepped
      · exact latchesEarly_finish aligned (reports_of_run rex4 bounded reached) returned latched gas
          exceeds
      · exact Or.inl (by rw [failed]; trivial)
    · have notReturned : ∀ outcome, current.phase ≠ .returned outcome :=
        fun outcome inPhase => returned ⟨outcome, inPhase⟩
      exact Or.inl (doomed_transition aligned going (Or.inr ⟨latched, notReturned⟩) moves exceeds).1

/-- In some state of the run an exceed of the transaction is latched. -/
def LatchedDuring (config : EvmConfig) (start : Execution) (events : List Event) (kind : LimitKind)
    (bound used : Nat) : Prop :=
  ∃ before after middle, events = before ++ after ∧
    Library.run (step config) start before = some middle ∧
    middle.verdict = .exceedsLimit kind bound used false

/-- In a transaction that halts, what was latched at any time is latched at the end. -/
theorem latchedDuring_iff (rex4 : config.spec.isEnabled .rex4 = true)
    (bounded : limits.txComputeGasLimit ≤ u64Max) {history rest : List Event} {start : Execution}
    (reached : Reaches config limits history start)
    (continues : ∀ event ∈ rest, event.continues = true)
    (ran : run (step config) start rest = some final) {outcome : Outcome}
    (ended : final.phase = .ended outcome)
    (halts : outcome.result.instructionResult.isOkOrRevert = false) (kind : LimitKind)
    (bound used : Nat) :
    LatchedDuring config start rest kind bound used ↔
      final.verdict = .exceedsLimit kind bound used false := by
  constructor
  · rintro ⟨before, after, middle, rfl, toMiddle, latched⟩
    have reachedMiddle : run (step config) (initial config limits) (history ++ before) =
        some middle := by
      rw [run_append, reached]
      exact toMiddle
    have fromMiddle : run (step config) middle after = some final := by
      rw [run_append, toMiddle] at ran
      exact ran
    have exceeds : middle.verdict.IsTxExceed := ⟨kind, bound, used, latched⟩
    obtain doomed | ⟨early, endedEarly, returns⟩ :=
      latchesEarly_of_run rex4 bounded reachedMiddle exceeds
    · have kept := (terminal_run ⟨exceeds, doomed⟩ reachedMiddle
        (fun event member => keepsVerdict_of_continues
          (continues event (List.mem_append_right before member))) fromMiddle).2.1
      exact kept.trans latched
    · -- A transaction that ended with a success or a revert does not halt any more.
      have meets : StepsMeet (step config) (fun _ event => event.continues = true) middle
          after :=
        stepsMeet_of_forall_mem
          (fun event member => continues event (List.mem_append_right before member)) middle
      have stays : final.phase = .ended early ∨ final.phase = .failed :=
        @run_invariant_of_meets _ _ (step config) (fun _ event => event.continues = true)
          (fun state => state.phase = .ended early ∨ state.phase = .failed)
          (fun _ _ _ holds allowed stepped => step_of_ended holds allowed stepped) _ _ _
          (Or.inl endedEarly) meets fromMiddle
      rw [ended] at stays
      obtain same | failed := stays
      · cases same
        exact nomatch halts.symm.trans returns
      · cases failed
  · exact fun latched => ⟨rest, [], final, (List.append_nil rest).symm, ran, latched⟩

/-! ### Faithful reasons -/

/-- A reason is of a limit exactly if an exceed of the transaction was latched, and of the dimension
that was; it names detention only if the latched limit is a detained one; and an out of gas of a
transaction that latched nothing is reported as such. -/
structure Faithful (config : EvmConfig) (limits : EvmTxRuntimeLimits) (start : Execution)
    (events : List Event) (result : InstructionResult) (reason : MegaHaltReason) : Prop where
  dimension : ∀ kind, reason.limitKind? = some kind ↔
    ∃ bound used, LatchedDuring config start events kind bound used
  detention : ∀ bound actual, reason = .volatileDataAccessOutOfGas bound actual →
    bound < limits.txComputeGasLimit ∧
      ∃ used, LatchedDuring config start events .computeGas bound used
  plain : (∀ kind bound used, ¬ LatchedDuring config start events kind bound used) →
    result = .outOfGas → reason = .outOfGas

/-- When the reason is looked for, a transaction that latched nothing and ran out of gas is within
its limits with everything that was recorded, and one that accessed volatile data and is over its
detained limit has latched compute gas, if it has latched an exceed. -/
def ReportsLatched (final : Execution) (result : InstructionResult) (accesses : Nat) : Prop :=
  (final.verdict = .withinLimit → result = .outOfGas →
    final.meter.limit.getUsage.Within final.meter.limit.inForce) ∧
  (accesses ≠ 0 → final.meter.limit.computeGas.isDetainedExceed = true →
    ∀ kind bound used, final.verdict = .exceedsLimit kind bound used false → kind = .computeGas)

section Reasons

variable {limit : AdditionalLimit} {accesses : Nat}

/-- The reason of limits that have nothing to report. -/
theorem haltReason_of_clear (clear : limit.Clear) (result : InstructionResult) :
    haltReason limit accesses result = if result = .outOfGas then .outOfGas else .other 0 := by
  have within : limit.checkLimit.limitExceeded = false := clear
  unfold haltReason
  rw [within, if_neg fun both => nomatch both.2]

/-- The reason of an exceed that is latched. -/
theorem haltReason_of_exceeds {kind : LimitKind} {bound used : Nat} {frameLocal : Bool}
    (verdict : limit.hasExceededLimit = .exceedsLimit kind bound used frameLocal) :
    haltReason limit accesses .outOfGas =
      if accesses ≠ 0 ∧ limit.computeGas.isDetainedExceed then
        .volatileDataAccessOutOfGas limit.computeGas.detainedLimit limit.computeGas.txUsage
      else .limitExceeded kind bound used := by
  have latched : limit.hasExceededLimit.isWithinLimit = false :=
    congrArg isWithinLimit verdict
  have exceeded : limit.limitExceeded = true := congrArg exceededLimit verdict
  unfold haltReason
  rw [checkLimit_of_latched latched, if_pos ⟨rfl, exceeded⟩, verdict]

/-- Limits that latched nothing and are not clear make an out of gas one of a limit. -/
theorem limitKind?_of_not_clear (notClear : ¬ limit.Clear) :
    (haltReason limit accesses .outOfGas).limitKind? ≠ none := by
  have exceeded : limit.checkLimit.limitExceeded = true := Bool.of_not_eq_false notClear
  unfold haltReason
  rw [if_pos ⟨rfl, exceeded⟩]
  split
  · exact nofun
  · split
    · exact nofun
    · next notExceeds =>
      -- The check that found an exceed is the one whose verdict is read.
      have found : limit.checkLimit.hasExceededLimit.exceededLimit = true := exceeded
      revert found
      cases verdict : limit.checkLimit.hasExceededLimit with
      | exceedsLimit kind bound used frameLocal =>
        exact absurd verdict (notExceeds kind bound used frameLocal)
      | _ => exact fun found => nomatch found

end Reasons

section Halting

variable {start : Execution} {events : List Event} {accesses : Nat}

/-- The reason of clear limits is faithful if nothing was latched. -/
theorem faithful_of_clear (clear : final.meter.limit.Clear)
    (nothing : ∀ kind bound used, ¬ LatchedDuring config start events kind bound used)
    (result : InstructionResult) :
    Faithful config limits start events result (haltReason final.meter.limit accesses result) := by
  rw [haltReason_of_clear clear]
  by_cases plain : result = .outOfGas
  · rw [if_pos plain]
    exact ⟨fun kind => ⟨nofun, fun ⟨bound, used, latched⟩ =>
      absurd latched (nothing kind bound used)⟩, nofun, fun _ _ => rfl⟩
  · rw [if_neg plain]
    exact ⟨fun kind => ⟨nofun, fun ⟨bound, used, latched⟩ =>
      absurd latched (nothing kind bound used)⟩, nofun, fun _ same => absurd same plain⟩

/-- The reason of an exceed is faithful exactly if detention is not named for another dimension. -/
theorem faithful_of_exceeds {kind : LimitKind} {bound used : Nat}
    (names : final.meter.limit.NamesLimit (AdditionalLimit.new config.spec limits).setup)
    (verdict : final.verdict = .exceedsLimit kind bound used false)
    (latchedIff : ∀ kind bound used, LatchedDuring config start events kind bound used ↔
      final.verdict = .exceedsLimit kind bound used false) :
    Faithful config limits start events .outOfGas
      (haltReason final.meter.limit accesses .outOfGas) ↔
      (accesses ≠ 0 → final.meter.limit.computeGas.isDetainedExceed = true →
        kind = .computeGas) := by
  have latched := (latchedIff kind bound used).mpr verdict
  have only : ∀ {found otherBound otherUsed},
      LatchedDuring config start events found otherBound otherUsed → found = kind := by
    intro found otherBound otherUsed found_latched
    have same := ((latchedIff _ _ _).mp found_latched).symm.trans verdict
    cases same
    rfl
  rw [haltReason_of_exceeds verdict]
  by_cases detained : accesses ≠ 0 ∧ final.meter.limit.computeGas.isDetainedExceed = true
  · rw [if_pos detained]
    constructor
    · intro faithful _ _
      obtain ⟨otherBound, otherUsed, asCompute⟩ := (faithful.dimension .computeGas).mp rfl
      exact (only asCompute).symm
    · intro isCompute
      obtain rfl := isCompute detained.1 detained.2
      have overrun := names.overrun bound used verdict
      have base : final.meter.limit.computeGas.frameTracker.txLimit = limits.txComputeGasLimit :=
        congrArg (fun setup : LimitSetup => setup.computeGas.txLimit) names.sameSetup
      have binding := (Bool.and_eq_true _ _ |>.mp detained.2).2
      have lower := of_decide_eq_true binding
      have inForce := overrun.inForce
      rw [ComputeGasTracker.txLimit] at inForce
      have named : final.meter.limit.computeGas.detainedLimit = bound := by omega
      refine ⟨fun found => ⟨?_, ?_⟩, ?_, fun nothing => absurd latched (nothing _ _ _)⟩
      · intro same
        cases same
        exact ⟨bound, used, latched⟩
      · rintro ⟨otherBound, otherUsed, found_latched⟩
        rw [only found_latched]
        rfl
      · intro otherBound actual same
        cases same
        exact ⟨base ▸ lower, used, named ▸ latched⟩
  · rw [if_neg detained]
    refine ⟨fun _ accessed exceeds => absurd ⟨accessed, exceeds⟩ detained, fun _ => ?_⟩
    refine ⟨fun found => ⟨?_, ?_⟩, (by rintro _ _ ⟨⟩),
      fun nothing => absurd latched (nothing _ _ _)⟩
    · intro same
      cases same
      exact ⟨bound, used, latched⟩
    · rintro ⟨otherBound, otherUsed, found_latched⟩
      rw [only found_latched]
      rfl

end Halting

/-- For a transaction of Rex4 or later that halts, the reason is faithful exactly if it reports what
was latched. -/
theorem haltReason_faithful_iff (rex4 : config.spec.isEnabled .rex4 = true)
    (bounded : limits.txComputeGasLimit ≤ u64Max) {history rest : List Event} {start : Execution}
    (reached : Library.run (step config) (initial config limits) history = some start)
    (continues : ∀ event ∈ rest, event.continues = true)
    (ran : Library.run (step config) start rest = some final) {outcome : Outcome}
    (ended : final.phase = .ended outcome)
    (halts : outcome.result.instructionResult.isOkOrRevert = false) (accesses : Nat) :
    Faithful config limits start rest outcome.result.instructionResult
        (haltReason final.meter.limit accesses outcome.result.instructionResult) ↔
      ReportsLatched final outcome.result.instructionResult accesses := by
  have reachedFinal : run (step config) (initial config limits) (history ++ rest) =
      some final := by
    rw [run_append, reached]
    exact ran
  have latchedIff := latchedDuring_iff rex4 bounded reached continues ran ended halts
  have notLocal : final.verdict.isFrameLocal = false :=
    (reports_of_run rex4 bounded reachedFinal).at ended
  cases verdict : final.verdict with
  | exempt =>
    have clear : final.meter.limit.Clear := clear_iff.mpr (Or.inl verdict)
    refine ⟨fun _ => ⟨fun within => ?_, fun _ _ kind bound used exceeds => ?_⟩, fun _ => ?_⟩
    · cases verdict.symm.trans within
    · cases verdict.symm.trans exceeds
    · refine faithful_of_clear clear (fun kind bound used latched => ?_) _
      cases verdict.symm.trans ((latchedIff kind bound used).mp latched)
  | withinLimit =>
    have nothing : ∀ kind bound used, ¬ LatchedDuring config start rest kind bound used := by
      intro kind bound used latched
      cases verdict.symm.trans ((latchedIff kind bound used).mp latched)
    have noExceed : ∀ kind bound used, final.verdict ≠ .exceedsLimit kind bound used false :=
      fun kind bound used exceeds => nothing kind bound used
        ((latchedIff kind bound used).mpr exceeds)
    constructor
    · refine fun faithful => ⟨fun _ plain => ?_, fun _ _ kind bound used exceeds =>
        absurd exceeds (noExceed kind bound used)⟩
      by_contra exceeded
      have notClear : ¬ final.meter.limit.Clear := fun clear =>
        exceeded (clear.within fun exempt => nomatch verdict.symm.trans exempt)
      rw [plain] at faithful
      obtain ⟨kind, found⟩ := Option.ne_none_iff_exists'.mp (limitKind?_of_not_clear notClear)
      obtain ⟨bound, used, latched⟩ := (faithful.dimension kind).mp found
      exact nothing kind bound used latched
    · rintro ⟨staysWithin, -⟩
      by_cases plain : outcome.result.instructionResult = .outOfGas
      · have aligned := aligned_of_run reachedFinal
        have empty := aligned.at ended nofun
        rw [aligned.outermost (ended ▸ rfl)] at empty
        exact faithful_of_clear
          (clear_of_within empty verdict (staysWithin verdict plain)) nothing _
      · have other : haltReason final.meter.limit accesses outcome.result.instructionResult =
            .other 0 := by
          unfold haltReason
          rw [if_neg fun both => plain both.1, if_neg plain]
        rw [other]
        exact ⟨fun kind => ⟨nofun, fun ⟨bound, used, latched⟩ =>
          absurd latched (nothing kind bound used)⟩, nofun, fun _ same => absurd same plain⟩
  | exceedsLimit kind bound used frameLocal =>
    obtain rfl : frameLocal = false := by
      cases frameLocal with
      | false => rfl
      | true => exact absurd ((congrArg isFrameLocal verdict).symm.trans notLocal) nofun
    have plain : outcome.result.instructionResult = .outOfGas := by
      obtain doomed | ⟨early, endedEarly, returns⟩ :=
        latchesEarly_of_run rex4 bounded reachedFinal ⟨kind, bound, used, verdict⟩
      · rw [ended] at doomed
        exact doomed
      · cases ended.symm.trans endedEarly
        exact nomatch halts.symm.trans returns
    rw [plain, faithful_of_exceeds (namesLimit_of_run rex4 bounded reachedFinal) verdict latchedIff]
    constructor
    · refine fun isCompute => ⟨fun within => ?_, fun accessed detained found _ _ exceeds => ?_⟩
      · cases verdict.symm.trans within
      · cases verdict.symm.trans exceeds
        exact isCompute accessed detained
    · exact fun reports accessed detained => reports.2 accessed detained kind bound used verdict

/-- What follows the start of a transaction whose first frame is refused. -/
def refusedFrame : List Event :=
  [.validate [] none 21000 false, .preExecution 0, .firstFrame plainCall, .enterFrame none, .reply,
    .lastFrameResult (.new 0)]

/-- The oversized transaction is reported as one that exceeded its data limit. -/
theorem haltReason_faithful_iff_oversized :
    ∃ start final : Execution, ∃ outcome : Outcome,
      Library.run (step rex6Config) (initial rex6Config noDataLimits)
        [.newTx plainTx, .exemption false none] = some start ∧
      Library.run (step rex6Config) start refusedFrame = some final ∧
      final.phase = .ended outcome ∧
      Faithful rex6Config noDataLimits start refusedFrame outcome.result.instructionResult
        (haltReason final.meter.limit 0 outcome.result.instructionResult) :=
  ⟨_, _, _, rfl, rfl, rfl,
    (@haltReason_faithful_iff rex6Config noDataLimits _ (by decide) (by decide)
      [.newTx plainTx, .exemption false none] refusedFrame _ rfl (by decide) rfl _ rfl rfl 0).mpr
      ⟨nofun, fun accessed => absurd rfl accessed⟩⟩

/-- Limits that leave room for the data of a plain transaction, and for nothing else. -/
def tightDataLimits : EvmTxRuntimeLimits :=
  { noDataLimits with txDataSizeLimit := 150 }

/-- Limits that detain early, for data too small for a plain transaction. -/
def detainingLimits : EvmTxRuntimeLimits :=
  { noDataLimits with txDataSizeLimit := 149, blockEnvAccessComputeGasLimit := 10000 }

/-- A first frame that runs out of gas, and the write of the account that gets the fees. -/
def exhaustedFrame : List Event :=
  [.validate [] none 21000 false, .preExecution 0, .firstFrame plainCall] ++ frameStart ++
    frameEnd (emptyResult .outOfGas ⟨40000, 3000, 0⟩) false ++
    [.popResult, .deliver (.new 0), .lastFrameResult ⟨100000, 0, 0⟩, .reward [false]]

/-- The fees of a transaction that ran out of gas within its limits make it one that exceeded its
data limit, and a transaction that exceeded its data limit is reported as detained, since its
intrinsic gas was recorded after that. -/
theorem haltReason_unfaithful :
    (∃ start final : Execution, ∃ outcome : Outcome,
      Library.run (step rex6Config) (initial rex6Config tightDataLimits)
        [.newTx plainTx, .exemption false none] = some start ∧
      Library.run (step rex6Config) start exhaustedFrame = some final ∧
      final.phase = .ended outcome ∧ final.verdict = .withinLimit ∧
      haltReason final.meter.limit 0 outcome.result.instructionResult =
        .limitExceeded .dataSize 150 190 ∧
      ¬ Faithful rex6Config tightDataLimits start exhaustedFrame outcome.result.instructionResult
        (haltReason final.meter.limit 0 outcome.result.instructionResult)) ∧
    ∃ start final : Execution, ∃ outcome : Outcome,
      Library.run (step rex6Config) (initial rex6Config detainingLimits)
        [.newTx plainTx, .exemption false (some 10000)] = some start ∧
      Library.run (step rex6Config) start refusedFrame = some final ∧
      final.phase = .ended outcome ∧ final.verdict = .exceedsLimit .dataSize 149 150 false ∧
      haltReason final.meter.limit 1 outcome.result.instructionResult =
        .volatileDataAccessOutOfGas 10000 21000 ∧
      ¬ Faithful rex6Config detainingLimits start refusedFrame outcome.result.instructionResult
        (haltReason final.meter.limit 1 outcome.result.instructionResult) := by
  refine ⟨⟨_, _, _, rfl, rfl, rfl, rfl, rfl, fun faithful => ?_⟩,
    ⟨_, _, _, rfl, rfl, rfl, rfl, by decide +kernel, fun faithful => ?_⟩⟩
  · obtain ⟨bound, used, latched⟩ := (faithful.dimension .dataSize).mp rfl
    have atEnd := (@latchedDuring_iff rex6Config tightDataLimits _ (by decide) (by decide)
      [.newTx plainTx, .exemption false none] exhaustedFrame _ rfl (by decide) rfl _ rfl rfl
      _ _ _).mp latched
    cases atEnd
  · obtain ⟨bound, used, latched⟩ := (faithful.dimension .computeGas).mp rfl
    have atEnd := (@latchedDuring_iff rex6Config detainingLimits _ (by decide) (by decide)
      [.newTx plainTx, .exemption false (some 10000)] refusedFrame _ rfl (by decide) rfl _ rfl rfl
      _ _ _).mp latched
    cases atEnd

end Execution

end MegaEvm
