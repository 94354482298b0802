/-
This file proves that from Rex6 on an exceed of the whole transaction loses no gas, with
one exception. Every hook that can latch it is followed by one that is offered the gas of
the frame, except the return of a frame: its gas was offered before, when nothing was
exceeded. So a frame that returns must not be what takes the transaction over a limit.
On limits that were checked when the frame ended this can only be a frame that failed and
whose refunds the transaction needed.
-/

import MegaEvm.Evm.Recorded
import MegaEvm.Evm.Rescue

namespace MegaEvm

open AdditionalLimit Library

/-- Unless something was recorded or an exceed of a frame was dropped since the last check, the next
check finds nothing that is not latched. Where instructions run it finds nothing. -/
def Phase.Checked (limit : AdditionalLimit) : Phase → Prop
  | .idle | .running _ | .stopped _ (.returnResult _) | .settled _ _ | .delivering _ | .returned _
  | .ended _ | .failed => True
  | .interpreting _ => limit.Clear
  | _ => limit.Checked

namespace Execution

variable {config : EvmConfig} {state next : Execution} {event : Event}

/-! ### Checked limits -/

def Checked (state : Execution) : Prop :=
  state.phase.Checked state.meter.limit

theorem Checked.at {phase : Phase} (checked : state.Checked) (starts : state.phase = phase) :
    phase.Checked state.meter.limit :=
  starts ▸ checked

theorem checked_answer (state : Execution) {limit : AdditionalLimit} (checked : limit.Checked)
    (outcome : Outcome) : (state.answer outcome).Checked limit := by
  rw [answer]
  split <;> exact checked

variable {limits : EvmTxRuntimeLimits} {setup : LimitSetup} {events : List Event}

theorem checked_hooks (detainable : Detainable setup) :
    HookInvariant fun meter => meter.limit.Checked ∧ meter.limit.setup = setup where
  check before :=
    ⟨checked_checkLimit _, (setup_steady _).check before.2⟩
  detain cap before := by
    obtain ⟨rex4, fits⟩ := detainable.of_setup before.2
    exact ⟨before.1.setComputeGasLimit rex4 fits cap, before.2⟩
  record charge before :=
    ⟨before.1.recordComputeGas charge.gas,
      (setup_steady _).record charge before.2⟩
  storage _ before := before
  settle isCreate result before := by
    refine ⟨?_, (setup_steady _).settle isCreate result before.2⟩
    rw [Meter.update_limit, afterFrameRunInstructions]
    split
    · dsimp only
      split <;> exact checked_checkLimit _
    · rename_i isCall
      rw [Bool.not_eq_true] at isCall
      subst isCall
      exact before.1

theorem checked_start (detainable : Detainable setup) :
    StartInvariant fun meter => meter.limit.Checked ∧ meter.limit.setup = setup where
  detain := (checked_hooks detainable).detain
  record := (checked_hooks detainable).record
  authority creates before :=
    ⟨checked_checkLimit _,
      (setup_steady _).authority creates before.2⟩
  caller before :=
    ⟨checked_checkLimit _,
      (setup_steady _).caller before.2⟩

theorem checked_afterInstruction (detainable : Detainable state.meter.limit.setup)
    (clear : state.meter.limit.Clear) (frame : EngineFrame) (instruction : Instruction) :
    (state.afterInstruction frame
      (instruction.execute config.spec
        { meter := state.meter, gas := frame.gas, action := none })).Checked := by
  have ends := @clear_execute { meter := state.meter, gas := frame.gas, action := none } detainable
    clear config.spec instruction
  revert ends
  rcases instruction.execute config.spec { meter := state.meter, gas := frame.gas, action := none }
    with ⟨meter, gas, _ | input | result⟩
  · rintro (clear | ⟨result, returns, _⟩)
    · exact clear
    · cases returns
  · rintro (clear | ⟨result, returns, _⟩)
    · exact fun _ => clear
    · cases returns
  · exact fun _ => trivial

theorem checked_startKeyless (init : FrameInit)
    (checked : (startKeyless config state init).meter.limit.Checked) :
    (startKeyless config state init).Checked := by
  obtain ⟨next, equation, started⟩ := keylessStart config state init
  rw [equation] at checked ⊢
  cases started with
  | panicked => trivial
  | _ => exact checked

theorem checked_transition (detainable : Detainable state.meter.limit.setup)
    (checked : state.Checked) (moves : Transition config state event next) : next.Checked := by
  cases moves with
  | newTx | authorityCreations | hint => exact checked_checkLimit _
  | exemption systemOriginated cap starts =>
    exact ((checked_start detainable).exempt config systemOriginated cap
      ⟨checked.at starts, rfl⟩ fun _ => ⟨nofun, rfl⟩).1
  | validate applied cap initialGas createsCaller validates =>
    exact ((checked_start detainable).validated config applied cap initialGas createsCaller
      ⟨checked.at validates, rfl⟩).1
  | systemCall validates => exact (checked.at validates :)
  | preExecution amount prepares => exact (checked.at prepares :)
  | outOfInitialGas | admitFailed | madeFrame | runStopped | settled => exact trivial
  | firstFrame input executes => exact (checked.at executes :)
  | refused => exact checked_tryRescueGas _ _
  | tooDeep cap _ starts | entered cap _ starts =>
    exact ((checked_hooks detainable).detainOracle config cap ⟨checked.at starts, rfl⟩).1
  | passes _ _ starts | answers _ _ starts => exact (checked.at starts :)
  | keyless init starts first =>
    have checked := ((checked_hooks detainable).startKeyless config ⟨checked.at starts, rfl⟩ init).1
    exact checked_startKeyless init checked
  | keylessCallerUnpaid _ _ deploys | keylessAnswer _ _ _ deploys => exact (checked.at deploys :)
  | keylessCaller | keylessMerge =>
    rw [continueKeyless]
    split <;> exact checked_checkLimit _
  | keylessReject gas cause halted =>
    have before := checked.at halted
    cases cause with
    | overhead =>
      show (rescueKeyless config gas .overhead state.meter.limit).Checked
      rw [rescueKeyless]
      split
      · exact checked_tryRescueGas _ _
      · exact before
    | overflow => exact fun within => (before within).of_checks rfl id id id id
  | reply outcome replies =>
    have before : state.meter.limit.Checked := checked.at replies
    exact checked_answer state before.pushEmptyFrame outcome
  | admitStopped | madeResult | madePrecompile =>
    exact checked_answer state (checked_tryRescueGas _ _) _
  | admitted =>
    exact checked_checkLimit _
  | runGoes frame runs within => exact clear_checkLimit within
  | execute instruction frame interprets =>
    exact checked_afterInstruction detainable (checked.at interprets) frame instruction
  | startChild frame input stops => exact (checked.at stops :)
  | processed processed committed frame result settles =>
    obtain ⟨computeGas, verdict, equation⟩ :=
      state.meter.limit.afterFrameRun_eq_tryRescueGas processed
        (if recordsProcessing config processed then some result.gas.remaining else none)
    show (state.meter.limit.afterFrameRun processed _).1.Checked
    rw [equation]
    exact checked_tryRescueGas _ _
  | _ => exact trivial

theorem checked_of_run (rex4 : config.spec.isEnabled .rex4 = true)
    (fits : limits.txComputeGasLimit ≤ u64Max) (ran : Reaches config limits events state) :
    state.Checked := by
  have starts : (initial config limits).Checked := trivial
  refine reached_invariant ?_ starts ran
  rintro state event next ⟨_, reached⟩ checked stepped
  exact checked_transition (detainable_of_run rex4 fits reached) checked
    (transition_of_step stepped)

/-! ### Frames that return -/

/-- The outcome of the frame that the event pops from the trackers. -/
def poppedOutcome? (state : Execution) : Event → Option Outcome
  | .popResult =>
    match state.phase with
    | .returning outcome => some outcome
    | _ => none
  | .lastFrameResult _ =>
    match state.phase with
    | .answered outcome => some outcome
    | _ => none
  | _ => none

/-- A frame that fails with gas left while nothing is exceeded leaves the transaction within its
limits when its usage and its refunds are dropped. -/
def DropsWithin (state : Execution) (event : Event) : Prop :=
  ∀ outcome ∈ state.poppedOutcome? event, outcome.result.gas.remaining ≠ 0 →
    outcome.result.instructionResult.isOk = false → state.verdict = .withinLimit →
      state.meter.limit.RevertsWithin

instance (state : Execution) (event : Event) : Decidable (DropsWithin state event) :=
  inferInstanceAs (Decidable (∀ outcome ∈ state.poppedOutcome? event, _ → _ → _ → _))

/-- A frame that returns and takes the transaction over a limit has no gas left. -/
theorem noGas_of_pop {outcome : Outcome} {lastFrame : Bool} (checked : state.meter.limit.Checked)
    (recorded : ∃ base, state.meter.Recorded base) (notLatched : ¬ state.verdict.IsTxExceed)
    (drops : DropsWithin state event) (pops : state.poppedOutcome? event = some outcome)
    (exceeds : (state.meter.limit.beforeFrameReturnResult lastFrame
      outcome.result).1.hasExceededLimit.IsTxExceed) :
    outcome.result.gas.remaining = 0 := by
  obtain ⟨_, recorded⟩ := recorded
  by_contra gasLeft
  exact checked.not_isTxExceed_beforeFrameReturnResult notLatched recorded.unrefunded
    (drops outcome pops gasLeft) lastFrame exceeds

/-- The gas of the frames that are alive when a step latches an exceed. A result that ends the
transaction is looked at before that step. -/
def gasAtLatch (before after : Execution) : Nat :=
  match before.phase with
  | .answered _ => before.aliveGas
  | _ => after.aliveGas

/-- A step that latches an exceed of the transaction leaves all gas to hooks that rescue it. -/
theorem dueGas_eq_gasAtLatch (rex5 : config.spec.isEnabled .rex5 = true)
    (stipend : state.meter.limit.setup.stipendRex5 = true) (halts : state.Halts)
    (checked : state.Checked) (recorded : ∃ base, state.meter.Recorded base)
    (notLatched : ¬ state.verdict.IsTxExceed) (nothing : state.rescuedGas = 0)
    (drops : DropsWithin state event) (continues : ∀ tx, event ≠ .newTx tx)
    (exceeds : next.verdict.IsTxExceed) (moves : Transition config state event next) :
    next.dueGas = gasAtLatch state next := by
  have latch := dueGas_of_latch rex5 stipend halts notLatched nothing continues exceeds moves
  have notReturned : event = .popResult → next.phase.returnedGas = 0 := by
    rintro rfl
    cases moves with
    | popped outcome returns =>
      have pops : state.poppedOutcome? .popResult = some outcome := by
        rw [poppedOutcome?, returns]
      have noGas := noGas_of_pop (checked.at returns) recorded notLatched drops pops exceeds
      show (beforeFrameReturnResult _ false outcome.result).2.gas.remaining = 0
      rw [gas_beforeFrameReturnResult, burnedResult_of_rex5 stipend, noGas]
  rw [gasAtLatch, latch.2 notReturned]
  split
  · rename_i outcome answers
    cases moves with
    | finishedAnswer gas last answered =>
      have pops : state.poppedOutcome? (.lastFrameResult gas) = some last := by
        rw [poppedOutcome?, answered]
      have noGas := noGas_of_pop (checked.at answered) recorded notLatched drops pops exceeds
      rw [aliveGas, aliveGas, pendingGas, pendingGas, answered]
      show suspendedGas state.frames + 0 + 0 = suspendedGas state.frames + 0 +
        last.result.gas.remaining
      rw [noGas]
    | newTx tx between => exact absurd rfl (continues tx)
    | fail => exact absurd exceeds notLatched
    | _ => cases answers.symm.trans ‹state.phase = _›
  · rfl

/-! ### Runs -/

/-- A transaction that exceeds a limit before its first frame loses none of that frame's gas. -/
theorem dueGas_run_of_preparing {history events : List Event} {final : Execution}
    {outcome : Outcome} (rex6 : config.spec.isEnabled .rex6 = true)
    (exceeds : state.verdict.IsTxExceed) (prepares : state.phase.isPreparing = true)
    (reached : Reaches config limits history state) (nothing : state.rescuedGas = 0)
    (rules : StepsMeet (step config) (ReturnsGas config) state events)
    (keeps : ∀ event ∈ events, KeepsVerdict config event)
    (ran : run (step config) state events = some final)
    (ended : final.phase = .ended outcome) : final.dueGas = final.firstGas := by
  have rex5 := MegaSpecId.rex5_of_rex6 rex6
  have alive : final.phase ≠ .failed := by
    rw [ended]
    rintro ⟨⟩
  induction events generalizing state history with
  | nil =>
    rw [run_nil, Option.some.injEq] at ran
    rw [ran, ended] at prepares
    cases prepares
  | cons event rest inductionHypothesis =>
    obtain ⟨next, stepped, remaining⟩ := run_cons_some ran
    have moves := transition_of_step stepped
    have keepsNow := keeps event List.mem_cons_self
    have keepsLater : ∀ later ∈ rest, KeepsVerdict config later :=
      fun later member => keeps later (List.mem_cons_of_mem _ member)
    have exceedsNext : next.verdict.IsTxExceed :=
      verdict_transition exceeds.notWithin (fun _ => exceeds.isFinal) keepsNow moves ▸ exceeds
    have reachedNext := run_snoc reached stepped
    cases started : next.phase.isPreparing with
    | true =>
      obtain ⟨quiet, goesOn⟩ := silent_of_preparing prepares moves
      have rescued := rescues_transition rex5 (stipendRex5_of_run rex5 reached)
        (halts_of_run (MegaSpecId.rex4_of_rex5 rex5) reached) keepsNow.continues goesOn moves
      rw [Rescues, quiet, if_neg fun both => absurd both.2 Bool.false_ne_true] at rescued
      exact inductionHypothesis exceedsNext started reachedNext (rescued.trans nothing)
        (rules.tail stepped) keepsLater remaining
    | false =>
      have complete := (dueGas_run rex5 exceedsNext started reachedNext (rules.tail stepped)
        keepsLater remaining).2 rex6 alive
      have firstGas : final.firstGas = next.firstGas :=
        started_invariant (fun same _ later moves => (firstGas_transition moves later).trans same)
          rfl started keepsLater remaining
      rw [complete, firstGas]
      cases moves with
      | firstFrame input executes =>
        show state.rescuedGas + (0 + input.gasLimit) = input.gasLimit
        rw [nothing, Nat.zero_add, Nat.zero_add]
      | fail => exact absurd (failed_run rfl keepsLater remaining) alive
      | outOfInitialGas isCreate executes old =>
        cases old.symm.trans rex5
      | newTx | exemption | validate | systemCall | authorityCreations | preExecution =>
        cases started
      | _ =>
        rw [‹state.phase = _›] at prepares
        cases prepares

/-- From Rex6 on, when an exceed of the transaction is latched, all gas of the frames that are alive
is rescued, each frame's once, and reaches the sender. This needs that no frame fails whose refunds
keep the transaction within a limit. -/
theorem rescuedGas_eq_gasAtLatch {limits : EvmTxRuntimeLimits} {history rest : List Event}
    {before after final : Execution} {outcome : Outcome}
    (rex6 : config.spec.isEnabled .rex6 = true) (fits : limits.txComputeGasLimit ≤ u64Max)
    (reached : Library.run (step config) (initial config limits) history = some before)
    (stepped : step config before event = some after)
    (continued : Library.run (step config) after rest = some final)
    (rules : Library.StepsMeet (step config) (ReturnsGas config) (initial config limits)
      (history ++ event :: rest))
    (drops : Library.StepsMeet (step config) DropsWithin (initial config limits)
      (history ++ event :: rest))
    (notLatched : ¬ before.verdict.IsTxExceed) (latched : after.verdict.IsTxExceed)
    (sameTransaction : ∀ later ∈ rest, KeepsVerdict config later)
    (ended : final.phase = .ended outcome) :
    final.rescuedGas =
        (if after.phase.isPreparing then final.firstGas else gasAtLatch before after) ∧
      final.rescuedGas ≤ outcome.result.gas.remaining := by
  have rex5 := MegaSpecId.rex5_of_rex6 rex6
  have rex4 := MegaSpecId.rex4_of_rex6 rex6
  obtain ⟨rulesBefore, rulesLater⟩ := (stepsMeet_append reached).mp rules
  have dropsNow := ((stepsMeet_append reached).mp drops).2.head
  have moves := transition_of_step stepped
  have reachedAfter := run_snoc reached stepped
  have ran := run_through reached stepped continued
  have alive : final.phase ≠ .failed := by
    rw [ended]
    exact nofun
  have rescued : final.dueGas = final.rescuedGas := by
    rw [dueGas, pendingGas, (aligned_of_run ran).outermost (ended ▸ rfl), ended]
    rfl
  refine ⟨?_, ((funded_of_run rex5 rules ran).at ended).1⟩
  have funded := funded_of_run rex5 rulesBefore reached
  have nothing := funded.clear notLatched
  rw [← rescued]
  cases started : after.phase.isPreparing with
  | true =>
    have rulesAfter : Library.StepsMeet (step config) (ReturnsGas config) (initial config limits)
        (history ++ [event]) :=
      (stepsMeet_append reached).mpr ⟨rulesBefore, rulesLater.head, by
        rw [stepped]
        trivial⟩
    exact dueGas_run_of_preparing rex6 latched started reachedAfter
      ((funded_of_run rex5 rulesAfter reachedAfter).preparing started) (rulesLater.tail stepped)
      sameTransaction continued ended
  | false =>
    have complete := (dueGas_run rex5 latched started reachedAfter (rulesLater.tail stepped)
      sameTransaction continued).2 rex6 alive
    rw [complete]
    exact dueGas_eq_gasAtLatch rex5 (stipendRex5_of_run rex5 reached) (halts_of_run rex4 reached)
      (checked_of_run rex4 fits reached) (recorded_of_run reached) notLatched nothing dropsNow
      (continues_of_started started moves) latched moves

/-- The gas of both frames is rescued when the child exceeds the detained limit. -/
theorem rescuedGas_eq_gasAtLatch_detained :
    ∃ before after final : Execution,
      Library.run (step rex6Config) (initial rex6Config roomyLimits) detainedRun = some before ∧
      step rex6Config before (.execute (.plain { remaining := 9000, action := none })) =
        some after ∧
      run (step rex6Config) after unwoundRest = some final ∧
      gasAtLatch before after = 29000 ∧ final.rescuedGas = gasAtLatch before after ∧
      final.rescuedGas ≤ 29000 := by
  refine ⟨_, _, _, rfl, rfl, rfl, rfl, ?_⟩
  exact @rescuedGas_eq_gasAtLatch rex6Config
    (.execute (.plain { remaining := 9000, action := none })) roomyLimits detainedRun unwoundRest
    _ _ _ _ rfl (by decide) rfl rfl rfl (by decide +kernel) (by decide +kernel) (by decide)
    (by decide) (by decide) rfl

/-! ### A frame whose refunds are needed -/

def narrowLimits : EvmTxRuntimeLimits :=
  { roomyLimits with txDataSizeLimit := 190 }

/-- A transaction whose first frame sets a slot and calls itself. The inner frame clears the slot,
sends forty bytes to the oracle and reverts. -/
def refundedRun : List Event :=
  startedRun ++
    [.execute
      (.sstore none { originalValue := 0, presentValue := 0, newValue := 1 } 0
        { remaining := 17800, action := none })] ++
    childStart (innerCall 2 0 10000 7700) ++
    [.execute
        (.sstore none { originalValue := 0, presentValue := 1, newValue := 0 } 0
          { remaining := 9900, action := none }),
      .execute (innerCall 3 0 4000 3300), .settle, .enterFrame none, .intercept (.hint 40),
      .beforeInit emptyJournal, .make (.frame 0), .beginRun] ++
    frameEnd (emptyResult .stop ⟨4000, 3900, 0⟩) true ++
    [.popResult, .deliver ⟨10000, 7200, 0⟩, .beginRun] ++
    frameEnd (emptyResult .revert ⟨10000, 7200, 0⟩) false

/-- How the first frame is stopped after the inner one returned. -/
def refundedRest : List Event :=
  [.deliver ⟨40000, 7700, 0⟩, .beginRun, .settle,
    .process
      (.call
        { result := .outOfGas
          output := .limit (.megaLimitExceeded 0 190)
          gas := ⟨40000, 7700, 0⟩ }) false,
    .popResult, .deliver (.new 0), .lastFrameResult ⟨100000, 0, 0⟩]

/-- When the inner frame returns, its refund is dropped and the transaction is over its data limit.
The gas of that frame was offered before, and is lost. -/
theorem rescuedGas_lt_gasAtLatch :
    ∃ before after final : Execution,
      Library.run (step rex6Config) (initial rex6Config narrowLimits) refundedRun = some before ∧
      step rex6Config before .popResult = some after ∧
      Library.run (step rex6Config) after refundedRest = some final ∧
      Library.StepsMeet (step rex6Config) (ReturnsGas rex6Config) (initial rex6Config narrowLimits)
        (refundedRun ++ .popResult :: refundedRest) ∧
      before.verdict = .withinLimit ∧ after.verdict = .exceedsLimit .dataSize 190 230 false ∧
      after.phase.isPreparing = false ∧ gasAtLatch before after = 14900 ∧
      final.rescuedGas = 7700 ∧ ∃ outcome, final.phase = .ended outcome :=
  ⟨_, _, _, rfl, rfl, rfl, by decide +kernel, rfl, rfl, rfl, rfl, rfl, _, rfl⟩

end Execution

end MegaEvm
