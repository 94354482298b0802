/-
This file proves that an exceed of the whole transaction is terminal from Rex4 on. Once
it is latched, before the result of the first frame is returned, the verdict stays
until the next transaction, no instruction runs in any frame, every frame returns out
of gas, and so does the transaction if it ends with a result.

A system transaction is the exception. From Rex6 on it is exempted at the end of its
start, after its own usage was checked, and that overwrites what the check latched.
-/

import MegaEvm.Evm.Alignment

namespace MegaEvm

open AdditionalLimit Library

namespace Phase

/-- The frame runs, or has stopped for a child. -/
def goesOn : Phase → Bool
  | interpreting _ | stopped _ (.newFrame _) => true
  | _ => false

/-- No frame runs, and every result that was popped is out of gas. -/
def Doomed : Phase → Prop
  | interpreting _ | stopped _ (.newFrame _) => False
  | delivering delivery => delivery.result.instructionResult = .outOfGas
  | returned outcome | ended outcome => outcome.result.instructionResult = .outOfGas
  | _ => True

end Phase

namespace Execution

/-! ### Frames that run -/

/-- No exceed is latched while the wrappers of an instruction go on. -/
def goingInvariant : WrapperInvariant where
  live meter := meter.limit.limitExceeded = false
  halted _ := True
  live_halted _ := trivial
  live_stipend _ within := within
  live_storage _ within := within
  live_record _ _ within := within
  halted_record _ _ := trivial
  live_detain _ within := within
  halted_detain _ _ := trivial
  live_sstore _ _ within := within
  halted_sstore _ _ := trivial
  live_log _ _ _ within := within
  halted_log _ _ _ := trivial

theorem goingInvariant_allows (spec : MegaSpecId) (meter : Meter) (instruction : Instruction) :
    goingInvariant.Allows spec meter instruction := by
  cases instruction with
  | selfdestruct access inputs refund raw =>
    refine ⟨fun _ => True, ?_, ?_⟩
    · exact
        { refund := fun _ _ => trivial
          live := fun _ _ within => within
          halted := fun _ _ => trivial
          fails := fun _ _ => trivial }
    · exact
        { unrecorded := trivial
          created := fun _ _ _ _ _ _ => trivial
          credited := fun _ _ _ _ => trivial }
  | _ => trivial

/-- An instruction that leaves an exceed latched stops its frame. -/
theorem returns_of_exceeded {interpreter : Interpreter}
    (within : interpreter.meter.limit.limitExceeded = false) (spec : MegaSpecId)
    (instruction : Instruction)
    (exceeded : (instruction.execute spec interpreter).meter.limit.limitExceeded = true) :
    (instruction.execute spec interpreter).Returns := by
  have ends : goingInvariant.Ends (instruction.execute spec interpreter) :=
    WrapperInvariant.ends_execute spec within (goingInvariant_allows spec _ instruction)
  obtain stillWithin | ⟨returns, _⟩ := ends
  · exact nomatch stillWithin.symm.trans exceeded
  · exact returns

/-- No exceed is latched while a frame runs, or when it starts a child. -/
def Going (state : Execution) : Prop :=
  state.phase.goesOn = true → state.meter.limit.limitExceeded = false

variable {config : EvmConfig} {state next : Execution} {event : Event}

theorem goesOn_answer (state : Execution) (outcome : Outcome) :
    (state.answer outcome).goesOn = false := by
  rw [answer]
  split <;> rfl

variable {limits : EvmTxRuntimeLimits} (init : FrameInit) (meter : Meter)

theorem goesOn_startKeyless : (startKeyless config state init).phase.goesOn = false := by
  obtain ⟨next, equation, started⟩ := keylessStart config state init
  rw [equation]
  cases started <;> rfl

theorem goesOn_continueKeyless (gas : Gas) :
    (state.continueKeyless meter gas).phase.goesOn = false := by
  rw [continueKeyless]
  split <;> rfl

/-- After an instruction the frame goes on only if no exceed is latched. -/
theorem going_afterInstruction {frame : EngineFrame} {ran : Interpreter}
    (stops : ran.meter.limit.limitExceeded = true → ran.Returns) :
    (state.afterInstruction frame ran).Going := by
  intro goes
  cases exceeded : ran.meter.limit.limitExceeded with
  | false => exact exceeded
  | true =>
    obtain ⟨result, returns, _⟩ := stops exceeded
    rw [afterInstruction, returns] at goes
    cases goes

theorem going_transition (going : state.Going) (moves : Transition config state event next) :
    next.Going := by
  cases moves with
  | runGoes frame runs within => exact fun _ => within
  | execute instruction frame interprets =>
    have within := going (interprets ▸ rfl)
    exact going_afterInstruction (returns_of_exceeded within config.spec instruction)
  | keyless init starts first =>
    exact fun goes => nomatch (goesOn_startKeyless init).symm.trans goes
  | keylessCaller | keylessMerge =>
    exact fun goes => nomatch (goesOn_continueKeyless _ _).symm.trans goes
  | reply | admitStopped | madeResult | madePrecompile =>
    exact fun goes => nomatch (goesOn_answer _ _).symm.trans goes
  | _ => exact fun goes => nomatch goes

theorem going_initial (config : EvmConfig) (limits : EvmTxRuntimeLimits) :
    (initial config limits).Going :=
  fun goes => nomatch goes

theorem going_of_run {events : List Event}
    (ran : Reaches config limits events state) : state.Going :=
  run_invariant
    (fun _ _ _ going stepped => going_transition going (transition_of_step stepped))
    (going_initial config limits) ran

/-! ### The verdict -/

/-- The event neither starts a transaction nor exempts one. -/
def KeepsVerdict (config : EvmConfig) : Event → Prop
  | .newTx _ => False
  | .exemption systemOriginated _ => (config.spec.isEnabled .rex6 && systemOriginated) = false
  | _ => True

instance (config : EvmConfig) (event : Event) : Decidable (KeepsVerdict config event) :=
  match event with
  | .newTx _ => isFalse id
  | .exemption _ _ => inferInstanceAs (Decidable (_ = _))
  | .validate .. | .systemCall | .preExecution _ | .outOfInitialGas _ | .firstFrame _
  | .enterFrame _ | .intercept _ | .keylessCaller _ | .keylessMerge .. | .keylessAnswer ..
  | .keylessReject | .reply | .beforeInit _ | .make _ | .beginRun | .execute _ | .settle
  | .process ..
  | .popResult | .deliver _ | .lastFrameResult _ | .reward _ | .fail => isTrue trivial

theorem KeepsVerdict.continues (keeps : KeepsVerdict config event) : ∀ tx, event ≠ .newTx tx := by
  rintro tx rfl
  exact keeps

theorem detain_verdict (cap : Option Nat) (limit : AdditionalLimit) :
    (detain cap limit).hasExceededLimit = limit.hasExceededLimit := by
  cases cap <;> rfl

theorem detainOracle_verdict (config : EvmConfig) (cap : Option Nat) (limit : AdditionalLimit) :
    (detainOracle config cap limit).hasExceededLimit = limit.hasExceededLimit := by
  rw [detainOracle]
  split
  · rfl
  · exact detain_verdict cap limit

theorem recordRewards_verdict (credited : List Bool) (limit : AdditionalLimit) :
    (credited.foldl recordReward limit).hasExceededLimit = limit.hasExceededLimit := by
  induction credited generalizing limit with
  | nil => rfl
  | cons created rest inductionHypothesis => exact inductionHypothesis _

/-- Every hook keeps a latched verdict. -/
theorem verdict_steady (verdict : LimitCheck) (latched : verdict.isWithinLimit = false) :
    SteadyInvariant fun meter => meter.limit.hasExceededLimit = verdict := by
  have checked {limit : AdditionalLimit} (same : limit.hasExceededLimit = verdict) :
      limit.checkLimit.hasExceededLimit = verdict :=
    (checkLimit_verdict (same.symm ▸ latched)).trans same
  exact
    { check := checked
      detain := fun _ same => same
      record := fun charge same =>
        (recordComputeGas_verdict (same.symm ▸ latched) charge.gas).trans same
      recordAll := fun _ same => checked same
      storage := fun _ same => same
      stipend := fun _ same => same
      settle := fun isCreate result same =>
        (afterFrameRunInstructions_verdict (same.symm ▸ latched) isCreate
          result).trans same
      sstore := fun _ same => checked same
      log := fun _ _ same => checked same
      refund := fun _ same => same
      created := fun same => same
      credited := fun same => same
      authority := fun _ same => checked same
      creations := fun _ same => checked same
      caller := fun same => checked same
      hint := fun _ same => checked same
      merge := fun _ same => same
      rescue := fun _ same => same
      pushEmpty := fun same => same
      push := fun _ same => same
      make := fun created same => by cases created <;> exact same
      reward := fun _ same => same }

/-- The latched verdict of the limits. -/
def verdict (state : Execution) : LimitCheck :=
  state.meter.limit.hasExceededLimit

/-- A latched verdict stays until the next transaction starts, or its frame returns. -/
theorem verdict_transition (latched : state.verdict.isWithinLimit = false)
    (final : event.absorbs = true → state.verdict.IsFinal) (keeps : KeepsVerdict config event)
    (moves : Transition config state event next) : next.verdict = state.verdict := by
  refine (verdict_steady state.verdict latched).transition moves rfl (fun tx same => ?_)
    (fun _ _ => rfl) (fun cap same rex6 => ?_)
    fun absorbs => beforeFrameReturnResult_verdict (final absorbs)
  · subst same
    exact absurd keeps id
  · subst same
    have metered : (config.spec.isEnabled .rex6 && true) = false := keeps
    rw [rex6] at metered
    cases metered

/-! ### Results -/

/-- An exceed of the transaction is latched, no frame runs, and every popped result is out of
gas. -/
structure Terminal (state : Execution) : Prop where
  exceeds : state.verdict.IsTxExceed
  doomed : state.phase.Doomed

theorem Terminal.goesOn (terminal : state.Terminal) : state.phase.goesOn = false := by
  have doomed := terminal.doomed
  revert doomed
  rcases state.phase with _ | _ | _ | _ | _ | _ | _ | _ | _ | _ | _ | _ | _ | frame |
    ⟨frame, action⟩ | _ | _ | _ | _ | _ | _ | _
  case interpreting => exact fun impossible => impossible.elim
  case stopped =>
    cases action with
    | newFrame input => exact fun impossible => impossible.elim
    | returnResult result => exact fun _ => rfl
  all_goals exact fun _ => rfl

/-- The results that were returned from one state to another are all out of gas. -/
def ReturnsOutOfGas (state next : Execution) : Prop :=
  ∃ returned, next.delivered = returned ++ state.delivered ∧
    ∀ delivery ∈ returned, delivery.result.instructionResult = .outOfGas

theorem ReturnsOutOfGas.refl (same : next.delivered = state.delivered) :
    ReturnsOutOfGas state next :=
  ⟨[], same, nofun⟩

theorem ReturnsOutOfGas.single {delivery : Delivery}
    (one : next.delivered = delivery :: state.delivered)
    (outOfGas : delivery.result.instructionResult = .outOfGas) : ReturnsOutOfGas state next :=
  ⟨[delivery], one, fun _ member => List.mem_singleton.mp member ▸ outOfGas⟩

theorem ReturnsOutOfGas.trans {middle : Execution} (first : ReturnsOutOfGas state middle)
    (second : ReturnsOutOfGas middle next) : ReturnsOutOfGas state next := by
  obtain ⟨early, earlyDelivered, earlyOutOfGas⟩ := first
  obtain ⟨late, lateDelivered, lateOutOfGas⟩ := second
  refine ⟨late ++ early, ?_, fun delivery member => ?_⟩
  · rw [lateDelivered, earlyDelivered, List.append_assoc]
  · obtain isLate | isEarly := List.mem_append.mp member
    · exact lateOutOfGas delivery isLate
    · exact earlyOutOfGas delivery isEarly

theorem doomed_answer (state : Execution) (outcome : Outcome) : (state.answer outcome).Doomed := by
  rw [answer]
  split <;> trivial

theorem doomed_continueKeyless (gas : Gas) :
    (state.continueKeyless meter gas).phase.Doomed ∧
      (state.continueKeyless meter gas).delivered = state.delivered := by
  rw [continueKeyless]
  split <;> exact ⟨trivial, rfl⟩

theorem doomed_startKeyless :
    (startKeyless config state init).phase.Doomed ∧
      (startKeyless config state init).delivered = state.delivered := by
  obtain ⟨next, equation, started⟩ := keylessStart config state init
  rw [equation]
  cases started <;> exact ⟨trivial, rfl⟩

/-- A step that leaves an exceed of the transaction latched, whether it latched it or found it,
leaves no frame running, and a result it returns is out of gas. -/
theorem doomed_transition (aligned : state.Aligned) (going : state.Going)
    (before : state.Terminal ∨
      (¬ state.verdict.IsTxExceed ∧ ∀ outcome, state.phase ≠ .returned outcome))
    (moves : Transition config state event next) (exceeds : next.verdict.IsTxExceed) :
    next.phase.Doomed ∧ ReturnsOutOfGas state next := by
  cases moves with
  | outOfInitialGas isCreate executes old =>
    refine ⟨?_, .refl rfl⟩
    cases isCreate <;> rfl
  | keyless init starts first =>
    exact ⟨(doomed_startKeyless init).1, .refl (doomed_startKeyless init).2⟩
  | keylessCaller | keylessMerge =>
    exact ⟨(doomed_continueKeyless _ _).1, .refl (doomed_continueKeyless _ _).2⟩
  | reply | madeResult | madePrecompile => exact ⟨doomed_answer _ _, .refl rfl⟩
  | admitStopped =>
    exact ⟨doomed_answer _ _, .refl rfl⟩
  | runGoes frame runs within =>
    cases within.symm.trans exceeds.exceeded
  | execute instruction frame interprets =>
    have within := going (interprets ▸ rfl)
    obtain ⟨result, returns, _⟩ :=
      returns_of_exceeded within config.spec instruction exceeds.exceeded
    refine ⟨?_, .refl rfl⟩
    rw [afterInstruction, returns]
    trivial
  | popped outcome returns =>
    have outOfGas := beforeFrameReturnResult_outOfGas
      (fun impossible => absurd impossible Bool.false_ne_true) outcome.result exceeds
    exact ⟨outOfGas, .single rfl outOfGas⟩
  | delivered => exact ⟨trivial, .refl rfl⟩
  | deliveredLast parentGas delivery delivers suspended =>
    obtain terminal | ⟨notLatched, _⟩ := before
    · have doomed := terminal.doomed
      rw [delivers] at doomed
      exact ⟨doomed, .refl rfl⟩
    · exact absurd exceeds notLatched
  | finishedAnswer gas outcome answers =>
    have active := (aligned.at answers (by rintro ⟨⟩)).hasActiveFrame
    have outOfGas := beforeFrameReturnResult_outOfGas (fun _ => active)
      outcome.result exceeds
    exact ⟨(FrameResult.instructionResult_setGas _ _).trans outOfGas, .single rfl outOfGas⟩
  | finished gas outcome returns =>
    obtain terminal | ⟨_, notReturned⟩ := before
    · have doomed := terminal.doomed
      rw [returns] at doomed
      have outOfGas : (state.meter.limit.beforeFrameReturnResult true
          outcome.result).2.instructionResult = .outOfGas := by
        rw [beforeFrameReturnResult_of_not_pops (aligned.inactive returns)]
        exact (instructionResult_burnedResult _ _).trans doomed
      exact ⟨(FrameResult.instructionResult_setGas _ _).trans outOfGas, .single rfl outOfGas⟩
    · exact absurd returns (notReturned outcome)
  | rewarded credited outcome ends rex6 =>
    obtain terminal | ⟨notLatched, _⟩ := before
    · have doomed := terminal.doomed
      rw [ends] at doomed
      exact ⟨doomed, .refl rfl⟩
    · have latchedBefore : state.verdict.IsTxExceed := by
        rw [verdict, ← recordRewards_verdict credited]
        exact exceeds
      exact absurd latchedBefore notLatched
  | _ => exact ⟨trivial, .refl rfl⟩

/-- From a terminal state nothing runs any more. -/
theorem executed_transition (terminal : state.Terminal)
    (moves : Transition config state event next) : next.executed = state.executed := by
  cases moves with
  | execute instruction frame interprets =>
    have goes := terminal.goesOn
    rw [interprets] at goes
    exact nomatch goes
  | keyless init starts first =>
    obtain ⟨meter, phase, equation⟩ := startKeyless_eq config state init
    rw [equation]
  | keylessCaller | keylessMerge =>
    rw [continueKeyless]
    split <;> rfl
  | _ => rfl

/-! ### Runs -/

/-- What stays fixed from a terminal state on: the verdict and the number of instructions, and every
returned result is out of gas. -/
theorem terminal_run {history events : List Event} {final : Execution} (terminal : state.Terminal)
    (reached : Reaches config limits history state)
    (keeps : ∀ event ∈ events, KeepsVerdict config event)
    (ran : run (step config) state events = some final) :
    final.Terminal ∧ final.verdict = state.verdict ∧ final.executed = state.executed ∧
      ReturnsOutOfGas state final := by
  induction events generalizing state history with
  | nil =>
    cases ran
    exact ⟨terminal, rfl, rfl, .refl rfl⟩
  | cons event rest inductionHypothesis =>
    obtain ⟨next, stepped, remaining⟩ := run_cons_some ran
    have moves := transition_of_step stepped
    have verdictKept := verdict_transition terminal.exceeds.notWithin
      (fun _ => terminal.exceeds.isFinal) (keeps event List.mem_cons_self) moves
    have exceeds : next.verdict.IsTxExceed := verdictKept ▸ terminal.exceeds
    obtain ⟨doomed, returned⟩ := doomed_transition (aligned_of_run reached) (going_of_run reached)
      (Or.inl terminal) moves exceeds
    have reachedNext := run_snoc reached stepped
    obtain ⟨ends, verdictEnds, executedEnds, returnedEnds⟩ :=
      inductionHypothesis ⟨exceeds, doomed⟩ reachedNext
        (fun later member => keeps later (List.mem_cons_of_mem _ member)) remaining
    exact ⟨ends, verdictEnds.trans verdictKept,
      executedEnds.trans (executed_transition terminal moves), returned.trans returnedEnds⟩

/-- An exceed of the transaction that is latched before the result of the first frame is returned is
terminal: until the next transaction, or the exemption of a system transaction, the verdict stays,
no instruction runs, every frame returns out of gas, and a result of the transaction is out of
gas. -/
theorem txExceed_terminal {limits : EvmTxRuntimeLimits} {history rest : List Event}
    {before after final : Execution}
    (reached : Library.run (step config) (initial config limits) history = some before)
    (notLatched : ¬ before.verdict.IsTxExceed)
    (notReturned : ∀ outcome, before.phase ≠ .returned outcome)
    (stepped : step config before event = some after) (latched : after.verdict.IsTxExceed)
    (sameTransaction : ∀ later ∈ rest, KeepsVerdict config later)
    (continued : Library.run (step config) after rest = some final) :
    final.verdict = after.verdict ∧ final.executed = after.executed ∧
      ReturnsOutOfGas before final ∧
      ∀ outcome, final.phase = .ended outcome →
        outcome.result.instructionResult = .outOfGas := by
  obtain ⟨doomed, returned⟩ := doomed_transition (aligned_of_run reached) (going_of_run reached)
    (Or.inr ⟨notLatched, notReturned⟩) (transition_of_step stepped) latched
  have reachedAfter := Library.run_snoc reached stepped
  obtain ⟨terminal, verdictKept, executedKept, returnedLater⟩ :=
    terminal_run ⟨latched, doomed⟩ reachedAfter sameTransaction continued
  refine ⟨verdictKept, executedKept, returned.trans returnedLater, fun outcome ended => ?_⟩
  have outOfGas := terminal.doomed
  rw [ended] at outOfGas
  exact outOfGas

/-- Limits that allow no data at all. -/
def noDataLimits : EvmTxRuntimeLimits :=
  { roomyLimits with txDataSizeLimit := 0 }

/-- The rest of a transaction whose first frame is refused. -/
def refusedRest : List Event :=
  [.exemption false none, .validate [] none 21000 false, .preExecution 0, .firstFrame plainCall,
    .enterFrame none, .reply, .lastFrameResult (.new 0)]

/-- A transaction whose own size exceeds its limit ends out of gas without running. -/
theorem txExceed_terminal_oversized :
    ∃ after final : Execution,
      step rex6Config (initial rex6Config noDataLimits) (.newTx plainTx) = some after ∧
      Library.run (step rex6Config) after refusedRest = some final ∧
      after.verdict = .exceedsLimit .dataSize 0 150 false ∧
      final.verdict = after.verdict ∧ final.executed = after.executed ∧
      ReturnsOutOfGas (initial rex6Config noDataLimits) final ∧
      ∀ outcome, final.phase = .ended outcome →
        outcome.result.instructionResult = .outOfGas :=
  ⟨_, _, rfl, rfl, rfl,
    @txExceed_terminal rex6Config (.newTx plainTx) noDataLimits [] refusedRest _ _ _ rfl
      (by decide) nofun rfl (by decide) (by decide) rfl⟩

/-- From Rex6 on the exemption of a system transaction overwrites an exceed of the transaction. -/
theorem txExceed_lost_by_exemption :
    ∃ after final : Execution,
      step rex6Config (initial rex6Config noDataLimits) (.newTx plainTx) = some after ∧
      after.verdict = .exceedsLimit .dataSize 0 150 false ∧
      step rex6Config after (.exemption true none) = some final ∧
      final.verdict = .exempt :=
  ⟨_, _, rfl, rfl, rfl, rfl⟩

end Execution

end MegaEvm
