/-
This file proves that a frame that goes on after a child returned was told the truth
about it. The hooks of the limits rewrite results, some of them after the engine has
committed the frame. From Rex5 on a rewrite before the return of a frame precedes the
commit, since every charge that follows the commit was checked for before. A rewrite at
the return itself can contradict the commit, but then the parent is over its budget, and
the check before it resumes stops it.
-/

import MegaEvm.Evm.Precompiles

namespace MegaEvm

open AdditionalLimit InstructionResult AdditionalLimit.Clear FrameResult

/-! ### What is told -/

/-- The frame is told of a success exactly if it was committed and its usage was merged as the one
of a success. -/
def Delivery.Truthful (delivery : Delivery) : Prop :=
  delivery.result.instructionResult.isOk = true ↔
    delivery.committed = true ∧ delivery.merged = true

/-- The frame was told the truth about all its children. -/
def EngineFrame.Informed (frame : EngineFrame) : Prop :=
  ∀ delivery ∈ frame.children, delivery.Truthful

/-- The engine committed the frame exactly if it ended with success. -/
def Outcome.Agrees (outcome : Outcome) : Prop :=
  outcome.committed = outcome.result.instructionResult.isOk

/-- What holds of the limits and the result in each phase. A frame that can still end with success
is on clear limits, so nothing is left for the hooks to find. -/
def Phase.Informed (limit : AdditionalLimit) (frames : List EngineFrame) : Phase → Prop
  | keyless _ | keylessHalted _ _ => False
  | making _ => limit.Clear
  | replying outcome =>
    outcome.result.instructionResult.isOk = false ∧ outcome.committed = false
  | running frame => limit.Clear → frame.Informed
  | interpreting frame | stopped frame (.newFrame _) => limit.Clear ∧ frame.Informed
  | stopped _ (.returnResult result) | settled _ result => result.result.isOk = true → limit.Clear
  | returning outcome | answered outcome =>
    outcome.Agrees ∧ (outcome.result.instructionResult.isOk = true → limit.Clear)
  | delivering delivery =>
    (limit.Clear → delivery.Truthful) ∧
      (frames = [] → delivery.committed = delivery.result.instructionResult.isOk)
  | returned outcome | ended outcome => outcome.Agrees
  | _ => True

namespace Execution

/-- Every suspended frame was told the truth, and the phase is as it should be. -/
structure Informed (state : Execution) : Prop where
  suspended : ∀ frame ∈ state.frames, frame.Informed
  phase : state.phase.Informed state.meter.limit state.frames

variable {config : EvmConfig} {state next : Execution} {event : Event}

theorem Informed.at {phase : Phase} (informed : state.Informed) (inPhase : state.phase = phase) :
    phase.Informed state.meter.limit state.frames :=
  inPhase ▸ informed.phase

variable {limit : AdditionalLimit}

theorem informed_answer {outcome : Outcome} (agrees : outcome.Agrees)
    (clear : outcome.result.instructionResult.isOk = true → limit.Clear)
    (frames : List EngineFrame) :
    (state.answer outcome).Informed limit frames := by
  rw [answer]
  split <;> exact ⟨agrees, clear⟩

/-! ### Instructions -/

/-- The wrappers go on only on clear limits. -/
def clearInvariant {setup : LimitSetup} (detainable : Detainable setup) : WrapperInvariant where
  live meter := meter.limit.Clear ∧ meter.limit.setup = setup
  halted _ := True
  live_halted _ := trivial
  live_stipend amount live :=
    ⟨live.1.tryConsumeStorageStipend amount,
      (setup_steady _).stipend amount live.2⟩
  live_storage _ live := live
  live_record charge live within :=
    ⟨live.1.recordComputeGas within,
      (setup_steady _).record charge live.2⟩
  halted_record _ _ := trivial
  live_detain cap live := by
    obtain ⟨rex4, fits⟩ := detainable.of_setup live.2
    exact ⟨live.1.setComputeGasLimit rex4 fits cap, live.2⟩
  halted_detain _ _ := trivial
  live_sstore store live within :=
    ⟨AdditionalLimit.clear_checkLimit within,
      (setup_steady _).sstore store live.2⟩
  halted_sstore _ _ := trivial
  live_log topics length live within :=
    ⟨AdditionalLimit.clear_checkLimit within,
      (setup_steady _).log topics length live.2⟩
  halted_log _ _ _ := trivial

theorem clearInvariant_allows {setup : LimitSetup} (detainable : Detainable setup) {meter : Meter}
    (same : meter.limit.setup = setup) (spec : MegaSpecId) (instruction : Instruction) :
    (clearInvariant detainable).Allows spec meter instruction := by
  cases instruction with
  | selfdestruct access inputs refund raw =>
    refine ⟨fun meter => meter.limit.setup = setup, ?_, ?_⟩
    · exact
        { refund := fun amount same => (setup_steady _).refund amount same
          live := fun charge same within =>
            ⟨clear_checkLimit within,
              (setup_steady _).recordAll charge same⟩
          halted := fun _ _ => trivial
          fails := fun _ _ => trivial }
    · exact
        { unrecorded := same
          created := fun _ _ _ _ amount _ =>
            (setup_steady _).created ((setup_steady _).stipend amount same)
          credited := fun _ _ _ _ =>
            (setup_steady _).credited same }
  | _ => trivial

/-- An instruction leaves clear limits clear, or stops its frame without success. -/
theorem clear_execute {interpreter : Interpreter}
    (detainable : Detainable interpreter.meter.limit.setup) (clear : interpreter.meter.limit.Clear)
    (spec : MegaSpecId) (instruction : Instruction) :
    (instruction.execute spec interpreter).meter.limit.Clear ∨
      (instruction.execute spec interpreter).Returns := by
  have live : (clearInvariant detainable).live interpreter.meter := ⟨clear, rfl⟩
  have ends := WrapperInvariant.ends_execute spec live
    (clearInvariant_allows detainable rfl spec instruction)
  obtain live | ⟨returns, _⟩ := ends
  · exact Or.inl live.1
  · exact Or.inr returns

/-- After an instruction the frame goes on, or returns with success, on clear limits only. -/
theorem informed_afterInstruction {frame : EngineFrame} {ran : Interpreter}
    (suspended : ∀ frame ∈ state.frames, frame.Informed) (informed : frame.Informed)
    (ends : ran.meter.limit.Clear ∨ ran.Returns) : (state.afterInstruction frame ran).Informed := by
  refine ⟨suspended, ?_⟩
  obtain clear | ⟨result, returns, failed⟩ := ends
  · rw [afterInstruction]
    rcases ran.action with _ | input | result
    · exact ⟨clear, informed⟩
    · exact ⟨clear, informed⟩
    · exact fun _ => clear
  · rw [afterInstruction, returns]
    intro succeeds
    cases failed.symm.trans succeeds

/-! ### Ends of a frame -/

variable {isCreate : Bool} {result : InterpreterResult}

/-- A create that is settled with success was checked. -/
theorem clear_afterFrameRunInstructions
    (clear : isCreate = false → result.result.isOk = true → limit.Clear)
    (succeeds : (limit.afterFrameRunInstructions isCreate result).2.result.isOk = true) :
    (limit.afterFrameRunInstructions isCreate result).1.Clear := by
  cases isCreate with
  | false => exact (clear rfl succeeds).of_checks rfl id id id id
  | true =>
    revert succeeds
    simp only [afterFrameRunInstructions, if_true]
    split
    · intro succeeds
      cases (isOk_exceeding _).symm.trans succeeds
    · rename_i within
      exact fun _ => clear_checkLimit (Bool.eq_false_iff.mpr within)

/-- A settled result that is a success leaves the limits clear. -/
theorem clear_settleResult {meter : Meter} (clear : result.result.isOk = true → meter.limit.Clear)
    (succeeds : (settleResult config isCreate result meter).2.result.isOk = true) :
    (settleResult config isCreate result meter).1.limit.Clear := by
  refine clear_afterFrameRunInstructions (fun isCall succeeds => ?_) succeeds
  subst isCall
  rw [deposits_call]
  exact clear succeeds

variable {processed : FrameResult}

/-- The engine makes no success of a result that is none. -/
theorem isOk_of_processes (processes : Processes config isCreate result processed)
    (succeeds : processed.instructionResult.isOk = true) : result.result.isOk = true := by
  rw [Processes] at processes
  split at processes
  · obtain ⟨_, made⟩ := processes
    split at made
    · rename_i deposits
      simp only [willReturnCreateChargeCodeDeposit, Bool.and_eq_true] at deposits
      exact deposits.1.1.1
    · obtain ⟨_, status⟩ := made
      split at status
      · assumption
      · rw [← status]
        exact succeeds
  · rw [processes] at succeeds
    exact succeeds

/-- Processing costs nothing that is recorded: a create was recorded before, and a call is handed on
as it is. -/
theorem free_of_processes (rex5 : config.spec.isEnabled .rex5 = true)
    (processes : Processes config isCreate result processed) :
    ∀ before ∈ (if recordsProcessing config processed then some result.gas.remaining else none),
      before = processed.gas.remaining := by
  intro before recorded
  rw [Processes] at processes
  split at processes
  · rw [recordsProcessing, rex5, processes.1] at recorded
    cases recorded
  · rw [processes] at recorded ⊢
    simp only [recordsProcessing, FrameResult.isCreate, Bool.and_false, Bool.not_false, if_true,
      Option.mem_def, Option.some.injEq] at recorded
    exact recorded.symm

/-- A processed result is a success only on clear limits, and committed exactly then. -/
theorem informed_afterProcess {committed : Bool} (rex5 : config.spec.isEnabled .rex5 = true)
    (processes : Processes config isCreate result processed)
    (commits : committed = processed.instructionResult.isOk)
    (clear : result.result.isOk = true → state.meter.limit.Clear) :
    (state.afterProcess config result processed committed).phase.Informed
      (state.afterProcess config result processed committed).meter.limit state.frames := by
  have free := free_of_processes rex5 processes
  show Outcome.Agrees _ ∧ _
  cases succeeds : processed.instructionResult.isOk with
  | false =>
    have failed := state.meter.limit.isOk_afterFrameRun succeeds
      (if recordsProcessing config processed then some result.gas.remaining else none)
    exact ⟨(commits.trans succeeds).trans failed.symm,
      fun impossible => nomatch failed.symm.trans impossible⟩
  | true =>
    have stillClear := clear (isOk_of_processes processes succeeds)
    simp only [afterProcess, stillClear.afterFrameRun_eq processed free]
    exact ⟨commits, fun _ => stillClear⟩

/-! ### Transitions -/

/-- The rules of the engine on which the outcomes of frames rest. -/
def TellsOutcomes (config : EvmConfig) (state : Execution) (event : Event) : Prop :=
  CommitsResults config state event ∧ ProcessesResults config state event ∧
    RunsPrecompiles config state event ∧ PassesCalls event

instance (config : EvmConfig) (state : Execution) (event : Event) :
    Decidable (TellsOutcomes config state event) :=
  inferInstanceAs (Decidable (_ ∧ _))

theorem isOk_tooDeep {init : FrameInit} {result : FrameResult}
    (deep : tooDeep config init = some result) : result.instructionResult.isOk = false := by
  rw [tooDeep] at deep
  split at deep
  · split at deep
    · rw [← Option.some.inj deep]
      rfl
    · cases deep
  · cases deep

theorem informed_transition (rex5 : config.spec.isEnabled .rex5 = true) (aligned : state.Aligned)
    (detainable : Detainable state.meter.limit.setup) (tells : TellsOutcomes config state event)
    (informed : state.Informed) (moves : Transition config state event next) : next.Informed := by
  obtain ⟨commits, processes, precompiles, passes⟩ := tells
  cases moves with
  | newTx | firstFrame => exact ⟨nofun, trivial⟩
  | outOfInitialGas isCreate executes old =>
    exact nomatch old.symm.trans rex5
  | refused =>
    refine ⟨informed.suspended, ?_, rfl⟩
    exact (congrArg isOk
      (instructionResult_exceededLimitResult _ _)).trans
        (isOk_exceeding _)
  | tooDeep cap init starts admitted result deep =>
    exact ⟨informed.suspended, isOk_tooDeep deep, rfl⟩
  | answers | keyless => exact (passes _ rfl).elim
  | keylessCallerUnpaid _ _ deploys | keylessCaller _ _ deploys | keylessAnswer _ _ _ deploys
  | keylessMerge _ _ _ _ deploys =>
    exact (informed.at deploys).elim
  | keylessReject gas cause halted => exact (informed.at halted).elim
  | reply outcome replies =>
    obtain ⟨failed, uncommitted⟩ := informed.at replies
    refine ⟨informed.suspended, informed_answer (uncommitted.trans failed.symm) ?_ _⟩
    exact fun succeeds => nomatch failed.symm.trans succeeds
  | admitStopped journal init admits growth grown exceeded =>
    have failed := (congrArg isOk
      (instructionResult_exceededLimitResult
        (state.meter.limit.pushedFrame init growth).checkLimit
        (state.meter.limit.grantedInit init).input)).trans (isOk_exceeding _)
    refine ⟨informed.suspended, informed_answer ?_ ?_ _⟩
    · exact failed.symm
    · exact fun succeeds => nomatch failed.symm.trans succeeds
  | admitted journal init admits growth grown within =>
    exact ⟨informed.suspended, clear_checkLimit within⟩
  | madeFrame => exact ⟨informed.suspended, fun _ => nofun⟩
  | madeResult result committed init makes =>
    have clear : state.meter.limit.Clear := informed.at makes
    have agrees : Outcome.Agrees { result, committed } := commits.1 _ rfl init (makes ▸ rfl)
    refine ⟨informed.suspended, informed_answer agrees ?_ _⟩
    intro succeeds
    show (state.meter.limit.tryRescueGas result.gas).Clear
    rw [clear.tryRescueGas_eq]
    exact clear
  | madePrecompile isKzg run committed init makes =>
    have clear : state.meter.limit.Clear := informed.at makes
    have agrees : Outcome.Agrees
        { result := .call (state.precompileResult config init run), committed } :=
      commits.1 _ rfl init (makes ▸ rfl)
    have runs := precompiles _ rfl init (makes ▸ rfl)
    exact ⟨informed.suspended, informed_answer agrees
      (fun _ => (limit_afterPrecompile rex5 clear runs isKzg committed).2) _⟩
  | runStopped =>
    exact ⟨informed.suspended, fun succeeds =>
      nomatch (isOk_exceeding _).symm.trans succeeds⟩
  | runGoes frame runs within =>
    exact ⟨informed.suspended, clear_checkLimit within, informed.at runs within⟩
  | execute instruction frame interprets =>
    obtain ⟨clear, told⟩ := informed.at interprets
    exact informed_afterInstruction informed.suspended told
      (@clear_execute { meter := state.meter, gas := frame.gas, action := none } detainable clear
        config.spec instruction)
  | startChild frame input stops =>
    exact ⟨List.forall_mem_cons.mpr ⟨(informed.at stops).2, informed.suspended⟩, trivial⟩
  | settled frame result stops =>
    exact ⟨informed.suspended, clear_settleResult (informed.at stops)⟩
  | processed processed committed frame result settles =>
    have processing : Processes config frame.isCreate result processed :=
      processes (processed, committed) rfl (frame, result) (settles ▸ rfl)
    exact ⟨informed.suspended, informed_afterProcess rex5 processing (commits.2 _ rfl)
      (informed.at settles)⟩
  | popped outcome returns =>
    obtain ⟨agrees, clear⟩ := informed.at returns
    refine ⟨informed.suspended, fun clearAfter => ?_, fun outermost => ?_⟩
    · have told := AdditionalLimit.Clear.isOk_beforeFrameReturnResult clear clearAfter
      show _ = true ↔ outcome.committed = true ∧ outcome.result.instructionResult.isOk = true
      rw [agrees, and_self]
      exact Eq.congr_left told
    · have last := aligned.at returns nofun
      rw [show state.frames = [] from outermost] at last
      have pops : state.meter.limit.PopsFrame false := nofun
      exact agrees.trans (isOk_beforeFrameReturnResult_last clear pops last).symm
  | delivered parentGas delivery parent below delivers suspended =>
    have told := (informed.at delivers).1
    have frames := informed.suspended
    rw [suspended] at frames
    refine ⟨fun frame member => frames frame (List.mem_cons_of_mem parent member), fun clear => ?_⟩
    exact List.forall_mem_cons.mpr ⟨told clear, frames parent List.mem_cons_self⟩
  | deliveredLast parentGas delivery delivers suspended =>
    exact ⟨informed.suspended, (informed.at delivers).2 suspended⟩
  | finishedAnswer gas outcome answers =>
    obtain ⟨agrees, clear⟩ := informed.at answers
    have last := aligned.at answers nofun
    rw [aligned.outermost (answers ▸ rfl)] at last
    have pops : state.meter.limit.PopsFrame true := fun _ => last.hasActiveFrame
    have told := isOk_beforeFrameReturnResult_last clear pops last
    refine ⟨informed.suspended, ?_⟩
    exact (agrees.trans told.symm).trans (congrArg isOk (instructionResult_setGas _ _)).symm
  | finished gas outcome returns =>
    have agrees : outcome.Agrees := informed.at returns
    refine ⟨informed.suspended, agrees.trans ?_⟩
    show _ = (setGas _ _).instructionResult.isOk
    rw [instructionResult_setGas,
      beforeFrameReturnResult_of_not_pops (aligned.inactive returns),
      instructionResult_burnedResult]
  | rewarded credited outcome ends rex6 => exact ⟨informed.suspended, informed.at ends⟩
  | _ => exact ⟨informed.suspended, trivial⟩

/-! ### Runs -/

theorem informed_of_run {limits : EvmTxRuntimeLimits} {events : List Event}
    (rex5 : config.spec.isEnabled .rex5 = true) (fits : limits.txComputeGasLimit ≤ u64Max)
    (tells : Library.StepsMeet (step config) (TellsOutcomes config) (initial config limits) events)
    (ran : Reaches config limits events state) : state.Informed := by
  refine Library.reached_invariant_of_meets ?_ ?_ tells ran
  · intro state event next reached informed tells stepped
    obtain ⟨_, ran⟩ := reached
    exact informed_transition rex5 (aligned_of_run ran)
      (detainable_of_run (MegaSpecId.rex4_of_rex5 rex5) fits ran) tells informed
      (transition_of_step stepped)
  · exact ⟨fun frame member => absurd member List.not_mem_nil, trivial⟩

/-- A frame that executes an instruction was told the truth about every child that returned to it,
and the transaction ends with success exactly if its first frame was committed. -/
theorem outcomes_truthful {limits : EvmTxRuntimeLimits} {events : List Event} {state : Execution}
    (rex5 : config.spec.isEnabled .rex5 = true) (fits : limits.txComputeGasLimit ≤ u64Max)
    (tells : Library.StepsMeet (step config) (TellsOutcomes config) (initial config limits) events)
    (ran : Library.run (step config) (initial config limits) events = some state) :
    (∀ frame instruction next, state.phase = .interpreting frame →
      step config state (.execute instruction) = some next →
        ∀ delivery ∈ frame.children, delivery.Truthful) ∧
      ∀ outcome, state.phase = .ended outcome →
        (outcome.result.instructionResult.isOk = true ↔ outcome.committed = true) := by
  have informed := informed_of_run rex5 fits tells ran
  refine ⟨fun frame instruction next interprets _ => (informed.at interprets).2, ?_⟩
  intro outcome ended
  have agrees : outcome.Agrees := informed.at ended
  rw [agrees]

theorem outcomes_truthful_returned :
    ∃ (state : Execution) (frame : EngineFrame),
      Library.run (step rex6Config) (initial rex6Config roomyLimits) returnedRun = some state ∧
      state.phase = .interpreting frame ∧ frame.children.length = 1 ∧
      ∀ delivery ∈ frame.children, delivery.Truthful :=
  ⟨_, _, rfl, rfl, rfl,
    (@outcomes_truthful rex6Config roomyLimits returnedRun _ rfl (by decide) (by decide) rfl).1 _
      (.plain { remaining := 28000, action := none }) _ rfl rfl⟩

end Execution

end MegaEvm
