/-
This file proves that the frame loop keeps the stacks of the limits aligned with its
frames: at every point each tracker holds one frame for every frame of the engine and
for the result on its way. A frame start that is answered without a frame pushes an
empty one for this reason.
-/

import MegaEvm.Evm.Setup

namespace MegaEvm

open AdditionalLimit

/-! ### Phases -/

namespace Phase

/-- The frames the trackers hold besides those of the suspended frames. -/
def opened : Phase → Nat
  | making _ | running _ | interpreting _ | stopped _ _ | settled _ _ | returning _
  | answered _ => 1
  | _ => 0

/-- No frame is suspended. -/
def isOutermost : Phase → Bool
  | idle | started | validating | preExecution | execution | keyless _ | keylessHalted _ _
  | answered _ | returned _ | ended _ => true
  | _ => false

/-- The frame that is being started. -/
def init? : Phase → Option FrameInit
  | frameInit init | intercepting init | admitting init | making init => some init
  | _ => none

end Phase

namespace Execution

/-- The trackers hold one frame for every frame that was started and has not returned. -/
structure Aligned (state : Execution) : Prop where
  height : state.phase = .failed ∨
    state.meter.limit.AtHeight (state.frames.length + state.phase.opened)
  outermost : state.phase.isOutermost = true → state.frames = []
  depth : ∀ init, state.phase.init? = some init → init.depth = state.frames.length

/-! ### Hooks -/

variable (height : Nat) {limit : AdditionalLimit}

/-- Most hooks leave the height of the stacks as it is. -/
theorem atHeight_hooks : HookInvariant fun meter => meter.limit.AtHeight height :=
  hooks_of_moves fun moves aligned => moves.atHeight aligned

theorem atHeight_start : StartInvariant fun meter => meter.limit.AtHeight height :=
  start_of_moves fun moves aligned => moves.atHeight aligned

theorem atHeight_opcodes : OpcodeInvariant fun meter => meter.limit.AtHeight height :=
  opcodes_of_moves fun moves aligned => moves.atHeight aligned

theorem atHeight_rescueKeyless {height : Nat} (aligned : limit.AtHeight height) (config : EvmConfig)
    (gas : Gas) (cause : KeylessExceed) :
    (rescueKeyless config gas cause limit).AtHeight height := by
  cases cause with
  | overhead =>
    simp only [rescueKeyless]
    split
    · exact aligned.tryRescueGas gas
    · exact aligned
  | overflow => exact { aligned with }

theorem atHeight_recordRewards {height : Nat} (aligned : limit.AtHeight height)
    (credited : List Bool) : (credited.foldl recordReward limit).AtHeight height := by
  induction credited generalizing limit with
  | nil => exact aligned
  | cons created rest inductionHypothesis =>
    refine inductionHypothesis { aligned with stateGrowth := ?_ }
    cases created with
    | true | false => exact aligned.stateGrowth

/-! ### Transitions -/

section Transitions

variable {config : EvmConfig} {state next : Execution} {event : Event}

theorem Aligned.at (aligned : state.Aligned) {phase : Phase} (inPhase : state.phase = phase)
    (goesOn : phase ≠ .failed) :
    state.meter.limit.AtHeight (state.frames.length + phase.opened) := by
  obtain failed | height := aligned.height
  · exact absurd (inPhase.symm.trans failed) goesOn
  · exact inPhase ▸ height

/-- When the first frame has returned, no tracker holds a frame. -/
theorem Aligned.inactive (aligned : state.Aligned) {outcome : Outcome}
    (returned : state.phase = .returned outcome) :
    state.meter.limit.dataSize.hasActiveFrame = false := by
  have height := aligned.at returned nofun
  rw [aligned.outermost (returned ▸ rfl)] at height
  exact Bool.eq_false_iff.mpr fun active =>
    absurd height.dataSize
      (Nat.pos_iff_ne_zero.mp ((FrameLimitTracker.hasActiveFrame_iff _).mp active))

/-- A step outside the frames. -/
theorem Aligned.outside (aligned : state.Aligned) {phase : Phase} (inPhase : state.phase = phase)
    (outermost : phase.isOutermost = true) (closed : phase.opened = 0)
    (stays : next.phase.opened = 0) (starts : next.phase.init? = none)
    (frames : next.frames = state.frames)
    (keeps : ∀ {height}, state.meter.limit.AtHeight height → next.meter.limit.AtHeight height) :
    next.Aligned := by
  have goesOn : phase ≠ .failed := by
    rintro rfl
    exact Bool.false_ne_true outermost
  have height := keeps (aligned.at inPhase goesOn)
  rw [closed] at height
  refine ⟨Or.inr ?_, fun _ => frames.trans (aligned.outermost (inPhase ▸ outermost)), ?_⟩
  · rw [frames, stays]
    exact height
  · rw [starts]
    exact nofun

/-- A result that is not from a frame of the engine is answered with its frame pushed. -/
theorem aligned_answer (state : Execution) (meter : Meter) (outcome : Outcome)
    (height : meter.limit.AtHeight (state.frames.length + 1)) :
    { state with meter, phase := state.answer outcome }.Aligned := by
  rw [answer]
  cases empty : state.frames.isEmpty with
  | true =>
    refine ⟨Or.inr height, fun _ => List.isEmpty_iff.mp empty, fun init starts => ?_⟩
    cases starts
  | false =>
    refine ⟨Or.inr height, fun impossible => ?_, fun init starts => ?_⟩
    · cases impossible
    · cases starts

theorem aligned_continueKeyless (meter : Meter) (gas : Gas)
    (height : meter.limit.AtHeight state.frames.length) (outermost : state.frames = []) :
    (state.continueKeyless meter gas).Aligned := by
  rw [continueKeyless]
  split
  · exact ⟨Or.inr ((atHeight_hooks _).check height), fun _ => outermost, (by rintro _ ⟨⟩)⟩
  · exact ⟨Or.inr ((atHeight_hooks _).check height), fun _ => outermost, (by rintro _ ⟨⟩)⟩

theorem aligned_startKeyless (config : EvmConfig) {init : FrameInit}
    (height : state.meter.limit.AtHeight state.frames.length) (outermost : state.frames = []) :
    (startKeyless config state init).Aligned := by
  have kept := (atHeight_hooks state.frames.length).startKeyless config height init
  obtain ⟨next, equation, started⟩ := keylessStart config state init
  rw [equation] at kept ⊢
  cases started with
  | unpaid | reverted => exact ⟨Or.inr kept, nofun, nofun⟩
  | unmetered | metered => exact ⟨Or.inr kept, fun _ => outermost, nofun⟩
  | halted =>
    exact ⟨Or.inr kept, fun _ => outermost, nofun⟩
  | panicked => exact ⟨Or.inl rfl, nofun, nofun⟩

theorem aligned_afterInstruction {frame : EngineFrame} {ran : Interpreter}
    (height : ran.meter.limit.AtHeight (state.frames.length + 1)) :
    (state.afterInstruction frame ran).Aligned := by
  rw [afterInstruction]
  cases ran.action with
  | none | some => exact ⟨Or.inr height, nofun, nofun⟩

/-- The stacks stay aligned with the frames. -/
theorem aligned_transition (aligned : state.Aligned) (moves : Transition config state event next) :
    next.Aligned := by
  cases moves with
  | newTx tx between =>
    exact ⟨Or.inr ((moves_beforeTxStart _ tx).atHeight (atHeight_reset _)), fun _ => rfl, nofun⟩
  | exemption systemOriginated cap starts =>
    exact aligned.outside starts rfl rfl rfl rfl rfl fun height =>
      (atHeight_start _).exempt config systemOriginated cap height fun _ => { height with }
  | validate applied cap initialGas createsCaller validates =>
    exact aligned.outside validates rfl rfl rfl rfl rfl
      ((atHeight_start _).validated config applied cap initialGas createsCaller)
  | systemCall validates => exact aligned.outside validates rfl rfl rfl rfl rfl id
  | authorityCreations amount prepares =>
    exact aligned.outside prepares rfl rfl rfl rfl rfl
      (moves_onRex5Eip7702AuthorityCreations _ amount).atHeight
  | preExecution amount prepares => exact aligned.outside prepares rfl rfl rfl rfl rfl id
  | outOfInitialGas isCreate executes old =>
    exact aligned.outside executes rfl rfl rfl rfl rfl id
  | firstFrame input executes =>
    have height := aligned.at executes nofun
    rw [aligned.outermost (executes ▸ rfl)] at height
    exact ⟨Or.inr height, fun _ => rfl, fun init starts => Option.some.inj starts ▸ rfl⟩
  | refused cap init starts rex4 exceeded =>
    have height := aligned.at starts nofun
    have detained := (atHeight_hooks _).detainOracle config cap height
    exact ⟨Or.inr (detained.tryRescueGas _), nofun, nofun⟩
  | tooDeep cap init starts admitted result deep =>
    have height := aligned.at starts nofun
    exact ⟨Or.inr ((atHeight_hooks _).detainOracle config cap height), nofun, nofun⟩
  | entered cap init starts admitted =>
    have height := aligned.at starts nofun
    have depth := aligned.depth init (starts ▸ rfl)
    exact ⟨Or.inr ((atHeight_hooks _).detainOracle config cap height), nofun,
      fun other same => Option.some.inj same ▸ depth⟩
  | passes interception init starts =>
    have height := aligned.at starts nofun
    have depth := aligned.depth init (starts ▸ rfl)
    exact ⟨Or.inr height, nofun, fun other same => Option.some.inj same ▸ depth⟩
  | hint length init starts rex5 =>
    have height := aligned.at starts nofun
    have depth := aligned.depth init (starts ▸ rfl)
    exact ⟨Or.inr ((moves_recordOracleHintBytes _ length).atHeight height), nofun,
      fun other same => Option.some.inj same ▸ depth⟩
  | answers result init starts =>
    have height := aligned.at starts nofun
    exact ⟨Or.inr height, nofun, nofun⟩
  | keyless init starts first =>
    have height := aligned.at starts nofun
    have outermost : state.frames = [] :=
      List.length_eq_zero_iff.mp ((aligned.depth init (starts ▸ rfl)).symm.trans first)
    exact aligned_startKeyless config height outermost
  | keylessCallerUnpaid _ _ deploys | keylessAnswer _ _ _ deploys =>
    have height := aligned.at deploys nofun
    exact ⟨Or.inr height, nofun, nofun⟩
  | keylessCaller storageGas gas deploys rex5 left paid =>
    have height := aligned.at deploys nofun
    have outermost := aligned.outermost (deploys ▸ rfl)
    exact aligned_continueKeyless _ _ ((atHeight_start _).caller height) outermost
  | keylessMerge usage reservation gasUsed gas deploys rex5 reserved paid =>
    have height := aligned.at deploys nofun
    have outermost := aligned.outermost (deploys ▸ rfl)
    exact aligned_continueKeyless _ _ ((moves_mergeUsage _ usage).atHeight height) outermost
  | keylessReject gas cause halted =>
    have height := aligned.at halted nofun
    exact ⟨Or.inr (atHeight_rescueKeyless height config gas cause), nofun, nofun⟩
  | reply outcome replies =>
    have height := aligned.at replies nofun
    exact aligned_answer state _ outcome ((moves_pushEmptyFrame _).atHeight height)
  | admitFailed | fail => exact ⟨Or.inl rfl, nofun, nofun⟩
  | admitStopped journal init admits growth grown exceeded =>
    have height := aligned.at admits nofun
    exact aligned_answer state _ _
      (((moves_pushedFrame grown).check.atHeight height).tryRescueGas _)
  | admitted journal init admits growth grown within =>
    have height := aligned.at admits nofun
    have depth := aligned.depth init (admits ▸ rfl)
    have pushed := (moves_pushedFrame grown).check.atHeight height
    exact ⟨Or.inr pushed, nofun, fun other same =>
      Option.some.inj same ▸ (state.meter.limit.depth_grantedInit init).trans depth⟩
  | madeFrame created init makes =>
    have height := aligned.at makes nofun
    have made := (moves_afterFrameInit _
      (if init.input.isCreate then some created else none)).atHeight height
    exact ⟨Or.inr made, nofun, nofun⟩
  | madeResult result committed init makes =>
    have height := aligned.at makes nofun
    exact aligned_answer state _ _ (height.tryRescueGas _)
  | madePrecompile isKzg run committed init makes =>
    have height := aligned.at makes nofun
    exact aligned_answer state _ _ (((moves_recordComputeGas _ _).atHeight height).tryRescueGas _)
  | runStopped _ runs | runGoes _ runs =>
    have height := aligned.at runs nofun
    exact ⟨Or.inr ((atHeight_hooks _).check height), nofun, nofun⟩
  | execute instruction frame interprets =>
    have height := aligned.at interprets nofun
    exact aligned_afterInstruction (@OpcodeInvariant.execute _ (atHeight_opcodes _)
      { meter := state.meter, gas := frame.gas, action := none } height config.spec instruction)
  | startChild frame input stops =>
    have height := aligned.at stops nofun
    exact ⟨Or.inr height, nofun, fun init starts => Option.some.inj starts ▸ rfl⟩
  | settled frame result stops =>
    have height := aligned.at stops nofun
    have settles := (atHeight_hooks _).settleResult config height frame.isCreate result
    exact ⟨Or.inr settles, nofun, nofun⟩
  | processed processed committed frame result settles =>
    have height := aligned.at settles nofun
    exact ⟨Or.inr (height.afterFrameRun processed _), nofun, nofun⟩
  | popped outcome returns =>
    have height := aligned.at returns nofun
    exact ⟨Or.inr ((moves_beforeFrameReturnResult ..).atHeight height), nofun, nofun⟩
  | delivered parentGas delivery parent below delivers suspended =>
    have height := aligned.at delivers nofun
    rw [suspended] at height
    exact ⟨Or.inr height, nofun, nofun⟩
  | deliveredLast parentGas delivery delivers suspended =>
    have height := aligned.at delivers nofun
    exact ⟨Or.inr height, fun _ => suspended, nofun⟩
  | finishedAnswer gas outcome answers =>
    have height := aligned.at answers nofun
    have outermost := aligned.outermost (answers ▸ rfl)
    exact ⟨Or.inr ((moves_beforeFrameReturnResult ..).atHeight height),
      fun _ => outermost, nofun⟩
  | finished gas outcome returns =>
    have height := aligned.at returns nofun
    have outermost := aligned.outermost (returns ▸ rfl)
    rw [outermost] at height
    have popped := (moves_beforeFrameReturnResult _ true outcome.result).atHeight
      height
    exact ⟨Or.inr (outermost ▸ popped), fun _ => outermost, nofun⟩
  | rewarded credited outcome ends rex6 =>
    exact aligned.outside ends rfl rfl rfl rfl rfl fun height =>
      atHeight_recordRewards height credited

theorem aligned_initial (config : EvmConfig) (limits : EvmTxRuntimeLimits) :
    (initial config limits).Aligned :=
  ⟨Or.inr (atHeight_new _ _), fun _ => rfl, nofun⟩

/-- In every reachable state the stacks are aligned with the frames. -/
theorem aligned_of_run {limits : EvmTxRuntimeLimits} {events : List Event}
    (ran : Reaches config limits events state) : state.Aligned :=
  Library.run_invariant
    (fun _ _ _ aligned stepped => aligned_transition aligned (transition_of_step stepped))
    (aligned_initial config limits) ran

/-! ### The stacks of the trackers -/

/-- The frames that were initialised and have not returned: the suspended ones, and the one that is
being made, runs or returns. -/
def liveFrames (state : Execution) : Nat :=
  state.frames.length + state.phase.opened

/-- Every pop of a frame that is not the last result finds one on each stack. -/
structure CanPop (limit : AdditionalLimit) : Prop where
  stateGrowth : limit.stateGrowth.frameTracker.hasActiveFrame = true
  dataSize : limit.dataSize.frameTracker.hasActiveFrame = true
  kvUpdate : limit.kvUpdate.frameTracker.hasActiveFrame = true
  computeGas : limit.computeGas.frameTracker.hasActiveFrame = true
  storageCallStipend : limit.storageCallStipend.stack.isEmpty = false

theorem canPop_of_atHeight {height : Nat} (aligned : limit.AtHeight (height + 1)) :
    CanPop limit := by
  have active {Info : Type} {tracker : FrameLimitTracker Info}
      (high : tracker.height = height + 1) : tracker.hasActiveFrame = true := by
    rw [FrameLimitTracker.hasActiveFrame_iff, high]
    exact Nat.succ_pos height
  refine ⟨active aligned.stateGrowth, active aligned.dataSize, active aligned.kvUpdate,
    active aligned.computeGas, ?_⟩
  rw [List.isEmpty_eq_false_iff_exists_mem]
  exact List.exists_mem_of_length_pos (aligned.storageCallStipend ▸ Nat.succ_pos height)

/-- The five stacks always have one entry for each frame that was initialised and has not returned.
No pop finds an empty stack, and the last result leaves all of them empty. -/
theorem stacks_aligned {limits : EvmTxRuntimeLimits} {events : List Event}
    (ran : Library.run (step config) (initial config limits) events = some state)
    (alive : state.phase ≠ .failed) :
    state.meter.limit.AtHeight state.liveFrames ∧
      (∀ next, step config state .popResult = some next → CanPop state.meter.limit) ∧
      ∀ gas next, step config state (.lastFrameResult gas) = some next →
        next.meter.limit.AtHeight 0 := by
  have aligned := aligned_of_run ran
  refine ⟨aligned.height.resolve_left alive, ?_, ?_⟩
  · intro next stepped
    cases transition_of_step stepped with
    | popped outcome returns =>
      exact canPop_of_atHeight (aligned.at returns nofun)
  · intro gas next stepped
    have alignedNext := aligned_transition aligned (transition_of_step stepped)
    cases transition_of_step stepped with
    | finishedAnswer | finished =>
      have atHeight := alignedNext.height.resolve_left nofun
      rwa [alignedNext.outermost rfl] at atHeight

/-! ### Transactions to run -/

/-- A transaction that calls an account without data or value. -/
def plainTx : MegaTransaction where
  caller := 1
  kind := .call 2
  value := 0
  gasLimit := 100000
  inputLength := 0
  accessListSizes := []
  authorities := []
  initialGas := 21000

def plainCall : FrameInput :=
  .call
    { caller := 1, targetAddress := 2, value := .transfer 0, scheme := .call, gasLimit := 40000 }

def rex6Config : EvmConfig where
  spec := .rex6
  metered := by decide
  maxCodeSize := 24576
  eip3541Disabled := false

/-- Limits that a few small frames stay within. -/
def roomyLimits : EvmTxRuntimeLimits where
  txDataSizeLimit := 10000
  txKvUpdatesLimit := 100
  txComputeGasLimit := 1000000
  txStateGrowthLimit := 100
  blockEnvAccessComputeGasLimit := 1000000
  oracleAccessComputeGasLimit := 1000000

def emptyJournal : JournalInspect :=
  World.inspect fun _ => .ofInfo .default

/-- A transaction up to its first frame. -/
def preparedRun : List Event :=
  [.newTx plainTx, .exemption false none, .validate [] none 21000 false, .preExecution 0]

/-- How a frame starts. -/
def frameStart : List Event :=
  [.enterFrame none, .intercept .passes, .beforeInit emptyJournal, .make (.frame 0), .beginRun]

/-- A transaction up to the first instruction of its first frame. -/
def startedRun : List Event :=
  preparedRun ++ .firstFrame plainCall :: frameStart

/-- A call, and the gas that it leaves to its frame. -/
def innerCall (targetAddress : Address) (value : U256) (gasLimit remaining : Nat) : Instruction :=
  .call .call { disabled := none, computeGasLimit := none } value none none
    { remaining
      action := some
        (.newFrame (.call { caller := 2, targetAddress, value := .transfer value, scheme := .call,
                            gasLimit })) }

/-- How a frame starts a child that is run. -/
def childStart (instruction : Instruction) : List Event :=
  [.execute instruction, .settle] ++ frameStart

/-- A result without output. -/
def emptyResult (result : InstructionResult) (gas : Gas) : InterpreterResult :=
  { result, output := .empty, gas }

/-- How a frame returns a result. -/
def frameEnd (result : InterpreterResult) (committed : Bool) : List Event :=
  [.execute (.plain
      { remaining := result.gas.remaining, action := some (.returnResult result) }),
    .settle, .process (.call result) committed]

/-- A call without value that forwards ten thousand gas. -/
def plainInnerCall : Instruction :=
  innerCall 3 0 10000 20000

/-- A frame whose child was called, ran, and returned to it. -/
def returnedRun : List Event :=
  startedRun ++ childStart plainInnerCall ++ frameEnd (emptyResult .stop ⟨10000, 9000, 0⟩) true ++
    [.popResult, .deliver ⟨40000, 29000, 0⟩, .beginRun]

theorem stacks_aligned_returned :
    ∃ state : Execution,
      Library.run (step rex6Config) (initial rex6Config roomyLimits) returnedRun = some state ∧
      state.liveFrames = 1 ∧ state.meter.limit.AtHeight 1 :=
  ⟨_, rfl, rfl, (@stacks_aligned rex6Config _ roomyLimits returnedRun rfl nofun).1⟩

end Transitions

end Execution

end MegaEvm
