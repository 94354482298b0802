/-
This file lists the transitions of the frame loop: one for each way a step can go, with
the phase it starts from and the state it leads to. Every step is one of them, so that
an invariant of the loop is a case analysis over this list and no proof unfolds the
steps again.

Some transitions call several hooks of the limits in a row. What all of these hooks keep,
the whole transition keeps, and the rules for that are stated once.
-/

import MegaEvm.Evm.FrameLoop
import MegaEvm.Limit.Verdict

namespace MegaEvm

open AdditionalLimit

namespace Execution

/-- A transition of the frame loop from one state to the next, at an event. -/
inductive Transition (config : EvmConfig) (state : Execution) : Event → Execution → Prop
  | newTx (tx : MegaTransaction)
      (between : state.phase = .idle ∨ (∃ outcome, state.phase = .ended outcome) ∨
        state.phase = .failed) :
      Transition config state (.newTx tx)
        { state.go (fun limit => limit.reset.beforeTxStart tx) .started with
          frames := []
          gasLimit := tx.gasLimit }
  | exemption (systemOriginated : Bool) (cap : Option Nat) (starts : state.phase = .started) :
      Transition config state (.exemption systemOriginated cap)
        (state.go (exempt config systemOriginated cap) .validating)
  | validate (applied : List Bool) (cap : Option Nat) (initialGas : Nat) (createsCaller : Bool)
      (validates : state.phase = .validating) :
      Transition config state (.validate applied cap initialGas createsCaller)
        { state with
          meter := state.validated config applied cap initialGas createsCaller
          phase := .preExecution }
  | systemCall (validates : state.phase = .validating) :
      Transition config state .systemCall { state with phase := .execution }
  | authorityCreations (amount : Nat) (prepares : state.phase = .preExecution) :
      Transition config state (.preExecution amount)
        (state.go (·.onRex5Eip7702AuthorityCreations amount) .execution)
  | preExecution (amount : Nat) (prepares : state.phase = .preExecution) :
      Transition config state (.preExecution amount) { state with phase := .execution }
  | outOfInitialGas (isCreate : Bool) (executes : state.phase = .execution)
      (old : config.spec.isEnabled .rex5 = false) :
      Transition config state (.outOfInitialGas isCreate)
        { state with
          phase := .ended
            { result := oogFrameResult isCreate (.new state.gasLimit), committed := false } }
  | firstFrame (input : FrameInput) (executes : state.phase = .execution) :
      Transition config state (.firstFrame input)
        { state with
          meter := { state.meter with charges := [], storageCharged := 0 }
          frames := []
          phase := .frameInit { depth := 0, input }
          firstGas := input.gasLimit
          stipends := 0 }
  | refused (cap : Option Nat) (init : FrameInit) (starts : state.phase = .frameInit init)
      (rex4 : config.spec.isEnabled .rex4 = true)
      (exceeded : (detainOracle config cap state.meter.limit).limitExceeded = true) :
      Transition config state (.enterFrame cap)
        (state.go
          (fun limit => (detainOracle config cap limit).tryRescueGas (.new init.input.gasLimit))
          (.replying
            { result := (detainOracle config cap state.meter.limit).exceededLimitResult init.input
              committed := false }))
  | tooDeep (cap : Option Nat) (init : FrameInit) (starts : state.phase = .frameInit init)
      (admitted : config.spec.isEnabled .rex4 = true →
        (detainOracle config cap state.meter.limit).limitExceeded = false)
      (result : FrameResult) (deep : tooDeep config init = some result) :
      Transition config state (.enterFrame cap)
        (state.go (detainOracle config cap) (.replying { result, committed := false }))
  | entered (cap : Option Nat) (init : FrameInit) (starts : state.phase = .frameInit init)
      (admitted : config.spec.isEnabled .rex4 = true →
        (detainOracle config cap state.meter.limit).limitExceeded = false) :
      Transition config state (.enterFrame cap)
        (state.go (detainOracle config cap) (.intercepting init))
  | passes (interception : Interception) (init : FrameInit)
      (starts : state.phase = .intercepting init) :
      Transition config state (.intercept interception) { state with phase := .admitting init }
  | hint (length : Nat) (init : FrameInit) (starts : state.phase = .intercepting init)
      (rex5 : config.spec.isEnabled .rex5 = true) :
      Transition config state (.intercept (.hint length))
        (state.go (·.recordOracleHintBytes length) (.admitting init))
  | answers (result : FrameResult) (init : FrameInit)
      (starts : state.phase = .intercepting init) :
      Transition config state (.intercept (.answers result))
        { state with phase := .replying { result, committed := false } }
  | keyless (init : FrameInit) (starts : state.phase = .intercepting init)
    (first : init.depth = 0) :
      Transition config state (.intercept .keyless) (startKeyless config state init)
  | keylessCallerUnpaid (storageGas : Nat) (gas : Gas) (deploys : state.phase = .keyless gas)
      (unpaid : gas.recordCost storageGas = none) :
      Transition config state (.keylessCaller storageGas)
        { state with
          phase := .replying { result := oogFrameResult false gas, committed := false } }
  | keylessCaller (storageGas : Nat) (gas : Gas) (deploys : state.phase = .keyless gas)
      (rex5 : config.spec.isEnabled .rex5 = true) (left : Gas)
      (paid : gas.recordCost storageGas = some left) :
      Transition config state (.keylessCaller storageGas)
        (state.continueKeyless (state.meter.update (·.recordDepositCallerCreation)) left)
  | keylessMerge (usage : LimitUsage) (reservation gasUsed : Nat) (gas : Gas)
      (deploys : state.phase = .keyless gas) (rex5 : config.spec.isEnabled .rex5 = true)
      (reserved : Gas) (paid : gas.recordCost reservation = some reserved) :
      Transition config state (.keylessMerge usage reservation gasUsed)
        (state.continueKeyless
          { state.meter.update (·.mergeUsage usage) with
            charges := .ofGas usage.computeGas :: state.meter.charges }
          (reserved.eraseCost (reservation - gasUsed)))
  | keylessAnswer (result : InstructionResult) (output : ReturnData) (gas : Gas)
      (deploys : state.phase = .keyless gas) :
      Transition config state (.keylessAnswer result output)
        { state with
          phase := .replying
            { result := .call
                { result, output, gas := if result.isOkOrRevert then gas else gas.spendAll }
              committed := false } }
  | keylessReject (gas : Gas) (cause : KeylessExceed)
      (halted : state.phase = .keylessHalted gas cause) :
      Transition config state .keylessReject
        (state.go (rescueKeyless config gas cause)
          (.replying { result := oogFrameResult false gas, committed := false }))
  | reply (outcome : Outcome) (replies : state.phase = .replying outcome) :
      Transition config state .reply (state.go (·.pushEmptyFrame) (state.answer outcome))
  | admitFailed (journal : JournalInspect) (init : FrameInit)
      (admits : state.phase = .admitting init) :
      Transition config state (.beforeInit journal) { state with phase := .failed }
  | admitStopped (journal : JournalInspect) (init : FrameInit)
      (admits : state.phase = .admitting init) (growth : StateGrowthTracker)
      (grown : state.meter.limit.stateGrowth.beforeFrameInit journal init.input = some growth)
      (exceeded :
        (state.meter.limit.pushedFrame init growth).checkLimit.limitExceeded = true) :
      Transition config state (.beforeInit journal)
        (state.go
          (fun limit => (limit.pushedFrame init growth).checkLimit.tryRescueGas
            (.new (limit.grantedInit init).input.gasLimit))
          (state.answer
            { result :=
                (state.meter.limit.pushedFrame init growth).checkLimit.exceededLimitResult
                  (state.meter.limit.grantedInit init).input
              committed := false }))
  | admitted (journal : JournalInspect) (init : FrameInit)
      (admits : state.phase = .admitting init) (growth : StateGrowthTracker)
      (grown : state.meter.limit.stateGrowth.beforeFrameInit journal init.input = some growth)
      (within :
        (state.meter.limit.pushedFrame init growth).checkLimit.limitExceeded = false) :
      Transition config state (.beforeInit journal)
        (state.go (fun limit => (limit.pushedFrame init growth).checkLimit)
          (.making (state.meter.limit.grantedInit init)))
  | madeFrame (created : Address) (init : FrameInit) (makes : state.phase = .making init) :
      Transition config state (.make (.frame created))
        (state.go
          (·.afterFrameInit (.item (if init.input.isCreate then some created else none)))
          (.running
            { isCreate := init.input.isCreate, gas := .new init.input.gasLimit, children := [] }))
  | madeResult (result : FrameResult) (committed : Bool) (init : FrameInit)
      (makes : state.phase = .making init) :
      Transition config state (.make (.result result committed))
        (state.go (·.tryRescueGas result.gas) (state.answer { result, committed }))
  | madePrecompile (isKzg : Bool) (run : Nat → InterpreterResult) (committed : Bool)
      (init : FrameInit) (makes : state.phase = .making init) :
      Transition config state (.make (.precompile isKzg run committed))
        (state.afterPrecompile config isKzg (state.precompileResult config init run) committed)
  | runStopped (frame : EngineFrame) (runs : state.phase = .running frame)
      (exceeded : state.meter.limit.checkLimit.limitExceeded = true) :
      Transition config state .beginRun
        (state.go (·.checkLimit)
          (.stopped frame
            (.returnResult
              { result := state.meter.limit.checkLimit.exceedingInstructionResult
                output := .limit state.meter.limit.checkLimit.hasExceededLimit.revertData
                gas := frame.gas })))
  | runGoes (frame : EngineFrame) (runs : state.phase = .running frame)
      (within : state.meter.limit.checkLimit.limitExceeded = false) :
      Transition config state .beginRun (state.go (·.checkLimit) (.interpreting frame))
  | execute (instruction : Instruction) (frame : EngineFrame)
      (interprets : state.phase = .interpreting frame) :
      Transition config state (.execute instruction)
        (state.afterInstruction frame
          (instruction.execute config.spec
            { meter := state.meter, gas := frame.gas, action := none }))
  | startChild (frame : EngineFrame) (input : FrameInput)
      (stops : state.phase = .stopped frame (.newFrame input)) :
      Transition config state .settle
        { state with
          frames := frame :: state.frames
          phase := .frameInit { depth := state.frames.length + 1, input }
          stipends := if grantsStipend input then state.stipends + 1 else state.stipends }
  | settled (frame : EngineFrame) (result : InterpreterResult)
      (stops : state.phase = .stopped frame (.returnResult result)) :
      Transition config state .settle
        { state with
          meter := (settleResult config frame.isCreate result state.meter).1
          phase := .settled frame (settleResult config frame.isCreate result state.meter).2 }
  | processed (processed : FrameResult) (committed : Bool) (frame : EngineFrame)
      (result : InterpreterResult) (settles : state.phase = .settled frame result) :
      Transition config state (.process processed committed)
        (state.afterProcess config result processed committed)
  | popped (outcome : Outcome) (returns : state.phase = .returning outcome) :
      Transition config state .popResult (state.afterPop outcome)
  | delivered (parentGas : Gas) (delivery : Delivery) (parent : EngineFrame)
      (below : List EngineFrame) (delivers : state.phase = .delivering delivery)
      (suspended : state.frames = parent :: below) :
      Transition config state (.deliver parentGas)
        { state with
          frames := below
          phase := .running
            { parent with gas := parentGas, children := delivery :: parent.children } }
  | deliveredLast (parentGas : Gas) (delivery : Delivery)
      (delivers : state.phase = .delivering delivery) (suspended : state.frames = []) :
      Transition config state (.deliver parentGas)
        { state with
          phase := .returned { result := delivery.result, committed := delivery.committed } }
  | finishedAnswer (gas : Gas) (outcome : Outcome) (answers : state.phase = .answered outcome) :
      Transition config state (.lastFrameResult gas) (state.finish outcome gas)
  | finished (gas : Gas) (outcome : Outcome) (returns : state.phase = .returned outcome) :
      Transition config state (.lastFrameResult gas) (state.finish outcome gas)
  | rewarded (credited : List Bool) (outcome : Outcome) (ends : state.phase = .ended outcome)
      (rex6 : config.spec.isEnabled .rex6 = true) :
      Transition config state (.reward credited)
        (state.go (fun limit => credited.foldl recordReward limit) (.ended outcome))
  | fail : Transition config state .fail { state with phase := .failed }

/-! ### Every step is a transition -/

section Steps

variable {config : EvmConfig} {state next : Execution}

theorem transition_newTx {tx : MegaTransaction} (stepped : state.newTx tx = some next) :
    Transition config state (.newTx tx) next := by
  unfold newTx at stepped
  split at stepped
  · rename_i phase
    cases stepped
    exact .newTx tx (Or.inl phase)
  · rename_i outcome phase
    cases stepped
    exact .newTx tx (Or.inr (Or.inl ⟨outcome, phase⟩))
  · rename_i phase
    cases stepped
    exact .newTx tx (Or.inr (Or.inr phase))
  · cases stepped

theorem transition_preExecution {amount : Nat}
    (stepped : state.preExecution config amount = some next) :
    Transition config state (.preExecution amount) next := by
  unfold preExecution at stepped
  split at stepped
  · rename_i phase
    split at stepped
    · cases stepped
      exact .authorityCreations amount phase
    · cases stepped
      exact .preExecution amount phase
  · cases stepped

theorem transition_outOfInitialGas {isCreate : Bool}
    (stepped : state.outOfInitialGas config isCreate = some next) :
    Transition config state (.outOfInitialGas isCreate) next := by
  unfold outOfInitialGas at stepped
  split at stepped
  · rename_i phase
    split at stepped
    · cases stepped
    · rename_i old
      cases stepped
      exact .outOfInitialGas isCreate phase (Bool.eq_false_iff.mpr old)
  · cases stepped

/-- A frame that is not refused is checked for its depth and handed on. -/
theorem transition_enterFrame {cap : Option Nat}
    (stepped : state.enterFrame config cap = some next) :
    Transition config state (.enterFrame cap) next := by
  unfold enterFrame at stepped
  split at stepped
  · rename_i init phase
    cases exceeded : (detainOracle config cap state.meter.limit).limitExceeded with
    | true =>
      simp only [frameResultIfExceedingLimit, exceeded, if_true] at stepped
      cases rex4 : config.spec.isEnabled .rex4 with
      | true =>
        rw [rex4] at stepped
        cases stepped
        have refused := Transition.refused cap init phase rex4 exceeded
        rw [← gas_exceededLimitResult (detainOracle config cap state.meter.limit)] at refused
        exact refused
      | false =>
        have admitted : config.spec.isEnabled .rex4 = true →
            (detainOracle config cap state.meter.limit).limitExceeded = false :=
          fun impossible => nomatch rex4.symm.trans impossible
        rw [rex4] at stepped
        dsimp only at stepped
        split at stepped
        · rename_i result deep
          cases stepped
          exact .tooDeep cap init phase admitted result deep
        · cases stepped
          exact .entered cap init phase admitted
    | false =>
      simp only [frameResultIfExceedingLimit, exceeded, Bool.false_eq_true, if_false] at stepped
      split at stepped
      · rename_i impossible
        cases impossible
      · split at stepped
        · rename_i result deep
          cases stepped
          exact .tooDeep cap init phase (fun _ => exceeded) result deep
        · cases stepped
          exact .entered cap init phase (fun _ => exceeded)
  · cases stepped

theorem transition_intercept {interception : Interception}
    (stepped : state.intercept config interception = some next) :
    Transition config state (.intercept interception) next := by
  unfold intercept at stepped
  split at stepped
  · rename_i init phase
    cases interception with
    | passes =>
      cases stepped
      exact .passes .passes init phase
    | hint length =>
      dsimp only at stepped
      split at stepped
      · rename_i rex5
        cases stepped
        exact .hint length init phase rex5
      · cases stepped
        exact .passes (.hint length) init phase
    | answers result =>
      cases stepped
      exact .answers result init phase
    | keyless =>
      dsimp only at stepped
      split at stepped
      · rename_i allowed
        simp only [Bool.and_eq_true, beq_iff_eq] at allowed
        cases stepped
        exact .keyless init phase allowed.1.2
      · cases stepped
  · cases stepped

theorem transition_keylessCaller {storageGas : Nat}
    (stepped : state.keylessCaller config storageGas = some next) :
    Transition config state (.keylessCaller storageGas) next := by
  unfold keylessCaller at stepped
  split at stepped
  · rename_i gas phase
    split at stepped
    · rename_i rex5
      split at stepped
      · rename_i unpaid
        cases stepped
        exact .keylessCallerUnpaid storageGas gas phase unpaid
      · rename_i left paid
        cases stepped
        exact .keylessCaller storageGas gas phase rex5 left paid
    · cases stepped
  · cases stepped

theorem transition_keylessMerge {usage : LimitUsage} {reservation gasUsed : Nat}
    (stepped : state.keylessMerge config usage reservation gasUsed = some next) :
    Transition config state (.keylessMerge usage reservation gasUsed) next := by
  unfold keylessMerge at stepped
  split at stepped
  · rename_i gas phase
    split at stepped
    · rename_i rex5
      rw [Option.map_eq_some_iff] at stepped
      obtain ⟨reserved, paid, rfl⟩ := stepped
      exact .keylessMerge usage reservation gasUsed gas phase rex5 reserved paid
    · cases stepped
  · cases stepped

theorem transition_beforeInit {journal : JournalInspect}
    (stepped : state.beforeInit journal = some next) :
    Transition config state (.beforeInit journal) next := by
  unfold beforeInit at stepped
  split at stepped
  · rename_i init phase
    split at stepped
    · cases stepped
      exact .admitFailed journal init phase
    · rename_i limit admitted result started
      cases stepped
      obtain ⟨growth, grown, rfl, ⟨exceeded, rfl, stopped⟩ | ⟨_, _, impossible⟩⟩ :=
        beforeFrameInit_eq_some started
      · rw [Option.some.inj stopped]
        exact .admitStopped journal init phase growth grown exceeded
      · cases impossible
    · rename_i limit admitted started
      cases stepped
      obtain ⟨growth, grown, rfl, ⟨_, _, impossible⟩ | ⟨within, rfl, _⟩⟩ :=
        beforeFrameInit_eq_some started
      · cases impossible
      · exact .admitted journal init phase growth grown within
  · cases stepped

theorem transition_make {made : Made} (stepped : state.make config made = some next) :
    Transition config state (.make made) next := by
  unfold make at stepped
  split at stepped
  · rename_i init phase
    cases made with
    | frame created =>
      cases stepped
      exact .madeFrame created init phase
    | result result committed =>
      cases stepped
      exact .madeResult result committed init phase
    | precompile isKzg run committed =>
      cases stepped
      exact .madePrecompile isKzg run committed init phase
  · cases stepped

theorem transition_beginRun (stepped : state.beginRun = some next) :
    Transition config state .beginRun next := by
  unfold beginRun at stepped
  split at stepped
  · rename_i frame phase
    cases exceeded : state.meter.limit.checkLimit.limitExceeded with
    | true =>
      simp only [beforeFrameRun, exceeded, if_true] at stepped
      cases stepped
      exact .runStopped frame phase exceeded
    | false =>
      simp only [beforeFrameRun, exceeded, Bool.false_eq_true, if_false] at stepped
      cases stepped
      exact .runGoes frame phase exceeded
  · cases stepped

theorem transition_settle (stepped : state.settle config = some next) :
    Transition config state .settle next := by
  unfold settle at stepped
  split at stepped
  · rename_i frame input phase
    cases stepped
    exact .startChild frame input phase
  · rename_i frame result phase
    cases stepped
    exact .settled frame result phase
  · cases stepped

theorem transition_deliver {parentGas : Gas} (stepped : state.deliver parentGas = some next) :
    Transition config state (.deliver parentGas) next := by
  unfold deliver at stepped
  split at stepped
  · rename_i delivery phase
    split at stepped
    · rename_i parent below suspended
      cases stepped
      exact .delivered parentGas delivery parent below phase suspended
    · rename_i suspended
      cases stepped
      exact .deliveredLast parentGas delivery phase suspended
  · cases stepped

theorem transition_lastFrameResult {gas : Gas} (stepped : state.lastFrameResult gas = some next) :
    Transition config state (.lastFrameResult gas) next := by
  unfold lastFrameResult at stepped
  split at stepped
  · rename_i outcome phase
    cases stepped
    exact .finishedAnswer gas outcome phase
  · rename_i outcome phase
    cases stepped
    exact .finished gas outcome phase
  · cases stepped

theorem transition_reward {credited : List Bool}
    (stepped : state.reward config credited = some next) :
    Transition config state (.reward credited) next := by
  unfold reward at stepped
  split at stepped
  · rename_i outcome phase
    split at stepped
    · rename_i rex6
      cases stepped
      exact .rewarded credited outcome phase rex6
    · cases stepped
  · cases stepped

/-- Every step is a transition. -/
theorem transition_of_step {event : Event} (stepped : step config state event = some next) :
    Transition config state event next := by
  cases event with
  | newTx tx => exact transition_newTx stepped
  | preExecution amount => exact transition_preExecution stepped
  | outOfInitialGas isCreate => exact transition_outOfInitialGas stepped
  | enterFrame cap => exact transition_enterFrame stepped
  | intercept interception => exact transition_intercept stepped
  | keylessCaller storageGas => exact transition_keylessCaller stepped
  | keylessMerge => exact transition_keylessMerge stepped
  | beforeInit journal => exact transition_beforeInit stepped
  | make made => exact transition_make stepped
  | beginRun => exact transition_beginRun stepped
  | settle => exact transition_settle stepped
  | deliver parentGas => exact transition_deliver stepped
  | lastFrameResult gas => exact transition_lastFrameResult stepped
  | reward credited => exact transition_reward stepped
  | fail =>
    cases stepped
    exact .fail
  | _ =>
    -- The others go on from one phase each.
    simp only [step, exemption, validate, systemCall, firstFrame, keylessAnswer,
      keylessReject, reply, execute, process, popResult] at stepped
    split at stepped
    · rename_i phase
      cases stepped
      constructor
      exact phase
    · cases stepped

end Steps

/-! ### Transitions that call several hooks -/

/-- The ways a keyless deployment starts: its gas does not pay the overhead, the overhead is not
metered, is within the limits or stops the deployment. When it does so although the compute gas is
within its limit, the execution panics. -/
inductive KeylessStart (config : EvmConfig) (state : Execution) (init : FrameInit) :
    Execution → Prop
  | unpaid
      (unpaid : (Gas.new init.input.gasLimit).recordCost keylessDeployOverheadGas = none) :
      KeylessStart config state init
        { state with
          phase := .replying
            { result := oogFrameResult false (.new init.input.gasLimit), committed := false } }
  | unmetered (gas : Gas)
      (paid : (Gas.new init.input.gasLimit).recordCost keylessDeployOverheadGas = some gas)
      (old : config.spec.isEnabled .rex3 = false) :
      KeylessStart config state init { state with phase := .keyless gas }
  | metered (gas : Gas)
      (paid : (Gas.new init.input.gasLimit).recordCost keylessDeployOverheadGas = some gas)
      (rex3 : config.spec.isEnabled .rex3 = true) (meter : Meter)
      (recorded : state.meter.recordComputeGas (.ofGas keylessDeployOverheadGas) = (meter, true)) :
      KeylessStart config state init { state with meter, phase := .keyless gas }
  | reverted (gas : Gas)
      (paid : (Gas.new init.input.gasLimit).recordCost keylessDeployOverheadGas = some gas)
      (rex3 : config.spec.isEnabled .rex3 = true) (meter : Meter)
      (recorded : state.meter.recordComputeGas (.ofGas keylessDeployOverheadGas) = (meter, false))
      (frameLocal : meter.limit.computeGas.checkLimit.isFrameLocal = true) :
      KeylessStart config state init
        { state with
          meter
          phase := .replying
            { result := .call { result := .revert, output := .empty, gas }, committed := false } }
  | halted (gas : Gas)
      (paid : (Gas.new init.input.gasLimit).recordCost keylessDeployOverheadGas = some gas)
      (rex3 : config.spec.isEnabled .rex3 = true) (meter : Meter)
      (recorded : state.meter.recordComputeGas (.ofGas keylessDeployOverheadGas) = (meter, false))
      (notLocal : meter.limit.computeGas.checkLimit.isFrameLocal = false)
      (exceeded : meter.limit.computeGas.checkLimit.exceededLimit = true) :
      KeylessStart config state init { state with meter, phase := .keylessHalted gas .overhead }
  | panicked (gas : Gas)
      (paid : (Gas.new init.input.gasLimit).recordCost keylessDeployOverheadGas = some gas)
      (rex3 : config.spec.isEnabled .rex3 = true) (meter : Meter)
      (recorded : state.meter.recordComputeGas (.ofGas keylessDeployOverheadGas) = (meter, false))
      (within : meter.limit.computeGas.checkLimit.exceededLimit = false) :
      KeylessStart config state init { state with meter, phase := .failed }

theorem keylessStart (config : EvmConfig) (state : Execution) (init : FrameInit) :
    ∃ next, startKeyless config state init = next ∧ KeylessStart config state init next := by
  refine ⟨_, rfl, ?_⟩
  unfold startKeyless
  split
  · rename_i unpaid
    exact .unpaid unpaid
  · rename_i gas paid
    split
    · rename_i rex3
      split
      · rename_i meter recorded
        exact .metered gas paid rex3 meter recorded
      · rename_i meter recorded
        split
        · rename_i frameLocal
          exact .reverted gas paid rex3 meter recorded frameLocal
        · rename_i notLocal
          split
          · rename_i exceeded
            exact .halted gas paid rex3 meter recorded (Bool.eq_false_iff.mpr notLocal) exceeded
          · rename_i within
            exact .panicked gas paid rex3 meter recorded (Bool.eq_false_iff.mpr within)
    · rename_i old
      exact .unmetered gas paid (Bool.eq_false_iff.mpr old)

/-- A keyless deployment changes the meter and the phase only. -/
theorem startKeyless_eq (config : EvmConfig) (state : Execution) (init : FrameInit) :
    ∃ meter phase, startKeyless config state init = { state with meter, phase } := by
  obtain ⟨next, equation, started⟩ := keylessStart config state init
  rw [equation]
  cases started <;> exact ⟨_, _, rfl⟩

/-- A call has no code to deposit. -/
theorem deposits_call (config : EvmConfig) (result : InterpreterResult) (meter : Meter) :
    depositCompute config false (depositStorage false result meter).2
      (depositStorage false result meter).1 = meter := by
  simp only [depositCompute, Bool.and_false, Bool.false_and, Bool.false_eq_true, if_false,
    depositStorage]

/-- Nothing is charged or recorded for the code of a frame that failed. -/
theorem settleResult_of_failed {config : EvmConfig} {result : InterpreterResult} (isCreate : Bool)
    (fails : result.result.isOk = false) (meter : Meter) :
    settleResult config isCreate result meter =
      (meter.update fun limit => (limit.afterFrameRunInstructions isCreate result).1,
        (meter.limit.afterFrameRunInstructions isCreate result).2) := by
  have storage : depositStorage isCreate result meter = (meter, result) := by
    rw [depositStorage, fails, Bool.and_false, if_neg Bool.false_ne_true]
  have compute : depositCompute config isCreate result meter = meter := by
    rw [depositCompute, willReturnCreateChargeCodeDeposit, fails, Bool.false_and, Bool.false_and,
      Bool.false_and, Bool.and_false, if_neg Bool.false_ne_true]
  simp only [settleResult, storage, compute]
  rfl

theorem continueKeyless_eq (state : Execution) (meter : Meter) (gas : Gas) :
    ∃ checked phase, state.continueKeyless meter gas = { state with meter := checked, phase } := by
  rw [continueKeyless]
  split <;> exact ⟨_, _, rfl⟩

/-- A property of the meter that is kept by the hooks which push and pop no frame. -/
structure HookInvariant (holds : Meter → Prop) : Prop where
  check : ∀ {meter}, holds meter → holds (meter.update (·.checkLimit))
  detain : ∀ {meter} (cap : Nat), holds meter → holds (meter.update (·.setComputeGasLimit cap))
  record : ∀ {meter} (charge : ComputeCharge), holds meter →
    holds (meter.recordComputeGas charge).1
  storage : ∀ {meter} (amount : Nat), holds meter → holds (meter.chargeStorage amount)
  settle : ∀ {meter} (isCreate : Bool) (result : InterpreterResult), holds meter →
    holds (meter.update fun limit => (limit.afterFrameRunInstructions isCreate result).1)

namespace HookInvariant

variable {holds : Meter → Prop} (kept : HookInvariant holds) {meter : Meter}

include kept

theorem detainIf (cap : Option Nat) (before : holds meter) :
    holds (meter.update (Execution.detain cap)) := by
  cases cap with
  | none => exact before
  | some cap => exact kept.detain cap before

theorem detainOracle (config : EvmConfig) (cap : Option Nat) (before : holds meter) :
    holds (meter.update (Execution.detainOracle config cap)) := by
  unfold Execution.detainOracle
  split
  · exact before
  · exact kept.detainIf cap before

theorem startKeyless (config : EvmConfig) {state : Execution} (before : holds state.meter)
    (init : FrameInit) : holds (Execution.startKeyless config state init).meter := by
  have kept := kept.record (.ofGas keylessDeployOverheadGas) before
  obtain ⟨next, equation, started⟩ := keylessStart config state init
  rw [equation]
  cases started with
  | unpaid | unmetered => exact before
  | metered _ _ _ _ recorded | reverted _ _ _ _ recorded | halted _ _ _ _ recorded
  | panicked _ _ _ _ recorded => exact (recorded ▸ kept :)

theorem continueKeyless (state : Execution) (before : holds meter) (gas : Gas) :
    holds (state.continueKeyless meter gas).meter := by
  rw [Execution.continueKeyless]
  split <;> exact kept.check before

theorem settleResult (config : EvmConfig) (before : holds meter) (isCreate : Bool)
    (result : InterpreterResult) :
    holds (Execution.settleResult config isCreate result meter).1 := by
  have deposited : holds (depositStorage isCreate result meter).1 := by
    rw [depositStorage]
    split
    · split
      · exact kept.storage _ before
      · exact before
    · exact before
  have recorded :
      holds (depositCompute config isCreate (depositStorage isCreate result meter).2
        (depositStorage isCreate result meter).1) := by
    rw [depositCompute]
    split
    · exact kept.record _ deposited
    · exact deposited
  exact kept.settle isCreate _ recorded

end HookInvariant

end Execution

end MegaEvm
