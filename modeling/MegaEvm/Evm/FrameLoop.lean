/-
This file models the loop that runs the frames of a transaction, as a state machine over
the hooks of the limits. A transaction is charged up front, validated, and starts its
first frame; a frame is refused by a latched limit, answered by a system contract or an
inspector, or admitted and made by the engine; it runs instructions until it starts a
child or returns; its result is settled, processed by the engine, popped from the
trackers and delivered to its parent. The last result is returned to the transaction.

The engine and the database answer with the events. Every answer is possible unless a
theorem says which ones it is about.
-/

import MegaEvm.Evm.Instructions
import MegaEvm.Library.Runs

namespace MegaEvm

/-! ### States -/

/-- The configuration of an execution whose transactions are metered. -/
structure EvmConfig where
  spec : MegaSpecId
  metered : spec.isEnabled .miniRex = true
  maxCodeSize : Nat
  eip3541Disabled : Bool

/-- The result of a frame on its way to its parent, and whether the engine committed what the frame
did to the journal. -/
structure Outcome where
  result : FrameResult
  committed : Bool

/-- A result as it is delivered, whether the engine committed the frame, and whether the usage of
the frame was merged as the one of a success. -/
structure Delivery where
  result : FrameResult
  committed : Bool
  merged : Bool

/-- A frame of the engine, with the results delivered to it, the last first. -/
structure EngineFrame where
  isCreate : Bool
  gas : Gas
  children : List Delivery

/-- Why a keyless deployment is stopped by a limit of the transaction. -/
inductive KeylessExceed
  | overhead
  | overflow
deriving DecidableEq

/-- Where the execution is. `started` lies within the start of a transaction, before a system
transaction is exempted; `replying` carries a result for which no frame was pushed yet. -/
inductive Phase
  | idle
  | started
  | validating
  | preExecution
  | execution
  | frameInit (init : FrameInit)
  | intercepting (init : FrameInit)
  | keyless (gas : Gas)
  | keylessHalted (gas : Gas) (cause : KeylessExceed)
  | admitting (init : FrameInit)
  | making (init : FrameInit)
  | replying (outcome : Outcome)
  | running (frame : EngineFrame)
  | interpreting (frame : EngineFrame)
  | stopped (frame : EngineFrame) (action : InterpreterAction)
  | settled (frame : EngineFrame) (result : InterpreterResult)
  | returning (outcome : Outcome)
  | delivering (delivery : Delivery)
  | answered (outcome : Outcome)
  | returned (outcome : Outcome)
  | ended (outcome : Outcome)
  | failed

/-- The meter, the suspended frames, the last first, the phase, and a history: how many instructions
ran, the results that were returned, the last first, the gas limit of the transaction and the gas
its first frame got, and how often the engine added its stipend to the gas of a child. -/
structure Execution where
  meter : Meter
  frames : List EngineFrame
  phase : Phase
  executed : Nat
  delivered : List Delivery
  gasLimit : Nat
  firstGas : Nat
  stipends : Nat

namespace Execution

/-- Before the first transaction. -/
def initial (config : EvmConfig) (limits : EvmTxRuntimeLimits) : Execution where
  meter := { limit := .new config.spec limits, entered := [], charges := [], storageCharged := 0 }
  frames := []
  phase := .idle
  executed := 0
  delivered := []
  gasLimit := 0
  firstGas := 0
  stipends := 0

variable (config : EvmConfig) (state : Execution)

/-- Change the limits and go to another phase. -/
def go (hook : AdditionalLimit → AdditionalLimit) (phase : Phase) : Execution :=
  { state with meter := state.meter.update hook, phase }

/-- Where the result of a frame that was not run goes: the one of the first frame to the
transaction, any other to the frame that started it. -/
def answer (outcome : Outcome) : Phase :=
  if state.frames.isEmpty then .answered outcome else .returning outcome

/-! ### The transaction -/

/-- Detain the transaction if the accesses so far impose a cap. -/
def detain (cap : Option Nat) (limit : AdditionalLimit) : AdditionalLimit :=
  match cap with
  | some cap => limit.setComputeGasLimit cap
  | none => limit

/-- The first half of `on_new_tx`. -/
def newTx (tx : MegaTransaction) : Option Execution :=
  let next :=
    { state.go (fun limit => limit.reset.beforeTxStart tx) .started with
      frames := []
      gasLimit := tx.gasLimit }
  match state.phase with
  | .idle | .ended _ | .failed => some next
  | _ => none

/-- The second half of `on_new_tx`: a system transaction is exempt from Rex6 on, and one that
touches the beneficiary of the block is detained from Rex4 on. -/
def exempt (systemOriginated : Bool) (cap : Option Nat) (limit : AdditionalLimit) :
    AdditionalLimit :=
  let exempted :=
    if config.spec.isEnabled .rex6 && systemOriginated then limit.markExempt else limit
  if config.spec.isEnabled .rex4 then detain cap exempted else exempted

def exemption (systemOriginated : Bool) (cap : Option Nat) : Option Execution :=
  match state.phase with
  | .started => some (state.go (exempt config systemOriginated cap) .validating)
  | _ => none

/-- The authorities of an authorization list that Rex6 records in validation. -/
def recordAuthorities (applied : List Bool) (cap : Option Nat) (limit : AdditionalLimit) :
    AdditionalLimit :=
  detain cap (applied.foldl AdditionalLimit.onRex6Eip7702AuthorityApplied limit)

/-- The meter after validation. Exceeding a limit is no error there, the start of the first frame
looks at it. -/
def validated (applied : List Bool) (cap : Option Nat) (initialGas : Nat) (createsCaller : Bool) :
    Meter :=
  let authorities :=
    if config.spec.isEnabled .rex6 then state.meter.update (recordAuthorities applied cap)
    else state.meter
  let recorded := (authorities.recordComputeGas (.ofGas initialGas)).1
  if config.spec.isEnabled .rex5 && createsCaller then
    recorded.update (·.recordDepositCallerCreation)
  else recorded

def validate (applied : List Bool) (cap : Option Nat) (initialGas : Nat) (createsCaller : Bool) :
    Option Execution :=
  match state.phase with
  | .validating =>
    some
      { state with
        meter := state.validated config applied cap initialGas createsCaller
        phase := .preExecution }
  | _ => none

/-- A system call is neither validated nor charged. -/
def systemCall : Option Execution :=
  match state.phase with
  | .validating => some { state with phase := .execution }
  | _ => none

def preExecution (authorityCreations : Nat) : Option Execution :=
  match state.phase with
  | .preExecution =>
    if config.spec.isEnabled .rex5 && !config.spec.isEnabled .rex6 && authorityCreations != 0 then
      some (state.go (·.onRex5Eip7702AuthorityCreations authorityCreations) .execution)
    else some { state with phase := .execution }
  | _ => none

/-- The result of a call that runs out of gas without running. -/
def oogFrameResult (isCreate : Bool) (gas : Gas) : FrameResult :=
  let outcome : InterpreterResult := { result := .outOfGas, output := .empty, gas := gas.spendAll }
  if isCreate then .create outcome none else .call outcome

/-- Before Rex5 a transaction may turn out here to be unable to pay for its storage. -/
def outOfInitialGas (isCreate : Bool) : Option Execution :=
  match state.phase with
  | .execution =>
    if config.spec.isEnabled .rex5 then none
    else
      some
        { state with
          phase := .ended
            { result := oogFrameResult isCreate (.new state.gasLimit), committed := false } }
  | _ => none

def firstFrame (input : FrameInput) : Option Execution :=
  match state.phase with
  | .execution =>
    some
      { state with
        meter := { state.meter with charges := [], storageCharged := 0 }
        frames := []
        phase := .frameInit { depth := 0, input }
        firstGas := input.gasLimit
        stipends := 0 }
  | _ => none

/-! ### Starting a frame -/

def callStackLimit : Nat := 1024

/-- The result of a call that Rex5 refuses because the stack is too deep. -/
def tooDeep (init : FrameInit) : Option FrameResult :=
  match init.input with
  | .call inputs =>
    if config.spec.isEnabled .rex5 && (inputs.scheme == .call || inputs.scheme == .staticCall) &&
        decide (callStackLimit < init.depth) then
      some (.call { result := .callTooDeep, output := .empty, gas := .new inputs.gasLimit })
    else none
  | .create _ => none

/-- Before Rex3 a call to the oracle detains the transaction. -/
def detainOracle (cap : Option Nat) (limit : AdditionalLimit) : AdditionalLimit :=
  if config.spec.isEnabled .rex3 then limit else detain cap limit

/-- The guards of a frame start. From Rex4 on a latched exceed refuses every frame. -/
def enterFrame (cap : Option Nat) : Option Execution :=
  match state.phase with
  | .frameInit init =>
    let refused := (detainOracle config cap state.meter.limit).frameResultIfExceedingLimit
      init.input
    match config.spec.isEnabled .rex4, refused.2 with
    | true, some result =>
      some (state.go (fun _ => refused.1) (.replying { result, committed := false }))
    | _, _ =>
      match tooDeep config init with
      | some result =>
        some (state.go (detainOracle config cap) (.replying { result, committed := false }))
      | none => some (state.go (detainOracle config cap) (.intercepting init))
  | _ => none

/-- What a system contract makes of a call: nothing, a hint to the oracle whose bytes Rex5 counts,
an answer, or a keyless deployment. An inspector that skips a frame answers too. -/
inductive Interception
  | passes
  | hint (length : Nat)
  | answers (result : FrameResult)
  | keyless

def keylessDeployOverheadGas : Nat := 100000

/-- The start of a keyless deployment, which pays its overhead. -/
def startKeyless (init : FrameInit) : Execution :=
  match (Gas.new init.input.gasLimit).recordCost keylessDeployOverheadGas with
  | none =>
    { state with
      phase := .replying
        { result := oogFrameResult false (.new init.input.gasLimit), committed := false } }
  | some gas =>
    if config.spec.isEnabled .rex3 then
      match state.meter.recordComputeGas (.ofGas keylessDeployOverheadGas) with
      | (meter, true) => { state with meter, phase := .keyless gas }
      | (meter, false) =>
        if meter.limit.computeGas.checkLimit.isFrameLocal then
          { state with
            meter
            phase := .replying
              { result := .call { result := .revert, output := .empty, gas }, committed := false } }
        else if meter.limit.computeGas.checkLimit.exceededLimit then
          { state with meter, phase := .keylessHalted gas .overhead }
        -- the arm that the source marks as unreachable: it panics
        else { state with meter, phase := .failed }
    else { state with phase := .keyless gas }

def intercept (interception : Interception) : Option Execution :=
  match state.phase with
  | .intercepting init =>
    match interception with
    | .passes => some { state with phase := .admitting init }
    | .hint length =>
      if config.spec.isEnabled .rex5 then
        some (state.go (·.recordOracleHintBytes length) (.admitting init))
      else some { state with phase := .admitting init }
    | .answers result =>
      some { state with phase := .replying { result, committed := false } }
    | .keyless =>
      if config.spec.isEnabled .rex2 && init.depth == 0 && !init.input.isCreate then
        some (startKeyless config state init)
      else none
  | _ => none

/-- Check the limits of the transaction after a keyless deployment used some of them. -/
def continueKeyless (meter : Meter) (gas : Gas) : Execution :=
  let checked := meter.update (·.checkLimit)
  if checked.limit.limitExceeded && !checked.limit.hasExceededLimit.isFrameLocal then
    { state with meter := checked, phase := .keylessHalted gas .overflow }
  else { state with meter := checked, phase := .keyless gas }

/-- A keyless deployment pays for a signer that does not exist yet. -/
def keylessCaller (storageGas : Nat) : Option Execution :=
  match state.phase with
  | .keyless gas =>
    if config.spec.isEnabled .rex5 then
      match gas.recordCost storageGas with
      | none =>
        some
          { state with
            phase := .replying { result := oogFrameResult false gas, committed := false } }
      | some gas =>
        some (state.continueKeyless (state.meter.update (·.recordDepositCallerCreation)) gas)
    else none
  | _ => none

/-- A keyless deployment merges what its sandbox used, and takes back what it did not spend of the
gas it reserved. -/
def keylessMerge (usage : LimitUsage) (reservation gasUsed : Nat) : Option Execution :=
  match state.phase with
  | .keyless gas =>
    if config.spec.isEnabled .rex5 then
      (gas.recordCost reservation).map fun reserved =>
        state.continueKeyless
          { state.meter.update (·.mergeUsage usage) with
            charges := .ofGas usage.computeGas :: state.meter.charges }
          (reserved.eraseCost (reservation - gasUsed))
    else none
  | _ => none

/-- A keyless deployment ends. -/
def keylessAnswer (result : InstructionResult) (output : ReturnData) : Option Execution :=
  match state.phase with
  | .keyless gas =>
    let left := if result.isOkOrRevert then gas else gas.spendAll
    some
      { state with
        phase := .replying { result := .call { result, output, gas := left }, committed := false } }
  | _ => none

/-- The gas of a keyless deployment that a limit of the transaction stops is rescued; before Rex6
the one whose overhead exceeds the limit loses it. -/
def rescueKeyless (gas : Gas) (cause : KeylessExceed) (limit : AdditionalLimit) :
    AdditionalLimit :=
  match cause with
  | .overhead => if config.spec.isEnabled .rex6 then limit.tryRescueGas gas else limit
  | .overflow => limit.rescueGas gas

def keylessReject : Option Execution :=
  match state.phase with
  | .keylessHalted gas cause =>
    some (state.go (rescueKeyless config gas cause)
      (.replying { result := oogFrameResult false gas, committed := false }))
  | _ => none

/-- A call that was answered without a frame pushes an empty one. -/
def reply : Option Execution :=
  match state.phase with
  | .replying outcome => some (state.go (·.pushEmptyFrame) (state.answer outcome))
  | _ => none

/-- Push the frame and check. The execution fails when the database does. -/
def beforeInit (journal : JournalInspect) : Option Execution :=
  match state.phase with
  | .admitting init =>
    match state.meter.limit.beforeFrameInit journal init with
    | none => some { state with phase := .failed }
    | some (limit, _, some result) =>
      some (state.go (fun _ => limit) (state.answer { result, committed := false }))
    | some (limit, admitted, none) => some (state.go (fun _ => limit) (.making admitted))
  | _ => none

/-- What the engine makes of an admitted frame: a frame, with the address it creates, a result at
once, or the run of a precompile, as a function of the gas it gets. -/
inductive Made
  | frame (created : Address)
  | result (result : FrameResult) (committed : Bool)
  | precompile (isKzg : Bool) (run : Nat → InterpreterResult) (committed : Bool)

def kzgGasCost : Nat := 100000

/-- The gas a precompile gets: from Rex5 on not more than the compute gas that is left. -/
def precompileGasLimit (limit : AdditionalLimit) (gasLimit : Nat) : Nat :=
  if config.spec.isEnabled .rex5 then min gasLimit limit.computeGas.currentCallRemaining
  else gasLimit

/-- From Rex5 on the gas of a precompile is put back on the limit of its caller. -/
def precompileOutput (gasLimit : Nat) (output : InterpreterResult) : InterpreterResult :=
  if config.spec.isEnabled .rex5 && output.result.isOkOrRevert then
    { output with
      gas :=
        { limit := gasLimit
          remaining := gasLimit - output.gas.spent
          refunded := output.gas.refunded } }
  else output

/-- The compute gas of a precompile. One that failed took all it got, or its fixed cost. -/
def precompileComputeGas (isKzg : Bool) (output : InterpreterResult) : Nat :=
  if config.spec.isEnabled .rex5 then
    if output.result.isOkOrRevert then output.gas.spent
    else if isKzg && decide (kzgGasCost ≤ output.gas.limit) then kzgGasCost
    else output.gas.limit
  else output.gas.spent

/-- What a precompile returns to its caller. -/
def precompileResult (init : FrameInit) (run : Nat → InterpreterResult) : InterpreterResult :=
  precompileOutput config init.input.gasLimit
    (run (precompileGasLimit config state.meter.limit init.input.gasLimit))

/-- The execution after a precompile returned. Whether its gas exceeds a limit is left to the check
that follows. -/
def afterPrecompile (isKzg : Bool) (output : InterpreterResult)
    (committed : Bool) : Execution :=
  let recorded :=
    (state.meter.recordComputeGas (.ofGas (precompileComputeGas config isKzg output))).1
  { state with
    meter := recorded.update (·.afterFrameInit (.result (.call output)))
    phase := state.answer { result := .call output, committed } }

def make (made : Made) : Option Execution :=
  match state.phase with
  | .making init =>
    match made with
    | .frame created =>
      let address := if init.input.isCreate then some created else none
      some (state.go (·.afterFrameInit (.item address))
        (.running
          { isCreate := init.input.isCreate, gas := .new init.input.gasLimit, children := [] }))
    | .result result committed =>
      some (state.go (·.afterFrameInit (.result result)) (state.answer { result, committed }))
    | .precompile isKzg run committed =>
      some (state.afterPrecompile config isKzg (state.precompileResult config init run) committed)
  | _ => none

/-! ### Running a frame -/

/-- Check before a frame runs or resumes. -/
def beginRun : Option Execution :=
  match state.phase with
  | .running frame =>
    match state.meter.limit.beforeFrameRun frame.gas with
    | (checked, some result) =>
      some (state.go (fun _ => checked) (.stopped frame (.returnResult result)))
    | (checked, none) => some (state.go (fun _ => checked) (.interpreting frame))
  | _ => none

/-- The execution after an instruction of the running frame. -/
def afterInstruction (frame : EngineFrame) (ran : Interpreter) : Execution :=
  { state with
    meter := ran.meter
    phase :=
      match ran.action with
      | none => .interpreting { frame with gas := ran.gas }
      | some action => .stopped { frame with gas := ran.gas } action
    executed := state.executed + 1 }

/-- Execute one instruction of the running frame. -/
def execute (instruction : Instruction) : Option Execution :=
  match state.phase with
  | .interpreting frame =>
    some (state.afterInstruction frame
      (instruction.execute config.spec { meter := state.meter, gas := frame.gas, action := none }))
  | _ => none

def codedepositStorageGas : Nat := 10000

def codedepositGas : Nat := 200

/-- The engine will charge the returned code and commit the create. -/
def willReturnCreateChargeCodeDeposit (result : InterpreterResult) : Bool :=
  result.result.isOk &&
    !(!config.eip3541Disabled && result.output.head? == some 0xef) &&
    decide (result.output.length ≤ config.maxCodeSize) &&
    decide (result.output.length * codedepositGas ≤ result.gas.remaining)

/-- Charge the storage of the code a create returns. -/
def depositStorage (isCreate : Bool) (result : InterpreterResult) (meter : Meter) :
    Meter × InterpreterResult :=
  if isCreate && result.result.isOk then
    match result.gas.recordCost (codedepositStorageGas * result.output.length) with
    | some gas =>
      (meter.chargeStorage (codedepositStorageGas * result.output.length), { result with gas })
    | none => (meter, { result with result := .outOfGas })
  else (meter, result)

/-- From Rex5 on the compute gas of deployed code is recorded before the engine commits it. -/
def depositCompute (isCreate : Bool) (result : InterpreterResult) (meter : Meter) : Meter :=
  if config.spec.isEnabled .rex5 && isCreate && willReturnCreateChargeCodeDeposit config result then
    (meter.recordComputeGas (.ofGas (result.output.length * codedepositGas))).1
  else meter

/-- What `after_frame_run_instructions` does to a returned result. -/
def settleResult (isCreate : Bool) (result : InterpreterResult) (meter : Meter) :
    Meter × InterpreterResult :=
  let deposited := depositStorage isCreate result meter
  let recorded := depositCompute config isCreate deposited.2 deposited.1
  let settled := recorded.limit.afterFrameRunInstructions isCreate deposited.2
  (recorded.update fun _ => settled.1, settled.2)

/-- The engine adds its stipend to the gas of the child. -/
def grantsStipend : FrameInput → Bool
  | .call inputs =>
    (inputs.scheme == .call || inputs.scheme == .callCode) && inputs.transfersValue
  | .create _ => false

/-- A frame that stopped starts a child, or its result is settled. -/
def settle : Option Execution :=
  match state.phase with
  | .stopped frame (.newFrame input) =>
    some
      { state with
        frames := frame :: state.frames
        phase := .frameInit { depth := state.frames.length + 1, input }
        stipends := if grantsStipend input then state.stipends + 1 else state.stipends }
  | .stopped frame (.returnResult result) =>
    let settled := settleResult config frame.isCreate result state.meter
    some { state with meter := settled.1, phase := .settled frame settled.2 }
  | _ => none

/-- The gas that the engine took to process a result is recorded, unless it is the one of a create
that Rex5 recorded before. -/
def recordsProcessing (processed : FrameResult) : Bool :=
  !(config.spec.isEnabled .rex5 && processed.isCreate)

/-- The execution after the engine processed a settled result. -/
def afterProcess (result : InterpreterResult) (processed : FrameResult) (committed : Bool) :
    Execution :=
  let records := recordsProcessing config processed
  let charge : ComputeCharge :=
    { gasBefore := result.gas.remaining
      gasAfter := processed.gas.remaining
      storageCharged := 0
      forwarded := 0 }
  let finished :=
    state.meter.limit.afterFrameRun processed (if records then some result.gas.remaining else none)
  { state with
    meter :=
      { state.meter with
        limit := finished.1
        entered :=
          if records then state.meter.limit :: state.meter.entered else state.meter.entered
        charges := if records then charge :: state.meter.charges else state.meter.charges }
    phase := .returning { result := finished.2, committed } }

def process (processed : FrameResult) (committed : Bool) : Option Execution :=
  match state.phase with
  | .settled _ result => some (state.afterProcess config result processed committed)
  | _ => none

/-! ### Returning a result -/

/-- The execution after a frame was popped from the trackers. -/
def afterPop (outcome : Outcome) : Execution :=
  let popped := state.meter.limit.beforeFrameReturnResult false outcome.result
  let delivery : Delivery :=
    { result := popped.2
      committed := outcome.committed
      merged := outcome.result.instructionResult.isOk }
  { state.go (fun _ => popped.1) (.delivering delivery) with
    delivered := delivery :: state.delivered }

def popResult : Option Execution :=
  match state.phase with
  | .returning outcome => some (state.afterPop outcome)
  | _ => none

/-- The engine delivers a result to the parent frame, whose gas it sets. -/
def deliver (parentGas : Gas) : Option Execution :=
  match state.phase with
  | .delivering delivery =>
    match state.frames with
    | parent :: below =>
      some
        { state with
          frames := below
          phase := .running
            { parent with gas := parentGas, children := delivery :: parent.children } }
    | [] =>
      some
        { state with
          phase := .returned { result := delivery.result, committed := delivery.committed } }
  | _ => none

/-- The last result reaches the transaction. The engine sets its gas, and the rescued gas is
added. -/
def finish (outcome : Outcome) (gas : Gas) : Execution :=
  let popped := state.meter.limit.beforeFrameReturnResult true outcome.result
  let delivery : Delivery :=
    { result := popped.2
      committed := outcome.committed
      merged := outcome.result.instructionResult.isOk }
  { state.go (fun _ => popped.1)
      (.ended
        { result := popped.2.setGas (gas.eraseCost popped.1.rescuedGas)
          committed := outcome.committed }) with
    delivered := delivery :: state.delivered }

def lastFrameResult (gas : Gas) : Option Execution :=
  match state.phase with
  | .answered outcome => some (state.finish outcome gas)
  | .returned outcome => some (state.finish outcome gas)
  | _ => none

/-- The write of an account that receives fees. -/
def recordReward (limit : AdditionalLimit) (created : Bool) : AdditionalLimit :=
  { limit with
    dataSize := limit.dataSize.mergePersistentUsage accountInfoWriteSize
    kvUpdate := limit.kvUpdate.mergePersistentUsage 1
    stateGrowth :=
      if created then limit.stateGrowth.mergePersistentUsage 1 else limit.stateGrowth }

def reward (credited : List Bool) : Option Execution :=
  match state.phase with
  | .ended outcome =>
    if config.spec.isEnabled .rex6 then
      some (state.go (fun limit => credited.foldl recordReward limit) (.ended outcome))
    else none
  | _ => none

/-! ### The machine -/

/-- What can happen next, with the answers of the engine and the database. -/
inductive Event
  | newTx (tx : MegaTransaction)
  | exemption (systemOriginated : Bool) (cap : Option Nat)
  | validate (applied : List Bool) (cap : Option Nat) (initialGas : Nat) (createsCaller : Bool)
  | systemCall
  | preExecution (authorityCreations : Nat)
  | outOfInitialGas (isCreate : Bool)
  | firstFrame (input : FrameInput)
  | enterFrame (cap : Option Nat)
  | intercept (interception : Interception)
  | keylessCaller (storageGas : Nat)
  | keylessMerge (usage : LimitUsage) (reservation gasUsed : Nat)
  | keylessAnswer (result : InstructionResult) (output : ReturnData)
  | keylessReject
  | reply
  | beforeInit (journal : JournalInspect)
  | make (made : Made)
  | beginRun
  | execute (instruction : Instruction)
  | settle
  | process (processed : FrameResult) (committed : Bool)
  | popResult
  | deliver (parentGas : Gas)
  | lastFrameResult (gas : Gas)
  | reward (credited : List Bool)
  | fail

/-- One step of the execution. -/
def step (state : Execution) : Event → Option Execution
  | .newTx tx => state.newTx tx
  | .exemption systemOriginated cap => state.exemption config systemOriginated cap
  | .validate applied cap initialGas createsCaller =>
    state.validate config applied cap initialGas createsCaller
  | .systemCall => state.systemCall
  | .preExecution authorityCreations => state.preExecution config authorityCreations
  | .outOfInitialGas isCreate => state.outOfInitialGas config isCreate
  | .firstFrame input => state.firstFrame input
  | .enterFrame cap => state.enterFrame config cap
  | .intercept interception => state.intercept config interception
  | .keylessCaller storageGas => state.keylessCaller config storageGas
  | .keylessMerge usage reservation gasUsed =>
    state.keylessMerge config usage reservation gasUsed
  | .keylessAnswer result output => state.keylessAnswer result output
  | .keylessReject => state.keylessReject config
  | .reply => state.reply
  | .beforeInit journal => state.beforeInit journal
  | .make made => state.make config made
  | .beginRun => state.beginRun
  | .execute instruction => state.execute config instruction
  | .settle => state.settle config
  | .process processed committed => state.process config processed committed
  | .popResult => state.popResult
  | .deliver parentGas => state.deliver parentGas
  | .lastFrameResult gas => state.lastFrameResult gas
  | .reward credited => state.reward config credited
  | .fail => some { state with phase := .failed }

/-- The events lead from before the first transaction to this state. -/
abbrev Reaches (limits : EvmTxRuntimeLimits) (events : List Event) (final : Execution) : Prop :=
  Library.run (step config) (initial config limits) events = some final

end Execution

end MegaEvm
