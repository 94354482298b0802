/-
This file states what the execution engine does where the frame loop takes its answers
as they come: how much gas an instruction leaves, what a frame that is answered at once
returns, what becomes of the result of a frame, when a frame is committed, and which gas
a parent and the transaction get back. Each rule is a condition on an event and the state
it meets, and a theorem that needs one is about the runs whose steps all meet it.
-/

import Mathlib.Tactic.MkIffOfInductiveProp
import MegaEvm.Evm.FrameLoop

namespace MegaEvm

/-! ### Instructions -/

namespace InterpreterAction

/-- The gas a pending child frame is started with. -/
def childGas : InterpreterAction → Nat
  | newFrame input => input.gasLimit
  | returnResult _ => 0

/-- The action belongs to an interpreter with the given gas: a result carries that gas, and the
engine's stipend is part of the gas of a child that gets it. -/
def Fits (gas : Gas) : InterpreterAction → Prop
  | newFrame input => Execution.grantsStipend input = true → callStipend ≤ input.gasLimit
  | returnResult result => result.gas = gas

instance (gas : Gas) (action : InterpreterAction) : Decidable (action.Fits gas) :=
  match action with
  | newFrame _ => inferInstanceAs (Decidable (_ → _))
  | returnResult _ => inferInstanceAs (Decidable (_ = _))

end InterpreterAction

namespace Instruction

/-- The engine's own instruction. -/
def raw? : Instruction → Option RawOutcome
  | unknown _ => none
  | plain raw | volatile _ raw | selfbalance _ raw | sload _ raw => some raw
  | sstore _ _ _ raw | log _ _ _ raw | call _ _ _ _ _ raw | create _ raw => some raw
  | selfdestruct _ _ _ raw => some raw

/-- The instruction can leave the action: only calls and creates start a child, and the child of a
call gets the engine's stipend if the peeked value is sent. -/
def leaves : Instruction → InterpreterAction → Bool
  | _, .returnResult _ => true
  | call scheme _ value _ _ _, .newFrame (.call inputs) =>
    Execution.grantsStipend (.call inputs) == ForwardGasExt.checkCallHasTransfer scheme value
  | create _ _, .newFrame (.create _) => true
  | _, _ => false

/-- The gas for the memory that a wrapper expands itself. -/
def resizeGas : Instruction → Nat
  | create inputs _ => inputs.resizeGas
  | _ => 0

/-- Why a create stops after its wrapper expanded the memory. -/
def late? : Instruction → Option InstructionResult
  | create inputs _ => inputs.late
  | _ => none

/-- The storage gas a wrapper charges before it runs the engine's instruction. -/
def storageGas (spec : MegaSpecId) : Instruction → Nat
  | sstore _ store setGas _ =>
    if store.originalValue = 0 ∧ store.presentValue = 0 ∧ store.newValue ≠ 0 then setGas else 0
  | log _ topics length _ => logTopicStorageGas * topics + logDataStorageGas * length
  | call scheme _ _ _ newAccountGas _ =>
    if spec.isEnabled .rex4 || spec.isEnabled .rex || scheme == .call then newAccountGas.getD 0
    else 0
  | create inputs _ => inputs.storageGas
  | selfdestruct _ inputs _ _ =>
    if spec.isEnabled .rex5 && !inputs.isStatic && inputs.createsTarget then inputs.newAccountGas
    else 0
  | _ => 0

/-- The gas the engine's instruction starts with. -/
def engineGas (spec : MegaSpecId) (limit : AdditionalLimit) (gas : Gas)
    (instruction : Instruction) : Gas :=
  let storage := instruction.storageGas spec
  { gas with
    remaining := gas.remaining - instruction.resizeGas -
      (storage - (limit.tryConsumeStorageStipend storage).2) }

/-- What the engine's instruction leaves of the gas it got, the gas of a child counted. -/
def Leaves (instruction : Instruction) (gas : Gas) (raw : RawOutcome) : Prop :=
  raw.remaining + (raw.action.map InterpreterAction.childGas).getD 0 ≤ gas.remaining ∧
    ∀ action ∈ raw.action,
      action.Fits { gas with remaining := raw.remaining } ∧ instruction.leaves action = true

/-- The gas rule for instructions: the memory a wrapper expands is paid, a create that stops after
that fails, and the engine's instruction keeps to the gas it gets. -/
def Obeys (spec : MegaSpecId) (limit : AdditionalLimit) (gas : Gas)
    (instruction : Instruction) : Prop :=
  instruction.resizeGas ≤ gas.remaining ∧ (∀ result ∈ instruction.late?, result.isError = true) ∧
    ∀ raw ∈ instruction.raw?, instruction.Leaves (instruction.engineGas spec limit gas) raw

instance (spec : MegaSpecId) (limit : AdditionalLimit) (gas : Gas) (instruction : Instruction) :
    Decidable (instruction.Obeys spec limit gas) :=
  have (raw : RawOutcome) :
      Decidable (instruction.Leaves (instruction.engineGas spec limit gas) raw) :=
    inferInstanceAs (Decidable (_ ∧ _))
  inferInstanceAs (Decidable (_ ∧ _))

end Instruction

/-! ### Events and phases -/

namespace Phase

def intercepting? : Phase → Option FrameInit
  | intercepting init => some init
  | _ => none

def making? : Phase → Option FrameInit
  | making init => some init
  | _ => none

def interpreting? : Phase → Option EngineFrame
  | interpreting frame => some frame
  | _ => none

def settled? : Phase → Option (EngineFrame × InterpreterResult)
  | settled frame result => some (frame, result)
  | _ => none

def delivering? : Phase → Option Delivery
  | delivering delivery => some delivery
  | _ => none

/-- The outcome that the transaction ends with. -/
def last? : Phase → Option Outcome
  | answered outcome | returned outcome => some outcome
  | _ => none

end Phase

namespace Execution

namespace Event

def firstInput? : Event → Option FrameInput
  | firstFrame input => some input
  | _ => none

def interception? : Event → Option Interception
  | intercept interception => some interception
  | _ => none

def made? : Event → Option Made
  | make made => some made
  | _ => none

def instruction? : Event → Option Instruction
  | execute instruction => some instruction
  | _ => none

def processed? : Event → Option (FrameResult × Bool)
  | process processed committed => some (processed, committed)
  | _ => none

def parentGas? : Event → Option Gas
  | deliver parentGas => some parentGas
  | _ => none

def lastGas? : Event → Option Gas
  | lastFrameResult gas => some gas
  | _ => none

end Event

variable (config : EvmConfig) (state : Execution)

/-! ### Committing -/

/-- The engine commits a frame that it does not run exactly if it ended with success. -/
def Made.Commits (init : FrameInit) : Made → Prop
  | .frame _ => True
  | .result frameResult committed => committed = frameResult.instructionResult.isOk
  | .precompile _ run committed =>
    committed = (state.precompileResult config init run).result.isOk

instance (init : FrameInit) (made : Made) : Decidable (made.Commits config state init) :=
  match made with
  | .frame _ => isTrue trivial
  | .result _ _ => inferInstanceAs (Decidable (_ = _))
  | .precompile _ _ _ => inferInstanceAs (Decidable (_ = _))

/-- The engine commits a frame exactly if it ended with success. -/
def CommitsResults (event : Event) : Prop :=
  (∀ made ∈ event.made?, ∀ init ∈ state.phase.making?, made.Commits config state init) ∧
    ∀ processed ∈ event.processed?, processed.2 = processed.1.instructionResult.isOk

instance (event : Event) : Decidable (CommitsResults config state event) :=
  inferInstanceAs (Decidable (_ ∧ _))

/-! ### Processing -/

/-- What the engine makes of the result of a create: it charges the code of one it commits, refuses
one that succeeded with code it does not take, and hands on one that failed. -/
def ProcessesCreate (result : InterpreterResult) (processed : FrameResult) : Prop :=
  processed.isCreate = true ∧
    if willReturnCreateChargeCodeDeposit config result then
      processed.instructionResult.isOk = true ∧
        processed.gas.remaining + result.output.length * codedepositGas = result.gas.remaining
    else
      processed.gas.remaining = result.gas.remaining ∧
        if result.result.isOk then processed.instructionResult.isError = true
        else processed.instructionResult = result.result

instance (result : InterpreterResult) (processed : FrameResult) :
    Decidable (ProcessesCreate config result processed) :=
  inferInstanceAs (Decidable (_ ∧ _))

/-- What the engine makes of the result of a frame. The one of a call is handed on as it is. -/
def Processes (isCreate : Bool) (result : InterpreterResult) (processed : FrameResult) : Prop :=
  if isCreate then ProcessesCreate config result processed else processed = .call result

instance (isCreate : Bool) (result : InterpreterResult) (processed : FrameResult) :
    Decidable (Processes config isCreate result processed) :=
  inferInstanceAs (Decidable (ite _ _ _))

/-- The engine processes the results of the frames it ran. -/
def ProcessesResults (event : Event) : Prop :=
  ∀ processed ∈ event.processed?, ∀ settled ∈ state.phase.settled?,
    Processes config settled.1.isCreate settled.2 processed.1

instance (event : Event) : Decidable (ProcessesResults config state event) :=
  inferInstanceAs (Decidable (∀ processed ∈ _, _))

/-! ### Answers -/

/-- No system contract and no inspector answers a call. -/
def Interception.Passes : Interception → Prop
  | passes | hint _ => True
  | answers _ | keyless => False

instance (interception : Interception) : Decidable interception.Passes :=
  match interception with
  | .passes | .hint _ => isTrue trivial
  | .answers _ | .keyless => isFalse id

/-- Every call is passed on to the engine. -/
def PassesCalls (event : Event) : Prop :=
  ∀ interception ∈ event.interception?, interception.Passes

instance (event : Event) : Decidable (PassesCalls event) :=
  inferInstanceAs (Decidable (∀ interception ∈ _, _))

/-! ### Gas -/

/-- The gas a precompile runs on, and what it leaves. -/
def RunsOn (gas : Nat) (output : InterpreterResult) : Prop :=
  output.gas.limit = gas ∧ output.gas.remaining ≤ gas

instance (gas : Nat) (output : InterpreterResult) : Decidable (RunsOn gas output) :=
  inferInstanceAs (Decidable (_ ∧ _))

/-- The frame is no precompile, or one that runs on the gas it gets. -/
def Made.RunsOnGas (init : FrameInit) : Made → Prop
  | .frame _ | .result _ _ => True
  | .precompile _ run _ =>
    RunsOn (precompileGasLimit config state.meter.limit init.input.gasLimit)
      (run (precompileGasLimit config state.meter.limit init.input.gasLimit))

instance (init : FrameInit) (made : Made) : Decidable (made.RunsOnGas config state init) :=
  match made with
  | .frame _ | .result _ _ => isTrue trivial
  | .precompile _ _ _ => inferInstanceAs (Decidable (RunsOn _ _))

/-- The engine runs precompiles on the gas they get. -/
def RunsPrecompiles (event : Event) : Prop :=
  ∀ made ∈ event.made?, ∀ init ∈ state.phase.making?, made.RunsOnGas config state init

instance (event : Event) : Decidable (RunsPrecompiles config state event) :=
  inferInstanceAs (Decidable (∀ made ∈ _, _))

/-- A frame that ends at once returns all its gas. -/
def Made.ReturnsGas (init : FrameInit) : Made → Prop
  | .frame _ | .precompile _ _ _ => True
  | .result frameResult _ => frameResult.gas = .new init.input.gasLimit

instance (init : FrameInit) (made : Made) : Decidable (made.ReturnsGas init) :=
  match made with
  | .frame _ | .precompile _ _ _ => isTrue trivial
  | .result _ _ => inferInstanceAs (Decidable (_ = _))

/-- An answer returns no more gas than its call was given. -/
def Interception.ReturnsGas (gasLimit : Nat) : Interception → Prop
  | answers result => result.gas.remaining ≤ gasLimit
  | _ => True

instance (gasLimit : Nat) (interception : Interception) :
    Decidable (interception.ReturnsGas gasLimit) :=
  match interception with
  | .passes | .hint _ | .keyless => isTrue trivial
  | .answers _ => inferInstanceAs (Decidable (_ ≤ _))

/-- The gas of a parent after a result was delivered to it. -/
def deliveredGas (parent : Gas) (result : FrameResult) : Gas :=
  if result.instructionResult.isOkOrRevert then parent.eraseCost result.gas.remaining else parent

/-- The gas of the transaction after its last result, before rescued gas is added. -/
def lastGas (result : FrameResult) : Gas where
  limit := state.gasLimit
  remaining := if result.instructionResult.isOkOrRevert then result.gas.remaining else 0

/-- The gas rules of the engine. The first frame gets gas of the transaction; instructions keep to
their gas; a parent and the transaction get back what the result of a frame has left, unless the
frame failed. -/
@[mk_iff] structure ReturnsGas (event : Event) : Prop where
  first : ∀ input ∈ event.firstInput?, input.gasLimit ≤ state.gasLimit
  answer : ∀ interception ∈ event.interception?, ∀ init ∈ state.phase.intercepting?,
    interception.ReturnsGas init.input.gasLimit
  made : ∀ made ∈ event.made?, ∀ init ∈ state.phase.making?, made.ReturnsGas init
  precompile : RunsPrecompiles config state event
  instruction : ∀ instruction ∈ event.instruction?, ∀ frame ∈ state.phase.interpreting?,
    instruction.Obeys config.spec state.meter.limit frame.gas
  processed : ProcessesResults config state event
  delivered : ∀ gas ∈ event.parentGas?, ∀ delivery ∈ state.phase.delivering?,
    ∀ parent ∈ state.frames.head?, gas = deliveredGas parent.gas delivery.result
  last : ∀ gas ∈ event.lastGas?, ∀ outcome ∈ state.phase.last?,
    gas = state.lastGas (state.meter.limit.beforeFrameReturnResult true outcome.result).2

instance (event : Event) : Decidable (ReturnsGas config state event) :=
  decidable_of_iff' _ (returnsGas_iff config state event)

end Execution

end MegaEvm
