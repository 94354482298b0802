/-
This file models the run of the sandbox transaction, a fee-free create by the signer.
What happens before the constructor starts is the source's: the limits are reset and
charged with what the transaction uses up front, the gas is checked against every
storage charge, and the create frame is started only if no limit stops it. Only then
does the engine take the signer's nonce and look for a collision.

What the engine does is a parameter: the checks on the fields of the transaction, its
gas tables, the accounts it loads besides the signer, and the run of a constructor.
-/

import MegaEvm.Evm.HaltReason
import MegaEvm.Sandbox.KeylessDeploy
import MegaEvm.Sandbox.MergeRun

namespace MegaEvm

/-! ### Reading through the sandbox database -/

namespace SandboxDb

/-- The info of an account, when the database behind answers. -/
def info (database : SandboxDb) (address : Address) : AccountInfo :=
  let found :=
    match database.journal.state address with
    | some account => account.info
    | none => (database.journal.database.basic address).getD .default
  if database.nonceOverride = address then { found with nonce := 0 } else found

/-- The overridden nonce is zero. -/
theorem info_nonceOverride (database : SandboxDb) :
    (database.info database.nonceOverride).nonce = 0 := by
  unfold info
  dsimp only
  rw [if_pos rfl]

/-- But for that nonce it is the info the parent has. -/
theorem info_eq (journal : Journal) {caller address : Address} (distinct : address ≠ caller) :
    SandboxDb.info ⟨journal, caller⟩ address = (journal.account address).info := by
  unfold info Journal.account
  dsimp only
  rw [if_neg distinct.symm]
  cases journal.state address <;> rfl

/-- The account a sandbox loads. -/
def load (database : SandboxDb) (address : Address) : Account :=
  .ofInfo (database.info address)

/-- Inspection by a sandbox whose database answers. -/
def inspect (database : SandboxDb) : JournalInspect where
  inspectAccount address := some (database.load address)
  inspectAccountDelegated _ address :=
    some (database.load ((database.load address).delegate.getD address))

/-- The state of a sandbox that started no constructor: the caller, and the accounts it loaded
before and after it. -/
def loadedState (database : SandboxDb) (caller : Account) (before after : List Address) :
    EvmState :=
  let entry (address : Address) : Sigma fun _ : Address => Account :=
    ⟨address, database.load address⟩
  ((before.filter (· ≠ database.nonceOverride)).map entry ++
    ⟨database.nonceOverride, caller⟩ :: after.map entry).toAList

end SandboxDb

/-! ### The engine -/

/-- What the sandbox transaction needs from the execution engine: the checks on its fields, the
floor of its gas, the storage gas of a new contract, whether a read before the first frame fails,
which accounts it loads, the gas a result is charged and the encoding of returned data, and how a
constructor runs from its start, with the limits and the caller as they are then. -/
structure SandboxEngine where
  validateEnv : MegaContext → MegaTransaction → Bool
  floorGas : KeylessTx → Nat
  createContractStorageGas : Address → Option Nat
  databaseFails : MegaContext → KeylessTx → MegaTransaction → Bool
  loaded : MegaContext → MegaTransaction → List Address × List Address
  gasUsed : MegaTransaction → FrameResult → Nat → Nat
  encode : ReturnData → List Nat
  queries : MegaContext → KeylessTx → MegaTransaction → Nat
  construct : MegaContext → KeylessTx → MegaTransaction → AdditionalLimit → Account → SandboxRun

/-- The bit of the access bitmap for the balance of the beneficiary. -/
def beneficiaryBalanceAccess : Nat := 2 ^ 10

/-! ### Before the first frame -/

/-- A transaction of the beneficiary has accessed its balance. -/
def accessesAtStart (context : MegaContext) (tx : MegaTransaction) : Nat :=
  if tx.caller = context.beneficiary then beneficiaryBalanceAccess else 0

/-- The limits after the transaction's own usage is recorded. Exceeding one is not an error here,
the start of the first frame looks at it. -/
def limitAtStart (context : MegaContext) (tx : MegaTransaction) (limits : EvmTxRuntimeLimits) :
    AdditionalLimit :=
  let started := (AdditionalLimit.new context.spec limits).reset.beforeTxStart tx
  let detained :=
    if tx.caller = context.beneficiary then
      started.setComputeGasLimit limits.blockEnvAccessComputeGasLimit
    else started
  (detained.recordComputeGas tx.initialGas).1

/-- The gas the transaction pays before it runs, or an error, which is one of the transaction if the
flag is set. -/
def SandboxEngine.validate (engine : SandboxEngine) (env : KeylessEnv) (context : MegaContext)
    (keylessTx : KeylessTx) (tx : MegaTransaction) : Except Bool Nat :=
  let database : SandboxDb := { journal := context.journal, nonceOverride := tx.caller }
  if !engine.validateEnv context tx then .error true
  else if tx.gasLimit < tx.initialGas || tx.gasLimit < engine.floorGas keylessTx then .error true
  else if engine.databaseFails context keylessTx tx then .error false
  else
    let createdAddress := env.createAddress tx.caller (database.info tx.caller).nonce
    match engine.createContractStorageGas createdAddress with
    | none => .error false
    | some storageGas =>
      let initialTxGas : InitialAndFloorGas :=
        { initialGas := tx.initialGas, floorGas := engine.floorGas keylessTx }
      let gas := (initialTxGas.addCalldata context.spec keylessTx.input).addInitial storageGas
      if tx.gasLimit < gas.initialGas || tx.gasLimit < gas.floorGas then .error true
      else .ok gas.initialGas

/-! ### The create frame -/

/-- The create frame of the transaction. -/
def createFrame (env : KeylessEnv) (tx : MegaTransaction) (initialGas : Nat) : FrameInit where
  depth := 0
  input := .create
    { caller := tx.caller
      value := tx.value
      createdAddress := env.createAddress tx.caller
      gasLimit := tx.gasLimit - initialGas }

/-- Start the first frame of a transaction. A result means that a limit stopped it. -/
def initFirstFrame (limit : AdditionalLimit) (journal : JournalInspect) (init : FrameInit) :
    Option (AdditionalLimit × Option FrameResult) :=
  match limit.frameResultIfExceedingLimit init.input with
  | (rescued, some result) => some (rescued.pushEmptyFrame, some result)
  | (limit, none) =>
    (limit.beforeFrameInit journal init).map fun (charged, _, result) => (charged, result)

namespace SandboxEngine

variable (engine : SandboxEngine)

/-- The run ends with an error. One of the transaction is wrapped into a halt. -/
def fail (context : MegaContext) (keylessTx : KeylessTx) (tx : MegaTransaction)
    (limit : AdditionalLimit) (invalid : Bool) : SandboxRun where
  transacted := if invalid then .ok (.halt tx.gasLimit .failedDeposit, ∅) else .error false
  limitUsage := limit.getUsage
  volatileAccesses := accessesAtStart context tx
  queries := engine.queries context keylessTx tx

/-- What the transaction reports of a frame that started no constructor. -/
def execution (context : MegaContext) (tx : MegaTransaction) (limit : AdditionalLimit)
    (result : FrameResult) : ExecutionResult :=
  let gasUsed := engine.gasUsed tx result limit.rescuedGas
  if result.instructionResult.isRevert then .revert gasUsed (engine.encode result.outcome.output)
  else .halt gasUsed (haltReason limit (accessesAtStart context tx) result.instructionResult)

/-- The run ends with the result of a frame that started no constructor. -/
def finish (context : MegaContext) (keylessTx : KeylessTx) (tx : MegaTransaction)
    (limit : AdditionalLimit) (result : FrameResult) (caller : Account) : SandboxRun :=
  let database : SandboxDb := { journal := context.journal, nonceOverride := tx.caller }
  let (returned, final) := limit.beforeFrameReturnResult true result
  let (before, after) := engine.loaded context tx
  { transacted :=
      .ok (engine.execution context tx returned final, database.loadedState caller before after)
    limitUsage := returned.checkLimit.getUsage
    volatileAccesses := accessesAtStart context tx
    queries := engine.queries context keylessTx tx }

end SandboxEngine

/-- The result of a frame the engine gives up on before it starts. -/
def abandoned (init : FrameInit) (status : InstructionResult) : FrameResult :=
  .create { result := status, output := .empty, gas := .new init.input.gasLimit } none

/-- A create collides with an account that has code or a nonce. -/
def collides (info : AccountInfo) : Bool :=
  info.codeHash != keccakEmpty || info.nonce != 0

/-- The caller as the transaction starts: touched, with the nonce it has in the sandbox. -/
def callerAtStart (database : SandboxDb) : Account :=
  (database.load database.nonceOverride).setTouched true

/-- The caller once the engine makes the create frame, which takes its nonce. -/
def callerOfCreate (database : SandboxDb) : Account :=
  let caller := callerAtStart database
  caller.setNonce (caller.info.nonce + 1)

/-- The account a create finds at its address. The nonce of the caller is taken before. -/
def infoOfCreated (database : SandboxDb) (created : Address) : AccountInfo :=
  if created = database.nonceOverride then (callerOfCreate database).info
  else database.info created

/-- How far the transaction gets: an error before its first frame, a frame that a limit stops, that
the caller cannot pay or that collides, or a constructor, each with the limits as they are then. -/
inductive SandboxStage
  | invalid (limit : AdditionalLimit) (ofTransaction : Bool)
  | refused (limit : AdditionalLimit) (result : FrameResult)
  | unpaid (limit : AdditionalLimit) (result : FrameResult)
  | collided (limit : AdditionalLimit) (result : FrameResult)
  | constructs (limit : AdditionalLimit)

/-- Start the transaction and its create frame. -/
def sandboxStage (env : KeylessEnv) (engine : SandboxEngine) (context : MegaContext)
    (keylessTx : KeylessTx) (tx : MegaTransaction) (limits : EvmTxRuntimeLimits) : SandboxStage :=
  let database : SandboxDb := { journal := context.journal, nonceOverride := tx.caller }
  let limit := limitAtStart context tx limits
  match engine.validate env context keylessTx tx with
  | .error ofTransaction => .invalid limit ofTransaction
  | .ok initialGas =>
    let init := createFrame env tx initialGas
    match initFirstFrame limit database.inspect init with
    | none => .invalid limit false
    | some (limit, some result) => .refused limit result
    | some (limit, none) =>
      if (database.info tx.caller).balance < tx.value then
        let result := abandoned init .outOfFunds
        .unpaid (limit.afterFrameInit (.result result)) result
      else
        let created := env.createAddress tx.caller (database.info tx.caller).nonce
        if collides (infoOfCreated database created) then
          let result := abandoned init .createCollision
          .collided (limit.afterFrameInit (.result result)) result
        else .constructs (limit.afterFrameInit (.item (some created)))

/-- Run the sandbox transaction. -/
def sandboxTransact (env : KeylessEnv) (engine : SandboxEngine) : Transact :=
  fun context keylessTx tx limits =>
    let database : SandboxDb := { journal := context.journal, nonceOverride := tx.caller }
    match sandboxStage env engine context keylessTx tx limits with
    | .invalid limit ofTransaction => engine.fail context keylessTx tx limit ofTransaction
    | .refused limit result | .unpaid limit result =>
      engine.finish context keylessTx tx limit result (callerAtStart database)
    | .collided limit result =>
      engine.finish context keylessTx tx limit result (callerOfCreate database)
    | .constructs limit =>
      engine.construct context keylessTx tx limit (callerOfCreate database)

end MegaEvm
