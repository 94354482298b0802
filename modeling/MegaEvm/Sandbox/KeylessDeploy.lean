/-
This file models the keyless deploy call from Rex5 on. A pre-EIP-155 creation
transaction that anyone may relay is run in a sandbox over the parent's journal, as a
fee-free deposit by its signer with the signer's nonce overridden to zero. When the
sandbox completes, its usage and its state are merged into the parent; whatever is
refused before that leaves the parent as it was.

The execution engine that runs the sandbox transaction, the decoding of transactions,
the recovery of signers and the pricing of accounts are not part of the source and are
parameters.
-/

import MegaEvm.Limit.AdditionalLimit
import MegaEvm.Outcome
import MegaEvm.Sandbox.StateMerge

namespace MegaEvm

/-! ### Errors and results -/

inductive KeylessDeployError
  | malformedEncoding
  | notContractCreation
  | notPreEIP155
  | nonZeroTxNonce (txNonce : Nat)
  | noEtherTransfer
  | invalidSignature
  | insufficientBalance
  | contractAlreadyExists
  | signerNonceTooHigh (signerNonce : Nat)
  | executionReverted (gasUsed : Nat) (output : List Nat)
  | executionHalted (gasUsed : Nat) (reason : MegaHaltReason)
  | parentBudgetExceeded (kind : LimitKind) (limit used : Nat)
  | emptyCodeDeployed (gasUsed : Nat)
  | noContractCreated
  | addressMismatch
  | gasLimitTooLow (txGasLimit providedGasLimit : Nat)
  | insufficientComputeGas (limit used : Nat)
  | initCodeTooLarge (size max : Nat)
  | signerHasCode
  | internalError
  | invalidTransaction
  | notIntercepted
deriving DecidableEq

/-- What the call returns: nothing, an encoded error, or the encoded return values, whose error data
is empty only when a contract was deployed. -/
inductive KeylessOutput
  | empty
  | error (error : KeylessDeployError)
  | returned (gasUsed : Nat) (deployedAddress : Address) (errorData : Option KeylessDeployError)
deriving DecidableEq

/-- The frame result of the call. -/
structure KeylessResult where
  result : InstructionResult
  output : KeylessOutput
  gas : Gas
deriving DecidableEq

/-! ### The transaction -/

/-- A signed legacy transaction. -/
structure KeylessTx where
  isCreate : Bool
  chainId : Option Nat
  nonce : Nat
  gasLimit : Nat
  value : U256
  input : List Nat
  signature : Nat
deriving DecidableEq

/-- What the call needs from outside: the decoding of a signed transaction with the bytes left over,
the recovery of its signer, the address a create derives from a nonce, the gas the engine charges
a creation up front, and the storage gas of a new account, which may be unavailable. -/
structure KeylessEnv where
  rlpDecodeSigned : List Nat → Option (KeylessTx × List Nat)
  recover : KeylessTx → Option Address
  createAddress : Address → Nat → Address
  initialTxGas : KeylessTx → Nat
  newAccountGas : Address → Option Nat

namespace KeylessEnv

variable (env : KeylessEnv)

def decodeKeylessTx (bytes : List Nat) (spec : MegaSpecId) : Except KeylessDeployError KeylessTx :=
  match env.rlpDecodeSigned bytes with
  | none => .error .malformedEncoding
  | some (tx, rest) =>
    if spec.isEnabled .rex5 && !rest.isEmpty then .error .malformedEncoding
    else if !tx.isCreate then .error .notContractCreation
    else if tx.chainId.isSome then .error .notPreEIP155
    else .ok tx

def recoverSigner (tx : KeylessTx) : Except KeylessDeployError Address :=
  match env.recover tx with
  | some signer => .ok signer
  | none => .error .invalidSignature

def calculateKeylessDeployAddress (signer : Address) : Address :=
  env.createAddress signer 0

/-- The sandbox transaction: a fee-free deposit-like create by the signer. -/
def buildFeeFreeSandboxDepositTx (signer : Address) (tx : KeylessTx) (gasLimit : Nat) :
    MegaTransaction where
  caller := signer
  kind := .create
  value := tx.value
  gasLimit := gasLimit
  inputLength := tx.input.length
  accessListSizes := []
  authorities := []
  initialGas := env.initialTxGas tx

end KeylessEnv

/-! ### The sandbox -/

/-- The context of the call: the parent's journal, limits and volatile accesses, and what it reads
of its configuration and block. -/
structure MegaContext where
  spec : MegaSpecId
  maxInitcodeSize : Nat
  disableEip3607 : Bool
  beneficiary : Address
  journal : Journal
  additionalLimit : AdditionalLimit
  volatileAccesses : Nat

/-- The database of the sandbox: the accounts and slots the parent has loaded, over the parent's
database, with the nonce of one account overridden to zero. -/
structure SandboxDb where
  journal : Journal
  nonceOverride : Address

namespace SandboxDb

/-- The info of an account, if the database answers. -/
def basic (database : SandboxDb) (address : Address) : Option (Option AccountInfo) :=
  let override (info : AccountInfo) : AccountInfo :=
    if database.nonceOverride = address then { info with nonce := 0 } else info
  match database.journal.state address with
  | some account => some (some (override account.info))
  | none => (database.journal.query (·.basic address)).2.map (Option.map override)

/-- The value of a slot, when the database behind answers. -/
def storage (database : SandboxDb) (address : Address) (key : U256) : U256 :=
  match (database.journal.state address).bind (·.storage.lookup key) with
  | some slot => slot.presentValue
  | none => database.journal.database.storage address key

end SandboxDb

/-- What running the sandbox transaction gave: an error, with whether it is one of the transaction,
or a result with the state; the usage and the accesses on the sandbox's trackers; and how many
queries it made to the parent's database. -/
structure SandboxRun where
  transacted : Except Bool (ExecutionResult × EvmState)
  limitUsage : LimitUsage
  volatileAccesses : Nat
  queries : Nat

/-- How the engine runs a sandbox transaction with its code and its limits over a context. -/
abbrev Transact := MegaContext → KeylessTx → MegaTransaction → EvmTxRuntimeLimits → SandboxRun

/-- How a completed sandbox is reported. -/
inductive SandboxCompletion
  | deployed (gasUsed : Nat) (deployAddress : Address) (logs : List Log)
  | emptyCode (gasUsed : Nat) (logs : List Log)
  | executionFailed (gasUsed : Nat) (error : KeylessDeployError)
deriving DecidableEq

def SandboxCompletion.gasUsed : SandboxCompletion → Nat
  | deployed gasUsed _ _ | emptyCode gasUsed _ | executionFailed gasUsed _ => gasUsed

inductive SandboxOutcome
  | completed (state : EvmState) (completion : SandboxCompletion) (limitUsage : LimitUsage)
      (volatileAccesses : Nat)
  | rejected (error : KeylessDeployError)

/-- The account was created and self-destructed, so that no code is left of it. From Rex6 on this is
reported like a create that returned no code. -/
def reportsNoCode (spec : MegaSpecId) (state : EvmState) (address : Address)
    (bytecode : List Nat) : Bool :=
  bytecode.isEmpty ||
    (spec.isEnabled .rex6 &&
      (state.lookup address).any fun account => account.status.selfDestructed)

def processSandboxTransactResult (spec : MegaSpecId) (run : SandboxRun) : SandboxOutcome :=
  let completed state completion :=
    SandboxOutcome.completed state completion run.limitUsage run.volatileAccesses
  match run.transacted with
  | .ok (.success gasUsed (.create bytecode (some address)) logs, state) =>
    if reportsNoCode spec state address bytecode then completed state (.emptyCode gasUsed logs)
    else completed state (.deployed gasUsed address logs)
  | .ok (.success _ _ _, _) => .rejected .noContractCreated
  | .ok (.revert gasUsed output, state) =>
    completed state (.executionFailed gasUsed (.executionReverted gasUsed output))
  -- The engine wraps a transaction that fails validation into this halt.
  | .ok (.halt _ .failedDeposit, _) => .rejected .invalidTransaction
  | .ok (.halt gasUsed reason, state) =>
    completed state (.executionFailed gasUsed (.executionHalted gasUsed reason))
  | .error true => .rejected .invalidTransaction
  | .error false => .rejected .internalError

/-- Run the sandbox, if the signer can pay the value it transfers. -/
def executeKeylessDeploySandbox (transact : Transact) (context : MegaContext)
    (keylessTx : KeylessTx)
    (tx : MegaTransaction) (limits : EvmTxRuntimeLimits) : MegaContext × SandboxOutcome :=
  let database : SandboxDb := { journal := context.journal, nonceOverride := tx.caller }
  match database.basic tx.caller with
  | none => (context, .rejected .internalError)
  | some info =>
    if (info.getD .default).balance < tx.value then (context, .rejected .insufficientBalance)
    else
      let run := transact context keylessTx tx limits
      ({ context with
          journal :=
            { context.journal with queries := context.journal.queries + run.queries } },
        processSandboxTransactResult context.spec run)

/-- The limits of the sandbox: what the current call may still use of the parent's. -/
def sandboxRuntimeLimits (context : MegaContext) : EvmTxRuntimeLimits :=
  { context.additionalLimit.limits with
    txComputeGasLimit := context.additionalLimit.computeGas.currentCallRemaining
    txDataSizeLimit := context.additionalLimit.dataSize.currentCallRemaining
    txKvUpdatesLimit := context.additionalLimit.kvUpdate.currentCallRemaining
    txStateGrowthLimit := context.additionalLimit.stateGrowth.currentCallRemaining }

/-- What the sandbox uses before its first frame does not fit into its limits. -/
def sandboxIntrinsicOverflowError (spec : MegaSpecId) (tx : MegaTransaction)
    (limits : EvmTxRuntimeLimits) : Option KeylessDeployError :=
  match AdditionalLimit.intrinsicCheckForTx spec tx limits with
  | .exceedsLimit kind limit used _ => some (.parentBudgetExceeded kind limit used)
  | _ => none

/-! ### The call -/

/-- How the call ends: with the context it leaves and its result. There is no result where the code
runs into an arm it takes to be unreachable. -/
structure KeylessExit where
  context : MegaContext
  result : Option KeylessResult

/-- Revert with an encoded error and the gas that is left. -/
def makeError (context : MegaContext) (gas : Gas) (error : KeylessDeployError) : KeylessExit :=
  { context, result := some { result := .revert, output := .error error, gas } }

/-- Out of gas, with all gas spent. -/
def oogFrameResult (context : MegaContext) (gas : Gas) : KeylessExit :=
  { context, result := some { result := .outOfGas, output := .empty, gas := gas.spendAll } }

def keylessDeployOverheadGas : Nat := 100000

/-- Step 1: the fixed overhead, as gas and as compute gas. -/
def chargeOverhead (context : MegaContext) (inputs : CallInputs) :
    Except KeylessExit (MegaContext × Gas) :=
  match (Gas.new inputs.gasLimit).recordCost keylessDeployOverheadGas with
  | none => .error (oogFrameResult context (Gas.new inputs.gasLimit))
  | some gas =>
    match context.additionalLimit.recordComputeGas keylessDeployOverheadGas with
    | (recorded, true) => .ok ({ context with additionalLimit := recorded }, gas)
    | (recorded, false) =>
      match recorded.computeGas.checkLimit with
      | .exceedsLimit _ limit used true =>
        .error (makeError { context with additionalLimit := recorded } gas
          (.insufficientComputeGas limit used))
      | .exceedsLimit _ _ _ false =>
        let rescued :=
          if context.spec.isEnabled .rex6 then recorded.tryRescueGas gas else recorded
        .error (oogFrameResult { context with additionalLimit := rescued } gas)
      | _ => .error { context := { context with additionalLimit := recorded }, result := none }

def callValue (inputs : CallInputs) : U256 :=
  match inputs.value with
  | .transfer value | .apparent value => value

/-- The decoded transaction, its signer and the gas limit the sandbox is to get. -/
structure KeylessRequest where
  tx : KeylessTx
  signer : Address
  gasLimitOverride : Nat

/-- Steps 2 to 5: what can be refused without looking at the state. -/
def validateRequest (env : KeylessEnv) (context : MegaContext) (inputs : CallInputs)
    (txBytes : List Nat) (gasLimitOverride : U256) : Except KeylessDeployError KeylessRequest := do
  if callValue inputs ≠ 0 then throw .noEtherTransfer
  let tx ← env.decodeKeylessTx txBytes context.spec
  if tx.nonce ≠ 0 then throw (.nonZeroTxNonce tx.nonce)
  if context.maxInitcodeSize < tx.input.length then
    throw (.initCodeTooLarge tx.input.length context.maxInitcodeSize)
  let provided := min gasLimitOverride u64Max
  if provided < tx.gasLimit then throw (.gasLimitTooLow tx.gasLimit provided)
  let signer ← env.recoverSigner tx
  return { tx, signer, gasLimitOverride := provided }

/-- The signer must not be a contract. -/
def signerHasCode (context : MegaContext) (info : AccountInfo) : Bool :=
  !context.disableEip3607 &&
    match info.code with
    | some (.legacy bytes) => !bytes.isEmpty
    | _ => false

/-- Refuse the call when an exceed of the whole transaction is found. The gas left is rescued. -/
def rejectIfTxLimitOverflow (context : MegaContext) (gas : Gas) :
    Except KeylessExit (MegaContext × Gas) :=
  let checked := context.additionalLimit.checkLimit
  if checked.limitExceeded && !checked.hasExceededLimit.isFrameLocal then
    .error (oogFrameResult { context with additionalLimit := checked.rescueGas gas } gas)
  else .ok ({ context with additionalLimit := checked }, gas)

/-- Pay for the signer's account if the deploy is what brings it into existence. -/
def chargeCallerMaterializationPreSandbox (env : KeylessEnv) (context : MegaContext) (gas : Gas)
    (signer : Address) (info : AccountInfo) : Except KeylessExit (MegaContext × Gas) :=
  if !info.isEmpty then .ok (context, gas)
  else
    match env.newAccountGas signer with
    | none => .error (makeError context gas .internalError)
    | some cost =>
      match gas.recordCost cost with
      | none => .error (oogFrameResult context gas)
      | some charged =>
        rejectIfTxLimitOverflow
          { context with additionalLimit := context.additionalLimit.recordDepositCallerCreation }
          charged

/-- Step 5: the nonce and the code of the signer, and the price of its account. -/
def checkSigner (env : KeylessEnv) (context : MegaContext) (gas : Gas) (signer : Address) :
    Except KeylessExit (MegaContext × Gas) :=
  match context.journal.inspectAccount signer (!context.disableEip3607) with
  | (journal, none) => .error (makeError { context with journal } gas .internalError)
  | (journal, some account) =>
    if 1 < account.info.nonce then
      .error (makeError { context with journal } gas (.signerNonceTooHigh account.info.nonce))
    else if signerHasCode context account.info then
      .error (makeError { context with journal } gas .signerHasCode)
    else
      chargeCallerMaterializationPreSandbox env { context with journal } gas signer account.info

/-- The code hash at the deploy address. From Rex6 on the read is journaled. -/
def readDeployCodeHash (context : MegaContext) (deployAddress : Address) :
    Journal × Option CodeHash :=
  if context.spec.isEnabled .rex6 then context.journal.inspectAccountCodeHash deployAddress
  else
    match context.journal.query (·.basic deployAddress) with
    | (journal, info) => (journal, info.map fun info => (info.getD .default).codeHash)

/-- Step 7: nothing may be deployed at the address yet. -/
def checkOccupancy (context : MegaContext) (gas : Gas) (deployAddress : Address) :
    Except KeylessExit MegaContext :=
  match readDeployCodeHash context deployAddress with
  | (journal, none) => .error (makeError { context with journal } gas .internalError)
  | (journal, some codeHash) =>
    if codeHash ≠ keccakEmpty then
      .error (makeError { context with journal } gas .contractAlreadyExists)
    else .ok { context with journal }

/-- Everything that is settled before the sandbox runs. -/
structure Prepared where
  context : MegaContext
  /-- The gas left after the reservation for the sandbox is taken from it. -/
  gas : Gas
  keylessTx : KeylessTx
  signer : Address
  reservation : Nat
  sandboxTx : MegaTransaction
  limits : EvmTxRuntimeLimits

/-- Steps 1 to 8: refuse the call, or settle what the sandbox runs with. -/
def prepareKeylessDeploy (env : KeylessEnv) (context : MegaContext) (inputs : CallInputs)
    (txBytes : List Nat) (gasLimitOverride : U256) : Except KeylessExit Prepared := do
  let (charged, gas) ← chargeOverhead context inputs
  match validateRequest env charged inputs txBytes gasLimitOverride with
  | .error error => throw (makeError charged gas error)
  | .ok request =>
    let (signed, gas) ← checkSigner env charged gas request.signer
    -- The cap comes after the signer's account is paid for, and may not undercut what was signed.
    let reservation := min request.gasLimitOverride gas.remaining
    if reservation < request.tx.gasLimit then
      throw (makeError signed gas (.gasLimitTooLow request.tx.gasLimit reservation))
    let sandboxTx := env.buildFeeFreeSandboxDepositTx request.signer request.tx reservation
    let vacant ← checkOccupancy signed gas (env.calculateKeylessDeployAddress request.signer)
    let limits := sandboxRuntimeLimits vacant
    match sandboxIntrinsicOverflowError vacant.spec sandboxTx limits with
    | some error => throw (makeError vacant gas error)
    | none =>
      return {
        context := vacant
        gas := (gas.recordCost reservation).getD gas
        keylessTx := request.tx
        signer := request.signer
        reservation
        sandboxTx
        limits }

/-- Merge the usage of the sandbox, give back the gas it did not use, and refuse the call if the
parent is now over a limit. -/
def applySandboxPostAccounting (context : MegaContext) (gas : Gas) (usage : LimitUsage)
    (volatileAccesses reservation gasUsed : Nat) : Except KeylessExit (MegaContext × Gas) :=
  rejectIfTxLimitOverflow
    { context with
      additionalLimit := context.additionalLimit.mergeUsage usage
      volatileAccesses := context.volatileAccesses ||| volatileAccesses }
    (gas.eraseCost (reservation - gasUsed))

/-- Report a completed sandbox whose state is merged. -/
def reportCompletion (context : MegaContext) (gas : Gas) (deployAddress : Address) :
    SandboxCompletion → KeylessExit
  | .deployed gasUsed deployed logs =>
    if deployed ≠ deployAddress then makeError context gas .addressMismatch
    else
      { context := { context with journal := logs.foldl Journal.log context.journal }
        result := some { result := .returned, output := .returned gasUsed deployed none, gas } }
  | .emptyCode gasUsed logs =>
    { context := { context with journal := logs.foldl Journal.log context.journal }
      result := some
        { result := .returned
          output := .returned gasUsed 0 (some (.emptyCodeDeployed gasUsed))
          gas } }
  | .executionFailed gasUsed error =>
    { context
      result := some { result := .returned, output := .returned gasUsed 0 (some error), gas } }

/-- Step 9: run the sandbox and merge what it completed. -/
def finishKeylessDeploy (env : KeylessEnv) (transact : Transact) (prepared : Prepared) :
    KeylessExit :=
  match executeKeylessDeploySandbox transact prepared.context prepared.keylessTx
      prepared.sandboxTx prepared.limits with
  | (context, .rejected error) =>
    makeError context (prepared.gas.eraseCost prepared.reservation) error
  | (context, .completed state completion usage volatileAccesses) =>
    match applySandboxPostAccounting context prepared.gas usage volatileAccesses
        prepared.reservation completion.gasUsed with
    | .error exit => exit
    | .ok (accounted, gas) =>
      match accounted.journal.applySandboxStateJournaled state with
      | (journal, false) => makeError { accounted with journal } gas .internalError
      | (journal, true) =>
        reportCompletion { accounted with journal } gas
          (env.calculateKeylessDeployAddress prepared.signer) completion

def executeKeylessDeployCall (env : KeylessEnv) (transact : Transact) (context : MegaContext)
    (inputs : CallInputs) (txBytes : List Nat) (gasLimitOverride : U256) : KeylessExit :=
  match prepareKeylessDeploy env context inputs txBytes gasLimitOverride with
  | .error exit => exit
  | .ok prepared => finishKeylessDeploy env transact prepared

end MegaEvm
