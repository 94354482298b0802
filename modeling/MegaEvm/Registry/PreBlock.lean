/-
This file models what a block does before its transactions: it calls the two history
contracts, deploys the system contracts, deploys or upgrades the registry, applies the
role changes that are due, and resolves the system address of the block. All outcomes
are computed against the database at the start of the block and committed in order.

The calls themselves are the engine's and a parameter here. The check whether a change
is due is made on the raw slots, and the call is only made if it says so.
-/

import MegaEvm.Block.Deploy
import MegaEvm.Registry.Contract

namespace MegaEvm

/-! ### The block -/

/-- The environment of a block. Its number is read as a 64-bit one. -/
structure BlockEnv where
  number : Nat
  timestamp : Nat
  number_lt : number < 2 ^ 64

/-- The timestamp as it is compared with those of the hardforks. -/
def BlockEnv.blockTimestamp (block : BlockEnv) : Nat :=
  min block.timestamp u64Max

/-- The system calls of the engine. A call that ran says whether it succeeded; the two history calls
may not be made at all. -/
structure SystemCalls where
  blockhashes : BlockState → BlockEnv → Except BlockExecutionError (Option (Bool × EvmState))
  beaconRoot : BlockState → BlockEnv → Except BlockExecutionError (Option (Bool × EvmState))
  applyPendingChanges : BlockState → BlockEnv → Option (Bool × EvmState)

def megaSystemAddress : Address := 0xA887dCB9D5f39Ef79272801d05Abdf707CFBbD1d

def sequencerRegistryCodeHash : CodeHash :=
  0x63cd411a379be1c198613ef1d15c3058e7b0db4a5d07d4bcf07014af90040315

def sequencerRegistryCodeHashRex6 : CodeHash :=
  0xabd7e8f1c8f0f9ca0346df585b65d9791a7e9ba5c431cc4eda5d2c2f1f5e9c43

/-! ### Deploying the registry -/

section Deploy

variable (artifacts : Artifacts) (state : BlockState)

/-- Upgrade version one in place: the code changes, the delay is set, and every other slot stays. -/
def upgradeSequencerRegistry (info : AccountInfo) (minRotationDelay : U256) :
    Except BlockExecutionError EvmState := do
  let account := Account.deployed artifacts info sequencerRegistryCodeHashRex6
  let original ← state.storage sequencerRegistryAddress minRotationDelaySlot
  .ok (AList.singleton sequencerRegistryAddress
    { account with
      storage :=
        AList.singleton minRotationDelaySlot (.newChanged original minRotationDelay) })

/-- The slots a fresh registry starts with. -/
def registrySeed (config : SequencerRegistryConfig) (blockNumber : Nat)
    (minRotationDelay : Option U256) : List (U256 × U256) :=
  [(Role.systemAddress.currentSlot, megaSystemAddress),
    (Role.sequencer.currentSlot, config.rex5InitialSequencer),
    (adminSlot, config.rex5InitialAdmin),
    (Role.systemAddress.initialSlot, megaSystemAddress),
    (Role.sequencer.initialSlot, config.rex5InitialSequencer),
    (initialFromBlockSlot, blockNumber)] ++
  minRotationDelay.toList.map fun delay => (minRotationDelaySlot, delay)

/-- The contract a fresh registry is. -/
def sequencerRegistrySpec (codeHash : CodeHash) (seed : List (U256 × U256)) :
    SystemContractSpec where
  address := sequencerRegistryAddress
  codeHash := codeHash
  seed := seed
  forceCreateOnUpgrade := true

/-- The delay Rex6 configures, if it is active. -/
def minRotationDelay (hardforks : MegaHardforks) (rex6 : Bool) :
    Except BlockExecutionError (Option U256) :=
  if rex6 then
    match hardforks.sequencerRegistryRex6Config with
    | none => .error (.blockHashContractCall
        "Rex6 active but SequencerRegistryRex6Config not configured")
    | some params => .ok (some params.rex6MinRotationDelay)
  else .ok none

/-- Deploy the registry, or upgrade it, or leave it as it is. Foreign code is not overwritten. -/
def transactDeploySequencerRegistry (hardforks : MegaHardforks) (block : BlockEnv)
    (config : SequencerRegistryConfig) : Except BlockExecutionError (Option EvmState) := do
  if !hardforks.isRex5ActiveAtTimestamp block.blockTimestamp then .ok none
  else
    let rex6 := hardforks.isRex6ActiveAtTimestamp block.blockTimestamp
    let target := if rex6 then sequencerRegistryCodeHashRex6 else sequencerRegistryCodeHash
    let delay ← minRotationDelay hardforks rex6
    let existing ← state.loadCacheAccount sequencerRegistryAddress
    let deploy :=
      transactDeploy artifacts state
        (sequencerRegistrySpec target (registrySeed config block.number delay))
    match existing with
    | none => some <$> deploy
    | some info =>
      if rex6 ∧ info.codeHash = sequencerRegistryCodeHash then
        some <$> upgradeSequencerRegistry artifacts state info (delay.getD 0)
      else if info.codeHash ≠ target ∧ info.codeHash ≠ keccakEmpty then
        .error (.unexpectedCodeHash sequencerRegistryAddress info.codeHash target)
      else some <$> deploy

end Deploy

/-! ### Applying what is due -/

section Apply

variable (state : BlockState) (block : BlockEnv)

/-- Whether the change of a role is due, with the slots that were read. -/
def isRoleDue (account : Account) (role : Role) : Except BlockExecutionError (Bool × Account) := do
  let pending ← state.storage sequencerRegistryAddress role.pendingSlot
  let account := { account with storage := account.storage.insert role.pendingSlot (.new pending) }
  if pending = 0 then .ok (false, account)
  else
    let activation ← state.storage sequencerRegistryAddress role.activationSlot
    let account :=
      { account with storage := account.storage.insert role.activationSlot (.new activation) }
    .ok (decide (min activation u64Max ≤ block.number), account)

/-- Whether a change of either role is due, with the account and the slots that were read. -/
def isApplyPendingChangesDue : Except BlockExecutionError (Bool × EvmState) := do
  let existing ← state.loadCacheAccount sequencerRegistryAddress
  match existing with
  | none => .ok (false, AList.singleton sequencerRegistryAddress (.readOnly .default))
  | some info =>
    let (systemAddressDue, account) ← isRoleDue state block (.readOnly info) .systemAddress
    let (sequencerDue, account) ← isRoleDue state block account .sequencer
    .ok (systemAddressDue || sequencerDue, AList.singleton sequencerRegistryAddress account)

/-- Make the call. One that did not succeed fails the block. -/
def transactApplyPendingChanges (calls : SystemCalls) : Except BlockExecutionError EvmState :=
  match calls.applyPendingChanges state block with
  | none => .error (.blockHashContractCall
      "SequencerRegistry applyPendingChanges() system call failed")
  | some (false, _) => .error (.blockHashContractCall
      "SequencerRegistry applyPendingChanges() reverted or halted")
  | some (true, outcome) => .ok outcome

end Apply

/-! ### Before the transactions -/

section PreBlock

variable (hardforks : MegaHardforks) (artifacts : Artifacts) (calls : SystemCalls)
  (state : BlockState) (block : BlockEnv)

/-- The outcome of a history call. From Rex5 on it has to succeed. -/
def historyOutcomes (error : BlockExecutionError) (result : Option (Bool × EvmState)) :
    Except BlockExecutionError (List EvmState) :=
  match result with
  | none => .ok []
  | some (success, outcome) =>
    if hardforks.isRex5ActiveAtTimestamp block.blockTimestamp && !success then .error error
    else .ok [outcome]

/-- The outcomes of a step that is not always made. -/
def outcomesIf (made : Bool) (outcomes : Except BlockExecutionError (List EvmState)) :
    Except BlockExecutionError (List EvmState) :=
  if made then outcomes else .ok []

/-- The outcomes for the registry. Until Rex6 it is deployed before its changes are applied, from
Rex6 on after, since the call is made on the account before an upgrade. `makesCall` says, from
whether a change is due, whether the call is made. -/
def registryOutcomesWith (makesCall : Bool → Bool) :
    Except BlockExecutionError (List EvmState) := do
  if !hardforks.isRex5ActiveAtTimestamp block.blockTimestamp then .ok []
  else
    match hardforks.sequencerRegistryConfig with
    | none => .error (.blockHashContractCall
        "Rex5 active but SequencerRegistryConfig not configured")
    | some config =>
      let rex6 := hardforks.isRex6ActiveAtTimestamp block.blockTimestamp
      let deploy := Option.toList <$>
        transactDeploySequencerRegistry artifacts state hardforks block config
      let before ← outcomesIf (!rex6) deploy
      let (due, witness) ← isApplyPendingChangesDue state block
      let applied ← outcomesIf (makesCall due)
        (List.singleton <$> transactApplyPendingChanges state block calls)
      let after ← outcomesIf rex6 deploy
      .ok (before ++ witness :: applied ++ after)

/-- All outcomes of the block before its transactions. -/
def preExecutionChangesWith (makesCall : Bool → Bool) :
    Except BlockExecutionError (List EvmState) := do
  let blockhashes ← calls.blockhashes state block
  let history ← historyOutcomes hardforks block (.blockHashContractCall
    "EIP-2935 pre-block system call did not succeed") blockhashes
  let beaconRoot ← calls.beaconRoot state block
  let beacon ← historyOutcomes hardforks block (.beaconRootContractCall
    "EIP-4788 pre-block system call did not succeed") beaconRoot
  let flat ← (flatSystemContractSpecs hardforks block.blockTimestamp).mapM
    (transactDeploy artifacts state)
  let registry ← registryOutcomesWith hardforks artifacts calls state block makesCall
  .ok (history ++ beacon ++ flat ++ registry)

/-- The outcomes of the code: the call is made exactly if a change is due. -/
def preExecutionChanges : Except BlockExecutionError (List EvmState) :=
  preExecutionChangesWith hardforks artifacts calls state block id

/-- Read the system address of the block from the committed registry. -/
def resolveSystemAddress (spec : MegaSpecId) :
    Except BlockExecutionError (Address × Option EvmState) :=
  if !spec.isEnabled .rex5 then .ok (megaSystemAddress, none)
  else if hardforks.sequencerRegistryConfig.isNone then
    .error (.blockHashContractCall "Rex5 active but SequencerRegistryConfig not configured")
  else do
    let existing ← state.loadCacheAccount sequencerRegistryAddress
    match existing with
    | none => .error (.blockHashContractCall
        "Rex5 active but SequencerRegistry account does not exist")
    | some info =>
      let expected :=
        if spec.isEnabled .rex6 then sequencerRegistryCodeHashRex6 else sequencerRegistryCodeHash
      if info.codeHash ≠ expected then
        .error (.unexpectedCodeHash sequencerRegistryAddress info.codeHash expected)
      else
        let value ← state.storage sequencerRegistryAddress Role.systemAddress.currentSlot
        if value = 0 then .error (.blockHashContractCall
          "SequencerRegistry deployed but _currentSystemAddress is zero")
        else
          let account :=
            { Account.readOnly info with
              storage := AList.singleton Role.systemAddress.currentSlot (.new value) }
          .ok (value % 2 ^ 160, some (AList.singleton sequencerRegistryAddress account))

/-- Everything before the transactions: the database they run on and the system address they
have. -/
def applyPreExecutionChanges : Except BlockExecutionError (BlockState × Address) := do
  let outcomes ← preExecutionChanges hardforks artifacts calls state block
  let committed := state.commitAll outcomes
  let (systemAddress, read) ← resolveSystemAddress hardforks committed
    (hardforks.specId block.blockTimestamp)
  .ok (committed.commitAll read.toList, systemAddress)

end PreBlock

end MegaEvm
