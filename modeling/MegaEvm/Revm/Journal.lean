/-
This file models the journal of a transaction: the accounts it has loaded over a
database, the log of their changes and the logs it emitted. Each entry of the change
log says how its change is undone, and reverting to a checkpoint undoes every entry
above it. The entries are those of the execution engine that the sandbox merge pushes.

The database answers from a fixed committed state, and any single query may fail. The
journal also has the inspections of the code, which load an account without warming
it.
-/

import MegaEvm.Library.UndoLog
import MegaEvm.Revm.Interface

namespace MegaEvm

/-! ### The database -/

/-- The committed state behind a journal. `failing` says which queries fail, by their number. -/
structure Database where
  basic : Address → Option AccountInfo
  storage : Address → U256 → U256
  codeByHash : CodeHash → Bytecode
  failing : Nat → Bool

/-- A database without accounts that always answers. -/
def Database.empty : Database :=
  { basic := fun _ => none, storage := fun _ _ => 0, codeByHash := fun _ => .legacy [],
    failing := fun _ => false }

/-- The account the database has at an address, loaded without warming it. -/
def Database.account (database : Database) (address : Address) : Account :=
  { Account.ofInfo ((database.basic address).getD .default) with
    status :=
      { AccountStatus.loaded with
        loadedAsNotExisting := (database.basic address).isNone
        cold := true } }

/-! ### Changes -/

/-- The changes of an account that the journal can undo. -/
inductive AccountChange
  | accountTouched
  | balanceChange (oldBalance : U256)
  | nonceChange
  | accountCreated (isCreatedGlobally : Bool)
  | storageChanged (key hadValue : U256)
  | codeChange
deriving DecidableEq

namespace Account

/-- Set the present value of a loaded slot. -/
def setSlot (account : Account) (key value : U256) : Account :=
  match account.storage.lookup key with
  | some slot =>
    { account with storage := account.storage.insert key { slot with presentValue := value } }
  | none => account

def setTouched (account : Account) (touched : Bool) : Account :=
  { account with status := { account.status with touched } }

def setCode (account : Account) (codeHash : CodeHash) (code : Option Bytecode) : Account :=
  { account with info := { account.info with codeHash, code } }

/-- Mark an account as created here. Says whether it was not marked as created before. -/
def markCreatedLocally (account : Account) : Account × Bool :=
  ({ account with status := { account.status with created := true, createdLocal := true } },
    !account.status.created)

/-- Undo the creation of an account. Only an account with nonce zero can be created, so its nonce
goes back to zero. -/
def unmarkCreated (account : Account) (isCreatedGlobally : Bool) : Account :=
  { account with
    info := { account.info with nonce := 0 }
    status :=
      { account.status with
        createdLocal := false
        created := if isCreatedGlobally then false else account.status.created } }

end Account

/-- Undo one change of an account. -/
def AccountChange.undo (change : AccountChange) (account : Account) : Account :=
  match change with
  | accountTouched => account.setTouched false
  | balanceChange oldBalance => account.setBalance oldBalance
  | nonceChange => account.setNonce (account.info.nonce - 1)
  | accountCreated isCreatedGlobally => account.unmarkCreated isCreatedGlobally
  | storageChanged key hadValue => account.setSlot key hadValue
  | codeChange => account.setCode keccakEmpty none

/-! ### The journal -/

/-- A log of the transaction. -/
structure Log where
  address : Address
  topics : List U256
  data : List Nat
deriving DecidableEq

/-- The accounts a transaction has loaded, its changes newest first, its logs oldest first, and
the number of queries made to the database so far. -/
@[ext] structure Journal where
  database : Database
  state : Address → Option Account
  entries : List (Address × AccountChange)
  logs : List Log
  queries : Nat

/-- A journal that has loaded nothing. -/
def Journal.new (database : Database) : Journal :=
  { database, state := fun _ => none, entries := [], logs := [], queries := 0 }

namespace Journal

/-- Where to revert to: the numbers of logs and of changes at the checkpoint. -/
structure Checkpoint where
  logIndex : Nat
  journalIndex : Nat

def checkpoint (journal : Journal) : Checkpoint :=
  { logIndex := journal.logs.length, journalIndex := journal.entries.length }

/-- Undo every change above the checkpoint and drop the logs above it. -/
def checkpointRevert (journal : Journal) (checkpoint : Checkpoint) : Journal :=
  let above := journal.entries.length - checkpoint.journalIndex
  { journal with
    state :=
      Library.rollback (fun change => Option.map change.undo) (journal.entries.take above)
        journal.state
    entries := journal.entries.drop above
    logs := journal.logs.take checkpoint.logIndex }

def log (journal : Journal) (log : Log) : Journal :=
  { journal with logs := journal.logs ++ [log] }

/-- Put an account into the loaded state. -/
def setAccount (journal : Journal) (address : Address) (account : Account) : Journal :=
  { journal with state := Function.update journal.state address (some account) }

/-- Put an account into the loaded state together with the changes that made it, newest first. -/
def record (journal : Journal) (address : Address) (account : Account)
    (changes : List AccountChange) : Journal :=
  { journal.setAccount address account with
    entries := changes.map (fun change => (address, change)) ++ journal.entries }

/-- Ask the database something. -/
def query {Answer : Type} (journal : Journal) (answer : Database → Answer) :
    Journal × Option Answer :=
  ({ journal with queries := journal.queries + 1 },
    if journal.database.failing journal.queries then none else some (answer journal.database))

/-- Load the bytecode of an account if the account has code and it is not loaded. -/
def hydrate (journal : Journal) (account : Account) : Journal × Option Account :=
  if account.info.codeHash ≠ keccakEmpty ∧ account.info.code = none then
    match journal.query (·.codeByHash account.info.codeHash) with
    | (queried, some code) => (queried, some (account.setCode account.info.codeHash (some code)))
    | (queried, none) => (queried, none)
  else (journal, some account)

/-- An account with its code loaded, which is what loading it gives. -/
def hydrated (database : Database) (account : Account) : Account :=
  if account.info.codeHash ≠ keccakEmpty ∧ account.info.code = none then
    account.setCode account.info.codeHash (some (database.codeByHash account.info.codeHash))
  else account

/-- Keep an account that was read, if it could be read. -/
def keep (address : Address) : Journal × Option Account → Journal × Option Account
  | (journal, some account) => (journal.setAccount address account, some account)
  | (journal, none) => (journal, none)

/-- Load an account without warming it. The code of an account that is loaded already is always
loaded too. -/
def inspectAccount (journal : Journal) (address : Address) (loadCode : Bool) :
    Journal × Option Account :=
  match journal.state address with
  | some account => keep address (journal.hydrate account)
  | none =>
    match journal.query (·.account address) with
    | (queried, none) => (queried, none)
    | (queried, some account) =>
      keep address (if loadCode then queried.hydrate account else (queried, some account))

/-- Load an account without warming it and without its code, and return its code hash. -/
def inspectAccountCodeHash (journal : Journal) (address : Address) : Journal × Option CodeHash :=
  match journal.state address with
  | some account => (journal, some account.info.codeHash)
  | none =>
    match journal.query (·.account address) with
    | (queried, some account) =>
      (queried.setAccount address account, some account.info.codeHash)
    | (queried, none) => (queried, none)

end Journal

end MegaEvm
