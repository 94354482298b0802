/-
This file models the accounts of the execution engine beneath the code: their info,
their status flags and their loaded storage slots, and the state changes of the
engine that the accounting of the code runs beside. The engine itself is not part of
the source; each change here is the one its interface documents.

A `World` gives every account as the journal of the running transaction sees it. A
slot that the transaction has not loaded reads as the database has it, or as zero in
an account the transaction created. A self-destructed account keeps its code and its
storage, and stays callable, until the transaction ends.
-/

import Mathlib.Logic.Function.Basic
import MegaEvm.Spec
import MegaEvm.Library.FiniteMap

namespace MegaEvm

/-! ### Accounts -/

/-- Code hashes, as numbers. -/
abbrev CodeHash := Nat

/-- The hash of the empty code. -/
def keccakEmpty : CodeHash := 0

/-- Loaded bytecode: plain code, or the delegation designator of EIP-7702. -/
inductive Bytecode
  | legacy (bytes : List Nat)
  | eip7702 (delegate : Address)
deriving DecidableEq

/-- Balance, nonce and code of an account. The bytecode behind the hash may not be loaded. -/
structure AccountInfo where
  balance : U256
  nonce : Nat
  codeHash : CodeHash
  code : Option Bytecode
deriving DecidableEq

/-- The info of an account that does not exist. -/
def AccountInfo.default : AccountInfo :=
  { balance := 0, nonce := 0, codeHash := keccakEmpty, code := none }

/-- The info without the bytecode that may be loaded with it. -/
def AccountInfo.plain (info : AccountInfo) : AccountInfo :=
  { info with code := none }

/-- An account is empty when nothing about it would be stored. -/
def AccountInfo.isEmpty (info : AccountInfo) : Bool :=
  info.balance == 0 && info.nonce == 0 && info.codeHash == keccakEmpty

theorem AccountInfo.plain_of_isEmpty {info : AccountInfo} (empty : info.isEmpty = true) :
    info.plain = AccountInfo.default.plain := by
  simp only [isEmpty, Bool.and_eq_true, beq_iff_eq] at empty
  obtain ⟨⟨balance, nonce⟩, codeHash⟩ := empty
  rw [plain, balance, nonce, codeHash]
  rfl

/-- A storage slot: its value at the start of the transaction and its value now. -/
structure EvmStorageSlot where
  originalValue : U256
  presentValue : U256
  isCold : Bool
deriving DecidableEq

/-- The slot is zero at the start of the transaction and not zero now. -/
def EvmStorageSlot.isNew (slot : EvmStorageSlot) : Bool :=
  slot.originalValue == 0 && slot.presentValue != 0

/-- The transaction changed the slot. -/
def EvmStorageSlot.isChanged (slot : EvmStorageSlot) : Bool :=
  slot.originalValue != slot.presentValue

/-- The status flags of an account in the journal. -/
structure AccountStatus where
  created : Bool
  createdLocal : Bool
  selfDestructed : Bool
  selfDestructedLocal : Bool
  touched : Bool
  loadedAsNotExisting : Bool
  cold : Bool
deriving DecidableEq

/-- The status of an account that was only loaded. -/
def AccountStatus.loaded : AccountStatus :=
  { created := false, createdLocal := false, selfDestructed := false,
    selfDestructedLocal := false, touched := false, loadedAsNotExisting := false, cold := false }

/-- An account in the journal, with the slots that are loaded. -/
structure Account where
  info : AccountInfo
  status : AccountStatus
  storage : AList fun _ : U256 => EvmStorageSlot

/-- An account just loaded with this info. -/
def Account.ofInfo (info : AccountInfo) : Account :=
  { info, status := .loaded, storage := ∅ }

open EvmStorageSlot

namespace Account

def isEmpty (account : Account) : Bool :=
  account.info.isEmpty

/-- The address an EIP-7702 account delegates to. -/
def delegate (account : Account) : Option Address :=
  match account.info.code with
  | some (.eip7702 target) => some target
  | _ => none

/-- The number of loaded slots that are new in this transaction. -/
def newSlots (account : Account) : Nat :=
  Library.valueCount EvmStorageSlot.isNew account.storage

/-- The account was created and self-destructed in this transaction. -/
def destroyed (account : Account) : Bool :=
  account.status.createdLocal && account.status.selfDestructedLocal

def setBalance (account : Account) (balance : U256) : Account :=
  { account with info := { account.info with balance } }

def setNonce (account : Account) (nonce : Nat) : Account :=
  { account with info := { account.info with nonce } }

/-- The slot a read of the key gives. -/
def slot (account : Account) (stored : U256) (key : U256) : EvmStorageSlot :=
  match account.storage.lookup key with
  | some slot => slot
  | none =>
    let value := if account.status.created then 0 else stored
    { originalValue := value, presentValue := value, isCold := false }

/-- Write one slot, loading it first. -/
def writeSlot (account : Account) (stored : U256) (key value : U256) : Account :=
  { account with
    storage :=
      account.storage.insert key { account.slot stored key with presentValue := value } }

/-- A slot that is not loaded is not new. -/
theorem isNew_slot (account : Account) (stored key : U256) :
    (account.slot stored key).isNew = (account.storage.lookup key).any isNew := by
  unfold slot
  cases account.storage.lookup key with
  | some slot => rfl
  | none =>
    simp only [isNew, Option.any_none]
    split <;> simp

/-- Writing a slot moves the number of new slots by what the slot was and what it becomes. -/
theorem newSlots_writeSlot (account : Account) (stored key value : U256) :
    (account.writeSlot stored key value).newSlots +
        (if (account.slot stored key).isNew then 1 else 0) =
      account.newSlots +
        (if ((account.slot stored key).originalValue == 0 && value != 0) then 1 else 0) := by
  have counted := Library.valueCount_insert isNew key
    { account.slot stored key with presentValue := value } account.storage
  rw [← isNew_slot account stored key] at counted
  exact counted

end Account

/-! ### Committing -/

/-- An account of the database, if there is one, and its storage. -/
structure Site where
  info : Option AccountInfo
  storage : U256 → U256

/-- No account. -/
def Site.absent : Site :=
  { info := none, storage := fun _ => 0 }

/-- The storage with the changed slots of an account written over it. -/
def Account.changedStorage (account : Account) (storage : U256 → U256) : U256 → U256 :=
  fun key =>
    match account.storage.lookup key with
    | some slot => if slot.isChanged then slot.presentValue else storage key
    | none => storage key

/-- Commit an account. -/
def Account.commit (account : Account) (site : Site) : Site :=
  if !account.status.touched then site
  else if account.status.selfDestructed then .absent
  else if account.status.created then
    { info := some account.info, storage := account.changedStorage fun _ => 0 }
  else if account.isEmpty then .absent
  else { info := some account.info, storage := account.changedStorage site.storage }

section Commit

variable {account : Account} {site : Site}

/-- What was not touched is not written. -/
theorem Account.commit_untouched (untouched : account.status.touched = false) :
    account.commit site = site := by
  simp [Account.commit, untouched]

variable (touched : account.status.touched = true)

include touched

variable (alive : account.status.selfDestructed = false)

include alive

theorem Account.info_commit : (account.commit site).info =
    if account.status.created || !account.isEmpty then some account.info else none := by
  cases created : account.status.created <;> cases empty : account.isEmpty <;>
    simp [Account.commit, touched, alive, created, empty, Site.absent]

/-- A commit stores the info of a touched account. An empty one is as good as none. -/
theorem Account.plain_commit_of_touched :
    account.info.plain = ((account.commit site).info.getD .default).plain := by
  rw [info_commit touched alive]
  split
  · rfl
  · rename_i removed
    rw [Bool.or_eq_true, not_or, Bool.not_eq_true', Bool.not_eq_false] at removed
    exact AccountInfo.plain_of_isEmpty removed.2

theorem Account.commit_created (created : account.status.created = true) :
    account.commit site =
      { info := some account.info, storage := account.changedStorage fun _ => 0 } := by
  simp [Account.commit, touched, alive, created]

theorem Account.commit_changed (old : account.status.created = false)
    (kept : account.isEmpty = false) :
    account.commit site =
      { info := some account.info, storage := account.changedStorage site.storage } := by
  simp [Account.commit, touched, alive, old, kept]

theorem Account.commit_empty (old : account.status.created = false)
    (empty : account.isEmpty = true) :
    account.commit site = .absent := by
  simp [Account.commit, touched, alive, old, empty]

end Commit

/-- The state a transaction ends with: every account it loaded. -/
abbrev EvmState := AList fun _ : Address => Account

/-! ### The world of a transaction -/

/-- Every account as the running transaction sees it. -/
abbrev World := Address → Account

namespace World

/-- Replace one account. -/
def set (world : World) (address : Address) (account : Account) : World :=
  Function.update world address account

@[simp] theorem set_same (world : World) (address : Address) (account : Account) :
    world.set address account address = account :=
  Function.update_self ..

theorem set_other (world : World) {address other : Address} (account : Account)
    (distinct : other ≠ address) : world.set address account other = world other :=
  Function.update_of_ne distinct ..

/-- Move a balance between two accounts. The sender must have it. -/
def transfer (world : World) (sender recipient : Address) (value : U256) : Option World :=
  if (world sender).info.balance < value then none
  else
    let debited := world.set sender
      ((world sender).setBalance ((world sender).info.balance - value))
    some (debited.set recipient
      ((debited recipient).setBalance ((debited recipient).info.balance + value)))

/-- The creator's nonce goes up before the create takes its checkpoint. -/
def bumpNonce (world : World) (address : Address) : World :=
  world.set address ((world address).setNonce ((world address).info.nonce + 1))

/-- A create collides with an account that has a nonce or code. -/
def collides (world : World) (address : Address) : Bool :=
  (world address).info.nonce != 0 || (world address).info.codeHash != keccakEmpty

/-- Mark an account as created by this transaction and give it its first nonce. -/
def createAccount (world : World) (address : Address) : World :=
  world.set address
    { world address with
      info := { (world address).info with nonce := 1, code := none }
      status := { (world address).status with created := true, createdLocal := true } }

/-- Deploy code. The engine refuses code that begins like a delegation designator. -/
def setCode (world : World) (address : Address) (codeHash : CodeHash) (bytes : List Nat) : World :=
  world.set address
    { world address with
      info := { (world address).info with codeHash, code := some (.legacy bytes) } }

/-- Self-destruct `address` in favour of `target`: the balance moves to a distinct target; an
account this transaction created is destroyed and loses its balance, an older one only loses the
balance that moved. -/
def selfDestruct (world : World) (address target : Address) : World :=
  let credited :=
    if address = target then world
    else world.set target
      ((world target).setBalance ((world target).info.balance + (world address).info.balance))
  if (world address).status.createdLocal then
    credited.set address
      { (credited address).setBalance 0 with
        status :=
          { (credited address).status with selfDestructed := true, selfDestructedLocal := true } }
  else if address = target then credited
  else credited.set address ((credited address).setBalance 0)

end World

end MegaEvm
