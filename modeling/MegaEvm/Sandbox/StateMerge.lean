/-
This file models how the state of a finished sandbox is merged into the journal of
its parent. The accounts of the sandbox are merged one after the other: the parent's
account takes over balance, nonce, code and slots, and every change of it is recorded
so that it can be undone. An account that cannot be merged stops the loop half-way,
and the merge reverts to the checkpoint it took at the start.

A sandbox account that was created and self-destructed merges into an account that is
marked as created and has nothing.
-/

import MegaEvm.Revm.Journal

namespace MegaEvm

/-- An account of the parent during its merge, with the changes made so far, newest first. -/
structure Merging where
  account : Account
  changes : List AccountChange

namespace Merging

/-- Change the account and record how to undo that. -/
def push (merging : Merging) (change : AccountChange) (account : Account) : Merging :=
  { account, changes := change :: merging.changes }

def markAccountCreatedForSandboxMerge (merging : Merging) : Merging :=
  let (account, isCreatedGlobally) := merging.account.markCreatedLocally
  merging.push (.accountCreated isCreatedGlobally) account

def touch (merging : Merging) : Merging :=
  if merging.account.status.touched then merging
  else merging.push .accountTouched (merging.account.setTouched true)

/-- Set a loaded slot to zero. -/
def zeroParentStorageSlot (merging : Merging) (key : U256) : Merging :=
  let hadValue :=
    ((merging.account.storage.lookup key).map EvmStorageSlot.presentValue).getD 0
  if hadValue = 0 then merging
  else merging.push (.storageChanged key hadValue) (merging.account.setSlot key 0)

def zeroParentStorageSlots (merging : Merging) (keys : List U256) : Merging :=
  keys.foldl zeroParentStorageSlot merging

/-- A created account replaces what was stored at its address, so the loaded slots that the
sandbox does not have become zero. -/
def zeroParentStorageAbsentFromSandbox (merging : Merging) (sandbox : Account) : Merging :=
  merging.zeroParentStorageSlots
    (merging.account.storage.keys.filter fun key => (sandbox.storage.lookup key).isNone)

def mergeBalance (merging : Merging) (sandbox : Account) : Merging :=
  if sandbox.info.balance = merging.account.info.balance then merging
  else merging.push (.balanceChange merging.account.info.balance)
    (merging.account.setBalance sandbox.info.balance)

/-- Take the whole balance away. -/
def emptyBalance (merging : Merging) : Merging :=
  if merging.account.info.balance = 0 then merging
  else merging.push (.balanceChange merging.account.info.balance) (merging.account.setBalance 0)

/-- One change for each increment, as undoing one takes back one. -/
def mergeNonce (merging : Merging) (sandbox : Account) : Merging :=
  let difference := sandbox.info.nonce - merging.account.info.nonce
  { account :=
      if 0 < difference then merging.account.setNonce sandbox.info.nonce else merging.account
    changes := List.replicate difference .nonceChange ++ merging.changes }

/-- The code is not loaded, or loaded as empty. -/
def codeMissing (account : Account) : Bool :=
  match account.info.code with
  | none => true
  | some (.legacy bytes) => bytes.isEmpty
  | some (.eip7702 _) => false

/-- The code of the sandbox. Equal code may still fill the parent's cache, which is no change of
state; other code can only be put where there was none, and putting it touches the account. -/
def mergeCode (merging : Merging) (sandbox : Account) : Option Merging :=
  if sandbox.info.codeHash = merging.account.info.codeHash then
    if merging.account.info.codeHash ≠ keccakEmpty && codeMissing merging.account &&
        sandbox.info.code.isSome then
      some { merging with
        account := merging.account.setCode merging.account.info.codeHash sandbox.info.code }
    else some merging
  else if merging.account.info.codeHash ≠ keccakEmpty then none
  else
    match sandbox.info.code with
    | none => none
    | some code =>
      some (merging.touch.push .codeChange
        (merging.touch.account.setCode sandbox.info.codeHash (some code)))

/-- The slot the parent has after the merge. A slot it has not loaded is inserted cold. -/
def mergedSlot (parentSlot : Option EvmStorageSlot) (sandboxSlot : EvmStorageSlot) :
    EvmStorageSlot :=
  match parentSlot with
  | some slot => { slot with presentValue := sandboxSlot.presentValue }
  | none => { sandboxSlot with isCold := true }

/-- The value of one slot. For a slot the parent has not loaded, the value to go back to is the one
it had when the sandbox loaded it. -/
def mergeSlot (merging : Merging) (key : U256) (sandboxSlot : EvmStorageSlot) : Merging :=
  let parentSlot := merging.account.storage.lookup key
  let hadValue := (parentSlot.map EvmStorageSlot.presentValue).getD sandboxSlot.originalValue
  { account :=
      { merging.account with
        storage := merging.account.storage.insert key (mergedSlot parentSlot sandboxSlot) }
    changes :=
      if sandboxSlot.presentValue = hadValue then merging.changes
      else .storageChanged key hadValue :: merging.changes }

def mergeSlots (merging : Merging) (slots : List (Sigma fun _ : U256 => EvmStorageSlot)) :
    Merging :=
  slots.foldl (fun merging slot => merging.mergeSlot slot.1 slot.2) merging

end Merging

/-- A create can only be merged over an account without nonce and code. -/
def ensureSandboxCreateCanMerge (parent : Account) : Bool :=
  parent.info.nonce == 0 && parent.info.codeHash == keccakEmpty

/-- Merge an account that the sandbox created and self-destructed. Says whether it could. -/
def applySandboxCreatedSelfdestruct (sandbox parent : Account) : Merging × Bool :=
  if sandbox.status.created && ensureSandboxCreateCanMerge parent then
    let emptied := (Merging.mk parent []).markAccountCreatedForSandboxMerge.touch.emptyBalance
    (emptied.zeroParentStorageSlots emptied.account.storage.keys, true)
  else (⟨parent, []⟩, false)

/-- The account of the parent as a sandbox account starts to merge into it: marked as created and
without its own slots if the sandbox created it. -/
def Merging.prepared (sandbox parent : Account) : Merging :=
  if sandbox.status.created then
    (Merging.mk parent []).markAccountCreatedForSandboxMerge.zeroParentStorageAbsentFromSandbox
      sandbox
  else ⟨parent, []⟩

/-- Merge one account of the sandbox into the account of the parent. Says whether it could; what
was changed before a failure stays recorded. -/
def mergeSandboxAccount (sandbox parent : Account) : Merging × Bool :=
  if sandbox.status.selfDestructed then applySandboxCreatedSelfdestruct sandbox parent
  else if sandbox.status.created && !ensureSandboxCreateCanMerge parent then (⟨parent, []⟩, false)
  else
    let balanced := (Merging.prepared sandbox parent).mergeBalance sandbox
    if sandbox.info.nonce < parent.info.nonce then (balanced, false)
    else
      let counted := balanced.mergeNonce sandbox
      match counted.mergeCode sandbox with
      | none => (counted, false)
      | some coded =>
        let touched := if sandbox.status.touched then coded.touch else coded
        (touched.mergeSlots sandbox.storage.entries, true)

namespace Journal

/-- Merge the accounts of the sandbox one after the other. Says whether all could be merged. -/
def applySandboxAccounts (journal : Journal) :
    List (Sigma fun _ : Address => Account) → Journal × Bool
  | [] => (journal, true)
  | ⟨address, sandbox⟩ :: rest =>
    match journal.inspectAccount address false with
    | (inspected, none) => (inspected, false)
    | (inspected, some parent) =>
      match mergeSandboxAccount sandbox parent with
      | (merging, true) =>
        (inspected.record address merging.account merging.changes).applySandboxAccounts rest
      | (merging, false) => (inspected.record address merging.account merging.changes, false)

/-- Merge the sandbox state, or leave the journal as it was at the checkpoint. -/
def applySandboxStateJournaled (journal : Journal) (sandboxState : EvmState) : Journal × Bool :=
  match journal.applySandboxAccounts sandboxState.entries with
  | (merged, true) => (merged, true)
  | (merged, false) => (merged.checkpointRevert journal.checkpoint, false)

end Journal

end MegaEvm
