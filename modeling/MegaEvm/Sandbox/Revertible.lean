/-
This file shows that a journaled sandbox merge can be taken back. Whatever the parent
had loaded or changed and whatever the sandbox did, reverting to a checkpoint from
before the merge gives every account its balance, nonce, code hash and flags back and
every loaded slot its value, and a merge that fails has done so itself.

What stays is cache. A slot the sandbox loaded and the parent had not stays loaded, and
reads the value the sandbox loaded it with. That is what the database has, but for an
account that the sandbox created, whose slots it loaded as zero.
-/

import MegaEvm.Sandbox.Atomicity
import MegaEvm.Sandbox.MergeOrder

namespace MegaEvm

open Account

/-! ### The nesting of checkpoints -/

/-- A journal with the number of its open checkpoints. -/
structure NestedJournal where
  inner : Journal
  depth : Nat

namespace NestedJournal

def checkpoint (journal : NestedJournal) : NestedJournal × Journal.Checkpoint :=
  ({ journal with depth := journal.depth + 1 }, journal.inner.checkpoint)

def checkpointCommit (journal : NestedJournal) : NestedJournal :=
  { journal with depth := journal.depth - 1 }

def checkpointRevert (journal : NestedJournal) (checkpoint : Journal.Checkpoint) :
    NestedJournal :=
  { inner := journal.inner.checkpointRevert checkpoint, depth := journal.depth - 1 }

/-- Merge the sandbox state under a checkpoint of its own. -/
def applySandboxStateJournaled (journal : NestedJournal) (sandboxState : EvmState) :
    NestedJournal × Bool :=
  let (opened, checkpoint) := journal.checkpoint
  match opened.inner.applySandboxAccounts sandboxState.entries with
  | (merged, true) => ({ opened with inner := merged }.checkpointCommit, true)
  | (merged, false) => ({ opened with inner := merged }.checkpointRevert checkpoint, false)

/-- The merge closes the checkpoint it opens. -/
theorem applySandboxStateJournaled_eq (journal : NestedJournal) (sandboxState : EvmState) :
    journal.applySandboxStateJournaled sandboxState =
      ({ journal with inner := (journal.inner.applySandboxStateJournaled sandboxState).1 },
        (journal.inner.applySandboxStateJournaled sandboxState).2) := by
  unfold applySandboxStateJournaled Journal.applySandboxStateJournaled
  show (match journal.inner.applySandboxAccounts sandboxState.entries with
    | (merged, true) => _
    | (merged, false) => _) = _
  rcases journal.inner.applySandboxAccounts sandboxState.entries with ⟨merged, success⟩
  cases success <;> rfl

end NestedJournal

/-! ### What is restored -/

/-- The value the sandbox loaded a slot with, if it loaded it. -/
def EvmState.loadedWith (state : EvmState) (address : Address) (key : U256) : Option U256 :=
  ((state.lookup address).bind (·.storage.lookup key)).map EvmStorageSlot.originalValue

/-- Every account is as before, and so is every loaded slot. A slot that was not loaded may be
loaded now, with one of the given values. -/
structure Journal.Restored (loadedWith : Address → U256 → Option U256) (before after : Journal) :
    Prop where
  database : after.database = before.database
  entries : after.entries = before.entries
  logs : after.logs = before.logs
  balance : ∀ address, (after.account address).info.balance = (before.account address).info.balance
  nonce : ∀ address, (after.account address).info.nonce = (before.account address).info.nonce
  codeHash : ∀ address,
    (after.account address).info.codeHash = (before.account address).info.codeHash
  created : ∀ address,
    (after.account address).status.created = (before.account address).status.created
  touched : ∀ address,
    (after.account address).status.touched = (before.account address).status.touched
  slots : ∀ address key slot, (before.account address).storage.lookup key = some slot →
    ∃ kept, (after.account address).storage.lookup key = some kept ∧
      kept.presentValue = slot.presentValue
  absent : ∀ address key, (before.account address).storage.lookup key = none →
    ∀ kept, (after.account address).storage.lookup key = some kept →
      loadedWith address key = some kept.presentValue

namespace Journal

variable {stored : Address → Unloaded} {before after : Journal}

/-- What only loads restores, over what unloaded slots read. -/
theorem OnlyLoads.restored (loads : OnlyLoads stored before after)
    (indifferent : ∀ address created key, stored address created key = stored address false key) :
    Restored (fun address key => some (stored address false key)) before after where
  database := loads.database
  entries := loads.entries
  logs := loads.logs
  balance := loads.kept.balance
  nonce := loads.kept.nonce
  codeHash := loads.kept.codeHash
  created address := congrArg AccountView.created (congrFun loads.view address)
  touched address := congrArg AccountView.touched (congrFun loads.view address)
  slots := loads.kept.slots
  absent address key unloaded kept found := by
    have view := congrFun (congrArg AccountView.storage (congrFun loads.view address)) key
    rw [viewOver, viewOver, view_storage_of_loaded _ _ found,
      view_storage_of_unloaded _ _ unloaded, indifferent] at view
    rw [view]

/-- A slot reads what it read before if nothing loaded it since, or with that value. -/
theorem Restored.reads {loadedWith : Address → U256 → Option U256}
    (restored : Restored loadedWith before after) {address : Address} {key : U256}
    (loads : (before.account address).storage.lookup key = none →
      ∀ value, loadedWith address key = some value →
        value = before.database.unloaded address (before.account address).status.created key) :
    (after.view address).storage key = (before.view address).storage key := by
  unfold view viewOver
  cases found : (before.account address).storage.lookup key with
  | some slot =>
    obtain ⟨kept, foundAfter, same⟩ := restored.slots address key slot found
    rw [view_storage_of_loaded _ _ foundAfter, view_storage_of_loaded _ _ found, same]
  | none =>
    rw [view_storage_of_unloaded _ _ found]
    cases foundAfter : (after.account address).storage.lookup key with
    | some kept =>
      rw [view_storage_of_loaded _ _ foundAfter]
      exact loads found _ (restored.absent address key found kept foundAfter)
    | none =>
      rw [view_storage_of_unloaded _ _ foundAfter, restored.created, restored.database]

/-- If only slots of the sandbox can have been loaded whatever else unloaded slots read, only slots
of the sandbox have been loaded. -/
theorem restored_of_onlyLoads {state : EvmState}
    (loads : ∀ filler, OnlyLoads
      (fun address _ key => (state.loadedWith address key).getD filler) before after) :
    Restored state.loadedWith before after := by
  have restored (filler : U256) := (loads filler).restored fun _ _ _ => rfl
  refine { restored 0 with absent := fun address key unloaded kept found => ?_ }
  -- A slot that is not the sandbox's would read every filler.
  have value := (restored (kept.presentValue + 1)).absent address key unloaded kept found
  cases loaded : state.loadedWith address key with
  | some value' =>
    rw [loaded] at value
    exact value
  | none =>
    rw [loaded, Option.getD_none, Option.some.injEq] at value
    exact absurd value (Nat.succ_ne_self _)

end Journal

/-! ### What the sandbox loads -/

namespace EvmState

variable {state : EvmState}

theorem loadedWith_of_lookup {address : Address} {account : Account} {key : U256}
    {slot : EvmStorageSlot} (found : state.lookup address = some account)
    (loaded : account.storage.lookup key = some slot) :
    state.loadedWith address key = some slot.originalValue := by
  unfold loadedWith
  rw [found, Option.bind_some, loaded]
  rfl

/-- What unloaded slots read agrees with what the sandbox loaded where the parent has not loaded a
slot, and is the same with and without the mark of a created account. -/
structure LoadsAs (state : EvmState) (journal : Journal) (stored : Address → Unloaded) : Prop where
  loads : ∀ address key value, state.loadedWith address key = some value →
    (journal.account address).storage.lookup key = none → stored address false key = value
  indifferent : ∀ address created key, stored address created key = stored address false key

theorem LoadsAs.mergesSoundly {journal : Journal} {stored : Address → Unloaded}
    (loadsAs : state.LoadsAs journal stored) : journal.MergesSoundly stored state.entries := by
  rintro ⟨address, account⟩ member
  have found : state.lookup address = some account := AList.mem_lookup_iff.mpr member
  refine ⟨fun key slot loaded unloaded => ?_, fun _ _ _ key => loadsAs.indifferent address true key⟩
  rw [loadsAs.indifferent]
  exact (loadsAs.loads address key _ (loadedWith_of_lookup found loaded) unloaded).symm

theorem loadsAs_filler (state : EvmState) (journal : Journal) (filler : U256) :
    state.LoadsAs journal fun address _ key => (state.loadedWith address key).getD filler := by
  refine ⟨fun address key value loaded _ => ?_, fun _ _ _ => rfl⟩
  rw [loaded, Option.getD_some]

/-- The sandbox loaded its slots from its database, and as zero in an account it created. -/
def LoadedFrom (state : EvmState) (database : SandboxDb) : Prop :=
  ∀ address account, state.lookup address = some account →
  ∀ key slot, account.storage.lookup key = some slot →
    slot.originalValue = if account.status.created then 0 else database.storage address key

/-- The sandbox did not create an account here. -/
def NotCreated (state : EvmState) (address : Address) : Prop :=
  ∀ account, state.lookup address = some account → account.status.created = false

end EvmState

/-- The merge is taken back: everything is as before but for slots that the sandbox loaded, and
where neither the parent nor the sandbox created the account these read what the database has. -/
structure Journal.TakenBack (before : Journal) (state : EvmState) (after : Journal) : Prop where
  restored : Journal.Restored state.loadedWith before after
  fromDatabase : ∀ signer, state.LoadedFrom ⟨before, signer⟩ →
    ∀ address, (before.account address).status.created = false → state.NotCreated address →
    ∀ key, (after.view address).storage key = (before.view address).storage key

namespace Journal

variable {before after merged : Journal} {state : EvmState}

theorem Restored.takenBack (restored : Restored state.loadedWith before after) :
    TakenBack before state after := by
  refine ⟨restored, fun signer loadedFrom address notCreated sandboxNotCreated key => ?_⟩
  refine restored.reads fun unloaded value loaded => ?_
  obtain ⟨slot, foundSlot, rfl⟩ := Option.map_eq_some_iff.mp loaded
  obtain ⟨account, found, loadedSlot⟩ := Option.bind_eq_some_iff.mp foundSlot
  rw [loadedFrom address account found key slot loadedSlot, sandboxNotCreated account found,
    notCreated, SandboxDb.storage_of_unloaded ⟨before, signer⟩ unloaded]
  rfl

theorem checkpointRevert_takenBack
    (through : before.applySandboxStateJournaled state = (merged, true)) :
    TakenBack before state (merged.checkpointRevert before.checkpoint) := by
  refine (restored_of_onlyLoads fun filler => ?_).takenBack
  obtain ⟨newest, since⟩ := MergedSince.applySandboxStateJournaled
    (state.loadsAs_filler before filler).mergesSoundly through
  exact since.checkpointRevert

theorem failed_takenBack (failed : before.applySandboxStateJournaled state = (merged, false)) :
    TakenBack before state merged :=
  (restored_of_onlyLoads fun filler => applySandboxStateJournaled_failed
    (state.loadsAs_filler before filler).mergesSoundly failed).takenBack

/-- A checkpoint further out takes back the merge together with what can be undone around it. -/
theorem enclosing_restored {earlier later : Journal} {older newer : List (Address × AccountChange)}
    {stored : Address → Unloaded} (loadsAs : state.LoadsAs before stored)
    (through : before.applySandboxStateJournaled state = (merged, true))
    (since : MergedSince stored earlier before older)
    (afterwards : MergedSince stored merged later newer) :
    Restored (fun address key => some (stored address false key)) earlier
      (later.checkpointRevert earlier.checkpoint) := by
  obtain ⟨newest, merges⟩ := MergedSince.applySandboxStateJournaled loadsAs.mergesSoundly through
  exact ((since.trans merges).trans afterwards).checkpointRevert.restored loadsAs.indifferent

end Journal

/-! ### The merge is revertible -/

/-- Reverting to a checkpoint from before a merge that went through takes it back, also together
with other work that can be undone; a merge that fails is taken back already, with the depth and the
changes of the journal as before. Whether it goes through, and the accounts it gives if it does, do
not depend on the order of the accounts and slots of the sandbox. -/
theorem NestedJournal.applySandboxStateJournaled_revertible (journal : NestedJournal)
    (state : EvmState) :
    (∀ merged, journal.applySandboxStateJournaled state = (merged, true) →
      merged.depth = journal.depth ∧
      journal.inner.TakenBack state (merged.inner.checkpointRevert journal.inner.checkpoint) ∧
      ∀ stored, state.LoadsAs journal.inner stored →
      ∀ earlier older, Journal.MergedSince stored earlier journal.inner older →
      ∀ later newer, Journal.MergedSince stored merged.inner later newer →
        Journal.Restored (fun address key => some (stored address false key)) earlier
          (later.checkpointRevert earlier.checkpoint)) ∧
    (∀ merged, journal.applySandboxStateJournaled state = (merged, false) →
      merged.depth = journal.depth ∧ journal.inner.TakenBack state merged.inner) ∧
    ∀ reordered, state.Reordered reordered →
      (journal.applySandboxStateJournaled reordered).2 =
          (journal.applySandboxStateJournaled state).2 ∧
        ((journal.applySandboxStateJournaled state).2 = true →
          (journal.applySandboxStateJournaled state).1.inner.Same
            (journal.applySandboxStateJournaled reordered).1.inner) := by
  have inner (success : Bool) (merged : NestedJournal)
      (returned : journal.applySandboxStateJournaled state = (merged, success)) :
      merged.depth = journal.depth ∧
        journal.inner.applySandboxStateJournaled state = (merged.inner, success) := by
    rw [applySandboxStateJournaled_eq] at returned
    obtain ⟨rfl, rfl⟩ := Prod.mk.inj returned
    exact ⟨rfl, rfl⟩
  refine ⟨fun merged returned => ?_, fun merged returned => ?_, fun reordered same => ?_⟩
  · obtain ⟨depth, through⟩ := inner true merged returned
    refine ⟨depth, Journal.checkpointRevert_takenBack through, ?_⟩
    intro stored loadsAs earlier older since later newer afterwards
    exact Journal.enclosing_restored loadsAs through since afterwards
  · obtain ⟨depth, failed⟩ := inner false merged returned
    exact ⟨depth, Journal.failed_takenBack failed⟩
  · rw [applySandboxStateJournaled_eq, applySandboxStateJournaled_eq]
    exact same.applySandboxStateJournaled_same journal.inner

/-- A database without accounts that has a slot under the address 2. -/
def staleDatabase : Database :=
  { Database.empty with storage := fun address key => if address = 2 ∧ key = 1 then 5 else 0 }

/-- The parent holds an account with a slot that the transaction has changed. -/
def staleParent : NestedJournal where
  inner :=
    { Journal.new staleDatabase with
      state := fun address =>
        if address = 1 then
          some
            { info := { AccountInfo.default with balance := 7, nonce := 3 }
              status := { AccountStatus.loaded with touched := true }
              storage := AList.singleton 4 ⟨0, 6, false⟩ }
        else none
      entries := [(1, .storageChanged 4 0), (1, .accountTouched)] }
  depth := 2

/-- The account the sandbox creates: it writes the slot that the database has a value for. -/
def createdAtTwo : Account where
  info :=
    { AccountInfo.default with
      balance := 2, nonce := 1, codeHash := 9, code := some (.legacy [0]) }
  status := { AccountStatus.loaded with created := true, createdLocal := true, touched := true }
  storage := AList.singleton 1 ⟨0, 8, false⟩

/-- The sandbox takes two from the account of the parent, writes its slot and creates another. -/
def creatingState : EvmState :=
  AList.insert 1
    { info := { AccountInfo.default with balance := 5, nonce := 4 }
      status := { AccountStatus.loaded with touched := true }
      storage := AList.singleton 4 ⟨6, 9, false⟩ }
    (AList.singleton 2 createdAtTwo)

/-- The merge goes through, moves the account of the parent, and is taken back. -/
theorem NestedJournal.applySandboxStateJournaled_revertible_creating :
    (staleParent.applySandboxStateJournaled creatingState).2 = true ∧
      ((staleParent.applySandboxStateJournaled creatingState).1.inner.account 1).info.nonce = 4 ∧
      staleParent.inner.TakenBack creatingState
        ((staleParent.applySandboxStateJournaled creatingState).1.inner.checkpointRevert
          staleParent.inner.checkpoint) :=
  ⟨by decide, by decide,
    ((applySandboxStateJournaled_revertible staleParent creatingState).1 _
      (Prod.ext rfl (by decide))).2.1⟩

/-- A slot that the parent had not loaded reads zero after the revert, where the database has a
value: the sandbox loaded it in an account that it created. -/
theorem NestedJournal.stale_slot_not_restored :
    ∃ merged, staleParent.applySandboxStateJournaled creatingState = (merged, true) ∧
      staleParent.inner.state 2 = none ∧
      staleParent.inner.database.storage 2 1 = 5 ∧
      ((merged.inner.checkpointRevert staleParent.inner.checkpoint).view 2).storage 1 = 0 :=
  ⟨(staleParent.applySandboxStateJournaled creatingState).1, Prod.ext rfl (by decide), by decide,
    by decide, by decide⟩

end MegaEvm
