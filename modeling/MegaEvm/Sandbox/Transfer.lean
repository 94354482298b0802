/-
This file compares what the parent sees after a sandbox merge with what the sandbox saw
at its end. The sandbox saw its own accounts over its database, which reads the
parent's journal and, for what that has not loaded, the parent's database. A created
account of the sandbox has no other slots than its own, and a destroyed one has
nothing.

The database of the sandbox does not know which accounts the transaction has created.
It reads an unloaded slot of such an account from the database, where the parent reads
zero. A keyless deploy is a top-level call, so its parent has created nothing yet.
-/

import MegaEvm.Sandbox.Revertible
import MegaEvm.Sandbox.Transact

namespace MegaEvm

open Journal

/-! ### Contents -/

/-- What an account has, its flags apart. -/
@[ext] structure AccountContents where
  balance : U256
  nonce : Nat
  codeHash : CodeHash
  storage : U256 → U256

/-- Nothing. -/
def AccountContents.empty : AccountContents :=
  { balance := 0, nonce := 0, codeHash := keccakEmpty, storage := fun _ => 0 }

/-- The contents of an account whose other slots read as given. -/
def Account.contents (account : Account) (otherSlots : U256 → U256) : AccountContents where
  balance := account.info.balance
  nonce := account.info.nonce
  codeHash := account.info.codeHash
  storage key :=
    ((account.storage.lookup key).map EvmStorageSlot.presentValue).getD (otherSlots key)

def AccountView.contents (view : AccountView) : AccountContents :=
  { balance := view.balance, nonce := view.nonce, codeHash := view.codeHash,
    storage := view.storage }

/-- What the sandbox reads of an account it has not loaded. -/
def SandboxDb.contents (database : SandboxDb) (address : Address) : AccountContents :=
  { balance := (database.info address).balance
    nonce := (database.info address).nonce
    codeHash := (database.info address).codeHash
    storage := database.storage address }

/-- What the sandbox sees of an account at its end. -/
def EvmState.contentsOver (state : EvmState) (database : SandboxDb) (address : Address) :
    AccountContents :=
  match state.lookup address with
  | none => database.contents address
  | some account =>
    if account.status.selfDestructed then .empty
    else if account.status.created then account.contents fun _ => 0
    else account.contents (database.storage address)

/-- The bytecode behind an info: the loaded one, or the one that the database has for the hash. -/
def AccountInfo.bytecode (info : AccountInfo) (database : Database) : Bytecode :=
  info.code.getD (database.codeByHash info.codeHash)

/-- The bytecode that a call of an account runs. -/
def Journal.bytecode (journal : Journal) (address : Address) : Bytecode :=
  (journal.account address).info.bytecode journal.database

/-! ### What a merge that went through found -/

/-- A destroyed account merges only where the parent has neither nonce nor code. -/
theorem fresh_of_mergeSandboxAccount {sandbox parent : Account}
    (destroyed : sandbox.status.selfDestructed = true)
    (merges : (mergeSandboxAccount sandbox parent).2 = true) :
    parent.info.nonce = 0 ∧ parent.info.codeHash = keccakEmpty := by
  unfold mergeSandboxAccount applySandboxCreatedSelfdestruct at merges
  rw [if_pos destroyed] at merges
  split at merges
  · next creates =>
    exact (ensureSandboxCreateCanMerge_iff parent).mp (Bool.and_eq_true_iff.mp creates).2
  · cases merges

namespace Journal

/-- An inspection without the code gives the account of the parent. -/
theorem inspected_info (journal : Journal) (address : Address) :
    (journal.inspected address).info.nonce = (journal.account address).info.nonce ∧
      (journal.inspected address).info.codeHash = (journal.account address).info.codeHash ∧
      (journal.inspected address).info.bytecode journal.database = journal.bytecode address := by
  unfold inspected bytecode account hydrated
  cases journal.state address with
  | none => exact ⟨rfl, rfl, rfl⟩
  | some account =>
    dsimp only [Option.getD_some]
    split
    · next missing =>
      refine ⟨rfl, rfl, ?_⟩
      unfold AccountInfo.bytecode
      rw [missing.2]
      rfl
    · exact ⟨rfl, rfl, rfl⟩

variable {journal merged : Journal} {state : EvmState}

theorem fresh_of_destroyed (through : journal.applySandboxStateJournaled state = (merged, true))
    {address : Address} {account : Account} (found : state.lookup address = some account)
    (destroyed : account.status.selfDestructed = true) :
    (journal.account address).info.nonce = 0 ∧
      (journal.account address).info.codeHash = keccakEmpty := by
  obtain ⟨mergesAll, -⟩ :=
    (journal.applySandboxStateJournaled_iff_mergesAll merged state).mp through
  have merges := mergesAll.merges ⟨address, account⟩ (AList.mem_lookup_iff.mp found)
  obtain ⟨nonce, codeHash, -⟩ := journal.inspected_info address
  rw [← nonce, ← codeHash]
  exact fresh_of_mergeSandboxAccount destroyed merges

end Journal

/-! ### The bytecode of a merged account -/

section Bytecode

open Merging

variable {sandbox parent : Account} {merging coded : Merging} (database : Database)

theorem Merging.bytecode_mergeCode (codes : merging.mergeCode sandbox = some coded)
    (agree : sandbox.info.codeHash = merging.account.info.codeHash →
      sandbox.info.bytecode database = merging.account.info.bytecode database) :
    coded.account.info.bytecode database = sandbox.info.bytecode database := by
  unfold mergeCode at codes
  split at codes
  · next same =>
    split at codes
    · cases codes
      unfold AccountInfo.bytecode
      rw [same]
      rfl
    · cases codes
      exact (agree same).symm
  · split at codes
    · cases codes
    · unfold AccountInfo.bytecode
      cases loaded : sandbox.info.code with
      | none =>
        rw [loaded] at codes
        cases codes
      | some code =>
        rw [loaded] at codes
        cases codes
        rfl

/-- Balance and nonce are merged before the code, and leave it alone. -/
theorem Merging.bytecode_mergeNonce (agree : sandbox.info.codeHash = parent.info.codeHash →
      sandbox.info.bytecode database = parent.info.bytecode database) :
    let counted := ((prepared sandbox parent).mergeBalance sandbox).mergeNonce sandbox
    sandbox.info.codeHash = counted.account.info.codeHash →
      sandbox.info.bytecode database = counted.account.info.bytecode database := by
  rw [← @prepared_info sandbox parent] at agree
  unfold mergeNonce mergeBalance
  dsimp only
  split <;> split <;> exact agree

/-- An account that merges runs the bytecode it has in the sandbox, unless the parent has other
bytecode with the same hash. -/
theorem bytecode_mergeSandboxAccount (alive : sandbox.status.selfDestructed = false)
    (merges : mergeSandboxAccount sandbox parent = (merging, true))
    (agree : sandbox.info.codeHash = parent.info.codeHash →
      sandbox.info.bytecode database = parent.info.bytecode database) :
    merging.account.info.bytecode database = sandbox.info.bytecode database := by
  unfold mergeSandboxAccount at merges
  rw [if_neg (by rw [alive]; exact Bool.false_ne_true)] at merges
  split at merges
  · cases merges
  dsimp only at merges
  split at merges
  · cases merges
  split at merges
  · cases merges
  · next coded codes =>
    cases merges
    rw [← bytecode_mergeCode database codes (bytecode_mergeNonce database agree),
      account_mergeSlots]
    split
    · exact congrArg (AccountInfo.bytecode · database) coded.touch_info
    · rfl

end Bytecode

/-! ### Slots that both leave alone -/

/-- The sandbox leaves a slot alone: it neither loaded it nor created or destroyed its account. -/
def EvmState.LeavesSlot (state : EvmState) (address : Address) (key : U256) : Prop :=
  ∀ account, state.lookup address = some account →
    account.status.selfDestructed = false ∧ account.status.created = false ∧
      account.storage.lookup key = none

/-- The database has nothing under a slot that the parent has not loaded and the sandbox leaves
alone, in an account that the transaction has created. -/
def Journal.NoStaleSlot (journal : Journal) (state : EvmState) : Prop :=
  ∀ address key, (journal.account address).status.created = true →
    (journal.account address).storage.lookup key = none → state.LeavesSlot address key →
      journal.database.storage address key = 0

/-- The parent and the database of the sandbox read a slot alike, but for a stale one. -/
theorem Journal.storage_eq_iff (journal : Journal) (signer address : Address) (key : U256) :
    (journal.view address).storage key = SandboxDb.storage ⟨journal, signer⟩ address key ↔
      ((journal.account address).status.created = true →
        (journal.account address).storage.lookup key = none →
          journal.database.storage address key = 0) := by
  unfold view viewOver
  cases loaded : (journal.account address).storage.lookup key with
  | some slot =>
    have reads : SandboxDb.storage ⟨journal, signer⟩ address key = slot.presentValue := by
      unfold account at loaded
      unfold SandboxDb.storage
      cases resident : journal.state address with
      | none =>
        rw [resident] at loaded
        cases loaded
      | some account =>
        rw [resident, Option.getD_some] at loaded
        rw [Option.bind_some, loaded]
    rw [Account.view_storage_of_loaded _ _ loaded, reads]
    exact ⟨fun _ _ impossible => (nomatch impossible), fun _ => rfl⟩
  | none =>
    rw [Account.view_storage_of_unloaded _ _ loaded,
      SandboxDb.storage_of_unloaded ⟨journal, signer⟩ loaded]
    unfold Database.unloaded
    cases (journal.account address).status.created with
    | false => exact ⟨fun _ impossible => (nomatch impossible), fun _ => rfl⟩
    | true => exact ⟨fun same _ _ => same.symm, fun zero => (zero rfl rfl).symm⟩

/-! ### The transfer -/

/-- What the parent is to see after the merge, apart from slots that the sandbox leaves alone. -/
structure Transfers (journal : Journal) (state : EvmState) (merged : Journal) : Prop where
  alive : ∀ address account, state.lookup address = some account →
    account.status.selfDestructed = false →
    (merged.view address).balance = account.info.balance ∧
      (merged.view address).nonce = account.info.nonce ∧
      (merged.view address).codeHash = account.info.codeHash
  code : ∀ address account, state.lookup address = some account →
    account.status.selfDestructed = false →
    (account.info.codeHash = (journal.account address).info.codeHash →
      account.info.bytecode journal.database = journal.bytecode address) →
    merged.bytecode address = account.info.bytecode journal.database
  slots : ∀ address account, state.lookup address = some account →
    account.status.selfDestructed = false → ∀ key slot, account.storage.lookup key = some slot →
      (merged.view address).storage key = slot.presentValue
  created : ∀ address account, state.lookup address = some account →
    account.status.selfDestructed = false → account.status.created = true →
    ∀ key, account.storage.lookup key = none → (merged.view address).storage key = 0
  destroyed : ∀ address account, state.lookup address = some account →
    account.status.selfDestructed = true → (merged.view address).contents = .empty
  others : ∀ address, state.lookup address = none →
    merged.view address = journal.view address ∧ merged.bytecode address = journal.bytecode address
  otherSlots : ∀ address key, state.LeavesSlot address key →
    (merged.view address).storage key = (journal.view address).storage key

namespace Journal

variable {journal merged : Journal} {state : EvmState} {signer : Address} {address : Address}
  {account : Account} (through : journal.applySandboxStateJournaled state = (merged, true))

include through

/-- The view of an account that the sandbox does not have. -/
theorem view_of_absent (absent : state.lookup address = none) :
    merged.view address = journal.view address := by
  rw [(applySandboxStateJournaled_merged through).1, mergedView, mergeViews,
    show state.entries.dlookup address = none from absent]

variable (found : state.lookup address = some account)

include found

theorem contents_of_destroyed (destroyed : account.status.selfDestructed = true) :
    (merged.view address).contents = .empty := by
  obtain ⟨nonce, codeHash⟩ := fresh_of_destroyed through found destroyed
  rw [view_merged through found, AccountView.merge, if_pos destroyed]
  exact AccountContents.ext rfl nonce codeHash rfl

/-- Slots apart, an account that lives at the end of the sandbox has the contents it has there. -/
theorem contents_of_alive (alive : account.status.selfDestructed = false) :
    (merged.view address).contents =
      account.contents fun key =>
        if account.status.created then 0 else (journal.view address).storage key := by
  rw [view_merged through found, AccountView.merge,
    if_neg (by rw [alive]; exact Bool.false_ne_true)]
  rfl

theorem storage_of_alive (alive : account.status.selfDestructed = false) (key : U256) :
    (merged.view address).storage key =
      ((account.storage.lookup key).map EvmStorageSlot.presentValue).getD
        (if account.status.created then 0 else (journal.view address).storage key) :=
  congrFun (congrArg AccountContents.storage (contents_of_alive through found alive)) key

omit found

theorem transfers :
    Transfers journal state merged where
  alive address account found alive := by
    have contents := contents_of_alive through found alive
    exact ⟨congrArg AccountContents.balance contents, congrArg AccountContents.nonce contents,
      congrArg AccountContents.codeHash contents⟩
  code address account found alive agree := by
    obtain ⟨mergesAll, rfl⟩ := (journal.applySandboxStateJournaled_iff_mergesAll _ state).mp through
    have merges := mergesAll.merges ⟨address, account⟩ (AList.mem_lookup_iff.mp found)
    obtain ⟨-, codeHash, bytecode⟩ := journal.inspected_info address
    rw [← codeHash, ← bytecode] at agree
    rw [← bytecode_mergeSandboxAccount journal.database alive (Prod.ext rfl merges) agree,
      Journal.bytecode, Journal.account, mergeAll]
    dsimp only
    rw [show state.entries.dlookup address = some account from found]
    rfl
  slots address account found alive key slot loaded := by
    rw [storage_of_alive through found alive, loaded]
    rfl
  created address account found alive created key unloaded := by
    rw [storage_of_alive through found alive, unloaded, if_pos created]
    rfl
  destroyed address account found destroyed := contents_of_destroyed through found destroyed
  others address absent := by
    refine ⟨view_of_absent through absent, ?_⟩
    obtain ⟨-, rfl⟩ := (journal.applySandboxStateJournaled_iff_mergesAll _ state).mp through
    rw [Journal.bytecode, Journal.account, mergeAll]
    dsimp only
    rw [show state.entries.dlookup address = none from absent]
    rfl
  otherSlots address key leaves := by
    cases found : state.lookup address with
    | none => rw [view_of_absent through found]
    | some account =>
      obtain ⟨alive, notCreated, unloaded⟩ := leaves account found
      rw [storage_of_alive through found alive, unloaded, notCreated]
      rfl

/-- The contents agree with those in the sandbox exactly if its database reads like the parent the
slots that the sandbox leaves alone. -/
theorem contents_eq_iff (caller : signer ∈ state) (address : Address) :
    (merged.view address).contents = state.contentsOver ⟨journal, signer⟩ address ↔
      ∀ key, state.LeavesSlot address key →
        (journal.view address).storage key = SandboxDb.storage ⟨journal, signer⟩ address key := by
  unfold EvmState.contentsOver
  cases found : state.lookup address with
  | none =>
    have distinct : address ≠ signer := by
      rintro rfl
      exact AList.lookup_eq_none.mp found caller
    have leaves (key : U256) : state.LeavesSlot address key := fun account isFound => by
      rw [found] at isFound
      cases isFound
    have info := SandboxDb.info_eq journal distinct
    rw [view_of_absent through found]
    constructor
    · intro same key _
      exact congrFun (congrArg AccountContents.storage same) key
    · intro same
      refine AccountContents.ext ?_ ?_ ?_ (funext fun key => same key (leaves key))
      · exact congrArg AccountInfo.balance info.symm
      · exact congrArg AccountInfo.nonce info.symm
      · exact congrArg AccountInfo.codeHash info.symm
  | some account =>
    dsimp only
    by_cases destroyed : account.status.selfDestructed = true
    · rw [if_pos destroyed]
      refine iff_of_true (contents_of_destroyed through found destroyed) fun key leaves => ?_
      exact absurd destroyed (by rw [(leaves account found).1]; exact Bool.false_ne_true)
    rw [if_neg destroyed, contents_of_alive through found (Bool.eq_false_iff.mpr destroyed)]
    by_cases created : account.status.created = true
    · simp only [if_pos created, true_iff]
      intro key leaves
      exact absurd created (by rw [(leaves account found).2.1]; exact Bool.false_ne_true)
    simp only [if_neg created]
    constructor
    · intro same key leaves
      have value := congrFun (congrArg AccountContents.storage same) key
      unfold Account.contents at value
      dsimp only at value
      rw [(leaves account found).2.2] at value
      exact value
    · intro same
      refine AccountContents.ext rfl rfl rfl (funext fun key => ?_)
      unfold Account.contents
      dsimp only
      cases unloaded : account.storage.lookup key with
      | some slot => rfl
      | none =>
        refine same key fun other isFound => ?_
        rw [found, Option.some.injEq] at isFound
        subst isFound
        exact ⟨Bool.eq_false_iff.mpr destroyed, Bool.eq_false_iff.mpr created, unloaded⟩

omit through

/-- A merge that goes through transfers what the sandbox has, and the parent then sees every account
and slot as the sandbox did exactly if no stale slot of an account that the transaction has created
is left to the database, in particular if it has created none. -/
theorem applySandboxStateJournaled_transfers (journal merged : Journal) (state : EvmState)
    (signer : Address) (caller : signer ∈ state)
    (through : journal.applySandboxStateJournaled state = (merged, true)) :
    Transfers journal state merged ∧
    ((∀ address, (merged.view address).contents =
        state.contentsOver ⟨journal, signer⟩ address) ↔ journal.NoStaleSlot state) ∧
    ((∀ address, (journal.account address).status.created = false) →
      ∀ address, (merged.view address).contents =
        state.contentsOver ⟨journal, signer⟩ address) := by
  have exactly : (∀ address, (merged.view address).contents =
      state.contentsOver ⟨journal, signer⟩ address) ↔ journal.NoStaleSlot state := by
    constructor
    · intro same address key created unloaded leaves
      have reads := (contents_eq_iff through caller address).mp (same address) key leaves
      exact (journal.storage_eq_iff signer address key).mp reads created unloaded
    · intro noStale address
      refine (contents_eq_iff through caller address).mpr fun key leaves => ?_
      exact (journal.storage_eq_iff signer address key).mpr fun created unloaded =>
        noStale address key created unloaded leaves
  refine ⟨transfers through, exactly, fun noneCreated => exactly.mpr ?_⟩
  intro address key created
  rw [noneCreated address] at created
  cases created

/-- The state of a sandbox whose signer, the address 1, got no further than its nonce. -/
def signedState : EvmState :=
  AList.singleton 1
    { info := { AccountInfo.default with nonce := 1 }
      status := { AccountStatus.loaded with touched := true }
      storage := ∅ }

/-- A parent that has loaded nothing, over a database with a slot under the address 3. -/
def topLevelParent : Journal :=
  .new { Database.empty with
    storage := fun address key => if address = 3 ∧ key = 1 then 5 else 0 }

/-- The sandbox also creates an account with a slot that destroys itself again. -/
def destroyingState : EvmState :=
  creatingState.insert 5
    { info := { AccountInfo.default with nonce := 1 }
      status := { createdAtTwo.status with selfDestructed := true, selfDestructedLocal := true }
      storage := AList.singleton 1 ⟨0, 3, false⟩ }

/-- The parent, which has loaded a slot, sees every account as the sandbox did: the one it had, the
created one and the destroyed one. -/
theorem applySandboxStateJournaled_transfers_topLevel :
    let merged := (staleParent.inner.applySandboxStateJournaled destroyingState).1
    staleParent.inner.applySandboxStateJournaled destroyingState = (merged, true) ∧
      Transfers staleParent.inner destroyingState merged ∧
      staleParent.inner.NoStaleSlot destroyingState ∧
      ∀ address, (merged.view address).contents =
        destroyingState.contentsOver ⟨staleParent.inner, 1⟩ address := by
  have through : staleParent.inner.applySandboxStateJournaled destroyingState =
      ((staleParent.inner.applySandboxStateJournaled destroyingState).1, true) :=
    Prod.ext rfl (by decide)
  obtain ⟨transfers, exactly, sees⟩ := applySandboxStateJournaled_transfers staleParent.inner _
    destroyingState 1 (by decide) through
  have noneCreated (address : Address) :
      (staleParent.inner.account address).status.created = false := by
    unfold staleParent account
    dsimp only
    split <;> rfl
  exact ⟨through, transfers, exactly.mp (sees noneCreated), sees noneCreated⟩

/-- The transaction has created the account over the stale slot. -/
def creatingParent : Journal :=
  topLevelParent.setAccount 3
    { info := { AccountInfo.default with nonce := 1 }
      status := { AccountStatus.loaded with created := true, createdLocal := true, touched := true }
      storage := ∅ }

/-- The parent reads the slot as zero, and the sandbox read the stale value. -/
theorem stale_slot_not_transferred :
    ∃ merged, creatingParent.applySandboxStateJournaled signedState = (merged, true) ∧
      1 ∈ signedState ∧
      (merged.view 3).contents.storage 1 = 0 ∧
      (signedState.contentsOver ⟨creatingParent, 1⟩ 3).storage 1 = 5 :=
  ⟨(creatingParent.applySandboxStateJournaled signedState).1, Prod.ext rfl (by decide), by decide,
    by decide, by decide⟩

end Journal

end MegaEvm
