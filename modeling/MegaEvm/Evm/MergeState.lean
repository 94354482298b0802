/-
This file models how the states of transactions are merged into one state. A state is
merged account by account: one that was created and destroyed in its transaction is
replaced by an empty account, and any other takes over the info of the new state and
writes its slots over those that are there. What becomes of an address depends only on
the accounts that the states have there, so a merge is read off their history.
-/

import MegaEvm.Block.Deploy

namespace MegaEvm

open AccountStatus Library

/-! ### The merge -/

/-- The flags of both. -/
def AccountStatus.union (this other : AccountStatus) : AccountStatus where
  created := this.created || other.created
  createdLocal := this.createdLocal || other.createdLocal
  selfDestructed := this.selfDestructed || other.selfDestructed
  selfDestructedLocal := this.selfDestructedLocal || other.selfDestructedLocal
  touched := this.touched || other.touched
  loadedAsNotExisting := this.loadedAsNotExisting || other.loadedAsNotExisting
  cold := this.cold || other.cold

/-- The status of an account that another one, which is not destroyed, is merged into. -/
def mergedStatus (this other : AccountStatus) : AccountStatus :=
  let revived :=
    if this.selfDestructed && other.created then { this with selfDestructed := false } else this
  revived.union { other with cold := false, createdLocal := false, selfDestructedLocal := false }

section MergedStatus

variable (this other : AccountStatus)

@[simp] theorem mergedStatus_created :
    (mergedStatus this other).created = (this.created || other.created) := by
  simp only [mergedStatus, union]
  split_ifs <;> rfl

@[simp] theorem mergedStatus_touched :
    (mergedStatus this other).touched = (this.touched || other.touched) := by
  simp only [mergedStatus, union]
  split_ifs <;> rfl

@[simp] theorem mergedStatus_cold : (mergedStatus this other).cold = this.cold := by
  simp only [mergedStatus, union]
  split_ifs <;> exact Bool.or_false _

theorem mergedStatus_selfDestructed (alive : other.selfDestructed = false) :
    (mergedStatus this other).selfDestructed = (this.selfDestructed && !other.created) := by
  simp only [mergedStatus, union, alive]
  cases destroyed : this.selfDestructed <;> cases other.created <;> simp [destroyed]

end MergedStatus

/-- It panics on a destroyed account. -/
def mergeAccountStatus (this other : AccountStatus) : Option AccountStatus :=
  if other.selfDestructed then none else some (mergedStatus this other)

def EvmStorageSlot.markCold (slot : EvmStorageSlot) : EvmStorageSlot :=
  { slot with isCold := true }

/-- A slot that is not loaded is taken over cold; of any other only the value is. -/
def mergeSlotValue (this : Option EvmStorageSlot) (other : EvmStorageSlot) : EvmStorageSlot :=
  match this with
  | none => other.markCold
  | some slot => { slot with presentValue := other.presentValue }

/-- The slots of an account. -/
abbrev EvmStorage := AList fun _ : U256 => EvmStorageSlot

def mergeEvmStorage (this other : EvmStorage) : EvmStorage :=
  Library.mergeWith mergeSlotValue this other

theorem lookup_mergeEvmStorage (this other : EvmStorage) (key : U256) :
    (mergeEvmStorage this other).lookup key =
      match other.lookup key with
      | some slot => some (mergeSlotValue (this.lookup key) slot)
      | none => this.lookup key := by
  rw [mergeEvmStorage, lookup_mergeWith]
  cases other.lookup key <;> rfl

def mergeAccountState (this other : Account) (mergeStatus : Bool) : Option Account :=
  let merged :=
    { this with info := other.info, storage := mergeEvmStorage this.storage other.storage }
  if mergeStatus then
    (mergeAccountStatus this.status other.status).map fun status => { merged with status }
  else some merged

namespace Account

def markCold (account : Account) : Account :=
  { account with status := { account.status with cold := true } }

/-- What is left of an account that was created and destroyed. -/
def emptyTouched : Account :=
  { Account.ofInfo .default with status := { AccountStatus.loaded with touched := true } }

/-- An account that is new to the merged state: it and all its slots are cold, and the flags of its
transaction are cleared. -/
def coldCopy (account : Account) : Account :=
  { account with
    status :=
      { account.status with
        cold := true, createdLocal := false, selfDestructedLocal := false }
    storage := Library.mergeWith (fun _ slot => slot.markCold) ∅ account.storage }

end Account

/-- Merge one account. It panics on an account that was destroyed but not created. -/
def mergeEntry (mergeStatus : Bool) (this : EvmState) (address : Address) (account : Account) :
    Option EvmState :=
  if account.status.selfDestructed then
    if !account.status.created then none
    else
      match this.lookup address with
      | some occupied =>
        some (this.insert address
          (if occupied.status.cold then Account.emptyTouched.markCold else .emptyTouched))
      | none => some (this.insert address Account.emptyTouched.markCold)
  else
    match this.lookup address with
    | none => some (this.insert address account.coldCopy)
    | some thisAccount =>
      (mergeAccountState thisAccount account mergeStatus).map fun merged =>
        this.insert address merged

def mergeEvmStateOptionalStatus (this other : EvmState) (mergeStatus : Bool) : Option EvmState :=
  other.entries.foldlM (fun merged entry => mergeEntry mergeStatus merged entry.1 entry.2) this

def mergeEvmState (this other : EvmState) : Option EvmState :=
  mergeEvmStateOptionalStatus this other true

/-- Merge states one after the other. -/
def mergeEvmStates (this : EvmState) (states : List EvmState) : Option EvmState :=
  states.foldlM mergeEvmState this

/-! ### The merge at one address -/

/-- What becomes of the account of the merged state, if there is one. -/
def Account.mergeInto (this : Option Account) (account : Account) : Account :=
  if account.status.selfDestructed then
    if this.all (·.status.cold) then Account.emptyTouched.markCold else .emptyTouched
  else
    match this with
    | none => account.coldCopy
    | some thisAccount =>
      { info := account.info
        storage := mergeEvmStorage thisAccount.storage account.storage
        status := mergedStatus thisAccount.status account.status }

/-- Every destroyed account of the state was created in its transaction. -/
def EvmState.PostCancun (state : EvmState) : Prop :=
  ∀ address account, state.lookup address = some account →
    account.status.selfDestructed = true → account.status.created = true

theorem mergeEntry_eq {account : Account}
    (postCancun : account.status.selfDestructed = true → account.status.created = true)
    (this : EvmState) (address : Address) :
    mergeEntry true this address account =
      some (this.insert address (account.mergeInto (this.lookup address))) := by
  unfold mergeEntry Account.mergeInto
  cases destroyed : account.status.selfDestructed with
  | true =>
    rw [postCancun destroyed]
    cases this.lookup address with
    | none | some => rfl
  | false =>
    cases this.lookup address with
    | none => rfl
    | some thisAccount => simp [mergeAccountState, mergeAccountStatus, destroyed]

theorem mergeEvmState_eq {other : EvmState} (postCancun : other.PostCancun) (this : EvmState) :
    mergeEvmState this other =
      some (mergeWith (fun this account => account.mergeInto this) this other) := by
  have each : ∀ entry ∈ other.entries,
      entry.2.status.selfDestructed = true → entry.2.status.created = true :=
    fun entry member => postCancun entry.1 entry.2 (AList.mem_lookup_iff.mpr member)
  unfold mergeEvmState mergeEvmStateOptionalStatus mergeWith
  generalize other.entries = entries at each
  induction entries generalizing this with
  | nil => rfl
  | cons entry rest inductionHypothesis =>
    rw [List.foldlM_cons, mergeEntry_eq (each entry List.mem_cons_self)]
    exact inductionHypothesis _ fun later member => each later (List.mem_cons_of_mem _ member)

/-- The accounts that the states have at an address, in order. -/
def history (address : Address) (states : List EvmState) : List Account :=
  states.filterMap fun state => state.lookup address

theorem history_cons (address : Address) (state : EvmState) (rest : List EvmState) :
    history address (state :: rest) =
      (state.lookup address).toList ++ history address rest := by
  unfold history
  rw [List.filterMap_cons]
  cases state.lookup address <;> rfl

/-- Merging works address by address. -/
theorem mergeEvmStates_eq {states : List EvmState} (postCancun : ∀ state ∈ states, state.PostCancun)
    (this : EvmState) :
    ∃ merged, mergeEvmStates this states = some merged ∧
      ∀ address, merged.lookup address =
        (history address states).foldl (fun this account => some (account.mergeInto this))
          (this.lookup address) := by
  induction states generalizing this with
  | nil => exact ⟨this, rfl, fun _ => rfl⟩
  | cons state rest inductionHypothesis =>
    obtain ⟨merged, merges, lookups⟩ := inductionHypothesis
      (fun later member => postCancun later (List.mem_cons_of_mem _ member))
      (mergeWith (fun this account => account.mergeInto this) this state)
    refine ⟨merged, ?_, fun address => ?_⟩
    · rw [mergeEvmStates, List.foldlM_cons, mergeEvmState_eq (postCancun state List.mem_cons_self)]
      exact merges
    · rw [lookups, history_cons, List.foldl_append, lookup_mergeWith]
      cases state.lookup address <;> rfl

theorem commitAll_site_eq (database : BlockState) (states : List EvmState) (address : Address) :
    (database.commitAll states).site address =
      (history address states).foldl (fun site account => account.commit site)
        (database.site address) := by
  induction states generalizing database with
  | nil => rfl
  | cons state rest inductionHypothesis =>
    rw [BlockState.commitAll_cons, inductionHypothesis, history_cons, List.foldl_append,
      BlockState.commit_site]
    cases state.lookup address <;> rfl

end MegaEvm
