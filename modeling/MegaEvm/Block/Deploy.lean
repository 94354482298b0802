/-
This file models the database a block is executed on, how the outcome of a call or a
deploy is committed to it, and how a system contract is deployed. A deploy changes
nothing itself: it returns an outcome, which is computed against the database as it is
and committed later.

What a commit does is the engine's: an account that was not touched is not written, a
created account starts from empty storage, an empty account is removed, and any other
account is written as the outcome has it, also if it was written in between.
-/

import MegaEvm.Block.Hardforks
import MegaEvm.Block.Limits

namespace MegaEvm

open EvmStorageSlot Account Library

/-! ### The database of a block -/

/-- The database, and whether reading an account of it fails. -/
structure BlockState where
  site : Address → Site
  failing : Address → Bool

/-- A database without accounts. -/
def emptyDatabase : BlockState :=
  { site := fun _ => .absent, failing := fun _ => false }

namespace BlockState

variable (state : BlockState)

/-- Load an account. -/
def loadCacheAccount (address : Address) : Except BlockExecutionError (Option AccountInfo) :=
  if state.failing address then .error .other else .ok (state.site address).info

/-- Read a slot. -/
def storage (address : Address) (slot : U256) : Except BlockExecutionError U256 :=
  if state.failing address then .error .other else .ok ((state.site address).storage slot)

end BlockState

/-! ### Committing -/

namespace EvmStorageSlot

/-- A slot that was only read. -/
def new (value : U256) : EvmStorageSlot :=
  { originalValue := value, presentValue := value, isCold := false }

def newChanged (originalValue presentValue : U256) : EvmStorageSlot :=
  { originalValue, presentValue, isCold := false }

end EvmStorageSlot

/-- Commit an outcome. -/
def BlockState.commit (state : BlockState) (outcome : EvmState) : BlockState :=
  { state with
    site := fun address =>
      match outcome.lookup address with
      | some account => account.commit (state.site address)
      | none => state.site address }

/-- Commit outcomes in order. -/
def BlockState.commitAll (state : BlockState) (outcomes : List EvmState) : BlockState :=
  outcomes.foldl BlockState.commit state

open BlockState

section Commit

variable (state : BlockState)

include state

theorem BlockState.commit_site (outcome : EvmState) (address : Address) :
    (state.commit outcome).site address =
      match outcome.lookup address with
      | some account => account.commit (state.site address)
      | none => state.site address := rfl

@[simp] theorem BlockState.commitAll_nil : state.commitAll [] = state := rfl

@[simp] theorem BlockState.commitAll_cons (outcome : EvmState) (rest : List EvmState) :
    state.commitAll (outcome :: rest) = (state.commit outcome).commitAll rest := rfl

theorem BlockState.commitAll_append (first second : List EvmState) :
    state.commitAll (first ++ second) = (state.commitAll first).commitAll second :=
  List.foldl_append ..

omit state

/-- An outcome leaves an account alone that it does not touch. -/
def LeavesAlone (address : Address) (outcome : EvmState) : Prop :=
  ∀ account, outcome.lookup address = some account → account.status.touched = false

theorem LeavesAlone.commit_site {address : Address} {outcome : EvmState}
    (leaves : LeavesAlone address outcome) (state : BlockState) :
    (state.commit outcome).site address = state.site address := by
  rw [BlockState.commit_site]
  split
  · next account found => exact commit_untouched (leaves account found)
  · rfl

/-- Outcomes that all leave an account alone do so together. -/
theorem LeavesAlone.commitAll_site {address : Address} {outcomes : List EvmState}
    (leave : ∀ outcome ∈ outcomes, LeavesAlone address outcome) (state : BlockState) :
    (state.commitAll outcomes).site address = state.site address := by
  induction outcomes generalizing state with
  | nil => rfl
  | cons outcome rest inductionHypothesis =>
    rw [commitAll_cons, inductionHypothesis fun other member =>
      leave other (List.mem_cons_of_mem _ member)]
    exact LeavesAlone.commit_site (leave outcome (List.mem_cons_self ..)) state

end Commit

/-! ### Deploying -/

/-- The bytecode behind each code hash. -/
abbrev Artifacts := CodeHash → List Nat

/-- A system contract: where it is deployed, its code, the slots a fresh deploy seeds, and whether a
change of its code starts from empty storage. -/
structure SystemContractSpec where
  address : Address
  codeHash : CodeHash
  seed : List (U256 × U256)
  forceCreateOnUpgrade : Bool

/-- An account that was only read. -/
def Account.readOnly (info : AccountInfo) : Account :=
  .ofInfo info

/-- A fresh account with these slots set. -/
def Account.seeded (account : Account) (seed : List (U256 × U256)) : Account :=
  { account with
    storage := seed.foldl
      (fun storage entry => storage.insert entry.1 (.newChanged 0 entry.2)) account.storage }

/-- The account with the code of a contract, touched. -/
def Account.deployed (artifacts : Artifacts) (info : AccountInfo) (codeHash : CodeHash) : Account :=
  { Account.ofInfo { info with codeHash, code := some (.legacy (artifacts codeHash)) } with
    status := { AccountStatus.loaded with touched := true } }

/-- Deploy a system contract. If it is deployed already the account is only read. -/
def transactDeploy (artifacts : Artifacts) (state : BlockState) (spec : SystemContractSpec) :
    Except BlockExecutionError EvmState := do
  let existing ← state.loadCacheAccount spec.address
  if existing.any (·.codeHash = spec.codeHash) then
    .ok (AList.singleton spec.address (.readOnly (existing.getD .default)))
  else
    let account := Account.deployed artifacts (existing.getD .default) spec.codeHash
    if existing.isNone || spec.forceCreateOnUpgrade then
      let created := { account with status := { account.status with created := true } }
      .ok (AList.singleton spec.address (created.seeded spec.seed))
    else .ok (AList.singleton spec.address account)

section Seeding

/-- The storage after these slots are written. -/
def writeSlots (storage : U256 → U256) (slots : List (U256 × U256)) : U256 → U256 :=
  slots.foldl (fun storage entry => Function.update storage entry.1 entry.2) storage

/-- A fresh account that is seeded ends up with the slots written in order. -/
theorem Account.changedStorage_seeded (account : Account) (seed : List (U256 × U256))
    (fresh : ∀ key slot, account.storage.lookup key = some slot → slot.originalValue = 0) :
    (account.seeded seed).changedStorage (fun _ => 0) =
      writeSlots (account.changedStorage fun _ => 0) seed := by
  induction seed generalizing account with
  | nil => rfl
  | cons entry rest inductionHypothesis =>
    let next : Account :=
      { account with storage := account.storage.insert entry.1 (.newChanged 0 entry.2) }
    have nextFresh : ∀ key slot, next.storage.lookup key = some slot → slot.originalValue = 0 := by
      intro key slot found
      by_cases same : key = entry.1
      · subst same
        rw [AList.lookup_insert] at found
        cases found
        rfl
      · rw [AList.lookup_insert_ne same] at found
        exact fresh key slot found
    have written : next.changedStorage (fun _ => 0) =
        Function.update (account.changedStorage fun _ => 0) entry.1 entry.2 := by
      funext key
      by_cases same : key = entry.1
      · subst same
        rw [changedStorage, AList.lookup_insert, Function.update_self]
        by_cases zero : entry.2 = 0
        · simp [isChanged, newChanged, zero]
        · simp [isChanged, newChanged, Ne.symm zero]
      · rw [changedStorage, AList.lookup_insert_ne same, Function.update_of_ne same]
        rfl
    calc (account.seeded (entry :: rest)).changedStorage (fun _ => 0)
        = (next.seeded rest).changedStorage (fun _ => 0) := rfl
      _ = writeSlots (next.changedStorage fun _ => 0) rest := inductionHypothesis next nextFresh
      _ = writeSlots (account.changedStorage fun _ => 0) (entry :: rest) := by
        rw [written]
        rfl

/-- Changing one slot from the value it has writes it. -/
theorem Account.changedStorage_single (account : Account) {key original value : U256}
    (single : account.storage = AList.singleton key (.newChanged original value))
    {storage : U256 → U256} (read : storage key = original) :
    account.changedStorage storage = Function.update storage key value := by
  funext other
  have lookup : account.storage.lookup other =
      ((∅ : AList fun _ : U256 => EvmStorageSlot).insert key (.newChanged original value)).lookup
        other := by rw [single]; rfl
  rw [changedStorage, lookup]
  by_cases same : other = key
  · subst same
    rw [AList.lookup_insert, Function.update_self]
    by_cases kept : original = value
    · simp [isChanged, newChanged, kept, read]
    · simp [isChanged, newChanged, kept]
  · rw [AList.lookup_insert_ne same, AList.lookup_empty, Function.update_of_ne same]

end Seeding

/-! ### What a deploy commits -/

/-- The account a deploy installs. -/
def installedInfo (artifacts : Artifacts) (info : Option AccountInfo) (codeHash : CodeHash) :
    AccountInfo :=
  { info.getD .default with codeHash, code := some (.legacy (artifacts codeHash)) }

section Outcome

variable {artifacts : Artifacts} {state : BlockState} {spec : SystemContractSpec}
  {outcome : EvmState}

theorem BlockState.loadCacheAccount_ok {address : Address} {info : Option AccountInfo}
    (loaded : state.loadCacheAccount address = .ok info) : info = (state.site address).info := by
  obtain ⟨-, found⟩ := check_eq_ok loaded
  exact (Except.ok.inj found).symm

theorem BlockState.storage_ok {address : Address} {slot value : U256}
    (read : state.storage address slot = .ok value) :
    value = (state.site address).storage slot := by
  obtain ⟨-, found⟩ := check_eq_ok read
  exact (Except.ok.inj found).symm

/-- A deploy has an outcome at its address only. -/
theorem transactDeploy_elsewhere (deployed : transactDeploy artifacts state spec = .ok outcome)
    {address : Address} (elsewhere : address ≠ spec.address) : outcome.lookup address = none := by
  have single : ∀ account, (AList.singleton spec.address account : EvmState).lookup address =
      none := by
    intro account
    rw [AList.lookup_eq_none, AList.mem_keys, AList.keys_singleton, List.mem_singleton]
    exact elsewhere
  obtain ⟨existing, -, deployed⟩ := bind_eq_ok deployed
  split at deployed
  · cases deployed
    exact single _
  · dsimp only at deployed
    split at deployed
    · cases deployed
      exact single _
    · cases deployed
      exact single _

variable (deployed : transactDeploy artifacts state spec = .ok outcome)

include deployed

/-- A contract that is deployed already is left alone. -/
theorem transactDeploy_present {info : AccountInfo}
    (present : (state.site spec.address).info = some info) (same : info.codeHash = spec.codeHash) :
    LeavesAlone spec.address outcome := by
  obtain ⟨existing, loaded, deployed⟩ := bind_eq_ok deployed
  obtain rfl : existing = some info :=
    (loadCacheAccount_ok loaded).trans present
  rw [if_pos (by simp [same])] at deployed
  cases deployed
  intro account found
  obtain ⟨-, rfl⟩ := eq_of_lookup_singleton found
  rfl

/-- A contract that starts from empty storage is written with its seed, whatever was there. -/
theorem transactDeploy_fresh
    (absent : ∀ info, (state.site spec.address).info = some info → info.codeHash ≠ spec.codeHash)
    (force : spec.forceCreateOnUpgrade = true) :
    ∃ account, outcome.lookup spec.address = some account ∧ ∀ site : Site,
      account.commit site =
        { info := some (installedInfo artifacts (state.site spec.address).info spec.codeHash)
          storage := writeSlots (fun _ => 0) spec.seed } := by
  obtain ⟨existing, loaded, deployed⟩ := bind_eq_ok deployed
  obtain rfl := loadCacheAccount_ok loaded
  have missing : ¬ (state.site spec.address).info.any (·.codeHash = spec.codeHash) = true := by
    rw [Option.any_eq_true]
    rintro ⟨info, found, same⟩
    exact absent info found (of_decide_eq_true same)
  rw [if_neg missing, if_pos (by rw [force, Bool.or_true])] at deployed
  cases deployed
  refine ⟨_, AList.lookup_insert ∅, fun site => ?_⟩
  have unloaded : ∀ key slot, (∅ : AList fun _ : U256 => EvmStorageSlot).lookup key = some slot →
      slot.originalValue = 0 := by
    intro key slot found
    rw [AList.lookup_empty] at found
    cases found
  rw [commit_created rfl rfl rfl, changedStorage_seeded _ _ unloaded]
  rfl

end Outcome

/-! ### The flat system contracts -/

def oracleContractAddress : Address := 0x6342000000000000000000000000000000000001

def highPrecisionTimestampOracleAddress : Address := 0x6342000000000000000000000000000000000002

def keylessDeployAddress : Address := 0x6342000000000000000000000000000000000003

def accessControlAddress : Address := 0x6342000000000000000000000000000000000004

def limitControlAddress : Address := 0x6342000000000000000000000000000000000005

def oracleContractCodeHash : CodeHash :=
  0xe9b044afb735a0f569faeb248088b4f267578f60722f87d06ec3867b250a2c34

def oracleContractCodeHashRex2 : CodeHash :=
  0x06df675a69e53ea2a3c948521e330b3801740fede324a1cef2044418f8e09242

def oracleContractCodeHashRex5 : CodeHash :=
  0x71a65239db8d0f1bb765fad36e34f57600420d103a4401ef7555bd50b229dc55

def highPrecisionTimestampOracleCodeHash : CodeHash :=
  0x1b2df8ca5350cd7106d67ed95532584526f97a5ca267c8eef73a1831f53720f2

def keylessDeployCodeHash : CodeHash :=
  0x55020d41649acf7a84add6e628b887f802218d9ac86f142ef0994da43ea5eeb6

def accessControlCodeHash : CodeHash :=
  0x96d0f3ba6b474e9684a97e4388ec8dbb7929818b51e6b4f19f885ccbdf642f9b

def limitControlCodeHash : CodeHash :=
  0x3927f2a4803c5e18153ff5742d0fa1acd9ad04538e4e6037cb4a9b28694ca87f

section Flat

variable (hardforks : MegaHardforks) (timestamp : Nat)

/-- A contract without seed that is there from a hardfork on. -/
def flatSpec (fork : MegaHardfork) (address : Address) (codeHash : CodeHash)
    (forceCreateOnUpgrade : Bool) : Option SystemContractSpec :=
  if hardforks.isActiveAtTimestamp fork timestamp then
    some { address, codeHash, seed := [], forceCreateOnUpgrade }
  else none

/-- The oracle, whose code follows the hardforks. Until Rex5 an upgrade clears its storage. -/
def oracleSpec : Option SystemContractSpec :=
  let rex5 := hardforks.isRex5ActiveAtTimestamp timestamp
  let codeHash :=
    if rex5 then oracleContractCodeHashRex5
    else if hardforks.isActiveAtTimestamp .rex2 timestamp then oracleContractCodeHashRex2
    else oracleContractCodeHash
  flatSpec hardforks timestamp .miniRex oracleContractAddress codeHash !rex5

def highPrecisionTimestampOracleSpec : Option SystemContractSpec :=
  flatSpec hardforks timestamp .miniRex highPrecisionTimestampOracleAddress
    highPrecisionTimestampOracleCodeHash false

def keylessDeploySpec : Option SystemContractSpec :=
  flatSpec hardforks timestamp .rex2 keylessDeployAddress keylessDeployCodeHash false

def accessControlSpec : Option SystemContractSpec :=
  flatSpec hardforks timestamp .rex4 accessControlAddress accessControlCodeHash false

def limitControlSpec : Option SystemContractSpec :=
  flatSpec hardforks timestamp .rex4 limitControlAddress limitControlCodeHash false

def flatSystemContractSpecs : List SystemContractSpec :=
  [oracleSpec hardforks timestamp, highPrecisionTimestampOracleSpec hardforks timestamp,
    keylessDeploySpec hardforks timestamp, accessControlSpec hardforks timestamp,
    limitControlSpec hardforks timestamp].filterMap id

/-- Every flat contract is deployed at one of five addresses. -/
theorem mem_flatSystemContractSpecs {spec : SystemContractSpec}
    (member : spec ∈ flatSystemContractSpecs hardforks timestamp) :
    spec.address ∈ [oracleContractAddress, highPrecisionTimestampOracleAddress,
      keylessDeployAddress, accessControlAddress, limitControlAddress] := by
  have single : ∀ fork address codeHash force,
      flatSpec hardforks timestamp fork address codeHash force = some spec →
      spec.address = address := by
    intro fork address codeHash force built
    rw [flatSpec] at built
    split at built
    · cases built
      rfl
    · cases built
  simp only [flatSystemContractSpecs, List.mem_filterMap, id_eq, exists_eq_right,
    List.mem_cons, List.not_mem_nil, or_false] at member ⊢
  rcases member with built | built | built | built | built
  · exact Or.inl (single _ _ _ _ built.symm)
  · exact Or.inr (Or.inl (single _ _ _ _ built.symm))
  · exact Or.inr (Or.inr (Or.inl (single _ _ _ _ built.symm)))
  · exact Or.inr (Or.inr (Or.inr (Or.inl (single _ _ _ _ built.symm))))
  · exact Or.inr (Or.inr (Or.inr (Or.inr (single _ _ _ _ built.symm))))

end Flat

end MegaEvm
