/-
This file settles what a block does to the registry before its transactions. The
outcomes are computed against the database at the start of the block, so a later one can
overwrite what an earlier one wrote: from Rex6 on the upgrade commits after the call,
and before Rex6 a fresh registry survives only because no call is made on the account
that was there before.

What is assumed of the engine is that the history calls do not touch the registry, and
that a call of the registry runs its contract: it leaves the account as it was, and the
storage as the contract computes it.
-/

import MegaEvm.Registry.Histories
import MegaEvm.Registry.PreBlock

namespace MegaEvm

open BlockState Library RegistryStorage Account AccountInfo LeavesAlone RegistryVersion

/-! ### The engine -/

/-- The version behind a code hash. -/
def RegistryVersion.codeHash : RegistryVersion → CodeHash
  | v1 => sequencerRegistryCodeHash
  | v2 => sequencerRegistryCodeHashRex6

/-- An account after a call that left this storage. The call may load slots and bytecode. -/
structure RunsContract (site : Site) (after : RegistryStorage) (account : Account) : Prop where
  info : account.info = { site.info.getD .default with code := account.info.code }
  touched : account.status.touched = true
  alive : account.status.selfDestructed = false
  old : account.status.created = false
  loaded : ∀ key slot, account.storage.lookup key = some slot →
    slot.originalValue = site.storage key ∧ slot.presentValue = after key
  unloaded : ∀ key, account.storage.lookup key = none → after key = site.storage key

/-- The storage the contract leaves: that of version one or two applies what is due, and an account
without code does nothing. -/
def ContractLeaves (site : Site) (blockNumber : Nat) (after : RegistryStorage) : Prop :=
  (∃ info, ∃ version : RegistryVersion, site.info = some info ∧ info.codeHash = version.codeHash ∧
    applyPendingChanges site.storage blockNumber = .ok after) ∨
  ((site.info.getD .default).codeHash = keccakEmpty ∧ after = site.storage)

/-- What is assumed of the engine. -/
structure SystemCalls.Lawful (calls : SystemCalls) : Prop where
  blockhashes : ∀ state block success outcome,
    calls.blockhashes state block = .ok (some (success, outcome)) →
    LeavesAlone sequencerRegistryAddress outcome
  beaconRoot : ∀ state block success outcome,
    calls.beaconRoot state block = .ok (some (success, outcome)) →
    LeavesAlone sequencerRegistryAddress outcome
  registry : ∀ state block outcome after,
    calls.applyPendingChanges state block = some (true, outcome) →
    ContractLeaves (state.site sequencerRegistryAddress) block.number after →
    ∃ account, outcome.lookup sequencerRegistryAddress = some account ∧
      RunsContract (state.site sequencerRegistryAddress) after account

/-- The slots a call wrote are those the contract wrote. -/
theorem RunsContract.changedStorage_eq {site : Site} {after : RegistryStorage} {account : Account}
    (runs : RunsContract site after account) : account.changedStorage site.storage = after := by
  funext key
  rw [changedStorage]
  split
  · next slot found =>
    obtain ⟨original, present⟩ := runs.loaded key slot found
    split
    · exact present
    · next unchanged =>
      rw [EvmStorageSlot.isChanged, bne_iff_ne, not_not] at unchanged
      rw [← original, unchanged, present]
  · next missing => exact (runs.unloaded key missing).symm

/-! ### Before a block -/

/-- There is no code and no storage at the address of the registry. -/
structure Vacant (site : Site) : Prop where
  codeless : (site.info.getD .default).codeHash = keccakEmpty
  storage : site.storage = fun _ => 0

/-- A version of the registry is deployed, with sound storage. -/
structure Installed (version : RegistryVersion) (info : AccountInfo) (site : Site)
    (number : Nat) : Prop where
  present : site.info = some info
  codeHash : info.codeHash = version.codeHash
  sound : RegistrySound site.storage number

theorem RegistryVersion.codeHash_ne_empty (version : RegistryVersion) :
    version.codeHash ≠ keccakEmpty := by
  cases version <;> decide

/-- An account with the code of the registry is not empty. -/
theorem AccountInfo.isEmpty_of_codeHash {info : AccountInfo} {version : RegistryVersion}
    (deployed : info.codeHash = version.codeHash) : info.isEmpty = false := by
  have coded : (info.codeHash == keccakEmpty) = false :=
    beq_false_of_ne (deployed ▸ version.codeHash_ne_empty)
  rw [isEmpty, coded, Bool.and_false]

/-- Committing a call of a deployed registry writes what the contract computes. -/
theorem RunsContract.commit_eq {site base : Site} {after : RegistryStorage} {account : Account}
    {version : RegistryVersion} {info : AccountInfo} (runs : RunsContract site after account)
    (present : site.info = some info) (deployed : info.codeHash = version.codeHash)
    (same : base.storage = site.storage) :
    account.commit base = { info := some account.info, storage := after } ∧
      account.info = { info with code := account.info.code } := by
  have kept : account.info = { info with code := account.info.code } := by
    have given := runs.info
    rw [present] at given
    exact given
  have coded : account.info.codeHash = version.codeHash := by
    rw [kept]
    exact deployed
  refine ⟨?_, kept⟩
  rw [commit_changed runs.touched runs.alive runs.old
    (isEmpty_of_codeHash coded), same, runs.changedStorage_eq]

/-! ### What is due -/

section Due

variable {state : BlockState} {block : BlockEnv}

theorem isRoleDue_ok {account read : Account} {role : Role} {due : Bool}
    (checked : isRoleDue state block account role = .ok (due, read)) :
    read.status = account.status ∧
      (due = true ↔ (state.site sequencerRegistryAddress).storage role.pendingSlot ≠ 0 ∧
        min ((state.site sequencerRegistryAddress).storage role.activationSlot) u64Max ≤
          block.number) := by
  obtain ⟨pending, pendingRead, checked⟩ := bind_eq_ok checked
  obtain rfl := storage_ok pendingRead
  split at checked
  · next none_ =>
    cases checked
    exact ⟨rfl, ⟨nofun, fun waiting => absurd none_ waiting.1⟩⟩
  · next waiting =>
    obtain ⟨activation, activationRead, checked⟩ := bind_eq_ok checked
    obtain rfl := storage_ok activationRead
    cases checked
    exact ⟨rfl, ⟨fun reached => ⟨waiting, of_decide_eq_true reached⟩,
      fun reached => decide_eq_true reached.2⟩⟩

/-- The check reads the account only, and finds no change due exactly if the raw slots have none. -/
theorem isApplyPendingChangesDue_ok {due : Bool} {witness : EvmState}
    (checked : isApplyPendingChangesDue state block = .ok (due, witness)) :
    LeavesAlone sequencerRegistryAddress witness ∧
      (due = true ↔ (state.site sequencerRegistryAddress).info ≠ none ∧
        ∃ role : Role, (state.site sequencerRegistryAddress).storage role.pendingSlot ≠ 0 ∧
          min ((state.site sequencerRegistryAddress).storage role.activationSlot) u64Max ≤
            block.number) := by
  obtain ⟨existing, loaded, checked⟩ := bind_eq_ok checked
  obtain rfl := loadCacheAccount_ok loaded
  split at checked
  · next absent =>
    cases checked
    refine ⟨fun account found => ?_, ⟨nofun, fun present => absurd absent present.1⟩⟩
    obtain ⟨-, rfl⟩ := eq_of_lookup_singleton found
    rfl
  · next info present =>
    obtain ⟨⟨first, firstRead⟩, firstChecked, checked⟩ := bind_eq_ok checked
    obtain ⟨⟨second, secondRead⟩, secondChecked, checked⟩ := bind_eq_ok checked
    cases checked
    obtain ⟨firstStatus, firstDue⟩ := isRoleDue_ok firstChecked
    obtain ⟨secondStatus, secondDue⟩ := isRoleDue_ok secondChecked
    refine ⟨fun account found => ?_, ?_⟩
    · obtain ⟨-, rfl⟩ := eq_of_lookup_singleton found
      rw [secondStatus, firstStatus]
      rfl
    · rw [Bool.or_eq_true, firstDue, secondDue, present]
      refine ⟨?_, ?_⟩
      · rintro (due | due)
        · exact ⟨nofun, .systemAddress, due⟩
        · exact ⟨nofun, .sequencer, due⟩
      · rintro ⟨-, role, due⟩
        cases role with
        | systemAddress => exact Or.inl due
        | sequencer => exact Or.inr due

/-- If the check finds nothing due, the contract finds nothing due. -/
theorem advance_of_not_due {version : RegistryVersion} {info : AccountInfo} {number : Nat}
    (installed : Installed version info (state.site sequencerRegistryAddress) number)
    (early : ¬ ∃ role : Role, (state.site sequencerRegistryAddress).storage role.pendingSlot ≠ 0 ∧
      min ((state.site sequencerRegistryAddress).storage role.activationSlot) u64Max ≤
        block.number) :
    advance (state.site sequencerRegistryAddress).storage block.number =
      (state.site sequencerRegistryAddress).storage := by
  have waiting : ∀ role,
      ¬ roleDue role (state.site sequencerRegistryAddress).storage block.number := by
    rintro role ⟨pending, reached⟩
    refine early ⟨role, ?_, Nat.le_trans (Nat.min_le_left _ _) reached⟩
    rw [← address_of_lt _ (installed.sound.roles role).pending]
    exact pending
  have first : advanceRole .systemAddress (state.site sequencerRegistryAddress).storage
      block.number = (state.site sequencerRegistryAddress).storage := if_neg (waiting _)
  rw [advance, first]
  exact if_neg (waiting _)

end Due

/-! ### The deploy -/

section Deploys

variable {hardforks : MegaHardforks} {artifacts : Artifacts} {state : BlockState}
  {block : BlockEnv} {config : SequencerRegistryConfig}

/-- Rex6 is active in the block. -/
def BlockEnv.rex6 (block : BlockEnv) (hardforks : MegaHardforks) : Bool :=
  hardforks.isRex6ActiveAtTimestamp block.blockTimestamp

/-- The version a block has. -/
def BlockEnv.version (block : BlockEnv) (hardforks : MegaHardforks) : RegistryVersion :=
  if block.rex6 hardforks then .v2 else .v1

/-- The delay the chain configures. -/
def MegaHardforks.rotationDelay (hardforks : MegaHardforks) : U256 :=
  (hardforks.sequencerRegistryRex6Config.map (·.rex6MinRotationDelay)).getD 0

/-- The storage of a fresh registry. -/
def seededStorage (hardforks : MegaHardforks) (block : BlockEnv)
    (config : SequencerRegistryConfig) : RegistryStorage :=
  writeSlots (fun _ => 0) (registrySeed config block.number
    (if block.rex6 hardforks then some hardforks.rotationDelay else none))

theorem minRotationDelay_ok {rex6 : Bool} {delay : Option U256}
    (found : minRotationDelay hardforks rex6 = .ok delay) :
    delay = if rex6 then some hardforks.rotationDelay else none := by
  rw [minRotationDelay] at found
  cases rex6 with
  | false =>
    cases found
    rfl
  | true =>
    rw [if_pos rfl] at found
    split at found
    · cases found
    · next params configured =>
      cases found
      rw [if_pos rfl, MegaHardforks.rotationDelay, configured]
      rfl

/-- The ways a deploy goes: a fresh one, an upgrade, or none. -/
theorem transactDeploySequencerRegistry_ok {result : Option EvmState}
    (rex5 : hardforks.isRex5ActiveAtTimestamp block.blockTimestamp = true)
    (deployed : transactDeploySequencerRegistry artifacts state hardforks block config =
      .ok result) :
    ∃ outcome, result = some outcome ∧
      ((∃ info, (state.site sequencerRegistryAddress).info = some info ∧
          block.rex6 hardforks = true ∧ info.codeHash = sequencerRegistryCodeHash ∧
          upgradeSequencerRegistry artifacts state info hardforks.rotationDelay = .ok outcome) ∨
        ((∀ info, (state.site sequencerRegistryAddress).info = some info →
            info.codeHash = (block.version hardforks).codeHash ∨ info.codeHash = keccakEmpty) ∧
          transactDeploy artifacts state
            (sequencerRegistrySpec (block.version hardforks).codeHash
              (registrySeed config block.number
                (if block.rex6 hardforks then some hardforks.rotationDelay else none))) =
            .ok outcome)) := by
  have target : (if block.rex6 hardforks = true then sequencerRegistryCodeHashRex6
      else sequencerRegistryCodeHash) = (block.version hardforks).codeHash := by
    rw [BlockEnv.version]
    split <;> rfl
  rw [transactDeploySequencerRegistry, rex5, if_neg (by decide)] at deployed
  obtain ⟨delay, configured, deployed⟩ := bind_eq_ok deployed
  obtain rfl := minRotationDelay_ok configured
  obtain ⟨existing, loaded, deployed⟩ := bind_eq_ok deployed
  obtain rfl := loadCacheAccount_ok loaded
  rw [show hardforks.isRex6ActiveAtTimestamp block.blockTimestamp = block.rex6 hardforks from rfl,
    target] at deployed
  generalize delayIs : (if block.rex6 hardforks then some hardforks.rotationDelay else none) =
    delay at deployed ⊢
  cases present : (state.site sequencerRegistryAddress).info with
  | none =>
    rw [present] at deployed
    obtain ⟨outcome, fresh, rfl⟩ := map_eq_ok deployed
    exact ⟨outcome, rfl, Or.inr ⟨nofun, fresh⟩⟩
  | some info =>
    rw [present] at deployed
    dsimp only at deployed
    split at deployed
    · next upgrades =>
      obtain ⟨outcome, upgraded, rfl⟩ := map_eq_ok deployed
      rw [← delayIs, upgrades.1, if_pos rfl] at upgraded
      exact ⟨outcome, rfl, Or.inl ⟨info, rfl, upgrades.1, upgrades.2, upgraded⟩⟩
    · obtain ⟨own, deployed⟩ := check_eq_ok deployed
      obtain ⟨outcome, fresh, rfl⟩ := map_eq_ok deployed
      refine ⟨outcome, rfl, Or.inr ⟨fun other found => ?_, fresh⟩⟩
      obtain rfl := Option.some.inj found
      by_cases same : info.codeHash = (block.version hardforks).codeHash
      · exact Or.inl same
      · exact Or.inr (not_not.mp fun coded => own ⟨same, coded⟩)

/-- An upgrade writes the new code and the delay, over whatever storage is there. -/
theorem upgradeSequencerRegistry_ok {info : AccountInfo} {delay : U256} {outcome : EvmState}
    (upgraded : upgradeSequencerRegistry artifacts state info delay = .ok outcome) :
    ∃ account, outcome.lookup sequencerRegistryAddress = some account ∧ ∀ site : Site,
      site.storage minRotationDelaySlot =
        (state.site sequencerRegistryAddress).storage minRotationDelaySlot →
      account.commit site =
        { info := some (installedInfo artifacts (some info) sequencerRegistryCodeHashRex6)
          storage := write site.storage minRotationDelaySlot delay } := by
  obtain ⟨original, read, upgraded⟩ := bind_eq_ok upgraded
  obtain rfl := storage_ok read
  cases upgraded
  refine ⟨_, AList.lookup_insert ∅, fun site same => ?_⟩
  have kept : (deployed artifacts info sequencerRegistryCodeHashRex6).isEmpty = false :=
    isEmpty_of_codeHash (show _ = v2.codeHash from rfl)
  refine (commit_changed rfl rfl rfl ?_).trans ?_
  · exact kept
  · rw [changedStorage_single _ rfl same]
    rfl

end Deploys

/-! ### A fresh registry -/

/-- The storage of a fresh registry, before a delay is set. -/
def freshStorage (config : SequencerRegistryConfig) (block : BlockEnv) : RegistryStorage :=
  writeSlots (fun _ => 0) (registrySeed config block.number none)

/-- A fresh registry is sound. -/
theorem freshStorage_sound (config : SequencerRegistryConfig) (block : BlockEnv) :
    RegistrySound (freshStorage config block) block.number where
  roles role := by
    have pending : freshStorage config block role.pendingSlot = 0 := by
      cases role <;> rfl
    have length : freshStorage config block role.historySlot = 0 := by
      cases role <;> rfl
    have current : freshStorage config block role.currentSlot < 2 ^ 160 ∧
        freshStorage config block role.currentSlot ≠ 0 := by
      cases role with
      | systemAddress =>
        exact ⟨(by decide : megaSystemAddress < 2 ^ 160), (by decide : megaSystemAddress ≠ 0)⟩
      | sequencer => exact ⟨config.sequencer_lt, config.sequencer_ne⟩
    have initial : freshStorage config block role.initialSlot =
        freshStorage config block role.currentSlot := by
      cases role <;> rfl
    have empty : (timeline role (freshStorage config block)).changes = [] := by
      rw [timeline, length]
      rfl
    exact
      { current := current.1
        current_ne := current.2
        initial := initial ▸ current.1
        pending := pending ▸ by decide
        waits := fun waiting => absurd pending waiting
        latest := by
          rw [Library.Timeline.latest, empty]
          exact (address_of_lt _ (initial ▸ current.1)).trans initial
        past := by
          rw [empty]
          intro _ member
          cases member
        length := length ▸ Nat.zero_le _ }
  initialFrom := Nat.le_refl _

theorem seededStorage_eq (hardforks : MegaHardforks) (block : BlockEnv)
    (config : SequencerRegistryConfig) :
    seededStorage hardforks block config =
      if block.rex6 hardforks then
        (freshStorage config block).write minRotationDelaySlot hardforks.rotationDelay
      else freshStorage config block := by
  rw [seededStorage]
  split
  · rfl
  · rfl

/-- Setting the delay keeps the roles. -/
theorem keepsRoles_writeDelay {storage : RegistryStorage} {number : Nat}
    (sound : RegistrySound storage number) (bound : number < 2 ^ 64) (delay : U256) :
    KeepsRoles storage (storage.write minRotationDelaySlot delay) number := by
  refine KeepsRoles.of_agrees sound bound (fun role slot owned => ?_)
    (storage.write_other _ (by decide))
  refine storage.write_other _ ?_
  rintro rfl
  exact role.not_owns_shared (by simp [Role.sharedSlots]) owned

/-! ### The outcomes for the registry -/

section Outcomes

variable {hardforks : MegaHardforks} {artifacts : Artifacts} {calls : SystemCalls}
  {state : BlockState} {block : BlockEnv}

/-- The outcomes for the registry, in their order. -/
theorem registryOutcomesWith_ok {makesCall : Bool → Bool} {outcomes : List EvmState}
    (rex5 : hardforks.isRex5ActiveAtTimestamp block.blockTimestamp = true)
    (through : registryOutcomesWith hardforks artifacts calls state block makesCall =
      .ok outcomes) :
    ∃ config due witness applied deployed,
      hardforks.sequencerRegistryConfig = some config ∧
      isApplyPendingChangesDue state block = .ok (due, witness) ∧
      (makesCall due = true →
        ∃ outcome, calls.applyPendingChanges state block = some (true, outcome) ∧
          applied = [outcome]) ∧
      (makesCall due = false → applied = []) ∧
      transactDeploySequencerRegistry artifacts state hardforks block config =
        .ok (some deployed) ∧
      outcomes = if block.rex6 hardforks then witness :: applied ++ [deployed]
        else deployed :: witness :: applied := by
  rw [registryOutcomesWith, rex5, if_neg (by decide)] at through
  split at through
  · cases through
  · next config configured =>
    rw [show hardforks.isRex6ActiveAtTimestamp block.blockTimestamp = block.rex6 hardforks from
      rfl] at through
    obtain ⟨before, first, through⟩ := bind_eq_ok through
    obtain ⟨⟨due, witness⟩, checked, through⟩ := bind_eq_ok through
    obtain ⟨applied, called, through⟩ := bind_eq_ok through
    obtain ⟨after, last, through⟩ := bind_eq_ok through
    cases through
    have made : makesCall due = true →
        ∃ outcome, calls.applyPendingChanges state block = some (true, outcome) ∧
          applied = [outcome] := by
      intro makes
      rw [makes] at called
      obtain ⟨outcome, ran, rfl⟩ := map_eq_ok called
      refine ⟨outcome, ?_, rfl⟩
      rw [transactApplyPendingChanges] at ran
      split at ran
      · cases ran
      · cases ran
      · next outcome succeeded =>
        cases ran
        exact succeeded
    have skipped : makesCall due = false → applied = [] := by
      intro skips
      rw [skips] at called
      exact (Except.ok.inj called).symm
    cases rex6 : block.rex6 hardforks with
    | true =>
      rw [rex6] at first last
      cases first
      obtain ⟨result, deployed, rfl⟩ := map_eq_ok last
      obtain ⟨outcome, rfl, -⟩ := transactDeploySequencerRegistry_ok rex5 deployed
      exact ⟨config, due, witness, applied, outcome, configured, checked, made, skipped, deployed,
        rfl⟩
    | false =>
      rw [rex6] at first last
      cases last
      obtain ⟨result, deployed, rfl⟩ := map_eq_ok first
      obtain ⟨outcome, rfl, -⟩ := transactDeploySequencerRegistry_ok rex5 deployed
      exact ⟨config, due, witness, applied, outcome, configured, checked, made, skipped, deployed,
        by simp⟩

end Outcomes

/-! ### The registry after the block has started -/

/-- The storage a block starts from: that of a fresh registry if there is none yet. -/
def registryBase (config : SequencerRegistryConfig) (block : BlockEnv) (site : Site) :
    RegistryStorage :=
  if (site.info.getD .default).codeHash = keccakEmpty then freshStorage config block
  else site.storage

/-- The storage a block is to have: what is due is applied, and the delay is set when Rex6 is first
active. -/
def registryStorageAfter (hardforks : MegaHardforks) (config : SequencerRegistryConfig)
    (block : BlockEnv) (site : Site) : Except RegistryError RegistryStorage := do
  let applied ← applyPendingChanges (registryBase config block site) block.number
  .ok (if block.rex6 hardforks ∧
        (site.info.getD .default).codeHash ≠ sequencerRegistryCodeHashRex6 then
      applied.write minRotationDelaySlot hardforks.rotationDelay
    else applied)

/-- The account and the storage a block is to have. -/
structure RegistryAfter (hardforks : MegaHardforks) (config : SequencerRegistryConfig)
    (block : BlockEnv) (before after : Site) : Prop where
  info : after.info.map AccountInfo.plain = some
    { (before.info.getD .default).plain with codeHash := (block.version hardforks).codeHash }
  storage : registryStorageAfter hardforks config block before = .ok after.storage

section After

variable {hardforks : MegaHardforks} {artifacts : Artifacts} {calls : SystemCalls}
  {state base : BlockState} {block : BlockEnv} {config : SequencerRegistryConfig}

theorem BlockState.commit_found {outcome : EvmState} {account : Account} {address : Address}
    (found : outcome.lookup address = some account) :
    (base.commit outcome).site address = account.commit (base.site address) := by
  rw [commit_site, found]

/-- A fresh deploy writes the fresh registry over whatever is there. -/
theorem RegistryAfter.fresh {deployed : EvmState}
    (rex5 : hardforks.isRex5ActiveAtTimestamp block.blockTimestamp = true)
    (vacant : Vacant (state.site sequencerRegistryAddress))
    (ran : transactDeploySequencerRegistry artifacts state hardforks block config =
      .ok (some deployed)) :
    RegistryAfter hardforks config block (state.site sequencerRegistryAddress)
      ((base.commit deployed).site sequencerRegistryAddress) := by
  obtain ⟨outcome, same, cases_⟩ := transactDeploySequencerRegistry_ok rex5 ran
  obtain rfl := Option.some.inj same
  have foreign : ∀ info, (state.site sequencerRegistryAddress).info = some info →
      ∀ version : RegistryVersion, info.codeHash ≠ version.codeHash := by
    intro info present version coded
    have codeless := vacant.codeless
    rw [present] at codeless
    exact version.codeHash_ne_empty (coded.symm.trans codeless)
  rcases cases_ with ⟨info, present, -, coded, -⟩ | ⟨-, fresh⟩
  · exact absurd coded (foreign info present .v1)
  · obtain ⟨account, found, committed⟩ := transactDeploy_fresh fresh
      (fun info present => foreign info present _) rfl
    have written : (base.commit deployed).site sequencerRegistryAddress = _ :=
      (commit_found found).trans (committed _)
    rw [written]
    refine ⟨?_, ?_⟩
    · rfl
    · have sound := freshStorage_sound config block
      have notV2 : (Option.getD (state.site sequencerRegistryAddress).info .default).codeHash ≠
          sequencerRegistryCodeHashRex6 :=
        vacant.codeless ▸ (codeHash_ne_empty .v2).symm
      have seeded := seededStorage_eq hardforks block config
      rw [registryStorageAfter, registryBase, if_pos vacant.codeless,
        sound.applyPendingChanges_eq block.number_lt, sound.advance_same]
      refine congrArg Except.ok (Eq.trans ?_ seeded.symm)
      simp only [notV2, ne_eq, not_false_eq_true, and_true]

/-- The call and the check before it take a deployed registry to where its contract takes it. -/
theorem applied_site {version : RegistryVersion} {info held : AccountInfo} {number : Nat}
    {due : Bool} {witness : EvmState} {applied : List EvmState} {makesCall : Bool → Bool}
    (lawful : calls.Lawful)
    (installed : Installed version info (state.site sequencerRegistryAddress) number)
    (bound : number < 2 ^ 64) (present : (base.site sequencerRegistryAddress).info = some held)
    (plain : held.plain = info.plain)
    (storage : (base.site sequencerRegistryAddress).storage =
      (state.site sequencerRegistryAddress).storage)
    (gates : makesCall true = true)
    (checked : isApplyPendingChangesDue state block = .ok (due, witness))
    (made : makesCall due = true →
      ∃ outcome, calls.applyPendingChanges state block = some (true, outcome) ∧
        applied = [outcome])
    (skipped : makesCall due = false → applied = []) :
    ∃ after, (base.commitAll (witness :: applied)).site sequencerRegistryAddress =
        { info := some after
          storage := advance (state.site sequencerRegistryAddress).storage block.number } ∧
      after.plain = info.plain := by
  obtain ⟨readOnly, dueIff⟩ := isApplyPendingChangesDue_ok checked
  rw [commitAll_cons]
  cases makes : makesCall due with
  | false =>
    obtain rfl := skipped makes
    have early : due = false := by
      cases due with
      | false => rfl
      | true => exact absurd (gates.symm.trans makes) (by decide)
    have unmoved := advance_of_not_due installed fun waiting =>
      Bool.false_ne_true (early.symm.trans
        (dueIff.mpr ⟨by rw [installed.present]; nofun, waiting⟩))
    refine ⟨held, ?_, plain⟩
    rw [commitAll_nil, readOnly.commit_site, unmoved, ← storage, ← present]
  | true =>
    obtain ⟨outcome, called, rfl⟩ := made makes
    have leaves : ContractLeaves (state.site sequencerRegistryAddress) block.number
        (advance (state.site sequencerRegistryAddress).storage block.number) :=
      Or.inl ⟨info, version, installed.present, installed.codeHash,
        installed.sound.applyPendingChanges_eq bound _⟩
    obtain ⟨account, found, runs⟩ := lawful.registry _ _ _ _ called leaves
    obtain ⟨committed, kept⟩ := runs.commit_eq installed.present installed.codeHash storage
    refine ⟨account.info, ?_, ?_⟩
    · rw [commitAll_cons, commitAll_nil, commit_found found, readOnly.commit_site, committed]
    · rw [kept]
      rfl

end After

section Registry

variable {hardforks : MegaHardforks} {artifacts : Artifacts} {calls : SystemCalls}
  {state base : BlockState} {block : BlockEnv}

/-- What may be at the address of the registry before a block. -/
inductive Prior (site : Site) : Prop
  | vacant (vacant : Vacant site)
  | installed (version : RegistryVersion) (info : AccountInfo) (number : Nat)
      (installed : Installed version info site number) (bound : number < 2 ^ 64)

/-- Nothing is due while there is no registry. -/
theorem Vacant.not_due {due : Bool} {witness : EvmState}
    (vacant : Vacant (state.site sequencerRegistryAddress))
    (checked : isApplyPendingChangesDue state block = .ok (due, witness)) : due = false := by
  obtain ⟨-, dueIff⟩ := isApplyPendingChangesDue_ok checked
  refine Bool.eq_false_iff.mpr fun reached => ?_
  obtain ⟨-, role, pending, -⟩ := dueIff.mp reached
  rw [vacant.storage] at pending
  exact pending rfl

variable {version : RegistryVersion} {info : AccountInfo} {number : Nat}

/-- A deployed registry of the block's version is left alone by the deploy. -/
theorem Installed.leavesAlone {deployed : EvmState} {seed : List (U256 × U256)}
    (installed : Installed version info (state.site sequencerRegistryAddress) number)
    (own : ∀ info, (state.site sequencerRegistryAddress).info = some info →
      info.codeHash = (block.version hardforks).codeHash ∨ info.codeHash = keccakEmpty)
    (ran : transactDeploy artifacts state
      (sequencerRegistrySpec (block.version hardforks).codeHash seed) = .ok deployed) :
    info.codeHash = (block.version hardforks).codeHash ∧
      LeavesAlone sequencerRegistryAddress deployed := by
  rcases own info installed.present with same | codeless
  · exact ⟨same, transactDeploy_present ran installed.present same⟩
  · exact absurd (installed.codeHash.symm.trans codeless) version.codeHash_ne_empty

/-- What is applied to a deployed registry, in the terms of the whole block. -/
theorem Installed.registryStorageAfter_eq {site : Site}
    (installed : Installed version info site number) (bound : number < 2 ^ 64)
    (config : SequencerRegistryConfig) :
    registryStorageAfter hardforks config block site = .ok
      (if block.rex6 hardforks ∧ info.codeHash ≠ sequencerRegistryCodeHashRex6 then
        (advance site.storage block.number).write minRotationDelaySlot hardforks.rotationDelay
      else advance site.storage block.number) := by
  have coded : (site.info.getD .default).codeHash = info.codeHash := by
    rw [installed.present]
    rfl
  have base : registryBase config block site = site.storage := by
    rw [registryBase, coded, installed.codeHash, if_neg version.codeHash_ne_empty]
  rw [registryStorageAfter, base, installed.sound.applyPendingChanges_eq bound, coded]
  rfl

/-- A registry of the block's version keeps its code and has its changes applied. -/
theorem Installed.registryAfter_kept {after : AccountInfo} {site : Site}
    {config : SequencerRegistryConfig} (installed : Installed version info site number)
    (bound : number < 2 ^ 64) (current : info.codeHash = (block.version hardforks).codeHash)
    (plain : after.plain = info.plain) :
    RegistryAfter hardforks config block site
      { info := some after, storage := advance site.storage block.number } where
  info := by
    rw [installed.present, Option.map_some, plain, ← current]
    rfl
  storage := by
    rw [installed.registryStorageAfter_eq bound, if_neg]
    rintro ⟨rex6, outdated⟩
    rw [BlockEnv.version, if_pos rex6] at current
    exact outdated current

/-- A registry of version one is upgraded once Rex6 is active. -/
theorem Installed.registryAfter_upgrade {after : AccountInfo} {config : SequencerRegistryConfig}
    {deployed : EvmState}
    (installed : Installed version info (state.site sequencerRegistryAddress) number)
    (bound : number < 2 ^ 64) (rex6 : block.rex6 hardforks = true)
    (outdated : info.codeHash = sequencerRegistryCodeHash)
    (upgraded : upgradeSequencerRegistry artifacts state info hardforks.rotationDelay =
      .ok deployed) (applies : base.site sequencerRegistryAddress =
      { info := some after
        storage := advance (state.site sequencerRegistryAddress).storage block.number }) :
    RegistryAfter hardforks config block (state.site sequencerRegistryAddress)
      ((base.commit deployed).site sequencerRegistryAddress) := by
  obtain ⟨account, found, committed⟩ := upgradeSequencerRegistry_ok upgraded
  have unset : (base.site sequencerRegistryAddress).storage minRotationDelaySlot =
      (state.site sequencerRegistryAddress).storage minRotationDelaySlot := by
    rw [applies]
    exact installed.sound.advance_other bound _ fun role =>
      role.not_owns_shared (by simp [Role.sharedSlots])
  rw [commit_found found, committed _ unset, applies]
  refine ⟨?_, ?_⟩
  · rw [installed.present, BlockEnv.version, if_pos rex6]
    rfl
  · rw [installed.registryStorageAfter_eq bound, if_pos ⟨rex6, by rw [outdated]; decide⟩]

/-- The outcomes for the registry leave the account and the storage the block is to have. Making
the call although nothing is due would be harmless too, except before Rex6 on a fresh registry. -/
theorem registryOutcomesWith_after {makesCall : Bool → Bool} {outcomes : List EvmState}
    (lawful : calls.Lawful) (rex5 : hardforks.isRex5ActiveAtTimestamp block.blockTimestamp = true)
    (same : base.site sequencerRegistryAddress = state.site sequencerRegistryAddress)
    (prior : Prior (state.site sequencerRegistryAddress)) (gates : makesCall true = true)
    (safe : Vacant (state.site sequencerRegistryAddress) → block.rex6 hardforks = false →
      makesCall false = false)
    (through : registryOutcomesWith hardforks artifacts calls state block makesCall =
      .ok outcomes) :
    ∃ config, hardforks.sequencerRegistryConfig = some config ∧
      RegistryAfter hardforks config block (state.site sequencerRegistryAddress)
        ((base.commitAll outcomes).site sequencerRegistryAddress) := by
  obtain ⟨config, due, witness, applied, deployed, configured, checked, made, skipped, ran, rfl⟩ :=
    registryOutcomesWith_ok rex5 through
  refine ⟨config, configured, ?_⟩
  obtain ⟨readOnly, -⟩ := isApplyPendingChangesDue_ok checked
  rcases prior with vacant | ⟨version, info, number, installed, bound⟩
  · cases rex6 : block.rex6 hardforks with
    | true =>
      rw [if_pos rfl, commitAll_append]
      exact RegistryAfter.fresh rex5 vacant ran
    | false =>
      obtain rfl := vacant.not_due checked
      obtain rfl := skipped (safe vacant rex6)
      rw [if_neg (by decide), commitAll_cons, commitAll_cons, commitAll_nil, readOnly.commit_site]
      exact RegistryAfter.fresh rex5 vacant ran
  · have present : (base.site sequencerRegistryAddress).info = some info := by
      rw [same, installed.present]
    obtain ⟨outcome, is, upgrades | ⟨own, kept⟩⟩ := transactDeploySequencerRegistry_ok rex5 ran
    · obtain rfl := Option.some.inj is
      obtain ⟨old, found, rex6, outdated, upgraded⟩ := upgrades
      obtain rfl : info = old := Option.some.inj (installed.present.symm.trans found)
      obtain ⟨after, applies, plain⟩ := applied_site lawful installed bound present rfl
        (congrArg Site.storage same) gates checked made skipped
      rw [if_pos rex6, commitAll_append, commitAll_cons, commitAll_nil]
      exact installed.registryAfter_upgrade bound rex6 outdated upgraded applies
    · obtain rfl := Option.some.inj is
      obtain ⟨current, alone⟩ := installed.leavesAlone own kept
      have unmoved := alone.commit_site base
      split
      · obtain ⟨after, applies, plain⟩ := applied_site lawful installed bound present rfl
          (congrArg Site.storage same) gates checked made skipped
        rw [commitAll_append, commitAll_cons, commitAll_nil, alone.commit_site, applies]
        exact installed.registryAfter_kept bound current plain
      · obtain ⟨after, applies, plain⟩ := applied_site lawful installed bound
          (unmoved ▸ present) rfl (unmoved ▸ congrArg Site.storage same) gates checked made skipped
        rw [commitAll_cons, applies]
        exact installed.registryAfter_kept bound current plain

end Registry

/-! ### The whole of the pre-block changes -/

section Whole

variable {hardforks : MegaHardforks} {artifacts : Artifacts} {calls : SystemCalls}
  {state : BlockState} {block : BlockEnv} {outcomes : List EvmState}

theorem historyOutcomes_leavesAlone {error : BlockExecutionError}
    {result : Option (Bool × EvmState)}
    (leaves : ∀ success outcome, result = some (success, outcome) →
      LeavesAlone sequencerRegistryAddress outcome)
    (through : historyOutcomes hardforks block error result = .ok outcomes) :
    ∀ outcome ∈ outcomes, LeavesAlone sequencerRegistryAddress outcome := by
  unfold historyOutcomes at through
  split at through
  · cases through
    exact fun _ member => nomatch member
  · next success outcome =>
    obtain ⟨-, through⟩ := check_eq_ok through
    cases through
    intro other member
    obtain rfl := List.mem_singleton.mp member
    exact leaves success other rfl

/-- The flat contracts are deployed elsewhere. -/
theorem flat_leavesAlone (through : (flatSystemContractSpecs hardforks block.blockTimestamp).mapM
      (transactDeploy artifacts state) = .ok outcomes) :
    ∀ outcome ∈ outcomes, LeavesAlone sequencerRegistryAddress outcome := by
  intro outcome member account found
  obtain ⟨spec, listed, deployed⟩ := exists_of_mapM_eq_ok through outcome member
  have addresses := mem_flatSystemContractSpecs hardforks block.blockTimestamp listed
  have elsewhere : sequencerRegistryAddress ≠ spec.address := by
    intro same
    rw [← same] at addresses
    revert addresses
    decide
  rw [transactDeploy_elsewhere deployed elsewhere] at found
  cases found

/-- Whatever comes before the registry leaves it alone. -/
theorem preExecutionChangesWith_ok {makesCall : Bool → Bool} (lawful : calls.Lawful)
    (through : preExecutionChangesWith hardforks artifacts calls state block makesCall =
      .ok outcomes) :
    ∃ others registry, outcomes = others ++ registry ∧
      (∀ base : BlockState, (base.commitAll others).site sequencerRegistryAddress =
        base.site sequencerRegistryAddress) ∧
      registryOutcomesWith hardforks artifacts calls state block makesCall = .ok registry := by
  obtain ⟨blockhashes, blockhashesRan, through⟩ := bind_eq_ok through
  obtain ⟨history, historyIs, through⟩ := bind_eq_ok through
  obtain ⟨beaconRoot, beaconRootRan, through⟩ := bind_eq_ok through
  obtain ⟨beacon, beaconIs, through⟩ := bind_eq_ok through
  obtain ⟨flat, flatIs, through⟩ := bind_eq_ok through
  obtain ⟨registry, registryIs, through⟩ := bind_eq_ok through
  cases through
  refine ⟨history ++ beacon ++ flat, registry, rfl, fun base => ?_, registryIs⟩
  rw [commitAll_append, commitAll_append,
    commitAll_site (flat_leavesAlone flatIs),
    commitAll_site (historyOutcomes_leavesAlone (fun success outcome is =>
      lawful.beaconRoot _ _ success outcome (is ▸ beaconRootRan)) beaconIs),
    commitAll_site (historyOutcomes_leavesAlone (fun success outcome is =>
      lawful.blockhashes _ _ success outcome (is ▸ blockhashesRan)) historyIs)]

/-- The pre-block changes leave the account and the storage the block is to have. -/
theorem preExecutionChangesWith_after {makesCall : Bool → Bool} (lawful : calls.Lawful)
    (rex5 : hardforks.isRex5ActiveAtTimestamp block.blockTimestamp = true)
    (prior : Prior (state.site sequencerRegistryAddress)) (gates : makesCall true = true)
    (safe : Vacant (state.site sequencerRegistryAddress) → block.rex6 hardforks = false →
      makesCall false = false)
    (through : preExecutionChangesWith hardforks artifacts calls state block makesCall =
      .ok outcomes) :
    ∃ config, hardforks.sequencerRegistryConfig = some config ∧
      RegistryAfter hardforks config block (state.site sequencerRegistryAddress)
        ((state.commitAll outcomes).site sequencerRegistryAddress) := by
  obtain ⟨others, registry, rfl, alone, registryIs⟩ := preExecutionChangesWith_ok lawful through
  rw [commitAll_append]
  exact registryOutcomesWith_after lawful rex5 (alone state) prior gates safe registryIs

/-- Before Rex5 the registry is left alone. -/
theorem preExecutionChanges_before (lawful : calls.Lawful)
    (early : hardforks.isRex5ActiveAtTimestamp block.blockTimestamp = false)
    (through : preExecutionChanges hardforks artifacts calls state block = .ok outcomes) :
    (state.commitAll outcomes).site sequencerRegistryAddress =
      state.site sequencerRegistryAddress := by
  obtain ⟨others, registry, rfl, alone, registryIs⟩ := preExecutionChangesWith_ok lawful through
  rw [registryOutcomesWith, early] at registryIs
  cases registryIs
  rw [List.append_nil, alone]

end Whole

/-! ### The storage the block has -/

section Storage

variable {hardforks : MegaHardforks} {config : SequencerRegistryConfig} {block : BlockEnv}
  {before after : Site} (changed : RegistryAfter hardforks config block before after)

include changed

/-- The code is the one the block's specification asks for. -/
theorem RegistryAfter.codeHash :
    ∃ info, after.info = some info ∧ info.codeHash = (block.version hardforks).codeHash := by
  obtain ⟨info, found, plain⟩ := Option.map_eq_some_iff.mp changed.info
  exact ⟨info, found, congrArg AccountInfo.codeHash plain⟩

/-- On a fresh registry nothing is applied. -/
theorem RegistryAfter.vacant (vacant : Vacant before) :
    after.storage = freshStorage config block ∨
      after.storage =
        (freshStorage config block).write minRotationDelaySlot hardforks.rotationDelay := by
  have sound := freshStorage_sound config block
  have storage := changed.storage
  rw [registryStorageAfter, registryBase, if_pos vacant.codeless,
    sound.applyPendingChanges_eq block.number_lt, sound.advance_same] at storage
  have written := Except.ok.inj storage
  split at written
  · exact Or.inr written.symm
  · exact Or.inl written.symm

/-- On a deployed registry what is due is applied. -/
theorem RegistryAfter.installed {version : RegistryVersion} {info : AccountInfo} {number : Nat}
    (installed : Installed version info before number) (bound : number < 2 ^ 64) :
    after.storage = advance before.storage block.number ∨
      after.storage = (advance before.storage block.number).write minRotationDelaySlot
        hardforks.rotationDelay := by
  have storage := changed.storage
  rw [installed.registryStorageAfter_eq bound] at storage
  have written := Except.ok.inj storage
  split at written
  · exact Or.inr written.symm
  · exact Or.inl written.symm

end Storage

end MegaEvm
