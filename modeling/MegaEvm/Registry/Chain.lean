/-
This file follows the registry over a chain of blocks. Each block starts with its
pre-block changes, which also give the block its system address; then come calls of the
registry by anyone, and other transactions. After every step the current holders are
observed. In every state reached, the getters of the registry answer for each past block
with the holders that were observed in it, so within a block the holders never change.

The chain starts without a registry. Other transactions may move the balance of the
account, but its code and its storage are its own.
-/

import MegaEvm.Library.Runs
import MegaEvm.Registry.Transition

namespace MegaEvm

open Library RegistryStorage RegistryCrypto

/-! ### The chain -/

/-- A transaction that does not call the registry. -/
structure OtherEffect where
  apply : BlockState → BlockState
  storage : ∀ state, ((apply state).site sequencerRegistryAddress).storage =
    (state.site sequencerRegistryAddress).storage
  codeHash : ∀ state,
    (((apply state).site sequencerRegistryAddress).info.getD .default).codeHash =
      ((state.site sequencerRegistryAddress).info.getD .default).codeHash

/-- The steps of a chain. -/
inductive RegistryStep
  | nextBlock (calls : SystemCalls) (lawful : calls.Lawful) (timestamp : Nat)
  | call (sender : Address) (call : RegistryCall)
  | other (effect : OtherEffect)

/-- A step within a block. -/
def RegistryStep.isTransaction : RegistryStep → Bool
  | nextBlock _ _ _ => false
  | call _ _ | other _ => true

/-- What is seen of the registry in a block: the system address the block was given, and the current
holders. -/
structure Observation where
  block : Nat
  given : Address
  systemAddress : Address
  sequencer : Address
deriving DecidableEq

/-- The chain at a point of a block, with what was observed so far. -/
structure RegistryChain where
  state : BlockState
  number : Nat
  timestamp : Nat
  systemAddress : Address
  observed : List Observation

/-- What is fixed for a chain. -/
structure ChainConfig where
  hardforks : MegaHardforks
  artifacts : Artifacts
  crypto : RegistryCrypto
  chainId : U256

/-- The version of the registry at an account, if it is one. -/
def Site.version (site : Site) : Option RegistryVersion :=
  site.info.bind fun info =>
    if info.codeHash = sequencerRegistryCodeHash then some .v1
    else if info.codeHash = sequencerRegistryCodeHashRex6 then some .v2
    else none

/-- Set the storage of the registry. -/
def BlockState.setRegistry (state : BlockState) (storage : RegistryStorage) : BlockState :=
  { state with
    site := Function.update state.site sequencerRegistryAddress
      { state.site sequencerRegistryAddress with storage } }

theorem BlockState.setRegistry_site (state : BlockState) (storage : RegistryStorage) :
    (state.setRegistry storage).site sequencerRegistryAddress =
      { info := (state.site sequencerRegistryAddress).info, storage } := by
  simp [setRegistry]

namespace RegistryChain

variable (chain : RegistryChain)

def site : Site :=
  chain.state.site sequencerRegistryAddress

def storage : RegistryStorage :=
  chain.site.storage

/-- What a call at this point sees. -/
def message (config : ChainConfig) (sender : Address) : Message :=
  { sender, blockNumber := chain.number, chainId := config.chainId }

/-- Observe the registry, if there is one. -/
def observe : RegistryChain :=
  if chain.site.version.isSome then
    { chain with
      observed :=
        { block := chain.number
          given := chain.systemAddress
          systemAddress := currentSystemAddress chain.storage
          sequencer := currentSequencer chain.storage } :: chain.observed }
  else chain

/-- Call the registry. A call that reverts does nothing. -/
def callRegistry (config : ChainConfig) (sender : Address) (call : RegistryCall) :
    RegistryChain :=
  match chain.site.version with
  | none => chain
  | some version =>
    match config.crypto.dispatch version chain.storage (chain.message config sender) call with
    | .ok (storage, _) => { chain with state := chain.state.setRegistry storage }
    | .error _ => chain

/-- Start the next block. -/
def startBlock (config : ChainConfig) (calls : SystemCalls) (timestamp : Nat) :
    Option RegistryChain :=
  if bound : chain.number + 1 < 2 ^ 64 then
    if chain.timestamp ≤ timestamp then
      match applyPreExecutionChanges config.hardforks config.artifacts calls chain.state
          { number := chain.number + 1, timestamp, number_lt := bound } with
      | .ok (state, systemAddress) =>
        some { chain with state, number := chain.number + 1, timestamp, systemAddress }
      | .error _ => none
    else none
  else none

end RegistryChain

/-- One step of the chain. -/
def RegistryChain.step (config : ChainConfig) (chain : RegistryChain) :
    RegistryStep → Option RegistryChain
  | .nextBlock calls _ timestamp => (chain.startBlock config calls timestamp).map observe
  | .call sender call => some (chain.callRegistry config sender call).observe
  | .other effect => some { chain with state := effect.apply chain.state }.observe

/-! ### Truthful records -/

/-- What was observed is what the timelines of the registry say, and every block below a limit was
observed. -/
structure Truthful (storage : RegistryStorage) (number limit : Nat)
    (observed : List Observation) : Prop where
  covered : ∀ seen ∈ observed, storage initialFromBlockSlot ≤ seen.block ∧ seen.block ≤ number
  given : ∀ seen ∈ observed, seen.given = seen.systemAddress
  systemAddress : ∀ seen ∈ observed,
    (timeline .systemAddress storage).valueAt seen.block = seen.systemAddress
  sequencer : ∀ seen ∈ observed,
    (timeline .sequencer storage).valueAt seen.block = seen.sequencer
  complete : ∀ block, storage initialFromBlockSlot ≤ block → block < limit →
    ∃ seen ∈ observed, seen.block = block

section Truth

variable {storage after : RegistryStorage} {number limit : Nat} {observed : List Observation}
  (truthful : Truthful storage number limit observed)

include truthful

/-- A registry that answers the same for the past has the same truthful records. -/
theorem Truthful.congr {later : Nat} (order : number ≤ later)
    (initialFrom : after initialFromBlockSlot = storage initialFromBlockSlot)
    (valueAt : ∀ (role : Role) (block : Nat), block ≤ number →
      (timeline role after).valueAt block = (timeline role storage).valueAt block) :
    Truthful after later limit observed where
  covered seen member := by
    rw [initialFrom]
    obtain ⟨covered, past⟩ := truthful.covered seen member
    exact ⟨covered, Nat.le_trans past order⟩
  given := truthful.given
  systemAddress seen member := by
    rw [valueAt _ _ (truthful.covered seen member).2]
    exact truthful.systemAddress seen member
  sequencer seen member := by
    rw [valueAt _ _ (truthful.covered seen member).2]
    exact truthful.sequencer seen member
  complete := by
    rw [initialFrom]
    exact truthful.complete

/-- A call keeps records truthful. -/
theorem Truthful.keepsRoles (keeps : KeepsRoles storage after number) :
    Truthful after number limit observed :=
  truthful.congr (Nat.le_refl _) keeps.initialFrom fun role _ _ => by rw [keeps.timeline role]

/-- The next block keeps records truthful. -/
theorem Truthful.advance (sound : RegistrySound storage number) (bound : number + 1 < 2 ^ 64) :
    Truthful (advance storage (number + 1)) (number + 1) limit observed :=
  truthful.congr (Nat.le_succ _)
    (sound.advance_other (Nat.lt_of_succ_lt bound) _ fun role =>
      role.not_owns_shared (by simp [Role.sharedSlots]))
    fun role _ past => sound.valueAt_advance bound role past

omit truthful

/-- A fresh registry has nothing to be truthful about. -/
theorem Truthful.fresh (config : SequencerRegistryConfig) (block : BlockEnv) :
    Truthful (freshStorage config block) block.number block.number [] where
  covered _ member := nomatch member
  given _ member := nomatch member
  systemAddress _ member := nomatch member
  sequencer _ member := nomatch member
  complete _ covered below := absurd below (Nat.not_lt.mpr covered)

/-- Observing the current holders keeps records truthful and covers the block. -/
theorem Truthful.observe (truthful : Truthful storage number limit observed)
    (sound : RegistrySound storage number) (reached : number ≤ limit) :
    Truthful storage number (number + 1)
      ({ block := number
         given := currentSystemAddress storage
         systemAddress := currentSystemAddress storage
         sequencer := currentSequencer storage } :: observed) := by
  have now : ∀ role : Role,
      (timeline role storage).valueAt number = storage.address role.currentSlot := by
    intro role
    rw [(sound.roles role).valueAt_now, storage.address_of_lt (sound.roles role).current]
  refine ⟨?_, ?_, ?_, ?_, ?_⟩
  · rintro seen (_ | ⟨_, member⟩)
    · exact ⟨sound.initialFrom, Nat.le_refl _⟩
    · exact truthful.covered seen member
  · rintro seen (_ | ⟨_, member⟩)
    · rfl
    · exact truthful.given seen member
  · rintro seen (_ | ⟨_, member⟩)
    · exact now .systemAddress
    · exact truthful.systemAddress seen member
  · rintro seen (_ | ⟨_, member⟩)
    · exact now .sequencer
    · exact truthful.sequencer seen member
  · intro block covered below
    rcases Nat.lt_or_ge block number with earlier | later
    · obtain ⟨seen, member, is⟩ := truthful.complete block covered
        (Nat.lt_of_lt_of_le earlier reached)
      exact ⟨seen, List.mem_cons_of_mem _ member, is⟩
    · exact ⟨_, List.mem_cons_self .., Nat.le_antisymm later (Nat.le_of_lt_succ below)⟩

end Truth

/-! ### What a chain keeps -/

/-- What holds of a chain: before there is a registry nothing was observed, and from then on the
registry is sound, its hardfork is active, and it is truthful up to a limit. -/
inductive ChainSound (config : ChainConfig) (chain : RegistryChain) (limit : Nat) : Prop
  | before (bound : chain.number < 2 ^ 64) (vacant : Vacant chain.site)
      (observed : chain.observed = [])
  | after (bound : chain.number < 2 ^ 64) (version : RegistryVersion) (info : AccountInfo)
      (installed : Installed version info chain.site chain.number)
      (rex5 : config.hardforks.isRex5ActiveAtTimestamp (min chain.timestamp u64Max) = true)
      (given : chain.systemAddress = currentSystemAddress chain.storage)
      (truthful : Truthful chain.storage chain.number limit chain.observed)

section Versions

variable {site : Site}

theorem Site.version_eq_none (codeless : (site.info.getD .default).codeHash = keccakEmpty) :
    site.version = none := by
  rw [Site.version]
  cases present : site.info with
  | none => rfl
  | some info =>
    rw [present] at codeless
    have codeless : info.codeHash = keccakEmpty := codeless
    rw [Option.bind_some, codeless]
    rfl

variable {version : RegistryVersion} {info : AccountInfo}

theorem Site.version_eq_some (present : site.info = some info)
    (codeHash : info.codeHash = version.codeHash) : site.version = some version := by
  rw [Site.version, present, Option.bind_some, codeHash]
  cases version <;> rfl

theorem Vacant.version_eq (vacant : Vacant site) : site.version = none :=
  Site.version_eq_none vacant.codeless

theorem Installed.version_eq {number : Nat} (installed : Installed version info site number) :
    site.version = some version :=
  Site.version_eq_some installed.present installed.codeHash

end Versions

namespace RegistryChain

variable (chain : RegistryChain)

theorem observe_site : chain.observe.site = chain.site := by
  rw [observe]
  split <;> rfl

theorem observe_number : chain.observe.number = chain.number := by
  rw [observe]
  split <;> rfl

theorem observe_systemAddress : chain.observe.systemAddress = chain.systemAddress := by
  rw [observe]
  split <;> rfl

variable (config : ChainConfig) (sender : Address) (call : RegistryCall)

/-- A call changes the storage of the registry only. -/
theorem callRegistry_fields :
    ∃ state, chain.callRegistry config sender call = { chain with state } := by
  rw [callRegistry]
  split
  · exact ⟨_, rfl⟩
  · split
    · exact ⟨_, rfl⟩
    · exact ⟨_, rfl⟩

theorem callRegistry_number : (chain.callRegistry config sender call).number = chain.number := by
  obtain ⟨state, is⟩ := chain.callRegistry_fields config sender call
  rw [is]

theorem callRegistry_systemAddress :
    (chain.callRegistry config sender call).systemAddress = chain.systemAddress := by
  obtain ⟨state, is⟩ := chain.callRegistry_fields config sender call
  rw [is]

end RegistryChain

/-- Observing completes what a chain keeps. -/
theorem ChainSound.observe {config : ChainConfig} {chain : RegistryChain} {limit : Nat}
    (sound : ChainSound config chain limit) (reached : chain.number ≤ limit) :
    ChainSound config chain.observe (chain.observe.number + 1) := by
  rcases sound with ⟨bound, vacant, observed⟩ |
    ⟨bound, version, info, installed, rex5, given, truthful⟩
  · have same : chain.observe = chain := by
      rw [RegistryChain.observe, vacant.version_eq]
      rfl
    rw [same]
    exact .before bound vacant observed
  · have seen : chain.observe =
        { chain with
          observed :=
            { block := chain.number
              given := currentSystemAddress chain.storage
              systemAddress := currentSystemAddress chain.storage
              sequencer := currentSequencer chain.storage } :: chain.observed } := by
      simp only [RegistryChain.observe, installed.version_eq, Option.isSome_some, if_true, given]
    rw [seen]
    exact .after bound version info installed rex5 given (truthful.observe installed.sound reached)

/-! ### The steps of a chain -/

open RegistryChain

section Steps

variable {config : ChainConfig} {chain next : RegistryChain}

/-- A call of the registry keeps what holds. -/
theorem ChainSound.callRegistry {limit : Nat} (sound : ChainSound config chain limit)
    (sender : Address) (call : RegistryCall) :
    ChainSound config (chain.callRegistry config sender call) limit := by
  rcases sound with ⟨bound, vacant, observed⟩ |
    ⟨bound, version, info, installed, rex5, given, truthful⟩
  · rw [RegistryChain.callRegistry, vacant.version_eq]
    exact .before bound vacant observed
  · rw [RegistryChain.callRegistry, installed.version_eq]
    dsimp only
    split
    · next storage events ran =>
      have keeps : KeepsRoles chain.storage storage chain.number :=
        dispatch_keepsRoles installed.sound bound ran
      have written := chain.state.setRegistry_site storage
      refine .after bound version info ?_ rex5 ?_ ?_
      · rw [RegistryChain.site, written]
        exact ⟨installed.present, installed.codeHash, keeps.sound⟩
      · rw [RegistryChain.storage, RegistryChain.site, written]
        exact given.trans (congrArg (· % 2 ^ 160) (keeps.current .systemAddress).symm)
      · rw [RegistryChain.storage, RegistryChain.site, written]
        exact truthful.keepsRoles keeps
    · exact .after bound version info installed rex5 given truthful

/-- Another transaction keeps what holds. -/
theorem ChainSound.other {limit : Nat} (sound : ChainSound config chain limit)
    (effect : OtherEffect) :
    ChainSound config { chain with state := effect.apply chain.state } limit := by
  have storage := effect.storage chain.state
  have codeHash := effect.codeHash chain.state
  rcases sound with ⟨bound, vacant, observed⟩ |
    ⟨bound, version, info, installed, rex5, given, truthful⟩
  · exact .before bound ⟨codeHash.trans vacant.codeless, storage.trans vacant.storage⟩ observed
  · have coded : (((effect.apply chain.state).site sequencerRegistryAddress).info.getD
        .default).codeHash = version.codeHash := by
      rw [codeHash]
      exact (congrArg (fun found => (Option.getD found .default).codeHash)
        installed.present).trans installed.codeHash
    cases present : ((effect.apply chain.state).site sequencerRegistryAddress).info with
    | none =>
      rw [present] at coded
      exact absurd coded.symm version.codeHash_ne_empty
    | some found =>
      rw [present] at coded
      refine .after bound version found ⟨present, coded, ?_⟩ rex5 ?_ ?_
      · exact storage ▸ installed.sound
      · exact given.trans (congrArg currentSystemAddress storage.symm)
      · show Truthful ((effect.apply chain.state).site sequencerRegistryAddress).storage _ _ _
        rw [storage]
        exact truthful

/-- Resolving the system address only reads the registry, and from Rex5 on it reads the address
there. -/
theorem resolveSystemAddress_ok {hardforks : MegaHardforks} {state : BlockState}
    {spec : MegaSpecId} {systemAddress : Address} {read : Option EvmState}
    (resolved : resolveSystemAddress hardforks state spec = .ok (systemAddress, read)) :
    (∀ outcome ∈ read.toList, LeavesAlone sequencerRegistryAddress outcome) ∧
      (spec.isEnabled .rex5 = true →
        systemAddress = currentSystemAddress (state.site sequencerRegistryAddress).storage) := by
  rw [resolveSystemAddress] at resolved
  split at resolved
  · next early =>
    cases resolved
    refine ⟨fun _ member => absurd member List.not_mem_nil, fun rex5 => ?_⟩
    rw [rex5] at early
    exact absurd early (by decide)
  · obtain ⟨-, resolved⟩ := check_eq_ok resolved
    obtain ⟨existing, -, resolved⟩ := bind_eq_ok resolved
    split at resolved
    · cases resolved
    · obtain ⟨-, resolved⟩ := check_eq_ok resolved
      obtain ⟨value, valueRead, resolved⟩ := bind_eq_ok resolved
      obtain ⟨-, resolved⟩ := check_eq_ok resolved
      cases resolved
      refine ⟨fun outcome member account found => ?_, fun _ => ?_⟩
      · obtain rfl := List.mem_singleton.mp member
        obtain ⟨-, rfl⟩ := eq_of_lookup_singleton found
        rfl
      · rw [BlockState.storage_ok valueRead]
        rfl

/-- What starting a block does. -/
theorem RegistryChain.startBlock_some {calls : SystemCalls} {timestamp : Nat}
    (started : chain.startBlock config calls timestamp = some next) :
    ∃ (block : BlockEnv) (outcomes : List EvmState) (read : Option EvmState),
      block.number = chain.number + 1 ∧ block.timestamp = timestamp ∧
      chain.timestamp ≤ timestamp ∧
      preExecutionChanges config.hardforks config.artifacts calls chain.state block =
        .ok outcomes ∧
      resolveSystemAddress config.hardforks (chain.state.commitAll outcomes)
        (config.hardforks.specId block.blockTimestamp) = .ok (next.systemAddress, read) ∧
      next.state = (chain.state.commitAll outcomes).commitAll read.toList ∧
      next.number = block.number ∧ next.timestamp = timestamp ∧ next.observed = chain.observed := by
  rw [startBlock] at started
  split at started
  · next bound =>
    split at started
    · next order =>
      split at started
      · next state systemAddress ran =>
        cases started
        obtain ⟨outcomes, changed, ran⟩ := bind_eq_ok ran
        obtain ⟨⟨resolvedAddress, read⟩, resolved, ran⟩ := bind_eq_ok ran
        cases ran
        exact ⟨_, outcomes, read, rfl, rfl, order, changed, resolved, rfl, rfl, rfl, rfl⟩
      · cases started
    · cases started
  · cases started

theorem ChainSound.prior {limit : Nat} (sound : ChainSound config chain limit) :
    Prior (chain.state.site sequencerRegistryAddress) := by
  rcases sound with ⟨-, vacant, -⟩ | ⟨bound, version, info, installed, -, -, -⟩
  · exact .vacant vacant
  · exact .installed version info chain.number installed bound

/-- What holds once the changes before a block are committed, whether or not the delay was set. -/
theorem ChainSound.of_storage {info : AccountInfo} {version : RegistryVersion} {limit : Nat}
    {storage : RegistryStorage} {delay : U256} (bound : next.number < 2 ^ 64)
    (present : next.site.info = some info) (codeHash : info.codeHash = version.codeHash)
    (rex5 : config.hardforks.isRex5ActiveAtTimestamp (min next.timestamp u64Max) = true)
    (given : next.systemAddress = currentSystemAddress next.storage)
    (written : next.storage = storage ∨ next.storage = storage.write minRotationDelaySlot delay)
    (sound : RegistrySound storage next.number)
    (truthful : Truthful storage next.number limit next.observed) :
    ChainSound config next limit := by
  have keeps : KeepsRoles storage next.storage next.number := by
    rcases written with same | delayed
    · rw [same]
      exact KeepsRoles.refl sound
    · rw [delayed]
      exact keepsRoles_writeDelay sound bound delay
  exact .after bound version info ⟨present, codeHash, keeps.sound⟩ rex5 given
    (truthful.keepsRoles keeps)

/-- Starting a block keeps what holds, up to the block that starts. -/
theorem ChainSound.startBlock (sound : ChainSound config chain (chain.number + 1))
    {calls : SystemCalls} (lawful : calls.Lawful) {timestamp : Nat}
    (started : chain.startBlock config calls timestamp = some next) :
    ChainSound config next next.number := by
  obtain ⟨block, outcomes, read, numberIs, timestampIs, order, changed, resolved, state, number,
    nextTimestamp, observed⟩ := startBlock_some started
  obtain ⟨readOnly, address⟩ := resolveSystemAddress_ok resolved
  have site : next.site = (chain.state.commitAll outcomes).site sequencerRegistryAddress := by
    rw [site, state, LeavesAlone.commitAll_site readOnly]
  have bound : next.number < 2 ^ 64 := number ▸ block.number_lt
  cases rex5 : config.hardforks.isRex5ActiveAtTimestamp block.blockTimestamp with
  | false =>
    have unchanged := preExecutionChanges_before lawful rex5 changed
    rcases sound with ⟨-, vacant, unobserved⟩ | ⟨-, -, -, -, active, -, -⟩
    · refine .before bound ?_ (observed.trans unobserved)
      rw [site, unchanged]
      exact vacant
    · have later := config.hardforks.isActiveAtTimestamp_mono
        (show min chain.timestamp u64Max ≤ block.blockTimestamp by
          rw [BlockEnv.blockTimestamp, timestampIs]
          omega) active
      exact absurd (rex5.symm.trans later) (by decide)
  | true =>
    obtain ⟨registryConfig, -, after⟩ := preExecutionChangesWith_after lawful rex5 sound.prior rfl
      (fun _ _ => rfl) changed
    rw [← site] at after
    obtain ⟨info, present, codeHash⟩ := after.codeHash
    have spec : (config.hardforks.specId block.blockTimestamp).isEnabled .rex5 = true := by
      rw [config.hardforks.specId_eq rex5]
      split <;> rfl
    have given : next.systemAddress = currentSystemAddress next.storage := by
      rw [address spec, storage, site]
    have active : config.hardforks.isRex5ActiveAtTimestamp (min next.timestamp u64Max) = true := by
      rw [nextTimestamp, ← timestampIs]
      exact rex5
    rcases sound with ⟨-, vacant, unobserved⟩ | ⟨-, version, old, installed, -, -, truthful⟩
    · refine .of_storage bound present codeHash active given (after.vacant vacant)
        (number ▸ freshStorage_sound registryConfig block) ?_
      rw [observed, unobserved, number]
      exact .fresh registryConfig block
    · have earlier : chain.number + 1 < 2 ^ 64 := numberIs ▸ block.number_lt
      have applied := after.installed installed (Nat.lt_of_succ_lt earlier)
      rw [numberIs] at applied number
      refine .of_storage bound present codeHash active given applied
        (number ▸ installed.sound.advance earlier) ?_
      rw [observed, number]
      exact truthful.advance installed.sound earlier

/-- A step keeps what holds. -/
theorem ChainSound.step (sound : ChainSound config chain (chain.number + 1))
    {event : RegistryStep} (stepped : chain.step config event = some next) :
    ChainSound config next (next.number + 1) := by
  cases event with
  | nextBlock calls lawful timestamp =>
    obtain ⟨started, starts, rfl⟩ := Option.map_eq_some_iff.mp stepped
    exact (sound.startBlock lawful starts).observe (Nat.le_refl _)
  | call sender call =>
    cases stepped
    refine (sound.callRegistry sender call).observe ?_
    rw [callRegistry_number]
    exact Nat.le_succ _
  | other effect =>
    cases stepped
    exact (sound.other effect).observe (Nat.le_succ _)

/-- Within a block, the holders and the system address stay as they are. -/
theorem ChainSound.step_transaction {limit : Nat} (sound : ChainSound config chain limit)
    {event : RegistryStep} (transaction : event.isTransaction = true)
    (stepped : chain.step config event = some next) :
    next.number = chain.number ∧ next.systemAddress = chain.systemAddress ∧
      ∀ role : Role, next.storage.address role.currentSlot =
        chain.storage.address role.currentSlot := by
  cases event with
  | nextBlock => cases transaction
  | call sender call =>
    cases stepped
    have held : ∀ role : Role, (chain.callRegistry config sender call).storage role.currentSlot =
        chain.storage role.currentSlot := by
      intro role
      rcases sound with ⟨-, vacant, -⟩ | ⟨bound, version, info, installed, -, -, -⟩
      · rw [RegistryChain.callRegistry, vacant.version_eq]
      · rw [RegistryChain.callRegistry, installed.version_eq]
        dsimp only
        split
        · next storage events ran =>
          rw [RegistryChain.storage, RegistryChain.site, BlockState.setRegistry_site]
          exact (dispatch_keepsRoles installed.sound bound ran).current role
        · rfl
    refine ⟨?_, ?_, fun role => ?_⟩
    · rw [observe_number, callRegistry_number]
    · rw [observe_systemAddress, callRegistry_systemAddress]
    · rw [RegistryChain.storage, observe_site]
      exact congrArg (· % 2 ^ 160) (held role)
  | other effect =>
    cases stepped
    refine ⟨observe_number _, observe_systemAddress _, fun role => ?_⟩
    rw [RegistryChain.storage, observe_site]
    exact congrArg (address · role.currentSlot) (effect.storage chain.state)

end Steps

/-! ### Every chain -/

/-- A chain before there is a registry. -/
structure RegistryChain.Initial (chain : RegistryChain) : Prop where
  bound : chain.number < 2 ^ 64
  vacant : Vacant chain.site
  unobserved : chain.observed = []

/-- What holds is kept along every chain. -/
theorem ChainSound.run {config : ChainConfig} {start final : RegistryChain}
    {events : List RegistryStep} (initial : start.Initial)
    (ran : Library.run (RegistryChain.step config) start events = some final) :
    ChainSound config final (final.number + 1) :=
  run_invariant (fun _ _ _ sound stepped => ChainSound.step sound stepped)
    (.before initial.bound initial.vacant initial.unobserved) ran

/-- In every chain, the getters of the registry answer for each block, asked at any later point,
with the holders that were current all through that block; the system address a block was given is
the current one; and no transaction within a block changes the holders. -/
theorem registry_truthful (config : ChainConfig) (start : RegistryChain)
    (initial : start.Initial) (events : List RegistryStep) (final : RegistryChain)
    (ran : Library.run (RegistryChain.step config) start events = some final) :
    (∀ seen ∈ final.observed, seen.given = seen.systemAddress ∧
      ∀ sender,
        systemAddressAt final.storage (final.message config sender) seen.block =
          .ok seen.systemAddress ∧
        sequencerAt final.storage (final.message config sender) seen.block =
          .ok seen.sequencer) ∧
    (final.site.version.isSome = true →
      final.systemAddress = currentSystemAddress final.storage ∧
      ∀ block, final.storage initialFromBlockSlot ≤ block → block ≤ final.number →
        ∃ seen ∈ final.observed, seen.block = block) ∧
    ∀ event next, event.isTransaction = true → final.step config event = some next →
      next.systemAddress = final.systemAddress ∧
      currentSystemAddress next.storage = currentSystemAddress final.storage ∧
      currentSequencer next.storage = currentSequencer final.storage := by
  have sound := ChainSound.run initial ran
  have within : ∀ event next, event.isTransaction = true → final.step config event = some next →
      next.systemAddress = final.systemAddress ∧
      currentSystemAddress next.storage = currentSystemAddress final.storage ∧
      currentSequencer next.storage = currentSequencer final.storage := by
    intro event next transaction stepped
    obtain ⟨-, given, held⟩ := sound.step_transaction transaction stepped
    exact ⟨given, held .systemAddress, held .sequencer⟩
  rcases sound with ⟨-, vacant, unobserved⟩ | ⟨-, version, info, installed, -, given, truthful⟩
  · refine ⟨?_, fun present => ?_, within⟩
    · rw [unobserved]
      exact fun _ member => nomatch member
    · rw [vacant.version_eq] at present
      cases present
  · refine ⟨fun seen member => ⟨truthful.given seen member, fun sender => ?_⟩,
      fun _ => ⟨given, fun block covered past =>
        truthful.complete block covered (Nat.lt_succ_of_le past)⟩, within⟩
    obtain ⟨covered, past⟩ := truthful.covered seen member
    refine ⟨?_, ?_⟩
    · rw [systemAddressAt, roleAt_eq _ _ _ covered past, truthful.systemAddress seen member]
    · rw [sequencerAt, roleAt_eq _ _ _ covered past, truthful.sequencer seen member]

/-! ### One block -/

theorem currentSystemAddress_writeDelay (storage : RegistryStorage) (delay : U256) :
    currentSystemAddress (storage.write minRotationDelaySlot delay) =
      currentSystemAddress storage :=
  congrArg (· % 2 ^ 160) (storage.write_other delay (by decide))

/-- A registry is never left without a system address. -/
theorem RegistryAfter.currentSystemAddress_ne {hardforks : MegaHardforks}
    {config : SequencerRegistryConfig} {block : BlockEnv} {before after : Site}
    (changed : RegistryAfter hardforks config block before after) (prior : Prior before) :
    currentSystemAddress after.storage ≠ 0 := by
  have delayed : ∀ storage : RegistryStorage, currentSystemAddress storage ≠ 0 →
      after.storage = storage ∨
        after.storage = storage.write minRotationDelaySlot hardforks.rotationDelay →
      currentSystemAddress after.storage ≠ 0 := by
    rintro storage held (same | written)
    · rw [same]
      exact held
    · rw [written, currentSystemAddress_writeDelay]
      exact held
  rcases prior with vacant | ⟨version, info, number, installed, bound⟩
  · refine delayed _ ?_ (changed.vacant vacant)
    exact (by decide : megaSystemAddress % 2 ^ 160 ≠ 0)
  · exact delayed _ (installed.sound.advance_current_ne bound _) (changed.installed installed bound)

/-- On every chain, the changes before a block leave the registry with the code the block's
specification asks for, with a system address, and with the storage it is to have. Always making the
call would leave the same, except on a block before Rex6 that has no registry yet. -/
theorem preExecutionChanges_transition (config : ChainConfig) (start : RegistryChain)
    (initial : start.Initial) (events : List RegistryStep) (prior : RegistryChain)
    (ran : Library.run (RegistryChain.step config) start events = some prior)
    (calls : SystemCalls) (lawful : calls.Lawful) (block : BlockEnv)
    (rex5 : config.hardforks.isRex5ActiveAtTimestamp block.blockTimestamp = true)
    (outcomes : List EvmState)
    (through : preExecutionChanges config.hardforks config.artifacts calls prior.state block =
      .ok outcomes) :
    let after := (prior.state.commitAll outcomes).site sequencerRegistryAddress
    (∃ registryConfig, config.hardforks.sequencerRegistryConfig = some registryConfig ∧
      RegistryAfter config.hardforks registryConfig block prior.site after) ∧
    (∃ info, after.info = some info ∧
      info.codeHash =
        if (config.hardforks.specId block.blockTimestamp).isEnabled .rex6 then
          sequencerRegistryCodeHashRex6
        else sequencerRegistryCodeHash) ∧
    currentSystemAddress after.storage ≠ 0 ∧
    (block.rex6 config.hardforks = true ∨ prior.site.version.isSome = true → ∀ always,
      preExecutionChangesWith config.hardforks config.artifacts calls prior.state block
        (fun _ => true) = .ok always →
      ((prior.state.commitAll always).site sequencerRegistryAddress).storage = after.storage ∧
      ((prior.state.commitAll always).site sequencerRegistryAddress).info.map AccountInfo.plain =
        after.info.map AccountInfo.plain) := by
  have sound := (ChainSound.run initial ran).prior
  obtain ⟨registryConfig, configured, changed⟩ := preExecutionChangesWith_after lawful rex5 sound
    rfl (fun _ _ => rfl) through
  obtain ⟨info, present, codeHash⟩ := changed.codeHash
  refine ⟨⟨registryConfig, configured, changed⟩, ⟨info, present, ?_⟩,
    changed.currentSystemAddress_ne sound, fun deployed always made => ?_⟩
  · rw [codeHash, config.hardforks.specId_eq rex5, BlockEnv.version, BlockEnv.rex6]
    split <;> rfl
  · have safe : Vacant prior.site → block.rex6 config.hardforks = false → true = false := by
      intro vacant early
      rcases deployed with active | present
      · exact active.symm.trans early
      · rw [vacant.version_eq] at present
        cases present
    obtain ⟨otherConfig, otherConfigured, other⟩ := @preExecutionChangesWith_after _ _ _ _ _
      always (fun _ => true) lawful rex5 sound rfl safe made
    obtain rfl : registryConfig = otherConfig :=
      Option.some.inj (configured.symm.trans otherConfigured)
    exact ⟨Except.ok.inj (other.storage.symm.trans changed.storage),
      other.info.trans changed.info.symm⟩

/-! ### An engine that runs the contract -/

/-- The slots that applying a role writes. -/
def writtenSlots (role : Role) (storage : RegistryStorage) : List U256 :=
  [role.currentSlot, role.historySlot, role.elementSlot (storage role.historySlot),
    role.pendingSlot, role.activationSlot]

theorem advanceRole_unwritten {role : Role} {storage : RegistryStorage} {slot : U256}
    (blockNumber : U256) (unwritten : slot ∉ writtenSlots role storage) :
    advanceRole role storage blockNumber slot = storage slot := by
  simp only [writtenSlots, List.mem_cons, List.not_mem_nil, or_false, not_or] at unwritten
  obtain ⟨notCurrent, notHistory, notElement, notPending, notActivation⟩ := unwritten
  rw [advanceRole]
  split
  · rw [settleRole_below notActivation notPending notElement,
      write_other _ _ notHistory, writeAddress_other _ _ notCurrent]
  · rfl

/-- If applying both roles succeeds, it writes their slots only. -/
theorem applyPendingChanges_unwritten {storage after : RegistryStorage} {blockNumber slot : U256}
    (applied : applyPendingChanges storage blockNumber = .ok after)
    (unwritten : slot ∉ writtenSlots .systemAddress storage ++
      writtenSlots .sequencer (advanceRole .systemAddress storage blockNumber)) :
    after slot = storage slot := by
  rw [List.mem_append, not_or] at unwritten
  obtain ⟨first, firstApplied, applied⟩ := bind_eq_ok applied
  rw [applyRole_def] at firstApplied applied
  obtain ⟨-, firstApplied⟩ := check_eq_ok firstApplied
  obtain ⟨-, applied⟩ := check_eq_ok applied
  cases firstApplied
  cases applied
  rw [advanceRole_unwritten _ unwritten.2, advanceRole_unwritten _ unwritten.1]

/-- An account after a call that wrote these slots. -/
def calledAccount (site : Site) (after : RegistryStorage) (slots : List U256) : Account where
  info := site.info.getD .default
  status := { AccountStatus.loaded with touched := true }
  storage := (slots.map fun key =>
    (⟨key, .newChanged (site.storage key) (after key)⟩ :
      Sigma fun _ : U256 => EvmStorageSlot)).toAList

theorem runsContract_calledAccount {site : Site} {after : RegistryStorage} {slots : List U256}
    (unwritten : ∀ key ∉ slots, after key = site.storage key) :
    RunsContract site after (calledAccount site after slots) := by
  have lookup : ∀ key, (calledAccount site after slots).storage.lookup key =
      if key ∈ slots then some (.newChanged (site.storage key) (after key)) else none := by
    intro key
    rw [calledAccount, AList.lookup_to_alist]
    clear unwritten
    induction slots with
    | nil => rfl
    | cons first rest inductionHypothesis =>
      by_cases same : key = first
      · subst same
        simp
      · rw [List.map_cons, List.dlookup_cons_ne _ _ same, inductionHypothesis]
        simp [same]
  refine ⟨rfl, rfl, rfl, rfl, fun key slot found => ?_, fun key missing => unwritten key ?_⟩
  · rw [lookup] at found
    split at found
    · cases found
      exact ⟨rfl, rfl⟩
    · cases found
  · intro member
    rw [lookup, if_pos member] at missing
    cases missing

/-- The system calls of an engine that runs the contract and has no history contracts. -/
def contractCalls : SystemCalls where
  blockhashes _ _ := .ok none
  beaconRoot _ _ := .ok none
  applyPendingChanges state block :=
    let site := state.site sequencerRegistryAddress
    let slots := writtenSlots .systemAddress site.storage ++
      writtenSlots .sequencer (advanceRole .systemAddress site.storage block.number)
    let after :=
      if site.version.isSome then (applyPendingChanges site.storage block.number).toOption
      else some site.storage
    after.map fun after =>
      (true, AList.singleton sequencerRegistryAddress (calledAccount site after slots))

theorem lawful_contractCalls : contractCalls.Lawful where
  blockhashes _ _ _ _ made := by cases made
  beaconRoot _ _ _ _ made := by cases made
  registry state block outcome after made leaves := by
    obtain ⟨ran, runs, is⟩ := Option.map_eq_some_iff.mp made
    cases is
    have ran_eq : ran = after ∧ ∀ key ∉ writtenSlots .systemAddress
        (state.site sequencerRegistryAddress).storage ++ writtenSlots .sequencer
          (advanceRole .systemAddress (state.site sequencerRegistryAddress).storage block.number),
        after key = (state.site sequencerRegistryAddress).storage key := by
      rcases leaves with ⟨info, version, present, codeHash, applied⟩ | ⟨codeless, rfl⟩
      · rw [Site.version_eq_some present codeHash, applied] at runs
        cases runs
        exact ⟨rfl, fun key => applyPendingChanges_unwritten applied⟩
      · rw [Site.version_eq_none codeless] at runs
        cases runs
        exact ⟨rfl, fun _ _ => rfl⟩
    obtain ⟨rfl, unwritten⟩ := ran_eq
    exact ⟨_, AList.lookup_insert ∅, runsContract_calledAccount unwritten⟩

/-! ### A chain -/

/-- A chain on which every hardfork but the last is active, and the last one if it is asked for. -/
def exampleConfig (rex6 : Bool) : ChainConfig where
  hardforks :=
    { activation := fun fork => if fork = .rex6 ∧ rex6 = false then none else some 0
      sequencerRegistryConfig := some
        { rex5InitialSequencer := 11, rex5InitialAdmin := 12, sequencer_ne := by decide,
          admin_ne := by decide, sequencer_lt := by decide, admin_lt := by decide }
      sequencerRegistryRex6Config := some
        { rex6MinRotationDelay := 5, delay_ne := by decide, delay_lt := by decide } }
  artifacts := fun _ => []
  crypto := { keccak256 := fun _ => 0, ecrecover := fun _ _ _ _ => 0 }
  chainId := 1

/-- A chain at block nine, with nothing in its database. -/
def emptyChainAtNine : RegistryChain where
  state := emptyDatabase
  number := 9
  timestamp := 0
  systemAddress := 0
  observed := []

theorem initial_emptyChainAtNine : emptyChainAtNine.Initial :=
  ⟨by decide, ⟨rfl, rfl⟩, rfl⟩

/-- Block ten installs the registry, and its admin schedules a system address for block eleven. -/
def installAndSchedule : List RegistryStep :=
  [.nextBlock contractCalls lawful_contractCalls 1,
    .call 12 (.scheduleNextSystemAddressChange 77 11)]

/-- The change takes effect at block eleven, and block ten keeps its system address. -/
theorem registry_truthful_rotation :
    ∃ final,
      Library.run (RegistryChain.step (exampleConfig true)) emptyChainAtNine
        (installAndSchedule ++ [.nextBlock contractCalls lawful_contractCalls 2]) = some final ∧
      final.observed.map (fun seen => (seen.block, seen.systemAddress)) =
        [(11, 77), (10, megaSystemAddress), (10, megaSystemAddress)] ∧
      ∀ seen ∈ final.observed, seen.given = seen.systemAddress ∧
        ∀ sender,
          systemAddressAt final.storage (final.message (exampleConfig true) sender) seen.block =
            .ok seen.systemAddress ∧
          sequencerAt final.storage (final.message (exampleConfig true) sender) seen.block =
            .ok seen.sequencer := by
  obtain ⟨final, ran, observed⟩ := Option.map_eq_some_iff.mp
    (by decide : (run (step (exampleConfig true)) emptyChainAtNine
      (installAndSchedule ++ [.nextBlock contractCalls lawful_contractCalls 2])).map
        (fun final => final.observed.map fun seen => (seen.block, seen.systemAddress)) =
      some [(11, 77), (10, megaSystemAddress), (10, megaSystemAddress)])
  exact ⟨final, ran, observed, (registry_truthful (exampleConfig true) emptyChainAtNine
    initial_emptyChainAtNine _ final ran).1⟩

def blockTen : BlockEnv :=
  { number := 10, timestamp := 1, number_lt := by decide }

def blockEleven : BlockEnv :=
  { number := 11, timestamp := 2, number_lt := by decide }

/-- Before Rex6, making the call on the block that installs the registry removes it again: the call
runs on the empty account that was there before, and commits it after the deploy. -/
theorem fresh_registry_lost_by_call :
    (preExecutionChanges (exampleConfig false).hardforks (exampleConfig false).artifacts
        contractCalls emptyChainAtNine.state blockTen).toOption.map (fun outcomes =>
      ((emptyChainAtNine.state.commitAll outcomes).site sequencerRegistryAddress).info.map
        (·.codeHash)) = some (some sequencerRegistryCodeHash) ∧
    (preExecutionChangesWith (exampleConfig false).hardforks (exampleConfig false).artifacts
        contractCalls emptyChainAtNine.state blockTen (fun _ => true)).toOption.map
      (fun outcomes =>
        ((emptyChainAtNine.state.commitAll outcomes).site sequencerRegistryAddress).info) =
      some none := by
  decide

/-- With a change due at block eleven, the pre-block changes apply it. -/
theorem preExecutionChanges_transition_due :
    ∃ prior outcomes,
      Library.run (RegistryChain.step (exampleConfig true)) emptyChainAtNine installAndSchedule =
        some prior ∧
      preExecutionChanges (exampleConfig true).hardforks (exampleConfig true).artifacts
        contractCalls prior.state blockEleven = .ok outcomes ∧
      currentSystemAddress ((prior.state.commitAll outcomes).site
        sequencerRegistryAddress).storage = 77 ∧
      currentSystemAddress ((prior.state.commitAll outcomes).site
        sequencerRegistryAddress).storage ≠ 0 := by
  obtain ⟨prior, ran, observed⟩ := Option.map_eq_some_iff.mp
    (by decide : (run (step (exampleConfig true)) emptyChainAtNine
      installAndSchedule).map (fun prior =>
        (preExecutionChanges (exampleConfig true).hardforks (exampleConfig true).artifacts
          contractCalls prior.state blockEleven).toOption.map fun outcomes =>
            currentSystemAddress ((prior.state.commitAll outcomes).site
              sequencerRegistryAddress).storage) = some (some 77))
  obtain ⟨outcomes, through, current⟩ := exists_of_toOption observed
  exact ⟨prior, outcomes, ran, through, current,
    (preExecutionChanges_transition (exampleConfig true) emptyChainAtNine initial_emptyChainAtNine
      installAndSchedule prior ran contractCalls lawful_contractCalls _ rfl outcomes
      through).2.2.1⟩

end MegaEvm
