/-
This file models the gas that validation asks of a transaction before it runs: what the
engine asks, the storage gas of the calldata, a base, and the storage gas of every
account that the transaction creates before its first frame. The storage gas of an account
grows with its SALT bucket and saturates, but the terms are added up in `u64`s, and an
addition that does not fit wraps.

From Rex5 on the sum is held against the gas limit at the end of validation, so that a
transaction that was accepted never runs out of gas before its first frame. It has the gas
for what it owes only if what it owes fits a `u64`. A saturated term takes the sum past
that bound, and what is left of it after wrapping may be accepted.
-/

import MegaEvm.Evm.Authorizations
import MegaEvm.Evm.SystemTransaction
import MegaEvm.Library.Fallible

namespace MegaEvm

open Library

/-! ### Amounts of gas -/

/-- The storage gas for a multiplier, if it did not saturate. -/
def exactGasForMultiplier (rexBase miniRexGas : Nat) (spec : MegaSpecId) (multiplier : Nat) : Nat :=
  if spec.isEnabled .rex then rexBase * (multiplier - 1) else miniRexGas * multiplier

theorem storageGasForMultiplier_eq_min (rexBase miniRexGas : Nat) (spec : MegaSpecId)
    (multiplier : Nat) :
    storageGasForMultiplier rexBase miniRexGas spec multiplier =
      min (exactGasForMultiplier rexBase miniRexGas spec multiplier) u64Max := by
  unfold storageGasForMultiplier exactGasForMultiplier
  split <;> rfl

/-! ### Validation -/

/-- What validation reads of a transaction. -/
structure ValidatedTx where
  kind : TxKind
  caller : Address
  value : U256
  nonce : Nat
  input : List Nat
  gasLimit : Nat
  isEip7702 : Bool
  authorizations : List Authorization
  isDepositLike : Bool
  gasLimit_le : gasLimit ≤ u64Max

/-- The SALT environment: the bucket of an account, and the capacity of a bucket, which is a `u64`
and never below the smallest one. -/
structure SaltEnv where
  bucketIdForAccount : Address → Nat
  capacity : Nat → Option Nat
  capacity_bounds : ∀ bucket size, capacity bucket = some size →
    minBucketSize ≤ size ∧ size ≤ u64Max

inductive ValidationError
  | callGasCostMoreThanGasLimit (gasLimit initialGas : Nat)
  | gasFloorMoreThanGasLimit (gasLimit gasFloor : Nat)
  | custom (text : String) (address : Option Address)
  | database
deriving DecidableEq

/-- An account or a contract that comes into existence before the first frame. -/
inductive Creation
  | account (address : Address)
  | contract (address : Address)

def Creation.address : Creation → Address
  | account address => address
  | contract address => address

structure ValidationContext where
  spec : MegaSpecId
  salt : SaltEnv
  limit : AdditionalLimit
  chainId : U256
  createAddress : Address → Nat → Address
  insideSandbox : Bool

namespace ValidationContext

variable (context : ValidationContext) (tx : ValidatedTx)

/-- The storage gas of a creation, by what an account and a contract cost for a multiplier. -/
def storageGasBy (accountGas contractGas : MegaSpecId → Nat → Nat) (creation : Creation) :
    Option Nat :=
  let gasForMultiplier := match creation with
    | .account _ => accountGas
    | .contract _ => contractGas
  hostStorageGas gasForMultiplier context.spec context.salt.capacity context.limit
    (context.salt.bucketIdForAccount creation.address)

def storageGas : Creation → Option Nat :=
  context.storageGasBy newAccountGasForMultiplier createContractGasForMultiplier

/-- Charge the storage gas of a creation. -/
def charge (text : String) (gas : InitialAndFloorGas) (creation : Creation) :
    Except ValidationError InitialAndFloorGas :=
  match context.storageGas creation with
  | some storageGas => .ok (gas.addInitial storageGas)
  | none => .error (.custom text creation.address)

/-- The authorities that come into existence when the list is applied. Rex6 finds them out. -/
def materializedAuthorities (journal : Journal) :
    Except ValidationError (Journal × List Address) :=
  if context.spec.isEnabled .rex6 && tx.isEip7702 then
    match AuthorizationScan.scanAll tx.caller context.chainId false
        { journal, simulatedAuthorities := fun _ => none, applied := [] } tx.authorizations with
    | some scan => .ok (scan.journal, materialized scan.applied)
    | none => .error .database
  else .ok (journal, [])

/-- What the transaction itself creates: the contract of a create, or the recipient of a value. -/
def calleeCreation (journal : Journal) (authorities : List Address) :
    Except ValidationError (Journal × Option Creation) :=
  match tx.kind with
  | .create => do
    let (journal, nonce) ←
      if context.spec.isEnabled .rex5 then
        match journal.inspectAccount tx.caller false with
        | (journal, some account) => .ok (journal, account.info.nonce)
        | (_, none) =>
          .error (.custom "Failed to inspect caller account for CREATE storage gas: " none)
      else .ok (journal, tx.nonce)
    let created := context.createAddress tx.caller nonce
    return (journal,
      some (if context.spec.isEnabled .rex then .contract created else .account created))
  | .call address =>
    if tx.value = 0 then .ok (journal, none)
    else
      match journal.inspectAccount address false with
      | (journal, some account) =>
        .ok (journal,
          if account.isEmpty && !authorities.contains address then some (.account address)
          else none)
      | (_, none) => .error .database

/-- The caller of a deposit, if it is empty and was not charged for as the callee already. -/
def depositCallerCreation (journal : Journal) : Except ValidationError (Option Creation) :=
  if context.spec.isEnabled .rex5 && !context.insideSandbox && tx.isDepositLike then
    match journal.inspectAccount tx.caller false with
    | (_, some account) =>
      let alreadyChargedAsCallee := tx.kind == .call tx.caller && tx.value != 0
      .ok (if account.isEmpty && !alreadyChargedAsCallee then some (.account tx.caller) else none)
    | (_, none) => .error .database
  else .ok none

def checkInitialGas (gas : InitialAndFloorGas) : Except ValidationError Unit :=
  if tx.gasLimit < gas.initialGas then
    .error (.callGasCostMoreThanGasLimit tx.gasLimit gas.initialGas)
  else .ok ()

def checkFloorGas (gas : InitialAndFloorGas) : Except ValidationError Unit :=
  if tx.gasLimit < gas.floorGas then
    .error (.gasFloorMoreThanGasLimit tx.gasLimit gas.floorGas)
  else .ok ()

/-- Validation, from what the engine asks of the transaction. -/
def validate (journal : Journal) (initialTxGas : InitialAndFloorGas) :
    Except ValidationError InitialAndFloorGas := do
  let (journal, authorities) ← context.materializedAuthorities tx journal
  if !context.spec.isEnabled .miniRex then return initialTxGas
  let gas := initialTxGas.addCalldata context.spec tx.input
  if !context.spec.isEnabled .rex5 then checkInitialGas tx gas
  let (journal, callee) ← context.calleeCreation tx journal authorities
  let gas ← callee.toList.foldlM
    (context.charge "Failed to get storage gas for callee address: ") gas
  let gas ← (authorities.map Creation.account).foldlM
    (context.charge "Failed to get storage gas for EIP-7702 authority: ") gas
  let caller ← context.depositCallerCreation tx journal
  let gas ← caller.toList.foldlM
    (context.charge "Failed to get storage gas for deposit caller: ") gas
  if context.spec.isEnabled .rex5 then
    checkInitialGas tx gas
    checkFloorGas tx gas
  return gas

end ValidationContext

/-- A transaction whose initial gas is above its limit ends out of gas before its first frame. -/
def beforeExecution (tx : ValidatedTx) (gas : InitialAndFloorGas) : Option FrameResult :=
  if tx.gasLimit < gas.initialGas then
    some (Execution.oogFrameResult (tx.kind == .create) (.new tx.gasLimit))
  else none

namespace ValidationContext

variable (context : ValidationContext) (tx : ValidatedTx)

/-! ### What a transaction owes -/

/-- The storage gas of a creation, if it did not saturate. -/
def exactStorageGas : Creation → Option Nat :=
  context.storageGasBy (exactGasForMultiplier 25000 2000000) (exactGasForMultiplier 32000 2000000)

/-- The exact initial gas from Rex on, as a number without bounds. -/
def exactInitialGas (journal : Journal) (initialTxGas : InitialAndFloorGas) : Option Nat := do
  let (journal, authorities) ← (context.materializedAuthorities tx journal).toOption
  let (journal, callee) ← (context.calleeCreation tx journal authorities).toOption
  let caller ← (context.depositCallerCreation tx journal).toOption
  let storageGas ← (callee.toList ++ authorities.map Creation.account ++ caller.toList).mapM
    context.exactStorageGas
  return initialTxGas.initialGas + calldataStandardTokenStorageGas * tokensInCalldata tx.input +
    txIntrinsicStorageGas + storageGas.sum

end ValidationContext

def exactFloorGas (tx : ValidatedTx) (initialTxGas : InitialAndFloorGas) : Nat :=
  initialTxGas.floorGas + calldataStandardTokenStorageFloorGas * tokensInCalldata tx.input

namespace ValidationContext

variable {context : ValidationContext} {tx : ValidatedTx} {journal : Journal}
  {gas charged : InitialAndFloorGas}

/-- The host saturates the storage gas. -/
theorem storageGas_eq_min (creation : Creation) :
    context.storageGas creation = (context.exactStorageGas creation).map (min · u64Max) := by
  cases creation with
  | account | contract =>
    simp only [storageGas, exactStorageGas, storageGasBy, hostStorageGas, apply_ite (Option.map _),
      Option.map_map, Option.map_some]
    congr 2
    · exact storageGasForMultiplier_eq_min ..
    · exact funext fun _ => storageGasForMultiplier_eq_min ..

/-- A sum of `u64`s is exact where the exact sum fits. -/
theorem addInitial_exact {exact amount added : Nat}
    (before : exact ≤ u64Max → gas.initialGas = exact) (term : amount ≤ u64Max → added = amount)
    (fits : exact + amount ≤ u64Max) : (gas.addInitial added).initialGas = exact + amount := by
  rw [InitialAndFloorGas.addInitial, before (Nat.le_trans (Nat.le_add_right ..) fits),
    term (Nat.le_trans (Nat.le_add_left ..) fits)]
  exact u64Wrap_of_le fits

/-- Creations that are charged for have exact prices, and their sum is what is added if it fits. -/
theorem foldlM_charge {text : String} {creations : List Creation}
    (through : creations.foldlM (context.charge text) gas = .ok charged) :
    charged.floorGas = gas.floorGas ∧ ∃ prices,
      creations.mapM context.exactStorageGas = some prices ∧
      ∀ exact, (exact ≤ u64Max → gas.initialGas = exact) →
        exact + prices.sum ≤ u64Max → charged.initialGas = exact + prices.sum := by
  induction creations generalizing gas with
  | nil =>
    cases through
    exact ⟨rfl, [], rfl, fun exact before fits => before fits⟩
  | cons creation rest inductionHypothesis =>
    rw [List.foldlM_cons] at through
    obtain ⟨next, first, through⟩ := bind_eq_ok through
    obtain ⟨floor, prices, priced, added⟩ := inductionHypothesis through
    unfold charge at first
    rw [storageGas_eq_min] at first
    cases price : context.exactStorageGas creation with
    | none =>
      rw [price] at first
      cases first
    | some amount =>
      rw [price] at first
      cases first
      refine ⟨floor, amount :: prices, ?_, fun exact before fits => ?_⟩
      · rw [List.mapM_cons, price, priced]
        rfl
      · rw [List.sum_cons, ← Nat.add_assoc] at fits ⊢
        exact added _ (addInitial_exact before fun small => Nat.min_eq_left small) fits

/-- The gas of the calldata is exact where it fits. -/
theorem addCalldata_exact (rex : context.spec.isEnabled .rex = true)
    (initialTxGas : InitialAndFloorGas) :
    (initialTxGas.initialGas + calldataStandardTokenStorageGas * tokensInCalldata tx.input +
        txIntrinsicStorageGas ≤ u64Max →
      (initialTxGas.addCalldata context.spec tx.input).initialGas = initialTxGas.initialGas +
        calldataStandardTokenStorageGas * tokensInCalldata tx.input + txIntrinsicStorageGas) ∧
    (exactFloorGas tx initialTxGas ≤ u64Max →
      (initialTxGas.addCalldata context.spec tx.input).floorGas =
        exactFloorGas tx initialTxGas) := by
  have perToken : ∀ rate, rate ≠ 0 → rate * tokensInCalldata tx.input ≤ u64Max →
      u64Wrap (rate * u64Wrap (tokensInCalldata tx.input)) = rate * tokensInCalldata tx.input := by
    intro rate positive fits
    have tokens : tokensInCalldata tx.input ≤ u64Max :=
      Nat.le_trans (Nat.le_mul_of_pos_left _ (Nat.pos_of_ne_zero positive)) fits
    rw [u64Wrap_of_le tokens, u64Wrap_of_le fits]
  unfold InitialAndFloorGas.addCalldata
  rw [if_pos rex]
  constructor
  · exact addInitial_exact (addInitial_exact (fun _ => rfl) (perToken 40 (by decide))) fun _ => rfl
  · intro fits
    have term := perToken 100 (by decide) (Nat.le_trans (Nat.le_add_left ..) fits)
    show u64Wrap (initialTxGas.floorGas + _) = _
    rw [calldataStandardTokenStorageFloorGas, term]
    exact u64Wrap_of_le fits

/-- Prices of lists in sequence. -/
theorem mapM_append_some {first second : List Creation} {prices others : List Nat}
    (priced : first.mapM context.exactStorageGas = some prices)
    (otherPriced : second.mapM context.exactStorageGas = some others) :
    (first ++ second).mapM context.exactStorageGas = some (prices ++ others) := by
  rw [List.mapM_append, priced, otherPriced]
  rfl

/-- From Rex5 on, what an accepted transaction owes is known, the gas that was accepted is within
its limit, and it is what the transaction owes if that fits a `u64`. -/
theorem validate_eq_ok {initialTxGas : InitialAndFloorGas}
    (rex5 : context.spec.isEnabled .rex5 = true)
    (accepted : context.validate tx journal initialTxGas = .ok gas) :
    gas.initialGas ≤ tx.gasLimit ∧ gas.floorGas ≤ tx.gasLimit ∧
      (exactFloorGas tx initialTxGas ≤ u64Max → gas.floorGas = exactFloorGas tx initialTxGas) ∧
      ∃ exact, context.exactInitialGas tx journal initialTxGas = some exact ∧
        (exact ≤ u64Max → gas.initialGas = exact) := by
  have miniRex : context.spec.isEnabled .miniRex = true :=
    MegaSpecId.isEnabled_mono (by decide) rex5
  have rex : context.spec.isEnabled .rex = true := MegaSpecId.isEnabled_mono (by decide) rex5
  unfold validate at accepted
  obtain ⟨⟨scanned, authorities⟩, scans, accepted⟩ := bind_eq_ok accepted
  simp only [miniRex, rex5, Bool.not_true, Bool.false_eq_true, if_false, if_true] at accepted
  obtain ⟨⟨read, callee⟩, calls, accepted⟩ := bind_eq_ok accepted
  obtain ⟨calleeGas, calleeCharged, accepted⟩ := bind_eq_ok accepted
  obtain ⟨authorityGas, authoritiesCharged, accepted⟩ := bind_eq_ok accepted
  obtain ⟨caller, deposits, accepted⟩ := bind_eq_ok accepted
  obtain ⟨total, callerCharged, accepted⟩ := bind_eq_ok accepted
  obtain ⟨_, withinLimit, accepted⟩ := bind_eq_ok accepted
  obtain ⟨_, floorWithin, accepted⟩ := bind_eq_ok accepted
  cases accepted
  obtain ⟨calleeFloor, calleePrices, calleePriced, calleeAdded⟩ := foldlM_charge calleeCharged
  obtain ⟨authorityFloor, authorityPrices, authoritiesPriced, authoritiesAdded⟩ :=
    foldlM_charge authoritiesCharged
  obtain ⟨callerFloor, callerPrices, callerPriced, callerAdded⟩ := foldlM_charge callerCharged
  obtain ⟨calldata, calldataFloor⟩ := @addCalldata_exact context tx rex initialTxGas
  refine ⟨Nat.le_of_not_lt (check_eq_ok withinLimit).1,
    Nat.le_of_not_lt (check_eq_ok floorWithin).1, fun fits => ?_, ?_⟩
  · rw [callerFloor, authorityFloor, calleeFloor]
    exact calldataFloor fits
  · have priced := mapM_append_some (mapM_append_some calleePriced authoritiesPriced) callerPriced
    refine ⟨_, ?_, callerAdded _ (authoritiesAdded _ (calleeAdded _ calldata))⟩
    simp only [exactInitialGas, scans, calls, deposits, Except.toOption, Option.bind_eq_bind,
      Option.bind_some, priced, List.sum_append, Nat.add_assoc]
    rfl

/-- From Rex5 on a transaction that validation accepts is not out of gas before its first frame, and
has the gas for everything it owes if and only if what it owes fits a `u64`. -/
theorem validate_covers_iff {initialTxGas : InitialAndFloorGas}
    (rex5 : context.spec.isEnabled .rex5 = true)
    (accepted : context.validate tx journal initialTxGas = .ok gas) :
    beforeExecution tx gas = none ∧ gas.initialGas ≤ tx.gasLimit ∧
      ∃ exact, context.exactInitialGas tx journal initialTxGas = some exact ∧
        (exact ≤ tx.gasLimit ∧ exactFloorGas tx initialTxGas ≤ tx.gasLimit ↔
          exact ≤ u64Max ∧ exactFloorGas tx initialTxGas ≤ u64Max) := by
  obtain ⟨withinLimit, floorWithin, floorExact, exact, owed, initialExact⟩ :=
    validate_eq_ok rex5 accepted
  refine ⟨if_neg (Nat.not_lt.mpr withinLimit), withinLimit, exact, owed, ?_, ?_⟩
  · rintro ⟨covered, floorCovered⟩
    exact ⟨Nat.le_trans covered tx.gasLimit_le, Nat.le_trans floorCovered tx.gasLimit_le⟩
  · rintro ⟨fits, floorFits⟩
    exact ⟨initialExact fits ▸ withinLimit, floorExact floorFits ▸ floorWithin⟩

end ValidationContext

/-! ### A full bucket -/

/-- A context in which all buckets have the same capacity. -/
def evenContext (size : Nat) (bounds : minBucketSize ≤ size ∧ size ≤ u64Max) :
    ValidationContext where
  spec := .rex5
  salt :=
    { bucketIdForAccount := fun address => address
      capacity := fun _ => some size
      capacity_bounds := by
        rintro _ _ ⟨⟩
        exact bounds }
  limit := .new .rex5 Execution.roomyLimits
  chainId := 1
  createAddress caller nonce := caller + nonce
  insideSandbox := false

/-- A transaction that pays an account that does not exist. -/
def payingTx : ValidatedTx where
  kind := .call 9
  caller := 1
  value := 5
  nonce := 0
  input := []
  gasLimit := 100000
  isEip7702 := false
  authorizations := []
  isDepositLike := false
  gasLimit_le := by decide

/-- In a bucket of the greatest capacity the new account costs more than any transaction has, and
the wrapped sum is accepted. -/
theorem validate_accepts_uncovered :
    ∃ (context : ValidationContext) (tx : ValidatedTx) (journal : Journal)
      (initialTxGas gas : InitialAndFloorGas) (exact : Nat),
      context.spec.isEnabled .rex5 = true ∧
      context.validate tx journal initialTxGas = .ok gas ∧
      context.exactInitialGas tx journal initialTxGas = some exact ∧ tx.gasLimit < exact :=
  ⟨evenContext u64Max (by decide), payingTx, senderJournal,
    { initialGas := 21000, floorGas := 21000 }, { initialGas := 59999, floorGas := 21000 },
    1801439850948198410000, by decide, by decide +kernel, by decide +kernel, by decide⟩

/-- In buckets of twice the smallest capacity the same payment is covered. -/
theorem validate_covers_payment :
    (evenContext 512 (by decide)).validate payingTx senderJournal
        { initialGas := 21000, floorGas := 21000 } =
      .ok { initialGas := 85000, floorGas := 21000 } ∧
    beforeExecution payingTx { initialGas := 85000, floorGas := 21000 } = none ∧
    85000 ≤ payingTx.gasLimit ∧
    (evenContext 512 (by decide)).exactInitialGas payingTx senderJournal
        { initialGas := 21000, floorGas := 21000 } = some 85000 ∧
    85000 ≤ payingTx.gasLimit ∧
    exactFloorGas payingTx { initialGas := 21000, floorGas := 21000 } ≤ payingTx.gasLimit := by
  have accepted : (evenContext 512 (by decide)).validate payingTx senderJournal
      { initialGas := 21000, floorGas := 21000 } =
        .ok { initialGas := 85000, floorGas := 21000 } := by decide +kernel
  have owes : (evenContext 512 (by decide)).exactInitialGas payingTx senderJournal
      { initialGas := 21000, floorGas := 21000 } = some 85000 := by decide +kernel
  obtain ⟨runs, within, exact, owed, covers⟩ :=
    ValidationContext.validate_covers_iff (by decide) accepted
  obtain rfl := Option.some.inj (owes.symm.trans owed)
  exact ⟨accepted, runs, within, owes, covers.mpr (by decide)⟩

end MegaEvm
