/-
This file models the calculator of the storage gas that grows with the SALT buckets. It asks the
SALT environment for the capacity of a bucket once in a block and keeps the multiplier. The
environment may fail, change its answers, or answer less than the smallest capacity, which panics.

However it answers, the calculator charges what the formula gives for the first answer since the
block began, and the buckets that it reports are those that it has an answer for.
-/

import MegaEvm.Library.Runs
import MegaEvm.Limit.AdditionalLimit

namespace MegaEvm

open Library

/-! ### Prices -/

/-- The smallest capacity of a SALT bucket. -/
def minBucketSize : Nat := 256

/-- The storage gas for a multiplier. From Rex on a bucket of the smallest capacity is free. -/
def storageGasForMultiplier (rexBase miniRexGas : Nat) (spec : MegaSpecId) (multiplier : Nat) :
    Nat :=
  if spec.isEnabled .rex then min (rexBase * (multiplier - 1)) u64Max
  else min (miniRexGas * multiplier) u64Max

def sstoreSetGasForMultiplier : MegaSpecId → Nat → Nat :=
  storageGasForMultiplier 20000 2000000

def newAccountGasForMultiplier : MegaSpecId → Nat → Nat :=
  storageGasForMultiplier 25000 2000000

def createContractGasForMultiplier : MegaSpecId → Nat → Nat :=
  storageGasForMultiplier 32000 2000000

/-- What is created in a bucket. -/
inductive StorageItem
  | slot
  | account
  | contract

def StorageItem.gasForMultiplier : StorageItem → MegaSpecId → Nat → Nat
  | slot => sstoreSetGasForMultiplier
  | account => newAccountGasForMultiplier
  | contract => createContractGasForMultiplier

/-- Why there is no price: the environment fails, or the capacity it gives is too small. -/
inductive PriceError
  | saltEnv
  | panic
deriving DecidableEq

/-- The multiplier for an answer of the environment. -/
def multiplierFor : Option Nat → Except PriceError Nat
  | none => .error .saltEnv
  | some capacity =>
    if capacity < minBucketSize then .error .panic else .ok (capacity / minBucketSize)

/-- The storage gas that the host charges: an exempt transaction pays as for a bucket of the
smallest capacity, and the buckets are not asked. -/
def hostStorageGas (gasForMultiplier : MegaSpecId → Nat → Nat) (spec : MegaSpecId)
    (capacity : Nat → Option Nat) (limit : AdditionalLimit) (bucket : Nat) : Option Nat :=
  if limit.hasExceededLimit.isExempt then some (gasForMultiplier spec 1)
  else (multiplierFor (capacity bucket)).toOption.map (gasForMultiplier spec)

def sstoreSetStorageGas := hostStorageGas sstoreSetGasForMultiplier

def newAccountStorageGas := hostStorageGas newAccountGasForMultiplier

def createContractStorageGas := hostStorageGas createContractGasForMultiplier

theorem hostStorageGas_of_exempt {gasForMultiplier : MegaSpecId → Nat → Nat} {spec : MegaSpecId}
    {capacity : Nat → Option Nat} {limit : AdditionalLimit}
    (exempt : limit.hasExceededLimit = .exempt) (bucket : Nat) :
    hostStorageGas gasForMultiplier spec capacity limit bucket =
      some (gasForMultiplier spec 1) := by
  unfold hostStorageGas
  rw [exempt]
  rfl

/-! ### The calculator -/

structure DynamicGasCost where
  spec : MegaSpecId
  parentBlock : Nat
  bucketCostMultipliers : Nat → Option Nat

/-- A call of the calculator, with what the environment answers if it is asked. -/
inductive GasCostCall
  | onNewBlock (number : Nat)
  | storageGas (item : StorageItem) (bucket : Nat) (answer : Option Nat)

namespace DynamicGasCost

def new (spec : MegaSpecId) (parentBlock : Nat) : DynamicGasCost :=
  { spec, parentBlock, bucketCostMultipliers := fun _ => none }

variable (cost : DynamicGasCost)

def reset (parentBlock : Nat) : DynamicGasCost :=
  { cost with bucketCostMultipliers := fun _ => none, parentBlock }

def onNewBlock (number : Nat) : DynamicGasCost :=
  cost.reset (number - 1)

/-- Whether a bucket is one of those reported, which come in no order. -/
def getBucketIds (bucket : Nat) : Bool :=
  (cost.bucketCostMultipliers bucket).isSome

def loadBucketCostMultiplier (bucket : Nat) (answer : Option Nat) :
    Except PriceError (Nat × DynamicGasCost) :=
  match cost.bucketCostMultipliers bucket with
  | some multiplier => .ok (multiplier, cost)
  | none => do
    let multiplier ← multiplierFor answer
    let kept := Function.update cost.bucketCostMultipliers bucket (some multiplier)
    .ok (multiplier, { cost with bucketCostMultipliers := kept })

/-- The storage gas for an item in a bucket. -/
def storageGas (item : StorageItem) (bucket : Nat) (answer : Option Nat) :
    Except PriceError (Nat × DynamicGasCost) := do
  let (multiplier, loaded) ← cost.loadBucketCostMultiplier bucket answer
  .ok (item.gasForMultiplier loaded.spec multiplier, loaded)

def sstoreSetGas := cost.storageGas .slot

def newAccountGas := cost.storageGas .account

def createContractGas := cost.storageGas .contract

/-- Make a call. A failed one keeps the calculator as it is, and nothing follows a panic. -/
def step : GasCostCall → Option DynamicGasCost
  | .onNewBlock number => some (cost.onNewBlock number)
  | .storageGas item bucket answer =>
    match cost.storageGas item bucket answer with
    | .ok (_, loaded) => some loaded
    | .error .saltEnv => some cost
    | .error .panic => none

/-! ### The first answers -/

/-- The first answers for each bucket since the block began, with those of one more call. -/
def remember (known : Nat → Option Nat) : GasCostCall → Nat → Option Nat
  | .onNewBlock _ => fun _ => none
  | .storageGas _ bucket answer => Function.update known bucket ((known bucket).or answer)

/-- The first answers that the calls got since the last block began. -/
def firstAnswers (calls : List GasCostCall) : Nat → Option Nat :=
  calls.foldl remember fun _ => none

variable {cost} {next : DynamicGasCost} {known : Nat → Option Nat} {spec : MegaSpecId}

/-- The calculator has the multipliers of these answers. -/
structure Caches (spec : MegaSpecId) (cost : DynamicGasCost) (known : Nat → Option Nat) : Prop where
  spec : cost.spec = spec
  cached bucket : cost.bucketCostMultipliers bucket = (known bucket).map (· / minBucketSize)

/-- A call leaves the calculator with the first answers. -/
theorem Caches.step (caches : Caches spec cost known) {call : GasCostCall}
    (stepped : cost.step call = some next) : Caches spec next (remember known call) := by
  cases call with
  | onNewBlock number =>
    cases stepped
    exact ⟨caches.spec, fun _ => rfl⟩
  | storageGas item bucket answer =>
    rw [DynamicGasCost.step, storageGas, loadBucketCostMultiplier, caches.cached] at stepped
    rw [remember]
    cases first : known bucket with
    | some capacity =>
      rw [first] at stepped
      cases stepped
      rwa [Option.some_or, ← first, Function.update_eq_self]
    | none =>
      rw [first] at stepped
      cases answer with
      | none =>
        cases stepped
        rwa [Option.none_or, ← first, Function.update_eq_self]
      | some capacity =>
        by_cases small : capacity < minBucketSize
        · rw [multiplierFor, if_pos small] at stepped
          cases stepped
        · rw [multiplierFor, if_neg small] at stepped
          cases stepped
          refine ⟨caches.spec, fun other => ?_⟩
          by_cases is : other = bucket <;> simp [is, caches.cached]

theorem Caches.run {calls : List GasCostCall} (caches : Caches spec cost known)
    (ran : Library.run DynamicGasCost.step cost calls = some next) :
    Caches spec next (calls.foldl remember known) := by
  induction calls generalizing cost known with
  | nil =>
    cases ran
    exact caches
  | cons call rest inductionHypothesis =>
    obtain ⟨middle, stepped, remaining⟩ := run_cons_some ran
    exact inductionHypothesis (caches.step stepped) remaining

/-- After any calls, whatever the environment answered, the calculator prices an item by the plain
formula from the first answer for its bucket since the block began, or from the next one if there is
none; and it reports exactly the buckets that it has an answer for. -/
theorem storageGas_of_firstAnswer (spec : MegaSpecId) (parentBlock : Nat)
    (calls : List GasCostCall) (cost : DynamicGasCost)
    (ran : run DynamicGasCost.step (new spec parentBlock) calls = some cost) (bucket : Nat) :
    (∀ item answer, (cost.storageGas item bucket answer).map Prod.fst =
      ((firstAnswers calls bucket).elim (multiplierFor answer)
        fun capacity => .ok (capacity / minBucketSize)).map (item.gasForMultiplier spec)) ∧
    cost.getBucketIds bucket = (firstAnswers calls bucket).isSome := by
  have empty : Caches spec (new spec parentBlock) fun _ => none := ⟨rfl, fun _ => rfl⟩
  have caches : Caches spec cost (firstAnswers calls) := empty.run ran
  refine ⟨fun item answer => ?_, ?_⟩
  · rw [storageGas, loadBucketCostMultiplier, caches.cached, ← caches.spec]
    cases firstAnswers calls bucket with
    | some capacity => rfl
    | none =>
      rw [Option.map_none]
      cases multiplierFor answer <;> rfl
  · rw [getBucketIds, caches.cached, Option.isSome_map]

/-- The bucket is priced by its first answer, also when the environment changes its mind. -/
theorem storageGas_of_firstAnswer_changed :
    ∃ cost, run DynamicGasCost.step (new .rex 0)
        [.storageGas .slot 3 none, .storageGas .slot 3 (some 512)] = some cost ∧
      (cost.storageGas .slot 3 (some 2048)).map Prod.fst = .ok 20000 :=
  ⟨_, rfl, (storageGas_of_firstAnswer .rex 0
    [.storageGas .slot 3 none, .storageGas .slot 3 (some 512)] _ rfl 3).1 .slot (some 2048)⟩

end DynamicGasCost

end MegaEvm
