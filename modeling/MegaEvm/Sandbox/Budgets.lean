/-
This file proves that the budget of a keyless deploy's sandbox nests inside the parent's.
A deploy is dispatched before the first frame of its transaction starts, and no exceed is
latched then, so that the parent's usage is what the transaction itself was charged and
there is room for what the sandbox is allowed. What the sandbox used adds up with the
parent's usage, and the parent keeps its limits if the sandbox kept the ones derived for
it. What the sandbox records before its own first frame is what the preflight tries, so
it keeps the derived limits whenever the preflight passes.
-/

import MegaEvm.Sandbox.GasConservation
import MegaEvm.Sandbox.Transact

namespace MegaEvm

open AdditionalLimit

/-! ### Dispatch -/

/-- No frame was started yet and no limit is exceeded. -/
structure AdditionalLimit.Ready (limit : AdditionalLimit) : Prop where
  before : limit.BeforeFrames
  clear : limit.Clear

variable {limits : EvmTxRuntimeLimits}

/-- When a keyless deploy is dispatched the limits are ready for a frame. -/
theorem Execution.ready_of_dispatch {config : EvmConfig} {events : List Event} {state : Execution}
    {init : FrameInit} (rex4 : config.spec.isEnabled .rex4 = true)
    (bounded : limits.txComputeGasLimit ≤ u64Max) (ran : Reaches config limits events state)
    (dispatches : state.phase = .intercepting init) (first : init.depth = 0) :
    state.meter.limit.Ready := by
  have within := (halts_of_run rex4 ran).at dispatches
  have before := beforeFrames_of_run rex4 bounded ran (by rw [dispatches]; exact first)
  exact ⟨before, before.reports within⟩

/-! ### Up to the start of the sandbox -/

namespace AdditionalLimit.Ready

variable {limit : AdditionalLimit} (ready : limit.Ready)

include ready

theorem recordComputeGas {gas : Nat} (goes : (limit.recordComputeGas gas).2 = true) :
    (limit.recordComputeGas gas).1.Ready := by
  have within := limit.recordComputeGas_snd gas
  rw [goes] at within
  exact ⟨ready.before.recordComputeGas gas, ready.clear.recordComputeGas
    (by simpa using within.symm)⟩

/-- Without a frame only an exceed of the transaction can be found, so a check that lets the call go
on finds nothing. -/
theorem recordDepositCallerCreation
    (goes : (limit.recordDepositCallerCreation.limitExceeded &&
      !limit.recordDepositCallerCreation.hasExceededLimit.isFrameLocal) = false) :
    limit.recordDepositCallerCreation.Ready := by
  have recorded := ready.before.recordDepositCallerCreation
  rw [recorded.notLocal, Bool.not_false, Bool.and_true] at goes
  exact ⟨recorded, recorded.reports goes⟩

end AdditionalLimit.Ready

variable {context : MegaContext} {gas : Gas}

theorem chargeOverhead_ready {charged : MegaContext} {inputs : CallInputs}
    (ready : context.additionalLimit.Ready)
    (through : chargeOverhead context inputs = .ok (charged, gas)) :
    charged.additionalLimit.Ready := by
  unfold chargeOverhead at through
  split at through
  · cases through
  split at through
  · next recorded isRecorded =>
    cases through
    have goes := @AdditionalLimit.Ready.recordComputeGas _ ready keylessDeployOverheadGas
    rw [isRecorded] at goes
    exact goes rfl
  · split at through <;> cases through

theorem rejectIfTxLimitOverflow_limit {checked : MegaContext} {left : Gas}
    (through : rejectIfTxLimitOverflow context gas = .ok (checked, left)) :
    checked.additionalLimit = context.additionalLimit.checkLimit ∧
      (context.additionalLimit.checkLimit.limitExceeded &&
        !context.additionalLimit.checkLimit.hasExceededLimit.isFrameLocal) = false := by
  unfold rejectIfTxLimitOverflow at through
  dsimp only at through
  split at through
  · cases through
  · next goes =>
    cases through
    exact ⟨rfl, Bool.eq_false_iff.mpr goes⟩

/-- The check of the signer records at most that its account is created. -/
theorem checkSigner_ready {env : KeylessEnv} {signed : MegaContext} {left : Gas} {signer : Address}
    (ready : context.additionalLimit.Ready)
    (through : checkSigner env context gas signer = .ok (signed, left)) :
    signed.additionalLimit.Ready := by
  unfold checkSigner at through
  split at through
  · cases through
  split at through
  · cases through
  split at through
  · cases through
  unfold chargeCallerMaterializationPreSandbox at through
  split at through
  · cases through
    exact ready
  split at through
  · cases through
  split at through
  · cases through
  obtain ⟨checked, goes⟩ := rejectIfTxLimitOverflow_limit through
  have same : context.additionalLimit.recordDepositCallerCreation.checkLimit =
      context.additionalLimit.recordDepositCallerCreation :=
    checkLimit_idempotent _
  rw [same] at checked goes
  rw [checked]
  exact ready.recordDepositCallerCreation goes

/-- The sandbox is started on limits that are ready. -/
theorem Settles.ready {env : KeylessEnv} {inputs : CallInputs} {txBytes : List Nat}
    {gasLimitOverride : U256} {prepared : Prepared}
    (settles : Settles env context inputs txBytes gasLimitOverride prepared)
    (ready : context.additionalLimit.Ready) : prepared.context.additionalLimit.Ready := by
  obtain ⟨charged, gas, request, signed, left, overhead, -, signer, occupancy, -⟩ := settles.steps
  rw [checkOccupancy_limit occupancy]
  exact checkSigner_ready (chargeOverhead_ready ready overhead) signer

/-! ### After the sandbox -/

/-- Whether it goes on or not, a check of the parent changes none of its usage. -/
theorem getUsage_checkLimit (limit : AdditionalLimit) :
    limit.checkLimit.getUsage = limit.getUsage := by
  obtain ⟨verdict, equation⟩ := limit.checkLimit_eq
  rw [equation]
  rfl

theorem reportCompletion_limit (context : MegaContext) (gas : Gas) (deployAddress : Address)
    (completion : SandboxCompletion) :
    (reportCompletion context gas deployAddress completion).context.additionalLimit =
      context.additionalLimit := by
  cases completion with
  | deployed =>
    rw [reportCompletion]
    split <;> rfl
  | emptyCode | executionFailed => rfl

/-- The usage of the parent when a call with a completed sandbox ends. -/
theorem getUsage_finishKeylessDeploy (env : KeylessEnv) (transact : Transact) {prepared : Prepared}
    (ready : prepared.context.additionalLimit.Ready) {after : MegaContext} {state : EvmState}
    {completion : SandboxCompletion} {usage : LimitUsage} {accesses : Nat}
    (completes : prepared.outcome transact = (after, .completed state completion usage accesses)) :
    (finishKeylessDeploy env transact prepared).context.additionalLimit.getUsage =
      prepared.context.additionalLimit.getUsage.add usage := by
  have limit := executeKeylessDeploySandbox_limit transact prepared.context prepared.keylessTx
    prepared.sandboxTx prepared.limits
  unfold Prepared.outcome at completes
  rw [completes] at limit
  have merged := ready.before.unrefunded.getUsage_mergeUsage usage
  rw [← limit] at merged ⊢
  unfold finishKeylessDeploy
  rw [completes, ← merged, ← getUsage_checkLimit (after.additionalLimit.mergeUsage usage)]
  unfold applySandboxPostAccounting rejectIfTxLimitOverflow
  dsimp only
  split
  · next exit refused =>
    split at refused
    · cases refused
      rfl
    · cases refused
  · next accounted gas goes =>
    split at goes
    · cases goes
    · cases goes
      split
      · rfl
      · rw [reportCompletion_limit]

/-- A sandbox that kept the limits derived for it leaves the parent within its own. -/
theorem applySandboxPostAccounting_within (ready : context.additionalLimit.Ready)
    {usage : LimitUsage} (kept : usage.Within (sandboxRuntimeLimits context)) (gas : Gas)
    (accesses reservation gasUsed : Nat) :
    ∃ accounted left,
      applySandboxPostAccounting context gas usage accesses reservation gasUsed =
        .ok (accounted, left) ∧
      accounted.additionalLimit = context.additionalLimit.mergeUsage usage ∧
      accounted.additionalLimit.Clear := by
  have clear := ready.clear.mergeUsage kept.dataSize kept.kvUpdates kept.computeGas
    kept.stateGrowth
  unfold applySandboxPostAccounting rejectIfTxLimitOverflow
  dsimp only
  rw [clear.checkLimit_eq, clear.notExceeded, Bool.false_and, if_neg Bool.false_ne_true]
  exact ⟨_, _, rfl, rfl, clear⟩

/-! ### The preflight -/

/-- What the preflight leaves on the limits it tries. -/
def trialLimit (spec : MegaSpecId) (tx : MegaTransaction) (limits : EvmTxRuntimeLimits) :
    AdditionalLimit :=
  (((AdditionalLimit.new spec limits).beforeTxStart tx).recordComputeGas tx.initialGas).1

theorem reset_new (spec : MegaSpecId) (limits : EvmTxRuntimeLimits) :
    (new spec limits).reset = .new spec limits := by
  have compute : (ComputeGasTracker.new spec limits.txComputeGasLimit).reset =
      .new spec limits.txComputeGasLimit := by
    unfold ComputeGasTracker.reset ComputeGasTracker.new
    split <;> rfl
  unfold reset new
  rw [compute]
  rfl

theorem getUsage_recordComputeGas (limit : AdditionalLimit) (gas : Nat) :
    (limit.recordComputeGas gas).1.getUsage =
      { limit.getUsage with computeGas := (limit.computeGas.recordGasUsed gas).txUsage } := by
  obtain ⟨verdict, equation⟩ := limit.recordComputeGas_eq gas
  rw [equation]
  rfl

/-- What a sandbox uses before its first frame is what the preflight tries: a transaction of the
beneficiary is detained besides, which uses nothing. -/
theorem getUsage_limitAtStart (context : MegaContext) (tx : MegaTransaction)
    (limits : EvmTxRuntimeLimits) :
    (limitAtStart context tx limits).getUsage = (trialLimit context.spec tx limits).getUsage := by
  unfold limitAtStart trialLimit
  rw [reset_new]
  split
  · rw [getUsage_recordComputeGas, getUsage_recordComputeGas, ComputeGasTracker.recordGasUsed_eq,
      ComputeGasTracker.recordGasUsed_eq]
    rfl
  · rfl

variable {tx : MegaTransaction}

/-- The preflight passes only if it leaves the limits clear, and it exempts nothing. -/
theorem trialLimit_clear {spec : MegaSpecId}
    (passes : sandboxIntrinsicOverflowError spec tx limits = none) :
    (trialLimit spec tx limits).Clear ∧
      (trialLimit spec tx limits).hasExceededLimit ≠ .exempt := by
  have fresh : LimitCheck.withinLimit ≠ .exempt := nofun
  refine ⟨?_, recordComputeGas_ne_exempt (checkLimit_ne_exempt fresh) tx.initialGas⟩
  unfold sandboxIntrinsicOverflowError at passes
  split at passes
  · cases passes
  · next verdict notExceeded =>
    show (intrinsicCheckForTx spec tx limits).exceededLimit = false
    cases isVerdict : intrinsicCheckForTx spec tx limits with
    | withinLimit | exempt => rfl
    | exceedsLimit kind bound used frameLocal =>
      exact absurd isVerdict (notExceeded kind bound used frameLocal)

theorem trialLimit_within {spec : MegaSpecId}
    (passes : sandboxIntrinsicOverflowError spec tx limits = none) :
    (trialLimit spec tx limits).getUsage.Within limits := by
  obtain ⟨clear, metered⟩ := trialLimit_clear passes
  have within := clear.within metered
  have setup : (trialLimit spec tx limits).setup = (new spec limits).setup :=
    (moves_recordComputeGas _ _).setup.trans (moves_beforeTxStart _ tx).setup
  exact
    { dataSize := within.dataSize.trans_eq
        (congrArg (fun setup => setup.dataSize.txLimit) setup)
      kvUpdates := within.kvUpdates.trans_eq
        (congrArg (fun setup => setup.kvUpdate.txLimit) setup)
      computeGas := (within.computeGas.trans (Nat.min_le_left _ _)).trans_eq
        (congrArg (fun setup => setup.computeGas.txLimit) setup)
      stateGrowth := within.stateGrowth.trans_eq
        (congrArg (fun setup => setup.stateGrowth.txLimit) setup) }

/-- A transaction of another account than the beneficiary starts on exactly these limits. -/
theorem limitAtStart_eq (undetained : tx.caller ≠ context.beneficiary)
    (limits : EvmTxRuntimeLimits) :
    limitAtStart context tx limits = trialLimit context.spec tx limits := by
  unfold limitAtStart trialLimit
  dsimp only
  rw [reset_new, if_neg undetained]

/-! ### Nesting -/

/-- The budget of a sandbox nests inside its parent's. For a keyless deploy dispatched by any
transaction since Rex5, the parent's usage after a completed sandbox is its usage before and the
sandbox's, and if the sandbox kept the limits derived for it the parent is within all of its own.
What a sandbox records before its first frame keeps the limits for which the preflight passes. -/
theorem keylessDeploy_budgets_nest {config : EvmConfig} {limits : EvmTxRuntimeLimits}
    {events : List Execution.Event} {state : Execution} {init : FrameInit}
    (rex5 : config.spec.isEnabled .rex5 = true) (bounded : limits.txComputeGasLimit ≤ u64Max)
    (reached : Library.run (Execution.step config) (.initial config limits) events = some state)
    (dispatches : state.phase = .intercepting init) (first : init.depth = 0)
    (env : KeylessEnv) (transact : Transact) (context : MegaContext) (inputs : CallInputs)
    (txBytes : List Nat) (gasLimitOverride : U256)
    (shared : context.additionalLimit = state.meter.limit) :
    (∀ prepared after sandboxState completion usage accesses,
      prepareKeylessDeploy env context inputs txBytes gasLimitOverride = .ok prepared →
      prepared.outcome transact =
        (after, .completed sandboxState completion usage accesses) →
      (executeKeylessDeployCall env transact context inputs txBytes
          gasLimitOverride).context.additionalLimit.getUsage =
        prepared.context.additionalLimit.getUsage.add usage ∧
      (usage.Within (sandboxRuntimeLimits prepared.context) →
        ∃ accounted left,
          applySandboxPostAccounting after prepared.gas usage accesses prepared.reservation
            completion.gasUsed = .ok (accounted, left) ∧
          (accounted.additionalLimit.hasExceededLimit = .exempt ∨
            accounted.additionalLimit.getUsage.Within accounted.additionalLimit.inForce))) ∧
    ∀ tx derived, sandboxIntrinsicOverflowError context.spec tx derived = none →
      (limitAtStart context tx derived).getUsage.Within derived ∧
      (tx.caller ≠ context.beneficiary →
        (limitAtStart context tx derived).limitExceeded = false) := by
  have ready := Execution.ready_of_dispatch (MegaSpecId.rex4_of_rex5 rex5) bounded reached
    dispatches first
  rw [← shared] at ready
  refine ⟨fun prepared after sandboxState completion usage accesses started completes => ?_,
    fun tx derived passes => ⟨?_, fun undetained => ?_⟩⟩
  · have sandboxReady := (prepareKeylessDeploy_settles started).ready ready
    have sameLimit := executeKeylessDeploySandbox_limit transact prepared.context
      prepared.keylessTx prepared.sandboxTx prepared.limits
    refine ⟨?_, fun kept => ?_⟩
    · unfold executeKeylessDeployCall
      rw [started]
      exact getUsage_finishKeylessDeploy env transact sandboxReady completes
    · have same : after.additionalLimit = prepared.context.additionalLimit := by
        unfold Prepared.outcome at completes
        rw [completes] at sameLimit
        exact sameLimit
      have keptAfter : usage.Within (sandboxRuntimeLimits after) := by
        unfold sandboxRuntimeLimits at kept ⊢
        rw [same]
        exact kept
      obtain ⟨accounted, left, goes, -, clear⟩ := applySandboxPostAccounting_within
        (same ▸ sandboxReady) keptAfter prepared.gas accesses prepared.reservation
        completion.gasUsed
      refine ⟨accounted, left, goes, ?_⟩
      by_cases exempt : accounted.additionalLimit.hasExceededLimit = .exempt
      · exact Or.inl exempt
      · exact Or.inr (clear.within exempt)
  · rw [getUsage_limitAtStart]
    exact trialLimit_within passes
  · rw [limitAtStart_eq undetained]
    exact (trialLimit_clear passes).1.notExceeded

def rex5Config : EvmConfig :=
  { Execution.rex6Config with spec := .rex5, metered := by decide }

/-- A transaction whose first call relays the creation. -/
def dispatchingRun : List Execution.Event :=
  [.newTx { Execution.plainTx with gasLimit := 1100000 }, .exemption false (some 20000000),
    .validate [] none 21000 false, .preExecution 0, .firstFrame (.call relayingCall),
    .enterFrame none]

def dispatchingState : Execution :=
  (Library.run (Execution.step rex5Config) (.initial rex5Config emptyParent.additionalLimit.limits)
    dispatchingRun).getD (.initial rex5Config emptyParent.additionalLimit.limits)

def dispatchingParent : MegaContext :=
  { emptyParent with additionalLimit := dispatchingState.meter.limit }

/-- The usage of a sandbox that was not rejected. -/
def SandboxOutcome.usage? : SandboxOutcome → Option LimitUsage
  | .completed _ _ usage _ => some usage
  | .rejected _ => none

/-- The parent used 21000 of compute gas, pays the overhead and gets the usage of the sandbox. -/
theorem keylessDeploy_budgets_nest_relayed :
    (executeKeylessDeployCall relayedEnv deployingEngine dispatchingParent relayingCall []
        100000).context.additionalLimit.getUsage =
      { dataSize := 150, kvUpdates := 3, computeGas := 179000, stateGrowth := 2 } := by
  obtain ⟨prepared, started, observed⟩ := Library.exists_of_toOption
    (show (prepareKeylessDeploy relayedEnv dispatchingParent relayingCall [] 100000).toOption.map
        (fun prepared => (prepared.context.additionalLimit.getUsage,
          (prepared.outcome deployingEngine).2.usage?)) =
        some ({ dataSize := 150, kvUpdates := 1, computeGas := 121000, stateGrowth := 1 },
          some { dataSize := 0, kvUpdates := 2, computeGas := 58000, stateGrowth := 1 }) by
      decide +kernel)
  simp only [Prod.mk.injEq] at observed
  obtain ⟨before, completes⟩ := observed
  have nests := (@keylessDeploy_budgets_nest rex5Config emptyParent.additionalLimit.limits
    dispatchingRun dispatchingState { depth := 0, input := .call relayingCall } rfl (by decide) rfl
    rfl rfl relayedEnv deployingEngine dispatchingParent relayingCall [] 100000 rfl).1 prepared
  generalize outcome : prepared.outcome deployingEngine = result at completes
  obtain ⟨after, _ | _⟩ := result
  · next state completion usage accesses =>
    cases completes
    rw [(nests after state completion _ accesses started outcome).1, before]
    rfl
  · cases completes

end MegaEvm
