/-
This file follows the gas of a keyless deploy call. The call pays its overhead and, if
the signer does not exist yet, for the account of the signer; it then reserves the gas
of the sandbox out of what is left, and takes back what the sandbox did not use. A
sandbox that is rejected costs nothing. Whatever way the call returns, the gas adds up;
and if it halts because the merged usage exceeds a limit, what would have been left is
rescued.
-/

import MegaEvm.Sandbox.Atomicity

namespace MegaEvm

/-! ### Gas of the steps -/

/-- The charge for a signer: the price of its account if the parent does not have it. -/
def materializationCharge (env : KeylessEnv) (journal : Journal) (signer : Address) : Nat :=
  if (journal.account signer).info.isEmpty then (env.newAccountGas signer).getD 0 else 0

/-- What a step of the call leaves alone when it goes through. -/
structure KeepsRescue (before after : AdditionalLimit) : Prop where
  rescuedGas : after.rescuedGas = before.rescuedGas
  stipend : after.storageCallStipend = before.storageCallStipend

variable (limit : AdditionalLimit) (context : MegaContext) (before : AdditionalLimit) (gas : Gas)
  {env : KeylessEnv}

theorem KeepsRescue.refl : KeepsRescue limit limit :=
  ⟨rfl, rfl⟩

theorem KeepsRescue.trans {first second third : AdditionalLimit}
    (earlier : KeepsRescue first second) (later : KeepsRescue second third) :
    KeepsRescue first third :=
  ⟨later.rescuedGas.trans earlier.rescuedGas, later.stipend.trans earlier.stipend⟩

theorem keepsRescue_checkLimit : KeepsRescue limit limit.checkLimit := by
  unfold AdditionalLimit.checkLimit
  split <;> exact ⟨rfl, rfl⟩

theorem keepsRescue_recordComputeGas (gas : Nat) :
    KeepsRescue limit (limit.recordComputeGas gas).1 := by
  unfold AdditionalLimit.recordComputeGas
  dsimp only
  split
  · split <;> exact ⟨rfl, rfl⟩
  · exact ⟨rfl, rfl⟩

theorem chargeOverhead_gas {context charged : MegaContext} {inputs : CallInputs} {gas : Gas}
    (through : chargeOverhead context inputs = .ok (charged, gas)) :
    gas.remaining + keylessDeployOverheadGas = inputs.gasLimit ∧
      charged.journal = context.journal ∧
      KeepsRescue context.additionalLimit charged.additionalLimit := by
  unfold chargeOverhead at through
  split at through
  · cases through
  next paid =>
  have kept := keepsRescue_recordComputeGas context.additionalLimit keylessDeployOverheadGas
  split at through
  · next recorded isRecorded =>
    cases through
    rw [isRecorded] at kept
    exact ⟨Gas.remaining_of_recordCost paid, rfl, kept⟩
  · split at through <;> cases through

/-- A check that lets the call go on keeps its gas; one that does not rescues it. -/
theorem rejectIfTxLimitOverflow_gas :
    match rejectIfTxLimitOverflow context gas with
    | .ok (checked, left) =>
      left = gas ∧ checked.journal = context.journal ∧
        KeepsRescue context.additionalLimit checked.additionalLimit
    | .error exit =>
      exit.result = some { result := .outOfGas, output := .empty, gas := gas.spendAll } ∧
        exit.context.additionalLimit.rescuedGas = context.additionalLimit.rescuedGas +
          context.additionalLimit.storageCallStipend.effectiveRemainingForRescue gas := by
  have kept := keepsRescue_checkLimit context.additionalLimit
  unfold rejectIfTxLimitOverflow
  dsimp only
  split
  · next exit isExit =>
    split at isExit
    · cases isExit
    · cases isExit
      exact ⟨rfl, rfl, kept⟩
  · next exit isExit =>
    split at isExit
    · cases isExit
      refine ⟨rfl, ?_⟩
      show context.additionalLimit.checkLimit.rescuedGas + _ = _
      rw [kept.rescuedGas, kept.stipend]
    · cases isExit

theorem checkSigner_gas {context signed : MegaContext} {gas left : Gas} {signer : Address}
    (through : checkSigner env context gas signer = .ok (signed, left)) :
    left.remaining + materializationCharge env context.journal signer = gas.remaining ∧
      KeepsRescue context.additionalLimit signed.additionalLimit := by
  have inspects := context.journal.inspectAccount_inspected (fun _ _ _ => 0) signer
    (!context.disableEip3607)
  unfold checkSigner at through
  generalize context.journal.inspectAccount signer (!context.disableEip3607) = result
    at inspects through
  obtain ⟨journal, found⟩ := result
  cases found with
  | none => cases through
  | some account =>
    obtain ⟨-, code, accountIs⟩ := inspects.loaded account rfl
    have empty : account.info.isEmpty = (context.journal.account signer).info.isEmpty := by
      rw [accountIs]
      rfl
    dsimp only at through
    split at through
    · cases through
    split at through
    · cases through
    unfold materializationCharge
    rw [← empty]
    unfold chargeCallerMaterializationPreSandbox at through
    cases isEmpty : account.info.isEmpty with
    | false =>
      rw [isEmpty] at through
      cases through
      exact ⟨rfl, KeepsRescue.refl _⟩
    | true =>
      rw [isEmpty] at through
      simp only [Bool.not_true, Bool.false_eq_true, if_false] at through
      cases price : env.newAccountGas signer with
      | none =>
        rw [price] at through
        cases through
      | some cost =>
        rw [price] at through
        dsimp only at through
        cases paid : gas.recordCost cost with
        | none =>
          rw [paid] at through
          cases through
        | some charged =>
          rw [paid] at through
          have checks := rejectIfTxLimitOverflow_gas
            { context with
              journal
              additionalLimit := context.additionalLimit.recordDepositCallerCreation } charged
          rw [show rejectIfTxLimitOverflow
            { context with
              journal
              additionalLimit := context.additionalLimit.recordDepositCallerCreation } charged =
              .ok (signed, left) from through] at checks
          obtain ⟨rfl, -, kept⟩ := checks
          have recorded := keepsRescue_checkLimit
            { context.additionalLimit with
              stateGrowth := context.additionalLimit.stateGrowth.recordDepositCallerCreation }
          exact ⟨Gas.remaining_of_recordCost paid,
            KeepsRescue.trans ⟨recorded.rescuedGas, recorded.stipend⟩ kept⟩

theorem checkOccupancy_limit {context vacant : MegaContext} {gas : Gas} {address : Address}
    (through : checkOccupancy context gas address = .ok vacant) :
    vacant.additionalLimit = context.additionalLimit := by
  unfold checkOccupancy at through
  split at through
  · cases through
  · split at through
    · cases through
    · cases through
      rfl

/-! ### Before and after the sandbox -/

/-- The gas with which the sandbox is started. -/
structure Funded (env : KeylessEnv) (context : MegaContext) (inputs : CallInputs)
    (prepared : Prepared) : Prop where
  reserved : ∃ charged : Gas,
    charged.remaining + keylessDeployOverheadGas +
        materializationCharge env context.journal prepared.signer = inputs.gasLimit ∧
      charged.recordCost prepared.reservation = some prepared.gas
  covers : prepared.keylessTx.gasLimit ≤ prepared.reservation
  gasLimit : prepared.sandboxTx.gasLimit = prepared.reservation
  paid : prepared.gas.remaining + prepared.reservation + keylessDeployOverheadGas +
    materializationCharge env context.journal prepared.signer = inputs.gasLimit
  keeps : KeepsRescue context.additionalLimit prepared.context.additionalLimit

theorem Settles.funded {context : MegaContext} {inputs : CallInputs} {txBytes : List Nat}
    {gasLimitOverride : U256} {prepared : Prepared}
    (settles : Settles env context inputs txBytes gasLimitOverride prepared) :
    Funded env context inputs prepared := by
  obtain ⟨charged, gas, request, signed, left, overhead, -, signer, occupancy, isTx, isSigner,
    reservation, covers, isGas⟩ := settles.steps
  obtain ⟨overheadPaid, journal, overheadKeeps⟩ := chargeOverhead_gas overhead
  obtain ⟨signerPaid, signerKeeps⟩ := checkSigner_gas signer
  rw [journal, ← isSigner] at signerPaid
  -- The reservation is capped at what is left.
  have enough : prepared.reservation ≤ left.remaining := reservation ▸ Nat.min_le_right _ _
  have debited : left.recordCost prepared.reservation = some prepared.gas := by
    rw [isGas, Gas.recordCost, if_pos enough]
    rfl
  have reservationPaid := Gas.remaining_of_recordCost debited
  refine ⟨⟨left, by omega, debited⟩, isTx ▸ covers, ?_, by omega, ?_⟩
  · rw [settles.tx]
    rfl
  · rw [checkOccupancy_limit occupancy]
    exact overheadKeeps.trans signerKeeps

/-- The sandbox of a prepared deploy. -/
def Prepared.outcome (transact : Transact) (prepared : Prepared) : MegaContext × SandboxOutcome :=
  executeKeylessDeploySandbox transact prepared.context prepared.keylessTx prepared.sandboxTx
    prepared.limits

/-- The gas a sandbox used: none if it was rejected. -/
def SandboxOutcome.gasUsed : SandboxOutcome → Nat
  | completed _ completion _ _ => completion.gasUsed
  | rejected _ => 0

theorem executeKeylessDeploySandbox_limit (transact : Transact) (context : MegaContext)
    (keylessTx : KeylessTx) (tx : MegaTransaction) (limits : EvmTxRuntimeLimits) :
    (executeKeylessDeploySandbox transact context keylessTx tx limits).1.additionalLimit =
      context.additionalLimit := by
  unfold executeKeylessDeploySandbox
  dsimp only
  split
  · rfl
  · split <;> rfl

/-- A result returns this much gas, or it halts and this much was rescued. -/
def KeylessExit.Leaves (exit : KeylessExit) (before : AdditionalLimit) (amount : Nat) : Prop :=
  ∃ result, exit.result = some result ∧
    if result.result.isOkOrRevert then result.gas.remaining = amount
    else exit.context.additionalLimit.rescuedGas = before.rescuedGas + amount

theorem makeError_leaves (error : KeylessDeployError) :
    (makeError context gas error).Leaves before gas.remaining :=
  ⟨_, rfl, rfl⟩

theorem reportCompletion_leaves (deployAddress : Address) (completion : SandboxCompletion) :
    (reportCompletion context gas deployAddress completion).Leaves before gas.remaining := by
  cases completion with
  | deployed gasUsed deployed logs =>
    rw [reportCompletion]
    by_cases mismatch : deployed ≠ deployAddress
    · rw [if_pos mismatch]
      exact makeError_leaves ..
    · rw [if_neg mismatch]
      exact ⟨_, rfl, rfl⟩
  | emptyCode | executionFailed => exact ⟨_, rfl, rfl⟩

/-- The end of the call leaves the gas before the reservation, without what the sandbox used. -/
theorem finishKeylessDeploy_leaves (env : KeylessEnv) (transact : Transact) {prepared : Prepared}
    (separate : prepared.context.additionalLimit.storageCallStipend.rex5Enabled = true)
    (bounded : (prepared.outcome transact).2.gasUsed ≤ prepared.reservation) :
    (finishKeylessDeploy env transact prepared).Leaves prepared.context.additionalLimit
      (prepared.gas.remaining + prepared.reservation - (prepared.outcome transact).2.gasUsed) := by
  have limit := executeKeylessDeploySandbox_limit transact prepared.context prepared.keylessTx
    prepared.sandboxTx prepared.limits
  unfold Prepared.outcome at bounded ⊢
  unfold finishKeylessDeploy
  generalize executeKeylessDeploySandbox transact prepared.context prepared.keylessTx
    prepared.sandboxTx prepared.limits = result at limit bounded ⊢
  obtain ⟨after, outcome⟩ := result
  cases outcome with
  | rejected error => exact makeError_leaves ..
  | completed state completion usage accesses =>
    have amount : prepared.gas.remaining + prepared.reservation - completion.gasUsed =
        (prepared.gas.eraseCost (prepared.reservation - completion.gasUsed)).remaining :=
      Nat.add_sub_assoc bounded _
    dsimp only [SandboxOutcome.gasUsed]
    rw [amount]
    have checks := rejectIfTxLimitOverflow_gas
      { after with
        additionalLimit := after.additionalLimit.mergeUsage usage
        volatileAccesses := after.volatileAccesses ||| accesses }
      (prepared.gas.eraseCost (prepared.reservation - completion.gasUsed))
    unfold applySandboxPostAccounting
    split at checks
    · next accounted left isChecked =>
      obtain ⟨rfl, -, -⟩ := checks
      rw [isChecked]
      dsimp only
      split
      · exact makeError_leaves ..
      · exact reportCompletion_leaves ..
    · next exit isChecked =>
      obtain ⟨result, rescued⟩ := checks
      rw [isChecked]
      refine ⟨_, result, ?_⟩
      show exit.context.additionalLimit.rescuedGas = _
      have merges : KeepsRescue prepared.context.additionalLimit
          (after.additionalLimit.mergeUsage usage) := by
        rw [← limit]
        exact ⟨rfl, rfl⟩
      rw [rescued, merges.stipend, merges.rescuedGas,
        StorageCallStipendTracker.effectiveRemainingForRescue, if_pos separate]

/-- The gas of a keyless deploy call whose sandbox is started adds up. The reservation is always
paid and covers what was signed; a call that returns has the rest of the gas, and one that a limit
halts has rescued it. -/
theorem executeKeylessDeployCall_conserves_gas (env : KeylessEnv) (transact : Transact)
    (context : MegaContext) (inputs : CallInputs) (txBytes : List Nat) (gasLimitOverride : U256)
    (prepared : Prepared)
    (separate : context.additionalLimit.storageCallStipend.rex5Enabled = true)
    (started : prepareKeylessDeploy env context inputs txBytes gasLimitOverride = .ok prepared)
    (bounded : (prepared.outcome transact).2.gasUsed ≤ prepared.sandboxTx.gasLimit) :
    (∃ charged : Gas,
      charged.remaining + keylessDeployOverheadGas +
          materializationCharge env context.journal prepared.signer = inputs.gasLimit ∧
        charged.recordCost prepared.reservation = some prepared.gas) ∧
    prepared.sandboxTx.gasLimit = prepared.reservation ∧
    prepared.keylessTx.gasLimit ≤ prepared.sandboxTx.gasLimit ∧
    ∃ amount,
      amount + keylessDeployOverheadGas +
          materializationCharge env context.journal prepared.signer +
          (prepared.outcome transact).2.gasUsed = inputs.gasLimit ∧
      (executeKeylessDeployCall env transact context inputs txBytes gasLimitOverride).Leaves
        context.additionalLimit amount := by
  have funded := (prepareKeylessDeploy_settles started).funded
  have paid := funded.paid
  rw [funded.gasLimit] at bounded ⊢
  refine ⟨funded.reserved, rfl, funded.covers,
    prepared.gas.remaining + prepared.reservation - (prepared.outcome transact).2.gasUsed, ?_, ?_⟩
  · omega
  · obtain ⟨result, returned, leaves⟩ := finishKeylessDeploy_leaves env transact
      (funded.keeps.stipend ▸ separate) bounded
    refine ⟨result, ?_, ?_⟩
    · unfold executeKeylessDeployCall
      rw [started]
      exact returned
    · unfold executeKeylessDeployCall
      rw [started]
      rw [funded.keeps.rescuedGas] at leaves
      exact leaves

/-- The account of the signer has a price. -/
def pricedEnv : KeylessEnv :=
  { relayedEnv with newAccountGas := fun _ => some 25000 }

/-- A deploy for a new signer whose sandbox uses 58000 of the gas reserved for it. -/
theorem executeKeylessDeployCall_conserves_gas_priced :
    ∃ prepared,
      prepareKeylessDeploy pricedEnv emptyParent relayingCall [] 100000 = .ok prepared ∧
      prepared.reservation = 100000 ∧
      (executeKeylessDeployCall pricedEnv deployingEngine emptyParent relayingCall []
        100000).Leaves emptyParent.additionalLimit 817000 := by
  obtain ⟨prepared, started, observed⟩ := Library.exists_of_toOption
    (show (prepareKeylessDeploy pricedEnv emptyParent relayingCall [] 100000).toOption.map
        (fun prepared => ((prepared.outcome deployingEngine).2.gasUsed, prepared.reservation,
          prepared.sandboxTx.gasLimit, prepared.signer)) = some (58000, 100000, 100000, 7) by
      decide +kernel)
  simp only [Prod.mk.injEq] at observed
  obtain ⟨used, reservation, gasLimit, signer⟩ := observed
  obtain ⟨-, -, -, amount, balances, leaves⟩ := executeKeylessDeployCall_conserves_gas pricedEnv
    deployingEngine emptyParent relayingCall [] 100000 prepared rfl started
    (by rw [used, gasLimit]; decide)
  have charge : materializationCharge pricedEnv emptyParent.journal 7 = 25000 := by decide
  have overhead : keylessDeployOverheadGas = 100000 := rfl
  have limit : relayingCall.gasLimit = 1000000 := rfl
  rw [used, signer, charge, overhead, limit] at balances
  obtain rfl : amount = 817000 := by omega
  exact ⟨prepared, started, reservation, leaves⟩

end MegaEvm
