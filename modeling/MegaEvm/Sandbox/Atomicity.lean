/-
This file proves that a keyless deploy is all or nothing. The call runs outside of any
checkpoint of the engine and has a dozen exits, some after usage was merged; each of
them that is not a success leaves every view and every log of the parent as it was,
and a success has merged exactly the state of the sandbox and appended exactly its
logs.

The engine is assumed to load slots through the database it is given, and a create of
the signer at nonce zero to be the one the address was computed for.
-/

import MegaEvm.Library.Fallible
import MegaEvm.Sandbox.KeylessDeploy
import MegaEvm.Sandbox.MergeRun

namespace MegaEvm

open Library Journal.OnlyLoads Journal

/-! ### Exits -/

section Exits

variable {stored : Address → Unloaded}

/-- The call ended without success and left the parent as it was. -/
def KeylessExit.Refuses (stored : Address → Unloaded) (journal : Journal)
    (exit : KeylessExit) : Prop :=
  journal.OnlyLoads stored exit.context.journal ∧
    ∀ result, exit.result = some result → result.result.isOk = false

theorem KeylessExit.Refuses.after {before after : Journal} {exit : KeylessExit}
    (refuses : exit.Refuses stored after) (loads : before.OnlyLoads stored after) :
    exit.Refuses stored before :=
  ⟨loads.trans refuses.1, refuses.2⟩

theorem makeError_refuses (context : MegaContext) (gas : Gas) (error : KeylessDeployError) :
    (makeError context gas error).Refuses stored context.journal :=
  ⟨refl _, fun _ ended => Option.some.inj ended ▸ rfl⟩

theorem oogFrameResult_refuses (context : MegaContext) (gas : Gas) :
    (oogFrameResult context gas).Refuses stored context.journal :=
  ⟨refl _, fun _ ended => Option.some.inj ended ▸ rfl⟩

/-- A step of the call either refuses it or only loads. -/
def StepLoads {Value : Type} (stored : Address → Unloaded) (journal : Journal)
    (step : Except KeylessExit Value) (journalOf : Value → Journal) : Prop :=
  match step with
  | .error exit => exit.Refuses stored journal
  | .ok value => journal.OnlyLoads stored (journalOf value)

variable {Value : Type}

theorem makeError_loads (context : MegaContext) (gas : Gas) (error : KeylessDeployError)
    (journalOf : Value → Journal) :
    StepLoads stored context.journal (.error (makeError context gas error)) journalOf :=
  makeError_refuses context gas error

theorem chargeOverhead_loads (context : MegaContext) (inputs : CallInputs) :
    StepLoads stored context.journal (chargeOverhead context inputs) (·.1.journal) := by
  unfold chargeOverhead
  split
  · exact oogFrameResult_refuses _ _
  · split
    · exact refl _
    · split
      · exact makeError_refuses _ _ _
      · exact oogFrameResult_refuses _ _
      · exact ⟨refl _, nofun⟩

theorem rejectIfTxLimitOverflow_loads (context : MegaContext) (gas : Gas) :
    StepLoads stored context.journal (rejectIfTxLimitOverflow context gas) (·.1.journal) := by
  unfold rejectIfTxLimitOverflow
  dsimp only
  split
  · exact oogFrameResult_refuses _ _
  · exact refl _

theorem chargeCallerMaterializationPreSandbox_loads (env : KeylessEnv) (context : MegaContext)
    (gas : Gas) (signer : Address) (info : AccountInfo) :
    StepLoads stored context.journal
      (chargeCallerMaterializationPreSandbox env context gas signer info) (·.1.journal) := by
  unfold chargeCallerMaterializationPreSandbox
  split
  · exact refl _
  · split
    · exact makeError_refuses _ _ _
    · split
      · exact oogFrameResult_refuses _ _
      · exact rejectIfTxLimitOverflow_loads _ _

/-- A step that starts after loading. -/
theorem StepLoads.after {before after : Journal} {step : Except KeylessExit Value}
    {journalOf : Value → Journal} (later : StepLoads stored after step journalOf)
    (loads : before.OnlyLoads stored after) : StepLoads stored before step journalOf := by
  unfold StepLoads at later ⊢
  cases step with
  | error exit => exact KeylessExit.Refuses.after later loads
  | ok value => exact loads.trans later

/-- One step after another. -/
theorem StepLoads.bind {Result : Type} {journal : Journal} {step : Except KeylessExit Value}
    {next : Value → Except KeylessExit Result} {journalOf : Value → Journal}
    {journalAfter : Result → Journal} (first : StepLoads stored journal step journalOf)
    (second : ∀ value, StepLoads stored (journalOf value) (next value) journalAfter) :
    StepLoads stored journal (step >>= next) journalAfter := by
  cases step with
  | error exit => exact first
  | ok value => exact (second value).after first

theorem checkSigner_loads (env : KeylessEnv) (context : MegaContext) (gas : Gas)
    (signer : Address) :
    StepLoads stored context.journal (checkSigner env context gas signer) (·.1.journal) := by
  have loads :=
    (context.journal.inspectAccount_inspected stored signer (!context.disableEip3607)).onlyLoads
  unfold checkSigner
  generalize context.journal.inspectAccount signer (!context.disableEip3607) = result at loads ⊢
  obtain ⟨journal, found⟩ := result
  refine StepLoads.after ?_ loads
  cases found with
  | none => exact makeError_loads { context with journal } _ _ _
  | some account =>
    dsimp only
    split
    · exact makeError_loads { context with journal } _ _ _
    · split
      · exact makeError_loads { context with journal } _ _ _
      · exact chargeCallerMaterializationPreSandbox_loads env { context with journal } _ _ _

theorem readDeployCodeHash_onlyLoads (context : MegaContext) (deployAddress : Address) :
    context.journal.OnlyLoads stored (readDeployCodeHash context deployAddress).1 := by
  unfold readDeployCodeHash
  split
  · exact (context.journal.inspectAccountCodeHash_spec deployAddress).1
  · exact ⟨rfl, rfl, rfl, rfl, fun _ => Account.Grown.refl _⟩

theorem checkOccupancy_loads (context : MegaContext) (gas : Gas) (deployAddress : Address) :
    StepLoads stored context.journal (checkOccupancy context gas deployAddress) (·.journal) := by
  have loads := @readDeployCodeHash_onlyLoads stored context deployAddress
  unfold checkOccupancy
  generalize readDeployCodeHash context deployAddress = result at loads ⊢
  obtain ⟨journal, found⟩ := result
  refine StepLoads.after ?_ loads
  cases found with
  | none => exact makeError_loads { context with journal } _ _ _
  | some codeHash =>
    dsimp only
    split
    · exact makeError_loads { context with journal } _ _ _
    · exact refl _

/-- Everything before the sandbox runs. -/
theorem prepareKeylessDeploy_loads (env : KeylessEnv) (context : MegaContext)
    (inputs : CallInputs) (txBytes : List Nat) (gasLimitOverride : U256) :
    StepLoads stored context.journal
      (prepareKeylessDeploy env context inputs txBytes gasLimitOverride) (·.context.journal) := by
  unfold prepareKeylessDeploy
  refine (chargeOverhead_loads context inputs).bind ?_
  rintro ⟨charged, gas⟩
  dsimp only
  split
  · exact makeError_loads charged _ _ _
  · next request _ =>
    refine (checkSigner_loads env charged gas request.signer).bind ?_
    rintro ⟨signed, gas⟩
    split
    · exact makeError_loads signed _ _ _
    · refine (checkOccupancy_loads signed gas _).bind fun vacant => ?_
      split
      · exact makeError_loads vacant _ _ _
      · exact refl _

/-! ### The sandbox and its merge -/

/-- The logs a completion forwards to the parent. -/
def SandboxCompletion.logs : SandboxCompletion → List Log
  | deployed _ _ logs | emptyCode _ logs => logs
  | executionFailed _ _ => []

variable {usage : LimitUsage} {accesses : Nat}

/-- A completed sandbox comes from a result of the engine, with its state and its logs. -/
theorem processSandboxTransactResult_completed {spec : MegaSpecId} {run : SandboxRun}
    {state : EvmState} {completion : SandboxCompletion}
    (completed : processSandboxTransactResult spec run =
      .completed state completion usage accesses) :
    ∃ result, run.transacted = .ok (result, state) ∧ completion.logs = result.logs ∧
      ∀ gasUsed address logs, completion = .deployed gasUsed address logs →
        ∃ bytecode, result = .success gasUsed (.create bytecode (some address)) logs := by
  unfold processSandboxTransactResult at completed
  split at completed
  · next transacted =>
    split at completed
    · cases completed
      exact ⟨_, transacted, rfl, nofun⟩
    · cases completed
      refine ⟨_, transacted, rfl, fun _ _ _ same => ?_⟩
      cases same
      exact ⟨_, rfl⟩
  · cases completed
  · next transacted =>
    cases completed
    exact ⟨_, transacted, rfl, nofun⟩
  · cases completed
  · next transacted =>
    cases completed
    exact ⟨_, transacted, rfl, nofun⟩
  · cases completed
  · cases completed

/-- Running the sandbox only queries the parent's database. -/
theorem executeKeylessDeploySandbox_journal (transact : Transact) (context : MegaContext)
    (keylessTx : KeylessTx) (tx : MegaTransaction) (limits : EvmTxRuntimeLimits) :
    ∃ queries, (executeKeylessDeploySandbox transact context keylessTx tx limits).1.journal =
      { context.journal with queries } := by
  unfold executeKeylessDeploySandbox
  dsimp only
  split
  · exact ⟨context.journal.queries, rfl⟩
  · split
    · exact ⟨context.journal.queries, rfl⟩
    · exact ⟨_, rfl⟩

theorem Journal.OnlyLoads.queries (journal : Journal) (queries : Nat) :
    journal.OnlyLoads stored { journal with queries } :=
  ⟨rfl, rfl, rfl, rfl, fun _ => Account.Grown.refl _⟩

theorem executeKeylessDeploySandbox_completed {transact : Transact} {context after : MegaContext}
    {keylessTx : KeylessTx} {tx : MegaTransaction} {limits : EvmTxRuntimeLimits} {state : EvmState}
    {completion : SandboxCompletion}
    (completed : executeKeylessDeploySandbox transact context keylessTx tx limits =
      (after, .completed state completion usage accesses)) :
    processSandboxTransactResult context.spec (transact context keylessTx tx limits) =
      .completed state completion usage accesses := by
  unfold executeKeylessDeploySandbox at completed
  dsimp only at completed
  split at completed
  · cases completed
  · split at completed
    · cases completed
    · exact (Prod.mk.inj completed).2

theorem applySandboxPostAccounting_loads (context : MegaContext) (gas : Gas) (usage : LimitUsage)
    (accesses reservation gasUsed : Nat) :
    StepLoads stored context.journal
      (applySandboxPostAccounting context gas usage accesses reservation gasUsed) (·.1.journal) :=
  rejectIfTxLimitOverflow_loads _ _

/-- Accounting leaves the journal itself alone. -/
theorem applySandboxPostAccounting_journal {context after : MegaContext} {gas left : Gas}
    {reservation gasUsed : Nat}
    (accounted : applySandboxPostAccounting context gas usage accesses reservation gasUsed =
      .ok (after, left)) : after.journal = context.journal := by
  unfold applySandboxPostAccounting rejectIfTxLimitOverflow at accounted
  dsimp only at accounted
  split at accounted
  · cases accounted
  · cases accounted
    rfl

theorem foldl_log (journal : Journal) (logs : List Log) :
    (logs.foldl log journal).view = journal.view ∧
      (logs.foldl log journal).logs = journal.logs ++ logs := by
  induction logs generalizing journal with
  | nil => exact ⟨rfl, (List.append_nil _).symm⟩
  | cons log rest inductionHypothesis =>
    obtain ⟨view, logs⟩ := inductionHypothesis (journal.log log)
    refine ⟨view, logs.trans ?_⟩
    show (journal.logs ++ [log]) ++ rest = _
    rw [List.append_assoc, List.singleton_append]

/-- Reporting a completion is a success that appends its logs, unless the address is not the
computed one. -/
theorem reportCompletion_spec (context : MegaContext) (gas : Gas) (deployAddress : Address)
    (completion : SandboxCompletion)
    (matching : ∀ gasUsed address logs, completion = .deployed gasUsed address logs →
      address = deployAddress) :
    (reportCompletion context gas deployAddress completion).context.journal.view =
        context.journal.view ∧
      (reportCompletion context gas deployAddress completion).context.journal.logs =
        context.journal.logs ++ completion.logs ∧
      ∀ result, (reportCompletion context gas deployAddress completion).result = some result →
        result.result.isOk = true := by
  cases completion with
  | deployed gasUsed address logs =>
    obtain rfl := matching gasUsed address logs rfl
    obtain ⟨view, appended⟩ := foldl_log context.journal logs
    simp only [reportCompletion, ne_eq, not_true_eq_false, if_false]
    exact ⟨view, appended, fun _ ended => Option.some.inj ended ▸ rfl⟩
  | emptyCode gasUsed logs =>
    obtain ⟨view, appended⟩ := foldl_log context.journal logs
    exact ⟨view, appended, fun _ ended => Option.some.inj ended ▸ rfl⟩
  | executionFailed =>
    exact ⟨rfl, (List.append_nil _).symm, fun _ ended => Option.some.inj ended ▸ rfl⟩

/-- The run of the prepared sandbox. -/
def Prepared.transacted (transact : Transact) (prepared : Prepared) :
    Except Bool (ExecutionResult × EvmState) :=
  (transact prepared.context prepared.keylessTx prepared.sandboxTx prepared.limits).transacted

/-- A create of the caller in the sandbox yields the address derived from nonce zero. -/
def CreatesAtNonceZero (env : KeylessEnv) (transact : Transact) : Prop :=
  ∀ context keylessTx tx limits gasUsed bytecode address logs state,
    (transact context keylessTx tx limits).transacted =
      .ok (.success gasUsed (.create bytecode (some address)) logs, state) →
    address = env.createAddress tx.caller 0

/-- The call merged this state of the sandbox and appended its logs. -/
def KeylessExit.Merges (journal : Journal) (execution : ExecutionResult) (state : EvmState)
    (exit : KeylessExit) : Prop :=
  exit.context.journal.view = journal.mergedView state.entries ∧
    exit.context.journal.logs = journal.logs ++ execution.logs ∧
    ∀ result, exit.result = some result → result.result.isOk = true

/-- From where the sandbox runs, the call either refuses or merges what the engine gave. -/
theorem finishKeylessDeploy_spec {env : KeylessEnv} {transact : Transact}
    (creates : CreatesAtNonceZero env transact) (prepared : Prepared)
    (caller : prepared.sandboxTx.caller = prepared.signer)
    (sound : ∀ execution state, prepared.transacted transact = .ok (execution, state) →
      prepared.context.journal.MergesSoundly stored state.entries) :
    (finishKeylessDeploy env transact prepared).Refuses stored prepared.context.journal ∨
      ∃ execution state, prepared.transacted transact = .ok (execution, state) ∧
        (finishKeylessDeploy env transact prepared).Merges prepared.context.journal execution
          state := by
  obtain ⟨queries, queried⟩ := executeKeylessDeploySandbox_journal transact prepared.context
    prepared.keylessTx prepared.sandboxTx prepared.limits
  unfold finishKeylessDeploy
  generalize executed : executeKeylessDeploySandbox transact prepared.context prepared.keylessTx
    prepared.sandboxTx prepared.limits = outcome at queried ⊢
  obtain ⟨context, outcome⟩ := outcome
  have loads : prepared.context.journal.OnlyLoads stored context.journal :=
    queried ▸ Journal.OnlyLoads.queries _ _
  cases outcome with
  | rejected error => exact Or.inl ((makeError_refuses context _ _).after loads)
  | completed state completion usage accesses =>
    dsimp only
    have accounting := @applySandboxPostAccounting_loads stored context prepared.gas usage accesses
      prepared.reservation completion.gasUsed
    generalize accountedIs : applySandboxPostAccounting context prepared.gas usage accesses
      prepared.reservation completion.gasUsed = accounted at accounting ⊢
    cases accounted with
    | error exit => exact Or.inl (accounting.after loads)
    | ok value =>
      obtain ⟨accounted, gas⟩ := value
      have journalIs : accounted.journal = { prepared.context.journal with queries } :=
        (applySandboxPostAccounting_journal accountedIs).trans queried
      obtain ⟨execution, transacted, logs, deployed⟩ :=
        processSandboxTransactResult_completed (executeKeylessDeploySandbox_completed executed)
      dsimp only
      generalize mergedIs : accounted.journal.applySandboxStateJournaled state = merged
      obtain ⟨journal, success⟩ := merged
      cases success with
      | false =>
        refine Or.inl ((makeError_refuses { accounted with journal } _ _).after ?_)
        have accountedSound : accounted.journal.MergesSoundly stored state.entries :=
          journalIs ▸ sound _ _ transacted
        have accountedLoads : prepared.context.journal.OnlyLoads stored accounted.journal :=
          journalIs ▸ Journal.OnlyLoads.queries _ _
        exact accountedLoads.trans (applySandboxStateJournaled_failed accountedSound mergedIs)
      | true =>
        refine Or.inr ⟨execution, state, transacted, ?_⟩
        obtain ⟨view, mergeLogs⟩ := applySandboxStateJournaled_merged mergedIs
        obtain ⟨reportView, reportLogs, ok⟩ := reportCompletion_spec { accounted with journal } gas
          (env.calculateKeylessDeployAddress prepared.signer) completion
          (fun gasUsed address logs same => by
            obtain ⟨bytecode, rfl⟩ := deployed gasUsed address logs same
            rw [creates _ _ _ _ _ _ _ _ _ transacted, caller]
            rfl)
        refine ⟨reportView.trans (view.trans ?_), reportLogs.trans ?_, ok⟩
        · rw [journalIs]
          rfl
        · rw [logs, show journal.logs = _ from mergeLogs, journalIs]

end Exits

/-! ### What was settled -/

/-- The steps that were passed when a deploy is prepared. -/
structure Settles (env : KeylessEnv) (context : MegaContext) (inputs : CallInputs)
    (txBytes : List Nat) (gasLimitOverride : U256) (prepared : Prepared) : Prop where
  steps : ∃ charged gas request signed left,
    chargeOverhead context inputs = .ok (charged, gas) ∧
    validateRequest env charged inputs txBytes gasLimitOverride = .ok request ∧
    checkSigner env charged gas request.signer = .ok (signed, left) ∧
    checkOccupancy signed left (env.calculateKeylessDeployAddress request.signer) =
      .ok prepared.context ∧
    prepared.keylessTx = request.tx ∧ prepared.signer = request.signer ∧
    prepared.reservation = min request.gasLimitOverride left.remaining ∧
    request.tx.gasLimit ≤ prepared.reservation ∧
    prepared.gas = (left.recordCost prepared.reservation).getD left
  tx : prepared.sandboxTx =
    env.buildFeeFreeSandboxDepositTx prepared.signer prepared.keylessTx prepared.reservation
  limits : prepared.limits = sandboxRuntimeLimits prepared.context
  fits : sandboxIntrinsicOverflowError prepared.context.spec prepared.sandboxTx prepared.limits =
    none

variable {context : MegaContext} {env : KeylessEnv} {inputs : CallInputs} {txBytes : List Nat}
  {gasLimitOverride : U256}

theorem prepareKeylessDeploy_settles {prepared : Prepared}
    (settled : prepareKeylessDeploy env context inputs txBytes gasLimitOverride = .ok prepared) :
    Settles env context inputs txBytes gasLimitOverride prepared := by
  obtain ⟨⟨charged, gas⟩, overhead, settled⟩ := bind_eq_ok settled
  dsimp only at settled
  split at settled
  · cases settled
  next request validated =>
  obtain ⟨⟨signed, left⟩, signer, settled⟩ := bind_eq_ok settled
  split at settled
  · cases settled
  next covers =>
  obtain ⟨vacant, occupancy, settled⟩ := bind_eq_ok settled
  split at settled
  · cases settled
  next fits =>
  cases settled
  exact ⟨⟨charged, gas, request, signed, left, overhead, validated, signer, occupancy, rfl, rfl,
    rfl, Nat.le_of_not_lt covers, rfl⟩, rfl, rfl, fits⟩

/-! ### All or nothing -/

theorem Journal.OnlyLoads.view_eq {before after : Journal}
    (loads : before.OnlyLoads before.database.unloaded after) : after.view = before.view := by
  unfold Journal.view
  rw [loads.database]
  exact loads.view

variable {transact : Transact}

/-- The values the sandbox loaded its slots with. -/
def EvmState.originals (state : EvmState) (address : Address) : Unloaded :=
  fun _ key =>
    (((state.lookup address).bind (·.storage.lookup key)).map EvmStorageSlot.originalValue).getD 0

/-- Over the values the sandbox loaded, undoing its merge is always sound. -/
theorem EvmState.mergesSoundly_originals (state : EvmState) (journal : Journal) :
    journal.MergesSoundly state.originals state.entries := by
  rintro ⟨address, account⟩ member
  have found : state.lookup address = some account := AList.mem_lookup_iff.mpr member
  refine ⟨fun key slot loaded _ => ?_, fun _ _ _ _ => rfl⟩
  unfold EvmState.originals
  rw [found, Option.bind_some, loaded]
  rfl

/-- Whatever the engine gives, its merge is soundly undone over some values of unloaded slots. -/
theorem exists_mergesSoundly (env : KeylessEnv) (transact : Transact) (context : MegaContext)
    (inputs : CallInputs) (txBytes : List Nat) (gasLimitOverride : U256) :
    ∃ stored, ∀ prepared execution state,
      prepareKeylessDeploy env context inputs txBytes gasLimitOverride = .ok prepared →
      prepared.transacted transact = .ok (execution, state) →
      prepared.context.journal.MergesSoundly stored state.entries := by
  cases prepareKeylessDeploy env context inputs txBytes gasLimitOverride with
  | error exit => exact ⟨fun _ _ _ => 0, fun _ _ _ settled => nomatch settled⟩
  | ok prepared =>
    cases gave : prepared.transacted transact with
    | error invalid =>
      refine ⟨fun _ _ _ => 0, fun other _ _ settled transacted => ?_⟩
      cases settled
      rw [gave] at transacted
      cases transacted
    | ok given =>
      refine ⟨given.2.originals, fun other _ _ settled transacted => ?_⟩
      cases settled
      rw [gave] at transacted
      cases transacted
      exact EvmState.mergesSoundly_originals _ _

section Calls

variable {stored : Address → Unloaded} (creates : CreatesAtNonceZero env transact)
  (sound : ∀ prepared execution state,
    prepareKeylessDeploy env context inputs txBytes gasLimitOverride = .ok prepared →
    prepared.transacted transact = .ok (execution, state) →
    prepared.context.journal.MergesSoundly stored state.entries)

include creates sound

/-- The call either refuses or merges what the engine gave. -/
theorem executeKeylessDeployCall_spec :
    (executeKeylessDeployCall env transact context inputs txBytes gasLimitOverride).Refuses stored
        context.journal ∨
      ∃ prepared execution state,
        prepareKeylessDeploy env context inputs txBytes gasLimitOverride = .ok prepared ∧
        prepared.transacted transact = .ok (execution, state) ∧
        (executeKeylessDeployCall env transact context inputs txBytes gasLimitOverride).Merges
          context.journal execution state := by
  have prepares := fun stored => @prepareKeylessDeploy_loads stored env context inputs txBytes
    gasLimitOverride
  unfold executeKeylessDeployCall
  generalize settled : prepareKeylessDeploy env context inputs txBytes gasLimitOverride = step
    at prepares sound ⊢
  cases step with
  | error exit => exact Or.inl (prepares stored)
  | ok prepared =>
    have loads : ∀ stored, context.journal.OnlyLoads stored prepared.context.journal := prepares
    have caller : prepared.sandboxTx.caller = prepared.signer := by
      rw [(prepareKeylessDeploy_settles settled).tx]
      rfl
    rcases finishKeylessDeploy_spec creates prepared caller
      (fun execution state => sound prepared execution state rfl) with refuses | merges
    · exact Or.inl (refuses.after (loads stored))
    · obtain ⟨execution, state, transacted, view, logs, ok⟩ := merges
      refine Or.inr ⟨prepared, execution, state, rfl, transacted, ?_, ?_, ok⟩
      · rw [view, mergedView, (loads _).view_eq]
        rfl
      · rw [logs, (loads stored).logs]

/-- A call that ends without success only loads. -/
theorem executeKeylessDeployCall_refused {result : KeylessResult}
    (returned : (executeKeylessDeployCall env transact context inputs txBytes
      gasLimitOverride).result = some result) (failed : result.result.isOk = false) :
    context.journal.OnlyLoads stored
      (executeKeylessDeployCall env transact context inputs txBytes
        gasLimitOverride).context.journal := by
  rcases executeKeylessDeployCall_spec creates sound with refuses | merges
  · exact refuses.1
  · obtain ⟨_, _, _, _, _, _, _, ok⟩ := merges
    rw [ok result returned] at failed
    cases failed

end Calls

/-- The engine runs a sandbox transaction over the database it is given: it loads a slot with the
value that database has, or as zero in an account the sandbox created. -/
def LoadsFromSandboxDb (transact : Transact) : Prop :=
  ∀ context keylessTx tx limits result state,
    (transact context keylessTx tx limits).transacted = .ok (result, state) →
    ∀ address account, state.lookup address = some account →
    ∀ key slot, account.storage.lookup key = some slot →
      slot.originalValue =
        if account.status.created then 0
        else SandboxDb.storage { journal := context.journal, nonceOverride := tx.caller }
          address key

/-- The database has no storage under an account that the transaction created, or that has neither
nonce nor code. -/
def Journal.NoOrphanStorage (journal : Journal) : Prop :=
  ∀ address,
    (journal.view address).created = true ∨
      (journal.view address).nonce = 0 ∧ (journal.view address).codeHash = keccakEmpty →
    ∀ key, journal.database.storage address key = 0

theorem Journal.NoOrphanStorage.onlyLoads {before after : Journal} (backed : before.NoOrphanStorage)
    (loads : before.OnlyLoads before.database.unloaded after) : after.NoOrphanStorage := by
  intro address barren key
  rw [loads.view_eq] at barren
  rw [loads.database]
  exact backed address barren key

/-- The database of the sandbox asks the parent's for a slot that the parent has not loaded. -/
theorem SandboxDb.storage_of_unloaded (database : SandboxDb) {address : Address} {key : U256}
    (unloaded : (database.journal.account address).storage.lookup key = none) :
    database.storage address key = database.journal.database.storage address key := by
  have absent : (database.journal.state address).bind (·.storage.lookup key) = none := by
    unfold account at unloaded
    cases resident : database.journal.state address with
    | none => rfl
    | some parent =>
      rw [resident] at unloaded
      exact unloaded
  unfold SandboxDb.storage
  rw [absent]

/-- With no orphan storage, undoing the merge is sound over the database as well. -/
theorem LoadsFromSandboxDb.mergesSoundly (loadsFrom : LoadsFromSandboxDb transact)
    {keylessTx : KeylessTx} {tx : MegaTransaction} {limits : EvmTxRuntimeLimits}
    {result : ExecutionResult} {state : EvmState}
    (transacted : (transact context keylessTx tx limits).transacted = .ok (result, state))
    (backed : context.journal.NoOrphanStorage) :
    context.journal.MergesSoundly context.journal.database.unloaded state.entries := by
  rintro ⟨address, account⟩ member
  have found : state.lookup address = some account := AList.mem_lookup_iff.mpr member
  refine ⟨fun key slot loaded unloaded => ?_, fun _ fresh noCode key => ?_⟩
  · rw [loadsFrom _ _ _ _ _ _ transacted address account found key slot loaded,
      SandboxDb.storage_of_unloaded _ unloaded]
    unfold Database.unloaded
    cases created : (context.journal.account address).status.created with
    | false => rfl
    | true =>
      rw [backed address (Or.inl created) key]
      exact ite_self 0
  · exact (backed address (Or.inr ⟨fresh, noCode⟩) key).symm

/-- A keyless deploy is all or nothing. A call that ends as a revert or a halt leaves everything as
it was but for cold entries of the cache, and over a database without orphan storage these read what
was there before; a call that ends as a success has merged the state of its sandbox and appended its
logs. -/
theorem executeKeylessDeployCall_allOrNothing (env : KeylessEnv) (transact : Transact)
    (creates : CreatesAtNonceZero env transact) (context : MegaContext) (inputs : CallInputs)
    (txBytes : List Nat) (gasLimitOverride : U256) (exit : KeylessExit) (result : KeylessResult)
    (called : executeKeylessDeployCall env transact context inputs txBytes gasLimitOverride = exit)
    (returned : exit.result = some result) :
    (result.result.isOk = false →
      context.journal.Kept exit.context.journal ∧
        (LoadsFromSandboxDb transact → context.journal.NoOrphanStorage →
          exit.context.journal.view = context.journal.view)) ∧
    (result.result.isOk = true →
      ∃ prepared execution state,
        prepareKeylessDeploy env context inputs txBytes gasLimitOverride = .ok prepared ∧
        prepared.transacted transact = .ok (execution, state) ∧
        exit.context.journal.view = context.journal.mergedView state.entries ∧
        exit.context.journal.logs = context.journal.logs ++ execution.logs) := by
  subst called
  obtain ⟨stored, sound⟩ :=
    exists_mergesSoundly env transact context inputs txBytes gasLimitOverride
  refine ⟨fun failed => ⟨?_, fun loadsFrom backed => ?_⟩, fun succeeded => ?_⟩
  · exact (executeKeylessDeployCall_refused creates sound returned failed).kept
  · refine (executeKeylessDeployCall_refused creates ?_ returned failed).view_eq
    intro prepared execution state settled transacted
    have loads := @prepareKeylessDeploy_loads context.journal.database.unloaded env context inputs
      txBytes gasLimitOverride
    rw [settled] at loads
    have soundly := loadsFrom.mergesSoundly transacted (backed.onlyLoads loads)
    rw [Journal.OnlyLoads.database loads] at soundly
    exact soundly
  · rcases executeKeylessDeployCall_spec creates sound with refuses | merges
    · rw [refuses.2 result returned] at succeeded
      cases succeeded
    · obtain ⟨prepared, execution, state, settled, transacted, view, logs, -⟩ := merges
      exact ⟨prepared, execution, state, settled, transacted, view, logs⟩

/-- Every request decodes to one creation, signed by account 7. -/
def relayedEnv : KeylessEnv where
  rlpDecodeSigned _ := some
    ({ isCreate := true, chainId := none, nonce := 0, gasLimit := 60000, value := 0, input := [1],
       signature := 0 }, [])
  recover _ := some 7
  createAddress creator nonce := 100 * creator + nonce
  initialTxGas _ := 53000
  newAccountGas _ := some 0

/-- An engine that deploys one byte of code with one slot set and one log. -/
def deployingEngine : Transact := fun _ _ tx _ =>
  let signer := { Account.ofInfo { AccountInfo.default with nonce := 1 } with
    status := { AccountStatus.loaded with touched := true } }
  let contract : Account :=
    { info := { balance := 0, nonce := 1, codeHash := 5, code := some (.legacy [1]) }
      status := { AccountStatus.loaded with created := true, createdLocal := true, touched := true }
      storage := AList.singleton 3 { originalValue := 0, presentValue := 9, isCold := false } }
  { transacted := .ok
      (.success 58000 (.create [1] (some (relayedEnv.createAddress tx.caller 0)))
        [{ address := relayedEnv.createAddress tx.caller 0, topics := [], data := [2] }],
       (AList.singleton tx.caller signer).insert (relayedEnv.createAddress tx.caller 0) contract)
    limitUsage := { dataSize := 0, kvUpdates := 2, computeGas := 58000, stateGrowth := 1 }
    volatileAccesses := 0
    queries := 2 }

/-- A transaction over an empty database that has done nothing yet. -/
def emptyParent : MegaContext where
  spec := .rex5
  maxInitcodeSize := 49152
  disableEip3607 := false
  beneficiary := 1
  journal := .new .empty
  additionalLimit := .new .rex5
    { txDataSizeLimit := 1000000, txKvUpdatesLimit := 1000, txComputeGasLimit := 10000000,
      txStateGrowthLimit := 100, blockEnvAccessComputeGasLimit := 20000000,
      oracleAccessComputeGasLimit := 20000000 }
  volatileAccesses := 0

/-- A call that relays the creation. -/
def relayingCall : CallInputs :=
  { caller := 20, targetAddress := 21, value := .transfer 0, scheme := .call, gasLimit := 1000000 }

theorem createsAtNonceZero_deployingEngine : CreatesAtNonceZero relayedEnv deployingEngine := by
  intro context keylessTx tx limits gasUsed bytecode address logs state transacted
  cases transacted
  rfl

theorem executeKeylessDeployCall_relayed :
    ∃ prepared execution state,
      prepareKeylessDeploy relayedEnv emptyParent relayingCall [] 100000 = .ok prepared ∧
      prepared.transacted deployingEngine = .ok (execution, state) ∧
      (executeKeylessDeployCall relayedEnv deployingEngine emptyParent relayingCall []
        100000).context.journal.view = emptyParent.journal.mergedView state.entries ∧
      (executeKeylessDeployCall relayedEnv deployingEngine emptyParent relayingCall []
        100000).context.journal.logs = emptyParent.journal.logs ++ execution.logs :=
  (executeKeylessDeployCall_allOrNothing relayedEnv deployingEngine
    createsAtNonceZero_deployingEngine emptyParent relayingCall [] 100000 _
    { result := .returned, output := .returned 58000 700 none,
      gas := { limit := 1000000, remaining := 842000 } } rfl (by decide)).2 rfl

end MegaEvm
