/-
This file settles when a keyless deploy consumes the nonce of its signer, which is what
keeps the signed transaction from being replayed. The engine takes the nonce when it
makes the create frame. A limit that stops the frame before that leaves the nonce at
zero in the sandbox, but the run still counts as completed: the call then succeeds with
the signer's nonce at zero, or, when the parent holds nonce one already, fails in the
merge. In every other case the nonce is taken.
-/

import MegaEvm.Sandbox.Atomicity
import MegaEvm.Sandbox.Transact

namespace MegaEvm

open Journal Prepared SandboxDb Merging

/-! ### Merging accounts that did not change -/

/-- The sandbox account was neither created nor destroyed and has the nonce and the code of the
parent's. -/
structure Copies (parent sandbox : Account) : Prop where
  alive : sandbox.status.selfDestructed = false
  notCreated : sandbox.status.created = false
  nonce : sandbox.info.nonce = parent.info.nonce
  codeHash : sandbox.info.codeHash = parent.info.codeHash

theorem Copies.setCode {parent sandbox : Account} (copies : Copies parent sandbox)
    (code : Option Bytecode) : Copies (parent.setCode parent.info.codeHash code) sandbox :=
  ⟨copies.alive, copies.notCreated, copies.nonce, copies.codeHash⟩

theorem Merging.mergeCode_isSome_of_same (merging : Merging) (sandbox : Account)
    (same : sandbox.info.codeHash = merging.account.info.codeHash) :
    (merging.mergeCode sandbox).isSome = true := by
  unfold mergeCode
  rw [if_pos same]
  split <;> rfl

/-- Such an account always merges. -/
theorem mergeSandboxAccount_copy {parent sandbox : Account} (copies : Copies parent sandbox) :
    (mergeSandboxAccount sandbox parent).2 = true := by
  have merges := mergeCode_isSome_of_same
    (((prepared sandbox parent).mergeBalance sandbox).mergeNonce sandbox) sandbox (by
      rw [codeHash_mergeNonce, codeHash_mergeBalance, prepared_info]
      exact copies.codeHash)
  obtain ⟨coded, merged⟩ := Option.isSome_iff_exists.mp merges
  unfold mergeSandboxAccount
  rw [if_neg (by rw [copies.alive]; exact Bool.false_ne_true),
    if_neg (by rw [copies.notCreated]; exact Bool.false_ne_true)]
  dsimp only
  rw [if_neg (copies.nonce ▸ Nat.lt_irrefl _), merged]

namespace Journal

/-- Inspect accounts one after the other, as a merge does. -/
def inspectAll (journal : Journal) : List Address → Option Journal
  | [] => some journal
  | address :: rest =>
    match journal.inspectAccount address false with
    | (_, none) => none
    | (inspected, some _) => inspected.inspectAll rest

/-- Two journals that read these accounts alike. -/
structure ReadsAlike (addresses : List Address) (first second : Journal) : Prop where
  database : first.database = second.database
  queries : first.queries = second.queries
  state : ∀ address ∈ addresses, first.state address = second.state address

theorem ReadsAlike.refl (addresses : List Address) (journal : Journal) :
    ReadsAlike addresses journal journal :=
  ⟨rfl, rfl, fun _ _ => rfl⟩

/-- Hydrating an account depends on nothing but the database and the queries made so far. -/
theorem hydrate_alike {first second : Journal} (database : first.database = second.database)
    (queries : first.queries = second.queries) (account : Account) :
    ∃ asked found,
      first.hydrate account = ({ first with queries := asked }, found) ∧
      second.hydrate account = ({ second with queries := asked }, found) := by
  obtain ⟨database', _, _, _, asked⟩ := first
  obtain ⟨_, _, _, _, _⟩ := second
  subst database queries
  unfold hydrate query
  split
  · cases database'.failing asked with
    | true => exact ⟨asked + 1, none, rfl, rfl⟩
    | false => exact ⟨asked + 1, _, rfl, rfl⟩
  · exact ⟨asked, _, rfl, rfl⟩

/-- An inspection depends on nothing else but the account, if it is loaded. -/
theorem inspectAccount_alike {address : Address} {first second : Journal} (loadCode : Bool)
    (database : first.database = second.database) (queries : first.queries = second.queries)
    (state : first.state address = second.state address) :
    ∃ asked found,
      first.inspectAccount address loadCode =
        keep address ({ first with queries := asked }, found) ∧
      second.inspectAccount address loadCode =
        keep address ({ second with queries := asked }, found) := by
  obtain ⟨database', firstState, entries, logs, asked⟩ := first
  obtain ⟨_, secondState, entries', logs', _⟩ := second
  subst database queries
  dsimp only at state
  unfold inspectAccount
  dsimp only
  rw [state]
  cases secondState address with
  | some account =>
    obtain ⟨asked', found, firstHydrated, secondHydrated⟩ :=
      @hydrate_alike ⟨database', firstState, entries, logs, asked⟩
        ⟨database', secondState, entries', logs', asked⟩ rfl rfl account
    refine ⟨asked', found, ?_, ?_⟩
    · exact congrArg (keep address) firstHydrated
    · exact congrArg (keep address) secondHydrated
  | none =>
    unfold query
    cases database'.failing asked with
    | true => exact ⟨asked + 1, none, rfl, rfl⟩
    | false =>
      cases loadCode with
      | false => exact ⟨asked + 1, _, rfl, rfl⟩
      | true =>
        obtain ⟨asked', found, firstHydrated, secondHydrated⟩ :=
          @hydrate_alike ⟨database', firstState, entries, logs, asked + 1⟩
            ⟨database', secondState, entries', logs', asked + 1⟩ rfl rfl
            (database'.account address)
        refine ⟨asked', found, ?_, ?_⟩
        · exact congrArg (keep address) firstHydrated
        · exact congrArg (keep address) secondHydrated

/-- Merging accounts that did not change goes as far as the reads are answered. What is merged
after them is read as if they had only been inspected. -/
theorem applySandboxAccounts_copies (accounts : List (Sigma fun _ : Address => Account))
    (later : List Address) (nodup : (accounts.keys ++ later).Nodup) {merged inspected : Journal}
    (alike : ReadsAlike (accounts.keys ++ later) merged inspected)
    (copies : ∀ entry ∈ accounts, Copies (inspected.account entry.1) entry.2) :
    match inspected.inspectAll accounts.keys with
    | none => (merged.applySandboxAccounts accounts).2 = false
    | some last =>
      ∃ final, merged.applySandboxAccounts accounts = (final, true) ∧
        ReadsAlike later final last := by
  induction accounts generalizing merged inspected with
  | nil => exact ⟨merged, rfl, alike⟩
  | cons entry rest inductionHypothesis =>
    obtain ⟨address, sandbox⟩ := entry
    obtain ⟨absent, nodupRest⟩ := List.nodup_cons.mp nodup
    obtain ⟨asked, found, mergedInspects, inspects⟩ := inspectAccount_alike false alike.database
      alike.queries (alike.state address List.mem_cons_self)
    have loaded := (inspected.inspectAccount_inspected (fun _ _ _ => 0) address false).loaded
    rw [inspects] at loaded
    unfold applySandboxAccounts
    rw [List.keys_cons, inspectAll, mergedInspects, inspects]
    cases found with
    | none => rfl
    | some parent =>
      obtain ⟨-, code, parentIs⟩ := loaded parent rfl
      have merges := mergeSandboxAccount_copy
        (parentIs ▸ (copies _ List.mem_cons_self).setCode code : Copies parent sandbox)
      dsimp only [keep]
      generalize mergeSandboxAccount sandbox parent = merging at merges ⊢
      obtain ⟨merging, success⟩ := merging
      cases merges
      have others : ∀ other ∈ List.keys rest ++ later, other ≠ address :=
        fun other member same => absent (same ▸ member)
      refine inductionHypothesis nodupRest ⟨alike.database, rfl, fun other member => ?_⟩
        (fun entry member => ?_)
      · show Function.update (Function.update merged.state address _) address _ other =
          Function.update inspected.state address _ other
        rw [Function.update_of_ne (others other member),
          Function.update_of_ne (others other member), Function.update_of_ne (others other member)]
        exact alike.state other (List.mem_cons_of_mem _ member)
      · have keyed := List.mem_keys_of_mem member
        have distinct := others entry.1 (List.mem_append_left _ keyed)
        have same := account_setAccount_other { inspected with queries := asked } parent distinct
        exact same.symm ▸ copies entry (List.mem_cons_of_mem _ member)

end Journal

/-! ### The state of a sandbox without constructor -/

theorem dlookup_map_entry (load : Address → Account) (addresses : List Address)
    (address : Address) :
    (addresses.map fun address =>
        (⟨address, load address⟩ : Sigma fun _ : Address => Account)).dlookup address =
      if address ∈ addresses then some (load address) else none := by
  induction addresses with
  | nil => rfl
  | cons first rest inductionHypothesis =>
    rw [List.map_cons]
    by_cases same : address = first
    · subst same
      rw [List.dlookup_cons_eq, if_pos List.mem_cons_self]
    · rw [List.dlookup_cons_ne _ _ same, inductionHypothesis]
      simp only [List.mem_cons, same, false_or]

namespace SandboxDb

variable (database : SandboxDb) (caller : Account) (before after : List Address)

theorem lookup_loadedState_caller :
    (database.loadedState caller before after).lookup database.nonceOverride = some caller := by
  have absent : database.nonceOverride ∉ before.filter (· ≠ database.nonceOverride) :=
    fun member => of_decide_eq_true (List.mem_filter.mp member).2 rfl
  unfold loadedState
  rw [AList.lookup_to_alist, List.dlookup_append, dlookup_map_entry, if_neg absent,
    List.dlookup_cons_eq]
  rfl

/-- Every other account is as the sandbox loaded it. -/
theorem lookup_loadedState_other {address : Address} {account : Account}
    (distinct : address ≠ database.nonceOverride)
    (found : (database.loadedState caller before after).lookup address = some account) :
    account = database.load address := by
  unfold loadedState at found
  rw [AList.lookup_to_alist, List.dlookup_append, dlookup_map_entry,
    List.dlookup_cons_ne _ _ distinct, dlookup_map_entry] at found
  split at found
  · exact (Option.some.inj found).symm
  · rw [Option.none_or] at found
    split at found
    · exact (Option.some.inj found).symm
    · cases found

end SandboxDb

/-! ### The barrier -/

/-- The journal and the state a prepared deploy merges, if it comes to that. -/
def Prepared.merging (transact : Transact) (prepared : Prepared) : Option (Journal × EvmState) :=
  match executeKeylessDeploySandbox transact prepared.context prepared.keylessTx
      prepared.sandboxTx prepared.limits with
  | (_, .rejected _) => none
  | (context, .completed state completion usage volatileAccesses) =>
    match applySandboxPostAccounting context prepared.gas usage volatileAccesses
        prepared.reservation completion.gasUsed with
    | .error _ => none
    | .ok (accounted, _) => some (accounted.journal, state)

/-- The merge stops at an account because its nonce in the sandbox is below the parent's. -/
def Journal.StopsAtNonce (journal : Journal) (accounts : List (Sigma fun _ : Address => Account))
    (address : Address) : Prop :=
  ∃ before sandbox after merged inspected parent,
    accounts = before ++ ⟨address, sandbox⟩ :: after ∧
    journal.applySandboxAccounts before = (merged, true) ∧
    merged.inspectAccount address false = (inspected, some parent) ∧
    sandbox.status.selfDestructed = false ∧
    (sandbox.status.created && !ensureSandboxCreateCanMerge parent) = false ∧
    sandbox.info.nonce < parent.info.nonce

/-- The replay barrier holds for a deploy that was prepared like this and ended like that: if it
succeeded, it left the signer with a nonce, and its merge did not stop at the signer's nonce. -/
def KeepsBarrier (env : KeylessEnv) (engine : SandboxEngine) (prepared : Prepared)
    (exit : KeylessExit) : Prop :=
  (∀ result, exit.result = some result → result.result.isOk = true →
    1 ≤ (exit.context.journal.view prepared.signer).nonce) ∧
  ∀ journal state, prepared.merging (sandboxTransact env engine) = some (journal, state) →
    ¬ journal.StopsAtNonce state.entries prepared.signer

/-- The limits left for the sandbox stop its create frame before the engine makes it. -/
def Prepared.createRefused (env : KeylessEnv) (engine : SandboxEngine) (prepared : Prepared) :
    Bool :=
  match sandboxStage env engine prepared.context prepared.keylessTx prepared.sandboxTx
      prepared.limits with
  | .refused _ _ => true
  | _ => false

/-- The call comes to merge the signer: the parent's limits take the usage of the sandbox, and the
database answers the reads of the merge, of all accounts or, when the signer's nonce stops it, of
those up to the signer. -/
def Prepared.MergesSigner (env : KeylessEnv) (engine : SandboxEngine) (prepared : Prepared) :
    Prop :=
  ∃ journal state before after,
    prepared.merging (sandboxTransact env engine) = some (journal, state) ∧
    state.entries.keys = before ++ prepared.signer :: after ∧
    (journal.inspectAll
      (if (journal.account prepared.signer).info.nonce = 0 then state.entries.keys
       else before ++ [prepared.signer])).isSome = true

/-- What the run of a constructor keeps of its caller: nonces never go down, and an account with a
nonce is not one that the transaction created, so it is not destroyed. -/
def SandboxEngine.KeepsCaller (engine : SandboxEngine) : Prop :=
  ∀ context keylessTx tx limit caller result state, caller.status.selfDestructed = false →
    (engine.construct context keylessTx tx limit caller).transacted = .ok (result, state) →
    ∃ account, state.lookup tx.caller = some account ∧
      caller.info.nonce ≤ account.info.nonce ∧ account.status.selfDestructed = false

/-! ### What the call does around the merge -/

theorem reportCompletion_view (context : MegaContext) (gas : Gas) (deployAddress : Address)
    (completion : SandboxCompletion) :
    (reportCompletion context gas deployAddress completion).context.journal.view =
      context.journal.view := by
  cases completion with
  | deployed gasUsed address logs =>
    unfold reportCompletion
    dsimp only
    split
    · rfl
    · exact (foldl_log context.journal logs).1
  | emptyCode gasUsed logs => exact (foldl_log context.journal logs).1
  | executionFailed => rfl

variable {state : EvmState}

/-- A completed run that was no success is reported as failed. -/
theorem processSandboxTransactResult_failed {spec : MegaSpecId} {run : SandboxRun}
    {given : EvmState} {completion : SandboxCompletion} {usage : LimitUsage} {accesses : Nat}
    {execution : ExecutionResult} (completed : processSandboxTransactResult spec run =
      .completed state completion usage accesses)
    (transacted : run.transacted = .ok (execution, given))
    (failed : ∀ gasUsed output logs, execution ≠ .success gasUsed output logs) :
    ∃ gasUsed error, completion = .executionFailed gasUsed error := by
  unfold processSandboxTransactResult at completed
  rw [transacted] at completed
  cases execution with
  | success gasUsed output logs => exact absurd rfl (failed gasUsed output logs)
  | revert =>
    cases completed
    exact ⟨_, _, rfl⟩
  | halt gasUsed reason =>
    cases reason with
    | failedDeposit => cases completed
    | _ =>
      cases completed
      exact ⟨_, _, rfl⟩

variable {context : MegaContext} {transact : Transact}

/-- A sandbox that ran was run by a signer who can pay the value. -/
theorem executeKeylessDeploySandbox_paid {after : MegaContext} {keylessTx : KeylessTx}
    {tx : MegaTransaction} {limits : EvmTxRuntimeLimits} {completion : SandboxCompletion}
    {usage : LimitUsage} {accesses : Nat}
    (completed : executeKeylessDeploySandbox transact context keylessTx tx limits =
      (after, .completed state completion usage accesses)) :
    tx.value ≤
      (SandboxDb.info { journal := context.journal, nonceOverride := tx.caller }
        tx.caller).balance := by
  unfold executeKeylessDeploySandbox at completed
  dsimp only at completed
  split at completed
  · cases completed
  next info found =>
  split at completed
  · cases completed
  next paid =>
  have same : (SandboxDb.info { journal := context.journal, nonceOverride := tx.caller }
      tx.caller).balance = (info.getD .default).balance := by
    unfold SandboxDb.basic at found
    unfold SandboxDb.info
    dsimp only at found ⊢
    rw [if_pos rfl]
    cases resident : context.journal.state tx.caller with
    | some account =>
      rw [resident] at found
      cases found
      rw [if_pos rfl]
      rfl
    | none =>
      rw [resident] at found
      unfold query at found
      dsimp only at found
      cases failing : context.journal.database.failing context.journal.queries with
      | true =>
        rw [failing] at found
        cases found
      | false =>
        rw [failing] at found
        cases found
        cases context.journal.database.basic tx.caller with
        | none => rfl
        | some info =>
          rw [Option.map_some, if_pos rfl]
          rfl
  rw [same]
  exact Nat.le_of_not_lt paid

variable {prepared : Prepared} {journal : Journal}

/-- A merge is reached with the journal of the prepared context, over the state of the sandbox, and
only if the signer can pay the value. -/
theorem Prepared.merging_some (reached : prepared.merging transact = some (journal, state)) :
    (∃ queries, journal = { prepared.context.journal with queries }) ∧
      (∃ execution, prepared.transacted transact = .ok (execution, state) ∧
        ∀ gasUsed, execution ≠ .halt gasUsed .failedDeposit) ∧
      prepared.sandboxTx.value ≤ (SandboxDb.info
        { journal := prepared.context.journal, nonceOverride := prepared.sandboxTx.caller }
        prepared.sandboxTx.caller).balance := by
  unfold merging at reached
  generalize executed : executeKeylessDeploySandbox transact prepared.context prepared.keylessTx
    prepared.sandboxTx prepared.limits = outcome at reached
  obtain ⟨queries, queried⟩ := executeKeylessDeploySandbox_journal transact prepared.context
    prepared.keylessTx prepared.sandboxTx prepared.limits
  obtain ⟨context, outcome⟩ := outcome
  cases outcome with
  | rejected error => cases reached
  | completed =>
    dsimp only at reached
    split at reached
    · cases reached
    · next accounted gas accountedIs =>
      cases reached
      have processed := executeKeylessDeploySandbox_completed executed
      obtain ⟨execution, transacted, -⟩ := processSandboxTransactResult_completed processed
      refine ⟨⟨queries, ?_⟩, ⟨execution, transacted, ?_⟩, executeKeylessDeploySandbox_paid executed⟩
      · rw [applySandboxPostAccounting_journal accountedIs, ← queried, executed]
      · rintro gasUsed rfl
        unfold processSandboxTransactResult at processed
        rw [transacted] at processed
        cases processed

/-- A deploy that does not come to a merge, or whose merge fails, is not a success. -/
theorem finishKeylessDeploy_merging (env : KeylessEnv) (transact : Transact) (prepared : Prepared) :
    match prepared.merging transact with
    | none => ∀ result, (finishKeylessDeploy env transact prepared).result = some result →
        result.result.isOk = false
    | some (journal, state) =>
      match journal.applySandboxStateJournaled state with
      | (_, false) => ∀ result, (finishKeylessDeploy env transact prepared).result = some result →
          result.result.isOk = false
      | (merged, true) =>
        (finishKeylessDeploy env transact prepared).context.journal.view = merged.view ∧
          ∀ execution, prepared.transacted transact = .ok (execution, state) →
            (∀ gasUsed output logs, execution ≠ .success gasUsed output logs) →
            ∃ result, (finishKeylessDeploy env transact prepared).result = some result ∧
              result.result.isOk = true := by
  unfold finishKeylessDeploy merging
  generalize executed : executeKeylessDeploySandbox transact prepared.context prepared.keylessTx
    prepared.sandboxTx prepared.limits = outcome
  obtain ⟨context, outcome⟩ := outcome
  cases outcome with
  | rejected error => exact (@makeError_refuses (fun _ _ _ => 0) context _ _).2
  | completed state completion usage accesses =>
    dsimp only
    have accounting := @applySandboxPostAccounting_loads (fun _ _ _ => 0) context prepared.gas usage
      accesses prepared.reservation completion.gasUsed
    generalize applySandboxPostAccounting context prepared.gas usage accesses
      prepared.reservation completion.gasUsed = accounted at accounting ⊢
    cases accounted with
    | error exit => exact accounting.2
    | ok value =>
      obtain ⟨accounted, gas⟩ := value
      dsimp only
      generalize accounted.journal.applySandboxStateJournaled state = merged
      obtain ⟨merged, success⟩ := merged
      cases success with
      | false =>
        exact (@makeError_refuses (fun _ _ _ => 0) { accounted with journal := merged } _ _).2
      | true =>
        refine ⟨reportCompletion_view { accounted with journal := merged } _ _ completion, ?_⟩
        intro execution transacted failed
        obtain ⟨gasUsed, error, rfl⟩ := processSandboxTransactResult_failed
          (executeKeylessDeploySandbox_completed executed) transacted failed
        exact ⟨_, rfl, rfl⟩

/-! ### The nonce in the parent and in the sandbox -/

variable {env : KeylessEnv}

/-- A signer that passes has at most nonce one. -/
theorem checkSigner_nonce {signed : MegaContext} {gas left : Gas} {signer : Address}
    (passed : checkSigner env context gas signer = .ok (signed, left)) :
    (context.journal.account signer).info.nonce ≤ 1 := by
  have loaded := (context.journal.inspectAccount_inspected (fun _ _ _ => 0) signer
    (!context.disableEip3607)).loaded
  unfold checkSigner at passed
  generalize context.journal.inspectAccount signer (!context.disableEip3607) = result
    at loaded passed
  obtain ⟨journal, found⟩ := result
  cases found with
  | none => cases passed
  | some account =>
    obtain ⟨-, code, rfl⟩ := loaded account rfl
    dsimp only at passed
    split at passed
    · cases passed
    · next low => exact Nat.le_of_not_lt low

/-- Loading changes no nonce. -/
theorem Journal.OnlyLoads.nonce {stored : Address → Unloaded} {before after : Journal}
    (loads : before.OnlyLoads stored after) (address : Address) :
    (after.account address).info.nonce = (before.account address).info.nonce :=
  congrArg AccountView.nonce (congrFun loads.view address)

/-- The parent holds at most nonce one for the signer of a prepared deploy. -/
theorem Settles.signer_nonce {inputs : CallInputs} {txBytes : List Nat} {gasLimitOverride : U256}
    (settles : Settles env context inputs txBytes gasLimitOverride prepared) :
    (prepared.context.journal.account prepared.signer).info.nonce ≤ 1 := by
  obtain ⟨charged, gas, request, signed, left, -, -, signerPassed, vacant, -, signer, -⟩ :=
    settles.steps
  have signedLoads := @checkSigner_loads (fun _ _ _ => 0) env charged gas request.signer
  have vacantLoads := @checkOccupancy_loads (fun _ _ _ => 0) signed left
    (env.calculateKeylessDeployAddress request.signer)
  rw [signerPassed] at signedLoads
  rw [vacant] at vacantLoads
  rw [signer, Journal.OnlyLoads.nonce vacantLoads, Journal.OnlyLoads.nonce signedLoads]
  exact checkSigner_nonce signerPassed

theorem SandboxEngine.execution_ne_success (engine : SandboxEngine) (context : MegaContext)
    (tx : MegaTransaction) (limit : AdditionalLimit) (result : FrameResult) (gasUsed : Nat)
    (output : TxOutput) (logs : List Log) :
    engine.execution context tx limit result ≠ .success gasUsed output logs := by
  unfold SandboxEngine.execution
  split
  · exact ExecutionResult.noConfusion
  · exact ExecutionResult.noConfusion

/-- A run that ends without a constructor ends with accounts as they were loaded, and is no
success. -/
theorem SandboxEngine.finish_transacted (engine : SandboxEngine) (context : MegaContext)
    (keylessTx : KeylessTx) (tx : MegaTransaction) (limit : AdditionalLimit) (result : FrameResult)
    (caller : Account) :
    ∃ execution before after,
      (engine.finish context keylessTx tx limit result caller).transacted =
        .ok (execution, loadedState
          { journal := context.journal, nonceOverride := tx.caller } caller before after) ∧
      ∀ gasUsed output logs, execution ≠ .success gasUsed output logs := by
  exact ⟨_, _, _, rfl, engine.execution_ne_success context tx _ _⟩

variable {engine : SandboxEngine}

/-- A frame is only left unpaid when the caller cannot pay the value. -/
theorem sandboxStage_unpaid {keylessTx : KeylessTx} {tx : MegaTransaction}
    {limits : EvmTxRuntimeLimits} {limit : AdditionalLimit} {result : FrameResult}
    (stage : sandboxStage env engine context keylessTx tx limits = .unpaid limit result) :
    (SandboxDb.info { journal := context.journal, nonceOverride := tx.caller } tx.caller).balance <
      tx.value := by
  unfold sandboxStage at stage
  dsimp only at stage
  split at stage
  · cases stage
  · split at stage
    · cases stage
    · cases stage
    · split at stage
      · next unpaid => exact unpaid
      · split at stage <;> cases stage

/-- In a run whose create frame is not refused, the nonce of the signer is taken. -/
theorem Prepared.nonce_taken (keeps : engine.KeepsCaller)
    (reached : prepared.merging (sandboxTransact env engine) = some (journal, state))
    (admitted : prepared.createRefused env engine = false) :
    ∃ account, state.lookup prepared.sandboxTx.caller = some account ∧
      1 ≤ account.info.nonce ∧ account.status.selfDestructed = false := by
  obtain ⟨-, ⟨execution, transacted, notFailed⟩, paid⟩ := merging_some reached
  unfold createRefused at admitted
  unfold Prepared.transacted sandboxTransact at transacted
  generalize stageIs : sandboxStage env engine prepared.context prepared.keylessTx
    prepared.sandboxTx prepared.limits = stage at admitted transacted
  have nonce : (callerOfCreate
      ⟨prepared.context.journal, prepared.sandboxTx.caller⟩).info.nonce = 1 :=
    congrArg (· + 1) (info_nonceOverride _)
  cases stage with
  | invalid limit ofTransaction =>
    cases ofTransaction with
    | false => cases transacted
    | true =>
      cases transacted
      exact absurd rfl (notFailed _)
  | refused => cases admitted
  | unpaid =>
    exact absurd paid (Nat.not_le_of_lt (sandboxStage_unpaid stageIs))
  | collided limit result =>
    obtain ⟨_, before, after, finished, -⟩ := engine.finish_transacted prepared.context
      prepared.keylessTx prepared.sandboxTx limit result
      (callerOfCreate ⟨prepared.context.journal, prepared.sandboxTx.caller⟩)
    cases transacted.symm.trans finished
    exact ⟨_, lookup_loadedState_caller
      ⟨prepared.context.journal, prepared.sandboxTx.caller⟩ _ _ _, Nat.le_of_eq nonce.symm, rfl⟩
  | constructs limit =>
    obtain ⟨account, found, rises, alive⟩ := keeps _ _ _ _ _ _ _ rfl transacted
    exact ⟨account, found, nonce ▸ rises, alive⟩

/-! ### Whether the barrier holds -/

theorem SandboxDb.load_copies (journal : Journal) {caller address : Address}
    (distinct : address ≠ caller) :
    Copies (journal.account address) (load ⟨journal, caller⟩ address) := by
  refine ⟨rfl, rfl, ?_, ?_⟩
  · exact congrArg AccountInfo.nonce (info_eq journal distinct)
  · exact congrArg AccountInfo.codeHash (info_eq journal distinct)

/-- A signer without nonce in the parent is loaded as it is. -/
theorem callerAtStart_copies (journal : Journal) (caller : Address)
    (fresh : (journal.account caller).info.nonce = 0) :
    Copies (journal.account caller) (callerAtStart ⟨journal, caller⟩) := by
  refine ⟨rfl, rfl, ?_, ?_⟩
  · rw [fresh]
    exact info_nonceOverride ⟨journal, caller⟩
  · show (SandboxDb.info ⟨journal, caller⟩ caller).codeHash = _
    unfold SandboxDb.info Journal.account
    rw [if_pos rfl]
    cases journal.state caller <;> rfl

namespace Journal

theorem inspectAll_append (journal : Journal) (first second : List Address) :
    journal.inspectAll (first ++ second) =
      (journal.inspectAll first).bind fun inspected => inspected.inspectAll second := by
  induction first generalizing journal with
  | nil => rfl
  | cons address rest inductionHypothesis =>
    rw [List.cons_append, inspectAll, inspectAll]
    cases journal.inspectAccount address false with
    | mk inspected found =>
      cases found with
      | none => rfl
      | some account => exact inductionHypothesis inspected

theorem applySandboxAccounts_append (journal : Journal)
    (first second : List (Sigma fun _ : Address => Account)) :
    journal.applySandboxAccounts (first ++ second) =
      match journal.applySandboxAccounts first with
      | (merged, true) => merged.applySandboxAccounts second
      | (merged, false) => (merged, false) := by
  induction first generalizing journal with
  | nil => rfl
  | cons entry rest inductionHypothesis =>
    rw [List.cons_append, applySandboxAccounts, applySandboxAccounts]
    cases journal.inspectAccount entry.1 false with
    | mk inspected found =>
      cases found with
      | none => rfl
      | some parent =>
        dsimp only
        cases mergeSandboxAccount entry.2 parent with
        | mk merging success =>
          cases success with
          | false => rfl
          | true => exact inductionHypothesis _

/-- Accounts that are not merged keep their nonce. -/
theorem nonce_applySandboxAccounts {journal merged : Journal}
    {accounts : List (Sigma fun _ : Address => Account)} (nodup : accounts.NodupKeys)
    (through : journal.applySandboxAccounts accounts = (merged, true)) {address : Address}
    (absent : address ∉ accounts.keys) :
    (merged.account address).info.nonce = (journal.account address).info.nonce := by
  have view := (@viewOver_applySandboxAccounts (fun _ _ _ => 0) (fun _ _ => rfl) accounts
    nodup _ _ through).1
  have same := congrFun view address
  rw [mergeViews, List.dlookup_eq_none.mpr absent] at same
  exact congrArg AccountView.nonce same

/-- An inspected account has the nonce it had. -/
theorem nonce_inspectAccount {journal inspected : Journal} {address : Address}
    {account : Account} {loadCode : Bool}
    (inspects : journal.inspectAccount address loadCode = (inspected, some account)) :
    account.info.nonce = (journal.account address).info.nonce := by
  have loaded := (journal.inspectAccount_inspected (fun _ _ _ => 0) address loadCode).loaded
  rw [inspects] at loaded
  obtain ⟨-, code, rfl⟩ := loaded account rfl
  rfl

end Journal

/-- What is merged after a refused create: the signer without nonce, and accounts that did not
change. -/
structure RefusedMerge (journal : Journal) (state : EvmState) (signer : Address) : Prop where
  caller : ∃ account, state.lookup signer = some account ∧ account.info.nonce = 0 ∧
    account.status.selfDestructed = false ∧ account.status.created = false ∧
    ((journal.account signer).info.nonce = 0 → Copies (journal.account signer) account)
  others : ∀ address account, address ≠ signer → state.lookup address = some account →
    Copies (journal.account address) account

theorem Prepared.refusedMerge (refused : prepared.createRefused env engine = true)
    (reached : prepared.merging (sandboxTransact env engine) = some (journal, state)) :
    RefusedMerge journal state prepared.sandboxTx.caller := by
  obtain ⟨⟨queries, rfl⟩, ⟨execution, transacted, -⟩, -⟩ := merging_some reached
  unfold createRefused at refused
  unfold Prepared.transacted sandboxTransact at transacted
  split at refused
  · next limit result stage =>
    rw [stage] at transacted
    obtain ⟨_, before, after, finished, -⟩ := engine.finish_transacted prepared.context
      prepared.keylessTx prepared.sandboxTx limit result
      (callerAtStart ⟨prepared.context.journal, prepared.sandboxTx.caller⟩)
    cases transacted.symm.trans finished
    refine ⟨⟨_, lookup_loadedState_caller
      ⟨prepared.context.journal, prepared.sandboxTx.caller⟩ _ _ _, ?_, rfl, rfl, ?_⟩, ?_⟩
    · exact info_nonceOverride ⟨prepared.context.journal, prepared.sandboxTx.caller⟩
    · exact callerAtStart_copies prepared.context.journal prepared.sandboxTx.caller
    · intro address account distinct found
      have loaded := lookup_loadedState_other
        ⟨prepared.context.journal, prepared.sandboxTx.caller⟩ _ _ _ distinct found
      rw [loaded]
      exact load_copies prepared.context.journal distinct
  · cases refused

/-- A run whose create frame is refused is no success. -/
theorem Prepared.refused_ne_success {execution : ExecutionResult}
    (refused : prepared.createRefused env engine = true)
    (transacted : prepared.transacted (sandboxTransact env engine) = .ok (execution, state)) :
    ∀ gasUsed output logs, execution ≠ .success gasUsed output logs := by
  unfold createRefused at refused
  unfold Prepared.transacted sandboxTransact at transacted
  split at refused
  · next limit result stage =>
    rw [stage] at transacted
    obtain ⟨_, _, _, finished, notSuccess⟩ := engine.finish_transacted prepared.context
      prepared.keylessTx prepared.sandboxTx limit result
      (callerAtStart ⟨prepared.context.journal, prepared.sandboxTx.caller⟩)
    cases transacted.symm.trans finished
    exact notSuccess
  · cases refused

namespace RefusedMerge

variable {journal : Journal} {state : EvmState} {signer : Address}

theorem copies_of_ne (merge : RefusedMerge journal state signer)
    {entry : Sigma fun _ : Address => Account} (member : entry ∈ state.entries)
    (distinct : entry.1 ≠ signer) : Copies (journal.account entry.1) entry.2 :=
  merge.others entry.1 entry.2 distinct (AList.mem_lookup_iff.mpr member)

/-- With no nonce in the parent, the merge goes as far as the reads are answered. -/
theorem through_iff (merge : RefusedMerge journal state signer)
    (fresh : (journal.account signer).info.nonce = 0) :
    (∃ merged, journal.applySandboxAccounts state.entries = (merged, true)) ↔
      (journal.inspectAll state.entries.keys).isSome = true := by
  have merges := applySandboxAccounts_copies state.entries []
    (by rw [List.append_nil]; exact state.nodupKeys) (Journal.ReadsAlike.refl _ journal)
    fun entry member => by
      by_cases same : entry.1 = signer
      · obtain ⟨account, found, -, -, -, copies⟩ := merge.caller
        have entryFound : state.lookup entry.1 = some entry.2 := AList.mem_lookup_iff.mpr member
        rw [same, found] at entryFound
        rw [same, ← Option.some.inj entryFound]
        exact copies fresh
      · exact merge.copies_of_ne member same
  cases answered : journal.inspectAll state.entries.keys with
  | none =>
    rw [answered] at merges
    refine ⟨?_, nofun⟩
    rintro ⟨merged, through⟩
    rw [through] at merges
    cases merges
  | some last =>
    rw [answered] at merges
    obtain ⟨final, through, -⟩ := merges
    exact ⟨fun _ => rfl, fun _ => ⟨final, through⟩⟩

variable {sandbox : Account}

/-- The entry of the signer. -/
theorem signerEntry (merge : RefusedMerge journal state signer)
    (member : ⟨signer, sandbox⟩ ∈ state.entries) :
    sandbox.info.nonce = 0 ∧ sandbox.status.selfDestructed = false ∧
      sandbox.status.created = false := by
  obtain ⟨account, found, nonce, alive, notCreated, -⟩ := merge.caller
  have entryFound : state.lookup signer = some sandbox := AList.mem_lookup_iff.mpr member
  rw [found] at entryFound
  exact Option.some.inj entryFound ▸ ⟨nonce, alive, notCreated⟩

variable {older newer : List (Sigma fun _ : Address => Account)}

/-- Merging the accounts in front of the signer goes as far as the reads are answered, and the
signer is read after them as if they had only been inspected. -/
theorem front (merge : RefusedMerge journal state signer)
    (entries : state.entries = older ++ ⟨signer, sandbox⟩ :: newer) :
    match journal.inspectAll older.keys with
    | none => (journal.applySandboxAccounts older).2 = false
    | some last =>
      ∃ final, journal.applySandboxAccounts older = (final, true) ∧
        Journal.ReadsAlike [signer] final last := by
  have nodup : (older.keys ++ signer :: newer.keys).Nodup := by
    have keys := state.nodupKeys
    rw [entries, List.NodupKeys, List.keys, List.map_append] at keys
    exact keys
  obtain ⟨_, _, apart⟩ := List.nodup_append.mp nodup
  refine applySandboxAccounts_copies older [signer] ?_ (Journal.ReadsAlike.refl _ journal)
    fun entry member => merge.copies_of_ne (entries ▸ List.mem_append_left _ member) ?_
  · exact nodup.sublist ((List.Sublist.refl _).append
      (List.singleton_sublist.mpr List.mem_cons_self))
  · have keyed := List.mem_keys_of_mem member
    exact fun same => apart _ keyed _ List.mem_cons_self same

/-- The parent's nonce for the signer, as it is read after the accounts in front of it. -/
theorem nonce_read {parent : Account} {merged inspected : Journal}
    (entries : state.entries = older ++ ⟨signer, sandbox⟩ :: newer)
    (through : journal.applySandboxAccounts older = (merged, true))
    (inspects : merged.inspectAccount signer false = (inspected, some parent)) :
    parent.info.nonce = (journal.account signer).info.nonce := by
  have keys := state.nodupKeys
  rw [entries, List.NodupKeys, List.keys, List.map_append] at keys
  obtain ⟨nodup, _, apart⟩ := List.nodup_append.mp keys
  rw [nonce_inspectAccount inspects]
  exact nonce_applySandboxAccounts nodup through
    fun member => apart _ member _ List.mem_cons_self rfl

variable (merge : RefusedMerge journal state signer)

include merge

/-- With a nonce in the parent and the reads up to the signer answered, the merge stops at its
nonce. -/
theorem stopsAtNonce (entries : state.entries = older ++ ⟨signer, sandbox⟩ :: newer)
    (taken : (journal.account signer).info.nonce ≠ 0)
    (answered : (journal.inspectAll (older.keys ++ [signer])).isSome = true) :
    journal.StopsAtNonce state.entries signer := by
  obtain ⟨nonce, alive, notCreated⟩ := merge.signerEntry
    (entries ▸ List.mem_append_right _ List.mem_cons_self)
  have front := merge.front entries
  rw [inspectAll_append] at answered
  cases inspectedOlder : journal.inspectAll older.keys with
  | none =>
    rw [inspectedOlder] at answered
    cases answered
  | some last =>
    rw [inspectedOlder] at front answered
    obtain ⟨final, through, alike⟩ := front
    obtain ⟨asked, found, finalInspects, lastInspects⟩ := inspectAccount_alike false
      alike.database alike.queries (alike.state signer List.mem_cons_self)
    rw [Option.bind_some, inspectAll, lastInspects] at answered
    cases found with
    | none => cases answered
    | some parent =>
      refine ⟨older, sandbox, newer, final, _, parent, entries, through, finalInspects,
        alive, ?_, ?_⟩
      · rw [notCreated, Bool.false_and]
      · rw [nonce, nonce_read entries through finalInspects]
        exact Nat.pos_of_ne_zero taken

/-- The merge only stops at the signer's nonce if the reads up to it are answered and the parent has
a nonce. -/
theorem answered_of_stopsAtNonce (stops : journal.StopsAtNonce state.entries signer) :
    (journal.account signer).info.nonce ≠ 0 ∧
      ∃ before after, state.entries.keys = before ++ signer :: after ∧
        (journal.inspectAll (before ++ [signer])).isSome = true := by
  obtain ⟨older, sandbox, newer, merged, inspected, parent, entries, through,
    inspects, -, -, below⟩ :=
    stops
  have front := merge.front entries
  refine ⟨?_, older.keys, List.keys newer, ?_, ?_⟩
  · rw [← nonce_read entries through inspects]
    exact Nat.ne_of_gt (Nat.zero_lt_of_lt below)
  · rw [entries, List.keys, List.map_append]
    rfl
  · rw [inspectAll_append]
    cases inspectedOlder : journal.inspectAll older.keys with
    | none =>
      rw [inspectedOlder, through] at front
      cases front
    | some last =>
      rw [inspectedOlder, through] at front
      obtain ⟨final, same, alike⟩ := front
      cases same
      obtain ⟨asked, found, mergedInspects, lastInspects⟩ := inspectAccount_alike false
        alike.database alike.queries (alike.state signer List.mem_cons_self)
      rw [mergedInspects] at inspects
      rw [Option.bind_some, inspectAll, lastInspects]
      cases found with
      | none => cases inspects
      | some account => rfl

/-- With a nonce in the parent, the merge never goes through. -/
theorem not_through (taken : (journal.account signer).info.nonce ≠ 0) (merged : Journal) :
    journal.applySandboxAccounts state.entries ≠ (merged, true) := by
  intro through
  obtain ⟨account, found, nonce, alive, notCreated, -⟩ := merge.caller
  obtain ⟨older, newer, entries⟩ := List.append_of_mem (AList.mem_lookup_iff.mp found)
  rw [entries, applySandboxAccounts_append] at through
  generalize olderIs : journal.applySandboxAccounts older = result at through
  obtain ⟨final, success⟩ := result
  cases success with
  | false => cases through
  | true =>
    dsimp only at through
    rw [applySandboxAccounts] at through
    generalize inspects : final.inspectAccount signer false = result at through
    obtain ⟨inspected, parent⟩ := result
    cases parent with
    | none => cases through
    | some parent =>
      have below : account.info.nonce < parent.info.nonce := by
        rw [nonce, nonce_read entries olderIs inspects]
        exact Nat.pos_of_ne_zero taken
      have fails : (mergeSandboxAccount account parent).2 = false := by
        unfold mergeSandboxAccount
        rw [if_neg (by rw [alive]; exact Bool.false_ne_true),
          if_neg (by rw [notCreated]; exact Bool.false_ne_true)]
        rw [if_pos below]
      dsimp only at through
      generalize mergeSandboxAccount account parent = result at through fails
      obtain ⟨merging, success⟩ := result
      cases fails
      cases through

end RefusedMerge

section Merged

variable {merged : Journal} {address : Address} {account : Account}
  (through : journal.applySandboxStateJournaled state = (merged, true))
  (found : state.lookup address = some account)

include through found

theorem Journal.nonce_merged (alive : account.status.selfDestructed = false) :
    (merged.view address).nonce = account.info.nonce := by
  rw [view_merged through found, AccountView.merge,
    if_neg (by rw [alive]; exact Bool.false_ne_true)]

end Merged

/-- A deploy that succeeded merged its sandbox. -/
theorem finishKeylessDeploy_success {result : KeylessResult}
    (returned : (finishKeylessDeploy env transact prepared).result = some result)
    (succeeded : result.result.isOk = true) :
    ∃ journal state merged, prepared.merging transact = some (journal, state) ∧
      journal.applySandboxStateJournaled state = (merged, true) ∧
      (finishKeylessDeploy env transact prepared).context.journal.view = merged.view := by
  have spec := finishKeylessDeploy_merging env transact prepared
  cases reached : prepared.merging transact with
  | none =>
    rw [reached] at spec
    rw [spec result returned] at succeeded
    cases succeeded
  | some merging =>
    obtain ⟨journal, state⟩ := merging
    rw [reached] at spec
    dsimp only at spec
    generalize mergedIs : journal.applySandboxStateJournaled state = outcome at spec
    obtain ⟨merged, success⟩ := outcome
    cases success with
    | false =>
      rw [spec result returned] at succeeded
      cases succeeded
    | true => exact ⟨journal, state, merged, rfl, mergedIs, spec.1⟩

section Barrier

variable {env : KeylessEnv} {engine : SandboxEngine} {prepared : Prepared}

/-- A create frame that is not refused takes the nonce for good. -/
theorem keepsBarrier_of_admitted (keeps : engine.KeepsCaller)
    (caller : prepared.sandboxTx.caller = prepared.signer)
    (low : (prepared.context.journal.account prepared.signer).info.nonce ≤ 1)
    (admitted : prepared.createRefused env engine = false) :
    KeepsBarrier env engine prepared
      (finishKeylessDeploy env (sandboxTransact env engine) prepared) := by
  refine ⟨fun result returned succeeded => ?_, fun journal state reached stops => ?_⟩
  · obtain ⟨journal, state, merged, reached, through, view⟩ :=
      finishKeylessDeploy_success returned succeeded
    obtain ⟨account, found, taken, alive⟩ := nonce_taken keeps reached admitted
    rw [view, nonce_merged through (caller ▸ found) alive]
    exact taken
  · obtain ⟨account, found, taken, -⟩ := nonce_taken keeps reached admitted
    obtain ⟨⟨queries, rfl⟩, -⟩ := merging_some reached
    obtain ⟨older, sandbox, newer, merged, inspected, parent, entries, through, inspects, -, -,
      below⟩ := stops
    have entryFound : state.lookup prepared.signer = some sandbox :=
      AList.mem_lookup_iff.mpr (entries ▸ List.mem_append_right _ List.mem_cons_self)
    rw [← caller, found] at entryFound
    cases entryFound
    rw [RefusedMerge.nonce_read entries through inspects] at below
    exact absurd (Nat.lt_of_lt_of_le below low) (Nat.not_lt.mpr taken)

variable (caller : prepared.sandboxTx.caller = prepared.signer)

include caller

variable (refused : prepared.createRefused env engine = true)

include refused

/-- A refused create that comes to the merge breaks the barrier. -/
theorem not_keepsBarrier_of_refused (merges : prepared.MergesSigner env engine) :
    ¬ KeepsBarrier env engine prepared
      (finishKeylessDeploy env (sandboxTransact env engine) prepared) := by
  rintro ⟨success, noStop⟩
  obtain ⟨journal, state, before, after, reached, keys, answered⟩ := merges
  have merge := refusedMerge refused reached
  rw [caller] at merge
  by_cases fresh : (journal.account prepared.signer).info.nonce = 0
  · rw [if_pos fresh] at answered
    obtain ⟨merged, through⟩ := (merge.through_iff fresh).mpr answered
    have mergedIs := (applySandboxStateJournaled_true_iff _ _ _).mpr through
    have spec := finishKeylessDeploy_merging env (sandboxTransact env engine) prepared
    rw [reached] at spec
    dsimp only at spec
    rw [mergedIs] at spec
    obtain ⟨view, failedSucceeds⟩ := spec
    obtain ⟨-, ⟨execution, transacted, -⟩, -⟩ := merging_some reached
    obtain ⟨result, returned, succeeded⟩ := failedSucceeds execution transacted
      (refused_ne_success refused transacted)
    have taken := success result returned succeeded
    obtain ⟨account, found, nonce, alive, -⟩ := merge.caller
    rw [view, nonce_merged mergedIs found alive, nonce] at taken
    exact absurd taken (Nat.not_succ_le_zero 0)
  · rw [if_neg fresh] at answered
    obtain ⟨older, rest, entries, olderKeys, restKeys⟩ := List.map_eq_append_iff.mp keys
    obtain ⟨⟨address, sandbox⟩, newer, rfl, rfl, newerKeys⟩ := List.map_eq_cons_iff.mp restKeys
    refine noStop journal state reached (merge.stopsAtNonce entries fresh ?_)
    rw [List.keys, olderKeys]
    exact answered

/-- A refused create that does not come to the merge of the signer leaves the barrier alone. -/
theorem keepsBarrier_of_stopped (stopped : ¬ prepared.MergesSigner env engine) :
    KeepsBarrier env engine prepared
      (finishKeylessDeploy env (sandboxTransact env engine) prepared) := by
  refine ⟨fun result returned succeeded => ?_, fun journal state reached stops => ?_⟩
  · obtain ⟨journal, state, merged, reached, through, -⟩ :=
      finishKeylessDeploy_success returned succeeded
    have merge := refusedMerge refused reached
    rw [caller] at merge
    rw [applySandboxStateJournaled_true_iff] at through
    by_cases fresh : (journal.account prepared.signer).info.nonce = 0
    · obtain ⟨account, found, -⟩ := merge.caller
      obtain ⟨older, newer, entries⟩ := List.append_of_mem (AList.mem_lookup_iff.mp found)
      refine absurd ⟨journal, state, older.keys, List.keys newer, reached, ?_, ?_⟩ stopped
      · rw [entries, List.keys, List.map_append]
        rfl
      · rw [if_pos fresh]
        exact (merge.through_iff fresh).mp ⟨merged, through⟩
    · exact absurd through (merge.not_through fresh merged)
  · have merge := refusedMerge refused reached
    rw [caller] at merge
    obtain ⟨taken, before, after, keys, answered⟩ := merge.answered_of_stopsAtNonce stops
    refine absurd ⟨journal, state, before, after, reached, keys, ?_⟩ stopped
    rw [if_neg taken]
    exact answered

end Barrier

/-- A keyless deploy keeps the replay barrier exactly if it is not one whose create frame the limits
left for the sandbox refuse and that still comes to merge the signer. -/
theorem keepsBarrier_iff (env : KeylessEnv) (engine : SandboxEngine) (keeps : engine.KeepsCaller)
    (context : MegaContext) (inputs : CallInputs) (txBytes : List Nat) (gasLimitOverride : U256)
    (prepared : Prepared)
    (settled : prepareKeylessDeploy env context inputs txBytes gasLimitOverride = .ok prepared) :
    KeepsBarrier env engine prepared
        (executeKeylessDeployCall env (sandboxTransact env engine) context inputs txBytes
          gasLimitOverride) ↔
      ¬ (prepared.createRefused env engine = true ∧ prepared.MergesSigner env engine) := by
  have settles := prepareKeylessDeploy_settles settled
  have caller : prepared.sandboxTx.caller = prepared.signer := by
    rw [settles.tx]
    rfl
  unfold executeKeylessDeployCall
  rw [settled]
  dsimp only
  by_cases refused : prepared.createRefused env engine = true
  · by_cases merges : prepared.MergesSigner env engine
    · exact ⟨fun holds => absurd holds (not_keepsBarrier_of_refused caller refused merges),
        fun apart => absurd ⟨refused, merges⟩ apart⟩
    · exact ⟨fun _ both => merges both.2, fun _ => keepsBarrier_of_stopped caller refused merges⟩
  · exact ⟨fun _ both => refused both.1, fun _ => keepsBarrier_of_admitted keeps caller
      settles.signer_nonce (Bool.eq_false_iff.mpr refused)⟩

/-- An engine with flat gas tables whose constructors deploy one byte of code. -/
def flatEngine : SandboxEngine where
  validateEnv _ _ := true
  floorGas _ := 21000
  createContractStorageGas _ := some 0
  databaseFails _ _ _ := false
  loaded _ _ := ([], [])
  gasUsed tx result rescuedGas := tx.gasLimit - result.gas.remaining - rescuedGas
  encode _ := []
  queries _ _ _ := 0
  construct _ _ tx limit caller :=
    { transacted := .ok
        (.success 100000 (.create [1] (some (relayedEnv.createAddress tx.caller 0))) [],
         AList.singleton tx.caller caller)
      limitUsage := limit.getUsage
      volatileAccesses := 0
      queries := 0 }

theorem keepsCaller_flatEngine : flatEngine.KeepsCaller := by
  intro context keylessTx tx limit caller result state alive transacted
  cases transacted
  exact ⟨caller, AList.lookup_insert ∅, Nat.le_refl _, alive⟩

/-- A transaction with so much state growth left, over a database that has the signer with so high a
nonce. -/
def parentWith (stateGrowthLimit signerNonce : Nat) : MegaContext :=
  { emptyParent with
    journal :=
      { emptyParent.journal with
        database :=
          { emptyParent.journal.database with
            basic := fun address =>
              if address = 7 then
                some { AccountInfo.default with balance := 1, nonce := signerNonce }
              else none } }
    additionalLimit := .new .rex5
      { emptyParent.additionalLimit.limits with txStateGrowthLimit := stateGrowthLimit } }

/-- The creation relayed in such a transaction. -/
def relayIn (context : MegaContext) : KeylessExit :=
  executeKeylessDeployCall relayedEnv (sandboxTransact relayedEnv flatEngine) context
    relayingCall [] 200000

/-- With no state growth left, the call succeeds and leaves the signer without nonce; and if the
signer has nonce one already, the call fails in the merge. -/
theorem barrier_lost_without_growth :
    (∃ prepared,
      prepareKeylessDeploy relayedEnv (parentWith 0 0) relayingCall [] 200000 = .ok prepared ∧
      ¬ KeepsBarrier relayedEnv flatEngine prepared (relayIn (parentWith 0 0))) ∧
    (relayIn (parentWith 0 0)).result.map (·.result) = some .returned ∧
    ((relayIn (parentWith 0 0)).context.journal.view 7).nonce = 0 ∧
    (relayIn (parentWith 0 1)).result.map (·.output) = some (.error .internalError) := by
  have returned : (relayIn (parentWith 0 0)).result.map (·.result) = some .returned := by decide
  have nonce : ((relayIn (parentWith 0 0)).context.journal.view 7).nonce = 0 := by decide
  obtain ⟨prepared, settled, signer⟩ := Library.exists_of_toOption
    (by decide : (prepareKeylessDeploy relayedEnv (parentWith 0 0) relayingCall []
      200000).toOption.map (·.signer) = some 7)
  refine ⟨⟨prepared, settled, fun holds => ?_⟩, returned, nonce, by decide⟩
  obtain ⟨result, found, status⟩ := Option.map_eq_some_iff.mp returned
  have taken := holds.1 result found (status ▸ rfl)
  rw [signer, nonce] at taken
  exact absurd taken (by decide)

theorem keepsBarrier_with_growth :
    ∃ prepared,
      prepareKeylessDeploy relayedEnv (parentWith 10 0) relayingCall [] 200000 = .ok prepared ∧
      KeepsBarrier relayedEnv flatEngine prepared (relayIn (parentWith 10 0)) := by
  obtain ⟨prepared, settled, admitted⟩ := Library.exists_of_toOption
    (by decide : (prepareKeylessDeploy relayedEnv (parentWith 10 0) relayingCall []
      200000).toOption.map (·.createRefused relayedEnv flatEngine) = some false)
  refine ⟨prepared, settled, (keepsBarrier_iff relayedEnv flatEngine keepsCaller_flatEngine
    (parentWith 10 0) relayingCall [] 200000 prepared settled).mpr fun both => ?_⟩
  rw [admitted] at both
  exact Bool.false_ne_true both.1

end MegaEvm
