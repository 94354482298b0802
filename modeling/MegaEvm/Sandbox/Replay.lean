/-
This file follows keyless deploys over a chain of transactions and settles when the
constructor of a signed transaction can run again after it ran to a successful end.
What stops a replay is the nonce of the created account: a create collides with it, and
it never goes down. A contract that destroys itself in its constructor leaves no nonce
behind. The signer's own nonce does not stop a replay either, since a signer with nonce
one is let through and its nonce is zero in the sandbox.

Transactions that relay no deploy, and what a transaction does before and after the
call, are only assumed not to lower nonces.
-/

import MegaEvm.Sandbox.ReplayBarrier

namespace MegaEvm

open Journal

/-! ### Nonces along a call -/

/-- Nonces only go up, accounts stay as much alive as they were, and the database is the same. -/
structure Journal.Rises (before after : Journal) : Prop where
  database : after.database = before.database
  nonce : ∀ address,
    (before.account address).info.nonce ≤ (after.account address).info.nonce
  grown : ∀ address, (before.account address).Grown (after.account address)

theorem Journal.Rises.trans {first second third : Journal} (earlier : first.Rises second)
    (later : second.Rises third) : first.Rises third :=
  ⟨later.database.trans earlier.database,
    fun address => Nat.le_trans (earlier.nonce address) (later.nonce address),
    fun address => (earlier.grown address).trans (later.grown address)⟩

theorem Journal.OnlyLoads.rises {stored : Address → Unloaded} {before after : Journal}
    (loads : before.OnlyLoads stored after) : before.Rises after :=
  ⟨loads.database, fun address => Nat.le_of_eq (loads.nonce address).symm, loads.grown⟩

/-- An account that merges never loses nonce. -/
theorem mergeSandboxAccount_nonce {sandbox parent : Account} {merging : Merging}
    (merged : mergeSandboxAccount sandbox parent = (merging, true)) :
    parent.info.nonce ≤ merging.account.info.nonce := by
  have view := congrArg AccountView.nonce
    (@view_mergeSandboxAccount (fun _ _ => 0) sandbox parent merging (fun _ => rfl) merged)
  have nonce : merging.account.info.nonce =
      ((parent.view fun _ _ => 0).merge sandbox).nonce := view
  rw [nonce, AccountView.merge]
  split
  · exact Nat.le_refl _
  · next alive =>
    unfold mergeSandboxAccount at merged
    rw [if_neg alive] at merged
    split at merged
    · cases merged
    · dsimp only at merged
      split at merged
      · cases merged
      · next rises => exact Nat.le_of_not_lt rises

variable {journal merged : Journal}

/-- A merge that goes through lowers no nonce. -/
theorem Journal.nonce_le_applySandboxAccounts {accounts : List (Sigma fun _ : Address => Account)}
    (through : journal.applySandboxAccounts accounts = (merged, true)) (address : Address) :
    (journal.account address).info.nonce ≤ (merged.account address).info.nonce := by
  induction accounts generalizing journal with
  | nil => exact Nat.le_of_eq ((Prod.mk.inj through).1 ▸ rfl)
  | cons entry rest inductionHypothesis =>
    unfold applySandboxAccounts at through
    have inspects := journal.inspectAccount_inspected (fun _ _ _ => 0) entry.1 false
    generalize inspectsIs : journal.inspectAccount entry.1 false = result at inspects through
    obtain ⟨inspected, found⟩ := result
    cases found with
    | none => cases through
    | some parent =>
      dsimp only at through
      generalize mergedIs : mergeSandboxAccount entry.2 parent = result at through
      obtain ⟨merging, success⟩ := result
      cases success with
      | false => cases through
      | true =>
        refine Nat.le_trans ?_ (inductionHypothesis through)
        by_cases same : address = entry.1
        · subst same
          have recorded := account_setAccount_same inspected entry.1 merging.account
          rw [← nonce_inspectAccount inspectsIs]
          exact Nat.le_trans (mergeSandboxAccount_nonce mergedIs)
            (Nat.le_of_eq (congrArg (·.info.nonce) recorded).symm)
        · have recorded := account_setAccount_other inspected merging.account same
          refine Nat.le_trans (Nat.le_of_eq (inspects.onlyLoads.nonce address).symm) ?_
          exact Nat.le_of_eq (congrArg (·.info.nonce) recorded).symm

variable {state : EvmState}

theorem Journal.applySandboxStateJournaled_rises
    (through : journal.applySandboxStateJournaled state = (merged, true)) :
    journal.Rises merged := by
  have loop := (applySandboxStateJournaled_true_iff _ _ _).mp through
  exact ⟨(@viewOver_applySandboxAccounts (fun _ _ _ => 0) (fun _ _ => rfl) state.entries
      state.nodupKeys _ _ loop).2.2,
    nonce_le_applySandboxAccounts loop,
    applySandboxStateJournaled_grown (state.mergesSoundly_originals journal) through⟩

theorem foldl_log_account (journal : Journal) (logs : List Log) :
    (logs.foldl Journal.log journal).state = journal.state ∧
      (logs.foldl Journal.log journal).database = journal.database := by
  induction logs generalizing journal with
  | nil => exact ⟨rfl, rfl⟩
  | cons log rest inductionHypothesis => exact inductionHypothesis (journal.log log)

/-- Reporting a completion touches no account. -/
theorem reportCompletion_rises (context : MegaContext) (gas : Gas) (deployAddress : Address)
    (completion : SandboxCompletion) :
    context.journal.Rises
      (reportCompletion context gas deployAddress completion).context.journal := by
  have logged : ∀ logs : List Log, context.journal.Rises (logs.foldl log context.journal) := by
    intro logs
    obtain ⟨state, database⟩ := foldl_log_account context.journal logs
    have same : ∀ address, (logs.foldl log context.journal).account address =
        context.journal.account address := by
      intro address
      unfold account
      rw [state, database]
    exact ⟨database, fun address => Nat.le_of_eq (same address ▸ rfl),
      fun address => (same address).symm ▸ Account.Grown.refl _⟩
  cases completion with
  | deployed gasUsed address logs =>
    unfold reportCompletion
    dsimp only
    split
    · exact logged []
    · exact logged logs
  | emptyCode gasUsed logs => exact logged logs
  | executionFailed => exact logged []

/-- From where the sandbox runs, the call lowers no nonce. -/
theorem finishKeylessDeploy_rises (env : KeylessEnv) (transact : Transact) (prepared : Prepared) :
    prepared.context.journal.Rises
      (finishKeylessDeploy env transact prepared).context.journal := by
  obtain ⟨queries, queried⟩ := executeKeylessDeploySandbox_journal transact prepared.context
    prepared.keylessTx prepared.sandboxTx prepared.limits
  unfold finishKeylessDeploy
  generalize executeKeylessDeploySandbox transact prepared.context prepared.keylessTx
    prepared.sandboxTx prepared.limits = outcome at queried ⊢
  obtain ⟨context, outcome⟩ := outcome
  have rises : prepared.context.journal.Rises context.journal :=
    queried ▸ (@Journal.OnlyLoads.queries (fun _ _ _ => 0) _ _).rises
  cases outcome with
  | rejected error => exact rises
  | completed state completion usage accesses =>
    dsimp only
    have accounting := @applySandboxPostAccounting_loads (fun _ _ _ => 0) context prepared.gas usage
      accesses prepared.reservation completion.gasUsed
    generalize accountedIs : applySandboxPostAccounting context prepared.gas usage accesses
      prepared.reservation completion.gasUsed = accounted at accounting ⊢
    cases accounted with
    | error exit => exact rises.trans accounting.1.rises
    | ok value =>
      obtain ⟨accounted, gas⟩ := value
      have journalIs : accounted.journal = context.journal :=
        applySandboxPostAccounting_journal accountedIs
      dsimp only
      rw [← journalIs] at rises
      generalize mergedIs : accounted.journal.applySandboxStateJournaled state = merged
      obtain ⟨journal, success⟩ := merged
      cases success with
      | false =>
        exact rises.trans (applySandboxStateJournaled_failed
          (state.mergesSoundly_originals accounted.journal) mergedIs).rises
      | true =>
        exact (rises.trans (applySandboxStateJournaled_rises mergedIs)).trans
          (reportCompletion_rises { accounted with journal } _ _ completion)

/-! ### The chain -/

/-- An account of the database with its storage. -/
def Database.site (database : Database) (address : Address) : Site :=
  { info := database.basic address, storage := database.storage address }

/-- The database after a transaction: the accounts in its journal are committed. -/
def Journal.commit (journal : Journal) : Database :=
  let site address :=
    match journal.state address with
    | some account => account.commit (journal.database.site address)
    | none => journal.database.site address
  { journal.database with
    basic := fun address => (site address).info
    storage := fun address => (site address).storage }

/-- What a transaction does before its call: it may load and charge accounts, but lowers no nonce
and destroys nothing. -/
structure Opening where
  journal : Database → Journal
  basic : ∀ database, (journal database).database.basic = database.basic
  nonce : ∀ database address,
    (database.account address).info.nonce ≤ ((journal database).account address).info.nonce
  alive : ∀ database address,
    ((journal database).account address).status.selfDestructed = false

/-- What a transaction does after its call. -/
structure Closing where
  settle : Journal → Journal
  basic : ∀ journal, (settle journal).database.basic = journal.database.basic
  nonce : ∀ journal address,
    (journal.account address).info.nonce ≤ ((settle journal).account address).info.nonce
  touched : ∀ journal address, (journal.account address).status.touched = true →
    ((settle journal).account address).status.touched = true
  alive : ∀ journal address, ((settle journal).account address).status.selfDestructed =
    (journal.account address).status.selfDestructed

/-- A constructor that ends in success leaves its contract in the state, touched and with a nonce,
also if the contract destroyed itself. -/
def SandboxEngine.CreatesContracts (env : KeylessEnv) (engine : SandboxEngine) : Prop :=
  ∀ context keylessTx tx limit caller gasUsed output logs state,
    (engine.construct context keylessTx tx limit caller).transacted =
      .ok (.success gasUsed output logs, state) →
    ∃ account, state.lookup (env.createAddress tx.caller 0) = some account ∧
      1 ≤ account.info.nonce ∧ account.status.touched = true

/-- A transaction that relays a keyless deploy. Gas prices and the engine may change from one
transaction to the next, the decoding of transactions and the derivation of addresses may not. -/
structure RelayTx (env : KeylessEnv) where
  template : MegaContext
  rex5 : template.spec.isEnabled .rex5 = true
  opening : Opening
  inputs : CallInputs
  txBytes : List Nat
  gasLimitOverride : U256
  initialTxGas : KeylessTx → Nat
  newAccountGas : Address → Option Nat
  engine : SandboxEngine
  creates : engine.CreatesContracts env
  closing : Closing

/-- Any other transaction. -/
structure OtherTx where
  apply : Database → Database
  nonce : ∀ database address, (database.account address).info.nonce ≤
    ((apply database).account address).info.nonce

inductive ChainEvent (env : KeylessEnv)
  | relay (tx : RelayTx env)
  | other (tx : OtherTx)

/-- A deploy that got as far as its sandbox: what was signed, whether its constructor was started,
and whether the deploy completed with the constructor at a successful end. -/
structure DeployRecord where
  signed : KeylessTx
  constructed : Bool
  completed : Bool
deriving DecidableEq

/-- The database and the deploys so far, newest first. -/
structure Chain where
  database : Database
  deploys : List DeployRecord

namespace RelayTx

variable {env : KeylessEnv} (tx : RelayTx env)

/-- The environment of the transaction. -/
def envOf : KeylessEnv :=
  { env with initialTxGas := tx.initialTxGas, newAccountGas := tx.newAccountGas }

def context (database : Database) : MegaContext :=
  { tx.template with journal := tx.opening.journal database }

def transact : Transact :=
  sandboxTransact tx.envOf tx.engine

/-- What is prepared before the sandbox runs. -/
def prepared (database : Database) : Except KeylessExit Prepared :=
  prepareKeylessDeploy tx.envOf (tx.context database) tx.inputs tx.txBytes tx.gasLimitOverride

def call (database : Database) : KeylessExit :=
  executeKeylessDeployCall tx.envOf tx.transact (tx.context database) tx.inputs tx.txBytes
    tx.gasLimitOverride

end RelayTx

/-- The constructor of a prepared deploy is started. -/
def Prepared.constructs (env : KeylessEnv) (engine : SandboxEngine) (prepared : Prepared) : Bool :=
  match sandboxStage env engine prepared.context prepared.keylessTx prepared.sandboxTx
      prepared.limits with
  | .constructs _ => true
  | _ => false

/-- The transaction of the sandbox succeeded. -/
def Prepared.succeeds (transact : Transact) (prepared : Prepared) : Bool :=
  match prepared.transacted transact with
  | .ok (.success _ _ _, _) => true
  | _ => false

/-- The record of a deploy, if it got as far as its sandbox. -/
def RelayTx.record {env : KeylessEnv} (tx : RelayTx env) (database : Database) :
    Option DeployRecord :=
  match tx.prepared database with
  | .error _ => none
  | .ok prepared =>
    some
      { signed := prepared.keylessTx
        constructed := prepared.constructs tx.envOf tx.engine
        completed :=
          prepared.succeeds tx.transact && (tx.call database).result.any (·.result.isOk) }

/-- One transaction of the chain. -/
def Chain.step (env : KeylessEnv) (chain : Chain) : ChainEvent env → Option Chain
  | .other tx => some { chain with database := tx.apply chain.database }
  | .relay tx =>
    some
      { database := (tx.closing.settle (tx.call chain.database).context.journal).commit
        deploys := (tx.record chain.database).toList ++ chain.deploys }

/-- Once a deploy has completed, no later one of the same signed transaction starts its
constructor. -/
def Chain.RunsOnce (chain : Chain) : Prop :=
  chain.deploys.Pairwise fun later earlier =>
    earlier.completed = true → earlier.signed = later.signed → later.constructed = false

instance (chain : Chain) : Decidable chain.RunsOnce :=
  inferInstanceAs (Decidable (List.Pairwise _ _))

/-- The constructor of this deploy does not leave its contract destroyed. -/
def LeavesContract {env : KeylessEnv} (chain : Chain) : ChainEvent env → Prop
  | .other _ => True
  | .relay tx =>
    ∀ prepared gasUsed output logs state account,
      tx.prepared chain.database = .ok prepared →
      prepared.transacted tx.transact = .ok (.success gasUsed output logs, state) →
      state.lookup (env.createAddress prepared.signer 0) = some account →
      account.status.selfDestructed = false

/-! ### What commits keep -/

theorem Journal.nonce_commit_of_touched (journal : Journal) (address : Address)
    (touched : (journal.account address).status.touched = true)
    (alive : (journal.account address).status.selfDestructed = false) :
    (journal.commit.account address).info.nonce = (journal.account address).info.nonce := by
  unfold account at touched alive ⊢
  unfold commit Database.account
  dsimp only
  cases resident : journal.state address with
  | none =>
    rw [resident] at touched
    cases touched
  | some account =>
    rw [resident, Option.getD_some] at touched alive
    have stored := @account.plain_commit_of_touched (journal.database.site address) touched alive
    exact (congrArg AccountInfo.nonce stored).symm

/-- A commit lowers no nonce of the database. -/
theorem Journal.nonce_le_commit (journal : Journal) (address : Address)
    (rises : (journal.database.account address).info.nonce ≤
      (journal.account address).info.nonce)
    (alive : (journal.account address).status.selfDestructed = false) :
    (journal.database.account address).info.nonce ≤
      (journal.commit.account address).info.nonce := by
  by_cases touched : (journal.account address).status.touched = true
  · rw [journal.nonce_commit_of_touched address touched alive]
    exact rises
  · refine Nat.le_of_eq ?_
    unfold account at touched
    unfold commit Database.account
    dsimp only
    cases resident : journal.state address with
    | none => rfl
    | some account =>
      rw [resident, Option.getD_some] at touched
      dsimp only
      rw [account.commit_untouched (Bool.eq_false_iff.mpr touched)]
      rfl

/-! ### Constructors -/

variable {env : KeylessEnv} {context : MegaContext}

theorem validateRequest_recovers {inputs : CallInputs} {txBytes : List Nat}
    {gasLimitOverride : U256} {request : KeylessRequest}
    (validated : validateRequest env context inputs txBytes gasLimitOverride = .ok request) :
    env.recover request.tx = some request.signer := by
  unfold validateRequest at validated
  dsimp only at validated
  split at validated
  · cases validated
  obtain ⟨tx, _, validated⟩ := Library.bind_eq_ok validated
  split at validated
  · cases validated
  split at validated
  · cases validated
  split at validated
  · cases validated
  obtain ⟨signer, recovered, validated⟩ := Library.bind_eq_ok validated
  cases validated
  unfold KeylessEnv.recoverSigner at recovered
  split at recovered
  · next found =>
    cases recovered
    exact found
  · cases recovered

variable {prepared : Prepared}

/-- The signer of a prepared deploy is the one its signature recovers to. -/
theorem Settles.recovers {inputs : CallInputs} {txBytes : List Nat} {gasLimitOverride : U256}
    (settles : Settles env context inputs txBytes gasLimitOverride prepared) :
    env.recover prepared.keylessTx = some prepared.signer := by
  obtain ⟨charged, gas, request, signed, left, -, validated, -, -, tx, signer, -⟩ := settles.steps
  rw [tx, signer]
  exact validateRequest_recovers validated

variable {engine : SandboxEngine}

/-- A constructor is only started where nothing collides. -/
theorem sandboxStage_constructs {keylessTx : KeylessTx} {tx : MegaTransaction}
    {limits : EvmTxRuntimeLimits} {limit : AdditionalLimit}
    (stage : sandboxStage env engine context keylessTx tx limits = .constructs limit) :
    collides (infoOfCreated ⟨context.journal, tx.caller⟩ (env.createAddress tx.caller 0)) =
      false := by
  unfold sandboxStage at stage
  dsimp only at stage
  split at stage
  · cases stage
  · split at stage
    · cases stage
    · cases stage
    · split at stage
      · cases stage
      · split at stage
        · cases stage
        · next vacant =>
          rw [SandboxDb.info_nonceOverride ⟨context.journal, tx.caller⟩] at vacant
          exact Bool.eq_false_iff.mpr vacant

/-- A constructor is only started where the account to create has no nonce. -/
theorem Prepared.constructs_nonce (constructs : prepared.constructs env engine = true) :
    (prepared.context.journal.account
      (env.createAddress prepared.sandboxTx.caller 0)).info.nonce = 0 := by
  unfold Prepared.constructs at constructs
  split at constructs
  · next limit stage =>
    have vacant := sandboxStage_constructs stage
    unfold infoOfCreated at vacant
    split at vacant
    · -- The caller has just taken a nonce.
      next own =>
      have nonce : (callerOfCreate
          ⟨prepared.context.journal, prepared.sandboxTx.caller⟩).info.nonce = 1 :=
        congrArg (· + 1) (SandboxDb.info_nonceOverride _)
      rw [collides, nonce, Bool.or_eq_false_iff] at vacant
      cases vacant.2
    · next distinct =>
      rw [SandboxDb.info_eq _ distinct, collides, Bool.or_eq_false_iff, bne_eq_false_iff_eq,
        bne_eq_false_iff_eq] at vacant
      exact vacant.2
  · cases constructs

variable {gasUsed : Nat} {output : TxOutput} {logs : List Log}

/-- A transaction of the sandbox that succeeds has the outcome of a constructor. -/
theorem Prepared.transacted_of_success
    (transacted : prepared.transacted (sandboxTransact env engine) =
      .ok (.success gasUsed output logs, state)) :
    ∃ limit caller,
      (engine.construct prepared.context prepared.keylessTx prepared.sandboxTx limit
        caller).transacted = .ok (.success gasUsed output logs, state) := by
  have finished : ∀ limit result caller,
      (engine.finish prepared.context prepared.keylessTx prepared.sandboxTx limit result
        caller).transacted ≠ .ok (.success gasUsed output logs, state) := by
    intro limit result caller success
    obtain ⟨execution, before, after, is, notSuccess⟩ := engine.finish_transacted prepared.context
      prepared.keylessTx prepared.sandboxTx limit result caller
    exact notSuccess _ _ _ (congrArg Prod.fst (Except.ok.inj (is.symm.trans success)))
  unfold Prepared.transacted sandboxTransact at transacted
  split at transacted
  · next ofTransaction _ => cases ofTransaction <;> cases transacted
  · exact absurd transacted (finished _ _ _)
  · exact absurd transacted (finished _ _ _)
  · exact absurd transacted (finished _ _ _)
  · exact ⟨_, _, transacted⟩

theorem Prepared.exists_of_succeeds {transact : Transact}
    (succeeds : prepared.succeeds transact = true) :
    ∃ gasUsed output logs state,
      prepared.transacted transact = .ok (.success gasUsed output logs, state) := by
  unfold Prepared.succeeds at succeeds
  split at succeeds
  · next gasUsed output logs state transacted => exact ⟨gasUsed, output, logs, state, transacted⟩
  · cases succeeds

/-- A constructor that ends in success in a deploy that succeeds leaves its contract in the parent,
touched and with a nonce, if the contract is not destroyed. -/
theorem Prepared.created_of_success {result : KeylessResult} (creates : engine.CreatesContracts env)
    (transacted : prepared.transacted (sandboxTransact env engine) =
      .ok (.success gasUsed output logs, state))
    (returned : (finishKeylessDeploy env (sandboxTransact env engine) prepared).result =
      some result) (succeeded : result.result.isOk = true)
    (alive : ∀ account, state.lookup (env.createAddress prepared.sandboxTx.caller 0) =
      some account → account.status.selfDestructed = false) :
    let created := (finishKeylessDeploy env (sandboxTransact env engine) prepared).context.journal
      |>.account (env.createAddress prepared.sandboxTx.caller 0)
    1 ≤ created.info.nonce ∧ created.status.touched = true := by
  obtain ⟨limit, caller, constructed⟩ := Prepared.transacted_of_success transacted
  obtain ⟨account, found, nonce, touched⟩ := creates _ _ _ _ _ _ _ _ _ constructed
  obtain ⟨journal, merging, merged, reached, through, view⟩ :=
    finishKeylessDeploy_success returned succeeded
  obtain ⟨-, ⟨execution, ran, -⟩, -⟩ := Prepared.merging_some reached
  obtain ⟨rfl, rfl⟩ := Prod.mk.inj (Except.ok.inj (ran.symm.trans transacted))
  have createdView := (congrFun view _).trans (view_merged through found)
  rw [AccountView.merge, if_neg (by rw [alive account found]; exact Bool.false_ne_true)]
    at createdView
  refine ⟨?_, (congrArg AccountView.touched createdView).trans ?_⟩
  · exact Nat.le_trans nonce (Nat.le_of_eq (congrArg AccountView.nonce createdView).symm)
  · rw [touched, Bool.or_true]

/-! ### A relayed deploy -/

namespace RelayTx

variable {env : KeylessEnv} (tx : RelayTx env) (database : Database)

/-- The journal the call leaves. -/
def left : Journal :=
  (tx.call database).context.journal

/-- The call lowers no nonce. -/
theorem rises : (tx.opening.journal database).Rises (tx.left database) := by
  have prepares := @prepareKeylessDeploy_loads (fun _ _ _ => 0) tx.envOf (tx.context database)
    tx.inputs tx.txBytes tx.gasLimitOverride
  unfold left call executeKeylessDeployCall
  generalize prepareKeylessDeploy tx.envOf (tx.context database) tx.inputs tx.txBytes
    tx.gasLimitOverride = step at prepares ⊢
  cases step with
  | error exit => exact prepares.1.rises
  | ok prepared => exact (Journal.OnlyLoads.rises prepares).trans (finishKeylessDeploy_rises _ _ _)

variable (address : Address)

theorem alive : ((tx.left database).account address).status.selfDestructed = false :=
  (congrArg Prod.snd ((tx.rises database).grown address).1).trans
    (tx.opening.alive database address)

/-- The journal that is committed. -/
def settled : Journal :=
  tx.closing.settle (tx.left database)

theorem settled_alive : ((tx.settled database).account address).status.selfDestructed = false :=
  (tx.closing.alive _ address).trans (tx.alive database address)

theorem nonce_settled :
    ((tx.left database).account address).info.nonce ≤
      ((tx.settled database).account address).info.nonce :=
  tx.closing.nonce _ address

/-- The transaction lowers no nonce of the database. -/
theorem nonce_le_commit :
    (database.account address).info.nonce ≤
      ((tx.settled database).commit.account address).info.nonce := by
  have basic : (tx.settled database).database.basic = database.basic := by
    rw [settled, tx.closing.basic, (tx.rises database).database, tx.opening.basic]
  have same : ((tx.settled database).database.account address).info =
      (database.account address).info := by
    unfold Database.account
    rw [basic]
  rw [← same]
  refine Journal.nonce_le_commit _ address ?_ (tx.settled_alive database address)
  rw [same]
  exact Nat.le_trans (tx.opening.nonce database address)
    (Nat.le_trans ((tx.rises database).nonce address) (tx.nonce_settled database address))

variable {record : DeployRecord}

/-- A record is that of the deploy that was prepared. -/
theorem record_eq (recorded : tx.record database = some record) :
    ∃ prepared, tx.prepared database = .ok prepared ∧
      record =
        { signed := prepared.keylessTx
          constructed := prepared.constructs tx.envOf tx.engine
          completed :=
            prepared.succeeds tx.transact && (tx.call database).result.any (·.result.isOk) } := by
  unfold RelayTx.record at recorded
  cases preparedIs : tx.prepared database with
  | error exit =>
    rw [preparedIs] at recorded
    cases recorded
  | ok prepared =>
    rw [preparedIs] at recorded
    exact ⟨prepared, rfl, (Option.some.inj recorded).symm⟩

/-- Preparing a deploy only loads accounts. -/
theorem prepared_loads {prepared : Prepared} (preparedIs : tx.prepared database = .ok prepared) :
    (tx.opening.journal database).OnlyLoads (fun _ _ _ => 0) prepared.context.journal := by
  have loads := @prepareKeylessDeploy_loads (fun _ _ _ => 0) tx.envOf (tx.context database)
    tx.inputs tx.txBytes tx.gasLimitOverride
  rw [show prepareKeylessDeploy tx.envOf (tx.context database) tx.inputs tx.txBytes
    tx.gasLimitOverride = .ok prepared from preparedIs] at loads
  exact loads

/-- The transaction of a deploy that got as far as its sandbox recovers to a signer. -/
theorem record_recovers (recorded : tx.record database = some record) :
    ∃ signer, env.recover record.signed = some signer := by
  obtain ⟨prepared, preparedIs, rfl⟩ := tx.record_eq database recorded
  exact ⟨prepared.signer, (prepareKeylessDeploy_settles preparedIs).recovers⟩

theorem call_of_prepared {prepared : Prepared} (preparedIs : tx.prepared database = .ok prepared) :
    tx.call database = finishKeylessDeploy tx.envOf tx.transact prepared := by
  unfold call executeKeylessDeployCall
  rw [show prepareKeylessDeploy tx.envOf (tx.context database) tx.inputs tx.txBytes
    tx.gasLimitOverride = .ok prepared from preparedIs]

/-- A deploy only starts its constructor where the account to create has no nonce yet. -/
theorem nonce_of_constructed {signer : Address} (recorded : tx.record database = some record)
    (constructed : record.constructed = true) (recovers : env.recover record.signed = some signer) :
    (database.account (env.createAddress signer 0)).info.nonce = 0 := by
  obtain ⟨prepared, preparedIs, rfl⟩ := tx.record_eq database recorded
  have settles := prepareKeylessDeploy_settles preparedIs
  have recoversTo : env.recover prepared.keylessTx = some prepared.signer := settles.recovers
  have caller : prepared.sandboxTx.caller = signer := by
    rw [settles.tx]
    exact Option.some.inj (recoversTo.symm.trans recovers)
  have unused := Prepared.constructs_nonce constructed
  have loads := tx.prepared_loads database preparedIs
  rw [caller, Journal.OnlyLoads.nonce loads] at unused
  exact Nat.le_zero.mp (Nat.le_trans (tx.opening.nonce database _) (Nat.le_of_eq unused))

/-- A deploy that completed leaves the created account with a nonce, unless it destroyed itself. -/
theorem nonce_of_completed {signer : Address} {chain : Chain}
    (leaves : LeavesContract chain (.relay tx)) (recorded : tx.record chain.database = some record)
    (completed : record.completed = true) (recovers : env.recover record.signed = some signer) :
    1 ≤ ((tx.settled chain.database).commit.account (env.createAddress signer 0)).info.nonce := by
  obtain ⟨prepared, preparedIs, rfl⟩ := tx.record_eq chain.database recorded
  have settles := prepareKeylessDeploy_settles preparedIs
  have recoversTo : env.recover prepared.keylessTx = some prepared.signer := settles.recovers
  obtain rfl : prepared.signer = signer := Option.some.inj (recoversTo.symm.trans recovers)
  have caller : prepared.sandboxTx.caller = prepared.signer := by
    rw [settles.tx]
    rfl
  obtain ⟨succeeds, ok⟩ := Bool.and_eq_true_iff.mp completed
  obtain ⟨gasUsed, output, logs, state, transacted⟩ := Prepared.exists_of_succeeds succeeds
  obtain ⟨result, returned, succeeded⟩ := (Option.any_eq_true _ _).mp ok
  have created := @Prepared.created_of_success _ tx.envOf _ _ _ _ _ _ tx.creates transacted
    (tx.call_of_prepared chain.database preparedIs ▸ returned) succeeded
    (fun account found => leaves prepared _ _ _ _ account preparedIs transacted (caller ▸ found))
  have exit : finishKeylessDeploy tx.envOf (sandboxTransact tx.envOf tx.engine) prepared =
      tx.call chain.database := (tx.call_of_prepared chain.database preparedIs).symm
  rw [exit, caller] at created
  have committed := (tx.settled chain.database).nonce_commit_of_touched
    (env.createAddress prepared.signer 0) (tx.closing.touched _ _ created.2)
    (tx.settled_alive _ _)
  rw [committed]
  exact Nat.le_trans created.1 (tx.nonce_settled _ _)

end RelayTx

/-- What a chain keeps: no constructor ran again, and every account that a completed deploy created
has a nonce. -/
structure Chain.Guarded (env : KeylessEnv) (chain : Chain) : Prop where
  once : chain.RunsOnce
  nonce : ∀ record ∈ chain.deploys, record.completed = true →
    ∀ signer, env.recover record.signed = some signer →
      1 ≤ (chain.database.account (env.createAddress signer 0)).info.nonce

/-- One transaction keeps this. -/
theorem Chain.Guarded.step {chain next : Chain} {event : ChainEvent env}
    (guarded : chain.Guarded env) (leaves : LeavesContract chain event)
    (stepped : chain.step env event = some next) : next.Guarded env := by
  cases event with
  | other tx =>
    cases stepped
    exact ⟨guarded.once, fun record member completed signer recovers =>
      Nat.le_trans (guarded.nonce record member completed signer recovers) (tx.nonce _ _)⟩
  | relay tx =>
    cases stepped
    have kept : ∀ record ∈ chain.deploys, record.completed = true →
        ∀ signer, env.recover record.signed = some signer →
        1 ≤ ((tx.settled chain.database).commit.account (env.createAddress signer 0)).info.nonce :=
      fun record member completed signer recovers =>
        Nat.le_trans (guarded.nonce record member completed signer recovers)
          (tx.nonce_le_commit chain.database _)
    cases recorded : tx.record chain.database with
    | none => exact ⟨guarded.once, kept⟩
    | some record =>
      refine ⟨List.pairwise_cons.mpr ⟨?_, guarded.once⟩, ?_⟩
      · intro earlier member completed same
        refine Bool.eq_false_iff.mpr fun constructed => ?_
        obtain ⟨signer, recovers⟩ := tx.record_recovers chain.database recorded
        have unused := tx.nonce_of_constructed chain.database recorded constructed recovers
        have used := guarded.nonce earlier member completed signer (same ▸ recovers)
        rw [unused] at used
        exact Nat.not_succ_le_zero 0 used
      · intro other member completed signer recovers
        rcases List.mem_cons.mp member with rfl | older
        · exact tx.nonce_of_completed leaves recorded completed recovers
        · exact kept other older completed signer recovers

/-- In every chain of transactions in which no constructor of a keyless deploy leaves its contract
destroyed, the constructor of a signed transaction is not started again once a deploy of it has
completed. -/
theorem runsOnce_of_leavesContract (env : KeylessEnv) (database : Database)
    (events : List (ChainEvent env)) (final : Chain)
    (ran : Library.run (Chain.step env) { database, deploys := [] } events = some final)
    (leaves : Library.StepsMeet (Chain.step env) LeavesContract
      { database, deploys := [] } events) :
    final.RunsOnce := by
  have initial : Chain.Guarded env { database, deploys := [] } :=
    ⟨List.Pairwise.nil, fun _ member => nomatch member⟩
  exact (Library.run_invariant_of_meets
    (fun _ _ _ guarded leaves stepped => guarded.step leaves stepped) initial leaves ran).once

/-! ### A contract that destroys itself -/

/-- An engine whose constructor leaves no code and may destroy its contract. -/
def codelessEngine (destroys : Bool) : SandboxEngine :=
  { flatEngine with
    construct := fun _ _ tx limit caller =>
      let status := { AccountStatus.loaded with created := true, createdLocal := true,
                                                touched := true, selfDestructed := destroys }
      let contract := { Account.ofInfo { AccountInfo.default with nonce := 1 } with status }
      { transacted := .ok
          (.success 100000 (.create [] (some (relayedEnv.createAddress tx.caller 0))) [],
           (AList.singleton tx.caller caller).insert
             (relayedEnv.createAddress tx.caller 0) contract)
        limitUsage := limit.getUsage
        volatileAccesses := 0
        queries := 0 } }

/-- A transaction that is only the call. -/
def relayOnce (destroys : Bool) : RelayTx relayedEnv where
  template := emptyParent
  rex5 := rfl
  opening :=
    { journal := fun database => { emptyParent.journal with database }
      basic := fun _ => rfl
      nonce := fun _ _ => Nat.le_refl _
      alive := fun _ _ => rfl }
  inputs := relayingCall
  txBytes := []
  gasLimitOverride := 200000
  initialTxGas := relayedEnv.initialTxGas
  newAccountGas := relayedEnv.newAccountGas
  engine := codelessEngine destroys
  creates := by
    intro context keylessTx tx limit caller gasUsed output logs state transacted
    cases transacted
    exact ⟨_, AList.lookup_insert _, Nat.le_refl 1, rfl⟩
  closing :=
    { settle := id
      basic := fun _ => rfl
      nonce := fun _ _ => Nat.le_refl _
      touched := fun _ _ touched => touched
      alive := fun _ _ => rfl }

theorem leavesContract_relayOnce (chain : Chain) :
    LeavesContract chain (.relay (relayOnce false)) := by
  intro prepared gasUsed output logs state account preparedIs transacted found
  obtain ⟨limit, caller, constructed⟩ := Prepared.transacted_of_success transacted
  cases constructed
  have signer : prepared.sandboxTx.caller = prepared.signer := by
    rw [(prepareKeylessDeploy_settles preparedIs).tx]
    rfl
  rw [signer, AList.lookup_insert] at found
  cases found
  rfl

/-- A chain over the empty database that relays the creation twice. -/
def relayTwice (destroys : Bool) : List (ChainEvent relayedEnv) :=
  [.relay (relayOnce destroys), .relay (relayOnce destroys)]

def emptyChain : Chain where
  database := emptyParent.journal.database
  deploys := []

/-- A constructor that destroys its contract runs to a successful end twice. -/
theorem replayed_after_selfdestruct :
    ∃ final, Library.run (Chain.step relayedEnv) emptyChain (relayTwice true) = some final ∧
      final.deploys.map (fun deploy => (deploy.constructed, deploy.completed)) =
        [(true, true), (true, true)] ∧
      ¬ final.RunsOnce :=
  ⟨_, rfl, by decide, by decide⟩

theorem runsOnce_without_selfdestruct :
    ∃ final, Library.run (Chain.step relayedEnv) emptyChain (relayTwice false) = some final ∧
      final.deploys.map (fun deploy => (deploy.constructed, deploy.completed)) =
        [(false, false), (true, true)] ∧
      final.RunsOnce :=
  ⟨_, rfl, by decide,
    runsOnce_of_leavesContract relayedEnv emptyChain.database (relayTwice false) _ rfl
      ⟨leavesContract_relayOnce _, leavesContract_relayOnce _, trivial⟩⟩

end MegaEvm
