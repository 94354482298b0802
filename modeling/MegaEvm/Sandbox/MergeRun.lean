/-
This file lifts the merge of one account to the whole loop. At every point of the loop
the changes recorded since the checkpoint undo, address by address, what the loop did
to the view of the parent; so the merge either gives every account of the sandbox its
merged view and leaves the others alone, or fails and reverts to the view from before.
Inspecting an account never changes a view.
-/

import MegaEvm.Sandbox.MergeView

namespace MegaEvm

open Library Journal AccountChange

/-- An unloaded slot reads what the database has, and zero in a created account. -/
def Database.unloaded (database : Database) (address : Address) : Unloaded :=
  fun created key => if created then 0 else database.storage address key

namespace Journal

/-! ### The view of a journal -/

/-- The account at an address, loaded or as the database has it. -/
def account (journal : Journal) (address : Address) : Account :=
  (journal.state address).getD (journal.database.account address)

/-- The view of every account over what unloaded slots read. -/
def viewOver (journal : Journal) (stored : Address → Unloaded) (address : Address) : AccountView :=
  (journal.account address).view (stored address)

/-- The view of every account as the engine reads it. -/
def view (journal : Journal) : Address → AccountView :=
  journal.viewOver journal.database.unloaded

/-- Nothing of the journal changed but what is loaded, and that does not change the view over what
unloaded slots read. -/
structure OnlyLoads (stored : Address → Unloaded) (before after : Journal) : Prop where
  database : after.database = before.database
  entries : after.entries = before.entries
  logs : after.logs = before.logs
  view : after.viewOver stored = before.viewOver stored
  grown : ∀ address, (before.account address).Grown (after.account address)

variable {stored : Address → Unloaded}

theorem OnlyLoads.refl (journal : Journal) : OnlyLoads stored journal journal :=
  ⟨rfl, rfl, rfl, rfl, fun _ => Account.Grown.refl _⟩

theorem OnlyLoads.trans {first second third : Journal} (earlier : OnlyLoads stored first second)
    (later : OnlyLoads stored second third) : OnlyLoads stored first third :=
  ⟨later.database.trans earlier.database, later.entries.trans earlier.entries,
    later.logs.trans earlier.logs, later.view.trans earlier.view,
    fun address => (earlier.grown address).trans (later.grown address)⟩

theorem account_setAccount_same (journal : Journal) (address : Address) (account : Account) :
    (journal.setAccount address account).account address = account := by
  simp only [Journal.account, setAccount, Function.update_self, Option.getD_some]

variable {address : Address}

variable (journal : Journal)

include journal

theorem account_setAccount_other {other : Address} (account : Account)
    (distinct : other ≠ address) :
    (journal.setAccount address account).account other = journal.account other := by
  simp only [Journal.account, setAccount, Function.update_of_ne distinct]

theorem viewOver_setAccount_other {other : Address} (account : Account)
    (distinct : other ≠ address) : (journal.setAccount address account).viewOver stored other =
      journal.viewOver stored other := by
  unfold viewOver
  rw [account_setAccount_other journal account distinct]

theorem viewOver_setAccount_same (address : Address) (account : Account) :
    (journal.setAccount address account).viewOver stored address =
      account.view (stored address) := by
  unfold viewOver
  rw [account_setAccount_same]

/-- Loading the code of an account is not a change of its view. -/
theorem OnlyLoads.setAccount (address : Address) (code : Option Bytecode) :
    OnlyLoads stored journal (journal.setAccount address
      ((journal.account address).setCode (journal.account address).info.codeHash code)) := by
  refine ⟨rfl, rfl, rfl, funext fun other => ?_, fun other => ?_⟩
  · by_cases same : other = address
    · subst same
      rw [viewOver_setAccount_same]
      rfl
    · exact viewOver_setAccount_other journal _ same
  · by_cases same : other = address
    · subst same
      rw [account_setAccount_same]
      exact Account.Grown.of_same rfl rfl
    · rw [account_setAccount_other journal _ same]
      exact Account.Grown.refl _

omit journal

/-! ### Inspection -/

/-- What an inspection did: it loaded the account it returns, perhaps with its code, or it failed
and loaded nothing. -/
structure Inspected (stored : Address → Unloaded) (journal : Journal) (address : Address)
    (result : Journal × Option Account) : Prop where
  onlyLoads : OnlyLoads stored journal result.1
  loaded : ∀ account, result.2 = some account →
    result.1.state = Function.update journal.state address (some account) ∧
      ∃ code, account =
        (journal.account address).setCode (journal.account address).info.codeHash code
  unloaded : result.2 = none → result.1.state = journal.state

/-- What reading an account did: nothing, if it could be read or not. -/
structure Read (stored : Address → Unloaded) (journal : Journal) (account : Account)
    (result : Journal × Option Account) : Prop where
  onlyLoads : OnlyLoads stored journal result.1
  state : result.1.state = journal.state
  found : ∀ read, result.2 = some read → ∃ code, read = account.setCode account.info.codeHash code

/-- Hydrating an account reads it. -/
theorem hydrate_read (journal : Journal) (account : Account) :
    Read stored journal account (journal.hydrate account) := by
  unfold hydrate
  split
  · unfold query
    cases journal.database.failing journal.queries with
    | true =>
      exact ⟨⟨rfl, rfl, rfl, rfl, fun _ => Account.Grown.refl _⟩, rfl,
        fun _ impossible => by cases impossible⟩
    | false =>
      exact ⟨⟨rfl, rfl, rfl, rfl, fun _ => Account.Grown.refl _⟩, rfl,
        fun _ found => ⟨_, (Option.some.inj found).symm⟩⟩
  · exact ⟨OnlyLoads.refl journal, rfl,
      fun _ found => ⟨account.info.code, (Option.some.inj found).symm⟩⟩

variable {journal : Journal}

/-- Keeping an account that was read inspects it. -/
theorem Read.keep {result : Journal × Option Account}
    (read : Read stored journal (journal.account address) result) :
    Inspected stored journal address (Journal.keep address result) := by
  obtain ⟨after, found⟩ := result
  obtain ⟨onlyLoads, state, codes⟩ := read
  cases found with
  | none => exact ⟨onlyLoads, (nofun), fun _ => state⟩
  | some account =>
    obtain ⟨code, rfl⟩ := codes account rfl
    have same : after.account address = journal.account address := by
      unfold account
      rw [state, onlyLoads.database]
    refine ⟨onlyLoads.trans ?_, fun kept found => ?_, nofun⟩
    · rw [← same]
      exact OnlyLoads.setAccount after address code
    · obtain rfl := Option.some.inj found
      refine ⟨?_, code, rfl⟩
      show Function.update after.state address _ = _
      rw [show after.state = journal.state from state]

theorem inspectAccount_inspected (stored : Address → Unloaded) (journal : Journal)
    (address : Address) (loadCode : Bool) :
    Inspected stored journal address (journal.inspectAccount address loadCode) := by
  unfold inspectAccount
  cases resident : journal.state address with
  | some account =>
    have same : account = journal.account address := by
      unfold Journal.account
      rw [resident, Option.getD_some]
    rw [same]
    exact (journal.hydrate_read _).keep
  | none =>
    have same : journal.database.account address = journal.account address := by
      unfold Journal.account
      rw [resident, Option.getD_none]
    unfold query
    cases journal.database.failing journal.queries with
    | true =>
      exact ⟨⟨rfl, rfl, rfl, rfl, fun _ => Account.Grown.refl _⟩, (nofun), fun _ => rfl⟩
    | false =>
      dsimp only
      rw [same]
      simp only [Bool.false_eq_true, if_false]
      split
      · obtain ⟨onlyLoads, state, found⟩ := hydrate_read
          { journal with queries := journal.queries + 1 } (journal.account address)
        exact Read.keep ⟨⟨onlyLoads.database, onlyLoads.entries, onlyLoads.logs, onlyLoads.view,
          onlyLoads.grown⟩, state, found⟩
      · exact Read.keep ⟨⟨rfl, rfl, rfl, rfl, fun _ => Account.Grown.refl _⟩, rfl,
          fun _ found => ⟨_, (Option.some.inj found).symm⟩⟩

/-- The occupancy read changes nothing but what is loaded. -/
theorem inspectAccountCodeHash_spec (journal : Journal) (address : Address) :
    OnlyLoads stored journal (journal.inspectAccountCodeHash address).1 ∧
      ∀ codeHash, (journal.inspectAccountCodeHash address).2 = some codeHash →
        codeHash = (journal.account address).info.codeHash := by
  unfold inspectAccountCodeHash
  cases resident : journal.state address with
  | some account =>
    refine ⟨OnlyLoads.refl journal, fun codeHash found => ?_⟩
    rw [Journal.account, resident]
    exact (Option.some.inj found).symm
  | none =>
    have same : journal.account address = journal.database.account address := by
      unfold Journal.account
      rw [resident, Option.getD_none]
    unfold query
    cases journal.database.failing journal.queries with
    | true =>
      exact ⟨⟨rfl, rfl, rfl, rfl, fun _ => Account.Grown.refl _⟩,
        fun _ impossible => by cases impossible⟩
    | false =>
      have loads :=
        @OnlyLoads.setAccount stored { journal with queries := journal.queries + 1 } address
        (journal.account address).info.code
      refine ⟨?_, fun codeHash found => same ▸ (Option.some.inj found).symm⟩
      show OnlyLoads stored journal (setAccount _ address (journal.database.account address))
      rw [← same]
      exact ⟨loads.database, loads.entries, loads.logs, loads.view, loads.grown⟩

/-! ### The loop -/

/-- How far a loop has gone from `start`: the changes recorded since then undo, address by address,
what it did to the view. -/
structure MergedSince (stored : Address → Unloaded) (start current : Journal)
    (newer : List (Address × AccountChange)) : Prop where
  database : current.database = start.database
  logs : start.logs <+: current.logs
  entries : current.entries = newer ++ start.entries
  undone : ∀ address, Library.unwind AccountChange.undoView (Library.changesOf address newer)
    (current.viewOver stored address) = start.viewOver stored address
  undoable : ∀ address, ∀ change ∈ Library.changesOf address newer,
    ∃ account, current.state address = some account ∧
      change.Undoable (stored address) account
  grown : ∀ address, (start.account address).Grown (current.account address)
  resident : ∀ address, (start.state address).isSome → (current.state address).isSome

theorem MergedSince.refl (journal : Journal) : MergedSince stored journal journal [] where
  database := rfl
  logs := List.prefix_rfl
  entries := rfl
  undone _ := rfl
  undoable _ _ member := nomatch member
  grown _ := Account.Grown.refl _
  resident _ present := present

variable {start current : Journal} {newer : List (Address × AccountChange)}

/-- Work that can be undone, after other such work. -/
theorem MergedSince.trans {middle : Journal} {older : List (Address × AccountChange)}
    (earlier : MergedSince stored start middle older)
    (later : MergedSince stored middle current newer) :
    MergedSince stored start current (newer ++ older) where
  database := later.database.trans earlier.database
  logs := earlier.logs.trans later.logs
  entries := by rw [later.entries, earlier.entries, List.append_assoc]
  undone address := by
    rw [changesOf_append, unwind_append, later.undone, earlier.undone]
  undoable address change member := by
    rw [changesOf_append] at member
    rcases List.mem_append.mp member with isNewer | isOlder
    · exact later.undoable address change isNewer
    · obtain ⟨account, resident, undoable⟩ := earlier.undoable address change isOlder
      obtain ⟨now, present⟩ := Option.isSome_iff_exists.mp
        (later.resident address (by rw [resident]; rfl))
      refine ⟨now, present, undoable.mono ?_⟩
      have grown := later.grown address
      rw [Journal.account, Journal.account, resident, present] at grown
      exact grown
  grown address := (earlier.grown address).trans (later.grown address)
  resident address present := later.resident address (earlier.resident address present)

/-- A failed inspection. -/
theorem MergedSince.onlyLoads {loaded : Journal} (since : MergedSince stored start current newer)
    (loads : OnlyLoads stored current loaded) (state : loaded.state = current.state) :
    MergedSince stored start loaded newer where
  database := loads.database.trans since.database
  logs := loads.logs ▸ since.logs
  entries := loads.entries.trans since.entries
  undone address := by rw [loads.view, since.undone]
  undoable address change member := by rw [state]; exact since.undoable address change member
  grown address := (since.grown address).trans (loads.grown address)
  resident address present := state ▸ since.resident address present

/-- One account more. -/
theorem MergedSince.record {inspected : Journal} (since : MergedSince stored start current newer)
    {parent : Account} {merging : Merging} (loads : OnlyLoads stored current inspected)
    (state : inspected.state = Function.update current.state address (some parent))
    (continues : Merging.Continues (stored address) ⟨parent, []⟩ merging) :
    MergedSince stored start (inspected.record address merging.account merging.changes)
      (merging.changes.map (fun change => (address, change)) ++ newer) := by
  obtain ⟨⟨changes, changesIs, undone, undoable⟩, grown⟩ := continues
  rw [List.append_nil] at changesIs
  subst changesIs
  have parentIs : inspected.account address = parent := by
    rw [Journal.account, state, Function.update_self, Option.getD_some]
  have parentView : parent.view (stored address) = current.viewOver stored address := by
    rw [← loads.view, viewOver, parentIs]
  have parentGrown : (current.account address).Grown merging.account :=
    Account.Grown.trans (parentIs ▸ loads.grown address) grown
  refine ⟨loads.database.trans since.database, ?_, ?_, ?_, ?_, ?_, ?_⟩
  · show _ <+: inspected.logs
    exact loads.logs ▸ since.logs
  · show _ ++ inspected.entries = _
    rw [loads.entries, since.entries, List.append_assoc]
  · intro other
    rw [changesOf_append, unwind_append]
    by_cases same : other = address
    · subst same
      have view : (inspected.record other merging.account merging.changes).viewOver stored other =
          merging.account.view (stored other) :=
        viewOver_setAccount_same inspected other merging.account
      rw [changesOf_same, view, undone]
      exact (congrArg _ parentView).trans (since.undone other)
    · have view : (inspected.record address merging.account merging.changes).viewOver stored other =
          current.viewOver stored other :=
        (viewOver_setAccount_other inspected _ same).trans (congrFun loads.view other)
      rw [changesOf_other _ same, unwind_nil, view, since.undone]
  · intro other change member
    rw [changesOf_append] at member
    by_cases same : other = address
    · subst same
      refine ⟨merging.account, Function.update_self .., ?_⟩
      rcases List.mem_append.mp member with isNewer | isOlder
      · rw [changesOf_same] at isNewer
        exact undoable change isNewer
      · obtain ⟨account, resident, older⟩ := since.undoable other change isOlder
        have same : current.account other = account := by
          rw [Journal.account, resident, Option.getD_some]
        exact older.mono (same ▸ parentGrown)
    · rw [changesOf_other _ same, List.nil_append] at member
      obtain ⟨account, resident, older⟩ := since.undoable other change member
      refine ⟨account, ?_, older⟩
      show Function.update inspected.state address _ other = _
      rw [Function.update_of_ne same, state, Function.update_of_ne same, resident]
  · intro other
    by_cases same : other = address
    · subst same
      refine (since.grown other).trans ?_
      exact (account_setAccount_same inspected other merging.account).symm ▸ parentGrown
    · refine (since.grown other).trans ((loads.grown other).trans ?_)
      exact (account_setAccount_other inspected merging.account same).symm ▸ Account.Grown.refl _
  · intro other present
    show (Function.update inspected.state address _ other).isSome
    by_cases same : other = address
    · subst same
      rw [Function.update_self]
      rfl
    · rw [Function.update_of_ne same, state, Function.update_of_ne same]
      exact since.resident other present

/-- Undoing changes only leaves the cache grown. -/
theorem grown_unwind (changes : List AccountChange) (value : Option Account) (default : Account) :
    (value.getD default).Grown
      ((unwind (fun change => Option.map (undo change)) changes value).getD
        default) := by
  induction changes generalizing value with
  | nil => exact Account.Grown.refl _
  | cons change rest inductionHypothesis =>
    refine Account.Grown.trans ?_ (inductionHypothesis (value.map change.undo))
    cases value with
    | none => exact Account.Grown.refl _
    | some account => exact change.grown_undo account

theorem MergedSince.grown_checkpointRevert (since : MergedSince stored start current newer)
    (address : Address) :
    (start.account address).Grown
      ((current.checkpointRevert start.checkpoint).account address) := by
  refine (since.grown address).trans ?_
  unfold account checkpointRevert
  dsimp only
  rw [rollback_apply]
  exact grown_unwind _ _ _

/-- Reverting to where the loop started restores the view, the changes and the logs. -/
theorem MergedSince.checkpointRevert (since : MergedSince stored start current newer) :
    OnlyLoads stored start (current.checkpointRevert start.checkpoint) := by
  have above : current.entries.length - start.checkpoint.journalIndex = newer.length := by
    rw [since.entries, List.length_append]
    exact Nat.add_sub_cancel ..
  refine ⟨since.database, ?_, ?_, funext fun address => ?_, since.grown_checkpointRevert⟩
  · show current.entries.drop (current.entries.length - start.checkpoint.journalIndex) = _
    rw [above, since.entries, List.drop_left]
  · exact (List.prefix_iff_eq_take.mp since.logs).symm
  -- The value of an address is its account, and every change of it was recorded on a loaded one.
  have unwound := unwind_map (fun change : AccountChange => Option.map change.undo)
    undoView
    (fun value => (value.getD (start.database.account address)).view
      (stored address))
    (fun value => ∀ change ∈ changesOf address newer, ∃ account, value = some account ∧
      change.Undoable (stored address) account)
    (changesOf address newer) ?_ ?_ (current.state address) (since.undoable address)
  · rw [← since.undone address, viewOver, viewOver, Journal.account, Journal.account]
    unfold Journal.checkpointRevert
    dsimp only
    rw [above, since.entries, List.take_left, rollback_apply, since.database]
    exact unwound
  · intro undone _ value holds change member
    obtain ⟨account, rfl, undoable⟩ := holds change member
    exact ⟨undone.undo account, rfl, undoable.mono (undone.grown_undo account)⟩
  · intro change member value holds
    obtain ⟨account, rfl, undoable⟩ := holds change member
    exact change.view_undo account undoable

/-- Undoing the merge is sound for every account of the sandbox. -/
def MergesSoundly (stored : Address → Unloaded) (journal : Journal)
    (accounts : List (Sigma fun _ : Address => Account)) : Prop :=
  ∀ entry ∈ accounts,
    MergeSound (stored entry.1) entry.2 (journal.account entry.1)

theorem mergeSound_setCode {stored : Unloaded} {sandbox parent : Account}
    (sound : MergeSound stored sandbox parent) (code : Option Bytecode) :
    MergeSound stored sandbox (parent.setCode parent.info.codeHash code) :=
  ⟨sound.reads, sound.indifferent⟩

/-- The loop over accounts the parent has not merged yet. -/
theorem MergedSince.applySandboxAccounts (accounts : List (Sigma fun _ : Address => Account))
    (nodup : accounts.NodupKeys) (sound : start.MergesSoundly stored accounts)
    (since : MergedSince stored start current newer)
    (untouched : ∀ entry ∈ accounts, current.state entry.1 = start.state entry.1) :
    ∃ newest, MergedSince stored start (current.applySandboxAccounts accounts).1 newest := by
  induction accounts generalizing current newer with
  | nil => exact ⟨newer, since⟩
  | cons entry rest inductionHypothesis =>
    obtain ⟨address, sandbox⟩ := entry
    obtain ⟨absent, nodupRest⟩ := List.nodupKeys_cons.mp nodup
    have inspects := current.inspectAccount_inspected stored address false
    unfold applySandboxAccounts
    generalize current.inspectAccount address false = result at inspects ⊢
    obtain ⟨inspected, found⟩ := result
    obtain ⟨loads, loaded, unloaded⟩ := inspects
    cases found with
    | none => exact ⟨newer, since.onlyLoads loads (unloaded rfl)⟩
    | some parent =>
      obtain ⟨state, code, parentIs⟩ := loaded parent rfl
      have same : current.account address = start.account address := by
        unfold account
        rw [untouched _ List.mem_cons_self, since.database]
      have parentSound : MergeSound (stored address) sandbox parent := by
        rw [parentIs, same]
        exact mergeSound_setCode (sound _ List.mem_cons_self) code
      have recorded := since.record loads state (mergeSandboxAccount_continues parentSound)
      dsimp only
      generalize mergeSandboxAccount sandbox parent = result at recorded ⊢
      obtain ⟨merging, merged⟩ := result
      cases merged with
      | false => exact ⟨_, recorded⟩
      | true =>
        refine inductionHypothesis nodupRest
          (fun other member => sound other (List.mem_cons_of_mem _ member)) recorded ?_
        intro other member
        have distinct : other.1 ≠ address := by
          have keyed := List.mem_keys_of_mem member
          exact fun same => absent (same ▸ keyed)
        show Function.update inspected.state address _ other.1 = _
        rw [Function.update_of_ne distinct, state, Function.update_of_ne distinct]
        exact untouched other (List.mem_cons_of_mem _ member)

/-- The views that merging these accounts is to give. -/
def mergeViews (views : Address → AccountView)
    (accounts : List (Sigma fun _ : Address => Account)) (address : Address) : AccountView :=
  match accounts.dlookup address with
  | some sandbox => (views address).merge sandbox
  | none => views address

/-- The view a journal is to have after merging these accounts. -/
def mergedView (journal : Journal) (accounts : List (Sigma fun _ : Address => Account)) :
    Address → AccountView :=
  mergeViews journal.view accounts

variable {merged : Journal}

/-- A loop that goes through gives every account of the sandbox its merged view and leaves the
others and the logs alone. -/
theorem viewOver_applySandboxAccounts (cleared : ∀ address key, stored address true key = 0)
    (accounts : List (Sigma fun _ : Address => Account)) (nodup : accounts.NodupKeys)
    {journal merged : Journal} (through : journal.applySandboxAccounts accounts = (merged, true)) :
    merged.viewOver stored = mergeViews (journal.viewOver stored) accounts ∧
      merged.logs = journal.logs ∧ merged.database = journal.database := by
  induction accounts generalizing journal with
  | nil => exact (Prod.mk.inj through).1 ▸ ⟨rfl, rfl, rfl⟩
  | cons entry rest inductionHypothesis =>
    obtain ⟨address, sandbox⟩ := entry
    obtain ⟨absent, nodupRest⟩ := List.nodupKeys_cons.mp nodup
    have inspects := journal.inspectAccount_inspected stored address false
    unfold applySandboxAccounts at through
    generalize journal.inspectAccount address false = result at inspects through
    obtain ⟨inspected, found⟩ := result
    obtain ⟨loads, loaded, -⟩ := inspects
    cases found with
    | none => cases (Prod.mk.inj through).2
    | some parent =>
      obtain ⟨state, code, parentIs⟩ := loaded parent rfl
      dsimp only at through
      generalize mergedIs : mergeSandboxAccount sandbox parent = result at through
      obtain ⟨merging, mergedOne⟩ := result
      cases mergedOne with
      | false => cases (Prod.mk.inj through).2
      | true =>
        obtain ⟨viewRest, logs, database⟩ := inductionHypothesis nodupRest through
        refine ⟨funext fun other => ?_, logs.trans loads.logs, database.trans loads.database⟩
        rw [viewRest, mergeViews, mergeViews]
        by_cases same : other = address
        · subst same
          rw [List.dlookup_eq_none.mpr absent, List.dlookup_cons_eq]
          refine (viewOver_setAccount_same inspected other merging.account).trans ?_
          rw [view_mergeSandboxAccount (cleared other) mergedIs, parentIs]
          rfl
        · have view :
              (inspected.record address merging.account merging.changes).viewOver stored other =
                journal.viewOver stored other :=
            (viewOver_setAccount_other inspected _ same).trans (congrFun loads.view other)
          rw [List.dlookup_cons_ne _ _ same, view]

/-- The merge goes through if its loop does. -/
theorem applySandboxStateJournaled_true_iff (journal merged : Journal) (state : EvmState) :
    journal.applySandboxStateJournaled state = (merged, true) ↔
      journal.applySandboxAccounts state.entries = (merged, true) := by
  unfold applySandboxStateJournaled
  generalize journal.applySandboxAccounts state.entries = result
  obtain ⟨looped, success⟩ := result
  cases success with
  | true => exact Iff.rfl
  | false => exact ⟨fun impossible => (nomatch impossible), fun impossible => (nomatch impossible)⟩

variable {sandboxState : EvmState}

/-- A merge that goes through gives the merged view and adds no log. -/
theorem applySandboxStateJournaled_merged
    (through : journal.applySandboxStateJournaled sandboxState = (merged, true)) :
    merged.view = journal.mergedView sandboxState.entries ∧ merged.logs = journal.logs := by
  obtain ⟨view, logs, database⟩ := viewOver_applySandboxAccounts
    (fun _ _ => rfl : ∀ address key, journal.database.unloaded address true key = 0)
    sandboxState.entries sandboxState.nodupKeys
    ((applySandboxStateJournaled_true_iff journal merged sandboxState).mp through)
  refine ⟨?_, logs⟩
  rw [Journal.view, database]
  exact view

/-- After a merge that goes through, the account is the merged one in the view. -/
theorem view_merged {address : Address} {account : Account}
    (through : journal.applySandboxStateJournaled sandboxState = (merged, true))
    (found : sandboxState.lookup address = some account) :
    merged.view address = (journal.view address).merge account := by
  rw [(applySandboxStateJournaled_merged through).1, mergedView, mergeViews,
    show sandboxState.entries.dlookup address = some account from found]

variable (sound : journal.MergesSoundly stored sandboxState.entries)

include sound

variable (through : journal.applySandboxStateJournaled sandboxState = (merged, true))

include through

/-- A merge that goes through can be undone. -/
theorem MergedSince.applySandboxStateJournaled :
    ∃ newest, MergedSince stored journal merged newest := by
  obtain ⟨newest, since⟩ := (MergedSince.refl journal).applySandboxAccounts sandboxState.entries
    sandboxState.nodupKeys sound fun _ _ => rfl
  rw [(applySandboxStateJournaled_true_iff journal merged sandboxState).mp through] at since
  exact ⟨newest, since⟩

/-- A merge that goes through only grows what is loaded. -/
theorem applySandboxStateJournaled_grown (address : Address) :
    (journal.account address).Grown (merged.account address) := by
  obtain ⟨newest, since⟩ := MergedSince.applySandboxStateJournaled sound through
  exact since.grown address

omit through

/-- A merge that fails is undone. -/
theorem applySandboxStateJournaled_failed
    (failed : journal.applySandboxStateJournaled sandboxState = (merged, false)) :
    OnlyLoads stored journal merged := by
  obtain ⟨newest, since⟩ := (MergedSince.refl journal).applySandboxAccounts sandboxState.entries
    sandboxState.nodupKeys sound fun _ _ => rfl
  unfold applySandboxStateJournaled at failed
  generalize journal.applySandboxAccounts sandboxState.entries = result at since failed
  obtain ⟨looped, success⟩ := result
  cases success with
  | true => cases (Prod.mk.inj failed).2
  | false => exact (Prod.mk.inj failed).1 ▸ since.checkpointRevert

omit sound

/-! ### What was loaded -/

/-- Nothing that was loaded changed, and what has been loaded since is as the database has it, and
cold. -/
structure Kept (before after : Journal) : Prop where
  logs : after.logs = before.logs
  entries : after.entries = before.entries
  balance : ∀ address, (after.account address).info.balance = (before.account address).info.balance
  nonce : ∀ address, (after.account address).info.nonce = (before.account address).info.nonce
  codeHash : ∀ address,
    (after.account address).info.codeHash = (before.account address).info.codeHash
  slots : ∀ address key slot, (before.account address).storage.lookup key = some slot →
    ∃ kept, (after.account address).storage.lookup key = some kept ∧
      kept.presentValue = slot.presentValue
  cold : ∀ address, (before.account address).Grown (after.account address)

theorem OnlyLoads.kept {before after : Journal} (loads : OnlyLoads stored before after) :
    Kept before after where
  logs := loads.logs
  entries := loads.entries
  balance address := congrArg AccountView.balance (congrFun loads.view address)
  nonce address := congrArg AccountView.nonce (congrFun loads.view address)
  codeHash address := congrArg AccountView.codeHash (congrFun loads.view address)
  cold := loads.grown
  slots address key slot loaded := by
    have member := (loads.grown address).kept (AList.lookup_isSome.mp (by rw [loaded]; rfl))
    obtain ⟨kept, found⟩ := Option.isSome_iff_exists.mp (AList.lookup_isSome.mpr member)
    refine ⟨kept, found, ?_⟩
    rw [← Account.view_storage_of_loaded _ (stored address) found,
      ← Account.view_storage_of_loaded _ (stored address) loaded]
    exact congrFun (congrArg AccountView.storage (congrFun loads.view address)) key

end Journal

end MegaEvm
