/-
This file shows that the sandbox merge does not depend on the order in which the hash
maps of the sandbox state are iterated. The merge of one account reads and changes
that account alone, and within it every slot is merged once with what the parent had;
so the loop over the accounts has a closed form in which each address is looked up on
its own. Whether the loop goes through is a matter of every account merging and of no
query failing among as many as all the accounts need, whatever their order.
-/

import MegaEvm.Sandbox.MergeRun

namespace MegaEvm

open Merging Journal

/-! ### The slots of one account -/

namespace Merging

/-- The change that merging a slot records, if it records one. -/
def slotChange (parent : Account) (slot : Sigma fun _ : U256 => EvmStorageSlot) :
    Option AccountChange :=
  let hadValue :=
    ((parent.storage.lookup slot.1).map EvmStorageSlot.presentValue).getD slot.2.originalValue
  if slot.2.presentValue = hadValue then none else some (.storageChanged slot.1 hadValue)

variable (merging : Merging) (slots : List (Sigma fun _ : U256 => EvmStorageSlot))

theorem changes_mergeSlot (slot : Sigma fun _ : U256 => EvmStorageSlot) :
    (merging.mergeSlot slot.1 slot.2).changes =
      (slotChange merging.account slot).toList ++ merging.changes := by
  unfold mergeSlot slotChange
  dsimp only
  split <;> rfl

/-- Merging slots is merging the finite map of slots. -/
theorem account_mergeSlots :
    (merging.mergeSlots slots).account =
      { merging.account with
        storage := slots.foldl
          (fun map slot => map.insert slot.1 (mergedSlot (map.lookup slot.1) slot.2))
          merging.account.storage } := by
  induction slots generalizing merging with
  | nil => rfl
  | cons slot rest inductionHypothesis =>
    exact inductionHypothesis (merging.mergeSlot slot.1 slot.2)

/-- Each slot is compared with what the parent had before any of them was merged. -/
theorem changes_mergeSlots (nodup : slots.NodupKeys) :
    (merging.mergeSlots slots).changes =
      (slots.filterMap (slotChange merging.account)).reverse ++ merging.changes := by
  induction slots generalizing merging with
  | nil => rfl
  | cons slot rest inductionHypothesis =>
    obtain ⟨absent, nodupRest⟩ := List.nodupKeys_cons.mp nodup
    have others : rest.filterMap (slotChange (merging.mergeSlot slot.1 slot.2).account) =
        rest.filterMap (slotChange merging.account) := by
      refine List.filterMap_congr fun other member => ?_
      have distinct : other.1 ≠ slot.1 := fun same => absent (same ▸ List.mem_keys_of_mem member)
      have lookup : (merging.mergeSlot slot.1 slot.2).account.storage.lookup other.1 =
          merging.account.storage.lookup other.1 := AList.lookup_insert_ne distinct
      unfold slotChange
      rw [lookup]
    show ((merging.mergeSlot slot.1 slot.2).mergeSlots rest).changes = _
    rw [inductionHypothesis _ nodupRest, others, changes_mergeSlot, List.filterMap_cons]
    cases slotChange merging.account slot with
    | none => rfl
    | some change => simp

end Merging

/-! ### The order of the slots -/

/-- The same account with its slots in another order. -/
structure Account.Reordered (first second : Account) : Prop where
  info : second.info = first.info
  status : second.status = first.status
  storage : first.storage.entries.Perm second.storage.entries

/-- The same account, slot by slot. -/
structure Account.Same (first second : Account) : Prop where
  info : second.info = first.info
  status : second.status = first.status
  storage : ∀ key, second.storage.lookup key = first.storage.lookup key

theorem Account.Same.refl (account : Account) : account.Same account :=
  ⟨rfl, rfl, fun _ => rfl⟩

/-- Two merges of an account came to the same account, with the same changes in some order. -/
structure Merging.Same (first second : Merging) : Prop where
  account : first.account.Same second.account
  changes : first.changes.Perm second.changes

theorem Merging.Same.refl (merging : Merging) : merging.Same merging :=
  ⟨Account.Same.refl _, List.Perm.refl _⟩

section Reordered

variable {first second : Account}

theorem Account.Reordered.lookup (reordered : first.Reordered second) (key : U256) :
    second.storage.lookup key = first.storage.lookup key :=
  (AList.perm_lookup reordered.storage).symm

theorem Merging.mergeSlots_same (merging : Merging) (reordered : first.Reordered second) :
    (merging.mergeSlots first.storage.entries).Same
      (merging.mergeSlots second.storage.entries) := by
  refine ⟨⟨?_, ?_, fun key => ?_⟩, ?_⟩
  · rw [account_mergeSlots, account_mergeSlots]
  · rw [account_mergeSlots, account_mergeSlots]
  · have lookup : second.storage.entries.dlookup key = first.storage.entries.dlookup key :=
      reordered.lookup key
    rw [account_mergeSlots, account_mergeSlots]
    rw [Library.lookup_foldl_insert _ _ _ second.storage.nodupKeys,
      Library.lookup_foldl_insert _ _ _ first.storage.nodupKeys, lookup]
  · rw [changes_mergeSlots _ _ first.storage.nodupKeys,
      changes_mergeSlots _ _ second.storage.nodupKeys]
    refine List.Perm.append_right _ ?_
    exact (List.reverse_perm _).trans
      ((reordered.storage.filterMap _).trans (List.reverse_perm _).symm)

/-- Only the slots to be merged are visited in the order of the sandbox. -/
theorem mergeSandboxAccount_same (reordered : first.Reordered second) (parent : Account) :
    (mergeSandboxAccount second parent).2 = (mergeSandboxAccount first parent).2 ∧
      (mergeSandboxAccount first parent).1.Same (mergeSandboxAccount second parent).1 := by
  have prepared : prepared second parent = prepared first parent := by
    unfold prepared zeroParentStorageAbsentFromSandbox
    simp only [reordered.status, reordered.lookup]
  have destroyed : applySandboxCreatedSelfdestruct second parent =
      applySandboxCreatedSelfdestruct first parent := by
    unfold applySandboxCreatedSelfdestruct
    rw [reordered.status]
  have balanced (merging : Merging) :
      merging.mergeBalance second = merging.mergeBalance first := by
    unfold mergeBalance
    rw [reordered.info]
  have counted (merging : Merging) : merging.mergeNonce second = merging.mergeNonce first := by
    unfold mergeNonce
    rw [reordered.info]
  have coded (merging : Merging) : merging.mergeCode second = merging.mergeCode first := by
    unfold mergeCode
    rw [reordered.info]
  unfold mergeSandboxAccount
  dsimp only
  rw [prepared, destroyed, balanced, counted, coded, reordered.info, reordered.status]
  split
  · exact ⟨rfl, Merging.Same.refl _⟩
  split
  · exact ⟨rfl, Merging.Same.refl _⟩
  split
  · exact ⟨rfl, Merging.Same.refl _⟩
  split
  · exact ⟨rfl, Merging.Same.refl _⟩
  · exact ⟨rfl, mergeSlots_same _ reordered⟩

end Reordered

/-! ### The accounts in a closed form -/

namespace Journal

/-- The account that an inspection without the code gives. -/
def inspected (journal : Journal) (address : Address) : Account :=
  match journal.state address with
  | some account => hydrated journal.database account
  | none => journal.database.account address

/-- How many queries such an inspection makes. -/
def inspectionQueries (journal : Journal) (address : Address) : Nat :=
  match journal.state address with
  | some account =>
    if account.info.codeHash ≠ keccakEmpty ∧ account.info.code = none then 1 else 0
  | none => 1

/-- None of the next queries fails. -/
def Answers (journal : Journal) (count : Nat) : Prop :=
  ∀ number < count, journal.database.failing (journal.queries + number) = false

/-- The journal after an inspection that went through. -/
def afterInspection (journal : Journal) (address : Address) : Journal :=
  setAccount { journal with queries := journal.queries + journal.inspectionQueries address }
    address (journal.inspected address)

theorem inspectAccount_of_answers (journal : Journal) (address : Address)
    (answers : journal.Answers (journal.inspectionQueries address)) :
    journal.inspectAccount address false =
      (journal.afterInspection address, some (journal.inspected address)) := by
  unfold afterInspection
  unfold inspectionQueries at answers ⊢
  unfold inspectAccount inspected hydrate hydrated query
  cases resident : journal.state address with
  | some account =>
    rw [resident] at answers
    dsimp only at answers ⊢
    by_cases lazy : account.info.codeHash ≠ keccakEmpty ∧ account.info.code = none
    · rw [if_pos lazy] at answers
      have answered : journal.database.failing journal.queries = false := answers 0 Nat.one_pos
      rw [if_pos lazy, if_pos lazy, if_pos lazy, answered]
      rfl
    · rw [if_neg lazy, if_neg lazy, if_neg lazy]
      rfl
  | none =>
    rw [resident] at answers
    have answered : journal.database.failing journal.queries = false := answers 0 Nat.one_pos
    rw [answered]
    rfl

theorem inspectAccount_of_fails (journal : Journal) (address : Address)
    (fails : ¬journal.Answers (journal.inspectionQueries address)) :
    (journal.inspectAccount address false).2 = none := by
  -- The inspection makes one query at most, so it is this one that fails.
  have failed (count : Nat) (atMost : count ≤ 1) (fails : ¬journal.Answers count) :
      count = 1 ∧ journal.database.failing journal.queries = true := by
    unfold Answers at fails
    push Not at fails
    obtain ⟨number, below, fails⟩ := fails
    obtain rfl : number = 0 := by omega
    exact ⟨by omega, Bool.not_eq_false _ ▸ fails⟩
  unfold inspectionQueries at fails
  unfold inspectAccount hydrate query
  cases resident : journal.state address with
  | some account =>
    rw [resident] at fails
    dsimp only at fails ⊢
    by_cases lazy : account.info.codeHash ≠ keccakEmpty ∧ account.info.code = none
    · rw [if_pos lazy] at fails
      rw [if_pos lazy, (failed _ le_rfl fails).2]
      rfl
    · rw [if_neg lazy] at fails
      exact absurd (failed _ (Nat.zero_le 1) fails).1 Nat.zero_ne_one
  | none =>
    rw [resident] at fails
    rw [(failed _ le_rfl fails).2]
    rfl

/-- How many queries inspecting all these accounts makes. -/
def totalQueries (journal : Journal) (accounts : List (Sigma fun _ : Address => Account)) : Nat :=
  (accounts.map fun entry => journal.inspectionQueries entry.1).sum

/-- The merge of an account that the sandbox has under this address. -/
def mergeAt (journal : Journal) (address : Address) (sandbox : Account) : Merging × Bool :=
  mergeSandboxAccount sandbox (journal.inspected address)

/-- The journal that merging these accounts is to give. -/
def mergeAll (journal : Journal) (accounts : List (Sigma fun _ : Address => Account)) : Journal :=
  { journal with
    state := fun address =>
      match accounts.dlookup address with
      | some sandbox => some (journal.mergeAt address sandbox).1.account
      | none => journal.state address
    entries :=
      (accounts.reverse.flatMap fun entry =>
        (journal.mergeAt entry.1 entry.2).1.changes.map fun change => (entry.1, change)) ++
          journal.entries
    queries := journal.queries + journal.totalQueries accounts }

/-- Every account merges and no query fails. -/
structure MergesAll (journal : Journal) (accounts : List (Sigma fun _ : Address => Account)) :
    Prop where
  merges : ∀ entry ∈ accounts, (journal.mergeAt entry.1 entry.2).2 = true
  answers : journal.Answers (journal.totalQueries accounts)

/-- The journal after the merge of one account. -/
def afterMerge (journal : Journal) (address : Address) (sandbox : Account) : Journal :=
  (journal.afterInspection address).record address (journal.mergeAt address sandbox).1.account
    (journal.mergeAt address sandbox).1.changes

section AfterMerge

variable (journal : Journal) (sandbox : Account) {address other : Address}

theorem state_afterMerge_other (distinct : other ≠ address) :
    (journal.afterMerge address sandbox).state other = journal.state other := by
  show Function.update (Function.update journal.state address _) address _ other = _
  rw [Function.update_of_ne distinct, Function.update_of_ne distinct]

theorem state_afterMerge_same :
    (journal.afterMerge address sandbox).state address =
      some (journal.mergeAt address sandbox).1.account :=
  Function.update_self ..

/-- Merging one account leaves the merge of another one alone. -/
theorem mergeAt_afterMerge (distinct : other ≠ address) (account : Account) :
    (journal.afterMerge address sandbox).mergeAt other account = journal.mergeAt other account := by
  unfold mergeAt inspected
  rw [state_afterMerge_other journal sandbox distinct]
  rfl

theorem inspectionQueries_afterMerge (distinct : other ≠ address) :
    (journal.afterMerge address sandbox).inspectionQueries other =
      journal.inspectionQueries other := by
  unfold inspectionQueries
  rw [state_afterMerge_other journal sandbox distinct]

variable {rest : List (Sigma fun _ : Address => Account)}

theorem totalQueries_afterMerge (absent : address ∉ rest.keys) :
    (journal.afterMerge address sandbox).totalQueries rest = journal.totalQueries rest := by
  unfold totalQueries
  refine congrArg List.sum (List.map_congr_left fun entry member => ?_)
  exact inspectionQueries_afterMerge journal sandbox
    fun same => absent (same ▸ List.mem_keys_of_mem member)

theorem totalQueries_cons :
    journal.totalQueries (⟨address, sandbox⟩ :: rest) =
      journal.inspectionQueries address + journal.totalQueries rest := by
  unfold totalQueries
  rw [List.map_cons, List.sum_cons]

/-- All accounts merge if the first does, and the others after it. -/
theorem mergesAll_cons_iff (absent : address ∉ rest.keys) :
    journal.MergesAll (⟨address, sandbox⟩ :: rest) ↔
      journal.Answers (journal.inspectionQueries address) ∧
        (journal.mergeAt address sandbox).2 = true ∧
        (journal.afterMerge address sandbox).MergesAll rest := by
  have others (entry : Sigma fun _ : Address => Account) (member : entry ∈ rest) :
      (journal.afterMerge address sandbox).mergeAt entry.1 entry.2 =
        journal.mergeAt entry.1 entry.2 :=
    mergeAt_afterMerge journal sandbox
      (fun same : entry.1 = address => absent (same ▸ List.mem_keys_of_mem member)) entry.2
  have queries : (journal.afterMerge address sandbox).queries =
    journal.queries + journal.inspectionQueries address := rfl
  have database : (journal.afterMerge address sandbox).database = journal.database := rfl
  have total := totalQueries_afterMerge journal sandbox absent
  have split : journal.totalQueries (⟨address, sandbox⟩ :: rest) =
      journal.inspectionQueries address + journal.totalQueries rest :=
    totalQueries_cons journal sandbox
  constructor
  · rintro ⟨merges, answers⟩
    refine ⟨fun number below => answers number (by omega), merges _ List.mem_cons_self,
      ⟨fun entry member => ?_, fun number below => ?_⟩⟩
    · rw [others entry member]
      exact merges entry (List.mem_cons_of_mem _ member)
    · rw [database, queries, Nat.add_assoc]
      exact answers _ (by omega)
  · rintro ⟨first, merged, merges, answers⟩
    refine ⟨fun entry member => ?_, fun number below => ?_⟩
    · rcases List.mem_cons.mp member with rfl | member
      · exact merged
      · rw [← others entry member]
        exact merges entry member
    · by_cases early : number < journal.inspectionQueries address
      · exact first number early
      · have later := answers (number - journal.inspectionQueries address) (by omega)
        rw [database, queries] at later
        rw [← later]
        congr 1
        omega

/-- Merging the first account and then the others merges them all. -/
theorem mergeAll_cons (absent : address ∉ rest.keys) :
    (journal.afterMerge address sandbox).mergeAll rest =
      journal.mergeAll (⟨address, sandbox⟩ :: rest) := by
  refine Journal.ext rfl (funext fun other => ?_) ?_ rfl ?_
  · unfold mergeAll
    dsimp only
    by_cases same : other = address
    · subst same
      rw [List.dlookup_eq_none.mpr absent, List.dlookup_cons_eq]
      exact state_afterMerge_same journal sandbox
    · rw [List.dlookup_cons_ne _ _ same, state_afterMerge_other journal sandbox same]
      cases rest.dlookup other with
      | none => rfl
      | some account =>
        dsimp only
        rw [mergeAt_afterMerge journal sandbox same]
  · have others : (rest.reverse.flatMap fun entry =>
          ((journal.afterMerge address sandbox).mergeAt entry.1 entry.2).1.changes.map
            fun change => (entry.1, change)) =
        rest.reverse.flatMap fun entry =>
          (journal.mergeAt entry.1 entry.2).1.changes.map fun change => (entry.1, change) := by
      refine List.flatMap_congr fun entry member => ?_
      rw [mergeAt_afterMerge journal sandbox fun same : entry.1 = address =>
        absent (same ▸ List.mem_keys_of_mem (List.mem_reverse.mp member))]
    unfold mergeAll
    rw [others, List.reverse_cons, List.flatMap_append, List.flatMap_singleton, List.append_assoc]
    rfl
  · show journal.queries + _ + _ = journal.queries + _
    rw [totalQueries_afterMerge journal sandbox absent, totalQueries_cons, Nat.add_assoc]

end AfterMerge

variable {journal : Journal} {accounts : List (Sigma fun _ : Address => Account)}

/-- The loop takes one account after the other. -/
theorem applySandboxAccounts_cons {address : Address} {sandbox : Account}
    (answers : journal.Answers (journal.inspectionQueries address)) :
    journal.applySandboxAccounts (⟨address, sandbox⟩ :: accounts) =
      if (journal.mergeAt address sandbox).2 then
        (journal.afterMerge address sandbox).applySandboxAccounts accounts
      else (journal.afterMerge address sandbox, false) := by
  unfold afterMerge mergeAt
  rw [applySandboxAccounts, journal.inspectAccount_of_answers address answers]
  dsimp only
  rcases mergeSandboxAccount sandbox (journal.inspected address) with ⟨merging, merged⟩
  cases merged <;> rfl

/-- A loop whose accounts all merge gives the closed form. -/
theorem applySandboxAccounts_of_mergesAll (nodup : accounts.NodupKeys)
    (mergesAll : journal.MergesAll accounts) :
    journal.applySandboxAccounts accounts = (journal.mergeAll accounts, true) := by
  induction accounts generalizing journal with
  | nil => rfl
  | cons entry rest inductionHypothesis =>
    obtain ⟨address, sandbox⟩ := entry
    obtain ⟨absent, nodupRest⟩ := List.nodupKeys_cons.mp nodup
    obtain ⟨answers, merges, others⟩ := (mergesAll_cons_iff journal sandbox absent).mp mergesAll
    rw [applySandboxAccounts_cons answers, if_pos merges, inductionHypothesis nodupRest others,
      mergeAll_cons journal sandbox absent]

/-- A loop only goes through if all its accounts merge. -/
theorem mergesAll_of_applySandboxAccounts (nodup : accounts.NodupKeys)
    (through : (journal.applySandboxAccounts accounts).2 = true) : journal.MergesAll accounts := by
  induction accounts generalizing journal with
  | nil => exact ⟨fun _ member => absurd member List.not_mem_nil, fun _ below => nomatch below⟩
  | cons entry rest inductionHypothesis =>
    obtain ⟨address, sandbox⟩ := entry
    obtain ⟨absent, nodupRest⟩ := List.nodupKeys_cons.mp nodup
    by_cases answers : journal.Answers (journal.inspectionQueries address)
    · rw [applySandboxAccounts_cons answers] at through
      by_cases merges : (journal.mergeAt address sandbox).2 = true
      · rw [if_pos merges] at through
        exact (mergesAll_cons_iff journal sandbox absent).mpr
          ⟨answers, merges, inductionHypothesis nodupRest through⟩
      · rw [if_neg merges] at through
        cases through
    · have failed := journal.inspectAccount_of_fails address answers
      unfold applySandboxAccounts at through
      revert failed through
      rcases journal.inspectAccount address false with ⟨queried, found⟩
      rintro rfl through
      cases through

/-- The merge goes through exactly if all accounts merge, and gives the closed form then. -/
theorem applySandboxStateJournaled_iff_mergesAll (journal merged : Journal) (state : EvmState) :
    journal.applySandboxStateJournaled state = (merged, true) ↔
      journal.MergesAll state.entries ∧ merged = journal.mergeAll state.entries := by
  rw [applySandboxStateJournaled_true_iff]
  constructor
  · intro through
    have mergesAll := mergesAll_of_applySandboxAccounts state.nodupKeys (congrArg Prod.snd through)
    rw [applySandboxAccounts_of_mergesAll state.nodupKeys mergesAll] at through
    exact ⟨mergesAll, (Prod.mk.inj through).1.symm⟩
  · rintro ⟨mergesAll, rfl⟩
    exact applySandboxAccounts_of_mergesAll state.nodupKeys mergesAll

end Journal

/-! ### The order of the accounts -/

/-- The same state with its accounts, and the slots of each, in another order. -/
def EvmState.Reordered (first second : EvmState) : Prop :=
  ∀ address, Option.Rel Account.Reordered (first.lookup address) (second.lookup address)

/-- Two journals with the same accounts, slot by slot, and the same changes in some order. -/
structure Journal.Same (first second : Journal) : Prop where
  database : second.database = first.database
  logs : second.logs = first.logs
  queries : second.queries = first.queries
  entries : first.entries.Perm second.entries
  state : ∀ address, Option.Rel Account.Same (first.state address) (second.state address)

namespace EvmState.Reordered

variable {first second : EvmState}

theorem keys_perm (reordered : first.Reordered second) : first.keys.Perm second.keys := by
  refine (List.perm_ext_iff_of_nodup first.keys_nodup second.keys_nodup).mpr fun address => ?_
  rw [← AList.mem_keys, ← AList.mem_keys, ← AList.lookup_isSome, ← AList.lookup_isSome]
  have related := reordered address
  generalize first.lookup address = found, second.lookup address = other at related ⊢
  cases related with
  | none | some => exact Iff.rfl

theorem totalQueries (reordered : first.Reordered second) (journal : Journal) :
    journal.totalQueries second.entries = journal.totalQueries first.entries := by
  have byKeys (state : EvmState) : journal.totalQueries state.entries =
      (state.keys.map journal.inspectionQueries).sum := by
    show _ = ((state.entries.map Sigma.fst).map _).sum
    rw [List.map_map]
    rfl
  rw [byKeys, byKeys]
  exact (reordered.keys_perm.map _).sum_eq.symm

/-- The changes of one account of the state. -/
def changesAt (journal : Journal) (state : EvmState) (address : Address) :
    List (Address × AccountChange) :=
  match state.lookup address with
  | some sandbox =>
    (journal.mergeAt address sandbox).1.changes.map fun change => (address, change)
  | none => []

theorem flatMap_changesAt (journal : Journal) (state : EvmState) :
    (state.entries.flatMap fun entry =>
        (journal.mergeAt entry.1 entry.2).1.changes.map fun change => (entry.1, change)) =
      state.keys.flatMap (changesAt journal state) := by
  show _ = (state.entries.map Sigma.fst).flatMap _
  rw [List.flatMap_map]
  refine List.flatMap_congr fun entry member => ?_
  have found : state.lookup entry.1 = some entry.2 := AList.mem_lookup_iff.mpr member
  unfold changesAt
  rw [found]

variable (reordered : first.Reordered second)

include reordered

theorem changesAt_perm (journal : Journal) (address : Address) :
    (changesAt journal first address).Perm (changesAt journal second address) := by
  unfold changesAt
  have related := reordered address
  generalize first.lookup address = found, second.lookup address = other at related ⊢
  cases related with
  | none => exact List.Perm.refl _
  | some related => exact (mergeSandboxAccount_same related _).2.changes.map _

theorem mergesAll {journal : Journal} (merges : journal.MergesAll first.entries) :
    journal.MergesAll second.entries := by
  refine ⟨fun entry member => ?_, reordered.totalQueries journal ▸ merges.answers⟩
  have found : second.lookup entry.1 = some entry.2 := AList.mem_lookup_iff.mpr member
  have related := reordered entry.1
  rw [found] at related
  generalize isFirst : first.lookup entry.1 = before at related
  cases related with
  | some related =>
    rw [mergeAt, (mergeSandboxAccount_same related _).1]
    exact merges.merges ⟨entry.1, _⟩ (AList.mem_lookup_iff.mp isFirst)

theorem symm : second.Reordered first := by
  intro address
  have related := reordered address
  generalize first.lookup address = found, second.lookup address = other at related ⊢
  cases related with
  | none => exact .none
  | some related => exact .some ⟨related.info.symm, related.status.symm, related.storage.symm⟩

/-- In another order the accounts merge to the same. -/
theorem mergeAll_same (journal : Journal) :
    (journal.mergeAll first.entries).Same (journal.mergeAll second.entries) := by
  refine ⟨rfl, rfl, ?_, ?_, fun address => ?_⟩
  · show journal.queries + _ = journal.queries + _
    rw [reordered.totalQueries journal]
  · refine List.Perm.append_right _ ?_
    refine ((List.reverse_perm _).flatMap_right _).trans
      (List.Perm.trans ?_ ((List.reverse_perm _).flatMap_right _).symm)
    rw [flatMap_changesAt, flatMap_changesAt]
    exact (reordered.keys_perm.flatMap_right _).trans
      (List.Perm.flatMap_left _ fun address _ => reordered.changesAt_perm journal address)
  · have related : Option.Rel Account.Reordered (first.entries.dlookup address)
        (second.entries.dlookup address) := reordered address
    unfold mergeAll
    dsimp only
    generalize first.entries.dlookup address = found, second.entries.dlookup address = other
      at related ⊢
    cases related with
    | none =>
      cases journal.state address with
      | none => exact .none
      | some account => exact .some (Account.Same.refl account)
    | some related => exact .some (mergeSandboxAccount_same related _).2.account

/-- Whether the merge goes through does not depend on the order, and neither does what it gives if
it does. -/
theorem applySandboxStateJournaled_same (journal : Journal) :
    (journal.applySandboxStateJournaled second).2 = (journal.applySandboxStateJournaled first).2 ∧
      ((journal.applySandboxStateJournaled first).2 = true →
        (journal.applySandboxStateJournaled first).1.Same
          (journal.applySandboxStateJournaled second).1) := by
  by_cases merges : journal.MergesAll first.entries
  · have through := (journal.applySandboxStateJournaled_iff_mergesAll _ _).mpr ⟨merges, rfl⟩
    have throughSecond :=
      (journal.applySandboxStateJournaled_iff_mergesAll _ _).mpr ⟨reordered.mergesAll merges, rfl⟩
    rw [through, throughSecond]
    exact ⟨rfl, fun _ => reordered.mergeAll_same journal⟩
  · have fails (state : EvmState) (cannot : ¬journal.MergesAll state.entries) :
        (journal.applySandboxStateJournaled state).2 = false := by
      refine Bool.eq_false_iff.mpr fun through => cannot ?_
      exact ((journal.applySandboxStateJournaled_iff_mergesAll _ state).mp (Prod.ext rfl through)).1
    rw [fails first merges, fails second fun others => merges (reordered.symm.mergesAll others)]
    exact ⟨rfl, nofun⟩

end EvmState.Reordered

end MegaEvm
