/-
This file compares committing a merged state with committing its transactions in
order. A merged account follows its site in the database: only accounts without code,
nonce and storage can be created, so that what is left in it of an earlier life is
zero.

This argument fails for a destroyed account that is in the state the merge starts
from: it still has its slots and its flag. If it is created again its slots come back,
and if it is only sent money the flag stays and takes the money away.
-/

import MegaEvm.Evm.MergeState

namespace MegaEvm

open Account AccountInfo Library EvmStorageSlot BlockState

/-! ### What a transaction can make of an account -/

/-- The account has a nonce or code. -/
def AccountInfo.rooted (info : AccountInfo) : Bool :=
  info.nonce != 0 || info.codeHash != keccakEmpty

theorem AccountInfo.rooted_congr {first second : AccountInfo} (same : first.plain = second.plain) :
    first.rooted = second.rooted := by
  simp only [plain, mk.injEq] at same
  obtain ⟨_, nonce, codeHash, _⟩ := same
  rw [rooted, rooted, nonce, codeHash]

theorem AccountInfo.isEmpty_congr {first second : AccountInfo} (same : first.plain = second.plain) :
    first.isEmpty = second.isEmpty := by
  simp only [plain, mk.injEq] at same
  obtain ⟨balance, nonce, codeHash, _⟩ := same
  rw [isEmpty, isEmpty, balance, nonce, codeHash]

theorem AccountInfo.isEmpty_of_rooted {info : AccountInfo} (rooted : info.rooted = true) :
    info.isEmpty = false := by
  cases empty : info.isEmpty with
  | false => rfl
  | true =>
    have unrooted : info.rooted = false :=
      (rooted_congr (plain_of_isEmpty empty)).trans rfl
    exact nomatch rooted.symm.trans unrooted

namespace Site

def rooted (site : Site) : Bool :=
  (site.info.getD .default).rooted

/-- An account without nonce and code has no storage. -/
def Grounded (site : Site) : Prop :=
  site.rooted = false → ∀ key, site.storage key = 0

/-- The same account, up to code that may be loaded with its info. -/
def Same (first second : Site) : Prop :=
  first.info.map AccountInfo.plain = second.info.map AccountInfo.plain ∧
    first.storage = second.storage

theorem isSome_of_rooted {site : Site} (rooted : site.rooted = true) : site.info.isSome = true := by
  unfold Site.rooted at rooted
  cases found : site.info with
  | some info => rfl
  | none =>
    rw [found] at rooted
    exact nomatch rooted

end Site

/-- An account as a transaction leaves it that ran on the site. Only an account without nonce and
code can be created, a created account has a nonce, nothing but being destroyed takes code and nonce
away, and storage is written only where there is code. -/
structure Produced (site : Site) (account : Account) : Prop where
  destroyed : account.status.selfDestructed = true → account.status.created = true
  touched : account.status.created = true → account.status.touched = true
  fresh : account.status.created = true → site.rooted = false
  made : account.status.created = true → account.status.selfDestructed = false →
    account.info.rooted = true
  kept : account.status.selfDestructed = false → site.rooted = true → account.info.rooted = true
  read : account.status.touched = false →
    account.info.plain = (site.info.getD .default).plain ∧
      ∀ key slot, account.storage.lookup key = some slot → slot.presentValue = slot.originalValue
  original : ∀ key slot, account.storage.lookup key = some slot →
    slot.originalValue = site.storage key
  written : account.status.selfDestructed = false → account.info.rooted = false →
    ∀ key slot, account.storage.lookup key = some slot → slot.presentValue = slot.originalValue

section Touched

variable {site : Site} {account : Account} (touched : account.status.touched = true)
  (alive : account.status.selfDestructed = false)

include touched alive

/-- A touched account is stored with the slots it changed, or removed as old and empty. -/
theorem Account.commit_touched
    (zero : account.status.created = true → ∀ key, site.storage key = 0) :
    (account.status.created || !account.isEmpty) = true ∧ account.commit site =
        { info := some account.info, storage := account.changedStorage site.storage } ∨
      (account.status.created || !account.isEmpty) = false ∧ account.isEmpty = true ∧
        account.commit site = .absent := by
  cases created : account.status.created with
  | true =>
    rw [commit_created touched alive created, ← funext (zero created)]
    exact .inl ⟨rfl, rfl⟩
  | false =>
    cases empty : account.isEmpty with
    | true => exact .inr ⟨rfl, rfl, commit_empty touched alive created empty⟩
    | false => exact .inl ⟨rfl, commit_changed touched alive created empty⟩

end Touched

namespace Produced

variable {site : Site} {account : Account} (produced : Produced site account)

include produced

theorem alive_of_untouched (untouched : account.status.touched = false) :
    account.status.selfDestructed = false ∧ account.status.created = false := by
  have old : account.status.created = false := by
    cases created : account.status.created with
    | false => rfl
    | true =>
      exact nomatch untouched.symm.trans (produced.touched created)
  refine ⟨?_, old⟩
  cases destroyed : account.status.selfDestructed with
  | false => rfl
  | true => exact nomatch old.symm.trans (produced.destroyed destroyed)

theorem commit_destroyed (destroyed : account.status.selfDestructed = true) :
    account.commit site = .absent := by
  have touched := produced.touched (produced.destroyed destroyed)
  simp [Account.commit, touched, destroyed]

/-- The site of an account that is without nonce and code after its transaction has no storage. -/
theorem storage_of_unrooted (grounded : site.Grounded)
    (alive : account.status.selfDestructed = false) (unrooted : account.info.rooted = false)
    (key : U256) : site.storage key = 0 := by
  refine grounded ?_ key
  cases rooted : site.rooted with
  | false => rfl
  | true => exact nomatch unrooted.symm.trans (produced.kept alive rooted)

/-- A slot that the transaction loaded has the value it has there, any other the one it had. -/
theorem storage_commit (grounded : site.Grounded) (alive : account.status.selfDestructed = false)
    (key : U256) :
    (account.commit site).storage key =
      ((account.storage.lookup key).map EvmStorageSlot.presentValue).getD (site.storage key) := by
  have unchanged (kept : ∀ slot, account.storage.lookup key = some slot →
        slot.presentValue = slot.originalValue) :
      site.storage key =
        ((account.storage.lookup key).map presentValue).getD (site.storage key) := by
    cases found : account.storage.lookup key with
    | none => rfl
    | some slot => exact ((kept slot found).trans (produced.original key slot found)).symm
  cases isTouched : account.status.touched with
  | false =>
    rw [commit_untouched isTouched]
    exact unchanged ((produced.read isTouched).2 key)
  | true =>
    obtain ⟨_, commits⟩ | ⟨_, isEmpty, commits⟩ := commit_touched isTouched alive fun isCreated =>
      grounded (produced.fresh isCreated)
    · rw [commits]
      unfold changedStorage
      dsimp only
      cases found : account.storage.lookup key with
      | none => rfl
      | some slot =>
        by_cases differs : slot.isChanged = true
        · exact if_pos differs
        · refine (if_neg differs).trans ?_
          rw [← produced.original key slot found]
          simpa [isChanged] using differs
    · have unrooted : account.info.rooted = false :=
        (rooted_congr (plain_of_isEmpty isEmpty)).trans rfl
      have zero := produced.storage_of_unrooted grounded alive unrooted key
      rw [commits]
      exact zero.symm.trans (unchanged (produced.written alive unrooted key))

/-- The info after a transaction is the one of its state. -/
theorem plain_commit (alive : account.status.selfDestructed = false) :
    account.info.plain = ((account.commit site).info.getD .default).plain := by
  cases isTouched : account.status.touched with
  | false =>
    rw [commit_untouched isTouched]
    exact (produced.read isTouched).1
  | true => exact plain_commit_of_touched isTouched alive

theorem rooted_commit (alive : account.status.selfDestructed = false) :
    (account.commit site).rooted = account.info.rooted :=
  (rooted_congr (produced.plain_commit alive)).symm

/-- What a transaction leaves is grounded. -/
theorem grounded_commit (grounded : site.Grounded) : (account.commit site).Grounded := by
  cases alive : account.status.selfDestructed with
  | true =>
    rw [produced.commit_destroyed alive]
    exact fun _ _ => rfl
  | false =>
    intro unrooted key
    rw [produced.rooted_commit alive] at unrooted
    have zero := produced.storage_of_unrooted grounded alive unrooted key
    rw [produced.storage_commit grounded alive]
    cases found : account.storage.lookup key with
    | none => exact zero
    | some slot =>
      exact ((produced.written alive unrooted key slot found).trans
        (produced.original key slot found)).trans zero

end Produced

/-! ### A merged account follows its site -/

/-- The merged account of an address, and its site after the transactions so far. -/
structure Mirrors (base site : Site) (merged : Account) : Prop where
  alive : merged.status.selfDestructed = false
  listed : ∀ key slot, merged.storage.lookup key = some slot →
    slot.presentValue = site.storage key ∧ slot.originalValue = base.storage key
  unlisted : ∀ key, merged.storage.lookup key = none → site.storage key = base.storage key
  untouched : merged.status.touched = false → site = base ∧ merged.status.created = false
  touched : merged.status.touched = true →
    merged.info.plain = (site.info.getD .default).plain ∧
      site.info.isSome = (merged.status.created || !merged.isEmpty)
  created : merged.status.created = true → site.rooted = true ∧ base.rooted = false
  kept : base.rooted = true → site.rooted = true

namespace Mirrors

variable {base site : Site} {merged account : Account}

/-- Committing the merged account gives the site. -/
theorem same_commit (mirrors : Mirrors base site merged) (baseGrounded : base.Grounded)
    (grounded : site.Grounded) : (merged.commit base).Same site := by
  have changed : merged.changedStorage base.storage = site.storage := by
    funext key
    unfold changedStorage
    cases found : merged.storage.lookup key with
    | none => exact (mirrors.unlisted key found).symm
    | some slot =>
      obtain ⟨present, original⟩ := mirrors.listed key slot found
      by_cases differs : slot.isChanged = true
      · exact (if_pos differs).trans present
      · refine (if_neg differs).trans ?_
        rw [← original, ← present]
        simpa [isChanged] using differs
  cases isTouched : merged.status.touched with
  | false =>
    rw [commit_untouched isTouched, (mirrors.untouched isTouched).1]
    exact ⟨rfl, rfl⟩
  | true =>
    obtain ⟨info, present⟩ := mirrors.touched isTouched
    obtain ⟨stays, commits⟩ | ⟨removed, _, commits⟩ := commit_touched isTouched mirrors.alive
      fun isCreated => baseGrounded (mirrors.created isCreated).2
    · obtain ⟨stored, isStored⟩ := Option.isSome_iff_exists.mp (present.trans stays)
      rw [commits]
      refine ⟨?_, changed⟩
      rw [isStored] at info ⊢
      exact congrArg some info
    · rw [commits]
      have absent : site.info = none := by
        rw [← Option.isNone_iff_eq_none, ← Option.not_isSome, present, removed]
        rfl
      refine ⟨absent ▸ rfl, funext fun key => (grounded ?_ key).symm⟩
      rw [Site.rooted, absent]
      rfl

/-- Only the values of the slots, the info and three flags matter. -/
theorem congr {other : Account} (mirrors : Mirrors base site merged)
    (info : other.info = merged.info)
    (destroyed : other.status.selfDestructed = merged.status.selfDestructed)
    (created : other.status.created = merged.status.created)
    (touched : other.status.touched = merged.status.touched)
    (slots : ∀ key, (other.storage.lookup key).map (fun slot => (slot.presentValue,
        slot.originalValue)) =
      (merged.storage.lookup key).map fun slot => (slot.presentValue, slot.originalValue)) :
    Mirrors base site other where
  alive := destroyed.trans mirrors.alive
  listed key slot found := by
    have values := slots key
    rw [found, Option.map_some] at values
    obtain ⟨slot', found', same⟩ := Option.map_eq_some_iff.mp values.symm
    obtain ⟨present, original⟩ := mirrors.listed key slot' found'
    obtain ⟨samePresent, sameOriginal⟩ := Prod.mk.inj same
    exact ⟨samePresent.symm.trans present, sameOriginal.symm.trans original⟩
  unlisted key absent := by
    have values := slots key
    rw [absent, Option.map_none] at values
    exact mirrors.unlisted key (Option.map_eq_none_iff.mp values.symm)
  untouched is := by
    rw [created]
    exact mirrors.untouched (touched.symm.trans is)
  touched is := by
    rw [created, Account.isEmpty, info]
    exact mirrors.touched (touched.symm.trans is)
  created is := mirrors.created (created.symm.trans is)
  kept := mirrors.kept

/-- An account that was created and destroyed is empty, and there is no storage beneath it. -/
theorem emptyTouched (unrooted : base.rooted = false) (baseGrounded : base.Grounded) :
    Mirrors base .absent .emptyTouched where
  alive := rfl
  listed _ _ found := nomatch found
  unlisted key _ := (baseGrounded unrooted key).symm
  untouched is := nomatch is
  touched _ := ⟨rfl, rfl⟩
  created is := nomatch is
  kept is := nomatch unrooted.symm.trans is

/-- Merging the account of one more transaction. -/
theorem merge (mirrors : Mirrors base site merged) (produced : Produced site account)
    (baseGrounded : base.Grounded) (grounded : site.Grounded) :
    Mirrors base (account.commit site) (account.mergeInto (some merged)) := by
  have unrooted (isCreated : account.status.created = true) : base.rooted = false := by
    cases rooted : base.rooted with
    | false => rfl
    | true =>
      exact nomatch (produced.fresh isCreated).symm.trans (mirrors.kept rooted)
  cases alive : account.status.selfDestructed with
  | true =>
    rw [produced.commit_destroyed alive, mergeInto, if_pos alive]
    have empty := emptyTouched (unrooted (produced.destroyed alive)) baseGrounded
    split_ifs
    · exact empty.congr rfl rfl rfl rfl fun _ => rfl
    · exact empty
  | false =>
    rw [mergeInto, if_neg (Bool.eq_false_iff.mp alive)]
    have rootedAfter := produced.rooted_commit alive
    have merges := lookup_mergeEvmStorage merged.storage account.storage
    have isDestroyed : (mergedStatus merged.status account.status).selfDestructed = false := by
      rw [mergedStatus_selfDestructed _ _ alive, mirrors.alive]
      rfl
    have isCreated := mergedStatus_created merged.status account.status
    have isTouched := mergedStatus_touched merged.status account.status
    refine ⟨isDestroyed, ?_, ?_, ?_, ?_, ?_, ?_⟩
    · intro key slot found
      have stored := produced.storage_commit grounded alive key
      have found := (merges key).symm.trans found
      cases loaded : account.storage.lookup key with
      | none =>
        rw [loaded] at found stored
        rw [stored]
        exact mirrors.listed key slot found
      | some loadedSlot =>
        rw [loaded] at found stored
        rw [stored, ← Option.some.inj found]
        cases before : merged.storage.lookup key with
        | none =>
          exact ⟨rfl, (produced.original key loadedSlot loaded).trans (mirrors.unlisted key before)⟩
        | some beforeSlot => exact ⟨rfl, (mirrors.listed key beforeSlot before).2⟩
    · intro key absent
      have stored := produced.storage_commit grounded alive key
      have absent := (merges key).symm.trans absent
      cases loaded : account.storage.lookup key with
      | none =>
        rw [loaded] at absent stored
        rw [stored]
        exact mirrors.unlisted key absent
      | some loadedSlot =>
        rw [loaded] at absent
        cases absent
    · intro untouched
      have untouched := isTouched.symm.trans untouched
      rw [Bool.or_eq_false_iff] at untouched
      obtain ⟨same, old⟩ := mirrors.untouched untouched.1
      rw [commit_untouched untouched.2]
      refine ⟨same, isCreated.trans ?_⟩
      rw [old, (produced.alive_of_untouched untouched.2).2]
      rfl
    · intro touched
      have touched := isTouched.symm.trans touched
      refine ⟨produced.plain_commit alive, ?_⟩
      show _ = ((mergedStatus merged.status account.status).created || !account.isEmpty)
      rw [isCreated]
      cases accountTouched : account.status.touched with
      | true =>
        have stays : (account.commit site).info.isSome =
            (account.status.created || !account.isEmpty) := by
          rw [info_commit accountTouched alive]
          cases account.status.created || !account.isEmpty <;> rfl
        rw [stays]
        cases mergedCreated : merged.status.created with
        | false => rfl
        | true =>
          -- What was created before still has its nonce or code, so it is not empty.
          have nonEmpty : account.isEmpty = false := isEmpty_of_rooted
            (produced.kept alive (mirrors.created mergedCreated).1)
          rw [nonEmpty]
          simp
      | false =>
        rw [accountTouched, Bool.or_false] at touched
        obtain ⟨info, present⟩ := mirrors.touched touched
        have sameEmpty : account.isEmpty = merged.isEmpty :=
          isEmpty_congr ((produced.read accountTouched).1.trans info.symm)
        rw [commit_untouched accountTouched, present,
          (produced.alive_of_untouched accountTouched).2, sameEmpty, Bool.or_false]
    · intro created
      have created := isCreated.symm.trans created
      rw [rootedAfter]
      rcases Bool.or_eq_true_iff.mp created with before | now
      · exact ⟨produced.kept alive (mirrors.created before).1, (mirrors.created before).2⟩
      · exact ⟨produced.made now alive, unrooted now⟩
    · intro rooted
      rw [rootedAfter]
      exact produced.kept alive (mirrors.kept rooted)

/-- Before the first transaction: an account without slots that was not touched. -/
theorem blank (base : Site) (info : AccountInfo) : Mirrors base base (.ofInfo info) where
  alive := rfl
  listed _ _ found := nomatch found
  unlisted _ _ := rfl
  untouched _ := ⟨rfl, rfl⟩
  touched is := nomatch is
  created is := nomatch is
  kept is := is

/-- The account of the first transaction, taken over as it is. -/
theorem first (produced : Produced base account) (baseGrounded : base.Grounded)
    (alive : account.status.selfDestructed = false) :
    Mirrors base (account.commit base) account := by
  refine ((blank base account.info).merge produced baseGrounded baseGrounded).congr ?_ ?_ ?_ ?_ ?_
  all_goals rw [mergeInto, if_neg (Bool.eq_false_iff.mp alive)]
  · rfl
  · rfl
  · rfl
  · intro key
    show _ = ((mergeEvmStorage ∅ account.storage).lookup key).map _
    rw [mergeEvmStorage, lookup_mergeWith, AList.lookup_empty]
    cases account.storage.lookup key <;> rfl

/-- The account of the first transaction, merged into an empty state. -/
theorem mergeFirst (produced : Produced base account) (baseGrounded : base.Grounded) :
    Mirrors base (account.commit base) (account.mergeInto none) := by
  cases alive : account.status.selfDestructed with
  | true =>
    rw [produced.commit_destroyed alive, mergeInto, if_pos alive]
    exact (emptyTouched (produced.fresh (produced.destroyed alive)) baseGrounded).congr rfl rfl rfl
      rfl fun _ => rfl
  | false =>
    refine (first produced baseGrounded alive).congr ?_ ?_ ?_ ?_ ?_
    all_goals rw [mergeInto, if_neg (Bool.eq_false_iff.mp alive)]
    · rfl
    · rfl
    · rfl
    · rfl
    intro key
    show ((mergeWith _ ∅ account.storage).lookup key).map _ = _
    rw [lookup_mergeWith, AList.lookup_empty]
    cases account.storage.lookup key <;> rfl

end Mirrors

/-! ### A destroyed account that the merge starts from -/

/-- Some of the accounts has loaded the slot. -/
def Lists (seen : List Account) (key : U256) : Prop :=
  ∃ account ∈ seen, (account.storage.lookup key).isSome = true

/-- The merged account of an address whose first account was destroyed, while none of the accounts
seen since was: a slot that none of them has loaded is still the one of the first life. -/
structure Haunted (base site : Site) (first merged : Account) (seen : List Account) : Prop where
  created : merged.status.created = true
  touched : merged.status.touched = true
  listed : ∀ key, Lists seen key → ∃ slot, merged.storage.lookup key = some slot ∧
    slot.presentValue = site.storage key ∧ slot.originalValue = 0
  unlisted : ∀ key, ¬Lists seen key →
    merged.storage.lookup key = first.storage.lookup key ∧ site.storage key = 0
  dead : merged.status.selfDestructed = true → ∀ account ∈ seen, account.status.created = false
  revived : merged.status.selfDestructed = false →
    (∃ account ∈ seen, account.status.created = true) ∧ site.rooted = true ∧
      merged.info.plain = (site.info.getD .default).plain

namespace Haunted

variable {base site : Site} {first merged account : Account} {seen : List Account}

theorem start (produced : Produced base first) (destroyed : first.status.selfDestructed = true) :
    Haunted base (first.commit base) first first [] where
  created := produced.destroyed destroyed
  touched := produced.touched (produced.destroyed destroyed)
  listed := fun _ ⟨_, member, _⟩ => nomatch member
  unlisted _ _ := ⟨rfl, by rw [produced.commit_destroyed destroyed]; rfl⟩
  dead _ _ member := nomatch member
  revived alive := nomatch alive.symm.trans destroyed

theorem lists_concat {key : U256} :
    Lists (seen ++ [account]) key ↔ Lists seen key ∨
      (account.storage.lookup key).isSome = true := by
  unfold Lists
  simp [or_and_right, exists_or]

variable (haunted : Haunted base site first merged seen)

include haunted

/-- Merging the account of one more transaction, which was not destroyed in it. -/
theorem merge (produced : Produced site account) (grounded : site.Grounded)
    (originals : ∀ key slot, first.storage.lookup key = some slot → slot.originalValue = 0)
    (alive : account.status.selfDestructed = false) :
    Haunted base (account.commit site) first (account.mergeInto (some merged))
      (seen ++ [account]) := by
  rw [mergeInto, if_neg (Bool.eq_false_iff.mp alive)]
  have stored := produced.storage_commit grounded alive
  have merges := lookup_mergeEvmStorage merged.storage account.storage
  have isDestroyed := mergedStatus_selfDestructed merged.status account.status alive
  refine ⟨?_, ?_, ?_, ?_, ?_, ?_⟩
  · exact (mergedStatus_created ..).trans (Bool.or_eq_true_iff.mpr (.inl haunted.created))
  · exact (mergedStatus_touched ..).trans (Bool.or_eq_true_iff.mpr (.inl haunted.touched))
  · intro key lists
    cases loaded : account.storage.lookup key with
    | none =>
      have before :=
        (lists_concat.mp lists).resolve_right (by rw [loaded]; exact Bool.false_ne_true)
      obtain ⟨slot, found, present, original⟩ := haunted.listed key before
      refine ⟨slot, ?_, ?_, original⟩
      · rw [merges, loaded]
        exact found
      · rw [stored, loaded]
        exact present
    | some loadedSlot =>
      refine ⟨mergeSlotValue (merged.storage.lookup key) loadedSlot, ?_, ?_, ?_⟩
      · rw [merges, loaded]
      · rw [stored, loaded]
        cases merged.storage.lookup key <;> rfl
      · -- The value at the start is that of the first listing, when nothing was stored.
        by_cases before : Lists seen key
        · obtain ⟨slot, found, _, original⟩ := haunted.listed key before
          rw [found]
          exact original
        · obtain ⟨same, zero⟩ := haunted.unlisted key before
          cases stale : merged.storage.lookup key with
          | none => exact (produced.original key loadedSlot loaded).trans zero
          | some slot => exact originals key slot (same.symm.trans stale)
  · intro key unlisted
    rw [lists_concat, not_or] at unlisted
    obtain ⟨same, zero⟩ := haunted.unlisted key unlisted.1
    have absent : account.storage.lookup key = none :=
      Option.not_isSome_iff_eq_none.mp unlisted.2
    refine ⟨?_, ?_⟩
    · rw [merges, absent]
      exact same
    · rw [stored, absent]
      exact zero
  · intro destroyed later member
    have destroyed := isDestroyed.symm.trans destroyed
    rw [Bool.and_eq_true, Bool.not_eq_true'] at destroyed
    rcases List.mem_append.mp member with before | last
    · exact haunted.dead destroyed.1 later before
    · rw [List.mem_singleton.mp last]
      exact destroyed.2
  · intro notDestroyed
    have notDestroyed := isDestroyed.symm.trans notDestroyed
    have rooted : (∃ later ∈ seen ++ [account], later.status.created = true) ∧
        account.info.rooted = true := by
      cases isNew : account.status.created with
      | true => exact ⟨⟨account, by simp, isNew⟩, produced.made isNew alive⟩
      | false =>
        rw [isNew, Bool.not_false, Bool.and_true] at notDestroyed
        obtain ⟨⟨later, member, isLater⟩, wasRooted, _⟩ := haunted.revived notDestroyed
        exact ⟨⟨later, List.mem_append_left _ member, isLater⟩, produced.kept alive wasRooted⟩
    exact ⟨rooted.1, (produced.rooted_commit alive).trans rooted.2, produced.plain_commit alive⟩

/-- Committing the merged account gives the site if the account was created again and all its old
slots are zero or were loaded since, or if there is no account. -/
theorem same_commit_iff (grounded : site.Grounded)
    (originals : ∀ key slot, first.storage.lookup key = some slot → slot.originalValue = 0) :
    (merged.commit base).Same site ↔
      ((∃ later ∈ seen, later.status.created = true) ∧
        ∀ key slot, first.storage.lookup key = some slot → slot.presentValue ≠ 0 →
          Lists seen key) ∨
      ((∀ later ∈ seen, later.status.created = false) ∧ site.info = none) := by
  cases destroyed : merged.status.selfDestructed with
  | true =>
    have notCreated := haunted.dead destroyed
    have commits : merged.commit base = .absent := by
      simp [Account.commit, haunted.touched, destroyed]
    rw [commits]
    constructor
    · intro same
      exact .inr ⟨notCreated, Option.map_eq_none_iff.mp same.1.symm⟩
    · rintro (⟨⟨later, member, isCreated⟩, _⟩ | ⟨_, absent⟩)
      · cases (notCreated later member).symm.trans isCreated
      · refine ⟨absent ▸ rfl, funext fun key => (grounded ?_ key).symm⟩
        rw [Site.rooted, absent]
        rfl
  | false =>
    obtain ⟨⟨later, member, isCreated⟩, rooted, info⟩ := haunted.revived destroyed
    rw [commit_created haunted.touched destroyed haunted.created]
    constructor
    · intro same
      refine .inl ⟨⟨later, member, isCreated⟩, fun key slot found nonZero => ?_⟩
      by_contra unlisted
      obtain ⟨stale, zero⟩ := haunted.unlisted key unlisted
      have value := congrFun same.2 key
      simp only [changedStorage, stale, found, isChanged,
        originals key slot found, zero, bne_iff_ne, ne_eq] at value
      rw [if_pos fun isZero => nonZero isZero.symm] at value
      exact nonZero value
    · rintro (⟨_, overwritten⟩ | ⟨notCreated, _⟩)
      · refine ⟨?_, funext fun key => ?_⟩
        · obtain ⟨stored, isStored⟩ := Option.isSome_iff_exists.mp (Site.isSome_of_rooted rooted)
          rw [isStored] at info ⊢
          exact congrArg some info
        · by_cases lists : Lists seen key
          · obtain ⟨slot, found, present, original⟩ := haunted.listed key lists
            simp only [changedStorage, found, isChanged, original]
            rw [← present]
            by_cases zero : slot.presentValue = 0 <;> simp [zero, Ne.symm]
          · obtain ⟨stale, zero⟩ := haunted.unlisted key lists
            rw [zero]
            simp only [changedStorage, stale]
            cases found : first.storage.lookup key with
            | none => rfl
            | some slot =>
              have isZero : slot.presentValue = 0 := by
                by_contra nonZero
                exact lists (overwritten key slot found nonZero)
              simp [isZero]
      · cases (notCreated later member).symm.trans isCreated

end Haunted

/-! ### Whole histories -/

/-- The accounts are produced one after the other. -/
def ProducedRun : Site → List Account → Prop
  | _, [] => True
  | site, account :: rest => Produced site account ∧ ProducedRun (account.commit site) rest

section Histories

variable {base site : Site} {merged : Account}

/-- A merged account that follows its site does so through a whole history. -/
theorem Mirrors.run (mirrors : Mirrors base site merged) (baseGrounded : base.Grounded)
    (grounded : site.Grounded) {accounts : List Account} (produced : ProducedRun site accounts) :
    ∃ final, accounts.foldl (fun this account => some (account.mergeInto this)) (some merged) =
        some final ∧
      Mirrors base (accounts.foldl (fun site account => account.commit site) site) final ∧
      (accounts.foldl (fun site account => account.commit site) site).Grounded := by
  induction accounts generalizing site merged with
  | nil => exact ⟨merged, rfl, mirrors, grounded⟩
  | cons account rest inductionHypothesis =>
    exact inductionHypothesis (mirrors.merge produced.1 baseGrounded grounded)
      (produced.1.grounded_commit grounded) produced.2

/-- A history that starts with a destroyed account: committing the merged account gives the site if
an account was destroyed again, or if nothing of the first life shows. -/
theorem Haunted.run {first : Account} {seen : List Account}
    (haunted : Haunted base site first merged seen) (baseGrounded : base.Grounded)
    (unrooted : base.rooted = false) (grounded : site.Grounded)
    (originals : ∀ key slot, first.storage.lookup key = some slot → slot.originalValue = 0)
    {accounts : List Account} (produced : ProducedRun site accounts) :
    ∃ final, accounts.foldl (fun this account => some (account.mergeInto this)) (some merged) =
        some final ∧
      ((final.commit base).Same (accounts.foldl (fun site account => account.commit site) site) ↔
        (∃ later ∈ accounts, later.status.selfDestructed = true) ∨
        ((∃ later ∈ seen ++ accounts, later.status.created = true) ∧
          ∀ key slot, first.storage.lookup key = some slot → slot.presentValue ≠ 0 →
            Lists (seen ++ accounts) key) ∨
        ((∀ later ∈ seen ++ accounts, later.status.created = false) ∧
          (accounts.foldl (fun site account => account.commit site) site).info = none)) := by
  induction accounts generalizing site merged seen with
  | nil =>
    refine ⟨merged, rfl, ?_⟩
    rw [List.append_nil]
    refine (haunted.same_commit_iff grounded originals).trans (Iff.symm (or_iff_right ?_))
    rintro ⟨_, member, _⟩
    exact nomatch member
  | cons account rest inductionHypothesis =>
    have nextGrounded := produced.1.grounded_commit grounded
    cases alive : account.status.selfDestructed with
    | true =>
      -- A second death replaces the account by an empty one.
      have empty : Mirrors base (account.commit site) (account.mergeInto (some merged)) := by
        rw [produced.1.commit_destroyed alive, mergeInto, if_pos alive]
        have mirrors := Mirrors.emptyTouched unrooted baseGrounded
        split_ifs
        · exact mirrors.congr rfl rfl rfl rfl fun _ => rfl
        · exact mirrors
      obtain ⟨final, folds, mirrors, finalGrounded⟩ :=
        empty.run baseGrounded nextGrounded produced.2
      exact ⟨final, folds, iff_of_true (mirrors.same_commit baseGrounded finalGrounded)
        (.inl ⟨account, List.mem_cons_self, alive⟩)⟩
    | false =>
      obtain ⟨final, folds, same⟩ := inductionHypothesis
        (haunted.merge produced.1 grounded originals alive) nextGrounded produced.2
      refine ⟨final, folds, same.trans ?_⟩
      rw [List.append_assoc, List.singleton_append]
      refine or_congr_left ?_
      simp only [List.mem_cons, exists_eq_or_imp, alive, Bool.false_eq_true, false_or]

/-- The info of a merged account is the one its site has. -/
theorem plain_mergeInto {account : Account} (produced : Produced site account)
    (this : Option Account) :
    (account.mergeInto this).info.plain = ((account.commit site).info.getD .default).plain := by
  unfold mergeInto
  cases alive : account.status.selfDestructed with
  | true =>
    rw [produced.commit_destroyed alive, if_pos rfl]
    split_ifs <;> rfl
  | false =>
    rw [if_neg Bool.false_ne_true, ← produced.plain_commit alive]
    cases this <;> rfl

theorem plain_run {accounts : List Account} (produced : ProducedRun site accounts)
    {this : Option Account} {final : Account}
    (start : accounts = [] → final.info.plain = (site.info.getD .default).plain)
    (folds : accounts.foldl (fun this account => some (account.mergeInto this)) this =
      some final) :
    final.info.plain =
      ((accounts.foldl (fun site account => account.commit site) site).info.getD
        .default).plain := by
  induction accounts generalizing site this with
  | nil => exact start rfl
  | cons account rest inductionHypothesis =>
    refine inductionHypothesis produced.2 (fun isNil => ?_) folds
    subst isNil
    rw [← Option.some.inj folds]
    exact plain_mergeInto produced.1 this

/-- An account of the merged state is touched if one of the accounts was. -/
theorem touched_run {accounts : List Account} (produced : ProducedRun site accounts)
    {this : Option Account} {final : Account}
    (folds : accounts.foldl (fun this account => some (account.mergeInto this)) this =
      some final) :
    final.status.touched = true ↔
      (∃ merged, this = some merged ∧ merged.status.touched = true) ∨
        ∃ account ∈ accounts, account.status.touched = true := by
  induction accounts generalizing site this with
  | nil =>
    rw [List.foldl_nil] at folds
    simp [folds]
  | cons account rest inductionHypothesis =>
    have once : (account.mergeInto this).status.touched = true ↔
        (∃ merged, this = some merged ∧ merged.status.touched = true) ∨
          account.status.touched = true := by
      unfold mergeInto
      cases alive : account.status.selfDestructed with
      | true =>
        have touched := produced.1.touched (produced.1.destroyed alive)
        simp only [if_true, touched, or_true, iff_true]
        split_ifs <;> rfl
      | false =>
        rw [if_neg Bool.false_ne_true]
        cases this with
        | none => simp [coldCopy]
        | some merged => simp
    rw [inductionHypothesis produced.2 folds]
    simp [once, or_assoc]

end Histories

/-! ### Merging and committing -/

/-- The states are produced one after the other, each on what the ones before it left. -/
def ProducedStates : BlockState → List EvmState → Prop
  | _, [] => True
  | database, state :: rest =>
    (∀ address account, state.lookup address = some account →
      Produced (database.site address) account) ∧ ProducedStates (database.commit state) rest

theorem ProducedStates.history {database : BlockState} {states : List EvmState}
    (produced : ProducedStates database states) (address : Address) :
    ProducedRun (database.site address) (MegaEvm.history address states) := by
  induction states generalizing database with
  | nil => trivial
  | cons state rest inductionHypothesis =>
    have remaining := inductionHypothesis produced.2
    rw [commit_site] at remaining
    rw [history_cons]
    cases found : state.lookup address with
    | none =>
      rw [found] at remaining
      exact remaining
    | some account =>
      rw [found] at remaining
      exact ⟨produced.1 address account found, remaining⟩

theorem ProducedStates.postCancun {database : BlockState} {states : List EvmState}
    (produced : ProducedStates database states) : ∀ state ∈ states, state.PostCancun := by
  induction states generalizing database with
  | nil => exact fun _ member => nomatch member
  | cons state rest inductionHypothesis =>
    intro other member
    rcases List.mem_cons.mp member with rfl | later
    · exact fun address account found => (produced.1 address account found).destroyed
    · exact inductionHypothesis produced.2 other later

/-- Committing the merged state gives what committing the states in order gives: the accounts that
exist, with their infos and their slots. The infos of the merged state are those of the last state,
unless their accounts are still marked as destroyed. -/
def MergesTo (database : BlockState) (states : List EvmState) (merged : EvmState) : Prop :=
  (∀ address, ((database.commit merged).site address).Same
    ((database.commitAll states).site address)) ∧
  ∀ address account, merged.lookup address = some account →
    account.status.selfDestructed = false →
    account.info.plain = (((database.commitAll states).site address).info.getD .default).plain

/-- The merged state has touched what one of the states has touched. -/
def TouchesSame (states : List EvmState) (merged : EvmState) : Prop :=
  ∀ address, (∃ account, merged.lookup address = some account ∧ account.status.touched = true) ↔
    ∃ state ∈ states, ∃ account, state.lookup address = some account ∧
      account.status.touched = true

/-- Accounts and slots that are there keep their coldness, and new ones are cold. -/
def KeepsColdness (this other merged : EvmState) : Prop :=
  ∀ address account, merged.lookup address = some account →
    (∀ before, this.lookup address = some before →
      account.status.cold = before.status.cold ∧
      ∀ key slot, account.storage.lookup key = some slot →
        slot.isCold = ((before.storage.lookup key).map EvmStorageSlot.isCold).getD true) ∧
    (this.lookup address = none → (other.lookup address).isSome = true ∧
      account.status.cold = true ∧
      ∀ key slot, account.storage.lookup key = some slot → slot.isCold = true)

/-- Nothing is left of an account that is destroyed in the first state: it is destroyed again, or it
is created again and each of its slots that was set is loaded again, or it is not created again and
does not exist in the end. -/
def NothingLeft (database : BlockState) (first : EvmState) (rest : List EvmState) : Prop :=
  ∀ address account, first.lookup address = some account →
    account.status.selfDestructed = true →
    (∃ later ∈ history address rest, later.status.selfDestructed = true) ∨
    ((∃ later ∈ history address rest, later.status.created = true) ∧
      ∀ key slot, account.storage.lookup key = some slot → slot.presentValue ≠ 0 →
        Lists (history address rest) key) ∨
    ((∀ later ∈ history address rest, later.status.created = false) ∧
      ((database.commitAll (first :: rest)).site address).info = none)

section Whole

variable {database : BlockState} {states : List EvmState} {merged : EvmState}

/-- Address by address, starting from an empty state. -/
theorem mergesTo_of_empty (grounded : ∀ address, (database.site address).Grounded)
    (produced : ProducedStates database states)
    (lookups : ∀ address, merged.lookup address =
      (history address states).foldl (fun this account => some (account.mergeInto this)) none) :
    MergesTo database states merged := by
  have each (address : Address) : (merged.lookup address = none ∧ history address states = []) ∨
      ∃ final, merged.lookup address = some final ∧
        Mirrors (database.site address) ((database.commitAll states).site address) final ∧
        ((database.commitAll states).site address).Grounded := by
    have accounts := produced.history address
    rw [lookups, commitAll_site_eq]
    cases isHistory : history address states with
    | nil => exact .inl ⟨rfl, rfl⟩
    | cons =>
      rw [isHistory] at accounts
      exact .inr ((Mirrors.mergeFirst accounts.1 (grounded address)).run (grounded address)
        (accounts.1.grounded_commit (grounded address)) accounts.2)
  constructor
  · intro address
    rw [commit_site]
    rcases each address with ⟨absent, isNil⟩ | ⟨final, found, mirrors, finalGrounded⟩
    · rw [absent, commitAll_site_eq, isNil]
      exact ⟨rfl, rfl⟩
    · rw [found]
      exact mirrors.same_commit (grounded address) finalGrounded
  · intro address account found _
    rw [lookups] at found
    rw [commitAll_site_eq]
    refine plain_run (produced.history address) (fun isNil => ?_) found
    rw [isNil] at found
    cases found

theorem touchesSame_of_lookup {start : EvmState} (produced : ProducedStates database states)
    (lookups : ∀ address, merged.lookup address =
      (history address states).foldl (fun this account => some (account.mergeInto this))
        (start.lookup address)) (address : Address) :
    (∃ account, merged.lookup address = some account ∧ account.status.touched = true) ↔
      (∃ account, start.lookup address = some account ∧ account.status.touched = true) ∨
        ∃ state ∈ states, ∃ account, state.lookup address = some account ∧
          account.status.touched = true := by
  have inHistory : (∃ account ∈ history address states, account.status.touched = true) ↔
      ∃ state ∈ states, ∃ account, state.lookup address = some account ∧
        account.status.touched = true := by
    unfold history
    simp only [List.mem_filterMap]
    grind
  rw [← inHistory]
  cases found : merged.lookup address with
  | none =>
    have isStart := (lookups address).symm.trans found
    have bothNone : history address states = [] ∧ start.lookup address = none := by
      rcases List.eq_nil_or_concat (history address states) with isNil | ⟨before, last, isConcat⟩
      · rw [isNil] at isStart
        exact ⟨isNil, isStart⟩
      · rw [isConcat, List.concat_eq_append, List.foldl_append] at isStart
        cases isStart
    simp [bothNone.1, bothNone.2]
  | some final =>
    rw [← touched_run (produced.history address) ((lookups address).symm.trans found)]
    simp

/-- The merge that starts from the first state: the two commits agree if nothing is left of what
that state destroyed. -/
theorem mergesTo_iff_of_first {first : EvmState} {rest : List EvmState}
    (grounded : ∀ address, (database.site address).Grounded)
    (produced : ProducedStates database (first :: rest))
    (lookups : ∀ address, merged.lookup address =
      (history address rest).foldl (fun this account => some (account.mergeInto this))
        (first.lookup address)) :
    MergesTo database (first :: rest) merged ↔ NothingLeft database first rest := by
  have infos : ∀ address account, merged.lookup address = some account →
      account.status.selfDestructed = false → account.info.plain =
        (((database.commitAll (first :: rest)).site address).info.getD .default).plain := by
    intro address account found alive
    rw [lookups] at found
    rw [commitAll_cons, commitAll_site_eq]
    refine plain_run (produced.2.history address) (fun isNil => ?_) found
    rw [isNil] at found
    have isFirst : first.lookup address = some account := found
    rw [commit_site, isFirst]
    exact (produced.1 address account isFirst).plain_commit alive
  refine (and_iff_left infos).trans (forall_congr' fun address => ?_)
  have accounts := produced.2.history address
  rw [commit_site] at accounts
  rw [commit_site, commitAll_cons, commitAll_site_eq, lookups, commit_site]
  cases found : first.lookup address with
  | none =>
    rw [found] at accounts
    refine iff_of_true ?_ fun _ isSome => nomatch isSome
    -- Nothing in the first state: as if it had started from an empty one.
    cases isHistory : history address rest with
    | nil => exact ⟨rfl, rfl⟩
    | cons =>
      rw [isHistory] at accounts
      obtain ⟨final, folds, mirrors, finalGrounded⟩ :=
        (Mirrors.mergeFirst accounts.1 (grounded address)).run (grounded address)
          (accounts.1.grounded_commit (grounded address)) accounts.2
      rw [List.foldl_cons, folds]
      exact mirrors.same_commit (grounded address) finalGrounded
  | some account =>
    rw [found] at accounts
    have isProduced := produced.1 address account found
    have firstGrounded := isProduced.grounded_commit (grounded address)
    cases destroyed : account.status.selfDestructed with
    | false =>
      obtain ⟨final, folds, mirrors, finalGrounded⟩ :=
        (Mirrors.first isProduced (grounded address) destroyed).run (grounded address)
          firstGrounded accounts
      rw [folds]
      refine iff_of_true (mirrors.same_commit (grounded address) finalGrounded) ?_
      intro other isOther isDestroyed
      cases isOther
      exact nomatch destroyed.symm.trans isDestroyed
    | true =>
      have unrooted := isProduced.fresh (isProduced.destroyed destroyed)
      obtain ⟨final, folds, same⟩ := (Haunted.start isProduced destroyed).run (grounded address)
        unrooted firstGrounded
        (fun key slot isSlot => (isProduced.original key slot isSlot).trans
          (grounded address unrooted key)) accounts
      rw [folds]
      refine same.trans ⟨fun holds other isOther _ => ?_, fun holds => ?_⟩
      · cases isOther
        exact holds
      · exact holds account rfl destroyed

/-- One merge. -/
theorem keepsColdness_mergeEvmState {other : EvmState} (postCancun : other.PostCancun)
    (this : EvmState) :
    ∃ merged, mergeEvmState this other = some merged ∧ KeepsColdness this other merged := by
  refine ⟨_, mergeEvmState_eq postCancun this, fun address account found => ?_⟩
  rw [lookup_mergeWith] at found
  cases isOther : other.lookup address with
  | none =>
    rw [isOther] at found
    refine ⟨fun before isBefore => ?_, fun absent => nomatch absent.symm.trans found⟩
    cases isBefore.symm.trans found
    exact ⟨rfl, fun key slot isSlot => by rw [isSlot]; rfl⟩
  | some otherAccount =>
    rw [isOther] at found
    rw [← Option.some.inj found]
    unfold mergeInto
    cases alive : otherAccount.status.selfDestructed with
    | true =>
      rw [if_pos rfl]
      refine ⟨fun before isBefore => ?_, fun absent => ⟨rfl, ?_⟩⟩
      · rw [isBefore]
        cases isCold : before.status.cold with
        | true =>
          rw [if_pos (by simpa using isCold)]
          exact ⟨rfl, fun _ slot isSlot => nomatch isSlot⟩
        | false =>
          rw [if_neg (by simp [isCold])]
          exact ⟨rfl, fun _ slot isSlot => nomatch isSlot⟩
      · rw [absent]
        exact ⟨rfl, fun _ slot isSlot => nomatch isSlot⟩
    | false =>
      rw [if_neg Bool.false_ne_true]
      refine ⟨fun before isBefore => ?_, fun absent => ⟨rfl, ?_⟩⟩
      · rw [isBefore]
        refine ⟨?_, fun key slot isSlot => ?_⟩
        · exact mergedStatus_cold ..
        · have isSlot := (lookup_mergeEvmStorage _ _ key).symm.trans isSlot
          cases loaded : otherAccount.storage.lookup key with
          | none =>
            rw [loaded] at isSlot
            have isSlot : before.storage.lookup key = some slot := isSlot
            rw [isSlot]
            rfl
          | some loadedSlot =>
            rw [loaded] at isSlot
            rw [← Option.some.inj isSlot]
            cases before.storage.lookup key <;> rfl
      · rw [absent]
        refine ⟨rfl, fun key slot isSlot => ?_⟩
        have isSlot : (mergeWith (fun _ (slot : EvmStorageSlot) => slot.markCold) ∅
            otherAccount.storage).lookup key = some slot := isSlot
        rw [lookup_mergeWith, AList.lookup_empty] at isSlot
        cases loaded : otherAccount.storage.lookup key with
        | none =>
          rw [loaded] at isSlot
          cases isSlot
        | some loadedSlot =>
          rw [loaded] at isSlot
          rw [← Option.some.inj isSlot]
          rfl

end Whole

/-- Committing a merged state gives what committing its states in order gives, if the merge starts
from an empty state. If it starts from the first state it does so exactly if nothing is left of the
accounts that this state has destroyed. The touched accounts are the same in any case, and a merge
leaves the coldness of what is there alone. -/
theorem merge_eq_commit_iff (database : BlockState)
    (grounded : ∀ address, (database.site address).Grounded) :
    (∀ states, ProducedStates database states →
      ∃ merged, mergeEvmStates ∅ states = some merged ∧ TouchesSame states merged ∧
        MergesTo database states merged) ∧
    (∀ first rest, ProducedStates database (first :: rest) →
      ∃ merged, mergeEvmStates first rest = some merged ∧ TouchesSame (first :: rest) merged ∧
        (MergesTo database (first :: rest) merged ↔ NothingLeft database first rest)) ∧
    ∀ this other : EvmState, other.PostCancun →
      ∃ merged, mergeEvmState this other = some merged ∧ KeepsColdness this other merged := by
  refine ⟨fun states produced => ?_, fun first rest produced => ?_,
    fun this other postCancun => keepsColdness_mergeEvmState postCancun this⟩
  · obtain ⟨merged, merges, lookups⟩ := mergeEvmStates_eq produced.postCancun ∅
    refine ⟨merged, merges, fun address => ?_, mergesTo_of_empty grounded produced lookups⟩
    refine (touchesSame_of_lookup produced lookups address).trans (or_iff_right ?_)
    rintro ⟨_, found, _⟩
    cases found
  · obtain ⟨merged, merges, lookups⟩ := mergeEvmStates_eq produced.2.postCancun first
    refine ⟨merged, merges, fun address => ?_, mergesTo_iff_of_first grounded produced lookups⟩
    rw [touchesSame_of_lookup produced.2 lookups]
    simp only [List.mem_cons, exists_eq_or_imp]

/-! ### An account that comes back -/

/-- A contract that was created, set a slot and destroyed itself in one transaction. -/
def destroyedContract : Account where
  info := { AccountInfo.default with nonce := 1, codeHash := 9 }
  status :=
    { AccountStatus.loaded with
      created := true, createdLocal := true, selfDestructed := true, selfDestructedLocal := true
      touched := true }
  storage := AList.singleton 1 (.newChanged 0 7)

/-- The contract created again. -/
def recreatedContract (storage : EvmStorage) : Account where
  info := { AccountInfo.default with nonce := 1, codeHash := 9 }
  status := { AccountStatus.loaded with created := true, createdLocal := true, touched := true }
  storage

/-- The address was sent money. -/
def fundedAccount : Account where
  info := { AccountInfo.default with balance := 5 }
  status := { AccountStatus.loaded with touched := true }
  storage := ∅

theorem produced_destroyedContract :
    Produced .absent destroyedContract where
  destroyed _ := rfl
  touched _ := rfl
  fresh _ := rfl
  made _ alive := nomatch alive
  kept alive := nomatch alive
  read untouched := nomatch untouched
  original _ _ found := (eq_of_lookup_singleton found).2 ▸ rfl
  written alive := nomatch alive

theorem produced_recreatedContract {storage : EvmStorage}
    (fresh : ∀ key slot, storage.lookup key = some slot → slot.originalValue = 0) :
    Produced .absent (recreatedContract storage) where
  destroyed destroyed := nomatch destroyed
  touched _ := rfl
  fresh _ := rfl
  made _ _ := rfl
  kept _ _ := rfl
  read untouched := nomatch untouched
  original := fresh
  written _ unrooted := nomatch unrooted

theorem produced_fundedAccount : Produced .absent fundedAccount where
  destroyed destroyed := nomatch destroyed
  touched _ := rfl
  fresh _ := rfl
  made created := nomatch created
  kept _ rooted := nomatch rooted
  read untouched := nomatch untouched
  original _ _ found := nomatch found
  written _ _ _ _ found := nomatch found

/-- The account of one address, destroyed in the first transaction and used in the second. -/
theorem producedStates_comesBack {account : Account}
    (produced : Produced .absent account) :
    ProducedStates emptyDatabase
      [AList.singleton 3 destroyedContract, AList.singleton 3 account] := by
  refine ⟨fun address found isFound => ?_, fun address found isFound => ?_, trivial⟩
  · obtain ⟨rfl, rfl⟩ := eq_of_lookup_singleton isFound
    exact produced_destroyedContract
  · obtain ⟨rfl, rfl⟩ := eq_of_lookup_singleton isFound
    rw [commit_site]
    exact produced

theorem grounded_emptyDatabase (address : Address) : (emptyDatabase.site address).Grounded :=
  fun _ _ => rfl

/-- The contract created again, with its slot set again. -/
def resetContract : Account :=
  recreatedContract (AList.singleton 1 (.newChanged 0 9))

/-- A contract that is created again and sets its slot again is merged as it should be. -/
theorem merge_eq_commit_iff_recreated :
    (∃ merged, mergeEvmStates ∅ [AList.singleton 3 destroyedContract,
        AList.singleton 3 resetContract] = some merged ∧
      MergesTo emptyDatabase [AList.singleton 3 destroyedContract,
        AList.singleton 3 resetContract] merged) ∧
    ∃ merged, mergeEvmStates (AList.singleton 3 destroyedContract)
        [AList.singleton 3 resetContract] = some merged ∧
      MergesTo emptyDatabase [AList.singleton 3 destroyedContract,
        AList.singleton 3 resetContract] merged := by
  have fresh : ∀ key slot, (AList.singleton 1 (.newChanged 0 9) : EvmStorage).lookup key =
      some slot → slot.originalValue = 0 :=
    fun _ _ found => (eq_of_lookup_singleton found).2 ▸ rfl
  have produced := producedStates_comesBack (produced_recreatedContract fresh)
  obtain ⟨fromEmpty, fromFirst, _⟩ := merge_eq_commit_iff emptyDatabase grounded_emptyDatabase
  obtain ⟨merged, merges, _, same⟩ := fromEmpty _ produced
  refine ⟨⟨merged, merges, same⟩, ?_⟩
  obtain ⟨merged, merges, _, same⟩ := fromFirst _ _ produced
  refine ⟨merged, merges, same.mpr fun address account found _ => .inr (.inl ?_)⟩
  obtain ⟨rfl, rfl⟩ := eq_of_lookup_singleton found
  have later : resetContract ∈ history 3 [AList.singleton 3 resetContract] :=
    List.mem_singleton.mpr rfl
  refine ⟨⟨resetContract, later, rfl⟩, fun key slot isSlot _ => ⟨resetContract, later, ?_⟩⟩
  obtain ⟨rfl, _⟩ := eq_of_lookup_singleton isSlot
  rfl

/-- A destroyed contract in the state that the merge starts from: if its address is sent money the
money is lost, and if it is created again its old slot is back. -/
theorem merge_ne_commit :
    (ProducedStates emptyDatabase
        [AList.singleton 3 destroyedContract, AList.singleton 3 fundedAccount] ∧
      ∃ merged, mergeEvmStates (AList.singleton 3 destroyedContract)
          [AList.singleton 3 fundedAccount] = some merged ∧
        ((emptyDatabase.commit merged).site 3).info = none ∧
        ((emptyDatabase.commitAll [AList.singleton 3 destroyedContract,
          AList.singleton 3 fundedAccount]).site 3).info.map AccountInfo.balance = some 5) ∧
    (ProducedStates emptyDatabase
        [AList.singleton 3 destroyedContract, AList.singleton 3 (recreatedContract ∅)] ∧
      ∃ merged, mergeEvmStates (AList.singleton 3 destroyedContract)
          [AList.singleton 3 (recreatedContract ∅)] = some merged ∧
        ((emptyDatabase.commit merged).site 3).storage 1 = 7 ∧
        ((emptyDatabase.commitAll [AList.singleton 3 destroyedContract,
          AList.singleton 3 (recreatedContract ∅)]).site 3).storage 1 = 0) :=
  ⟨⟨producedStates_comesBack produced_fundedAccount, _, rfl, rfl, rfl⟩,
    producedStates_comesBack (produced_recreatedContract fun _ _ found => nomatch found),
    _, rfl, rfl, rfl⟩

end MegaEvm
