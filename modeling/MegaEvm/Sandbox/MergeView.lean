/-
This file says what the sandbox merge does to the parent as anyone can observe it. The
view of an account is its balance, nonce, code hash, flags and the value of every
slot, loaded or not. Undoing a change of the journal has a counterpart on views, and
each step of the merge is shown to be undone exactly there by the changes it records;
the loaded cache may only grow. On views the merge of an account that goes through is
a single function, which is the specification of the merge.
-/

import MegaEvm.Sandbox.StateMerge

namespace MegaEvm

open EvmStorageSlot Account Library

/-! ### Views -/

/-- What can be observed of an account. -/
@[ext] structure AccountView where
  balance : U256
  nonce : Nat
  codeHash : CodeHash
  created : Bool
  touched : Bool
  storage : U256 → U256

/-- What a slot reads that is not loaded, by whether the account counts as created. -/
abbrev Unloaded := Bool → U256 → U256

/-- The view of an account over what its unloaded slots read. -/
def Account.view (account : Account) (stored : Unloaded) : AccountView where
  balance := account.info.balance
  nonce := account.info.nonce
  codeHash := account.info.codeHash
  created := account.status.created
  touched := account.status.touched
  storage key :=
    ((account.storage.lookup key).map EvmStorageSlot.presentValue).getD
      (stored account.status.created key)

/-- Undo a change on a view. -/
def AccountChange.undoView (change : AccountChange) (view : AccountView) : AccountView :=
  match change with
  | accountTouched => { view with touched := false }
  | balanceChange oldBalance => { view with balance := oldBalance }
  | nonceChange => { view with nonce := view.nonce - 1 }
  | accountCreated isCreatedGlobally =>
    { view with
      nonce := 0
      created := if isCreatedGlobally then false else view.created }
  | storageChanged key hadValue =>
    { view with storage := Function.update view.storage key hadValue }
  | codeChange => { view with codeHash := keccakEmpty }

/-- What undoing a change needs: a slot whose value is restored is loaded, and in an account whose
creation is undone the unloaded slots read the same with and without the mark. -/
def AccountChange.Undoable (stored : Unloaded) (account : Account) : AccountChange → Prop
  | storageChanged key _ => key ∈ account.storage
  | accountCreated _ => ∀ key, stored true key = stored false key
  | _ => True

namespace Account

variable (account : Account) (stored : Unloaded) {key : U256} {before after : Account}

theorem view_storage_of_loaded {slot : EvmStorageSlot}
    (loaded : account.storage.lookup key = some slot) :
    (account.view stored).storage key = slot.presentValue := by
  unfold view
  dsimp only
  rw [loaded]
  rfl

theorem view_storage_of_unloaded (unloaded : account.storage.lookup key = none) :
    (account.view stored).storage key = stored account.status.created key := by
  unfold view
  dsimp only
  rw [unloaded]
  rfl

/-- Where unloaded slots read the same with and without the mark, accounts with the same slots
read the same. -/
theorem view_storage_of_indifferent {account other : Account} {stored : Unloaded}
    (storage : account.storage = other.storage)
    (indifferent : ∀ key, stored true key = stored false key) :
    (account.view stored).storage = (other.view stored).storage := by
  have same : ∀ created key, stored created key = stored false key := by
    intro created key
    cases created with
    | false => rfl
    | true => exact indifferent key
  funext key
  unfold view
  dsimp only
  rw [storage, same account.status.created, same other.status.created]

theorem view_insert_other {other : U256} (slot : EvmStorageSlot) (distinct : other ≠ key) :
    (({ account with storage := account.storage.insert key slot } : Account).view stored).storage
        other =
      (account.view stored).storage other := by
  unfold view
  dsimp only
  rw [AList.lookup_insert_ne distinct]

/-- Storing a slot sets the value of its key in the view. -/
theorem view_insert (key : U256) (slot : EvmStorageSlot) :
    ({ account with storage := account.storage.insert key slot } : Account).view stored =
      { account.view stored with
        storage := Function.update (account.view stored).storage key slot.presentValue } := by
  refine AccountView.ext rfl rfl rfl rfl rfl (funext fun other => ?_)
  show _ = Function.update (account.view stored).storage key slot.presentValue other
  by_cases same : other = key
  · subst same
    rw [Function.update_self]
    exact view_storage_of_loaded _ stored (AList.lookup_insert _)
  · rw [Function.update_of_ne same]
    exact account.view_insert_other stored slot same

theorem view_setSlot (value : U256) (loaded : key ∈ account.storage) :
    (account.setSlot key value).view stored =
      { account.view stored with
        storage := Function.update (account.view stored).storage key value } := by
  obtain ⟨slot, found⟩ := Option.isSome_iff_exists.mp (AList.lookup_isSome.mpr loaded)
  unfold setSlot
  rw [found]
  exact account.view_insert stored key _

/-- The view of an account whose creation is undone. -/
theorem view_unmarkCreated (isCreatedGlobally : Bool)
    (indifferent : ∀ key, stored true key = stored false key) :
    (account.unmarkCreated isCreatedGlobally).view stored =
      (AccountChange.accountCreated isCreatedGlobally).undoView (account.view stored) :=
  AccountView.ext rfl rfl rfl rfl rfl (view_storage_of_indifferent rfl indifferent)

/-- The flags that nothing here changes: whether the account is cold and whether it is destroyed. -/
def keptFlags (account : Account) : Bool × Bool :=
  (account.status.cold, account.status.selfDestructed)

/-- The cache only grew from one account to the other: the account is as cold and as much alive as
before, the loaded slots are as cold as before, and slots loaded since then are cold. -/
def Grown (before after : Account) : Prop :=
  after.keptFlags = before.keptFlags ∧
    ∀ key, (after.storage.lookup key).map EvmStorageSlot.isCold =
        (before.storage.lookup key).map EvmStorageSlot.isCold ∨
      before.storage.lookup key = none ∧
        (after.storage.lookup key).map EvmStorageSlot.isCold = some true

theorem Grown.of_same (flags : after.keptFlags = before.keptFlags)
    (storage : after.storage = before.storage) : before.Grown after :=
  ⟨flags, fun _ => Or.inl (by rw [storage])⟩

theorem Grown.refl (account : Account) : account.Grown account :=
  Grown.of_same rfl rfl

theorem Grown.trans {first second third : Account} (earlier : first.Grown second)
    (later : second.Grown third) : first.Grown third := by
  refine ⟨later.1.trans earlier.1, fun key => ?_⟩
  rcases later.2 key with sameLater | ⟨absent, cold⟩
  · rcases earlier.2 key with sameEarlier | ⟨absent, cold⟩
    · exact Or.inl (sameLater.trans sameEarlier)
    · exact Or.inr ⟨absent, sameLater.trans cold⟩
  · rcases earlier.2 key with sameEarlier | ⟨_, present⟩
    · rw [absent, Option.map_none] at sameEarlier
      exact Or.inr ⟨Option.map_eq_none_iff.mp sameEarlier.symm, cold⟩
    · rw [absent] at present
      cases present

/-- What was loaded stays loaded. -/
theorem Grown.kept (grown : before.Grown after) {key : U256} (loaded : key ∈ before.storage) :
    key ∈ after.storage := by
  have present := AList.lookup_isSome.mpr loaded
  rw [← AList.lookup_isSome, ← Option.isSome_map]
  rcases grown.2 key with same | ⟨_, cold⟩
  · rw [same, Option.isSome_map]
    exact present
  · rw [cold]
    rfl

/-- Storing a slot over one that is as cold, or a cold one where there was none. -/
theorem Grown.insert (account : Account) (key : U256) (slot : EvmStorageSlot)
    (cold : (account.storage.lookup key).map isCold = some slot.isCold ∨
      account.storage.lookup key = none ∧ slot.isCold = true) :
    account.Grown { account with storage := account.storage.insert key slot } := by
  refine ⟨rfl, fun other => ?_⟩
  by_cases same : other = key
  · subst same
    rw [show (account.storage.insert other slot).lookup other = some slot from
      AList.lookup_insert _, Option.map_some]
    rcases cold with asCold | ⟨absent, isCold⟩
    · exact Or.inl asCold.symm
    · exact Or.inr ⟨absent, congrArg some isCold⟩
  · exact Or.inl (congrArg _ (AList.lookup_insert_ne same))

theorem Grown.setSlot (account : Account) (key value : U256) :
    account.Grown (account.setSlot key value) := by
  unfold Account.setSlot
  cases found : account.storage.lookup key with
  | none => exact Grown.refl account
  | some slot => exact Grown.insert account key _ (Or.inl (by rw [found]; rfl))

end Account

open Account.Grown

namespace AccountChange

variable {stored : Unloaded}

/-- Undoing a change only leaves the cache grown. -/
theorem grown_undo (change : AccountChange) (account : Account) :
    account.Grown (change.undo account) := by
  cases change with
  | storageChanged key hadValue => exact Account.Grown.setSlot account key hadValue
  | _ => exact of_same rfl rfl

/-- Undoing a change on an account undoes it on the view. -/
theorem view_undo (change : AccountChange) (account : Account)
    (undoable : change.Undoable stored account) :
    (change.undo account).view stored = change.undoView (account.view stored) := by
  cases change with
  | accountTouched | balanceChange | nonceChange | codeChange => rfl
  | accountCreated isCreatedGlobally =>
    exact account.view_unmarkCreated stored isCreatedGlobally undoable
  | storageChanged key hadValue => exact account.view_setSlot stored hadValue undoable

theorem Undoable.mono {change : AccountChange} {account grown : Account}
    (undoable : change.Undoable stored account) (grows : account.Grown grown) :
    change.Undoable stored grown := by
  cases change with
  | storageChanged => exact grows.kept undoable
  | accountCreated isCreatedGlobally => exact undoable
  | accountTouched | balanceChange | nonceChange | codeChange => trivial

end AccountChange

/-! ### Steps that can be undone -/

namespace Merging

variable {stored : Unloaded}

/-- A merge went on from `before` to `after` and recorded how to go back: undoing the newer changes
gives the view from before, and the cache only grew. -/
structure Continues (stored : Unloaded) (before after : Merging) : Prop where
  undone : ∃ newer : List AccountChange, after.changes = newer ++ before.changes ∧
    Library.unwind AccountChange.undoView newer (after.account.view stored) =
      before.account.view stored ∧
    ∀ change ∈ newer, change.Undoable stored after.account
  grown : before.account.Grown after.account

variable (merging : Merging) (slots : List (Sigma fun _ : U256 => EvmStorageSlot)) (key : U256)
  (slot : EvmStorageSlot) (keys : List U256)

theorem Continues.refl : Continues stored merging merging where
  undone := ⟨[], rfl, rfl, fun _ member => nomatch member⟩
  grown := of_same rfl rfl

theorem Continues.trans {first second third : Merging} (earlier : Continues stored first second)
    (later : Continues stored second third) : Continues stored first third := by
  obtain ⟨⟨older, olderChanges, olderUndone, olderUndoable⟩, olderGrown⟩ := earlier
  obtain ⟨⟨newer, newerChanges, newerUndone, newerUndoable⟩, newerGrown⟩ := later
  refine ⟨⟨newer ++ older, ?_, ?_, ?_⟩, olderGrown.trans newerGrown⟩
  · rw [newerChanges, olderChanges, List.append_assoc]
  · rw [unwind_append, newerUndone, olderUndone]
  · intro change member
    rcases List.mem_append.mp member with isNewer | isOlder
    · exact newerUndoable change isNewer
    · exact (olderUndoable change isOlder).mono newerGrown

/-- One recorded change. -/
theorem Continues.push (change : AccountChange) (account : Account)
    (undone : change.undoView (account.view stored) = merging.account.view stored)
    (undoable : change.Undoable stored account) (grown : merging.account.Grown account) :
    Continues stored merging (merging.push change account) where
  undone := ⟨[change], rfl, undone, fun _ member => List.mem_singleton.mp member ▸ undoable⟩
  grown := grown

/-- A step that only fills the cache of the bytecode. -/
theorem Continues.setCode (code : Option Bytecode) :
    Continues stored merging
      { merging with
        account := merging.account.setCode merging.account.info.codeHash code } where
  undone := ⟨[], rfl, rfl, fun _ member => nomatch member⟩
  grown := of_same rfl rfl

/-- Marking an account without nonce as created. -/
theorem markAccountCreatedForSandboxMerge_continues (fresh : merging.account.info.nonce = 0)
    (indifferent : ∀ key, stored true key = stored false key) :
    Continues stored merging merging.markAccountCreatedForSandboxMerge := by
  refine Continues.push merging _ _ ?_ indifferent (of_same rfl rfl)
  rw [← view_unmarkCreated _ _ _ indifferent]
  refine AccountView.ext rfl fresh.symm rfl ?_ rfl (view_storage_of_indifferent rfl indifferent)
  show (if !merging.account.status.created then false else true) = merging.account.status.created
  cases merging.account.status.created <;> rfl

theorem touch_continues : Continues stored merging merging.touch := by
  unfold touch
  split
  · exact Continues.refl merging
  · next untouched =>
    refine Continues.push merging _ _ ?_ trivial (of_same rfl rfl)
    exact AccountView.ext rfl rfl rfl rfl (Bool.eq_false_iff.mpr untouched).symm rfl

theorem touch_info : merging.touch.account.info = merging.account.info := by
  unfold touch
  split <;> rfl

theorem zeroParentStorageSlot_continues :
    Continues stored merging (merging.zeroParentStorageSlot key) := by
  unfold zeroParentStorageSlot
  cases found : merging.account.storage.lookup key with
  | none => exact Continues.refl merging
  | some slot =>
    have loaded : key ∈ merging.account.storage := AList.lookup_isSome.mp (by rw [found]; rfl)
    dsimp only [Option.map_some, Option.getD_some]
    split
    · exact Continues.refl merging
    · have grown := Account.Grown.setSlot merging.account key 0
      refine Continues.push merging _ _ ?_ (grown.kept loaded) grown
      rw [view_setSlot _ _ _ loaded]
      refine AccountView.ext rfl rfl rfl rfl rfl ?_
      have value := merging.account.view_storage_of_loaded stored found
      show Function.update (Function.update (merging.account.view stored).storage key 0) key
        slot.presentValue = (merging.account.view stored).storage
      rw [Function.update_idem, ← value, Function.update_eq_self]

theorem zeroParentStorageSlots_continues :
    Continues stored merging (merging.zeroParentStorageSlots keys) := by
  induction keys generalizing merging with
  | nil => exact Continues.refl merging
  | cons key rest inductionHypothesis =>
    exact (zeroParentStorageSlot_continues merging key).trans (inductionHypothesis _)

theorem mergeBalance_continues (sandbox : Account) :
    Continues stored merging (merging.mergeBalance sandbox) := by
  unfold mergeBalance
  split
  · exact Continues.refl merging
  · exact Continues.push merging _ _ rfl trivial (of_same rfl rfl)

theorem emptyBalance_continues : Continues stored merging merging.emptyBalance := by
  unfold emptyBalance
  split
  · exact Continues.refl merging
  · exact Continues.push merging _ _ rfl trivial (of_same rfl rfl)

/-- Undoing `count` increments takes `count` from the nonce. -/
theorem unwind_nonceChange (count : Nat) (view : AccountView) :
    unwind AccountChange.undoView (List.replicate count .nonceChange) view =
      { view with nonce := view.nonce - count } := by
  induction count generalizing view with
  | zero => rfl
  | succ count inductionHypothesis =>
    rw [List.replicate_succ, unwind_cons, inductionHypothesis]
    refine AccountView.ext rfl ?_ rfl rfl rfl rfl
    show view.nonce - 1 - count = view.nonce - (count + 1)
    rw [Nat.sub_sub, Nat.add_comm]

theorem mergeNonce_continues (sandbox : Account)
    (rises : merging.account.info.nonce ≤ sandbox.info.nonce) :
    Continues stored merging (merging.mergeNonce sandbox) := by
  refine ⟨⟨List.replicate (sandbox.info.nonce - merging.account.info.nonce) .nonceChange, rfl,
    ?_, ?_⟩, ?_⟩
  · rw [unwind_nonceChange, mergeNonce]
    split
    · refine AccountView.ext rfl ?_ rfl rfl rfl rfl
      show sandbox.info.nonce - (sandbox.info.nonce - merging.account.info.nonce) = _
      exact Nat.sub_sub_self rises
    · next same =>
      refine AccountView.ext rfl ?_ rfl rfl rfl rfl
      show merging.account.info.nonce - (sandbox.info.nonce - merging.account.info.nonce) = _
      rw [Nat.eq_zero_of_not_pos same, Nat.sub_zero]
      rfl
  · intro change member
    rw [List.eq_of_mem_replicate member]
    trivial
  · unfold mergeNonce
    dsimp only
    split <;> exact of_same rfl rfl

theorem mergeCode_continues (sandbox : Account) {coded : Merging}
    (merged : merging.mergeCode sandbox = some coded) : Continues stored merging coded := by
  unfold mergeCode at merged
  split at merged
  · split at merged
    · exact Option.some.inj merged ▸ Continues.setCode merging _
    · exact Option.some.inj merged ▸ Continues.refl merging
  · split at merged
    · cases merged
    · next empty =>
      cases found : sandbox.info.code with
      | none => rw [found] at merged; cases merged
      | some code =>
        rw [found] at merged
        refine Option.some.inj merged ▸ (touch_continues merging).trans
          (Continues.push merging.touch _ _ ?_ trivial (of_same rfl rfl))
        refine AccountView.ext rfl rfl ?_ rfl rfl rfl
        show keccakEmpty = merging.touch.account.info.codeHash
        rw [merging.touch_info, not_not.mp empty]

@[simp] theorem presentValue_mergedSlot (parentSlot : Option EvmStorageSlot)
    (sandboxSlot : EvmStorageSlot) :
    (mergedSlot parentSlot sandboxSlot).presentValue = sandboxSlot.presentValue := by
  cases parentSlot <;> rfl

/-- Merging a slot the parent has not loaded goes back to the value the sandbox loaded, so that has
to be the value the parent reads. -/
theorem mergeSlot_continues
    (reads : merging.account.storage.lookup key = none →
      slot.originalValue = (merging.account.view stored).storage key) :
    Continues stored merging (merging.mergeSlot key slot) := by
  -- In either case the value to go back to is the one the parent reads.
  have hadValue : ((merging.account.storage.lookup key).map presentValue).getD
      slot.originalValue = (merging.account.view stored).storage key := by
    cases found : merging.account.storage.lookup key with
    | none => exact reads found
    | some parentSlot => exact (merging.account.view_storage_of_loaded stored found).symm
  have grown : merging.account.Grown (merging.mergeSlot key slot).account := by
    refine insert merging.account key _ ?_
    cases merging.account.storage.lookup key with
    | none => exact Or.inr ⟨rfl, rfl⟩
    | some parentSlot => exact Or.inl rfl
  have view : (merging.mergeSlot key slot).account.view stored = _ :=
    merging.account.view_insert stored key (mergedSlot _ slot)
  rw [presentValue_mergedSlot] at view
  by_cases same : slot.presentValue = (merging.account.view stored).storage key
  · refine ⟨⟨[], ?_, ?_, fun _ member => nomatch member⟩, grown⟩
    · show (if _ = _ then _ else _) = _
      rw [hadValue, if_pos same, List.nil_append]
    · rw [unwind_nil, view, same, Function.update_eq_self]
  · refine ⟨⟨[.storageChanged key ((merging.account.view stored).storage key)], ?_, ?_, ?_⟩, grown⟩
    · show (if _ = _ then _ else _) = _
      rw [hadValue, if_neg same]
      rfl
    · rw [unwind_cons, unwind_nil, view]
      refine AccountView.ext rfl rfl rfl rfl rfl ?_
      show Function.update (Function.update _ key _) key _ = _
      rw [Function.update_idem, Function.update_eq_self]
    · intro change member
      rw [List.mem_singleton.mp member]
      exact (AList.mem_insert _).mpr (Or.inl rfl)

/-- The slots of the sandbox that the parent has not loaded were loaded by the sandbox with the
value the parent reads. -/
def ReadsMatch (stored : Unloaded) (parent : Account)
    (slots : List (Sigma fun _ : U256 => EvmStorageSlot)) : Prop :=
  ∀ slot ∈ slots, parent.storage.lookup slot.1 = none →
    slot.2.originalValue = (parent.view stored).storage slot.1

/-- Merging one slot leaves the reads of the others alone. -/
theorem ReadsMatch.mergeSlot {merging : Merging} {key : U256} {slot : EvmStorageSlot}
    {rest : List (Sigma fun _ : U256 => EvmStorageSlot)}
    (reads : ReadsMatch stored merging.account rest) (absent : ∀ other ∈ rest, other.1 ≠ key) :
    ReadsMatch stored (merging.mergeSlot key slot).account rest := by
  intro other member unloaded
  have distinct := absent other member
  have view : ((merging.mergeSlot key slot).account.view stored).storage other.1 =
      (merging.account.view stored).storage other.1 :=
    merging.account.view_insert_other stored _ distinct
  rw [view]
  refine reads other member ?_
  rw [← unloaded]
  exact (AList.lookup_insert_ne distinct).symm

theorem mergeSlots_continues (nodup : slots.NodupKeys)
    (reads : ReadsMatch stored merging.account slots) :
    Continues stored merging (merging.mergeSlots slots) := by
  induction slots generalizing merging with
  | nil => exact Continues.refl merging
  | cons slot rest inductionHypothesis =>
    obtain ⟨absent, nodupRest⟩ := List.nodupKeys_cons.mp nodup
    have distinct : ∀ other ∈ rest, other.1 ≠ slot.1 :=
      fun other member same => absent (same ▸ List.mem_keys_of_mem member)
    have first := mergeSlot_continues merging slot.1 slot.2 (reads slot List.mem_cons_self)
    have readsRest : ReadsMatch stored merging.account rest :=
      fun other member => reads other (List.mem_cons_of_mem _ member)
    exact first.trans (inductionHypothesis _ nodupRest (readsRest.mergeSlot distinct))

/-! ### What the steps do to the view -/

theorem view_zeroParentStorageSlot {key : U256} (loaded : key ∈ merging.account.storage) :
    (merging.zeroParentStorageSlot key).account.view stored =
      { merging.account.view stored with
        storage := Function.update (merging.account.view stored).storage key 0 } := by
  obtain ⟨slot, found⟩ := Option.isSome_iff_exists.mp (AList.lookup_isSome.mpr loaded)
  have value := merging.account.view_storage_of_loaded stored found
  unfold zeroParentStorageSlot
  rw [found]
  dsimp only [Option.map_some, Option.getD_some]
  split
  · next zero =>
    refine AccountView.ext rfl rfl rfl rfl rfl ?_
    show _ = Function.update (merging.account.view stored).storage key 0
    rw [← zero, ← value, Function.update_eq_self]
  · exact merging.account.view_setSlot stored 0 loaded

theorem mem_zeroParentStorageSlot (other : U256) (loaded : other ∈ merging.account.storage) :
    other ∈ (merging.zeroParentStorageSlot key).account.storage :=
  (@zeroParentStorageSlot_continues (fun _ _ => 0) merging key).grown.kept loaded

/-- Zeroing loaded slots zeroes exactly these in the view. -/
theorem view_zeroParentStorageSlots (loaded : ∀ key ∈ keys, key ∈ merging.account.storage) :
    (merging.zeroParentStorageSlots keys).account.view stored =
      { merging.account.view stored with
        storage := fun key =>
          if key ∈ keys then 0 else (merging.account.view stored).storage key } := by
  induction keys generalizing merging with
  | nil =>
    refine AccountView.ext rfl rfl rfl rfl rfl (funext fun key => ?_)
    show _ = if key ∈ ([] : List U256) then 0 else (merging.account.view stored).storage key
    rw [if_neg List.not_mem_nil]
    rfl
  | cons first rest inductionHypothesis =>
    show ((merging.zeroParentStorageSlot first).zeroParentStorageSlots rest).account.view stored = _
    rw [inductionHypothesis _ fun key member =>
        mem_zeroParentStorageSlot merging first key (loaded key (List.mem_cons_of_mem _ member)),
      view_zeroParentStorageSlot merging (loaded first List.mem_cons_self)]
    refine AccountView.ext rfl rfl rfl rfl rfl (funext fun key => ?_)
    dsimp only
    by_cases same : key = first
    · subst same
      rw [Function.update_self, ite_self, if_pos List.mem_cons_self]
    · rw [Function.update_of_ne same]
      simp only [List.mem_cons, same, false_or]

theorem view_mergeBalance (sandbox : Account) :
    (merging.mergeBalance sandbox).account.view stored =
      { merging.account.view stored with balance := sandbox.info.balance } := by
  unfold mergeBalance
  split
  · next same => exact AccountView.ext same.symm rfl rfl rfl rfl rfl
  · rfl

theorem view_emptyBalance :
    merging.emptyBalance.account.view stored =
      { merging.account.view stored with balance := 0 } := by
  unfold emptyBalance
  split
  · next empty => exact AccountView.ext empty rfl rfl rfl rfl rfl
  · rfl

theorem view_mergeNonce (sandbox : Account)
    (rises : merging.account.info.nonce ≤ sandbox.info.nonce) :
    (merging.mergeNonce sandbox).account.view stored =
      { merging.account.view stored with nonce := sandbox.info.nonce } := by
  unfold mergeNonce
  dsimp only
  split
  · rfl
  · next same =>
    refine AccountView.ext rfl ?_ rfl rfl rfl rfl
    exact Nat.le_antisymm rises (Nat.sub_eq_zero_iff_le.mp (Nat.eq_zero_of_not_pos same))

theorem view_touch :
    merging.touch.account.view stored = { merging.account.view stored with touched := true } := by
  unfold touch
  split
  · next touched => exact AccountView.ext rfl rfl rfl rfl touched rfl
  · rfl

theorem view_mergeCode (sandbox : Account) {coded : Merging}
    (merged : merging.mergeCode sandbox = some coded) :
    coded.account.view stored =
      { merging.account.view stored with
        codeHash := sandbox.info.codeHash
        touched := merging.account.status.touched ||
          sandbox.info.codeHash != merging.account.info.codeHash } := by
  unfold mergeCode at merged
  split at merged
  · next same =>
    rw [bne_eq_false_iff_eq.mpr same, Bool.or_false]
    split at merged
    · exact Option.some.inj merged ▸ AccountView.ext rfl rfl same.symm rfl rfl rfl
    · exact Option.some.inj merged ▸ AccountView.ext rfl rfl same.symm rfl rfl rfl
  · next differs =>
    rw [bne_iff_ne.mpr differs, Bool.or_true]
    split at merged
    · cases merged
    · cases found : sandbox.info.code with
      | none => rw [found] at merged; cases merged
      | some code =>
        rw [found] at merged
        have touched := @view_touch stored merging
        refine Option.some.inj merged ▸ ?_
        exact congrArg (fun view => { view with codeHash := sandbox.info.codeHash }) touched

theorem view_mergeSlot :
    (merging.mergeSlot key slot).account.view stored =
      { merging.account.view stored with
        storage :=
          Function.update (merging.account.view stored).storage key slot.presentValue } := by
  rw [← presentValue_mergedSlot (merging.account.storage.lookup key) slot]
  exact merging.account.view_insert stored key _

/-- Merging slots gives the view their values. -/
theorem view_mergeSlots (nodup : slots.NodupKeys) :
    (merging.mergeSlots slots).account.view stored =
      { merging.account.view stored with
        storage := fun key =>
          ((slots.dlookup key).map presentValue).getD
            ((merging.account.view stored).storage key) } := by
  induction slots generalizing merging with
  | nil => rfl
  | cons slot rest inductionHypothesis =>
    obtain ⟨absent, nodupRest⟩ := List.nodupKeys_cons.mp nodup
    show ((merging.mergeSlot slot.1 slot.2).mergeSlots rest).account.view stored = _
    rw [inductionHypothesis _ nodupRest, view_mergeSlot]
    refine AccountView.ext rfl rfl rfl rfl rfl (funext fun key => ?_)
    dsimp only
    by_cases same : key = slot.1
    · subst same
      rw [List.dlookup_eq_none.mpr absent, Function.update_self]
      obtain ⟨key, slot⟩ := slot
      rw [List.dlookup_cons_eq]
      rfl
    · rw [Function.update_of_ne same, List.dlookup_cons_ne _ _ same]

end Merging

/-! ### The merge of one account -/

/-- What undoing the merge of an account needs. A slot the parent has not loaded was loaded by the
sandbox with the value it reads once the account has its mark, and the mark of an account that the
sandbox can create changes nothing about that. -/
structure MergeSound (stored : Unloaded) (sandbox parent : Account) : Prop where
  reads : ∀ key slot, sandbox.storage.lookup key = some slot →
    parent.storage.lookup key = none →
    slot.originalValue = stored (parent.status.created || sandbox.status.created) key
  indifferent : sandbox.status.created = true → parent.info.nonce = 0 →
    parent.info.codeHash = keccakEmpty → ∀ key, stored true key = stored false key

/-- The view the merge of an account is to give. -/
def AccountView.merge (parent : AccountView) (sandbox : Account) : AccountView :=
  if sandbox.status.selfDestructed then
    { parent with balance := 0, created := true, touched := true, storage := fun _ => 0 }
  else
    { balance := sandbox.info.balance
      nonce := sandbox.info.nonce
      codeHash := sandbox.info.codeHash
      created := parent.created || sandbox.status.created
      touched :=
        parent.touched || sandbox.info.codeHash != parent.codeHash || sandbox.status.touched
      storage := fun key =>
        ((sandbox.storage.lookup key).map EvmStorageSlot.presentValue).getD
          (if sandbox.status.created then 0 else parent.storage key) }

theorem ensureSandboxCreateCanMerge_iff (parent : Account) :
    ensureSandboxCreateCanMerge parent = true ↔
      parent.info.nonce = 0 ∧ parent.info.codeHash = keccakEmpty := by
  simp only [ensureSandboxCreateCanMerge, Bool.and_eq_true, beq_iff_eq]

namespace Merging

variable {stored : Unloaded} {sandbox parent : Account} (merging : Merging) (keys : List U256)
  (key : U256)

theorem zeroParentStorageSlot_fields :
    (merging.zeroParentStorageSlot key).account.info = merging.account.info ∧
      (merging.zeroParentStorageSlot key).account.status = merging.account.status := by
  unfold zeroParentStorageSlot
  dsimp only
  split
  · exact ⟨rfl, rfl⟩
  · show (merging.account.setSlot key 0).info = _ ∧ (merging.account.setSlot key 0).status = _
    unfold Account.setSlot
    cases merging.account.storage.lookup key <;> exact ⟨rfl, rfl⟩

/-- Zeroing slots touches nothing else of the account. -/
theorem zeroParentStorageSlots_fields :
    (merging.zeroParentStorageSlots keys).account.info = merging.account.info ∧
      (merging.zeroParentStorageSlots keys).account.status = merging.account.status := by
  induction keys generalizing merging with
  | nil => exact ⟨rfl, rfl⟩
  | cons key rest inductionHypothesis =>
    obtain ⟨info, status⟩ := inductionHypothesis (merging.zeroParentStorageSlot key)
    obtain ⟨infoFirst, statusFirst⟩ := zeroParentStorageSlot_fields merging key
    exact ⟨info.trans infoFirst, status.trans statusFirst⟩

/-- In an account marked as created, a slot reads zero once it is zeroed if it was loaded. -/
theorem view_storage_zeroed (cleared : ∀ key, stored true key = 0)
    (created : merging.account.status.created = true)
    (loaded : ∀ key ∈ keys, key ∈ merging.account.storage)
    (covered : key ∈ merging.account.storage → key ∈ keys) :
    ((merging.zeroParentStorageSlots keys).account.view stored).storage key = 0 := by
  rw [view_zeroParentStorageSlots merging keys loaded]
  show (if key ∈ keys then 0 else (merging.account.view stored).storage key) = 0
  split
  · rfl
  · next notKey =>
    have unloaded := AList.lookup_eq_none.mpr fun member => notKey (covered member)
    rw [merging.account.view_storage_of_unloaded stored unloaded, created, cleared]

/-- Zeroing every loaded slot of an account marked as created leaves it without storage. -/
theorem view_zeroAllSlots (cleared : ∀ key, stored true key = 0)
    (created : merging.account.status.created = true) :
    (merging.zeroParentStorageSlots merging.account.storage.keys).account.view stored =
      { merging.account.view stored with storage := fun _ => 0 } := by
  have loaded : ∀ key ∈ merging.account.storage.keys, key ∈ merging.account.storage :=
    fun _ member => AList.mem_keys.mpr member
  rw [view_zeroParentStorageSlots merging _ loaded]
  refine AccountView.ext rfl rfl rfl rfl rfl (funext fun key => ?_)
  have zeroed := view_storage_zeroed merging _ key cleared created loaded AList.mem_keys.mp
  rw [view_zeroParentStorageSlots merging _ loaded] at zeroed
  exact zeroed

theorem prepared_info : (prepared sandbox parent).account.info = parent.info := by
  unfold prepared
  split
  · exact (zeroParentStorageSlots_fields _ _).1
  · rfl

theorem prepared_touched :
    (prepared sandbox parent).account.status.touched = parent.status.touched := by
  unfold prepared
  split
  · rw [zeroParentStorageAbsentFromSandbox, (zeroParentStorageSlots_fields _ _).2]
    rfl
  · rfl

theorem prepared_created :
    (prepared sandbox parent).account.status.created =
      (parent.status.created || sandbox.status.created) := by
  unfold prepared
  split
  · next created =>
    rw [created, Bool.or_true]
    exact congrArg AccountStatus.created (zeroParentStorageSlots_fields _ _).2
  · next notCreated => rw [Bool.eq_false_iff.mpr notCreated, Bool.or_false]

theorem prepared_keeps (loaded : key ∈ parent.storage) :
    key ∈ (prepared sandbox parent).account.storage := by
  unfold prepared
  split
  · exact (@zeroParentStorageSlots_continues (fun _ _ => 0) _ _).grown.kept loaded
  · exact loaded

/-- Slots the sandbox does not have read zero if it created the account. -/
theorem prepared_view_storage {key : U256} (cleared : ∀ key, stored true key = 0)
    (absent : sandbox.storage.lookup key = none) :
    ((prepared sandbox parent).account.view stored).storage key =
      if sandbox.status.created then 0 else (parent.view stored).storage key := by
  unfold prepared
  split
  · refine view_storage_zeroed _ _ key cleared rfl (fun other member => ?_) (fun member => ?_)
    · exact AList.mem_keys.mpr (List.mem_of_mem_filter member)
    · refine List.mem_filter.mpr ⟨AList.mem_keys.mp member, ?_⟩
      rw [absent]
      rfl
  · rfl

theorem prepared_continues (sound : MergeSound stored sandbox parent)
    (canMerge : sandbox.status.created = true → ensureSandboxCreateCanMerge parent = true) :
    Continues stored ⟨parent, []⟩ (prepared sandbox parent) := by
  unfold prepared
  split
  · next created =>
    obtain ⟨fresh, noCode⟩ := (ensureSandboxCreateCanMerge_iff parent).mp (canMerge created)
    exact (markAccountCreatedForSandboxMerge_continues ⟨parent, []⟩ fresh
      (sound.indifferent created fresh noCode)).trans (zeroParentStorageSlots_continues _ _)
  · exact Continues.refl _

/-- The sandbox's slots that the parent has not loaded still have the value to go back to. -/
theorem prepared_readsMatch (sound : MergeSound stored sandbox parent) {merging : Merging}
    (storage : merging.account.storage = (prepared sandbox parent).account.storage)
    (created : merging.account.status.created = (prepared sandbox parent).account.status.created) :
    ReadsMatch stored merging.account sandbox.storage.entries := by
  rintro ⟨key, slot⟩ member unloaded
  have present : sandbox.storage.lookup key = some slot := AList.mem_lookup_iff.mpr member
  have parentUnloaded : parent.storage.lookup key = none := by
    refine AList.lookup_eq_none.mpr fun loaded => AList.lookup_eq_none.mp unloaded ?_
    rw [storage]
    exact prepared_keeps key loaded
  have value := sound.reads key slot present parentUnloaded
  rw [merging.account.view_storage_of_unloaded stored unloaded, created, prepared_created, value]

theorem mergeBalance_fields (sandbox : Account) :
    (merging.mergeBalance sandbox).account.storage = merging.account.storage ∧
      (merging.mergeBalance sandbox).account.status = merging.account.status ∧
      (merging.mergeBalance sandbox).account.info.nonce = merging.account.info.nonce := by
  unfold mergeBalance
  split <;> exact ⟨rfl, rfl, rfl⟩

theorem emptyBalance_created :
    merging.emptyBalance.account.status.created = merging.account.status.created := by
  unfold emptyBalance
  split <;> rfl

theorem codeHash_mergeBalance (sandbox : Account) :
    (merging.mergeBalance sandbox).account.info.codeHash = merging.account.info.codeHash := by
  unfold mergeBalance
  split <;> rfl

theorem codeHash_mergeNonce (sandbox : Account) :
    (merging.mergeNonce sandbox).account.info.codeHash = merging.account.info.codeHash := by
  unfold mergeNonce
  dsimp only
  split <;> rfl

theorem mergeNonce_fields (sandbox : Account) :
    (merging.mergeNonce sandbox).account.storage = merging.account.storage ∧
      (merging.mergeNonce sandbox).account.status = merging.account.status := by
  unfold mergeNonce
  dsimp only
  split <;> exact ⟨rfl, rfl⟩

theorem touch_fields :
    merging.touch.account.storage = merging.account.storage ∧
      merging.touch.account.status.created = merging.account.status.created := by
  unfold touch
  split <;> exact ⟨rfl, rfl⟩

theorem mergeCode_fields {coded : Merging} (merged : merging.mergeCode sandbox = some coded) :
    coded.account.storage = merging.account.storage ∧
      coded.account.status.created = merging.account.status.created := by
  unfold mergeCode at merged
  split at merged
  · split at merged <;> exact Option.some.inj merged ▸ ⟨rfl, rfl⟩
  · split at merged
    · cases merged
    · cases found : sandbox.info.code with
      | none => rw [found] at merged; cases merged
      | some code =>
        rw [found] at merged
        exact Option.some.inj merged ▸ merging.touch_fields

/-- Touch the account if the sandbox touched it. -/
theorem touchIf_fields (sandbox : Account) :
    (if sandbox.status.touched then merging.touch else merging).account.storage =
        merging.account.storage ∧
      (if sandbox.status.touched then merging.touch else merging).account.status.created =
        merging.account.status.created := by
  split
  · exact merging.touch_fields
  · exact ⟨rfl, rfl⟩

theorem touchIf_continues (sandbox : Account) :
    Continues stored merging (if sandbox.status.touched then merging.touch else merging) := by
  split
  · exact merging.touch_continues
  · exact Continues.refl merging

theorem view_touchIf (sandbox : Account) :
    (if sandbox.status.touched then merging.touch else merging).account.view stored =
      { merging.account.view stored with
        touched := merging.account.status.touched || sandbox.status.touched } := by
  split
  · next touched => rw [view_touch, touched, Bool.or_true]
  · next untouched =>
    rw [Bool.eq_false_iff.mpr untouched, Bool.or_false]
    rfl

end Merging

open Merging

section MergeOne

variable {stored : Unloaded} {sandbox parent : Account}

/-- An account created and self-destructed in the sandbox. -/
theorem applySandboxCreatedSelfdestruct_continues (sound : MergeSound stored sandbox parent) :
    Continues stored ⟨parent, []⟩ (applySandboxCreatedSelfdestruct sandbox parent).1 := by
  unfold applySandboxCreatedSelfdestruct
  split
  · next merges =>
    obtain ⟨created, canMerge⟩ := Bool.and_eq_true_iff.mp merges
    obtain ⟨fresh, noCode⟩ := (ensureSandboxCreateCanMerge_iff parent).mp canMerge
    refine (markAccountCreatedForSandboxMerge_continues ⟨parent, []⟩ fresh
      (sound.indifferent created fresh noCode)).trans ((touch_continues _).trans ?_)
    exact (emptyBalance_continues _).trans (zeroParentStorageSlots_continues _ _)
  · exact Continues.refl _

/-- Whatever the merge of an account did, and whether or not it went through, its changes undo
it. -/
theorem mergeSandboxAccount_continues (sound : MergeSound stored sandbox parent) :
    Continues stored ⟨parent, []⟩ (mergeSandboxAccount sandbox parent).1 := by
  unfold mergeSandboxAccount
  split
  · exact applySandboxCreatedSelfdestruct_continues sound
  split
  · exact Continues.refl _
  next canMerge =>
  have prepares := prepared_continues sound fun created => by
    simpa only [created, Bool.true_and, Bool.not_eq_true', Bool.not_eq_false] using canMerge
  have balances := prepares.trans (mergeBalance_continues _ sandbox)
  dsimp only
  split
  · exact balances
  next rises =>
  obtain ⟨balanceStorage, balanceStatus, balanceNonce⟩ :=
    mergeBalance_fields (prepared sandbox parent) sandbox
  have counts := balances.trans (mergeNonce_continues _ sandbox (by
    rw [balanceNonce, prepared_info]
    exact Nat.le_of_not_lt rises))
  split
  · exact counts
  next coded merged =>
  obtain ⟨nonceStorage, nonceStatus⟩ :=
    mergeNonce_fields ((prepared sandbox parent).mergeBalance sandbox) sandbox
  obtain ⟨codeStorage, codeStatus⟩ := mergeCode_fields _ merged
  obtain ⟨touchStorage, touchCreated⟩ := touchIf_fields coded sandbox
  have touches := (counts.trans (mergeCode_continues _ _ merged)).trans
    (touchIf_continues coded sandbox)
  refine touches.trans (mergeSlots_continues _ _ sandbox.storage.nodupKeys ?_)
  refine prepared_readsMatch sound ?_ ?_
  · rw [touchStorage, codeStorage, nonceStorage, balanceStorage]
  · rw [touchCreated, codeStatus, nonceStatus, balanceStatus]

theorem view_applySandboxCreatedSelfdestruct {merging : Merging}
    (cleared : ∀ key, stored true key = 0)
    (merged : applySandboxCreatedSelfdestruct sandbox parent = (merging, true)) :
    merging.account.view stored =
      { parent.view stored with
        balance := 0, created := true, touched := true, storage := fun _ => 0 } := by
  unfold applySandboxCreatedSelfdestruct at merged
  split at merged
  · obtain rfl := (Prod.mk.inj merged).1
    have created : ((mk parent []).markAccountCreatedForSandboxMerge.touch.emptyBalance
        ).account.status.created = true := by
      rw [emptyBalance_created, (touch_fields _).2]
      rfl
    rw [view_zeroAllSlots _ cleared created, view_emptyBalance, view_touch]
    rfl
  · cases (Prod.mk.inj merged).2

/-- The merge of an account that goes through gives the view it is to give. -/
theorem view_mergeSandboxAccount {merging : Merging} (cleared : ∀ key, stored true key = 0)
    (merged : mergeSandboxAccount sandbox parent = (merging, true)) :
    merging.account.view stored = (parent.view stored).merge sandbox := by
  unfold mergeSandboxAccount at merged
  unfold AccountView.merge
  split at merged
  · next destroyed => rw [if_pos destroyed, view_applySandboxCreatedSelfdestruct cleared merged]
  next alive =>
  rw [if_neg alive]
  split at merged
  · cases (Prod.mk.inj merged).2
  dsimp only at merged
  split at merged
  · cases (Prod.mk.inj merged).2
  next rises =>
  split at merged
  · cases (Prod.mk.inj merged).2
  next coded codeMerged =>
  obtain rfl := (Prod.mk.inj merged).1
  obtain ⟨_, _, balanceNonce⟩ := mergeBalance_fields (prepared sandbox parent) sandbox
  have rises : ((prepared sandbox parent).mergeBalance sandbox).account.info.nonce ≤
      sandbox.info.nonce := by
    rw [balanceNonce, prepared_info]
    exact Nat.le_of_not_lt rises
  rw [view_mergeSlots _ _ sandbox.storage.nodupKeys, view_touchIf, view_mergeCode _ _ codeMerged,
    view_mergeNonce _ _ rises, view_mergeBalance]
  refine AccountView.ext rfl rfl rfl prepared_created ?_ (funext fun key => ?_)
  · obtain ⟨_, balanceStatus, _⟩ := mergeBalance_fields (prepared sandbox parent) sandbox
    obtain ⟨_, nonceStatus⟩ :=
      mergeNonce_fields ((prepared sandbox parent).mergeBalance sandbox) sandbox
    have codeTouched : coded.account.status.touched = _ :=
      congrArg AccountView.touched (@view_mergeCode stored _ _ _ codeMerged)
    show (coded.account.status.touched || _) = (parent.status.touched || _ || _)
    rw [codeTouched]
    rw [nonceStatus, balanceStatus, prepared_touched, codeHash_mergeNonce, codeHash_mergeBalance,
      prepared_info]
    rfl
  · show ((sandbox.storage.lookup key).map presentValue).getD _ =
      ((sandbox.storage.lookup key).map presentValue).getD _
    cases absent : sandbox.storage.lookup key with
    | some slot => rfl
    | none => exact prepared_view_storage cleared absent

end MergeOne

end MegaEvm
