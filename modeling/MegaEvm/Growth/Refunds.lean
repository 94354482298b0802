/-
This file proves that state-growth refunds are backed by charges. The world and the
ledger of a transaction determine each other: the live growth of an account's slots
is what clearing them refunded plus the slots that are new now, and a destroyed
account has refunded one creation and its new slots.

Two kinds of step break this. A write to an account that has already self-destructed
moves its new slots after they were refunded, so that clearing one refunds it twice
and filling one is never refunded. And the first destruction of an account refunds
one creation whether or not exactly one was charged: from Rex6 on a create onto an
account that existed charges nothing, and before Rex6 a create charges again an
account that a transfer had already paid for. In a run without such steps the refunds
of every account are covered by its growth, and a destroyed account nets to zero.
-/

import MegaEvm.Growth.Run

namespace MegaEvm

open GrowthLedger FrameLimitTracker FrameLimitEntry GrowthState StateGrowthTracker World
  EvmStorageSlot

/-! ### Movements of the ledger -/

namespace GrowthLedger

variable (entry : GrowthEntry) (ledger : GrowthLedger)

variable (address : Address)

include address

@[simp] theorem accountGrowth_cons :
    accountGrowth (entry :: ledger) address =
      (if entry.owner = .account address then entry.growth else 0) +
        ledger.accountGrowth address := by
  rw [accountGrowth, List.map_cons, List.sum_cons, accountGrowth]

@[simp] theorem accountRefund_cons :
    accountRefund (entry :: ledger) address =
      (if entry.owner = .account address then entry.refund else 0) +
        ledger.accountRefund address := by
  rw [accountRefund, List.map_cons, List.sum_cons, accountRefund]

@[simp] theorem slotGrowth_cons :
    slotGrowth (entry :: ledger) address =
      (if entry.owner.isSlotOf address then entry.growth else 0) +
        ledger.slotGrowth address := by
  rw [slotGrowth, List.map_cons, List.sum_cons, slotGrowth]

@[simp] theorem slotRefund_cons :
    slotRefund (entry :: ledger) address =
      (if entry.owner.isSlotOf address then entry.refund else 0) +
        ledger.slotRefund address := by
  rw [slotRefund, List.map_cons, List.sum_cons, slotRefund]

omit address

@[simp] theorem totalGrowth_cons :
    totalGrowth (entry :: ledger) = entry.growth + ledger.totalGrowth := by
  rw [totalGrowth, List.map_cons, List.sum_cons, totalGrowth]

@[simp] theorem totalRefund_cons :
    totalRefund (entry :: ledger) = entry.refund + ledger.totalRefund := by
  rw [totalRefund, List.map_cons, List.sum_cons, totalRefund]

variable (owner : GrowthOwner)

variable (tracker : StateGrowthTracker)

include tracker

/-- A tracker that did not move enters nothing. -/
theorem record_same : ledger.record owner tracker tracker = ⟨owner, 0, 0⟩ :: ledger := by
  rw [record, Nat.sub_self, Nat.sub_self]

/-- Charging the top frame enters the charge. -/
theorem record_recordGrowth (amount : Nat) (active : tracker.frameTracker.frameStack ≠ []) :
    ledger.record owner tracker (tracker.recordGrowth amount) = ⟨owner, amount, 0⟩ :: ledger := by
  obtain ⟨used, refund⟩ :=
    tracker.frameTracker.addFrameDiscardable_cachedTotals amount active
  rw [record, recordGrowth, used, refund, Nat.add_sub_cancel_left, Nat.sub_self]

/-- Refunding the top frame enters the refund. -/
theorem record_recordRefund (amount : Nat) (active : tracker.frameTracker.frameStack ≠ []) :
    ledger.record owner tracker (tracker.recordRefund amount) = ⟨owner, 0, amount⟩ :: ledger := by
  obtain ⟨used, refund⟩ := tracker.frameTracker.addFrameRefund_cachedTotals amount active
  rw [record, recordRefund, used, refund, Nat.add_sub_cancel_left, Nat.sub_self]

end GrowthLedger

/-! ### The tracker's lanes and the ledger -/

/-- Each frame's lanes hold exactly what the ledger gained since the frame began, and the
transaction's entry holds the rest. -/
def LanesMatch (txEntry : FrameLimitEntry Unit) :
    List (FrameLimitEntry Unit) → List GrowthFrame → GrowthLedger → Prop
  | [], [], ledger =>
    ledger.totalGrowth = txEntry.discardableUsage ∧ ledger.totalRefund = txEntry.refund
  | entry :: entries, frame :: frames, ledger =>
    entry.persistentUsage = 0 ∧
      ledger.totalGrowth = frame.ledgerAtEntry.totalGrowth + entry.discardableUsage ∧
      ledger.totalRefund = frame.ledgerAtEntry.totalRefund + entry.refund ∧
      LanesMatch txEntry entries frames frame.ledgerAtEntry
  | _, _, _ => False

variable {frames : List GrowthFrame} {ledger : GrowthLedger} {txEntry : FrameLimitEntry Unit}
  {entries : List (FrameLimitEntry Unit)}

/-- Matching lanes sum to the ledger. -/
theorem LanesMatch.totals (lanes : LanesMatch txEntry entries frames ledger) :
    txEntry.discardableUsage + (entries.map used).sum = ledger.totalGrowth ∧
      txEntry.refund + (entries.map refund).sum = ledger.totalRefund := by
  induction entries generalizing frames ledger with
  | nil =>
    cases frames with
    | nil => exact ⟨lanes.1.symm, lanes.2.symm⟩
    | cons => exact lanes.elim
  | cons entry entries inductionHypothesis =>
    cases frames with
    | nil => exact lanes.elim
    | cons =>
      obtain ⟨persistent, growth, refund, below⟩ := lanes
      obtain ⟨belowGrowth, belowRefund⟩ := inductionHypothesis below
      rw [List.map_cons, List.sum_cons, List.map_cons, List.sum_cons, growth, refund,
        ← belowGrowth, ← belowRefund, used, persistent]
      omega

/-- A frame pushed at the current ledger matches. -/
theorem LanesMatch.push (lanes : LanesMatch txEntry entries frames ledger) (limit : Nat)
    (address : Address) (isCreate : Bool) (checkpoint : World) :
    LanesMatch txEntry (.new limit () :: entries)
      (⟨address, isCreate, checkpoint, ledger⟩ :: frames) ledger :=
  ⟨rfl, rfl, rfl, lanes⟩

/-- A movement of the top frame is a movement of the ledger. -/
theorem LanesMatch.move {entry : FrameLimitEntry Unit}
    (lanes : LanesMatch txEntry (entry :: entries) frames ledger) (moved : GrowthEntry) :
    LanesMatch txEntry
      ({ entry with
          discardableUsage := entry.discardableUsage + moved.growth
          refund := entry.refund + moved.refund } :: entries)
      frames (moved :: ledger) := by
  cases frames with
  | nil => exact lanes.elim
  | cons =>
    obtain ⟨persistent, growth, refund, below⟩ := lanes
    refine ⟨persistent, ?_, ?_, below⟩
    · rw [totalGrowth_cons, growth]
      exact (Nat.add_comm ..).trans (Nat.add_assoc ..)
    · rw [totalRefund_cons, refund]
      exact (Nat.add_comm ..).trans (Nat.add_assoc ..)

/-- A Rex4 tracker whose lanes match the ledger, in a transaction charged `intrinsic` beside it. -/
structure TrackerMatches (intrinsic : Nat) (tracker : StateGrowthTracker)
    (frames : List GrowthFrame) (ledger : GrowthLedger) : Prop where
  rex4 : tracker.spec.isEnabled .rex4 = true
  persistent : tracker.frameTracker.txEntry.persistentUsage = intrinsic
  lanes : LanesMatch tracker.frameTracker.txEntry tracker.frameTracker.frameStack frames ledger

namespace TrackerMatches

variable {intrinsic : Nat} {tracker : StateGrowthTracker} {frames : List GrowthFrame}
  {frame : GrowthFrame} {ledger : GrowthLedger}

/-- The totals of a matching tracker are the intrinsic growth and the ledger. -/
theorem totals (tracked : TrackerMatches intrinsic tracker frames ledger) :
    tracker.frameTracker.cachedTotalUsed = intrinsic + ledger.totalGrowth ∧
      tracker.frameTracker.cachedTotalRefund = ledger.totalRefund := by
  obtain ⟨growth, refund⟩ := tracked.lanes.totals
  rw [tracker.frameTracker.usedSynced, tracker.frameTracker.refundSynced, ← growth, refund,
    used, tracked.persistent, Nat.add_assoc]
  exact ⟨rfl, rfl⟩

variable (tracked : TrackerMatches intrinsic tracker (frame :: frames) ledger)

include tracked

/-- A matching tracker has a frame for each running frame. -/
theorem top : ∃ entry entries, tracker.frameTracker.frameStack = entry :: entries := by
  have lanes := tracked.lanes
  cases stack : tracker.frameTracker.frameStack with
  | nil =>
    rw [stack] at lanes
    exact lanes.elim
  | cons entry entries => exact ⟨entry, entries, rfl⟩

theorem active : tracker.frameTracker.frameStack ≠ [] := by
  obtain ⟨entry, entries, stack⟩ := tracked.top
  rw [stack]
  exact List.cons_ne_nil entry entries

variable (owner : GrowthOwner) (amount : Nat)

theorem recordGrowth :
    TrackerMatches intrinsic (tracker.recordGrowth amount) (frame :: frames)
      (⟨owner, amount, 0⟩ :: ledger) := by
  obtain ⟨entry, entries, stack⟩ := tracked.top
  obtain ⟨rex4, persistent, lanes⟩ := tracked
  rw [stack] at lanes
  refine ⟨rex4, ?_, ?_⟩
  · rw [StateGrowthTracker.recordGrowth, addFrameDiscardable_txEntry]
    exact persistent
  · rw [StateGrowthTracker.recordGrowth, addFrameDiscardable_txEntry,
      addFrameDiscardable_frameStack, stack]
    exact lanes.move ⟨owner, amount, 0⟩

theorem recordRefund :
    TrackerMatches intrinsic (tracker.recordRefund amount) (frame :: frames)
      (⟨owner, 0, amount⟩ :: ledger) := by
  obtain ⟨entry, entries, stack⟩ := tracked.top
  obtain ⟨rex4, persistent, lanes⟩ := tracked
  rw [stack] at lanes
  refine ⟨rex4, ?_, ?_⟩
  · rw [StateGrowthTracker.recordRefund, addFrameRefund_txEntry]
    exact persistent
  · rw [StateGrowthTracker.recordRefund, addFrameRefund_txEntry, addFrameRefund_frameStack, stack]
    exact lanes.move ⟨owner, 0, amount⟩

omit tracked

/-- A movement of nothing changes nothing. -/
theorem recordNothing (tracked : TrackerMatches intrinsic tracker frames ledger)
    (owner : GrowthOwner) : TrackerMatches intrinsic tracker frames (⟨owner, 0, 0⟩ :: ledger) := by
  obtain ⟨rex4, persistent, lanes⟩ := tracked
  refine ⟨rex4, persistent, ?_⟩
  cases stack : tracker.frameTracker.frameStack with
  | nil =>
    rw [stack] at lanes
    cases frames with
    | nil =>
      refine ⟨?_, ?_⟩
      · rw [totalGrowth_cons, Nat.zero_add]
        exact lanes.1
      · rw [totalRefund_cons, Nat.zero_add]
        exact lanes.2
    | cons => exact lanes.elim
  | cons =>
    rw [stack] at lanes
    exact lanes.move ⟨owner, 0, 0⟩

/-- A charge or a refund entered in the ledger keeps the lanes matched. -/
theorem record (tracked : TrackerMatches intrinsic tracker (frame :: frames) ledger)
    (owner : GrowthOwner) {next : StateGrowthTracker}
    (moved : next = tracker ∨ (∃ amount, next = tracker.recordGrowth amount) ∨
      ∃ amount, next = tracker.recordRefund amount) :
    TrackerMatches intrinsic next (frame :: frames) (ledger.record owner tracker next) := by
  rcases moved with rfl | ⟨amount, rfl⟩ | ⟨amount, rfl⟩
  · rw [record_same]
    exact tracked.recordNothing owner
  · rw [record_recordGrowth _ _ _ _ tracked.active]
    exact tracked.recordGrowth owner amount
  · rw [record_recordRefund _ _ _ _ tracked.active]
    exact tracked.recordRefund owner amount

theorem pushFrame (tracked : TrackerMatches intrinsic tracker frames ledger) (address : Address)
    (isCreate : Bool) (checkpoint : World) :
    TrackerMatches intrinsic tracker.pushFrame (⟨address, isCreate, checkpoint, ledger⟩ :: frames)
      ledger := by
  obtain ⟨rex4, persistent, lanes⟩ := tracked
  unfold StateGrowthTracker.pushFrame
  split
  · exact ⟨rex4, persistent, lanes.push _ address isCreate checkpoint⟩
  · exact ⟨rex4, persistent, lanes.push _ address isCreate checkpoint⟩

/-- Ending a frame keeps its movements when it succeeded and takes them away when it failed. -/
theorem finish (tracked : TrackerMatches intrinsic tracker (frame :: frames) ledger)
    (success : Bool) :
    TrackerMatches intrinsic (tracker.beforeFrameReturnResult success) frames
      (if success then ledger else frame.ledgerAtEntry) := by
  obtain ⟨entry, entries, stack⟩ := tracked.top
  obtain ⟨rex4, persistent, lanes⟩ := tracked
  rw [stack] at lanes
  obtain ⟨unpersistent, growth, refund, below⟩ := lanes
  unfold beforeFrameReturnResult
  cases entries with
  | nil =>
    obtain ⟨frameStack, txEntry⟩ := popFrame_single stack success
    cases frames with
    | cons => exact below.elim
    | nil =>
      obtain ⟨txGrowth, txRefund⟩ := below
      refine ⟨rex4, ?_, ?_⟩
      · simp only [txEntry, absorb, persistent, unpersistent, Nat.add_zero]
      rw [frameStack, txEntry]
      cases success with
      | true =>
        refine ⟨?_, ?_⟩
        · simp only [absorb, if_true, growth, txGrowth]
        · simp only [absorb, if_true, refund, txRefund]
      | false => exact ⟨txGrowth, txRefund⟩
  | cons parent rest =>
    obtain ⟨frameStack, txEntry⟩ := popFrame_nested stack success
    cases frames with
    | nil => exact below.elim
    | cons =>
      obtain ⟨parentUnpersistent, parentGrowth, parentRefund, deeper⟩ := below
      have unpersistentSum : (parent.absorb entry success).persistentUsage = 0 := by
        simp only [absorb, parentUnpersistent, unpersistent, Nat.add_zero]
      refine ⟨rex4, txEntry ▸ persistent, ?_⟩
      rw [frameStack, txEntry]
      cases success with
      | true =>
        refine ⟨unpersistentSum, ?_, ?_, deeper⟩
        · simp only [absorb, if_true, growth, parentGrowth, Nat.add_assoc]
        · simp only [absorb, if_true, refund, parentRefund, Nat.add_assoc]
      | false => exact ⟨unpersistentSum, parentGrowth, parentRefund, deeper⟩

end TrackerMatches

/-! ### The world and the ledger -/

/-- What an account of the world says is what the ledger says of it. -/
structure AccountBacked (account : Account) (ledger : GrowthLedger) (address : Address) :
    Prop where
  /-- The growth of slots is what was refunded plus the slots that are new. -/
  slots : ledger.slotGrowth address = ledger.slotRefund address + account.newSlots
  /-- A destroyed account was charged once and has refunded itself and its new slots. -/
  destroyed : account.destroyed = true →
    ledger.accountGrowth address = 1 ∧ ledger.accountRefund address = 1 + account.newSlots
  /-- Any other account has refunded nothing of its own. -/
  alive : account.destroyed = false → ledger.accountRefund address = 0
  /-- An account created in the transaction has a nonce and code of its own. -/
  created : account.status.createdLocal = true →
    account.info.nonce ≠ 0 ∧ account.delegate = none
  /-- Only an account created in the transaction is marked destroyed. -/
  marked : account.status.selfDestructedLocal = true → account.status.createdLocal = true

/-- Every account is backed. -/
def Backed (world : World) (ledger : GrowthLedger) : Prop :=
  ∀ address, AccountBacked (world address) ledger address

namespace AccountBacked

variable {account : Account} {ledger : GrowthLedger} {address : Address}

theorem createdLocal_of_destroyed (gone : account.destroyed = true) :
    account.status.createdLocal = true := by
  rw [Account.destroyed, Bool.and_eq_true] at gone
  exact gone.1

variable (backed : AccountBacked account ledger address)

include backed

/-- An account the transaction created is not empty. -/
theorem not_isEmpty (createdLocal : account.status.createdLocal = true) :
    account.isEmpty = false := by
  have nonce := (backed.created createdLocal).1
  simp only [Account.isEmpty, AccountInfo.isEmpty, Bool.and_eq_false_iff, beq_eq_false_iff_ne]
  exact Or.inl (Or.inr nonce)

/-- An empty account was not destroyed. -/
theorem alive_of_isEmpty (empty : account.isEmpty = true) : account.destroyed = false := by
  by_contra gone
  rw [Bool.not_eq_false] at gone
  rw [backed.not_isEmpty (createdLocal_of_destroyed gone)] at empty
  exact Bool.false_ne_true empty

/-- A change of the account that keeps its marks and its new slots keeps it backed. -/
theorem update (next : Account) (newSlots : next.newSlots = account.newSlots)
    (createdLocal : next.status.createdLocal = account.status.createdLocal)
    (marked : next.status.selfDestructedLocal = account.status.selfDestructedLocal)
    (nonce : account.info.nonce ≠ 0 → next.info.nonce ≠ 0)
    (delegate : account.delegate = none → next.delegate = none) :
    AccountBacked next ledger address := by
  have destroyed : next.destroyed = account.destroyed := by
    rw [Account.destroyed, Account.destroyed, createdLocal, marked]
  refine ⟨?_, ?_, ?_, ?_, ?_⟩
  · rw [newSlots]
    exact backed.slots
  · rw [newSlots, destroyed]
    exact backed.destroyed
  · rw [destroyed]
    exact backed.alive
  · rw [createdLocal]
    intro isCreated
    obtain ⟨hasNonce, plain⟩ := backed.created isCreated
    exact ⟨nonce hasNonce, delegate plain⟩
  · rw [createdLocal, marked]
    exact backed.marked

/-- A charge to an account that is not destroyed keeps every account backed. -/
theorem charge (owner : Address) (growth : Nat)
    (alive : owner = address → account.destroyed = true → growth = 0) :
    AccountBacked account (⟨.account owner, growth, 0⟩ :: ledger) address := by
  refine ⟨?_, ?_, ?_, backed.created, backed.marked⟩
  · simp only [slotGrowth_cons, slotRefund_cons, GrowthOwner.isSlotOf,
      Bool.false_eq_true, if_false, Nat.zero_add]
    exact backed.slots
  · intro gone
    obtain ⟨charged, refunded⟩ := backed.destroyed gone
    simp only [accountGrowth_cons, accountRefund_cons,
      GrowthOwner.account.injEq, ite_self, Nat.zero_add]
    refine ⟨?_, refunded⟩
    by_cases same : owner = address
    · rw [if_pos same, alive same gone, Nat.zero_add]
      exact charged
    · rw [if_neg same, Nat.zero_add]
      exact charged
  · intro living
    simp only [accountRefund_cons, ite_self, Nat.zero_add]
    exact backed.alive living

/-- A movement of another account says nothing about this one. -/
theorem frame (entry : GrowthEntry) (distinct : entry.owner ≠ .account address)
    (foreign : entry.owner.isSlotOf address = false) :
    AccountBacked account (entry :: ledger) address := by
  have slotGrowth : slotGrowth (entry :: ledger) address =
      ledger.slotGrowth address := by
    rw [slotGrowth_cons, foreign, if_neg Bool.false_ne_true, Nat.zero_add]
  have slotRefund : slotRefund (entry :: ledger) address =
      ledger.slotRefund address := by
    rw [slotRefund_cons, foreign, if_neg Bool.false_ne_true, Nat.zero_add]
  have accountGrowth : accountGrowth (entry :: ledger) address =
      ledger.accountGrowth address := by
    rw [accountGrowth_cons, if_neg distinct, Nat.zero_add]
  have accountRefund : accountRefund (entry :: ledger) address =
      ledger.accountRefund address := by
    rw [accountRefund_cons, if_neg distinct, Nat.zero_add]
  refine ⟨?_, ?_, ?_, backed.created, backed.marked⟩
  · rw [slotGrowth, slotRefund]
    exact backed.slots
  · rw [accountGrowth, accountRefund]
    exact backed.destroyed
  · rw [accountRefund]
    exact backed.alive

/-- A movement of a slot that the world makes too. -/
theorem store (next : Account) (key : U256) (growth refund : Nat) (info : next.info = account.info)
    (status : next.status = account.status)
    (moved : next.newSlots + refund = account.newSlots + growth)
    (quiet : account.destroyed = true → next.newSlots = account.newSlots) :
    AccountBacked next (⟨.slot address key, growth, refund⟩ :: ledger) address := by
  have destroyed : next.destroyed = account.destroyed := by
    rw [Account.destroyed, Account.destroyed, status]
  have own : (GrowthOwner.slot address key).isSlotOf address = true := beq_self_eq_true address
  have apart : (GrowthOwner.slot address key) ≠ .account address := by simp
  have slots := backed.slots
  refine ⟨?_, ?_, ?_, ?_, ?_⟩
  · rw [slotGrowth_cons, slotRefund_cons, own, if_pos rfl, if_pos rfl]
    dsimp only
    omega
  · intro gone
    rw [destroyed] at gone
    rw [accountGrowth_cons, accountRefund_cons, if_neg apart,
      if_neg apart, Nat.zero_add, Nat.zero_add, quiet gone]
    exact backed.destroyed gone
  · intro living
    rw [destroyed] at living
    rw [accountRefund_cons, if_neg apart, Nat.zero_add]
    exact backed.alive living
  · rw [status, Account.delegate, info]
    exact backed.created
  · rw [status]
    exact backed.marked

/-- The first destruction of an account that was charged once refunds exactly what it grew. -/
theorem destroy (createdLocal : account.status.createdLocal = true)
    (living : account.destroyed = false) (charged : ledger.accountGrowth address = 1) :
    AccountBacked
      { account.setBalance 0 with
        status := { account.status with selfDestructed := true, selfDestructedLocal := true } }
      (⟨.account address, 0, 1 + account.newSlots⟩ :: ledger) address := by
  have unrefunded := backed.alive living
  refine ⟨?_, fun _ => ⟨?_, ?_⟩, fun impossible => ?_, fun _ => backed.created createdLocal,
    fun _ => createdLocal⟩
  · simp only [slotGrowth_cons, slotRefund_cons, GrowthOwner.isSlotOf,
      Bool.false_eq_true, if_false, Nat.zero_add]
    exact backed.slots
  · rw [accountGrowth_cons, if_pos rfl, Nat.zero_add]
    exact charged
  · rw [accountRefund_cons, if_pos rfl, unrefunded, Nat.add_zero]
    rfl
  · rw [Account.destroyed, createdLocal, Bool.and_self] at impossible
    exact nomatch impossible

end AccountBacked

open AccountBacked

namespace Backed

variable {world : World} {ledger : GrowthLedger} (backed : Backed world ledger)

include backed

/-- Replacing one account by a backed one keeps the world backed. -/
theorem set (address : Address) (account : Account) (next : AccountBacked account ledger address) :
    Backed (world.set address account) ledger := by
  intro other
  by_cases same : other = address
  · subst same
    rw [set_same]
    exact next
  · rw [set_other world account same]
    exact backed other

theorem setBalance (address : Address) (balance : U256) :
    Backed (world.set address ((world address).setBalance balance)) ledger :=
  backed.set address _ ((backed address).update _ rfl rfl rfl id id)

theorem transfer {sender recipient : Address} {value : U256} {moved : World}
    (transferred : world.transfer sender recipient value = some moved) : Backed moved ledger := by
  unfold World.transfer at transferred
  split at transferred
  · cases transferred
  · cases transferred
    exact (backed.setBalance sender _).setBalance recipient _

theorem bumpNonce (address : Address) : Backed (world.bumpNonce address) ledger :=
  backed.set address _ ((backed address).update _ rfl rfl rfl (fun _ => Nat.succ_ne_zero _) id)

theorem setCode (address : Address) (codeHash : CodeHash) (bytes : List Nat) :
    Backed (world.setCode address codeHash bytes) ledger :=
  backed.set address _ ((backed address).update _ rfl rfl rfl id fun _ => rfl)

/-- A create that does not collide makes an account that was not created before. -/
theorem createdLocal_of_not_collides {address : Address} (free : world.collides address = false) :
    (world address).status.createdLocal = false := by
  by_contra createdLocal
  rw [Bool.not_eq_false] at createdLocal
  rw [collides, Bool.or_eq_false_iff, bne_eq_false_iff_eq] at free
  exact ((backed address).created createdLocal).1 free.1

theorem createAccount {address : Address} (free : world.collides address = false) :
    Backed (world.createAccount address) ledger := by
  have fresh := backed.createdLocal_of_not_collides free
  have unmarked : (world address).status.selfDestructedLocal = false := by
    by_contra marked
    rw [Bool.not_eq_false] at marked
    rw [(backed address).marked marked] at fresh
    exact Bool.false_ne_true fresh.symm
  have living : (world address).destroyed = false := by
    rw [Account.destroyed, fresh, Bool.false_and]
  refine backed.set address _ ⟨(backed address).slots, fun gone => ?_,
    fun _ => (backed address).alive living, fun _ => ⟨Nat.one_ne_zero, rfl⟩, fun _ => rfl⟩
  rw [Account.destroyed, Bool.true_and] at gone
  rw [unmarked] at gone
  exact nomatch gone

theorem charge (owner : Address) (growth : Nat)
    (alive : (world owner).destroyed = true → growth = 0) :
    Backed world (⟨.account owner, growth, 0⟩ :: ledger) := by
  intro address
  refine (backed address).charge owner growth fun same => ?_
  subst same
  exact alive

/-- Writing a slot moves the ledger as it moves the new slots. -/
theorem sstore (address : Address) (stored key value : U256) (growth refund : Nat)
    (moved : ((world address).writeSlot stored key value).newSlots + refund =
      (world address).newSlots + growth)
    (quiet : (world address).destroyed = true →
      ((world address).writeSlot stored key value).newSlots = (world address).newSlots) :
    Backed (world.set address ((world address).writeSlot stored key value))
      (⟨.slot address key, growth, refund⟩ :: ledger) := by
  intro other
  by_cases same : other = address
  · subst same
    rw [set_same]
    exact (backed other).store _ key growth refund rfl rfl moved quiet
  · rw [set_other _ _ same]
    refine (backed other).frame _ (by simp) ?_
    rw [GrowthOwner.isSlotOf, beq_eq_false_iff_ne]
    exact Ne.symm same

/-- Moving the balance of a self-destructing account keeps the world backed. -/
theorem credit (address target : Address) :
    Backed
      (if address = target then world
        else world.set target
          ((world target).setBalance ((world target).info.balance + (world address).info.balance)))
      ledger := by
  split
  · exact backed
  · exact backed.setBalance target _

/-- The engine's self-destruct, with the refund the host records for it. -/
theorem selfDestruct (address target : Address) (tracker : StateGrowthTracker)
    (active : tracker.frameTracker.frameStack ≠ []) (rex4 : tracker.spec.isEnabled .rex4 = true)
    (charged : (world address).status.createdLocal = true → (world address).destroyed = false →
      ledger.accountGrowth address = 1) :
    Backed (world.selfDestruct address target)
      (ledger.record (.account address) tracker
        (refundSelfdestruct tracker world address)) := by
  have credited := backed.credit address target
  have kept : (if address = target then world
      else world.set target ((world target).setBalance
        ((world target).info.balance + (world address).info.balance))) address =
      world address := by
    split
    · rfl
    · rename_i distinct
      exact set_other _ _ distinct
  unfold World.selfDestruct refundSelfdestruct selfdestructRefund
  dsimp only
  rw [kept, rex4, Bool.true_and]
  by_cases createdLocal : (world address).status.createdLocal = true
  · rw [if_pos createdLocal, if_pos createdLocal]
    dsimp only
    by_cases marked : (world address).status.selfDestructedLocal = true
    · rw [if_pos marked, record_same]
      refine Backed.charge (credited.set address _ ?_) address 0 fun _ => rfl
      exact (backed address).update _ rfl rfl marked.symm id id
    · have living : (world address).destroyed = false := by
        rw [Account.destroyed, Bool.eq_false_iff.mpr marked, Bool.and_false]
      rw [if_neg marked, afterSelfdestruct, record_recordRefund _ _ _ _ active]
      intro other
      by_cases same : other = address
      · subst same
        rw [set_same]
        exact (backed other).destroy createdLocal living (charged createdLocal living)
      · rw [set_other _ _ same]
        exact (credited other).frame _ (fun owner => same (GrowthOwner.account.inj owner).symm) rfl
  · rw [if_neg createdLocal, if_neg createdLocal]
    rw [record_same]
    by_cases same : address = target
    · rw [if_pos same]
      exact credited.charge address 0 fun _ => rfl
    · rw [if_neg same]
      refine Backed.charge (credited.set address _ ?_) address 0 fun _ => rfl
      exact (backed address).update _ rfl rfl rfl id id

/-- A call counts an account only if the account is not destroyed. -/
theorem beforeFrameInit_call {tracker next : StateGrowthTracker} {inputs : CallInputs}
    (started : tracker.beforeFrameInit world.inspect (.call inputs) = some next) :
    next = tracker.pushFrame ∨
      next = tracker.pushFrame.recordGrowth 1 ∧
        (world inputs.targetAddress).destroyed = false := by
  unfold beforeFrameInit at started
  dsimp only [inspect] at started
  split at started
  · split at started
    · rw [Option.map_some, Option.some.injEq] at started
      split at started
      · rename_i empty
        exact Or.inr ⟨started.symm, (backed _).alive_of_isEmpty empty⟩
      · exact Or.inl started.symm
    · rw [Option.map_some, Option.some.injEq] at started
      split at started
      · rename_i empty
        refine Or.inr ⟨started.symm, ?_⟩
        by_contra gone
        rw [Bool.not_eq_false] at gone
        have createdLocal := createdLocal_of_destroyed gone
        have plain : world.resolved inputs.targetAddress = world inputs.targetAddress := by
          rw [resolved, ((backed _).created createdLocal).2]
        rw [plain, (backed _).not_isEmpty createdLocal] at empty
        exact Bool.false_ne_true empty
      · exact Or.inl started.symm
  · exact Or.inl (Option.some.inj started).symm

end Backed

variable {world : World}

/-- Starting the frame of a create pushes a frame and counts at most one account. -/
theorem beforeFrameInit_create {tracker next : StateGrowthTracker} {inputs : CreateInputs}
    (started : tracker.beforeFrameInit world.inspect (.create inputs) = some next) :
    next = tracker.pushFrame ∨ next = tracker.pushFrame.recordGrowth 1 := by
  unfold beforeFrameInit at started
  dsimp only [inspect] at started
  split at started
  · rw [Option.bind_some, Option.map_some, Option.some.injEq] at started
    split at started
    · exact Or.inr started.symm
    · exact Or.inl started.symm
  · exact Or.inr (Option.some.inj started).symm

theorem StateGrowthTracker.pushFrame_cachedTotals (tracker : StateGrowthTracker) :
    tracker.pushFrame.frameTracker.cachedTotalUsed = tracker.frameTracker.cachedTotalUsed ∧
      tracker.pushFrame.frameTracker.cachedTotalRefund =
        tracker.frameTracker.cachedTotalRefund := by
  unfold pushFrame
  split <;> exact ⟨rfl, rfl⟩

/-- What a started frame enters, and the lanes it leaves. -/
theorem TrackerMatches.started {intrinsic growth : Nat} {tracker next : StateGrowthTracker}
    (tracked : TrackerMatches intrinsic tracker frames ledger)
    (pushed : next = tracker.pushFrame ∧ growth = 0 ∨ next = tracker.pushFrame.recordGrowth growth)
    (owner : GrowthOwner) (address : Address) (isCreate : Bool) (checkpoint : World) :
    ledger.record owner tracker next = ⟨owner, growth, 0⟩ :: ledger ∧
      TrackerMatches intrinsic next (⟨address, isCreate, checkpoint, ledger⟩ :: frames)
        (⟨owner, growth, 0⟩ :: ledger) := by
  have opened := tracked.pushFrame address isCreate checkpoint
  obtain ⟨used, refund⟩ := tracker.pushFrame_cachedTotals
  have rebased : ∀ other, ledger.record owner tracker other =
      ledger.record owner tracker.pushFrame other := by
    intro other
    rw [GrowthLedger.record, GrowthLedger.record, used, refund]
  rcases pushed with ⟨rfl, rfl⟩ | rfl
  · refine ⟨?_, opened.recordNothing owner⟩
    rw [rebased, record_same]
  · refine ⟨?_, opened.recordGrowth owner growth⟩
    rw [rebased, record_recordGrowth _ _ _ _ opened.active]

/-- The three ways a storage write moves the tracker. -/
theorem StateGrowthTracker.afterSstore_cases (tracker : StateGrowthTracker) (store : SStoreResult) :
    (store.originalValue = 0 ∧ store.presentValue = 0 ∧ store.newValue ≠ 0 ∧
        tracker.afterSstore store = tracker.recordGrowth 1) ∨
      (store.originalValue = 0 ∧ store.presentValue ≠ 0 ∧ store.newValue = 0 ∧
        tracker.afterSstore store = tracker.recordRefund 1) ∨
      ((store.originalValue = 0 → (store.presentValue = 0 ↔ store.newValue = 0)) ∧
        tracker.afterSstore store = tracker) := by
  unfold afterSstore
  cases original : store.originalValue == 0 <;> cases present : store.presentValue == 0 <;>
    cases written : store.newValue == 0 <;>
      simp only [beq_iff_eq, beq_eq_false_iff_ne] at original present written <;>
      simp [original, present, written]

theorem GrowthState.chargeBeneficiary_cases (state : GrowthState) (address target : Address) :
    state.chargeBeneficiary address target = state.tracker ∨
      state.chargeBeneficiary address target = state.tracker.recordGrowth 1 ∧
        (state.world target).isEmpty = true := by
  unfold chargeBeneficiary
  split
  · rename_i charged
    simp only [Bool.and_eq_true] at charged
    exact Or.inr ⟨rfl, charged.1.2⟩
  · exact Or.inl rfl

theorem GrowthState.refundSelfdestruct_cases (tracker : StateGrowthTracker) (world : World)
    (address : Address) :
    refundSelfdestruct tracker world address = tracker ∨
      ∃ amount, refundSelfdestruct tracker world address = tracker.recordRefund amount := by
  unfold refundSelfdestruct
  split
  · split
    · exact Or.inl rfl
    · exact Or.inr ⟨_, rfl⟩
  · exact Or.inl rfl

/-! ### Steps that own their charges -/

/-- The condition on a step. A write to an account that is already destroyed does not move a slot
that was zero at the start between zero and non-zero; and the first destruction of an account of
this transaction finds exactly one creation charged to it. -/
def GrowthState.OwnsCharges (database : Address → U256 → U256) (state : GrowthState) :
    GrowthEvent → Prop
  | .sstore key value =>
    ∀ frame ∈ state.frames.head?, (state.world frame.address).destroyed = true →
      ((state.world frame.address).slot (database frame.address key) key).originalValue = 0 →
        (((state.world frame.address).slot (database frame.address key) key).presentValue = 0 ↔
          value = 0)
  | .selfdestruct _ success =>
    ∀ frame ∈ state.frames.head?, success = true →
      (state.world frame.address).status.createdLocal = true →
        (state.world frame.address).destroyed = false →
          state.ledger.accountGrowth frame.address = 1
  | _ => True

instance (database : Address → U256 → U256) (state : GrowthState) (event : GrowthEvent) :
    Decidable (state.OwnsCharges database event) :=
  match event with
  | .sstore .. => inferInstanceAs (Decidable (∀ frame ∈ state.frames.head?, _))
  | .selfdestruct .. => inferInstanceAs (Decidable (∀ frame ∈ state.frames.head?, _))
  | .call .. => isTrue trivial
  | .create .. => isTrue trivial
  | .finish .. => isTrue trivial

/-- The invariant of a run: the tracker and the world agree with the ledger, and so does every
checkpoint with the ledger of its time. -/
structure GrowthState.Sound (intrinsic : Nat) (state : GrowthState) : Prop where
  tracked : TrackerMatches intrinsic state.tracker state.frames state.ledger
  backed : Backed state.world state.ledger
  restores : ∀ frame ∈ state.frames, Backed frame.checkpoint frame.ledgerAtEntry

namespace GrowthState.Sound

variable {intrinsic : Nat} {state next : GrowthState}

theorem finish (sound : state.Sound intrinsic) {success : Bool} {codeHash : CodeHash}
    {bytes : List Nat} (finished : state.finish success codeHash bytes = some next) :
    next.Sound intrinsic := by
  obtain ⟨tracker, world, ledger, frames⟩ := state
  cases frames with
  | nil => cases finished
  | cons frame below =>
    cases finished
    refine ⟨sound.tracked.finish success, ?_, fun outer member =>
      sound.restores outer (List.mem_cons_of_mem _ member)⟩
    cases success with
    | false => exact sound.restores frame List.mem_cons_self
    | true =>
      rw [if_pos rfl, if_pos rfl]
      split
      · exact sound.backed.setCode frame.address codeHash bytes
      · exact sound.backed

theorem moveValue {world moved : World} {ledger : GrowthLedger} {inputs : CallInputs}
    (backed : Backed world ledger) (transferred : moveValue world inputs = some moved) :
    Backed moved ledger := by
  unfold GrowthState.moveValue at transferred
  split at transferred
  · exact backed.transfer transferred
  · cases transferred
    exact backed

variable {sender : Address}

theorem call (sound : state.Sound intrinsic) {inputs : CallInputs} {outcome : FrameStart}
    (called : state.call sender inputs outcome = some next) : next.Sound intrinsic := by
  unfold GrowthState.call at called
  split at called
  · cases called
  obtain ⟨tracker, started, remaining⟩ := Option.bind_eq_some_iff.mp called
  obtain ⟨growth, pushed, alive⟩ : ∃ growth,
      (tracker = state.tracker.pushFrame ∧ growth = 0 ∨
        tracker = state.tracker.pushFrame.recordGrowth growth) ∧
      ((state.world inputs.targetAddress).destroyed = true → growth = 0) := by
    rcases sound.backed.beforeFrameInit_call started with plain | ⟨counted, living⟩
    · exact ⟨0, Or.inl ⟨plain, rfl⟩, fun _ => rfl⟩
    · exact ⟨1, Or.inr counted, fun gone => absurd gone (Bool.eq_false_iff.mp living)⟩
  obtain ⟨recorded, tracked⟩ := sound.tracked.started pushed (.account inputs.targetAddress)
    inputs.targetAddress false state.world
  have charged := sound.backed.charge inputs.targetAddress growth alive
  rw [recorded] at remaining
  cases outcome with
  | refused =>
    cases remaining
    exact ⟨tracked.finish false, sound.backed, sound.restores⟩
  | answered =>
    obtain ⟨moved, transferred, rfl⟩ := Option.map_eq_some_iff.mp remaining
    exact ⟨tracked.finish true, moveValue charged transferred, sound.restores⟩
  | entered =>
    dsimp only at remaining
    split at remaining
    · obtain ⟨moved, transferred, rfl⟩ := Option.map_eq_some_iff.mp remaining
      refine ⟨tracked, moveValue charged transferred, fun frame member => ?_⟩
      rcases List.mem_cons.mp member with rfl | older
      · exact sound.backed
      · exact sound.restores frame older
    · cases remaining

theorem create (sound : state.Sound intrinsic) {inputs : CreateInputs} {outcome : FrameStart}
    (called : state.create sender inputs outcome = some next) : next.Sound intrinsic := by
  unfold GrowthState.create at called
  split at called
  · cases called
  obtain ⟨tracker, started, remaining⟩ := Option.bind_eq_some_iff.mp called
  obtain ⟨growth, pushed⟩ : ∃ growth, tracker = state.tracker.pushFrame ∧ growth = 0 ∨
      tracker = state.tracker.pushFrame.recordGrowth growth := by
    rcases beforeFrameInit_create started with plain | counted
    · exact ⟨0, Or.inl ⟨plain, rfl⟩⟩
    · exact ⟨1, Or.inr counted⟩
  generalize inputs.createdAddress (state.world inputs.caller).info.nonce = created at remaining
  obtain ⟨recorded, tracked⟩ := sound.tracked.started pushed (.account created) created true
    (state.world.bumpNonce inputs.caller)
  have bumped := sound.backed.bumpNonce inputs.caller
  dsimp only at remaining
  rw [recorded] at remaining
  cases outcome with
  | refused =>
    cases remaining
    exact ⟨tracked.finish false, sound.backed, sound.restores⟩
  | answered =>
    dsimp only at remaining
    split at remaining
    · cases remaining
      exact ⟨tracked.finish false, bumped, sound.restores⟩
    · cases remaining
  | entered =>
    dsimp only at remaining
    split at remaining
    · cases remaining
    · rename_i collides
      have free := Bool.eq_false_iff.mpr collides
      have fresh := bumped.createdLocal_of_not_collides free
      have living : (state.world.bumpNonce inputs.caller created).destroyed = true →
          growth = 0 := by
        intro gone
        rw [createdLocal_of_destroyed gone] at fresh
        exact nomatch fresh
      have made := (bumped.charge created growth living).createAccount free
      obtain ⟨moved, transferred, rfl⟩ := Option.map_eq_some_iff.mp remaining
      refine ⟨tracked, made.transfer transferred, fun frame member => ?_⟩
      rcases List.mem_cons.mp member with rfl | older
      · exact bumped
      · exact sound.restores frame older

variable {database : Address → U256 → U256}

variable (sound : state.Sound intrinsic)

include sound

theorem sstore {key value : U256} (owns : state.OwnsCharges database (.sstore key value))
    (stored : state.sstore database key value = some next) : next.Sound intrinsic := by
  obtain ⟨tracker, world, ledger, frames⟩ := state
  cases frames with
  | nil => cases stored
  | cons frame below =>
    cases stored
    have counted := (world frame.address).newSlots_writeSlot (database frame.address key) key value
    rw [isNew] at counted
    replace owns := owns frame rfl
    dsimp only [World.sstore] at owns ⊢
    generalize (world frame.address).slot (database frame.address key) key = slot at owns counted ⊢
    obtain ⟨after, written⟩ : ∃ after, after =
        ((world frame.address).writeSlot (database frame.address key) key value).newSlots :=
      ⟨_, rfl⟩
    rw [← written] at counted
    rcases tracker.afterSstore_cases ⟨slot.originalValue, slot.presentValue, value⟩ with
      ⟨original, present, filled, moved⟩ | ⟨original, present, cleared, moved⟩ | ⟨same, moved⟩
    · dsimp only at original present filled
      have grown : after + 0 = (world frame.address).newSlots + 1 := by
        simpa [original, present, filled] using counted
      rw [moved, record_recordGrowth _ _ _ _ sound.tracked.active]
      refine ⟨sound.tracked.recordGrowth _ 1, ?_, sound.restores⟩
      refine sound.backed.sstore frame.address _ key value 1 0 (written ▸ grown) fun gone => ?_
      exact absurd ((owns gone original).mp present) filled
    · dsimp only at original present cleared
      have shrunk : after + 1 = (world frame.address).newSlots + 0 := by
        simpa [original, present, cleared] using counted
      rw [moved, record_recordRefund _ _ _ _ sound.tracked.active]
      refine ⟨sound.tracked.recordRefund _ 1, ?_, sound.restores⟩
      refine sound.backed.sstore frame.address _ key value 0 1 (written ▸ shrunk) fun gone => ?_
      exact absurd ((owns gone original).mpr cleared) present
    · have unmoved : after = (world frame.address).newSlots := by
        by_cases original : slot.originalValue = 0
        · have zero : slot.presentValue = 0 ↔ value = 0 := same original
          by_cases present : slot.presentValue = 0
          · simpa [present, zero.mp present] using counted
          · simpa [original, present, mt zero.mpr present] using counted
        · simpa [original] using counted
      rw [moved, record_same]
      exact ⟨sound.tracked.recordNothing _,
        sound.backed.sstore frame.address _ key value 0 0 (written ▸ unmoved)
          fun _ => written ▸ unmoved, sound.restores⟩

theorem selfdestruct {target : Address} {success : Bool}
    (owns : state.OwnsCharges database (.selfdestruct target success))
    (destroyed : state.selfdestruct target success = some next) : next.Sound intrinsic := by
  obtain ⟨tracker, world, ledger, frames⟩ := state
  cases frames with
  | nil => cases destroyed
  | cons frame below =>
    dsimp only [selfdestruct] at destroyed
    replace owns := owns frame rfl
    have paid := chargeBeneficiary_cases ⟨tracker, world, ledger, frame :: below⟩
      frame.address target
    generalize chargeBeneficiary ⟨tracker, world, ledger, frame :: below⟩
      frame.address target = charged at destroyed paid
    have chargedTracked := sound.tracked.record (.account target)
      (paid.imp_right fun grown => Or.inl ⟨1, grown.1⟩)
    have refundedTracked := chargedTracked.record (.account frame.address)
      ((refundSelfdestruct_cases charged world frame.address).imp_right Or.inr)
    cases success with
    | false =>
      cases destroyed
      exact ⟨refundedTracked.finish false, sound.restores frame List.mem_cons_self,
        fun outer member => sound.restores outer (List.mem_cons_of_mem _ member)⟩
    | true =>
      obtain ⟨growth, recorded, alive⟩ : ∃ growth,
          ledger.record (.account target) tracker charged =
            ⟨.account target, growth, 0⟩ :: ledger ∧
          ((world target).isEmpty = false → growth = 0) := by
        rcases paid with same | ⟨grown, empty⟩
        · refine ⟨0, ?_, fun _ => rfl⟩
          rw [same]
          exact record_same ..
        · refine ⟨1, ?_, fun occupied => ?_⟩
          · rw [grown]
            exact record_recordGrowth _ _ _ _ sound.tracked.active
          · rw [empty] at occupied
            exact nomatch occupied
      have chargedBacked : Backed world (ledger.record (.account target) tracker charged) := by
        rw [recorded]
        refine sound.backed.charge target growth fun gone => alive ?_
        exact (sound.backed target).not_isEmpty (createdLocal_of_destroyed gone)
      have unpaid : (world frame.address).status.createdLocal = true →
          (if GrowthOwner.account target = .account frame.address then growth else 0) = 0 := by
        intro createdLocal
        split
        · rename_i same
          rw [GrowthOwner.account.injEq] at same
          exact alive (same ▸ (sound.backed frame.address).not_isEmpty createdLocal)
        · rfl
      have refundedBacked := chargedBacked.selfDestruct frame.address target charged
        chargedTracked.active chargedTracked.rex4 fun createdLocal living => by
          rw [recorded, accountGrowth_cons, unpaid createdLocal, Nat.zero_add]
          exact owns rfl createdLocal living
      have middle : GrowthState.Sound intrinsic ⟨_, _, _, frame :: below⟩ :=
        ⟨refundedTracked, refundedBacked, sound.restores⟩
      exact middle.finish destroyed

theorem step {event : GrowthEvent} (owns : state.OwnsCharges database event)
    (stepped : state.step database sender event = some next) : next.Sound intrinsic := by
  cases event with
  | call => exact sound.call stepped
  | create => exact sound.create stepped
  | sstore => exact sound.sstore owns stepped
  | selfdestruct => exact sound.selfdestruct owns stepped
  | finish => exact sound.finish stepped

end GrowthState.Sound

/-! ### Refunds are backed -/

/-- No account of the world carries marks or changed slots of a transaction yet. -/
def World.Fresh (world : World) : Prop :=
  ∀ address, (world address).status.createdLocal = false ∧
    (world address).status.selfDestructedLocal = false ∧
    ∀ key slot, (world address).storage.lookup key = some slot →
      slot.presentValue = slot.originalValue

theorem World.Fresh.newSlots (fresh : world.Fresh) (address : Address) :
    (world address).newSlots = 0 := by
  rw [Account.newSlots, Library.valueCount, List.countP_eq_zero]
  rintro ⟨key, slot⟩ member
  have unchanged := (fresh address).2.2 key slot (AList.mem_lookup_iff.mpr member)
  simp [isNew, unchanged]

theorem GrowthState.sound_start {spec : MegaSpecId} (rex4 : spec.isEnabled .rex4 = true)
    (txLimit intrinsic : Nat) (fresh : world.Fresh) :
    (GrowthState.start spec txLimit intrinsic world).Sound intrinsic := by
  refine ⟨⟨rex4, Nat.zero_add intrinsic, rfl, rfl⟩, fun address => ?_, fun frame member => ?_⟩
  · obtain ⟨uncreated, unmarked, _⟩ := fresh address
    have living : (world address).destroyed = false := by
      rw [Account.destroyed, uncreated, Bool.false_and]
    have unfilled : (world address).newSlots = 0 := fresh.newSlots address
    refine ⟨?_, fun gone => ?_, fun _ => rfl, fun created => ?_, fun marked => ?_⟩
    · dsimp only [start]
      rw [unfilled]
      rfl
    · exact absurd gone (Bool.eq_false_iff.mp living)
    · exact absurd created (Bool.eq_false_iff.mp uncreated)
    · exact absurd marked (Bool.eq_false_iff.mp unmarked)
  · cases member

/-- The refunds live in a state are covered by the growth live in it. The ledger splits the
tracker's totals, beside the growth the transaction was charged before its first frame. -/
structure RefundsBacked (start : World) (intrinsic : Nat) (state : GrowthState) : Prop where
  refund_le_growth : ∀ address, state.ledger.refundOf address ≤ state.ledger.growthOf address
  destroyed_nets_zero : ∀ address, (state.world address).destroyed = true →
    state.ledger.refundOf address = state.ledger.growthOf address
  nothing_uncharged : ∀ address, (start address).isEmpty = false →
    state.ledger.accountGrowth address = 0 →
    state.ledger.refundOf address ≤ state.ledger.slotGrowth address
  totals : state.tracker.frameTracker.cachedTotalUsed = intrinsic + state.ledger.totalGrowth ∧
    state.tracker.frameTracker.cachedTotalRefund = state.ledger.totalRefund

theorem GrowthState.Sound.refundsBacked {intrinsic : Nat} {state : GrowthState}
    (sound : state.Sound intrinsic) (start : World) : RefundsBacked start intrinsic state := by
  have slots := fun address => (sound.backed address).slots
  refine ⟨fun address => ?_, fun address gone => ?_, fun address _ uncharged => ?_,
    sound.tracked.totals⟩
  · rw [refundOf, growthOf, slots]
    cases gone : (state.world address).destroyed with
    | true =>
      obtain ⟨charged, refunded⟩ := (sound.backed address).destroyed gone
      omega
    | false =>
      have unrefunded := (sound.backed address).alive gone
      omega
  · obtain ⟨charged, refunded⟩ := (sound.backed address).destroyed gone
    rw [refundOf, growthOf, slots]
    omega
  · rw [refundOf, slots]
    cases gone : (state.world address).destroyed with
    | true =>
      exact absurd (((sound.backed address).destroyed gone).1.symm.trans uncharged) (by decide)
    | false =>
      have unrefunded := (sound.backed address).alive gone
      omega

/-- Over every transaction from Rex4 on, whatever its calls, creates, writes, self-destructs,
successes and failures: as long as each step owns its charges, refunds are backed. -/
theorem refundsBacked_of_ownsCharges {spec : MegaSpecId} (rex4 : spec.isEnabled .rex4 = true)
    (database : Address → U256 → U256) (sender : Address) (txLimit intrinsic : Nat)
    {world : World} (fresh : world.Fresh) {events : List GrowthEvent} {state : GrowthState}
    (owns : Library.StepsMeet (GrowthState.step database sender)
      (GrowthState.OwnsCharges database) (.start spec txLimit intrinsic world) events)
    (ran : Library.run (GrowthState.step database sender)
      (.start spec txLimit intrinsic world) events = some state) :
    RefundsBacked world intrinsic state := by
  have sound : state.Sound intrinsic :=
    Library.run_invariant_of_meets
      (fun _ _ _ holds condition stepped => holds.step condition stepped)
      (sound_start rex4 txLimit intrinsic fresh) owns ran
  exact sound.refundsBacked world

/-! ### A factory and the account it makes -/

/-- The factory at address `2` is the only account; account `9` holds `balance`. -/
def factoryWorld (balance : U256) : World := fun address =>
  if address = 2 then
    .ofInfo { balance := 5, nonce := 1, codeHash := 7, code := some (.legacy [1]) }
  else if address = 9 then .ofInfo { AccountInfo.default with balance }
  else .ofInfo .default

theorem factoryWorld_fresh (balance : U256) : (factoryWorld balance).Fresh := by
  intro address
  unfold factoryWorld
  split_ifs <;> exact ⟨rfl, rfl, fun _ _ impossible => by cases impossible⟩

/-- A call without value. -/
def plainCall (caller target : Address) : CallInputs :=
  { caller, targetAddress := target, value := .transfer 0, scheme := .call, gasLimit := 0 }

/-- The factory makes account `9`, whose constructor fills one slot; later the account destroys
itself in favour of the factory. -/
def makeAndDestroy : List GrowthEvent :=
  [.call (plainCall 1 2) .entered,
    .create { caller := 2, value := 0, createdAddress := fun _ => 9, gasLimit := 0 } .entered,
    .sstore 0 1, .finish true 8 [1], .call (plainCall 2 9) .entered, .selfdestruct 2 true]

/-- The factory calls the destroyed account once more, which writes its slot. -/
def writeAgain (value : U256) : List GrowthEvent :=
  [.call (plainCall 2 9) .entered, .sstore 0 value, .finish true 0 []]

/-- Making, destroying and calling an account again without moving its slots is a run that owns
its charges. -/
theorem refundsBacked_makeAndDestroy :
    ∃ state, Library.run (GrowthState.step (fun _ _ => 0) 1) (.start .rex6 100 0 (factoryWorld 0))
        (makeAndDestroy ++ writeAgain 3) = some state ∧
      RefundsBacked (factoryWorld 0) 0 state ∧
      (state.ledger.growthOf 9, state.ledger.refundOf 9) = (2, 2) := by
  obtain ⟨state, ran⟩ := Option.isSome_iff_exists.mp
    (show (Library.run (step (fun _ _ => 0) 1) (.start .rex6 100 0 (factoryWorld 0))
      (makeAndDestroy ++ writeAgain 3)).isSome = true by decide)
  have counted : (Library.run (step (fun _ _ => 0) 1)
      (.start .rex6 100 0 (factoryWorld 0)) (makeAndDestroy ++ writeAgain 3)).map
      (fun final => (final.ledger.growthOf 9, final.ledger.refundOf 9)) = some (2, 2) := by decide
  rw [ran, Option.map_some, Option.some.injEq] at counted
  exact ⟨state, ran, refundsBacked_of_ownsCharges rfl _ _ _ _ (factoryWorld_fresh 0)
    (by decide) ran, counted⟩

/-- Clearing the slot of the destroyed account refunds it a second time, and from Rex6 on an
account made where a balance was waiting refunds a creation that was never charged. -/
theorem refunds_exceed_growth :
    (Library.run (GrowthState.step (fun _ _ => 0) 1) (.start .rex5 100 0 (factoryWorld 0))
        (makeAndDestroy ++ writeAgain 0)).map
        (fun final => (final.ledger.growthOf 9, final.ledger.refundOf 9)) = some (2, 3) ∧
      (Library.run (GrowthState.step (fun _ _ => 0) 1) (.start .rex6 100 0 (factoryWorld 4))
        makeAndDestroy).map
        (fun final => (final.ledger.growthOf 9, final.ledger.refundOf 9)) = some (1, 2) := by
  decide

end MegaEvm
