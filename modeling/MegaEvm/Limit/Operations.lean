/-
This file is about arbitrary sequences of operations on a tracker. The caches, kept in
64 bits and changed at each operation, are the sums over the entries as long as these
sums fit. A frame that fails takes the usage of everything that ran on it along, however
its children ended: only what was charged for good is left.
-/

import MegaEvm.Library.Runs
import MegaEvm.Limit.Stacks

namespace MegaEvm

open Library FrameLimitEntry

/-- The operations on a tracker. The last five concern account writes. -/
inductive TrackerOp : Type → Type 1
  | reset {Info : Type} : TrackerOp Info
  | pushFrame {Info : Type} (info : Info) : TrackerOp Info
  | pushFrameWithLimit {Info : Type} (limit : Nat) (info : Info) : TrackerOp Info
  | popFrame {Info : Type} (success : Bool) : TrackerOp Info
  | addTxPersistent {Info : Type} (amount : Nat) : TrackerOp Info
  | addFramePersistent {Info : Type} (amount : Nat) : TrackerOp Info
  | addFrameDiscardable {Info : Type} (amount : Nat) : TrackerOp Info
  | addFrameRefund {Info : Type} (amount : Nat) : TrackerOp Info
  | addParentDiscardable {Info : Type} (amount : Nat) : TrackerOp Info
  | pushDummyFrame : TrackerOp CallFrameInfo
  | pushCallFrame (target : Address) (hasTransfer : Bool) : TrackerOp CallFrameInfo
  | pushCreateFrame : TrackerOp CallFrameInfo
  | setCreatedAddress (address : Address) : TrackerOp CallFrameInfo
  | popFrameUnwindParent (success : Bool) : TrackerOp CallFrameInfo

/-- The tracker of the data size or of the key-value updates. -/
abbrev WriteTracker := FrameLimitTracker CallFrameInfo

namespace FrameLimitTracker

variable {Info : Type}

def apply : {Info : Type} → FrameLimitTracker Info → TrackerOp Info → FrameLimitTracker Info
  | _, tracker, .reset => tracker.reset
  | _, tracker, .pushFrame info => tracker.pushFrame info
  | _, tracker, .pushFrameWithLimit limit info => tracker.pushFrameWithLimit limit info
  | _, tracker, .popFrame success => (tracker.popFrame success).1
  | _, tracker, .addTxPersistent amount => tracker.addTxPersistent amount
  | _, tracker, .addFramePersistent amount => (tracker.addFramePersistent amount).1
  | _, tracker, .addFrameDiscardable amount => tracker.addFrameDiscardable amount
  | _, tracker, .addFrameRefund amount => tracker.addFrameRefund amount
  | _, tracker, .addParentDiscardable amount => tracker.addParentDiscardable amount
  | _, tracker, .pushDummyFrame => tracker.pushDummyFrame
  | _, tracker, .pushCallFrame target hasTransfer => (tracker.pushCallFrame target hasTransfer).1
  | _, tracker, .pushCreateFrame => tracker.pushCreateFrame.1
  | _, tracker, .setCreatedAddress address => tracker.setCreatedAddress address
  | _, tracker, .popFrameUnwindParent success => tracker.popFrameUnwindParent success

/-! ### The caches -/

/-- The caches of a tracker as the code keeps them, in 64 bits. -/
structure UsageCache where
  totalUsed : Nat
  totalRefund : Nat

def UsageCache.netUsage (cache : UsageCache) : Nat :=
  cache.totalUsed - cache.totalRefund

def UsageCache.addUsed (cache : UsageCache) (amount : Nat) : UsageCache :=
  { cache with totalUsed := (cache.totalUsed + amount) % 2 ^ 64 }

/-- What the failure of the top frame takes off the caches. A subtraction that underflows
panics. -/
def UsageCache.drop (cache : UsageCache) : List (FrameLimitEntry Info) → Option UsageCache
  | child :: _ =>
    if child.discardableUsage ≤ cache.totalUsed ∧ child.refund ≤ cache.totalRefund then
      some ⟨cache.totalUsed - child.discardableUsage, cache.totalRefund - child.refund⟩
    else none
  | [] => some cache

/-- What an operation on the tracker does to the caches. -/
def UsageCache.apply : {Info : Type} → UsageCache → FrameLimitTracker Info → TrackerOp Info →
    Option UsageCache
  | _, _, _, .reset => some ⟨0, 0⟩
  | _, cache, _, .addTxPersistent amount => some (cache.addUsed amount)
  | _, cache, tracker, .addFramePersistent amount
  | _, cache, tracker, .addFrameDiscardable amount =>
    some (if tracker.hasActiveFrame then cache.addUsed amount else cache)
  | _, cache, tracker, .addFrameRefund amount =>
    some (if tracker.hasActiveFrame then
      { cache with totalRefund := (cache.totalRefund + amount) % 2 ^ 64 } else cache)
  | _, cache, tracker, .addParentDiscardable amount =>
    some (if 2 ≤ tracker.height then cache.addUsed amount else cache)
  | _, cache, tracker, .popFrame false | _, cache, tracker, .popFrameUnwindParent false =>
    cache.drop tracker.frameStack
  | _, cache, _, _ => some cache

def caches (tracker : FrameLimitTracker Info) : UsageCache :=
  ⟨tracker.cachedTotalUsed, tracker.cachedTotalRefund⟩

/-- The usage and the refunds of all entries, counted anew. -/
def totals (tracker : FrameLimitTracker Info) : Nat × Nat :=
  tracker.frameStack.foldr
    (fun entry totals => (totals.1 + entry.used, totals.2 + entry.refund))
    (tracker.txEntry.used, tracker.txEntry.refund)

def netUsageUncached (tracker : FrameLimitTracker Info) : Nat :=
  tracker.totals.1 - tracker.totals.2

/-- One operation on a tracker and its caches. -/
def cacheStep (state : FrameLimitTracker Info × UsageCache) (op : TrackerOp Info) :
    Option (FrameLimitTracker Info × UsageCache) :=
  (state.2.apply state.1 op).map fun cache => (state.1.apply op, cache)

/-- The sums after an operation fit in 64 bits. -/
def Fits64 (state : FrameLimitTracker Info × UsageCache) (op : TrackerOp Info) : Prop :=
  (state.1.apply op).totals.1 < 2 ^ 64 ∧ (state.1.apply op).totals.2 < 2 ^ 64

theorem totals_eq (tracker : FrameLimitTracker Info) :
    tracker.totals = (tracker.cachedTotalUsed, tracker.cachedTotalRefund) := by
  rw [totals, tracker.usedSynced, tracker.refundSynced]
  induction tracker.frameStack with
  | nil => rfl
  | cons entry rest inductionHypothesis =>
    rw [List.foldr_cons, inductionHypothesis]
    simp only [List.map_cons, List.sum_cons, Prod.mk.injEq]
    omega

theorem caches_updateInfo (tracker : FrameLimitTracker Info) (update : Info → Info) :
    (tracker.updateInfo update).caches = tracker.caches := by
  obtain ⟨_, frames, _⟩ := tracker
  cases frames <;> rfl

theorem caches_pushMarked (tracker : FrameLimitTracker CallFrameInfo) (marks : Bool)
    (info : CallFrameInfo) :
    ((if marks then tracker.markParentPaid else tracker).pushCallFrameInfo info).caches =
      tracker.caches := by
  obtain ⟨_, frames, rex4, rex5, _⟩ := tracker
  cases marks <;> cases rex4 <;> cases rex5 <;> cases frames <;> rfl

theorem caches_popFrameUnwindParent (tracker : FrameLimitTracker CallFrameInfo) (success : Bool) :
    (tracker.popFrameUnwindParent success).caches = (tracker.popFrame success).1.caches := by
  rw [popFrameUnwindParent]
  rcases tracker.popFrame success with ⟨popped, _ | child⟩
  · rfl
  · dsimp only
    split
    · exact popped.caches_updateInfo _
    · rfl

/-- The discardable usage and the refund of the top frame are part of the sums. -/
theorem caches_drop (tracker : FrameLimitTracker Info) :
    tracker.caches.drop tracker.frameStack = some (tracker.popFrame false).1.caches := by
  cases stack : tracker.frameStack with
  | nil => rw [popFrame_empty stack, UsageCache.drop]
  | cons child below =>
    have used := tracker.usedSynced
    have refund := tracker.refundSynced
    rw [stack, List.map_cons, List.sum_cons] at used refund
    have part : child.discardableUsage ≤ child.used := Nat.le_add_left ..
    rw [UsageCache.drop, if_pos (by simp only [caches]; omega)]
    obtain ⟨_, _, _⟩ := tracker
    subst stack
    cases below <;> rfl

/-- The caches follow the sums, at every operation. -/
theorem caches_apply (tracker : FrameLimitTracker Info) (op : TrackerOp Info)
    (fits : Fits64 (tracker, tracker.caches) op) :
    tracker.caches.apply tracker op = some (tracker.apply op).caches := by
  rw [Fits64, totals_eq] at fits
  have succeeded : some tracker.caches = some (tracker.popFrame true).1.caches := by
    obtain ⟨_, frames, _⟩ := tracker
    rcases frames with _ | ⟨_, _ | _⟩ <;> rfl
  cases op with
  | reset | pushFrame | pushFrameWithLimit => rfl
  | addTxPersistent amount =>
    exact congrArg some (congrArg₂ UsageCache.mk (Nat.mod_eq_of_lt fits.1) rfl)
  | addFramePersistent | addFrameDiscardable =>
    obtain ⟨_, frames, _⟩ := tracker
    cases frames with
    | nil => rfl
    | cons => exact congrArg some (congrArg₂ UsageCache.mk (Nat.mod_eq_of_lt fits.1) rfl)
  | addFrameRefund =>
    obtain ⟨_, frames, _⟩ := tracker
    cases frames with
    | nil => rfl
    | cons => exact congrArg some (congrArg₂ UsageCache.mk rfl (Nat.mod_eq_of_lt fits.2))
  | addParentDiscardable =>
    obtain ⟨_, frames, _⟩ := tracker
    rcases frames with _ | ⟨_, _ | _⟩
    · rfl
    · rfl
    · exact congrArg some ((if_pos (Nat.le_add_left ..)).trans
        (congrArg₂ UsageCache.mk (Nat.mod_eq_of_lt fits.1) rfl))
  | popFrame success =>
    cases success with
    | true => exact succeeded
    | false => exact tracker.caches_drop
  | popFrameUnwindParent success =>
    rw [apply, caches_popFrameUnwindParent]
    cases success with
    | true => exact succeeded
    | false => exact tracker.caches_drop
  | pushDummyFrame => exact congrArg some (tracker.caches_pushMarked false _).symm
  | pushCallFrame | pushCreateFrame => exact congrArg some (tracker.caches_pushMarked _ _).symm
  | setCreatedAddress => exact congrArg some (tracker.caches_updateInfo _).symm

theorem caches_run {tracker : FrameLimitTracker Info} {ops : List (TrackerOp Info)}
    (fits : StepsMeet cacheStep Fits64 (tracker, tracker.caches) ops) :
    ∃ final : FrameLimitTracker Info,
      Library.run cacheStep (tracker, tracker.caches) ops = some (final, final.caches) := by
  induction ops generalizing tracker with
  | nil => exact ⟨tracker, rfl⟩
  | cons op rest inductionHypothesis =>
    have stepped : cacheStep (tracker, tracker.caches) op =
        some (tracker.apply op, (tracker.apply op).caches) := by
      rw [cacheStep, caches_apply tracker op fits.head, Option.map_some]
    obtain ⟨final, ran⟩ := inductionHypothesis (fits.tail stepped)
    rw [run_cons, stepped, Option.bind_some]
    exact ⟨final, ran⟩

/-- However a tracker is used, its caches are the sums over its entries, and no subtraction from
them underflows. -/
theorem usageCache_synced (spec : MegaSpecId) (txLimit : Nat) {ops : List (TrackerOp Info)}
    (fits : Library.StepsMeet cacheStep Fits64 (.new spec txLimit, ⟨0, 0⟩) ops) :
    ∃ tracker cache, Library.run cacheStep (.new spec txLimit, ⟨0, 0⟩) ops = some (tracker, cache) ∧
      (cache.totalUsed, cache.totalRefund) = tracker.totals ∧
      cache.netUsage = tracker.netUsageUncached := by
  obtain ⟨tracker, ran⟩ := caches_run fits
  refine ⟨tracker, tracker.caches, ran, tracker.totals_eq.symm, ?_⟩
  rw [netUsageUncached, totals_eq]
  rfl

/-- A frame fails after it was charged. -/
theorem usageCache_synced_failed :
    ∃ (tracker : FrameLimitTracker CallFrameInfo) (cache : UsageCache),
      Library.run cacheStep (.new .rex5 1000, ⟨0, 0⟩) [.addTxPersistent 110, .pushCallFrame 1 true,
        .addFrameDiscardable 40, .popFrameUnwindParent false] = some (tracker, cache) ∧
      (cache.totalUsed, cache.totalRefund) = tracker.totals ∧
      cache.netUsage = tracker.netUsageUncached :=
  usageCache_synced .rex5 1000 ⟨⟨by decide, by decide⟩, ⟨by decide, by decide⟩,
    ⟨by decide, by decide⟩, ⟨by decide, by decide⟩, trivial⟩

/-! ### A subtree of frames -/

/-- The number of frames of the subtree after an operation inside it. Neither its first frame is
popped inside it, nor is the frame beneath it charged. -/
def depthAfter : Nat → TrackerOp CallFrameInfo → Option Nat
  | depth, .pushDummyFrame | depth, .pushCallFrame .. | depth, .pushCreateFrame => some (depth + 1)
  | depth + 2, .popFrame _ | depth + 2, .popFrameUnwindParent _ => some (depth + 1)
  | depth + 2, .addParentDiscardable _ => some (depth + 2)
  | depth, .addTxPersistent _ | depth, .addFramePersistent _ | depth, .addFrameDiscardable _
  | depth, .addFrameRefund _ | depth, .setCreatedAddress _ => some depth
  | _, _ => none

/-- One operation inside a subtree, on the tracker and the number of frames of the subtree. -/
def subtreeStep (state : WriteTracker × Nat) (op : TrackerOp CallFrameInfo) :
    Option (WriteTracker × Nat) :=
  (depthAfter state.2 op).map fun depth => (state.1.apply op, depth)

end FrameLimitTracker

/-- What an operation charges to the top frame for good. -/
def TrackerOp.framePersistent : TrackerOp CallFrameInfo → Nat
  | .addFramePersistent amount => amount
  | _ => 0

/-- What an operation charges to the transaction. -/
def TrackerOp.txPersistent : TrackerOp CallFrameInfo → Nat
  | .addTxPersistent amount => amount
  | _ => 0

open TrackerOp

namespace FrameLimitTracker

/-- Where a tracker is inside a subtree: its frames have what was charged for good so far, the first
of them knows whether it marked its parent, and everything beneath is as it was. -/
structure Inside (opened : WriteTracker) (below : List (FrameLimitEntry CallFrameInfo))
    (marked : Bool) (frame tx : Nat) (state : WriteTracker × Nat) : Prop where
  setup : state.1.setup = opened.setup
  txEntry : state.1.txEntry = (opened.addTxPersistent tx).txEntry
  frames : ∃ subtree, state.1.frameStack = subtree ++ below ∧ subtree.length = state.2 ∧
    (subtree.map FrameLimitEntry.persistentUsage).sum = frame ∧
    subtree.getLast?.map (·.info.chargedParentUpdate) = some marked

/-- The entries beneath a frame that pays for the account write of its parent, or does not. -/
def beneath (tracker : WriteTracker) (pays : Bool) : List (FrameLimitEntry CallFrameInfo) :=
  tracker.frameStack.modifyHead fun entry =>
    { entry with info.targetUpdated := entry.info.targetUpdated || pays }

theorem pushMarked_entries (tracker : WriteTracker) (marks : Bool) (info : CallFrameInfo) :
    ∃ limit,
      ((if marks then tracker.markParentPaid else tracker).pushCallFrameInfo info).frameStack =
        .new limit info :: tracker.beneath (tracker.rex5Enabled && marks) ∧
      ((if marks then tracker.markParentPaid else tracker).pushCallFrameInfo info).txEntry =
        tracker.txEntry := by
  obtain ⟨_, frames, rex4, rex5, _⟩ := tracker
  cases marks <;> cases rex4 <;> cases rex5 <;> cases frames <;>
    exact ⟨_, by simp [beneath, markParentPaid, pushCallFrameInfo]; rfl, rfl⟩

theorem popFrameUnwindParent_nested {tracker : WriteTracker}
    {child parent : FrameLimitEntry CallFrameInfo} {below : List (FrameLimitEntry CallFrameInfo)}
    (stack : tracker.frameStack = child :: parent :: below) (success : Bool) :
    (tracker.popFrameUnwindParent success).frameStack =
        { parent.absorb child success with
          info.targetUpdated := parent.info.targetUpdated &&
            (success || !child.info.chargedParentUpdate) } :: below ∧
      (tracker.popFrameUnwindParent success).txEntry = tracker.txEntry := by
  obtain ⟨_, _, _⟩ := tracker
  subst stack
  cases success <;> cases charged : child.info.chargedParentUpdate <;>
    simp [popFrameUnwindParent, popFrame, charged, updateInfo, updateTop, absorb]

theorem popFrameUnwindParent_single {tracker : WriteTracker} {child : FrameLimitEntry CallFrameInfo}
    (stack : tracker.frameStack = [child]) :
    (tracker.popFrameUnwindParent false).frameStack = [] ∧
      (tracker.popFrameUnwindParent false).txEntry = tracker.txEntry.absorb child false := by
  obtain ⟨_, _, _⟩ := tracker
  subst stack
  cases charged : child.info.chargedParentUpdate <;>
    simp [popFrameUnwindParent, popFrame, charged, updateInfo, updateTop]

section Subtree

variable {opened tracker inner : WriteTracker} {below : List (FrameLimitEntry CallFrameInfo)}
  {marked : Bool} {frame tx depth : Nat}

/-- A nested push, which may mark the frame on top of the subtree. -/
theorem Inside.pushed (inside : Inside opened below marked frame tx (tracker, depth)) (marks : Bool)
    (info : CallFrameInfo) : Inside opened below marked frame tx
      ((if marks then tracker.markParentPaid else tracker).pushCallFrameInfo info, depth + 1) := by
  obtain ⟨setup, txEntry, _ | ⟨top, more⟩, stack, length, sum, last⟩ := inside
  · cases last
  obtain ⟨limit, pushed, txPushed⟩ := tracker.pushMarked_entries marks info
  have moved := (tracker.moves_pushMarked marks info).setup
  rw [beneath, stack] at pushed
  refine ⟨moved.trans setup, txPushed.trans txEntry, _ :: _ :: more, pushed,
    congrArg (· + 1) length, (Nat.zero_add _).trans sum, ?_⟩
  cases more with
  | nil | cons => exact last

/-- An operation inside the subtree keeps to it. -/
theorem Inside.step {state next : WriteTracker × Nat} {op : TrackerOp CallFrameInfo}
    (inside : Inside opened below marked frame tx state)
    (stepped : subtreeStep state op = some next) :
    Inside opened below marked (frame + op.framePersistent) (tx + op.txPersistent) next := by
  obtain ⟨tracker, depth⟩ := state
  obtain ⟨after, deeper, rfl⟩ := Option.map_eq_some_iff.mp stepped
  have whole := inside
  obtain ⟨setup, txEntry, _ | ⟨top, more⟩, stack, rfl, sum, last⟩ := inside
  · cases last
  cases op with
  | reset | pushFrame | pushFrameWithLimit => cases deeper
  | pushDummyFrame =>
    cases deeper
    exact whole.pushed false _
  | pushCallFrame | pushCreateFrame =>
    cases deeper
    exact whole.pushed _ _
  | addTxPersistent amount =>
    cases deeper
    refine ⟨setup, ?_, top :: more, stack, rfl, sum, last⟩
    dsimp only [apply, addTxPersistent, txPersistent] at txEntry ⊢
    rw [txEntry, Nat.add_assoc]
  | addFramePersistent amount =>
    cases deeper
    obtain ⟨_, _, _⟩ := tracker
    subst stack
    refine ⟨setup, txEntry, _ :: more, rfl, rfl, ?_, ?_⟩
    · rw [← sum]
      exact Nat.add_right_comm ..
    · cases more with
      | nil | cons => exact last
  | addFrameDiscardable | addFrameRefund | setCreatedAddress =>
    cases deeper
    obtain ⟨_, _, _⟩ := tracker
    subst stack
    refine ⟨setup, txEntry, _ :: more, rfl, rfl, sum, ?_⟩
    cases more with
    | nil | cons => exact last
  | addParentDiscardable amount =>
    rcases more with _ | ⟨parent, more⟩ <;> cases deeper
    obtain ⟨_, _, _⟩ := tracker
    subst stack
    refine ⟨setup, txEntry, top :: _ :: more, rfl, rfl, sum, ?_⟩
    cases more with
    | nil | cons => exact last
  | popFrame success =>
    rcases more with _ | ⟨parent, more⟩ <;> cases deeper
    have moved := (tracker.moves_popFrame success).setup
    obtain ⟨_, _, _⟩ := tracker
    subst stack
    refine ⟨moved.trans setup, txEntry, parent.absorb top success :: more, rfl, rfl, ?_, ?_⟩
    · rw [← sum]
      simp only [List.map_cons, List.sum_cons, absorb, framePersistent]
      omega
    · cases more with
      | nil | cons => exact last
  | popFrameUnwindParent success =>
    rcases more with _ | ⟨parent, more⟩ <;> cases deeper
    obtain ⟨popped, txPopped⟩ := popFrameUnwindParent_nested stack success
    refine ⟨(tracker.moves_popFrameUnwindParent success).setup.trans setup, txPopped.trans txEntry,
      _ :: more, popped, rfl, ?_, ?_⟩
    · rw [← sum]
      simp only [List.map_cons, List.sum_cons, absorb, framePersistent]
      omega
    · cases more with
      | nil | cons => exact last

theorem Inside.run {ops : List (TrackerOp CallFrameInfo)} {state final : WriteTracker × Nat}
    (inside : Inside opened below marked frame tx state)
    (ran : Library.run subtreeStep state ops = some final) :
    Inside opened below marked (frame + (ops.map framePersistent).sum)
      (tx + (ops.map txPersistent).sum) final := by
  induction ops generalizing state frame tx with
  | nil =>
    obtain rfl := Option.some.inj ran
    exact inside
  | cons op rest inductionHypothesis =>
    obtain ⟨next, stepped, ran⟩ := run_cons_some ran
    have continued := inductionHypothesis (inside.step stepped) ran
    simp only [List.map_cons, List.sum_cons, ← Nat.add_assoc]
    exact continued

/-- A frame that marks its parent remembers it. -/
theorem inside_pushMarked (tracker : WriteTracker) (marks : Bool) {info : CallFrameInfo}
    (remembers : info.chargedParentUpdate = (tracker.rex5Enabled && marks)) :
    Inside tracker (tracker.beneath (tracker.rex5Enabled && marks)) (tracker.rex5Enabled && marks)
      0 0 ((if marks then tracker.markParentPaid else tracker).pushCallFrameInfo info, 1) := by
  obtain ⟨limit, pushed, txPushed⟩ := tracker.pushMarked_entries marks info
  exact ⟨(tracker.moves_pushMarked marks info).setup, txPushed, [.new limit info], pushed, rfl, rfl,
    congrArg some remembers⟩

/-- The failure of the first frame of a subtree unmarks its parent. -/
theorem Inside.failed {pays : Bool}
    (inside : Inside tracker (tracker.beneath pays) pays frame tx (inner, 1))
    (unpaid : pays = true → tracker.parentUnpaid = true) :
    inner.popFrameUnwindParent false =
      (if tracker.hasActiveFrame then (tracker.addFramePersistent frame).1
      else tracker.addTxPersistent frame).addTxPersistent tx := by
  obtain ⟨setup, txEntry, subtree, stack, length, sum, last⟩ := inside
  obtain ⟨child, rfl⟩ := List.length_eq_one_iff.mp length
  obtain rfl : child.persistentUsage = frame := (Nat.add_zero _).symm.trans sum
  obtain rfl : child.info.chargedParentUpdate = pays := Option.some.inj last
  have kept := (inner.moves_popFrameUnwindParent false).setup.trans setup
  rw [beneath] at stack
  rw [parentUnpaid] at unpaid
  cases frames : tracker.frameStack with
  | nil =>
    rw [frames] at stack
    obtain ⟨popped, txPopped⟩ := popFrameUnwindParent_single stack
    injection kept with rex4 rex5 rex6
    rw [if_neg (by rw [hasActiveFrame, frames]; exact Bool.false_ne_true)]
    refine eq_of_entries ?_ (popped.trans frames.symm) rex4 rex5 rex6
    rw [txPopped, txEntry]
    simp only [absorb, addTxPersistent, Nat.add_right_comm]
    rfl
  | cons parent rest =>
    rw [frames] at stack unpaid
    have added := (tracker.moves_addFramePersistent child.persistentUsage).setup
    injection kept.trans added.symm with rex4 rex5 rex6
    rw [if_pos (by rw [hasActiveFrame, frames]; rfl)]
    have restored : ((parent.info.targetUpdated || child.info.chargedParentUpdate) &&
        (false || !child.info.chargedParentUpdate)) = parent.info.targetUpdated := by
      cases charged : child.info.chargedParentUpdate with
      | true => simpa using (unpaid charged).symm
      | false => simp
    obtain ⟨popped, txPopped⟩ := popFrameUnwindParent_nested stack false
    refine eq_of_entries ?_ ?_ rex4 rex5 rex6
    · rw [txPopped, txEntry]
      simp only [addTxPersistent, addFramePersistent_txEntry]
    · rw [popped, restored]
      simp only [addTxPersistent, addFramePersistent_frameStack, frames]
      rfl

end Subtree

/-- A frame that fails leaves only what was charged for good while it was on the stack. -/
theorem failedSubtree_leaves_persistent (tracker : WriteTracker)
    {opening : TrackerOp CallFrameInfo}
    (opens : (∃ target hasTransfer, opening = .pushCallFrame target hasTransfer) ∨
      opening = .pushCreateFrame ∧ tracker.rex6Enabled = false)
    {ops : List (TrackerOp CallFrameInfo)} {inner : WriteTracker}
    (ran : Library.run subtreeStep (tracker.apply opening, 1) ops = some (inner, 1)) :
    inner.popFrameUnwindParent false =
      (if tracker.hasActiveFrame then
        (tracker.addFramePersistent (ops.map TrackerOp.framePersistent).sum).1
      else tracker.addTxPersistent (ops.map TrackerOp.framePersistent).sum).addTxPersistent
        (ops.map TrackerOp.txPersistent).sum := by
  rcases opens with ⟨target, hasTransfer, rfl⟩ | ⟨rfl, rex6⟩
  · have inside := (tracker.inside_pushMarked (hasTransfer && tracker.parentUnpaid) rfl).run ran
    rw [Nat.zero_add, Nat.zero_add] at inside
    exact inside.failed fun pays => (Bool.and_eq_true_iff.mp (Bool.and_eq_true_iff.mp pays).2).2
  · have inside := (tracker.inside_pushMarked tracker.parentUnpaid
      (by rw [rex6, Bool.not_false, Bool.and_true])).run ran
    rw [Nat.zero_add, Nat.zero_add] at inside
    exact inside.failed fun pays => (Bool.and_eq_true_iff.mp pays).2

/-- A frame moves value, creates a contract, and fails. -/
theorem failedSubtree_leaves_seven :
    let start : WriteTracker := (new .rex5 1000).pushDummyFrame
    let ops : List (TrackerOp CallFrameInfo) := [.addFramePersistent 5, .addFrameDiscardable 40,
      .pushCreateFrame, .addFramePersistent 2, .addTxPersistent 3, .popFrameUnwindParent true]
    ∃ inner,
      Library.run subtreeStep (start.apply (.pushCallFrame 1 true), 1) ops = some (inner, 1) ∧
      inner.popFrameUnwindParent false = (start.addFramePersistent 7).1.addTxPersistent 3 := by
  intro start ops
  exact ⟨_, rfl, @failedSubtree_leaves_persistent start _ (Or.inl ⟨1, true, rfl⟩) ops _ rfl⟩

end FrameLimitTracker

end MegaEvm
