/-
This file says what the hooks of the limits keep. The specification the trackers were
made for and the limits of the transaction, read off a tracker as its setup, are kept
by every one of them. The stacks of the trackers move: some hooks push a frame, some
pop one, and all others leave the height as it is. The height of every stack is the
number of frames that were started and have not returned.
-/

import MegaEvm.Limit.Verdict

namespace MegaEvm

open FrameLimitTracker

/-! ### Trackers -/

/-- What a frame tracker is made with. -/
structure TrackerSetup where
  rex4Enabled : Bool
  rex5Enabled : Bool
  rex6Enabled : Bool
  txLimit : Nat
deriving DecidableEq

def TrackerSetup.ofSpec (spec : MegaSpecId) (txLimit : Nat) : TrackerSetup where
  rex4Enabled := spec.isEnabled .rex4
  rex5Enabled := spec.isEnabled .rex5
  rex6Enabled := spec.isEnabled .rex6
  txLimit := txLimit

namespace FrameLimitTracker

variable {Info : Type} (tracker : FrameLimitTracker Info)

def setup : TrackerSetup where
  rex4Enabled := tracker.rex4Enabled
  rex5Enabled := tracker.rex5Enabled
  rex6Enabled := tracker.rex6Enabled
  txLimit := tracker.txEntry.limit

/-- The number of frames on the stack. -/
def height : Nat :=
  tracker.frameStack.length

theorem hasActiveFrame_iff : tracker.hasActiveFrame = true ↔ 0 < tracker.height := by
  rw [hasActiveFrame, height]
  cases tracker.frameStack with
  | nil | cons => simp

/-- The setup is kept, and the height of the stack moves. -/
structure Moves (move : Nat → Nat) (next : FrameLimitTracker Info) : Prop where
  setup : next.setup = tracker.setup
  height : next.height = move tracker.height

theorem Moves.refl : tracker.Moves id tracker :=
  ⟨rfl, rfl⟩

theorem Moves.trans {tracker middle next : FrameLimitTracker Info} {move : Nat → Nat}
    (first : tracker.Moves move middle) (second : middle.Moves id next) : tracker.Moves move next :=
  ⟨second.setup.trans first.setup, second.height.trans first.height⟩

theorem Moves.before {tracker middle next : FrameLimitTracker Info} {move : Nat → Nat}
    (first : tracker.Moves id middle) (second : middle.Moves move next) : tracker.Moves move next :=
  ⟨second.setup.trans first.setup, second.height.trans (congrArg move first.height)⟩

theorem moves_updateTop (update : FrameLimitEntry Info → FrameLimitEntry Info)
    (used refund : Nat) (addsUsed : ∀ entry, (update entry).used = entry.used + used)
    (addsRefund : ∀ entry, (update entry).refund = entry.refund + refund) :
    tracker.Moves id (tracker.updateTop update used refund addsUsed addsRefund) := by
  obtain ⟨_, frames, _⟩ := tracker
  cases frames <;> exact ⟨rfl, rfl⟩

variable (amount : Nat)

theorem moves_addFramePersistent : tracker.Moves id (tracker.addFramePersistent amount).1 := by
  unfold addFramePersistent
  dsimp only
  exact moves_updateTop ..

theorem moves_addFrameDiscardable : tracker.Moves id (tracker.addFrameDiscardable amount) :=
  moves_updateTop ..

theorem moves_addFrameRefund : tracker.Moves id (tracker.addFrameRefund amount) :=
  moves_updateTop ..

theorem moves_updateInfo (update : Info → Info) : tracker.Moves id (tracker.updateInfo update) :=
  moves_updateTop ..

theorem moves_addParentDiscardable : tracker.Moves id (tracker.addParentDiscardable amount) := by
  obtain ⟨_, frames, _⟩ := tracker
  rcases frames with _ | ⟨_, _ | _⟩ <;> exact ⟨rfl, rfl⟩

theorem moves_popFrame (success : Bool) : tracker.Moves (· - 1) (tracker.popFrame success).1 := by
  obtain ⟨_, frames, _⟩ := tracker
  rcases frames with _ | ⟨_, _ | _⟩ <;> exact ⟨rfl, rfl⟩

section AccountWrites

variable (tracker : FrameLimitTracker CallFrameInfo)

theorem moves_pushCallFrameInfo (info : CallFrameInfo) :
    tracker.Moves (· + 1) (tracker.pushCallFrameInfo info) := by
  rw [pushCallFrameInfo]
  split <;> exact ⟨rfl, rfl⟩

theorem moves_pushDummyFrame : tracker.Moves (· + 1) tracker.pushDummyFrame :=
  tracker.moves_pushCallFrameInfo _

theorem moves_markParentPaid : tracker.Moves id tracker.markParentPaid := by
  rw [markParentPaid]
  split
  · exact tracker.moves_updateInfo _
  · exact .refl _

/-- A frame is pushed with its parent marked or not. -/
theorem moves_pushMarked (marks : Bool) (info : CallFrameInfo) :
    tracker.Moves (· + 1)
      ((if marks then tracker.markParentPaid else tracker).pushCallFrameInfo info) := by
  cases marks with
  | true => exact tracker.moves_markParentPaid.before (moves_pushCallFrameInfo _ info)
  | false => exact tracker.moves_pushCallFrameInfo info

theorem moves_pushCallFrame (target : Address) (hasTransfer : Bool) :
    tracker.Moves (· + 1) (tracker.pushCallFrame target hasTransfer).1 :=
  tracker.moves_pushMarked _ _

theorem moves_pushCreateFrame : tracker.Moves (· + 1) tracker.pushCreateFrame.1 :=
  tracker.moves_pushMarked _ _

theorem moves_popFrameUnwindParent (success : Bool) :
    tracker.Moves (· - 1) (tracker.popFrameUnwindParent success) := by
  have popped := tracker.moves_popFrame success
  rw [popFrameUnwindParent]
  revert popped
  rcases tracker.popFrame success with ⟨next, _ | child⟩
  · exact id
  · intro popped
    dsimp only
    split
    · exact popped.trans (next.moves_updateInfo _)
    · exact popped

/-- The start of a call or a create pushes one frame. -/
theorem moves_chargeFrameInit (cost : Nat) (input : FrameInput) :
    tracker.Moves (· + 1) (tracker.chargeFrameInit cost input) := by
  cases input with
  | call inputs =>
    have pushed := tracker.moves_pushCallFrame inputs.targetAddress inputs.transfersValue
    simp only [chargeFrameInit]
    split_ifs
    · exact pushed.trans (moves_addFrameDiscardable ..)
    · exact pushed
    · exact (pushed.trans (moves_addFrameDiscardable ..)).trans (moves_addFrameDiscardable ..)
    · exact pushed.trans (moves_addFrameDiscardable ..)
    · exact pushed
  | create inputs =>
    have pushed := tracker.moves_pushCreateFrame
    simp only [chargeFrameInit]
    split_ifs
    · exact pushed.trans (moves_addParentDiscardable ..)
    · exact pushed.trans (moves_addFrameDiscardable ..)
    · exact pushed

theorem moves_chargeCreated (cost : Nat) (address : Address) :
    tracker.Moves id (tracker.chargeCreated cost address) :=
  (tracker.moves_updateInfo _).trans (moves_addFrameDiscardable ..)

theorem moves_chargeSstore (cost : Nat) (store : SStoreResult) :
    tracker.Moves id (tracker.chargeSstore cost store) := by
  rw [chargeSstore]
  split_ifs
  · exact .refl _
  · exact tracker.moves_addFrameDiscardable cost
  · exact tracker.moves_addFrameRefund cost
  · exact .refl _

end AccountWrites

end FrameLimitTracker

/-- The start of a frame pushes it, and counts one account or none. -/
theorem StateGrowthTracker.beforeFrameInit_eq_some {tracker growth : StateGrowthTracker}
    {journal : JournalInspect} {input : FrameInput}
    (grown : tracker.beforeFrameInit journal input = some growth) :
    growth = tracker.pushFrame ∨ growth = tracker.pushFrame.recordGrowth 1 := by
  cases input with
  | call inputs =>
    simp only [beforeFrameInit] at grown
    split at grown
    · obtain ⟨account, _, rfl⟩ := Option.map_eq_some_iff.mp grown
      split
      · exact Or.inr rfl
      · exact Or.inl rfl
    · exact Or.inl (Option.some.inj grown).symm
  | create inputs =>
    simp only [beforeFrameInit] at grown
    split at grown
    · obtain ⟨caller, _, inspected⟩ := Option.bind_eq_some_iff.mp grown
      obtain ⟨account, _, rfl⟩ := Option.map_eq_some_iff.mp inspected
      split
      · exact Or.inr rfl
      · exact Or.inl rfl
    · exact Or.inr (Option.some.inj grown).symm

theorem StateGrowthTracker.moves_pushFrame (tracker : StateGrowthTracker) :
    tracker.frameTracker.Moves (· + 1) tracker.pushFrame.frameTracker := by
  rw [pushFrame]
  split <;> exact ⟨rfl, rfl⟩

namespace ComputeGasTracker

variable (tracker : ComputeGasTracker)

theorem moves_recordGasUsed (gas : Nat) :
    tracker.frameTracker.Moves id (tracker.recordGasUsed gas).frameTracker := by
  have charged := tracker.frameTracker.moves_addFramePersistent gas
  rw [recordGasUsed]
  revert charged
  rcases tracker.frameTracker.addFramePersistent gas with ⟨next, _ | _⟩
  · exact fun _ => ⟨rfl, rfl⟩
  · exact id

theorem moves_pushFrame : tracker.frameTracker.Moves (· + 1) tracker.pushFrame.frameTracker := by
  rw [pushFrame]
  split <;> exact ⟨rfl, rfl⟩

theorem moves_capCurrentFrameLimit (cap : Nat) :
    tracker.frameTracker.Moves id (tracker.capCurrentFrameLimit cap).frameTracker := by
  obtain ⟨_, _, ⟨_, frames, _⟩⟩ := tracker
  cases frames <;> exact ⟨rfl, rfl⟩

end ComputeGasTracker

/-- The setup of the stipends is kept, and the height of their stack moves. -/
structure StorageCallStipendTracker.Moves (tracker : StorageCallStipendTracker)
    (move : Nat → Nat) (next : StorageCallStipendTracker) : Prop where
  amount : next.stipendAmount = tracker.stipendAmount
  rex5 : next.rex5Enabled = tracker.rex5Enabled
  height : next.stack.length = move tracker.stack.length

variable (tracker : StorageCallStipendTracker)

include tracker

/-- The start of a frame pushes one stipend, and at most caps the compute budget of the frame. -/
theorem StorageCallStipendTracker.moves_beforeFrameInit (init : FrameInit)
    (computeGas : ComputeGasTracker) :
    tracker.Moves (· + 1) (tracker.beforeFrameInit init computeGas).1 ∧
      computeGas.frameTracker.Moves id
        (tracker.beforeFrameInit init computeGas).2.2.frameTracker := by
  rw [StorageCallStipendTracker.beforeFrameInit]
  split
  · split
    · exact ⟨⟨rfl, rfl, rfl⟩, .refl _⟩
    · cases init.input with
      | call inputs =>
        exact ⟨⟨rfl, rfl, rfl⟩, computeGas.moves_capCurrentFrameLimit inputs.gasLimit⟩
      | create inputs => exact ⟨⟨rfl, rfl, rfl⟩, .refl _⟩
  · exact ⟨⟨rfl, rfl, rfl⟩, .refl _⟩

theorem StorageCallStipendTracker.moves_beforeFrameReturnResult (result : FrameResult) :
    tracker.Moves (· - 1) (tracker.beforeFrameReturnResult result).1 := by
  simp only [beforeFrameReturnResult]
  split <;> exact ⟨rfl, rfl, List.length_tail⟩

theorem StorageCallStipendTracker.moves_tryConsume (amount : Nat) :
    tracker.Moves id (tracker.tryConsume amount).1 := by
  rw [tryConsume]
  split
  · split
    · rename_i frame below frames
      exact ⟨rfl, rfl, (congrArg List.length frames).symm⟩
    · exact ⟨rfl, rfl, rfl⟩
  · exact ⟨rfl, rfl, rfl⟩

omit tracker

/-! ### The limits -/

/-- What the limits are made with. -/
structure LimitSetup where
  growthSpec : MegaSpecId
  stateGrowth : TrackerSetup
  dataSize : TrackerSetup
  kvUpdate : TrackerSetup
  computeGas : TrackerSetup
  stipendAmount : Nat
  stipendRex5 : Bool
deriving DecidableEq

namespace AdditionalLimit

variable (limit : AdditionalLimit)

def setup : LimitSetup where
  growthSpec := limit.stateGrowth.spec
  stateGrowth := limit.stateGrowth.frameTracker.setup
  dataSize := limit.dataSize.frameTracker.setup
  kvUpdate := limit.kvUpdate.frameTracker.setup
  computeGas := limit.computeGas.frameTracker.setup
  stipendAmount := limit.storageCallStipend.stipendAmount
  stipendRex5 := limit.storageCallStipend.rex5Enabled

/-- The stacks of all trackers have the same height. -/
structure AtHeight (limit : AdditionalLimit) (height : Nat) : Prop where
  stateGrowth : limit.stateGrowth.frameTracker.height = height
  dataSize : limit.dataSize.frameTracker.height = height
  kvUpdate : limit.kvUpdate.frameTracker.height = height
  computeGas : limit.computeGas.frameTracker.height = height
  storageCallStipend : limit.storageCallStipend.stack.length = height

theorem atHeight_new (spec : MegaSpecId) (limits : EvmTxRuntimeLimits) :
    (new spec limits).AtHeight 0 :=
  ⟨rfl, rfl, rfl, rfl, rfl⟩

theorem atHeight_reset : limit.reset.AtHeight 0 :=
  ⟨rfl, rfl, rfl, rfl, rfl⟩

theorem AtHeight.hasActiveFrame {limit : AdditionalLimit} {height : Nat}
    (aligned : limit.AtHeight (height + 1)) : limit.dataSize.hasActiveFrame = true := by
  rw [DataSizeTracker.hasActiveFrame, hasActiveFrame_iff, aligned.dataSize]
  exact Nat.succ_pos height

/-- Nothing is rescued, every tracker keeps its setup, and the stacks move together. -/
structure Moves (move : Nat → Nat) (next : AdditionalLimit) : Prop where
  rescuedGas : next.rescuedGas = limit.rescuedGas
  growthSpec : next.stateGrowth.spec = limit.stateGrowth.spec
  stateGrowth : limit.stateGrowth.frameTracker.Moves move next.stateGrowth.frameTracker
  dataSize : limit.dataSize.frameTracker.Moves move next.dataSize.frameTracker
  kvUpdate : limit.kvUpdate.frameTracker.Moves move next.kvUpdate.frameTracker
  computeGas : limit.computeGas.frameTracker.Moves move next.computeGas.frameTracker
  storageCallStipend : limit.storageCallStipend.Moves move next.storageCallStipend

namespace Moves

theorem refl : limit.Moves id limit :=
  ⟨rfl, rfl, .refl _, .refl _, .refl _, .refl _, rfl, rfl, rfl⟩

variable {limit} {next : AdditionalLimit} {move : Nat → Nat} (moves : limit.Moves move next)

include moves

theorem setup : next.setup = limit.setup := by
  simp only [AdditionalLimit.setup, moves.growthSpec, moves.stateGrowth.setup,
    moves.dataSize.setup, moves.kvUpdate.setup, moves.computeGas.setup,
    moves.storageCallStipend.amount, moves.storageCallStipend.rex5]

theorem atHeight {height : Nat} (aligned : limit.AtHeight height) :
    next.AtHeight (move height) where
  stateGrowth := moves.stateGrowth.height.trans (congrArg move aligned.stateGrowth)
  dataSize := moves.dataSize.height.trans (congrArg move aligned.dataSize)
  kvUpdate := moves.kvUpdate.height.trans (congrArg move aligned.kvUpdate)
  computeGas := moves.computeGas.height.trans (congrArg move aligned.computeGas)
  storageCallStipend :=
    moves.storageCallStipend.height.trans (congrArg move aligned.storageCallStipend)

/-- A verdict is no part of a tracker. -/
theorem verdict (verdict : LimitCheck) :
    limit.Moves move { next with hasExceededLimit := verdict } :=
  { moves with }

theorem check : limit.Moves move next.checkLimit := by
  obtain ⟨verdict, equation⟩ := next.checkLimit_eq
  rw [equation]
  exact moves.verdict verdict

end Moves

theorem moves_checkLimit : limit.Moves id limit.checkLimit :=
  (Moves.refl limit).check

theorem AtHeight.tryRescueGas {limit : AdditionalLimit} {height : Nat}
    (aligned : limit.AtHeight height) (gas : Gas) : (limit.tryRescueGas gas).AtHeight height := by
  have checked := limit.moves_checkLimit.atHeight aligned
  obtain equation | equation := limit.tryRescueGas_cases gas <;> rw [equation]
  · exact checked
  · exact { checked with }

theorem moves_recordComputeGas (gas : Nat) : limit.Moves id (limit.recordComputeGas gas).1 := by
  obtain ⟨verdict, equation⟩ := limit.recordComputeGas_eq gas
  rw [equation]
  exact { Moves.refl limit with computeGas := limit.computeGas.moves_recordGasUsed gas }

theorem moves_recordComputeGasAllDims (gas : Nat) :
    limit.Moves id (limit.recordComputeGasAllDims gas).1 :=
  Moves.check { Moves.refl limit with computeGas := limit.computeGas.moves_recordGasUsed gas }

theorem moves_tryConsumeStorageStipend (amount : Nat) :
    limit.Moves id (limit.tryConsumeStorageStipend amount).1 :=
  { Moves.refl limit with storageCallStipend := StorageCallStipendTracker.moves_tryConsume .. }

theorem moves_beforeTxStart (tx : MegaTransaction) : limit.Moves id (limit.beforeTxStart tx) := by
  refine Moves.check { Moves.refl limit with dataSize := ?_, kvUpdate := ?_ }
  · dsimp only [DataSizeTracker.beforeTxStart]
    split <;> exact ⟨rfl, rfl⟩
  · dsimp only [KVUpdateTracker.beforeTxStart]
    split <;> exact ⟨rfl, rfl⟩

theorem moves_onRex5Eip7702AuthorityCreations (amount : Nat) :
    limit.Moves id (limit.onRex5Eip7702AuthorityCreations amount) :=
  Moves.check { Moves.refl limit with stateGrowth := ⟨rfl, rfl⟩ }

theorem moves_onRex6Eip7702AuthorityApplied (createsAuthority : Bool) :
    limit.Moves id (limit.onRex6Eip7702AuthorityApplied createsAuthority) := by
  cases createsAuthority with
  | true | false =>
    exact Moves.check ⟨rfl, rfl, ⟨rfl, rfl⟩, ⟨rfl, rfl⟩, ⟨rfl, rfl⟩, ⟨rfl, rfl⟩, rfl, rfl, rfl⟩

theorem moves_recordDepositCallerCreation : limit.Moves id limit.recordDepositCallerCreation :=
  Moves.check { Moves.refl limit with stateGrowth := ⟨rfl, rfl⟩ }

theorem moves_recordOracleHintBytes (length : Nat) :
    limit.Moves id (limit.recordOracleHintBytes length) :=
  Moves.check { Moves.refl limit with dataSize := ⟨rfl, rfl⟩ }

theorem moves_mergeUsage (usage : LimitUsage) : limit.Moves id (limit.mergeUsage usage) :=
  ⟨rfl, rfl, ⟨rfl, rfl⟩, ⟨rfl, rfl⟩, ⟨rfl, rfl⟩, ⟨rfl, rfl⟩, rfl, rfl, rfl⟩

/-- An empty frame raises every stack. -/
theorem moves_pushEmptyFrame : limit.Moves (· + 1) limit.pushEmptyFrame where
  rescuedGas := rfl
  growthSpec := rfl
  stateGrowth := limit.stateGrowth.moves_pushFrame
  dataSize := moves_pushDummyFrame _
  kvUpdate := moves_pushDummyFrame _
  computeGas := limit.computeGas.moves_pushFrame
  storageCallStipend := ⟨rfl, rfl, rfl⟩

/-- The start of a frame raises every stack. -/
theorem moves_pushedFrame {limit : AdditionalLimit} {journal : JournalInspect} {init : FrameInit}
    {growth : StateGrowthTracker}
    (grown : limit.stateGrowth.beforeFrameInit journal init.input = some growth) :
    limit.Moves (· + 1) (limit.pushedFrame init growth) := by
  obtain ⟨stipend, computeGas⟩ :=
    limit.storageCallStipend.moves_beforeFrameInit init limit.computeGas.pushFrame
  have pushed := limit.stateGrowth.moves_pushFrame
  have grows : growth.spec = limit.stateGrowth.spec ∧
      limit.stateGrowth.frameTracker.Moves (· + 1) growth.frameTracker := by
    obtain rfl | rfl := StateGrowthTracker.beforeFrameInit_eq_some grown
    · exact ⟨rfl, pushed⟩
    · exact ⟨rfl, pushed.trans (moves_addFrameDiscardable _ 1)⟩
  exact ⟨rfl, grows.1, grows.2, moves_chargeFrameInit ..,
    moves_chargeFrameInit ..,
    limit.computeGas.moves_pushFrame.trans computeGas, stipend⟩

@[simp] theorem depth_grantedInit (init : FrameInit) :
    (limit.grantedInit init).depth = init.depth := by
  rw [grantedInit, StorageCallStipendTracker.beforeFrameInit]
  split
  · split
    · rfl
    · cases init.input <;> rfl
  · rfl

theorem moves_afterFrameInit (created : Option Address) :
    limit.Moves id (limit.afterFrameInit (.item created)) := by
  cases created with
  | none => exact .refl limit
  | some address =>
    exact { Moves.refl limit with
      dataSize := moves_chargeCreated ..
      kvUpdate := moves_chargeCreated .. }

theorem moves_afterFrameRunInstructions (isCreate : Bool) (result : InterpreterResult) :
    limit.Moves id (limit.afterFrameRunInstructions isCreate result).1 := by
  obtain equation | equation := limit.afterFrameRunInstructions_cases isCreate result <;>
    rw [equation]
  · exact .refl limit
  · exact Moves.check { Moves.refl limit with dataSize := moves_addFrameDiscardable .. }

theorem AtHeight.afterFrameRun {limit : AdditionalLimit} {height : Nat}
    (aligned : limit.AtHeight height) (result : FrameResult) (gasRemainingBefore : Option Nat) :
    (limit.afterFrameRun result gasRemainingBefore).1.AtHeight height := by
  rw [afterFrameRun_fst]
  cases gasRemainingBefore with
  | none => exact aligned.tryRescueGas _
  | some before => exact ((limit.moves_recordComputeGas _).atHeight aligned).tryRescueGas _

/-- The return of a frame lowers every stack, as far as there is a frame. -/
theorem moves_poppedFrame (result : FrameResult) :
    limit.Moves (· - 1) (limit.poppedFrame result) where
  rescuedGas := rfl
  growthSpec := rfl
  stateGrowth := moves_popFrame ..
  dataSize := moves_popFrameUnwindParent ..
  kvUpdate := moves_popFrameUnwindParent ..
  computeGas := moves_popFrame ..
  storageCallStipend := StorageCallStipendTracker.moves_beforeFrameReturnResult ..

theorem moves_beforeFrameReturnResult (lastFrame : Bool) (result : FrameResult) :
    limit.Moves (· - 1) (limit.beforeFrameReturnResult lastFrame result).1 := by
  have checked := (limit.moves_poppedFrame result).check
  obtain equation | equation := limit.beforeFrameReturnResult_cases lastFrame result <;>
    rw [equation]
  · exact checked
  · exact checked.verdict _

theorem moves_onSstore (store : SStoreResult) : limit.Moves id (limit.onSstore store) := by
  have grows : (limit.stateGrowth.afterSstore store).spec = limit.stateGrowth.spec ∧
      limit.stateGrowth.frameTracker.Moves id
        (limit.stateGrowth.afterSstore store).frameTracker := by
    rw [StateGrowthTracker.afterSstore]
    split
    · exact ⟨rfl, moves_addFrameDiscardable ..⟩
    · exact ⟨rfl, moves_addFrameRefund ..⟩
    · exact ⟨rfl, .refl _⟩
  exact Moves.check
    { Moves.refl limit with
      growthSpec := grows.1
      stateGrowth := grows.2
      dataSize := moves_chargeSstore ..
      kvUpdate := moves_chargeSstore .. }

theorem moves_onLog (numTopics dataSize : Nat) : limit.Moves id (limit.onLog numTopics dataSize) :=
  Moves.check { Moves.refl limit with dataSize := moves_addFrameDiscardable .. }

theorem moves_onSelfdestruct (refund : Nat) : limit.Moves id (limit.onSelfdestruct refund) :=
  { Moves.refl limit with stateGrowth := moves_addFrameRefund .. }

theorem moves_onSelfdestructExistingAccount : limit.Moves id limit.onSelfdestructExistingAccount :=
  { Moves.refl limit with
    dataSize := moves_addFrameDiscardable ..
    kvUpdate := moves_addFrameDiscardable .. }

theorem moves_onSelfdestructNewAccount : limit.Moves id limit.onSelfdestructNewAccount :=
  { Moves.refl limit with
    stateGrowth := moves_addFrameDiscardable ..
    dataSize := moves_addFrameDiscardable ..
    kvUpdate := moves_addFrameDiscardable .. }

end AdditionalLimit

end MegaEvm
