/-
This file says what the limits of an exempt transaction do not show. Two trackers are
alike if they differ in their limits only, the ones of the transaction, of the frames and
the detained one. Every operation keeps trackers alike, so two exempt transactions that
start alike and meet the same hooks stay alike, and report the same usage.
-/

import MegaEvm.Limit.Clear

namespace MegaEvm

open ComputeGasTracker StorageCallStipendTracker LimitCheck

/-! ### Trackers -/

/-- The entry without its limit. -/
def FrameLimitEntry.unlimited {Info : Type} (entry : FrameLimitEntry Info) : FrameLimitEntry Info :=
  { entry with limit := 0 }

namespace FrameLimitTracker

variable {Info : Type}

/-- The tracker without its limits. -/
def unlimited (tracker : FrameLimitTracker Info) : FrameLimitTracker Info :=
  { tracker with
    txEntry := tracker.txEntry.unlimited
    frameStack := tracker.frameStack.map FrameLimitEntry.unlimited
    usedSynced := by
      rw [List.map_map]
      exact tracker.usedSynced
    refundSynced := by
      rw [List.map_map]
      exact tracker.refundSynced }

/-- The trackers differ in their limits only. -/
structure Alike (first second : FrameLimitTracker Info) : Prop where
  txEntry : first.txEntry.unlimited = second.txEntry.unlimited
  frameStack : first.frameStack.map FrameLimitEntry.unlimited =
    second.frameStack.map FrameLimitEntry.unlimited
  rex4Enabled : first.rex4Enabled = second.rex4Enabled
  rex5Enabled : first.rex5Enabled = second.rex5Enabled
  rex6Enabled : first.rex6Enabled = second.rex6Enabled

namespace Alike

section Operations

variable {first second : FrameLimitTracker Info} (alike : first.Alike second)

include alike

theorem unlimited_eq : first.unlimited = second.unlimited :=
  eq_of_entries alike.txEntry alike.frameStack alike.rex4Enabled alike.rex5Enabled alike.rex6Enabled

/-- What ignores the limits is the same for both. -/
theorem same {Observed : Type} (observe : FrameLimitTracker Info → Observed)
    (ignores : ∀ tracker, observe tracker.unlimited = observe tracker) :
    observe first = observe second := by
  rw [← ignores, alike.unlimited_eq, ignores]

/-- An operation that ignores the limits keeps trackers alike. -/
theorem map (operation : FrameLimitTracker Info → FrameLimitTracker Info)
    (ignores : ∀ tracker, (operation tracker).unlimited = operation tracker.unlimited) :
    (operation first).Alike (operation second) := by
  have erased : (operation first).unlimited = (operation second).unlimited := by
    rw [ignores, ignores, alike.unlimited_eq]
  have observed {Observed : Type} (observe : FrameLimitTracker Info → Observed) :
      observe (operation first).unlimited = observe (operation second).unlimited :=
    congrArg observe erased
  exact ⟨observed FrameLimitTracker.txEntry, observed FrameLimitTracker.frameStack,
    observed FrameLimitTracker.rex4Enabled, observed FrameLimitTracker.rex5Enabled,
    observed FrameLimitTracker.rex6Enabled⟩

theorem netUsage : first.netUsage = second.netUsage :=
  alike.same FrameLimitTracker.netUsage fun _ => rfl

theorem hasActiveFrame : first.hasActiveFrame = second.hasActiveFrame :=
  alike.same FrameLimitTracker.hasActiveFrame fun _ => congrArg Bool.not List.isEmpty_map

theorem addTxPersistent (amount : Nat) :
    (first.addTxPersistent amount).Alike (second.addTxPersistent amount) :=
  alike.map (·.addTxPersistent amount) fun _ => rfl

theorem pushFrameWithLimit (limit limit' : Nat) (info : Info) :
    (first.pushFrameWithLimit limit info).Alike (second.pushFrameWithLimit limit' info) :=
  ⟨alike.txEntry, congrArg (FrameLimitEntry.new 0 info :: ·) alike.frameStack, alike.rex4Enabled,
    alike.rex5Enabled, alike.rex6Enabled⟩

theorem pushFrame (info : Info) : (first.pushFrame info).Alike (second.pushFrame info) :=
  alike.pushFrameWithLimit _ _ info

/-- The top entries are updated by a function that ignores their limits. -/
theorem updateTop (update : FrameLimitEntry Info → FrameLimitEntry Info) (used refund : Nat)
    (addsUsed : ∀ entry, (update entry).used = entry.used + used)
    (addsRefund : ∀ entry, (update entry).refund = entry.refund + refund)
    (ignores : ∀ entry, (update entry).unlimited = update entry.unlimited) :
    (first.updateTop update used refund addsUsed addsRefund).Alike
      (second.updateTop update used refund addsUsed addsRefund) := by
  refine alike.map (·.updateTop update used refund addsUsed addsRefund) ?_
  rintro ⟨_, _ | ⟨entry, below⟩, _⟩
  · rfl
  · exact eq_of_entries rfl (congrArg (· :: _) (ignores entry)) rfl rfl rfl

theorem addFramePersistent (amount : Nat) :
    (first.addFramePersistent amount).1.Alike (second.addFramePersistent amount).1 := by
  unfold FrameLimitTracker.addFramePersistent
  dsimp only
  exact alike.updateTop _ _ _ _ _ fun _ => rfl

theorem addFrameDiscardable (amount : Nat) :
    (first.addFrameDiscardable amount).Alike (second.addFrameDiscardable amount) := by
  unfold FrameLimitTracker.addFrameDiscardable
  exact alike.updateTop _ _ _ _ _ fun _ => rfl

theorem addFrameRefund (amount : Nat) :
    (first.addFrameRefund amount).Alike (second.addFrameRefund amount) := by
  unfold FrameLimitTracker.addFrameRefund
  exact alike.updateTop _ _ _ _ _ fun _ => rfl

theorem updateInfo (update : Info → Info) :
    (first.updateInfo update).Alike (second.updateInfo update) := by
  unfold FrameLimitTracker.updateInfo
  exact alike.updateTop _ _ _ _ _ fun _ => rfl

theorem popFrame (success : Bool) :
    (first.popFrame success).1.Alike (second.popFrame success).1 := by
  refine alike.map (fun tracker => (tracker.popFrame success).1) ?_
  rintro ⟨_, _ | ⟨_, _ | _⟩, _⟩ <;> rfl

theorem addParentDiscardable (amount : Nat) :
    (first.addParentDiscardable amount).Alike (second.addParentDiscardable amount) := by
  refine alike.map (·.addParentDiscardable amount) ?_
  rintro ⟨_, _ | ⟨_, _ | _⟩, _⟩ <;> rfl

end Operations

section AccountWrites

variable {first second : FrameLimitTracker CallFrameInfo} (alike : first.Alike second)

include alike

theorem pushCallFrameInfo (info : CallFrameInfo) :
    (first.pushCallFrameInfo info).Alike (second.pushCallFrameInfo info) := by
  unfold FrameLimitTracker.pushCallFrameInfo
  rw [alike.rex4Enabled]
  split
  · exact alike.pushFrame info
  · exact alike.pushFrameWithLimit _ _ info

theorem pushDummyFrame : first.pushDummyFrame.Alike second.pushDummyFrame :=
  alike.pushCallFrameInfo _

theorem parentUnpaid : first.parentUnpaid = second.parentUnpaid := by
  refine alike.same FrameLimitTracker.parentUnpaid ?_
  rintro ⟨_, _ | _, _⟩ <;> rfl

theorem markParentPaid : first.markParentPaid.Alike second.markParentPaid := by
  unfold FrameLimitTracker.markParentPaid
  rw [alike.rex5Enabled]
  split
  · exact alike.updateInfo _
  · exact alike

theorem pushCallFrame (target : Address) (hasTransfer : Bool) :
    (first.pushCallFrame target hasTransfer).1.Alike
      (second.pushCallFrame target hasTransfer).1 ∧
      (first.pushCallFrame target hasTransfer).2 = (second.pushCallFrame target hasTransfer).2 := by
  unfold FrameLimitTracker.pushCallFrame
  rw [alike.parentUnpaid, alike.rex5Enabled]
  refine ⟨Alike.pushCallFrameInfo ?_ _, rfl⟩
  split
  · exact alike.markParentPaid
  · exact alike

theorem pushCreateFrame :
    first.pushCreateFrame.1.Alike second.pushCreateFrame.1 ∧
      first.pushCreateFrame.2 = second.pushCreateFrame.2 := by
  unfold FrameLimitTracker.pushCreateFrame
  rw [alike.parentUnpaid, alike.rex5Enabled, alike.rex6Enabled]
  refine ⟨Alike.pushCallFrameInfo ?_ _, rfl⟩
  split
  · exact alike.markParentPaid
  · exact alike

theorem popFrameUnwindParent (success : Bool) :
    (first.popFrameUnwindParent success).Alike (second.popFrameUnwindParent success) := by
  refine alike.map (·.popFrameUnwindParent success) ?_
  rintro ⟨_, _ | ⟨⟨_, _, _, _, _, _, _ | _⟩, _ | _⟩, _⟩ <;> cases success <;> rfl

theorem chargeFrameInit (cost : Nat) (input : FrameInput) :
    (first.chargeFrameInit cost input).Alike (second.chargeFrameInit cost input) := by
  cases input with
  | call inputs =>
    obtain ⟨pushed, needs⟩ := alike.pushCallFrame inputs.targetAddress inputs.transfersValue
    unfold FrameLimitTracker.chargeFrameInit
    dsimp only
    rw [needs, alike.rex6Enabled]
    split_ifs
    · exact pushed.addFrameDiscardable cost
    · exact pushed
    · exact (pushed.addFrameDiscardable cost).addFrameDiscardable cost
    · exact pushed.addFrameDiscardable cost
    · exact pushed
  | create inputs =>
    obtain ⟨pushed, needs⟩ := alike.pushCreateFrame
    unfold FrameLimitTracker.chargeFrameInit
    dsimp only
    rw [needs, alike.rex6Enabled]
    split_ifs
    · exact pushed.addParentDiscardable cost
    · exact pushed.addFrameDiscardable cost
    · exact pushed

theorem chargeCreated (cost : Nat) (address : Address) :
    (first.chargeCreated cost address).Alike (second.chargeCreated cost address) :=
  (alike.updateInfo _).addFrameDiscardable cost

theorem chargeSstore (cost : Nat) (store : SStoreResult) :
    (first.chargeSstore cost store).Alike (second.chargeSstore cost store) := by
  unfold FrameLimitTracker.chargeSstore
  split_ifs
  · exact alike
  · exact alike.addFrameDiscardable cost
  · exact alike.addFrameRefund cost
  · exact alike

end AccountWrites

end Alike

end FrameLimitTracker

namespace ComputeGasTracker

variable {first second : ComputeGasTracker} (alike : first.frameTracker.Alike second.frameTracker)

include alike

theorem alike_recordGasUsed (gas : Nat) :
    (first.recordGasUsed gas).frameTracker.Alike (second.recordGasUsed gas).frameTracker := by
  rw [recordGasUsed_eq, recordGasUsed_eq, alike.hasActiveFrame]
  split
  · exact alike.addFramePersistent gas
  · exact alike.addTxPersistent gas

theorem alike_pushFrame : first.pushFrame.frameTracker.Alike second.pushFrame.frameTracker := by
  unfold pushFrame
  rw [alike.rex4Enabled]
  split
  · exact alike.pushFrame ()
  · exact alike.pushFrameWithLimit _ _ ()

theorem alike_capCurrentFrameLimit (cap : Nat) :
    (first.capCurrentFrameLimit cap).frameTracker.Alike
      (second.capCurrentFrameLimit cap).frameTracker := by
  unfold capCurrentFrameLimit
  dsimp only
  refine alike.updateTop _ _ _ _ _ fun entry => ?_
  simp only [FrameLimitEntry.unlimited, Nat.zero_min]

end ComputeGasTracker

/-- What a frame is granted does not depend on the limits. -/
theorem StorageCallStipendTracker.alike_beforeFrameInit (tracker : StorageCallStipendTracker)
    (init : FrameInit) {first second : ComputeGasTracker}
    (alike : first.frameTracker.Alike second.frameTracker) :
    (tracker.beforeFrameInit init first).1 = (tracker.beforeFrameInit init second).1 ∧
      (tracker.beforeFrameInit init first).2.1 = (tracker.beforeFrameInit init second).2.1 ∧
      (tracker.beforeFrameInit init first).2.2.frameTracker.Alike
        (tracker.beforeFrameInit init second).2.2.frameTracker := by
  unfold beforeFrameInit
  split
  · split
    · exact ⟨rfl, rfl, alike⟩
    · cases init.input with
      | call inputs =>
        exact ⟨rfl, rfl, alike_capCurrentFrameLimit alike inputs.gasLimit⟩
      | create inputs => exact ⟨rfl, rfl, alike⟩
  · exact ⟨rfl, rfl, alike⟩

/-! ### The limits -/

namespace AdditionalLimit

/-- Exempt limits that differ in their limits only. -/
structure Alike (first second : AdditionalLimit) : Prop where
  exempt : first.hasExceededLimit = .exempt
  exempt' : second.hasExceededLimit = .exempt
  rescuedGas : first.rescuedGas = second.rescuedGas
  growthSpec : first.stateGrowth.spec = second.stateGrowth.spec
  stateGrowth : first.stateGrowth.frameTracker.Alike second.stateGrowth.frameTracker
  dataSize : first.dataSize.frameTracker.Alike second.dataSize.frameTracker
  kvUpdate : first.kvUpdate.frameTracker.Alike second.kvUpdate.frameTracker
  computeGas : first.computeGas.frameTracker.Alike second.computeGas.frameTracker
  storageCallStipend : first.storageCallStipend = second.storageCallStipend

section Exempt

variable {limit : AdditionalLimit} (exempt : limit.hasExceededLimit = .exempt)

include exempt

/-- No check changes exempt limits. -/
theorem checkLimit_of_exempt : limit.checkLimit = limit :=
  checkLimit_of_latched (congrArg isWithinLimit exempt)

theorem limitExceeded_of_exempt : limit.limitExceeded = false :=
  congrArg exceededLimit exempt

/-- Compute gas is recorded on exempt limits, and the transaction goes on. -/
theorem recordComputeGas_of_exempt (gas : Nat) :
    limit.recordComputeGas gas =
      ({ limit with computeGas := limit.computeGas.recordGasUsed gas }, true) := by
  have notWithin : limit.hasExceededLimit.isWithinLimit = false :=
    congrArg isWithinLimit exempt
  have notExceeded : limit.hasExceededLimit.exceededLimit = false := limitExceeded_of_exempt exempt
  unfold recordComputeGas
  dsimp only
  rw [notWithin, notExceeded, if_neg Bool.false_ne_true]
  rfl

theorem tryRescueGas_of_exempt (gas : Gas) : limit.tryRescueGas gas = limit := by
  unfold tryRescueGas
  dsimp only
  rw [checkLimit_of_exempt exempt, limitExceeded_of_exempt exempt]
  rfl

theorem frameResultIfExceedingLimit_of_exempt (input : FrameInput) :
    limit.frameResultIfExceedingLimit input = (limit, none) := by
  unfold frameResultIfExceedingLimit
  rw [limitExceeded_of_exempt exempt, if_neg Bool.false_ne_true]

theorem beforeFrameInit_of_exempt (journal : JournalInspect) (init : FrameInit) :
    limit.beforeFrameInit journal init =
      (limit.stateGrowth.beforeFrameInit journal init.input).map fun growth =>
        (limit.pushedFrame init growth, limit.grantedInit init, none) := by
  unfold beforeFrameInit
  refine congrArg (fun start => (limit.stateGrowth.beforeFrameInit journal init.input).map start) ?_
  funext growth
  have pushedExempt : (limit.pushedFrame init growth).hasExceededLimit = .exempt := exempt
  show (if (limit.pushedFrame init growth).checkLimit.limitExceeded then _ else
    ((limit.pushedFrame init growth).checkLimit, limit.grantedInit init, none)) = _
  rw [checkLimit_of_exempt pushedExempt, limitExceeded_of_exempt pushedExempt,
    if_neg Bool.false_ne_true]

theorem beforeFrameRun_of_exempt (gas : Gas) : limit.beforeFrameRun gas = (limit, none) := by
  unfold beforeFrameRun
  dsimp only
  rw [checkLimit_of_exempt exempt, limitExceeded_of_exempt exempt, if_neg Bool.false_ne_true]

theorem afterFrameRunInstructions_of_exempt (isCreate : Bool) (result : InterpreterResult) :
    limit.afterFrameRunInstructions isCreate result =
      ({ limit with dataSize := limit.dataSize.afterFrameRun isCreate result.output.length },
        result) := by
  have counted : ({ limit with
      dataSize := limit.dataSize.afterFrameRun isCreate result.output.length } :
        AdditionalLimit).hasExceededLimit = .exempt := exempt
  unfold afterFrameRunInstructions
  dsimp only
  rw [checkLimit_of_exempt counted, limitExceeded_of_exempt counted, if_neg Bool.false_ne_true]
  split <;> rfl

theorem afterFrameRun_of_exempt (result : FrameResult) (gasRemainingBefore : Option Nat) :
    limit.afterFrameRun result gasRemainingBefore =
      (match gasRemainingBefore with
      | some before =>
        { limit with
          computeGas := limit.computeGas.recordGasUsed (before - result.gas.remaining) }
      | none => limit, result) := by
  unfold afterFrameRun
  cases gasRemainingBefore with
  | none =>
    dsimp only
    rw [tryRescueGas_of_exempt exempt]
  | some before =>
    have recorded : ({ limit with
        computeGas := limit.computeGas.recordGasUsed (before - result.gas.remaining) } :
          AdditionalLimit).hasExceededLimit = .exempt := exempt
    dsimp only
    rw [recordComputeGas_of_exempt exempt]
    rw [tryRescueGas_of_exempt recorded]

theorem beforeFrameReturnResult_of_exempt (lastFrame : Bool) (result : FrameResult) :
    limit.beforeFrameReturnResult lastFrame result =
      (limit.poppedFrame result, limit.burnedResult result) := by
  have popped : (limit.poppedFrame result).hasExceededLimit = .exempt := exempt
  show (if (limit.poppedFrame result).checkLimit.limitExceeded &&
      !(lastFrame && !limit.dataSize.hasActiveFrame) then _ else
    ((limit.poppedFrame result).checkLimit, limit.burnedResult result)) = _
  rw [checkLimit_of_exempt popped, limitExceeded_of_exempt popped, Bool.false_and,
    if_neg Bool.false_ne_true]

end Exempt

/-- What a transaction starts with, apart from the limits, is fixed by the specification. -/
theorem alike_markExempt_beforeTxStart {first second : AdditionalLimit} {spec : MegaSpecId}
    {limits limits' : EvmTxRuntimeLimits} (setup : first.setup = (new spec limits).setup)
    (setup' : second.setup = (new spec limits').setup) (tx : MegaTransaction) :
    (first.reset.beforeTxStart tx).markExempt.Alike
      (second.reset.beforeTxStart tx).markExempt := by
  have same {Value : Type} (observe : LimitSetup → Value)
      (fixed : observe (new spec limits).setup = observe (new spec limits').setup) :
      observe first.setup = observe second.setup := by
    rw [setup, fixed, setup']
  have dataSize : first.dataSize.reset.frameTracker.Alike second.dataSize.reset.frameTracker :=
    ⟨rfl, rfl, same (·.dataSize.rex4Enabled) rfl, same (·.dataSize.rex5Enabled) rfl,
      same (·.dataSize.rex6Enabled) rfl⟩
  have kvUpdate : first.kvUpdate.reset.frameTracker.Alike second.kvUpdate.reset.frameTracker :=
    ⟨rfl, rfl, same (·.kvUpdate.rex4Enabled) rfl, same (·.kvUpdate.rex5Enabled) rfl,
      same (·.kvUpdate.rex6Enabled) rfl⟩
  have stipend : first.storageCallStipend.reset = second.storageCallStipend.reset := by
    unfold StorageCallStipendTracker.reset
    rw [show first.storageCallStipend.stipendAmount = second.storageCallStipend.stipendAmount from
      same (·.stipendAmount) rfl, show first.storageCallStipend.rex5Enabled =
      second.storageCallStipend.rex5Enabled from same (·.stipendRex5) rfl]
  obtain ⟨verdict, equation⟩ := checkLimit_eq
    { first.reset with
      dataSize := first.reset.dataSize.beforeTxStart tx
      kvUpdate := first.reset.kvUpdate.beforeTxStart tx }
  obtain ⟨verdict', equation'⟩ := checkLimit_eq
    { second.reset with
      dataSize := second.reset.dataSize.beforeTxStart tx
      kvUpdate := second.reset.kvUpdate.beforeTxStart tx }
  unfold beforeTxStart
  rw [equation, equation']
  refine
    { exempt := rfl
      exempt' := rfl
      rescuedGas := rfl
      growthSpec := same (·.growthSpec) rfl
      stateGrowth := ⟨rfl, rfl, same (·.stateGrowth.rex4Enabled) rfl,
        same (·.stateGrowth.rex5Enabled) rfl, same (·.stateGrowth.rex6Enabled) rfl⟩
      dataSize := ?_
      kvUpdate := ?_
      computeGas := ⟨rfl, rfl, same (·.computeGas.rex4Enabled) rfl,
        same (·.computeGas.rex5Enabled) rfl, same (·.computeGas.rex6Enabled) rfl⟩
      storageCallStipend := stipend }
  · show (first.dataSize.reset.beforeTxStart tx).frameTracker.Alike
      (second.dataSize.reset.beforeTxStart tx).frameTracker
    unfold DataSizeTracker.beforeTxStart
    rw [show first.dataSize.reset.frameTracker.rex6Enabled =
      second.dataSize.reset.frameTracker.rex6Enabled from dataSize.rex6Enabled]
    split
    · exact (dataSize.addTxPersistent _).addTxPersistent _
    · exact ((dataSize.addTxPersistent _).addTxPersistent _).addTxPersistent _
  · show (first.kvUpdate.reset.beforeTxStart tx).frameTracker.Alike
      (second.kvUpdate.reset.beforeTxStart tx).frameTracker
    unfold KVUpdateTracker.beforeTxStart
    rw [show first.kvUpdate.reset.frameTracker.rex6Enabled =
      second.kvUpdate.reset.frameTracker.rex6Enabled from kvUpdate.rex6Enabled]
    split
    · exact kvUpdate.addTxPersistent _
    · exact (kvUpdate.addTxPersistent _).addTxPersistent _

namespace Alike

variable {first second : AdditionalLimit} (alike : first.Alike second)

include alike

/-- Limits that are alike report the same usage. -/
theorem getUsage : first.getUsage = second.getUsage := by
  unfold AdditionalLimit.getUsage DataSizeTracker.txUsage KVUpdateTracker.txUsage
    ComputeGasTracker.txUsage StateGrowthTracker.txUsage
  rw [alike.dataSize.netUsage, alike.kvUpdate.netUsage, alike.computeGas.netUsage,
    alike.stateGrowth.netUsage]

theorem checkLimit : first.checkLimit.Alike second.checkLimit := by
  rw [checkLimit_of_exempt alike.exempt, checkLimit_of_exempt alike.exempt']
  exact alike

/-- Detention changes a limit only, so the caps need not be the same. -/
theorem setComputeGasLimit_left (cap : Nat) : (first.setComputeGasLimit cap).Alike second :=
  { alike with }

theorem setComputeGasLimit_right (cap : Nat) : first.Alike (second.setComputeGasLimit cap) :=
  { alike with }

theorem recordComputeGas (gas : Nat) :
    (first.recordComputeGas gas).1.Alike (second.recordComputeGas gas).1 := by
  rw [recordComputeGas_of_exempt alike.exempt, recordComputeGas_of_exempt alike.exempt']
  exact { alike with computeGas := alike_recordGasUsed alike.computeGas gas }

theorem recordComputeGasAllDims (gas : Nat) :
    (first.recordComputeGasAllDims gas).1.Alike (second.recordComputeGasAllDims gas).1 :=
  checkLimit
    { alike with computeGas := alike_recordGasUsed alike.computeGas gas }

theorem rescueGas (gas : Gas) : (first.rescueGas gas).Alike (second.rescueGas gas) := by
  refine { alike with rescuedGas := ?_ }
  show first.rescuedGas + _ = second.rescuedGas + _
  rw [alike.rescuedGas, alike.storageCallStipend]

variable (result : FrameResult) (init : FrameInit) (amount : Nat)

theorem tryConsumeStorageStipend :
    (first.tryConsumeStorageStipend amount).1.Alike (second.tryConsumeStorageStipend amount).1 ∧
      (first.tryConsumeStorageStipend amount).2 = (second.tryConsumeStorageStipend amount).2 := by
  unfold AdditionalLimit.tryConsumeStorageStipend
  rw [alike.storageCallStipend]
  exact ⟨{ alike with storageCallStipend := rfl }, rfl⟩

theorem onRex5Eip7702AuthorityCreations :
    (first.onRex5Eip7702AuthorityCreations amount).Alike
      (second.onRex5Eip7702AuthorityCreations amount) :=
  checkLimit { alike with stateGrowth := alike.stateGrowth.addTxPersistent amount }

theorem onRex6Eip7702AuthorityApplied (createsAuthority : Bool) :
    (first.onRex6Eip7702AuthorityApplied createsAuthority).Alike
      (second.onRex6Eip7702AuthorityApplied createsAuthority) := by
  have dataSize := alike.dataSize.addTxPersistent accountInfoWriteSize
  have kvUpdate := alike.kvUpdate.addTxPersistent 1
  refine checkLimit ?_
  cases createsAuthority with
  | true =>
    exact { alike with dataSize, kvUpdate, stateGrowth := alike.stateGrowth.addTxPersistent 1 }
  | false => exact { alike with dataSize, kvUpdate }

theorem recordDepositCallerCreation :
    first.recordDepositCallerCreation.Alike second.recordDepositCallerCreation :=
  checkLimit { alike with stateGrowth := alike.stateGrowth.addTxPersistent 1 }

theorem recordOracleHintBytes (length : Nat) :
    (first.recordOracleHintBytes length).Alike (second.recordOracleHintBytes length) :=
  checkLimit { alike with dataSize := alike.dataSize.addTxPersistent length }

theorem mergeUsage (usage : LimitUsage) :
    (first.mergeUsage usage).Alike (second.mergeUsage usage) :=
  { alike with
    stateGrowth := alike.stateGrowth.addTxPersistent usage.stateGrowth
    dataSize := alike.dataSize.addTxPersistent usage.dataSize
    kvUpdate := alike.kvUpdate.addTxPersistent usage.kvUpdates
    computeGas := alike.computeGas.addTxPersistent usage.computeGas }

theorem pushGrowthFrame :
    first.stateGrowth.pushFrame.frameTracker.Alike second.stateGrowth.pushFrame.frameTracker := by
  unfold StateGrowthTracker.pushFrame
  rw [alike.growthSpec]
  split
  · exact alike.stateGrowth.pushFrame ()
  · exact alike.stateGrowth.pushFrameWithLimit _ _ ()

theorem pushEmptyFrame : first.pushEmptyFrame.Alike second.pushEmptyFrame :=
  { alike with
    stateGrowth := alike.pushGrowthFrame
    dataSize := alike.dataSize.pushDummyFrame
    kvUpdate := alike.kvUpdate.pushDummyFrame
    computeGas := alike_pushFrame alike.computeGas
    storageCallStipend :=
      congrArg StorageCallStipendTracker.pushEmptyFrame alike.storageCallStipend }

theorem grantedInit : first.grantedInit init = second.grantedInit init := by
  unfold AdditionalLimit.grantedInit
  rw [alike.storageCallStipend]
  exact (alike_beforeFrameInit _ init (alike_pushFrame alike.computeGas)).2.1

theorem pushedFrame {growth growth' : StateGrowthTracker} (spec : growth.spec = growth'.spec)
    (grown : growth.frameTracker.Alike growth'.frameTracker) :
    (first.pushedFrame init growth).Alike (second.pushedFrame init growth') := by
  obtain ⟨stipend, -, computeGas⟩ :=
    alike_beforeFrameInit second.storageCallStipend init
      (alike_pushFrame alike.computeGas)
  unfold AdditionalLimit.pushedFrame
  rw [alike.storageCallStipend]
  exact
    { alike with
      growthSpec := spec
      stateGrowth := grown
      dataSize := alike.dataSize.chargeFrameInit accountInfoWriteSize init.input
      kvUpdate := alike.kvUpdate.chargeFrameInit 1 init.input
      computeGas
      storageCallStipend := stipend }

/-- The account a frame materialises is counted, or the inspection fails, in both. -/
theorem beforeFrameInit_stateGrowth (journal : JournalInspect) (input : FrameInput) :
    Option.Rel
      (fun growth growth' =>
        growth.spec = growth'.spec ∧ growth.frameTracker.Alike growth'.frameTracker)
      (first.stateGrowth.beforeFrameInit journal input)
      (second.stateGrowth.beforeFrameInit journal input) := by
  have pushed := alike.pushGrowthFrame
  have counted : ∀ account : Account, Option.Rel
      (fun growth growth' : StateGrowthTracker =>
        growth.spec = growth'.spec ∧ growth.frameTracker.Alike growth'.frameTracker)
      (some (if account.isEmpty then first.stateGrowth.pushFrame.recordGrowth 1
        else first.stateGrowth.pushFrame))
      (some (if account.isEmpty then second.stateGrowth.pushFrame.recordGrowth 1
        else second.stateGrowth.pushFrame)) := by
    intro account
    split
    · exact .some ⟨alike.growthSpec, pushed.addFrameDiscardable 1⟩
    · exact .some ⟨alike.growthSpec, pushed⟩
  cases input with
  | call inputs =>
    unfold StateGrowthTracker.beforeFrameInit
    rw [alike.growthSpec]
    dsimp only
    split
    · generalize (if second.stateGrowth.spec.isEnabled .rex5 then _ else _) = inspected
      cases inspected with
      | none => exact .none
      | some account => exact counted account
    · exact .some ⟨alike.growthSpec, pushed⟩
  | create inputs =>
    unfold StateGrowthTracker.beforeFrameInit
    rw [alike.growthSpec]
    dsimp only
    split
    · cases journal.inspectAccount inputs.caller with
      | none => exact .none
      | some caller =>
        rw [Option.bind_some, Option.bind_some]
        cases journal.inspectAccount (inputs.createdAddress caller.info.nonce) with
        | none => exact .none
        | some account => exact counted account
    · exact .some ⟨alike.growthSpec, pushed.addFrameDiscardable 1⟩

theorem afterFrameInit (made : FrameInitResult) :
    (first.afterFrameInit made).Alike (second.afterFrameInit made) := by
  cases made with
  | item created =>
    cases created with
    | none => exact { alike with }
    | some address =>
      exact
        { alike with
          dataSize := alike.dataSize.chargeCreated accountInfoWriteSize address
          kvUpdate := alike.kvUpdate.chargeCreated 1 address }
  | result frameResult =>
    show (first.tryRescueGas _).Alike (second.tryRescueGas _)
    rw [tryRescueGas_of_exempt alike.exempt, tryRescueGas_of_exempt alike.exempt']
    exact alike

theorem afterFrameRunInstructions (isCreate : Bool) (result : InterpreterResult) :
    (first.afterFrameRunInstructions isCreate result).1.Alike
      (second.afterFrameRunInstructions isCreate result).1 := by
  rw [afterFrameRunInstructions_of_exempt alike.exempt,
    afterFrameRunInstructions_of_exempt alike.exempt']
  cases isCreate with
  | false => exact { alike with }
  | true => exact { alike with dataSize := alike.dataSize.addFrameDiscardable _ }

theorem afterFrameRun (gasRemainingBefore : Option Nat) :
    (first.afterFrameRun result gasRemainingBefore).1.Alike
      (second.afterFrameRun result gasRemainingBefore).1 := by
  rw [afterFrameRun_of_exempt alike.exempt, afterFrameRun_of_exempt alike.exempt']
  cases gasRemainingBefore with
  | none => exact alike
  | some before =>
    exact { alike with computeGas := alike_recordGasUsed alike.computeGas _ }

theorem poppedFrame : (first.poppedFrame result).Alike (second.poppedFrame result) :=
  { alike with
    stateGrowth := alike.stateGrowth.popFrame _
    dataSize := alike.dataSize.popFrameUnwindParent _
    kvUpdate := alike.kvUpdate.popFrameUnwindParent _
    computeGas := alike.computeGas.popFrame _
    storageCallStipend :=
      congrArg (fun tracker => (StorageCallStipendTracker.beforeFrameReturnResult tracker result).1)
        alike.storageCallStipend }

theorem burnedResult : first.burnedResult result = second.burnedResult result :=
  congrArg (fun tracker => (StorageCallStipendTracker.beforeFrameReturnResult tracker result).2)
    alike.storageCallStipend

theorem onSstore (store : SStoreResult) : (first.onSstore store).Alike (second.onSstore store) := by
  refine checkLimit ?_
  have dataSize := alike.dataSize.chargeSstore storageSlotWriteSize store
  have kvUpdate := alike.kvUpdate.chargeSstore 1 store
  unfold StateGrowthTracker.afterSstore
  split
  · exact { alike with dataSize, kvUpdate, stateGrowth := alike.stateGrowth.addFrameDiscardable 1 }
  · exact { alike with dataSize, kvUpdate, stateGrowth := alike.stateGrowth.addFrameRefund 1 }
  · exact { alike with dataSize, kvUpdate }

theorem onLog (topics length : Nat) :
    (first.onLog topics length).Alike (second.onLog topics length) := by
  refine checkLimit ?_
  unfold DataSizeTracker.afterLog
  rw [alike.dataSize.rex6Enabled]
  exact { alike with dataSize := alike.dataSize.addFrameDiscardable _ }

theorem onSelfdestruct (refund : Nat) :
    (first.onSelfdestruct refund).Alike (second.onSelfdestruct refund) :=
  { alike with stateGrowth := alike.stateGrowth.addFrameRefund refund }

theorem onSelfdestructNewAccount :
    first.onSelfdestructNewAccount.Alike second.onSelfdestructNewAccount :=
  { alike with
    dataSize := alike.dataSize.addFrameDiscardable _
    kvUpdate := alike.kvUpdate.addFrameDiscardable 1
    stateGrowth := alike.stateGrowth.addFrameDiscardable 1 }

theorem onSelfdestructExistingAccount :
    first.onSelfdestructExistingAccount.Alike second.onSelfdestructExistingAccount :=
  { alike with
    dataSize := alike.dataSize.addFrameDiscardable _
    kvUpdate := alike.kvUpdate.addFrameDiscardable 1 }

end Alike

end AdditionalLimit

end MegaEvm
