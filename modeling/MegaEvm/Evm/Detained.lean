/-
This file says what a latched exceed of the transaction's compute gas names: the limit in
force when it was latched stays the limit in force. Compute gas is never taken back, so the
usage stays over that limit, and from Rex4 on the cap of a detained transaction counts from
what it has used, so that no later access lowers it any more.
-/

import MegaEvm.Evm.Recorded

namespace MegaEvm

open AdditionalLimit FrameLimitTracker ComputeGasTracker

/-! ### Trackers -/

namespace FrameLimitTracker

variable {Info : Type} {tracker : FrameLimitTracker Info}

variable {kind found : LimitKind}

/-- An exceed of a frame is one of the dimension that is checked. -/
theorem kind_exceedsCurrentFrameLimit {bound used : Nat} {frameLocal : Bool}
    (exceeds : tracker.exceedsCurrentFrameLimit kind = .exceedsLimit found bound used frameLocal) :
    found = kind := by
  unfold exceedsCurrentFrameLimit at exceeds
  split at exceeds
  · split at exceeds
    · cases exceeds
      rfl
    · cases exceeds
  · cases exceeds

theorem kind_checkAgainst {limit bound used : Nat} {frameLocal : Bool}
    (exceeds : tracker.checkAgainst kind limit = .exceedsLimit found bound used frameLocal) :
    found = kind := by
  unfold checkAgainst at exceeds
  dsimp only at exceeds
  split at exceeds
  · exact kind_exceedsCurrentFrameLimit exceeds
  · split at exceeds
    · cases exceeds
      rfl
    · cases exceeds

end FrameLimitTracker

theorem StateGrowthTracker.kind_checkLimit {tracker : StateGrowthTracker} {found : LimitKind}
    {bound used : Nat} {frameLocal : Bool}
    (exceeds : tracker.checkLimit = .exceedsLimit found bound used frameLocal) :
    found = .stateGrowth := by
  unfold checkLimit at exceeds
  dsimp only at exceeds
  split at exceeds
  · exact kind_exceedsCurrentFrameLimit exceeds
  · split at exceeds
    · cases exceeds
      rfl
    · cases exceeds

namespace ComputeGasTracker

variable {tracker next : ComputeGasTracker} {bound : Nat}

/-- The usage is over the limit in force, which is the bound. -/
structure Over (tracker : ComputeGasTracker) (bound : Nat) : Prop where
  inForce : tracker.txLimit = bound
  exceeded : bound < tracker.txUsage

/-- An exceed of the transaction that a check finds names the limit in force. -/
theorem over_of_checkLimit {kind : LimitKind} {used : Nat}
    (found : tracker.checkLimit = .exceedsLimit kind bound used false) : tracker.Over bound := by
  have exceeded := tracker.frameTracker.isTxExceed_checkAgainst ⟨kind, bound, used, found⟩
  unfold checkLimit checkAgainst at found
  dsimp only at found
  split at found
  · unfold exceedsCurrentFrameLimit at found
    split at found
    · split at found <;> cases found
    · cases found
  · cases found
    exact ⟨rfl, exceeded⟩

theorem Over.setDetainedLimit (overrun : tracker.Over bound)
    (rex4 : tracker.frameTracker.rex4Enabled = true) (fits : tracker.frameTracker.txLimit ≤ u64Max)
    (cap : Nat) : (tracker.setDetainedLimit cap).Over bound := by
  obtain ⟨inForce, exceeded⟩ := overrun
  refine ⟨?_, exceeded⟩
  unfold ComputeGasTracker.setDetainedLimit
  rw [txLimit] at inForce ⊢
  rw [rex4, if_pos rfl]
  show min tracker.frameTracker.txLimit
    (min tracker.detainedLimit (min (tracker.txUsage + cap) u64Max)) = bound
  omega

/-- The tracker stays over the limit when its usage does not shrink. -/
theorem Over.of_grown (overrun : tracker.Over bound) {amount more : Int}
    (holds : tracker.Holds amount) (holdsMore : next.Holds more) (grows : amount ≤ more)
    (sameLimit : next.frameTracker.txLimit = tracker.frameTracker.txLimit)
    (sameDetained : next.detainedLimit = tracker.detainedLimit) : next.Over bound := by
  refine ⟨?_, ?_⟩
  · rw [txLimit, sameLimit, sameDetained]
    exact overrun.inForce
  · have before := holds.txUsage_eq
    have after := holdsMore.txUsage_eq
    have exceeded := overrun.exceeded
    omega

end ComputeGasTracker

/-! ### The limits -/

namespace AdditionalLimit

/-- An exceed of the transaction's compute gas that is latched names the limit in force. -/
structure NamesLimit (setup : LimitSetup) (limit : AdditionalLimit) : Prop where
  sameSetup : limit.setup = setup
  holds : ∃ amount, limit.computeGas.Holds amount
  overrun : ∀ bound used, limit.hasExceededLimit = .exceedsLimit .computeGas bound used false →
    limit.computeGas.Over bound

variable {setup : LimitSetup} {limit next : AdditionalLimit}

/-- A check of another dimension names that one. -/
theorem computeGas_of_firstExceed {bound used : Nat} {frameLocal : Bool}
    (found : limit.firstExceed = .exceedsLimit .computeGas bound used frameLocal) :
    limit.computeGas.checkLimit = .exceedsLimit .computeGas bound used frameLocal := by
  unfold firstExceed at found
  split at found
  · cases kind_checkAgainst found
  split at found
  · cases kind_checkAgainst found
  split at found
  · exact found
  split at found
  · cases StateGrowthTracker.kind_checkLimit found
  · cases found

namespace NamesLimit

variable (names : limit.NamesLimit setup)

include names

/-- A hook that latches nothing and takes no compute gas back. -/
theorem of_grown (sameSetup : next.setup = limit.setup)
    (sameVerdict : next.hasExceededLimit = limit.hasExceededLimit)
    (sameDetained : next.computeGas.detainedLimit = limit.computeGas.detainedLimit)
    (grows : ∀ amount, limit.computeGas.Holds amount →
      ∃ more, amount ≤ more ∧ next.computeGas.Holds more) : next.NamesLimit setup := by
  obtain ⟨amount, holds⟩ := names.holds
  obtain ⟨more, grown, holdsMore⟩ := grows amount holds
  refine ⟨sameSetup.trans names.sameSetup, ⟨more, holdsMore⟩, fun bound used verdict => ?_⟩
  have overrun := names.overrun bound used (sameVerdict.symm.trans verdict)
  exact overrun.of_grown holds holdsMore grown
    (congrArg (fun made : LimitSetup => made.computeGas.txLimit) sameSetup) sameDetained

/-- A hook that leaves the compute gas and the verdict as they are. -/
theorem of_same (sameSetup : next.setup = limit.setup)
    (sameVerdict : next.hasExceededLimit = limit.hasExceededLimit)
    (sameGas : next.computeGas = limit.computeGas) : next.NamesLimit setup :=
  names.of_grown sameSetup sameVerdict (congrArg _ sameGas)
    fun amount holds => ⟨amount, Int.le_refl amount, sameGas ▸ holds⟩

theorem checkLimit : limit.checkLimit.NamesLimit setup := by
  refine ⟨limit.moves_checkLimit.setup.trans names.sameSetup, ?_, ?_⟩
  · rw [checkLimit_computeGas]
    exact names.holds
  · rw [checkLimit_computeGas]
    intro bound used verdict
    cases within : limit.hasExceededLimit.isWithinLimit with
    | true =>
      rw [checkLimit_of_within within] at verdict
      exact over_of_checkLimit (computeGas_of_firstExceed verdict)
    | false =>
      rw [checkLimit_of_latched within] at verdict
      exact names.overrun bound used verdict

theorem recorded (gas : Nat) :
    NamesLimit setup { limit with computeGas := limit.computeGas.recordGasUsed gas } := by
  have moves : limit.Moves id { limit with computeGas := limit.computeGas.recordGasUsed gas } :=
    { Moves.refl limit with computeGas := limit.computeGas.moves_recordGasUsed gas }
  exact names.of_grown moves.setup rfl (by rw [recordGasUsed_eq])
    fun amount holds => ⟨amount + gas, by omega, holds.recordGasUsed gas⟩

theorem recordComputeGas (gas : Nat) : (limit.recordComputeGas gas).1.NamesLimit setup := by
  have charged := names.recorded gas
  unfold AdditionalLimit.recordComputeGas
  dsimp only
  split
  · split
    · next exceeded =>
      refine ⟨charged.sameSetup, charged.holds, fun bound used verdict => ?_⟩
      exact over_of_checkLimit verdict
    · exact charged
  · exact charged

theorem setComputeGasLimit (detainable : Execution.Detainable setup) (cap : Nat) :
    (limit.setComputeGasLimit cap).NamesLimit setup := by
  obtain ⟨sameSetup, ⟨amount, holds⟩, overrun⟩ := names
  obtain ⟨rex4, fits⟩ := detainable.of_setup sameSetup
  exact ⟨sameSetup, ⟨amount, holds.setDetainedLimit cap⟩, fun bound used verdict =>
    (overrun bound used verdict).setDetainedLimit rex4 fits cap⟩

theorem recordComputeGasAllDims (gas : Nat) :
    (limit.recordComputeGasAllDims gas).1.NamesLimit setup :=
  (names.recorded gas).checkLimit

/-- A hook that records other usage and checks. -/
theorem of_checked {recorded : AdditionalLimit}
    (sameSetup : recorded.checkLimit.setup = limit.setup)
    (sameVerdict : recorded.hasExceededLimit = limit.hasExceededLimit)
    (sameGas : recorded.computeGas = limit.computeGas) : recorded.checkLimit.NamesLimit setup :=
  (names.of_same (recorded.moves_checkLimit.setup.symm.trans sameSetup) sameVerdict
    sameGas).checkLimit

/-- A frame is pushed without changing the compute gas of the transaction. -/
theorem pushEmptyFrame : limit.pushEmptyFrame.NamesLimit setup :=
  names.of_grown limit.moves_pushEmptyFrame.setup rfl
    (by rw [AdditionalLimit.pushEmptyFrame, ComputeGasTracker.pushFrame])
    fun amount holds => ⟨amount, Int.le_refl amount, holds.pushFrame⟩

theorem pushedFrame {journal : JournalInspect} {init : FrameInit} {growth : StateGrowthTracker}
    (grown : limit.stateGrowth.beforeFrameInit journal init.input = some growth) :
    (limit.pushedFrame init growth).NamesLimit setup := by
  refine names.of_grown (moves_pushedFrame grown).setup rfl ?_
    fun amount holds => ⟨amount, Int.le_refl amount, holds_pushedFrame holds init growth⟩
  unfold AdditionalLimit.pushedFrame StorageCallStipendTracker.beforeFrameInit
  dsimp only
  split
  · split
    · rfl
    · cases init.input <;> rfl
  · rfl

/-- A frame returns: its exceed is absorbed, one of the transaction stays latched. -/
theorem beforeFrameReturnResult (lastFrame : Bool) (result : FrameResult) :
    (limit.beforeFrameReturnResult lastFrame result).1.NamesLimit setup := by
  have popped : (limit.poppedFrame result).NamesLimit setup :=
    names.of_grown (limit.moves_poppedFrame result).setup rfl rfl
      fun amount holds => ⟨amount, Int.le_refl amount, holds.beforeFrameReturnResult _⟩
  have checked := popped.checkLimit
  obtain equation | equation := limit.beforeFrameReturnResult_cases lastFrame result <;>
    rw [equation]
  · exact checked
  · exact ⟨checked.sameSetup, checked.holds, nofun⟩

theorem afterFrameRunInstructions (isCreate : Bool) (result : InterpreterResult) :
    (limit.afterFrameRunInstructions isCreate result).1.NamesLimit setup := by
  have sameSetup := (limit.moves_afterFrameRunInstructions isCreate result).setup
  obtain equation | equation := limit.afterFrameRunInstructions_cases isCreate result <;>
    rw [equation] at sameSetup ⊢
  · exact names
  · exact names.of_checked sameSetup rfl rfl

theorem mergeUsage (usage : LimitUsage) : (limit.mergeUsage usage).NamesLimit setup :=
  names.of_grown (limit.moves_mergeUsage usage).setup rfl rfl
    fun amount holds => ⟨amount + usage.computeGas, by omega,
      holds.mergePersistentUsage usage.computeGas⟩

end NamesLimit

end AdditionalLimit

/-! ### Runs -/

namespace Execution

variable {config : EvmConfig} {state next : Execution} {event : Event} {setup : LimitSetup}

theorem namesLimit_steady (detainable : Detainable setup) :
    SteadyInvariant fun meter => meter.limit.NamesLimit setup where
  check names := names.checkLimit
  detain cap names := names.setComputeGasLimit detainable cap
  record charge names := names.recordComputeGas charge.gas
  recordAll charge names := names.recordComputeGasAllDims charge.gas
  storage _ names := names
  stipend amount names :=
    names.of_same (moves_tryConsumeStorageStipend _ amount).setup rfl rfl
  settle isCreate result names := names.afterFrameRunInstructions isCreate result
  sstore store names := names.of_checked (moves_onSstore _ store).setup rfl rfl
  log topics length names :=
    names.of_checked (moves_onLog _ topics length).setup rfl rfl
  refund amount names := names.of_same (moves_onSelfdestruct _ amount).setup rfl rfl
  created names := names.of_same (moves_onSelfdestructNewAccount _).setup rfl rfl
  credited names := names.of_same (moves_onSelfdestructExistingAccount _).setup rfl rfl
  authority creates names :=
    names.of_checked (moves_onRex6Eip7702AuthorityApplied _ creates).setup rfl rfl
  creations amount names :=
    names.of_checked (moves_onRex5Eip7702AuthorityCreations _ amount).setup rfl rfl
  caller names := names.of_checked (moves_recordDepositCallerCreation _).setup rfl rfl
  hint length names :=
    names.of_checked (moves_recordOracleHintBytes _ length).setup rfl rfl
  merge usage names := names.mergeUsage usage
  rescue _ names := names.of_same rfl rfl rfl
  pushEmpty names := names.pushEmptyFrame
  push grown names := names.pushedFrame grown
  make created names := by
    refine names.of_same (moves_afterFrameInit _ created).setup ?_ ?_ <;>
      cases created <;> rfl
  reward created names :=
    names.of_same ((setup_steady _).reward created rfl) rfl rfl

theorem namesLimit_transition (detainable : Detainable setup)
    (names : state.meter.limit.NamesLimit setup) (moves : Transition config state event next) :
    next.meter.limit.NamesLimit setup := by
  refine (namesLimit_steady detainable).transition moves names (fun tx _ => ?_) (fun _ _ => names)
    (fun _ _ _ => ⟨names.sameSetup, names.holds, nofun⟩) fun _ => names.beforeFrameReturnResult
  have fresh : state.meter.limit.reset.NamesLimit setup :=
    ⟨names.sameSetup, ⟨0, ComputeGasTracker.Holds.reset _⟩, nofun⟩
  exact fresh.of_checked (moves_beforeTxStart _ tx).setup rfl rfl

/-- In every reachable state an exceed of the transaction's compute gas names the limit in force. -/
theorem namesLimit_of_run {limits : EvmTxRuntimeLimits} {events : List Event}
    (rex4 : config.spec.isEnabled .rex4 = true) (bounded : limits.txComputeGasLimit ≤ u64Max)
    (ran : Reaches config limits events state) :
    state.meter.limit.NamesLimit (AdditionalLimit.new config.spec limits).setup := by
  have detainable : Detainable (new config.spec limits).setup := ⟨rex4, bounded⟩
  refine @Library.run_invariant _ _ (step config)
    (fun reached => reached.meter.limit.NamesLimit (new config.spec limits).setup)
    (fun _ _ _ names stepped => namesLimit_transition detainable names (transition_of_step stepped))
    (initial config limits) _ _ ⟨rfl, ⟨0, rfl, nofun, rfl⟩, nofun⟩ ran

end Execution

end MegaEvm
