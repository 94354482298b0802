/-
This file proves that a transaction is never over its limit on compute gas by more than
the last recording, from Rex4 on. Compute gas survives reverts, so what a frame recorded
beyond its budget stays in the total of the transaction; but every recording is made on a
total that a check found within the limit, whichever frames were absorbed as reverts in
between. A transaction that is exempt from the limits is the exception.
-/

import MegaEvm.Evm.Outcomes

namespace MegaEvm

open AdditionalLimit LimitCheck Meter

/-! ### The last recording -/

namespace Meter

/-- The last recording that was not empty. -/
def lastCharge (meter : Meter) : Nat :=
  ((meter.charges.map ComputeCharge.gas).find? fun gas => decide (0 < gas)).getD 0

variable {meter next : Meter} {charge : ComputeCharge}
  (charges : next.charges = charge :: meter.charges)

include charges

theorem lastCharge_cons :
    next.lastCharge = if 0 < charge.gas then charge.gas else meter.lastCharge := by
  rw [lastCharge, charges, List.map_cons, List.find?_cons]
  split <;> simp_all [lastCharge]

/-- A recording on usage within the limit takes it over by at most what was recorded. -/
theorem overshootsBy_lastCharge (recorded : next.limit.computeGas.OvershootsBy charge.gas) :
    next.limit.computeGas.OvershootsBy next.lastCharge := by
  rw [lastCharge_cons charges]
  split
  · exact recorded
  · rename_i empty
    rw [Nat.eq_zero_of_not_pos empty] at recorded
    exact recorded.mono _

/-- An empty recording leaves the bound as it is. -/
theorem overshootsBy_of_empty (empty : charge.gas = 0)
    (recorded : next.limit.computeGas.OvershootsBy (meter.lastCharge + charge.gas)) :
    next.limit.computeGas.OvershootsBy next.lastCharge := by
  rw [lastCharge_cons charges, empty, if_neg (Nat.lt_irrefl 0)]
  rw [empty] at recorded
  exact recorded

omit charges

theorem overshootsBy_recordComputeGas (within : meter.limit.computeGas.OvershootsBy 0)
    (charge : ComputeCharge) :
    (meter.recordComputeGas charge).1.limit.computeGas.OvershootsBy
      (meter.recordComputeGas charge).1.lastCharge := by
  have recorded := within.recordGasUsed charge.gas
  rw [← recordComputeGas_computeGas, Nat.zero_add] at recorded
  exact overshootsBy_lastCharge (meter.recordComputeGas_charges charge) recorded

theorem recordComputeGas_goes (meter : Meter) (charge : ComputeCharge) :
    (meter.recordComputeGas charge).2 = !(meter.recordComputeGas charge).1.limit.limitExceeded :=
  meter.limit.recordComputeGas_snd charge.gas

/-- A recording that latches nothing leaves the usage within the limit, unless the transaction is
exempt. -/
theorem within_of_recordComputeGas
    (recorded : (meter.recordComputeGas charge).1.limit.computeGas.OvershootsBy
      (meter.recordComputeGas charge).1.lastCharge)
    (goes : (meter.recordComputeGas charge).1.limit.limitExceeded = false) :
    (meter.recordComputeGas charge).1.limit.hasExceededLimit = .exempt ∨
      (meter.recordComputeGas charge).1.limit.computeGas.OvershootsBy 0 := by
  cases verdict : meter.limit.hasExceededLimit with
  | withinLimit =>
    exact Or.inr (recorded.of_within (within_recordComputeGas verdict goes).2)
  | exempt =>
    have latched : meter.limit.hasExceededLimit.isWithinLimit = false :=
      congrArg isWithinLimit verdict
    exact Or.inl ((recordComputeGas_verdict latched charge.gas).trans verdict)
  | exceedsLimit =>
    have latched : meter.limit.hasExceededLimit.isWithinLimit = false :=
      congrArg isWithinLimit verdict
    have kept := recordComputeGas_verdict latched charge.gas
    rw [recordComputeGas_limit, limitExceeded, kept, verdict] at goes
    cases goes

end Meter

namespace Phase

/-- The usage is within the limit here, so that compute gas can be recorded. -/
def isReady : Phase → Bool
  | started | validating | frameInit _ | intercepting _ | keyless _ | admitting _ | making _
  | interpreting _ | stopped _ (.newFrame _) => true
  | stopped _ (.returnResult result) | settled _ result => result.result.isOk
  | _ => false

end Phase

namespace Execution

variable {config : EvmConfig} {state next : Execution} {event : Event}

/-! ### Instructions -/

/-- The wrappers go on only while the usage is within the limit. -/
def overshootInvariant {setup : LimitSetup} (detainable : Detainable setup) : WrapperInvariant where
  live meter :=
    meter.limit.hasExceededLimit = .withinLimit ∧ meter.limit.computeGas.OvershootsBy 0 ∧
      meter.limit.setup = setup
  halted meter :=
    meter.limit.computeGas.OvershootsBy meter.lastCharge ∧ meter.limit.setup = setup
  live_halted live := ⟨live.2.1.mono _, live.2.2⟩
  live_stipend amount live :=
    ⟨live.1, live.2.1, (setup_steady _).stipend amount live.2.2⟩
  live_storage _ live := live
  live_record charge live goes := by
    obtain ⟨verdict, within⟩ := AdditionalLimit.within_recordComputeGas live.1 goes
    have recorded := live.2.1.recordGasUsed charge.gas
    rw [← AdditionalLimit.recordComputeGas_computeGas] at recorded
    exact ⟨verdict, recorded.of_within within, (setup_steady _).record charge live.2.2⟩
  halted_record charge live :=
    ⟨Meter.overshootsBy_recordComputeGas live.2.1 charge,
      (setup_steady _).record charge live.2.2⟩
  live_detain cap live := by
    obtain ⟨rex4, fits⟩ := detainable.of_setup live.2.2
    exact ⟨live.1, live.2.1.setDetainedLimit rex4 fits cap, live.2.2⟩
  halted_detain cap halted := by
    obtain ⟨rex4, fits⟩ := detainable.of_setup halted.2
    exact ⟨halted.1.setDetainedLimit rex4 fits cap, halted.2⟩
  live_sstore store live goes := by
    refine ⟨(AdditionalLimit.within_checkLimit ?_ goes).1, ?_,
      (setup_steady _).sstore store live.2.2⟩
    · exact live.1
    · exact AdditionalLimit.overshootsBy_checkLimit live.2.1
  halted_sstore store halted :=
    ⟨AdditionalLimit.overshootsBy_checkLimit halted.1, (setup_steady _).sstore store halted.2⟩
  live_log topics length live goes := by
    refine ⟨(AdditionalLimit.within_checkLimit ?_ goes).1, ?_,
      (setup_steady _).log topics length live.2.2⟩
    · exact live.1
    · exact AdditionalLimit.overshootsBy_checkLimit live.2.1
  halted_log topics length halted :=
    ⟨AdditionalLimit.overshootsBy_checkLimit halted.1, (setup_steady _).log topics length halted.2⟩

variable {meter : Meter}

theorem overshootInvariant_allows {setup : LimitSetup} (detainable : Detainable setup)
    (live : (overshootInvariant detainable).live meter) (spec : MegaSpecId)
    (instruction : Instruction) :
    (overshootInvariant detainable).Allows spec meter instruction := by
  cases instruction with
  | selfdestruct access inputs refund raw =>
    refine ⟨(overshootInvariant detainable).live, ?_, ?_⟩
    · exact
        { refund := fun amount live =>
            ⟨live.1, live.2.1, (setup_steady _).refund amount live.2.2⟩
          live := by
            intro meter charge live goes
            have before : { meter.limit with
                computeGas := meter.limit.computeGas.recordGasUsed charge.gas }.hasExceededLimit =
                  .withinLimit := live.1
            obtain ⟨verdict, within⟩ := within_checkLimit before goes
            refine ⟨verdict, ?_, ?_⟩
            · exact overshootsBy_checkLimit ((live.2.1.recordGasUsed charge.gas).of_within within)
            · exact (setup_steady _).recordAll charge live.2.2
          halted := by
            intro meter charge live
            have recorded := live.2.1.recordGasUsed charge.gas
            rw [Nat.zero_add] at recorded
            exact ⟨overshootsBy_lastCharge
              (recordComputeGasAllDims_charges meter charge)
              (overshootsBy_checkLimit recorded),
              (setup_steady _).recordAll charge live.2.2⟩
          fails := fun _ live => (overshootInvariant detainable).live_halted live }
    · exact
        { unrecorded := live
          created := fun _ _ _ _ amount _ =>
            ⟨live.1, live.2.1,
              (setup_steady _).created ((setup_steady _).stipend amount live.2.2)⟩
          credited := fun _ _ _ _ =>
            ⟨live.1, live.2.1,
              (setup_steady _).credited live.2.2⟩ }
  | _ => trivial

/-! ### The invariant -/

/-- The transaction is exempt, or its compute gas is over the limit by at most the last recording,
and within it where compute gas can be recorded. -/
structure Overshoot (state : Execution) : Prop where
  bounded : state.verdict = .exempt ∨
    state.meter.limit.computeGas.OvershootsBy state.meter.lastCharge
  ready : state.phase.isReady = true →
    state.verdict = .exempt ∨ state.meter.limit.computeGas.OvershootsBy 0
  keyless : ∀ gas, state.phase = .keyless gas → state.meter.limit.limitExceeded = false

theorem overshoot_of_exempt (exempt : state.verdict = .exempt) : state.Overshoot :=
  ⟨Or.inl exempt, fun _ => Or.inl exempt, fun _ _ => congrArg exceededLimit exempt⟩

/-- Usage within the limit is enough, except for a keyless deployment. -/
theorem overshoot_of_within (within : state.meter.limit.computeGas.OvershootsBy 0)
    (notKeyless : ∀ gas, state.phase ≠ .keyless gas) : state.Overshoot :=
  ⟨Or.inr (within.mono _), fun _ => Or.inr within,
    fun gas deploys => absurd deploys (notKeyless gas)⟩

/-- Where no compute gas is recorded, the bound is enough. -/
theorem overshoot_of_bounded
    (bounded : state.meter.limit.computeGas.OvershootsBy state.meter.lastCharge)
    (notReady : state.phase.isReady = false) : state.Overshoot := by
  refine ⟨Or.inr bounded, fun ready => absurd (notReady.symm.trans ready) Bool.false_ne_true, ?_⟩
  intro gas deploys
  rw [deploys] at notReady
  exact nomatch notReady

theorem isReady_answer (state : Execution) (outcome : Outcome) :
    (state.answer outcome).isReady = false := by
  rw [answer]
  split <;> rfl

/-- The rules on which the bound rests: the transaction starts its first frame within the limit, and
the engine takes no gas for a result that is no success. -/
def StartsWithin (config : EvmConfig) (state : Execution) (event : Event) : Prop :=
  (∀ _ ∈ event.firstInput?,
      state.meter.limit.computeGas.txUsage ≤ state.meter.limit.computeGas.txLimit) ∧
    ProcessesResults config state event

instance (config : EvmConfig) (state : Execution) (event : Event) :
    Decidable (StartsWithin config state event) :=
  inferInstanceAs (Decidable (_ ∧ _))

/-! ### Hooks of the loop -/

section Hooks

variable {limit : AdditionalLimit} {amount : Nat} (detainable : Detainable limit.setup)
  (overshoots : limit.computeGas.OvershootsBy amount)

include detainable overshoots

theorem overshootsBy_detain (cap : Option Nat) :
    (detain cap limit).computeGas.OvershootsBy amount := by
  cases cap with
  | none => exact overshoots
  | some cap => exact overshoots.setDetainedLimit detainable.rex4 detainable.fits cap

theorem overshootsBy_detainOracle (config : EvmConfig) (cap : Option Nat) :
    (detainOracle config cap limit).computeGas.OvershootsBy amount := by
  rw [detainOracle]
  split
  · exact overshoots
  · exact overshootsBy_detain detainable overshoots cap

theorem overshootsBy_recordAuthorities (applied : List Bool) (cap : Option Nat) :
    (recordAuthorities applied cap limit).computeGas.OvershootsBy amount := by
  rw [recordAuthorities]
  induction applied generalizing limit with
  | nil => exact overshootsBy_detain detainable overshoots cap
  | cons creates rest inductionHypothesis =>
    refine inductionHypothesis ?_ ?_
    · rw [(moves_onRex6Eip7702AuthorityApplied _ creates).setup]
      exact detainable
    · exact overshootsBy_checkLimit overshoots

end Hooks

theorem rescueKeyless_computeGas (config : EvmConfig) (gas : Gas) (cause : KeylessExceed)
    (limit : AdditionalLimit) :
    (rescueKeyless config gas cause limit).computeGas = limit.computeGas := by
  cases cause with
  | overhead =>
    simp only [rescueKeyless]
    split
    · exact tryRescueGas_computeGas gas
    · rfl
  | overflow => rfl

theorem recordRewards_computeGas (credited : List Bool) (limit : AdditionalLimit) :
    (credited.foldl recordReward limit).computeGas = limit.computeGas := by
  induction credited generalizing limit with
  | nil => rfl
  | cons created rest inductionHypothesis => exact inductionHypothesis _

/-- Validation records the initial gas on a total within the limit. -/
theorem overshootsBy_validated (detainable : Detainable state.meter.limit.setup)
    (within : state.meter.limit.computeGas.OvershootsBy 0) (applied : List Bool)
    (cap : Option Nat) (initialGas : Nat) (createsCaller : Bool) :
    (state.validated config applied cap initialGas createsCaller).limit.computeGas.OvershootsBy
      (state.validated config applied cap initialGas createsCaller).lastCharge := by
  have authorities :
      (if config.spec.isEnabled .rex6 then state.meter.update (recordAuthorities applied cap)
        else state.meter).limit.computeGas.OvershootsBy 0 := by
    split
    · exact overshootsBy_recordAuthorities detainable within applied cap
    · exact within
  have recorded := overshootsBy_recordComputeGas authorities (.ofGas initialGas)
  simp only [validated]
  split
  · exact overshootsBy_checkLimit recorded
  · exact recorded

/-- The overhead of a keyless deployment is recorded on a total within the limit. -/
theorem overshoot_startKeyless (rex3 : config.spec.isEnabled .rex3 = true)
    (within : state.meter.limit.computeGas.OvershootsBy 0) (init : FrameInit) :
    (startKeyless config state init).Overshoot := by
  have recorded := overshootsBy_recordComputeGas within (.ofGas keylessDeployOverheadGas)
  have ready := within_of_recordComputeGas recorded
  have goes := state.meter.recordComputeGas_goes (.ofGas keylessDeployOverheadGas)
  obtain ⟨next, starts, started⟩ := keylessStart config state init
  rw [starts]
  cases started with
  | unpaid unpaid => exact overshoot_of_bounded (within.mono _) rfl
  | unmetered gas paid old => exact nomatch old.symm.trans rex3
  | metered gas paid rex3 meter equation =>
    rw [equation] at recorded ready goes
    have notExceeded : meter.limit.limitExceeded = false := (Bool.not_eq_true' _).mp goes.symm
    exact ⟨Or.inr recorded, fun _ => ready notExceeded, fun _ _ => notExceeded⟩
  | reverted _ _ _ _ equation | halted _ _ _ _ equation | panicked _ _ _ _ equation =>
    exact overshoot_of_bounded (equation ▸ recorded :) rfl

theorem overshoot_continueKeyless {gas : Gas} (aligned : meter.limit.AtHeight 0)
    (notLocal : meter.limit.hasExceededLimit.isFrameLocal = false)
    (bounded : meter.limit.computeGas.OvershootsBy meter.lastCharge) :
    (state.continueKeyless meter gas).Overshoot := by
  have checked := overshootsBy_checkLimit bounded
  rw [continueKeyless]
  split
  · exact overshoot_of_bounded checked rfl
  · rename_i goes
    -- On empty stacks an exceed is one of the transaction, so nothing is latched here.
    have within : meter.limit.checkLimit.limitExceeded = false := by
      rw [update_limit, aligned.isFrameLocal_checkLimit notLocal, Bool.not_false,
        Bool.and_true] at goes
      exact Bool.eq_false_iff.mpr goes
    have clear := clear_checkLimit within
    exact ⟨Or.inr checked, fun _ => clear.overshootsBy checked, fun _ _ => within⟩

/-! ### Ends of a frame -/

variable {isCreate : Bool} {result : InterpreterResult}

/-- Charging the storage of code makes no success of another result. -/
theorem isOk_of_depositStorage
    (succeeds : (depositStorage isCreate result meter).2.result.isOk = true) :
    result.result.isOk = true := by
  rw [depositStorage] at succeeds
  split at succeeds
  · rename_i deposits
    exact (Bool.and_eq_true_iff.mp deposits).2
  · exact succeeds

theorem depositStorage_computeGas (isCreate : Bool) (result : InterpreterResult) (meter : Meter) :
    (depositStorage isCreate result meter).1.limit.computeGas = meter.limit.computeGas ∧
      (depositStorage isCreate result meter).1.lastCharge = meter.lastCharge := by
  rw [depositStorage]
  split
  · split <;> exact ⟨rfl, rfl⟩
  · exact ⟨rfl, rfl⟩

variable (bounded : meter.limit.computeGas.OvershootsBy meter.lastCharge)

include bounded

variable (within : result.result.isOk = true → meter.limit.computeGas.OvershootsBy 0)

include within

/-- Settling a result records the deposit of a create that succeeded, on a total within the
limit. -/
theorem overshootsBy_settleResult :
    (settleResult config isCreate result meter).1.limit.computeGas.OvershootsBy
      (settleResult config isCreate result meter).1.lastCharge := by
  obtain ⟨sameGas, sameCharge⟩ := depositStorage_computeGas isCreate result meter
  show ((afterFrameRunInstructions _ _ _).1).computeGas.OvershootsBy _
  rw [afterFrameRunInstructions_computeGas]
  show (depositCompute _ _ _ _).limit.computeGas.OvershootsBy (depositCompute _ _ _ _).lastCharge
  rw [depositCompute]
  split
  · rename_i deposits
    simp only [Bool.and_eq_true, willReturnCreateChargeCodeDeposit] at deposits
    have ready := within (isOk_of_depositStorage deposits.2.1.1.1)
    rw [← sameGas] at ready
    exact overshootsBy_recordComputeGas ready _
  · rw [sameGas, sameCharge]
    exact bounded

/-- A result that is settled with success leaves the total within the limit. -/
theorem within_settleResult
    (succeeds : (settleResult config isCreate result meter).2.result.isOk = true) :
    (settleResult config isCreate result meter).1.limit.hasExceededLimit = .exempt ∨
      (settleResult config isCreate result meter).1.limit.computeGas.OvershootsBy 0 := by
  cases isCreate with
  | true =>
    have clear : (settleResult config true result meter).1.limit.Clear :=
      clear_afterFrameRunInstructions
        (fun impossible => nomatch impossible) succeeds
    exact clear.overshootsBy (overshootsBy_settleResult bounded within)
  | false =>
    simp only [settleResult, depositStorage, depositCompute, Bool.false_and, Bool.and_false,
      Bool.false_eq_true, if_false] at succeeds ⊢
    exact Or.inr (within succeeds)

omit within

omit bounded

/-- The engine takes no gas for a result that is no success. -/
theorem gas_of_processes {processed : FrameResult}
    (processes : Processes config isCreate result processed) (failed : result.result.isOk = false) :
    processed.gas.remaining = result.gas.remaining := by
  rw [Processes] at processes
  split at processes
  · obtain ⟨_, made⟩ := processes
    rw [willReturnCreateChargeCodeDeposit, failed, Bool.false_and, Bool.false_and, Bool.false_and,
      if_neg Bool.false_ne_true] at made
    exact made.1
  · rw [processes]
    rfl

theorem overshoot_afterProcess {processed : FrameResult} {committed : Bool}
    (processes : Processes config isCreate result processed)
    (bounded : state.meter.limit.computeGas.OvershootsBy state.meter.lastCharge)
    (within : result.result.isOk = true → state.meter.limit.computeGas.OvershootsBy 0) :
    (state.afterProcess config result processed committed).Overshoot := by
  refine overshoot_of_bounded ?_ rfl
  have finished := state.meter.limit.afterFrameRun_computeGas processed
    (if recordsProcessing config processed then some result.gas.remaining else none)
  cases records : recordsProcessing config processed with
  | false =>
    rw [records] at finished
    simp only [afterProcess, records, Bool.false_eq_true, if_false] at finished ⊢
    rw [finished]
    exact bounded
  | true =>
    let charge : ComputeCharge :=
      { gasBefore := result.gas.remaining
        gasAfter := processed.gas.remaining
        storageCharged := 0
        forwarded := 0 }
    have charges : (state.afterProcess config result processed committed).meter.charges =
        charge :: state.meter.charges := by
      simp only [afterProcess, records, if_true, charge]
    have gasRecorded :
        (state.afterProcess config result processed committed).meter.limit.computeGas =
        state.meter.limit.computeGas.recordGasUsed charge.gas := by
      rw [records] at finished
      simp only [afterProcess, records, if_true] at finished ⊢
      exact finished
    cases succeeds : result.result.isOk with
    | true =>
      have recorded := (within succeeds).recordGasUsed charge.gas
      rw [Nat.zero_add, ← gasRecorded] at recorded
      exact overshootsBy_lastCharge charges recorded
    | false =>
      have free : result.gas.remaining - processed.gas.remaining = 0 := by
        rw [gas_of_processes processes succeeds, Nat.sub_self]
      have recorded := bounded.recordGasUsed charge.gas
      rw [← gasRecorded] at recorded
      exact overshootsBy_of_empty charges free recorded

/-- After an instruction the total is within the limit, or the frame returns without success. -/
theorem overshoot_afterInstruction {setup : LimitSetup} {detainable : Detainable setup}
    {frame : EngineFrame} {ran : Interpreter} (ends : (overshootInvariant detainable).Ends ran) :
    (state.afterInstruction frame ran).Overshoot := by
  have notKeyless : ∀ gas, (state.afterInstruction frame ran).phase ≠ .keyless gas := by
    intro gas
    rw [afterInstruction]
    cases ran.action <;> rintro ⟨⟩
  obtain live | ⟨⟨result, returns, failed⟩, halted⟩ := ends
  · exact overshoot_of_within live.2.1 notKeyless
  · refine overshoot_of_bounded halted.1 ?_
    rw [afterInstruction, returns]
    exact failed

/-! ### Transitions -/

variable (rex4 : config.spec.isEnabled .rex4 = true)

include rex4

/-- A step of a transaction that is not exempt. -/
theorem overshoot_transition (aligned : state.Aligned) (going : state.Going)
    (detainable : Detainable state.meter.limit.setup) (rules : StartsWithin config state event)
    (overshoot : state.Overshoot) (keeps : KeepsVerdict config event)
    (metered : state.verdict ≠ .exempt) (moves : Transition config state event next) :
    next.Overshoot := by
  have bounded := overshoot.bounded.resolve_left metered
  have within : ∀ {phase : Phase}, state.phase = phase → phase.isReady = true →
      state.meter.limit.computeGas.OvershootsBy 0 :=
    fun inPhase ready => (overshoot.ready (inPhase ▸ ready)).resolve_left metered
  have returned : ∀ lastFrame result,
      (state.meter.limit.beforeFrameReturnResult lastFrame result).1.computeGas.OvershootsBy
        state.meter.lastCharge := by
    intro lastFrame result
    rw [beforeFrameReturnResult_computeGas]
    exact bounded.beforeFrameReturnResult _
  cases moves with
  | newTx => exact absurd keeps id
  | exemption systemOriginated cap starts =>
    have ready := within starts rfl
    refine overshoot_of_within ?_ (by rintro _ ⟨⟩)
    show (exempt config systemOriginated cap state.meter.limit).computeGas.OvershootsBy 0
    have metered : (config.spec.isEnabled .rex6 && systemOriginated) = false := keeps
    rw [exempt, metered, rex4]
    exact overshootsBy_detain detainable ready cap
  | validate applied cap initialGas createsCaller validates =>
    exact overshoot_of_bounded
      (overshootsBy_validated detainable (within validates rfl) applied cap initialGas
        createsCaller)
      rfl
  | authorityCreations =>
    exact overshoot_of_bounded (overshootsBy_checkLimit bounded) rfl
  | firstFrame input executes =>
    refine overshoot_of_within ⟨bounded.unrefunded, ?_⟩ (by rintro _ ⟨⟩)
    have fits := rules.1 input rfl
    rw [ComputeGasTracker.txUsage, FrameLimitTracker.netUsage, bounded.unrefunded] at fits
    exact fits
  | refused cap init starts rex4 exceeded =>
    have detained := overshootsBy_detainOracle detainable bounded config cap
    exact overshoot_of_bounded (overshootsBy_tryRescueGas detained _) rfl
  | tooDeep cap init starts admitted result deep =>
    exact overshoot_of_bounded (overshootsBy_detainOracle detainable bounded config cap) rfl
  | entered cap init starts admitted =>
    exact overshoot_of_within
      (overshootsBy_detainOracle detainable (within starts rfl) config cap) (by rintro _ ⟨⟩)
  | passes interception init starts =>
    exact overshoot_of_within (within starts rfl) (by rintro _ ⟨⟩)
  | hint length init starts rex5 =>
    exact overshoot_of_within (overshootsBy_checkLimit (within starts rfl))
      (by rintro _ ⟨⟩)
  | keyless init starts first =>
    exact overshoot_startKeyless (MegaSpecId.isEnabled_mono (by decide) rex4)
      (within starts rfl) init
  | keylessCaller storageGas gas deploys rex5 left paid =>
    have empty := aligned.at deploys (by rintro ⟨⟩)
    rw [aligned.outermost (deploys ▸ rfl)] at empty
    have notLocal := notFrameLocal_of_within (overshoot.keyless gas deploys)
    refine overshoot_continueKeyless ((moves_recordDepositCallerCreation _).atHeight empty) ?_ ?_
    · exact AdditionalLimit.AtHeight.isFrameLocal_checkLimit { empty with } notLocal
    · exact overshootsBy_checkLimit bounded
  | keylessMerge usage reservation gasUsed gas deploys rex5 reserved paid =>
    have empty := aligned.at deploys (by rintro ⟨⟩)
    rw [aligned.outermost (deploys ▸ rfl)] at empty
    have notLocal := notFrameLocal_of_within (overshoot.keyless gas deploys)
    refine overshoot_continueKeyless ((moves_mergeUsage _ usage).atHeight empty) notLocal ?_
    exact @Meter.overshootsBy_lastCharge state.meter _ (.ofGas usage.computeGas) rfl
      ((within deploys rfl).mergePersistentUsage usage.computeGas)
  | keylessReject gas cause halted =>
    refine overshoot_of_bounded ?_ rfl
    show (rescueKeyless config gas cause state.meter.limit).computeGas.OvershootsBy _
    rw [rescueKeyless_computeGas]
    exact bounded
  | reply =>
    exact overshoot_of_bounded bounded.pushFrame (isReady_answer _ _)
  | admitStopped journal init admits growth grown exceeded =>
    have checked := overshootsBy_checkLimit
      (overshootsBy_pushedFrame bounded init growth)
    exact overshoot_of_bounded (overshootsBy_tryRescueGas checked _) (isReady_answer _ _)
  | admitted journal init admits growth grown notExceeded =>
    exact overshoot_of_within (overshootsBy_checkLimit
      (overshootsBy_pushedFrame (within admits rfl) init growth)) (by rintro _ ⟨⟩)
  | madeResult =>
    exact overshoot_of_bounded (overshootsBy_tryRescueGas bounded _) (isReady_answer _ _)
  | madePrecompile isKzg run committed init makes =>
    exact overshoot_of_bounded (overshootsBy_tryRescueGas
      (overshootsBy_recordComputeGas (within makes rfl) _) _) (isReady_answer _ _)
  | runStopped =>
    exact overshoot_of_bounded (overshootsBy_checkLimit bounded) (isOk_exceeding _)
  | runGoes frame runs notExceeded =>
    have clear : state.meter.limit.Clear := notExceeded
    have ready := (clear.overshootsBy bounded).resolve_left metered
    exact overshoot_of_within (overshootsBy_checkLimit ready) (by rintro _ ⟨⟩)
  | execute instruction frame interprets =>
    have verdict := within_of_going (going (interprets ▸ rfl)) metered
    have live : (overshootInvariant detainable).live state.meter :=
      ⟨verdict, within interprets rfl, rfl⟩
    exact overshoot_afterInstruction
      (WrapperInvariant.ends_execute config.spec live
        (overshootInvariant_allows detainable live config.spec instruction))
  | startChild frame input stops => exact overshoot_of_within (within stops rfl) (by rintro _ ⟨⟩)
  | settled frame result stops =>
    exact ⟨Or.inr (overshootsBy_settleResult bounded (within stops)),
      within_settleResult bounded (within stops), (by rintro _ ⟨⟩)⟩
  | processed processed committed frame result settles =>
    exact overshoot_afterProcess (rules.2 (processed, committed) rfl (frame, result)
      (settles ▸ rfl)) bounded (within settles)
  | popped outcome returns => exact overshoot_of_bounded (returned false outcome.result) rfl
  | finishedAnswer gas outcome answers =>
    exact overshoot_of_bounded (returned true outcome.result) rfl
  | finished gas outcome returns => exact overshoot_of_bounded (returned true outcome.result) rfl
  | rewarded credited outcome ends rex6 =>
    refine overshoot_of_bounded ?_ rfl
    show (credited.foldl recordReward state.meter.limit).computeGas.OvershootsBy _
    rw [recordRewards_computeGas]
    exact bounded
  | _ => exact overshoot_of_bounded bounded rfl

/-! ### Runs -/

/-- An exempt transaction stays exempt, and the start of a transaction leaves nothing used. -/
theorem overshoot_of_step (aligned : state.Aligned) (going : state.Going)
    (detainable : Detainable state.meter.limit.setup) (rules : StartsWithin config state event)
    (overshoot : state.Overshoot) (moves : Transition config state event next) :
    next.Overshoot := by
  by_cases keeps : KeepsVerdict config event
  · by_cases exempt : state.verdict = .exempt
    · have final : state.verdict.IsFinal := by
        rw [exempt]
        exact ⟨rfl, rfl⟩
      exact overshoot_of_exempt
        ((verdict_transition final.notWithin (fun _ => final) keeps moves).trans exempt)
    · exact overshoot_transition rex4 aligned going detainable rules overshoot keeps exempt moves
  · cases moves with
    | newTx =>
      exact overshoot_of_within (overshootsBy_checkLimit (.reset _)) nofun
    | exemption systemOriginated cap starts =>
      have exempts : (config.spec.isEnabled .rex6 && systemOriginated) = true := by
        rw [KeepsVerdict, Bool.not_eq_false] at keeps
        exact keeps
      refine overshoot_of_exempt ?_
      show (exempt config systemOriginated cap state.meter.limit).hasExceededLimit = .exempt
      rw [exempt, exempts, rex4]
      exact detain_verdict cap _
    | _ => exact absurd trivial keeps

theorem overshoot_of_run {limits : EvmTxRuntimeLimits} {events : List Event}
    (fits : limits.txComputeGasLimit ≤ u64Max)
    (rules : Library.StepsMeet (step config) (StartsWithin config) (initial config limits) events)
    (ran : Reaches config limits events state) : state.Overshoot := by
  refine Library.reached_invariant_of_meets ?_ ?_ rules ran
  · intro state event next reached overshoot rules stepped
    obtain ⟨_, ran⟩ := reached
    exact overshoot_of_step rex4 (aligned_of_run ran) (going_of_run ran)
      (detainable_of_run rex4 fits ran) rules overshoot (transition_of_step stepped)
  · exact overshoot_of_bounded ⟨rfl, Nat.zero_le _⟩ rfl

omit rex4

/-- The compute gas of a transaction that is not exempt is over the limit in force by at most the
last recording, however many frames exceeded their budgets and were absorbed. -/
theorem computeGas_overshoot_le {limits : EvmTxRuntimeLimits} {events : List Event}
    {state : Execution} (rex4 : config.spec.isEnabled .rex4 = true)
    (fits : limits.txComputeGasLimit ≤ u64Max)
    (rules : Library.StepsMeet (step config) (StartsWithin config) (initial config limits) events)
    (ran : Library.run (step config) (initial config limits) events = some state)
    (metered : state.verdict ≠ .exempt) :
    state.meter.limit.computeGas.txUsage ≤
      min state.meter.limit.computeGas.frameTracker.txLimit
          state.meter.limit.computeGas.detainedLimit +
        state.meter.lastCharge :=
  ((overshoot_of_run rex4 fits rules ran).bounded.resolve_left metered).txUsage_le

/-- Limits that leave three thousand compute gas after the intrinsic gas. -/
def tightLimits : EvmTxRuntimeLimits :=
  { roomyLimits with txComputeGasLimit := 24000 }

/-- A transaction whose child takes more than its budget and is absorbed as a revert. -/
def absorbedRun : List Event :=
  startedRun ++ childStart (innerCall 3 0 10000 29300) ++
    [.execute (.plain { remaining := 5000, action := none }), .settle,
      .process (.call (emptyResult .revert ⟨10000, 5000, 0⟩)) false, .popResult]

theorem computeGas_overshoot_le_absorbed :
    ∃ state : Execution,
      Library.run (step rex6Config) (initial rex6Config tightLimits) absorbedRun = some state ∧
      state.verdict = .withinLimit ∧
      state.meter.limit.computeGas.txUsage ≤
        min state.meter.limit.computeGas.frameTracker.txLimit
            state.meter.limit.computeGas.detainedLimit +
          state.meter.lastCharge := by
  refine ⟨_, rfl, rfl, ?_⟩
  exact @computeGas_overshoot_le rex6Config tightLimits absorbedRun _ (by decide) (by decide)
    (by decide) rfl (by decide)

/-- A system transaction that is exempt and runs two instructions beyond its limit. -/
def exemptRun : List Event :=
  [.newTx plainTx, .exemption true none, .validate [] none 21000 false, .preExecution 0,
    .firstFrame plainCall] ++ frameStart ++
    [.execute (.plain { remaining := 30000, action := none }),
      .execute (.plain { remaining := 29000, action := none })]

/-- An exempt transaction is over its limit by more than its last recording. -/
theorem computeGas_overshoot_exempt :
    ∃ state : Execution,
      Library.run (step rex6Config) (initial rex6Config tightLimits) exemptRun = some state ∧
      Library.StepsMeet (step rex6Config) (StartsWithin rex6Config)
        (initial rex6Config tightLimits) exemptRun ∧
      state.verdict = .exempt ∧ state.meter.lastCharge = 1000 ∧
      state.meter.limit.computeGas.txUsage = 32000 ∧
      min state.meter.limit.computeGas.frameTracker.txLimit
          state.meter.limit.computeGas.detainedLimit = 24000 :=
  ⟨_, rfl, by decide, rfl, rfl, rfl, rfl⟩

end Execution

end MegaEvm
