/-
This file shows that gas is conserved. From the start of the first frame on, what the
frames hold, what was recorded as compute gas and what was charged for storage add up to
the gas of the first frame and the stipends that the engine added, as long as no frame
fails, no limit is exceeded and no call is answered without the engine. Two amounts are
on the way between two steps: a stipend between the call and the start of its child, and
the gas for the code of a create between its recording and its payment.
-/

import MegaEvm.Evm.Recorded
import MegaEvm.Evm.Rescue

namespace MegaEvm

open Library AdditionalLimit

namespace Phase

/-- The result that is on its way. -/
def result? : Phase → Option InstructionResult
  | replying outcome | returning outcome | answered outcome | returned outcome | ended outcome =>
    some outcome.result.instructionResult
  | delivering delivery => some delivery.result.instructionResult
  | stopped _ (.returnResult result) | settled _ result => some result.result
  | _ => none

/-- A keyless deployment is going on. -/
def isKeyless : Phase → Bool
  | keyless _ | keylessHalted _ _ => true
  | _ => false

/-- Frames were started and the execution did not fail. -/
def inFrames : Phase → Bool
  | idle | started | validating | preExecution | execution | failed => false
  | _ => true

/-- The gas of the transaction after its last frame. -/
def keptGas : Phase → Nat
  | ended outcome => outcome.result.gas.remaining
  | _ => 0

/-- The gas that the phase holds. -/
def heldGas (phase : Phase) : Nat :=
  phase.pendingGas + phase.returnedGas + phase.keptGas

/-- The gas on the way: the stipend of a child that is to be started, and the code of a create that
was recorded and is to be paid. -/
def onTheWay (config : EvmConfig) : Phase → Nat
  | stopped _ (.newFrame input) => if Execution.grantsStipend input then callStipend else 0
  | settled frame result =>
    if frame.isCreate && Execution.willReturnCreateChargeCodeDeposit config result then
      result.output.length * Execution.codedepositGas
    else 0
  | _ => 0

end Phase

namespace Execution

variable {config : EvmConfig} {state next : Execution} {event : Event}

/-- No limit is exceeded, and no frame ends by failing. -/
@[mk_iff] structure Quiet (state : Execution) : Prop where
  within : state.meter.limit.limitExceeded = false
  succeeds : ∀ result ∈ state.phase.result?, result.isError = false

instance (state : Execution) : Decidable state.Quiet :=
  decidable_of_iff' _ (quiet_iff state)

/-- What the frames hold and what was spent is what they were given, and no subtraction in a
recording saturated. -/
structure Conserved (config : EvmConfig) (state : Execution) : Prop where
  ordinary : state.phase.isKeyless = false
  balance : state.phase.inFrames = true →
    suspendedGas state.frames + state.phase.heldGas + state.meter.spent =
      state.firstGas + callStipend * state.stipends + state.phase.onTheWay config
  exact : state.phase.inFrames = true → ∀ charge ∈ state.meter.charges, charge.IsExact

variable {phase : Phase}

section Frames

variable (conserved : state.Conserved config) (starts : state.phase = phase)
  (inFrames : phase.inFrames = true) (frames : next.frames = state.frames)
  (firstGas : next.firstGas = state.firstGas) (stipends : next.stipends = state.stipends)
  (ordinary : next.phase.isKeyless = false)

include conserved starts inFrames frames firstGas stipends ordinary

/-- A step within the frames of one transaction keeps the balance if what the phase loses was
spent. -/
theorem Conserved.step
    (gas : next.phase.heldGas + next.meter.spent + phase.onTheWay config =
      phase.heldGas + state.meter.spent + next.phase.onTheWay config)
    (records : Interpreter.Records state.meter next.meter) : next.Conserved config := by
  subst starts
  refine ⟨ordinary, fun _ => ?_, fun _ charge member => ?_⟩
  · have balance := conserved.balance inFrames
    rw [frames, firstGas, stipends]
    omega
  · obtain ⟨recorded, charges, exact⟩ := records
    rw [charges] at member
    obtain new | old := List.mem_append.mp member
    · exact exact charge new
    · exact conserved.exact inFrames charge old

/-- A step that records nothing and moves gas from one phase to the next. -/
theorem Conserved.move (gas : next.phase.heldGas + phase.onTheWay config =
      phase.heldGas + next.phase.onTheWay config)
    (charges : next.meter.charges = state.meter.charges)
    (storage : next.meter.storageCharged = state.meter.storageCharged) : next.Conserved config := by
  refine conserved.step starts inFrames frames firstGas stipends ordinary ?_ (.refl charges)
  rw [Meter.spent, Meter.spent, charges, storage]
  omega

end Frames

@[simp] theorem heldGas_answer (state : Execution) (outcome : Outcome) :
    (state.answer outcome).heldGas = outcome.result.gas.remaining := by
  rw [answer]
  split <;> exact Nat.zero_add _

@[simp] theorem onTheWay_answer (state : Execution) (outcome : Outcome) :
    (state.answer outcome).onTheWay config = 0 := by
  rw [answer]
  split <;> rfl

@[simp] theorem isKeyless_answer (state : Execution) (outcome : Outcome) :
    (state.answer outcome).isKeyless = false := by
  rw [answer]
  split <;> rfl

theorem result?_answer (state : Execution) (outcome : Outcome) :
    (state.answer outcome).result? = some outcome.result.instructionResult := by
  rw [answer]
  split <;> rfl

theorem isOkOrRevert_of_not_isError {result : InstructionResult}
    (succeeds : result.isError = false) : result.isOkOrRevert = true := by
  cases result <;> first | rfl | cases succeeds

/-! ### Instructions -/

theorem forwardedChildGas_add_stipend {spec : MegaSpecId} (rex5 : spec.isEnabled .rex5 = true)
    {input : FrameInput} (granted : grantsStipend input = true → callStipend ≤ input.gasLimit) :
    forwardedChildGas spec (some (.newFrame input)) +
      (if grantsStipend input then callStipend else 0) = input.gasLimit := by
  cases input with
  | create inputs => rfl
  | call inputs =>
    simp only [forwardedChildGas, rex5, Bool.true_and]
    rw [grantsStipend] at granted ⊢
    split
    · rename_i grants
      exact Nat.sub_add_cancel (granted grants)
    · rfl

variable {frame : EngineFrame} {instruction : Instruction}

/-- An instruction that does not fail moves gas to a child, to the recordings and to storage. -/
theorem conserved_afterInstruction (rex5 : config.spec.isEnabled .rex5 = true) (quiet : state.Quiet)
    (conserved : state.Conserved config) (interprets : state.phase = .interpreting frame)
    {ran : Interpreter} (spends : Interpreter.Spends config.spec instruction
      { meter := state.meter, gas := frame.gas, action := none } ran)
    (quietNext : (state.afterInstruction frame ran).Quiet) :
    (state.afterInstruction frame ran).Conserved config := by
  have going : ran.meter.limit.limitExceeded = false := quietNext.within
  have settled : ∀ result, ran.action = some (.returnResult result) →
      result.result.isError = false := by
    intro result returns
    refine quietNext.succeeds result.result ?_
    rw [afterInstruction, returns]
    rfl
  have failure : ran.aborts = true → ran.meter.limit.limitExceeded = true := by
    intro aborts
    rw [Interpreter.aborts, Interpreter.instructionResult] at aborts
    revert aborts settled
    rcases ran.action with _ | input | result
    · rintro _ ⟨⟩
    · rintro _ ⟨⟩
    · exact fun settled aborts =>
        absurd ((settled result rfl).symm.trans aborts) Bool.false_ne_true
  have balance : ran.gas.remaining + forwardedChildGas config.spec ran.action + ran.meter.spent =
      frame.gas.remaining + state.meter.spent :=
    spends.balance quiet.within ⟨Or.inr going, failure⟩
  have fits := spends.action
  refine conserved.step interprets rfl rfl rfl rfl ?_ ?_ spends.records
  · rw [afterInstruction]
    rcases ran.action with _ | input | result <;> rfl
  · rw [afterInstruction]
    revert balance fits
    rcases ran.action with _ | input | result
    · intro balance _
      exact balance
    · intro balance fits
      have granted := forwardedChildGas_add_stipend rex5 (fits _ rfl).1
      show ran.gas.remaining + input.gasLimit + 0 + 0 + ran.meter.spent + 0 =
        frame.gas.remaining + 0 + 0 + state.meter.spent +
          (if grantsStipend input then callStipend else 0)
      omega
    · intro balance fits
      have gas : result.gas = ran.gas := (fits _ rfl).1
      show result.gas.remaining + 0 + 0 + ran.meter.spent + 0 = _
      rw [gas]
      exact balance

/-! ### Results -/

variable {result : InterpreterResult} {isCreate : Bool}

theorem afterFrameRunInstructions_snd {limit : AdditionalLimit}
    (within : (limit.afterFrameRunInstructions isCreate result).1.limitExceeded = false) :
    (limit.afterFrameRunInstructions isCreate result).2 = result := by
  revert within
  rw [afterFrameRunInstructions]
  split
  · dsimp only
    split
    · rename_i exceeded
      intro within
      cases within.symm.trans exceeded
    · exact fun _ => rfl
  · exact fun _ => rfl

/-- The storage of deployed code is charged to the result. -/
theorem depositStorage_balance {meter : Meter}
    (succeeds : (depositStorage isCreate result meter).2.result.isError = false) :
    (depositStorage isCreate result meter).2.gas.remaining +
        (depositStorage isCreate result meter).1.spent =
      result.gas.remaining + meter.spent ∧
    (depositStorage isCreate result meter).1.charges = meter.charges := by
  revert succeeds
  rw [depositStorage]
  split
  · split
    · rename_i gas paid
      intro _
      have left := Gas.remaining_of_recordCost paid
      refine ⟨?_, rfl⟩
      rw [Meter.spent_chargeStorage]
      show gas.remaining + _ = _
      omega
    · rintro ⟨⟩
  · exact fun _ => ⟨rfl, rfl⟩

/-- The gas for deployed code is recorded before it is paid. -/
theorem depositCompute_balance (rex5 : config.spec.isEnabled .rex5 = true) (isCreate : Bool)
    (result : InterpreterResult) (meter : Meter) :
    (depositCompute config isCreate result meter).spent =
        meter.spent + (if isCreate && willReturnCreateChargeCodeDeposit config result then
          result.output.length * codedepositGas else 0) ∧
      Interpreter.Records meter (depositCompute config isCreate result meter) := by
  rw [depositCompute, rex5, Bool.true_and]
  split
  · refine ⟨?_, .one rfl (Nat.zero_le _)⟩
    exact @Meter.spent_of_charged meter _ (.ofGas _) 0 rfl rfl
  · exact ⟨rfl, .refl rfl⟩

theorem settleResult_balance (rex5 : config.spec.isEnabled .rex5 = true) {meter : Meter}
    (within : (settleResult config isCreate result meter).1.limit.limitExceeded = false)
    (succeeds : (settleResult config isCreate result meter).2.result.isError = false) :
    (settleResult config isCreate result meter).2.gas.remaining +
        (settleResult config isCreate result meter).1.spent =
      result.gas.remaining + meter.spent +
        (if isCreate && willReturnCreateChargeCodeDeposit config
            (settleResult config isCreate result meter).2 then
          (settleResult config isCreate result meter).2.output.length * codedepositGas else 0) ∧
      Interpreter.Records meter (settleResult config isCreate result meter).1 := by
  have same : (settleResult config isCreate result meter).2 =
      (depositStorage isCreate result meter).2 := afterFrameRunInstructions_snd within
  rw [same] at succeeds ⊢
  obtain ⟨stored, charges⟩ := depositStorage_balance succeeds
  obtain ⟨spent, records⟩ := depositCompute_balance rex5 isCreate
    (depositStorage isCreate result meter).2 (depositStorage isCreate result meter).1
  have settled : (settleResult config isCreate result meter).1.spent =
      (depositCompute config isCreate (depositStorage isCreate result meter).2
        (depositStorage isCreate result meter).1).spent := rfl
  refine ⟨?_, (Interpreter.Records.refl charges).trans records⟩
  rw [settled, spent]
  omega

/-- The engine takes the gas for the code of a create that it commits, and no other. -/
theorem processes_balance {processed : FrameResult}
    (processes : Processes config isCreate result processed) :
    processed.gas.remaining +
        (if isCreate && willReturnCreateChargeCodeDeposit config result then
          result.output.length * codedepositGas else 0) =
      result.gas.remaining := by
  rw [Processes] at processes
  split at processes
  · rename_i isCreate
    obtain ⟨_, made⟩ := processes
    rw [isCreate, Bool.true_and]
    split at made
    · rename_i deposits
      rw [if_pos deposits]
      exact made.2
    · rename_i free
      rw [if_neg free]
      exact made.1
  · rename_i isCall
    rw [Bool.not_eq_true] at isCall
    rw [processes, isCall]
    rfl

theorem conserved_afterProcess (rex5 : config.spec.isEnabled .rex5 = true)
    (conserved : state.Conserved config) (settles : state.phase = .settled frame result)
    {processed : FrameResult} (processes : Processes config frame.isCreate result processed)
    (committed : Bool) :
    (state.afterProcess config result processed committed).Conserved config := by
  have balance := processes_balance processes
  have gas : (state.afterProcess config result processed committed).phase.heldGas =
      processed.gas.remaining :=
    (Nat.zero_add _).trans (congrArg Gas.remaining (gas_afterFrameRun _ processed _))
  cases isCreate : frame.isCreate with
  | true =>
    rw [isCreate] at processes balance
    have silent : recordsProcessing config processed = false := by
      rw [recordsProcessing, rex5, processes.1]
      rfl
    refine conserved.move settles rfl rfl rfl rfl rfl ?_ ?_ rfl
    · rw [gas]
      simp only [Phase.onTheWay, isCreate]
      exact balance
    · simp only [afterProcess, silent, Bool.false_eq_true, if_false]
  | false =>
    rw [isCreate] at processes balance
    have same : processed = .call result := processes
    have records : recordsProcessing config processed = true := by
      rw [recordsProcessing, same, FrameResult.isCreate, Bool.and_false]
      rfl
    have charges : (state.afterProcess config result processed committed).meter.charges =
        { gasBefore := result.gas.remaining
          gasAfter := processed.gas.remaining
          storageCharged := 0
          forwarded := 0 } :: state.meter.charges := by
      simp only [afterProcess, records, if_true]
    have exact : processed.gas.remaining ≤ result.gas.remaining := Nat.le_of_add_right_le balance.le
    have spent := @Meter.spent_of_charged _ _ _ 0 charges rfl
    refine conserved.step settles rfl rfl rfl rfl rfl ?_ (.one charges exact)
    rw [gas, spent]
    simp only [Phase.onTheWay, isCreate, Bool.false_and, Bool.false_eq_true, if_false,
      ComputeCharge.gas] at balance ⊢
    show processed.gas.remaining + (state.meter.spent +
      (result.gas.remaining - processed.gas.remaining - 0 - 0) + 0) + 0 =
        result.gas.remaining + 0 + 0 + state.meter.spent + 0
    omega

/-- The execution after a precompile that did not fail. -/
theorem conserved_afterPrecompile (rex5 : config.spec.isEnabled .rex5 = true)
    (conserved : state.Conserved config) {init : FrameInit} (makes : state.phase = .making init)
    {run : Nat → InterpreterResult}
    (runs : RunsOn (precompileGasLimit config state.meter.limit init.input.gasLimit)
      (run (precompileGasLimit config state.meter.limit init.input.gasLimit)))
    (isKzg committed : Bool)
    (succeeds : (state.precompileResult config init run).result.isError = false) :
    (state.afterPrecompile config isKzg (state.precompileResult config init run)
      committed).Conserved config := by
  have capped := precompileGasLimit_le rex5 state.meter.limit init.input.gasLimit
  have settles := isOkOrRevert_of_not_isError succeeds
  have computeGas : precompileComputeGas config isKzg (state.precompileResult config init run) =
      (state.precompileResult config init run).gas.spent := by
    rw [precompileComputeGas, rex5, if_pos rfl, if_pos settles]
  have gas : (state.precompileResult config init run).gas.limit = init.input.gasLimit ∧
      (state.precompileResult config init run).gas.remaining ≤ init.input.gasLimit := by
    rw [precompileResult, result_precompileOutput] at settles
    exact ⟨(gas_precompileOutput rex5 runs capped settles).1, precompileResult_gas_le rex5 runs⟩
  refine conserved.step makes rfl rfl rfl rfl (isKeyless_answer _ _) ?_ (.one rfl ?_)
  · have spent := @Meter.spent_of_charged state.meter
      (state.afterPrecompile config isKzg (state.precompileResult config init run) committed).meter
      (.ofGas (precompileComputeGas config isKzg (state.precompileResult config init run))) 0 rfl
      rfl
    show (state.answer _).heldGas + Meter.spent _ + 0 = _ + (state.answer _).onTheWay config
    rw [heldGas_answer, onTheWay_answer]
    refine (congrArg (_ + · + 0) spent).trans ?_
    rw [ComputeCharge.gas_ofGas, computeGas, Gas.spent, gas.1]
    show (state.precompileResult config init run).gas.remaining + _ + 0 =
      init.input.gasLimit + 0 + 0 + state.meter.spent + 0
    have bounded := gas.2
    omega
  · exact Nat.zero_le _

/-- The last result brings its gas to the transaction. -/
theorem conserved_finish (stipend : state.meter.limit.setup.stipendRex5 = true)
    (conserved : state.Conserved config) {outcome : Outcome} {gas : Gas}
    (ends : state.phase = phase) (last : phase = .answered outcome ∨ phase = .returned outcome)
    (returned : gas = state.lastGas
      (state.meter.limit.beforeFrameReturnResult true outcome.result).2)
    (nothing : (state.finish outcome gas).rescuedGas = 0)
    (quiet : (state.finish outcome gas).Quiet) :
    (state.finish outcome gas).Conserved config := by
  have succeeds : (state.meter.limit.beforeFrameReturnResult true
      outcome.result).2.instructionResult.isError = false := by
    have ended := quiet.succeeds _ rfl
    rwa [FrameResult.instructionResult_setGas] at ended
  have kept : (state.finish outcome gas).phase.heldGas = outcome.result.gas.remaining := by
    show 0 + 0 + (FrameResult.setGas _
      (gas.eraseCost (state.finish outcome gas).rescuedGas)).gas.remaining = _
    rw [FrameResult.gas_setGas, nothing, returned, lastGas,
      if_pos (isOkOrRevert_of_not_isError succeeds), gas_beforeFrameReturnResult,
      burnedResult_of_rex5 stipend]
    exact Nat.zero_add _
  refine conserved.move ends ?_ rfl rfl rfl rfl ?_ rfl rfl
  · obtain rfl | rfl := last <;> rfl
  · rw [kept]
    obtain rfl | rfl := last <;> exact (Nat.zero_add _).symm

/-! ### Steps -/

/-- A step between the limits and the frames keeps the balance, unless it exceeds a limit or a frame
fails. -/
theorem conserved_transition (rex5 : config.spec.isEnabled .rex5 = true)
    (stipend : state.meter.limit.setup.stipendRex5 = true) (quiet : state.Quiet)
    (nothing : next.rescuedGas = 0) (passes : PassesCalls event)
    (rules : ReturnsGas config state event) (conserved : state.Conserved config)
    (quietNext : next.Quiet) (moves : Transition config state event next) :
    next.Conserved config := by
  have ordinary {phase : Phase} (deploys : state.phase = phase) (keyless : phase.isKeyless = true) :
      False := by
    have ordinary := conserved.ordinary
    rw [deploys, keyless] at ordinary
    cases ordinary
  cases moves with
  | firstFrame input executes =>
    refine ⟨rfl, fun _ => ?_, fun _ _ member => nomatch member⟩
    show 0 + (input.gasLimit + 0 + 0) + 0 = input.gasLimit + callStipend * 0 + 0
    omega
  | outOfInitialGas isCreate executes old =>
    cases old.symm.trans rex5
  | refused cap init starts rex4 exceeded =>
    have within : (detainOracle config cap state.meter.limit).limitExceeded = false := by
      rw [detainOracle]
      split
      · exact quiet.within
      · cases cap <;> exact quiet.within
    cases within.symm.trans exceeded
  | tooDeep cap init starts admitted result deep =>
    refine conserved.move starts rfl rfl rfl rfl rfl ?_ rfl rfl
    show 0 + result.gas.remaining + 0 + 0 = init.input.gasLimit + 0 + 0 + 0
    rw [gas_tooDeep deep, Nat.zero_add]
    rfl
  | entered _ _ starts | passes _ _ starts | hint _ _ starts =>
    exact conserved.move starts rfl rfl rfl rfl rfl rfl rfl rfl
  | answers | keyless => exact absurd (passes _ rfl) id
  | keylessCallerUnpaid _ _ deploys | keylessCaller _ _ deploys | keylessMerge _ _ _ _ deploys
  | keylessAnswer _ _ _ deploys =>
    exact (ordinary deploys rfl).elim
  | keylessReject gas cause halted =>
    exact (ordinary halted rfl).elim
  | reply outcome replies =>
    refine conserved.move replies rfl rfl rfl rfl (isKeyless_answer _ _) ?_ rfl rfl
    show (state.answer outcome).heldGas + 0 = 0 + outcome.result.gas.remaining + 0 +
      (state.answer outcome).onTheWay config
    rw [heldGas_answer, onTheWay_answer, Nat.zero_add]
  | admitStopped journal init admits growth grown exceeded =>
    have kept :
        (state.meter.limit.pushedFrame init growth).checkLimit.hasExceededLimit.isWithinLimit =
          false := by
      rw [limitExceeded] at exceeded
      revert exceeded
      cases (state.meter.limit.pushedFrame init growth).checkLimit.hasExceededLimit <;>
        first | exact fun _ => rfl | rintro ⟨⟩
    have within := quietNext.within
    rw [limitExceeded] at within exceeded
    rw [← tryRescueGas_verdict kept] at exceeded
    cases within.symm.trans exceeded
  | admitted journal init admits growth grown within =>
    refine conserved.move admits rfl rfl rfl rfl rfl ?_ rfl rfl
    show (state.meter.limit.grantedInit init).input.gasLimit + 0 + 0 + 0 = _
    rw [grantedInit_of_rex5 stipend]
    rfl
  | madeFrame created init makes => exact conserved.move makes rfl rfl rfl rfl rfl rfl rfl rfl
  | madeResult result committed init makes =>
    have returns : result.gas = .new init.input.gasLimit := rules.made _ rfl init (makes ▸ rfl)
    refine conserved.move makes rfl rfl rfl rfl (isKeyless_answer _ _) ?_ rfl rfl
    show (state.answer _).heldGas + 0 = _ + (state.answer _).onTheWay config
    rw [heldGas_answer, onTheWay_answer, returns]
    rfl
  | madePrecompile isKzg run committed init makes =>
    have runs := rules.precompile _ rfl init (makes ▸ rfl)
    have succeeds : (state.precompileResult config init run).result.isError = false :=
      quietNext.succeeds _ (result?_answer state _)
    exact conserved_afterPrecompile rex5 conserved makes runs isKzg committed succeeds
  | runStopped frame runs exceeded =>
    cases quietNext.within.symm.trans exceeded
  | runGoes frame runs within => exact conserved.move runs rfl rfl rfl rfl rfl rfl rfl rfl
  | execute instruction frame interprets =>
    have obeys := rules.instruction _ rfl frame (interprets ▸ rfl)
    exact conserved_afterInstruction rex5 quiet conserved interprets
      (Interpreter.spends_execute (MegaSpecId.rex4_of_rex5 rex5) obeys) quietNext
  | startChild frame input stops =>
    refine ⟨rfl, fun _ => ?_, fun _ => conserved.exact (stops ▸ rfl)⟩
    have balance := conserved.balance (stops ▸ rfl)
    rw [stops] at balance
    have gas : suspendedGas state.frames + (frame.gas.remaining + input.gasLimit + 0 + 0) +
        state.meter.spent = state.firstGas + callStipend * state.stipends +
          (if grantsStipend input then callStipend else 0) := balance
    rw [suspendedGas_cons]
    show frame.gas.remaining + suspendedGas state.frames + (input.gasLimit + 0 + 0) +
      state.meter.spent = state.firstGas +
        callStipend * (if grantsStipend input then state.stipends + 1 else state.stipends) + 0
    split at gas
    · rename_i grants
      rw [if_pos grants, Nat.mul_succ]
      omega
    · rename_i plain
      rw [if_neg plain]
      omega
  | settled frame result stops =>
    obtain ⟨balance, records⟩ := settleResult_balance rex5 quietNext.within
      (quietNext.succeeds _ rfl)
    refine conserved.step stops rfl rfl rfl rfl rfl ?_ records
    exact balance
  | processed processed committed frame result settles =>
    exact conserved_afterProcess rex5 conserved settles
      (rules.processed (processed, committed) rfl (frame, result) (settles ▸ rfl)) committed
  | popped outcome returns =>
    refine conserved.move returns rfl rfl rfl rfl rfl ?_ rfl rfl
    show 0 + (beforeFrameReturnResult _ false outcome.result).2.gas.remaining + 0 +
      0 = 0 + outcome.result.gas.remaining + 0 + 0
    rw [gas_beforeFrameReturnResult, burnedResult_of_rex5 stipend]
  | delivered parentGas delivery parent below delivers suspended =>
    have returned := rules.delivered _ rfl delivery (delivers ▸ rfl) parent (suspended ▸ rfl)
    have succeeds : delivery.result.instructionResult.isError = false :=
      quiet.succeeds _ (congrArg Phase.result? delivers)
    have settles := isOkOrRevert_of_not_isError succeeds
    rw [deliveredGas, if_pos settles] at returned
    refine ⟨rfl, fun _ => ?_, fun _ => conserved.exact (delivers ▸ rfl)⟩
    have balance := conserved.balance (delivers ▸ rfl)
    rw [delivers, suspended, suspendedGas_cons] at balance
    have gas : parent.gas.remaining + suspendedGas below +
        (0 + delivery.result.gas.remaining + 0) + state.meter.spent =
          state.firstGas + callStipend * state.stipends + 0 := balance
    have held : parentGas.remaining = parent.gas.remaining + delivery.result.gas.remaining :=
      congrArg Gas.remaining returned
    show suspendedGas below + (parentGas.remaining + 0 + 0) + state.meter.spent =
      state.firstGas + callStipend * state.stipends + 0
    omega
  | deliveredLast parentGas delivery delivers suspended =>
    exact conserved.move delivers rfl rfl rfl rfl rfl rfl rfl rfl
  | finishedAnswer gas outcome answers =>
    exact conserved_finish stipend conserved answers (Or.inl rfl)
      (rules.last gas rfl outcome (answers ▸ rfl)) nothing quietNext
  | finished gas outcome returns =>
    exact conserved_finish stipend conserved returns (Or.inr rfl)
      (rules.last gas rfl outcome (returns ▸ rfl)) nothing quietNext
  | rewarded credited outcome ends rex6 =>
    exact conserved.move ends rfl rfl rfl rfl rfl rfl rfl rfl
  | _ => exact ⟨rfl, (by rintro ⟨⟩), (by rintro ⟨⟩)⟩

/-! ### Runs -/

/-- The step starts from a quiet state, and passes a call on to the engine. -/
def Undisturbed (state : Execution) (event : Event) : Prop :=
  state.Quiet ∧ PassesCalls event

instance (state : Execution) (event : Event) : Decidable (Undisturbed state event) :=
  inferInstanceAs (Decidable (_ ∧ _))

theorem Quiet.notTxExceed (quiet : state.Quiet) : ¬ state.verdict.IsTxExceed :=
  notTxExceed_of_within quiet.within

theorem conserved_run {limits : EvmTxRuntimeLimits} {history events : List Event}
    {final : Execution} (rex5 : config.spec.isEnabled .rex5 = true)
    (reached : Reaches config limits history state)
    (rules : StepsMeet (step config) (ReturnsGas config) (initial config limits)
      (history ++ events))
    (conserved : state.Conserved config)
    (undisturbed : StepsMeet (step config) Undisturbed state events)
    (ran : run (step config) state events = some final) (quiet : final.Quiet) :
    final.Conserved config := by
  induction events generalizing state history with
  | nil =>
    cases ran
    exact conserved
  | cons event rest inductionHypothesis =>
    obtain ⟨next, stepped, remaining⟩ := run_cons_some ran
    obtain ⟨quietNow, passes⟩ := undisturbed.head
    have rulesNow := ((stepsMeet_append reached).mp rules).2.head
    have undisturbedLater := undisturbed.tail stepped
    have quietNext : next.Quiet := by
      cases rest with
      | nil =>
        cases remaining
        exact quiet
      | cons => exact undisturbedLater.head.1
    rw [← List.singleton_append, ← List.append_assoc] at rules
    have reachedNext := run_snoc reached stepped
    have nothing := (funded_of_run rex5 ((stepsMeet_append reachedNext).mp rules).1
      reachedNext).clear quietNext.notTxExceed
    refine inductionHypothesis reachedNext rules ?_ undisturbedLater remaining
    exact conserved_transition rex5 (stipendRex5_of_run rex5 reached) quietNow nothing
      passes rulesNow conserved quietNext (transition_of_step stepped)

/-! ### Calls and creates that exceed a limit -/

/-- Storage that was charged stays charged. -/
def storageInvariant (charged : Nat) : WrapperInvariant where
  live meter := charged ≤ meter.storageCharged
  halted meter := charged ≤ meter.storageCharged
  live_halted stored := stored
  live_stipend _ stored := stored
  live_storage _ stored := stored.trans (Nat.le_add_right _ _)
  live_record _ stored _ := stored
  halted_record _ stored := stored
  live_detain _ stored := stored
  halted_detain _ stored := stored
  live_sstore _ stored _ := stored
  halted_sstore _ stored := stored
  live_log _ _ stored _ := stored
  halted_log _ _ stored := stored

theorem storageCharged_le_execute (starts : Interpreter.startsChild instruction = true)
    (spec : MegaSpecId) (interpreter : Interpreter) :
    interpreter.meter.storageCharged ≤
      (instruction.execute spec interpreter).meter.storageCharged := by
  have allows : (storageInvariant interpreter.meter.storageCharged).Allows spec interpreter.meter
      instruction := by
    cases instruction with
    | selfdestruct => cases starts
    | _ => trivial
  have live : (storageInvariant interpreter.meter.storageCharged).live interpreter.meter :=
    Nat.le_refl _
  exact (WrapperInvariant.ends_execute spec live allows).elim id fun stopped => stopped.2

/-- From Rex6 on a call or create whose own recording exceeds a limit leaves the frame what it had
without the storage that was charged and the compute gas that was recorded. -/
theorem kept_of_exceeded (rex6 : config.spec.isEnabled .rex6 = true) (halts : state.Halts)
    (interprets : state.phase = .interpreting frame)
    (starts : Interpreter.startsChild instruction = true)
    (obeys : instruction.Obeys config.spec state.meter.limit frame.gas)
    (stepped : step config state (.execute instruction) = some next)
    (exceeded : next.meter.limit.limitExceeded = true) :
    ∃ (stoppedFrame : EngineFrame) (result : InterpreterResult) (storage compute : Nat),
      next.phase = .stopped stoppedFrame (.returnResult result) ∧
      next.meter.storageCharged = state.meter.storageCharged + storage ∧
      next.meter.recordedGas = state.meter.recordedGas + compute ∧
      result.gas.remaining = frame.gas.remaining - storage - compute ∧
      storage + compute ≤ frame.gas.remaining := by
  have rex4 := MegaSpecId.rex4_of_rex6 rex6
  have moves := transition_of_step stepped
  have haltsNext := halts_transition rex4 halts moves
  cases moves with
  | execute _ other interpretsOther =>
    obtain rfl : other = frame := by
      rw [interprets] at interpretsOther
      cases interpretsOther
      rfl
    have spends := @Interpreter.spends_execute config.spec instruction
      { meter := state.meter, gas := other.gas, action := none } rex4 obeys
    have stored := storageCharged_le_execute starts config.spec
      { meter := state.meter, gas := other.gas, action := none }
    revert spends stored haltsNext exceeded
    generalize instruction.execute config.spec
      { meter := state.meter, gas := other.gas, action := none } = ran
    intro exceeded haltsNext spends stored
    have within : state.meter.limit.limitExceeded = false := halts.at interprets
    have exceeded : ran.meter.limit.limitExceeded = true := exceeded
    have balance : ran.gas.remaining + forwardedChildGas config.spec ran.action + ran.meter.spent =
        other.gas.remaining + state.meter.spent :=
      spends.balance within ⟨Or.inl rex6, fun _ => exceeded⟩
    obtain ⟨recorded, charges, _⟩ := spends.records
    have computed : ran.meter.recordedGas =
        state.meter.recordedGas + (recorded.map ComputeCharge.gas).sum := by
      rw [Meter.recordedGas, charges, List.map_append, List.sum_append, Nat.add_comm]
      rfl
    have spent : ran.meter.spent = ran.meter.recordedGas + ran.meter.storageCharged := rfl
    have spentBefore : state.meter.spent = state.meter.recordedGas + state.meter.storageCharged :=
      rfl
    have fits := spends.action
    rw [Halts, afterInstruction] at haltsNext
    rw [afterInstruction]
    revert haltsNext balance fits
    rcases ran.action with _ | input | result
    · intro goes
      cases Eq.trans (Eq.symm goes) exceeded
    · intro goes
      cases Eq.trans (Eq.symm goes) exceeded
    · intro _ balance fits
      have gas : result.gas = ran.gas := (fits _ rfl).1
      have balance : ran.gas.remaining + 0 + ran.meter.spent =
          other.gas.remaining + state.meter.spent := balance
      have stored : state.meter.storageCharged ≤ ran.meter.storageCharged := stored
      refine ⟨{ other with gas := ran.gas }, result,
        ran.meter.storageCharged - state.meter.storageCharged,
        (recorded.map ComputeCharge.gas).sum, rfl, (Nat.add_sub_cancel' stored).symm,
        computed, ?_, ?_⟩
      · rw [gas]
        omega
      · omega

/-- The first frame of a transaction spends what was recorded as compute gas and what was charged
for storage, without the stipends that the engine added, and no subtraction in a recording
saturates. From Rex6 on a frame whose call or create exceeds a limit keeps what that instruction did
not take. -/
theorem gas_conserved (rex5 : config.spec.isEnabled .rex5 = true) (limits : EvmTxRuntimeLimits) :
    (∀ (history rest : List Event) (before started final : Execution) (input : FrameInput)
        (outcome : Outcome),
      Library.run (step config) (initial config limits) history = some before →
      step config before (.firstFrame input) = some started →
      Library.run (step config) started rest = some final →
      Library.StepsMeet (step config) (ReturnsGas config) (initial config limits)
        (history ++ .firstFrame input :: rest) →
      Library.StepsMeet (step config) Undisturbed started rest →
      (∀ later ∈ rest, KeepsVerdict config later) →
      final.Quiet → final.phase = .ended outcome →
      outcome.result.gas.remaining ≤ final.firstGas ∧
      final.firstGas - outcome.result.gas.remaining + callStipend * final.stipends =
        final.meter.recordedGas + final.meter.storageCharged ∧
      final.meter.limit.computeGas.txUsage =
        before.meter.limit.computeGas.txUsage + final.meter.recordedGas ∧
      ∀ charge ∈ final.meter.charges, charge.IsExact) ∧
    (config.spec.isEnabled .rex6 = true →
      ∀ (history : List Event) (state next : Execution) (frame : EngineFrame)
        (instruction : Instruction),
      Library.run (step config) (initial config limits) history = some state →
      state.phase = .interpreting frame → Interpreter.startsChild instruction = true →
      instruction.Obeys config.spec state.meter.limit frame.gas →
      step config state (.execute instruction) = some next →
      next.meter.limit.limitExceeded = true →
      ∃ (stoppedFrame : EngineFrame) (result : InterpreterResult) (storage compute : Nat),
        next.phase = .stopped stoppedFrame (.returnResult result) ∧
        next.meter.storageCharged = state.meter.storageCharged + storage ∧
        next.meter.recordedGas = state.meter.recordedGas + compute ∧
        result.gas.remaining = frame.gas.remaining - storage - compute ∧
        storage + compute ≤ frame.gas.remaining) := by
  refine ⟨?_, fun rex6 history state next frame instruction reached interprets starts obeys stepped
    exceeded =>
      kept_of_exceeded rex6 (halts_of_run (MegaSpecId.rex4_of_rex5 rex5) reached) interprets starts
        obeys stepped exceeded⟩
  intro history rest before started final input outcome reached stepped continued rules undisturbed
    keeps quiet ended
  have reachedStarted := run_snoc reached stepped
  have ran := run_through reached stepped continued
  have paid := (funded_of_run rex5 rules ran).at ended
  have starts : started.Conserved config ∧ started.phase.isPreparing = false ∧
      ∀ base, before.meter.limit.computeGas.Holds base → started.meter.Recorded base := by
    cases transition_of_step stepped with
    | firstFrame =>
      refine ⟨⟨rfl, fun _ => ?_, fun _ _ member => nomatch member⟩, rfl, ?_⟩
      · show 0 + (input.gasLimit + 0 + 0) + 0 = input.gasLimit + callStipend * 0 + 0
        omega
      · intro base holds
        rw [Meter.Recorded]
        exact (Int.add_zero base).symm ▸ holds
  obtain ⟨conserved, notPreparing, records⟩ := starts
  rw [← List.singleton_append, ← List.append_assoc] at rules
  have kept := conserved_run rex5 reachedStarted rules conserved undisturbed continued quiet
  have inFrames : final.phase.inFrames = true := ended ▸ rfl
  have balance := kept.balance inFrames
  rw [(aligned_of_run ran).outermost (ended ▸ rfl), ended] at balance
  have gas : 0 + (0 + 0 + outcome.result.gas.remaining) +
      (final.meter.recordedGas + final.meter.storageCharged) =
        final.firstGas + callStipend * final.stipends + 0 := balance
  refine ⟨paid.2.1, ?_, ?_, kept.exact inFrames⟩
  · have bounded := paid.2.1
    omega
  · obtain ⟨base, holds⟩ := recorded_of_run reached
    have recorded : final.meter.Recorded _ :=
      started_invariant recorded_transition (records _ holds) notPreparing keeps continued
    have usage := recorded.txUsage_eq
    have usageBefore := ComputeGasTracker.Holds.txUsage_eq holds
    omega

/-- The rest of a transaction whose first frame transfers value to a child that logs, and then sets
a slot. -/
def transferRest : List Event :=
  frameStart ++ childStart (innerCall 3 1 12300 20000) ++
    [.execute (.log none 1 10 { remaining := 11000, action := none })] ++
    frameEnd (emptyResult .stop ⟨12300, 11000, 0⟩) true ++
    [.popResult, .deliver ⟨40000, 31000, 0⟩, .beginRun,
      .execute
        (.sstore none { originalValue := 0, presentValue := 0, newValue := 1 } 2000
          { remaining := 8000, action := none })] ++
    frameEnd (emptyResult .stop ⟨40000, 8000, 0⟩) true ++
    [.popResult, .deliver (.new 0), .lastFrameResult ⟨100000, 8000, 0⟩]

/-- The outcome of a transaction that has ended. -/
def endedOutcome? : Phase → Option Outcome
  | .ended outcome => some outcome
  | _ => none

theorem phase_eq_of_endedOutcome? {outcome : Outcome} (ended : endedOutcome? phase = some outcome) :
    phase = .ended outcome := by
  cases phase with
  | ended other => exact congrArg Phase.ended (Option.some.inj ended)
  | _ => exact nomatch ended

/-- Both parts at a transfer of value, and at a call that exceeds the compute gas. -/
theorem gas_conserved_transfer :
    (∃ before started final : Execution,
      Library.run (step rex6Config) (initial rex6Config roomyLimits) preparedRun = some before ∧
      step rex6Config before (.firstFrame plainCall) = some started ∧
      Library.run (step rex6Config) started transferRest = some final ∧
      final.firstGas - 8000 + callStipend * final.stipends =
        final.meter.recordedGas + final.meter.storageCharged ∧
      final.stipends = 1 ∧ final.meter.recordedGas = 32300 ∧ final.meter.storageCharged = 2000 ∧
      final.meter.limit.computeGas.txUsage =
        before.meter.limit.computeGas.txUsage + final.meter.recordedGas) ∧
    ∃ (state next : Execution) (stoppedFrame : EngineFrame) (result : InterpreterResult)
        (storage compute : Nat),
      Library.run (step rex6Config) (initial rex6Config tightLimits) startedRun = some state ∧
      step rex6Config state (.execute plainInnerCall) = some next ∧
      next.phase = .stopped stoppedFrame (.returnResult result) ∧
      next.meter.recordedGas = state.meter.recordedGas + compute ∧
      result.gas.remaining = 40000 - storage - compute := by
  constructor
  · -- The states of the run are kept abstract: only the kernel evaluates them.
    have evaluated : (run (step rex6Config) (initial rex6Config roomyLimits)
        preparedRun).any (fun before =>
          (step rex6Config before (.firstFrame plainCall)).any fun started =>
            (run (step rex6Config) started transferRest).any fun final =>
              (endedOutcome? final.phase).any fun outcome =>
                decide (Library.StepsMeet (step rex6Config) Undisturbed started transferRest) &&
                (decide final.Quiet && (outcome.result.gas.remaining == 8000 &&
                (final.stipends == 1 && (final.meter.recordedGas == 32300 &&
                final.meter.storageCharged == 2000))))) = true := by
      decide +kernel
    simp only [Option.any_eq_true, Bool.and_eq_true, decide_eq_true_eq, beq_iff_eq] at evaluated
    obtain ⟨before, reached, started, stepped, final, continued, outcome, ended, undisturbed, quiet,
      rest, stipends, recorded, stored⟩ := evaluated
    obtain ⟨_, balance, usage, _⟩ := (@gas_conserved rex6Config rfl roomyLimits).1 preparedRun
      transferRest before started final plainCall outcome reached stepped continued
      (by decide +kernel) undisturbed (by decide) quiet (phase_eq_of_endedOutcome? ended)
    rw [rest] at balance
    exact ⟨before, started, final, reached, stepped, continued, balance, stipends, recorded, stored,
      usage⟩
  · obtain ⟨stoppedFrame, result, storage, compute, stops, _, computed, kept, _⟩ :=
      (@gas_conserved rex6Config rfl tightLimits).2 rfl startedRun _ _ _ plainInnerCall rfl rfl rfl
        (by decide) rfl rfl
    exact ⟨_, _, stoppedFrame, result, storage, compute, rfl, rfl, stops, computed, kept⟩

end Execution

end MegaEvm
