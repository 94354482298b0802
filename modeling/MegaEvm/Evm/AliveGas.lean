/-
This file follows the gas of the frames that are alive: the suspended ones, and the one
that is being started, runs or returns. From Rex5 on no step but the start of the first
frame gives them more gas than they have, whatever the engine and the database answer
within the gas rules: a child is paid for by its parent, a result returns what its frame
had left, and the stipend for storage is no gas.
-/

import MegaEvm.Evm.InstructionGas
import MegaEvm.Evm.Precompiles

namespace MegaEvm

open AdditionalLimit FrameResult

/-! ### The gas of a state -/

namespace Phase

/-- The gas of the frame in the phase that no hook has looked at to rescue it. -/
def pendingGas : Phase → Nat
  | frameInit init | intercepting init | admitting init | making init => init.input.gasLimit
  | keyless gas | keylessHalted gas _ => gas.remaining
  | running frame | interpreting frame => frame.gas.remaining
  | stopped frame (.newFrame input) => frame.gas.remaining + input.gasLimit
  | stopped _ (.returnResult result) | settled _ result => result.gas.remaining
  | _ => 0

/-- The gas of a result on its way to its parent. -/
def returnedGas : Phase → Nat
  | replying outcome | returning outcome | answered outcome | returned outcome =>
    outcome.result.gas.remaining
  | delivering delivery => delivery.result.gas.remaining
  | _ => 0

/-- The transaction has not started its first frame. -/
def isPreparing : Phase → Bool
  | idle | started | validating | preExecution | execution => true
  | _ => false

end Phase

namespace Execution

variable {config : EvmConfig} {state next : Execution} {event : Event}

/-- The gas of the suspended frames. -/
def suspendedGas (frames : List EngineFrame) : Nat :=
  (frames.map fun frame => frame.gas.remaining).sum

@[simp] theorem suspendedGas_cons (frame : EngineFrame) (below : List EngineFrame) :
    suspendedGas (frame :: below) = frame.gas.remaining + suspendedGas below := by
  rw [suspendedGas, List.map_cons, List.sum_cons, suspendedGas]

/-- The gas of all frames that a hook may still rescue. -/
def pendingGas (state : Execution) : Nat :=
  suspendedGas state.frames + state.phase.pendingGas

/-- The gas of all frames that are alive. -/
def aliveGas (state : Execution) : Nat :=
  state.pendingGas + state.phase.returnedGas

/-- A step that keeps the suspended frames changes the gas by what it changes in the phase. -/
theorem aliveGas_le_of_phase (frames : next.frames = state.frames)
    (phase : next.phase.pendingGas + next.phase.returnedGas ≤
      state.phase.pendingGas + state.phase.returnedGas) :
    next.aliveGas ≤ state.aliveGas := by
  rw [aliveGas, aliveGas, pendingGas, pendingGas, frames]
  omega

@[simp] theorem pendingGas_answer (state : Execution) (outcome : Outcome) :
    (state.answer outcome).pendingGas = 0 := by
  rw [answer]
  split <;> rfl

@[simp] theorem returnedGas_answer (state : Execution) (outcome : Outcome) :
    (state.answer outcome).returnedGas = outcome.result.gas.remaining := by
  rw [answer]
  split <;> rfl

/-! ### Parts of a step -/

theorem gas_tooDeep {init : FrameInit} {result : FrameResult}
    (deep : tooDeep config init = some result) : result.gas = .new init.input.gasLimit := by
  rw [tooDeep] at deep
  split at deep
  · rename_i inputs call
    split at deep
    · rw [← Option.some.inj deep, call]
      rfl
    · cases deep
  · cases deep

/-- A keyless deployment that starts has no more gas than its call. -/
theorem startKeyless_gas (config : EvmConfig) (state : Execution) (init : FrameInit) :
    (startKeyless config state init).frames = state.frames ∧
      (startKeyless config state init).phase.pendingGas +
        (startKeyless config state init).phase.returnedGas ≤ init.input.gasLimit := by
  have left {gas : Gas}
      (paid : (Gas.new init.input.gasLimit).recordCost keylessDeployOverheadGas = some gas) :
      gas.remaining ≤ init.input.gasLimit :=
    Nat.le_of_add_right_le (Gas.remaining_of_recordCost paid).le
  obtain ⟨next, equation, started⟩ := keylessStart config state init
  rw [equation]
  cases started with
  | unpaid | panicked => exact ⟨rfl, Nat.zero_le _⟩
  | unmetered _ paid | metered _ paid | halted _ paid => exact ⟨rfl, left paid⟩
  | reverted gas paid rex3 meter recorded frameLocal =>
    exact ⟨rfl, (Nat.zero_add _).trans_le (left paid)⟩

theorem continueKeyless_gas (state : Execution) (meter : Meter) (gas : Gas) :
    (state.continueKeyless meter gas).frames = state.frames ∧
      (state.continueKeyless meter gas).phase.pendingGas +
        (state.continueKeyless meter gas).phase.returnedGas = gas.remaining := by
  rw [continueKeyless]
  split <;> exact ⟨rfl, rfl⟩

/-- From Rex5 on the stipend for storage leaves the gas limit of the frame as it is. -/
theorem grantedInit_of_rex5 {limit : AdditionalLimit} (rex5 : limit.setup.stipendRex5 = true)
    (init : FrameInit) : limit.grantedInit init = init := by
  have enabled : limit.storageCallStipend.rex5Enabled = true := rex5
  rw [grantedInit, StorageCallStipendTracker.beforeFrameInit, enabled, if_pos rfl]
  split <;> rfl

/-- From Rex5 on nothing of the gas of a result is burned when its frame is popped. -/
theorem burnedResult_of_rex5 {limit : AdditionalLimit} (rex5 : limit.setup.stipendRex5 = true)
    (result : FrameResult) : limit.burnedResult result = result := by
  have enabled : limit.storageCallStipend.rex5Enabled = true := rex5
  simp only [burnedResult, StorageCallStipendTracker.beforeFrameReturnResult,
    enabled, Bool.not_true, Bool.false_and, Bool.false_eq_true, if_false]

/-- The return of a frame keeps the gas of its result, but for what is burned. -/
theorem gas_beforeFrameReturnResult (limit : AdditionalLimit) (lastFrame : Bool)
    (result : FrameResult) :
    (limit.beforeFrameReturnResult lastFrame result).2.gas = (limit.burnedResult result).gas := by
  simp only [beforeFrameReturnResult]
  split_ifs
  · exact gas_mark _ _ _
  · exact gas_mark _ _ _
  · rfl

/-- The end of a frame keeps the gas of its result. -/
theorem gas_afterFrameRun (limit : AdditionalLimit) (result : FrameResult)
    (gasRemainingBefore : Option Nat) :
    (limit.afterFrameRun result gasRemainingBefore).2.gas = result.gas := by
  cases gasRemainingBefore with
  | none => rfl
  | some before =>
    simp only [afterFrameRun]
    rcases limit.recordComputeGas (before - result.gas.remaining) with ⟨recorded, _ | _⟩
    · exact gas_mark _ _ _
    · rfl

/-- A precompile that keeps to the gas it gets returns no more than its call was given. -/
theorem precompileResult_gas_le (rex5 : config.spec.isEnabled .rex5 = true) {init : FrameInit}
    {run : Nat → InterpreterResult}
    (runs : RunsOn (precompileGasLimit config state.meter.limit init.input.gasLimit)
      (run (precompileGasLimit config state.meter.limit init.input.gasLimit))) :
    (state.precompileResult config init run).gas.remaining ≤ init.input.gasLimit := by
  rw [precompileResult, precompileOutput]
  split
  · exact Nat.sub_le _ _
  · exact runs.2.trans (precompileGasLimit_le rex5 _ _)

/-- Settling a result costs gas or leaves it as it is. -/
theorem gas_settleResult_le (config : EvmConfig) (isCreate : Bool) (result : InterpreterResult)
    (meter : Meter) :
    (settleResult config isCreate result meter).2.gas.remaining ≤ result.gas.remaining := by
  have deposited : (depositStorage isCreate result meter).2.gas.remaining ≤
      result.gas.remaining := by
    rw [depositStorage]
    split
    · split
      · rename_i gas paid
        exact Nat.le_of_add_right_le (Gas.remaining_of_recordCost paid).le
      · exact Nat.le_refl _
    · exact Nat.le_refl _
  refine Nat.le_trans (Nat.le_of_eq ?_) deposited
  rw [settleResult]
  dsimp only
  rw [afterFrameRunInstructions]
  split
  · dsimp only
    split <;> rfl
  · rfl

/-- The engine takes gas for the code of a create, and none for a call. -/
theorem gas_processes_le {isCreate : Bool} {result : InterpreterResult} {processed : FrameResult}
    (processes : Processes config isCreate result processed) :
    processed.gas.remaining ≤ result.gas.remaining := by
  rw [Processes] at processes
  split at processes
  · obtain ⟨_, made⟩ := processes
    split at made
    · exact Nat.le_of_add_right_le made.2.le
    · exact made.1.le
  · rw [processes]
    exact Nat.le_refl _

/-- A parent gets back no more than the result of its child has left. -/
theorem deliveredGas_le (parent : Gas) (result : FrameResult) :
    (deliveredGas parent result).remaining ≤ parent.remaining + result.gas.remaining := by
  rw [deliveredGas]
  split
  · exact Nat.le_refl _
  · exact Nat.le_add_right _ _

/-- An instruction leaves its frame and the child it starts no more than the frame had. -/
theorem aliveGas_afterInstruction {frame : EngineFrame} {instruction : Instruction}
    {ran : Interpreter} (interprets : state.phase = .interpreting frame)
    (spends : Interpreter.Spends config.spec instruction
      { meter := state.meter, gas := frame.gas, action := none } ran) :
    (state.afterInstruction frame ran).aliveGas ≤ state.aliveGas := by
  refine aliveGas_le_of_phase rfl ?_
  have total : ran.gas.remaining + ran.childGas ≤ frame.gas.remaining := spends.total
  have fits := spends.action
  rw [interprets, afterInstruction]
  revert total fits
  rw [Interpreter.childGas]
  rcases ran.action with _ | input | result
  · exact fun total _ => total
  · exact fun total _ => total
  · intro total fits
    have gas : result.gas = ran.gas := (fits _ rfl).1
    show result.gas.remaining ≤ frame.gas.remaining
    rw [gas]
    exact total

/-! ### Steps -/

/-- From Rex5 on the frames that are alive get no gas, but for the first one. -/
theorem aliveGas_transition (rex5 : config.spec.isEnabled .rex5 = true)
    (stipend : state.meter.limit.setup.stipendRex5 = true) (rules : ReturnsGas config state event)
    (moves : Transition config state event next) (later : event.firstInput? = none) :
    next.aliveGas ≤ state.aliveGas := by
  cases moves with
  | newTx => exact Nat.zero_le _
  | outOfInitialGas isCreate executes old =>
    exact nomatch old.symm.trans rex5
  | firstFrame => cases later
  | refused cap init starts rex4 exceeded =>
    refine aliveGas_le_of_phase rfl ?_
    rw [starts]
    show 0 + (exceededLimitResult _ _).gas.remaining ≤ _
    rw [gas_exceededLimitResult, Nat.zero_add]
    exact Nat.le_refl _
  | tooDeep cap init starts admitted result deep =>
    refine aliveGas_le_of_phase rfl ?_
    rw [starts]
    show 0 + result.gas.remaining ≤ init.input.gasLimit
    rw [gas_tooDeep deep, Nat.zero_add]
    exact Nat.le_refl _
  | entered _ _ starts | passes _ _ starts | hint _ _ starts =>
    exact aliveGas_le_of_phase rfl (starts ▸ Nat.le_refl _)
  | answers result init starts =>
    have returns : result.gas.remaining ≤ init.input.gasLimit :=
      rules.answer _ rfl init (starts ▸ rfl)
    refine aliveGas_le_of_phase rfl ?_
    rw [starts]
    exact (Nat.zero_add _).trans_le returns
  | keyless init starts first =>
    obtain ⟨frames, gas⟩ := startKeyless_gas config state init
    exact aliveGas_le_of_phase frames (starts ▸ gas)
  | keylessCallerUnpaid | keylessReject =>
    refine aliveGas_le_of_phase rfl ?_
    exact Nat.zero_le _
  | keylessCaller storageGas gas deploys rex5 left paid =>
    obtain ⟨frames, same⟩ :=
      state.continueKeyless_gas (state.meter.update (·.recordDepositCallerCreation)) left
    refine aliveGas_le_of_phase frames ?_
    rw [same, deploys]
    exact Nat.le_of_add_right_le (Gas.remaining_of_recordCost paid).le
  | keylessMerge usage reservation gasUsed gas deploys rex5 reserved paid =>
    obtain ⟨frames, same⟩ := state.continueKeyless_gas
      { state.meter.update (·.mergeUsage usage) with
        charges := .ofGas usage.computeGas :: state.meter.charges }
      (reserved.eraseCost (reservation - gasUsed))
    refine aliveGas_le_of_phase frames ?_
    have left := Gas.remaining_of_recordCost paid
    rw [same, deploys]
    show reserved.remaining + (reservation - gasUsed) ≤ gas.remaining
    omega
  | keylessAnswer result output gas deploys =>
    refine aliveGas_le_of_phase rfl ?_
    rw [deploys]
    show 0 + (if result.isOkOrRevert then gas else gas.spendAll).remaining ≤ gas.remaining
    rw [Nat.zero_add]
    split
    · exact Nat.le_refl _
    · exact Nat.zero_le _
  | reply outcome replies =>
    refine aliveGas_le_of_phase rfl ?_
    show (state.answer outcome).pendingGas + (state.answer outcome).returnedGas ≤ _
    rw [pendingGas_answer, returnedGas_answer, replies]
    exact (Nat.zero_add _).le.trans (Nat.le_add_left _ _)
  | admitFailed =>
    exact aliveGas_le_of_phase rfl (Nat.zero_le _)
  | admitStopped journal init admits growth grown exceeded =>
    refine aliveGas_le_of_phase rfl ?_
    show (state.answer _).pendingGas + (state.answer _).returnedGas ≤ _
    rw [pendingGas_answer, returnedGas_answer, admits, grantedInit_of_rex5 stipend,
      gas_exceededLimitResult, Nat.zero_add]
    exact Nat.le_refl _
  | admitted journal init admits growth grown within =>
    refine aliveGas_le_of_phase rfl ?_
    rw [admits, grantedInit_of_rex5 stipend]
    exact Nat.le_refl _
  | madeFrame created init makes => exact aliveGas_le_of_phase rfl (makes ▸ Nat.le_refl _)
  | madeResult result committed init makes =>
    have returns : result.gas = .new init.input.gasLimit := rules.made _ rfl init (makes ▸ rfl)
    refine aliveGas_le_of_phase rfl ?_
    show (state.answer _).pendingGas + (state.answer _).returnedGas ≤ _
    rw [pendingGas_answer, returnedGas_answer, makes, returns, Nat.zero_add]
    exact Nat.le_refl _
  | madePrecompile isKzg run committed init makes =>
    have runs := rules.precompile _ rfl init (makes ▸ rfl)
    refine aliveGas_le_of_phase rfl ?_
    show (state.answer _).pendingGas + (state.answer _).returnedGas ≤ _
    rw [pendingGas_answer, returnedGas_answer, makes, Nat.zero_add]
    exact precompileResult_gas_le rex5 runs
  | runStopped _ runs | runGoes _ runs => exact aliveGas_le_of_phase rfl (runs ▸ Nat.le_refl _)
  | execute instruction frame interprets =>
    have obeys := rules.instruction _ rfl frame (interprets ▸ rfl)
    exact aliveGas_afterInstruction interprets
      (Interpreter.spends_execute (MegaSpecId.rex4_of_rex5 rex5) obeys)
  | startChild frame input stops =>
    rw [aliveGas, aliveGas, pendingGas, pendingGas, stops, suspendedGas_cons]
    show _ + input.gasLimit + 0 ≤ _ + (frame.gas.remaining + input.gasLimit) + 0
    omega
  | settled frame result stops =>
    refine aliveGas_le_of_phase rfl ?_
    rw [stops]
    exact gas_settleResult_le config frame.isCreate result state.meter
  | processed processed committed frame result settles =>
    have processes : Processes config frame.isCreate result processed :=
      rules.processed (processed, committed) rfl (frame, result) (settles ▸ rfl)
    refine aliveGas_le_of_phase rfl ?_
    rw [settles]
    show 0 + (afterFrameRun _ processed _).2.gas.remaining ≤ result.gas.remaining
    rw [gas_afterFrameRun, Nat.zero_add]
    exact gas_processes_le processes
  | popped outcome returns =>
    refine aliveGas_le_of_phase rfl ?_
    rw [returns]
    show 0 + (beforeFrameReturnResult _ false outcome.result).2.gas.remaining ≤
      0 + outcome.result.gas.remaining
    rw [gas_beforeFrameReturnResult, burnedResult_of_rex5 stipend]
  | delivered parentGas delivery parent below delivers suspended =>
    have returned := rules.delivered _ rfl delivery (delivers ▸ rfl) parent (suspended ▸ rfl)
    have gas := deliveredGas_le parent.gas delivery.result
    rw [aliveGas, aliveGas, pendingGas, pendingGas, delivers, suspended,
      suspendedGas_cons, returned]
    show suspendedGas below + (deliveredGas parent.gas delivery.result).remaining + 0 ≤
      parent.gas.remaining + suspendedGas below + 0 + delivery.result.gas.remaining
    omega
  | deliveredLast parentGas delivery delivers suspended =>
    exact aliveGas_le_of_phase rfl (delivers ▸ Nat.le_refl _)
  | finishedAnswer | finished | rewarded => exact aliveGas_le_of_phase rfl (Nat.zero_le _)
  | _ => exact aliveGas_le_of_phase rfl (Nat.zero_le _)

/-- Only the start of the first frame sets the gas that the frames share. -/
theorem firstGas_transition (moves : Transition config state event next)
    (later : event.firstInput? = none) : next.firstGas = state.firstGas := by
  cases moves with
  | firstFrame => cases later
  | keyless init starts first =>
    obtain ⟨meter, phase, equation⟩ := startKeyless_eq config state init
    rw [equation]
  | keylessCaller storageGas gas deploys rex5 left paid =>
    obtain ⟨meter, phase, equation⟩ :=
      state.continueKeyless_eq (state.meter.update (·.recordDepositCallerCreation)) left
    rw [equation]
  | keylessMerge usage reservation gasUsed gas deploys rex5 reserved paid =>
    obtain ⟨meter, phase, equation⟩ := state.continueKeyless_eq
      { state.meter.update (·.mergeUsage usage) with
        charges := .ofGas usage.computeGas :: state.meter.charges }
      (reserved.eraseCost (reservation - gasUsed))
    rw [equation]
  | _ => rfl

end Execution

end MegaEvm
