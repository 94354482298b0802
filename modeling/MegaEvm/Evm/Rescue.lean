/-
This file proves that an exceed of the whole transaction gives the sender no gas that
the frames did not have. When it is latched, every frame that is alive still holds its
gas. From then on no frame runs, each one is stopped and returns out of gas, its parent
gets nothing back, and its gas is offered once for the rescue. So what has been rescued
and what still can be never grows, and in the end the sender gets back at most what the
frames had when the exceed was latched.
-/

import MegaEvm.Evm.AliveGas
import MegaEvm.Evm.Halted
import MegaEvm.Limit.Rescue

namespace MegaEvm

open AdditionalLimit Library MegaSpecId FrameResult

namespace Execution

variable {config : EvmConfig} {state next : Execution} {event : Event}

/-! ### Rescued gas -/

/-- The gas that was rescued for the sender. -/
def rescuedGas (state : Execution) : Nat :=
  state.meter.limit.rescuedGas

variable (amount : Nat) {offered : Nat}

theorem rescued_hooks : HookInvariant fun meter => meter.limit.rescuedGas = amount :=
  hooks_of_moves fun moves => moves.rescuedGas.trans

/-- No instruction rescues gas. -/
theorem rescued_opcodes : OpcodeInvariant fun meter => meter.limit.rescuedGas = amount :=
  opcodes_of_moves fun moves => moves.rescuedGas.trans

theorem rescued_start : StartInvariant fun meter => meter.limit.rescuedGas = amount :=
  start_of_moves fun moves => moves.rescuedGas.trans

theorem recordRewards_rescuedGas (limit : AdditionalLimit) (credited : List Bool) :
    (credited.foldl recordReward limit).rescuedGas = limit.rescuedGas := by
  induction credited generalizing limit with
  | nil => rfl
  | cons created rest inductionHypothesis => exact inductionHypothesis _

/-- The step offers the gas of the frame it stops or answers. -/
def Event.offers : Event → Bool
  | .enterFrame _ | .beforeInit _ | .make _ | .process .. => true
  | _ => false

/-- What a step rescues from Rex5 on: the gas of the result it leaves, if it offers it and an exceed
of the transaction is latched then. -/
def Rescues (state : Execution) (event : Event) (next : Execution) : Prop :=
  next.rescuedGas = state.rescuedGas +
    if next.verdict.IsTxExceed ∧ event.offers = true then next.phase.returnedGas else 0

theorem rescues_of_silent (quiet : event.offers = false)
    (same : next.rescuedGas = state.rescuedGas) : Rescues state event next := by
  rw [Rescues, if_neg fun offers => absurd (quiet.symm.trans offers.2) Bool.false_ne_true]
  exact same

theorem rescues_of_within (within : ¬ next.verdict.IsTxExceed)
    (same : next.rescuedGas = state.rescuedGas) : Rescues state event next := by
  rw [Rescues, if_neg fun exceeds => within exceeds.1]
  exact same

/-- A step that offers the gas of the result it leaves. -/
theorem rescues_of_offers (offers : event.offers = true) (gas : next.phase.returnedGas = offered)
    (rescued : next.rescuedGas =
      state.rescuedGas + if next.verdict.IsTxExceed then offered else 0) :
    Rescues state event next := by
  rw [Rescues, rescued, gas]
  by_cases exceeds : next.verdict.IsTxExceed
  · rw [if_pos exceeds, if_pos ⟨exceeds, offers⟩]
  · rw [if_neg exceeds, if_neg fun both => exceeds both.1]

theorem rescues_transition (rex5 : config.spec.isEnabled .rex5 = true)
    (stipend : state.meter.limit.setup.stipendRex5 = true) (halts : state.Halts)
    (continues : ∀ tx, event ≠ .newTx tx) (goesOn : event ≠ .keylessReject)
    (moves : Transition config state event next) : Rescues state event next := by
  have rex4 := rex4_of_rex5 rex5
  cases moves with
  | newTx tx between => exact absurd rfl (continues tx)
  | exemption systemOriginated cap starts =>
    exact rescues_of_silent rfl
      ((rescued_start _).exempt config systemOriginated cap rfl fun _ => rfl)
  | validate applied cap initialGas createsCaller validates =>
    exact rescues_of_silent rfl
      ((rescued_start _).validated config applied cap initialGas createsCaller rfl)
  | authorityCreations amount prepares =>
    exact rescues_of_silent rfl (moves_onRex5Eip7702AuthorityCreations _ amount).rescuedGas
  | refused cap init starts rex4 exceeded =>
    have setup : (detainOracle config cap state.meter.limit).setup = state.meter.limit.setup :=
      (setup_steady state.meter.limit.setup).toHookInvariant.detainOracle config cap rfl
    have same := (rescued_hooks state.rescuedGas).detainOracle config cap rfl
    refine @rescues_of_offers state _ _ init.input.gasLimit rfl ?_ ?_
    · exact congrArg Gas.remaining (gas_exceededLimitResult _ _)
    · have rescued := (detainOracle config cap state.meter.limit).tryRescueGas_rescuedGas
        (.new init.input.gasLimit)
      rw [rescuable_of_rex5 ((congrArg LimitSetup.stipendRex5 setup).trans stipend)] at rescued
      exact rescued.trans (congrArg (· + _) same)
  | tooDeep cap _ _ admitted | entered cap _ _ admitted =>
    exact rescues_of_within (notTxExceed_of_within (admitted rex4))
      ((rescued_hooks state.rescuedGas).detainOracle config cap rfl)
  | hint length init starts rex5 =>
    exact rescues_of_silent rfl (moves_recordOracleHintBytes _ length).rescuedGas
  | keyless init starts first =>
    exact rescues_of_silent rfl ((rescued_hooks state.rescuedGas).startKeyless config rfl init)
  | keylessCaller storageGas gas deploys rex5 left paid =>
    refine rescues_of_silent rfl ((rescued_hooks state.rescuedGas).continueKeyless state ?_ left)
    exact (moves_recordDepositCallerCreation _).rescuedGas
  | keylessMerge =>
    refine rescues_of_silent rfl ((rescued_hooks state.rescuedGas).continueKeyless state ?_ _)
    rfl
  | keylessReject => exact absurd rfl goesOn
  | admitFailed =>
    refine @rescues_of_offers state _ _ 0 rfl rfl ?_
    rw [ite_self]
    rfl
  | admitStopped journal init admits growth grown exceeded =>
    have moves := (moves_pushedFrame grown).check
    refine @rescues_of_offers state _ _
      (state.meter.limit.grantedInit init).input.gasLimit rfl ?_ ?_
    · refine (returnedGas_answer _ _).trans ?_
      rw [gas_exceededLimitResult]
      rfl
    · have rescued := (state.meter.limit.pushedFrame init growth).checkLimit.tryRescueGas_rescuedGas
        (.new (state.meter.limit.grantedInit init).input.gasLimit)
      rw [rescuable_of_rex5 (moves.setup ▸ stipend), moves.rescuedGas] at rescued
      exact rescued
  | admitted journal init admits growth grown within =>
    exact rescues_of_within (notTxExceed_of_within within) (checkLimit_rescuedGas _)
  | madeFrame created init makes =>
    exact rescues_of_within (notTxExceed_of_within (halts.at makes)) rfl
  | madeResult result committed init makes =>
    refine rescues_of_offers rfl (returnedGas_answer _ _) ?_
    have rescued := state.meter.limit.tryRescueGas_rescuedGas result.gas
    rw [rescuable_of_rex5 stipend] at rescued
    exact rescued
  | madePrecompile isKzg run committed init makes =>
    have moves := state.meter.limit.moves_recordComputeGas
      (precompileComputeGas config isKzg (state.precompileResult config init run))
    refine rescues_of_offers rfl (returnedGas_answer _ _) ?_
    have rescued := tryRescueGas_rescuedGas
      (state.meter.limit.recordComputeGas
        (precompileComputeGas config isKzg (state.precompileResult config init run))).1
      (state.precompileResult config init run).gas
    rw [rescuable_of_rex5 (moves.setup ▸ stipend), moves.rescuedGas] at rescued
    exact rescued
  | runStopped | runGoes =>
    exact rescues_of_silent rfl (checkLimit_rescuedGas _)
  | execute instruction frame interprets =>
    exact rescues_of_silent rfl
      (@OpcodeInvariant.execute _ (rescued_opcodes state.rescuedGas)
        { meter := state.meter, gas := frame.gas, action := none } rfl config.spec instruction)
  | settled frame result stops =>
    exact rescues_of_silent rfl
      ((rescued_hooks state.rescuedGas).settleResult config rfl frame.isCreate result)
  | processed processed committed frame result settles =>
    refine @rescues_of_offers state _ _ processed.gas.remaining rfl ?_ ?_
    · exact congrArg Gas.remaining (gas_afterFrameRun _ _ _)
    · have rescued := state.meter.limit.afterFrameRun_rescuedGas processed
        (if recordsProcessing config processed then some result.gas.remaining else none)
      rw [rescuable_of_rex5 stipend] at rescued
      exact rescued
  | popped | finishedAnswer | finished =>
    exact rescues_of_silent rfl (moves_beforeFrameReturnResult ..).rescuedGas
  | rewarded credited outcome ends rex6 =>
    exact rescues_of_silent rfl (recordRewards_rescuedGas _ credited)
  | _ => exact rescues_of_silent rfl rfl

/-! ### Pending gas -/

theorem pendingGas_eq_of_phase (frames : next.frames = state.frames)
    (phase : state.phase.pendingGas = next.phase.pendingGas + offered) :
    state.pendingGas = next.pendingGas + offered := by
  rw [pendingGas, pendingGas, frames, phase, Nat.add_assoc]

/-- A result that is no success is settled for free. -/
theorem gas_settleResult_of_failed {result : InterpreterResult}
    (failed : result.result.isOk = false) (isCreate : Bool) (meter : Meter) :
    (settleResult config isCreate result meter).2.gas = result.gas := by
  rw [settleResult_of_failed isCreate failed, afterFrameRunInstructions]
  split
  · dsimp only
    split <;> rfl
  · rfl

/-- The engine takes no gas for a result that is no success. -/
theorem gas_processes_of_failed {isCreate : Bool} {result : InterpreterResult}
    {processed : FrameResult} (failed : result.result.isOk = false)
    (processes : Processes config isCreate result processed) :
    processed.gas.remaining = result.gas.remaining := by
  have keeps : willReturnCreateChargeCodeDeposit config result = false := by
    rw [willReturnCreateChargeCodeDeposit, failed]
    rfl
  rw [Processes] at processes
  split at processes
  · rw [ProcessesCreate, keeps, if_neg Bool.false_ne_true] at processes
    exact processes.2.1
  · rw [processes]
    rfl

/-- When an exceed of the transaction is latched, a step takes from the pending gas what it
offers. -/
theorem pendingGas_of_exceeds (rex5 : config.spec.isEnabled .rex5 = true)
    (stipend : state.meter.limit.setup.stipendRex5 = true) (halts : state.Halts)
    (rules : ReturnsGas config state event) (exceeds : state.verdict.IsTxExceed)
    (started : state.phase.isPreparing = false) (continues : ∀ tx, event ≠ .newTx tx)
    (goesOn : event ≠ .keylessReject) (alive : next ≠ { state with phase := .failed })
    (moves : Transition config state event next) :
    state.pendingGas = next.pendingGas + if event.offers then next.phase.returnedGas else 0 := by
  have rex4 := rex4_of_rex5 rex5
  have latched := exceeds.notWithin
  have notPreparing {phase : Phase} (inPhase : state.phase = phase)
      (prepares : phase.isPreparing = true) : False :=
    absurd (started.symm.trans (inPhase ▸ prepares)) Bool.false_ne_true
  have notWithin {limit : AdditionalLimit} (same : limit.hasExceededLimit = state.verdict)
      (within : limit.limitExceeded = false) : False :=
    notTxExceed_of_within within (same.symm ▸ exceeds)
  cases moves with
  | newTx tx between => exact absurd rfl (continues tx)
  | exemption systemOriginated cap starts => exact (notPreparing starts rfl).elim
  | validate applied cap initialGas createsCaller validates =>
    exact (notPreparing validates rfl).elim
  | systemCall validates => exact (notPreparing validates rfl).elim
  | authorityCreations _ prepares | preExecution _ prepares =>
    exact (notPreparing prepares rfl).elim
  | outOfInitialGas _ executes | firstFrame _ executes => exact (notPreparing executes rfl).elim
  | refused cap init starts rex4 exceeded =>
    refine pendingGas_eq_of_phase rfl ?_
    rw [starts]
    show init.input.gasLimit = 0 + (exceededLimitResult _ _).gas.remaining
    rw [gas_exceededLimitResult, Nat.zero_add]
    rfl
  | tooDeep cap _ _ admitted | entered cap _ _ admitted =>
    exact (notWithin (detainOracle_verdict config cap _) (admitted rex4)).elim
  | passes _ _ starts | hint _ _ starts | answers _ _ starts | keyless _ starts =>
    exact (notWithin rfl (halts.at starts)).elim
  | keylessCallerUnpaid _ _ deploys | keylessCaller _ _ deploys | keylessAnswer _ _ _ deploys
  | keylessMerge _ _ _ _ deploys =>
    exact absurd exceeds (halts.at deploys)
  | keylessReject => exact absurd rfl goesOn
  | reply outcome replies =>
    refine pendingGas_eq_of_phase rfl ?_
    rw [replies]
    exact (pendingGas_answer state outcome).symm
  | admitFailed | fail => exact absurd rfl alive
  | admitStopped journal init admits growth grown exceeded =>
    refine pendingGas_eq_of_phase rfl ?_
    rw [admits]
    show init.input.gasLimit = (state.answer _).pendingGas + (state.answer _).returnedGas
    rw [pendingGas_answer, returnedGas_answer, gas_exceededLimitResult,
      grantedInit_of_rex5 stipend, Nat.zero_add]
    rfl
  | admitted journal init admits growth grown within =>
    exact (notWithin (checkLimit_pushedFrame_verdict latched init growth) within).elim
  | madeFrame _ _ makes | madeResult _ _ _ makes | madePrecompile _ _ _ _ makes =>
    exact (notWithin rfl (halts.at makes)).elim
  | runStopped frame runs exceeded => exact pendingGas_eq_of_phase rfl (runs ▸ rfl)
  | runGoes frame runs within =>
    exact (notWithin (checkLimit_verdict latched) within).elim
  | execute instruction frame interprets => exact (notWithin rfl (halts.at interprets)).elim
  | startChild frame input stops => exact (notWithin rfl (halts.at stops)).elim
  | settled frame result stops =>
    have failed := halts.at stops exceeds
    refine pendingGas_eq_of_phase rfl ?_
    rw [stops]
    show result.gas.remaining = (settleResult config frame.isCreate result
      state.meter).2.gas.remaining
    rw [gas_settleResult_of_failed failed]
  | processed processed committed frame result settles =>
    have failed := halts.at settles exceeds
    have processes : Processes config frame.isCreate result processed :=
      rules.processed (processed, committed) rfl (frame, result) (settles ▸ rfl)
    refine pendingGas_eq_of_phase rfl ?_
    rw [settles]
    show result.gas.remaining = 0 + (afterFrameRun _ processed _).2.gas.remaining
    rw [gas_afterFrameRun, Nat.zero_add, gas_processes_of_failed failed processes]
  | popped _ returns | finished _ _ returns => exact pendingGas_eq_of_phase rfl (returns ▸ rfl)
  | delivered parentGas delivery parent below delivers suspended =>
    have outOfGas := halts.at delivers exceeds
    have returned := rules.delivered _ rfl delivery (delivers ▸ rfl) parent (suspended ▸ rfl)
    rw [deliveredGas, outOfGas, if_neg (by decide)] at returned
    rw [pendingGas, pendingGas, delivers, suspended, suspendedGas_cons, returned]
    show parent.gas.remaining + suspendedGas below + 0 =
      suspendedGas below + parent.gas.remaining + 0
    omega
  | deliveredLast parentGas delivery delivers suspended =>
    exact pendingGas_eq_of_phase rfl (delivers ▸ rfl)
  | finishedAnswer gas outcome answers => exact pendingGas_eq_of_phase rfl (answers ▸ rfl)
  | rewarded credited outcome ends rex6 => exact pendingGas_eq_of_phase rfl (ends ▸ rfl)

/-- What was rescued and what still can be. -/
def dueGas (state : Execution) : Nat :=
  state.rescuedGas + state.pendingGas

/-- The gas of a halted keyless deployment is rescued, from Rex6 on in every case. -/
theorem rescueKeyless_rescuedGas (config : EvmConfig) {limit : AdditionalLimit}
    (rex5 : limit.setup.stipendRex5 = true) (exceeds : limit.hasExceededLimit.IsTxExceed)
    (gas : Gas) (cause : KeylessExceed) :
    (rescueKeyless config gas cause limit).rescuedGas ≤ limit.rescuedGas + gas.remaining ∧
      (config.spec.isEnabled .rex6 = true →
        (rescueKeyless config gas cause limit).rescuedGas = limit.rescuedGas + gas.remaining) := by
  have tried : (limit.tryRescueGas gas).rescuedGas = limit.rescuedGas + gas.remaining := by
    rw [tryRescueGas_rescuedGas, rescuable_of_rex5 rex5,
      tryRescueGas_verdict exceeds.notWithin, if_pos exceeds]
  cases cause with
  | overhead =>
    rw [rescueKeyless]
    split
    · exact ⟨tried.le, fun _ => tried⟩
    · rename_i old
      exact ⟨Nat.le_add_right _ _, fun rex6 => absurd rex6 old⟩
  | overflow =>
    have rescued : (limit.rescueGas gas).rescuedGas = limit.rescuedGas + gas.remaining :=
      congrArg (limit.rescuedGas + ·) (rescuable_of_rex5 rex5 gas)
    exact ⟨rescued.le, fun _ => rescued⟩

/-- Once an exceed of the transaction is latched, what was rescued and what still can be does not
grow. From Rex6 on none of it is lost, unless the execution fails. -/
theorem dueGas_of_exceeds (rex5 : config.spec.isEnabled .rex5 = true)
    (stipend : state.meter.limit.setup.stipendRex5 = true) (halts : state.Halts)
    (rules : ReturnsGas config state event) (exceeds : state.verdict.IsTxExceed)
    (started : state.phase.isPreparing = false) (keeps : KeepsVerdict config event)
    (moves : Transition config state event next) :
    next.dueGas ≤ state.dueGas ∧
      (config.spec.isEnabled .rex6 = true → next.phase ≠ .failed → next.dueGas = state.dueGas) := by
  have continues := keeps.continues
  by_cases goesOn : event = .keylessReject
  · subst goesOn
    cases moves with
    | keylessReject gas cause halted =>
      obtain ⟨bounded, complete⟩ := rescueKeyless_rescuedGas config stipend exceeds gas cause
      have pending : state.pendingGas = suspendedGas state.frames + gas.remaining := by
        rw [pendingGas, halted]
        rfl
      rw [dueGas, dueGas, pending]
      show (rescueKeyless config gas cause state.meter.limit).rescuedGas +
          (suspendedGas state.frames + 0) ≤ state.meter.limit.rescuedGas + _ ∧ (_ → _ →
        (rescueKeyless config gas cause state.meter.limit).rescuedGas +
          (suspendedGas state.frames + 0) = state.meter.limit.rescuedGas + _)
      refine ⟨by omega, fun rex6 _ => ?_⟩
      have rescued := complete rex6
      omega
  · by_cases failed : next = { state with phase := .failed }
    · subst failed
      refine ⟨Nat.add_le_add_left (Nat.add_le_add_left (Nat.zero_le _) _) _, fun _ alive => ?_⟩
      exact absurd rfl alive
    · have pending := pendingGas_of_exceeds rex5 stipend halts rules exceeds started
        continues goesOn failed moves
      have rescued := rescues_transition rex5 stipend halts continues goesOn moves
      have verdict := verdict_transition exceeds.notWithin (fun _ => exceeds.isFinal) keeps moves
      have same : next.dueGas = state.dueGas := by
        rw [Rescues, verdict] at rescued
        rw [dueGas, dueGas, rescued, pending]
        by_cases offers : event.offers = true
        · rw [if_pos ⟨exceeds, offers⟩, if_pos offers]
          omega
        · rw [if_neg fun both => offers both.2, if_neg offers]
          rfl
      exact ⟨same.le, fun _ _ => same⟩

/-! ### Latching -/

/-- A keyless deployment that latches an exceed of the transaction is halted, not answered. -/
theorem returnedGas_startKeyless (within : state.meter.limit.limitExceeded = false)
    (init : FrameInit) (exceeds : (startKeyless config state init).verdict.IsTxExceed) :
    (startKeyless config state init).phase.returnedGas = 0 := by
  have latches := recordComputeGas_latches within keylessDeployOverheadGas
  obtain ⟨next, equation, started⟩ := keylessStart config state init
  rw [equation] at exceeds ⊢
  cases started with
  | unpaid unpaid => exact absurd exceeds (notTxExceed_of_within within)
  | reverted gas paid rex3 meter recorded frameLocal =>
    rw [Meter.recordComputeGas, ComputeCharge.gas_ofGas, Prod.mk.injEq] at recorded
    rw [← recorded.1] at exceeds frameLocal
    have latched := latches exceeds.exceeded
    have notLocal := exceeds.notFrameLocal
    rw [verdict, latched] at notLocal
    cases notLocal.symm.trans frameLocal
  | _ => rfl

/-- A step that latches an exceed of the transaction leaves no gas in a result that was not offered,
unless it returns one. -/
theorem returnedGas_of_latch (halts : state.Halts) (notLatched : ¬ state.verdict.IsTxExceed)
    (exceeds : next.verdict.IsTxExceed) (quiet : event.offers = false)
    (notReturned : event = .popResult → next.phase.returnedGas = 0)
    (moves : Transition config state event next) : next.phase.returnedGas = 0 := by
  cases moves with
  | refused | tooDeep | admitStopped | madeResult | madePrecompile | processed => cases quiet
  | answers | keylessCallerUnpaid | keylessAnswer | reply | deliveredLast =>
    exact absurd exceeds notLatched
  | keyless init starts first => exact returnedGas_startKeyless (halts.at starts) init exceeds
  | keylessCaller | keylessMerge =>
    rw [continueKeyless]
    split <;> rfl
  | keylessReject gas cause halted => exact absurd (halts.at halted) notLatched
  | execute =>
    rw [afterInstruction]
    split
    · rfl
    · rfl
  | popped => exact notReturned rfl
  | _ => rfl

/-- When an exceed of the transaction is latched, every frame that is alive still holds its gas or
has had it rescued; but the gas of a result that is being returned is gone. -/
theorem dueGas_of_latch (rex5 : config.spec.isEnabled .rex5 = true)
    (stipend : state.meter.limit.setup.stipendRex5 = true) (halts : state.Halts)
    (notLatched : ¬ state.verdict.IsTxExceed) (nothing : state.rescuedGas = 0)
    (continues : ∀ tx, event ≠ .newTx tx) (exceeds : next.verdict.IsTxExceed)
    (moves : Transition config state event next) :
    next.dueGas ≤ next.aliveGas ∧
      ((event = .popResult → next.phase.returnedGas = 0) → next.dueGas = next.aliveGas) := by
  have goesOn : event ≠ .keylessReject := by
    rintro rfl
    cases moves with
    | keylessReject gas cause halted => exact absurd (halts.at halted) notLatched
  have rescued := rescues_transition rex5 stipend halts continues goesOn moves
  rw [Rescues, nothing, Nat.zero_add] at rescued
  rw [dueGas, aliveGas, rescued]
  by_cases offers : event.offers = true
  · rw [if_pos ⟨exceeds, offers⟩, Nat.add_comm]
    exact ⟨Nat.le_refl _, fun _ => rfl⟩
  · rw [if_neg fun both => offers both.2, Nat.zero_add]
    refine ⟨Nat.le_add_right _ _, fun notReturned => ?_⟩
    rw [returnedGas_of_latch halts notLatched exceeds (Bool.eq_false_iff.mpr offers) notReturned
      moves]
    rfl

/-! ### The gas of the transaction -/

/-- The frames share gas of the transaction, and a transaction that ended has all that was rescued
and no more gas than its first frame got. -/
def PaidFrom (gasLimit firstGas rescuedGas : Nat) : Phase → Prop
  | .idle | .started | .validating | .preExecution | .execution | .failed => True
  | .ended outcome =>
    rescuedGas ≤ outcome.result.gas.remaining ∧ outcome.result.gas.remaining ≤ firstGas ∧
      firstGas ≤ gasLimit
  | _ => firstGas ≤ gasLimit

/-- Gas is rescued only after an exceed of the transaction is latched and a frame was started; what
the frames have, and what was rescued and still can be, is no more than the first frame got, and
that is gas of the transaction. -/
structure Funded (state : Execution) : Prop where
  clear : ¬ state.verdict.IsTxExceed → state.rescuedGas = 0
  preparing : state.phase.isPreparing = true → state.rescuedGas = 0
  alive : state.aliveGas ≤ state.firstGas
  due : state.dueGas ≤ state.firstGas
  paid : PaidFrom state.gasLimit state.firstGas state.rescuedGas state.phase

theorem paidFrom_answer {gasLimit firstGas : Nat} (shares : firstGas ≤ gasLimit)
    (rescuedGas : Nat) (state : Execution) (outcome : Outcome) :
    PaidFrom gasLimit firstGas rescuedGas (state.answer outcome) := by
  rw [answer]
  split <;> exact shares

theorem isPreparing_answer (state : Execution) (outcome : Outcome) :
    (state.answer outcome).isPreparing = false := by
  rw [answer]
  split <;> rfl

theorem isPreparing_startKeyless (state : Execution) (init : FrameInit) :
    (startKeyless config state init).phase.isPreparing = false := by
  obtain ⟨next, equation, started⟩ := keylessStart config state init
  rw [equation]
  cases started <;> rfl

theorem isPreparing_continueKeyless (state : Execution) (meter : Meter) (gas : Gas) :
    (state.continueKeyless meter gas).phase.isPreparing = false := by
  rw [continueKeyless]
  split <;> rfl

theorem isPreparing_afterInstruction (state : Execution) (frame : EngineFrame) (ran : Interpreter) :
    (state.afterInstruction frame ran).phase.isPreparing = false := by
  rw [afterInstruction]
  split <;> rfl

/-- Only a transaction that prepares its first frame can do so in the next state. -/
theorem preparing_transition (moves : Transition config state event next)
    (continues : ∀ tx, event ≠ .newTx tx) (stillPreparing : next.phase.isPreparing = true) :
    state.phase.isPreparing = true := by
  have framed (frames : next.phase.isPreparing = false) : state.phase.isPreparing = true :=
    nomatch frames.symm.trans stillPreparing
  cases moves with
  | newTx tx between => exact absurd rfl (continues tx)
  | exemption systemOriginated cap starts => exact starts ▸ rfl
  | validate _ _ _ _ validates | systemCall validates => exact validates ▸ rfl
  | authorityCreations _ prepares | preExecution _ prepares => exact prepares ▸ rfl
  | keyless => exact framed (isPreparing_startKeyless _ _)
  | keylessCaller | keylessMerge =>
    exact framed (isPreparing_continueKeyless _ _ _)
  | reply | admitStopped | madeResult | madePrecompile => exact framed (isPreparing_answer _ _)
  | execute => exact framed (isPreparing_afterInstruction _ _ _)
  | _ => exact framed rfl

/-- A transaction that prepares its first frame has no gas to offer. -/
theorem silent_of_preparing (prepares : state.phase.isPreparing = true)
    (moves : Transition config state event next) :
    event.offers = false ∧ event ≠ .keylessReject := by
  have notIn {phase : Phase} (inPhase : state.phase = phase) (frames : phase.isPreparing = false) :
      event.offers = false ∧ event ≠ .keylessReject :=
    absurd (frames.symm.trans (inPhase ▸ prepares)) Bool.false_ne_true
  cases moves with
  | refused _ _ starts | tooDeep _ _ starts | entered _ _ starts => exact notIn starts rfl
  | keylessReject gas cause halted => exact notIn halted rfl
  | admitFailed _ _ admits | admitStopped _ _ admits | admitted _ _ admits => exact notIn admits rfl
  | madeFrame _ _ makes | madeResult _ _ _ makes | madePrecompile _ _ _ _ makes =>
    exact notIn makes rfl
  | processed processed committed frame result settles => exact notIn settles rfl
  | _ => exact ⟨rfl, nofun⟩

theorem keepsVerdict_of_started (started : state.phase.isPreparing = false)
    (continues : ∀ tx, event ≠ .newTx tx) (moves : Transition config state event next) :
    KeepsVerdict config event := by
  cases moves with
  | newTx tx between => exact absurd rfl (continues tx)
  | exemption systemOriginated cap starts =>
    rw [starts] at started
    exact nomatch started
  | _ => trivial

section Run

variable (rex5 : config.spec.isEnabled .rex5 = true)
  (stipend : state.meter.limit.setup.stipendRex5 = true) (halts : state.Halts)
  (funded : state.Funded) (continues : ∀ tx, event ≠ .newTx tx)
  (moves : Transition config state event next)

include rex5 stipend halts funded continues moves

theorem rescuedGas_of_preparing (prepares : state.phase.isPreparing = true) :
    next.rescuedGas = 0 := by
  obtain ⟨quiet, goesOn⟩ := silent_of_preparing prepares moves
  have rescued := rescues_transition rex5 stipend halts continues goesOn moves
  rw [Rescues, quiet, if_neg fun both => nomatch both.2] at rescued
  exact rescued.trans (funded.preparing prepares)

/-- Without an exceed of the transaction nothing is rescued. -/
theorem rescuedGas_of_within (within : ¬ next.verdict.IsTxExceed) : next.rescuedGas = 0 := by
  cases prepares : state.phase.isPreparing with
  | true => exact rescuedGas_of_preparing rex5 stipend halts funded continues moves prepares
  | false =>
    have notLatched : ¬ state.verdict.IsTxExceed := by
      intro exceeds
      have verdict := verdict_transition exceeds.notWithin (fun _ => exceeds.isFinal)
        (keepsVerdict_of_started prepares continues moves) moves
      exact within (verdict ▸ exceeds)
    have goesOn : event ≠ .keylessReject := by
      rintro rfl
      cases moves with
      | keylessReject gas cause halted => exact absurd (halts.at halted) notLatched
    have rescued := rescues_transition rex5 stipend halts continues goesOn moves
    rw [Rescues, if_neg fun both => within both.1] at rescued
    exact rescued.trans (funded.clear notLatched)

/-- What was rescued and still can be stays within the gas of the first frame. -/
theorem dueGas_transition (rules : ReturnsGas config state event)
    (alive : next.aliveGas ≤ state.firstGas) : next.dueGas ≤ state.firstGas := by
  have nothing (none : next.rescuedGas = 0) : next.dueGas ≤ state.firstGas := by
    rw [dueGas, none, Nat.zero_add]
    exact (Nat.le_add_right _ _).trans alive
  cases prepares : state.phase.isPreparing with
  | true =>
    exact nothing (rescuedGas_of_preparing rex5 stipend halts funded continues moves prepares)
  | false =>
    by_cases exceeds : state.verdict.IsTxExceed
    · have kept := dueGas_of_exceeds rex5 stipend halts rules exceeds prepares
        (keepsVerdict_of_started prepares continues moves) moves
      exact kept.1.trans funded.due
    · by_cases latches : next.verdict.IsTxExceed
      · have latched := dueGas_of_latch rex5 stipend halts exceeds (funded.clear exceeds) continues
          latches moves
        exact latched.1.trans alive
      · exact nothing (rescuedGas_of_within rex5 stipend halts funded continues moves latches)

end Run

/-- The gas the transaction ends with is what the first frame returned or what was rescued, never
both. -/
theorem paidFrom_finish (stipend : state.meter.limit.setup.stipendRex5 = true)
    (funded : state.Funded) {outcome : Outcome} {gas : Gas}
    (shares : state.firstGas ≤ state.gasLimit) (last : state.phase.last? = some outcome)
    (lasts : gas = state.lastGas (state.meter.limit.beforeFrameReturnResult true outcome.result).2)
    (outOfGas : state.verdict.IsTxExceed →
      (state.meter.limit.beforeFrameReturnResult true outcome.result).2.instructionResult =
        .outOfGas) :
    PaidFrom (state.finish outcome gas).gasLimit (state.finish outcome gas).firstGas
      (state.finish outcome gas).rescuedGas (state.finish outcome gas).phase := by
  show (beforeFrameReturnResult _ _ _).1.rescuedGas ≤
      (setGas _ _).gas.remaining ∧
    (setGas _ _).gas.remaining ≤ state.firstGas ∧ state.firstGas ≤ state.gasLimit
  rw [gas_setGas, (moves_beforeFrameReturnResult ..).rescuedGas]
  refine ⟨Nat.le_add_left _ _, ?_, shares⟩
  show gas.remaining + state.rescuedGas ≤ state.firstGas
  by_cases exceeds : state.verdict.IsTxExceed
  · rw [lasts, lastGas, outOfGas exceeds, if_neg (by decide), Nat.zero_add]
    exact (Nat.le_add_right _ _).trans funded.due
  · have returned : state.phase.returnedGas = outcome.result.gas.remaining := by
      revert last
      cases state.phase with
      | answered | returned => exact fun same => Option.some.inj same ▸ rfl
      | _ => exact nofun
    have alive := funded.alive
    rw [aliveGas, returned] at alive
    rw [funded.clear exceeds, lasts, lastGas, gas_beforeFrameReturnResult,
      burnedResult_of_rex5 stipend]
    dsimp only
    split <;> omega

theorem Funded.at {phase : Phase} (funded : state.Funded) (inPhase : state.phase = phase) :
    PaidFrom state.gasLimit state.firstGas state.rescuedGas phase :=
  inPhase ▸ funded.paid

/-- Once the first frame was started, the frames share gas of the transaction. -/
theorem Funded.shares {phase : Phase} (funded : state.Funded) (inPhase : state.phase = phase)
    (framed : PaidFrom state.gasLimit state.firstGas state.rescuedGas phase =
      (state.firstGas ≤ state.gasLimit)) :
    state.firstGas ≤ state.gasLimit :=
  framed ▸ funded.at inPhase

variable (shares : state.firstGas ≤ state.gasLimit)

include shares

theorem paidFrom_startKeyless (init : FrameInit) :
    PaidFrom (startKeyless config state init).gasLimit (startKeyless config state init).firstGas
      (startKeyless config state init).rescuedGas (startKeyless config state init).phase := by
  obtain ⟨next, equation, started⟩ := keylessStart config state init
  rw [equation]
  cases started with
  | panicked => trivial
  | _ => exact shares

theorem paidFrom_continueKeyless (meter : Meter) (gas : Gas) :
    PaidFrom (state.continueKeyless meter gas).gasLimit (state.continueKeyless meter gas).firstGas
      (state.continueKeyless meter gas).rescuedGas (state.continueKeyless meter gas).phase := by
  rw [continueKeyless]
  split <;> exact shares

theorem paidFrom_afterInstruction (rescuedGas : Nat) (frame : EngineFrame) (ran : Interpreter) :
    PaidFrom state.gasLimit state.firstGas rescuedGas (state.afterInstruction frame ran).phase := by
  rw [afterInstruction]
  split <;> exact shares

omit shares

theorem paidFrom_transition (rex5 : config.spec.isEnabled .rex5 = true) (aligned : state.Aligned)
    (stipend : state.meter.limit.setup.stipendRex5 = true) (halts : state.Halts)
    (funded : state.Funded) (rules : ReturnsGas config state event)
    (later : event.firstInput? = none) (moves : Transition config state event next) :
    PaidFrom next.gasLimit next.firstGas next.rescuedGas next.phase := by
  cases moves with
  | outOfInitialGas isCreate executes old =>
    exact nomatch old.symm.trans rex5
  | firstFrame => cases later
  | refused _ _ starts | tooDeep _ _ starts | entered _ _ starts | passes _ _ starts
  | hint _ _ starts | answers _ _ starts => exact funded.shares starts rfl
  | keyless init starts first => exact paidFrom_startKeyless (funded.shares starts rfl) init
  | keylessCallerUnpaid _ _ deploys | keylessAnswer _ _ _ deploys => exact funded.shares deploys rfl
  | keylessCaller _ _ deploys | keylessMerge _ _ _ _ deploys =>
    exact paidFrom_continueKeyless (funded.shares deploys rfl) _ _
  | keylessReject gas cause halted => exact funded.shares halted rfl
  | reply outcome replies => exact paidFrom_answer (funded.shares replies rfl) _ _ _
  | admitStopped journal init admits growth grown exceeded =>
    exact paidFrom_answer (funded.shares admits rfl) _ _ _
  | admitted journal init admits growth grown within => exact funded.shares admits rfl
  | madeFrame created init makes => exact funded.shares makes rfl
  | madeResult _ _ _ makes | madePrecompile _ _ _ _ makes =>
    exact paidFrom_answer (funded.shares makes rfl) _ _ _
  | runStopped _ runs | runGoes _ runs => exact funded.shares runs rfl
  | execute instruction frame interprets =>
    exact paidFrom_afterInstruction (funded.shares interprets rfl) _ frame _
  | startChild _ _ stops | settled _ _ stops => exact funded.shares stops rfl
  | processed processed committed frame result settles => exact funded.shares settles rfl
  | popped outcome returns => exact funded.shares returns rfl
  | delivered _ _ _ _ delivers | deliveredLast _ _ delivers => exact funded.shares delivers rfl
  | finishedAnswer gas outcome answers =>
    have last : state.phase.last? = some outcome := answers ▸ rfl
    have active := (aligned.at answers nofun).hasActiveFrame
    refine paidFrom_finish stipend funded (funded.shares answers rfl) last
      (rules.last _ rfl outcome last) ?_
    intro exceeds
    have kept := beforeFrameReturnResult_verdict exceeds.isFinal true outcome.result
    exact beforeFrameReturnResult_outOfGas (fun _ => active) outcome.result (kept.symm ▸ exceeds)
  | finished gas outcome returns =>
    have last : state.phase.last? = some outcome := returns ▸ rfl
    refine paidFrom_finish stipend funded (funded.shares returns rfl) last
      (rules.last _ rfl outcome last) ?_
    intro exceeds
    rw [beforeFrameReturnResult_of_not_pops (aligned.inactive returns)]
    exact (instructionResult_burnedResult _ _).trans (halts.at returns exceeds)
  | rewarded credited outcome ends rex6 =>
    have paid := funded.at ends
    rw [rescuedGas, ← recordRewards_rescuedGas _ credited] at paid
    exact paid
  | _ => trivial

/-! ### Runs -/

theorem funded_transition (rex5 : config.spec.isEnabled .rex5 = true) (aligned : state.Aligned)
    (stipend : state.meter.limit.setup.stipendRex5 = true) (halts : state.Halts)
    (rules : ReturnsGas config state event) (funded : state.Funded)
    (moves : Transition config state event next) : next.Funded := by
  by_cases continues : ∀ tx, event ≠ .newTx tx
  · cases first : event.firstInput? with
    | none =>
      have firstGas := firstGas_transition moves first
      have alive := (aliveGas_transition rex5 stipend rules moves first).trans funded.alive
      have due := dueGas_transition rex5 stipend halts funded continues moves rules alive
      constructor
      · exact rescuedGas_of_within rex5 stipend halts funded continues moves
      · intro prepares
        exact rescuedGas_of_preparing rex5 stipend halts funded continues moves
          (preparing_transition moves continues prepares)
      · rw [firstGas]
        exact alive
      · rw [firstGas]
        exact due
      · exact paidFrom_transition rex5 aligned stipend halts funded rules first moves
    | some input =>
      cases moves with
      | firstFrame started executes =>
        have nothing : state.rescuedGas = 0 := funded.preparing (executes ▸ rfl)
        have gas : started.gasLimit ≤ state.gasLimit := rules.first started rfl
        have pending : 0 + started.gasLimit ≤ started.gasLimit := (Nat.zero_add _).le
        refine ⟨fun _ => nothing, nofun, pending, ?_, gas⟩
        show state.rescuedGas + (0 + started.gasLimit) ≤ started.gasLimit
        rw [nothing, Nat.zero_add]
        exact pending
      | _ => cases first
  · simp only [ne_eq, not_forall, not_not] at continues
    obtain ⟨tx, rfl⟩ := continues
    cases moves with
    | newTx =>
      have nothing : (state.meter.limit.reset.beforeTxStart tx).rescuedGas = 0 :=
        (moves_beforeTxStart _ tx).rescuedGas
      refine ⟨fun _ => nothing, fun _ => nothing, Nat.zero_le _, ?_, trivial⟩
      show (state.meter.limit.reset.beforeTxStart tx).rescuedGas + 0 ≤ state.firstGas
      rw [nothing]
      exact Nat.zero_le _

variable {events : List Event} {limits : EvmTxRuntimeLimits}

/-- From Rex5 on the stipend for storage is an allowance in every state of a run. -/
theorem stipendRex5_of_run (rex5 : config.spec.isEnabled .rex5 = true)
    (ran : Reaches config limits events state) : state.meter.limit.setup.stipendRex5 = true :=
  (congrArg LimitSetup.stipendRex5 (setup_of_run ran)).trans rex5

theorem funded_of_run (rex5 : config.spec.isEnabled .rex5 = true)
    (rules : StepsMeet (step config) (ReturnsGas config) (initial config limits) events)
    (ran : Reaches config limits events state) : state.Funded := by
  refine reached_invariant_of_meets ?_ ?_ rules ran
  · rintro state event next ⟨history, reached⟩ funded allowed stepped
    exact funded_transition rex5 (aligned_of_run reached) (stipendRex5_of_run rex5 reached)
      (halts_of_run (rex4_of_rex5 rex5) reached) allowed funded
      (transition_of_step stepped)
  · exact ⟨fun _ => rfl, fun _ => rfl, Nat.zero_le _, Nat.zero_le _, trivial⟩

/-- An execution that failed stays failed until the next transaction. -/
theorem failed_run {final : Execution} (failed : state.phase = .failed)
    (keeps : ∀ event ∈ events, KeepsVerdict config event)
    (ran : run (step config) state events = some final) : final.phase = .failed := by
  have meets : StepsMeet (step config) (fun _ => KeepsVerdict config) state events :=
    stepsMeet_of_forall_mem keeps state
  refine @run_invariant_of_meets _ _ (step config) _ (fun reached => reached.phase = .failed) ?_ _ _
    _ failed meets ran
  intro state event next failed keeps stepped
  cases transition_of_step stepped with
  | newTx => exact absurd keeps id
  | fail | admitFailed => rfl
  | _ => cases failed.symm.trans ‹state.phase = _›

/-- A step to a state with frames starts no transaction. -/
theorem continues_of_started (started : next.phase.isPreparing = false)
    (moves : Transition config state event next) : ∀ tx, event ≠ .newTx tx := by
  rintro tx rfl
  cases moves with
  | newTx => exact nomatch started

/-- Frames that were started stay started until the next transaction. -/
theorem started_transition (moves : Transition config state event next)
    (started : state.phase.isPreparing = false) (keeps : KeepsVerdict config event) :
    next.phase.isPreparing = false := by
  refine Bool.eq_false_iff.mpr fun prepares => ?_
  exact nomatch started.symm.trans (preparing_transition moves keeps.continues prepares)

/-- What each step keeps once the first frame was started, the rest of the transaction keeps. -/
theorem started_invariant {holds : Execution → Prop} {final : Execution}
    (preserved : ∀ {state event next}, holds state → (∀ tx, event ≠ .newTx tx) →
      event.firstInput? = none → Transition config state event next → holds next)
    (start : holds state) (started : state.phase.isPreparing = false)
    (keeps : ∀ event ∈ events, KeepsVerdict config event)
    (ran : run (step config) state events = some final) : holds final := by
  have both : final.phase.isPreparing = false ∧ holds final := by
    refine @run_invariant_of_meets _ _ (step config) (fun _ => KeepsVerdict config)
      (fun state => state.phase.isPreparing = false ∧ holds state) ?_ _ _ _ ⟨started, start⟩
      (stepsMeet_of_forall_mem keeps state) ran
    rintro state event next ⟨started, holds⟩ keeps stepped
    have moves := transition_of_step stepped
    have later : event.firstInput? = none := by
      cases moves with
      | firstFrame input executes =>
        rw [executes] at started
        cases started
      | _ => rfl
    exact ⟨started_transition moves started keeps, preserved holds keeps.continues later moves⟩
  exact both.2

/-- From the state in which an exceed of the transaction is latched on, what was rescued and still
can be does not grow, and from Rex6 on nothing of it is lost unless the execution fails. -/
theorem dueGas_run {history : List Event} {final : Execution}
    (rex5 : config.spec.isEnabled .rex5 = true) (exceeds : state.verdict.IsTxExceed)
    (started : state.phase.isPreparing = false) (reached : Reaches config limits history state)
    (rules : StepsMeet (step config) (ReturnsGas config) state events)
    (keeps : ∀ event ∈ events, KeepsVerdict config event)
    (ran : run (step config) state events = some final) :
    final.dueGas ≤ state.dueGas ∧
      (config.spec.isEnabled .rex6 = true → final.phase ≠ .failed →
        final.dueGas = state.dueGas) := by
  induction events generalizing state history with
  | nil =>
    cases ran
    exact ⟨Nat.le_refl _, fun _ _ => rfl⟩
  | cons event rest inductionHypothesis =>
    obtain ⟨next, stepped, remaining⟩ := run_cons_some ran
    have moves := transition_of_step stepped
    have keepsNow := keeps event List.mem_cons_self
    have verdict := verdict_transition exceeds.notWithin (fun _ => exceeds.isFinal) keepsNow moves
    have due := dueGas_of_exceeds rex5 (stipendRex5_of_run rex5 reached)
      (halts_of_run (rex4_of_rex5 rex5) reached) rules.head exceeds started keepsNow moves
    have keepsLater : ∀ later ∈ rest, KeepsVerdict config later :=
      fun later member => keeps later (List.mem_cons_of_mem _ member)
    have reachedNext := run_snoc reached stepped
    obtain ⟨bounded, complete⟩ := inductionHypothesis (verdict.symm ▸ exceeds)
      (started_transition moves started keepsNow) reachedNext
      (rules.tail stepped) keepsLater remaining
    refine ⟨bounded.trans due.1, fun rex6 alive => ?_⟩
    have nextAlive : next.phase ≠ .failed :=
      fun failed => alive (failed_run failed keepsLater remaining)
    exact (complete rex6 alive).trans (due.2 rex6 nextAlive)

/-- The gas that an exceed of the transaction gives back to the sender is no more than what the
frames had that were alive when it was latched, or the first frame if none was; and no transaction
ends with more gas than its limit. -/
theorem rescuedGas_le_aliveGas {limits : EvmTxRuntimeLimits} {history rest : List Event}
    {before after final : Execution} (rex5 : config.spec.isEnabled .rex5 = true)
    (reached : Library.run (step config) (initial config limits) history = some before)
    (stepped : step config before event = some after)
    (continued : Library.run (step config) after rest = some final)
    (rules : Library.StepsMeet (step config) (ReturnsGas config) (initial config limits)
      (history ++ event :: rest))
    (notLatched : ¬ before.verdict.IsTxExceed) (latched : after.verdict.IsTxExceed)
    (sameTransaction : ∀ later ∈ rest, KeepsVerdict config later) :
    final.rescuedGas ≤ (if after.phase.isPreparing then final.firstGas else after.aliveGas) ∧
      ∀ outcome, final.phase = .ended outcome →
        outcome.result.gas.remaining ≤ final.gasLimit := by
  obtain ⟨rulesBefore, rulesLater⟩ := (stepsMeet_append reached).mp rules
  have reachedAfter := run_snoc reached stepped
  have ran := run_through reached stepped continued
  have funded := funded_of_run rex5 rules ran
  refine ⟨?_, fun outcome ended => (funded.at ended).2.1.trans (funded.at ended).2.2⟩
  cases started : after.phase.isPreparing with
  | true => exact (Nat.le_add_right _ _).trans funded.due
  | false =>
    have kept := dueGas_run rex5 latched started reachedAfter (rulesLater.tail stepped)
      sameTransaction continued
    have moves := transition_of_step stepped
    have nothing := (funded_of_run rex5 rulesBefore reached).clear notLatched
    have due := dueGas_of_latch rex5 (stipendRex5_of_run rex5 reached)
      (halts_of_run (rex4_of_rex5 rex5) reached) notLatched nothing
      (continues_of_started started moves) latched moves
    exact ((Nat.le_add_right _ _).trans kept.1).trans due.1

/-- A transaction whose child reads volatile data, which detains it. -/
def detainedRun : List Event :=
  startedRun ++ childStart plainInnerCall ++
    [.execute
      (.volatile { disabled := none, computeGasLimit := some 500 }
        { remaining := 9900, action := none })]

/-- How both frames of a detained transaction are stopped. -/
def unwoundRest : List Event :=
  [.settle,
    .process (.call (emptyResult .outOfGas ⟨10000, 9000, 0⟩)) false,
    .popResult, .deliver ⟨40000, 20000, 0⟩, .beginRun, .settle,
    .process
      (.call
        { result := .outOfGas
          output := .limit (.megaLimitExceeded 2 31600)
          gas := ⟨40000, 20000, 0⟩ }) false,
    .popResult, .deliver (.new 0), .lastFrameResult ⟨100000, 0, 0⟩]

/-- The gas of both frames is rescued when the child exceeds the detained limit. -/
theorem rescuedGas_le_aliveGas_detained :
    ∃ before after final : Execution,
      Library.run (step rex6Config) (initial rex6Config roomyLimits) detainedRun = some before ∧
      step rex6Config before (.execute (.plain { remaining := 9000, action := none })) =
        some after ∧
      run (step rex6Config) after unwoundRest = some final ∧
      final.rescuedGas = 29000 ∧ after.aliveGas = 29000 ∧ final.rescuedGas ≤ after.aliveGas ∧
      ∀ outcome, final.phase = .ended outcome →
        outcome.result.gas.remaining ≤ final.gasLimit := by
  refine ⟨_, _, _, rfl, rfl, rfl, rfl, rfl, ?_⟩
  exact @rescuedGas_le_aliveGas rex6Config (.execute (.plain { remaining := 9000, action := none }))
    roomyLimits detainedRun unwoundRest _ _ _ rfl rfl rfl rfl (by decide +kernel) (by decide)
    (by decide) (by decide)

end Execution

end MegaEvm
