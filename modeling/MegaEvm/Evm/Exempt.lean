/-
This file carries exempt transactions through the instructions and the frame loop. Two
executions are alike if their limits differ in the limits only and everything else that a
step reads is the same. No check stops an exempt transaction, so a step of one execution
is a step of the other, at caps that need not be the same, and leaves them alike. A
precompile is the exception: it is given no more gas than the compute gas that is left.
-/

import MegaEvm.Evm.HaltReason
import MegaEvm.Limit.Unlimited

namespace MegaEvm

open AdditionalLimit VolatileDataExt ComputeGasExt

/-! ### Instructions -/

namespace Interpreter

/-- Interpreters of exempt transactions that differ in the limits only. -/
structure Alike (first second : Interpreter) : Prop where
  limit : first.meter.limit.Alike second.meter.limit
  gas : first.gas = second.gas
  action : first.action = second.action

variable {first second : Interpreter} (alike : first.Alike second)

include alike

theorem Alike.instructionResult : first.instructionResult = second.instructionResult := by
  unfold Interpreter.instructionResult
  rw [alike.action]

theorem Alike.aborts : first.aborts = second.aborts :=
  congrArg (fun result => Option.any InstructionResult.isError result) alike.instructionResult

theorem Alike.halt (result : InstructionResult) : (first.halt result).Alike (second.halt result) :=
  { alike with
    action := congrArg
      (fun gas => some (InterpreterAction.returnResult { result, output := .empty, gas }))
      alike.gas }

theorem Alike.revertWith (data : List Nat) :
    (first.revertWith data).Alike (second.revertWith data) :=
  { alike with
    action := congrArg
      (fun gas => some
        (InterpreterAction.returnResult { result := .revert, output := .bytes data, gas }))
      alike.gas }

theorem Alike.runInner (raw : RawOutcome) : (first.runInner raw).Alike (second.runInner raw) :=
  { alike with
    gas := congrArg (fun gas : Gas => { gas with remaining := raw.remaining }) alike.gas
    action := rfl }

theorem Alike.haltIfExceeded : first.haltIfExceeded.Alike second.haltIfExceeded := by
  unfold Interpreter.haltIfExceeded
  rw [limitExceeded_of_exempt alike.limit.exempt,
    limitExceeded_of_exempt alike.limit.exempt', if_neg Bool.false_ne_true,
    if_neg Bool.false_ne_true]
  exact alike

/-- Two results with a mark that is the same. -/
theorem Alike.spendGas (amount : Nat) :
    (first.spendGas amount).1.Alike (second.spendGas amount).1 ∧
      (first.spendGas amount).2 = (second.spendGas amount).2 := by
  unfold Interpreter.spendGas
  rw [alike.gas]
  cases second.gas.recordCost amount with
  | none => exact ⟨alike.halt .outOfGas, rfl⟩
  | some gas => exact ⟨{ alike with gas := rfl }, rfl⟩

theorem Alike.computeGas {charge charge' : ComputeCharge} (same : charge = charge') :
    (first.computeGas charge).1.Alike (second.computeGas charge').1 ∧
      (first.computeGas charge).2 = (second.computeGas charge').2 := by
  have recorded := alike.limit.recordComputeGas charge.gas
  subst same
  unfold Interpreter.computeGas Meter.recordComputeGas
  rw [recordComputeGas_of_exempt alike.limit.exempt] at recorded ⊢
  rw [recordComputeGas_of_exempt alike.limit.exempt'] at recorded ⊢
  exact ⟨{ alike with limit := recorded }, rfl⟩

end Interpreter

section Wrappers

open Interpreter

variable {first second : Interpreter} (alike : first.Alike second) (spec : MegaSpecId)

include alike

theorem ComputeGasExt.alike_wrapOp (raw : RawOutcome) :
    (wrapOp raw first).Alike (wrapOp raw second) := by
  have ran := alike.runInner raw
  unfold wrapOp
  dsimp only
  rw [ran.aborts]
  split
  · exact ran
  · refine (ran.computeGas ?_).1
    rw [alike.gas, ran.gas]

theorem ComputeGasExt.alike_wrapFrameOp (raw : RawOutcome) :
    (wrapFrameOp spec raw first).Alike (wrapFrameOp spec raw second) := by
  have ran := alike.runInner raw
  unfold wrapFrameOp
  dsimp only
  rw [ran.aborts]
  split
  · exact ran
  · refine (ran.computeGas ?_).1
    rw [alike.gas, ran.gas, ran.action]

theorem ComputeGasExt.alike_selfdestruct (refund : Option Nat) (raw : RawOutcome) :
    (selfdestruct refund raw first).Alike (selfdestruct refund raw second) := by
  have recorded : ∀ {refunded refunded' : Interpreter}, refunded.Alike refunded' →
      (if (refunded.runInner raw).aborts then refunded.runInner raw
        else haltIfExceeded
          { refunded.runInner raw with
            meter := (refunded.runInner raw).meter.recordComputeGasAllDims
              { gasBefore := first.gas.remaining
                gasAfter := (refunded.runInner raw).gas.remaining
                storageCharged := 0
                forwarded := 0 } }).Alike
      (if (refunded'.runInner raw).aborts then refunded'.runInner raw
        else haltIfExceeded
          { refunded'.runInner raw with
            meter := (refunded'.runInner raw).meter.recordComputeGasAllDims
              { gasBefore := second.gas.remaining
                gasAfter := (refunded'.runInner raw).gas.remaining
                storageCharged := 0
                forwarded := 0 } }) := by
    intro refunded refunded' refundedAlike
    have ran := refundedAlike.runInner raw
    rw [ran.aborts]
    split
    · exact ran
    · refine Alike.haltIfExceeded { ran with limit := ?_ }
      rw [alike.gas, ran.gas]
      exact ran.limit.recordComputeGasAllDims _
  cases refund with
  | none => exact recorded alike
  | some amount => exact recorded { alike with limit := alike.limit.onSelfdestruct amount }

variable {gasBefore gasBefore' : Nat}

theorem alike_recordStorageComputeGas (same : gasBefore = gasBefore') (storageCharged : Nat) :
    (recordStorageComputeGas spec gasBefore storageCharged first).1.Alike
        (recordStorageComputeGas spec gasBefore' storageCharged second).1 ∧
      (recordStorageComputeGas spec gasBefore storageCharged first).2 =
        (recordStorageComputeGas spec gasBefore' storageCharged second).2 := by
  subst same
  unfold recordStorageComputeGas
  rw [alike.gas, alike.action]
  dsimp only
  generalize ({ gasBefore, gasAfter := second.gas.remaining, storageCharged,
                forwarded := forwardedChildGas spec second.action } : ComputeCharge) = charge
  have recorded := alike.limit.recordComputeGas charge.gas
  unfold Meter.recordComputeGas
  rw [recordComputeGas_of_exempt alike.limit.exempt] at recorded ⊢
  rw [recordComputeGas_of_exempt alike.limit.exempt'] at recorded ⊢
  exact ⟨⟨recorded, rfl, rfl⟩, rfl⟩

theorem alike_chargeStorageGas (amount : Nat) :
    (chargeStorageGas amount first).1.Alike (chargeStorageGas amount second).1 ∧
      (chargeStorageGas amount first).2 = (chargeStorageGas amount second).2 := by
  obtain ⟨drawn, drained⟩ := alike.limit.tryConsumeStorageStipend amount
  have drawnAlike : Alike
      { first with
        meter := first.meter.update fun limit => (limit.tryConsumeStorageStipend amount).1 }
      { second with
        meter := second.meter.update fun limit => (limit.tryConsumeStorageStipend amount).1 } :=
    ⟨drawn, alike.gas, alike.action⟩
  obtain ⟨paid, goesOn⟩ :=
    drawnAlike.spendGas (amount - (second.meter.limit.tryConsumeStorageStipend amount).2)
  unfold chargeStorageGas
  dsimp only
  rw [drained]
  revert paid goesOn
  generalize spendGas { first with meter := _ } _ = spent
  generalize spendGas { second with meter := _ } _ = spent'
  obtain ⟨left, goes⟩ := spent
  obtain ⟨left', goes'⟩ := spent'
  rintro paid rfl
  cases goes with
  | false => exact ⟨paid, rfl⟩
  | true => exact ⟨⟨paid.limit, paid.gas, paid.action⟩, rfl⟩

theorem alike_runCharged (same : gasBefore = gasBefore') (raw : RawOutcome) (charged : Option Nat) :
    (runCharged spec gasBefore raw (first, charged)).Alike
      (runCharged spec gasBefore' raw (second, charged)) := by
  cases charged with
  | none => exact alike
  | some storageCharged =>
    have ran := alike.runInner raw
    unfold runCharged
    dsimp only
    rw [ran.aborts]
    split
    · exact ran
    · exact (alike_recordStorageComputeGas ran spec same storageCharged).1

/-- Storage gas is charged, and then the instruction runs. -/
theorem alike_runCharged_chargeStorageGas (amount : Nat) (same : gasBefore = gasBefore')
    (raw : RawOutcome) :
    (runCharged spec gasBefore raw (chargeStorageGas amount first)).Alike
      (runCharged spec gasBefore' raw (chargeStorageGas amount second)) := by
  obtain ⟨charged, amounts⟩ := alike_chargeStorageGas alike amount
  revert charged amounts
  obtain ⟨left, paid⟩ := chargeStorageGas amount first
  obtain ⟨left', paid'⟩ := chargeStorageGas amount second
  rintro charged rfl
  exact alike_runCharged charged spec same raw paid

namespace StorageGasExt

variable (early : Option InstructionResult) (inputs : SelfdestructInputs)

theorem alike_call (newAccountGas : Option Nat) (raw : RawOutcome) :
    (call spec early newAccountGas raw first).Alike (call spec early newAccountGas raw second) := by
  have remaining := congrArg Gas.remaining alike.gas
  cases early with
  | some result => exact alike.halt result
  | none =>
    cases newAccountGas with
    | none => exact alike_runCharged alike spec remaining raw (some 0)
    | some amount => exact alike_runCharged_chargeStorageGas alike spec amount remaining raw

theorem alike_log (topics length : Nat) (raw : RawOutcome) :
    (log spec early topics length raw first).Alike (log spec early topics length raw second) := by
  have remaining := congrArg Gas.remaining alike.gas
  cases early with
  | some result => exact alike.halt result
  | none =>
    unfold log
    cases logStorageCost topics length with
    | none => exact alike.halt .outOfGas
    | some cost => exact alike_runCharged_chargeStorageGas alike spec cost remaining raw

theorem alike_sstore (store : SStoreResult) (setGas : Nat) (raw : RawOutcome) :
    (sstore spec early store setGas raw first).Alike
      (sstore spec early store setGas raw second) := by
  have remaining := congrArg Gas.remaining alike.gas
  cases early with
  | some result => exact alike.halt result
  | none =>
    unfold sstore
    dsimp only
    split
    · exact alike_runCharged_chargeStorageGas alike spec setGas remaining raw
    · exact alike_runCharged alike spec remaining raw (some 0)

theorem alike_resized (resizeGas : Nat) :
    (resized first resizeGas).Alike (resized second resizeGas) :=
  ⟨alike.limit,
    congrArg (fun gas : Gas => { gas with remaining := gas.remaining - resizeGas }) alike.gas,
    alike.action⟩

theorem alike_createRex6 (inputs : CreateInputs) (raw : RawOutcome) :
    (createRex6 spec inputs raw first).Alike (createRex6 spec inputs raw second) := by
  have expanded := alike_resized alike inputs.resizeGas
  have remaining := congrArg Gas.remaining alike.gas
  unfold createRex6
  cases inputs.early with
  | some result => exact alike.halt result
  | none =>
    cases inputs.late with
    | some result => exact expanded.halt result
    | none =>
      exact alike_runCharged_chargeStorageGas expanded spec inputs.storageGas remaining raw

theorem alike_recordBeneficiary :
    (recordBeneficiary spec inputs first).1.Alike (recordBeneficiary spec inputs second).1 ∧
      (recordBeneficiary spec inputs first).2 = (recordBeneficiary spec inputs second).2 := by
  unfold recordBeneficiary
  split
  · obtain ⟨charged, amounts⟩ := alike_chargeStorageGas alike inputs.newAccountGas
    revert charged amounts
    obtain ⟨left, paid⟩ := chargeStorageGas inputs.newAccountGas first
    obtain ⟨left', paid'⟩ := chargeStorageGas inputs.newAccountGas second
    rintro charged rfl
    cases paid with
    | none => exact ⟨charged, rfl⟩
    | some amount =>
      exact ⟨⟨charged.limit.onSelfdestructNewAccount, charged.gas, charged.action⟩, rfl⟩
  · split
    · exact ⟨⟨alike.limit.onSelfdestructExistingAccount, alike.gas, alike.action⟩, rfl⟩
    · exact ⟨alike, rfl⟩

theorem alike_selfdestruct (refund : Option Nat) (raw : RawOutcome) :
    (selfdestruct spec inputs refund raw first).Alike
      (selfdestruct spec inputs refund raw second) := by
  unfold selfdestruct
  split
  · exact ComputeGasExt.alike_selfdestruct alike refund raw
  · cases inputs.early with
    | some result => exact alike.halt result
    | none =>
      obtain ⟨recorded, goesOn⟩ := alike_recordBeneficiary alike spec inputs
      revert recorded goesOn
      obtain ⟨left, goes⟩ := recordBeneficiary spec inputs first
      obtain ⟨left', goes'⟩ := recordBeneficiary spec inputs second
      rintro recorded rfl
      cases goes with
      | false => exact recorded
      | true => exact ComputeGasExt.alike_selfdestruct recorded refund raw

end StorageGasExt

theorem ForwardGasExt.alike_capForwarded (hasTransfer : Bool) :
    (capForwarded hasTransfer first).Alike (capForwarded hasTransfer second) := by
  unfold capForwarded
  rw [alike.action]
  split
  · dsimp only
    rw [alike.gas]
    exact ⟨alike.limit, rfl, rfl⟩
  · dsimp only
    rw [alike.gas]
    exact ⟨alike.limit, rfl, rfl⟩
  · exact alike

omit alike in
theorem ForwardGasExt.alike_wrapGasCap (hasTransfer : Bool) {inner : Interpreter → Interpreter}
    (ran : (inner first).Alike (inner second)) :
    (wrapGasCap hasTransfer inner first).Alike (wrapGasCap hasTransfer inner second) := by
  unfold wrapGasCap
  dsimp only
  rw [ran.aborts]
  split
  · exact ran
  · exact alike_capForwarded ran hasTransfer

namespace VolatileDataExt

variable (access : VolatileAccess) (cap cap' : Option Nat) {inner : Interpreter → Interpreter}

/-- The caps that the two transactions are detained with need not be the same. -/
theorem alike_applyComputeGasLimit :
    (applyComputeGasLimit { access with computeGasLimit := cap } first).Alike
      (applyComputeGasLimit { access with computeGasLimit := cap' } second) := by
  have left : (applyComputeGasLimit { access with computeGasLimit := cap } first).Alike second := by
    cases cap with
    | none => exact alike
    | some cap => exact ⟨alike.limit.setComputeGasLimit_left cap, alike.gas, alike.action⟩
  cases cap' with
  | none => exact left
  | some cap' => exact ⟨left.limit.setComputeGasLimit_right cap', left.gas, left.action⟩

variable (ran : (inner first).Alike (inner second))

include ran

theorem alike_wrapDetainGas :
    (wrapDetainGas { access with computeGasLimit := cap } inner first).Alike
      (wrapDetainGas { access with computeGasLimit := cap' } inner second) := by
  unfold wrapDetainGas
  cases access.disabled with
  | some data => exact alike.revertWith data
  | none =>
    dsimp only
    rw [ran.aborts]
    split
    · exact ran
    · exact alike_applyComputeGasLimit ran access cap cap'

theorem alike_wrapCall :
    (wrapCall { access with computeGasLimit := cap } inner first).Alike
      (wrapCall { access with computeGasLimit := cap' } inner second) := by
  unfold wrapCall
  cases access.disabled with
  | some data => exact alike.revertWith data
  | none => exact alike_applyComputeGasLimit ran access cap cap'

end VolatileDataExt

namespace AdditionalLimitExt

theorem alike_sstore (early : Option InstructionResult) (store : SStoreResult) (setGas : Nat)
    (raw : RawOutcome) :
    (sstore spec early store setGas raw first).Alike
      (sstore spec early store setGas raw second) := by
  cases early with
  | some result => exact alike.halt result
  | none =>
    have ran := StorageGasExt.alike_sstore alike spec none store setGas raw
    unfold sstore
    dsimp only
    rw [ran.aborts]
    split
    · exact ran
    · exact Alike.haltIfExceeded ⟨ran.limit.onSstore store, ran.gas, ran.action⟩

theorem alike_log (early : Option InstructionResult) (topics length : Nat) (raw : RawOutcome) :
    (log spec early topics length raw first).Alike (log spec early topics length raw second) := by
  cases early with
  | some result => exact alike.halt result
  | none =>
    have ran := StorageGasExt.alike_log alike spec none topics length raw
    unfold log
    dsimp only
    rw [ran.aborts]
    split
    · exact ran
    · exact Alike.haltIfExceeded ⟨ran.limit.onLog topics length, ran.gas, ran.action⟩

end AdditionalLimitExt

end Wrappers

/-- The instruction with the cap that detains the transaction when it reads volatile data. -/
def Instruction.withCap (cap : Option Nat) : Instruction → Instruction
  | volatile access raw => volatile { access with computeGasLimit := cap } raw
  | selfbalance access raw => selfbalance { access with computeGasLimit := cap } raw
  | sload access raw => sload { access with computeGasLimit := cap } raw
  | call scheme access value early newAccountGas raw =>
    call scheme { access with computeGasLimit := cap } value early newAccountGas raw
  | selfdestruct access inputs refund raw =>
    selfdestruct { access with computeGasLimit := cap } inputs refund raw
  | instruction => instruction

theorem Instruction.alike_execute {first second : Interpreter} (alike : first.Alike second)
    {spec : MegaSpecId} (rex6 : spec.isEnabled .rex6 = true) (instruction : Instruction)
    (cap cap' : Option Nat) :
    ((instruction.withCap cap).execute spec first).Alike
      ((instruction.withCap cap').execute spec second) := by
  cases instruction with
  | unknown result => exact alike.halt result
  | plain raw => exact alike_wrapOp alike raw
  | volatile access raw =>
    exact alike_wrapDetainGas alike access cap cap' (alike_wrapOp alike raw)
  | selfbalance access raw | sload access raw =>
    simp only [withCap, execute]
    split
    · exact alike_wrapDetainGas alike access cap cap' (alike_wrapOp alike raw)
    · exact alike_wrapOp alike raw
  | sstore early store setGas raw =>
    exact AdditionalLimitExt.alike_sstore alike spec early store setGas raw
  | log early topics length raw =>
    exact AdditionalLimitExt.alike_log alike spec early topics length raw
  | call scheme access value early newAccountGas raw =>
    have forwarded :=
      ForwardGasExt.alike_wrapGasCap (ForwardGasExt.checkCallHasTransfer scheme value)
      (StorageGasExt.alike_call alike spec early newAccountGas raw)
    simp only [withCap, execute, executeCall]
    split
    · exact alike_wrapCall alike access cap cap' forwarded
    · split
      · exact forwarded
      · exact alike_wrapFrameOp alike spec raw
  | create inputs raw =>
    refine ForwardGasExt.alike_wrapGasCap false ?_
    unfold StorageGasExt.create
    rw [rex6, if_pos rfl, if_pos rfl]
    exact StorageGasExt.alike_createRex6 alike spec inputs raw
  | selfdestruct access inputs refund raw =>
    simp only [withCap, execute, executeSelfdestruct]
    split
    · exact alike_wrapDetainGas alike access cap cap'
        (StorageGasExt.alike_selfdestruct alike spec inputs refund raw)
    split
    · exact alike_wrapDetainGas alike access cap cap' (alike_selfdestruct alike refund raw)
    split
    · exact alike_selfdestruct alike none raw
    · exact alike.halt _

/-! ### Steps -/

namespace Execution

/-- Executions of exempt transactions that differ in the limits, and in what happened before the
transaction, only. -/
structure Alike (first second : Execution) : Prop where
  limit : first.meter.limit.Alike second.meter.limit
  frames : first.frames = second.frames
  phase : first.phase = second.phase
  gasLimit : first.gasLimit = second.gasLimit

/-- The event with the cap that detains the transaction. -/
def Event.withCap (cap : Option Nat) : Event → Event
  | exemption systemOriginated _ => exemption systemOriginated cap
  | validate applied _ initialGas createsCaller => validate applied cap initialGas createsCaller
  | enterFrame _ => enterFrame cap
  | execute instruction => execute (instruction.withCap cap)
  | event => event

/-- A precompile gets all the gas its frame has. -/
def Uncapped (state : Execution) (event : Event) : Prop :=
  ∀ made ∈ event.made?, ∀ init ∈ state.phase.making?,
    match made with
    | .precompile _ _ _ =>
      init.input.gasLimit ≤ state.meter.limit.computeGas.currentCallRemaining
    | _ => True

instance (state : Execution) (event : Event) : Decidable (state.Uncapped event) :=
  have (made : Made) (init : FrameInit) : Decidable (match made with
      | .precompile _ _ _ =>
        init.input.gasLimit ≤ state.meter.limit.computeGas.currentCallRemaining
      | _ => True) :=
    match made with
    | .precompile _ _ _ => inferInstanceAs (Decidable (_ ≤ _))
    | .frame _ | .result _ _ => isTrue trivial
  inferInstanceAs (Decidable (∀ made ∈ _, _))

variable {first second : AdditionalLimit}

theorem alike_detain (alike : first.Alike second) (cap cap' : Option Nat) :
    (detain cap first).Alike (detain cap' second) := by
  have left : (detain cap first).Alike second := by
    cases cap with
    | none => exact alike
    | some cap => exact alike.setComputeGasLimit_left cap
  cases cap' with
  | none => exact left
  | some cap' => exact left.setComputeGasLimit_right cap'

theorem alike_detainOracle (config : EvmConfig) (alike : first.Alike second)
    (cap cap' : Option Nat) :
    (detainOracle config cap first).Alike (detainOracle config cap' second) := by
  unfold detainOracle
  split
  · exact alike
  · exact alike_detain alike cap cap'

theorem alike_recordAuthorities (alike : first.Alike second) (applied : List Bool)
    (cap cap' : Option Nat) :
    (recordAuthorities applied cap first).Alike (recordAuthorities applied cap' second) := by
  unfold recordAuthorities
  induction applied generalizing first second with
  | nil => exact alike_detain alike cap cap'
  | cons creates rest inductionHypothesis =>
    exact inductionHypothesis (alike.onRex6Eip7702AuthorityApplied creates)

section Steps

variable {config : EvmConfig} {first second : Execution} (alike : first.Alike second)

include alike

theorem Alike.answer (outcome : Outcome) : first.answer outcome = second.answer outcome := by
  unfold Execution.answer
  rw [alike.frames]

theorem Alike.validated (applied : List Bool) (cap cap' : Option Nat) (initialGas : Nat)
    (createsCaller : Bool) :
    (first.validated config applied cap initialGas createsCaller).limit.Alike
      (second.validated config applied cap' initialGas createsCaller).limit := by
  have authorities :
      (if config.spec.isEnabled .rex6 then first.meter.update (recordAuthorities applied cap)
        else first.meter).limit.Alike
      (if config.spec.isEnabled .rex6 then second.meter.update (recordAuthorities applied cap')
        else second.meter).limit := by
    split
    · exact alike_recordAuthorities alike.limit applied cap cap'
    · exact alike.limit
  have recorded := authorities.recordComputeGas initialGas
  unfold Execution.validated
  dsimp only
  split
  · exact recorded.recordDepositCallerCreation
  · exact recorded

/-- Both go to the same phase, with hooks that keep the limits alike. -/
theorem Alike.go {hook hook' : AdditionalLimit → AdditionalLimit} (phase : Phase)
    (hooked : (hook first.meter.limit).Alike (hook' second.meter.limit)) :
    (first.go hook phase).Alike (second.go hook' phase) :=
  { alike with limit := hooked, phase := rfl }

theorem alike_enterFrame (cap cap' : Option Nat) :
    Option.Rel Alike (enterFrame config first cap) (enterFrame config second cap') := by
  have detained := alike_detainOracle config alike.limit cap cap'
  unfold enterFrame
  rw [alike.phase]
  split
  · next init starts =>
    rw [frameResultIfExceedingLimit_of_exempt detained.exempt,
      frameResultIfExceedingLimit_of_exempt detained.exempt']
    cases config.spec.isEnabled .rex4 <;> cases tooDeep config init with
    | none => exact .some (alike.go (.intercepting init) detained)
    | some result => exact .some (alike.go (.replying { result, committed := false }) detained)
  · exact .none

omit alike in
/-- Exempt limits stop no keyless deployment. -/
theorem continueKeyless_of_exempt (state : Execution) {meter : Meter}
    (exempt : meter.limit.hasExceededLimit = .exempt) (gas : Gas) :
    state.continueKeyless meter gas =
      { state with meter := meter.update (·.checkLimit), phase := .keyless gas } := by
  have within : (meter.update (·.checkLimit)).limit.limitExceeded = false := by
    rw [Meter.update_limit, checkLimit_of_exempt exempt]
    exact limitExceeded_of_exempt exempt
  unfold continueKeyless
  dsimp only
  rw [within, Bool.false_and, if_neg Bool.false_ne_true]

theorem alike_continueKeyless {meter meter' : Meter} (metered : meter.limit.Alike meter'.limit)
    (gas : Gas) : (first.continueKeyless meter gas).Alike (second.continueKeyless meter' gas) := by
  rw [continueKeyless_of_exempt first metered.exempt,
    continueKeyless_of_exempt second metered.exempt']
  exact { alike with limit := metered.checkLimit, phase := rfl }

theorem alike_startKeyless (init : FrameInit) :
    (startKeyless config first init).Alike (startKeyless config second init) := by
  unfold startKeyless
  cases (Gas.new init.input.gasLimit).recordCost keylessDeployOverheadGas with
  | none => exact { alike with phase := rfl }
  | some gas =>
    dsimp only
    split
    · have recorded := alike.limit.recordComputeGas
        (.ofGas keylessDeployOverheadGas : ComputeCharge).gas
      unfold Meter.recordComputeGas
      rw [recordComputeGas_of_exempt alike.limit.exempt] at recorded ⊢
      rw [recordComputeGas_of_exempt alike.limit.exempt'] at recorded ⊢
      exact { alike with limit := recorded, phase := rfl }
    · exact { alike with phase := rfl }

theorem alike_intercept (interception : Interception) :
    Option.Rel Alike (intercept config first interception)
      (intercept config second interception) := by
  unfold intercept
  rw [alike.phase]
  split
  · next init starts =>
    cases interception with
    | passes | answers => exact .some { alike with phase := rfl }
    | hint length =>
      dsimp only
      split
      · exact .some (alike.go (.admitting init) (alike.limit.recordOracleHintBytes length))
      · exact .some { alike with phase := rfl }
    | keyless =>
      dsimp only
      split
      · exact .some (alike_startKeyless alike init)
      · exact .none
  · exact .none

theorem alike_keylessCaller (storageGas : Nat) :
    Option.Rel Alike (keylessCaller config first storageGas)
      (keylessCaller config second storageGas) := by
  unfold keylessCaller
  rw [alike.phase]
  split
  · next gas deploys =>
    split
    · cases gas.recordCost storageGas with
      | none => exact .some { alike with phase := rfl }
      | some left =>
        exact .some (alike_continueKeyless alike alike.limit.recordDepositCallerCreation left)
    · exact .none
  · exact .none

theorem alike_keylessMerge (usage : LimitUsage) (reservation gasUsed : Nat) :
    Option.Rel Alike (keylessMerge config first usage reservation gasUsed)
      (keylessMerge config second usage reservation gasUsed) := by
  unfold keylessMerge
  rw [alike.phase]
  split
  · next gas deploys =>
    split
    · cases gas.recordCost reservation with
      | none => exact .none
      | some reserved => exact .some (alike_continueKeyless alike (alike.limit.mergeUsage usage) _)
    · exact .none
  · exact .none

theorem alike_keylessReject :
    Option.Rel Alike (keylessReject config first) (keylessReject config second) := by
  unfold keylessReject
  rw [alike.phase]
  split
  · next gas cause halted =>
    refine .some (alike.go _ ?_)
    cases cause with
    | overflow => exact alike.limit.rescueGas gas
    | overhead =>
      unfold rescueKeyless
      dsimp only
      split
      · rw [tryRescueGas_of_exempt alike.limit.exempt, tryRescueGas_of_exempt alike.limit.exempt']
        exact alike.limit
      · exact alike.limit
  · exact .none

theorem alike_beforeInit (journal : JournalInspect) :
    Option.Rel Alike (first.beforeInit journal) (second.beforeInit journal) := by
  unfold beforeInit
  rw [alike.phase]
  split
  · next init admits =>
    have grows := alike.limit.beforeFrameInit_stateGrowth journal init.input
    rw [beforeFrameInit_of_exempt alike.limit.exempt, beforeFrameInit_of_exempt alike.limit.exempt']
    revert grows
    generalize first.meter.limit.stateGrowth.beforeFrameInit journal init.input = growth
    generalize second.meter.limit.stateGrowth.beforeFrameInit journal init.input = growth'
    rintro (⟨spec, grown⟩ | _)
    · dsimp only [Option.map_some]
      rw [alike.limit.grantedInit init]
      exact .some (alike.go _ (alike.limit.pushedFrame init spec grown))
    · exact .some { alike with phase := rfl }
  · exact .none

omit alike in
/-- A precompile that gets all the gas of its frame runs as if there were no limits. -/
theorem precompileResult_of_enough {state : Execution} {init : FrameInit}
    (enough : init.input.gasLimit ≤ state.meter.limit.computeGas.currentCallRemaining)
    (run : Nat → InterpreterResult) :
    state.precompileResult config init run =
      precompileOutput config init.input.gasLimit (run init.input.gasLimit) := by
  unfold precompileResult precompileGasLimit
  rw [Nat.min_eq_left enough, ite_self]

theorem alike_make (made : Made) (uncapped : first.Uncapped (.make made))
    (uncapped' : second.Uncapped (.make made)) :
    Option.Rel Alike (make config first made) (make config second made) := by
  have enough := uncapped made rfl
  have enough' := uncapped' made rfl
  rw [alike.phase] at enough
  unfold make
  rw [alike.phase]
  split
  · next init makes =>
    rw [makes] at enough enough'
    cases made with
    | frame created =>
      exact .some (alike.go _ (alike.limit.afterFrameInit (.item _)))
    | result result committed =>
      dsimp only
      rw [alike.answer]
      exact .some (alike.go _ (alike.limit.afterFrameInit (.result result)))
    | precompile =>
      dsimp only
      rw [precompileResult_of_enough (enough init rfl),
        precompileResult_of_enough (enough' init rfl)]
      generalize precompileOutput config _ _ = output
      refine .some { alike with limit := ?_, phase := alike.answer _ }
      exact (alike.limit.recordComputeGas _).afterFrameInit (.result (.call output))
  · exact .none

theorem alike_beginRun : Option.Rel Alike first.beginRun second.beginRun := by
  unfold beginRun
  rw [alike.phase]
  split
  · next frame runs =>
    rw [beforeFrameRun_of_exempt alike.limit.exempt, beforeFrameRun_of_exempt alike.limit.exempt']
    exact .some (alike.go _ alike.limit)
  · exact .none

theorem alike_execute (rex6 : config.spec.isEnabled .rex6 = true) (instruction : Instruction)
    (cap cap' : Option Nat) :
    Option.Rel Alike (execute config first (instruction.withCap cap))
      (execute config second (instruction.withCap cap')) := by
  unfold execute
  rw [alike.phase]
  split
  · next frame interprets =>
    have interpreters : Interpreter.Alike
        { meter := first.meter, gas := frame.gas, action := none }
        { meter := second.meter, gas := frame.gas, action := none } :=
      ⟨alike.limit, rfl, rfl⟩
    have ran := Instruction.alike_execute interpreters rex6 instruction cap cap'
    refine .some { alike with limit := ran.limit, phase := ?_ }
    unfold afterInstruction
    rw [ran.gas, ran.action]
  · exact .none

theorem alike_settleResult (isCreate : Bool) (result : InterpreterResult) :
    (settleResult config isCreate result first.meter).1.limit.Alike
        (settleResult config isCreate result second.meter).1.limit ∧
      (settleResult config isCreate result first.meter).2 =
        (settleResult config isCreate result second.meter).2 := by
  have deposited :
      (depositStorage isCreate result first.meter).1.limit.Alike
          (depositStorage isCreate result second.meter).1.limit ∧
        (depositStorage isCreate result first.meter).2 =
          (depositStorage isCreate result second.meter).2 := by
    unfold depositStorage
    split
    · cases result.gas.recordCost (codedepositStorageGas * result.output.length) with
      | none | some => exact ⟨alike.limit, rfl⟩
    · exact ⟨alike.limit, rfl⟩
  unfold settleResult
  dsimp only
  generalize depositStorage isCreate result second.meter = right at deposited ⊢
  have recorded : (depositCompute config isCreate right.2
      (depositStorage isCreate result first.meter).1).limit.Alike
        (depositCompute config isCreate right.2 right.1).limit := by
    unfold depositCompute
    split
    · exact deposited.1.recordComputeGas _
    · exact deposited.1
  rw [deposited.2]
  refine ⟨recorded.afterFrameRunInstructions _ _, ?_⟩
  rw [afterFrameRunInstructions_of_exempt recorded.exempt,
    afterFrameRunInstructions_of_exempt recorded.exempt']

theorem alike_settle : Option.Rel Alike (settle config first) (settle config second) := by
  unfold settle
  rw [alike.phase]
  split
  · next frame input stops =>
    refine .some { alike with frames := ?_, phase := ?_ }
    · exact congrArg (frame :: ·) alike.frames
    · rw [alike.frames]
  · next frame result stops =>
    obtain ⟨settled, same⟩ := @alike_settleResult config _ _ alike frame.isCreate result
    refine .some { alike with limit := settled, phase := ?_ }
    exact congrArg (Phase.settled frame) same
  · exact .none

theorem alike_process (processed : FrameResult) (committed : Bool) :
    Option.Rel Alike (process config first processed committed)
      (process config second processed committed) := by
  unfold process
  rw [alike.phase]
  split
  · next frame result settles =>
    refine .some { alike with limit := alike.limit.afterFrameRun _ _, phase := ?_ }
    unfold afterProcess
    dsimp only
    rw [afterFrameRun_of_exempt alike.limit.exempt, afterFrameRun_of_exempt alike.limit.exempt']
  · exact .none

theorem alike_popResult : Option.Rel Alike first.popResult second.popResult := by
  unfold popResult
  rw [alike.phase]
  split
  · next outcome returns =>
    unfold afterPop
    rw [beforeFrameReturnResult_of_exempt alike.limit.exempt,
      beforeFrameReturnResult_of_exempt alike.limit.exempt',
      alike.limit.burnedResult]
    exact .some { alike with limit := alike.limit.poppedFrame outcome.result, phase := rfl }
  · exact .none

theorem alike_deliver (parentGas : Gas) :
    Option.Rel Alike (first.deliver parentGas) (second.deliver parentGas) := by
  unfold deliver
  rw [alike.phase, alike.frames]
  split
  · next delivery delivers =>
    cases second.frames with
    | nil | cons => exact .some { alike with phase := rfl, frames := rfl }
  · exact .none

theorem alike_finish (outcome : Outcome) (gas : Gas) :
    (first.finish outcome gas).Alike (second.finish outcome gas) := by
  unfold finish
  rw [beforeFrameReturnResult_of_exempt alike.limit.exempt,
    beforeFrameReturnResult_of_exempt alike.limit.exempt',
    alike.limit.burnedResult]
  have popped := alike.limit.poppedFrame outcome.result
  dsimp only
  rw [popped.rescuedGas]
  exact { alike with limit := popped, phase := rfl }

omit alike in
theorem alike_recordRewards {first second : AdditionalLimit} (alike : first.Alike second)
    (credited : List Bool) :
    (credited.foldl recordReward first).Alike (credited.foldl recordReward second) := by
  induction credited generalizing first second with
  | nil => exact alike
  | cons created rest inductionHypothesis =>
    refine inductionHypothesis ?_
    have dataSize := alike.dataSize.addTxPersistent accountInfoWriteSize
    have kvUpdate := alike.kvUpdate.addTxPersistent 1
    cases created with
    | true =>
      exact { alike with dataSize, kvUpdate, stateGrowth := alike.stateGrowth.addTxPersistent 1 }
    | false => exact { alike with dataSize, kvUpdate }

/-- The rule of exempt transactions: a step of one is a step of the other, and they stay alike. -/
theorem alike_step (rex6 : config.spec.isEnabled .rex6 = true) {event : Event}
    (continues : event.continues = true) (uncapped : first.Uncapped event)
    (uncapped' : second.Uncapped event) (cap cap' : Option Nat) :
    Option.Rel Alike (step config first (event.withCap cap))
      (step config second (event.withCap cap')) := by
  cases event with
  | newTx | exemption => exact nomatch continues
  | validate applied given initialGas createsCaller =>
    simp only [Event.withCap, step, validate]
    rw [alike.phase]
    split
    · exact .some
        { alike with
          limit := alike.validated applied cap cap' initialGas createsCaller
          phase := rfl }
    · exact .none
  | systemCall =>
    simp only [Event.withCap, step, systemCall]
    rw [alike.phase]
    split
    · exact .some { alike with phase := rfl }
    · exact .none
  | preExecution amount =>
    simp only [Event.withCap, step, preExecution]
    rw [alike.phase]
    split
    · split
      · exact .some (alike.go _ (alike.limit.onRex5Eip7702AuthorityCreations amount))
      · exact .some { alike with phase := rfl }
    · exact .none
  | outOfInitialGas isCreate =>
    simp only [Event.withCap, step, outOfInitialGas]
    rw [alike.phase]
    split
    · split
      · exact .none
      · refine .some { alike with phase := ?_ }
        rw [alike.gasLimit]
    · exact .none
  | firstFrame input =>
    simp only [Event.withCap, step, firstFrame]
    rw [alike.phase]
    split
    · exact .some { alike with frames := rfl, phase := rfl }
    · exact .none
  | enterFrame given => exact alike_enterFrame alike cap cap'
  | intercept interception => exact alike_intercept alike interception
  | keylessCaller storageGas => exact alike_keylessCaller alike storageGas
  | keylessMerge usage reservation gasUsed =>
    exact alike_keylessMerge alike usage reservation gasUsed
  | keylessAnswer =>
    simp only [Event.withCap, step, keylessAnswer]
    rw [alike.phase]
    split
    · exact .some { alike with phase := rfl }
    · exact .none
  | keylessReject => exact alike_keylessReject alike
  | reply =>
    simp only [Event.withCap, step, reply]
    rw [alike.phase]
    split
    · rw [alike.answer]
      exact .some (alike.go _ alike.limit.pushEmptyFrame)
    · exact .none
  | beforeInit journal => exact alike_beforeInit alike journal
  | make made => exact alike_make alike made uncapped uncapped'
  | beginRun => exact alike_beginRun alike
  | execute instruction => exact alike_execute alike rex6 instruction cap cap'
  | settle => exact alike_settle alike
  | process processed committed => exact alike_process alike processed committed
  | popResult => exact alike_popResult alike
  | deliver parentGas => exact alike_deliver alike parentGas
  | lastFrameResult gas =>
    simp only [Event.withCap, step, lastFrameResult]
    rw [alike.phase]
    split
    · exact .some (alike_finish alike _ gas)
    · exact .some (alike_finish alike _ gas)
    · exact .none
  | reward credited =>
    simp only [Event.withCap, step, reward]
    rw [alike.phase, rex6]
    split
    · exact .some (alike.go _ (alike_recordRewards alike.limit credited))
    · exact .none
  | fail => exact .some { alike with phase := rfl }

end Steps

end Execution

end MegaEvm
