/-
This file proves the rule for the instruction wrappers. What is to be shown of the
meter after an instruction is given as two properties: one that holds as long as the
wrappers go on, and one that holds once the instruction has stopped its frame. The
hooks a wrapper calls have to keep them; then every instruction ends with the first, or
stops its frame with the second. Each invariant of the frame loop uses the rule at its
own properties, so that the wrappers are gone through only here.

`SELFDESTRUCT` records the writes to its beneficiary before it checks anything, and its
rule has a property of its own for the time in between.
-/

import MegaEvm.Evm.FrameLoop
import MegaEvm.Limit.Verdict

namespace MegaEvm

open StorageGasExt AdditionalLimit ComputeGasExt VolatileDataExt Interpreter ForwardGasExt

/-! ### What the parts of a wrapper can do -/

namespace Interpreter

/-- The frame returns, and not with success. -/
def Returns (interpreter : Interpreter) : Prop :=
  ∃ result, interpreter.action = some (.returnResult result) ∧ result.result.isOk = false

variable (interpreter : Interpreter)

include interpreter

theorem returns_halt {result : InstructionResult} (failed : result.isOk = false) :
    (interpreter.halt result).Returns :=
  ⟨_, rfl, failed⟩

/-- Recording compute gas goes on, or latches an exceed and stops the frame. -/
theorem computeGas_cases (charge : ComputeCharge) :
    ((interpreter.meter.recordComputeGas charge).1.limit.limitExceeded = false ∧
        interpreter.computeGas charge =
          ({ interpreter with meter := (interpreter.meter.recordComputeGas charge).1 }, true)) ∨
      ((interpreter.meter.recordComputeGas charge).1.limit.limitExceeded = true ∧
        interpreter.computeGas charge =
          (halt { interpreter with meter := (interpreter.meter.recordComputeGas charge).1 }
            (interpreter.meter.recordComputeGas charge).1.limit.exceedingInstructionResult,
            false)) := by
  have goes := interpreter.meter.limit.recordComputeGas_snd charge.gas
  simp only [computeGas, Meter.recordComputeGas, goes]
  cases (interpreter.meter.limit.recordComputeGas charge.gas).1.limitExceeded with
  | false => exact Or.inl ⟨rfl, rfl⟩
  | true => exact Or.inr ⟨rfl, rfl⟩

/-- Gas is spent, or the frame stops. -/
theorem spendGas_cases (amount : Nat) :
    (amount ≤ interpreter.gas.remaining ∧
        interpreter.spendGas amount =
          ({ interpreter with
              gas := { interpreter.gas with remaining := interpreter.gas.remaining - amount } },
            true)) ∨
      interpreter.spendGas amount = (interpreter.halt .outOfGas, false) := by
  rw [spendGas, Gas.recordCost]
  split
  · rename_i gas spent
    split at spent
    · rename_i enough
      rw [← Option.some.inj spent]
      exact Or.inl ⟨enough, rfl⟩
    · cases spent
  · exact Or.inr rfl

end Interpreter

namespace RawOutcome

/-- The engine's instruction failed. -/
def fails (raw : RawOutcome) : Bool :=
  match raw.action with
  | some (.returnResult result) => result.result.isError
  | _ => false

theorem returns_of_fails {raw : RawOutcome} (fails : raw.fails = true) (interpreter : Interpreter) :
    (interpreter.runInner raw).Returns := by
  rw [RawOutcome.fails] at fails
  split at fails
  · rename_i result action
    rw [InstructionResult.isError, Bool.and_eq_true, Bool.not_eq_true'] at fails
    exact ⟨result, action, fails.1⟩
  · exact nomatch fails

end RawOutcome

theorem Interpreter.aborts_runInner (interpreter : Interpreter) (raw : RawOutcome) :
    (interpreter.runInner raw).aborts = raw.fails := by
  obtain ⟨remaining, _ | action⟩ := raw
  · rfl
  · cases action <;> rfl

/-- Recording the compute gas of a storage instruction goes on, or latches an exceed and stops the
frame. -/
theorem recordStorageComputeGas_cases (spec : MegaSpecId) (gasBefore storageCharged : Nat)
    (interpreter : Interpreter) :
    let charge : ComputeCharge :=
      { gasBefore
        gasAfter := interpreter.gas.remaining
        storageCharged
        forwarded := forwardedChildGas spec interpreter.action }
    let meter := (interpreter.meter.recordComputeGas charge).1
    (meter.limit.limitExceeded = false ∧
        recordStorageComputeGas spec gasBefore storageCharged interpreter =
          ({ interpreter with meter }, true)) ∨
      (meter.limit.limitExceeded = true ∧
        recordStorageComputeGas spec gasBefore storageCharged interpreter =
          (halt
            { interpreter with
              meter
              gas :=
                if spec.isEnabled .rex6 then interpreter.gas.eraseCost charge.forwarded
                else interpreter.gas }
            meter.limit.exceedingInstructionResult, false)) := by
  intro charge meter
  have goes := interpreter.meter.limit.recordComputeGas_snd charge.gas
  simp only [recordStorageComputeGas, Meter.recordComputeGas]
  cases exceeded : meter.limit.limitExceeded with
  | false =>
    have goesOn : (interpreter.meter.limit.recordComputeGas charge.gas).2 = true := by
      rw [goes]
      exact congrArg (!·) exceeded
    rw [goesOn]
    exact Or.inl ⟨rfl, rfl⟩
  | true =>
    have stops : (interpreter.meter.limit.recordComputeGas charge.gas).2 = false := by
      rw [goes]
      exact congrArg (!·) exceeded
    rw [stops]
    exact Or.inr ⟨rfl, rfl⟩

/-- Storage gas is charged, less what the stipend pays, or the frame stops. -/
theorem chargeStorageGas_cases (amount : Nat) (interpreter : Interpreter) :
    let consumed := interpreter.meter.limit.tryConsumeStorageStipend amount
    let charged := amount - consumed.2
    (charged ≤ interpreter.gas.remaining ∧
        chargeStorageGas amount interpreter =
          ({ interpreter with
              meter := (interpreter.meter.update fun _ => consumed.1).chargeStorage charged
              gas := { interpreter.gas with remaining := interpreter.gas.remaining - charged } },
            some charged)) ∨
      chargeStorageGas amount interpreter =
        (halt
          { interpreter with meter := interpreter.meter.update fun _ => consumed.1 } .outOfGas,
          none) := by
  intro consumed charged
  have spends := spendGas_cases
    { interpreter with
      meter := interpreter.meter.update fun limit => (limit.tryConsumeStorageStipend amount).1 }
    (amount - (interpreter.meter.limit.tryConsumeStorageStipend amount).2)
  unfold chargeStorageGas
  dsimp only
  obtain ⟨enough, spent⟩ | stopped := spends
  · rw [spent]
    exact Or.inl ⟨enough, rfl⟩
  · rw [stopped]
    exact Or.inr rfl

/-! ### The rule -/

/-- Two properties of the meter that the hooks of the wrappers keep: `live` while they go on and
`halted` after a stop. -/
structure WrapperInvariant where
  live : Meter → Prop
  halted : Meter → Prop
  live_halted : ∀ {meter}, live meter → halted meter
  live_stipend : ∀ {meter} (amount : Nat), live meter →
    live (meter.update fun limit => (limit.tryConsumeStorageStipend amount).1)
  live_storage : ∀ {meter} (amount : Nat), live meter → live (meter.chargeStorage amount)
  live_record : ∀ {meter} (charge : ComputeCharge), live meter →
    (meter.recordComputeGas charge).1.limit.limitExceeded = false →
      live (meter.recordComputeGas charge).1
  halted_record : ∀ {meter} (charge : ComputeCharge), live meter →
    halted (meter.recordComputeGas charge).1
  live_detain : ∀ {meter} (cap : Nat), live meter →
    live (meter.update (·.setComputeGasLimit cap))
  halted_detain : ∀ {meter} (cap : Nat), halted meter →
    halted (meter.update (·.setComputeGasLimit cap))
  live_sstore : ∀ {meter} (store : SStoreResult), live meter →
    (meter.limit.onSstore store).limitExceeded = false → live (meter.update (·.onSstore store))
  halted_sstore : ∀ {meter} (store : SStoreResult), halted meter →
    halted (meter.update (·.onSstore store))
  live_log : ∀ {meter} (topics length : Nat), live meter →
    (meter.limit.onLog topics length).limitExceeded = false →
      live (meter.update (·.onLog topics length))
  halted_log : ∀ {meter} (topics length : Nat), halted meter →
    halted (meter.update (·.onLog topics length))

namespace WrapperInvariant

variable (invariant : WrapperInvariant)

/-- An instruction ended: the wrappers went on to the end, or the frame stopped. -/
def Ends (interpreter : Interpreter) : Prop :=
  invariant.live interpreter.meter ∨
    (interpreter.Returns ∧ invariant.halted interpreter.meter)

variable {invariant} {interpreter : Interpreter}

theorem ends_halt (halted : invariant.halted interpreter.meter) {result : InstructionResult}
    (failed : result.isOk = false) : invariant.Ends (interpreter.halt result) :=
  Or.inr ⟨interpreter.returns_halt failed, halted⟩

section

variable (live : invariant.live interpreter.meter)

include live

/-- A wrapper that stops before it called a hook leaves the meter live, whatever the status. -/
theorem ends_early (result : InstructionResult) : invariant.Ends (interpreter.halt result) :=
  Or.inl live

theorem ends_revertWith (data : List Nat) : invariant.Ends (interpreter.revertWith data) :=
  Or.inl live

theorem ends_computeGas (charge : ComputeCharge) :
    invariant.Ends (interpreter.computeGas charge).1 ∧
      ((interpreter.computeGas charge).2 = true →
        invariant.live (interpreter.computeGas charge).1.meter) := by
  obtain ⟨within, goes⟩ | ⟨_, stops⟩ := interpreter.computeGas_cases charge
  · have stillLive := invariant.live_record charge live within
    rw [goes]
    exact ⟨Or.inl stillLive, fun _ => stillLive⟩
  · rw [stops]
    exact ⟨ends_halt (invariant.halted_record charge live) (isOk_exceeding _), nofun⟩

end

variable (spec : MegaSpecId) (access : VolatileAccess) (gasBefore : Nat)
  {inner : Interpreter → Interpreter}

theorem ends_recordStorageComputeGas (storageCharged : Nat)
    (live : invariant.live interpreter.meter) :
    invariant.Ends (recordStorageComputeGas spec gasBefore storageCharged interpreter).1 ∧
      ((recordStorageComputeGas spec gasBefore storageCharged interpreter).2 = true →
        invariant.live
          (recordStorageComputeGas spec gasBefore storageCharged interpreter).1.meter) := by
  obtain ⟨within, goes⟩ | ⟨_, stops⟩ :=
    recordStorageComputeGas_cases spec gasBefore storageCharged interpreter
  · have stillLive := invariant.live_record _ live within
    rw [goes]
    exact ⟨Or.inl stillLive, fun _ => stillLive⟩
  · rw [stops]
    exact ⟨ends_halt (invariant.halted_record _ live) (isOk_exceeding _), nofun⟩

/-- Storage gas was charged and the wrapper goes on, or the frame stopped. -/
def Charged (invariant : WrapperInvariant) : Interpreter × Option Nat → Prop
  | (charged, some _) => invariant.live charged.meter
  | (stopped, none) => invariant.Ends stopped

theorem charged_chargeStorageGas (live : invariant.live interpreter.meter) (amount : Nat) :
    invariant.Charged (chargeStorageGas amount interpreter) := by
  have consumed := invariant.live_stipend amount live
  obtain ⟨_, charged⟩ | stopped := chargeStorageGas_cases amount interpreter
  · rw [charged]
    exact invariant.live_storage _ consumed
  · rw [stopped]
    exact ends_early consumed _

theorem ends_runCharged (raw : RawOutcome) {charged : Interpreter × Option Nat}
    (went : invariant.Charged charged) :
    invariant.Ends (runCharged spec gasBefore raw charged) := by
  obtain ⟨charged, storageCharged | storageCharged⟩ := charged
  · exact went
  · have ranLive : invariant.live (charged.runInner raw).meter := went
    rw [runCharged]
    split
    · exact Or.inl ranLive
    · exact (ends_recordStorageComputeGas spec gasBefore storageCharged ranLive).1

theorem ends_haltIfExceeded
    (live : interpreter.meter.limit.limitExceeded = false → invariant.live interpreter.meter)
    (halted : invariant.halted interpreter.meter) : invariant.Ends interpreter.haltIfExceeded := by
  rw [haltIfExceeded]
  split
  · exact ends_halt halted (isOk_exceeding _)
  · rename_i within
    exact Or.inl (live (Bool.eq_false_iff.mpr within))

/-! ### The layers -/

variable (live : invariant.live interpreter.meter)

include live

theorem ends_wrapOp (raw : RawOutcome) : invariant.Ends (wrapOp raw interpreter) := by
  have ranLive : invariant.live (interpreter.runInner raw).meter := live
  rw [wrapOp]
  split
  · exact Or.inl ranLive
  · exact (ends_computeGas ranLive _).1

theorem ends_wrapFrameOp (raw : RawOutcome) :
    invariant.Ends (wrapFrameOp spec raw interpreter) := by
  have ranLive : invariant.live (interpreter.runInner raw).meter := live
  rw [wrapFrameOp]
  split
  · exact Or.inl ranLive
  · exact (ends_computeGas ranLive _).1

variable (early : Option InstructionResult)

theorem ends_call (newAccountGas : Option Nat) (raw : RawOutcome) :
    invariant.Ends (call spec early newAccountGas raw interpreter) := by
  cases early with
  | some result => exact ends_early live result
  | none =>
    cases newAccountGas with
    | some amount => exact ends_runCharged spec _ raw (charged_chargeStorageGas live amount)
    | none =>
      have uncharged : invariant.Charged (interpreter, some 0) := live
      exact ends_runCharged spec _ raw uncharged

theorem ends_storageLog (topics length : Nat) (raw : RawOutcome) :
    invariant.Ends (log spec early topics length raw interpreter) := by
  cases early with
  | some result => exact ends_early live result
  | none =>
    rw [log]
    cases logStorageCost topics length with
    | none => exact ends_early live _
    | some cost => exact ends_runCharged spec _ raw (charged_chargeStorageGas live cost)

theorem ends_storageSstore (store : SStoreResult) (setGas : Nat) (raw : RawOutcome) :
    invariant.Ends (sstore spec early store setGas raw interpreter) := by
  cases early with
  | some result => exact ends_early live result
  | none =>
    refine ends_runCharged spec _ raw ?_
    split
    · exact charged_chargeStorageGas live setGas
    · exact live

variable (inputs : StorageGasExt.CreateInputs)

variable (raw : RawOutcome)

include raw

theorem ends_createResized : invariant.Ends (createResized spec inputs raw interpreter) := by
  rw [createResized]
  cases inputs.late with
  | some result => exact ends_early live result
  | none =>
    have went := charged_chargeStorageGas live inputs.storageGas
    revert went
    rcases chargeStorageGas inputs.storageGas interpreter with ⟨charged, storage | storage⟩
    · exact id
    · intro went
      have ranLive : invariant.live (charged.runInner raw).meter := went
      have recorded := ends_recordStorageComputeGas spec charged.gas.remaining 0 ranLive
      revert recorded
      dsimp only
      rcases recordStorageComputeGas spec charged.gas.remaining 0 (charged.runInner raw) with
        ⟨done, goes⟩
      intro recorded
      split
      · exact Or.inl ranLive
      · cases goes with
        | false => exact recorded.1
        | true =>
          have doneLive : invariant.live done.meter := recorded.2 rfl
          dsimp only
          split
          · exact (ends_computeGas doneLive _).1
          · exact Or.inl doneLive

theorem ends_createBeforeRex6 : invariant.Ends (createBeforeRex6 spec inputs raw interpreter) := by
  have resizedLive :
      invariant.live (resized interpreter inputs.resizeGas).meter := live
  have eager := ends_computeGas resizedLive (.ofGas inputs.resizeGas)
  rw [createBeforeRex6]
  cases inputs.early with
  | some result => exact ends_early live result
  | none =>
    revert eager
    dsimp only
    rcases (resized interpreter inputs.resizeGas).computeGas
      (.ofGas inputs.resizeGas) with ⟨recorded, goes⟩
    intro eager
    split
    · cases goes with
      | false => exact eager.1
      | true => exact ends_createResized spec (eager.2 rfl) inputs raw
    · exact ends_createResized spec resizedLive inputs raw

theorem ends_createRex6 : invariant.Ends (createRex6 spec inputs raw interpreter) := by
  have resizedLive :
      invariant.live (resized interpreter inputs.resizeGas).meter := live
  rw [createRex6]
  cases inputs.early with
  | some result => exact ends_early live result
  | none =>
    cases inputs.late with
    | some result => exact ends_early resizedLive result
    | none =>
      exact ends_runCharged spec _ raw (charged_chargeStorageGas resizedLive inputs.storageGas)

theorem ends_create : invariant.Ends (create spec inputs raw interpreter) := by
  rw [create]
  split
  · exact ends_createRex6 spec live inputs raw
  · exact ends_createBeforeRex6 spec live inputs raw

omit raw

omit live

/-- The cap on forwarded gas touches neither the limits nor a frame that returns. -/
theorem ends_wrapGasCap (hasTransfer : Bool) {inner : Interpreter → Interpreter}
    (ends : invariant.Ends (inner interpreter)) :
    invariant.Ends (wrapGasCap hasTransfer inner interpreter) := by
  rw [wrapGasCap]
  split
  · exact ends
  · obtain live | ⟨⟨result, returns, failed⟩, halted⟩ := ends
    · refine Or.inl ?_
      rw [capForwarded]
      split <;> exact live
    · refine Or.inr ⟨⟨result, ?_, failed⟩, ?_⟩ <;> rw [capForwarded, returns]
      · exact returns
      · exact halted

theorem ends_applyComputeGasLimit (ends : invariant.Ends interpreter) (access : VolatileAccess) :
    invariant.Ends (applyComputeGasLimit access interpreter) := by
  rw [applyComputeGasLimit]
  split
  · obtain live | ⟨returns, halted⟩ := ends
    · exact Or.inl (invariant.live_detain _ live)
    · exact Or.inr ⟨returns, invariant.halted_detain _ halted⟩
  · exact ends

theorem ends_wrapDetainGas (live : invariant.live interpreter.meter)
    (ends : invariant.Ends (inner interpreter)) :
    invariant.Ends (wrapDetainGas access inner interpreter) := by
  rw [wrapDetainGas]
  split
  · exact ends_revertWith live _
  · dsimp only
    split
    · exact ends
    · exact ends_applyComputeGasLimit ends access

theorem ends_wrapCall (live : invariant.live interpreter.meter)
    (ends : invariant.Ends (inner interpreter)) :
    invariant.Ends (wrapCall access inner interpreter) := by
  rw [wrapCall]
  split
  · exact ends_revertWith live _
  · exact ends_applyComputeGasLimit ends access

/-- A hook that counts writes after the wrapped instruction, and stops the frame at an exceed. It
also runs when the wrapped instruction stopped its frame with a revert. -/
theorem ends_hook {hook : AdditionalLimit → AdditionalLimit}
    (keepsLive : ∀ {meter}, invariant.live meter → (hook meter.limit).limitExceeded = false →
      invariant.live (meter.update hook))
    (keepsHalted : ∀ {meter}, invariant.halted meter → invariant.halted (meter.update hook))
    (ends : invariant.Ends interpreter) :
    invariant.Ends
      (haltIfExceeded { interpreter with meter := interpreter.meter.update hook }) := by
  obtain live | ⟨returns, halted⟩ := ends
  · exact ends_haltIfExceeded (keepsLive live) (keepsHalted (invariant.live_halted live))
  · rw [haltIfExceeded]
    split
    · exact ends_halt (keepsHalted halted) (isOk_exceeding _)
    · exact Or.inr ⟨returns, keepsHalted halted⟩

theorem ends_sstore (live : invariant.live interpreter.meter) (early : Option InstructionResult)
    (store : SStoreResult) (setGas : Nat) (raw : RawOutcome) :
    invariant.Ends (AdditionalLimitExt.sstore spec early store setGas raw interpreter) := by
  cases early with
  | some result => exact ends_early live result
  | none =>
    have stored := ends_storageSstore spec live none store setGas raw
    rw [AdditionalLimitExt.sstore]
    split
    · exact stored
    · exact ends_hook (invariant.live_sstore store) (invariant.halted_sstore store) stored

theorem ends_log (live : invariant.live interpreter.meter) (early : Option InstructionResult)
    (topics length : Nat) (raw : RawOutcome) :
    invariant.Ends (AdditionalLimitExt.log spec early topics length raw interpreter) := by
  cases early with
  | some result => exact ends_early live result
  | none =>
    have logged := ends_storageLog spec live none topics length raw
    rw [AdditionalLimitExt.log]
    split
    · exact logged
    · exact ends_hook (invariant.live_log topics length) (invariant.halted_log topics length) logged

/-! ### Self-destructs -/

/-- What a self-destruct has to keep: `recorded` holds of the limits from the recording of the
beneficiary on, a check takes it to the properties of the rule, and a failure of the engine's
instruction stops the frame without a check. -/
structure Destructs (invariant : WrapperInvariant) (raw : RawOutcome) (recorded : Meter → Prop) :
    Prop where
  refund : ∀ {meter} (amount : Nat), recorded meter →
    recorded (meter.update (·.onSelfdestruct amount))
  live : ∀ {meter} (charge : ComputeCharge), recorded meter →
    (meter.recordComputeGasAllDims charge).limit.limitExceeded = false →
      invariant.live (meter.recordComputeGasAllDims charge)
  halted : ∀ {meter} (charge : ComputeCharge), recorded meter →
    invariant.halted (meter.recordComputeGasAllDims charge)
  fails : ∀ {meter}, raw.fails = true → recorded meter → invariant.halted meter

/-- The recordings of a self-destruct keep the property, whichever of them it makes. -/
structure Records (spec : MegaSpecId) (meter : Meter) (inputs : StorageGasExt.SelfdestructInputs)
    (recorded : Meter → Prop) : Prop where
  unrecorded : recorded meter
  created : spec.isEnabled .rex5 = true → inputs.isStatic = false → inputs.early = none →
    inputs.createsTarget = true → ∀ amount charged,
      recorded
        (((meter.update fun limit => (limit.tryConsumeStorageStipend amount).1).chargeStorage
          charged).update (·.onSelfdestructNewAccount))
  credited : spec.isEnabled .rex6 = true → inputs.isStatic = false → inputs.early = none →
    inputs.creditsTarget = true → recorded (meter.update (·.onSelfdestructExistingAccount))

variable {raw : RawOutcome} {recorded : Meter → Prop}

theorem ends_computeSelfdestruct (destructs : invariant.Destructs raw recorded)
    (refund : Option Nat) (before : recorded interpreter.meter) :
    invariant.Ends (ComputeGasExt.selfdestruct refund raw interpreter) := by
  have finishes : ∀ refunded : Interpreter, recorded refunded.meter →
      invariant.Ends
        (if (refunded.runInner raw).aborts then refunded.runInner raw
        else
          haltIfExceeded
            { refunded.runInner raw with
              meter := (refunded.runInner raw).meter.recordComputeGasAllDims
                { gasBefore := interpreter.gas.remaining
                  gasAfter := (refunded.runInner raw).gas.remaining
                  storageCharged := 0
                  forwarded := 0 } }) := by
    intro refunded holds
    split
    · rename_i aborts
      have fails : raw.fails = true := (refunded.aborts_runInner raw).symm.trans aborts
      exact Or.inr ⟨RawOutcome.returns_of_fails fails refunded, destructs.fails fails holds⟩
    · exact ends_haltIfExceeded (destructs.live _ holds) (destructs.halted _ holds)
  cases refund with
  | none => exact finishes interpreter before
  | some amount =>
    exact finishes { interpreter with meter := interpreter.meter.update (·.onSelfdestruct amount) }
      (destructs.refund amount before)

theorem ends_storageSelfdestruct {spec : MegaSpecId}
    {inputs : StorageGasExt.SelfdestructInputs} (destructs : invariant.Destructs raw recorded)
    (live : invariant.live interpreter.meter)
    (records : Records spec interpreter.meter inputs recorded)
    (rex5 : spec.isEnabled .rex5 = true) (refund : Option Nat) :
    invariant.Ends (StorageGasExt.selfdestruct spec inputs refund raw interpreter) := by
  rw [StorageGasExt.selfdestruct]
  split
  · exact ends_computeSelfdestruct destructs refund records.unrecorded
  · rename_i notStatic
    have notStatic := Bool.eq_false_iff.mpr notStatic
    cases early : inputs.early with
    | some result => exact ends_early live result
    | none =>
      rw [recordBeneficiary]
      split_ifs with creates credits
      · have stipend := invariant.live_stipend inputs.newAccountGas live
        obtain ⟨_, charged⟩ | stopped := chargeStorageGas_cases inputs.newAccountGas interpreter
        · rw [charged]
          exact ends_computeSelfdestruct destructs refund
            (records.created rex5 notStatic early creates inputs.newAccountGas _)
        · rw [stopped]
          exact ends_early stipend _
      · obtain ⟨rex6, credits⟩ := Bool.and_eq_true_iff.mp credits
        exact ends_computeSelfdestruct destructs refund
          (records.credited rex6 notStatic early credits)
      · exact ends_computeSelfdestruct destructs refund records.unrecorded

/-! ### Instructions -/

/-- The rule for a call-like instruction. -/
theorem ends_executeCall (spec : MegaSpecId) (live : invariant.live interpreter.meter)
    (scheme : CallScheme) (access : VolatileAccess) (value : U256)
    (early : Option InstructionResult) (newAccountGas : Option Nat) (raw : RawOutcome) :
    invariant.Ends
      (Instruction.executeCall spec scheme access value early newAccountGas raw
        interpreter) := by
  have forwards := ends_wrapGasCap (checkCallHasTransfer scheme value)
    (ends_call spec live early newAccountGas raw)
  simp only [Instruction.executeCall]
  split_ifs
  · exact ends_wrapCall access live forwards
  · exact forwards
  · exact ends_wrapFrameOp spec live raw

/-- What an instruction records besides its gas, if it is a self-destruct, is kept by the rule. -/
def Allows (invariant : WrapperInvariant) (spec : MegaSpecId) (meter : Meter) : Instruction → Prop
  | .selfdestruct _ inputs _ raw =>
    ∃ recorded, invariant.Destructs raw recorded ∧ Records spec meter inputs recorded
  | _ => True

/-- Every instruction ends with the meter live, or stops its frame with the meter halted. -/
theorem ends_execute (spec : MegaSpecId) (live : invariant.live interpreter.meter)
    {instruction : Instruction} (allows : invariant.Allows spec interpreter.meter instruction) :
    invariant.Ends (instruction.execute spec interpreter) := by
  cases instruction with
  | unknown result => exact ends_early live result
  | plain raw => exact ends_wrapOp live raw
  | volatile access raw => exact ends_wrapDetainGas access live (ends_wrapOp live raw)
  | selfbalance access raw | sload access raw =>
    simp only [Instruction.execute]
    split_ifs
    · exact ends_wrapDetainGas access live (ends_wrapOp live raw)
    · exact ends_wrapOp live raw
  | sstore early store setGas raw => exact ends_sstore spec live early store setGas raw
  | log early topics length raw => exact ends_log spec live early topics length raw
  | call scheme access value early newAccountGas raw =>
    exact ends_executeCall spec live scheme access value early newAccountGas raw
  | create inputs raw => exact ends_wrapGasCap false (ends_create spec live inputs raw)
  | selfdestruct access inputs refund raw =>
    obtain ⟨recorded, destructs, records⟩ := allows
    simp only [Instruction.execute, Instruction.executeSelfdestruct]
    split_ifs with rex5
    · exact ends_wrapDetainGas access live
        (ends_storageSelfdestruct destructs live records rex5 refund)
    · exact ends_wrapDetainGas access live
        (ends_computeSelfdestruct destructs refund records.unrecorded)
    · exact ends_computeSelfdestruct destructs none records.unrecorded
    · exact ends_early live _

end WrapperInvariant

end MegaEvm
