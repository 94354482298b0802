/-
This file is about the gas that a call or a create hands to its child. The engine forwards
what is requested, at most all but one 64th of what is left, and adds a stipend of its own
for a call that transfers value. The wrapper then caps what was forwarded at all but two
percent and gives the rest back. It recovers what was left before from the gas of the child,
so it has to know whether the stipend is part of that.

From the cap follows how much gas a deep frame can have. Where no gas limit is inflated,
each level of nesting leaves at most 98 percent, up to rounding, and a stipend.
-/

import MegaEvm.Evm.InstructionGas

namespace MegaEvm

open StorageGasExt FrameInput VolatileDataExt ComputeGasExt

/-! ### The child of an instruction -/

namespace Interpreter

variable {raw : RawOutcome} {before middle after : Interpreter}

/-- The wrapper keeps the gas limit of its frame, and a child it leaves is the one of the engine,
with the gas that the engine left. -/
structure Starts (raw : RawOutcome) (before after : Interpreter) : Prop where
  limit : after.gas.limit = before.gas.limit
  child : ∀ input, after.action = some (.newFrame input) →
    raw.action = some (.newFrame input) ∧ after.gas.remaining = raw.remaining

/-- A wrapper that stops its frame leaves no child. -/
theorem starts_halt (limit : middle.gas.limit = before.gas.limit) (result : InstructionResult) :
    Starts raw before (middle.halt result) :=
  ⟨limit, nofun⟩

theorem starts_revertWith (data : List Nat) : Starts raw before (before.revertWith data) :=
  ⟨rfl, nofun⟩

theorem starts_runInner (limit : middle.gas.limit = before.gas.limit) :
    Starts raw before (middle.runInner raw) :=
  ⟨limit, fun _ starts => ⟨starts, rfl⟩⟩

variable (starts : Starts raw before after)

include starts

theorem Starts.withMeter (meter : Meter) : Starts raw before { after with meter } :=
  ⟨starts.limit, starts.child⟩

theorem Starts.computeGas (charge : ComputeCharge) :
    Starts raw before (after.computeGas charge).1 := by
  obtain ⟨_, goes⟩ | ⟨_, stops⟩ := after.computeGas_cases charge
  · rw [goes]
    exact starts.withMeter _
  · rw [stops]
    exact starts_halt (by exact starts.limit) _

theorem Starts.haltIfExceeded : Starts raw before after.haltIfExceeded := by
  rw [Interpreter.haltIfExceeded]
  split
  · exact starts_halt starts.limit _
  · exact starts

theorem Starts.recordStorageComputeGas (spec : MegaSpecId) (gasBefore storageCharged : Nat) :
    Starts raw before (MegaEvm.recordStorageComputeGas spec gasBefore storageCharged after).1 := by
  obtain ⟨_, goes⟩ | ⟨_, stops⟩ := recordStorageComputeGas_cases spec gasBefore storageCharged after
  · rw [goes]
    exact starts.withMeter _
  · rw [stops]
    refine starts_halt ?_ _
    split <;> exact starts.limit

omit starts

/-- Storage gas that was charged, or the stop of the frame that cannot pay it. -/
theorem starts_chargeStorageGas (amount : Nat) (limit : middle.gas.limit = before.gas.limit) :
    (chargeStorageGas amount middle).1.gas.limit = before.gas.limit ∧
      ((chargeStorageGas amount middle).2 = none →
        Starts raw before (chargeStorageGas amount middle).1) := by
  obtain ⟨_, charged⟩ | stopped := chargeStorageGas_cases amount middle
  · rw [charged]
    exact ⟨limit, nofun⟩
  · rw [stopped]
    exact ⟨limit, fun _ => starts_halt (by exact limit) _⟩

theorem starts_runCharged (spec : MegaSpecId) (gasBefore : Nat)
    {charged : Interpreter × Option Nat} (limit : charged.1.gas.limit = before.gas.limit)
    (stopped : charged.2 = none → Starts raw before charged.1) :
    Starts raw before (runCharged spec gasBefore raw charged) := by
  obtain ⟨charged, _ | storageCharged⟩ := charged
  · exact stopped rfl
  · simp only [runCharged]
    split
    · exact starts_runInner limit
    · exact (starts_runInner limit).recordStorageComputeGas spec gasBefore storageCharged

theorem starts_runUncharged (spec : MegaSpecId) (gasBefore : Nat) :
    Starts raw before (runCharged spec gasBefore raw (before, some 0)) :=
  starts_runCharged spec gasBefore (by rfl) nofun

end Interpreter

namespace Instruction

variable {spec : MegaSpecId} {raw : RawOutcome} {interpreter : Interpreter}

open Interpreter

theorem starts_wrapOp : Starts raw interpreter (wrapOp raw interpreter) := by
  simp only [wrapOp]
  split
  · exact starts_runInner rfl
  · exact (starts_runInner rfl).computeGas _

theorem starts_wrapFrameOp (spec : MegaSpecId) :
    Starts raw interpreter (wrapFrameOp spec raw interpreter) := by
  simp only [wrapFrameOp]
  split
  · exact starts_runInner rfl
  · exact (starts_runInner rfl).computeGas _

theorem starts_computeSelfdestruct (refund : Option Nat) {middle : Interpreter}
    (limit : middle.gas.limit = interpreter.gas.limit) :
    Starts raw interpreter (ComputeGasExt.selfdestruct refund raw middle) := by
  have refunded (meter : Meter) :
      Starts raw interpreter (Interpreter.runInner { middle with meter } raw) :=
    starts_runInner limit
  cases refund with
  | none =>
    simp only [ComputeGasExt.selfdestruct]
    split
    · exact starts_runInner limit
    · exact ((starts_runInner limit).withMeter _).haltIfExceeded
  | some amount =>
    simp only [ComputeGasExt.selfdestruct]
    split
    · exact refunded _
    · exact ((refunded _).withMeter _).haltIfExceeded

theorem starts_storageCall (early : Option InstructionResult) (newAccountGas : Option Nat) :
    Starts raw interpreter (StorageGasExt.call spec early newAccountGas raw interpreter) := by
  cases early with
  | some result => exact starts_halt rfl result
  | none =>
    cases newAccountGas with
    | none => exact starts_runUncharged spec _
    | some amount =>
      obtain ⟨limit, stopped⟩ := @starts_chargeStorageGas raw interpreter interpreter amount rfl
      exact starts_runCharged spec _ limit stopped

theorem starts_storageLog (topics length : Nat) :
    Starts raw interpreter (StorageGasExt.log spec none topics length raw interpreter) := by
  simp only [StorageGasExt.log]
  split
  · exact starts_halt rfl _
  · rename_i cost _
    obtain ⟨limit, stopped⟩ := @starts_chargeStorageGas raw interpreter interpreter cost rfl
    exact starts_runCharged spec _ limit stopped

theorem starts_storageSstore (store : SStoreResult) (setGas : Nat) :
    Starts raw interpreter (StorageGasExt.sstore spec none store setGas raw interpreter) := by
  simp only [StorageGasExt.sstore]
  split
  · obtain ⟨limit, stopped⟩ := @starts_chargeStorageGas raw interpreter interpreter setGas rfl
    exact starts_runCharged spec _ limit stopped
  · exact starts_runUncharged spec _

theorem starts_createResized (inputs : StorageGasExt.CreateInputs) {middle : Interpreter}
    (limit : middle.gas.limit = interpreter.gas.limit) :
    Starts raw interpreter (createResized spec inputs raw middle) := by
  rw [createResized]
  split
  · exact starts_halt limit _
  · obtain ⟨charged, stopped⟩ :=
      @starts_chargeStorageGas raw interpreter middle inputs.storageGas limit
    generalize chargeStorageGas inputs.storageGas middle = pair at charged stopped ⊢
    obtain ⟨paid, _ | storage⟩ := pair
    · exact stopped rfl
    · dsimp only
      split
      · exact starts_runInner charged
      · have recorded := (@starts_runInner raw interpreter paid charged).recordStorageComputeGas
          spec paid.gas.remaining 0
        generalize recordStorageComputeGas spec paid.gas.remaining 0 (paid.runInner raw) =
          pair at recorded ⊢
        obtain ⟨done, _ | _⟩ := pair
        · exact recorded
        · dsimp only
          split
          · exact recorded.computeGas _
          · exact recorded

theorem starts_create (inputs : StorageGasExt.CreateInputs) :
    Starts raw interpreter (StorageGasExt.create spec inputs raw interpreter) := by
  rw [StorageGasExt.create]
  split
  · rw [createRex6]
    split
    · exact starts_halt rfl _
    · dsimp only
      split
      · exact starts_halt (by rfl) _
      · obtain ⟨limit, stopped⟩ := @starts_chargeStorageGas raw interpreter
          (resized interpreter inputs.resizeGas) inputs.storageGas rfl
        exact starts_runCharged spec _ limit stopped
  · rw [createBeforeRex6]
    split
    · exact starts_halt rfl _
    · dsimp only
      split
      · obtain ⟨_, goes⟩ | ⟨_, stops⟩ := (resized interpreter
          inputs.resizeGas).computeGas_cases (.ofGas inputs.resizeGas)
        · rw [goes]
          exact starts_createResized inputs rfl
        · rw [stops]
          exact starts_halt (by rfl) _
      · exact starts_createResized inputs rfl

end Instruction

/-! ### The cap -/

namespace FrameInput

def withGasLimit (gasLimit : Nat) : FrameInput → FrameInput
  | call inputs => call { inputs with gasLimit }
  | create inputs => create { inputs with gasLimit }

/-- What the engine adds to the gas of the child: its stipend, for a call that transfers value. -/
def engineStipend (input : FrameInput) : Nat :=
  if Execution.grantsStipend input then callStipend else 0

theorem gasLimit_withGasLimit (gasLimit : Nat) (input : FrameInput) :
    (input.withGasLimit gasLimit).gasLimit = gasLimit := by
  cases input <;> rfl

theorem engineStipend_withGasLimit (gasLimit : Nat) (input : FrameInput) :
    (input.withGasLimit gasLimit).engineStipend = input.engineStipend := by
  cases input <;> rfl

theorem withGasLimit_withGasLimit (first second : Nat) (input : FrameInput) :
    (input.withGasLimit first).withGasLimit second = input.withGasLimit second := by
  cases input <;> rfl

/-- What was taken from the parent for the child. -/
def forwardedGas (input : FrameInput) : Nat :=
  input.gasLimit - input.engineStipend

end FrameInput

namespace ForwardGasExt

/-- What is left to be taken from a parent that had the gas before anything was forwarded. -/
def takenGas (forwarded gasLeft : Nat) : Nat :=
  min forwarded (forwardedGasCap gasLeft)

/-- The child of the engine, and what its parent has, after the cap. -/
structure Caps (raw : RawOutcome) (input child : FrameInput) (after : Interpreter) : Prop where
  child : child = input.withGasLimit
    (takenGas input.forwardedGas (raw.remaining + input.forwardedGas) + input.engineStipend)
  balance : after.gas.remaining +
    takenGas input.forwardedGas (raw.remaining + input.forwardedGas) =
      raw.remaining + input.forwardedGas

/-- The flag that a wrapper peeks from the stack tells whether the engine added its stipend. -/
def Tells (hasTransfer : Bool) (raw : RawOutcome) : Prop :=
  ∀ inputs, raw.action = some (.newFrame (.call inputs)) →
    Execution.grantsStipend (.call inputs) = hasTransfer

/-- What is returned to the parent is what the cap takes away from the child. -/
theorem balance_takenGas (remaining forwarded : Nat) :
    remaining + (forwarded - takenGas forwarded (remaining + forwarded)) +
      takenGas forwarded (remaining + forwarded) = remaining + forwarded := by
  have taken : takenGas forwarded (remaining + forwarded) ≤ forwarded := min_le_left _ _
  omega

variable {raw : RawOutcome}

theorem caps_capForwarded {before ran : Interpreter} {hasTransfer : Bool} {child : FrameInput}
    (starts : Interpreter.Starts raw before ran) (tells : Tells hasTransfer raw)
    (leaves : (capForwarded hasTransfer ran).action = some (.newFrame child)) :
    ∃ input, raw.action = some (.newFrame input) ∧
      Caps raw input child (capForwarded hasTransfer ran) := by
  revert leaves
  rw [capForwarded]
  split
  · rename_i inputs action
    obtain ⟨same, remaining⟩ := starts.child _ action
    have stipend : (if hasTransfer = true then callStipend else 0) =
        (call inputs).engineStipend := by
      rw [engineStipend, tells inputs same]
    intro leaves
    rw [stipend] at leaves ⊢
    refine ⟨.call inputs, same, ?_, ?_⟩
    · rw [remaining] at leaves
      exact (InterpreterAction.newFrame.inj (Option.some.inj leaves)).symm
    · rw [← remaining]
      exact balance_takenGas _ _
  · rename_i inputs action
    obtain ⟨same, remaining⟩ := starts.child _ action
    intro leaves
    refine ⟨.create inputs, same, ?_, ?_⟩
    · rw [remaining] at leaves
      exact (InterpreterAction.newFrame.inj (Option.some.inj leaves)).symm
    · rw [← remaining]
      exact balance_takenGas _ _
  · rename_i noCall noCreate
    intro leaves
    cases child with
    | call inputs => exact absurd leaves (noCall inputs)
    | create inputs => exact absurd leaves (noCreate inputs)

theorem limit_capForwarded (hasTransfer : Bool) (interpreter : Interpreter) :
    (capForwarded hasTransfer interpreter).gas.limit = interpreter.gas.limit := by
  rw [capForwarded]
  split <;> rfl

theorem caps_wrapGasCap {interpreter : Interpreter} {hasTransfer : Bool}
    {inner : Interpreter → Interpreter} {child : FrameInput}
    (starts : Interpreter.Starts raw interpreter (inner interpreter))
    (tells : Tells hasTransfer raw)
    (leaves : (wrapGasCap hasTransfer inner interpreter).action = some (.newFrame child)) :
    ∃ input, raw.action = some (.newFrame input) ∧
      Caps raw input child (wrapGasCap hasTransfer inner interpreter) := by
  revert leaves
  rw [wrapGasCap]
  split
  · rename_i aborts
    intro leaves
    rw [Interpreter.aborts, Interpreter.instructionResult, leaves] at aborts
    cases aborts
  · exact caps_capForwarded starts tells

theorem limit_wrapGasCap {interpreter : Interpreter} {inner : Interpreter → Interpreter}
    (hasTransfer : Bool) (starts : Interpreter.Starts raw interpreter (inner interpreter)) :
    (wrapGasCap hasTransfer inner interpreter).gas.limit = interpreter.gas.limit := by
  rw [wrapGasCap]
  split
  · exact starts.limit
  · exact (limit_capForwarded hasTransfer _).trans starts.limit

end ForwardGasExt

namespace Instruction

variable {spec : MegaSpecId} {instruction : Instruction} {interpreter : Interpreter}

open Interpreter ForwardGasExt

/-- The table of the specification wraps the instruction in the cap, or it starts no child. MiniRex
leaves out the calls other than `CALL`. -/
def isCapped (spec : MegaSpecId) : Instruction → Bool
  | call scheme .. => spec.isEnabled .rex || scheme == .call
  | _ => true

/-- The child that the engine leaves. -/
def child? (instruction : Instruction) : Option FrameInput :=
  match instruction.raw? with
  | some { action := some (.newFrame input), .. } => some input
  | _ => none

variable {raw : RawOutcome}

theorem child?_eq {input : FrameInput} (runs : raw ∈ instruction.raw?)
    (starts : raw.action = some (.newFrame input)) : instruction.child? = some input := by
  obtain ⟨remaining, action⟩ := raw
  rw [show action = some (.newFrame input) from starts] at runs
  rw [child?, show instruction.raw? = _ from runs]

/-- The engine leaves a child only where the instruction starts one. -/
def LeavesChild (instruction : Instruction) : Prop :=
  ∀ input ∈ instruction.child?, instruction.leaves (.newFrame input) = true

instance (instruction : Instruction) : Decidable instruction.LeavesChild :=
  inferInstanceAs (Decidable (∀ input ∈ instruction.child?, _))

theorem limit_applyComputeGasLimit (access : VolatileAccess) (interpreter : Interpreter) :
    (applyComputeGasLimit access interpreter).gas = interpreter.gas ∧
      (applyComputeGasLimit access interpreter).action = interpreter.action := by
  rw [applyComputeGasLimit]
  split <;> exact ⟨rfl, rfl⟩

variable {inner : Interpreter → Interpreter} (inputs : StorageGasExt.SelfdestructInputs)
  (access : VolatileAccess)

theorem starts_wrapDetainGas (starts : Starts raw interpreter (inner interpreter)) :
    Starts raw interpreter (wrapDetainGas access inner interpreter) := by
  rw [wrapDetainGas]
  split
  · exact starts_revertWith _
  · dsimp only
    split
    · exact starts
    · obtain ⟨gas, action⟩ := limit_applyComputeGasLimit access (inner interpreter)
      exact ⟨by rw [gas]; exact starts.limit, by rw [gas, action]; exact starts.child⟩

theorem starts_recordBeneficiary :
    (recordBeneficiary spec inputs interpreter).1.gas.limit = interpreter.gas.limit ∧
      ((recordBeneficiary spec inputs interpreter).2 = false →
        Starts raw interpreter (recordBeneficiary spec inputs interpreter).1) := by
  rw [recordBeneficiary]
  split_ifs
  · obtain ⟨_, charged⟩ | stopped := chargeStorageGas_cases inputs.newAccountGas interpreter
    · rw [charged]
      exact ⟨rfl, (by rintro ⟨⟩)⟩
    · rw [stopped]
      exact ⟨rfl, fun _ => starts_halt (by rfl) _⟩
  · exact ⟨rfl, (by rintro ⟨⟩)⟩
  · exact ⟨rfl, (by rintro ⟨⟩)⟩

theorem starts_storageSelfdestruct (refund : Option Nat) :
    Starts raw interpreter (StorageGasExt.selfdestruct spec inputs refund raw interpreter) := by
  rw [StorageGasExt.selfdestruct]
  split
  · exact starts_computeSelfdestruct refund rfl
  · split
    · exact starts_halt rfl _
    · obtain ⟨limit, stopped⟩ := @starts_recordBeneficiary spec interpreter raw inputs
      generalize recordBeneficiary spec inputs interpreter = beneficiary
        at limit stopped ⊢
      obtain ⟨recorded, _ | _⟩ := beneficiary
      · exact stopped rfl
      · exact starts_computeSelfdestruct refund limit

/-- What the gas of a frame and the child of an instruction are, whatever the instruction. -/
def Forwards (instruction : Instruction) (spec : MegaSpecId) (before after : Interpreter) : Prop :=
  after.gas.limit = before.gas.limit ∧
    (instruction.isCapped spec = true → ∀ child, after.action = some (.newFrame child) →
      ∃ raw ∈ instruction.raw?, ∃ input, raw.action = some (.newFrame input) ∧
        Caps raw input child after)

/-- An instruction that starts no child leaves none. -/
theorem forwards_of_starts {after : Interpreter} (starts : Starts raw interpreter after)
    (runs : raw ∈ instruction.raw?) (leaves : instruction.LeavesChild)
    (childless : startsChild instruction = false) :
    instruction.Forwards spec interpreter after := by
  refine ⟨starts.limit, fun _ child left => ?_⟩
  have leavesChild := leaves child (child?_eq runs (starts.child child left).1)
  exact nomatch (leaves_newFrame childless child).symm.trans leavesChild

theorem forwards_wrapGasCap {hasTransfer : Bool} (runs : raw ∈ instruction.raw?)
    (starts : Starts raw interpreter (inner interpreter)) (tells : Tells hasTransfer raw) :
    instruction.Forwards spec interpreter (wrapGasCap hasTransfer inner interpreter) := by
  refine ⟨limit_wrapGasCap hasTransfer starts, fun _ child left => ?_⟩
  obtain ⟨input, action, caps⟩ := caps_wrapGasCap starts tells left
  exact ⟨raw, runs, input, action, caps⟩

theorem Forwards.wrapCall (forwards : instruction.Forwards spec interpreter (inner interpreter)) :
    instruction.Forwards spec interpreter (VolatileDataExt.wrapCall access inner interpreter) := by
  rw [VolatileDataExt.wrapCall]
  split
  · exact ⟨rfl, (by rintro _ _ ⟨⟩)⟩
  · obtain ⟨gas, action⟩ := limit_applyComputeGasLimit access (inner interpreter)
    refine ⟨by rw [gas]; exact forwards.1, fun capped child left => ?_⟩
    rw [action] at left
    obtain ⟨raw, runs, input, starts, caps⟩ := forwards.2 capped child left
    exact ⟨raw, runs, input, starts, caps.child, by rw [gas]; exact caps.balance⟩

/-- Every instruction keeps the gas limit of its frame, and the child is capped that it leaves
through the cap. -/
theorem forwards_execute (leaves : instruction.LeavesChild) :
    instruction.Forwards spec interpreter (instruction.execute spec interpreter) := by
  cases instruction with
  | unknown result => exact ⟨rfl, (by rintro _ _ ⟨⟩)⟩
  | plain raw => exact forwards_of_starts starts_wrapOp rfl leaves rfl
  | volatile access raw =>
    exact forwards_of_starts (starts_wrapDetainGas access starts_wrapOp) rfl leaves rfl
  | selfbalance access | sload access =>
    refine forwards_of_starts ?_ rfl leaves rfl
    rw [execute]
    split
    · exact starts_wrapDetainGas access starts_wrapOp
    · exact starts_wrapOp
  | sstore early store setGas raw =>
    refine forwards_of_starts ?_ rfl leaves rfl
    cases early with
    | some result => exact starts_halt rfl result
    | none =>
      have starts := @starts_storageSstore spec raw interpreter store setGas
      simp only [execute, AdditionalLimitExt.sstore]
      split
      · exact starts
      · exact (starts.withMeter _).haltIfExceeded
  | log early topics length raw =>
    refine forwards_of_starts ?_ rfl leaves rfl
    cases early with
    | some result => exact starts_halt rfl result
    | none =>
      have starts := @starts_storageLog spec raw interpreter topics length
      simp only [execute, AdditionalLimitExt.log]
      split
      · exact starts
      · exact (starts.withMeter _).haltIfExceeded
  | call scheme access value early newAccountGas raw =>
    have tells : Tells (checkCallHasTransfer scheme value) raw := fun inputs action =>
      beq_iff_eq.mp (leaves (.call inputs) (child?_eq rfl action))
    have forwards := @forwards_wrapGasCap spec
      (.call scheme access value early newAccountGas raw) interpreter raw
      (StorageGasExt.call spec early newAccountGas raw) (checkCallHasTransfer scheme value) rfl
      (starts_storageCall early newAccountGas) tells
    simp only [execute, executeCall]
    split_ifs with rex4 capped
    · exact forwards.wrapCall access
    · exact forwards
    · exact ⟨(@starts_wrapFrameOp raw interpreter spec).limit,
        fun isCapped => absurd isCapped capped⟩
  | create inputs raw =>
    have tells : Tells false raw := fun inputs action =>
      absurd (leaves (.call inputs) (child?_eq rfl action)) Bool.false_ne_true
    exact forwards_wrapGasCap rfl (starts_create inputs) tells
  | selfdestruct access inputs refund raw =>
    refine forwards_of_starts ?_ rfl leaves rfl
    simp only [execute, executeSelfdestruct]
    split_ifs
    · exact starts_wrapDetainGas access (starts_storageSelfdestruct inputs refund)
    · exact starts_wrapDetainGas access (starts_computeSelfdestruct refund rfl)
    · exact starts_computeSelfdestruct none rfl
    · exact starts_halt rfl _

end Instruction

/-! ### The arithmetic of the cap -/

namespace ForwardGasExt

def u128Max : Nat := 2 ^ 128 - 1

/-- A value of a type, if it is not too large for the type. -/
def within (bound value : Nat) : Option Nat :=
  if value ≤ bound then some value else none

/-- A difference, if it is not below zero. -/
def subtract (value amount : Nat) : Option Nat :=
  if amount ≤ value then some (value - amount) else none

/-- The cap in the arithmetic of the source, which fails where a subtraction goes below zero, a
value is too large for its type, or a cast cuts something off: what the parent and the child get. -/
def capChecked (remaining childGas stipend : Nat) : Option (Nat × Nat) := do
  let forwarded ← subtract childGas stipend
  let gasLeft ← within u128Max (remaining + forwarded)
  let doubled ← within u128Max (gasLeft * 2)
  let cap ← subtract gasLeft (doubled / 100)
  let capped := min forwarded cap
  let returned ← subtract forwarded capped
  let newChildGas ← within u128Max (capped + stipend)
  let returnedCast ← within u64Max returned
  let parent ← within u64Max (remaining + returnedCast)
  let child ← within u64Max newChildGas
  return (parent, child)

theorem within_of_le {bound value : Nat} (fits : value ≤ bound) : within bound value = some value :=
  if_pos fits

theorem subtract_of_le {value amount : Nat} (fits : amount ≤ value) :
    subtract value amount = some (value - amount) :=
  if_pos fits

/-- Nothing fails for gas of machine words. -/
theorem capChecked_eq {remaining forwarded stipend : Nat} (gas : remaining + forwarded ≤ u64Max)
    (child : forwarded + stipend ≤ u64Max) :
    capChecked remaining (forwarded + stipend) stipend =
      some (remaining + (forwarded - takenGas forwarded (remaining + forwarded)),
        takenGas forwarded (remaining + forwarded) + stipend) := by
  have wide : u64Max * 2 ≤ u128Max := by decide
  have taken : takenGas forwarded (remaining + forwarded) ≤ forwarded := min_le_left _ _
  have recovered : subtract (forwarded + stipend) stipend = some forwarded := by
    rw [subtract_of_le (Nat.le_add_left _ _), Nat.add_sub_cancel]
  have capped : min forwarded (remaining + forwarded - (remaining + forwarded) * 2 / 100) =
      takenGas forwarded (remaining + forwarded) := rfl
  simp only [capChecked, recovered, Option.bind_eq_bind, Option.bind_some]
  rw [within_of_le (by omega), Option.bind_some, within_of_le (by omega), Option.bind_some,
    subtract_of_le (by omega), Option.bind_some, capped, subtract_of_le taken, Option.bind_some,
    within_of_le (by omega), Option.bind_some, within_of_le (by omega), Option.bind_some,
    within_of_le (by omega), Option.bind_some, within_of_le (by omega)]
  rfl

end ForwardGasExt

/-! ### What the engine forwards -/

namespace Instruction

open ForwardGasExt

/-- What the engine forwards of the gas a parent has left when all else is paid: what is requested,
at most all but one 64th. A create requests everything. -/
def engineForward (requested gasLeft : Nat) : Nat :=
  min requested (gasLeft - gasLeft / 64)

/-- What the engine leaves when it starts a child. -/
def engineStart (input : FrameInput) (requested gasLeft : Nat) : RawOutcome where
  remaining := gasLeft - engineForward requested gasLeft
  action := some (.newFrame
    (input.withGasLimit (min (engineForward requested gasLeft + input.engineStipend) u64Max)))

variable {spec : MegaSpecId} {instruction : Instruction} {interpreter : Interpreter}
  {input child : FrameInput} {requested gasLeft : Nat}

/-- The gas that is taken from the parent is what the engine forwarded, at most all but two percent
of what was left; the child gets it, with the stipend of the engine for a call that transfers value;
and the arithmetic of the wrapper is exact. -/
structure TakesCapped (input child : FrameInput) (requested gasLeft : Nat) (after : Interpreter) :
    Prop where
  started : child = input.withGasLimit
    (min (engineForward requested gasLeft) (gasLeft - gasLeft * 2 / 100) +
      if Execution.grantsStipend input then 2300 else 0)
  balance : after.gas.remaining +
    min (engineForward requested gasLeft) (gasLeft - gasLeft * 2 / 100) = gasLeft
  checked : capChecked (gasLeft - engineForward requested gasLeft)
    (engineForward requested gasLeft + input.engineStipend) input.engineStipend =
      some (after.gas.remaining, child.gasLimit)

theorem takesCapped_execute (capped : instruction.isCapped spec = true)
    (runs : instruction.raw? = some (engineStart input requested gasLeft))
    (starts : instruction.leaves (.newFrame input) = true) (fits : gasLeft ≤ u64Max)
    (left : (instruction.execute spec interpreter).action = some (.newFrame child)) :
    TakesCapped input child requested gasLeft (instruction.execute spec interpreter) := by
  have sameLeaves (gasLimit : Nat) :
      instruction.leaves (.newFrame (input.withGasLimit gasLimit)) = true := by
    rw [← starts]
    cases instruction <;> cases input <;> rfl
  have leaves : instruction.LeavesChild := by
    intro started left
    rw [child?_eq runs rfl] at left
    rw [← Option.some.inj left]
    exact sameLeaves _
  have forwarded : engineForward requested gasLeft ≤ gasLeft - gasLeft / 64 := min_le_right _ _
  have stipend : input.engineStipend ≤ 2300 := by
    rw [engineStipend]
    split
    · exact le_rfl
    · exact Nat.zero_le _
  have word : u64Max = 18446744073709551615 := rfl
  have unsaturated : engineForward requested gasLeft + input.engineStipend ≤ u64Max := by omega
  obtain ⟨raw, member, started, action, caps⟩ :=
    (@forwards_execute spec instruction interpreter leaves).2 capped child left
  rw [runs] at member
  rw [← Option.some.inj member] at action caps
  rw [← InterpreterAction.newFrame.inj (Option.some.inj action), min_eq_left unsaturated] at caps
  obtain ⟨sameChild, balance⟩ := caps
  rw [forwardedGas, gasLimit_withGasLimit,
    engineStipend_withGasLimit, Nat.add_sub_cancel] at sameChild balance
  have gas : (engineStart input requested gasLeft).remaining + engineForward requested gasLeft =
      gasLeft :=
    Nat.sub_add_cancel (by omega)
  rw [gas] at sameChild balance
  rw [withGasLimit_withGasLimit] at sameChild
  refine ⟨sameChild, balance, ?_⟩
  have exact := @capChecked_eq (gasLeft - engineForward requested gasLeft)
    (engineForward requested gasLeft) input.engineStipend (by omega) unsaturated
  rw [exact, sameChild, gasLimit_withGasLimit]
  rw [show gasLeft - engineForward requested gasLeft + engineForward requested gasLeft = gasLeft
    from gas]
  have taken : takenGas (engineForward requested gasLeft) gasLeft ≤
      engineForward requested gasLeft :=
    min_le_left _ _
  have remaining : gasLeft - engineForward requested gasLeft +
      (engineForward requested gasLeft - takenGas (engineForward requested gasLeft) gasLeft) =
        (instruction.execute spec interpreter).gas.remaining := by
    omega
  rw [remaining]

end Instruction

end MegaEvm
