/-
This file says what an instruction does to the gas of its frame. What the frame holds
afterwards, the gas it forwards to a child included, what was recorded as compute gas and
what was charged for storage add up to the gas the frame had, unless the instruction of
the engine failed; before Rex6 a frame that a limit stops also loses what it was about to
forward. No subtraction in a recording saturates. The wrappers differ in where they
measure, so each layer is shown to keep the balance of what it wraps.
-/

import MegaEvm.Evm.Engine
import MegaEvm.Evm.Wrappers

namespace MegaEvm

open StorageGasExt ComputeGasExt Execution VolatileDataExt Meter AdditionalLimit ComputeCharge

/-! ### The balance -/

namespace Meter

variable (meter : Meter)

/-- The gas of the frames that was recorded as compute gas or charged for storage. -/
def spent : Nat :=
  (meter.charges.map ComputeCharge.gas).sum + meter.storageCharged

@[simp] theorem spent_chargeStorage (amount : Nat) :
    (meter.chargeStorage amount).spent = meter.spent + amount :=
  (Nat.add_assoc _ _ _).symm

theorem spent_of_charged {meter next : Meter} {charge : ComputeCharge} {storage : Nat}
    (charges : next.charges = charge :: meter.charges)
    (stored : next.storageCharged = meter.storageCharged + storage) :
    next.spent = meter.spent + charge.gas + storage := by
  rw [spent, spent, charges, stored, List.map_cons, List.sum_cons]
  omega

end Meter

namespace Interpreter

variable {spec : MegaSpecId} {instruction : Instruction} {before middle ran after : Interpreter}

/-- The gas of the child that the interpreter is about to start. -/
def childGas (interpreter : Interpreter) : Nat :=
  (interpreter.action.map InterpreterAction.childGas).getD 0

/-- What the interpreter has left, with what it takes from it for a child. -/
def held (spec : MegaSpecId) (interpreter : Interpreter) : Nat :=
  interpreter.gas.remaining + forwardedChildGas spec interpreter.action

theorem forwardedChildGas_le (spec : MegaSpecId) (interpreter : Interpreter) :
    forwardedChildGas spec interpreter.action ≤ interpreter.childGas := by
  rw [childGas]
  rcases interpreter.action with _ | ⟨inputs | inputs⟩ | result
  · exact Nat.le_refl 0
  · exact Nat.sub_le _ _
  · exact Nat.le_refl _
  · exact Nat.le_refl 0

/-- The charges of one meter are those of another after some exact recordings. -/
def Records (before after : Meter) : Prop :=
  ∃ recorded, after.charges = recorded ++ before.charges ∧
    ∀ charge ∈ recorded, charge.IsExact

theorem Records.refl {before after : Meter} (same : after.charges = before.charges) :
    Records before after :=
  ⟨[], same, fun _ member => nomatch member⟩

theorem Records.one {before after : Meter} {charge : ComputeCharge}
    (charges : after.charges = charge :: before.charges) (exact : charge.IsExact) :
    Records before after :=
  ⟨[charge], charges, fun _ member => List.mem_singleton.mp member ▸ exact⟩

theorem Records.trans {before middle after : Meter} (first : Records before middle)
    (second : Records middle after) : Records before after := by
  obtain ⟨early, earlyCharges, earlyExact⟩ := first
  obtain ⟨late, lateCharges, lateExact⟩ := second
  refine ⟨late ++ early, ?_, fun charge member => ?_⟩
  · rw [lateCharges, earlyCharges, List.append_assoc]
  · obtain isLate | isEarly := List.mem_append.mp member
    · exact lateExact charge isLate
    · exact earlyExact charge isEarly

/-- The interpreter was not stopped by a failure of the engine's instruction, nor, before Rex6, by a
limit. -/
structure Balanced (spec : MegaSpecId) (after : Interpreter) : Prop where
  limit : spec.isEnabled .rex6 = true ∨ after.meter.limit.limitExceeded = false
  failure : after.aborts = true → after.meter.limit.limitExceeded = true

/-- What an instruction does to the gas: the frame and the child it starts have no more than the
frame had; what they hold and what was spent is no more than before, and the same if the balance is
kept; the recordings are exact; and the action belongs to the interpreter. -/
structure Spends (spec : MegaSpecId) (instruction : Instruction) (before after : Interpreter) :
    Prop where
  limit : after.gas.limit = before.gas.limit
  total : after.gas.remaining + after.childGas ≤ before.gas.remaining
  spent : after.held spec + after.meter.spent ≤ before.gas.remaining + before.meter.spent
  balance : before.meter.limit.limitExceeded = false → Balanced spec after →
    after.held spec + after.meter.spent = before.gas.remaining + before.meter.spent
  records : Records before.meter after.meter
  action : ∀ action ∈ after.action, action.Fits after.gas ∧ instruction.leaves action = true

/-- The wrapper went on after it paid: what is left, what was spent and what is still to be recorded
add up to what there was. -/
structure Paid (before middle : Interpreter) (owed : Nat) : Prop where
  limit : middle.gas.limit = before.gas.limit
  left : middle.gas.remaining ≤ before.gas.remaining
  balance :
    middle.gas.remaining + middle.meter.spent + owed = before.gas.remaining + before.meter.spent
  records : Records before.meter middle.meter
  going : before.meter.limit.limitExceeded = false → middle.meter.limit.limitExceeded = false

variable {owed : Nat}

/-- What is still to be recorded is lost when the wrapper stops. -/
theorem Spends.of_paid (paid : Paid before middle owed)
    (spends : Spends spec instruction middle after) (settled : Balanced spec after → owed = 0) :
    Spends spec instruction before after where
  limit := spends.limit.trans paid.limit
  total := spends.total.trans paid.left
  spent := by
    have spent := spends.spent
    have balance := paid.balance
    omega
  balance := by
    intro going balanced
    have held := spends.balance (paid.going going) balanced
    have balance := paid.balance
    have nothing := settled balanced
    omega
  records := paid.records.trans spends.records
  action := spends.action

theorem leaves_returnResult (instruction : Instruction) (result : InterpreterResult) :
    instruction.leaves (.returnResult result) = true := by
  cases instruction <;> rfl

variable (interpreter : Interpreter) (result : InstructionResult)

/-- A frame that halts returns a result that belongs to it. -/
theorem action_halt :
    ∀ action ∈ (interpreter.halt result).action,
      action.Fits interpreter.gas ∧ instruction.leaves action = true := by
  rintro _ ⟨⟩
  exact ⟨rfl, leaves_returnResult instruction _⟩

/-- A stop that leaves the gas and the recordings as they are keeps the balance. -/
theorem spends_stop (gas : after.gas = before.gas) (spent : after.meter.spent = before.meter.spent)
    (charges : after.meter.charges = before.meter.charges) {result : InterpreterResult}
    (stops : after.action = some (.returnResult result)) (fits : result.gas = after.gas) :
    Spends spec instruction before after := by
  have held : after.held spec + after.meter.spent = before.gas.remaining + before.meter.spent := by
    rw [held, stops, gas, spent]
    rfl
  refine ⟨congrArg Gas.limit gas, ?_, held.le, fun _ _ => held, .refl charges, ?_⟩
  · rw [childGas, stops, gas]
    rfl
  · rw [stops]
    rintro _ ⟨⟩
    exact ⟨fits, leaves_returnResult instruction result⟩

theorem spends_halt : Spends spec instruction interpreter (interpreter.halt result) :=
  spends_stop rfl rfl rfl rfl rfl

theorem spends_revertWith (data : List Nat) :
    Spends spec instruction interpreter (interpreter.revertWith data) :=
  spends_stop rfl rfl rfl rfl rfl

/-! ### Running the engine's instruction -/

/-- The engine's instruction ran after storage gas was charged, and nothing was recorded yet. -/
structure Ran (instruction : Instruction) (before ran : Interpreter) (storage : Nat) : Prop where
  limit : ran.gas.limit = before.gas.limit
  left : ran.gas.remaining + ran.childGas + storage ≤ before.gas.remaining
  charges : ran.meter.charges = before.meter.charges
  storage : ran.meter.storageCharged = before.meter.storageCharged + storage
  action : ∀ action ∈ ran.action, action.Fits ran.gas ∧ instruction.leaves action = true
  going : before.meter.limit.limitExceeded = false → ran.meter.limit.limitExceeded = false

variable {storage : Nat}

section Recorded

variable (runs : Ran instruction before ran storage)

include runs

theorem Ran.spent : ran.meter.spent = before.meter.spent + storage := by
  rw [Meter.spent, Meter.spent, runs.charges, runs.storage, Nat.add_assoc]

/-- The recording of an instruction of the engine. -/
def recording (spec : MegaSpecId) (before ran : Interpreter) (storage : Nat) : ComputeCharge where
  gasBefore := before.gas.remaining
  gasAfter := ran.gas.remaining
  storageCharged := storage
  forwarded := forwardedChildGas spec ran.action

theorem Ran.isExact (spec : MegaSpecId) : (recording spec before ran storage).IsExact := by
  have forwarded := forwardedChildGas_le spec ran
  have left := runs.left
  show ran.gas.remaining + storage + forwardedChildGas spec ran.action ≤ before.gas.remaining
  omega

/-- What is recorded is what the instruction took for itself. -/
theorem Ran.recorded (spec : MegaSpecId) :
    ran.held spec + storage + (recording spec before ran storage).gas = before.gas.remaining := by
  have exact : ran.gas.remaining + storage + forwardedChildGas spec ran.action ≤
      before.gas.remaining := runs.isExact spec
  show ran.gas.remaining + forwardedChildGas spec ran.action + storage +
    (before.gas.remaining - ran.gas.remaining - storage - forwardedChildGas spec ran.action) =
      before.gas.remaining
  omega

/-- An instruction of the engine that failed is not recorded. -/
theorem Ran.spends_failed (fails : ran.aborts = true) : Spends spec instruction before ran := by
  have left := runs.left
  refine ⟨runs.limit, by omega, ?_, ?_, .refl runs.charges, runs.action⟩
  · have forwarded := forwardedChildGas_le spec ran
    rw [runs.spent, held]
    omega
  · intro going balanced
    exact nomatch (runs.going going).symm.trans (balanced.failure fails)

variable {meter : Meter}
  (charges : meter.charges = recording spec before ran storage :: ran.meter.charges)
  (stored : meter.storageCharged = ran.meter.storageCharged)

include charges stored

theorem Ran.spent_recorded :
    meter.spent = before.meter.spent + storage + (recording spec before ran storage).gas := by
  rw [@Meter.spent_of_charged ran.meter meter _ 0 charges stored, runs.spent]
  rfl

omit stored in
theorem Ran.records : Records before.meter meter :=
  .one (charges.trans (congrArg _ runs.charges)) (runs.isExact spec)

/-- An instruction that goes on after its recording. -/
theorem Ran.spends_recorded : Spends spec instruction before { ran with meter } := by
  have left := runs.left
  have balance : ran.held spec + meter.spent = before.gas.remaining + before.meter.spent := by
    have recorded := runs.recorded spec
    rw [runs.spent_recorded charges stored]
    omega
  refine ⟨runs.limit, ?_, balance.le, fun _ _ => balance, runs.records charges, runs.action⟩
  show ran.gas.remaining + ran.childGas ≤ before.gas.remaining
  omega

/-- An instruction that a limit stops at its recording. From Rex6 on the gas of the child that is
not started is given back. -/
theorem Ran.spends_stopped (exceeded : meter.limit.limitExceeded = true)
    (result : InstructionResult) :
    Spends spec instruction before
      (halt
        { ran with
          meter
          gas :=
            if spec.isEnabled .rex6 then ran.gas.eraseCost (forwardedChildGas spec ran.action)
            else ran.gas } result) := by
  have left := runs.left
  have forwarded := forwardedChildGas_le spec ran
  have recorded := runs.recorded spec
  have spent := runs.spent_recorded charges stored
  have records := runs.records charges
  rw [held] at recorded
  cases rex6 : spec.isEnabled .rex6 with
  | true =>
    have balance : ran.gas.remaining + forwardedChildGas spec ran.action + meter.spent =
        before.gas.remaining + before.meter.spent := by omega
    refine ⟨runs.limit, ?_, balance.le, fun _ _ => balance, records, action_halt _ _⟩
    show ran.gas.remaining + forwardedChildGas spec ran.action + 0 ≤ before.gas.remaining
    omega
  | false =>
    refine ⟨runs.limit, ?_, ?_, ?_, records, action_halt _ _⟩
    · show ran.gas.remaining + 0 ≤ before.gas.remaining
      omega
    · show ran.gas.remaining + 0 + meter.spent ≤ before.gas.remaining + before.meter.spent
      omega
    · intro _ balanced
      obtain isRex6 | within := balanced.limit
      · exact nomatch rex6.symm.trans isRex6
      · exact nomatch within.symm.trans exceeded

/-- An instruction without a child that a limit stops at its recording. -/
theorem Ran.spends_halted (noChild : forwardedChildGas spec ran.action = 0)
    (exceeded : meter.limit.limitExceeded = true) (result : InstructionResult) :
    Spends spec instruction before (halt { ran with meter } result) := by
  have spends := runs.spends_stopped charges stored exceeded result
  have same : (if spec.isEnabled .rex6 then ran.gas.eraseCost (forwardedChildGas spec ran.action)
      else ran.gas) = ran.gas := by
    rw [noChild]
    split <;> rfl
  rw [same] at spends
  exact spends

end Recorded

/-! ### Storage gas -/

/-- A wrapper charged storage gas, and perhaps spent other gas it will record. -/
structure Charged (before charged : Interpreter) (storage : Nat) : Prop where
  limit : charged.gas.limit = before.gas.limit
  left : charged.gas.remaining + storage ≤ before.gas.remaining
  charges : charged.meter.charges = before.meter.charges
  storage : charged.meter.storageCharged = before.meter.storageCharged + storage
  going : before.meter.limit.limitExceeded = false → charged.meter.limit.limitExceeded = false

theorem Charged.refl (interpreter : Interpreter) : Charged interpreter interpreter 0 :=
  ⟨rfl, Nat.le_refl _, rfl, rfl, id⟩

variable {raw : RawOutcome}

theorem Charged.runs (charged : Charged before middle storage)
    (leaves : instruction.Leaves middle.gas raw) :
    Ran instruction before (middle.runInner raw) storage := by
  have left := charged.left
  have kept := leaves.1
  refine ⟨charged.limit, ?_, charged.charges, charged.storage, leaves.2, charged.going⟩
  show raw.remaining + (raw.action.map InterpreterAction.childGas).getD 0 + storage ≤
    before.gas.remaining
  omega

/-- A wrapper that stops with a failure after it spent gas loses what it did not record. -/
theorem Charged.spends_halt (charged : Charged before middle storage) {result : InstructionResult}
    (failed : result.isError = true) : Spends spec instruction before (middle.halt result) := by
  have left := charged.left
  have spent : middle.meter.spent = before.meter.spent + storage := by
    rw [spent, spent, charged.charges, charged.storage, Nat.add_assoc]
  refine ⟨charged.limit, ?_, ?_, ?_, .refl charged.charges, action_halt _ _⟩
  · show middle.gas.remaining + 0 ≤ before.gas.remaining
    omega
  · show middle.gas.remaining + 0 + middle.meter.spent ≤ before.gas.remaining + before.meter.spent
    omega
  · intro going balanced
    have aborts : (middle.halt result).aborts = true := failed
    exact nomatch (charged.going going).symm.trans (balanced.failure aborts)

/-- What charging storage gas can do. -/
theorem Charged.chargeStorageGas_cases (charged : Charged before middle 0) (spec : MegaSpecId)
    (instruction : Instruction) (amount : Nat) :
    let cost := amount - (middle.meter.limit.tryConsumeStorageStipend amount).2
    (∃ paid : Interpreter, chargeStorageGas amount middle = (paid, some cost) ∧
        Charged before paid cost ∧
        paid.gas = { middle.gas with remaining := middle.gas.remaining - cost }) ∨
      ∃ stopped : Interpreter, chargeStorageGas amount middle = (stopped, none) ∧
        stopped.aborts = true ∧ Spends spec instruction before stopped := by
  intro cost
  have left := charged.left
  obtain ⟨enough, paid⟩ | stopped := MegaEvm.chargeStorageGas_cases amount middle
  · refine Or.inl ⟨_, paid, ⟨charged.limit, ?_, charged.charges, ?_, charged.going⟩, rfl⟩
    · show middle.gas.remaining - cost + cost ≤ before.gas.remaining
      have enough : cost ≤ middle.gas.remaining := enough
      omega
    · exact congrArg (· + cost) charged.storage
  · refine Or.inr ⟨_, stopped, rfl, ?_⟩
    have consumed : Charged before
        { middle with
          meter := middle.meter.update fun _ =>
            (middle.meter.limit.tryConsumeStorageStipend amount).1 }
        0 := ⟨charged.limit, left, charged.charges, charged.storage, charged.going⟩
    exact consumed.spends_halt rfl

/-- An instruction of the engine that ran is recorded, or the frame stops. -/
theorem Charged.spends_run (charged : Charged before middle storage)
    (leaves : instruction.Leaves middle.gas raw) :
    Spends spec instruction before
      (runCharged spec before.gas.remaining raw (middle, some storage)) := by
  have runs := charged.runs leaves
  rw [runCharged]
  split
  · rename_i fails
    exact runs.spends_failed fails
  · obtain ⟨_, goes⟩ | ⟨exceeded, stops⟩ :=
      recordStorageComputeGas_cases spec before.gas.remaining storage (middle.runInner raw)
    · rw [goes]
      exact runs.spends_recorded rfl rfl
    · rw [stops]
      exact runs.spends_stopped (recordComputeGas_charges _ _) rfl exceeded _

/-- The rule for a wrapper that charges storage gas and runs the engine's instruction. -/
theorem Charged.spends_runCharged (charged : Charged before middle 0) {amount : Nat}
    (leaves : instruction.Leaves
      { middle.gas with
        remaining := middle.gas.remaining -
          (amount - (middle.meter.limit.tryConsumeStorageStipend amount).2) } raw) :
    Spends spec instruction before
      (runCharged spec before.gas.remaining raw (chargeStorageGas amount middle)) := by
  obtain ⟨paid, equation, charged, gas⟩ | ⟨stopped, equation, _, spends⟩ :=
    charged.chargeStorageGas_cases spec instruction amount
  · rw [equation]
    rw [← gas] at leaves
    exact charged.spends_run leaves
  · rw [equation]
    exact spends

/-! ### The layers -/

/-- An instruction that starts no child has nothing to forward. -/
theorem forwardedChildGas_of_leaves
    (leaves : ∀ action ∈ after.action, instruction.leaves action = true)
    (returns : ∀ input, instruction.leaves (.newFrame input) = false) (spec : MegaSpecId) :
    forwardedChildGas spec after.action = 0 := by
  rcases action : after.action with _ | input | result
  · rfl
  · exact nomatch (returns input).symm.trans (leaves _ action)
  · rfl

theorem Ran.noChild (runs : Ran instruction before ran storage)
    (returns : ∀ input, instruction.leaves (.newFrame input) = false) (spec : MegaSpecId) :
    forwardedChildGas spec ran.action = 0 :=
  forwardedChildGas_of_leaves (fun action member => (runs.action action member).2) returns spec

theorem charge_of_noChild (noChild : forwardedChildGas spec ran.action = 0) (before : Interpreter) :
    ({ gasBefore := before.gas.remaining
       gasAfter := ran.gas.remaining
       storageCharged := 0
       forwarded := 0 } : ComputeCharge) = recording spec before ran 0 := by
  rw [recording, noChild]

/-- The wrapper of an instruction that starts no child. -/
theorem spends_wrapOp (leaves : instruction.Leaves before.gas raw)
    (returns : ∀ input, instruction.leaves (.newFrame input) = false) :
    Spends spec instruction before (wrapOp raw before) := by
  have runs := (Charged.refl before).runs leaves
  have noChild := runs.noChild returns spec
  rw [wrapOp]
  split
  · rename_i fails
    exact runs.spends_failed fails
  · rw [charge_of_noChild noChild before]
    obtain ⟨_, goes⟩ | ⟨exceeded, stops⟩ :=
      (before.runInner raw).computeGas_cases (recording spec before (before.runInner raw) 0)
    · rw [goes]
      exact runs.spends_recorded rfl rfl
    · rw [stops]
      exact runs.spends_halted (recordComputeGas_charges _ _) rfl noChild exceeded _

/-- A hook after the wrapped instruction, which stops the frame at an exceed. -/
theorem Spends.hook (spends : Spends spec instruction before after)
    (returns : ∀ input, instruction.leaves (.newFrame input) = false)
    {hook : AdditionalLimit → AdditionalLimit}
    (latches : after.meter.limit.limitExceeded = true →
      (hook after.meter.limit).limitExceeded = true) :
    Spends spec instruction before
      (if after.aborts then after
      else haltIfExceeded { after with meter := after.meter.update hook }) := by
  have noChild := forwardedChildGas_of_leaves
    (fun action member => (spends.action action member).2) returns spec
  split
  · exact spends
  rename_i goes
  have balance : before.meter.limit.limitExceeded = false →
      (spec.isEnabled .rex6 = true ∨ after.meter.limit.limitExceeded = false) →
        after.gas.remaining + after.meter.spent = before.gas.remaining + before.meter.spent := by
    intro going limit
    have held := spends.balance going
      ⟨limit, fun aborts => (goes aborts).elim⟩
    rw [Interpreter.held, noChild, Nat.add_zero] at held
    exact held
  have spent := spends.spent
  rw [Interpreter.held, noChild, Nat.add_zero] at spent
  rw [haltIfExceeded]
  split
  · refine ⟨spends.limit, ?_, spent, ?_, spends.records, action_halt _ _⟩
    · exact (Nat.le_add_right _ _).trans spends.total
    · rename_i exceeded
      intro going balanced
      refine balance going (balanced.limit.imp_right fun within => ?_)
      cases within.symm.trans exceeded
  · rename_i within
    refine ⟨spends.limit, spends.total, spends.spent, ?_, spends.records, spends.action⟩
    intro going balanced
    have stillWithin : after.meter.limit.limitExceeded = false :=
      Bool.eq_false_iff.mpr fun exceeded => within (latches exceeded)
    show Interpreter.held spec after + after.meter.spent = _
    rw [Interpreter.held, noChild, Nat.add_zero]
    exact balance going (Or.inr stillWithin)

theorem Spends.detained (spends : Spends spec instruction before after) (access : VolatileAccess) :
    Spends spec instruction before (applyComputeGasLimit access after) := by
  rw [applyComputeGasLimit]
  split
  · refine ⟨spends.limit, spends.total, spends.spent, ?_, spends.records, spends.action⟩
    exact fun going balanced => spends.balance going ⟨balanced.limit, balanced.failure⟩
  · exact spends

variable {inner : Interpreter → Interpreter}

theorem spends_wrapDetainGas (access : VolatileAccess)
    (spends : Spends spec instruction before (inner before)) :
    Spends spec instruction before (wrapDetainGas access inner before) := by
  rw [wrapDetainGas]
  split
  · exact spends_revertWith before _
  · dsimp only
    split
    · exact spends
    · exact spends.detained access

theorem spends_wrapCall (access : VolatileAccess)
    (spends : Spends spec instruction before (inner before)) :
    Spends spec instruction before (wrapCall access inner before) := by
  rw [wrapCall]
  split
  · exact spends_revertWith before _
  · exact spends.detained access

theorem leaves_callGasLimit (instruction : Instruction) (inputs : CallInputs) (gasLimit : Nat) :
    instruction.leaves (.newFrame (.call { inputs with gasLimit })) =
      instruction.leaves (.newFrame (.call inputs)) := by
  cases instruction <;> rfl

theorem leaves_createGasLimit (instruction : Instruction) (inputs : CreateInputs) (gasLimit : Nat) :
    instruction.leaves (.newFrame (.create { inputs with gasLimit })) =
      instruction.leaves (.newFrame (.create inputs)) := by
  cases instruction <;> rfl

/-- From Rex5 on the engine's stipend is not part of what a call forwards. -/
theorem forwardedChildGas_call (spec : MegaSpecId) (inputs : CallInputs) :
    forwardedChildGas spec (some (.newFrame (.call inputs))) =
      inputs.gasLimit -
        if spec.isEnabled .rex5 && grantsStipend (.call inputs) then callStipend else 0 := by
  rw [forwardedChildGas, grantsStipend, ← Bool.and_assoc]

/-- Gas that is moved between the frame and its child keeps the balance. -/
theorem Spends.moved (spends : Spends spec instruction before after) {gas : Gas}
    {action : InterpreterAction} (limit : gas.limit = after.gas.limit)
    (total : gas.remaining + action.childGas = after.gas.remaining + after.childGas)
    (held : gas.remaining + forwardedChildGas spec (some action) = after.held spec)
    (aborts : after.aborts = { after with gas, action := some action }.aborts)
    (fits : action.Fits gas ∧ instruction.leaves action = true) :
    Spends spec instruction before { after with gas, action := some action } where
  limit := limit.trans spends.limit
  total := total.trans_le spends.total
  spent := (congrArg (· + after.meter.spent) held).trans_le spends.spent
  balance going balanced :=
    (congrArg (· + after.meter.spent) held).trans
      (spends.balance going ⟨balanced.limit, fun fails => balanced.failure (aborts ▸ fails)⟩)
  records := spends.records
  action := by
    rintro _ ⟨⟩
    exact fits

variable {hasTransfer : Bool}

/-- The cap moves gas from the child back to the frame. -/
theorem Spends.capForwarded (spends : Spends spec instruction before after)
    (knows : ∀ inputs, instruction.leaves (.newFrame (.call inputs)) = true →
      grantsStipend (.call inputs) = hasTransfer) :
    Spends spec instruction before (ForwardGasExt.capForwarded hasTransfer after) := by
  rw [ForwardGasExt.capForwarded]
  split
  · rename_i inputs starts
    obtain ⟨fits, leaves⟩ := spends.action _ starts
    have grants := knows inputs leaves
    have stipendFits : (if hasTransfer then callStipend else 0) ≤ inputs.gasLimit := by
      split
      · rename_i transfers
        exact fits (grants.trans transfers)
      · exact Nat.zero_le _
    have revmStipend : (if spec.isEnabled .rex5 && hasTransfer then callStipend else 0) ≤
        if hasTransfer then callStipend else 0 := by
      cases hasTransfer <;> cases spec.isEnabled .rex5 <;> decide
    refine spends.moved rfl ?_ ?_ ?_ ⟨?_, ?_⟩
    · rw [childGas, starts]
      show after.gas.remaining + (inputs.gasLimit - _ - min _ _) + (min _ _ + _) =
        after.gas.remaining + inputs.gasLimit
      omega
    · rw [held, starts, forwardedChildGas_call, forwardedChildGas_call]
      show after.gas.remaining + (inputs.gasLimit - _ - min _ _) + (min _ _ + _ -
        if spec.isEnabled .rex5 && grantsStipend (.call inputs) then callStipend else 0) = _
      rw [grants]
      omega
    · rw [aborts, aborts, instructionResult, instructionResult, starts]
    · intro granted
      have transfers : hasTransfer = true := grants.symm.trans granted
      rw [transfers]
      exact Nat.le_add_left _ _
    · rw [leaves_callGasLimit]
      exact leaves
  · rename_i inputs starts
    obtain ⟨_, leaves⟩ := spends.action _ starts
    refine spends.moved rfl ?_ ?_ ?_ ⟨?_, ?_⟩
    · rw [childGas, starts]
      show after.gas.remaining + (inputs.gasLimit - min _ _) + min _ _ =
        after.gas.remaining + inputs.gasLimit
      omega
    · rw [held, starts]
      show after.gas.remaining + (inputs.gasLimit - min _ _) + min _ _ =
        after.gas.remaining + inputs.gasLimit
      omega
    · rw [aborts, aborts, instructionResult, instructionResult, starts]
    · rintro ⟨⟩
    · rw [leaves_createGasLimit]
      exact leaves
  · exact spends

theorem spends_wrapGasCap (knows : ∀ inputs, instruction.leaves (.newFrame (.call inputs)) = true →
      grantsStipend (.call inputs) = hasTransfer)
    (spends : Spends spec instruction before (inner before)) :
    Spends spec instruction before (ForwardGasExt.wrapGasCap hasTransfer inner before) := by
  rw [ForwardGasExt.wrapGasCap]
  split
  · exact spends
  · exact spends.capForwarded knows

/-! ### Creates -/

/-- Before Rex6 a frame that stops at a limit or fails has lost its balance. -/
theorem Balanced.goes (old : spec.isEnabled .rex6 = false) (balanced : Balanced spec after) :
    after.meter.limit.limitExceeded = false ∧ after.aborts = false := by
  have within : after.meter.limit.limitExceeded = false :=
    balanced.limit.resolve_left fun rex6 => nomatch old.symm.trans rex6
  refine ⟨within, Bool.eq_false_iff.mpr fun aborts => ?_⟩
  exact nomatch within.symm.trans (balanced.failure aborts)

/-- Before Rex5 the memory of a create is recorded last. -/
theorem Spends.lateRecord (old : spec.isEnabled .rex6 = false) (paid : Paid before middle owed)
    (spends : Spends spec instruction middle after) :
    Spends spec instruction before (after.computeGas (.ofGas owed)).1 := by
  have balance := paid.balance
  have spent := spends.spent
  have charged : (after.meter.recordComputeGas (.ofGas owed)).1.spent = after.meter.spent + owed :=
    @Meter.spent_of_charged after.meter _ (.ofGas owed) 0 rfl rfl
  have records : Records before.meter (after.meter.recordComputeGas (.ofGas owed)).1 :=
    (paid.records.trans spends.records).trans (.one rfl (isExact_ofGas owed))
  obtain ⟨within, goes⟩ | ⟨exceeded, stops⟩ := after.computeGas_cases (.ofGas owed)
  · rw [goes]
    refine ⟨spends.limit.trans paid.limit, spends.total.trans paid.left, ?_, ?_, records,
      spends.action⟩
    · show after.held spec + _ ≤ _
      rw [charged]
      omega
    · intro going balanced
      have stillWithin : after.meter.limit.limitExceeded = false :=
        within_before_recordComputeGas within
      have held := spends.balance (paid.going going)
        ⟨Or.inr stillWithin, fun aborts => nomatch (balanced.goes old).2.symm.trans aborts⟩
      show after.held spec + _ = _
      rw [charged]
      omega
  · rw [stops]
    refine ⟨spends.limit.trans paid.limit, ?_, ?_, ?_, records, action_halt _ _⟩
    · exact (Nat.le_add_right _ _).trans (spends.total.trans paid.left)
    · show after.gas.remaining + 0 + (after.meter.recordComputeGas (.ofGas owed)).1.spent ≤ _
      rw [charged]
      rw [held] at spent
      omega
    · intro _ balanced
      exact nomatch (balanced.goes old).1.symm.trans exceeded

/-- Storage gas that is charged leaves what is still to be recorded as it is. -/
theorem Paid.charge {cost : Nat} (paid : Paid before middle owed)
    (charged : Charged middle ran cost)
    (gas : ran.gas = { middle.gas with remaining := middle.gas.remaining - cost }) :
    Paid before ran owed := by
  have left := charged.left
  have remaining : ran.gas.remaining = middle.gas.remaining - cost := congrArg Gas.remaining gas
  have spent : ran.meter.spent = middle.meter.spent + cost := by
    rw [spent, spent, charged.charges, charged.storage, Nat.add_assoc]
  have balance := paid.balance
  refine ⟨charged.limit.trans paid.limit, ?_, by omega, ?_, fun going => ?_⟩
  · exact Nat.le_trans (by omega) paid.left
  · exact paid.records.trans (.refl charged.charges)
  · exact charged.going (paid.going going)

variable {inputs : StorageGasExt.CreateInputs}

/-- A create before Rex6, from the expansion of its memory on. -/
theorem spends_createResized (old : spec.isEnabled .rex6 = false)
    (owes : owed = if spec.isEnabled .rex5 then 0 else inputs.resizeGas)
    (paid : Paid before middle owed) (late : ∀ result ∈ inputs.late, result.isError = true)
    (leaves : instruction.Leaves
      { middle.gas with
        remaining := middle.gas.remaining -
          (inputs.storageGas - (middle.meter.limit.tryConsumeStorageStipend inputs.storageGas).2) }
      raw) :
    Spends spec instruction before (createResized spec inputs raw middle) := by
  have stopped : ∀ {start after : Interpreter}, Paid before start owed →
      Spends spec instruction start after →
      (after.aborts = true ∨ after.meter.limit.limitExceeded = true) →
        Spends spec instruction before after := by
    intro start after paid spends stops
    refine spends.of_paid paid fun balanced => ?_
    obtain ⟨within, goes⟩ := balanced.goes old
    obtain aborts | exceeded := stops
    · exact nomatch goes.symm.trans aborts
    · exact nomatch within.symm.trans exceeded
  rw [createResized]
  cases isLate : inputs.late with
  | some result => exact stopped paid (spends_halt middle result) (Or.inl (late result isLate))
  | none =>
    obtain ⟨charged, equation, charges, gas⟩ | ⟨halted, equation, aborts, spends⟩ :=
      (Charged.refl middle).chargeStorageGas_cases spec instruction inputs.storageGas
    · rw [← gas] at leaves
      have runs := (Charged.refl charged).runs leaves
      have paid := paid.charge charges gas
      rw [equation]
      dsimp only
      split
      · rename_i fails
        exact stopped paid (runs.spends_failed fails) (Or.inl fails)
      · obtain ⟨_, goes⟩ | ⟨exceeded, stops⟩ :=
          recordStorageComputeGas_cases spec charged.gas.remaining 0 (charged.runInner raw)
        · have recorded : Spends spec instruction charged _ :=
            runs.spends_recorded (recordComputeGas_charges _ _) rfl
          rw [goes]
          dsimp only
          split
          · rename_i owesMemory
            rw [Bool.and_eq_true, Bool.not_eq_true'] at owesMemory
            rw [owesMemory.1, if_neg Bool.false_ne_true] at owes
            rw [← owes]
            exact recorded.lateRecord old paid
          · rename_i owesNothing
            refine recorded.of_paid paid fun _ => ?_
            rw [owes]
            split
            · rfl
            · rename_i notRex5
              rw [Bool.eq_false_iff.mpr notRex5, Bool.not_false, Bool.true_and, bne_iff_ne,
                not_not] at owesNothing
              exact owesNothing
        · rw [stops]
          exact stopped paid
            (runs.spends_stopped (recordComputeGas_charges _ _) rfl exceeded _)
            (Or.inr exceeded)
    · rw [equation]
      exact stopped paid spends (Or.inl aborts)

/-- The memory of the initcode is paid, and in Rex5 recorded at once. -/
theorem spends_createBeforeRex6 (old : spec.isEnabled .rex6 = false)
    (enough : inputs.resizeGas ≤ before.gas.remaining)
    (late : ∀ result ∈ inputs.late, result.isError = true) (leaves : instruction.Leaves
      { before.gas with
        remaining := before.gas.remaining - inputs.resizeGas -
          (inputs.storageGas - (before.meter.limit.tryConsumeStorageStipend inputs.storageGas).2) }
      raw) :
    Spends spec instruction before (createBeforeRex6 spec inputs raw before) := by
  rw [createBeforeRex6]
  cases inputs.early with
  | some result => exact spends_halt before result
  | none =>
    dsimp only
    split
    · rename_i records
      rw [Bool.and_eq_true] at records
      have owes : 0 = if spec.isEnabled .rex5 then 0 else inputs.resizeGas := by
        rw [records.1, if_pos rfl]
      have charged : (before.meter.recordComputeGas (.ofGas inputs.resizeGas)).1.spent =
          before.meter.spent + inputs.resizeGas :=
        @Meter.spent_of_charged before.meter _ (.ofGas inputs.resizeGas) 0 rfl rfl
      have recorded : Records before.meter
          (before.meter.recordComputeGas (.ofGas inputs.resizeGas)).1 :=
        .one rfl (isExact_ofGas _)
      obtain ⟨within, goes⟩ | ⟨exceeded, stops⟩ :=
        (resized before inputs.resizeGas).computeGas_cases (.ofGas inputs.resizeGas)
      · rw [goes]
        refine spends_createResized old owes ⟨rfl, Nat.sub_le _ _, ?_, recorded, fun _ => within⟩
          late ?_
        · show before.gas.remaining - inputs.resizeGas +
            (before.meter.recordComputeGas (.ofGas inputs.resizeGas)).1.spent + 0 = _
          rw [charged]
          omega
        · have stipend := before.meter.limit.recordComputeGas_drained inputs.resizeGas
            inputs.storageGas
          rw [← stipend] at leaves
          exact leaves
      · rw [stops]
        have balance : before.gas.remaining - inputs.resizeGas + 0 +
            (before.meter.recordComputeGas (.ofGas inputs.resizeGas)).1.spent =
              before.gas.remaining + before.meter.spent := by
          rw [charged]
          omega
        exact ⟨rfl, Nat.sub_le _ _, balance.le, fun _ _ => balance, recorded, action_halt _ _⟩
    · rename_i unrecorded
      refine spends_createResized old rfl ⟨rfl, Nat.sub_le _ _, ?_, .refl rfl, id⟩ late leaves
      have owes : inputs.resizeGas = if spec.isEnabled .rex5 then 0 else inputs.resizeGas := by
        split
        · rename_i rex5
          rw [rex5, Bool.true_and, bne_iff_ne, not_not] at unrecorded
          exact unrecorded
        · rfl
      show before.gas.remaining - inputs.resizeGas + before.meter.spent + _ = _
      rw [← owes]
      omega

/-- A create from Rex6 on measures its memory together with the rest. -/
theorem spends_createRex6 (late : ∀ result ∈ inputs.late, result.isError = true)
    (leaves : instruction.Leaves
      { before.gas with
        remaining := before.gas.remaining - inputs.resizeGas -
          (inputs.storageGas - (before.meter.limit.tryConsumeStorageStipend inputs.storageGas).2) }
      raw) : Spends spec instruction before (createRex6 spec inputs raw before) := by
  have resized : Charged before (resized before inputs.resizeGas) 0 :=
    ⟨rfl, Nat.sub_le _ _, rfl, rfl, id⟩
  rw [createRex6]
  cases inputs.early with
  | some result => exact spends_halt before result
  | none =>
    cases isLate : inputs.late with
    | some result => exact resized.spends_halt (late result isLate)
    | none => exact resized.spends_runCharged leaves

/-! ### Self-destructs -/

theorem spends_computeSelfdestruct (leaves : instruction.Leaves before.gas raw)
    (returns : ∀ input, instruction.leaves (.newFrame input) = false) (refund : Option Nat) :
    Spends spec instruction before (ComputeGasExt.selfdestruct refund raw before) := by
  have finishes : ∀ refunded : Interpreter, refunded.gas = before.gas →
      Charged before refunded 0 →
        Spends spec instruction before
          (if (refunded.runInner raw).aborts then refunded.runInner raw
          else
            haltIfExceeded
              { refunded.runInner raw with
                meter := (refunded.runInner raw).meter.recordComputeGasAllDims
                  { gasBefore := before.gas.remaining
                    gasAfter := (refunded.runInner raw).gas.remaining
                    storageCharged := 0
                    forwarded := 0 } }) := by
    intro refunded gas charged
    rw [← gas] at leaves
    have runs := charged.runs leaves
    have noChild := runs.noChild returns spec
    split
    · rename_i fails
      exact runs.spends_failed fails
    · rw [charge_of_noChild noChild before, haltIfExceeded]
      split
      · rename_i exceeded
        exact runs.spends_halted (recordComputeGasAllDims_charges _ _) rfl noChild exceeded _
      · exact runs.spends_recorded (recordComputeGasAllDims_charges _ _) rfl
  cases refund with
  | none => exact finishes before rfl (.refl before)
  | some amount => exact finishes _ rfl ⟨rfl, Nat.le_refl _, rfl, rfl, id⟩

/-- A self-destruct that paid for its beneficiary goes on with the instruction of the engine. -/
theorem Paid.spends_selfdestruct (paid : Paid before middle 0)
    (leaves : instruction.Leaves middle.gas raw)
    (returns : ∀ input, instruction.leaves (.newFrame input) = false) (refund : Option Nat) :
    Spends spec instruction before (ComputeGasExt.selfdestruct refund raw middle) :=
  (spends_computeSelfdestruct leaves returns refund).of_paid paid fun _ => rfl

theorem spends_storageSelfdestruct {inputs : StorageGasExt.SelfdestructInputs} (stores : storage =
      if !inputs.isStatic && inputs.createsTarget then inputs.newAccountGas else 0)
    (leaves : instruction.Leaves
      { before.gas with
        remaining := before.gas.remaining -
          (storage - (before.meter.limit.tryConsumeStorageStipend storage).2) } raw)
    (returns : ∀ input, instruction.leaves (.newFrame input) = false) (refund : Option Nat) :
    Spends spec instruction before
      (StorageGasExt.selfdestruct spec inputs refund raw before) := by
  -- Where nothing is charged, the engine's instruction starts with all the gas.
  have uncharged : storage = 0 → instruction.Leaves before.gas raw := by
    intro nothing
    rw [nothing, Nat.zero_sub] at leaves
    exact leaves
  rw [StorageGasExt.selfdestruct]
  split
  · rename_i isStatic
    rw [isStatic] at stores
    exact spends_computeSelfdestruct (uncharged stores) returns refund
  · rename_i notStatic
    rw [Bool.eq_false_iff.mpr notStatic, Bool.not_false, Bool.true_and] at stores
    cases inputs.early with
    | some result => exact spends_halt before result
    | none =>
      rw [recordBeneficiary]
      split_ifs with creates credits
      · rw [creates, if_pos rfl] at stores
        subst stores
        obtain ⟨paid, equation, charged, gas⟩ | ⟨stopped, equation, _, spends⟩ :=
          (Charged.refl before).chargeStorageGas_cases spec instruction inputs.newAccountGas
        · rw [equation]
          rw [← gas] at leaves
          have balance : Paid before before 0 := ⟨rfl, Nat.le_refl _, rfl, .refl rfl, id⟩
          have paidFor := balance.charge charged gas
          have recorded : Paid before
              { paid with meter := paid.meter.update (·.onSelfdestructNewAccount) } 0 :=
            ⟨paidFor.limit, paidFor.left, paidFor.balance, paidFor.records, paidFor.going⟩
          exact recorded.spends_selfdestruct leaves returns refund
        · rw [equation]
          exact spends
      · rw [Bool.eq_false_iff.mpr creates, if_neg Bool.false_ne_true] at stores
        have recorded : Paid before
            { before with meter := before.meter.update (·.onSelfdestructExistingAccount) } 0 :=
          ⟨rfl, Nat.le_refl _, rfl, .refl rfl, id⟩
        exact recorded.spends_selfdestruct (uncharged stores) returns refund
      · rw [Bool.eq_false_iff.mpr creates, if_neg Bool.false_ne_true] at stores
        exact spends_computeSelfdestruct (uncharged stores) returns refund

/-! ### Instructions -/

/-- The instruction can start a child frame. -/
def startsChild : Instruction → Bool
  | .call .. | .create .. => true
  | _ => false

theorem leaves_newFrame (starts : startsChild instruction = false) (input : FrameInput) :
    instruction.leaves (.newFrame input) = false := by
  cases instruction <;> cases input <;> first | rfl | cases starts

/-- A wrapper that expands no memory pays only storage gas. -/
theorem engineGas_of_unsized (stores : instruction.storageGas spec = storage)
    (unsized : instruction.resizeGas = 0) (limit : AdditionalLimit) (gas : Gas) :
    instruction.engineGas spec limit gas =
      { gas with
        remaining :=
          gas.remaining - (storage - (limit.tryConsumeStorageStipend storage).2) } := by
  rw [Instruction.engineGas, stores, unsized, Nat.sub_zero]

/-- An instruction whose wrapper pays nothing hands all the gas to the engine. -/
theorem engineGas_of_free (free : instruction.storageGas spec = 0)
    (unsized : instruction.resizeGas = 0) (limit : AdditionalLimit) (gas : Gas) :
    instruction.engineGas spec limit gas = gas := by
  rw [engineGas_of_unsized free unsized, Nat.zero_sub]
  rfl

theorem spends_storageSstore {store : SStoreResult} {setGas : Nat}
    (leaves : instruction.Leaves
      ((Instruction.sstore none store setGas raw).engineGas spec before.meter.limit before.gas)
      raw) :
    Spends spec instruction before (StorageGasExt.sstore spec none store setGas raw before) := by
  rw [engineGas_of_unsized rfl rfl] at leaves
  rw [sstore]
  split
  · rename_i writes
    rw [Instruction.storageGas, if_pos writes] at leaves
    exact (Charged.refl before).spends_runCharged leaves
  · rename_i writes
    rw [Instruction.storageGas, if_neg writes, Nat.zero_sub] at leaves
    exact (Charged.refl before).spends_run leaves

theorem spends_storageLog {topics length : Nat}
    (leaves : instruction.Leaves
      ((Instruction.log none topics length raw).engineGas spec before.meter.limit before.gas) raw) :
    Spends spec instruction before (StorageGasExt.log spec none topics length raw before) := by
  rw [log, logStorageCost]
  split
  · exact spends_halt before _
  · rename_i cost counted
    split at counted
    · rw [← Option.some.inj counted]
      exact (Charged.refl before).spends_runCharged leaves
    · cases counted

theorem spends_storageCall {scheme : CallScheme} {access : VolatileAccess} {value : U256}
    {early : Option InstructionResult} {newAccountGas : Option Nat}
    (rex4 : spec.isEnabled .rex4 = true) (leaves : instruction.Leaves
      ((Instruction.call scheme access value early newAccountGas raw).engineGas spec
        before.meter.limit before.gas) raw) :
    Spends spec instruction before (StorageGasExt.call spec early newAccountGas raw before) := by
  rw [engineGas_of_unsized rfl rfl, Instruction.storageGas, rex4, Bool.true_or, Bool.true_or,
    if_pos rfl] at leaves
  cases early with
  | some result => exact spends_halt before result
  | none =>
    cases newAccountGas with
    | some amount => exact (Charged.refl before).spends_runCharged leaves
    | none =>
      rw [Option.getD_none, Nat.zero_sub] at leaves
      exact (Charged.refl before).spends_run leaves

/-- A hook that checks takes back no exceed. -/
theorem exceeded_checkLimit {limit : AdditionalLimit} (exceeded : limit.limitExceeded = true) :
    limit.checkLimit.limitExceeded = true := by
  rw [checkLimit_of_latched (LimitCheck.notWithin_of_exceeded exceeded)]
  exact exceeded

/-- An instruction whose wrapper pays nothing and only measures. -/
theorem spends_free (starts : startsChild instruction = false)
    (free : instruction.storageGas spec = 0) (unsized : instruction.resizeGas = 0)
    (leaves : instruction.Leaves
      (instruction.engineGas spec before.meter.limit before.gas) raw) :
    Spends spec instruction before (wrapOp raw before) := by
  rw [engineGas_of_free free unsized] at leaves
  exact spends_wrapOp leaves (leaves_newFrame starts)

/-- Every instruction that obeys the gas rule keeps the balance, from Rex4 on. -/
theorem spends_execute (rex4 : spec.isEnabled .rex4 = true)
    (obeys : instruction.Obeys spec before.meter.limit before.gas) :
    Spends spec instruction before (instruction.execute spec before) := by
  obtain ⟨enough, late, leaves⟩ := obeys
  cases instruction with
  | unknown result => exact spends_halt before result
  | plain raw =>
    exact spends_free rfl rfl rfl (leaves raw rfl)
  | volatile access raw =>
    exact spends_wrapDetainGas access (spends_free rfl rfl rfl (leaves raw rfl))
  | selfbalance access raw =>
    simp only [Instruction.execute, rex4, if_true]
    exact spends_wrapDetainGas access (spends_free rfl rfl rfl (leaves raw rfl))
  | sload access raw =>
    have kept : Spends spec (.sload access raw) before (wrapOp raw before) :=
      spends_free rfl rfl rfl (leaves raw rfl)
    simp only [Instruction.execute]
    split_ifs
    · exact spends_wrapDetainGas access kept
    · exact kept
  | sstore early store setGas raw =>
    cases early with
    | some result => exact spends_halt before result
    | none =>
      exact (spends_storageSstore (leaves raw rfl)).hook (leaves_newFrame rfl)
        fun exceeded => exceeded_checkLimit exceeded
  | log early topics length raw =>
    cases early with
    | some result => exact spends_halt before result
    | none =>
      exact (spends_storageLog (leaves raw rfl)).hook (leaves_newFrame rfl)
        fun exceeded => exceeded_checkLimit exceeded
  | call scheme access value early newAccountGas raw =>
    have called := spends_storageCall rex4 (leaves raw rfl)
    simp only [Instruction.execute, Instruction.executeCall, rex4, if_true]
    exact spends_wrapCall access (spends_wrapGasCap (fun _ knows => beq_iff_eq.mp knows) called)
  | create inputs raw =>
    have created : Spends spec (.create inputs raw) before
        (create spec inputs raw before) := by
      rw [create]
      split
      · exact spends_createRex6 late (leaves raw rfl)
      · rename_i old
        exact spends_createBeforeRex6 (Bool.eq_false_iff.mpr old) enough late (leaves raw rfl)
    exact spends_wrapGasCap (by rintro _ ⟨⟩) created
  | selfdestruct access inputs refund raw =>
    have kept := leaves raw rfl
    simp only [Instruction.execute, Instruction.executeSelfdestruct, rex4, if_true]
    split_ifs with rex5
    · rw [engineGas_of_unsized rfl rfl, Instruction.storageGas, rex5, Bool.true_and] at kept
      exact spends_wrapDetainGas access
        (spends_storageSelfdestruct rfl kept (leaves_newFrame rfl) refund)
    · rw [engineGas_of_free (by rw [Instruction.storageGas, Bool.eq_false_iff.mpr rex5]; rfl) rfl]
        at kept
      exact spends_wrapDetainGas access
        (spends_computeSelfdestruct kept (leaves_newFrame rfl) refund)

end Interpreter

end MegaEvm
