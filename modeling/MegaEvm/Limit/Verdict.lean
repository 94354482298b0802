/-
This file says what the hooks of the limits do to the latched verdict. A check changes
it only from within, so a hook leaves every other verdict as it is; only the return of
a frame takes back a verdict, and only one that is local to the frame.

It also says when the verdict can be trusted: the limits are settled when a verdict of
within means that data size, key-value updates and state growth are within. Recording
compute gas checks that dimension alone, and on settled limits that is enough.
-/

import MegaEvm.Limit.AdditionalLimit

namespace MegaEvm

open FrameResult LimitCheck

namespace LimitCheck

@[simp] theorem isWithinLimit_withinLimit : withinLimit.isWithinLimit = true := rfl

variable {check : LimitCheck}

variable (exceeds : check.IsTxExceed)

include exceeds

theorem IsTxExceed.exceeded : check.exceededLimit = true := by
  obtain ⟨kind, limit, used, rfl⟩ := exceeds
  rfl

theorem IsTxExceed.notFrameLocal : check.isFrameLocal = false := by
  obtain ⟨kind, limit, used, rfl⟩ := exceeds
  rfl

theorem IsTxExceed.notWithin : check.isWithinLimit = false := by
  obtain ⟨kind, limit, used, rfl⟩ := exceeds
  rfl

omit exceeds

theorem exceeded_of_isFrameLocal (frameLocal : check.isFrameLocal = true) :
    check.exceededLimit = true := by
  cases check with
  | withinLimit | exempt => exact nomatch frameLocal
  | exceedsLimit => rfl

theorem notFrameLocal_of_within (within : check.exceededLimit = false) :
    check.isFrameLocal = false := by
  cases check with
  | withinLimit | exempt => rfl
  | exceedsLimit => exact nomatch within

theorem notWithin_of_exceeded (exceeded : check.exceededLimit = true) :
    check.isWithinLimit = false := by
  cases check with
  | withinLimit => exact nomatch exceeded
  | exempt | exceedsLimit => rfl

/-- The verdict stays until the transaction ends: it is an exemption, or an exceed of the whole
transaction. -/
structure IsFinal (check : LimitCheck) : Prop where
  notWithin : check.isWithinLimit = false
  notFrameLocal : check.isFrameLocal = false

theorem IsTxExceed.isFinal (exceeds : check.IsTxExceed) : check.IsFinal :=
  ⟨exceeds.notWithin, exceeds.notFrameLocal⟩

/-- A verdict that is not final is one of within, or local to a frame. -/
theorem isFinal_or (check : LimitCheck) :
    check.IsFinal ∨ check = withinLimit ∨ check.isFrameLocal = true := by
  cases check with
  | withinLimit => exact Or.inr (Or.inl rfl)
  | exempt => exact Or.inl ⟨rfl, rfl⟩
  | exceedsLimit kind limit used frameLocal =>
    cases frameLocal with
    | true => exact Or.inr (Or.inr rfl)
    | false => exact Or.inl ⟨rfl, rfl⟩

/-- An exceed that is not local to a frame is one of the transaction. -/
theorem isTxExceed_of (exceeded : check.exceededLimit = true)
    (notLocal : check.isFrameLocal = false) : check.IsTxExceed := by
  cases check with
  | withinLimit | exempt => exact nomatch exceeded
  | exceedsLimit kind limit used frameLocal =>
    cases frameLocal with
    | true => exact nomatch notLocal
    | false => exact ⟨kind, limit, used, rfl⟩

end LimitCheck

namespace AdditionalLimit

variable (limit : AdditionalLimit)

/-- A limit never stops a frame with success. -/
theorem isOk_exceeding : limit.exceedingInstructionResult.isOk = false := by
  rw [exceedingInstructionResult]
  split <;> rfl

/-! ### Checks -/

/-- A check on a verdict other than within does nothing. -/
theorem checkLimit_of_latched {limit : AdditionalLimit}
    (latched : limit.hasExceededLimit.isWithinLimit = false) : limit.checkLimit = limit := by
  rw [checkLimit, latched, if_neg Bool.false_ne_true]

/-- A check on a verdict of within latches the first exceed. -/
theorem checkLimit_of_within {limit : AdditionalLimit}
    (within : limit.hasExceededLimit.isWithinLimit = true) :
    limit.checkLimit = { limit with hasExceededLimit := limit.firstExceed } := by
  rw [checkLimit, within, if_pos rfl]

section Fields

theorem checkLimit_eq :
    ∃ verdict, limit.checkLimit = { limit with hasExceededLimit := verdict } := by
  rw [checkLimit]
  split
  · exact ⟨_, rfl⟩
  · exact ⟨limit.hasExceededLimit, rfl⟩

@[simp] theorem checkLimit_stateGrowth : limit.checkLimit.stateGrowth = limit.stateGrowth := by
  obtain ⟨verdict, equation⟩ := limit.checkLimit_eq
  rw [equation]

@[simp] theorem checkLimit_dataSize : limit.checkLimit.dataSize = limit.dataSize := by
  obtain ⟨verdict, equation⟩ := limit.checkLimit_eq
  rw [equation]

@[simp] theorem checkLimit_kvUpdate : limit.checkLimit.kvUpdate = limit.kvUpdate := by
  obtain ⟨verdict, equation⟩ := limit.checkLimit_eq
  rw [equation]

@[simp] theorem checkLimit_computeGas : limit.checkLimit.computeGas = limit.computeGas := by
  obtain ⟨verdict, equation⟩ := limit.checkLimit_eq
  rw [equation]

@[simp] theorem checkLimit_storageCallStipend :
    limit.checkLimit.storageCallStipend = limit.storageCallStipend := by
  obtain ⟨verdict, equation⟩ := limit.checkLimit_eq
  rw [equation]

@[simp] theorem checkLimit_rescuedGas : limit.checkLimit.rescuedGas = limit.rescuedGas := by
  obtain ⟨verdict, equation⟩ := limit.checkLimit_eq
  rw [equation]

end Fields

/-- Nothing is exceeded, in any dimension. -/
theorem firstExceed_eq_withinLimit_iff :
    limit.firstExceed = .withinLimit ↔
      limit.dataSize.checkLimit.exceededLimit = false ∧
        limit.kvUpdate.checkLimit.exceededLimit = false ∧
        limit.computeGas.checkLimit.exceededLimit = false ∧
        limit.stateGrowth.checkLimit.exceededLimit = false := by
  unfold firstExceed
  split_ifs with data kv compute growth
  · simp only [data, Bool.true_eq_false, false_and, iff_false]
    intro within
    rw [within] at data
    exact Bool.false_ne_true data
  · simp only [kv, Bool.true_eq_false, false_and, and_false, iff_false]
    intro within
    rw [within] at kv
    exact Bool.false_ne_true kv
  · simp only [compute, Bool.true_eq_false, false_and, and_false, iff_false]
    intro within
    rw [within] at compute
    exact Bool.false_ne_true compute
  · simp only [growth, Bool.true_eq_false, and_false, iff_false]
    intro within
    rw [within] at growth
    exact Bool.false_ne_true growth
  · simp only [Bool.not_eq_true] at data kv compute growth
    simp only [data, kv, compute, growth, and_self]

/-- A check that finds nothing latched finds nothing to latch. -/
theorem firstExceed_of_checkLimit_within {limit : AdditionalLimit}
    (within : limit.checkLimit.hasExceededLimit = .withinLimit) :
    limit.firstExceed = .withinLimit := by
  cases latched : limit.hasExceededLimit.isWithinLimit with
  | true =>
    rw [checkLimit_of_within latched] at within
    exact within
  | false =>
    rw [checkLimit_of_latched latched] at within
    rw [within] at latched
    exact nomatch latched

/-! ### Frames -/

variable (input : FrameInput) (result : FrameResult)

@[simp] theorem gas_exceededLimitResult :
    (limit.exceededLimitResult input).gas = .new input.gasLimit := by
  cases input <;> rfl

@[simp] theorem instructionResult_exceededLimitResult :
    (limit.exceededLimitResult input).instructionResult = limit.exceedingInstructionResult := by
  cases input <;> rfl

/-- The limits with the frame pushed in every tracker, before the check. -/
def pushedFrame (init : FrameInit) (growth : StateGrowthTracker) : AdditionalLimit :=
  let granted := limit.storageCallStipend.beforeFrameInit init limit.computeGas.pushFrame
  { limit with
    stateGrowth := growth
    dataSize := limit.dataSize.beforeFrameInit init.input
    kvUpdate := limit.kvUpdate.beforeFrameInit init.input
    computeGas := granted.2.2
    storageCallStipend := granted.1 }

/-- The frame start with the stipend of the frame granted. -/
def grantedInit (init : FrameInit) : FrameInit :=
  (limit.storageCallStipend.beforeFrameInit init limit.computeGas.pushFrame).2.1

/-- What the start of a frame can do: push it and go on, or push it and stop at an exceed. -/
theorem beforeFrameInit_eq_some {limit : AdditionalLimit} {journal : JournalInspect}
    {init admitted : FrameInit} {next : AdditionalLimit} {result : Option FrameResult}
    (started : limit.beforeFrameInit journal init = some (next, admitted, result)) :
    ∃ growth, limit.stateGrowth.beforeFrameInit journal init.input = some growth ∧
      admitted = limit.grantedInit init ∧
      (((limit.pushedFrame init growth).checkLimit.limitExceeded = true ∧
          next = (limit.pushedFrame init growth).checkLimit.tryRescueGas
            (.new admitted.input.gasLimit) ∧
          result = some
            ((limit.pushedFrame init growth).checkLimit.exceededLimitResult admitted.input)) ∨
        ((limit.pushedFrame init growth).checkLimit.limitExceeded = false ∧
          next = (limit.pushedFrame init growth).checkLimit ∧ result = none)) := by
  rw [beforeFrameInit, Option.map_eq_some_iff] at started
  obtain ⟨growth, grown, equation⟩ := started
  refine ⟨growth, grown, ?_⟩
  cases exceeded : (limit.pushedFrame init growth).checkLimit.limitExceeded with
  | true =>
    have equation := (if_pos exceeded).symm.trans equation
    obtain ⟨rfl, rfl, rfl⟩ := equation
    exact ⟨rfl, Or.inl ⟨rfl, by rw [← gas_exceededLimitResult]; rfl, rfl⟩⟩
  | false =>
    have equation := (if_neg (Bool.eq_false_iff.mp exceeded)).symm.trans equation
    obtain ⟨rfl, rfl, rfl⟩ := equation
    exact ⟨rfl, Or.inr ⟨rfl, rfl, rfl⟩⟩

/-- The limits with the frame popped from every tracker, before the check. -/
def poppedFrame (result : FrameResult) : AdditionalLimit :=
  let success := result.instructionResult.isOk
  { limit with
    stateGrowth := limit.stateGrowth.beforeFrameReturnResult success
    dataSize := limit.dataSize.beforeFrameReturnResult success
    kvUpdate := limit.kvUpdate.beforeFrameReturnResult success
    computeGas := limit.computeGas.beforeFrameReturnResult success
    storageCallStipend := (limit.storageCallStipend.beforeFrameReturnResult result).1 }

/-- The result with what is left of an inflated gas limit burned. -/
def burnedResult (result : FrameResult) : FrameResult :=
  (limit.storageCallStipend.beforeFrameReturnResult result).2

/-- The frame is popped for the first time. -/
def PopsFrame (lastFrame : Bool) : Prop :=
  lastFrame = true → limit.dataSize.hasActiveFrame = true

theorem beforeFrameReturnResult_of_pops {limit : AdditionalLimit} {lastFrame : Bool}
    (pops : limit.PopsFrame lastFrame) (result : FrameResult) :
    limit.beforeFrameReturnResult lastFrame result =
      (let checked := (limit.poppedFrame result).checkLimit
      if checked.limitExceeded then
        if checked.hasExceededLimit.isFrameLocal then
          ({ checked with hasExceededLimit := .withinLimit },
            (limit.burnedResult result).mark .revert
              (.limit checked.hasExceededLimit.revertData))
        else (checked, (limit.burnedResult result).mark .outOfGas .empty)
      else (checked, limit.burnedResult result)) := by
  have notDuplicate : (lastFrame && !limit.dataSize.hasActiveFrame) = false := by
    cases lastFrame with
    | false => rfl
    | true => rw [pops rfl]; rfl
  simp only [beforeFrameReturnResult, notDuplicate, Bool.not_false, Bool.and_true]
  rfl

/-- A second pop of the last frame checks once more and keeps the result. -/
theorem beforeFrameReturnResult_of_not_pops {limit : AdditionalLimit}
    (popped : limit.dataSize.hasActiveFrame = false) (result : FrameResult) :
    limit.beforeFrameReturnResult true result =
      ((limit.poppedFrame result).checkLimit, limit.burnedResult result) := by
  simp only [beforeFrameReturnResult, popped, Bool.not_false, Bool.and_true, Bool.not_true,
    Bool.and_false, Bool.false_eq_true, if_false]
  rfl

@[simp] theorem instructionResult_burnedResult :
    (limit.burnedResult result).instructionResult = result.instructionResult := by
  simp only [burnedResult, StorageCallStipendTracker.beforeFrameReturnResult]
  split
  · exact instructionResult_setGas _ _
  · rfl

/-! ### Hooks that check -/

/-- Gas is offered after a check. -/
theorem tryRescueGas_cases (gas : Gas) :
    limit.tryRescueGas gas = limit.checkLimit ∨
      limit.tryRescueGas gas = limit.checkLimit.rescueGas gas := by
  rw [tryRescueGas]
  split
  · exact Or.inr rfl
  · exact Or.inl rfl

/-- The end of the code of a frame counts the code that a create leaves, and checks that. -/
theorem afterFrameRunInstructions_cases (isCreate : Bool) (result : InterpreterResult) :
    (limit.afterFrameRunInstructions isCreate result).1 = limit ∨
      (limit.afterFrameRunInstructions isCreate result).1 =
        { limit with
          dataSize := limit.dataSize.afterFrameRun true result.output.length }.checkLimit := by
  unfold afterFrameRunInstructions
  cases isCreate with
  | false => exact Or.inl rfl
  | true =>
    rw [if_pos rfl]
    dsimp only
    split <;> exact Or.inr rfl

/-- The end of a frame records its compute gas, if any, and offers the gas of the result. -/
theorem afterFrameRun_fst (gasRemainingBefore : Option Nat) :
    (limit.afterFrameRun result gasRemainingBefore).1 =
      (match gasRemainingBefore with
        | some before => (limit.recordComputeGas (before - result.gas.remaining)).1
        | none => limit).tryRescueGas result.gas := by
  cases gasRemainingBefore with
  | none => rfl
  | some before =>
    simp only [afterFrameRun]
    rcases limit.recordComputeGas (before - result.gas.remaining) with ⟨recorded, _ | _⟩
    · exact congrArg recorded.tryRescueGas (gas_mark _ _ _)
    · rfl

/-- The return of a frame checks after the pop and may absorb what the check latched. -/
theorem beforeFrameReturnResult_cases (lastFrame : Bool) (result : FrameResult) :
    (limit.beforeFrameReturnResult lastFrame result).1 = (limit.poppedFrame result).checkLimit ∨
      (limit.beforeFrameReturnResult lastFrame result).1 =
        { (limit.poppedFrame result).checkLimit with hasExceededLimit := .withinLimit } := by
  simp only [beforeFrameReturnResult]
  split_ifs
  · exact Or.inr rfl
  · exact Or.inl rfl
  · exact Or.inl rfl

/-! ### Hooks that do not touch the key-value updates -/

section KVUpdates

@[simp] theorem recordComputeGas_kvUpdate (gas : Nat) :
    (limit.recordComputeGas gas).1.kvUpdate = limit.kvUpdate := by
  simp only [recordComputeGas]
  split_ifs <;> rfl

@[simp] theorem tryRescueGas_kvUpdate (gas : Gas) :
    (limit.tryRescueGas gas).kvUpdate = limit.kvUpdate := by
  obtain equation | equation := limit.tryRescueGas_cases gas <;> rw [equation]
  · exact limit.checkLimit_kvUpdate
  · exact limit.checkLimit_kvUpdate

@[simp] theorem afterFrameRunInstructions_kvUpdate (isCreate : Bool) (result : InterpreterResult) :
    (limit.afterFrameRunInstructions isCreate result).1.kvUpdate = limit.kvUpdate := by
  obtain equation | equation := limit.afterFrameRunInstructions_cases isCreate result <;>
    rw [equation]
  exact checkLimit_kvUpdate _

@[simp] theorem afterFrameRun_kvUpdate (result : FrameResult) (gasRemainingBefore : Option Nat) :
    (limit.afterFrameRun result gasRemainingBefore).1.kvUpdate = limit.kvUpdate := by
  rw [afterFrameRun_fst, tryRescueGas_kvUpdate]
  cases gasRemainingBefore with
  | none => rfl
  | some before => exact limit.recordComputeGas_kvUpdate _

@[simp] theorem beforeFrameReturnResult_kvUpdate (lastFrame : Bool) (result : FrameResult) :
    (limit.beforeFrameReturnResult lastFrame result).1.kvUpdate =
      limit.kvUpdate.beforeFrameReturnResult result.instructionResult.isOk := by
  have checked := checkLimit_kvUpdate (limit.poppedFrame result)
  obtain equation | equation := limit.beforeFrameReturnResult_cases lastFrame result <;>
    rw [equation] <;> exact checked

end KVUpdates

/-! ### Hooks on a latched verdict -/

section Latched

variable {limit : AdditionalLimit} (latched : limit.hasExceededLimit.isWithinLimit = false)

include latched

theorem checkLimit_verdict : limit.checkLimit.hasExceededLimit = limit.hasExceededLimit := by
  rw [checkLimit_of_latched latched]

theorem recordComputeGas_verdict (gas : Nat) :
    (limit.recordComputeGas gas).1.hasExceededLimit = limit.hasExceededLimit := by
  simp only [recordComputeGas, latched, Bool.false_eq_true, if_false]

theorem tryRescueGas_verdict (gas : Gas) :
    (limit.tryRescueGas gas).hasExceededLimit = limit.hasExceededLimit := by
  obtain equation | equation := limit.tryRescueGas_cases gas <;> rw [equation]
  · exact checkLimit_verdict latched
  · exact checkLimit_verdict latched

theorem checkLimit_pushedFrame_verdict (init : FrameInit) (growth : StateGrowthTracker) :
    (limit.pushedFrame init growth).checkLimit.hasExceededLimit = limit.hasExceededLimit := by
  have pushed : (limit.pushedFrame init growth).hasExceededLimit.isWithinLimit = false := latched
  rw [checkLimit_of_latched pushed]
  rfl

theorem afterFrameRunInstructions_verdict (isCreate : Bool) (result : InterpreterResult) :
    (limit.afterFrameRunInstructions isCreate result).1.hasExceededLimit =
      limit.hasExceededLimit := by
  obtain equation | equation := limit.afterFrameRunInstructions_cases isCreate result <;>
    rw [equation]
  exact checkLimit_verdict latched

theorem afterFrameRun_verdict (result : FrameResult) (gasRemainingBefore : Option Nat) :
    (limit.afterFrameRun result gasRemainingBefore).1.hasExceededLimit =
      limit.hasExceededLimit := by
  rw [afterFrameRun_fst]
  cases gasRemainingBefore with
  | none => exact tryRescueGas_verdict latched _
  | some before =>
    have recorded := recordComputeGas_verdict latched (before - result.gas.remaining)
    exact (tryRescueGas_verdict (recorded ▸ latched) _).trans recorded

end Latched

/-- A frame that returns on a final verdict keeps it. -/
theorem beforeFrameReturnResult_verdict {limit : AdditionalLimit}
    (final : limit.hasExceededLimit.IsFinal) (lastFrame : Bool) (result : FrameResult) :
    (limit.beforeFrameReturnResult lastFrame result).1.hasExceededLimit =
      limit.hasExceededLimit := by
  have kept : (limit.poppedFrame result).checkLimit = limit.poppedFrame result :=
    checkLimit_of_latched final.notWithin
  have notLocal : (limit.poppedFrame result).hasExceededLimit.isFrameLocal = false :=
    final.notFrameLocal
  by_cases pops : limit.PopsFrame lastFrame
  · rw [beforeFrameReturnResult_of_pops pops]
    simp only [kept, notLocal, Bool.false_eq_true, if_false]
    split <;> rfl
  · obtain ⟨rfl, popped⟩ : lastFrame = true ∧ limit.dataSize.hasActiveFrame = false := by
      simp only [PopsFrame, not_forall, Bool.not_eq_true] at pops
      exact ⟨pops.1, pops.2⟩
    rw [beforeFrameReturnResult_of_not_pops popped, kept]
    rfl

/-- A frame that is popped and leaves an exceed of the transaction latched returns out of gas. -/
theorem beforeFrameReturnResult_outOfGas {limit : AdditionalLimit} {lastFrame : Bool}
    (pops : limit.PopsFrame lastFrame) (result : FrameResult)
    (exceeds :
      (limit.beforeFrameReturnResult lastFrame result).1.hasExceededLimit.IsTxExceed) :
    (limit.beforeFrameReturnResult lastFrame result).2.instructionResult = .outOfGas := by
  rw [beforeFrameReturnResult_of_pops pops] at exceeds ⊢
  dsimp only at exceeds ⊢
  split at exceeds
  · split at exceeds
    · obtain ⟨_, _, _, impossible⟩ := exceeds
      cases impossible
    · rename_i exceeded notLocal
      rw [if_pos exceeded, if_neg notLocal]
      exact instructionResult_mark _ _ _
  · rename_i notExceeded
    exact absurd exceeds.exceeded notExceeded

/-! ### Settled limits -/

/-- Data size, key-value updates and state growth are within their limits. -/
structure WritesWithin : Prop where
  dataSize : limit.dataSize.checkLimit.exceededLimit = false
  kvUpdate : limit.kvUpdate.checkLimit.exceededLimit = false
  stateGrowth : limit.stateGrowth.checkLimit.exceededLimit = false

/-- A verdict of within can be trusted in every dimension but compute gas. -/
def Settled : Prop :=
  limit.hasExceededLimit = .withinLimit → limit.WritesWithin

theorem checkLimit_settled : limit.checkLimit.Settled := by
  intro within
  obtain ⟨data, kv, _, growth⟩ :=
    limit.firstExceed_eq_withinLimit_iff.mp (firstExceed_of_checkLimit_within within)
  constructor
  · rw [checkLimit_dataSize, data]
  · rw [checkLimit_kvUpdate, kv]
  · rw [checkLimit_stateGrowth, growth]

variable (gas : Nat)

/-- What recording compute gas can do: charge it, and latch an exceed in that dimension if nothing
was latched. -/
theorem recordComputeGas_cases :
    ((limit.recordComputeGas gas).2 = !(limit.recordComputeGas gas).1.limitExceeded) ∧
      ∃ verdict, (limit.recordComputeGas gas).1 =
          { limit with
            computeGas := limit.computeGas.recordGasUsed gas
            hasExceededLimit := verdict } ∧
        (verdict = .withinLimit → limit.hasExceededLimit = .withinLimit ∧
          (limit.computeGas.recordGasUsed gas).checkLimit.exceededLimit = false) := by
  cases within : limit.hasExceededLimit.isWithinLimit with
  | false =>
    simp only [recordComputeGas, within, Bool.false_eq_true, if_false]
    refine ⟨rfl, limit.hasExceededLimit, rfl, fun isWithin => ?_⟩
    rw [isWithin] at within
    exact nomatch within
  | true =>
    have isWithin := (isWithinLimit_iff _).mp within
    cases exceeded : (limit.computeGas.recordGasUsed gas).checkLimit.exceededLimit with
    | true =>
      simp only [recordComputeGas, within, exceeded, if_true]
      refine ⟨by rw [limitExceeded, exceeded]; rfl, _, rfl, fun isWithin => ?_⟩
      rw [isWithin] at exceeded
      exact nomatch exceeded
    | false =>
      simp only [recordComputeGas, within, exceeded, if_true, Bool.false_eq_true, if_false]
      refine ⟨by rw [limitExceeded, isWithin]; rfl, .withinLimit, ?_, fun _ => ⟨isWithin, trivial⟩⟩
      rw [← isWithin]

/-- Recording compute gas goes on exactly if no exceed is latched afterwards. -/
theorem recordComputeGas_snd :
    (limit.recordComputeGas gas).2 = !(limit.recordComputeGas gas).1.limitExceeded :=
  (limit.recordComputeGas_cases gas).1

theorem recordComputeGas_eq :
    ∃ verdict, (limit.recordComputeGas gas).1 =
      { limit with
        computeGas := limit.computeGas.recordGasUsed gas
        hasExceededLimit := verdict } := by
  obtain ⟨_, verdict, equation, _⟩ := limit.recordComputeGas_cases gas
  exact ⟨verdict, equation⟩

/-- An exceed that recording compute gas latches is one of that dimension. -/
theorem recordComputeGas_latches {limit : AdditionalLimit} (within : limit.limitExceeded = false)
    (gas : Nat) (latched : (limit.recordComputeGas gas).1.limitExceeded = true) :
    (limit.recordComputeGas gas).1.hasExceededLimit =
      (limit.recordComputeGas gas).1.computeGas.checkLimit := by
  revert latched
  simp only [recordComputeGas]
  split_ifs
  · exact fun _ => rfl
  · exact fun latched => nomatch within.symm.trans latched
  · exact fun latched => nomatch within.symm.trans latched

/-- Recording compute gas leaves the stipend of the frame as it is. -/
theorem recordComputeGas_drained (amount : Nat) :
    ((limit.recordComputeGas gas).1.tryConsumeStorageStipend amount).2 =
      (limit.tryConsumeStorageStipend amount).2 := by
  obtain ⟨verdict, equation⟩ := limit.recordComputeGas_eq gas
  rw [equation]
  rfl

/-- Recording compute gas takes back no exceed. -/
theorem within_before_recordComputeGas {limit : AdditionalLimit} {gas : Nat}
    (within : (limit.recordComputeGas gas).1.limitExceeded = false) :
    limit.limitExceeded = false := by
  cases exceeded : limit.limitExceeded with
  | false => rfl
  | true =>
    have kept := recordComputeGas_verdict (notWithin_of_exceeded exceeded) gas
    rw [limitExceeded, kept] at within
    exact nomatch within.symm.trans exceeded

/-- Settled limits stay settled when compute gas is recorded. -/
theorem Settled.recordComputeGas {limit : AdditionalLimit} (settled : limit.Settled) (gas : Nat) :
    (limit.recordComputeGas gas).1.Settled := by
  obtain ⟨_, verdict, equation, kept⟩ := limit.recordComputeGas_cases gas
  rw [equation]
  intro within
  obtain ⟨data, kv, growth⟩ := settled (kept within).1
  exact ⟨data, kv, growth⟩

/-- On settled limits, checking compute gas alone is checking every dimension. -/
theorem Settled.recordComputeGas_eq_allDims {limit : AdditionalLimit} (settled : limit.Settled)
    (gas : Nat) : limit.recordComputeGas gas = limit.recordComputeGasAllDims gas := by
  cases within : limit.hasExceededLimit.isWithinLimit with
  | false =>
    simp only [AdditionalLimit.recordComputeGas, recordComputeGasAllDims, checkLimit, within,
      Bool.false_eq_true, if_false, limitExceeded]
  | true =>
    have isWithin := (isWithinLimit_iff _).mp within
    obtain ⟨data, kv, growth⟩ := settled isWithin
    simp only [AdditionalLimit.recordComputeGas, recordComputeGasAllDims, checkLimit, within,
      if_true, firstExceed, data, kv, growth, Bool.false_eq_true, if_false, limitExceeded]
    split
    · rename_i exceeded
      rw [exceeded]
      rfl
    · rw [← isWithin]
      simp only [isWithin]
      rfl

/-- Limits that differ neither in the verdict nor in the writes are settled alike. -/
theorem Settled.of_eq {limit other : AdditionalLimit} (settled : limit.Settled)
    (verdict : other.hasExceededLimit = limit.hasExceededLimit)
    (dataSize : other.dataSize = limit.dataSize) (kvUpdate : other.kvUpdate = limit.kvUpdate)
    (stateGrowth : other.stateGrowth = limit.stateGrowth) : other.Settled := by
  intro within
  obtain ⟨data, kv, growth⟩ := settled (verdict ▸ within)
  exact ⟨dataSize ▸ data, kvUpdate ▸ kv, stateGrowth ▸ growth⟩

theorem Settled.setComputeGasLimit {limit : AdditionalLimit} (settled : limit.Settled)
    (newLimit : Nat) : (limit.setComputeGasLimit newLimit).Settled :=
  settled.of_eq rfl rfl rfl rfl

theorem Settled.tryConsumeStorageStipend {limit : AdditionalLimit} (settled : limit.Settled)
    (amount : Nat) : (limit.tryConsumeStorageStipend amount).1.Settled :=
  settled.of_eq rfl rfl rfl rfl

theorem tryRescueGas_settled (gas : Gas) : (limit.tryRescueGas gas).Settled := by
  obtain equation | equation := limit.tryRescueGas_cases gas <;> rw [equation]
  · exact limit.checkLimit_settled
  · exact limit.checkLimit_settled.of_eq rfl rfl rfl rfl

theorem afterFrameRunInstructions_settled {limit : AdditionalLimit} {isCreate : Bool}
    (settled : isCreate = false → limit.Settled) (result : InterpreterResult) :
    (limit.afterFrameRunInstructions isCreate result).1.Settled := by
  cases isCreate with
  | false => exact settled rfl
  | true =>
    simp only [afterFrameRunInstructions, if_true]
    split <;> exact checkLimit_settled _

end AdditionalLimit

end MegaEvm
