/-
This file follows the gas limits of nested frames. Each frame was started by the one beneath
it, with at most what the cap leaves of the gas that frame had, and with the stipend of the
engine if the call transferred value. Which of the open calls did, and which went through
the cap, is kept beside the execution, one entry for each suspended frame.

Where no gas limit is inflated and no frame holds more gas than it started with, a frame has
at most 98 percent of what the frame beneath it started with, up to rounding. Over a chain of
calls the rounding adds up to less than fifty.
-/

import Mathlib.Algebra.Order.Field.Basic
import Mathlib.Tactic.Linarith
import MegaEvm.Evm.Forwarding
import MegaEvm.Evm.Outcomes

namespace MegaEvm

open Library StorageCallStipendTracker

/-! ### Chains of frames -/

namespace ForwardGasExt

/-- An open call: whether it transferred value, and whether it went through the cap. -/
structure OpenCall where
  transfer : Bool
  capped : Bool

/-- The gas limits of nested frames, the deepest first, and the calls between them. -/
def Nested : List Nat → List OpenCall → Prop
  | child :: parent :: below, call :: rest =>
    (call.capped = true →
        child ≤ forwardedGasCap parent + (if call.transfer then callStipend else 0)) ∧
      Nested (parent :: below) rest
  | _ :: _ :: _, [] => False
  | _, calls => calls = []

theorem Nested.below {limit : Nat} {limits : List Nat} {calls : List OpenCall}
    (nested : Nested (limit :: limits) calls) : Nested limits calls.tail := by
  cases limits with
  | nil => exact congrArg List.tail nested
  | cons =>
    cases calls with
    | nil => exact absurd nested id
    | cons => exact nested.2

/-- Two percent are withheld, rounded down. -/
theorem forwardedGasCap_le (gasLeft : Nat) :
    (forwardedGasCap gasLeft : ℚ) ≤ gasLeft * (98 / 100) + 1 := by
  have withheld : 100 * forwardedGasCap gasLeft ≤ 98 * gasLeft + 100 := by
    rw [forwardedGasCap]
    omega
  have cast : (100 * forwardedGasCap gasLeft : ℚ) ≤ 98 * gasLeft + 100 := by
    exact_mod_cast withheld
  linarith

theorem forwardedGasCap_mono {less more : Nat} (order : less ≤ more) :
    forwardedGasCap less ≤ forwardedGasCap more := by
  rw [forwardedGasCap, forwardedGasCap]
  omega

/-- One level of nesting, with the bound of the level beneath it. -/
theorem le_of_le_forwardedGasCap {child parent : Nat} {transfer : Bool}
    (forwarded : child ≤ forwardedGasCap parent + (if transfer then callStipend else 0))
    {bound : ℚ} {stipends : Nat} (parentBound : (parent : ℚ) ≤ bound + 50 + 2300 * stipends) :
    (child : ℚ) ≤
      bound * (98 / 100) + 50 + 2300 * (stipends + if transfer then 1 else 0 : Nat) := by
  have cap := forwardedGasCap_le parent
  have stipend : ((if transfer then callStipend else 0 : Nat) : ℚ) =
      2300 * (if transfer then 1 else 0 : Nat) := by
    cases transfer <;> norm_num [callStipend]
  have forwardedCast : (child : ℚ) ≤ forwardedGasCap parent +
      ((if transfer then callStipend else 0 : Nat) : ℚ) := by
    exact_mod_cast forwarded
  have stipendsCast : (0 : ℚ) ≤ stipends := Nat.cast_nonneg stipends
  rw [Nat.cast_add]
  rw [stipend] at forwardedCast
  linarith

/-- The gas limit of the deepest frame of a chain of nested calls that all went through the cap. -/
theorem Nested.le_chain {limit start : Nat} {above below : List Nat} {calls : List OpenCall}
    (nested : Nested (limit :: (above ++ start :: below)) calls)
    (capped : ∀ call ∈ calls.take (above.length + 1), call.capped = true) :
    (limit : ℚ) ≤ start * (98 / 100) ^ (above.length + 1) + 50 +
      2300 * (calls.take (above.length + 1)).countP OpenCall.transfer := by
  induction above generalizing limit calls with
  | nil =>
    obtain _ | ⟨call, rest⟩ := calls
    · exact absurd nested id
    · have bound := @le_of_le_forwardedGasCap limit start call.transfer
        (nested.1 (capped call List.mem_cons_self)) start 0 (by push_cast; linarith)
      rw [List.length_nil, zero_add, pow_one, List.take_succ_cons, List.countP_cons]
      exact bound
  | cons parent above inductionHypothesis =>
    obtain _ | ⟨call, rest⟩ := calls
    · exact absurd nested id
    · obtain ⟨first, others⟩ := List.forall_mem_cons.mp capped
      have bound := le_of_le_forwardedGasCap (nested.1 first) (inductionHypothesis nested.2 others)
      rw [List.length_cons, pow_succ, ← mul_assoc, List.take_succ_cons, List.countP_cons]
      exact bound

end ForwardGasExt

/-! ### Frames of an execution -/

/-- The gas limit of the frame that is being started, or that runs. -/
def Phase.frameGasLimit? : Phase → Option Nat
  | .frameInit init | .intercepting init | .admitting init | .making init =>
    some init.input.gasLimit
  | .running frame | .interpreting frame | .stopped frame _ | .settled frame _ =>
    some frame.gas.limit
  | _ => none

namespace Execution

open ForwardGasExt

variable {config : EvmConfig} {state next : Execution} {event : Event} {calls : List OpenCall}
  {capped cappedNext : Bool}

/-- The gas limits of the suspended frames, the deepest first. -/
def gasLimits (state : Execution) : List Nat :=
  state.frames.map fun frame => frame.gas.limit

/-- The child that is about to be started is sent value. -/
def startsTransfer (state : Execution) : Bool :=
  match state.phase with
  | .stopped _ (.newFrame input) => grantsStipend input
  | _ => false

/-- The open calls after a step: one more when a frame was suspended, and fewer when frames were
resumed. -/
def openCalls (state next : Execution) (capped : Bool) (calls : List OpenCall) : List OpenCall :=
  if state.frames.length < next.frames.length then ⟨state.startsTransfer, capped⟩ :: calls
  else calls.drop (state.frames.length - next.frames.length)

theorem openCalls_of_suspended {frame : EngineFrame}
    (frames : next.frames = frame :: state.frames) :
    openCalls state next capped calls = ⟨state.startsTransfer, capped⟩ :: calls := by
  rw [openCalls, frames, List.length_cons, if_pos (Nat.lt_succ_self _)]

theorem openCalls_of_resumed {frame : EngineFrame} (frames : state.frames = frame :: next.frames) :
    openCalls state next capped calls = calls.tail := by
  rw [openCalls, frames, List.length_cons, if_neg (Nat.not_lt.mpr (Nat.le_succ _)),
    Nat.add_sub_cancel_left, List.drop_one]

/-- Whether the last instruction was one that goes through the cap. -/
def cappedAfter (config : EvmConfig) (capped : Bool) (event : Event) : Bool :=
  event.instruction?.elim capped (·.isCapped config.spec)

/-- The execution, its open calls, and whether the last instruction was one that goes through the
cap. -/
structure Nesting where
  execution : Execution
  calls : List OpenCall
  capped : Bool

namespace Nesting

def initial (config : EvmConfig) (limits : EvmTxRuntimeLimits) : Nesting where
  execution := .initial config limits
  calls := []
  capped := true

def step (config : EvmConfig) (nesting : Nesting) (event : Event) : Option Nesting :=
  (nesting.execution.step config event).map fun next =>
    { execution := next
      calls := openCalls nesting.execution next nesting.capped nesting.calls
      capped := cappedAfter config nesting.capped event }

end Nesting

/-- The frames are nested by calls, and so is the one that is about to be started. -/
structure Nests (state : Execution) (capped : Bool) (calls : List OpenCall) : Prop where
  aligned : calls.length = state.frames.length
  running : ∀ limit ∈ state.phase.frameGasLimit?, Nested (limit :: state.gasLimits) calls
  suspended : Nested state.gasLimits calls.tail
  pending : ∀ frame input, state.phase = .stopped frame (.newFrame input) → capped = true →
    input.gasLimit ≤ forwardedGasCap frame.gas.limit + input.engineStipend

variable (nests : state.Nests capped calls)

include nests

/-- A step that suspends and resumes no frame leaves the frames nested. -/
theorem Nests.keep (frames : next.frames = state.frames)
    (limit : ∀ limit ∈ next.phase.frameGasLimit?, limit ∈ state.phase.frameGasLimit?)
    (pending : ∀ frame input, next.phase = .stopped frame (.newFrame input) → cappedNext = true →
      input.gasLimit ≤ forwardedGasCap frame.gas.limit + input.engineStipend) :
    next.Nests cappedNext (openCalls state next capped calls) := by
  have same : openCalls state next capped calls = calls := by
    rw [openCalls, frames, if_neg (Nat.lt_irrefl _), Nat.sub_self, List.drop_zero]
  have limits : next.gasLimits = state.gasLimits := by rw [gasLimits, gasLimits, frames]
  rw [same]
  refine ⟨nests.aligned.trans (congrArg List.length frames).symm, ?_, ?_, pending⟩
  · rw [limits]
    exact fun current member => nests.running current (limit current member)
  · rw [limits]
    exact nests.suspended

/-- A step to a phase without a frame. -/
theorem Nests.leave (frames : next.frames = state.frames)
    (frameless : next.phase.frameGasLimit? = none) :
    next.Nests cappedNext (openCalls state next capped calls) := by
  refine nests.keep frames ?_ ?_
  · rw [frameless]
    exact nofun
  · intro frame input stops
    rw [stops] at frameless
    cases frameless

/-- A transaction, and its first frame, start without suspended frames. -/
theorem Nests.restart (frames : next.frames = [])
    (pending : ∀ frame input, next.phase ≠ .stopped frame (.newFrame input)) :
    next.Nests cappedNext (openCalls state next capped calls) := by
  have closed : openCalls state next capped calls = [] := by
    rw [openCalls, frames, List.length_nil, if_neg (Nat.not_lt_zero _), Nat.sub_zero,
      ← nests.aligned, List.drop_length]
  rw [closed]
  refine ⟨by rw [frames]; rfl, ?_, ?_, fun frame input stops => absurd stops (pending frame input)⟩
  · rw [gasLimits, frames]
    exact fun _ _ => rfl
  · rw [gasLimits, frames]
    rfl

omit nests

/-! ### Steps -/

/-- The rules for the gas of a chain of calls: the engine forwards gas of the frame, a frame holds
at most what it started with, and a result that is delivered leaves the gas limit of the parent
alone. -/
@[mk_iff] structure ForwardsWithin (state : Execution) (event : Event) : Prop where
  leaves : ∀ instruction ∈ event.instruction?, instruction.LeavesChild
  spends : ∀ instruction ∈ event.instruction?, ∀ frame ∈ state.phase.interpreting?,
    ∀ raw ∈ instruction.raw?, ∀ input ∈ instruction.child?,
      raw.remaining + input.forwardedGas ≤ frame.gas.remaining
  holds : ∀ _ ∈ event.instruction?, ∀ frame ∈ state.phase.interpreting?,
    frame.gas.remaining ≤ frame.gas.limit
  delivered : ∀ gas ∈ event.parentGas?, ∀ parent ∈ state.frames.head?,
    gas.limit = parent.gas.limit

instance (state : Execution) (event : Event) : Decidable (ForwardsWithin state event) :=
  decidable_of_iff' _ (forwardsWithin_iff state event)

/-- The start of a frame inflates no gas limit. -/
def Uninflated (state : Execution) : Prop :=
  ∀ init, (state.meter.limit.grantedInit init).input.gasLimit = init.input.gasLimit

theorem nests_afterInstruction {frame : EngineFrame} {ran : Interpreter}
    (nests : state.Nests capped calls) (interprets : state.phase = .interpreting frame)
    (limit : ran.gas.limit = frame.gas.limit)
    (child : cappedNext = true → ∀ input, ran.action = some (.newFrame input) →
      input.gasLimit ≤ forwardedGasCap frame.gas.limit + input.engineStipend) :
    (state.afterInstruction frame ran).Nests cappedNext
      (openCalls state (state.afterInstruction frame ran) capped calls) := by
  have framed : ∀ limit ∈ some ran.gas.limit, limit ∈ state.phase.frameGasLimit? := by
    rw [limit, interprets]
    exact fun _ member => member
  obtain ⟨meter, gas, action⟩ := ran
  cases action with
  | none => exact nests.keep rfl framed (nofun)
  | some action =>
    refine nests.keep rfl framed fun stopped input stops isCapped => ?_
    obtain ⟨rfl, rfl⟩ := Phase.stopped.inj stops
    rw [show gas.limit = frame.gas.limit from limit]
    exact child isCapped input rfl

/-- The child of an instruction that keeps to the rules and goes through the cap. -/
theorem ForwardsWithin.child_le {instruction : Instruction} {frame : EngineFrame}
    (forwards : ForwardsWithin state (.execute instruction))
    (interprets : state.phase = .interpreting frame) {interpreter : Interpreter}
    {input : FrameInput} (forwarded : instruction.Forwards config.spec interpreter
      (instruction.execute config.spec interpreter))
    (isCapped : instruction.isCapped config.spec = true)
    (left : (instruction.execute config.spec interpreter).action = some (.newFrame input)) :
    input.gasLimit ≤ forwardedGasCap frame.gas.limit + input.engineStipend := by
  have current : frame ∈ state.phase.interpreting? := by rw [interprets]; rfl
  obtain ⟨raw, runs, started, starts, caps⟩ := forwarded.2 isCapped input left
  have spends := forwards.spends instruction rfl frame current raw runs started
    (Instruction.child?_eq runs starts)
  have holds := forwards.holds instruction rfl frame current
  rw [caps.child, FrameInput.gasLimit_withGasLimit, FrameInput.engineStipend_withGasLimit]
  exact Nat.add_le_add_right
    ((min_le_right _ _).trans (forwardedGasCap_mono (spends.trans holds))) _

theorem nests_transition (uninflated : state.Uninflated)
    (forwards : ForwardsWithin state event) (nests : state.Nests capped calls)
    (transition : Transition config state event next) :
    next.Nests (cappedAfter config capped event) (openCalls state next capped calls) := by
  have framed {phase : Phase} (starts : state.phase = phase) :
      state.phase.frameGasLimit? = phase.frameGasLimit? :=
    congrArg Phase.frameGasLimit? starts
  have answered (outcome : Outcome) : (state.answer outcome).frameGasLimit? = none := by
    rw [answer]
    split <;> rfl
  cases transition with
  | newTx | firstFrame => exact nests.restart rfl (by rintro _ _ ⟨⟩)
  | exemption | validate | systemCall | authorityCreations | preExecution | outOfInitialGas
  | refused | tooDeep | answers | keylessCallerUnpaid | keylessAnswer | keylessReject
  | admitFailed | processed | popped | deliveredLast | finishedAnswer | finished | rewarded
  | fail => exact nests.leave rfl rfl
  | entered _ _ starts | passes _ _ starts | hint _ _ starts =>
    refine nests.keep rfl ?_ (by rintro _ _ ⟨⟩)
    rw [framed starts]
    exact fun _ member => member
  | keyless init starts first =>
    obtain ⟨keyless, equation, started⟩ := keylessStart config state init
    rw [equation]
    cases started <;> exact nests.leave rfl rfl
  | keylessCaller | keylessMerge =>
    rw [continueKeyless]
    split <;> exact nests.leave rfl rfl
  | reply outcome replies => exact nests.leave rfl (answered outcome)
  | admitStopped | madeResult | madePrecompile => exact nests.leave rfl (answered _)
  | admitted journal init admits growth grown within =>
    refine nests.keep rfl ?_ (by rintro _ _ ⟨⟩)
    rw [framed admits]
    show ∀ limit ∈ some (state.meter.limit.grantedInit init).input.gasLimit, _
    rw [uninflated init]
    exact fun _ member => member
  | madeFrame created init makes =>
    refine nests.keep rfl ?_ (by rintro _ _ ⟨⟩)
    rw [framed makes]
    exact fun _ member => member
  | runStopped frame runs exceeded =>
    refine nests.keep rfl ?_ ?_
    · rw [framed runs]
      exact fun _ member => member
    · rintro _ _ ⟨⟩
  | runGoes frame runs within =>
    refine nests.keep rfl ?_ (by rintro _ _ ⟨⟩)
    rw [framed runs]
    exact fun _ member => member
  | execute instruction frame interprets =>
    have forwarded := @Instruction.forwards_execute config.spec instruction
      { meter := state.meter, gas := frame.gas, action := none } (forwards.leaves instruction rfl)
    exact nests_afterInstruction nests interprets forwarded.1 fun isCapped input left =>
      forwards.child_le interprets forwarded isCapped left
  | startChild frame input stops =>
    -- the frame is suspended, and the call to its child is open
    have transfers : state.startsTransfer = grantsStipend input := by rw [startsTransfer, stops]
    have below := nests.running frame.gas.limit (by rw [framed stops]; rfl)
    rw [openCalls_of_suspended rfl, transfers]
    refine ⟨congrArg Nat.succ nests.aligned, ?_, below, (by rintro _ _ ⟨⟩)⟩
    rintro _ ⟨⟩
    exact ⟨nests.pending frame input stops, below⟩
  | settled frame result stops =>
    refine nests.keep rfl ?_ (by rintro _ _ ⟨⟩)
    rw [framed stops]
    exact fun _ member => member
  | delivered parentGas delivery parent below delivers suspended =>
    have sameLimit := forwards.delivered parentGas rfl parent (by rw [suspended]; rfl)
    have resumed := nests.suspended
    rw [gasLimits, suspended, List.map_cons] at resumed
    rw [openCalls_of_resumed suspended]
    refine ⟨?_, ?_, resumed.below, (by rintro _ _ ⟨⟩)⟩
    · rw [List.length_tail, nests.aligned, suspended, List.length_cons, Nat.add_sub_cancel]
    · rintro _ ⟨⟩
      show Nested (parentGas.limit :: _) _
      rw [sameLimit]
      exact resumed

/-! ### Runs -/

variable (uninflating : config.spec.isEnabled .rex4 = false ∨ config.spec.isEnabled .rex5 = true)

include uninflating

variable {limits : EvmTxRuntimeLimits} {events : List Event}

/-- Only Rex4 inflates gas limits. -/
theorem uninflated_of_run (ran : Reaches config limits events state) : state.Uninflated := by
  have setup := setup_of_run ran
  have amount : state.meter.limit.storageCallStipend.stipendAmount =
      if config.spec.isEnabled .rex4 then storageCallStipend else 0 :=
    congrArg LimitSetup.stipendAmount setup
  have rex5 : state.meter.limit.storageCallStipend.rex5Enabled = config.spec.isEnabled .rex5 :=
    congrArg LimitSetup.stipendRex5 setup
  intro init
  rw [AdditionalLimit.grantedInit, beforeFrameInit, rex5]
  obtain old | new := uninflating
  · have ungranted : state.meter.limit.storageCallStipend.detectGrant init = false := by
      rw [detectGrant, amount, old]
      split <;> rfl
    rw [ungranted]
    rfl
  · rw [new]
    split <;> rfl

/-- In a run that keeps to the rules all frames are nested. -/
theorem nests_of_run {nesting : Nesting}
    (meets : StepsMeet (Nesting.step config) (fun nesting => ForwardsWithin nesting.execution)
      (.initial config limits) events)
    (ran : Library.run (Nesting.step config) (.initial config limits) events = some nesting) :
    nesting.execution.Nests nesting.capped nesting.calls := by
  have start : Reached (step config) (initial config limits)
      (Nesting.initial config limits).execution ∧
        (Nesting.initial config limits).execution.Nests true [] :=
    ⟨.refl _ _, rfl, (nofun), rfl, (nofun)⟩
  refine (@run_invariant_of_meets _ _ (Nesting.step config)
    (fun nesting => ForwardsWithin nesting.execution)
    (fun nesting => Reached (step config) (initial config limits) nesting.execution ∧
      nesting.execution.Nests nesting.capped nesting.calls) ?_ _ _ _ start meets ran).2
  rintro nesting event next ⟨reached, nests⟩ forwards stepped
  rw [Nesting.step, Option.map_eq_some_iff] at stepped
  obtain ⟨execution, stepped, rfl⟩ := stepped
  obtain ⟨history, ranHistory⟩ := id reached
  exact ⟨reached.snoc stepped, nests_transition (uninflated_of_run uninflating ranHistory)
    forwards nests (transition_of_step stepped)⟩

omit uninflating

/-- The cap is exact for every call and create that goes through it; and where no gas limit is
inflated and a run keeps to the rules, each level of nesting by a call that went through the cap
takes two percent, up to fifty gas of rounding and the stipends of the calls in between. -/
theorem forwarding_capped :
    (∀ (spec : MegaSpecId) (instruction : Instruction) (interpreter : Interpreter)
        (input child : FrameInput) (requested gasLeft : Nat),
      instruction.isCapped spec = true →
      instruction.raw? = some (Instruction.engineStart input requested gasLeft) →
      instruction.leaves (.newFrame input) = true → gasLeft ≤ u64Max →
      (instruction.execute spec interpreter).action = some (.newFrame child) →
      Instruction.TakesCapped input child requested gasLeft
        (instruction.execute spec interpreter)) ∧
    ∀ (config : EvmConfig) (limits : EvmTxRuntimeLimits) (events : List Event) (nesting : Nesting)
        (frame start : EngineFrame) (above below : List EngineFrame),
      (config.spec.isEnabled .rex4 = false ∨ config.spec.isEnabled .rex5 = true) →
      Library.StepsMeet (Nesting.step config) (fun nesting => ForwardsWithin nesting.execution)
        (.initial config limits) events →
      Library.run (Nesting.step config) (.initial config limits) events = some nesting →
      nesting.execution.phase = .interpreting frame →
      nesting.execution.frames = above ++ start :: below →
      (∀ call ∈ nesting.calls.take (above.length + 1), call.capped = true) →
      (frame.gas.limit : ℚ) ≤ start.gas.limit * (98 / 100) ^ (above.length + 1) + 50 +
        2300 * (nesting.calls.take (above.length + 1)).countP OpenCall.transfer := by
  refine ⟨fun spec instruction interpreter input child requested gasLeft capped runs starts fits
    left => Instruction.takesCapped_execute capped runs starts fits left, ?_⟩
  intro config limits events nesting frame start above below uninflating meets ran interprets frames
    capped
  have nests := nests_of_run uninflating meets ran
  have nested := nests.running frame.gas.limit (by rw [interprets]; rfl)
  rw [gasLimits, frames, List.map_append, List.map_cons] at nested
  have bound := nested.le_chain (by rwa [List.length_map])
  rw [List.length_map] at bound
  exact bound

/-- A call from a frame that has this gas left for it, and requests more. -/
def engineCall (scheme : CallScheme) (value : U256) (gasLeft : Nat) : Instruction :=
  .call scheme { disabled := none, computeGasLimit := none } value none none
    (Instruction.engineStart
      (.call { caller := 2, targetAddress := 3, value := .transfer value, scheme, gasLimit := 0 })
      40000 gasLeft)

def miniRexConfig : EvmConfig :=
  { rex6Config with spec := .miniRex, metered := by decide }

/-- A transaction whose first frame makes a call that MiniRex does not cap, and the frame of that
call the first of two that it caps. -/
def nestedRun : List Event :=
  startedRun ++ childStart (engineCall .staticCall 0 39000) ++
    childStart (engineCall .call 1 30000) ++ childStart (engineCall .call 0 20000)

def nestedState : Nesting :=
  (Library.run (Nesting.step miniRexConfig) (.initial miniRexConfig roomyLimits) nestedRun).getD
    (.initial miniRexConfig roomyLimits)

theorem forwarding_capped_value :
    (∃ child, ((engineCall .call 1 30000).execute .rex6
        { meter := (initial rex6Config roomyLimits).meter, gas := ⟨40000, 40000, 0⟩,
          action := none }).action = some (.newFrame child) ∧ child.gasLimit = 29400 + 2300) ∧
    ∃ frame middle start first : EngineFrame,
      nestedState.execution.phase = .interpreting frame ∧
      nestedState.execution.frames = [middle, start, first] ∧
      nestedState.calls = [⟨false, true⟩, ⟨true, true⟩, ⟨false, false⟩] ∧
      (frame.gas.limit : ℚ) ≤ start.gas.limit * (98 / 100) ^ 2 + 50 + 2300 * 1 := by
  constructor
  · refine ⟨_, rfl, ?_⟩
    have capped := (forwarding_capped.1 .rex6 (engineCall .call 1 30000)
      { meter := (initial rex6Config roomyLimits).meter, gas := ⟨40000, 40000, 0⟩, action := none }
      (.call { caller := 2, targetAddress := 3, value := .transfer 1, scheme := .call,
               gasLimit := 0 }) _ 40000 30000 rfl rfl rfl (by decide) rfl).started
    exact (congrArg FrameInput.gasLimit capped).trans (by decide)
  · have chain := forwarding_capped.2 miniRexConfig roomyLimits nestedRun nestedState
      ⟨false, ⟨19600, 19600, 0⟩, []⟩ ⟨false, ⟨38391, 600, 0⟩, []⟩ [⟨false, ⟨31700, 400, 0⟩, []⟩]
      [⟨false, ⟨40000, 609, 0⟩, []⟩] (Or.inl (by decide)) (by decide +kernel) rfl rfl rfl
      (by decide)
    exact ⟨_, _, _, _, rfl, rfl, rfl, chain⟩

end Execution

end MegaEvm
