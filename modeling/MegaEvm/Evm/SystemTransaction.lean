/-
This file is about system transactions: the protocol's own calls, which from Rex6 on are
exempt from metering. It adds what the frame loop leaves open: the storage gas that the
host charges, which grows with the SALT buckets unless the transaction is exempt, and an
engine that answers as a function of what it sees of the execution, with a world of its
own that holds the state. Two executions of a system transaction by one engine, with other
limits, other caps and other buckets, then go through the same phases, the same worlds and
the same usage.

There is one exception. A precompile gets no more gas than the compute gas that the
current call has left, and this cap asks for no exemption. It makes a system transaction
depend on its limits.
-/

import MegaEvm.Evm.Exempt
import MegaEvm.External.Gas

namespace MegaEvm

open Library AdditionalLimit

/-! ### Storage gas -/

/-- What the host answers when it is asked for the storage gas of a slot, an account or a contract
in a bucket. -/
structure StoragePrices where
  slot : Nat → Option Nat
  account : Nat → Option Nat
  contract : Nat → Option Nat

/-- The answers of the host of an execution. -/
def StoragePrices.ofHost (spec : MegaSpecId) (capacity : Nat → Option Nat)
    (limit : AdditionalLimit) : StoragePrices where
  slot := sstoreSetStorageGas spec capacity limit
  account := newAccountStorageGas spec capacity limit
  contract := createContractStorageGas spec capacity limit

/-- An exempt transaction is charged the same whatever the buckets are. -/
theorem StoragePrices.ofHost_of_exempt {spec : MegaSpecId} {capacity capacity' : Nat → Option Nat}
    {limit limit' : AdditionalLimit} (exempt : limit.hasExceededLimit = .exempt)
    (exempt' : limit'.hasExceededLimit = .exempt) :
    ofHost spec capacity limit = ofHost spec capacity' limit' := by
  have same : ∀ gasForMultiplier, hostStorageGas gasForMultiplier spec capacity limit =
      hostStorageGas gasForMultiplier spec capacity' limit' := by
    intro gasForMultiplier
    funext bucket
    rw [hostStorageGas_of_exempt exempt, hostStorageGas_of_exempt exempt']
  exact StoragePrices.mk.injEq .. ▸ ⟨same _, same _, same _⟩

/-- The instruction with the storage gas that the host charges for what it creates, in the given
bucket. When the host fails, so does the instruction. -/
def Instruction.priced (prices : StoragePrices) (bucket : Nat) : Instruction → Instruction
  | sstore early store _ raw =>
    if store.originalValue = 0 ∧ store.presentValue = 0 ∧ store.newValue ≠ 0 then
      match prices.slot bucket with
      | some setGas => sstore early store setGas raw
      | none => sstore (early.or (some .fatalExternalError)) store 0 raw
    else sstore early store 0 raw
  | call scheme access value early (some _) raw =>
    match prices.account bucket with
    | some newAccountGas => call scheme access value early (some newAccountGas) raw
    | none => call scheme access value (early.or (some .fatalExternalError)) none raw
  | create inputs raw =>
    match prices.contract bucket with
    | some storageGas => create { inputs with storageGas } raw
    | none => create { inputs with late := inputs.late.or (some .fatalExternalError) } raw
  | selfdestruct access inputs refund raw =>
    if inputs.createsTarget then
      match prices.account bucket with
      | some newAccountGas => selfdestruct access { inputs with newAccountGas } refund raw
      | none =>
        selfdestruct access { inputs with early := inputs.early.or (some .fatalExternalError) }
          refund raw
    else selfdestruct access inputs refund raw
  | instruction => instruction

/-! ### Engines -/

open StoragePrices

namespace Execution

/-- What meters a transaction: its limits, the cap that what it read imposes, and the capacities of
the buckets. -/
structure Metering (World : Type) where
  limits : EvmTxRuntimeLimits
  cap : World → Option Nat
  capacity : Nat → Option Nat

/-- What an engine answers with: an event, in which caps and storage gas stand for nothing, the
bucket of what an instruction creates, and the buckets of the accounts and, if it is a create, of
the contract that the transaction itself creates. -/
structure Answer where
  event : Event
  bucket : Nat
  accounts : List Nat
  contract : Option Nat

/-- The gas limit of a frame is lowered. -/
def lowerGasLimit (amount : Nat) : FrameInput → FrameInput
  | .call inputs => .call { inputs with gasLimit := inputs.gasLimit - amount }
  | .create inputs => .create { inputs with gasLimit := inputs.gasLimit - amount }

/-- The storage gas that is part of the initial gas of a transaction. -/
def Answer.initialStorageGas (answer : Answer) (prices : StoragePrices) : Option Nat := do
  let accounts ← answer.accounts.mapM prices.account
  let contract ← (answer.contract.map prices.contract).getD (some 0)
  return accounts.sum + contract

/-- The event as it happens with the prices of the host. The gas of the first frame is what the
initial gas leaves; a transaction that cannot pay for it, or whose host fails, is refused. -/
def Answer.priced (answer : Answer) (prices : StoragePrices) : Event :=
  match answer.event with
  | .execute instruction => .execute (instruction.priced prices answer.bucket)
  | .firstFrame input =>
    match answer.initialStorageGas prices with
    | some gas => if gas ≤ input.gasLimit then .firstFrame (lowerGasLimit gas input) else .fail
    | none => .fail
  | event => event

/-- An engine over a world. It sees the phase and the frames of an execution, but not the limits. -/
structure Engine (World : Type) where
  answer : World → Phase → List EngineFrame → Answer
  next : World → Phase → List EngineFrame → World

section Advance

variable {World : Type} (config : EvmConfig) (engine : Engine World) (metering : Metering World)

/-- One step of a transaction with its engine. The engine starts no other transaction. -/
def advance (current : World × Execution) (_ : Unit) : Option (World × Execution) :=
  let (world, state) := current
  let answer := engine.answer world state.phase state.frames
  let prices := StoragePrices.ofHost config.spec metering.capacity state.meter.limit
  if answer.event.continues then
    (step config state ((answer.priced prices).withCap (metering.cap world))).map fun next =>
      (engine.next world state.phase state.frames, next)
  else none

/-- The limits are not asked: a precompile is given at most the compute gas that is left, and the
transaction is no keyless deployment, whose sandbox gets what is left of every limit. -/
def AsksNoLimit (current : World × Execution) (_ : Unit) : Prop :=
  let event := (engine.answer current.1 current.2.phase current.2.frames).event
  current.2.Uncapped event ∧
    ∀ interception ∈ event.interception?,
      match interception with
      | .keyless => False
      | _ => True

instance (current : World × Execution) (event : Unit) :
    Decidable (AsksNoLimit engine current event) :=
  have (interception : Interception) : Decidable (match interception with
      | .keyless => False
      | _ => True) :=
    match interception with
    | .keyless => isFalse id
    | .passes | .hint _ | .answers _ => isTrue trivial
  inferInstanceAs (Decidable (_ ∧ _))

end Advance

/-- What can be told apart without looking at the limits: the world, where the execution is, with
the status, the output and the gas of every result, the usage and the reason of a halt. -/
structure Indistinguishable {World : Type} (first second : World × Execution) : Prop where
  world : first.1 = second.1
  phase : first.2.phase = second.2.phase
  frames : first.2.frames = second.2.frames
  usage : first.2.meter.limit.getUsage = second.2.meter.limit.getUsage
  reason : ∀ accesses result,
    haltReason first.2.meter.limit accesses result = haltReason second.2.meter.limit accesses result
  exempt : first.2.verdict = .exempt
  exempt' : second.2.verdict = .exempt

variable {World : Type} {config : EvmConfig} {engine : Engine World}
  {metering metering' : Metering World}

theorem Alike.indistinguishable {first second : World × Execution} (same : first.1 = second.1)
    (alike : first.2.Alike second.2) : Indistinguishable first second where
  world := same
  phase := alike.phase
  frames := alike.frames
  usage := alike.limit.getUsage
  reason := by
    intro accesses result
    have clear : first.2.meter.limit.Clear := clear_iff.mpr (.inl alike.limit.exempt)
    have clear' : second.2.meter.limit.Clear :=
      clear_iff.mpr (.inl alike.limit.exempt')
    rw [haltReason_of_clear clear, haltReason_of_clear clear']
  exempt := alike.limit.exempt
  exempt' := alike.limit.exempt'

theorem continues_priced {answer : Answer} (continues : answer.event.continues = true)
    (prices : StoragePrices) : (answer.priced prices).continues = true := by
  unfold Answer.priced
  revert continues
  cases answer.event with
  | execute instruction => exact id
  | firstFrame input =>
    intro _
    dsimp only
    split
    · split <;> rfl
    · rfl
  | _ => exact id

/-- The prices of the host do not change what a precompile gets. -/
theorem uncapped_priced {answer : Answer} {state : Execution}
    (uncapped : state.Uncapped answer.event)
    (prices : StoragePrices) : state.Uncapped (answer.priced prices) := by
  unfold Answer.priced
  revert uncapped
  cases answer.event with
  | execute instruction => exact fun _ => nofun
  | firstFrame input =>
    intro _
    dsimp only
    split
    · split <;> exact nofun
    · exact nofun
  | _ => exact id

theorem alike_advance (rex6 : config.spec.isEnabled .rex6 = true) {first second : World × Execution}
    (same : first.1 = second.1 ∧ first.2.Alike second.2)
    (asks : AsksNoLimit engine first ()) (asks' : AsksNoLimit engine second ()) :
    Option.Rel (fun first second : World × Execution =>
        first.1 = second.1 ∧ first.2.Alike second.2)
      (advance config engine metering first ()) (advance config engine metering' second ()) := by
  obtain ⟨world, first⟩ := first
  obtain ⟨world', second⟩ := second
  obtain ⟨sameWorld, alike⟩ := same
  subst sameWorld
  have prices : ofHost config.spec metering.capacity first.meter.limit =
      ofHost config.spec metering'.capacity second.meter.limit :=
    ofHost_of_exempt alike.limit.exempt alike.limit.exempt'
  have uncapped := asks.1
  have uncapped' := asks'.1
  unfold advance
  dsimp only at uncapped uncapped' ⊢
  rw [alike.phase, alike.frames] at uncapped
  rw [alike.phase, alike.frames, prices]
  generalize ofHost config.spec metering'.capacity second.meter.limit = given
  revert uncapped uncapped'
  generalize engine.answer world second.phase second.frames = answer
  intro uncapped uncapped'
  split
  · next continues =>
    have stepped := alike_step alike rex6 (continues_priced continues given)
      (uncapped_priced uncapped given) (uncapped_priced uncapped' given) (metering.cap world)
      (metering'.cap world)
    revert stepped
    generalize step config first _ = next
    generalize step config second _ = next'
    rintro (nextAlike | _)
    · exact .some ⟨rfl, nextAlike⟩
    · exact .none
  · exact .none

/-- The start of a system transaction leaves executions alike, whatever went before. -/
theorem alike_start (rex6 : config.spec.isEnabled .rex6 = true)
    {limits limits' : EvmTxRuntimeLimits} {history history' : List Event}
    {idle idle' start start' : Execution} (reached : Reaches config limits history idle)
    (reached' : Reaches config limits' history' idle')
    {tx : MegaTransaction} {cap cap' : Option Nat}
    (starts : run (step config) idle [.newTx tx, .exemption true cap] = some start)
    (starts' : run (step config) idle' [.newTx tx, .exemption true cap'] = some start') :
    start.Alike start' := by
  have began : ∀ {idle start : Execution} {cap : Option Nat},
      run (step config) idle [.newTx tx, .exemption true cap] = some start →
      start.meter.limit = detain cap (idle.meter.limit.reset.beforeTxStart tx).markExempt ∧
        start.frames = [] ∧ start.phase = .validating ∧ start.gasLimit = tx.gasLimit := by
    intro idle start cap ran
    obtain ⟨middle, first, rest⟩ := run_cons_some ran
    obtain ⟨final, second, ended⟩ := run_cons_some rest
    cases ended
    have opened := transition_of_step first
    cases opened with
    | newTx tx between =>
      have exempted := transition_of_step second
      cases exempted with
      | exemption systemOriginated cap starts =>
        refine ⟨?_, rfl, rfl, rfl⟩
        show exempt config true cap (idle.meter.limit.reset.beforeTxStart tx) = _
        unfold exempt
        rw [rex6, MegaSpecId.rex4_of_rex6 rex6]
        rfl
  obtain ⟨limit, frames, phase, gasLimit⟩ := began starts
  obtain ⟨limit', frames', phase', gasLimit'⟩ := began starts'
  refine ⟨?_, frames.trans frames'.symm, phase.trans phase'.symm, gasLimit.trans gasLimit'.symm⟩
  rw [limit, limit']
  exact alike_detain (alike_markExempt_beforeTxStart (setup_of_run reached)
    (setup_of_run reached') tx) cap cap'

/-- Two executions of a system transaction by one engine cannot be told apart, if neither asks its
limits: after any number of steps both have stopped, or they are in the same world and phase, with
the same usage, and exempt. -/
theorem systemTransaction_independent (rex6 : config.spec.isEnabled .rex6 = true)
    (engine : Engine World) (metering metering' : Metering World) {history history' : List Event}
    {idle idle' start start' : Execution}
    (reached : Library.run (step config) (initial config metering.limits) history = some idle)
    (reached' : Library.run (step config) (initial config metering'.limits) history' = some idle')
    {tx : MegaTransaction} {world : World}
    (starts : Library.run (step config) idle [.newTx tx, .exemption true (metering.cap world)] =
      some start)
    (starts' : Library.run (step config) idle' [.newTx tx, .exemption true (metering'.cap world)] =
      some start')
    (count : Nat)
    (asks : Library.StepsMeet (advance config engine metering) (AsksNoLimit engine) (world, start)
      (List.replicate count ()))
    (asks' : Library.StepsMeet (advance config engine metering') (AsksNoLimit engine)
      (world, start') (List.replicate count ())) :
    Option.Rel Indistinguishable
      (Library.run (advance config engine metering) (world, start) (List.replicate count ()))
      (Library.run (advance config engine metering') (world, start')
        (List.replicate count ())) := by
  have alike := alike_start rex6 reached reached' starts starts'
  have simulated := @run_rel_of_meets _ _ _ _ _ _ _ _ _
    (fun first second => first.1 = second.1 ∧ first.2.Alike second.2) _
    (fun _ _ _ same asks asks' => alike_advance rex6 same asks asks') ⟨rfl, alike⟩ asks asks'
  revert simulated
  generalize run (advance config engine metering) _ _ = final
  generalize run (advance config engine metering') _ _ = final'
  rintro (same | _)
  · exact .some (same.2.indistinguishable same.1)
  · exact .none

/-- An engine that reads its answers from a list, and whose world counts them. -/
def scripted (events : List Event) : Engine Nat where
  answer index _ _ :=
    { event := events.getD index .fail, bucket := 0, accounts := [], contract := none }
  next index _ _ := index + 1

/-- Recovering a signer takes three thousand gas. -/
def ecrecover (gas : Nat) : InterpreterResult :=
  if 3000 ≤ gas then { result := .returned, output := .empty, gas := ⟨gas, gas - 3000, 0⟩ }
  else { result := .otherError 0, output := .empty, gas := .new gas }

/-- A system call whose contract recovers a signer. -/
def recoveringCall : List Event :=
  [.systemCall, .firstFrame plainCall] ++ frameStart ++
    [.execute plainInnerCall, .settle, .enterFrame none, .intercept .passes,
      .beforeInit emptyJournal, .make (.precompile false ecrecover true), .popResult]

/-- Metering with a limit on compute gas. -/
def computeMetering (txComputeGasLimit : Nat) : Metering Nat where
  limits := { noDataLimits with txComputeGasLimit }
  cap _ := none
  capacity _ := some minBucketSize

/-- A call that recovers a signer within a limit of a million does the same within one of two
million. -/
theorem systemTransaction_independent_recovering :
    ∃ start start' : Execution,
      Library.run (step rex6Config) (initial rex6Config (computeMetering 1000000).limits)
        [.newTx plainTx, .exemption true none] = some start ∧
      Library.run (step rex6Config) (initial rex6Config (computeMetering 2000000).limits)
        [.newTx plainTx, .exemption true none] = some start' ∧
      Option.Rel Indistinguishable
        (Library.run (advance rex6Config (scripted recoveringCall) (computeMetering 1000000))
          (0, start) (List.replicate 14 ()))
        (Library.run (advance rex6Config (scripted recoveringCall) (computeMetering 2000000))
          (0, start') (List.replicate 14 ())) :=
  ⟨_, _, rfl, rfl,
    @systemTransaction_independent _ rex6Config (by decide) (scripted recoveringCall)
      (computeMetering 1000000) (computeMetering 2000000) [] [] _ _ _ _ rfl rfl plainTx 0 rfl rfl 14
      (by decide +kernel) (by decide +kernel)⟩

/-- With a limit of two thousand the precompile gets no gas, and the exempt transaction fails where
it succeeds with a limit of a million. -/
theorem systemTransaction_capped :
    ∃ start start' : Execution, ∃ final final' : Nat × Execution,
      Library.run (step rex6Config) (initial rex6Config (computeMetering 1000000).limits)
        [.newTx plainTx, .exemption true none] = some start ∧
      Library.run (step rex6Config) (initial rex6Config (computeMetering 2000).limits)
        [.newTx plainTx, .exemption true none] = some start' ∧
      Library.run (advance rex6Config (scripted recoveringCall) (computeMetering 1000000))
        (0, start) (List.replicate 14 ()) = some final ∧
      Library.run (advance rex6Config (scripted recoveringCall) (computeMetering 2000))
        (0, start') (List.replicate 14 ()) = some final' ∧
      final.2.phase.delivering?.map (·.result.instructionResult) = some .returned ∧
      final'.2.phase.delivering?.map (·.result.instructionResult) = some (.otherError 0) ∧
      final'.2.verdict = .exempt ∧ ¬ Indistinguishable final final' := by
  have succeeds :
      ((run (step rex6Config) (initial rex6Config (computeMetering 1000000).limits)
        [.newTx plainTx, .exemption true none]).bind fun start =>
        run (advance rex6Config (scripted recoveringCall) (computeMetering 1000000))
          (0, start) (List.replicate 14 ())).any
        (fun final => final.2.phase.delivering?.map (·.result.instructionResult) = some .returned) =
        true := by decide +kernel
  have fails :
      ((run (step rex6Config) (initial rex6Config (computeMetering 2000).limits)
        [.newTx plainTx, .exemption true none]).bind fun start =>
        run (advance rex6Config (scripted recoveringCall) (computeMetering 2000))
          (0, start) (List.replicate 14 ())).any
        (fun final => final.2.phase.delivering?.map (·.result.instructionResult) =
          some (.otherError 0) ∧ final.2.verdict = .exempt) = true := by decide +kernel
  obtain ⟨final, ran, returned⟩ := (Option.any_eq_true _ _).mp succeeds
  obtain ⟨final', ran', failed⟩ := (Option.any_eq_true _ _).mp fails
  obtain ⟨start, starts, runs⟩ := Option.bind_eq_some_iff.mp ran
  obtain ⟨start', starts', runs'⟩ := Option.bind_eq_some_iff.mp ran'
  have returns := of_decide_eq_true returned
  obtain ⟨failing, exempt⟩ := of_decide_eq_true failed
  refine ⟨start, start', final, final', starts, starts', runs, runs', returns, failing, exempt,
    fun same => ?_⟩
  rw [same.phase, failing] at returns
  cases returns

end Execution

end MegaEvm
