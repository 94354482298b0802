/-
This file models the Oracle contract. Its writes and logs are made before the sender is
checked, and a batch reaches them by delegate calls of the contract to itself, which keep
the sender and the storage. A failed check takes back what its call did, and a batch
passes every failure on, so that no effect of another sender is left.
-/

import MegaEvm.Library.Fallible
import MegaEvm.Registry.Contract

namespace MegaEvm

/-- The functions of the contract. The payloads of a batch are call data again. -/
inductive OracleCall
  | sequencerRegistry
  | version
  | multiCall (data : List (List Nat))
  | sendHint (topic : U256) (data : List Nat)
  | emitLog (topic : U256) (data : List Nat)
  | emitLogs (topic : U256) (dataVector : List (List Nat))
  | getSlot (slot : U256)
  | setSlot (slot value : U256)
  | getSlots (slots : List U256)
  | setSlots (slots values : List U256)

inductive OracleReturn
  | nothing
  | address (address : Address)
  | text (text : String)
  | value (value : U256)
  | values (values : List U256)
  | results (results : List OracleReturn)

/-- The data a call reverts with. -/
inductive OracleError
  | empty
  | notSystemAddress
  | invalidLength (slotsLength valuesLength : Nat)
  | multicallFailed

structure OracleState where
  storage : U256 → U256
  logs : List (U256 × List Nat)

/-- A call that reverts leaves the state as it was. -/
abbrev OracleResult := Except OracleError (OracleState × OracleReturn)

namespace OracleState

def write (state : OracleState) (slot value : U256) : OracleState :=
  { state with storage := Function.update state.storage slot value }

def log (state : OracleState) (topic : U256) (data : List Nat) : OracleState :=
  { state with logs := state.logs ++ [(topic, data)] }

end OracleState

namespace Oracle

/-- The sender is checked when the body has run. -/
def onlySystemAddress (registry : RegistryStorage) (sender : Address) (body : OracleResult) :
    OracleResult :=
  body.bind fun ran =>
    if sender ≠ currentSystemAddress registry then .error .notSystemAddress else .ok ran

/-- A failure without data gets a message, any other is passed on. -/
def bubble : OracleError → OracleError
  | .empty => .multicallFailed
  | error => error

/-- The loop of a batch over its payloads. -/
def batch (delegatecall : List Nat → OracleState → OracleResult) :
    List (List Nat) → OracleState → Except OracleError (OracleState × List OracleReturn)
  | [], state => .ok (state, [])
  | payload :: rest, state =>
    match delegatecall payload state with
    | .error error => .error (bubble error)
    | .ok (next, result) =>
      (fun (last, results) => (last, result :: results)) <$> batch delegatecall rest next

/-- One call of the contract. Call data that decodes to no function reverts. -/
def dispatch (registry : RegistryStorage) (sender : Address)
    (delegatecall : List Nat → OracleState → OracleResult) (state : OracleState) :
    Option OracleCall → OracleResult
  | none => .error .empty
  | some .sequencerRegistry => .ok (state, .address sequencerRegistryAddress)
  | some .version => .ok (state, .text "2.0.0")
  | some (.multiCall data) =>
    (fun (last, results) => (last, .results results)) <$> batch delegatecall data state
  | some (.sendHint _ _) => .ok (state, .nothing)
  | some (.emitLog topic data) =>
    onlySystemAddress registry sender (.ok (state.log topic data, .nothing))
  | some (.emitLogs topic dataVector) =>
    onlySystemAddress registry sender
      (.ok (dataVector.foldl (fun state data => state.log topic data) state, .nothing))
  | some (.getSlot slot) => .ok (state, .value (state.storage slot))
  | some (.setSlot slot value) =>
    onlySystemAddress registry sender (.ok (state.write slot value, .nothing))
  | some (.getSlots slots) => .ok (state, .values (slots.map state.storage))
  | some (.setSlots slots values) =>
    onlySystemAddress registry sender
      (if slots.length ≠ values.length then .error (.invalidLength slots.length values.length)
      else .ok ((slots.zip values).foldl (fun state pair => state.write pair.1 pair.2) state,
        .nothing))

/-- A call of the contract, with the number of calls that may still be nested in it. How call data
is decoded is left to the compiler of the contract. -/
def run (decode : List Nat → Option OracleCall) (registry : RegistryStorage) (sender : Address) :
    Nat → List Nat → OracleState → OracleResult
  | 0, calldata, state =>
    dispatch registry sender (fun _ _ => .error .empty) state (decode calldata)
  | depth + 1, calldata, state =>
    dispatch registry sender (run decode registry sender depth) state (decode calldata)

/-! ### Senders without a right to write -/

/-- Calls that leave the state as it is, if they succeed. -/
def Harmless (call : List Nat → OracleState → OracleResult) : Prop :=
  ∀ calldata before after result, call calldata before = .ok (after, result) → after = before

variable {registry : RegistryStorage} {sender : Address}
  {delegatecall : List Nat → OracleState → OracleResult}

theorem onlySystemAddress_ne_ok (unauthorized : sender ≠ currentSystemAddress registry)
    (body : OracleResult) (ran : OracleState × OracleReturn) :
    onlySystemAddress registry sender body ≠ .ok ran := by
  intro succeeds
  cases body with
  | error error => cases succeeds
  | ok done =>
    rw [onlySystemAddress, Except.bind, if_pos unauthorized] at succeeds
    cases succeeds

theorem Harmless.batch (harmless : Harmless delegatecall) {data : List (List Nat)}
    {before after : OracleState} {results : List OracleReturn}
    (succeeds : Oracle.batch delegatecall data before = .ok (after, results)) : after = before := by
  induction data generalizing before results with
  | nil =>
    cases succeeds
    rfl
  | cons payload rest inductionHypothesis =>
    rw [Oracle.batch] at succeeds
    split at succeeds
    · cases succeeds
    · rename_i next result called
      obtain ⟨⟨last, others⟩, ran, same⟩ := Library.map_eq_ok succeeds
      cases same
      exact (inductionHypothesis ran).trans (harmless _ _ _ _ called)

theorem Harmless.dispatch (harmless : Harmless delegatecall)
    (unauthorized : sender ≠ currentSystemAddress registry) {call : Option OracleCall}
    {before after : OracleState} {result : OracleReturn}
    (succeeds : Oracle.dispatch registry sender delegatecall before call = .ok (after, result)) :
    after = before := by
  rcases call with _ | call
  · cases succeeds
  cases call with
  | multiCall data =>
    obtain ⟨⟨last, results⟩, ran, same⟩ := Library.map_eq_ok succeeds
    cases same
    exact harmless.batch ran
  | emitLog | emitLogs | setSlot | setSlots =>
    exact absurd succeeds (onlySystemAddress_ne_ok unauthorized _ _)
  | _ =>
    cases succeeds
    rfl

theorem harmless_run (decode : List Nat → Option OracleCall)
    (unauthorized : sender ≠ currentSystemAddress registry) (depth : Nat) :
    Harmless (run decode registry sender depth) := by
  induction depth with
  | zero =>
    intro calldata before after result succeeds
    have fails : Harmless fun _ _ => .error .empty := fun _ _ _ _ impossible => by cases impossible
    exact fails.dispatch unauthorized succeeds
  | succ depth inductionHypothesis =>
    intro calldata before after result succeeds
    exact inductionHypothesis.dispatch unauthorized succeeds

/-- A call of another sender that succeeds has written no slot and emitted no log, however deep its
batches are nested. -/
theorem run_of_unauthorized (decode : List Nat → Option OracleCall) {registry : RegistryStorage}
    {sender : Address} (unauthorized : sender ≠ currentSystemAddress registry) (depth : Nat)
    {calldata : List Nat} {before after : OracleState} {result : OracleReturn}
    (succeeds : run decode registry sender depth calldata before = .ok (after, result)) :
    (∀ slot, after.storage slot = before.storage slot) ∧ after.logs = before.logs := by
  rw [harmless_run decode unauthorized depth calldata before after result succeeds]
  exact ⟨fun _ => rfl, rfl⟩

/-- A batch in a batch, with a read and a hint. -/
def nestedBatch : List Nat → Option OracleCall
  | [0] => some (.multiCall [[1], [2]])
  | [1] => some (.multiCall [[2], [3]])
  | [2] => some (.getSlot 7)
  | [3] => some (.sendHint 5 [])
  | _ => none

theorem run_of_unauthorized_nested :
    ∃ after result, run nestedBatch (fun _ => 1) 2 1024 [0] ⟨fun _ => 4, []⟩ = .ok (after, result) ∧
      (∀ slot, after.storage slot = 4) ∧ after.logs = [] :=
  ⟨_, _, rfl, @run_of_unauthorized nestedBatch (fun _ => 1) 2 (by decide) 1024 [0] _ _ _ rfl⟩

end Oracle

end MegaEvm
