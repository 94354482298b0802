/-
This file runs the state-growth tracker beside the engine over one transaction. The
events are those of a call tree: a call or a create is refused, answered without
running code, or entered; the running frame writes slots, self-destructs or returns;
a frame ends with success or failure. A failed frame puts the world back to its
checkpoint, and the tracker drops what the frame charged and refunded.

The tracker only counts. To say whose growth it counts, the run keeps a ledger: each
time the tracker's totals move, the difference is entered under the account or the
slot the event was about, and a failed frame takes its entries away again. The
ledger never decides anything; it splits the tracker's totals by owner.
-/

import MegaEvm.Limit.StateGrowth
import MegaEvm.Library.Runs

namespace MegaEvm

/-! ### The ledger -/

/-- Whom growth belongs to: an account, or one of its slots. -/
inductive GrowthOwner
  | account (address : Address)
  | slot (address : Address) (key : U256)
deriving DecidableEq

/-- The owner is a slot of the account. -/
def GrowthOwner.isSlotOf (owner : GrowthOwner) (address : Address) : Bool :=
  match owner with
  | .account _ => false
  | .slot holder _ => holder == address

/-- One movement of the tracker's totals. -/
structure GrowthEntry where
  owner : GrowthOwner
  growth : Nat
  refund : Nat
deriving DecidableEq

/-- The movements that are live, newest first. -/
abbrev GrowthLedger := List GrowthEntry

namespace GrowthLedger

/-- The live growth of the account itself. -/
def accountGrowth (ledger : GrowthLedger) (address : Address) : Nat :=
  (ledger.map fun entry => if entry.owner = .account address then entry.growth else 0).sum

/-- The live refunds of the account itself: those of its self-destruction. -/
def accountRefund (ledger : GrowthLedger) (address : Address) : Nat :=
  (ledger.map fun entry => if entry.owner = .account address then entry.refund else 0).sum

/-- The live growth of the slots of the account. -/
def slotGrowth (ledger : GrowthLedger) (address : Address) : Nat :=
  (ledger.map fun entry => if entry.owner.isSlotOf address then entry.growth else 0).sum

/-- The live refunds of the slots of the account: those of clearing them. -/
def slotRefund (ledger : GrowthLedger) (address : Address) : Nat :=
  (ledger.map fun entry => if entry.owner.isSlotOf address then entry.refund else 0).sum

/-- All live growth of the account and its slots. -/
def growthOf (ledger : GrowthLedger) (address : Address) : Nat :=
  ledger.accountGrowth address + ledger.slotGrowth address

/-- All live refunds of the account and its slots. -/
def refundOf (ledger : GrowthLedger) (address : Address) : Nat :=
  ledger.accountRefund address + ledger.slotRefund address

def totalGrowth (ledger : GrowthLedger) : Nat :=
  (ledger.map GrowthEntry.growth).sum

def totalRefund (ledger : GrowthLedger) : Nat :=
  (ledger.map GrowthEntry.refund).sum

/-- Enter under an owner how the tracker's totals moved. -/
def record (ledger : GrowthLedger) (owner : GrowthOwner) (before after : StateGrowthTracker) :
    GrowthLedger :=
  { owner
    growth := after.frameTracker.cachedTotalUsed - before.frameTracker.cachedTotalUsed
    refund := after.frameTracker.cachedTotalRefund - before.frameTracker.cachedTotalRefund } ::
    ledger

end GrowthLedger

/-! ### States and events -/

/-- A running frame: the account it runs on, and what a failure of it restores. -/
structure GrowthFrame where
  address : Address
  isCreate : Bool
  checkpoint : World
  ledgerAtEntry : GrowthLedger

structure GrowthState where
  tracker : StateGrowthTracker
  world : World
  ledger : GrowthLedger
  frames : List GrowthFrame

/-- How the engine starts a frame. `refused` is a failure before the frame has an effect beyond
the creator's nonce, `answered` a success without running code. -/
inductive FrameStart
  | refused
  | answered
  | entered
deriving DecidableEq

inductive GrowthEvent
  | call (inputs : CallInputs) (start : FrameStart)
  | create (inputs : CreateInputs) (start : FrameStart)
  | sstore (key value : U256)
  | selfdestruct (target : Address) (success : Bool)
  | finish (success : Bool) (codeHash : CodeHash) (bytes : List Nat)

namespace GrowthState

/-- A transaction whose intrinsic growth is already charged, before its first frame. -/
def start (spec : MegaSpecId) (txLimit intrinsic : Nat) (world : World) : GrowthState where
  tracker := (StateGrowthTracker.new spec txLimit).mergePersistentUsage intrinsic
  world := world
  ledger := []
  frames := []

/-- The account that makes the next call: the running frame's, or the sender. -/
def executing (state : GrowthState) (sender : Address) : Address :=
  match state.frames with
  | frame :: _ => frame.address
  | [] => sender

/-- Move the value of a call. -/
def moveValue (world : World) (inputs : CallInputs) : Option World :=
  match inputs.value with
  | .transfer value => world.transfer inputs.caller inputs.targetAddress value
  | .apparent _ => some world

/-- Code runs on an account that has code, or on the account already running. -/
def runsCode (state : GrowthState) (inputs : CallInputs) : Bool :=
  (state.world inputs.targetAddress).info.codeHash != keccakEmpty ||
    match state.frames with
    | frame :: _ => inputs.targetAddress == frame.address
    | [] => false

/-- End the running frame. -/
def finish (state : GrowthState) (success : Bool) (codeHash : CodeHash) (bytes : List Nat) :
    Option GrowthState :=
  match state.frames with
  | [] => none
  | frame :: below =>
    some
      { tracker := state.tracker.beforeFrameReturnResult success
        world :=
          if success then
            if frame.isCreate then state.world.setCode frame.address codeHash bytes
            else state.world
          else frame.checkpoint
        ledger := if success then state.ledger else frame.ledgerAtEntry
        frames := below }

/-- Start the frame of a call. The running account sends the value, and a `DELEGATECALL` keeps the
caller of its parent. -/
def call (state : GrowthState) (sender : Address) (inputs : CallInputs) (outcome : FrameStart) :
    Option GrowthState :=
  if inputs.transfersValue = true ∧ inputs.caller ≠ state.executing sender then none
  else
    (state.tracker.beforeFrameInit state.world.inspect (.call inputs)).bind fun tracker =>
      let ledger := state.ledger.record (.account inputs.targetAddress) state.tracker tracker
      match outcome with
      | .refused => some { state with tracker := tracker.beforeFrameReturnResult false }
      | .answered =>
        (moveValue state.world inputs).map fun moved =>
          { state with
            tracker := tracker.beforeFrameReturnResult true
            world := moved
            ledger }
      | .entered =>
        if state.runsCode inputs then
          (moveValue state.world inputs).map fun moved =>
            { tracker
              world := moved
              ledger
              frames :=
                { address := inputs.targetAddress
                  isCreate := false
                  checkpoint := state.world
                  ledgerAtEntry := state.ledger } :: state.frames }
        else none

/-- Start the frame of a create. The creator's nonce goes up before the checkpoint, so that a
collision and a failed constructor both keep it. -/
def create (state : GrowthState) (sender : Address) (inputs : CreateInputs)
    (outcome : FrameStart) : Option GrowthState :=
  if inputs.caller ≠ state.executing sender then none
  else
    (state.tracker.beforeFrameInit state.world.inspect (.create inputs)).bind fun tracker =>
      let created := inputs.createdAddress (state.world inputs.caller).info.nonce
      let ledger := state.ledger.record (.account created) state.tracker tracker
      let bumped := state.world.bumpNonce inputs.caller
      match outcome with
      | .refused => some { state with tracker := tracker.beforeFrameReturnResult false }
      | .answered =>
        if bumped.collides created then
          some { state with tracker := tracker.beforeFrameReturnResult false, world := bumped }
        else none
      | .entered =>
        if bumped.collides created then none
        else
          ((bumped.createAccount created).transfer inputs.caller created inputs.value).map
            fun moved =>
              { tracker
                world := moved
                ledger
                frames :=
                  { address := created
                    isCreate := true
                    checkpoint := bumped
                    ledgerAtEntry := state.ledger } :: state.frames }

/-- The beneficiary a self-destruct materialises is charged before the instruction runs, from
Rex5 on. -/
def chargeBeneficiary (state : GrowthState) (address target : Address) : StateGrowthTracker :=
  if state.tracker.spec.isEnabled .rex5 && (state.world target).isEmpty &&
      (state.world address).info.balance != 0 then
    state.tracker.recordGrowth 1
  else state.tracker

/-- The refund the host computes before the engine changes the account: one for the account and
one for each new slot, from Rex4 on and only for an account of this transaction. -/
def selfdestructRefund (spec : MegaSpecId) (world : World) (address : Address) : Option Nat :=
  if spec.isEnabled .rex4 && (world address).status.createdLocal then
    some (1 + (world address).newSlots)
  else none

/-- The host records the refund on the first effective destruction. -/
def refundSelfdestruct (tracker : StateGrowthTracker) (world : World) (address : Address) :
    StateGrowthTracker :=
  match selfdestructRefund tracker.spec world address with
  | some refund =>
    if (world address).status.selfDestructedLocal then tracker
    else tracker.afterSelfdestruct refund
  | none => tracker

/-- Self-destruct the running account; the frame ends with the instruction. -/
def selfdestruct (state : GrowthState) (target : Address) (success : Bool) :
    Option GrowthState :=
  match state.frames with
  | [] => none
  | frame :: _ =>
    let charged := state.chargeBeneficiary frame.address target
    let refunded := refundSelfdestruct charged state.world frame.address
    GrowthState.finish
      { state with
        tracker := refunded
        world := state.world.selfDestruct frame.address target
        ledger :=
          (state.ledger.record (.account target) state.tracker charged).record
            (.account frame.address) charged refunded }
      success keccakEmpty []

/-- Write a slot of the running account. -/
def sstore (state : GrowthState) (database : Address → U256 → U256) (key value : U256) :
    Option GrowthState :=
  match state.frames with
  | [] => none
  | frame :: _ =>
    let stored := state.world.sstore database frame.address key value
    let tracker := state.tracker.afterSstore stored.2
    some
      { state with
        tracker
        world := stored.1
        ledger := state.ledger.record (.slot frame.address key) state.tracker tracker }

/-- One event of the transaction of `sender` over a database. -/
def step (database : Address → U256 → U256) (sender : Address) (state : GrowthState) :
    GrowthEvent → Option GrowthState
  | .call inputs outcome => state.call sender inputs outcome
  | .create inputs outcome => state.create sender inputs outcome
  | .sstore key value => state.sstore database key value
  | .selfdestruct target success => state.selfdestruct target success
  | .finish success codeHash bytes => state.finish success codeHash bytes

end GrowthState

end MegaEvm
