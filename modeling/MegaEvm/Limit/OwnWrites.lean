/-
This file follows one frame through the calls and creates it makes, from Rex6 on, and asks
when the write of its own account is counted. The account of a frame is written when value
moves out of it, which is undone when the callee fails, and when its nonce goes up for a
create, which is not. The trackers keep a flag on the frame for the first such write, charge
a call's write to the callee's lane and a create's to the frame's own.

The flag follows what is in effect, with one exception. A create that the engine stops
before the nonce goes up leaves no effect, but the charge and the flag stay.
-/

import MegaEvm.Library.Runs
import MegaEvm.Limit.AccountWrites

namespace MegaEvm

/-! ### The frame and its children -/

/-- A child that runs: whether it is a create, whether the account of the frame was written for it,
and what it used besides. -/
structure RunningChild where
  isCreate : Bool
  inEffect : Bool
  used : Nat
deriving DecidableEq

/-- A frame with the child it waits for. Of the children that ended it is kept whether a write of
the frame's account by one of them is in effect, and what else is used. -/
structure CallerState where
  tracker : FrameLimitTracker CallFrameInfo
  inEffect : Bool
  others : Nat
  child : Option RunningChild
deriving DecidableEq

/-- What the frame does. A call that the engine refuses fails before value moves. A create that
fails without a frame was stopped before the nonce went up, or after that. -/
inductive CallerEvent
  | call (inputs : CallInputs)
  | refusedCall (inputs : CallInputs)
  | create (inputs : CreateInputs) (created : Address)
  | failedCreate (inputs : CreateInputs) (bumped : Bool)
  | use (amount : Nat)
  | returns (success : Bool)

namespace CallerState

variable (cost : Nat) (state : CallerState)

/-- A frame that is answered at once with a failure. -/
def failedInit (input : FrameInput) : FrameLimitTracker CallFrameInfo :=
  (state.tracker.chargeFrameInit cost input).popFrameUnwindParent false

/-- What a call charges for its target. -/
def targetCost (inputs : CallInputs) : Nat :=
  if inputs.transfersValue && inputs.targetAddress != inputs.caller then cost else 0

def step (event : CallerEvent) : Option CallerState :=
  match state.child, event with
  | none, .call inputs =>
    some
      { state with
        tracker := state.tracker.chargeFrameInit cost (.call inputs)
        child := some
          { isCreate := false
            inEffect := inputs.transfersValue
            used := targetCost cost inputs } }
  | none, .refusedCall inputs =>
    some { state with tracker := state.failedInit cost (.call inputs) }
  | none, .create inputs created =>
    some
      { state with
        tracker := (state.tracker.chargeFrameInit cost (.create inputs)).chargeCreated cost created
        child := some { isCreate := true, inEffect := true, used := cost } }
  | none, .failedCreate inputs bumped =>
    some
      { state with
        tracker := state.failedInit cost (.create inputs)
        inEffect := state.inEffect || bumped }
  | none, .use amount =>
    some
      { state with
        tracker := state.tracker.addFrameDiscardable amount
        others := state.others + amount }
  | some child, .use amount =>
    some
      { state with
        tracker := state.tracker.addFrameDiscardable amount
        child := some { child with used := child.used + amount } }
  | some child, .returns success =>
    some
      { tracker := state.tracker.popFrameUnwindParent success
        inEffect := state.inEffect || child.inEffect && (success || child.isCreate)
        others := if success then state.others + child.used else state.others
        child := none }
  | _, _ => none

/-- A write of the frame's own account is in effect. -/
def written : Bool :=
  state.inEffect || (state.child.map RunningChild.inEffect).getD false

/-- What there was when the frame started, what the frame and its children used otherwise, and one
write of the frame's account if one is in effect that was not paid before. -/
def expectedUsage (base : Nat) (paid : Bool) : Nat :=
  base + state.others + (state.child.map RunningChild.used).getD 0 +
    if state.written && !paid then cost else 0

def CountsOnce (base : Nat) (paid : Bool) : Prop :=
  state.tracker.cachedTotalUsed = state.expectedUsage cost base paid

end CallerState

namespace FrameLimitTracker

variable {total : Nat} {tracker : FrameLimitTracker CallFrameInfo}
  {entry parent : FrameLimitEntry CallFrameInfo} {below : List (FrameLimitEntry CallFrameInfo)}

/-- A tracker from Rex6 on with the given frames and usage. -/
structure HasFrames (tracker : FrameLimitTracker CallFrameInfo)
    (frames : List (FrameLimitEntry CallFrameInfo)) (total : Nat) : Prop where
  rex4 : tracker.rex4Enabled = true
  rex5 : tracker.rex5Enabled = true
  rex6 : tracker.rex6Enabled = true
  frames : tracker.frameStack = frames
  total : tracker.cachedTotalUsed = total

/-- A call charges its own frame for the account of its caller, if value moves for the first
time. -/
theorem HasFrames.call (holds : tracker.HasFrames (parent :: below) total) (cost : Nat)
    (inputs : CallInputs) :
    ∃ child : FrameLimitEntry CallFrameInfo,
      child.info.chargedParentUpdate = (inputs.transfersValue && !parent.info.targetUpdated) ∧
      child.discardableUsage =
        CallerState.targetCost cost inputs +
          (if inputs.transfersValue && !parent.info.targetUpdated then cost else 0) ∧
      ∃ marked : FrameLimitEntry CallFrameInfo,
        marked.info.targetUpdated = (parent.info.targetUpdated || inputs.transfersValue) ∧
        (tracker.chargeFrameInit cost (.call inputs)).HasFrames (child :: marked :: below)
          (total + child.discardableUsage) := by
  cases tracker
  obtain ⟨rfl, rfl, rfl, rfl, rfl⟩ := holds
  obtain ⟨limit, persistent, discardable, parentRefund, ⟨address, updated, charged⟩⟩ := parent
  simp only [CallerState.targetCost, bne]
  rcases Bool.eq_false_or_eq_true inputs.transfersValue with transfers | transfers <;>
    rcases Bool.eq_false_or_eq_true (inputs.targetAddress == inputs.caller) with same | same <;>
    cases updated <;>
    simp only [chargeFrameInit, pushCallFrame, parentUnpaid, markParentPaid, pushCallFrameInfo,
      pushFrame, pushFrameWithLimit, updateInfo, updateTop, addFrameDiscardable,
      transfers, same] <;>
    exact ⟨_, rfl, by simp [FrameLimitEntry.new], _, rfl, rfl, rfl, rfl, rfl,
      by simp [FrameLimitEntry.new, Nat.add_assoc]⟩

/-- A create charges the frame itself for its account. -/
theorem HasFrames.create (holds : tracker.HasFrames (parent :: below) total) (cost : Nat)
    (inputs : CreateInputs) :
    ∃ child : FrameLimitEntry CallFrameInfo,
      child.info.chargedParentUpdate = false ∧ child.discardableUsage = 0 ∧
      ∃ paid : FrameLimitEntry CallFrameInfo, paid.info.targetUpdated = true ∧
        (tracker.chargeFrameInit cost (.create inputs)).HasFrames (child :: paid :: below)
          (total + if parent.info.targetUpdated then 0 else cost) := by
  cases tracker
  obtain ⟨rfl, rfl, rfl, rfl, rfl⟩ := holds
  obtain ⟨limit, persistent, discardable, parentRefund, ⟨address, updated, charged⟩⟩ := parent
  cases updated <;>
    simp only [chargeFrameInit, pushCreateFrame, parentUnpaid, markParentPaid, pushCallFrameInfo,
      pushFrame, pushFrameWithLimit, updateInfo, updateTop, addParentDiscardable] <;>
    exact ⟨_, rfl, rfl, _, rfl, rfl, rfl, rfl, rfl, rfl⟩

/-- A child that returns is merged or dropped; a failed call that had paid for the account of its
caller unmarks it. -/
theorem HasFrames.pop (holds : tracker.HasFrames (entry :: parent :: below) total)
    (success : Bool) :
    ∃ merged : FrameLimitEntry CallFrameInfo,
      merged.info.targetUpdated =
        (parent.info.targetUpdated && (success || !entry.info.chargedParentUpdate)) ∧
      (tracker.popFrameUnwindParent success).HasFrames (merged :: below)
        (if success then total else total - entry.discardableUsage) := by
  cases tracker
  obtain ⟨rfl, rfl, rfl, rfl, rfl⟩ := holds
  cases success <;> cases charged : entry.info.chargedParentUpdate <;>
    simp only [popFrameUnwindParent, popFrame, updateInfo, updateTop, charged] <;>
    exact ⟨_, by simp [FrameLimitEntry.absorb], ⟨rfl, rfl, rfl, rfl, rfl⟩⟩

theorem HasFrames.use (holds : tracker.HasFrames (entry :: below) total) (amount : Nat) :
    (tracker.addFrameDiscardable amount).HasFrames
      ({ entry with discardableUsage := entry.discardableUsage + amount } :: below)
      (total + amount) := by
  cases tracker
  obtain ⟨rfl, rfl, rfl, rfl, rfl⟩ := holds
  exact ⟨rfl, rfl, rfl, rfl, rfl⟩

theorem HasFrames.info (holds : tracker.HasFrames (entry :: below) total)
    (update : CallFrameInfo → CallFrameInfo) :
    (tracker.updateInfo update).HasFrames ({ entry with info := update entry.info } :: below)
      total := by
  cases tracker
  obtain ⟨rfl, rfl, rfl, rfl, rfl⟩ := holds
  exact ⟨rfl, rfl, rfl, rfl, rfl⟩

theorem HasFrames.of_eq {frames : List (FrameLimitEntry CallFrameInfo)} {other : Nat}
    (holds : tracker.HasFrames frames total) (same : total = other) :
    tracker.HasFrames frames other :=
  same ▸ holds

variable (holds : tracker.HasFrames (parent :: below) total)

include holds

/-- A call that is answered with a failure leaves nothing behind. -/
theorem HasFrames.failedCall (cost : Nat) (inputs : CallInputs) :
    ∃ merged : FrameLimitEntry CallFrameInfo,
      merged.info.targetUpdated = parent.info.targetUpdated ∧
      ((tracker.chargeFrameInit cost (.call inputs)).popFrameUnwindParent false).HasFrames
        (merged :: below) total := by
  obtain ⟨child, charged, _, marked, marks, pushed⟩ := holds.call cost inputs
  obtain ⟨merged, flags, popped⟩ := pushed.pop false
  refine ⟨merged, ?_, popped.of_eq (Nat.add_sub_cancel ..)⟩
  rw [flags, marks, charged]
  cases inputs.transfersValue <;> cases parent.info.targetUpdated <;> rfl

/-- A create that is answered with a failure leaves the charge for the account of its creator. -/
theorem HasFrames.failedCreate (cost : Nat) (inputs : CreateInputs) :
    ∃ merged : FrameLimitEntry CallFrameInfo, merged.info.targetUpdated = true ∧
      ((tracker.chargeFrameInit cost (.create inputs)).popFrameUnwindParent false).HasFrames
        (merged :: below) (total + if parent.info.targetUpdated then 0 else cost) := by
  obtain ⟨child, uncharged, nothing, marked, marks, pushed⟩ := holds.create cost inputs
  obtain ⟨merged, flags, popped⟩ := pushed.pop false
  refine ⟨merged, ?_, popped.of_eq ?_⟩
  · rw [flags, marks, uncharged]
    rfl
  · rw [if_neg Bool.false_ne_true, nothing, Nat.sub_zero]

end FrameLimitTracker

namespace CallerState

variable {cost base : Nat} {paid : Bool} {below : List (FrameLimitEntry CallFrameInfo)}
  {state next : CallerState}

/-- The frames of the tracker are the ones of the state: the frame is marked when a write of its
account is in effect or was paid before, and the child holds the charge if it made it. -/
def Tracks (cost base : Nat) (paid : Bool) (below : List (FrameLimitEntry CallFrameInfo))
    (state : CallerState) : Prop :=
  match state.child with
  | none =>
    ∃ entry, state.tracker.HasFrames (entry :: below) (state.expectedUsage cost base paid) ∧
      entry.info.targetUpdated = (paid || state.inEffect)
  | some child =>
    ∃ running entry,
      state.tracker.HasFrames (running :: entry :: below) (state.expectedUsage cost base paid) ∧
      entry.info.targetUpdated = (paid || state.inEffect || child.inEffect) ∧
      running.info.chargedParentUpdate =
        (!child.isCreate && child.inEffect && !(paid || state.inEffect)) ∧
      running.discardableUsage =
        child.used + if running.info.chargedParentUpdate then cost else 0

/-- A create that is stopped before the nonce goes up finds the write of the frame's account paid
for or in effect. -/
def StopsPaid (paid : Bool) (state : CallerState) : CallerEvent → Prop
  | .failedCreate _ false => (paid || state.inEffect) = true
  | _ => True

theorem Tracks.countsOnce (tracks : state.Tracks cost base paid below) :
    state.CountsOnce cost base paid := by
  unfold Tracks at tracks
  split at tracks
  · obtain ⟨_, holds, _⟩ := tracks
    exact holds.total
  · obtain ⟨_, _, holds, _⟩ := tracks
    exact holds.total

theorem Tracks.step {event : CallerEvent} (tracks : state.Tracks cost base paid below)
    (stops : StopsPaid paid state event) (stepped : state.step cost event = some next) :
    next.Tracks cost base paid below := by
  obtain ⟨tracker, inEffect, others, _ | child⟩ := state
  · obtain ⟨entry, holds, flag⟩ := tracks
    cases event with
    | call inputs =>
      cases stepped
      obtain ⟨child, charged, discards, marked, marks, pushed⟩ := holds.call cost inputs
      rw [flag] at charged discards marks
      refine ⟨child, marked, pushed.of_eq ?_, marks, by simpa using charged,
        by rw [discards, charged]⟩
      simp only [expectedUsage, written, discards, Option.map_some, Option.map_none,
        Option.getD_some, Option.getD_none]
      cases inputs.transfersValue <;> cases paid <;> cases inEffect <;> simp <;> omega
    | refusedCall inputs =>
      cases stepped
      obtain ⟨merged, flags, popped⟩ := holds.failedCall cost inputs
      exact ⟨merged, popped, flags.trans flag⟩
    | create inputs created =>
      cases stepped
      obtain ⟨child, uncharged, nothing, marked, marks, pushed⟩ := holds.create cost inputs
      rw [flag] at pushed
      have created :=
        (pushed.info (fun info => { info with targetAddress := some created })).use cost
      refine ⟨_, marked, created.of_eq ?_, marks.trans (Bool.or_true _).symm, uncharged, ?_⟩
      · simp only [expectedUsage, written, Option.map_some, Option.map_none,
          Option.getD_some, Option.getD_none]
        cases paid <;> cases inEffect <;> simp [Nat.add_right_comm]
      · show child.discardableUsage + cost = cost + _
        rw [nothing, uncharged]
        simp
    | failedCreate inputs bumped =>
      cases stepped
      obtain ⟨merged, flags, popped⟩ := holds.failedCreate cost inputs
      rw [flag] at popped
      have written : (paid || (inEffect || bumped)) = true := by
        cases bumped with
        | false => exact (congrArg (paid || ·) (Bool.or_false _)).trans stops
        | true => rw [Bool.or_true, Bool.or_true]
      refine ⟨merged, popped.of_eq ?_, flags.trans written.symm⟩
      simp only [expectedUsage, CallerState.written, Option.map_none, Option.getD_none]
      cases paid <;> cases inEffect <;> cases bumped <;>
        first | exact absurd written (by decide) | simp
    | use amount =>
      cases stepped
      have moved : base + others + 0 + amount = base + (others + amount) + 0 := by omega
      exact ⟨_, (holds.use amount).of_eq ((Nat.add_right_comm ..).trans (congrArg (· + _) moved)),
        flag⟩
    | returns success => cases stepped
  · obtain ⟨running, entry, holds, flag, charged, discards⟩ := tracks
    cases event with
    | use amount =>
      cases stepped
      have moved : base + others + child.used + amount = base + others + (child.used + amount) :=
        Nat.add_assoc ..
      refine ⟨_, entry, (holds.use amount).of_eq ((Nat.add_right_comm ..).trans
        (congrArg (· + _) moved)), flag, charged, ?_⟩
      dsimp only
      rw [discards]
      exact Nat.add_right_comm ..
    | returns success =>
      cases stepped
      obtain ⟨merged, flags, popped⟩ := holds.pop success
      refine ⟨merged, popped.of_eq ?_, ?_⟩
      · rw [discards, charged]
        simp only [expectedUsage, written, Option.map_some, Option.map_none, Option.getD_some,
          Option.getD_none]
        obtain ⟨isCreate, childEffect, used⟩ := child
        cases success <;> cases isCreate <;> cases childEffect <;> cases paid <;>
          cases inEffect <;> simp <;> omega
      · rw [flags, flag, charged]
        obtain ⟨isCreate, childEffect, used⟩ := child
        cases success <;> cases isCreate <;> cases childEffect <;> cases paid <;>
          cases inEffect <;> rfl
    | _ => cases stepped

/-- A frame that starts. -/
def start (tracker : FrameLimitTracker CallFrameInfo) : CallerState :=
  { tracker, inEffect := false, others := 0, child := none }

/-- From Rex6 on, in every run in which every create that is stopped before the nonce goes up finds
the write of the frame's account paid for or in effect, the write is counted once where it is in
effect and was not paid when the frame started, and not at all otherwise. -/
theorem ownWrite_countsOnce {tracker : FrameLimitTracker CallFrameInfo}
    {entry : FrameLimitEntry CallFrameInfo} {events : List CallerEvent} {final : CallerState}
    (holds : tracker.HasFrames (entry :: below) base)
    (stops : Library.StepsMeet (step cost) (StopsPaid entry.info.targetUpdated) (start tracker)
      events)
    (ran : Library.run (step cost) (start tracker) events = some final) :
    final.CountsOnce cost base entry.info.targetUpdated := by
  have started : (start tracker).Tracks cost base entry.info.targetUpdated below :=
    ⟨entry, holds, (Bool.or_false _).symm⟩
  have tracks := Library.run_invariant_of_meets
    (fun _ _ _ before allowed stepped => before.step allowed stepped) started stops ran
  exact tracks.countsOnce

/-- A transaction with one frame, not credited at its start. -/
def oneFrame : FrameLimitTracker CallFrameInfo :=
  (FrameLimitTracker.new .rex6 1000).pushDummyFrame

def plainCreate : CreateInputs :=
  { caller := 1, value := 10, createdAddress := fun nonce => nonce, gasLimit := 0 }

theorem oneFrame_hasFrames : oneFrame.HasFrames (oneFrame.frameStack.head (by decide) :: []) 0 :=
  ⟨rfl, rfl, rfl, rfl, rfl⟩

/-- A create whose value the creator does not have counts as a write of the creator. -/
theorem ownWrite_counts_stoppedCreate :
    ∃ final, Library.run (step 40) (start oneFrame) [.failedCreate plainCreate false] =
        some final ∧
      final.written = false ∧ ¬ final.CountsOnce 40 0 false :=
  ⟨_, rfl, rfl, by unfold CountsOnce; decide⟩

def payment : CallInputs :=
  { caller := 1, targetAddress := 2, value := .transfer 5, scheme := .call, gasLimit := 0 }

/-- A payment that fails, one that succeeds, and a create that is stopped. -/
def retriedPayment : List CallerEvent :=
  [.call payment, .returns false, .call payment, .returns true, .failedCreate plainCreate false]

theorem ownWrite_countsOnce_retriedPayment :
    ∃ final, Library.run (step 40) (start oneFrame) retriedPayment = some final ∧
      final.written = true ∧ final.CountsOnce 40 0 false :=
  ⟨_, rfl, rfl, @ownWrite_countsOnce 40 0 [] oneFrame _ retriedPayment _ oneFrame_hasFrames
    ⟨trivial, trivial, trivial, trivial, rfl, trivial⟩ rfl⟩

end CallerState

end MegaEvm
