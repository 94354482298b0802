/-
This file follows the compute gas of a transaction through the hooks. It is counted as
persistent usage only and never refunded, so no frame that returns takes any of it back,
and its total is the sum of what was recorded.
-/

import MegaEvm.Limit.Verdict

namespace MegaEvm

namespace ComputeGasTracker

variable {tracker : ComputeGasTracker} {amount : Int}

/-- The tracker holds the amount, which no failing frame can discard and nothing was refunded of. -/
structure Holds (tracker : ComputeGasTracker) (amount : Int) : Prop where
  unrefunded : tracker.frameTracker.cachedTotalRefund = 0
  persistent : ∀ entry ∈ tracker.frameTracker.frameStack, entry.discardableUsage = 0
  total : (tracker.frameTracker.cachedTotalUsed : Int) = amount

namespace Holds

theorem txUsage_eq (holds : tracker.Holds amount) : (tracker.txUsage : Int) = amount := by
  rw [txUsage, FrameLimitTracker.netUsage, holds.unrefunded, Nat.sub_zero]
  exact holds.total

theorem reset (tracker : ComputeGasTracker) : tracker.reset.Holds 0 :=
  ⟨rfl, nofun, rfl⟩

variable (holds : tracker.Holds amount)

include holds

theorem recordGasUsed (gas : Nat) : (tracker.recordGasUsed gas).Holds (amount + gas) := by
  obtain ⟨unrefunded, persistent, total⟩ := holds
  obtain ⟨_, _, ⟨_, frames, _, _, _, used, _, _, _⟩⟩ := tracker
  have recorded : ((used + gas : Nat) : Int) = amount + gas :=
    (Int.natCast_add used gas).trans (congrArg (· + (gas : Int)) total)
  cases frames with
  | nil => exact ⟨unrefunded, persistent, recorded⟩
  | cons entry below =>
    exact ⟨unrefunded, List.forall_mem_cons.mpr (List.forall_mem_cons.mp persistent), recorded⟩

theorem mergePersistentUsage (gas : Nat) :
    (tracker.mergePersistentUsage gas).Holds (amount + gas) :=
  ⟨holds.unrefunded, holds.persistent,
    (Int.natCast_add _ gas).trans (congrArg (· + (gas : Int)) holds.total)⟩

theorem setDetainedLimit (cap : Nat) : (tracker.setDetainedLimit cap).Holds amount :=
  ⟨holds.unrefunded, holds.persistent, holds.total⟩

theorem pushFrame : tracker.pushFrame.Holds amount := by
  have fresh : ∀ limit, ∀ entry ∈ (FrameLimitEntry.new limit ()) :: tracker.frameTracker.frameStack,
      entry.discardableUsage = 0 :=
    fun _ => List.forall_mem_cons.mpr ⟨rfl, holds.persistent⟩
  rw [ComputeGasTracker.pushFrame]
  split
  · exact ⟨holds.unrefunded, fresh _, holds.total⟩
  · exact ⟨holds.unrefunded, fresh _, holds.total⟩

theorem capCurrentFrameLimit (cap : Nat) : (tracker.capCurrentFrameLimit cap).Holds amount := by
  obtain ⟨unrefunded, persistent, total⟩ := holds
  obtain ⟨_, _, ⟨_, frames, _, _, _, used, _, _, _⟩⟩ := tracker
  cases frames with
  | nil => exact ⟨unrefunded, persistent, total⟩
  | cons entry below =>
    exact ⟨unrefunded, List.forall_mem_cons.mpr (List.forall_mem_cons.mp persistent), total⟩

/-- A frame that returns leaves the total as it is, whether it succeeded or not. -/
theorem beforeFrameReturnResult (success : Bool) :
    (tracker.beforeFrameReturnResult success).Holds amount := by
  obtain ⟨unrefunded, persistent, total⟩ := holds
  obtain ⟨_, _, ⟨_, _ | ⟨entry, _ | ⟨parent, below⟩⟩, _, _, _, used, refund, _, _⟩⟩ := tracker
  · exact ⟨unrefunded, persistent, total⟩
  all_goals
    have unrefunded : refund = 0 := unrefunded
    subst unrefunded
    have discarded : entry.discardableUsage = 0 := persistent entry List.mem_cons_self
  · refine ⟨?_, nofun, ?_⟩
    · cases success with
      | true => rfl
      | false => exact Nat.zero_sub _
    · cases success with
      | true => exact total
      | false =>
        show ((used - entry.discardableUsage : Nat) : Int) = amount
        rw [discarded]
        exact total
  · have parentKept : (parent.absorb entry success).discardableUsage = 0 := by
      have parentKept : parent.discardableUsage = 0 :=
        persistent parent (List.mem_cons_of_mem _ List.mem_cons_self)
      simp only [FrameLimitEntry.absorb, parentKept, discarded, ite_self]
    refine ⟨?_, fun other member => ?_, ?_⟩
    · cases success with
      | true => rfl
      | false => exact Nat.zero_sub _
    · obtain rfl | member := List.mem_cons.mp member
      · exact parentKept
      · exact persistent other (List.mem_cons_of_mem _ (List.mem_cons_of_mem _ member))
    · cases success with
      | true => exact total
      | false =>
        show ((used - entry.discardableUsage : Nat) : Int) = amount
        rw [discarded]
        exact total

end Holds

end ComputeGasTracker

/-- The start of a frame leaves the compute gas of the transaction as it is. -/
theorem AdditionalLimit.holds_pushedFrame {limit : AdditionalLimit} {amount : Int}
    (holds : limit.computeGas.Holds amount) (init : FrameInit) (growth : StateGrowthTracker) :
    (limit.pushedFrame init growth).computeGas.Holds amount := by
  simp only [pushedFrame, StorageCallStipendTracker.beforeFrameInit]
  split_ifs
  · exact holds.pushFrame
  · split
    · exact holds.pushFrame.capCurrentFrameLimit _
    · exact holds.pushFrame
  · exact holds.pushFrame

end MegaEvm
