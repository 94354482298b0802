/-
This file is about the budgets of frames. The first frame gets what the transaction
has left and every other frame a share of what its parent has left, so a frame that
keeps its own budget keeps the budget of every frame beneath it and the limit of the
transaction. The budgets of the stack form a chain for this reason, and pushing,
charging and popping frames keep the chain as long as no frame is pushed onto one
that has overspent.

It also says when a tracker finds nothing exceeded, and what a charge or a refund of
the top frame does to that.
-/

import Mathlib.Data.List.Induction
import MegaEvm.Library.Runs
import MegaEvm.Limit.AccountWrites
import MegaEvm.Limit.StateGrowth

namespace MegaEvm

open FrameLimitEntry FrameLimitTracker

/-! ### Entries -/

namespace FrameLimitEntry

variable {Info : Type}

/-- The usage less the refund, or nothing if the refund is larger. -/
def net (entry : FrameLimitEntry Info) : Nat :=
  entry.used - entry.refund

/-- The entry keeps its own budget. -/
def Within (entry : FrameLimitEntry Info) : Prop :=
  entry.net ≤ entry.limit

instance (entry : FrameLimitEntry Info) : Decidable entry.Within :=
  inferInstanceAs (Decidable (_ ≤ _))

theorem Within.remaining_add_net {entry : FrameLimitEntry Info} (within : entry.Within) :
    entry.remaining + entry.net = entry.limit :=
  Nat.sub_add_cancel within

end FrameLimitEntry

namespace FrameLimitTracker

variable {Info : Type} (tracker : FrameLimitTracker Info)

/-! ### Verdicts -/

/-- The top frame, if there is one, keeps its budget. -/
def TopWithin : Prop :=
  ∀ entry ∈ tracker.frameStack.head?, entry.Within

/-- The tracker has nothing to report: the transaction keeps its limit and, if frames have budgets,
the top frame keeps its own. -/
def Fits (budgeted : Bool) (limit : Nat) : Prop :=
  (budgeted = true → tracker.TopWithin) ∧ tracker.netUsage ≤ limit

theorem exceedsCurrentFrameLimit_eq_false_iff (kind : LimitKind) :
    (tracker.exceedsCurrentFrameLimit kind).exceededLimit = false ↔ tracker.TopWithin := by
  rw [exceedsCurrentFrameLimit, TopWithin]
  cases tracker.frameStack with
  | nil => simp
  | cons =>
    simp only [List.head?_cons, Option.mem_def, Option.some.injEq, forall_eq',
      FrameLimitEntry.Within, net]
    split
    · rename_i exceeds
      exact iff_of_false nofun (Nat.not_le.mpr exceeds)
    · rename_i within
      exact iff_of_true rfl (Nat.not_lt.mp within)

/-- A check in two layers finds nothing if neither layer does. -/
theorem exceededLimit_layers (budgeted : Bool) (frameCheck : LimitCheck) (kind : LimitKind)
    (limit used : Nat) :
    (if budgeted && frameCheck.exceededLimit then frameCheck
      else if limit < used then .exceedsLimit kind limit used false
      else .withinLimit).exceededLimit = false ↔
      (budgeted = true → frameCheck.exceededLimit = false) ∧ used ≤ limit := by
  split
  · rename_i both
    obtain ⟨budgets, exceeds⟩ := Bool.and_eq_true_iff.mp both
    simp [budgets, exceeds]
  · rename_i notBoth
    have framesKeep : budgeted = true → frameCheck.exceededLimit = false := by
      intro budgets
      rw [budgets, Bool.true_and] at notBoth
      exact Bool.eq_false_iff.mpr notBoth
    split
    · rename_i exceeds
      exact iff_of_false nofun fun both => absurd both.2 (Nat.not_le.mpr exceeds)
    · rename_i within
      exact iff_of_true rfl ⟨framesKeep, Nat.not_lt.mp within⟩

theorem checkAgainst_eq_false_iff (kind : LimitKind) (limit : Nat) :
    (tracker.checkAgainst kind limit).exceededLimit = false ↔
      tracker.Fits tracker.rex4Enabled limit := by
  rw [checkAgainst, exceededLimit_layers, exceedsCurrentFrameLimit_eq_false_iff, Fits]

/-- An exceed of the transaction is one of its net usage. -/
theorem isTxExceed_checkAgainst {kind : LimitKind} {limit : Nat}
    (exceeds : (tracker.checkAgainst kind limit).IsTxExceed) : limit < tracker.netUsage := by
  obtain ⟨_, _, _, equation⟩ := exceeds
  rw [checkAgainst] at equation
  split at equation
  · rw [exceedsCurrentFrameLimit] at equation
    split at equation
    · split at equation <;> cases equation
    · cases equation
  · split at equation
    · assumption
    · cases equation

end FrameLimitTracker

theorem StateGrowthTracker.checkLimit_eq_false_iff (tracker : StateGrowthTracker) :
    tracker.checkLimit.exceededLimit = false ↔
      tracker.frameTracker.Fits (tracker.spec.isEnabled .rex4) tracker.frameTracker.txLimit := by
  rw [checkLimit, exceededLimit_layers,
    exceedsCurrentFrameLimit_eq_false_iff, FrameLimitTracker.Fits, txUsage]

namespace FrameLimitTracker

variable {Info : Type} {tracker : FrameLimitTracker Info} {budgeted : Bool} {limit : Nat}

/-! ### Charges and refunds of the top frame -/

/-- What the top frame may still be charged. -/
def room (tracker : FrameLimitTracker Info) (budgeted : Bool) (limit : Nat) : Nat :=
  if budgeted then min tracker.currentFrameRemaining (limit - tracker.netUsage)
  else limit - tracker.netUsage

theorem room_le_netUsage (tracker : FrameLimitTracker Info) (budgeted : Bool) (limit : Nat) :
    tracker.room budgeted limit ≤ limit - tracker.netUsage := by
  rw [room]
  split
  · exact Nat.min_le_right _ _
  · exact Nat.le_refl _

variable (fits : tracker.Fits budgeted limit)

include fits

/-- A change of the top entry for whose usage there is room gives a tracker nothing to report. -/
theorem Fits.updateTop {update : FrameLimitEntry Info → FrameLimitEntry Info} {used refund : Nat}
    {addsUsed : ∀ entry, (update entry).used = entry.used + used}
    {addsRefund : ∀ entry, (update entry).refund = entry.refund + refund}
    (sameLimit : ∀ entry, (update entry).limit = entry.limit)
    (room : used ≤ tracker.room budgeted limit) :
    (tracker.updateTop update used refund addsUsed addsRefund).Fits budgeted limit := by
  obtain ⟨txEntry, _ | ⟨entry, below⟩, rex4, rex5, rex6, total, refunded, _, _⟩ := tracker
  · exact fits
  · obtain ⟨top, fitsTotal⟩ := fits
    have totalRoom := Nat.le_trans room (room_le_netUsage _ budgeted limit)
    refine ⟨fun budgets => ?_, ?_⟩
    · have within := top budgets entry rfl
      rw [FrameLimitTracker.room, budgets, if_pos rfl] at room
      have topRoom : used ≤ entry.remaining := Nat.le_trans room (Nat.min_le_left _ _)
      rintro _ ⟨⟩
      simp only [FrameLimitEntry.Within, net, remaining, addsUsed,
        addsRefund, sameLimit] at within topRoom ⊢
      omega
    · simp only [netUsage] at fitsTotal totalRoom ⊢
      show total + used - (refunded + refund) ≤ limit
      omega

/-- A tracker with room for a charge still has nothing to report after it. -/
theorem Fits.addFrameDiscardable {amount : Nat} (room : amount ≤ tracker.room budgeted limit) :
    (tracker.addFrameDiscardable amount).Fits budgeted limit :=
  fits.updateTop (fun _ => rfl) room

/-- A refund gives a tracker nothing to report. -/
theorem Fits.addFrameRefund (amount : Nat) : (tracker.addFrameRefund amount).Fits budgeted limit :=
  fits.updateTop (fun _ => rfl) (Nat.zero_le _)

omit fits

theorem rex4Enabled_updateTop (tracker : FrameLimitTracker Info)
    (update : FrameLimitEntry Info → FrameLimitEntry Info) (used refund : Nat)
    (addsUsed : ∀ entry, (update entry).used = entry.used + used)
    (addsRefund : ∀ entry, (update entry).refund = entry.refund + refund) :
    (tracker.updateTop update used refund addsUsed addsRefund).rex4Enabled =
      tracker.rex4Enabled := by
  obtain ⟨_, frames, _⟩ := tracker
  cases frames <;> rfl

/-- A tracker that finds nothing exceeded and has room for a charge finds nothing after it. -/
theorem checkAgainst_addFrameDiscardable {kind : LimitKind}
    (within : (tracker.checkAgainst kind tracker.txLimit).exceededLimit = false) {amount : Nat}
    (room : amount ≤ tracker.callRemaining tracker.txLimit) :
    ((tracker.addFrameDiscardable amount).checkAgainst kind
      (tracker.addFrameDiscardable amount).txLimit).exceededLimit = false := by
  rw [checkAgainst_eq_false_iff] at within ⊢
  have fits := within.addFrameDiscardable room
  rw [txLimit, addFrameDiscardable_txEntry, addFrameDiscardable, rex4Enabled_updateTop]
  exact fits

end FrameLimitTracker

namespace StateGrowthTracker

variable {tracker : StateGrowthTracker} (within : tracker.checkLimit.exceededLimit = false)

include within

theorem checkLimit_recordGrowth {amount : Nat} (room : amount ≤ tracker.currentCallRemaining) :
    (tracker.recordGrowth amount).checkLimit.exceededLimit = false := by
  rw [checkLimit_eq_false_iff] at within ⊢
  have fits := within.addFrameDiscardable room
  rw [recordGrowth, FrameLimitTracker.txLimit, addFrameDiscardable_txEntry]
  exact fits

theorem checkLimit_recordRefund (amount : Nat) :
    (tracker.recordRefund amount).checkLimit.exceededLimit = false := by
  rw [checkLimit_eq_false_iff] at within ⊢
  have fits := within.addFrameRefund amount
  rw [recordRefund, FrameLimitTracker.txLimit, addFrameRefund_txEntry]
  exact fits

end StateGrowthTracker

namespace FrameLimitTracker

variable {Info : Type} {tracker : FrameLimitTracker Info}

/-! ### The chain of budgets -/

/-- The budget of every frame, with what the frame beneath it has used, is within the budget of that
frame; the budget of the first frame is so within the limit of the transaction. -/
def Chained (txEntry : FrameLimitEntry Unit) : List (FrameLimitEntry Info) → Prop
  | [] => True
  | [first] => first.limit + txEntry.net ≤ txEntry.limit
  | entry :: parent :: below =>
    entry.limit + parent.net ≤ parent.limit ∧ Chained txEntry (parent :: below)

variable {txEntry : FrameLimitEntry Unit} {below : List (FrameLimitEntry Info)}
  {frames above : List (FrameLimitEntry Info)} {entry : FrameLimitEntry Info}

/-- The chain does not depend on what the top frame has used. -/
theorem Chained.top {changed : FrameLimitEntry Info} (chained : Chained txEntry (entry :: below))
    (sameLimit : changed.limit = entry.limit) : Chained txEntry (changed :: below) := by
  cases below with
  | nil =>
    rw [Chained, sameLimit]
    exact chained
  | cons =>
    refine ⟨?_, chained.2⟩
    rw [sameLimit]
    exact chained.1

/-- The budgets of the frames on the stack form a chain. -/
def HasChain (tracker : FrameLimitTracker Info) : Prop :=
  Chained tracker.txEntry tracker.frameStack

/-- The entry that a pushed frame gets its budget from: the top frame, or the transaction. -/
def BelowWithin (tracker : FrameLimitTracker Info) : Prop :=
  match tracker.frameStack with
  | entry :: _ => entry.Within
  | [] => tracker.txEntry.Within

instance (tracker : FrameLimitTracker Info) : Decidable tracker.BelowWithin :=
  match frames : tracker.frameStack with
  | entry :: _ =>
    decidable_of_iff entry.Within (by rw [BelowWithin, frames])
  | [] => decidable_of_iff tracker.txEntry.Within (by rw [BelowWithin, frames])

/-- A frame that is pushed onto one that keeps its budget extends the chain. -/
theorem HasChain.push (chained : tracker.HasChain) (within : tracker.BelowWithin) (info : Info) :
    (tracker.pushFrame info).HasChain := by
  rw [HasChain] at chained
  rw [BelowWithin] at within
  rw [HasChain, pushFrame_txEntry, pushFrame_frameStack, maxForwardLimit]
  revert chained within
  cases tracker.frameStack with
  | nil =>
    intro _ within
    show tracker.txEntry.remaining + tracker.txEntry.net ≤ tracker.txEntry.limit
    exact within.remaining_add_net.le
  | cons parent below =>
    intro chained within
    have spent := within.remaining_add_net
    refine ⟨?_, chained⟩
    show parent.remaining * frameLimitNumerator / frameLimitDenominator + parent.net ≤ parent.limit
    have share : parent.remaining * frameLimitNumerator / frameLimitDenominator ≤
        parent.remaining := by
      simp only [frameLimitNumerator, frameLimitDenominator]
      omega
    omega

theorem Chained.suffix (chained : Chained txEntry (above ++ below)) : Chained txEntry below := by
  induction above with
  | nil => exact chained
  | cons entry rest inductionHypothesis =>
    refine inductionHypothesis ?_
    revert chained
    rw [List.cons_append]
    cases rest ++ below with
    | nil => exact fun _ => trivial
    | cons => exact fun chained => chained.2

/-- Along a chain whose top frame keeps its budget, every frame keeps its budget together with all
frames above it. -/
theorem Chained.sum_le (chained : Chained txEntry (above ++ entry :: below))
    (within : ∀ top ∈ (above ++ entry :: below).head?, top.Within) :
    (above.map net).sum + entry.net ≤ entry.limit := by
  -- from the top down: what is above a frame is within the budget of the frame on it
  induction above using List.reverseRecOn generalizing entry below with
  | nil =>
    rw [List.map_nil, List.sum_nil, Nat.zero_add]
    exact within entry rfl
  | append_singleton rest child inductionHypothesis =>
    rw [List.append_assoc, List.singleton_append] at chained within
    have onTop := inductionHypothesis chained within
    have link : child.limit + entry.net ≤ entry.limit := chained.suffix.1
    rw [List.map_append, List.sum_append, List.map_singleton, List.sum_singleton]
    omega

/-- The frames of such a chain and the transaction keep the limit of the transaction together. -/
theorem Chained.total_le (chained : Chained txEntry frames) (active : frames ≠ [])
    (within : ∀ top ∈ frames.head?, top.Within) :
    (frames.map net).sum + txEntry.net ≤ txEntry.limit := by
  obtain ⟨above, first, rfl⟩ := (List.eq_nil_or_concat frames).resolve_left active
  rw [List.concat_eq_append] at chained within ⊢
  have sum := chained.sum_le within
  have link : first.limit + txEntry.net ≤ txEntry.limit := chained.suffix
  rw [List.map_append, List.sum_append, List.map_singleton, List.sum_singleton]
  omega

/-- The usage less the refunds is at most the net usage of each entry added up. -/
theorem sum_used_sub_refund_le (frames : List (FrameLimitEntry Info)) :
    (frames.map used).sum - (frames.map refund).sum ≤
      (frames.map net).sum := by
  induction frames with
  | nil => exact Nat.le_refl 0
  | cons entry below inductionHypothesis =>
    simp only [List.map_cons, List.sum_cons, net] at inductionHypothesis ⊢
    omega

theorem netUsage_le_sum (tracker : FrameLimitTracker Info) :
    tracker.netUsage ≤
      (tracker.frameStack.map net).sum + tracker.txEntry.net := by
  have frames := sum_used_sub_refund_le tracker.frameStack
  rw [netUsage_eq, net]
  omega

/-! ### Runs -/

/-- What happens to a tracker while frames run. -/
inductive BudgetEvent (Info : Type)
  | push (info : Info)
  | addPersistent (amount : Nat)
  | addDiscardable (amount : Nat)
  | addRefund (amount : Nat)
  | pop (success : Bool)
deriving DecidableEq

def budgetStep (tracker : FrameLimitTracker Info) :
    BudgetEvent Info → Option (FrameLimitTracker Info)
  | .push info => some (tracker.pushFrame info)
  | .addPersistent amount => some (tracker.addFramePersistent amount).1
  | .addDiscardable amount => some (tracker.addFrameDiscardable amount)
  | .addRefund amount => some (tracker.addFrameRefund amount)
  | .pop success => some (tracker.popFrame success).1

/-- No frame is pushed onto one that has overspent. -/
def PushesWithin (tracker : FrameLimitTracker Info) : BudgetEvent Info → Prop
  | .push _ => tracker.BelowWithin
  | _ => True

instance (tracker : FrameLimitTracker Info) (event : BudgetEvent Info) :
    Decidable (tracker.PushesWithin event) :=
  match event with
  | .push _ => inferInstanceAs (Decidable tracker.BelowWithin)
  | .addPersistent _ | .addDiscardable _ | .addRefund _ | .pop _ => isTrue trivial

/-- Changing the usage of the top frame keeps the chain. -/
theorem chained_modifyHead (chained : Chained txEntry frames)
    {update : FrameLimitEntry Info → FrameLimitEntry Info}
    (sameLimit : ∀ entry, (update entry).limit = entry.limit) :
    Chained txEntry (frames.modifyHead update) := by
  cases frames with
  | nil => exact chained
  | cons entry below => exact chained.top (sameLimit entry)

/-- Popping a frame keeps the chain of the frames beneath it. -/
theorem HasChain.popFrame (chained : tracker.HasChain) (success : Bool) :
    (tracker.popFrame success).1.HasChain := by
  rw [HasChain] at chained ⊢
  rcases frames : tracker.frameStack with _ | ⟨child, _ | ⟨parent, below⟩⟩
  · rw [popFrame_empty frames]
    exact chained
  · rw [(popFrame_single frames success).1]
    trivial
  · rw [(popFrame_nested frames success).1, (popFrame_nested frames success).2]
    rw [frames] at chained
    exact chained.2.top (parent.limit_absorb child success)

theorem chained_budgetStep {next : FrameLimitTracker Info} {event : BudgetEvent Info}
    (chained : tracker.HasChain) (pushes : tracker.PushesWithin event)
    (stepped : tracker.budgetStep event = some next) : next.HasChain := by
  cases event with
  | push info =>
    rw [← Option.some.inj stepped]
    exact chained.push pushes info
  | addPersistent amount =>
    rw [← Option.some.inj stepped, HasChain, addFramePersistent_txEntry,
      addFramePersistent_frameStack]
    exact chained_modifyHead chained fun _ => rfl
  | addDiscardable amount =>
    rw [← Option.some.inj stepped, HasChain, addFrameDiscardable_txEntry,
      addFrameDiscardable_frameStack]
    exact chained_modifyHead chained fun _ => rfl
  | addRefund amount =>
    rw [← Option.some.inj stepped, HasChain, addFrameRefund_txEntry, addFrameRefund_frameStack]
    exact chained_modifyHead chained fun _ => rfl
  | pop success =>
    rw [← Option.some.inj stepped]
    exact chained.popFrame success

/-- While the top frame keeps its budget, every frame keeps its own together with all frames above
it, and the transaction keeps its limit, so that a check finds no exceed of the transaction. -/
theorem budget_containment {start final : FrameLimitTracker Info}
    {events : List (BudgetEvent Info)} (empty : start.frameStack = [])
    (pushes : Library.StepsMeet budgetStep PushesWithin start events)
    (ran : Library.run budgetStep start events = some final) (active : final.frameStack ≠ [])
    (within : final.TopWithin) :
    (∀ above entry below, final.frameStack = above ++ entry :: below →
        (above.map FrameLimitEntry.net).sum + entry.net ≤ entry.limit) ∧
      final.netUsage ≤ final.txLimit ∧
      ∀ kind, ¬ (final.checkAgainst kind final.txLimit).IsTxExceed := by
  have chained : final.HasChain :=
    Library.run_invariant_of_meets
      (fun _ _ _ chained pushes stepped => chained_budgetStep chained pushes stepped)
      (show Chained start.txEntry start.frameStack by rw [empty]; trivial) pushes ran
  have total : final.netUsage ≤ final.txLimit :=
    Nat.le_trans final.netUsage_le_sum (chained.total_le active within)
  refine ⟨fun above entry below split => ?_, total, fun kind exceeds => ?_⟩
  · rw [TopWithin, split] at within
    rw [HasChain, split] at chained
    exact chained.sum_le within
  · exact absurd total (Nat.not_le.mpr (final.isTxExceed_checkAgainst exceeds))

/-- A frame, a child that succeeds with a refund, a child that fails, and a grandchild. -/
def nestedBudgetRun : List (BudgetEvent Unit) :=
  [.push (), .addDiscardable 100, .push (), .addDiscardable 50, .addRefund 70, .pop true,
    .push (), .addPersistent 10, .addDiscardable 500, .pop false, .push (), .addDiscardable 30]

theorem budget_containment_nested :
    ∃ final : FrameLimitTracker Unit,
      Library.run budgetStep (new .rex4 1000) nestedBudgetRun = some final ∧
      (final.frameStack.map fun entry => (entry.limit, entry.net)) = [(891, 30), (1000, 90)] ∧
      (∀ above entry below, final.frameStack = above ++ entry :: below →
        (above.map FrameLimitEntry.net).sum + entry.net ≤ entry.limit) ∧
      final.netUsage ≤ final.txLimit ∧
      ∀ kind, ¬ (final.checkAgainst kind final.txLimit).IsTxExceed :=
  ⟨_, rfl, rfl, @budget_containment Unit (new .rex4 1000) _ nestedBudgetRun rfl
    (by decide) rfl nofun (by rintro _ ⟨⟩; decide)⟩

end FrameLimitTracker

end MegaEvm
