/-
This file is about the detention of a transaction that reads volatile data. Each read has a
cap of compute gas. The tracker of the reads keeps only the smallest cap, and it is applied
to the compute gas not just where data was read but after other instructions too, each
time as a cap above what is used at that point.

The limit that results is nevertheless the one of the tightest read: the smallest of the
limit of the transaction and, over all reads, of what was used at the read and its own cap.
What makes it so is that usage never falls, so a cap that is applied once more, or in place
of a larger one, allows no less than where it was applied first.
-/

import MegaEvm.Access.Tracker
import MegaEvm.Limit.Recorded
import MegaEvm.Limit.Stacks

namespace MegaEvm

open ComputeGasTracker

/-! ### The machine -/

/-- The two trackers that detain a transaction. -/
structure Detention where
  access : VolatileDataAccessTracker
  computeGas : ComputeGasTracker

/-- What happens to them. A read comes with the cap that its kind imposes. -/
inductive DetentionEvent
  | recordGasUsed (gas : Nat)
  | mergePersistentUsage (gas : Nat)
  | read (accessType : VolatileDataAccessType) (cap : Nat)
  | reapply
  | pushFrame
  | capCurrentFrameLimit (cap : Nat)
  | popFrame (success : Bool)

namespace Detention

variable {spec : MegaSpecId} {txLimit blockEnvAccessLimit oracleAccessLimit : Nat}
  {state : Detention}

/-- The trackers before a transaction. -/
def new (spec : MegaSpecId) (txLimit blockEnvAccessLimit oracleAccessLimit : Nat) : Detention where
  access := .new blockEnvAccessLimit oracleAccessLimit
  computeGas := .new spec txLimit

/-- Forget the last transaction. -/
def reset (state : Detention) : Detention where
  access := state.access.reset
  computeGas := state.computeGas.reset

/-- Apply the cap of the reads so far, if there was one. -/
def applyComputeGasLimit (state : Detention) : Detention :=
  match state.access.computeGasLimit with
  | some cap => { state with computeGas := state.computeGas.setDetainedLimit cap }
  | none => state

def step (state : Detention) : DetentionEvent → Detention
  | .recordGasUsed gas => { state with computeGas := state.computeGas.recordGasUsed gas }
  | .mergePersistentUsage gas =>
    { state with computeGas := state.computeGas.mergePersistentUsage gas }
  | .read accessType cap =>
    applyComputeGasLimit
      { state with access := (state.access.insert accessType).applyOrCreateLimit cap }
  | .reapply => state.applyComputeGasLimit
  | .pushFrame => { state with computeGas := state.computeGas.pushFrame }
  | .capCurrentFrameLimit cap =>
    { state with computeGas := state.computeGas.capCurrentFrameLimit cap }
  | .popFrame success =>
    { state with computeGas := state.computeGas.beforeFrameReturnResult success }

def run (state : Detention) (events : List DetentionEvent) : Detention :=
  events.foldl step state

/-- What a read allows: its cap above the usage at that point. -/
def allowance? (state : Detention) : DetentionEvent → Option Nat
  | .read _ cap => some (state.computeGas.txUsage + cap)
  | _ => none

/-- What the reads of a run allow. -/
def allowances (state : Detention) : List DetentionEvent → List Nat
  | [] => []
  | event :: rest => (state.allowance? event).toList ++ (state.step event).allowances rest

theorem run_concat (state : Detention) (events : List DetentionEvent) (event : DetentionEvent) :
    state.run (events ++ [event]) = (state.run events).step event :=
  List.foldl_concat ..

theorem allowances_concat (state : Detention) (events : List DetentionEvent)
    (event : DetentionEvent) :
    state.allowances (events ++ [event]) =
      state.allowances events ++ ((state.run events).allowance? event).toList := by
  induction events generalizing state with
  | nil => exact List.append_nil _
  | cons first rest inductionHypothesis =>
    rw [List.cons_append, allowances, inductionHypothesis, allowances, List.append_assoc]
    rfl

/-! ### What stays for all transactions -/

/-- What the compute gas tracker was made with: the specification and the limit. -/
structure MadeWith (spec : MegaSpecId) (txLimit : Nat) (tracker : ComputeGasTracker) : Prop where
  rex1 : tracker.rex1Enabled = spec.isEnabled .rex1
  setup : tracker.frameTracker.setup = .ofSpec spec txLimit

theorem MadeWith.step (made : MadeWith spec txLimit state.computeGas) (event : DetentionEvent) :
    MadeWith spec txLimit (state.step event).computeGas := by
  have applied (state : Detention) (made : MadeWith spec txLimit state.computeGas) :
      MadeWith spec txLimit state.applyComputeGasLimit.computeGas := by
    rw [applyComputeGasLimit]
    split
    · exact ⟨made.rex1, made.setup⟩
    · exact made
  obtain ⟨rex1, setup⟩ := made
  cases event with
  | recordGasUsed gas =>
    refine ⟨?_, (moves_recordGasUsed _ gas).setup.trans setup⟩
    rw [← rex1, Detention.step, recordGasUsed]
    split <;> rfl
  | mergePersistentUsage gas => exact ⟨rex1, setup⟩
  | read | reapply => exact applied _ ⟨rex1, setup⟩
  | pushFrame => exact ⟨rex1, (moves_pushFrame _).setup.trans setup⟩
  | capCurrentFrameLimit cap =>
    exact ⟨rex1, (moves_capCurrentFrameLimit _ cap).setup.trans setup⟩
  | popFrame success => exact ⟨rex1, (FrameLimitTracker.moves_popFrame _ success).setup.trans setup⟩

theorem MadeWith.run (made : MadeWith spec txLimit state.computeGas)
    (events : List DetentionEvent) : MadeWith spec txLimit (state.run events).computeGas := by
  induction events generalizing state with
  | nil => exact made
  | cons event rest inductionHypothesis => exact inductionHypothesis (made.step event)

/-! ### The tightest read -/

/-- The limit is the smallest of the one of the transaction and the allowances, and the cap that
would be applied next allows no less. -/
structure Tight (spec : MegaSpecId) (txLimit : Nat) (allowed : List Nat) (state : Detention) :
    Prop where
  made : MadeWith spec txLimit state.computeGas
  fits : state.computeGas.detainedLimit ≤ u64Max
  holds : state.computeGas.Holds state.computeGas.txUsage
  detained : state.computeGas.detainedLimit = allowed.foldl min txLimit
  covered : ∀ cap ∈ state.access.computeGasLimit,
    state.computeGas.detainedLimit ≤ state.computeGas.txUsage + cap

namespace Tight

variable {allowed : List Nat}

theorem reset (made : MadeWith spec txLimit state.computeGas)
    (rex4 : spec.isEnabled .rex4 = true) (fits : txLimit ≤ u64Max) :
    Tight spec txLimit [] state.reset := by
  have rex1 : state.computeGas.rex1Enabled = true :=
    made.rex1.trans (MegaSpecId.isEnabled_mono (by decide) rex4)
  have limit : state.computeGas.frameTracker.txLimit = txLimit :=
    congrArg TrackerSetup.txLimit made.setup
  have detained : state.reset.computeGas.detainedLimit = txLimit := by
    show (if state.computeGas.rex1Enabled then state.computeGas.frameTracker.txLimit
      else state.computeGas.detainedLimit) = txLimit
    rw [rex1, if_pos rfl, limit]
  exact ⟨⟨made.rex1, made.setup⟩, detained.trans_le fits, ComputeGasTracker.Holds.reset _, detained,
    fun cap impossible => nomatch impossible⟩

variable (tight : Tight spec txLimit allowed state)

include tight

/-- A step that reads nothing and after which no less is used keeps the limit. -/
theorem of_usage {computeGas : ComputeGasTracker} {amount : Int}
    (made : MadeWith spec txLimit computeGas) (holds : computeGas.Holds amount)
    (more : (state.computeGas.txUsage : Int) ≤ amount)
    (same : computeGas.detainedLimit = state.computeGas.detainedLimit) :
    Tight spec txLimit allowed { state with computeGas } := by
  have usage := holds.txUsage_eq
  refine ⟨made, same.trans_le tight.fits, usage ▸ holds, same.trans tight.detained, ?_⟩
  intro cap applies
  have covered := tight.covered cap applies
  show computeGas.detainedLimit ≤ computeGas.txUsage + cap
  omega

/-- From Rex4 on a cap counts above the usage, and no limit is larger than a machine word. -/
theorem setDetainedLimit_eq (rex4 : spec.isEnabled .rex4 = true) (cap : Nat) :
    state.computeGas.setDetainedLimit cap =
      { state.computeGas with
        detainedLimit := min state.computeGas.detainedLimit (state.computeGas.txUsage + cap) } := by
  have enabled : state.computeGas.frameTracker.rex4Enabled = true :=
    (congrArg TrackerSetup.rex4Enabled tight.made.setup).trans rex4
  have fits := tight.fits
  rw [setDetainedLimit, enabled, if_pos rfl, min_comm _ u64Max, ← min_assoc, min_eq_left fits]

/-- The cap of the reads so far changes nothing when it is applied once more. -/
theorem applyComputeGasLimit_eq (rex4 : spec.isEnabled .rex4 = true) :
    state.applyComputeGasLimit = state := by
  rw [applyComputeGasLimit]
  split
  · rename_i cap applies
    rw [tight.setDetainedLimit_eq rex4, min_eq_left (tight.covered cap applies)]
  · rfl

/-- The smallest cap allows as much as the one of the last read, up to the limit in force. -/
theorem applyOrCreateLimit_allows (accessType : VolatileDataAccessType) (cap : Nat) :
    ∃ smallest,
      ((state.access.insert accessType).applyOrCreateLimit cap).computeGasLimit = some smallest ∧
        min state.computeGas.detainedLimit (state.computeGas.txUsage + smallest) =
          min state.computeGas.detainedLimit (state.computeGas.txUsage + cap) := by
  rw [VolatileDataAccessTracker.applyOrCreateLimit]
  split
  · rename_i current applies
    have covered := tight.covered current applies
    refine ⟨min current cap, rfl, ?_⟩
    rw [← Nat.add_min_add_left, ← min_assoc, min_eq_left covered]
  · exact ⟨cap, rfl, rfl⟩

/-- A read lowers the limit to its allowance, whichever cap is the smaller one. -/
theorem read (rex4 : spec.isEnabled .rex4 = true) (accessType : VolatileDataAccessType)
    (cap : Nat) : Tight spec txLimit (allowed ++ [state.computeGas.txUsage + cap])
      (state.step (.read accessType cap)) := by
  obtain ⟨smallest, applies, same⟩ := tight.applyOrCreateLimit_allows accessType cap
  have stepped : state.step (.read accessType cap) =
      { access := (state.access.insert accessType).applyOrCreateLimit cap
        computeGas := { state.computeGas with
          detainedLimit :=
            min state.computeGas.detainedLimit (state.computeGas.txUsage + cap) } } := by
    rw [step, applyComputeGasLimit]
    simp only [applies, tight.setDetainedLimit_eq rex4, same]
  have made := tight.made.step (.read accessType cap)
  rw [stepped] at made ⊢
  refine ⟨made, (min_le_left _ _).trans tight.fits, ⟨?_, ?_, ?_⟩, ?_, ?_⟩
  · exact tight.holds.unrefunded
  · exact tight.holds.persistent
  · exact tight.holds.total
  · rw [List.foldl_concat, ← tight.detained]
  · intro current currently
    rw [← Option.some.inj (applies.symm.trans currently), ← same]
    exact min_le_right _ _

theorem step (rex4 : spec.isEnabled .rex4 = true) (event : DetentionEvent) :
    Tight spec txLimit (allowed ++ (state.allowance? event).toList) (state.step event) := by
  have made := tight.made.step event
  have holds := tight.holds
  have unread {next : Detention} (tight : Tight spec txLimit allowed next) :
      Tight spec txLimit (allowed ++ []) next :=
    (List.append_nil allowed).symm ▸ tight
  cases event with
  | read accessType cap => exact tight.read rex4 accessType cap
  | reapply =>
    rw [Detention.step, tight.applyComputeGasLimit_eq rex4]
    exact unread tight
  | recordGasUsed gas =>
    refine unread (tight.of_usage made (holds.recordGasUsed gas) (by omega) ?_)
    rw [recordGasUsed]
    split <;> rfl
  | mergePersistentUsage gas =>
    exact unread (tight.of_usage made (holds.mergePersistentUsage gas) (by omega) rfl)
  | pushFrame => exact unread (tight.of_usage made holds.pushFrame le_rfl rfl)
  | capCurrentFrameLimit cap =>
    exact unread (tight.of_usage made (holds.capCurrentFrameLimit cap) le_rfl rfl)
  | popFrame success =>
    -- a frame that reverts takes no compute gas back
    exact unread (tight.of_usage made (holds.beforeFrameReturnResult success) le_rfl rfl)

omit tight

theorem run (tight : Tight spec txLimit [] state) (rex4 : spec.isEnabled .rex4 = true)
    (events : List DetentionEvent) :
    Tight spec txLimit (state.allowances events) (state.run events) := by
  induction events using List.reverseRecOn with
  | nil => exact tight
  | append_singleton events event inductionHypothesis =>
    rw [allowances_concat, run_concat]
    exact inductionHypothesis.step rex4 event

end Tight

/-- A step never raises the limit. -/
theorem detainedLimit_step_le (state : Detention) (event : DetentionEvent) :
    (state.step event).computeGas.detainedLimit ≤ state.computeGas.detainedLimit := by
  have applied (state : Detention) :
      state.applyComputeGasLimit.computeGas.detainedLimit ≤ state.computeGas.detainedLimit := by
    rw [applyComputeGasLimit]
    split
    · exact min_le_left _ _
    · exact le_rfl
  cases event with
  | read | reapply => exact applied _
  | recordGasUsed gas =>
    rw [step, recordGasUsed]
    split <;> exact le_rfl
  | _ => exact le_rfl

theorem detainedLimit_run_le (state : Detention) (events : List DetentionEvent) :
    (state.run events).computeGas.detainedLimit ≤ state.computeGas.detainedLimit := by
  induction events generalizing state with
  | nil => exact le_rfl
  | cons event rest inductionHypothesis =>
    exact (inductionHypothesis (state.step event)).trans (state.detainedLimit_step_le event)

/-- In every transaction from Rex4 on the detained limit is the smallest of the limit of the
transaction and of what the reads so far allowed. It never rises, the cap that is applied once more
changes nothing, and a frame that reverts does not lift it. -/
theorem detainedLimit_tightest (rex4 : spec.isEnabled .rex4 = true) (fits : txLimit ≤ u64Max)
    (history events : List DetentionEvent) :
    let start := ((new spec txLimit blockEnvAccessLimit oracleAccessLimit).run history).reset
    (start.run events).computeGas.detainedLimit = (start.allowances events).foldl min txLimit ∧
      (∀ later, (start.run (events ++ later)).computeGas.detainedLimit ≤
        (start.run events).computeGas.detainedLimit) ∧
      (start.run events).step .reapply = start.run events ∧
      ∀ success, ((start.run events).step (.popFrame success)).computeGas.detainedLimit =
        (start.run events).computeGas.detainedLimit := by
  intro start
  have made : MadeWith spec txLimit
      (new spec txLimit blockEnvAccessLimit oracleAccessLimit).computeGas := ⟨rfl, rfl⟩
  have tight := (Tight.reset (made.run history) rex4 fits).run rex4 events
  refine ⟨tight.detained, fun later => ?_, tight.applyComputeGasLimit_eq rex4, fun _ => rfl⟩
  rw [run, List.foldl_append]
  exact detainedLimit_run_le _ later

theorem detainedLimit_tightest_reads :
    let start := ((new .rex4 1000 20 50).run []).reset
    (start.run [.recordGasUsed 10, .read .oracle 50, .pushFrame, .recordGasUsed 5,
      .read .timestamp 20, .popFrame false, .recordGasUsed 100,
      .read .oracle 50]).computeGas.detainedLimit = 35 := by
  have tightest := (@detainedLimit_tightest .rex4 1000 20 50 (by decide) (by decide) []
    [.recordGasUsed 10, .read .oracle 50, .pushFrame, .recordGasUsed 5, .read .timestamp 20,
      .popFrame false, .recordGasUsed 100, .read .oracle 50]).1
  exact tightest.trans (by decide)

end Detention

end MegaEvm
