/-
This file shows that disabling the access to volatile data is scoped to the frames
below the one that disabled it. The tracker keeps a single journal depth. The
abstract model keeps a flag for each active frame, which only the frame itself sets
and clears, and the depth is that of the outermost frame whose flag is set. The two
refuse the same events and answer every call and every read alike, so what holds of
the flags by their definition holds of the depth.
-/

import MegaEvm.Access.Tracker
import MegaEvm.Library.Runs

namespace MegaEvm

open AccessControlInterceptor Library

/-! ### What happens to the tracker -/

/-- What happens in the frames of a transaction: a frame is entered or left, a call is answered
without a frame, the access control contract is called, or an instruction reads volatile data. -/
inductive ScopeEvent
  | newTx
  | enterFrame
  | exitFrame (succeeded : Bool)
  | answered
  | control (call : AccessControlCall) (inputs : CallInputs)
  | access (accessType : VolatileDataAccessType)

/-- What the frames see: the result of a call of the access control contract, and whether a read
was allowed. -/
inductive Seen
  | reply (result : FrameResult)
  | read (accessType : VolatileDataAccessType) (allowed : Bool)

/-- The schemes whose calls are looked at by the interceptors. -/
def CallScheme.isIntercepted : CallScheme → Bool
  | .call | .staticCall => true
  | .callCode | .delegateCall => false

/-- The tracker, the journal depth, and what was seen, the last first. -/
structure AccessScope where
  tracker : VolatileDataAccessTracker
  depth : Nat
  seen : List Seen

namespace AccessScope

def initial (blockEnvAccessLimit oracleAccessLimit : Nat) : AccessScope where
  tracker := .new blockEnvAccessLimit oracleAccessLimit
  depth := 0
  seen := []

/-- The end of `frame_return_result`, at the depth the journal then has. -/
def frameReturnResult (spec : MegaSpecId) (depth : Nat) (tracker : VolatileDataAccessTracker) :
    VolatileDataAccessTracker :=
  if spec.isEnabled .rex4 then tracker.enableAccessIfReturning depth else tracker

/-- What follows a call that was answered without a frame. The result of the first frame of a
transaction is not returned to a frame. -/
def afterAnswer (spec : MegaSpecId) (depth : Nat) (tracker : VolatileDataAccessTracker) :
    VolatileDataAccessTracker :=
  if depth = 0 then tracker else frameReturnResult spec depth tracker

def step (spec : MegaSpecId) (state : AccessScope) : ScopeEvent → Option AccessScope
  | .newTx => if state.depth = 0 then some { state with tracker := state.tracker.reset } else none
  | .enterFrame => some { state with depth := state.depth + 1 }
  | .exitFrame _ =>
    match state.depth with
    | 0 => none
    | depth + 1 => some { state with tracker := frameReturnResult spec depth state.tracker, depth }
  | .answered => some { state with tracker := afterAnswer spec state.depth state.tracker }
  | .control call inputs =>
    -- The contract is intercepted from Rex4 on.
    if spec.isEnabled .rex4 && inputs.scheme.isIntercepted then
      (AccessControlInterceptor.intercept state.tracker inputs (some call) state.depth).map
        fun (result, tracker) =>
          { state with
            tracker := afterAnswer spec state.depth tracker
            seen := .reply result :: state.seen }
    else none
  | .access accessType =>
    if state.tracker.volatileAccessDisabled state.depth then
      some { state with seen := .read accessType false :: state.seen }
    else
      some { state with
        tracker := state.tracker.markAccessed accessType
        seen := .read accessType true :: state.seen }

end AccessScope

/-! ### One flag for each frame -/

/-- The flags of the running frame and of the frames above it, the nearest first. The last of them
is the one of the transaction, which calls the first frame. -/
structure FlagStack where
  own : Bool
  callers : List Bool

namespace FlagStack

variable (flags : FlagStack)

/-- The flags by depth: the one of the transaction first. -/
def scopes : List Bool :=
  flags.callers.reverse ++ [flags.own]

/-- A frame or one above it has disabled the access. -/
def disabled : Bool :=
  flags.own || flags.callers.any id

def enter : FlagStack :=
  { own := false, callers := flags.own :: flags.callers }

def leave : Option FlagStack :=
  match flags.callers with
  | [] => none
  | caller :: callers => some { own := caller, callers }

def disable : FlagStack :=
  { flags with own := true }

/-- A frame clears its own flag, and may do so only if no frame above it has disabled the access. -/
def enable : Bool × FlagStack :=
  if flags.callers.any id then (false, flags) else (true, { flags with own := false })

def answer (call : AccessControlCall) (inputs : CallInputs) : FrameResult × FlagStack :=
  match rejectNonZeroTransfer inputs with
  | some rejected => (rejected, flags)
  | none =>
    match call with
    | .disableVolatileDataAccess => (interceptedResult inputs .returned [], flags.disable)
    | .enableVolatileDataAccess =>
      match flags.enable with
      | (true, enabled) => (interceptedResult inputs .returned [], enabled)
      | (false, unchanged) =>
        (interceptedResult inputs .revert disabledByParentRevertData, unchanged)
    | .isVolatileDataAccessDisabled =>
      (interceptedResult inputs .returned (abiEncodeBool flags.disabled), flags)

end FlagStack

/-- The flags, and what was seen. -/
structure FlagScope where
  flags : FlagStack
  seen : List Seen

namespace FlagScope

def initial : FlagScope where
  flags := { own := false, callers := [] }
  seen := []

def step (state : FlagScope) : ScopeEvent → Option FlagScope
  | .newTx =>
    if state.flags.callers.isEmpty then some { state with flags := initial.flags } else none
  | .enterFrame => some { state with flags := state.flags.enter }
  | .exitFrame _ => state.flags.leave.map fun flags => { state with flags }
  | .answered => some state
  | .control call inputs =>
    if inputs.scheme.isIntercepted && inputs.targetAddress == accessControlAddress then
      let (result, flags) := state.flags.answer call inputs
      some { flags, seen := .reply result :: state.seen }
    else none
  | .access accessType =>
    some { state with seen := .read accessType (!state.flags.disabled) :: state.seen }

end FlagScope

/-! ### The outermost flag that is set -/

namespace FlagStack

/-- The depth of the outermost frame whose flag is set. -/
def outermostSet (flags : FlagStack) : Option Nat :=
  flags.scopes.findIdx? id

variable {own : Bool} {callers : List Bool}

theorem outermostSet_mk (own : Bool) (callers : List Bool) :
    outermostSet ⟨own, callers⟩ =
      (callers.reverse.findIdx? id).or (if own then some callers.length else none) := by
  rw [outermostSet, scopes, List.findIdx?_append, List.findIdx?_singleton, List.length_reverse]
  cases own
  · rfl
  · simp

theorem lt_of_outermost_caller {depth : Nat} (found : callers.reverse.findIdx? id = some depth) :
    depth < callers.length := by
  obtain ⟨bound, _⟩ := List.findIdx?_eq_some_iff_getElem.mp found
  rwa [List.length_reverse] at bound

theorem any_callers (callers : List Bool) :
    callers.any id = (callers.reverse.findIdx? id).isSome := by
  rw [List.findIdx?_isSome, List.any_reverse]

/-- The two ways a depth can be that of the outermost flag: no flag of a caller is set, or one is,
and then it is less deep than the running frame. -/
theorem callers_cases (callers : List Bool) :
    (callers.reverse.findIdx? id = none ∧ callers.any id = false) ∨
      ∃ depth, callers.reverse.findIdx? id = some depth ∧ callers.any id = true ∧
        depth < callers.length := by
  rw [any_callers]
  cases found : callers.reverse.findIdx? id with
  | none => exact .inl ⟨rfl, rfl⟩
  | some depth => exact .inr ⟨depth, rfl, rfl, lt_of_outermost_caller found⟩

end FlagStack

/-! ### The tracker follows the flags -/

open FlagStack

namespace VolatileDataAccessTracker

/-- The depth in the tracker is that of the outermost flag that is set. -/
def Follows (tracker : VolatileDataAccessTracker) (flags : FlagStack) : Prop :=
  tracker.disableDepth = flags.outermostSet

variable {tracker : VolatileDataAccessTracker} {flags : FlagStack} (follows : tracker.Follows flags)

include follows

theorem Follows.volatileAccessDisabled :
    tracker.volatileAccessDisabled flags.callers.length = flags.disabled := by
  obtain ⟨own, callers⟩ := flags
  rw [volatileAccessDisabled, follows, outermostSet_mk, disabled]
  obtain ⟨unset, none⟩ | ⟨depth, set, some, shallower⟩ := callers_cases callers
  · rw [unset, none]
    cases own <;> simp
  · rw [set, some]
    simp [Nat.le_of_lt shallower]

theorem Follows.disableAccess :
    (tracker.disableAccess flags.callers.length).Follows flags.disable := by
  obtain ⟨own, callers⟩ := flags
  rw [Follows, outermostSet_mk] at follows
  rw [Follows, disable, outermostSet_mk, disableAccess, follows]
  obtain ⟨unset, _⟩ | ⟨depth, set, _, shallower⟩ := callers_cases callers
  · rw [unset] at follows ⊢
    cases own
    · rfl
    · simpa using follows
  · rw [set] at follows ⊢
    simpa [Nat.le_of_lt shallower] using follows

theorem Follows.enableAccess :
    (tracker.enableAccess flags.callers.length).1 = flags.enable.1 ∧
      (tracker.enableAccess flags.callers.length).2.Follows flags.enable.2 := by
  obtain ⟨own, callers⟩ := flags
  have before := follows
  rw [Follows, outermostSet_mk] at follows
  rw [enable, enableAccess, follows]
  obtain ⟨unset, none⟩ | ⟨depth, set, some, shallower⟩ := callers_cases callers
  · rw [unset] at follows ⊢
    rw [none]
    cases own
    · exact ⟨rfl, before⟩
    · simp [Follows, outermostSet_mk, unset]
  · rw [set] at follows ⊢
    rw [some]
    simpa [Nat.not_le_of_lt shallower] using before

/-- While the running frame stays the same there is nothing to re-enable. -/
theorem Follows.enableAccessIfReturning :
    tracker.enableAccessIfReturning flags.callers.length = tracker := by
  obtain ⟨own, callers⟩ := flags
  rw [enableAccessIfReturning, follows, outermostSet_mk]
  refine if_neg ?_
  obtain ⟨unset, _⟩ | ⟨depth, set, _, shallower⟩ := callers_cases callers
  · rw [unset]
    cases own <;> simp
  · rw [set]
    simp [Nat.le_of_lt shallower]

omit follows

/-- When a frame returns its flag goes away with it. -/
theorem Follows.leave {own caller : Bool} {callers : List Bool}
    (follows : tracker.Follows ⟨own, caller :: callers⟩) :
    (tracker.enableAccessIfReturning callers.length).Follows ⟨caller, callers⟩ := by
  have outer := outermostSet_mk caller callers
  rw [Follows, outermostSet_mk, List.reverse_cons] at follows
  rw [outermostSet, scopes] at outer
  rw [outer] at follows
  rw [Follows, VolatileDataAccessTracker.enableAccessIfReturning, follows, outermostSet_mk]
  obtain ⟨unset, _⟩ | ⟨depth, set, _, shallower⟩ := callers_cases callers
  · rw [unset] at follows ⊢
    cases caller <;> cases own <;> simp_all
  · rw [set] at follows ⊢
    simpa [Nat.lt_asymm shallower] using follows

theorem Follows.enter (follows : tracker.Follows flags) : tracker.Follows flags.enter := by
  obtain ⟨own, callers⟩ := flags
  rw [Follows, enter, outermostSet_mk, List.reverse_cons, follows, outermostSet, scopes]
  exact (Option.or_none).symm

/-- The access is disabled for a frame if its flag is set, or that of a frame above it. -/
theorem Follows.disabled_iff (follows : tracker.Follows flags) (level : Nat) :
    tracker.volatileAccessDisabled level = true ↔
      ∃ frame ≤ level, flags.scopes[frame]? = some true := by
  rw [VolatileDataAccessTracker.volatileAccessDisabled, follows, Option.any_eq_true]
  constructor
  · rintro ⟨depth, found, below⟩
    obtain ⟨bound, set, _⟩ := List.findIdx?_eq_some_iff_getElem.mp found
    exact ⟨depth, of_decide_eq_true below, List.getElem?_eq_some_iff.mpr ⟨bound, set⟩⟩
  · rintro ⟨frame, below, set⟩
    obtain ⟨bound, isSet⟩ := List.getElem?_eq_some_iff.mp set
    have found : flags.scopes.findIdx? id ≠ none := fun unset =>
      Bool.false_ne_true ((List.findIdx?_eq_none_iff.mp unset _ (List.getElem_mem bound)).symm.trans
        isSet)
    obtain ⟨depth, outermost⟩ := Option.ne_none_iff_exists'.mp found
    obtain ⟨_, _, first⟩ := List.findIdx?_eq_some_iff_getElem.mp outermost
    refine ⟨depth, outermost, decide_eq_true ?_⟩
    exact (Nat.not_lt.mp fun deeper => first frame deeper isSet).trans below

end VolatileDataAccessTracker

namespace AccessScope

/-- The tracker follows the flags, the journal is as deep as the flags, and the same was seen. -/
structure Tracks (state : AccessScope) (model : FlagScope) : Prop where
  depth : state.depth = model.flags.callers.length
  follows : state.tracker.Follows model.flags
  seen : state.seen = model.seen

variable {spec : MegaSpecId} {state : AccessScope} {model : FlagScope}

theorem tracks_initial (blockEnvAccessLimit oracleAccessLimit : Nat) :
    (initial blockEnvAccessLimit oracleAccessLimit).Tracks .initial :=
  ⟨rfl, rfl, rfl⟩

theorem afterAnswer_eq {tracker : VolatileDataAccessTracker} {flags : FlagStack}
    (follows : tracker.Follows flags) :
    afterAnswer spec flags.callers.length tracker = tracker := by
  unfold afterAnswer frameReturnResult
  split_ifs
  · rfl
  · exact follows.enableAccessIfReturning
  · rfl

/-- The contract answers from the tracker what it answers from the flags. -/
theorem intercept_eq {tracker : VolatileDataAccessTracker} {flags : FlagStack}
    (follows : tracker.Follows flags) (call : AccessControlCall) {inputs : CallInputs}
    (target : inputs.targetAddress = accessControlAddress) :
    ∃ next, intercept tracker inputs (some call) flags.callers.length =
        some ((flags.answer call inputs).1, next) ∧
      next.Follows (flags.answer call inputs).2 ∧
      (flags.answer call inputs).2.callers = flags.callers := by
  have toContract : ¬inputs.targetAddress ≠ accessControlAddress := not_not_intro target
  unfold intercept answer
  rw [if_neg toContract]
  cases call with
  | disableVolatileDataAccess =>
    dsimp only
    rw [handleDisable]
    cases rejectNonZeroTransfer inputs with
    | some rejected => exact ⟨tracker, rfl, follows, rfl⟩
    | none => exact ⟨_, rfl, follows.disableAccess, rfl⟩
  | enableVolatileDataAccess =>
    dsimp only
    rw [handleEnable]
    cases rejectNonZeroTransfer inputs with
    | some rejected => exact ⟨tracker, rfl, follows, rfl⟩
    | none =>
      obtain ⟨succeeds, enabled⟩ := follows.enableAccess
      have callers : flags.enable.2.callers = flags.callers := by
        unfold enable
        split_ifs <;> rfl
      revert succeeds enabled callers
      generalize tracker.enableAccess flags.callers.length = answered
      generalize flags.enable = enables
      obtain ⟨ok, next⟩ := answered
      obtain ⟨modelOk, modelNext⟩ := enables
      intro succeeds enabled callers
      cases (succeeds : ok = modelOk)
      cases ok <;> exact ⟨next, rfl, enabled, callers⟩
  | isVolatileDataAccessDisabled =>
    dsimp only
    rw [handleIsDisabled]
    cases rejectNonZeroTransfer inputs with
    | some rejected => exact ⟨tracker, rfl, follows, rfl⟩
    | none => exact ⟨tracker, by rw [follows.volatileAccessDisabled], follows, rfl⟩

variable (rex4 : spec.isEnabled .rex4 = true)

include rex4

variable (tracks : state.Tracks model)

include tracks

/-- Every event is refused by both, or leads both to states that agree. -/
theorem tracks_step (event : ScopeEvent) :
    Option.Rel Tracks (state.step spec event) (model.step event) := by
  obtain ⟨tracker, depth, seen⟩ := state
  obtain ⟨flags, modelSeen⟩ := model
  obtain ⟨sameDepth, follows, sameSeen⟩ := tracks
  obtain rfl : depth = flags.callers.length := sameDepth
  obtain rfl : seen = modelSeen := sameSeen
  cases event with
  | newTx =>
    obtain ⟨own, callers⟩ := flags
    cases callers with
    | nil => exact .some ⟨rfl, rfl, rfl⟩
    | cons => exact .none
  | enterFrame => exact .some ⟨rfl, follows.enter, rfl⟩
  | exitFrame succeeded =>
    obtain ⟨own, callers⟩ := flags
    cases callers with
    | nil => exact .none
    | cons caller callers =>
      refine .some ⟨rfl, ?_, rfl⟩
      show (frameReturnResult spec callers.length tracker).Follows ⟨caller, callers⟩
      rw [frameReturnResult, if_pos rex4]
      exact follows.leave
  | answered =>
    refine .some ⟨rfl, ?_, rfl⟩
    show (afterAnswer spec flags.callers.length tracker).Follows flags
    rw [afterAnswer_eq follows]
    exact follows
  | control call inputs =>
    simp only [step, FlagScope.step, rex4, Bool.true_and]
    cases inputs.scheme.isIntercepted with
    | false => exact .none
    | true =>
      by_cases target : inputs.targetAddress = accessControlAddress
      · obtain ⟨next, answered, nextFollows, callers⟩ := intercept_eq follows call target
        rw [answered, beq_iff_eq.mpr target]
        refine .some ⟨congrArg List.length callers.symm, ?_, rfl⟩
        show (afterAnswer spec flags.callers.length next).Follows (flags.answer call inputs).2
        rw [← callers, afterAnswer_eq nextFollows]
        exact nextFollows
      · unfold intercept
        rw [if_pos target, beq_eq_false_iff_ne.mpr target]
        exact .none
  | access accessType =>
    simp only [step, FlagScope.step, follows.volatileAccessDisabled]
    cases flags.disabled with
    | true => exact .some ⟨rfl, follows, rfl⟩
    | false =>
      exact .some ⟨rfl, (tracker.disableDepth_markAccessed accessType).trans follows, rfl⟩

theorem tracks_run (events : List ScopeEvent) :
    Option.Rel Tracks (run (step spec) state events) (run FlagScope.step model events) :=
  run_rel (fun _ _ event tracks => tracks_step rex4 tracks event) tracks events

theorem exists_tracks_of_run {events : List ScopeEvent} {final : AccessScope}
    (ran : run (step spec) state events = some final) :
    ∃ modelFinal, run FlagScope.step model events = some modelFinal ∧
      final.Tracks modelFinal := by
  have related := tracks_run rex4 tracks events
  rw [ran] at related
  cases found : run FlagScope.step model events with
  | none =>
    rw [found] at related
    cases related
  | some modelFinal =>
    rw [found] at related
    cases related with
    | some holds => exact ⟨modelFinal, rfl, holds⟩

end AccessScope

/-! ### Calls -/

/-- What a frame does without entering another one. -/
def ScopeEvent.isLocal : ScopeEvent → Bool
  | .answered | .control _ _ | .access _ => true
  | .newTx | .enterFrame | .exitFrame _ => false

/-- The events of a frame and of all the frames it calls: each frame that is entered is left. -/
inductive Balanced : List ScopeEvent → Prop
  | nil : Balanced []
  | local {event : ScopeEvent} {rest : List ScopeEvent} (isLocal : event.isLocal = true)
      (balanced : Balanced rest) : Balanced (event :: rest)
  | call {body rest : List ScopeEvent} (succeeded : Bool) (inner : Balanced body)
      (balanced : Balanced rest) : Balanced (.enterFrame :: body ++ .exitFrame succeeded :: rest)

namespace FlagScope

variable {model final : FlagScope}

theorem callers_step_local {event : ScopeEvent} (isLocal : event.isLocal = true)
    (stepped : model.step event = some final) : final.flags.callers = model.flags.callers := by
  cases event with
  | newTx | enterFrame | exitFrame => cases isLocal
  | answered | access => exact congrArg (·.flags.callers) (Option.some.inj stepped).symm
  | control call inputs =>
    simp only [step] at stepped
    split_ifs at stepped
    rw [← Option.some.inj stepped]
    show (model.flags.answer call inputs).2.callers = _
    unfold answer enable
    cases rejectNonZeroTransfer inputs with
    | some rejected => rfl
    | none =>
      cases call with
      | enableVolatileDataAccess => cases model.flags.callers.any id <;> rfl
      | disableVolatileDataAccess | isVolatileDataAccessDisabled => rfl

/-- A call comes back to the flags it started from. -/
theorem flags_of_call {body : List ScopeEvent} {succeeded : Bool}
    (inner : ∀ {start finish : FlagScope}, run step start body = some finish →
      finish.flags.callers = start.flags.callers)
    (ran : run step model (.enterFrame :: body ++ [.exitFrame succeeded]) = some final) :
    final.flags = model.flags := by
  rw [List.cons_append] at ran
  obtain ⟨entered, enters, continued⟩ := run_cons_some ran
  rw [run_append, Option.bind_eq_some_iff] at continued
  obtain ⟨finished, ranBody, returned⟩ := continued
  obtain ⟨left, leaves, done⟩ := run_cons_some returned
  have callers := inner ranBody
  rw [← Option.some.inj enters] at callers
  have leaves : finished.flags.leave.map (fun flags => { finished with flags }) = some left :=
    leaves
  rw [leave, callers] at leaves
  rw [← Option.some.inj done, ← Option.some.inj leaves]

/-- Whatever the frames below do, the flags above stay. -/
theorem callers_run {events : List ScopeEvent} (balanced : Balanced events)
    (ran : run step model events = some final) : final.flags.callers = model.flags.callers := by
  induction balanced generalizing model final with
  | nil => rw [← Option.some.inj ran]
  | «local» isLocal _ remaining =>
    obtain ⟨next, stepped, continued⟩ := run_cons_some ran
    exact (remaining continued).trans (callers_step_local isLocal stepped)
  | @call body rest succeeded _ _ inner remaining =>
    have split : (.enterFrame :: body ++ .exitFrame succeeded :: rest : List ScopeEvent) =
        (.enterFrame :: body ++ [.exitFrame succeeded]) ++ rest := by simp
    rw [split, run_append, Option.bind_eq_some_iff] at ran
    obtain ⟨returned, called, continued⟩ := ran
    rw [remaining continued, flags_of_call inner called]

end FlagScope

namespace AccessScope

variable {spec : MegaSpecId}

/-- The single depth of the tracker behaves like one flag for each active frame. The frames see the
same, the access is disabled for a frame if it or a frame above it has its flag set, enabling it
fails if a frame above has its flag set, and a call leaves alone what its caller sees. -/
theorem access_scoped (rex4 : spec.isEnabled .rex4 = true)
    (blockEnvAccessLimit oracleAccessLimit : Nat) (events : List ScopeEvent) :
    (Library.run (step spec) (initial blockEnvAccessLimit oracleAccessLimit) events).map seen =
      (Library.run FlagScope.step .initial events).map FlagScope.seen ∧
    ∀ state,
      Library.run (step spec) (initial blockEnvAccessLimit oracleAccessLimit) events = some state →
      ∃ model, Library.run FlagScope.step .initial events = some model ∧
        state.depth = model.flags.callers.length ∧
        (∀ level ≤ state.depth, state.tracker.volatileAccessDisabled level = true ↔
          ∃ frame ≤ level, model.flags.scopes[frame]? = some true) ∧
        ((state.tracker.enableAccess state.depth).1 = false ↔ true ∈ model.flags.callers) ∧
        (∀ (body : List ScopeEvent) (succeeded : Bool) (final : AccessScope), Balanced body →
          Library.run (step spec) state (.enterFrame :: body ++ [.exitFrame succeeded]) =
            some final →
          final.depth = state.depth ∧ final.tracker.disableDepth = state.tracker.disableDepth) ∧
        ∀ next, step spec state .answered = some next →
          next.depth = state.depth ∧ next.tracker.disableDepth = state.tracker.disableDepth := by
  have starts := tracks_initial blockEnvAccessLimit oracleAccessLimit
  constructor
  · have related := tracks_run rex4 starts events
    revert related
    generalize run (step spec) _ events = reached
    generalize run FlagScope.step _ events = modelReached
    intro related
    cases related with
    | none => rfl
    | some tracks => exact congrArg some tracks.seen
  · intro state ran
    obtain ⟨model, modelRan, tracks⟩ := exists_tracks_of_run rex4 starts ran
    refine ⟨model, modelRan, tracks.depth, fun level _ => tracks.follows.disabled_iff level,
      ?_, ?_, ?_⟩
    · rw [tracks.depth, tracks.follows.enableAccess.1, enable]
      cases any : model.flags.callers.any id <;> simp_all
    · intro body succeeded final balanced called
      obtain ⟨modelFinal, modelCalled, finalTracks⟩ := exists_tracks_of_run rex4 tracks called
      have flags := FlagScope.flags_of_call (FlagScope.callers_run balanced) modelCalled
      have finalDepth := finalTracks.depth
      have finalFollows := finalTracks.follows
      rw [flags] at finalDepth finalFollows
      exact ⟨finalDepth.trans tracks.depth.symm, finalFollows.trans tracks.follows.symm⟩
    · intro next answered
      rw [← Option.some.inj answered]
      refine ⟨rfl, ?_⟩
      show (afterAnswer spec state.depth state.tracker).disableDepth = _
      rw [tracks.depth, afterAnswer_eq tracks.follows]

/-- A call of the access control contract by a contract. -/
def controlInputs : CallInputs where
  caller := 2
  targetAddress := accessControlAddress
  value := .transfer 0
  scheme := .call
  gasLimit := 5000

/-- A frame disables the access and calls another one, which tries to enable it and to read. -/
def disabledRun : List ScopeEvent :=
  [.enterFrame, .control .disableVolatileDataAccess controlInputs, .enterFrame,
    .control .enableVolatileDataAccess controlInputs, .access .timestamp]

/-- The inner frame cannot enable the access, and what the frames it calls disable ends with
them. -/
theorem access_scoped_nested :
    ∃ state, Library.run (step .rex4) (initial 20000000 20000000) disabledRun = some state ∧
      (state.tracker.enableAccess state.depth).1 = false ∧
      ∀ final, Library.run (step .rex4) state
          [.enterFrame, .control .disableVolatileDataAccess controlInputs, .exitFrame false] =
            some final →
        final.depth = 2 ∧ final.tracker.disableDepth = some 1 := by
  refine ⟨_, rfl, rfl, fun final called => ?_⟩
  obtain ⟨_, _, _, _, _, returns, _⟩ :=
    (@access_scoped .rex4 rfl 20000000 20000000 disabledRun).2 _ rfl
  exact returns [.control .disableVolatileDataAccess controlInputs] false final
    (.local rfl .nil) called

end AccessScope

end MegaEvm
