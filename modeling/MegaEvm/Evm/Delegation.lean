/-
This file models how the host resolves an EIP-7702 delegation. From Rex4 on it follows
one delegation. Before, it follows the chain of delegations, and a list of the visited
accounts keeps it from going round a cycle. An account is put on that list one step
late, after its delegate was looked up, so an account that delegates to itself is
inspected a second time; it is shown that nothing worse happens.
-/

import Mathlib.Data.Finset.Card
import Mathlib.Logic.Relation
import MegaEvm.Sandbox.MergeOrder

namespace MegaEvm

/-! ### Following a partial function -/

section Follows

variable {Node : Type} {next : Node → Option Node}

/-- From `first` one comes to `last`, in any number of steps. -/
def Follows (next : Node → Option Node) (first last : Node) : Prop :=
  Relation.ReflTransGen (fun node following => next node = some following) first last

/-- A step is determined by where it starts, so of two nodes one comes to, one comes first. -/
theorem Follows.total {start first last : Node} (toFirst : Follows next start first)
    (toLast : Follows next start last) : Follows next first last ∨ Follows next last first :=
  Relation.ReflTransGen.total_of_right_unique
    (fun _ _ _ left right => Option.some.inj (left.symm.trans right)) toFirst toLast

theorem Follows.eq_of_end {first last : Node} (isEnd : next first = none)
    (follows : Follows next first last) : first = last := by
  rcases follows.cases_head with same | ⟨_, step, _⟩
  · exact same
  · cases isEnd.symm.trans step

/-- From a node on a cycle one only comes to nodes on the cycle. -/
theorem Follows.comesBack {first following last : Node} (isNext : next first = some following)
    (closes : Follows next following first) (follows : Follows next first last) :
    Follows next last first := by
  induction follows with
  | refl => exact .refl
  | tail _ step inductionHypothesis =>
    rcases inductionHypothesis.cases_head with isFirst | ⟨other, otherStep, comesBack⟩
    · subst isFirst
      cases step.symm.trans isNext
      exact closes
    · cases step.symm.trans otherStep
      exact comesBack

/-- A chain that comes to a cycle has no end. -/
theorem Follows.endless {start first following last : Node} (isNext : next first = some following)
    (closes : Follows next following first) (onChain : Follows next start first)
    (follows : Follows next start last) : next last ≠ none := by
  intro isEnd
  have comesBack : Follows next last first :=
    (onChain.total follows).elim (comesBack isNext closes) id
  cases comesBack.eq_of_end isEnd
  cases isEnd.symm.trans isNext

end Follows

/-! ### The resolution -/

/-- What resolving a delegation gives: the journal, the accounts that were inspected, newest
first, and the account that is returned if the database answered. -/
structure Resolution where
  journal : Journal
  inspected : List Address
  returned : Option Address

namespace Journal

/-- The loop before Rex4, at the account `current`. The accounts inspected before are counted
along, with nothing depending on them. -/
def followDelegations : Nat → Journal → List Address → List Address → Address → Option Resolution
  | 0, _, _, _, _ => none
  | fuel + 1, journal, inspected, visited, current =>
    match journal.inspectAccount current false with
    | (journal, none) => some ⟨journal, current :: inspected, none⟩
    | (journal, some account) =>
      match account.delegate with
      -- End of the chain.
      | none => some ⟨journal, current :: inspected, some current⟩
      | some next =>
        -- Cycle detected.
        if next ∈ visited then some ⟨journal, current :: inspected, some current⟩
        else journal.followDelegations fuel (current :: inspected) (current :: visited) next

def inspectAccountDelegated (journal : Journal) (spec : MegaSpecId) (address : Address)
    (fuel : Nat) : Option Resolution :=
  let isRex5Enabled := spec.isEnabled .rex5
  match journal.inspectAccount address isRex5Enabled with
  | (journal, none) => some ⟨journal, [address], none⟩
  | (journal, some account) =>
    match account.delegate with
    | none => some ⟨journal, [address], some address⟩
    | some delegated =>
      if spec.isEnabled .rex4 then
        match journal.inspectAccount delegated isRex5Enabled with
        | (journal, none) => some ⟨journal, [delegated, address], none⟩
        | (journal, some _) => some ⟨journal, [delegated, address], some delegated⟩
      else journal.followDelegations fuel [address] [address] delegated

/-- The delegation graph, as an inspection without the code sees it. -/
def delegation (journal : Journal) (address : Address) : Option Address :=
  (journal.inspected address).delegate

/-- Inspecting an account that delegates leaves the graph as it is. Its code is loaded, so a
second inspection gives the same account. -/
theorem delegation_afterInspection {journal : Journal} {address delegated : Address}
    (delegates : journal.delegation address = some delegated) :
    (journal.afterInspection address).delegation = journal.delegation := by
  funext other
  unfold delegation inspected afterInspection setAccount
  dsimp only
  by_cases same : other = address
  · subst same
    rw [Function.update_self]
    refine congrArg Account.delegate (if_neg ?_)
    rintro ⟨-, lazy⟩
    unfold delegation Account.delegate at delegates
    rw [lazy] at delegates
    cases delegates
  · rw [Function.update_of_ne same]

/-- The account returned for `start`, in a graph that is `next`. -/
structure Resolved (next : Address → Option Address) (start : Address) (visited : List Address)
    (returned : Address) : Prop where
  onChain : Follows next start returned
  /-- The end of a chain that has one. -/
  last : ∀ last, Follows next start last → next last = none → returned = last
  /-- A chain without end has come to a cycle. -/
  cycle : (∀ last, Follows next start last → next last ≠ none) →
    ∃ delegate ∈ visited, next returned = some delegate ∧ Follows next delegate returned

/-- No account is inspected more than twice. If no account is returned the database has failed. -/
structure Resolves (database : Database) (next : Address → Option Address) (start : Address)
    (resolution : Resolution) : Prop where
  inspected_le : ∀ address, resolution.inspected.count address ≤ 2
  failed : resolution.returned = none → ∃ number, database.failing number = true
  resolved : ∀ returned, resolution.returned = some returned →
    Resolved next start resolution.inspected.tail returned

/-- Where the loop is: every visited account leads to `current`. -/
structure Chasing (next : Address → Option Address) (start : Address) (visited : List Address)
    (current : Address) : Prop where
  nodup : visited.Nodup
  leads : ∀ address ∈ visited, Follows next address current
  onChain : Follows next start current
  /-- Only an account that delegates to itself comes up again. -/
  again : current ∈ visited → ∃ delegate ∈ visited, next current = some delegate

namespace Chasing

variable {next : Address → Option Address} {start current : Address} {visited : List Address}
  (chasing : Chasing next start visited current)

include chasing

/-- The loop goes on. -/
theorem step {delegate : Address} (delegates : next current = some delegate)
    (unseen : delegate ∉ visited) :
    current ∉ visited ∧ Chasing next start (current :: visited) delegate := by
  have fresh : current ∉ visited := by
    intro seen
    obtain ⟨other, visitedOther, isOther⟩ := chasing.again seen
    cases delegates.symm.trans isOther
    exact unseen visitedOther
  refine ⟨fresh, List.nodup_cons.mpr ⟨fresh, chasing.nodup⟩, ?_, chasing.onChain.tail delegates, ?_⟩
  · rintro address (_ | ⟨_, seen⟩)
    · exact .single delegates
    · exact (chasing.leads address seen).tail delegates
  · rintro (_ | ⟨_, seen⟩)
    · exact ⟨_, List.mem_cons_self, delegates⟩
    · exact absurd seen unseen

theorem resolved_end (isEnd : next current = none) : Resolved next start visited current where
  onChain := chasing.onChain
  last last follows isLast := by
    rcases chasing.onChain.total follows with forth | back
    · exact forth.eq_of_end isEnd
    · exact (back.eq_of_end isLast).symm
  cycle endless := absurd isEnd (endless current chasing.onChain)

theorem resolved_cycle {delegate : Address} (delegates : next current = some delegate)
    (seen : delegate ∈ visited) :
    Resolved next start visited current where
  onChain := chasing.onChain
  last _ follows isLast :=
    absurd isLast (Follows.endless delegates (chasing.leads delegate seen) chasing.onChain follows)
  cycle _ := ⟨delegate, seen, delegates, chasing.leads delegate seen⟩

theorem resolves {database : Database} {journal : Journal} {returned : Option Address}
    (failed : returned = none → ∃ number, database.failing number = true)
    (resolved : ∀ address, returned = some address → Resolved next start visited address) :
    Resolves database next start ⟨journal, current :: visited, returned⟩ where
  inspected_le address := by
    have once : visited.count address ≤ 1 :=
      List.nodup_iff_count_le_one.mp chasing.nodup address
    rw [List.count_cons]
    split <;> omega
  failed := failed
  resolved := resolved

end Chasing

/-- An inspection goes through, or the database has failed. -/
theorem inspectAccount_or (journal : Journal) (address : Address) :
    journal.inspectAccount address false =
        (journal.afterInspection address, some (journal.inspected address)) ∨
      (∃ read, journal.inspectAccount address false = (read, none)) ∧
        ∃ number, journal.database.failing number = true := by
  by_cases answers : journal.Answers (journal.inspectionQueries address)
  · exact .inl (journal.inspectAccount_of_answers address answers)
  · have failed := journal.inspectAccount_of_fails address answers
    unfold Answers at answers
    push Not at answers
    obtain ⟨number, _, fails⟩ := answers
    exact .inr ⟨⟨_, Prod.ext rfl failed⟩, _, Bool.eq_true_of_not_eq_false fails⟩

/-- The loop ends within as many rounds as there are accounts it can still visit, and resolves the
chain. -/
theorem followDelegations_resolves {accounts : Finset Address} {start : Address} (fuel : Nat) :
    ∀ {journal : Journal} {visited : List Address} {current : Address},
      (∀ address, journal.delegation address ≠ none → address ∈ accounts) →
      Chasing journal.delegation start visited current →
      (accounts \ visited.toFinset).card < fuel →
      ∃ resolution, journal.followDelegations fuel visited visited current = some resolution ∧
        Resolves journal.database journal.delegation start resolution := by
  induction fuel with
  | zero => exact fun _ _ fits => absurd fits (Nat.not_lt_zero _)
  | succ fuel inductionHypothesis =>
    intro journal visited current finite chasing fits
    have returns (after : Journal) (resolved : Resolved journal.delegation start visited current) :
        Resolves journal.database journal.delegation start
          ⟨after, current :: visited, some current⟩ :=
      chasing.resolves nofun (fun _ isCurrent => Option.some.inj isCurrent ▸ resolved)
    unfold followDelegations
    rcases journal.inspectAccount_or current with inspects | ⟨⟨read, fails⟩, failed⟩
    · rw [inspects]
      dsimp only
      cases delegates : (journal.inspected current).delegate with
      | none => exact ⟨_, rfl, returns _ (chasing.resolved_end delegates)⟩
      | some delegate =>
        dsimp only
        by_cases seen : delegate ∈ visited
        · rw [if_pos seen]
          exact ⟨_, rfl, returns _ (chasing.resolved_cycle delegates seen)⟩
        · rw [if_neg seen, ← delegation_afterInspection delegates]
          obtain ⟨fresh, chasingOn⟩ := chasing.step delegates seen
          have isAccount := finite current (fun isNone => nomatch isNone.symm.trans delegates)
          have unvisited : current ∈ accounts \ visited.toFinset := by
            rw [Finset.mem_sdiff, List.mem_toFinset]
            exact ⟨isAccount, fresh⟩
          have fewer := Finset.card_erase_lt_of_mem unvisited
          rw [← Finset.sdiff_insert, ← List.toFinset_cons] at fewer
          rw [← delegation_afterInspection delegates] at finite chasingOn
          exact inductionHypothesis finite chasingOn (by omega)
    · rw [fails]
      exact ⟨_, rfl, chasing.resolves (fun _ => failed) nofun⟩

/-- Before Rex4 the first inspection is a round of the loop like the others. -/
theorem inspectAccountDelegated_eq {spec : MegaSpecId} (beforeRex4 : spec.isEnabled .rex4 = false)
    (journal : Journal) (start : Address) (fuel : Nat) :
    journal.inspectAccountDelegated spec start fuel =
      journal.followDelegations (fuel + 1) [] [] start := by
  have beforeRex5 : spec.isEnabled .rex5 = false := by
    by_contra enabled
    rw [MegaSpecId.rex4_of_rex5 (Bool.eq_true_of_not_eq_false enabled)] at beforeRex4
    cases beforeRex4
  unfold inspectAccountDelegated
  rw [beforeRex4, beforeRex5]
  conv_rhs => unfold followDelegations
  dsimp only
  rcases journal.inspectAccount start false with ⟨read, _ | account⟩
  · rfl
  · dsimp only
    cases account.delegate with
    | none => rfl
    | some delegated => exact (if_neg List.not_mem_nil).symm

/-- Before Rex4 every chain of delegations among finitely many accounts is resolved: no account is
inspected more than twice, and the end of the chain is returned, or an account on its cycle. -/
theorem inspectAccountDelegated_resolves {spec : MegaSpecId}
    (beforeRex4 : spec.isEnabled .rex4 = false) {journal : Journal} {accounts : Finset Address}
    (finite : ∀ address, journal.delegation address ≠ none → address ∈ accounts)
    (start : Address) {fuel : Nat} (fits : accounts.card ≤ fuel) :
    ∃ resolution, journal.inspectAccountDelegated spec start fuel = some resolution ∧
      Resolves journal.database journal.delegation start resolution := by
  rw [inspectAccountDelegated_eq beforeRex4]
  refine followDelegations_resolves _ finite ⟨.nil, nofun, .refl, nofun⟩ ?_
  rw [List.toFinset_nil, Finset.sdiff_empty]
  omega

/-- Account 1 delegates to 2, and 2 and 3 delegate to each other. -/
def delegationCycle : Journal :=
  .new { Database.empty with
    basic := fun address =>
      if address ∈ [1, 2, 3] then
        some { AccountInfo.default with code := some (.eip7702 (if address = 2 then 3 else 2)) }
      else none }

theorem inspectAccountDelegated_cycle : ∃ resolution,
    delegationCycle.inspectAccountDelegated .rex3 1 3 = some resolution ∧
      resolution.returned = some 3 ∧
      Resolves delegationCycle.database delegationCycle.delegation 1 resolution := by
  have finite (address : Address) (delegates : delegationCycle.delegation address ≠ none) :
      address ∈ ({1, 2, 3} : Finset Address) := by
    by_contra outside
    have absent : delegationCycle.database.basic address = none :=
      if_neg (fun listed => outside (by simpa using listed))
    refine delegates ?_
    show (delegationCycle.database.account address).delegate = none
    rw [Database.account, absent]
    rfl
  obtain ⟨resolution, resolves, resolved⟩ :=
    @inspectAccountDelegated_resolves .rex3 rfl _ _ finite 1 3 le_rfl
  refine ⟨resolution, resolves, ?_, resolved⟩
  exact Option.some.inj (congrArg (Option.map Resolution.returned) resolves.symm)

end Journal

end MegaEvm
