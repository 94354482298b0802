/-
This file develops saturating counters. A counter that adds up amounts and stops at
the largest value it can hold is the smaller of that value and the exact sum, so
comparing it with a limit that it can hold compares the sum. The file also has the
rule for a list that only ever grew at its end while some condition held of it: the
condition holds of everything before each of its elements.
-/

import Mathlib.Algebra.BigOperators.Group.List.Basic
import Mathlib.Algebra.Order.Ring.Nat

namespace MegaEvm.Library

variable {ceiling limit : Nat}

/-! ### Saturating counters -/

/-- Addition that stops at the largest value. -/
def saturatingAdd (ceiling left right : Nat) : Nat :=
  min (left + right) ceiling

/-- A counter after some amounts. -/
def tally (ceiling : Nat) (amounts : List Nat) : Nat :=
  min amounts.sum ceiling

@[simp] theorem tally_nil : tally ceiling [] = 0 :=
  Nat.zero_min ceiling

theorem saturatingAdd_tally (amounts : List Nat) (amount : Nat) :
    saturatingAdd ceiling (tally ceiling amounts) amount =
      tally ceiling (amounts ++ [amount]) := by
  unfold saturatingAdd tally
  rw [List.sum_append_nat, List.sum_singleton]
  omega

/-- An addition that stays below the largest value is exact. -/
theorem saturatingAdd_le_iff (below : limit < ceiling) (left right : Nat) :
    saturatingAdd ceiling left right ≤ limit ↔ left + right ≤ limit := by
  unfold saturatingAdd
  omega

theorem tally_lt_iff (below : limit < ceiling) (amounts : List Nat) :
    tally ceiling amounts < limit ↔ amounts.sum < limit := by
  unfold tally
  omega

theorem tally_eq_sum {amounts : List Nat} (below : amounts.sum ≤ ceiling) :
    tally ceiling amounts = amounts.sum :=
  Nat.min_eq_left below

/-! ### Lists that grew at their end -/

variable {Item : Type}

/-- The condition holds of what stands before each item. -/
def BeforeEach (condition : List Item → Prop) (items : List Item) : Prop :=
  ∀ before item after, items = before ++ item :: after → condition before

theorem beforeEach_nil (condition : List Item → Prop) : BeforeEach condition [] := by
  intro before item after split
  exact absurd split.symm (by simp)

/-- A list that met the condition may grow by one. -/
theorem BeforeEach.concat {condition : List Item → Prop} {items : List Item}
    (earlier : BeforeEach condition items) (now : condition items) (item : Item) :
    BeforeEach condition (items ++ [item]) := by
  intro before last after split
  rcases List.eq_nil_or_concat after with rfl | ⟨rest, final, rfl⟩
  · obtain ⟨rfl, _⟩ := List.append_inj' split rfl
    exact now
  · refine earlier before last rest ?_
    have moved : items ++ [item] = (before ++ last :: rest) ++ [final] := by
      rw [split]
      simp
    exact (List.append_inj' moved rfl).1

end MegaEvm.Library
