/-
This file defines the specifications of the execution layer, ordered by their
activation. A specification enables every one before it, and each behaviour of the
code is gated on the specification that introduced it. It also fixes the few number
types the rest of the development shares.
-/

import Mathlib.Algebra.Order.Ring.Nat

namespace MegaEvm

/-- The specifications, oldest first. -/
inductive MegaSpecId
  | equivalence
  | miniRex
  | rex
  | rex1
  | rex2
  | rex3
  | rex4
  | rex5
  | rex6
deriving DecidableEq

namespace MegaSpecId

/-- The position of a specification in the activation order. -/
def rank : MegaSpecId → Nat
  | equivalence => 0
  | miniRex => 1
  | rex => 2
  | rex1 => 3
  | rex2 => 4
  | rex3 => 5
  | rex4 => 6
  | rex5 => 7
  | rex6 => 8

/-- `spec` has the behaviour that `other` introduced. -/
def isEnabled (spec other : MegaSpecId) : Bool :=
  decide (other.rank ≤ spec.rank)

variable {spec : MegaSpecId}

theorem isEnabled_mono {first second : MegaSpecId} (order : first.rank ≤ second.rank)
    (enabled : spec.isEnabled second = true) : spec.isEnabled first = true := by
  rw [isEnabled, decide_eq_true_iff] at enabled ⊢
  exact Nat.le_trans order enabled

theorem rex4_of_rex5 (enabled : spec.isEnabled rex5 = true) : spec.isEnabled rex4 = true :=
  isEnabled_mono (by decide) enabled

theorem rex5_of_rex6 (enabled : spec.isEnabled rex6 = true) : spec.isEnabled rex5 = true :=
  isEnabled_mono (by decide) enabled

theorem rex4_of_rex6 (enabled : spec.isEnabled rex6 = true) : spec.isEnabled rex4 = true :=
  rex4_of_rex5 (rex5_of_rex6 enabled)

end MegaSpecId

/-- The largest value of the counters of the source. -/
def u64Max : Nat := 2 ^ 64 - 1

/-- A `u64` after an operation that wraps. -/
def u64Wrap (value : Nat) : Nat :=
  value % (u64Max + 1)

theorem u64Wrap_of_le {value : Nat} (fits : value ≤ u64Max) : u64Wrap value = value :=
  Nat.mod_eq_of_lt (Nat.lt_succ_of_le fits)

/-- Account addresses, as numbers. -/
abbrev Address := Nat

/-- The 256-bit words that storage keys, storage values and balances are. -/
abbrev U256 := Nat

end MegaEvm
