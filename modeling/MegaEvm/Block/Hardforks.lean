/-
This file models the hardforks of a chain and the parameters two of them carry for the
registry. A hardfork is active from its timestamp on; the specification of a block is
that of the newest active one.
-/

import MegaEvm.Spec

namespace MegaEvm

inductive MegaHardfork
  | miniRex
  | miniRex1
  | miniRex2
  | rex
  | rex1
  | rex2
  | rex3
  | rex4
  | rex5
  | rex6
deriving DecidableEq

/-- The specification of a hardfork. The two patches of the first one went back to released
specifications. -/
def MegaHardfork.specId : MegaHardfork → MegaSpecId
  | miniRex => .miniRex
  | miniRex1 => .equivalence
  | miniRex2 => .miniRex
  | rex => .rex
  | rex1 => .rex1
  | rex2 => .rex2
  | rex3 => .rex3
  | rex4 => .rex4
  | rex5 => .rex5
  | rex6 => .rex6

/-- What seeds the registry when Rex5 activates. It is validated when the configuration is
loaded. -/
structure SequencerRegistryConfig where
  rex5InitialSequencer : Address
  rex5InitialAdmin : Address
  sequencer_ne : rex5InitialSequencer ≠ 0
  admin_ne : rex5InitialAdmin ≠ 0
  sequencer_lt : rex5InitialSequencer < 2 ^ 160
  admin_lt : rex5InitialAdmin < 2 ^ 160

/-- What Rex6 adds to the registry. -/
structure SequencerRegistryRex6Config where
  rex6MinRotationDelay : Nat
  delay_ne : rex6MinRotationDelay ≠ 0
  delay_lt : rex6MinRotationDelay < 2 ^ 64

/-- The hardforks of a chain: the timestamp from which each is active, if there is one, and the
parameters. -/
structure MegaHardforks where
  activation : MegaHardfork → Option Nat
  sequencerRegistryConfig : Option SequencerRegistryConfig
  sequencerRegistryRex6Config : Option SequencerRegistryRex6Config

namespace MegaHardforks

variable (hardforks : MegaHardforks)

def isActiveAtTimestamp (fork : MegaHardfork) (timestamp : Nat) : Bool :=
  (hardforks.activation fork).any (· ≤ timestamp)

def isRex5ActiveAtTimestamp (timestamp : Nat) : Bool :=
  hardforks.isActiveAtTimestamp .rex5 timestamp

def isRex6ActiveAtTimestamp (timestamp : Nat) : Bool :=
  hardforks.isActiveAtTimestamp .rex6 timestamp

/-- The newest active hardfork. -/
def hardfork (timestamp : Nat) : Option MegaHardfork :=
  [.rex6, .rex5, .rex4, .rex3, .rex2, .rex1, .rex, .miniRex2, .miniRex1, .miniRex].find?
    fun fork => hardforks.isActiveAtTimestamp fork timestamp

/-- The specification of a block. -/
def specId (timestamp : Nat) : MegaSpecId :=
  ((hardforks.hardfork timestamp).map MegaHardfork.specId).getD .equivalence

/-- An active hardfork stays active. -/
theorem isActiveAtTimestamp_mono {fork : MegaHardfork} {timestamp later : Nat}
    (order : timestamp ≤ later) (active : hardforks.isActiveAtTimestamp fork timestamp = true) :
    hardforks.isActiveAtTimestamp fork later = true := by
  rw [isActiveAtTimestamp, Option.any_eq_true] at active ⊢
  obtain ⟨time, found, reached⟩ := active
  exact ⟨time, found, decide_eq_true (Nat.le_trans (of_decide_eq_true reached) order)⟩

/-- With Rex5 active, the specification is that of Rex6 or Rex5. -/
theorem specId_eq {timestamp : Nat} (rex5 : hardforks.isRex5ActiveAtTimestamp timestamp = true) :
    hardforks.specId timestamp =
      if hardforks.isRex6ActiveAtTimestamp timestamp then .rex6 else .rex5 := by
  rw [isRex5ActiveAtTimestamp] at rex5
  rw [isRex6ActiveAtTimestamp, specId, hardfork]
  by_cases rex6 : hardforks.isActiveAtTimestamp .rex6 timestamp = true
  · simp [rex6, MegaHardfork.specId]
  · simp [rex6, rex5, MegaHardfork.specId]

end MegaHardforks

end MegaEvm
