/-
This file proves what the calls of the registry keep. The history of a role is read as
a timeline, and the historical getter as its lookup. Between two blocks every pending
change lies in the future, the current holder is the latest of the timeline, and no
change is later than the block. Scheduling keeps this, applying does nothing within a
block, and at the next block it appends exactly the changes whose block has come.
-/

import MegaEvm.Library.Fallible
import MegaEvm.Library.Timeline
import MegaEvm.Registry.Contract

namespace MegaEvm

open RegistryStorage Role Library.Timeline Library

/-! ### Slots of a role -/

namespace Role

/-- The flat slots of a role. -/
def flatSlots (role : Role) : List U256 :=
  [role.currentSlot, role.initialSlot, role.pendingSlot, role.activationSlot, role.historySlot]

/-- A slot of the role. No history grows longer than the block number. -/
def Owns (role : Role) (slot : U256) : Prop :=
  slot ∈ role.flatSlots ∨ ∃ index < 2 ^ 64, slot = role.elementSlot index

variable {index : Nat}

theorem elementSlot_eq (role : Role) (short : index < 2 ^ 64) :
    role.elementSlot index = role.historyBase + index := by
  refine Nat.mod_eq_of_lt ?_
  cases role <;> simp only [historyBase] <;> omega

theorem historyBase_gt (role : Role) : 13 < role.historyBase := by
  cases role <;> decide

theorem elementSlot_gt (role : Role) (short : index < 2 ^ 64) : 13 < role.elementSlot index := by
  rw [elementSlot_eq role short]
  exact Nat.lt_of_lt_of_le role.historyBase_gt (Nat.le_add_right _ _)

theorem elementSlot_injective (role : Role) {first second : Nat} (shortFirst : first < 2 ^ 64)
    (shortSecond : second < 2 ^ 64)
    (same : role.elementSlot first = role.elementSlot second) : first = second := by
  rw [elementSlot_eq role shortFirst, elementSlot_eq role shortSecond] at same
  exact Nat.add_left_cancel same

variable {role other : Role}

theorem elementSlot_ne (distinct : role ≠ other) {first second : Nat} (shortFirst : first < 2 ^ 64)
    (shortSecond : second < 2 ^ 64) : role.elementSlot first ≠ other.elementSlot second := by
  have apart : ∀ {first second : Nat}, first < 2 ^ 64 →
      systemAddress.historyBase + first < sequencer.historyBase + second := by
    intro first second short
    calc systemAddress.historyBase + first < systemAddress.historyBase + 2 ^ 64 :=
          Nat.add_lt_add_left short _
      _ ≤ sequencer.historyBase := by decide
      _ ≤ sequencer.historyBase + second := Nat.le_add_right _ _
  rw [elementSlot_eq role shortFirst, elementSlot_eq other shortSecond]
  cases role <;> cases other
  · exact absurd rfl distinct
  · exact Nat.ne_of_lt (apart shortFirst)
  · exact Nat.ne_of_gt (apart shortSecond)
  · exact absurd rfl distinct

theorem flatSlots_le (role : Role) : ∀ slot ∈ role.flatSlots, slot ≤ 13 := by
  cases role <;> decide

theorem flatSlots_disjoint (distinct : role ≠ other) :
    ∀ slot ∈ role.flatSlots, slot ∉ other.flatSlots := by
  revert distinct
  cases role <;> cases other <;> decide

variable {slot : U256}

/-- The roles share no slot. -/
theorem Owns.disjoint (distinct : role ≠ other) (owned : role.Owns slot) : ¬ other.Owns slot := by
  rintro (flat | ⟨index, short, rfl⟩)
  · rcases owned with own | ⟨index, short, rfl⟩
    · exact flatSlots_disjoint distinct slot own flat
    · exact Nat.not_lt.mpr (other.flatSlots_le _ flat) (role.elementSlot_gt short)
  · rcases owned with own | ⟨otherIndex, otherShort, same⟩
    · exact Nat.not_lt.mpr (role.flatSlots_le _ own) (other.elementSlot_gt short)
    · exact elementSlot_ne distinct otherShort short same.symm

/-- The slots that belong to no role. -/
def sharedSlots : List U256 :=
  [adminSlot, pendingAdminSlot, initialFromBlockSlot, minRotationDelaySlot]

theorem not_owns_shared (role : Role) (shared : slot ∈ sharedSlots) : ¬ role.Owns slot := by
  have flatApart : ∀ slot ∈ sharedSlots, slot ∉ role.flatSlots := by
    cases role <;> decide
  have small : ∀ slot ∈ sharedSlots, slot ≤ 13 := by decide
  rintro (flat | ⟨index, short, rfl⟩)
  · exact flatApart slot shared flat
  · exact Nat.not_lt.mpr (small _ shared) (role.elementSlot_gt short)

theorem owns_flat (flat : slot ∈ role.flatSlots) : role.Owns slot :=
  Or.inl flat

theorem owns_element (role : Role) (short : index < 2 ^ 64) : role.Owns (role.elementSlot index) :=
  Or.inr ⟨index, short, rfl⟩

end Role

namespace RegistryStorage

variable (storage : RegistryStorage) {slot : U256}

/-- In a slot that holds nothing but an address, the address is the word. -/
theorem address_of_lt (typed : storage slot < 2 ^ 160) : storage.address slot = storage slot :=
  Nat.mod_eq_of_lt typed

theorem writeAddress_same (holder : Address) (typed : storage slot < 2 ^ 160) :
    storage.writeAddress slot holder slot = holder := by
  rw [writeAddress, write_same, Nat.div_eq_of_lt typed, Nat.zero_mul, Nat.zero_add]

theorem writeAddress_other {other : U256} (holder : Address) (distinct : other ≠ slot) :
    storage.writeAddress slot holder other = storage other :=
  storage.write_other _ distinct

end RegistryStorage

/-! ### Timelines -/

/-- The elements of a history below an index, newest first. -/
def changesBelow (role : Role) (storage : RegistryStorage) : Nat → List (Nat × Address)
  | 0 => []
  | index + 1 => changeRecord role storage index :: changesBelow role storage index

/-- The timeline a role went through. -/
def timeline (role : Role) (storage : RegistryStorage) : Library.Timeline Address where
  initial := storage.address role.initialSlot
  changes := changesBelow role storage (storage role.historySlot)

/-- The loop of the getter looks up the timeline. -/
theorem scanHistory_eq (role : Role) (storage : RegistryStorage) (blockNumber : U256)
    (length : Nat) :
    scanHistory role storage blockNumber length =
      valueAt
        ⟨storage.address role.initialSlot, changesBelow role storage length⟩ blockNumber := by
  induction length with
  | zero => rfl
  | succ index inductionHypothesis =>
    by_cases reached : (changeRecord role storage index).1 ≤ blockNumber
    · simp [scanHistory, changesBelow, valueAt, reached]
    · rw [scanHistory, if_neg reached, inductionHypothesis]
      simp [changesBelow, valueAt, reached]

/-- The getter answers from the timeline for the blocks it covers. -/
theorem roleAt_eq (role : Role) (storage : RegistryStorage) (message : Message)
    {blockNumber : U256} (covered : storage initialFromBlockSlot ≤ blockNumber)
    (past : blockNumber ≤ message.blockNumber) :
    roleAt role storage message blockNumber =
      .ok ((timeline role storage).valueAt blockNumber) := by
  rw [roleAt, if_neg (Nat.not_lt.mpr past), if_neg (Nat.not_lt.mpr covered), scanHistory_eq]
  rfl

variable {storage : RegistryStorage}

theorem changesBelow_congr {role : Role} {other : RegistryStorage} {length : Nat}
    (same : ∀ index < length, other (role.elementSlot index) = storage (role.elementSlot index)) :
    changesBelow role other length = changesBelow role storage length := by
  induction length with
  | zero => rfl
  | succ index inductionHypothesis =>
    rw [changesBelow, changesBelow,
      inductionHypothesis fun smaller below => same smaller (Nat.lt_succ_of_lt below),
      changeRecord, changeRecord, same index (Nat.lt_succ_self index)]

/-! ### What holds between blocks -/

/-- What a role keeps at a block: its slots hold addresses, its holder is the latest of a timeline
without changes in the future, and a pending change lies in the future. -/
structure RoleSound (role : Role) (storage : RegistryStorage) (number : Nat) : Prop where
  current : storage role.currentSlot < 2 ^ 160
  current_ne : storage role.currentSlot ≠ 0
  initial : storage role.initialSlot < 2 ^ 160
  pending : storage role.pendingSlot < 2 ^ 160
  waits : storage role.pendingSlot ≠ 0 →
    number < storage role.activationSlot ∧ storage role.activationSlot < 2 ^ 96
  latest : (timeline role storage).latest = storage role.currentSlot
  past : ∀ change ∈ (timeline role storage).changes, change.1 ≤ number
  length : storage role.historySlot ≤ number

/-- Both roles are sound, and the registry is not from the future. -/
structure RegistrySound (storage : RegistryStorage) (number : Nat) : Prop where
  roles : ∀ role, RoleSound role storage number
  initialFrom : storage initialFromBlockSlot ≤ number

section Agreement

variable {role : Role} {storage other : RegistryStorage} {number : Nat}

/-- Two storages agree on a role. -/
def Agrees (role : Role) (storage other : RegistryStorage) : Prop :=
  ∀ slot, role.Owns slot → other slot = storage slot

theorem Agrees.flat (agrees : Agrees role storage other) {slot : U256}
    (flat : slot ∈ role.flatSlots) : other slot = storage slot :=
  agrees slot (owns_flat flat)

theorem Agrees.timeline_eq (agrees : Agrees role storage other)
    (short : storage role.historySlot ≤ 2 ^ 64) : timeline role other = timeline role storage := by
  have length : other role.historySlot = storage role.historySlot :=
    agrees.flat (by simp [flatSlots])
  have initial : other role.initialSlot = storage role.initialSlot :=
    agrees.flat (by simp [flatSlots])
  rw [timeline, timeline, address, address, initial, length]
  congr 1
  exact changesBelow_congr fun index below =>
    agrees _ (role.owns_element (Nat.lt_of_lt_of_le below short))

variable (sound : RoleSound role storage number)

include sound

/-- What a role keeps depends on its slots only. -/
theorem RoleSound.congr (bound : number < 2 ^ 64) (agrees : Agrees role storage other) :
    RoleSound role other number := by
  have current : other role.currentSlot = storage role.currentSlot :=
    agrees.flat (by simp [flatSlots])
  have initial : other role.initialSlot = storage role.initialSlot :=
    agrees.flat (by simp [flatSlots])
  have pending : other role.pendingSlot = storage role.pendingSlot :=
    agrees.flat (by simp [flatSlots])
  have activation : other role.activationSlot = storage role.activationSlot :=
    agrees.flat (by simp [flatSlots])
  have length : other role.historySlot = storage role.historySlot :=
    agrees.flat (by simp [flatSlots])
  have same := agrees.timeline_eq (Nat.le_trans sound.length (Nat.le_of_lt bound))
  exact
    { current := current ▸ sound.current
      current_ne := current ▸ sound.current_ne
      initial := initial ▸ sound.initial
      pending := pending ▸ sound.pending
      waits := by rw [pending, activation]; exact sound.waits
      latest := by rw [same, current]; exact sound.latest
      past := same ▸ sound.past
      length := length ▸ sound.length }

theorem RoleSound.short (bound : number < 2 ^ 64) : storage role.historySlot < 2 ^ 64 :=
  Nat.lt_of_le_of_lt sound.length bound

/-- In force now is the current holder. -/
theorem RoleSound.valueAt_now :
    (timeline role storage).valueAt number = storage role.currentSlot := by
  rw [valueAt_of_past sound.past, sound.latest]

end Agreement

/-! ### Applying -/

section Applying

variable (role : Role) (storage : RegistryStorage)

/-- The storage after the pending change of a role is applied. -/
def settleRole : RegistryStorage :=
  let pending := storage.address role.pendingSlot
  let length := storage role.historySlot
  ((((storage.writeAddress role.currentSlot pending).write role.historySlot (length + 1)).write
    (role.elementSlot length)
    (storage role.activationSlot % 2 ^ 96 + pending * 2 ^ 96)).writeAddress role.pendingSlot
      0).write role.activationSlot 0

/-- The storage after the pending change of a role is applied if it is due. -/
def advanceRole (blockNumber : U256) : RegistryStorage :=
  if roleDue role storage blockNumber then settleRole role storage else storage

/-- Applying a role does what is due, unless its history is full. -/
theorem applyRole_def (blockNumber : U256) :
    applyRole role storage blockNumber =
      if roleDue role storage blockNumber ∧ 2 ^ 64 ≤ storage role.historySlot then .error .panic
      else .ok (advanceRole role storage blockNumber) := by
  have length : storage.writeAddress role.currentSlot (storage.address role.pendingSlot)
      role.historySlot = storage role.historySlot :=
    storage.writeAddress_other _ (by cases role <;> decide)
  rw [applyRole, advanceRole]
  by_cases vacant : storage.address role.pendingSlot = 0
  · have early : ¬ roleDue role storage blockNumber := fun due => due.1 vacant
    rw [if_pos vacant, if_neg fun full => early full.1, if_neg early]
  · by_cases future : blockNumber < storage role.activationSlot
    · have early : ¬ roleDue role storage blockNumber := fun due => Nat.not_lt.mpr due.2 future
      rw [if_neg vacant, if_pos future, if_neg fun full => early full.1, if_neg early]
    · have due : roleDue role storage blockNumber := ⟨vacant, Nat.not_lt.mp future⟩
      rw [if_neg vacant, if_neg future, if_pos due, pushHistory, length]
      by_cases full : 2 ^ 64 ≤ storage role.historySlot
      · rw [if_pos full, if_pos ⟨due, full⟩]
        rfl
      · rw [if_neg full, if_neg fun both => full both.2]
        rfl

/-- Applying a role succeeds while its history is short. -/
theorem applyRole_eq {blockNumber : U256} (short : storage role.historySlot < 2 ^ 64) :
    applyRole role storage blockNumber = .ok (advanceRole role storage blockNumber) := by
  rw [applyRole_def, if_neg fun full => Nat.not_le.mpr short full.2]

variable {role storage} {slot : U256}

theorem flat_ne_elementSlot {index : Nat} (flat : slot ∈ role.flatSlots) (short : index < 2 ^ 64) :
    slot ≠ role.elementSlot index := by
  rintro rfl
  exact Nat.not_lt.mpr (role.flatSlots_le _ flat) (role.elementSlot_gt short)

theorem settleRole_pending (typed : storage role.pendingSlot < 2 ^ 160)
    (short : storage role.historySlot < 2 ^ 64) : settleRole role storage role.pendingSlot = 0 := by
  rw [settleRole, write_other _ _ (by cases role <;> decide)]
  refine writeAddress_same _ 0 ?_
  rw [write_other _ _ (flat_ne_elementSlot (by simp [flatSlots]) short),
    write_other _ _ (by cases role <;> decide),
    writeAddress_other _ _ (by cases role <;> decide)]
  exact typed

theorem settleRole_element (short : storage role.historySlot < 2 ^ 64) :
    settleRole role storage (role.elementSlot (storage role.historySlot)) =
      storage role.activationSlot % 2 ^ 96 + storage.address role.pendingSlot * 2 ^ 96 := by
  rw [settleRole,
    write_other _ _ (flat_ne_elementSlot (by simp [flatSlots]) short).symm,
    writeAddress_other _ _
      (flat_ne_elementSlot (by simp [flatSlots]) short).symm,
    write_same]

/-- Below the pending change and the new element, only the length and the holder change. -/
theorem settleRole_below (notActivation : slot ≠ role.activationSlot)
    (notPending : slot ≠ role.pendingSlot)
    (notElement : slot ≠ role.elementSlot (storage role.historySlot)) :
    settleRole role storage slot =
      (storage.writeAddress role.currentSlot (storage.address role.pendingSlot)).write
        role.historySlot (storage role.historySlot + 1) slot := by
  rw [settleRole, write_other _ _ notActivation,
    writeAddress_other _ _ notPending, write_other _ _ notElement]

theorem settleRole_history (short : storage role.historySlot < 2 ^ 64) :
    settleRole role storage role.historySlot = storage role.historySlot + 1 := by
  rw [settleRole_below (by cases role <;> decide) (by cases role <;> decide)
    (flat_ne_elementSlot (by simp [flatSlots]) short), write_same]

theorem settleRole_current (typed : storage role.currentSlot < 2 ^ 160)
    (short : storage role.historySlot < 2 ^ 64) :
    settleRole role storage role.currentSlot = storage.address role.pendingSlot := by
  rw [settleRole_below (by cases role <;> decide) (by cases role <;> decide)
    (flat_ne_elementSlot (by simp [flatSlots]) short),
    write_other _ _ (by cases role <;> decide),
    writeAddress_same _ _ typed]

variable (short : storage role.historySlot < 2 ^ 64)

include short

theorem settleRole_initial :
    settleRole role storage role.initialSlot = storage role.initialSlot := by
  rw [settleRole_below (by cases role <;> decide) (by cases role <;> decide)
    (flat_ne_elementSlot (by simp [flatSlots]) short),
    write_other _ _ (by cases role <;> decide),
    writeAddress_other _ _ (by cases role <;> decide)]

theorem settleRole_older {index : Nat} (older : index < storage role.historySlot) :
    settleRole role storage (role.elementSlot index) = storage (role.elementSlot index) := by
  have shortIndex : index < 2 ^ 64 := Nat.lt_trans older short
  rw [settleRole_below (flat_ne_elementSlot (by simp [flatSlots]) shortIndex).symm
      (flat_ne_elementSlot (by simp [flatSlots]) shortIndex).symm
      fun same => Nat.ne_of_lt older (role.elementSlot_injective shortIndex short same),
    write_other _ _ (flat_ne_elementSlot (by simp [flatSlots]) shortIndex).symm,
    writeAddress_other _ _
      (flat_ne_elementSlot (by simp [flatSlots]) shortIndex).symm]

/-- Applying a role touches its own slots only. -/
theorem settleRole_other (foreign : ¬ role.Owns slot) :
    settleRole role storage slot = storage slot := by
  have apart : ∀ own : U256, role.Owns own → slot ≠ own := by
    rintro own owned rfl
    exact foreign owned
  rw [settleRole_below (apart _ (owns_flat (by simp [flatSlots])))
      (apart _ (owns_flat (by simp [flatSlots]))) (apart _ (role.owns_element short)),
    write_other _ _ (apart _ (owns_flat (by simp [flatSlots]))),
    writeAddress_other _ _ (apart _ (owns_flat (by simp [flatSlots])))]

/-- Applying a change records it in the timeline. -/
theorem timeline_settleRole (fits : storage role.activationSlot < 2 ^ 96) :
    timeline role (settleRole role storage) =
      (timeline role storage).push (storage role.activationSlot)
        (storage.address role.pendingSlot) := by
  have holder : storage.address role.pendingSlot < 2 ^ 160 :=
    Nat.mod_lt _ (by decide)
  have newest : changeRecord role (settleRole role storage) (storage role.historySlot) =
      (storage role.activationSlot, storage.address role.pendingSlot) := by
    rw [changeRecord, settleRole_element short, Nat.mod_eq_of_lt fits]
    rw [Nat.add_mul_mod_self_right, Nat.mod_eq_of_lt fits, Nat.add_mul_div_right _ _ (by decide),
      Nat.div_eq_of_lt fits, Nat.zero_add, Nat.mod_eq_of_lt holder]
  rw [timeline, settleRole_history short, address, settleRole_initial short,
    changesBelow, newest, changesBelow_congr fun index older => settleRole_older short older]
  rfl

end Applying

/-! ### The next block -/

section Advancing

variable {role : Role} {storage : RegistryStorage} {number : Nat}

variable (sound : RoleSound role storage number)

include sound

/-- A change that is due at the next block takes effect exactly there. -/
theorem RoleSound.activation_of_due (due : roleDue role storage (number + 1)) :
    storage role.activationSlot = number + 1 ∧ number + 1 < 2 ^ 96 := by
  have waiting : storage role.pendingSlot ≠ 0 := by
    rw [← storage.address_of_lt sound.pending]
    exact due.1
  obtain ⟨future, fits⟩ := sound.waits waiting
  have now : storage role.activationSlot = number + 1 :=
    Nat.le_antisymm due.2 (Nat.succ_le_of_lt future)
  exact ⟨now, now ▸ fits⟩

/-- A role goes from one block to the next. -/
theorem RoleSound.advance (bound : number < 2 ^ 64) :
    RoleSound role (advanceRole role storage (number + 1)) (number + 1) := by
  rw [advanceRole]
  split
  · next due =>
    have short := sound.short bound
    obtain ⟨now, fits⟩ := sound.activation_of_due due
    have recorded := timeline_settleRole short (now ▸ fits)
    have current := settleRole_current sound.current short
    exact
      { current := current ▸ Nat.mod_lt _ (by decide)
        current_ne := current ▸ due.1
        initial := settleRole_initial short ▸ sound.initial
        pending := settleRole_pending sound.pending short ▸ (by decide)
        waits := fun waiting => absurd (settleRole_pending sound.pending short) waiting
        latest := by rw [recorded, latest_push, current]
        past := by
          intro change member
          rw [recorded] at member
          rcases List.mem_cons.mp member with rfl | older
          · exact Nat.le_of_eq now
          · exact Nat.le_succ_of_le (sound.past change older)
        length := settleRole_history short ▸ Nat.succ_le_succ sound.length }
  · next early =>
    have waits : storage role.pendingSlot ≠ 0 →
        number + 1 < storage role.activationSlot ∧ storage role.activationSlot < 2 ^ 96 := by
      intro waiting
      refine ⟨Nat.not_le.mp fun reached => early ⟨?_, reached⟩, (sound.waits waiting).2⟩
      rw [storage.address_of_lt sound.pending]
      exact waiting
    exact
      { sound with
        waits
        past := fun change member => Nat.le_succ_of_le (sound.past change member)
        length := Nat.le_succ_of_le sound.length }

/-- Going to the next block does not change who held a role before. -/
theorem RoleSound.valueAt_advance (bound : number < 2 ^ 64) {earlier : Nat}
    (past : earlier ≤ number) :
    (timeline role (advanceRole role storage (number + 1))).valueAt earlier =
      (timeline role storage).valueAt earlier := by
  rw [advanceRole]
  split
  · next due =>
    obtain ⟨now, fits⟩ := sound.activation_of_due due
    rw [timeline_settleRole (sound.short bound) (now ▸ fits)]
    refine valueAt_push_of_lt _ _ ?_
    rw [now]
    exact Nat.lt_succ_of_le past
  · rfl

omit sound

theorem advanceRole_other {slot : U256} {blockNumber : U256}
    (short : storage role.historySlot < 2 ^ 64) (foreign : ¬ role.Owns slot) :
    advanceRole role storage blockNumber slot = storage slot := by
  rw [advanceRole]
  split
  · exact settleRole_other short foreign
  · rfl

end Advancing

/-- The storage after the changes of both roles that are due are applied. -/
def advance (storage : RegistryStorage) (blockNumber : U256) : RegistryStorage :=
  advanceRole .sequencer (advanceRole .systemAddress storage blockNumber) blockNumber

section Advance

variable {storage : RegistryStorage} {number : Nat}

/-- Applying one role leaves the other alone. -/
theorem agrees_advanceRole {role other : Role} (distinct : other ≠ role) (blockNumber : U256)
    (short : storage role.historySlot < 2 ^ 64) :
    Agrees other storage (advanceRole role storage blockNumber) :=
  fun _ owned => advanceRole_other short (owned.disjoint distinct)

variable (sound : RegistrySound storage number)

include sound

/-- The steps of applying both roles: the system address first, then the sequencer, which the first
step leaves alone. -/
theorem RegistrySound.steps (bound : number < 2 ^ 64) (blockNumber : U256) :
    RoleSound .sequencer (advanceRole .systemAddress storage blockNumber) number ∧
      Agrees .sequencer storage (advanceRole .systemAddress storage blockNumber) ∧
      Agrees .systemAddress (advanceRole .systemAddress storage blockNumber)
        (advance storage blockNumber) := by
  have first := agrees_advanceRole (show sequencer ≠ .systemAddress by decide) blockNumber
    ((sound.roles .systemAddress).short bound)
  have second := (sound.roles .sequencer).congr bound first
  exact ⟨second, first, agrees_advanceRole (by decide) blockNumber (second.short bound)⟩

/-- Applying the pending changes succeeds. -/
theorem RegistrySound.applyPendingChanges_eq (bound : number < 2 ^ 64) (blockNumber : U256) :
    applyPendingChanges storage blockNumber = .ok (advance storage blockNumber) := by
  obtain ⟨second, -, -⟩ := sound.steps bound blockNumber
  rw [applyPendingChanges, applyRole_eq _ _ ((sound.roles .systemAddress).short bound)]
  exact applyRole_eq _ _ (second.short bound)

/-- A slot of no role is left alone. -/
theorem RegistrySound.advance_other (bound : number < 2 ^ 64) (blockNumber : U256) {slot : U256}
    (foreign : ∀ role : Role, ¬ role.Owns slot) :
    advance storage blockNumber slot = storage slot := by
  obtain ⟨second, -, -⟩ := sound.steps bound blockNumber
  rw [advance, advanceRole_other (second.short bound) (foreign .sequencer),
    advanceRole_other ((sound.roles .systemAddress).short bound) (foreign .systemAddress)]

/-- The registry goes from one block to the next. -/
theorem RegistrySound.advance (bound : number + 1 < 2 ^ 64) :
    RegistrySound (advance storage (number + 1)) (number + 1) := by
  have smaller : number < 2 ^ 64 := Nat.lt_of_succ_lt bound
  obtain ⟨second, -, last⟩ := sound.steps smaller (number + 1)
  refine ⟨fun role => ?_, ?_⟩
  · cases role with
    | systemAddress => exact ((sound.roles .systemAddress).advance smaller).congr bound last
    | sequencer => exact second.advance smaller
  · rw [sound.advance_other smaller _ fun role => role.not_owns_shared (by simp [sharedSlots])]
    exact Nat.le_succ_of_le sound.initialFrom

/-- The registry at the next block still knows who held a role before. -/
theorem RegistrySound.valueAt_advance (bound : number + 1 < 2 ^ 64) (role : Role) {earlier : Nat}
    (past : earlier ≤ number) :
    (timeline role (MegaEvm.advance storage (number + 1))).valueAt earlier =
      (timeline role storage).valueAt earlier := by
  have smaller : number < 2 ^ 64 := Nat.lt_of_succ_lt bound
  obtain ⟨second, first, last⟩ := sound.steps smaller (number + 1)
  cases role with
  | systemAddress =>
    have advanced := (sound.roles .systemAddress).advance smaller
    rw [last.timeline_eq (Nat.le_of_lt (advanced.short bound))]
    exact (sound.roles .systemAddress).valueAt_advance smaller past
  | sequencer =>
    rw [MegaEvm.advance, second.valueAt_advance smaller past,
      first.timeline_eq (Nat.le_of_lt ((sound.roles .sequencer).short smaller))]

/-- Whatever the block, the system address is not zero after applying. -/
theorem RegistrySound.advance_current_ne (bound : number < 2 ^ 64) (blockNumber : U256) :
    currentSystemAddress (MegaEvm.advance storage blockNumber) ≠ 0 := by
  obtain ⟨-, -, last⟩ := sound.steps bound blockNumber
  have role := sound.roles .systemAddress
  have same : currentSystemAddress (MegaEvm.advance storage blockNumber) =
      currentSystemAddress (advanceRole .systemAddress storage blockNumber) :=
    congrArg (· % 2 ^ 160) (last.flat (by simp [flatSlots]))
  rw [same, advanceRole]
  split
  · next due =>
    rw [currentSystemAddress, address,
      settleRole_current role.current (role.short bound), address, Nat.mod_mod]
    exact due.1
  · rw [currentSystemAddress, storage.address_of_lt role.current]
    exact role.current_ne

end Advance

/-! ### Calls within a block -/

/-- Within a block nothing is due. -/
theorem RoleSound.not_due {role : Role} {number : Nat} (sound : RoleSound role storage number) :
    ¬ roleDue role storage number := by
  rintro ⟨waiting, reached⟩
  rw [storage.address_of_lt sound.pending] at waiting
  exact Nat.not_le.mpr (sound.waits waiting).1 reached

/-- A call keeps the registry sound and every timeline and holder as it is. -/
structure KeepsRoles (storage after : RegistryStorage) (number : Nat) : Prop where
  sound : RegistrySound after number
  initialFrom : after initialFromBlockSlot = storage initialFromBlockSlot
  current : ∀ role : Role, after role.currentSlot = storage role.currentSlot
  timeline : ∀ role : Role, timeline role after = timeline role storage

section Calls

variable {storage after : RegistryStorage} {number : Nat} (sound : RegistrySound storage number)

include sound

theorem KeepsRoles.refl : KeepsRoles storage storage number :=
  ⟨sound, rfl, fun _ => rfl, fun _ => rfl⟩

/-- A call that touches no slot of a role and not the first block keeps them. -/
theorem KeepsRoles.of_agrees (bound : number < 2 ^ 64) (agrees : ∀ role, Agrees role storage after)
    (initialFrom : after initialFromBlockSlot = storage initialFromBlockSlot) :
    KeepsRoles storage after number where
  sound := ⟨fun role => (sound.roles role).congr bound (agrees role),
    initialFrom ▸ sound.initialFrom⟩
  initialFrom := initialFrom
  current role := (agrees role).flat (by simp [flatSlots])
  timeline role := (agrees role).timeline_eq
    (Nat.le_of_lt ((sound.roles role).short bound))

/-- Within a block, applying the pending changes does nothing. -/
theorem RegistrySound.advance_same : MegaEvm.advance storage number = storage := by
  have first : advanceRole .systemAddress storage number = storage :=
    if_neg (sound.roles .systemAddress).not_due
  rw [MegaEvm.advance, first]
  exact if_neg (sound.roles .sequencer).not_due

end Calls

/-! ### Scheduling -/

section Scheduling

variable {storage after : RegistryStorage} {number : Nat}

/-- The storage with this pending change of a role. -/
def setPending (role : Role) (storage : RegistryStorage) (holder : Address)
    (activation : U256) : RegistryStorage :=
  (storage.writeAddress role.pendingSlot holder).write role.activationSlot activation

variable {role : Role}

/-- Scheduling sets a change in the future, or none. -/
theorem scheduleChange_ok {guard : Except RegistryError Unit} {message : Message}
    {newAddress : Address} {activationBlock : U256} {events : List RegistryEvent}
    (scheduled : scheduleChange role guard storage message newAddress activationBlock =
      .ok (after, events)) :
    ∃ holder activation, after = setPending role storage holder activation ∧
      (holder = 0 ∨
        holder = newAddress ∧ message.blockNumber < activation ∧ activation < 2 ^ 96 ∧
          activation = activationBlock ∧ onlyAdmin storage message = .ok () ∧ guard = .ok ()) := by
  obtain ⟨_, admin, scheduled⟩ := bind_eq_ok scheduled
  obtain ⟨future, scheduled⟩ := check_eq_ok scheduled
  split at scheduled
  · obtain ⟨-, cancelled⟩ := check_eq_ok scheduled
    cases cancelled
    exact ⟨0, 0, rfl, Or.inl rfl⟩
  · obtain ⟨fits, scheduled⟩ := check_eq_ok scheduled
    obtain ⟨-, scheduled⟩ := check_eq_ok scheduled
    obtain ⟨_, guarded, scheduled⟩ := bind_eq_ok scheduled
    cases scheduled
    refine ⟨newAddress, activationBlock, rfl,
      Or.inr ⟨rfl, Nat.not_le.mp future, ?_, rfl, admin, guarded⟩⟩
    exact Nat.lt_of_le_of_lt (Nat.not_lt.mp fits) (by decide)

theorem setPending_other (role : Role) (storage : RegistryStorage) (holder : Address)
    (activation : U256) {slot : U256} (notPending : slot ≠ role.pendingSlot)
    (notActivation : slot ≠ role.activationSlot) :
    setPending role storage holder activation slot = storage slot := by
  rw [setPending, write_other _ _ notActivation, writeAddress_other _ _ notPending]

theorem timeline_setPending (role : Role) (storage : RegistryStorage) (holder : Address)
    (activation : U256) (short : storage role.historySlot < 2 ^ 64) :
    timeline role (setPending role storage holder activation) = timeline role storage := by
  rw [timeline, timeline, address, address,
    setPending_other _ _ _ _ (by cases role <;> decide) (by cases role <;> decide),
    setPending_other _ _ _ _ (by cases role <;> decide) (by cases role <;> decide)]
  congr 1
  refine changesBelow_congr fun index below => ?_
  have shortIndex : index < 2 ^ 64 := Nat.lt_trans below short
  exact setPending_other _ _ _ _
    (flat_ne_elementSlot (by simp [flatSlots]) shortIndex).symm
    (flat_ne_elementSlot (by simp [flatSlots]) shortIndex).symm

/-- A pending change in the future keeps its role sound. -/
theorem RoleSound.setPending (sound : RoleSound role storage number) (bound : number < 2 ^ 64)
    {holder : Address} {activation : U256} (typed : holder < 2 ^ 160)
    (future : holder = 0 ∨ number < activation ∧ activation < 2 ^ 96) :
    RoleSound role (setPending role storage holder activation) number := by
  have pending : MegaEvm.setPending role storage holder activation role.pendingSlot = holder := by
    rw [MegaEvm.setPending, write_other _ _ (by cases role <;> decide),
      writeAddress_same _ _ sound.pending]
  have activates : MegaEvm.setPending role storage holder activation role.activationSlot =
      activation := write_same ..
  have current : MegaEvm.setPending role storage holder activation role.currentSlot =
      storage role.currentSlot :=
    setPending_other _ _ _ _ (by cases role <;> decide) (by cases role <;> decide)
  have same := timeline_setPending role storage holder activation (sound.short bound)
  exact
    { current := current ▸ sound.current
      current_ne := current ▸ sound.current_ne
      initial := by
        rw [setPending_other _ _ _ _ (by cases role <;> decide) (by cases role <;> decide)]
        exact sound.initial
      pending := pending.symm ▸ typed
      waits := by
        rw [pending, activates]
        exact fun waiting => future.resolve_left waiting
      latest := by rw [same, current]; exact sound.latest
      past := same ▸ sound.past
      length := by
        rw [setPending_other _ _ _ _ (by cases role <;> decide) (by cases role <;> decide)]
        exact sound.length }

/-- Scheduling keeps the roles. -/
theorem KeepsRoles.setPending (sound : RegistrySound storage number) (bound : number < 2 ^ 64)
    (role : Role) {holder : Address} {activation : U256} (typed : holder < 2 ^ 160)
    (future : holder = 0 ∨ number < activation ∧ activation < 2 ^ 96) :
    KeepsRoles storage (setPending role storage holder activation) number := by
  have others : ∀ other, other ≠ role →
      Agrees other storage (MegaEvm.setPending role storage holder activation) := by
    intro other distinct slot owned
    have apart : ∀ own : U256, role.Owns own → slot ≠ own := by
      rintro own mine rfl
      exact owned.disjoint distinct mine
    exact setPending_other _ _ _ _ (apart _ (owns_flat (by simp [flatSlots])))
      (apart _ (owns_flat (by simp [flatSlots])))
  have initialFrom : MegaEvm.setPending role storage holder activation initialFromBlockSlot =
      storage initialFromBlockSlot :=
    setPending_other _ _ _ _ (by cases role <;> decide) (by cases role <;> decide)
  refine ⟨⟨fun other => ?_, initialFrom ▸ sound.initialFrom⟩, initialFrom, fun other => ?_,
    fun other => ?_⟩
  · by_cases same : other = role
    · exact same ▸ (sound.roles role).setPending bound typed future
    · exact (sound.roles other).congr bound (others other same)
  · by_cases same : other = role
    · subst same
      exact setPending_other _ _ _ _ (by cases other <;> decide) (by cases other <;> decide)
    · exact (others other same).flat (by simp [flatSlots])
  · by_cases same : other = role
    · subst same
      exact timeline_setPending _ _ _ _ ((sound.roles other).short bound)
    · exact (others other same).timeline_eq (Nat.le_of_lt ((sound.roles other).short bound))

theorem decodeAddress_ok {word : U256} {address : Address}
    (decoded : decodeAddress word = .ok address) : address < 2 ^ 160 := by
  rw [decodeAddress] at decoded
  split at decoded
  · next typed =>
    cases decoded
    exact typed
  · cases decoded

theorem KeepsRoles.scheduleChange (sound : RegistrySound storage number) (bound : number < 2 ^ 64)
    {guard : Except RegistryError Unit} {message : Message} {newAddress : Address}
    {activationBlock : U256} {events : List RegistryEvent} (now : message.blockNumber = number)
    (typed : newAddress < 2 ^ 160)
    (scheduled : scheduleChange role guard storage message newAddress activationBlock =
      .ok (after, events)) : KeepsRoles storage after number := by
  obtain ⟨holder, activation, rfl, cancelled | ⟨rfl, future, fits, -⟩⟩ :=
    scheduleChange_ok scheduled
  · exact KeepsRoles.setPending sound bound role (cancelled ▸ by decide) (Or.inl cancelled)
  · exact KeepsRoles.setPending sound bound role typed (Or.inr ⟨now ▸ future, fits⟩)

/-- Writing a slot of no role, other than the first block, keeps the roles. -/
theorem agrees_writeAddress {slot : U256} (shared : slot ∈ sharedSlots)
    (storage : RegistryStorage) (holder : Address) (role : Role) :
    Agrees role storage (storage.writeAddress slot holder) := by
  rintro own owned
  refine storage.writeAddress_other _ ?_
  rintro rfl
  exact role.not_owns_shared shared owned

end Scheduling

open KeepsRoles

/-- Within a block, a call keeps both roles as they are. -/
theorem RegistryCrypto.dispatch_keepsRoles {crypto : RegistryCrypto} {version : RegistryVersion}
    {after : RegistryStorage} {message : Message} {call : RegistryCall}
    {events : List RegistryEvent} (sound : RegistrySound storage message.blockNumber)
    (bound : message.blockNumber < 2 ^ 64)
    (ran : crypto.dispatch version storage message call = .ok (after, events)) :
    KeepsRoles storage after message.blockNumber := by
  cases call with
  | scheduleNextSystemAddressChange | scheduleNextSequencerChange =>
    obtain ⟨newAddress, decoded, scheduled⟩ := bind_eq_ok ran
    exact KeepsRoles.scheduleChange sound bound rfl (decodeAddress_ok decoded) scheduled
  | applyPendingChanges =>
    obtain ⟨applied, succeeded, same⟩ := bind_eq_ok ran
    rw [sound.applyPendingChanges_eq bound, sound.advance_same] at succeeded
    cases succeeded
    cases same
    exact refl sound
  | transferAdmin word =>
    obtain ⟨newAdmin, -, transferred⟩ := bind_eq_ok ran
    obtain ⟨_, -, transferred⟩ := bind_eq_ok transferred
    cases transferred
    exact of_agrees sound bound
      (agrees_writeAddress (by simp [sharedSlots]) storage newAdmin)
      (storage.writeAddress_other _ (by decide))
  | acceptAdmin =>
    obtain ⟨-, accepted⟩ := check_eq_ok ran
    cases accepted
    refine of_agrees sound bound (fun role slot owned => ?_) ?_
    · rw [agrees_writeAddress (by simp [sharedSlots]) _ _ role slot owned,
        agrees_writeAddress (by simp [sharedSlots]) _ _ role slot owned]
    · rw [writeAddress_other _ _ (by decide), writeAddress_other _ _ (by decide)]

end MegaEvm
