/-
This file models the SequencerRegistry contract over its raw storage slots. It tracks
two roles, the system address and the sequencer, each with a current holder, a pending
change with the block it becomes active at, and a history of the changes applied. An
admin schedules changes; anyone may apply those that are due.

Addresses share a slot with nothing, but the compiled code reads and writes only the
low 160 bits of it. A history is a dynamic array: its slot has the length, and its
elements follow from a fixed base, each packed into one slot. The call data of a
function is decoded before its body runs, and a word that is no address reverts.
-/

import Mathlib.Logic.Function.Basic
import MegaEvm.Spec

namespace MegaEvm

/-! ### Slots -/

/-- The storage of the contract. -/
abbrev RegistryStorage := U256 → U256

namespace RegistryStorage

/-- Store one word. -/
def write (storage : RegistryStorage) (slot value : U256) : RegistryStorage :=
  Function.update storage slot value

@[simp] theorem write_same (storage : RegistryStorage) (slot value : U256) :
    storage.write slot value slot = value :=
  Function.update_self ..

theorem write_other (storage : RegistryStorage) {slot other : U256} (value : U256)
    (distinct : other ≠ slot) : storage.write slot value other = storage other :=
  Function.update_of_ne distinct ..

/-- The address in a slot. -/
def address (storage : RegistryStorage) (slot : U256) : Address :=
  storage slot % 2 ^ 160

/-- Store an address, which leaves the upper bits of its slot alone. -/
def writeAddress (storage : RegistryStorage) (slot : U256) (address : Address) :
    RegistryStorage :=
  storage.write slot (storage slot / 2 ^ 160 * 2 ^ 160 + address)

end RegistryStorage

def adminSlot : U256 := 2

def pendingAdminSlot : U256 := 3

def initialFromBlockSlot : U256 := 6

def minRotationDelaySlot : U256 := 13

/-- The two roles. -/
inductive Role
  | systemAddress
  | sequencer
deriving DecidableEq

namespace Role

def currentSlot : Role → U256
  | systemAddress => 0
  | sequencer => 1

def initialSlot : Role → U256
  | systemAddress => 4
  | sequencer => 5

def pendingSlot : Role → U256
  | systemAddress => 7
  | sequencer => 9

def activationSlot : Role → U256
  | systemAddress => 8
  | sequencer => 10

def historySlot : Role → U256
  | systemAddress => 11
  | sequencer => 12

/-- Where the elements of the history start, the hash of its slot. -/
def historyBase : Role → U256
  | systemAddress => 0x0175b7a638427703f0dbe7bb9bbf987a2551717b34e79f33b5b1008d1fa01db9
  | sequencer => 0xdf6966c971051c3d54ec59162606531493a51404a002842f56009d7e5cf4a8c7

def elementSlot (role : Role) (index : Nat) : U256 :=
  (role.historyBase + index) % 2 ^ 256

end Role

/-! ### Calls -/

/-- Why a call reverts. The last two are those of the compiler: a panic of checked arithmetic or of
a full array, and call data that does not decode. -/
inductive RegistryError
  | futureBlock
  | beforeInitialBlock
  | notAdmin
  | notPendingAdmin
  | zeroAddress
  | invalidActivationBlock
  | activationBlockTooLarge
  | rotationDelayTooShort
  | invalidRotationProof
  | panic
  | invalidCalldata
deriving DecidableEq

inductive RegistryEvent
  | changeScheduled (role : Role) (old new : Address) (activationBlock : U256)
  | adminTransferStarted (currentAdmin newPendingAdmin : Address)
  | adminTransferred (oldAdmin newAdmin : Address)
deriving DecidableEq

/-- What a call sees of its transaction and block. -/
structure Message where
  sender : Address
  blockNumber : U256
  chainId : U256

/-- The hash and the signature recovery of the chain. -/
structure RegistryCrypto where
  keccak256 : List Nat → U256
  ecrecover : U256 → Nat → U256 → U256 → Address

/-- The two deployed versions. Version two asks for a proof and a delay when the sequencer
changes. -/
inductive RegistryVersion
  | v1
  | v2
deriving DecidableEq

/-- The calls that may change the storage, with their words as they come in the call data. -/
inductive RegistryCall
  | scheduleNextSystemAddressChange (newSystemAddress activationBlock : U256)
  | scheduleNextSequencerChange (newSequencer activationBlock : U256) (signature : List Nat)
  | applyPendingChanges
  | transferAdmin (newAdmin : U256)
  | acceptAdmin

/-- The storage a call leaves and the events it emits. -/
abbrev RegistryResult := Except RegistryError (RegistryStorage × List RegistryEvent)

/-- An address argument. -/
def decodeAddress (word : U256) : Except RegistryError Address :=
  if word < 2 ^ 160 then .ok word else .error .invalidCalldata

/-! ### Reading roles -/

/-- The element of a history: the block a change took effect at and the new holder. -/
def changeRecord (role : Role) (storage : RegistryStorage) (index : Nat) : Nat × Address :=
  (storage (role.elementSlot index) % 2 ^ 96, storage (role.elementSlot index) / 2 ^ 96 % 2 ^ 160)

/-- The loop of the historical getters, down from an index. -/
def scanHistory (role : Role) (storage : RegistryStorage) (blockNumber : U256) : Nat → Address
  | 0 => storage.address role.initialSlot
  | index + 1 =>
    if (changeRecord role storage index).1 ≤ blockNumber then (changeRecord role storage index).2
    else scanHistory role storage blockNumber index

/-- The holder of a role at a block. -/
def roleAt (role : Role) (storage : RegistryStorage) (message : Message) (blockNumber : U256) :
    Except RegistryError Address :=
  if message.blockNumber < blockNumber then .error .futureBlock
  else if blockNumber < storage initialFromBlockSlot then .error .beforeInitialBlock
  else .ok (scanHistory role storage blockNumber (storage role.historySlot))

def currentSystemAddress (storage : RegistryStorage) : Address :=
  storage.address Role.systemAddress.currentSlot

def currentSequencer (storage : RegistryStorage) : Address :=
  storage.address Role.sequencer.currentSlot

def systemAddressAt (storage : RegistryStorage) (message : Message) (blockNumber : U256) :
    Except RegistryError Address :=
  roleAt .systemAddress storage message blockNumber

def sequencerAt (storage : RegistryStorage) (message : Message) (blockNumber : U256) :
    Except RegistryError Address :=
  roleAt .sequencer storage message blockNumber

/-! ### Scheduling -/

def onlyAdmin (storage : RegistryStorage) (message : Message) : Except RegistryError Unit :=
  if message.sender = storage.address adminSlot then .ok () else .error .notAdmin

/-- Schedule the next change of a role, or cancel it. The guard is what the role asks for beyond
the checks both roles make. -/
def scheduleChange (role : Role) (guard : Except RegistryError Unit) (storage : RegistryStorage)
    (message : Message) (newAddress : Address) (activationBlock : U256) : RegistryResult := do
  onlyAdmin storage message
  let current := storage.address role.currentSlot
  if activationBlock ≤ message.blockNumber then
    .error .invalidActivationBlock
  else if activationBlock = 2 ^ 256 - 1 then
    if newAddress ≠ 0 then .error .zeroAddress
    else
      .ok ((storage.writeAddress role.pendingSlot 0).write role.activationSlot 0,
        [.changeScheduled role current 0 (2 ^ 256 - 1)])
  else if 2 ^ 96 - 1 < activationBlock then .error .activationBlockTooLarge
  else if newAddress = 0 then .error .zeroAddress
  else do
    guard
    .ok ((storage.writeAddress role.pendingSlot newAddress).write role.activationSlot
        activationBlock,
      [.changeScheduled role current newAddress activationBlock])

def scheduleNextSystemAddressChange (storage : RegistryStorage) (message : Message)
    (newSystemAddress : Address) (activationBlock : U256) : RegistryResult :=
  scheduleChange .systemAddress (.ok ()) storage message newSystemAddress activationBlock

/-- The bytes of a text. -/
def textBytes (text : String) : List Nat :=
  text.toList.map Char.toNat

/-- The big-endian bytes of a number. -/
def wordBytes (length number : Nat) : List Nat :=
  (List.range length).map fun index => number / 256 ^ (length - 1 - index) % 256

def wordOfBytes (bytes : List Nat) : Nat :=
  bytes.foldl (fun word byte => word * 256 + byte) 0

def abiEncode (words : List U256) : List Nat :=
  words.flatMap (wordBytes 32)

def sequencerRegistryAddress : Address := 0x6342000000000000000000000000000000000006

namespace RegistryCrypto

variable (crypto : RegistryCrypto)

def eip712DomainTypehash : U256 :=
  crypto.keccak256 (textBytes
    "EIP712Domain(string name,string version,uint256 chainId,address verifyingContract)")

def sequencerRotationTypehash : U256 :=
  crypto.keccak256 (textBytes "SequencerRotation(address newSequencer,uint256 activationBlock)")

/-- What the key of a new sequencer signs. -/
def rotationDigest (message : Message) (newSequencer : Address) (activationBlock : U256) : U256 :=
  let domainSeparator := crypto.keccak256 (abiEncode
    [crypto.eip712DomainTypehash, crypto.keccak256 (textBytes "MegaETH SequencerRegistry"),
      crypto.keccak256 (textBytes "1"), message.chainId, sequencerRegistryAddress])
  let structHash := crypto.keccak256 (abiEncode
    [crypto.sequencerRotationTypehash, newSequencer, activationBlock])
  crypto.keccak256 ([0x19, 0x01] ++ wordBytes 32 domainSeparator ++ wordBytes 32 structHash)

def secp256k1nHalf : U256 := 0x7FFFFFFFFFFFFFFFFFFFFFFFFFFFFFFF5D576E7357A4501DDFE92F46681B20A0

def recoverRotationSigner (digest : U256) (signature : List Nat) : Except RegistryError Address :=
  if signature.length ≠ 65 then .error .invalidRotationProof
  else
    let r := wordOfBytes (signature.take 32)
    let s := wordOfBytes ((signature.drop 32).take 32)
    let v := signature.getD 64 0
    if secp256k1nHalf < s then .error .invalidRotationProof
    else if v ≠ 27 ∧ v ≠ 28 then .error .invalidRotationProof
    else
      let signer := crypto.ecrecover digest v r s
      if signer = 0 then .error .invalidRotationProof else .ok signer

/-- A change of the sequencer leaves time to react and is signed by the new key. -/
def checkRotation (storage : RegistryStorage) (message : Message) (newSequencer : Address)
    (activationBlock : U256) (signature : List Nat) : Except RegistryError Unit := do
  let earliest := message.blockNumber + storage minRotationDelaySlot
  if 2 ^ 256 ≤ earliest then .error .panic
  else if activationBlock < earliest then .error .rotationDelayTooShort
  else do
    let signer ← crypto.recoverRotationSigner
      (crypto.rotationDigest message newSequencer activationBlock) signature
    if signer ≠ newSequencer then .error .invalidRotationProof else .ok ()

/-- Schedule a change of the sequencer. Version one has no proof and no delay. -/
def scheduleNextSequencerChange (version : RegistryVersion) (storage : RegistryStorage)
    (message : Message) (newSequencer : Address) (activationBlock : U256)
    (signature : List Nat) : RegistryResult :=
  let guard :=
    match version with
    | .v1 => .ok ()
    | .v2 => crypto.checkRotation storage message newSequencer activationBlock signature
  scheduleChange .sequencer guard storage message newSequencer activationBlock

end RegistryCrypto

/-! ### Applying and administering -/

/-- A role has a change that is due. -/
def roleDue (role : Role) (storage : RegistryStorage) (blockNumber : U256) : Prop :=
  storage.address role.pendingSlot ≠ 0 ∧ storage role.activationSlot ≤ blockNumber

instance (role : Role) (storage : RegistryStorage) (blockNumber : U256) :
    Decidable (roleDue role storage blockNumber) :=
  inferInstanceAs (Decidable (_ ∧ _))

/-- Append to the history of a role. -/
def pushHistory (role : Role) (storage : RegistryStorage) (fromBlock : U256) (holder : Address) :
    Except RegistryError RegistryStorage :=
  let length := storage role.historySlot
  if 2 ^ 64 ≤ length then .error .panic
  else
    .ok ((storage.write role.historySlot (length + 1)).write (role.elementSlot length)
      (fromBlock % 2 ^ 96 + holder * 2 ^ 96))

/-- Apply the pending change of a role if it is due. -/
def applyRole (role : Role) (storage : RegistryStorage) (blockNumber : U256) :
    Except RegistryError RegistryStorage := do
  let pending := storage.address role.pendingSlot
  if pending = 0 then .ok storage
  else
    let activation := storage role.activationSlot
    if blockNumber < activation then .ok storage
    else do
      let recorded ← pushHistory role (storage.writeAddress role.currentSlot pending) activation
        pending
      .ok ((recorded.writeAddress role.pendingSlot 0).write role.activationSlot 0)

def applyPendingChanges (storage : RegistryStorage) (blockNumber : U256) :
    Except RegistryError RegistryStorage := do
  let applied ← applyRole .systemAddress storage blockNumber
  applyRole .sequencer applied blockNumber

def transferAdmin (storage : RegistryStorage) (message : Message) (newAdmin : Address) :
    RegistryResult := do
  onlyAdmin storage message
  .ok (storage.writeAddress pendingAdminSlot newAdmin,
    [.adminTransferStarted (storage.address adminSlot) newAdmin])

def acceptAdmin (storage : RegistryStorage) (message : Message) : RegistryResult :=
  let pending := storage.address pendingAdminSlot
  if message.sender ≠ pending then .error .notPendingAdmin
  else
    .ok ((storage.writeAddress adminSlot pending).writeAddress pendingAdminSlot 0,
      [.adminTransferred (storage.address adminSlot) pending])

/-- Run a call. -/
def RegistryCrypto.dispatch (crypto : RegistryCrypto) (version : RegistryVersion)
    (storage : RegistryStorage) (message : Message) : RegistryCall → RegistryResult
  | .scheduleNextSystemAddressChange word activationBlock => do
    let newSystemAddress ← decodeAddress word
    scheduleNextSystemAddressChange storage message newSystemAddress activationBlock
  | .scheduleNextSequencerChange word activationBlock signature => do
    let newSequencer ← decodeAddress word
    crypto.scheduleNextSequencerChange version storage message newSequencer activationBlock
      signature
  | .applyPendingChanges => do
    let applied ← applyPendingChanges storage message.blockNumber
    .ok (applied, [])
  | .transferAdmin word => do
    let newAdmin ← decodeAddress word
    transferAdmin storage message newAdmin
  | .acceptAdmin => acceptAdmin storage message

end MegaEvm
