/-
This file models how the errors of a keyless deployment are encoded as revert data and
decoded again. The ABI codec of each error type is given, with what it promises: an
encoding starts with the selector of its type, decodes to the fields it was made from,
and is refused by every type with another selector. The decoder tries the types one
after the other. It never takes an encoding for another error, but it has no attempt for
the type that reports too little compute gas, and gives up on it.
-/

import Mathlib.Logic.Equiv.List
import MegaEvm.Sandbox.KeylessDeploy

namespace MegaEvm

/-! ### The errors of the interface -/

/-- The error types that the contract declares. -/
inductive IKeylessDeploy
  | malformedEncoding
  | notContractCreation
  | notPreEIP155
  | nonZeroTxNonce
  | noEtherTransfer
  | invalidSignature
  | insufficientBalance
  | contractAlreadyExists
  | signerNonceTooHigh
  | executionReverted
  | executionHalted
  | parentBudgetExceeded
  | emptyCodeDeployed
  | noContractCreated
  | addressMismatch
  | gasLimitTooLow
  | insufficientComputeGas
  | initCodeTooLarge
  | signerHasCode
  | internalError
  | invalidTransaction
  | notIntercepted

/-- The fields an error type declares. -/
abbrev IKeylessDeploy.Fields : IKeylessDeploy → Type
  | nonZeroTxNonce | signerNonceTooHigh | executionHalted | emptyCodeDeployed => Nat
  | gasLimitTooLow | insufficientComputeGas | initCodeTooLarge => Nat × Nat
  | executionReverted => Nat × List Nat
  | parentBudgetExceeded => Nat × Nat × Nat
  | _ => Unit

/-- The generated ABI codec of the error types. -/
structure AbiCodec where
  selector : IKeylessDeploy → List Nat
  abiEncode : (type : IKeylessDeploy) → type.Fields → List Nat
  abiDecode : (type : IKeylessDeploy) → List Nat → Option type.Fields
  selector_injective : Function.Injective selector
  take_abiEncode : ∀ type fields, (abiEncode type fields).take 4 = selector type
  abiDecode_abiEncode : ∀ type fields, abiDecode type (abiEncode type fields) = some fields
  abiDecode_foreign : ∀ type output, output.take 4 ≠ selector type → abiDecode type output = none

def LimitKind.fromU8 : Nat → Option LimitKind
  | 0 => some dataSize
  | 1 => some kvUpdate
  | 2 => some computeGas
  | 3 => some stateGrowth
  | _ => none

theorem LimitKind.fromU8_asU8 (kind : LimitKind) : fromU8 kind.asU8 = some kind := by
  cases kind <;> rfl

namespace KeylessDeployError

/-- The error as it can be recovered: the reason of a halt is not encoded. -/
def withoutReason : KeylessDeployError → KeylessDeployError
  | executionHalted gasUsed _ => executionHalted gasUsed .outOfGas
  | error => error

end KeylessDeployError

namespace AbiCodec

variable (codec : AbiCodec)

def encodeErrorResult : KeylessDeployError → List Nat
  | .malformedEncoding => codec.abiEncode .malformedEncoding ()
  | .notContractCreation => codec.abiEncode .notContractCreation ()
  | .notPreEIP155 => codec.abiEncode .notPreEIP155 ()
  | .nonZeroTxNonce txNonce => codec.abiEncode .nonZeroTxNonce txNonce
  | .noEtherTransfer => codec.abiEncode .noEtherTransfer ()
  | .invalidSignature => codec.abiEncode .invalidSignature ()
  | .insufficientBalance => codec.abiEncode .insufficientBalance ()
  | .contractAlreadyExists => codec.abiEncode .contractAlreadyExists ()
  | .signerNonceTooHigh signerNonce => codec.abiEncode .signerNonceTooHigh signerNonce
  | .executionReverted gasUsed output => codec.abiEncode .executionReverted (gasUsed, output)
  | .executionHalted gasUsed _ => codec.abiEncode .executionHalted gasUsed
  | .parentBudgetExceeded kind limit used =>
    codec.abiEncode .parentBudgetExceeded (kind.asU8, limit, used)
  | .emptyCodeDeployed gasUsed => codec.abiEncode .emptyCodeDeployed gasUsed
  | .noContractCreated => codec.abiEncode .noContractCreated ()
  | .addressMismatch => codec.abiEncode .addressMismatch ()
  | .gasLimitTooLow txGasLimit providedGasLimit =>
    codec.abiEncode .gasLimitTooLow (txGasLimit, providedGasLimit)
  | .insufficientComputeGas limit used => codec.abiEncode .insufficientComputeGas (limit, used)
  | .initCodeTooLarge size max => codec.abiEncode .initCodeTooLarge (size, max)
  | .signerHasCode => codec.abiEncode .signerHasCode ()
  | .internalError => codec.abiEncode .internalError ()
  | .invalidTransaction => codec.abiEncode .invalidTransaction ()
  | .notIntercepted => codec.abiEncode .notIntercepted ()

/-- The types the decoder tries, in its order, with the error it makes of their fields. A number
that is no dimension makes none. -/
def attempts : List (Sigma fun type : IKeylessDeploy => type.Fields → Option KeylessDeployError) :=
  [⟨.noEtherTransfer, fun _ => some .noEtherTransfer⟩,
    ⟨.malformedEncoding, fun _ => some .malformedEncoding⟩,
    ⟨.notContractCreation, fun _ => some .notContractCreation⟩,
    ⟨.notPreEIP155, fun _ => some .notPreEIP155⟩,
    ⟨.nonZeroTxNonce, fun txNonce => some (.nonZeroTxNonce txNonce)⟩,
    ⟨.invalidSignature, fun _ => some .invalidSignature⟩,
    ⟨.insufficientBalance, fun _ => some .insufficientBalance⟩,
    ⟨.contractAlreadyExists, fun _ => some .contractAlreadyExists⟩,
    ⟨.signerNonceTooHigh, fun signerNonce => some (.signerNonceTooHigh signerNonce)⟩,
    ⟨.executionReverted, fun (gasUsed, output) => some (.executionReverted gasUsed output)⟩,
    ⟨.executionHalted, fun gasUsed => some (.executionHalted gasUsed .outOfGas)⟩,
    ⟨.parentBudgetExceeded, fun (kind, limit, used) =>
      (LimitKind.fromU8 kind).map fun kind => .parentBudgetExceeded kind limit used⟩,
    ⟨.emptyCodeDeployed, fun gasUsed => some (.emptyCodeDeployed gasUsed)⟩,
    ⟨.noContractCreated, fun _ => some .noContractCreated⟩,
    ⟨.addressMismatch, fun _ => some .addressMismatch⟩,
    ⟨.gasLimitTooLow, fun (txGasLimit, providedGasLimit) =>
      some (.gasLimitTooLow txGasLimit providedGasLimit)⟩,
    ⟨.initCodeTooLarge, fun (size, max) => some (.initCodeTooLarge size max)⟩,
    ⟨.signerHasCode, fun _ => some .signerHasCode⟩,
    ⟨.invalidTransaction, fun _ => some .invalidTransaction⟩,
    ⟨.internalError, fun _ => some .internalError⟩,
    ⟨.notIntercepted, fun _ => some .notIntercepted⟩]

/-- The first type that decodes the output decides. -/
def decodeErrorResult (output : List Nat) : Option KeylessDeployError :=
  (attempts.findSome? fun ⟨type, make⟩ => (codec.abiDecode type output).map make).join

/-! ### The round trip -/

/-- An encoding is refused by every other type. -/
theorem abiDecode_other {type other : IKeylessDeploy} (differs : other ≠ type)
    (fields : type.Fields) : codec.abiDecode other (codec.abiEncode type fields) = none := by
  refine codec.abiDecode_foreign other _ fun same => differs ?_
  exact codec.selector_injective (same.symm.trans (codec.take_abiEncode type fields))

/-- What the decoder makes of an encoded error: the error without the reason of a halt, and nothing
of too little compute gas. -/
theorem decodeErrorResult_eq (error : KeylessDeployError) :
    codec.decodeErrorResult (codec.encodeErrorResult error) =
      match error with
      | .insufficientComputeGas _ _ => none
      | error => some error.withoutReason := by
  cases error
  all_goals
    simp [decodeErrorResult, encodeErrorResult, attempts, codec.abiDecode_abiEncode,
      codec.abiDecode_other, LimitKind.fromU8_asU8, KeylessDeployError.withoutReason]

/-- Every error but one comes back, up to the reason of a halt, and no encoding is decoded as
another error. -/
theorem errorResult_roundTrip_iff (error : KeylessDeployError) :
    (codec.decodeErrorResult (codec.encodeErrorResult error) = some error.withoutReason ↔
      ∀ limit used, error ≠ .insufficientComputeGas limit used) ∧
    ∀ decoded, codec.decodeErrorResult (codec.encodeErrorResult error) = some decoded →
      decoded = error.withoutReason := by
  rw [codec.decodeErrorResult_eq]
  cases error
  case insufficientComputeGas limit used =>
    exact ⟨iff_of_false nofun fun differs => differs limit used rfl, nofun⟩
  all_goals exact ⟨iff_of_true rfl nofun, fun _ same => (Option.some.inj same).symm⟩

/-! ### An error that is not decoded -/

instance (type : IKeylessDeploy) : Encodable type.Fields := by
  cases type <;> infer_instance

/-- A codec that numbers the types, and writes the fields as one number. -/
def numbered : AbiCodec where
  selector type := [type.ctorIdx, 0, 0, 0]
  abiEncode type fields := [type.ctorIdx, 0, 0, 0, Encodable.encode fields]
  abiDecode type output :=
    if output.take 4 = [type.ctorIdx, 0, 0, 0] then output[4]?.bind Encodable.decode else none
  selector_injective first second same := by
    cases first <;> cases second <;> first | rfl | cases same
  take_abiEncode _ _ := rfl
  abiDecode_abiEncode _ _ := by simp [Encodable.encodek]
  abiDecode_foreign _ _ differs := if_neg differs

/-- The report that compute gas is missing is encoded, and not decoded. -/
theorem insufficientComputeGas_not_decoded :
    numbered.decodeErrorResult
      (numbered.encodeErrorResult (.insufficientComputeGas 30000000 30100000)) = none :=
  numbered.decodeErrorResult_eq _

end AbiCodec

end MegaEvm
