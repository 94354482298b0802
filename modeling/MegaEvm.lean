import MegaEvm.Limit.Operations
import MegaEvm.Evm.KvBudget
import MegaEvm.Evm.Conservation
import MegaEvm.Growth.Refunds
import MegaEvm.Sandbox.Replay
import MegaEvm.Block.Executor
import MegaEvm.Registry.Chain
import MegaEvm.Access.Scope
import MegaEvm.Evm.MergeCommit
import MegaEvm.Sandbox.Revertible
import MegaEvm.Sandbox.Transfer
import MegaEvm.Limit.OwnWrites
import MegaEvm.Sandbox.Budgets
import MegaEvm.Evm.InitialGas
import MegaEvm.Evm.KeylessDispatch
import MegaEvm.Evm.FailedSelfdestruct
import MegaEvm.Access.Detention
import MegaEvm.Evm.Nesting
import MegaEvm.Evm.Delegation
import MegaEvm.Sandbox.ErrorCodec
import MegaEvm.Registry.Oracle
import MegaEvm.External.Gas
