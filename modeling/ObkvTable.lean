import ObkvTable.Wire
import ObkvTable.Reference
import ObkvTable.OperationType
import ObkvTable.Entity
import ObkvTable.Operation
import ObkvTable.Batch
import ObkvTable.Classifier
import ObkvTable.Tablet
import ObkvTable.Lifecycle
import ObkvTable.Request
import ObkvTable.Result
import ObkvTable.RpcResult
import ObkvTable.Framing
