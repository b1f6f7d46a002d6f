import Lvp.Footprint
import Lvp.Stored
import Lvp.Backing
import Lvp.Deletion
import Lvp.Reconciliation
import Lvp.Isolation
import Lvp.Unix.Mounts
import Lvp.Ledger
import Lvp.Refinement
import Lvp.Lifecycle
import Lvp.Agreement
import Lvp.Exclusion
import Lvp.Effect.Protocol
import Lvp.Progress
import Lvp.Sequence
import Lvp.Custody
import Lvp.Unpublishing
import Lvp.Making
import Lvp.Capacity
import Lvp.Looping
import Lvp.Outcome
import Lvp.Pinning
import Lvp.Publication
import Lvp.Repetition
import Lvp.Capabilities
import Lvp.Usage
import Lvp.Paging
import Lvp.Rejection
import Lvp.Validation
import Lvp.Pagination
import Lvp.Sizing
import Lvp.Placement
import Lvp.Retrying
import Lvp.Creation
import Lvp.Identity
import Lvp.Reporting
import Lvp.Rpc
import Lvp.Failing
import Lvp.ConfigMap
import Lvp.Format.Json
import Lvp.Format.Codec
import Lvp.Serialization
import Lvp.Persistence
import Lvp.Containment
import Lvp.Surroundings
import Lvp.Effect.Retry
import Lvp.Resending
import Lvp.Teardown
import Lvp.Unix.Access
import Lvp.Effect.Total
import Lvp.Provisioning
import Lvp.Effect.Serial
import Lvp.Serializability
