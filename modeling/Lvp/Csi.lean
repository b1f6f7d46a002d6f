import Mathlib.Data.List.AList

/-!
The messages of `csi.proto` as far as the handlers read or fill them, and the gRPC status of
an error.
-/

namespace Lvp.Csi

inductive Code where
  | invalidArgument
  | notFound
  | alreadyExists
  | failedPrecondition
  | aborted
  | resourceExhausted
  | internal
  deriving DecidableEq, Repr

structure Status where
  code : Code
  message : String
  deriving DecidableEq, Repr

namespace Status

def invalidArgument (message : String) : Status := ⟨.invalidArgument, message⟩
def notFound (message : String) : Status := ⟨.notFound, message⟩
def alreadyExists (message : String) : Status := ⟨.alreadyExists, message⟩
def failedPrecondition (message : String) : Status := ⟨.failedPrecondition, message⟩
def aborted (message : String) : Status := ⟨.aborted, message⟩
def resourceExhausted (message : String) : Status := ⟨.resourceExhausted, message⟩
def internal (message : String) : Status := ⟨.internal, message⟩

end Status

/-- `map<string, string>`: distinct keys, iterated in some order. -/
abbrev StringMap := AList (fun _ : String => String)

inductive Mode where
  | unknown
  | singleNodeWriter
  | singleNodeReaderOnly
  | multiNodeReaderOnly
  | multiNodeSingleWriter
  | multiNodeMultiWriter
  | singleNodeSingleWriter
  | singleNodeMultiWriter
  deriving DecidableEq, Repr

/-- The enumeration travels as an `int32`. -/
structure AccessMode where
  raw : Int32
  deriving DecidableEq

/-- Numbers outside the enumeration read as its default. -/
def AccessMode.mode (accessMode : AccessMode) : Mode :=
  if accessMode.raw = 1 then .singleNodeWriter
  else if accessMode.raw = 2 then .singleNodeReaderOnly
  else if accessMode.raw = 3 then .multiNodeReaderOnly
  else if accessMode.raw = 4 then .multiNodeSingleWriter
  else if accessMode.raw = 5 then .multiNodeMultiWriter
  else if accessMode.raw = 6 then .singleNodeSingleWriter
  else if accessMode.raw = 7 then .singleNodeMultiWriter
  else .unknown

structure MountVolume where
  fsType : String := ""
  mountFlags : List String := []
  deriving DecidableEq

inductive AccessType where
  | block
  | mount (mount : MountVolume)
  deriving DecidableEq

structure VolumeCapability where
  accessMode : Option AccessMode
  accessType : Option AccessType
  deriving DecidableEq

structure CapacityRange where
  requiredBytes : Int64
  limitBytes : Int64
  deriving DecidableEq

structure CreateVolumeRequest where
  name : String
  capacityRange : Option CapacityRange := none
  volumeCapabilities : List VolumeCapability
  parameters : StringMap
  deriving DecidableEq

structure DeleteVolumeRequest where
  volumeId : String
  deriving DecidableEq

structure ControllerPublishVolumeRequest where
  volumeId : String
  nodeId : String
  volumeCapability : Option VolumeCapability
  readonly : Bool
  deriving DecidableEq

structure ControllerUnpublishVolumeRequest where
  volumeId : String
  nodeId : String
  deriving DecidableEq

structure ValidateVolumeCapabilitiesRequest where
  volumeId : String
  volumeCapabilities : List VolumeCapability
  deriving DecidableEq

structure NodePublishVolumeRequest where
  volumeId : String
  targetPath : String
  volumeCapability : Option VolumeCapability
  readonly : Bool
  deriving DecidableEq

structure NodeUnpublishVolumeRequest where
  volumeId : String
  targetPath : String
  deriving DecidableEq

structure NodeExpandVolumeRequest where
  volumeId : String
  volumePath : String
  capacityRange : Option CapacityRange
  deriving DecidableEq

/-- `Volume` of the protocol, as the controller reports it. -/
structure Volume where
  capacityBytes : Int64
  volumeId : String
  accessibleTopology : List (List (String × String))
  deriving DecidableEq

structure CreateVolumeResponse where
  volume : Volume
  deriving DecidableEq

structure Confirmed where
  volumeContext : StringMap
  volumeCapabilities : List VolumeCapability
  parameters : StringMap
  deriving DecidableEq

structure ValidateVolumeCapabilitiesResponse where
  confirmed : Option Confirmed
  message : String
  deriving DecidableEq

structure NodeExpandVolumeResponse where
  capacityBytes : Int64
  deriving DecidableEq

/-! ### Messages that only report -/

structure ListVolumesRequest where
  maxEntries : Int32
  startingToken : String
  deriving DecidableEq

structure VolumeCondition where
  abnormal : Bool
  message : String
  deriving DecidableEq

/-- `VolumeStatus` of both responses that carry one. -/
structure VolumeStatus where
  publishedNodeIds : List String
  volumeCondition : Option VolumeCondition
  deriving DecidableEq

structure Entry where
  volume : Volume
  status : VolumeStatus
  deriving DecidableEq

structure ListVolumesResponse where
  entries : List Entry
  nextToken : String
  deriving DecidableEq

structure ControllerGetVolumeRequest where
  volumeId : String
  deriving DecidableEq

structure ControllerGetVolumeResponse where
  volume : Volume
  status : VolumeStatus
  deriving DecidableEq

structure Topology where
  segments : StringMap
  deriving DecidableEq

structure GetCapacityRequest where
  parameters : StringMap
  accessibleTopology : Option Topology
  deriving DecidableEq

structure GetCapacityResponse where
  availableCapacity : Int64
  maximumVolumeSize : Option Int64
  minimumVolumeSize : Option Int64
  deriving DecidableEq

structure NodeGetVolumeStatsRequest where
  volumeId : String
  volumePath : String
  deriving DecidableEq

inductive VolumeUsage.Unit where
  | unknown
  | bytes
  | inodes
  deriving DecidableEq, Repr

structure VolumeUsage where
  available : Int64
  total : Int64
  used : Int64
  unit : VolumeUsage.Unit
  deriving DecidableEq

structure NodeGetVolumeStatsResponse where
  usage : List VolumeUsage
  volumeCondition : Option VolumeCondition
  deriving DecidableEq

/-! ### What the plugin says about itself -/

/-- `PluginCapability.Service.Type`. -/
inductive ServiceType where
  | unknown
  | controllerService
  | volumeAccessibilityConstraints
  | groupControllerService
  deriving DecidableEq, Repr

/-- `PluginCapability.VolumeExpansion.Type`. -/
inductive VolumeExpansionType where
  | unknown
  | online
  | offline
  deriving DecidableEq, Repr

inductive PluginCapability where
  | service (type : ServiceType)
  | volumeExpansion (type : VolumeExpansionType)
  deriving DecidableEq, Repr

/-- `ControllerServiceCapability.RPC.Type`. -/
inductive ControllerRpc where
  | unknown
  | createDeleteVolume
  | publishUnpublishVolume
  | listVolumes
  | getCapacity
  | createDeleteSnapshot
  | listSnapshots
  | cloneVolume
  | publishReadonly
  | expandVolume
  | listVolumesPublishedNodes
  | volumeCondition
  | getVolume
  | singleNodeMultiWriter
  deriving DecidableEq, Repr

/-- `NodeServiceCapability.RPC.Type`. -/
inductive NodeRpc where
  | unknown
  | stageUnstageVolume
  | getVolumeStats
  | expandVolume
  | volumeCondition
  | singleNodeMultiWriter
  | volumeMountGroup
  deriving DecidableEq, Repr

structure GetPluginInfoResponse where
  name : String
  vendorVersion : String
  manifest : StringMap
  deriving DecidableEq

structure GetPluginCapabilitiesResponse where
  capabilities : List PluginCapability
  deriving DecidableEq

structure ProbeResponse where
  ready : Option Bool
  deriving DecidableEq

structure ControllerGetCapabilitiesResponse where
  capabilities : List ControllerRpc
  deriving DecidableEq

structure NodeGetCapabilitiesResponse where
  capabilities : List NodeRpc
  deriving DecidableEq

structure NodeGetInfoResponse where
  nodeId : String
  maxVolumesPerNode : Int64
  accessibleTopology : Option Topology
  deriving DecidableEq

end Lvp.Csi
