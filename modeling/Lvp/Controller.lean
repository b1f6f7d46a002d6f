import Mathlib.Data.List.Infix
import Mathlib.Data.List.Sort
import Mathlib.Data.String.Basic
import Lvp.Statfs

/-! The handlers of `controller.rs`. -/

namespace Lvp
open Unix Effect Csi

/-- `CONFIG` and `NODE`. -/
structure Config where
  hostPrefix : Path
  node : String

def parseFilesystem (text : String) : Except Status Filesystem :=
  if text = "ext4" then .ok .ext4
  else if text = "xfs" then .ok .xfs
  else if text = "bind" then .ok .bind
  else .error (.invalidArgument "unknown fs_type, only 'ext4', 'xfs', or 'bind' allowed")

def parseMode : Mode → Except Status VolumeMode
  | .singleNodeWriter => .ok .singleNodeWriter
  | .singleNodeReaderOnly => .ok .singleNodeReader
  | .singleNodeSingleWriter => .ok .singleNodeSingleWriter
  | .singleNodeMultiWriter => .ok .singleNodeMultiWriter
  | _ => .error (.invalidArgument "unsupported volume mode")

def parseVolumeCapability (capability : VolumeCapability) :
    Except Status (VolumeConfig × Option Filesystem) :=
  match capability.accessMode with
  | none => .error (.invalidArgument "missing access_mode")
  | some accessMode =>
    match capability.accessType with
    | none => .error (.invalidArgument "missing access_type")
    | some .block => .error (.invalidArgument "only mount-type access_types allowed")
    | some (.mount mount) => do
      let filesystem ← if mount.fsType = "" then .ok none else (parseFilesystem mount.fsType).map some
      if mount.mountFlags ≠ [] then
        .error (.invalidArgument "mount_flags not supported")
      else do
        let mode ← parseMode accessMode.mode
        .ok (⟨mode⟩, filesystem)

/-! ### CreateVolume -/

/-- One round of the loop over `parameters`. -/
def readParameter (found : Option String × Option Filesystem) (entry : (_ : String) × String) :
    Except Status (Option String × Option Filesystem) :=
  if entry.1 = "host_base_path" then .ok (some entry.2, found.2)
  else if entry.1 = "fs_type" then (parseFilesystem entry.2).map fun filesystem => (found.1, some filesystem)
  else .error (.invalidArgument ("unknown parameter " ++ entry.1))

/-- One round of the loop over `volume_capabilities`. -/
def readCapability (found : List VolumeConfig × Option Filesystem) (capability : VolumeCapability) :
    Except Status (List VolumeConfig × Option Filesystem) := do
  let (config, filesystem) ← parseVolumeCapability capability
  if found.2.isNone ∧ filesystem.isSome then .ok (found.1 ++ [config], filesystem)
  else if found.2.isSome ∧ filesystem.isSome ∧ found.2 ≠ filesystem then
    .error (.invalidArgument "conflicting filesystems specified")
  else .ok (found.1 ++ [config], found.2)

def InvalidName (name : String) : Prop :=
  "/..".toList <:+: name.toList ∨ "../".toList <:+: name.toList ∨ name = ".." ∨ name = "." ∨ name = "./"

instance (name : String) : Decidable (InvalidName name) := inferInstanceAs (Decidable (_ ∨ _))

/-- The two stripping loops over `host_base_path`, first at its end, then at its start. -/
def stripSlashes (base : String) : String :=
  String.ofList ((base.toList.rdropWhile (· = '/')).dropWhile (· = '/'))

def hostPath (base name : String) : String := stripSlashes base ++ "/" ++ name

/-- `capacity_range` of a new volume, or 1 GiB. -/
def requestedSize (range : Option CapacityRange) : UInt64 :=
  match range with
  | none => 1073741824
  | some range => range.requiredBytes.toUInt64

def freshVolume (request : CreateVolumeRequest) (base : String) (filesystem : Filesystem)
    (validConfigs : List VolumeConfig) : Volume where
  name := request.name
  size := requestedSize request.capacityRange
  assignedNodeId := none
  state := .«open»
  publishedReadonly := false
  publishedConfig := none
  filesystem := filesystem
  validConfigs := validConfigs
  loopDevice := none
  mountPaths := []
  hostPath := hostPath base request.name

def newVolume (request : CreateVolumeRequest) : Except Status Volume :=
  if request.name = "" then .error (.invalidArgument "missing name")
  else if request.volumeCapabilities = [] then .error (.invalidArgument "no capabilities specified")
  else do
    let (base, named) ← request.parameters.entries.foldlM readParameter (none, none)
    match base with
    | none => .error (.invalidArgument "missing host_base_path")
    | some base => do
      let (validConfigs, named) ← request.volumeCapabilities.foldlM readCapability ([], named)
      if InvalidName request.name then .error (.invalidArgument "invalid volume name")
      else .ok (freshVolume request base (named.getD default) validConfigs)

def topology (assignedNodeId : Option String) : List (List (String × String)) :=
  [(assignedNodeId.map fun node => [("node", node)]).getD []]

def createdVolume (volume : Volume) : CreateVolumeResponse :=
  ⟨⟨volume.size.toInt64, volume.name, topology volume.assignedNodeId⟩⟩

def Reconciles (existing requested : Volume) : Prop :=
  existing.validConfigs = requested.validConfigs ∧ existing.filesystem = requested.filesystem ∧
    existing.hostPath = requested.hostPath ∧ existing.assignedNodeId = requested.assignedNodeId ∧
    existing.size = requested.size

instance (existing requested : Volume) : Decidable (Reconciles existing requested) :=
  inferInstanceAs (Decidable (_ ∧ _))

def createVolume (request : CreateVolumeRequest) : Action Status CreateVolumeResponse := do
  let volume ← .ofExcept (newVolume request)
  let creation ← volume.create.mapErr fun _ => Status.internal "internal failure"
  match creation with
  | .alreadyExists => do
    let found ← (Volume.load volume.name).mapErr fun _ => Status.internal "internal failure"
    let existing ← .ofOption (.alreadyExists "volume name already exists") found
    .reject (¬Reconciles existing volume) (.alreadyExists "volume name already exists")
    pure (createdVolume volume)
  | .success => pure (createdVolume volume)

/-! ### The other handlers -/

def debugState : VolumeState → String
  | .«open» => "Open"
  | .controllerPublished => "ControllerPublished"
  | .nodePublished => "NodePublished"

/-- The path `delete_volume` and `node_expand_volume` join from the stored string. -/
def recordPath (config : Config) (volume : Volume) : Path := join config.hostPrefix volume.hostPath

def removeBacking (filesystem : Filesystem) (path : Path) : Action Failure Unit :=
  if filesystem = .bind then issue (.removeDirAll path) else issue (.removeFile path)

def deleteVolume (config : Config) (request : DeleteVolumeRequest) : Action Status Unit := do
  .reject (request.volumeId = "") (.invalidArgument "missing volume_id")
  let found ← (Volume.load request.volumeId).mapErr fun _ => Status.internal "internal failure"
  match found with
  | none => pure ()
  | some volume => do
    .reject (volume.state ≠ .«open»)
      (.failedPrecondition ("volume is in use, state = " ++ debugState volume.state))
    (removeBacking volume.filesystem (recordPath config volume)).mapErr fun _ =>
      Status.internal "internal failure"
    volume.delete.mapErr fun _ => Status.internal "internal failure"

/-- The `match` on `Volume::load` that most handlers open with. -/
def loadVolume (volumeId : String) : Action Status Volume := do
  let found ← (Volume.load volumeId).mapErr fun _ => Status.internal "internal failure"
  .ofOption (.notFound "volume_id not found") found

def OtherFilesystem (requested : Option Filesystem) (volume : Volume) : Prop :=
  ∃ filesystem ∈ requested, filesystem ≠ volume.filesystem

instance (requested : Option Filesystem) (volume : Volume) : Decidable (OtherFilesystem requested volume) :=
  decidable_of_iff (requested.any (· ≠ volume.filesystem) = true) (by
    cases requested <;> simp [OtherFilesystem])

def lockedElsewhere (volume : Volume) (node : String) : Option Status :=
  match volume.assignedNodeId with
  | some assigned =>
    if assigned ≠ node then
      some (.notFound ("volume is locked to node " ++ assigned ++ ", cannot move volume through publish"))
    else none
  | none => none

def refuse (status : Option Status) : Action Status Unit :=
  match status with
  | some status => .raise status
  | none => .ret ()

def controllerPublishVolume (request : ControllerPublishVolumeRequest) : Action Status Unit := do
  .reject (request.volumeId = "") (.invalidArgument "missing volume_id")
  .reject (request.nodeId = "") (.invalidArgument "missing node_id")
  .reject request.volumeCapability.isNone (.invalidArgument "no capabilities specified")
  let volume ← loadVolume request.volumeId
  refuse (lockedElsewhere volume request.nodeId)
  let capability ← .ofOption (.invalidArgument "missing volume_capability") request.volumeCapability
  let (config, filesystem) ← .ofExcept (parseVolumeCapability capability)
  match volume.state with
  | .nodePublished => .raise (.failedPrecondition "volume currently mounted on node")
  | .controllerPublished =>
    .reject (config ∉ volume.validConfigs ∨ OtherFilesystem filesystem volume ∨
      volume.publishedReadonly ≠ request.readonly) (.alreadyExists "incompatible volume_capability")
  | .«open» => do
    .reject (config ∉ volume.validConfigs) (.invalidArgument "incompatible volume_capability")
    let published := { volume with
      publishedConfig := some config
      state := .controllerPublished
      publishedReadonly := request.readonly }
    published.update.mapErr fun _ => Status.internal "failed to update volume"

def controllerUnpublishVolume (request : ControllerUnpublishVolumeRequest) : Action Status Unit := do
  .reject (request.volumeId = "") (.invalidArgument "missing volume_id")
  let found ← (Volume.load request.volumeId).mapErr fun _ => Status.internal "internal failure"
  match found with
  | none => pure ()
  | some volume =>
    match volume.state with
    | .nodePublished => .raise (.failedPrecondition "volume currently mounted on node")
    | .«open» => pure ()
    | .controllerPublished =>
      let unpublished := { volume with
        state := .«open»
        publishedConfig := none
        publishedReadonly := false }
      unpublished.update.mapErr fun _ => Status.internal "failed to update volume"

/-- One round of the loop over `volume_capabilities`. -/
def validateCapability (volume : Volume) (capability : VolumeCapability) : Except Status Unit := do
  let (config, filesystem) ← parseVolumeCapability capability
  if config ∉ volume.validConfigs ∨ OtherFilesystem filesystem volume then
    .error (.alreadyExists "incompatible volume_capability")
  else .ok ()

def validateVolumeCapabilities (request : ValidateVolumeCapabilitiesRequest) :
    Action Status ValidateVolumeCapabilitiesResponse := do
  .reject (request.volumeId = "") (.invalidArgument "missing volume_id")
  .reject (request.volumeCapabilities = []) (.invalidArgument "no capabilities specified")
  let volume ← loadVolume request.volumeId
  .ofExcept (forM request.volumeCapabilities (validateCapability volume))
  pure ⟨some ⟨∅, request.volumeCapabilities, ∅⟩, ""⟩

/-! ### ListVolumes, ControllerGetVolume and GetCapacity -/

/-- `Volume` of the protocol as both reports fill it in. -/
def rawVolume (volume : Volume) : Csi.Volume :=
  ⟨volume.size.toInt64, volume.name, topology volume.assignedNodeId⟩

def publishedNodeIds (volume : Volume) : List String :=
  if volume.state = .nodePublished then [volume.assignedNodeId.getD ""] else []

def volumeStatus (volume : Volume) : VolumeStatus := ⟨publishedNodeIds volume, none⟩

/-- The loop over the sorted volumes, with the entries pushed so far. -/
def listEntries (request : ListVolumesRequest) : List Entry → List Volume → ListVolumesResponse
  | entries, [] => ⟨entries, ""⟩
  | entries, volume :: rest =>
    if request.startingToken ≠ "" ∧ volume.name ≤ request.startingToken then listEntries request entries rest
    else
      let pushed := entries ++ [⟨rawVolume volume, volumeStatus volume⟩]
      if 0 < request.maxEntries ∧ request.maxEntries.toInt.toNat ≤ pushed.length then ⟨pushed, volume.name⟩
      else listEntries request pushed rest

def listVolumes (request : ListVolumesRequest) : Action Status ListVolumesResponse := do
  let volumes : List Volume ← Volume.list.mapErr fun _ => Status.internal "failed to list volumes"
  let sorted := volumes.insertionSort (·.name ≤ ·.name)
  .reject (request.startingToken ≠ "" ∧ ∀ volume ∈ sorted, volume.name ≠ request.startingToken)
    (.aborted "invalid starting_token")
  pure (listEntries request [] sorted)

def controllerGetVolume (request : ControllerGetVolumeRequest) : Action Status ControllerGetVolumeResponse := do
  .reject (request.volumeId = "") (.invalidArgument "missing volume_id")
  let volume ← loadVolume request.volumeId
  pure ⟨rawVolume volume, volumeStatus volume⟩

/-- One round of the loop over `parameters` in `get_capacity`. -/
def readCapacityParameter (_ : Option String) (entry : (_ : String) × String) : Except Status (Option String) :=
  if entry.1 = "host_base_path" then .ok (some entry.2)
  else .error (.invalidArgument ("unknown parameter " ++ entry.1))

def getCapacity (config : Config) (request : GetCapacityRequest) : Action Status GetCapacityResponse := do
  .reject (∃ topology ∈ request.accessibleTopology, ∃ entry ∈ topology.segments.entries,
      entry.1 ≠ "node" ∨ entry.2 ≠ config.node)
    (.resourceExhausted "invalid accessibility_requirements, only allowed node=<node id>")
  let base ← .ofExcept (request.parameters.entries.foldlM readCapacityParameter none)
  match base with
  | none => pure ⟨0, none, none⟩
  | some base => do
    let stats ← (statfs base).mapErr fun _ => Status.internal "failed to get fs stats"
    pure ⟨(stats.blocksFreeUnprivileged * stats.blockSize).toInt64, none, none⟩

end Lvp
