import Lvp.Controller

/-! The handlers of `node.rs`. -/

namespace Lvp
open Unix Effect Csi

/-- `mount` as `mount_volume` spells it. -/
def mountCommand (bind readonly : Bool) (source target : Path) : List String :=
  ["mount"] ++ (if bind then ["bind"] else []) ++ (if readonly then ["-r"] else []) ++ [source, target]

def loopFor (loopDevice : Option Path) (source : Path) : Action Failure Path :=
  match loopDevice with
  | some device => pure device
  | none => runInChroot ["losetup", "--show", "-L", "-f", source]

def mountVolume (loopDevice : Option Path) (source target : Path) (isReadonly : Bool)
    (filesystem : Filesystem) : Action Failure (Option Path) :=
  if filesystem = .bind then do
    let _ ← run (mountCommand true isReadonly source target)
    pure none
  else do
    let device ← loopFor loopDevice source
    let _ ← runInChroot (mountCommand false isReadonly device target)
    pure (some device)

def unloopVolume (device : Path) : Action Failure Unit := do
  let _ ← runInChroot ["losetup", "-d", device]

def unmountVolume (target : Path) : Action Failure Unit := do
  let _ ← runInChroot ["umount", target]

def growFilesystem (filesystem : Filesystem) (device : Path) : Action Failure Unit :=
  match filesystem with
  | .ext4 => do let _ ← run ["resize2fs", device]
  | .xfs => do let _ ← run ["xfs_growfs", "-d", device]
  | .bind => pure ()

def expandVolume (sourceFile loopDevice : Path) (size : UInt64) (filesystem : Filesystem) :
    Action Failure Unit :=
  if filesystem = .bind then pure ()
  else do
    let _ ← issue (.openWrite sourceFile)
    let _ ← issue (.ftruncate sourceFile size.toInt64)
    let _ ← runInChroot ["losetup", "-c", loopDevice]
    growFilesystem filesystem loopDevice

def createParent (path : Path) : Action Failure Unit :=
  match parent path with
  | some parent => issue (.createDirAll parent)
  | none => pure ()

def format (filesystem : Filesystem) (path : Path) : Action Failure Unit :=
  match filesystem with
  | .ext4 => do let _ ← spawn ["mkfs.ext4", path]
  | .xfs => do let _ ← spawn ["mkfs.xfs", path]
  | .bind => pure ()

def makeVolume (path : Path) (size : UInt64) (filesystem : Filesystem) : Action Failure Unit := do
  let present : Bool ← issue (.tryExists path)
  .reject present (.io .alreadyExists)
  if filesystem = .bind then
    issue (.createDirAll path)
  else do
    createParent path
    let _ ← issue (.createFile path)
    let _ ← issue (.ftruncate path size.toInt64)
    format filesystem path

/-! ### NodePublishVolume -/

/-- The `match` on the state in `node_publish_volume`. -/
def admitPublish (volume : Volume) (requested : VolumeConfig) (target : Path) : Action Status Unit :=
  match volume.state with
  | .nodePublished =>
    match volume.publishedConfig with
    | some config => do
      .reject (config.mode ≠ .singleNodeMultiWriter ∧ ¬Contains volume.mountPaths target)
        (.failedPrecondition "volume already published on node and not configured for multiwrite")
      .reject (config ≠ requested) (.failedPrecondition "volume attempted to mount in different mode")
    | none => pure ()
  | .«open» => .raise (.failedPrecondition "volume not published on controller")
  | .controllerPublished => pure ()

/-- One leading separator is dropped before the join. -/
def relativeHostPath (hostPath : String) : String :=
  if isAbsolute hostPath then String.ofList hostPath.toList.tail else hostPath

def publishPath (config : Config) (volume : Volume) : Path :=
  join config.hostPrefix (relativeHostPath volume.hostPath)

/-- Makes the backing file or directory when its path is missing, and pins the volume to this node. -/
def ensureBacking (config : Config) (volume : Volume) : Action Status Volume := do
  let path := publishPath config volume
  let present : Bool ← (issue (.tryExists path)).mapErr fun _ =>
    Status.internal "failed to check volume existance"
  if present then
    pure volume
  else do
    (makeVolume path volume.size volume.filesystem).mapErr fun _ => Status.internal "internal failure"
    let pinned := { volume with assignedNodeId := some config.node }
    pinned.update.mapErr fun _ => Status.internal "internal failure"
    pure pinned

def mountedAt (volume : Volume) (device : Option Path) (target : Path) : Volume :=
  { volume with
    loopDevice := if volume.loopDevice.isNone ∧ device.isSome then device else volume.loopDevice
    mountPaths := volume.mountPaths ++ [target]
    state := .nodePublished }

def mountAndRecord (config : Config) (request : NodePublishVolumeRequest) (volume : Volume) :
    Action Status Unit := do
  let device ← (mountVolume volume.loopDevice (publishPath config volume) request.targetPath
    (request.readonly || volume.publishedReadonly) volume.filesystem).mapErr fun _ =>
      Status.internal "failed to mount volume"
  (mountedAt volume device request.targetPath).update.mapErr fun _ =>
    Status.internal "failed to update volume"

def nodePublishVolume (config : Config) (request : NodePublishVolumeRequest) : Action Status Unit := do
  .reject (request.volumeId = "") (.invalidArgument "volume_id is missing")
  .reject (request.targetPath = "") (.invalidArgument "missing target_path")
  let capability ← .ofOption (.invalidArgument "missing volume_capability") request.volumeCapability
  let (requested, filesystem) ← .ofExcept (parseVolumeCapability capability)
  let volume ← loadVolume request.volumeId
  .reject (requested ∉ volume.validConfigs ∨ OtherFilesystem filesystem volume)
    (.alreadyExists "incompatible volume_capability")
  refuse (lockedElsewhere volume config.node)
  admitPublish volume requested request.targetPath
  if Contains volume.mountPaths request.targetPath then
    pure ()
  else do
    (issue (.createDirAll request.targetPath)).mapErr fun _ =>
      Status.internal "failed to create volume mountdir"
    let backed ← ensureBacking config volume
    mountAndRecord config request backed

/-! ### NodeUnpublishVolume and NodeExpandVolume -/

/-- The record once `target` is unmounted; the last unmount gives up the loop device. -/
def unmountedFrom (volume : Volume) (target : Path) : Volume :=
  let remaining := volume.mountPaths.filter (¬same · target)
  if remaining = [] then
    { volume with mountPaths := [], state := .controllerPublished, loopDevice := none }
  else { volume with mountPaths := remaining }

/-- Detaches the device of a volume that is no longer mounted; a failure is only logged. -/
def releaseLoop (before after : Volume) : Action Status Unit :=
  match before.loopDevice, after.mountPaths with
  | some device, [] => do let _ ← (unloopVolume device).attempt
  | _, _ => pure ()

def nodeUnpublishVolume (request : NodeUnpublishVolumeRequest) : Action Status Unit := do
  .reject (request.volumeId = "") (.invalidArgument "volume_id not found")
  .reject (request.targetPath = "") (.invalidArgument "missing target_path")
  let volume ← loadVolume request.volumeId
  if volume.state ≠ .nodePublished ∨ ¬Contains volume.mountPaths request.targetPath then
    pure ()
  else do
    (unmountVolume request.targetPath).mapErr fun _ => Status.internal "failed to unmount volume"
    let remaining := unmountedFrom volume request.targetPath
    releaseLoop volume remaining
    remaining.update.mapErr fun _ => Status.internal "failed to save volume"
    let _ ← (issue (.removeDir request.targetPath)).attempt

def nodeExpandVolume (config : Config) (request : NodeExpandVolumeRequest) :
    Action Status NodeExpandVolumeResponse := do
  .reject (request.volumeId = "") (.invalidArgument "volume_id not found")
  .reject (request.volumePath = "") (.invalidArgument "volume_path not found")
  let volume ← loadVolume request.volumeId
  .reject (volume.state ≠ .nodePublished ∨ ¬Contains volume.mountPaths request.volumePath)
    (.notFound "volume path and id not found")
  let targetCapacity := requestedSize request.capacityRange
  if targetCapacity ≤ volume.size then
    pure ⟨volume.size.toInt64⟩
  else do
    let loopDevice ← .ofOption (.notFound "loop device not found") volume.loopDevice
    (expandVolume (recordPath config volume) loopDevice targetCapacity volume.filesystem).mapErr fun _ =>
      Status.internal "failed to resize volume"
    let expanded := { volume with size := targetCapacity }
    expanded.update.mapErr fun _ => Status.internal "failed to save volume"
    pure ⟨expanded.size.toInt64⟩

/-! ### NodeGetVolumeStats -/

def usage (stats : Stats) : List VolumeUsage :=
  [⟨(stats.blocksFreeUnprivileged * stats.blockSize).toInt64,
    (stats.blockCount * stats.blockSize).toInt64,
    ((stats.blockCount - stats.blocksFreeUnprivileged) * stats.blockSize).toInt64, .bytes⟩,
   ⟨stats.inodesFreeUnprivileged.toInt64, stats.inodes.toInt64,
    (stats.inodes - stats.inodesFreeUnprivileged).toInt64, .inodes⟩]

def nodeGetVolumeStats (request : NodeGetVolumeStatsRequest) : Action Status NodeGetVolumeStatsResponse := do
  .reject (request.volumeId = "") (.invalidArgument "volume_id not found")
  .reject (request.volumePath = "") (.invalidArgument "volume_path not found")
  let volume ← loadVolume request.volumeId
  .reject (volume.state ≠ .nodePublished ∨ ¬Contains volume.mountPaths request.volumePath)
    (.notFound "volume path and id not found")
  let stats ← (statfs request.volumePath).mapErr fun _ => Status.internal "internal failure"
  pure ⟨usage stats, some ⟨false, ""⟩⟩

end Lvp
