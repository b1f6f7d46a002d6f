import Lvp.Effect.Erasure
import Lvp.Server

/-!
The whole gRPC surface: the lifecycle requests of `Request`, the reports, what `identity.rs` and the
capability handlers say about the plugin, and the calls it does not implement.
-/

namespace Lvp
open Unix Effect Csi

/-- One request to any of the three services. Requests that are only logged carry nothing. -/
inductive Rpc where
  | lifecycle (request : Request)
  | validateVolumeCapabilities (request : ValidateVolumeCapabilitiesRequest)
  | listVolumes (request : ListVolumesRequest)
  | getCapacity (request : GetCapacityRequest)
  | controllerGetVolume (request : ControllerGetVolumeRequest)
  | nodeGetVolumeStats (request : NodeGetVolumeStatsRequest)
  | getPluginInfo
  | getPluginCapabilities
  | probe
  | controllerGetCapabilities
  | nodeGetCapabilities
  | nodeGetInfo
  | createSnapshot
  | deleteSnapshot
  | listSnapshots
  | controllerExpandVolume
  | nodeStageVolume
  | nodeUnstageVolume
  deriving DecidableEq

inductive RpcReply where
  | lifecycle (reply : Reply)
  | validated (response : ValidateVolumeCapabilitiesResponse)
  | listed (response : ListVolumesResponse)
  | capacity (response : GetCapacityResponse)
  | volume (response : ControllerGetVolumeResponse)
  | stats (response : NodeGetVolumeStatsResponse)
  | pluginInfo (response : GetPluginInfoResponse)
  | pluginCapabilities (response : GetPluginCapabilitiesResponse)
  | probed (response : ProbeResponse)
  | controllerCapabilities (response : ControllerGetCapabilitiesResponse)
  | nodeCapabilities (response : NodeGetCapabilitiesResponse)
  | nodeInfo (response : NodeGetInfoResponse)
  deriving DecidableEq

/-- An error of a handler, or `Status::unimplemented`. -/
inductive Refusal where
  | status (status : Status)
  | unimplemented (message : String)
  deriving DecidableEq, Repr

/-! ### Identity and capabilities -/

def getPluginInfo : GetPluginInfoResponse := ⟨"lvp", "1.2.0", ∅⟩

def getPluginCapabilities : GetPluginCapabilitiesResponse where
  capabilities :=
    [.service .controllerService, .service .volumeAccessibilityConstraints, .volumeExpansion .online]

def probe : ProbeResponse := ⟨some true⟩

def controllerGetCapabilities : ControllerGetCapabilitiesResponse where
  capabilities := [.createDeleteVolume, .publishUnpublishVolume, .getVolume, .listVolumes,
    .listVolumesPublishedNodes, .singleNodeMultiWriter, .getCapacity, .publishReadonly]

def nodeGetCapabilities : NodeGetCapabilitiesResponse where
  capabilities := [.expandVolume, .singleNodeMultiWriter, .getVolumeStats]

def nodeGetInfo (config : Config) : NodeGetInfoResponse where
  nodeId := config.node
  maxVolumesPerNode := 0
  accessibleTopology := some ⟨AList.singleton "node" config.node⟩

/-! ### Dispatch -/

def answered (reply : α → RpcReply) (handler : Action Status α) : Action Refusal RpcReply :=
  handler.rename .status reply

def handleRpc (config : Config) : Rpc → Action Refusal RpcReply
  | .lifecycle request => answered .lifecycle (handle config request)
  | .validateVolumeCapabilities request => answered .validated (validateVolumeCapabilities request)
  | .listVolumes request => answered .listed (listVolumes request)
  | .getCapacity request => answered .capacity (getCapacity config request)
  | .controllerGetVolume request => answered .volume (controllerGetVolume request)
  | .nodeGetVolumeStats request => answered .stats (nodeGetVolumeStats request)
  | .getPluginInfo => pure (.pluginInfo getPluginInfo)
  | .getPluginCapabilities => pure (.pluginCapabilities getPluginCapabilities)
  | .probe => pure (.probed probe)
  | .controllerGetCapabilities => pure (.controllerCapabilities controllerGetCapabilities)
  | .nodeGetCapabilities => pure (.nodeCapabilities nodeGetCapabilities)
  | .nodeGetInfo => pure (.nodeInfo (nodeGetInfo config))
  | .createSnapshot => .raise (.unimplemented "controller doesn't have CREATE_DELETE_SNAPSHOT capability")
  | .deleteSnapshot => .raise (.unimplemented "controller doesn't have CREATE_DELETE_SNAPSHOT capability")
  | .listSnapshots => .raise (.unimplemented "controller doesn't have LIST_SNAPSHOTS capability")
  | .controllerExpandVolume => .raise (.unimplemented "controller requires node expansion")
  | .nodeStageVolume => .raise (.unimplemented "STAGE_UNSTAGE_VOLUME not set")
  | .nodeUnstageVolume => .raise (.unimplemented "STAGE_UNSTAGE_VOLUME not set")

def Rpc.lifecycle? : Rpc → Option Request
  | .lifecycle request => some request
  | _ => none

theorem Rpc.lifecycle?_eq {rpc : Rpc} {request : Request} (same : rpc.lifecycle? = some request) :
    rpc = .lifecycle request := by
  cases rpc with
  | lifecycle own => exact congrArg _ (Option.some.inj same)
  | _ => cases same

/-- Only lifecycle requests make mounts, which remember the volume they are for. -/
def Rpc.owner (rpc : Rpc) : String := (rpc.lifecycle?.map Request.volumeId).getD ""

/-! ### Which calls only look -/

/-- Reads records of volumes or the state of a filesystem. -/
def Call.looks : Call → Prop
  | .getOpt key => ∃ name, key = volumeKey name
  | .list | .statvfs _ => True
  | _ => False

theorem perform_looks {owner : String} {world : World} {call : Call} (looks : call.looks) :
    (world.perform owner call).2 = world := by
  cases call <;> first | rfl | cases looks

theorem exec_looks {owner : String} {fault : Fault} {world : World} {call : Call} (looks : call.looks) :
    (world.exec owner fault call).2 = world := by
  cases fault with
  | fails => rfl
  | none | lost => exact perform_looks looks

section Looks
variable {ε ε' α β : Type}

/-- Only looks at store and host. -/
abbrev Looks (program : Action ε α) : Prop := Reads Call.looks program

theorem Looks.bind {program : Action ε α} {next : α → Action ε β} (first : Looks program)
    (rest : ∀ value, Looks (next value)) : Looks (program >>= next) :=
  Safe.bind first fun value _ _ => rest value

theorem Looks.mapErr {program : Action ε' α} {onError : ε' → ε} (looks : Looks program) :
    Looks (program.mapErr onError) :=
  safe_mapErr.mpr looks

theorem Looks.answered {program : Action Status α} {reply : α → RpcReply} (looks : Looks program) :
    Looks (answered reply program) :=
  looks.mapErr.bind fun _ => trivial

theorem looks_reject {condition : Prop} [Decidable condition] {error : ε} :
    Looks (Program.reject condition error) :=
  safe_reject.mpr ⟨fun _ => trivial, fun _ => trivial⟩

theorem looks_ofExcept {result : Except ε α} : Looks (Program.ofExcept result) :=
  safe_ofExcept.mpr ⟨fun _ _ => trivial, fun _ _ => trivial⟩

theorem looks_ofOption {result : Option α} {error : ε} : Looks (Program.ofOption error result) :=
  safe_ofOption.mpr ⟨fun _ => trivial, fun _ _ => trivial⟩

theorem looks_issue (call : Call) (looks : call.looks) : Looks (issue call) :=
  safe_issued looks fun _ _ => trivial

theorem looks_load (name : String) : Looks (Volume.load name) := looks_issue (.getOpt _) ⟨name, rfl⟩

theorem looks_list : Looks Volume.list := looks_issue .list trivial

theorem looks_loadVolume (volumeId : String) : Looks (loadVolume volumeId) :=
  (looks_load _).mapErr.bind fun _ => looks_ofOption

theorem looks_statfs (path : Path) : Looks (statfs path) :=
  (looks_issue (.statvfs path) trivial).bind fun _ => trivial

end Looks

theorem looks_getCapacity (config : Config) (request : GetCapacityRequest) :
    Looks (getCapacity config request) := by
  refine looks_reject.bind fun _ => looks_ofExcept.bind fun base => ?_
  cases base with
  | none => trivial
  | some base => exact (looks_statfs base).mapErr.bind fun _ => trivial

/-- Everything but the lifecycle requests only looks. -/
theorem handleRpc_looks (config : Config) {rpc : Rpc} (other : rpc.lifecycle? = none) :
    Looks (handleRpc config rpc) := by
  cases rpc with
  | lifecycle request => cases other
  | validateVolumeCapabilities request =>
    refine Looks.answered (looks_reject.bind fun _ => looks_reject.bind fun _ => ?_)
    exact (looks_loadVolume _).bind fun _ => looks_ofExcept.bind fun _ => trivial
  | listVolumes request =>
    exact Looks.answered (looks_list.mapErr.bind fun _ => looks_reject.bind fun _ => trivial)
  | getCapacity request => exact (looks_getCapacity config request).answered
  | controllerGetVolume request =>
    exact Looks.answered (looks_reject.bind fun _ => (looks_loadVolume _).bind fun _ => trivial)
  | nodeGetVolumeStats request =>
    refine Looks.answered (looks_reject.bind fun _ => looks_reject.bind fun _ =>
      (looks_loadVolume _).bind fun _ => ?_)
    exact looks_reject.bind fun _ => (looks_statfs _).mapErr.bind fun _ => trivial
  | _ => trivial

/-! ### The server -/

/-- A call of the instance configured as `served.1`, made while serving `served.2`. -/
def Cluster.execRpc (served : Config × Rpc) (fault : Fault) (cluster : Cluster) (call : Call) :
    call.Answer × Cluster :=
  let after := (cluster.world served.1).exec served.2.owner fault call
  (after.1, cluster.update served.1 after.2)

abbrev FullDeployment := Pool (Config × Rpc) Call Call.Answer Refusal RpcReply Cluster

/-- Plays a schedule of requests of every kind to all instances. -/
def Cluster.deployRpcs (cluster : Cluster) (schedule : List (Move (Config × Rpc) Call Fault)) : FullDeployment :=
  Pool.play Cluster.execRpc (fun served => handleRpc served.1 served.2) ⟨cluster, []⟩ schedule

theorem Cluster.update_world (cluster : Cluster) (config : Config) :
    cluster.update config (cluster.world config) = cluster := by
  simp [Cluster.update, Cluster.world]

/-- A lifecycle request among the requests of every kind. -/
def Rpc.ofRequest (request : Config × Request) : Config × Rpc := (request.1, .lifecycle request.2)

def Rpc.request? (request : Config × Rpc) : Option (Config × Request) :=
  request.2.lifecycle?.map (request.1, ·)

theorem observed_server : Observed Cluster.execRpc (fun request => handleRpc request.1 request.2) Cluster.exec
    (fun request => handle request.1 request.2)
      Rpc.ofRequest Rpc.request? Refusal.status RpcReply.lifecycle Call.looks where
  kept {request request'} held := by
    obtain ⟨config, rpc⟩ := request
    obtain ⟨own, same, rfl⟩ := Option.map_eq_some_iff.mp held
    exact congrArg (Prod.mk config) (Rpc.lifecycle?_eq same)
  execs request := rfl
  bodies request := rfl
  observer {request} dropped := handleRpc_looks request.1 (Option.map_eq_none_iff.mp dropped)
  unmoved {request fault cluster call} _ looks := by
    rw [Cluster.execRpc, exec_looks looks]
    exact cluster.update_world request.1

/-- Whatever requests of every kind are in flight on all instances, the lifecycle requests among them get
exactly as far, with the same store and hosts, as in some deployment of lifecycle requests alone. -/
theorem reports_unobserved (cluster : Cluster) (schedule : List (Move (Config × Rpc) Call Fault)) :
    ∃ moves : List (Move (Config × Request) Call Fault),
      (cluster.deployRpcs schedule).world = (cluster.deploy moves).world ∧
      (cluster.deployRpcs schedule).threads.filter (fun thread => (Rpc.request? thread.request).isSome) =
        (cluster.deploy moves).threads.map fun thread =>
          ⟨Rpc.ofRequest thread.request, answered .lifecycle thread.program⟩ := by
  have start : Shadowed Rpc.ofRequest Rpc.request? Refusal.status RpcReply.lifecycle Call.looks
      (⟨cluster, []⟩ : FullDeployment) (⟨cluster, []⟩ : Deployment) := ⟨rfl, .nil⟩
  obtain ⟨moves, world, threads⟩ := start.play observed_server schedule
  exact ⟨moves, world, threads.kept_threads⟩

end Lvp
