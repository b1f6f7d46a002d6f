import Mathlib.Logic.Function.Basic
import Lvp.Node

/-!
The plugin as a server: the lifecycle requests, the handler of each, a sequential server that
finishes one request before it takes the next, and the real one, which interleaves the calls of
everything in flight (`main.rs` serves up to 50 streams at once and takes no lock).
-/

namespace Lvp
open Unix Effect Csi

inductive Request where
  | createVolume (request : CreateVolumeRequest)
  | deleteVolume (request : DeleteVolumeRequest)
  | controllerPublishVolume (request : ControllerPublishVolumeRequest)
  | controllerUnpublishVolume (request : ControllerUnpublishVolumeRequest)
  | nodePublishVolume (request : NodePublishVolumeRequest)
  | nodeUnpublishVolume (request : NodeUnpublishVolumeRequest)
  | nodeExpandVolume (request : NodeExpandVolumeRequest)
  deriving DecidableEq

/-- The empty responses are all `done`. -/
inductive Reply where
  | created (response : CreateVolumeResponse)
  | expanded (response : NodeExpandVolumeResponse)
  | done
  deriving DecidableEq

def Request.volumeId : Request → String
  | .createVolume request => request.name
  | .deleteVolume request => request.volumeId
  | .controllerPublishVolume request => request.volumeId
  | .controllerUnpublishVolume request => request.volumeId
  | .nodePublishVolume request => request.volumeId
  | .nodeUnpublishVolume request => request.volumeId
  | .nodeExpandVolume request => request.volumeId

def handle (config : Config) : Request → Action Status Reply
  | .createVolume request => do return .created (← createVolume request)
  | .deleteVolume request => do deleteVolume config request; return .done
  | .controllerPublishVolume request => do controllerPublishVolume request; return .done
  | .controllerUnpublishVolume request => do controllerUnpublishVolume request; return .done
  | .nodePublishVolume request => do nodePublishVolume config request; return .done
  | .nodeUnpublishVolume request => do nodeUnpublishVolume request; return .done
  | .nodeExpandVolume request => do return .expanded (← nodeExpandVolume config request)

def execFor (request : Request) : Fault → World → (call : Call) → call.Answer × World :=
  World.exec request.volumeId

abbrev healthy : Oracle Call Fault := fun _ _ => .none

/-! ### One request at a time -/

def serve (config : Config) (request : Request) (oracle : Oracle Call Fault) (world : World) :
    Except Status Reply × World := (handle config request).run (execFor request) oracle world

/-- The calls made while serving a request, each with the world it is made in. -/
def served (config : Config) (request : Request) (oracle : Oracle Call Fault) (world : World) :
    List (World × Call) := (handle config request).visits (execFor request) oracle world

theorem run_issue (request : Request) (world : World) (call : Call) :
    (issue call).run (execFor request) healthy world = world.perform request.volumeId call :=
  Program.run_ofExcept _ _ _

theorem safe_issue {owner : String} {world : World} {call : Call}
    {post : call.Value → World → Prop} {fail : Failure → World → Prop}
    (through : ∀ value after, world.perform owner call = (.ok value, after) → post value after)
    (fails : ∀ error after, fail error after) :
    Safe (alone (World.exec owner)) (issue call) post fail world := by
  refine safe_alone_call.mpr fun fault => ?_
  cases fault with
  | none =>
    cases performed : world.perform owner call with
    | mk answer after =>
      cases answer with
      | ok value => simpa [World.exec, performed, Program.ofExcept] using through value after performed
      | error error => simpa [World.exec, performed, Program.ofExcept] using fails error after
  | fails => exact fails _ _
  | lost => exact fails _ _

/-- A sequential run: each request with the fate of its calls. -/
abbrev Run := List (Request × Oracle Call Fault)

def serveAll (config : Config) (world : World) (run : Run) : World :=
  run.foldl (fun world step => (serve config step.1 step.2 world).2) world

@[simp] theorem serveAll_nil (config : Config) (world : World) : serveAll config world [] = world := rfl

@[simp] theorem serveAll_cons (config : Config) (world : World) (request : Request)
    (oracle : Oracle Call Fault) (rest : Run) :
    serveAll config world ((request, oracle) :: rest) =
      serveAll config (serve config request oracle world).2 rest := rfl

/-! ### Requests in flight together -/

abbrev Plugin := Pool Request Call Call.Answer Status Reply World

abbrev Schedule := List (Move Request Call Fault)

def Plugin.play (config : Config) (plugin : Plugin) (schedule : Schedule) : Plugin :=
  Pool.play execFor (handle config) plugin schedule

def idle (world : World) : Plugin := ⟨world, []⟩

/-! ### Several instances -/

/-- The store that all instances share, and the host of each node. -/
structure Cluster where
  store : Store
  hosts : String → Host

def Cluster.world (cluster : Cluster) (config : Config) : World := ⟨cluster.store, cluster.hosts config.node⟩

def Cluster.update (cluster : Cluster) (config : Config) (world : World) : Cluster :=
  ⟨world.store, Function.update cluster.hosts config.node world.host⟩

/-- A call of the instance configured as `served.1`, made while serving `served.2`. -/
def Cluster.exec (served : Config × Request) (fault : Fault) (cluster : Cluster) (call : Call) :
    call.Answer × Cluster :=
  let after := execFor served.2 fault (cluster.world served.1) call
  (after.1, cluster.update served.1 after.2)

def Cluster.serve (cluster : Cluster) (config : Config) (request : Request) (oracle : Oracle Call Fault) :
    Except Status Reply × Cluster :=
  let after := Lvp.serve config request oracle (cluster.world config)
  (after.1, cluster.update config after.2)

def Cluster.serveAll (cluster : Cluster) (run : List (Config × Request × Oracle Call Fault)) : Cluster :=
  run.foldl (fun cluster step => (cluster.serve step.1 step.2.1 step.2.2).2) cluster

abbrev Deployment := Pool (Config × Request) Call Call.Answer Status Reply Cluster

/-- Plays a schedule of all instances, starting with no request in flight. -/
def Cluster.deploy (cluster : Cluster) (schedule : List (Move (Config × Request) Call Fault)) : Deployment :=
  Pool.play Cluster.exec (fun served => handle served.1 served.2) ⟨cluster, []⟩ schedule

/-! ### Sample requests -/

namespace Sample

def config : Config := ⟨"/host/", "ho.me"⟩

def capability (raw : Int32) : VolumeCapability := ⟨some ⟨raw⟩, some (.mount {})⟩

def createRequest (name base fsType : String) (raw : Int32) : CreateVolumeRequest where
  name := name
  volumeCapabilities := [capability raw]
  parameters := [⟨"host_base_path", base⟩, ⟨"fs_type", fsType⟩].toAList

def create (name base fsType : String) (raw : Int32) : Request :=
  .createVolume (createRequest name base fsType raw)

def delete (volumeId : String) : Request := .deleteVolume ⟨volumeId⟩

def publish (volumeId : String) (raw : Int32) : Request :=
  .controllerPublishVolume ⟨volumeId, "ho.me", some (capability raw), false⟩

def unpublish (volumeId : String) : Request := .controllerUnpublishVolume ⟨volumeId, "ho.me"⟩

def nodePublish (volumeId targetPath : String) (raw : Int32) : Request :=
  .nodePublishVolume ⟨volumeId, targetPath, some (capability raw), false⟩

def nodeUnpublish (volumeId targetPath : String) : Request := .nodeUnpublishVolume ⟨volumeId, targetPath⟩

/-- The request at `index` makes `count` calls, all of which go through. -/
def steps {Req : Type} (index count : Nat) : List (Move Req Call Fault) :=
  List.replicate count (.step index fun _ => .none)

end Sample

end Lvp
