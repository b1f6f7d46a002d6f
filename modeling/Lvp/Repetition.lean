import Lvp.Outcome

/-!
Publish and unpublish requests sent twice. The second one meets the record the first one left, so another
branch of the handler answers it.
-/

namespace Lvp
open Unix Effect Csi

variable {config : Config} {request : Request} {start world : World} {volume : Volume} {reply : Reply}
  {oracle : Oracle Call Fault} {requested : VolumeConfig} {filesystem : Option Filesystem}

/-! ### On a healthy store and host -/

theorem run_load (owner : String) (world : World) (name : String) :
    (Volume.load name).run (World.exec owner) healthy world = (.ok (world.store.lookup (volumeKey name)), world) :=
  Program.run_ofExcept _ _ _

theorem run_loadVolume {owner name : String} (held : world.store.lookup (volumeKey name) = some volume) :
    (loadVolume name).run (World.exec owner) healthy world = (.ok volume, world) := by
  rw [loadVolume, Program.run_bind, Program.run_mapErr, run_load, held]
  rfl

theorem asked_ok {capability : Option VolumeCapability} {parsed : VolumeConfig × Option Filesystem}
    (asking : asked capability = some parsed) :
    ∃ given, capability = some given ∧ parseVolumeCapability given = .ok parsed := by
  obtain ⟨given, same, accepted⟩ := Option.bind_eq_some_iff.mp asking
  refine ⟨given, same, ?_⟩
  cases read : parseVolumeCapability given with
  | ok value =>
    rw [read] at accepted
    exact congrArg Except.ok (Option.some.inj accepted)
  | error status =>
    rw [read] at accepted
    cases accepted

theorem serve_publish_again {r : ControllerPublishVolumeRequest} (named : r.volumeId ≠ "") (node : r.nodeId ≠ "")
    (held : world.store.lookup (volumeKey r.volumeId) = some volume)
    (unlocked : lockedElsewhere volume r.nodeId = none)
    (asking : asked r.volumeCapability = some (requested, filesystem)) (state : volume.state = .controllerPublished)
    (valid : requested ∈ volume.validConfigs) (compatible : ¬OtherFilesystem filesystem volume)
    (readonly : volume.publishedReadonly = r.readonly) :
    serve config (.controllerPublishVolume r) healthy world = (.ok .done, world) := by
  obtain ⟨capability, given, accepted⟩ := asked_ok asking
  rw [serve, execFor, handle, Program.run_bind, controllerPublishVolume, Program.reject,
    if_neg named, Program.ret_bind,
    Program.reject, if_neg node, Program.ret_bind, Program.reject, if_neg (by simp [given]), Program.ret_bind,
    Program.run_bind, run_loadVolume held]
  dsimp only
  rw [unlocked, refuse, Program.ret_bind, given, Program.ofOption, Program.ret_bind, accepted, Program.ofExcept,
    Program.ret_bind]
  dsimp only
  rw [state]
  dsimp only
  rw [Program.reject, if_neg]
  · rfl
  · rintro (invalid | other | differs)
    · exact invalid valid
    · exact compatible other
    · exact differs readonly

theorem serve_unpublish_again {r : ControllerUnpublishVolumeRequest} (named : r.volumeId ≠ "")
    (idle : ∀ volume, world.store.lookup (volumeKey r.volumeId) = some volume → volume.state = .«open») :
    serve config (.controllerUnpublishVolume r) healthy world = (.ok .done, world) := by
  rw [serve, execFor, handle, Program.run_bind, controllerUnpublishVolume, Program.reject,
    if_neg named, Program.ret_bind,
    Program.run_bind, Program.run_mapErr, run_load]
  cases held : world.store.lookup (volumeKey r.volumeId) with
  | none => rfl
  | some volume =>
    dsimp only [Except.mapError]
    rw [idle volume held]
    rfl

theorem serve_nodeUnpublish_again {r : NodeUnpublishVolumeRequest} (named : r.volumeId ≠ "")
    (target : r.targetPath ≠ "") (held : world.store.lookup (volumeKey r.volumeId) = some volume)
    (idle : ¬Unmountable r volume) :
    serve config (.nodeUnpublishVolume r) healthy world = (.ok .done, world) := by
  rw [serve, execFor, handle, Program.run_bind, nodeUnpublishVolume, Program.reject, if_neg named, Program.ret_bind,
    Program.reject, if_neg target, Program.ret_bind, Program.run_bind, run_loadVolume held]
  dsimp only
  rw [if_pos]
  · rfl
  · exact not_and_or.mp fun mounted => idle ⟨mounted.1, mounted.2⟩

theorem serve_nodePublish_again {r : NodePublishVolumeRequest} (named : r.volumeId ≠ "")
    (target : r.targetPath ≠ "") (held : world.store.lookup (volumeKey r.volumeId) = some volume)
    (granted : Granted config r volume) (state : volume.state = .nodePublished)
    (present : Contains volume.mountPaths r.targetPath) :
    serve config (.nodePublishVolume r) healthy world = (.ok .done, world) := by
  obtain ⟨requested, filesystem, asking, valid, compatible, agrees⟩ := granted.granted
  obtain ⟨capability, given, accepted⟩ := asked_ok asking
  have admitted : admitPublish volume requested r.targetPath = .ret () := by
    unfold admitPublish
    rw [state]
    dsimp only
    split
    · rename_i known published
      rw [Program.reject, if_neg fun single => single.2 present, Program.ret_bind, Program.reject,
        if_neg (not_not.mpr (agrees state known published))]
    · rfl
  rw [serve, execFor, handle, Program.run_bind, nodePublishVolume, Program.reject, if_neg named, Program.ret_bind,
    Program.reject, if_neg target, Program.ret_bind, given, Program.ofOption, Program.ret_bind, accepted,
    Program.ofExcept, Program.ret_bind]
  dsimp only
  rw [Program.run_bind, run_loadVolume held]
  dsimp only
  rw [Program.reject, if_neg, Program.ret_bind, granted.unlocked, refuse, Program.ret_bind,
    admitted, Program.ret_bind,
    if_pos present]
  · rfl
  · rintro (invalid | other)
    · exact invalid valid
    · exact compatible other

/-! ### What an accepted request names -/

theorem publish_named {r : ControllerPublishVolumeRequest}
    (returned : (serve config (.controllerPublishVolume r) oracle world).1 = .ok reply) :
    r.volumeId ≠ "" ∧ r.nodeId ≠ "" := by
  rw [serve, handle, controllerPublishVolume, Program.bind_assoc] at returned
  obtain ⟨named, returned⟩ := Program.run_reject returned
  rw [Program.bind_assoc] at returned
  obtain ⟨node, -⟩ := Program.run_reject returned
  exact ⟨named, node⟩

theorem unpublish_named {r : ControllerUnpublishVolumeRequest}
    (returned : (serve config (.controllerUnpublishVolume r) oracle world).1 = .ok reply) : r.volumeId ≠ "" := by
  rw [serve, handle, controllerUnpublishVolume, Program.bind_assoc] at returned
  exact (Program.run_reject returned).1

theorem nodePublish_named {r : NodePublishVolumeRequest}
    (returned : (serve config (.nodePublishVolume r) oracle world).1 = .ok reply) :
    r.volumeId ≠ "" ∧ r.targetPath ≠ "" := by
  rw [serve, handle, nodePublishVolume, Program.bind_assoc] at returned
  obtain ⟨named, returned⟩ := Program.run_reject returned
  rw [Program.bind_assoc] at returned
  obtain ⟨target, -⟩ := Program.run_reject returned
  exact ⟨named, target⟩

theorem nodeUnpublish_named {r : NodeUnpublishVolumeRequest}
    (returned : (serve config (.nodeUnpublishVolume r) oracle world).1 = .ok reply) :
    r.volumeId ≠ "" ∧ r.targetPath ≠ "" := by
  rw [serve, handle, nodeUnpublishVolume, Program.bind_assoc] at returned
  obtain ⟨named, returned⟩ := Program.run_reject returned
  rw [Program.bind_assoc] at returned
  obtain ⟨target, -⟩ := Program.run_reject returned
  exact ⟨named, target⟩

/-! ### Twice -/

def Request.publishes : Request → Bool
  | .controllerPublishVolume _ | .controllerUnpublishVolume _ | .nodePublishVolume _ | .nodeUnpublishVolume _ => true
  | _ => false

/-- The request, sent on a healthy store and host, returns Ok and changes neither records nor mounts nor
loop devices. -/
def Redundant (config : Config) (request : Request) (world : World) : Prop :=
  let again := serve config request healthy world
  again.1 = .ok .done ∧ again.2.store = world.store ∧ again.2.host.mounts = world.host.mounts ∧
    again.2.host.loops = world.host.loops

/-- What a publish may meet. -/
def Agrees : Request → World → Prop
  | .controllerPublishVolume r, world => ∀ volume ∈ world.store.lookup (volumeKey r.volumeId),
      volume.state = .«open» → ∀ parsed ∈ asked r.volumeCapability, ¬OtherFilesystem parsed.2 volume
  | .nodePublishVolume r, world => ∀ volume ∈ world.store.lookup (volumeKey r.volumeId),
      volume.state = .controllerPublished → ∀ parsed ∈ asked r.volumeCapability,
        volume.publishedConfig = some parsed.1
  | _, _ => True

instance : Decidable (Redundant config request world) := inferInstanceAs (Decidable (_ ∧ _))

instance : Decidable (Agrees request world) := by
  unfold Agrees
  split <;> infer_instance

theorem Redundant.of_same (same : serve config request healthy world = (.ok .done, world)) :
    Redundant config request world := by
  unfold Redundant
  rw [same]
  exact ⟨rfl, rfl, rfl, rfl⟩

theorem publish_again {r : ControllerPublishVolumeRequest} (ok : StoreOk WellFormed start.store)
    (returned : (serve config (.controllerPublishVolume r) oracle start).1 = .ok reply) :
    Redundant config (.controllerPublishVolume r) (serve config (.controllerPublishVolume r) oracle start).2 ↔
      Agrees (.controllerPublishVolume r) start := by
  obtain ⟨named, node⟩ := publish_named returned
  obtain ⟨before, requested, filesystem, held, asking, unlocked, valid, outcome⟩ := publish_ok ok returned
  have after : StoreOk WellFormed (serve config (.controllerPublishVolume r) oracle start).2.store :=
    (serve_ok wellFormed_invariant ok oracle).1
  rcases outcome with ⟨opened, written⟩ | ⟨state, compatible, readonly, same⟩
  · constructor
    · rintro ⟨again, -⟩ volume lookup - parsed given
      cases held.symm.trans lookup
      cases asking.symm.trans given
      obtain ⟨second, _, _, lookup, asking', -, -, outcome⟩ := publish_ok after again
      cases written.symm.trans lookup
      cases asking.symm.trans asking'
      rcases outcome with ⟨⟨⟩, -⟩ | ⟨-, compatible, -⟩
      exact compatible
    · intro agrees
      have compatible := agrees before held opened _ asking
      exact .of_same (serve_publish_again named node written unlocked asking rfl valid compatible rfl)
  · rw [same]
    refine iff_of_true (.of_same ?_) fun volume lookup opened => ?_
    · exact serve_publish_again named node held unlocked asking state valid compatible readonly
    · cases held.symm.trans lookup
      cases state.symm.trans opened

theorem unpublish_again {r : ControllerUnpublishVolumeRequest} (ok : StoreOk WellFormed start.store)
    (returned : (serve config (.controllerUnpublishVolume r) oracle start).1 = .ok reply) :
    Redundant config (.controllerUnpublishVolume r)
      (serve config (.controllerUnpublishVolume r) oracle start).2 := by
  have named := unpublish_named returned
  exact .of_same (serve_unpublish_again named fun volume held => unpublished_open ok returned held)

theorem nodeUnpublish_again {r : NodeUnpublishVolumeRequest} (ok : StoreOk WellFormed start.store)
    (returned : (serve config (.nodeUnpublishVolume r) oracle start).1 = .ok reply) :
    Redundant config (.nodeUnpublishVolume r) (serve config (.nodeUnpublishVolume r) oracle start).2 := by
  obtain ⟨named, target⟩ := nodeUnpublish_named returned
  obtain ⟨before, held, ⟨idle, same⟩ | ⟨mounted, written⟩⟩ := nodeUnpublish_ok ok returned
  · rw [same]
    exact .of_same (serve_nodeUnpublish_again named target held idle)
  · refine .of_same (serve_nodeUnpublish_again named target written fun still => ?_)
    exact unmountedFrom_absent before r.targetPath still.present

theorem Granted.mountedAt {r : NodePublishVolumeRequest} {before now : Volume} {device : Option Path}
    (granted : Granted config r before) (pinned : now = before ∨ now = pinnedTo before config.node)
    (asking : asked r.volumeCapability = some (requested, filesystem))
    (mode : ∀ known ∈ before.publishedConfig, known = requested) :
    Granted config r (mountedAt now device r.targetPath) := by
  obtain ⟨_, _, asking', valid, compatible, -⟩ := granted.granted
  cases asking.symm.trans asking'
  rcases pinned with rfl | rfl
  · exact ⟨granted.unlocked, requested, filesystem, asking, valid, compatible, fun _ => mode⟩
  · exact ⟨by simp [Lvp.mountedAt, pinnedTo, lockedElsewhere], requested, filesystem, asking, valid, compatible,
      fun _ => mode⟩

theorem nodePublish_again {r : NodePublishVolumeRequest} (ok : StoreOk WellFormed start.store)
    (returned : (serve config (.nodePublishVolume r) oracle start).1 = .ok reply) :
    Redundant config (.nodePublishVolume r) (serve config (.nodePublishVolume r) oracle start).2 ↔
      Agrees (.nodePublishVolume r) start := by
  obtain ⟨named, target⟩ := nodePublish_named returned
  obtain ⟨before, held, granted, outcome⟩ := nodePublish_ok ok returned
  have formed := (ok.named held).2
  rcases outcome with ⟨present, same⟩ | ⟨admitted, now, device, pinned, written⟩
  · have state := formed.mounted_of_present present
    rw [same]
    refine iff_of_true (.of_same ?_) fun volume lookup published => ?_
    · exact serve_nodePublish_again named target held granted state present
    · cases held.symm.trans lookup
      cases state.symm.trans published
  obtain ⟨requested, filesystem, asking, valid, compatible, same⟩ := granted.granted
  constructor
  · rintro ⟨again, -⟩ volume lookup state parsed given
    cases held.symm.trans lookup
    cases asking.symm.trans given
    obtain ⟨second, lookup, granted, -⟩ := nodePublish_ok (serve_ok wellFormed_invariant ok oracle).1 again
    cases written.symm.trans lookup
    obtain ⟨_, _, asking', -, -, same⟩ := granted.granted
    cases asking.symm.trans asking'
    obtain ⟨-, -, known, -, published⟩ := formed.controller state
    rw [published, same rfl known ((mountedAt_publishedConfig pinned).trans published)]
  · intro agrees
    have mode : ∀ known ∈ before.publishedConfig, known = requested := by
      intro known published
      rcases admitted.mountable with state | ⟨state, -⟩
      · exact Option.some.inj (published.symm.trans (agrees before held state _ asking))
      · exact same state known published
    refine .of_same (serve_nodePublish_again named target written ?_ rfl ?_)
    · exact granted.mountedAt pinned asking mode
    · exact ⟨r.targetPath, List.mem_append_right _ (List.mem_singleton_self _), rfl⟩

/-- A publish or unpublish that returned Ok may be sent again exactly when the first one agreed with the
volume: a first controller publish with its filesystem, a first mount with its access mode. -/
theorem redundant_iff (hosts : String → Host) {before : List (Config × Request × Oracle Call Fault)}
    (publishes : request.publishes)
    (returned : (serve config request oracle (((Cluster.mk ∅ hosts).serveAll before).world config)).1 = .ok reply) :
    Redundant config request (serve config request oracle (((Cluster.mk ∅ hosts).serveAll before).world config)).2 ↔
      Agrees request (((Cluster.mk ∅ hosts).serveAll before).world config) := by
  have ok : StoreOk WellFormed (((Cluster.mk ∅ hosts).serveAll before).world config).store :=
    clusterServeAll_ok wellFormed_invariant .empty before
  cases request with
  | controllerPublishVolume r => exact publish_again ok returned
  | controllerUnpublishVolume r => exact iff_of_true (unpublish_again ok returned) trivial
  | nodePublishVolume r => exact nodePublish_again ok returned
  | nodeUnpublishVolume r => exact iff_of_true (nodeUnpublish_again ok returned) trivial
  | _ => cases publishes

theorem redundant_iff_sample :
    Redundant Sample.config (Sample.publish "a" 7) (serve Sample.config (Sample.publish "a" 7) healthy
      (((Cluster.mk ∅ fun _ => {}).serveAll [(Sample.config, Sample.create "a" "/pv2/" "ext4" 7, healthy)]).world
        Sample.config)).2 := by
  have returned : (serve Sample.config (Sample.publish "a" 7) healthy
      (((Cluster.mk ∅ fun _ => {}).serveAll [(Sample.config, Sample.create "a" "/pv2/" "ext4" 7, healthy)]).world
        Sample.config)).1 = .ok .done := by decide +kernel
  exact (redundant_iff (fun _ => {}) rfl returned).mpr (by decide +kernel)

def Sample.publishXfs : Request :=
  .controllerPublishVolume ⟨"a", "ho.me", some ⟨some ⟨7⟩, some (.mount { fsType := "xfs" })⟩, false⟩

/-- The first publish does not compare the filesystem, the second does. -/
theorem publish_refused_again :
    let world := serveAll Sample.config ⟨∅, {}⟩ [(Sample.create "a" "/pv2/" "ext4" 7, healthy)]
    let first := serve Sample.config Sample.publishXfs healthy world
    first.1 = .ok .done ∧ (serve Sample.config Sample.publishXfs healthy first.2).1 =
        .error (.alreadyExists "incompatible volume_capability") ∧
      ¬Redundant Sample.config Sample.publishXfs first.2 := by
  decide +kernel

end Lvp
