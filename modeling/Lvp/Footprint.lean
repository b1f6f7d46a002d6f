import Lvp.Record

/-!
What a request may do. `Footprint` lists every call a handler can issue, in terms of the record it
loaded; `handle_keeps` proves the list complete, and everything about single calls follows from it
without another walk through the handlers.
-/

namespace Lvp
open Unix Effect Csi

/-- The calls of a request, for records of its volume with the property `I`. -/
inductive Footprint (config : Config) (I : Volume → Prop) : Request → Call → Prop where
  | load (request : Request) : Footprint config I request (.getOpt (volumeKey request.volumeId))
  | create {r volume} (built : newVolume r = .ok volume) :
      Footprint config I (.createVolume r) (.create volume.key volume)
  | write {request volume written} (loaded : I volume) (rewrite : Rewrite volume written) :
      Footprint config I request (.patch written.key written)
  | removeDirectory {r volume} (loaded : I volume) (state : volume.state = .«open»)
      (filesystem : volume.filesystem = .bind) :
      Footprint config I (.deleteVolume r) (.removeDirAll (recordPath config volume))
  | removeFile {r volume} (loaded : I volume) (state : volume.state = .«open»)
      (filesystem : volume.filesystem ≠ .bind) :
      Footprint config I (.deleteVolume r) (.removeFile (recordPath config volume))
  | delete {r volume} (loaded : I volume) (state : volume.state = .«open») :
      Footprint config I (.deleteVolume r) (.delete volume.key)
  | mountpoint {r} : Footprint config I (.nodePublishVolume r) (.createDirAll r.targetPath)
  | probe {r volume} (loaded : I volume) :
      Footprint config I (.nodePublishVolume r) (.tryExists (publishPath config volume))
  | makeDirectory {r volume} (loaded : I volume) (filesystem : volume.filesystem = .bind) :
      Footprint config I (.nodePublishVolume r) (.createDirAll (publishPath config volume))
  | makeParent {r volume directory} (loaded : I volume)
      (above : parent (publishPath config volume) = some directory) :
      Footprint config I (.nodePublishVolume r) (.createDirAll directory)
  | makeFile {r volume} (loaded : I volume) (filesystem : volume.filesystem ≠ .bind) :
      Footprint config I (.nodePublishVolume r) (.createFile (publishPath config volume))
  | size {r volume} (loaded : I volume) (filesystem : volume.filesystem ≠ .bind) :
      Footprint config I (.nodePublishVolume r)
        (.ftruncate (publishPath config volume) volume.size.toInt64)
  | mkfsExt4 {r volume} (loaded : I volume) (filesystem : volume.filesystem = .ext4) :
      Footprint config I (.nodePublishVolume r) (.command ["mkfs.ext4", publishPath config volume])
  | mkfsXfs {r volume} (loaded : I volume) (filesystem : volume.filesystem = .xfs) :
      Footprint config I (.nodePublishVolume r) (.command ["mkfs.xfs", publishPath config volume])
  | attach {r volume} (loaded : I volume) (filesystem : volume.filesystem ≠ .bind) :
      Footprint config I (.nodePublishVolume r)
        (.command ["chroot", "/chr", "losetup", "--show", "-L", "-f", trim (publishPath config volume)])
  | mount {r volume} (loaded : I volume) (filesystem : volume.filesystem ≠ .bind) (device : Path) :
      Footprint config I (.nodePublishVolume r)
        (.command (["chroot", "/chr"] ++
          mountCommand false (r.readonly || volume.publishedReadonly) (trim device) (trim r.targetPath)))
  | mountBind {r volume} (loaded : I volume) (filesystem : volume.filesystem = .bind) :
      Footprint config I (.nodePublishVolume r)
        (.command (mountCommand true (r.readonly || volume.publishedReadonly)
          (trim (publishPath config volume)) (trim r.targetPath)))
  | umount {r volume} (loaded : I volume) (state : volume.state = .nodePublished)
      (present : Contains volume.mountPaths r.targetPath) :
      Footprint config I (.nodeUnpublishVolume r) (.command ["chroot", "/chr", "umount", trim r.targetPath])
  | detach {r volume device} (loaded : I volume) (state : volume.state = .nodePublished)
      (looped : volume.loopDevice = some device) :
      Footprint config I (.nodeUnpublishVolume r)
        (.command ["chroot", "/chr", "losetup", "-d", trim device])
  | removeMountpoint {r} : Footprint config I (.nodeUnpublishVolume r) (.removeDir r.targetPath)
  | openBacking {r volume} (loaded : I volume) (filesystem : volume.filesystem ≠ .bind) :
      Footprint config I (.nodeExpandVolume r) (.openWrite (recordPath config volume))
  | lengthen {r volume} (loaded : I volume) (filesystem : volume.filesystem ≠ .bind)
      (grows : volume.size < requestedSize r.capacityRange) :
      Footprint config I (.nodeExpandVolume r)
        (.ftruncate (recordPath config volume) (requestedSize r.capacityRange).toInt64)
  | growDevice {r volume device} (loaded : I volume) (looped : volume.loopDevice = some device) :
      Footprint config I (.nodeExpandVolume r)
        (.command ["chroot", "/chr", "losetup", "-c", trim device])
  | growExt4 {r volume device} (loaded : I volume) (looped : volume.loopDevice = some device) :
      Footprint config I (.nodeExpandVolume r) (.command ["resize2fs", trim device])
  | growXfs {r volume device} (loaded : I volume) (looped : volume.loopDevice = some device) :
      Footprint config I (.nodeExpandVolume r) (.command ["xfs_growfs", "-d", trim device])

/-- A record loaded under the key of `name` has `I`. -/
def Loads (name : String) (I : Volume → Prop) : (call : Call) → call.Answer → Prop
  | .getOpt key, answer => key = volumeKey name → ∀ volume, answer = .ok (some volume) → I volume
  | _, _ => True

/-- The program stays in the footprint of the request and returns a value with `post`. -/
def Keeps (config : Config) (I : Volume → Prop) (request : Request) {ε α : Type}
    (program : Action ε α) (post : α → Prop) : Prop :=
  Safe (contract (Footprint config I request) (Loads request.volumeId I)) program
    (fun value _ => post value) (fun _ _ => True) ()

variable {ε ε' α β : Type} {config : Config} {I : Volume → Prop} {request : Request}

namespace Keeps

theorem ret {value : α} {post : α → Prop} (holds : post value) :
    Keeps config I request (.ret value : Action ε α) post := holds

theorem raise {error : ε} {post : α → Prop} :
    Keeps config I request (.raise error : Action ε α) post := trivial

theorem bind {program : Action ε α} {next : α → Action ε β} {mid : α → Prop} {post : β → Prop}
    (first : Keeps config I request program mid)
    (rest : ∀ value, mid value → Keeps config I request (next value) post) :
    Keeps config I request (program >>= next) post :=
  Safe.bind first fun value _ holds => rest value holds

theorem weaken {program : Action ε α} {post post' : α → Prop} (keeps : Keeps config I request program post)
    (implies : ∀ value, post value → post' value) : Keeps config I request program post' :=
  Safe.weaken keeps (fun value _ => implies value) fun _ _ _ => trivial

theorem mapErr {program : Action ε' α} {f : ε' → ε} {post : α → Prop}
    (keeps : Keeps config I request program post) : Keeps config I request (program.mapErr f) post :=
  safe_mapErr.mpr keeps

theorem attempt {program : Action ε' α} {post : α → Prop} (keeps : Keeps config I request program post) :
    Keeps config I request (program.attempt : Action ε (Except ε' α)) (fun _ => True) :=
  safe_attempt.mpr (keeps.weaken fun _ _ => trivial)

theorem reject {condition : Prop} [Decidable condition] {error : ε} :
    Keeps config I request (.reject condition error : Action ε Unit) (fun _ => ¬condition) :=
  safe_reject.mpr ⟨fun _ => trivial, id⟩

theorem ofExcept {result : Except ε α} :
    Keeps config I request (.ofExcept result : Action ε α) (fun value => result = .ok value) :=
  safe_ofExcept.mpr ⟨fun _ _ => trivial, fun _ equal => equal⟩

theorem ofOption {result : Option α} {error : ε} :
    Keeps config I request (.ofOption error result : Action ε α) (fun value => result = some value) :=
  safe_ofOption.mpr ⟨fun _ => trivial, fun _ equal => equal⟩

theorem ite {condition : Prop} [Decidable condition] {yes no : Action ε α} {post : α → Prop}
    (holds : condition → Keeps config I request yes post)
    (fails : ¬condition → Keeps config I request no post) :
    Keeps config I request (if condition then yes else no) post := by
  by_cases decided : condition
  · rw [if_pos decided]; exact holds decided
  · rw [if_neg decided]; exact fails decided

theorem issue {call : Call} (fits : Footprint config I request call) :
    Keeps config I request (issue call) (fun value => Loads request.volumeId I call (.ok value)) :=
  safe_issued fits fun _ promised => promised

theorem call {call : Call} (fits : Footprint config I request call) :
    Keeps config I request (Lvp.issue call) (fun _ => True) := (issue fits).weaken fun _ _ => trivial

theorem run {command trimmed : List String} (same : command.map trim = trimmed)
    (fits : Footprint config I request (.command trimmed)) :
    Keeps config I request (Lvp.run command) (fun _ => True) := by
  subst same
  exact .call fits

/-! ### The store -/

theorem load : Keeps config I request (Volume.load request.volumeId) (fun found => ∀ volume ∈ found, I volume) :=
  (issue (.load request)).weaken fun _ promised volume member => promised rfl volume (by rw [member])

theorem loadVolume : Keeps config I request (loadVolume request.volumeId) I :=
  bind load.mapErr fun _ promised => ofOption.weaken promised

theorem update {volume written : Volume} (loaded : I volume) (rewrite : Rewrite volume written) :
    Keeps config I request written.update (fun _ => True) := call (.write loaded rewrite)

theorem refuse {status : Option Status} : Keeps config I request (refuse status) (fun _ => True) := by
  cases status <;> trivial

end Keeps

/-! ### Command lines -/

theorem trim_mountCommand (bind readonly : Bool) (source target : Path) :
    (mountCommand bind readonly source target).map trim =
      mountCommand bind readonly (trim source) (trim target) := by
  have words : trim "mount" = "mount" ∧ trim "bind" = "bind" ∧ trim "-r" = "-r" := by decide
  cases bind <;> cases readonly <;> simp [mountCommand, words]

theorem trim_chroot (command : List String) :
    ("chroot" :: "/chr" :: command).map trim = "chroot" :: "/chr" :: command.map trim := by
  have words : trim "chroot" = "chroot" ∧ trim "/chr" = "/chr" := by decide
  simp [words]

/-! ### The controller -/

theorem newVolume_name {r : CreateVolumeRequest} {volume : Volume} (built : newVolume r = .ok volume) :
    volume.name = r.name := by
  obtain ⟨base, filesystem, configs, rfl, _⟩ := newVolume_ok built
  rfl

theorem create_keeps {r : CreateVolumeRequest} {volume : Volume} (built : newVolume r = .ok volume) :
    Keeps config I (.createVolume r) volume.create (fun _ => True) := by
  have key : volume.key = volumeKey r.name := congrArg volumeKey (newVolume_name built)
  have load : Footprint config I (.createVolume r) (.getOpt volume.key) := key ▸ .load _
  refine Keeps.bind (.call load) fun existing _ => .ite (fun _ => .ret trivial) fun _ => ?_
  exact Keeps.bind (.call (.create built)) fun _ _ => .ret trivial

theorem createVolume_keeps (r : CreateVolumeRequest) :
    Keeps config I (.createVolume r) (createVolume r) (fun _ => True) := by
  refine Keeps.bind .ofExcept fun volume built => ?_
  refine Keeps.bind (create_keeps built).mapErr fun creation _ => ?_
  cases creation with
  | success => exact .ret trivial
  | alreadyExists =>
    have load : Footprint config I (.createVolume r) (.getOpt (volumeKey volume.name)) :=
      newVolume_name built ▸ .load _
    refine Keeps.bind (Keeps.call load).mapErr fun _ _ => ?_
    refine Keeps.bind .ofOption fun _ _ => ?_
    exact Keeps.bind .reject fun _ _ => .ret trivial

theorem removeBacking_keeps {r : DeleteVolumeRequest} {volume : Volume} (loaded : I volume)
    (state : volume.state = .«open») :
    Keeps config I (.deleteVolume r) (removeBacking volume.filesystem (recordPath config volume))
      (fun _ => True) := by
  refine .ite (fun bound => ?_) fun unbound => ?_
  · exact .call (.removeDirectory loaded state bound)
  · exact .call (.removeFile loaded state unbound)

theorem deleteVolume_keeps (r : DeleteVolumeRequest) :
    Keeps config I (.deleteVolume r) (deleteVolume config r) (fun _ => True) := by
  refine Keeps.bind .reject fun _ _ => ?_
  refine Keeps.bind (Keeps.mapErr Keeps.load) fun found loaded => ?_
  cases found with
  | none => exact .ret trivial
  | some volume =>
    have holds := loaded volume rfl
    refine Keeps.bind .reject fun _ state => ?_
    rw [not_not] at state
    refine Keeps.bind (removeBacking_keeps holds state).mapErr fun _ _ => ?_
    exact (Keeps.call (.delete holds state)).mapErr

theorem controllerPublishVolume_keeps (r : ControllerPublishVolumeRequest) :
    Keeps config I (.controllerPublishVolume r) (controllerPublishVolume r) (fun _ => True) := by
  refine Keeps.bind .reject fun _ _ => ?_
  refine Keeps.bind .reject fun _ _ => ?_
  refine Keeps.bind .reject fun _ _ => ?_
  refine Keeps.bind .loadVolume fun volume loaded => ?_
  refine Keeps.bind .refuse fun _ _ => ?_
  refine Keeps.bind .ofOption fun _ _ => ?_
  refine Keeps.bind .ofExcept fun parsed _ => ?_
  obtain ⟨published, filesystem⟩ := parsed
  dsimp only
  split
  · exact .raise
  · exact Keeps.reject.weaken fun _ _ => trivial
  · rename_i state
    refine Keeps.bind .reject fun _ valid => ?_
    exact (Keeps.update loaded (.publish r.readonly state (not_not.mp valid))).mapErr

theorem controllerUnpublishVolume_keeps (r : ControllerUnpublishVolumeRequest) :
    Keeps config I (.controllerUnpublishVolume r) (controllerUnpublishVolume r) (fun _ => True) := by
  refine Keeps.bind .reject fun _ _ => ?_
  refine Keeps.bind (Keeps.mapErr Keeps.load) fun found loaded => ?_
  cases found with
  | none => exact .ret trivial
  | some volume =>
    dsimp only
    split
    · exact .raise
    · exact .ret trivial
    · rename_i state
      exact (Keeps.update (loaded volume rfl) (.unpublish state)).mapErr

/-! ### NodePublishVolume -/

section Publish
variable {r : NodePublishVolumeRequest} {volume : Volume}

theorem createParent_keeps (loaded : I volume) :
    Keeps config I (.nodePublishVolume r) (createParent (publishPath config volume)) (fun _ => True) := by
  unfold createParent
  split
  · rename_i above
    exact .call (.makeParent loaded above)
  · exact .ret trivial

theorem makeVolume_keeps (loaded : I volume) :
    Keeps config I (.nodePublishVolume r)
      (makeVolume (publishPath config volume) volume.size volume.filesystem) (fun _ => True) := by
  refine Keeps.bind (.call (.probe loaded)) fun present _ => ?_
  refine Keeps.bind .reject fun _ _ => .ite (fun bound => .call (.makeDirectory loaded bound)) fun unbound => ?_
  refine Keeps.bind (createParent_keeps loaded) fun _ _ => ?_
  refine Keeps.bind (.call (.makeFile loaded unbound)) fun _ _ => ?_
  refine Keeps.bind (.call (.size loaded unbound)) fun _ _ => ?_
  unfold format
  split
  · rename_i ext4
    exact Keeps.bind (.call (.mkfsExt4 loaded ext4)) fun _ _ => .ret trivial
  · rename_i xfs
    exact Keeps.bind (.call (.mkfsXfs loaded xfs)) fun _ _ => .ret trivial
  · exact .ret trivial

theorem loopFor_keeps (loaded : I volume) (unbound : volume.filesystem ≠ .bind) :
    Keeps config I (.nodePublishVolume r) (loopFor volume.loopDevice (publishPath config volume))
      (fun device => ∀ known ∈ volume.loopDevice, device = known) := by
  unfold loopFor
  split
  · rename_i device known
    exact .ret fun other same => by rw [known] at same; exact Option.some.inj same
  · rename_i unknown
    refine Keeps.weaken (.call (.attach loaded unbound)) fun _ _ other same => ?_
    rw [unknown] at same
    cases same

theorem mountVolume_keeps (loaded : I volume) :
    Keeps config I (.nodePublishVolume r)
      (mountVolume volume.loopDevice (publishPath config volume) r.targetPath
        (r.readonly || volume.publishedReadonly) volume.filesystem)
      (DeviceFor volume) := by
  refine .ite (fun bound => ?_) fun unbound => ?_
  · refine Keeps.bind (.run (trim_mountCommand _ _ _ _) (.mountBind loaded bound)) fun _ _ => .ret ?_
    simp [DeviceFor, bound]
  · refine Keeps.bind (loopFor_keeps loaded unbound) fun device same => ?_
    refine Keeps.bind (.run ?_ (.mount loaded unbound device)) fun _ _ => .ret ?_
    · rw [trim_chroot, trim_mountCommand]
      rfl
    · simpa [DeviceFor, unbound] using same

/-- What `node_publish_volume` has established when it goes on to mount. -/
theorem safe_admitPublish {World : Type} {L : Logic Call Call.Answer World} {world : World}
    (fail : Status → World → Prop) (fails : ∀ status, fail status world) (requested : VolumeConfig)
    (target : Path) :
    Safe L (admitPublish volume requested target)
      (fun _ after => after = world ∧ (¬Contains volume.mountPaths target → Mountable volume)) fail world := by
  unfold admitPublish
  cases state : volume.state with
  | «open» => exact fails _
  | controllerPublished => exact ⟨rfl, fun _ => Or.inl state⟩
  | nodePublished =>
    cases published : volume.publishedConfig with
    | none => exact ⟨rfl, fun _ => Or.inr ⟨state, by simp [published]⟩⟩
    | some config =>
      refine safe_bind.mpr (safe_reject.mpr ⟨fun _ => fails _, fun single => ?_⟩)
      have multiWriter (fresh : ¬Contains volume.mountPaths target) :
          config.mode = .singleNodeMultiWriter := not_not.mp fun other => single ⟨other, fresh⟩
      refine safe_reject.mpr ⟨fun _ => fails _, fun _ => ⟨rfl, fun fresh => Or.inr ⟨state, ?_⟩⟩⟩
      intro known equal
      rw [published] at equal
      cases equal
      exact multiWriter fresh

theorem admitPublish_keeps (requested : VolumeConfig) (target : Path) :
    Keeps config I request (admitPublish volume requested target)
      (fun _ => ¬Contains volume.mountPaths target → Mountable volume) := by
  apply (safe_admitPublish (fun _ _ => True) (fun _ => trivial) requested target).weaken
  · exact fun _ _ holds => holds.2
  · exact fun _ _ failed => failed

theorem ensureBacking_keeps (pinned : ∀ v node, Mountable v → I v → I { v with assignedNodeId := some node })
    (loaded : I volume) (admitted : Mountable volume) :
    Keeps config I (.nodePublishVolume r) (ensureBacking config volume) (fun backed => I backed ∧
      ∃ assigned, backed = { volume with assignedNodeId := assigned }) := by
  refine Keeps.bind (Keeps.call (.probe loaded)).mapErr fun present _ => .ite (fun _ => ?_) fun _ => ?_
  · exact .ret ⟨loaded, _, rfl⟩
  · refine Keeps.bind (makeVolume_keeps loaded).mapErr fun _ _ => ?_
    refine Keeps.bind (Keeps.update loaded (.pin config.node admitted)).mapErr fun _ _ => ?_
    exact .ret ⟨pinned _ _ admitted loaded, _, rfl⟩

theorem nodePublishVolume_keeps
    (pinned : ∀ v node, Mountable v → I v → I { v with assignedNodeId := some node })
    (r : NodePublishVolumeRequest) :
    Keeps config I (.nodePublishVolume r) (nodePublishVolume config r) (fun _ => True) := by
  refine Keeps.bind .reject fun _ _ => ?_
  refine Keeps.bind .reject fun _ _ => ?_
  refine Keeps.bind .ofOption fun _ _ => ?_
  refine Keeps.bind .ofExcept fun parsed _ => ?_
  obtain ⟨requested, filesystem⟩ := parsed
  refine Keeps.bind .loadVolume fun volume loaded => ?_
  refine Keeps.bind .reject fun _ _ => ?_
  refine Keeps.bind .refuse fun _ _ => ?_
  refine Keeps.bind (admitPublish_keeps _ _) fun _ admitted => ?_
  refine .ite (fun _ => .ret trivial) fun fresh => ?_
  refine Keeps.bind (Keeps.call .mountpoint).mapErr fun _ _ => ?_
  refine Keeps.bind (ensureBacking_keeps pinned loaded (admitted fresh)) fun backed promised => ?_
  obtain ⟨holds, assigned, rfl⟩ := promised
  refine Keeps.bind (mountVolume_keeps holds).mapErr fun device mounted => ?_
  exact (Keeps.update holds (.mount (admitted fresh) fresh mounted)).mapErr

end Publish

/-! ### NodeUnpublishVolume and NodeExpandVolume -/

section Unpublish
variable {r : NodeUnpublishVolumeRequest} {volume : Volume}

theorem unmountVolume_keeps (loaded : I volume) (state : volume.state = .nodePublished)
    (present : Contains volume.mountPaths r.targetPath) :
    Keeps config I (.nodeUnpublishVolume r) (unmountVolume r.targetPath) (fun _ => True) := by
  refine Keeps.bind (.run ?_ (.umount loaded state present)) fun _ _ => .ret trivial
  rw [trim_chroot]
  rfl

theorem unloopVolume_keeps {device : Path} (loaded : I volume) (state : volume.state = .nodePublished)
    (looped : volume.loopDevice = some device) :
    Keeps config I (.nodeUnpublishVolume r) (unloopVolume device) (fun _ => True) := by
  refine Keeps.bind (.run ?_ (.detach loaded state looped)) fun _ _ => .ret trivial
  rw [trim_chroot]
  rfl

theorem releaseLoop_keeps (loaded : I volume) (state : volume.state = .nodePublished) (after : Volume) :
    Keeps config I (.nodeUnpublishVolume r) (releaseLoop volume after) (fun _ => True) := by
  unfold releaseLoop
  split
  · rename_i looped _
    exact Keeps.bind (unloopVolume_keeps loaded state looped).attempt fun _ _ => .ret trivial
  · exact .ret trivial

theorem nodeUnpublishVolume_keeps (r : NodeUnpublishVolumeRequest) :
    Keeps config I (.nodeUnpublishVolume r) (nodeUnpublishVolume r) (fun _ => True) := by
  refine Keeps.bind .reject fun _ _ => ?_
  refine Keeps.bind .reject fun _ _ => ?_
  refine Keeps.bind .loadVolume fun volume loaded => ?_
  refine .ite (fun _ => .ret trivial) fun mounted => ?_
  rw [not_or, not_not, not_not] at mounted
  refine Keeps.bind (unmountVolume_keeps loaded mounted.1 mounted.2).mapErr fun _ _ => ?_
  refine Keeps.bind (releaseLoop_keeps loaded mounted.1 _) fun _ _ => ?_
  refine Keeps.bind (Keeps.update loaded (.unmount mounted.1 mounted.2)).mapErr fun _ _ => ?_
  exact Keeps.bind (Keeps.call .removeMountpoint).attempt fun _ _ => .ret trivial

end Unpublish

section Expand
variable {r : NodeExpandVolumeRequest} {volume : Volume} {device : Path}

theorem growFilesystem_keeps (loaded : I volume) (looped : volume.loopDevice = some device) :
    Keeps config I (.nodeExpandVolume r) (growFilesystem volume.filesystem device) (fun _ => True) := by
  unfold growFilesystem
  split
  · exact Keeps.bind (.run rfl (.growExt4 loaded looped)) fun _ _ => .ret trivial
  · exact Keeps.bind (.run rfl (.growXfs loaded looped)) fun _ _ => .ret trivial
  · exact .ret trivial

theorem expandVolume_keeps (loaded : I volume) (looped : volume.loopDevice = some device)
    (grows : volume.size < requestedSize r.capacityRange) :
    Keeps config I (.nodeExpandVolume r)
      (expandVolume (recordPath config volume) device (requestedSize r.capacityRange) volume.filesystem)
      (fun _ => True) := by
  refine .ite (fun _ => .ret trivial) fun unbound => ?_
  refine Keeps.bind (.call (.openBacking loaded unbound)) fun _ _ => ?_
  refine Keeps.bind (.call (.lengthen loaded unbound grows)) fun _ _ => ?_
  refine Keeps.bind (.run ?_ (.growDevice loaded looped)) fun _ _ => growFilesystem_keeps loaded looped
  rw [trim_chroot]
  rfl

theorem nodeExpandVolume_keeps (r : NodeExpandVolumeRequest) :
    Keeps config I (.nodeExpandVolume r) (nodeExpandVolume config r) (fun _ => True) := by
  refine Keeps.bind .reject fun _ _ => ?_
  refine Keeps.bind .reject fun _ _ => ?_
  refine Keeps.bind .loadVolume fun volume loaded => ?_
  refine Keeps.bind .reject fun _ mounted => ?_
  rw [not_or, not_not, not_not] at mounted
  refine .ite (fun _ => .ret trivial) fun smaller => ?_
  have grows := UInt64.not_le.mp smaller
  refine Keeps.bind .ofOption fun device looped => ?_
  refine Keeps.bind (expandVolume_keeps loaded looped grows).mapErr fun _ _ => ?_
  exact Keeps.bind (Keeps.update loaded (.expand mounted.1 grows)).mapErr fun _ _ => .ret trivial

end Expand

/-- The footprint is complete, for every property of records that survives the pin in the middle of
NodePublishVolume. -/
theorem handle_keeps (pinned : ∀ v node, Mountable v → I v → I { v with assignedNodeId := some node })
    (request : Request) : Keeps config I request (handle config request) (fun _ => True) := by
  cases request with
  | createVolume r => exact Keeps.bind (createVolume_keeps r) fun _ _ => .ret trivial
  | deleteVolume r => exact Keeps.bind (deleteVolume_keeps r) fun _ _ => .ret trivial
  | controllerPublishVolume r => exact Keeps.bind (controllerPublishVolume_keeps r) fun _ _ => .ret trivial
  | controllerUnpublishVolume r => exact Keeps.bind (controllerUnpublishVolume_keeps r) fun _ _ => .ret trivial
  | nodePublishVolume r => exact Keeps.bind (nodePublishVolume_keeps pinned r) fun _ _ => .ret trivial
  | nodeUnpublishVolume r => exact Keeps.bind (nodeUnpublishVolume_keeps r) fun _ _ => .ret trivial
  | nodeExpandVolume r => exact Keeps.bind (nodeExpandVolume_keeps r) fun _ _ => .ret trivial

end Lvp
