import Lvp.Effect.Protocol
import Lvp.Footprint

/-!
How far a request has got. The calls of a request and their answers take it from phase to phase;
`Issues` lists every call with the phase it is made in, what has been checked by then and where it leads,
and `handle_follows` proves that the handlers keep to the list. What holds over runs with failing calls
is then proved one call at a time.
-/

namespace Lvp
open Unix Effect Csi

/-- How far a request has got with the record it loaded. -/
inductive Stage where
  | loaded
  | erased
  | targeted
  | vacant
  | clear
  | housed
  | created
  | sized
  | made
  | backed
  | attached (device : Path)
  | mounted (device : Option Path)
  | unmounted
  | released
  | opened
  | lengthened
  | refreshed
  | grown
  | saved
  deriving DecidableEq

/-- `stopped` is a request that failed, `missing` one that found no record or deleted it. -/
inductive Phase where
  | start
  | missing
  | on (volume : Volume) (stage : Stage)
  | stopped

/-- A failing call ends the request. -/
def through {α : Type} (next : α → Phase) : Except Failure α → Phase
  | .ok value => next value
  | .error _ => .stopped

@[simp] theorem through_ok {α : Type} (next : α → Phase) (value : α) : through next (.ok value) = next value := rfl

@[simp] theorem through_error {α : Type} (next : α → Phase) (failure : Failure) :
    through next (.error failure) = .stopped := rfl

/-- A request may fail on its own account only before it has changed anything. -/
def Phase.idle : Phase → Bool
  | .start | .missing | .stopped | .on _ .loaded => true
  | _ => false

theorem Phase.idle_on {volume : Volume} {stage : Stage} : (Phase.on volume stage).idle ↔ stage = .loaded := by
  cases stage <;> simp [Phase.idle]

def found : Option Volume → Phase
  | some volume => .on volume .loaded
  | none => .missing

theorem found_idle (result : Option Volume) : (found result).idle := by
  cases result <;> rfl

/-! ### What has been checked -/

/-- The config and filesystem a request asks for, when its capability is acceptable at all. -/
def asked (capability : Option VolumeCapability) : Option (VolumeConfig × Option Filesystem) :=
  capability.bind fun capability => (parseVolumeCapability capability).toOption

/-- What a publish has checked that finds the volume mounted. -/
structure Granted (config : Config) (request : NodePublishVolumeRequest) (volume : Volume) : Prop where
  unlocked : lockedElsewhere volume config.node = none
  granted : ∃ requested filesystem, asked request.volumeCapability = some (requested, filesystem) ∧
    requested ∈ volume.validConfigs ∧ ¬OtherFilesystem filesystem volume ∧
    (volume.state = .nodePublished → ∀ config ∈ volume.publishedConfig, config = requested)

/-- What a publish that goes on to mount has checked. -/
structure Admitted (config : Config) (request : NodePublishVolumeRequest) (volume : Volume) : Prop
    extends Granted config request volume where
  mountable : Mountable volume
  fresh : ¬Contains volume.mountPaths request.targetPath

structure Unmountable (request : NodeUnpublishVolumeRequest) (volume : Volume) : Prop where
  state : volume.state = .nodePublished
  present : Contains volume.mountPaths request.targetPath

structure Expandable (request : NodeExpandVolumeRequest) (volume : Volume) : Prop where
  state : volume.state = .nodePublished
  present : Contains volume.mountPaths request.volumePath
  grows : volume.size < requestedSize request.capacityRange

def pinnedTo (volume : Volume) (node : String) : Volume := { volume with assignedNodeId := some node }

theorem Admitted.pinned {config : Config} {request : NodePublishVolumeRequest} {volume : Volume}
    (admitted : Admitted config request volume) : Admitted config request (pinnedTo volume config.node) where
  unlocked := by simp [pinnedTo, lockedElsewhere]
  granted := admitted.granted
  mountable := admitted.mountable
  fresh := admitted.fresh

/-! ### The protocol -/

/-- The writes of a record: what is written over what, and between which stages. -/
inductive Writes (config : Config) : Request → Volume → Stage → Volume → Stage → Prop where
  | publish {r volume requested filesystem} (asked : asked r.volumeCapability = some (requested, filesystem))
      (unlocked : lockedElsewhere volume r.nodeId = none) (state : volume.state = .«open»)
      (valid : requested ∈ volume.validConfigs) :
      Writes config (.controllerPublishVolume r) volume .loaded { volume with
        publishedConfig := some requested, state := .controllerPublished, publishedReadonly := r.readonly } .saved
  | unpublish {r volume} (state : volume.state = .controllerPublished) :
      Writes config (.controllerUnpublishVolume r) volume .loaded { volume with
        state := .«open», publishedConfig := none, publishedReadonly := false } .saved
  | pin {r volume} (admitted : Admitted config r volume) :
      Writes config (.nodePublishVolume r) volume .made (pinnedTo volume config.node) .backed
  | record {r volume device} (admitted : Admitted config r volume) (mounted : DeviceFor volume device) :
      Writes config (.nodePublishVolume r) volume (.mounted device) (mountedAt volume device r.targetPath) .saved
  | unmount {r volume stage} (unmountable : Unmountable r volume)
      (settled : stage = .released ∨ stage = .unmounted ∧
        (volume.loopDevice = none ∨ (unmountedFrom volume r.targetPath).mountPaths ≠ [])) :
      Writes config (.nodeUnpublishVolume r) volume stage (unmountedFrom volume r.targetPath) .saved
  | expand {r volume stage} (expandable : Expandable r volume)
      (settled : stage = .grown ∨ stage = .loaded ∧ volume.filesystem = .bind) :
      Writes config (.nodeExpandVolume r) volume stage { volume with
        size := requestedSize r.capacityRange } .saved

def formatter : Filesystem → String
  | .ext4 => "mkfs.ext4"
  | .xfs => "mkfs.xfs"
  | .bind => ""

def growCommand (filesystem : Filesystem) (device : Path) : List String :=
  if filesystem = .ext4 then ["resize2fs", device] else ["xfs_growfs", "-d", device]

/-- The calls of a request. -/
inductive Issues (config : Config) : Request → Phase → (call : Call) → (call.Answer → Phase) → Prop where
  | load {request} : Issues config request .start (.getOpt (volumeKey request.volumeId)) (through found)
  | write {request volume stage written next} (writes : Writes config request volume stage written next) :
      Issues config request (.on volume stage) (.patch written.key written) (through fun _ => .on written next)
  | create {r volume} (built : newVolume r = .ok volume) :
      Issues config (.createVolume r) .missing (.create volume.key volume) (through fun _ => .on volume .saved)
  | reload {r volume} :
      Issues config (.createVolume r) (.on volume .loaded) (.getOpt (volumeKey r.name)) (through found)
  | removeDirectory {r volume} (state : volume.state = .«open») (bound : volume.filesystem = .bind) :
      Issues config (.deleteVolume r) (.on volume .loaded) (.removeDirAll (recordPath config volume))
        (through fun _ => .on volume .erased)
  | removeFile {r volume} (state : volume.state = .«open») (unbound : volume.filesystem ≠ .bind) :
      Issues config (.deleteVolume r) (.on volume .loaded) (.removeFile (recordPath config volume))
        (through fun _ => .on volume .erased)
  | delete {r volume} (state : volume.state = .«open») :
      Issues config (.deleteVolume r) (.on volume .erased) (.delete volume.key) (through fun _ => .missing)
  | target {r volume} (admitted : Admitted config r volume) :
      Issues config (.nodePublishVolume r) (.on volume .loaded) (.createDirAll r.targetPath)
        (through fun _ => .on volume .targeted)
  | probe {r volume} :
      Issues config (.nodePublishVolume r) (.on volume .targeted) (.tryExists (publishPath config volume))
        (through fun present => .on volume (if present then .backed else .vacant))
  | check {r volume} :
      Issues config (.nodePublishVolume r) (.on volume .vacant) (.tryExists (publishPath config volume))
        (through fun present => if present then .stopped else .on volume .clear)
  | makeDirectory {r volume} (bound : volume.filesystem = .bind) :
      Issues config (.nodePublishVolume r) (.on volume .clear) (.createDirAll (publishPath config volume))
        (through fun _ => .on volume .made)
  | makeParent {r volume directory} (unbound : volume.filesystem ≠ .bind)
      (above : parent (publishPath config volume) = some directory) :
      Issues config (.nodePublishVolume r) (.on volume .clear) (.createDirAll directory)
        (through fun _ => .on volume .housed)
  | makeFile {r volume stage} (unbound : volume.filesystem ≠ .bind)
      (housed : stage = .housed ∨ stage = .clear ∧ parent (publishPath config volume) = none) :
      Issues config (.nodePublishVolume r) (.on volume stage) (.createFile (publishPath config volume))
        (through fun _ => .on volume .created)
  | size {r volume} (unbound : volume.filesystem ≠ .bind) :
      Issues config (.nodePublishVolume r) (.on volume .created)
        (.ftruncate (publishPath config volume) volume.size.toInt64) (through fun _ => .on volume .sized)
  | mkfs {r volume} (unbound : volume.filesystem ≠ .bind) :
      Issues config (.nodePublishVolume r) (.on volume .sized)
        (.command [formatter volume.filesystem, publishPath config volume]) (through fun _ => .on volume .made)
  | attach {r volume} (unbound : volume.filesystem ≠ .bind) (unknown : volume.loopDevice = none) :
      Issues config (.nodePublishVolume r) (.on volume .backed)
        (.command ["chroot", "/chr", "losetup", "--show", "-L", "-f", trim (publishPath config volume)])
        (through fun output => .on volume (.attached output))
  | mount {r volume stage device} (admitted : Admitted config r volume) (unbound : volume.filesystem ≠ .bind)
      (ready : stage = .attached device ∧ volume.loopDevice = none ∨
        stage = .backed ∧ volume.loopDevice = some device) :
      Issues config (.nodePublishVolume r) (.on volume stage)
        (.command (["chroot", "/chr"] ++
          mountCommand false (r.readonly || volume.publishedReadonly) (trim device) (trim r.targetPath)))
        (through fun _ => .on volume (.mounted (some device)))
  | mountBind {r volume} (admitted : Admitted config r volume) (bound : volume.filesystem = .bind) :
      Issues config (.nodePublishVolume r) (.on volume .backed)
        (.command (mountCommand true (r.readonly || volume.publishedReadonly)
          (trim (publishPath config volume)) (trim r.targetPath)))
        (through fun _ => .on volume (.mounted none))
  | umount {r volume} (unmountable : Unmountable r volume) :
      Issues config (.nodeUnpublishVolume r) (.on volume .loaded)
        (.command ["chroot", "/chr", "umount", trim r.targetPath]) (through fun _ => .on volume .unmounted)
  -- a device that stays attached is only logged
  | detach {r volume device} (unmountable : Unmountable r volume) (looped : volume.loopDevice = some device)
      (last : (unmountedFrom volume r.targetPath).mountPaths = []) :
      Issues config (.nodeUnpublishVolume r) (.on volume .unmounted)
        (.command ["chroot", "/chr", "losetup", "-d", trim device]) (fun _ => .on volume .released)
  | removeTarget {r volume} :
      Issues config (.nodeUnpublishVolume r) (.on volume .saved) (.removeDir r.targetPath)
        (fun _ => .on volume .saved)
  | openBacking {r volume} (expandable : Expandable r volume) (unbound : volume.filesystem ≠ .bind) :
      Issues config (.nodeExpandVolume r) (.on volume .loaded) (.openWrite (recordPath config volume))
        (through fun _ => .on volume .opened)
  | lengthen {r volume} (expandable : Expandable r volume) (unbound : volume.filesystem ≠ .bind) :
      Issues config (.nodeExpandVolume r) (.on volume .opened)
        (.ftruncate (recordPath config volume) (requestedSize r.capacityRange).toInt64)
        (through fun _ => .on volume .lengthened)
  | refresh {r volume device} (expandable : Expandable r volume) (looped : volume.loopDevice = some device) :
      Issues config (.nodeExpandVolume r) (.on volume .lengthened)
        (.command ["chroot", "/chr", "losetup", "-c", trim device]) (through fun _ => .on volume .refreshed)
  | grow {r volume device} (expandable : Expandable r volume) (looped : volume.loopDevice = some device) :
      Issues config (.nodeExpandVolume r) (.on volume .refreshed)
        (.command (growCommand volume.filesystem (trim device))) (through fun _ => .on volume .grown)

/-- The phases a request returns Ok in. -/
inductive Returns (config : Config) : Request → Phase → Prop where
  | createdBefore {r volume} : Returns config (.createVolume r) (.on volume .loaded)
  | created {r volume} : Returns config (.createVolume r) (.on volume .saved)
  | deleted {r} : Returns config (.deleteVolume r) .missing
  | compatible {r volume requested filesystem} (asked : asked r.volumeCapability = some (requested, filesystem))
      (unlocked : lockedElsewhere volume r.nodeId = none) (state : volume.state = .controllerPublished)
      (valid : requested ∈ volume.validConfigs) (filesystem : ¬OtherFilesystem filesystem volume)
      (readonly : volume.publishedReadonly = r.readonly) :
      Returns config (.controllerPublishVolume r) (.on volume .loaded)
  | published {r volume} : Returns config (.controllerPublishVolume r) (.on volume .saved)
  | unpublishedMissing {r} : Returns config (.controllerUnpublishVolume r) .missing
  | unpublishedOpen {r volume} (state : volume.state = .«open») :
      Returns config (.controllerUnpublishVolume r) (.on volume .loaded)
  | unpublished {r volume} : Returns config (.controllerUnpublishVolume r) (.on volume .saved)
  | mountedBefore {r volume} (granted : Granted config r volume) (present : Contains volume.mountPaths r.targetPath) :
      Returns config (.nodePublishVolume r) (.on volume .loaded)
  | mounted {r volume} : Returns config (.nodePublishVolume r) (.on volume .saved)
  | unmountedBefore {r volume} (idle : ¬Unmountable r volume) :
      Returns config (.nodeUnpublishVolume r) (.on volume .loaded)
  | unmounted {r volume} : Returns config (.nodeUnpublishVolume r) (.on volume .saved)
  | largeEnough {r volume} : Returns config (.nodeExpandVolume r) (.on volume .loaded)
  | expanded {r volume} : Returns config (.nodeExpandVolume r) (.on volume .saved)

/-! ### The handlers -/

variable {config : Config} {request : Request} {phase : Phase} {ε ε' α β : Type}

/-- The program keeps to the calls of the request and returns in `post`, or fails. -/
abbrev Goes (config : Config) (request : Request) (program : Action ε α) (post : α → Phase → Prop)
    (phase : Phase) : Prop := Follows (Issues config request) program post (fun _ after => after.idle) phase

namespace Goes

theorem call {call : Call} {next : call.Value → Phase} (issued : Issues config request phase call (through next)) :
    Goes config request (issue call) (fun value after => after = next value) phase := by
  refine ⟨_, issued, fun answer => ?_⟩
  cases answer with
  | ok value => rfl
  | error failure => rfl

theorem run {command trimmed : List String} {next : String → Phase} (same : command.map trim = trimmed)
    (issued : Issues config request phase (.command trimmed) (through next)) :
    Goes config request (Lvp.run command) (fun output after => after = next output) phase := by
  subst same
  exact call issued

theorem mapErr {program : Action ε' α} {f : ε' → ε} {post : α → Phase → Prop}
    (goes : Goes config request program post phase) : Goes config request (program.mapErr f) post phase :=
  follows_mapErr.mpr goes

variable {post : β → Phase → Prop}

theorem reject {condition : Prop} [Decidable condition] {error : ε} {next : Unit → Action ε β}
    (idle : phase.idle) (rest : ¬condition → Goes config request (next ()) post phase) :
    Goes config request (.reject condition error >>= next) post phase :=
  follows_bind.mpr (follows_reject.mpr ⟨fun _ => idle, rest⟩)

theorem ofOption {result : Option α} {error : ε} {next : α → Action ε β}
    (idle : phase.idle) (rest : ∀ value, result = some value → Goes config request (next value) post phase) :
    Goes config request (.ofOption error result >>= next) post phase :=
  follows_bind.mpr (follows_ofOption.mpr ⟨fun _ => idle, rest⟩)

theorem ofExcept {result : Except ε α} {next : α → Action ε β}
    (idle : phase.idle) (rest : ∀ value, result = .ok value → Goes config request (next value) post phase) :
    Goes config request (.ofExcept result >>= next) post phase :=
  follows_bind.mpr (follows_ofExcept.mpr ⟨fun _ _ => idle, rest⟩)

theorem refuse {status : Option Status} {next : Unit → Action Status β}
    (idle : phase.idle) (rest : status = none → Goes config request (next ()) post phase) :
    Goes config request (refuse status >>= next) post phase := by
  cases status with
  | none => exact rest rfl
  | some status => exact idle

theorem load : Goes config request (Volume.load request.volumeId)
    (fun result after => after = found result) .start := call .load

theorem loadVolume :
    Goes config request (loadVolume request.volumeId) (fun volume after => after = .on volume .loaded) .start := by
  refine Follows.bind load.mapErr fun result after loaded => ?_
  subst loaded
  refine follows_ofOption.mpr ⟨fun none => ?_, fun volume same => ?_⟩
  · rw [none]
    rfl
  · rw [same]
    rfl

theorem update {volume written : Volume} {stage next : Stage}
    (writes : Writes config request volume stage written next) :
    Goes config request written.update (fun _ after => after = .on written next) (.on volume stage) :=
  call (.write writes)

end Goes

theorem asked_some {capability : VolumeCapability} {parsed : VolumeConfig × Option Filesystem}
    (accepted : parseVolumeCapability capability = .ok parsed) : asked (some capability) = some parsed := by
  simp [asked, accepted, Except.toOption]

theorem createVolume_goes (r : CreateVolumeRequest) :
    Goes config (.createVolume r) (createVolume r) (fun _ => Returns config (.createVolume r)) .start := by
  refine Goes.ofExcept rfl fun volume built => ?_
  have name := newVolume_name built
  have key : volume.key = volumeKey r.name := congrArg volumeKey name
  have load : Goes config (.createVolume r) (Lvp.issue (.getOpt volume.key))
      (fun result after => after = found result) .start := key ▸ Goes.call .load
  have creation : Goes config (.createVolume r) volume.create (fun creation after =>
      (creation = .alreadyExists → ∃ existing, after = .on existing .loaded) ∧
        (creation = .success → after = .on volume .saved)) .start := by
    refine Follows.bind load fun existing after loaded => ?_
    subst loaded
    cases existing with
    | some existing => exact ⟨fun _ => ⟨existing, rfl⟩, nofun⟩
    | none => exact Follows.bind (Goes.call (.create built)) fun _ _ saved => ⟨nofun, fun _ => saved⟩
  refine Follows.bind creation.mapErr fun creation after went => ?_
  cases creation with
  | success =>
    rw [went.2 rfl]
    exact .created
  | alreadyExists =>
    obtain ⟨existing, rfl⟩ := went.1 rfl
    have reload : Goes config (.createVolume r) (Volume.load volume.name)
        (fun result after => after = found result) (.on existing .loaded) := name ▸ Goes.call .reload
    refine Follows.bind reload.mapErr fun result after loaded => ?_
    subst loaded
    refine Goes.ofOption (found_idle result) fun stored same => Goes.reject (found_idle result) fun _ => ?_
    rw [same]
    exact .createdBefore

theorem deleteVolume_goes (r : DeleteVolumeRequest) :
    Goes config (.deleteVolume r) (deleteVolume config r) (fun _ => Returns config (.deleteVolume r)) .start := by
  refine Goes.reject rfl fun _ => Follows.bind Goes.load.mapErr fun result after loaded => ?_
  subst loaded
  cases result with
  | none => exact .deleted
  | some volume =>
    refine Goes.reject rfl fun state => ?_
    rw [not_not] at state
    have removal : Goes config (.deleteVolume r) (removeBacking volume.filesystem (recordPath config volume))
        (fun _ after => after = .on volume .erased) (.on volume .loaded) := by
      unfold removeBacking
      split
      · rename_i bound
        exact Goes.call (.removeDirectory state bound)
      · rename_i unbound
        exact Goes.call (.removeFile state unbound)
    refine Follows.bind removal.mapErr fun _ after erased => ?_
    subst erased
    refine (Goes.mapErr (Goes.call (.delete state))).weaken ?_ fun _ _ idle => idle
    rintro _ _ rfl
    exact .deleted

theorem controllerPublishVolume_goes (r : ControllerPublishVolumeRequest) :
    Goes config (.controllerPublishVolume r) (controllerPublishVolume r)
      (fun _ => Returns config (.controllerPublishVolume r)) .start := by
  refine Goes.reject rfl fun _ => Goes.reject rfl fun _ => Goes.reject rfl fun _ => ?_
  refine Follows.bind Goes.loadVolume fun volume after loaded => ?_
  subst loaded
  refine Goes.refuse rfl fun unlocked => ?_
  refine Goes.ofOption rfl fun capability given => Goes.ofExcept rfl fun parsed accepted => ?_
  obtain ⟨requested, filesystem⟩ := parsed
  have asking : asked r.volumeCapability = some (requested, filesystem) := given ▸ asked_some accepted
  dsimp only
  split
  · exact rfl
  · rename_i state
    refine follows_reject.mpr ⟨fun _ => rfl, fun compatible => ?_⟩
    rw [not_or, not_or, not_not, not_not] at compatible
    exact .compatible asking unlocked state compatible.1 compatible.2.1 compatible.2.2
  · rename_i state
    refine Goes.reject rfl fun valid => ?_
    refine (Goes.mapErr (Goes.update (.publish asking unlocked state (not_not.mp valid)))).weaken ?_
      fun _ _ idle => idle
    rintro _ _ rfl
    exact .published

theorem controllerUnpublishVolume_goes (r : ControllerUnpublishVolumeRequest) :
    Goes config (.controllerUnpublishVolume r) (controllerUnpublishVolume r)
      (fun _ => Returns config (.controllerUnpublishVolume r)) .start := by
  refine Goes.reject rfl fun _ => Follows.bind Goes.load.mapErr fun result after loaded => ?_
  subst loaded
  cases result with
  | none => exact .unpublishedMissing
  | some volume =>
    dsimp only
    split
    · exact rfl
    · rename_i state
      exact .unpublishedOpen state
    · rename_i state
      refine (Goes.mapErr (Goes.update (.unpublish state))).weaken ?_ fun _ _ idle => idle
      rintro _ _ rfl
      exact .unpublished

/-! ### NodePublishVolume -/

section Publish
variable {r : NodePublishVolumeRequest} {volume : Volume}

theorem createParent_goes (unbound : volume.filesystem ≠ .bind) :
    Goes config (.nodePublishVolume r) (createParent (publishPath config volume))
      (fun _ after => ∃ stage, after = .on volume stage ∧
        (stage = .housed ∨ stage = .clear ∧ parent (publishPath config volume) = none)) (.on volume .clear) := by
  unfold createParent
  split
  · rename_i above
    exact (Goes.call (.makeParent unbound above)).weaken (fun _ _ housed => ⟨_, housed, Or.inl rfl⟩)
      fun _ _ idle => idle
  · rename_i alone
    exact ⟨_, rfl, Or.inr ⟨rfl, alone⟩⟩

theorem format_goes (unbound : volume.filesystem ≠ .bind) :
    Goes config (.nodePublishVolume r) (format volume.filesystem (publishPath config volume))
      (fun _ after => after = .on volume .made) (.on volume .sized) := by
  have mkfs : Issues config (.nodePublishVolume r) (.on volume .sized)
      (.command [formatter volume.filesystem, publishPath config volume]) (through fun _ => .on volume .made) :=
    .mkfs unbound
  unfold format
  split
  · rename_i ext4
    rw [ext4] at mkfs
    exact Follows.bind (Goes.call mkfs) fun _ _ made => made
  · rename_i xfs
    rw [xfs] at mkfs
    exact Follows.bind (Goes.call mkfs) fun _ _ made => made
  · rename_i bound
    exact absurd bound unbound

theorem makeVolume_goes :
    Goes config (.nodePublishVolume r) (makeVolume (publishPath config volume) volume.size volume.filesystem)
      (fun _ after => after = .on volume .made) (.on volume .vacant) := by
  refine Follows.bind (Goes.call .check) fun present after checked => ?_
  subst checked
  refine follows_bind.mpr (follows_reject.mpr ⟨fun there => ?_, fun clear => ?_⟩)
  · rw [if_pos there]
    rfl
  rw [if_neg clear]
  split
  · rename_i bound
    exact Goes.call (.makeDirectory bound)
  · rename_i unbound
    refine Follows.bind (createParent_goes unbound) fun _ after housed => ?_
    obtain ⟨stage, rfl, housed⟩ := housed
    refine Follows.bind (Goes.call (.makeFile unbound housed)) fun _ after created => ?_
    subst created
    refine Follows.bind (Goes.call (.size unbound)) fun _ after sized => ?_
    subst sized
    exact format_goes unbound

theorem ensureBacking_goes (admitted : Admitted config r volume) :
    Goes config (.nodePublishVolume r) (ensureBacking config volume)
      (fun backed after => after = .on backed .backed ∧ Admitted config r backed) (.on volume .targeted) := by
  refine Follows.bind (Goes.mapErr (Goes.call .probe)) fun present after probed => ?_
  subst probed
  cases present with
  | true => exact ⟨rfl, admitted⟩
  | false =>
    refine Follows.bind makeVolume_goes.mapErr fun _ after made => ?_
    subst made
    refine Follows.bind (Goes.update (.pin admitted)).mapErr fun _ after pinned => ?_
    exact ⟨pinned, admitted.pinned⟩

theorem loopFor_goes (unbound : volume.filesystem ≠ .bind) :
    Goes config (.nodePublishVolume r) (loopFor volume.loopDevice (publishPath config volume))
      (fun device after => ∃ stage, after = .on volume stage ∧
        (stage = .attached device ∧ volume.loopDevice = none ∨ stage = .backed ∧ volume.loopDevice = some device))
      (.on volume .backed) := by
  cases looped : volume.loopDevice with
  | some device => exact ⟨_, rfl, Or.inr ⟨rfl, rfl⟩⟩
  | none =>
    have attach : Goes config (.nodePublishVolume r)
        (runInChroot ["losetup", "--show", "-L", "-f", publishPath config volume]) _ _ :=
      Goes.run (by rw [trim_chroot]; rfl) (.attach unbound looped)
    exact attach.weaken (fun device _ attached => ⟨_, attached, Or.inl ⟨rfl, rfl⟩⟩) fun _ _ idle => idle

theorem mountVolume_goes (admitted : Admitted config r volume) :
    Goes config (.nodePublishVolume r)
      (mountVolume volume.loopDevice (publishPath config volume) r.targetPath
        (r.readonly || volume.publishedReadonly) volume.filesystem)
      (fun device after => after = .on volume (.mounted device) ∧ DeviceFor volume device)
      (.on volume .backed) := by
  unfold mountVolume
  split
  · rename_i bound
    refine Follows.bind (Goes.run (trim_mountCommand _ _ _ _) (.mountBind admitted bound)) fun _ after mounted => ?_
    exact ⟨mounted, by simp [DeviceFor, bound]⟩
  · rename_i unbound
    refine Follows.bind (loopFor_goes unbound) fun device after looped => ?_
    obtain ⟨stage, rfl, ready⟩ := looped
    have same : ("chroot" :: "/chr" :: mountCommand false (r.readonly || volume.publishedReadonly) device
        r.targetPath).map trim = ["chroot", "/chr"] ++
          mountCommand false (r.readonly || volume.publishedReadonly) (trim device) (trim r.targetPath) := by
      rw [trim_chroot, trim_mountCommand]
      rfl
    refine Follows.bind (Goes.run same (.mount admitted unbound ready)) fun _ after mounted => ⟨mounted, ?_⟩
    rw [DeviceFor, if_neg unbound]
    refine ⟨device, rfl, fun known recorded => ?_⟩
    rcases ready with ⟨-, unknown⟩ | ⟨-, same⟩
    · rw [unknown] at recorded
      cases recorded
    · exact Option.some.inj (same.symm.trans recorded)

theorem admitPublish_goes {requested : VolumeConfig} {target : Path} {phase : Phase} (idle : phase.idle) :
    Goes config (.nodePublishVolume r) (admitPublish volume requested target)
      (fun _ after => after = phase ∧ (¬Contains volume.mountPaths target → Mountable volume) ∧
        (volume.state = .nodePublished → ∀ config ∈ volume.publishedConfig, config = requested)) phase := by
  unfold admitPublish
  cases state : volume.state with
  | «open» => exact idle
  | controllerPublished => exact ⟨rfl, fun _ => Or.inl state, nofun⟩
  | nodePublished =>
    cases published : volume.publishedConfig with
    | none => exact ⟨rfl, fun _ => Or.inr ⟨state, by simp [published]⟩, fun _ _ member => nomatch member⟩
    | some config =>
      refine Goes.reject idle fun single => follows_reject.mpr ⟨fun _ => idle, fun agrees => ⟨rfl, ?_, ?_⟩⟩
      · intro fresh
        refine Or.inr ⟨state, fun known same => ?_⟩
        cases published.symm.trans same
        exact not_not.mp fun other => single ⟨other, fresh⟩
      · rintro - known ⟨⟩
        exact not_not.mp agrees

theorem nodePublishVolume_goes (r : NodePublishVolumeRequest) :
    Goes config (.nodePublishVolume r) (nodePublishVolume config r)
      (fun _ => Returns config (.nodePublishVolume r)) .start := by
  refine Goes.reject rfl fun _ => Goes.reject rfl fun _ => ?_
  refine Goes.ofOption rfl fun capability given => Goes.ofExcept rfl fun parsed accepted => ?_
  obtain ⟨requested, filesystem⟩ := parsed
  have asking : asked r.volumeCapability = some (requested, filesystem) := given ▸ asked_some accepted
  refine Follows.bind Goes.loadVolume fun volume after loaded => ?_
  subst loaded
  refine Goes.reject rfl fun compatible => Goes.refuse rfl fun unlocked => ?_
  rw [not_or, not_not] at compatible
  refine Follows.bind (admitPublish_goes rfl) fun _ after entered => ?_
  obtain ⟨rfl, mountable, agrees⟩ := entered
  have granted : Granted config r volume :=
    ⟨unlocked, requested, filesystem, asking, compatible.1, compatible.2, agrees⟩
  split
  · rename_i present
    exact .mountedBefore granted present
  · rename_i fresh
    have admitted : Admitted config r volume := ⟨granted, mountable fresh, fresh⟩
    refine Follows.bind (Goes.mapErr (Goes.call (.target admitted))) fun _ after targeted => ?_
    subst targeted
    refine Follows.bind (ensureBacking_goes admitted) fun backed after ready => ?_
    obtain ⟨rfl, admitted⟩ := ready
    refine Follows.bind (mountVolume_goes admitted).mapErr fun device after mounted => ?_
    obtain ⟨rfl, deviceFor⟩ := mounted
    refine (Goes.mapErr (Goes.update (.record admitted deviceFor))).weaken ?_ fun _ _ idle => idle
    rintro _ _ rfl
    exact .mounted

end Publish

/-! ### NodeUnpublishVolume and NodeExpandVolume -/

section Unpublish
variable {r : NodeUnpublishVolumeRequest} {volume : Volume}

theorem unmountVolume_goes (unmountable : Unmountable r volume) :
    Goes config (.nodeUnpublishVolume r) (unmountVolume r.targetPath)
      (fun _ after => after = .on volume .unmounted) (.on volume .loaded) := by
  have umount : Goes config (.nodeUnpublishVolume r) (runInChroot ["umount", r.targetPath]) _ _ :=
    Goes.run (by rw [trim_chroot]; rfl) (.umount unmountable)
  exact Follows.bind umount fun _ _ unmounted => unmounted

theorem releaseLoop_goes (unmountable : Unmountable r volume) :
    Goes config (.nodeUnpublishVolume r) (releaseLoop volume (unmountedFrom volume r.targetPath))
      (fun _ after => ∃ stage, after = .on volume stage ∧ (stage = .released ∨ stage = .unmounted ∧
        (volume.loopDevice = none ∨ (unmountedFrom volume r.targetPath).mountPaths ≠ [])))
      (.on volume .unmounted) := by
  unfold releaseLoop
  split
  · rename_i device looped last
    refine follows_bind.mpr (follows_attempt.mpr ?_)
    have same : ("chroot" :: "/chr" :: ["losetup", "-d", device]).map trim =
        ["chroot", "/chr", "losetup", "-d", trim device] := by
      rw [trim_chroot]
      rfl
    unfold unloopVolume runInChroot run
    rw [same]
    refine ⟨_, .detach unmountable looped last, fun answer => ?_⟩
    cases answer with
    | ok output => exact ⟨_, rfl, Or.inl rfl⟩
    | error failure => exact ⟨_, rfl, Or.inl rfl⟩
  · rename_i kept
    refine ⟨_, rfl, Or.inr ⟨rfl, ?_⟩⟩
    by_cases looped : volume.loopDevice = none
    · exact Or.inl looped
    · obtain ⟨device, same⟩ := Option.ne_none_iff_exists'.mp looped
      exact Or.inr fun last => kept device same last

theorem nodeUnpublishVolume_goes (r : NodeUnpublishVolumeRequest) :
    Goes config (.nodeUnpublishVolume r) (nodeUnpublishVolume r)
      (fun _ => Returns config (.nodeUnpublishVolume r)) .start := by
  refine Goes.reject rfl fun _ => Goes.reject rfl fun _ => ?_
  refine Follows.bind Goes.loadVolume fun volume after loaded => ?_
  subst loaded
  split
  · rename_i idle
    exact .unmountedBefore fun unmountable => idle.elim (· unmountable.state) (· unmountable.present)
  · rename_i mounted
    rw [not_or, not_not, not_not] at mounted
    have unmountable : Unmountable r volume := ⟨mounted.1, mounted.2⟩
    refine Follows.bind (unmountVolume_goes unmountable).mapErr fun _ after unmounted => ?_
    subst unmounted
    refine Follows.bind (releaseLoop_goes unmountable) fun _ after released => ?_
    obtain ⟨stage, rfl, settled⟩ := released
    refine Follows.bind (Goes.update (.unmount unmountable settled)).mapErr fun _ after saved => ?_
    subst saved
    refine follows_bind.mpr (follows_attempt.mpr ⟨_, .removeTarget, fun answer => ?_⟩)
    cases answer with
    | ok value => exact .unmounted
    | error failure => exact .unmounted

end Unpublish

section Expand
variable {r : NodeExpandVolumeRequest} {volume : Volume} {device : Path}

theorem growFilesystem_goes (expandable : Expandable r volume) (looped : volume.loopDevice = some device)
    (unbound : volume.filesystem ≠ .bind) :
    Goes config (.nodeExpandVolume r) (growFilesystem volume.filesystem device)
      (fun _ after => after = .on volume .grown) (.on volume .refreshed) := by
  have grow : Issues config (.nodeExpandVolume r) (.on volume .refreshed)
      (.command (growCommand volume.filesystem (trim device))) (through fun _ => .on volume .grown) :=
    .grow expandable looped
  unfold growFilesystem
  split
  · rename_i ext4
    rw [ext4] at grow
    exact Follows.bind (Goes.run rfl grow) fun _ _ grown => grown
  · rename_i xfs
    rw [xfs] at grow
    exact Follows.bind (Goes.run rfl grow) fun _ _ grown => grown
  · rename_i bound
    exact absurd bound unbound

theorem expandVolume_goes (expandable : Expandable r volume) (looped : volume.loopDevice = some device) :
    Goes config (.nodeExpandVolume r)
      (expandVolume (recordPath config volume) device (requestedSize r.capacityRange) volume.filesystem)
      (fun _ after => ∃ stage, after = .on volume stage ∧
        (stage = .grown ∨ stage = .loaded ∧ volume.filesystem = .bind)) (.on volume .loaded) := by
  unfold expandVolume
  split
  · rename_i bound
    exact ⟨_, rfl, Or.inr ⟨rfl, bound⟩⟩
  · rename_i unbound
    refine Follows.bind (Goes.call (.openBacking expandable unbound)) fun _ after opened => ?_
    subst opened
    refine Follows.bind (Goes.call (.lengthen expandable unbound)) fun _ after lengthened => ?_
    subst lengthened
    have refresh : Goes config (.nodeExpandVolume r) (runInChroot ["losetup", "-c", device]) _ _ :=
      Goes.run (by rw [trim_chroot]; rfl) (.refresh expandable looped)
    refine Follows.bind refresh fun _ after refreshed => ?_
    subst refreshed
    exact (growFilesystem_goes expandable looped unbound).weaken (fun _ _ grown => ⟨_, grown, Or.inl rfl⟩)
      fun _ _ idle => idle

theorem nodeExpandVolume_goes (r : NodeExpandVolumeRequest) :
    Goes config (.nodeExpandVolume r) (nodeExpandVolume config r)
      (fun _ => Returns config (.nodeExpandVolume r)) .start := by
  refine Goes.reject rfl fun _ => Goes.reject rfl fun _ => ?_
  refine Follows.bind Goes.loadVolume fun volume after loaded => ?_
  subst loaded
  refine Goes.reject rfl fun mounted => ?_
  rw [not_or, not_not, not_not] at mounted
  dsimp only
  split
  · exact .largeEnough
  · rename_i smaller
    refine Goes.ofOption rfl fun device looped => ?_
    have expandable : Expandable r volume := ⟨mounted.1, mounted.2, UInt64.not_le.mp smaller⟩
    refine Follows.bind (expandVolume_goes expandable looped).mapErr fun _ after grown => ?_
    obtain ⟨stage, rfl, settled⟩ := grown
    refine Follows.bind (Goes.update (.expand expandable settled)).mapErr fun _ after saved => ?_
    subst saved
    exact .expanded

end Expand

/-- The list of calls is complete. -/
theorem handle_follows (config : Config) (request : Request) :
    Goes config request (handle config request) (fun _ => Returns config request) .start := by
  cases request with
  | createVolume r => exact Follows.bind (createVolume_goes r) fun _ _ returned => returned
  | deleteVolume r => exact Follows.bind (deleteVolume_goes r) fun _ _ returned => returned
  | controllerPublishVolume r => exact Follows.bind (controllerPublishVolume_goes r) fun _ _ returned => returned
  | controllerUnpublishVolume r => exact Follows.bind (controllerUnpublishVolume_goes r) fun _ _ returned =>
    returned
  | nodePublishVolume r => exact Follows.bind (nodePublishVolume_goes r) fun _ _ returned => returned
  | nodeUnpublishVolume r => exact Follows.bind (nodeUnpublishVolume_goes r) fun _ _ returned => returned
  | nodeExpandVolume r => exact Follows.bind (nodeExpandVolume_goes r) fun _ _ returned => returned

end Lvp
