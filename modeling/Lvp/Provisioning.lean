import Lvp.Capabilities
import Lvp.Capacity
import Lvp.Custody
import Lvp.Effect.Total
import Lvp.Teardown
import Lvp.Unix.Access

/-!
Setting a volume up. Where nothing is in the way, a volume that is created, published and mounted at any number of
targets ends up mounted there, over data of the size and the filesystem that were asked for.
-/

namespace Lvp
open Unix Effect Csi

variable {config : Config} {request : Request} {world : World} {store : Store} {host after : Host} {volume : Volume}
  {r : NodePublishVolumeRequest} {target : Path} {α : Type}

/-- Ok without failures, and what holds then. -/
abbrev Fine (request : Request) {ε : Type} (program : Action ε α) (post : α → World → Prop)
    (world : World) : Prop :=
  Succeeds (execFor request) (fun _ => Fault.none) program post world

theorem fine_issue {call : Call} {value : call.Value} {post : call.Value → World → Prop} {world after : World}
    (performed : world.perform request.volumeId call = (.ok value, after)) (ends : post value after) :
    Fine request (issue call) post world :=
  ⟨value, after, (run_issue request world call).trans performed, ends⟩

/-- A call to the host that goes through. -/
theorem fine_host {call : Call} {value : call.Value} {post : call.Value → World → Prop} {world : World}
    (result : Except IoError call.Value × Host) (through : result.1 = .ok value)
    (ends : post value { world with host := result.2 })
    (performed : world.perform request.volumeId call = fromHost world result := by rfl) :
    Fine request (issue call) post world := by
  refine fine_issue (performed.trans ?_) ends
  rw [fromHost, through]
  rfl

/-! ### The data of a volume -/

/-- Nothing is mounted on the way to the path, or there. The files of a host are those under its mounts. -/
def Visible (host : Host) (path : Path) : Prop :=
  ∀ mount ∈ host.mounts, host.resolve mount.target ∉ trail host.cwd path

instance (host : Host) (path : Path) : Decidable (Visible host path) :=
  inferInstanceAs (Decidable (∀ mount ∈ host.mounts, _))

theorem Visible.top (visible : Visible host target) : host.top target = none := by
  refine List.find?_eq_none.mpr fun mount member => ?_
  simp only [decide_eq_true_eq]
  exact fun same => visible mount member (Host.mem_trail.mpr (Or.inr same))

/-- Nothing is in the way of making the data of the volume, or of attaching it, and it is large enough for its
filesystem. -/
structure Makeable (config : Config) (volume : Volume) (host : Host) : Prop where
  absolute : isAbsolute (publishPath config volume)
  trimmed : trim (publishPath config volume) = publishPath config volume
  plain : ¬Host.namesDirectory (publishPath config volume)
  positive : ¬volume.size.toInt64 < 0
  large : host.least (filesystemName volume.filesystem) ≤ volume.size.toNat
  free : host.Free (publishPath config volume)
  visible : Visible host (publishPath config volume)
  unattached : ∀ loop ∈ host.loops, loop.backing ≠ some (host.resolve (publishPath config volume))

/-- What lies at the path of a volume once its data is made. -/
def contents (volume : Volume) : Node := .file volume.size.toNat (some (filesystemName volume.filesystem))

/-- The device is a loop device over the data of the volume. -/
def Backed (config : Config) (volume : Volume) (host : Host) (device : Path) : Prop :=
  host.behind device = some (host.resolve (publishPath config volume))

theorem Backed.laid {device : Path} {location : Location} (backed : Backed config volume host device)
    (lays : Host.Lays location host after) : Backed config volume after device := by
  rw [Backed, lays.behind, lays.resolve]
  exact backed

/-- The data of the volume can be mounted. -/
structure Stocked (config : Config) (volume : Volume) (host : Host) : Prop where
  data : host.stat (publishPath config volume) = .ok (contents volume)
  device : ∀ device ∈ volume.loopDevice, Backed config volume host (trim device)
  unattached : volume.loopDevice = none →
    ∀ loop ∈ host.loops, loop.backing ≠ some (host.resolve (publishPath config volume))

theorem Backed.formatted {device : Path} (backed : Backed config volume host device)
    (data : host.stat (publishPath config volume) = .ok (contents volume)) : host.formatted device := by
  obtain ⟨loop, found, file⟩ := Option.bind_eq_some_iff.mp backed
  have named : loop.device = device := by simpa using List.find?_some found
  refine Host.formatted_iff.mpr ⟨loop, List.mem_of_find?_eq_some found, named, fun location same => ?_⟩
  cases file.symm.trans same
  exact ⟨_, _, (Host.stat_located data).2⟩

theorem fine_format (unbound : volume.filesystem ≠ .bind) {path : Path} {length : Nat} {before : Option String}
    (held : host.stat path = .ok (.file length before))
    (large : host.least (filesystemName volume.filesystem) ≤ length) :
    Fine request (format volume.filesystem path)
      (fun _ now => now = ⟨store, (host.mkfs (filesystemName volume.filesystem) path).2⟩) ⟨store, host⟩ := by
  have formatted := (Host.mkfs_stat held large).1
  cases same : volume.filesystem with
  | bind => exact absurd same unbound
  | ext4 =>
    rw [same] at formatted
    exact succeeds_bind.mpr (fine_host (host.mkfs "ext4" path) formatted (succeeds_pure.mpr rfl))
  | xfs =>
    rw [same] at formatted
    exact succeeds_bind.mpr (fine_host (host.mkfs "xfs" path) formatted (succeeds_pure.mpr rfl))

/-- The file of a volume is made, with nothing else at its location. -/
theorem fine_makeVolume (unbound : volume.filesystem ≠ .bind) (makeable : Makeable config volume host) :
    Fine request (makeVolume (publishPath config volume) volume.size volume.filesystem)
      (fun _ now => now.store = store ∧ Host.Lays (host.resolve (publishPath config volume)) host now.host ∧
        now.host.stat (publishPath config volume) = .ok (contents volume)) ⟨store, host⟩ := by
  have free := makeable.free
  refine succeeds_bind.mpr (fine_host (host.tryExists (publishPath config volume), host) free.missing ?_)
  refine succeeds_bind.mpr (succeeds_reject.mpr ⟨Bool.false_ne_true, ?_⟩)
  rw [if_neg unbound]
  obtain ⟨above, parent, made, vacant⟩ := free.parent makeable.absolute makeable.plain
  have housed := Host.createDirAll_lays (host.resolve (publishPath config volume)) host above
  have same {now : Host} (lays : Host.Lays (host.resolve (publishPath config volume)) host now) :
      now.resolve (publishPath config volume) = host.resolve (publishPath config volume) := lays.resolve _
  -- the directory above, the empty file, its size, its filesystem
  refine succeeds_bind.mpr ?_
  rw [createParent, parent]
  refine fine_host (host.createDirAll above) made ?_
  generalize (host.createDirAll above).2 = first at housed vacant ⊢
  obtain ⟨created, empty⟩ := Host.createFile_vacant vacant
  have filed : Host.Lays (host.resolve (publishPath config volume)) host
      (first.createFile (publishPath config volume)).2 :=
    housed.trans (same housed ▸ Host.createFile_lays first _)
  refine succeeds_bind.mpr (fine_host (first.createFile (publishPath config volume)) created ?_)
  generalize (first.createFile (publishPath config volume)).2 = second at filed empty ⊢
  obtain ⟨truncated, sized⟩ := Host.ftruncate_stat empty makeable.positive
  have lengthened : Host.Lays (host.resolve (publishPath config volume)) host
      (second.ftruncate (publishPath config volume) volume.size.toInt64).2 :=
    filed.trans (same filed ▸ Host.ftruncate_lays second _ _)
  refine succeeds_bind.mpr
    (fine_host (second.ftruncate (publishPath config volume) volume.size.toInt64) truncated ?_)
  generalize (second.ftruncate (publishPath config volume) volume.size.toInt64).2 = third at lengthened sized ⊢
  rw [toInt64_length makeable.positive] at sized
  have large : third.least (filesystemName volume.filesystem) ≤ volume.size.toNat :=
    lengthened.least ▸ makeable.large
  refine (fine_format unbound sized large).weaken fun _ now done => ?_
  subst done
  exact ⟨rfl, lengthened.trans (same lengthened ▸ Host.mkfs_lays third _ _), (Host.mkfs_stat sized large).2⟩

/-! ### Mounting it -/

theorem fine_mountDevice (readonly : Bool) {device : Path} (fits : trim target = target)
    (formatted : host.formatted (trim device)) (directory : host.stat target = .ok .directory)
    (visible : Visible host target) :
    Fine request (runInChroot (mountCommand false readonly device target)) (fun _ now => now = ⟨store, { host with
      mounts := ⟨request.volumeId, trim device, host.behind (trim device), target, readonly⟩ :: host.mounts }⟩)
      ⟨store, host⟩ := by
  have performed : host.command request.volumeId
      (("chroot" :: "/chr" :: mountCommand false readonly device target).map trim) =
        host.mountDevice request.volumeId readonly (trim device) (trim target) := by
    rw [trim_chroot, trim_mountCommand]
    exact command_mountDevice host request.volumeId readonly (trim device) (trim target)
  have mounted : host.mountDevice request.volumeId readonly (trim device) target = (.ok "", _) :=
    if_pos ⟨formatted, directory, by simp [visible.top]⟩
  rw [fits, mounted] at performed
  exact fine_host _ (congrArg Prod.fst performed) (by rw [performed])

/-- The device of the volume, attached now if there was none. -/
theorem fine_loopFor (stocked : Stocked config volume host)
    (spelled : trim (publishPath config volume) = publishPath config volume) :
    Fine request (loopFor volume.loopDevice (publishPath config volume))
      (fun device now => now.store = store ∧ (∀ known ∈ volume.loopDevice, device = known) ∧
        now.host.files = host.files ∧ now.host.mounts = host.mounts ∧ now.host.cwd = host.cwd ∧
          Backed config volume now.host (trim device)) ⟨store, host⟩ := by
  unfold loopFor
  split
  · rename_i device looped
    have known : ∀ known ∈ some device, device = known := fun known same => Option.some.inj same
    rw [looped]
    exact succeeds_pure.mpr ⟨rfl, known, rfl, rfl, rfl, stocked.device device looped⟩
  · rename_i unlooped
    have attached := Host.losetup_unattached stocked.data (stocked.unattached unlooped)
    have performed : host.command request.volumeId
        (("chroot" :: "/chr" :: ["losetup", "--show", "-L", "-f", publishPath config volume]).map trim) =
          host.losetup (trim (publishPath config volume)) := rfl
    rw [spelled, attached] at performed
    have trimmed : trim (host.freeLoop ++ "\n") = host.freeLoop := trim_newline (Host.trim_freeLoop host)
    refine fine_host _ (congrArg Prod.fst performed) ?_
    rw [performed, unlooped]
    refine ⟨rfl, nofun, rfl, rfl, rfl, ?_⟩
    rw [Backed, trimmed]
    simp [Host.behind, Host.resolve]

/-- What mounting the volume with the device at the target comes to. -/
structure Attached (config : Config) (volume : Volume) (owner : String) (readonly : Bool) (device target : Path)
    (host after : Host) : Prop where
  known : ∀ known ∈ volume.loopDevice, device = known
  stocked : Stocked config (mountedAt volume (some device) target) after
  mounts : after.mounts =
    ⟨owner, trim device, some (host.resolve (publishPath config volume)), target, readonly⟩ :: host.mounts
  cwd : after.cwd = host.cwd

namespace Attached
variable {owner : String} {readonly : Bool} {device : Path}

theorem retains (attached : Attached config volume owner readonly device target host after) : host.Retains after :=
  ⟨attached.cwd, attached.mounts ▸ List.subset_cons_self _ _⟩

theorem mount (attached : Attached config volume owner readonly device target host after) :
    ⟨owner, trim device, some (after.resolve (publishPath config volume)), target, readonly⟩ ∈ after.mounts := by
  rw [attached.retains.resolve, attached.mounts]
  exact List.mem_cons_self

end Attached

theorem mountedAt_loopDevice {device : Path} (known : ∀ known ∈ volume.loopDevice, device = known) (target : Path) :
    (mountedAt volume (some device) target).loopDevice = some device := by
  cases looped : volume.loopDevice with
  | none => simp [mountedAt, looped]
  | some other => simp [mountedAt, looped, known other looped]

/-- The data is attached, if it has to be, and mounted at the target. -/
theorem fine_mountVolume (unbound : volume.filesystem ≠ .bind) (stocked : Stocked config volume host)
    (readonly : Bool) (spelled : trim (publishPath config volume) = publishPath config volume)
    (fits : trim target = target) (directory : host.stat target = .ok .directory)
    (visible : Visible host target) :
    Fine request (mountVolume volume.loopDevice (publishPath config volume) target readonly volume.filesystem)
      (fun mounted now => now.store = store ∧ now.host.files = host.files ∧ ∃ device, mounted = some device ∧
        Attached config volume request.volumeId readonly device target host now.host) ⟨store, host⟩ := by
  rw [mountVolume, if_neg unbound]
  refine succeeds_bind.mpr ((fine_loopFor stocked spelled).weaken fun device now attached => ?_)
  obtain ⟨store', host'⟩ := now
  obtain ⟨rfl, known, files, mounts, cwd, backed⟩ := attached
  have kept (path : Path) : host'.stat path = host.stat path := Host.stat_files files cwd path
  have data := (kept _).trans stocked.data
  have there := (kept target).trans directory
  have resolved (path : Path) : host'.resolve path = host.resolve path := by rw [Host.resolve, cwd, Host.resolve]
  have clear : Visible host' target := by
    intro mount member
    rw [mounts] at member
    rw [resolved, cwd]
    exact visible mount member
  refine succeeds_bind.mpr ((fine_mountDevice readonly fits (backed.formatted data) there clear).weaken
    fun _ now done => ?_)
  subst done
  have looped := mountedAt_loopDevice known target
  refine succeeds_pure.mpr ⟨rfl, files, device, rfl, known, ⟨data, fun other same => ?_, fun none => ?_⟩, ?_, cwd⟩
  · cases looped.symm.trans same
    exact backed
  · cases looped.symm.trans none
  · rw [backed, resolved, mounts]

/-! ### NodePublishVolume -/

/-- The data of the volume can be made, or lies on this node already. -/
def Available (config : Config) (volume : Volume) (host : Host) : Prop :=
  volume.loopDevice = none ∧ Makeable config volume host ∨
    volume.assignedNodeId = some config.node ∧ Stocked config volume host

/-- Making the target is not in the way. -/
theorem Available.createDirAll (available : Available config volume host)
    (apart : host.resolve (publishPath config volume) ∉ trail host.cwd target) :
    Available config volume (host.createDirAll target).2 := by
  have loops := Host.createDirAll_loops host target
  have resolved : (host.createDirAll target).2.resolve (publishPath config volume) =
      host.resolve (publishPath config volume) := (Host.createDirAll_grows host target).resolve _
  rcases available with ⟨unlooped, makeable⟩ | ⟨pinned, stocked⟩
  · have lays := Host.createDirAll_lays (host.resolve (publishPath config volume)) host target
    refine Or.inl ⟨unlooped, { makeable with
      large := lays.least ▸ makeable.large
      free := makeable.free.createDirAll apart
      visible := fun mount member => ?_
      unattached := ?_ }⟩
    · rw [lays.mounts] at member
      rw [lays.resolve, lays.cwd]
      exact makeable.visible mount member
    · rw [loops, resolved]
      exact makeable.unattached
  · refine Or.inr ⟨pinned, Host.stat_createDirAll stocked.data target, fun device looped => ?_, ?_⟩
    · exact (stocked.device device looped).laid (Host.createDirAll_lays [] host target)
    · rw [loops, resolved]
      exact stocked.unattached

theorem fine_update {written : Volume} (present : written.key ∈ store) :
    Fine request written.update (fun _ now => now = ⟨store.insert written.key written, host⟩) ⟨store, host⟩ :=
  fine_issue (if_pos present) rfl

theorem fine_ensureBacking (unbound : volume.filesystem ≠ .bind) (available : Available config volume host)
    (present : volume.key ∈ store) :
    Fine request (ensureBacking config volume) (fun backed now => backed = pinnedTo volume config.node ∧
      Stocked config backed now.host ∧ Host.Lays (host.resolve (publishPath config volume)) host now.host ∧
        (now.store = store ∨ now.store = store.insert volume.key backed)) ⟨store, host⟩ := by
  have probed {answer : Bool} (found : host.tryExists (publishPath config volume) = .ok answer)
      {post : Bool → World → Prop} (ends : post answer ⟨store, host⟩) :
      Fine request (issue (.tryExists (publishPath config volume))) post ⟨store, host⟩ :=
    fine_host (host.tryExists (publishPath config volume), host) found ends
  rcases available with ⟨unlooped, makeable⟩ | ⟨pinned, stocked⟩
  · refine succeeds_bind.mpr (succeeds_mapErr.mpr (probed makeable.free.missing ?_))
    refine succeeds_bind.mpr (succeeds_mapErr.mpr ((fine_makeVolume unbound makeable).weaken fun _ now made => ?_))
    obtain ⟨store', host'⟩ := now
    obtain ⟨rfl, lays, data⟩ := made
    have saving : Fine request (pinnedTo volume config.node).update _ ⟨store', host'⟩ := fine_update present
    refine succeeds_bind.mpr (succeeds_mapErr.mpr (saving.weaken fun _ now done => ?_))
    subst done
    refine succeeds_pure.mpr ⟨rfl, ⟨data, fun device looped => ?_, fun _ => ?_⟩, lays, Or.inr rfl⟩
    · cases unlooped.symm.trans looped
    · show ∀ loop ∈ host'.loops, loop.backing ≠ some (host'.resolve (publishPath config volume))
      rw [lays.resolve, lays.loops]
      exact makeable.unattached
  · have found : host.tryExists (publishPath config volume) = .ok true := by rw [Host.tryExists, stocked.data]
    have same : pinnedTo volume config.node = volume := by rw [pinnedTo, ← pinned]
    refine succeeds_bind.mpr (succeeds_mapErr.mpr (probed found ?_))
    rw [if_pos rfl]
    exact succeeds_pure.mpr ⟨same.symm, stocked, .refl _ _, Or.inl rfl⟩

theorem fine_admitPublish {requested : VolumeConfig} {filesystem : Option Filesystem}
    (admitted : Admitted config r volume) (asking : asked r.volumeCapability = some (requested, filesystem))
    {post : Unit → World → Prop}
    (ends : post () world) : Fine request (admitPublish volume requested r.targetPath) post world := by
  obtain ⟨_, _, same, -, -, agrees⟩ := admitted.granted
  cases asking.symm.trans same
  unfold admitPublish
  rcases admitted.mountable with state | ⟨state, multi⟩
  · rw [state]
    exact succeeds_pure.mpr ends
  · rw [state]
    dsimp only
    split
    · rename_i known published
      refine succeeds_bind.mpr (succeeds_reject.mpr ⟨fun single => single.1 (multi known published), ?_⟩)
      exact succeeds_reject.mpr ⟨not_not.mpr (agrees state known published), ends⟩
    · exact succeeds_pure.mpr ends

/-- What the record says of a volume that is mounted on this node at one more target. -/
abbrev mountedHere (config : Config) (volume : Volume) (device target : Path) : Volume :=
  mountedAt (pinnedTo volume config.node) (some device) target

/-- A publish that passes its checks returns Ok when nothing is in its way. -/
theorem fine_nodePublishVolume (unbound : volume.filesystem ≠ .bind) (named : r.volumeId ≠ "")
    (filled : r.targetPath ≠ "") (held : store.lookup (volumeKey r.volumeId) = some volume)
    (key : volume.key = volumeKey r.volumeId) (admitted : Admitted config r volume)
    (available : Available config volume host)
    (spelled : trim (publishPath config volume) = publishPath config volume)
    (fits : trim r.targetPath = r.targetPath)
    (clear : host.Clear r.targetPath) (apart : host.resolve (publishPath config volume) ∉ trail host.cwd r.targetPath)
    (visible : Visible host r.targetPath) :
    Fine request (nodePublishVolume config r) (fun _ now => ∃ device,
      Attached config (pinnedTo volume config.node) request.volumeId (r.readonly || volume.publishedReadonly) device
        r.targetPath host now.host ∧
      now.store = store.insert volume.key (mountedHere config volume device r.targetPath) ∧
        Host.Builds (host.resolve (publishPath config volume)) host now.host) ⟨store, host⟩ := by
  obtain ⟨requested, filesystem, asking, valid, compatible, -⟩ := admitted.granted
  obtain ⟨capability, given, accepted⟩ := asked_ok asking
  have present : volume.key ∈ store := AList.lookup_isSome.mp (by rw [key, held]; rfl)
  refine succeeds_bind.mpr (succeeds_reject.mpr ⟨named, ?_⟩)
  refine succeeds_bind.mpr (succeeds_reject.mpr ⟨filled, ?_⟩)
  refine succeeds_bind.mpr (succeeds_ofOption.mpr ⟨capability, given, ?_⟩)
  refine succeeds_bind.mpr (succeeds_ofExcept.mpr ⟨_, accepted, ?_⟩)
  refine succeeds_bind.mpr (succeeds_bind.mpr (succeeds_mapErr.mpr (fine_issue rfl ?_)))
  refine succeeds_ofOption.mpr ⟨volume, held, ?_⟩
  refine succeeds_bind.mpr (succeeds_reject.mpr ⟨?_, ?_⟩)
  · rintro (invalid | other)
    · exact invalid valid
    · exact compatible other
  rw [admitted.unlocked]
  refine succeeds_bind.mpr (succeeds_pure.mpr (succeeds_bind.mpr (fine_admitPublish admitted asking ?_)))
  rw [if_neg admitted.fresh]
  -- the directory of the target, the data, the mount, the record
  obtain ⟨made, directory⟩ := Host.createDirAll_clear filled clear
  have opened := Host.createDirAll_lays (host.resolve (publishPath config volume)) host r.targetPath
  have ready := available.createDirAll apart
  refine succeeds_bind.mpr (succeeds_mapErr.mpr (fine_host (host.createDirAll r.targetPath) made ?_))
  generalize (host.createDirAll r.targetPath).2 = first at opened directory ready ⊢
  have resolved := opened.resolve (publishPath config volume)
  refine succeeds_bind.mpr ((fine_ensureBacking unbound ready present).weaken fun backed now ensured => ?_)
  obtain ⟨store', second⟩ := now
  obtain ⟨rfl, stocked, laid, saved⟩ := ensured
  have there : second.stat r.targetPath = .ok .directory := by
    refine laid.stat_directory ?_ directory
    rw [resolved, opened.cwd]
    exact apart
  rw [resolved] at laid
  have before := opened.trans laid
  have imaged : (pinnedTo volume config.node).filesystem ≠ .bind := unbound
  have unhidden : Visible second r.targetPath := by
    intro mount member
    rw [before.mounts] at member
    rw [before.resolve, before.cwd]
    exact visible mount member
  refine succeeds_bind.mpr (succeeds_mapErr.mpr ((fine_mountVolume imaged stocked _ spelled fits there unhidden).weaken
    fun mounted now done => ?_))
  obtain ⟨later, third⟩ := now
  obtain ⟨rfl, files, device, rfl, attached⟩ := done
  have listed : (mountedHere config volume device r.targetPath).key ∈ later := by
    rcases saved with rfl | rfl
    · exact present
    · exact (AList.mem_insert _).mpr (Or.inl rfl)
  have saving : Fine request (mountedHere config volume device r.targetPath).update _ ⟨later, third⟩ :=
    fine_update listed
  refine succeeds_mapErr.mpr (saving.weaken fun _ now done => ?_)
  subst done
  have mounts := attached.mounts
  rw [before.resolve, before.mounts] at mounts
  refine ⟨device, { attached with mounts := mounts, cwd := attached.cwd.trans before.cwd }, ?_, ?_⟩
  · rcases saved with rfl | rfl
    · rfl
    · exact AList.insert_insert store
  · refine ⟨attached.cwd.trans before.cwd, fun other different => ?_⟩
    have node : third.node other = second.node other := by rw [Host.node, Host.node, files]
    rw [node]
    exact before.elsewhere other different

/-! ### The record before it is mounted -/

theorem fine_createVolume {r : CreateVolumeRequest} (built : newVolume r = .ok volume)
    (unused : store.lookup volume.key = none) :
    Fine request (createVolume r) (fun _ now => now = ⟨store.insert volume.key volume, host⟩) ⟨store, host⟩ := by
  have absent : volume.key ∉ store := fun present => by
    obtain ⟨other, held⟩ := Option.isSome_iff_exists.mp (AList.lookup_isSome.mpr present)
    cases unused.symm.trans held
  have created : Fine request volume.create
      (fun creation now => creation = .success ∧ now = ⟨store.insert volume.key volume, host⟩) ⟨store, host⟩ := by
    refine succeeds_bind.mpr (fine_issue rfl ?_)
    rw [if_neg (by rw [unused]; exact Bool.false_ne_true)]
    exact succeeds_bind.mpr (fine_issue (if_neg absent) (succeeds_pure.mpr ⟨rfl, rfl⟩))
  refine succeeds_bind.mpr (succeeds_ofExcept.mpr ⟨volume, built, ?_⟩)
  refine succeeds_bind.mpr (succeeds_mapErr.mpr (created.weaken fun creation now done => ?_))
  obtain ⟨rfl, rfl⟩ := done
  exact succeeds_pure.mpr rfl

/-- The record of an open volume that is published. -/
def grantedTo (volume : Volume) (requested : VolumeConfig) (readonly : Bool) : Volume :=
  { volume with publishedConfig := some requested, state := .controllerPublished, publishedReadonly := readonly }

theorem fine_controllerPublishVolume {r : ControllerPublishVolumeRequest} {requested : VolumeConfig}
    {filesystem : Option Filesystem} (named : r.volumeId ≠ "") (node : r.nodeId ≠ "")
    (held : store.lookup (volumeKey r.volumeId) = some volume) (key : volume.key = volumeKey r.volumeId)
    (unlocked : lockedElsewhere volume r.nodeId = none)
    (asking : asked r.volumeCapability = some (requested, filesystem))
    (state : volume.state = .«open») (valid : requested ∈ volume.validConfigs) :
    Fine request (controllerPublishVolume r)
      (fun _ now => now = ⟨store.insert volume.key (grantedTo volume requested r.readonly), host⟩) ⟨store, host⟩ := by
  obtain ⟨capability, given, accepted⟩ := asked_ok asking
  have present : volume.key ∈ store := AList.lookup_isSome.mp (by rw [key, held]; rfl)
  refine succeeds_bind.mpr (succeeds_reject.mpr ⟨named, ?_⟩)
  refine succeeds_bind.mpr (succeeds_reject.mpr ⟨node, ?_⟩)
  refine succeeds_bind.mpr (succeeds_reject.mpr ⟨by simp [given], ?_⟩)
  refine succeeds_bind.mpr (succeeds_bind.mpr (succeeds_mapErr.mpr (fine_issue rfl ?_)))
  refine succeeds_ofOption.mpr ⟨volume, held, ?_⟩
  rw [unlocked]
  refine succeeds_bind.mpr (succeeds_pure.mpr (succeeds_bind.mpr (succeeds_ofOption.mpr ⟨capability, given, ?_⟩)))
  refine succeeds_bind.mpr (succeeds_ofExcept.mpr ⟨_, accepted, ?_⟩)
  dsimp only
  rw [state]
  refine succeeds_bind.mpr (succeeds_reject.mpr ⟨not_not.mpr valid, ?_⟩)
  have saving : Fine request (grantedTo volume requested r.readonly).update _ ⟨store, host⟩ := fine_update present
  exact succeeds_mapErr.mpr saving

/-! ### Target after target -/

theorem serve_fine (config : Config) {program : Action Status α} {reply : α → Reply} {post : α → World → Prop}
    (same : handle config request = (do return reply (← program))) (fine : Fine request program post world) :
    ∃ value, (serve config request healthy world).1 = .ok (reply value) ∧
      post value (serve config request healthy world).2 := by
  have whole : Fine request (handle config request) (fun replied now => ∃ value, replied = reply value ∧
      post value now)
      world := by
    rw [same]
    exact succeeds_bind.mpr (fine.weaken fun value _ ends => succeeds_pure.mpr ⟨value, rfl, ends⟩)
  obtain ⟨_, _, ran, value, rfl, ends⟩ := whole
  refine ⟨value, ?_⟩
  rw [serve]
  erw [ran]
  exact ⟨rfl, ends⟩

/-- The volume is mounted on this node with the device, the way it was asked for. -/
structure InUse (config : Config) (requested : VolumeConfig) (readonly : Bool) (device : Path)
    (volume : Volume) : Prop where
  pinned : volume.assignedNodeId = some config.node
  state : volume.state = .nodePublished
  published : volume.publishedConfig = some requested
  readonly : volume.publishedReadonly = readonly
  looped : volume.loopDevice = some device

/-- Neither path leads over the other. -/
def Beside (cwd : Location) (p q : Path) : Prop := resolve cwd p ∉ trail cwd q ∧ resolve cwd q ∉ trail cwd p

instance (cwd : Location) (p q : Path) : Decidable (Beside cwd p q) := inferInstanceAs (Decidable (_ ∧ _))

theorem Beside.differ {p q : Path} (beside : Beside host.cwd p q) : ¬same p q := fun equal =>
  beside.1 (Host.mem_trail.mpr (Or.inr (resolve_same equal host.cwd)))

/-- A target where a mount can be made, and not over the data. -/
structure Usable (host : Host) (data target : Path) : Prop where
  filled : target ≠ ""
  fits : trim target = target
  clear : host.Clear target
  visible : Visible host target
  beside : Beside host.cwd data target

/-- It is still usable once the volume is mounted at another one. -/
theorem Usable.mounted {data : Path} {mount : Mount} (usable : Usable host data target)
    (builds : Host.Builds (host.resolve data) host after) (mounts : after.mounts = mount :: host.mounts)
    (apart : Beside host.cwd mount.target target) : Usable after data target where
  filled := usable.filled
  fits := usable.fits
  clear := builds.clear usable.beside.1 usable.clear
  visible other member := by
    rw [builds.resolve, builds.cwd]
    rw [mounts] at member
    rcases List.mem_cons.mp member with rfl | old
    · exact apart.1
    · exact usable.visible other old
  beside := by
    rw [builds.cwd]
    exact usable.beside

section Targets
variable {name : String} {capability : VolumeCapability} {requested : VolumeConfig} {filesystem : Option Filesystem}
  {readonly : Bool} {device : Path} {paths : List Path}

theorem InUse.mountedHere (use : InUse config requested readonly device volume) (target : Path) :
    Lvp.mountedHere config volume device target = { volume with mountPaths := volume.mountPaths ++ [target] } := by
  obtain ⟨pinned, state, -, -, looped⟩ := use
  have whole : Lvp.mountedHere config volume device target = { volume with
      assignedNodeId := some config.node
      loopDevice := if volume.loopDevice.isNone ∧ (some device).isSome then some device else volume.loopDevice
      mountPaths := volume.mountPaths ++ [target]
      state := .nodePublished } := rfl
  have kept : (if volume.loopDevice.isNone ∧ (some device).isSome then some device else volume.loopDevice) =
      volume.loopDevice := by simp [looped]
  rw [whole, kept, ← pinned, ← state]

def mounts (name : String) (capability : VolumeCapability) (readonly : Bool) (paths : List Path) : Run :=
  paths.map fun path => (.nodePublishVolume ⟨name, path, some capability, readonly⟩, healthy)

/-- The volume is mounted at these targets through the device. -/
structure MountedOn (config : Config) (volume : Volume) (readonly : Bool) (device : Path)
    (paths : List Path) (host : Host) : Prop where
  data : host.stat (publishPath config volume) = .ok (contents volume)
  backed : Backed config volume host (trim device)
  mounted : ∀ path ∈ paths,
    ⟨volume.name, trim device, some (host.resolve (publishPath config volume)), path, readonly⟩ ∈ host.mounts

/-- Ok without failures. -/
def Accepts (config : Config) (request : Request) (world : World) : Prop :=
  (serve config request healthy world).1 = .ok .done

/-- Further targets are mounted one after the other, when the mode of the volume admits several. -/
theorem mounted_further (unbound : volume.filesystem ≠ .bind) (named : name ≠ "") (own : volume.name = name)
    (held : world.store.lookup (volumeKey name) = some volume) (use : InUse config requested readonly device volume)
    (parsed : parseVolumeCapability capability = .ok (requested, filesystem))
    (valid : requested ∈ volume.validConfigs)
    (compatible : ¬OtherFilesystem filesystem volume) (multi : paths ≠ [] → requested.mode = .singleNodeMultiWriter)
    (spelled : trim (publishPath config volume) = publishPath config volume)
    (stocked : Stocked config volume world.host)
    (usable : ∀ path ∈ paths, Usable world.host (publishPath config volume) path)
    (fresh : ∀ path ∈ paths, ¬Contains volume.mountPaths path) (beside : paths.Pairwise (Beside world.host.cwd)) :
    Meets config (Accepts config) world (mounts name capability readonly paths) ∧
      let now := serveAll config world (mounts name capability readonly paths)
      now.store.lookup (volumeKey name) = some { volume with mountPaths := volume.mountPaths ++ paths } ∧
        MountedOn config volume readonly device paths now.host ∧ world.host.Retains now.host := by
  induction paths generalizing world volume with
  | nil =>
    refine ⟨trivial, ?_, ⟨stocked.data, stocked.device device use.looped, nofun⟩, .refl _⟩
    rw [List.append_nil]
    exact held
  | cons path rest ih =>
    have key : volume.key = volumeKey name := congrArg volumeKey own
    have mode := multi nofun
    obtain ⟨here, others⟩ := List.forall_mem_cons.mp usable
    obtain ⟨new, newer⟩ := List.forall_mem_cons.mp fresh
    obtain ⟨apart, later⟩ := List.pairwise_cons.mp beside
    have asking : asked (some capability) = some (requested, filesystem) := by
      rw [asked, Option.bind_some, parsed]
      rfl
    have admitted : Admitted config ⟨name, path, some capability, readonly⟩ volume := by
      refine ⟨⟨?_, requested, filesystem, asking, valid, compatible, fun _ known same => ?_⟩,
        Or.inr ⟨use.state, fun known same => ?_⟩, new⟩
      · simp [lockedElsewhere, use.pinned]
      · cases use.published.symm.trans same
        rfl
      · cases use.published.symm.trans same
        exact mode
    obtain ⟨store, host⟩ := world
    have fine : Fine (.nodePublishVolume ⟨name, path, some capability, readonly⟩) _ _ ⟨store, host⟩ :=
      fine_nodePublishVolume unbound named here.filled held key admitted (Or.inr ⟨use.pinned, stocked⟩)
        spelled here.fits
        here.clear here.beside.1 here.visible
    obtain ⟨-, returned, used, attached, written, builds⟩ := serve_fine config rfl fine
    obtain rfl := attached.known device use.looped
    have stocked' : Stocked config (mountedHere config volume used path) _ := attached.stocked
    rw [use.mountedHere] at written stocked'
    have stored : (serve config (.nodePublishVolume ⟨name, path, some capability, readonly⟩) healthy
        ⟨store, host⟩).2.store.lookup (volumeKey name) = some { volume with mountPaths :=
          volume.mountPaths ++ [path] } := by
      rw [written, key]
      exact AList.lookup_insert store
    have elsewhere : ∀ other ∈ rest, ¬Contains (volume.mountPaths ++ [path]) other := by
      rintro other member ⟨known, listed, equal⟩
      rcases List.mem_append.mp listed with earlier | last
      · exact newer other member ⟨known, earlier, equal⟩
      · rw [List.mem_singleton.mp last] at equal
        exact (apart other member).differ equal
    have still : InUse config requested readonly used { volume with mountPaths := volume.mountPaths ++ [path] } :=
      ⟨use.pinned, use.state, use.published, use.readonly, use.looped⟩
    have image : ({ volume with mountPaths := volume.mountPaths ++ [path] } : Volume).filesystem ≠ .bind := unbound
    have same : ({ volume with mountPaths := volume.mountPaths ++ [path] } : Volume).name = name := own
    have remaining := ih image same stored still valid compatible (fun _ => mode) spelled stocked'
      (fun other member => (others other member).mounted builds attached.mounts (apart other member)) elsewhere
      (attached.cwd ▸ later)
    obtain ⟨meets, record, ⟨data, backed, mounted⟩, retains⟩ := remaining
    rw [List.append_assoc] at record
    have mount := retains.mounts attached.mount
    rw [use.readonly, Bool.or_self, ← retains.resolve] at mount
    exact ⟨⟨returned, meets⟩, record,
      ⟨data, backed, List.forall_mem_cons.mpr ⟨own ▸ mount, mounted⟩⟩, attached.retains.trans retains⟩

/-! ### All of it -/

/-- Every capability of an accepted CreateVolume fits the volume. -/
theorem offered_compatible {r : CreateVolumeRequest} (built : newVolume r = .ok volume)
    (offered : capability ∈ r.volumeCapabilities)
    (parsed : parseVolumeCapability capability = .ok (requested, filesystem)) :
    requested ∈ volume.validConfigs ∧ ¬OtherFilesystem filesystem volume := by
  obtain ⟨-, -, -, -, -, agree, base, -, rfl⟩ := newVolume_read.mp built
  refine ⟨List.mem_filterMap.mpr ⟨capability, offered, by simp [parsed, Except.toOption]⟩, ?_⟩
  rintro ⟨other, named, differs⟩
  have given : other ∈ filesystemsGiven r.parameters r.volumeCapabilities := by
    refine List.mem_append_right _ (List.mem_filterMap.mpr ⟨capability, offered, ?_⟩)
    rw [parsed]
    exact named
  apply differs
  show other = (filesystemsGiven r.parameters r.volumeCapabilities).head?.getD default
  cases split : filesystemsGiven r.parameters r.volumeCapabilities with
  | nil =>
    rw [split] at given
    cases given
  | cons first rest =>
    rw [split] at agree given
    exact agree other given first List.mem_cons_self

/-- Creates a volume, publishes it and mounts it at these targets, in this order. -/
def provision (config : Config) (r : CreateVolumeRequest) (capability : VolumeCapability) (readonly : Bool)
    (paths : List Path) : Run :=
  (.createVolume r, healthy) ::
    (.controllerPublishVolume ⟨r.name, config.node, some capability, readonly⟩, healthy) ::
      mounts r.name capability readonly paths

/-- Ok without failures, whatever the reply. -/
def Answers (config : Config) (request : Request) (world : World) : Prop :=
  ∃ reply, (serve config request healthy world).1 = .ok reply

theorem Meets.imp {admits other : Request → World → Prop} {run : Run} (meets : Meets config admits world run)
    (imply : ∀ request world, admits request world → other request world) : Meets config other world run := by
  induction run generalizing world with
  | nil => trivial
  | cons step rest ih => exact ⟨imply _ _ meets.1, ih meets.2⟩

/-- The record of a volume that is mounted at these targets through the device. -/
def inService (config : Config) (volume : Volume) (requested : VolumeConfig) (readonly : Bool) (device : Path)
    (paths : List Path) : Volume :=
  { volume with
    assignedNodeId := some config.node
    state := .nodePublished
    publishedReadonly := readonly
    publishedConfig := some requested
    loopDevice := some device
    mountPaths := paths }

theorem mountedHere_granted (unmounted : volume.mountPaths = []) (unlooped : volume.loopDevice = none) :
    mountedHere config (grantedTo volume requested readonly) device target =
      inService config volume requested readonly device [target] := by
  cases volume
  simp_all [mountedAt, pinnedTo, grantedTo, inService]

/-- The first mount makes the data and attaches it. -/
theorem mounted_first (unbound : volume.filesystem ≠ .bind) (named : name ≠ "") (own : volume.name = name)
    (held : store.lookup (volumeKey name) = some (grantedTo volume requested readonly))
    (unassigned : volume.assignedNodeId = none) (unmounted : volume.mountPaths = [])
    (unlooped : volume.loopDevice = none)
    (parsed : parseVolumeCapability capability = .ok (requested, filesystem))
    (valid : requested ∈ volume.validConfigs)
    (compatible : ¬OtherFilesystem filesystem volume) (makeable : Makeable config volume host)
    (usable : Usable host (publishPath config volume) target) :
    let result := serve config (.nodePublishVolume ⟨name, target, some capability, readonly⟩) healthy ⟨store, host⟩
    result.1 = .ok .done ∧ ∃ device,
      result.2.store.lookup (volumeKey name) = some (inService config volume requested readonly device [target]) ∧
        Stocked config (inService config volume requested readonly device [target]) result.2.host ∧
          result.2.host.mounts =
              ⟨name, trim device, some (host.resolve (publishPath config volume)), target,
                readonly⟩ :: host.mounts ∧
            Host.Builds (host.resolve (publishPath config volume)) host result.2.host := by
  have key : (grantedTo volume requested readonly).key = volumeKey name := congrArg volumeKey own
  have admitted : Admitted config ⟨name, target, some capability, readonly⟩ (grantedTo volume requested readonly) := by
    refine ⟨⟨?_, requested, filesystem, ?_, valid, compatible, nofun⟩, Or.inl rfl, ?_⟩
    · rw [lockedElsewhere, show (grantedTo volume requested readonly).assignedNodeId = none from unassigned]
    · rw [asked, Option.bind_some, parsed]
      rfl
    · rintro ⟨other, listed, -⟩
      rw [show (grantedTo volume requested readonly).mountPaths = [] from unmounted] at listed
      cases listed
  have ready : Makeable config (grantedTo volume requested readonly) host :=
    ⟨makeable.absolute, makeable.trimmed, makeable.plain, makeable.positive, makeable.large, makeable.free,
      makeable.visible, makeable.unattached⟩
  have image : (grantedTo volume requested readonly).filesystem ≠ .bind := unbound
  have fine : Fine (.nodePublishVolume ⟨name, target, some capability, readonly⟩) _ _ ⟨store, host⟩ :=
    fine_nodePublishVolume image named usable.filled held key admitted (Or.inl ⟨unlooped, ready⟩) makeable.trimmed
      usable.fits usable.clear usable.beside.1 usable.visible
  obtain ⟨-, returned, device, attached, written, builds⟩ := serve_fine config rfl fine
  have record : mountedHere config (grantedTo volume requested readonly) device target = _ :=
    mountedHere_granted unmounted unlooped
  have stocked : Stocked config (mountedHere config (grantedTo volume requested readonly) device target) _ :=
    attached.stocked
  rw [record] at written stocked
  refine ⟨returned, device, ?_, stocked, ?_, builds⟩
  · rw [written, key]
    exact AList.lookup_insert store
  · have mounts := attached.mounts
    rw [show (grantedTo volume requested readonly).publishedReadonly = readonly from rfl, Bool.or_self] at mounts
    exact mounts

theorem provision_mounts {r : CreateVolumeRequest} (unbound : volume.filesystem ≠ .bind)
    (built : newVolume r = .ok volume) (unused : store.lookup volume.key = none)
    (makeable : Makeable config volume host)
    (offered : capability ∈ r.volumeCapabilities)
    (parsed : parseVolumeCapability capability = .ok (requested, filesystem))
    (node : config.node ≠ "") (readonly : Bool) {path : Path} {rest : List Path}
    (multi : rest ≠ [] → requested.mode = .singleNodeMultiWriter)
    (usable : ∀ other ∈ path :: rest, Usable host (publishPath config volume) other)
    (beside : (path :: rest).Pairwise (Beside host.cwd)) :
    Meets config (Answers config) ⟨store, host⟩ (provision config r capability readonly (path :: rest)) ∧ ∃ device,
      let now := serveAll config ⟨store, host⟩ (provision config r capability readonly (path :: rest))
      now.store.lookup volume.key = some (inService config volume requested readonly device (path :: rest)) ∧
        MountedOn config volume readonly device (path :: rest) now.host := by
  have own : volume.name = r.name := newVolume_name built
  have key : volume.key = volumeKey r.name := congrArg volumeKey own
  obtain ⟨valid, compatible⟩ := offered_compatible built offered parsed
  obtain ⟨base, known, configs, fresh, -, -, named⟩ := newVolume_ok built
  have unassigned : volume.assignedNodeId = none := by rw [fresh]; rfl
  have state : volume.state = .«open» := by rw [fresh]; rfl
  have unmounted : volume.mountPaths = [] := by rw [fresh]; rfl
  have unlooped : volume.loopDevice = none := by rw [fresh]; rfl
  obtain ⟨here, others⟩ := List.forall_mem_cons.mp usable
  obtain ⟨apart, later⟩ := List.pairwise_cons.mp beside
  have lookup (written : Volume) : (store.insert volume.key written).lookup (volumeKey r.name) = some written := by
    rw [← key]
    exact AList.lookup_insert store
  -- the record
  have creating : Fine (.createVolume r) _ _ ⟨store, host⟩ := fine_createVolume built unused
  obtain ⟨response, created, first⟩ := serve_fine config rfl creating
  -- the grant
  have unlocked : lockedElsewhere volume config.node = none := by rw [lockedElsewhere, unassigned]
  have asking : asked (some capability) = some (requested, filesystem) := by
    rw [asked, Option.bind_some, parsed]
    rfl
  have granting : Fine (.controllerPublishVolume ⟨r.name, config.node, some capability, readonly⟩)
      (controllerPublishVolume ⟨r.name, config.node, some capability, readonly⟩) _
        ⟨store.insert volume.key volume, host⟩ :=
    fine_controllerPublishVolume named node (lookup volume) key unlocked asking state valid
  obtain ⟨-, granted, second⟩ := serve_fine config rfl granting
  rw [AList.insert_insert] at second
  -- the mounts
  obtain ⟨mounted, device, written, stocked, table, builds⟩ := mounted_first unbound named own (lookup _) unassigned
    unmounted unlooped parsed valid compatible makeable here
  have use : InUse config requested readonly device (inService config volume requested readonly device [path]) :=
    ⟨rfl, rfl, rfl, rfl, rfl⟩
  have image : (inService config volume requested readonly device [path]).filesystem ≠ .bind := unbound
  have elsewhere : ∀ other ∈ rest, ¬Contains [path] other := by
    rintro other member ⟨known, listed, equal⟩
    rw [List.mem_singleton.mp listed] at equal
    exact (apart other member).differ equal
  obtain ⟨meets, record, there, retains⟩ := mounted_further image named own written use parsed valid compatible multi
    makeable.trimmed stocked (fun other member =>
      (others other member).mounted builds table (apart other member)) elsewhere
    (builds.cwd ▸ later)
  rw [provision, mounts, List.map_cons]
  simp only [serveAll_cons, Meets]
  rw [first, second]
  refine ⟨⟨⟨_, created⟩, ⟨_, granted⟩, ⟨_, mounted⟩, meets.imp fun _ _ accepts => ⟨_, accepts⟩⟩, device, ?_, ?_⟩
  · rw [← key] at record
    exact record
  · have mount : _ ∈ _ := retains.mounts (table ▸ List.mem_cons_self)
    rw [← builds.resolve, ← retains.resolve] at mount
    exact ⟨there.data, there.backed, List.forall_mem_cons.mpr ⟨own ▸ mount, there.mounted⟩⟩

theorem serveAll_elsewhere {regime : Regime} {run : Run} (agreed : Agreed regime world)
    (permitted : Permitted regime run)
    (about : ∀ step ∈ run, step.1.volumeId = name) : Elsewhere name world (serveAll config world run) := by
  induction run generalizing world with
  | nil => exact fun _ _ => ⟨rfl, rfl⟩
  | cons step rest ih =>
    obtain ⟨⟨admitted, tame⟩, later⟩ := List.forall_mem_cons.mp permitted
    obtain ⟨here, others⟩ := List.forall_mem_cons.mp about
    have first : Elsewhere _ world (serve config step.1 step.2 world).2 := serve_elsewhere agreed admitted tame
    rw [here] at first
    exact first.trans (ih (serve_agreed agreed admitted tame).1 later others)

end Targets

section Faithful
variable {name : String} {capability : VolumeCapability} {requested : VolumeConfig} {filesystem : Option Filesystem}
  {paths : List Path} {start : Host} {owner : Location → String}

theorem provision_permitted {r : CreateVolumeRequest} (readonly : Bool)
    (fits : ∀ path ∈ paths, (Regime.faithful start owner).Fits r.name path) :
    Permitted (.faithful start owner) (provision config r capability readonly paths) := by
  refine List.forall_mem_cons.mpr ⟨⟨⟨nofun, trivial⟩, fun _ _ => tame_none⟩, ?_⟩
  refine List.forall_mem_cons.mpr ⟨⟨⟨nofun, trivial⟩, fun _ _ => tame_none⟩,
    List.forall_mem_map.mpr fun path member => ?_⟩
  exact ⟨⟨nofun, fits path member⟩, fun _ _ => tame_none⟩

/-- The volume is in service at these targets and nowhere else, and nothing has happened to the others. -/
structure Provisioned (config : Config) (volume : Volume) (requested : VolumeConfig) (readonly : Bool)
    (device : Path) (paths : List Path) (world after : World) : Prop
    extends MountedOn config volume readonly device paths after.host where
  record : after.store.lookup volume.key = some (inService config volume requested readonly device paths)
  nowhere : ∀ target ∈ targets volume.name after.host, target ∈ paths
  others : Elsewhere volume.name world after

end Faithful

/-- What each filesystem needs at least. -/
def Sample.node : Host where
  least spelled := if spelled = "xfs" then 314572800 else 65536

/-- Another volume is in use when this one is asked for. -/
def Sample.earlier : Run :=
  [(create "a" "/pv2/" "ext4" 7, healthy), (publish "a" 7, healthy), (nodePublish "a" "/t" 7, healthy)]

def Sample.shared : Volume :=
  freshVolume (createRequest "b" "/pv2/" "xfs" 7) "/pv2/" .xfs [⟨.singleNodeMultiWriter⟩]

/-- The CO keeps one target for the first volume. -/
def Sample.divided (location : Location) : String := if location = ["t"] then "a" else "b"

theorem Sample.earlier_permitted : Permitted (.faithful node divided) earlier := by
  have normal : Normalised (trim "/t") := by decide
  have fits : (Regime.faithful node divided).Fits "a" "/t" := ⟨⟨by decide, normal⟩, fun _ => by decide⟩
  exact List.forall_mem_cons.mpr ⟨⟨⟨nofun, trivial⟩, fun _ _ => tame_none⟩, List.forall_mem_cons.mpr
    ⟨⟨⟨nofun, trivial⟩, fun _ _ => tame_none⟩, List.forall_mem_singleton.mpr ⟨⟨nofun, fits⟩, fun _ _ => tame_none⟩⟩⟩

theorem Sample.shared_makeable :
    Makeable Sample.config shared (serveAll Sample.config ⟨∅, node⟩ earlier).host where
  absolute := by decide +kernel
  trimmed := by decide +kernel
  plain := by decide +kernel
  positive := by decide +kernel
  large := by decide +kernel
  visible := by decide +kernel
  free := ⟨by decide +kernel, by decide +kernel, by decide +kernel, by decide +kernel⟩
  unattached := by decide +kernel

end Lvp
