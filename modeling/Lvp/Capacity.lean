import Lvp.Sequence
import Lvp.Unix.Growth
import Lvp.Word

/-!
Backing files only grow. NodeExpandVolume compares the size it is asked for with the recorded one, so a
file that is longer than its record says has to be kept out.
-/

namespace Lvp
open Unix Effect Csi

variable {config : Config} {request : Request} {world : World} {phase : Phase}
  {volume : Volume} {host after : Host} {size : UInt64}

/-! ### Files that are long enough -/

/-- The backing file of the volume is found and has at least that size. -/
def Covers (config : Config) (host : Host) (volume : Volume) (size : UInt64) : Prop :=
  ∃ length ∈ host.fileLength (publishPath config volume), size.toNat ≤ length

/-- The files of the ext4 and xfs volumes that are mounted have the recorded sizes. -/
def Covered (config : Config) (world : World) : Prop :=
  ∀ name volume, world.store.lookup (volumeKey name) = some volume → volume.state = .nodePublished →
    volume.filesystem ≠ .bind → Covers config world.host volume volume.size

/-- A file at the location of the volume is found there, and has the recorded size. -/
def Lodged (config : Config) (host : Host) (volume : Volume) : Prop :=
  ∀ _length ∈ host.lengthAt (host.resolve (publishPath config volume)), Covers config host volume volume.size

/-- losetup trims the path it is given. -/
def Trimmed (config : Config) (host : Host) (volume : Volume) : Prop :=
  host.resolve (trim (publishPath config volume)) = host.resolve (publishPath config volume)

/-- The file that would be lengthened is the backing file, and not longer than the size asked for. -/
def Grounded (config : Config) (host : Host) (volume : Volume) (target : UInt64) : Prop :=
  ∀ length ∈ host.fileLength (recordPath config volume),
    host.resolve (recordPath config volume) = host.resolve (publishPath config volume) ∧ length ≤ target.toNat

/-- The worlds in which a NodePublishVolume or a NodeExpandVolume may be served. -/
def Fits (config : Config) : Request → World → Prop
  | .nodePublishVolume r, world => ∀ volume ∈ world.store.lookup (volumeKey r.volumeId),
      volume.filesystem ≠ .bind → volume.state ≠ .nodePublished →
        Lodged config world.host volume ∧ Trimmed config world.host volume
  | .nodeExpandVolume r, world => ∀ volume ∈ world.store.lookup (volumeKey r.volumeId),
      volume.filesystem ≠ .bind → Expandable r volume →
        Grounded config world.host volume (requestedSize r.capacityRange)
  | _, _ => False

section Decide
variable (config : Config) (host : Host) (volume : Volume) (size : UInt64) (world : World)

instance : Decidable (Covers config host volume size) :=
  inferInstanceAs (Decidable (∃ length ∈ host.fileLength _, _))

instance : Decidable (Lodged config host volume) := inferInstanceAs (Decidable (∀ _length ∈ host.lengthAt _, _))

instance : Decidable (Trimmed config host volume) := inferInstanceAs (Decidable (_ = _))

instance : Decidable (Grounded config host volume size) :=
  inferInstanceAs (Decidable (∀ length ∈ host.fileLength _, _ = _ ∧ _))

instance (r : NodeExpandVolumeRequest) : Decidable (Expandable r volume) :=
  decidable_of_iff (volume.state = .nodePublished ∧ Contains volume.mountPaths r.volumePath ∧
    volume.size < requestedSize r.capacityRange)
    ⟨fun ⟨state, present, grows⟩ => ⟨state, present, grows⟩, fun ⟨state, present, grows⟩ => ⟨state, present, grows⟩⟩

instance : (request : Request) → DecidablePred (Fits config request)
  | .nodePublishVolume _, world => inferInstanceAs (Decidable (∀ volume ∈ world.store.lookup _, _ ≠ _ → _ ≠ _ → _ ∧ _))
  | .nodeExpandVolume r, world =>
    inferInstanceAs (Decidable (∀ volume ∈ world.store.lookup _, _ ≠ _ → Expandable r volume → _))
  | .createVolume _, _ | .deleteVolume _, _ | .controllerPublishVolume _, _ | .controllerUnpublishVolume _, _
  | .nodeUnpublishVolume _, _ => .isFalse id

end Decide

/-! ### The invariant -/

/-- What is known of the file while a volume is being mounted. -/
def Prepared (config : Config) (host : Host) (volume : Volume) : Stage → Prop
  | .loaded | .targeted | .backed => Lodged config host volume
  | .vacant | .clear | .housed => host.lengthAt (host.resolve (publishPath config volume)) = none
  | .created => 0 ∈ host.fileLength (publishPath config volume)
  | .saved => True
  | _ => Covers config host volume volume.size

/-- What is known of the file while a volume is being expanded. -/
def Expanding (config : Config) (host : Host) (volume : Volume) (target : UInt64) : Stage → Prop
  | .opened => host.resolve (recordPath config volume) = host.resolve (publishPath config volume) ∧
      ∀ length ∈ host.lengthAt (host.resolve (publishPath config volume)), length ≤ target.toNat
  | .lengthened | .refreshed | .grown => Covers config host volume target
  | _ => True

def Ready (config : Config) (request : Request) (phase : Phase) (world : World) : Prop :=
  match request, phase with
  | request, .start => Fits config request world
  | .nodePublishVolume _, .on volume stage => volume.filesystem ≠ .bind →
      (volume.state ≠ .nodePublished → Trimmed config world.host volume) ∧
        Prepared config world.host volume stage
  | .nodeExpandVolume r, .on volume stage => volume.filesystem ≠ .bind → Expandable r volume →
      (stage = .loaded → Grounded config world.host volume (requestedSize r.capacityRange)) ∧
        Expanding config world.host volume (requestedSize r.capacityRange) stage
  | .nodePublishVolume _, _ | .nodeExpandVolume _, _ => True
  | _, _ => False

structure Sized (config : Config) (request : Request) (phase : Phase) (world : World) : Prop where
  covered : Covered config world
  ready : Ready config request phase world

theorem Covers.grows (grows : host.Grows after) (covers : Covers config host volume size) :
    Covers config after volume size := by
  obtain ⟨length, held, enough⟩ := covers
  obtain ⟨longer, still, more⟩ := grows.fileLength held
  exact ⟨longer, still, enough.trans more⟩

theorem Covers.lodged (covers : Covers config host volume volume.size) : Lodged config host volume :=
  fun _ _ => covers

theorem Lodged.grows (grows : host.Grows after)
    (same : after.lengthAt (host.resolve (publishPath config volume)) =
      host.lengthAt (host.resolve (publishPath config volume)))
    (lodged : Lodged config host volume) : Lodged config after volume := by
  intro length held
  rw [grows.resolve, same] at held
  exact (lodged length held).grows grows

theorem Trimmed.grows (grows : host.Grows after) (trimmed : Trimmed config host volume) :
    Trimmed config after volume := by
  rw [Trimmed, grows.resolve, grows.resolve]
  exact trimmed

theorem exec_grows {call : Call} (fault : Fault)
    (grows : world.host.Grows (world.perform request.volumeId call).2.host) :
    world.host.Grows (execFor request fault world call).2.host := by
  cases fault with
  | none => exact grows
  | fails => exact .refl _
  | lost => exact grows

theorem command_grows (world : World) (owner : String) (argv : List String) :
    world.host.Grows (world.perform owner (.command argv)).2.host := world.host.command_grows owner argv

theorem toInt64_length {size : UInt64} (positive : ¬size.toInt64 < 0) : size.toInt64.toInt.toNat = size.toNat := by
  have nonneg : 0 ≤ size.toInt64.toInt := not_lt.mp fun negative => positive (Int64.lt_iff_toInt_lt.mpr negative)
  have same := Word.toInt64_exact.mpr (Word.toInt64_nonneg.mp nonneg)
  omega

/-- What every call of the two requests does to the files. -/
theorem Sized.grows {call : Call} {resume : call.Answer → Phase} (fault : Fault)
    (sized : Sized config request phase world) (issued : Issues config request phase call resume) :
    world.host.Grows (execFor request fault world call).2.host := by
  apply exec_grows fault
  cases issued with
  | load | reload => exact .refl _
  | write =>
    simp only [World.perform]
    split <;> exact .refl _
  | create | delete | removeDirectory | removeFile | removeTarget => exact sized.ready.elim
  | probe | check | openBacking => exact .refl _
  | target | makeDirectory | makeParent => exact Host.createDirAll_grows _ _
  | makeFile unbound housed =>
    obtain ⟨-, absent⟩ := sized.ready unbound
    rcases housed with rfl | ⟨rfl, -⟩ <;> exact Host.createFile_grows absent
  | size unbound =>
    obtain ⟨-, empty⟩ := sized.ready unbound
    refine Host.ftruncate_grows fun _ length held => ?_
    rw [Option.mem_unique held (Host.mem_fileLength.mp empty).2]
    exact Nat.zero_le _
  | lengthen expandable unbound =>
    obtain ⟨-, same, short⟩ := sized.ready unbound expandable
    refine Host.ftruncate_grows fun positive length held => ?_
    rw [same] at held
    rw [toInt64_length positive]
    exact short length held
  | mkfs | attach | mount | mountBind | umount | detach | refresh | grow => exact command_grows world _ _

theorem Ready.served (ready : Ready config request phase world) :
    (∃ r, request = .nodePublishVolume r) ∨ ∃ r, request = .nodeExpandVolume r := by
  cases request with
  | nodePublishVolume r => exact Or.inl ⟨r, rfl⟩
  | nodeExpandVolume r => exact Or.inr ⟨r, rfl⟩
  | _ => cases phase <;> exact ready.elim

theorem Ready.stopped {after : World} (ready : Ready config request phase world) :
    Ready config request .stopped after := by
  rcases ready.served with ⟨r, rfl⟩ | ⟨r, rfl⟩ <;> trivial

theorem Ready.through {α : Type} {next : α → Phase} {answer : Except Failure α} {after : World}
    (ready : Ready config request phase world)
    (ok : ∀ value, answer = .ok value → Ready config request (next value) after) :
    Ready config request (through next answer) after := by
  cases answer with
  | ok value => exact ok value rfl
  | error failure => exact ready.stopped

namespace Sized
variable {fault : Fault} {stage : Stage} {r : NodePublishVolumeRequest} {e : NodeExpandVolumeRequest}

theorem covers (sized : Sized config request (.on volume stage) world)
    (held : world.store.lookup (volumeKey request.volumeId) = some volume) (mounted : volume.state = .nodePublished)
    (unbound : volume.filesystem ≠ .bind) : Covers config world.host volume volume.size :=
  sized.covered _ _ held mounted unbound

/-- A call on the host: the recorded sizes stay covered. -/
theorem hostCall {call : Call} {next : call.Value → Phase} (sized : Sized config request phase world)
    (onHost : call.onStore = false) (issued : Issues config request phase call (through next))
    (ready : ∀ value, (world.perform request.volumeId call).1 = .ok value →
      Ready config request (next value) (world.perform request.volumeId call).2) :
    Onwards (Sized config) request world call (through next) fault where
  covered name volume held mounted unbound := by
    rw [exec_host onHost] at held
    exact (sized.covered name volume held mounted unbound).grows (sized.grows fault issued)
  ready := by
    refine sized.ready.through fun value answered => ?_
    have performed := exec_answered answered
    rw [performed] at answered ⊢
    exact ready value answered

theorem loaded {key : String} (sized : Sized config request .start world) (own : key = volumeKey request.volumeId) :
    Onwards (Sized config) request world (.getOpt key) (through found) fault := by
  unfold Onwards
  subst own
  have same : (execFor request fault world (.getOpt (volumeKey request.volumeId))).2 = world := by
    cases fault <;> rfl
  rw [same]
  refine ⟨sized.covered, sized.ready.through fun result answered => ?_⟩
  have held : world.store.lookup (volumeKey request.volumeId) = result := by
    have performed := exec_answered answered
    rw [performed] at answered
    exact Except.ok.inj answered
  obtain ⟨covered, fits⟩ := sized
  cases result with
  | none => rcases Ready.served fits with ⟨r, rfl⟩ | ⟨r, rfl⟩ <;> trivial
  | some volume =>
    rcases Ready.served fits with ⟨r, rfl⟩ | ⟨r, rfl⟩
    · intro unbound
      by_cases mounted : volume.state = .nodePublished
      · exact ⟨fun idle => absurd mounted idle, (covered _ _ held mounted unbound).lodged⟩
      · obtain ⟨lodged, trimmed⟩ := fits volume held unbound mounted
        exact ⟨fun _ => trimmed, lodged⟩
    · exact fun unbound expandable => ⟨fun _ => fits volume held unbound expandable, trivial⟩

/-- A write of the record: its size has to be covered when it says that the volume is mounted. -/
theorem written {next : Stage} {written : Volume} (sized : Sized config request (.on volume stage) world)
    (held : world.store.lookup (volumeKey request.volumeId) = some volume)
    (own : written.key = volumeKey request.volumeId)
    (enough : written.state = .nodePublished → written.filesystem ≠ .bind →
      Covers config world.host written written.size)
    (ready : ∀ store, Ready config request (.on written next) ⟨store, world.host⟩) :
    Onwards (Sized config) request world (.patch written.key written)
      (through fun _ => .on written next) fault := by
  unfold Onwards
  have recorded : Covered config ⟨world.store.insert (volumeKey request.volumeId) written, world.host⟩ := by
    intro name other lookup mounted unbound
    by_cases same : volumeKey name = volumeKey request.volumeId
    · rw [same, AList.lookup_insert] at lookup
      cases lookup
      exact enough mounted unbound
    · rw [AList.lookup_insert_ne same] at lookup
      exact sized.covered name other lookup mounted unbound
  rw [own, patch_present held]
  cases fault with
  | none => exact ⟨recorded, ready _⟩
  | fails => exact ⟨sized.covered, sized.ready.stopped⟩
  | lost => exact ⟨recorded, sized.ready.stopped⟩

theorem writes {stage next : Stage} {written : Volume} (ok : StoreOk WellFormed world.store)
    (sized : Sized config request (.on volume stage) world)
    (held : world.store.lookup (volumeKey request.volumeId) = some volume)
    (writes : Writes config request volume stage written next) :
    Onwards (Sized config) request world (.patch written.key written)
      (through fun _ => .on written next) fault := by
  have own := congrArg volumeKey (writes.rewrite.name.trans (ok.named held).1)
  cases writes with
  | publish | unpublish | unmount => exact sized.ready.elim
  | pin admitted =>
    refine sized.written held own (fun mounted unbound => sized.covers held mounted unbound) fun store unbound => ?_
    obtain ⟨trimmed, covers⟩ := sized.ready unbound
    exact ⟨trimmed, covers.lodged⟩
  | record admitted mounted =>
    refine sized.written held own (fun _ unbound => ?_) fun store unbound => ?_
    · exact (sized.ready unbound).2
    · exact ⟨fun idle => absurd rfl idle, trivial⟩
  | expand expandable settled =>
    refine sized.written held own (fun _ unbound => ?_) fun store unbound expandable => ?_
    · rcases settled with rfl | ⟨-, bound⟩
      · exact (sized.ready unbound expandable).2
      · exact absurd bound unbound
    · exact ⟨nofun, trivial⟩

/-! ### The calls of NodePublishVolume -/

theorem targeted (admitted : Admitted config r volume)
    (sized : Sized config (.nodePublishVolume r) (.on volume .loaded) world) :
    Onwards (Sized config) (.nodePublishVolume r) world
      (.createDirAll r.targetPath) (through fun _ => .on volume .targeted) fault := by
  refine sized.hostCall rfl (.target admitted) fun _ _ unbound => ?_
  obtain ⟨trimmed, lodged⟩ := sized.ready unbound
  have grows := world.host.createDirAll_grows r.targetPath
  exact ⟨fun idle => (trimmed idle).grows grows, lodged.grows grows (Host.createDirAll_lengthAt _ _ _)⟩

theorem probed (sized : Sized config (.nodePublishVolume r) (.on volume .targeted) world) :
    Onwards (Sized config) (.nodePublishVolume r) world
      (.tryExists (publishPath config volume))
      (through fun present => .on volume (if present then .backed else .vacant)) fault := by
  refine sized.hostCall rfl .probe fun present answered unbound => ?_
  obtain ⟨trimmed, lodged⟩ := sized.ready unbound
  cases present with
  | true => exact ⟨trimmed, lodged⟩
  | false =>
    have absent : world.host.tryExists (publishPath config volume) = .ok false := fromHost_ok.mp answered
    refine ⟨trimmed, Option.eq_none_iff_forall_not_mem.mpr fun length member => ?_⟩
    obtain ⟨longer, found, -⟩ := lodged length member
    rw [Host.tryExists_absent absent] at found
    cases found

theorem checked (sized : Sized config (.nodePublishVolume r) (.on volume .vacant) world) :
    Onwards (Sized config) (.nodePublishVolume r) world
      (.tryExists (publishPath config volume))
      (through fun present => if present then .stopped else .on volume .clear) fault := by
  refine sized.hostCall rfl .check fun present _ => ?_
  cases present with
  | true => exact sized.ready.stopped
  | false => exact sized.ready

theorem housed {above : Path} (unbound : volume.filesystem ≠ .bind)
    (parent : parent (publishPath config volume) = some above)
    (sized : Sized config (.nodePublishVolume r) (.on volume .clear) world) :
    Onwards (Sized config) (.nodePublishVolume r) world
      (.createDirAll above) (through fun _ => .on volume .housed) fault := by
  refine sized.hostCall rfl (.makeParent unbound parent) fun _ _ _ => ?_
  obtain ⟨trimmed, absent⟩ := sized.ready unbound
  have grows := world.host.createDirAll_grows above
  refine ⟨fun idle => (trimmed idle).grows grows, ?_⟩
  show (world.host.createDirAll above).2.lengthAt
    ((world.host.createDirAll above).2.resolve (publishPath config volume)) = none
  rw [grows.resolve, Host.createDirAll_lengthAt]
  exact absent

theorem created {stage : Stage} (unbound : volume.filesystem ≠ .bind)
    (housed : stage = .housed ∨ stage = .clear ∧ parent (publishPath config volume) = none)
    (sized : Sized config (.nodePublishVolume r) (.on volume stage) world) :
    Onwards (Sized config) (.nodePublishVolume r) world
      (.createFile (publishPath config volume)) (through fun _ => .on volume .created) fault := by
  have issued : Issues config (.nodePublishVolume r) _ _ _ := .makeFile unbound housed
  refine sized.hostCall rfl issued fun _ answered _ => ?_
  have grows := sized.grows .none issued
  exact ⟨fun idle => ((sized.ready unbound).1 idle).grows grows, Host.createFile_length (fromHost_ok.mp answered)⟩

theorem lengthened (unbound : volume.filesystem ≠ .bind)
    (sized : Sized config (.nodePublishVolume r) (.on volume .created) world) :
    Onwards (Sized config) (.nodePublishVolume r) world
      (.ftruncate (publishPath config volume) volume.size.toInt64) (through fun _ => .on volume .sized) fault := by
  have issued : Issues config (.nodePublishVolume r) _ _ _ := .size unbound
  refine sized.hostCall rfl issued fun _ answered _ => ?_
  obtain ⟨trimmed, empty⟩ := sized.ready unbound
  have grows := sized.grows .none issued
  obtain ⟨positive, found⟩ := Host.ftruncate_fileLength (fromHost_ok.mp answered) grows rfl empty
  exact ⟨fun idle => (trimmed idle).grows grows, _, found, (toInt64_length positive).ge⟩

/-- losetup has found a file. -/
theorem attached (ok : StoreOk WellFormed world.store) (unbound : volume.filesystem ≠ .bind)
    (unknown : volume.loopDevice = none) (held : world.store.lookup (volumeKey r.volumeId) = some volume)
    (sized : Sized config (.nodePublishVolume r) (.on volume .backed) world) :
    Onwards (Sized config) (.nodePublishVolume r) world
      (.command ["chroot", "/chr", "losetup", "--show", "-L", "-f", trim (publishPath config volume)])
      (through fun output => .on volume (.attached output)) fault := by
  have issued : Issues config (.nodePublishVolume r) _ _ _ := .attach unbound unknown
  refine sized.hostCall rfl issued fun output answered _ => ?_
  obtain ⟨trimmed, lodged⟩ := sized.ready unbound
  have idle : volume.state ≠ .nodePublished := fun mounted =>
    unbound (((ok.named held).2.node mounted).2.2.2.mp unknown)
  have grows := sized.grows .none issued
  have ran : (world.host.losetup (trim (publishPath config volume))).1 = .ok output := by
    simpa [World.perform, fromHost_ok, Host.command, Host.utility] using answered
  obtain ⟨length, found⟩ := Host.losetup_length ran
  have member := (Host.mem_fileLength.mp found).2
  rw [trimmed idle] at member
  exact ⟨fun idle => (trimmed idle).grows grows, (lodged length member).grows grows⟩

/-- A command that leaves a long enough file. -/
theorem steady {stage : Stage} {argv : List String} {next : String → Stage}
    (sized : Sized config (.nodePublishVolume r) (.on volume stage) world)
    (issued : Issues config (.nodePublishVolume r) (.on volume stage) (.command argv)
      (through fun output => .on volume (next output)))
    (covers : volume.filesystem ≠ .bind → Covers config world.host volume volume.size)
    (prepared : ∀ output host, Covers config host volume volume.size → Prepared config host volume (next output)) :
    Onwards (Sized config) (.nodePublishVolume r) world
      (.command argv) (through fun output => .on volume (next output)) fault := by
  refine sized.hostCall rfl issued fun output _ unbound => ?_
  have grows := sized.grows .none issued
  exact ⟨fun idle => ((sized.ready unbound).1 idle).grows grows, prepared output _ ((covers unbound).grows grows)⟩

/-! ### The calls of NodeExpandVolume -/

theorem opened (expandable : Expandable e volume) (unbound : volume.filesystem ≠ .bind)
    (sized : Sized config (.nodeExpandVolume e) (.on volume .loaded) world) :
    Onwards (Sized config) (.nodeExpandVolume e) world
      (.openWrite (recordPath config volume)) (through fun _ => .on volume .opened) fault := by
  refine sized.hostCall rfl (.openBacking expandable unbound) fun _ answered _ _ => ⟨nofun, ?_⟩
  obtain ⟨grounded, -⟩ := sized.ready unbound expandable
  obtain ⟨length, found⟩ := Host.openWrite_length (fromHost_ok.mp answered)
  obtain ⟨same, short⟩ := grounded rfl length found
  refine ⟨same, fun longer member => ?_⟩
  have there := (Host.mem_fileLength.mp found).2
  rw [same] at there
  exact Option.mem_unique member there ▸ short

theorem extended (expandable : Expandable e volume) (unbound : volume.filesystem ≠ .bind)
    (held : world.store.lookup (volumeKey e.volumeId) = some volume)
    (sized : Sized config (.nodeExpandVolume e) (.on volume .opened) world) :
    Onwards (Sized config) (.nodeExpandVolume e) world
      (.ftruncate (recordPath config volume) (requestedSize e.capacityRange).toInt64)
      (through fun _ => .on volume .lengthened) fault := by
  have issued : Issues config (.nodeExpandVolume e) _ _ _ := .lengthen expandable unbound
  refine sized.hostCall rfl issued fun _ answered _ _ => ⟨nofun, ?_⟩
  obtain ⟨-, same, -⟩ := sized.ready unbound expandable
  obtain ⟨length, found, -⟩ := sized.covers held expandable.state unbound
  obtain ⟨positive, after⟩ := Host.ftruncate_fileLength (fromHost_ok.mp answered) (sized.grows .none issued) same found
  exact ⟨_, after, (toInt64_length positive).ge⟩

theorem maintained {stage next : Stage} {argv : List String} (expandable : Expandable e volume)
    (sized : Sized config (.nodeExpandVolume e) (.on volume stage) world)
    (issued : Issues config (.nodeExpandVolume e) (.on volume stage) (.command argv) (through fun _ => .on volume next))
    (before : ∀ host, Expanding config host volume (requestedSize e.capacityRange) stage →
      Covers config host volume (requestedSize e.capacityRange))
    (after : ∀ host, Covers config host volume (requestedSize e.capacityRange) →
      (next = .loaded → Grounded config host volume (requestedSize e.capacityRange)) ∧
        Expanding config host volume (requestedSize e.capacityRange) next) :
    Onwards (Sized config) (.nodeExpandVolume e) world
      (.command argv) (through fun _ => .on volume next) fault := by
  refine sized.hostCall rfl issued fun _ _ unbound _ => after _ ?_
  exact (before _ (sized.ready unbound expandable).2).grows (sized.grows .none issued)

theorem step {call : Call} {resume : call.Answer → Phase} (ok : StoreOk WellFormed world.store)
    (holds : Holds request phase world) (sized : Sized config request phase world)
    (issued : Issues config request phase call resume) :
    Onwards (Sized config) request world call resume fault := by
  cases issued with
  | load => exact sized.loaded rfl
  | write writes => exact sized.writes ok holds writes
  | reload | create | removeDirectory | removeFile | delete | umount | detach | removeTarget =>
    exact sized.ready.elim
  | target admitted => exact sized.targeted admitted
  | probe => exact sized.probed
  | check => exact sized.checked
  | makeDirectory bound => exact sized.hostCall rfl (.makeDirectory bound) fun _ _ unbound => absurd bound unbound
  | makeParent unbound above => exact sized.housed unbound above
  | makeFile unbound housed => exact sized.created unbound housed
  | size unbound => exact sized.lengthened unbound
  | mkfs unbound => exact sized.steady (.mkfs unbound) (fun unbound => (sized.ready unbound).2) fun _ _ => id
  | attach unbound unknown => exact sized.attached ok unbound unknown holds
  | @mount r volume stage device admitted unbound ready =>
    refine sized.steady (.mount admitted unbound ready) (fun unbound => ?_) fun _ _ => id
    rcases ready with ⟨rfl, -⟩ | ⟨rfl, looped⟩
    · exact (sized.ready unbound).2
    · exact sized.covers holds ((ok.named holds).2.mounted_of_looped looped) unbound
  | mountBind admitted bound =>
    exact sized.steady (.mountBind admitted bound) (fun unbound => absurd bound unbound) fun _ _ => id
  | openBacking expandable unbound => exact sized.opened expandable unbound
  | lengthen expandable unbound => exact sized.extended expandable unbound holds
  | refresh expandable looped =>
    exact sized.maintained expandable (.refresh expandable looped) (fun _ => id) fun _ covers => ⟨nofun, covers⟩
  | grow expandable looped =>
    exact sized.maintained expandable (.grow expandable looped) (fun _ => id) fun _ covers => ⟨nofun, covers⟩

end Sized

/-! ### Runs -/

theorem sized_carries (config : Config) :
    Carries config (Fits config) (fun _ _ => True) (fun request phase _ => Sized config request phase)
      (fun _ => Covered config) where
  enter fits covered := ⟨covered, fits⟩
  step ok holds sized issued _ := sized.step ok holds issued
  leave _ sized := sized.covered

theorem Meets.before {admits : Request → World → Prop} {first rest : Run}
    (meets : Meets config admits world (first ++ rest)) : Meets config admits world first := by
  induction first generalizing world with
  | nil => trivial
  | cons step first ih =>
    obtain ⟨request, oracle⟩ := step
    exact ⟨meets.1, ih meets.2⟩

/-- No call of a run makes a file shorter, and the files of the mounted volumes have the recorded sizes
after every request, however the calls fail. -/
theorem files_only_grow (config : Config) {world : World} {run : Run} (ok : StoreOk WellFormed world.store)
    (covered : Covered config world) (fits : Meets config (Fits config) world run) :
    (∀ entry ∈ history config world run,
      entry.2.world.host.Grows (execFor entry.1 entry.2.fault entry.2.world entry.2.op).2.host) ∧
    ∀ first rest, run = first ++ rest → Covered config (serveAll config world first) := by
  have carries := sized_carries config
  refine ⟨fun entry member => ?_, ?_⟩
  · obtain ⟨before, after, split⟩ := List.append_of_mem member
    obtain ⟨-, -, visited⟩ := carries.serveAll ok covered fits fun _ _ _ _ => trivial
    obtain ⟨phase, resume, issued, -, -, sized⟩ := visited before entry after split
    exact sized.grows _ issued
  · rintro first rest rfl
    exact (carries.serveAll ok covered fits.before fun _ _ _ _ => trivial).2.1

namespace Sample

def nodeExpand (volumeId volumePath : String) (size : Int64) : Request :=
  .nodeExpandVolume ⟨volumeId, volumePath, some ⟨size, 0⟩⟩

/-- Published on the controller. -/
def published : World :=
  serveAll Sample.config ⟨∅, {}⟩ [(create "a" "/pv2/" "ext4" 7, healthy), (publish "a" 7, healthy)]

/-- The record is not updated after the expansion. -/
def expanding : Run := [(nodePublish "a" "/t" 7, healthy), (nodeExpand "a" "/t" 3000000000, failing 5)]

end Sample

theorem files_only_grow_sample :
    (∀ entry ∈ history Sample.config Sample.published Sample.expanding,
      entry.2.world.host.Grows (execFor entry.1 entry.2.fault entry.2.world entry.2.op).2.host) ∧
    ∀ first rest, Sample.expanding = first ++ rest →
      Covered Sample.config (serveAll Sample.config Sample.published first) := by
  have idle : ∀ stored ∈ Sample.published.store.entries, stored.2.state ≠ .nodePublished := by decide +kernel
  have fits : Meets Sample.config (Fits Sample.config) Sample.published Sample.expanding := by decide +kernel
  refine files_only_grow Sample.config (serveAll_ok wellFormed_invariant .empty _) ?_ fits
  intro name volume held mounted
  exact absurd mounted (idle ⟨_, volume⟩ (AList.mem_lookup_iff.mp held))

/-- An expansion fails after the file has grown, and a smaller one cuts the file down. -/
theorem expansion_shrinks :
    ∃ entry ∈ history Sample.config Sample.published
        [(Sample.nodePublish "a" "/t" 7, healthy), (Sample.nodeExpand "a" "/t" 3000000000, failing 3),
          (Sample.nodeExpand "a" "/t" 2000000000, healthy)],
      entry.2.world.host.fileLength "/host/pv2/a" = some 3000000000 ∧
      (execFor entry.1 entry.2.fault entry.2.world entry.2.op).2.host.fileLength "/host/pv2/a" =
        some 2000000000 := by
  decide +kernel

end Lvp
