import Lvp.Isolation
import Lvp.Outcome
import Lvp.Unix.Attachments

/-!
What keeps a loop device attached to the file of a volume: its record names the device, or a
NodeUnpublishVolume has failed to detach it and went on.
-/

namespace Lvp
open Unix Effect Csi

variable {config : Config} {request : Request} {world : World} {phase : Phase} {past : History}
  {name : String} {volume written : Volume} {loop : LoopDevice}

/-! ### Devices and what is said of them -/

def AttachedTo (config : Config) (host : Host) (volume : Volume) (loop : LoopDevice) : Prop :=
  loop ∈ host.loops ∧ loop.backing = some (host.resolve (publishPath config volume))

instance (config : Config) (host : Host) (volume : Volume) : DecidablePred (AttachedTo config host volume) :=
  fun _ => instDecidableAnd

/-- Commands get the recorded name trimmed. -/
def Names (volume : Volume) (loop : LoopDevice) : Prop := ∃ device ∈ volume.loopDevice, trim device = loop.device

def detachment (device : Path) : Call := .command ["chroot", "/chr", "losetup", "-d", device]

/-- A NodeUnpublishVolume of the volume has failed to detach the device, and nothing has detached it since. -/
def GivenUp (past : History) (name : String) (device : Path) : Prop :=
  ∃ before r event after, past = before ++ (.nodeUnpublishVolume r, event) :: after ∧ r.volumeId = name ∧
    event.op = detachment device ∧ ¬event.answer.isOk ∧
    ∀ later ∈ after, later.2.op = detachment device → ¬later.2.answer.isOk

/-! ### What may happen -/

/-- The call before has attached a device that was not there. -/
def JustAttached (past : History) (world : World) : Prop :=
  ∃ entry ∈ past.getLast?, entry.2.world.host.loops ≠ world.host.loops

structure Recorded (past : History) (entry : Request × CallEvent) : Prop where
  stored : entry.2.op.onStore → entry.2.fault = .none
  reported : entry.2.op.attaches → entry.2.fault ≠ .lost
  mounted : entry.2.op.mounts → JustAttached past entry.2.world → entry.2.answer.isOk

/-- A new volume has the name of an object, and no device is attached at its path. -/
def Unattached (config : Config) : Request → World → Prop
  | .createVolume r, world => ∀ volume, newVolume r = .ok volume → world.store.lookup (volumeKey r.name) = none →
      ObjectName r.name ∧ ∀ loop ∈ world.host.loops, ¬AttachedTo config world.host volume loop
  | _, _ => True

/-! ### Where the files of the volumes are -/

/-- The location of the volume, trimmed or not, ends with its name. -/
def Sited (config : Config) (cwd : Location) (volume : Volume) : Prop :=
  ∃ directory, resolve cwd (publishPath config volume) = directory ++ [volume.name] ∧
    resolve cwd (trim (publishPath config volume)) = directory ++ [volume.name]

theorem sited_placed {cwd : Location} {base : String} (rooted : isAbsolute config.hostPrefix)
    (path : volume.hostPath = hostPath base volume.name) (plain : ObjectName volume.name)
    (valid : ¬InvalidName volume.name) (named : volume.name ≠ "") : Sited config cwd volume := by
  by_cases filled : stripSlashes base = ""
  · have relative : ¬isAbsolute volume.name := fun absolute => plain.flat (List.mem_of_head? absolute)
    have bare : config.hostPrefix ≠ "" := by
      intro empty
      simp [empty, isAbsolute] at rooted
    have published : publishPath config volume = join config.hostPrefix volume.name := by
      rw [publishPath, path, relativeHostPath_empty _ filled]
    have start : ¬StartsBlank (join config.hostPrefix volume.name) := by
      rw [startsBlank_join relative bare]
      exact isAbsolute_startsBlank rooted
    have stop : ¬EndsBlank (join config.hostPrefix volume.name) := by
      rw [endsBlank_join _ named]
      exact plain.endsBlank
    have found : resolve cwd (join config.hostPrefix volume.name) =
        resolve cwd config.hostPrefix ++ [volume.name] := by
      rw [resolve_join cwd _ relative, descend_names (noParent_of_valid valid), names_object plain valid named]
    rw [Sited, published, resolve_same (same_trim.mpr ⟨start, stop⟩), found]
    exact ⟨_, rfl, rfl⟩
  · have placed : Placed base volume := ⟨path, filled⟩
    have found {path : Path} (member : path ∈ backingPaths config volume) :
        resolve cwd path = baseDirectory config cwd base ++ [volume.name] :=
      placed.resolve rooted plain valid named cwd member
    exact ⟨_, found (by simp [backingPaths, dataPaths]), found (by simp [backingPaths])⟩

/-! ### The invariant -/

/-- The device that is being mounted, its name still to be recorded. -/
def Underway (phase : Phase) (past : History) (world : World) (loop : LoopDevice) : Prop :=
  match phase with
  | .on _ (.attached device) => trim device = loop.device ∧ JustAttached past world
  | .on _ (.mounted (some device)) => trim device = loop.device
  | _ => False

/-- What else is known at some points: the volume to be created, what is left when the device of a volume
has been released, and that a withdrawn volume is open. -/
def Aside (config : Config) (request : Request) (phase : Phase) (past : History) (world : World) : Prop :=
  match request, phase with
  | .createVolume r, _ => Unattached config (.createVolume r) world
  | .nodeUnpublishVolume r, .on volume .released =>
    ∀ loop, AttachedTo config world.host volume loop → GivenUp past r.volumeId loop.device
  | .controllerUnpublishVolume _, .on volume .saved => volume.state = .«open»
  | _, _ => True

structure Explained (config : Config) (request : Request) (phase : Phase) (past : History)
    (world : World) : Prop where
  sited : ∀ name volume, world.store.lookup (volumeKey name) = some volume → Sited config world.host.cwd volume
  explained : ∀ name volume, world.store.lookup (volumeKey name) = some volume →
    ∀ loop, AttachedTo config world.host volume loop →
      Names volume loop ∨ GivenUp past name loop.device ∨ request.volumeId = name ∧ Underway phase past world loop
  aside : Aside config request phase past world

theorem GivenUp.snoc {entry : Request × CallEvent} {device : Path} (givenUp : GivenUp past name device)
    (kept : entry.2.op = detachment device → ¬entry.2.answer.isOk) : GivenUp (past ++ [entry]) name device := by
  obtain ⟨before, r, event, after, rfl, named, detach, failed, later⟩ := givenUp
  refine ⟨before, r, event, after ++ [entry], by simp, named, detach, failed, ?_⟩
  exact List.forall_mem_append.mpr ⟨later, by simpa using kept⟩

theorem GivenUp.last {r : NodeUnpublishVolumeRequest} {event : CallEvent} {device : Path}
    (detach : event.op = detachment device) (failed : ¬event.answer.isOk) :
    GivenUp (past ++ [(.nodeUnpublishVolume r, event)]) r.volumeId device :=
  ⟨past, r, event, [], rfl, rfl, detach, failed, by simp⟩

/-- The location of a volume is that of no other. -/
theorem sited_unique {cwd : Location} {v w : Volume} (sitedV : Sited config cwd v) (sitedW : Sited config cwd w)
    (same : resolve cwd (publishPath config v) = resolve cwd (publishPath config w)) : v.name = w.name := by
  obtain ⟨directory, atV, -⟩ := sitedV
  obtain ⟨other, atW, -⟩ := sitedW
  rw [atV, atW] at same
  exact List.singleton_inj.mp (List.append_inj' same rfl).2

theorem SameOrigin.publishPath {origin volume : Volume} (same : SameOrigin origin volume) :
    publishPath config volume = Lvp.publishPath config origin := by
  obtain ⟨-, -, -, path⟩ := same
  rw [Lvp.publishPath, Lvp.publishPath, path]

theorem SameOrigin.sited {origin volume : Volume} {cwd : Location} (same : SameOrigin origin volume)
    (sited : Sited config cwd origin) : Sited config cwd volume := by
  rw [Sited, same.publishPath, same.1]
  exact sited

/-! ### One call -/

theorem perform_sheds {owner : String} {call : Call} (other : call.attaches = false) :
    world.host.Sheds (world.perform owner call).2.host := by
  cases call with
  | create | patch | delete =>
    simp only [World.perform]
    split <;> exact .refl _
  | createDirAll => exact Host.createDirAll_sheds _ _
  | createFile => exact Host.createFile_sheds _ _
  | ftruncate => exact Host.ftruncate_sheds _ _ _
  | removeFile => exact Host.removeFile_sheds _ _
  | removeDirAll => exact Host.removeDirAll_sheds _ _
  | removeDir => exact Host.removeDir_sheds _ _
  | command argv => exact Host.command_sheds (of_decide_eq_false other)
  | _ => exact .refl _

theorem exec_sheds {call : Call} {fault : Fault} (other : call.attaches = false) :
    world.host.Sheds (execFor request fault world call).2.host := by
  cases fault with
  | none => exact perform_sheds other
  | fails => exact .refl _
  | lost => exact perform_sheds other

theorem AttachedTo.before {host after : Host} (sheds : host.Sheds after)
    (attached : AttachedTo config after volume loop) :
    AttachedTo config host volume loop := by
  obtain ⟨member, backing⟩ := attached
  rw [Host.resolve, sheds.1] at backing
  exact ⟨sheds.2 loop member _ backing, backing⟩

theorem JustAttached.snoc {entry : Request × CallEvent} (different : entry.2.world.host.loops ≠ world.host.loops) :
    JustAttached (past ++ [entry]) world := ⟨entry, by simp, different⟩

theorem perform_detachment (world : World) (owner : String) (device : Path) :
    world.perform owner (detachment device) = fromHost world (world.host.losetupDetach device) := by
  simp [detachment, World.perform, Host.command, Host.utility]

/-- A device that is still there has not been detached. -/
theorem detached {device : Path} {fault : Fault}
    (member : loop ∈ (execFor request fault world (detachment device)).2.host.loops)
    (done : (execFor request fault world (detachment device)).1.isOk) : loop.device ≠ device := by
  cases answer : (execFor request fault world (detachment device)).1 with
  | error failure =>
    rw [answer] at done
    cases done
  | ok output =>
    have performed := exec_answered answer
    rw [performed, perform_detachment] at answer member
    apply (Host.losetupDetach_loops member).2
    rw [fromHost_ok.mp answer]
    rfl

theorem names_mounted {device : Option Path} {target : Path} (mounted : DeviceFor volume device)
    (known : Names volume loop ∨ Underway (.on volume (.mounted device)) past world loop) :
    Names (mountedAt volume device target) loop := by
  unfold DeviceFor at mounted
  rcases known with ⟨recorded, same, trimmed⟩ | underway
  · have looped : volume.loopDevice = some recorded := same
    exact ⟨recorded, by simp [mountedAt, looped], trimmed⟩
  · cases device with
    | none => exact underway.elim
    | some path =>
      split at mounted
      · cases mounted
      · obtain ⟨_, ⟨⟩, agrees⟩ := mounted
        refine ⟨path, ?_, underway⟩
        cases looped : volume.loopDevice with
        | none => simp [mountedAt, looped]
        | some known => simp [mountedAt, looped, agrees known looped]

theorem names_unmounted {target : Path} (kept : volume.loopDevice = none ∨
    (unmountedFrom volume target).mountPaths ≠ [])
    (named : Names volume loop) : Names (unmountedFrom volume target) loop := by
  obtain ⟨device, same, trimmed⟩ := named
  refine ⟨device, ?_, trimmed⟩
  have remain := kept.resolve_left (by rw [same]; nofun)
  unfold unmountedFrom at remain ⊢
  dsimp only at remain ⊢
  split at remain
  · exact absurd rfl remain
  · rename_i rest
    rw [if_neg rest]
    exact same

namespace Explained
variable {fault : Fault}

/-- What was given up is still given up, as long as the device is there. -/
theorem givenUp {call : Call} (givenUp : GivenUp past name loop.device)
    (member : loop ∈ (execFor request fault world call).2.host.loops) :
    GivenUp (past ++ [entry request world call fault]) name loop.device := by
  refine givenUp.snoc fun same done => ?_
  subst same
  exact detached member done rfl

/-- A call that attaches nothing and leaves the records alone. -/
theorem quiet {call : Call} {resume : call.Answer → Phase} (explained : Explained config request phase past world)
    (store : (execFor request fault world call).2.store = world.store)
    (sheds : world.host.Sheds (execFor request fault world call).2.host)
    (underway : ∀ loop, Underway phase past world loop → Underway (resume (execFor request fault world call).1)
      (past ++ [entry request world call fault]) (execFor request fault world call).2 loop)
    (aside : Aside config request (resume (execFor request fault world call).1)
      (past ++ [entry request world call fault]) (execFor request fault world call).2) :
    Afterwards (Explained config) request past world call resume fault where
  sited name volume held := by
    rw [store] at held
    rw [sheds.1]
    exact explained.sited name volume held
  explained name volume held loop attached := by
    rw [store] at held
    rcases explained.explained name volume held loop (attached.before sheds) with named | given | ⟨own, unnamed⟩
    · exact Or.inl named
    · exact Or.inr (Or.inl (givenUp given attached.1))
    · exact Or.inr (Or.inr ⟨own, underway loop unnamed⟩)
  aside := aside

/-- The record of the request is written anew, for the same file. -/
theorem rewritten {volume written : Volume} {resume : Except Failure Unit → Phase}
    (own : written.key = volumeKey request.volumeId)
    (origin : SameOrigin volume written) (explained : Explained config request phase past world)
    (held : world.store.lookup (volumeKey request.volumeId) = some volume)
    (named : ∀ loop, AttachedTo config world.host volume loop → Names volume loop ∨ Underway phase past world loop →
      Names written loop ∨ GivenUp past request.volumeId loop.device)
    (aside : ∀ past world, Aside config request (resume (.ok ())) past world) :
    Afterwards (Explained config) request past world (.patch written.key written) resume .none := by
  unfold Afterwards
  rw [own]
  have same : ∀ loop, AttachedTo config world.host written loop → AttachedTo config world.host volume loop := by
    intro loop attached
    rw [AttachedTo, origin.publishPath] at attached
    exact attached
  rw [patch_present held]
  refine ⟨fun name other lookup => ?_, fun name other lookup loop attached => ?_, aside _ _⟩
  · by_cases equal : volumeKey name = volumeKey request.volumeId
    · rw [equal, AList.lookup_insert] at lookup
      cases lookup
      exact origin.sited (explained.sited _ _ held)
    · rw [AList.lookup_insert_ne equal] at lookup
      exact explained.sited name other lookup
  · have kept : ∀ name, GivenUp past name loop.device →
        GivenUp (past ++ [entry request world (.patch (volumeKey request.volumeId) written) .none]) name loop.device :=
      fun name given => given.snoc (by rintro ⟨⟩)
    by_cases equal : name = request.volumeId
    · subst equal
      rw [AList.lookup_insert] at lookup
      cases lookup
      have known : Names written loop ∨ GivenUp past request.volumeId loop.device := by
        rcases explained.explained _ _ held loop (same loop attached) with before | given | ⟨-, underway⟩
        · exact named loop (same loop attached) (Or.inl before)
        · exact Or.inr given
        · exact named loop (same loop attached) (Or.inr underway)
      exact known.imp_right fun given => Or.inl (kept _ given)
    · rw [AList.lookup_insert_ne fun clash => equal (volumeKey_injective clash)] at lookup
      rcases explained.explained name other lookup loop attached with before | given | ⟨clash, -⟩
      · exact Or.inl before
      · exact Or.inr (Or.inl (kept name given))
      · exact absurd clash.symm equal

theorem writes {stage next : Stage} (ok : StoreOk WellFormed world.store)
    (explained : Explained config request (.on volume stage) past world)
    (held : world.store.lookup (volumeKey request.volumeId) = some volume)
    (writes : Writes config request volume stage written next) :
    Afterwards (Explained config) request past world (.patch written.key written)
      (through fun _ => .on written next) .none := by
  have own := congrArg volumeKey (writes.rewrite.name.trans (ok.named held).1)
  have origin : SameOrigin volume written := writes.rewrite.sameOrigin ⟨rfl, rfl, rfl, rfl⟩
  have aside := explained.aside
  cases writes with
  | publish | pin =>
    exact explained.rewritten own origin held (fun loop _ known => Or.inl (known.resolve_right id)) fun _ _ =>
      trivial
  | expand expandable settled =>
    refine explained.rewritten own origin held (fun loop _ known => Or.inl ?_) fun _ _ => trivial
    rcases settled with rfl | ⟨rfl, -⟩ <;> exact known.resolve_right id
  | unpublish =>
    exact explained.rewritten own origin held (fun loop _ known => Or.inl (known.resolve_right id)) fun _ _ => rfl
  | record admitted mounted =>
    exact explained.rewritten own origin held (fun loop _ known => Or.inl (names_mounted mounted known))
      fun _ _ => trivial
  | unmount unmountable settled =>
    refine explained.rewritten own origin held (fun loop attached known => ?_) fun _ _ => trivial
    rcases settled with rfl | ⟨rfl, kept⟩
    · exact Or.inr (aside loop attached)
    · exact Or.inl (names_unmounted kept (known.resolve_right id))

theorem created {r : CreateVolumeRequest} (rooted : isAbsolute config.hostPrefix) (built : newVolume r = .ok volume)
    (explained : Explained config (.createVolume r) .missing past world)
    (absent : world.store.lookup (volumeKey r.name) = none) :
    Afterwards (Explained config) (.createVolume r) past world (.create volume.key volume)
      (through fun _ => .on volume .saved) .none := by
  unfold Afterwards
  obtain ⟨plain, free⟩ := explained.aside volume built absent
  obtain ⟨base, filesystem, configs, fresh, -, valid, filled⟩ := newVolume_ok built
  have named : volume.name = r.name := newVolume_name built
  have own : volume.key = volumeKey r.name := congrArg volumeKey named
  have sited : Sited config world.host.cwd volume := by
    have path : volume.hostPath = hostPath base volume.name := by
      rw [fresh]
      rfl
    rw [← named] at plain valid filled
    exact sited_placed rooted path plain valid filled
  rw [own, create_absent absent]
  refine ⟨fun name other lookup => ?_, fun name other lookup loop attached => ?_, ?_⟩
  · by_cases equal : volumeKey name = volumeKey r.name
    · rw [equal, AList.lookup_insert] at lookup
      cases lookup
      exact sited
    · rw [AList.lookup_insert_ne equal] at lookup
      exact explained.sited name other lookup
  · by_cases equal : volumeKey name = volumeKey r.name
    · rw [equal, AList.lookup_insert] at lookup
      cases lookup
      exact absurd attached (free loop attached.1)
    · rw [AList.lookup_insert_ne equal] at lookup
      rcases explained.explained name other lookup loop attached with before | given | ⟨-, underway⟩
      · exact Or.inl before
      · exact Or.inr (Or.inl (given.snoc (by rintro ⟨⟩)))
      · exact underway.elim
  · intro _ _ none
    rw [AList.lookup_insert] at none
    cases none

theorem deleted {r : DeleteVolumeRequest} {key : String}
    (explained : Explained config (.deleteVolume r) (.on volume .erased) past world) :
    Afterwards (Explained config) (.deleteVolume r) past world (.delete key) (through fun _ => .missing) .none := by
  unfold Afterwards
  obtain ⟨host, fewer⟩ := exec_delete (.deleteVolume r) world .none key
  refine ⟨fun name other lookup => ?_, fun name other lookup loop attached => ?_, trivial⟩
  · rw [host]
    exact explained.sited name other (fewer _ _ lookup)
  · rw [host] at attached
    rcases explained.explained name other (fewer _ _ lookup) loop attached with before | given | ⟨-, underway⟩
    · exact Or.inl before
    · exact Or.inr (Or.inl (given.snoc (by rintro ⟨⟩)))
    · exact underway.elim

/-- A device at the trimmed path of a volume is at the path of that volume only. -/
theorem own {owner : String} {other : Volume} (ok : StoreOk WellFormed world.store)
    (explained : Explained config request phase past world)
    (held : world.store.lookup (volumeKey owner) = some volume)
    (lookup : world.store.lookup (volumeKey name) = some other)
    (same : world.host.resolve (trim (publishPath config volume)) = world.host.resolve (publishPath config other)) :
    owner = name := by
  have sited := explained.sited _ _ held
  obtain ⟨directory, path, trimmed⟩ := sited
  have paths : resolve world.host.cwd (publishPath config volume) =
      resolve world.host.cwd (publishPath config other) :=
    (path.trans trimmed.symm).trans same
  have names := sited_unique (explained.sited _ _ held) (explained.sited _ _ lookup) paths
  rw [(ok.named held).1, (ok.named lookup).1] at names
  exact names

theorem attached {r : NodePublishVolumeRequest} (ok : StoreOk WellFormed world.store)
    (explained : Explained config (.nodePublishVolume r) (.on volume .backed) past world)
    (held : world.store.lookup (volumeKey r.volumeId) = some volume) (reported : fault ≠ .lost) :
    Afterwards (Explained config) (.nodePublishVolume r) past world
      (.command ["chroot", "/chr", "losetup", "--show", "-L", "-f", trim (publishPath config volume)])
      (through fun output => .on volume (.attached output)) fault := by
  cases fault with
  | lost => exact absurd rfl reported
  | fails => exact explained.quiet rfl (.refl _) (fun _ => False.elim) trivial
  | none =>
    let call : Call := .command ["chroot", "/chr", "losetup", "--show", "-L", "-f",
        trim (publishPath config volume)]
    have performed : execFor (.nodePublishVolume r) .none world call =
        fromHost world (world.host.losetup (trim (publishPath config volume))) := perform_losetup _ _ _
    rcases world.host.losetup_loops (trim (publishPath config volume)) with same | ⟨printed, attached⟩
    · refine explained.quiet (exec_host rfl) ?_ (fun _ => False.elim) trivial
      rw [performed, fromHost, same]
      exact .refl _
    · have next : through (fun output => Phase.on volume (.attached output))
          (execFor (.nodePublishVolume r) .none world call).1 =
          .on volume (.attached (world.host.freeLoop ++ "\n")) := by
        rw [performed, fromHost, printed]
        rfl
      have loops : (execFor (.nodePublishVolume r) .none world call).2.host = { world.host with
          loops := ⟨world.host.freeLoop, world.host.resolve (trim (publishPath config volume)), false⟩ ::
            world.host.loops } := by
        rw [performed, fromHost, attached]
      have store : (execFor (.nodePublishVolume r) .none world call).2.store = world.store := exec_host rfl
      show Explained config (.nodePublishVolume r) (through _ (execFor (.nodePublishVolume r) .none world call).1) _
        (execFor (.nodePublishVolume r) .none world call).2
      rw [next]
      refine ⟨fun name other lookup => ?_, fun name other lookup loop attached => ?_, trivial⟩
      · rw [store] at lookup
        rw [loops]
        exact explained.sited name other lookup
      · rw [store] at lookup
        rw [AttachedTo, loops] at attached
        obtain ⟨member, backing⟩ := attached
        rcases List.mem_cons.mp member with rfl | before
        · rw [LoopDevice.backing_attached] at backing
          refine Or.inr (Or.inr ⟨explained.own ok held lookup (Option.some.inj backing), ?_, .snoc ?_⟩)
          · exact trim_newline (Host.trim_freeLoop _)
          · rw [loops]
            exact (List.cons_ne_self _ _).symm
        · have kept : loop ∈ (execFor (.nodePublishVolume r) .none world call).2.host.loops := by
            rw [loops]
            exact List.mem_cons_of_mem _ before
          rcases explained.explained name other lookup loop ⟨before, backing⟩ with named | given | ⟨-, underway⟩
          · exact Or.inl named
          · exact Or.inr (Or.inl (givenUp given kept))
          · exact underway.elim

theorem released {r : NodeUnpublishVolumeRequest} {device : Path} (looped : volume.loopDevice = some device)
    (explained : Explained config (.nodeUnpublishVolume r) (.on volume .unmounted) past world)
    (held : world.store.lookup (volumeKey r.volumeId) = some volume) :
    Afterwards (Explained config) (.nodeUnpublishVolume r) past world (detachment (trim device))
      (fun _ => .on volume .released) fault := by
  refine explained.quiet (exec_host rfl) (exec_sheds rfl) (fun _ => False.elim) fun loop attached => ?_
  rcases explained.explained _ _ held loop (attached.before (exec_sheds rfl)) with named | given | ⟨-, underway⟩
  · obtain ⟨known, same, trimmed⟩ := named
    cases looped.symm.trans same
    rw [← trimmed]
    refine .last rfl fun done => ?_
    exact detached attached.1 done trimmed.symm
  · exact givenUp given attached.1
  · exact underway.elim

theorem mounted {r : NodePublishVolumeRequest} {stage : Stage} {device : Path} {argv : List String}
    (deeds : deed argv = .mounts (trim r.targetPath))
    (ready : stage = .attached device ∧ volume.loopDevice = none ∨ stage = .backed ∧
      volume.loopDevice = some device)
    (explained : Explained config (.nodePublishVolume r) (.on volume stage) past world)
    (recorded : Recorded past (entry (.nodePublishVolume r) world (.command argv) fault)) :
    Afterwards (Explained config) (.nodePublishVolume r) past world (.command argv)
      (through fun _ => .on volume (.mounted (some device))) fault := by
  have other : (Call.command argv).attaches = false := by simp [Call.attaches, deeds]
  have mounts : (Call.command argv).mounts := by simp [Call.mounts, deeds]
  refine explained.quiet (exec_host rfl) (exec_sheds other) (fun loop underway => ?_) trivial
  rcases ready with ⟨rfl, -⟩ | ⟨rfl, -⟩
  · obtain ⟨named, just⟩ := underway
    have went : (execFor (.nodePublishVolume r) fault world (.command argv)).1.isOk := recorded.mounted mounts just
    cases answer : (execFor (.nodePublishVolume r) fault world (.command argv)).1 with
    | ok output => exact named
    | error failure =>
      rw [answer] at went
      cases went
  · exact underway.elim

theorem loaded {key : String} (explained : Explained config request phase past world)
    (idle : ∀ loop, ¬Underway phase past world loop)
    (aside : ∀ r, request = .createVolume r → Unattached config (.createVolume r) world) :
    Afterwards (Explained config) request past world (.getOpt key) (through found) fault := by
  have same : (execFor request fault world (.getOpt key)).2 = world := by cases fault <;> rfl
  refine explained.quiet (by rw [same]) (by rw [same]; exact .refl _) (fun loop underway =>
    absurd underway (idle loop)) ?_
  rw [same]
  cases request with
  | createVolume r => exact aside r rfl
  | nodeUnpublishVolume r =>
    cases (execFor (.nodeUnpublishVolume r) fault world (.getOpt key)).1 with
    | ok result => cases result <;> trivial
    | error failure => trivial
  | controllerUnpublishVolume r =>
    cases (execFor (.controllerUnpublishVolume r) fault world (.getOpt key)).1 with
    | ok result => cases result <;> trivial
    | error failure => trivial
  | _ => trivial

theorem step {call : Call} {resume : call.Answer → Phase} (rooted : isAbsolute config.hostPrefix)
    (ok : StoreOk WellFormed world.store) (holds : Holds request phase world)
    (explained : Explained config request phase past world) (issued : Issues config request phase call resume)
    (recorded : Recorded past (entry request world call fault)) :
    Afterwards (Explained config) request past world call resume fault := by
  have healthy (onStore : call.onStore) : fault = .none := recorded.stored onStore
  cases issued with
  | load =>
    refine explained.loaded (fun _ => id) ?_
    rintro r rfl
    exact explained.aside
  | reload =>
    refine explained.loaded (fun _ => id) ?_
    rintro _ ⟨⟩
    exact explained.aside
  | write writes =>
    cases healthy rfl
    exact explained.writes ok holds writes
  | create built =>
    cases healthy rfl
    exact explained.created rooted built holds
  | delete =>
    cases healthy rfl
    exact explained.deleted
  | attach => exact explained.attached ok holds (recorded.reported rfl)
  | @mount r volume stage device admitted unbound ready =>
    refine explained.mounted ?_ ready recorded
    cases (r.readonly || volume.publishedReadonly) <;> simp [mountCommand, deed, utilityDeed]
  | detach _ looped => exact explained.released looped holds
  | makeFile _ housed =>
    refine explained.quiet (exec_host rfl) (exec_sheds rfl) ?_ trivial
    rcases housed with rfl | ⟨rfl, -⟩ <;> exact fun _ => False.elim
  | @mkfs r volume _ =>
    refine explained.quiet (exec_host rfl) (exec_sheds ?_) (fun _ => False.elim) trivial
    cases volume.filesystem <;> rfl
  | @grow r volume device =>
    refine explained.quiet (exec_host rfl) (exec_sheds ?_) (fun _ => False.elim) trivial
    unfold growCommand
    split <;> rfl
  | @mountBind r volume =>
    refine explained.quiet (exec_host rfl) (exec_sheds ?_) (fun _ => False.elim) trivial
    cases (r.readonly || volume.publishedReadonly) <;> simp [Call.attaches, mountCommand, deed, utilityDeed]
  | @umount r volume =>
    refine explained.quiet (exec_host rfl) (exec_sheds rfl) (fun _ => False.elim) ?_
    cases (execFor (.nodeUnpublishVolume r) fault world
      (.command ["chroot", "/chr", "umount", trim r.targetPath])).1 <;>
      trivial
  | _ => exact explained.quiet (exec_host rfl) (exec_sheds rfl) (fun _ => False.elim) trivial

end Explained

/-! ### Runs -/

/-- Between requests there is nothing underway. -/
def Settled (config : Config) (past : History) (world : World) : Prop :=
  ∀ name volume, world.store.lookup (volumeKey name) = some volume → Sited config world.host.cwd volume ∧
    ∀ loop, AttachedTo config world.host volume loop → Names volume loop ∨ GivenUp past name loop.device

theorem explained_carries (rooted : isAbsolute config.hostPrefix) :
    Carries config (Unattached config) Recorded (Explained config) (Settled config) where
  enter {request past world} unattached settled := by
    refine ⟨fun name volume held => (settled name volume held).1, fun name volume held loop attached => ?_, ?_⟩
    · exact ((settled name volume held).2 loop attached).imp_right Or.inl
    · cases request <;> exact unattached
  step ok holds explained issued recorded := explained.step rooted ok holds issued recorded
  leave {request phase past world} ends explained name volume held := by
    refine ⟨explained.sited name volume held, fun loop attached => ?_⟩
    refine (explained.explained name volume held loop attached).imp_right fun known =>
      known.resolve_right fun own => ?_
    rcases ends with idle | returned
    · cases phase with
      | on volume stage =>
        rw [Phase.idle_on] at idle
        subst idle
        exact own.2
      | _ => exact own.2
    · cases returned <;> exact own.2

/-- The detach fails, the volume is withdrawn all the same. -/
def Sample.unreleased : Run :=
  publishing healthy ++ [(nodeUnpublish "a" "/t", failing 2), (unpublish "a", healthy)]

end Lvp
