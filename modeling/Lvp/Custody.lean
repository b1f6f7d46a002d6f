import Lvp.Backing
import Lvp.Ledger
import Lvp.Reconciliation
import Lvp.Sequence
import Lvp.Unix.Attachments

/-!
Whose data a device and a mount show. A record names its loop device from the first mount to the last unmount, and
meanwhile nobody else detaches it. Only when the write that records the last unmount is dropped does the record go on
naming a device that may be given to another volume.
-/

namespace Lvp
open Unix Effect Csi

variable {config : Config} {request : Request} {world : World} {host : Host} {volume written : Volume}
  {stage next : Stage} {name owner : String} {device : Path} {seat : Option Host} {fault : Fault}

/-- The device is attached to data of the volume. -/
def Entrusted (name : String) (device : Path) (host : Host) : Prop :=
  ∃ file, (device, file) ∈ host.attachments ∧ Belongs name file

/-- Every mount shows data of the volume it was made for. -/
structure Custody (host : Host) : Prop extends Host.Regular host where
  shown : ∀ mount ∈ host.mounts, ∀ location ∈ mount.content, Belongs mount.owner location

/-- The device in the record of the volume, if there is one, is attached to its data. -/
def Trusted (name : String) (store : Store) (host : Host) : Prop :=
  ∀ volume, store.lookup (volumeKey name) = some volume → volume.name = name ∧ WellPlaced volume ∧
    ∀ device ∈ volume.loopDevice, Entrusted name (trim device) host

theorem Entrusted.unique {a b : String} (regular : host.Regular) (first : Entrusted a device host)
    (second : Entrusted b device host) : a = b := by
  obtain ⟨file, attached, own⟩ := first
  obtain ⟨other, again, foreign⟩ := second
  rw [regular.unique again attached] at foreign
  exact own.unique foreign

/-! ### Calls to the host -/

/-- A new volume is named as objects of the API server are. -/
def Request.NamesObject : Request → Prop
  | .createVolume r => ObjectName r.name
  | _ => True

/-- The write that records an unmount is not dropped. -/
def Noted : Request → Call → Fault → Prop
  | .nodeUnpublishVolume _, .patch _ _, fault => fault ≠ .fails
  | _, _, _ => True

/-- Requests that mount, unmount or use a device. -/
def Request.onNode : Request → Bool
  | .nodePublishVolume _ | .nodeUnpublishVolume _ | .nodeExpandVolume _ => true
  | _ => false

def Call.detaches (device : Path) : Call → Prop
  | .command argv => deed argv = .detaches device
  | _ => False

def Call.mountsAt (target : Path) : Call → Prop
  | .command argv => deed argv = .mounts target
  | _ => False

theorem perform_regular (regular : world.host.Regular) (call : Call) :
    (world.perform owner call).2.host.Regular := by
  cases call with
  | command argv => exact regular.command owner argv
  | _ => exact regular.same (perform_untouched (by simp)).2.1

theorem perform_attachments {call : Call} {file : Location} (other : ¬call.detaches device)
    (member : (device, file) ∈ world.host.attachments) :
    (device, file) ∈ (world.perform owner call).2.host.attachments := by
  have kept (plain : ∀ argv, call ≠ .command argv) :
      (device, file) ∈ (world.perform owner call).2.host.attachments := by
    rw [(perform_untouched plain).2.1]
    exact member
  cases call with
  | command argv => exact Host.command_attachments other member
  | _ => exact kept (by simp)

/-- Only mounting adds a mount. -/
theorem perform_mount {call : Call} (other : ∀ target, ¬call.mountsAt target) {mount : Mount}
    (member : mount ∈ (world.perform owner call).2.host.mounts) : mount ∈ world.host.mounts := by
  have kept (plain : ∀ argv, call ≠ .command argv) : mount ∈ world.host.mounts := by
    rw [(perform_untouched plain).1] at member
    exact member
  cases call with
  | command argv =>
    simp only [World.perform, fromHost] at member
    cases ran : world.host.command owner argv with
    | mk answer after =>
      rw [ran] at member
      cases answer with
      | error failure =>
        rw [Host.command_failed ran] at member
        exact member
      | ok output =>
        have done := Host.command_done ran
        cases what : deed argv with
        | mounts target => exact absurd what (other target)
        | unmounts target =>
          rw [what] at done
          rw [done.2.1] at member
          exact List.mem_of_mem_eraseP member
        | attaches => rw [what] at done; exact done.2.2.1 ▸ member
        | detaches device => rw [what] at done; exact done.2.1 ▸ member
        | nothing => rw [what] at done; exact done.1 ▸ member
  | _ => exact kept (by simp)

theorem exec_entrusted {call : Call} (other : ¬call.detaches device)
    (entrusted : Entrusted name device world.host) :
    Entrusted name device (execFor request fault world call).2.host := by
  obtain ⟨file, attached, own⟩ := entrusted
  refine ⟨file, ?_, own⟩
  cases fault with
  | none => exact perform_attachments other attached
  | fails => exact attached
  | lost => exact perform_attachments other attached

theorem exec_custody {call : Call} (custody : Custody world.host)
    (shown : ∀ mount ∈ (world.perform request.volumeId call).2.host.mounts, mount ∈ world.host.mounts ∨
      ∀ location ∈ mount.content, Belongs mount.owner location) :
    Custody (execFor request fault world call).2.host := by
  have through : Custody (world.perform request.volumeId call).2.host :=
    ⟨perform_regular custody.toRegular call, fun mount member => (shown mount member).elim (custody.shown mount) id⟩
  cases fault with
  | none => exact through
  | fails => exact custody
  | lost => exact through

/-! ### Mounting -/

theorem perform_losetup (world : World) (owner : String) (path : Path) :
    world.perform owner (.command ["chroot", "/chr", "losetup", "--show", "-L", "-f", path]) =
      fromHost world (world.host.losetup path) := by
  simp [World.perform, Host.command, Host.utility]

theorem utility_mount (host : Host) (owner : String) (device target : Path) :
    host.utility owner ["mount", device, target] = host.mountDevice owner false device target := by
  unfold Host.utility
  split <;> simp_all

theorem utility_mountBind (host : Host) (owner : String) (source target : Path) :
    host.utility owner ["mount", "bind", source, target] = host.mountBind owner false source target := by
  unfold Host.utility
  split <;> simp_all

theorem command_mountDevice (host : Host) (owner : String) (readonly : Bool) (device target : Path) :
    host.command owner (["chroot", "/chr"] ++ mountCommand false readonly device target) =
      host.mountDevice owner readonly device target := by
  cases readonly with
  | true => rfl
  | false => exact utility_mount host owner device target

theorem command_mountBind (host : Host) (owner : String) (readonly : Bool) (source target : Path) :
    host.command owner (mountCommand true readonly source target) =
      host.mountBind owner readonly source target := by
  cases readonly with
  | true => rfl
  | false => exact utility_mountBind host owner source target

/-- A new mount of a device shows the file of the device. -/
theorem mountDevice_mount {readonly : Bool} {target : Path} {mount : Mount}
    (member : mount ∈ (host.mountDevice owner readonly device target).2.mounts) :
    mount ∈ host.mounts ∨ mount = ⟨owner, device, host.behind device, target, readonly⟩ := by
  unfold Host.mountDevice at member
  split at member
  · exact (List.mem_cons.mp member).symm
  · exact Or.inl member

theorem mountBind_mount {readonly : Bool} {source target : Path} {mount : Mount}
    (member : mount ∈ (host.mountBind owner readonly source target).2.mounts) :
    mount ∈ host.mounts ∨ mount = ⟨owner, source, some (host.resolve source), target, readonly⟩ := by
  unfold Host.mountBind at member
  split at member
  · exact (List.mem_cons.mp member).symm
  · exact Or.inl member

theorem Entrusted.behind (regular : host.Regular) (entrusted : Entrusted name device host) {file : Location}
    (behind : host.behind device = some file) : Belongs name file := by
  obtain ⟨other, attached, own⟩ := entrusted
  rw [regular.unique (Host.behind_attached behind) attached]
  exact own

/-! ### What a request holds in its hands -/

structure Handling (request : Request) (volume : Volume) (stage : Stage) (host : Host) : Prop where
  named : volume.name = request.volumeId
  placed : WellPlaced volume
  recorded : stage ≠ .released → ∀ device ∈ volume.loopDevice, Entrusted request.volumeId (trim device) host
  released : stage = .released → ∀ r, request = .nodeUnpublishVolume r →
    (unmountedFrom volume r.targetPath).loopDevice = none
  attached : ∀ device, stage = .attached device ∨ stage = .mounted (some device) →
    Entrusted request.volumeId (trim device) host

/-- A stage with nothing in hand but the record. -/
def Stage.plain : Stage → Bool
  | .released | .attached _ | .mounted (some _) => false
  | _ => true

def InPosition (request : Request) : Phase → Store → Host → Prop
  | .missing, store, _ => store.lookup (volumeKey request.volumeId) = none
  | .on volume stage, store, host => store.lookup (volumeKey request.volumeId) = some volume ∧
      Handling request volume stage host
  | _, store, host => Trusted request.volumeId store host

/-- The host on which the volume of a request is used: the one of the instance, or `seat`. -/
def seated (seat : Option Host) (world : World) : Host := seat.getD world.host

structure Standing (seat : Option Host) (request : Request) (phase : Phase) (world : World) : Prop where
  plain : request.NamesObject
  near : request.onNode → seat = none
  position : InPosition request phase world.store (seated seat world)

namespace Handling

theorem plain (handling : Handling request volume stage host) (left : stage ≠ .released) (plain : next.plain) :
    Handling request volume next host where
  named := handling.named
  placed := handling.placed
  recorded _ := handling.recorded left
  released reached := by
    rw [reached] at plain
    cases plain
  attached device reached := by
    rcases reached with rfl | rfl <;> cases plain

theorem trusted {store : Store} (handling : Handling request volume stage host) (left : stage ≠ .released)
    (held : store.lookup (volumeKey request.volumeId) = some volume) : Trusted request.volumeId store host := by
  intro other lookup
  cases held.symm.trans lookup
  exact ⟨handling.named, handling.placed, handling.recorded left⟩

theorem moved {after : Host} (handling : Handling request volume stage host)
    (kept : ∀ device, Entrusted request.volumeId device host → Entrusted request.volumeId device after) :
    Handling request volume stage after where
  named := handling.named
  placed := handling.placed
  recorded left device looped := kept _ (handling.recorded left device looped)
  released := handling.released
  attached device reached := kept _ (handling.attached device reached)

theorem data (handling : Handling request volume stage host) (cwd : Location) :
    Belongs request.volumeId (resolve cwd (trim (publishPath config volume))) := by
  have path : trim (publishPath config volume) ∈ backingPaths config volume := List.mem_cons_self
  rw [← handling.named]
  exact handling.placed.belongs cwd path

/-- What is written names the device in hand. -/
theorem rewritten (handling : Handling request volume stage host)
    (writes : Writes config request volume stage written next) :
    Handling request written next host := by
  have origin : SameOrigin volume written := writes.rewrite.sameOrigin ⟨rfl, rfl, rfl, rfl⟩
  have placed : WellPlaced written := by
    obtain ⟨plain, valid, named, base, path⟩ := handling.placed
    rw [← origin.1] at plain valid named path
    exact ⟨plain, valid, named, base, origin.2.2.2.trans path⟩
  have reached : next.plain ∧ next ≠ .released := by cases writes <;> simp [Stage.plain]
  refine ⟨origin.1.trans handling.named, placed, fun _ device looped => ?_, fun other => absurd other reached.2,
    fun device other => ?_⟩
  · cases writes with
    | publish asked unlocked state valid => exact handling.recorded (by simp) device looped
    | unpublish state => exact handling.recorded (by simp) device looped
    | pin admitted => exact handling.recorded (by simp) device looped
    | @record r _ mounted admitted known =>
      simp only [mountedAt] at looped
      split at looped
      · exact handling.attached device (Or.inr (congrArg Stage.mounted looped))
      · exact handling.recorded (by simp) device looped
    | @unmount r _ _ unmountable settled =>
      rcases settled with rfl | ⟨rfl, -⟩
      · rw [handling.released rfl r rfl] at looped
        cases looped
      · refine handling.recorded (by simp) device ?_
        unfold unmountedFrom at looped
        dsimp only at looped
        split at looped
        · cases looped
        · exact looped
    | expand expandable settled =>
      refine handling.recorded ?_ device looped
      rcases settled with rfl | ⟨rfl, -⟩ <;> simp
  · have plain := reached.1
    rcases other with rfl | rfl <;> cases plain

end Handling

/-! ### One call -/

/-- What a request may rely on while others are served. -/
structure Unaffected (name : String) (world after : World) : Prop where
  record : after.store.lookup (volumeKey name) = world.store.lookup (volumeKey name)
  entrusted : ∀ device, Entrusted name device world.host → Entrusted name device after.host

structure Stepped (seat : Option Host) (request : Request) (next : Phase) (world after : World) : Prop where
  custody : Custody after.host
  others : ∀ other, other ≠ request.volumeId → Unaffected other world after
  standing : Standing seat request next after

theorem Standing.trusted {phase : Phase} (standing : Standing seat request phase world)
    (left : ∀ volume, phase ≠ .on volume .released) :
    Trusted request.volumeId world.store (seated seat world) := by
  have position := standing.position
  cases phase with
  | missing =>
    intro volume held
    cases position.symm.trans held
  | on volume stage =>
    obtain ⟨held, handling⟩ := position
    exact handling.trusted (fun released => left volume (by rw [released])) held
  | start => exact position
  | stopped => exact position

theorem seated_entrusted {call : Call} (other : ¬call.detaches device)
    (entrusted : Entrusted name device (seated seat world)) :
    Entrusted name device (seated seat (execFor request fault world call).2) := by
  cases seat with
  | none => exact exec_entrusted other entrusted
  | some home => exact entrusted

namespace Stepped

/-- A call to the host that detaches nothing. -/
theorem hostCall {call : Call} {resume : call.Answer → Phase}
    (standing : Standing seat request (.on volume stage) world)
    (onHost : call.onStore = false) (keeps : ∀ device, ¬call.detaches device)
    (custody : Custody (execFor request fault world call).2.host)
    (leads : resume (execFor request fault world call).1 = .stopped ∧ stage ≠ .released ∨
      ∃ later, resume (execFor request fault world call).1 = .on volume later ∧
        Handling request volume later (seated seat (execFor request fault world call).2)) :
    Stepped seat request (resume (execFor request fault world call).1) world (execFor request fault world call).2 := by
  have store : (execFor request fault world call).2.store = world.store := exec_host onHost
  obtain ⟨held, handling⟩ := standing.position
  refine ⟨custody, fun other _ => ⟨by rw [store], fun device => exec_entrusted (keeps device)⟩,
    standing.plain, standing.near, ?_⟩
  rcases leads with ⟨stopped, left⟩ | ⟨later, on, hands⟩
  · rw [stopped]
    refine Handling.trusted (handling.moved fun device => seated_entrusted (keeps device)) left ?_
    rw [store]
    exact held
  · rw [on]
    refine ⟨?_, hands⟩
    rw [store]
    exact held

/-- One that does not mount either, and leaves the request with nothing but the record. -/
theorem quiet {call : Call} {resume : call.Answer → Phase} (custody : Custody world.host)
    (standing : Standing seat request (.on volume stage) world) (onHost : call.onStore = false)
    (mounts : ∀ target, ¬call.mountsAt target) (keeps : ∀ device, ¬call.detaches device) (left : stage ≠ .released)
    (leads : ∀ answer, resume answer = .stopped ∨ ∃ later, resume answer = .on volume later ∧ later.plain) :
    Stepped seat request (resume (execFor request fault world call).1) world (execFor request fault world call).2 := by
  refine hostCall standing onHost keeps ?_ ?_
  · exact exec_custody custody fun mount member => Or.inl (perform_mount mounts member)
  · rcases leads (execFor request fault world call).1 with stopped | ⟨later, on, plain⟩
    · exact Or.inl ⟨stopped, left⟩
    · have kept : Handling request volume stage (seated seat (execFor request fault world call).2) :=
        standing.position.2.moved fun device => seated_entrusted (keeps device)
      exact Or.inr ⟨later, on, kept.plain left plain⟩

/-- A call that leaves the host alone, and the records of the other volumes. -/
theorem stored {phase : Phase} {after : World} (custody : Custody world.host) (same : after.host = world.host)
    (others : ∀ key, key ≠ volumeKey request.volumeId → after.store.lookup key = world.store.lookup key)
    (plain : request.NamesObject) (near : request.onNode → seat = none)
    (position : InPosition request phase after.store (seated seat world)) :
    Stepped seat request phase world after := by
  refine ⟨?_, fun other different => ⟨others _ fun clash => different (volumeKey_injective clash), ?_⟩,
    plain, near, ?_⟩
  · rw [same]
    exact custody
  · rw [same]
    exact fun device => id
  · have seats : seated seat after = seated seat world := by rw [seated, same, seated]
    rw [seats]
    exact position

/-- A call without effect, after which the request gives up. -/
theorem refused {phase : Phase} (custody : Custody world.host) (standing : Standing seat request phase world)
    (trusted : Trusted request.volumeId world.store (seated seat world)) :
    Stepped seat request .stopped world world :=
  stored custody rfl (fun _ _ => rfl) standing.plain standing.near trusted

/-- A request that looks for its record holds what it finds. -/
theorem loaded {phase : Phase} (custody : Custody world.host) (standing : Standing seat request phase world)
    (left : ∀ volume, phase ≠ .on volume .released) :
    Stepped seat request (through found (execFor request fault world (.getOpt (volumeKey request.volumeId))).1) world
      (execFor request fault world (.getOpt (volumeKey request.volumeId))).2 := by
  have trusted := standing.trusted left
  cases fault with
  | fails => exact refused custody standing trusted
  | lost => exact refused custody standing trusted
  | none =>
    refine stored custody rfl (fun _ _ => rfl) standing.plain standing.near ?_
    show InPosition request (found (world.store.lookup (volumeKey request.volumeId))) world.store _
    cases held : world.store.lookup (volumeKey request.volumeId) with
    | none => exact held
    | some volume =>
      obtain ⟨named, placed, recorded⟩ := trusted volume held
      refine ⟨held, named, placed, fun _ => recorded, nofun, fun device reached => ?_⟩
      rcases reached with reached | reached <;> cases reached

theorem patched (custody : Custody world.host) (standing : Standing seat request (.on volume stage) world)
    (writes : Writes config request volume stage written next)
    (noted : Noted request (.patch written.key written) fault) :
    Stepped seat request (through (fun _ => Phase.on written next)
      (execFor request fault world (.patch written.key written)).1)
      world (execFor request fault world (.patch written.key written)).2 := by
  obtain ⟨held, handling⟩ := standing.position
  have own : written.key = volumeKey request.volumeId :=
    congrArg volumeKey (writes.rewrite.name.trans handling.named)
  have hands := handling.rewritten writes
  have left : next ≠ .released := by cases writes <;> nofun
  rw [own] at noted ⊢
  rw [patch_present held]
  have recorded {phase : Phase} (position : InPosition request phase
      (world.store.insert (volumeKey request.volumeId) written) (seated seat world)) : Stepped seat request phase world
        { world with store := world.store.insert (volumeKey request.volumeId) written } :=
    stored custody rfl (fun _ other => AList.lookup_insert_ne other) standing.plain standing.near position
  cases fault with
  | none => exact recorded ⟨AList.lookup_insert _, hands⟩
  | lost => exact recorded (hands.trusted left (AList.lookup_insert _))
  | fails =>
    refine refused custody standing (handling.trusted ?_ held)
    rintro rfl
    cases writes with
    | @unmount r => exact noted rfl
    | expand _ settled => rcases settled with same | ⟨same, -⟩ <;> cases same

theorem created {r : CreateVolumeRequest} (custody : Custody world.host)
    (standing : Standing seat (.createVolume r) .missing world) (built : newVolume r = .ok volume) :
    Stepped seat (.createVolume r)
      (through (fun _ => Phase.on volume .saved) (execFor (.createVolume r) fault world (.create volume.key volume)).1)
      world (execFor (.createVolume r) fault world (.create volume.key volume)).2 := by
  have absent : world.store.lookup (volumeKey r.name) = none := standing.position
  have named : volume.name = r.name := newVolume_name built
  have unlooped : volume.loopDevice = none := by
    obtain ⟨_, _, _, rfl, -⟩ := newVolume_ok built
    rfl
  have hands : Handling (.createVolume r) volume .saved (seated seat world) :=
    ⟨named, newVolume_placed built standing.plain, by simp [unlooped], nofun,
      fun device reached => by rcases reached with reached | reached <;> cases reached⟩
  rw [show volume.key = volumeKey r.name from congrArg volumeKey named, create_absent absent]
  have recorded {phase : Phase} (position : InPosition (.createVolume r) phase
      (world.store.insert (volumeKey r.name) volume) (seated seat world)) : Stepped seat (.createVolume r) phase world
        { world with store := world.store.insert (volumeKey r.name) volume } :=
    stored custody rfl (fun _ other => AList.lookup_insert_ne other) standing.plain standing.near position
  cases fault with
  | none => exact recorded ⟨AList.lookup_insert _, hands⟩
  | lost => exact recorded (hands.trusted nofun (AList.lookup_insert _))
  | fails => exact refused custody standing (standing.trusted nofun)

theorem deleted {r : DeleteVolumeRequest} (custody : Custody world.host)
    (standing : Standing seat (.deleteVolume r) (.on volume .erased) world) :
    Stepped seat (.deleteVolume r)
      (through (fun _ => Phase.missing) (execFor (.deleteVolume r) fault world (.delete volume.key)).1) world
      (execFor (.deleteVolume r) fault world (.delete volume.key)).2 := by
  obtain ⟨held, handling⟩ := standing.position
  have present : world.store.lookup (volumeKey r.volumeId) = some volume := held
  rw [show volume.key = volumeKey r.volumeId from congrArg volumeKey handling.named, delete_present present]
  have erased : (world.store.erase (volumeKey r.volumeId)).lookup (volumeKey r.volumeId) = none :=
    AList.lookup_erase _ _
  have removed {phase : Phase} (position : InPosition (.deleteVolume r) phase
      (world.store.erase (volumeKey r.volumeId)) (seated seat world)) : Stepped seat (.deleteVolume r) phase world
        { world with store := world.store.erase (volumeKey r.volumeId) } :=
    stored custody rfl (fun _ other => AList.lookup_erase_ne other) standing.plain standing.near position
  cases fault with
  | none => exact removed erased
  | lost => exact removed fun volume held => absurd (erased.symm.trans held) nofun
  | fails => exact refused custody standing (standing.trusted (by simp))

/-- The device that losetup names is attached to the data of the volume. -/
theorem attached {r : NodePublishVolumeRequest} (custody : Custody world.host)
    (standing : Standing seat (.nodePublishVolume r) (.on volume .backed) world) :
    let call := Call.command ["chroot", "/chr", "losetup", "--show", "-L", "-f", trim (publishPath config volume)]
    Stepped seat (.nodePublishVolume r)
      (through (fun output => Phase.on volume (.attached output))
        (execFor (.nodePublishVolume r) fault world call).1) world
      (execFor (.nodePublishVolume r) fault world call).2 := by
  intro call
  have attaches : deed ["chroot", "/chr", "losetup", "--show", "-L", "-f", trim (publishPath config volume)] =
      .attaches := rfl
  have keeps : ∀ device, ¬call.detaches device := fun device same => by cases attaches.symm.trans same
  have mounts : ∀ target, ¬call.mountsAt target := fun target same => by cases attaches.symm.trans same
  have kept : Custody (execFor (.nodePublishVolume r) fault world call).2.host :=
    exec_custody custody fun mount member => Or.inl (perform_mount mounts member)
  have local_ : seat = none := standing.near rfl
  subst local_
  have moved : Handling (.nodePublishVolume r) volume .backed
      (execFor (.nodePublishVolume r) fault world call).2.host :=
    standing.position.2.moved fun device => exec_entrusted (keeps device)
  refine hostCall standing rfl keeps kept ?_
  cases answer : (execFor (.nodePublishVolume r) fault world call).1 with
  | error failure => exact Or.inl ⟨rfl, nofun⟩
  | ok output =>
    refine Or.inr ⟨_, rfl,
      { moved with recorded := fun _ => moved.recorded nofun, released := nofun, attached := ?_ }⟩
    have performed : execFor (.nodePublishVolume r) fault world call =
        fromHost world (world.host.losetup (trim (publishPath config volume))) :=
      (exec_answered answer).trans (perform_losetup _ _ _)
    rw [performed] at answer
    obtain ⟨device, rfl, there⟩ := Host.losetup_prints (fromHost_ok.mp answer)
    have own : Belongs r.volumeId (world.host.resolve (trim (publishPath config volume))) := moved.data _
    generalize world.host.losetup (trim (publishPath config volume)) = result at performed there
    rw [performed] at kept
    have listed : device ∈ result.2.devices := by
      rw [← Host.map_attachments]
      exact List.mem_map.mpr ⟨_, there, rfl⟩
    intro other reached
    obtain rfl : device ++ "\n" = other := by
      rcases reached with same | same
      · exact Stage.attached.inj same
      · cases same
    rw [trim_newline (kept.trimmed device listed), performed]
    exact ⟨_, there, own⟩

/-- A device in hand is mounted: the mount shows the data of the volume. -/
theorem mounted {r : NodePublishVolumeRequest} {readonly : Bool} {target : Path} (custody : Custody world.host)
    (standing : Standing seat (.nodePublishVolume r) (.on volume stage) world)
    (ready : stage = .attached device ∧ volume.loopDevice = none ∨ stage = .backed ∧
      volume.loopDevice = some device) :
    let call := Call.command (["chroot", "/chr"] ++ mountCommand false readonly (trim device) target)
    Stepped seat (.nodePublishVolume r)
      (through (fun _ => Phase.on volume (.mounted (some device)))
        (execFor (.nodePublishVolume r) fault world call).1) world
      (execFor (.nodePublishVolume r) fault world call).2 := by
  intro call
  have keeps : ∀ device, ¬call.detaches device := fun device same => by cases (deed_mount _ _ _).symm.trans same
  have local_ : seat = none := standing.near rfl
  subst local_
  have handling : Handling (.nodePublishVolume r) volume stage world.host := standing.position.2
  have left : stage ≠ .released := by rcases ready with ⟨rfl, -⟩ | ⟨rfl, -⟩ <;> simp
  have entrusted : Entrusted r.volumeId (trim device) world.host := by
    rcases ready with ⟨rfl, -⟩ | ⟨rfl, looped⟩
    · exact handling.attached device (Or.inl rfl)
    · exact handling.recorded (by simp) device looped
  have kept : Custody (execFor (.nodePublishVolume r) fault world call).2.host := by
    refine exec_custody custody fun mount member => ?_
    simp only [call, World.perform, fromHost, command_mountDevice] at member
    refine (mountDevice_mount member).imp_right ?_
    rintro rfl file shown
    exact entrusted.behind custody.toRegular shown
  have moved : Handling (.nodePublishVolume r) volume stage (execFor (.nodePublishVolume r) fault world call).2.host :=
    handling.moved fun device => exec_entrusted (keeps device)
  refine hostCall standing rfl keeps kept ?_
  cases (execFor (.nodePublishVolume r) fault world call).1 with
  | error failure => exact Or.inl ⟨rfl, left⟩
  | ok output =>
    refine Or.inr ⟨_, rfl,
      { moved with recorded := fun _ => moved.recorded left, released := by simp, attached := ?_ }⟩
    intro other reached
    obtain rfl : device = other := by
      rcases reached with same | same
      · cases same
      · exact Option.some.inj (Stage.mounted.inj same)
    exact exec_entrusted (keeps _) entrusted

theorem mountedBind {r : NodePublishVolumeRequest} {readonly : Bool} {target : Path} (custody : Custody world.host)
    (standing : Standing seat (.nodePublishVolume r) (.on volume .backed) world) :
    let call := Call.command (mountCommand true readonly (trim (publishPath config volume)) target)
    Stepped seat (.nodePublishVolume r)
      (through (fun _ => Phase.on volume (.mounted none)) (execFor (.nodePublishVolume r) fault world call).1) world
      (execFor (.nodePublishVolume r) fault world call).2 := by
  intro call
  have keeps : ∀ device, ¬call.detaches device := fun device same => by cases (deed_mountBind _ _ _).symm.trans same
  have handling := standing.position.2
  have own : Belongs r.volumeId (world.host.resolve (trim (publishPath config volume))) := handling.data _
  have kept : Custody (execFor (.nodePublishVolume r) fault world call).2.host := by
    refine exec_custody custody fun mount member => ?_
    simp only [call, World.perform, fromHost, command_mountBind] at member
    refine (mountBind_mount member).imp_right ?_
    generalize world.host.resolve (trim (publishPath config volume)) = location at own ⊢
    rintro rfl file ⟨⟩
    exact own
  refine hostCall standing rfl keeps kept ?_
  have moved : Handling (.nodePublishVolume r) volume .backed
      (seated seat (execFor (.nodePublishVolume r) fault world call).2) :=
    handling.moved fun device => seated_entrusted (keeps device)
  cases (execFor (.nodePublishVolume r) fault world call).1 with
  | error failure => exact Or.inl ⟨rfl, by simp⟩
  | ok output => exact Or.inr ⟨_, rfl, moved.plain (by simp) rfl⟩

/-- The device of a volume that is no longer mounted is given up; the others keep theirs. -/
theorem detached {r : NodeUnpublishVolumeRequest} (custody : Custody world.host)
    (standing : Standing seat (.nodeUnpublishVolume r) (.on volume .unmounted) world)
    (looped : volume.loopDevice = some device) (last : (unmountedFrom volume r.targetPath).mountPaths = []) :
    let call := Call.command ["chroot", "/chr", "losetup", "-d", trim device]
    Stepped seat (.nodeUnpublishVolume r) (.on volume .released) world
      (execFor (.nodeUnpublishVolume r) fault world call).2 := by
  intro call
  have what : deed ["chroot", "/chr", "losetup", "-d", trim device] = .detaches (trim device) := rfl
  have mounts : ∀ target, ¬call.mountsAt target := fun target same => by cases what.symm.trans same
  have local_ : seat = none := standing.near rfl
  subst local_
  have store : (execFor (.nodeUnpublishVolume r) fault world call).2.store = world.store := exec_host rfl
  obtain ⟨held, handling⟩ := standing.position
  have own : Entrusted r.volumeId (trim device) world.host := handling.recorded nofun device looped
  have unlooped : (unmountedFrom volume r.targetPath).loopDevice = none := by
    unfold unmountedFrom at last ⊢
    dsimp only at last ⊢
    split
    · rfl
    · rename_i remain
      rw [if_neg remain] at last
      exact absurd last remain
  refine ⟨exec_custody custody fun mount member => Or.inl (perform_mount mounts member),
    fun other different => ⟨?_, ?_⟩,
    standing.plain, standing.near, ?_, handling.named, handling.placed, fun left => absurd rfl left, ?_, ?_⟩
  · rw [store]
  · intro kept entrusted
    refine exec_entrusted (fun same => different ?_) entrusted
    obtain rfl := Deed.detaches.inj (what.symm.trans same)
    exact entrusted.unique custody.toRegular own
  · rw [store]
    exact held
  · rintro - other ⟨⟩
    exact unlooped
  · rintro other (reached | reached) <;> cases reached

theorem through_leads {α : Type} {later : Stage} (plain : later.plain) (answer : Except Failure α) :
    through (fun _ => Phase.on volume later) answer = .stopped ∨
      ∃ stage, through (fun _ => Phase.on volume later) answer = .on volume stage ∧ stage.plain := by
  cases answer with
  | error failure => exact Or.inl rfl
  | ok value => exact Or.inr ⟨later, rfl, plain⟩

theorem step {phase : Phase} {call : Call} {resume : call.Answer → Phase} (custody : Custody world.host)
    (standing : Standing seat request phase world) (issued : Issues config request phase call resume)
    (noted : Noted request call fault) :
    Stepped seat request (resume (execFor request fault world call).1) world (execFor request fault world call).2 := by
  cases issued with
  | load => exact loaded custody standing nofun
  | reload => exact loaded custody standing (by simp)
  | write writes => exact patched custody standing writes noted
  | create built => exact created custody standing built
  | delete => exact deleted custody standing
  | attach => exact attached custody standing
  | mount _ _ ready => exact mounted custody standing ready
  | mountBind => exact mountedBind custody standing
  | detach _ looped last => exact detached custody standing looped last
  | probe =>
    refine quiet custody standing rfl (fun _ => id) (fun _ => id) nofun fun answer => ?_
    rcases answer with failure | _ | _
    · exact Or.inl rfl
    · exact Or.inr ⟨_, rfl, rfl⟩
    · exact Or.inr ⟨_, rfl, rfl⟩
  | check =>
    refine quiet custody standing rfl (fun _ => id) (fun _ => id) nofun fun answer => ?_
    rcases answer with failure | _ | _
    · exact Or.inl rfl
    · exact Or.inr ⟨_, rfl, rfl⟩
    · exact Or.inl rfl
  | makeFile _ housed =>
    refine quiet custody standing rfl (fun _ => id) (fun _ => id) ?_ (through_leads rfl)
    rcases housed with rfl | ⟨rfl, -⟩ <;> nofun
  | @mkfs r volume =>
    have what : deed [formatter volume.filesystem, publishPath config volume] = .nothing := by
      cases volume.filesystem <;> rfl
    exact quiet custody standing rfl (fun _ same => by cases what.symm.trans same)
      (fun _ same => by cases what.symm.trans same) nofun (through_leads rfl)
  | umount =>
    exact quiet custody standing rfl nofun nofun nofun (through_leads rfl)
  | refresh =>
    exact quiet custody standing rfl nofun nofun nofun (through_leads rfl)
  | @grow r volume device =>
    have what : deed (growCommand volume.filesystem (trim device)) = .nothing := by
      unfold growCommand
      split <;> rfl
    exact quiet custody standing rfl (fun _ same => by cases what.symm.trans same)
      (fun _ same => by cases what.symm.trans same) nofun (through_leads rfl)
  | removeTarget =>
    exact quiet custody standing rfl (fun _ => id) (fun _ => id) nofun fun _ => Or.inr ⟨_, rfl, rfl⟩
  | _ => exact quiet custody standing rfl (fun _ => id) (fun _ => id) nofun (through_leads rfl)

end Stepped

/-! ### Everything the plugin holds -/

/-- What holds of the plugin as a whole between any two calls. -/
structure Secure (world : World) : Prop where
  custody : Custody world.host
  placed : ∀ name volume, world.store.lookup (volumeKey name) = some volume → volume.name = name ∧ WellPlaced volume

theorem Standing.placed {phase : Phase} (standing : Standing seat request phase world)
    (held : world.store.lookup (volumeKey request.volumeId) = some volume) :
    volume.name = request.volumeId ∧ WellPlaced volume := by
  have position := standing.position
  cases phase with
  | missing => cases position.symm.trans held
  | on other stage =>
    cases position.1.symm.trans held
    exact ⟨position.2.named, position.2.placed⟩
  | start => exact ⟨(position volume held).1, (position volume held).2.1⟩
  | stopped => exact ⟨(position volume held).1, (position volume held).2.1⟩

theorem Stepped.secure {after : World} {phase : Phase} (stepped : Stepped seat request phase world after)
    (secure : Secure world) : Secure after where
  custody := stepped.custody
  placed name volume held := by
    by_cases own : name = request.volumeId
    · subst own
      exact stepped.standing.placed held
    · rw [(stepped.others name own).record] at held
      exact secure.placed name volume held

theorem Trusted.unaffected {after : World} (trusted : Trusted name world.store world.host)
    (unaffected : Unaffected name world after) : Trusted name after.store after.host := by
  intro volume held
  rw [unaffected.record] at held
  obtain ⟨named, placed, recorded⟩ := trusted volume held
  exact ⟨named, placed, fun device looped => unaffected.entrusted _ (recorded device looped)⟩

theorem Standing.unaffected {phase : Phase} {after : World} (standing : Standing none request phase world)
    (unaffected : Unaffected request.volumeId world after) : Standing none request phase after := by
  refine ⟨standing.plain, standing.near, ?_⟩
  have position := standing.position
  cases phase with
  | missing => exact unaffected.record.trans position
  | on volume stage => exact ⟨unaffected.record.trans position.1, position.2.moved unaffected.entrusted⟩
  | start => exact Trusted.unaffected position unaffected
  | stopped => exact Trusted.unaffected position unaffected

/-- What a request leaves behind when it ends. -/
theorem Standing.ended {phase : Phase} (standing : Standing seat request phase world)
    (ends : Ends config request phase) :
    Trusted request.volumeId world.store (seated seat world) := by
  refine standing.trusted fun volume released => ?_
  subst released
  rcases ends with idle | returned
  · cases idle
  · cases returned

/-! ### Requests in flight together -/

def custodyLogic (config : Config) (request : Request) : Logic Call Call.Answer World :=
  following (Issues config request) (Standing none request) (Unaffected request.volumeId)

theorem custody_compatible {rules : Rules Request Call Fault} (config : Config)
    (apart : ∀ a b, rules.apart a b ↔ a.volumeId ≠ b.volumeId)
    (plain : ∀ request, rules.admits request → request.NamesObject)
    (noted : ∀ request call fault, rules.allowed request call fault → Noted request call fault) :
    Compatible execFor (handle config) rules (custodyLogic config) Secure
      (fun request world => Trusted request.volumeId world.store world.host)
      (fun request world => Trusted request.volumeId world.store world.host) where
  symm := fun {a b} different => (apart b a).mpr (Ne.symm ((apart a b).mp different))
  refl := fun _ => ⟨rfl, fun _ => id⟩
  trans := fun first second =>
    ⟨second.record.trans first.record, fun device => second.entrusted device ∘ first.entrusted device⟩
  step := by
    rintro request world call fault secure ⟨phase, resume, issued, standing⟩ allowed
    have stepped {phase : Phase} {resume : call.Answer → Phase} (issued : Issues config request phase call resume)
        (standing : Standing none request phase world) :=
          Stepped.step secure.custody standing issued (noted _ _ _ allowed)
    refine ⟨fun phase resume issued standing => (stepped issued standing).standing,
      (stepped issued standing).secure secure, fun other different => ?_⟩
    exact (stepped issued standing).others _ ((apart _ _).mp different)
  stable := fun unaffected trusted => trusted.unaffected unaffected
  stableDone := fun unaffected trusted => trusted.unaffected unaffected
  handover := by
    intro request other world near done
    rw [apart, not_not] at near
    rw [near]
    exact done
  body := by
    intro request world _ admitted trusted
    have start : Standing none request .start world := ⟨plain _ admitted, fun _ => rfl, trusted⟩
    have safe : Safe (custodyLogic config request) (handle config request)
        (fun _ after => ∃ last, Returns config request last ∧ Standing none request last after)
        (fun _ after => ∃ last, last.idle ∧ Standing none request last after) world :=
      (handle_follows config request).safe (fun unaffected standing => standing.unaffected unaffected) start
    refine safe.weaken ?_ ?_
    · rintro _ after ⟨last, returned, standing⟩
      have ends : Ends config request last := Or.inr returned
      exact standing.ended ends
    · rintro _ after ⟨last, idle, standing⟩
      have ends : Ends config request last := Or.inl idle
      exact standing.ended ends

/-! ### One request at a time, on any node -/

/-- Inside a request that began in `start`. -/
structure Serving (seat : Option Host) (request : Request) (start : World) (phase : Phase)
    (world : World) : Prop where
  custody : Custody world.host
  standing : Standing seat request phase world
  others : ∀ other, other ≠ request.volumeId → Unaffected other start world

theorem Serving.step {start : World} {phase : Phase} {call : Call} {resume : call.Answer → Phase}
    (serving : Serving seat request start phase world) (issued : Issues config request phase call resume)
    (noted : Noted request call fault) :
    Serving seat request start (resume (execFor request fault world call).1)
      (execFor request fault world call).2 := by
  have stepped := Stepped.step serving.custody serving.standing issued noted
  refine ⟨stepped.custody, stepped.standing, fun other different => ?_⟩
  have before := serving.others other different
  have later := stepped.others other different
  exact ⟨later.record.trans before.record, fun device => later.entrusted device ∘ before.entrusted device⟩

theorem serve_custody {oracle : Oracle Call Fault} (custody : Custody world.host)
    (standing : Standing seat request .start world) (noted : ∀ n call, Noted request call (oracle n call)) :
    Custody (serve config request oracle world).2.host ∧
      Trusted request.volumeId (serve config request oracle world).2.store
        (seated seat (serve config request oracle world).2) ∧
      ∀ other, other ≠ request.volumeId → Unaffected other world (serve config request oracle world).2 := by
  have begun : Serving seat request world .start world := ⟨custody, standing, fun _ _ => ⟨rfl, fun _ => id⟩⟩
  have within : ∀ entry ∈ (handle config request).trace (execFor request) oracle world,
      Noted request entry.op entry.fault := by
    intro entry member
    obtain ⟨n, same⟩ := Program.trace_fault member
    rw [same]
    exact noted n entry.op
  obtain ⟨⟨last, ended, serving⟩, -⟩ := Follows.keeps Serving.step (handle_follows config request) begun within
  exact ⟨serving.custody, serving.standing.ended (outcome_ends ended), serving.others⟩

/-- The volume is used on its home node only, and no write that records an unmount is dropped. -/
structure Tended (home : String → String) (step : Config × Request × Oracle Call Fault) : Prop where
  plain : step.2.1.NamesObject
  near : step.2.1.onNode → step.1.node = home step.2.1.volumeId
  noted : ∀ n call, Noted step.2.1 call (step.2.2 n call)

/-- Nothing on any node shows data of another volume, and records name devices on the home node. -/
structure Watched (home : String → String) (cluster : Cluster) : Prop where
  custody : ∀ node, Custody (cluster.hosts node)
  trusted : ∀ name, Trusted name cluster.store (cluster.hosts (home name))

namespace Watched
variable {home : String → String} {cluster : Cluster}

theorem initial {hosts : String → Host} (regular : ∀ node, (hosts node).Regular)
    (unmounted : ∀ node, (hosts node).mounts = []) : Watched home ⟨∅, hosts⟩ where
  custody node := ⟨regular node, by simp [unmounted]⟩
  trusted name := by rintro volume ⟨⟩

theorem serve {step : Config × Request × Oracle Call Fault} (watched : Watched home cluster)
    (tended : Tended home step) :
    Watched home (cluster.serve step.1 step.2.1 step.2.2).2 := by
  obtain ⟨config, request, oracle⟩ := step
  let seat : Option Host :=
    if home request.volumeId = config.node then none else some (cluster.hosts (home request.volumeId))
  have seats (world : World) : seated seat world =
      Function.update cluster.hosts config.node world.host (home request.volumeId) := by
    simp only [seat, seated]
    split
    · rename_i same
      rw [same, Function.update_self]
      rfl
    · rename_i different
      rw [Function.update_of_ne different]
      rfl
  have near : request.onNode → seat = none := fun used => if_pos (tended.near used).symm
  have begun : Trusted request.volumeId cluster.store (seated seat (cluster.world config)) := by
    have same : Function.update cluster.hosts config.node (cluster.world config).host = cluster.hosts :=
      Function.update_eq_self _ _
    rw [seats, same]
    exact watched.trusted _
  have standing : Standing seat request .start (cluster.world config) := ⟨tended.plain, near, begun⟩
  have before : Custody (cluster.world config).host := watched.custody config.node
  have served : Custody (Lvp.serve config request oracle (cluster.world config)).2.host ∧ _ :=
    serve_custody before standing tended.noted
  obtain ⟨custody, trusted, others⟩ := served
  refine ⟨fun node => ?_, fun name => ?_⟩
  · by_cases same : node = config.node
    · rw [same]
      show Custody (Function.update cluster.hosts config.node _ config.node)
      rw [Function.update_self]
      exact custody
    · show Custody (Function.update cluster.hosts config.node _ node)
      rw [Function.update_of_ne same]
      exact watched.custody node
  · by_cases own : name = request.volumeId
    · subst own
      rw [seats] at trusted
      exact trusted
    · have unaffected := others name own
      show Trusted name _ (Function.update cluster.hosts config.node _ (home name))
      by_cases same : home name = config.node
      · rw [same, Function.update_self]
        have before := watched.trusted name
        rw [same] at before
        exact Trusted.unaffected before unaffected
      · rw [Function.update_of_ne same]
        intro volume held
        exact watched.trusted name volume (unaffected.record.symm.trans held)

theorem serveAll {run : List (Config × Request × Oracle Call Fault)} (watched : Watched home cluster)
    (tended : ∀ step ∈ run, Tended home step) : Watched home (cluster.serveAll run) := by
  induction run generalizing cluster with
  | nil => exact watched
  | cons step rest ih =>
    obtain ⟨first, later⟩ := List.forall_mem_cons.mp tended
    exact ih (watched.serve first) later

end Watched

end Lvp
