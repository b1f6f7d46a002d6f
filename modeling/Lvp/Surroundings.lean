import Lvp.Unix.Tree
import Lvp.Backing
import Lvp.Effect.Contract
import Lvp.Reconciliation
import Lvp.Refinement
import Lvp.Rpc
import Lvp.Unpublishing

/-!
What the plugin leaves alone on a host. Everything it removes, truncates or formats is the data of some volume;
apart from that it makes missing directories, takes away empty target directories, and mounts and unmounts at
targets.
-/

namespace Lvp
open Unix Effect Csi

/-! ### Where a deployment works -/

section Sites
variable (cluster : Cluster) (schedule : List (Move (Config × Request) Call Fault)) (node : String)

/-- Host paths of volumes that are stored at the start or that a request of the schedule creates. -/
inductive Chosen : String → Prop where
  | stored {key : String} {volume : Volume} (held : cluster.store.lookup key = some volume) : Chosen volume.hostPath
  | created {config : Config} {r : CreateVolumeRequest} {volume : Volume}
      (taken : .start (config, .createVolume r) ∈ schedule) (built : newVolume r = .ok volume) :
      Chosen volume.hostPath

/-- A request of the schedule, taken by an instance on the node. -/
def Taken (config : Config) (request : Request) : Prop := .start (config, request) ∈ schedule ∧ config.node = node

/-- Paths at which an instance on the node looks for data. -/
def Data (path : Path) : Prop :=
  ∃ config request volume, Taken schedule node config request ∧ Chosen cluster schedule volume.hostPath ∧
    path ∈ dataPaths config volume

/-- Paths for which an instance on the node may make directories. -/
inductive Opened : Path → Prop where
  | target {config : Config} {r : NodePublishVolumeRequest}
      (taken : Taken schedule node config (.nodePublishVolume r)) :
      Opened r.targetPath
  | data {path : Path} (data : Data cluster schedule node path) : Opened path
  | above {path directory : Path} (data : Data cluster schedule node path) (above : parent path = some directory) :
      Opened directory

inductive Addressed : Path → Prop where
  | published {config : Config} {r : NodePublishVolumeRequest}
      (taken : Taken schedule node config (.nodePublishVolume r)) :
      Addressed (trim r.targetPath)
  | unpublished {config : Config} {r : NodeUnpublishVolumeRequest}
      (taken : Taken schedule node config (.nodeUnpublishVolume r)) : Addressed (trim r.targetPath)

variable (location : Location)

/-- There is data at the location, or the location is inside it. -/
def Occupied : Prop := ∃ path, Data cluster schedule node path ∧ resolve (cluster.hosts node).cwd path <+: location

def Entered : Prop := ∃ path, Opened cluster schedule node path ∧ location ∈ trail (cluster.hosts node).cwd path

def Withdrawn : Prop :=
  ∃ config r, Taken schedule node config (.nodeUnpublishVolume r) ∧
    resolve (cluster.hosts node).cwd r.targetPath = location

/-- What may become of a location without data: a directory is made on the way to a target or to data, or the
empty directory of a target goes. -/
inductive Passing : Option Unix.Node → Option Unix.Node → Prop where
  | same (found : Option Unix.Node) : Passing found found
  | made (entered : Entered cluster schedule node location) : Passing none (some .directory)
  | removed (withdrawn : Withdrawn cluster schedule node location) : Passing (some .directory) none

end Sites

variable {cluster : Cluster} {schedule : List (Move (Config × Request) Call Fault)} {node : String}
  {location : Location}

theorem Passing.trans {before middle after : Option Unix.Node}
    (first : Passing cluster schedule node location before middle)
    (second : Passing cluster schedule node location middle after) :
    Passing cluster schedule node location before after := by
  cases first with
  | same => exact second
  | made entered =>
    cases second with
    | same => exact .made entered
    | removed => exact .same none
  | removed withdrawn =>
    cases second with
    | same => exact .removed withdrawn
    | made => exact .same _

/-! ### One call -/

section Calls
variable {config : Config} {request : Request} {call : Call} {world : World} {owner : String}

theorem perform_createDirAll {path : Path} (opened : Opened cluster schedule node path)
    (cwd : world.host.cwd = (cluster.hosts node).cwd) :
    Passing cluster schedule node location (world.host.node location)
      ((world.perform owner (.createDirAll path)).2.host.node location) := by
  have made := Host.createDirAll_trail world.host path location
  show Passing _ _ _ _ _ ((world.host.createDirAll path).2.node location)
  rcases made with same | ⟨along, absent, directory⟩
  · rw [same]
    exact .same _
  · rw [absent, directory]
    rw [cwd] at along
    exact .made ⟨path, opened, along⟩

theorem perform_removeDir {r : NodeUnpublishVolumeRequest}
    (taken : Taken schedule node config (.nodeUnpublishVolume r))
    (cwd : world.host.cwd = (cluster.hosts node).cwd) :
    Passing cluster schedule node location (world.host.node location)
      ((world.perform owner (.removeDir r.targetPath)).2.host.node location) := by
  have removed := Host.removeDir_elsewhere world.host r.targetPath location
  show Passing _ _ _ _ _ ((world.host.removeDir r.targetPath).2.node location)
  rcases removed with same | ⟨here, directory, absent⟩
  · rw [same]
    exact .same _
  · rw [directory, absent]
    rw [Host.resolve, cwd] at here
    exact .removed ⟨config, r, taken, here⟩

/-- The files a command line formats. -/
def Formats (argv : List String) (path : Path) : Prop := argv = ["mkfs.ext4", path] ∨ argv = ["mkfs.xfs", path]

theorem perform_command {argv : List String} (unrooted : argv.head? = some "chroot" → ∀ path,
    ¬Formats (argv.drop 2) path)
    (apart : ∀ path, Formats argv path → world.host.resolve path ≠ location) :
    Passing cluster schedule node location (world.host.node location)
      ((world.perform owner (.command argv)).2.host.node location) := by
  have same : (world.host.command owner argv).2.node location = world.host.node location := by
    apply Host.command_elsewhere
    intro rest shape path formats
    rcases shape with rfl | ⟨root, rfl⟩
    · exact apart path formats
    · exact absurd formats (unrooted rfl path)
  show Passing _ _ _ _ _ ((world.host.command owner argv).2.node location)
  rw [same]
  exact .same _

/-- The one command line that writes to a file formats the data of a volume. -/
theorem Footprint.formats {I : Volume → Prop} {argv : List String}
    (fits : Footprint config I request (.command argv)) :
    (argv.head? = some "chroot" → ∀ path, ¬Formats (argv.drop 2) path) ∧
      ∀ path, Formats argv path → ∃ volume, I volume ∧ publishPath config volume = path := by
  unfold Formats
  cases fits with
  | mkfsExt4 loaded =>
    refine ⟨by simp, fun path formats => ⟨_, loaded, ?_⟩⟩
    simpa using formats
  | mkfsXfs loaded =>
    refine ⟨by simp, fun path formats => ⟨_, loaded, ?_⟩⟩
    simpa using formats
  | @mount r volume =>
    constructor <;> cases (r.readonly || volume.publishedReadonly) <;> simp [mountCommand]
  | @mountBind r volume =>
    constructor <;> cases (r.readonly || volume.publishedReadonly) <;> simp [mountCommand]
  | _ => constructor <;> simp

theorem Footprint.passing (fits : Footprint config (fun volume => Chosen cluster schedule volume.hostPath) request call)
    (taken : Taken schedule node config request) (cwd : world.host.cwd = (cluster.hosts node).cwd)
    (free : ¬Occupied cluster schedule node location) :
    Passing cluster schedule node location (world.host.node location)
      ((world.perform owner call).2.host.node location) := by
  have data {volume : Volume} {path : Path} (loaded : Chosen cluster schedule volume.hostPath)
      (member : path ∈ dataPaths config volume) : Data cluster schedule node path :=
    ⟨config, request, volume, taken, loaded, member⟩
  have outside {volume : Volume} {path : Path} (loaded : Chosen cluster schedule volume.hostPath)
      (member : path ∈ dataPaths config volume) : ¬world.host.resolve path <+: location := by
    intro inside
    rw [Host.resolve, cwd] at inside
    exact free ⟨path, data loaded member, inside⟩
  have apart {volume : Volume} {path : Path} (loaded : Chosen cluster schedule volume.hostPath)
      (member : path ∈ dataPaths config volume) : world.host.resolve path ≠ location := by
    intro here
    exact outside loaded member (here ▸ List.prefix_refl _)
  have published (volume : Volume) : publishPath config volume ∈ dataPaths config volume := by simp [dataPaths]
  have recorded (volume : Volume) : recordPath config volume ∈ dataPaths config volume := by simp [dataPaths]
  have kept {after : Host} (same : after.node location = world.host.node location) :
      Passing cluster schedule node location (world.host.node location) (after.node location) := by
    rw [same]
    exact .same _
  cases shape : call with
  | command argv =>
    subst shape
    obtain ⟨unrooted, formatted⟩ := fits.formats
    refine perform_command unrooted fun path formats => ?_
    obtain ⟨volume, loaded, rfl⟩ := formatted path formats
    exact apart loaded (published volume)
  | create key volume | patch key volume | delete key =>
    rw [World.perform]
    split <;> exact .same _
  | createDirAll path =>
    subst shape
    cases fits with
    | mountpoint => exact perform_createDirAll (.target taken) cwd
    | makeDirectory loaded => exact perform_createDirAll (.data (data loaded (published _))) cwd
    | makeParent loaded above => exact perform_createDirAll (.above (data loaded (published _)) above) cwd
  | removeDir path =>
    subst shape
    cases fits with
    | removeMountpoint => exact perform_removeDir taken cwd
  | createFile path =>
    subst shape
    cases fits with
    | makeFile loaded => exact kept (Host.createFile_elsewhere (apart loaded (published _)))
  | ftruncate path length =>
    subst shape
    cases fits with
    | size loaded => exact kept (Host.ftruncate_elsewhere (apart loaded (published _)))
    | lengthen loaded => exact kept (Host.ftruncate_elsewhere (apart loaded (recorded _)))
  | removeFile path =>
    subst shape
    cases fits with
    | removeFile loaded => exact kept (Host.removeFile_elsewhere (apart loaded (recorded _)))
  | removeDirAll path =>
    subst shape
    cases fits with
    | removeDirectory loaded => exact kept (Host.removeDirAll_elsewhere (outside loaded (recorded _)))
  | _ => exact .same _

/-! ### Mounts -/

/-- The mounts at a location, the newest first. -/
def mountsAt (host : Host) (location : Location) : List Mount :=
  host.mounts.filter fun mount => host.resolve mount.target = location

theorem mountsAt_same {host after : Host} (tables : after.mounts = host.mounts ∧ after.cwd = host.cwd) :
    mountsAt after location = mountsAt host location := by
  obtain ⟨mounts, cwd⟩ := tables
  unfold mountsAt Host.resolve
  rw [mounts, cwd]

theorem command_mountsAt {host : Host} {argv : List String}
    (apart : ∀ target, deed argv = .mounts target ∨ deed argv = .unmounts target → host.resolve target ≠ location) :
    mountsAt (host.command owner argv).2 location = mountsAt host location := by
  cases remounts : (Call.command argv).remounts with
  | false => exact mountsAt_same (command_mounts remounts)
  | true =>
    cases ran : host.command owner argv with
    | mk answer after =>
      cases answer with
      | error error => rw [Host.command_failed ran]
      | ok output =>
        have done := Host.command_done ran
        simp only [Call.remounts] at remounts
        have seen (cwd : after.cwd = host.cwd) :
            mountsAt after location = after.mounts.filter fun mount => host.resolve mount.target = location := by
          unfold mountsAt Host.resolve
          rw [cwd]
        cases shape : deed argv with
        | mounts target =>
          rw [shape] at done
          obtain ⟨⟨source, content, readonly, mounts⟩, -, cwd⟩ := done
          have other := apart target (Or.inl shape)
          rw [seen cwd, mounts, List.filter_cons_of_neg (by simpa using other), mountsAt]
        | unmounts target =>
          rw [shape] at done
          obtain ⟨-, mounts, -, cwd⟩ := done
          have other := apart target (Or.inr shape)
          rw [seen cwd, mounts, mountsAt]
          apply filter_eraseP_apart
          intro mount _ there
          simpa [of_decide_eq_true there] using other
        | _ => simp [shape] at remounts

theorem Footprint.addressed {I : Volume → Prop} {argv : List String} {target : Path}
    (fits : Footprint config I request (.command argv)) (taken : Taken schedule node config request)
    (names : deed argv = .mounts target ∨ deed argv = .unmounts target) : Addressed schedule node target := by
  cases fits with
  | @mount r volume =>
    rw [deed_mount] at names
    have same : trim r.targetPath = target := by simpa using names
    exact same ▸ .published taken
  | @mountBind r volume =>
    rw [deed_mountBind] at names
    have same : trim r.targetPath = target := by simpa using names
    exact same ▸ .published taken
  | @umount r volume =>
    have same : trim r.targetPath = target := by simpa [deed, utilityDeed] using names
    exact same ▸ .unpublished taken
  | _ => simp [deed, utilityDeed] at names

theorem Footprint.mountsAt {I : Volume → Prop} (fits : Footprint config I request call)
    (taken : Taken schedule node config request)
    (apart : ∀ target, Addressed schedule node target → world.host.resolve target ≠ location) :
    Lvp.mountsAt (world.perform owner call).2.host location = Lvp.mountsAt world.host location := by
  cases shape : call with
  | command argv =>
    subst shape
    exact command_mountsAt fun target names => apart target (fits.addressed taken names)
  | _ => exact mountsAt_same (perform_mounts rfl)

theorem perform_cwd (world : World) (owner : String) (call : Call) :
    (world.perform owner call).2.host.cwd = world.host.cwd := by
  cases call with
  | command argv => exact (Host.command_grows world.host owner argv).cwd
  | _ => exact (perform_mounts rfl).2

end Calls

/-! ### Everything at once -/

/-- What the node still has, as far as no data is there and no request names the location. -/
structure Intact (cluster : Cluster) (schedule : List (Move (Config × Request) Call Fault)) (node : String)
    (location : Location) (now : Cluster) : Prop where
  chosen : ∀ key volume, now.store.lookup key = some volume → Chosen cluster schedule volume.hostPath
  cwd : (now.hosts node).cwd = (cluster.hosts node).cwd
  files : ¬Occupied cluster schedule node location →
    Passing cluster schedule node location ((cluster.hosts node).node location) ((now.hosts node).node location)
  mounts : (∀ target, Addressed schedule node target → resolve (cluster.hosts node).cwd target ≠ location) →
    mountsAt (now.hosts node) location = mountsAt (cluster.hosts node) location

theorem Rewrite.hostPath {v w : Volume} (rewrite : Rewrite v w) : w.hostPath = v.hostPath :=
  (rewrite.sameOrigin ⟨rfl, rfl, rfl, rfl⟩ : SameOrigin v w).2.2.2

theorem Footprint.chosen {config : Config} {request : Request} {call : Call} {world : World} {owner : String}
    (fits : Footprint config (fun volume => Chosen cluster schedule volume.hostPath) request call)
    (taken : .start (config, request) ∈ schedule)
    (chosen : ∀ key volume, world.store.lookup key = some volume → Chosen cluster schedule volume.hostPath) :
    ∀ key volume, (world.perform owner call).2.store.lookup key = some volume →
      Chosen cluster schedule volume.hostPath := by
  have written {key : String} {volume : Volume} (own : Chosen cluster schedule volume.hostPath) :
      ∀ other found, (world.store.insert key volume).lookup other = some found →
        Chosen cluster schedule found.hostPath := by
    intro other found held
    by_cases same : other = key
    · rw [same, AList.lookup_insert] at held
      exact Option.some.inj held ▸ own
    · rw [AList.lookup_insert_ne same] at held
      exact chosen other found held
  cases fits with
  | create built =>
    rw [World.perform]
    split
    · exact chosen
    · exact written (.created taken built)
  | write loaded rewrite =>
    rw [World.perform]
    split
    · exact written (rewrite.hostPath ▸ loaded)
    · exact chosen
  | @delete r volume =>
    rw [World.perform]
    split
    · intro key found held
      by_cases same : key = volume.key
      · rw [same, AList.lookup_erase] at held
        cases held
      · rw [AList.lookup_erase_ne same] at held
        exact chosen key found held
    · exact chosen
  | load => exact chosen
  | _ =>
    rw [perform_store rfl]
    exact chosen

def intactTerms (cluster : Cluster) (schedule : List (Move (Config × Request) Call Fault)) (node : String)
    (location : Location) : Terms (Config × Request) Call Call.Answer Status Reply Cluster where
  fits served := Footprint served.1 (fun volume => Chosen cluster schedule volume.hostPath) served.2
  promise served := Loads served.2.volumeId fun volume => Chosen cluster schedule volume.hostPath
  post _ _ := True
  fail _ _ := True
  valid := Intact cluster schedule node location

theorem Intact.loads {now : Cluster} (intact : Intact cluster schedule node location now)
    (served : Config × Request) (fault : Fault) (call : Call) :
    Loads served.2.volumeId (fun volume => Chosen cluster schedule volume.hostPath) call
      (now.exec served fault call).1 := by
  cases call with
  | getOpt key =>
    intro _ volume answer
    cases fault with
    | none => exact intact.chosen key volume (Except.ok.inj answer)
    | fails | lost => cases answer
  | _ => trivial

theorem Intact.performed {now : Cluster} {served : Config × Request} {call : Call}
    (intact : Intact cluster schedule node location now) (taken : .start served ∈ schedule)
    (fits : Footprint served.1 (fun volume => Chosen cluster schedule volume.hostPath) served.2 call) :
    Intact cluster schedule node location (now.exec served .none call).2 := by
  obtain ⟨config, request⟩ := served
  have chosen : ∀ key volume, ((now.world config).perform request.volumeId call).2.store.lookup key = some volume →
      Chosen cluster schedule volume.hostPath := fits.chosen taken intact.chosen
  by_cases here : config.node = node
  · subst here
    have own : (now.exec (config, request) .none call).2.hosts config.node =
        ((now.world config).perform request.volumeId call).2.host := Function.update_self _ _ _
    have cwd : (now.world config).host.cwd = (cluster.hosts config.node).cwd := intact.cwd
    refine ⟨chosen, ?_, fun free => ?_, fun apart => ?_⟩
    · rw [own, perform_cwd]
      exact intact.cwd
    · rw [own]
      exact (intact.files free).trans (fits.passing ⟨taken, rfl⟩ cwd free)
    · rw [own, fits.mountsAt ⟨taken, rfl⟩]
      · exact intact.mounts apart
      · intro target addressed
        rw [Host.resolve, cwd]
        exact apart target addressed
  · have other : (now.exec (config, request) .none call).2.hosts node = now.hosts node :=
      Function.update_of_ne (Ne.symm here) _ _
    refine ⟨chosen, ?_, ?_, ?_⟩
    · rw [other]
      exact intact.cwd
    · rw [other]
      exact intact.files
    · rw [other]
      exact intact.mounts

theorem intact_sound : (intactTerms cluster schedule node location).Sound (fun served => .start served ∈ schedule)
    Cluster.exec fun served => handle served.1 served.2 where
  bodies {served} _ := by
    refine handle_keeps ?_ served.2
    exact fun _ _ _ chosen => chosen
  step {served fault now call} taken intact fits := by
    refine ⟨intact.loads served fault call, ?_⟩
    cases fault with
    | fails =>
      have same : (now.exec served .fails call).2 = now := now.update_world served.1
      rw [same]
      exact intact
    | none => exact intact.performed taken fits
    | lost => exact intact.performed taken fits

/-- Whatever is in flight and whatever fails: a location without data of a volume only sees directories made on the
way to data or to a target, and the empty directory of a target taken away; the mounts at a location that no request
names stay as they are. -/
theorem surroundings_kept (cluster : Cluster) (schedule : List (Move (Config × Request) Call Fault)) (node : String)
    (location : Location) :
    (¬Occupied cluster schedule node location →
      Passing cluster schedule node location ((cluster.hosts node).node location)
        (((cluster.deploy schedule).world.hosts node).node location)) ∧
    ((∀ target, Addressed schedule node target → resolve (cluster.hosts node).cwd target ≠ location) →
      mountsAt ((cluster.deploy schedule).world.hosts node) location = mountsAt (cluster.hosts node) location) := by
  have start : Upheld (intactTerms cluster schedule node location) (fun served => .start served ∈ schedule)
      (⟨cluster, []⟩ : Deployment) := by
    refine ⟨⟨fun key volume held => .stored held, rfl, fun _ => .same _, fun _ => rfl⟩, by simp⟩
  have intact := (start.play intact_sound fun _ member => member).valid
  exact ⟨intact.files, intact.mounts⟩

theorem Passing.file {length : Nat} {format : Option String} {after : Option Unix.Node}
    (passing : Passing cluster schedule node location (some (.file length format)) after) :
    after = some (.file length format) := by
  cases passing
  rfl

/-- A file of somebody else's below the prefix. -/
def Sample.notes : Cluster := ⟨∅, fun _ => { files := AList.singleton ["host", "notes"] (.file 3 none) }⟩

theorem Sample.lifecycle_taken {config : Config} {request : Request}
    (taken : .start (config, request) ∈ lifecycle) :
    config = Sample.config ∧ (request = create "a" "/pv2/" "ext4" 1 ∨ request = publish "a" 1 ∨
      request = nodePublish "a" "/t" 1) := by
  simp only [lifecycle, steps, List.mem_append, List.mem_singleton, List.mem_replicate, reduceCtorEq, and_false,
    or_false, Move.start.injEq, Prod.mk.injEq] at taken
  rcases taken with ((⟨rfl, rfl⟩ | ⟨rfl, rfl⟩) | ⟨rfl, rfl⟩) | ⟨rfl, rfl⟩ <;> simp

theorem Sample.lifecycle_data {path : Path} (data : Data notes lifecycle "ho.me" path) : path = "/host/pv2/a" := by
  obtain ⟨config, request, volume, ⟨taken, -⟩, chosen, member⟩ := data
  obtain ⟨rfl, -⟩ := lifecycle_taken taken
  have placed : volume.hostPath = "pv2/a" := by
    generalize volume.hostPath = hostPath at chosen
    cases chosen with
    | stored held => cases held
    | @created config r volume taken built =>
      obtain ⟨-, same | same | same⟩ := lifecycle_taken taken
      · cases same
        cases built
        rfl
      · cases same
      · cases same
  simp only [dataPaths, publishPath, recordPath, placed, List.mem_cons, List.not_mem_nil, or_false] at member
  rcases member with rfl | rfl <;> decide

theorem surroundings_kept_notes :
    ((Sample.notes.deploy Sample.lifecycle).world.hosts "ho.me").node ["host", "notes"] = some (.file 3 none) := by
  have free : ¬Occupied Sample.notes Sample.lifecycle "ho.me" ["host", "notes"] := by
    rintro ⟨path, data, inside⟩
    obtain rfl := Sample.lifecycle_data data
    revert inside
    decide
  exact ((surroundings_kept Sample.notes Sample.lifecycle "ho.me" ["host", "notes"]).1 free).file

end Lvp
