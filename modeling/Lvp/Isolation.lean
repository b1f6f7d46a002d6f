import Lvp.Custody

/-! Volumes side by side. A name is unique in the store, but the data of a volume lies below a base
path that every CreateVolume chooses for itself, and a base path may lead into another volume. -/

namespace Lvp
open Unix Effect Csi

variable {config : Config}

/-- The paths a call removes, truncates, formats, attaches or bind-mounts. To mount a device names no path: what
the mount shows is its `content`. -/
def Call.touches : Call → List Path
  | .removeFile path | .removeDirAll path | .createFile path | .ftruncate path _ => [path]
  | .command ["mkfs.ext4", path] | .command ["mkfs.xfs", path] => [path]
  | .command ["chroot", _, "losetup", "--show", "-L", "-f", path] => [path]
  | .command ["mount", "bind", "-r", path, _] | .command ["mount", "bind", path, _] => [path]
  | _ => []

theorem touches_mountCommand (readonly : Bool) (device target : Path) :
    (Call.command (["chroot", "/chr"] ++ mountCommand false readonly device target)).touches = [] := by
  cases readonly <;> rfl

theorem touches_mountBind (readonly : Bool) (source target : Path) :
    (Call.command (mountCommand true readonly source target)).touches = [source] := by
  cases readonly
  · simp [mountCommand, Call.touches]
  · rfl

theorem Footprint.touches {I : Volume → Prop} {request : Request} {call : Call} {path : Path}
    (footprint : Footprint config I request call) (touched : path ∈ call.touches) :
    ∃ volume, I volume ∧ path ∈ backingPaths config volume := by
  cases footprint with
  | removeDirectory loaded | removeFile loaded | lengthen loaded =>
    have same := List.mem_singleton.mp touched
    exact ⟨_, loaded, by simp [backingPaths, dataPaths, same]⟩
  | makeFile loaded | size loaded | mkfsExt4 loaded | mkfsXfs loaded =>
    have same := List.mem_singleton.mp touched
    exact ⟨_, loaded, by simp [backingPaths, dataPaths, same]⟩
  | attach loaded =>
    have same := List.mem_singleton.mp touched
    exact ⟨_, loaded, by simp [backingPaths, same]⟩
  | mountBind loaded =>
    rw [touches_mountBind] at touched
    have same := List.mem_singleton.mp touched
    exact ⟨_, loaded, by simp [backingPaths, same]⟩
  | mount loaded =>
    rw [touches_mountCommand] at touched
    cases touched
  | _ => cases touched

/-! ### Where the data lies -/

/-- The volume was created with this base path, which has a name in it. -/
structure Placed (base : String) (volume : Volume) : Prop where
  path : volume.hostPath = hostPath base volume.name
  filled : stripSlashes base ≠ ""

theorem Placed.resolve {base : String} {volume : Volume} (placed : Placed base volume)
    (rooted : isAbsolute config.hostPrefix) (plain : ObjectName volume.name)
    (valid : ¬InvalidName volume.name) (named : volume.name ≠ "") (cwd : Location) {path : Path}
    (member : path ∈ backingPaths config volume) :
    Unix.resolve cwd path = baseDirectory config cwd base ++ [volume.name] := by
  have filled : config.hostPrefix ≠ "" := by
    intro empty
    simp [empty, isAbsolute] at rooted
  have start : ¬StartsBlank (config.hostPrefix ++ stripSlashes base) := by
    rw [startsBlank_append _ filled]
    exact isAbsolute_startsBlank rooted
  have one := (filled_paths named placed.path placed.filled).mpr ⟨plain.endsBlank, start⟩ path member
  rw [resolve_same one cwd, resolve_hostPath cwd (noParent_of_valid valid) placed.filled,
    names_object plain valid named]

theorem nested_iff {a b : String} {directory other : Location} (different : a ≠ b) :
    directory ++ [a] <+: other ++ [b] ↔ directory ++ [a] <+: other := by
  rw [List.prefix_concat_iff]
  constructor
  · intro either
    rcases either with same | nested
    · obtain ⟨-, last⟩ := List.append_inj' same rfl
      exact absurd (List.singleton_inj.mp last) different
    · exact nested
  · exact Or.inr

theorem nameOk_invariant : Invariant (fun volume => ¬InvalidName volume.name ∧ volume.name ≠ "") where
  created built := by
    obtain ⟨_, _, _, rfl, -, valid, named⟩ := newVolume_ok built
    exact ⟨valid, named⟩
  rewritten rewrite nameOk := by
    rw [rewrite.name]
    exact nameOk

theorem SameOrigin.backingPaths {origin volume : Volume} (same : SameOrigin origin volume) :
    backingPaths config volume = backingPaths config origin := by
  obtain ⟨-, -, -, path⟩ := same
  simp [Lvp.backingPaths, dataPaths, publishPath, recordPath, path]

theorem served_touches {world : World} {volume : Volume} {request : Request} {oracle : Oracle Call Fault}
    (ok : StoreOk (fun _ => True) world.store) (found : world.store.lookup volume.key = some volume)
    (about : request.volumeId = volume.name) {visit : World × Call}
    (member : visit ∈ served config request oracle world) {path : Path} (touched : path ∈ visit.2.touches) :
    path ∈ backingPaths config volume := by
  have origin : StoreOk (FromOrigin volume) world.store :=
    storeOk_origin ok found ⟨rfl, rfl, rfl, rfl, rfl⟩
  have present : volume.key ∈ world.store := AList.lookup_isSome.mp (by rw [found]; rfl)
  obtain ⟨loaded, ⟨named, from_⟩, member⟩ := ((serve_origin origin present oracle).2 visit member).touches touched
  rw [← (from_ (named.trans about)).backingPaths]
  exact member

/-- Create, publish and mount a volume. -/
def Sample.setUp (name target : String) : List (Config × Request × Oracle Call Fault) :=
  [(Sample.config, create name "/pv2/" "ext4" 1, healthy), (Sample.config, publish name 1, healthy),
    (Sample.config, nodePublish name target 1, healthy)]

def Sample.siblings : List (Config × Request × Oracle Call Fault) := setUp "a" "/t" ++ setUp "b" "/u"

def Sample.mountedVolume (name base device target : String) : Volume :=
  { freshVolume (createRequest name base "ext4" 1) base .ext4 [⟨.singleNodeWriter⟩] with
    state := .nodePublished
    loopDevice := some device
    assignedNodeId := some "ho.me"
    publishedConfig := some ⟨.singleNodeWriter⟩
    mountPaths := [target] }

def Sample.first : Volume := mountedVolume "a" "/pv2/" "/dev/loop0\n" "/t"

def Sample.second : Volume := mountedVolume "b" "/pv2/" "/dev/loop1\n" "/u"

theorem Sample.setUp_tended {name target : String} (plain : ObjectName name) :
    ∀ step ∈ setUp name target, Tended (fun _ => "ho.me") step := by
  intro step member
  simp only [setUp, List.mem_cons, List.not_mem_nil, or_false] at member
  rcases member with rfl | rfl | rfl
  · exact ⟨plain, nofun, fun _ _ => trivial⟩
  · exact ⟨trivial, nofun, fun _ _ => trivial⟩
  · exact ⟨trivial, fun _ => rfl, fun _ _ => trivial⟩

/-- The base path of `b` is the path of `a`, and `b` is mounted. -/
def Sample.nested : World :=
  serveAll Sample.config ⟨∅, {}⟩
    [(create "a" "x" "bind" 1, healthy), (create "b" "x/a" "ext4" 1, healthy), (publish "b" 1, healthy),
      (nodePublish "b" "/t" 1, healthy)]

def Sample.outer : Volume := freshVolume (createRequest "a" "x" "bind" 1) "x" .bind [⟨.singleNodeWriter⟩]

def Sample.inner : Volume := mountedVolume "b" "x/a" "/dev/loop0\n" "/t"

end Lvp
