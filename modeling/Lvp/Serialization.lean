import Lvp.ConfigMap
import Lvp.Format.Codec

/-!
A `Text` that writes what `serde_json` writes: the fields of a record in the order of the struct, without
blanks. It takes back what was written and refuses every other document, also some that `serde_json` reads;
nothing is proved of the plugin from that, since its theorems are about every `Text`.
-/

namespace Lvp
open Json Unix

/-! ### Enumerations -/

def Filesystem.spell : Filesystem → String
  | .ext4 => "ext4"
  | .xfs => "xfs"
  | .bind => "bind"

def VolumeState.spell : VolumeState → String
  | .«open» => "open"
  | .controllerPublished => "controller_published"
  | .nodePublished => "node_published"

def VolumeMode.spell : VolumeMode → String
  | .singleNodeWriter => "single_node_writer"
  | .singleNodeReader => "single_node_reader"
  | .singleNodeSingleWriter => "single_node_single_writer"
  | .singleNodeMultiWriter => "single_node_multi_writer"

def Filesystem.codec : Codec 0 Filesystem :=
  .variant [.ext4, .xfs, .bind] Filesystem.spell fun value => by cases value <;> decide

def VolumeState.codec : Codec 0 VolumeState :=
  .variant [.«open», .controllerPublished, .nodePublished] VolumeState.spell fun value => by cases value <;> decide

def VolumeMode.codec : Codec 0 VolumeMode :=
  .variant [.singleNodeWriter, .singleNodeReader, .singleNodeSingleWriter, .singleNodeMultiWriter] VolumeMode.spell
    fun value => by cases value <;> decide

/-! ### Records -/

def VolumeConfig.codec : Codec 1 VolumeConfig where
  write config := .object [("mode", VolumeMode.codec.write config.mode)]
  read json :=
    match entries ["mode"] json with
    | some [mode] => (VolumeMode.codec.read mode).map VolumeConfig.mk
    | _ => none
  read_write config := by
    simp [entries, VolumeMode.codec.read_write config.mode]
  fits config := by
    rw [Fits]
    rintro field member
    obtain rfl := List.mem_singleton.mp member
    exact VolumeMode.codec.fits config.mode

/-- `Option<String>` and `Option<PathBuf>`. -/
def optionalText : Codec 0 (Option String) := .option .text nofun

def optionalConfig : Codec 1 (Option VolumeConfig) := .option VolumeConfig.codec nofun

def configList : Codec 2 (List VolumeConfig) := .list VolumeConfig.codec

def pathList : Codec 1 (List Path) := .list .text

namespace Volume

def fields (volume : Volume) : List (String × Json) :=
  [("name", Codec.text.write volume.name),
   ("size", Codec.word.write volume.size),
   ("assigned_node_id", optionalText.write volume.assignedNodeId),
   ("state", VolumeState.codec.write volume.state),
   ("published_readonly", Codec.flag.write volume.publishedReadonly),
   ("published_config", optionalConfig.write volume.publishedConfig),
   ("filesystem", Filesystem.codec.write volume.filesystem),
   ("valid_configs", configList.write volume.validConfigs),
   ("loop_device", optionalText.write volume.loopDevice),
   ("mount_paths", pathList.write volume.mountPaths),
   ("host_path", Codec.text.write volume.hostPath)]

def fieldNames : List String :=
  ["name", "size", "assigned_node_id", "state", "published_readonly", "published_config", "filesystem",
    "valid_configs", "loop_device", "mount_paths", "host_path"]

def ofJson (json : Json) : Option Volume :=
  match entries fieldNames json with
  | some [name, size, assignedNodeId, state, publishedReadonly, publishedConfig, filesystem, validConfigs,
      loopDevice, mountPaths, hostPath] => do
    let name ← Codec.text.read name
    let size ← Codec.word.read size
    let assignedNodeId ← optionalText.read assignedNodeId
    let state ← VolumeState.codec.read state
    let publishedReadonly ← Codec.flag.read publishedReadonly
    let publishedConfig ← optionalConfig.read publishedConfig
    let filesystem ← Filesystem.codec.read filesystem
    let validConfigs ← configList.read validConfigs
    let loopDevice ← optionalText.read loopDevice
    let mountPaths ← pathList.read mountPaths
    let hostPath ← Codec.text.read hostPath
    some ⟨name, size, assignedNodeId, state, publishedReadonly, publishedConfig, filesystem, validConfigs,
      loopDevice, mountPaths, hostPath⟩
  | _ => none

theorem ofJson_fields (volume : Volume) : ofJson (.object volume.fields) = some volume := by
  have listed : entries fieldNames (.object volume.fields) = some (volume.fields.map (·.2)) :=
    entries_object volume.fields
  rw [ofJson, listed]
  simp [fields, Codec.read_write]

theorem fields_fit (volume : Volume) : ∀ field ∈ volume.fields, field.2.Fits 3 := by
  have each {depth : Nat} {α : Type} (codec : Codec depth α) (value : α) (low : depth ≤ 3) :
      (codec.write value).Fits 3 := (codec.fits value).mono low
  simp only [fields, List.forall_mem_cons, List.not_mem_nil, false_implies, implies_true, and_true]
  refine ⟨?_, ?_, ?_, ?_, ?_, ?_, ?_, ?_, ?_, ?_, ?_⟩ <;> exact each _ _ (by decide)

def codec : Codec 4 Volume where
  write volume := .object volume.fields
  read := ofJson
  read_write := ofJson_fields
  fits volume := by
    rw [Fits]
    exact volume.fields_fit

end Volume

/-! ### Documents -/

/-- `Option<Volume>`, which is what `load` reads. -/
def optionalVolume : Codec 4 (Option Volume) := .option Volume.codec nofun

/-- Documents without blanks. -/
def compact : Text where
  print volume := (Volume.codec.write volume).print
  parse document := (Json.parse document).bind Volume.codec.read
  parseOption document := (Json.parse document).bind optionalVolume.read
  parse_print volume := by
    rw [Json.parse_print (Volume.codec.fits volume)]
    exact Volume.codec.read_write volume
  parseOption_some document volume := by
    simp only [Option.bind_eq_some_iff]
    exact exists_congr fun json => and_congr_right fun _ => Codec.option_read_some Volume.codec nofun rfl

/-- A record as it is after its creation. -/
def Sample.stored : Volume :=
  ⟨"data", 4096, none, .«open», false, none, .ext4, [⟨.singleNodeWriter⟩], none, [], "srv/data"⟩

end Lvp
