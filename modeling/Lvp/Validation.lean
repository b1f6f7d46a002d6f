import Lvp.Controller

/-!
What CreateVolume makes of parameters and capabilities. Two loops with early exits thread one filesystem
through a map and a list; `Acceptable` says without any order what they accept.
-/

namespace Lvp
open Unix Csi

variable {capability : VolumeCapability} {capabilities : List VolumeCapability} {configs : List VolumeConfig}
  {filesystem : Option Filesystem} {r : CreateVolumeRequest} {volume : Volume}

def filesystemName : Filesystem → String
  | .ext4 => "ext4"
  | .xfs => "xfs"
  | .bind => "bind"

/-- The access modes that a volume can be created for. -/
inductive Supports : Mode → VolumeMode → Prop where
  | singleNodeWriter : Supports .singleNodeWriter .singleNodeWriter
  | singleNodeReader : Supports .singleNodeReaderOnly .singleNodeReader
  | singleNodeSingleWriter : Supports .singleNodeSingleWriter .singleNodeSingleWriter
  | singleNodeMultiWriter : Supports .singleNodeMultiWriter .singleNodeMultiWriter

/-- A mount without flags in a supported mode. -/
def Offers (capability : VolumeCapability) (config : VolumeConfig) : Prop :=
  ∃ accessMode mount, capability.accessMode = some accessMode ∧ capability.accessType = some (.mount mount) ∧
    mount.mountFlags = [] ∧ Supports accessMode.mode config.mode

/-- The filesystem a capability names; an empty text names none. -/
def fsNamed (capability : VolumeCapability) : Option String :=
  match capability.accessType with
  | some (.mount mount) => if mount.fsType = "" then none else some mount.fsType
  | _ => none

/-- All filesystems that a request names. -/
def filesystemsNamed (parameters : StringMap) (capabilities : List VolumeCapability) : List String :=
  (parameters.lookup "fs_type").toList ++ capabilities.filterMap fsNamed

structure Acceptable (parameters : StringMap) (capabilities : List VolumeCapability) : Prop where
  base : "host_base_path" ∈ parameters
  keys : ∀ key ∈ parameters, key = "host_base_path" ∨ key = "fs_type"
  offered : ∀ capability ∈ capabilities, ∃ config, Offers capability config
  known : ∀ text ∈ filesystemsNamed parameters capabilities, text = "ext4" ∨ text = "xfs" ∨ text = "bind"
  common : ∀ text ∈ filesystemsNamed parameters capabilities,
    ∀ other ∈ filesystemsNamed parameters capabilities, text = other

/-- The filesystem and the modes of the new record. -/
structure Resolved (parameters : StringMap) (capabilities : List VolumeCapability) (volume : Volume) : Prop where
  common : ∀ text ∈ filesystemsNamed parameters capabilities, text = filesystemName volume.filesystem
  unnamed : filesystemsNamed parameters capabilities = [] → volume.filesystem = .ext4
  modes : List.Forall₂ Offers capabilities volume.validConfigs

/-! ### One capability -/

theorem filesystemName_injective : Function.Injective filesystemName := by
  intro first second
  cases first <;> cases second <;> simp [filesystemName]

theorem parseFilesystem_ok {text : String} {parsed : Filesystem} :
    parseFilesystem text = .ok parsed ↔ text = filesystemName parsed := by
  unfold parseFilesystem
  cases parsed <;> (split_ifs <;> simp_all [filesystemName])

theorem parseMode_ok {mode : Mode} {parsed : VolumeMode} : parseMode mode = .ok parsed ↔ Supports mode parsed := by
  constructor
  · intro read
    cases mode <;> cases read <;> constructor
  · rintro (_ | _ | _ | _) <;> rfl

theorem parseVolumeCapability_mount {accessMode : AccessMode} {mount : MountVolume} {config : VolumeConfig} :
    parseVolumeCapability ⟨some accessMode, some (.mount mount)⟩ = .ok (config, filesystem) ↔
      (mount.mountFlags = [] ∧ parseMode accessMode.mode = .ok config.mode) ∧
        (if mount.fsType = "" then none else some mount.fsType) = filesystem.map filesystemName := by
  obtain ⟨mode⟩ := config
  obtain ⟨text, mountFlags⟩ := mount
  unfold parseVolumeCapability
  by_cases flags : mountFlags = []
  · by_cases empty : text = ""
    · cases parsed : parseMode accessMode.mode <;> cases filesystem <;>
        simp [bind, Except.bind, flags, empty, parsed]
    · cases named : parseFilesystem text with
      | error status =>
        have unknown : ∀ known, text ≠ filesystemName known := fun known same => by
          rw [parseFilesystem_ok.mpr same] at named
          cases named
        cases filesystem <;> simp [bind, Except.bind, empty, named, Except.map, unknown]
      | ok known =>
        obtain rfl := parseFilesystem_ok.mp named
        cases parsed : parseMode accessMode.mode <;> cases filesystem <;>
          simp [bind, Except.bind, flags, empty, parsed, named, Except.map, filesystemName_injective.eq_iff]
  · by_cases empty : text = ""
    · simp [bind, Except.bind, flags, empty]
    · cases named : parseFilesystem text <;> simp [bind, Except.bind, flags, empty, named, Except.map]

theorem parseVolumeCapability_ok {config : VolumeConfig} :
    parseVolumeCapability capability = .ok (config, filesystem) ↔
      Offers capability config ∧ fsNamed capability = filesystem.map filesystemName := by
  obtain ⟨accessMode, accessType⟩ := capability
  cases accessMode with
  | none => simp [parseVolumeCapability, Offers]
  | some accessMode =>
    cases accessType with
    | none => simp [parseVolumeCapability, Offers]
    | some accessType =>
      cases accessType with
      | block => simp [parseVolumeCapability, Offers]
      | mount mount =>
        have offers : Offers ⟨some accessMode, some (.mount mount)⟩ config ↔
            mount.mountFlags = [] ∧ parseMode accessMode.mode = .ok config.mode := by
          simp [Offers, parseMode_ok]
        rw [offers, fsNamed, parseVolumeCapability_mount]

/-! ### The two loops -/

def Agree {α : Type} (values : List α) : Prop := ∀ a ∈ values, ∀ b ∈ values, a = b

/-- The filesystems in capabilities that can be parsed. -/
def filesystemsParsed (capabilities : List VolumeCapability) : List Filesystem :=
  capabilities.filterMap fun capability => (parseVolumeCapability capability).toOption.bind (·.2)

def configsParsed (capabilities : List VolumeCapability) : List VolumeConfig :=
  capabilities.filterMap fun capability => (parseVolumeCapability capability).toOption.map (·.1)

theorem readCapabilities_ok {found : List VolumeConfig × Option Filesystem} :
    capabilities.foldlM readCapability (configs, filesystem) = .ok found ↔
      (∀ capability ∈ capabilities, ∃ parsed, parseVolumeCapability capability = .ok parsed) ∧
        Agree (filesystem.toList ++ filesystemsParsed capabilities) ∧
        found = (configs ++ configsParsed capabilities,
          (filesystem.toList ++ filesystemsParsed capabilities).head?) := by
  induction capabilities generalizing configs filesystem with
  | nil => cases filesystem <;> simp [Agree, filesystemsParsed, configsParsed, pure, Except.pure, eq_comm]
  | cons capability rest ih =>
    rw [List.foldlM_cons, List.forall_mem_cons]
    cases read : parseVolumeCapability capability with
    | error status => simp [readCapability, read, bind, Except.bind]
    | ok parsed =>
      obtain ⟨config, named⟩ := parsed
      have filesystems : filesystemsParsed (capability :: rest) = named.toList ++ filesystemsParsed rest := by
        cases named <;> simp [filesystemsParsed, read, Except.toOption]
      have offered : configsParsed (capability :: rest) = config :: configsParsed rest := by
        simp [configsParsed, read, Except.toOption]
      rw [filesystems, offered]
      have next (state : List VolumeConfig × Option Filesystem)
          (stepped : readCapability (configs, filesystem) capability = .ok state) :
          (readCapability (configs, filesystem) capability >>= fun state => rest.foldlM readCapability state) =
            rest.foldlM readCapability state := by
        rw [stepped]
        rfl
      cases filesystem with
      | none =>
        have stepped : readCapability (configs, none) capability = .ok (configs ++ [config], named) := by
          cases named <;> simp [readCapability, read, bind, Except.bind]
        rw [next _ stepped, ih]
        simp
      | some known =>
        by_cases conflict : ∃ other ∈ named, known ≠ other
        · obtain ⟨other, rfl, differs⟩ := conflict
          have refused : readCapability (configs, some known) capability =
              .error (.invalidArgument "conflicting filesystems specified") := by
            simp [readCapability, read, bind, Except.bind, differs]
          rw [refused]
          refine iff_of_false (fun equal => ?_) fun accepted => differs ?_
          · cases equal
          · exact accepted.2.1 known (by simp) other (by simp)
        · have same : ∀ other ∈ named, known = other := fun other member =>
            not_not.mp fun differs => conflict ⟨other, member, differs⟩
          have stepped : readCapability (configs, some known) capability =
              .ok (configs ++ [config], some known) := by
            cases named with
            | none => simp [readCapability, read, bind, Except.bind]
            | some other => simp [readCapability, read, bind, Except.bind, same other rfl]
          rw [next _ stepped, ih]
          cases named with
          | none => simp
          | some other =>
            obtain rfl := same other rfl
            simp [Agree]

def filesystemParsed (text : String) : Option Filesystem := (parseFilesystem text).toOption

@[simp] theorem filesystemParsed_name (known : Filesystem) :
    filesystemParsed (filesystemName known) = some known := by
  rw [filesystemParsed, parseFilesystem_ok.mpr rfl]
  rfl

theorem readParameters_ok {entries : List ((_ : String) × String)} {start found : Option String × Option Filesystem}
    (distinct : entries.NodupKeys) :
    entries.foldlM readParameter start = .ok found ↔
      (∀ entry ∈ entries, entry.1 = "host_base_path" ∨ entry.1 = "fs_type") ∧
        (∀ text ∈ entries.dlookup "fs_type", ∃ known, text = filesystemName known) ∧
        found = ((entries.dlookup "host_base_path").or start.1,
          ((entries.dlookup "fs_type").bind filesystemParsed).or start.2) := by
  induction entries generalizing start with
  | nil => simp [pure, Except.pure, eq_comm]
  | cons entry rest ih =>
    obtain ⟨key, value⟩ := entry
    rw [List.nodupKeys_cons] at distinct
    have next {state : Option String × Option Filesystem} (stepped : readParameter start ⟨key, value⟩ = .ok state) :
        (⟨key, value⟩ :: rest).foldlM readParameter start = rest.foldlM readParameter state := by
      rw [List.foldlM_cons, stepped]
      rfl
    rw [List.forall_mem_cons]
    by_cases base : key = "host_base_path"
    · subst base
      have stepped : readParameter start ⟨"host_base_path", value⟩ = .ok (some value, start.2) := if_pos rfl
      rw [next stepped, ih distinct.2, List.dlookup_eq_none.mpr distinct.1, List.dlookup_cons_eq,
        List.dlookup_cons_ne _ _ (show "fs_type" ≠ "host_base_path" by decide)]
      simp
    by_cases named : key = "fs_type"
    · subst named
      rw [List.dlookup_cons_eq, List.dlookup_cons_ne _ _ (show "host_base_path" ≠ "fs_type" by decide)]
      cases parsed : parseFilesystem value with
      | error status =>
        have stepped : readParameter start ⟨"fs_type", value⟩ = .error status := by
          simp [readParameter, parsed, Except.map]
        rw [List.foldlM_cons, stepped]
        refine iff_of_false nofun fun accepted => ?_
        obtain ⟨known, same⟩ := accepted.2.1 value rfl
        rw [parseFilesystem_ok.mpr same] at parsed
        cases parsed
      | ok known =>
        have stepped : readParameter start ⟨"fs_type", value⟩ = .ok (start.1, some known) := by
          simp [readParameter, parsed, Except.map]
        obtain rfl := parseFilesystem_ok.mp parsed
        rw [next stepped, ih distinct.2, List.dlookup_eq_none.mpr distinct.1]
        simp
    · have refused : readParameter start ⟨key, value⟩ =
          .error (.invalidArgument ("unknown parameter " ++ key)) := by
        simp [readParameter, base, named]
      rw [List.foldlM_cons, refused]
      exact iff_of_false nofun fun accepted => accepted.1.1.elim base named

/-! ### The new record -/

theorem newVolume_iff : newVolume r = .ok volume ↔
    r.name ≠ "" ∧ r.volumeCapabilities ≠ [] ∧ ¬InvalidName r.name ∧
      ∃ base named configs filesystem, r.parameters.entries.foldlM readParameter (none, none) =
          .ok (some base, named) ∧
        r.volumeCapabilities.foldlM readCapability ([], named) = .ok (configs, filesystem) ∧
        volume = freshVolume r base (filesystem.getD default) configs := by
  unfold newVolume
  by_cases name : r.name = ""
  · simp [name]
  by_cases empty : r.volumeCapabilities = []
  · simp [name, empty]
  rw [if_neg name, if_neg empty]
  cases read : r.parameters.entries.foldlM readParameter (none, none) with
  | error status => simp [bind, Except.bind]
  | ok found =>
    obtain ⟨base, named⟩ := found
    cases base with
    | none => simp [bind, Except.bind]
    | some base =>
      cases offered : r.volumeCapabilities.foldlM readCapability ([], named) with
      | error status => simp_all [bind, Except.bind]
      | ok state =>
        obtain ⟨configs, filesystem⟩ := state
        by_cases invalid : InvalidName r.name
        · simp_all [bind, Except.bind]
        · simp [bind, Except.bind, name, empty, invalid, offered, eq_comm]

/-- All filesystems of a request, parsed. -/
def filesystemsGiven (parameters : StringMap) (capabilities : List VolumeCapability) : List Filesystem :=
  ((parameters.lookup "fs_type").bind filesystemParsed).toList ++ filesystemsParsed capabilities

/-- Everything in a request can be parsed. -/
structure Readable (parameters : StringMap) (capabilities : List VolumeCapability) : Prop where
  parameter : ∀ text ∈ parameters.lookup "fs_type", ∃ known, text = filesystemName known
  capability : ∀ capability ∈ capabilities, ∃ parsed, parseVolumeCapability capability = .ok parsed

theorem newVolume_read : newVolume r = .ok volume ↔
    r.name ≠ "" ∧ r.volumeCapabilities ≠ [] ∧ ¬InvalidName r.name ∧
      (∀ key ∈ r.parameters, key = "host_base_path" ∨ key = "fs_type") ∧
      Readable r.parameters r.volumeCapabilities ∧ Agree (filesystemsGiven r.parameters r.volumeCapabilities) ∧
      ∃ base, r.parameters.lookup "host_base_path" = some base ∧
        volume = freshVolume r base ((filesystemsGiven r.parameters r.volumeCapabilities).head?.getD default)
          (configsParsed r.volumeCapabilities) := by
  have keys : (∀ key ∈ r.parameters, key = "host_base_path" ∨ key = "fs_type") ↔
      ∀ entry ∈ r.parameters.entries, entry.1 = "host_base_path" ∨ entry.1 = "fs_type" :=
    List.forall_mem_map
  rw [newVolume_iff, keys]
  simp only [readParameters_ok r.parameters.nodupKeys, readCapabilities_ok]
  constructor
  · rintro ⟨name, some, valid, base, named, configs, filesystem, ⟨known, parameter, found⟩,
      ⟨parsed, agree, read⟩, rfl⟩
    simp only [Option.or_none, Prod.mk.injEq] at found
    obtain ⟨given, rfl⟩ := found
    simp only [List.nil_append, Prod.mk.injEq] at read
    obtain ⟨rfl, rfl⟩ := read
    exact ⟨name, some, valid, known, ⟨parameter, parsed⟩, agree, base, given.symm, rfl⟩
  · rintro ⟨name, some, valid, known, ⟨parameter, parsed⟩, agree, base, given, rfl⟩
    refine ⟨name, some, valid, base, _, _, _, ⟨known, parameter, ?_⟩, ⟨parsed, agree, rfl⟩, rfl⟩
    simp only [Option.or_none, Prod.mk.injEq]
    exact ⟨given.symm, rfl⟩

theorem fsNamed_parsed {parsed : VolumeConfig × Option Filesystem}
    (read : parseVolumeCapability capability = .ok parsed) :
    fsNamed capability = ((parseVolumeCapability capability).toOption.bind (·.2)).map filesystemName := by
  obtain ⟨config, named⟩ := parsed
  rw [read]
  exact (parseVolumeCapability_ok.mp read).2

theorem filesystemsNamed_given {parameters : StringMap} (readable : Readable parameters capabilities) :
    filesystemsNamed parameters capabilities = (filesystemsGiven parameters capabilities).map filesystemName := by
  have parameter : (parameters.lookup "fs_type").toList =
      ((parameters.lookup "fs_type").bind filesystemParsed).toList.map filesystemName := by
    cases given : parameters.lookup "fs_type" with
    | none => rfl
    | some text =>
      obtain ⟨known, rfl⟩ := readable.parameter text given
      simp
  have rest : capabilities.filterMap fsNamed = (filesystemsParsed capabilities).map filesystemName := by
    rw [filesystemsParsed, List.map_filterMap]
    refine List.filterMap_congr fun capability member => ?_
    obtain ⟨parsed, read⟩ := readable.capability capability member
    exact fsNamed_parsed read
  rw [filesystemsNamed, filesystemsGiven, List.map_append, parameter, rest]

theorem acceptable_readable {parameters : StringMap} (acceptable : Acceptable parameters capabilities) :
    Readable parameters capabilities := by
  have known (text : String) (member : text ∈ filesystemsNamed parameters capabilities) :
      ∃ known, text = filesystemName known := by
    rcases acceptable.known text member with rfl | rfl | rfl
    · exact ⟨.ext4, rfl⟩
    · exact ⟨.xfs, rfl⟩
    · exact ⟨.bind, rfl⟩
  refine ⟨fun text given => known text ?_, fun capability member => ?_⟩
  · exact List.mem_append_left _ (Option.mem_toList.mpr given)
  · obtain ⟨config, offers⟩ := acceptable.offered capability member
    cases named : fsNamed capability with
    | none => exact ⟨(config, none), parseVolumeCapability_ok.mpr ⟨offers, named⟩⟩
    | some text =>
      obtain ⟨filesystem, rfl⟩ := known text
        (List.mem_append_right _ (List.mem_filterMap.mpr ⟨capability, member, named⟩))
      exact ⟨(config, some filesystem), parseVolumeCapability_ok.mpr ⟨offers, named⟩⟩

theorem configsParsed_offered (parsed : ∀ capability ∈ capabilities, ∃ parsed,
    parseVolumeCapability capability = .ok parsed) : List.Forall₂ Offers capabilities (configsParsed capabilities) := by
  induction capabilities with
  | nil => exact .nil
  | cons capability rest ih =>
    obtain ⟨⟨⟨config, named⟩, read⟩, others⟩ := List.forall_mem_cons.mp parsed
    have offered : configsParsed (capability :: rest) = config :: configsParsed rest := by
      simp [configsParsed, read, Except.toOption]
    rw [offered]
    exact .cons (parseVolumeCapability_ok.mp read).1 (ih others)

theorem newVolume_accepts : (∃ volume, newVolume r = .ok volume) ↔
    r.name ≠ "" ∧ r.volumeCapabilities ≠ [] ∧ ¬InvalidName r.name ∧
      Acceptable r.parameters r.volumeCapabilities := by
  constructor
  · rintro ⟨volume, built⟩
    obtain ⟨name, some, valid, keys, readable, agree, base, given, -⟩ := newVolume_read.mp built
    have named := filesystemsNamed_given readable
    refine ⟨name, some, valid, AList.lookup_isSome.mp (by rw [given]; rfl), keys,
      fun capability member => ?_, ?_, ?_⟩
    · obtain ⟨⟨config, _⟩, read⟩ := readable.capability capability member
      exact ⟨config, (parseVolumeCapability_ok.mp read).1⟩
    · rw [named]
      refine List.forall_mem_map.mpr fun known _ => ?_
      cases known <;> simp [filesystemName]
    · rw [named]
      refine List.forall_mem_map.mpr fun first one => List.forall_mem_map.mpr fun second two => ?_
      rw [agree first one second two]
  · rintro ⟨name, some, valid, acceptable⟩
    have readable := acceptable_readable acceptable
    obtain ⟨base, given⟩ := Option.isSome_iff_exists.mp (AList.lookup_isSome.mpr acceptable.base)
    refine ⟨_, newVolume_read.mpr ⟨name, some, valid, acceptable.keys, readable, ?_, base, given, rfl⟩⟩
    have common := acceptable.common
    rw [filesystemsNamed_given readable] at common
    intro first one second two
    exact filesystemName_injective (common _ (List.mem_map_of_mem one) _ (List.mem_map_of_mem two))

theorem newVolume_resolved (built : newVolume r = .ok volume) :
    Resolved r.parameters r.volumeCapabilities volume := by
  obtain ⟨-, -, -, -, readable, agree, base, -, rfl⟩ := newVolume_read.mp built
  have named := filesystemsNamed_given readable
  refine ⟨?_, ?_, configsParsed_offered readable.capability⟩
  · rw [named]
    refine List.forall_mem_map.mpr fun known member => ?_
    cases given : filesystemsGiven r.parameters r.volumeCapabilities with
    | nil => rw [given] at member; cases member
    | cons first rest =>
      rw [agree known member first (by rw [given]; exact List.mem_cons_self)]
      rfl
  · rw [named]
    intro none
    rw [List.map_eq_nil_iff.mp none]
    rfl

/-! ### Errors and orders -/

theorem foldlM_error {σ α ε : Type} {step : σ → α → Except ε σ} {refused : ε → Prop}
    (steps : ∀ state value error, step state value = .error error → refused error) {values : List α} {start : σ}
    {error : ε} (folded : values.foldlM step start = .error error) : refused error := by
  induction values generalizing start with
  | nil => cases folded
  | cons value rest ih =>
    rw [List.foldlM_cons] at folded
    cases stepped : step start value with
    | error first =>
      rw [stepped] at folded
      cases folded
      exact steps _ _ _ stepped
    | ok state =>
      rw [stepped] at folded
      exact ih folded

theorem parseFilesystem_error {text : String} {error : Status} (refused : parseFilesystem text = .error error) :
    error.code = .invalidArgument := by
  unfold parseFilesystem at refused
  split_ifs at refused
  cases refused
  rfl

theorem parseMode_error {mode : Mode} {error : Status} (refused : parseMode mode = .error error) :
    error.code = .invalidArgument := by
  cases mode <;> cases refused <;> rfl

theorem readParameter_error {found : Option String × Option Filesystem} {entry : (_ : String) × String}
    {error : Status} (refused : readParameter found entry = .error error) : error.code = .invalidArgument := by
  unfold readParameter at refused
  split_ifs at refused
  · cases parsed : parseFilesystem entry.2 with
    | ok known => rw [parsed] at refused; cases refused
    | error first =>
      rw [parsed] at refused
      cases refused
      exact parseFilesystem_error parsed
  · cases refused
    rfl

theorem parseVolumeCapability_error {error : Status} (refused : parseVolumeCapability capability = .error error) :
    error.code = .invalidArgument := by
  obtain ⟨accessMode, accessType⟩ := capability
  cases accessMode with
  | none => cases refused; rfl
  | some accessMode =>
    cases accessType with
    | none => cases refused; rfl
    | some accessType =>
      cases accessType with
      | block => cases refused; rfl
      | mount mount =>
        have flagged (filesystem : Option Filesystem) : (if mount.mountFlags ≠ [] then
              .error (.invalidArgument "mount_flags not supported")
            else do
              let mode ← parseMode accessMode.mode
              .ok (⟨mode⟩, filesystem) : Except Status (VolumeConfig × Option Filesystem)) = .error error →
            error.code = .invalidArgument := by
          intro refused
          split_ifs at refused
          · cases refused; rfl
          · cases parsed : parseMode accessMode.mode with
            | ok mode => rw [parsed] at refused; cases refused
            | error first =>
              rw [parsed] at refused
              cases refused
              exact parseMode_error parsed
        by_cases empty : mount.fsType = ""
        · simp only [parseVolumeCapability, if_pos empty] at refused
          exact flagged none refused
        · simp only [parseVolumeCapability, if_neg empty] at refused
          cases parsed : parseFilesystem mount.fsType with
          | ok known =>
            rw [parsed] at refused
            exact flagged (some known) refused
          | error first =>
            rw [parsed] at refused
            cases refused
            exact parseFilesystem_error parsed

theorem readCapability_error {found : List VolumeConfig × Option Filesystem} {error : Status}
    (refused : readCapability found capability = .error error) : error.code = .invalidArgument := by
  unfold readCapability at refused
  cases parsed : parseVolumeCapability capability with
  | error first =>
    rw [parsed] at refused
    cases refused
    exact parseVolumeCapability_error parsed
  | ok read =>
    simp only [parsed, bind, Except.bind] at refused
    split_ifs at refused
    cases refused
    rfl

theorem newVolume_error {error : Status} (refused : newVolume r = .error error) :
    error.code = .invalidArgument := by
  unfold newVolume at refused
  by_cases name : r.name = ""
  · rw [if_pos name] at refused
    cases refused
    rfl
  by_cases empty : r.volumeCapabilities = []
  · rw [if_neg name, if_pos empty] at refused
    cases refused
    rfl
  rw [if_neg name, if_neg empty] at refused
  cases read : r.parameters.entries.foldlM readParameter (none, none) with
  | error first =>
    rw [read] at refused
    cases refused
    exact foldlM_error (fun _ _ _ => readParameter_error) read
  | ok found =>
    obtain ⟨base, named⟩ := found
    simp only [read, bind, Except.bind] at refused
    cases base with
    | none => cases refused; rfl
    | some base =>
      cases offered : r.volumeCapabilities.foldlM readCapability ([], named) with
      | error first =>
        simp only [offered] at refused
        cases refused
        exact foldlM_error (fun _ _ _ => readCapability_error) offered
      | ok state =>
        simp only [offered] at refused
        by_cases invalid : InvalidName r.name
        · rw [if_pos invalid] at refused
          cases refused
          rfl
        · rw [if_neg invalid] at refused
          cases refused

section Permuted
variable {parameters other : StringMap} {offered : List VolumeCapability}
  (entries : other.entries.Perm parameters.entries) (permuted : offered.Perm capabilities)

include entries permuted

theorem filesystemsNamed_perm : (filesystemsNamed other offered).Perm (filesystemsNamed parameters capabilities) := by
  rw [filesystemsNamed, AList.perm_lookup entries]
  exact (permuted.filterMap _).append_left _

theorem acceptable_perm : Acceptable other offered ↔ Acceptable parameters capabilities := by
  have named (text : String) := (filesystemsNamed_perm entries permuted).mem_iff (a := text)
  have keys (key : String) : key ∈ other ↔ key ∈ parameters := AList.mem_of_perm entries
  constructor
  · rintro ⟨base, known, mounts, texts, common⟩
    simp only [keys, named, permuted.mem_iff] at base known mounts texts common
    exact ⟨base, known, mounts, texts, common⟩
  · rintro ⟨base, known, mounts, texts, common⟩
    simp only [← keys, ← named, ← permuted.mem_iff] at base known mounts texts common
    exact ⟨base, known, mounts, texts, common⟩

theorem resolved_perm {volume shuffled : Volume} (one : Resolved parameters capabilities volume)
    (two : Resolved other offered shuffled) : shuffled.filesystem = volume.filesystem := by
  have named := filesystemsNamed_perm entries permuted
  cases texts : filesystemsNamed parameters capabilities with
  | nil =>
    rw [texts] at named
    rw [one.unnamed texts, two.unnamed named.eq_nil]
  | cons text rest =>
    have member : text ∈ filesystemsNamed parameters capabilities := by
      rw [texts]
      exact List.mem_cons_self
    have first := one.common text member
    have second := two.common text (named.mem_iff.mpr member)
    exact filesystemName_injective (second.symm.trans first)

end Permuted

/-- Both accept with one filesystem, or both refuse with one code. -/
inductive SameVerdict : Except Status Volume → Except Status Volume → Prop where
  | accepted {first second : Volume} (filesystem : first.filesystem = second.filesystem) :
      SameVerdict (.ok first) (.ok second)
  | refused {first second : Status} (code : first.code = second.code) : SameVerdict (.error first) (.error second)

/-- The request with its map iterated in another order and its capabilities in another order. -/
structure Shuffled (request other : CreateVolumeRequest) : Prop where
  name : other.name = request.name
  parameters : other.parameters.entries.Perm request.parameters.entries
  volumeCapabilities : other.volumeCapabilities.Perm request.volumeCapabilities

theorem newVolume_shuffled {other : CreateVolumeRequest} (shuffled : Shuffled r other) :
    SameVerdict (newVolume other) (newVolume r) := by
  have accepts : (∃ volume, newVolume other = .ok volume) ↔ ∃ volume, newVolume r = .ok volume := by
    have some : other.volumeCapabilities ≠ [] ↔ r.volumeCapabilities ≠ [] := by
      rw [Ne, ← List.length_eq_zero_iff, shuffled.volumeCapabilities.length_eq, List.length_eq_zero_iff]
    rw [newVolume_accepts, newVolume_accepts, shuffled.name, some,
      acceptable_perm shuffled.parameters shuffled.volumeCapabilities]
  cases one : newVolume other with
  | ok volume =>
    obtain ⟨original, two⟩ := accepts.mp ⟨volume, one⟩
    rw [two]
    exact .accepted (resolved_perm shuffled.parameters shuffled.volumeCapabilities (newVolume_resolved two)
      (newVolume_resolved one))
  | error first =>
    cases two : newVolume r with
    | ok volume =>
      obtain ⟨accepted, built⟩ := accepts.mpr ⟨volume, two⟩
      rw [one] at built
      cases built
    | error second => exact .refused ((newVolume_error one).trans (newVolume_error two).symm)

/-- Validation accepts what `Acceptable` describes, resolves it as `Resolved` says, and neither depends on the
order of the map or of the capabilities. -/
theorem validation_orderFree (request : CreateVolumeRequest) :
    ((∃ volume, newVolume request = .ok volume) ↔
      request.name ≠ "" ∧ request.volumeCapabilities ≠ [] ∧ ¬InvalidName request.name ∧
        Acceptable request.parameters request.volumeCapabilities) ∧
    (∀ volume, newVolume request = .ok volume →
      Resolved request.parameters request.volumeCapabilities volume) ∧
    ∀ other, Shuffled request other → SameVerdict (newVolume other) (newVolume request) :=
  ⟨newVolume_accepts, fun _ => newVolume_resolved, fun _ => newVolume_shuffled⟩

end Lvp
