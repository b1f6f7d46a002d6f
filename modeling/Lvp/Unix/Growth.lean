import Lvp.Unix.Mounts

/-! Calls that take nothing away: directories stay, files stay and do not get shorter. -/

namespace Unix
namespace Host

/-- The length of the file at a location. -/
def lengthAt (host : Host) (location : Location) : Option Nat :=
  match host.node location with
  | some (.file length _) => some length
  | _ => none

/-- The length of the file that a path leads to. -/
def fileLength (host : Host) (path : Path) : Option Nat :=
  match host.stat path with
  | .ok (.file length _) => some length
  | _ => none

structure Grows (host after : Host) : Prop where
  cwd : after.cwd = host.cwd
  directories : ∀ location, host.node location = some .directory → after.node location = some .directory
  files : ∀ location, ∀ length ∈ host.lengthAt location, ∃ longer ∈ after.lengthAt location, length ≤ longer

variable {host middle after : Host} {location : Location} {path : Path} {length : Nat}

theorem mem_lengthAt : length ∈ host.lengthAt location ↔ ∃ format,
    host.node location = some (.file length format) := by
  unfold lengthAt
  split
  · rename_i held
    simp [held]
  · rename_i none
    simp only [Option.mem_def, reduceCtorEq, false_iff, not_exists]
    exact fun format held => none length format held

theorem locate_ok : host.locate path = .ok location ↔
    path ≠ "" ∧ (∀ passed ∈ host.passes path, host.node passed = some .directory) ∧
      host.resolve path = location := by
  unfold locate
  split
  · rename_i empty
    simp [empty]
  · rename_i filled
    split
    · rename_i passed found
      have blocked := List.find?_some found
      have member := List.mem_of_find?_eq_some found
      simp only [reduceCtorEq, ne_eq, filled, not_false_eq_true, true_and, false_iff, not_and]
      intro clear
      simp [clear passed member] at blocked
    · rename_i clear
      simp only [List.find?_eq_none, ne_eq, decide_not, Bool.not_eq_true', decide_eq_false_iff_not,
        not_not] at clear
      simp only [Except.ok.injEq, ne_eq, filled, not_false_eq_true, true_and, iff_and_self]
      exact fun _ => clear

theorem mem_fileLength : length ∈ host.fileLength path ↔
    (host.locate path = .ok (host.resolve path) ∧ ¬namesDirectory path) ∧
      length ∈ host.lengthAt (host.resolve path) := by
  rw [mem_lengthAt]
  unfold fileLength stat
  cases found : host.locate path with
  | error error => simp
  | ok location =>
    obtain ⟨-, -, rfl⟩ := locate_ok.mp found
    cases held : host.node (host.resolve path) with
    | none => simp [held]
    | some node =>
      cases node with
      | directory => simp [held]
      | file longer format => by_cases directory : namesDirectory path <;> simp [held, directory]

namespace Grows

theorem refl (host : Host) : host.Grows host :=
  ⟨rfl, fun _ => id, fun _ length member => ⟨length, member, le_refl length⟩⟩

theorem trans (first : host.Grows middle) (second : middle.Grows after) : host.Grows after where
  cwd := second.cwd.trans first.cwd
  directories location held := second.directories location (first.directories location held)
  files location length member := by
    obtain ⟨longer, still, more⟩ := first.files location length member
    obtain ⟨longest, last, most⟩ := second.files location longer still
    exact ⟨longest, last, more.trans most⟩

theorem resolve (grows : host.Grows after) (path : Path) : after.resolve path = host.resolve path := by
  rw [Host.resolve, Host.resolve, grows.cwd]

theorem passes (grows : host.Grows after) (path : Path) : after.passes path = host.passes path := by
  rw [Host.passes, Host.passes, start, start, grows.cwd]

theorem locate (grows : host.Grows after) (found : host.locate path = .ok location) :
    after.locate path = .ok location := by
  obtain ⟨filled, clear, rfl⟩ := locate_ok.mp found
  refine locate_ok.mpr ⟨filled, ?_, grows.resolve path⟩
  rw [grows.passes]
  exact fun passed member => grows.directories passed (clear passed member)

theorem fileLength (grows : host.Grows after) (held : length ∈ host.fileLength path) :
    ∃ longer ∈ after.fileLength path, length ≤ longer := by
  obtain ⟨⟨found, plain⟩, member⟩ := mem_fileLength.mp held
  obtain ⟨longer, still, more⟩ := grows.files _ length member
  rw [← grows.resolve path] at still found
  exact ⟨longer, mem_fileLength.mpr ⟨⟨grows.locate found, plain⟩, still⟩, more⟩

end Grows

/-! ### File calls -/

theorem node_insert {node : Node} {other : Location} (below : location ≠ []) :
    ({ host with files := host.files.insert location node } : Host).node other =
      if other = location then some node else host.node other := by
  unfold Host.node
  by_cases same : other = location
  · subst same
    rw [if_neg below, if_pos rfl]
    exact AList.lookup_insert _
  · rw [if_neg same]
    by_cases root : other = []
    · rw [if_pos root, if_pos root]
    · rw [if_neg root, if_neg root]
      exact AList.lookup_insert_ne same

theorem below_root (held : host.node location ≠ some .directory) : location ≠ [] := by
  rintro rfl
  exact held rfl

theorem lengthAt_insert {node : Node} (below : location ≠ []) (other : Location) :
    ({ host with files := host.files.insert location node } : Host).lengthAt other =
      if other = location then (match node with | .file length _ => some length | .directory => none)
      else host.lengthAt other := by
  unfold lengthAt
  rw [node_insert below]
  by_cases same : other = location
  · rw [if_pos same, if_pos same]
    cases node <;> rfl
  · rw [if_neg same, if_neg same]

/-- A new directory or file, or a file that is at least as long as the one before. -/
theorem grows_insert {node : Node} (free : host.node location ≠ some .directory)
    (more : ∀ length ∈ host.lengthAt location, ∃ longer format, node = .file longer format ∧ length ≤ longer) :
    host.Grows { host with files := host.files.insert location node } where
  cwd := rfl
  directories other held := by
    rw [node_insert (below_root free), if_neg]
    · exact held
    · rintro rfl
      exact free held
  files other length member := by
    rw [lengthAt_insert (below_root free)]
    split
    · rename_i same
      subst same
      obtain ⟨longer, format, rfl, most⟩ := more length member
      exact ⟨longer, rfl, most⟩
    · exact ⟨length, member, le_refl length⟩

theorem createFile_grows (absent : host.lengthAt (host.resolve path) = none) :
    host.Grows (host.createFile path).2 := by
  unfold createFile
  split
  · exact .refl host
  · rename_i location found
    obtain ⟨-, -, rfl⟩ := locate_ok.mp found
    split
    · exact .refl host
    · rename_i free
      refine grows_insert (fun directory => free (Or.inl directory)) ?_
      simp [absent]

theorem createFile_length (created : (host.createFile path).1 = .ok ()) :
    0 ∈ (host.createFile path).2.fileLength path := by
  unfold createFile at created ⊢
  split at created
  · cases created
  · rename_i location found
    obtain ⟨filled, clear, rfl⟩ := locate_ok.mp found
    split at created
    · cases created
    · rename_i free
      rw [not_or] at free
      rw [if_neg (not_or.mpr free)]
      have below := below_root free.1
      refine mem_fileLength.mpr ⟨⟨locate_ok.mpr ⟨filled, fun passed member => ?_, rfl⟩, free.2⟩, ?_⟩
      · rw [node_insert below, if_neg]
        · exact clear passed member
        · rintro rfl
          exact free.1 (clear _ member)
      · rw [lengthAt_insert below]
        exact (if_pos rfl).symm ▸ rfl

theorem ftruncate_grows {size : Int64}
    (more : ¬size < 0 → ∀ length ∈ host.lengthAt (host.resolve path), length ≤ size.toInt.toNat) :
    host.Grows (host.ftruncate path size).2 := by
  unfold ftruncate
  split
  · exact .refl host
  · rename_i positive
    split
    · rename_i length format held
      refine grows_insert (by simp [held]) fun shorter member => ⟨_, _, rfl, more positive shorter member⟩
    · exact .refl host

theorem ftruncate_length {size : Int64} (truncated : (host.ftruncate path size).1 = .ok ())
    (held : length ∈ host.lengthAt (host.resolve path)) :
    ¬size < 0 ∧ size.toInt.toNat ∈ (host.ftruncate path size).2.lengthAt (host.resolve path) := by
  obtain ⟨format, held⟩ := mem_lengthAt.mp held
  unfold ftruncate at truncated ⊢
  split at truncated
  · cases truncated
  · rename_i positive
    refine ⟨positive, ?_⟩
    have free : host.node (host.resolve path) ≠ some .directory := by simp [held]
    rw [if_neg positive, held, lengthAt_insert (below_root free), if_pos rfl]
    rfl

/-- What was found at the location of the descriptor has the new length. -/
theorem ftruncate_fileLength {other : Path} {size : Int64} (truncated : (host.ftruncate path size).1 = .ok ())
    (grows : host.Grows (host.ftruncate path size).2) (same : host.resolve path = host.resolve other)
    (held : length ∈ host.fileLength other) :
    ¬size < 0 ∧ size.toInt.toNat ∈ (host.ftruncate path size).2.fileLength other := by
  obtain ⟨longer, found, -⟩ := grows.fileLength held
  obtain ⟨-, before⟩ := mem_fileLength.mp held
  rw [← same] at before
  obtain ⟨positive, after⟩ := ftruncate_length truncated before
  refine ⟨positive, ?_⟩
  obtain ⟨-, now⟩ := mem_fileLength.mp found
  rw [grows.resolve, ← same] at now
  rwa [Option.mem_unique after now]

theorem mkdirs_node (locations : List Location) (host : Host) (location : Location) :
    (mkdirs locations host).2.node location = host.node location ∨
      host.node location = none ∧ (mkdirs locations host).2.node location = some .directory := by
  induction locations generalizing host with
  | nil => exact Or.inl rfl
  | cons first rest ih =>
    unfold mkdirs
    split
    · exact ih host
    · exact Or.inl rfl
    · rename_i free
      have made : ∀ other, (({ host with files := host.files.insert first .directory } : Host)).node other =
          if other = first then some .directory else host.node other := by
        have absent : host.node first ≠ some .directory := by simp [free]
        exact fun other => node_insert (below_root absent)
      rcases ih { host with files := host.files.insert first .directory } with same | ⟨absent, directory⟩
      · rw [same, made]
        split
        · rename_i equal
          exact Or.inr ⟨equal ▸ free, rfl⟩
        · exact Or.inl rfl
      · rw [made] at absent
        split at absent
        · cases absent
        · exact Or.inr ⟨absent, directory⟩

theorem createDirAll_node (host : Host) (path : Path) (location : Location) :
    (host.createDirAll path).2.node location = host.node location ∨
      host.node location = none ∧ (host.createDirAll path).2.node location = some .directory := by
  unfold createDirAll
  split
  · exact Or.inl rfl
  · exact mkdirs_node _ host location

theorem createDirAll_lengthAt (host : Host) (path : Path) (location : Location) :
    (host.createDirAll path).2.lengthAt location = host.lengthAt location := by
  unfold lengthAt
  rcases createDirAll_node host path location with same | ⟨absent, directory⟩
  · rw [same]
  · rw [absent, directory]

theorem createDirAll_grows (host : Host) (path : Path) : host.Grows (host.createDirAll path).2 where
  cwd := (createDirAll_untouched host path).2.2
  directories location held := by
    rcases createDirAll_node host path location with same | ⟨absent, -⟩
    · exact same.trans held
    · cases held.symm.trans absent
  files location length member := ⟨length, (createDirAll_lengthAt host path location).symm ▸ member, le_refl length⟩

theorem openWrite_length (opened : host.openWrite path = .ok ()) : ∃ length, length ∈ host.fileLength path := by
  unfold openWrite at opened
  split at opened
  · cases opened
  · cases opened
  · rename_i length format held
    exact ⟨length, by rw [fileLength, held]; rfl⟩

theorem tryExists_absent (absent : host.tryExists path = .ok false) : host.fileLength path = none := by
  unfold tryExists at absent
  split at absent
  · cases absent
  · rename_i missing
    rw [fileLength, missing]
  · cases absent

/-! ### Commands -/

theorem grows_files (files : after.files = host.files) (cwd : after.cwd = host.cwd) : host.Grows after := by
  have same : ∀ location, after.node location = host.node location := by
    intro location
    rw [node, node, files]
  refine ⟨cwd, fun location held => (same location).trans held, fun location length member => ?_⟩
  exact ⟨length, by rwa [lengthAt, same], le_refl length⟩

theorem mkfs_grows (host : Host) (format : String) (path : Path) : host.Grows (host.mkfs format path).2 := by
  unfold mkfs
  split
  · rename_i length old held
    split
    · exact .refl host
    · have member : length ∈ host.fileLength path := by rw [fileLength, held]; rfl
      have stored := (mem_fileLength.mp member).2
      obtain ⟨format', node⟩ := mem_lengthAt.mp stored
      refine grows_insert (by simp [node]) fun shorter same => ⟨length, _, rfl, ?_⟩
      exact (Option.mem_unique same stored).le
  · exact .refl host

theorem utility_grows (host : Host) (owner : String) (argv : List String) :
    host.Grows (host.utility owner argv).2 := by
  unfold utility
  split
  case h_1 =>
    unfold losetup
    split
    · exact .refl host
    · exact .refl host
    · split <;> exact grows_files rfl rfl
  case h_2 =>
    unfold losetupDetach
    split <;> exact grows_files rfl rfl
  case h_3 | h_4 | h_5 =>
    unfold needsDevice
    split <;> exact .refl host
  case h_6 | h_8 =>
    unfold mountBind
    split <;> exact grows_files rfl rfl
  case h_7 | h_9 =>
    unfold mountDevice
    split <;> exact grows_files rfl rfl
  case h_10 =>
    unfold umount
    split <;> exact grows_files rfl rfl
  case h_11 | h_12 => exact mkfs_grows host _ _
  case h_13 => exact .refl host

theorem command_grows (host : Host) (owner : String) (argv : List String) :
    host.Grows (host.command owner argv).2 := by
  unfold command
  split <;> exact utility_grows host owner _

theorem losetup_length {output : String} (attached : (host.losetup path).1 = .ok output) :
    ∃ length, length ∈ host.fileLength path := by
  unfold losetup at attached
  split at attached
  · cases attached
  · cases attached
  · rename_i length format held
    exact ⟨length, by rw [fileLength, held]; rfl⟩

end Host
end Unix
