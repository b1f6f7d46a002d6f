import Lvp.Unix.Attachments
import Lvp.Unix.Tree

/-!
When the calls of a host go through. Nothing stands in the way of a path along which there are only directories, and
what one call makes is where the next one looks for it.
-/

namespace Unix

/-! ### Parents -/

/-- A component that is not the first one: what one segment comes to. -/
def Inner (part : Component) : Prop := ∃ segment, '/' ∉ segment ∧ inner segment = [part]

theorem splitOn_flat {α : Type} [BEq α] [LawfulBEq α] (mark : α) (entries : List α) :
    ∀ part ∈ entries.splitOn mark, mark ∉ part := by
  induction entries with
  | nil => simp [List.splitOn_nil]
  | cons entry rest ih =>
    rw [List.splitOn_cons_eq_if_modifyHead]
    split
    · simpa using ih
    · rename_i differs
      have other : mark ≠ entry := fun same => differs (by simp [same])
      cases split : rest.splitOn mark with
      | nil => simp
      | cons first others =>
        rw [split] at ih
        obtain ⟨head, tail⟩ := List.forall_mem_cons.mp ih
        exact List.forall_mem_cons.mpr ⟨by simp [other, head], tail⟩

theorem components_inner {path : Path} (absolute : isAbsolute path) :
    ∃ parts, components path = .rootDir :: parts ∧ ∀ part ∈ parts, Inner part := by
  obtain ⟨filled, rest, split⟩ := segments_absolute absolute
  refine ⟨rest.flatMap inner, components_of_segments split filled, fun part member => ?_⟩
  obtain ⟨segment, listed, within⟩ := List.mem_flatMap.mp member
  have given : segment ∈ segments path := split ▸ List.mem_cons_of_mem _ listed
  refine ⟨segment, splitOn_flat '/' path.toList segment given, ?_⟩
  unfold inner at within ⊢
  split_ifs at within ⊢ <;> simp_all

theorem Inner.text {part : Component} (proper : Inner part) :
    part.text ≠ "" ∧ ¬isAbsolute part.text ∧ (segments part.text).flatMap inner = [part] := by
  obtain ⟨segment, flat, parts⟩ := proper
  have spelled : part.text = String.ofList segment := by
    unfold inner at parts
    split_ifs at parts with empty up
    · rw [← List.singleton_inj.mp parts, up]
      rfl
    · rw [← List.singleton_inj.mp parts]
      rfl
  have single : segments part.text = [segment] := by
    rw [segments, spelled, String.toList_ofList]
    exact List.splitOn_eq_singleton flat
  refine ⟨?_, ?_, by simp [single, parts]⟩
  · rintro empty
    rw [empty] at spelled
    have none : segment = [] := by simpa using congrArg String.toList spelled.symm
    rw [none, inner_nil] at parts
    cases parts
  · intro absolute
    rw [spelled, isAbsolute, String.toList_ofList] at absolute
    exact flat (List.mem_of_mem_head? absolute)

/-- Components joined to a path one by one. -/
theorem components_built {base : Path} (filled : base ≠ "") {parts : List Component}
    (proper : ∀ part ∈ parts, Inner part) :
    let built := parts.foldl (fun base part => join base part.text) base
    built ≠ "" ∧ components built = components base ++ parts := by
  induction parts generalizing base with
  | nil => exact ⟨filled, by simp⟩
  | cons part rest ih =>
    obtain ⟨first, later⟩ := List.forall_mem_cons.mp proper
    obtain ⟨spelled, relative, single⟩ := first.text
    have longer : join base part.text ≠ "" := by
      rcases join_append base relative with same | ⟨-, same⟩ <;> simp [same, filled]
    obtain ⟨built, same⟩ := ih longer later
    refine ⟨built, ?_⟩
    rw [List.foldl_cons, same, components_join filled relative, single]
    simp

theorem parent_absolute {path : Path} (absolute : isAbsolute path) (below : components path ≠ [.rootDir]) :
    ∃ above, parent path = some above ∧ above ≠ "" ∧ isAbsolute above ∧
      components above = (components path).dropLast := by
  obtain ⟨parts, split, proper⟩ := components_inner absolute
  rw [split] at below ⊢
  rcases List.eq_nil_or_concat parts with rfl | ⟨front, last, rfl⟩
  · exact absurd rfl below
  · rw [List.concat_eq_append] at split proper ⊢
    have within : ∀ part ∈ front, Inner part := fun part member => proper part (List.mem_append_left _ member)
    have rooted : last ≠ .rootDir := by
      rintro rfl
      obtain ⟨segment, -, root⟩ := proper .rootDir (by simp)
      unfold inner at root
      split_ifs at root <;> simp at root
    obtain ⟨filled, same⟩ := components_built (show "/" ≠ "" by decide) within
    have root : components "/" = [.rootDir] := by decide
    rw [root] at same
    have dropped : (Component.rootDir :: (front ++ [last])).dropLast = .rootDir :: front := by
      rw [← List.cons_append, List.dropLast_concat]
    refine ⟨_, ?_, filled, isAbsolute_components.mp (by rw [same]; rfl), by rw [same, dropped]; rfl⟩
    have ends : (components path).getLast? = some last := by
      rw [split, ← List.cons_append, List.getLast?_concat]
    rw [parent, ends, split, dropped]
    cases last with
    | rootDir => exact absurd rfl rooted
    | _ => rfl

namespace Host

variable {host : Host} {path : Path} {location : Location} {length : Nat} {format : Option String}

/-! ### Along a path -/

theorem foldl_start (host : Host) (path : Path) :
    (components path).foldl enter (host.start path) = host.resolve path := by
  rw [resolve, Unix.resolve, start]
  split
  · rename_i absolute
    obtain ⟨parts, split, -⟩ := components_inner absolute
    rw [split]
    rfl
  · rfl

theorem mem_trail : location ∈ trail host.cwd path ↔ location ∈ host.passes path ∨
    location = host.resolve path := by
  rw [← foldl_start]
  show location ∈ (components path).inits.map (·.foldl enter (host.start path)) ↔ _
  unfold passes
  rcases List.eq_nil_or_concat (components path) with empty | ⟨front, last, split⟩
  · simp [empty]
  · rw [List.concat_eq_append] at split
    simp [split, List.inits_append, eq_comm]

/-- The directories that an absolute path passes through are those that are made for its parent. -/
theorem passes_parent {above : Path} (absolute : isAbsolute path) (rooted : isAbsolute above)
    (same : components above = (components path).dropLast) : trail host.cwd above = host.passes path := by
  rw [trail, passes, start, if_pos rooted, if_pos absolute, same]

theorem stat_located {node : Node} (found : host.stat path = .ok node) :
    host.locate path = .ok (host.resolve path) ∧ host.node (host.resolve path) = some node := by
  unfold stat at found
  split at found
  · cases found
  · rename_i located
    obtain ⟨-, -, rfl⟩ := locate_ok.mp located
    refine ⟨located, ?_⟩
    split at found
    · cases found
    · rename_i held
      exact held.trans (congrArg some (Except.ok.inj found))
    · rename_i held
      split at found
      · cases found
      · exact held.trans (congrArg some (Except.ok.inj found))

theorem stat_directory (located : host.locate path = .ok (host.resolve path))
    (held : host.node (host.resolve path) = some .directory) : host.stat path = .ok .directory := by
  rw [stat, located]
  dsimp only
  rw [held]

theorem stat_regular (located : host.locate path = .ok (host.resolve path)) (plain : ¬namesDirectory path)
    (held : host.node (host.resolve path) = some (.file length format)) :
    host.stat path = .ok (.file length format) := by
  rw [stat, located]
  dsimp only
  rw [held]
  dsimp only
  rw [if_neg plain]

theorem stat_plain (found : host.stat path = .ok (.file length format)) : ¬namesDirectory path := by
  obtain ⟨located, held⟩ := stat_located found
  rw [stat, located] at found
  dsimp only at found
  rw [held] at found
  intro directory
  dsimp only at found
  rw [if_pos directory] at found
  cases found

theorem Grows.stat_directory {after : Host} (grows : host.Grows after) (found : host.stat path = .ok .directory) :
    after.stat path = .ok .directory := by
  obtain ⟨located, held⟩ := stat_located found
  rw [← grows.resolve path] at located held
  exact Host.stat_directory (grows.locate located) (grows.directories _ held)

/-! ### Directories -/

/-- Along the path there are only directories, or nothing yet. -/
def Clear (host : Host) (path : Path) : Prop :=
  ∀ location ∈ trail host.cwd path, ∀ node ∈ host.node location, node = .directory

instance (host : Host) (path : Path) : Decidable (host.Clear path) :=
  inferInstanceAs (Decidable (∀ location ∈ trail host.cwd path, ∀ node ∈ host.node location, node = .directory))

theorem mkdirs_clear {locations : List Location}
    (clear : ∀ location ∈ locations, ∀ node ∈ host.node location, node = .directory) :
    (mkdirs locations host).1 = .ok () ∧
      ∀ location ∈ locations, (mkdirs locations host).2.node location = some .directory := by
  induction locations generalizing host with
  | nil => exact ⟨rfl, nofun⟩
  | cons first rest ih =>
    obtain ⟨here, later⟩ := List.forall_mem_cons.mp clear
    have stays {host : Host} (held : host.node first = some .directory) :
        (mkdirs rest host).2.node first = some .directory := by
      rcases mkdirs_node rest host first with same | ⟨none, -⟩
      · exact same.trans held
      · cases held.symm.trans none
    unfold mkdirs
    split
    · rename_i held
      obtain ⟨made, directories⟩ := ih later
      exact ⟨made, List.forall_mem_cons.mpr ⟨stays held, directories⟩⟩
    · rename_i length format held
      cases here _ held
    · rename_i none
      have absent : host.node first ≠ some .directory := by simp [none]
      have node : ∀ other, ({ host with files := host.files.insert first .directory } : Host).node other =
          if other = first then some .directory else host.node other := fun other => node_insert (below_root absent)
      have cleared : ∀ location ∈ rest,
          ∀ found ∈ ({ host with files := host.files.insert first .directory } : Host).node
          location, found = .directory := by
        intro location member found held
        rw [node] at held
        split at held
        · exact (Option.some.inj held).symm
        · exact later location member found held
      obtain ⟨made, directories⟩ := ih cleared
      refine ⟨made, List.forall_mem_cons.mpr ⟨stays ?_, directories⟩⟩
      rw [node, if_pos rfl]

theorem createDirAll_made (filled : path ≠ "") (clear : host.Clear path) :
    (host.createDirAll path).1 = .ok () ∧
      ∀ location ∈ trail host.cwd path, (host.createDirAll path).2.node location = some .directory := by
  rw [createDirAll, if_neg filled]
  exact mkdirs_clear clear

theorem createDirAll_clear (filled : path ≠ "") (clear : host.Clear path) :
    (host.createDirAll path).1 = .ok () ∧ (host.createDirAll path).2.stat path = .ok .directory := by
  obtain ⟨made, directories⟩ := createDirAll_made filled clear
  obtain ⟨-, -, cwd⟩ := createDirAll_untouched host path
  rw [← cwd] at directories
  refine ⟨made, stat_directory (locate_ok.mpr ⟨filled, fun passed member => ?_, rfl⟩) ?_⟩
  · exact directories passed (mem_trail.mpr (Or.inl member))
  · exact directories _ (mem_trail.mpr (Or.inr rfl))

/-- What makes the directories above an absolute path makes the path reachable. -/
theorem createDirAll_parent {above : Path} (absolute : isAbsolute path) (filled : above ≠ "")
    (rooted : isAbsolute above) (same : components above = (components path).dropLast)
    (clear : host.Clear above) :
    (host.createDirAll above).1 = .ok () ∧
      (host.createDirAll above).2.locate path = .ok ((host.createDirAll above).2.resolve path) := by
  obtain ⟨made, directories⟩ := createDirAll_made filled clear
  obtain ⟨-, -, cwd⟩ := createDirAll_untouched host above
  refine ⟨made, locate_ok.mpr ⟨?_, fun passed member => ?_, rfl⟩⟩
  · rintro rfl
    simp [isAbsolute] at absolute
  · rw [← passes_parent absolute rooted same, cwd] at member
    exact directories passed member

/-! ### Files -/

/-- There is room for a file at the end of the path. -/
structure Vacant (host : Host) (path : Path) : Prop where
  located : host.locate path = .ok (host.resolve path)
  plain : ¬namesDirectory path
  empty : host.node (host.resolve path) = none

/-- Writing the file at the end of a path changes nothing on the way there. -/
theorem stat_insert (located : host.locate path = .ok (host.resolve path)) (plain : ¬namesDirectory path)
    (free : host.node (host.resolve path) ≠ some .directory) :
    ({ host with files := host.files.insert (host.resolve path) (.file length format) } : Host).stat path =
      .ok (.file length format) := by
  obtain ⟨filled, clear, -⟩ := locate_ok.mp located
  have node : ∀ other,
      ({ host with files := host.files.insert (host.resolve path) (.file length format) } : Host).node other =
        if other = host.resolve path then some (.file length format) else host.node other :=
    fun other => node_insert (below_root free)
  refine stat_regular (locate_ok.mpr ⟨filled, fun passed member => ?_, rfl⟩) plain ?_
  · rw [node, if_neg]
    · exact clear passed member
    · rintro rfl
      exact free (clear _ member)
  · exact (node _).trans (if_pos rfl)

theorem createFile_vacant (vacant : host.Vacant path) :
    (host.createFile path).1 = .ok () ∧ (host.createFile path).2.stat path = .ok (.file 0 none) := by
  have free : host.node (host.resolve path) ≠ some .directory := by simp [vacant.empty]
  rw [createFile, vacant.located]
  dsimp only
  rw [if_neg (not_or.mpr ⟨free, vacant.plain⟩)]
  exact ⟨rfl, stat_insert vacant.located vacant.plain free⟩

theorem ftruncate_stat {size : Int64} (held : host.stat path = .ok (.file length format)) (positive : ¬size < 0) :
    (host.ftruncate path size).1 = .ok () ∧
      (host.ftruncate path size).2.stat path = .ok (.file size.toInt.toNat format) := by
  obtain ⟨located, node⟩ := stat_located held
  rw [ftruncate, if_neg positive, node]
  exact ⟨rfl, stat_insert located (stat_plain held) (by simp [node])⟩

theorem mkfs_stat (held : host.stat path = .ok (.file length format)) {spelled : String}
    (large : host.least spelled ≤ length) :
    (host.mkfs spelled path).1 = .ok "" ∧ (host.mkfs spelled path).2.stat path =
      .ok (.file length (some spelled)) := by
  obtain ⟨located, node⟩ := stat_located held
  rw [mkfs, held]
  dsimp only
  rw [if_neg (Nat.not_lt.mpr large)]
  exact ⟨rfl, stat_insert located (stat_plain held) (by simp [node])⟩

/-! ### Devices -/

theorem losetup_unattached (held : host.stat path = .ok (.file length format))
    (unattached : ∀ loop ∈ host.loops, loop.backing ≠ some (host.resolve path)) :
    host.losetup path = (.ok (host.freeLoop ++ "\n"),
      { host with loops := ⟨host.freeLoop, host.resolve path, false⟩ :: host.loops }) := by
  have none : host.loops.find? (·.backing = some (host.resolve path)) = none :=
    List.find?_eq_none.mpr fun loop member => by simpa using unattached loop member
  rw [losetup, held]
  dsimp only
  rw [none]

theorem formatted_iff {device : Path} : host.formatted device ↔ ∃ loop ∈ host.loops, loop.device = device ∧
    ∀ location ∈ loop.backing, ∃ length spelled, host.node location = some (.file length (some spelled)) := by
  unfold formatted
  rw [List.any_eq_true]
  refine exists_congr fun loop => and_congr_right fun _ => ?_
  rw [Bool.and_eq_true, decide_eq_true_iff]
  refine and_congr_right fun _ => ?_
  cases loop.backing with
  | none => simp
  | some location =>
    cases held : host.node location with
    | none => simp [held]
    | some node =>
      cases node with
      | directory => simp [held]
      | file length format => cases format <;> simp [held]

theorem createDirAll_loops (host : Host) (path : Path) : (host.createDirAll path).2.loops = host.loops := by
  unfold createDirAll
  split
  · rfl
  · exact mkdirs_loops _ host

/-- What is there already is not made again. -/
theorem createDirAll_held {node : Node} (held : host.node location = some node) (path : Path) :
    (host.createDirAll path).2.node location = some node := by
  rcases createDirAll_node host path location with same | ⟨none, -⟩
  · exact same.trans held
  · cases held.symm.trans none

theorem stat_createDirAll {node : Node} (found : host.stat path = .ok node) (other : Path) :
    (host.createDirAll other).2.stat path = .ok node := by
  obtain ⟨located, held⟩ := stat_located found
  have grows := createDirAll_grows host other
  have still := createDirAll_held held other
  rw [← grows.resolve path] at located still
  cases node with
  | directory => exact stat_directory (grows.locate located) still
  | file length format => exact stat_regular (grows.locate located) (stat_plain found) still

/-- A lookup does not see devices or mounts. -/
theorem stat_files {after : Host} (files : after.files = host.files) (cwd : after.cwd = host.cwd) (path : Path) :
    after.stat path = host.stat path := by
  have node : after.node = host.node := by
    funext location
    rw [Host.node, Host.node, files]
  simp only [stat, locate, passes, start, resolve, node, cwd]

/-! ### What gets built -/

/-- New directories, and anything at one location. -/
structure Builds (location : Location) (host after : Host) : Prop where
  cwd : after.cwd = host.cwd
  elsewhere : ∀ other, other ≠ location → after.node other = host.node other ∨
    host.node other = none ∧ after.node other = some .directory

namespace Builds

variable {middle after : Host}

theorem refl (location : Location) (host : Host) : Builds location host host := ⟨rfl, fun _ _ => Or.inl rfl⟩

theorem trans (first : Builds location host middle) (second : Builds location middle after) :
    Builds location host after where
  cwd := second.cwd.trans first.cwd
  elsewhere other different := by
    rcases first.elsewhere other different with same | ⟨absent, made⟩
    · rw [← same]
      exact second.elsewhere other different
    · rcases second.elsewhere other different with same | ⟨absent', -⟩
      · exact Or.inr ⟨absent, same.trans made⟩
      · cases made.symm.trans absent'

theorem resolve (builds : Builds location host after) (path : Path) : after.resolve path = host.resolve path := by
  rw [Host.resolve, builds.cwd, Host.resolve]

theorem directory (builds : Builds location host after) {other : Location} (different : other ≠ location)
    (held : host.node other = some .directory) : after.node other = some .directory := by
  rcases builds.elsewhere other different with same | ⟨absent, -⟩
  · exact same.trans held
  · cases held.symm.trans absent

theorem stat_directory (builds : Builds location host after) (apart : location ∉ trail host.cwd path)
    (found : host.stat path = .ok .directory) : after.stat path = .ok .directory := by
  obtain ⟨located, held⟩ := stat_located found
  obtain ⟨filled, clear, -⟩ := locate_ok.mp located
  have different {other : Location} (along : other ∈ trail host.cwd path) : other ≠ location :=
    fun same => apart (same ▸ along)
  refine Host.stat_directory (locate_ok.mpr ⟨filled, fun passed member => ?_, rfl⟩) ?_
  · rw [passes, start, builds.cwd] at member
    exact builds.directory (different (mem_trail.mpr (Or.inl member))) (clear passed member)
  · rw [builds.resolve]
    exact builds.directory (different (mem_trail.mpr (Or.inr rfl))) held

theorem clear (builds : Builds location host after) (apart : location ∉ trail host.cwd path)
    (clear : host.Clear path) :
    after.Clear path := by
  intro other along node held
  rw [builds.cwd] at along
  have different : other ≠ location := fun same => apart (same ▸ along)
  rcases builds.elsewhere other different with same | ⟨-, made⟩
  · exact clear other along node (same ▸ held)
  · exact Option.some.inj (held.symm.trans made)

end Builds

theorem createDirAll_builds (location : Location) (host : Host) (path : Path) :
    Builds location host (host.createDirAll path).2 :=
  ⟨(createDirAll_untouched host path).2.2, fun other _ => createDirAll_node host path other⟩

theorem createFile_builds (host : Host) (path : Path) : Builds (host.resolve path) host (host.createFile path).2 :=
  ⟨(createFile_untouched host path).2.2, fun _ different => Or.inl (createFile_elsewhere (Ne.symm different))⟩

theorem ftruncate_builds (host : Host) (path : Path) (size : Int64) :
    Builds (host.resolve path) host (host.ftruncate path size).2 :=
  ⟨(ftruncate_untouched host path size).2.2, fun _ different => Or.inl (ftruncate_elsewhere (Ne.symm different))⟩

theorem mkfs_builds (host : Host) (spelled : String) (path : Path) :
    Builds (host.resolve path) host (host.mkfs spelled path).2 :=
  ⟨(mkfs_untouched host spelled path).2.2, fun _ different => Or.inl (mkfs_elsewhere (Ne.symm different))⟩

/-- New directories and anything at one location, but no new device or mount. -/
structure Lays (location : Location) (host after : Host) : Prop extends Builds location host after where
  loops : after.loops = host.loops
  mounts : after.mounts = host.mounts
  least : after.least = host.least

theorem Lays.refl (location : Location) (host : Host) : Lays location host host :=
  ⟨.refl location host, rfl, rfl, rfl⟩

theorem Lays.trans {middle after : Host} (first : Lays location host middle) (second : Lays location middle after) :
    Lays location host after where
  toBuilds := first.toBuilds.trans second.toBuilds
  loops := second.loops.trans first.loops
  mounts := second.mounts.trans first.mounts
  least := second.least.trans first.least

theorem Lays.behind {after : Host} (lays : Lays location host after) (device : Path) :
    after.behind device = host.behind device := by
  rw [Host.behind, lays.loops, Host.behind]

theorem mkdirs_least (locations : List Location) (host : Host) : (mkdirs locations host).2.least = host.least := by
  induction locations generalizing host with
  | nil => rfl
  | cons first rest ih =>
    rw [mkdirs]
    split
    · exact ih host
    · rfl
    · exact ih _

theorem createDirAll_least (host : Host) (path : Path) : (host.createDirAll path).2.least = host.least := by
  unfold createDirAll
  split
  · rfl
  · exact mkdirs_least _ host

theorem createDirAll_lays (location : Location) (host : Host) (path : Path) :
    Lays location host (host.createDirAll path).2 :=
  ⟨createDirAll_builds location host path, createDirAll_loops host path, (createDirAll_untouched host path).1,
    createDirAll_least host path⟩

theorem createFile_lays (host : Host) (path : Path) : Lays (host.resolve path) host (host.createFile path).2 := by
  refine ⟨createFile_builds host path, ?_, (createFile_untouched host path).1, ?_⟩ <;> unfold createFile <;> split
  · rfl
  · split <;> rfl
  · rfl
  · split <;> rfl

theorem ftruncate_lays (host : Host) (path : Path) (size : Int64) :
    Lays (host.resolve path) host (host.ftruncate path size).2 := by
  refine ⟨ftruncate_builds host path size, ?_, (ftruncate_untouched host path size).1, ?_⟩
    <;> unfold ftruncate <;> split
  · rfl
  · split <;> rfl
  · rfl
  · split <;> rfl

theorem mkfs_lays (host : Host) (spelled : String) (path : Path) :
    Lays (host.resolve path) host (host.mkfs spelled path).2 := by
  refine ⟨mkfs_builds host spelled path, ?_, (mkfs_untouched host spelled path).1, ?_⟩ <;> unfold mkfs <;> split
  · split <;> rfl
  · rfl
  · split <;> rfl
  · rfl

/-- Mounts that are there stay. -/
structure Retains (host after : Host) : Prop where
  cwd : after.cwd = host.cwd
  mounts : host.mounts ⊆ after.mounts

theorem Retains.refl (host : Host) : host.Retains host := ⟨rfl, fun _ => id⟩

theorem Retains.trans {middle after : Host} (first : host.Retains middle) (second : middle.Retains after) :
    host.Retains after := ⟨second.cwd.trans first.cwd, fun _ member => second.mounts (first.mounts member)⟩

theorem Retains.resolve {after : Host} (retains : host.Retains after) (path : Path) :
    after.resolve path = host.resolve path := by
  rw [Host.resolve, retains.cwd, Host.resolve]

/-! ### Nothing there yet -/

/-- Nothing is at the end of the path, nothing but directories before it, and the end is not passed on the way. -/
structure Free (host : Host) (path : Path) : Prop where
  filled : path ≠ ""
  absent : host.node (host.resolve path) = none
  above : ∀ passed ∈ host.passes path, ∀ node ∈ host.node passed, node = .directory
  past : host.resolve path ∉ host.passes path

namespace Free

theorem missing (free : host.Free path) : host.tryExists path = .ok false := by
  have blocked {passed : Location} (member : passed ∈ host.passes path) (other : host.node passed ≠ some .directory) :
      host.node passed = none := by
    cases held : host.node passed with
    | none => rfl
    | some node => exact absurd (held.trans (congrArg some (free.above passed member node held))) other
  unfold tryExists stat locate
  rw [if_neg free.filled]
  cases found : (host.passes path).find? (fun location => host.node location ≠ some .directory) with
  | none => simp [free.absent]
  | some passed =>
    have none := blocked (List.mem_of_find?_eq_some found) (by simpa using List.find?_some found)
    simp [none]

theorem clear (free : host.Free path) : host.Clear path := by
  intro location along node held
  rcases mem_trail.mp along with passed | rfl
  · exact free.above location passed node held
  · cases held.symm.trans free.absent

theorem createDirAll (free : host.Free path) {other : Path} (apart : host.resolve path ∉ trail host.cwd other) :
    (host.createDirAll other).2.Free path := by
  obtain ⟨-, -, cwd⟩ := createDirAll_untouched host other
  have resolved : (host.createDirAll other).2.resolve path = host.resolve path := by rw [resolve, cwd, resolve]
  have passed : (host.createDirAll other).2.passes path = host.passes path := by
    rw [passes, start, cwd, passes, start]
  refine ⟨free.filled, ?_, fun location member node held => ?_, by rw [resolved, passed]; exact free.past⟩
  · rcases createDirAll_trail host other (host.resolve path) with same | ⟨along, -⟩
    · rw [resolved, same, free.absent]
    · exact absurd along apart
  · rw [passed] at member
    rcases createDirAll_node host other location with same | ⟨-, made⟩
    · exact free.above location member node (same ▸ held)
    · exact Option.some.inj (held.symm.trans made)

/-- Making the parent makes room. -/
theorem parent (free : host.Free path) (absolute : isAbsolute path) (plain : ¬namesDirectory path) :
    ∃ above, Unix.parent path = some above ∧ (host.createDirAll above).1 = .ok () ∧
      (host.createDirAll above).2.Vacant path := by
  have below : components path ≠ [.rootDir] := by
    intro root
    have top : host.resolve path = [] := by rw [resolve, Unix.resolve, root]; rfl
    have absent := free.absent
    rw [top] at absent
    cases absent
  obtain ⟨above, parent, filled, rooted, same⟩ := parent_absolute absolute below
  have trail : Unix.trail host.cwd above = host.passes path := passes_parent absolute rooted same
  have clear : host.Clear above := by
    intro location along
    rw [trail] at along
    exact free.above location along
  obtain ⟨made, located⟩ := createDirAll_parent absolute filled rooted same clear
  have empty := (free.createDirAll (trail ▸ free.past : host.resolve path ∉ Unix.trail host.cwd above)).absent
  exact ⟨above, parent, made, located, plain, empty⟩

end Free

end Host

end Unix
