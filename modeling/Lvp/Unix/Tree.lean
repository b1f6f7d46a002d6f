import Lvp.Unix.Growth

/-! What the calls of a host leave at a location that they are not about. -/

namespace Unix

/-- Where `create_dir_all` makes directories for a path: at the locations of its ancestors and its own. -/
def trail (cwd : Location) (path : Path) : List Location :=
  (components path).inits.map (·.foldl enter (if isAbsolute path then [] else cwd))

namespace Host

variable {host : Host} {path : Path} {location : Location}

/-! ### Making -/

theorem mkdirs_elsewhere (locations : List Location) (host : Host) (apart : location ∉ locations) :
    (mkdirs locations host).2.node location = host.node location := by
  induction locations generalizing host with
  | nil => rfl
  | cons first rest ih =>
    have later : location ∉ rest := fun member => apart (List.mem_cons_of_mem _ member)
    have other : location ≠ first := fun same => apart (same ▸ List.mem_cons_self)
    unfold mkdirs
    split
    · exact ih host later
    · rfl
    · rename_i free
      have absent : host.node first ≠ some .directory := by simp [free]
      rw [ih _ later, node_insert (below_root absent), if_neg other]

theorem createDirAll_trail (host : Host) (path : Path) (location : Location) :
    (host.createDirAll path).2.node location = host.node location ∨
      location ∈ trail host.cwd path ∧ host.node location = none ∧
        (host.createDirAll path).2.node location = some .directory := by
  by_cases along : location ∈ trail host.cwd path
  · rcases createDirAll_node host path location with same | made
    · exact Or.inl same
    · exact Or.inr ⟨along, made⟩
  · apply Or.inl
    unfold createDirAll
    split
    · rfl
    · exact mkdirs_elsewhere _ host along

theorem createFile_elsewhere (apart : host.resolve path ≠ location) :
    (host.createFile path).2.node location = host.node location := by
  unfold createFile
  split
  · rfl
  · rename_i found located
    obtain ⟨-, -, rfl⟩ := locate_ok.mp located
    split
    · rfl
    · rename_i free
      have missing : host.node (host.resolve path) ≠ some .directory := fun held => free (Or.inl held)
      rw [node_insert (below_root missing), if_neg apart.symm]

theorem ftruncate_elsewhere {length : Int64} (apart : host.resolve path ≠ location) :
    (host.ftruncate path length).2.node location = host.node location := by
  unfold ftruncate
  split
  · rfl
  · split
    · rename_i held
      have file : host.node (host.resolve path) ≠ some .directory := by simp [held]
      rw [node_insert (below_root file), if_neg apart.symm]
    · rfl

theorem mkfs_elsewhere {format : String} (apart : host.resolve path ≠ location) :
    (host.mkfs format path).2.node location = host.node location := by
  unfold mkfs
  split
  · rename_i held
    split
    · rfl
    · rw [node_insert (stat_file held), if_neg apart.symm]
  · rfl

/-! ### Resizing again -/

theorem ftruncate_again (host : Host) (path : Path) (length : Int64) :
    (host.ftruncate path length).2.ftruncate path length = host.ftruncate path length := by
  have unchanged (idle : (host.ftruncate path length).2 = host) :
      (host.ftruncate path length).2.ftruncate path length = host.ftruncate path length := by rw [idle]
  by_cases negative : length < 0
  · exact unchanged (by simp [ftruncate, negative])
  · cases held : host.node (host.resolve path) with
    | none => exact unchanged (by simp [ftruncate, negative, held])
    | some node =>
      cases node with
      | directory => exact unchanged (by simp [ftruncate, negative, held])
      | file old format =>
        -- the second write is to the entry the first one made
        have plain : host.node (host.resolve path) ≠ some .directory := by simp [held]
        have below : host.resolve path ≠ [] := below_root plain
        have resized : host.ftruncate path length = (.ok (), { host with
            files := host.files.insert (host.resolve path) (.file length.toInt.toNat format) }) := by
          simp [ftruncate, negative, held]
        rw [resized]
        dsimp only
        generalize entry : { host with
          files := host.files.insert (host.resolve path) (.file length.toInt.toNat format) } = after
        have now : after.node (after.resolve path) = some (.file length.toInt.toNat format) := by
          subst entry
          exact (node_insert below).trans (if_pos rfl)
        have twice : after.files.insert (after.resolve path) (.file length.toInt.toNat format) = after.files := by
          subst entry
          exact AList.insert_insert host.files
        rw [ftruncate, if_neg negative, now]
        dsimp only
        rw [twice]

theorem ftruncate_opens {length : Int64} (opened : host.openWrite path = .ok ()) :
    (host.ftruncate path length).2.openWrite path = .ok () := by
  obtain ⟨old, member⟩ := openWrite_length opened
  obtain ⟨⟨located, plain⟩, stored⟩ := mem_fileLength.mp member
  obtain ⟨filled, clear, -⟩ := locate_ok.mp located
  obtain ⟨format, held⟩ := mem_lengthAt.mp stored
  by_cases negative : length < 0
  · rw [ftruncate, if_pos negative]
    exact opened
  · have resized : (host.ftruncate path length).1 = .ok () := by simp [ftruncate, negative, held]
    obtain ⟨-, -, cwd⟩ := ftruncate_untouched host path length
    have kept : (host.ftruncate path length).2.locate path = .ok (host.resolve path) := by
      refine locate_ok.mpr ⟨filled, fun passed member => ?_, by rw [resolve, cwd, resolve]⟩
      rw [passes, start, cwd] at member
      have directory := clear passed member
      rw [ftruncate_elsewhere]
      · exact directory
      · rintro rfl
        cases held.symm.trans directory
    obtain ⟨-, longer⟩ := ftruncate_length resized stored
    obtain ⟨format, now⟩ := mem_lengthAt.mp longer
    rw [openWrite, stat, kept]
    dsimp only
    rw [now]
    dsimp only
    rw [if_neg plain]

/-! ### Removing -/

theorem unlink_elsewhere {selected : Location → Bool} (kept : selected location = false) :
    (host.unlink selected).node location = host.node location := by
  by_cases root : location = []
  · rw [node, node, if_pos root, if_pos root]
  · rw [node_unlink host selected root, kept, if_neg Bool.false_ne_true]

theorem removeFile_elsewhere (apart : host.resolve path ≠ location) :
    (host.removeFile path).2.node location = host.node location := by
  unfold removeFile
  split
  · rfl
  · rfl
  · exact unlink_elsewhere (by simp [apart.symm])

theorem removeDirAll_elsewhere (apart : ¬host.resolve path <+: location) :
    (host.removeDirAll path).2.node location = host.node location := by
  have kept : (host.unlink (host.resolve path <+: ·)).node location = host.node location :=
    unlink_elsewhere (by simp [apart])
  unfold removeDirAll
  split
  · rfl
  · rfl
  · dsimp only
    split <;> exact kept

theorem stat_node (found : host.stat path = .ok .directory) : host.node (host.resolve path) = some .directory := by
  unfold stat at found
  split at found
  · cases found
  · rename_i located
    obtain ⟨-, -, rfl⟩ := locate_ok.mp located
    split at found
    · cases found
    · assumption
    · split at found <;> cases found

/-- `rmdir` takes one directory away, or nothing. -/
theorem removeDir_elsewhere (host : Host) (path : Path) (location : Location) :
    (host.removeDir path).2.node location = host.node location ∨
      host.resolve path = location ∧ host.node location = some .directory ∧
        (host.removeDir path).2.node location = none := by
  by_cases apart : host.resolve path = location
  · unfold removeDir
    split
    · exact Or.inl rfl
    · exact Or.inl rfl
    · rename_i found
      split
      · exact Or.inl rfl
      · rename_i below
        split
        · exact Or.inl rfl
        · refine Or.inr ⟨apart, apart ▸ stat_node found, ?_⟩
          rw [node_unlink host _ (apart ▸ below)]
          simp [apart]
  · apply Or.inl
    unfold removeDir
    split
    · rfl
    · rfl
    · split
      · rfl
      · split
        · rfl
        · exact unlink_elsewhere (by simp [Ne.symm apart])

/-! ### Commands -/

/-- Of all command lines only `mkfs` writes to a file. -/
theorem utility_elsewhere {owner : String} {argv : List String}
    (apart : ∀ path, argv = ["mkfs.ext4", path] ∨ argv = ["mkfs.xfs", path] → host.resolve path ≠ location) :
    (host.utility owner argv).2.node location = host.node location := by
  unfold utility
  split
  case h_1 =>
    unfold losetup
    split
    · rfl
    · rfl
    · split <;> rfl
  case h_2 =>
    unfold losetupDetach
    split <;> rfl
  case h_3 | h_4 | h_5 =>
    unfold needsDevice
    split <;> rfl
  case h_6 | h_8 =>
    unfold mountBind
    split <;> rfl
  case h_7 | h_9 =>
    unfold mountDevice
    split <;> rfl
  case h_10 =>
    unfold umount
    split <;> rfl
  case h_11 path => exact mkfs_elsewhere (apart path (Or.inl rfl))
  case h_12 path => exact mkfs_elsewhere (apart path (Or.inr rfl))
  case h_13 => rfl

theorem command_elsewhere {owner : String} {argv : List String}
    (apart : ∀ rest, (argv = rest ∨ ∃ root, argv = "chroot" :: root :: rest) →
      ∀ path, rest = ["mkfs.ext4", path] ∨ rest = ["mkfs.xfs", path] → host.resolve path ≠ location) :
    (host.command owner argv).2.node location = host.node location := by
  unfold command
  split
  · exact utility_elsewhere (apart _ (Or.inr ⟨_, rfl⟩))
  · exact utility_elsewhere (apart _ (Or.inl rfl))

end Host
end Unix
