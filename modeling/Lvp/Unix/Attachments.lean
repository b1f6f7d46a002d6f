import Lvp.Unix.Mounts

/-! Which loop devices are attached to which files. Only losetup attaches, everything else at most
detaches; the names of devices stay distinct, so a name stands for one file. -/

namespace Unix
namespace Host

variable {host after : Host} {owner : String} {location : Location} {loop : LoopDevice} {path device : Path}

/-- Whatever is attached to a file was so before. -/
def Sheds (host after : Host) : Prop :=
  after.cwd = host.cwd ∧ ∀ loop ∈ after.loops, ∀ location, loop.backing = some location → loop ∈ host.loops

theorem Sheds.refl (host : Host) : host.Sheds host := ⟨rfl, fun _ member _ _ => member⟩

theorem sheds_same (cwd : after.cwd = host.cwd) (loops : after.loops = host.loops) : host.Sheds after :=
  ⟨cwd, fun _ member _ _ => loops ▸ member⟩

theorem mkdirs_loops (locations : List Location) (host : Host) : (mkdirs locations host).2.loops = host.loops := by
  induction locations generalizing host with
  | nil => rfl
  | cons location rest ih =>
    unfold mkdirs
    split
    · exact ih host
    · rfl
    · exact ih { host with files := host.files.insert location .directory }

theorem createDirAll_sheds (host : Host) (path : Path) : host.Sheds (host.createDirAll path).2 := by
  apply sheds_same (createDirAll_untouched host path).2.2
  unfold createDirAll
  split
  · rfl
  · exact mkdirs_loops _ host

theorem createFile_sheds (host : Host) (path : Path) : host.Sheds (host.createFile path).2 := by
  unfold createFile
  split
  · exact .refl host
  · split
    · exact .refl host
    · exact sheds_same rfl rfl

theorem ftruncate_sheds (host : Host) (path : Path) (length : Int64) :
    host.Sheds (host.ftruncate path length).2 := by
  unfold ftruncate
  split
  · exact .refl host
  · split
    · exact sheds_same rfl rfl
    · exact .refl host

/-- An unlinked file takes its attachments with it. -/
theorem unlink_sheds (host : Host) (selected : Location → Bool) : host.Sheds (host.unlink selected) := by
  refine ⟨rfl, fun loop member location backed => ?_⟩
  obtain ⟨before, held, rfl⟩ := List.mem_map.mp member
  split at backed
  · cases backed
  · rename_i kept
    rw [if_neg kept]
    exact held

theorem removeFile_sheds (host : Host) (path : Path) : host.Sheds (host.removeFile path).2 := by
  unfold removeFile
  split
  · exact .refl host
  · exact .refl host
  · exact unlink_sheds host _

theorem removeDirAll_sheds (host : Host) (path : Path) : host.Sheds (host.removeDirAll path).2 := by
  unfold removeDirAll
  split
  · exact .refl host
  · exact .refl host
  · dsimp only
    split <;> exact unlink_sheds host _

theorem removeDir_sheds (host : Host) (path : Path) : host.Sheds (host.removeDir path).2 := by
  unfold removeDir
  split
  · exact .refl host
  · exact .refl host
  · split
    · exact .refl host
    · split
      · exact .refl host
      · exact unlink_sheds host _

/-! ### Commands -/

theorem losetupDetach_loops (member : loop ∈ (host.losetupDetach device).2.loops) :
    loop ∈ host.loops ∧ ((host.losetupDetach device).1.isOk → loop.device ≠ device) := by
  unfold losetupDetach at member ⊢
  split at member
  · rename_i attached
    obtain ⟨held, other⟩ := List.mem_filter.mp member
    exact ⟨held, fun _ => by simpa using other⟩
  · rename_i absent
    refine ⟨member, fun detached => ?_⟩
    rw [if_neg absent] at detached
    cases detached

theorem utility_sheds {argv : List String} (other : utilityDeed argv ≠ .attaches) :
    host.Sheds (host.utility owner argv).2 := by
  unfold utility
  split
  case h_1 => exact absurd rfl other
  case h_2 =>
    refine ⟨?_, fun loop member _ _ => (losetupDetach_loops member).1⟩
    unfold losetupDetach
    split <;> rfl
  case h_3 | h_4 | h_5 =>
    unfold needsDevice
    split <;> exact .refl host
  case h_6 | h_8 =>
    unfold mountBind
    split <;> exact sheds_same rfl rfl
  case h_7 | h_9 =>
    unfold mountDevice
    split <;> exact sheds_same rfl rfl
  case h_10 =>
    unfold umount
    split <;> exact sheds_same rfl rfl
  case h_11 | h_12 =>
    unfold mkfs
    split
    · split <;> exact sheds_same rfl rfl
    · exact .refl host
  case h_13 => exact .refl host

theorem command_sheds {argv : List String} (other : deed argv ≠ .attaches) :
    host.Sheds (host.command owner argv).2 := by
  unfold command
  split
  · exact utility_sheds other
  · rename_i plain
    refine utility_sheds fun attaches => other ?_
    unfold deed
    split
    · exact absurd rfl (plain _ _)
    · exact attaches

/-- losetup changes nothing, or attaches the first free device and prints its name. -/
theorem losetup_loops (host : Host) (path : Path) : (host.losetup path).2 = host ∨
    (host.losetup path).1 = .ok (host.freeLoop ++ "\n") ∧
      (host.losetup path).2 = { host with loops := ⟨host.freeLoop, host.resolve path, false⟩ :: host.loops } := by
  unfold losetup
  split
  · exact Or.inl rfl
  · exact Or.inl rfl
  · split
    · exact Or.inl rfl
    · exact Or.inr ⟨rfl, rfl⟩

/-! ### Device names -/

theorem loopName_injective : Function.Injective loopName := by
  intro m n same
  have digits : Nat.toDigits 10 m = Nat.toDigits 10 n := by
    simpa [loopName] using congrArg String.toList same
  rw [← Nat.ofDigitChars_ten_toDigits (n := m), digits, Nat.ofDigitChars_ten_toDigits]

theorem freeLoop_fresh (host : Host) : host.freeLoop ∉ host.devices := by
  unfold freeLoop
  cases found : (List.range (host.loops.length + 1)).find?
      fun n => !(host.loops.map (·.device)).contains (loopName n) with
  | some n =>
    have free := List.find?_some found
    simpa [devices] using free
  | none =>
    -- there are more names than devices
    have taken : (List.range (host.loops.length + 1)).map loopName ⊆ host.devices := by
      intro name member
      obtain ⟨n, inside, rfl⟩ := List.mem_map.mp member
      simpa [devices] using List.find?_eq_none.mp found n inside
    have distinct : ((List.range (host.loops.length + 1)).map loopName).Nodup :=
      List.nodup_range.map loopName_injective
    have short := (List.subperm_of_subset distinct taken).length_le
    simp only [List.length_map, List.length_range, devices] at short
    exact absurd short (Nat.not_succ_le_self _)

/-- The names of the devices are distinct and have no blanks at their ends. -/
structure Regular (host : Host) : Prop where
  distinct : host.devices.Nodup
  trimmed : ∀ device ∈ host.devices, trim device = device

namespace Regular

theorem unattached (none : host.loops = []) : host.Regular := by
  constructor <;> simp [devices, none]

theorem same (regular : host.Regular) (attachments : after.attachments = host.attachments) : after.Regular := by
  have devices := devices_same attachments
  exact ⟨devices ▸ regular.distinct, devices ▸ regular.trimmed⟩

theorem attached (regular : host.Regular) {file : Location}
    (attachments : after.attachments = (host.freeLoop, file) :: host.attachments) : after.Regular := by
  have devices := devices_cons attachments
  constructor
  · rw [devices]
    exact List.nodup_cons.mpr ⟨freeLoop_fresh host, regular.distinct⟩
  · rw [devices]
    exact List.forall_mem_cons.mpr ⟨trim_freeLoop host, regular.trimmed⟩

theorem detached (regular : host.Regular) (attachments : after.attachments =
    host.attachments.filter (·.1 ≠ device)) :
    after.Regular := by
  have devices := devices_filter attachments
  constructor
  · rw [devices]
    exact regular.distinct.filter _
  · rw [devices]
    exact fun device member => regular.trimmed device (List.mem_of_mem_filter member)

theorem command (regular : host.Regular) (owner : String) (argv : List String) :
    (host.command owner argv).2.Regular := by
  cases ran : host.command owner argv with
  | mk answer after =>
    cases answer with
    | error failure =>
      rw [command_failed ran]
      exact regular
    | ok output =>
      have done := command_done ran
      show after.Regular
      cases what : deed argv with
      | mounts target => rw [what] at done; exact regular.same done.2.1
      | unmounts target => rw [what] at done; exact regular.same done.2.2.1
      | attaches =>
        rw [what] at done
        rcases done.2.1 with same | ⟨file, more⟩
        · exact regular.same same
        · exact regular.attached more
      | detaches device => rw [what] at done; exact regular.detached done.1
      | nothing => rw [what] at done; exact regular.same done.2.1

theorem unique (regular : host.Regular) {file other : Location} (first : (device, file) ∈ host.attachments)
    (second : (device, other) ∈ host.attachments) : file = other := by
  have distinct : (host.attachments.map (·.1)).Nodup := by
    rw [map_attachments]
    exact regular.distinct
  exact congrArg Prod.snd (List.inj_on_of_nodup_map distinct first second rfl)

end Regular

/-- Only detaching it takes a device from its file. -/
theorem command_attachments {argv : List String} {file : Location} (other : deed argv ≠ .detaches device)
    (member : (device, file) ∈ host.attachments) : (device, file) ∈ (host.command owner argv).2.attachments := by
  cases ran : host.command owner argv with
  | mk answer after =>
    cases answer with
    | error failure =>
      rw [command_failed ran]
      exact member
    | ok output =>
      have done := command_done ran
      show (device, file) ∈ after.attachments
      cases what : deed argv with
      | mounts target => rw [what] at done; exact done.2.1 ▸ member
      | unmounts target => rw [what] at done; exact done.2.2.1 ▸ member
      | attaches =>
        rw [what] at done
        rcases done.2.1 with same | ⟨_, more⟩
        · exact same ▸ member
        · exact more ▸ List.mem_cons_of_mem _ member
      | detaches gone =>
        rw [what] at done
        have kept : device ≠ gone := fun same => other (same ▸ what)
        rw [done.1]
        exact List.mem_filter.mpr ⟨member, by simpa using kept⟩
      | nothing => rw [what] at done; exact done.2.1 ▸ member

/-- What losetup prints is the device of the file. -/
theorem losetup_prints {output : String} (printed : (host.losetup path).1 = .ok output) :
    ∃ device, output = device ++ "\n" ∧ (device, host.resolve path) ∈ (host.losetup path).2.attachments := by
  unfold losetup at printed ⊢
  split at printed
  · cases printed
  · cases printed
  · split at printed
    · rename_i loop found
      cases printed
      have backed : loop.backing = some (host.resolve path) := by simpa using List.find?_some found
      have file : loop.file = host.resolve path := by
        unfold LoopDevice.backing at backed
        split at backed
        · cases backed
        · exact Option.some.inj backed
      exact ⟨loop.device, rfl, List.mem_map.mpr ⟨loop, List.mem_of_find?_eq_some found, by rw [file]⟩⟩
    · cases printed
      exact ⟨host.freeLoop, rfl, List.mem_cons_self⟩

theorem behind_attached {file : Location} (behind : host.behind device = some file) :
    (device, file) ∈ host.attachments := by
  obtain ⟨loop, found, backed⟩ := Option.bind_eq_some_iff.mp behind
  have named : loop.device = device := by simpa using List.find?_some found
  refine List.mem_map.mpr ⟨loop, List.mem_of_find?_eq_some found, ?_⟩
  unfold LoopDevice.backing at backed
  split at backed
  · cases backed
  · rw [named, Option.some.inj backed]

end Host
end Unix
