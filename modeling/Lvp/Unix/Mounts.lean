import Lvp.Unix.Host

/-! What the calls of a host do to its mount table and its loop devices. A command line is known by
its `Deed`; file calls change neither table. -/

namespace Unix

inductive Deed where
  | mounts (target : Path)
  | unmounts (target : Path)
  | attaches
  | detaches (device : Path)
  | nothing
  deriving DecidableEq

def utilityDeed : List String → Deed
  | ["losetup", "--show", "-L", "-f", _] => .attaches
  | ["losetup", "-d", device] => .detaches device
  | ["losetup", "-c", _] => .nothing
  | ["resize2fs", _] => .nothing
  | ["xfs_growfs", "-d", _] => .nothing
  | ["mount", "bind", "-r", _, target] => .mounts target
  | ["mount", "-r", _, target] => .mounts target
  | ["mount", "bind", _, target] => .mounts target
  | ["mount", _, target] => .mounts target
  | ["umount", target] => .unmounts target
  | _ => .nothing

def deed : List String → Deed
  | "chroot" :: _ :: rest => utilityDeed rest
  | argv => utilityDeed argv

namespace Host

def devices (host : Host) : List Path := host.loops.map (·.device)

/-- Each device with the place where its file lay when it was attached. -/
def attachments (host : Host) : List (Path × Location) := host.loops.map fun loop => (loop.device, loop.file)

theorem map_attachments (host : Host) : host.attachments.map (·.1) = host.devices := by
  simp [attachments, devices]

theorem devices_same {host after : Host} (same : after.attachments = host.attachments) :
    after.devices = host.devices := by rw [← map_attachments, same, map_attachments]

theorem devices_cons {host after : Host} {device : Path} {file : Location}
    (same : after.attachments = (device, file) :: host.attachments) : after.devices = device :: host.devices := by
  rw [← map_attachments, same, List.map_cons, map_attachments]

theorem devices_filter {host after : Host} {device : Path}
    (same : after.attachments = host.attachments.filter (·.1 ≠ device)) :
    after.devices = host.devices.filter (· ≠ device) := by
  rw [← map_attachments, same, ← map_attachments, List.filter_map]
  rfl

/-- The tables that mounting changes. -/
def Untouched (host after : Host) : Prop :=
  after.mounts = host.mounts ∧ after.attachments = host.attachments ∧ after.cwd = host.cwd

theorem Untouched.refl (host : Host) : host.Untouched host := ⟨rfl, rfl, rfl⟩

theorem Untouched.trans {a b c : Host} (first : a.Untouched b) (second : b.Untouched c) : a.Untouched c :=
  ⟨second.1.trans first.1, second.2.1.trans first.2.1, second.2.2.trans first.2.2⟩

/-! ### File calls -/

theorem mkdirs_untouched (locations : List Location) (host : Host) : host.Untouched (mkdirs locations host).2 := by
  induction locations generalizing host with
  | nil => exact .refl host
  | cons location rest ih =>
    unfold mkdirs
    split
    · exact ih host
    · exact .refl host
    · have made := ih { host with files := host.files.insert location .directory }
      exact made

theorem createDirAll_untouched (host : Host) (path : Path) : host.Untouched (host.createDirAll path).2 := by
  unfold createDirAll
  split
  · exact .refl host
  · exact mkdirs_untouched _ host

theorem createFile_untouched (host : Host) (path : Path) : host.Untouched (host.createFile path).2 := by
  unfold createFile
  split
  · exact .refl host
  · split
    · exact .refl host
    · exact ⟨rfl, rfl, rfl⟩

theorem ftruncate_untouched (host : Host) (path : Path) (length : Int64) :
    host.Untouched (host.ftruncate path length).2 := by
  unfold ftruncate
  split
  · exact .refl host
  · split
    · exact ⟨rfl, rfl, rfl⟩
    · exact .refl host

theorem unlink_untouched (host : Host) (selected : Location → Bool) : host.Untouched (host.unlink selected) := by
  refine ⟨rfl, ?_, rfl⟩
  simp only [attachments, unlink, List.map_map]
  apply List.map_congr_left
  intro loop _
  simp only [Function.comp]
  split <;> rfl

theorem removeFile_untouched (host : Host) (path : Path) : host.Untouched (host.removeFile path).2 := by
  unfold removeFile
  split
  · exact .refl host
  · exact .refl host
  · exact unlink_untouched host _

theorem removeDirAll_untouched (host : Host) (path : Path) : host.Untouched (host.removeDirAll path).2 := by
  unfold removeDirAll
  split
  · exact .refl host
  · exact .refl host
  · dsimp only
    split <;> exact unlink_untouched host _

theorem removeDir_untouched (host : Host) (path : Path) : host.Untouched (host.removeDir path).2 := by
  unfold removeDir
  split
  · exact .refl host
  · exact .refl host
  · split
    · exact .refl host
    · split
      · exact .refl host
      · exact unlink_untouched host _

theorem mkfs_untouched (host : Host) (format : String) (path : Path) :
    host.Untouched (host.mkfs format path).2 := by
  unfold mkfs
  split
  · split
    · exact .refl host
    · exact ⟨rfl, rfl, rfl⟩
  · exact .refl host

theorem needsDevice_untouched (host : Host) (device : Path) : host.Untouched (host.needsDevice device).2 := by
  unfold needsDevice
  split <;> exact .refl host

/-! ### Device names -/

theorem trim_loopName (n : Nat) : trim (loopName n) = loopName n := by
  have solid : ∀ c ∈ (loopName n).toList, isWhitespace c = false := by
    intro c member
    rw [loopName, String.toList_append, List.mem_append] at member
    rcases member with fixed | digit
    · have solid : "/dev/loop".toList.all (fun c => !isWhitespace c) = true := by decide
      simpa using List.all_eq_true.mp solid c fixed
    · have digits := Nat.isDigit_of_mem_toDigits (b := 10) (by decide) (by decide) (by simpa using digit)
      have range : (decide (48 ≤ c.val) && decide (c.val ≤ 57)) = true := digits
      simp only [Bool.and_eq_true, decide_eq_true_eq, UInt32.le_iff_toNat_le] at range
      obtain ⟨low, high⟩ : 48 ≤ c.toNat ∧ c.toNat ≤ 57 := range
      exact isWhitespace_graphic (by omega) (by omega)
  apply trim_self
  · intro start
    obtain ⟨c, head, blank⟩ := start
    rw [solid c (List.mem_of_mem_head? head)] at blank
    cases blank
  · intro stop
    obtain ⟨c, last, blank⟩ := stop
    rw [solid c (List.mem_of_mem_getLast? last)] at blank
    cases blank

theorem trim_freeLoop (host : Host) : trim host.freeLoop = host.freeLoop := trim_loopName _

/-! ### Command lines -/

/-- What a command line has done when it succeeds, issued on behalf of `owner`. -/
def Done (owner : String) (host after : Host) (output : String) : Deed → Prop
  | .mounts target =>
      (∃ source content readonly, after.mounts = ⟨owner, source, content, target, readonly⟩ :: host.mounts) ∧
      after.attachments = host.attachments ∧ after.cwd = host.cwd
  | .unmounts target => (∃ mount ∈ host.mounts, host.resolve mount.target = host.resolve target) ∧
      after.mounts = host.mounts.eraseP (host.resolve ·.target = host.resolve target) ∧
      after.attachments = host.attachments ∧ after.cwd = host.cwd
  | .attaches => (∃ device ∈ after.devices, output = device ++ "\n") ∧
      (after.attachments = host.attachments ∨
        ∃ file, after.attachments = (host.freeLoop, file) :: host.attachments) ∧
      after.mounts = host.mounts ∧ after.cwd = host.cwd
  | .detaches device => after.attachments = host.attachments.filter (·.1 ≠ device) ∧
      after.mounts = host.mounts ∧ after.cwd = host.cwd
  | .nothing => host.Untouched after

variable {host after : Host} {owner output : String}

theorem losetup_done {source : Path} (ran : host.losetup source = (.ok output, after)) :
    host.Done owner after output .attaches := by
  unfold losetup at ran
  split at ran
  · cases ran
  · cases ran
  · split at ran
    · rename_i loop found
      cases ran
      exact ⟨⟨_, List.mem_map_of_mem (List.mem_of_find?_eq_some found), rfl⟩, Or.inl rfl, rfl, rfl⟩
    · cases ran
      exact ⟨⟨_, List.mem_cons_self, rfl⟩, Or.inr ⟨_, rfl⟩, rfl, rfl⟩

theorem losetupDetach_done {device : Path} (ran : host.losetupDetach device = (.ok output, after)) :
    host.Done owner after output (.detaches device) := by
  unfold losetupDetach at ran
  split at ran
  · cases ran
    refine ⟨?_, rfl, rfl⟩
    simp only [attachments, List.filter_map]
    rfl
  · cases ran

theorem mountDevice_done {readonly : Bool} {device target : Path}
    (ran : host.mountDevice owner readonly device target = (.ok output, after)) :
    host.Done owner after output (.mounts target) := by
  unfold mountDevice at ran
  split at ran
  · cases ran
    exact ⟨⟨_, _, _, rfl⟩, rfl, rfl⟩
  · cases ran

theorem mountBind_done {readonly : Bool} {source target : Path}
    (ran : host.mountBind owner readonly source target = (.ok output, after)) :
    host.Done owner after output (.mounts target) := by
  unfold mountBind at ran
  split at ran
  · cases ran
    exact ⟨⟨_, _, _, rfl⟩, rfl, rfl⟩
  · cases ran

theorem umount_done {target : Path} (ran : host.umount target = (.ok output, after)) :
    host.Done owner after output (.unmounts target) := by
  unfold umount at ran
  split at ran
  · rename_i mounted
    cases ran
    exact ⟨mounted, rfl, rfl, rfl⟩
  · cases ran

theorem untouched_done {result : Except IoError String × Host} (untouched : host.Untouched result.2)
    (ran : result = (.ok output, after)) : host.Untouched after := by
  rw [ran] at untouched
  exact untouched

theorem utility_done {argv : List String} (ran : host.utility owner argv = (.ok output, after)) :
    host.Done owner after output (utilityDeed argv) := by
  unfold utility at ran
  split at ran
  · exact losetup_done ran
  · exact losetupDetach_done ran
  · exact untouched_done (needsDevice_untouched host _) ran
  · exact untouched_done (needsDevice_untouched host _) ran
  · exact untouched_done (needsDevice_untouched host _) ran
  · exact mountBind_done ran
  · exact mountDevice_done ran
  · rename_i source target
    have same : utilityDeed ["mount", "bind", source, target] = .mounts target := by simp [utilityDeed]
    rw [same]
    exact mountBind_done ran
  · rename_i device target
    have same : utilityDeed ["mount", device, target] = .mounts target := by simp [utilityDeed]
    rw [same]
    exact mountDevice_done ran
  · exact umount_done ran
  · exact untouched_done (mkfs_untouched host _ _) ran
  · exact untouched_done (mkfs_untouched host _ _) ran
  · cases ran

theorem command_done {argv : List String} (ran : host.command owner argv = (.ok output, after)) :
    host.Done owner after output (deed argv) := by
  unfold command at ran
  split at ran
  · exact utility_done ran
  · rename_i plain
    have same : deed argv = utilityDeed argv := by
      unfold deed
      split
      · exact absurd rfl (plain _ _)
      · rfl
    rw [same]
    exact utility_done ran

theorem utility_failed {argv : List String} {error : IoError}
    (ran : host.utility owner argv = (.error error, after)) : after = host := by
  unfold utility at ran
  split at ran
  · grind [losetup]
  · grind [losetupDetach]
  · grind [needsDevice]
  · grind [needsDevice]
  · grind [needsDevice]
  · grind [mountBind]
  · grind [mountDevice]
  · grind [mountBind]
  · grind [mountDevice]
  · unfold umount at ran
    split at ran <;> cases ran
    rfl
  · grind [mkfs]
  · grind [mkfs]
  · cases ran
    rfl

theorem command_failed {argv : List String} {error : IoError}
    (ran : host.command owner argv = (.error error, after)) : after = host := by
  unfold command at ran
  split at ran
  · exact utility_failed ran
  · exact utility_failed ran

end Host

end Unix
