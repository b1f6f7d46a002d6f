import Mathlib.Data.List.AList
import Lvp.Unix.Path

/-!
The part of a Linux host that a volume plugin touches: a file tree, loop devices and the mount
table, with the system calls and utilities that change them. Path lookup is lexical (no symbolic
links). A mount remembers on whose behalf it was made and where the data it shows lay. What the model
does not know of (open files, mounts below a mount, quotas, limits on names and file sizes) makes a call
fail from outside.
-/

namespace Unix

inductive IoError where
  | notFound
  | alreadyExists
  | notADirectory
  | isADirectory
  | directoryNotEmpty
  | invalidInput
  | other
  deriving DecidableEq, Repr

inductive Node where
  | directory
  | file (length : Nat) (format : Option String)
  deriving DecidableEq, Repr

/-- A device attached to the file that lay at `file`. Once that is unlinked, the device goes on with it. -/
structure LoopDevice where
  device : Path
  file : Location
  deleted : Bool := false
  deriving DecidableEq, Repr

/-- Where the file of the device is found. -/
def LoopDevice.backing (loop : LoopDevice) : Option Location := if loop.deleted then none else some loop.file

@[simp] theorem LoopDevice.backing_attached (device : Path) (file : Location) :
    LoopDevice.backing ⟨device, file, false⟩ = some file := rfl

/-- `content` is where the mounted file or directory lay, unless its file had been unlinked. -/
structure Mount where
  owner : String
  source : Path
  content : Option Location
  target : Path
  readonly : Bool
  deriving DecidableEq, Repr

/-- `struct statvfs64`. -/
structure Statvfs64 where
  bsize : UInt64 := 0
  frsize : UInt64 := 0
  blocks : UInt64 := 0
  bfree : UInt64 := 0
  bavail : UInt64 := 0
  files : UInt64 := 0
  ffree : UInt64 := 0
  favail : UInt64 := 0
  fsid : UInt64 := 0
  flag : UInt64 := 0

/-- `least` is the smallest image each `mkfs` takes. `takesBind` says whether `mount` accepts `bind` for
`--bind`, which util-linux does not. -/
structure Host where
  cwd : Location := []
  files : AList (fun _ : Location => Node) := ∅
  loops : List LoopDevice := []
  mounts : List Mount := []
  statvfs : Location → Statvfs64 := fun _ => {}
  least : String → Nat := fun _ => 0
  takesBind : Bool := false

namespace Host

variable (host : Host)

def node (location : Location) : Option Node :=
  if location = [] then some .directory else host.files.lookup location

def start (path : Path) : Location := if isAbsolute path then [] else host.cwd

def resolve (path : Path) : Location := Unix.resolve host.cwd path

/-- The last segment is empty or `.`, so that the kernel only accepts a directory. -/
def namesDirectory (path : Path) : Prop :=
  (segments path).getLast? = some [] ∨ (segments path).getLast? = some ['.']

instance (path : Path) : Decidable (namesDirectory path) := inferInstanceAs (Decidable (_ ∨ _))

/-- The locations a lookup passes through, the last one excluded. -/
def passes (path : Path) : List Location :=
  (components path).dropLast.inits.map (·.foldl enter (host.start path))

/-- Lookup up to the last component, which need not exist. -/
def locate (path : Path) : Except IoError Location :=
  if path = "" then .error .notFound
  else match (host.passes path).find? (fun location => host.node location ≠ some .directory) with
    | some location => .error (if host.node location = none then .notFound else .notADirectory)
    | none => .ok (host.resolve path)

def stat (path : Path) : Except IoError Node :=
  match host.locate path with
  | .error error => .error error
  | .ok location =>
    match host.node location with
    | none => .error .notFound
    | some .directory => .ok .directory
    | some (.file length format) =>
      if namesDirectory path then .error .notADirectory else .ok (.file length format)

def tryExists (path : Path) : Except IoError Bool :=
  match host.stat path with
  | .ok _ => .ok true
  | .error .notFound => .ok false
  | .error error => .error error

/-- Creates the missing directories in order and stops at the first thing that is not one. -/
def mkdirs : List Location → Host → Except IoError Unit × Host
  | [], host => (.ok (), host)
  | location :: rest, host =>
    match host.node location with
    | some .directory => mkdirs rest host
    | some (.file _ _) => (.error .alreadyExists, host)
    | none => mkdirs rest { host with files := host.files.insert location .directory }

/-- A final `.` is passed over, where `mkdir` fails unless its directory is there already. -/
def createDirAll (path : Path) : Except IoError Unit × Host :=
  if path = "" then (.ok (), host)
  else mkdirs ((components path).inits.map (·.foldl enter (host.start path))) host

/-- `open` with `O_CREAT` and `O_TRUNC`. -/
def createFile (path : Path) : Except IoError Unit × Host :=
  match host.locate path with
  | .error error => (.error error, host)
  | .ok location =>
    if host.node location = some .directory ∨ namesDirectory path then (.error .isADirectory, host)
    else (.ok (), { host with files := host.files.insert location (.file 0 none) })

def openWrite (path : Path) : Except IoError Unit :=
  match host.stat path with
  | .error error => .error error
  | .ok .directory => .error .isADirectory
  | .ok (.file _ _) => .ok ()

/-- `ftruncate` on the descriptor opened at `path`. -/
def ftruncate (path : Path) (length : Int64) : Except IoError Unit × Host :=
  if length < 0 then (.error .invalidInput, host)
  else match host.node (host.resolve path) with
    | some (.file _ format) =>
      (.ok (), { host with
        files := host.files.insert (host.resolve path) (.file length.toInt.toNat format) })
    | _ => (.ok (), host)

/-- Forgets every file and directory the test selects; devices keep running on unlinked files. -/
def unlink (selected : Location → Bool) : Host :=
  { host with
    files := ⟨host.files.entries.filter (fun entry => !selected entry.1),
      host.files.nodupKeys.sublist List.filter_sublist⟩
    loops := host.loops.map fun loop =>
      if selected loop.file then { loop with deleted := true } else loop }

def removeFile (path : Path) : Except IoError Unit × Host :=
  match host.stat path with
  | .error error => (.error error, host)
  | .ok .directory => (.error .isADirectory, host)
  | .ok (.file _ _) => (.ok (), host.unlink (· = host.resolve path))

/-- The root itself cannot go, only what is below it. A final `.` is passed over, where the last `rmdir`
fails. -/
def removeDirAll (path : Path) : Except IoError Unit × Host :=
  match host.stat path with
  | .error error => (.error error, host)
  | .ok (.file _ _) => (.error .notADirectory, host)
  | .ok .directory =>
    let after := host.unlink (host.resolve path <+: ·)
    if host.resolve path = [] then (.error .other, after) else (.ok (), after)

def removeDir (path : Path) : Except IoError Unit × Host :=
  match host.stat path with
  | .error error => (.error error, host)
  | .ok (.file _ _) => (.error .notADirectory, host)
  | .ok .directory =>
    if host.resolve path = [] then (.error .other, host)
    else if host.files.keys.any (Below (host.resolve path) ·) then (.error .directoryNotEmpty, host)
    else (.ok (), host.unlink (· = host.resolve path))

/-! ### Utilities -/

def loopName (n : Nat) : Path := "/dev/loop" ++ toString n

def freeLoop : Path :=
  loopName (((List.range (host.loops.length + 1)).find?
    fun n => !(host.loops.map (·.device)).contains (loopName n)).getD host.loops.length)

def attached (device : Path) : Prop := ∃ loop ∈ host.loops, loop.device = device

instance (device : Path) : Decidable (host.attached device) :=
  inferInstanceAs (Decidable (∃ loop ∈ host.loops, loop.device = device))

/-- `losetup --show -L -f`: reuses the device of the file or takes the first free one, and prints
its name. -/
def losetup (source : Path) : Except IoError String × Host :=
  match host.stat source with
  | .error error => (.error error, host)
  | .ok .directory => (.error .isADirectory, host)
  | .ok (.file _ _) =>
    match host.loops.find? (·.backing = some (host.resolve source)) with
    | some loop => (.ok (loop.device ++ "\n"), host)
    | none => (.ok (host.freeLoop ++ "\n"),
        { host with loops := ⟨host.freeLoop, host.resolve source, false⟩ :: host.loops })

/-- `losetup -d`. A mounted device goes at once, where the kernel would wait for the unmount. -/
def losetupDetach (device : Path) : Except IoError String × Host :=
  if host.attached device then
    (.ok "", { host with loops := host.loops.filter (·.device ≠ device) })
  else (.error .notFound, host)

def formatted (device : Path) : Bool :=
  host.loops.any fun loop => loop.device = device && match loop.backing with
    | none => true
    | some location => match host.node location with
      | some (.file _ format) => format.isSome
      | _ => false

/-- Where the file of a device is found, if the device is attached and the file still there. -/
def behind (device : Path) : Option Location := (host.loops.find? (·.device = device)).bind (·.backing)

/-- What is mounted on top at the target. -/
def top (target : Path) : Option Mount := host.mounts.find? (host.resolve ·.target = host.resolve target)

/-- A device is not mounted on itself. -/
def mountDevice (owner : String) (readonly : Bool) (device target : Path) :
    Except IoError String × Host :=
  if host.formatted device ∧ host.stat target = .ok .directory ∧ ∀ mount ∈ host.top target,
    mount.source ≠ device then
    (.ok "", { host with mounts := ⟨owner, device, host.behind device, target, readonly⟩ :: host.mounts })
  else (.error .other, host)

def mountBind (owner : String) (readonly : Bool) (source target : Path) :
    Except IoError String × Host :=
  if host.takesBind ∧ host.stat source = .ok .directory ∧ host.stat target = .ok .directory then
    (.ok "", { host with mounts := ⟨owner, source, some (host.resolve source), target, readonly⟩ :: host.mounts })
  else (.error .other, host)

/-- Undoes the newest mount at the target. -/
def umount (target : Path) : Except IoError String × Host :=
  if ∃ mount ∈ host.mounts, host.resolve mount.target = host.resolve target then
    (.ok "", { host with
      mounts := host.mounts.eraseP (host.resolve ·.target = host.resolve target) })
  else (.error .invalidInput, host)

def mkfs (format : String) (path : Path) : Except IoError String × Host :=
  match host.stat path with
  | .ok (.file length _) =>
    if length < host.least format then (.error .other, host)
    else (.ok "", { host with
      files := host.files.insert (host.resolve path) (.file length (some format)) })
  | _ => (.error .other, host)

def needsDevice (device : Path) : Except IoError String × Host :=
  if host.attached device then (.ok "", host) else (.error .notFound, host)

/-- The command lines this host knows; anything else fails. -/
def utility (owner : String) (argv : List String) : Except IoError String × Host :=
  match argv with
  | ["losetup", "--show", "-L", "-f", source] => host.losetup source
  | ["losetup", "-d", device] => host.losetupDetach device
  | ["losetup", "-c", device] => host.needsDevice device
  | ["resize2fs", device] => host.needsDevice device
  | ["xfs_growfs", "-d", device] => host.needsDevice device
  -- the word stands where util-linux has the option `--bind`
  | ["mount", "bind", "-r", source, target] => host.mountBind owner true source target
  | ["mount", "-r", device, target] => host.mountDevice owner true device target
  | ["mount", "bind", source, target] => host.mountBind owner false source target
  | ["mount", device, target] => host.mountDevice owner false device target
  | ["umount", target] => host.umount target
  | ["mkfs.ext4", path] => host.mkfs "ext4" path
  | ["mkfs.xfs", path] => host.mkfs "xfs" path
  | _ => (.error .other, host)

/-- `chroot DIR` runs the same utility on the directories bound below `DIR`. -/
def command (owner : String) (argv : List String) : Except IoError String × Host :=
  match argv with
  | "chroot" :: _ :: rest => host.utility owner rest
  | _ => host.utility owner argv

/-! ### What the calls leave -/

theorem dlookup_filter {α β : Type} [DecidableEq α] (selected : α → Bool) (entries : List ((_ : α) × β))
    (key : α) :
    (entries.filter fun entry => !selected entry.1).dlookup key =
      if selected key then none else entries.dlookup key := by
  induction entries with
  | nil => simp
  | cons entry rest ih =>
    obtain ⟨other, value⟩ := entry
    by_cases same : key = other
    · subst same
      cases chosen : selected key <;> simp [chosen, ih]
    · cases chosen : selected other <;> simp [chosen, ih, List.dlookup_cons_ne, same]

theorem node_unlink (host : Host) (selected : Location → Bool) {location : Location} (below : location ≠ []) :
    (host.unlink selected).node location = if selected location then none else host.node location := by
  rw [node, if_neg below, node, if_neg below]
  exact dlookup_filter selected host.files.entries location

theorem removeFile_ok {host after : Host} {path : Path} :
    host.removeFile path = (.ok (), after) ↔
      (∃ length format, host.stat path = .ok (.file length format)) ∧
        after = host.unlink (· = host.resolve path) := by
  unfold removeFile
  cases held : host.stat path with
  | error error => simp
  | ok node => cases node <;> simp [eq_comm]

theorem removeDirAll_ok {host after : Host} {path : Path} :
    host.removeDirAll path = (.ok (), after) ↔
      (host.stat path = .ok .directory ∧ host.resolve path ≠ []) ∧
        after = host.unlink (host.resolve path <+: ·) := by
  unfold removeDirAll
  cases held : host.stat path with
  | error error => simp
  | ok node =>
    cases node with
    | file length format => simp
    | directory => by_cases root : host.resolve path = [] <;> simp [root, eq_comm]

theorem stat_file {host : Host} {path : Path} {length : Nat} {format : Option String}
    (held : host.stat path = .ok (.file length format)) : host.resolve path ≠ [] := by
  intro root
  unfold stat locate at held
  split at held
  · cases held
  · rename_i location found
    split at found
    · cases found
    · split at found
      · cases found
      · cases found
        rw [root] at held
        simp [node] at held

end Host

end Unix
