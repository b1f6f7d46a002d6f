import Lvp.Record
import Lvp.Unix.Mounts

/-! What mounting is about, for one volume: the record, the targets it is mounted at and the loop
devices. Handlers act on a ledger through `Turn`; a ledger is `Balanced` when the record accounts
for every mount. `Books` says how strictly, since store calls may fail. -/

namespace Lvp
open Unix Effect Csi

structure Ledger where
  record : Option Volume
  mounted : List Path
  devices : List Path

/-- `exact`: the mounts are at the recorded paths. `lenient`: there are no more mounts than recorded
paths, and store calls may fail. -/
inductive Books where
  | exact
  | lenient
  deriving DecidableEq

/-- `owner` is the volume for which the CO uses a location, `spelled` how it writes targets and `named` how it
names volumes; `only`, if given, is the one volume that requests are about. -/
structure Regime where
  cwd : Location
  owner : Location → String
  books : Books
  spelled : Path → Prop := fun _ => True
  named : String → Prop := fun _ => True
  only : Option String := none

namespace Regime

variable (regime : Regime)

def location (target : Path) : Location := resolve regime.cwd target

def Targets (name : String) (target : Path) : Prop :=
  regime.owner (regime.location target) = name ∧ regime.spelled target

/-- A target the CO may name for the volume; commands get it trimmed. -/
def Fits (name : String) (target : Path) : Prop :=
  regime.Targets name (trim target) ∧ (regime.books = .exact → trim target = target)

def Admits (request : Request) : Prop :=
  (∀ name ∈ regime.only, request.volumeId = name) ∧
    match request with
    | .createVolume request => regime.named request.name
    | .nodePublishVolume request => regime.Fits request.volumeId request.targetPath
    | .nodeUnpublishVolume request => regime.Fits request.volumeId request.targetPath
    | _ => True

/-- Nobody else attaches or detaches loop devices. -/
def Alone (name : String) : Prop := regime.only = some name

theorem Alone.given {regime : Regime} {name : String} (alone : regime.Alone name) : regime.only.isSome := by
  rw [alone]
  rfl

def Tally (mounted paths : List Path) : Prop :=
  match regime.books with
  | .exact => (mounted.map regime.location).Perm (paths.map regime.location)
  | .lenient => mounted.length ≤ paths.length

end Regime

/-- The writes that record a mount or an unmount. -/
def Request.Seals : Request → Call → Prop
  | .nodePublishVolume request, .patch _ volume => Contains volume.mountPaths request.targetPath
  | .nodeUnpublishVolume _, .patch _ _ => True
  | _, _ => False

/-- Host calls fail without effect. Store calls succeed, or fail in any way except that a write that
records a mount or an unmount is not dropped. -/
def Regime.Tame (regime : Regime) (request : Request) (call : Call) (fault : Fault) : Prop :=
  if call.onStore then
    if regime.books = .lenient then request.Seals call → fault ≠ .fails else fault = .none
  else fault ≠ .lost

/-- The volume may be mounted at one target only. -/
def Single (volume : Volume) : Prop := ∃ config ∈ volume.publishedConfig, config.mode ≠ .singleNodeMultiWriter

def Idle (ledger : Ledger) : Prop :=
  (∃ volume, ledger.record = some volume ∧ volume.state = .«open») ∧ ledger.mounted = []

theorem deed_mount (readonly : Bool) (device target : Path) :
    deed (["chroot", "/chr"] ++ mountCommand false readonly device target) = .mounts target := by
  cases readonly <;> simp [mountCommand, deed, utilityDeed]

theorem deed_mountBind (readonly : Bool) (source target : Path) :
    deed (mountCommand true readonly source target) = .mounts target := by
  cases readonly <;> simp [mountCommand, deed, utilityDeed]

/-- Only commands change the mount table and the loop devices. -/
theorem perform_untouched {world : World} {owner : String} {call : Call} (other : ∀ argv, call ≠ .command argv) :
    world.host.Untouched (world.perform owner call).2.host := by
  cases call with
  | create | patch | delete =>
    simp only [World.perform]
    split <;> exact .refl _
  | createDirAll path => exact Host.createDirAll_untouched _ _
  | createFile path => exact Host.createFile_untouched _ _
  | ftruncate path length => exact Host.ftruncate_untouched _ _ _
  | removeFile path => exact Host.removeFile_untouched _ _
  | removeDirAll path => exact Host.removeDirAll_untouched _ _
  | removeDir path => exact Host.removeDir_untouched _ _
  | command argv => exact absurd rfl (other argv)
  | _ => exact .refl _

/-! ### Turns -/

section Turns
variable (regime : Regime)

def Ran (output : String) (before after : Ledger) : Deed → Prop
  | .mounts target => after = { before with mounted := target :: before.mounted }
  | .unmounts target => (∃ other ∈ before.mounted, regime.location other = regime.location target) ∧
      after = { before with
        mounted := before.mounted.eraseP (regime.location · = regime.location target) }
  | .attaches => (regime.only.isSome → trim output ∈ after.devices) ∧
      (∀ device ∈ before.devices, device ∈ after.devices) ∧ after.record = before.record ∧
        after.mounted = before.mounted
  | .detaches device => after = { before with devices := before.devices.filter (· ≠ device) }
  | .nothing => after = before

def Through (name : String) (before after : Ledger) : (call : Call) → call.Value → Prop
  | .getOpt key, found => after = before ∧ (key = volumeKey name → found = before.record)
  | .create _ volume, _ => before.record = none ∧ after = { before with record := some volume }
  | .patch _ volume, _ => before.record.isSome ∧ after = { before with record := some volume }
  | .delete _, _ => after = { before with record := none }
  | .command argv, output => Ran regime output before after (deed argv)
  | _, _ => after = before

/-- A write that is dropped: there is nothing to write to, or it was allowed to fail. -/
def Dropped (request : Request) (before : Ledger) : Call → Prop
  | .patch key volume => before.record = none ∨ regime.books = .lenient ∧ ¬request.Seals (.patch key volume)
  | _ => True

def Turn (request : Request) (before : Ledger) (call : Call) (answer : call.Answer) (after : Ledger) : Prop :=
  match answer with
  | .ok value => Through regime request.volumeId before after call value
  | .error _ => after = before ∧ Dropped regime request before call ∨
      regime.books = .lenient ∧ call.onStore ∧ ∃ value, Through regime request.volumeId before after call value

/-- What a request may do, and when. -/
def Guard (name : String) (ledger : Ledger) : Call → Prop
  | .create key volume => key = volumeKey name ∧ volume.name = name ∧ volume.publishedConfig = none
  | .patch key volume => key = volumeKey name ∧ volume.name = name ∧
      (volume.state ≠ .nodePublished → ledger.mounted = []) ∧ (Single volume → ledger.mounted.length ≤ 1)
  | .delete key => key = volumeKey name ∧ Idle ledger
  | .removeFile _ => Idle ledger
  | .removeDirAll _ => Idle ledger
  | .command argv =>
    match deed argv with
    | .mounts target => regime.Targets name target ∧
        ∀ volume ∈ ledger.record, Single volume → ledger.mounted = []
    | .unmounts target => regime.owner (regime.location target) = name
    | _ => True
  | _ => True

def Still (name : String) (before after : Ledger) : Prop :=
  after.record = before.record ∧ after.mounted = before.mounted ∧
    (regime.Alone name → after.devices = before.devices)

def ledgerLogic (request : Request) : Logic Call Call.Answer Ledger where
  step := Turn regime request
  rely := Still regime request.volumeId
  guard := Guard regime request.volumeId

end Turns

/-! ### Accounting -/

section Accounting
variable {regime : Regime} {name : String} {mounted paths : List Path} {target : Path}

theorem Tally.length_le (tally : regime.Tally mounted paths) : mounted.length ≤ paths.length := by
  unfold Regime.Tally at tally
  split at tally
  · simpa using tally.length_eq.le
  · exact tally

theorem Tally.nil (tally : regime.Tally mounted []) : mounted = [] :=
  List.length_eq_zero_iff.mp (Nat.le_zero.mp (Tally.length_le tally))

theorem Tally.refl_nil : regime.Tally [] [] := by
  unfold Regime.Tally
  split
  · exact .nil
  · exact le_rfl

theorem Tally.mount (tally : regime.Tally mounted paths) (fits : regime.Fits name target) :
    regime.Tally (trim target :: mounted) (paths ++ [target]) := by
  unfold Regime.Tally at *
  split at tally
  · rename_i exactly
    rw [fits.2 exactly, List.map_cons, List.map_append]
    exact (tally.cons _).trans (List.perm_append_singleton _ _).symm
  · simpa using tally

theorem perm_filter_same (distinct : paths.Pairwise (¬same · ·)) (present : Contains paths target) :
    ∃ path ∈ paths, same path target ∧ paths.Perm (path :: paths.filter (¬same · target)) := by
  induction paths with
  | nil =>
    obtain ⟨_, member, _⟩ := present
    cases member
  | cons path rest ih =>
    obtain ⟨head, tail⟩ := List.pairwise_cons.mp distinct
    by_cases first : same path target
    · have others : rest.filter (¬same · target) = rest := by
        rw [List.filter_eq_self]
        intro other member
        have apart := head other member
        simp only [decide_eq_true_eq]
        exact fun equal => apart (first.trans equal.symm)
      refine ⟨path, List.mem_cons_self, first, ?_⟩
      rw [List.filter_cons_of_neg (by simpa using first), others]
    · obtain ⟨other, member, equal⟩ := present
      have later : Contains rest target := by
        rcases List.mem_cons.mp member with rfl | later
        · exact absurd equal first
        · exact ⟨other, later, equal⟩
      obtain ⟨found, inside, equal, perm⟩ := ih tail later
      refine ⟨found, List.mem_cons_of_mem _ inside, equal, ?_⟩
      rw [List.filter_cons_of_pos (by simpa using first)]
      exact (perm.cons path).trans (.swap _ _ _)

theorem Tally.unmount (tally : regime.Tally mounted paths) (distinct : paths.Pairwise (¬same · ·))
    (fits : regime.Fits name target) (present : Contains paths target)
    (found : ∃ other ∈ mounted, regime.location other = regime.location (trim target)) :
    regime.Tally (mounted.eraseP (regime.location · = regime.location (trim target)))
      (paths.filter (¬same · target)) := by
  obtain ⟨other, member, equal⟩ := found
  obtain ⟨path, recorded, spelled, perm⟩ := perm_filter_same distinct present
  obtain ⟨gone, before, after, -, chosen, split, erased⟩ :=
    List.exists_of_eraseP (p := fun other => regime.location other = regime.location (trim target)) member
      (by simpa using equal)
  rw [erased]
  unfold Regime.Tally at *
  split at tally
  · -- both lists lose one entry at the location of the target
    rename_i exactly
    have first : regime.location gone = regime.location target := by
      rw [fits.2 exactly] at chosen
      simpa using chosen
    have second : regime.location path = regime.location target := resolve_same spelled regime.cwd
    have fewer := perm.map regime.location
    rw [List.map_cons, second] at fewer
    rw [split, List.map_append, List.map_cons, first] at tally
    rw [List.map_append]
    exact ((List.perm_middle.symm.trans tally).trans fewer).cons_inv
  · have fewer := perm.length_eq
    rw [List.length_cons] at fewer
    rw [split, List.length_append, List.length_cons] at tally
    rw [List.length_append]
    omega

end Accounting

/-! ### Balanced ledgers -/

structure Kept (regime : Regime) (name : String) (ledger : Ledger) (volume : Volume) : Prop where
  named : volume.name = name
  formed : WellFormed volume
  fitting : ∀ path ∈ volume.mountPaths, regime.Fits name path
  tally : regime.Tally ledger.mounted volume.mountPaths
  looped : regime.Alone name → ∀ device ∈ volume.loopDevice, trim device ∈ ledger.devices

structure Balanced (regime : Regime) (name : String) (ledger : Ledger) : Prop where
  absent : ledger.record = none → ledger.mounted = []
  kept : ∀ volume, ledger.record = some volume → Kept regime name ledger volume

variable {regime : Regime} {name : String} {ledger after : Ledger} {volume written : Volume}

namespace Balanced

theorem still (balanced : Balanced regime name ledger) (same : Still regime name ledger after) :
    Balanced regime name after := by
  obtain ⟨record, mounted, devices⟩ := same
  refine ⟨fun none => ?_, fun volume held => ?_⟩
  · rw [mounted]
    exact balanced.absent (record ▸ none)
  · have kept := balanced.kept volume (record ▸ held)
    refine ⟨kept.named, kept.formed, kept.fitting, by rw [mounted]; exact kept.tally, fun alone => ?_⟩
    rw [devices alone]
    exact kept.looped alone

theorem unmounted (balanced : Balanced regime name ledger) (held : ledger.record = some volume)
    (state : volume.state ≠ .nodePublished) : ledger.mounted = [] := by
  have kept := balanced.kept volume held
  have tally := kept.tally
  rw [kept.formed.mountPaths_nil state] at tally
  exact Tally.nil tally

theorem idle (balanced : Balanced regime name ledger) (held : ledger.record = some volume)
    (state : volume.state = .«open») : Idle ledger := by
  have closed : volume.state ≠ .nodePublished := by
    rw [state]
    nofun
  exact ⟨⟨volume, held, state⟩, balanced.unmounted held closed⟩

theorem single (balanced : Balanced regime name ledger) (held : ledger.record = some volume)
    (single : Single volume) : ledger.mounted.length ≤ 1 := by
  have kept := balanced.kept volume held
  by_cases state : volume.state = .nodePublished
  · obtain ⟨config, published, mode⟩ := single
    obtain ⟨-, -, ⟨other, -, same, one⟩, -⟩ := kept.formed.node state
    cases published.symm.trans same
    rw [← one mode]
    exact Tally.length_le kept.tally
  · rw [balanced.unmounted held state]
    exact Nat.zero_le 1

theorem created (mounted : ledger.mounted = []) (named : written.name = name) (formed : WellFormed written)
    (paths : written.mountPaths = []) (unlooped : written.loopDevice = none) :
    Balanced regime name { ledger with record := some written } := by
  refine ⟨nofun, fun volume held => ?_⟩
  cases held
  refine ⟨named, formed, by simp [paths], ?_, by simp [unlooped]⟩
  rw [mounted, paths]
  exact Tally.refl_nil

theorem deleted (mounted : ledger.mounted = []) : Balanced regime name { ledger with record := none } := by
  refine ⟨fun _ => mounted, ?_⟩
  rintro _ ⟨⟩

theorem rewritten (balanced : Balanced regime name ledger) (held : ledger.record = some volume)
    (rewrite : Rewrite volume written) (paths : written.mountPaths = volume.mountPaths)
    (device : written.loopDevice = volume.loopDevice) :
    Balanced regime name { ledger with record := some written } := by
  have kept := balanced.kept volume held
  refine ⟨nofun, fun other same => ?_⟩
  cases same
  refine ⟨rewrite.name.trans kept.named, rewrite.wellFormed kept.formed, ?_, ?_, ?_⟩
  · rw [paths]
    exact kept.fitting
  · rw [paths]
    exact kept.tally
  · rw [device]
    exact kept.looped

end Balanced

end Lvp
