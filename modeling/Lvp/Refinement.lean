import Lvp.Ledger

/-! The world of a plugin holds one ledger for each volume. A guarded call of a request is a turn on the
ledger of its volume, and leaves record and mounts of every other volume alone. -/

namespace Lvp
open Unix Effect Csi

def targets (name : String) (host : Host) : List Path := (host.mounts.filter (·.owner = name)).map (·.target)

def ledger (name : String) (world : World) : Ledger :=
  ⟨world.store.lookup (volumeKey name), targets name world.host, world.host.devices⟩

/-- What holds of the world as a whole between any two calls. -/
structure Sound (regime : Regime) (world : World) : Prop where
  cwd : world.host.cwd = regime.cwd
  owned : ∀ mount ∈ world.host.mounts, regime.Targets mount.owner mount.target
  trimmed : regime.only.isSome → ∀ device ∈ world.host.devices, trim device = device
  single : ∀ name, ∀ volume ∈ (ledger name world).record, Single volume → (ledger name world).mounted.length ≤ 1

/-- Nothing happened to the other volumes; loop devices are shared. -/
def Elsewhere (name : String) (world after : World) : Prop :=
  ∀ other, other ≠ name → (ledger other after).record = (ledger other world).record ∧
    (ledger other after).mounted = (ledger other world).mounted

variable {regime : Regime} {name : String} {world after : World}

/-! ### Tables -/

theorem filter_eraseP {α : Type} {selected chosen : α → Bool} {entries : List α}
    (within : ∀ entry ∈ entries, chosen entry → selected entry) :
    (entries.eraseP chosen).filter selected = (entries.filter selected).eraseP chosen := by
  induction entries with
  | nil => rfl
  | cons entry rest ih =>
    have tail := ih fun other member => within other (List.mem_cons_of_mem _ member)
    by_cases gone : chosen entry
    · rw [List.eraseP_cons_of_pos gone, List.filter_cons_of_pos (within entry List.mem_cons_self gone),
        List.eraseP_cons_of_pos gone]
    · rw [List.eraseP_cons_of_neg gone]
      by_cases kept : selected entry
      · rw [List.filter_cons_of_pos kept, List.filter_cons_of_pos kept, List.eraseP_cons_of_neg gone, tail]
      · rw [List.filter_cons_of_neg kept, List.filter_cons_of_neg kept, tail]

theorem filter_eraseP_apart {α : Type} {selected chosen : α → Bool} {entries : List α}
    (apart : ∀ entry ∈ entries, chosen entry → ¬selected entry) :
    (entries.eraseP chosen).filter selected = entries.filter selected := by
  induction entries with
  | nil => rfl
  | cons entry rest ih =>
    have tail := ih fun other member => apart other (List.mem_cons_of_mem _ member)
    by_cases gone : chosen entry
    · rw [List.eraseP_cons_of_pos gone, List.filter_cons_of_neg (apart entry List.mem_cons_self gone)]
    · rw [List.eraseP_cons_of_neg gone, List.filter_cons, List.filter_cons, tail]

/-! ### The ledgers of a world -/

@[simp] theorem ledger_mounted (name : String) (world : World) :
    (ledger name world).mounted = targets name world.host := rfl

theorem ledger_insert (volume : Volume) :
    ledger name { world with store := world.store.insert (volumeKey name) volume } =
      { ledger name world with record := some volume } := by
  simp [ledger, AList.lookup_insert]

theorem elsewhere_insert (volume : Volume) :
    Elsewhere name world { world with store := world.store.insert (volumeKey name) volume } := by
  intro other different
  have keys : volumeKey other ≠ volumeKey name := fun same => different (volumeKey_injective same)
  exact ⟨AList.lookup_insert_ne keys, rfl⟩

theorem ledger_erase : ledger name { world with store := world.store.erase (volumeKey name) } =
    { ledger name world with record := none } := by
  simp [ledger, AList.lookup_erase]

theorem elsewhere_erase : Elsewhere name world { world with store := world.store.erase (volumeKey name) } := by
  intro other different
  have keys : volumeKey other ≠ volumeKey name := fun same => different (volumeKey_injective same)
  exact ⟨AList.lookup_erase_ne keys, rfl⟩

theorem ledger_untouched (world : World) {host : Host} (untouched : world.host.Untouched host) (other : String) :
    ledger other { world with host } = ledger other world := by
  obtain ⟨mounts, attachments, -⟩ := untouched
  simp [ledger, targets, mounts, Host.devices_same attachments]

namespace Sound

theorem stepped (sound : Sound regime world) (elsewhere : Elsewhere name world after)
    (cwd : after.host.cwd = world.host.cwd)
    (owned : ∀ mount ∈ after.host.mounts, regime.Targets mount.owner mount.target)
    (trimmed : regime.only.isSome → ∀ device ∈ after.host.devices, trim device = device)
    (own : ∀ volume ∈ (ledger name after).record, Single volume → (ledger name after).mounted.length ≤ 1) :
    Sound regime after := by
  refine ⟨cwd.trans sound.cwd, owned, trimmed, fun other => ?_⟩
  by_cases same : other = name
  · rw [same]
    exact own
  · obtain ⟨record, mounted⟩ := elsewhere other same
    rw [record, mounted]
    exact sound.single other

theorem stored (sound : Sound regime world) {store : Store}
    (elsewhere : Elsewhere name world { world with store })
    (own : ∀ volume ∈ (ledger name { world with store }).record, Single volume →
      (targets name world.host).length ≤ 1) :
    Sound regime { world with store } := sound.stepped elsewhere rfl sound.owned sound.trimmed own

theorem untouched (sound : Sound regime world) {host : Host} (untouched : world.host.Untouched host) :
    Sound regime { world with host } := by
  have same := ledger_untouched world untouched
  obtain ⟨mounts, attachments, cwd⟩ := untouched
  refine ⟨cwd.trans sound.cwd, ?_, ?_, fun other => ?_⟩
  · rw [mounts]
    exact sound.owned
  · rw [Host.devices_same attachments]
    exact sound.trimmed
  · rw [same]
    exact sound.single other

end Sound

/-! ### Commands -/

section Commands
variable {host : Host} {output : String} {target device : Path}

def Turned (regime : Regime) (name output : String) (world after : World) (done : Deed) : Prop :=
  Ran regime output (ledger name world) (ledger name after) done ∧ Elsewhere name world after ∧ Sound regime after

theorem turned_nothing (sound : Sound regime world) (done : world.host.Done name host output .nothing) :
    Turned regime name output world { world with host } .nothing := by
  have same := ledger_untouched world done
  exact ⟨same name, fun other _ => by simp [same], sound.untouched done⟩

theorem turned_mounts (sound : Sound regime world) (owner : regime.Targets name target)
    (free : ∀ volume ∈ (ledger name world).record, Single volume → (ledger name world).mounted = [])
    (done : world.host.Done name host output (.mounts target)) :
    Turned regime name output world { world with host } (.mounts target) := by
  obtain ⟨⟨source, content, readonly, mounts⟩, attachments, cwd⟩ := done
  have devices := Host.devices_same attachments
  have own : targets name host = target :: targets name world.host := by simp [targets, mounts]
  have elsewhere : Elsewhere name world { world with host } := by
    intro other different
    simp [ledger, targets, mounts, Ne.symm different]
  refine ⟨by simp [Ran, ledger, own, devices], elsewhere, sound.stepped elsewhere cwd ?_ ?_ ?_⟩
  · intro mount member
    rw [mounts] at member
    rcases List.mem_cons.mp member with rfl | old
    · exact owner
    · exact sound.owned mount old
  · rw [devices]
    exact sound.trimmed
  · intro volume held single
    have empty : targets name world.host = [] := free volume held single
    simp [own, empty]

theorem turned_unmounts (sound : Sound regime world) (owner : regime.owner (regime.location target) = name)
    (done : world.host.Done name host output (.unmounts target)) :
    Turned regime name output world { world with host } (.unmounts target) := by
  obtain ⟨⟨mount, member, there⟩, mounts, attachments, cwd⟩ := done
  have devices := Host.devices_same attachments
  have location : ∀ path, world.host.resolve path = regime.location path := fun path => by
    rw [Host.resolve, sound.cwd, Regime.location]
  simp only [location] at there mounts
  -- everything mounted at the target belongs to this volume
  have owned : ∀ mount ∈ world.host.mounts, regime.location mount.target = regime.location target →
      mount.owner = name := fun mount member same => by rw [← (sound.owned mount member).1, same, owner]
  have own : targets name host =
      (targets name world.host).eraseP (regime.location · = regime.location target) := by
    rw [targets, mounts, filter_eraseP (by simpa using owned), targets, List.eraseP_map]
    rfl
  have found : mount.target ∈ targets name world.host :=
    List.mem_map_of_mem (List.mem_filter.mpr ⟨member, by simpa using owned mount member there⟩)
  have elsewhere : Elsewhere name world { world with host } := by
    intro other different
    refine ⟨rfl, ?_⟩
    rw [ledger_mounted, ledger_mounted, targets, mounts, filter_eraseP_apart ?_, targets]
    intro mount member same
    rw [owned mount member (by simpa using same)]
    simpa using Ne.symm different
  refine ⟨⟨⟨_, found, there⟩, by simp [ledger, own, devices]⟩, elsewhere, sound.stepped elsewhere cwd ?_ ?_ ?_⟩
  · intro mount member
    rw [mounts] at member
    exact sound.owned mount (List.mem_of_mem_eraseP member)
  · rw [devices]
    exact sound.trimmed
  · intro volume held single
    have fewer : (targets name host).length ≤ (targets name world.host).length := by
      rw [own]
      exact List.length_eraseP_le
    exact fewer.trans (sound.single name volume held single)

theorem turned_attaches (sound : Sound regime world) (done : world.host.Done name host output .attaches) :
    Turned regime name output world { world with host } .attaches := by
  obtain ⟨⟨device, attached, printed⟩, attachments, mounts, cwd⟩ := done
  have devices : host.devices = world.host.devices ∨ host.devices = world.host.freeLoop :: world.host.devices :=
    attachments.imp Host.devices_same fun ⟨_, more⟩ => Host.devices_cons more
  have trimmed : regime.only.isSome → ∀ device ∈ host.devices, trim device = device := by
    intro given
    rcases devices with same | more
    · rw [same]
      exact sound.trimmed given
    · rw [more]
      exact List.forall_mem_cons.mpr ⟨Host.trim_freeLoop _, sound.trimmed given⟩
  have kept : ∀ device ∈ world.host.devices, device ∈ host.devices := by
    rcases devices with same | more
    · simp [same]
    · rw [more]
      exact fun device member => List.mem_cons_of_mem _ member
  have elsewhere : Elsewhere name world { world with host } := by
    intro other _
    simp [ledger, targets, mounts]
  refine ⟨⟨?_, kept, rfl, by simp [targets, mounts]⟩, elsewhere, sound.stepped elsewhere cwd ?_ trimmed ?_⟩
  · intro given
    rw [printed, trim_newline (trimmed given device attached)]
    exact attached
  · rw [mounts]
    exact sound.owned
  · rw [ledger_mounted, targets, mounts]
    exact sound.single name

theorem turned_detaches (sound : Sound regime world) (done : world.host.Done name host output (.detaches device)) :
    Turned regime name output world { world with host } (.detaches device) := by
  obtain ⟨attachments, mounts, cwd⟩ := done
  have devices := Host.devices_filter attachments
  have elsewhere : Elsewhere name world { world with host } := by
    intro other _
    simp [ledger, targets, mounts]
  refine ⟨by simp [Ran, ledger, targets, mounts, devices], elsewhere, sound.stepped elsewhere cwd ?_ ?_ ?_⟩
  · rw [mounts]
    exact sound.owned
  · rw [devices]
    exact fun given device member => sound.trimmed given device (List.mem_of_mem_filter member)
  · rw [ledger_mounted, targets, mounts]
    exact sound.single name

theorem turned_command {argv : List String} (sound : Sound regime world)
    (guarded : Guard regime name (ledger name world) (.command argv))
    (ran : world.host.command name argv = (.ok output, host)) :
    Turned regime name output world { world with host } (deed argv) := by
  have done := Host.command_done ran
  simp only [Guard] at guarded
  cases what : deed argv with
  | mounts target =>
    rw [what] at guarded done
    exact turned_mounts sound guarded.1 guarded.2 done
  | unmounts target =>
    rw [what] at guarded done
    exact turned_unmounts sound guarded done
  | attaches => exact turned_attaches sound (what ▸ done)
  | detaches device => exact turned_detaches sound (what ▸ done)
  | nothing => exact turned_nothing sound (what ▸ done)

end Commands

/-! ### Calls -/

def Answered (regime : Regime) (name : String) (before : Ledger) (call : Call) (after : Ledger) :
    call.Answer → Prop
  | .ok value => Through regime name before after call value
  | .error _ => after = before ∧ ∀ key volume, call = .patch key volume → before.record = none

def Performed (regime : Regime) (name : String) (world : World) (call : Call)
    (result : call.Answer × World) : Prop :=
  Answered regime name (ledger name world) call (ledger name result.2) result.1 ∧
    Elsewhere name world result.2 ∧ Sound regime result.2

theorem performed_same (sound : Sound regime world) {call : Call} {answer : call.Answer}
    (answered : Answered regime name (ledger name world) call (ledger name world) answer) :
    Performed regime name world call (answer, world) := ⟨answered, fun _ _ => ⟨rfl, rfl⟩, sound⟩

theorem performed_failed (sound : Sound regime world) {call : Call} {failure : Failure}
    (other : ∀ key volume, call ≠ .patch key volume) : Performed regime name world call (.error failure, world) :=
  performed_same sound ⟨rfl, fun key volume same => absurd same (other key volume)⟩

theorem performed_file (sound : Sound regime world) {call : Call} {result : Except IoError call.Value × Host}
    (quiet : ∀ value, Through regime name (ledger name world) (ledger name world) call value)
    (onHost : call.onStore = false) (untouched : world.host.Untouched result.2) :
    Performed regime name world call (fromHost world result) := by
  have same := ledger_untouched world untouched
  obtain ⟨answer, host⟩ := result
  refine ⟨?_, fun other _ => by simp only [fromHost, same]; trivial, sound.untouched untouched⟩
  simp only [fromHost, same]
  cases answer with
  | ok value => exact quiet value
  | error failure =>
    refine ⟨rfl, ?_⟩
    rintro _ _ rfl
    cases onHost

theorem performed_command (sound : Sound regime world) {argv : List String}
    (guarded : Guard regime name (ledger name world) (.command argv)) :
    Performed regime name world (.command argv) (world.perform name (.command argv)) := by
  rw [World.perform, fromHost]
  cases ran : world.host.command name argv with
  | mk result host =>
    cases result with
    | ok output =>
      obtain ⟨through, elsewhere, kept⟩ := turned_command sound guarded ran
      exact ⟨through, elsewhere, kept⟩
    | error failure =>
      rw [Host.command_failed ran]
      exact performed_failed sound (by rintro _ _ ⟨⟩)

theorem perform_turn (sound : Sound regime world) {call : Call}
    (guarded : Guard regime name (ledger name world) call) :
    Performed regime name world call (world.perform name call) := by
  cases call with
  | getOpt key =>
    refine performed_same sound ⟨rfl, ?_⟩
    rintro rfl
    rfl
  | create key volume =>
    obtain ⟨rfl, -, unpublished⟩ := guarded
    rw [World.perform]
    split
    · exact performed_failed sound (by rintro _ _ ⟨⟩)
    · rename_i missing
      have none : world.store.lookup (volumeKey name) = none := AList.lookup_eq_none.mpr missing
      refine ⟨⟨none, ledger_insert volume⟩, elsewhere_insert volume, sound.stored (elsewhere_insert volume) ?_⟩
      rw [ledger_insert]
      rintro _ ⟨rfl⟩ ⟨config, published, -⟩
      rw [unpublished] at published
      cases published
  | patch key volume =>
    obtain ⟨rfl, -, -, single⟩ := guarded
    rw [World.perform]
    split
    · rename_i present
      refine ⟨⟨AList.lookup_isSome.mpr present, ledger_insert volume⟩, elsewhere_insert volume,
        sound.stored (elsewhere_insert volume) ?_⟩
      rw [ledger_insert]
      rintro _ ⟨rfl⟩ one
      exact single one
    · rename_i missing
      refine performed_same sound ⟨rfl, ?_⟩
      rintro _ _ ⟨⟩
      exact AList.lookup_eq_none.mpr missing
  | delete key =>
    obtain ⟨rfl, -⟩ := guarded
    rw [World.perform]
    split
    · refine ⟨ledger_erase, elsewhere_erase, sound.stored elsewhere_erase ?_⟩
      rw [ledger_erase]
      rintro _ ⟨⟩
    · exact performed_failed sound (by rintro _ _ ⟨⟩)
  | list => exact performed_same sound rfl
  | tryExists path => exact performed_file sound (fun _ => rfl) rfl (.refl _)
  | createDirAll path => exact performed_file sound (fun _ => rfl) rfl (Host.createDirAll_untouched _ _)
  | createFile path => exact performed_file sound (fun _ => rfl) rfl (Host.createFile_untouched _ _)
  | openWrite path => exact performed_file sound (fun _ => rfl) rfl (.refl _)
  | ftruncate path length => exact performed_file sound (fun _ => rfl) rfl (Host.ftruncate_untouched _ _ _)
  | removeFile path => exact performed_file sound (fun _ => rfl) rfl (Host.removeFile_untouched _ _)
  | removeDirAll path => exact performed_file sound (fun _ => rfl) rfl (Host.removeDirAll_untouched _ _)
  | removeDir path => exact performed_file sound (fun _ => rfl) rfl (Host.removeDir_untouched _ _)
  | command argv => exact performed_command sound guarded
  | statvfs path => exact performed_file sound (fun _ => rfl) rfl (.refl _)

theorem Dropped.missing {request : Request} {before : Ledger} {call : Call}
    (failed : ∀ key volume, call = .patch key volume → before.record = none) :
    Dropped regime request before call := by
  cases call with
  | patch key volume => exact Or.inl (failed key volume rfl)
  | _ => trivial

theorem Dropped.fails {request : Request} {before : Ledger} {call : Call}
    (tame : regime.Tame request call .fails) : Dropped regime request before call := by
  cases call with
  | patch key volume =>
    -- only a write that records a mount or an unmount may not be dropped
    simp only [Regime.Tame, Call.onStore, if_true] at tame
    split at tame
    · rename_i lenient
      exact Or.inr ⟨lenient, fun seals => tame seals rfl⟩
    · cases tame
  | _ => trivial

theorem Regime.Tame.lost {request : Request} {call : Call} (tame : regime.Tame request call .lost) :
    call.onStore ∧ regime.books = .lenient := by
  unfold Regime.Tame at tame
  split at tame
  · rename_i onStore
    split at tame
    · rename_i lenient
      exact ⟨onStore, lenient⟩
    · cases tame
  · exact absurd rfl tame

/-- A guarded call is a turn on the ledger of its volume, and keeps the rest. -/
theorem exec_turn (sound : Sound regime world) {request : Request} {call : Call} {fault : Fault}
    (guarded : Guard regime request.volumeId (ledger request.volumeId world) call)
    (tame : regime.Tame request call fault) :
    Turn regime request (ledger request.volumeId world) call (execFor request fault world call).1
        (ledger request.volumeId (execFor request fault world call).2) ∧
      Elsewhere request.volumeId world (execFor request fault world call).2 ∧
      Sound regime (execFor request fault world call).2 := by
  obtain ⟨answered, elsewhere, kept⟩ := perform_turn sound guarded
  cases fault with
  | none =>
    refine ⟨?_, elsewhere, kept⟩
    simp only [execFor, World.exec]
    cases answer : (world.perform request.volumeId call).1 with
    | ok value =>
      rw [answer] at answered
      exact answered
    | error failure =>
      rw [answer] at answered
      exact Or.inl ⟨answered.1, .missing answered.2⟩
  | fails => exact ⟨Or.inl ⟨rfl, .fails tame⟩, fun _ _ => ⟨rfl, rfl⟩, sound⟩
  | lost =>
    obtain ⟨onStore, lenient⟩ := tame.lost
    refine ⟨?_, elsewhere, kept⟩
    simp only [execFor, World.exec]
    cases answer : (world.perform request.volumeId call).1 with
    | ok value =>
      rw [answer] at answered
      exact Or.inr ⟨lenient, onStore, value, answered⟩
    | error failure =>
      rw [answer] at answered
      exact Or.inl ⟨answered.1, .missing answered.2⟩

end Lvp
