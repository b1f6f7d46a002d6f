import Lvp.Repetition
import Lvp.Deletion

/-!
NodeUnpublishVolume sent again. The handler changes the host in two steps before it writes the record, and
each of its calls can fail in two ways. A small machine keeps what counts of an attempt, the handler is shown
to follow it from the record it loads, and the second attempt then starts from what the first one left.
-/

namespace Lvp
open Unix Effect Csi

/-! ### The machine -/

/-- How the calls of an attempt go. -/
structure Fates where
  load : Fault
  umount : Fault
  detach : Fault
  save : Fault

/-- What is left of a target: its entry in the record, the mounts on it, the device of its volume. -/
structure Remains where
  recorded : Bool
  mounts : Nat
  attached : Bool

/-- One attempt: whether it returns Ok, and what remains. It is `looped` when it gives up a device. -/
def attempt (looped : Bool) (fates : Fates) (remains : Remains) : Bool × Remains :=
  if fates.load ≠ .none then (false, remains)
  else if remains.recorded = false then (true, remains)
  else if remains.mounts = 0 ∨ fates.umount = .fails then (false, remains)
  else if fates.umount = .lost then (false, { remains with mounts := remains.mounts - 1 })
  else (fates.save = .none, ⟨fates.save = .fails, remains.mounts - 1,
    remains.attached && (!looped || fates.detach = .fails)⟩)

def Finished (looped : Bool) (result : Bool × Remains) : Prop :=
  result.1 = true ∧ result.2.recorded = false ∧ result.2.mounts = 0 ∧
    (looped = true → result.2.attached = false)

/-- What an attempt may leave behind for a healthy one to finish. -/
def Retriable (looped : Bool) (fates : Fates) (remains : Remains) : Prop :=
  if fates.load = .none ∧ fates.umount = .none ∧ fates.save ≠ .fails then
    remains.mounts = 1 ∧ (looped = true → fates.detach ≠ .fails ∨ remains.attached = false)
  else if fates.load = .none ∧ fates.umount ≠ .fails then remains.mounts = 2
  else remains.mounts = 1

instance (looped : Bool) (fates : Fates) (remains : Remains) : Decidable (Retriable looped fates remains) := by
  unfold Retriable
  infer_instance

theorem attempt_recorded {looped : Bool} {remains : Remains} (recorded : remains.recorded = true) :
    Finished looped (attempt looped ⟨.none, .none, .none, .none⟩ remains) ↔ remains.mounts = 1 := by
  obtain ⟨_, mounts, attached⟩ := remains
  obtain rfl : _ = true := recorded
  by_cases none : mounts = 0
  · simp [attempt, Finished, none]
  · cases looped <;> simp [attempt, Finished, none] <;> omega

theorem attempt_unrecorded {looped : Bool} {remains : Remains} (recorded : remains.recorded = false) :
    Finished looped (attempt looped ⟨.none, .none, .none, .none⟩ remains) ↔
      remains.mounts = 0 ∧ (looped = true → remains.attached = false) := by
  simp [attempt, Finished, recorded]

theorem attempt_again {looped : Bool} {fates : Fates} {remains : Remains} (recorded : remains.recorded = true) :
    Finished looped (attempt looped ⟨.none, .none, .none, .none⟩ (attempt looped fates remains).2) ↔
      Retriable looped fates remains := by
  obtain ⟨load, umount, detach, save⟩ := fates
  obtain ⟨_, mounts, attached⟩ := remains
  obtain rfl : _ = true := recorded
  unfold Retriable
  by_cases loaded : load = .none
  · subst loaded
    by_cases none : mounts = 0
    · -- nothing to unmount, now or later
      have same : (attempt looped ⟨.none, umount, detach, save⟩ ⟨true, mounts, attached⟩).2 =
          ⟨true, mounts, attached⟩ := by
        simp [attempt, none]
      rw [same, attempt_recorded rfl]
      subst none
      split_ifs <;> simp
    · cases umount with
      | fails =>
        have same : (attempt looped ⟨.none, .fails, detach, save⟩ ⟨true, mounts, attached⟩).2 =
            ⟨true, mounts, attached⟩ := by
          simp [attempt]
        rw [same, attempt_recorded rfl]
        simp
      | lost =>
        have fewer : (attempt looped ⟨.none, .lost, detach, save⟩ ⟨true, mounts, attached⟩).2 =
            ⟨true, mounts - 1, attached⟩ := by
          simp [attempt, none]
        rw [fewer, attempt_recorded rfl]
        simp
      | none =>
        have released : (attempt looped ⟨.none, .none, detach, save⟩ ⟨true, mounts, attached⟩).2 =
            ⟨decide (save = .fails), mounts - 1, attached && (!looped || detach = .fails)⟩ := by
          simp [attempt, none]
        rw [released]
        by_cases dropped : save = .fails
        · rw [attempt_recorded (by simpa using dropped)]
          simp [dropped]
        · rw [attempt_unrecorded (by simpa using dropped)]
          simp [dropped]
          cases looped <;> cases attached <;> simp <;> omega
  · have same : (attempt looped ⟨load, umount, detach, save⟩ ⟨true, mounts, attached⟩).2 =
        ⟨true, mounts, attached⟩ := by
      simp [attempt, loaded]
    rw [same, attempt_recorded rfl]
    simp [loaded]

/-! ### The host -/

variable {config : Config} {r : NodeUnpublishVolumeRequest} {volume : Volume} {world : World} {remains : Remains}
  {host after : Host} {target device : Path} {oracle : Oracle Call Fault}

/-- The mounts at the location that the commands for a target act on. -/
def stacked (host : Host) (target : Path) : Nat :=
  host.mounts.countP fun mount => host.resolve mount.target = host.resolve (trim target)

theorem countP_eraseP {α : Type} {selected : α → Bool} (entries : List α) :
    (entries.eraseP selected).countP selected = entries.countP selected - 1 := by
  induction entries with
  | nil => rfl
  | cons entry rest ih =>
    cases chosen : selected entry with
    | true => rw [List.eraseP_cons_of_pos chosen, List.countP_cons_of_pos chosen, Nat.add_sub_cancel]
    | false =>
      rw [List.eraseP_cons_of_neg (by simp [chosen]), List.countP_cons_of_neg (by simp [chosen]),
        List.countP_cons_of_neg (by simp [chosen]), ih]

theorem umount_stacked (host : Host) (target : Path) :
    ((host.umount (trim target)).1.isOk ↔ stacked host target ≠ 0) ∧
      stacked (host.umount (trim target)).2 target = stacked host target - 1 := by
  unfold Host.umount
  by_cases mounted : ∃ mount ∈ host.mounts, host.resolve mount.target = host.resolve (trim target)
  · rw [if_pos mounted]
    refine ⟨iff_of_true rfl ?_, countP_eraseP _⟩
    have some : 0 < stacked host target := List.countP_pos_iff.mpr (by simpa using mounted)
    omega
  · rw [if_neg mounted]
    have none : stacked host target = 0 := List.countP_eq_zero.mpr (by simpa using mounted)
    rw [none]
    exact ⟨iff_of_false Bool.false_ne_true (fun differs => differs rfl), rfl⟩

theorem stacked_untouched (untouched : host.Untouched after) (target : Path) :
    stacked after target = stacked host target := by
  obtain ⟨mounts, -, cwd⟩ := untouched
  unfold stacked Host.resolve
  rw [mounts, cwd]

theorem attached_untouched (untouched : host.Untouched after) (device : Path) :
    after.attached device ↔ host.attached device := by
  have listed (host : Host) : host.attached device ↔ device ∈ host.devices := by
    simp [Host.attached, Host.devices]
  rw [listed, listed, Host.devices_same untouched.2.1]

theorem umount_attached (host : Host) (target device : Path) :
    (host.umount target).2.attached device ↔ host.attached device := by
  unfold Host.umount
  split <;> rfl

theorem detach_stacked (host : Host) (device target : Path) :
    stacked (host.losetupDetach device).2 target = stacked host target := by
  unfold Host.losetupDetach
  split <;> rfl

theorem detach_attached (host : Host) (device : Path) : ¬(host.losetupDetach device).2.attached device := by
  unfold Host.losetupDetach
  split
  · rintro ⟨loop, member, same⟩
    simp [same] at member
  · assumption

/-! ### One request -/

/-- The device that the request detaches. -/
def released (volume : Volume) (target : Path) : Option Path :=
  if ∀ path ∈ volume.mountPaths, same path target then volume.loopDevice else none

abbrev umountCall (target : Path) : Call := .command ["chroot", "/chr", "umount", trim target]

abbrev detachCall (device : Path) : Call := .command ["chroot", "/chr", "losetup", "-d", trim device]

/-- The fates of the calls that count. -/
def fates (r : NodeUnpublishVolumeRequest) (volume : Volume) (oracle : Oracle Call Fault) : Fates :=
  let save : Call := .patch volume.key (unmountedFrom volume r.targetPath)
  match released volume r.targetPath with
  | some device => ⟨oracle 0 (.getOpt volume.key), oracle 1 (umountCall r.targetPath), oracle 2 (detachCall device),
      oracle 3 save⟩
  | none => ⟨oracle 0 (.getOpt volume.key), oracle 1 (umountCall r.targetPath), .none, oracle 2 save⟩

/-- What a world still has of the target of a request that has loaded `volume` at first. -/
structure Seen (r : NodeUnpublishVolumeRequest) (volume : Volume) (world : World) (remains : Remains) : Prop where
  held : world.store.lookup volume.key =
    some (if remains.recorded then volume else unmountedFrom volume r.targetPath)
  mounts : stacked world.host r.targetPath = remains.mounts
  attached : ∀ device ∈ released volume r.targetPath,
    (world.host.attached (trim device) ↔ remains.attached = true)

/-- The last two calls. -/
def saving (r : NodeUnpublishVolumeRequest) (written : Volume) : Action Status Reply := do
  written.update.mapErr fun _ => Status.internal "failed to save volume"
  let _ ← ((issue (.removeDir r.targetPath)).attempt : Action Status (Except Failure Unit))
  return .done

theorem run_removing (r : NodeUnpublishVolumeRequest) (oracle : Oracle Call Fault) (world : World) :
    let removing : Action Status Reply := (issue (.removeDir r.targetPath)).attempt >>= fun _ => pure .done
    (removing.run (World.exec r.volumeId) oracle world).1 = .ok .done ∧
      (removing.run (World.exec r.volumeId) oracle world).2.store = world.store ∧
      world.host.Untouched (removing.run (World.exec r.volumeId) oracle world).2.host := by
  dsimp only [issue, Program.attempt, Program.call_bind, Program.run]
  have untouched := Host.removeDir_untouched world.host r.targetPath
  cases oracle 0 (.removeDir r.targetPath) with
  | fails => exact ⟨rfl, rfl, .refl _⟩
  | lost => exact ⟨rfl, rfl, untouched⟩
  | none =>
    dsimp only [World.exec, World.perform, fromHost]
    cases (world.host.removeDir r.targetPath).1 <;> exact ⟨rfl, rfl, untouched⟩

theorem run_saving {written : Volume} (r : NodeUnpublishVolumeRequest) (oracle : Oracle Call Fault)
    (present : written.key ∈ world.store) :
    let result := (saving r written).run (World.exec r.volumeId) oracle world
    let fate := oracle 0 (.patch written.key written)
    (result.1 = .ok .done ↔ fate = .none) ∧
      result.2.store = (if fate = .fails then world.store else world.store.insert written.key written) ∧
      world.host.Untouched result.2.host := by
  dsimp only [saving, Volume.update, issue, Program.mapErr, Program.call_bind, Program.run]
  cases oracle 0 (.patch written.key written) with
  | fails => exact ⟨iff_of_false nofun nofun, rfl, .refl _⟩
  | lost =>
    refine ⟨iff_of_false nofun nofun, ?_, ?_⟩
    · simp [World.exec, World.perform, present, Program.ofExcept, Program.mapErr, Program.run]
    · simp [World.exec, World.perform, present, Program.ofExcept, Program.mapErr, Program.run, Host.Untouched]
  | none =>
    have performed : World.exec r.volumeId .none world (.patch written.key written) =
        (.ok (), { world with store := world.store.insert written.key written }) := if_pos present
    rw [performed]
    obtain ⟨returned, store, untouched⟩ := run_removing r (fun n => oracle (n + 1))
      { world with store := world.store.insert written.key written }
    exact ⟨iff_of_true returned rfl, store, untouched⟩

/-- Everything after the unmount. -/
def releasing (r : NodeUnpublishVolumeRequest) (volume : Volume) : Action Status Reply := do
  releaseLoop volume (unmountedFrom volume r.targetPath)
  saving r (unmountedFrom volume r.targetPath)

theorem releasing_eq (r : NodeUnpublishVolumeRequest) (volume : Volume) : releasing r volume =
    match released volume r.targetPath with
    | some device => .call (detachCall device) fun _ => saving r (unmountedFrom volume r.targetPath)
    | none => saving r (unmountedFrom volume r.targetPath) := by
  unfold releasing releaseLoop released
  split
  case h_1 device looped last =>
    rw [if_pos ((unmountedFrom_nil volume r.targetPath).mp last), looped]
    refine congrArg (Program.call (detachCall device)) (funext fun answer => ?_)
    cases answer <;> rfl
  case h_2 other =>
    by_cases last : ∀ path ∈ volume.mountPaths, same path r.targetPath
    · rw [if_pos last]
      cases looped : volume.loopDevice with
      | none => rfl
      | some device => exact absurd ((unmountedFrom_nil _ _).mpr last) (other device looped)
    · rw [if_neg last]
      rfl

theorem Seen.saved {mounts : Nat} {attached : Bool} (oracle : Oracle Call Fault)
    (seen : Seen r volume world ⟨true, mounts, attached⟩) :
    let result := (saving r (unmountedFrom volume r.targetPath)).run (World.exec r.volumeId) oracle world
    let fate := oracle 0 (.patch volume.key (unmountedFrom volume r.targetPath))
    (result.1 = .ok .done ↔ fate = .none) ∧ Seen r volume result.2 ⟨fate = .fails, mounts, attached⟩ := by
  have key := unmountedFrom_key volume r.targetPath
  have present : (unmountedFrom volume r.targetPath).key ∈ world.store := by
    rw [key]
    exact AList.lookup_isSome.mp (by rw [seen.held]; rfl)
  obtain ⟨returned, store, untouched⟩ := run_saving r oracle present
  rw [key] at returned store
  refine ⟨returned, ?_, (stacked_untouched untouched _).trans seen.mounts, fun device named => ?_⟩
  · rw [store]
    by_cases dropped : oracle 0 (.patch volume.key (unmountedFrom volume r.targetPath)) = .fails
    · simpa only [dropped, if_true, decide_true] using seen.held
    · simp [dropped]
  · exact (attached_untouched untouched _).trans (seen.attached device named)

theorem Seen.detached {mounts : Nat} {attached : Bool} (seen : Seen r volume world ⟨true, mounts, attached⟩)
    (fault : Fault) (named : released volume r.targetPath = some device) :
    Seen r volume (World.exec r.volumeId fault world (detachCall device)).2
      ⟨true, mounts, attached && fault = .fails⟩ := by
  have gone (fault : Fault) (acts : fault ≠ .fails) :
      (World.exec r.volumeId fault world (detachCall device)).2 =
        { world with host := (world.host.losetupDetach (trim device)).2 } := by
    cases fault <;> first | rfl | exact absurd rfl acts
  by_cases kept : fault = .fails
  · subst kept
    rw [decide_eq_true rfl, Bool.and_true]
    exact seen
  · rw [gone fault kept]
    refine ⟨seen.held, (detach_stacked _ _ _).trans seen.mounts, fun other same => ?_⟩
    cases named.symm.trans same
    simpa [kept] using detach_attached world.host (trim device)

/-- Everything after the record has been loaded. -/
def unmounting (r : NodeUnpublishVolumeRequest) (volume : Volume) : Action Status Reply := do
  (unmountVolume r.targetPath).mapErr fun _ => Status.internal "failed to unmount volume"
  releasing r volume

theorem handle_nodeUnpublish (named : r.volumeId ≠ "") (target : r.targetPath ≠ "") :
    handle config (.nodeUnpublishVolume r) = .call (.getOpt (volumeKey r.volumeId)) fun answer =>
      match answer with
      | .error _ => .raise (.internal "internal failure")
      | .ok none => .raise (.notFound "volume_id not found")
      | .ok (some volume) =>
        if volume.state ≠ .nodePublished ∨ ¬Contains volume.mountPaths r.targetPath then pure .done
        else unmounting r volume := by
  rw [handle, nodeUnpublishVolume, Program.reject, if_neg named, Program.ret_bind, Program.reject, if_neg target,
    Program.ret_bind]
  refine congrArg (Program.call (Call.getOpt (volumeKey r.volumeId))) (funext fun answer => ?_)
  cases answer with
  | error failure => rfl
  | ok found =>
    cases found with
    | none => rfl
    | some volume =>
      show (if volume.state ≠ .nodePublished ∨ ¬Contains volume.mountPaths r.targetPath then pure ()
        else _ : Action Status Unit) >>= (fun _ => pure Reply.done) =
        if volume.state ≠ .nodePublished ∨ ¬Contains volume.mountPaths r.targetPath then _ else _
      by_cases idle : volume.state ≠ .nodePublished ∨ ¬Contains volume.mountPaths r.targetPath
      · rw [if_pos idle, if_pos idle]
        rfl
      · rw [if_neg idle, if_neg idle]
        simp only [unmounting, releasing, saving, Program.bind_assoc]
        rfl

theorem Seen.releasing {mounts : Nat} {attached : Bool} (seen : Seen r volume world ⟨true, mounts, attached⟩) :
    let result := (Lvp.releasing r volume).run (World.exec r.volumeId) (fun n => oracle (n + 2)) world
    let later := fates r volume oracle
    (result.1 = .ok .done ↔ later.save = .none) ∧ Seen r volume result.2 ⟨later.save = .fails, mounts,
      attached && (!(released volume r.targetPath).isSome || later.detach = .fails)⟩ := by
  rw [releasing_eq]
  unfold fates
  cases named : released volume r.targetPath with
  | none =>
    obtain ⟨returned, left⟩ := seen.saved fun n => oracle (n + 2)
    simp only [Option.isSome_none, Bool.not_false, Bool.true_or, Bool.and_true]
    exact ⟨returned, left⟩
  | some device =>
    obtain ⟨returned, left⟩ := (seen.detached (oracle 2 (detachCall device)) named).saved fun n =>
      oracle (n + 3)
    simp only [Option.isSome_some, Bool.not_true, Bool.false_or]
    exact ⟨returned, left⟩

theorem Seen.unmounted {mounts : Nat} {attached : Bool} (seen : Seen r volume world ⟨true, mounts, attached⟩) :
    Seen r volume { world with host := (world.host.umount (trim r.targetPath)).2 }
      ⟨true, mounts - 1, attached⟩ := by
  refine ⟨seen.held, ?_, fun device named => ?_⟩
  · rw [(umount_stacked _ _).2, seen.mounts]
  · exact (umount_attached _ _ _).trans (seen.attached device named)

theorem run_unmounting (r : NodeUnpublishVolumeRequest) (volume : Volume) (oracle : Oracle Call Fault)
    (world : World) :
    (unmounting r volume).run (World.exec r.volumeId) oracle world =
      let after := { world with host := (world.host.umount (trim r.targetPath)).2 }
      match oracle 0 (umountCall r.targetPath) with
      | .fails => (.error (.internal "failed to unmount volume"), world)
      | .lost => (.error (.internal "failed to unmount volume"), after)
      | .none => if (world.host.umount (trim r.targetPath)).1.isOk then
            (releasing r volume).run (World.exec r.volumeId) (fun n => oracle (n + 1)) after
          else (.error (.internal "failed to unmount volume"), after) := by
  show Program.run _ (((Program.ofExcept (World.exec r.volumeId (oracle 0 (umountCall r.targetPath)) world
      (umountCall r.targetPath)).1 >>= fun _ => pure ()).mapErr _) >>= fun _ => releasing r volume) _
      (World.exec r.volumeId (oracle 0 (umountCall r.targetPath)) world (umountCall r.targetPath)).2 = _
  cases oracle 0 (umountCall r.targetPath) with
  | fails => rfl
  | lost => rfl
  | none =>
    have performed : World.exec r.volumeId .none world (umountCall r.targetPath) =
        fromHost world (world.host.umount (trim r.targetPath)) := rfl
    rw [performed]
    cases ran : world.host.umount (trim r.targetPath) with
    | mk answer after => cases answer <;> rfl

theorem Seen.unmounting {mounts : Nat} {attached : Bool} (seen : Seen r volume world ⟨true, mounts, attached⟩) :
    let result := (Lvp.unmounting r volume).run (World.exec r.volumeId) (fun n => oracle (n + 1)) world
    let tried := attempt (released volume r.targetPath).isSome { fates r volume oracle with load := .none }
      ⟨true, mounts, attached⟩
    (result.1 = .ok .done ↔ tried.1 = true) ∧ Seen r volume result.2 tried.2 := by
  have fate : (fates r volume oracle).umount = oracle 1 (umountCall r.targetPath) := by
    unfold fates
    split <;> rfl
  have below := (umount_stacked world.host r.targetPath).1
  rw [seen.mounts] at below
  have left := seen.unmounted
  rw [run_unmounting]
  dsimp only [attempt]
  rw [fate]
  cases umount : oracle 1 (umountCall r.targetPath) with
  | fails => simpa [umount] using seen
  | lost =>
    dsimp only
    by_cases none : mounts = 0
    · subst none
      simpa using left
    · simpa [none] using left
  | none =>
    dsimp only
    by_cases none : mounts = 0
    · subst none
      rw [if_neg (fun ok => below.mp ok rfl)]
      simpa using left
    · rw [if_pos (below.mpr none)]
      simpa [none] using left.releasing

theorem Seen.served (config : Config) (oracle : Oracle Call Fault) (named : r.volumeId ≠ "")
    (target : r.targetPath ≠ "") (own : volume.key = volumeKey r.volumeId) (unmountable : Unmountable r volume)
    (seen : Seen r volume world remains) :
    let result := serve config (.nodeUnpublishVolume r) oracle world
    let tried := attempt (released volume r.targetPath).isSome (fates r volume oracle) remains
    (result.1 = .ok .done ↔ tried.1 = true) ∧ Seen r volume result.2 tried.2 := by
  have fate : (fates r volume oracle).load = oracle 0 (.getOpt (volumeKey r.volumeId)) := by
    unfold fates
    split <;> rw [own]
  have held := seen.held
  rw [own] at held
  obtain ⟨recorded, mounts, attached⟩ := remains
  rw [serve, handle_nodeUnpublish named target, execFor, Program.run]
  cases load : oracle 0 (.getOpt (volumeKey r.volumeId)) with
  | fails =>
    rw [attempt, if_pos (by rw [fate, load]; exact Fault.noConfusion)]
    exact ⟨iff_of_false (fun returned => by cases returned) Bool.false_ne_true, seen⟩
  | lost =>
    rw [attempt, if_pos (by rw [fate, load]; exact Fault.noConfusion)]
    exact ⟨iff_of_false (fun returned => by cases returned) Bool.false_ne_true, seen⟩
  | none =>
    have answered : World.exec r.volumeId .none world (.getOpt (volumeKey r.volumeId)) =
        (.ok (world.store.lookup (volumeKey r.volumeId)), world) := rfl
    rw [load] at fate
    dsimp only [Request.volumeId]
    rw [answered, held]
    dsimp only
    cases recorded with
    | false =>
      -- the record no longer names the target
      have idle := unmountedFrom_absent volume r.targetPath
      rw [if_neg Bool.false_ne_true, if_pos (.inr idle), attempt, if_neg (by simp [fate]), if_pos rfl]
      exact ⟨iff_of_true rfl rfl, seen⟩
    | true =>
      rw [if_pos rfl, if_neg (by simp [unmountable.state, unmountable.present])]
      have same : { fates r volume oracle with load := .none } = fates r volume oracle := by rw [← fate]
      rw [← same]
      exact seen.unmounting

/-! ### The retry -/

/-- What the retry of an unpublish of `volume` is to bring about. -/
structure Completed (r : NodeUnpublishVolumeRequest) (volume : Volume)
    (result : Except Status Reply × World) : Prop where
  returned : result.1 = .ok .done
  unmounted : ∀ mount ∈ result.2.host.mounts,
    result.2.host.resolve mount.target ≠ result.2.host.resolve (trim r.targetPath)
  recorded : ∃ now, result.2.store.lookup volume.key = some now ∧ ¬Contains now.mountPaths r.targetPath ∧
    ((∀ path ∈ volume.mountPaths, same path r.targetPath) → now.state = .controllerPublished ∧
      now.loopDevice = none ∧ ∀ device ∈ volume.loopDevice, ¬result.2.host.attached (trim device))

theorem unmountedFrom_last (last : ∀ path ∈ volume.mountPaths, same path target) :
    (unmountedFrom volume target).state = .controllerPublished ∧
      (unmountedFrom volume target).loopDevice = none := by
  have none : volume.mountPaths.filter (¬same · target) = [] := by
    rw [← unmountedFrom_mountPaths]
    exact (unmountedFrom_nil volume target).mpr last
  unfold unmountedFrom
  dsimp only
  rw [if_pos none]
  exact ⟨rfl, rfl⟩

theorem Seen.completed {result : Except Status Reply × World} {tried : Bool × Remains}
    (present : Contains volume.mountPaths r.targetPath) (returned : result.1 = .ok .done ↔ tried.1 = true)
    (seen : Seen r volume result.2 tried.2) :
    Completed r volume result ↔ Finished (released volume r.targetPath).isSome tried := by
  have clear : stacked result.2.host r.targetPath = 0 ↔ ∀ mount ∈ result.2.host.mounts,
      result.2.host.resolve mount.target ≠ result.2.host.resolve (trim r.targetPath) := by
    unfold stacked
    rw [List.countP_eq_zero]
    simp
  rw [seen.mounts] at clear
  constructor
  · rintro ⟨ok, unmounted, now, held, gone, last⟩
    have recorded : tried.2.recorded = false := by
      cases still : tried.2.recorded with
      | false => rfl
      | true =>
        have kept := seen.held
        rw [still, if_pos rfl] at kept
        cases held.symm.trans kept
        exact absurd present gone
    refine ⟨returned.mp ok, recorded, clear.mpr unmounted, fun named => ?_⟩
    obtain ⟨device, named⟩ := Option.isSome_iff_exists.mp named
    have lastOne : ∀ path ∈ volume.mountPaths, same path r.targetPath := by
      by_contra others
      rw [released, if_neg others] at named
      cases named
    have looped : volume.loopDevice = some device := by rwa [released, if_pos lastOne] at named
    have detached := (last lastOne).2.2 device looped
    rw [seen.attached device named] at detached
    exact Bool.eq_false_iff.mpr detached
  · rintro ⟨ok, recorded, unmounted, attached⟩
    have held := seen.held
    rw [recorded, if_neg Bool.false_ne_true] at held
    refine ⟨returned.mpr ok, clear.mp unmounted, _, held, unmountedFrom_absent volume r.targetPath, fun last => ?_⟩
    obtain ⟨state, unlooped⟩ := unmountedFrom_last last
    refine ⟨state, unlooped, fun device looped => ?_⟩
    have named : released volume r.targetPath = some device := by rwa [released, if_pos last]
    rw [seen.attached device named, attached (by rw [named]; rfl)]
    exact Bool.false_ne_true

theorem fates_healthy (r : NodeUnpublishVolumeRequest) (volume : Volume) :
    fates r volume healthy = ⟨.none, .none, .none, .none⟩ := by
  unfold fates
  dsimp only
  split <;> rfl

/-- What a world still has of a target that is recorded. -/
def standing (volume : Volume) (target : Path) (host : Host) : Remains :=
  ⟨true, stacked host target, decide (∃ device ∈ released volume target, host.attached (trim device))⟩

theorem Seen.before (held : world.store.lookup volume.key = some volume) :
    Seen r volume world (standing volume r.targetPath world.host) := by
  refine ⟨by rw [held]; rfl, rfl, fun device named => ?_⟩
  simp [standing, Option.mem_def.mp named]

/-- The fate of the update. -/
def Sample.updating (fault : Fault) : Oracle Call Fault
  | _, .patch _ _ => fault
  | _, _ => .none

def Sample.mountedOnce : Volume :=
  mountedAt { pinned with state := .controllerPublished, publishedConfig := some ⟨.singleNodeWriter⟩ }
    (some "/dev/loop0\n") "/t"

end Lvp
