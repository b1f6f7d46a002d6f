import Lvp.Ledger
import Lvp.Sequence

/-!
Ok from NodeUnpublishVolume. The fast path answers from the record alone, so it is right as long as every
mount is in the record of its volume; the one call that can break this is the write after a mount.
-/

namespace Lvp
open Unix Effect Csi

/-- How the CO writes targets: one spelling for each location, and one volume for each location. -/
structure Targeting where
  cwd : Location
  owner : Location → String
  spelled : Path → Prop
  trimmed : ∀ target, spelled target → trim target = target
  once : ∀ p q, spelled p → spelled q → resolve cwd p = resolve cwd q → same p q

def Targeting.Names (targeting : Targeting) : Request → Prop
  | .nodePublishVolume r => targeting.spelled r.targetPath ∧
      targeting.owner (resolve targeting.cwd r.targetPath) = r.volumeId
  | .nodeUnpublishVolume r => targeting.spelled r.targetPath
  | _ => True

/-- A command line that mounts or unmounts. -/
def Call.remounts : Call → Bool
  | .command argv => match deed argv with
    | .mounts _ | .unmounts _ => true
    | _ => false
  | _ => false

/-- A mount that was made is reported and recorded. -/
def MountKept : Request × CallEvent → Prop
  | (.nodePublishVolume r, entry) => (entry.op.mounts → entry.fault ≠ .lost) ∧
      ((Request.nodePublishVolume r).Seals entry.op → entry.fault ≠ .fails)
  | _ => True

def IsMounted (name : String) (target : Path) (host : Host) : Prop :=
  ∃ mount ∈ host.mounts, mount.owner = name ∧ host.resolve mount.target = host.resolve target

instance (name : String) (target : Path) (host : Host) : Decidable (IsMounted name target host) :=
  inferInstanceAs (Decidable (∃ mount ∈ host.mounts, _))

variable {config : Config} {request : Request} {world after : World} {targeting : Targeting} {phase : Phase}

theorem command_mounts {owner : String} {host : Host} {argv : List String}
    (remounts : (Call.command argv).remounts = false) :
    (host.command owner argv).2.mounts = host.mounts ∧ (host.command owner argv).2.cwd = host.cwd := by
  cases ran : host.command owner argv with
  | mk answer later =>
    cases answer with
    | error failure =>
      rw [Host.command_failed ran]
      exact ⟨rfl, rfl⟩
    | ok output =>
      have done := Host.command_done ran
      simp only [Call.remounts] at remounts
      cases what : deed argv with
      | mounts target => simp [what] at remounts
      | unmounts target => simp [what] at remounts
      | attaches => rw [what] at done; exact ⟨done.2.2.1, done.2.2.2⟩
      | detaches device => rw [what] at done; exact ⟨done.2.1, done.2.2⟩
      | nothing => rw [what] at done; exact ⟨done.1, done.2.2⟩

theorem perform_mounts {owner : String} {call : Call} (remounts : call.remounts = false) :
    (world.perform owner call).2.host.mounts = world.host.mounts ∧
      (world.perform owner call).2.host.cwd = world.host.cwd := by
  have tables (other : ∀ argv, call ≠ .command argv) : (world.perform owner call).2.host.mounts = world.host.mounts ∧
      (world.perform owner call).2.host.cwd = world.host.cwd :=
    ⟨(perform_untouched other).1, (perform_untouched other).2.2⟩
  cases call with
  | command argv => exact command_mounts remounts
  | _ => exact tables (by simp)

theorem exec_mounts {fault : Fault} {call : Call} (remounts : call.remounts = false) :
    (execFor request fault world call).2.host.mounts = world.host.mounts ∧
      (execFor request fault world call).2.host.cwd = world.host.cwd := by
  cases fault with
  | none => exact perform_mounts remounts
  | fails => exact ⟨rfl, rfl⟩
  | lost => exact perform_mounts remounts

/-! ### The invariant -/

structure Located (targeting : Targeting) (host : Host) : Prop where
  cwd : host.cwd = targeting.cwd
  owned : ∀ mount ∈ host.mounts, targeting.spelled mount.target ∧
    targeting.owner (resolve targeting.cwd mount.target) = mount.owner
  apart : host.mounts.Pairwise fun a b => resolve targeting.cwd a.target ≠ resolve targeting.cwd b.target

/-- The mount is in the record of its volume. -/
def Listed (store : Store) (mount : Mount) : Prop :=
  ∃ volume, store.lookup (volumeKey mount.owner) = some volume ∧ Contains volume.mountPaths mount.target

/-- The mount whose record is still to be written. -/
def Pending : Request → Phase → Mount → Prop
  | .nodePublishVolume r, .on _ (.mounted _), mount => mount.owner = r.volumeId ∧ mount.target = r.targetPath
  | _, _, _ => False

/-- From the unmount on, nothing is mounted at the target. -/
def Cleared (targeting : Targeting) (host : Host) : Request → Phase → Prop
  | .nodeUnpublishVolume r, .on _ .unmounted | .nodeUnpublishVolume r, .on _ .released
  | .nodeUnpublishVolume r, .on _ .saved =>
    ∀ mount ∈ host.mounts, resolve targeting.cwd mount.target ≠ resolve targeting.cwd r.targetPath
  | _, _ => True

structure Accounted (targeting : Targeting) (request : Request) (phase : Phase) (world : World) : Prop where
  named : targeting.Names request
  located : Located targeting world.host
  listed : ∀ mount ∈ world.host.mounts, Listed world.store mount ∨ Pending request phase mount
  cleared : Cleared targeting world.host request phase

theorem Located.untouched {host later : Host} (located : Located targeting host)
    (mounts : later.mounts = host.mounts) (cwd : later.cwd = host.cwd) : Located targeting later := by
  refine ⟨cwd.trans located.cwd, ?_, ?_⟩
  · rw [mounts]
    exact located.owned
  · rw [mounts]
    exact located.apart

theorem Listed.insert {store : Store} {name : String} {volume written : Volume} {mount : Mount}
    (held : store.lookup (volumeKey name) = some volume) (listed : Listed store mount)
    (keeps : mount.owner = name → Contains volume.mountPaths mount.target →
      Contains written.mountPaths mount.target) :
    Listed (store.insert (volumeKey name) written) mount := by
  obtain ⟨recorded, lookup, present⟩ := listed
  by_cases own : mount.owner = name
  · rw [own] at lookup
    cases held.symm.trans lookup
    refine ⟨written, ?_, keeps own present⟩
    rw [own]
    exact AList.lookup_insert _
  · refine ⟨recorded, ?_, present⟩
    rw [AList.lookup_insert_ne fun same => own (volumeKey_injective same)]
    exact lookup

theorem Listed.erase {store : Store} {name : String} {mount : Mount} (listed : Listed store mount)
    (other : mount.owner ≠ name) : Listed (store.erase (volumeKey name)) mount := by
  obtain ⟨recorded, lookup, present⟩ := listed
  refine ⟨recorded, ?_, present⟩
  rw [AList.lookup_erase_ne fun same => other (volumeKey_injective same)]
  exact lookup

/-- Of entries that are pairwise apart, no second one is at the place of the one erased. -/
theorem eraseP_apart {α β : Type} [DecidableEq β] {place : α → β} {here : β} {entries : List α}
    (apart : entries.Pairwise fun a b => place a ≠ place b) :
    ∀ entry ∈ entries.eraseP (place · = here), place entry ≠ here := by
  induction entries with
  | nil => simp
  | cons first rest ih =>
    obtain ⟨others, apart⟩ := List.pairwise_cons.mp apart
    by_cases there : place first = here
    · rw [List.eraseP_cons_of_pos (by simpa using there)]
      exact fun entry member same => others entry member (there.trans same.symm)
    · rw [List.eraseP_cons_of_neg (by simpa using there)]
      exact List.forall_mem_cons.mpr ⟨there, ih apart⟩

namespace Accounted

/-- A call that leaves the store and the mount table alone. -/
theorem quiet {next : Phase} (accounted : Accounted targeting request phase world)
    (store : after.store = world.store) (mounts : after.host.mounts = world.host.mounts)
    (cwd : after.host.cwd = world.host.cwd)
    (settled : ∀ mount, ¬Pending request phase mount)
    (cleared : Cleared targeting world.host request phase → Cleared targeting after.host request next) :
    Accounted targeting request next after := by
  refine ⟨accounted.named, accounted.located.untouched mounts cwd, ?_, cleared accounted.cleared⟩
  rw [mounts, store]
  exact fun mount member => Or.inl ((accounted.listed mount member).resolve_right (settled mount))

/-- A write of the record, or one that was dropped. -/
theorem patched {volume written : Volume} {next : Stage} {fault : Fault}
    (accounted : Accounted targeting request phase world)
    (held : world.store.lookup (volumeKey request.volumeId) = some volume)
    (own : written.key = volumeKey request.volumeId)
    (keeps : ∀ mount ∈ world.host.mounts, mount.owner = request.volumeId → Contains volume.mountPaths mount.target →
      Contains written.mountPaths mount.target)
    (records : ∀ mount ∈ world.host.mounts, Pending request phase mount →
      fault ≠ .fails ∧ mount.owner = request.volumeId ∧ Contains written.mountPaths mount.target)
    (cleared : Cleared targeting world.host request (.on written next)) :
    Onwards (Accounted targeting) request world (.patch written.key written) (through fun _ => .on written next)
      fault := by
  have recorded : fault ≠ .fails → ∀ mount ∈ world.host.mounts,
      Listed (world.store.insert (volumeKey request.volumeId) written) mount := by
    intro _ mount member
    rcases accounted.listed mount member with listed | pending
    · exact listed.insert held (keeps mount member)
    · obtain ⟨-, owner, present⟩ := records mount member pending
      refine ⟨written, ?_, present⟩
      rw [owner]
      exact AList.lookup_insert _
  unfold Onwards
  rw [own, patch_present held]
  cases fault with
  | none =>
    refine ⟨accounted.named, accounted.located, fun mount member => Or.inl ?_, cleared⟩
    exact recorded nofun mount member
  | fails =>
    refine ⟨accounted.named, accounted.located, fun mount member => Or.inl ?_, by cases request <;> trivial⟩
    exact (accounted.listed mount member).resolve_right fun pending => (records mount member pending).1 rfl
  | lost =>
    refine ⟨accounted.named, accounted.located, fun mount member => Or.inl ?_, by cases request <;> trivial⟩
    exact recorded nofun mount member

theorem writes {volume written : Volume} {stage next : Stage} {fault : Fault}
    (accounted : Accounted targeting request (.on volume stage) world) (ok : StoreOk WellFormed world.store)
    (held : world.store.lookup (volumeKey request.volumeId) = some volume)
    (writes : Writes config request volume stage written next)
    (kept : MountKept (request, event (execFor request) world (.patch written.key written) fault)) :
    Onwards (Accounted targeting) request world (.patch written.key written) (through fun _ => .on written next)
      fault := by
  have own := congrArg volumeKey (writes.rewrite.name.trans (ok.named held).1)
  cases writes with
  | publish => exact accounted.patched held own (fun _ _ _ => id) (fun _ _ => False.elim) trivial
  | unpublish => exact accounted.patched held own (fun _ _ _ => id) (fun _ _ => False.elim) trivial
  | pin => exact accounted.patched held own (fun _ _ _ => id) (fun _ _ => False.elim) trivial
  | expand => exact accounted.patched held own (fun _ _ _ => id) (fun _ _ => False.elim) trivial
  | record admitted =>
    refine accounted.patched held own (fun mount _ _ present => ?_) (fun mount _ pending => ?_) trivial
    · obtain ⟨path, member, equal⟩ := present
      exact ⟨path, List.mem_append_left _ member, equal⟩
    · have here : ∀ path : Path, Contains (volume.mountPaths ++ [path]) path := fun path =>
        ⟨path, List.mem_append_right _ (List.mem_singleton_self path), rfl⟩
      refine ⟨kept.2 (here _), pending.1, ?_⟩
      rw [pending.2]
      exact here _
  | @unmount r _ _ unmountable settled =>
    have cleared := accounted.cleared
    have gone : ∀ mount ∈ world.host.mounts,
        resolve targeting.cwd mount.target ≠ resolve targeting.cwd r.targetPath := by
      rcases settled with rfl | ⟨rfl, -⟩
      · exact cleared
      · exact cleared
    refine accounted.patched held own (fun mount member _ present => ?_) (fun _ _ => False.elim) gone
    obtain ⟨path, recorded, equal⟩ := present
    refine ⟨path, ?_, equal⟩
    rw [unmountedFrom_mountPaths, List.mem_filter]
    refine ⟨recorded, decide_eq_true fun other => gone mount member ?_⟩
    exact resolve_same (equal.symm.trans other) targeting.cwd

/-! ### Mounting and unmounting -/

theorem mount {r : NodePublishVolumeRequest} {volume : Volume} {stage : Stage} {device : Option Path}
    {argv : List String} {fault : Fault} (deeds : deed argv = .mounts (trim r.targetPath))
    (accounted : Accounted targeting (.nodePublishVolume r) (.on volume stage) world)
    (held : world.store.lookup (volumeKey r.volumeId) = some volume)
    (settled : ∀ mount, ¬Pending (.nodePublishVolume r) (.on volume stage) mount)
    (fresh : ¬Contains volume.mountPaths r.targetPath)
    (kept : MountKept (.nodePublishVolume r, event (execFor (.nodePublishVolume r)) world (.command argv) fault)) :
    Onwards (Accounted targeting) (.nodePublishVolume r) world (.command argv)
      (through fun _ => .on volume (.mounted device)) fault := by
  unfold Onwards
  obtain ⟨spelled, owner⟩ := accounted.named
  rw [targeting.trimmed _ spelled] at deeds
  have listed : ∀ mount ∈ world.host.mounts, Listed world.store mount := fun mount member =>
    (accounted.listed mount member).resolve_right (settled mount)
  have unchanged : Accounted targeting (.nodePublishVolume r) .stopped world :=
    accounted.quiet rfl rfl rfl settled fun _ => trivial
  cases fault with
  | fails => exact unchanged
  | lost => exact absurd rfl (kept.1 (by simp [event, Call.mounts, deeds]))
  | none =>
    simp only [execFor, World.exec, World.perform, fromHost]
    cases ran : world.host.command (Request.volumeId (.nodePublishVolume r)) argv with
    | mk answer host =>
      cases answer with
      | error failure =>
        rw [Host.command_failed ran]
        exact unchanged
      | ok output =>
        have done := Host.command_done ran
        rw [deeds] at done
        obtain ⟨⟨source, content, readonly, mounts⟩, -, cwd⟩ := done
        refine ⟨accounted.named, ⟨cwd.trans accounted.located.cwd, ?_, ?_⟩, ?_, trivial⟩
        · rw [mounts]
          exact List.forall_mem_cons.mpr ⟨⟨spelled, owner⟩, accounted.located.owned⟩
        · rw [mounts]
          refine List.pairwise_cons.mpr ⟨fun mount member same => ?_, accounted.located.apart⟩
          -- a mount at the same place is one of this volume, and in its record
          obtain ⟨spelledToo, ownerToo⟩ := accounted.located.owned mount member
          have ours : mount.owner = r.volumeId :=
            ownerToo.symm.trans ((congrArg targeting.owner same.symm).trans owner)
          obtain ⟨recorded, lookup, path, present, equal⟩ := listed mount member
          rw [ours] at lookup
          cases held.symm.trans lookup
          exact fresh ⟨path, present, equal.trans (targeting.once _ _ spelledToo spelled same.symm)⟩
        · rw [mounts]
          exact List.forall_mem_cons.mpr ⟨Or.inr ⟨rfl, rfl⟩, fun mount member => Or.inl (listed mount member)⟩

theorem umount {r : NodeUnpublishVolumeRequest} {volume : Volume} {fault : Fault}
    (accounted : Accounted targeting (.nodeUnpublishVolume r) (.on volume .loaded) world) :
    Onwards (Accounted targeting) (.nodeUnpublishVolume r) world
      (.command ["chroot", "/chr", "umount", trim r.targetPath])
    (through fun _ => .on volume .unmounted) fault := by
  unfold Onwards
  have unchanged : Accounted targeting (.nodeUnpublishVolume r) .stopped world :=
    accounted.quiet rfl rfl rfl (fun _ => id) fun _ => trivial
  rw [targeting.trimmed _ accounted.named]
  cases ran : world.host.command (Request.volumeId (.nodeUnpublishVolume r))
      ["chroot", "/chr", "umount", r.targetPath] with
  | mk answer host =>
    cases answer with
    | error failure =>
      have same := Host.command_failed ran
      cases fault with
      | none => simpa [execFor, World.exec, World.perform, fromHost, ran, same, Except.mapError] using unchanged
      | fails => exact unchanged
      | lost => simpa [execFor, World.exec, World.perform, fromHost, ran, same, Except.mapError] using unchanged
    | ok output =>
      obtain ⟨-, mounts, -, cwd⟩ : world.host.Done _ host output (.unmounts r.targetPath) := Host.command_done ran
      have place : ∀ path, world.host.resolve path = resolve targeting.cwd path := fun path => by
        rw [Host.resolve, accounted.located.cwd]
      simp only [place] at mounts
      have kept : ∀ mount ∈ host.mounts, mount ∈ world.host.mounts := by
        rw [mounts]
        exact fun mount => List.mem_of_mem_eraseP
      have located : Located targeting host := by
        refine ⟨cwd.trans accounted.located.cwd, fun mount member =>
          accounted.located.owned mount (kept mount member), ?_⟩
        rw [mounts]
        exact accounted.located.apart.sublist List.eraseP_sublist
      have listed : ∀ mount ∈ host.mounts, Listed world.store mount := fun mount member =>
        (accounted.listed mount (kept mount member)).resolve_right id
      have cleared : ∀ mount ∈ host.mounts,
          resolve targeting.cwd mount.target ≠ resolve targeting.cwd r.targetPath := by
        rw [mounts]
        exact eraseP_apart accounted.located.apart
      cases fault with
      | none =>
        simp only [execFor, World.exec, World.perform, fromHost, ran]
        exact ⟨accounted.named, located, fun mount member => Or.inl (listed mount member), cleared⟩
      | fails => exact unchanged
      | lost =>
        simp only [execFor, World.exec, World.perform, fromHost, ran]
        exact ⟨accounted.named, located, fun mount member => Or.inl (listed mount member), trivial⟩

/-! ### The other store calls -/

theorem loaded {key : String} {fault : Fault} (accounted : Accounted targeting request phase world)
    (settled : ∀ mount, ¬Pending request phase mount) :
    Onwards (Accounted targeting) request world (.getOpt key) (through found) fault := by
  unfold Onwards
  have unchanged : (execFor request fault world (.getOpt key)).2 = world := by cases fault <;> rfl
  rw [unchanged]
  refine accounted.quiet rfl rfl rfl settled fun _ => ?_
  rcases (execFor request fault world (.getOpt key)).1 with failure | _ | volume
  · cases request <;> trivial
  · cases request <;> trivial
  · cases request <;> trivial

theorem created {r : CreateVolumeRequest} {volume : Volume} {fault : Fault} (built : newVolume r = .ok volume)
    (accounted : Accounted targeting (.createVolume r) .missing world)
    (absent : world.store.lookup (volumeKey r.name) = none) :
    Onwards (Accounted targeting) (.createVolume r) world (.create volume.key volume)
      (through fun _ => .on volume .saved) fault := by
  have own : volume.key = volumeKey r.name := congrArg volumeKey (newVolume_name built)
  have listed : ∀ mount ∈ world.host.mounts, Listed (world.store.insert (volumeKey r.name) volume) mount := by
    intro mount member
    obtain ⟨recorded, lookup, present⟩ := (accounted.listed mount member).resolve_right id
    have other : volumeKey mount.owner ≠ volumeKey r.name := by
      intro same
      rw [same, absent] at lookup
      cases lookup
    exact ⟨recorded, (AList.lookup_insert_ne other).trans lookup, present⟩
  have unchanged : Accounted targeting (.createVolume r) .stopped world :=
    accounted.quiet rfl rfl rfl (fun _ => id) fun _ => trivial
  unfold Onwards
  rw [own, create_absent absent]
  cases fault with
  | none => exact ⟨trivial, accounted.located, fun mount member => Or.inl (listed mount member), trivial⟩
  | fails => exact unchanged
  | lost => exact ⟨trivial, accounted.located, fun mount member => Or.inl (listed mount member), trivial⟩

theorem deleted {r : DeleteVolumeRequest} {volume : Volume} {fault : Fault} (ok : StoreOk WellFormed world.store)
    (accounted : Accounted targeting (.deleteVolume r) (.on volume .erased) world)
    (held : world.store.lookup (volumeKey r.volumeId) = some volume) (state : volume.state = .«open») :
    Onwards (Accounted targeting) (.deleteVolume r) world (.delete volume.key)
      (through fun _ => .missing) fault := by
  obtain ⟨name, formed⟩ := ok.named held
  have own : volume.key = volumeKey r.volumeId := congrArg volumeKey name
  have listed : ∀ mount ∈ world.host.mounts, Listed (world.store.erase (volumeKey r.volumeId)) mount := by
    intro mount member
    have before := (accounted.listed mount member).resolve_right id
    refine before.erase fun same => ?_
    obtain ⟨recorded, lookup, path, present, -⟩ := before
    rw [same] at lookup
    cases held.symm.trans lookup
    rw [(formed.opened state).1] at present
    cases present
  have unchanged : Accounted targeting (.deleteVolume r) .stopped world :=
    accounted.quiet rfl rfl rfl (fun _ => id) fun _ => trivial
  unfold Onwards
  rw [own, delete_present held]
  cases fault with
  | none => exact ⟨trivial, accounted.located, fun mount member => Or.inl (listed mount member), trivial⟩
  | fails => exact unchanged
  | lost => exact ⟨trivial, accounted.located, fun mount member => Or.inl (listed mount member), trivial⟩

theorem step {call : Call} {resume : call.Answer → Phase} {fault : Fault} (ok : StoreOk WellFormed world.store)
    (holds : Holds request phase world) (accounted : Accounted targeting request phase world)
    (issued : Issues config request phase call resume)
    (kept : MountKept (request, event (execFor request) world call fault)) :
    Onwards (Accounted targeting) request world call resume fault := by
  have quiet (onHost : call.onStore = false) (remounts : call.remounts = false)
      (settled : ∀ mount, ¬Pending request phase mount)
      (cleared : ∀ host answer, Cleared targeting host request phase →
        Cleared targeting host request (resume answer)) :
      Onwards (Accounted targeting) request world call resume fault := by
    have tables : (execFor request fault world call).2.host.mounts = world.host.mounts ∧
        (execFor request fault world call).2.host.cwd = world.host.cwd := exec_mounts remounts
    obtain ⟨mounts, cwd⟩ := tables
    refine accounted.quiet (exec_host onHost) mounts cwd settled fun clear => cleared _ _ ?_
    unfold Cleared at clear ⊢
    rw [mounts]
    exact clear
  cases issued with
  | write writes => exact accounted.writes ok holds writes kept
  | @mount r volume stage device admitted unbound ready =>
    have settled : ∀ mount, ¬Pending (.nodePublishVolume r) (.on volume stage) mount := by
      rcases ready with ⟨rfl, -⟩ | ⟨rfl, -⟩ <;> exact fun _ => id
    exact accounted.mount (deed_mount _ _ _) holds settled admitted.fresh kept
  | @mountBind r volume admitted bound =>
    exact accounted.mount (deed_mountBind _ _ _) holds (fun _ => id) admitted.fresh kept
  | umount => exact accounted.umount
  | @create r volume built => exact accounted.created built holds
  | delete state => exact accounted.deleted ok holds state
  | load => exact accounted.loaded fun _ => by cases request <;> exact id
  | reload => exact accounted.loaded fun _ => id
  | @makeFile r volume stage unbound housed =>
    refine quiet rfl rfl ?_ fun _ _ => id
    rcases housed with rfl | ⟨rfl, -⟩ <;> exact fun _ => id
  | @mkfs r volume unbound =>
    refine quiet rfl ?_ (fun _ => id) fun _ _ => id
    cases volume.filesystem <;> rfl
  | @grow r volume device =>
    refine quiet rfl ?_ (fun _ => id) fun _ _ => id
    unfold growCommand
    split <;> rfl
  | _ => exact quiet rfl rfl (fun _ => id) fun _ _ => id

end Accounted

/-! ### Runs -/

theorem accounted_carries (config : Config) (targeting : Targeting) :
    Carries config (fun request _ => targeting.Names request) (fun _ => MountKept)
      (fun request phase _ => Accounted targeting request phase)
      (fun _ world => Located targeting world.host ∧ ∀ mount ∈ world.host.mounts, Listed world.store mount) where
  enter {request past world} named rest := by
    refine ⟨named, rest.1, fun mount member => Or.inl (rest.2 mount member), ?_⟩
    cases request <;> trivial
  step ok holds accounted issued kept := accounted.step ok holds issued kept
  leave {request phase past world} ends accounted := by
    refine ⟨accounted.located, fun mount member => (accounted.listed mount member).resolve_right ?_⟩
    rcases ends with idle | returned
    · unfold Pending
      split
      · cases idle
      · exact id
    · cases returned <;> exact id

theorem accounted_idle {r : NodeUnpublishVolumeRequest} {volume : Volume} (formed : WellFormed volume)
    (accounted : Accounted targeting (.nodeUnpublishVolume r) (.on volume .loaded) world)
    (held : world.store.lookup (volumeKey r.volumeId) = some volume) (idle : ¬Unmountable r volume) :
    ¬IsMounted r.volumeId r.targetPath world.host := by
  intro mounted
  obtain ⟨mount, member, owner, place⟩ := mounted
  obtain ⟨recorded, lookup, path, present, equal⟩ := (accounted.listed mount member).resolve_right id
  rw [owner] at lookup
  cases held.symm.trans lookup
  rw [Host.resolve, Host.resolve, accounted.located.cwd] at place
  have spelled := (accounted.located.owned mount member).1
  refine idle ⟨?_, path, present, equal.trans (targeting.once _ _ spelled accounted.named place)⟩
  by_contra state
  rw [formed.mountPaths_nil state] at present
  cases present

/-- In every run in which a mount that was made is reported and recorded, a volume is not mounted at the
target once NodeUnpublishVolume has returned Ok; every other call may fail in any way. -/
theorem unpublished_unmounted (config : Config) {host : Host} (unmounted : host.mounts = [])
    (targeting : Targeting) (cwd : host.cwd = targeting.cwd) {run : Run}
    (named : ∀ step ∈ run, targeting.Names step.1) (kept : ∀ entry ∈ history config ⟨∅, host⟩ run, MountKept entry)
    {r : NodeUnpublishVolumeRequest} (spelled : targeting.spelled r.targetPath) {oracle : Oracle Call Fault}
    {reply : Reply}
    (returned : (serve config (.nodeUnpublishVolume r) oracle (serveAll config ⟨∅, host⟩ run)).1 = .ok reply) :
    ¬IsMounted r.volumeId r.targetPath
      (serve config (.nodeUnpublishVolume r) oracle (serveAll config ⟨∅, host⟩ run)).2.host := by
  have carries := accounted_carries config targeting
  have start : Located targeting host ∧ ∀ mount ∈ host.mounts, Listed ∅ mount := by
    refine ⟨⟨cwd, ?_, ?_⟩, ?_⟩ <;> simp [unmounted]
  have asks : targeting.Names (.nodeUnpublishVolume r) := spelled
  have silent : ∀ before entry after, (traced config (.nodeUnpublishVolume r) oracle
      (serveAll config ⟨∅, host⟩ run)).map (Request.nodeUnpublishVolume r, ·) = before ++ entry :: after →
      MountKept entry := by
    intro before entry after split
    obtain ⟨event, -, rfl⟩ := List.mem_map.mp (split ▸ List.mem_append_right before List.mem_cons_self)
    trivial
  obtain ⟨ok, ⟨last, ended, held, accounted⟩, -⟩ := carries.next .empty start (meets_forall named)
    (fun before entry after split => kept entry (by simp [split])) asks silent
  rw [returned] at ended
  cases ended with
  | unmountedBefore idle => exact accounted_idle (ok.named held).2 accounted held idle
  | unmounted =>
    intro mounted
    obtain ⟨mount, member, -, place⟩ := mounted
    rw [Host.resolve, Host.resolve, accounted.located.cwd] at place
    exact accounted.cleared mount member place

def Sample.atT : Targeting where
  cwd := []
  owner _ := "a"
  spelled := (· = "/t")
  trimmed := by
    rintro _ rfl
    decide
  once := by
    rintro _ _ rfl rfl -
    rfl

theorem mountKept_none {entry : Request × CallEvent} (through : entry.2.fault = .none) : MountKept entry := by
  obtain ⟨request, entry⟩ := entry
  cases request with
  | nodePublishVolume r =>
    have faultless : entry.fault = .none := through
    exact ⟨fun _ => by simp [faultless], fun _ => by simp [faultless]⟩
  | _ => trivial

/-- The detach fails and is only logged. -/
theorem unpublished_unmounted_sample :
    ¬IsMounted "a" "/t" (serve Sample.config (.nodeUnpublishVolume ⟨"a", "/t"⟩)
      (failing 2)
      (serveAll Sample.config ⟨∅, {}⟩ (Sample.publishing healthy))).2.host := by
  have faultless : ∀ entry ∈ history Sample.config ⟨∅, {}⟩ (Sample.publishing healthy), entry.2.fault = .none := by
    decide +kernel
  have returned : (serve Sample.config (.nodeUnpublishVolume ⟨"a", "/t"⟩) (failing 2)
      (serveAll Sample.config ⟨∅, {}⟩ (Sample.publishing healthy))).1 = .ok .done := by decide +kernel
  have named : ∀ step ∈ Sample.publishing healthy, Sample.atT.Names step.1 := by
    intro step member
    simp only [Sample.publishing, List.mem_cons, List.not_mem_nil, or_false] at member
    rcases member with rfl | rfl | rfl
    · trivial
    · trivial
    · exact ⟨rfl, rfl⟩
  exact unpublished_unmounted Sample.config rfl Sample.atT rfl named
    (fun entry member => mountKept_none (faultless entry member)) (r := ⟨"a", "/t"⟩) rfl returned

/-- The write after the mount fails, nothing is unmounted, and NodeUnpublishVolume answers from the record. -/
theorem unrecorded_mount_stays :
    let world := serveAll Sample.config ⟨∅, {}⟩ (Sample.publishing (failing 11))
    (serve Sample.config (.nodeUnpublishVolume ⟨"a", "/t"⟩) healthy world).1 = .ok .done ∧
      IsMounted "a" "/t" (serve Sample.config (.nodeUnpublishVolume ⟨"a", "/t"⟩) healthy world).2.host := by
  decide +kernel

end Lvp
