import Lvp.Backing
import Lvp.Stored

/-!
Deleting an open volume when nothing fails any more. NodePublishVolume makes the data of a volume at
its first mount, DeleteVolume removes it before the record: whether a volume can be deleted depends
on what lies at its paths, and `deletable_iff` says how.
-/

namespace Lvp
open Unix Effect Csi

variable {config : Config}

/-! ### The removal -/

def removed (config : Config) (volume : Volume) (host : Host) : Except IoError Unit × Host :=
  if volume.filesystem = .bind then host.removeDirAll (recordPath config volume)
  else host.removeFile (recordPath config volume)

/-- At the path DeleteVolume removes lies what the filesystem calls for. -/
def Held (config : Config) (host : Host) (volume : Volume) : Prop :=
  if volume.filesystem = .bind then
    host.stat (recordPath config volume) = .ok .directory ∧ host.resolve (recordPath config volume) ≠ []
  else ∃ length format, host.stat (recordPath config volume) = .ok (.file length format)

def swept (config : Config) (host : Host) (volume : Volume) (location : Location) : Bool :=
  if volume.filesystem = .bind then host.resolve (recordPath config volume) <+: location
  else location = host.resolve (recordPath config volume)

theorem removed_ok {volume : Volume} {host after : Host} :
    removed config volume host = (.ok (), after) ↔
      Held config host volume ∧ after = host.unlink (swept config host volume) := by
  unfold removed Held swept
  split
  · exact Host.removeDirAll_ok
  · exact Host.removeFile_ok

theorem Held.below {volume : Volume} {host : Host} (held : Held config host volume) :
    host.resolve (recordPath config volume) ≠ [] := by
  unfold Held at held
  split at held
  · exact held.2
  · obtain ⟨length, format, file⟩ := held
    exact Host.stat_file file

theorem swept_recordPath (volume : Volume) (host : Host) :
    swept config host volume (host.resolve (recordPath config volume)) = true := by
  unfold swept
  split <;> simp

theorem Held.not_swept {volume : Volume} {host : Host} (held : Held config host volume) :
    swept config host volume [] = false := by
  have below := held.below
  unfold swept
  split <;> simp [below, below.symm]

/-! ### DeleteVolume -/

theorem run_removeBacking (volume : Volume) (request : Request) (world : World) :
    (removeBacking volume.filesystem (recordPath config volume)).run (execFor request) healthy world =
      fromHost world (removed config volume world.host) := by
  unfold removeBacking removed
  by_cases bound : volume.filesystem = .bind
  · rw [if_pos bound, if_pos bound]
    exact run_issue _ _ _
  · rw [if_neg bound, if_neg bound]
    exact run_issue _ _ _

theorem serve_delete {world : World} {volume : Volume} (named : volume.name ≠ "")
    (found : world.store.lookup volume.key = some volume) (state : volume.state = .«open») :
    serve config (.deleteVolume ⟨volume.name⟩) healthy world =
      match removed config volume world.host with
      | (.ok _, host) => (.ok .done, ⟨world.store.erase volume.key, host⟩)
      | (.error _, host) => (.error (.internal "internal failure"), ⟨world.store, host⟩) := by
  have load : (Volume.load volume.name).run (execFor (.deleteVolume ⟨volume.name⟩)) healthy world =
      (.ok (some volume), world) := by
    rw [Volume.load, run_issue]
    exact congrArg (fun found => (Except.ok found, world)) found
  have delete (host : Host) : volume.delete.run (execFor (.deleteVolume ⟨volume.name⟩)) healthy ⟨world.store, host⟩ =
      (.ok (), ⟨world.store.erase volume.key, host⟩) := by
    rw [Volume.delete, run_issue]
    exact if_pos (AList.lookup_isSome.mp (by rw [found]; rfl))
  rw [serve, handle, Program.run_bind, deleteVolume, Program.reject, if_neg named, Program.ret_bind,
    Program.run_bind, Program.run_mapErr, load]
  dsimp only [Except.mapError]
  rw [Program.reject, if_neg (not_not.mpr state), Program.ret_bind, Program.run_bind, Program.run_mapErr,
    run_removeBacking, fromHost]
  obtain ⟨result, host⟩ := removed config volume world.host
  cases result with
  | error error => rfl
  | ok value =>
    dsimp only [Except.mapError]
    rw [Program.run_mapErr, delete]
    rfl

theorem serve_delete_absent {world : World} {name : String} (named : name ≠ "")
    (absent : world.store.lookup (volumeKey name) = none) :
    serve config (.deleteVolume ⟨name⟩) healthy world = (.ok .done, world) := by
  have load : (Volume.load name).run (execFor (.deleteVolume ⟨name⟩)) healthy world = (.ok none, world) := by
    rw [Volume.load, run_issue]
    exact congrArg (fun found => (Except.ok found, world)) absent
  rw [serve, handle, Program.run_bind, deleteVolume, Program.reject, if_neg named, Program.ret_bind,
    Program.run_bind, Program.run_mapErr, load]
  rfl

/-- Deleting the volume works, leaves neither its record nor its data behind, and works again. -/
def Deletable (config : Config) (world : World) (volume : Volume) : Prop :=
  let first := serve config (.deleteVolume ⟨volume.name⟩) healthy world
  let second := serve config (.deleteVolume ⟨volume.name⟩) healthy first.2
  first.1 = .ok .done ∧ first.2.store.lookup volume.key = none ∧
    (∀ path ∈ dataPaths config volume, first.2.host.node (first.2.host.resolve path) = none) ∧
    second.1 = .ok .done

/-- What DeleteVolume needs: there is something to remove, and nothing else is left at the path where
NodePublishVolume makes the data. -/
def Removable (config : Config) (host : Host) (volume : Volume) : Prop :=
  Held config host volume ∧
    (host.node (host.resolve (publishPath config volume)) = none ∨
      swept config host volume (host.resolve (publishPath config volume)))

instance (config : Config) (host : Host) (volume : Volume) : Decidable (Held config host volume) :=
  decidable_of_iff (if volume.filesystem = .bind then
      host.stat (recordPath config volume) = .ok .directory ∧ host.resolve (recordPath config volume) ≠ []
    else (host.stat (recordPath config volume)).toOption.any (· ≠ .directory)) (by
    unfold Held
    split
    · rfl
    · cases host.stat (recordPath config volume) with
      | error error => simp [Except.toOption]
      | ok node => cases node <;> simp [Except.toOption])

instance (config : Config) (host : Host) (volume : Volume) : Decidable (Removable config host volume) :=
  inferInstanceAs (Decidable (_ ∧ _))

theorem Held.cleared {volume : Volume} {host : Host} (held : Held config host volume) (location : Location) :
    (host.unlink (swept config host volume)).node location = none ↔
      host.node location = none ∨ swept config host volume location := by
  by_cases root : location = []
  · subst root
    simp [Host.node, held.not_swept]
  · rw [Host.node_unlink host _ root]
    cases swept config host volume location <;> simp

theorem deletable_of_open {world : World} {volume : Volume} (named : volume.name ≠ "")
    (found : world.store.lookup volume.key = some volume) (state : volume.state = .«open») :
    Deletable config world volume ↔ Removable config world.host volume := by
  unfold Deletable Removable
  rw [serve_delete named found state]
  cases outcome : removed config volume world.host with
  | mk result host =>
    cases result with
    | error error =>
      have unheld : ¬Held config world.host volume := fun held => by
        have removes := removed_ok.mpr ⟨held, rfl⟩
        rw [outcome] at removes
        cases removes
      simp [unheld]
    | ok value =>
      obtain ⟨held, rfl⟩ := removed_ok.mp outcome
      have gone : (world.store.erase volume.key).lookup volume.key = none := AList.lookup_erase ..
      have record := (held.cleared _).mpr (Or.inr (swept_recordPath volume world.host))
      have again : serve config (.deleteVolume ⟨volume.name⟩) healthy
          ⟨world.store.erase volume.key, world.host.unlink (swept config world.host volume)⟩ = (.ok .done, _) :=
        serve_delete_absent named gone
      dsimp only
      rw [again]
      simp only [gone, dataPaths, List.forall_mem_cons, true_and, and_true]
      constructor
      · intro nothing
        obtain ⟨made, -⟩ := nothing
        exact ⟨held, (held.cleared _).mp made⟩
      · intro nothing
        obtain ⟨-, made⟩ := nothing
        exact ⟨(held.cleared _).mpr made, record, by simp⟩

theorem named_invariant : Invariant (fun volume => volume.name ≠ "") where
  created built := by
    obtain ⟨_, _, _, rfl, _, _, named⟩ := newVolume_ok built
    exact named
  rewritten rewrite named := by
    rw [rewrite.name]
    exact named

def Sample.givenUp : Run :=
  [(create "a" "/pv2/" "ext4" 1, healthy), (publish "a" 1, healthy), (nodePublish "a" "/t" 1, healthy),
    (nodeUnpublish "a" "/t", healthy), (unpublish "a", healthy)]

def Sample.pinned : Volume :=
  { freshVolume (createRequest "a" "/pv2/" "ext4" 1) "/pv2/" .ext4 [⟨.singleNodeWriter⟩] with
    assignedNodeId := some "ho.me" }

end Lvp
