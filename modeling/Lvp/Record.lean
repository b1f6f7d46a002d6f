import Lvp.Server
import Lvp.Validation

/-!
The life of one volume record. `Rewrite` lists every change a handler makes to a record it loaded,
and `WellFormed` is what all of them keep.
-/

namespace Lvp
open Unix Csi

/-- The node may mount the volume at a further target. -/
def Mountable (volume : Volume) : Prop :=
  volume.state = .controllerPublished ∨
    volume.state = .nodePublished ∧ ∀ config ∈ volume.publishedConfig, config.mode = .singleNodeMultiWriter

/-- What `mount_volume` hands back: nothing for a bind mount, else the device of the volume. -/
def DeviceFor (volume : Volume) (device : Option Path) : Prop :=
  if volume.filesystem = .bind then device = none
  else ∃ path, device = some path ∧ ∀ known ∈ volume.loopDevice, path = known

/-- The writes of the handlers: the record that was loaded and the record that is stored. -/
inductive Rewrite : Volume → Volume → Prop where
  | publish {volume config} (readonly : Bool) (state : volume.state = .«open»)
      (valid : config ∈ volume.validConfigs) :
      Rewrite volume { volume with
        publishedConfig := some config, state := .controllerPublished, publishedReadonly := readonly }
  | unpublish {volume} (state : volume.state = .controllerPublished) :
      Rewrite volume { volume with
        state := .«open», publishedConfig := none, publishedReadonly := false }
  | pin {volume} (node : String) (admitted : Mountable volume) :
      Rewrite volume { volume with assignedNodeId := some node }
  | mount {volume target device} (admitted : Mountable volume)
      (fresh : ¬Contains volume.mountPaths target) (mounted : DeviceFor volume device) :
      Rewrite volume (mountedAt volume device target)
  | unmount {volume target} (state : volume.state = .nodePublished)
      (present : Contains volume.mountPaths target) :
      Rewrite volume (unmountedFrom volume target)
  | expand {volume size} (state : volume.state = .nodePublished) (grows : volume.size < size) :
      Rewrite volume { volume with size }

/-- An unmount touches nothing but the targets, the state and the device. -/
theorem unmountedFrom_kept (volume : Volume) (target : Path) :
    ∃ mountPaths state loopDevice, unmountedFrom volume target = { volume with mountPaths, state, loopDevice } ∧
      (state = volume.state ∨ state = .controllerPublished) := by
  unfold unmountedFrom
  dsimp only
  split
  · exact ⟨_, _, _, rfl, Or.inr rfl⟩
  · exact ⟨_, _, _, rfl, Or.inl rfl⟩

theorem unmountedFrom_key (volume : Volume) (target : Path) : (unmountedFrom volume target).key = volume.key := by
  obtain ⟨_, _, _, same, -⟩ := unmountedFrom_kept volume target
  rw [same]
  rfl

theorem Rewrite.name {v w : Volume} (rewrite : Rewrite v w) : w.name = v.name := by
  cases rewrite with
  | @unmount target =>
    obtain ⟨_, _, _, same, -⟩ := unmountedFrom_kept v target
    rw [same]
  | _ => rfl

theorem unmountedFrom_mountPaths (volume : Volume) (target : Path) :
    (unmountedFrom volume target).mountPaths = volume.mountPaths.filter (¬same · target) := by
  unfold unmountedFrom
  dsimp only
  split
  · rename_i none
    exact none.symm
  · rfl

theorem unmountedFrom_nil (volume : Volume) (target : Path) :
    (unmountedFrom volume target).mountPaths = [] ↔ ∀ path ∈ volume.mountPaths, same path target := by
  rw [unmountedFrom_mountPaths, List.filter_eq_nil_iff]
  simp

theorem unmountedFrom_absent (volume : Volume) (target : Path) :
    ¬Contains (unmountedFrom volume target).mountPaths target := by
  rintro ⟨path, member, there⟩
  rw [unmountedFrom_mountPaths, List.mem_filter] at member
  exact of_decide_eq_true member.2 there

structure WellFormed (volume : Volume) : Prop where
  opened : volume.state = .«open» → volume.mountPaths = [] ∧ volume.loopDevice = none ∧
    volume.publishedConfig = none ∧ volume.publishedReadonly = false
  controller : volume.state = .controllerPublished → volume.mountPaths = [] ∧ volume.loopDevice = none ∧
    ∃ config ∈ volume.validConfigs, volume.publishedConfig = some config
  node : volume.state = .nodePublished → volume.mountPaths ≠ [] ∧
    volume.mountPaths.Pairwise (¬same · ·) ∧
    (∃ config ∈ volume.validConfigs, volume.publishedConfig = some config ∧
      (config.mode ≠ .singleNodeMultiWriter → volume.mountPaths.length = 1)) ∧
    (volume.loopDevice = none ↔ volume.filesystem = .bind)

theorem WellFormed.mountPaths_nil {volume : Volume} (formed : WellFormed volume)
    (state : volume.state ≠ .nodePublished) : volume.mountPaths = [] := by
  cases h : volume.state with
  | «open» => exact (formed.opened h).1
  | controllerPublished => exact (formed.controller h).1
  | nodePublished => exact absurd h state

theorem WellFormed.mounted_of_present {volume : Volume} {target : Path} (formed : WellFormed volume)
    (present : Contains volume.mountPaths target) : volume.state = .nodePublished := by
  obtain ⟨path, member, -⟩ := present
  by_contra other
  rw [formed.mountPaths_nil other] at member
  cases member

theorem WellFormed.mounted_of_looped {volume : Volume} {device : Path} (formed : WellFormed volume)
    (looped : volume.loopDevice = some device) : volume.state = .nodePublished := by
  cases h : volume.state with
  | «open» =>
    rw [(formed.opened h).2.1] at looped
    cases looped
  | controllerPublished =>
    rw [(formed.controller h).2.1] at looped
    cases looped
  | nodePublished => rfl

theorem newVolume_ok {request : CreateVolumeRequest} {volume : Volume}
    (built : newVolume request = .ok volume) :
    ∃ base filesystem configs, volume = freshVolume request base filesystem configs ∧
      request.parameters.lookup "host_base_path" = some base ∧
      ¬InvalidName request.name ∧ request.name ≠ "" := by
  obtain ⟨named, -, valid, -, -, -, base, given, rfl⟩ := newVolume_read.mp built
  exact ⟨base, _, _, rfl, given, valid, named⟩

theorem fresh_wellFormed (request : CreateVolumeRequest) (base : String) (filesystem : Filesystem)
    (configs : List VolumeConfig) : WellFormed (freshVolume request base filesystem configs) where
  opened _ := ⟨rfl, rfl, rfl, rfl⟩
  controller := nofun
  node := nofun

theorem mountedAt_wellFormed {volume : Volume} {device : Option Path} {target : Path}
    (formed : WellFormed volume) (admitted : Mountable volume)
    (fresh : ¬Contains volume.mountPaths target) (mounted : DeviceFor volume device) :
    WellFormed (mountedAt volume device target) := by
  refine ⟨nofun, nofun, fun _ => ?_⟩
  have apart : ∀ path ∈ volume.mountPaths, ¬same path target := fun path member equal =>
    fresh ⟨path, member, equal⟩
  unfold DeviceFor at mounted
  rcases admitted with state | ⟨state, multi⟩
  · obtain ⟨unmounted, unlooped, config, valid, published⟩ := formed.controller state
    refine ⟨by simp [mountedAt], by simp [mountedAt, unmounted], ⟨config, valid, published, ?_⟩, ?_⟩
    · simp [mountedAt, unmounted]
    · split at mounted
      · simp_all [mountedAt]
      · obtain ⟨path, rfl, _⟩ := mounted
        simp_all [mountedAt]
  · obtain ⟨_, distinct, ⟨config, valid, published, _⟩, looped⟩ := formed.node state
    refine ⟨by simp [mountedAt], ?_, ⟨config, valid, published, ?_⟩, ?_⟩
    · exact List.pairwise_append.mpr ⟨distinct, List.pairwise_singleton _ _,
        fun path member other singleton => by
          rw [List.mem_singleton.mp singleton]; exact apart path member⟩
    · exact fun single => absurd (multi config published) single
    · split at mounted
      · simp_all [mountedAt]
      · obtain ⟨path, rfl, _⟩ := mounted
        simp_all [mountedAt]

theorem unmountedFrom_wellFormed {volume : Volume} {target : Path} (formed : WellFormed volume)
    (state : volume.state = .nodePublished) : WellFormed (unmountedFrom volume target) := by
  obtain ⟨_, distinct, ⟨config, valid, published, single⟩, looped⟩ := formed.node state
  unfold unmountedFrom
  simp only
  split
  · -- the last target is gone
    exact ⟨nofun, fun _ => ⟨rfl, rfl, config, valid, published⟩, nofun⟩
  · rename_i remains
    refine ⟨fun other => by simp [state] at other, fun other => by simp [state] at other, fun _ => ?_⟩
    refine ⟨remains, distinct.filter _, ⟨config, valid, published, fun other => ?_⟩, looped⟩
    have bound := List.length_filter_le (fun path => decide ¬same path target) volume.mountPaths
    have positive := List.length_pos_iff.mpr remains
    have one := single other
    simp only at bound positive ⊢
    omega

theorem Rewrite.wellFormed {v w : Volume} (rewrite : Rewrite v w) (formed : WellFormed v) :
    WellFormed w := by
  cases rewrite with
  | publish readonly state valid =>
    obtain ⟨unmounted, unlooped, _, _⟩ := formed.opened state
    exact ⟨nofun, fun _ => ⟨unmounted, unlooped, _, valid, rfl⟩, nofun⟩
  | unpublish state =>
    obtain ⟨unmounted, unlooped, _⟩ := formed.controller state
    exact ⟨fun _ => ⟨unmounted, unlooped, rfl, rfl⟩, nofun, nofun⟩
  | pin node admitted => exact ⟨formed.opened, formed.controller, formed.node⟩
  | mount admitted fresh mounted => exact mountedAt_wellFormed formed admitted fresh mounted
  | unmount state present => exact unmountedFrom_wellFormed formed state
  | expand state grows => exact ⟨formed.opened, formed.controller, formed.node⟩

end Lvp
