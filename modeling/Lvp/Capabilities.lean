import Lvp.Deletion
import Lvp.Repetition

/-!
The capability checks of ControllerPublishVolume, NodePublishVolume and ValidateVolumeCapabilities, side by
side.
-/

namespace Lvp
open Unix Effect Csi

variable {config : Config} {request : Request} {world : World} {volume : Volume} {name : String}
  {capability : VolumeCapability} {capabilities : List VolumeCapability} {requested : VolumeConfig}
  {filesystem : Option Filesystem}

/-- The capability names an access mode of the volume, and no other filesystem. -/
def Compatible (volume : Volume) (capability : VolumeCapability) : Prop :=
  ∃ parsed, parseVolumeCapability capability = .ok parsed ∧ parsed.1 ∈ volume.validConfigs ∧
    ¬OtherFilesystem parsed.2 volume

/-- It names an access mode of the volume, but another filesystem. -/
def Misplaced (volume : Volume) (capability : VolumeCapability) : Prop :=
  ∃ parsed, parseVolumeCapability capability = .ok parsed ∧ parsed.1 ∈ volume.validConfigs ∧
    OtherFilesystem parsed.2 volume

def Confirms (world : World) (name : String) (capabilities : List VolumeCapability) : Prop :=
  match ((validateVolumeCapabilities ⟨name, capabilities⟩).run (World.exec name) healthy world).1 with
  | .ok response => response.confirmed.isSome
  | .error _ => False

instance : Decidable (Confirms world name capabilities) := by
  unfold Confirms
  split <;> infer_instance

/-- The request gets past its checks: after loading the record it goes on. -/
def Passes (config : Config) (request : Request) (world : World) : Prop :=
  1 < (served config request healthy world).length

instance : Decidable (Passes config request world) := inferInstanceAs (Decidable (_ < _))

/-! ### ValidateVolumeCapabilities -/

theorem validateCapability_ok : validateCapability volume capability = .ok () ↔ Compatible volume capability := by
  unfold validateCapability Compatible
  cases read : parseVolumeCapability capability with
  | error status => simp [bind, Except.bind]
  | ok parsed =>
    obtain ⟨config, filesystem⟩ := parsed
    simp [bind, Except.bind]

theorem forM_ok {check : VolumeCapability → Except Status Unit} :
    forM capabilities check = .ok () ↔ ∀ capability ∈ capabilities, check capability = .ok () := by
  induction capabilities with
  | nil => simp [pure, Except.pure]
  | cons first rest ih =>
    rw [List.forM_cons, List.forall_mem_cons, ← ih]
    cases check first with
    | error status => simp [bind, Except.bind]
    | ok value => simp [bind, Except.bind]

theorem run_validate (named : name ≠ "") (held : world.store.lookup (volumeKey name) = some volume)
    (some : capabilities ≠ []) :
    ((validateVolumeCapabilities ⟨name, capabilities⟩).run (World.exec name) healthy world).1 =
      (forM capabilities (validateCapability volume)).map fun _ =>
        ⟨Option.some ⟨∅, capabilities, ∅⟩, ""⟩ := by
  rw [validateVolumeCapabilities, Program.reject, if_neg named, Program.ret_bind, Program.reject, if_neg some,
    Program.ret_bind, Program.run_bind, run_loadVolume held]
  dsimp only
  cases forM capabilities (validateCapability volume) with
  | ok value => rfl
  | error status => rfl

theorem confirms_iff (named : name ≠ "") (held : world.store.lookup (volumeKey name) = some volume) :
    Confirms world name capabilities ↔
      capabilities ≠ [] ∧ ∀ capability ∈ capabilities, Compatible volume capability := by
  unfold Confirms
  by_cases empty : capabilities = []
  · rw [validateVolumeCapabilities, Program.reject, if_neg named, Program.ret_bind, Program.reject, if_pos empty]
    exact iff_of_false id fun confirmed => confirmed.1 empty
  rw [run_validate named held empty]
  simp only [← validateCapability_ok, ← forM_ok]
  cases forM capabilities (validateCapability volume) with
  | ok value => simp [empty, Except.map]
  | error status => simp [Except.map]

/-! ### The publishes -/

theorem visits_loadVolume {owner : String} {α : Type} {next : Volume → Action Status α}
    (held : world.store.lookup (volumeKey name) = some volume) :
    ((loadVolume name) >>= next).visits (World.exec owner) healthy world =
      (world, .getOpt (volumeKey name)) :: (next volume).visits (World.exec owner) healthy world := by
  have answered : World.exec owner .none world (.getOpt (volumeKey name)) = (.ok (some volume), world) :=
    congrArg (fun found => (Except.ok found, world)) held
  show (world, _) :: Program.visits _ _ _ _ = _
  rw [answered]
  rfl

theorem publish_passes {r : ControllerPublishVolumeRequest} (named : r.volumeId ≠ "") (node : r.nodeId ≠ "")
    (given : r.volumeCapability = some capability) (held : world.store.lookup (volumeKey r.volumeId) = some volume)
    (unlocked : lockedElsewhere volume r.nodeId = none) (state : volume.state = .«open») :
    Passes config (.controllerPublishVolume r) world ↔ Compatible volume capability ∨
      Misplaced volume capability := by
  unfold Passes
  rw [served, execFor, handle, controllerPublishVolume, Program.reject, if_neg named, Program.ret_bind,
    Program.reject, if_neg node, Program.ret_bind, Program.reject, if_neg (by simp [given]), Program.ret_bind,
    Program.bind_assoc, visits_loadVolume held, unlocked, refuse, Program.ret_bind, given, Program.ofOption,
    Program.ret_bind]
  cases read : parseVolumeCapability capability with
  | error status => simp [Program.ofExcept, Program.visits, Compatible, Misplaced, read]
  | ok parsed =>
    rw [Program.ofExcept, Program.ret_bind]
    dsimp only
    rw [state]
    dsimp only
    by_cases valid : parsed.1 ∈ volume.validConfigs
    · rw [Program.reject, if_neg (not_not.mpr valid), Program.ret_bind]
      apply iff_of_true (Nat.lt_add_of_pos_left (Nat.zero_lt_succ _))
      by_cases other : OtherFilesystem parsed.2 volume
      · exact Or.inr ⟨parsed, read, valid, other⟩
      · exact Or.inl ⟨parsed, read, valid, other⟩
    · rw [Program.reject, if_pos valid]
      apply iff_of_false (Nat.lt_irrefl 1)
      rintro (⟨_, same, allowed, -⟩ | ⟨_, same, allowed, -⟩)
      · cases read.symm.trans same
        exact valid allowed
      · cases read.symm.trans same
        exact valid allowed

theorem nodePublish_passes {p : NodePublishVolumeRequest} (named : p.volumeId ≠ "") (target : p.targetPath ≠ "")
    (given : p.volumeCapability = some capability) (held : world.store.lookup (volumeKey p.volumeId) = some volume)
    (unlocked : lockedElsewhere volume config.node = none) (state : volume.state = .controllerPublished)
    (unmounted : volume.mountPaths = []) :
    Passes config (.nodePublishVolume p) world ↔ Compatible volume capability := by
  have fresh : ¬Contains volume.mountPaths p.targetPath := by
    rintro ⟨path, member, -⟩
    rw [unmounted] at member
    cases member
  unfold Passes
  rw [served, execFor, handle, nodePublishVolume, Program.reject, if_neg named, Program.ret_bind, Program.reject,
    if_neg target, Program.ret_bind, given, Program.ofOption, Program.ret_bind]
  cases read : parseVolumeCapability capability with
  | error status => simp [Program.ofExcept, Program.visits, Compatible, read]
  | ok parsed =>
    rw [Program.ofExcept, Program.ret_bind]
    dsimp only
    rw [Program.bind_assoc, visits_loadVolume held]
    by_cases refused : parsed.1 ∉ volume.validConfigs ∨ OtherFilesystem parsed.2 volume
    · rw [Program.reject, if_pos refused]
      apply iff_of_false (Nat.lt_irrefl 1)
      rintro ⟨_, same, valid, compatible⟩
      cases read.symm.trans same
      exact refused.elim (· valid) compatible
    · rw [Program.reject, if_neg refused, Program.ret_bind, unlocked, refuse, Program.ret_bind, admitPublish, state]
      dsimp only
      rw [Program.pure_bind, if_neg fresh]
      rw [not_or, not_not] at refused
      exact iff_of_true (Nat.lt_add_of_pos_left (Nat.zero_lt_succ _)) ⟨parsed, read, refused⟩

/-! ### Side by side -/

/-- How the checks of an open volume compare. -/
structure ChecksAgree (name : String) (volume : Volume) (cluster : Cluster) : Prop where
  controller : ∀ config r capability, r.volumeId = name → r.nodeId ≠ "" → r.volumeCapability = some capability →
    lockedElsewhere volume r.nodeId = none → ¬Misplaced volume capability →
    (Confirms (cluster.world config) name [capability] ↔
      Passes config (.controllerPublishVolume r) (cluster.world config))
  node : ∀ config r capability oracle reply after, r.volumeId = name → r.volumeCapability = some capability →
    cluster.serve config (.controllerPublishVolume r) oracle = (.ok reply, after) →
    ∀ node p, p.volumeId = name → p.targetPath ≠ "" → p.volumeCapability = some capability →
    lockedElsewhere volume node.node = none →
    (Confirms (cluster.world config) name [capability] ↔ Passes node (.nodePublishVolume p) (after.world node))
  list : ∀ config capabilities, capabilities ≠ [] →
    (Confirms (cluster.world config) name capabilities ↔
      ∀ capability ∈ capabilities, Confirms (cluster.world config) name [capability])
  empty : ∀ config, ¬Confirms (cluster.world config) name []

theorem confirms_one (named : name ≠ "") (held : world.store.lookup (volumeKey name) = some volume) :
    Confirms world name [capability] ↔ Compatible volume capability := by
  simp [confirms_iff named held]

theorem checks_agree (hosts : String → Host) {schedule : List (Move (Config × Request) Call Fault)}
    (held : ((Cluster.mk ∅ hosts).deploy schedule).world.store.lookup (volumeKey name) = some volume)
    (opened : volume.state = .«open») : ChecksAgree name volume ((Cluster.mk ∅ hosts).deploy schedule).world := by
  have ok : StoreOk WellFormed ((Cluster.mk ∅ hosts).deploy schedule).world.store :=
    deploy_ok wellFormed_invariant .empty schedule
  have named : name ≠ "" := by
    obtain ⟨own, real⟩ := (deploy_ok named_invariant .empty schedule).named held
    rwa [← own]
  generalize ((Cluster.mk ∅ hosts).deploy schedule).world = cluster at held ok
  have formed := (ok.named held).2
  have alone (config : Config) (capability : VolumeCapability) :
      Confirms (cluster.world config) name [capability] ↔ Compatible volume capability := confirms_one named held
  refine ⟨?_, ?_, ?_, ?_⟩
  · intro config r capability own node given unlocked placed
    subst own
    rw [alone, publish_passes named node given held unlocked opened]
    exact (or_iff_left placed).symm
  · intro config r capability oracle reply after own given served node p mine target asks unlocked
    subst own
    obtain ⟨returned, rfl⟩ := Prod.mk.inj served
    have start : StoreOk WellFormed (cluster.world config).store := ok
    obtain ⟨before, requested, filesystem, lookup, -, -, -, outcome⟩ := publish_ok start returned
    cases held.symm.trans lookup
    rcases outcome with ⟨-, written⟩ | ⟨state, -⟩
    · rw [alone]
      rw [← mine] at named written
      have present : ((cluster.serve config (.controllerPublishVolume r) oracle).2.world node).store.lookup
        (volumeKey p.volumeId) = some (publishedAs volume requested r.readonly) := written
      exact (nodePublish_passes named target asks present unlocked rfl (formed.opened opened).1).symm
    · cases opened.symm.trans state
  · intro config capabilities some
    have listed : Confirms (cluster.world config) name capabilities ↔ _ := confirms_iff named held
    rw [listed]
    simp only [alone]
    exact and_iff_right some
  · intro config confirmed
    have listed : Confirms (cluster.world config) name [] ↔ _ := confirms_iff named held
    exact (listed.mp confirmed).1 rfl

namespace Sample

def createdA : List (Move (Config × Request) Call Fault) :=
  [.start (Sample.config, create "a" "/pv2/" "ext4" 7)] ++ steps 0 2

def xfs : VolumeCapability := ⟨some ⟨7⟩, some (.mount { fsType := "xfs" })⟩

end Sample

theorem checks_agree_sample :
    ∃ volume, ChecksAgree "a" volume ((Cluster.mk ∅ fun _ => {}).deploy Sample.createdA).world := by
  obtain ⟨volume, held, opened⟩ : ∃ volume ∈ ((Cluster.mk ∅ fun _ => {}).deploy Sample.createdA).world.store.lookup
      (volumeKey "a"), volume.state = .«open» := by decide +kernel
  exact ⟨volume, checks_agree (fun _ => {}) held opened⟩

/-- ControllerPublishVolume passes a capability that ValidateVolumeCapabilities refuses, and a list with
nothing to refuse is refused. -/
theorem checks_differ :
    let world := ((Cluster.mk ∅ fun _ => {}).deploy Sample.createdA).world.world Sample.config
    Passes Sample.config Sample.publishXfs world ∧ ¬Confirms world "a" [Sample.xfs] ∧
      ¬(Confirms world "a" [] ↔ ∀ capability ∈ ([] : List VolumeCapability), Confirms world "a" [capability]) := by
  decide +kernel

end Lvp
