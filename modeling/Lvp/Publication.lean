import Lvp.Pinning

/-!
Controller publications over runs of all instances: how long one is in force, what it grants and who takes
it back.
-/

namespace Lvp
open Unix Effect Csi

variable {config : Config} {request : Request} {start world : World} {phase : Phase} {stage next : Stage}
  {volume written : Volume} {name : String} {cluster : Cluster} {oracle : Oracle Call Fault}

/-- A ControllerUnpublishVolume that returned Ok, or made a call that took effect and reported a failure. -/
def Withdraws (config : Config) : Request → Oracle Call Fault → World → Prop
  | .controllerUnpublishVolume r, oracle, world =>
      (serve config (.controllerUnpublishVolume r) oracle world).1.isOk ∨
        ∃ event ∈ traced config (.controllerUnpublishVolume r) oracle world, event.fault = .lost
  | _, _, _ => False

/-- The publication of the volume is not taken back. -/
def Unwithdrawn (name : String) : Cluster → ClusterRun → Prop
  | _, [] => True
  | cluster, (config, request, oracle) :: rest =>
      (request.volumeId = name → ¬Withdraws config request oracle (cluster.world config)) ∧
        Unwithdrawn name (cluster.serve config request oracle).2 rest

def Volume.Published (volume : Volume) : Prop := volume.state ≠ .«open»

instance : DecidablePred Volume.Published := fun _ => inferInstanceAs (Decidable (¬_))

/-! ### A publication in force -/

section Unpublish
variable {r : ControllerUnpublishVolumeRequest}

/-- Nothing has happened; or the record was ControllerPublished and is saved, or a call took effect and
reported a failure. -/
def Unheard (start : World) (name : String) (phase : Phase) (past : History) (world : World) : Prop :=
  world = start ∨
    (∃ volume, start.store.lookup (volumeKey name) = some volume ∧ volume.state = .controllerPublished) ∧
      ((∃ volume, phase = .on volume .saved) ∨ ∃ entry ∈ past, entry.2.fault = .lost)

theorem unheard_step {phase : Phase} {past : History} {call : Call} {resume : call.Answer → Phase} {fault : Fault}
    (holds : Holds (.controllerUnpublishVolume r) phase world) (unheard : Unheard start r.volumeId phase past world)
    (issued : Issues config (.controllerUnpublishVolume r) phase call resume) :
    Afterwards (fun _ => Unheard start r.volumeId) (.controllerUnpublishVolume r) past world call resume fault := by
  rcases unheard with same | ⟨published, ⟨volume, rfl⟩ | ⟨entry, member, lost⟩⟩
  · cases issued with
    | load => exact Or.inl (by cases fault <;> exact same)
    | write writes =>
      cases writes with
      | unpublish state =>
        subst same
        cases fault with
        | fails => exact Or.inl rfl
        | lost => exact Or.inr ⟨⟨_, holds, state⟩,
          Or.inr ⟨_, List.mem_append_right _ (List.mem_singleton_self _), rfl⟩⟩
        | none =>
          unfold Afterwards
          simp only [execFor, World.exec, World.perform]
          split
          · exact Or.inr ⟨⟨_, holds, state⟩, Or.inl ⟨_, rfl⟩⟩
          · exact Or.inl rfl
  · cases issued with
    | write writes => cases writes
  · exact Or.inr ⟨published, Or.inr ⟨entry, List.mem_append_left _ member, lost⟩⟩

theorem unheard_carries (config : Config) (start : World) (r : ControllerUnpublishVolumeRequest) :
    Carries config (fun request world => request = .controllerUnpublishVolume r ∧ world = start) (fun _ _ => True)
      (fun request phase past world =>
        request = .controllerUnpublishVolume r ∧ Unheard start r.volumeId phase past world) (fun _ _ => True) where
  enter admitted _ := ⟨admitted.1, Or.inl admitted.2⟩
  step {request phase past world call resume fault} _ holds inside issued _ := by
    obtain ⟨rfl, unheard⟩ := inside
    exact ⟨rfl, unheard_step holds unheard issued⟩
  leave _ _ := trivial

theorem serve_unheard (config : Config) (oracle : Oracle Call Fault) (ok : StoreOk WellFormed start.store) :
    ∃ last, Outcome (fun _ => Returns config (.controllerUnpublishVolume r)) (fun _ last => last.idle)
        ((serve config (.controllerUnpublishVolume r) oracle start).1, last) ∧
      Unheard start r.volumeId last ((traced config (.controllerUnpublishVolume r) oracle start).map
        (Request.controllerUnpublishVolume r, ·)) (serve config (.controllerUnpublishVolume r) oracle start).2 := by
  obtain ⟨-, ⟨last, ended, -, -, unheard⟩, -⟩ :=
    (unheard_carries config start r).serve [] ok trivial ⟨rfl, rfl⟩ fun _ _ _ _ => trivial
  exact ⟨last, ended, unheard⟩

theorem serve_silent (ok : StoreOk WellFormed start.store)
    (silent : ¬Withdraws config (.controllerUnpublishVolume r) oracle start) :
    (serve config (.controllerUnpublishVolume r) oracle start).2 = start := by
  obtain ⟨last, ended, unheard⟩ := serve_unheard config oracle ok
  rcases unheard with same | ⟨-, ⟨volume, rfl⟩ | ⟨entry, member, lost⟩⟩
  · exact same
  · cases returned : (serve config (.controllerUnpublishVolume r) oracle start).1 with
    | ok reply => exact absurd (Or.inl (by rw [returned]; rfl)) silent
    | error status =>
      rw [returned] at ended
      cases ended
  · obtain ⟨event, visited, rfl⟩ := List.mem_map.mp member
    exact absurd (Or.inr ⟨event, visited, lost⟩) silent

/-- While the volume is mounted, its publication cannot be taken back. -/
theorem serve_mounted (config : Config) (oracle : Oracle Call Fault) (ok : StoreOk WellFormed start.store)
    (held : start.store.lookup (volumeKey r.volumeId) = some volume) (state : volume.state = .nodePublished) :
    (serve config (.controllerUnpublishVolume r) oracle start).2 = start ∧
      ∀ reply, (serve config (.controllerUnpublishVolume r) oracle start).1 ≠ .ok reply := by
  constructor
  · obtain ⟨last, -, unheard⟩ := serve_unheard config oracle ok
    refine unheard.resolve_right fun published => ?_
    obtain ⟨⟨before, lookup, other⟩, -⟩ := published
    cases held.symm.trans lookup
    cases state.symm.trans other
  · intro reply returned
    rcases unpublish_ok ok returned with ⟨opened, -⟩ | ⟨found, lookup, published, -⟩
    · cases state.symm.trans (opened volume held)
    · cases held.symm.trans lookup
      cases state.symm.trans published

end Unpublish

theorem Writes.published (writes : Writes config request volume stage written next) (published : volume.Published)
    (other : ∀ r, request ≠ .controllerUnpublishVolume r) : written.Published := by
  cases writes with
  | unpublish => exact absurd rfl (other _)
  | publish => nofun
  | record => nofun
  | @unmount r =>
    obtain ⟨_, state, _, kept, same⟩ := unmountedFrom_kept volume r.targetPath
    rw [kept]
    rcases same with rfl | rfl
    · exact published
    · nofun
  | _ => exact published

theorem Writes.unsaved (writes : Writes config request volume stage written next) : stage ≠ .saved := by
  cases writes with
  | unmount _ settled => rcases settled with rfl | ⟨rfl, -⟩ <;> nofun
  | expand _ settled => rcases settled with rfl | ⟨rfl, -⟩ <;> nofun
  | _ => nofun

theorem Trail.readonly (trail : Trail config request volume written stage) (unsaved : stage ≠ .saved) :
    written.publishedReadonly = volume.publishedReadonly ∧ (volume.Published → written.Published) := by
  rcases trail.unsaved unsaved with rfl | ⟨_, -, rfl, -⟩
  · exact ⟨rfl, id⟩
  · exact ⟨rfl, id⟩

theorem serve_published (ok : StoreOk WellFormed start.store)
    (held : start.store.lookup (volumeKey name) = some volume) (published : volume.Published)
    (kept : request.volumeId = name → ¬Withdraws config request oracle start) :
    ∃ after, (serve config request oracle start).2.store.lookup (volumeKey name) = some after ∧
      after.Published := by
  obtain ⟨others, changes⟩ := serve_changes config request oracle ok
  by_cases own : request.volumeId = name
  · subst own
    have silent := kept rfl
    by_cases unpublishes : ∃ r, request = .controllerUnpublishVolume r
    · obtain ⟨r, rfl⟩ := unpublishes
      rw [serve_silent ok silent]
      exact ⟨volume, held, published⟩
    have other : ∀ r, request ≠ .controllerUnpublishVolume r := fun r same => unpublishes ⟨r, same⟩
    rw [held] at changes
    generalize left : (serve config request oracle start).2.store.lookup (volumeKey request.volumeId) =
      record at changes
    cases changes with
    | same => exact ⟨volume, rfl, published⟩
    | writes trail writes => exact ⟨_, rfl, writes.published ((trail.readonly writes.unsaved).2 published) other⟩
    | deletes state => exact absurd state published
  · have apart : volumeKey name ≠ volumeKey request.volumeId := fun same => own (volumeKey_injective same).symm
    exact ⟨volume, (others _ apart).trans held, published⟩

theorem unwithdrawn_lasting {run : ClusterRun} (ok : StoreOk WellFormed cluster.store)
    (held : cluster.store.lookup (volumeKey name) = some volume) (published : volume.Published)
    (unwithdrawn : Unwithdrawn name cluster run) : Lasting Volume.Published name cluster run := by
  induction run generalizing cluster volume with
  | nil => exact lasting_nil held published
  | cons step rest ih =>
    obtain ⟨config, request, oracle⟩ := step
    obtain ⟨kept, unwithdrawn⟩ := unwithdrawn
    have served : StoreOk WellFormed (cluster.world config).store := ok
    obtain ⟨after, present, still⟩ := serve_published served held published kept
    have later := ih (serve_ok wellFormed_invariant served oracle).1 present still unwithdrawn
    rintro (_ | n) bound
    · exact ⟨volume, held, published⟩
    · exact later n (Nat.le_of_succ_le_succ bound)

theorem publish_published {r : ControllerPublishVolumeRequest} {reply : Reply} (ok : StoreOk WellFormed start.store)
    (returned : (serve config (.controllerPublishVolume r) oracle start).1 = .ok reply) :
    ∃ volume, (serve config (.controllerPublishVolume r) oracle start).2.store.lookup (volumeKey r.volumeId) =
      some volume ∧ volume.Published ∧ volume.publishedReadonly = r.readonly := by
  obtain ⟨before, requested, filesystem, held, -, -, -, outcome⟩ := publish_ok ok returned
  rcases outcome with ⟨-, written⟩ | ⟨state, -, readonly, same⟩
  · exact ⟨_, written, nofun, rfl⟩
  · rw [same]
    refine ⟨before, held, ?_, readonly⟩
    rw [Volume.Published, state]
    nofun

theorem Writes.readonly (writes : Writes config request volume stage written next) (before : volume.Published)
    (after : written.Published) : written.publishedReadonly = volume.publishedReadonly := by
  cases writes with
  | publish _ _ state => exact absurd state before
  | unpublish => exact absurd rfl after
  | @unmount r =>
    obtain ⟨_, _, _, kept, -⟩ := unmountedFrom_kept volume r.targetPath
    rw [kept]
  | _ => rfl

theorem Changes.readonly (changes : Changes config request (some volume) (some written)) (before : volume.Published)
    (after : written.Published) : written.publishedReadonly = volume.publishedReadonly := by
  cases changes with
  | same => rfl
  | writes trail writes =>
    obtain ⟨same, published⟩ := trail.readonly writes.unsaved
    exact (writes.readonly (published before) after).trans same

/-- What a publication has granted stays until it is taken back. -/
theorem publication_lasts {r : ControllerPublishVolumeRequest} {reply : Reply} {after : Cluster}
    {later : ClusterRun} (ok : StoreOk WellFormed cluster.store)
    (served : cluster.serve config (.controllerPublishVolume r) oracle = (.ok reply, after))
    (unwithdrawn : Unwithdrawn r.volumeId after later) :
    StoreOk WellFormed (after.serveAll later).store ∧
      ∃ volume, (after.serveAll later).store.lookup (volumeKey r.volumeId) = some volume ∧ volume.Published ∧
        volume.publishedReadonly = r.readonly := by
  obtain ⟨returned, rfl⟩ := Prod.mk.inj served
  have start : StoreOk WellFormed (cluster.world config).store := ok
  have settled : StoreOk WellFormed (cluster.serve config (.controllerPublishVolume r) oracle).2.store :=
    (serve_ok wellFormed_invariant start oracle).1
  obtain ⟨volume, held, published, readonly⟩ := publish_published start returned
  have lasting := unwithdrawn_lasting settled held published unwithdrawn
  obtain ⟨last, present, still⟩ := lasting later.length le_rfl
  rw [List.take_length] at present
  refine ⟨clusterServeAll_ok wellFormed_invariant settled later, last, present, still, ?_⟩
  refine serveAll_lasting (·.publishedReadonly = r.readonly) settled
    (fun before after same changes => (changes.readonly before after).trans same) lasting (fun found lookup => ?_) last
    present
  cases held.symm.trans lookup
  exact readonly

/-! ### For whatever node -/

/-- A publication as every node sees it. -/
structure InForce (name : String) (volume : Volume) (cluster : Cluster) : Prop where
  present : cluster.store.lookup (volumeKey name) = some volume
  published : volume.Published
  repeated : ∀ config r oracle reply after, r.volumeId = name →
    cluster.serve config (.controllerPublishVolume r) oracle = (.ok reply, after) →
    volume.state = .controllerPublished ∧ (∀ node ∈ volume.assignedNodeId, node = r.nodeId) ∧ after = cluster
  mounted : ∀ config r oracle, r.volumeId = name → volume.state = .nodePublished →
    (cluster.serve config (.controllerUnpublishVolume r) oracle).2 = cluster ∧
      ∀ reply, (cluster.serve config (.controllerUnpublishVolume r) oracle).1 ≠ .ok reply
  unpublished : ∀ config r oracle reply after, r.volumeId = name →
    cluster.serve config (.controllerUnpublishVolume r) oracle = (.ok reply, after) →
    volume.state = .controllerPublished ∧ after.store.lookup (volumeKey name) = some (withdrawn volume)
  -- the node of the request is not read
  anyone : ∀ config r node oracle, cluster.serve config (.controllerUnpublishVolume { r with nodeId := node }) oracle =
    cluster.serve config (.controllerUnpublishVolume r) oracle

theorem update_world (cluster : Cluster) (config : Config) :
    cluster.update config (cluster.world config) = cluster := by
  obtain ⟨store, hosts⟩ := cluster
  simp [Cluster.update, Cluster.world]

theorem inForce (ok : StoreOk WellFormed cluster.store) (held : cluster.store.lookup (volumeKey name) = some volume)
    (published : volume.Published) : InForce name volume cluster where
  present := held
  published := published
  repeated config r oracle reply after named asked := by
    subst named
    obtain ⟨returned, rfl⟩ := Prod.mk.inj asked
    have served : StoreOk WellFormed (cluster.world config).store := ok
    obtain ⟨before, requested, filesystem, lookup, -, unlocked, -, outcome⟩ := publish_ok served returned
    cases held.symm.trans lookup
    rcases outcome with ⟨opened, -⟩ | ⟨state, -, -, same⟩
    · exact absurd opened published
    · refine ⟨state, fun node assigned => (unlocked_node unlocked assigned).symm, ?_⟩
      rw [same]
      exact update_world cluster config
  mounted config r oracle named state := by
    subst named
    have served : StoreOk WellFormed (cluster.world config).store := ok
    obtain ⟨same, refused⟩ := serve_mounted config oracle served held state
    refine ⟨?_, refused⟩
    rw [Cluster.serve, same]
    exact update_world cluster config
  unpublished config r oracle reply after named asked := by
    subst named
    obtain ⟨returned, rfl⟩ := Prod.mk.inj asked
    have served : StoreOk WellFormed (cluster.world config).store := ok
    rcases unpublish_ok served returned with ⟨opened, -⟩ | ⟨found, lookup, state, written⟩
    · exact absurd (opened volume held) published
    · cases held.symm.trans lookup
      exact ⟨state, written⟩
  anyone _ _ _ _ := rfl

/-- A publication stays in force, for whatever node it was made, until it is taken back. -/
theorem publication_shared (hosts : String → Host) {first later : ClusterRun} {r : ControllerPublishVolumeRequest}
    {reply : Reply} {after : Cluster}
    (served : ((Cluster.mk ∅ hosts).serveAll first).serve config (.controllerPublishVolume r) oracle =
      (.ok reply, after))
    (unwithdrawn : Unwithdrawn r.volumeId after later) :
    ∃ volume, InForce r.volumeId volume (after.serveAll later) := by
  have ok : StoreOk WellFormed ((Cluster.mk ∅ hosts).serveAll first).store :=
    clusterServeAll_ok wellFormed_invariant .empty first
  obtain ⟨settled, volume, held, published, -⟩ := publication_lasts ok served unwithdrawn
  exact ⟨volume, inForce settled held published⟩

namespace Sample

def created : Cluster := (Cluster.mk ∅ fun _ => {}).serveAll [(Sample.config, create "a" "/pv2/" "ext4" 7, healthy)]

def publishTo (node : String) : Request := .controllerPublishVolume ⟨"a", node, some (capability 7), false⟩

end Sample

theorem publication_shared_sample : ∃ volume, InForce "a" volume
    ((Sample.created.serve Sample.config (Sample.publishTo "ho.me") healthy).2.serveAll
      [(Sample.config, Sample.nodePublish "a" "/t" 7, healthy)]) := by
  have returned : (Sample.created.serve Sample.config (Sample.publishTo "ho.me") healthy).1 = .ok .done := by
    decide +kernel
  exact publication_shared (fun _ => {}) (r := ⟨"a", "ho.me", some (Sample.capability 7), false⟩)
    (Prod.ext returned rfl) ⟨fun _ => id, trivial⟩

/-- Another node publishes the volume as well, and takes the first publication back. -/
theorem published_twice :
    let home := Sample.created.serve Sample.config (Sample.publishTo "ho.me") healthy
    let away := home.2.serve Sample.config (Sample.publishTo "ot.her") healthy
    let back := home.2.serve Sample.config (.controllerUnpublishVolume ⟨"a", "ot.her"⟩) healthy
    home.1 = .ok .done ∧ away.1 = .ok .done ∧ back.1 = .ok .done ∧
      ∃ volume ∈ back.2.store.lookup (volumeKey "a"), volume.state = .«open» := by
  decide +kernel

/-! ### The access mode in force -/

/-- The config a publish asks for. -/
def Request.asks : Request → Option VolumeConfig
  | .controllerPublishVolume r => (asked r.volumeCapability).map (·.1)
  | .nodePublishVolume r => (asked r.volumeCapability).map (·.1)
  | _ => none

def InMode (config : VolumeConfig) (name : String) (world : World) : Prop :=
  ∃ volume ∈ world.store.lookup (volumeKey name), volume.publishedConfig = some config

/-- The volume is published already, in another mode than this, and mounted nowhere. -/
def InOtherMode (config : VolumeConfig) (name : String) (world : World) : Prop :=
  ∃ volume ∈ world.store.lookup (volumeKey name),
    volume.state = .controllerPublished ∧ volume.publishedConfig ≠ some config

instance {config : VolumeConfig} : Decidable (InMode config name world) := by
  unfold InMode
  infer_instance

instance {config : VolumeConfig} : Decidable (InOtherMode config name world) := by
  unfold InOtherMode
  infer_instance

section Mode
variable {requested : VolumeConfig} {reply : Reply}

theorem asked_map {capability : Option VolumeCapability} {config : VolumeConfig} {filesystem : Option Filesystem}
    (asks : (asked capability).map (·.1) = some requested) (asking : asked capability = some (config, filesystem)) :
    config = requested := by
  rw [asking] at asks
  exact Option.some.inj asks

/-- For a record that a publish leaves in the mode it is in. -/
theorem inMode_iff {before after : Volume} (held : start.store.lookup (volumeKey name) = some before)
    (present : world.store.lookup (volumeKey name) = some after)
    (kept : after.publishedConfig = before.publishedConfig)
    (mode : before.state ≠ .controllerPublished → before.publishedConfig = some requested) :
    InMode requested name world ↔ ¬InOtherMode requested name start := by
  constructor
  · rintro ⟨_, found, same⟩ ⟨_, lookup, state, other⟩
    cases present.symm.trans found
    cases held.symm.trans lookup
    exact other (kept.symm.trans same)
  · intro settled
    refine ⟨after, present, kept.trans ?_⟩
    by_cases state : before.state = .controllerPublished
    · exact not_not.mp fun other => settled ⟨before, held, state, other⟩
    · exact mode state

theorem publish_mode {r : ControllerPublishVolumeRequest} (ok : StoreOk WellFormed start.store)
    (asks : (asked r.volumeCapability).map (·.1) = some requested)
    (returned : (serve config (.controllerPublishVolume r) oracle start).1 = .ok reply) :
    InMode requested r.volumeId (serve config (.controllerPublishVolume r) oracle start).2 ↔
      ¬InOtherMode requested r.volumeId start := by
  obtain ⟨before, granted, filesystem, held, asking, -, -, outcome⟩ := publish_ok ok returned
  cases asked_map asks asking
  rcases outcome with ⟨opened, written⟩ | ⟨state, -, -, same⟩
  · refine ⟨?_, fun _ => ⟨_, written, rfl⟩⟩
    rintro - ⟨_, lookup, state, -⟩
    cases held.symm.trans lookup
    cases opened.symm.trans state
  · rw [same]
    exact inMode_iff held held rfl fun other => absurd state other

theorem nodePublish_mode {r : NodePublishVolumeRequest} (ok : StoreOk WellFormed start.store)
    (asks : (asked r.volumeCapability).map (·.1) = some requested)
    (returned : (serve config (.nodePublishVolume r) oracle start).1 = .ok reply) :
    InMode requested r.volumeId (serve config (.nodePublishVolume r) oracle start).2 ↔
      ¬InOtherMode requested r.volumeId start := by
  obtain ⟨before, held, granted, outcome⟩ := nodePublish_ok ok returned
  obtain ⟨parsed, filesystem, asking, -, -, agrees⟩ := granted.granted
  cases asked_map asks asking
  have formed := (ok.named held).2
  have mode : before.state = .nodePublished → before.publishedConfig = some requested := fun state => by
    obtain ⟨-, -, ⟨known, -, published, -⟩, -⟩ := formed.node state
    rw [published, agrees state known published]
  rcases outcome with ⟨present, same⟩ | ⟨admitted, now, device, pinned, written⟩
  · rw [same]
    exact inMode_iff held held rfl fun _ => mode (formed.mounted_of_present present)
  · refine inMode_iff held written (mountedAt_publishedConfig pinned) fun other => mode ?_
    exact (admitted.mountable.resolve_left other).1

end Mode

/-- Ok from a publish leaves the volume in the mode asked for exactly when it was not published in another. -/
theorem granted_mode_iff (hosts : String → Host) {schedule : List (Move (Config × Request) Call Fault)}
    {requested : VolumeConfig} {reply : Reply} (asks : request.asks = some requested)
    (returned : (serve config request oracle (((Cluster.mk ∅ hosts).deploy schedule).world.world config)).1 =
      .ok reply) :
    InMode requested request.volumeId
        (serve config request oracle (((Cluster.mk ∅ hosts).deploy schedule).world.world config)).2 ↔
      ¬InOtherMode requested request.volumeId (((Cluster.mk ∅ hosts).deploy schedule).world.world config) := by
  have ok : StoreOk WellFormed (((Cluster.mk ∅ hosts).deploy schedule).world.world config).store :=
    deploy_ok wellFormed_invariant .empty schedule
  cases request with
  | controllerPublishVolume r => exact publish_mode ok asks returned
  | nodePublishVolume r => exact nodePublish_mode ok asks returned
  | _ => cases asks

namespace Sample

def createBoth : Request :=
  .createVolume { createRequest "a" "/pv2/" "ext4" 1 with volumeCapabilities := [capability 1, capability 7] }

/-- Created for one writer or several, then published for one. -/
def publishedWriter : World :=
  serveAll Sample.config ⟨∅, {}⟩ [(createBoth, healthy), (publish "a" 1, healthy)]

end Sample

theorem granted_mode_iff_sample :
    InMode ⟨.singleNodeMultiWriter⟩ "a" (serve Sample.config (Sample.publish "a" 7) healthy
      (((Cluster.mk ∅ fun _ => {}).deploy ([.start (Sample.config, Sample.createBoth)] ++ Sample.steps 0 2)).world.world
        Sample.config)).2 := by
  have asks : (Sample.publish "a" 7).asks = some ⟨.singleNodeMultiWriter⟩ := by decide
  have returned : (serve Sample.config (Sample.publish "a" 7) healthy
      (((Cluster.mk ∅ fun _ => {}).deploy ([.start (Sample.config, Sample.createBoth)] ++ Sample.steps 0 2)).world.world
        Sample.config)).1 = .ok .done := by decide +kernel
  exact (granted_mode_iff (fun _ => {}) asks returned).mpr (by decide +kernel)

/-- Both publishes answer Ok to another mode than the one that stays in force. -/
theorem granted_other_mode :
    let again := serve Sample.config (Sample.publish "a" 7) healthy Sample.publishedWriter
    let mounted := serve Sample.config (Sample.nodePublish "a" "/t" 7) healthy Sample.publishedWriter
    again.1 = .ok .done ∧ ¬InMode ⟨.singleNodeMultiWriter⟩ "a" again.2 ∧
      mounted.1 = .ok .done ∧ ¬InMode ⟨.singleNodeMultiWriter⟩ "a" mounted.2 := by
  decide +kernel

/-! ### Read-only publications -/

/-- A mount command with the read-only flag. -/
def Call.readonly : Call → Bool
  | .command ["chroot", _, "mount", "-r", _, _] | .command ["mount", "bind", "-r", _, _] => true
  | _ => false

theorem mount_flag (readonly : Bool) (source target : Path) :
    (Call.command (["chroot", "/chr"] ++ mountCommand false readonly source target)).readonly = readonly := by
  cases readonly <;> simp [Call.readonly, mountCommand]

theorem mountBind_flag (readonly : Bool) (source target : Path) :
    (Call.command (mountCommand true readonly source target)).readonly = readonly := by
  cases readonly <;> simp [Call.readonly, mountCommand]

theorem mount_readonly {p : NodePublishVolumeRequest} {event : CallEvent} (ok : StoreOk WellFormed start.store)
    (held : start.store.lookup (volumeKey p.volumeId) = some volume)
    (issued : event ∈ traced config (.nodePublishVolume p) oracle start) (mounts : event.op.mounts) :
    event.op.readonly = (p.readonly || volume.publishedReadonly) := by
  obtain ⟨phase, resume, step, holds, since⟩ := traced_since ok issued
  have same {now : Volume} {stage : Stage} (reached : phase = .on now stage) (unsaved : stage ≠ .saved) :
      now.publishedReadonly = volume.publishedReadonly := by
    subst reached
    rcases since.position.trail holds with ⟨_, ⟨⟩, -⟩ | ⟨before, lookup, trail⟩
    cases held.symm.trans lookup
    exact (trail.readonly unsaved).1
  obtain ⟨op, answer, world, fault⟩ := event
  cases step with
  | mount _ _ ready =>
    rw [← same rfl (by rcases ready with ⟨rfl, -⟩ | ⟨rfl, -⟩ <;> nofun)]
    exact mount_flag _ _ _
  | mountBind =>
    rw [← same rfl nofun]
    exact mountBind_flag _ _ _
  | @mkfs _ now _ => cases known : now.filesystem <;> simp [Call.mounts, deed, utilityDeed,
    formatter, known] at mounts
  | _ => simp [Call.mounts, deed, utilityDeed] at mounts

/-- A mount for a publication in force is read-only when the publication or the mount asked for that. -/
theorem readonly_mounts_iff (hosts : String → Host) {first later : ClusterRun} {r : ControllerPublishVolumeRequest}
    {reply : Reply} {after : Cluster}
    (served : ((Cluster.mk ∅ hosts).serveAll first).serve config (.controllerPublishVolume r) oracle =
      (.ok reply, after))
    (unwithdrawn : Unwithdrawn r.volumeId after later) {mounting : Config} {p : NodePublishVolumeRequest}
    (own : p.volumeId = r.volumeId) {fate : Oracle Call Fault} {event : CallEvent}
    (issued : event ∈ traced mounting (.nodePublishVolume p) fate ((after.serveAll later).world mounting))
    (mounts : event.op.mounts) : event.op.readonly ↔ r.readonly ∨ p.readonly := by
  have ok : StoreOk WellFormed ((Cluster.mk ∅ hosts).serveAll first).store :=
    clusterServeAll_ok wellFormed_invariant .empty first
  obtain ⟨settled, volume, held, -, recorded⟩ := publication_lasts ok served unwithdrawn
  rw [← own] at held
  rw [mount_readonly settled held issued mounts, recorded, Bool.or_eq_true, or_comm]

namespace Sample

def createdReader : Cluster :=
  (Cluster.mk ∅ fun _ => {}).serveAll [(Sample.config, create "a" "/pv2/" "ext4" 2, healthy)]

def publishReader (readonly : Bool) : Request :=
  .controllerPublishVolume ⟨"a", "ho.me", some (capability 2), readonly⟩

/-- What mounting the volume takes, once it is published for reading. -/
def mountingReader (readonly : Bool) : List CallEvent :=
  traced Sample.config (nodePublish "a" "/t" 2) healthy
    ((createdReader.serve Sample.config (publishReader readonly) healthy).2.world Sample.config)

end Sample

theorem readonly_mounts_iff_sample : ∃ event ∈ Sample.mountingReader true, event.op.mounts ∧ event.op.readonly := by
  have returned : (Sample.createdReader.serve Sample.config (Sample.publishReader true) healthy).1 = .ok .done := by
    decide +kernel
  have unwithdrawn :
      Unwithdrawn "a" (Sample.createdReader.serve Sample.config (Sample.publishReader true) healthy).2 [] :=
    trivial
  obtain ⟨event, issued, mounts⟩ : ∃ event ∈ Sample.mountingReader true, event.op.mounts := by decide +kernel
  have readonly := readonly_mounts_iff (fun _ => {}) (r := ⟨"a", "ho.me", some (Sample.capability 2), true⟩)
    (p := ⟨"a", "/t", some (Sample.capability 2), false⟩) (Prod.ext returned rfl) unwithdrawn rfl issued mounts
  exact ⟨event, issued, mounts, readonly.mpr (Or.inl rfl)⟩

/-- Published in the mode for readers, and mounted for writing. -/
theorem reader_mounted_writable :
    (Sample.publishReader false).asks = some ⟨.singleNodeReader⟩ ∧
      (Sample.createdReader.serve Sample.config (Sample.publishReader false) healthy).1 = .ok .done ∧
      ∃ event ∈ Sample.mountingReader false, event.op.mounts ∧ ¬event.op.readonly := by
  decide +kernel

end Lvp
