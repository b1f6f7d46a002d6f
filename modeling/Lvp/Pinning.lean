import Lvp.Outcome

/-!
`assigned_node_id`, over runs of all instances. It is written by the NodePublishVolume that makes the
volume and by no other.
-/

namespace Lvp
open Unix Effect Csi

variable {config : Config} {request : Request} {start world : World} {phase : Phase} {stage : Stage}
  {before volume written : Volume} {host : Host} {r : NodePublishVolumeRequest} {name : String} {cluster : Cluster}

abbrev ClusterRun := List (Config × Request × Oracle Call Fault)

/-- The volume has a record with the property all along. -/
def Lasting (holds : Volume → Prop) (name : String) (cluster : Cluster) (run : ClusterRun) : Prop :=
  ∀ n ≤ run.length, ∃ volume,
    (cluster.serveAll (run.take n)).store.lookup (volumeKey name) = some volume ∧ holds volume

instance {holds : Volume → Prop} [DecidablePred holds] {run : ClusterRun} :
    Decidable (Lasting holds name cluster run) :=
  inferInstanceAs (Decidable (∀ n ≤ run.length,
    ∃ volume ∈ (cluster.serveAll (run.take n)).store.lookup (volumeKey name), holds volume))

/-- A NodePublishVolume of the loaded record gets as far as making the volume. -/
def Vacant (config : Config) (host : Host) (r : NodePublishVolumeRequest) (volume : Volume) : Prop :=
  ¬Contains volume.mountPaths r.targetPath ∧
    (host.createDirAll r.targetPath).2.tryExists (publishPath config volume) = .ok false

instance : Decidable (Vacant config host r volume) := inferInstanceAs (Decidable (_ ∧ _))

/-- The volume belongs to the instance already, or is made by it. -/
def Pins (config : Config) (world : World) (r : NodePublishVolumeRequest) : Prop :=
  ∃ volume ∈ world.store.lookup (volumeKey r.volumeId),
    volume.assignedNodeId = some config.node ∨ Vacant config world.host r volume

instance : Decidable (Pins config world r) := by
  unfold Pins
  infer_instance

/-- The volume is assigned to the node, and no instance of another node publishes it. -/
structure PinnedTo (node name : String) (cluster : Cluster) : Prop where
  assigned : ∃ volume ∈ cluster.store.lookup (volumeKey name), volume.assignedNodeId = some node
  refused : ∀ config r oracle reply, config.node ≠ node → r.volumeId = name →
    (cluster.serve config (.nodePublishVolume r) oracle).1 ≠ .ok reply

/-! ### Records over a run -/

theorem lasting_nil {holds : Volume → Prop} (held : cluster.store.lookup (volumeKey name) = some volume)
    (true : holds volume) : Lasting holds name cluster [] := by
  intro n _
  rw [List.take_nil]
  exact ⟨volume, held, true⟩

theorem serveAll_lasting {holds : Volume → Prop} (keeps : Volume → Prop) {run : ClusterRun}
    (ok : StoreOk WellFormed cluster.store)
    (kept : ∀ {config request v w}, holds v → holds w → keeps v → Changes config request (some v) (some w) →
      keeps w)
    (lasting : Lasting holds name cluster run)
    (initial : ∀ volume, cluster.store.lookup (volumeKey name) = some volume → keeps volume) :
    ∀ volume, (cluster.serveAll run).store.lookup (volumeKey name) = some volume → keeps volume := by
  induction run generalizing cluster with
  | nil => exact initial
  | cons step rest ih =>
    obtain ⟨config, request, oracle⟩ := step
    have later : Lasting holds name (cluster.serve config request oracle).2 rest :=
      fun n bound => lasting (n + 1) (Nat.succ_le_succ bound)
    refine ih (serve_ok wellFormed_invariant ok oracle).1 later fun volume held => ?_
    obtain ⟨first, present, first_holds⟩ := lasting 0 (Nat.zero_le _)
    obtain ⟨second, found, second_holds⟩ := later 0 (Nat.zero_le _)
    cases held.symm.trans found
    have served : StoreOk WellFormed (cluster.world config).store := ok
    obtain ⟨others, changes⟩ := serve_changes config request oracle served
    have came : (cluster.world config).store.lookup (volumeKey name) = some first := present
    have left : (serve config request oracle (cluster.world config)).2.store.lookup (volumeKey name) =
        some volume :=
      held
    by_cases own : volumeKey name = volumeKey request.volumeId
    · rw [← own, came, left] at changes
      exact kept first_holds second_holds (initial first present) changes
    · exact initial volume ((others _ own).symm.trans left)

/-! ### A pin stays -/

theorem unlocked_node {node owner : String} (unlocked : lockedElsewhere volume node = none)
    (assigned : volume.assignedNodeId = some owner) : node = owner := by
  simp only [lockedElsewhere, assigned] at unlocked
  split at unlocked
  · cases unlocked
  · rename_i same
    exact (not_not.mp same).symm

theorem Writes.assigned {node : String} (writes : Writes config request volume stage written next)
    (assigned : volume.assignedNodeId = some node) : written.assignedNodeId = some node := by
  cases writes with
  | pin admitted => exact congrArg some (unlocked_node admitted.unlocked assigned)
  | @unmount r =>
    obtain ⟨_, _, _, kept, -⟩ := unmountedFrom_kept volume r.targetPath
    rw [kept]
    exact assigned
  | _ => exact assigned

theorem Trail.assigned {node : String} (trail : Trail config request volume written stage)
    (assigned : volume.assignedNodeId = some node) : written.assignedNodeId = some node := by
  induction trail with
  | loaded => exact assigned
  | call _ _ _ ih => exact ih
  | write _ writes ih => exact writes.assigned ih

theorem Changes.assigned {node : String} (changes : Changes config request (some volume) (some written))
    (assigned : volume.assignedNodeId = some node) : written.assignedNodeId = some node := by
  cases changes with
  | same => exact assigned
  | writes trail writes => exact writes.assigned (trail.assigned assigned)

/-- A pinned volume is published by its own node only. -/
theorem published_unlocked {oracle : Oracle Call Fault} {reply : Reply} (ok : StoreOk WellFormed start.store)
    (held : start.store.lookup (volumeKey r.volumeId) = some volume)
    (returned : (serve config (.nodePublishVolume r) oracle start).1 = .ok reply) {node : String}
    (assigned : volume.assignedNodeId = some node) : config.node = node := by
  obtain ⟨before, lookup, granted, -⟩ := nodePublish_ok ok returned
  cases lookup.symm.trans held
  exact unlocked_node granted.unlocked assigned

/-! ### When a publish pins -/

/-- What a NodePublishVolume has found out about the path of the volume it loaded. -/
def Probed (config : Config) (start : World) (r : NodePublishVolumeRequest) (before : Volume) : Phase → World → Prop
  | .start, world => world = start
  | .on _ .loaded, world => world = start
  | .on volume .targeted, world => before = volume ∧ ¬Contains before.mountPaths r.targetPath ∧
      world.host = (start.host.createDirAll r.targetPath).2
  | .on _ .vacant, _ | .on _ .clear, _ | .on _ .housed, _ | .on _ .created, _ | .on _ .sized, _ | .on _ .made, _ =>
      Vacant config start.host r before
  | .on volume .backed, _ | .on volume (.attached _), _ | .on volume (.mounted _), _ | .on volume .saved, _ =>
      volume.assignedNodeId = if Vacant config start.host r before then some config.node else before.assignedNodeId
  | _, _ => True

theorem Probed.passes {α : Type} {next : α → Phase} {answer : Except Failure α}
    (passed : ∀ value, answer = .ok value → Probed config start r before (next value) world) :
    Probed config start r before (through next answer) world := by
  cases answer with
  | ok value => exact passed value rfl
  | error failure => trivial

theorem probed_step {call : Call} {resume : call.Answer → Phase} {fault : Fault}
    (held : start.store.lookup (volumeKey r.volumeId) = some before)
    (holds : Holds (.nodePublishVolume r) phase world) (probed : Probed config start r before phase world)
    (issued : Issues config (.nodePublishVolume r) phase call resume) :
    Probed config start r before (resume (execFor (.nodePublishVolume r) fault world call).1)
      (execFor (.nodePublishVolume r) fault world call).2 := by
  cases issued with
  | load =>
    have same : world = start := probed
    subst same
    refine Probed.passes fun result answered => ?_
    rw [exec_answered answered]
    cases result with
    | none => trivial
    | some volume => exact rfl
  | target admitted =>
    have same : world = start := probed
    subst same
    cases held.symm.trans holds
    refine Probed.passes fun _ answered => ?_
    rw [exec_answered answered]
    exact ⟨rfl, admitted.fresh, rfl⟩
  | probe =>
    obtain ⟨rfl, fresh, host⟩ := probed
    refine Probed.passes fun present answered => ?_
    have performed := exec_answered answered
    rw [performed] at answered
    have looked := fromHost_ok.mp answered
    rw [host] at looked
    cases present with
    | true =>
      have occupied : ¬Vacant config start.host r before := fun vacant => by
        cases vacant.2.symm.trans looked
      exact (if_neg occupied).symm
    | false => exact ⟨fresh, looked⟩
  | check =>
    refine Probed.passes fun present _ => ?_
    cases present with
    | true => trivial
    | false => exact probed
  | write writes =>
    refine Probed.passes fun _ _ => ?_
    cases writes with
    | pin =>
      have vacant : Vacant config start.host r before := probed
      exact (if_pos vacant).symm
    | record => exact probed
  | makeFile _ housed =>
    refine Probed.passes fun _ _ => ?_
    rcases housed with rfl | ⟨rfl, -⟩ <;> exact probed
  | mount _ _ ready =>
    refine Probed.passes fun _ _ => ?_
    rcases ready with ⟨rfl, -⟩ | ⟨rfl, -⟩ <;> exact probed
  | _ => exact Probed.passes fun _ _ => probed

theorem probed_carries (config : Config) (start : World) (r : NodePublishVolumeRequest) (before : Volume)
    (held : start.store.lookup (volumeKey r.volumeId) = some before) :
    Carries config (fun request world => request = .nodePublishVolume r ∧ world = start) (fun _ _ => True)
      (fun request phase _ world => request = .nodePublishVolume r ∧ Probed config start r before phase world)
      (fun _ _ => True) where
  enter admitted _ := admitted
  step {request phase past world call resume fault} _ holds probed issued _ := by
    obtain ⟨rfl, probed⟩ := probed
    exact ⟨rfl, probed_step held holds probed issued⟩
  leave _ _ := trivial

/-- The assignment a successful NodePublishVolume leaves. -/
theorem published_assigned {oracle : Oracle Call Fault} {reply : Reply} (ok : StoreOk WellFormed start.store)
    (held : start.store.lookup (volumeKey r.volumeId) = some before)
    (returned : (serve config (.nodePublishVolume r) oracle start).1 = .ok reply) :
    ∃ after ∈ (serve config (.nodePublishVolume r) oracle start).2.store.lookup (volumeKey r.volumeId),
      after.assignedNodeId = if Vacant config start.host r before then some config.node else before.assignedNodeId := by
  obtain ⟨-, ⟨last, ended, holds, -, probed⟩, -⟩ :=
    (probed_carries config start r before held).serve [] ok trivial ⟨rfl, rfl⟩ fun _ _ _ _ => trivial
  rw [returned] at ended
  cases ended with
  | mountedBefore granted present =>
    have same : (serve config (.nodePublishVolume r) oracle start).2 = start := probed
    rw [same] at holds ⊢
    cases held.symm.trans holds
    exact ⟨before, held, (if_neg fun vacant : Vacant config start.host r before => vacant.1 present).symm⟩
  | mounted => exact ⟨_, holds, probed⟩

/-! ### Runs of all instances -/

theorem pinned_of_assigned {node : String} (ok : StoreOk WellFormed cluster.store)
    (held : cluster.store.lookup (volumeKey name) = some volume) (assigned : volume.assignedNodeId = some node) :
    PinnedTo node name cluster where
  assigned := ⟨volume, held, assigned⟩
  refused config r oracle reply other named returned := by
    subst named
    have served : StoreOk WellFormed (cluster.world config).store := ok
    exact other (published_unlocked served held returned assigned)

theorem serveAll_pinned {node : String} {run : ClusterRun} (ok : StoreOk WellFormed cluster.store)
    (held : cluster.store.lookup (volumeKey name) = some volume) (assigned : volume.assignedNodeId = some node)
    (lasting : Lasting (fun _ => True) name cluster run) : PinnedTo node name (cluster.serveAll run) := by
  obtain ⟨last, present, -⟩ := lasting run.length le_rfl
  rw [List.take_length] at present
  apply pinned_of_assigned (clusterServeAll_ok wellFormed_invariant ok run) present
  refine serveAll_lasting (·.assignedNodeId = some node) ok
    (fun _ _ assigned changes => changes.assigned assigned) lasting (fun first found => ?_) last present
  cases found.symm.trans held
  exact assigned

/-- Ok from NodePublishVolume pins the volume for as long as it exists exactly when it found it pinned or
made it. -/
theorem pinned_iff (hosts : String → Host) {first : ClusterRun} {oracle : Oracle Call Fault} {reply : Reply}
    {after : Cluster}
    (served : ((Cluster.mk ∅ hosts).serveAll first).serve config (.nodePublishVolume r) oracle =
      (.ok reply, after)) :
    (∀ later, Lasting (fun _ => True) r.volumeId after later →
      PinnedTo config.node r.volumeId (after.serveAll later)) ↔
    Pins config (((Cluster.mk ∅ hosts).serveAll first).world config) r := by
  have ok : StoreOk WellFormed (((Cluster.mk ∅ hosts).serveAll first).world config).store :=
    clusterServeAll_ok wellFormed_invariant .empty first
  generalize (Cluster.mk ∅ hosts).serveAll first = cluster at served ok ⊢
  obtain ⟨returned, rfl⟩ := Prod.mk.inj served
  obtain ⟨before, held, -⟩ := nodePublish_ok ok returned
  obtain ⟨volume, present, assigned⟩ := published_assigned ok held returned
  constructor
  · intro pinned
    obtain ⟨last, found, same⟩ := (pinned [] (lasting_nil present trivial)).assigned
    cases present.symm.trans found
    rw [assigned] at same
    refine ⟨before, held, ?_⟩
    split at same
    · rename_i vacant
      exact Or.inr vacant
    · exact Or.inl same
  · rintro ⟨_, found, pins⟩ later lasting
    cases held.symm.trans found
    refine serveAll_pinned (serve_ok wellFormed_invariant ok oracle).1 present ?_ lasting
    rw [assigned]
    split
    · rfl
    · rename_i occupied
      exact pins.resolve_right occupied

namespace Sample

def other : Config := ⟨"/host/", "ot.her"⟩

def granted : ClusterRun :=
  [(Sample.config, create "a" "/pv2/" "ext4" 7, healthy), (Sample.config, publish "a" 7, healthy)]

/-- The mount is undone, and another node asks for the volume. -/
def moving : ClusterRun :=
  [(Sample.config, nodeUnpublish "a" "/t", healthy), (other, nodePublish "a" "/t" 7, healthy)]

end Sample

theorem pinned_iff_sample : PinnedTo "ho.me" "a"
    ((((Cluster.mk ∅ fun _ => {}).serveAll Sample.granted).serve Sample.config (Sample.nodePublish "a" "/t" 7)
      healthy).2.serveAll Sample.moving) := by
  have returned : (((Cluster.mk ∅ fun _ => {}).serveAll Sample.granted).serve Sample.config
      (Sample.nodePublish "a" "/t" 7) healthy).1 = .ok .done := by decide +kernel
  have pins : Pins Sample.config (((Cluster.mk ∅ fun _ => {}).serveAll Sample.granted).world Sample.config)
      ⟨"a", "/t", some (Sample.capability 7), false⟩ := by decide +kernel
  exact (pinned_iff (fun _ => {}) (Prod.ext returned rfl)).mpr pins _ (by decide +kernel)

/-- The pin is not saved; the retry finds the file, mounts it and leaves the volume to any node. -/
theorem made_volume_unpinned :
    let cluster := (Cluster.mk ∅ fun _ => {}).serveAll
      (Sample.granted ++ [(Sample.config, Sample.nodePublish "a" "/t" 7, failing 8)])
    let retried := cluster.serve Sample.config (Sample.nodePublish "a" "/t" 7) healthy
    let later := retried.2.serve Sample.config (Sample.nodeUnpublish "a" "/t") healthy
    retried.1 = .ok .done ∧ (later.2.serve Sample.other (Sample.nodePublish "a" "/t" 7) healthy).1 = .ok .done ∧
      ¬PinnedTo "ho.me" "a" later.2 := by
  intro cluster retried later
  have moved : (later.2.serve Sample.other (Sample.nodePublish "a" "/t" 7) healthy).1 = .ok .done := by
    decide +kernel
  refine ⟨by decide +kernel, moved, fun pinned => ?_⟩
  exact pinned.refused Sample.other _ healthy .done (by decide) rfl moved

end Lvp
