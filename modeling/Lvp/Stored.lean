import Lvp.Footprint

/-!
What every stored record satisfies, whatever is in flight and whatever fails. A handler only writes
what `Rewrite` allows on a record it loaded, so a property that new records have and no write takes
away is a contract between the handlers and the store; several instances may share the store.
-/

namespace Lvp
open Unix Effect Csi

variable {I : Volume → Prop} {config : Config} {request : Request}

structure Invariant (I : Volume → Prop) : Prop where
  created : ∀ {request volume}, newVolume request = .ok volume → I volume
  rewritten : ∀ {v w}, Rewrite v w → I v → I w

/-- What a request for `name` may rely on when it loads a record. -/
def Named (I : Volume → Prop) (name : String) (volume : Volume) : Prop := volume.name = name ∧ I volume

/-- Every record sits under the key of its own name and has `I`. -/
def StoreOk (I : Volume → Prop) (store : Store) : Prop :=
  ∀ key volume, store.lookup key = some volume → key = volume.key ∧ I volume

namespace StoreOk

theorem empty : StoreOk I ∅ := by
  intro key volume found
  rw [AList.lookup_empty] at found
  cases found

theorem insert {store : Store} {key : String} {volume : Volume} (ok : StoreOk I store)
    (fits : key = volume.key ∧ I volume) : StoreOk I (store.insert key volume) := by
  intro other found lookup
  by_cases same : other = key
  · subst same
    rw [AList.lookup_insert] at lookup
    cases lookup
    exact fits
  · rw [AList.lookup_insert_ne same] at lookup
    exact ok other found lookup

theorem erase {store : Store} {key : String} (ok : StoreOk I store) : StoreOk I (store.erase key) := by
  intro other found lookup
  by_cases same : other = key
  · subst same
    rw [AList.lookup_erase] at lookup
    cases lookup
  · rw [AList.lookup_erase_ne same] at lookup
    exact ok other found lookup

theorem named {store : Store} (ok : StoreOk I store) {name : String} {volume : Volume}
    (found : store.lookup (volumeKey name) = some volume) : Named I name volume := by
  obtain ⟨key, holds⟩ := ok _ _ found
  exact ⟨(volumeKey_injective key).symm, holds⟩

end StoreOk

/-! ### One call -/

def recordFits (I : Volume → Prop) : Call → Prop
  | .create key volume => key = volume.key ∧ I volume
  | .patch key volume => key = volume.key ∧ I volume
  | _ => True

theorem Footprint.fits (invariant : Invariant I) {call : Call}
    (footprint : Footprint config (Named I request.volumeId) request call) : recordFits I call := by
  cases footprint with
  | create built => exact ⟨rfl, invariant.created built⟩
  | write loaded rewrite => exact ⟨rfl, invariant.rewritten rewrite loaded.2⟩
  | _ => trivial

theorem perform_ok {world : World} {owner : String} {call : Call} (ok : StoreOk I world.store)
    (fits : recordFits I call) : StoreOk I (world.perform owner call).2.store := by
  cases call with
  | create key volume =>
    simp only [World.perform]
    split
    · exact ok
    · exact ok.insert fits
  | patch key volume =>
    simp only [World.perform]
    split
    · exact ok.insert fits
    · exact ok
  | delete key =>
    simp only [World.perform]
    split
    · exact ok.erase
    · exact ok
  | _ => exact ok

theorem exec_ok {owner : String} {fault : Fault} {call : Call} (world : World)
    (ok : StoreOk I world.store) (fits : recordFits I call) : StoreOk I (world.exec owner fault call).2.store := by
  cases fault with
  | none => exact perform_ok ok fits
  | fails => exact ok
  | lost => exact perform_ok ok fits

theorem exec_loads {owner name : String} {fault : Fault} {call : Call} (world : World)
    (ok : StoreOk I world.store) : Loads name (Named I name) call (world.exec owner fault call).1 := by
  cases call with
  | getOpt key =>
    rintro rfl volume answer
    cases fault with
    | none => exact ok.named (Except.ok.inj answer)
    | fails => cases answer
    | lost => cases answer
  | _ => trivial

/-! ### One request -/

/-- The footprint as a logic: others may do anything at all. -/
def footprintLogic (World : Type) (config : Config) (I : Volume → Prop) (request : Request) :
    Logic Call Call.Answer World where
  step _ call answer _ := Loads request.volumeId (Named I request.volumeId) call answer
  rely _ _ := True
  guard _ call := Footprint config (Named I request.volumeId) request call

theorem handle_safe {World : Type} (rewritten : ∀ {v w}, Rewrite v w → I v → I w) (config : Config)
    (request : Request) (world : World) :
    Safe (footprintLogic World config I request) (handle config request) (fun _ _ => True)
      (fun _ _ => True) world := by
  have pinned : ∀ v node, Mountable v → Named I request.volumeId v →
      Named I request.volumeId { v with assignedNodeId := some node } :=
    fun _ node admitted named => ⟨named.1, rewritten (.pin node admitted) named.2⟩
  have keeps : Safe (contract _ _) (handle config request) (fun _ _ => True) (fun _ _ => True)
      ((fun _ => ()) world) := handle_keeps pinned request
  exact Safe.refine (footprintLogic World config I request) (fun _ => ()) (fun _ _ _ => trivial)
    (fun _ _ _ _ fits => fits) (fun _ _ _ _ _ _ _ promised => promised) keeps

theorem serve_ok (invariant : Invariant I) {world : World} (start : StoreOk I world.store)
    (oracle : Oracle Call Fault) :
    StoreOk I (serve config request oracle world).2.store ∧
      ∀ visit ∈ served config request oracle world, StoreOk I visit.1.store ∧
        Footprint config (Named I request.volumeId) request visit.2 := by
  refine (Safe.run (fun world => StoreOk I world.store) (fun _ _ => trivial) ?_ start
    (handle_safe invariant.rewritten config request world)).2
  exact fun _ world _ ok footprint => ⟨exec_loads world ok, exec_ok world ok (footprint.fits invariant)⟩

theorem serveAll_ok (invariant : Invariant I) {world : World} (start : StoreOk I world.store) (run : Run) :
    StoreOk I (serveAll config world run).store := by
  induction run generalizing world with
  | nil => exact start
  | cons step rest ih => exact ih (serve_ok invariant start step.2).1

theorem clusterServeAll_ok (invariant : Invariant I) {cluster : Cluster} (start : StoreOk I cluster.store)
    (run : List (Config × Request × Oracle Call Fault)) : StoreOk I (cluster.serveAll run).store := by
  induction run generalizing cluster with
  | nil => exact start
  | cons step rest ih => exact ih (serve_ok invariant start step.2.2).1

/-! ### Everything at once -/

theorem footprint_compatible (invariant : Invariant I) :
    Compatible Cluster.exec (fun served : Config × Request => handle served.1 served.2) .free
      (fun served => footprintLogic Cluster served.1 I served.2) (fun cluster => StoreOk I cluster.store)
      (fun _ _ => True) (fun _ _ => True) where
  symm := fun _ => trivial
  refl := fun _ => trivial
  trans := fun _ _ => trivial
  step := fun ok footprint _ =>
    ⟨exec_loads (Cluster.world _ _) ok, exec_ok (Cluster.world _ _) ok (footprint.fits invariant),
      fun _ _ => trivial⟩
  stable := fun _ _ => trivial
  stableDone := fun _ _ => trivial
  handover := fun _ _ => trivial
  body := fun _ _ _ => handle_safe invariant.rewritten _ _ _

/-- Whatever is in flight keeps to its footprint. -/
theorem deploy_settled (invariant : Invariant I) {cluster : Cluster} (start : StoreOk I cluster.store)
    (schedule : List (Move (Config × Request) Call Fault)) :
    Settled (.free : Rules (Config × Request) Call Fault)
      (fun served => footprintLogic Cluster served.1 I served.2) (fun cluster => StoreOk I cluster.store)
      (fun _ _ => True) (fun _ _ => True) (cluster.deploy schedule) := by
  refine Settled.play (footprint_compatible invariant) ?_ (Pool.schedule_free _ schedule)
  exact Settled.initial start fun _ => trivial

theorem deploy_ok (invariant : Invariant I) {cluster : Cluster} (start : StoreOk I cluster.store)
    (schedule : List (Move (Config × Request) Call Fault)) :
    StoreOk I (cluster.deploy schedule).world.store := (deploy_settled invariant start schedule).sound

/-- The plugin as one of several instances, after any requests of theirs. -/
def reached (hosts : String → Host) (schedule : List (Move (Config × Request) Call Fault)) (config : Config) :
    World :=
  ((Cluster.mk ∅ hosts).deploy schedule).world.world config

theorem reached_ok (invariant : Invariant I) {hosts : String → Host}
    {schedule : List (Move (Config × Request) Call Fault)} : StoreOk I (reached hosts schedule config).store :=
  deploy_ok invariant .empty schedule

/-! ### Well-formed records -/

theorem wellFormed_invariant : Invariant WellFormed where
  created built := by
    obtain ⟨base, filesystem, configs, rfl, _⟩ := newVolume_ok built
    exact fresh_wellFormed _ _ _ _
  rewritten := Rewrite.wellFormed

/-- Whatever the instances do at once and whatever fails, every record they leave behind is well
formed and sits under the key of its own name. -/
theorem stored_wellFormed (hosts : String → Host) (schedule : List (Move (Config × Request) Call Fault))
    {key : String} {volume : Volume}
    (found : ((Cluster.mk ∅ hosts).deploy schedule).world.store.lookup key = some volume) :
    key = volume.key ∧ WellFormed volume :=
  deploy_ok wellFormed_invariant .empty schedule key volume found

/-- Create, publish and mount, the first two overlapping. -/
def Sample.lifecycle : List (Move (Config × Request) Call Fault) :=
  [.start (Sample.config, create "a" "/pv2/" "ext4" 1)] ++ steps 0 2 ++
    [.start (Sample.config, publish "a" 1)] ++ steps 1 1 ++
    [.start (Sample.config, nodePublish "a" "/t" 1)] ++ steps 2 1 ++ steps 1 1 ++
    [.start (Sample.config, nodePublish "a" "/t" 1)] ++ steps 3 12

theorem stored_wellFormed_lifecycle :
    ∃ volume, ((Cluster.mk ∅ fun _ => {}).deploy Sample.lifecycle).world.store.lookup "lvp-vol-a" = some volume ∧
      volume.state = .nodePublished ∧ WellFormed volume := by
  have found : ((Cluster.mk ∅ fun _ => {}).deploy Sample.lifecycle).world.store.lookup "lvp-vol-a" = some
      { name := "a", size := 1073741824, assignedNodeId := some "ho.me", state := .nodePublished,
        publishedReadonly := false, publishedConfig := some ⟨.singleNodeWriter⟩, filesystem := .ext4,
        validConfigs := [⟨.singleNodeWriter⟩], loopDevice := some "/dev/loop0\n", mountPaths := ["/t"],
        hostPath := "pv2/a" } := by decide +kernel
  exact ⟨_, found, rfl, (stored_wellFormed _ _ found).2⟩

end Lvp
