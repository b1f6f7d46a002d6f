import Lvp.Effect.Serial
import Lvp.Rpc
import Lvp.Stored

/-!
Requests in flight together. Each acts on the record of its volume and, unless it is about the record alone, on the
host of its node. As long as no two of them have one of these in common, they might as well be served in turn.
-/

namespace Lvp
open Unix Effect Csi

variable {config : Config} {request : Request} {world other : World} {cluster : Cluster}
    {key name : String} {call : Call}

/-! ### Places -/

inductive Place where
  | record (key : String)
  | host (node : String)

abbrev Place.Value : Place → Type
  | .record _ => Option Volume
  | .host _ => Host

def Cluster.look (cluster : Cluster) : (place : Place) → place.Value
  | .record key => cluster.store.lookup key
  | .host node => cluster.hosts node

/-- Whether a request has anything to do on the host. -/
def Request.onHost : Request → Bool
  | .createVolume _ | .controllerPublishVolume _ | .controllerUnpublishVolume _ => false
  | _ => true

def Uses (served : Config × Request) : Place → Prop
  | .record key => key = volumeKey served.2.volumeId
  | .host node => node = served.1.node ∧ served.2.onHost

/-! ### One call -/

/-- Of all records, the call is about this one at most. -/
def Call.Concerns (key : String) : Call → Prop
  | .getOpt other | .create other _ | .patch other _ | .delete other => other = key
  | .list => False
  | _ => True

theorem Footprint.concerns (fits : Footprint config (Named (fun _ => True) request.volumeId) request call) :
    call.Concerns (volumeKey request.volumeId) ∧ (call.onStore = false → request.onHost) := by
  cases fits with
  | load => exact ⟨rfl, nofun⟩
  | create built => exact ⟨congrArg volumeKey (newVolume_name built), nofun⟩
  | write loaded rewrite => exact ⟨congrArg volumeKey (rewrite.name.trans loaded.1), nofun⟩
  | delete loaded => exact ⟨congrArg volumeKey loaded.1, nofun⟩
  | _ => exact ⟨trivial, fun _ => rfl⟩

theorem perform_unconcerned (concerns : call.Concerns key) {owner place : String} (different : place ≠ key) :
    (world.perform owner call).2.store.lookup place = world.store.lookup place := by
  by_cases onHost : call.onStore
  · cases call with
    | getOpt other => rfl
    | list => rfl
    | create other volume =>
      obtain rfl : other = key := concerns
      simp only [World.perform]
      split
      · rfl
      · exact AList.lookup_insert_ne different
    | patch other volume =>
      obtain rfl : other = key := concerns
      simp only [World.perform]
      split
      · exact AList.lookup_insert_ne different
      · rfl
    | delete other =>
      obtain rfl : other = key := concerns
      simp only [World.perform]
      split
      · exact AList.lookup_erase_ne different
      · rfl
    | _ => cases onHost
  · rw [perform_store (by simpa using onHost)]

/-- A call on the store leaves the host alone. -/
theorem perform_onStore {owner : String} (onStore : call.onStore) :
    (world.perform owner call).2.host = world.host := by
  cases call with
  | create key volume | patch key volume | delete key =>
    simp only [World.perform]
    split <;> rfl
  | getOpt key | list => rfl
  | _ => cases onStore

/-- A call does the same where its record is the same and, if it is made on the host, the host. -/
theorem perform_alike {onHost : Prop} (concerns : call.Concerns key) (owner : String)
    (record : world.store.lookup key = other.store.lookup key) (houses : call.onStore = false → onHost)
    (host : onHost → world.host = other.host) :
    (world.perform owner call).1 = (other.perform owner call).1 ∧
      (world.perform owner call).2.store.lookup key = (other.perform owner call).2.store.lookup key ∧
      (onHost → (world.perform owner call).2.host = (other.perform owner call).2.host) := by
  by_cases onStore : call.onStore
  · have present : key ∈ world.store ↔ key ∈ other.store := by
      rw [← AList.lookup_isSome, ← AList.lookup_isSome, record]
    rw [perform_onStore onStore, perform_onStore onStore, ← and_assoc]
    refine ⟨?_, host⟩
    cases call with
    | getOpt other =>
      obtain rfl : other = key := concerns
      exact ⟨congrArg Except.ok record, record⟩
    | list => cases concerns
    | create other volume =>
      obtain rfl : other = key := concerns
      by_cases taken : other ∈ world.store
      · simp [World.perform, taken, present.mp taken, record]
      · have free := mt present.mpr taken
        simp [World.perform, taken, free]
    | patch other volume =>
      obtain rfl : other = key := concerns
      by_cases taken : other ∈ world.store
      · simp [World.perform, taken, present.mp taken]
      · have free := mt present.mpr taken
        simp [World.perform, taken, free, record]
    | delete other =>
      obtain rfl : other = key := concerns
      by_cases taken : other ∈ world.store
      · simp [World.perform, taken, present.mp taken]
      · have free := mt present.mpr taken
        simp [World.perform, taken, free, record]
    | _ => cases onStore
  · have away : call.onStore = false := by simpa using onStore
    obtain ⟨store, here⟩ := world
    obtain ⟨store', there⟩ := other
    obtain rfl : here = there := host (houses away)
    obtain ⟨answer, hosts⟩ := perform_host owner store store' here away
    rw [perform_store away, perform_store away]
    exact ⟨answer, record, fun _ => hosts⟩

theorem exec_alike {onHost : Prop} (concerns : call.Concerns key) (owner : String) (fault : Fault)
    (record : world.store.lookup key = other.store.lookup key) (houses : call.onStore = false → onHost)
    (host : onHost → world.host = other.host) :
    (world.exec owner fault call).1 = (other.exec owner fault call).1 ∧
      (world.exec owner fault call).2.store.lookup key = (other.exec owner fault call).2.store.lookup key ∧
      (onHost → (world.exec owner fault call).2.host = (other.exec owner fault call).2.host) := by
  have performed := perform_alike concerns owner record houses host
  cases fault with
  | none => exact performed
  | fails => exact ⟨rfl, record, host⟩
  | lost => exact ⟨rfl, performed.2⟩

theorem exec_unconcerned (concerns : call.Concerns key) {owner place : String} (fault : Fault)
    (different : place ≠ key) :
    (world.exec owner fault call).2.store.lookup place = world.store.lookup place := by
  cases fault with
  | fails => rfl
  | none | lost => exact perform_unconcerned concerns different

theorem exec_onStore {owner : String} (fault : Fault) (onStore : call.onStore) :
    (world.exec owner fault call).2.host = world.host := by
  cases fault with
  | fails => rfl
  | none | lost => exact perform_onStore onStore

/-! ### Instances -/

abbrev body (served : Config × Request) : Action Status Reply := handle served.1 served.2

theorem cluster_local : Local Cluster.exec body Cluster.look Uses
    (fun served => Footprint served.1 (Named (fun _ => True) served.2.volumeId) served.2)
    (fun served => Loads served.2.volumeId (Named (fun _ => True) served.2.volumeId))
    (fun cluster => StoreOk (fun _ => True) cluster.store) where
  frame := by
    intro served call fault cluster place fits unused
    obtain ⟨config, request⟩ := served
    obtain ⟨concerns, houses⟩ := fits.concerns
    cases place with
    | record key => exact exec_unconcerned concerns fault unused
    | host node =>
      show Function.update cluster.hosts config.node _ node = cluster.hosts node
      by_cases here : node = config.node
      · subst here
        rw [Function.update_self]
        refine exec_onStore fault ?_
        by_contra onHost
        exact unused ⟨rfl, houses (by simpa using onHost)⟩
      · rw [Function.update_of_ne here]
  alike := by
    intro served call fault cluster cluster' fits same
    obtain ⟨config, request⟩ := served
    obtain ⟨concerns, houses⟩ := fits.concerns
    have record : cluster.store.lookup (volumeKey request.volumeId) =
        cluster'.store.lookup (volumeKey request.volumeId) :=
      same (.record _) rfl
    have host (onHost : request.onHost) : cluster.hosts config.node = cluster'.hosts config.node :=
      same (.host _) ⟨rfl, onHost⟩
    obtain ⟨answer, records, hosts⟩ : ((cluster.world config).exec request.volumeId fault call).1 =
        ((cluster'.world config).exec request.volumeId fault call).1 ∧ _ ∧ _ :=
      exec_alike concerns request.volumeId fault record houses host
    refine ⟨answer, fun place used => ?_⟩
    cases place with
    | record key =>
      obtain rfl : key = volumeKey request.volumeId := used
      exact records
    | host node =>
      obtain ⟨rfl, onHost⟩ : node = config.node ∧ request.onHost := used
      show Function.update cluster.hosts config.node _ _ = Function.update cluster'.hosts config.node _ _
      rw [Function.update_self, Function.update_self]
      exact hosts onHost
  promised := by
    intro served call fault cluster ok _
    exact exec_loads (cluster.world served.1) ok
  kept := by
    intro served call fault cluster ok fits
    exact exec_ok (cluster.world served.1) ok (fits.fits ⟨fun _ => trivial, fun _ _ => trivial⟩)
  body := by
    intro served
    exact handle_keeps (fun _ _ _ named => ⟨named.1, trivial⟩) served.2

/-! ### In turn -/

/-- The answers to requests served one after another. -/
def Cluster.answers (cluster : Cluster) : List (Config × Request × Oracle Call Fault) → List (Except Status Reply)
  | [] => []
  | (config, request, oracle) :: rest =>
    let served := cluster.serve config request oracle
    served.1 :: served.2.answers rest

theorem cluster_run (cluster : Cluster) (program : Action Status Reply) (oracle : Oracle Call Fault) :
    program.run (Cluster.exec (config, request)) oracle cluster =
      ((program.run (execFor request) oracle (cluster.world config)).1,
        cluster.update config (program.run (execFor request) oracle (cluster.world config)).2) := by
  induction program generalizing cluster oracle with
  | ret value | raise error => simp [Program.run, Cluster.update_world]
  | call call next ih =>
    have there (fault : Fault) : (Cluster.exec (config, request) fault cluster call).2.world config =
        (execFor request fault (cluster.world config) call).2 := by
      simp [Cluster.exec, Cluster.update, Cluster.world]
    have again (fault : Fault) (world : World) :
        (Cluster.exec (config, request) fault cluster call).2.update config world =
        cluster.update config world := by
      simp [Cluster.exec, Cluster.update]
    rw [Program.run]
    refine (ih _ _ _).trans ?_
    rw [there, again]
    rfl

/-- The run that makes the calls of these turns. -/
def ran (plan : List ((Config × Request) × List (Call → Fault))) : List (Config × Request × Oracle Call Fault) :=
  plan.map fun served => (served.1.1, served.1.2, .following .none served.2)

theorem inTurn_ran {plan : List ((Config × Request) × List (Call → Fault))}
    (ended : ∀ thread ∈ (inTurn Cluster.exec body plan cluster).1, ¬thread.inFlight) :
    (inTurn Cluster.exec body plan cluster).1.map (·.program.result?) = (cluster.answers (ran plan)).map some ∧
      (inTurn Cluster.exec body plan cluster).2 = cluster.serveAll (ran plan) := by
  induction plan generalizing cluster with
  | nil => exact ⟨rfl, rfl⟩
  | cons served rest ih =>
    obtain ⟨⟨config, request⟩, faults⟩ := served
    obtain ⟨answers, last⟩ := ih fun thread member => ended thread (List.mem_cons_of_mem _ member)
    have done : ((handle config request).drive (Cluster.exec (config, request)) faults cluster).1.pending =
        none := by
      have flying := ended _ List.mem_cons_self
      simpa [Thread.inFlight] using flying
    obtain ⟨result, finished⟩ := Program.result_of_pending done
    have served : cluster.serve config request (.following .none faults) =
        (result, ((handle config request).drive (Cluster.exec (config, request)) faults cluster).2) :=
      (cluster_run cluster (handle config request) _).symm.trans (Program.drive_run .none faults finished)
    refine ⟨?_, ?_⟩
    · have answered : cluster.answers (ran (((config, request), faults) :: rest)) =
          (cluster.serve config request (.following .none faults)).1 ::
            (cluster.serve config request (.following .none faults)).2.answers (ran rest) := rfl
      rw [answered, served, inTurn]
      exact congrArg₂ List.cons finished answers
    · rw [inTurn, ran, List.map_cons, Cluster.serveAll, List.foldl_cons, served]
      exact last

/-- As long as no request is taken while one for the same volume is in flight, or one that uses the host of the same
node where it uses it too, the instances do at every moment what they would have done serving the requests in the order
they were taken, each as far as it has got; once all are answered, the answers, the records and the hosts are those of
a sequential run. -/
theorem serializable {cluster : Cluster} (ok : StoreOk (fun _ => True) cluster.store)
    {schedule : List (Move (Config × Request) Call Fault)}
    (orderly : Pool.Schedule Cluster.exec body (.byPlace Uses) ⟨cluster, []⟩ schedule) :
    let deployment := cluster.deploy schedule
    (∃ plan, (inTurn Cluster.exec body plan cluster).1 = deployment.threads ∧
      ∀ place, (inTurn Cluster.exec body plan cluster).2.look place = deployment.world.look place) ∧
    ((∀ thread ∈ deployment.threads, ¬thread.inFlight) → ∃ run : List (Config × Request × Oracle Call Fault),
      run.map (fun step => (step.1, step.2.1)) = deployment.threads.map (·.request) ∧
        deployment.threads.map (·.program.result?) = (cluster.answers run).map some ∧
        ∀ place, (cluster.serveAll run).look place = deployment.world.look place) := by
  have serial : Serial Cluster.exec body Cluster.look Uses cluster (cluster.deploy schedule) :=
    (Serial.initial cluster).play cluster_local ok orderly
  obtain ⟨plan, threads, looks⟩ := serial.turns
  refine ⟨⟨plan, threads, looks⟩, fun ended => ⟨ran plan, ?_, ?_⟩⟩
  · rw [← threads, inTurn_requests, ran, List.map_map]
    rfl
  · rw [← threads] at ended ⊢
    obtain ⟨answers, last⟩ := inTurn_ran ended
    exact ⟨answers, fun place => last ▸ looks place⟩

/-! ### Which requests are apart -/

theorem apart_iff {a b : Config × Request} : Apart Uses a b ↔
    a.2.volumeId ≠ b.2.volumeId ∧ ¬(a.1.node = b.1.node ∧ a.2.onHost ∧ b.2.onHost) := by
  constructor
  · intro apart
    refine ⟨fun same => apart (.record _) rfl (congrArg volumeKey same), fun shared => ?_⟩
    obtain ⟨node, first, second⟩ := shared
    exact apart (.host a.1.node) ⟨rfl, first⟩ ⟨node, second⟩
  · intro conditions place first second
    obtain ⟨volumes, hosts⟩ := conditions
    cases place with
    | record key => exact volumes (volumeKey_injective (first.symm.trans second))
    | host node => exact hosts ⟨first.1.symm.trans second.1, first.2, second.2⟩

instance (a b : Config × Request) : Decidable (Apart Uses a b) := decidable_of_iff _ apart_iff.symm

instance permits_decidable (deployment : Deployment) :
    (next : Move (Config × Request) Call Fault) → Decidable (Pool.Permits (.byPlace Uses) deployment next)
  | .start request => inferInstanceAs
      (Decidable (True ∧ ∀ thread ∈ deployment.threads, thread.inFlight → Apart Uses request thread.request))
  | .step _ _ => .isTrue fun _ _ _ => trivial

instance schedule_decidable : (deployment : Deployment) → (schedule : List (Move (Config × Request) Call Fault)) →
    Decidable (Pool.Schedule Cluster.exec body (.byPlace Uses) deployment schedule)
  | _, [] => .isTrue trivial
  | deployment, first :: rest =>
    have := schedule_decidable (deployment.move Cluster.exec body first) rest
    inferInstanceAs (Decidable (_ ∧ _))

/-- Two volumes are created at the same time, and each is mounted on a node of its own at the same time. -/
def Sample.sideBySide : List (Move (Config × Request) Call Fault) :=
  let neighbour : Config := { Sample.config with node := "ot.her" }
  [.start (Sample.config, create "a" "/pv2/" "ext4" 1), .start (neighbour, create "b" "/pv2/" "xfs" 1)] ++
    steps 0 1 ++ steps 1 2 ++ steps 0 1 ++
    [.start (neighbour, publish "a" 1), .start (Sample.config, publish "b" 1)] ++ steps 3 1 ++ steps 2 2 ++ steps 3 1 ++
    [.start (Sample.config, nodePublish "a" "/t" 1), .start (neighbour, nodePublish "b" "/t" 1)] ++
    steps 4 2 ++ steps 5 7 ++ steps 4 10 ++ steps 5 5

theorem serializable_sideBySide : ∃ run : List (Config × Request × Oracle Call Fault),
    run.map (·.2.1) = [Sample.create "a" "/pv2/" "ext4" 1, Sample.create "b" "/pv2/" "xfs" 1, Sample.publish "a" 1,
        Sample.publish "b" 1, Sample.nodePublish "a" "/t" 1, Sample.nodePublish "b" "/t" 1] ∧
      ∀ place, ((Cluster.mk ∅ fun _ => {}).serveAll run).look place =
        ((Cluster.mk ∅ fun _ => {}).deploy Sample.sideBySide).world.look place := by
  have orderly : Pool.Schedule Cluster.exec body (.byPlace Uses) ⟨Cluster.mk ∅ fun _ => {}, []⟩ Sample.sideBySide := by
    decide +kernel
  have ended : ((Cluster.mk ∅ fun _ => {}).deploy Sample.sideBySide).threads.all (!·.inFlight) = true := by
    decide +kernel
  have answered : ∀ thread ∈ ((Cluster.mk ∅ fun _ => {}).deploy Sample.sideBySide).threads, ¬thread.inFlight := by
    intro thread member
    simpa using List.all_eq_true.mp ended thread member
  obtain ⟨run, requests, -, looks⟩ := (serializable .empty orderly).2 answered
  refine ⟨run, ?_, looks⟩
  have taken : ((Cluster.mk ∅ fun _ => {}).deploy Sample.sideBySide).threads.map (·.request.2) =
      [Sample.create "a" "/pv2/" "ext4" 1, Sample.create "b" "/pv2/" "xfs" 1, Sample.publish "a" 1,
        Sample.publish "b" 1, Sample.nodePublish "a" "/t" 1, Sample.nodePublish "b" "/t" 1] := rfl
  have second := congrArg (List.map Prod.snd) requests
  rw [List.map_map, List.map_map] at second
  exact second.trans taken

end Lvp
