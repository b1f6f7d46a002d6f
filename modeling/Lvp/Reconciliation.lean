import Lvp.Stored

/-!
Sending CreateVolume again. The record of a volume keeps the fields that no handler rewrites for as
long as the volume exists, but the reconciliation of `create_volume` compares two that they do.
-/

namespace Lvp
open Unix Effect Csi

variable {config : Config} {request : Request} {origin : Volume}

/-- `volume` is a later version of `origin`, as far as no handler may change it. -/
def SameOrigin (origin volume : Volume) : Prop :=
  volume.name = origin.name ∧ volume.validConfigs = origin.validConfigs ∧
    volume.filesystem = origin.filesystem ∧ volume.hostPath = origin.hostPath

theorem Rewrite.sameOrigin {v w : Volume} (rewrite : Rewrite v w) (same : SameOrigin origin v) :
    SameOrigin origin w := by
  cases rewrite with
  | @unmount target =>
    obtain ⟨_, _, _, kept, -⟩ := unmountedFrom_kept v target
    rw [kept]
    exact same
  | _ => exact same

def FromOrigin (origin volume : Volume) : Prop := volume.name = origin.name → SameOrigin origin volume

theorem FromOrigin.rewritten {v w : Volume} (rewrite : Rewrite v w) (from_ : FromOrigin origin v) :
    FromOrigin origin w := fun named => rewrite.sameOrigin (from_ (rewrite.name ▸ named))

theorem reconciles_iff {existing : Volume} {r : CreateVolumeRequest} (built : newVolume r = .ok origin)
    (same : SameOrigin origin existing) :
    Reconciles existing origin ↔ existing.assignedNodeId = none ∧
      existing.size = requestedSize r.capacityRange := by
  obtain ⟨base, filesystem, configs, rfl, -⟩ := newVolume_ok built
  obtain ⟨-, valid, format, path⟩ := same
  simp [Reconciles, valid, format, path, freshVolume]

/-! ### While the record exists -/

theorem perform_keeps_key {world : World} {owner key : String} {call : Call} (present : key ∈ world.store)
    (kept : ∀ other, call ≠ .delete other) : key ∈ (world.perform owner call).2.store := by
  cases call with
  | create other volume =>
    simp only [World.perform]
    split
    · exact present
    · exact AList.mem_insert _ |>.mpr (Or.inr present)
  | patch other volume =>
    simp only [World.perform]
    split
    · exact AList.mem_insert _ |>.mpr (Or.inr present)
    · exact present
  | delete other => exact absurd rfl (kept other)
  | _ => exact present

/-- A call leaves the identity alone when it does not create the record again and writes a later version of it. -/
theorem perform_origin {I : Volume → Prop} {world : World} {call : Call} {owner : String}
    (ok : StoreOk (FromOrigin origin) world.store)
    (footprint : Footprint config (Named I request.volumeId) request call)
    (present : (∃ r, request = .createVolume r) → origin.key ∈ world.store)
    (writes : ∀ v w, I v → Rewrite v w → call = .patch w.key w → FromOrigin origin w) :
    StoreOk (FromOrigin origin) (world.perform owner call).2.store := by
  cases footprint with
  | create built =>
    simp only [World.perform]
    split
    · exact ok
    · rename_i absent
      refine ok.insert ⟨rfl, fun named => absurd (present ⟨_, rfl⟩) ?_⟩
      rw [Volume.key, named] at absent
      exact absent
  | write loaded rewrite => exact perform_ok ok ⟨rfl, writes _ _ loaded.2 rewrite rfl⟩
  | _ => exact perform_ok ok trivial

/-- What holds while a request is served alone: only DeleteVolume takes the record away. -/
def Surviving (origin : Volume) (request : Request) (world : World) : Prop :=
  StoreOk (FromOrigin origin) world.store ∧ (origin.key ∈ world.store ∨ ∃ r, request = .deleteVolume r)

theorem Surviving.perform {world : World} {call : Call} {owner : String}
    (surviving : Surviving origin request world)
    (footprint : Footprint config (Named (FromOrigin origin) request.volumeId) request call) :
    Surviving origin request (world.perform owner call).2 := by
  obtain ⟨ok, kept⟩ := surviving
  refine ⟨perform_origin ok footprint ?_ fun v w from_ rewrite _ => from_.rewritten rewrite, ?_⟩
  · rintro ⟨r, rfl⟩
    exact kept.resolve_right (by rintro ⟨_, ⟨⟩⟩)
  · by_cases deletes : ∃ key, call = .delete key
    · obtain ⟨key, rfl⟩ := deletes
      cases footprint
      exact Or.inr ⟨_, rfl⟩
    · exact kept.imp_left fun present => perform_keeps_key present fun key same => deletes ⟨key, same⟩

theorem Surviving.exec {world : World} {call : Call} {owner : String} {fault : Fault}
    (surviving : Surviving origin request world)
    (footprint : Footprint config (Named (FromOrigin origin) request.volumeId) request call) :
    Surviving origin request (world.exec owner fault call).2 := by
  cases fault with
  | none => exact surviving.perform footprint
  | fails => exact surviving
  | lost => exact surviving.perform footprint

theorem serve_origin {world : World} (ok : StoreOk (FromOrigin origin) world.store)
    (present : origin.key ∈ world.store) (oracle : Oracle Call Fault) :
    StoreOk (FromOrigin origin) (serve config request oracle world).2.store ∧
      ∀ visit ∈ served config request oracle world,
        Footprint config (Named (FromOrigin origin) request.volumeId) request visit.2 := by
  have safe := handle_safe (I := FromOrigin origin) FromOrigin.rewritten config request world
  have step : ∀ (n : Nat) (world : World) (call : Call), Surviving origin request world →
      Footprint config (Named (FromOrigin origin) request.volumeId) request call →
      Loads request.volumeId (Named (FromOrigin origin) request.volumeId) call
          (execFor request (oracle n call) world call).1 ∧
        Surviving origin request (execFor request (oracle n call) world call).2 :=
    fun _ world _ surviving footprint => ⟨exec_loads world surviving.1, surviving.exec footprint⟩
  obtain ⟨-, ended, visited⟩ := Safe.run (Surviving origin request) (fun _ _ => trivial) step
    ⟨ok, Or.inl present⟩ safe
  exact ⟨ended.1, fun visit member => (visited visit member).2⟩

theorem serveAll_origin {cluster : Cluster} (run : List (Config × Request × Oracle Call Fault))
    (ok : StoreOk (FromOrigin origin) cluster.store)
    (present : ∀ n ≤ run.length, origin.key ∈ (cluster.serveAll (run.take n)).store) :
    StoreOk (FromOrigin origin) (cluster.serveAll run).store := by
  induction run generalizing cluster with
  | nil => exact ok
  | cons step rest ih =>
    refine ih (serve_origin ok (present 0 (Nat.zero_le _)) step.2.2).1 fun n bound => ?_
    exact present (n + 1) (Nat.succ_le_succ bound)

/-! ### The first CreateVolume -/

def Leaves (r : CreateVolumeRequest) (response : CreateVolumeResponse) (after : World) : Prop :=
  ∃ volume, newVolume r = .ok volume ∧ response = createdVolume volume ∧
    ∃ stored, after.store.lookup volume.key = some stored ∧ Reconciles stored volume

theorem createVolume_leaves (r : CreateVolumeRequest) (world : World) :
    Safe (alone (execFor (.createVolume r))) (createVolume r) (Leaves r) (fun _ _ => True) world := by
  refine safe_bind.mpr (safe_ofExcept.mpr ⟨fun _ _ => trivial, fun volume built => ?_⟩)
  refine safe_bind.mpr (safe_mapErr.mpr (safe_bind.mpr (safe_issue ?_ fun _ _ => trivial)))
  intro existing after performed
  cases performed
  split
  · -- the record is there already
    refine safe_bind.mpr (safe_mapErr.mpr (safe_issue ?_ fun _ _ => trivial))
    intro found after performed
    cases performed
    refine safe_bind.mpr (safe_ofOption.mpr ⟨fun _ => trivial, fun stored held => ?_⟩)
    refine safe_bind.mpr (safe_reject.mpr ⟨fun _ => trivial, fun agree => ?_⟩)
    exact ⟨volume, built, rfl, stored, held, not_not.mp agree⟩
  · refine safe_bind.mpr (safe_issue ?_ fun _ _ => trivial)
    intro value after performed
    simp only [World.perform] at performed
    split at performed
    · cases performed
    · cases performed
      exact ⟨volume, built, rfl, volume, AList.lookup_insert _, ⟨rfl, rfl, rfl, rfl, rfl⟩⟩

theorem serve_create_leaves {r : CreateVolumeRequest} {oracle : Oracle Call Fault} {world : World}
    {first : CreateVolumeResponse}
    (created : (serve config (.createVolume r) oracle world).1 = .ok (.created first)) :
    Leaves r first (serve config (.createVolume r) oracle world).2 := by
  have safe : Safe (alone (execFor (.createVolume r))) (handle config (.createVolume r))
      (fun reply after => ∀ response, reply = .created response → Leaves r response after) (fun _ _ => True) world :=
    safe_bind.mpr ((createVolume_leaves r world).weaken
      (fun response _ leaves _ same => by cases same; exact leaves) fun _ _ _ => trivial)
  exact safe.returns created first rfl

/-! ### CreateVolume again -/

/-- The request is answered with the same volume and changes no record. -/
def Repeats (config : Config) (r : CreateVolumeRequest) (first : CreateVolumeResponse) (cluster : Cluster) : Prop :=
  let again := cluster.serve config (.createVolume r) healthy
  (∃ response, again.1 = .ok (.created response) ∧ response.volume.volumeId = first.volume.volumeId) ∧
    again.2.store = cluster.store

theorem serve_create_again {r : CreateVolumeRequest} {world : World} {volume existing : Volume}
    (built : newVolume r = .ok volume) (found : world.store.lookup volume.key = some existing) :
    serve config (.createVolume r) healthy world =
      (if Reconciles existing volume then .ok (.created (createdVolume volume))
        else .error (.alreadyExists "volume name already exists"), world) := by
  have load : (issue (.getOpt volume.key)).run (execFor (.createVolume r)) healthy world =
      (.ok (some existing), world) := by
    rw [run_issue]
    exact congrArg (fun found => (Except.ok found, world)) found
  have create : volume.create.run (execFor (.createVolume r)) healthy world = (.ok .alreadyExists, world) := by
    rw [Volume.create, Program.run_bind, load]
    rfl
  have reload : (Volume.load volume.name).run (execFor (.createVolume r)) healthy world =
      (.ok (some existing), world) := load
  rw [serve, handle, Program.run_bind, createVolume, built, Program.ofExcept, Program.ret_bind,
    Program.run_bind, Program.run_mapErr, create]
  dsimp only [Except.mapError]
  rw [Program.run_bind, Program.run_mapErr, reload]
  by_cases agree : Reconciles existing volume
  · rw [if_pos agree]
    simp [Except.mapError, Program.ofOption, Program.reject, agree, Program.run, pure]
  · rw [if_neg agree]
    simp [Except.mapError, Program.ofOption, Program.reject, agree, Program.run]

theorem storeOk_origin {store : Store} {volume stored : Volume} (ok : StoreOk (fun _ => True) store)
    (found : store.lookup volume.key = some stored) (agree : Reconciles stored volume) :
    StoreOk (FromOrigin volume) store := by
  intro key other lookup
  obtain ⟨same, -⟩ := ok key other lookup
  refine ⟨same, fun named => ?_⟩
  rw [same, Volume.key, named] at lookup
  cases found.symm.trans lookup
  obtain ⟨valid, format, path, -⟩ := agree
  exact ⟨named, valid, format, path⟩

theorem trivial_invariant : Invariant (fun _ => True) := ⟨fun _ => trivial, fun _ _ => trivial⟩

/-- After a CreateVolume that succeeded and any sequential run in which its record stays, sending the
request again succeeds exactly when the record is assigned to no node and has the requested size. -/
theorem repeats_iff (hosts : String → Host) (before later : List (Config × Request × Oracle Call Fault))
    (config again : Config) {r : CreateVolumeRequest} {oracle : Oracle Call Fault} {first : CreateVolumeResponse}
    (created : (((Cluster.mk ∅ hosts).serveAll before).serve config (.createVolume r) oracle).1 =
      .ok (.created first))
    (kept : ∀ n ≤ later.length, volumeKey r.name ∈ ((((Cluster.mk ∅ hosts).serveAll before).serve config
      (.createVolume r) oracle).2.serveAll (later.take n)).store) :
    let after := (((Cluster.mk ∅ hosts).serveAll before).serve config (.createVolume r) oracle).2.serveAll later
    ∃ stored, after.store.lookup (volumeKey r.name) = some stored ∧
      (Repeats again r first after ↔
        stored.assignedNodeId = none ∧ stored.size = requestedSize r.capacityRange) := by
  intro after
  have ok : StoreOk (fun _ => True) ((Cluster.mk ∅ hosts).serveAll before).store :=
    clusterServeAll_ok trivial_invariant .empty before
  obtain ⟨volume, built, rfl, left, found, agree⟩ := serve_create_leaves created
  have start := storeOk_origin (serve_ok trivial_invariant ok oracle).1 found agree
  have key : volume.key = volumeKey r.name := congrArg volumeKey (newVolume_name built)
  rw [← key] at kept ⊢
  have present := kept later.length le_rfl
  rw [List.take_length] at present
  obtain ⟨stored, held⟩ := Option.isSome_iff_exists.mp (AList.lookup_isSome.mpr present)
  obtain ⟨same, from_⟩ := serveAll_origin later start kept _ _ held
  refine ⟨stored, held, ?_⟩
  rw [← reconciles_iff built (from_ (volumeKey_injective same).symm)]
  have served : serve again (.createVolume r) healthy (after.world again) = _ :=
    serve_create_again built held
  by_cases agrees : Reconciles stored volume
  · rw [if_pos agrees] at served
    exact iff_of_true ⟨⟨_, congrArg Prod.fst served, rfl⟩, congrArg (·.2.store) served⟩ agrees
  · rw [if_neg agrees] at served
    refine iff_of_false (fun repeats => ?_) agrees
    obtain ⟨⟨response, accepted, -⟩, -⟩ := repeats
    have refused := congrArg Prod.fst served
    cases refused.symm.trans accepted

def Sample.fresh : Cluster :=
  ((Cluster.mk ∅ fun _ => {}).serve Sample.config (create "a" "/pv2/" "ext4" 1) healthy).2

def Sample.response : CreateVolumeResponse := ⟨⟨1073741824, "a", [[]]⟩⟩

def Sample.untouched : List (Config × Request × Oracle Call Fault) :=
  [(Sample.config, publish "a" 1, healthy), (Sample.config, unpublish "a", healthy)]

def Sample.mounted : List (Config × Request × Oracle Call Fault) :=
  [(Sample.config, publish "a" 1, healthy), (Sample.config, nodePublish "a" "/t" 1, healthy)]

theorem Sample.fresh_created :
    (((Cluster.mk ∅ fun _ => {}).serveAll []).serve Sample.config
      (.createVolume (createRequest "a" "/pv2/" "ext4" 1)) healthy).1 = .ok (.created response) := by
  decide +kernel

theorem repeats_untouched :
    Repeats Sample.config (Sample.createRequest "a" "/pv2/" "ext4" 1) Sample.response
      (Sample.fresh.serveAll Sample.untouched) := by
  have kept : ∀ n ≤ Sample.untouched.length,
      volumeKey "a" ∈ (Sample.fresh.serveAll (Sample.untouched.take n)).store := by decide +kernel
  have held : (Sample.fresh.serveAll Sample.untouched).store.lookup (volumeKey "a") =
      some (freshVolume (Sample.createRequest "a" "/pv2/" "ext4" 1) "/pv2/" .ext4 [⟨.singleNodeWriter⟩]) := by
    decide +kernel
  obtain ⟨stored, found, repeats⟩ :=
    repeats_iff (fun _ => {}) [] Sample.untouched Sample.config Sample.config Sample.fresh_created kept
  obtain rfl := Option.some.inj (held.symm.trans found)
  exact repeats.mpr ⟨rfl, rfl⟩

/-- The first mount pins the record, and CreateVolume no longer recognises its own volume. -/
theorem mounted_not_repeats :
    (∀ n ≤ Sample.mounted.length, volumeKey "a" ∈ (Sample.fresh.serveAll (Sample.mounted.take n)).store) ∧
      ((Sample.fresh.serveAll Sample.mounted).serve Sample.config
        (Sample.create "a" "/pv2/" "ext4" 1) healthy).1 = .error (.alreadyExists "volume name already exists") ∧
      ¬Repeats Sample.config (Sample.createRequest "a" "/pv2/" "ext4" 1) Sample.response
        (Sample.fresh.serveAll Sample.mounted) := by
  have refused : ((Sample.fresh.serveAll Sample.mounted).serve Sample.config
      (Sample.create "a" "/pv2/" "ext4" 1) healthy).1 = .error (.alreadyExists "volume name already exists") := by
    decide +kernel
  refine ⟨by decide +kernel, refused, fun repeats => ?_⟩
  obtain ⟨⟨response, accepted, -⟩, -⟩ := repeats
  cases refused.symm.trans accepted

end Lvp
