import Lvp.Reconciliation

/-!
CreateVolume requests that overlap. The check for a record, its creation and the reconciliation are separate
calls, so others may act between any two of them. A request that returns Ok heard from the store that its
record was created, or that a record with its contents was there.
-/

namespace Lvp
open Unix Effect Csi

variable {key : String} {config : Config} {cluster : Cluster} {deployment : Deployment}
  {move : Move (Config × Request) Call Fault}

/-! ### One record at a time -/

/-- The move makes the call of the thread at `index`, and the call takes effect. -/
def Takes (deployment : Deployment) (move : Move (Config × Request) Call Fault) (index : Nat)
    (call : Call) : Prop :=
  ∃ fault thread, move = .step index fault ∧ deployment.threads[index]? = some thread ∧
    thread.program.pending = some call ∧ fault call ≠ .fails

def Creates (key : String) (deployment : Deployment) (move : Move (Config × Request) Call Fault) : Prop :=
  key ∉ deployment.world.store ∧ ∃ index volume, Takes deployment move index (.create key volume)

def Deletes (key : String) (deployment : Deployment) (move : Move (Config × Request) Call Fault) : Prop :=
  key ∈ deployment.world.store ∧ ∃ index, Takes deployment move index (.delete key)

/-- The deployment after further moves. -/
abbrev Deployment.play (deployment : Deployment) (moves : List (Move (Config × Request) Call Fault)) : Deployment :=
  Pool.play Cluster.exec (fun served => handle served.1 served.2) deployment moves

theorem deploy_append (cluster : Cluster) (first second : List (Move (Config × Request) Call Fault)) :
    cluster.deploy (first ++ second) = (cluster.deploy first).play second := List.foldl_append

theorem perform_present {world : World} {owner : String} {call : Call} (present : key ∈ world.store)
    (kept : call ≠ .delete key) : key ∈ (world.perform owner call).2.store := by
  cases call with
  | delete other =>
    have different : key ≠ other := fun same => kept (same ▸ rfl)
    simp only [World.perform]
    split
    · exact AList.mem_erase.mpr ⟨different, present⟩
    · exact present
  | _ => exact perform_keeps_key present (by rintro _ ⟨⟩)

theorem play_step {index : Nat} {fault : Call → Fault} {call : Call}
    {thread : Thread (Config × Request) Call Call.Answer Status Reply}
    (found : deployment.threads[index]? = some thread) (pending : thread.program.pending = some call) :
    (deployment.play [.step index fault]).world =
      (Cluster.exec thread.request (fault call) deployment.world call).2 :=
  Pool.step_world Cluster.exec (fun served => handle served.1 served.2) found pending

theorem play_world (deployment : Deployment) (move : Move (Config × Request) Call Fault) :
    (deployment.play [move]).world = deployment.world ∨ ∃ index fault thread call, move = .step index fault ∧
      deployment.threads[index]? = some thread ∧ thread.program.pending = some call ∧
      (deployment.play [move]).world = (Cluster.exec thread.request (fault call) deployment.world call).2 :=
  Pool.move_world Cluster.exec (fun served => handle served.1 served.2) deployment move

/-- A record only goes when a call to delete it takes effect. -/
theorem play_present (present : key ∈ deployment.world.store) (kept : ¬Deletes key deployment move) :
    key ∈ (deployment.play [move]).world.store := by
  rcases play_world deployment move with same | ⟨index, fault, thread, call, rfl, found, pending, world⟩
  · exact same ▸ present
  · rw [world]
    by_cases acts : fault call = .fails
    · rw [acts]
      exact present
    · dsimp only [Cluster.exec, execFor, Cluster.update]
      rw [World.exec_acts acts]
      apply perform_present present
      rintro rfl
      exact kept ⟨present, index, fault, thread, rfl, found, pending, acts⟩

theorem Takes.created {index : Nat} {volume : Volume} (takes : Takes deployment move index (.create key volume))
    (absent : key ∉ deployment.world.store) :
    (deployment.play [move]).world.store = deployment.world.store.insert key volume := by
  obtain ⟨fault, thread, rfl, found, pending, acts⟩ := takes
  rw [play_step found pending]
  dsimp only [Cluster.exec, execFor, Cluster.update]
  have performed : World.perform thread.request.2.volumeId (deployment.world.world thread.request.1)
      (.create key volume) = (.ok (), _) := if_neg absent
  rw [World.exec_acts acts, performed]
  rfl

theorem creates_present (creates : Creates key deployment move) : key ∈ (deployment.play [move]).world.store := by
  obtain ⟨absent, index, volume, takes⟩ := creates
  rw [takes.created absent]
  exact (AList.mem_insert _).mpr (Or.inl rfl)

/-- Between two creations of a record lies a deletion. -/
theorem deleted_between {first second : Move (Config × Request) Call Fault}
    {between : List (Move (Config × Request) Call Fault)} (creates : Creates key deployment first)
    (again : Creates key (deployment.play (first :: between)) second) :
    ∃ middle next rest, between = middle ++ next :: rest ∧
      Deletes key (deployment.play (first :: middle)) next := by
  have gone : ¬key ∈ ((deployment.play [first]).play between).world.store := again.1
  obtain ⟨middle, next, rest, split, present, absent⟩ :=
    Pool.play_breaks (fun deployment : Deployment => key ∈ deployment.world.store) (creates_present creates) gone
  refine ⟨middle, next, rest, split, ?_⟩
  by_contra kept
  refine absent ?_
  rw [Pool.play, List.foldl_append]
  exact play_present present kept

/-! ### What a request hears -/

/-- The calls of CreateVolume. -/
def Opens (r : CreateVolumeRequest) (call : Call) : Prop :=
  call = .getOpt (volumeKey r.name) ∨ ∃ volume, newVolume r = .ok volume ∧ call = .create (volumeKey r.name) volume

/-- What an answer to the request rests on. -/
def Grounds (promise : (call : Call) → call.Answer → Prop) (r : CreateVolumeRequest) (reply : Reply) : Prop :=
  ∃ volume, newVolume r = .ok volume ∧ reply = .created (createdVolume volume) ∧
    (promise (.create (volumeKey r.name) volume) (.ok ()) ∨
      ∃ stored, promise (.getOpt (volumeKey r.name)) (.ok (some stored)) ∧ Reconciles stored volume)

theorem createVolume_grounds {promise : (call : Call) → call.Answer → Prop} (r : CreateVolumeRequest) :
    Safe (contract (Opens r) promise) (handle config (.createVolume r)) (fun reply _ => Grounds promise r reply)
      (fun _ _ => True) () := by
  refine safe_bind.mpr (safe_bind.mpr (safe_ofExcept.mpr ⟨fun _ _ => trivial, fun volume built => ?_⟩))
  have key : volume.key = volumeKey r.name := congrArg volumeKey (newVolume_name built)
  have load : Volume.load volume.name = issue (.getOpt (volumeKey r.name)) := by
    rw [← key]
    rfl
  rw [Volume.create, load, key]
  refine safe_bind.mpr (safe_mapErr.mpr (safe_bind.mpr (safe_issued (Or.inl rfl) fun existing _ => ?_)))
  split
  · -- somebody else's record
    refine safe_bind.mpr (safe_mapErr.mpr (safe_issued (Or.inl rfl) fun found heard => ?_))
    refine safe_bind.mpr (safe_ofOption.mpr ⟨fun _ => trivial, fun stored same => ?_⟩)
    refine safe_bind.mpr (safe_reject.mpr ⟨fun _ => trivial, fun agree => ?_⟩)
    subst same
    exact ⟨volume, built, rfl, Or.inr ⟨stored, heard, not_not.mp agree⟩⟩
  · refine safe_bind.mpr (safe_issued (Or.inr ⟨volume, built, rfl⟩) fun _ heard => ?_)
    exact ⟨volume, built, rfl, Or.inl heard⟩

/-! ### Every interleaving -/

/-- What the thread at `index` was answered during the schedule. -/
abbrev Heard (cluster : Cluster) (schedule : List (Move (Config × Request) Call Fault)) (index : Nat) (call : Call)
    (answer : call.Answer) : Prop :=
  Pool.Answered Cluster.exec (fun served : Config × Request => handle served.1 served.2)
    (⟨cluster, []⟩ : Deployment) schedule index call answer

theorem create_safe {schedule : List (Move (Config × Request) Call Fault)} {index : Nat} {r : CreateVolumeRequest}
    {program : Action Status Reply}
    (found : (cluster.deploy schedule).threads[index]? = some ⟨(config, .createVolume r), program⟩) :
    Safe (contract (Opens r) (Heard cluster schedule index)) program
      (fun reply _ => Grounds (Heard cluster schedule index) r reply) (fun _ _ => True) () :=
  Pool.play_meets (fun _ _ heard => heard) (by simp) found (createVolume_grounds r)

theorem Opens.additive {r : CreateVolumeRequest} {call : Call} {owner : String} {fault : Fault} {world : World}
    {volume : Volume} (opens : Opens r call) (held : world.store.lookup key = some volume) :
    (world.exec owner fault call).2.store.lookup key = some volume := by
  have performed : (world.perform owner call).2.store.lookup key = some volume := by
    rcases opens with rfl | ⟨fresh, -, rfl⟩
    · exact held
    · simp only [World.perform]
      split
      · exact held
      · rename_i absent
        have different : key ≠ volumeKey r.name := by
          rintro rfl
          exact absent (AList.lookup_isSome.mp (by rw [held]; rfl))
        exact (AList.lookup_insert_ne different).trans held
  by_cases acts : fault = .fails
  · rw [acts]
    exact held
  · rw [World.exec_acts acts]
    exact performed

/-- CreateVolume changes no record that is there. -/
theorem create_additive {index : Nat} (fault : Call → Fault) {r : CreateVolumeRequest}
    {program : Action Status Reply} {schedule : List (Move (Config × Request) Call Fault)} {volume : Volume}
    (found : (cluster.deploy schedule).threads[index]? = some ⟨(config, .createVolume r), program⟩)
    (held : (cluster.deploy schedule).world.store.lookup key = some volume) :
    (cluster.deploy (schedule ++ [.step index fault])).world.store.lookup key = some volume := by
  rw [deploy_append]
  rcases play_world (cluster.deploy schedule) (.step index fault) with same | ⟨_, _, _, call,
    moved, here, pending, world⟩
  · rw [same]
    exact held
  · cases moved
    cases found.symm.trans here
    rw [world]
    have opens : Opens r call := (create_safe found).pending pending
    have held : ((cluster.deploy schedule).world.world config).store.lookup key = some volume := held
    exact opens.additive held

/-- Right after one of its own calls the request at `index` found the volume it asked for. -/
def Found (cluster : Cluster) (schedule : List (Move (Config × Request) Call Fault)) (index : Nat) (config : Config)
    (r : CreateVolumeRequest) (volume : Volume) : Prop :=
  ∃ before fault after call next, schedule = before ++ .step index fault :: after ∧
    (cluster.deploy before).threads[index]? = some ⟨(config, .createVolume r), .call call next⟩ ∧
    ∃ stored, (cluster.deploy (before ++ [.step index fault])).world.store.lookup (volumeKey r.name) = some stored ∧
      stored.validConfigs = volume.validConfigs ∧ stored.filesystem = volume.filesystem ∧
      stored.hostPath = volume.hostPath ∧ stored.size = volume.size

theorem Heard.found {schedule : List (Move (Config × Request) Call Fault)} {index : Nat} {r : CreateVolumeRequest}
    {program : Action Status Reply} {call : Call} {value : call.Value} {volume stored : Volume}
    (heard : Heard cluster schedule index call (.ok value))
    (found : (cluster.deploy schedule).threads[index]? = some ⟨(config, .createVolume r), program⟩)
    (leaves : ∀ owner world after, World.perform owner world call = (.ok value, after) →
      after.store.lookup (volumeKey r.name) = some stored)
    (agrees : Reconciles stored volume) : Found cluster schedule index config r volume := by
  obtain ⟨before, fault, after, request, next, rfl, calling, answer⟩ := heard
  change (cluster.deploy before).threads[index]? = _ at calling
  have same : request = (config, .createVolume r) := by
    have kept : ∃ program, ((cluster.deploy before).play (.step index fault :: after)).threads[index]? =
        some ⟨request, program⟩ := Pool.play_request calling _
    rw [← deploy_append, found] at kept
    obtain ⟨later, same⟩ := kept
    cases same
    rfl
  subst same
  refine ⟨before, fault, after, call, next, rfl, calling, stored, ?_, ?_⟩
  · rw [deploy_append, play_step calling rfl]
    refine leaves r.name ((cluster.deploy before).world.world config) _ (World.exec_through answer.symm)
  · obtain ⟨valid, filesystem, path, -, size⟩ := agrees
    exact ⟨valid, filesystem, path, size⟩

/-- However requests overlap and whatever fails: CreateVolume leaves the records that are there alone, a record is
created again only after a deletion, and Ok means that the record was there with the requested contents. -/
theorem creates_agree (cluster : Cluster) (schedule : List (Move (Config × Request) Call Fault)) :
    (∀ index fault config r program key volume,
      (cluster.deploy schedule).threads[index]? = some ⟨(config, .createVolume r), program⟩ →
      (cluster.deploy schedule).world.store.lookup key = some volume →
      (cluster.deploy (schedule ++ [.step index fault])).world.store.lookup key = some volume) ∧
    (∀ key before first between second after, schedule = before ++ first :: between ++ second :: after →
      Creates key (cluster.deploy before) first → Creates key (cluster.deploy (before ++ first :: between)) second →
      ∃ middle next rest, between = middle ++ next :: rest ∧
        Deletes key (cluster.deploy (before ++ first :: middle)) next) ∧
    (∀ index config r reply,
      (cluster.deploy schedule).threads[index]? = some ⟨(config, .createVolume r), .ret reply⟩ →
      ∃ volume, newVolume r = .ok volume ∧ reply = .created (createdVolume volume) ∧
        Found cluster schedule index config r volume) := by
  refine ⟨fun _ fault _ _ _ _ _ => create_additive fault, ?_, ?_⟩
  · intro key before first between second after split creates again
    rw [deploy_append] at again
    obtain ⟨middle, next, rest, parts, deletes⟩ := deleted_between creates again
    refine ⟨middle, next, rest, parts, ?_⟩
    rw [deploy_append]
    exact deletes
  · intro index config r reply found
    have grounds : Grounds _ r reply := create_safe found
    obtain ⟨volume, built, same, heard | ⟨stored, heard, agrees⟩⟩ := grounds
    · refine ⟨volume, built, same, heard.found found (fun owner world after performed => ?_) ⟨rfl, rfl, rfl, rfl, rfl⟩⟩
      simp only [World.perform] at performed
      split at performed
      · cases performed
      · cases performed
        exact AList.lookup_insert _
    · refine ⟨volume, built, same, heard.found found (fun owner world after performed => ?_) agrees⟩
      obtain ⟨heard, rfl⟩ := Prod.mk.inj performed
      exact Except.ok.inj heard

/-- Two requests that both see no record, and a third one for what the faster of them created. -/
def Sample.overlapping : List (Move (Config × Request) Call Fault) :=
  [.start (Sample.config, create "a" "/pv2/" "ext4" 1), .start (Sample.config, create "a" "/pv2/" "xfs" 1)] ++
    steps 0 1 ++ steps 1 2 ++ steps 0 1 ++ [.start (Sample.config, create "a" "/pv2/" "xfs" 1)] ++ steps 2 2

theorem creates_agree_sample : ∃ volume, newVolume (Sample.createRequest "a" "/pv2/" "xfs" 1) = .ok volume ∧
    Found ⟨∅, fun _ => {}⟩ Sample.overlapping 2 Sample.config (Sample.createRequest "a" "/pv2/" "xfs" 1) volume := by
  obtain ⟨volume, built, -, found⟩ := (creates_agree ⟨∅, fun _ => {}⟩ Sample.overlapping).2.2 2 Sample.config
    (Sample.createRequest "a" "/pv2/" "xfs" 1) (.created Sample.response) rfl
  exact ⟨volume, built, found⟩

end Lvp
