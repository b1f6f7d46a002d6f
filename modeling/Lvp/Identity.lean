import Lvp.Creation

/-!
What CreateVolume fixes for good: filesystem, access modes and path. Every update writes a whole copy of the
record by name, so a copy that was loaded before a volume was deleted and created again carries the old
identity along. Requests that never held such a copy keep the identity.
-/

namespace Lvp
open Unix Effect Csi

variable {origin : Volume} {stale : Nat → Prop} {deployment : Deployment} {index : Nat}
  {move : Move (Config × Request) Call Fault}

/-- What a request may hold of the volume: a version of `origin`, unless it is stale. -/
def MayHold (origin : Volume) (stale : Prop) (volume : Volume) : Prop := ¬stale → FromOrigin origin volume

theorem MayHold.rewritten {stale : Prop} {v w : Volume} (rewrite : Rewrite v w) (holds : MayHold origin stale v) :
    MayHold origin stale w := fun fresh => (holds fresh).rewritten rewrite

/-- No deletion of the record takes effect, and no update of it by a stale request. -/
def Unmixed (key : String) (stale : Nat → Prop) :
    Deployment → List (Move (Config × Request) Call Fault) → Prop
  | _, [] => True
  | deployment, move :: rest => ¬Deletes key deployment move ∧
      (∀ index written, Takes deployment move index (.patch key written) → ¬stale index) ∧
      Unmixed key stale (deployment.play [move]) rest

/-- A program that goes on from records it may hold. -/
def Trusting (origin : Volume) (stale : Prop)
    (thread : Thread (Config × Request) Call Call.Answer Status Reply) : Prop :=
  Keeps thread.request.1 (Named (MayHold origin stale) thread.request.2.volumeId) thread.request.2 thread.program
    fun _ => True

structure Identified (origin : Volume) (stale : Nat → Prop) (deployment : Deployment) : Prop where
  present : origin.key ∈ deployment.world.store
  sound : StoreOk (FromOrigin origin) deployment.world.store
  trusting : ∀ (index : Nat) thread, deployment.threads[index]? = some thread → Trusting origin (stale index) thread

theorem body_trusting (stale : Prop) (served : Config × Request) :
    Trusting origin stale ⟨served, handle served.1 served.2⟩ :=
  handle_keeps (fun _ node admitted named => ⟨named.1, named.2.rewritten (.pin node admitted)⟩) _

theorem trusting_play
    (trusting : ∀ (index : Nat) thread, deployment.threads[index]? = some thread →
      Trusting origin (stale index) thread)
    (loads : ∀ index fault request call next, move = .step index fault →
      deployment.threads[index]? = some ⟨request, .call call next⟩ →
      Loads request.2.volumeId (Named (MayHold origin (stale index)) request.2.volumeId) call
        (Cluster.exec request (fault call) deployment.world call).1)
    {thread : Thread (Config × Request) Call Call.Answer Status Reply}
    (found : (deployment.play [move]).threads[index]? = some thread) : Trusting origin (stale index) thread := by
  have own : ∀ before, deployment.threads[index]? = some before → before.request = thread.request := by
    intro before here
    obtain ⟨program, later⟩ : ∃ program, (deployment.play [move]).threads[index]? =
        some ⟨before.request, program⟩ :=
      Pool.move_request here move
    cases found.symm.trans later
    rfl
  change (Pool.move Cluster.exec (fun served => handle served.1 served.2) deployment move).threads[index]? =
    _ at found
  refine Pool.move_meets (fun fault request call next same here => ?_) (fun before here _ => ?_) found
    (body_trusting _ _)
  · obtain rfl := own _ here
    exact loads index fault thread.request call next same here
  · have earlier := trusting index before here
    rw [Trusting, own before here] at earlier
    exact earlier

theorem Identified.play (identified : Identified origin stale deployment)
    (kept : ¬Deletes origin.key deployment move)
    (fresh : ∀ index written, Takes deployment move index (.patch origin.key written) → ¬stale index) :
    Identified origin stale (deployment.play [move]) := by
  refine ⟨play_present identified.present kept, ?_, fun _ _ => trusting_play identified.trusting ?_⟩
  · rcases play_world deployment move with same | ⟨index, fault, thread, call, rfl, found, pending, world⟩
    · rw [same]
      exact identified.sound
    · rw [world]
      have footprint := (identified.trusting index thread found).pending pending
      by_cases acts : fault call = .fails
      · rw [acts]
        exact identified.sound
      · dsimp only [Cluster.exec, execFor, Cluster.update]
        rw [World.exec_acts acts]
        refine perform_origin identified.sound footprint (fun _ => identified.present) ?_
        intro volume written holds rewrite same named
        have key : written.key = origin.key := congrArg volumeKey named
        rw [key] at same
        subst same
        exact holds.rewritten rewrite (fresh index written ⟨fault, thread, rfl, found, pending, acts⟩) named
  · intro index fault request call next _ _
    have held : StoreOk (MayHold origin (stale index)) deployment.world.store :=
      fun key volume lookup => (identified.sound key volume lookup).imp_right fun from_ _ => from_
    exact exec_loads (deployment.world.world request.1) held

theorem Identified.run {moves : List (Move (Config × Request) Call Fault)}
    (identified : Identified origin stale deployment) (unmixed : Unmixed origin.key stale deployment moves) :
    Identified origin stale (deployment.play moves) := by
  induction moves generalizing deployment with
  | nil => exact identified
  | cons move rest ih =>
    obtain ⟨kept, fresh, later⟩ := unmixed
    exact ih (identified.play kept fresh) later

/-! ### From the creation on -/

/-- The request at `index` loaded a record under the key. -/
def Loaded (key : String) (cluster : Cluster) (schedule : List (Move (Config × Request) Call Fault))
    (index : Nat) : Prop :=
  ∃ old, Heard cluster schedule index (.getOpt key) (.ok (some old))

variable {hosts : String → Host} {before : List (Move (Config × Request) Call Fault)}

theorem deploy_trusting {thread : Thread (Config × Request) Call Call.Answer Status Reply}
    (found : ((Cluster.mk ∅ hosts).deploy before).threads[index]? = some thread) :
    Trusting origin (Loaded origin.key ⟨∅, hosts⟩ before index) thread := by
  refine Pool.play_meets (fun call answer heard => ?_) (by simp) found (body_trusting _ _)
  cases call with
  | getOpt key =>
    rintro rfl volume rfl
    have loaded := heard
    obtain ⟨earlier, fault, later, request, next, rfl, calling, answer⟩ := heard
    have held : ((Cluster.mk ∅ hosts).deploy earlier).world.store.lookup (volumeKey thread.request.2.volumeId) =
        some volume := Except.ok.inj (congrArg Prod.fst (World.exec_through answer.symm))
    obtain ⟨name, -⟩ := (deploy_ok trivial_invariant .empty earlier).named held
    refine ⟨name, fun fresh named => absurd ⟨volume, ?_⟩ fresh⟩
    rw [Volume.key, ← named, name]
    exact loaded
  | _ => trivial

/-- Right after its creation the record is the original one, and whoever held another one is stale. -/
theorem deploy_identified {creator : Nat} {key : String}
    (absent : key ∉ ((Cluster.mk ∅ hosts).deploy before).world.store)
    (creates : Takes ((Cluster.mk ∅ hosts).deploy before) move creator (.create key origin)) :
    key = origin.key ∧
      Identified origin (Loaded origin.key ⟨∅, hosts⟩ before)
    (((Cluster.mk ∅ hosts).deploy before).play [move]) := by
  have ⟨fault, thread, moved, found, pending, _⟩ := creates
  have trusting : Trusting origin (Loaded origin.key ⟨∅, hosts⟩ before creator) thread := deploy_trusting found
  have same : key = origin.key := by
    have footprint := trusting.pending pending
    generalize thread.request.2 = request at footprint
    cases footprint
    rfl
  subst same
  refine ⟨rfl, creates_present ⟨absent, creator, origin, creates⟩, ?_, fun _ _ => ?_⟩
  · rw [creates.created absent]
    intro other volume lookup
    by_cases own : other = origin.key
    · subst own
      rw [AList.lookup_insert] at lookup
      cases lookup
      exact ⟨rfl, fun _ => ⟨rfl, rfl, rfl, rfl⟩⟩
    · rw [AList.lookup_insert_ne own] at lookup
      obtain ⟨key, -⟩ := deploy_ok trivial_invariant .empty before other volume lookup
      exact ⟨key, fun named => absurd (key.trans (congrArg volumeKey named)) own⟩
  · refine trusting_play (fun _ _ => deploy_trusting) ?_
    -- the creation answers with no record
    intro index fault request call next same here
    cases moved.symm.trans same
    cases found.symm.trans here
    cases pending
    trivial

/-- From its creation to its deletion a record keeps filesystem, access modes and path, as long as no request updates
it that had loaded a record of that name before the creation. -/
theorem identity_kept (hosts : String → Host) (before later : List (Move (Config × Request) Call Fault))
    {creator : Nat} {key : String} (absent : key ∉ ((Cluster.mk ∅ hosts).deploy before).world.store)
    (creates : Takes ((Cluster.mk ∅ hosts).deploy before) move creator (.create key origin))
    (unmixed : Unmixed key (Loaded key ⟨∅, hosts⟩ before)
      ((Cluster.mk ∅ hosts).deploy (before ++ [move])) later) :
    ∃ stored, ((Cluster.mk ∅ hosts).deploy (before ++ move :: later)).world.store.lookup key = some stored ∧
      stored.filesystem = origin.filesystem ∧ stored.validConfigs = origin.validConfigs ∧
      stored.hostPath = origin.hostPath := by
  obtain ⟨rfl, identified⟩ := deploy_identified absent creates
  rw [deploy_append] at unmixed
  have kept := identified.run unmixed
  obtain ⟨stored, held⟩ := Option.isSome_iff_exists.mp (AList.lookup_isSome.mpr kept.present)
  obtain ⟨same, from_⟩ := kept.sound _ _ held
  obtain ⟨-, valid, filesystem, path⟩ := from_ (volumeKey_injective same).symm
  refine ⟨stored, ?_, filesystem, valid, path⟩
  rw [deploy_append]
  exact held

theorem Takes.pending {fault : Call → Fault} {i : Nat} {call : Call}
    (takes : Takes deployment (.step i fault) index call) :
    index = i ∧ (deployment.threads[i]?.bind fun thread => thread.program.pending) = some call := by
  obtain ⟨_, thread, ⟨⟩, found, pending, -⟩ := takes
  exact ⟨rfl, Option.bind_eq_some_iff.mpr ⟨thread, found, pending⟩⟩

theorem takes_of_pending {i : Nat} {call : Call}
    (pending : (deployment.threads[i]?.bind fun thread => thread.program.pending) = some call) :
    Takes deployment (.step i fun _ => .none) i call := by
  obtain ⟨thread, found, pending⟩ := Option.bind_eq_some_iff.mp pending
  exact ⟨_, thread, rfl, found, pending, Fault.noConfusion⟩

def Sample.checking : List (Move (Config × Request) Call Fault) :=
  [.start (Sample.config, create "a" "/pv2/" "ext4" 1)] ++ steps 0 1

def Sample.followed : List (Move (Config × Request) Call Fault) :=
  [.start (Sample.config, publish "a" 1)] ++ steps 1 2

def Sample.original : Volume := freshVolume (createRequest "a" "/pv2/" "ext4" 1) "/pv2/" .ext4 [⟨.singleNodeWriter⟩]

theorem Sample.followed_unmixed : Unmixed "lvp-vol-a" (Loaded "lvp-vol-a" ⟨∅, fun _ => {}⟩ checking)
    ((Cluster.mk ∅ fun _ => {}).deploy (checking ++ [.step 0 fun _ => .none])) followed := by
  have fresh : ¬Loaded "lvp-vol-a" ⟨∅, fun _ => {}⟩ checking 1 := by
    rintro ⟨old, earlier, fault, later, request, next, split, -⟩
    have member : Move.step 1 fault ∈ checking := by simp [split]
    simp [checking, steps] at member
  refine ⟨?_, ?_, ?_, ?_, ?_, ?_, trivial⟩
  · rintro ⟨-, index, fault, thread, ⟨⟩, -⟩
  · rintro index written ⟨fault, thread, ⟨⟩, -⟩
  · rintro ⟨-, index, takes⟩
    exact absurd takes.pending.2 (by decide +kernel)
  · intro index written takes
    rw [takes.pending.1]
    exact fresh
  · rintro ⟨-, index, takes⟩
    exact absurd takes.pending.2 (by decide +kernel)
  · intro index written takes
    rw [takes.pending.1]
    exact fresh

theorem identity_kept_sample : ∃ stored, ((Cluster.mk ∅ fun _ => {}).deploy
    (Sample.checking ++ (.step 0 fun _ => .none) :: Sample.followed)).world.store.lookup "lvp-vol-a" = some stored ∧
      stored.filesystem = .ext4 ∧ stored.validConfigs = [⟨.singleNodeWriter⟩] ∧ stored.hostPath = "pv2/a" :=
  identity_kept (fun _ => {}) Sample.checking Sample.followed (by decide +kernel)
    (takes_of_pending (by decide +kernel) : Takes _ _ 0 (.create _ Sample.original)) Sample.followed_unmixed

/-- A volume is used and given up, a publish loads its record, and a deletion and a new check for the name follow. -/
def Sample.renewing : List (Move (Config × Request) Call Fault) :=
  [.start (Sample.config, create "a" "/pv2/" "ext4" 1)] ++ steps 0 2 ++
    [.start (Sample.config, publish "a" 1)] ++ steps 1 2 ++
    [.start (Sample.config, nodePublish "a" "/t" 1)] ++ steps 2 12 ++
    [.start (Sample.config, nodeUnpublish "a" "/t")] ++ steps 3 5 ++
    [.start (Sample.config, unpublish "a")] ++ steps 4 2 ++
    [.start (Sample.config, publish "a" 1)] ++ steps 5 1 ++
    [.start (Sample.config, delete "a")] ++ steps 6 3 ++
    [.start (Sample.config, create "a" "/pv3/" "xfs" 1)] ++ steps 7 1

def Sample.renewed : Volume := freshVolume (createRequest "a" "/pv3/" "xfs" 1) "/pv3/" .xfs [⟨.singleNodeWriter⟩]

/-- The publish writes the record of the deleted volume over the new one. -/
theorem identity_rewritten :
    let before := (Cluster.mk ∅ fun _ => {}).deploy Sample.renewing
    let created := before.play [.step 7 fun _ => .none]
    let after := created.play [.step 5 fun _ => .none]
    "lvp-vol-a" ∉ before.world.store ∧ Takes before (.step 7 fun _ => .none) 7 (.create "lvp-vol-a" Sample.renewed) ∧
      created.world.store.lookup "lvp-vol-a" = some Sample.renewed ∧
      ¬Deletes "lvp-vol-a" created (.step 5 fun _ => .none) ∧
      ∃ stored, after.world.store.lookup "lvp-vol-a" = some stored ∧ stored.filesystem = .ext4 ∧
        stored.hostPath = "pv2/a" ∧ Sample.renewed.filesystem = .xfs ∧ Sample.renewed.hostPath = "pv3/a" := by
  refine ⟨by decide +kernel, takes_of_pending (by decide +kernel), by decide +kernel, ?_, ?_⟩
  · rintro ⟨-, index, takes⟩
    exact absurd takes.pending.2 (by decide +kernel)
  · refine ⟨{ Sample.original with
      assignedNodeId := some "ho.me", state :=
        .controllerPublished, publishedConfig := some ⟨.singleNodeWriter⟩ }, ?_⟩
    decide +kernel

end Lvp
