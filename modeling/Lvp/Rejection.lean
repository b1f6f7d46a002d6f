import Lvp.Effect.Protocol
import Lvp.Server

/-!
Rejected requests. A handler reads the record, refuses what it cannot serve, and only then acts: once a call
other than a read has been issued, every error it returns is `internal`.
-/

namespace Lvp
open Unix Effect Csi

variable {ε ε' α β : Type} {config : Config} {volume : Volume} {begun : Bool}

def Call.reads : Call → Bool
  | .getOpt _ => true
  | _ => false

/-- The codes that tell the caller that nothing was done. -/
def Rejects (status : Status) : Prop :=
  status.code = .invalidArgument ∨ status.code = .notFound ∨ status.code = .alreadyExists ∨
    status.code = .failedPrecondition

theorem not_rejects_internal (message : String) : ¬Rejects (.internal message) := by
  rintro (invalid | missing | exists_ | failed) <;> contradiction

/-- The phase says whether something other than a read has been issued. -/
def acting : Protocol Call Call.Answer Bool := fun begun call resume => resume = fun _ => begun || !call.reads

/-- A rejection comes before the first effect. -/
def Early (status : Status) (begun : Bool) : Prop := Rejects status → begun = false

theorem early_internal (message : String) : Early (.internal message) begun :=
  fun rejects => absurd rejects (not_rejects_internal message)

/-! ### The two halves of a handler -/

/-- Reads and refuses, without an effect. -/
def Checks (program : Action Status α) : Prop :=
  Follows acting program (fun _ begun => begun = false) Early false

/-- Acts, and never refuses. -/
def Acts (program : Action Status α) : Prop :=
  ∀ begun, Follows acting program (fun _ _ => True) Early begun

theorem Checks.bind {program : Action Status α} {next : α → Action Status β} (first : Checks program)
    (rest : ∀ value, Checks (next value)) : Checks (program >>= next) := by
  refine Follows.bind first fun value begun clean => ?_
  rw [clean]
  exact rest value

theorem Checks.then {program : Action Status α} {next : α → Action Status β} (first : Checks program)
    (rest : ∀ value, Follows acting (next value) (fun _ _ => True) Early false) :
    Follows acting (program >>= next) (fun _ _ => True) Early false := by
  refine Follows.bind first fun value begun clean => ?_
  rw [clean]
  exact rest value

theorem Checks.follows {program : Action Status α} (checks : Checks program) :
    Follows acting program (fun _ _ => True) Early false :=
  checks.weaken (fun _ _ _ => trivial) fun _ _ early => early

theorem Acts.bind {program : Action Status α} {next : α → Action Status β} (first : Acts program)
    (rest : ∀ value, Acts (next value)) : Acts (program >>= next) :=
  fun begun => (first begun).bind fun value after _ => rest value after

theorem checks_reject {condition : Prop} [Decidable condition] {status : Status} :
    Checks (Program.reject condition status) :=
  follows_reject.mpr ⟨fun _ _ => rfl, fun _ => rfl⟩

theorem checks_ofExcept {result : Except Status α} : Checks (Program.ofExcept result) :=
  follows_ofExcept.mpr ⟨fun _ _ _ => rfl, fun _ _ => rfl⟩

theorem checks_ofOption {result : Option α} {status : Status} : Checks (Program.ofOption status result) :=
  follows_ofOption.mpr ⟨fun _ _ => rfl, fun _ _ => rfl⟩

theorem checks_raise {status : Status} : Checks (.raise status : Action Status α) := fun _ => rfl

theorem checks_pure (value : α) : Checks (pure value : Action Status α) := rfl

theorem checks_load (name : String) (message : String) :
    Checks ((Volume.load name).mapErr fun _ => Status.internal message) := by
  refine follows_mapErr.mpr ⟨_, rfl, fun answer => ?_⟩
  cases answer with
  | ok value => rfl
  | error failure => exact early_internal message

theorem checks_loadVolume (volumeId : String) : Checks (loadVolume volumeId) :=
  (checks_load volumeId _).bind fun _ => checks_ofOption

theorem checks_refuse (status : Option Status) : Checks (refuse status) := by
  cases status with
  | none => exact checks_pure ()
  | some status => exact checks_raise

theorem checks_admitPublish (requested : VolumeConfig) (target : Path) :
    Checks (admitPublish volume requested target) := by
  unfold admitPublish
  cases volume.state with
  | «open» => exact checks_raise
  | controllerPublished => exact checks_pure ()
  | nodePublished =>
    cases volume.publishedConfig with
    | none => exact checks_pure ()
    | some config => exact checks_reject.bind fun _ => checks_reject

theorem follows_acting (program : Action ε α) :
    Follows acting program (fun _ _ => True) (fun _ _ => True) begun := by
  induction program generalizing begun with
  | ret value => trivial
  | raise error => trivial
  | call op rest ih => exact ⟨_, rfl, fun answer => ih answer⟩

theorem acts_internal (program : Action ε α) (message : String) :
    Acts (program.mapErr fun _ => Status.internal message) :=
  fun _ => follows_mapErr.mpr ((follows_acting program).weaken (fun _ _ _ => trivial) fun _ _ _ =>
    early_internal message)

theorem acts_attempt (program : Action ε α) : Acts program.attempt :=
  fun _ => follows_attempt.mpr (follows_acting program)

theorem acts_pure (value : α) : Acts (pure value : Action Status α) := fun _ => trivial

theorem acts_ensureBacking : Acts (ensureBacking config volume) := by
  refine (acts_internal _ _).bind fun present => ?_
  cases present with
  | true => exact acts_pure volume
  | false =>
    refine (acts_internal _ _).bind fun _ => ?_
    exact (acts_internal _ _).bind fun _ => acts_pure _

theorem acts_mountAndRecord (r : NodePublishVolumeRequest) : Acts (mountAndRecord config r volume) :=
  (acts_internal _ _).bind fun _ => acts_internal _ _

theorem acts_releaseLoop (after : Volume) : Acts (releaseLoop volume after) := by
  unfold releaseLoop
  split
  · exact (acts_attempt _).bind fun _ => acts_pure ()
  · exact acts_pure ()

/-! ### The handlers -/

/-- Finds the record before it creates anything. -/
theorem follows_create : Follows acting volume.create
    (fun creation begun => creation = .alreadyExists → begun = false) (fun _ _ => True) false := by
  refine ⟨_, rfl, fun answer => ?_⟩
  cases answer with
  | error failure => trivial
  | ok existing =>
    cases existing with
    | some found => exact fun _ => rfl
    | none =>
      refine ⟨_, rfl, fun answer => ?_⟩
      cases answer with
      | error failure => trivial
      | ok value => exact fun found => nomatch found

theorem createVolume_acts (r : CreateVolumeRequest) :
    Follows acting (createVolume r) (fun _ _ => True) Early false := by
  refine Checks.then checks_ofExcept fun volume => ?_
  have created : Follows acting (volume.create.mapErr fun _ => Status.internal "internal failure")
      (fun creation begun => creation = .alreadyExists → begun = false) Early false :=
    follows_mapErr.mpr (follows_create.weaken (fun _ _ kept => kept) fun _ _ _ => early_internal _)
  refine created.bind fun creation begun clean => ?_
  cases creation with
  | success => trivial
  | alreadyExists =>
    rw [clean rfl]
    refine Checks.follows ((checks_load _ _).bind fun found => checks_ofOption.bind fun existing => ?_)
    exact checks_reject.bind fun _ => checks_pure _

theorem deleteVolume_acts (r : DeleteVolumeRequest) :
    Follows acting (deleteVolume config r) (fun _ _ => True) Early false := by
  refine checks_reject.then fun _ => (checks_load _ _).then fun found => ?_
  cases found with
  | none => trivial
  | some volume =>
    refine checks_reject.then fun _ => ?_
    exact ((acts_internal _ _).bind fun _ => acts_internal _ _) false

theorem controllerPublishVolume_acts (r : ControllerPublishVolumeRequest) :
    Follows acting (controllerPublishVolume r) (fun _ _ => True) Early false := by
  refine checks_reject.then fun _ => checks_reject.then fun _ => checks_reject.then fun _ => ?_
  refine (checks_loadVolume _).then fun volume => (checks_refuse _).then fun _ => ?_
  refine checks_ofOption.then fun capability => checks_ofExcept.then fun parsed => ?_
  cases volume.state with
  | nodePublished => exact checks_raise.follows
  | controllerPublished => exact checks_reject.follows
  | «open» => exact checks_reject.then fun _ => acts_internal _ _ false

theorem controllerUnpublishVolume_acts (r : ControllerUnpublishVolumeRequest) :
    Follows acting (controllerUnpublishVolume r) (fun _ _ => True) Early false := by
  refine checks_reject.then fun _ => (checks_load _ _).then fun found => ?_
  cases found with
  | none => trivial
  | some volume =>
    dsimp only
    cases volume.state with
    | nodePublished => exact checks_raise.follows
    | «open» => trivial
    | controllerPublished => exact acts_internal _ _ false

theorem nodePublishVolume_acts (r : NodePublishVolumeRequest) :
    Follows acting (nodePublishVolume config r) (fun _ _ => True) Early false := by
  refine checks_reject.then fun _ => checks_reject.then fun _ => ?_
  refine checks_ofOption.then fun capability => checks_ofExcept.then fun parsed => ?_
  refine (checks_loadVolume _).then fun volume => checks_reject.then fun _ => ?_
  refine (checks_refuse _).then fun _ => (checks_admitPublish _ _).then fun _ => ?_
  split
  · trivial
  · refine ((acts_internal _ _).bind fun _ => ?_) false
    exact acts_ensureBacking.bind fun backed => acts_mountAndRecord r

theorem nodeUnpublishVolume_acts (r : NodeUnpublishVolumeRequest) :
    Follows acting (nodeUnpublishVolume r) (fun _ _ => True) Early false := by
  refine checks_reject.then fun _ => checks_reject.then fun _ => (checks_loadVolume _).then fun volume => ?_
  split
  · trivial
  · refine ((acts_internal _ _).bind fun _ => ?_) false
    refine (acts_releaseLoop _).bind fun _ => (acts_internal _ _).bind fun _ => ?_
    exact (acts_attempt _).bind fun _ => acts_pure ()

theorem nodeExpandVolume_acts (r : NodeExpandVolumeRequest) :
    Follows acting (nodeExpandVolume config r) (fun _ _ => True) Early false := by
  refine checks_reject.then fun _ => checks_reject.then fun _ => (checks_loadVolume _).then fun volume => ?_
  refine checks_reject.then fun _ => ?_
  dsimp only
  split
  · trivial
  · refine checks_ofOption.then fun device => ?_
    refine ((acts_internal _ _).bind fun _ => ?_) false
    exact (acts_internal _ _).bind fun _ => acts_pure _

theorem handle_acts (request : Request) :
    Follows acting (handle config request) (fun _ _ => True) Early false := by
  cases request with
  | createVolume r => exact (createVolume_acts r).bind fun _ _ _ => trivial
  | deleteVolume r => exact (deleteVolume_acts r).bind fun _ _ _ => trivial
  | controllerPublishVolume r => exact (controllerPublishVolume_acts r).bind fun _ _ _ => trivial
  | controllerUnpublishVolume r => exact (controllerUnpublishVolume_acts r).bind fun _ _ _ => trivial
  | nodePublishVolume r => exact (nodePublishVolume_acts r).bind fun _ _ _ => trivial
  | nodeUnpublishVolume r => exact (nodeUnpublishVolume_acts r).bind fun _ _ _ => trivial
  | nodeExpandVolume r => exact (nodeExpandVolume_acts r).bind fun _ _ _ => trivial

/-! ### Runs -/

section Run
variable {State Fate : Type} {exec : Fate → State → (call : Call) → call.Answer × State}
  {program : Action Status α} {status : Status}

/-- A program that has begun stays so, and does not end in a rejection. -/
theorem not_rejected {oracle : Oracle Call Fate} {state : State}
    (follows : Follows acting program (fun _ _ => True) Early true)
    (failed : (program.run exec oracle state).1 = .error status) : ¬Rejects status := by
  induction program generalizing oracle state with
  | ret value => cases failed
  | raise error =>
    cases failed
    exact fun rejects => nomatch follows rejects
  | call op rest ih =>
    obtain ⟨resume, rfl, later⟩ := follows
    exact ih _ (later _) failed

theorem rejected_reads {oracle : Oracle Call Fate} {state : State}
    (follows : Follows acting program (fun _ _ => True) Early false)
    (failed : (program.run exec oracle state).1 = .error status) (rejects : Rejects status) :
    ∀ visit ∈ program.visits exec oracle state, visit.2.reads := by
  induction program generalizing oracle state with
  | ret value => exact fun visit member => nomatch member
  | raise error => exact fun visit member => nomatch member
  | call op rest ih =>
    obtain ⟨resume, rfl, later⟩ := follows
    cases read : op.reads with
    | false =>
      have begun := later (exec (oracle 0 op) state op).1
      rw [read] at begun
      exact absurd rejects (not_rejected begun failed)
    | true =>
      have clean := later (exec (oracle 0 op) state op).1
      rw [read] at clean
      intro visit member
      rcases List.mem_cons.mp member with rfl | after
      · exact read
      · exact ih _ clean failed visit after

end Run

theorem exec_reads {owner : String} {fault : Fault} {world : World} {call : Call} (reads : call.reads) :
    (World.exec owner fault world call).2 = world := by
  cases call <;> first | contradiction | (cases fault <;> rfl)

theorem run_reads {owner : String} {program : Action ε α} {oracle : Oracle Call Fault} {world : World}
    (reads : ∀ visit ∈ program.visits (World.exec owner) oracle world, visit.2.reads) :
    (program.run (World.exec owner) oracle world).2 = world := by
  induction program generalizing oracle with
  | ret value => rfl
  | raise error => rfl
  | call op rest ih =>
    have same : (World.exec owner (oracle 0 op) world op).2 = world :=
      exec_reads (reads (world, op) List.mem_cons_self)
    show ((rest _).run _ _ (World.exec owner (oracle 0 op) world op).2).2 = world
    rw [same]
    refine ih _ fun visit later => reads visit (List.mem_cons_of_mem _ ?_)
    show visit ∈ (rest _).visits _ _ (World.exec owner (oracle 0 op) world op).2
    rw [same]
    exact later

/-- In any environment a rejected request has only read; on the plugin's own world nothing has changed. -/
theorem rejected_unchanged (config : Config) (request : Request) :
    (∀ (State Fate : Type) (exec : Fate → State → (call : Call) → call.Answer × State) (oracle : Oracle Call Fate)
      (state : State) (status : Status), ((handle config request).run exec oracle state).1 = .error status →
        Rejects status → ∀ visit ∈ (handle config request).visits exec oracle state, visit.2.reads) ∧
    ∀ (oracle : Oracle Call Fault) (world : World) (status : Status),
      (serve config request oracle world).1 = .error status → Rejects status →
        (serve config request oracle world).2 = world := by
  refine ⟨fun State Fate exec oracle state status failed rejects => ?_,
    fun oracle world status failed rejects => ?_⟩
  · exact rejected_reads (handle_acts request) failed rejects
  · exact run_reads (rejected_reads (handle_acts request) failed rejects)

end Lvp
