import Lvp.Sequence

/-!
What a request served alone may do to the store. Its writes start from the record it loaded, so the
record afterwards is that one, or comes from it by the writes of the one handler.
-/

namespace Lvp
open Unix Effect Csi

variable {config : Config} {request : Request} {start world : World} {phase : Phase} {stage next : Stage}
  {volume written : Volume}

/-- A request has come from the record it loaded to a record and a stage. -/
inductive Trail (config : Config) (request : Request) (volume : Volume) : Volume → Stage → Prop where
  | loaded : Trail config request volume volume .loaded
  | call {now stage next} (trail : Trail config request volume now stage) (left : next ≠ .loaded)
      (same : next = .saved ↔ stage = .saved) : Trail config request volume now next
  | write {now stage written next} (trail : Trail config request volume now stage)
      (writes : Writes config request now stage written next) : Trail config request volume written next

/-- What may become of the record of a request. -/
inductive Changes (config : Config) : Request → Option Volume → Option Volume → Prop where
  | same {request record} : Changes config request record record
  | writes {request volume now stage written next} (trail : Trail config request volume now stage)
      (writes : Writes config request now stage written next) : Changes config request (some volume) (some written)
  | creates {r volume} (built : newVolume r = .ok volume) : Changes config (.createVolume r) none (some volume)
  | deletes {r volume} (state : volume.state = .«open») : Changes config (.deleteVolume r) (some volume) none

/-- Where a request stands that has been served from `start` on. -/
def Position (config : Config) (start : World) (request : Request) : Phase → World → Prop
  | .start, world => world = start
  | .missing, world => world = start ∨ ∃ r volume, request = .deleteVolume r ∧
      start.store.lookup (volumeKey request.volumeId) = some volume ∧ volume.state = .«open»
  | .on _ .loaded, world => world = start
  | .on volume stage, _ => (∃ r, request = .createVolume r ∧ stage = .saved) ∨
      ∃ before, start.store.lookup (volumeKey request.volumeId) = some before ∧
        Trail config request before volume stage
  | .stopped, _ => True

structure Since (config : Config) (start : World) (request : Request) (phase : Phase) (world : World) : Prop where
  others : ∀ key, key ≠ volumeKey request.volumeId → world.store.lookup key = start.store.lookup key
  changes : Changes config request (start.store.lookup (volumeKey request.volumeId))
    (world.store.lookup (volumeKey request.volumeId))
  position : Position config start request phase world

namespace Trail

theorem unwritten (trail : Trail config request volume written .loaded) : written = volume := by
  generalize reached : Stage.loaded = stage at trail
  cases trail with
  | loaded => rfl
  | call _ left _ => exact absurd reached.symm left
  | write _ writes => cases writes <;> cases reached

/-- The last write of a request that has saved its record. -/
theorem saved (trail : Trail config request volume written stage) (reached : stage = .saved) :
    ∃ now stage, Trail config request volume now stage ∧ Writes config request now stage written .saved := by
  induction trail with
  | loaded => cases reached
  | call _ _ same ih => exact ih (same.mp reached)
  | write trail writes =>
    subst reached
    exact ⟨_, _, trail, writes⟩

/-- Before the last write, there is at most the one of `assigned_node_id`. -/
theorem unsaved (trail : Trail config request volume written stage) (unsaved : stage ≠ .saved) :
    written = volume ∨ ∃ r, request = .nodePublishVolume r ∧ written = pinnedTo volume config.node ∧
      Admitted config r volume := by
  induction trail with
  | loaded => exact Or.inl rfl
  | call _ _ same ih => exact ih fun saved => unsaved (same.mpr saved)
  | write _ writes ih =>
    cases writes with
    | pin admitted =>
      right
      rcases ih (by nofun) with rfl | ⟨r, ⟨⟩, rfl, first⟩
      · exact ⟨_, rfl, rfl, admitted⟩
      · exact ⟨_, rfl, rfl, first⟩
    | _ => exact absurd rfl unsaved

end Trail

/-! ### One call -/

theorem Position.trail (position : Position config start request (.on volume stage) world)
    (holds : Holds request (.on volume stage) world) : (∃ r, request = .createVolume r ∧ stage = .saved) ∨
      ∃ before, start.store.lookup (volumeKey request.volumeId) = some before ∧
        Trail config request before volume stage := by
  cases stage with
  | loaded =>
    have same : world = start := position
    subst same
    exact Or.inr ⟨volume, holds, .loaded⟩
  | _ => exact position

theorem Position.on {stage : Stage} (left : stage ≠ .loaded)
    (position : (∃ r, request = .createVolume r ∧ stage = .saved) ∨
      ∃ before, start.store.lookup (volumeKey request.volumeId) = some before ∧
        Trail config request before volume stage) : Position config start request (.on volume stage) world := by
  cases stage with
  | loaded => exact absurd rfl left
  | _ => exact position

/-- The stages a call of the host leads to. -/
def Stage.Leads (stage next : Stage) : Prop := next ≠ .loaded ∧ (next = .saved ↔ stage = .saved)

theorem through_leads {α : Type} {next : α → Stage} (leads : ∀ value, stage.Leads (next value))
    (answer : Except Failure α) :
    through (fun value => .on volume (next value)) answer = .stopped ∨
      ∃ later, through (fun value => .on volume (next value)) answer = .on volume later ∧ stage.Leads later := by
  cases answer with
  | ok value => exact Or.inr ⟨_, rfl, leads value⟩
  | error failure => exact Or.inl rfl

namespace Since
variable {fault : Fault}

theorem hostCall {call : Call} {resume : call.Answer → Phase}
    (since : Since config start request (.on volume stage) world)
    (holds : Holds request (.on volume stage) world) (onHost : call.onStore = false)
    (leads : ∀ answer, resume answer = .stopped ∨ ∃ next, resume answer = .on volume next ∧ stage.Leads next) :
    Onwards (Since config start) request world call resume fault := by
  have store : (execFor request fault world call).2.store = world.store := exec_host onHost
  refine ⟨fun key other => ?_, ?_, ?_⟩
  · rw [store]
    exact since.others key other
  · rw [store]
    exact since.changes
  · rcases leads (execFor request fault world call).1 with stopped | ⟨next, on, left, same⟩
    · rw [stopped]
      trivial
    · rw [on]
      refine .on left ?_
      rcases since.position.trail holds with ⟨r, create, saved⟩ | ⟨before, held, trail⟩
      · exact Or.inl ⟨r, create, same.mpr saved⟩
      · exact Or.inr ⟨before, held, trail.call left same⟩

theorem loaded {key : String} (since : Since config start request phase world) (fresh : world = start) :
    Onwards (Since config start) request world (.getOpt key) (through found) fault := by
  have same : (execFor request fault world (.getOpt key)).2 = world := by cases fault <;> rfl
  refine ⟨?_, ?_, ?_⟩
  · rw [same]
    exact since.others
  · rw [same]
    exact since.changes
  · rw [same]
    cases (execFor request fault world (.getOpt key)).1 with
    | error failure => trivial
    | ok result =>
      cases result with
      | none => exact Or.inl fresh
      | some volume => exact fresh

/-- A call that replaces the record. -/
theorem stored {record : Option Volume} {after : World} (since : Since config start request phase world)
    (others : ∀ key, key ≠ volumeKey request.volumeId → after.store.lookup key = world.store.lookup key)
    (own : after.store.lookup (volumeKey request.volumeId) = record)
    (changes : Changes config request (start.store.lookup (volumeKey request.volumeId)) record)
    {next : Phase} (position : Position config start request next after) :
    Since config start request next after where
  others key other := (others key other).trans (since.others key other)
  changes := by rwa [own]
  position := position

theorem writes (ok : StoreOk WellFormed world.store) (since : Since config start request (.on volume stage) world)
    (holds : Holds request (.on volume stage) world) (writes : Writes config request volume stage written next) :
    Onwards (Since config start) request world (.patch written.key written)
      (through fun _ => .on written next) fault := by
  have own : written.key = volumeKey request.volumeId :=
    congrArg volumeKey (writes.rewrite.name.trans (ok.named holds).1)
  unfold Onwards
  rw [own, patch_present holds]
  rcases since.position.trail holds with ⟨r, rfl, -⟩ | ⟨before, held, trail⟩
  · cases writes
  have changes : Changes config request (start.store.lookup (volumeKey request.volumeId)) (some written) := by
    rw [held]
    exact .writes trail writes
  have left : next ≠ .loaded := by cases writes <;> nofun
  have recorded : ∀ phase, Position config start request phase
        { world with store := world.store.insert (volumeKey request.volumeId) written } →
      Since config start request phase
        { world with store := world.store.insert (volumeKey request.volumeId) written } :=
    fun phase => since.stored (fun key other => AList.lookup_insert_ne other) (AList.lookup_insert _) changes
  cases fault with
  | none => exact recorded _ (.on left (Or.inr ⟨before, held, trail.write writes⟩))
  | fails => exact ⟨since.others, since.changes, trivial⟩
  | lost => exact recorded _ trivial

theorem created {r : CreateVolumeRequest} (built : newVolume r = .ok volume)
    (since : Since config start (.createVolume r) .missing world)
    (absent : world.store.lookup (volumeKey r.name) = none) :
    Onwards (Since config start) (.createVolume r) world (.create volume.key volume)
      (through fun _ => .on volume .saved)
      fault := by
  have own : volume.key = volumeKey r.name := congrArg volumeKey (newVolume_name built)
  have fresh : world = start := since.position.resolve_right (by rintro ⟨_, _, ⟨⟩, -⟩)
  subst fresh
  unfold Onwards
  rw [own]
  have recorded : ∀ phase, Position config world (.createVolume r) phase
        { world with store := world.store.insert (volumeKey r.name) volume } →
      Since config world (.createVolume r) phase
        { world with store := world.store.insert (volumeKey r.name) volume } := by
    intro phase
    refine since.stored (fun key other => AList.lookup_insert_ne other) (AList.lookup_insert _) ?_
    show Changes config (.createVolume r) (world.store.lookup (volumeKey r.name)) _
    rw [absent]
    exact .creates built
  rw [create_absent absent]
  cases fault with
  | none => exact recorded _ (Or.inl ⟨r, rfl, rfl⟩)
  | fails => exact ⟨since.others, since.changes, trivial⟩
  | lost => exact recorded _ trivial

theorem deleted {r : DeleteVolumeRequest} (ok : StoreOk WellFormed world.store)
    (since : Since config start (.deleteVolume r) (.on volume .erased) world)
    (holds : Holds (.deleteVolume r) (.on volume .erased) world) (state : volume.state = .«open») :
    Onwards (Since config start) (.deleteVolume r) world (.delete volume.key)
      (through fun _ => .missing) fault := by
  have own : volume.key = volumeKey r.volumeId := congrArg volumeKey (ok.named holds).1
  rcases since.position.trail holds with ⟨_, ⟨⟩, -⟩ | ⟨before, held, trail⟩
  rcases trail.unsaved nofun with rfl | ⟨_, ⟨⟩, -⟩
  unfold Onwards
  rw [own]
  have removed : ∀ phase, Position config start (.deleteVolume r) phase
        { world with store := world.store.erase (volumeKey r.volumeId) } →
      Since config start (.deleteVolume r) phase
        { world with store := world.store.erase (volumeKey r.volumeId) } := by
    intro phase
    refine since.stored (fun key other => AList.lookup_erase_ne other) (AList.lookup_erase _ _) ?_
    rw [held]
    exact .deletes state
  have present : world.store.lookup (volumeKey r.volumeId) = some volume := holds
  rw [delete_present present]
  cases fault with
  | none => exact removed _ (Or.inr ⟨r, volume, rfl, held, state⟩)
  | fails => exact ⟨since.others, since.changes, trivial⟩
  | lost => exact removed _ trivial

theorem step {call : Call} {resume : call.Answer → Phase} (ok : StoreOk WellFormed world.store)
    (holds : Holds request phase world) (since : Since config start request phase world)
    (issued : Issues config request phase call resume) :
    Onwards (Since config start) request world call resume fault := by
  cases issued with
  | load => exact since.loaded since.position
  | reload => exact since.loaded since.position
  | write writes => exact since.writes ok holds writes
  | create built => exact since.created built holds
  | delete state => exact since.deleted ok holds state
  | detach => exact since.hostCall holds rfl fun _ => Or.inr ⟨_, rfl, nofun, nofun, nofun⟩
  | removeTarget => exact since.hostCall holds rfl fun _ => Or.inr ⟨_, rfl, nofun, Iff.rfl⟩
  | probe =>
    refine since.hostCall holds rfl (through_leads fun present => ?_)
    cases present <;> exact ⟨nofun, nofun, nofun⟩
  | check =>
    refine since.hostCall holds rfl fun answer => ?_
    cases answer with
    | error failure => exact Or.inl rfl
    | ok present =>
      cases present with
      | true => exact Or.inl rfl
      | false => exact Or.inr ⟨_, rfl, nofun, nofun, nofun⟩
  | makeFile _ housed =>
    refine since.hostCall holds rfl (through_leads fun _ => ⟨nofun, nofun, ?_⟩)
    rcases housed with rfl | ⟨rfl, -⟩ <;> nofun
  | mount _ _ ready =>
    refine since.hostCall holds rfl (through_leads fun _ => ⟨nofun, nofun, ?_⟩)
    rcases ready with ⟨rfl, -⟩ | ⟨rfl, -⟩ <;> nofun
  | _ => exact since.hostCall holds rfl (through_leads fun _ => ⟨nofun, nofun, nofun⟩)

end Since

/-! ### One request -/

theorem since_carries (config : Config) (start : World) :
    Carries config (fun _ world => world = start) (fun _ _ => True)
      (fun request phase _ => Since config start request phase) (fun _ _ => True) where
  enter {request past world} fresh _ := by
    subst fresh
    exact ⟨fun _ _ => rfl, .same, rfl⟩
  step ok holds since issued _ := since.step ok holds issued
  leave _ _ := trivial

theorem serve_since {oracle : Oracle Call Fault} (ok : StoreOk WellFormed start.store) :
    ∃ last, Outcome (fun _ => Returns config request) (fun _ last => last.idle)
        ((serve config request oracle start).1, last) ∧
      Holds request last (serve config request oracle start).2 ∧
      Since config start request last (serve config request oracle start).2 := by
  have carries := since_carries config start
  obtain ⟨-, ended, -⟩ := carries.serve [] ok trivial rfl fun _ _ _ _ => trivial
  exact ended

theorem serve_returns {oracle : Oracle Call Fault} {reply : Reply} (ok : StoreOk WellFormed start.store)
    (returned : (serve config request oracle start).1 = .ok reply) :
    ∃ last, Returns config request last ∧ Holds request last (serve config request oracle start).2 ∧
      Since config start request last (serve config request oracle start).2 := by
  obtain ⟨last, ended, holds, since⟩ := serve_since ok
  rw [returned] at ended
  exact ⟨last, ended, holds, since⟩

/-- What one request makes of its record, however it ends. -/
theorem serve_changes (config : Config) (request : Request) (oracle : Oracle Call Fault)
    (ok : StoreOk WellFormed start.store) :
    (∀ key, key ≠ volumeKey request.volumeId →
      (serve config request oracle start).2.store.lookup key = start.store.lookup key) ∧
    Changes config request (start.store.lookup (volumeKey request.volumeId))
      ((serve config request oracle start).2.store.lookup (volumeKey request.volumeId)) := by
  obtain ⟨last, -, -, since⟩ := serve_since ok
  exact ⟨since.others, since.changes⟩

/-- Where a call of a request is made. -/
theorem traced_since {oracle : Oracle Call Fault} (ok : StoreOk WellFormed start.store) {event : CallEvent}
    (issued : event ∈ traced config request oracle start) :
    ∃ phase resume, Issues config request phase event.op resume ∧ Holds request phase event.world ∧
      Since config start request phase event.world := by
  obtain ⟨-, -, visited⟩ := (since_carries config start).serve [] ok trivial rfl fun _ _ _ _ => trivial
  obtain ⟨before, after, split⟩ := List.append_of_mem (List.mem_map_of_mem (f := (request, ·)) issued)
  obtain ⟨phase, resume, step, -, holds, since⟩ := visited before _ after split
  exact ⟨phase, resume, step, holds, since⟩

/-- A DeleteVolume that returned Ok found no record or an open one. -/
theorem deleted_open {r : DeleteVolumeRequest} {oracle : Oracle Call Fault} {reply : Reply}
    (ok : StoreOk WellFormed start.store) (returned : (serve config (.deleteVolume r) oracle start).1 = .ok reply)
    (held : start.store.lookup (volumeKey r.volumeId) = some volume) : volume.state = .«open» := by
  obtain ⟨last, ended, missing, since⟩ := serve_returns ok returned
  cases ended
  rcases since.position with same | ⟨_, before, -, lookup, state⟩
  · rw [Holds, same] at missing
    cases missing.symm.trans held
  · cases lookup.symm.trans held
    exact state

/-! ### Ok -/

def publishedAs (volume : Volume) (config : VolumeConfig) (readonly : Bool) : Volume :=
  { volume with publishedConfig := some config, state := .controllerPublished, publishedReadonly := readonly }

def withdrawn (volume : Volume) : Volume :=
  { volume with state := .«open», publishedConfig := none, publishedReadonly := false }

theorem Position.saved (position : Position config start request (.on written .saved) world)
    (other : ∀ r, request ≠ .createVolume r) :
    ∃ before now stage, start.store.lookup (volumeKey request.volumeId) = some before ∧
      Trail config request before now stage ∧ Writes config request now stage written .saved := by
  rcases position with ⟨r, create, -⟩ | ⟨before, held, trail⟩
  · exact absurd create (other r)
  · obtain ⟨now, stage, trail, writes⟩ := trail.saved rfl
    exact ⟨before, now, stage, held, trail, writes⟩

/-- Everything a ControllerPublishVolume can have done that returned Ok. -/
theorem publish_ok {r : ControllerPublishVolumeRequest} {oracle : Oracle Call Fault} {reply : Reply}
    (ok : StoreOk WellFormed start.store)
    (returned : (serve config (.controllerPublishVolume r) oracle start).1 = .ok reply) :
    ∃ before requested filesystem, start.store.lookup (volumeKey r.volumeId) = some before ∧
      asked r.volumeCapability = some (requested, filesystem) ∧ lockedElsewhere before r.nodeId = none ∧
      requested ∈ before.validConfigs ∧
      (before.state = .«open» ∧
          (serve config (.controllerPublishVolume r) oracle start).2.store.lookup (volumeKey r.volumeId) =
            some (publishedAs before requested r.readonly) ∨
        before.state = .controllerPublished ∧ ¬OtherFilesystem filesystem before ∧
          before.publishedReadonly = r.readonly ∧ (serve config (.controllerPublishVolume r) oracle start).2 =
            start) := by
  obtain ⟨last, ended, holds, since⟩ := serve_returns ok returned
  cases ended with
  | compatible asking unlocked state valid filesystem readonly =>
    have same : (serve config (.controllerPublishVolume r) oracle start).2 = start := since.position
    rw [same] at holds ⊢
    exact ⟨_, _, _, holds, asking, unlocked, valid, Or.inr ⟨state, filesystem, readonly, rfl⟩⟩
  | published =>
    obtain ⟨before, now, stage, held, trail, writes⟩ := since.position.saved nofun
    cases writes with
    | publish asking unlocked state valid =>
      cases trail.unwritten
      exact ⟨_, _, _, held, asking, unlocked, valid, Or.inl ⟨state, holds⟩⟩

theorem unpublish_ok {r : ControllerUnpublishVolumeRequest} {oracle : Oracle Call Fault} {reply : Reply}
    (ok : StoreOk WellFormed start.store)
    (returned : (serve config (.controllerUnpublishVolume r) oracle start).1 = .ok reply) :
    (∀ volume, start.store.lookup (volumeKey r.volumeId) = some volume → volume.state = .«open») ∧
        (serve config (.controllerUnpublishVolume r) oracle start).2 = start ∨
      ∃ volume, start.store.lookup (volumeKey r.volumeId) = some volume ∧ volume.state = .controllerPublished ∧
        (serve config (.controllerUnpublishVolume r) oracle start).2.store.lookup (volumeKey r.volumeId) =
          some (withdrawn volume) := by
  obtain ⟨last, ended, holds, since⟩ := serve_returns ok returned
  cases ended with
  | unpublishedMissing =>
    have same : (serve config (.controllerUnpublishVolume r) oracle start).2 = start :=
      since.position.resolve_right (by rintro ⟨_, _, ⟨⟩, -⟩)
    have missing : _ = none := holds
    rw [same] at missing
    exact Or.inl ⟨fun volume held => (nomatch missing.symm.trans held), same⟩
  | unpublishedOpen state =>
    have same : (serve config (.controllerUnpublishVolume r) oracle start).2 = start := since.position
    rw [same] at holds
    refine Or.inl ⟨fun volume held => ?_, same⟩
    cases holds.symm.trans held
    exact state
  | unpublished =>
    obtain ⟨before, now, stage, held, trail, writes⟩ := since.position.saved nofun
    cases writes with
    | unpublish state =>
      cases trail.unwritten
      exact Or.inr ⟨before, held, state, holds⟩

/-- A ControllerUnpublishVolume that returned Ok leaves no record or an open one. -/
theorem unpublished_open {r : ControllerUnpublishVolumeRequest} {oracle : Oracle Call Fault} {reply : Reply}
    (ok : StoreOk WellFormed start.store)
    (returned : (serve config (.controllerUnpublishVolume r) oracle start).1 = .ok reply)
    (held : (serve config (.controllerUnpublishVolume r) oracle start).2.store.lookup (volumeKey r.volumeId) =
      some volume) : volume.state = .«open» := by
  rcases unpublish_ok ok returned with ⟨opened, same⟩ | ⟨before, -, -, written⟩
  · rw [same] at held
    exact opened volume held
  · cases written.symm.trans held
    rfl

theorem nodePublish_ok {r : NodePublishVolumeRequest} {oracle : Oracle Call Fault} {reply : Reply}
    (ok : StoreOk WellFormed start.store)
    (returned : (serve config (.nodePublishVolume r) oracle start).1 = .ok reply) :
    ∃ before, start.store.lookup (volumeKey r.volumeId) = some before ∧ Granted config r before ∧
      (Contains before.mountPaths r.targetPath ∧ (serve config (.nodePublishVolume r) oracle start).2 = start ∨
        Admitted config r before ∧ ∃ now device, (now = before ∨ now = pinnedTo before config.node) ∧
          (serve config (.nodePublishVolume r) oracle start).2.store.lookup (volumeKey r.volumeId) =
            some (mountedAt now device r.targetPath)) := by
  obtain ⟨last, ended, holds, since⟩ := serve_returns ok returned
  cases ended with
  | mountedBefore granted present =>
    have same : (serve config (.nodePublishVolume r) oracle start).2 = start := since.position
    rw [same] at holds ⊢
    exact ⟨_, holds, granted, Or.inl ⟨present, rfl⟩⟩
  | mounted =>
    obtain ⟨before, now, stage, held, trail, writes⟩ := since.position.saved nofun
    cases writes with
    | record admitted =>
      rcases trail.unsaved nofun with rfl | ⟨_, ⟨⟩, pinned, first⟩
      · exact ⟨_, held, admitted.toGranted, Or.inr ⟨admitted, _, _, Or.inl rfl, holds⟩⟩
      · exact ⟨_, held, first.toGranted, Or.inr ⟨first, _, _, Or.inr pinned, holds⟩⟩

theorem mountedAt_publishedConfig {now before : Volume} {device : Option Path} {target : Path}
    (pinned : now = before ∨ now = pinnedTo before config.node) :
    (mountedAt now device target).publishedConfig = before.publishedConfig := by
  rcases pinned with rfl | rfl <;> rfl

theorem nodeUnpublish_ok {r : NodeUnpublishVolumeRequest} {oracle : Oracle Call Fault} {reply : Reply}
    (ok : StoreOk WellFormed start.store)
    (returned : (serve config (.nodeUnpublishVolume r) oracle start).1 = .ok reply) :
    ∃ before, start.store.lookup (volumeKey r.volumeId) = some before ∧
      (¬Unmountable r before ∧ (serve config (.nodeUnpublishVolume r) oracle start).2 = start ∨
        Unmountable r before ∧
          (serve config (.nodeUnpublishVolume r) oracle start).2.store.lookup (volumeKey r.volumeId) =
            some (unmountedFrom before r.targetPath)) := by
  obtain ⟨last, ended, holds, since⟩ := serve_returns ok returned
  cases ended with
  | unmountedBefore idle =>
    have same : (serve config (.nodeUnpublishVolume r) oracle start).2 = start := since.position
    rw [same] at holds ⊢
    exact ⟨_, holds, Or.inl ⟨idle, rfl⟩⟩
  | unmounted =>
    obtain ⟨before, now, stage, held, trail, writes⟩ := since.position.saved nofun
    cases writes with
    | unmount unmountable settled =>
      rcases trail.unsaved (by rcases settled with rfl | ⟨rfl, -⟩ <;> nofun) with rfl | ⟨_, ⟨⟩, -⟩
      exact ⟨_, held, Or.inr ⟨unmountable, holds⟩⟩

end Lvp
