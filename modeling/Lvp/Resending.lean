import Lvp.Effect.Retry
import Lvp.Failing
import Lvp.Repetition
import Lvp.Retrying
import Lvp.Sizing
import Lvp.Unix.Tree

/-!
Requests sent again until they are answered. The requests that only write records, and the one that grows a volume,
take effect once: whatever became of the attempts before, the next one ends as the first would have ended.
-/

namespace Lvp
open Unix Effect Csi

variable {config : Config} {request : Request} {start world after : World} {volume : Volume}
    {reply : Reply} {ε α : Type}

def Request.resumes : Request → Bool
  | .createVolume _ | .controllerPublishVolume _ | .controllerUnpublishVolume _ | .nodeExpandVolume _ => true
  | _ => false

/-! ### Giving up -/

abbrev Failed (call : Call) (answer : call.Answer) : Prop := ∃ failure, answer = .error failure

theorem exec_faulty (owner : String) : Faulty (World.exec owner) .none Failed := by
  intro fault world call
  cases fault with
  | none => exact Or.inl rfl
  | fails => exact Or.inr ⟨⟨_, rfl⟩, Or.inl rfl⟩
  | lost => exact Or.inr ⟨⟨_, rfl⟩, Or.inr rfl⟩

theorem Footprint.heeded {I : Volume → Prop} {call : Call} (fits : Footprint config I request call)
    (resumes : request.resumes) : call.tolerated = false := by
  cases fits with
  | growDevice | growExt4 | growXfs => simp [Call.tolerated]
  | removeDirectory | removeFile | delete | mountpoint | probe | makeDirectory | makeParent | makeFile | size | mkfsExt4
  | mkfsXfs | attach | mount | mountBind | umount | detach | removeMountpoint => cases resumes
  | _ => rfl

theorem Owns.quits {fits : Call → Prop} {promise : (call : Call) → call.Answer → Prop} {program : Action Status α}
    {watch : Watch} (owns : Owns program watch)
    (keeps : Safe (contract fits promise) program (fun _ _ => True) (fun _ _ => True) ())
    (heeded : ∀ call, fits call → call.tolerated = false) (any : ∀ call answer, promise call answer) :
    program.Quits Failed := by
  induction program generalizing watch with
  | ret value => trivial
  | raise error => trivial
  | call call next ih =>
    obtain ⟨fit, resumed⟩ := safe_contract_call.mp keeps
    obtain ⟨resume, ⟨-, rfl⟩, later⟩ := owns
    intro answer
    refine ⟨?_, ih answer (later answer) (resumed answer (any call answer))⟩
    rintro ⟨failure, rfl⟩
    have noticed : watch.next call (.error failure) = .broken := by simp [Watch.next, heeded call fit]
    have broken : Owns (next (.error failure)) .broken := noticed ▸ later (.error failure)
    cases shape : next (.error failure) with
    | raise error => exact ⟨error, rfl⟩
    | ret value =>
      rw [shape] at broken
      cases broken
    | call other rest =>
      rw [shape] at broken
      obtain ⟨-, ⟨unbroken, -⟩, -⟩ := broken
      exact absurd rfl unbroken

theorem handle_quits (config : Config) (resumes : request.resumes) : (handle config request).Quits Failed := by
  have keeps : Keeps config (fun _ => True) request (handle config request) (fun _ => True) :=
    handle_keeps (fun _ _ _ _ => trivial) request
  refine (owns_handle request).quits keeps (fun call fits => fits.heeded resumes) fun call answer => ?_
  cases call with
  | getOpt key => exact fun _ _ _ => trivial
  | _ => trivial

/-! ### Requests that only write a record -/

def Request.records : Request → Bool
  | .createVolume _ | .controllerPublishVolume _ | .controllerUnpublishVolume _ => true
  | _ => false

/-- Their one write comes last. -/
theorem recorded_visits (records : request.records) (ok : StoreOk WellFormed start.store) {event : CallEvent}
    (issued : event ∈ traced config request healthy start) : event.world = start := by
  obtain ⟨phase, resume, issues, -, since⟩ := traced_since ok issued
  obtain ⟨now, call, fault, answer⟩ := event
  cases issues with
  | load => exact since.position
  | reload => exact since.position
  | write writes =>
    cases writes with
    | publish => exact since.position
    | unpublish => exact since.position
    | _ => cases records
  | create =>
    rcases since.position with same | ⟨_, _, ⟨⟩, -⟩
    exact same
  | _ => cases records

/-! ### NodeExpandVolume -/

section Expand
variable {r : NodeExpandVolumeRequest} {device : Path}

/-- The backing file has its new length, and the record does not say so yet. -/
def lengthenedFor (config : Config) (r : NodeExpandVolumeRequest) (volume : Volume) (world : World) : World :=
  { world with host := (world.host.ftruncate (recordPath config volume) (requestedSize r.capacityRange).toInt64).2 }

/-- Where the calls of an expansion find the world. -/
def Extending (config : Config) (r : NodeExpandVolumeRequest) (start : World) :
    Phase → List CallEvent → World → Prop
  | .start, _, world => world = start
  | .on volume .loaded, _, world | .on volume .opened, _, world =>
    world = start ∧ start.store.lookup (volumeKey r.volumeId) = some volume
  | .on volume .lengthened, _, world | .on volume .refreshed, _, world | .on volume .grown, _, world =>
    world = lengthenedFor config r volume start ∧ start.store.lookup (volumeKey r.volumeId) = some volume ∧
      Expandable r volume
  | _, _, _ => True

def Unhindered (_ : List CallEvent) (event : CallEvent) : Prop := event.fault = .none

/-- The utilities that only need the device to be there. -/
theorem perform_device {argv : List String} {owner : String}
    (needs : ∃ device, world.host.command owner argv = world.host.needsDevice device) :
    (world.perform owner (.command argv)).2 = world := by
  obtain ⟨device, same⟩ := needs
  rw [World.perform, same, fromHost]
  unfold Host.needsDevice
  split <;> rfl

theorem command_grow (host : Host) (owner : String) (filesystem : Filesystem) (device : Path) :
    host.command owner (growCommand filesystem device) = host.needsDevice device := by
  unfold growCommand
  split <;> rfl

theorem Extending.through {α : Type} {next : α → Phase} {answer : Except Failure α} {past : List CallEvent}
    (extending : ∀ value, Extending config r start (next value) past world) :
    Extending config r start (Lvp.through next answer) past world := by
  cases answer with
  | ok value => exact extending value
  | error failure => trivial

theorem Extending.step {phase : Phase} {past : List CallEvent} {call : Call} {resume : call.Answer → Phase}
    {fault : Fault} (extending : Extending config r start phase past world)
    (issued : Issues config (.nodeExpandVolume r) phase call resume)
    (unhindered : Unhindered past (event (execFor (.nodeExpandVolume r)) world call fault)) :
    Extending config r start (resume (execFor (.nodeExpandVolume r) fault world call).1)
      (past ++ [event (execFor (.nodeExpandVolume r)) world call fault])
      (execFor (.nodeExpandVolume r) fault world call).2 := by
  obtain rfl : fault = .none := unhindered
  show Extending config r start (resume (world.perform r.volumeId call).1) _ (world.perform r.volumeId call).2
  cases issued with
  | load =>
    obtain rfl : world = start := extending
    show Extending config r world (found (world.store.lookup (volumeKey r.volumeId))) _ world
    cases held : world.store.lookup (volumeKey r.volumeId) with
    | none => trivial
    | some volume => exact ⟨rfl, held⟩
  | write writes =>
    refine Extending.through fun _ => ?_
    cases writes
    trivial
  | openBacking => exact Extending.through fun _ => extending
  | lengthen expandable =>
    obtain ⟨rfl, held⟩ := extending
    exact Extending.through fun _ => ⟨rfl, held, expandable⟩
  | refresh =>
    rw [perform_device ⟨_, rfl⟩]
    exact Extending.through fun _ => extending
  | grow =>
    rw [perform_device ⟨_, command_grow _ _ _ _⟩]
    exact Extending.through fun _ => extending

theorem expand_visits {entry : CallEvent} (issued : entry ∈ traced config (.nodeExpandVolume r) healthy start) :
    entry.world = start ∨ ∃ volume, start.store.lookup (volumeKey r.volumeId) = some volume ∧ Expandable r volume ∧
      entry.world = lengthenedFor config r volume start := by
  have permitted : ∀ before entry after, traced config (.nodeExpandVolume r) healthy start =
      before ++ entry :: after →
      Unhindered ([] ++ before) entry := by
    intro before entry after split
    have member : entry ∈ traced config (.nodeExpandVolume r) healthy start := by simp [split]
    exact Program.trace_steady member
  have follows := handle_follows config (.nodeExpandVolume r)
  obtain ⟨-, visited⟩ := Follows.run Extending.step follows (rfl : Extending config r start .start [] start) permitted
  obtain ⟨before, after, split⟩ := List.append_of_mem issued
  obtain ⟨phase, resume, issues, extending⟩ := visited before entry after split
  obtain ⟨now, call, fault, answer⟩ := entry
  cases issues with
  | load => exact Or.inl extending
  | openBacking => exact Or.inl extending.1
  | lengthen => exact Or.inl extending.1
  | refresh | grow => exact Or.inr ⟨_, extending.2.1, extending.2.2, extending.1⟩
  | write writes =>
    cases writes with
    | expand _ settled =>
      rcases settled with rfl | ⟨rfl, -⟩
      · exact Or.inr ⟨_, extending.2.1, extending.2.2, extending.1⟩
      · exact Or.inl extending.1

/-- The calls that grow a volume go through. -/
structure Extensible (config : Config) (r : NodeExpandVolumeRequest) (volume : Volume) (device : Path)
    (world : World) : Prop where
  opened : world.host.openWrite (recordPath config volume) = .ok ()
  sized : ¬(requestedSize r.capacityRange).toInt64 < 0
  attached : world.host.attached (trim device)

theorem Extensible.again (extensible : Extensible config r volume device world) :
    Extensible config r volume device (lengthenedFor config r volume world) where
  opened := Host.ftruncate_opens extensible.opened
  sized := extensible.sized
  attached := (attached_untouched (Host.ftruncate_untouched _ _ _) _).mpr extensible.attached

theorem lengthenedFor_again : lengthenedFor config r volume (lengthenedFor config r volume world) =
    lengthenedFor config r volume world := by
  unfold lengthenedFor
  dsimp only
  rw [Host.ftruncate_again]

theorem run_device {argv : List String} (request : Request) (attached : world.host.attached (trim device))
    (needs : ∀ owner, world.host.command owner argv = world.host.needsDevice (trim device)) :
    (issue (.command argv)).run (execFor request) healthy world = (.ok "", world) := by
  rw [run_issue, World.perform, needs, Host.needsDevice, if_pos attached]
  rfl

theorem run_growFilesystem (request : Request) (filesystem : Filesystem)
    (attached : world.host.attached (trim device)) :
    (growFilesystem filesystem device).run (execFor request) healthy world = (.ok (), world) := by
  cases filesystem with
  | bind => rfl
  | ext4 =>
    rw [growFilesystem, Program.run_bind, run, run_device request attached fun _ => rfl]
    rfl
  | xfs =>
    rw [growFilesystem, Program.run_bind, run, run_device request attached fun _ => rfl]
    rfl

theorem run_expandVolume (extensible : Extensible config r volume device world)
    (unbound : volume.filesystem ≠ .bind) :
    (expandVolume (recordPath config volume) device (requestedSize r.capacityRange) volume.filesystem).run
      (execFor (.nodeExpandVolume r)) healthy world = (.ok (), lengthenedFor config r volume world) := by
  have opened : world.perform r.volumeId (.openWrite (recordPath config volume)) = (.ok (), world) := by
    rw [World.perform, extensible.opened]
    rfl
  have lengthened : world.perform r.volumeId
      (.ftruncate (recordPath config volume) (requestedSize r.capacityRange).toInt64) =
      (.ok (), lengthenedFor config r volume world) := by
    have resized :
        (world.host.ftruncate (recordPath config volume) (requestedSize r.capacityRange).toInt64).1 = .ok () := by
      rw [Host.ftruncate, if_neg extensible.sized]
      split <;> rfl
    rw [World.perform, fromHost, resized]
    rfl
  have attached := extensible.again.attached
  rw [expandVolume, if_neg unbound, Program.run_bind, run_issue, Request.volumeId, opened]
  dsimp only
  rw [Program.run_bind, run_issue, Request.volumeId, lengthened]
  dsimp only
  rw [Program.run_bind, runInChroot, run, run_device _ attached fun _ => rfl]
  dsimp only
  rw [run_growFilesystem _ _ attached]

theorem expandVolume_extensible (owner : String) :
    Safe (alone (World.exec owner)) (expandVolume (recordPath config volume) device (requestedSize r.capacityRange)
        volume.filesystem)
      (fun _ _ => volume.filesystem ≠ .bind → Extensible config r volume device world) (fun _ _ => True) world := by
  unfold expandVolume
  split
  · rename_i bound
    exact fun unbound => absurd bound unbound
  · refine safe_bind.mpr (safe_issue (fun _ now opened => ?_) fun _ _ => trivial)
    obtain ⟨opened, rfl⟩ : world.host.openWrite (recordPath config volume) = .ok () ∧ now = world := by
      rw [World.perform] at opened
      exact ⟨fromHost_ok.mp (congrArg Prod.fst opened), (congrArg Prod.snd opened).symm⟩
    refine safe_bind.mpr (safe_issue (fun _ lengthened resized => ?_) fun _ _ => trivial)
    refine safe_bind.mpr (safe_issue (fun _ _ refreshed => ?_) fun _ _ => trivial)
    have extensible : Extensible config r volume device now := by
      have truncated : (now.host.ftruncate _ _).1 = .ok () := fromHost_ok.mp (congrArg Prod.fst resized)
      cases congrArg Prod.snd resized
      refine ⟨opened, fun negative => ?_, ?_⟩
      · rw [Host.ftruncate, if_pos negative] at truncated
        cases truncated
      · rw [← attached_untouched (Host.ftruncate_untouched now.host (recordPath config volume)
          (requestedSize r.capacityRange).toInt64)]
        by_contra detached
        have refused : (Host.needsDevice _ (trim device)).1 = .ok _ := fromHost_ok.mp (congrArg Prod.fst refreshed)
        rw [Host.needsDevice, if_neg detached] at refused
        cases refused
    exact (growFilesystem_store rfl).weaken (fun _ _ _ _ => extensible) fun _ _ _ => trivial

/-- What an expansion that returns Ok has met. -/
structure Enlarges (config : Config) (r : NodeExpandVolumeRequest) (volume : Volume) (world : World) : Prop where
  named : r.volumeId ≠ ""
  path : r.volumePath ≠ ""
  held : world.store.lookup (volumeKey r.volumeId) = some volume
  state : volume.state = .nodePublished
  present : Contains volume.mountPaths r.volumePath
  grows : volume.size < requestedSize r.capacityRange → ∃ device, volume.loopDevice = some device ∧
    (volume.filesystem ≠ .bind → Extensible config r volume device world)

theorem nodeExpandVolume_enlarges (owner : String) :
    Safe (alone (World.exec owner)) (nodeExpandVolume config r)
      (fun _ _ => ∃ volume, Enlarges config r volume world)
      (fun _ _ => True) world := by
  refine safe_bind.mpr (safe_reject.mpr ⟨fun _ => trivial, fun named => ?_⟩)
  refine safe_bind.mpr (safe_reject.mpr ⟨fun _ => trivial, fun path => ?_⟩)
  refine safe_bind.mpr (safe_bind.mpr (safe_mapErr.mpr (safe_issue (fun found now loaded => ?_) fun _ _ => trivial)))
  cases loaded
  refine safe_ofOption.mpr ⟨fun _ => trivial, fun volume held => ?_⟩
  refine safe_bind.mpr (safe_reject.mpr ⟨fun _ => trivial, fun mounted => ?_⟩)
  obtain ⟨state, present⟩ := not_or.mp mounted
  by_cases small : requestedSize r.capacityRange ≤ volume.size
  · simp only [if_pos small]
    refine ⟨volume, named, path, held, not_not.mp state, not_not.mp present, fun large => ?_⟩
    exact absurd small (UInt64.not_le.mpr large)
  · simp only [if_neg small]
    refine safe_bind.mpr (safe_ofOption.mpr ⟨fun _ => trivial, fun device looped => ?_⟩)
    refine safe_bind.mpr (safe_mapErr.mpr ((expandVolume_extensible owner).weaken (fun _ after extensible => ?_)
      fun _ _ _ => trivial))
    refine safe_bind.mpr (safe_mapErr.mpr (safe_issue (fun _ last performed => ?_) fun _ _ => trivial))
    exact ⟨volume, named, path, held, not_not.mp state, not_not.mp present, fun _ => ⟨device, looped, extensible⟩⟩

/-- The record says so too. -/
def enlargedFor (config : Config) (r : NodeExpandVolumeRequest) (volume : Volume) (world : World) : World :=
  { lengthenedFor config r volume world with
    store := world.store.insert volume.key { volume with size := requestedSize r.capacityRange } }

theorem Enlarges.settled (enlarges : Enlarges config r volume world)
    (small : requestedSize r.capacityRange ≤ volume.size) :
    serve config (.nodeExpandVolume r) healthy world = (.ok (.expanded ⟨volume.size.toInt64⟩), world) := by
  rw [serve, execFor, handle, Program.run_bind, nodeExpandVolume, Program.reject, if_neg enlarges.named,
    Program.ret_bind, Program.reject, if_neg enlarges.path, Program.ret_bind, Program.run_bind,
    run_loadVolume enlarges.held]
  dsimp only
  rw [Program.reject, if_neg, Program.ret_bind, if_pos small]
  · rfl
  · exact not_or.mpr ⟨not_not.mpr enlarges.state, not_not.mpr enlarges.present⟩

theorem Enlarges.enlarged (enlarges : Enlarges config r volume world) (formed : WellFormed volume)
    (key : volumeKey r.volumeId = volume.key) (large : volume.size < requestedSize r.capacityRange) :
    serve config (.nodeExpandVolume r) healthy world =
      (.ok (.expanded ⟨(requestedSize r.capacityRange).toInt64⟩), enlargedFor config r volume world) := by
  obtain ⟨device, looped, extensible⟩ := enlarges.grows large
  have unbound : volume.filesystem ≠ .bind := by
    intro bound
    rw [(formed.node enlarges.state).2.2.2.mpr bound] at looped
    cases looped
  have present : volume.key ∈ world.store := AList.lookup_isSome.mp (by rw [← key, enlarges.held]; rfl)
  have saved : (Volume.update { volume with size := requestedSize r.capacityRange }).run
      (execFor (.nodeExpandVolume r)) healthy (lengthenedFor config r volume world) =
        (.ok (), enlargedFor config r volume world) := by
    rw [Volume.update, run_issue]
    exact if_pos present
  have loaded : (loadVolume r.volumeId).run (execFor (.nodeExpandVolume r)) healthy world = (.ok volume, world) :=
    run_loadVolume enlarges.held
  have given : (Program.ofOption (.notFound "loop device not found") volume.loopDevice : Action Status Path) =
      .ret device := by rw [looped, Program.ofOption]
  rw [serve, handle, Program.run_bind, nodeExpandVolume, Program.reject, if_neg enlarges.named, Program.ret_bind,
    Program.reject, if_neg enlarges.path, Program.ret_bind, Program.run_bind, loaded]
  dsimp only
  rw [Program.reject, if_neg, Program.ret_bind, if_neg (UInt64.not_le.mpr large), given, Program.ret_bind,
    Program.run_bind, Program.run_mapErr, run_expandVolume (extensible unbound) unbound]
  · dsimp only [Except.mapError]
    rw [Program.run_bind, Program.run_mapErr, saved]
    rfl
  · exact not_or.mpr ⟨not_not.mpr enlarges.state, not_not.mpr enlarges.present⟩

theorem Enlarges.lengthened (enlarges : Enlarges config r volume world) :
    Enlarges config r volume (lengthenedFor config r volume world) where
  named := enlarges.named
  path := enlarges.path
  held := enlarges.held
  state := enlarges.state
  present := enlarges.present
  grows large := by
    obtain ⟨device, looped, extensible⟩ := enlarges.grows large
    exact ⟨device, looped, fun unbound => (extensible unbound).again⟩

theorem Enlarges.recorded (enlarges : Enlarges config r volume world) (key : volumeKey r.volumeId = volume.key) :
    Enlarges config r { volume with size := requestedSize r.capacityRange }
    (enlargedFor config r volume world) where
  named := enlarges.named
  path := enlarges.path
  held := by
    rw [key]
    exact AList.lookup_insert _
  state := enlarges.state
  present := enlarges.present
  grows large := absurd large (UInt64.lt_irrefl _)

theorem enlargedFor_again : enlargedFor config r volume (lengthenedFor config r volume world) =
    enlargedFor config r volume world := by
  unfold enlargedFor
  rw [lengthenedFor_again]
  rfl

theorem expand_restartable (ok : StoreOk WellFormed start.store)
    (answered : serve config (.nodeExpandVolume r) healthy start = (.ok reply, after)) :
    ∃ states : World → Prop, states start ∧
      Restartable (execFor (.nodeExpandVolume r)) .none (handle config (.nodeExpandVolume r)) states reply after := by
  have safe : Safe (alone (execFor (.nodeExpandVolume r))) (handle config (.nodeExpandVolume r))
      (fun _ _ => ∃ volume, Enlarges config r volume start) (fun _ _ => True) start :=
    safe_bind.mpr ((nodeExpandVolume_enlarges r.volumeId).weaken (fun _ _ met => met) fun _ _ _ => trivial)
  obtain ⟨volume, enlarges⟩ := safe.returns (congrArg Prod.fst answered)
  obtain ⟨name, formed⟩ := ok.named enlarges.held
  have key : volumeKey r.volumeId = volume.key := congrArg volumeKey name.symm
  by_cases small : requestedSize r.capacityRange ≤ volume.size
  · -- nothing to do, now or later
    cases answered.symm.trans (enlarges.settled small)
    refine ⟨fun world => world = start, rfl, ⟨?_, fun same => same ▸ answered⟩⟩
    rintro _ left rfl (final | ⟨entry, member, rfl⟩)
    · exact final.trans (congrArg Prod.snd answered)
    · rcases expand_visits member with same | ⟨other, held, expandable, -⟩
      · exact same
      · cases enlarges.held.symm.trans held
        exact absurd small (UInt64.not_le.mpr expandable.grows)
  · have large := UInt64.not_le.mp small
    cases answered.symm.trans (enlarges.enlarged formed key large)
    have recorded := enlarges.recorded key
    have ends : ∀ {world}, (world = start ∨ world = lengthenedFor config r volume start ∨
        world = enlargedFor config r volume start) → serve config (.nodeExpandVolume r) healthy world =
          (.ok (.expanded ⟨(requestedSize r.capacityRange).toInt64⟩), enlargedFor config r volume start) := by
      rintro world (rfl | rfl | rfl)
      · exact answered
      · rw [enlarges.lengthened.enlarged formed key large, enlargedFor_again]
      · exact recorded.settled (UInt64.le_refl _)
    refine ⟨_, Or.inl rfl, ⟨?_, ends⟩⟩
    rintro world left state (final | ⟨entry, member, rfl⟩)
    · exact Or.inr (Or.inr (final.trans (congrArg Prod.snd (ends state))))
    · rcases expand_visits member with same | ⟨other, held, expandable, same⟩
      · exact same ▸ state
      · rw [same]
        rcases state with rfl | rfl | rfl
        · cases enlarges.held.symm.trans held
          exact Or.inr (Or.inl rfl)
        · cases enlarges.held.symm.trans held
          exact Or.inr (Or.inl lengthenedFor_again)
        · cases recorded.held.symm.trans held
          exact absurd expandable.grows (UInt64.lt_irrefl _)

end Expand

/-! ### Again -/

/-- Sent again after any attempts, the request ends as it would have ended at first. -/
def Resumes (config : Config) (request : Request) (start : World) : Prop :=
  ∀ attempts oracle, let left := attempted (execFor request) (handle config request) attempts start
    serve config request healthy left = serve config request healthy start ∧
      ∀ other, (serve config request oracle left).1 = .ok other →
        serve config request oracle left = serve config request healthy start

theorem Resumes.of_restartable {states : World → Prop} (resumes : request.resumes) (begin : states start)
    (restartable : Restartable (execFor request) .none (handle config request) states reply after) :
    Resumes config request start := by
  intro attempts oracle left
  have faulty := exec_faulty request.volumeId
  have quits := handle_quits config resumes
  have reached : states left := restartable.attempted faulty quits begin attempts
  have answered : serve config request healthy start = (.ok reply, after) := restartable.ends begin
  rw [answered]
  exact ⟨restartable.ends reached, fun other ok => restartable.answered faulty quits reached ok⟩

theorem records_restartable (records : request.records) (ok : StoreOk WellFormed start.store)
    (answered : serve config request healthy start = (.ok reply, after))
    (again : serve config request healthy after = (.ok reply, after)) :
    Restartable (execFor request) .none (handle config request)
      (fun world => world = start ∨ world = after) reply after where
  passes := by
    have later : StoreOk WellFormed after.store := by
      have kept : StoreOk WellFormed (serve config request healthy start).2.store :=
        (serve_ok wellFormed_invariant ok healthy).1
      rwa [answered] at kept
    rintro world left (rfl | rfl) (final | ⟨entry, member, rfl⟩)
    · exact Or.inr (final.trans (congrArg Prod.snd answered))
    · exact Or.inl (recorded_visits records ok member)
    · exact Or.inr (final.trans (congrArg Prod.snd again))
    · exact Or.inr (recorded_visits records later member)
  ends := by
    rintro world (rfl | rfl)
    · exact answered
    · exact again

theorem create_settles {r : CreateVolumeRequest}
    (answered : serve config (.createVolume r) healthy start = (.ok reply, after)) :
    serve config (.createVolume r) healthy after = (.ok reply, after) := by
  have safe : Safe (alone (execFor (.createVolume r))) (handle config (.createVolume r))
      (fun reply after => ∃ response, reply = .created response ∧ Leaves r response after) (fun _ _ => True) start :=
    safe_bind.mpr ((createVolume_leaves r start).weaken (fun response _ leaves => ⟨response, rfl, leaves⟩)
      fun _ _ _ => trivial)
  have left := safe.returns (congrArg Prod.fst answered)
  obtain ⟨response, rfl, volume, built, rfl, stored, held, agree⟩ := left
  rw [show (handle config (.createVolume r)).run (execFor (.createVolume r)) healthy start =
    (_, after) from answered] at held
  rw [serve_create_again built held, if_pos agree]

/-- The answer to a request that has none but Ok. -/
theorem done_of_run {program : Action Status Unit}
    (answered : (do program; return Reply.done : Action Status Reply).run (execFor request) healthy start =
      (.ok reply, after)) :
    reply = .done := by
  rw [Program.run_bind] at answered
  split at answered
  · cases answered
    rfl
  · cases answered

theorem publish_settles {r : ControllerPublishVolumeRequest} (ok : StoreOk WellFormed start.store)
    (agrees : Agrees (.controllerPublishVolume r) start)
    (answered : serve config (.controllerPublishVolume r) healthy start = (.ok reply, after)) :
    serve config (.controllerPublishVolume r) healthy after = (.ok reply, after) := by
  obtain rfl := done_of_run answered
  obtain ⟨named, node⟩ := publish_named (congrArg Prod.fst answered)
  obtain ⟨before, requested, filesystem, held, asking, unlocked, valid, outcome⟩ :=
    publish_ok ok (congrArg Prod.fst answered)
  rw [answered] at outcome
  rcases outcome with ⟨opened, written⟩ | ⟨state, compatible, readonly, same⟩
  · have compatible := agrees before held opened _ asking
    exact serve_publish_again named node written unlocked asking rfl valid compatible rfl
  · obtain rfl : after = start := same
    exact serve_publish_again named node held unlocked asking state valid compatible readonly

theorem unpublish_settles {r : ControllerUnpublishVolumeRequest} (ok : StoreOk WellFormed start.store)
    (answered : serve config (.controllerUnpublishVolume r) healthy start = (.ok reply, after)) :
    serve config (.controllerUnpublishVolume r) healthy after = (.ok reply, after) := by
  obtain rfl := done_of_run answered
  have returned := congrArg Prod.fst answered
  refine serve_unpublish_again (unpublish_named returned) fun volume held => unpublished_open ok returned ?_
  rw [answered]
  exact held

theorem resumes_of_agrees (resumes : request.resumes) (ok : StoreOk WellFormed start.store)
    (answered : serve config request healthy start = (.ok reply, after)) (agrees : Agrees request start) :
    Resumes config request start := by
  cases request with
  | createVolume r =>
    exact .of_restartable rfl (Or.inl rfl) (records_restartable rfl ok answered (create_settles answered))
  | controllerPublishVolume r =>
    exact .of_restartable rfl (Or.inl rfl) (records_restartable rfl ok answered (publish_settles ok agrees answered))
  | controllerUnpublishVolume r =>
    exact .of_restartable rfl (Or.inl rfl) (records_restartable rfl ok answered (unpublish_settles ok answered))
  | nodeExpandVolume r =>
    obtain ⟨states, begin, restartable⟩ := expand_restartable ok answered
    exact .of_restartable rfl begin restartable
  | _ => cases resumes

/-- The attempt whose answer was lost. -/
theorem Resumes.redundant (resumes : Resumes config request start) :
    serve config request healthy (serve config request healthy start).2 = serve config request healthy start := by
  obtain ⟨count, same⟩ := (handle config request).cut_late (execFor request) healthy start
  have again := (resumes [(count, healthy)] healthy).1
  rwa [attempted, List.foldl_cons, List.foldl_nil, same] at again

/-- A request that only writes a record or grows its volume may be sent until it is answered, in every world that
the instances can leave: whatever calls of the attempts failed or took effect unheard, and wherever they were given up,
it ends as it would have ended at first. A controller publish does so exactly when it meets the filesystem of a volume
that is not published yet. -/
theorem resent_iff (hosts : String → Host) (schedule : List (Move (Config × Request) Call Fault))
    {oracle : Oracle Call Fault} (resumes : request.resumes)
    (returned : (serve config request oracle (reached hosts schedule config)).1 =
      .ok reply) :
    Resumes config request (reached hosts schedule config) ↔ Agrees request (reached hosts schedule config) := by
  have ok : StoreOk WellFormed (reached hosts schedule config).store := reached_ok wellFormed_invariant
  have undisturbed : serve config request oracle (reached hosts schedule config) =
      serve config request healthy (reached hosts schedule config) :=
    (handle_quits config resumes).returned (exec_faulty request.volumeId) returned
  rw [undisturbed] at returned
  constructor
  · intro again
    cases request with
    | controllerPublishVolume r =>
      have answered : serve config (.controllerPublishVolume r) healthy (reached hosts schedule config) =
          (.ok reply, _) :=
        Prod.ext returned rfl
      obtain rfl := done_of_run answered
      exact (publish_again ok returned).mp (.of_same (again.redundant.trans answered))
    | _ => trivial
  · exact resumes_of_agrees resumes ok (Prod.ext returned rfl)

/-- A mounted volume. -/
def Sample.inPlace : List (Move (Config × Request) Call Fault) :=
  [.start (Sample.config, create "a" "/pv2/" "ext4" 7)] ++ steps 0 2 ++ [.start (Sample.config, publish "a" 7)] ++
    steps 1 2 ++ [.start (Sample.config, nodePublish "a" "/t" 7)] ++ steps 2 12

def Sample.enlarge : Request := .nodeExpandVolume ⟨"a", "/t", some ⟨3000000000, 0⟩⟩

theorem resent_expand :
    Resumes Sample.config Sample.enlarge
      (reached (fun _ => {}) Sample.inPlace Sample.config) := by
  have returned : (serve Sample.config Sample.enlarge healthy
      (reached (fun _ => {}) Sample.inPlace Sample.config)).1 = .ok (.expanded ⟨3000000000⟩) := by decide +kernel
  exact (resent_iff (fun _ => {}) Sample.inPlace rfl returned).mpr trivial

end Lvp
