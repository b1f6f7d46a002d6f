import Lvp.Capabilities
import Lvp.Effect.Protocol
import Lvp.Placement
import Lvp.Rpc

/-!
No failure is passed over. A request stops at its first call that fails and answers `internal`, and it answers
`internal` for nothing else; only the two calls that clean up after an unmount may fail unheard.
-/

namespace Lvp
open Unix Effect Csi

variable {ε ε' α β State Fate : Type} {config : Config}

/-- `losetup -d` and the removal of the mount point: their errors are logged and passed over. -/
def Call.tolerated : Call → Bool
  | .removeDir _ => true
  | .command ["chroot", "/chr", "losetup", "-d", _] => true
  | _ => false

/-- Calls whose errors are heeded, and that are no look for a path. -/
def Call.plain (call : Call) : Bool :=
  !call.tolerated && match call with
    | .tryExists _ => false
    | _ => true

/-- What the calls of a request so far amount to. `missing` is right after a path was looked for in vain. -/
inductive Watch where
  | running
  | missing (path : Path)
  | broken
  deriving DecidableEq

/-- A backing path that appears between the two looks for it counts as a failure. -/
def Watch.next (watch : Watch) : (call : Call) → call.Answer → Watch
  | .tryExists path, .ok present =>
    if present = true then (if watch = .missing path then .broken else .running) else .missing path
  | _, .ok _ => .running
  | call, .error _ => if call.tolerated then .running else .broken

/-- A failure is the last a request hears. -/
def watching : Protocol Call Call.Answer Watch :=
  fun watch call resume => watch ≠ .broken ∧ resume = watch.next call

/-- Goes on after calls that succeed, and raises its error right after one that does not. -/
def Stops (program : Action ε α) (watch : Watch) : Prop :=
  Follows watching program (fun _ watch => watch = .running) (fun _ watch => watch = .broken) watch

def Blames (status : Status) (watch : Watch) : Prop := status.code = .internal ↔ watch = .broken

/-- The same for a handler: `internal` is the answer to a failed call and to nothing else. -/
def Owns (program : Action Status α) (watch : Watch) : Prop :=
  Follows watching program (fun _ watch => watch = .running) Blames watch

theorem blames_internal (message : String) : Blames (.internal message) .broken := ⟨fun _ => rfl, fun _ => rfl⟩

theorem blames_other {status : Status} (other : status.code ≠ .internal) : Blames status .running :=
  ⟨fun internal => absurd internal other, nofun⟩

/-! ### Rules -/

theorem Stops.bind {program : Action ε α} {next : α → Action ε β} {watch : Watch} (first : Stops program watch)
    (rest : ∀ value, Stops (next value) .running) : Stops (program >>= next) watch := by
  refine Follows.bind first fun value after running => ?_
  rw [running]
  exact rest value

theorem Owns.bind {program : Action Status α} {next : α → Action Status β} {watch : Watch}
    (first : Owns program watch) (rest : ∀ value, Owns (next value) .running) : Owns (program >>= next) watch := by
  refine Follows.bind first fun value after running => ?_
  rw [running]
  exact rest value

theorem Stops.mapErr {program : Action ε α} {watch : Watch} (stops : Stops program watch) (message : String) :
    Owns (program.mapErr fun _ => Status.internal message) watch :=
  follows_mapErr.mpr (stops.weaken (fun _ _ running => running) fun _ _ broken => broken ▸ blames_internal message)

theorem owns_reject {condition : Prop} [Decidable condition] {status : Status} (other : status.code ≠ .internal) :
    Owns (Program.reject condition status) .running :=
  follows_reject.mpr ⟨fun _ => blames_other other, fun _ => rfl⟩

theorem owns_ofOption {result : Option α} {status : Status} (other : status.code ≠ .internal) :
    Owns (Program.ofOption status result) .running :=
  follows_ofOption.mpr ⟨fun _ => blames_other other, fun _ _ => rfl⟩

theorem owns_ofExcept {result : Except Status α}
    (other : ∀ status, result = .error status → status.code ≠ .internal) :
    Owns (Program.ofExcept result) .running :=
  follows_ofExcept.mpr ⟨fun status failed => blames_other (other status failed), fun _ _ => rfl⟩

theorem owns_pure (value : α) : Owns (pure value : Action Status α) .running := rfl

theorem stops_pure (value : α) : Stops (pure value : Action ε α) .running := rfl

theorem owns_raise {status : Status} (other : status.code ≠ .internal) :
    Owns (.raise status : Action Status α) .running := blames_other other

theorem owns_refuse {status : Option Status} (other : ∀ refused ∈ status, refused.code ≠ .internal) :
    Owns (refuse status) .running := by
  cases status with
  | none => exact owns_pure ()
  | some refused => exact owns_raise (other refused rfl)

theorem stops_call {call : Call} {watch : Watch} (plain : call.plain = true) (unbroken : watch ≠ .broken) :
    Stops (issue call) watch := by
  refine ⟨_, ⟨unbroken, rfl⟩, fun answer => ?_⟩
  cases answer with
  | ok value =>
    show watch.next call (.ok value) = .running
    cases call <;> first | rfl | cases plain
  | error failure =>
    show watch.next call (.error failure) = .broken
    have heeded : call.tolerated = false := by
      simp only [Call.plain, Bool.and_eq_true, Bool.not_eq_true'] at plain
      exact plain.1
    simp [Watch.next, heeded]

theorem Stops.issue {call : Call} (plain : call.plain = true) : Stops (Lvp.issue call) .running :=
  stops_call plain nofun

theorem Stops.run {command argv : List String} (trimmed : command.map trim = argv)
    (plain : Call.plain (.command argv) = true) : Stops (Lvp.run command) .running := by
  subst trimmed
  exact .issue plain

theorem owns_load (name message : String) :
    Owns ((Volume.load name).mapErr fun _ => Status.internal message) .running :=
  (Stops.issue rfl : Stops (Volume.load name) .running).mapErr message

theorem owns_loadVolume (volumeId : String) : Owns (loadVolume volumeId) .running :=
  (owns_load volumeId _).bind fun _ => owns_ofOption (by nofun)

theorem owns_update (volume : Volume) (message : String) :
    Owns (volume.update.mapErr fun _ => Status.internal message) .running :=
  (Stops.issue rfl : Stops volume.update .running).mapErr message

/-- The two calls that may fail unheard. -/
theorem owns_attempt {call : Call} (tolerated : call.tolerated = true) : Owns (issue call).attempt .running := by
  refine follows_attempt.mpr ⟨_, ⟨nofun, rfl⟩, fun answer => ?_⟩
  cases answer with
  | ok value =>
    show Watch.next .running call (.ok value) = .running
    cases call <;> first | rfl | cases tolerated
  | error failure =>
    show Watch.next .running call (.error failure) = .running
    simp [Watch.next, tolerated]

/-! ### The controller -/

theorem stops_create (volume : Volume) : Stops volume.create .running := by
  refine Stops.bind (.issue rfl) fun existing => ?_
  split
  · exact stops_pure _
  · exact Stops.bind (.issue rfl) fun _ => stops_pure _

theorem owns_createVolume (r : CreateVolumeRequest) : Owns (createVolume r) .running := by
  refine (owns_ofExcept fun status refused => ?_).bind fun volume => ?_
  · rw [newVolume_error refused]
    nofun
  · refine ((stops_create volume).mapErr _).bind fun creation => ?_
    cases creation with
    | success => exact owns_pure _
    | alreadyExists =>
      refine (owns_load _ _).bind fun found => (owns_ofOption (by nofun)).bind fun existing => ?_
      exact (owns_reject (by nofun)).bind fun _ => owns_pure _

theorem stops_removeBacking (filesystem : Filesystem) (path : Path) :
    Stops (removeBacking filesystem path) .running := by
  unfold removeBacking
  split
  · exact .issue rfl
  · exact .issue rfl

theorem owns_deleteVolume (r : DeleteVolumeRequest) : Owns (deleteVolume config r) .running := by
  refine (owns_reject (by nofun)).bind fun _ => (owns_load _ _).bind fun found => ?_
  cases found with
  | none => exact owns_pure ()
  | some volume =>
    refine (owns_reject (by nofun)).bind fun _ => ((stops_removeBacking _ _).mapErr _).bind fun _ => ?_
    exact (Stops.issue rfl : Stops volume.delete .running).mapErr _

theorem lockedElsewhere_other {volume : Volume} {node : String} :
    ∀ refused ∈ lockedElsewhere volume node, refused.code ≠ .internal := by
  intro refused locked
  unfold lockedElsewhere at locked
  split at locked
  · split at locked
    · cases locked
      nofun
    · cases locked
  · cases locked

theorem owns_parse (capability : VolumeCapability) :
    Owns (Program.ofExcept (parseVolumeCapability capability)) .running := by
  refine owns_ofExcept fun status refused => ?_
  rw [parseVolumeCapability_error refused]
  nofun

theorem owns_controllerPublishVolume (r : ControllerPublishVolumeRequest) :
    Owns (controllerPublishVolume r) .running := by
  refine (owns_reject (by nofun)).bind fun _ => (owns_reject (by nofun)).bind fun _ =>
    (owns_reject (by nofun)).bind fun _ => ?_
  refine (owns_loadVolume _).bind fun volume => (owns_refuse lockedElsewhere_other).bind fun _ => ?_
  refine (owns_ofOption (by nofun)).bind fun capability => (owns_parse capability).bind fun parsed => ?_
  cases volume.state with
  | nodePublished => exact owns_raise (by nofun)
  | controllerPublished => exact owns_reject (by nofun)
  | «open» => exact (owns_reject (by nofun)).bind fun _ => owns_update _ _

theorem owns_controllerUnpublishVolume (r : ControllerUnpublishVolumeRequest) :
    Owns (controllerUnpublishVolume r) .running := by
  refine (owns_reject (by nofun)).bind fun _ => (owns_load _ _).bind fun found => ?_
  cases found with
  | none => exact owns_pure ()
  | some volume =>
    dsimp only
    cases volume.state with
    | nodePublished => exact owns_raise (by nofun)
    | «open» => exact owns_pure ()
    | controllerPublished => exact owns_update _ _

/-! ### The node -/

section Publish
variable {volume : Volume}

theorem stops_createParent {path : Path} {watch : Watch} (unbroken : watch ≠ .broken) :
    Follows watching (createParent path) (fun _ watch => watch ≠ .broken)
      (fun _ watch => watch = .broken) watch := by
  unfold createParent
  split
  · refine Follows.weaken (stops_call rfl unbroken) (fun _ _ running => ?_) fun _ _ broken => broken
    rw [running]
    nofun
  · exact unbroken

theorem stops_format (filesystem : Filesystem) (path : Path) : Stops (format filesystem path) .running := by
  cases filesystem with
  | ext4 => exact Stops.bind (.issue rfl) fun _ => stops_pure ()
  | xfs => exact Stops.bind (.issue rfl) fun _ => stops_pure ()
  | bind => exact stops_pure ()

/-- Looks for the path a second time. -/
theorem stops_makeVolume (path : Path) (size : UInt64) (filesystem : Filesystem) :
    Stops (makeVolume path size filesystem) (.missing path) := by
  refine ⟨_, ⟨nofun, rfl⟩, fun answer => ?_⟩
  cases answer with
  | error failure => exact rfl
  | ok present =>
    cases present with
    | true =>
      show Watch.next (.missing path) (.tryExists path) (.ok true) = .broken
      simp [Watch.next]
    | false =>
      show Stops (if filesystem = .bind then _ else _) (.missing path)
      split
      · exact stops_call rfl nofun
      · have parent : Follows watching (createParent path) (fun _ watch => watch ≠ .broken)
            (fun _ watch => watch = .broken) (.missing path) := stops_createParent nofun
        refine Follows.bind parent fun _ watch unbroken => ?_
        refine Stops.bind (stops_call rfl unbroken) fun _ => ?_
        exact Stops.bind (.issue rfl) fun _ => stops_format _ _

theorem owns_ensureBacking : Owns (ensureBacking config volume) .running := by
  refine follows_bind.mpr (follows_mapErr.mpr ⟨_, ⟨nofun, rfl⟩, fun answer => ?_⟩)
  cases answer with
  | error failure => exact blames_internal _
  | ok present =>
    cases present with
    | true => exact rfl
    | false =>
      refine Owns.bind ((stops_makeVolume _ _ _).mapErr _) fun _ => ?_
      exact (owns_update _ _).bind fun _ => owns_pure _

theorem stops_loopFor (device : Option Path) (source : Path) : Stops (loopFor device source) .running := by
  cases device with
  | some device => exact stops_pure device
  | none => exact .run (trim_chroot _) rfl

theorem stops_mountVolume (device : Option Path) (source target : Path) (readonly : Bool)
    (filesystem : Filesystem) :
    Stops (mountVolume device source target readonly filesystem) .running := by
  unfold mountVolume
  split
  · refine Stops.bind (.run (trim_mountCommand _ _ _ _) ?_) fun _ => stops_pure none
    cases readonly <;> rfl
  · refine Stops.bind (stops_loopFor _ _) fun device => Stops.bind (.run (trim_chroot _) ?_) fun _ => stops_pure _
    rw [trim_mountCommand]
    cases readonly <;> rfl

theorem owns_admitPublish (requested : VolumeConfig) (target : Path) :
    Owns (admitPublish volume requested target) .running := by
  unfold admitPublish
  cases volume.state with
  | «open» => exact owns_raise (by nofun)
  | controllerPublished => exact owns_pure ()
  | nodePublished =>
    cases volume.publishedConfig with
    | none => exact owns_pure ()
    | some config => exact (owns_reject (by nofun)).bind fun _ => owns_reject (by nofun)

theorem owns_nodePublishVolume (r : NodePublishVolumeRequest) : Owns (nodePublishVolume config r) .running := by
  refine (owns_reject (by nofun)).bind fun _ => (owns_reject (by nofun)).bind fun _ => ?_
  refine (owns_ofOption (by nofun)).bind fun capability => (owns_parse capability).bind fun parsed => ?_
  refine (owns_loadVolume _).bind fun volume => (owns_reject (by nofun)).bind fun _ => ?_
  refine (owns_refuse lockedElsewhere_other).bind fun _ => (owns_admitPublish _ _).bind fun _ => ?_
  split
  · exact owns_pure ()
  · refine Owns.bind (Stops.mapErr (.issue rfl) _) fun _ => owns_ensureBacking.bind fun backed => ?_
    exact ((stops_mountVolume _ _ _ _ _).mapErr _).bind fun _ => owns_update _ _

end Publish

theorem stops_unmountVolume (target : Path) : Stops (unmountVolume target) .running :=
  Stops.bind (.run (trim_chroot _) rfl) fun _ => stops_pure ()

theorem owns_releaseLoop (before after : Volume) : Owns (releaseLoop before after) .running := by
  unfold releaseLoop
  split
  · rename_i device _ _
    refine Owns.bind ?_ fun _ => owns_pure ()
    refine follows_attempt.mpr (follows_bind.mpr ?_)
    have detach : Owns (runInChroot ["losetup", "-d", device]).attempt .running := by
      rw [runInChroot, run, trim_chroot]
      exact owns_attempt rfl
    exact follows_attempt.mp detach
  · exact owns_pure ()

theorem owns_nodeUnpublishVolume (r : NodeUnpublishVolumeRequest) : Owns (nodeUnpublishVolume r) .running := by
  refine (owns_reject (by nofun)).bind fun _ => (owns_reject (by nofun)).bind fun _ => ?_
  refine (owns_loadVolume _).bind fun volume => ?_
  split
  · exact owns_pure ()
  · refine ((stops_unmountVolume _).mapErr _).bind fun _ => (owns_releaseLoop _ _).bind fun _ => ?_
    exact (owns_update _ _).bind fun _ => (owns_attempt rfl).bind fun _ => owns_pure ()

theorem stops_growFilesystem (filesystem : Filesystem) (device : Path) :
    Stops (growFilesystem filesystem device) .running := by
  cases filesystem with
  | ext4 => exact Stops.bind (.run rfl rfl) fun _ => stops_pure ()
  | xfs => exact Stops.bind (.run rfl rfl) fun _ => stops_pure ()
  | bind => exact stops_pure ()

theorem stops_expandVolume (source device : Path) (size : UInt64) (filesystem : Filesystem) :
    Stops (expandVolume source device size filesystem) .running := by
  unfold expandVolume
  split
  · exact stops_pure ()
  · refine Stops.bind (.issue rfl) fun _ => Stops.bind (.issue rfl) fun _ => ?_
    exact Stops.bind (.run (trim_chroot _) rfl) fun _ => stops_growFilesystem _ _

theorem owns_nodeExpandVolume (r : NodeExpandVolumeRequest) : Owns (nodeExpandVolume config r) .running := by
  refine (owns_reject (by nofun)).bind fun _ => (owns_reject (by nofun)).bind fun _ => ?_
  refine (owns_loadVolume _).bind fun volume => (owns_reject (by nofun)).bind fun _ => ?_
  dsimp only
  split
  · exact owns_pure _
  · refine (owns_ofOption (by nofun)).bind fun device => ((stops_expandVolume _ _ _ _).mapErr _).bind fun _ => ?_
    exact (owns_update _ _).bind fun _ => owns_pure _

theorem owns_handle (request : Request) : Owns (handle config request) .running := by
  cases request with
  | createVolume r => exact (owns_createVolume r).bind fun _ => owns_pure _
  | deleteVolume r => exact (owns_deleteVolume r).bind fun _ => owns_pure _
  | controllerPublishVolume r => exact (owns_controllerPublishVolume r).bind fun _ => owns_pure _
  | controllerUnpublishVolume r => exact (owns_controllerUnpublishVolume r).bind fun _ => owns_pure _
  | nodePublishVolume r => exact (owns_nodePublishVolume r).bind fun _ => owns_pure _
  | nodeUnpublishVolume r => exact (owns_nodeUnpublishVolume r).bind fun _ => owns_pure _
  | nodeExpandVolume r => exact (owns_nodeExpandVolume r).bind fun _ => owns_pure _

/-! ### The reports -/

theorem validateCapability_error {volume : Volume} {capability : VolumeCapability} {status : Status}
    (refused : validateCapability volume capability = .error status) : status.code ≠ .internal := by
  unfold validateCapability at refused
  cases parsed : parseVolumeCapability capability with
  | error error =>
    rw [parsed] at refused
    cases refused
    rw [parseVolumeCapability_error parsed]
    nofun
  | ok value =>
    rw [parsed] at refused
    simp only [bind, Except.bind] at refused
    split at refused
    · cases refused
      nofun
    · cases refused

theorem validateAll_error {volume : Volume} {capabilities : List VolumeCapability} {status : Status}
    (refused : forM capabilities (validateCapability volume) = .error status) : status.code ≠ .internal := by
  induction capabilities with
  | nil => cases refused
  | cons first rest ih =>
    rw [List.forM_cons] at refused
    cases checked : validateCapability volume first with
    | error error =>
      rw [checked] at refused
      cases refused
      exact validateCapability_error checked
    | ok value =>
      rw [checked] at refused
      exact ih refused

theorem owns_validateVolumeCapabilities (r : ValidateVolumeCapabilitiesRequest) :
    Owns (validateVolumeCapabilities r) .running := by
  refine (owns_reject (by nofun)).bind fun _ => (owns_reject (by nofun)).bind fun _ => ?_
  refine (owns_loadVolume _).bind fun volume => (owns_ofExcept fun status refused => ?_).bind fun _ => owns_pure _
  exact validateAll_error refused

theorem owns_listVolumes (r : ListVolumesRequest) : Owns (listVolumes r) .running := by
  have list : Stops Volume.list .running := .issue rfl
  exact (list.mapErr _).bind fun volumes => (owns_reject (by nofun)).bind fun _ => owns_pure _

theorem stops_statfs (path : Path) : Stops (statfs path) .running := Stops.bind (.issue rfl) fun _ => stops_pure _

theorem owns_getCapacity (r : GetCapacityRequest) : Owns (getCapacity config r) .running := by
  refine (owns_reject (by nofun)).bind fun _ => (owns_ofExcept fun status refused => ?_).bind fun base => ?_
  · have invalid : status.code = .invalidArgument := foldlM_error (fun _ _ _ => readCapacityParameter_error) refused
    rw [invalid]
    nofun
  · cases base with
    | none => exact owns_pure _
    | some base => exact ((stops_statfs base).mapErr _).bind fun _ => owns_pure _

theorem owns_controllerGetVolume (r : ControllerGetVolumeRequest) : Owns (controllerGetVolume r) .running :=
  (owns_reject (by nofun)).bind fun _ => (owns_loadVolume _).bind fun _ => owns_pure _

theorem owns_nodeGetVolumeStats (r : NodeGetVolumeStatsRequest) : Owns (nodeGetVolumeStats r) .running := by
  refine (owns_reject (by nofun)).bind fun _ => (owns_reject (by nofun)).bind fun _ => ?_
  refine (owns_loadVolume _).bind fun volume => (owns_reject (by nofun)).bind fun _ => ?_
  exact ((stops_statfs _).mapErr _).bind fun _ => owns_pure _

def Refusal.Internal : Refusal → Prop
  | .status reason => reason.code = .internal
  | .unimplemented _ => False

/-- `Owns` for the whole surface. -/
def OwnsRpc (program : Action Refusal α) : Prop :=
  Follows watching program (fun _ watch => watch = .running)
    (fun refusal watch => refusal.Internal ↔ watch = .broken) .running

theorem Owns.answered {program : Action Status α} {reply : α → RpcReply} (owns : Owns program .running) :
    OwnsRpc (answered reply program) :=
  Follows.bind (follows_mapErr.mpr (owns.weaken (fun _ _ running => running) fun _ _ blames => blames))
    fun _ _ running => running

theorem owns_handleRpc (config : Config) (rpc : Rpc) : OwnsRpc (handleRpc config rpc) := by
  have refused : ∀ message, Refusal.Internal (.unimplemented message) ↔ Watch.running = .broken :=
    fun message => ⟨False.elim, nofun⟩
  cases rpc with
  | lifecycle request => exact (owns_handle request).answered
  | validateVolumeCapabilities request => exact (owns_validateVolumeCapabilities request).answered
  | listVolumes request => exact (owns_listVolumes request).answered
  | getCapacity request => exact (owns_getCapacity request).answered
  | controllerGetVolume request => exact (owns_controllerGetVolume request).answered
  | nodeGetVolumeStats request => exact (owns_nodeGetVolumeStats request).answered
  | createSnapshot | deleteSnapshot | listSnapshots | controllerExpandVolume | nodeStageVolume | nodeUnstageVolume =>
    exact refused _
  | _ => rfl

/-! ### Runs -/

/-- The path a call looked for, and whether it was there. -/
def looked : Event Call Call.Answer State Fate → Option (Path × Bool)
  | ⟨_, .tryExists path, _, .ok present⟩ => some (path, present)
  | _ => none

/-- A call that failed and is not one of the two that may, or that found the path missed just before. -/
def Breaks (before : List (Event Call Call.Answer State Fate)) (event : Event Call Call.Answer State Fate) : Prop :=
  ((∃ failure, event.answer = .error failure) ∧ event.op.tolerated = false) ∨
    ∃ path, before.getLast?.bind looked = some (path, false) ∧ looked event = some (path, true)

def Event.advance (watch : Watch) (event : Event Call Call.Answer State Fate) : Watch :=
  watch.next event.op event.answer

def watched (events : List (Event Call Call.Answer State Fate)) : Watch := events.foldl Event.advance .running

theorem watched_snoc (before : List (Event Call Call.Answer State Fate))
    (event : Event Call Call.Answer State Fate) :
    watched (before ++ [event]) = Event.advance (watched before) event := by
  rw [watched, List.foldl_append]
  rfl

theorem advance_missing {watch : Watch} {event : Event Call Call.Answer State Fate} {path : Path} :
    Event.advance watch event = .missing path ↔ looked event = some (path, false) := by
  obtain ⟨state, op, fate, answer⟩ := event
  cases answer with
  | error failure =>
    simp only [Event.advance, Watch.next, looked]
    split <;> simp
  | ok value =>
    cases op with
    | tryExists other =>
      cases value with
      | false => simp [Event.advance, Watch.next, looked]
      | true =>
        simp only [Event.advance, Watch.next, looked, if_true]
        split <;> simp
    | _ => simp [Event.advance, Watch.next, looked]

theorem watched_missing {before : List (Event Call Call.Answer State Fate)} {path : Path} :
    watched before = .missing path ↔ before.getLast?.bind looked = some (path, false) := by
  induction before using List.reverseRecOn with
  | nil => simp [watched]
  | append_singleton before event => rw [watched_snoc, advance_missing, List.getLast?_concat]; rfl

theorem watched_broken (before : List (Event Call Call.Answer State Fate))
    (event : Event Call Call.Answer State Fate) :
    watched (before ++ [event]) = .broken ↔ Breaks before event := by
  rw [watched_snoc, Breaks]
  obtain ⟨state, op, fate, answer⟩ := event
  cases answer with
  | error failure => cases tolerated : op.tolerated <;> simp [Event.advance, Watch.next, looked, tolerated]
  | ok value =>
    cases op with
    | tryExists path =>
      cases value with
      | false => simp [Event.advance, Watch.next, looked]
      | true => simp [Event.advance, Watch.next, looked, ← watched_missing]
    | _ => simp [Event.advance, Watch.next, looked]

/-- The watch over a request is what its calls so far amount to. -/
def Recalls (watch : Watch) (past : List (Event Call Call.Answer State Fate)) (_ : State) : Prop :=
  watch = watched past

/-- Any environment will do. -/
def Whatever (_ : List (Event Call Call.Answer State Fate)) (_ : Event Call Call.Answer State Fate) : Prop := True

section Run
variable (exec : Fate → State → (call : Call) → call.Answer × State) (oracle : Oracle Call Fate) (state : State)

variable {state} in
theorem recalls_step {watch : Watch} {past : List (Event Call Call.Answer State Fate)} {call : Call}
    {resume : call.Answer → Watch} {fate : Fate} (recalls : Recalls watch past state)
    (issued : watching watch call resume) (_ : Whatever past (event exec state call fate)) :
    Recalls (resume (exec fate state call).1) (past ++ [event exec state call fate]) (exec fate state call).2 := by
  rw [Recalls, watched_snoc, ← show watch = watched past from recalls, issued.2]
  rfl

theorem watched_run {program : Action Refusal α} (owns : OwnsRpc program) :
    ((∃ refusal, (program.run exec oracle state).1 = .error refusal ∧ refusal.Internal) ↔
      watched (program.trace exec oracle state) = .broken) ∧
    ∀ before event after, program.trace exec oracle state = before ++ event :: after →
      watched before ≠ .broken := by
  have permitted : ∀ before event after, program.trace exec oracle state = before ++ event :: after →
      Whatever ([] ++ before) event := fun _ _ _ _ => trivial
  obtain ⟨⟨last, ended, recalls⟩, visited⟩ :=
    Follows.run (recalls_step exec) owns (rfl : Recalls .running [] state) permitted
  rw [List.nil_append] at recalls
  refine ⟨?_, fun before event after split => ?_⟩
  · rw [← show last = watched _ from recalls]
    cases result : (program.run exec oracle state).1 with
    | ok value =>
      rw [result] at ended
      have running : last = .running := ended
      simp [running]
    | error refusal =>
      rw [result] at ended
      have blames : refusal.Internal ↔ last = .broken := ended
      simp [blames]
  · obtain ⟨now, resume, ⟨unbroken, -⟩, recalls⟩ := visited before event after split
    exact fun broken => unbroken (recalls.trans broken)

end Run

/-- In any environment: a request answers `internal` exactly when its last call broke it off, and no call
before the last ever did. -/
theorem failures_answered (config : Config) (rpc : Rpc) (exec : Fate → State → (call : Call) → call.Answer × State)
    (oracle : Oracle Call Fate) (state : State) :
    ((∃ refusal, ((handleRpc config rpc).run exec oracle state).1 = .error refusal ∧ refusal.Internal) ↔
      ∃ before last, (handleRpc config rpc).trace exec oracle state = before ++ [last] ∧ Breaks before last) ∧
    ∀ before event after, (handleRpc config rpc).trace exec oracle state = before ++ event :: after →
      Breaks before event → after = [] := by
  obtain ⟨ends, unbroken⟩ := watched_run exec oracle state (owns_handleRpc config rpc)
  rw [ends]
  constructor
  · cases (handleRpc config rpc).trace exec oracle state using List.reverseRecOn with
    | nil => simp [watched]
    | append_singleton before last =>
      rw [watched_broken]
      refine ⟨fun breaks => ⟨before, last, rfl, breaks⟩, ?_⟩
      rintro ⟨_, _, same, breaks⟩
      obtain ⟨rfl, rfl⟩ := List.append_singleton_inj.mp same
      exact breaks
  · intro before event after split breaks
    cases after with
    | nil => rfl
    | cons next rest =>
      refine absurd ((watched_broken before event).mpr breaks) (unbroken (before ++ [event]) next rest ?_)
      rw [split, List.append_assoc]
      rfl

end Lvp
