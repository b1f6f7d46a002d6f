import Lvp.Reconciliation
import Lvp.Sequence
import Lvp.Unix.Mounts

/-!
Only completely made volumes are mounted. NodePublishVolume makes a volume when nothing is at its path,
so whatever is there has to come from a make of that volume that went through.
-/

namespace Lvp
open Unix Effect Csi

variable {config : Config} {request : Request} {world after : World} {phase : Phase} {past : History}
  {name : String} {volume written : Volume}

/-! ### What a history says about a volume -/

/-- A `make_volume` on the path of the volume, with the size then recorded, that returned Ok: the calls
it made. -/
def Makes (config : Config) (request : Request) (volume : Volume) (events : List CallEvent) : Prop :=
  ∃ world oracle recorded, world.store.lookup (volumeKey request.volumeId) = some recorded ∧
    recorded.hostPath = volume.hostPath ∧ recorded.filesystem = volume.filesystem ∧
    ((makeVolume (publishPath config recorded) recorded.size recorded.filesystem).run
      (execFor request) oracle world).1 = .ok () ∧
    (makeVolume (publishPath config recorded) recorded.size recorded.filesystem).trace
      (execFor request) oracle world = events

/-- The volume was made while serving NodePublishVolume, and its record has not been created anew since. -/
def MadeSince (config : Config) (past : History) (name : String) (volume : Volume) : Prop :=
  ∃ before r events later, past = before ++ events.map (Request.nodePublishVolume r, ·) ++ later ∧
    r.volumeId = name ∧ Makes config (.nodePublishVolume r) volume events ∧
    ∀ entry ∈ later, ∀ record, entry.2.op ≠ .create (volumeKey name) record

/-- The calls `mount_volume` hands the backing path or its device to. -/
def Call.hands : Call → Bool
  | .command argv => match deed argv with
    | .attaches | .mounts _ => true
    | _ => false
  | _ => false

/-- Whatever is handed to `mount_volume` has been made before. -/
def MadeFirst (config : Config) (history : History) : Prop :=
  Throughout (fun past entry => ∀ r volume, entry.1 = .nodePublishVolume r → entry.2.op.hands →
    entry.2.world.store.lookup (volumeKey r.volumeId) = some volume →
      MadeSince config past r.volumeId volume) history

/-! ### What may not happen -/

def Present (config : Config) (volume : Volume) (host : Host) : Prop :=
  host.tryExists (publishPath config volume) = .ok true

instance (config : Config) (volume : Volume) (host : Host) : Decidable (Present config volume host) :=
  inferInstanceAs (Decidable (_ = _))

/-- The call of `make_volume` that brings the path into being. -/
def placement (config : Config) (volume : Volume) : Call :=
  if volume.filesystem = .bind then .createDirAll (publishPath config volume)
  else .createFile (publishPath config volume)

/-- `make_volume` has placed the path of the volume, and knows. -/
def Places (config : Config) (volume : Volume) : Request × CallEvent → Prop
  | (.nodePublishVolume r, entry) => entry.world.store.lookup (volumeKey r.volumeId) = some volume ∧
      entry.op = placement config volume ∧ entry.op ≠ .createDirAll r.targetPath ∧ entry.answer.isOk
  | _ => False

def Call.formats : Call → Bool
  | .command argv => argv.head? = some "mkfs.ext4" ∨ argv.head? = some "mkfs.xfs"
  | _ => false

/-- The calls of `make_volume` that follow the placement. -/
def Call.completes : Call → Bool
  | .ftruncate _ _ => true
  | call => call.formats

structure Undisturbed (config : Config) (entry : Request × CallEvent) : Prop where
  /-- Nothing is at the path of a new volume. -/
  fresh : ∀ key volume, entry.2.op = .create key volume → ¬Present config volume entry.2.world.host
  /-- Nothing but its own `make_volume` places anything at the path of a volume. -/
  alone : ∀ name volume, entry.2.world.store.lookup (volumeKey name) = some volume →
    ¬Present config volume entry.2.world.host →
    Present config volume (execFor entry.1 entry.2.fault entry.2.world entry.2.op).2.host →
    entry.1.volumeId = name ∧ Places config volume entry
  /-- What `make_volume` has placed it also completes. -/
  completed : ∀ r, entry.1 = .nodePublishVolume r → entry.2.op.completes → entry.2.answer.isOk

/-! ### The invariant -/

/-- What is left of `make_volume` at a stage. -/
def remaining (config : Config) (volume : Volume) : Stage → Option (Action Failure Unit)
  | .clear => some (if volume.filesystem = .bind then issue (.createDirAll (publishPath config volume)) else do
      createParent (publishPath config volume)
      let _ ← issue (.createFile (publishPath config volume))
      let _ ← issue (.ftruncate (publishPath config volume) volume.size.toInt64)
      format volume.filesystem (publishPath config volume))
  | .housed => some (do
      let _ ← issue (.createFile (publishPath config volume))
      let _ ← issue (.ftruncate (publishPath config volume) volume.size.toInt64)
      format volume.filesystem (publishPath config volume))
  | .created => some (do
      let _ ← issue (.ftruncate (publishPath config volume) volume.size.toInt64)
      format volume.filesystem (publishPath config volume))
  | .sized => some (format volume.filesystem (publishPath config volume))
  | _ => none

/-- The history ends with the first calls of `make_volume`, up to a point where `rest` is left of it. -/
def Partly (config : Config) (request : Request) (volume : Volume) (past : History) (world : World)
    (rest : Action Failure Unit) : Prop :=
  ∃ before events start, past = before ++ events.map (request, ·) ∧
    start.store.lookup (volumeKey request.volumeId) = some volume ∧
    Steps (execFor request) (makeVolume (publishPath config volume) volume.size volume.filesystem)
      start events rest world

def Stage.backs : Stage → Bool
  | .made | .backed | .attached _ | .mounted _ => true
  | _ => false

/-- The stages at which the path is there but not ready. -/
def Stage.making : Stage → Bool
  | .created | .sized => true
  | _ => false

def Busy : Request → Phase → Prop
  | .nodePublishVolume _, .on _ stage => stage.making
  | _, _ => False

/-- Everything at the path of a stored volume is made, but for what the request is making. -/
def Clean (config : Config) (request : Request) (phase : Phase) (past : History) (world : World) : Prop :=
  ∀ name volume, world.store.lookup (volumeKey name) = some volume → Present config volume world.host →
    MadeSince config past name volume ∨ request.volumeId = name ∧ Busy request phase

structure Tracked (config : Config) (request : Request) (phase : Phase) (past : History)
    (world : World) : Prop where
  clean : Clean config request phase past world
  partly : ∀ r volume stage, request = .nodePublishVolume r → phase = .on volume stage →
    ∀ rest ∈ remaining config volume stage, Partly config request volume past world rest
  backed : ∀ r volume stage, request = .nodePublishVolume r → phase = .on volume stage → stage.backs →
    MadeSince config past r.volumeId volume

theorem Stage.not_making {stage : Stage} (backs : stage.backs) : stage.making = false := by
  cases stage <;> first | rfl | cases backs

theorem remaining_none {stage : Stage} (backs : stage.backs) : remaining config volume stage = none := by
  cases stage <;> first | rfl | cases backs

theorem MadeSince.snoc {entry : Request × CallEvent} (made : MadeSince config past name volume)
    (kept : ∀ record, entry.2.op ≠ .create (volumeKey name) record) :
    MadeSince config (past ++ [entry]) name volume := by
  obtain ⟨before, r, events, later, rfl, named, makes, same⟩ := made
  refine ⟨before, r, events, later ++ [entry], by simp only [List.append_assoc], named, makes, ?_⟩
  exact List.forall_mem_append.mpr ⟨same, by simpa using kept⟩

theorem MadeSince.origin (made : MadeSince config past name volume) (hostPath : written.hostPath = volume.hostPath)
    (filesystem : written.filesystem = volume.filesystem) : MadeSince config past name written := by
  obtain ⟨before, r, events, later, split, named, makes, same⟩ := made
  refine ⟨before, r, events, later, split, named, ?_, same⟩
  obtain ⟨world, oracle, recorded, held, path, format, made⟩ := makes
  exact ⟨world, oracle, recorded, held, path.trans hostPath.symm, format.trans filesystem.symm, made⟩

theorem Partly.snoc {call : Call} {next : call.Answer → Action Failure Unit} (fault : Fault)
    (partly : Partly config request volume past world (.call call next)) :
    Partly config request volume (past ++ [entry request world call fault])
      (execFor request fault world call).2 (next (execFor request fault world call).1) := by
  obtain ⟨before, events, start, rfl, held, steps⟩ := partly
  refine ⟨before, _, start, ?_, held, steps.snoc fault rfl⟩
  rw [List.map_append, List.append_assoc]
  rfl

theorem Partly.made {r : NodePublishVolumeRequest}
    (partly : Partly config (.nodePublishVolume r) volume past world (.ret ())) :
    MadeSince config past r.volumeId volume := by
  obtain ⟨before, events, start, rfl, held, steps⟩ := partly
  obtain ⟨oracle, ran, traced⟩ := steps.returned healthy rfl
  refine ⟨before, r, events, [], (List.append_nil _).symm, rfl, ?_, by simp⟩
  exact ⟨start, oracle, volume, held, rfl, rfl, by rw [ran], traced⟩

/-! ### One call -/

theorem clean_host {call : Call} {next : Phase} {fault : Fault} (onHost : call.onStore = false)
    (clean : Clean config request phase past world)
    (undisturbed : Undisturbed config (entry request world call fault))
    (places : ∀ volume, Places config volume (entry request world call fault) →
      MadeSince config (past ++ [entry request world call fault]) request.volumeId volume ∨
        Busy request next)
    (busy : ∀ volume, world.store.lookup (volumeKey request.volumeId) = some volume → Busy request phase →
      MadeSince config (past ++ [entry request world call fault]) request.volumeId volume ∨
        Busy request next) :
    Clean config request next (past ++ [entry request world call fault])
      (execFor request fault world call).2 := by
  intro name volume held present
  rw [exec_host onHost] at held
  have other : ∀ record, call ≠ .create (volumeKey name) record := by
    rintro record rfl
    cases onHost
  by_cases before : Present config volume world.host
  · rcases clean name volume held before with made | ⟨rfl, making⟩
    · exact Or.inl (made.snoc other)
    · exact (busy volume held making).imp_right fun later => ⟨rfl, later⟩
  · obtain ⟨own, placed⟩ := undisturbed.alone name volume held before present
    subst own
    exact (places volume placed).imp_right fun later => ⟨rfl, later⟩

theorem clean_same {call : Call} {next : Phase} {fault : Fault} (clean : Clean config request phase past world)
    (same : (execFor request fault world call).2 = world) (other : ∀ key record, call ≠ .create key record)
    (idle : ¬Busy request phase) :
    Clean config request next (past ++ [entry request world call fault])
      (execFor request fault world call).2 := by
  intro name volume held present
  rw [same] at held present
  rcases clean name volume held present with made | ⟨-, making⟩
  · exact Or.inl (made.snoc fun record => other _ record)
  · exact absurd making idle

/-- Nothing to say about the stage yet. -/
def Plain (config : Config) (request : Request) (next : Phase) : Prop :=
  ∀ r volume stage, request = .nodePublishVolume r → next = .on volume stage →
    remaining config volume stage = none ∧ stage.backs = false

theorem Tracked.plain {next : Phase} (clean : Clean config request next past world)
    (plain : Plain config request next) : Tracked config request next past world where
  clean := clean
  partly r volume stage publish on rest left := by
    rw [(plain r volume stage publish on).1] at left
    cases left
  backed r volume stage publish on backs := by
    rw [(plain r volume stage publish on).2] at backs
    cases backs

theorem not_places {call : Call} {fault : Fault} (apart : ∀ r, request = .nodePublishVolume r →
      (∀ path, call ≠ .createFile path) ∧ ∀ path, path ≠ r.targetPath → call ≠ .createDirAll path) :
    ¬Places config volume (entry request world call fault) := by
  cases request with
  | nodePublishVolume r =>
    intro places
    obtain ⟨-, placement, mountpoint, -⟩ := places
    have placed : call = _ := placement
    unfold Lvp.placement at placed
    split at placed
    · by_cases target : publishPath config volume = r.targetPath
      · rw [target] at placed
        exact mountpoint placed
      · exact (apart r rfl).2 _ target placed
    · exact (apart r rfl).1 _ placed
  | _ => exact id

theorem plain_stage {stage : Stage} (left : remaining config volume stage = none) (backs : stage.backs = false) :
    Plain config request (.on volume stage) := by
  rintro _ _ _ _ ⟨⟩
  exact ⟨left, backs⟩

theorem plain_through {α : Type} {next : α → Phase} (plain : ∀ value, Plain config request (next value))
    (answer : Except Failure α) : Plain config request (through next answer) := by
  cases answer with
  | ok value => exact plain value
  | error failure => rintro _ _ _ _ ⟨⟩

theorem plain_found (result : Option Volume) : Plain config request (found result) := by
  cases result with
  | some volume => exact plain_stage rfl rfl
  | none => rintro _ _ _ _ ⟨⟩

namespace Tracked
variable {fault : Fault}

/-- A host call that does not belong to `make_volume`. -/
theorem quiet {call : Call} {resume : call.Answer → Phase} (tracked : Tracked config request phase past world)
    (onHost : call.onStore = false) (idle : ¬Busy request phase)
    (undisturbed : Undisturbed config (entry request world call fault))
    (apart : ∀ r, request = .nodePublishVolume r →
      (∀ path, call ≠ .createFile path) ∧ ∀ path, path ≠ r.targetPath → call ≠ .createDirAll path)
    (plain : ∀ answer, Plain config request (resume answer)) :
    Afterwards (Tracked config) request past world call resume fault :=
  .plain (clean_host onHost tracked.clean undisturbed (fun _ placed => absurd placed (not_places apart))
    fun _ _ busy => absurd busy idle) (plain _)

theorem loaded {key : String} (tracked : Tracked config request phase past world) (idle : ¬Busy request phase) :
    Afterwards (Tracked config) request past world (.getOpt key) (through found) fault := by
  refine .plain (clean_same tracked.clean ?_ (by rintro _ _ ⟨⟩) idle) (plain_through plain_found _)
  cases fault <;> rfl

theorem clean_patch {next : Phase} (clean : Clean config request phase past world)
    (held : world.store.lookup (volumeKey request.volumeId) = some volume)
    (own : written.key = volumeKey request.volumeId) (hostPath : written.hostPath = volume.hostPath)
    (filesystem : written.filesystem = volume.filesystem) (idle : ¬Busy request phase) :
    Clean config request next (past ++ [entry request world (.patch written.key written) fault])
      (execFor request fault world (.patch written.key written)).2 := by
  have kept : ∀ name volume, world.store.lookup (volumeKey name) = some volume → Present config volume world.host →
      MadeSince config (past ++ [entry request world (.patch written.key written) fault]) name volume := by
    intro name volume held present
    rcases clean name volume held present with made | ⟨-, busy⟩
    · exact made.snoc (by rintro _ ⟨⟩)
    · exact absurd busy idle
  have recorded : Clean config request next
      (past ++ [entry request world (.patch written.key written) fault])
      { world with store := world.store.insert (volumeKey request.volumeId) written } := by
    intro name other lookup present
    by_cases same : name = request.volumeId
    · subst same
      rw [AList.lookup_insert] at lookup
      cases lookup
      refine Or.inl ((kept _ volume held ?_).origin hostPath filesystem)
      rw [Present, publishPath, hostPath] at present
      exact present
    · rw [AList.lookup_insert_ne fun equal => same (volumeKey_injective equal)] at lookup
      exact Or.inl (kept name other lookup present)
  rw [own] at recorded ⊢
  rw [patch_present held]
  cases fault with
  | none => exact recorded
  | fails => exact fun name volume held present => Or.inl (own ▸ kept name volume held present)
  | lost => exact recorded

theorem created {r : CreateVolumeRequest} (built : newVolume r = .ok volume)
    (tracked : Tracked config (.createVolume r) .missing past world)
    (absent : world.store.lookup (volumeKey r.name) = none)
    (undisturbed : Undisturbed config (entry (.createVolume r) world (.create volume.key volume) fault)) :
    Afterwards (Clean config) (.createVolume r) past world (.create volume.key volume)
      (through (fun _ => .on volume .saved)) fault := by
  unfold Afterwards
  have own : volume.key = volumeKey r.name := congrArg volumeKey (newVolume_name built)
  have fresh : ¬Present config volume world.host := undisturbed.fresh _ _ rfl
  have kept : ∀ name other, name ≠ r.name → world.store.lookup (volumeKey name) = some other →
      Present config other world.host →
      MadeSince config (past ++ [entry (.createVolume r) world (.create volume.key volume) fault]) name other := by
    intro name other different held present
    refine ((tracked.clean name other held present).resolve_right And.right).snoc fun record same => ?_
    obtain ⟨key, -⟩ := Call.create.inj same
    exact different (volumeKey_injective (key.symm.trans own))
  have stored : ∀ name other, world.store.lookup (volumeKey name) = some other → name ≠ r.name := by
    rintro _ other held rfl
    rw [absent] at held
    cases held
  have recorded : ∀ next, Clean config (.createVolume r) next
      (past ++ [entry (.createVolume r) world (.create volume.key volume) fault])
      { world with store := world.store.insert (volumeKey r.name) volume } := by
    intro next name other held present
    by_cases same : name = r.name
    · subst same
      rw [AList.lookup_insert] at held
      cases held
      exact absurd present fresh
    · rw [AList.lookup_insert_ne fun equal => same (volumeKey_injective equal)] at held
      exact Or.inl (kept name other same held present)
  rw [own] at kept recorded ⊢
  rw [create_absent absent]
  cases fault with
  | none => exact recorded _
  | fails => exact fun name other held present => Or.inl (kept name other (stored name other held) held present)
  | lost => exact recorded _

theorem deleted {key : String} {next : Phase} (tracked : Tracked config request phase past world)
    (idle : ¬Busy request phase) :
    Clean config request next (past ++ [entry request world (.delete key) fault])
      (execFor request fault world (.delete key)).2 := by
  obtain ⟨host, fewer⟩ := exec_delete request world fault key
  intro name volume held present
  rw [host] at present
  rcases tracked.clean name volume (fewer _ _ held) present with made | ⟨-, busy⟩
  · exact Or.inl (made.snoc (by rintro _ ⟨⟩))
  · exact absurd busy idle

theorem writes {stage next : Stage} (ok : StoreOk WellFormed world.store)
    (tracked : Tracked config request (.on volume stage) past world)
    (held : world.store.lookup (volumeKey request.volumeId) = some volume)
    (writes : Writes config request volume stage written next) :
    Afterwards (Tracked config) request past world (.patch written.key written)
      (through (fun _ => .on written next)) fault := by
  unfold Afterwards
  have own := congrArg volumeKey (writes.rewrite.name.trans (ok.named held).1)
  have origin : SameOrigin volume written := writes.rewrite.sameOrigin ⟨rfl, rfl, rfl, rfl⟩
  obtain ⟨-, -, filesystem, hostPath⟩ := origin
  have idle : ¬Busy request (.on volume stage) := by cases writes <;> nofun
  have clean : Clean config request
      (through (fun _ => .on written next) (execFor request fault world (.patch written.key written)).1)
      (past ++ [entry request world (.patch written.key written) fault])
      (execFor request fault world (.patch written.key written)).2 :=
    clean_patch tracked.clean held own hostPath filesystem idle
  cases writes with
  | @pin r _ admitted =>
    have made := tracked.backed _ _ _ rfl rfl rfl
    cases answer : (execFor (.nodePublishVolume r) fault world
        (.patch (pinnedTo volume config.node).key (pinnedTo volume config.node))).1 with
    | ok value =>
      rw [answer] at clean
      refine ⟨clean, ?_, ?_⟩
      · rintro _ _ _ - ⟨⟩ rest left
        cases left
      · rintro _ _ _ ⟨⟩ ⟨⟩ -
        exact (made.snoc (by rintro _ ⟨⟩)).origin hostPath filesystem
    | error failure =>
      rw [answer] at clean
      exact .plain clean (by rintro _ _ _ _ ⟨⟩)
  | publish => exact .plain clean (plain_through (fun _ => plain_stage rfl rfl) _)
  | unpublish => exact .plain clean (plain_through (fun _ => plain_stage rfl rfl) _)
  | record => exact .plain clean (plain_through (fun _ => plain_stage rfl rfl) _)
  | unmount => exact .plain clean (plain_through (fun _ => plain_stage rfl rfl) _)
  | expand => exact .plain clean (plain_through (fun _ => plain_stage rfl rfl) _)

/-! ### The calls of `make_volume` -/

section Make
variable {r : NodePublishVolumeRequest}

theorem exec_tryExists {path : Path} {present : Bool}
    (answered : (execFor request fault world (.tryExists path)).1 = .ok present) :
    world.host.tryExists path = .ok present := by
  have performed := exec_answered answered
  rw [performed] at answered
  exact fromHost_ok.mp answered

theorem looked (request : Request) (fault : Fault) (world : World) (path : Path) :
    (execFor request fault world (.tryExists path)).2 = world := by
  cases fault <;> rfl

theorem probed (tracked : Tracked config (.nodePublishVolume r) (.on volume .targeted) past world)
    (held : world.store.lookup (volumeKey r.volumeId) = some volume) :
    Afterwards (Tracked config) (.nodePublishVolume r) past world (.tryExists (publishPath config volume))
      (through (fun present => .on volume (if present then .backed else .vacant))) fault := by
  unfold Afterwards
  have clean : ∀ next, Clean config (.nodePublishVolume r) next _ _ := fun next =>
    clean_same tracked.clean (looked _ fault _ (publishPath config volume)) (by rintro _ _ ⟨⟩) (by nofun)
  cases answer : (execFor (.nodePublishVolume r) fault world (.tryExists (publishPath config volume))).1 with
  | error failure => exact .plain (clean _) (by rintro _ _ _ _ ⟨⟩)
  | ok present =>
    cases present with
    | false => exact .plain (clean _) (plain_stage rfl rfl)
    | true =>
      refine ⟨clean _, ?_, ?_⟩
      · rintro _ _ _ - ⟨⟩ rest left
        cases left
      · rintro _ _ _ ⟨⟩ ⟨⟩ -
        have made := tracked.clean r.volumeId volume held (exec_tryExists answer)
        exact (made.resolve_right fun busy => nomatch busy.2).snoc (by rintro _ ⟨⟩)

theorem checked (tracked : Tracked config (.nodePublishVolume r) (.on volume .vacant) past world)
    (held : world.store.lookup (volumeKey r.volumeId) = some volume) :
    Afterwards (Tracked config) (.nodePublishVolume r) past world (.tryExists (publishPath config volume))
      (through (fun present => if present then .stopped else .on volume .clear)) fault := by
  unfold Afterwards
  have clean : ∀ next, Clean config (.nodePublishVolume r) next _ _ := fun next =>
    clean_same tracked.clean (looked _ fault _ (publishPath config volume)) (by rintro _ _ ⟨⟩) (by nofun)
  have begun : Partly config (.nodePublishVolume r) volume past world
      (makeVolume (publishPath config volume) volume.size volume.filesystem) :=
    ⟨past, [], world, (List.append_nil _).symm, held, .nil⟩
  have later := begun.snoc fault
  cases answer : (execFor (.nodePublishVolume r) fault world (.tryExists (publishPath config volume))).1 with
  | error failure => exact .plain (clean _) (by rintro _ _ _ _ ⟨⟩)
  | ok present =>
    cases present with
    | true => exact .plain (clean _) (by rintro _ _ _ _ ⟨⟩)
    | false =>
      rw [answer] at later
      refine ⟨clean _, ?_, ?_⟩
      · rintro _ _ _ ⟨⟩ ⟨⟩ rest left
        cases left
        exact later
      · rintro _ _ _ - ⟨⟩ backs
        cases backs

/-- A call of `make_volume`: what is left of it afterwards, and what that means for the path. -/
theorem makes {call : Call} {stage : Stage} {next : call.Value → Stage} {rest : call.Answer → Action Failure Unit}
    (onHost : call.onStore = false) (tracked : Tracked config (.nodePublishVolume r) (.on volume stage) past world)
    (held : world.store.lookup (volumeKey r.volumeId) = some volume)
    (undisturbed : Undisturbed config (entry (.nodePublishVolume r) world call fault))
    (partly : Partly config (.nodePublishVolume r) volume past world (.call call rest))
    (left : ∀ value, remaining config volume (next value) = some (rest (.ok value)) ∨
      next value = .made ∧ rest (.ok value) = .ret ())
    (places : ∀ value, Places config volume (entry (.nodePublishVolume r) world call fault) →
      next value = .made ∨ (next value).making)
    (busy : stage.making → call.completes ∧ ∀ value, next value = .made ∨ (next value).making) :
    Afterwards (Tracked config) (.nodePublishVolume r) past world call
      (through (fun value => .on volume (next value))) fault := by
  unfold Afterwards
  have later := partly.snoc fault
  have own : ∀ other, world.store.lookup (volumeKey r.volumeId) = some other → other = volume :=
    fun other same => Option.some.inj (same.symm.trans held)
  cases answer : (execFor (.nodePublishVolume r) fault world call).1 with
  | error failure =>
    have failed : ¬(event (execFor (.nodePublishVolume r)) world call fault).answer.isOk := by
      rw [event, answer]
      exact Bool.false_ne_true
    refine .plain (clean_host onHost tracked.clean undisturbed ?_ ?_) (by rintro _ _ _ _ ⟨⟩)
    · intro other placed
      obtain ⟨-, -, -, went⟩ := placed
      exact absurd went failed
    · intro _ _ making
      exact absurd (undisturbed.completed r rfl (busy making).1) failed
  | ok value =>
    rw [answer] at later
    have made : next value = .made →
        MadeSince config (past ++ [entry (.nodePublishVolume r) world call fault]) r.volumeId volume := by
      intro done
      rcases left value with unfinished | ⟨-, finished⟩
      · rw [done] at unfinished
        cases unfinished
      · rw [finished] at later
        exact later.made
    refine ⟨clean_host onHost tracked.clean undisturbed ?_ ?_, ?_, ?_⟩
    · intro other placed
      cases own other placed.1
      exact (places value placed).imp made id
    · intro other same making
      cases own other same
      exact ((busy making).2 value).imp made id
    · rintro _ _ _ ⟨⟩ ⟨⟩ rest left'
      rcases left value with unfinished | ⟨done, -⟩
      · rw [unfinished] at left'
        cases left'
        exact later
      · rw [done] at left'
        cases left'
    · rintro _ _ _ ⟨⟩ ⟨⟩ backs
      apply made
      rcases left value with unfinished | ⟨done, -⟩
      · cases stage : next value with
        | clear | housed | created | sized => simp [stage, Stage.backs] at backs
        | _ => simp [stage, remaining] at unfinished
      · exact done

theorem placed_unbound {call : Call} (unbound : volume.filesystem ≠ .bind)
    (held : world.store.lookup (volumeKey r.volumeId) = some volume)
    (apart : ∀ path, call ≠ .createFile path) {other : Volume} :
    ¬Places config other (entry (.nodePublishVolume r) world call fault) := by
  intro places
  obtain ⟨same, placed, -⟩ := places
  cases same.symm.trans held
  rw [placement, if_neg unbound] at placed
  exact apart _ placed

theorem directory (bound : volume.filesystem = .bind)
    (tracked : Tracked config (.nodePublishVolume r) (.on volume .clear) past world)
    (held : world.store.lookup (volumeKey r.volumeId) = some volume)
    (undisturbed : Undisturbed config
      (entry (.nodePublishVolume r) world (.createDirAll (publishPath config volume)) fault)) :
    Afterwards (Tracked config) (.nodePublishVolume r) past world (.createDirAll (publishPath config volume))
      (through (fun _ => .on volume .made)) fault := by
  have partly := tracked.partly r volume .clear rfl rfl _ rfl
  rw [if_pos bound] at partly
  exact tracked.makes rfl held undisturbed partly (fun _ => Or.inr ⟨rfl, rfl⟩) (fun _ _ => Or.inl rfl) nofun

theorem parent {above : Path} (unbound : volume.filesystem ≠ .bind)
    (parent : parent (publishPath config volume) = some above)
    (tracked : Tracked config (.nodePublishVolume r) (.on volume .clear) past world)
    (held : world.store.lookup (volumeKey r.volumeId) = some volume)
    (undisturbed : Undisturbed config
      (entry (.nodePublishVolume r) world (.createDirAll above) fault)) :
    Afterwards (Tracked config) (.nodePublishVolume r) past world (.createDirAll above)
      (through (fun _ => .on volume .housed)) fault := by
  have partly := tracked.partly r volume .clear rfl rfl _ rfl
  rw [if_neg unbound, createParent, parent] at partly
  refine tracked.makes rfl held undisturbed partly (fun _ => Or.inl rfl) (fun _ placed => ?_) nofun
  exact absurd placed (placed_unbound unbound held (by rintro _ ⟨⟩))

theorem file {stage : Stage}
    (housed : stage = .housed ∨ stage = .clear ∧ Unix.parent (publishPath config volume) = none)
    (unbound : volume.filesystem ≠ .bind)
    (tracked : Tracked config (.nodePublishVolume r) (.on volume stage) past world)
    (held : world.store.lookup (volumeKey r.volumeId) = some volume)
    (undisturbed : Undisturbed config
      (entry (.nodePublishVolume r) world (.createFile (publishPath config volume)) fault)) :
    Afterwards (Tracked config) (.nodePublishVolume r) past world (.createFile (publishPath config volume))
      (through (fun _ => .on volume .created)) fault := by
  rcases housed with rfl | ⟨rfl, rootless⟩
  · have partly := tracked.partly r volume .housed rfl rfl _ rfl
    exact tracked.makes rfl held undisturbed partly (fun _ => Or.inl rfl) (fun _ _ => Or.inr rfl) nofun
  · have partly := tracked.partly r volume .clear rfl rfl _ rfl
    rw [if_neg unbound, createParent, rootless] at partly
    exact tracked.makes rfl held undisturbed partly (fun _ => Or.inl rfl) (fun _ _ => Or.inr rfl) nofun

theorem sized (tracked : Tracked config (.nodePublishVolume r) (.on volume .created) past world)
    (held : world.store.lookup (volumeKey r.volumeId) = some volume)
    (undisturbed : Undisturbed config
      (entry (.nodePublishVolume r) world (.ftruncate (publishPath config volume) volume.size.toInt64) fault)) :
    Afterwards (Tracked config) (.nodePublishVolume r) past world
      (.ftruncate (publishPath config volume) volume.size.toInt64)
    (through (fun _ => .on volume .sized)) fault := by
  have partly := tracked.partly r volume .created rfl rfl _ rfl
  refine tracked.makes rfl held undisturbed partly (fun _ => Or.inl rfl) (fun _ _ => Or.inr rfl) fun _ => ?_
  exact ⟨rfl, fun _ => Or.inr rfl⟩

theorem formatted (unbound : volume.filesystem ≠ .bind)
    (tracked : Tracked config (.nodePublishVolume r) (.on volume .sized) past world)
    (held : world.store.lookup (volumeKey r.volumeId) = some volume)
    (undisturbed : Undisturbed config
      (entry (.nodePublishVolume r) world (.command [formatter volume.filesystem, publishPath config volume]) fault)) :
    Afterwards (Tracked config) (.nodePublishVolume r) past world
      (.command [formatter volume.filesystem, publishPath config volume])
      (through (fun _ => .on volume .made)) fault := by
  have partly := tracked.partly r volume .sized rfl rfl _ rfl
  have completes : (Call.command [formatter volume.filesystem, publishPath config volume]).completes := by
    cases filesystem : volume.filesystem with
    | ext4 => rfl
    | xfs => rfl
    | bind => exact absurd filesystem unbound
  have split : format volume.filesystem (publishPath config volume) =
      .call (.command [formatter volume.filesystem, publishPath config volume]) fun answer =>
        Program.ofExcept answer >>= fun _ => pure () := by
    cases filesystem : volume.filesystem with
    | ext4 => rfl
    | xfs => rfl
    | bind => exact absurd filesystem unbound
  rw [split] at partly
  refine tracked.makes rfl held undisturbed partly (fun _ => Or.inr ⟨rfl, rfl⟩) (fun _ _ => Or.inl rfl) fun _ => ?_
  exact ⟨completes, fun _ => Or.inl rfl⟩

end Make

/-- A call on a path that is ready: it stays so. -/
theorem kept {r : NodePublishVolumeRequest} {stage : Stage} {argv : List String} {next : String → Stage}
    (tracked : Tracked config (.nodePublishVolume r) (.on volume stage) past world) (backs : stage.backs)
    (undisturbed : Undisturbed config (entry (.nodePublishVolume r) world (.command argv) fault))
    (stays : ∀ output, (next output).backs) :
    Afterwards (Tracked config) (.nodePublishVolume r) past world (.command argv)
      (through (fun output => .on volume (next output))) fault := by
  unfold Afterwards
  have idle : ¬Busy (.nodePublishVolume r) (.on volume stage) := by
    intro busy
    rw [Busy, Stage.not_making backs] at busy
    cases busy
  have clean : ∀ after, Clean config (.nodePublishVolume r) after _ _ := fun after =>
    clean_host rfl tracked.clean undisturbed
      (fun _ placed => absurd placed (not_places fun _ _ => ⟨by rintro _ ⟨⟩, by rintro _ _ ⟨⟩⟩))
      fun _ _ busy => absurd busy idle
  have made : MadeSince config (past ++ [entry (.nodePublishVolume r) world (.command argv) fault]) r.volumeId volume :=
    (tracked.backed r volume stage rfl rfl backs).snoc (by rintro _ ⟨⟩)
  cases (execFor (.nodePublishVolume r) fault world (.command argv)).1 with
  | error failure => exact .plain (clean _) (by rintro _ _ _ _ ⟨⟩)
  | ok output =>
    refine ⟨clean _, ?_, ?_⟩
    · rintro _ _ _ ⟨⟩ ⟨⟩ rest left
      rw [remaining_none (stays output)] at left
      cases left
    · rintro _ _ _ ⟨⟩ ⟨⟩ -
      exact made

theorem step {call : Call} {resume : call.Answer → Phase} (ok : StoreOk WellFormed world.store)
    (holds : Holds request phase world) (tracked : Tracked config request phase past world)
    (issued : Issues config request phase call resume)
    (undisturbed : Undisturbed config (entry request world call fault)) :
    Afterwards (Tracked config) request past world call resume fault := by
  cases issued with
  | load => exact tracked.loaded (by cases request <;> exact id)
  | reload => exact tracked.loaded id
  | write writes => exact tracked.writes ok holds writes
  | create built =>
    exact .plain (tracked.created built holds undisturbed) (plain_through (fun _ => plain_stage rfl rfl) _)
  | delete state => exact .plain (tracked.deleted id) (plain_through (fun _ => by rintro _ _ _ _ ⟨⟩) _)
  | probe => exact tracked.probed holds
  | check => exact tracked.checked holds
  | makeDirectory bound => exact tracked.directory bound holds undisturbed
  | makeParent unbound above => exact tracked.parent unbound above holds undisturbed
  | makeFile unbound housed => exact tracked.file housed unbound holds undisturbed
  | size => exact tracked.sized holds undisturbed
  | mkfs unbound => exact tracked.formatted unbound holds undisturbed
  | attach => exact tracked.kept rfl undisturbed fun _ => rfl
  | mount _ _ ready =>
    refine tracked.kept ?_ undisturbed fun _ => rfl
    rcases ready with ⟨rfl, -⟩ | ⟨rfl, -⟩ <;> rfl
  | mountBind => exact tracked.kept rfl undisturbed fun _ => rfl
  | target admitted =>
    refine tracked.quiet rfl nofun undisturbed ?_ (plain_through fun _ => plain_stage rfl rfl)
    rintro _ ⟨⟩
    refine ⟨by rintro _ ⟨⟩, ?_⟩
    rintro _ different ⟨⟩
    exact different rfl
  | detach => exact tracked.quiet rfl id undisturbed (fun _ => nofun) fun _ => plain_stage rfl rfl
  | removeTarget => exact tracked.quiet rfl id undisturbed (fun _ => nofun) fun _ => plain_stage rfl rfl
  | _ => exact tracked.quiet rfl id undisturbed (fun _ => nofun) (plain_through fun _ => plain_stage rfl rfl)

end Tracked

/-! ### Checking a history -/

instance (config : Config) (volume : Volume) : DecidablePred (Places config volume)
  | (.nodePublishVolume r, entry) => inferInstanceAs (Decidable (_ ∧ _ ∧ ¬entry.op = .createDirAll r.targetPath ∧ _))
  | (.createVolume _, _) | (.deleteVolume _, _) | (.controllerPublishVolume _, _) | (.controllerUnpublishVolume _, _)
  | (.nodeUnpublishVolume _, _) | (.nodeExpandVolume _, _) => isFalse id

def Call.creates : Call → Option Volume
  | .create _ volume => some volume
  | _ => none

/-- `Undisturbed`, by looking at the stored volumes one by one. -/
theorem Undisturbed.of_entries {entry : Request × CallEvent}
    (fresh : ∀ volume ∈ entry.2.op.creates, ¬Present config volume entry.2.world.host)
    (alone : ∀ stored ∈ entry.2.world.store.entries, ¬Present config stored.2 entry.2.world.host →
      Present config stored.2 (execFor entry.1 entry.2.fault entry.2.world entry.2.op).2.host →
      stored.1 = volumeKey entry.1.volumeId ∧ Places config stored.2 entry)
    (completed : entry.2.op.completes → entry.2.answer.isOk) : Undisturbed config entry where
  fresh key volume creates := by
    rw [creates] at fresh
    exact fresh volume rfl
  alone name volume held absent present := by
    obtain ⟨key, places⟩ := alone ⟨_, volume⟩ (AList.mem_lookup_iff.mp held) absent present
    exact ⟨(volumeKey_injective key).symm, places⟩
  completed _ _ := completed

/-! ### Runs -/

/-- Whatever is at the path of a stored volume is a volume that was made. -/
def Made (config : Config) (past : History) (world : World) : Prop :=
  ∀ name volume, world.store.lookup (volumeKey name) = some volume → Present config volume world.host →
    MadeSince config past name volume

theorem tracked_carries (config : Config) :
    Carries config (fun _ _ => True) (fun _ => Undisturbed config) (Tracked config) (Made config) where
  enter {request past world} _ made := by
    refine .plain (fun name volume held present => Or.inl (made name volume held present)) ?_
    rintro _ _ _ _ ⟨⟩
  step ok holds tracked issued undisturbed := tracked.step ok holds issued undisturbed
  leave {request phase past world} ends tracked := by
    intro name volume held present
    refine (tracked.clean name volume held present).resolve_right fun busy => ?_
    have making := busy.2
    unfold Busy at making
    split at making
    · rcases ends with idle | returned
      · rw [Phase.idle_on] at idle
        subst idle
        cases making
      · cases returned <;> cases making
    · exact making

theorem Issues.hands {r : NodePublishVolumeRequest} {call : Call} {resume : call.Answer → Phase}
    (issued : Issues config (.nodePublishVolume r) phase call resume) (hands : call.hands) :
    ∃ volume stage, phase = .on volume stage ∧ stage.backs := by
  cases issued with
  | attach => exact ⟨_, _, rfl, rfl⟩
  | mount _ _ ready => exact ⟨_, _, rfl, by rcases ready with ⟨rfl, -⟩ | ⟨rfl, -⟩ <;> rfl⟩
  | mountBind => exact ⟨_, _, rfl, rfl⟩
  | @mkfs r volume unbound =>
    cases held : volume.filesystem <;> simp [held, formatter, Call.hands, deed, utilityDeed] at hands
  | _ => cases hands

/-- In every run in which nothing but a `make_volume` that goes through leaves something at the path of
a stored volume, only made volumes are mounted. -/
theorem mounted_after_made (config : Config) (host : Host) {run : Run}
    (undisturbed : ∀ entry ∈ history config ⟨∅, host⟩ run, Undisturbed config entry) :
    MadeFirst config (history config ⟨∅, host⟩ run) := by
  have start : Made config [] ⟨∅, host⟩ := by
    rintro name volume ⟨⟩
  have meets : Meets config (fun _ _ => True) ⟨∅, host⟩ run := meets_forall fun _ _ => trivial
  obtain ⟨-, -, visited⟩ := (tracked_carries config).serveAll .empty start meets
    fun before entry after split => undisturbed entry (by simp [split])
  rintro before ⟨_, event⟩ after split r volume ⟨⟩ hands held
  obtain ⟨phase, resume, issued, -, holds, tracked⟩ := visited before _ after split
  obtain ⟨_, stage, rfl, backs⟩ := issued.hands hands
  cases held.symm.trans holds
  exact tracked.backed r _ stage rfl rfl backs

theorem mounted_after_made_sample :
    MadeFirst Sample.config (history Sample.config ⟨∅, {}⟩ (Sample.publishing healthy)) := by
  have fresh : ∀ entry ∈ history Sample.config ⟨∅, {}⟩ (Sample.publishing healthy),
      ∀ volume ∈ entry.2.op.creates, ¬Present Sample.config volume entry.2.world.host := by decide +kernel
  have alone : ∀ entry ∈ history Sample.config ⟨∅, {}⟩ (Sample.publishing healthy),
      ∀ stored ∈ entry.2.world.store.entries, ¬Present Sample.config stored.2 entry.2.world.host →
      Present Sample.config stored.2 (execFor entry.1 entry.2.fault entry.2.world entry.2.op).2.host →
      stored.1 = volumeKey entry.1.volumeId ∧ Places Sample.config stored.2 entry := by decide +kernel
  have completed : ∀ entry ∈ history Sample.config ⟨∅, {}⟩ (Sample.publishing healthy),
      entry.2.op.completes → entry.2.answer.isOk := by decide +kernel
  exact mounted_after_made Sample.config {} fun entry member =>
    .of_entries (fresh entry member) (alone entry member) (completed entry member)

/-! ### Making includes formatting -/

/-- Whether a filesystem has been made so far. -/
def formatting : Protocol Call Call.Answer Bool := fun done call resume =>
  ∀ answer, resume answer = (done || call.formats && answer.isOk)

theorem follows_issue {call : Call} {done : Bool} {post : call.Value → Bool → Prop}
    (ok : ∀ value, post value (done || call.formats)) :
    Follows formatting (issue call) post (fun _ _ => True) done := by
  refine ⟨_, fun _ => rfl, fun answer => ?_⟩
  cases answer with
  | ok value =>
    rw [Except.isOk, Except.toBool, Bool.and_true]
    exact ok value
  | error failure => trivial

theorem format_formats {filesystem : Filesystem} {path : Path} {done : Bool} (unbound : filesystem ≠ .bind) :
    Follows formatting (format filesystem path) (fun _ done => done) (fun _ _ => True) done := by
  cases filesystem with
  | ext4 => exact follows_bind.mpr (follows_issue fun _ => Bool.or_true done)
  | xfs => exact follows_bind.mpr (follows_issue fun _ => Bool.or_true done)
  | bind => exact absurd rfl unbound

theorem makeVolume_formats {filesystem : Filesystem} {path : Path} {size : UInt64} {done : Bool}
    (unbound : filesystem ≠ .bind) :
    Follows formatting (makeVolume path size filesystem) (fun _ done => done) (fun _ _ => True) done := by
  refine follows_bind.mpr (follows_issue fun present => ?_)
  refine follows_bind.mpr (follows_reject.mpr ⟨fun _ => trivial, fun _ => ?_⟩)
  rw [if_neg unbound]
  have parent (done : Bool) : Follows formatting (createParent path) (fun _ _ => True) (fun _ _ => True) done := by
    unfold createParent
    split
    · exact follows_issue fun _ => trivial
    · trivial
  refine (parent _).bind fun _ _ _ => follows_bind.mpr (follows_issue fun _ => ?_)
  exact follows_bind.mpr (follows_issue fun _ => format_formats unbound)

theorem Makes.formatted {events : List CallEvent} (makes : Makes config request volume events)
    (unbound : volume.filesystem ≠ .bind) : ∃ event ∈ events, event.op.formats && event.answer.isOk := by
  obtain ⟨world, oracle, recorded, -, -, same, ran, rfl⟩ := makes
  rw [← same] at unbound
  let seen (done : Bool) (events : List CallEvent) (_ : World) : Prop :=
    done → ∃ event ∈ events, event.op.formats && event.answer.isOk
  let allowed (_ : List CallEvent) (_ : CallEvent) : Prop := True
  have step : ∀ {done events world} {call : Call} {resume : call.Answer → Bool} {fault}, seen done events world →
      formatting done call resume → allowed events (event (execFor request) world call fault) →
      seen (resume (execFor request fault world call).1) (events ++ [event (execFor request) world call fault])
        (execFor request fault world call).2 := by
    intro done events world call resume fault seen issued _ formatted
    rw [issued, Bool.or_eq_true] at formatted
    rcases formatted with before | now
    · obtain ⟨event, member, formats⟩ := seen before
      exact ⟨event, List.mem_append_left _ member, formats⟩
    · exact ⟨_, List.mem_append_right _ List.mem_cons_self, now⟩
  have start : seen false [] world := nofun
  obtain ⟨⟨done, ended, found⟩, -⟩ := Follows.run step
    (makeVolume_formats unbound) start fun _ _ _ _ => trivial
  rw [ran] at ended
  exact found ended

theorem MadeSince.formatted (made : MadeSince config past name volume) (unbound : volume.filesystem ≠ .bind) :
    ∃ entry ∈ past, entry.2.op.formats && entry.2.answer.isOk := by
  obtain ⟨before, r, events, later, rfl, -, makes, -⟩ := made
  obtain ⟨event, member, formats⟩ := makes.formatted unbound
  refine ⟨(.nodePublishVolume r, event), ?_, formats⟩
  exact List.mem_append_left _ (List.mem_append_right _ (List.mem_map_of_mem member))

theorem MadeFirst.formatted {history : History} {entry : Request × CallEvent} {r : NodePublishVolumeRequest}
    (first : MadeFirst config history) (member : entry ∈ history) (publish : entry.1 = .nodePublishVolume r)
    (hands : entry.2.op.hands) (held : entry.2.world.store.lookup (volumeKey r.volumeId) = some volume)
    (unbound : volume.filesystem ≠ .bind) : ∃ other ∈ history, other.2.op.formats && other.2.answer.isOk := by
  obtain ⟨before, after, rfl⟩ := List.append_of_mem member
  obtain ⟨other, earlier, formats⟩ := (first before entry after rfl r volume publish hands held).formatted unbound
  exact ⟨other, List.mem_append_left _ earlier, formats⟩

def Sample.retried : Run := publishing (failing 7) ++ [(nodePublish "a" "/t" 7, healthy)]

/-- mkfs fails, and the next NodePublishVolume attaches the file it left. -/
theorem unformatted_volume_mounted : ¬MadeFirst Sample.config (history Sample.config ⟨∅, {}⟩ Sample.retried) := by
  intro first
  have unformatted : ∀ entry ∈ history Sample.config ⟨∅, {}⟩ Sample.retried,
      ¬(entry.2.op.formats && entry.2.answer.isOk) := by decide +kernel
  have attached : ∃ entry ∈ history Sample.config ⟨∅, {}⟩ Sample.retried,
      entry.1 = Sample.nodePublish "a" "/t" 7 ∧ entry.2.op.hands ∧
      ∃ volume ∈ entry.2.world.store.lookup (volumeKey "a"), volume.filesystem ≠ .bind := by decide +kernel
  obtain ⟨entry, member, publish, hands, volume, held, unbound⟩ := attached
  obtain ⟨other, earlier, formats⟩ := first.formatted member publish hands held unbound
  exact unformatted other earlier formats

end Lvp
