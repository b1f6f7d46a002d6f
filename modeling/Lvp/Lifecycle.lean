import Lvp.Footprint
import Lvp.Ledger

/-! Every handler, run on a balanced ledger, leaves a balanced ledger behind, whether it succeeds or
not. Between a mount and the write that records it the ledger is out of balance by one target;
`Mounted` and `Unmounted` are the two ways. -/

namespace Lvp
open Unix Effect Csi

variable {regime : Regime} {request : Request} {config : Config} {name : String} {ledger after : Ledger}
  {volume written : Volume} {ε ε' α β : Type}

theorem Still.refl (ledger : Ledger) : Still regime name ledger ledger := ⟨rfl, rfl, fun _ => rfl⟩

theorem Still.trans {a b c : Ledger} (first : Still regime name a b) (second : Still regime name b c) :
    Still regime name a c :=
  ⟨second.1.trans first.1, second.2.1.trans first.2.1, fun alone => (second.2.2 alone).trans (first.2.2 alone)⟩

/-! ### Calls that change nothing -/

/-- A call for which a turn is no turn at all. -/
def Calm : Call → Prop
  | .command argv => deed argv = .nothing
  | .create _ _ | .patch _ _ | .delete _ | .removeFile _ | .removeDirAll _ => False
  | _ => True

theorem Calm.guard {call : Call} (calm : Calm call) : Guard regime name ledger call := by
  cases call <;> simp_all [Calm, Guard]

theorem Calm.through {call : Call} (calm : Calm call) {value : call.Value}
    (through : Through regime name ledger after call value) : after = ledger := by
  cases call with
  | getOpt key => exact through.1
  | command argv =>
    simp only [Calm] at calm
    simpa only [Through, calm, Ran] using through
  | create | patch | delete | removeFile | removeDirAll => exact calm.elim
  | _ => exact through

theorem Calm.turn {call : Call} (calm : Calm call) {answer : call.Answer}
    (turn : Turn regime request ledger call answer after) : after = ledger := by
  cases answer with
  | ok value => exact calm.through turn
  | error failure =>
    rcases turn with ⟨same, -⟩ | ⟨-, -, value, through⟩
    · exact same
    · exact calm.through through

/-- The program changes nothing, whatever comes of it. -/
def Rests (regime : Regime) (request : Request) (program : Action ε α) : Prop :=
  ∀ ledger, Safe (ledgerLogic regime request) program (fun _ => Still regime request.volumeId ledger)
    (fun _ => Still regime request.volumeId ledger) ledger

namespace Rests

theorem ret (value : α) : Rests regime request (.ret value : Action ε α) := Still.refl

theorem raise (error : ε) : Rests regime request (.raise error : Action ε α) := Still.refl

theorem bind {program : Action ε α} {next : α → Action ε β} (first : Rests regime request program)
    (rest : ∀ value, Rests regime request (next value)) : Rests regime request (program >>= next) := by
  intro ledger
  refine (first ledger).bind fun value middle still => ?_
  exact (rest value middle).weaken (fun _ _ later => still.trans later) fun _ _ later => still.trans later

theorem mapErr {program : Action ε' α} {f : ε' → ε} (rests : Rests regime request program) :
    Rests regime request (program.mapErr f) := fun ledger => safe_mapErr.mpr (rests ledger)

theorem attempt {program : Action ε' α} (rests : Rests regime request program) :
    Rests regime request (program.attempt : Action ε (Except ε' α)) :=
  fun ledger => safe_attempt.mpr (rests ledger)

theorem reject {condition : Prop} [Decidable condition] {error : ε} :
    Rests regime request (.reject condition error : Action ε Unit) :=
  fun ledger => safe_reject.mpr ⟨fun _ => .refl ledger, fun _ => .refl ledger⟩

theorem ite {condition : Prop} [Decidable condition] {yes no : Action ε α} (holds : Rests regime request yes)
    (fails : Rests regime request no) : Rests regime request (if condition then yes else no) := by
  split
  · exact holds
  · exact fails

theorem call {call : Call} (calm : Calm call) : Rests regime request (issue call) := by
  intro ledger before still
  refine ⟨calm.guard, fun answer after turn => ?_⟩
  rw [calm.turn turn]
  cases answer <;> exact still

theorem run {command : List String} (calm : deed (command.map trim) = .nothing) :
    Rests regime request (Lvp.run command) := call calm

/-! ### The parts of handlers that only touch files -/

theorem createParent (path : Path) : Rests regime request (createParent path) := by
  unfold Lvp.createParent
  split
  · exact call trivial
  · exact ret _

theorem format (filesystem : Filesystem) (path : Path) : Rests regime request (format filesystem path) := by
  cases filesystem with
  | ext4 => exact bind (call rfl) fun _ => ret _
  | xfs => exact bind (call rfl) fun _ => ret _
  | bind => exact ret _

theorem makeVolume (path : Path) (size : UInt64) (filesystem : Filesystem) :
    Rests regime request (makeVolume path size filesystem) := by
  refine bind (call trivial) fun present => bind reject fun _ => ite (call trivial) ?_
  refine bind (createParent path) fun _ => bind (call trivial) fun _ => ?_
  exact bind (call trivial) fun _ => format filesystem path

theorem growFilesystem (filesystem : Filesystem) (device : Path) :
    Rests regime request (growFilesystem filesystem device) := by
  cases filesystem with
  | ext4 => exact bind (run rfl) fun _ => ret _
  | xfs => exact bind (run rfl) fun _ => ret _
  | bind => exact ret _

theorem expandVolume (source device : Path) (size : UInt64) (filesystem : Filesystem) :
    Rests regime request (expandVolume source device size filesystem) := by
  refine ite (ret _) (bind (call trivial) fun _ => bind (call trivial) fun _ => ?_)
  refine bind (run ?_) fun _ => growFilesystem filesystem device
  rw [trim_chroot]
  rfl

end Rests

/-! ### One call -/

theorem safe_turn {call : Call} {post : call.Value → Ledger → Prop} {fail : Ledger → Prop}
    (guarded : ∀ before, Still regime request.volumeId ledger before →
      Guard regime request.volumeId before call)
    (through : ∀ before after value, Still regime request.volumeId ledger before →
      Through regime request.volumeId before after call value → post value after)
    (refused : ∀ before, Still regime request.volumeId ledger before →
      Dropped regime request before call → fail before)
    (lost : call.onStore → ∀ value after, post value after → fail after) :
    Safe (ledgerLogic regime request) (issue call) post (fun _ => fail) ledger := by
  intro before still
  refine ⟨guarded before still, fun answer after turn => ?_⟩
  cases answer with
  | ok value => exact through before after value still turn
  | error failure =>
    rcases turn with ⟨rfl, dropped⟩ | ⟨-, onStore, value, gone⟩
    · exact refused _ still dropped
    · exact lost onStore value after (through before after value still gone)

/-- The program ends in `post`, or fails and leaves a balanced ledger. -/
abbrev Leads (regime : Regime) (request : Request) (program : Action ε α) (post : α → Ledger → Prop)
    (ledger : Ledger) : Prop :=
  Safe (ledgerLogic regime request) program post (fun _ => Balanced regime request.volumeId) ledger

structure Holding (regime : Regime) (name : String) (volume : Volume) (ledger : Ledger) : Prop where
  balanced : Balanced regime name ledger
  held : ledger.record = some volume

namespace Holding

theorem still (holding : Holding regime name volume ledger) (same : Still regime name ledger after) :
    Holding regime name volume after := ⟨holding.balanced.still same, same.1.trans holding.held⟩

theorem kept (holding : Holding regime name volume ledger) : Kept regime name ledger volume :=
  holding.balanced.kept volume holding.held

end Holding

namespace Leads
variable {post : β → Ledger → Prop}

theorem mapErr {program : Action ε' α} {f : ε' → ε} {post : α → Ledger → Prop}
    (leads : Leads regime request program post ledger) : Leads regime request (program.mapErr f) post ledger :=
  safe_mapErr.mpr leads

theorem reject {condition : Prop} [Decidable condition] {error : ε} {next : Unit → Action ε β}
    (balanced : Balanced regime request.volumeId ledger)
    (rest : ¬condition → Leads regime request (next ()) post ledger) :
    Leads regime request (.reject condition error >>= next) post ledger :=
  safe_bind.mpr (safe_reject.mpr ⟨fun _ => balanced, rest⟩)

theorem ofOption {result : Option α} {error : ε} {next : α → Action ε β}
    (balanced : Balanced regime request.volumeId ledger)
    (rest : ∀ value, result = some value → Leads regime request (next value) post ledger) :
    Leads regime request (.ofOption error result >>= next) post ledger :=
  safe_bind.mpr (safe_ofOption.mpr ⟨fun _ => balanced, rest⟩)

theorem ofExcept {result : Except ε α} {next : α → Action ε β}
    (balanced : Balanced regime request.volumeId ledger)
    (rest : ∀ value, result = .ok value → Leads regime request (next value) post ledger) :
    Leads regime request (.ofExcept result >>= next) post ledger :=
  safe_bind.mpr (safe_ofExcept.mpr ⟨fun _ _ => balanced, rest⟩)

theorem refuse {status : Option Status} {next : Unit → Action Status β}
    (balanced : Balanced regime request.volumeId ledger) (rest : Leads regime request (next ()) post ledger) :
    Leads regime request (refuse status >>= next) post ledger := by
  cases status with
  | none => exact rest
  | some status => exact balanced

theorem rests {program : Action ε α} (rests : Rests regime request program)
    (holding : Holding regime request.volumeId volume ledger) :
    Leads regime request program (fun _ => Holding regime request.volumeId volume) ledger :=
  (rests ledger).weaken (fun _ _ still => holding.still still) fun _ _ still => holding.balanced.still still

/-! ### The store -/

theorem load (balanced : Balanced regime request.volumeId ledger) :
    Leads regime request (Volume.load request.volumeId)
      (fun found after => Balanced regime request.volumeId after ∧ found = after.record) ledger := by
  refine safe_turn (fun _ _ => trivial) ?_ (fun before still _ => balanced.still still) fun _ _ _ loaded => loaded.1
  intro before after found still through
  obtain ⟨rfl, found⟩ := through
  exact ⟨balanced.still still, found rfl⟩

theorem loadVolume (balanced : Balanced regime request.volumeId ledger) :
    Leads regime request (loadVolume request.volumeId)
      (fun volume => Holding regime request.volumeId volume) ledger := by
  refine Safe.bind (load balanced).mapErr fun found after loaded => ?_
  refine safe_ofOption.mpr ⟨fun _ => loaded.1, fun volume same => ⟨loaded.1, ?_⟩⟩
  rw [← loaded.2, same]

theorem update (ready : ∀ before, Still regime request.volumeId ledger before →
      Balanced regime request.volumeId { before with record := some written })
    (refused : ∀ before, Still regime request.volumeId ledger before →
      Dropped regime request before (.patch written.key written) → Balanced regime request.volumeId before) :
    Leads regime request written.update (fun _ => Holding regime request.volumeId written) ledger := by
  refine safe_turn ?_ ?_ refused fun _ _ _ holding => holding.balanced
  · intro before still
    have balanced := ready before still
    have named := (balanced.kept written rfl).named
    exact ⟨congrArg volumeKey named, named, balanced.unmounted rfl, balanced.single rfl⟩
  · intro before after _ still through
    rw [through.2]
    exact ⟨ready before still, rfl⟩

theorem rewrite (holding : Holding regime request.volumeId volume ledger) (rewrite : Rewrite volume written)
    (paths : written.mountPaths = volume.mountPaths) (device : written.loopDevice = volume.loopDevice) :
    Leads regime request written.update (fun _ => Holding regime request.volumeId written) ledger := by
  refine update (fun before still => ?_) fun before still _ => holding.balanced.still still
  have now := holding.still still
  exact now.balanced.rewritten now.held rewrite paths device

end Leads

/-! ### The controller -/

theorem create_leads {r : CreateVolumeRequest} (built : newVolume r = .ok volume)
    (balanced : Balanced regime r.name ledger) :
    Leads regime (.createVolume r) volume.create (fun _ => Balanced regime r.name) ledger := by
  obtain ⟨base, filesystem, configs, rfl, -⟩ := newVolume_ok built
  have looked : Rests regime (.createVolume r) (issue (.getOpt (volumeKey r.name))) := Rests.call trivial
  refine Safe.bind ((looked ledger).weaken (fun _ _ still => balanced.still still)
    fun _ _ still => balanced.still still) fun existing after kept => ?_
  split
  · exact kept
  · refine Safe.bind (safe_turn (fun _ _ => ⟨rfl, rfl, rfl⟩) ?_ (fun before still _ => kept.still still)
      fun _ _ _ balanced => balanced) fun _ after balanced => balanced
    intro before after _ still through
    obtain ⟨absent, rfl⟩ := through
    exact Balanced.created ((kept.still still).absent absent) rfl (fresh_wellFormed _ _ _ _) rfl rfl

theorem createVolume_leads {r : CreateVolumeRequest} (balanced : Balanced regime r.name ledger) :
    Leads regime (.createVolume r) (createVolume r) (fun _ => Balanced regime r.name) ledger := by
  refine Leads.ofExcept balanced fun volume built => ?_
  refine Safe.bind (create_leads built balanced).mapErr fun creation after kept => ?_
  cases creation with
  | success => exact kept
  | alreadyExists =>
    rw [newVolume_name built]
    refine Safe.bind (Leads.mapErr (Leads.load kept)) fun found last loaded => ?_
    refine Leads.ofOption loaded.1 fun existing _ => ?_
    exact Leads.reject loaded.1 fun _ => loaded.1

theorem removeBacking_leads {r : DeleteVolumeRequest} (holding : Holding regime r.volumeId volume ledger)
    (state : volume.state = .«open») (path : Path) :
    Leads regime (.deleteVolume r) (removeBacking volume.filesystem path)
      (fun _ => Holding regime r.volumeId volume) ledger := by
  have idle : ∀ before, Still regime r.volumeId ledger before → Idle before := fun before still =>
    (holding.still still).balanced.idle (holding.still still).held state
  unfold removeBacking
  split
  · refine safe_turn idle ?_ (fun before still _ => holding.balanced.still still) nofun
    intro before after _ still same
    subst same
    exact holding.still still
  · refine safe_turn idle ?_ (fun before still _ => holding.balanced.still still) nofun
    intro before after _ still same
    subst same
    exact holding.still still

theorem delete_leads {r : DeleteVolumeRequest} (holding : Holding regime r.volumeId volume ledger)
    (state : volume.state = .«open») :
    Leads regime (.deleteVolume r) volume.delete (fun _ => Balanced regime r.volumeId) ledger := by
  refine safe_turn ?_ ?_ (fun before still _ => holding.balanced.still still) fun _ _ _ balanced => balanced
  · intro before still
    have now := holding.still still
    exact ⟨congrArg volumeKey holding.kept.named, now.balanced.idle now.held state⟩
  · intro before after _ still same
    subst same
    have now := holding.still still
    exact Balanced.deleted (now.balanced.idle now.held state).2

theorem deleteVolume_leads {r : DeleteVolumeRequest} (balanced : Balanced regime r.volumeId ledger) :
    Leads regime (.deleteVolume r) (deleteVolume config r) (fun _ => Balanced regime r.volumeId) ledger := by
  refine Leads.reject balanced fun _ => ?_
  refine Safe.bind (Leads.mapErr (Leads.load balanced)) fun found after loaded => ?_
  cases found with
  | none => exact loaded.1
  | some volume =>
    refine Leads.reject loaded.1 fun state => ?_
    rw [not_not] at state
    have holding : Holding regime r.volumeId volume after := ⟨loaded.1, loaded.2.symm⟩
    refine Safe.bind (removeBacking_leads holding state _).mapErr fun _ last later => ?_
    exact (delete_leads later state).mapErr

theorem controllerPublishVolume_leads {r : ControllerPublishVolumeRequest}
    (balanced : Balanced regime r.volumeId ledger) :
    Leads regime (.controllerPublishVolume r) (controllerPublishVolume r)
      (fun _ => Balanced regime r.volumeId) ledger := by
  refine Leads.reject balanced fun _ => Leads.reject balanced fun _ => Leads.reject balanced fun _ => ?_
  refine Safe.bind (Leads.loadVolume balanced) fun volume after holding => ?_
  refine Leads.refuse holding.balanced (Leads.ofOption holding.balanced fun _ _ => ?_)
  refine Leads.ofExcept holding.balanced fun parsed _ => ?_
  obtain ⟨published, filesystem⟩ := parsed
  dsimp only
  split
  · exact holding.balanced
  · exact safe_reject.mpr ⟨fun _ => holding.balanced, fun _ => holding.balanced⟩
  · rename_i state
    refine Leads.reject holding.balanced fun valid => Leads.mapErr ?_
    refine (Leads.rewrite holding (.publish r.readonly state (not_not.mp valid)) rfl rfl).weaken ?_ ?_
    · exact fun _ _ holding => holding.balanced
    · exact fun _ _ balanced => balanced

theorem controllerUnpublishVolume_leads {r : ControllerUnpublishVolumeRequest}
    (balanced : Balanced regime r.volumeId ledger) :
    Leads regime (.controllerUnpublishVolume r) (controllerUnpublishVolume r)
      (fun _ => Balanced regime r.volumeId) ledger := by
  refine Leads.reject balanced fun _ => ?_
  refine Safe.bind (Leads.mapErr (Leads.load balanced)) fun found after loaded => ?_
  cases found with
  | none => exact loaded.1
  | some volume =>
    have holding : Holding regime r.volumeId volume after := ⟨loaded.1, loaded.2.symm⟩
    dsimp only
    split
    · exact loaded.1
    · exact loaded.1
    · rename_i state
      refine Leads.mapErr ((Leads.rewrite holding (.unpublish state) rfl rfl).weaken ?_ ?_)
      · exact fun _ _ holding => holding.balanced
      · exact fun _ _ balanced => balanced

/-! ### NodePublishVolume -/

section Publish
variable {r : NodePublishVolumeRequest} {device : Option Path} {target : Path}

/-- The volume is mounted at one target more than its record says. -/
structure Mounted (regime : Regime) (name : String) (volume : Volume) (device : Option Path) (target : Path)
    (ledger : Ledger) : Prop where
  held : ledger.record = some volume
  mounted : ∃ rest, ledger.mounted = trim target :: rest ∧ Balanced regime name { ledger with mounted := rest }
  attached : regime.Alone name → ∀ path ∈ device, trim path ∈ ledger.devices

theorem Mounted.still (mounted : Mounted regime name volume device target ledger)
    (same : Still regime name ledger after) : Mounted regime name volume device target after := by
  obtain ⟨rest, more, balanced⟩ := mounted.mounted
  refine ⟨same.1.trans mounted.held, ⟨rest, same.2.1.trans more, ?_⟩, fun alone => ?_⟩
  · exact balanced.still ⟨same.1, rfl, same.2.2⟩
  · rw [same.2.2 alone]
    exact mounted.attached alone

theorem Mounted.recorded (mounted : Mounted regime name volume device target ledger)
    (admitted : Mountable volume) (fresh : ¬Contains volume.mountPaths target)
    (fits : regime.Fits name target) (made : DeviceFor volume device) :
    Balanced regime name { ledger with record := some (mountedAt volume device target) } := by
  obtain ⟨rest, more, balanced⟩ := mounted.mounted
  have kept := balanced.kept volume mounted.held
  refine ⟨nofun, ?_⟩
  rintro _ ⟨rfl⟩
  refine ⟨kept.named, Rewrite.wellFormed (.mount admitted fresh made) kept.formed, ?_, ?_, fun alone => ?_⟩
  · intro path member
    rcases List.mem_append.mp member with old | new
    · exact kept.fitting path old
    · rw [List.mem_singleton.mp new]
      exact fits
  · simp only [more]
    exact Tally.mount kept.tally fits
  · intro path member
    simp only [mountedAt] at member
    split at member
    · exact mounted.attached alone path member
    · exact kept.looped alone path member

theorem mount_leads (device : Option Path) {argv : List String}
    (mounts : deed argv = .mounts (trim r.targetPath))
    (holding : Holding regime r.volumeId volume ledger) (admitted : Mountable volume)
    (fits : regime.Fits r.volumeId r.targetPath)
    (attached : regime.Alone r.volumeId → ∀ path ∈ device, trim path ∈ ledger.devices) :
    Leads regime (.nodePublishVolume r) (issue (.command argv))
      (fun _ => Mounted regime r.volumeId volume device r.targetPath) ledger := by
  refine safe_turn ?_ ?_ (fun before still _ => holding.balanced.still still) nofun
  · intro before still
    have now := holding.still still
    simp only [Guard, mounts]
    refine ⟨fits.1, ?_⟩
    intro other held single
    obtain ⟨config, published, mode⟩ := single
    cases now.held.symm.trans held
    rcases admitted with state | ⟨-, multi⟩
    · exact now.balanced.unmounted now.held (by rw [state]; nofun)
    · exact absurd (multi config published) mode
  · intro before after _ still through
    have now := holding.still still
    simp only [Through, mounts, Ran] at through
    subst through
    refine ⟨now.held, ⟨before.mounted, rfl, now.balanced⟩, fun alone => ?_⟩
    rw [still.2.2 alone]
    exact attached alone

theorem loopFor_leads (holding : Holding regime r.volumeId volume ledger) (source : Path) :
    Leads regime (.nodePublishVolume r) (loopFor volume.loopDevice source) (fun device after =>
      (∀ known ∈ volume.loopDevice, device = known) ∧ Holding regime r.volumeId volume after ∧
        (regime.Alone r.volumeId → trim device ∈ after.devices)) ledger := by
  unfold loopFor
  split
  · rename_i device known
    refine ⟨fun other same => ?_, holding, fun alone => holding.kept.looped alone device known⟩
    rw [known] at same
    exact Option.some.inj same
  · rename_i unknown
    have attaches :
        deed (("chroot" :: "/chr" :: ["losetup", "--show", "-L", "-f", source]).map trim) = .attaches := by
      rw [trim_chroot]
      rfl
    refine safe_turn ?_ ?_ (fun before still _ => holding.balanced.still still) nofun
    · intro before still
      simp only [Guard, attaches]
    · intro before after output still through
      have now := holding.still still
      simp only [Through, attaches, Ran] at through
      obtain ⟨attached, more, record, mounted⟩ := through
      have balanced : Balanced regime r.volumeId after := by
        refine ⟨fun none => ?_, fun other held => ?_⟩
        · rw [mounted]
          exact now.balanced.absent (record ▸ none)
        · have kept := now.balanced.kept other (record ▸ held)
          refine ⟨kept.named, kept.formed, kept.fitting, ?_, fun alone path looped => ?_⟩
          · rw [mounted]
            exact kept.tally
          · exact more _ (kept.looped alone path looped)
      refine ⟨fun known same => ?_, ⟨balanced, record.trans now.held⟩, fun alone => attached alone.given⟩
      rw [unknown] at same
      cases same

theorem mountVolume_leads (holding : Holding regime r.volumeId volume ledger) (admitted : Mountable volume)
    (fits : regime.Fits r.volumeId r.targetPath) (source : Path) (isReadonly : Bool) :
    Leads regime (.nodePublishVolume r)
      (mountVolume volume.loopDevice source r.targetPath isReadonly volume.filesystem)
      (fun device after => DeviceFor volume device ∧ Mounted regime r.volumeId volume device r.targetPath after)
      ledger := by
  unfold mountVolume
  split
  · rename_i bound
    have mounts :
        deed ((mountCommand true isReadonly source r.targetPath).map trim) = .mounts (trim r.targetPath) := by
      rw [trim_mountCommand, deed_mountBind]
    refine Safe.bind (mount_leads none mounts holding admitted fits (by simp)) fun _ after mounted => ?_
    exact ⟨by simp [DeviceFor, bound], mounted⟩
  · rename_i unbound
    refine Safe.bind (loopFor_leads holding source) fun device after found => ?_
    obtain ⟨same, later, attached⟩ := found
    have mounts : deed (("chroot" :: "/chr" :: mountCommand false isReadonly device r.targetPath).map trim) =
        .mounts (trim r.targetPath) := by
      rw [trim_chroot, trim_mountCommand]
      exact deed_mount _ _ _
    refine Safe.bind (mount_leads (some device) mounts later admitted fits ?_) fun _ last mounted => ⟨?_, mounted⟩
    · rintro alone _ ⟨rfl⟩
      exact attached alone
    · simpa [DeviceFor, unbound] using same

theorem ensureBacking_leads (holding : Holding regime r.volumeId volume ledger) (admitted : Mountable volume) :
    Leads regime (.nodePublishVolume r) (ensureBacking config volume) (fun backed after =>
      Holding regime r.volumeId backed after ∧ ∃ assigned, backed = { volume with assignedNodeId := assigned })
      ledger := by
  refine Safe.bind (Leads.mapErr (Leads.rests (.call trivial) holding)) fun present after later => ?_
  split
  · exact ⟨later, _, rfl⟩
  · refine Safe.bind (Leads.rests (Rests.makeVolume _ _ _) later).mapErr fun _ last made => ?_
    refine Safe.bind (Leads.rewrite made (.pin config.node admitted) rfl rfl).mapErr fun _ _ pinned => ?_
    exact ⟨pinned, _, rfl⟩

theorem mountAndRecord_leads (holding : Holding regime r.volumeId volume ledger) (admitted : Mountable volume)
    (fresh : ¬Contains volume.mountPaths r.targetPath) (fits : regime.Fits r.volumeId r.targetPath) :
    Leads regime (.nodePublishVolume r) (mountAndRecord config r volume)
      (fun _ => Balanced regime r.volumeId) ledger := by
  refine Safe.bind (mountVolume_leads holding admitted fits _ _).mapErr fun device after done => Leads.mapErr ?_
  obtain ⟨made, mounted⟩ := done
  have update : Leads regime (.nodePublishVolume r) (mountedAt volume device r.targetPath).update
      (fun _ => Holding regime r.volumeId (mountedAt volume device r.targetPath)) after := by
    apply Leads.update
    · intro before still
      exact (mounted.still still).recorded admitted fresh fits made
    · -- this write is not dropped
      intro before still dropped
      rcases dropped with absent | ⟨-, unsealed⟩
      · rw [(mounted.still still).held] at absent
        cases absent
      · exact absurd ⟨r.targetPath, by simp [mountedAt], rfl⟩ unsealed
  exact update.weaken (fun _ _ holding => holding.balanced) fun _ _ balanced => balanced

theorem nodePublishVolume_leads (fits : regime.Fits r.volumeId r.targetPath)
    (balanced : Balanced regime r.volumeId ledger) :
    Leads regime (.nodePublishVolume r) (nodePublishVolume config r)
      (fun _ => Balanced regime r.volumeId) ledger := by
  refine Leads.reject balanced fun _ => Leads.reject balanced fun _ => ?_
  refine Leads.ofOption balanced fun capability _ => Leads.ofExcept balanced fun parsed _ => ?_
  obtain ⟨requested, filesystem⟩ := parsed
  refine Safe.bind (Leads.loadVolume balanced) fun volume after holding => ?_
  refine Leads.reject holding.balanced fun _ => Leads.refuse holding.balanced ?_
  refine Safe.bind (safe_admitPublish _ (fun _ => holding.balanced) requested r.targetPath) fun _ _ admitted => ?_
  obtain ⟨rfl, admitted⟩ := admitted
  split
  · exact holding.balanced
  · rename_i fresh
    refine Safe.bind (Leads.mapErr (Leads.rests (.call trivial) holding)) fun _ _ later => ?_
    refine Safe.bind (ensureBacking_leads later (admitted fresh)) fun backed _ promised => ?_
    obtain ⟨made, assigned, rfl⟩ := promised
    exact mountAndRecord_leads made (admitted fresh) fresh fits

end Publish

/-! ### NodeUnpublishVolume and NodeExpandVolume -/

section Unpublish
variable {r : NodeUnpublishVolumeRequest} {target : Path}

theorem unmountedFrom_loopDevice {device : Path} (looped : device ∈ (unmountedFrom volume target).loopDevice) :
    device ∈ volume.loopDevice ∧ (unmountedFrom volume target).mountPaths ≠ [] := by
  rw [unmountedFrom_mountPaths]
  unfold unmountedFrom at looped
  simp only at looped
  split at looped
  · cases looped
  · rename_i remains
    exact ⟨looped, remains⟩

/-- The record lists a target that is no longer mounted, and a device that may be detached when it was
the last one. -/
structure Unmounted (regime : Regime) (name : String) (volume : Volume) (target : Path)
    (ledger : Ledger) : Prop where
  held : ledger.record = some volume
  named : volume.name = name
  formed : WellFormed volume
  fitting : ∀ path ∈ volume.mountPaths, regime.Fits name path
  mounted : ∃ old, regime.Tally old volume.mountPaths ∧
    (∃ other ∈ old, regime.location other = regime.location (trim target)) ∧
    ledger.mounted = old.eraseP (regime.location · = regime.location (trim target))
  looped : regime.Alone name → (unmountedFrom volume target).mountPaths ≠ [] →
    ∀ device ∈ volume.loopDevice, trim device ∈ ledger.devices

theorem Unmounted.still (unmounted : Unmounted regime name volume target ledger)
    (same : Still regime name ledger after) : Unmounted regime name volume target after := by
  obtain ⟨record, mounted, devices⟩ := same
  refine ⟨record.trans unmounted.held, unmounted.named, unmounted.formed, unmounted.fitting, ?_, fun alone => ?_⟩
  · rw [mounted]
    exact unmounted.mounted
  · rw [devices alone]
    exact unmounted.looped alone

theorem Unmounted.recorded (unmounted : Unmounted regime name volume target ledger)
    (state : volume.state = .nodePublished) (present : Contains volume.mountPaths target)
    (fits : regime.Fits name target) :
    Balanced regime name { ledger with record := some (unmountedFrom volume target) } := by
  obtain ⟨old, tally, found, fewer⟩ := unmounted.mounted
  refine ⟨nofun, ?_⟩
  rintro _ ⟨rfl⟩
  have rewrite : Rewrite volume (unmountedFrom volume target) := .unmount state present
  have formed := rewrite.wellFormed unmounted.formed
  refine ⟨rewrite.name.trans unmounted.named, formed, ?_, ?_, fun alone device looped => ?_⟩
  · rw [unmountedFrom_mountPaths]
    exact fun path member => unmounted.fitting path (List.mem_of_mem_filter member)
  · rw [unmountedFrom_mountPaths]
    simp only [fewer]
    obtain ⟨-, distinct, -, -⟩ := unmounted.formed.node state
    exact Tally.unmount tally distinct fits present found
  · obtain ⟨known, remains⟩ := unmountedFrom_loopDevice looped
    exact unmounted.looped alone remains device known

theorem unmountVolume_leads (holding : Holding regime r.volumeId volume ledger)
    (fits : regime.Fits r.volumeId r.targetPath) :
    Leads regime (.nodeUnpublishVolume r) (unmountVolume r.targetPath)
      (fun _ => Unmounted regime r.volumeId volume r.targetPath) ledger := by
  have unmounts :
      deed (("chroot" :: "/chr" :: ["umount", r.targetPath]).map trim) = .unmounts (trim r.targetPath) := by
    rw [trim_chroot]
    rfl
  refine Safe.bind (safe_turn ?_ ?_ (fun before still _ => holding.balanced.still still) nofun) fun _ _ done => done
  · intro before _
    simp only [Guard, unmounts]
    exact fits.1.1
  · intro before after _ still through
    have now := holding.still still
    simp only [Through, unmounts, Ran] at through
    obtain ⟨found, rfl⟩ := through
    have kept := now.kept
    exact ⟨now.held, kept.named, kept.formed, kept.fitting, ⟨before.mounted, kept.tally, found, rfl⟩,
      fun alone _ => kept.looped alone⟩

theorem releaseLoop_leads (unmounted : Unmounted regime r.volumeId volume r.targetPath ledger) :
    Leads regime (.nodeUnpublishVolume r) (releaseLoop volume (unmountedFrom volume r.targetPath))
      (fun _ => Unmounted regime r.volumeId volume r.targetPath) ledger := by
  unfold releaseLoop
  split
  · rename_i device looped last
    have detaches :
        deed (("chroot" :: "/chr" :: ["losetup", "-d", device]).map trim) = .detaches (trim device) := by
      rw [trim_chroot]
      rfl
    have released : Safe (ledgerLogic regime (.nodeUnpublishVolume r)) (unloopVolume device)
        (fun _ => Unmounted regime r.volumeId volume r.targetPath)
        (fun _ => Unmounted regime r.volumeId volume r.targetPath) ledger := by
      refine Safe.bind (safe_turn ?_ ?_ (fun before still _ => unmounted.still still) nofun) fun _ _ done => done
      · intro before _
        simp only [Guard, detaches]
      · intro before after _ still through
        have now := unmounted.still still
        simp only [Through, detaches, Ran] at through
        subst through
        exact ⟨now.held, now.named, now.formed, now.fitting, now.mounted, fun _ remains => absurd last remains⟩
    exact Safe.bind (safe_attempt.mpr released) fun _ _ done => done
  · exact unmounted

theorem nodeUnpublishVolume_leads (fits : regime.Fits r.volumeId r.targetPath)
    (balanced : Balanced regime r.volumeId ledger) :
    Leads regime (.nodeUnpublishVolume r) (nodeUnpublishVolume r)
      (fun _ => Balanced regime r.volumeId) ledger := by
  refine Leads.reject balanced fun _ => Leads.reject balanced fun _ => ?_
  refine Safe.bind (Leads.loadVolume balanced) fun volume after holding => ?_
  split
  · exact holding.balanced
  · rename_i mounted
    rw [not_or, not_not, not_not] at mounted
    refine Safe.bind (unmountVolume_leads holding fits).mapErr fun _ middle unmounted => ?_
    refine Safe.bind (releaseLoop_leads unmounted) fun _ released unmounted => ?_
    have update : Leads regime (.nodeUnpublishVolume r) (unmountedFrom volume r.targetPath).update
        (fun _ => Holding regime r.volumeId (unmountedFrom volume r.targetPath)) released := by
      apply Leads.update
      · intro before still
        exact (unmounted.still still).recorded mounted.1 mounted.2 fits
      · intro before still dropped
        have now := unmounted.still still
        rcases dropped with absent | ⟨-, unsealed⟩
        · rw [now.held] at absent
          cases absent
        · exact absurd trivial unsealed
    refine Safe.bind update.mapErr fun _ last holding => ?_
    have cleaned : Rests regime (.nodeUnpublishVolume r) (issue (.removeDir r.targetPath)) := Rests.call trivial
    refine Safe.bind (safe_attempt.mpr ((cleaned last).weaken ?_ ?_)) fun _ _ done => done
    · exact fun _ _ still => holding.balanced.still still
    · exact fun _ _ still => holding.balanced.still still

end Unpublish

theorem nodeExpandVolume_leads {r : NodeExpandVolumeRequest} (balanced : Balanced regime r.volumeId ledger) :
    Leads regime (.nodeExpandVolume r) (nodeExpandVolume config r)
      (fun _ => Balanced regime r.volumeId) ledger := by
  refine Leads.reject balanced fun _ => Leads.reject balanced fun _ => ?_
  refine Safe.bind (Leads.loadVolume balanced) fun volume after holding => ?_
  refine Leads.reject holding.balanced fun mounted => ?_
  rw [not_or, not_not, not_not] at mounted
  dsimp only
  split
  · exact holding.balanced
  · rename_i smaller
    have grows := UInt64.not_le.mp smaller
    refine Leads.ofOption holding.balanced fun device _ => ?_
    refine Safe.bind (Leads.rests (Rests.expandVolume _ _ _ _) holding).mapErr fun _ _ later => ?_
    refine Safe.bind (Leads.rewrite later (.expand mounted.1 grows) rfl rfl).mapErr fun _ _ expanded => ?_
    exact expanded.balanced

/-- Every handler leads from a balanced ledger to a balanced ledger. -/
theorem handle_leads (config : Config) (admitted : regime.Admits request)
    (balanced : Balanced regime request.volumeId ledger) :
    Leads regime request (handle config request) (fun _ => Balanced regime request.volumeId) ledger := by
  cases request with
  | createVolume r => exact Safe.bind (createVolume_leads balanced) fun _ _ done => done
  | deleteVolume r => exact Safe.bind (deleteVolume_leads balanced) fun _ _ done => done
  | controllerPublishVolume r => exact Safe.bind (controllerPublishVolume_leads balanced) fun _ _ done => done
  | controllerUnpublishVolume r => exact Safe.bind (controllerUnpublishVolume_leads balanced) fun _ _ done => done
  | nodePublishVolume r => exact Safe.bind (nodePublishVolume_leads admitted.2 balanced) fun _ _ done => done
  | nodeUnpublishVolume r => exact Safe.bind (nodeUnpublishVolume_leads admitted.2 balanced) fun _ _ done => done
  | nodeExpandVolume r => exact Safe.bind (nodeExpandVolume_leads balanced) fun _ _ done => done

end Lvp
