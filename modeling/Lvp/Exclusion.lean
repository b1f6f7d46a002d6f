import Lvp.Agreement
import Lvp.Custody

/-! Requests in flight together. Every handler loads the record once and writes it back whole, with no lock
and no version, so requests on one volume disturb each other; when those take turns, everything that holds
of sequential runs holds of every schedule. -/

namespace Lvp
open Unix Effect Csi

variable {regime : Regime} {config : Config} {world : World} {schedule : Schedule}

/-- Requests on one volume take turns; requests on different volumes need not. -/
def Regime.rules (regime : Regime) : Rules Request Call Fault where
  admits := regime.Admits
  apart a b := a.volumeId ≠ b.volumeId
  allowed := regime.Tame

/-- A schedule that starts on an idle plugin and keeps the rules. -/
def InTurns (regime : Regime) (config : Config) (world : World) (schedule : Schedule) : Prop :=
  Pool.Schedule execFor (handle config) regime.rules (idle world) schedule

theorem compatible (regime : Regime) (config : Config) :
    Compatible execFor (handle config) regime.rules (volumeLogic regime) (Sound regime)
      (fun request => InBalance regime request.volumeId) (fun request => InBalance regime request.volumeId) where
  symm := Ne.symm
  refl := fun _ => Still.refl _
  trans := Still.trans
  step := by
    intro request world call fault sound guarded tame
    obtain ⟨turn, elsewhere, kept⟩ := exec_turn sound guarded.2 tame
    exact ⟨turn, kept, fun other apart => still_elsewhere guarded.1 elsewhere apart⟩
  stable := fun still balanced => Balanced.still balanced still
  stableDone := fun still balanced => Balanced.still balanced still
  handover := by
    intro request other world near done
    rw [not_not.mp near]
    exact done
  body := fun _ admitted balanced => handle_turns config admitted balanced

theorem play_settled (agreed : Agreed regime world) (turns : InTurns regime config world schedule) :
    Settled regime.rules (volumeLogic regime) (Sound regime) (fun request => InBalance regime request.volumeId)
      (fun request => InBalance regime request.volumeId) (Plugin.play config (idle world) schedule) :=
  have balanced (request : Request) := agreed.balanced request.volumeId
  Settled.play (compatible regime config) (.initial agreed.sound balanced) turns

def Sample.turn (index : Nat) (request : Request) (count : Nat) : Schedule :=
  .start request :: steps index count

theorem Sample.turn_permitted {plugin : Plugin} {request : Request} (index count : Nat)
    (admitted : regime.Admits request) (returned : ∀ thread ∈ plugin.threads, thread.inFlight = false) :
    Pool.Schedule execFor (handle config) regime.rules plugin (turn index request count) := by
  have healthy : ∀ plugin : Plugin,
      Pool.Schedule execFor (handle config) regime.rules plugin (steps index count) := by
    induction count with
    | zero => exact fun _ => trivial
    | succ count ih => exact fun plugin => ⟨fun _ _ _ => tame_none, ih _⟩
  refine ⟨⟨admitted, fun thread member flying => ?_⟩, healthy _⟩
  rw [returned thread member] at flying
  cases flying

/-! ### Deleting -/

/-- Volumes are named as objects are. Store calls may fail in any way, but a mount or an unmount that succeeds
is recorded. -/
def Regime.tolerant (host : Host) (owner : Location → String) : Regime where
  cwd := host.cwd
  owner := owner
  books := .lenient
  named := ObjectName

theorem tolerant_agreed {host : Host} (unmounted : host.mounts = []) (owner : Location → String) :
    Agreed (.tolerant host owner) ⟨∅, host⟩ := .initial unmounted rfl (by simp [Regime.tolerant])

/-- The mount shows the data of the volume, be it the file behind a loop device or a directory. -/
def ShowsData (config : Config) (volume : Volume) (host : Host) (mount : Mount) : Prop :=
  ∃ path ∈ backingPaths config volume, mount.content = some (host.resolve path)

instance (config : Config) (volume : Volume) (host : Host) : DecidablePred (ShowsData config volume host) :=
  fun mount => inferInstanceAs (Decidable (∃ path ∈ backingPaths config volume,
    mount.content = some (host.resolve path)))

def shownAt (config : Config) (volume : Volume) (host : Host) : List Path :=
  (host.mounts.filter (ShowsData config volume host)).map (·.target)

/-- The data of a volume is mounted only where requests for the volume mounted it. -/
theorem Secure.shownAt_sublist (secure : Secure world) {name : String} {volume : Volume}
    (held : world.store.lookup (volumeKey name) = some volume) :
    (shownAt config volume world.host).Sublist (targets name world.host) := by
  obtain ⟨named, placed⟩ := secure.placed name volume held
  have own : ∀ mount ∈ world.host.mounts, ShowsData config volume world.host mount → mount.owner = name := by
    rintro mount member ⟨path, backing, content⟩
    rw [← named]
    exact (secure.custody.shown mount member _ content).unique (placed.belongs world.host.cwd backing)
  have fewer : world.host.mounts.filter (ShowsData config volume world.host) =
      (world.host.mounts.filter (·.owner = name)).filter (ShowsData config volume world.host) := by
    rw [List.filter_filter]
    refine List.filter_congr fun mount member => ?_
    by_cases shown : ShowsData config volume world.host mount
    · simp [shown, own mount member shown]
    · simp [shown]
  rw [shownAt, fewer]
  exact List.filter_sublist.map _

theorem tolerant_secure (config : Config) {host : Host} (unmounted : host.mounts = []) (regular : host.Regular)
    (owner : Location → String) {schedule : Schedule}
    (turns : InTurns (.tolerant host owner) config ⟨∅, host⟩ schedule) :
    Secure (Plugin.play config (idle ⟨∅, host⟩) schedule).world := by
  have compatible : Compatible execFor (handle config) (Regime.tolerant host owner).rules (custodyLogic config) Secure
      (fun request world => Trusted request.volumeId world.store world.host)
      (fun request world => Trusted request.volumeId world.store world.host) := by
    refine custody_compatible config (fun _ _ => Iff.rfl) (fun request admitted => ?_) fun request call fault tame => ?_
    · cases request with
      | createVolume r => exact admitted.2
      | _ => trivial
    · cases request with
      | nodeUnpublishVolume r =>
        cases call with
        | patch key volume => exact tame trivial
        | _ => trivial
      | _ => trivial
  have start : Secure ⟨∅, host⟩ := ⟨⟨regular, by simp [unmounted]⟩, by rintro name volume ⟨⟩⟩
  have trusted (request : Request) : Trusted request.volumeId ∅ host := by rintro volume ⟨⟩
  exact (Settled.play compatible (.initial start trusted) turns).sound

/-- What is destroyed is open and mounted nowhere. -/
theorem destroyed_idle (config : Config) {host : Host} (unmounted : host.mounts = []) (regular : host.Regular)
    (owner : Location → String) {schedule : Schedule}
    (turns : InTurns (.tolerant host owner) config ⟨∅, host⟩ schedule)
    {thread : Thread Request Call Call.Answer Status Reply}
    (member : thread ∈ (Plugin.play config (idle ⟨∅, host⟩) schedule).threads)
    {call : Call} (next : thread.program.pending = some call) (destroys : call.destroys) :
    (∃ volume, (Plugin.play config (idle ⟨∅, host⟩) schedule).world.store.lookup
        (volumeKey thread.request.volumeId) = some volume ∧ volume.state = .«open» ∧
        shownAt config volume (Plugin.play config (idle ⟨∅, host⟩) schedule).world.host = []) ∧
      targets thread.request.volumeId (Plugin.play config (idle ⟨∅, host⟩) schedule).world.host = [] := by
  have settled := play_settled (tolerant_agreed unmounted owner) turns
  have guarded := settled.guarded (compatible _ config) member next
  obtain ⟨⟨volume, held, state⟩, nowhere⟩ := guarded.2.idle destroys
  have shown : (shownAt config volume (Plugin.play config (idle ⟨∅, host⟩) schedule).world.host).Sublist [] := by
    rw [← nowhere]
    exact (tolerant_secure config unmounted regular owner turns).shownAt_sublist held
  exact ⟨⟨volume, held, state, List.sublist_nil.mp shown⟩, nowhere⟩

def Sample.inUse : Schedule :=
  turn 0 (create "a" "/pv2/" "ext4" 1) 2 ++ turn 1 (publish "a" 1) 2 ++ turn 2 (nodePublish "a" "/t" 1) 12

/-- It is given up again, up to the point where its data is removed. -/
def Sample.orderly : Schedule :=
  inUse ++ turn 3 (nodeUnpublish "a" "/t") 5 ++ turn 4 (unpublish "a") 2 ++ turn 5 (delete "a") 1

theorem Sample.inUse_permitted : InTurns (.tolerant {} fun _ => "a") Sample.config ⟨∅, {}⟩ inUse := by
  have plain : ObjectName "a" := by decide
  simp only [InTurns, inUse, Pool.schedule_append]
  refine ⟨⟨?_, ?_⟩, ?_⟩
  · exact turn_permitted 0 2 ⟨nofun, plain⟩ (by decide +kernel)
  · exact turn_permitted 1 2 ⟨nofun, trivial⟩ (by decide +kernel)
  · exact turn_permitted 2 12 ⟨nofun, ⟨rfl, trivial⟩, by simp [Regime.tolerant]⟩ (by decide +kernel)

theorem Sample.orderly_permitted : InTurns (.tolerant {} fun _ => "a") Sample.config ⟨∅, {}⟩ orderly := by
  have started := inUse_permitted
  simp only [InTurns, orderly, Pool.schedule_append] at started ⊢
  refine ⟨⟨⟨started, ?_⟩, ?_⟩, ?_⟩
  · exact turn_permitted 3 5 ⟨nofun, ⟨rfl, trivial⟩, by simp [Regime.tolerant]⟩ (by decide +kernel)
  · exact turn_permitted 4 2 ⟨nofun, trivial⟩ (by decide +kernel)
  · exact turn_permitted 5 1 ⟨nofun, trivial⟩ (by decide +kernel)

theorem destroyed_idle_orderly :
    ∃ thread ∈ (Plugin.play Sample.config (idle ⟨∅, {}⟩) Sample.orderly).threads,
      ∃ call, thread.program.pending = some call ∧ call.destroys ∧
        ∃ volume, (Plugin.play Sample.config (idle ⟨∅, {}⟩) Sample.orderly).world.store.lookup
            (volumeKey thread.request.volumeId) = some volume ∧ volume.state = .«open» ∧
          shownAt Sample.config volume (Plugin.play Sample.config (idle ⟨∅, {}⟩) Sample.orderly).world.host =
            [] := by
  have shape : ((Plugin.play Sample.config (idle ⟨∅, {}⟩) Sample.orderly).threads[5]?.bind
      fun thread => thread.program.pending).any Call.destroys = true := by decide +kernel
  obtain ⟨call, found, destroys⟩ := (Option.any_eq_true _ _).mp shape
  obtain ⟨thread, here, next⟩ := Option.bind_eq_some_iff.mp found
  have member := List.mem_of_getElem? here
  exact ⟨thread, member, call, next, destroys,
    (destroyed_idle Sample.config rfl (.unattached rfl) _ Sample.orderly_permitted member next destroys).1⟩

/-- Create and start to delete; publish and mount while the deletion is under way. -/
def Sample.hasty : Schedule :=
  [.start (create "a" "/pv2/" "ext4" 1)] ++ steps 0 2 ++ [.start (delete "a")] ++ steps 1 1 ++
    [.start (publish "a" 1)] ++ steps 2 2 ++ [.start (nodePublish "a" "/t" 1)] ++ steps 3 12

theorem hasty_destroys_mounted :
    ∃ thread ∈ (Plugin.play Sample.config (idle ⟨∅, {}⟩) Sample.hasty).threads,
      thread.request.volumeId = "a" ∧ (∃ call, thread.program.pending = some call ∧ call.destroys) ∧
        ∀ volume, (Plugin.play Sample.config (idle ⟨∅, {}⟩) Sample.hasty).world.store.lookup (volumeKey "a") =
          some volume → volume.state = .nodePublished ∧
            shownAt Sample.config volume (Plugin.play Sample.config (idle ⟨∅, {}⟩) Sample.hasty).world.host =
              ["/t"] := by
  have shape : (Plugin.play Sample.config (idle ⟨∅, {}⟩) Sample.hasty).threads[1]?.map
      (fun thread => (thread.request.volumeId, thread.program.pending.any Call.destroys)) = some ("a", true) := by
    decide +kernel
  obtain ⟨thread, found, same⟩ := Option.map_eq_some_iff.mp shape
  obtain ⟨name, pending⟩ := Prod.mk.inj same
  obtain ⟨call, next, destroys⟩ := (Option.any_eq_true _ _).mp pending
  refine ⟨thread, List.mem_of_getElem? found, name, ⟨call, next, destroys⟩, ?_⟩
  have state : ((Plugin.play Sample.config (idle ⟨∅, {}⟩) Sample.hasty).world.store.lookup (volumeKey "a")).map
      (fun volume => (volume.state,
        shownAt Sample.config volume (Plugin.play Sample.config (idle ⟨∅, {}⟩) Sample.hasty).world.host)) =
      some (.nodePublished, ["/t"]) := by decide +kernel
  intro volume held
  rw [held] at state
  exact Prod.mk.inj (Option.some.inj state)

/-! ### One target at a time -/

/-- A volume for one target is never mounted at two. -/
theorem single_target (config : Config) {host : Host} (unmounted : host.mounts = []) (regular : host.Regular)
    (owner : Location → String) {schedule : Schedule}
    (turns : InTurns (.tolerant host owner) config ⟨∅, host⟩ schedule)
    {name : String} {volume : Volume}
    (held : (Plugin.play config (idle ⟨∅, host⟩) schedule).world.store.lookup (volumeKey name) = some volume)
    (single : Single volume) :
    (shownAt config volume (Plugin.play config (idle ⟨∅, host⟩) schedule).world.host).length ≤ 1 ∧
      (targets name (Plugin.play config (idle ⟨∅, host⟩) schedule).world.host).length ≤ 1 := by
  have one := (play_settled (tolerant_agreed unmounted owner) turns).sound.single name volume held single
  have shown : (shownAt config volume (Plugin.play config (idle ⟨∅, host⟩) schedule).world.host).Sublist
      (targets name (Plugin.play config (idle ⟨∅, host⟩) schedule).world.host) :=
    (tolerant_secure config unmounted regular owner turns).shownAt_sublist held
  exact ⟨shown.length_le.trans one, one⟩

theorem single_target_inUse :
    ∃ volume, (Plugin.play Sample.config (idle ⟨∅, {}⟩) Sample.inUse).world.store.lookup (volumeKey "a") =
      some volume ∧
      (shownAt Sample.config volume (Plugin.play Sample.config (idle ⟨∅, {}⟩) Sample.inUse).world.host).length ≤ 1 ∧
      "/t" ∈ shownAt Sample.config volume (Plugin.play Sample.config (idle ⟨∅, {}⟩) Sample.inUse).world.host := by
  have shape : ((Plugin.play Sample.config (idle ⟨∅, {}⟩) Sample.inUse).world.store.lookup (volumeKey "a")).map
      (fun volume => (volume.publishedConfig,
        shownAt Sample.config volume (Plugin.play Sample.config (idle ⟨∅, {}⟩) Sample.inUse).world.host)) =
      some (some ⟨.singleNodeWriter⟩, ["/t"]) := by decide +kernel
  obtain ⟨volume, held, same⟩ := Option.map_eq_some_iff.mp shape
  obtain ⟨published, shown⟩ := Prod.mk.inj same
  have single : Single volume := ⟨_, published, by decide⟩
  refine ⟨volume, held, (single_target Sample.config rfl (.unattached rfl) _ Sample.inUse_permitted held single).1, ?_⟩
  rw [shown]
  exact List.mem_singleton_self _

/-- Create and publish in the mode that travels as `raw`, then two overlapping mounts at two targets. -/
def Sample.crossed (raw : Int32) : Schedule :=
  [.start (create "a" "/pv2/" "ext4" raw)] ++ steps 0 2 ++ [.start (publish "a" raw)] ++ steps 1 2 ++
    [.start (nodePublish "a" "/t" raw), .start (nodePublish "a" "/u" raw)] ++
    steps 2 1 ++ steps 3 1 ++ steps 2 11 ++ steps 3 5

/-- The write that records the first mount fails. -/
def Sample.forgotten : Run :=
  [(create "a" "/pv2/" "ext4" 1, healthy), (publish "a" 1, healthy),
    (nodePublish "a" "/t" 1, fun n _ => if n = 11 then .fails else .none), (nodePublish "a" "/u" 1, healthy)]

/-- The volume is in that world for one target, and its data is mounted at two. -/
def ShownTwice (config : Config) (name : String) (world : World) : Prop :=
  ∃ volume, world.store.lookup (volumeKey name) = some volume ∧ volume.publishedConfig = some ⟨.singleNodeWriter⟩ ∧
    shownAt config volume world.host = ["/u", "/t"]

theorem shownTwice_of {name : String} (shape : (world.store.lookup (volumeKey name)).map
    (fun volume => (volume.publishedConfig, shownAt config volume world.host)) =
      some (some ⟨.singleNodeWriter⟩, ["/u", "/t"])) : ShownTwice config name world := by
  obtain ⟨volume, held, same⟩ := Option.map_eq_some_iff.mp shape
  exact ⟨volume, held, Prod.mk.inj same⟩

theorem mounted_twice :
    ShownTwice Sample.config "a" (Plugin.play Sample.config (idle ⟨∅, {}⟩) (Sample.crossed 1)).world ∧
      ShownTwice Sample.config "a" (serveAll Sample.config ⟨∅, {}⟩ Sample.forgotten) :=
  ⟨shownTwice_of (by decide +kernel), shownTwice_of (by decide +kernel)⟩

/-! ### No mount record is lost -/

/-- Once all requests on a volume have returned, it is mounted where its record says, and the recorded loop
device is attached. -/
theorem mount_records_kept (config : Config) {regime : Regime} (books : regime.books = .exact) {name : String}
    (only : regime.only = some name) {world : World} (agreed : Agreed regime world) {schedule : Schedule}
    (turns : InTurns regime config world schedule)
    (returned : ∀ thread ∈ (Plugin.play config (idle world) schedule).threads, thread.inFlight = false) :
    (∀ location, (∃ target ∈ targets name (Plugin.play config (idle world) schedule).world.host,
        regime.location target = location) ↔
      ∃ volume, (Plugin.play config (idle world) schedule).world.store.lookup (volumeKey name) = some volume ∧
        ∃ path ∈ volume.mountPaths, regime.location path = location) ∧
    ∀ volume, (Plugin.play config (idle world) schedule).world.store.lookup (volumeKey name) = some volume →
      ∀ device ∈ volume.loopDevice,
        trim device ∈ (Plugin.play config (idle world) schedule).world.host.devices := by
  have settled := play_settled agreed turns
  have balanced : InBalance regime name (Plugin.play config (idle world) schedule).world := by
    apply settled.idle (.deleteVolume ⟨name⟩)
    intro thread member flying
    rw [returned thread member] at flying
    cases flying
  refine ⟨balanced.locations books, fun volume held device looped => ?_⟩
  exact (balanced.kept volume held).looped only device looped

def Sample.lonely : Regime where
  cwd := []
  owner _ := "a"
  books := .exact
  only := some "a"

/-- Create and publish, then two mounts at two targets, one after the other. -/
def Sample.uncrossed : Schedule :=
  turn 0 (create "a" "/pv2/" "ext4" 7) 2 ++ turn 1 (publish "a" 7) 2 ++ turn 2 (nodePublish "a" "/t" 7) 12 ++
    turn 3 (nodePublish "a" "/u" 7) 5

theorem Sample.uncrossed_permitted : InTurns lonely Sample.config ⟨∅, {}⟩ uncrossed := by
  have alone : ∀ name ∈ lonely.only, "a" = name := fun name only => Option.some.inj only
  have fits : ∀ target, trim target = target → lonely.Fits "a" target :=
    fun target same => ⟨⟨rfl, trivial⟩, fun _ => same⟩
  simp only [InTurns, uncrossed, Pool.schedule_append]
  refine ⟨⟨⟨?_, ?_⟩, ?_⟩, ?_⟩
  · exact turn_permitted 0 2 ⟨alone, trivial⟩ (by decide +kernel)
  · exact turn_permitted 1 2 ⟨alone, trivial⟩ (by decide +kernel)
  · exact turn_permitted 2 12 ⟨alone, fits "/t" (by decide)⟩ (by decide +kernel)
  · exact turn_permitted 3 5 ⟨alone, fits "/u" (by decide)⟩ (by decide +kernel)

theorem mount_records_kept_uncrossed :
    ∃ volume, (Plugin.play Sample.config (idle ⟨∅, {}⟩) Sample.uncrossed).world.store.lookup (volumeKey "a") =
        some volume ∧ ∃ path ∈ volume.mountPaths, Sample.lonely.location path = ["t"] := by
  have agreed : Agreed Sample.lonely ⟨∅, {}⟩ := .initial rfl rfl (by simp [Host.devices])
  have kept := mount_records_kept Sample.config rfl rfl agreed Sample.uncrossed_permitted (by decide +kernel)
  exact (kept.1 ["t"]).mp ⟨"/t", by decide +kernel, by decide⟩

theorem crossed_loses_mount :
    (∀ thread ∈ (Plugin.play Sample.config (idle ⟨∅, {}⟩) (Sample.crossed 7)).threads, thread.inFlight = false) ∧
      "/t" ∈ targets "a" (Plugin.play Sample.config (idle ⟨∅, {}⟩) (Sample.crossed 7)).world.host ∧
      ∃ volume, (Plugin.play Sample.config (idle ⟨∅, {}⟩) (Sample.crossed 7)).world.store.lookup (volumeKey "a") =
        some volume ∧ volume.mountPaths = ["/u"] := by
  refine ⟨by decide +kernel, by decide +kernel, ?_⟩
  apply Option.map_eq_some_iff.mp
  decide +kernel

end Lvp
