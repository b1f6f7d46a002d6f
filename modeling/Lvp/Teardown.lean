import Lvp.Agreement
import Lvp.Repetition
import Lvp.Retrying

/-!
Giving a volume up. Whatever a sequential run has done, the targets in the record of a volume can be unmounted in any
order, if none lies below another, and the volume is then open and mounted nowhere.
-/

namespace Lvp
open Unix Effect Csi

variable {regime : Regime} {config : Config} {request : Request} {start world : World} {volume : Volume}
  {name node : String} {host : Host} {owner : Location → String} {target : Path} {paths : List Path}

/-! ### One mount at each target -/

theorem Kept.distinct {ledger : Ledger} (kept : Kept (.faithful host owner) name ledger volume) :
    (volume.mountPaths.map (Regime.faithful host owner).location).Nodup := by
  have normal : ∀ path ∈ volume.mountPaths, Normalised path := by
    intro path member
    have fits := kept.fitting path member
    have spelled : Normalised (trim path) := fits.1.2
    rwa [fits.2 rfl] at spelled
  by_cases state : volume.state = .nodePublished
  · obtain ⟨-, apart, -⟩ := kept.formed.node state
    rw [List.Nodup, List.pairwise_map]
    refine apart.imp_of_mem ?_
    intro p q left right differ location
    have equal : p = q := (normal p left).injective (normal q right) location
    exact differ (congrArg components equal)
  · simp [kept.formed.mountPaths_nil state]

/-- Mounts at a location that the CO uses for the volume are mounts of the volume. -/
theorem stacked_targets (sound : Sound regime world) (target : Path)
    (own : regime.owner (regime.location (trim target)) = name) :
    stacked world.host target =
      ((targets name world.host).map regime.location).count (regime.location (trim target)) := by
  have same (path : Path) : world.host.resolve path = regime.location path := by
    rw [Host.resolve, sound.cwd, Regime.location]
  unfold stacked targets
  rw [List.count, List.countP_map, List.countP_map, List.countP_filter]
  refine List.countP_congr fun mount member => ?_
  have owned := (sound.owned mount member).1
  simp only [same, Function.comp_apply, decide_eq_true_eq, Bool.and_eq_true, beq_iff_eq]
  constructor
  · intro here
    rw [here, own] at owned
    exact ⟨here, owned.symm⟩
  · exact And.left

theorem Agreed.stacked_one (agreed : Agreed (.faithful host owner) world)
    (held : world.store.lookup (volumeKey name) = some volume) (listed : target ∈ volume.mountPaths) :
    stacked world.host target = 1 := by
  have kept := (agreed.balanced name).kept volume held
  have fits := kept.fitting target listed
  have tally : ((targets name world.host).map (Regime.faithful host owner).location).Perm
      (volume.mountPaths.map (Regime.faithful host owner).location) := kept.tally
  rw [stacked_targets agreed.sound target fits.1.1, fits.2 rfl, tally.count_eq]
  exact List.count_eq_one_of_mem kept.distinct (List.mem_map_of_mem listed)

/-! ### Other volumes -/

theorem Elsewhere.trans {middle after : World} (first : Elsewhere name world middle)
    (second : Elsewhere name middle after) :
    Elsewhere name world after := by
  intro other different
  obtain ⟨record, mounted⟩ := first other different
  obtain ⟨record', mounted'⟩ := second other different
  exact ⟨record'.trans record, mounted'.trans mounted⟩

theorem serve_elsewhere {oracle : Oracle Call Fault} (agreed : Agreed regime world)
    (admitted : regime.Admits request) (tame : ∀ n call, regime.Tame request call (oracle n call)) :
    Elsewhere request.volumeId world (serve config request oracle world).2 := by
  have step : ∀ (n : Nat) (now : World) (call : Call),
      (Sound regime now ∧ Elsewhere request.volumeId world now) → (volumeLogic regime request).guard now call →
      (volumeLogic regime request).step now call (execFor request (oracle n call) now call).1
          (execFor request (oracle n call) now call).2 ∧
        Sound regime (execFor request (oracle n call) now call).2 ∧
          Elsewhere request.volumeId world (execFor request (oracle n call) now call).2 := by
    intro n now call valid guarded
    obtain ⟨turn, elsewhere, sound⟩ := exec_turn valid.1 guarded.2 (tame n call)
    exact ⟨turn, sound, valid.2.trans elsewhere⟩
  have safe := handle_turns config admitted (agreed.balanced request.volumeId)
  exact (Safe.run _ (fun now _ => Still.refl _) step ⟨agreed.sound, fun _ _ => ⟨rfl, rfl⟩⟩ safe).2.1.2

/-! ### One target -/

/-- What the record of a volume comes to that nobody uses. -/
def freed (volume : Volume) : Volume :=
  { volume with
    state := .«open»
    mountPaths := []
    loopDevice := none
    publishedConfig := none
    publishedReadonly := false }

theorem freed_unmountedFrom (volume : Volume) (target : Path) :
    freed (unmountedFrom volume target) = freed volume := by
  obtain ⟨_, _, _, same, -⟩ := unmountedFrom_kept volume target
  rw [same]
  rfl

theorem freed_opened (formed : WellFormed volume) (state : volume.state = .«open») : freed volume = volume := by
  obtain ⟨unmounted, unlooped, published, readonly⟩ := formed.opened state
  cases volume
  simp_all [freed]

theorem freed_withdrawn (unmounted : volume.mountPaths = []) (unlooped : volume.loopDevice = none) :
    withdrawn volume = freed volume := by
  cases volume
  simp_all [freed, withdrawn]

theorem unmountedFrom_others (others : ¬∀ path ∈ volume.mountPaths, same path target) :
    (unmountedFrom volume target).loopDevice = volume.loopDevice := by
  have some : volume.mountPaths.filter (¬same · target) ≠ [] := by
    rw [← unmountedFrom_mountPaths]
    exact fun none => others ((unmountedFrom_nil volume target).mp none)
  unfold unmountedFrom
  dsimp only
  rw [if_neg some]

theorem unmountedFrom_perm {ledger : Ledger} {rest : List Path}
    (kept : Kept (.faithful host owner) name ledger volume)
    (order : (target :: rest).Perm volume.mountPaths) : rest.Perm (unmountedFrom volume target).mountPaths := by
  have listed : target ∈ volume.mountPaths := order.mem_iff.mp List.mem_cons_self
  have present : Contains volume.mountPaths target := ⟨target, listed, rfl⟩
  obtain ⟨-, apart, -⟩ := kept.formed.node (kept.formed.mounted_of_present present)
  obtain ⟨path, member, equal, perm⟩ := perm_filter_same apart present
  have first : path = target := List.inj_on_of_nodup_map kept.distinct member listed (resolve_same equal _)
  rw [first] at perm
  rw [unmountedFrom_mountPaths]
  exact (order.trans perm).cons_inv

theorem Regime.Fits.filled (fits : (Regime.faithful host owner).Fits name target) : target ≠ "" := by
  have normal : Normalised (trim target) := fits.1.2
  rw [fits.2 rfl] at normal
  intro empty
  have absolute := normal.absolute
  rw [empty] at absolute
  simp [isAbsolute] at absolute

theorem serve_unmount (agreed : Agreed (.faithful host owner) world) (named : name ≠ "")
    (held : world.store.lookup (volumeKey name) = some volume) (listed : target ∈ volume.mountPaths) :
    let result := serve config (.nodeUnpublishVolume ⟨name, target⟩) healthy world
    result.1 = .ok .done ∧ result.2.store.lookup (volumeKey name) = some (unmountedFrom volume target) ∧
      ((∀ path ∈ volume.mountPaths, same path target) →
        ∀ device ∈ volume.loopDevice, ¬result.2.host.attached (trim device)) := by
  have kept := (agreed.balanced name).kept volume held
  have key : volume.key = volumeKey name := congrArg volumeKey kept.named
  have present : Contains volume.mountPaths target := ⟨target, listed, rfl⟩
  have unmountable : Unmountable ⟨name, target⟩ volume := ⟨kept.formed.mounted_of_present present, present⟩
  have began : Seen ⟨name, target⟩ volume world (standing volume target world.host) := .before (key ▸ held)
  obtain ⟨returned, seen⟩ := began.served config healthy named (kept.fitting target listed).filled key unmountable
  rw [fates_healthy] at returned seen
  have finished : Finished (released volume target).isSome
      (attempt (released volume target).isSome ⟨.none, .none, .none, .none⟩ (standing volume target world.host)) :=
    (attempt_recorded rfl).mpr (agreed.stacked_one held listed)
  have completed := (seen.completed present returned).mpr finished
  have written := seen.held
  rw [finished.2.1, if_neg Bool.false_ne_true, key] at written
  refine ⟨completed.returned, written, fun last => ?_⟩
  obtain ⟨now, -, -, freed⟩ := completed.recorded
  exact (freed last).2.2

/-! ### What the host refuses -/

/-- One of the paths leads to a place below the other. -/
def Nested (cwd : Location) (p q : Path) : Prop :=
  resolve cwd p ≠ resolve cwd q ∧ (resolve cwd p <+: resolve cwd q ∨ resolve cwd q <+: resolve cwd p)

instance (cwd : Location) (p q : Path) : Decidable (Nested cwd p q) := inferInstanceAs (Decidable (_ ∧ _))

theorem Nested.symm {cwd : Location} {p q : Path} (nested : Nested cwd p q) : Nested cwd q p :=
  ⟨nested.1.symm, nested.2.symm⟩

/-- Something is mounted below the target, which keeps it busy, or above it, which may hide it. -/
def Obstructed (host : Host) (target : Path) : Prop := ∃ mount ∈ host.mounts, Nested host.cwd mount.target target

/-- A `umount` of a target that is obstructed. -/
def Refusable (event : CallEvent) : Prop :=
  ∃ target, event.op = .command ["chroot", "/chr", "umount", target] ∧ Obstructed event.world.host target

/-- A request that has only looked for its record has changed nothing. -/
def Waiting (start : World) : Phase → World → Prop
  | .start, now | .on _ .loaded, now => now = start
  | _, _ => True

theorem Waiting.step {phase : Phase} {now : World} {call : Call} {resume : call.Answer → Phase} {fault : Fault}
    (waiting : Waiting start phase now) (issued : Issues config request phase call resume) (_ : True) :
    Waiting start (resume (execFor request fault now call).1) (execFor request fault now call).2 := by
  have looked {key : String} (begun : now = start) :
      Waiting start (through found (execFor request fault now (.getOpt key)).1)
        (execFor request fault now (.getOpt key)).2 := by
    cases fault with
    | none =>
      show Waiting start (found (now.store.lookup key)) now
      cases now.store.lookup key with
      | none => trivial
      | some volume => exact begun
    | _ => trivial
  have passed {α : Type} {answer : Except Failure α} {volume : Volume} {next : α → Stage} {after : World}
      (later : ∀ value, next value ≠ .loaded) :
      Waiting start (through (fun value => .on volume (next value)) answer) after := by
    cases answer with
    | error failure => trivial
    | ok value =>
      have left := later value
      show Waiting start (.on volume (next value)) after
      cases stage : next value <;> trivial
  cases issued with
  | load | reload => exact looked waiting
  | write writes => cases writes <;> exact passed nofun
  | create | delete => cases (execFor _ fault now _).1 <;> trivial
  | probe | check => rcases (execFor _ fault now _).1 with failure | _ | _ <;> trivial
  | detach | removeTarget => trivial
  | _ => exact passed nofun

theorem Issues.umounts {phase : Phase} {call : Call} {resume : call.Answer → Phase}
    (issued : Issues config request phase call resume)
    (unmounts : call = .command ["chroot", "/chr", "umount", target]) :
    ∃ r volume, request = .nodeUnpublishVolume r ∧ phase = .on volume .loaded ∧ target = trim r.targetPath := by
  cases issued with
  | @umount r volume => exact ⟨r, volume, rfl, rfl, by simpa using unmounts.symm⟩
  | mount | mountBind => simp [mountCommand] at unmounts
  | grow =>
    unfold growCommand at unmounts
    split at unmounts <;> simp at unmounts
  | _ => simp at unmounts

/-- A target is unmounted before anything else is done to the host. -/
theorem umount_first {oracle : Oracle Call Fault} {event : CallEvent}
    (issued : event ∈ traced config request oracle world)
    (unmounts : event.op = .command ["chroot", "/chr", "umount", target]) :
    event.world = world ∧ ∃ r, request = .nodeUnpublishVolume r ∧ target = trim r.targetPath := by
  have begun : Waiting world .start world := rfl
  obtain ⟨-, visited⟩ := Follows.keeps Waiting.step (handle_follows config request) begun fun _ _ => trivial
  obtain ⟨phase, resume, issues, waiting⟩ := visited event issued
  obtain ⟨r, volume, about, loaded, there⟩ := issues.umounts unmounts
  subst loaded
  exact ⟨waiting, r, about, there⟩

theorem serve_unhindered {oracle : Oracle Call Fault}
    (unhindered : ∀ event ∈ traced config request oracle world, event.fault = .none) :
    serve config request oracle world = serve config request healthy world := Program.run_steady unhindered

/-! ### The controller -/

theorem serve_withdraw (named : name ≠ "") (held : world.store.lookup (volumeKey name) = some volume)
    (key : volume.key = volumeKey name) (state : volume.state = .controllerPublished) :
    serve config (.controllerUnpublishVolume ⟨name, node⟩) healthy world =
      (.ok .done, { world with store := world.store.insert (volumeKey name) (withdrawn volume) }) := by
  have loaded : (Volume.load name).run (execFor (.controllerUnpublishVolume ⟨name, node⟩)) healthy world =
      (.ok (some volume), world) := by
    rw [← held]
    exact run_load name world name
  have present : (withdrawn volume).key ∈ world.store :=
    AList.lookup_isSome.mp (by rw [show (withdrawn volume).key = volumeKey name from key, held]; rfl)
  have saved : (withdrawn volume).update.run (execFor (.controllerUnpublishVolume ⟨name, node⟩)) healthy world =
      (.ok (), { world with store := world.store.insert (volumeKey name) (withdrawn volume) }) := by
    rw [Volume.update, run_issue, ← key]
    exact if_pos present
  rw [serve, handle, Program.run_bind, controllerUnpublishVolume, Program.reject, if_neg named, Program.ret_bind,
    Program.run_bind, Program.run_mapErr, loaded]
  dsimp only [Except.mapError]
  rw [state]
  dsimp only [withdrawn] at saved ⊢
  rw [Program.run_mapErr, saved]
  rfl

/-! ### All of it -/

/-- Unmounts the volume from these targets, in this order, and unpublishes it. -/
def teardown (name node : String) (paths : List Path) : List Request :=
  paths.map (fun path => .nodeUnpublishVolume ⟨name, path⟩) ++ [.controllerUnpublishVolume ⟨name, node⟩]

/-- Every request of the run returns Ok. -/
def AllDone (config : Config) : World → Run → Prop
  | _, [] => True
  | world, (request, oracle) :: rest =>
    (serve config request oracle world).1 = .ok .done ∧ AllDone config (serve config request oracle world).2 rest

/-- The volume is open, mounted nowhere and without a device, and nothing has happened to the others. -/
structure TornDown (name : String) (volume : Volume) (world after : World) : Prop where
  record : after.store.lookup (volumeKey name) = some (freed volume)
  mounted : targets name after.host = []
  detached : ∀ device ∈ volume.loopDevice, ¬after.host.attached (trim device)
  others : Elsewhere name world after

theorem torn_unpublished (agreed : Agreed (.faithful host owner) world) (named : name ≠ "")
    (held : world.store.lookup (volumeKey name) = some volume) (unmounted : volume.mountPaths = []) :
    let after := (serve config (.controllerUnpublishVolume ⟨name, node⟩) healthy world).2
    (serve config (.controllerUnpublishVolume ⟨name, node⟩) healthy world).1 = .ok .done ∧
      TornDown name volume world after ∧ after.host = world.host := by
  have kept := (agreed.balanced name).kept volume held
  have nowhere : targets name world.host = [] := by
    have tally := kept.tally
    rw [unmounted] at tally
    exact Tally.nil tally
  have admitted : (Regime.faithful host owner).Admits (.controllerUnpublishVolume ⟨name, node⟩) := ⟨nofun, trivial⟩
  have others : Elsewhere name world (serve config (.controllerUnpublishVolume ⟨name, node⟩) healthy world).2 :=
    serve_elsewhere agreed admitted fun _ _ => tame_none
  cases state : volume.state with
  | «open» =>
    obtain ⟨-, unlooped, -⟩ := kept.formed.opened state
    have same : serve config (.controllerUnpublishVolume ⟨name, node⟩) healthy world = (.ok .done, world) := by
      refine serve_unpublish_again named fun other lookup => ?_
      cases held.symm.trans lookup
      exact state
    rw [same]
    refine ⟨rfl, ⟨?_, nowhere, by simp [unlooped], fun _ _ => ⟨rfl, rfl⟩⟩, rfl⟩
    rw [freed_opened kept.formed state]
    exact held
  | controllerPublished =>
    obtain ⟨-, unlooped, -⟩ := kept.formed.controller state
    have key : volume.key = volumeKey name := congrArg volumeKey kept.named
    rw [serve_withdraw named held key state] at others
    rw [serve_withdraw named held key state]
    refine ⟨rfl, ⟨?_, nowhere, by simp [unlooped], others⟩, rfl⟩
    rw [← freed_withdrawn unmounted unlooped]
    exact AList.lookup_insert _
  | nodePublished => exact absurd unmounted (kept.formed.node state).1

theorem Agreed.unobstructed (agreed : Agreed (.faithful host owner) world)
    (held : world.store.lookup (volumeKey name) = some volume)
    (own : ∀ path ∈ volume.mountPaths, ¬Nested host.cwd path target)
    (foreign : ∀ other, other ≠ name → ∀ path ∈ targets other world.host, ¬Nested host.cwd path target) :
    ¬Obstructed world.host target := by
  rintro ⟨mount, member, nested⟩
  rw [show world.host.cwd = host.cwd from agreed.sound.cwd] at nested
  have mounted : mount.target ∈ targets mount.owner world.host := mem_targets.mpr ⟨mount, member, rfl, rfl⟩
  by_cases mine : mount.owner = name
  · rw [mine] at mounted
    have tally : ((targets name world.host).map (resolve host.cwd)).Perm (volume.mountPaths.map (resolve host.cwd)) :=
      ((agreed.balanced name).kept volume held).tally
    obtain ⟨path, listed, same⟩ := List.mem_map.mp (tally.mem_iff.mp (List.mem_map_of_mem mounted))
    refine own path listed ?_
    rw [Nested, same]
    exact nested
  · exact foreign _ mine _ mounted nested

theorem unhindered_unmount {oracle : Oracle Call Fault} (free : ¬Obstructed world.host target)
    (trimmed : trim target = target)
    (refused : ∀ event ∈ traced config (.nodeUnpublishVolume ⟨name, target⟩) oracle world,
      event.fault ≠ .none → Refusable event) :
    serve config (.nodeUnpublishVolume ⟨name, target⟩) oracle world =
      serve config (.nodeUnpublishVolume ⟨name, target⟩) healthy world := by
  refine serve_unhindered fun event issued => ?_
  by_contra failed
  obtain ⟨other, unmounts, obstructed⟩ := refused event issued failed
  obtain ⟨same, r, about, there⟩ := umount_first issued unmounts
  cases about
  rw [same, there, trimmed] at obstructed
  exact free obstructed

theorem unhindered_unpublish {oracle : Oracle Call Fault}
    (refused : ∀ event ∈ traced config (.controllerUnpublishVolume ⟨name, node⟩) oracle world,
      event.fault ≠ .none → Refusable event) :
    serve config (.controllerUnpublishVolume ⟨name, node⟩) oracle world =
      serve config (.controllerUnpublishVolume ⟨name, node⟩) healthy world := by
  refine serve_unhindered fun event issued => ?_
  by_contra failed
  obtain ⟨other, unmounts, -⟩ := refused event issued failed
  obtain ⟨-, r, about, -⟩ := umount_first issued unmounts
  cases about

/-- The last request: the volume is mounted nowhere any more, and the controller leaves the host alone. -/
theorem torn_last {down : Run} (agreed : Agreed (.faithful host owner) world) (named : name ≠ "")
    (held : world.store.lookup (volumeKey name) = some volume) (unmounted : volume.mountPaths = [])
    (requests : down.map (·.1) = teardown name node [])
    (refused : ∀ entry ∈ history config world down, entry.2.fault ≠ .none → Refusable entry.2) :
    AllDone config world down ∧ TornDown name volume world (serveAll config world down) ∧
      (serveAll config world down).host = world.host := by
  obtain ⟨⟨request, oracle⟩, rest, rfl, rfl, none⟩ := List.map_eq_cons_iff.mp requests
  obtain rfl := List.map_eq_nil_iff.mp none
  have same : serve config (.controllerUnpublishVolume ⟨name, node⟩) oracle world =
      serve config (.controllerUnpublishVolume ⟨name, node⟩) healthy world :=
    unhindered_unpublish fun event issued => refused _ (List.mem_append_left _ (List.mem_map_of_mem issued))
  obtain ⟨accepts, torn, still⟩ : (serve config (.controllerUnpublishVolume ⟨name, node⟩) oracle world).1 = _ ∧ _ :=
    same ▸ torn_unpublished agreed named held unmounted
  exact ⟨⟨accepts, trivial⟩, torn, still⟩

theorem torn_down {down : Run} (agreed : Agreed (.faithful host owner) world) (named : name ≠ "")
    (held : world.store.lookup (volumeKey name) = some volume) (order : paths.Perm volume.mountPaths)
    (requests : down.map (·.1) = teardown name node paths)
    (own : volume.mountPaths.Pairwise (¬Nested host.cwd · ·))
    (foreign : ∀ target ∈ paths, ∀ other, other ≠ name → ∀ path ∈ targets other world.host,
      ¬Nested host.cwd path target)
    (refused : ∀ entry ∈ history config world down, entry.2.fault ≠ .none → Refusable entry.2) :
    AllDone config world down ∧ TornDown name volume world (serveAll config world down) := by
  induction paths generalizing world volume down with
  | nil =>
    obtain ⟨done, torn, -⟩ := torn_last agreed named held order.symm.eq_nil requests refused
    exact ⟨done, torn⟩
  | cons target rest ih =>
    obtain ⟨⟨request, oracle⟩, later, rfl, rfl, following⟩ := List.map_eq_cons_iff.mp requests
    have kept := (agreed.balanced name).kept volume held
    have listed : target ∈ volume.mountPaths := order.mem_iff.mp List.mem_cons_self
    have fits : (Regime.faithful host owner).Fits name target := kept.fitting target listed
    have remaining := unmountedFrom_perm kept order
    have symm : ∀ {p q : Path}, ¬Nested host.cwd p q → ¬Nested host.cwd q p := fun apart nested => apart nested.symm
    obtain ⟨first, leftApart⟩ := List.pairwise_cons.mp ((order.pairwise_iff symm).mpr own)
    obtain ⟨apart, foreign⟩ := List.forall_mem_cons.mp foreign
    have free : ¬Obstructed world.host target := by
      refine agreed.unobstructed held (fun path member => ?_) apart
      rcases List.mem_cons.mp (order.mem_iff.mpr member) with rfl | left
      · exact fun nested => nested.1 rfl
      · exact symm (first path left)
    let middle := (serve config (.nodeUnpublishVolume ⟨name, target⟩) oracle world).2
    have same : serve config (.nodeUnpublishVolume ⟨name, target⟩) oracle world =
        serve config (.nodeUnpublishVolume ⟨name, target⟩) healthy world :=
      unhindered_unmount free (fits.2 rfl) fun event issued =>
        refused _ (List.mem_append_left _ (List.mem_map_of_mem issued))
    have refused : ∀ entry ∈ history config middle later, entry.2.fault ≠ .none → Refusable entry.2 :=
      fun entry member => refused entry (List.mem_append_right _ member)
    have admitted : (Regime.faithful host owner).Admits (.nodeUnpublishVolume ⟨name, target⟩) := ⟨nofun, fits⟩
    have agreeing : Agreed (.faithful host owner) middle := by
      simp only [middle, same]
      exact (serve_agreed agreed admitted fun _ _ => tame_none).1
    have others : Elsewhere name world middle := by
      simp only [middle, same]
      exact serve_elsewhere agreed admitted fun _ _ => tame_none
    obtain ⟨returned, written, detached⟩ :
        (serve config (.nodeUnpublishVolume ⟨name, target⟩) oracle world).1 = .ok .done ∧
          middle.store.lookup (volumeKey name) = some (unmountedFrom volume target) ∧
          ((∀ path ∈ volume.mountPaths, Unix.same path target) →
            ∀ device ∈ volume.loopDevice, ¬middle.host.attached (trim device)) := by
      simp only [middle, same]
      exact serve_unmount agreed named held listed
    have clear : ∀ target ∈ rest, ∀ other, other ≠ name → ∀ path ∈ targets other middle.host,
        ¬Nested host.cwd path target := by
      intro target left other different
      have still : targets other middle.host = targets other world.host := (others other different).2
      rw [still]
      exact foreign target left other different
    have left : (unmountedFrom volume target).mountPaths.Pairwise (¬Nested host.cwd · ·) :=
      (remaining.pairwise_iff symm).mp leftApart
    obtain ⟨done, torn⟩ := ih agreeing written remaining following left clear refused
    refine ⟨⟨returned, done⟩, ?_, torn.mounted, fun device looped => ?_, others.trans torn.others⟩
    · rw [← freed_unmountedFrom volume target]
      exact torn.record
    · by_cases last : ∀ path ∈ volume.mountPaths, Unix.same path target
      · -- the device goes with the last target
        have unmounted := (unmountedFrom_nil volume target).mpr last
        rw [unmounted] at remaining
        obtain rfl := remaining.eq_nil
        have still := (torn_last agreeing named written unmounted following refused).2.2
        show ¬(serveAll config middle later).host.attached (trim device)
        rw [still]
        exact detached last device looped
      · exact torn.detached device ((unmountedFrom_others last).symm ▸ looped)

/-- A volume that is mounted at two targets, the first one at the second attempt. -/
def Sample.twice : Run := mounting ++ [(nodePublish "a" "/u" 7, healthy)]

theorem Sample.twice_permitted : Permitted (.faithful {} fun _ => "a") twice := by
  intro step member
  rcases List.mem_append.mp member with before | last
  · exact mounting_permitted step before
  · have normal : Normalised (trim "/u") := by decide
    have fits : (Regime.faithful {} fun _ => "a").Fits "a" "/u" := ⟨⟨rfl, normal⟩, fun _ => by decide⟩
    obtain rfl := List.mem_singleton.mp last
    exact ⟨⟨nofun, fits⟩, fun _ _ => tame_none⟩

def Sample.down : Run := (teardown "a" "ho.me" ["/u", "/t"]).map fun request => (request, healthy)

end Lvp
