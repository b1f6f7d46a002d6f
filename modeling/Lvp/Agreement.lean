import Lvp.Lifecycle
import Lvp.Refinement

/-! Store and mount table agree after every sequential run. A request is safe for the world because it is
safe for the ledger of its volume; the other ledgers stay as they are. -/

namespace Lvp
open Unix Effect Csi

variable {regime : Regime} {config : Config} {request : Request} {world after : World}

/-- The turns of a request, as seen in the world. -/
def volumeLogic (regime : Regime) (request : Request) : Logic Call Call.Answer World where
  step before call answer after :=
    Turn regime request (ledger request.volumeId before) call answer (ledger request.volumeId after)
  rely before after :=
    Still regime request.volumeId (ledger request.volumeId before) (ledger request.volumeId after)
  guard world call :=
    regime.Admits request ∧ Guard regime request.volumeId (ledger request.volumeId world) call

def InBalance (regime : Regime) (name : String) (world : World) : Prop :=
  Balanced regime name (ledger name world)

theorem handle_turns (config : Config) (admitted : regime.Admits request)
    (balanced : InBalance regime request.volumeId world) :
    Safe (volumeLogic regime request) (handle config request) (fun _ => InBalance regime request.volumeId)
      (fun _ => InBalance regime request.volumeId) world := by
  have leads := handle_leads config admitted balanced
  apply Safe.refine (volumeLogic regime request) (ledger request.volumeId) ?_ ?_ ?_ leads
  · exact fun _ _ still => still
  · exact fun _ _ _ _ guarded => ⟨admitted, guarded⟩
  · exact fun _ _ _ _ _ _ _ turn => turn

theorem still_elsewhere (admitted : regime.Admits request) (elsewhere : Elsewhere request.volumeId world after)
    {other : String} (different : other ≠ request.volumeId) :
    Still regime other (ledger other world) (ledger other after) := by
  obtain ⟨record, mounted⟩ := elsewhere other different
  exact ⟨record, mounted, fun alone => absurd (admitted.1 other alone).symm different⟩

/-! ### Sequential runs -/

structure Agreed (regime : Regime) (world : World) : Prop where
  sound : Sound regime world
  balanced : ∀ name, InBalance regime name world

theorem Agreed.initial {host : Host} (unmounted : host.mounts = []) (cwd : host.cwd = regime.cwd)
    (trimmed : regime.only.isSome → ∀ device ∈ host.devices, trim device = device) :
    Agreed regime ⟨∅, host⟩ := by
  have nowhere : ∀ name, (ledger name ⟨∅, host⟩).mounted = [] := fun name => by simp [targets, unmounted]
  have unrecorded : ∀ name, (ledger name ⟨∅, host⟩).record = none := fun name => by simp [ledger]
  refine ⟨⟨cwd, by simp [unmounted], trimmed, fun name volume held => ?_⟩, fun name => ?_⟩
  · rw [unrecorded name] at held
    cases held
  · refine ⟨fun _ => nowhere name, fun volume held => ?_⟩
    rw [unrecorded name] at held
    cases held

theorem serve_agreed {oracle : Oracle Call Fault} (agreed : Agreed regime world)
    (admitted : regime.Admits request) (tame : ∀ n call, regime.Tame request call (oracle n call)) :
    Agreed regime (serve config request oracle world).2 ∧
      ∀ visit ∈ served config request oracle world,
        Guard regime request.volumeId (ledger request.volumeId visit.1) visit.2 := by
  have step : ∀ (n : Nat) (world : World) (call : Call),
      (Sound regime world ∧ ∀ other, other ≠ request.volumeId → InBalance regime other world) →
      (volumeLogic regime request).guard world call →
      (volumeLogic regime request).step world call (execFor request (oracle n call) world call).1
          (execFor request (oracle n call) world call).2 ∧
        Sound regime (execFor request (oracle n call) world call).2 ∧
          ∀ other, other ≠ request.volumeId →
            InBalance regime other (execFor request (oracle n call) world call).2 := by
    intro n world call valid guarded
    obtain ⟨turn, elsewhere, sound⟩ := exec_turn valid.1 guarded.2 (tame n call)
    refine ⟨turn, sound, fun other different => ?_⟩
    exact Balanced.still (valid.2 other different) (still_elsewhere admitted elsewhere different)
  have safe := handle_turns config admitted (agreed.balanced request.volumeId)
  have refl : ∀ world : World, Still regime request.volumeId (ledger request.volumeId world)
      (ledger request.volumeId world) := fun _ => Still.refl _
  obtain ⟨ended, ⟨sound, others⟩, visits⟩ :=
    Safe.run _ (fun world _ => refl world) step ⟨agreed.sound, fun other _ => agreed.balanced other⟩ safe
  refine ⟨⟨sound, fun name => ?_⟩, fun visit member => (visits visit member).2.2⟩
  by_cases same : name = request.volumeId
  · rw [same]
    unfold serve
    cases result : (handle config request).run (execFor request) oracle world with
    | mk verdict final =>
      rw [result] at ended
      cases verdict with
      | ok value => exact ended
      | error status => exact ended
  · exact others name same

/-- A run that the CO may issue and whose calls fail only as the regime allows. -/
def Permitted (regime : Regime) (run : Run) : Prop :=
  ∀ step ∈ run, regime.Admits step.1 ∧ ∀ n call, regime.Tame step.1 call (step.2 n call)

theorem tame_none {call : Call} : regime.Tame request call .none := by
  unfold Regime.Tame
  split
  · split
    · exact fun _ same => nomatch same
    · rfl
  · exact fun same => nomatch same

theorem serveAll_agreed {run : Run} (agreed : Agreed regime world) (permitted : Permitted regime run) :
    Agreed regime (serveAll config world run) := by
  induction run generalizing world with
  | nil => exact agreed
  | cons step rest ih =>
    obtain ⟨admitted, tame⟩ := permitted step List.mem_cons_self
    have later := fun other member => permitted other (List.mem_cons_of_mem _ member)
    exact ih (serve_agreed agreed admitted tame).1 later

/-! ### Mounts and records -/

/-- All store calls succeed, and the CO names absolute normalised targets, each for one volume. -/
def Regime.faithful (host : Host) (owner : Location → String) : Regime where
  cwd := host.cwd
  owner := owner
  books := .exact
  spelled := Normalised

theorem mem_targets {name : String} {host : Host} {target : Path} :
    target ∈ targets name host ↔ ∃ mount ∈ host.mounts, mount.owner = name ∧ mount.target = target := by
  simp [targets, and_assoc]

theorem InBalance.locations {name : String} (balanced : InBalance regime name world)
    (books : regime.books = .exact) (location : Location) :
    (∃ target ∈ targets name world.host, regime.location target = location) ↔
      ∃ volume, world.store.lookup (volumeKey name) = some volume ∧
        ∃ path ∈ volume.mountPaths, regime.location path = location := by
  cases held : world.store.lookup (volumeKey name) with
  | none =>
    have nowhere : targets name world.host = [] := balanced.absent held
    simp [nowhere]
  | some volume =>
    have tally := (balanced.kept volume held).tally
    simp only [Regime.Tally, books] at tally
    have same := tally.mem_iff (a := location)
    simpa using same

theorem Agreed.mem_targets_iff {host : Host} {owner : Location → String}
    (agreed : Agreed (.faithful host owner) world) (name : String) (target : Path) :
    target ∈ targets name world.host ↔
      ∃ volume, world.store.lookup (volumeKey name) = some volume ∧ target ∈ volume.mountPaths := by
  have balanced := agreed.balanced name
  have locations := balanced.locations rfl
  have mounted : ∀ other ∈ targets name world.host, Normalised other := by
    intro other member
    obtain ⟨mount, present, -, rfl⟩ := mem_targets.mp member
    exact (agreed.sound.owned mount present).2
  have recorded : ∀ volume, world.store.lookup (volumeKey name) = some volume →
      ∀ path ∈ volume.mountPaths, Normalised path := by
    intro volume held path member
    have fits := (balanced.kept volume held).fitting path member
    have spelled : Normalised (trim path) := fits.1.2
    rwa [fits.2 rfl] at spelled
  constructor
  · intro member
    obtain ⟨volume, held, path, listed, equal⟩ := (locations _).mp ⟨target, member, rfl⟩
    have same : path = target := (recorded volume held path listed).injective (mounted target member) equal
    exact ⟨volume, held, same ▸ listed⟩
  · intro listing
    obtain ⟨volume, held, listed⟩ := listing
    obtain ⟨other, member, equal⟩ := (locations _).mpr ⟨volume, held, target, listed, rfl⟩
    have same : other = target := (mounted other member).injective (recorded volume held target listed) equal
    exact same ▸ member

/-- A call that takes away the data of a volume or its record. -/
def Call.destroys : Call → Bool
  | .removeFile _ | .removeDirAll _ | .delete _ => true
  | _ => false

theorem Guard.idle {name : String} {ledger : Ledger} {call : Call} (guarded : Guard regime name ledger call)
    (destroys : call.destroys) : Idle ledger := by
  cases call with
  | removeFile path => exact guarded
  | removeDirAll path => exact guarded
  | delete key => exact guarded.2
  | _ => cases destroys

/-- After every sequential run a volume is mounted at the paths in its record and nowhere else; it is only
destroyed, and its record only leaves NodePublished, while it is mounted nowhere. -/
theorem mounted_iff_recorded (config : Config) {host : Host} (unmounted : host.mounts = [])
    (owner : Location → String) {run : Run} (permitted : Permitted (.faithful host owner) run) :
    (∀ name target, target ∈ targets name (serveAll config ⟨∅, host⟩ run).host ↔
      ∃ volume, (serveAll config ⟨∅, host⟩ run).store.lookup (volumeKey name) = some volume ∧
        target ∈ volume.mountPaths) ∧
    ∀ request oracle, Permitted (.faithful host owner) [(request, oracle)] →
      ∀ visit ∈ served config request oracle (serveAll config ⟨∅, host⟩ run),
        (visit.2.destroys → targets request.volumeId visit.1.host = []) ∧
        ∀ key volume, visit.2 = .patch key volume → volume.state ≠ .nodePublished →
          targets request.volumeId visit.1.host = [] := by
  have agreed : Agreed (.faithful host owner) (serveAll config ⟨∅, host⟩ run) :=
    serveAll_agreed (.initial unmounted rfl nofun) permitted
  refine ⟨agreed.mem_targets_iff, fun request oracle allowed visit member => ?_⟩
  obtain ⟨admitted, tame⟩ := allowed _ (List.mem_singleton_self _)
  have guarded := (serve_agreed agreed admitted tame).2 visit member
  refine ⟨fun destroys => (guarded.idle destroys).2, fun key volume same state => ?_⟩
  rw [same] at guarded
  exact guarded.2.2.1 state

def Sample.mounting : Run :=
  [(create "a" "/pv2/" "ext4" 7, healthy), (publish "a" 7, healthy),
    (nodePublish "a" "/t" 7, fun n call => if call.onStore = false ∧ n = 10 then .fails else .none),
    (nodePublish "a" "/t" 7, healthy)]

theorem Sample.mounting_permitted : Permitted (.faithful {} fun _ => "a") mounting := by
  have normal : Normalised (trim "/t") := by decide
  have fits : (Regime.faithful {} fun _ => "a").Fits "a" "/t" := ⟨⟨rfl, normal⟩, fun _ => by decide⟩
  intro step member
  simp only [mounting, List.mem_cons, List.not_mem_nil, or_false] at member
  rcases member with rfl | rfl | rfl | rfl
  · exact ⟨⟨nofun, trivial⟩, fun _ _ => tame_none⟩
  · exact ⟨⟨nofun, trivial⟩, fun _ _ => tame_none⟩
  · refine ⟨⟨nofun, fits⟩, fun n call => ?_⟩
    dsimp only
    split
    · rename_i onHost
      simp [Regime.Tame, onHost.1]
    · exact tame_none
  · exact ⟨⟨nofun, fits⟩, fun _ _ => tame_none⟩

theorem mounted_iff_recorded_sample :
    "/t" ∈ targets "a" (serveAll Sample.config ⟨∅, {}⟩ Sample.mounting).host ∧
      ∃ volume, (serveAll Sample.config ⟨∅, {}⟩ Sample.mounting).store.lookup (volumeKey "a") = some volume ∧
        "/t" ∈ volume.mountPaths := by
  have mounted : "/t" ∈ targets "a" (serveAll Sample.config ⟨∅, {}⟩ Sample.mounting).host := by decide +kernel
  have agreed := mounted_iff_recorded Sample.config rfl (fun _ => "a") Sample.mounting_permitted
  exact ⟨mounted, (agreed.1 "a" "/t").mp mounted⟩

end Lvp
