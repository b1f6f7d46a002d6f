import Lvp.Deletion
import Lvp.Pagination
import Lvp.Publication
import Lvp.Repetition

/-!
The nodes that ListVolumes and ControllerGetVolume report for a volume. Both read them off one record, which
says where the volume is mounted and on which node it was made, and not where it was published.
-/

namespace Lvp
open Unix Effect Csi Paging

variable {config : Config} {world : World} {name : String} {volume : Volume} {ids : List String}

/-! ### What is reported -/

/-- Some page of ListVolumes shows these nodes for the volume. -/
def ListReports (world : World) (name : String) (ids : List String) : Prop :=
  ∃ maxEntries token response, listPage ⟨maxEntries, healthy, world⟩ token = .ok response ∧
    ∃ entry ∈ response.entries, entry.volume.volumeId = name ∧ entry.status.publishedNodeIds = ids

def GetReports (world : World) (name : String) (ids : List String) : Prop :=
  ∃ response, ((controllerGetVolume ⟨name⟩).run (World.exec name) healthy world).1 = .ok response ∧
    response.status.publishedNodeIds = ids

theorem StoreOk.mem_listed {I : Volume → Prop} {store : Store} (ok : StoreOk I store) :
    volume ∈ listed store ↔ store.lookup volume.key = some volume := by
  unfold listed
  rw [List.mem_map]
  constructor
  · rintro ⟨⟨key, found⟩, member, rfl⟩
    have held : store.lookup key = some found := AList.mem_lookup_iff.mpr (List.mem_filter.mp member).1
    rw [← (ok key found held).1]
    exact held
  · intro held
    refine ⟨⟨volume.key, volume⟩, List.mem_filter.mpr ⟨AList.mem_lookup_iff.mp held, ?_⟩, rfl⟩
    rw [List.isPrefixOf_iff_prefix]
    exact ⟨volume.name.toList, String.toList_append.symm⟩

/-- Stored names are distinct because their keys are. -/
theorem StoreOk.properNames {store : Store} (ok : StoreOk (fun volume => volume.name ≠ "") store) :
    ProperNames store where
  distinct := by
    have keys : store.entries.map Sigma.fst = (store.entries.map (·.2.name)).map volumeKey := by
      rw [List.map_map]
      refine List.map_congr_left fun entry member => ?_
      exact (ok entry.1 entry.2 (AList.mem_lookup_iff.mpr member)).1
    have names : (store.entries.map (·.2.name)).Nodup := .of_map volumeKey (keys ▸ store.nodupKeys)
    rw [listed, List.map_map]
    exact names.sublist (List.filter_sublist.map _)
  nonempty volume member := (ok _ _ (ok.mem_listed.mp member)).2

theorem listEntries_all (volumes : List Volume) (entries : List Entry) :
    listEntries ⟨0, ""⟩ entries volumes = ⟨entries ++ volumes.map entryOf, ""⟩ := by
  induction volumes generalizing entries with
  | nil => simp [listEntries]
  | cons volume rest ih =>
    rw [listEntries, if_neg (by simp)]
    dsimp only
    rw [if_neg (by simp), ih]
    simp [entryOf]

theorem listReports_iff (ok : StoreOk (fun volume => volume.name ≠ "") world.store) :
    ListReports world name ids ↔
      ∃ volume, world.store.lookup (volumeKey name) = some volume ∧ ids = publishedNodeIds volume := by
  constructor
  · rintro ⟨maxEntries, token, response, answered, entry, member, rfl, rfl⟩
    obtain ⟨items, shown, covers, -⟩ := listPage_covers ok.properNames answered
    rw [shown] at member
    obtain ⟨volume, listing, rfl⟩ := List.mem_map.mp member
    exact ⟨volume, ok.mem_listed.mp ((covers.mem volume).mp listing).1, rfl⟩
  · rintro ⟨volume, held, rfl⟩
    obtain ⟨same, -⟩ := ok _ _ held
    refine ⟨0, "", listEntries ⟨0, ""⟩ [] (sortedByName (listed world.store)), ?_, entryOf volume, ?_, ?_, rfl⟩
    · rw [listPage_eq]
      exact if_neg (fun unknown => unknown.1 rfl)
    · rw [listEntries_all, List.nil_append]
      exact List.mem_map_of_mem ((List.mem_insertionSort _).mpr (ok.mem_listed.mpr (same ▸ held)))
    · exact (volumeKey_injective same).symm

theorem getReports_iff (ok : StoreOk (fun volume => volume.name ≠ "") world.store) :
    GetReports world name ids ↔
      ∃ volume, world.store.lookup (volumeKey name) = some volume ∧ ids = publishedNodeIds volume := by
  by_cases named : name = ""
  · subst named
    refine iff_of_false ?_ ?_
    · rintro ⟨response, answered, -⟩
      cases answered
    · rintro ⟨volume, held, -⟩
      obtain ⟨same, some⟩ := ok _ _ held
      exact some (volumeKey_injective same).symm
  · have run : (controllerGetVolume ⟨name⟩).run (World.exec name) healthy world =
        ((loadVolume name >>= fun volume => pure ⟨rawVolume volume, volumeStatus volume⟩).run (World.exec name)
          healthy world) := by
      rw [controllerGetVolume, Program.reject, if_neg named, Program.ret_bind]
    rw [GetReports, run, Program.run_bind]
    cases held : world.store.lookup (volumeKey name) with
    | none =>
      rw [loadVolume, Program.run_bind, Program.run_mapErr, run_load, held]
      refine iff_of_false ?_ ?_
      · rintro ⟨response, answered, -⟩
        cases answered
      · rintro ⟨volume, found, -⟩
        cases found
    | some volume =>
      rw [run_loadVolume held]
      constructor
      · rintro ⟨response, answered, rfl⟩
        cases answered
        exact ⟨volume, rfl, rfl⟩
      · rintro ⟨found, same, rfl⟩
        cases same
        exact ⟨_, rfl, rfl⟩

/-! ### Publications to the node -/

/-- Whether the volume is published to the node once this answer is out. -/
def marked (node name : String) (before : Bool) : Request → Except Status Reply → Bool
  | .controllerPublishVolume r, .ok _ => before || (r.volumeId = name && r.nodeId = node)
  | .controllerUnpublishVolume r, .ok _ => before && r.volumeId ≠ name
  | _, _ => before

/-- Whether a ControllerPublishVolume to the instance's node has returned Ok and no ControllerUnpublishVolume since. -/
def publishedHere (config : Config) (name : String) : Bool → World → List Request → Bool
  | before, _, [] => before
  | before, world, request :: rest =>
    let served := serve config request healthy world
    publishedHere config name (marked config.node name before request served.1) served.2 rest

/-- Both calls report exactly these nodes, for a volume that exists. -/
structure Reports (world : World) (name : String) (ids : List String) : Prop where
  listed : ∀ reported, ListReports world name reported → reported = ids ∧ "" ∉ reported
  got : ∀ reported, GetReports world name reported → reported = ids ∧ "" ∉ reported
  both : volumeKey name ∈ world.store → ListReports world name ids ∧ GetReports world name ids

theorem reports_iff (ok : StoreOk (fun volume => volume.name ≠ "") world.store) :
    Reports world name ids ↔ ∀ volume, world.store.lookup (volumeKey name) = some volume →
      publishedNodeIds volume = ids ∧ "" ∉ ids := by
  constructor
  · intro reports volume held
    obtain ⟨rfl, nonempty⟩ := reports.got _ ((getReports_iff ok).mpr ⟨volume, held, rfl⟩)
    exact ⟨rfl, nonempty⟩
  · intro holds
    refine ⟨?_, ?_, fun present => ?_⟩
    · intro reported listed
      obtain ⟨volume, held, rfl⟩ := (listReports_iff ok).mp listed
      obtain ⟨rfl, nonempty⟩ := holds volume held
      exact ⟨rfl, nonempty⟩
    · intro reported got
      obtain ⟨volume, held, rfl⟩ := (getReports_iff ok).mp got
      obtain ⟨rfl, nonempty⟩ := holds volume held
      exact ⟨rfl, nonempty⟩
    · obtain ⟨volume, held⟩ := Option.isSome_iff_exists.mp (AList.lookup_isSome.mpr present)
      obtain ⟨rfl, -⟩ := holds volume held
      exact ⟨(listReports_iff ok).mpr ⟨volume, held, rfl⟩, (getReports_iff ok).mpr ⟨volume, held, rfl⟩⟩

/-! ### Published volumes -/

/-- What is marked as published is, and the node has a name. -/
structure Marked (config : Config) (name : String) (here : Bool) (world : World) : Prop where
  ok : StoreOk WellFormed world.store
  published : here → ∃ volume, world.store.lookup (volumeKey name) = some volume ∧ volume.Published
  node : here → config.node ≠ ""

theorem withdraws_healthy {request : Request} (withdraws : Withdraws config request healthy world) :
    ∃ r reply, request = .controllerUnpublishVolume r ∧ (serve config request healthy world).1 = .ok reply := by
  cases request with
  | controllerUnpublishVolume r =>
    rcases withdraws with returned | ⟨event, member, lost⟩
    · cases answer : (serve config (.controllerUnpublishVolume r) healthy world).1 with
      | ok reply => exact ⟨r, reply, rfl, rfl⟩
      | error status =>
        rw [answer] at returned
        cases returned
    · have fault : event.fault = .none := Program.trace_steady member
      cases fault.symm.trans lost
  | _ => cases withdraws

theorem Marked.serve {here : Bool} (request : Request) (marks : Marked config name here world) :
    Marked config name (marked config.node name here request (Lvp.serve config request healthy world).1)
      (Lvp.serve config request healthy world).2 := by
  have ok : StoreOk WellFormed (Lvp.serve config request healthy world).2.store :=
    (serve_ok wellFormed_invariant marks.ok healthy).1
  have stays (kept : request.volumeId = name → ¬Withdraws config request healthy world) :
      Marked config name here (Lvp.serve config request healthy world).2 := by
    refine ⟨ok, fun before => ?_, marks.node⟩
    obtain ⟨volume, held, published⟩ := marks.published before
    exact serve_published marks.ok held published kept
  cases answer : (Lvp.serve config request healthy world).1 with
  | error status =>
    have same : marked config.node name here request (.error status) = here := by cases request <;> rfl
    rw [same]
    refine stays fun _ withdraws => ?_
    obtain ⟨r, reply, rfl, returned⟩ := withdraws_healthy withdraws
    cases answer.symm.trans returned
  | ok reply =>
    cases request with
    | controllerPublishVolume r =>
      by_cases matching : r.volumeId = name ∧ r.nodeId = config.node
      · obtain ⟨rfl, node⟩ := matching
        obtain ⟨volume, held, published, -⟩ := publish_published marks.ok answer
        exact ⟨ok, fun _ => ⟨volume, held, published⟩, fun _ => node ▸ (publish_named answer).2⟩
      · have apart : (decide (r.volumeId = name) && decide (r.nodeId = config.node)) = false := by
          simpa using matching
        show Marked config name (here || _) _
        rw [apart, Bool.or_false]
        exact stays fun _ => id
    | controllerUnpublishVolume r =>
      show Marked config name (here && _) _
      by_cases own : r.volumeId = name
      · rw [decide_eq_false (not_not.mpr own), Bool.and_false]
        exact ⟨ok, Bool.noConfusion, Bool.noConfusion⟩
      · rw [decide_eq_true own, Bool.and_true]
        exact stays fun same => absurd same own
    | _ => exact stays fun _ => id

theorem Marked.run {here : Bool} (requests : List Request) (marks : Marked config name here world) :
    Marked config name (publishedHere config name here world requests)
      (serveAll config world (requests.map fun request => (request, healthy))) := by
  induction requests generalizing here world with
  | nil => exact marks
  | cons request rest ih => exact ih (marks.serve request)

/-- What the record of a volume has to say for the reports to be right. -/
def Volume.Tells (volume : Volume) (config : Config) (here : Bool) : Prop :=
  match volume.state with
  | .«open» => True
  | .controllerPublished => here = false
  | .nodePublished => here = true ∧ volume.assignedNodeId = some config.node

theorem tells_iff {here : Bool} (opened : here → volume.Published) (node : here → config.node ≠ "") :
    (publishedNodeIds volume = (if here then [config.node] else []) ∧ "" ∉ (if here then [config.node] else [])) ↔
      volume.Tells config here := by
  unfold publishedNodeIds Volume.Tells
  cases state : volume.state with
  | «open» =>
    have away : here = false := by
      by_contra still
      exact opened (by simpa using still) state
    simp [away]
  | controllerPublished => cases here <;> simp
  | nodePublished =>
    cases here with
    | false => simp
    | true =>
      have named := node rfl
      cases assigned : volume.assignedNodeId <;> simp [named.symm]

/-- On one healthy instance the reports for a volume are right after a run exactly when its record is Open, or
ControllerPublished for other nodes only, or mounted and assigned to the node it was published to. -/
theorem reports_faithful_iff (config : Config) (host : Host) (requests : List Request) (name : String) :
    let world := serveAll config ⟨∅, host⟩ (requests.map fun request => (request, healthy))
    let here := publishedHere config name false ⟨∅, host⟩ requests
    Reports world name (if here then [config.node] else []) ↔
      ∀ volume, world.store.lookup (volumeKey name) = some volume → volume.Tells config here := by
  intro world here
  have marks : Marked config name here world :=
    Marked.run requests ⟨.empty, Bool.noConfusion, Bool.noConfusion⟩
  rw [reports_iff (serveAll_ok named_invariant .empty _)]
  refine forall₂_congr fun volume held => tells_iff (fun before => ?_) marks.node
  obtain ⟨found, lookup, published⟩ := marks.published before
  cases held.symm.trans lookup
  exact published

theorem getReports_of_map (ok : StoreOk (fun volume => volume.name ≠ "") world.store)
    (reported : (world.store.lookup (volumeKey name)).map publishedNodeIds = some ids) :
    GetReports world name ids := by
  obtain ⟨volume, held, rfl⟩ := Option.map_eq_some_iff.mp reported
  exact (getReports_iff ok).mpr ⟨volume, held, rfl⟩

namespace Sample

def toMount : List Request := [create "a" "/pv2/" "ext4" 1, publish "a" 1]

def toUse : List Request := toMount ++ [nodePublish "a" "/t" 1]

/-- The backing path of the volume is there before the volume is. -/
def occupied : Host where
  files := [⟨["host"], .directory⟩, ⟨["host", "pv2"], .directory⟩,
    ⟨["host", "pv2", "a"], .file 1073741824 (some "ext4")⟩].toAList

end Sample

/-- A published volume is not reported before it is mounted, and one whose data was there beforehand is then
reported for a node without a name. -/
theorem reports_unfaithful :
    let waiting := serveAll Sample.config ⟨∅, {}⟩ (Sample.toMount.map fun request => (request, healthy))
    let mounted := serveAll Sample.config ⟨∅, Sample.occupied⟩ (Sample.toUse.map fun request => (request, healthy))
    publishedHere Sample.config "a" false ⟨∅, {}⟩ Sample.toMount = true ∧
      GetReports waiting "a" [] ∧ ¬Reports waiting "a" ["ho.me"] ∧
      publishedHere Sample.config "a" false ⟨∅, Sample.occupied⟩ Sample.toUse = true ∧
      GetReports mounted "a" [""] ∧ ¬Reports mounted "a" ["ho.me"] := by
  intro waiting mounted
  have unreported : GetReports waiting "a" [] :=
    getReports_of_map (serveAll_ok named_invariant .empty _) (by decide +kernel)
  have nameless : GetReports mounted "a" [""] :=
    getReports_of_map (serveAll_ok named_invariant .empty _) (by decide +kernel)
  refine ⟨by decide +kernel, unreported, fun reports => ?_, by decide +kernel, nameless, fun reports => ?_⟩
  · exact absurd (reports.got [] unreported).1 (by decide)
  · exact absurd (reports.got [""] nameless).1 (by decide)

end Lvp
