import Lvp.ConfigMap
import Lvp.Footprint
import Lvp.Serialization

/-!
The plugin over ConfigMaps does what the plugin over records does, as long as every ConfigMap of a volume
can be read: the texts, the other ConfigMaps of the namespace and the other entries make no difference.
-/

namespace Lvp
open Unix Effect Csi

variable {text : Text} {ε : Type}

/-! ### Reading -/

theorem isVolumeKey_volumeKey (name : String) : isVolumeKey (volumeKey name) = true := by
  rw [isVolumeKey, List.isPrefixOf_iff_prefix, volumeKey, String.toList_append]
  exact List.prefix_append _ _

theorem read_ok {α : Type} {parse : String → Option α} {config : ConfigMap} {value : α} :
    config.read parse = .ok value ↔ ∃ document, config.document = .ok document ∧ parse document = some value := by
  unfold ConfigMap.read
  cases config.document with
  | error error => simp
  | ok document =>
    cases found : parse document <;> simp [found]

theorem read_optional {config : ConfigMap} {volume : Volume} :
    config.read text.parseOption = .ok (some volume) ↔ config.read text.parse = .ok volume := by
  simp only [read_ok, text.parseOption_some]

variable (text) in
theorem read_ofVolume (volume : Volume) : (ConfigMap.ofVolume text volume).read text.parse = .ok volume :=
  read_ok.mpr ⟨text.print volume, rfl, text.parse_print volume⟩

variable (text) in
theorem read_merge (config : ConfigMap) (volume : Volume) :
    (config.merge "data.json" (text.print volume)).read text.parse = .ok volume := by
  refine read_ok.mpr ⟨text.print volume, ?_, text.parse_print volume⟩
  simp [ConfigMap.document, ConfigMap.merge]

/-! ### The records behind the ConfigMaps -/

/-- The record of a ConfigMap that stands for a volume. -/
def record (text : Text) (key : String) (config : ConfigMap) : Option Volume :=
  if isVolumeKey key then
    match config.read text.parse with
    | .ok volume => some volume
    | .error _ => none
  else none

/-- Every ConfigMap of a volume holds a record. -/
def Legible (text : Text) (configs : ConfigMaps) : Prop :=
  ∀ key config, configs.lookup key = some config → isVolumeKey key = true → ∃ volume,
    config.read text.parse = .ok volume

def Site.view (text : Text) (site : Site) : World := ⟨site.configs.select (record text), site.host⟩

def Fleet.view (text : Text) (fleet : Fleet) : Cluster := ⟨fleet.configs.select (record text), fleet.hosts⟩

theorem record_some {key : String} {config : ConfigMap} {volume : Volume} (own : isVolumeKey key = true)
    (read : config.read text.parse = .ok volume) : record text key config = some volume := by
  simp [record, own, read]

theorem Legible.record {configs : ConfigMaps} (legible : Legible text configs) {key : String} {config : ConfigMap}
    (held : configs.lookup key = some config) (own : isVolumeKey key = true) :
    ∃ volume, config.read text.parse = .ok volume ∧ record text key config = some volume := by
  obtain ⟨volume, read⟩ := legible key config held own
  exact ⟨volume, read, record_some own read⟩

theorem Legible.mem {configs : ConfigMaps} (legible : Legible text configs) {key : String}
    (own : isVolumeKey key = true) :
    key ∈ configs.select (Lvp.record text) ↔ key ∈ configs := by
  rw [AList.mem_select, ← AList.lookup_isSome]
  cases held : configs.lookup key with
  | none => simp
  | some config =>
    obtain ⟨volume, -, reads⟩ := legible.record held own
    simp [reads]

theorem Legible.insert {configs : ConfigMaps} (legible : Legible text configs) {key : String} {config : ConfigMap}
    {volume : Volume} (read : config.read text.parse = .ok volume) : Legible text (configs.insert key config) := by
  intro other found held own
  by_cases same : other = key
  · subst same
    rw [AList.lookup_insert] at held
    obtain rfl := Option.some.inj held
    exact ⟨volume, read⟩
  · rw [AList.lookup_insert_ne same] at held
    exact legible other found held own

theorem Legible.erase {configs : ConfigMaps} (legible : Legible text configs) (key : String) :
    Legible text (configs.erase key) := by
  intro other found held own
  by_cases same : other = key
  · subst same
    rw [AList.lookup_erase] at held
    cases held
  · rw [AList.lookup_erase_ne same] at held
    exact legible other found held own

/-- The loop of `Volume::list` finds the records in the order of their ConfigMaps. -/
theorem readAll_entries {entries : List (Sigma fun _ : String => ConfigMap)}
    (legible : ∀ entry ∈ entries, isVolumeKey entry.1 = true → ∃ volume, entry.2.read text.parse = .ok volume) :
    readAll text (entries.map fun entry => (entry.1, entry.2)) =
      .ok ((entries.filterMap (List.selectEntry (record text))).map (·.2)) := by
  induction entries with
  | nil => rfl
  | cons entry rest ih =>
    have later := ih fun other member => legible other (List.mem_cons_of_mem _ member)
    rw [List.map_cons, readAll, later]
    by_cases own : isVolumeKey entry.1 = true
    · obtain ⟨volume, read⟩ := legible entry List.mem_cons_self own
      have selected : List.selectEntry (record text) entry = some ⟨entry.1, volume⟩ := by
        simp [List.selectEntry, record_some own read]
      simp [own, read, List.filterMap_cons_some selected]
    · have skipped : List.selectEntry (record text) entry = none := by simp [List.selectEntry, record, own]
      simp [own, List.filterMap_cons_none skipped]

theorem listed_select (configs : ConfigMaps) :
    listed (configs.select (record text)) = (configs.entries.filterMap (List.selectEntry (record text))).map (·.2) := by
  refine congrArg (List.map _) (List.filter_eq_self.mpr fun entry member => ?_)
  obtain ⟨raw, -, reads⟩ := List.mem_filterMap.mp member
  obtain ⟨volume, found, rfl⟩ := Option.map_eq_some_iff.mp reads
  by_cases own : isVolumeKey raw.1 = true
  · exact own
  · rw [record, if_neg own] at found
    cases found

theorem Legible.listed {configs : ConfigMaps} (legible : Legible text configs) :
    readAll text (configs.entries.map fun entry => (entry.1, entry.2)) =
      .ok (listed (configs.select (Lvp.record text))) := by
  rw [listed_select]
  exact readAll_entries fun entry member own => legible entry.1 entry.2 (AList.mem_lookup_iff.mpr member) own

/-! ### Calls in step -/

/-- The calls of `volume.rs` for calls on records. -/
inductive Paired (text : Text) : ApiCall → Call → Prop where
  | getOpt (name : String) : Paired text (.getOpt (volumeKey name)) (.getOpt (volumeKey name))
  | create (name : String) (volume : Volume) :
      Paired text (.create (volumeKey name) (.ofVolume text volume)) (.create (volumeKey name) volume)
  | patch (name : String) (volume : Volume) :
      Paired text (.patch (volumeKey name) "data.json" (text.print volume)) (.patch (volumeKey name) volume)
  | delete (name : String) : Paired text (.delete (volumeKey name)) (.delete (volumeKey name))
  | list : Paired text .list .list
  | host (call : Call) (onHost : call.onStore = false) : Paired text (.host call onHost) call

/-- Answers that say the same of ConfigMaps and of the records they hold. -/
def SameAnswer (text : Text) : (below : ApiCall) → (above : Call) → below.Answer → above.Answer → Prop
  | .getOpt _, .getOpt _, .ok found', .ok found =>
    found'.isSome = found.isSome ∧ ∀ config ∈ found', ∀ volume ∈ found, config.read text.parse = .ok volume
  | .getOpt _, .getOpt _, .error failure', .error failure => failure' = failure
  | .create _ _, .create _ _, answer', answer => answer' = answer
  | .patch _ _ _, .patch _ _, answer', answer => answer' = answer
  | .delete _, .delete _, answer', answer => answer' = answer
  | .list, .list, .ok configs, .ok volumes => readAll text configs = .ok volumes
  | .list, .list, .error failure', .error failure => failure' = failure
  | .host call _, above, answer', answer => call = above ∧ HEq answer' answer
  | _, _, _, _ => False

theorem Paired.unavailable {below : ApiCall} {above : Call} (paired : Paired text below above) :
    SameAnswer text below above (.error .unavailable) (.error .unavailable) := by
  cases paired with
  | host call onHost => exact ⟨rfl, HEq.rfl⟩
  | _ => rfl

theorem Site.perform_paired (owner : String) {site : Site} {below : ApiCall} {above : Call}
    (legible : Legible text site.configs) (paired : Paired text below above) :
    SameAnswer text below above (site.perform owner below).1 ((site.view text).perform owner above).1 ∧
      (site.perform owner below).2.view text = ((site.view text).perform owner above).2 ∧
      Legible text (site.perform owner below).2.configs := by
  cases paired with
  | getOpt name =>
    refine ⟨?_, rfl, legible⟩
    show SameAnswer text (.getOpt (volumeKey name)) (.getOpt (volumeKey name))
        (.ok (site.configs.lookup (volumeKey name)))
      (.ok ((site.configs.select (record text)).lookup (volumeKey name)))
    rw [AList.lookup_select]
    cases held : site.configs.lookup (volumeKey name) with
    | none => exact ⟨rfl, nofun⟩
    | some config =>
      obtain ⟨volume, read, reads⟩ := legible.record held (isVolumeKey_volumeKey name)
      rw [Option.bind_some, reads]
      refine ⟨rfl, ?_⟩
      rintro _ ⟨⟩ _ ⟨⟩
      exact read
  | create name volume =>
    have same := legible.mem (isVolumeKey_volumeKey name)
    have reads := record_some (isVolumeKey_volumeKey name) (read_ofVolume text volume)
    by_cases taken : volumeKey name ∈ site.configs
    · have above : (site.view text).perform owner (.create (volumeKey name) volume) =
          (.error .conflict, site.view text) :=
        if_pos (same.mpr taken)
      rw [above, Site.perform, if_pos taken]
      exact ⟨rfl, rfl, legible⟩
    · have above : (site.view text).perform owner (.create (volumeKey name) volume) =
          (.ok (), ⟨(site.configs.select (record text)).insert (volumeKey name) volume, site.host⟩) :=
        if_neg (mt same.mp taken)
      rw [above, Site.perform, if_neg taken, ← AList.select_insert _ reads]
      exact ⟨rfl, rfl, legible.insert (read_ofVolume text volume)⟩
  | patch name volume =>
    have same := legible.mem (isVolumeKey_volumeKey name)
    cases held : site.configs.lookup (volumeKey name) with
    | none =>
      have missing : volumeKey name ∉ site.configs := AList.lookup_eq_none.mp held
      have above : (site.view text).perform owner (.patch (volumeKey name) volume) =
          (.error .absent, site.view text) :=
        if_neg (mt same.mp missing)
      rw [Site.perform_patch_absent held, above]
      exact ⟨rfl, rfl, legible⟩
    | some config =>
      have present : volumeKey name ∈ site.configs := AList.lookup_isSome.mp (by rw [held]; rfl)
      have reads := record_some (isVolumeKey_volumeKey name) (read_merge text config volume)
      have above : (site.view text).perform owner (.patch (volumeKey name) volume) =
          (.ok (), ⟨(site.configs.select (record text)).insert (volumeKey name) volume, site.host⟩) :=
        if_pos (same.mpr present)
      rw [Site.perform_patch held, above, ← AList.select_insert _ reads]
      exact ⟨rfl, rfl, legible.insert (read_merge text config volume)⟩
  | delete name =>
    have same := legible.mem (isVolumeKey_volumeKey name)
    by_cases present : volumeKey name ∈ site.configs
    · have above : (site.view text).perform owner (.delete (volumeKey name)) =
          (.ok (), ⟨(site.configs.select (record text)).erase (volumeKey name), site.host⟩) :=
            if_pos (same.mpr present)
      rw [above, Site.perform, if_pos present, ← AList.select_erase]
      exact ⟨rfl, rfl, legible.erase _⟩
    · have above : (site.view text).perform owner (.delete (volumeKey name)) = (.error .absent, site.view text) :=
        if_neg (mt same.mp present)
      rw [above, Site.perform, if_neg present]
      exact ⟨rfl, rfl, legible⟩
  | list => exact ⟨legible.listed, rfl, legible⟩
  | host call onHost =>
    obtain ⟨answer, host⟩ := perform_host owner ∅ (site.configs.select (record text)) site.host onHost
    have store : ((site.view text).perform owner above).2.store = (site.view text).store := perform_store onHost
    refine ⟨⟨rfl, heq_of_eq answer⟩, ?_, legible⟩
    show World.mk (site.configs.select (record text)) (World.perform owner ⟨∅, site.host⟩ above).2.host =
      ⟨((site.view text).perform owner above).2.store, ((site.view text).perform owner above).2.host⟩
    rw [store, host]
    rfl

theorem Site.exec_paired (owner : String) (fault : Fault) {site : Site} {below : ApiCall} {above : Call}
    (legible : Legible text site.configs) (paired : Paired text below above) :
    SameAnswer text below above (site.exec owner fault below).1 ((site.view text).exec owner fault above).1 ∧
      (site.exec owner fault below).2.view text = ((site.view text).exec owner fault above).2 ∧
      Legible text (site.exec owner fault below).2.configs := by
  have through := Site.perform_paired owner legible paired
  cases fault with
  | none => exact through
  | fails => exact ⟨paired.unavailable, rfl, legible⟩
  | lost => exact ⟨paired.unavailable, through.2⟩

/-! ### Handlers in step -/

/-- Store calls are for keys of volumes. -/
def Call.keyed : Call → Prop
  | .getOpt key | .create key _ | .patch key _ | .delete key => ∃ name, key = volumeKey name
  | _ => True

theorem Call.looks.keyed {call : Call} (looks : call.looks) : call.keyed := by
  cases call <;> first | exact looks | trivial

theorem Footprint.keyed {config : Config} {I : Volume → Prop} {request : Request} {call : Call}
    (fits : Footprint config I request call) : call.keyed := by
  cases fits <;> first | trivial | exact ⟨_, rfl⟩

/-- Keeps to store calls for keys of volumes. -/
abbrev Keyed {ε α : Type} (program : Action ε α) : Prop := Reads Call.keyed program

theorem handle_keyed (config : Config) (request : Request) : Keyed (handle config request) :=
  (handle_keeps (fun _ _ _ _ => trivial) request : Keeps config (fun _ => True) request _ _).relax
    (fun _ fits => fits.keyed) (fun call answer _ _ =>
      by cases call <;> first | trivial | exact fun _ _ _ => trivial)
    |>.weaken (fun _ _ _ => trivial) (fun _ _ _ => trivial)

theorem handleRpc_keyed (config : Config) (rpc : Rpc) : Keyed (handleRpc config rpc) := by
  cases lifecycle : rpc.lifecycle? with
  | none => exact (handleRpc_looks config lifecycle).relax (fun _ looks => looks.keyed) fun _ _ _ _ => trivial
  | some request =>
    obtain rfl := Rpc.lifecycle?_eq lifecycle
    have own : Keyed ((handle config request).mapErr Refusal.status) :=
      safe_mapErr.mpr (handle_keyed config request)
    exact own.bind fun _ _ _ => trivial

theorem told_answer {α : Type} (answer : Except Failure α) :
    (((Program.ofExcept (answer.mapError .call) : ApiAction StoreError α).mapErr StoreError.told).attempt :
      ApiAction ε (Except Failure α)) = .ret answer := by
  cases answer <;> rfl

theorem loadAnswer_lowers {name : String} {answer' : Except Failure (Option ConfigMap)}
    {answer : Except Failure (Option Volume)}
    (same : SameAnswer text (.getOpt (volumeKey name)) (.getOpt (volumeKey name)) answer' answer) :
    ((((Program.ofExcept (answer'.mapError .call) : ApiAction StoreError (Option ConfigMap)) >>= fun found =>
      (match found with
      | none => pure none
      | some config => .ofExcept (config.read text.parseOption) : ApiAction StoreError (Option Volume))).mapErr
        StoreError.told).attempt : ApiAction ε (Except Failure (Option Volume))) = .ret answer := by
  cases answer' with
  | error failure' =>
    cases answer with
    | error failure => exact congrArg (fun failure => Program.ret (Except.error failure)) same
    | ok found => exact same.elim
  | ok found' =>
    cases answer with
    | error failure => cases found' <;> exact same.elim
    | ok found =>
      obtain ⟨present, reads⟩ := same
      cases found' with
      | none =>
        obtain rfl : found = none := by simpa using present
        rfl
      | some config =>
        obtain ⟨volume, rfl⟩ := Option.isSome_iff_exists.mp present.symm
        have read := read_optional.mpr (reads config rfl volume rfl)
        simp only [Except.mapError, Program.ofExcept, Program.ret_bind, read]
        rfl

theorem listAnswer_lowers {answer' : Except Failure (List (String × ConfigMap))}
    {answer : Except Failure (List Volume)}
    (same : SameAnswer text .list .list answer' answer) :
    ((((Program.ofExcept (answer'.mapError .call) : ApiAction StoreError (List (String × ConfigMap))) >>= fun configs =>
      (.ofExcept (readAll text configs) : ApiAction StoreError (List Volume))).mapErr StoreError.told).attempt :
        ApiAction ε (Except Failure (List Volume))) = .ret answer := by
  cases answer' with
  | error failure' =>
    cases answer with
    | error failure => exact congrArg (fun failure => Program.ret (Except.error failure)) same
    | ok volumes => exact same.elim
  | ok configs =>
    cases answer with
    | error failure => exact same.elim
    | ok volumes =>
      have read : readAll text configs = .ok volumes := same
      simp only [Except.mapError, Program.ofExcept, Program.ret_bind, read]
      rfl

/-- Each function of `volume.rs` makes one call and reads its answer. -/
theorem answerCall_lowers {call : Call} (keyed : call.keyed) :
    Lowers (Paired text) (SameAnswer text) (answerCall text call : ApiAction ε call.Answer) (.call call .ret) := by
  cases call with
  | getOpt key =>
    obtain ⟨name, rfl⟩ := keyed
    exact .call (.getOpt name) fun answer' answer same => loadAnswer_lowers same ▸ .ret answer
  | list => exact .call .list fun answer' answer same => listAnswer_lowers same ▸ .ret answer
  | create key volume =>
    obtain ⟨name, rfl⟩ := keyed
    refine .call (.create name volume) fun answer' answer same => ?_
    obtain rfl : answer' = answer := same
    exact told_answer answer' ▸ .ret answer'
  | patch key volume =>
    obtain ⟨name, rfl⟩ := keyed
    refine .call (.patch name volume) fun answer' answer same => ?_
    obtain rfl : answer' = answer := same
    exact told_answer answer' ▸ .ret answer'
  | delete key =>
    obtain ⟨name, rfl⟩ := keyed
    refine .call (.delete name) fun answer' answer same => ?_
    obtain rfl : answer' = answer := same
    exact told_answer answer' ▸ .ret answer'
  | _ =>
    refine .call (.host _ rfl) fun answer' answer same => ?_
    obtain rfl := eq_of_heq same.2
    exact told_answer answer' ▸ .ret answer'

theorem implement_lowers {ε α : Type} {program : Action ε α} (keyed : Keyed program) :
    Lowers (Paired text) (SameAnswer text) (program.implement (answerCall text)) program :=
  .implement keyed fun _ own => answerCall_lowers own

theorem storedCreate_lowers (volume : Volume) (status : Status) :
    Lowers (Paired text) (SameAnswer text) ((Stored.create text volume).mapErr fun _ => status)
      (volume.create.mapErr fun _ => status) := by
  refine .call (.getOpt volume.name) fun answer' answer same => ?_
  cases answer' with
  | error failure' =>
    cases answer with
    | error failure => exact .raise status
    | ok found => exact same.elim
  | ok found' =>
    cases answer with
    | error failure => cases found' <;> exact same.elim
    | ok found =>
      have present : found'.isSome = found.isSome := same.1
      cases found' with
      | some config =>
        obtain ⟨existing, rfl⟩ := Option.isSome_iff_exists.mp present.symm
        exact .ret VolumeCreation.alreadyExists
      | none =>
        obtain rfl : found = none := by simpa using present
        refine .call (.create volume.name volume) fun answer' answer same => ?_
        obtain rfl : answer' = answer := same
        cases answer' with
        | error failure => exact .raise status
        | ok done => exact .ret VolumeCreation.success

theorem storedLoad_lowers (name : String) (status : Status) :
    Lowers (Paired text) (SameAnswer text) ((Stored.load text (volumeKey name)).mapErr fun _ => status)
      ((Volume.load name).mapErr fun _ => status) := by
  refine .call (.getOpt name) fun answer' answer same => ?_
  have below := Program.mapErr_of_attempt (loadAnswer_lowers same) status
  refine Eq.mpr (congrArg (fun program => Lowers (Paired text) (SameAnswer text) program _) below) ?_
  cases answer with
  | error failure => exact .raise status
  | ok found => exact .ret found

theorem createStored_lowers (r : CreateVolumeRequest) :
    Lowers (Paired text) (SameAnswer text) (createStored text r) (createVolume r) := by
  refine .bind (.ofExcept _) fun volume => .bind (storedCreate_lowers volume _) fun creation => ?_
  cases creation with
  | success => exact .ret _
  | alreadyExists =>
    refine .bind (storedLoad_lowers volume.name _) fun found => .bind (.ofOption _ found) fun existing => ?_
    exact .bind (.reject _ _) fun _ => .ret _

theorem handleApi_lowers (config : Config) (rpc : Rpc) :
    Lowers (Paired text) (SameAnswer text) (handleApi text config rpc) (handleRpc config rpc) := by
  cases rpc with
  | lifecycle request =>
    refine .bind (.mapErr ?_ _) fun _ => .ret _
    cases request with
    | createVolume r => exact .bind (createStored_lowers r) fun _ => .ret _
    | _ => exact implement_lowers (handle_keyed config _)
  | _ => exact implement_lowers (handleRpc_keyed config _)

/-! ### The plugin over ConfigMaps -/

theorem simulates_records (text : Text) : Simulates Fleet.exec (fun served => handleApi text served.1 served.2)
    Cluster.execRpc (fun served => handleRpc served.1 served.2) (Fleet.view text)
    (fun fleet => Legible text fleet.configs) (Paired text) (SameAnswer text) where
  bodies request := handleApi_lowers request.1 request.2
  step {request fault fleet below above} legible paired := by
    have held : Legible text (fleet.site request.1).configs := legible
    obtain ⟨answer, viewed, kept⟩ := Site.exec_paired request.2.owner fault held paired
    refine ⟨answer, ?_, kept⟩
    exact congrArg ((fleet.view text).update request.1) viewed

/-- Whatever requests of every kind are in flight on all instances, the plugin over ConfigMaps leaves them
as some deployment over records leaves the records, with the same hosts and the same replies; and what it
wrote can be read again. -/
theorem texts_invisible (text : Text) (fleet : Fleet) (legible : Legible text fleet.configs)
    (schedule : List (Move (Config × Rpc) ApiCall Fault)) : ∃ moves : List (Move (Config × Rpc) Call Fault),
      Legible text (fleet.deploy text schedule).world.configs ∧
      (fleet.deploy text schedule).world.view text = ((fleet.view text).deployRpcs moves).world ∧
      (fleet.deploy text schedule).threads.map (fun thread => (thread.request, thread.program.result?)) =
        ((fleet.view text).deployRpcs moves).threads.map fun thread =>
          (thread.request, thread.program.result?) := by
  have start : Mirrors (Fleet.view text) (fun fleet => Legible text fleet.configs) (Paired text) (SameAnswer text)
      (⟨fleet, []⟩ : ApiDeployment) (⟨fleet.view text, []⟩ : FullDeployment) := ⟨legible, rfl, .nil⟩
  obtain ⟨moves, mirrors⟩ := start.play (simulates_records text) schedule
  exact ⟨moves, mirrors.valid, mirrors.world, mirrors.results⟩

namespace Sample

/-- The ConfigMap of one volume. -/
def configs : ConfigMaps := AList.singleton "lvp-vol-data" (ConfigMap.ofVolume compact stored)

/-- And one that is not the plugin's. -/
def fleet : Fleet where
  configs := configs.insert "kube-root-ca.crt" ⟨some (AList.singleton "ca.crt" "")⟩
  hosts _ := {}

theorem fleet_holds {key : String} {config : ConfigMap} (held : fleet.configs.lookup key = some config)
    (own : isVolumeKey key = true) : key = "lvp-vol-data" ∧ config = ConfigMap.ofVolume compact stored := by
  by_cases foreign : key = "kube-root-ca.crt"
  · subst foreign
    cases own
  · have there : configs.lookup key = some config := by
      rw [← held]
      exact (AList.lookup_insert_ne foreign).symm
    have member : ⟨key, config⟩ ∈ configs.entries := AList.mem_lookup_iff.mp there
    obtain ⟨rfl, same⟩ := Sigma.mk.inj (List.mem_singleton.mp member)
    exact ⟨rfl, eq_of_heq same⟩

theorem fleet_legible : Legible compact fleet.configs := by
  intro key config held own
  rw [(fleet_holds held own).2]
  exact ⟨stored, read_ofVolume compact stored⟩

/-- A deletion whose second call fails, with a listing in between. -/
def deletion : List (Move (Config × Rpc) ApiCall Fault) :=
  [.start (config, .lifecycle (delete "data")), .step 0 fun _ => .none, .start (config, .listVolumes ⟨0, ""⟩),
    .step 0 fun _ => .fails, .step 1 fun _ => .none]

end Sample

theorem texts_invisible_deletion : ∃ moves : List (Move (Config × Rpc) Call Fault),
    Legible compact (Sample.fleet.deploy compact Sample.deletion).world.configs ∧
      (Sample.fleet.deploy compact Sample.deletion).world.view compact =
        ((Sample.fleet.view compact).deployRpcs moves).world ∧
      (Sample.fleet.deploy compact Sample.deletion).threads.map
          (fun thread => (thread.request, thread.program.result?)) =
        ((Sample.fleet.view compact).deployRpcs moves).threads.map
          fun thread => (thread.request, thread.program.result?) :=
  texts_invisible compact Sample.fleet Sample.fleet_legible Sample.deletion

end Lvp
