import Lvp.Effect.Contract
import Lvp.Persistence

/-!
What a request leaves alone: the ConfigMaps of other volumes and of others altogether, the entries of its own
ConfigMap that are not the record, and a record that cannot be read.
-/

namespace Lvp
open Unix Effect Csi

variable {text : Text} {ε α β : Type}

/-! ### Store calls of a request -/

/-- A request writes to the ConfigMap of its volume only, and always a whole record of that name. -/
inductive OwnCall (text : Text) : Rpc → ApiCall → Prop where
  | getOpt (rpc : Rpc) (key : String) : OwnCall text rpc (.getOpt key)
  | list (rpc : Rpc) : OwnCall text rpc .list
  | host (rpc : Rpc) (call : Call) (onHost : call.onStore = false) : OwnCall text rpc (.host call onHost)
  | create {r : CreateVolumeRequest} {volume : Volume} (name : volume.name = r.name) :
      OwnCall text (.lifecycle (.createVolume r)) (.create (volumeKey r.name) (.ofVolume text volume))
  | patch {request : Request} {volume : Volume} (name : volume.name = request.volumeId) :
      OwnCall text (.lifecycle request) (.patch (volumeKey request.volumeId) "data.json" (text.print volume))
  | delete (r : DeleteVolumeRequest) :
      OwnCall text (.lifecycle (.deleteVolume r)) (.delete (volumeKey r.volumeId))

/-- What can be read is a record of the volume that the ConfigMap is called after. -/
def OwnNames (text : Text) (configs : ConfigMaps) : Prop :=
  ∀ key config volume, configs.lookup key = some config → isVolumeKey key = true →
    config.read text.parse = .ok volume → volume.key = key

def FoundOwn (text : Text) : (call : ApiCall) → call.Answer → Prop
  | .getOpt key, answer => ∀ config volume, answer = .ok (some config) → isVolumeKey key = true →
      config.read text.parse = .ok volume → volume.key = key
  | _, _ => True

/-- Keeps to the ConfigMap of the request's volume. -/
abbrev StaysWithin (text : Text) (rpc : Rpc) (program : ApiAction ε α) : Prop :=
  Safe (contract (OwnCall text rpc) (FoundOwn text)) program (fun _ _ => True) (fun _ _ => True) ()

theorem stays_ofOption {rpc : Rpc} {error : ε} {result : Option α} :
    StaysWithin text rpc (.ofOption error result) :=
  safe_ofOption.mpr ⟨fun _ => trivial, fun _ _ => trivial⟩

theorem stays_reject {rpc : Rpc} {condition : Prop} [Decidable condition] {error : ε} :
    StaysWithin text rpc (.reject condition error) :=
  safe_reject.mpr ⟨fun _ => trivial, fun _ => trivial⟩

theorem answered_within {rpc : Rpc} {call : ApiCall} (fits : OwnCall text rpc call) :
    Safe (contract (OwnCall text rpc) (FoundOwn text))
      (((ask call).mapErr StoreError.told).attempt : ApiAction ε (Except Failure call.Value)) (fun _ _ => True)
      (fun _ _ => True) () := by
  refine safe_contract_call.mpr ⟨fits, fun answer _ => ?_⟩
  exact told_answer answer ▸ trivial

theorem load_within (rpc : Rpc) (name : String) :
    Safe (contract (OwnCall text rpc) (FoundOwn text)) (Stored.load text (volumeKey name))
      (fun found _ => ∀ volume ∈ found, volume.name = name) (fun _ _ => True) () := by
  refine safe_contract_call.mpr ⟨.getOpt rpc _, fun answer own => ?_⟩
  cases answer with
  | error failure => trivial
  | ok found =>
    cases found with
    | none => exact fun _ member => nomatch member
    | some config =>
      refine safe_ofExcept.mpr ⟨fun _ _ => trivial, fun found read volume member => ?_⟩
      obtain rfl : found = some volume := member
      exact volumeKey_injective (own config volume rfl (isVolumeKey_volumeKey name) (read_optional.mp read))

theorem answerCall_within {config : Config} {request : Request} {call : Call}
    (fits : Footprint config (·.name = request.volumeId) request call) :
    Safe (contract (OwnCall text (.lifecycle request)) (FoundOwn text))
      (answerCall text call : ApiAction ε call.Answer)
      (fun answer _ => Loads request.volumeId (·.name = request.volumeId) call answer) (fun _ _ => True) () := by
  cases fits with
  | load =>
    refine safe_attempt.mpr (safe_mapErr.mpr ?_)
    refine (load_within _ _).weaken (fun found _ named _ volume same => ?_) fun _ _ _ _ _ same => nomatch same
    exact named volume (Except.ok.inj same)
  | @create r volume built =>
    have name := newVolume_name built
    have own : OwnCall text (.lifecycle (.createVolume r)) (.create volume.key (.ofVolume text volume)) := by
      rw [Volume.key, name]
      exact .create name
    exact answered_within own
  | @write _ volume written loaded rewrite =>
    have name : written.name = request.volumeId := rewrite.name.trans loaded
    have own : OwnCall text (.lifecycle request) (.patch written.key "data.json" (text.print written)) := by
      rw [Volume.key, name]
      exact .patch name
    exact answered_within own
  | @delete r volume loaded state =>
    have own : OwnCall text (.lifecycle (.deleteVolume r)) (.delete volume.key) := by
      rw [Volume.key, loaded]
      exact .delete r
    exact answered_within own
  | _ => exact answered_within (.host _ _ rfl)

theorem storedCreate_within {r : CreateVolumeRequest} {volume : Volume} (name : volume.name = r.name) :
    StaysWithin text (.lifecycle (.createVolume r)) (Stored.create text volume) := by
  refine safe_contract_call.mpr ⟨.getOpt _ _, fun answer _ => ?_⟩
  cases answer with
  | error failure => trivial
  | ok existing =>
    cases existing with
    | some config => trivial
    | none =>
      have own : OwnCall text (.lifecycle (.createVolume r)) (.create volume.key (.ofVolume text volume)) := by
        rw [Volume.key, name]
        exact .create name
      refine safe_contract_call.mpr ⟨own, fun answer _ => ?_⟩
      cases answer <;> trivial

theorem createStored_within (r : CreateVolumeRequest) :
    StaysWithin text (.lifecycle (.createVolume r)) (createStored text r) := by
  have building : Safe (contract (OwnCall text (.lifecycle (.createVolume r))) (FoundOwn text))
      (.ofExcept (newVolume r)) (fun volume _ => newVolume r = .ok volume) (fun _ _ => True) () :=
    safe_ofExcept.mpr ⟨fun _ _ => trivial, fun _ built => built⟩
  refine building.bind fun volume _ built => ?_
  refine Safe.bind (safe_mapErr.mpr (storedCreate_within (newVolume_name built))) fun creation _ _ => ?_
  cases creation with
  | success => trivial
  | alreadyExists =>
    refine Safe.bind (safe_mapErr.mpr (load_within _ volume.name)) fun found _ _ => ?_
    exact stays_ofOption.bind fun existing _ _ => stays_reject.bind fun _ _ _ => trivial

theorem handleStored_within (config : Config) (request : Request) :
    StaysWithin text (.lifecycle request) (handleStored text config request) := by
  have keeps : Keeps config (·.name = request.volumeId) request (handle config request) (fun _ => True) :=
    handle_keeps (fun _ _ _ named => named) request
  have implemented : StaysWithin text (.lifecycle request) ((handle config request).implement (answerCall text)) :=
    Safe.implement keeps fun _ fits => answerCall_within fits
  cases request with
  | createVolume r => exact (createStored_within r).bind fun _ _ _ => trivial
  | _ => exact implemented

theorem looks_within {rpc : Rpc} {call : Call} (looks : call.looks) :
    Safe (contract (OwnCall text rpc) (FoundOwn text)) (answerCall text call : ApiAction ε call.Answer)
      (fun _ _ => True) (fun _ _ => True) () := by
  cases call with
  | getOpt key =>
    obtain ⟨name, rfl⟩ := looks
    exact safe_attempt.mpr (safe_mapErr.mpr ((load_within rpc name).weaken (fun _ _ _ => trivial) fun _ _ _ => trivial))
  | list =>
    refine safe_attempt.mpr (safe_mapErr.mpr (safe_contract_call.mpr ⟨.list rpc, fun answer _ => ?_⟩))
    cases answer with
    | error failure => trivial
    | ok configs => exact safe_ofExcept.mpr ⟨fun _ _ => trivial, fun _ _ => trivial⟩
  | statvfs path => exact answered_within (.host _ _ rfl)
  | _ => cases looks

theorem handleApi_within (config : Config) (rpc : Rpc) : StaysWithin text rpc (handleApi text config rpc) := by
  have looking (other : rpc.lifecycle? = none) :
      StaysWithin text rpc ((handleRpc config rpc).implement (answerCall text)) :=
    Safe.implement (handleRpc_looks config other) fun _ looks =>
      (looks_within looks).weaken (fun _ _ _ => trivial) fun _ _ _ => trivial
  cases rpc with
  | lifecycle request => exact (safe_mapErr.mpr (handleStored_within config request)).bind fun _ _ _ => trivial
  | _ => exact looking rfl

/-! ### What a call changes -/

/-- What a call of a request makes of the ConfigMaps. -/
inductive Edits (text : Text) (rpc : Rpc) (configs : ConfigMaps) : ConfigMaps → Prop where
  | none : Edits text rpc configs configs
  | create {r : CreateVolumeRequest} {volume : Volume} (own : rpc = .lifecycle (.createVolume r))
      (name : volume.name = r.name) (fresh : volumeKey r.name ∉ configs) :
      Edits text rpc configs (configs.insert (volumeKey r.name) (.ofVolume text volume))
  | patch {request : Request} {volume : Volume} {config : ConfigMap} (own : rpc = .lifecycle request)
      (name : volume.name = request.volumeId) (held : configs.lookup (volumeKey request.volumeId) = some config) :
      Edits text rpc configs
        (configs.insert (volumeKey request.volumeId) (config.merge "data.json" (text.print volume)))
  | delete {r : DeleteVolumeRequest} (own : rpc = .lifecycle (.deleteVolume r)) :
      Edits text rpc configs (configs.erase (volumeKey r.volumeId))

theorem Site.perform_edits (owner : String) (site : Site) {rpc : Rpc} {call : ApiCall}
    (fits : OwnCall text rpc call) :
    Edits text rpc site.configs (site.perform owner call).2.configs := by
  cases fits with
  | @create r volume name =>
    by_cases taken : volumeKey r.name ∈ site.configs
    · rw [Site.perform, if_pos taken]
      exact .none
    · rw [Site.perform, if_neg taken]
      exact .create rfl name taken
  | @patch request volume name =>
    cases held : site.configs.lookup (volumeKey request.volumeId) with
    | none =>
      rw [Site.perform_patch_absent held]
      exact .none
    | some config =>
      rw [Site.perform_patch held]
      exact .patch rfl name held
  | delete r =>
    by_cases present : volumeKey r.volumeId ∈ site.configs
    · rw [Site.perform, if_pos present]
      exact .delete rfl
    · rw [Site.perform, if_neg present]
      exact .none
  | _ => exact .none

theorem Fleet.exec_edits (fleet : Fleet) (served : Config × Rpc) (fault : Fault) {call : ApiCall}
    (fits : OwnCall text served.2 call) : Edits text served.2 fleet.configs
      (fleet.exec served fault call).2.configs := by
  have performed := Site.perform_edits served.2.owner (fleet.site served.1) fits
  cases fault with
  | none => exact performed
  | fails => exact .none
  | lost => exact performed

theorem Fleet.exec_found (fleet : Fleet) (served : Config × Rpc) (fault : Fault) (call : ApiCall)
    (own : OwnNames text fleet.configs) : FoundOwn text call (fleet.exec served fault call).1 := by
  cases call with
  | getOpt key =>
    cases fault with
    | none => exact fun config volume answer => own key config volume (Except.ok.inj answer)
    | fails | lost => exact fun _ _ failed => nomatch failed
  | _ => trivial

def ConfigMap.value (config : ConfigMap) (entry : String) : Option String := config.data.bind (·.lookup entry)

theorem entry_merge (config : ConfigMap) (document : String) {entry : String} (other : entry ≠ "data.json") :
    (config.merge "data.json" document).value entry = config.value entry := by
  have inserted : (config.merge "data.json" document).value entry = (config.data.getD ∅).lookup entry :=
    AList.lookup_insert_ne other
  rw [inserted, ConfigMap.value]
  cases config.data <;> rfl

/-- The ConfigMap is there, with its other entries as they were. -/
def Retained (configs : ConfigMaps) (key : String) (config : ConfigMap) : Prop :=
  ∃ found, configs.lookup key = some found ∧ ∀ entry, entry ≠ "data.json" → found.value entry = config.value entry

namespace Edits

variable {rpc : Rpc} {configs after : ConfigMaps} {key : String}

theorem elsewhere (edits : Edits text rpc configs after)
    (other : ∀ request, rpc = .lifecycle request → volumeKey request.volumeId ≠ key) :
    after.lookup key = configs.lookup key := by
  cases edits with
  | none => rfl
  | create own name fresh => exact AList.lookup_insert_ne (other _ own).symm
  | patch own name held => exact AList.lookup_insert_ne (other _ own).symm
  | delete own => exact AList.lookup_erase_ne (other _ own).symm

theorem retained {config : ConfigMap} (edits : Edits text rpc configs after)
    (retained : Retained configs key config)
    (kept : ∀ r, rpc = .lifecycle (.deleteVolume r) → volumeKey r.volumeId ≠ key) : Retained after key config := by
  obtain ⟨found, held, same⟩ := retained
  cases edits with
  | none => exact ⟨found, held, same⟩
  | @create r volume own name fresh =>
    have other : key ≠ volumeKey r.name := fun equal => fresh (equal ▸ AList.lookup_isSome.mp (held ▸ rfl))
    exact ⟨found, (AList.lookup_insert_ne other).trans held, same⟩
  | @patch request volume config' own name held' =>
    by_cases equal : key = volumeKey request.volumeId
    · subst equal
      obtain rfl := Option.some.inj (held.symm.trans held')
      refine ⟨_, AList.lookup_insert _, fun entry other => ?_⟩
      rw [entry_merge _ _ other]
      exact same entry other
    · exact ⟨found, (AList.lookup_insert_ne equal).trans held, same⟩
  | delete own => exact ⟨found, (AList.lookup_erase_ne (kept _ own).symm).trans held, same⟩

theorem ownNames (edits : Edits text rpc configs after) (own : OwnNames text configs) : OwnNames text after := by
  have written {name : String} {volume : Volume} {config : ConfigMap} (named : volume.name = name)
      (read : config.read text.parse = .ok volume) : OwnNames text (configs.insert (volumeKey name) config) := by
    intro key found other held prefixed reads
    by_cases equal : key = volumeKey name
    · subst equal
      rw [AList.lookup_insert] at held
      obtain rfl := Option.some.inj held
      obtain rfl := Except.ok.inj (read.symm.trans reads)
      exact congrArg volumeKey named
    · rw [AList.lookup_insert_ne equal] at held
      exact own key found other held prefixed reads
  cases edits with
  | none => exact own
  | create _ name _ => exact written name (read_ofVolume text _)
  | patch _ name _ => exact written name (read_merge text _ _)
  | @delete r _ =>
    intro key found other held prefixed reads
    by_cases equal : key = volumeKey r.volumeId
    · subst equal
      rw [AList.lookup_erase] at held
      cases held
    · rw [AList.lookup_erase_ne equal] at held
      exact own key found other held prefixed reads

end Edits

/-! ### Other ConfigMaps -/

/-- No request the deployment takes is for the volume of this ConfigMap. -/
def Spared (admits : Config × Rpc → Prop) (key : String) : Prop :=
  ∀ served, admits served → ∀ request, served.2 = .lifecycle request → volumeKey request.volumeId ≠ key

/-- No request the deployment takes deletes the volume of this ConfigMap. -/
def Undeleted (admits : Config × Rpc → Prop) (key : String) : Prop :=
  ∀ served, admits served → ∀ r, served.2 = .lifecycle (.deleteVolume r) → volumeKey r.volumeId ≠ key

structure LeftAlone (text : Text) (admits : Config × Rpc → Prop) (before after : ConfigMaps) : Prop where
  names : OwnNames text after
  others : ∀ key, Spared admits key → after.lookup key = before.lookup key
  entries : ∀ key config, before.lookup key = some config → Undeleted admits key → Retained after key config

def frameTerms (text : Text) (fleet : Fleet) (admits : Config × Rpc → Prop) :
    Terms (Config × Rpc) ApiCall ApiCall.Answer Refusal RpcReply Fleet where
  fits served := OwnCall text served.2
  promise _ := FoundOwn text
  post _ _ := True
  fail _ _ := True
  valid after := LeftAlone text admits fleet.configs after.configs

theorem frame_sound (text : Text) (fleet : Fleet) (admits : Config × Rpc → Prop) :
    (frameTerms text fleet admits).Sound admits Fleet.exec fun served => handleApi text served.1 served.2 where
  bodies {served} _ := handleApi_within served.1 served.2
  step {served fault after call} admitted alone fits := by
    have edits := after.exec_edits served fault fits
    refine ⟨after.exec_found served fault call alone.names, edits.ownNames alone.names, ?_, ?_⟩
    · intro key spared
      exact (edits.elsewhere (spared served admitted)).trans (alone.others key spared)
    · intro key config held kept
      exact edits.retained (alone.entries key config held kept) (kept served admitted)

/-- Whatever is in flight, only the ConfigMaps of volumes with requests change, and of those only the record,
unless the volume is deleted. -/
theorem others_untouched (text : Text) (fleet : Fleet) (own : OwnNames text fleet.configs)
    (schedule : List (Move (Config × Rpc) ApiCall Fault)) :
    LeftAlone text (fun served => .start served ∈ schedule) fleet.configs
      (fleet.deploy text schedule).world.configs := by
  have start : Upheld (frameTerms text fleet fun served => .start served ∈ schedule)
      (fun served => .start served ∈ schedule)
      (⟨fleet, []⟩ : ApiDeployment) :=
    ⟨⟨own, fun _ _ => rfl, fun _ config held _ => ⟨config, held, fun _ _ => rfl⟩⟩, by simp⟩
  exact (start.play (frame_sound text fleet _) fun _ member => member).valid

theorem Sample.fleet_ownNames : OwnNames compact fleet.configs := by
  intro key config volume held own read
  obtain ⟨rfl, rfl⟩ := fleet_holds held own
  obtain rfl := Except.ok.inj ((read_ofVolume compact stored).symm.trans read)
  rfl

theorem others_untouched_deletion :
    LeftAlone compact (fun served => .start served ∈ Sample.deletion) Sample.fleet.configs
      (Sample.fleet.deploy compact Sample.deletion).world.configs :=
  others_untouched compact Sample.fleet Sample.fleet_ownNames Sample.deletion

/-! ### Damaged records -/

/-- Requests that ask for the record of `name`, alone or with all others. -/
def Concerns (name : String) : Rpc → Prop
  | .lifecycle request => request.volumeId = name
  | .validateVolumeCapabilities r => r.volumeId = name
  | .controllerGetVolume r => r.volumeId = name
  | .nodeGetVolumeStats r => r.volumeId = name
  | .listVolumes _ => True
  | _ => False

instance (name : String) (rpc : Rpc) : Decidable (Concerns name rpc) := by
  cases rpc <;> unfold Concerns <;> infer_instance

section Stuck
variable {name : String}

/-- The calls that read the record. -/
def Call.asks (name : String) (call : Call) : Prop := call = .getOpt (volumeKey name) ∨ call = .list

/-- Fails as soon as it asks for the record, and asks for it first. -/
abbrev Stuck (name : String) (program : Action ε α) : Prop :=
  Safe (contract (Call.asks name) fun _ answer => ∃ failure, answer = .error failure) program (fun _ _ => False)
    (fun _ _ => True) ()

theorem Stuck.stop {program : Action ε α} {next : α → Action ε β} (stuck : Stuck name program) :
    Stuck name (program >>= next) :=
  Safe.bind stuck fun _ _ => False.elim

theorem Stuck.mapErr {ε' : Type} {program : Action ε' α} {f : ε' → ε} (stuck : Stuck name program) :
    Stuck name (program.mapErr f) :=
  safe_mapErr.mpr stuck

theorem stuck_reject {condition : Prop} [Decidable condition] {error : ε} {next : Unit → Action ε α}
    (later : Stuck name (next ())) : Stuck name (Program.reject condition error >>= next) :=
  safe_bind.mpr (safe_reject.mpr ⟨fun _ => trivial, fun _ => later⟩)

theorem stuck_ofExcept {result : Except ε α} {next : α → Action ε β} (later : ∀ value, Stuck name (next value)) :
    Stuck name (Program.ofExcept result >>= next) :=
  safe_bind.mpr (safe_ofExcept.mpr ⟨fun _ _ => trivial, fun value _ => later value⟩)

theorem stuck_ofOption {result : Option α} {error : ε} {next : α → Action ε β}
    (later : ∀ value, Stuck name (next value)) :
    Stuck name (Program.ofOption error result >>= next) :=
  safe_bind.mpr (safe_ofOption.mpr ⟨fun _ => trivial, fun value _ => later value⟩)

theorem stuck_issue {call : Call} (asks : call.asks name) : Stuck name (issue call) := by
  refine safe_contract_call.mpr ⟨asks, fun answer failed => ?_⟩
  obtain ⟨failure, rfl⟩ := failed
  trivial

theorem stuck_load (name : String) : Stuck name (Volume.load name) := stuck_issue (.inl rfl)

theorem stuck_loadVolume (name : String) : Stuck name (loadVolume name) := (stuck_load name).mapErr.stop

theorem handle_stuck (config : Config) {request : Request} (other : ∀ r, request ≠ .createVolume r) :
    Stuck request.volumeId (handle config request) := by
  cases request with
  | createVolume r => exact absurd rfl (other r)
  | deleteVolume r => exact (stuck_reject (stuck_load _).mapErr.stop).stop
  | controllerPublishVolume r =>
    exact (stuck_reject (stuck_reject (stuck_reject (stuck_loadVolume _).stop))).stop
  | controllerUnpublishVolume r => exact (stuck_reject (stuck_load _).mapErr.stop).stop
  | nodePublishVolume r =>
    refine (stuck_reject (stuck_reject (stuck_ofOption fun capability => stuck_ofExcept fun parsed => ?_))).stop
    exact (stuck_loadVolume _).stop
  | nodeUnpublishVolume r => exact (stuck_reject (stuck_reject (stuck_loadVolume _).stop)).stop
  | nodeExpandVolume r => exact (stuck_reject (stuck_reject (stuck_loadVolume _).stop)).stop

theorem handleRpc_stuck (config : Config) {rpc : Rpc} (concerns : Concerns name rpc)
    (other : rpc.lifecycle? = none) :
    Stuck name (handleRpc config rpc) := by
  cases rpc with
  | lifecycle request => cases other
  | validateVolumeCapabilities r =>
    obtain rfl : r.volumeId = name := concerns
    exact Stuck.stop (stuck_reject (stuck_reject (stuck_loadVolume _).stop)).mapErr
  | listVolumes r => exact Stuck.stop (Stuck.mapErr (stuck_issue (.inr rfl)).mapErr.stop)
  | controllerGetVolume r =>
    obtain rfl : r.volumeId = name := concerns
    exact Stuck.stop (stuck_reject (stuck_loadVolume _).stop).mapErr
  | nodeGetVolumeStats r =>
    obtain rfl : r.volumeId = name := concerns
    exact Stuck.stop (stuck_reject (stuck_reject (stuck_loadVolume _).stop)).mapErr
  | _ => exact concerns.elim

end Stuck

section Damaged
variable {name : String} {config : ConfigMap}

/-- The calls that read the ConfigMap. -/
def ApiCall.asks (name : String) (call : ApiCall) : Prop := call = .getOpt (volumeKey name) ∨ call = .list

/-- Answers that show the ConfigMap as it is. -/
def Shows (name : String) (config : ConfigMap) : (call : ApiCall) → call.Answer → Prop
  | .getOpt key, answer => key = volumeKey name → ∀ found, answer = .ok found → found = some config
  | .list, answer => ∀ configs, answer = .ok configs → (volumeKey name, config) ∈ configs
  | _, _ => True

/-- No record can be read from it. -/
def Damaged (text : Text) (config : ConfigMap) : Prop := ∃ error, config.read text.parseOption = .error error

theorem Damaged.unread (damaged : Damaged text config) (volume : Volume) : config.read text.parse ≠ .ok volume := by
  intro read
  obtain ⟨error, failed⟩ := damaged
  rw [read_optional.mpr read] at failed
  cases failed

/-- Reads the ConfigMap and fails. -/
abbrev Fruitless (name : String) (config : ConfigMap) (program : ApiAction ε α) : Prop :=
  Safe (contract (ApiCall.asks name) (Shows name config)) program (fun _ _ => False) (fun _ _ => True) ()

theorem load_fruitless (damaged : Damaged text config) :
    Fruitless name config (Stored.load text (volumeKey name)) := by
  refine safe_contract_call.mpr ⟨.inl rfl, fun answer shows => ?_⟩
  cases answer with
  | error failure => trivial
  | ok found =>
    obtain rfl := shows rfl found rfl
    obtain ⟨error, failed⟩ := damaged
    refine safe_ofExcept.mpr ⟨fun _ _ => trivial, fun found read => ?_⟩
    rw [failed] at read
    cases read

/-- One record that cannot be read, and the loop of `Volume::list` fails. -/
theorem readAll_damaged (damaged : Damaged text config) {configs : List (String × ConfigMap)} {key : String}
    (own : isVolumeKey key = true) (member : (key, config) ∈ configs) (volumes : List Volume) :
    readAll text configs ≠ .ok volumes := by
  induction configs generalizing volumes with
  | nil => cases member
  | cons first rest ih =>
    obtain ⟨other, found⟩ := first
    rcases List.mem_cons.mp member with same | later
    · obtain ⟨rfl, rfl⟩ := Prod.mk.inj same
      rw [readAll, if_pos own]
      cases read : config.read text.parse with
      | ok volume => exact absurd read (damaged.unread volume)
      | error error =>
        intro failed
        cases failed
    · rw [readAll]
      split
      · cases here : found.read text.parse with
        | error error =>
          intro failed
          cases failed
        | ok volume =>
          cases more : readAll text rest with
          | ok volumes => exact absurd more (ih later volumes)
          | error error =>
            intro failed
            cases failed
      · exact ih later volumes

theorem list_fruitless (damaged : Damaged text config) : Fruitless name config (Stored.list text) := by
  refine safe_contract_call.mpr ⟨.inr rfl, fun answer shows => ?_⟩
  cases answer with
  | error failure => trivial
  | ok configs =>
    refine safe_ofExcept.mpr ⟨fun _ _ => trivial, fun volumes read => ?_⟩
    exact readAll_damaged damaged (isVolumeKey_volumeKey name) (shows configs rfl) volumes read

theorem answerCall_fruitless (damaged : Damaged text config) {call : Call} (asks : call.asks name) :
    Safe (contract (ApiCall.asks name) (Shows name config)) (answerCall text call : ApiAction ε call.Answer)
      (fun answer _ => ∃ failure, answer = .error failure) (fun _ _ => True) () := by
  have failing {α : Type} {program : ApiAction StoreError α} (fruitless : Fruitless name config program) :
      Safe (contract (ApiCall.asks name) (Shows name config))
        ((program.mapErr StoreError.told).attempt : ApiAction ε (Except Failure α))
        (fun answer _ => ∃ failure, answer = .error failure) (fun _ _ => True) () :=
    safe_attempt.mpr (safe_mapErr.mpr (fruitless.weaken (fun _ _ => False.elim) fun _ _ _ => ⟨_, rfl⟩))
  rcases asks with rfl | rfl
  · exact failing (load_fruitless damaged)
  · exact failing (list_fruitless damaged)

theorem createStored_fruitless (damaged : Damaged text config) {r : CreateVolumeRequest} (own : r.name = name) :
    Fruitless name config (createStored text r) := by
  refine safe_bind.mpr (safe_ofExcept.mpr ⟨fun _ _ => trivial, fun volume built => ?_⟩)
  have named : volume.name = name := (newVolume_name built).trans own
  have exists_ : Safe (contract (ApiCall.asks name) (Shows name config)) (Stored.create text volume)
      (fun creation _ => creation = .alreadyExists) (fun _ _ => True) () := by
    refine safe_contract_call.mpr ⟨.inl (congrArg (ApiCall.getOpt <| volumeKey ·) named), fun answer shows => ?_⟩
    cases answer with
    | error failure => trivial
    | ok existing =>
      obtain rfl := shows (congrArg volumeKey named) existing rfl
      rfl
  refine Safe.bind (safe_mapErr.mpr exists_) fun creation _ there => ?_
  rw [there, named]
  exact Safe.bind (safe_mapErr.mpr (load_fruitless damaged)) fun _ _ => False.elim

theorem handleApi_fruitless (damaged : Damaged text config) (served : Config × Rpc)
    (concerns : Concerns name served.2) :
    Fruitless name config (handleApi text served.1 served.2) := by
  obtain ⟨own, rpc⟩ := served
  have reading (other : rpc.lifecycle? = none) :
      Fruitless name config ((handleRpc own rpc).implement (answerCall text)) :=
    Safe.implement (handleRpc_stuck own concerns other) fun _ asks => answerCall_fruitless damaged asks
  cases rpc with
  | lifecycle request =>
    refine Safe.bind (safe_mapErr.mpr (?_ : Fruitless name config (handleStored text own request))) fun _ _ =>
      False.elim
    have implemented (other : ∀ r, request ≠ .createVolume r) :
        Fruitless name config ((handle own request).implement (answerCall text)) := by
      have stuck := handle_stuck own other
      rw [show request.volumeId = name from concerns] at stuck
      exact Safe.implement stuck fun _ asks => answerCall_fruitless damaged asks
    cases request with
    | createVolume r => exact Safe.bind (createStored_fruitless damaged concerns) fun _ _ => False.elim
    | _ => exact implemented nofun
  | _ => exact reading rfl

def damageTerms (text : Text) (name : String) (config : ConfigMap) :
    Terms (Config × Rpc) ApiCall ApiCall.Answer Refusal RpcReply Fleet where
  fits served call := OwnCall text served.2 call ∧ (Concerns name served.2 → call.asks name)
  promise _ call answer := FoundOwn text call answer ∧ Shows name config call answer
  post served _ := ¬Concerns name served.2
  fail _ _ := True
  valid fleet := OwnNames text fleet.configs ∧ fleet.configs.lookup (volumeKey name) = some config

theorem Fleet.exec_shows {fleet : Fleet} (held : fleet.configs.lookup (volumeKey name) = some config)
    (served : Config × Rpc) (fault : Fault) (call : ApiCall) :
    Shows name config call (fleet.exec served fault call).1 := by
  cases call with
  | getOpt key =>
    cases fault with
    | none =>
      rintro rfl found answer
      exact (Except.ok.inj answer).symm.trans held
    | fails | lost => exact fun _ _ failed => nomatch failed
  | list =>
    cases fault with
    | none =>
      intro configs answer
      rw [← Except.ok.inj answer]
      exact List.mem_map.mpr ⟨_, AList.mem_lookup_iff.mp held, rfl⟩
    | fails | lost => exact fun _ failed => nomatch failed
  | _ => trivial

theorem Fleet.exec_asks {fleet : Fleet} {served : Config × Rpc} {fault : Fault} {call : ApiCall}
    (asks : call.asks name) :
    (fleet.exec served fault call).2.configs = fleet.configs := by
  rcases asks with rfl | rfl <;> cases fault <;> rfl

theorem damage_sound (damaged : Damaged text config) :
    (damageTerms text name config).Sound (fun _ => True) Fleet.exec
    fun served => handleApi text served.1 served.2 where
  bodies {served} _ := by
    by_cases concerns : Concerns name served.2
    · refine (Safe.relax (handleApi_fruitless damaged served concerns) (fun call asks => ⟨?_, fun _ => asks⟩)
        fun _ _ _ promised => promised.2).weaken (fun _ _ => False.elim) fun _ _ _ => trivial
      rcases asks with rfl | rfl
      · exact .getOpt _ _
      · exact .list _
    · exact (Safe.relax (handleApi_within served.1 served.2) (fun call fits => ⟨fits, fun own => absurd own concerns⟩)
        fun _ _ _ promised => promised.1).weaken (fun _ _ _ => concerns) fun _ _ _ => trivial
  step {served fault fleet call} _ valid fits := by
    obtain ⟨names, held⟩ := valid
    have edits := fleet.exec_edits served fault fits.1
    refine ⟨⟨fleet.exec_found served fault call names, Fleet.exec_shows held served fault call⟩,
      edits.ownNames names, ?_⟩
    by_cases concerns : Concerns name served.2
    · rw [Fleet.exec_asks (fits.2 concerns), held]
    · rw [edits.elsewhere, held]
      intro request same equal
      rw [same] at concerns
      exact concerns (volumeKey_injective equal)

end Damaged

/-- A record cut off in the middle of a write by hand. -/
def Sample.torn : ConfigMap := ⟨some (AList.singleton "data.json" "\x7b\"name\":")⟩

def Sample.tornFleet : Fleet := ⟨AList.singleton "lvp-vol-data" torn, fun _ => {}⟩

theorem Sample.torn_damaged : Damaged compact torn := ⟨.malformed, rfl⟩

end Lvp
