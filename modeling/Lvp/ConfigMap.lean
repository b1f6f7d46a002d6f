import Lvp.Effect.Lowering
import Lvp.Format.Table
import Lvp.Rpc

/-!
`store/volume.rs` as it is: records are JSON texts under `data.json` in ConfigMaps, among ConfigMaps and
entries of others. The handlers are those of `controller.rs` and `node.rs`, over these calls.
-/

namespace Lvp
open Unix Effect Csi

/-- `serde_json` at the types that `volume.rs` gives it: `to_string` of a record, and `from_str` at `Volume`
and at `Option<Volume>`. What it writes it reads back, and the two readers agree on what is a record. -/
structure Text where
  print : Volume → String
  parse : String → Option Volume
  parseOption : String → Option (Option Volume)
  parse_print : ∀ volume, parse (print volume) = some volume
  parseOption_some : ∀ document volume, parseOption document = some (some volume) ↔ parse document = some volume

/-- What the plugin reads and writes of a ConfigMap. -/
structure ConfigMap where
  data : Option (AList fun _ : String => String)

abbrev ConfigMaps := AList (fun _ : String => ConfigMap)

/-- A merge patch of one entry of `data`. -/
def ConfigMap.merge (config : ConfigMap) (entry text : String) : ConfigMap :=
  ⟨some ((config.data.getD ∅).insert entry text)⟩

/-! ### Calls -/

inductive ApiCall where
  | getOpt (key : String)
  | create (key : String) (config : ConfigMap)
  | patch (key entry text : String)
  | delete (key : String)
  | list
  | host (call : Call) (onHost : call.onStore = false)

namespace ApiCall

abbrev Value : ApiCall → Type
  | .getOpt _ => Option ConfigMap
  | .list => List (String × ConfigMap)
  | .host call _ => call.Value
  | _ => Unit

abbrev Answer (call : ApiCall) : Type := Except Failure call.Value

end ApiCall

/-- One instance: the ConfigMaps of its namespace and its host. -/
structure Site where
  configs : ConfigMaps := ∅
  host : Host := {}

def Site.perform (owner : String) (site : Site) : (call : ApiCall) → call.Answer × Site
  | .getOpt key => (.ok (site.configs.lookup key), site)
  | .create key config =>
    if key ∈ site.configs then (.error .conflict, site)
    else (.ok (), { site with configs := site.configs.insert key config })
  | .patch key entry text =>
    match site.configs.lookup key with
    | some config => (.ok (), { site with configs := site.configs.insert key (config.merge entry text) })
    | none => (.error .absent, site)
  | .delete key =>
    if key ∈ site.configs then (.ok (), { site with configs := site.configs.erase key })
    else (.error .absent, site)
  | .list => (.ok (site.configs.entries.map fun entry => (entry.1, entry.2)), site)
  | .host call _ =>
    let after := World.perform owner ⟨∅, site.host⟩ call
    (after.1, { site with host := after.2.host })

theorem Site.perform_patch_absent {owner key entry text : String} {site : Site}
    (missing : site.configs.lookup key = none) :
    site.perform owner (.patch key entry text) = (.error .absent, site) := by
  simp only [Site.perform, missing]

theorem Site.perform_patch {owner key entry text : String} {site : Site} {config : ConfigMap}
    (held : site.configs.lookup key = some config) : site.perform owner (.patch key entry text) =
      (.ok (), ⟨site.configs.insert key (config.merge entry text), site.host⟩) := by
  simp only [Site.perform, held]

def Site.exec (owner : String) (fault : Fault) (site : Site) (call : ApiCall) : call.Answer × Site :=
  match fault with
  | .none => site.perform owner call
  | .fails => (.error .unavailable, site)
  | .lost => (.error .unavailable, (site.perform owner call).2)

/-! ### The functions of `volume.rs` -/

/-- An error of a call, or of what was read. -/
inductive StoreError where
  | call (failure : Failure)
  | context (message : String)
  | malformed

/-- What a handler is told, which only logs it. -/
def StoreError.told : StoreError → Failure
  | .call failure => failure
  | _ => .unavailable

abbrev ApiAction (ε α : Type) := Program ApiCall ApiCall.Answer ε α

def ask (call : ApiCall) : ApiAction StoreError call.Value :=
  .call call fun answer => .ofExcept (answer.mapError .call)

def ConfigMap.document (config : ConfigMap) : Except StoreError String :=
  match config.data with
  | none => .error (.context "no data")
  | some data =>
    match data.lookup "data.json" with
    | none => .error (.context "missing data.json")
    | some text => .ok text

/-- What `serde_json::from_str` makes of the document that a ConfigMap holds. -/
def ConfigMap.read {α : Type} (parse : String → Option α) (config : ConfigMap) : Except StoreError α :=
  match config.document with
  | .error error => .error error
  | .ok document =>
    match parse document with
    | none => .error .malformed
    | some value => .ok value

def ConfigMap.ofVolume (text : Text) (volume : Volume) : ConfigMap :=
  ⟨some (AList.singleton "data.json" (text.print volume))⟩

def isVolumeKey (key : String) : Bool := "lvp-vol-".toList.isPrefixOf key.toList

/-- The loop of `Volume::list`. -/
def readAll (text : Text) : List (String × ConfigMap) → Except StoreError (List Volume)
  | [] => .ok []
  | (name, config) :: rest =>
    if isVolumeKey name then
      match config.read text.parse, readAll text rest with
      | .ok volume, .ok volumes => .ok (volume :: volumes)
      | .error error, _ => .error error
      | _, .error error => .error error
    else readAll text rest

namespace Stored

variable (text : Text)

def create (volume : Volume) : ApiAction StoreError VolumeCreation := do
  let existing : Option ConfigMap ← ask (.getOpt volume.key)
  if existing.isSome then
    pure .alreadyExists
  else do
    let _ ← ask (.create volume.key (.ofVolume text volume))
    pure .success

def update (key : String) (volume : Volume) : ApiAction StoreError Unit :=
  ask (.patch key "data.json" (text.print volume))

def load (key : String) : ApiAction StoreError (Option Volume) := do
  let found : Option ConfigMap ← ask (.getOpt key)
  match found with
  | none => pure none
  | some config => .ofExcept (config.read text.parseOption)

def list : ApiAction StoreError (List Volume) := do
  let configs : List (String × ConfigMap) ← ask .list
  .ofExcept (readAll text configs)

end Stored

/-! ### The handlers over them -/

/-- The function of `volume.rs` that a call on records stands for. -/
def lowerCall (text : Text) : (call : Call) → ApiAction StoreError call.Value
  | .getOpt key => Stored.load text key
  | .create key volume => ask (.create key (.ofVolume text volume))
  | .patch key volume => Stored.update text key volume
  | .delete key => ask (.delete key)
  | .list => Stored.list text
  | .tryExists path => ask (.host (.tryExists path) rfl)
  | .createDirAll path => ask (.host (.createDirAll path) rfl)
  | .createFile path => ask (.host (.createFile path) rfl)
  | .openWrite path => ask (.host (.openWrite path) rfl)
  | .ftruncate path length => ask (.host (.ftruncate path length) rfl)
  | .removeFile path => ask (.host (.removeFile path) rfl)
  | .removeDirAll path => ask (.host (.removeDirAll path) rfl)
  | .removeDir path => ask (.host (.removeDir path) rfl)
  | .command argv => ask (.host (.command argv) rfl)
  | .statvfs path => ask (.host (.statvfs path) rfl)

def answerCall {ε : Type} (text : Text) (call : Call) : ApiAction ε call.Answer :=
  ((lowerCall text call).mapErr StoreError.told).attempt

/-- `create_volume` again, since the check of `Volume::create` does not read the record it finds. -/
def createStored (text : Text) (r : CreateVolumeRequest) : ApiAction Status CreateVolumeResponse := do
  let volume ← .ofExcept (newVolume r)
  let creation ← (Stored.create text volume).mapErr fun _ => Status.internal "internal failure"
  match creation with
  | .alreadyExists => do
    let found ← (Stored.load text (volumeKey volume.name)).mapErr fun _ => Status.internal "internal failure"
    let existing ← .ofOption (.alreadyExists "volume name already exists") found
    .reject (¬Reconciles existing volume) (.alreadyExists "volume name already exists")
    pure (createdVolume volume)
  | .success => pure (createdVolume volume)

def handleStored (text : Text) (config : Config) : Request → ApiAction Status Reply
  | .createVolume r => do return .created (← createStored text r)
  | request => (handle config request).implement (answerCall text)

def handleApi (text : Text) (config : Config) : Rpc → ApiAction Refusal RpcReply
  | .lifecycle request => (handleStored text config request).rename .status .lifecycle
  | rpc => (handleRpc config rpc).implement (answerCall text)

/-! ### Several instances -/

/-- The namespace that all instances share, and the host of each node. -/
structure Fleet where
  configs : ConfigMaps
  hosts : String → Host

def Fleet.site (fleet : Fleet) (config : Config) : Site := ⟨fleet.configs, fleet.hosts config.node⟩

def Fleet.update (fleet : Fleet) (config : Config) (site : Site) : Fleet :=
  ⟨site.configs, Function.update fleet.hosts config.node site.host⟩

/-- A call of the instance configured as `served.1`, made while serving `served.2`. -/
def Fleet.exec (served : Config × Rpc) (fault : Fault) (fleet : Fleet) (call : ApiCall) : call.Answer × Fleet :=
  let after := (fleet.site served.1).exec served.2.owner fault call
  (after.1, fleet.update served.1 after.2)

abbrev ApiDeployment := Pool (Config × Rpc) ApiCall ApiCall.Answer Refusal RpcReply Fleet

/-- Plays a schedule of requests of every kind to all instances. -/
def Fleet.deploy (text : Text) (fleet : Fleet)
    (schedule : List (Move (Config × Rpc) ApiCall Fault)) : ApiDeployment :=
  Pool.play Fleet.exec (fun served => handleApi text served.1 served.2) ⟨fleet, []⟩ schedule

end Lvp
