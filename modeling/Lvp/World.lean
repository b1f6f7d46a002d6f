import Lvp.Csi
import Lvp.Volume
import Lvp.Effect.Pool
import Lvp.Unix.Host

/-!
What the plugin acts on: the ConfigMaps behind `store/` and the host behind `tokio::fs`, `libc` and
`chroot.rs`. Each call is one atomic step; `World.exec` adds the ways in which it can go wrong.
-/

namespace Lvp
open Unix Effect

/-- The errors of store and host calls. Handlers log them and never look inside. -/
inductive Failure where
  | io (error : IoError)
  | conflict
  | absent
  | unavailable
  deriving DecidableEq, Repr

inductive Call where
  | getOpt (key : String)
  | create (key : String) (volume : Volume)
  | patch (key : String) (volume : Volume)
  | delete (key : String)
  | list
  | tryExists (path : Path)
  | createDirAll (path : Path)
  | createFile (path : Path)
  | openWrite (path : Path)
  | ftruncate (path : Path) (length : Int64)
  | removeFile (path : Path)
  | removeDirAll (path : Path)
  | removeDir (path : Path)
  | command (argv : List String)
  | statvfs (path : Path)
  deriving DecidableEq

namespace Call

abbrev Value : Call → Type
  | .getOpt _ => Option Volume
  | .list => List Volume
  | .tryExists _ => Bool
  | .command _ => String
  | .statvfs _ => Statvfs64
  | _ => Unit

abbrev Answer (call : Call) : Type := Except Failure call.Value

/-- Calls to the API server, as opposed to calls to the host. -/
def onStore : Call → Bool
  | .getOpt _ | .create _ _ | .patch _ _ | .delete _ | .list => true
  | _ => false

end Call

abbrev Store := AList (fun _ : String => Volume)

structure World where
  store : Store := ∅
  host : Host := {}

def fromHost {α : Type} (world : World) (result : Except IoError α × Host) : Except Failure α × World :=
  (result.1.mapError .io, { world with host := result.2 })

theorem fromHost_ok {α : Type} {world : World} {result : Except IoError α × Host} {value : α} :
    (fromHost world result).1 = .ok value ↔ result.1 = .ok value := by
  obtain ⟨answer, host⟩ := result
  cases answer <;> simp [fromHost, Except.mapError]

/-- `list` only returns names with the prefix of `volumeKey`. -/
def listed (store : Store) : List Volume :=
  (store.entries.filter fun entry => "lvp-vol-".toList.isPrefixOf entry.1.toList).map (·.2)

/-- A call that goes through, issued on behalf of the request for `owner`. -/
def World.perform (owner : String) (world : World) : (call : Call) → call.Answer × World
  | .getOpt key => (.ok (world.store.lookup key), world)
  | .create key volume =>
    if key ∈ world.store then (.error .conflict, world)
    else (.ok (), { world with store := world.store.insert key volume })
  | .patch key volume =>
    if key ∈ world.store then (.ok (), { world with store := world.store.insert key volume })
    else (.error .absent, world)
  | .delete key =>
    if key ∈ world.store then (.ok (), { world with store := world.store.erase key })
    else (.error .absent, world)
  | .list => (.ok (listed world.store), world)
  | .tryExists path => fromHost world (world.host.tryExists path, world.host)
  | .createDirAll path => fromHost world (world.host.createDirAll path)
  | .createFile path => fromHost world (world.host.createFile path)
  | .openWrite path => fromHost world (world.host.openWrite path, world.host)
  | .ftruncate path length => fromHost world (world.host.ftruncate path length)
  | .removeFile path => fromHost world (world.host.removeFile path)
  | .removeDirAll path => fromHost world (world.host.removeDirAll path)
  | .removeDir path => fromHost world (world.host.removeDir path)
  | .command argv => fromHost world (world.host.command owner argv)
  | .statvfs path =>
    fromHost world ((world.host.stat path).map fun _ => world.host.statvfs (world.host.resolve path), world.host)

theorem perform_store {owner : String} {world : World} {call : Call} (onHost : call.onStore = false) :
    (world.perform owner call).2.store = world.store := by
  cases call <;> first | rfl | cases onHost

/-- Calls to the host do not look at the store. -/
theorem perform_host (owner : String) (store store' : Store) (host : Host) {call : Call}
    (onHost : call.onStore = false) :
    (World.perform owner ⟨store, host⟩ call).1 = (World.perform owner ⟨store', host⟩ call).1 ∧
      (World.perform owner ⟨store, host⟩ call).2.host = (World.perform owner ⟨store', host⟩ call).2.host := by
  cases call <;> first | exact ⟨rfl, rfl⟩ | cases onHost

/-- `fails` reports an error and does nothing; `lost` does the work and reports an error. -/
inductive Fault where
  | none
  | fails
  | lost
  deriving DecidableEq, Repr

def World.exec (owner : String) (fault : Fault) (world : World) (call : Call) : call.Answer × World :=
  match fault with
  | .none => world.perform owner call
  | .fails => (.error .unavailable, world)
  | .lost => (.error .unavailable, (world.perform owner call).2)

theorem World.exec_acts {owner : String} {fault : Fault} {world : World} {call : Call} (acts : fault ≠ .fails) :
    (world.exec owner fault call).2 = (world.perform owner call).2 := by
  cases fault with
  | none => rfl
  | fails => exact absurd rfl acts
  | lost => rfl

theorem World.exec_through {owner : String} {fault : Fault} {world : World} {call : Call} {value : call.Value}
    (answer : (world.exec owner fault call).1 = .ok value) :
    world.perform owner call = (.ok value, (world.exec owner fault call).2) := by
  cases fault with
  | none => exact Prod.ext answer rfl
  | fails => cases answer
  | lost => cases answer

/-! ### Issuing calls -/

abbrev Action (ε α : Type) := Program Call Call.Answer ε α

def issue (call : Call) : Action Failure call.Value :=
  .call call fun answer => .ofExcept answer

theorem safe_issued {fits : Call → Prop} {promise : (call : Call) → call.Answer → Prop} {call : Call}
    {post : call.Value → Unit → Prop} (fit : fits call)
    (heard : ∀ value, promise call (.ok value) → post value ()) :
    Safe (contract fits promise) (issue call) post (fun _ _ => True) () := by
  refine safe_contract_call.mpr ⟨fit, fun answer promised => ?_⟩
  cases answer with
  | ok value => exact heard value promised
  | error failure => trivial

/-- `chroot::run`: every argument is trimmed. -/
def run (command : List String) : Action Failure String := issue (.command (command.map trim))

/-- `chroot::run_in_chroot`. -/
def runInChroot (command : List String) : Action Failure String := run ("chroot" :: "/chr" :: command)

/-- `Command::new(..).arg(..).spawn()?.wait()`: the arguments go through untouched. -/
def spawn (command : List String) : Action Failure String := issue (.command command)

namespace Volume

/-- `Volume::create`: the check and the creation are two calls. -/
def create (volume : Volume) : Action Failure VolumeCreation := do
  let existing : Option Volume ← issue (.getOpt volume.key)
  if existing.isSome then
    pure .alreadyExists
  else do
    let _ ← issue (.create volume.key volume)
    pure .success

/-- `Volume::update`: a merge patch of the one data entry, without a resource version. -/
def update (volume : Volume) : Action Failure Unit := issue (.patch volume.key volume)

def delete (volume : Volume) : Action Failure Unit := issue (.delete volume.key)

def load (name : String) : Action Failure (Option Volume) := issue (.getOpt (volumeKey name))

def list : Action Failure (List Volume) := issue .list

end Volume

end Lvp
