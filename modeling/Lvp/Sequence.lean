import Lvp.Progress
import Lvp.Stored
import Lvp.Unix.Mounts

/-!
Sequential runs, call by call. `history` is everything a run has asked of store and host, with the
answers; `Carries` is the principle by which an invariant of phases, history and world is proved for
every run, one call at a time.
-/

namespace Lvp
open Unix Effect Csi

variable {config : Config} {request : Request} {world : World}

abbrev CallEvent := Event Call Call.Answer World Fault

abbrev History := List (Request × CallEvent)

/-- A call as it stands in a history. -/
abbrev entry (request : Request) (world : World) (call : Call) (fault : Fault) : Request × CallEvent :=
  (request, event (execFor request) world call fault)

def Call.mounts : Call → Bool
  | .command argv => match deed argv with
    | .mounts _ => true
    | _ => false
  | _ => false

def Call.attaches : Call → Bool
  | .command argv => deed argv = .attaches
  | _ => false

def traced (config : Config) (request : Request) (oracle : Oracle Call Fault) (world : World) : List CallEvent :=
  (handle config request).trace (execFor request) oracle world

def history (config : Config) : World → Run → History
  | _, [] => []
  | world, (request, oracle) :: rest =>
    (traced config request oracle world).map (request, ·) ++ history config (serve config request oracle world).2 rest

/-- Every request of a run meets a condition in the world it is served in. -/
def Meets (config : Config) (admits : Request → World → Prop) : World → Run → Prop
  | _, [] => True
  | world, (request, oracle) :: rest =>
    admits request world ∧ Meets config admits (serve config request oracle world).2 rest

instance Meets.decidable {admits : Request → World → Prop} [∀ request, DecidablePred (admits request)] :
    (world : World) → DecidablePred (Meets config admits world)
  | _, [] => .isTrue trivial
  | world, (request, oracle) :: rest =>
    have : Decidable (Meets config admits (serve config request oracle world).2 rest) := Meets.decidable _ rest
    inferInstanceAs (Decidable (admits request world ∧ _))

/-- Every call of a history meets a condition, given what came before. -/
def Throughout (allowed : History → Request × CallEvent → Prop) (history : History) : Prop :=
  ∀ before entry after, history = before ++ entry :: after → allowed before entry

theorem meets_forall {admits : Request → Prop} {run : Run} (admitted : ∀ step ∈ run, admits step.1) :
    Meets config (fun request _ => admits request) world run := by
  induction run generalizing world with
  | nil => trivial
  | cons step rest ih =>
    obtain ⟨first, later⟩ := List.forall_mem_cons.mp admitted
    exact ⟨first, ih later⟩

/-! ### The record a phase stands for -/

/-- While a request is served alone, the record it works on is the one in the store. -/
def Holds (request : Request) : Phase → World → Prop
  | .missing, world => world.store.lookup (volumeKey request.volumeId) = none
  | .on volume _, world => world.store.lookup (volumeKey request.volumeId) = some volume
  | _, _ => True

theorem Writes.rewrite {v w : Volume} {stage next : Stage} (writes : Writes config request v stage w next) :
    Rewrite v w := by
  cases writes with
  | publish asked unlocked state valid => exact .publish _ state valid
  | unpublish state => exact .unpublish state
  | pin admitted => exact .pin _ admitted.mountable
  | record admitted mounted => exact .mount admitted.mountable admitted.fresh mounted
  | unmount unmountable => exact .unmount unmountable.state unmountable.present
  | expand expandable => exact .expand expandable.state expandable.grows

/-- Only a call that goes through is answered Ok. -/
theorem exec_answered {call : Call} {fault : Fault} {value : call.Value}
    (answered : (execFor request fault world call).1 = .ok value) :
    execFor request fault world call = world.perform request.volumeId call := by
  cases fault with
  | none => rfl
  | fails => cases answered
  | lost => cases answered

theorem exec_host {fault : Fault} {call : Call} (onHost : call.onStore = false) :
    (execFor request fault world call).2.store = world.store := by
  cases fault with
  | none => exact perform_store onHost
  | fails => rfl
  | lost => exact perform_store onHost

theorem holds_load {fault : Fault} {key : String} (own : key = volumeKey request.volumeId) :
    Holds request (through found (execFor request fault world (.getOpt key)).1)
      (execFor request fault world (.getOpt key)).2 := by
  subst own
  cases fault with
  | none =>
    simp only [execFor, World.exec, World.perform, through_ok]
    cases held : world.store.lookup (volumeKey request.volumeId) with
    | none => exact held
    | some volume => exact held
  | fails => trivial
  | lost => trivial

/-- A call on the host, after which the request stands by the same record or has stopped. -/
theorem holds_host {fault : Fault} {call : Call} {volume : Volume} {resume : call.Answer → Phase}
    (held : world.store.lookup (volumeKey request.volumeId) = some volume) (onHost : call.onStore = false)
    (same : ∀ answer, resume answer = .stopped ∨ ∃ stage, resume answer = .on volume stage) :
    Holds request (resume (execFor request fault world call).1) (execFor request fault world call).2 := by
  rcases same (execFor request fault world call).1 with stopped | ⟨stage, on⟩
  · rw [stopped]
    trivial
  · rw [on, Holds, exec_host onHost]
    exact held

theorem through_stage {α : Type} {volume : Volume} {next : α → Phase} (stays : ∀ value, next value = .stopped ∨
    ∃ stage, next value = .on volume stage) (answer : Except Failure α) :
    through next answer = .stopped ∨ ∃ stage, through next answer = .on volume stage := by
  cases answer with
  | ok value => exact stays value
  | error failure => exact Or.inl rfl

theorem patch_present {fault : Fault} {key : String} {written volume : Volume}
    (held : world.store.lookup key = some volume) :
    execFor request fault world (.patch key written) =
      match fault with
      | .none => (.ok (), { world with store := world.store.insert key written })
      | .fails => (.error .unavailable, world)
      | .lost => (.error .unavailable, { world with store := world.store.insert key written }) := by
  have present : key ∈ world.store := AList.lookup_isSome.mp (by rw [held]; rfl)
  cases fault <;> simp [execFor, World.exec, World.perform, present]

theorem create_absent {fault : Fault} {key : String} {volume : Volume} (absent : world.store.lookup key = none) :
    execFor request fault world (.create key volume) =
      match fault with
      | .none => (.ok (), { world with store := world.store.insert key volume })
      | .fails => (.error .unavailable, world)
      | .lost => (.error .unavailable, { world with store := world.store.insert key volume }) := by
  have missing := AList.lookup_eq_none.mp absent
  cases fault <;> simp [execFor, World.exec, World.perform, missing]

theorem delete_present {fault : Fault} {key : String} {volume : Volume}
    (held : world.store.lookup key = some volume) :
    execFor request fault world (.delete key) =
      match fault with
      | .none => (.ok (), { world with store := world.store.erase key })
      | .fails => (.error .unavailable, world)
      | .lost => (.error .unavailable, { world with store := world.store.erase key }) := by
  have present : key ∈ world.store := AList.lookup_isSome.mp (by rw [held]; rfl)
  cases fault <;> simp [execFor, World.exec, World.perform, present]

theorem exec_delete (request : Request) (world : World) (fault : Fault) (key : String) :
    (execFor request fault world (.delete key)).2.host = world.host ∧
      ∀ name volume, (execFor request fault world (.delete key)).2.store.lookup name = some volume →
        world.store.lookup name = some volume := by
  have erased : ∀ name volume, (world.store.erase key).lookup name = some volume →
      world.store.lookup name = some volume := by
    intro name volume held
    by_cases same : name = key
    · rw [same, AList.lookup_erase] at held
      cases held
    · rwa [AList.lookup_erase_ne same] at held
  cases fault with
  | fails => exact ⟨rfl, fun _ _ => id⟩
  | none | lost =>
    simp only [execFor, World.exec, World.perform]
    split
    · exact ⟨rfl, erased⟩
    · exact ⟨rfl, fun _ _ => id⟩

theorem Holds.step {phase : Phase} {call : Call} {resume : call.Answer → Phase} {fault : Fault}
    (ok : StoreOk WellFormed world.store) (holds : Holds request phase world)
    (issued : Issues config request phase call resume) :
    Holds request (resume (execFor request fault world call).1) (execFor request fault world call).2 := by
  cases issued with
  | load => exact holds_load rfl
  | reload => exact holds_load rfl
  | write writes =>
    have named := (ok.named holds).1
    have own := congrArg volumeKey (writes.rewrite.name.trans named)
    rw [Volume.key, own, patch_present holds]
    cases fault with
    | none => exact AList.lookup_insert _
    | fails => trivial
    | lost => trivial
  | @create r volume built =>
    have own : volume.key = volumeKey r.name := congrArg volumeKey (newVolume_name built)
    have absent : world.store.lookup (volumeKey r.name) = none := holds
    rw [own, create_absent absent]
    cases fault with
    | none => exact AList.lookup_insert _
    | fails => trivial
    | lost => trivial
  | delete state =>
    have own := congrArg volumeKey (ok.named holds).1
    rw [Volume.key, own, delete_present holds]
    cases fault with
    | none => exact AList.lookup_erase _ _
    | fails => trivial
    | lost => trivial
  | check =>
    refine holds_host holds rfl (through_stage fun present => ?_)
    split
    · exact Or.inl rfl
    · exact Or.inr ⟨_, rfl⟩
  | detach => exact holds_host holds rfl fun _ => Or.inr ⟨_, rfl⟩
  | removeTarget => exact holds_host holds rfl fun _ => Or.inr ⟨_, rfl⟩
  | _ => exact holds_host holds rfl (through_stage fun _ => Or.inr ⟨_, rfl⟩)

theorem Issues.fits {I : Volume → Prop} (invariant : Invariant I) {phase : Phase} {call : Call}
    {resume : call.Answer → Phase} (ok : StoreOk I world.store) (holds : Holds request phase world)
    (issued : Issues config request phase call resume) : recordFits I call := by
  cases issued with
  | write writes => exact ⟨rfl, invariant.rewritten writes.rewrite (ok.named holds).2⟩
  | create built => exact ⟨rfl, invariant.created built⟩
  | _ => trivial

/-! ### The principle -/

/-- The phases a request may be left in. -/
def Ends (config : Config) (request : Request) (phase : Phase) : Prop := phase.idle ∨ Returns config request phase

/-- `I` after a call: in the phase its answer leads to, with one call more in the history. -/
abbrev Afterwards (I : Request → Phase → History → World → Prop) (request : Request) (past : History)
    (world : World) (call : Call) (resume : call.Answer → Phase) (fault : Fault) : Prop :=
  I request (resume (execFor request fault world call).1) (past ++ [entry request world call fault])
    (execFor request fault world call).2

/-- The same for an invariant that does not look back. -/
abbrev Onwards (I : Request → Phase → World → Prop) (request : Request) (world : World) (call : Call)
    (resume : call.Answer → Phase) (fault : Fault) : Prop :=
  I request (resume (execFor request fault world call).1) (execFor request fault world call).2

/-- `I` holds inside requests and `R` between them: each request may start, each call keeps `I`. -/
structure Carries (config : Config) (admits : Request → World → Prop)
    (allowed : History → Request × CallEvent → Prop)
    (I : Request → Phase → History → World → Prop) (R : History → World → Prop) : Prop where
  enter : ∀ {request past world}, admits request world → R past world → I request .start past world
  step : ∀ {request phase past world} {call : Call} {resume : call.Answer → Phase} {fault},
    StoreOk WellFormed world.store → Holds request phase world → I request phase past world →
    Issues config request phase call resume → allowed past (entry request world call fault) →
      Afterwards I request past world call resume fault
  leave : ∀ {request phase past world}, Ends config request phase → I request phase past world → R past world

theorem split_append {α : Type} {first rest before after : List α} {entry : α}
    (split : first ++ rest = before ++ entry :: after) :
    (∃ tail, first = before ++ entry :: tail) ∨ ∃ later, before = first ++ later ∧
      rest = later ++ entry :: after := by
  rcases List.append_eq_append_iff.mp split with ⟨later, longer, tail⟩ | ⟨later, shorter, tail⟩
  · exact Or.inr ⟨later, longer, tail⟩
  · cases later with
    | nil => exact Or.inr ⟨[], by simpa using shorter.symm, by simpa using tail.symm⟩
    | cons head later =>
      obtain ⟨rfl, -⟩ := List.cons.inj tail
      exact Or.inl ⟨later, shorter⟩

theorem outcome_ends {α ε : Type} {result : Except ε α} {last : Phase}
    (ended : Outcome (fun _ => Returns config request) (fun _ last => last.idle) (result, last)) :
    Ends config request last := by
  cases result with
  | ok value => exact Or.inr ended
  | error error => exact Or.inl ended

namespace Carries
variable {admits : Request → World → Prop} {allowed : History → Request × CallEvent → Prop}
  {I : Request → Phase → History → World → Prop} {R : History → World → Prop} {past : History}

/-- A condition on the calls of a history, for the calls of one request in it. -/
def Within (allowed : History → Request × CallEvent → Prop) (past : History) (request : Request)
    (events : List CallEvent) (entry : CallEvent) : Prop :=
  allowed (past ++ events.map (request, ·)) (request, entry)

/-- What holds inside a request, once it has made some calls. -/
def Inside (I : Request → Phase → History → World → Prop) (past : History) (request : Request) (phase : Phase)
    (events : List CallEvent) (world : World) : Prop :=
  StoreOk WellFormed world.store ∧ Holds request phase world ∧
    I request phase (past ++ events.map (request, ·)) world

theorem inside_step {phase : Phase} {events : List CallEvent} {call : Call} {resume : call.Answer → Phase}
    {fault : Fault} (carries : Carries config admits allowed I R)
    (inside : Inside I past request phase events world) (issued : Issues config request phase call resume)
    (permitted : Within allowed past request events (event (execFor request) world call fault)) :
    Inside I past request (resume (execFor request fault world call).1)
      (events ++ [event (execFor request) world call fault]) (execFor request fault world call).2 := by
  obtain ⟨ok, held, kept⟩ := inside
  refine ⟨exec_ok world ok (issued.fits wellFormed_invariant ok held), held.step ok issued, ?_⟩
  rw [List.map_append, ← List.append_assoc]
  exact carries.step ok held kept issued permitted

/-- What holds where a call is issued. -/
def At (config : Config) (I : Request → Phase → History → World → Prop) (past : History)
    (entry : Request × CallEvent) : Prop :=
  ∃ phase resume, Issues config entry.1 phase entry.2.op resume ∧ StoreOk WellFormed entry.2.world.store ∧
    Holds entry.1 phase entry.2.world ∧ I entry.1 phase past entry.2.world

theorem serve (past : History) {oracle : Oracle Call Fault} (carries : Carries config admits allowed I R)
    (ok : StoreOk WellFormed world.store) (holds : R past world) (admitted : admits request world)
    (permitted : ∀ before entry after, (traced config request oracle world).map (request, ·) =
      before ++ entry :: after → allowed (past ++ before) entry) :
    StoreOk WellFormed (serve config request oracle world).2.store ∧
    (∃ last, Outcome (fun _ => Returns config request) (fun _ last => last.idle)
        ((serve config request oracle world).1, last) ∧
      Holds request last (serve config request oracle world).2 ∧
      I request last (past ++ (traced config request oracle world).map (request, ·))
        (serve config request oracle world).2) ∧
    ∀ before entry after, (traced config request oracle world).map (request, ·) = before ++ entry :: after →
      At config I (past ++ before) entry := by
  have start : Inside I past request .start [] world := by
    refine ⟨ok, trivial, ?_⟩
    rw [List.map_nil, List.append_nil]
    exact carries.enter admitted holds
  have within : ∀ before entry after, (handle config request).trace (execFor request) oracle world =
      before ++ entry :: after → Within allowed past request ([] ++ before) entry := by
    intro before entry after split
    apply permitted _ _ (after.map (request, ·))
    rw [traced, split, List.map_append, List.map_cons]
    rfl
  obtain ⟨⟨last, ended, ok, held, kept⟩, visited⟩ :=
    Follows.run (inside_step carries) (handle_follows config request) start within
  refine ⟨ok, ⟨last, ended, held, kept⟩, fun before entry after split => ?_⟩
  obtain ⟨first, rest, whole, rfl, tail⟩ := List.map_eq_append_iff.mp split
  obtain ⟨event, later, rfl, rfl, rfl⟩ := List.map_eq_cons_iff.mp tail
  obtain ⟨phase, resume, issued, ok, held, kept⟩ := visited first event later whole
  exact ⟨phase, resume, issued, ok, held, kept⟩

theorem run {run : Run} (carries : Carries config admits allowed I R) (ok : StoreOk WellFormed world.store)
    (holds : R past world) (meets : Meets config admits world run)
    (permitted : ∀ before entry after, history config world run = before ++ entry :: after →
      allowed (past ++ before) entry) :
    StoreOk WellFormed (serveAll config world run).store ∧
    R (past ++ history config world run) (serveAll config world run) ∧
    ∀ before entry after, history config world run = before ++ entry :: after →
      At config I (past ++ before) entry := by
  induction run generalizing world past with
  | nil => exact ⟨ok, by simpa [history] using holds, by simp [history]⟩
  | cons step rest ih =>
    obtain ⟨request, oracle⟩ := step
    obtain ⟨admitted, later⟩ := meets
    obtain ⟨ok, ⟨last, ended, -, kept⟩, visited⟩ := carries.serve _ ok holds admitted
      fun before entry after split => permitted before entry (after ++ _) (by
        rw [history, split, List.append_assoc, List.cons_append])
    obtain ⟨ok, kept, visitedLater⟩ := ih ok (carries.leave (outcome_ends ended) kept) later
      fun before entry after split => by
      have allowed := permitted (_ ++ before) entry after (by rw [history, split, List.append_assoc])
      rwa [List.append_assoc]
    refine ⟨ok, ?_, fun before entry after split => ?_⟩
    · rw [List.append_assoc] at kept
      exact kept
    · rcases split_append split with ⟨tail, first⟩ | ⟨middle, rfl, second⟩
      · exact visited before entry tail first
      · rw [← List.append_assoc]
        exact visitedLater middle entry after second

theorem serveAll {run : Run} (carries : Carries config admits allowed I R) (ok : StoreOk WellFormed world.store)
    (start : R [] world) (meets : Meets config admits world run)
    (permitted : Throughout allowed (history config world run)) :
    StoreOk WellFormed (serveAll config world run).store ∧
    R (history config world run) (Lvp.serveAll config world run) ∧
    ∀ before entry after, history config world run = before ++ entry :: after → At config I before entry :=
  carries.run ok start meets permitted

/-- A run, and one more request. -/
theorem next {run : Run} {oracle : Oracle Call Fault} (carries : Carries config admits allowed I R)
    (ok : StoreOk WellFormed world.store) (start : R [] world) (meets : Meets config admits world run)
    (permitted : Throughout allowed (history config world run))
    (admitted : admits request (Lvp.serveAll config world run))
    (more : ∀ before entry after, (traced config request oracle (Lvp.serveAll config world run)).map (request, ·) =
      before ++ entry :: after → allowed (history config world run ++ before) entry) :
    let served := Lvp.serve config request oracle (Lvp.serveAll config world run)
    StoreOk WellFormed served.2.store ∧
    (∃ last, Outcome (fun _ => Returns config request) (fun _ last => last.idle) (served.1, last) ∧
      Holds request last served.2 ∧
      I request last (history config world run ++
        (traced config request oracle (Lvp.serveAll config world run)).map (request, ·)) served.2) ∧
    ∀ before entry after, (traced config request oracle (Lvp.serveAll config world run)).map (request, ·) =
      before ++ entry :: after → At config I (history config world run ++ before) entry := by
  obtain ⟨kept, rest, -⟩ := carries.serveAll ok start meets permitted
  exact carries.serve _ kept rest admitted more

end Carries

/-- The call with that number fails. -/
def failing (number : Nat) : Oracle Call Fault := fun n _ => if n = number then .fails else .none

def Sample.publishing (oracle : Oracle Call Fault) : Run :=
  [(create "a" "/pv2/" "ext4" 7, healthy), (publish "a" 7, healthy), (nodePublish "a" "/t" 7, oracle)]

end Lvp
