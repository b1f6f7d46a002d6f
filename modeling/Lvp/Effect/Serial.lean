import Lvp.Effect.Contract

/-!
Serializability. A request uses some places of the state: its calls read and change nothing else. When no two
requests with a place in common are in flight together, a pool is at every moment as if its requests had been
served one after another in the order they were taken, each as far as it has got.
-/

namespace Effect

variable {Req Op Fault World Place : Type} {Res : Op → Type} {Val : Place → Type} {ε α : Type}

/-- Issues one call for each of the faults, as long as there are calls to issue. -/
def Program.drive (exec : Fault → World → (op : Op) → Res op × World) :
    List (Op → Fault) → Program Op Res ε α → World → Program Op Res ε α × World
  | [], program, world => (program, world)
  | fault :: rest, .call op next, world =>
    let after := exec (fault op) world op
    drive exec rest (next after.1) after.2
  | _ :: _, program, world => (program, world)

/-- Requests served in turn, each with the fates of the calls it gets to make. -/
def inTurn (exec : Req → Fault → World → (op : Op) → Res op × World) (body : Req → Program Op Res ε α) :
    List (Req × List (Op → Fault)) → World → List (Thread Req Op Res ε α) × World
  | [], world => ([], world)
  | (request, faults) :: rest, world =>
    let first := (body request).drive (exec request) faults world
    let later := inTurn exec body rest first.2
    (⟨request, first.1⟩ :: later.1, later.2)

/-- No place in common. -/
def Apart (uses : Req → Place → Prop) (a b : Req) : Prop := ∀ place, uses a place → ¬uses b place

/-- What makes requests serializable that have no place in common. -/
structure Local (exec : Req → Fault → World → (op : Op) → Res op × World) (body : Req → Program Op Res ε α)
    (look : World → (place : Place) → Val place) (uses : Req → Place → Prop) (fits : Req → Op → Prop)
    (promise : Req → (op : Op) → Res op → Prop) (valid : World → Prop) : Prop where
  frame : ∀ {r op f w place}, fits r op → ¬uses r place → look (exec r f w op).2 place = look w place
  alike : ∀ {r op f w v}, fits r op → (∀ place, uses r place → look w place = look v place) →
    (exec r f w op).1 = (exec r f v op).1 ∧
      ∀ place, uses r place → look (exec r f w op).2 place = look (exec r f v op).2 place
  promised : ∀ {r op f w}, valid w → fits r op → promise r op (exec r f w op).1
  kept : ∀ {r op f w}, valid w → fits r op → valid (exec r f w op).2
  body : ∀ r, Safe (contract (fits r) (promise r)) (body r) (fun _ _ => True) (fun _ _ => True) ()

variable {exec : Req → Fault → World → (op : Op) → Res op × World} {body : Req → Program Op Res ε α}
  {look : World → (place : Place) → Val place} {uses : Req → Place → Prop} {fits : Req → Op → Prop}
  {promise : Req → (op : Op) → Res op → Prop} {valid : World → Prop} {request : Req} {world other : World}
  {program : Program Op Res ε α}

/-- A program that keeps to the calls of its request. -/
abbrev Within (fits : Req → Op → Prop) (promise : Req → (op : Op) → Res op → Prop) (request : Req)
    (program : Program Op Res ε α) : Prop :=
  Safe (contract (fits request) (promise request)) program (fun _ _ => True) (fun _ _ => True) ()

theorem Program.drive_append (exec : Fault → World → (op : Op) → Res op × World) (first second : List (Op → Fault))
    (program : Program Op Res ε α) (world : World) : program.drive exec (first ++ second) world =
      (program.drive exec first world).1.drive exec second (program.drive exec first world).2 := by
  induction first generalizing program world with
  | nil => rfl
  | cons fault rest ih =>
    cases program with
    | call op next => exact ih _ _
    | ret value =>
      cases second <;> rfl
    | raise error =>
      cases second <;> rfl

theorem inTurn_requests (plan : List (Req × List (Op → Fault))) (world : World) :
    (inTurn exec body plan world).1.map (·.request) = plan.map (·.1) := by
  induction plan generalizing world with
  | nil => rfl
  | cons served rest ih => exact congrArg (served.1 :: ·) (ih _)

namespace Local

theorem drive (local_ : Local exec body look uses fits promise valid) (faults : List (Op → Fault))
    (sound : valid world) (within : Within fits promise request program) :
    Within fits promise request (program.drive (exec request) faults world).1 ∧
      valid (program.drive (exec request) faults world).2 := by
  induction faults generalizing program world with
  | nil => exact ⟨within, sound⟩
  | cons fault rest ih =>
    cases program with
    | ret value => exact ⟨within, sound⟩
    | raise error => exact ⟨within, sound⟩
    | call op next =>
      obtain ⟨fit, resume⟩ := safe_contract_call.mp within
      exact ih (local_.kept sound fit) (resume _ (local_.promised sound fit))

/-- A program run in two states that agree on the places of its request; the rest of the second one stays as it is. -/
theorem drive_alike (local_ : Local exec body look uses fits promise valid) (faults : List (Op → Fault))
    (sound : valid world) (within : Within fits promise request program)
    (same : ∀ place, uses request place → look world place = look other place) :
    (program.drive (exec request) faults world).1 = (program.drive (exec request) faults other).1 ∧
      (∀ place, uses request place → look (program.drive (exec request) faults world).2 place =
        look (program.drive (exec request) faults other).2 place) ∧
      ∀ place, ¬uses request place → look (program.drive (exec request) faults other).2 place =
        look other place := by
  induction faults generalizing program world other with
  | nil => exact ⟨rfl, same, fun _ _ => rfl⟩
  | cons fault rest ih =>
    cases program with
    | ret value => exact ⟨rfl, same, fun _ _ => rfl⟩
    | raise error => exact ⟨rfl, same, fun _ _ => rfl⟩
    | call op next =>
      obtain ⟨fit, resume⟩ := safe_contract_call.mp within
      obtain ⟨answer, after⟩ : (exec request (fault op) world op).1 = (exec request (fault op) other op).1 ∧ _ :=
        local_.alike fit same
      obtain ⟨program, used, unused⟩ := ih (local_.kept sound fit) (resume _ (local_.promised sound fit)) after
      rw [Program.drive, Program.drive, ← answer]
      exact ⟨program, used, fun place away => (unused place away).trans (local_.frame fit away)⟩

theorem drive_frame (local_ : Local exec body look uses fits promise valid) (faults : List (Op → Fault))
    (sound : valid world) (within : Within fits promise request program) {place : Place}
    (away : ¬uses request place) :
    look (program.drive (exec request) faults world).2 place = look world place :=
  (local_.drive_alike faults sound within fun _ _ => rfl).2.2 place away

/-- Requests without a place of `request` do as much in a state that differs in its places, and leave those alone. -/
theorem inTurn_apart (local_ : Local exec body look uses fits promise valid) {plan : List (Req × List (Op → Fault))}
    (apart : ∀ served ∈ plan, Apart uses request served.1) (sound : valid world)
    (same : ∀ place, ¬uses request place → look world place = look other place) :
    (inTurn exec body plan world).1 = (inTurn exec body plan other).1 ∧
      (∀ place, ¬uses request place →
        look (inTurn exec body plan world).2 place = look (inTurn exec body plan other).2 place) ∧
      ∀ place, uses request place → look (inTurn exec body plan other).2 place = look other place := by
  induction plan generalizing world other with
  | nil => exact ⟨rfl, same, fun _ _ => rfl⟩
  | cons served rest ih =>
    obtain ⟨next, faults⟩ := served
    have away := apart _ List.mem_cons_self
    have within := local_.body next
    have shared : ∀ place, uses next place → look world place = look other place :=
      fun place used => same place fun own => away place own used
    obtain ⟨program, used, unused⟩ := local_.drive_alike faults sound within shared
    have later : ∀ place, ¬uses request place → look ((body next).drive (exec next) faults world).2 place =
        look ((body next).drive (exec next) faults other).2 place := by
      intro place free
      by_cases own : uses next place
      · exact used place own
      · rw [local_.drive_frame faults sound within own, unused place own]
        exact same place free
    obtain ⟨threads, others, kept⟩ := ih (fun served member => apart served (List.mem_cons_of_mem _ member))
      (local_.drive faults sound within).2 later
    refine ⟨?_, others, fun place own => (kept place own).trans (unused place (away place own))⟩
    rw [inTurn, inTurn, program, threads]

/-- A call may be made before requests without a place of its own, as well as after them. -/
theorem call_earlier (local_ : Local exec body look uses fits promise valid) {plan : List (Req × List (Op → Fault))}
    {op : Op} (fault : Fault) (sound : valid world) (fit : fits request op)
    (away : ∀ served ∈ plan, Apart uses request served.1)
    (same : ∀ place, look (inTurn exec body plan world).2 place = look other place) :
    let early := exec request fault world op
    early.1 = (exec request fault other op).1 ∧
      (inTurn exec body plan early.2).1 = (inTurn exec body plan world).1 ∧
      ∀ place, look (inTurn exec body plan early.2).2 place = look (exec request fault other op).2 place := by
  obtain ⟨-, -, still⟩ := local_.inTurn_apart away sound fun _ _ => rfl
  have seen : ∀ place, uses request place → look world place = look other place :=
    fun place own => (still place own).symm.trans (same place)
  obtain ⟨answer, used⟩ : (exec request fault world op).1 = (exec request fault other op).1 ∧ _ :=
    local_.alike fit seen
  have unseen : ∀ place, ¬uses request place → look world place = look (exec request fault world op).2 place :=
    fun place away => (local_.frame fit away).symm
  obtain ⟨threads, unused, kept⟩ := local_.inTurn_apart away sound unseen
  refine ⟨answer, threads.symm, fun place => ?_⟩
  by_cases own : uses request place
  · exact (kept place own).trans (used place own)
  · rw [← unused place own, same place, local_.frame fit own]

/-- The next call of a thread, made after the others have got as far as they have, counts as made in its turn. -/
theorem inTurn_step (local_ : Local exec body look uses fits promise valid) {plan : List (Req × List (Op → Fault))}
    {index : Nat} {op : Op} {next : Res op → Program Op Res ε α} (fault : Op → Fault) (sound : valid world)
    (found : (inTurn exec body plan world).1[index]? = some ⟨request, .call op next⟩)
    (apart : (inTurn exec body plan world).1.Pairwise fun a b => a.inFlight → Apart uses a.request b.request)
    (same : ∀ place, look (inTurn exec body plan world).2 place = look other place) :
    let after := exec request (fault op) other op
    ∃ longer, (inTurn exec body longer world).1 =
      (inTurn exec body plan world).1.set index ⟨request, next after.1⟩ ∧
      ∀ place, look (inTurn exec body longer world).2 place = look after.2 place := by
  induction plan generalizing world index with
  | nil => cases found
  | cons served rest ih =>
    obtain ⟨first, faults⟩ := served
    obtain ⟨within, kept⟩ := local_.drive faults sound (local_.body first)
    obtain ⟨head, tail⟩ := List.pairwise_cons.mp apart
    cases index with
    | succ index =>
      obtain ⟨longer, threads, looks⟩ := ih kept found tail same
      refine ⟨(first, faults) :: longer, ?_, looks⟩
      rw [inTurn, inTurn, List.set_cons_succ, threads]
    | zero =>
      obtain ⟨rfl, program⟩ := Thread.mk.inj (Option.some.inj found)
      rw [program] at within
      have away : ∀ served ∈ rest, Apart uses first served.1 := by
        intro served member
        have taken : served.1 ∈ (inTurn exec body rest ((body first).drive (exec first) faults world).2).1.map
            (·.request) := by
          rw [inTurn_requests]
          exact List.mem_map_of_mem member
        obtain ⟨thread, present, request⟩ := List.mem_map.mp taken
        rw [← request]
        exact head thread present (by rw [Thread.inFlight, program]; rfl)
      obtain ⟨answer, threads, looks⟩ :=
        local_.call_earlier (fault op) kept (safe_contract_call.mp within).1 away same
      have driven : (body first).drive (exec first) (faults ++ [fault]) world =
          (next (exec first (fault op) ((body first).drive (exec first) faults world).2 op).1,
            (exec first (fault op) ((body first).drive (exec first) faults world).2 op).2) := by
        rw [Program.drive_append, program]
        rfl
      refine ⟨(first, faults ++ [fault]) :: rest, ?_, ?_⟩
      · rw [inTurn, driven, inTurn, List.set_cons_zero]
        dsimp only
        rw [threads, answer]
      · rw [inTurn, driven]
        exact looks

end Local

/-! ### Pools -/

/-- At every moment: as if served in turn. -/
structure Serial (exec : Req → Fault → World → (op : Op) → Res op × World) (body : Req → Program Op Res ε α)
    (look : World → (place : Place) → Val place) (uses : Req → Place → Prop) (start : World)
    (pool : Pool Req Op Res ε α World) : Prop where
  apart : pool.threads.Pairwise fun a b => a.inFlight → Apart uses a.request b.request
  turns : ∃ plan, (inTurn exec body plan start).1 = pool.threads ∧
    ∀ place, look (inTurn exec body plan start).2 place = look pool.world place

theorem Apart.symm {a b : Req} (apart : Apart uses a b) : Apart uses b a :=
  fun place own other => apart place other own

/-- Requests with a place in common are not in flight together. -/
def Rules.byPlace (uses : Req → Place → Prop) : Rules Req Op Fault where
  admits _ := True
  apart := Apart uses
  allowed _ _ _ := True

theorem pairwise_set {ι : Type} {R : ι → ι → Prop} {entries : List ι} {index : Nat} {before after : ι}
    (found : entries[index]? = some before) (pairwise : entries.Pairwise R) (left : ∀ b, R before b → R after b)
    (right : ∀ a, R a before → R a after) : (entries.set index after).Pairwise R := by
  induction entries generalizing index with
  | nil => cases found
  | cons entry rest ih =>
    obtain ⟨head, tail⟩ := List.pairwise_cons.mp pairwise
    cases index with
    | zero =>
      obtain rfl := Option.some.inj found
      exact List.pairwise_cons.mpr ⟨fun b member => left b (head b member), tail⟩
    | succ index =>
      refine List.pairwise_cons.mpr ⟨fun b member => ?_, ih found tail⟩
      rcases List.mem_or_eq_of_mem_set member with old | rfl
      · exact head b old
      · exact right entry (head before (List.mem_of_getElem? found))

theorem inTurn_snoc (plan : List (Req × List (Op → Fault))) (request : Req) (world : World) :
    inTurn exec body (plan ++ [(request, [])]) world =
      ((inTurn exec body plan world).1 ++ [⟨request, body request⟩], (inTurn exec body plan world).2) := by
  induction plan generalizing world with
  | nil => rfl
  | cons served rest ih =>
    rw [List.cons_append, inTurn, ih]
    rfl

namespace Serial
variable {start : World} {pool : Pool Req Op Res ε α World}

theorem initial (start : World) : Serial exec body look uses start (⟨start, []⟩ : Pool Req Op Res ε α World) :=
  ⟨.nil, [], rfl, fun _ => rfl⟩

theorem move (local_ : Local exec body look uses fits promise valid) (sound : valid start)
    (serial : Serial exec body look uses start pool) {next : Move Req Op Fault}
    (permitted : Pool.Permits (.byPlace uses) pool next) :
    Serial exec body look uses start (pool.move exec body next) := by
  obtain ⟨plan, threads, looks⟩ := serial.turns
  cases next with
  | start request =>
    refine ⟨List.pairwise_append.mpr ⟨serial.apart, List.pairwise_singleton _ _, ?_⟩,
      plan ++ [(request, [])], ?_, ?_⟩
    · intro a member b fresh flying
      obtain rfl := List.mem_singleton.mp fresh
      exact (permitted.2 a member flying).symm
    · rw [inTurn_snoc, threads]
      rfl
    · rw [inTurn_snoc]
      exact looks
  | step index fault =>
    rw [Pool.move]
    split
    case h_2 => exact serial
    case h_1 request op next found =>
      rw [← threads] at found
      obtain ⟨longer, moved, after⟩ := local_.inTurn_step fault sound found (threads ▸ serial.apart) looks
      rw [threads] at found moved
      refine ⟨pairwise_set found serial.apart (fun b apart _ => apart rfl) (fun a apart => apart),
        longer, moved, after⟩

theorem play (local_ : Local exec body look uses fits promise valid) (sound : valid start)
    (serial : Serial exec body look uses start pool) {moves : List (Move Req Op Fault)}
    (schedule : Pool.Schedule exec body (.byPlace uses) pool moves) :
    Serial exec body look uses start (pool.play exec body moves) := by
  induction moves generalizing pool with
  | nil => exact serial
  | cons first rest ih => exact ih (serial.move local_ sound schedule.1) schedule.2

end Serial

/-! ### Whole runs -/

/-- These fates in order, and no fault after them. -/
def Oracle.following (idle : Fault) (faults : List (Op → Fault)) : Oracle Op Fault :=
  fun n op => match faults[n]? with
    | some fault => fault op
    | none => idle

theorem Program.result_of_pending (done : program.pending = none) : ∃ result, program.result? = some result := by
  cases program with
  | call op next => cases done
  | ret value => exact ⟨_, rfl⟩
  | raise error => exact ⟨_, rfl⟩

theorem Program.drive_run {exec : Fault → World → (op : Op) → Res op × World} (idle : Fault) {result : Except ε α}
    (faults : List (Op → Fault)) (ended : (program.drive exec faults world).1.result? = some result) :
    program.run exec (.following idle faults) world = (result, (program.drive exec faults world).2) := by
  induction faults generalizing program world with
  | nil =>
    cases program with
    | call op next => cases ended
    | ret value =>
      obtain rfl := Option.some.inj ended
      rfl
    | raise error =>
      obtain rfl := Option.some.inj ended
      rfl
  | cons fault rest ih =>
    cases program with
    | call op next => exact ih ended
    | ret value =>
      obtain rfl := Option.some.inj ended
      rfl
    | raise error =>
      obtain rfl := Option.some.inj ended
      rfl

end Effect
