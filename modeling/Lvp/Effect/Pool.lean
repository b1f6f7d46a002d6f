import Lvp.Effect.Logic

/-!
Interleaved execution. A pool holds one state and one program per request; a move starts a
request or lets one program issue its next call. `Compatible` collects what makes a rely/guarantee
argument sound under `Rules` about who may run when, and `Settled.play` carries it over every schedule.
-/

namespace Effect

structure Thread (Req Op : Type) (Res : Op → Type) (ε α : Type) where
  request : Req
  program : Program Op Res ε α

def Thread.inFlight {Req Op : Type} {Res : Op → Type} {ε α : Type} (thread : Thread Req Op Res ε α) :
    Bool := thread.program.pending.isSome

structure Pool (Req Op : Type) (Res : Op → Type) (ε α World : Type) where
  world : World
  threads : List (Thread Req Op Res ε α)

/-- `step index fault` lets the program at `index` issue its next call. -/
inductive Move (Req Op Fault : Type) where
  | start (request : Req)
  | step (index : Nat) (fault : Op → Fault)

/-- Which requests may start, which of them may be in flight together, and how their calls may fail. -/
structure Rules (Req Op Fault : Type) where
  admits : Req → Prop
  apart : Req → Req → Prop
  allowed : Req → Op → Fault → Prop

def Rules.free {Req Op Fault : Type} : Rules Req Op Fault where
  admits _ := True
  apart _ _ := True
  allowed _ _ _ := True

variable {Req Op Fault World : Type} {Res : Op → Type} {ε α : Type}

namespace Pool

def move (exec : Req → Fault → World → (op : Op) → Res op × World) (body : Req → Program Op Res ε α)
    (pool : Pool Req Op Res ε α World) : Move Req Op Fault → Pool Req Op Res ε α World
  | .start request => { pool with threads := pool.threads ++ [⟨request, body request⟩] }
  | .step index fault =>
    match pool.threads[index]? with
    | some ⟨request, .call op next⟩ =>
      let after := exec request (fault op) pool.world op
      ⟨after.2, pool.threads.set index ⟨request, next after.1⟩⟩
    | _ => pool

def play (exec : Req → Fault → World → (op : Op) → Res op × World) (body : Req → Program Op Res ε α)
    (pool : Pool Req Op Res ε α World) (moves : List (Move Req Op Fault)) :
    Pool Req Op Res ε α World := moves.foldl (move exec body) pool

/-- An admitted request starts when it is apart from everything in flight, and calls fail only as
the rules allow. -/
def Permits (rules : Rules Req Op Fault) (pool : Pool Req Op Res ε α World) : Move Req Op Fault → Prop
  | .start request => rules.admits request ∧
      ∀ thread ∈ pool.threads, thread.inFlight → rules.apart request thread.request
  | .step index fault => ∀ thread, pool.threads[index]? = some thread →
      ∀ op, rules.allowed thread.request op (fault op)

def Schedule (exec : Req → Fault → World → (op : Op) → Res op × World) (body : Req → Program Op Res ε α)
    (rules : Rules Req Op Fault) : Pool Req Op Res ε α World → List (Move Req Op Fault) → Prop
  | _, [] => True
  | pool, first :: rest => Permits rules pool first ∧
      Schedule exec body rules (move exec body pool first) rest

theorem schedule_append {exec : Req → Fault → World → (op : Op) → Res op × World}
    {body : Req → Program Op Res ε α} {rules : Rules Req Op Fault} {pool : Pool Req Op Res ε α World}
    {first second : List (Move Req Op Fault)} : Schedule exec body rules pool (first ++ second) ↔
      Schedule exec body rules pool first ∧ Schedule exec body rules (play exec body pool first) second := by
  induction first generalizing pool with
  | nil => simp [Schedule, play]
  | cons next rest ih =>
    rw [List.cons_append, Schedule, ih, Schedule, and_assoc]
    rfl

theorem schedule_free {exec : Req → Fault → World → (op : Op) → Res op × World}
    {body : Req → Program Op Res ε α} (pool : Pool Req Op Res ε α World)
    (moves : List (Move Req Op Fault)) : Schedule exec body .free pool moves := by
  induction moves generalizing pool with
  | nil => trivial
  | cons first rest ih =>
    refine ⟨?_, ih _⟩
    cases first with
    | start request => exact ⟨trivial, fun _ _ _ => trivial⟩
    | step index fault => exact fun _ _ _ => trivial

end Pool

/-- What holds at the start and not at the end is broken by one of the moves. -/
theorem Pool.play_breaks {exec : Req → Fault → World → (op : Op) → Res op × World}
    {body : Req → Program Op Res ε α} (holds : Pool Req Op Res ε α World → Prop)
    {pool : Pool Req Op Res ε α World} {moves : List (Move Req Op Fault)} (start : holds pool)
    (broken : ¬holds (pool.play exec body moves)) : ∃ before next after, moves = before ++ next :: after ∧
      holds (pool.play exec body before) ∧ ¬holds (pool.play exec body (before ++ [next])) := by
  induction moves generalizing pool with
  | nil => exact absurd start broken
  | cons first rest ih =>
    by_cases kept : holds (pool.move exec body first)
    · obtain ⟨before, next, after, rfl, still, breaks⟩ := ih kept broken
      exact ⟨first :: before, next, after, rfl, still, breaks⟩
    · exact ⟨[], first, rest, rfl, start, kept⟩

theorem getElem?_append_cases {threads : List (Thread Req Op Res ε α)} {i : Nat}
    {fresh thread : Thread Req Op Res ε α} (found : (threads ++ [fresh])[i]? = some thread) :
    threads[i]? = some thread ∨ (i = threads.length ∧ thread = fresh) := by
  rcases Nat.lt_trichotomy i threads.length with below | same | above
  · rw [List.getElem?_append_left below] at found
    exact Or.inl found
  · subst same
    simp at found
    exact Or.inr ⟨rfl, found.symm⟩
  · have bound := (List.getElem?_eq_some_iff.mp found).1
    simp at bound
    omega

theorem getElem?_set_cases {threads : List (Thread Req Op Res ε α)} {index i : Nat}
    {moved thread : Thread Req Op Res ε α} (found : (threads.set index moved)[i]? = some thread) :
    (i ≠ index ∧ threads[i]? = some thread) ∨ (i = index ∧ thread = moved) := by
  rw [List.getElem?_set] at found
  by_cases same : index = i
  · rw [if_pos same] at found
    split at found
    · exact Or.inr ⟨same.symm, (Option.some.inj found).symm⟩
    · cases found
  · rw [if_neg same] at found
    exact Or.inl ⟨Ne.symm same, found⟩

/-- What makes per-request reasoning sound in a pool. `ready` is what a request finds when it may
start, `done` what it leaves when it returns. -/
structure Compatible (exec : Req → Fault → World → (op : Op) → Res op × World)
    (body : Req → Program Op Res ε α) (rules : Rules Req Op Fault) (logic : Req → Logic Op Res World)
    (valid : World → Prop) (ready done : Req → World → Prop) : Prop where
  symm : ∀ {a b}, rules.apart a b → rules.apart b a
  refl : ∀ {r w}, valid w → (logic r).rely w w
  trans : ∀ {r a b c}, (logic r).rely a b → (logic r).rely b c → (logic r).rely a c
  step : ∀ {r w op f}, valid w → (logic r).guard w op → rules.allowed r op f →
    (logic r).step w op (exec r f w op).1 (exec r f w op).2 ∧ valid (exec r f w op).2 ∧
      ∀ other, rules.apart other r → (logic other).rely w (exec r f w op).2
  stable : ∀ {r a b}, (logic r).rely a b → ready r a → ready r b
  stableDone : ∀ {r a b}, (logic r).rely a b → done r a → done r b
  handover : ∀ {r other w}, ¬rules.apart other r → done r w → ready other w
  body : ∀ {r w}, valid w → rules.admits r → ready r w →
    Safe (logic r) (body r) (fun _ => done r) (fun _ => done r) w

variable {exec : Req → Fault → World → (op : Op) → Res op × World} {body : Req → Program Op Res ε α}
  {rules : Rules Req Op Fault} {logic : Req → Logic Op Res World} {valid : World → Prop}
  {ready done : Req → World → Prop}

/-- The invariant of a pool: its requests in flight are pairwise apart and safe from here on, and
whatever may start now finds its precondition. -/
structure Settled (rules : Rules Req Op Fault) (logic : Req → Logic Op Res World)
    (valid : World → Prop) (ready done : Req → World → Prop)
    (pool : Pool Req Op Res ε α World) : Prop where
  sound : valid pool.world
  safe : ∀ (i : Nat) thread, pool.threads[i]? = some thread → thread.inFlight →
    Safe (logic thread.request) thread.program (fun _ => done thread.request)
      (fun _ => done thread.request) pool.world
  pairwise : ∀ (i j : Nat) a b, i ≠ j → pool.threads[i]? = some a → pool.threads[j]? = some b →
    a.inFlight → b.inFlight → rules.apart a.request b.request
  idle : ∀ request, (∀ thread ∈ pool.threads, thread.inFlight → rules.apart request thread.request) →
    ready request pool.world

namespace Settled

theorem initial {world : World} (start : valid world) (idle : ∀ request, ready request world) :
    Settled rules logic valid ready done (⟨world, []⟩ : Pool Req Op Res ε α World) :=
  ⟨start, by simp, by simp, fun request _ => idle request⟩

variable {pool : Pool Req Op Res ε α World}

theorem start (compatible : Compatible exec body rules logic valid ready done)
    (settled : Settled rules logic valid ready done pool) {request : Req}
    (admitted : rules.admits request)
    (alone : ∀ thread ∈ pool.threads, thread.inFlight → rules.apart request thread.request) :
    Settled rules logic valid ready done (pool.move exec body (.start request : Move Req Op Fault)) := by
  have fresh := compatible.body settled.sound admitted (settled.idle request alone)
  refine ⟨settled.sound, ?_, ?_, ?_⟩
  · intro i thread found flying
    rcases getElem?_append_cases found with old | ⟨_, rfl⟩
    · exact settled.safe i thread old flying
    · exact fresh
  · intro i j a b different foundA foundB flyingA flyingB
    rcases getElem?_append_cases foundA with oldA | ⟨atA, rfl⟩ <;>
      rcases getElem?_append_cases foundB with oldB | ⟨atB, rfl⟩
    · exact settled.pairwise i j a b different oldA oldB flyingA flyingB
    · exact compatible.symm (alone a (List.mem_of_getElem? oldA) flyingA)
    · exact alone b (List.mem_of_getElem? oldB) flyingB
    · omega
  · intro other far
    exact settled.idle other fun thread member => far thread (List.mem_append_left _ member)

/-- Who may start after a call could start before it, unless the call was the last of its request. -/
theorem idle_step (compatible : Compatible exec body rules logic valid ready done)
    (settled : Settled rules logic valid ready done pool) {index : Nat} {request other : Req}
    {before after : Program Op Res ε α} {world : World}
    (found : pool.threads[index]? = some ⟨request, before⟩)
    (seen : ∀ other, rules.apart other request → (logic other).rely pool.world world)
    (continued : Safe (logic request) after (fun _ => done request) (fun _ => done request) world)
    (far : ∀ thread ∈ pool.threads.set index ⟨request, after⟩,
      thread.inFlight → rules.apart other thread.request) : ready other world := by
  by_cases near : rules.apart other request
  · refine compatible.stable (seen other near) (settled.idle other fun thread member flying => ?_)
    obtain ⟨i, here⟩ := List.mem_iff_getElem?.mp member
    by_cases same : i = index
    · subst same
      rw [found] at here
      cases here
      exact near
    · refine far thread (List.mem_iff_getElem?.mpr ⟨i, ?_⟩) flying
      rw [List.getElem?_set, if_neg (Ne.symm same)]
      exact here
  · have inRange := (List.getElem?_eq_some_iff.mp found).1
    have placed : ⟨request, after⟩ ∈ pool.threads.set index ⟨request, after⟩ := List.mem_set inRange _
    cases after with
    | call op next => exact absurd (far _ placed rfl) near
    | ret value => exact compatible.handover near continued
    | raise error => exact compatible.handover near continued

/-- One call of one request: the others only see interference they rely on. -/
theorem step (compatible : Compatible exec body rules logic valid ready done)
    (settled : Settled rules logic valid ready done pool) {index : Nat} {fault : Op → Fault}
    (tame : ∀ thread, pool.threads[index]? = some thread → ∀ op, rules.allowed thread.request op (fault op)) :
    Settled rules logic valid ready done (pool.move exec body (.step index fault)) := by
  simp only [Pool.move]
  split
  case h_2 => exact settled
  case h_1 request op next found =>
    obtain ⟨guarded, resume⟩ := settled.safe index _ found rfl pool.world (compatible.refl settled.sound)
    obtain ⟨stepped, kept, seen⟩ := compatible.step settled.sound guarded (tame _ found op)
    have continued := resume _ _ stepped
    have others : ∀ (i : Nat) thread, i ≠ index → pool.threads[i]? = some thread → thread.inFlight →
        rules.apart thread.request request := by
      intro i thread different here flying
      exact settled.pairwise i index thread _ different here found flying rfl
    refine ⟨kept, ?_, ?_, fun other far => idle_step compatible settled found seen continued far⟩
    · intro i thread placed flying
      rcases getElem?_set_cases placed with ⟨different, here⟩ | ⟨_, rfl⟩
      · exact (settled.safe i thread here flying).interfere (fun _ _ _ => compatible.trans)
          (fun _ _ _ => compatible.stableDone) (fun _ _ _ => compatible.stableDone)
          (seen _ (others i thread different here flying))
      · exact continued
    · intro i j a b different placedA placedB flyingA flyingB
      rcases getElem?_set_cases placedA with ⟨_, hereA⟩ | ⟨same, rfl⟩ <;>
        rcases getElem?_set_cases placedB with ⟨_, hereB⟩ | ⟨same', rfl⟩
      · exact settled.pairwise i j a b different hereA hereB flyingA flyingB
      · exact others i a (by omega) hereA flyingA
      · exact compatible.symm (others j b (by omega) hereB flyingB)
      · omega

theorem move (compatible : Compatible exec body rules logic valid ready done)
    (settled : Settled rules logic valid ready done pool) {next : Move Req Op Fault}
    (permitted : Pool.Permits rules pool next) :
    Settled rules logic valid ready done (pool.move exec body next) := by
  cases next with
  | start request => exact settled.start compatible permitted.1 permitted.2
  | step index fault => exact settled.step compatible permitted

theorem play (compatible : Compatible exec body rules logic valid ready done)
    {moves : List (Move Req Op Fault)} (settled : Settled rules logic valid ready done pool)
    (schedule : Pool.Schedule exec body rules pool moves) :
    Settled rules logic valid ready done (pool.play exec body moves) := by
  induction moves generalizing pool with
  | nil => exact settled
  | cons first rest ih => exact ih (settled.move compatible schedule.1) schedule.2

theorem guarded (compatible : Compatible exec body rules logic valid ready done)
    (settled : Settled rules logic valid ready done pool) {thread : Thread Req Op Res ε α} {op : Op}
    (member : thread ∈ pool.threads) (next : thread.program.pending = some op) :
    (logic thread.request).guard pool.world op := by
  obtain ⟨i, here⟩ := List.mem_iff_getElem?.mp member
  have safe := settled.safe i thread here (by simp [Thread.inFlight, next])
  cases shape : thread.program with
  | call op' rest =>
    rw [shape] at safe next
    cases next
    exact (safe _ (compatible.refl settled.sound)).1
  | ret value => rw [shape] at next; cases next
  | raise error => rw [shape] at next; cases next

end Settled

/-! ### One thread -/

namespace Pool

/-- During the moves the program at `index` issued `op` and got `answer`. -/
def Answered (exec : Req → Fault → World → (op : Op) → Res op × World) (body : Req → Program Op Res ε α)
    (pool : Pool Req Op Res ε α World) (moves : List (Move Req Op Fault)) (index : Nat) (op : Op)
    (answer : Res op) : Prop :=
  ∃ before fault after request next, moves = before ++ .step index fault :: after ∧
    (play exec body pool before).threads[index]? = some ⟨request, .call op next⟩ ∧
    answer = (exec request (fault op) (play exec body pool before).world op).1

theorem Answered.cons {pool : Pool Req Op Res ε α World} {first : Move Req Op Fault}
    {rest : List (Move Req Op Fault)} {index : Nat} {op : Op} {answer : Res op}
    (answered : Answered exec body (pool.move exec body first) rest index op answer) :
    Answered exec body pool (first :: rest) index op answer := by
  obtain ⟨before, fault, after, request, next, rfl, found, same⟩ := answered
  exact ⟨first :: before, fault, after, request, next, rfl, found, same⟩

variable (exec body) in
theorem step_world {pool : Pool Req Op Res ε α World} {index : Nat} {fault : Op → Fault}
    {thread : Thread Req Op Res ε α} {op : Op} (found : pool.threads[index]? = some thread)
    (pending : thread.program.pending = some op) :
    (pool.move exec body (.step index fault)).world = (exec thread.request (fault op) pool.world op).2 := by
  obtain ⟨request, program⟩ := thread
  cases program with
  | ret value => cases pending
  | raise error => cases pending
  | call other next =>
    obtain rfl := Option.some.inj pending
    simp only [Pool.move, found]

variable (exec body) in
/-- A move that changes the state makes the call of one thread. -/
theorem move_world (pool : Pool Req Op Res ε α World) (next : Move Req Op Fault) :
    (pool.move exec body next).world = pool.world ∨ ∃ index fault thread op, next = .step index fault ∧
      pool.threads[index]? = some thread ∧ thread.program.pending = some op ∧
      (pool.move exec body next).world = (exec thread.request (fault op) pool.world op).2 := by
  cases next with
  | start request => exact Or.inl rfl
  | step index fault =>
    cases found : pool.threads[index]? with
    | none => exact Or.inl (by simp only [Pool.move, found])
    | some thread =>
      cases pending : thread.program.pending with
      | none =>
        obtain ⟨request, program⟩ := thread
        apply Or.inl
        cases program with
        | call op rest => cases pending
        | ret value => simp only [Pool.move, found]
        | raise error => simp only [Pool.move, found]
      | some op => exact Or.inr ⟨index, fault, thread, op, rfl, found, pending, step_world _ _ found pending⟩

/-- A thread stays in its place and keeps its request. -/
theorem move_request {pool : Pool Req Op Res ε α World} {index : Nat} {thread : Thread Req Op Res ε α}
    (found : pool.threads[index]? = some thread) (next : Move Req Op Fault) :
    ∃ program, (pool.move exec body next).threads[index]? = some ⟨thread.request, program⟩ := by
  have inRange := (List.getElem?_eq_some_iff.mp found).1
  cases next with
  | start request =>
    refine ⟨thread.program, ?_⟩
    show (pool.threads ++ _)[index]? = _
    rw [List.getElem?_append_left inRange]
    exact found
  | step moving fault =>
    simp only [Pool.move]
    split
    case h_2 => exact ⟨thread.program, found⟩
    case h_1 request op next here =>
      by_cases own : moving = index
      · subst own
        obtain rfl := Option.some.inj (found.symm.trans here)
        exact ⟨_, List.getElem?_set_self inRange⟩
      · refine ⟨thread.program, ?_⟩
        rw [List.getElem?_set_ne own]
        exact found

theorem play_request {pool : Pool Req Op Res ε α World} {index : Nat} {thread : Thread Req Op Res ε α}
    (found : pool.threads[index]? = some thread) (moves : List (Move Req Op Fault)) :
    ∃ program, (pool.play exec body moves).threads[index]? = some ⟨thread.request, program⟩ := by
  induction moves generalizing pool thread with
  | nil => exact ⟨thread.program, found⟩
  | cons first rest ih =>
    obtain ⟨program, moved⟩ : ∃ program, (pool.move exec body first).threads[index]? =
        some ⟨thread.request, program⟩ := move_request found first
    obtain ⟨later, kept⟩ := ih moved
    exact ⟨later, kept⟩

variable {fits : Op → Prop} {promise : (op : Op) → Res op → Prop} {post : α → Unit → Prop}
  {fail : ε → Unit → Prop}

/-- A thread whose program meets a contract, when the answers it got keep the promise. -/
def Meets (body : Req → Program Op Res ε α) (fits : Op → Prop) (promise : (op : Op) → Res op → Prop)
    (post : α → Unit → Prop) (fail : ε → Unit → Prop) (thread : Thread Req Op Res ε α) : Prop :=
  Safe (contract fits promise) (body thread.request) post fail () →
    Safe (contract fits promise) thread.program post fail ()

theorem move_meets {pool : Pool Req Op Res ε α World} {next : Move Req Op Fault} {index : Nat}
    (answered : ∀ fault request op rest, next = .step index fault →
      pool.threads[index]? = some ⟨request, .call op rest⟩ → promise op (exec request (fault op) pool.world op).1)
    (meets : ∀ thread, pool.threads[index]? = some thread → Meets body fits promise post fail thread)
    {thread : Thread Req Op Res ε α} (found : (pool.move exec body next).threads[index]? = some thread) :
    Meets body fits promise post fail thread := by
  cases next with
  | start request =>
    rcases getElem?_append_cases found with old | ⟨-, rfl⟩
    · exact meets thread old
    · exact id
  | step moving fault =>
    simp only [Pool.move] at found
    split at found
    case h_2 => exact meets thread found
    case h_1 request op next here =>
      rcases getElem?_set_cases found with ⟨-, old⟩ | ⟨rfl, rfl⟩
      · exact meets thread old
      · intro safe
        exact (safe_contract_call.mp (meets _ here safe)).2 _ (answered fault request op next rfl here)

theorem play_meets {pool : Pool Req Op Res ε α World} {moves : List (Move Req Op Fault)} {index : Nat}
    (answered : ∀ op answer, Answered exec body pool moves index op answer → promise op answer)
    (meets : ∀ thread, pool.threads[index]? = some thread → Meets body fits promise post fail thread)
    {thread : Thread Req Op Res ε α} (found : (play exec body pool moves).threads[index]? = some thread) :
    Meets body fits promise post fail thread := by
  induction moves generalizing pool with
  | nil => exact meets thread found
  | cons first rest ih =>
    refine ih (fun op answer later => answered op answer later.cons) (fun thread here => ?_) found
    refine move_meets (fun fault request op next same calling => answered op _ ?_) meets here
    exact ⟨[], fault, rest, request, next, congrArg (· :: rest) same, calling, rfl⟩

end Pool

end Effect
