import Mathlib.Data.List.Forall2
import Lvp.Effect.Contract

/-!
One level of calls on top of another. `implement` answers each call of a program by a program of lower
calls; `Lowers` says that two programs go through paired calls in step, and `Mirrors.play` that a pool of
lower programs then does what the pool above it can do.
-/

namespace Effect

variable {Op Op' : Type} {Res : Op → Type} {Res' : Op' → Type} {ε ε' α β : Type}

namespace Program

def implement (body : (op : Op) → Program Op' Res' ε (Res op)) : Program Op Res ε α → Program Op' Res' ε α
  | .ret value => .ret value
  | .raise error => .raise error
  | .call op next => body op >>= fun answer => (next answer).implement body

/-- A program whose attempt makes no call, with every error replaced. -/
theorem mapErr_of_attempt {ε'' : Type} {program : Program Op Res ε' α} {told : ε' → ε''} {answer : Except ε'' α}
    (same : ((program.mapErr told).attempt : Program Op Res ε (Except ε'' α)) = .ret answer) (error : ε) :
    program.mapErr (fun _ => error) = .ofExcept (answer.mapError fun _ => error) := by
  cases program with
  | ret value =>
    obtain rfl := Program.ret.inj same
    rfl
  | raise failed =>
    obtain rfl := Program.ret.inj same
    rfl
  | call op next => cases same

end Program

/-! ### Contracts -/

/-- What a program keeps to, its implementation keeps to when each call's program does. -/
theorem Safe.implement {fits : Op → Prop} {promise : (op : Op) → Res op → Prop} {fits' : Op' → Prop}
    {promise' : (op : Op') → Res' op → Prop} {body : (op : Op) → Program Op' Res' ε (Res op)}
    {program : Program Op Res ε α} {post : α → Unit → Prop} {fail : ε → Unit → Prop}
    (safe : Safe (contract fits promise) program post fail ())
    (lower : ∀ op, fits op → Safe (contract fits' promise') (body op) (fun answer _ => promise op answer) fail ()) :
    Safe (contract fits' promise') (program.implement body) post fail () := by
  induction program with
  | ret value => exact safe
  | raise error => exact safe
  | call op next ih =>
    obtain ⟨own, resume⟩ := safe_contract_call.mp safe
    refine (lower op own).bind fun answer _ promised => ?_
    exact ih answer (resume answer promised)

/-! ### Programs in step -/

inductive Lowers (pairs : Op' → Op → Prop) (agree : (op' : Op') → (op : Op) → Res' op' → Res op → Prop) :
    Program Op' Res' ε α → Program Op Res ε α → Prop where
  | ret (value : α) : Lowers pairs agree (.ret value) (.ret value)
  | raise (error : ε) : Lowers pairs agree (.raise error) (.raise error)
  | call {op' op next' next} (paired : pairs op' op)
      (continued : ∀ answer' answer, agree op' op answer' answer →
        Lowers pairs agree (next' answer') (next answer)) :
      Lowers pairs agree (.call op' next') (.call op next)

variable {pairs : Op' → Op → Prop} {agree : (op' : Op') → (op : Op) → Res' op' → Res op → Prop}

namespace Lowers

theorem bind {program' : Program Op' Res' ε α} {program : Program Op Res ε α} {next' : α → Program Op' Res' ε β}
    {next : α → Program Op Res ε β} (first : Lowers pairs agree program' program)
    (rest : ∀ value, Lowers pairs agree (next' value) (next value)) :
    Lowers pairs agree (program' >>= next') (program >>= next) := by
  induction first with
  | ret value => exact rest value
  | raise error => exact .raise error
  | call paired _ ih => exact .call paired ih

theorem mapErr {program' : Program Op' Res' ε α} {program : Program Op Res ε α}
    (lowers : Lowers pairs agree program' program)
    (f : ε → ε') : Lowers pairs agree (program'.mapErr f) (program.mapErr f) := by
  induction lowers with
  | ret value => exact .ret value
  | raise error => exact .raise (f error)
  | call paired _ ih => exact .call paired ih

theorem ofExcept (result : Except ε α) : Lowers pairs agree (.ofExcept result) (.ofExcept result) := by
  cases result with
  | ok value => exact .ret value
  | error error => exact .raise error

theorem ofOption (error : ε) (result : Option α) :
    Lowers pairs agree (.ofOption error result) (.ofOption error result) := by
  cases result with
  | some value => exact .ret value
  | none => exact .raise error

theorem reject (condition : Prop) [Decidable condition] (error : ε) :
    Lowers pairs agree (.reject condition error) (.reject condition error) := by
  unfold Program.reject
  split
  · exact .raise error
  · exact .ret ()

theorem implement {fits : Op → Prop} {body : (op : Op) → Program Op' Res' ε (Res op)} {program : Program Op Res ε α}
    {post : α → Unit → Prop} {fail : ε → Unit → Prop} {u : Unit}
    (safe : Safe (contract fits fun _ _ => True) program post fail u)
    (each : ∀ op, fits op → Lowers pairs agree (body op) (.call op .ret)) :
    Lowers pairs agree (program.implement body) program := by
  induction program generalizing u with
  | ret value => exact .ret value
  | raise error => exact .raise error
  | call op next ih =>
    obtain ⟨own, resume⟩ := safe_contract_call.mp safe
    exact (each op own).bind fun answer => ih answer (resume answer trivial)

theorem result {program' : Program Op' Res' ε α} {program : Program Op Res ε α}
    (lowers : Lowers pairs agree program' program) : program'.result? = program.result? := by
  cases lowers <;> rfl

end Lowers

/-! ### Pools in step -/

theorem forall₂_set {ι κ : Type} {R : ι → κ → Prop} {as : List ι} {bs : List κ} {a : ι} {b : κ}
    (all : List.Forall₂ R as bs) (related : R a b) (index : Nat) :
    List.Forall₂ R (as.set index a) (bs.set index b) := by
  induction all generalizing index with
  | nil => exact .nil
  | cons first rest ih =>
    cases index with
    | zero => exact .cons related rest
    | succ index => exact .cons first (ih index)

theorem forall₂_getElem? {ι κ : Type} {R : ι → κ → Prop} {as : List ι} {bs : List κ} {a : ι} {index : Nat}
    (all : List.Forall₂ R as bs) (found : as[index]? = some a) : ∃ b, bs[index]? = some b ∧ R a b := by
  induction all generalizing index with
  | nil => cases found
  | cons first rest ih =>
    cases index with
    | zero =>
      obtain rfl := Option.some.inj found
      exact ⟨_, rfl, first⟩
    | succ index => exact ih found

variable {Req World World' Fault : Type} {exec' : Req → Fault → World' → (op : Op') → Res' op × World'}
  {body' : Req → Program Op' Res' ε α} {exec : Req → Fault → World → (op : Op) → Res op × World}
  {body : Req → Program Op Res ε α} {view : World' → World} {valid : World' → Prop}

/-- Handlers in step, and paired calls that agree in every state that is `valid`. -/
structure Simulates (exec' : Req → Fault → World' → (op : Op') → Res' op × World')
    (body' : Req → Program Op' Res' ε α) (exec : Req → Fault → World → (op : Op) → Res op × World)
    (body : Req → Program Op Res ε α) (view : World' → World)
    (valid : World' → Prop) (pairs : Op' → Op → Prop)
    (agree : (op' : Op') → (op : Op) → Res' op' → Res op → Prop) : Prop where
  bodies : ∀ request, Lowers pairs agree (body' request) (body request)
  step : ∀ {request fault world op' op}, valid world → pairs op' op →
    agree op' op (exec' request fault world op').1 (exec request fault (view world) op).1 ∧
      view (exec' request fault world op').2 = (exec request fault (view world) op).2 ∧
      valid (exec' request fault world op').2

/-- Threads of the two levels that serve the same request, in step. -/
def InStep (pairs : Op' → Op → Prop) (agree : (op' : Op') → (op : Op) → Res' op' → Res op → Prop)
    (thread' : Thread Req Op' Res' ε α) (thread : Thread Req Op Res ε α) : Prop :=
  thread'.request = thread.request ∧ Lowers pairs agree thread'.program thread.program

structure Mirrors (view : World' → World) (valid : World' → Prop) (pairs : Op' → Op → Prop)
    (agree : (op' : Op') → (op : Op) → Res' op' → Res op → Prop) (pool' : Pool Req Op' Res' ε α World')
    (pool : Pool Req Op Res ε α World) : Prop where
  valid : valid pool'.world
  world : view pool'.world = pool.world
  threads : List.Forall₂ (InStep pairs agree) pool'.threads pool.threads

namespace Mirrors

variable {pool' : Pool Req Op' Res' ε α World'} {pool : Pool Req Op Res ε α World}

theorem move (simulates : Simulates exec' body' exec body view valid pairs agree)
    (mirrors : Mirrors view valid pairs agree pool' pool) (next : Move Req Op' Fault) :
    ∃ above : List (Move Req Op Fault),
      Mirrors view valid pairs agree (pool'.move exec' body' next) (pool.play exec body above) := by
  obtain ⟨sound, world, threads⟩ := mirrors
  cases next with
  | start request =>
    refine ⟨[.start request], sound, world, List.rel_append threads ?_⟩
    exact .cons ⟨rfl, simulates.bodies request⟩ .nil
  | step index fault =>
    simp only [Pool.move]
    split
    case h_2 => exact ⟨[], sound, world, threads⟩
    case h_1 request op' next' found =>
      obtain ⟨⟨other, program⟩, here, same, lowers⟩ := forall₂_getElem? threads found
      obtain rfl : request = other := same
      cases lowers with
      | @call _ op _ next paired continued =>
        obtain ⟨agreed, viewed, kept⟩ := @simulates.step request (fault op') pool'.world op' op sound paired
        refine ⟨[.step index fun _ => fault op'], ?_⟩
        simp only [Pool.play, List.foldl_cons, List.foldl_nil, Pool.move, here, ← world]
        exact ⟨kept, viewed, forall₂_set threads ⟨rfl, continued _ _ agreed⟩ index⟩

/-- What the pool below does, the pool above can do. -/
theorem play (simulates : Simulates exec' body' exec body view valid pairs agree)
    (mirrors : Mirrors view valid pairs agree pool' pool) (schedule : List (Move Req Op' Fault)) :
    ∃ above : List (Move Req Op Fault),
      Mirrors view valid pairs agree (pool'.play exec' body' schedule) (pool.play exec body above) := by
  induction schedule generalizing pool' pool with
  | nil => exact ⟨[], mirrors⟩
  | cons first rest ih =>
    obtain ⟨moved, here⟩ := mirrors.move simulates first
    obtain ⟨above, there⟩ := ih here
    have joined : pool.play exec body (moved ++ above) = (pool.play exec body moved).play exec body above :=
      List.foldl_append
    refine ⟨moved ++ above, ?_⟩
    rw [joined]
    exact there

/-- The requests of both pools have got the same results. -/
theorem results (mirrors : Mirrors view valid pairs agree pool' pool) :
    pool'.threads.map (fun thread => (thread.request, thread.program.result?)) =
      pool.threads.map fun thread => (thread.request, thread.program.result?) := by
  have threads := mirrors.threads
  generalize pool'.threads = below at threads ⊢
  generalize pool.threads = above at threads ⊢
  induction threads with
  | nil => rfl
  | cons first rest ih =>
    simp only [List.map_cons, ih]
    rw [first.1, first.2.result]

end Mirrors

end Effect
