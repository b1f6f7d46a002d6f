import Lvp.Effect.Pool

/-!
Contracts over pools. When every program keeps to a contract, and every call the contracts allow keeps the
promises and an invariant of the state, then they hold under every schedule.
-/

namespace Effect

variable {Op : Type} {Res : Op → Type} {ε α World : Type}

/-- How a program ended, if it has. -/
def Program.result? : Program Op Res ε α → Option (Except ε α)
  | .ret value => some (.ok value)
  | .raise error => some (.error error)
  | .call _ _ => none

theorem Safe.replied {L : Logic Op Res World} {program : Program Op Res ε α} {post : α → World → Prop}
    {fail : ε → World → Prop} {world : World} {value : α} (safe : Safe L program post fail world)
    (ended : program.result? = some (.ok value)) : post value world := by
  cases program with
  | ret result =>
    obtain rfl := Except.ok.inj (Option.some.inj ended)
    exact safe
  | raise error => cases ended
  | call op next => cases ended

theorem Safe.relax {fits fits' : Op → Prop} {promise promise' : (op : Op) → Res op → Prop}
    {program : Program Op Res ε α} {post : α → Unit → Prop} {fail : ε → Unit → Prop} {u : Unit}
    (safe : Safe (contract fits promise) program post fail u) (fit : ∀ op, fits op → fits' op)
    (kept : ∀ op answer, fits op → promise' op answer → promise op answer) :
    Safe (contract fits' promise') program post fail u := by
  induction program generalizing u with
  | ret value => exact safe
  | raise error => exact safe
  | call op next ih =>
    obtain ⟨own, resume⟩ := safe_contract_call.mp safe
    exact safe_contract_call.mpr ⟨fit op own, fun answer promised =>
      ih answer (resume answer (kept op answer own promised))⟩

variable {Req Fault : Type} {exec : Req → Fault → World → (op : Op) → Res op × World}
  {body : Req → Program Op Res ε α}

/-- What each request may call, what the answers promise and how it may end, with an invariant of the state. -/
structure Terms (Req Op : Type) (Res : Op → Type) (ε α World : Type) where
  fits : Req → Op → Prop
  promise : Req → (op : Op) → Res op → Prop
  post : Req → α → Prop
  fail : Req → ε → Prop
  valid : World → Prop

/-- A program on the terms of its request. -/
def Terms.Keeps (terms : Terms Req Op Res ε α World) (request : Req) (program : Program Op Res ε α) : Prop :=
  Safe (contract (terms.fits request) (terms.promise request)) program (fun value _ => terms.post request value)
    (fun error _ => terms.fail request error) ()

structure Terms.Sound (terms : Terms Req Op Res ε α World) (admits : Req → Prop)
    (exec : Req → Fault → World → (op : Op) → Res op × World) (body : Req → Program Op Res ε α) : Prop where
  bodies : ∀ {request}, admits request → terms.Keeps request (body request)
  step : ∀ {request fault world op}, admits request → terms.valid world → terms.fits request op →
    terms.promise request op (exec request fault world op).1 ∧ terms.valid (exec request fault world op).2

/-- The invariant, and every request of the pool still on its terms. -/
structure Upheld (terms : Terms Req Op Res ε α World) (admits : Req → Prop)
    (pool : Pool Req Op Res ε α World) : Prop where
  valid : terms.valid pool.world
  threads : ∀ thread ∈ pool.threads, admits thread.request ∧ terms.Keeps thread.request thread.program

namespace Upheld

variable {terms : Terms Req Op Res ε α World} {admits : Req → Prop} {pool : Pool Req Op Res ε α World}

theorem move (sound : terms.Sound admits exec body) (upheld : Upheld terms admits pool) {next : Move Req Op Fault}
    (admitted : ∀ request, next = .start request → admits request) :
    Upheld terms admits (pool.move exec body next) := by
  obtain ⟨valid, threads⟩ := upheld
  cases next with
  | start request =>
    refine ⟨valid, fun thread member => ?_⟩
    rcases List.mem_append.mp member with old | new
    · exact threads thread old
    · obtain rfl := List.mem_singleton.mp new
      exact ⟨admitted request rfl, sound.bodies (admitted request rfl)⟩
  | step index fault =>
    simp only [Pool.move]
    split
    case h_2 => exact ⟨valid, threads⟩
    case h_1 request op next found =>
      obtain ⟨known, keeps⟩ := threads _ (List.mem_of_getElem? found)
      obtain ⟨fits, resume⟩ := safe_contract_call.mp keeps
      obtain ⟨promised, kept⟩ := @sound.step request (fault op) pool.world op known valid fits
      refine ⟨kept, fun thread member => ?_⟩
      rcases List.mem_or_eq_of_mem_set member with old | rfl
      · exact threads thread old
      · exact ⟨known, resume _ promised⟩

theorem play (sound : terms.Sound admits exec body) (upheld : Upheld terms admits pool)
    {moves : List (Move Req Op Fault)} (admitted : ∀ request, .start request ∈ moves → admits request) :
    Upheld terms admits (pool.play exec body moves) := by
  induction moves generalizing pool with
  | nil => exact upheld
  | cons first rest ih =>
    have moved := upheld.move sound fun request same => admitted request (same ▸ List.mem_cons_self)
    exact ih moved fun request member => admitted request (List.mem_cons_of_mem _ member)

theorem pending (upheld : Upheld terms admits pool) {thread : Thread Req Op Res ε α}
    (member : thread ∈ pool.threads) {op : Op}
    (next : thread.program.pending = some op) : terms.fits thread.request op :=
  Safe.pending (upheld.threads thread member).2 next

theorem replied (upheld : Upheld terms admits pool) {thread : Thread Req Op Res ε α}
    (member : thread ∈ pool.threads) {value : α}
    (ended : thread.program.result? = some (.ok value)) : terms.post thread.request value := by
  have keeps := (upheld.threads thread member).2
  unfold Terms.Keeps at keeps
  exact keeps.replied ended

end Upheld

end Effect
