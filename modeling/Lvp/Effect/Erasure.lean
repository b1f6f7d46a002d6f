import Lvp.Effect.Pool

/-!
Observers in a pool. Requests whose calls only read may be in flight with others in any number: whatever
the pool does with them, the pool without them can do as well, and the other requests get as far in both.
-/

namespace Effect

variable {Req Req' Op Fault World : Type} {Res : Op → Type} {ε ε' α α' : Type}

/-- A program with its results put into larger types. -/
def Program.rename (onError : ε' → ε) (onValue : α' → α) (program : Program Op Res ε' α') : Program Op Res ε α := do
  let value ← program.mapErr onError
  pure (onValue value)

theorem Program.rename_call (onError : ε' → ε) (onValue : α' → α) (op : Op) (next : Res op → Program Op Res ε' α') :
    (Program.call op next).rename onError onValue = .call op fun answer =>
      (next answer).rename onError onValue := rfl

/-- Against any answers the program only issues calls with `reads`. -/
def Reads (reads : Op → Prop) (program : Program Op Res ε α) : Prop :=
  Safe (contract reads fun _ _ => True) program (fun _ _ => True) (fun _ _ => True) ()

/-- The server `body` is the server `body'` with observers beside it. -/
structure Observed (exec : Req → Fault → World → (op : Op) → Res op × World) (body : Req → Program Op Res ε α)
    (exec' : Req' → Fault → World → (op : Op) → Res op × World) (body' : Req' → Program Op Res ε' α')
    (inject : Req' → Req) (keep : Req → Option Req') (onError : ε' → ε) (onValue : α' → α)
    (reads : Op → Prop) : Prop where
  kept : ∀ {request request'}, keep request = some request' → request = inject request'
  execs : ∀ request, exec (inject request) = exec' request
  bodies : ∀ request, body (inject request) = (body' request).rename onError onValue
  observer : ∀ {request}, keep request = none → Reads reads (body request)
  unmoved : ∀ {request fault world op}, keep request = none → reads op → (exec request fault world op).2 = world

/-- The threads of a pool beside the threads of the pool without its observers. -/
inductive Shadows (inject : Req' → Req) (keep : Req → Option Req') (onError : ε' → ε) (onValue : α' → α)
    (reads : Op → Prop) : List (Thread Req Op Res ε α) → List (Thread Req' Op Res ε' α') → Prop where
  | nil : Shadows inject keep onError onValue reads [] []
  | kept {request program threads shadow} (held : keep (inject request) = some request)
      (rest : Shadows inject keep onError onValue reads threads shadow) :
      Shadows inject keep onError onValue reads (⟨inject request, program.rename onError onValue⟩ :: threads)
        (⟨request, program⟩ :: shadow)
  | observer {request program threads shadow} (dropped : keep request = none) (quiet : Reads reads program)
      (rest : Shadows inject keep onError onValue reads threads shadow) :
      Shadows inject keep onError onValue reads (⟨request, program⟩ :: threads) shadow

variable {exec : Req → Fault → World → (op : Op) → Res op × World} {body : Req → Program Op Res ε α}
  {exec' : Req' → Fault → World → (op : Op) → Res op × World} {body' : Req' → Program Op Res ε' α'}
  {inject : Req' → Req} {keep : Req → Option Req'} {onError : ε' → ε} {onValue : α' → α} {reads : Op → Prop}
  {threads : List (Thread Req Op Res ε α)} {shadow : List (Thread Req' Op Res ε' α')}

namespace Shadows

theorem append {more : List (Thread Req Op Res ε α)} {moreShadow : List (Thread Req' Op Res ε' α')}
    (first : Shadows inject keep onError onValue reads threads shadow)
    (second : Shadows inject keep onError onValue reads more moreShadow) :
    Shadows inject keep onError onValue reads (threads ++ more) (shadow ++ moreShadow) := by
  induction first with
  | nil => exact second
  | kept held _ ih => exact .kept held ih
  | observer dropped quiet _ ih => exact .observer dropped quiet ih

/-- The threads that are no observers, in order. -/
theorem kept_threads (shadows : Shadows inject keep onError onValue reads threads shadow) :
    threads.filter (fun thread => (keep thread.request).isSome) =
      shadow.map fun thread => ⟨inject thread.request, thread.program.rename onError onValue⟩ := by
  induction shadows with
  | nil => rfl
  | kept held _ ih => rw [List.filter_cons_of_pos (by rw [held]; rfl), ih, List.map_cons]
  | observer dropped _ _ ih => rw [List.filter_cons_of_neg (by rw [dropped]; nofun), ih]

/-- The thread that makes a call is an observer, or the same call is pending in the pool without them. -/
theorem pending {index : Nat} {request : Req} {op : Op} {next : Res op → Program Op Res ε α}
    (shadows : Shadows inject keep onError onValue reads threads shadow)
    (found : threads[index]? = some ⟨request, .call op next⟩) :
    (keep request = none ∧ reads op ∧ ∀ answer,
        Shadows inject keep onError onValue reads (threads.set index ⟨request, next answer⟩) shadow) ∨
      ∃ at_ request' next', request = inject request' ∧ shadow[at_]? = some ⟨request', .call op next'⟩ ∧
        ∀ answer, Shadows inject keep onError onValue reads (threads.set index ⟨request, next answer⟩)
          (shadow.set at_ ⟨request', next' answer⟩) := by
  induction shadows generalizing index with
  | nil => cases found
  | @kept own program threads shadow held rest ih =>
    cases index with
    | zero =>
      obtain ⟨rfl, same⟩ := Thread.mk.inj (Option.some.inj found)
      cases program with
      | ret value => cases same
      | raise error => cases same
      | call op' next' =>
        rw [Program.rename_call] at same
        obtain ⟨rfl, same⟩ := Program.call.inj same
        cases same
        exact Or.inr ⟨0, own, next', rfl, rfl, fun answer => .kept held rest⟩
    | succ index =>
      rcases ih found with ⟨dropped, read, quiet⟩ | ⟨place, request', next', same, here, resumed⟩
      · exact Or.inl ⟨dropped, read, fun answer => .kept held (quiet answer)⟩
      · exact Or.inr ⟨place + 1, request', next', same, here, fun answer => .kept held (resumed answer)⟩
  | @observer own program threads shadow dropped quiet rest ih =>
    cases index with
    | zero =>
      obtain ⟨rfl, rfl⟩ := Thread.mk.inj (Option.some.inj found)
      obtain ⟨read, later⟩ := safe_contract_call.mp quiet
      exact Or.inl ⟨dropped, read, fun answer => .observer dropped (later answer trivial) rest⟩
    | succ index =>
      rcases ih found with ⟨unkept, read, stays⟩ | ⟨place, request', next', same, here, resumed⟩
      · exact Or.inl ⟨unkept, read, fun answer => .observer dropped quiet (stays answer)⟩
      · exact Or.inr ⟨place, request', next', same, here, fun answer => .observer dropped quiet (resumed answer)⟩

end Shadows

/-- One pool, and the pool without its observers in the same state. -/
structure Shadowed (inject : Req' → Req) (keep : Req → Option Req') (onError : ε' → ε) (onValue : α' → α)
    (reads : Op → Prop) (pool : Pool Req Op Res ε α World) (bare : Pool Req' Op Res ε' α' World) : Prop where
  world : pool.world = bare.world
  threads : Shadows inject keep onError onValue reads pool.threads bare.threads

variable {pool : Pool Req Op Res ε α World} {bare : Pool Req' Op Res ε' α' World}

theorem Shadowed.move (observed : Observed exec body exec' body' inject keep onError onValue reads)
    (shadowed : Shadowed inject keep onError onValue reads pool bare) (next : Move Req Op Fault) :
    ∃ moves : List (Move Req' Op Fault),
      Shadowed inject keep onError onValue reads (pool.move exec body next) (bare.play exec' body' moves) := by
  obtain ⟨world, threads⟩ := shadowed
  cases next with
  | start request =>
    cases held : keep request with
    | none => exact ⟨[], world, List.append_nil bare.threads ▸ threads.append
      (.observer held (observed.observer held) .nil)⟩
    | some request' =>
      obtain rfl := observed.kept held
      refine ⟨[.start request'], world, threads.append ?_⟩
      rw [observed.bodies]
      exact .kept held .nil
  | step index fault =>
    simp only [Pool.move]
    split
    case h_2 => exact ⟨[], world, threads⟩
    case h_1 request op next found =>
      rcases threads.pending found with ⟨dropped, read, stays⟩ | ⟨place, request', next', rfl, here, resumed⟩
      · exact ⟨[], (observed.unmoved dropped read).trans world, stays _⟩
      · refine ⟨[.step place fault], ?_⟩
        simp only [Pool.play, List.foldl_cons, List.foldl_nil, Pool.move, here]
        rw [observed.execs, world]
        exact ⟨rfl, resumed _⟩

/-- What a pool does, the pool without its observers can do. -/
theorem Shadowed.play (observed : Observed exec body exec' body' inject keep onError onValue reads)
    (shadowed : Shadowed inject keep onError onValue reads pool bare) (schedule : List (Move Req Op Fault)) :
    ∃ moves : List (Move Req' Op Fault),
      Shadowed inject keep onError onValue reads (pool.play exec body schedule) (bare.play exec' body' moves) := by
  induction schedule generalizing pool bare with
  | nil => exact ⟨[], shadowed⟩
  | cons first rest ih =>
    obtain ⟨moved, here⟩ := shadowed.move observed first
    obtain ⟨moves, there⟩ := ih here
    have joined : bare.play exec' body' (moved ++ moves) = (bare.play exec' body' moved).play exec' body' moves :=
      List.foldl_append
    refine ⟨moved ++ moves, ?_⟩
    rw [joined]
    exact there

end Effect
