import Mathlib.Logic.Basic

/-!
Fallible programs over typed calls. A program is the tree of the calls it may issue: every
node names one call and continues with whatever the environment answers. The tree is executed
against a state by `run`, one call at a time, and `visits` lists the state in which each call
was issued.
-/

namespace Effect

inductive Program (Op : Type) (Res : Op → Type) (ε α : Type) where
  | ret (value : α)
  | raise (error : ε)
  | call (op : Op) (next : Res op → Program Op Res ε α)

/-- Picks the fate of the `n`-th call of a run. -/
abbrev Oracle (Op Fault : Type) := Nat → Op → Fault

namespace Program

variable {Op : Type} {Res : Op → Type} {ε ε' α β γ World Fault : Type}

def bind (program : Program Op Res ε α) (next : α → Program Op Res ε β) : Program Op Res ε β :=
  match program with
  | .ret value => next value
  | .raise error => .raise error
  | .call op rest => .call op fun answer => (rest answer).bind next

instance : Monad (Program Op Res ε) where
  pure := .ret
  bind := .bind

def mapErr (f : ε → ε') (program : Program Op Res ε α) : Program Op Res ε' α :=
  match program with
  | .ret value => .ret value
  | .raise error => .raise (f error)
  | .call op rest => .call op fun answer => (rest answer).mapErr f

def attempt (program : Program Op Res ε α) : Program Op Res ε' (Except ε α) :=
  match program with
  | .ret value => .ret (.ok value)
  | .raise error => .ret (.error error)
  | .call op rest => .call op fun answer => (rest answer).attempt

def reject (condition : Prop) [Decidable condition] (error : ε) : Program Op Res ε Unit :=
  if condition then .raise error else .ret ()

def ofExcept (result : Except ε α) : Program Op Res ε α :=
  match result with
  | .ok value => .ret value
  | .error error => .raise error

def ofOption (error : ε) (result : Option α) : Program Op Res ε α :=
  match result with
  | some value => .ret value
  | none => .raise error

@[simp] theorem ret_bind (value : α) (next : α → Program Op Res ε β) :
    (Program.ret value : Program Op Res ε α) >>= next = next value := rfl

@[simp] theorem pure_bind (value : α) (next : α → Program Op Res ε β) :
    (pure value : Program Op Res ε α) >>= next = next value := rfl

@[simp] theorem raise_bind (error : ε) (next : α → Program Op Res ε β) :
    (Program.raise error : Program Op Res ε α) >>= next = .raise error := rfl

@[simp] theorem call_bind (op : Op) (rest : Res op → Program Op Res ε α) (next : α → Program Op Res ε β) :
    Program.call op rest >>= next = .call op fun answer => rest answer >>= next := rfl

theorem bind_assoc (program : Program Op Res ε α) (first : α → Program Op Res ε β)
    (second : β → Program Op Res ε γ) :
    program >>= first >>= second = program >>= fun value => first value >>= second := by
  induction program with
  | ret value => rfl
  | raise error => rfl
  | call op rest ih =>
    simp only [call_bind]
    congr 1
    funext answer
    exact ih answer

def run (exec : Fault → World → (op : Op) → Res op × World) :
    Program Op Res ε α → Oracle Op Fault → World → Except ε α × World
  | .ret value, _, world => (.ok value, world)
  | .raise error, _, world => (.error error, world)
  | .call op next, oracle, world =>
    let after := exec (oracle 0 op) world op
    run exec (next after.1) (fun n => oracle (n + 1)) after.2

/-- The calls of a run, each with the state it is issued in. -/
def visits (exec : Fault → World → (op : Op) → Res op × World) :
    Program Op Res ε α → Oracle Op Fault → World → List (World × Op)
  | .ret _, _, _ => []
  | .raise _, _, _ => []
  | .call op next, oracle, world =>
    let after := exec (oracle 0 op) world op
    (world, op) :: visits exec (next after.1) (fun n => oracle (n + 1)) after.2

theorem run_reject {exec : Fault → World → (op : Op) → Res op × World} {condition : Prop} [Decidable condition]
    {error : ε} {next : Unit → Program Op Res ε α} {oracle : Oracle Op Fault} {world : World} {value : α}
    (returned : ((reject condition error >>= next).run exec oracle world).1 = .ok value) :
    ¬condition ∧ ((next ()).run exec oracle world).1 = .ok value := by
  by_cases rejected : condition
  · rw [reject, if_pos rejected] at returned
    cases returned
  · rw [reject, if_neg rejected] at returned
    exact ⟨rejected, returned⟩

/-! ### Runs in which every call has the same fate -/

section Steady
variable {exec : Fault → World → (op : Op) → Res op × World} {fault : Op → Fault}

theorem run_bind (program : Program Op Res ε α) (next : α → Program Op Res ε β) (world : World) :
    (program >>= next).run exec (fun _ => fault) world =
      match program.run exec (fun _ => fault) world with
      | (.ok value, after) => (next value).run exec (fun _ => fault) after
      | (.error error, after) => (.error error, after) := by
  induction program generalizing world with
  | ret value => rfl
  | raise error => rfl
  | call op rest ih => exact ih _ _

theorem run_mapErr (program : Program Op Res ε α) (f : ε → ε') (world : World) :
    (program.mapErr f).run exec (fun _ => fault) world =
      ((program.run exec (fun _ => fault) world).1.mapError f, (program.run exec (fun _ => fault) world).2) := by
  induction program generalizing world with
  | ret value => rfl
  | raise error => rfl
  | call op rest ih => exact ih _ _

theorem run_ofExcept (result : Except ε α) (oracle : Oracle Op Fault) (world : World) :
    (ofExcept result : Program Op Res ε α).run exec oracle world = (result, world) := by
  cases result <;> rfl

end Steady

def pending : Program Op Res ε α → Option Op
  | .call op _ => some op
  | _ => none

def finished (program : Program Op Res ε α) : Bool := program.pending.isNone

@[simp] theorem pending_call (op : Op) (next : Res op → Program Op Res ε α) :
    (Program.call op next).pending = some op := rfl

end Program

end Effect
