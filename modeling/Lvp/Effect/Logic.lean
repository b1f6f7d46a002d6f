import Lvp.Effect.Program

/-!
Assume-guarantee reasoning about programs. A `Logic` says what a call may answer (`step`), what
others may do between two calls (`rely`) and what must hold whenever a call is issued (`guard`).
`Safe` pushes these through the tree; its rules follow the constructors of a program, and
`Safe.refine` moves a proof from an abstract state to the state that implements it.
-/

namespace Effect

structure Logic (Op : Type) (Res : Op → Type) (World : Type) where
  step : World → (op : Op) → Res op → World → Prop
  rely : World → World → Prop
  guard : World → Op → Prop

variable {Op : Type} {Res : Op → Type} {ε ε' α β World View Fault : Type}

/-- Every call meets the guard in whatever state the others leave, and the program ends in `post`
or in `fail`. -/
def Safe (L : Logic Op Res World) :
    Program Op Res ε α → (α → World → Prop) → (ε → World → Prop) → World → Prop
  | .ret value, post, _, world => post value world
  | .raise error, _, fail, world => fail error world
  | .call op next, post, fail, world => ∀ before, L.rely world before →
      L.guard before op ∧
        ∀ answer after, L.step before op answer after → Safe L (next answer) post fail after

variable {L : Logic Op Res World} {post : α → World → Prop} {fail : ε → World → Prop} {world : World}

@[simp] theorem safe_ret (value : α) :
    Safe L (.ret value : Program Op Res ε α) post fail world ↔ post value world := Iff.rfl

@[simp] theorem safe_pure (value : α) :
    Safe L (pure value : Program Op Res ε α) post fail world ↔ post value world := Iff.rfl

@[simp] theorem safe_raise (error : ε) :
    Safe L (.raise error : Program Op Res ε α) post fail world ↔ fail error world := Iff.rfl

theorem safe_bind {program : Program Op Res ε α} {next : α → Program Op Res ε β}
    {post : β → World → Prop} :
    Safe L (program >>= next) post fail world ↔
      Safe L program (fun value => Safe L (next value) post fail) fail world := by
  induction program generalizing world with
  | ret value => rfl
  | raise error => rfl
  | call op rest ih => simp only [Program.call_bind, Safe, ih]

theorem safe_mapErr {program : Program Op Res ε' α} {f : ε' → ε} :
    Safe L (program.mapErr f) post fail world ↔
      Safe L program post (fun error => fail (f error)) world := by
  induction program generalizing world with
  | ret value => rfl
  | raise error => rfl
  | call op rest ih => simp only [Program.mapErr, Safe, ih]

theorem safe_attempt {program : Program Op Res ε' α} {post : Except ε' α → World → Prop} :
    Safe L (program.attempt : Program Op Res ε (Except ε' α)) post fail world ↔
      Safe L program (fun value => post (.ok value)) (fun error => post (.error error)) world := by
  induction program generalizing world with
  | ret value => rfl
  | raise error => rfl
  | call op rest ih => simp only [Program.attempt, Safe, ih]

theorem safe_reject {condition : Prop} [Decidable condition] {error : ε} {post : Unit → World → Prop} :
    Safe L (Program.reject condition error : Program Op Res ε Unit) post fail world ↔
      (condition → fail error world) ∧ (¬condition → post () world) := by
  unfold Program.reject
  split <;> simp_all

theorem safe_ofExcept {result : Except ε α} :
    Safe L (Program.ofExcept result) post fail world ↔
      (∀ error, result = .error error → fail error world) ∧
        (∀ value, result = .ok value → post value world) := by
  cases result <;> simp [Program.ofExcept]

theorem safe_ofOption {result : Option α} {error : ε} :
    Safe L (Program.ofOption error result) post fail world ↔
      (result = none → fail error world) ∧ (∀ value, result = some value → post value world) := by
  cases result <;> simp [Program.ofOption]

theorem Safe.weaken {program : Program Op Res ε α} {post' : α → World → Prop} {fail' : ε → World → Prop}
    (safe : Safe L program post fail world)
    (value : ∀ value world, post value world → post' value world)
    (error : ∀ error world, fail error world → fail' error world) :
    Safe L program post' fail' world := by
  induction program generalizing world with
  | ret result => exact value _ _ safe
  | raise result => exact error _ _ safe
  | call op rest ih =>
    intro before relied
    obtain ⟨guarded, resume⟩ := safe before relied
    exact ⟨guarded, fun answer after stepped => ih answer (resume answer after stepped)⟩

theorem Safe.bind {program : Program Op Res ε α} {next : α → Program Op Res ε β} {mid : α → World → Prop}
    {post : β → World → Prop} (first : Safe L program mid fail world)
    (rest : ∀ value after, mid value after → Safe L (next value) post fail after) :
    Safe L (program >>= next) post fail world :=
  safe_bind.mpr (first.weaken rest fun _ _ failed => failed)

theorem Safe.interfere {program : Program Op Res ε α} {after : World}
    (trans : ∀ a b c, L.rely a b → L.rely b c → L.rely a c)
    (stablePost : ∀ value a b, L.rely a b → post value a → post value b)
    (stableFail : ∀ error a b, L.rely a b → fail error a → fail error b)
    (safe : Safe L program post fail world) (relied : L.rely world after) :
    Safe L program post fail after := by
  cases program with
  | ret value => exact stablePost _ _ _ relied safe
  | raise error => exact stableFail _ _ _ relied safe
  | call op rest => exact fun before later => safe before (trans _ _ _ relied later)

variable (L) in
/-- What is safe for the abstract state is safe for every state that implements it. -/
theorem Safe.refine {A : Logic Op Res View} {post : α → View → Prop} {fail : ε → View → Prop}
    (view : World → View)
    (rely : ∀ a b, L.rely a b → A.rely (view a) (view b))
    (guard : ∀ a b op, L.rely a b → A.guard (view b) op → L.guard b op)
    (step : ∀ a b op answer c, L.rely a b → A.guard (view b) op → L.step b op answer c →
      A.step (view b) op answer (view c))
    {program : Program Op Res ε α} (safe : Safe A program post fail (view world)) :
    Safe L program (fun value w => post value (view w)) (fun error w => fail error (view w)) world := by
  induction program generalizing world with
  | ret value => exact safe
  | raise error => exact safe
  | call op rest ih =>
    intro before relied
    obtain ⟨guarded, resume⟩ := safe (view before) (rely _ _ relied)
    refine ⟨guard _ _ _ relied guarded, fun answer after stepped => ?_⟩
    exact ih answer (resume answer (view after) (step _ _ _ _ _ relied guarded stepped))

/-- The state-free logic: which calls may be issued and what their answers promise. -/
def contract (fits : Op → Prop) (promise : (op : Op) → Res op → Prop) : Logic Op Res Unit where
  step _ op answer _ := promise op answer
  rely _ _ := True
  guard _ op := fits op

theorem safe_contract_call {fits : Op → Prop} {promise : (op : Op) → Res op → Prop} {op : Op}
    {next : Res op → Program Op Res ε α} {post : α → Unit → Prop} {fail : ε → Unit → Prop} {u : Unit} :
    Safe (contract fits promise) (.call op next) post fail u ↔
      fits op ∧ ∀ answer, promise op answer → Safe (contract fits promise) (next answer) post fail u := by
  constructor
  · intro safe
    obtain ⟨fit, resume⟩ := safe () trivial
    exact ⟨fit, fun answer promised => resume answer () promised⟩
  · intro both _ _
    obtain ⟨fit, resume⟩ := both
    exact ⟨fit, fun answer _ promised => resume answer promised⟩

theorem Safe.pending {fits : Op → Prop} {promise : (op : Op) → Res op → Prop} {program : Program Op Res ε α}
    {op : Op} {post : α → Unit → Prop} {fail : ε → Unit → Prop} {u : Unit}
    (safe : Safe (contract fits promise) program post fail u) (next : program.pending = some op) : fits op := by
  cases program with
  | ret value => cases next
  | raise error => cases next
  | call other rest =>
    obtain rfl := Option.some.inj next
    exact (safe_contract_call.mp safe).1

def Outcome (post : α → World → Prop) (fail : ε → World → Prop) : Except ε α × World → Prop
  | (.ok value, world) => post value world
  | (.error error, world) => fail error world

/-- A run of a safe program alone: it ends as promised and every call it issued was guarded. -/
theorem Safe.run {exec : Fault → World → (op : Op) → Res op × World} (valid : World → Prop)
    {program : Program Op Res ε α} {oracle : Oracle Op Fault}
    (refl : ∀ w, valid w → L.rely w w)
    (step : ∀ n w op, valid w → L.guard w op →
      L.step w op (exec (oracle n op) w op).1 (exec (oracle n op) w op).2 ∧
        valid (exec (oracle n op) w op).2)
    (start : valid world) (safe : Safe L program post fail world) :
    Outcome post fail (program.run exec oracle world) ∧ valid (program.run exec oracle world).2 ∧
      ∀ visit ∈ program.visits exec oracle world, valid visit.1 ∧ L.guard visit.1 visit.2 := by
  induction program generalizing world oracle with
  | ret value => exact ⟨safe, start, by simp [Program.visits]⟩
  | raise error => exact ⟨safe, start, by simp [Program.visits]⟩
  | call op rest ih =>
    obtain ⟨guarded, resume⟩ := safe world (refl _ start)
    obtain ⟨stepped, kept⟩ := step 0 world op start guarded
    obtain ⟨ended, final, visited⟩ := ih _ (fun n => step (n + 1)) kept (resume _ _ stepped)
    refine ⟨ended, final, fun visit member => ?_⟩
    rcases List.mem_cons.mp member with rfl | later
    · exact ⟨start, guarded⟩
    · exact visited visit later

/-! ### Running alone -/

/-- Nobody interferes, and a call answers what `exec` says under some fault. -/
def alone (exec : Fault → World → (op : Op) → Res op × World) : Logic Op Res World where
  step world op answer after := ∃ fault, exec fault world op = (answer, after)
  rely before after := before = after
  guard _ _ := True

theorem safe_alone_call {exec : Fault → World → (op : Op) → Res op × World} {op : Op}
    {next : Res op → Program Op Res ε α} :
    Safe (alone exec) (.call op next) post fail world ↔
      ∀ fault, Safe (alone exec) (next (exec fault world op).1) post fail (exec fault world op).2 := by
  constructor
  · exact fun safe fault => (safe world rfl).2 _ _ ⟨fault, rfl⟩
  · rintro safe _ rfl
    refine ⟨trivial, fun answer after stepped => ?_⟩
    obtain ⟨fault, equal⟩ := stepped
    have resumed := safe fault
    rw [equal] at resumed
    exact resumed

theorem Safe.outcome {exec : Fault → World → (op : Op) → Res op × World} {program : Program Op Res ε α}
    (safe : Safe (alone exec) program post fail world) (oracle : Oracle Op Fault) :
    Outcome post fail (program.run exec oracle world) := by
  refine (Safe.run (fun _ => True) ?_ ?_ trivial safe).1
  · exact fun _ _ => rfl
  · exact fun n _ op _ _ => ⟨⟨oracle n op, rfl⟩, trivial⟩

theorem Safe.returns {exec : Fault → World → (op : Op) → Res op × World} {program : Program Op Res ε α}
    {oracle : Oracle Op Fault} {value : α} (safe : Safe (alone exec) program post fail world)
    (returned : (program.run exec oracle world).1 = .ok value) : post value (program.run exec oracle world).2 := by
  have ended := safe.outcome oracle
  revert ended returned
  generalize program.run exec oracle world = result
  obtain ⟨answer, after⟩ := result
  rintro rfl ended
  exact ended

theorem Safe.raises {exec : Fault → World → (op : Op) → Res op × World} {program : Program Op Res ε α}
    {oracle : Oracle Op Fault} {error : ε} (safe : Safe (alone exec) program post fail world)
    (failed : (program.run exec oracle world).1 = .error error) : fail error (program.run exec oracle world).2 := by
  have ended := safe.outcome oracle
  revert ended failed
  generalize program.run exec oracle world = result
  obtain ⟨answer, after⟩ := result
  rintro rfl ended
  exact ended

end Effect
