import Lvp.Effect.Program

/-!
Total correctness where every call has the same fate: the program returns, and its value and the state it leaves meet
a postcondition.
-/

namespace Effect

variable {Op : Type} {Res : Op → Type} {ε ε' α β World Fault : Type}

def Succeeds (exec : Fault → World → (op : Op) → Res op × World) (fault : Op → Fault) (program : Program Op Res ε α)
    (post : α → World → Prop) (world : World) : Prop :=
  ∃ value after, program.run exec (fun _ => fault) world = (.ok value, after) ∧ post value after

variable {exec : Fault → World → (op : Op) → Res op × World} {fault : Op → Fault} {program : Program Op Res ε α}
  {post : α → World → Prop} {world : World}

theorem Succeeds.weaken {weaker : α → World → Prop} (succeeds : Succeeds exec fault program post world)
    (imply : ∀ value after, post value after → weaker value after) : Succeeds exec fault program weaker world := by
  obtain ⟨value, after, ran, ends⟩ := succeeds
  exact ⟨value, after, ran, imply value after ends⟩

@[simp] theorem succeeds_ret {value : α} :
    Succeeds exec fault (.ret value : Program Op Res ε α) post world ↔ post value world := by
  constructor
  · rintro ⟨_, _, ran, ends⟩
    cases ran
    exact ends
  · exact fun ends => ⟨value, world, rfl, ends⟩

@[simp] theorem succeeds_pure {value : α} :
    Succeeds exec fault (pure value : Program Op Res ε α) post world ↔ post value world := succeeds_ret

theorem succeeds_bind {next : α → Program Op Res ε β} {post : β → World → Prop} :
    Succeeds exec fault (program >>= next) post world ↔
      Succeeds exec fault program (fun value => Succeeds exec fault (next value) post) world := by
  unfold Succeeds
  rw [Program.run_bind]
  obtain ⟨result, after⟩ := program.run exec (fun _ => fault) world
  cases result with
  | error error => simp
  | ok value =>
    constructor
    · exact fun returned => ⟨value, after, rfl, returned⟩
    · rintro ⟨_, _, same, returned⟩
      cases same
      exact returned

theorem succeeds_mapErr {f : ε → ε'} :
    Succeeds exec fault (program.mapErr f) post world ↔ Succeeds exec fault program post world := by
  unfold Succeeds
  rw [Program.run_mapErr]
  obtain ⟨result, after⟩ := program.run exec (fun _ => fault) world
  cases result with
  | error error =>
    constructor
    · rintro ⟨_, _, ran, -⟩
      cases ran
    · rintro ⟨_, _, ran, -⟩
      cases ran
  | ok value =>
    constructor
    · rintro ⟨_, _, ran, ends⟩
      cases ran
      exact ⟨value, after, rfl, ends⟩
    · rintro ⟨_, _, ran, ends⟩
      cases ran
      exact ⟨value, after, rfl, ends⟩

theorem succeeds_reject {condition : Prop} [Decidable condition] {error : ε} {post : Unit → World → Prop} :
    Succeeds exec fault (.reject condition error : Program Op Res ε Unit) post world ↔ ¬condition ∧
      post () world := by
  by_cases rejected : condition
  · simp [Program.reject, rejected, Succeeds, Program.run]
  · simp [Program.reject, rejected]

theorem succeeds_ofOption {error : ε} {result : Option α} :
    Succeeds exec fault (.ofOption error result : Program Op Res ε α) post world ↔
      ∃ value, result = some value ∧ post value world := by
  cases result with
  | none => simp [Program.ofOption, Succeeds, Program.run]
  | some value => simp [Program.ofOption]

theorem succeeds_ofExcept {result : Except ε α} :
    Succeeds exec fault (.ofExcept result : Program Op Res ε α) post world ↔
      ∃ value, result = .ok value ∧ post value world := by
  cases result with
  | error error => simp [Program.ofExcept, Succeeds, Program.run]
  | ok value => simp [Program.ofExcept]

end Effect
