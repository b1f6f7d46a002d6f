import Lvp.Effect.Protocol

/-!
Programs that give up at the first call that fails. Such a program, cut off anywhere or run with failing calls,
leaves a state that the undisturbed run passes through, so sending it again is safe when every such state leads on
to the same end.
-/

namespace Effect

variable {Op : Type} {Res : Op → Type} {ε α World Fault : Type}

namespace Program

/-- The state that a program leaves that is given up after some calls. -/
def cut (exec : Fault → World → (op : Op) → Res op × World) :
    Nat → Program Op Res ε α → Oracle Op Fault → World → World
  | count + 1, .call op next, oracle, world =>
    let after := exec (oracle 0 op) world op
    cut exec count (next after.1) (fun n => oracle (n + 1)) after.2
  | _, _, _, world => world

theorem cut_late (exec : Fault → World → (op : Op) → Res op × World) (program : Program Op Res ε α)
    (oracle : Oracle Op Fault) (world : World) :
    ∃ count, program.cut exec count oracle world = (program.run exec oracle world).2 := by
  induction program generalizing oracle world with
  | ret value => exact ⟨0, rfl⟩
  | raise error => exact ⟨0, rfl⟩
  | call op next ih =>
    obtain ⟨count, same⟩ := ih (exec (oracle 0 op) world op).1 (fun n => oracle (n + 1)) (exec (oracle 0 op) world op).2
    exact ⟨count + 1, same⟩

/-- Raises an error right after a failed call. -/
def Quits (failed : (op : Op) → Res op → Prop) : Program Op Res ε α → Prop
  | .ret _ | .raise _ => True
  | .call op next => ∀ answer, (failed op answer → ∃ error, next answer = .raise error) ∧ (next answer).Quits failed

end Program

/-- A call that meets a fault fails, and acts as always or not at all. -/
def Faulty (exec : Fault → World → (op : Op) → Res op × World) (none : Fault)
    (failed : (op : Op) → Res op → Prop) : Prop :=
  ∀ fault world op, fault = none ∨ failed op (exec fault world op).1 ∧
    ((exec fault world op).2 = world ∨ (exec fault world op).2 = (exec none world op).2)

variable {exec : Fault → World → (op : Op) → Res op × World} {none : Fault} {failed : (op : Op) → Res op → Prop}
  {program : Program Op Res ε α} {world : World}

/-- A state that the undisturbed run passes through. -/
def Passed (exec : Fault → World → (op : Op) → Res op × World) (none : Fault) (program : Program Op Res ε α)
    (world left : World) : Prop :=
  left = (program.run exec (fun _ _ => none) world).2 ∨
    ∃ entry ∈ program.trace exec (fun _ _ => none) world, entry.world = left

theorem passed_start : Passed exec none program world world := by
  cases program with
  | ret value => exact Or.inl rfl
  | raise error => exact Or.inl rfl
  | call op next => exact Or.inr ⟨_, List.mem_cons_self, rfl⟩

theorem Passed.later {op : Op} {next : Res op → Program Op Res ε α} {left : World}
    (passed : Passed exec none (next (exec none world op).1) (exec none world op).2 left) :
    Passed exec none (.call op next) world left := by
  rcases passed with final | ⟨entry, member, same⟩
  · exact Or.inl final
  · exact Or.inr ⟨entry, List.mem_cons_of_mem _ member, same⟩

namespace Program.Quits

theorem cut (faulty : Faulty exec none failed) (quits : program.Quits failed) (count : Nat)
    (oracle : Oracle Op Fault) :
    Passed exec none program world (program.cut exec count oracle world) := by
  induction program generalizing count oracle world with
  | ret value =>
    rw [Program.cut]
    · exact passed_start
    · nofun
  | raise error =>
    rw [Program.cut]
    · exact passed_start
    · nofun
  | call op next ih =>
    cases count with
    | zero => exact passed_start
    | succ count =>
      show Passed _ _ _ _ (Program.cut exec count (next (exec (oracle 0 op) world op).1) _
          (exec (oracle 0 op) world op).2)
      rcases faulty (oracle 0 op) world op with same | ⟨fails, left⟩
      · rw [same]
        exact (ih _ (quits _).2 count _).later
      · obtain ⟨error, raised⟩ := (quits _).1 fails
        rw [raised, Program.cut]
        · rcases left with still | acted
          · rw [still]
            exact passed_start
          · rw [acted]
            exact passed_start.later
        · nofun

/-- What returns has met no fault. -/
theorem returned {oracle : Oracle Op Fault} {value : α} (faulty : Faulty exec none failed)
    (quits : program.Quits failed) (ok : (program.run exec oracle world).1 = .ok value) :
    program.run exec oracle world = program.run exec (fun _ _ => none) world := by
  induction program generalizing oracle world with
  | ret value => rfl
  | raise error => rfl
  | call op next ih =>
    rcases faulty (oracle 0 op) world op with same | ⟨fails, -⟩
    · have ok' : ((next (exec (oracle 0 op) world op).1).run exec (fun n => oracle (n + 1))
          (exec (oracle 0 op) world op).2).1 = .ok value := ok
      rw [same] at ok'
      have later := ih _ (quits _).2 ok'
      rw [Program.run, same]
      exact later
    · obtain ⟨error, raised⟩ := (quits _).1 fails
      rw [Program.run, raised] at ok
      cases ok

end Program.Quits

/-! ### Sent again and again -/

/-- The state after attempts that were given up after some calls each. -/
def attempted (exec : Fault → World → (op : Op) → Res op × World) (program : Program Op Res ε α)
    (attempts : List (Nat × Oracle Op Fault)) (world : World) : World :=
  attempts.foldl (fun world attempt => program.cut exec attempt.1 attempt.2 world) world

/-- From each of these states the undisturbed run ends alike, by way of other such states. -/
structure Restartable (exec : Fault → World → (op : Op) → Res op × World) (none : Fault)
    (program : Program Op Res ε α) (states : World → Prop) (value : α) (final : World) : Prop where
  passes : ∀ {world left}, states world → Passed exec none program world left → states left
  ends : ∀ {world}, states world → program.run exec (fun _ _ => none) world = (.ok value, final)

variable {states : World → Prop} {value : α} {final : World}

theorem Restartable.attempted (restartable : Restartable exec none program states value final)
    (faulty : Faulty exec none failed) (quits : program.Quits failed)
    (start : states world) (attempts : List (Nat × Oracle Op Fault)) :
    states (attempted exec program attempts world) := by
  induction attempts generalizing world with
  | nil => exact start
  | cons attempt rest ih => exact ih (restartable.passes start (quits.cut faulty attempt.1 attempt.2))

/-- However often it was tried: the next attempt is answered as the first one would have been, or not at all. -/
theorem Restartable.answered {oracle : Oracle Op Fault} {answer : α}
    (restartable : Restartable exec none program states value final)
    (faulty : Faulty exec none failed) (quits : program.Quits failed) (start : states world)
    (ok : (program.run exec oracle world).1 = .ok answer) : program.run exec oracle world = (.ok value, final) :=
  (quits.returned faulty ok).trans (restartable.ends start)

end Effect
