import Lvp.Effect.Logic

/-!
Programs that follow a protocol. A protocol says how far a client has got (its phase), which calls it
may issue there and where each answer takes it. `Follows` checks a program against it once; from then
on an invariant of phases, worlds and the calls made so far is proved one step of the protocol at a
time, and `Follows.run` carries it through every run. Among other clients the invariant is all that a
program relies on: `Follows.safe`.
-/

namespace Effect

/-- A call of a run, with the world it is issued in, its fate and its answer. -/
structure Event (Op : Type) (Res : Op → Type) (World Fault : Type) where
  world : World
  op : Op
  fault : Fault
  answer : Res op

abbrev Protocol (Op : Type) (Res : Op → Type) (Phase : Type) :=
  Phase → (op : Op) → (Res op → Phase) → Prop

variable {Op : Type} {Res : Op → Type} {ε ε' α β Phase World Fault : Type}

def event (exec : Fault → World → (op : Op) → Res op × World) (world : World) (op : Op) (fault : Fault) :
    Event Op Res World Fault := ⟨world, op, fault, (exec fault world op).1⟩

namespace Program

/-- The calls of a run with their answers, in order. -/
def trace (exec : Fault → World → (op : Op) → Res op × World) :
    Program Op Res ε α → Oracle Op Fault → World → List (Event Op Res World Fault)
  | .ret _, _, _ => []
  | .raise _, _, _ => []
  | .call op next, oracle, world =>
    let after := exec (oracle 0 op) world op
    event exec world op (oracle 0 op) :: trace exec (next after.1) (fun n => oracle (n + 1)) after.2

/-- Every call of a run meets the fate that the oracle has for it. -/
theorem trace_fault {exec : Fault → World → (op : Op) → Res op × World} {oracle : Oracle Op Fault}
    {program : Program Op Res ε α} {world : World} {entry : Event Op Res World Fault}
    (member : entry ∈ program.trace exec oracle world) : ∃ n, entry.fault = oracle n entry.op := by
  induction program generalizing world oracle with
  | ret value => cases member
  | raise error => cases member
  | call op next ih =>
    rcases List.mem_cons.mp member with rfl | later
    · exact ⟨0, rfl⟩
    · obtain ⟨n, same⟩ := ih _ later
      exact ⟨n + 1, same⟩

theorem trace_steady {exec : Fault → World → (op : Op) → Res op × World} {fault : Op → Fault}
    {program : Program Op Res ε α} {world : World} {entry : Event Op Res World Fault}
    (member : entry ∈ program.trace exec (fun _ => fault) world) : entry.fault = fault entry.op := by
  obtain ⟨-, same⟩ := trace_fault member
  exact same

/-- Only the fates of the calls that are made matter. -/
theorem run_steady {exec : Fault → World → (op : Op) → Res op × World} {fault : Op → Fault}
    {oracle : Oracle Op Fault} {program : Program Op Res ε α} {world : World}
    (steady : ∀ entry ∈ program.trace exec oracle world, entry.fault = fault entry.op) :
    program.run exec oracle world = program.run exec (fun _ => fault) world := by
  induction program generalizing world oracle with
  | ret value => rfl
  | raise error => rfl
  | call op next ih =>
    obtain ⟨first, others⟩ := List.forall_mem_cons.mp steady
    have same : oracle 0 op = fault op := first
    simp only [same] at others
    simp only [Program.run, same]
    exact ih _ others

end Program

/-- Some calls take the program from one point to a later one. -/
inductive Steps (exec : Fault → World → (op : Op) → Res op × World) :
    Program Op Res ε α → World → List (Event Op Res World Fault) → Program Op Res ε α → World → Prop where
  | nil {program world} : Steps exec program world [] program world
  | cons {op next world fault events last after}
      (rest : Steps exec (next (exec fault world op).1) (exec fault world op).2 events last after) :
      Steps exec (.call op next) world (event exec world op fault :: events) last after

namespace Steps
variable {exec : Fault → World → (op : Op) → Res op × World} {program last : Program Op Res ε α}
  {events : List (Event Op Res World Fault)} {world after : World}

theorem snoc {op : Op} {next : Res op → Program Op Res ε α} (fault : Fault)
    (steps : Steps exec program world events last after)
    (pending : last = .call op next) :
    Steps exec program world (events ++ [event exec after op fault]) (next (exec fault after op).1)
      (exec fault after op).2 := by
  induction steps with
  | nil =>
    subst pending
    exact .cons .nil
  | cons _ ih => exact .cons (ih pending)

/-- Calls that take a program to its end are the calls of one of its runs. -/
theorem returned {value : α} (idle : Oracle Op Fault) (steps : Steps exec program world events last after)
    (done : last = .ret value) :
    ∃ oracle, program.run exec oracle world = (.ok value, after) ∧ program.trace exec oracle world = events := by
  induction steps with
  | nil =>
    subst done
    exact ⟨idle, rfl, rfl⟩
  | @cons op next world fault events last after _ ih =>
    obtain ⟨oracle, ran, traced⟩ := ih done
    let first : Oracle Op Fault := fun n call => match n with
      | 0 => fault
      | n + 1 => oracle n call
    exact ⟨first, ran, congrArg (List.cons _) traced⟩

end Steps

/-- The program makes only calls of the protocol, and ends in a phase with `post` or with `fail`. -/
def Follows (protocol : Protocol Op Res Phase) :
    Program Op Res ε α → (α → Phase → Prop) → (ε → Phase → Prop) → Phase → Prop
  | .ret value, post, _, phase => post value phase
  | .raise error, _, fail, phase => fail error phase
  | .call op next, post, fail, phase => ∃ resume, protocol phase op resume ∧
      ∀ answer, Follows protocol (next answer) post fail (resume answer)

variable {protocol : Protocol Op Res Phase} {post : α → Phase → Prop} {fail : ε → Phase → Prop}
  {phase : Phase}

theorem follows_bind {program : Program Op Res ε α} {next : α → Program Op Res ε β}
    {post : β → Phase → Prop} :
    Follows protocol (program >>= next) post fail phase ↔
      Follows protocol program (fun value => Follows protocol (next value) post fail) fail phase := by
  induction program generalizing phase with
  | ret value => rfl
  | raise error => rfl
  | call op rest ih => simp only [Program.call_bind, Follows, ih]

theorem follows_mapErr {program : Program Op Res ε' α} {f : ε' → ε} :
    Follows protocol (program.mapErr f) post fail phase ↔
      Follows protocol program post (fun error => fail (f error)) phase := by
  induction program generalizing phase with
  | ret value => rfl
  | raise error => rfl
  | call op rest ih => simp only [Program.mapErr, Follows, ih]

theorem follows_attempt {program : Program Op Res ε' α} {post : Except ε' α → Phase → Prop} :
    Follows protocol (program.attempt : Program Op Res ε (Except ε' α)) post fail phase ↔
      Follows protocol program (fun value => post (.ok value)) (fun error => post (.error error)) phase := by
  induction program generalizing phase with
  | ret value => rfl
  | raise error => rfl
  | call op rest ih => simp only [Program.attempt, Follows, ih]

theorem follows_reject {condition : Prop} [Decidable condition] {error : ε} {post : Unit → Phase → Prop} :
    Follows protocol (Program.reject condition error : Program Op Res ε Unit) post fail phase ↔
      (condition → fail error phase) ∧ (¬condition → post () phase) := by
  unfold Program.reject
  split <;> simp_all [Follows]

theorem follows_ofExcept {result : Except ε α} :
    Follows protocol (Program.ofExcept result) post fail phase ↔
      (∀ error, result = .error error → fail error phase) ∧
        (∀ value, result = .ok value → post value phase) := by
  cases result <;> simp [Program.ofExcept, Follows]

theorem follows_ofOption {result : Option α} {error : ε} :
    Follows protocol (Program.ofOption error result) post fail phase ↔
      (result = none → fail error phase) ∧ (∀ value, result = some value → post value phase) := by
  cases result <;> simp [Program.ofOption, Follows]

theorem Follows.weaken {program : Program Op Res ε α} {post' : α → Phase → Prop} {fail' : ε → Phase → Prop}
    (follows : Follows protocol program post fail phase)
    (value : ∀ value phase, post value phase → post' value phase)
    (error : ∀ error phase, fail error phase → fail' error phase) :
    Follows protocol program post' fail' phase := by
  induction program generalizing phase with
  | ret result => exact value _ _ follows
  | raise result => exact error _ _ follows
  | call op rest ih =>
    obtain ⟨resume, issued, later⟩ := follows
    exact ⟨resume, issued, fun answer => ih answer (later answer)⟩

theorem Follows.bind {program : Program Op Res ε α} {next : α → Program Op Res ε β} {mid : α → Phase → Prop}
    {post : β → Phase → Prop} (first : Follows protocol program mid fail phase)
    (rest : ∀ value after, mid value after → Follows protocol (next value) post fail after) :
    Follows protocol (program >>= next) post fail phase :=
  follows_bind.mpr (first.weaken rest fun _ _ failed => failed)

/-- Every call is one of the protocol, in a phase that holds, and leads to one that holds. -/
def following (protocol : Protocol Op Res Phase) (holds : Phase → World → Prop) (rely : World → World → Prop) :
    Logic Op Res World where
  step world op answer after := ∀ phase resume, protocol phase op resume → holds phase world →
    holds (resume answer) after
  rely := rely
  guard world op := ∃ phase resume, protocol phase op resume ∧ holds phase world

/-- A program that follows a protocol is safe among others, if they leave its phases alone. -/
theorem Follows.safe {holds : Phase → World → Prop} {rely : World → World → Prop}
    (stable : ∀ {phase before after}, rely before after → holds phase before → holds phase after)
    {program : Program Op Res ε α} {world : World} (follows : Follows protocol program post fail phase)
    (start : holds phase world) : Safe (following protocol holds rely) program
      (fun value after => ∃ last, post value last ∧ holds last after)
      (fun error after => ∃ last, fail error last ∧ holds last after) world := by
  induction program generalizing phase world with
  | ret value => exact ⟨phase, follows, start⟩
  | raise error => exact ⟨phase, follows, start⟩
  | call op rest ih =>
    obtain ⟨resume, issued, later⟩ := follows
    intro before relied
    have held := stable relied start
    exact ⟨⟨phase, resume, issued, held⟩, fun answer after stepped => ih answer (later answer)
      (stepped phase resume issued held)⟩

section Run
variable {exec : Fault → World → (op : Op) → Res op × World}

/-- An invariant that every allowed call of the protocol keeps holds whenever a call is issued and at
the end, where the phase is one the program may end in. -/
theorem Follows.run {allowed : List (Event Op Res World Fault) → Event Op Res World Fault → Prop}
    {holds : Phase → List (Event Op Res World Fault) → World → Prop} {program : Program Op Res ε α}
    {oracle : Oracle Op Fault} {past : List (Event Op Res World Fault)} {world : World}
    (step : ∀ {phase past world op resume fault}, holds phase past world → protocol phase op resume →
      allowed past (event exec world op fault) →
        holds (resume (exec fault world op).1) (past ++ [event exec world op fault]) (exec fault world op).2)
    (follows : Follows protocol program post fail phase) (start : holds phase past world)
    (permitted : ∀ before entry after, program.trace exec oracle world = before ++ entry :: after →
      allowed (past ++ before) entry) :
    (∃ last, Outcome post fail ((program.run exec oracle world).1, last) ∧
      holds last (past ++ program.trace exec oracle world) (program.run exec oracle world).2) ∧
    ∀ before entry after, program.trace exec oracle world = before ++ entry :: after →
      ∃ now resume, protocol now entry.op resume ∧ holds now (past ++ before) entry.world := by
  induction program generalizing phase past world oracle with
  | ret value => exact ⟨⟨phase, follows, by simpa [Program.trace, Program.run] using start⟩, by simp [Program.trace]⟩
  | raise error =>
    exact ⟨⟨phase, follows, by simpa [Program.trace, Program.run] using start⟩, by simp [Program.trace]⟩
  | call op rest ih =>
    obtain ⟨resume, issued, later⟩ := follows
    have first := permitted [] _ _ rfl
    rw [List.append_nil] at first
    obtain ⟨⟨last, ended, kept⟩, visited⟩ := ih _ (later _) (step start issued first)
      fun before entry after tail => by
        have allowed := permitted (_ :: before) entry after (congrArg (List.cons _) tail)
        rwa [List.append_assoc]
    refine ⟨⟨last, ended, ?_⟩, fun before entry after split => ?_⟩
    · rw [List.append_assoc] at kept
      exact kept
    · cases before with
      | nil =>
        obtain ⟨rfl, -⟩ := List.cons.inj split
        refine ⟨phase, resume, issued, ?_⟩
        rw [List.append_nil]
        exact start
      | cons first before =>
        obtain ⟨rfl, tail⟩ := List.cons.inj split
        obtain ⟨now, resume, issued, kept⟩ := visited before entry after tail
        rw [List.append_assoc] at kept
        exact ⟨now, resume, issued, kept⟩

/-- The same for an invariant that does not look back. -/
theorem Follows.keeps {allowed : Event Op Res World Fault → Prop} {holds : Phase → World → Prop}
    {program : Program Op Res ε α} {oracle : Oracle Op Fault} {world : World}
    (step : ∀ {phase world op resume fault}, holds phase world → protocol phase op resume →
      allowed (event exec world op fault) → holds (resume (exec fault world op).1) (exec fault world op).2)
    (follows : Follows protocol program post fail phase) (start : holds phase world)
    (permitted : ∀ entry ∈ program.trace exec oracle world, allowed entry) :
    (∃ last, Outcome post fail ((program.run exec oracle world).1, last) ∧
      holds last (program.run exec oracle world).2) ∧
    ∀ entry ∈ program.trace exec oracle world, ∃ now resume, protocol now entry.op resume ∧
      holds now entry.world := by
  induction program generalizing phase world oracle with
  | ret value => exact ⟨⟨phase, follows, start⟩, nofun⟩
  | raise error => exact ⟨⟨phase, follows, start⟩, nofun⟩
  | call op rest ih =>
    obtain ⟨resume, issued, later⟩ := follows
    obtain ⟨first, others⟩ := List.forall_mem_cons.mp permitted
    obtain ⟨ended, visited⟩ := ih _ (later _) (step start issued first) others
    exact ⟨ended, List.forall_mem_cons.mpr ⟨⟨phase, resume, issued, start⟩, visited⟩⟩

end Run

end Effect
