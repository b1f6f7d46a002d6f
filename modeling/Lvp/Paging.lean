import Mathlib.Data.List.Sort
import Mathlib.Data.Set.Basic

/-!
Paging by key. A page shows the stored items above a cursor up to some key, in the order of their keys, and that
key is the next cursor. Whatever happens to the stored items between two pages, a walk repeats nothing, and it
shows every key that was there all along.
-/

namespace Paging

variable {α κ : Type} [LinearOrder κ] {key : α → κ}

def Before (key : α → κ) (a b : α) : Prop := key a < key b

instance : Std.Irrefl (Before key) := ⟨fun _ => lt_irrefl _⟩

instance : Std.Antisymm (Before key) := ⟨fun _ _ less more => absurd more less.not_gt⟩

def Above (cursor : Option κ) (k : κ) : Prop := ∀ low ∈ cursor, low < k

instance (cursor : Option κ) (k : κ) : Decidable (Above cursor k) :=
  inferInstanceAs (Decidable (∀ low ∈ cursor, low < k))

def UpTo (next : Option κ) (k : κ) : Prop := ∀ high ∈ next, k ≤ high

@[simp] theorem above_none (k : κ) : Above none k := fun _ member => nomatch member

@[simp] theorem above_some {low k : κ} : Above (some low) k ↔ low < k := by simp [Above]

@[simp] theorem upTo_none (k : κ) : UpTo none k := fun _ member => nomatch member

@[simp] theorem upTo_some {high k : κ} : UpTo (some high) k ↔ k ≤ high := by simp [UpTo]

/-- A page from `cursor` that is continued from `next`. -/
structure Covers (key : α → κ) (cursor next : Option κ) (stored : Set α) (items : List α) : Prop where
  sorted : items.Pairwise (Before key)
  mem : ∀ item, item ∈ items ↔ item ∈ stored ∧ Above cursor (key item) ∧ UpTo next (key item)
  reached : ∀ high ∈ next, ∃ item ∈ items, key item = high

/-- The first items of a sorted list above the cursor are a page. -/
theorem covers_of_split {cursor next : Option κ} {stored : List α} {items rest : List α}
    (sorted : stored.Pairwise (Before key))
    (split : stored.filter (fun item => Above cursor (key item)) = items ++ rest)
    (ends : next = none ∧ rest = [] ∨ ∃ last, items.getLast? = some last ∧ next = some (key last)) :
    Covers key cursor next {item | item ∈ stored} items := by
  have above : (items ++ rest).Pairwise (Before key) := by
    rw [← split]
    exact sorted.filter _
  obtain ⟨ordered, -, before⟩ := List.pairwise_append.mp above
  have mem (item : α) : item ∈ stored ∧ Above cursor (key item) ↔ item ∈ items ∨ item ∈ rest := by
    rw [← List.mem_append, ← split, List.mem_filter, decide_eq_true_iff]
  rcases ends with ⟨rfl, rfl⟩ | ⟨last, found, rfl⟩
  · refine ⟨ordered, fun item => ?_, fun high member => nomatch member⟩
    rw [← and_assoc, Set.mem_ofPred_eq, mem]
    simp
  · obtain ⟨front, rfl⟩ := List.getLast?_eq_some_iff.mp found
    refine ⟨ordered, fun item => ?_, fun high member => ⟨last, by simp, Option.some.inj member⟩⟩
    rw [← and_assoc, Set.mem_ofPred_eq, mem, upTo_some]
    constructor
    · intro member
      refine ⟨.inl member, ?_⟩
      rcases List.mem_append.mp member with earlier | same
      · exact ((List.pairwise_append.mp ordered).2.2 item earlier last (by simp)).le
      · rw [List.mem_singleton.mp same]
    · rintro ⟨member | later, bounded⟩
      · exact member
      · exact absurd (before last (by simp) item later) bounded.not_gt

/-- Pages requested one after the other, each where the last one ended. The walk is complete when its last page
has no next one. -/
inductive Walk (key : α → κ) : Option κ → List (Set α × List α) → Prop → Prop where
  | stop {cursor : Option κ} : Walk key cursor [] False
  | last {cursor : Option κ} {stored : Set α} {items : List α} (covers : Covers key cursor none stored items) :
      Walk key cursor [(stored, items)] True
  | more {cursor : Option κ} {next : κ} {stored : Set α} {items : List α} {rest : List (Set α × List α)}
      {complete : Prop} (covers : Covers key cursor (some next) stored items)
      (later : Walk key (some next) rest complete) : Walk key cursor ((stored, items) :: rest) complete

namespace Walk

variable {cursor : Option κ} {pages : List (Set α × List α)} {complete : Prop}

def shown (pages : List (Set α × List α)) : List α := pages.flatMap Prod.snd

@[simp] theorem shown_cons (page : Set α × List α) (rest : List (Set α × List α)) :
    shown (page :: rest) = page.2 ++ shown rest := rfl

theorem above (walk : Walk key cursor pages complete) : ∀ item ∈ shown pages, Above cursor (key item) := by
  induction walk with
  | stop => exact fun item member => nomatch member
  | last covers =>
    intro item member
    rw [shown_cons, shown, List.flatMap_nil, List.append_nil] at member
    exact ((covers.mem item).mp member).2.1
  | more covers _ ih =>
    intro item member
    rcases List.mem_append.mp member with here | later
    · exact ((covers.mem item).mp here).2.1
    · obtain ⟨end_, ended, same⟩ := covers.reached _ rfl
      intro low at_
      have first := ((covers.mem end_).mp ended).2.1 low at_
      rw [same] at first
      exact first.trans (above_some.mp (ih item later))

/-- No key is repeated, and the keys come in order. -/
theorem increasing (walk : Walk key cursor pages complete) :
    (shown pages).Pairwise (Before key) := by
  induction walk with
  | stop => exact .nil
  | last covers =>
    rw [shown_cons, shown, List.flatMap_nil, List.append_nil]
    exact covers.sorted
  | more covers walk ih =>
    refine List.pairwise_append.mpr ⟨covers.sorted, ih, fun item here other later => ?_⟩
    have bounded := upTo_some.mp ((covers.mem item).mp here).2.2
    exact bounded.trans_lt (above_some.mp (walk.above other later))

/-- A complete walk shows what was stored under one key whenever a page was requested. -/
theorem shows (walk : Walk key cursor pages complete) (ended : complete) {k : κ} (above : Above cursor k)
    {wanted : α → Prop} (keyed : ∀ item, wanted item → key item = k)
    (stayed : ∀ page ∈ pages, ∃ item ∈ page.1, wanted item) : ∃ item ∈ shown pages, wanted item := by
  induction walk with
  | stop => exact ended.elim
  | last covers =>
    obtain ⟨item, stored, found⟩ := stayed _ List.mem_cons_self
    refine ⟨item, ?_, found⟩
    rw [shown_cons, shown, List.flatMap_nil, List.append_nil]
    rw [← keyed item found] at above
    exact (covers.mem item).mpr ⟨stored, above, upTo_none _⟩
  | @more cursor next stored items rest complete covers _ ih =>
    by_cases here : k ≤ next
    · obtain ⟨item, stored, found⟩ := stayed _ List.mem_cons_self
      rw [← keyed item found] at above here
      exact ⟨item, List.mem_append_left _ ((covers.mem item).mpr ⟨stored, above, upTo_some.mpr here⟩), found⟩
    · obtain ⟨item, later, found⟩ := ih ended (above_some.mpr (not_le.mp here)) fun page member =>
        stayed page (List.mem_cons_of_mem _ member)
      exact ⟨item, List.mem_append_right _ later, found⟩

/-- Every page but the last of a complete walk shows something. -/
theorem length_le (walk : Walk key cursor pages complete) : pages.length ≤ (shown pages).length + 1 := by
  induction walk with
  | stop => exact Nat.zero_le _
  | last => exact Nat.le_add_left _ _
  | @more _ _ _ items _ _ covers _ ih =>
    obtain ⟨item, member, -⟩ := covers.reached _ rfl
    have some : 0 < items.length := List.length_pos_of_mem member
    rw [shown_cons, List.length_append, List.length_cons]
    show _ ≤ items.length + _ + 1
    omega

theorem length_unfinished (walk : Walk key cursor pages complete) (unfinished : ¬complete) :
    pages.length ≤ (shown pages).length := by
  induction walk with
  | stop => exact Nat.zero_le _
  | last => exact absurd trivial unfinished
  | @more _ _ _ items _ _ covers _ ih =>
    obtain ⟨item, member, -⟩ := covers.reached _ rfl
    have some : 0 < items.length := List.length_pos_of_mem member
    have rest := ih unfinished
    rw [shown_cons, List.length_append, List.length_cons]
    show _ ≤ items.length + _
    omega

theorem stored (walk : Walk key cursor pages complete) {item : α} (member : item ∈ shown pages) :
    ∃ page ∈ pages, item ∈ page.1 := by
  induction walk with
  | stop => cases member
  | last covers =>
    rw [shown_cons, shown, List.flatMap_nil, List.append_nil] at member
    exact ⟨_, List.mem_cons_self, ((covers.mem item).mp member).1⟩
  | more covers _ ih =>
    rcases List.mem_append.mp member with here | later
    · exact ⟨_, List.mem_cons_self, ((covers.mem item).mp here).1⟩
    · obtain ⟨page, requested, listed⟩ := ih later
      exact ⟨page, List.mem_cons_of_mem _ requested, listed⟩

section Unchanging
variable {items : List α} (unchanged : ∀ page ∈ pages, page.1 = {item | item ∈ items})

include unchanged

theorem shown_subset (walk : Walk key cursor pages complete) : shown pages ⊆ items := by
  intro item member
  obtain ⟨page, requested, stored⟩ := walk.stored member
  rw [unchanged page requested] at stored
  exact stored

theorem shown_le (walk : Walk key cursor pages complete) : (shown pages).length ≤ items.length :=
  (List.subperm_of_subset walk.increasing.nodup (walk.shown_subset unchanged)).length_le

/-- A complete walk over unchanging items shows all of them in order. -/
theorem shown_all (sorted : items.Pairwise (Before key)) (walk : Walk key none pages complete) (ended : complete) :
    shown pages = items := by
  refine List.Subset.antisymm_of_pairwise walk.increasing sorted (walk.shown_subset unchanged) fun item member => ?_
  obtain ⟨found, here, rfl⟩ := walk.shows ended (above_none (key item)) (fun other same => congrArg key same)
    fun page requested => ⟨item, by rw [unchanged page requested]; exact member, rfl⟩
  exact here

end Unchanging

end Walk

end Paging
