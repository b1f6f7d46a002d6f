import Lvp.Paging
import Lvp.Server

/-!
Walks of ListVolumes. Each request of a walk may find another store, with other volumes in it, and asks for
entries from the token that the last one returned.
-/

namespace Lvp
open Unix Effect Csi Paging

variable {store : Store} {token : String} {volumes : List Volume} {response : ListVolumesResponse}

structure PageRequest where
  maxEntries : Int32
  oracle : Oracle Call Fault
  world : World

def listPage (page : PageRequest) (token : String) : Except Status ListVolumesResponse :=
  ((listVolumes ⟨page.maxEntries, token⟩).run (World.exec "") page.oracle page.world).1

inductive Ending where
  | unfinished
  | complete
  | failed (status : Status)
  deriving DecidableEq

/-- Asks for pages until a token comes back empty or a call fails. -/
def walk (token : String) : List PageRequest → List ListVolumesResponse × Ending
  | [] => ([], .unfinished)
  | page :: rest =>
    match listPage page token with
    | .error status => ([], .failed status)
    | .ok response =>
      if response.nextToken = "" then ([response], .complete)
      else
        let later := walk response.nextToken rest
        (response :: later.1, later.2)

def entryOf (volume : Volume) : Entry := ⟨rawVolume volume, volumeStatus volume⟩

def volumeIds (answers : List ListVolumesResponse) : List String :=
  answers.flatMap fun answer => answer.entries.map (·.volume.volumeId)

/-- Stored names are distinct and not empty. -/
structure ProperNames (store : Store) : Prop where
  distinct : ((listed store).map (·.name)).Nodup
  nonempty : ∀ volume ∈ listed store, volume.name ≠ ""

def sortedByName (volumes : List Volume) : List Volume := volumes.insertionSort (·.name ≤ ·.name)

def cursor (token : String) : Option String := if token = "" then none else some token

/-! ### One page -/

theorem above_cursor {name : String} : Above (cursor token) name ↔ ¬(token ≠ "" ∧ name ≤ token) := by
  unfold cursor
  by_cases empty : token = ""
  · simp [empty]
  · simp [empty]

theorem sortedByName_before (named : ProperNames store) :
    (sortedByName (listed store)).Pairwise (Before (·.name)) := by
  have total : Std.Total fun a b : Volume => a.name ≤ b.name := ⟨fun a b => le_total a.name b.name⟩
  have trans : IsTrans Volume fun a b => a.name ≤ b.name := ⟨fun _ _ _ => le_trans⟩
  have ordered : (sortedByName (listed store)).Pairwise fun a b => a.name ≤ b.name :=
    List.pairwise_insertionSort _ _
  have permuted : (sortedByName (listed store)).Perm (listed store) := List.perm_insertionSort _ _
  have distinct : (sortedByName (listed store)).Pairwise fun a b => a.name ≠ b.name :=
    List.pairwise_map.mp ((permuted.map _).nodup_iff.mpr named.distinct)
  exact (ordered.and distinct).imp fun both => lt_of_le_of_ne both.1 both.2

/-- The loop takes the first volumes above the token, as many as there is room for. -/
theorem listEntries_splits (request : ListVolumesRequest) (volumes : List Volume) {entries : List Entry}
    (room : 0 < request.maxEntries → entries.length < request.maxEntries.toInt.toNat) :
    ∃ items rest, volumes.filter (fun volume => Above (cursor request.startingToken) volume.name) = items ++ rest ∧
      (listEntries request entries volumes).entries = entries ++ items.map entryOf ∧
      ((listEntries request entries volumes).nextToken = "" ∧ rest = [] ∨
        ∃ last, items.getLast? = some last ∧ (listEntries request entries volumes).nextToken = last.name) ∧
      (0 < request.maxEntries → (entries ++ items.map entryOf).length ≤ request.maxEntries.toInt.toNat) := by
  induction volumes generalizing entries with
  | nil => exact ⟨[], [], rfl, by simp [listEntries], .inl ⟨rfl, rfl⟩, fun limited => by simpa using (room limited).le⟩
  | cons volume rest ih =>
    by_cases skipped : request.startingToken ≠ "" ∧ volume.name ≤ request.startingToken
    · have below : ¬Above (cursor request.startingToken) volume.name := fun above => above_cursor.mp above skipped
      rw [listEntries, if_pos skipped, List.filter_cons_of_neg (by simpa using below)]
      exact ih room
    · have above : Above (cursor request.startingToken) volume.name := above_cursor.mpr skipped
      rw [listEntries, if_neg skipped, List.filter_cons_of_pos (by simpa using above)]
      have pushed : (entries ++ [entryOf volume]).length = entries.length + 1 := by simp
      by_cases full : 0 < request.maxEntries ∧
          request.maxEntries.toInt.toNat ≤ (entries ++ [entryOf volume]).length
      · refine ⟨[volume], _, rfl, ?_, .inr ⟨volume, rfl, ?_⟩, fun limited => ?_⟩
        · exact congrArg ListVolumesResponse.entries (if_pos full)
        · exact congrArg ListVolumesResponse.nextToken (if_pos full)
        · have := room limited
          rw [List.map_singleton, pushed]
          omega
      · have further : 0 < request.maxEntries →
            (entries ++ [entryOf volume]).length < request.maxEntries.toInt.toNat :=
          fun limited => not_le.mp fun reached => full ⟨limited, reached⟩
        obtain ⟨items, left, split, shown, ends, bounded⟩ := ih further
        have continued : (let pushed := entries ++ [⟨rawVolume volume, volumeStatus volume⟩]
            if 0 < request.maxEntries ∧ request.maxEntries.toInt.toNat ≤ pushed.length then
              (⟨pushed, volume.name⟩ : ListVolumesResponse)
            else listEntries request pushed rest) = listEntries request (entries ++ [entryOf volume]) rest :=
          if_neg full
        rw [continued, split, shown]
        refine ⟨volume :: items, left, rfl, by simp, ?_, fun limited => ?_⟩
        · refine ends.imp id fun ⟨last, found, next⟩ => ⟨last, ?_, next⟩
          rw [List.getLast?_cons, found]
          rfl
        · have := bounded limited
          simpa using this

/-- The answer of a page, by the fate of its call. -/
theorem listPage_eq (page : PageRequest) (token : String) : listPage page token =
    match page.oracle 0 .list with
    | .none => if token ≠ "" ∧ ∀ volume ∈ sortedByName (listed page.world.store), volume.name ≠ token then
          .error (.aborted "invalid starting_token")
        else .ok (listEntries ⟨page.maxEntries, token⟩ [] (sortedByName (listed page.world.store)))
    | _ => .error (.internal "failed to list volumes") := by
  simp only [listPage, listVolumes, Volume.list, issue, Program.mapErr, Program.call_bind, Program.run]
  cases page.oracle 0 .list with
  | fails => rfl
  | lost => rfl
  | none =>
    by_cases unknown : token ≠ "" ∧ ∀ volume ∈ sortedByName (listed page.world.store), volume.name ≠ token
    · rw [if_pos unknown]
      exact congrArg (fun answer => (Program.run _ (answer >>= _) _ _).1) (if_pos unknown)
    · rw [if_neg unknown]
      exact congrArg (fun answer => (Program.run _ (answer >>= _) _ _).1) (if_neg unknown)

theorem listPage_ok {page : PageRequest} (answered : listPage page token = .ok response) :
    response = listEntries ⟨page.maxEntries, token⟩ [] (sortedByName (listed page.world.store)) := by
  rw [listPage_eq] at answered
  split at answered
  · split_ifs at answered
    exact (Except.ok.inj answered).symm
  · cases answered

/-- What one page shows, and where it ends. -/
theorem listPage_covers {page : PageRequest} (named : ProperNames page.world.store)
    (answered : listPage page token = .ok response) :
    ∃ items, response.entries = items.map entryOf ∧
      Covers (·.name) (cursor token) (cursor response.nextToken) {volume | volume ∈ listed page.world.store} items ∧
      (0 < page.maxEntries → response.entries.length ≤ page.maxEntries.toInt.toNat) := by
  have room : 0 < page.maxEntries → ([] : List Entry).length < page.maxEntries.toInt.toNat := by
    intro limited
    have positive := Int32.lt_iff_toInt_lt.mp limited
    have zero : (0 : Int32).toInt = 0 := rfl
    rw [List.length_nil]
    omega
  obtain ⟨items, rest, split, shown, ends, bounded⟩ :=
    listEntries_splits ⟨page.maxEntries, token⟩ (sortedByName (listed page.world.store)) room
  rw [← listPage_ok answered] at shown ends
  rw [List.nil_append] at shown bounded
  have same : {volume | volume ∈ listed page.world.store} =
      {volume | volume ∈ sortedByName (listed page.world.store)} :=
    Set.ext fun volume => (List.mem_insertionSort _).symm
  refine ⟨items, shown, ?_, fun limited => shown ▸ bounded limited⟩
  rw [same]
  apply covers_of_split (sortedByName_before named) split
  refine ends.imp (And.imp_left fun ended => if_pos ended) fun ⟨last, found, next⟩ => ⟨last, found, ?_⟩
  rw [next]
  have listed : last ∈ items ++ rest := List.mem_append_left _ (List.mem_of_getLast? found)
  rw [← split] at listed
  exact if_neg (named.nonempty last ((List.mem_insertionSort _).mp (List.mem_filter.mp listed).1))

/-! ### Walks -/

variable {pages : List PageRequest}

theorem cursor_nonempty (given : token ≠ "") : cursor token = some token := if_neg given

/-- The walk as one over the stored volumes. -/
theorem walk_shows (token : String) (named : ∀ page ∈ pages, ProperNames page.world.store) :
    ∃ shown complete, Paging.Walk (fun volume : Volume => volume.name) (cursor token) shown complete ∧
      (complete ↔ (walk token pages).2 = .complete) ∧
      (walk token pages).1.map (·.entries) = shown.map (fun page => page.2.map entryOf) ∧
      shown.map Prod.fst = (pages.take (walk token pages).1.length).map
        fun page => {volume | volume ∈ listed page.world.store} := by
  induction pages generalizing token with
  | nil => exact ⟨[], False, .stop, by simp [walk], rfl, rfl⟩
  | cons page rest ih =>
    cases answered : listPage page token with
    | error status =>
      exact ⟨[], False, .stop, by simp [walk, answered], by simp [walk, answered], by simp [walk, answered]⟩
    | ok response =>
      obtain ⟨items, entries, covers, -⟩ := listPage_covers (named page List.mem_cons_self) answered
      by_cases ended : response.nextToken = ""
      · have final : cursor response.nextToken = none := if_pos ended
        rw [final] at covers
        refine ⟨[(_, items)], True, .last covers, ?_, ?_, ?_⟩ <;> simp [walk, answered, ended, entries]
      · obtain ⟨shown, complete, walks, ending, answers, stores⟩ :=
          ih response.nextToken fun page member => named page (List.mem_cons_of_mem _ member)
        rw [cursor_nonempty ended] at covers walks
        refine ⟨(_, items) :: shown, complete, .more covers walks, ?_, ?_, ?_⟩
        · simpa [walk, answered, ended] using ending
        · simpa [walk, answered, ended, entries] using answers
        · simpa [walk, answered, ended] using stores

theorem walk_bounded (token : String) (named : ∀ page ∈ pages, ProperNames page.world.store) :
    ∀ visited ∈ pages.zip (walk token pages).1, 0 < visited.1.maxEntries →
      visited.2.entries.length ≤ visited.1.maxEntries.toInt.toNat := by
  induction pages generalizing token with
  | nil => exact fun visited member => nomatch member
  | cons page rest ih =>
    cases answered : listPage page token with
    | error status => simp [walk, answered]
    | ok response =>
      obtain ⟨items, -, -, bounded⟩ := listPage_covers (named page List.mem_cons_self) answered
      have later (token : String) := ih token fun page member => named page (List.mem_cons_of_mem _ member)
      intro visited member
      by_cases ended : response.nextToken = ""
      · simp only [walk, answered, if_pos ended, List.zip_cons_cons, List.mem_cons, List.zip_nil_right,
          List.not_mem_nil, or_false] at member
        rw [member]
        exact bounded
      · simp only [walk, answered, if_neg ended, List.zip_cons_cons, List.mem_cons] at member
        rcases member with rfl | member
        · exact bounded
        · exact later _ visited member

/-- On an unchanging store every token is the name of a stored volume, and no page is refused. -/
theorem walk_unchanging (token : String) (named : ProperNames store)
    (unchanging : ∀ page ∈ pages, page.world.store = store ∧ ∀ n call, page.oracle n call = .none)
    (known : token = "" ∨ ∃ volume ∈ listed store, volume.name = token) :
    (∀ status, (walk token pages).2 ≠ .failed status) ∧
      ((walk token pages).2 = .unfinished → (walk token pages).1.length = pages.length) := by
  induction pages generalizing token with
  | nil => exact ⟨fun status failed => (nomatch failed), fun _ => rfl⟩
  | cons page rest ih =>
    obtain ⟨same, healthy⟩ := unchanging page List.mem_cons_self
    have accepted : ¬(token ≠ "" ∧ ∀ volume ∈ sortedByName (listed page.world.store), volume.name ≠ token) := by
      rintro ⟨some, absent⟩
      obtain ⟨volume, stored, rfl⟩ := known.resolve_left some
      rw [← same] at stored
      exact absent volume ((List.mem_insertionSort _).mpr stored) rfl
    have answered := listPage_eq page token
    simp only [healthy, if_neg accepted] at answered
    generalize listEntries ⟨page.maxEntries, token⟩ [] (sortedByName (listed page.world.store)) =
      response at answered
    by_cases ended : response.nextToken = ""
    · simp [walk, answered, ended]
    · obtain ⟨items, -, covers, -⟩ := listPage_covers (same ▸ named) answered
      obtain ⟨volume, member, next⟩ := covers.reached response.nextToken (if_neg ended)
      have stored := ((covers.mem volume).mp member).1
      rw [same] at stored
      obtain ⟨fine, all⟩ := ih response.nextToken
        (fun page member => unchanging page (List.mem_cons_of_mem _ member)) (.inr ⟨volume, stored, next⟩)
      simp only [walk, answered, if_neg ended]
      exact ⟨fine, fun unfinished => congrArg (· + 1) (all unfinished)⟩

/-- Pages keep to the requested size, ids only grow, what is stored all along is listed once, and an unchanging
store is listed completely within one page more than it has volumes. -/
theorem pagination (pages : List PageRequest) (named : ∀ page ∈ pages, ProperNames page.world.store) :
    (∀ visited ∈ pages.zip (walk "" pages).1, 0 < visited.1.maxEntries →
      visited.2.entries.length ≤ visited.1.maxEntries.toInt.toNat) ∧
    (volumeIds (walk "" pages).1).Pairwise (· < ·) ∧
    ((walk "" pages).2 = .complete → ∀ name, (∀ page ∈ pages.take (walk "" pages).1.length,
      ∃ volume ∈ listed page.world.store, volume.name = name) → (volumeIds (walk "" pages).1).count name = 1) ∧
    ∀ store, (∀ page ∈ pages, page.world.store = store ∧ ∀ n call, page.oracle n call = .none) →
      (∀ status, (walk "" pages).2 ≠ .failed status) ∧
      (walk "" pages).1.length ≤ (listed store).length + 1 ∧
      ((listed store).length + 1 ≤ pages.length → (walk "" pages).2 = .complete) ∧
      ((walk "" pages).2 = .complete →
        ((walk "" pages).1.flatMap (·.entries)) = (sortedByName (listed store)).map entryOf) := by
  obtain ⟨shown, complete, walks, ending, answers, stores⟩ := walk_shows "" named
  have entries : (walk "" pages).1.flatMap (·.entries) = (Walk.shown shown).map entryOf := by
    rw [List.flatMap_def, answers, Walk.shown, List.map_flatMap, List.flatMap_def]
  have ids : volumeIds (walk "" pages).1 = (Walk.shown shown).map (·.name) := by
    have spelled : volumeIds (walk "" pages).1 = ((walk "" pages).1.flatMap (·.entries)).map (·.volume.volumeId) :=
      List.map_flatMap.symm
    rw [spelled, entries, List.map_map]
    rfl
  have increasing : (volumeIds (walk "" pages).1).Pairwise (· < ·) := by
    rw [ids]
    exact List.pairwise_map.mpr walks.increasing
  have length : (walk "" pages).1.length = shown.length := by
    simpa using congrArg List.length answers
  have requested (page : Set Volume × List Volume) (member : page ∈ shown) :
      ∃ asked ∈ pages.take (walk "" pages).1.length, page.1 = {volume | volume ∈ listed asked.world.store} := by
    have stored : page.1 ∈ shown.map Prod.fst := List.mem_map_of_mem member
    rw [stores] at stored
    obtain ⟨asked, found, same⟩ := List.mem_map.mp stored
    exact ⟨asked, found, same.symm⟩
  refine ⟨walk_bounded "" named, increasing, fun ended name stayed => ?_, fun store unchanging => ?_⟩
  · have distinct : (volumeIds (walk "" pages).1).Nodup := increasing.imp fun less => less.ne
    apply List.count_eq_one_of_mem distinct
    have listed (page : Set Volume × List Volume) (member : page ∈ shown) :
        ∃ volume ∈ page.1, volume.name = name := by
      obtain ⟨asked, found, same⟩ := requested page member
      rw [same]
      exact stayed asked found
    obtain ⟨volume, member, rfl⟩ := walks.shows (ending.mpr ended) (above_none name) (fun _ same => same) listed
    rw [ids]
    exact List.mem_map_of_mem member
  · cases pages with
    | nil => simp [walk]
    | cons page rest =>
      have stored := named page List.mem_cons_self
      rw [(unchanging page List.mem_cons_self).1] at stored
      obtain ⟨fine, all⟩ := walk_unchanging "" stored unchanging (.inl rfl)
      have unchanged : ∀ page ∈ shown, page.1 = {volume | volume ∈ sortedByName (listed store)} := by
        intro page member
        obtain ⟨asked, found, same⟩ := requested page member
        rw [same, (unchanging asked (List.mem_of_mem_take found)).1]
        exact Set.ext fun volume => (List.mem_insertionSort _).symm
      have count : (sortedByName (listed store)).length = (listed store).length := List.length_insertionSort _ _
      have few := walks.shown_le unchanged
      refine ⟨fine, ?_, fun enough => ?_, fun ended => ?_⟩
      · have := walks.length_le
        omega
      · cases ends : (walk "" (page :: rest)).2 with
        | complete => rfl
        | failed status => exact absurd ends (fine status)
        | unfinished =>
          have reached := all ends
          rw [ends] at ending
          have := walks.length_unfinished fun done => by cases ending.mp done
          omega
      · rw [entries, walks.shown_all unchanged (sortedByName_before stored) (ending.mpr ended)]

namespace Sample

def pair : World := serveAll config {} [(create "b" "/pv2/" "ext4" 7, healthy),
    (create "a" "/pv2/" "bind" 7, healthy)]

/-- Three pages of one entry each. -/
def threePages : List PageRequest := List.replicate 3 ⟨1, healthy, pair⟩

theorem threePages_named : ∀ page ∈ threePages, ProperNames page.world.store := by
  intro page member
  rw [List.eq_of_mem_replicate member]
  exact ⟨by decide +kernel, by decide +kernel⟩

end Sample

theorem pagination_pair : (walk "" Sample.threePages).2 = .complete ∧
    (walk "" Sample.threePages).1.flatMap (·.entries) = (sortedByName (listed Sample.pair.store)).map entryOf := by
  obtain ⟨-, -, -, unchanging⟩ := pagination Sample.threePages Sample.threePages_named
  obtain ⟨-, -, ends, complete⟩ := unchanging Sample.pair.store fun page member => by
    rw [List.eq_of_mem_replicate member]
    exact ⟨rfl, fun _ _ => rfl⟩
  have ended := ends (by decide +kernel)
  exact ⟨ended, complete ended⟩

end Lvp
