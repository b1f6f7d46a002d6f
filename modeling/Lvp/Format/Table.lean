import Mathlib.Data.List.AList

/-!
The part of a table whose entries can be read, with what they read as. Insertion and removal of readable
entries carry over to it.
-/

namespace List

variable {κ : Type} [DecidableEq κ] {β γ : κ → Type} {f : (key : κ) → β key → Option (γ key)}

def selectEntry (f : (key : κ) → β key → Option (γ key)) (entry : Sigma β) : Option (Sigma γ) :=
  (f entry.1 entry.2).map (Sigma.mk entry.1)

omit [DecidableEq κ] in
theorem selectEntry_eq {entry : Sigma β} {read : Sigma γ} (reads : selectEntry f entry = some read) :
    read.1 = entry.1 := by
  obtain ⟨value, -, rfl⟩ := Option.map_eq_some_iff.mp reads
  rfl

omit [DecidableEq κ] in
theorem mem_keys_select {entries : List (Sigma β)} {key : κ}
    (member : key ∈ (entries.filterMap (selectEntry f)).keys) :
    key ∈ entries.keys := by
  obtain ⟨value, found⟩ := List.mem_keys.mp member
  obtain ⟨entry, there, reads⟩ := List.mem_filterMap.mp found
  have same : key = entry.1 := selectEntry_eq reads
  rw [same]
  exact List.mem_keys_of_mem there

omit [DecidableEq κ] in
theorem NodupKeys.select {entries : List (Sigma β)} (nodup : entries.NodupKeys) :
    (entries.filterMap (selectEntry f)).NodupKeys := by
  rw [List.nodupKeys_iff_pairwise] at nodup ⊢
  refine nodup.filterMap _ fun a b apart a' readA b' readB => ?_
  rw [selectEntry_eq readA, selectEntry_eq readB]
  exact apart

theorem kerase_select {entries : List (Sigma β)} (nodup : entries.NodupKeys) (key : κ) :
    (kerase key entries).filterMap (selectEntry f) = kerase key (entries.filterMap (selectEntry f)) := by
  induction entries with
  | nil => rfl
  | cons entry rest ih =>
    obtain ⟨fresh, nodup⟩ := List.nodupKeys_cons.mp nodup
    by_cases own : key = entry.1
    · rw [kerase_cons_eq own]
      cases reads : selectEntry f entry with
      | none =>
        rw [List.filterMap_cons_none reads, kerase_of_notMem_keys]
        exact fun member => fresh (own ▸ mem_keys_select member)
      | some read =>
        rw [List.filterMap_cons_some reads, kerase_cons_eq]
        exact own.trans (selectEntry_eq reads).symm
    · rw [kerase_cons_ne own]
      cases reads : selectEntry f entry with
      | none => rw [List.filterMap_cons_none reads, List.filterMap_cons_none reads, ih nodup]
      | some read =>
        rw [List.filterMap_cons_some reads, List.filterMap_cons_some reads, kerase_cons_ne, ih nodup]
        exact fun same => own (same.trans (selectEntry_eq reads))

end List

namespace AList

variable {κ : Type} [DecidableEq κ] {β γ : κ → Type} {f : (key : κ) → β key → Option (γ key)}

/-- The entries `f` can read, in the same order. -/
def select (f : (key : κ) → β key → Option (γ key)) (table : AList β) : AList γ :=
  ⟨table.entries.filterMap (List.selectEntry f), table.nodupKeys.select⟩

theorem lookup_select (table : AList β) (key : κ) :
    (table.select f).lookup key = (table.lookup key).bind (f key) := by
  ext value
  rw [Option.bind_eq_some_iff, ← Option.mem_def, AList.mem_lookup_iff]
  constructor
  · intro member
    obtain ⟨⟨other, raw⟩, there, reads⟩ := List.mem_filterMap.mp member
    obtain ⟨read, made, same⟩ := Option.map_eq_some_iff.mp reads
    cases same
    exact ⟨raw, AList.mem_lookup_iff.mpr there, made⟩
  · rintro ⟨raw, found, reads⟩
    exact List.mem_filterMap.mpr ⟨⟨key, raw⟩, AList.mem_lookup_iff.mp found, by simp [List.selectEntry, reads]⟩

theorem mem_select {table : AList β} {key : κ} :
    key ∈ table.select f ↔ ∃ raw, table.lookup key = some raw ∧ (f key raw).isSome := by
  rw [← AList.lookup_isSome, lookup_select]
  cases table.lookup key <;> simp

theorem select_erase (table : AList β) (key : κ) : (table.erase key).select f = (table.select f).erase key :=
  AList.ext (List.kerase_select table.nodupKeys key)

theorem select_insert (table : AList β) {key : κ} {raw : β key} {value : γ key} (reads : f key raw = some value) :
    (table.insert key raw).select f = (table.select f).insert key value := by
  apply AList.ext
  show (⟨key, raw⟩ :: List.kerase key table.entries).filterMap (List.selectEntry f) =
      ⟨key, value⟩ :: List.kerase key _
  have selected : List.selectEntry f ⟨key, raw⟩ = some ⟨key, value⟩ := by simp [List.selectEntry, reads]
  rw [List.filterMap_cons_some selected, List.kerase_select table.nodupKeys]
  rfl

end AList
