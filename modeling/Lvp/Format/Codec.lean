import Lvp.Format.Json

/-! Typed values as JSON: how they are written, and a reader that takes back what was written. -/

namespace Json

theorem Fits.mono {v : Json} {depth depth' : Nat} (fits : v.Fits depth) (le : depth ≤ depth') : v.Fits depth' := by
  induction depth generalizing v depth' with
  | zero =>
    cases v with
    | array items => rw [Fits] at fits; exact fits.elim
    | object fields => rw [Fits] at fits; exact fits.elim
    | _ => rw [Fits] at fits ⊢; assumption
  | succ depth ih =>
    cases depth' with
    | zero => cases le
    | succ depth' =>
      have less := Nat.le_of_succ_le_succ le
      cases v with
      | array items => rw [Fits] at fits ⊢; exact fun item member => ih (fits item member) less
      | object fields => rw [Fits] at fits ⊢; exact fun field member => ih (fits field member) less
      | _ => rw [Fits] at fits ⊢; assumption

/-- The values of an object that has just these fields, in this order. -/
def entries (names : List String) : Json → Option (List Json)
  | .object fields => if fields.map (·.1) = names then some (fields.map (·.2)) else none
  | _ => none

theorem entries_object (fields : List (String × Json)) :
    entries (fields.map (·.1)) (.object fields) = some (fields.map (·.2)) :=
  if_pos rfl

/-- How values of a type are written and read, with at most `depth` brackets around anything. -/
structure Codec (depth : Nat) (α : Type) where
  write : α → Json
  read : Json → Option α
  read_write : ∀ value, read (write value) = some value
  fits : ∀ value, (write value).Fits depth

namespace Codec

variable {depth : Nat} {α : Type}

def text : Codec 0 String where
  write := .string
  read
    | .string text => some text
    | _ => none
  read_write _ := rfl
  fits _ := by rw [Fits]; trivial

def flag : Codec 0 Bool where
  write := .bool
  read
    | .bool value => some value
    | _ => none
  read_write _ := rfl
  fits _ := by rw [Fits]; trivial

def word : Codec 0 UInt64 where
  write value := .number value.toNat
  read
    | .number value => if value < UInt64.size then some (.ofNat value) else none
    | _ => none
  read_write value := by simp [value.toNat_lt_size]
  fits value := by rw [Fits]; exact value.toNat_lt_size

/-- Nothing is `null`, which no value of the type may be. -/
def option (codec : Codec depth α) (solid : ∀ value, codec.write value ≠ .null) : Codec depth (Option α) where
  write
    | some value => codec.write value
    | none => .null
  read
    | .null => some none
    | json => (codec.read json).map some
  read_write value := by
    cases value with
    | none => rfl
    | some value =>
      show (match codec.write value with | .null => some none | json => (codec.read json).map some) = _
      split
      · next null => exact absurd null (solid value)
      · rw [codec.read_write]
        rfl
  fits value := by
    cases value with
    | none => rw [Fits]; trivial
    | some value => exact codec.fits value

theorem option_read_some (codec : Codec depth α) (solid : ∀ value, codec.write value ≠ .null)
    (null : codec.read .null = none) {json : Json} {value : α} :
    (codec.option solid).read json = some (some value) ↔ codec.read json = some value := by
  show (match json with | .null => some none | json => (codec.read json).map some) = _ ↔ _
  split
  · simp [null]
  · simp

def list (codec : Codec depth α) : Codec (depth + 1) (List α) where
  write values := .array (values.map codec.write)
  read
    | .array items => items.mapM codec.read
    | _ => none
  read_write values := by
    induction values with
    | nil => rfl
    | cons value values ih => simp_all [List.mapM_cons, codec.read_write]
  fits values := by
    rw [Fits]
    intro item member
    obtain ⟨value, -, rfl⟩ := List.mem_map.mp member
    exact codec.fits value

/-- An enumeration whose variants hold no data. -/
def variant (all : List α) (spell : α → String) (apart : ∀ value, all.find? (spell · = spell value) = some value) :
    Codec 0 α where
  write value := .string (spell value)
  read
    | .string name => all.find? (spell · = name)
    | _ => none
  read_write value := apart value
  fits _ := by rw [Fits]; trivial

end Codec

end Json
