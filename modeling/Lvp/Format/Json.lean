import Mathlib.Data.List.Basic

/-!
JSON values and their compact text: the writer, a reader that takes blanks, every escape of a character and
every number of the grammar, and the round trip between them. A number that is no natural stays a literal.
-/

inductive Json where
  | null
  | bool (value : Bool)
  | number (value : Nat)
  | decimal (literal : String)
  | string (text : String)
  | array (items : List Json)
  | object (fields : List (String × Json))

namespace Json

/-! ### Writing -/

/-- Only quotes, backslashes and control characters are escaped. -/
def escape (c : Char) : List Char :=
  if c = '"' then ['\\', '"']
  else if c = '\\' then ['\\', '\\']
  else if c = '\x08' then ['\\', 'b']
  else if c = '\x0c' then ['\\', 'f']
  else if c = '\n' then ['\\', 'n']
  else if c = '\r' then ['\\', 'r']
  else if c = '\t' then ['\\', 't']
  else if c.toNat < 32 then ['\\', 'u', '0', '0', Nat.digitChar (c.toNat / 16), Nat.digitChar (c.toNat % 16)]
  else [c]

/-- A string with its closing quote. -/
def quoted (text : List Char) : List Char := text.flatMap escape ++ ['"']

mutual

def chars : Json → List Char
  | .null => ['n', 'u', 'l', 'l']
  | .bool true => ['t', 'r', 'u', 'e']
  | .bool false => ['f', 'a', 'l', 's', 'e']
  | .number value => Nat.toDigits 10 value
  | .decimal literal => literal.toList
  | .string text => '"' :: quoted text.toList
  | .array items => '[' :: itemsChars items
  | .object fields => '\x7b' :: fieldsChars fields

def itemsChars : List Json → List Char
  | [] => [']']
  | [item] => item.chars ++ [']']
  | item :: next :: rest => item.chars ++ ',' :: itemsChars (next :: rest)

def fieldsChars : List (String × Json) → List Char
  | [] => ['\x7d']
  | [(key, value)] => '"' :: quoted key.toList ++ ':' :: value.chars ++ ['\x7d']
  | (key, value) :: next :: rest => '"' :: quoted key.toList ++ ':' :: value.chars ++ ',' :: fieldsChars (next :: rest)

end

/-! ### Reading -/

def blank (c : Char) : Bool := c = ' ' || c = '\t' || c = '\n' || c = '\r'

def skip (text : List Char) : List Char := text.dropWhile blank

def hexValue (c : Char) : Option Nat :=
  if '0' ≤ c ∧ c ≤ '9' then some (c.toNat - 48)
  else if 'a' ≤ c ∧ c ≤ 'f' then some (c.toNat - 87)
  else if 'A' ≤ c ∧ c ≤ 'F' then some (c.toNat - 55)
  else none

/-- The code unit of a `\u` escape. -/
def codeUnit (a b c d : Char) : Option Nat :=
  match hexValue a, hexValue b, hexValue c, hexValue d with
  | some a, some b, some c, some d => some (((a * 16 + b) * 16 + c) * 16 + d)
  | _, _, _, _ => none

def shortEscape : Char → Option Char
  | '"' => some '"'
  | '\\' => some '\\'
  | '/' => some '/'
  | 'b' => some '\x08'
  | 'f' => some '\x0c'
  | 'n' => some '\n'
  | 'r' => some '\r'
  | 't' => some '\t'
  | _ => none

/-- A character in front of what is read after it. -/
def before (c : Char) : Option (List Char × List Char) → Option (List Char × List Char) :=
  Option.map fun found => (c :: found.1, found.2)

/-- A string after its opening quote. A lone surrogate is an error, and so is a bare control character. -/
def stringBody : List Char → Option (List Char × List Char)
  | '"' :: rest => some ([], rest)
  | '\\' :: 'u' :: a :: b :: c :: d :: rest =>
    match codeUnit a b c d with
    | none => none
    | some unit =>
      if unit < 0xd800 ∨ 0xe000 ≤ unit then before (Char.ofNat unit) (stringBody rest)
      else match rest with
        | '\\' :: 'u' :: e :: f :: g :: h :: rest =>
          match codeUnit e f g h with
          | none => none
          | some low =>
            if unit < 0xdc00 ∧ 0xdc00 ≤ low ∧ low < 0xe000 then
              before (Char.ofNat (0x10000 + (unit - 0xd800) * 0x400 + (low - 0xdc00))) (stringBody rest)
            else none
        | _ => none
  | '\\' :: e :: rest =>
    match shortEscape e with
    | none => none
    | some c => before c (stringBody rest)
  | c :: rest => if c.toNat < 32 then none else before c (stringBody rest)
  | [] => none

/-- Decimal digits, without a leading zero. -/
def natural (text : List Char) : Option (Nat × List Char) :=
  let digits := text.takeWhile Char.isDigit
  if digits = [] ∨ (digits.head? = some '0' ∧ digits.length ≠ 1) then none
  else some (Nat.ofDigitChars 10 digits 0, text.dropWhile Char.isDigit)

def fraction : List Char → Option (List Char × List Char)
  | '.' :: rest =>
    let digits := rest.takeWhile Char.isDigit
    if digits = [] then none else some ('.' :: digits, rest.dropWhile Char.isDigit)
  | rest => some ([], rest)

def signed : List Char → List Char × List Char
  | '+' :: rest => (['+'], rest)
  | '-' :: rest => (['-'], rest)
  | rest => ([], rest)

def exponent : List Char → Option (List Char × List Char)
  | c :: rest =>
    if c = 'e' ∨ c = 'E' then
      let digits := (signed rest).2.takeWhile Char.isDigit
      if digits = [] then none else some (c :: (signed rest).1 ++ digits, (signed rest).2.dropWhile Char.isDigit)
    else some ([], c :: rest)
  | [] => some ([], [])

/-- The parts behind the integer part of a number with the sign `sign`. -/
def numeralTail (sign : List Char) (whole : Nat) (text : List Char) : Option (Json × List Char) := do
  let (decimals, text) ← fraction text
  let (power, rest) ← exponent text
  if sign = [] ∧ decimals = [] ∧ power = [] then some (.number whole, rest)
  else some (.decimal (String.ofList (sign ++ Nat.toDigits 10 whole ++ decimals ++ power)), rest)

def numeral : List Char → Option (Json × List Char)
  | '-' :: text => (natural text).bind fun found => numeralTail ['-'] found.1 found.2
  | text => (natural text).bind fun found => numeralTail [] found.1 found.2

mutual

/-- One value at the start of a text, and what follows it. The fuel bounds the tokens read. -/
def value : Nat → List Char → Option (Json × List Char)
  | 0, _ => none
  | fuel + 1, text =>
    match skip text with
    | 'n' :: 'u' :: 'l' :: 'l' :: rest => some (.null, rest)
    | 't' :: 'r' :: 'u' :: 'e' :: rest => some (.bool true, rest)
    | 'f' :: 'a' :: 'l' :: 's' :: 'e' :: rest => some (.bool false, rest)
    | '"' :: rest => (stringBody rest).map fun found => (.string (String.ofList found.1), found.2)
    | '[' :: rest =>
      match skip rest with
      | ']' :: rest => some (.array [], rest)
      | rest => (items fuel rest).map fun found => (.array found.1, found.2)
    | '\x7b' :: rest =>
      match skip rest with
      | '\x7d' :: rest => some (.object [], rest)
      | rest => (fields fuel rest).map fun found => (.object found.1, found.2)
    | text => numeral text

/-- The values of an array that is not empty, after its opening bracket. -/
def items : Nat → List Char → Option (List Json × List Char)
  | 0, _ => none
  | fuel + 1, text =>
    match value fuel text with
    | none => none
    | some (item, rest) =>
      match skip rest with
      | ']' :: rest => some ([item], rest)
      | ',' :: rest => (items fuel rest).map fun found => (item :: found.1, found.2)
      | _ => none

/-- The fields of an object that is not empty, after its opening brace. -/
def fields : Nat → List Char → Option (List (String × Json) × List Char)
  | 0, _ => none
  | fuel + 1, text =>
    match skip text with
    | '"' :: rest =>
      match stringBody rest with
      | none => none
      | some (key, rest) =>
        match skip rest with
        | ':' :: rest =>
          match value fuel rest with
          | none => none
          | some (value, rest) =>
            match skip rest with
            | '\x7d' :: rest => some ([(String.ofList key, value)], rest)
            | ',' :: rest => (fields fuel rest).map fun found => ((String.ofList key, value) :: found.1, found.2)
            | _ => none
        | _ => none
    | _ => none

end

/-- The value of a whole text: blanks may follow it, and nothing else. -/
def parse (text : String) : Option Json :=
  match value (text.length + 1) text.toList with
  | some (value, rest) => if skip rest = [] then some value else none
  | none => none

def print (value : Json) : String := String.ofList value.chars

/-- No deeper than `depth`, and with numbers that fit 64 bits only. -/
def Fits : Nat → Json → Prop
  | _, .null | _, .bool _ | _, .string _ => True
  | _, .number value => value < UInt64.size
  | _, .decimal _ => False
  | 0, .array _ | 0, .object _ => False
  | depth + 1, .array items => ∀ item ∈ items, Fits depth item
  | depth + 1, .object fields => ∀ field ∈ fields, Fits depth field.2

/-! ### Numbers -/

/-- What follows a number does not go on with it. -/
def Closes (rest : List Char) : Prop :=
  ∀ c ∈ rest.head?, c.isDigit = false ∧ c ≠ '.' ∧ c ≠ 'e' ∧ c ≠ 'E'

theorem closes_nil : Closes [] := nofun

theorem closes_cons {c : Char} {rest : List Char} (other : c.isDigit = false ∧ c ≠ '.' ∧ c ≠ 'e' ∧ c ≠ 'E') :
    Closes (c :: rest) := by
  rintro _ ⟨⟩
  exact other

/-- Only zero starts with a zero. -/
theorem head_toDigits {n : Nat} (zero : (Nat.toDigits 10 n).head? = some '0') : n = 0 := by
  induction n using Nat.strongRecOn with
  | ind n ih =>
    by_cases small : n < 10
    · rw [Nat.toDigits_of_lt_base small, List.head?_cons] at zero
      have digit : ∀ d < 10, Nat.digitChar d = '0' → d = 0 := by decide
      exact digit n small (Option.some.inj zero)
    · rw [Nat.toDigits_of_base_le (by decide) (Nat.not_lt.mp small),
        List.head?_append_of_ne_nil _ Nat.toDigits_ne_nil] at zero
      have quotient := ih (n / 10) (by omega) zero
      omega

theorem natural_toDigits (n : Nat) {rest : List Char} (closes : Closes rest) :
    natural (Nat.toDigits 10 n ++ rest) = some (n, rest) := by
  have digits : ∀ c ∈ Nat.toDigits 10 n, c.isDigit = true := fun c member =>
    Nat.isDigit_of_mem_toDigits (by decide) (by decide) member
  have ends : rest.takeWhile Char.isDigit = [] ∧ rest.dropWhile Char.isDigit = rest := by
    cases rest with
    | nil => exact ⟨rfl, rfl⟩
    | cons c rest => simp [(closes c rfl).1]
  have taken : (Nat.toDigits 10 n ++ rest).takeWhile Char.isDigit = Nat.toDigits 10 n := by
    rw [List.takeWhile_append_of_pos digits, ends.1, List.append_nil]
  have dropped : (Nat.toDigits 10 n ++ rest).dropWhile Char.isDigit = rest := by
    rw [List.dropWhile_append_of_pos digits, ends.2]
  unfold natural
  simp only [taken, dropped, Nat.ofDigitChars_ten_toDigits]
  rw [if_neg]
  rintro (empty | ⟨zero, long⟩)
  · exact Nat.toDigits_ne_nil empty
  · rw [head_toDigits zero] at long
    exact long rfl

theorem toDigits_cons (n : Nat) : ∃ c more, Nat.toDigits 10 n = c :: more ∧ c.isDigit = true := by
  cases digits : Nat.toDigits 10 n with
  | nil => exact absurd digits Nat.toDigits_ne_nil
  | cons c more =>
    have member : c ∈ Nat.toDigits 10 n := digits ▸ List.mem_cons_self
    exact ⟨c, more, rfl, Nat.isDigit_of_mem_toDigits (by decide) (by decide) member⟩

theorem numeralTail_closed (n : Nat) {rest : List Char} (closes : Closes rest) :
    numeralTail [] n rest = some (.number n, rest) := by
  cases rest with
  | nil => rfl
  | cons c rest =>
    obtain ⟨-, point, lower, upper⟩ := closes c rfl
    have whole : fraction (c :: rest) = some ([], c :: rest) := by
      unfold fraction
      split
      · next same => exact absurd (List.cons.inj same).1 point
      · rfl
    have plain : exponent (c :: rest) = some ([], c :: rest) := by
      rw [exponent, if_neg]
      exact not_or.mpr ⟨lower, upper⟩
    simp [numeralTail, whole, plain]

theorem numeral_toDigits (n : Nat) {rest : List Char} (closes : Closes rest) :
    numeral (Nat.toDigits 10 n ++ rest) = some (.number n, rest) := by
  have read := natural_toDigits n closes
  obtain ⟨c, more, digits, digit⟩ := toDigits_cons n
  rw [digits] at read ⊢
  unfold numeral
  split
  · next same =>
    obtain ⟨rfl, -⟩ := List.cons.inj same
    cases digit
  · rw [read]
    exact numeralTail_closed n closes

/-! ### Strings -/

theorem hexValue_digitChar : ∀ d < 16, hexValue (Nat.digitChar d) = some d := by decide

theorem stringBody_escape (c : Char) (rest : List Char) :
    stringBody (escape c ++ rest) = before c (stringBody rest) := by
  unfold escape
  split
  · next same => subst same; rfl
  split
  · next same => subst same; rfl
  split
  · next same => subst same; rfl
  split
  · next same => subst same; rfl
  split
  · next same => subst same; rfl
  split
  · next same => subst same; rfl
  split
  · next same => subst same; rfl
  split
  · next control =>
    have high := hexValue_digitChar (c.toNat / 16) (by omega)
    have low := hexValue_digitChar (c.toNat % 16) (by omega)
    have unit : codeUnit '0' '0' (Nat.digitChar (c.toNat / 16)) (Nat.digitChar (c.toNat % 16)) = some c.toNat := by
      have zero : hexValue '0' = some 0 := rfl
      simp only [codeUnit, zero, high, low]
      congr 1
      omega
    simp only [List.cons_append, List.nil_append, stringBody, unit]
    rw [if_pos (Or.inl (by omega)), Char.ofNat_toNat]
  · next quote backslash _ _ _ _ _ bare =>
    rw [List.singleton_append, stringBody.eq_def]
    split
    · next same => exact absurd (List.cons.inj same).1 quote
    · next same => exact absurd (List.cons.inj same).1 backslash
    · next same => exact absurd (List.cons.inj same).1 backslash
    · next same =>
      obtain ⟨rfl, rfl⟩ := List.cons.inj same
      rw [if_neg bare]
    · next empty => cases empty

theorem stringBody_quoted (text rest : List Char) : stringBody (quoted text ++ rest) = some (text, rest) := by
  induction text with
  | nil => rfl
  | cons c text ih =>
    have step : quoted (c :: text) ++ rest = escape c ++ (quoted text ++ rest) := by simp [quoted]
    rw [step, stringBody_escape, ih]
    rfl

/-! ### Values -/

theorem skip_cons {c : Char} {rest : List Char} (ink : blank c = false) : skip (c :: rest) = c :: rest := by
  simp [skip, ink]

theorem blank_digit {c : Char} (digit : c.isDigit = true) : blank c = false := by
  by_contra other
  simp only [blank, Bool.not_eq_false, Bool.or_eq_true, decide_eq_true_eq] at other
  rcases other with ((rfl | rfl) | rfl) | rfl <;> cases digit

section Fitting
variable {depth : Nat}

/-- A value starts with something other than a blank or a closing bracket. -/
theorem chars_head {v : Json} (fits : v.Fits depth) :
    ∃ c rest, v.chars = c :: rest ∧ blank c = false ∧ c ≠ ']' := by
  cases v with
  | null => exact ⟨_, _, by rw [chars], rfl, by decide⟩
  | bool value => cases value <;> exact ⟨_, _, by rw [chars], rfl, by decide⟩
  | number n =>
    obtain ⟨c, rest, digits, digit⟩ := toDigits_cons n
    exact ⟨c, rest, by rw [chars, digits], blank_digit digit, by rintro rfl; cases digit⟩
  | decimal literal => rw [Fits] at fits; exact fits.elim
  | string text => exact ⟨_, _, by rw [chars], rfl, by decide⟩
  | array items => exact ⟨_, _, by rw [chars], rfl, by decide⟩
  | object fields => exact ⟨_, _, by rw [chars], rfl, by decide⟩

theorem itemsChars_head {first : Json} (fits : first.Fits depth) (others : List Json) :
    ∃ c rest, itemsChars (first :: others) = c :: rest ∧ blank c = false ∧ c ≠ ']' := by
  obtain ⟨c, more, same, ink, other⟩ := chars_head fits
  cases others with
  | nil => exact ⟨c, _, by rw [itemsChars, same]; rfl, ink, other⟩
  | cons next rest => exact ⟨c, _, by rw [itemsChars, same]; rfl, ink, other⟩

theorem fieldsChars_head (first : String × Json) (others : List (String × Json)) :
    ∃ rest, fieldsChars (first :: others) = '"' :: rest := by
  obtain ⟨key, v⟩ := first
  cases others with
  | nil => exact ⟨_, by rw [fieldsChars]; rfl⟩
  | cons next rest => exact ⟨_, by rw [fieldsChars]; rfl⟩

theorem value_number (n fuel : Nat) {rest : List Char} (closes : Closes rest) :
    value (fuel + 1) ((Json.number n).chars ++ rest) = some (.number n, rest) := by
  have read := numeral_toDigits n closes
  obtain ⟨c, more, digits, digit⟩ := toDigits_cons n
  rw [value, chars, digits, List.cons_append, skip_cons (blank_digit digit)]
  rw [digits, List.cons_append] at read
  split <;> first
    | (next same => obtain ⟨rfl, -⟩ := List.cons.inj same; cases digit)
    | exact read

/-- An array whose items are read back is read back. -/
theorem value_array {first : Json} {others : List Json} {fuel : Nat} {rest : List Char} (fits : first.Fits depth)
    (inner : items fuel (itemsChars (first :: others) ++ rest) = some (first :: others, rest)) :
    value (fuel + 1) ((Json.array (first :: others)).chars ++ rest) = some (.array (first :: others), rest) := by
  obtain ⟨c, more, same, ink, other⟩ := itemsChars_head fits others
  rw [same, List.cons_append] at inner
  rw [value, chars, same, List.cons_append, List.cons_append, skip_cons rfl]
  simp only [skip_cons ink]
  split
  · next closed => exact absurd (List.cons.inj closed).1 other
  · rw [inner]
    rfl

theorem value_object {first : String × Json} {others : List (String × Json)} {fuel : Nat} {rest : List Char}
    (inner : fields fuel (fieldsChars (first :: others) ++ rest) = some (first :: others, rest)) :
    value (fuel + 1) ((Json.object (first :: others)).chars ++ rest) = some (.object (first :: others), rest) := by
  obtain ⟨more, same⟩ := fieldsChars_head first others
  rw [same, List.cons_append] at inner
  rw [value, chars, same, List.cons_append, List.cons_append, skip_cons rfl]
  simp only [skip_cons (rfl : blank '"' = false)]
  split
  · next closed => exact absurd (List.cons.inj closed).1 (by decide)
  · rw [inner]
    rfl

end Fitting

theorem closes_comma {rest : List Char} : Closes (',' :: rest) := closes_cons (by decide)

theorem closes_bracket {rest : List Char} : Closes (']' :: rest) := closes_cons (by decide)

theorem closes_brace {rest : List Char} : Closes ('\x7d' :: rest) := closes_cons (by decide)

mutual

theorem value_chars : ∀ (v : Json) (depth fuel : Nat) (rest : List Char), v.Fits depth → v.chars.length ≤ fuel →
    Closes rest → value fuel (v.chars ++ rest) = some (v, rest)
  | v, _, 0, rest, fits, short, _ => by
    obtain ⟨c, more, same, -⟩ := chars_head fits
    rw [same] at short
    cases short
  | .null, _, fuel + 1, rest, _, _, _ => rfl
  | .bool true, _, fuel + 1, rest, _, _, _ => rfl
  | .bool false, _, fuel + 1, rest, _, _, _ => rfl
  | .number n, _, fuel + 1, rest, _, _, closes => value_number n fuel closes
  | .decimal literal, _, fuel + 1, rest, fits, _, _ => by
    rw [Fits] at fits
    exact fits.elim
  | .string text, _, fuel + 1, rest, _, _, _ => by
    rw [value, chars, List.cons_append, skip_cons rfl]
    simp [stringBody_quoted]
  | .array [], _, fuel + 1, rest, _, _, _ => rfl
  | .array (first :: others), depth + 1, fuel + 1, rest, fits, short, _ => by
    rw [Fits] at fits
    rw [chars, List.length_cons] at short
    refine value_array (fits first List.mem_cons_self) ?_
    exact items_chars (first :: others) depth fuel rest nofun fits (Nat.le_of_succ_le_succ short)
  | .object [], _, fuel + 1, rest, _, _, _ => rfl
  | .object (first :: others), depth + 1, fuel + 1, rest, fits, short, _ => by
    rw [Fits] at fits
    rw [chars, List.length_cons] at short
    exact value_object (fields_chars (first :: others) depth fuel rest nofun fits (Nat.le_of_succ_le_succ short))

theorem items_chars : ∀ (list : List Json) (depth fuel : Nat) (rest : List Char), list ≠ [] →
    (∀ item ∈ list, item.Fits depth) → (itemsChars list).length ≤ fuel →
      items fuel (itemsChars list ++ rest) = some (list, rest)
  | [], _, _, _, empty, _, _ => absurd rfl empty
  | first :: others, _, 0, _, _, fits, short => by
    obtain ⟨c, more, same, -⟩ := itemsChars_head (fits first List.mem_cons_self) others
    rw [same] at short
    cases short
  | [item], depth, fuel + 1, rest, _, fits, short => by
    rw [itemsChars, List.length_append] at short
    have first := value_chars item depth fuel (']' :: rest) (fits item List.mem_cons_self) (by simpa using short)
      closes_bracket
    rw [items, itemsChars, List.append_assoc, List.singleton_append, first]
    rfl
  | item :: next :: others, depth, fuel + 1, rest, _, fits, short => by
    rw [itemsChars, List.length_append, List.length_cons] at short
    have first := value_chars item depth fuel (',' :: (itemsChars (next :: others) ++ rest))
      (fits item List.mem_cons_self) (by omega) closes_comma
    have later := items_chars (next :: others) depth fuel rest nofun
      (fun other member => fits other (List.mem_cons_of_mem _ member)) (by omega)
    rw [items, itemsChars, List.append_assoc, List.cons_append, first]
    simp [skip_cons (rfl : blank ',' = false), later]

theorem fields_chars : ∀ (list : List (String × Json)) (depth fuel : Nat) (rest : List Char), list ≠ [] →
    (∀ field ∈ list, field.2.Fits depth) → (fieldsChars list).length ≤ fuel →
      fields fuel (fieldsChars list ++ rest) = some (list, rest)
  | [], _, _, _, empty, _, _ => absurd rfl empty
  | first :: others, _, 0, _, _, _, short => by
    obtain ⟨more, same⟩ := fieldsChars_head first others
    rw [same] at short
    cases short
  | [(key, v)], depth, fuel + 1, rest, _, fits, short => by
    simp only [fieldsChars, List.length_append, List.length_cons] at short
    have read := value_chars v depth fuel ('\x7d' :: rest) (fits (key, v) List.mem_cons_self) (by omega) closes_brace
    rw [fields, fieldsChars]
    simp [skip_cons (rfl : blank '"' = false), skip_cons (rfl : blank ':' = false), stringBody_quoted, read,
      skip_cons (rfl : blank '\x7d' = false)]
  | (key, v) :: next :: others, depth, fuel + 1, rest, _, fits, short => by
    simp only [fieldsChars, List.length_append, List.length_cons] at short
    have read := value_chars v depth fuel (',' :: (fieldsChars (next :: others) ++ rest))
      (fits (key, v) List.mem_cons_self) (by omega) closes_comma
    have later := fields_chars (next :: others) depth fuel rest nofun
      (fun other member => fits other (List.mem_cons_of_mem _ member)) (by omega)
    rw [fields, fieldsChars]
    simp [skip_cons (rfl : blank '"' = false), skip_cons (rfl : blank ':' = false), stringBody_quoted, read,
      skip_cons (rfl : blank ',' = false), later]

end

/-- What was written is read back. -/
theorem parse_print {v : Json} {depth : Nat} (fits : v.Fits depth) : parse v.print = some v := by
  have read := value_chars v depth (v.print.length + 1) [] fits (by simp [print]) closes_nil
  rw [List.append_nil] at read
  rw [parse, print, String.toList_ofList]
  rw [print] at read
  rw [read]
  rfl

end Json
