import Mathlib.Data.List.Infix
import Mathlib.Data.List.DropRight

/-!
Unix paths as text. `components` and `join` follow `std::path`: repeated separators and inner `.`
disappear, and two paths are the same when their components are. `resolve` walks the components
lexically from a working directory to the absolute list of names that stands for a location.
-/

namespace Unix

/-- `Path` and `PathBuf`: text, compared by components. -/
abbrev Path := String

/-- An absolute location: the names below the root. -/
abbrev Location := List String

inductive Component where
  | rootDir
  | curDir
  | parentDir
  | normal (name : String)
  deriving DecidableEq, Repr

def segments (path : Path) : List (List Char) := path.toList.splitOn '/'

/-- A segment that is not the first one. -/
def inner (segment : List Char) : List Component :=
  if segment = [] ∨ segment = ['.'] then []
  else if segment = ['.', '.'] then [.parentDir]
  else [.normal (String.ofList segment)]

/-- The first segment: empty before a leading separator, and the only place where `.` is kept. -/
def leading (segment : List Char) : List Component :=
  if segment = [] then [.rootDir] else if segment = ['.'] then [.curDir] else inner segment

def components (path : Path) : List Component :=
  if path = "" then [] else leading ((segments path).headD []) ++ (segments path).tail.flatMap inner

/-- Equality of `Path`. -/
def same (p q : Path) : Prop := components p = components q

instance (p q : Path) : Decidable (same p q) := inferInstanceAs (Decidable (_ = _))

/-- `Vec<PathBuf>::contains`. -/
def Contains (paths : List Path) (path : Path) : Prop := ∃ p ∈ paths, same p path

instance (paths : List Path) (path : Path) : Decidable (Contains paths path) :=
  inferInstanceAs (Decidable (∃ p ∈ paths, same p path))

def isAbsolute (path : Path) : Prop := path.toList.head? = some '/'

instance (path : Path) : Decidable (isAbsolute path) := inferInstanceAs (Decidable (_ = _))

/-- `Path::join`: an absolute path replaces the base. -/
def join (base path : Path) : Path :=
  if isAbsolute path then path
  else if base = "" ∨ base.toList.getLast? = some '/' then base ++ path
  else base ++ "/" ++ path

def Component.text : Component → Path
  | .rootDir => "/"
  | .curDir => "."
  | .parentDir => ".."
  | .normal name => name

/-- `Path::parent`: the path without its last component, if there is one to drop. -/
def parent (path : Path) : Option Path :=
  match (components path).getLast? with
  | none | some .rootDir => none
  | some _ => some ((components path).dropLast.foldl (fun base part => join base part.text) "")

def enter (directory : Location) : Component → Location
  | .rootDir => []
  | .curDir => directory
  | .parentDir => directory.dropLast
  | .normal name => directory ++ [name]

/-- The location a path names when `cwd` is the working directory. -/
def resolve (cwd : Location) (path : Path) : Location := (components path).foldl enter cwd

/-- Follows a path downwards from a directory, ignoring a leading separator. -/
def descend (directory : Location) (path : Path) : Location :=
  ((segments path).flatMap inner).foldl enter directory

def Below (directory location : Location) : Prop := directory <+: location ∧ directory ≠ location

instance (directory location : Location) : Decidable (Below directory location) :=
  inferInstanceAs (Decidable (_ ∧ _))

/-- `char::is_whitespace`: the Unicode property `White_Space`. -/
def isWhitespace (c : Char) : Bool :=
  (9 ≤ c.toNat && c.toNat ≤ 13) || c.toNat == 0x20 || c.toNat == 0x85 || c.toNat == 0xA0 ||
    c.toNat == 0x1680 || (0x2000 ≤ c.toNat && c.toNat ≤ 0x200A) || c.toNat == 0x2028 ||
    c.toNat == 0x2029 || c.toNat == 0x202F || c.toNat == 0x205F || c.toNat == 0x3000

/-- `str::trim`. -/
def trim (text : String) : String :=
  String.ofList ((text.toList.dropWhile isWhitespace).rdropWhile isWhitespace)

/-! ### Splitting -/

theorem segments_slash (p q : Path) : segments (p ++ "/" ++ q) = segments p ++ segments q := by
  have text : (p ++ "/" ++ q).toList = p.toList ++ '/' :: q.toList := by simp
  rw [segments, text, List.splitOn_append_cons_self]
  rfl

theorem segments_ne_nil (path : Path) : segments path ≠ [] := List.splitOn_ne_nil _ _

@[simp] theorem segments_empty : segments "" = [[]] := rfl

theorem segments_cons (path : Path) : ∃ first rest, segments path = first :: rest :=
  List.exists_cons_of_ne_nil (segments_ne_nil path)

theorem head_segments {path : Path} {first : List Char} {rest : List (List Char)}
    (split : segments path = first :: rest) (nonempty : path ≠ "") :
    first = [] ↔ isAbsolute path := by
  unfold isAbsolute
  cases text : path.toList with
  | nil => exact absurd (String.toList_eq_nil_iff.mp text) nonempty
  | cons c cs =>
    rw [segments, text, List.splitOn_cons_eq_if_modifyHead] at split
    by_cases slash : c = '/'
    · subst slash
      simp at split
      simp [split.1.symm]
    · obtain ⟨a, b, shape⟩ := List.exists_cons_of_ne_nil (List.splitOn_ne_nil '/' cs)
      simp [slash, shape] at split
      simp [slash, ← split.1]

theorem segments_absolute {path : Path} (absolute : isAbsolute path) :
    path ≠ "" ∧ ∃ rest, segments path = [] :: rest := by
  have filled : path ≠ "" := by
    rintro rfl
    simp [isAbsolute] at absolute
  obtain ⟨first, rest, split⟩ := segments_cons path
  have empty := (head_segments split filled).mpr absolute
  subst empty
  exact ⟨filled, rest, split⟩

/-! ### Components -/

theorem inner_nil : inner [] = [] := by simp [inner]

theorem components_of_segments {path : Path} {first : List Char} {rest : List (List Char)}
    (split : segments path = first :: rest) (nonempty : path ≠ "") :
    components path = leading first ++ rest.flatMap inner := by
  simp [components, nonempty, split]

theorem components_slash {p : Path} (nonempty : p ≠ "") (q : Path) :
    components (p ++ "/" ++ q) = components p ++ (segments q).flatMap inner := by
  obtain ⟨first, rest, split⟩ := segments_cons p
  have joined : segments (p ++ "/" ++ q) = first :: (rest ++ segments q) := by
    rw [segments_slash, split, List.cons_append]
  have filled : p ++ "/" ++ q ≠ "" := by
    intro empty
    have := congrArg String.length empty
    simp at this
  rw [components_of_segments joined filled, components_of_segments split nonempty, List.flatMap_append,
    List.append_assoc]

theorem components_rooted (q : Path) : components ("/" ++ q) = .rootDir :: (segments q).flatMap inner := by
  have joined : segments ("/" ++ q) = [] :: segments q := segments_slash "" q
  have filled : "/" ++ q ≠ "" := by
    intro empty
    have := congrArg String.length empty
    simp at this
  rw [components_of_segments joined filled]
  rfl

/-! ### Joining -/

theorem join_absolute {path : Path} (base : Path) (h : isAbsolute path) : join base path = path := by
  simp [join, h]

theorem join_empty {path : Path} : join "" path = path := by
  unfold join
  split <;> simp

theorem components_join {base path : Path} (nonempty : base ≠ "") (relative : ¬isAbsolute path) :
    components (join base path) = components base ++ (segments path).flatMap inner := by
  unfold join
  rw [if_neg relative]
  split
  · rename_i ends
    -- the separator is already there: `base` is `start ++ "/"`
    have last : base.toList.getLast? = some '/' := ends.resolve_left nonempty
    obtain ⟨chars, shape⟩ := List.getLast?_eq_some_iff.mp last
    obtain ⟨start, rfl⟩ : ∃ start : Path, base = start ++ "/" :=
      ⟨String.ofList chars, String.toList_injective (by simp [shape])⟩
    have split := segments_slash start ""
    rw [String.append_empty] at split
    by_cases empty : start = ""
    · subst empty
      have root := components_rooted ""
      rw [String.append_empty] at root
      rw [String.empty_append, components_rooted, root]
      simp [inner_nil]
    · have base := components_slash empty ""
      rw [String.append_empty] at base
      rw [components_slash empty, base]
      simp [inner_nil]
  · exact components_slash nonempty path

theorem isAbsolute_components {path : Path} : (components path).head? = some .rootDir ↔ isAbsolute path := by
  by_cases empty : path = ""
  · subst empty
    simp [components, isAbsolute]
  · obtain ⟨first, rest, split⟩ := segments_cons path
    rw [components_of_segments split empty, ← head_segments split empty]
    unfold leading inner
    split_ifs <;> simp_all

theorem same_rooted {path : Path} (absolute : isAbsolute path) : same path ("/" ++ path) := by
  obtain ⟨filled, rest, split⟩ := segments_absolute absolute
  rw [same, components_rooted, components_of_segments split filled, split, List.flatMap_cons, inner_nil]
  rfl

theorem join_append {path : Path} (base : Path) (relative : ¬isAbsolute path) :
    join base path = base ++ path ∨ base ≠ "" ∧ join base path = base ++ "/" ++ path := by
  unfold join
  rw [if_neg relative]
  split
  · exact Or.inl rfl
  · rename_i open_
    exact Or.inr ⟨fun empty => open_ (Or.inl empty), rfl⟩

/-! ### Resolving -/

theorem foldl_leading {first : List Char} (relative : first ≠ []) (directory : Location) :
    (leading first).foldl enter directory = (inner first).foldl enter directory := by
  unfold leading
  rw [if_neg relative]
  split
  · rename_i dot
    simp [dot, inner, enter]
  · rfl

theorem resolve_same {p q : Path} (equal : same p q) (cwd : Location) : resolve cwd p = resolve cwd q := by
  unfold same at equal
  rw [resolve, equal, resolve]

theorem resolve_relative {path : Path} (relative : ¬isAbsolute path) (cwd : Location) :
    resolve cwd path = descend cwd path := by
  by_cases empty : path = ""
  · subst empty
    simp [resolve, descend, components, inner_nil]
  · obtain ⟨first, rest, split⟩ := segments_cons path
    have filled : first ≠ [] := fun h => relative ((head_segments split empty).mp h)
    rw [resolve, descend, components_of_segments split empty, split, List.foldl_append,
      List.flatMap_cons, List.foldl_append, foldl_leading filled]

theorem resolve_absolute {path : Path} (absolute : isAbsolute path) (cwd : Location) :
    resolve cwd path = descend [] path := by
  obtain ⟨filled, rest, split⟩ := segments_absolute absolute
  rw [resolve, descend, components_of_segments split filled, split, List.flatMap_cons, inner_nil]
  rfl

theorem resolve_join {path : Path} (cwd : Location) (base : Path) (relative : ¬isAbsolute path) :
    resolve cwd (join base path) = descend (resolve cwd base) path := by
  by_cases empty : base = ""
  · subst empty
    rw [join_empty, resolve_relative relative]
    simp [resolve, components]
  · rw [resolve, components_join empty relative, List.foldl_append]
    rfl

theorem descend_slash (directory : Location) (p q : Path) :
    descend directory (p ++ "/" ++ q) = descend (descend directory p) q := by
  simp [descend, segments_slash, List.flatMap_append]

@[simp] theorem descend_empty (directory : Location) : descend directory "" = directory := by
  simp [descend, inner_nil]

/-! ### Paths without `..` -/

def NoParent (path : Path) : Prop := ['.', '.'] ∉ segments path

def names (path : Path) : List String :=
  ((segments path).filter fun segment => segment ≠ [] ∧ segment ≠ ['.']).map String.ofList

theorem foldl_normal (names : List String) (directory : Location) :
    (names.map Component.normal).foldl enter directory = directory ++ names := by
  induction names generalizing directory with
  | nil => simp
  | cons name rest ih => simp [enter, ih]

theorem flatMap_inner {parts : List (List Char)} (flat : ['.', '.'] ∉ parts) :
    parts.flatMap inner =
      ((parts.filter fun segment => segment ≠ [] ∧ segment ≠ ['.']).map String.ofList).map .normal := by
  induction parts with
  | nil => rfl
  | cons first rest ih =>
    rw [List.mem_cons, not_or] at flat
    rw [List.flatMap_cons, ih flat.2]
    by_cases skipped : first = [] ∨ first = ['.']
    · have kept : ¬(first ≠ [] ∧ first ≠ ['.']) := by tauto
      simp [inner, skipped, kept]
    · have kept : first ≠ [] ∧ first ≠ ['.'] := by tauto
      simp [inner, kept, Ne.symm flat.1]

theorem descend_names {path : Path} (flat : NoParent path) (directory : Location) :
    descend directory path = directory ++ names path := by
  rw [descend, flatMap_inner flat, foldl_normal]
  rfl

/-! ### Trimming -/

def StartsBlank (text : String) : Prop := ∃ c ∈ text.toList.head?, isWhitespace c

def EndsBlank (text : String) : Prop := ∃ c ∈ text.toList.getLast?, isWhitespace c

instance (text : String) : Decidable (StartsBlank text) :=
  decidable_of_iff (text.toList.head?.any isWhitespace) (by simp [StartsBlank, Option.any_eq_true])

instance (text : String) : Decidable (EndsBlank text) :=
  decidable_of_iff (text.toList.getLast?.any isWhitespace) (by simp [EndsBlank, Option.any_eq_true])

theorem isWhitespace_slash : isWhitespace '/' = false := by decide

theorem isWhitespace_graphic {c : Char} (above : 33 ≤ c.toNat) (below : c.toNat ≤ 126) :
    isWhitespace c = false := by
  simp only [isWhitespace, Bool.or_eq_false_iff, Bool.and_eq_false_iff, decide_eq_false_iff_not,
    beq_eq_false_iff_ne]
  omega

theorem dropWhile_blank {text : String} (start : ¬StartsBlank text) :
    text.toList.dropWhile isWhitespace = text.toList := by
  cases chars : text.toList with
  | nil => rfl
  | cons c cs =>
    refine List.dropWhile_cons_of_neg fun blank => start ⟨c, ?_, blank⟩
    simp [chars]

theorem trim_startsBlank (text : String) : ¬StartsBlank (trim text) := by
  intro start
  obtain ⟨c, first, blank⟩ := start
  obtain ⟨rest, split⟩ := List.rdropWhile_prefix isWhitespace (l := text.toList.dropWhile isWhitespace)
  have head : (text.toList.dropWhile isWhitespace).head? = some c := by
    rw [← split]
    simp only [trim, String.toList_ofList] at first
    simp [List.head?_append, Option.mem_def.mp first]
  have stopped := List.head?_dropWhile_not isWhitespace text.toList
  rw [head] at stopped
  simp [blank] at stopped

theorem trim_endsBlank (text : String) : ¬EndsBlank (trim text) := by
  intro stop
  obtain ⟨c, last, blank⟩ := stop
  rw [trim, String.toList_ofList] at last
  obtain ⟨filled, rfl⟩ := List.mem_getLast?_eq_getLast last
  exact List.rdropWhile_last_not _ _ filled blank

theorem trim_self {text : String} (start : ¬StartsBlank text) (stop : ¬EndsBlank text) : trim text = text := by
  have back : text.toList.rdropWhile isWhitespace = text.toList := by
    rw [List.rdropWhile_eq_self_iff]
    exact fun filled blank => stop ⟨_, List.getLast?_eq_some_getLast filled, blank⟩
  rw [trim, dropWhile_blank start, back, String.ofList_toList]

theorem trim_append {text : String} (start : ¬StartsBlank text) :
    ∃ blanks, text.toList = (trim text).toList ++ blanks ∧ ∀ c ∈ blanks, isWhitespace c := by
  refine ⟨text.toList.rtakeWhile isWhitespace, ?_, fun c member => List.mem_rtakeWhile_imp member⟩
  rw [trim, dropWhile_blank start, String.toList_ofList, List.rdropWhile_append_rtakeWhile]

theorem segments_text {path : Path} {first : List Char} {rest : List (List Char)}
    (split : segments path = first :: rest) : path.toList = first ++ rest.flatMap ('/' :: ·) := by
  have whole : ['/'].intercalate (path.toList.splitOn '/') = path.toList := List.intercalate_splitOn '/'
  unfold segments at split
  rw [split] at whole
  rw [← whole]
  clear whole split
  induction rest generalizing first with
  | nil => simp
  | cons second rest ih =>
    rw [List.intercalate_cons_cons, ih, List.flatMap_cons]
    simp

theorem splitOn_append (start : List Char) {tail : List Char} (flat : '/' ∉ tail) :
    ∃ front last, start.splitOn '/' = front ++ [last] ∧ (start ++ tail).splitOn '/' = front ++ [last ++ tail] := by
  induction start with
  | nil => exact ⟨[], [], rfl, by simpa using List.splitOn_eq_singleton flat⟩
  | cons c start ih =>
    obtain ⟨front, last, split, longer⟩ := ih
    rw [List.cons_append, List.splitOn_cons_eq_if_modifyHead, List.splitOn_cons_eq_if_modifyHead, split, longer]
    by_cases slash : c = '/'
    · exact ⟨[] :: front, last, by simp [slash], by simp [slash]⟩
    · cases front with
      | nil => exact ⟨[], c :: last, by simp [slash], by simp [slash]⟩
      | cons segment front => exact ⟨(c :: segment) :: front, last, by simp [slash], by simp [slash]⟩

theorem inner_blank {segment : List Char} {c : Char} (member : c ∈ segment) (blank : isWhitespace c) :
    inner segment = [.normal (String.ofList segment)] := by
  have dot : c ≠ '.' := by rintro rfl; revert blank; decide
  unfold inner
  rw [if_neg (by rintro (rfl | rfl) <;> simp_all), if_neg (by rintro rfl; simp_all)]

theorem leading_blank {segment : List Char} {c : Char} (member : c ∈ segment) (blank : isWhitespace c) :
    leading segment = [.normal (String.ofList segment)] := by
  have dot : c ≠ '.' := by rintro rfl; revert blank; decide
  unfold leading
  rw [if_neg (by rintro rfl; simp_all), if_neg (by rintro rfl; simp_all), inner_blank member blank]

theorem inner_normal {segment : List Char} {name : String} {rest : List Component}
    (h : inner segment = .normal name :: rest) : segment = name.toList := by
  unfold inner at h
  split at h
  · cases h
  · split at h
    · cases h
    · cases h; simp

theorem leading_normal {segment : List Char} {name : String} {rest : List Component}
    (h : leading segment = .normal name :: rest) : segment = name.toList := by
  unfold leading at h
  split at h
  · cases h
  · split at h
    · cases h
    · exact inner_normal h

theorem leading_ne_nil (segment : List Char) : leading segment ≠ [] := by
  unfold leading inner
  split_ifs <;> simp_all

theorem filled_of_head {path : Path} {c : Char} (head : c ∈ path.toList.head?) : path ≠ "" := by
  rintro rfl
  simp at head

theorem mem_first_segment {path : Path} {c : Char} {first : List Char} {rest : List (List Char)}
    (split : segments path = first :: rest) (head : path.toList.head? = some c) (solid : c ≠ '/') : c ∈ first := by
  have text := segments_text split
  rw [text] at head
  cases first with
  | nil => cases rest with
    | nil => cases head
    | cons => exact absurd (Option.some.inj head).symm solid
  | cons d first =>
    obtain rfl : d = c := Option.some.inj head
    exact List.mem_cons_self

theorem same_trim_start {path : Path} (equal : same (trim path) path) : ¬StartsBlank path := by
  intro start
  obtain ⟨c, head, blank⟩ := start
  unfold same at equal
  obtain ⟨first, rest, split⟩ := segments_cons path
  have solid : c ≠ '/' := by
    rintro rfl
    rw [isWhitespace_slash] at blank
    cases blank
  have member := mem_first_segment split head solid
  rw [components_of_segments split (filled_of_head head), leading_blank member blank] at equal
  have filled : trim path ≠ "" := by
    intro empty
    rw [empty] at equal
    simp [components] at equal
  obtain ⟨first', rest', split'⟩ := segments_cons (trim path)
  rw [components_of_segments split' filled] at equal
  -- the name of the first component survives the cut, so the cut text starts blank again
  obtain ⟨part, tail, shape⟩ := List.exists_cons_of_ne_nil (leading_ne_nil first')
  have same : leading first' = .normal (String.ofList first) :: tail := by
    rw [shape] at equal ⊢
    simp only [List.cons_append, List.cons.injEq] at equal
    rw [equal.1]
  have whole : first' = first := by simpa using leading_normal same
  refine trim_startsBlank path ⟨c, ?_, blank⟩
  have text := segments_text split
  have text' := segments_text split'
  cases first with
  | nil => cases member
  | cons d first =>
    rw [text] at head
    rw [text', whole]
    simpa using head

theorem same_trim_end {path : Path} (equal : same (trim path) path) : ¬EndsBlank path := by
  intro stop
  obtain ⟨c, last, blank⟩ := stop
  obtain ⟨blanks, text, all⟩ := trim_append (same_trim_start equal)
  unfold same at equal
  have filled : blanks ≠ [] := by
    rintro rfl
    rw [List.append_nil] at text
    rw [text] at last
    exact trim_endsBlank path ⟨c, last, blank⟩
  obtain ⟨b, more, rfl⟩ := List.exists_cons_of_ne_nil filled
  have flat : '/' ∉ b :: more := fun member => by simpa [isWhitespace_slash] using all _ member
  obtain ⟨front, ending, split, longer⟩ := splitOn_append (trim path).toList flat
  rw [← text] at longer
  have nonempty : path ≠ "" := by
    rintro rfl
    simp at last
  have member : b ∈ ending ++ b :: more := by simp
  have blankB := all b List.mem_cons_self
  cases front with
  | nil =>
    rw [components_of_segments longer nonempty, leading_blank member blankB] at equal
    by_cases empty : trim path = ""
    · simp [components, empty] at equal
    · rw [components_of_segments split empty] at equal
      simp only [List.flatMap_nil, List.append_nil] at equal
      simpa using leading_normal equal
  | cons first front =>
    have kept : trim path ≠ "" := by
      intro empty
      rw [empty] at split
      simp at split
    rw [List.cons_append] at split longer
    rw [components_of_segments longer nonempty, components_of_segments split kept] at equal
    simp only [List.flatMap_append, List.append_cancel_left_eq, List.flatMap_cons, List.flatMap_nil,
      List.append_nil, inner_blank member blankB] at equal
    simpa using inner_normal equal

theorem same_trim {path : Path} : same (trim path) path ↔ ¬StartsBlank path ∧ ¬EndsBlank path := by
  refine ⟨fun equal => ⟨same_trim_start equal, same_trim_end equal⟩, ?_⟩
  intro solid
  obtain ⟨start, stop⟩ := solid
  rw [trim_self start stop]
  rfl

theorem startsBlank_append {p : String} (q : String) (filled : p ≠ "") : StartsBlank (p ++ q) ↔ StartsBlank p := by
  obtain ⟨c, cs, chars⟩ := List.exists_cons_of_ne_nil fun h => filled (String.toList_eq_nil_iff.mp h)
  simp [StartsBlank, chars]

theorem endsBlank_append (p : String) {q : String} (filled : q ≠ "") : EndsBlank (p ++ q) ↔ EndsBlank q := by
  have some : q.toList ≠ [] := fun h => filled (String.toList_eq_nil_iff.mp h)
  simp [EndsBlank, List.getLast?_append, List.getLast?_eq_some_getLast some]

theorem isAbsolute_startsBlank {path : Path} (absolute : isAbsolute path) : ¬StartsBlank path := by
  intro start
  obtain ⟨c, head, blank⟩ := start
  unfold isAbsolute at absolute
  rw [absolute] at head
  cases head
  rw [isWhitespace_slash] at blank
  cases blank

theorem startsBlank_join {base path : Path} (relative : ¬isAbsolute path) (filled : base ≠ "") :
    StartsBlank (join base path) ↔ StartsBlank base := by
  rcases join_append base relative with appended | ⟨_, appended⟩
  · rw [appended, startsBlank_append _ filled]
  · rw [appended, String.append_assoc, startsBlank_append _ filled]

theorem endsBlank_join {path : Path} (base : Path) (filled : path ≠ "") :
    EndsBlank (join base path) ↔ EndsBlank path := by
  by_cases absolute : isAbsolute path
  · rw [join_absolute base absolute]
  · rcases join_append base absolute with appended | ⟨_, appended⟩ <;> rw [appended, endsBlank_append _ filled]

theorem trim_newline {text : String} (trimmed : trim text = text) : trim (text ++ "\n") = text := by
  have start := trim_startsBlank text
  have stop := trim_endsBlank text
  rw [trimmed] at start stop
  by_cases empty : text = ""
  · subst empty
    decide
  · obtain ⟨c, cs, chars⟩ := List.exists_cons_of_ne_nil fun h => empty (String.toList_eq_nil_iff.mp h)
    have solid : ¬isWhitespace c := fun blank => start ⟨c, by simp [chars], blank⟩
    have front : (text ++ "\n").toList.dropWhile isWhitespace = text.toList ++ ['\n'] := by
      simp [chars, solid]
    rw [trim, front, List.rdropWhile_concat_pos _ _ _ (by decide)]
    have back : text.toList.rdropWhile isWhitespace = text.toList := by
      rw [List.rdropWhile_eq_self_iff]
      exact fun filled blank => stop ⟨_, List.getLast?_eq_some_getLast filled, blank⟩
    rw [back, String.ofList_toList]

/-! ### Normalised paths -/

def render (location : Location) : Path := "/" ++ String.intercalate "/" location

/-- An absolute path that is the text of what it names. -/
def Normalised (path : Path) : Prop := render (resolve [] path) = path

instance (path : Path) : Decidable (Normalised path) := inferInstanceAs (Decidable (_ = _))

theorem Normalised.absolute {path : Path} (normal : Normalised path) : isAbsolute path := by
  rw [← normal]
  simp [render, isAbsolute]

theorem Normalised.injective {p q : Path} (left : Normalised p) (right : Normalised q) {cwd : Location}
    (equal : resolve cwd p = resolve cwd q) : p = q := by
  rw [resolve_absolute left.absolute, resolve_absolute right.absolute, ← resolve_absolute left.absolute [],
    ← resolve_absolute right.absolute []] at equal
  rw [← left, equal, right]

end Unix
