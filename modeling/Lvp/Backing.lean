import Lvp.Record

/-!
Where the data of a volume lies. CreateVolume strips the base path and stores one string;
NodePublishVolume drops a leading separator before it joins that string to the prefix (and mounts
the trimmed result), DeleteVolume and NodeExpandVolume join it as it is.
-/

namespace Lvp
open Unix Csi

variable {config : Config}

/-! ### Stripping the base path -/

theorem stripSlashes_relative (base : String) : ¬isAbsolute (stripSlashes base) := by
  unfold isAbsolute stripSlashes
  intro head
  rw [String.toList_ofList] at head
  have stopped := List.head?_dropWhile_not (· = '/') (base.toList.rdropWhile (· = '/'))
  rw [head] at stopped
  simp at stopped

theorem hostPath_absolute {base : String} (name : String) (filled : stripSlashes base ≠ "") :
    ¬isAbsolute (hostPath base name) := by
  have relative := stripSlashes_relative base
  unfold isAbsolute hostPath at *
  cases chars : (stripSlashes base).toList with
  | nil => exact absurd (String.toList_eq_nil_iff.mp chars) filled
  | cons c cs => simpa [chars] using relative

theorem relativeHostPath_filled {base : String} (name : String) (filled : stripSlashes base ≠ "") :
    relativeHostPath (hostPath base name) = hostPath base name := if_neg (hostPath_absolute name filled)

/-- Nothing but separators: the stored string starts with one, and only one handler drops it. -/
theorem hostPath_empty {base : String} (name : String) (empty : stripSlashes base = "") :
    hostPath base name = "/" ++ name := by
  rw [hostPath, empty]
  rfl

theorem relativeHostPath_empty {base : String} (name : String) (empty : stripSlashes base = "") :
    relativeHostPath (hostPath base name) = name := by
  rw [hostPath_empty name empty]
  simp [relativeHostPath, isAbsolute]

/-! ### One path -/

/-- Where NodePublishVolume makes the data of a volume, and where the others open or remove it. -/
def dataPaths (config : Config) (volume : Volume) : List Path :=
  [publishPath config volume, recordPath config volume]

def backingPaths (config : Config) (volume : Volume) : List Path :=
  trim (publishPath config volume) :: dataPaths config volume

/-- Nothing is lost to trimming or to the dropped separator. -/
def Aligned (config : Config) (base name : String) : Prop :=
  ¬EndsBlank name ∧
    (stripSlashes base ≠ "" ∧ ¬StartsBlank (config.hostPrefix ++ stripSlashes base) ∨
      stripSlashes base = "" ∧ (isAbsolute name ∨ components config.hostPrefix = [.rootDir]))

theorem startsBlank_hostPath {base : String} (name : String) (filled : stripSlashes base ≠ "") :
    StartsBlank (join config.hostPrefix (hostPath base name)) ↔
      StartsBlank (config.hostPrefix ++ stripSlashes base) := by
  have relative := hostPath_absolute name filled
  by_cases empty : config.hostPrefix = ""
  · rw [empty, join_empty, String.empty_append, hostPath, String.append_assoc, startsBlank_append _ filled]
  · rw [startsBlank_join relative empty, startsBlank_append _ empty]

theorem endsBlank_hostPath {base name : String} (named : name ≠ "") :
    EndsBlank (join config.hostPrefix (hostPath base name)) ↔ EndsBlank name := by
  have filled : hostPath base name ≠ "" := by
    intro empty
    have := congrArg String.length empty
    simp [hostPath] at this
  rw [endsBlank_join _ filled, hostPath, endsBlank_append _ named]

theorem filled_paths {base name : String} {volume : Volume} (named : name ≠ "")
    (stored : volume.hostPath = hostPath base name) (filled : stripSlashes base ≠ "") :
    (∀ path ∈ backingPaths config volume, same path (join config.hostPrefix (hostPath base name))) ↔
      ¬EndsBlank name ∧ ¬StartsBlank (config.hostPrefix ++ stripSlashes base) := by
  have published : publishPath config volume = join config.hostPrefix (hostPath base name) := by
    rw [publishPath, stored, relativeHostPath_filled name filled]
  have recorded : recordPath config volume = join config.hostPrefix (hostPath base name) := by
    rw [recordPath, stored]
  rw [← startsBlank_hostPath name filled, ← endsBlank_hostPath named, and_comm, ← same_trim]
  simp [backingPaths, dataPaths, published, recorded, same]

theorem join_rooted {name : String} :
    same (join config.hostPrefix name) ("/" ++ name) ↔
      isAbsolute name ∨ components config.hostPrefix = [.rootDir] := by
  by_cases absolute : isAbsolute name
  · simp [join_absolute _ absolute, same_rooted absolute, absolute]
  · rw [or_iff_right absolute]
    by_cases bare : config.hostPrefix = ""
    · rw [bare, join_empty]
      refine ⟨fun equal => absurd (isAbsolute_components.mp ?_) absolute, fun rooted => nomatch rooted⟩
      rw [same, components_rooted] at equal
      rw [equal]
      rfl
    · rw [same, components_join bare absolute, components_rooted]
      have same_prefix : components config.hostPrefix ++ (segments name).flatMap inner =
          [.rootDir] ++ (segments name).flatMap inner ↔ components config.hostPrefix = [.rootDir] :=
        List.append_left_inj _
      exact same_prefix

theorem join_startsBlank {name : String}
    (start : isAbsolute name ∨ components config.hostPrefix = [.rootDir]) :
    ¬StartsBlank (join config.hostPrefix name) := by
  by_cases absolute : isAbsolute name
  · rw [join_absolute _ absolute]
    exact isAbsolute_startsBlank absolute
  · have rooted : isAbsolute config.hostPrefix :=
      isAbsolute_components.mp (by rw [start.resolve_left absolute]; rfl)
    have filled : config.hostPrefix ≠ "" := by
      intro empty
      simp [empty, isAbsolute] at rooted
    rw [startsBlank_join absolute filled]
    exact isAbsolute_startsBlank rooted

theorem empty_paths {base name : String} {volume : Volume} (named : name ≠ "")
    (stored : volume.hostPath = hostPath base name) (empty : stripSlashes base = "") :
    (∀ path ∈ backingPaths config volume, same path (join config.hostPrefix (hostPath base name))) ↔
      ¬EndsBlank name ∧ (isAbsolute name ∨ components config.hostPrefix = [.rootDir]) := by
  have published : publishPath config volume = join config.hostPrefix name := by
    rw [publishPath, stored, relativeHostPath_empty name empty]
  have rooted : join config.hostPrefix (hostPath base name) = "/" ++ name := by
    rw [hostPath_empty name empty, join_absolute _ (by simp [isAbsolute])]
  have recorded : recordPath config volume = "/" ++ name := by rw [recordPath, stored, rooted]
  rw [rooted, ← endsBlank_join config.hostPrefix named]
  simp only [backingPaths, dataPaths, published, recorded, List.forall_mem_cons]
  constructor
  · intro equal
    obtain ⟨trimmed, agree, -⟩ := equal
    exact ⟨(same_trim.mp (trimmed.trans agree.symm)).2, join_rooted.mp agree⟩
  · intro solid
    obtain ⟨stop, start⟩ := solid
    have agree := join_rooted.mpr start
    exact ⟨(same_trim.mpr ⟨join_startsBlank start, stop⟩).trans agree, agree, rfl, by simp⟩

/-- The handlers agree on one path exactly when nothing is lost to trimming or to the separator that
only NodePublishVolume drops. -/
theorem backingPaths_agree {request : CreateVolumeRequest} {volume : Volume} {base : String}
    (accepted : newVolume request = .ok volume)
    (located : request.parameters.lookup "host_base_path" = some base) :
    (∀ path ∈ backingPaths config volume, same path (join config.hostPrefix (hostPath base request.name))) ↔
      Aligned config base request.name := by
  obtain ⟨base', filesystem, configs, rfl, found, -, named⟩ := newVolume_ok accepted
  cases located.symm.trans found
  have stored : (freshVolume request base filesystem configs).hostPath = hostPath base request.name := rfl
  unfold Aligned
  by_cases empty : stripSlashes base = ""
  · simp [empty_paths named stored empty, empty]
  · simp [filled_paths named stored empty, empty]

def Sample.volume : Volume :=
  freshVolume (createRequest "a" "/pv2/" "bind" 1) "/pv2/" .bind [⟨.singleNodeWriter⟩]

theorem Sample.volume_new : newVolume (createRequest "a" "/pv2/" "bind" 1) = .ok volume := rfl

theorem backingPaths_agree_sample :
    "/host/pv2/a" ∈ backingPaths Sample.config Sample.volume ∧
      ∀ path ∈ backingPaths Sample.config Sample.volume, same path (join "/host/" (hostPath "/pv2/" "a")) :=
  ⟨by decide, (backingPaths_agree Sample.volume_new rfl).mpr ⟨by decide, Or.inl ⟨by decide, by decide⟩⟩⟩

/-- A base of one separator: NodePublishVolume mounts one path and DeleteVolume removes another. -/
theorem backingPaths_differ :
    ∃ volume, newVolume (Sample.createRequest "a" "/" "bind" 1) = .ok volume ∧
      publishPath Sample.config volume = "/host/a" ∧ recordPath Sample.config volume = "/a" ∧
      ¬∀ path ∈ backingPaths Sample.config volume, same path (join "/host/" (hostPath "/" "a")) :=
  ⟨_, rfl, by decide, by decide, by decide⟩

/-! ### Confinement -/

theorem noParent_of_valid {name : String} (valid : ¬InvalidName name) : NoParent name := by
  intro climbs
  obtain ⟨first, rest, split⟩ := segments_cons name
  have text := segments_text split
  rw [split] at climbs
  rcases List.mem_cons.mp climbs with rfl | later
  · cases rest with
    | nil => exact valid (Or.inr (Or.inr (Or.inl (String.toList_injective text))))
    | cons second rest => exact valid (Or.inr (Or.inl ⟨[], second ++ rest.flatMap ('/' :: ·), by simp [text]⟩))
  · obtain ⟨front, back, rfl⟩ := List.append_of_mem later
    exact valid (Or.inl ⟨first ++ front.flatMap ('/' :: ·), back.flatMap ('/' :: ·), by simp [text]⟩)

def baseDirectory (config : Config) (cwd : Location) (base : String) : Location :=
  resolve cwd (join config.hostPrefix (stripSlashes base))

/-- What the handlers create, truncate and remove for the volume lies strictly below the base
directory, and that inside the prefix. -/
def Confined (config : Config) (cwd : Location) (base : String) (volume : Volume) : Prop :=
  resolve cwd config.hostPrefix <+: baseDirectory config cwd base ∧
    ∀ path ∈ dataPaths config volume,
      Below (resolve cwd config.hostPrefix) (resolve cwd path) ∧
        Below (baseDirectory config cwd base) (resolve cwd path)

/-- The name names something, the base path stays inside the prefix, and where it is empty the name
alone leads there from the root. -/
def Contained (config : Config) (cwd : Location) (base name : String) : Prop :=
  names name ≠ [] ∧ resolve cwd config.hostPrefix <+: baseDirectory config cwd base ∧
    (stripSlashes base = "" → Below (resolve cwd config.hostPrefix) (names name))

instance (config : Config) (cwd : Location) (base : String) (volume : Volume) :
    Decidable (Confined config cwd base volume) := inferInstanceAs (Decidable (_ ∧ _))

instance (config : Config) (cwd : Location) (base name : String) :
    Decidable (Contained config cwd base name) := inferInstanceAs (Decidable (_ ∧ _))

theorem below_append {directory : Location} {names : List String} :
    Below directory (directory ++ names) ↔ names ≠ [] := by
  simp [Below]

theorem resolve_hostPath {base name : String} (cwd : Location) (flat : NoParent name)
    (filled : stripSlashes base ≠ "") :
    resolve cwd (join config.hostPrefix (hostPath base name)) = baseDirectory config cwd base ++ names name := by
  rw [baseDirectory, resolve_join cwd _ (hostPath_absolute name filled),
    resolve_join cwd _ (stripSlashes_relative base), hostPath, descend_slash, descend_names flat]

theorem filled_confined {base name : String} {volume : Volume} (cwd : Location) (flat : NoParent name)
    (stored : volume.hostPath = hostPath base name) (filled : stripSlashes base ≠ "") :
    Confined config cwd base volume ↔
      names name ≠ [] ∧ resolve cwd config.hostPrefix <+: baseDirectory config cwd base := by
  have published : publishPath config volume = join config.hostPrefix (hostPath base name) := by
    rw [publishPath, stored, relativeHostPath_filled name filled]
  have recorded : recordPath config volume = join config.hostPrefix (hostPath base name) := by
    rw [recordPath, stored]
  simp only [Confined, dataPaths, published, recorded, resolve_hostPath cwd flat filled, List.forall_mem_cons,
    below_append]
  constructor
  · intro confined
    obtain ⟨inside, ⟨-, named⟩, -⟩ := confined
    exact ⟨named, inside⟩
  · intro contained
    obtain ⟨named, inside⟩ := contained
    have below : Below (resolve cwd config.hostPrefix) (baseDirectory config cwd base ++ names name) := by
      refine ⟨inside.trans (List.prefix_append _ _), fun equal => named ?_⟩
      have short := inside.length_le
      have long := congrArg List.length equal
      rw [List.length_append] at long
      exact List.length_eq_zero_iff.mp (by omega)
    exact ⟨inside, ⟨below, named⟩, ⟨below, named⟩, by simp⟩

theorem baseDirectory_empty {base : String} (cwd : Location) (empty : stripSlashes base = "") :
    baseDirectory config cwd base = resolve cwd config.hostPrefix := by
  rw [baseDirectory, resolve_join cwd _ (stripSlashes_relative base), empty, descend_empty]

theorem empty_confined {base name : String} {volume : Volume} (cwd : Location) (flat : NoParent name)
    (stored : volume.hostPath = hostPath base name) (empty : stripSlashes base = "") :
    Confined config cwd base volume ↔ Below (resolve cwd config.hostPrefix) (names name) := by
  have published : publishPath config volume = join config.hostPrefix name := by
    rw [publishPath, stored, relativeHostPath_empty name empty]
  have recorded : recordPath config volume = "/" ++ name := by
    rw [recordPath, stored, hostPath_empty name empty, join_absolute _ (by simp [isAbsolute])]
  have rooted : resolve cwd ("/" ++ name) = names name := by
    have split := descend_slash [] "" name
    rw [String.empty_append, descend_empty, descend_names flat, List.nil_append] at split
    rw [resolve_absolute (by simp [isAbsolute]), split]
  simp only [Confined, dataPaths, published, recorded, baseDirectory_empty cwd empty, List.forall_mem_cons, rooted]
  constructor
  · intro confined
    obtain ⟨-, -, ⟨below, -⟩, -⟩ := confined
    exact below
  · intro below
    have made : Below (resolve cwd config.hostPrefix) (resolve cwd (join config.hostPrefix name)) := by
      by_cases absolute : isAbsolute name
      · rw [join_absolute _ absolute, resolve_absolute absolute, descend_names flat]
        exact below
      · rw [resolve_join cwd _ absolute, descend_names flat, below_append]
        intro none
        rw [none] at below
        exact below.2 (List.prefix_nil.mp below.1)
    exact ⟨List.prefix_refl _, ⟨made, made⟩, ⟨below, below⟩, by simp⟩

/-- The name check alone does not confine a volume; this is what the inputs have to add. -/
theorem confined_iff (cwd : Location) {request : CreateVolumeRequest} {volume : Volume} {base : String}
    (accepted : newVolume request = .ok volume)
    (located : request.parameters.lookup "host_base_path" = some base) :
    Confined config cwd base volume ↔ Contained config cwd base request.name := by
  obtain ⟨base', filesystem, configs, rfl, found, valid, -⟩ := newVolume_ok accepted
  cases located.symm.trans found
  have stored : (freshVolume request base filesystem configs).hostPath = hostPath base request.name := rfl
  have flat := noParent_of_valid valid
  by_cases empty : stripSlashes base = ""
  · rw [empty_confined cwd flat stored empty, Contained, baseDirectory_empty cwd empty]
    refine ⟨fun below => ⟨fun none => ?_, List.prefix_refl _, fun _ => below⟩, fun contained => contained.2.2 empty⟩
    rw [none] at below
    exact below.2 (List.prefix_nil.mp below.1)
  · rw [filled_confined cwd flat stored empty, Contained]
    simp [empty]

theorem confined_sample : Confined Sample.config [] "/pv2/" Sample.volume :=
  (confined_iff [] Sample.volume_new rfl).mpr (by decide)

/-- The name `/.` passes the check and names the base directory, which DeleteVolume then removes with
everything in it. -/
theorem confined_slash_dot :
    ∃ volume, newVolume (Sample.createRequest "/." "/pv2/" "bind" 1) = .ok volume ∧
      volume.filesystem = .bind ∧
      resolve [] (recordPath Sample.config volume) = baseDirectory Sample.config [] "/pv2/" ∧
      ¬Confined Sample.config [] "/pv2/" volume :=
  ⟨_, rfl, rfl, by decide, by decide⟩

/-! ### Object names -/

def ObjectName (name : String) : Prop :=
  ∀ c ∈ name.toList, c.isLower ∨ c.isDigit ∨ c = '-' ∨ c = '.'

instance (name : String) : Decidable (ObjectName name) := List.decidableBAll _ name.toList

theorem ObjectName.graphic {name : String} (plain : ObjectName name) {c : Char} (member : c ∈ name.toList) :
    33 ≤ c.toNat ∧ c.toNat ≤ 126 := by
  rcases plain c member with lower | digit | rfl | rfl
  · have range : (decide (97 ≤ c.val) && decide (c.val ≤ 122)) = true := lower
    simp only [Bool.and_eq_true, decide_eq_true_eq, UInt32.le_iff_toNat_le] at range
    obtain ⟨low, high⟩ : 97 ≤ c.toNat ∧ c.toNat ≤ 122 := range
    omega
  · have range : (decide (48 ≤ c.val) && decide (c.val ≤ 57)) = true := digit
    simp only [Bool.and_eq_true, decide_eq_true_eq, UInt32.le_iff_toNat_le] at range
    obtain ⟨low, high⟩ : 48 ≤ c.toNat ∧ c.toNat ≤ 57 := range
    omega
  · decide
  · decide

theorem ObjectName.flat {name : String} (plain : ObjectName name) : '/' ∉ name.toList := by
  intro member
  have allowed := plain _ member
  revert allowed
  decide

theorem ObjectName.endsBlank {name : String} (plain : ObjectName name) : ¬EndsBlank name := by
  intro stop
  obtain ⟨c, last, blank⟩ := stop
  obtain ⟨above, below⟩ := plain.graphic (List.mem_of_getLast? last)
  rw [isWhitespace_graphic above below] at blank
  cases blank

theorem names_object {name : String} (plain : ObjectName name) (valid : ¬InvalidName name) (named : name ≠ "") :
    names name = [name] := by
  have whole : segments name = [name.toList] := List.splitOn_eq_singleton plain.flat
  have filled : name.toList ≠ [] := fun empty => named (String.toList_eq_nil_iff.mp empty)
  have dot : name.toList ≠ ['.'] := by
    intro dot
    apply valid
    exact Or.inr (Or.inr (Or.inr (Or.inl (String.toList_injective dot))))
  simp [names, whole, filled, dot]

/-! ### The last component -/

/-- The path is the name, alone or below something. -/
def EndsIn (name : String) (path : Path) : Prop := path = name ∨ ∃ front, path = front ++ "/" ++ name

theorem endsIn_join {name : String} (base : Path) {path : Path} (ends : EndsIn name path) :
    EndsIn name (join base path) := by
  by_cases absolute : isAbsolute path
  · rw [join_absolute base absolute]
    exact ends
  · unfold join
    rw [if_neg absolute]
    rcases ends with rfl | ⟨front, rfl⟩
    · split
      · rename_i closed
        rcases closed with rfl | last
        · exact Or.inl String.empty_append
        · obtain ⟨chars, shape⟩ := List.getLast?_eq_some_iff.mp last
          exact Or.inr ⟨String.ofList chars, String.toList_injective (by simp [shape])⟩
      · exact Or.inr ⟨base, rfl⟩
    · split
      · exact Or.inr ⟨base ++ front, by simp only [String.append_assoc]⟩
      · exact Or.inr ⟨base ++ "/" ++ front, by simp only [String.append_assoc]⟩

/-- Trimming takes nothing from the name. -/
theorem EndsIn.trim {name : String} {path : Path} (ends : EndsIn name path) (plain : ObjectName name)
    (named : name ≠ "") :
    EndsIn name (trim path) := by
  have solid : ∀ c ∈ name.toList, isWhitespace c = false := by
    intro c member
    obtain ⟨above, below⟩ := plain.graphic member
    exact isWhitespace_graphic above below
  rcases ends with rfl | ⟨front, rfl⟩
  · left
    refine trim_self ?_ plain.endsBlank
    rintro ⟨c, first, blank⟩
    rw [solid c (List.mem_of_mem_head? first)] at blank
    cases blank
  · right
    have kept : (front ++ "/" ++ name).toList.dropWhile isWhitespace =
        front.toList.dropWhile isWhitespace ++ '/' :: name.toList := by
      have text : (front ++ "/" ++ name).toList = front.toList ++ '/' :: name.toList := by simp
      rw [text, List.dropWhile_append]
      split
      · rename_i all
        rw [List.isEmpty_iff.mp all, List.dropWhile_cons_of_neg (by decide)]
        rfl
      · rfl
    refine ⟨String.ofList (front.toList.dropWhile isWhitespace), String.toList_injective ?_⟩
    have last : (front.toList.dropWhile isWhitespace ++ '/' :: name.toList).rdropWhile isWhitespace =
        front.toList.dropWhile isWhitespace ++ '/' :: name.toList := by
      have filled : name.toList ≠ [] := fun empty => named (String.toList_eq_nil_iff.mp empty)
      rw [List.rdropWhile_eq_self_iff]
      intro _
      rw [List.getLast_append_of_ne_nil _ (List.cons_ne_nil _ _), List.getLast_cons filled,
        solid _ (List.getLast_mem filled)]
      exact Bool.false_ne_true
    rw [Unix.trim, kept, last]
    simp

theorem EndsIn.resolve {name : String} {path : Path} (ends : EndsIn name path) (plain : ObjectName name)
    (valid : ¬InvalidName name) (named : name ≠ "") (cwd : Location) :
    ∃ directory, Unix.resolve cwd path = directory ++ [name] := by
  have down (directory : Location) : descend directory name = directory ++ [name] := by
    rw [descend_names (noParent_of_valid valid), names_object plain valid named]
  rcases ends with rfl | ⟨front, rfl⟩
  · have relative : ¬isAbsolute path := fun absolute => plain.flat (List.mem_of_head? absolute)
    exact ⟨cwd, by rw [resolve_relative relative, down]⟩
  · by_cases empty : front = ""
    · subst empty
      rw [String.empty_append, Unix.resolve, components_rooted]
      exact ⟨[], down []⟩
    · rw [Unix.resolve, components_slash empty, List.foldl_append]
      exact ⟨_, down _⟩

/-- What lies there goes by the name of the volume. -/
def Belongs (name : String) (location : Location) : Prop := location.getLast? = some name

instance (name : String) (location : Location) : Decidable (Belongs name location) :=
  inferInstanceAs (Decidable (_ = _))

theorem Belongs.unique {a b : String} {location : Location} (first : Belongs a location)
    (second : Belongs b location) :
    a = b := Option.some.inj (first.symm.trans second)

/-- The volume has the name of an object, and lies under some base path by that name. -/
structure WellPlaced (volume : Volume) : Prop where
  plain : ObjectName volume.name
  valid : ¬InvalidName volume.name
  named : volume.name ≠ ""
  path : ∃ base, volume.hostPath = hostPath base volume.name

theorem newVolume_placed {request : CreateVolumeRequest} {volume : Volume} (built : newVolume request = .ok volume)
    (plain : ObjectName request.name) : WellPlaced volume := by
  obtain ⟨base, filesystem, configs, rfl, -, valid, named⟩ := newVolume_ok built
  exact ⟨plain, valid, named, base, rfl⟩

theorem WellPlaced.belongs {volume : Volume} (placed : WellPlaced volume) (cwd : Location) {path : Path}
    (member : path ∈ backingPaths config volume) : Belongs volume.name (resolve cwd path) := by
  obtain ⟨base, path'⟩ := placed.path
  have stored : EndsIn volume.name (hostPath base volume.name) := Or.inr ⟨stripSlashes base, rfl⟩
  have relative : EndsIn volume.name (relativeHostPath volume.hostPath) := by
    rw [path']
    by_cases empty : stripSlashes base = ""
    · exact Or.inl (relativeHostPath_empty _ empty)
    · rw [relativeHostPath_filled _ empty]
      exact stored
  have published : EndsIn volume.name (publishPath config volume) := endsIn_join _ relative
  have recorded : EndsIn volume.name (recordPath config volume) := endsIn_join _ (path' ▸ stored)
  have ends : EndsIn volume.name path := by
    simp only [backingPaths, dataPaths, List.mem_cons, List.not_mem_nil, or_false] at member
    rcases member with rfl | rfl | rfl
    · exact published.trim placed.plain placed.named
    · exact published
    · exact recorded
  obtain ⟨directory, found⟩ := ends.resolve placed.plain placed.valid placed.named cwd
  rw [Belongs, found, List.getLast?_concat]

end Lvp
