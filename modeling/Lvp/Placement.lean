import Mathlib.Logic.Function.Iterate
import Lvp.Isolation
import Lvp.Usage
import Lvp.Validation

/-!
Where free space is measured and where volumes are placed. Both handlers start from `host_base_path`, one at the
root or the working directory and the other at the prefix, so that they meet only if the path climbs out of
both or the two are one directory.
-/

namespace Lvp
open Unix Effect Csi

variable {config : Config} {cwd : Location} {base name : String} {parameters : StringMap} {owner : String}
  {oracle : Oracle Call Fault} {world : World}

/-! ### Paths in normal form -/

/-- Levels climbed above the start, and the names below the point reached. -/
def climb : Nat × List String → Component → Nat × List String
  | (levels, names), .normal name => (levels, names ++ [name])
  | (levels, names), .parentDir => if names = [] then (levels + 1, []) else (levels, names.dropLast)
  | state, _ => state

def climbs (path : Path) : Nat × List String := ((segments path).flatMap inner).foldl climb (0, [])

def above (levels : Nat) (directory : Location) : Location := List.dropLast^[levels] directory

theorem inner_cases {segment : List Char} {part : Component} (member : part ∈ inner segment) :
    part = .parentDir ∨ ∃ name, part = .normal name := by
  unfold Unix.inner at member
  split_ifs at member
  · cases member
  · exact Or.inl (List.mem_singleton.mp member)
  · exact Or.inr ⟨_, List.mem_singleton.mp member⟩

theorem enter_climb {part : Component} (known : part = .parentDir ∨ ∃ name, part = .normal name)
    (levels : Nat) (names : List String) (directory : Location) :
    enter (above levels directory ++ names) part =
      above (climb (levels, names) part).1 directory ++ (climb (levels, names) part).2 := by
  rcases known with rfl | ⟨name, rfl⟩
  · by_cases none : names = []
    · subst none
      simp [enter, climb, above, Function.iterate_succ_apply']
    · simp [enter, climb, none, List.dropLast_append_of_ne_nil]
  · simp [enter, climb]

theorem foldl_climb {parts : List Component}
    (known : ∀ part ∈ parts, part = .parentDir ∨ ∃ name, part = .normal name)
    (state : Nat × List String) (directory : Location) :
    parts.foldl enter (above state.1 directory ++ state.2) =
      above (parts.foldl climb state).1 directory ++ (parts.foldl climb state).2 := by
  induction parts generalizing state with
  | nil => rfl
  | cons part rest ih =>
    rw [List.foldl_cons, List.foldl_cons, enter_climb (known part List.mem_cons_self)]
    exact ih (fun part member => known part (List.mem_cons_of_mem _ member)) _

theorem descend_climbs (path : Path) (directory : Location) :
    descend directory path = above (climbs path).1 directory ++ (climbs path).2 := by
  have known : ∀ part ∈ (segments path).flatMap inner, part = .parentDir ∨ ∃ name, part = .normal name := by
    intro part member
    obtain ⟨segment, -, inside⟩ := List.mem_flatMap.mp member
    exact inner_cases inside
  have folded := foldl_climb known (0, []) directory
  rw [above, Function.iterate_zero_apply, List.append_nil] at folded
  exact folded

/-- One path leads to one place from two directories when it climbs out of what sets them apart. -/
theorem descend_meet {path : Path} {first second : Location} : descend first path = descend second path ↔
    above (climbs path).1 first = above (climbs path).1 second := by
  rw [descend_climbs, descend_climbs, List.append_left_inj]

/-! ### Slashes around a path -/

def parts (text : List Char) : List Component := (text.splitOn '/').flatMap inner

theorem parts_append (first second : List Char) : parts (first ++ '/' :: second) = parts first ++ parts second := by
  rw [parts, List.splitOn_append_cons_self, List.flatMap_append]
  rfl

theorem parts_nil : parts [] = [] := rfl

theorem parts_dropWhile (text : List Char) : parts (text.dropWhile (· = '/')) = parts text := by
  induction text with
  | nil => rfl
  | cons c rest ih =>
    by_cases slash : c = '/'
    · subst slash
      rw [List.dropWhile_cons_of_pos (by decide), ih]
      exact (parts_append [] rest).symm
    · rw [List.dropWhile_cons_of_neg (by simpa using slash)]

theorem parts_rdropWhile (text : List Char) : parts (text.rdropWhile (· = '/')) = parts text := by
  induction text using List.reverseRecOn with
  | nil => rfl
  | append_singleton rest c ih =>
    by_cases slash : c = '/'
    · subst slash
      rw [List.rdropWhile_concat_pos _ _ _ (by decide), ih, parts_append, parts_nil, List.append_nil]
    · rw [List.rdropWhile_concat_neg _ _ _ (by simpa using slash)]

theorem descend_stripSlashes (base : String) (directory : Location) :
    descend directory (stripSlashes base) = descend directory base := by
  have same : parts (stripSlashes base).toList = parts base.toList := by
    rw [stripSlashes, String.toList_ofList, parts_dropWhile, parts_rdropWhile]
  exact congrArg (List.foldl enter directory) same

/-! ### Where a volume is placed -/

/-- Everything of a name is one file in the directory that the base path names. -/
theorem resolve_publishPath {r : CreateVolumeRequest} {volume : Volume} (built : newVolume r = .ok volume)
    (given : r.parameters.lookup "host_base_path" = some base) (plain : ObjectName r.name) (cwd : Location) :
    resolve cwd (publishPath config volume) = baseDirectory config cwd base ++ [r.name] := by
  obtain ⟨named, -, valid, -, -, -, base', found, rfl⟩ := newVolume_read.mp built
  cases given.symm.trans found
  have flat := noParent_of_valid valid
  have single := names_object plain valid named
  by_cases empty : stripSlashes base = ""
  · have relative : ¬isAbsolute r.name := fun absolute => plain.flat (List.mem_of_head? absolute)
    show resolve cwd (join config.hostPrefix (relativeHostPath (hostPath base r.name))) = _
    rw [relativeHostPath_empty r.name empty, resolve_join cwd _ relative, descend_names flat, single,
      baseDirectory_empty cwd empty]
  · show resolve cwd (join config.hostPrefix (relativeHostPath (hostPath base r.name))) = _
    rw [relativeHostPath_filled r.name empty, resolve_hostPath cwd flat empty, single]

theorem baseDirectory_descend (config : Config) (cwd : Location) (base : String) :
    baseDirectory config cwd base = descend (resolve cwd config.hostPrefix) base := by
  rw [baseDirectory, resolve_join cwd _ (stripSlashes_relative base), descend_stripSlashes]

/-- Where a path starts. -/
def startOf (cwd : Location) (path : Path) : Location := if isAbsolute path then [] else cwd

theorem resolve_startOf (cwd : Location) (path : Path) : resolve cwd path = descend (startOf cwd path) path := by
  unfold startOf
  split
  case isTrue absolute => exact resolve_absolute absolute cwd
  case isFalse relative => exact resolve_relative relative cwd

/-- The base path climbs out of whatever sets its own start and the prefix apart. -/
def Converges (config : Config) (cwd : Location) (base : String) : Prop :=
  above (climbs base).1 (startOf cwd base) = above (climbs base).1 (resolve cwd config.hostPrefix)

/-! ### The two handlers -/

/-- The empty path leads nowhere. -/
def LeadsTo (cwd : Location) (path : Path) (location : Location) : Prop := path ≠ "" ∧ resolve cwd path = location

/-- GetCapacity takes the parameters, and measures the directory that volumes with them are placed in. -/
structure Alike (config : Config) (cwd : Location) (parameters : StringMap) : Prop where
  accepted : ∀ topology owner oracle world status,
    ((getCapacity config ⟨parameters, topology⟩).run (World.exec owner) oracle world).1 = .error status →
      status.code ≠ .invalidArgument
  measured : ∀ owner oracle world r volume, r.parameters = parameters → ObjectName r.name →
    newVolume r = .ok volume →
    ∃ path, (getCapacity config ⟨parameters, none⟩).visits (World.exec owner) oracle world =
      [(world, .statvfs path)] ∧
      LeadsTo cwd path (resolve cwd (publishPath config volume)).dropLast

theorem readCapacityParameter_error {found : Option String} {entry : (_ : String) × String} {status : Status}
    (refused : readCapacityParameter found entry = .error status) : status.code = .invalidArgument := by
  unfold readCapacityParameter at refused
  split_ifs at refused
  cases refused
  rfl

theorem getCapacity_visits (read : parameters.entries.foldlM readCapacityParameter none = .ok (some base)) :
    (getCapacity config ⟨parameters, none⟩).visits (World.exec owner) oracle world = [(world, .statvfs base)] := by
  have measure : getCapacity config ⟨parameters, none⟩ =
      (statfs base).mapErr (fun _ => Status.internal "failed to get fs stats") >>= fun stats =>
        pure ⟨(stats.blocksFreeUnprivileged * stats.blockSize).toInt64, none, none⟩ := by
    simp [getCapacity, Program.reject, read, Program.ofExcept]
  rw [measure, statfs, issue]
  simp only [Program.call_bind, Program.mapErr, Program.visits]
  cases (World.exec owner (oracle 0 (.statvfs base)) world (.statvfs base)).1 <;> rfl

theorem getCapacity_error {topology : Option Topology} {status : Status}
    (failed : ((getCapacity config ⟨parameters, topology⟩).run (World.exec owner) oracle world).1 = .error status) :
    status.code = .resourceExhausted ∨ status.code = .internal ∨
      parameters.entries.foldlM readCapacityParameter none = .error status := by
  have safe : Safe (alone (World.exec owner)) (getCapacity config ⟨parameters, topology⟩) (fun _ _ => True)
      (fun status _ => status.code = .resourceExhausted ∨ status.code = .internal ∨
        parameters.entries.foldlM readCapacityParameter none = .error status) world := by
    refine safe_bind.mpr (safe_reject.mpr ⟨fun _ => Or.inl rfl, fun _ => ?_⟩)
    refine safe_bind.mpr (safe_ofExcept.mpr ⟨fun status refused => Or.inr (Or.inr refused), fun base _ => ?_⟩)
    cases base with
    | none => trivial
    | some base =>
      refine safe_bind.mpr (safe_mapErr.mpr (safe_bind.mpr (safe_issue ?_ ?_)))
      · exact fun _ _ _ => trivial
      · exact fun _ _ => Or.inr (Or.inl rfl)
  exact safe.raises failed

/-- With the parameters of a volume, GetCapacity looks at where the volume is placed exactly when no filesystem is
named and the base path converges. -/
theorem capacity_placement_iff (accepted : ∃ r volume, r.parameters = parameters ∧ newVolume r = .ok volume)
    (cwd : Location) : Alike config cwd parameters ↔
      "fs_type" ∉ parameters ∧ ∃ base, parameters.lookup "host_base_path" = some base ∧ base ≠ "" ∧
        Converges config cwd base := by
  obtain ⟨r, volume, rfl, built⟩ := accepted
  obtain ⟨-, some, -, keys, -, -, base, given, -⟩ := newVolume_read.mp built
  have acceptable := (newVolume_accepts.mp ⟨volume, built⟩).2.2.2
  have plain : ObjectName "a" := by decide
  have renamed : ∃ volume, newVolume { r with name := "a" } = .ok volume :=
    newVolume_accepts.mpr ⟨show "a" ≠ "" by decide, some, show ¬InvalidName "a" by decide, acceptable⟩
  have given' : r.parameters.entries.dlookup "host_base_path" = .some base := given
  have read : r.parameters.entries.foldlM readCapacityParameter none = .ok (.some base) ↔
      "fs_type" ∉ r.parameters := by
    rw [readCapacityParameters r.parameters.nodupKeys, given', Option.or_none, eq_self_iff_true, and_true]
    constructor
    · intro known named
      obtain ⟨entry, member, same⟩ := List.mem_map.mp named
      have other := known entry member
      rw [same] at other
      exact absurd other (by decide)
    · intro unnamed entry member
      refine (keys entry.1 (List.mem_map_of_mem member)).resolve_right fun named => unnamed ?_
      rw [← named]
      exact List.mem_map_of_mem member
  constructor
  · rintro ⟨takes, measured⟩
    have unnamed : "fs_type" ∉ r.parameters := by
      cases found : r.parameters.entries.foldlM readCapacityParameter none with
      | error status =>
        have failed : ((getCapacity config ⟨r.parameters, none⟩).run (World.exec "") healthy {}).1 =
            .error status := by
          simp [getCapacity, Program.reject, found, Program.ofExcept, Program.run]
        have code := foldlM_error (fun _ _ _ => readCapacityParameter_error) found
        exact absurd code (takes _ _ _ _ _ failed)
      | ok result =>
        rw [← read, found]
        rw [readCapacityParameters r.parameters.nodupKeys, given', Option.or_none] at found
        rw [found.2]
    obtain ⟨placed, built'⟩ := renamed
    obtain ⟨path, visits, filled, leads⟩ := measured "" healthy {} { r with name := "a" } placed rfl plain built'
    rw [getCapacity_visits (read.mpr unnamed)] at visits
    obtain rfl : base = path := by simpa using visits
    rw [resolve_publishPath built' given plain, List.dropLast_concat, resolve_startOf,
      baseDirectory_descend] at leads
    exact ⟨unnamed, base, given, filled, descend_meet.mp leads⟩
  · rintro ⟨unnamed, _, found, filled, converges⟩
    obtain rfl := Option.some.inj (given.symm.trans found)
    refine ⟨fun topology owner oracle world status failed => ?_,
      fun owner oracle world r' volume' same plain built' => ?_⟩
    · rcases getCapacity_error failed with code | code | refused
      · rw [code]; decide
      · rw [code]; decide
      · rw [read.mpr unnamed] at refused
        cases refused
    · refine ⟨base, getCapacity_visits (read.mpr unnamed), filled, ?_⟩
      rw [resolve_publishPath built' (by rw [same]; exact given) plain, List.dropLast_concat, resolve_startOf,
        baseDirectory_descend]
      exact descend_meet.mpr converges

namespace Sample

def onlyBase (base : String) : StringMap := [⟨"host_base_path", base⟩].toAList

def baseRequest (base : String) : CreateVolumeRequest :=
  { createRequest "a" base "" 7 with parameters := onlyBase base }

end Sample

/-- Without a prefix, an absolute base path is measured where its volumes are placed. -/
theorem capacity_placement_iff_sample : Alike ⟨"/", "ho.me"⟩ [] (Sample.onlyBase "/pv2/") :=
  (capacity_placement_iff ⟨Sample.baseRequest "/pv2/", _, rfl, rfl⟩ []).mpr ⟨by decide, "/pv2/",
    rfl, by decide, rfl⟩

/-- With the prefix `/host/`, another directory is measured; and `fs_type` is refused. -/
theorem capacity_elsewhere :
    (∃ volume, newVolume (Sample.baseRequest "/pv2/") = .ok volume ∧
      resolve [] (publishPath Sample.config volume) = ["host", "pv2", "a"]) ∧
    (getCapacity Sample.config ⟨Sample.onlyBase "/pv2/", none⟩).visits (World.exec "") healthy {} =
      [({}, .statvfs "/pv2/")] ∧ resolve [] "/pv2/" = ["pv2"] ∧
    ¬Alike Sample.config [] (Sample.onlyBase "/pv2/") ∧
    ((getCapacity Sample.config ⟨(Sample.createRequest "a" "/pv2/" "ext4" 7).parameters, none⟩).run (World.exec "")
      healthy {}).1 = .error (.invalidArgument "unknown parameter fs_type") := by
  refine ⟨⟨_, rfl, by decide⟩, rfl, by decide, fun alike => ?_, rfl⟩
  obtain ⟨path, visits, -, leads⟩ := alike.measured "" healthy {} (Sample.baseRequest "/pv2/") _ rfl (by decide) rfl
  have measured : (getCapacity Sample.config ⟨Sample.onlyBase "/pv2/", none⟩).visits (World.exec "") healthy {} =
      [({}, .statvfs "/pv2/")] := rfl
  rw [measured] at visits
  obtain rfl : "/pv2/" = path := by simpa using visits
  revert leads
  decide

end Lvp
