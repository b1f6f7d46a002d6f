import Mathlib.Tactic.Positivity
import Lvp.Server
import Lvp.Word

/-!
What is reported of a file system. `statvfs` counts blocks in units of `f_frsize`; both handlers multiply
by `f_bsize`.
-/

namespace Lvp
open Unix Effect Csi

variable {config : Config} {world : World} {owner : String} {oracle : Oracle Call Fault} {out : Statvfs64}

/-- What a kernel answers: free is at most total, and the totals are `i64` values. -/
structure Plausible (out : Statvfs64) : Prop where
  available : out.bavail ≤ out.bfree
  free : out.bfree ≤ out.blocks
  bytes : out.blocks.toNat * out.frsize.toNat < 2 ^ 63
  inodesAvailable : out.favail ≤ out.ffree
  inodesFree : out.ffree ≤ out.files
  inodes : out.files.toNat < 2 ^ 63

/-- `free` of `size` units, with no wrapping. -/
structure Counts (report : VolumeUsage) (free size : Nat) : Prop where
  available : report.available.toInt = free
  total : report.total.toInt = size
  used : report.used.toInt = size - free

/-- No product and no difference of `usage` leaves `u64`. -/
structure Unwrapped (stats : Stats) : Prop where
  available : stats.blocksFreeUnprivileged.toNat * stats.blockSize.toNat < 2 ^ 64
  total : stats.blockCount.toNat * stats.blockSize.toNat < 2 ^ 64
  used : stats.blocksFreeUnprivileged ≤ stats.blockCount
  inodes : stats.inodesFreeUnprivileged ≤ stats.inodes

/-- The reported usage is what the kernel counted. -/
def UsageExact (out : Statvfs64) (usage : List VolumeUsage) : Prop :=
  ∃ bytes inodes, usage = [bytes, inodes] ∧ bytes.unit = .bytes ∧ inodes.unit = .inodes ∧
    Counts bytes (out.bavail.toNat * out.frsize.toNat) (out.blocks.toNat * out.frsize.toNat) ∧
    Counts inodes out.favail.toNat out.files.toNat ∧
    (∀ report ∈ usage, 0 ≤ report.available.toInt ∧ 0 ≤ report.total.toInt ∧ 0 ≤ report.used.toInt) ∧
    Unwrapped (stats out)

def CapacityExact (out : Statvfs64) (available : Int64) : Prop :=
  available.toInt = out.bavail.toNat * out.frsize.toNat ∧ 0 ≤ available.toInt ∧
    out.bavail.toNat * out.bsize.toNat < 2 ^ 64

/-! ### The handlers -/

theorem safe_statfs {α : Type} {path : Path} {next : Stats → Action Status α} {failure : Failure → Status}
    {post : α → World → Prop}
    (measured : Safe (alone (World.exec owner)) (next (stats (world.host.statvfs (world.host.resolve path)))) post
      (fun _ _ => True) world) :
    Safe (alone (World.exec owner)) ((statfs path).mapErr failure >>= next) post (fun _ _ => True) world := by
  refine safe_bind.mpr (safe_mapErr.mpr (safe_bind.mpr (safe_issue (fun out after performed => ?_) fun _ _ => trivial)))
  simp only [World.perform, fromHost] at performed
  cases found : world.host.stat path with
  | error error => simp [found, Except.map, Except.mapError] at performed
  | ok node =>
    simp only [found, Except.map, Except.mapError, Prod.mk.injEq, Except.ok.injEq] at performed
    obtain ⟨rfl, rfl⟩ := performed
    exact measured

theorem nodeGetVolumeStats_ok {r : NodeGetVolumeStatsRequest} {response : NodeGetVolumeStatsResponse}
    (returned : ((nodeGetVolumeStats r).run (World.exec owner) oracle world).1 = .ok response) :
    response.usage = usage (stats (world.host.statvfs (world.host.resolve r.volumePath))) := by
  have safe : Safe (alone (World.exec owner)) (nodeGetVolumeStats r) (fun response _ =>
      response.usage = usage (stats (world.host.statvfs (world.host.resolve r.volumePath))))
        (fun _ _ => True) world := by
    refine safe_bind.mpr (safe_reject.mpr ⟨fun _ => trivial, fun _ => ?_⟩)
    refine safe_bind.mpr (safe_reject.mpr ⟨fun _ => trivial, fun _ => ?_⟩)
    refine safe_bind.mpr (safe_bind.mpr (safe_mapErr.mpr (safe_issue (fun found after loaded => ?_) fun _ _ =>
      trivial)))
    cases loaded
    refine safe_ofOption.mpr ⟨fun _ => trivial, fun volume _ => ?_⟩
    refine safe_bind.mpr (safe_reject.mpr ⟨fun _ => trivial, fun _ => safe_statfs ?_⟩)
    exact rfl
  exact safe.returns returned

/-- What `get_capacity` makes of the parameters: `host_base_path` is the only one it knows. -/
theorem readCapacityParameters {entries : List ((_ : String) × String)} {start found : Option String}
    (distinct : entries.NodupKeys) :
    entries.foldlM readCapacityParameter start = .ok found ↔
      (∀ entry ∈ entries, entry.1 = "host_base_path") ∧ found = (entries.dlookup "host_base_path").or start := by
  induction entries generalizing start with
  | nil => simp [pure, Except.pure, eq_comm]
  | cons entry rest ih =>
    obtain ⟨key, value⟩ := entry
    rw [List.nodupKeys_cons] at distinct
    rw [List.foldlM_cons, List.forall_mem_cons, readCapacityParameter]
    by_cases known : key = "host_base_path"
    · subst known
      rw [if_pos rfl]
      show rest.foldlM readCapacityParameter (some value) = .ok found ↔ _
      rw [ih distinct.2, List.dlookup_eq_none.mpr distinct.1, List.dlookup_cons_eq]
      simp
    · rw [if_neg known]
      exact iff_of_false nofun fun both => known both.1.1

theorem getCapacity_ok {r : GetCapacityRequest} {response : GetCapacityResponse} {base : String}
    (given : r.parameters.lookup "host_base_path" = some base)
    (returned : ((getCapacity config r).run (World.exec owner) oracle world).1 = .ok response) :
    response.availableCapacity = (let out := world.host.statvfs (world.host.resolve base)
      (out.bavail * out.bsize).toInt64) := by
  have safe : Safe (alone (World.exec owner)) (getCapacity config r) (fun response _ =>
      response.availableCapacity = (let out := world.host.statvfs (world.host.resolve base)
        (out.bavail * out.bsize).toInt64)) (fun _ _ => True) world := by
    refine safe_bind.mpr (safe_reject.mpr ⟨fun _ => trivial, fun _ => ?_⟩)
    refine safe_bind.mpr (safe_ofExcept.mpr ⟨fun _ _ => trivial, fun found read => ?_⟩)
    obtain ⟨-, rfl⟩ := (readCapacityParameters r.parameters.nodupKeys).mp read
    have found : (r.parameters.entries.dlookup "host_base_path").or none = some base := by
      rw [Option.or_none]
      exact given
    rw [found]
    exact safe_statfs rfl
  exact safe.returns returned

/-! ### The two block sizes -/

/-- A product that is reported exactly and stays in `u64` is the product of the counted units. -/
theorem units_agree {count size unit : UInt64} (exact : (count * size).toInt64.toInt = count.toNat * unit.toNat)
    (fits : count.toNat * size.toNat < 2 ^ 64) : size = unit ∨ count = 0 := by
  have nonneg : 0 ≤ (count * size).toInt64.toInt := by
    rw [exact]
    positivity
  rw [Word.toInt64_exact.mpr (Word.toInt64_nonneg.mp nonneg), Word.mul_exact fits] at exact
  have same : count.toNat * size.toNat = count.toNat * unit.toNat := by exact_mod_cast exact
  rcases Nat.eq_zero_or_pos count.toNat with none | some
  · exact Or.inr (UInt64.toNat_inj.mp none)
  · exact Or.inl (UInt64.toNat_inj.mp (Nat.eq_of_mul_eq_mul_left some same))

theorem scaled_exact {count size unit : UInt64} (agree : size = unit ∨ count = 0)
    (fits : count.toNat * unit.toNat < 2 ^ 63) :
    count.toNat * size.toNat < 2 ^ 64 ∧ (count * size).toInt64.toInt = count.toNat * unit.toNat := by
  have same : count.toNat * size.toNat = count.toNat * unit.toNat := by
    rcases agree with rfl | rfl
    · rfl
    · simp
  have bound : count.toNat * size.toNat < 2 ^ 64 := by omega
  refine ⟨bound, ?_⟩
  have small : (count * size).toNat < 2 ^ 63 := by
    rw [Word.mul_exact bound]
    omega
  rw [Word.toInt64_exact.mpr small, Word.mul_exact bound, same]
  push_cast
  rfl

theorem usage_exact (sound : Plausible out) :
    UsageExact out (usage (stats out)) ↔ out.bsize = out.frsize ∨ out.blocks = 0 := by
  have below : out.bavail.toNat ≤ out.blocks.toNat :=
    UInt64.le_iff_toNat_le.mp (UInt64.le_trans sound.available sound.free)
  have inodes : out.favail.toNat ≤ out.files.toNat :=
    UInt64.le_iff_toNat_le.mp (UInt64.le_trans sound.inodesAvailable sound.inodesFree)
  constructor
  · rintro ⟨bytes, _, listed, -, -, counted, -, -, unwrapped⟩
    obtain ⟨rfl, -⟩ := List.cons.inj listed
    exact units_agree (by exact_mod_cast counted.total) unwrapped.total
  · intro agree
    have fewer (count : UInt64) (few : count.toNat ≤ out.blocks.toNat) :
        (out.bsize = out.frsize ∨ count = 0) ∧ count.toNat * out.frsize.toNat < 2 ^ 63 := by
      refine ⟨agree.imp_right fun none => ?_, (Nat.mul_le_mul_right _ few).trans_lt sound.bytes⟩
      rw [none] at few
      exact UInt64.toNat_inj.mp (Nat.le_zero.mp few)
    have rest : (out.blocks - out.bavail).toNat = out.blocks.toNat - out.bavail.toNat := Word.sub_exact below
    obtain ⟨fitsTotal, total⟩ := scaled_exact agree sound.bytes
    obtain ⟨agreeFree, boundFree⟩ := fewer out.bavail below
    obtain ⟨fitsFree, free⟩ := scaled_exact agreeFree boundFree
    obtain ⟨agreeUsed, boundUsed⟩ := fewer (out.blocks - out.bavail) (by omega)
    obtain ⟨-, used⟩ := scaled_exact agreeUsed boundUsed
    rw [rest, Nat.cast_sub below, Int.sub_mul] at used
    have files : out.files.toInt64.toInt = out.files.toNat := Word.toInt64_exact.mpr sound.inodes
    have favail : out.favail.toInt64.toInt = out.favail.toNat := Word.toInt64_exact.mpr (by
      have bound := sound.inodes
      omega)
    have taken : (out.files - out.favail).toInt64.toInt = out.files.toNat - out.favail.toNat := by
      have bound := sound.inodes
      rw [Word.toInt64_exact.mpr (by rw [Word.sub_exact inodes]; omega), Word.sub_exact inodes, Nat.cast_sub inodes]
    have scaled : (out.bavail.toNat * out.frsize.toNat : Int) ≤ out.blocks.toNat * out.frsize.toNat := by
      exact_mod_cast Nat.mul_le_mul_right _ below
    refine ⟨_, _, rfl, rfl, rfl, ⟨by exact_mod_cast free, by exact_mod_cast total, by exact_mod_cast used⟩,
      ⟨favail, files, taken⟩, ?_, ⟨fitsFree, fitsTotal, UInt64.le_iff_toNat_le.mpr below,
        UInt64.le_iff_toNat_le.mpr inodes⟩⟩
    intro report member
    rcases List.mem_cons.mp member with rfl | member
    · simp only [stats]
      rw [free, total, used]
      exact ⟨by positivity, by positivity, sub_nonneg.mpr scaled⟩
    · obtain rfl := List.mem_singleton.mp member
      simp only [stats]
      rw [favail, files, taken]
      omega

theorem capacity_exact (sound : Plausible out) :
    CapacityExact out (out.bavail * out.bsize).toInt64 ↔ out.bsize = out.frsize ∨ out.bavail = 0 := by
  have below : out.bavail.toNat ≤ out.blocks.toNat :=
    UInt64.le_iff_toNat_le.mp (UInt64.le_trans sound.available sound.free)
  constructor
  · rintro ⟨exact, -, fits⟩
    exact units_agree exact fits
  · intro agree
    obtain ⟨fits, exact⟩ := scaled_exact agree ((Nat.mul_le_mul_right _ below).trans_lt sound.bytes)
    exact ⟨exact, by rw [exact]; positivity, fits⟩

/-- NodeGetVolumeStats and GetCapacity report what the kernel counted exactly when its two block sizes agree
or there is nothing to multiply. -/
theorem usage_reported_iff (world : World) (owner : String) (oracle : Oracle Call Fault) :
    (∀ r response, ((nodeGetVolumeStats r).run (World.exec owner) oracle world).1 = .ok response →
      let out := world.host.statvfs (world.host.resolve r.volumePath)
      Plausible out → (UsageExact out response.usage ↔ out.bsize = out.frsize ∨ out.blocks = 0)) ∧
    ∀ config r base response, r.parameters.lookup "host_base_path" = some base →
      ((getCapacity config r).run (World.exec owner) oracle world).1 = .ok response →
      let out := world.host.statvfs (world.host.resolve base)
      Plausible out → (CapacityExact out response.availableCapacity ↔ out.bsize = out.frsize ∨ out.bavail = 0) := by
  constructor
  · intro r response returned out sound
    rw [nodeGetVolumeStats_ok returned]
    exact usage_exact sound
  · intro config r base response given returned out sound
    rw [getCapacity_ok given returned]
    exact capacity_exact sound

namespace Sample

/-- Half of a file system of 1000 fragments of 4 KiB is free. -/
def halfFree (bsize : UInt64) : Statvfs64 where
  bsize := bsize
  frsize := 4096
  blocks := 1000
  bfree := 500
  bavail := 400
  files := 64
  ffree := 32
  favail := 32

def mountedA : List (Request × Oracle Call Fault) :=
  [(create "a" "/pv2/" "ext4" 7, healthy), (publish "a" 7, healthy), (nodePublish "a" "/t" 7, healthy)]

def measured (bsize : UInt64) : World :=
  ⟨(serveAll Sample.config ⟨∅, {}⟩ mountedA).store,
    { files := [⟨["t"], .directory⟩].toAList, statvfs := fun _ => halfFree bsize }⟩

theorem measured_statvfs (bsize : UInt64) (location : Location) :
    (measured bsize).host.statvfs location = halfFree bsize := rfl

theorem halfFree_sound (bsize : UInt64) : Plausible (halfFree bsize) where
  available := show (400 : UInt64) ≤ 500 by decide
  free := show (500 : UInt64) ≤ 1000 by decide
  bytes := show (1000 : UInt64).toNat * (4096 : UInt64).toNat < 2 ^ 63 by decide
  inodesAvailable := show (32 : UInt64) ≤ 32 by decide
  inodesFree := show (32 : UInt64) ≤ 64 by decide
  inodes := show (64 : UInt64).toNat < 2 ^ 63 by decide

def capacity : GetCapacityRequest := ⟨[⟨"host_base_path", "/"⟩].toAList, none⟩

end Sample

theorem usage_reported_iff_sample :
    UsageExact (Sample.halfFree 4096) (usage (stats (Sample.halfFree 4096))) ∧
      CapacityExact (Sample.halfFree 4096) 1638400 := by
  have reported : ((nodeGetVolumeStats ⟨"a", "/t"⟩).run (World.exec "a") healthy (Sample.measured 4096)).1 =
      .ok ⟨usage (stats (Sample.halfFree 4096)), some ⟨false, ""⟩⟩ := by decide +kernel
  have available : ((getCapacity Sample.config Sample.capacity).run (World.exec "a") healthy
      (Sample.measured 4096)).1 = .ok ⟨1638400, none, none⟩ := by decide +kernel
  obtain ⟨volume, capacity⟩ := usage_reported_iff (Sample.measured 4096) "a" healthy
  have volume := volume _ _ reported
  have capacity := capacity _ _ "/" _ rfl available
  simp only [Sample.measured_statvfs] at volume capacity
  have sound := Sample.halfFree_sound 4096
  exact ⟨(volume sound).mpr (Or.inl rfl), (capacity sound).mpr (Or.inl rfl)⟩

/-- With `f_bsize` twice `f_frsize`, twice the size is reported. -/
theorem usage_doubled :
    Plausible (Sample.halfFree 8192) ∧
    ((nodeGetVolumeStats ⟨"a", "/t"⟩).run (World.exec "a") healthy (Sample.measured 8192)).1 =
      .ok ⟨[⟨3276800, 8192000, 4915200, .bytes⟩, ⟨32, 64, 32, .inodes⟩], some ⟨false, ""⟩⟩ ∧
    ¬UsageExact (Sample.halfFree 8192) [⟨3276800, 8192000, 4915200, .bytes⟩, ⟨32, 64, 32, .inodes⟩] := by
  refine ⟨Sample.halfFree_sound _, by decide +kernel, ?_⟩
  rintro ⟨bytes, _, listed, -, -, counted, -⟩
  obtain ⟨rfl, -⟩ := List.cons.inj listed
  exact absurd counted.total (by decide)

end Lvp
