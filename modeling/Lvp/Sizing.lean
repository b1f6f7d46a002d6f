import Lvp.Outcome
import Lvp.Reconciliation
import Lvp.Validation
import Lvp.Word

/-!
Capacity requests. `required_bytes` is cast to `u64` unchecked and `limit_bytes` is never read, so that a request
is honoured only if what was asked for happens to be in order.
-/

namespace Lvp
open Unix Effect Csi

variable {config : Config} {owner : String} {oracle : Oracle Call Fault} {start world : World} {volume : Volume}
  {range : Option CapacityRange} {size before after : UInt64} {reported : Int64}

/-- No negative value gets through. -/
def NonNegative (range : Option CapacityRange) : Prop :=
  ∀ given ∈ range, 0 ≤ given.requiredBytes.toInt ∧ 0 ≤ given.limitBytes.toInt

/-- A word reported as the non-negative number that it is. -/
def Reported (size : UInt64) (reported : Int64) : Prop := reported.toInt = size.toNat ∧ 0 ≤ reported.toInt

/-- What Ok means for a CreateVolume that stored `size`. -/
structure CreateHonoured (range : Option CapacityRange) (size : UInt64) (reported : Int64) : Prop where
  nonNegative : NonNegative range
  positive : 0 < size
  required : ∀ given ∈ range, given.requiredBytes.toInt ≤ size.toNat
  limit : ∀ given ∈ range, 0 < given.limitBytes.toInt → (size.toNat : Int) ≤ given.limitBytes.toInt
  reported : Reported size reported

/-- What Ok means for a NodeExpandVolume that found the size `before` and left the size `after`. -/
structure ExpandHonoured (range : Option CapacityRange) (before after : UInt64) (reported : Int64) : Prop where
  nonNegative : NonNegative range
  grown : before ≤ after
  required : ∀ given ∈ range, given.requiredBytes.toInt ≤ after.toNat
  limit : ∀ given ∈ range, 0 < given.limitBytes.toInt → (before.toNat : Int) ≤ given.limitBytes.toInt →
    (after.toNat : Int) ≤ given.limitBytes.toInt
  reported : Reported after reported

/-- A range that CreateVolume treats as it should. -/
def Creatable (range : Option CapacityRange) : Prop :=
  ∀ given ∈ range, 0 < given.requiredBytes.toInt ∧ 0 ≤ given.limitBytes.toInt ∧
    (0 < given.limitBytes.toInt → given.requiredBytes.toInt ≤ given.limitBytes.toInt)

/-- A range that NodeExpandVolume treats as it should, for a volume of the size `before`. -/
def Growable (range : Option CapacityRange) (before : UInt64) : Prop :=
  before.toNat < 2 ^ 63 ∧ ∀ given ∈ range, 0 ≤ given.requiredBytes.toInt ∧ 0 ≤ given.limitBytes.toInt ∧
    (0 < given.limitBytes.toInt → (before.toNat : Int) ≤ given.limitBytes.toInt →
      given.requiredBytes.toInt ≤ given.limitBytes.toInt)

/-- The size whose length a request gives to `ftruncate`. -/
def Truncates (request : Request) (world : World) (size : UInt64) : Prop :=
  match request with
  | .nodePublishVolume r => ∃ volume, world.store.lookup (volumeKey r.volumeId) = some volume ∧ size = volume.size
  | .nodeExpandVolume r => size = requestedSize r.capacityRange
  | _ => False

/-! ### Numbers -/

theorem reported_iff : Reported size size.toInt64 ↔ size.toNat < 2 ^ 63 :=
  ⟨fun both => Word.toInt64_nonneg.mp both.2, fun small =>
    ⟨Word.toInt64_exact.mpr small, Word.toInt64_nonneg.mpr small⟩⟩

theorem requestedSize_given (given : CapacityRange) (nonneg : 0 ≤ given.requiredBytes.toInt) :
    ((requestedSize (some given)).toNat : Int) = given.requiredBytes.toInt := Word.toUInt64_exact nonneg

theorem createHonoured_iff : CreateHonoured range (requestedSize range) (requestedSize range).toInt64 ↔
    Creatable range := by
  cases range with
  | none =>
    refine iff_of_true ⟨fun _ member => (nomatch member), ?_, fun _ member => (nomatch member),
      fun _ member => (nomatch member), reported_iff.mpr ?_⟩ fun _ member => nomatch member
    · show (0 : UInt64) < 1073741824
      decide
    · show (1073741824 : UInt64).toNat < 2 ^ 63
      decide
  | some given =>
    constructor
    · rintro ⟨nonNegative, positive, required, limit, reported⟩ _ ⟨⟩
      obtain ⟨nonneg, limited⟩ := nonNegative given rfl
      have exact_ := requestedSize_given given nonneg
      have positive := UInt64.lt_iff_toNat_lt.mp positive
      rw [UInt64.toNat_zero] at positive
      exact ⟨by omega, limited, fun some => by have := limit given rfl some; omega⟩
    · intro creatable
      obtain ⟨positive, limited, fits⟩ := creatable given rfl
      have exact_ := requestedSize_given given positive.le
      refine ⟨?_, ?_, ?_, ?_, reported_iff.mpr (Word.toUInt64_nonneg.mp positive.le)⟩
      · rintro _ ⟨⟩
        exact ⟨positive.le, limited⟩
      · rw [UInt64.lt_iff_toNat_lt, UInt64.toNat_zero]
        omega
      · rintro _ ⟨⟩
        exact exact_.ge
      · rintro _ ⟨⟩ some
        rw [exact_]
        exact fits some

theorem expandHonoured_kept (small : requestedSize range ≤ before) :
    ExpandHonoured range before before before.toInt64 ↔ Growable range before := by
  constructor
  · rintro ⟨nonNegative, -, required, limit, reported⟩
    refine ⟨reported_iff.mp reported, fun given member => ?_⟩
    obtain ⟨nonneg, limited⟩ := nonNegative given member
    refine ⟨nonneg, limited, fun some within => ?_⟩
    exact (required given member).trans (limit given member some within)
  · rintro ⟨fits, growable⟩
    refine ⟨fun given member => ⟨(growable given member).1, (growable given member).2.1⟩, UInt64.le_refl _, ?_,
      fun _ _ _ within => within, reported_iff.mpr fits⟩
    intro given member
    cases member
    have exact_ := requestedSize_given given (growable given rfl).1
    have := UInt64.le_iff_toNat_le.mp small
    omega

theorem expandHonoured_grown (large : before < requestedSize range) :
    ExpandHonoured range before (requestedSize range) (requestedSize range).toInt64 ↔ Growable range before := by
  have larger := UInt64.lt_iff_toNat_lt.mp large
  constructor
  · rintro ⟨nonNegative, -, required, limit, reported⟩
    have fits := reported_iff.mp reported
    refine ⟨by omega, fun given member => ?_⟩
    obtain ⟨nonneg, limited⟩ := nonNegative given member
    refine ⟨nonneg, limited, fun some within => ?_⟩
    exact (required given member).trans (limit given member some within)
  · rintro ⟨-, growable⟩
    refine ⟨fun given member => ⟨(growable given member).1, (growable given member).2.1⟩,
      UInt64.le_of_lt large, ?_, ?_, reported_iff.mpr ?_⟩
    · rintro given ⟨⟩
      exact (requestedSize_given given (growable given rfl).1).ge
    · rintro given ⟨⟩ some within
      obtain ⟨nonneg, -, fits⟩ := growable given rfl
      rw [requestedSize_given given nonneg]
      exact fits some within
    · cases range with
      | none =>
        show (1073741824 : UInt64).toNat < 2 ^ 63
        decide
      | some given => exact Word.toUInt64_nonneg.mp (growable given rfl).1

/-! ### Handlers -/

/-- What a NodeExpandVolume that returns Ok has done. -/
def Expands (r : NodeExpandVolumeRequest) (start : World) (response : NodeExpandVolumeResponse)
    (world : World) : Prop :=
  ∃ volume, start.store.lookup (volumeKey r.volumeId) = some volume ∧
    (requestedSize r.capacityRange ≤ volume.size ∧ response = ⟨volume.size.toInt64⟩ ∧ world.store = start.store ∨
      volume.size < requestedSize r.capacityRange ∧ response = ⟨(requestedSize r.capacityRange).toInt64⟩ ∧
        world.store.lookup volume.key = some { volume with size := requestedSize r.capacityRange })

/-- A call of the host keeps the store as it was. -/
theorem safe_onHost {call : Call} (onHost : call.onStore = false) {now : World} (same : now.store = world.store) :
    Safe (alone (World.exec owner)) (issue call) (fun _ after => after.store = world.store)
      (fun _ _ => True) now := by
  refine safe_issue (fun value after performed => ?_) fun _ _ => trivial
  have kept : (now.perform owner call).2.store = now.store := perform_store onHost
  rw [performed] at kept
  exact kept.trans same

theorem growFilesystem_store {filesystem : Filesystem} {device : Path} {now : World}
    (same : now.store = world.store) : Safe (alone (World.exec owner)) (growFilesystem filesystem device)
      (fun _ after => after.store = world.store) (fun _ _ => True) now := by
  cases filesystem with
  | bind => exact same
  | ext4 => exact safe_bind.mpr ((safe_onHost rfl same).weaken (fun _ _ kept => kept) fun _ _ _ => trivial)
  | xfs => exact safe_bind.mpr ((safe_onHost rfl same).weaken (fun _ _ kept => kept) fun _ _ _ => trivial)

theorem expandVolume_store (sourceFile loopDevice : Path) (filesystem : Filesystem) :
    Safe (alone (World.exec owner)) (expandVolume sourceFile loopDevice size filesystem)
      (fun _ after => after.store = world.store) (fun _ _ => True) world := by
  unfold expandVolume
  split
  · rfl
  · refine (safe_onHost rfl rfl).bind fun _ _ opened => ?_
    refine (safe_onHost rfl opened).bind fun _ _ lengthened => ?_
    exact (safe_onHost rfl lengthened).bind fun _ _ refreshed => growFilesystem_store refreshed

theorem expand_expands (r : NodeExpandVolumeRequest) :
    Safe (alone (World.exec owner)) (nodeExpandVolume config r) (Expands r start) (fun _ _ => True) start := by
  refine safe_bind.mpr (safe_reject.mpr ⟨fun _ => trivial, fun _ => ?_⟩)
  refine safe_bind.mpr (safe_reject.mpr ⟨fun _ => trivial, fun _ => ?_⟩)
  refine safe_bind.mpr (safe_bind.mpr (safe_mapErr.mpr (safe_issue (fun found after loaded => ?_) fun _ _ => trivial)))
  cases loaded
  refine safe_ofOption.mpr ⟨fun _ => trivial, fun volume held => ?_⟩
  refine safe_bind.mpr (safe_reject.mpr ⟨fun _ => trivial, fun _ => ?_⟩)
  by_cases small : requestedSize r.capacityRange ≤ volume.size
  · simp only [if_pos small]
    exact ⟨volume, held, Or.inl ⟨small, rfl, rfl⟩⟩
  · simp only [if_neg small]
    refine safe_bind.mpr (safe_ofOption.mpr ⟨fun _ => trivial, fun device _ => ?_⟩)
    refine safe_bind.mpr (safe_mapErr.mpr ((expandVolume_store _ device _).weaken (fun _ after kept => ?_)
      fun _ _ _ => trivial))
    refine safe_bind.mpr (safe_mapErr.mpr (safe_issue (fun _ last performed => ?_) fun _ _ => trivial))
    refine ⟨volume, held, Or.inr ⟨UInt64.not_le.mp small, rfl, ?_⟩⟩
    simp only [World.perform] at performed
    split at performed
    · cases performed
      exact AList.lookup_insert _
    · cases performed

/-- A file is given the length of the recorded size, or of the requested one. -/
theorem traced_truncates {request : Request} {event : CallEvent} {path : Path} {length : Int64}
    (ok : StoreOk WellFormed start.store) (issued : event ∈ traced config request oracle start)
    (truncates : event.op = .ftruncate path length) :
    ∃ size, Truncates request start size ∧ length = size.toInt64 := by
  obtain ⟨phase, resume, step, -, since⟩ := traced_since ok issued
  obtain ⟨world, op, fault, answer⟩ := event
  subst truncates
  cases step with
  | lengthen expandable unbound => exact ⟨_, rfl, rfl⟩
  | @size r volume unbound =>
    rcases since.position with ⟨_, same, -⟩ | ⟨recorded, held, trail⟩
    · cases same
    · refine ⟨recorded.size, ⟨recorded, held, rfl⟩, ?_⟩
      rcases trail.unsaved nofun with rfl | ⟨_, _, rfl, _⟩ <;> rfl

/-! ### Honoured requests -/

/-- Ok honours the range exactly when it is in order, and a file is given its size exactly below 2^63. -/
theorem capacity_honoured_iff (hosts : String → Host) (schedule : List (Move (Config × Request) Call Fault))
    (config : Config) (oracle : Oracle Call Fault) :
    (∀ r response after, serve config (.createVolume r) oracle (reached hosts schedule config) =
      (.ok (.created response), after) → ∃ stored, after.store.lookup (volumeKey r.name) = some stored ∧
        (CreateHonoured r.capacityRange stored.size response.volume.capacityBytes ↔ Creatable r.capacityRange)) ∧
    (∀ r response after, serve config (.nodeExpandVolume r) oracle (reached hosts schedule config) =
      (.ok (.expanded response), after) → ∃ found left,
        (reached hosts schedule config).store.lookup (volumeKey r.volumeId) = some found ∧
        after.store.lookup (volumeKey r.volumeId) = some left ∧
        (ExpandHonoured r.capacityRange found.size left.size response.capacityBytes ↔
          Growable r.capacityRange found.size)) ∧
    ∀ request, ∀ event ∈ traced config request oracle (reached hosts schedule config), ∀ path length,
      event.op = .ftruncate path length → ∃ size, Truncates request (reached hosts schedule config) size ∧
        (Reported size length ↔ size.toNat < 2 ^ 63) := by
  have ok : StoreOk WellFormed (reached hosts schedule config).store := reached_ok wellFormed_invariant
  refine ⟨fun r response after served => ?_, fun r response after served => ?_,
    fun request event issued path length truncates => ?_⟩
  · have returned := congrArg Prod.fst served
    obtain ⟨volume, built, rfl, stored, held, -, -, -, -, size⟩ := serve_create_leaves returned
    rw [served] at held
    have key : volume.key = volumeKey r.name := congrArg volumeKey (newVolume_name built)
    refine ⟨stored, key ▸ held, ?_⟩
    obtain ⟨-, -, -, base, named, configs, filesystem, -, -, rfl⟩ := newVolume_iff.mp built
    rw [size]
    exact createHonoured_iff
  · have safe : Safe (alone (execFor (.nodeExpandVolume r))) (handle config (.nodeExpandVolume r))
        (fun reply after => ∀ response, reply = .expanded response →
          Expands r (reached hosts schedule config) response after) (fun _ _ => True) (reached hosts schedule config) :=
      safe_bind.mpr ((expand_expands r).weaken (fun response _ expands _ same => by cases same; exact expands)
        fun _ _ _ => trivial)
    have returned := congrArg Prod.fst served
    obtain ⟨volume, held, outcome⟩ := safe.returns returned response rfl
    rw [show (Program.run _ _ oracle _).2 = after from congrArg Prod.snd served] at outcome
    have key : volumeKey r.volumeId = volume.key := (ok _ _ held).1
    rcases outcome with ⟨small, rfl, same⟩ | ⟨large, rfl, left⟩
    · exact ⟨volume, volume, held, same ▸ held, expandHonoured_kept small⟩
    · exact ⟨volume, _, held, key.symm ▸ left, expandHonoured_grown large⟩
  · obtain ⟨size, given, rfl⟩ := traced_truncates ok issued truncates
    exact ⟨size, given, reported_iff⟩

def Sample.createSized (required limit : Int64) : Request :=
  .createVolume { createRequest "a" "/pv2/" "ext4" 7 with capacityRange := some ⟨required, limit⟩ }

/-- A negative size is stored as a huge one, above the limit. -/
theorem negative_size_accepted :
    let served := serve Sample.config (Sample.createSized (-1) 5) healthy (reached (fun _ => {}) [] Sample.config)
    served.1 = .ok (.created ⟨⟨-1, "a", [[]]⟩⟩) ∧
      (served.2.store.lookup (volumeKey "a")).map (·.size) = some 18446744073709551615 ∧
      ¬CreateHonoured (some ⟨-1, 5⟩) 18446744073709551615 (-1) := by
  refine ⟨by decide +kernel, by decide +kernel, fun honoured => ?_⟩
  exact absurd (honoured.nonNegative _ rfl).1 (by decide)

end Lvp
