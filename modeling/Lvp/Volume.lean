import Lvp.Unix.Path

/-!
The volume record of `store/volume.rs`. A record is stored as one JSON text inside one ConfigMap,
so that it is always read and written whole.
-/

namespace Lvp
open Unix

inductive Filesystem where
  | ext4
  | xfs
  | bind
  deriving DecidableEq, Repr

instance : Inhabited Filesystem := ⟨.ext4⟩

inductive VolumeState where
  | «open»
  | controllerPublished
  | nodePublished
  deriving DecidableEq, Repr

inductive VolumeMode where
  | singleNodeWriter
  | singleNodeReader
  | singleNodeSingleWriter
  | singleNodeMultiWriter
  deriving DecidableEq, Repr

structure VolumeConfig where
  mode : VolumeMode
  deriving DecidableEq, Repr

structure Volume where
  name : String
  size : UInt64
  assignedNodeId : Option String
  state : VolumeState
  publishedReadonly : Bool
  publishedConfig : Option VolumeConfig
  filesystem : Filesystem
  validConfigs : List VolumeConfig
  loopDevice : Option Path
  mountPaths : List Path
  hostPath : String
  deriving DecidableEq, Repr

inductive VolumeCreation where
  | alreadyExists
  | success
  deriving DecidableEq, Repr

/-- The ConfigMap name of a volume name. -/
def volumeKey (name : String) : String := "lvp-vol-" ++ name

def Volume.key (volume : Volume) : String := volumeKey volume.name

theorem volumeKey_injective {m n : String} (h : volumeKey m = volumeKey n) : m = n :=
  (String.append_right_inj _).mp h

@[simp] theorem volumeKey_inj {m n : String} : volumeKey m = volumeKey n ↔ m = n :=
  String.append_right_inj _

end Lvp
