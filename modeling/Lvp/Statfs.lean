import Lvp.World

/-! `statfs.rs`. -/

namespace Lvp
open Unix Effect

structure Stats where
  blockSize : UInt64
  fragmentSize : UInt64
  blockCount : UInt64
  blocksFree : UInt64
  blocksFreeUnprivileged : UInt64
  inodes : UInt64
  inodesFree : UInt64
  inodesFreeUnprivileged : UInt64
  fileSystemId : UInt64
  flags : UInt64
  filenameMaxLen : UInt64
  deriving DecidableEq

/-- The copy out of the `statvfs64` buffer; the last field takes `f_flag` as well. -/
def stats (out : Statvfs64) : Stats where
  blockSize := out.bsize
  fragmentSize := out.frsize
  blockCount := out.blocks
  blocksFree := out.bfree
  blocksFreeUnprivileged := out.bavail
  inodes := out.files
  inodesFree := out.ffree
  inodesFreeUnprivileged := out.favail
  fileSystemId := out.fsid
  flags := out.flag
  filenameMaxLen := out.flag

def statfs (path : Path) : Action Failure Stats := do
  let out : Statvfs64 ← issue (.statvfs path)
  pure (stats out)

end Lvp
