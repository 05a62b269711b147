import Osfacts.Schema.Document

set_option autoImplicit false

/-! # The facets of a host

What the host verb of both platforms is made of: one step for each facet, which sets what was
read or names the source that went blind, and the root file system.
-/

namespace Osfacts

/-- An error of one source, under its name. -/
def blamed {α : Type} (source : String) (r : Except Errno α) : Except (String × Errno) α :=
  r.mapError (fun err => (source, err))

namespace HostSnapshot

variable {L : FloatLib}

def pushError (s : HostSnapshot L) (e : SourceError) : HostSnapshot L :=
  { s with errors := s.errors ++ [e] }

/-- One facet, if it was asked. -/
def record [Libc] {α : Type} (out : HostSnapshot L) (asked : Bool) (facet : Facet)
    (set : HostSnapshot L → α → HostSnapshot L)
    (read : Except (String × Errno) α) : HostSnapshot L :=
  if asked then
    match read with
    | .ok value => set out value
    | .error (source, err) => out.pushError (sourceError source facet err)
  else out

def setUptime (out : HostSnapshot L) (value : UInt64) : HostSnapshot L :=
  { out with uptimeUs := some value }

def setLoad (out : HostSnapshot L) (value : Load L) : HostSnapshot L :=
  { out with load := some value }

def setMemory (out : HostSnapshot L) (value : HostMemory × Swap) : HostSnapshot L :=
  { out with memory := some value.1, swap := some value.2 }

def setCpus (out : HostSnapshot L) (value : List Cpu) : HostSnapshot L := { out with cpus := value }

def pushDisk (out : HostSnapshot L) (value : Disk) : HostSnapshot L :=
  { out with disks := out.disks ++ [value] }

end HostSnapshot

/-! ## The root file system -/

/-- The fields of `statvfs` that are read. -/
structure Statvfs where
  fFrsize : UInt64
  fBlocks : UInt64
  fBavail : UInt64
  fBfree : UInt64

def Statvfs.rootDisk (st : Statvfs) : Disk where
  mount := "/".toList
  totalBytes := saturatingMul st.fBlocks st.fFrsize
  availableBytes := saturatingMul st.fBavail st.fFrsize
  freeBytes := saturatingMul st.fBfree st.fFrsize

end Osfacts
