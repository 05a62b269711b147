import Osfacts.Darwin.Host
import Osfacts.Darwin.Snapshot
import Osfacts.Linux.Host
import Osfacts.Linux.Snapshot
import Osfacts.Linux.SocketHolders
import Osfacts.Main

set_option autoImplicit false

/-! # The platforms

A build of the program has the sensors of one platform. On a platform that has none, an empty
snapshot says that nothing is known; an empty list of holders would say that a path is free, so
there the build says that it cannot look.
-/

namespace Osfacts

/-! ## The platform without sensors -/

namespace Unsupported

/-- Some numbers: of these errnos a build without sensors writes the name alone. -/
scoped instance libc : Libc where
  EOVERFLOW := 75
  ENOTSUP := 95

def snapshot (_ : SnapshotArgs) : Snapshot := Snapshot.new

def socketHolders (_ : SocketHoldersArgs) : SocketHolders :=
  SocketHolders.unsupportedPlatform "unsupported_platform"

def host {L : FloatLib} (_ : HostArgs) : HostSnapshot L := HostSnapshot.new

end Unsupported

/-! ## The system of a build -/

/-- A system, under the build that runs on it. -/
inductive System (L : FloatLib) where
  | linux (F : Linux.F64Lib L) (os : Linux.HostOs)
  | darwin (os : Darwin.HostOs L)
  | unsupported

/-- The errno numbers of the build. -/
@[reducible] def System.libc {L : FloatLib} : System L → Libc
  | linux .. => Linux.libc
  | darwin _ => Darwin.libc
  | unsupported => Unsupported.libc

/-- The sensors of the build. -/
def System.platform {L : FloatLib} : System L → Platform L
  | linux F os => ⟨Linux.snapshot os.toOs, Linux.socketHolders os.toOs, Linux.host F os⟩
  | darwin os => ⟨Darwin.snapshot os.toOs, Darwin.socketHolders os.toOs, Darwin.host os⟩
  | unsupported => ⟨Unsupported.snapshot, Unsupported.socketHolders, Unsupported.host⟩

end Osfacts
