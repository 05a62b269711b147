import Osfacts.Cli.Args
import Osfacts.Linux.Readers
import Osfacts.UnixSocket

set_option autoImplicit false

/-! # Who holds a unix socket, on Linux

The table of bound sockets says which inodes the path has, and the walk over the file
descriptors says which processes hold one of them. Each source that fails is one `E` row; a
bound socket that no readable process holds is one `unclaimed` row.
-/

namespace Osfacts.Linux

open Os UnixSocket

/-- Whether a walked process holds one of the inodes. A process that could not be walked holds
nothing that is known. -/
def holdsOne (inodes : List UInt64) (result : Except Errno (List UInt64)) : Bool :=
  match result with
  | .ok held => inodes.any (fun inode => held.contains inode)
  | .error _ => false

def claimed (os : Os) (inodes : List UInt64) (pids : List Pid) : List Pid :=
  ((socketInodesForPids os pids).filter (fun walked => holdsOne inodes walked.2)).map Prod.fst

/-- The rows of the holders: a bound socket without a known holder is `unclaimed`. -/
def holderRows (claimed : List Pid) : List Attribution :=
  if claimed = [] then [.unclaimed] else claimed.map .claimed

/-- The identity of one holder. -/
def nameHolder (os : Os) (out : SocketHolders) (pid : Pid) : SocketHolders :=
  let stat := os.readString (procPath pid "stat")
  let cmdline := os.readBytes (procPath pid "cmdline")
  match stat.bind (fun stat => readProc pid stat cmdline) with
  | .ok row => { out with procs := out.procs ++ [row] }
  | .error err => out.pushUnreadable pid .proc err

/-- The answer of a source that failed. -/
def holdersBlind (source : String) (err : Errno) : SocketHolders :=
  { SocketHolders.new with errors := [sourceError source .socketHolders err] }

def socketHolders (os : Os) (args : SocketHoldersArgs) : SocketHolders :=
  match os.readBytes "/proc/net/unix".toList with
  | .error err => holdersBlind "proc_net_unix" err
  | .ok table =>
      match unixSocketInodes table args.path with
      | .error () => holdersBlind "proc_net_unix" Libc.EINVAL
      | .ok [] => SocketHolders.new
      | .ok inodes =>
          match hostPids os with
          | .error err => holdersBlind "proc_readdir" err
          | .ok pids =>
              let claimed := claimed os inodes pids
              let out := { SocketHolders.new with holders := holderRows claimed }
              if args.procs then claimed.foldl (nameHolder os) out else out

/-! ## What the walk finds -/

/-- A process whose descriptors can be read, and that has one of the inodes among them. -/
def Holds (os : Os) (inodes : List UInt64) (pid : Pid) : Prop :=
  ∃ held, socketInodes os pid = .ok held ∧ ∃ inode ∈ inodes, inode ∈ held

theorem holdsOne_iff {os : Os} {inodes : List UInt64} {pid : Pid} :
    holdsOne inodes (socketInodes os pid) = true ↔ Holds os inodes pid := by
  unfold Holds
  cases socketInodes os pid with
  | error err => simp [holdsOne]
  | ok held => simp [holdsOne, List.any_eq_true]

theorem claimed_eq (os : Os) (inodes : List UInt64) (pids : List Pid) :
    claimed os inodes pids = pids.filter (fun pid => holdsOne inodes (socketInodes os pid)) := by
  rw [claimed, socketInodesForPids_eq, List.filter_map, List.map_map]
  exact List.map_id _

theorem mem_claimed {os : Os} {inodes : List UInt64} {pids : List Pid} {pid : Pid} :
    pid ∈ claimed os inodes pids ↔ pid ∈ pids ∧ Holds os inodes pid := by
  rw [claimed_eq, List.mem_filter, holdsOne_iff]

/-- Naming the holders adds rows of identity, and leaves the holders as they are. -/
theorem foldl_nameHolder (os : Os) (claimed : List Pid) (out : SocketHolders) :
    (claimed.foldl (nameHolder os) out).holders = out.holders ∧
    (claimed.foldl (nameHolder os) out).errors = out.errors ∧
    (claimed.foldl (nameHolder os) out).version = out.version := by
  induction claimed generalizing out with
  | nil => exact ⟨rfl, rfl, rfl⟩
  | cons pid claimed ih =>
      have hstep : (nameHolder os out pid).holders = out.holders ∧
          (nameHolder os out pid).errors = out.errors ∧
          (nameHolder os out pid).version = out.version := by
        unfold nameHolder
        simp only []
        split <;> exact ⟨rfl, rfl, rfl⟩
      rw [List.foldl_cons]
      obtain ⟨hholders, herrors, hversion⟩ := ih (nameHolder os out pid)
      exact ⟨hholders.trans hstep.1, herrors.trans hstep.2.1, hversion.trans hstep.2.2⟩

end Osfacts.Linux
