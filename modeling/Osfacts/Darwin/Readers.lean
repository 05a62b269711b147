import Osfacts.Basic.Breadth
import Osfacts.Cli.Args
import Osfacts.Darwin.Listeners
import Osfacts.Schema.Document
import Mathlib.Data.FinEnum

set_option autoImplicit false

/-! # The darwin readers

One definition for each reader of the source: the decoders of the process table, of the argument
buffer and of a bound address slot, the readers of one process, and the two ways to find pids.
-/

namespace Osfacts.Darwin

/-! ## Fields of a record -/

/-- `bytes.get(offset..offset + 4).map(i32::from_ne_bytes).ok_or(EINVAL)`. -/
def readI32 (bytes : Bytes) (offset : Nat) : Except Errno Int32 :=
  match slice bytes offset (offset + 4) with
  | some field => .ok (fromNeI32 field)
  | none => .error Libc.EINVAL

def readU32 (bytes : Bytes) (offset : Nat) : Except Errno UInt32 :=
  match slice bytes offset (offset + 4) with
  | some field => .ok (fromNeU32 field)
  | none => .error Libc.EINVAL

def readI64 (bytes : Bytes) (offset : Nat) : Except Errno Int64 :=
  match slice bytes offset (offset + 8) with
  | some field => .ok (fromNeI64 field)
  | none => .error Libc.EINVAL

/-- The bytes in front of the first NUL. -/
def untilNul (bytes : Bytes) : Bytes := bytes.takeWhile (fun b => b != 0)

/-- A field that is NUL-terminated unless it is full. -/
def cstrField (buf : Bytes) : Option Text :=
  if untilNul buf = [] then none else some (fromUtf8Lossy (untilNul buf))

/-! ## The process table -/

def KINFO_PROC_SIZE : Nat := 648
def KINFO_START_SEC_OFFSET : Nat := 0
def KINFO_START_USEC_OFFSET : Nat := 8
def KINFO_STATUS_OFFSET : Nat := 36
def KINFO_PID_OFFSET : Nat := 40
def KINFO_NICE_OFFSET : Nat := 242
def KINFO_COMM_OFFSET : Nat := 243
def KINFO_COMM_SIZE : Nat := 17
def KINFO_RUID_OFFSET : Nat := 392
def KINFO_PPID_OFFSET : Nat := 560

/-- `i32::from(byte as i8)`. -/
def niceOf (byte : UInt8) : Int32 := byte.toInt8.toInt32

/-- One record. Pid 0 is the kernel and has no row. -/
def decodeKinfoProc (bytes : Bytes) : Except Errno (Option (Pid × BsdRow)) :=
  if bytes.length ≠ KINFO_PROC_SIZE then .error Libc.EINVAL
  else do
    let pid ← readI32 bytes KINFO_PID_OFFSET
    if pid = 0 then pure none
    else if pid < 0 then .error Libc.EINVAL
    else do
      let ppid ← readI32 bytes KINFO_PPID_OFFSET
      let startSec ← readI64 bytes KINFO_START_SEC_OFFSET
      let startUsec ← readI32 bytes KINFO_START_USEC_OFFSET
      if ppid < 0 ∨ startSec < 0 ∨ ¬ (0 ≤ startUsec ∧ startUsec < 1000000) then
        .error Libc.EINVAL
      else
        match cstrField ((bytes.drop KINFO_COMM_OFFSET).take KINFO_COMM_SIZE) with
        | none => .error Libc.EINVAL
        | some comm => do
            let uid ← readU32 bytes KINFO_RUID_OFFSET
            pure (some (pid.toUInt32, {
              ppid := ppid.toUInt32
              name := sanitizeName comm
              startUnixUs := saturatingAdd (saturatingMul startSec.toUInt64 1000000)
                startUsec.toInt64.toUInt64
              uid := uid
              status := (bytes.getD KINFO_STATUS_OFFSET 0).toUInt32
              nice := niceOf (bytes.getD KINFO_NICE_OFFSET 0) }))

/-- Insert one record; a pid that is there already is refused. -/
def insertRecord (rows : ProcessTable) (raw : Bytes) : Except Errno ProcessTable := do
  let decoded ← decodeKinfoProc raw
  match decoded with
  | none => pure rows
  | some (pid, row) =>
      if (rows.lookup pid).isSome then .error Libc.EINVAL else pure (rows ++ [(pid, row)])

def decodeProcessTable (bytes : Bytes) : Except Errno ProcessTable :=
  if bytes.length % KINFO_PROC_SIZE ≠ 0 then .error Libc.EINVAL
  else (chunksExact KINFO_PROC_SIZE bytes).foldlM insertRecord []

/-- The table, in the order in which the system's map visits it. -/
def readProcessTable (os : Os) : Except Errno ProcessTable := do
  let bytes ← os.kernProcAll
  let table ← decodeProcessTable bytes
  pure (os.tableOrder table)

/-! ## One process -/

/-- `Path::file_name`: the last component, unless it is `..`. -/
def fileName (path : Text) : Option Text :=
  match ((path.splitOn '/').filter (fun piece => !piece.isEmpty && piece != ['.'])).getLast? with
  | none => none
  | some piece => if piece = "..".toList then none else some piece

def pathBasename (os : Os) (pid : Pid) : Option Text := do
  let path ← os.procPidpath pid
  fileName (fromUtf8Lossy (untilNul path))

def processName (os : Os) (pid : Pid) (comm : Text) : Text :=
  ((pathBasename os pid).map sanitizeName).getD comm

def darwinState (status : UInt32) : Except Errno Char :=
  if status = 1 then .ok 'I'
  else if status = 2 then .ok 'R'
  else if status = 3 then .ok 'S'
  else if status = 4 then .ok 'T'
  else if status = 5 then .ok 'Z'
  else .error Libc.EINVAL

def VNODE_CDIR_PATH_OFFSET : Nat := 152
def MAXPATHLEN : Nat := 1024

def readCwd (os : Os) (pid : Pid) : Except Errno Text := do
  let bytes ← os.vnodePathInfo pid
  let path := (bytes.drop VNODE_CDIR_PATH_OFFSET).take MAXPATHLEN
  if 0 ∉ path ∨ untilNul path = [] then .error Libc.EINVAL
  else pure (fromUtf8Lossy (untilNul path))

/-- The arguments in a buffer, as many as were announced. -/
def takeArgs : Nat → Bytes → Except Errno (List Text)
  | 0, _ => .ok []
  | argc + 1, rest =>
      if 0 ∉ rest then .error Libc.EINVAL
      else do
        let args ← takeArgs argc (rest.drop ((untilNul rest).length + 1))
        pure (fromUtf8Lossy (untilNul rest) :: args)

/-- The layout of `KERN_PROCARGS2`: the number of arguments, the path of the program, padding, and
the arguments, each with its NUL. What follows them is not read. -/
def parseProcargs2 (bytes : Bytes) : Except Errno (List Text) := do
  let argc ← readI32 bytes 0
  let path := bytes.drop 4
  if argc < 0 ∨ 0 ∉ path then .error Libc.EINVAL
  else
    takeArgs argc.toInt.toNat ((path.drop (untilNul path).length).dropWhile (fun b => b == 0))

def readArgv (os : Os) (pid : Pid) : Except Errno (List Text) := do
  let buffer ← os.procargs2 pid
  parseProcargs2 buffer.bytes

def readMachTimebase (os : Os) : Except Errno MachTimebase :=
  match os.machTimebase with
  | none => .error Libc.EIO
  | some info => if info.denom = 0 then .error Libc.EIO else .ok info

/-- The arithmetic is in 128 bits, where two `u64` and a `u32` do not overflow. -/
def machTicksToUs (user system : UInt64) (timebase : MachTimebase) : UInt64 :=
  let ticks := user.toNat + system.toNat
  let nanoseconds := ticks * timebase.numer.toNat / timebase.denom.toNat
  UInt64.ofNat (min (nanoseconds / 1000) (2 ^ 64 - 1))

/-! ## Unix sockets -/

def DARWIN_SUN_PATH_LEN : Nat := 104

/-- `AF_UNIX`. -/
def AF_UNIX_FAMILY : UInt8 := 1

/-- The path in a bound address slot, if the slot is one of a unix socket and names one. -/
def darwinSockaddrUnPath (slot : Bytes) : Option Bytes :=
  if slot.length < 2 + DARWIN_SUN_PATH_LEN ∨ slot[1]? ≠ some AF_UNIX_FAMILY then none
  else
    let path := untilNul ((slot.drop 2).take DARWIN_SUN_PATH_LEN)
    if path = [] then none else some path

def holdsPath (path : Bytes) (psi : SocketInfo) : Bool :=
  psi.soiKind == SOCKINFO_UN && darwinSockaddrUnPath psi.unsiAddr == some path

def holdsUnixSocket (os : Os) (pid : Pid) (path : Bytes) : Except Errno Bool := do
  let fds ← socketFds os pid
  pure (fds.any (fun fd => (os.socketInfo pid fd).any (holdsPath path)))

/-! ## Pids -/

/-- The pids whose row names this parent, in the order of the table. -/
def childrenOf (table : ProcessTable) (pid : Pid) : List Pid :=
  (table.filter (fun entry => entry.2.ppid == pid)).map Prod.fst

/-- One root: a row to blame where the table does not have it. -/
def enqueueRoot (table : ProcessTable) (acc : Breadth Pid × Snapshot) (root : Pid) :
    Breadth Pid × Snapshot :=
  if (table.lookup root).isNone then (acc.1, acc.2.pushUnreadable root .proc Libc.ESRCH)
  else (acc.1.enqueue root, acc.2)

def subtree (roots : List Pid) (table : ProcessTable) (snap : Snapshot) : List Pid × Snapshot :=
  let (w, snap) := roots.foldl (enqueueRoot table) (⟨[], 0, ∅⟩, snap)
  (w.walk (childrenOf table), snap)

def selectPids (scope : Scope) (table : ProcessTable) (snap : Snapshot) : List Pid × Snapshot :=
  match scope with
  | .host => (sortByKey UInt32.toNat (table.map Prod.fst), snap)
  | .pids pids => (pids, snap)
  | .roots roots => subtree roots table snap

end Osfacts.Darwin
