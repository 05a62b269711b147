import Osfacts.Basic.FirstSeen
import Osfacts.Linux.Os
import Osfacts.Schema.Document

set_option autoImplicit false

/-! # The Linux readers

One definition for each reader of the source, on a state of the system: the parsers of
`/proc/<pid>/stat`, `statm`, `status` and `cmdline`, the host-global constants, the listener
tables, the walk over the file descriptors and the two ways to find pids.
-/

namespace Osfacts.Linux

open Os

/-! ## One process -/

def parseComm (stat : Text) : Option Text := do
  let openAt ← find '(' stat
  let closeAt ← rfind ')' stat
  if closeAt > openAt then some ((stat.take closeAt).drop (openAt + 1)) else none

/-- A field of `stat`, counted from the one after the command name: 0 is the state. -/
def parseStatField (stat : Text) (afterCommIndex : Nat) : Except Errno Text :=
  match rfind ')' stat with
  | none => .error Libc.EINVAL
  | some closeAt =>
      match (splitWhitespace (stat.drop (closeAt + 1)))[afterCommIndex]? with
      | none => .error Libc.EINVAL
      | some field => .ok field

/-- `.parse().map_err(|_| libc::EINVAL)`. -/
def parsed {α : Type} (value : Option α) : Except Errno α :=
  match value with
  | some a => .ok a
  | none => .error Libc.EINVAL

/-- The last component of the first argument, if it is not empty. -/
def argvBase (cmdline : Bytes) : Option Text :=
  let argv0 := (cmdline.splitOn 0).headD []
  if argv0 = [] then none
  else
    let base := ((fromUtf8Lossy argv0).splitOn '/').getLastD []
    if base = [] then none else some base

def processName (pid : Pid) (stat : Text) (cmdline : Except Errno Bytes) : Text :=
  match cmdline.toOption.bind argvBase with
  | some base => sanitizeName base
  | none => sanitizeName ((parseComm stat).getD (Decimal.decimal pid.toNat))

def readProc (pid : Pid) (stat : Text) (cmdline : Except Errno Bytes) : Except Errno Proc := do
  let value ← parseStatField stat 1
  let ppid ← parsed (parseU32 value)
  pure ⟨pid, ppid, processName pid stat cmdline⟩

/-- `pages.checked_mul(page_size).ok_or(libc::EOVERFLOW)`. -/
def pagesToBytes (pages pageSize : UInt64) : Except Errno UInt64 :=
  match checkedMul pages pageSize with
  | some bytes => .ok bytes
  | none => .error Libc.EOVERFLOW

def readRssFromStat (stat : Text) (pageSize : UInt64) : Except Errno UInt64 := do
  let value ← parseStatField stat 21
  let pages ← parsed (parseU64 value)
  pagesToBytes pages pageSize

def readRssFromStatm (os : Os) (pid : Pid) (pageSize : UInt64) : Except Errno UInt64 := do
  let body ← os.readString (procPath pid "statm")
  let value ← parsed (splitWhitespace body)[1]?
  let pages ← parsed (parseU64 value)
  pagesToBytes pages pageSize

def readStartTime (stat : Text) (bootUs hz : UInt64) : Except Errno UInt64 := do
  let value ← parseStatField stat 19
  let ticks ← parsed (parseU64 value)
  pure (bootUs + saturatingMul ticks 1000000 / hz)

def ticksUs (v hz : UInt64) : UInt64 := saturatingMul v 1000000 / hz

def readCpuTime (stat : Text) (hz : UInt64) : Except Errno UInt64 := do
  let value ← parseStatField stat 11
  let user ← parsed (parseU64 value)
  let value ← parseStatField stat 12
  let system ← parsed (parseU64 value)
  pure (ticksUs (saturatingAdd user system) hz)

def readUid (os : Os) (pid : Pid) : Except Errno UInt32 := do
  let status ← os.readString (procPath pid "status")
  let value ← parsed ((lines status).findSome? (stripPrefix "Uid:".toList))
  let first ← parsed (splitWhitespace value).head?
  parsed (parseU32 first)

def readCwd (os : Os) (pid : Pid) : Except Errno Text := do
  let path ← os.readLink (procPath pid "cwd")
  pure (fromUtf8Lossy path)

def readStatus (stat : Text) : Except Errno (Char × Int32 × UInt32) := do
  let field ← parseStatField stat 0
  let state ← parsed field.head?
  let value ← parseStatField stat 16
  let nice ← parsed (parseI32 value)
  let value ← parseStatField stat 17
  let threads ← parsed (parseU32 value)
  pure (state, nice, threads)

def readArgv (cmdline : Bytes) : List Text :=
  ((cmdline.splitOn 0).filter (fun arg => !arg.isEmpty)).map fromUtf8Lossy

/-! ## Host-global constants -/

/-- A `sysconf` answer: not positive is a failure. -/
def sysconf (value : Int) : Except Errno UInt64 :=
  if value ≤ 0 then .error Libc.EIO else .ok (UInt64.ofInt value)

def pageSize (os : Os) : Except Errno UInt64 := sysconf os.pagesize

def clockTicks (os : Os) : Except Errno UInt64 := sysconf os.clkTck

def bootTimeUs (os : Os) : Except Errno UInt64 := do
  let body ← os.readString "/proc/stat".toList
  let value ← parsed ((lines body).findSome? (stripPrefix "btime ".toList))
  let secs ← parsed (parseU64 value)
  pure (secs * 1000000)

/-! ## Addresses -/

/-- The byte of two hexadecimal digits. -/
def byteAt (hex : Text) (i : Nat) : Option UInt8 := do
  let high ← hex[i]? >>= hexDigit
  let low ← hex[i + 1]? >>= hexDigit
  pure (UInt8.ofNat (high * 16 + low))

/-- Eight hexadecimal digits a word, each word in host order. A text with other characters is
refused, so counting characters decides as counting bytes does. -/
def decodeProcHex (hex : Text) : Option Bytes :=
  if (hex.length ≠ 8 ∧ hex.length ≠ 32) ∨ ¬ hex.all (fun c => (hexDigit c).isSome) then none
  else
    ((List.range (hex.length / 8)).flatMap
      (fun word => [3, 2, 1, 0].map (fun byte => word * 8 + byte * 2))).mapM (byteAt hex)

/-- Network-order bytes with the bytes of each 32-bit word in host order. -/
def hostOrder (bytes : Bytes) : Bytes :=
  ((List.range (bytes.length / 4)).flatMap
    (fun word => [3, 2, 1, 0].map (fun byte => word * 4 + byte))).map (fun i => bytes.getD i 0)

def encodeProcHex (bytes : Bytes) : Option Text :=
  if bytes.length ≠ 4 ∧ bytes.length ≠ 16 then none else some (hexBytes (hostOrder bytes))

/-! ## Listeners -/

structure Listener where
  inode : UInt64
  uid : UInt32
  port : UInt16
  addr : Bytes
  deriving DecidableEq, Repr

def TCP_LISTEN : Text := "0A".toList

/-- One row of a listener table, or `none` for a row that is skipped. -/
def listenerOfLine (line : Text) : Option Listener := do
  let cols := splitWhitespace line
  if cols.length < 10 ∨ cols[3]? ≠ some TCP_LISTEN then none
  else
    let (hexAddr, hexPort) ← rsplitOnce ':' (cols.getD 1 [])
    let port ← parseHexU16 hexPort
    let addr ← decodeProcHex hexAddr
    let uid ← parseU32 (cols.getD 7 [])
    let inode ← parseU64 (cols.getD 9 [])
    if port > 0 ∧ inode > 0 then some ⟨inode, uid, port, addr⟩ else none

/-- The rows under the header line; an error without an errno where there is none. -/
def parseProcNet (body : Text) : Except Errno (List Listener) :=
  match (lines body).dropWhile (fun l => !containsText l "local_address".toList) with
  | [] => .error Libc.EIO
  | _ :: rows => .ok (rows.filterMap listenerOfLine)

/-- `out.retain(|listener| seen.insert(listener.inode))`. -/
def retainNew : List UInt64 → List Listener → List Listener
  | _, [] => []
  | seen, l :: rest =>
      if l.inode ∈ seen then retainNew seen rest
      else l :: retainNew (l.inode :: seen) rest

/-- An error of one source, under its name. -/
def fromSource {α : Type} (source : String) (r : Except Errno α) : Except (String × Errno) α :=
  r.mapError (fun err => (source, err))

def loadListeners (os : Os) : Except (String × Errno) (List Listener) := do
  let tcp ← fromSource "proc_net_tcp" (os.readString "/proc/net/tcp".toList)
  let out ← fromSource "proc_net_tcp" (parseProcNet tcp)
  match os.readString "/proc/net/tcp6".toList with
  | .ok body => do
      let rows ← fromSource "proc_net_tcp6" (parseProcNet body)
      pure (retainNew [] (out ++ rows))
  | .error err =>
      -- a host without IPv6 has no such file
      if err = Libc.ENOENT then pure (retainNew [] out) else .error ("proc_net_tcp6", err)

/-! ## File descriptors -/

/-- The inode of a descriptor link that is a socket. -/
def socketInode (target : Bytes) : Option UInt64 := do
  let rest ← stripPrefix "socket:[".toList (fromUtf8Lossy target)
  let digits ← stripSuffix ']' rest
  parseU64 digits

/-- The socket inodes a process holds, as a list without repeats. -/
def socketInodes (os : Os) (pid : Pid) : Except Errno (List UInt64) := do
  let names ← os.readDirNames (procPath pid "fd")
  pure (names.foldl (fun out name =>
    match os.readLink (fdPath pid name) with
    | .ok target => (socketInode target).elim out (pushNew out)
    -- a descriptor closed since the directory was read
    | .error _ => out) [])

/-- `slice::chunks`. `fuel` bounds the number of chunks. -/
def chunks {α : Type} (size : Nat) : Nat → List α → List (List α)
  | 0, _ => []
  | _ + 1, [] => []
  | fuel + 1, l => l.take size :: chunks size fuel (l.drop size)

/-- The descriptor walk of a list of pids, split over at most eight workers of at least 64
pids; the workers' results are joined in order. -/
def socketInodesForPids (os : Os) (pids : List Pid) : List (Pid × Except Errno (List UInt64)) :=
  let walkOne := fun pid => (pid, socketInodes os pid)
  let workers := min ((pids.length + 63) / 64) 8
  if workers ≤ 1 then pids.map walkOne
  else
    let chunkLen := (pids.length + workers - 1) / workers
    (chunks chunkLen pids.length pids).flatMap (fun chunk => chunk.map walkOne)

/-! ## Pids -/

def hostPids (os : Os) : Except Errno (List Pid) := do
  let entries ← os.readDir "/proc".toList
  let names ← entries.mapM id
  pure (sortByKey UInt32.toNat (names.filterMap pidOfName))

/-- The children a process's tasks list. A process without a task directory has none; an entry
that fails while listing fails the read. -/
def childrenOf (os : Os) (pid : Pid) : Except Errno (List Pid) :=
  match os.readDir (procPath pid "task") with
  -- the process has ended, and its subtree with it
  | .error _ => .ok []
  | .ok tasks =>
      tasks.foldlM (fun out task => do
        let name ← task
        match os.readString (childrenPath pid (fromUtf8Lossy name)) with
        | .ok body => pure (out ++ (splitWhitespace body).filterMap parseU32)
        | .error _ => pure out) []

/-! ## What the readers guarantee -/

theorem parsed_ok_iff {α : Type} {value : Option α} {a : α} :
    parsed value = .ok a ↔ value = some a := by
  cases value with
  | none => exact iff_of_false (fun h => by cases h) (fun h => by cases h)
  | some b =>
      show (.ok b : Except Errno α) = .ok a ↔ _
      rw [Except.ok.injEq, Option.some.injEq]

theorem chunks_flatten {α : Type} {size : Nat} (hsize : 0 < size) :
    ∀ (fuel : Nat) (l : List α), l.length ≤ fuel → (chunks size fuel l).flatten = l := by
  intro fuel
  induction fuel with
  | zero =>
      intro l hl
      have hnil : l = [] := List.length_eq_zero_iff.mp (Nat.le_zero.mp hl)
      rw [hnil]
      rfl
  | succ fuel ih =>
      intro l hl
      cases l with
      | nil => rfl
      | cons a l =>
          have hdrop : ((a :: l).drop size).length ≤ fuel := by
            rw [List.length_drop, List.length_cons] at *
            omega
          rw [chunks, List.flatten_cons, ih _ hdrop, List.take_append_drop]
          exact List.cons_ne_nil a l

/-- Splitting the walk over workers changes nothing. -/
theorem socketInodesForPids_eq (os : Os) (pids : List Pid) :
    socketInodesForPids os pids = pids.map (fun pid => (pid, socketInodes os pid)) := by
  rw [socketInodesForPids]
  split
  case isTrue => rfl
  case isFalse hworkers =>
      -- more than one worker means more than 64 pids, so no chunk is empty
      have hpos : 0 < (pids.length + min ((pids.length + 63) / 64) 8 - 1)
          / min ((pids.length + 63) / 64) 8 := by
        apply Nat.div_pos <;> omega
      rw [← List.map_flatMap, List.flatMap_id', chunks_flatten hpos _ _ (Nat.le_refl _)]

/-- A listing of `/proc` that succeeds: every entry was read, and the pids are sorted. -/
theorem hostPids_ok {os : Os} {pids : List Pid} (h : hostPids os = .ok pids) :
    ∃ entries names, os.readDir "/proc".toList = .ok entries ∧ entries.mapM id = .ok names ∧
      pids = sortByKey UInt32.toNat (names.filterMap pidOfName) := by
  unfold hostPids at h
  obtain ⟨entries, hdir, h⟩ := bind_ok_iff.mp h
  obtain ⟨names, hnames, h⟩ := bind_ok_iff.mp h
  exact ⟨entries, names, hdir, hnames, (Except.ok.inj h).symm⟩

theorem nodup_hostPids {os : Os} {pids : List Pid} (h : hostPids os = .ok pids) :
    pids.Nodup ∧ 0 ∉ pids := by
  obtain ⟨entries, names, hdir, hnames, rfl⟩ := hostPids_ok h
  constructor
  · exact (sortByKey_perm _ _).nodup_iff.mpr (os.procPids_nodup entries names hdir hnames)
  · rw [mem_sortByKey]
    exact os.procPids_ne_zero entries names hdir hnames

end Osfacts.Linux
