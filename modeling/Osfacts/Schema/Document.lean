import Osfacts.Basic.KeyedSort
import Osfacts.Json
import Osfacts.Schema.Facet
import Mathlib.Data.Prod.Lex

set_option autoImplicit false

/-! # The versioned fact set

Three documents, one for each verb. A document is written as TSV (`writeTsv`), says whether
it carries any fact (`hasFacts`) and which sources went blind (`errors`), and is put in a
total row order (`normalize`). Every TSV row is a list of columns; `tsvRows` lists the rows
of a document and `writeTsv` frames them.
-/

namespace Osfacts

def SCHEMA_VERSION : UInt32 := 2

/-! ## Rows -/

structure Proc where
  pid : Pid
  ppid : UInt32
  name : Text
  deriving DecidableEq, Repr

structure Memory where
  pid : Pid
  rssBytes : UInt64
  deriving DecidableEq, Repr

structure StartTime where
  pid : Pid
  startUnixUs : UInt64
  deriving DecidableEq, Repr

structure ProcessCpuTime where
  pid : Pid
  cpuTimeUs : UInt64
  deriving DecidableEq, Repr

structure ProcessUid where
  pid : Pid
  uid : UInt32
  deriving DecidableEq, Repr

structure ProcessCwd where
  pid : Pid
  cwd : Text
  deriving DecidableEq, Repr

structure ProcessStatus where
  pid : Pid
  state : Char
  nice : Int32
  threads : Option UInt32
  deriving DecidableEq

structure ProcessArgv where
  pid : Pid
  argv : List Text
  deriving DecidableEq, Repr

inductive Attribution where
  | claimed (pid : Pid)
  | unclaimed
  deriving DecidableEq, Repr

structure Port where
  attribution : Attribution
  uid : Option UInt32
  port : UInt16
  address : Text
  deriving DecidableEq, Repr

structure Unreadable where
  pid : Pid
  facet : Facet
  errno : Text
  deriving DecidableEq, Repr

structure SourceError where
  source : Text
  facet : Facet
  code : Text
  deriving DecidableEq, Repr

def BLIND_OR_EMPTY : Text := "BLIND_OR_EMPTY".toList

/-! ## Spellings -/

def errnoName [Libc] (err : Errno) : Text :=
  if err = Libc.EACCES then "EACCES".toList
  else if err = Libc.EPERM then "EPERM".toList
  else if err = Libc.ENOENT then "ENOENT".toList
  else if err = Libc.ESRCH then "ESRCH".toList
  else if err = Libc.EIO then "EIO".toList
  else if err = Libc.EINVAL then "EINVAL".toList
  else if err = Libc.ENOTSUP then "ENOTSUP".toList
  else Decimal.signedDecimal err

/-- Two lower-case hexadecimal digits for each byte. -/
def hexBytes (bytes : Bytes) : Text :=
  bytes.flatMap (fun b => [Json.hexChar (b.toNat / 16), Json.hexChar (b.toNat % 16)])

theorem hexBytes_length (bytes : Bytes) : (hexBytes bytes).length = 2 * bytes.length := by
  induction bytes with
  | nil => rfl
  | cons b bytes ih =>
      rw [hexBytes, List.flatMap_cons, List.length_append, List.length_cons]
      rw [hexBytes] at ih
      rw [ih]
      show 2 + 2 * bytes.length = 2 * (b :: bytes).length
      rw [List.length_cons]
      omega

def sanitizeName (name : Text) : Text :=
  name.map (fun c => if c = '\t' ∨ c = '\n' ∨ c = '\r' then ' ' else c)

/-- One `E` row: a source that could not be read, and the facet it costs. -/
def sourceError [Libc] (source : String) (facet : Facet) (err : Errno) : SourceError :=
  ⟨source.toList, facet, errnoName err⟩

/-- One `E` row for the indistinguishable-empty condition. -/
def blindOrEmpty (source : String) (facet : Facet) : SourceError :=
  ⟨source.toList, facet, BLIND_OR_EMPTY⟩

def pushUnreadableRow [Libc] (rows : List Unreadable) (pid : Pid) (facet : Facet)
    (err : Errno) : List Unreadable :=
  rows ++ [⟨pid, facet, errnoName err⟩]

/-- The columns an attribution occupies: the status word, and the pid or `-`. -/
def attributionColumns : Attribution → List Text
  | .claimed pid => ["claimed".toList, Decimal.decimal pid.toNat]
  | .unclaimed => ["unclaimed".toList, "-".toList]

/-- A number, or `-` where it is absent. -/
def orDash (n : Option Nat) : Text := n.elim "-".toList Decimal.decimal

/-! ## TSV rows -/

def versionRow (version : UInt32) : List Text := ["V".toList, Decimal.decimal version.toNat]

/-- A row of one pid and one more column. -/
def pidRow (tag : String) (pid : Pid) (column : Text) : List Text :=
  [tag.toList, Decimal.decimal pid.toNat, column]

def Proc.row (p : Proc) : List Text :=
  ["P".toList, Decimal.decimal p.pid.toNat, Decimal.decimal p.ppid.toNat, p.name]

def Memory.row (m : Memory) : List Text := pidRow "M" m.pid (Decimal.decimal m.rssBytes.toNat)

def StartTime.row (s : StartTime) : List Text :=
  pidRow "S" s.pid (Decimal.decimal s.startUnixUs.toNat)

def ProcessCpuTime.row (c : ProcessCpuTime) : List Text :=
  pidRow "C" c.pid (Decimal.decimal c.cpuTimeUs.toNat)

def ProcessUid.row (u : ProcessUid) : List Text :=
  pidRow "UID" u.pid (Decimal.decimal u.uid.toNat)

def ProcessCwd.row (J : JsonLib) (c : ProcessCwd) : List Text :=
  pidRow "CWD" c.pid (J.toString c.cwd)

def ProcessStatus.row (s : ProcessStatus) : List Text :=
  ["STAT".toList, Decimal.decimal s.pid.toNat, [s.state], Decimal.signedDecimal s.nice.toInt,
    orDash (s.threads.map UInt32.toNat)]

def ProcessArgv.row (J : JsonLib) (a : ProcessArgv) : List Text :=
  pidRow "ARGV" a.pid (J.toStrings a.argv)

def Port.row (l : Port) : List Text :=
  "L".toList :: attributionColumns l.attribution
    ++ [orDash (l.uid.map UInt32.toNat), Decimal.decimal l.port.toNat, l.address]

def Attribution.row (h : Attribution) : List Text := "H".toList :: attributionColumns h

def Unreadable.row (u : Unreadable) : List Text :=
  ["U".toList, Decimal.decimal u.pid.toNat, u.facet.asStr, u.errno]

def SourceError.row (e : SourceError) : List Text :=
  ["E".toList, e.source, e.facet.asStr, e.code]

/-- One line: the columns, separated by tabs. -/
def tsvLine (columns : List Text) : Text := ['\t'].intercalate columns

/-- The lines of a document, each ended by a line feed. -/
def tsv (rows : List (List Text)) : Text := terminated '\n' (rows.map tsvLine)

/-! ## One document the binary can emit -/

class Document (D : Type) where
  tsvRows : JsonLib → D → List (List Text)
  hasFacts : D → Bool
  errors : D → List SourceError
  normalize : D → D

export Document (tsvRows hasFacts normalize)

def writeTsv {D : Type} [Document D] (J : JsonLib) (doc : D) : Text := tsv (tsvRows J doc)

/-! ## Row order -/

/-- One `U` row for each pid and facet, the first of each run, in the order of the two. -/
def normalizeUnreadable (rows : List Unreadable) : List Unreadable :=
  let key : Unreadable → ℕ ×ₗ ℕ := fun row => toLex (row.pid.toNat, row.facet.rank)
  dedupByKey key (sortByKey key rows)

/-- Claimed rows by pid, `unclaimed` last. -/
def holderKey : Attribution → ℕ ×ₗ ℕ
  | .claimed pid => toLex (0, pid.toNat)
  | .unclaimed => toLex (1, 0)

/-- Port, then claiming pid, then address. Text compares as its scalar values do. -/
def portKey (row : Port) : ℕ ×ₗ ℕ ×ₗ List ℕ :=
  -- an unclaimed port sorts after every claimed one
  let claim := match row.attribution with
    | .claimed pid => pid.toNat
    | .unclaimed => 2 ^ 32 - 1
  toLex (row.port.toNat, toLex (claim, row.address.map Char.toNat))

/-! ## `snapshot` -/

structure Snapshot where
  version : UInt32
  procs : List Proc
  memory : List Memory
  startTimes : List StartTime
  cpuTimes : List ProcessCpuTime
  uids : List ProcessUid
  cwds : List ProcessCwd
  statuses : List ProcessStatus
  argv : List ProcessArgv
  ports : List Port
  unreadable : List Unreadable
  errors : List SourceError
  deriving DecidableEq

namespace Snapshot

def new : Snapshot := ⟨SCHEMA_VERSION, [], [], [], [], [], [], [], [], [], [], []⟩

def pushUnreadable [Libc] (s : Snapshot) (pid : Pid) (facet : Facet) (err : Errno) : Snapshot :=
  { s with unreadable := pushUnreadableRow s.unreadable pid facet err }

def pushError (s : Snapshot) (e : SourceError) : Snapshot :=
  { s with errors := s.errors ++ [e] }

end Snapshot

instance : Document Snapshot where
  tsvRows J s :=
    versionRow s.version :: s.procs.map Proc.row ++ s.memory.map Memory.row
      ++ s.startTimes.map StartTime.row ++ s.cpuTimes.map ProcessCpuTime.row
      ++ s.uids.map ProcessUid.row ++ s.cwds.map (ProcessCwd.row J)
      ++ s.statuses.map ProcessStatus.row ++ s.argv.map (ProcessArgv.row J)
      ++ s.ports.map Port.row ++ s.unreadable.map Unreadable.row
      ++ s.errors.map SourceError.row
  hasFacts s :=
    !s.procs.isEmpty || !s.memory.isEmpty || !s.startTimes.isEmpty || !s.cpuTimes.isEmpty
      || !s.uids.isEmpty || !s.cwds.isEmpty || !s.statuses.isEmpty || !s.argv.isEmpty
      || !s.ports.isEmpty || !s.unreadable.isEmpty
  errors s := s.errors
  -- the errors stay in the order of the probes
  normalize s :=
    { s with
      procs := sortByKey (fun row => row.pid.toNat) s.procs
      memory := sortByKey (fun row => row.pid.toNat) s.memory
      startTimes := sortByKey (fun row => row.pid.toNat) s.startTimes
      cpuTimes := sortByKey (fun row => row.pid.toNat) s.cpuTimes
      uids := sortByKey (fun row => row.pid.toNat) s.uids
      cwds := sortByKey (fun row => row.pid.toNat) s.cwds
      statuses := sortByKey (fun row => row.pid.toNat) s.statuses
      argv := sortByKey (fun row => row.pid.toNat) s.argv
      ports := sortByKey portKey s.ports
      unreadable := normalizeUnreadable s.unreadable }

/-! ## `socket-holders` -/

structure SocketHolders where
  version : UInt32
  holders : List Attribution
  procs : List Proc
  unreadable : List Unreadable
  errors : List SourceError
  deriving DecidableEq, Repr

namespace SocketHolders

def new : SocketHolders := ⟨SCHEMA_VERSION, [], [], [], []⟩

/-- The answer of a build with no sensor for this host. -/
def unsupportedPlatform [Libc] (source : String) : SocketHolders :=
  { new with errors := [sourceError source .socketHolders Libc.ENOTSUP] }

def pushUnreadable [Libc] (s : SocketHolders) (pid : Pid) (facet : Facet) (err : Errno) :
    SocketHolders :=
  { s with unreadable := pushUnreadableRow s.unreadable pid facet err }

end SocketHolders

instance : Document SocketHolders where
  tsvRows _ s :=
    versionRow s.version :: s.holders.map Attribution.row ++ s.procs.map Proc.row
      ++ s.unreadable.map Unreadable.row ++ s.errors.map SourceError.row
  hasFacts s := !s.holders.isEmpty || !s.procs.isEmpty || !s.unreadable.isEmpty
  errors s := s.errors
  normalize s :=
    { s with
      holders := dedupByKey holderKey (sortByKey holderKey s.holders)
      procs := sortByKey (fun row => row.pid.toNat) s.procs
      unreadable := normalizeUnreadable s.unreadable }

/-! ## `host` -/

/-- Floating point, as far as the load row needs it: `f64` and its `Display` on the writing
side, `Number(..)` and `Number.isFinite` on the reading side. -/
structure FloatLib where
  F64 : Type
  display : F64 → Text
  Number : Type
  number : Text → Number
  isFinite : Number → Bool

structure Load (L : FloatLib) where
  one : L.F64
  five : L.F64
  fifteen : L.F64

structure HostMemory where
  totalBytes : UInt64
  availableBytes : UInt64
  deriving DecidableEq, Repr

structure Swap where
  totalBytes : UInt64
  usedBytes : UInt64
  deriving DecidableEq, Repr

structure Cpu where
  core : UInt32
  userUs : UInt64
  systemUs : UInt64
  idleUs : UInt64
  otherUs : UInt64
  model : Text
  frequencyMhz : Option UInt64
  deriving DecidableEq, Repr

structure Network where
  name : Text
  rxBytes : UInt64
  txBytes : UInt64
  deriving DecidableEq, Repr

structure Disk where
  mount : Text
  totalBytes : UInt64
  availableBytes : UInt64
  freeBytes : UInt64
  deriving DecidableEq, Repr

def Load.row {L : FloatLib} (v : Load L) : List Text :=
  ["HLOAD".toList, L.display v.one, L.display v.five, L.display v.fifteen]

/-- A row of two byte counts. -/
def twoBytesRow (tag : String) (a b : UInt64) : List Text :=
  [tag.toList, Decimal.decimal a.toNat, Decimal.decimal b.toNat]

def HostMemory.row (v : HostMemory) : List Text := twoBytesRow "HMEM" v.totalBytes v.availableBytes

def Swap.row (v : Swap) : List Text := twoBytesRow "HSWAP" v.totalBytes v.usedBytes

def uptimeRow (v : UInt64) : List Text := ["HUP".toList, Decimal.decimal v.toNat]

def Cpu.row (J : JsonLib) (v : Cpu) : List Text :=
  ["HCPU".toList, Decimal.decimal v.core.toNat, Decimal.decimal v.userUs.toNat,
    Decimal.decimal v.systemUs.toNat, Decimal.decimal v.idleUs.toNat,
    Decimal.decimal v.otherUs.toNat, J.toString v.model,
    orDash (v.frequencyMhz.map UInt64.toNat)]

def Network.row (v : Network) : List Text :=
  ["HNET".toList, v.name, Decimal.decimal v.rxBytes.toNat, Decimal.decimal v.txBytes.toNat]

def Disk.row (v : Disk) : List Text :=
  ["HDISK".toList, v.mount, Decimal.decimal v.totalBytes.toNat,
    Decimal.decimal v.availableBytes.toNat, Decimal.decimal v.freeBytes.toNat]

structure HostSnapshot (L : FloatLib) where
  version : UInt32
  load : Option (Load L)
  memory : Option HostMemory
  swap : Option Swap
  uptimeUs : Option UInt64
  cpus : List Cpu
  networks : List Network
  disks : List Disk
  errors : List SourceError

def HostSnapshot.new {L : FloatLib} : HostSnapshot L :=
  ⟨SCHEMA_VERSION, none, none, none, none, [], [], [], []⟩

/-- A host document has no per-pid rows to order: `normalize` does nothing. -/
instance {L : FloatLib} : Document (HostSnapshot L) where
  tsvRows J s :=
    versionRow s.version :: s.load.toList.map Load.row ++ s.memory.toList.map HostMemory.row
      ++ s.swap.toList.map Swap.row ++ s.uptimeUs.toList.map uptimeRow
      ++ s.cpus.map (Cpu.row J) ++ s.networks.map Network.row ++ s.disks.map Disk.row
      ++ s.errors.map SourceError.row
  hasFacts s :=
    s.load.isSome || s.memory.isSome || s.swap.isSome || s.uptimeUs.isSome
      || !s.cpus.isEmpty || !s.networks.isEmpty || !s.disks.isEmpty
  errors s := s.errors
  normalize s := s

end Osfacts
