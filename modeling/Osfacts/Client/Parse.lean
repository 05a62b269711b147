import Osfacts.Schema.Document

set_option autoImplicit false

/-! # The client's parsers

The three documents as the TypeScript client reads them: a version line, then one row to a
line, dispatched on its tag. Every parser is a left fold over the lines that stops at the first
row it cannot read. A JavaScript number that has passed `Number.isSafeInteger` is the integer
its digits spell, so the readings hold naturals and integers.
-/

namespace Osfacts.Client

inductive OsfactsClientError where
  | spawn (message : Text)
  | version (message : Text)
  | parse (message : Text)
  deriving DecidableEq, Repr

def OSFACTS_FORMAT_VERSION : Nat := 2

/-- `throw new OsfactsParseError({ message })`. -/
def parseError {α : Type} (message : Text) : Except OsfactsClientError α :=
  .error (.parse message)

/-! ## Readings -/

structure ProcessRow where
  pid : Nat
  ppid : Nat
  name : Text
  deriving DecidableEq, Repr

structure MemoryRow where
  pid : Nat
  rssBytes : Nat
  deriving DecidableEq, Repr

structure StartTimeRow where
  pid : Nat
  startUnixUs : Nat
  deriving DecidableEq, Repr

structure ProcessCpuTimeRow where
  pid : Nat
  cpuTimeUs : Nat
  deriving DecidableEq, Repr

structure ProcessUidRow where
  pid : Nat
  uid : Nat
  deriving DecidableEq, Repr

structure ProcessCwdRow where
  pid : Nat
  cwd : Text
  deriving DecidableEq, Repr

structure ProcessStatusRow where
  pid : Nat
  state : Text
  nice : Int
  threads : Option Nat
  deriving DecidableEq, Repr

structure ProcessArgvRow where
  pid : Nat
  argv : List Text
  deriving DecidableEq, Repr

/-- The claimed/unclaimed discrimination of the `L` and `H` rows. -/
inductive SocketHolderRow where
  | claimed (pid : Nat)
  | unclaimed
  deriving DecidableEq, Repr

structure ListenerRow where
  attribution : SocketHolderRow
  uid : Option Nat
  port : Nat
  address : Text
  deriving DecidableEq, Repr

structure UnreadableRow where
  pid : Nat
  facet : Text
  errno : Text
  deriving DecidableEq, Repr

structure SourceErrorRow where
  source : Text
  facet : Text
  code : Text
  deriving DecidableEq, Repr

structure SnapshotReading where
  procs : List ProcessRow
  memory : List MemoryRow
  startTimes : List StartTimeRow
  cpuTimes : List ProcessCpuTimeRow
  uids : List ProcessUidRow
  cwds : List ProcessCwdRow
  statuses : List ProcessStatusRow
  argv : List ProcessArgvRow
  ports : List ListenerRow
  unreadable : List UnreadableRow
  errors : List SourceErrorRow
  deriving DecidableEq, Repr

def emptySnapshotReading : SnapshotReading := ⟨[], [], [], [], [], [], [], [], [], [], []⟩

structure SocketHoldersReading where
  holders : List SocketHolderRow
  procs : List ProcessRow
  unreadable : List UnreadableRow
  errors : List SourceErrorRow
  deriving DecidableEq, Repr

def emptySocketHoldersReading : SocketHoldersReading := ⟨[], [], [], []⟩

structure LoadRow (L : FloatLib) where
  one : L.Number
  five : L.Number
  fifteen : L.Number

structure HostMemoryRow where
  totalBytes : Nat
  availableBytes : Nat
  deriving DecidableEq, Repr

structure SwapRow where
  totalBytes : Nat
  usedBytes : Nat
  deriving DecidableEq, Repr

structure CpuRow where
  core : Nat
  userUs : Nat
  systemUs : Nat
  idleUs : Nat
  otherUs : Nat
  model : Text
  frequencyMhz : Option Nat
  deriving DecidableEq, Repr

structure NetworkRow where
  name : Text
  rxBytes : Nat
  txBytes : Nat
  deriving DecidableEq, Repr

structure DiskRow where
  mount : Text
  totalBytes : Nat
  availableBytes : Nat
  freeBytes : Nat
  deriving DecidableEq, Repr

structure HostReading (L : FloatLib) where
  load : Option (LoadRow L)
  memory : Option HostMemoryRow
  swap : Option SwapRow
  uptimeUs : Option Nat
  cpus : List CpuRow
  networks : List NetworkRow
  disks : List DiskRow
  errors : List SourceErrorRow

def emptyHostReading {L : FloatLib} : HostReading L :=
  ⟨none, none, none, none, [], [], [], []⟩

/-! ## The facet vocabulary -/

def UNREADABLE_FACETS : List Text :=
  ["proc".toList, "ports".toList, "mem".toList, "start_time".toList, "cpu_time".toList,
    "uid".toList, "cwd".toList, "status".toList, "status_threads".toList, "argv".toList]

def SNAPSHOT_SOURCE_FACETS : List Text :=
  ["proc".toList, "ports".toList, "ports_unclaimed".toList, "ports_uid".toList, "mem".toList,
    "start_time".toList, "cpu_time".toList, "uid".toList, "cwd".toList, "status".toList,
    "argv".toList]

def SOCKET_HOLDERS_SOURCE_FACETS : List Text := ["socket_holders".toList]

def HOST_SOURCE_FACETS : List Text :=
  ["uptime".toList, "load".toList, "mem".toList, "cpu".toList, "net".toList, "disk".toList]

/-! ## Fields -/

/-- `Number.MAX_SAFE_INTEGER`. -/
def MAX_SAFE_INTEGER : Nat := 2 ^ 53 - 1

/-- A field in a template literal. -/
def shown (raw : Option Text) : Text := raw.getD "undefined".toList

/-- One numeric field: its shape is checked before it is coerced, its value after. -/
def numeric {α : Type} (raw : Option Text) (what : String) (shape : Text → Bool)
    (number : Text → α) (valid : α → Bool) (expected : String) :
    Except OsfactsClientError α :=
  let refuse := parseError
    ("osfacts ".toList ++ what.toList ++ " is not ".toList ++ expected.toList ++ ": ".toList
      ++ shown raw)
  match raw with
  | none => refuse
  | some t => if shape t then (if valid (number t) then pure (number t) else refuse) else refuse

def integer (raw : Option Text) (what : String) : Except OsfactsClientError Nat :=
  numeric raw what Decimal.isNumeral Decimal.value (fun n => n ≤ MAX_SAFE_INTEGER)
    "a safe non-negative integer"

/-- `/^\d+(\.\d+)?$/`. -/
def isDecimalFraction (t : Text) : Bool :=
  match t.splitOn '.' with
  | [whole] => Decimal.isNumeral whole
  | [whole, fraction] => Decimal.isNumeral whole && Decimal.isNumeral fraction
  | _ => false

def float (L : FloatLib) (raw : Option Text) (what : String) :
    Except OsfactsClientError L.Number :=
  numeric raw what isDecimalFraction L.number L.isFinite "finite and non-negative"

/-- `/^-?\d+$/`. -/
def isSignedNumeral : Text → Bool
  | '-' :: t => Decimal.isNumeral t
  | t => Decimal.isNumeral t

def signedValue : Text → Int
  | '-' :: t => -(Decimal.value t : Int)
  | t => Decimal.value t

def signedInteger (raw : Option Text) (what : String) : Except OsfactsClientError Int :=
  numeric raw what isSignedNumeral signedValue (fun i => i.natAbs ≤ MAX_SAFE_INTEGER)
    "a safe integer"

def positiveInteger (raw : Option Text) (what : String) : Except OsfactsClientError Nat := do
  let value ← integer raw what
  if value = 0 then
    parseError ("osfacts ".toList ++ what.toList ++ " must be positive".toList)
  else pure value

def jsonString (J : JsonLib) (raw : Option Text) (what : String) :
    Except OsfactsClientError Text :=
  match J.parse (raw.getD []) with
  | none => parseError ("osfacts ".toList ++ what.toList ++ " is not JSON".toList)
  | some value =>
      match value.asString with
      | none => parseError ("osfacts ".toList ++ what.toList ++ " is not a string".toList)
      | some t => pure t

def jsonStrings (J : JsonLib) (raw : Option Text) (what : String) :
    Except OsfactsClientError (List Text) :=
  match J.parse (raw.getD []) with
  | none => parseError ("osfacts ".toList ++ what.toList ++ " is not JSON".toList)
  | some value =>
      match value.asStrings with
      | none => parseError ("osfacts ".toList ++ what.toList ++ " is not a string array".toList)
      | some ts => pure ts

/-- A field the reader keeps as `-` or an integer. -/
def dashOr {α : Type} (raw : Option Text) (read : Except OsfactsClientError α) :
    Except OsfactsClientError (Option α) :=
  if raw = some "-".toList then pure none else some <$> read

/-! ## Rows -/

def arity (f : List Text) (n : Nat) (row : Text) : Except OsfactsClientError Unit :=
  if f.length ≠ n then parseError ("unreadable osfacts row: ".toList ++ row) else pure ()

def unknownTag {α : Type} (f : List Text) (line : Text) : Except OsfactsClientError α :=
  parseError
    ("unknown osfacts row tag ".toList ++ Json.stringify (f.headD []) ++ ": ".toList ++ line)

/-- The version header all verbs share, and the rows of the body. -/
def bodyRows (body : Text) : Except OsfactsClientError (List Text) :=
  let lines := body.splitOn '\n'
  let first := lines.headD []
  let refuse := Except.error (.version
    ("osfacts did not begin with a version line (got ".toList ++ Json.stringifySlice 40 first
      ++ ")".toList))
  match first with
  | 'V' :: '\t' :: version =>
      if Decimal.isNumeral version then
        if Decimal.value version ≠ OSFACTS_FORMAT_VERSION then
          .error (.version
            ("osfacts speaks format ".toList ++ version ++ ", this reader speaks ".toList
              ++ Decimal.decimal OSFACTS_FORMAT_VERSION
              ++ " — binary and client are from different sources".toList))
        else pure lines.tail
      else refuse
  | _ => refuse

def sourceErrorRow (f : List Text) (line : Text) (allowed : List Text) :
    Except OsfactsClientError SourceErrorRow := do
  arity f 4 line
  let source := f.getD 1 []
  let facet := f.getD 2 []
  let code := f.getD 3 []
  if source = [] ∨ code = [] then parseError ("empty source error: ".toList ++ line)
  if facet ∉ allowed then parseError ("unknown source-error facet: ".toList ++ line)
  pure ⟨source, facet, code⟩

def procRow (f : List Text) (line : Text) : Except OsfactsClientError ProcessRow := do
  arity f 4 line
  let pid ← integer f[1]? "pid"
  let ppid ← integer f[2]? "ppid"
  pure ⟨pid, ppid, f.getD 3 []⟩

def unreadableRow (f : List Text) (line : Text) : Except OsfactsClientError UnreadableRow := do
  arity f 4 line
  let facet := f.getD 2 []
  if facet ∉ UNREADABLE_FACETS then parseError ("unknown unreadable facet: ".toList ++ line)
  if f.getD 3 [] = [] then parseError ("empty unreadable errno: ".toList ++ line)
  let pid ← integer f[1]? "unreadable pid"
  pure ⟨pid, facet, f.getD 3 []⟩

/-- `claimed` implies a positive pid and `unclaimed` implies none. -/
def attribution (status pidRaw : Option Text) (line : Text) (what : String) :
    Except OsfactsClientError SocketHolderRow :=
  -- `-` is the spelling of no pid, and only `unclaimed` may carry it
  if status = some "claimed".toList then
    if pidRaw = some "-".toList then
      parseError ("claimed ".toList ++ what.toList ++ " has no pid: ".toList ++ line)
    else .claimed <$> positiveInteger pidRaw (what ++ " pid")
  else if status = some "unclaimed".toList then
    if pidRaw ≠ some "-".toList then
      parseError ("unclaimed ".toList ++ what.toList ++ " carries a pid: ".toList ++ line)
    else pure .unclaimed
  else parseError ("unknown ".toList ++ what.toList ++ " status: ".toList ++ line)

def isTcpPort (port : Nat) : Bool := 1 ≤ port && port ≤ 65535

/-- `/^[0-9a-f]+$/`. -/
def isLowerHex (t : Text) : Bool :=
  !t.isEmpty && t.all (fun c => c.isDigit || ('a' ≤ c && c ≤ 'f'))

def listenerRow (f : List Text) (line : Text) : Except OsfactsClientError ListenerRow := do
  arity f 6 line
  let uid ← dashOr f[3]? (integer f[3]? "listener uid")
  let port ← integer f[4]? "listener port"
  if ¬ isTcpPort port then
    parseError ("osfacts listener row carries no valid port: ".toList ++ line)
  -- a character of two UTF-16 units is no hex digit, so counting characters decides the same
  let address := f.getD 5 []
  if ¬ (address.length = 8 ∨ address.length = 32) ∨ ¬ isLowerHex address then
    parseError ("osfacts listener row has a bad bind address: ".toList ++ line)
  let claim ← attribution f[1]? f[2]? line "listener"
  pure ⟨claim, uid, port, address⟩

def statusRow (f : List Text) (line : Text) : Except OsfactsClientError ProcessStatusRow := do
  arity f 5 line
  let state := f.getD 2 []
  -- counted in code points, as the spread does, not in UTF-16 units
  if state.length ≠ 1 then
    parseError ("osfacts process state is not one character: ".toList ++ line)
  let pid ← integer f[1]? "status pid"
  let nice ← signedInteger f[3]? "nice value"
  let threads ← dashOr f[4]? (positiveInteger f[4]? "thread count")
  pure ⟨pid, state, nice, threads⟩

def cpuRow (J : JsonLib) (f : List Text) (line : Text) : Except OsfactsClientError CpuRow := do
  arity f 8 line
  -- the model is read before the numbers, so a row with several faults names it first
  let model ← jsonString J f[6]? "cpu model"
  if model.length = 0 then parseError "osfacts CPU model is empty".toList
  let core ← integer f[1]? "cpu core"
  let userUs ← integer f[2]? "cpu user"
  let systemUs ← integer f[3]? "cpu system"
  let idleUs ← integer f[4]? "cpu idle"
  let otherUs ← integer f[5]? "cpu other"
  let frequencyMhz ← dashOr f[7]? (positiveInteger f[7]? "cpu frequency MHz")
  pure ⟨core, userUs, systemUs, idleUs, otherUs, model, frequencyMhz⟩

/-! ## Documents -/

/-- The body of the loop of `parseSnapshotOutput` on a line that is not empty. -/
def snapshotRow (J : JsonLib) (out : SnapshotReading) (line : Text) :
    Except OsfactsClientError SnapshotReading :=
  let f := line.splitOn '\t'
  match f.headD [] with
  | ['P'] => do
      let row ← procRow f line
      pure { out with procs := out.procs ++ [row] }
  -- the rows of one pid and one value; the arity is checked before any field
  | ['M'] => do
      arity f 3 line
      let pid ← integer f[1]? "memory pid"
      let rssBytes ← integer f[2]? "rss"
      pure { out with memory := out.memory ++ [⟨pid, rssBytes⟩] }
  | ['S'] => do
      arity f 3 line
      let pid ← integer f[1]? "start-time pid"
      let startUnixUs ← integer f[2]? "start time"
      pure { out with startTimes := out.startTimes ++ [⟨pid, startUnixUs⟩] }
  | ['C'] => do
      arity f 3 line
      let pid ← integer f[1]? "cpu-time pid"
      let cpuTimeUs ← integer f[2]? "cumulative cpu time"
      pure { out with cpuTimes := out.cpuTimes ++ [⟨pid, cpuTimeUs⟩] }
  | ['U', 'I', 'D'] => do
      arity f 3 line
      let pid ← integer f[1]? "uid pid"
      let uid ← integer f[2]? "uid"
      pure { out with uids := out.uids ++ [⟨pid, uid⟩] }
  | ['C', 'W', 'D'] => do
      arity f 3 line
      let pid ← integer f[1]? "cwd pid"
      let cwd ← jsonString J f[2]? "cwd"
      pure { out with cwds := out.cwds ++ [⟨pid, cwd⟩] }
  | ['S', 'T', 'A', 'T'] => do
      let row ← statusRow f line
      pure { out with statuses := out.statuses ++ [row] }
  | ['A', 'R', 'G', 'V'] => do
      arity f 3 line
      let pid ← integer f[1]? "argv pid"
      let argv ← jsonStrings J f[2]? "argv"
      pure { out with argv := out.argv ++ [⟨pid, argv⟩] }
  | ['L'] => do
      let row ← listenerRow f line
      pure { out with ports := out.ports ++ [row] }
  -- a `U` facet comes from one vocabulary in both verbs, an `E` facet from the verb's own
  | ['U'] => do
      let row ← unreadableRow f line
      pure { out with unreadable := out.unreadable ++ [row] }
  | ['E'] => do
      let row ← sourceErrorRow f line SNAPSHOT_SOURCE_FACETS
      pure { out with errors := out.errors ++ [row] }
  | _ => unknownTag f line

/-- The body of the loop of `parseSocketHoldersOutput` on a line that is not empty. -/
def socketHoldersRow (out : SocketHoldersReading) (line : Text) :
    Except OsfactsClientError SocketHoldersReading :=
  let f := line.splitOn '\t'
  match f.headD [] with
  | ['H'] => do
      arity f 3 line
      let row ← attribution f[1]? f[2]? line "holder"
      pure { out with holders := out.holders ++ [row] }
  | ['P'] => do
      let row ← procRow f line
      pure { out with procs := out.procs ++ [row] }
  | ['U'] => do
      let row ← unreadableRow f line
      pure { out with unreadable := out.unreadable ++ [row] }
  | ['E'] => do
      let row ← sourceErrorRow f line SOCKET_HOLDERS_SOURCE_FACETS
      pure { out with errors := out.errors ++ [row] }
  | _ => unknownTag f line

/-- The body of the loop of `parseHostOutput` on a line that is not empty. -/
def hostRow (J : JsonLib) (L : FloatLib) (out : HostReading L) (line : Text) :
    Except OsfactsClientError (HostReading L) :=
  let f := line.splitOn '\t'
  match f.headD [] with
  -- the first four rows are single values, and a second one replaces the first
  | ['H', 'L', 'O', 'A', 'D'] => do
      arity f 4 line
      let one ← float L f[1]? "load1"
      let five ← float L f[2]? "load5"
      let fifteen ← float L f[3]? "load15"
      pure { out with load := some ⟨one, five, fifteen⟩ }
  | ['H', 'M', 'E', 'M'] => do
      arity f 3 line
      let totalBytes ← integer f[1]? "memory total"
      let availableBytes ← integer f[2]? "memory available"
      pure { out with memory := some ⟨totalBytes, availableBytes⟩ }
  | ['H', 'S', 'W', 'A', 'P'] => do
      arity f 3 line
      let totalBytes ← integer f[1]? "swap total"
      let usedBytes ← integer f[2]? "swap used"
      pure { out with swap := some ⟨totalBytes, usedBytes⟩ }
  | ['H', 'U', 'P'] => do
      arity f 2 line
      let uptimeUs ← integer f[1]? "uptime"
      pure { out with uptimeUs := some uptimeUs }
  | ['H', 'C', 'P', 'U'] => do
      let row ← cpuRow J f line
      pure { out with cpus := out.cpus ++ [row] }
  | ['H', 'N', 'E', 'T'] => do
      arity f 4 line
      let rxBytes ← integer f[2]? "network rx"
      let txBytes ← integer f[3]? "network tx"
      pure { out with networks := out.networks ++ [⟨f.getD 1 [], rxBytes, txBytes⟩] }
  | ['H', 'D', 'I', 'S', 'K'] => do
      arity f 5 line
      let totalBytes ← integer f[2]? "disk total"
      let availableBytes ← integer f[3]? "disk available"
      let freeBytes ← integer f[4]? "disk free"
      pure { out with
        disks := out.disks ++ [⟨f.getD 1 [], totalBytes, availableBytes, freeBytes⟩] }
  | ['E'] => do
      let row ← sourceErrorRow f line HOST_SOURCE_FACETS
      pure { out with errors := out.errors ++ [row] }
  | _ => unknownTag f line

/-- `for (const line of bodyRows(body))`, with empty lines skipped. -/
def parseRows {R : Type} (row : R → Text → Except OsfactsClientError R) (empty : R)
    (body : Text) : Except OsfactsClientError R := do
  let lines ← bodyRows body
  lines.foldlM (fun out line => if line = [] then pure out else row out line) empty

def parseSnapshotOutput (J : JsonLib) (body : Text) : Except OsfactsClientError SnapshotReading :=
  parseRows (snapshotRow J) emptySnapshotReading body

def parseSocketHoldersOutput (body : Text) : Except OsfactsClientError SocketHoldersReading :=
  parseRows socketHoldersRow emptySocketHoldersReading body

def parseHostOutput (J : JsonLib) (L : FloatLib) (body : Text) :
    Except OsfactsClientError (HostReading L) :=
  parseRows (hostRow J L) emptyHostReading body

/-! ## One vocabulary on both sides -/

theorem unreadable_facets_eq : UNREADABLE_FACETS = Facet.UNREADABLE.map Facet.asStr := rfl

theorem snapshot_source_facets_eq :
    SNAPSHOT_SOURCE_FACETS = Facet.SNAPSHOT_SOURCE.map Facet.asStr := rfl

theorem socket_holders_source_facets_eq :
    SOCKET_HOLDERS_SOURCE_FACETS = Facet.SOCKET_HOLDERS_SOURCE.map Facet.asStr := rfl

theorem host_source_facets_eq : HOST_SOURCE_FACETS = Facet.HOST_SOURCE.map Facet.asStr := rfl

end Osfacts.Client
