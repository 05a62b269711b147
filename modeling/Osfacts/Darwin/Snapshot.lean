import Osfacts.Darwin.Readers

set_option autoImplicit false

/-! # The darwin snapshot and the darwin holders

`snapshot` and `socket_holders` as the source runs them. The process table is the only source of
pids, so both end where it cannot be read.
-/

namespace Osfacts.Darwin

/-! ## One pid -/

/-- Push a row, or record that one pid's facet could not be read. -/
def account {α : Type} (snap : Snapshot) (pid : Pid) (facet : Facet)
    (push : Snapshot → α → Snapshot) : Except Errno α → Snapshot
  | .ok row => push snap row
  | .error err => snap.pushUnreadable pid facet err

/-- The row of a pid in the process table. -/
def bsdRow (table : ProcessTable) (pid : Pid) : Except Errno BsdRow :=
  (table.lookup pid).elim (.error Libc.ESRCH) .ok

/-- Without the timebase, which has an `E` row of its own, there is nothing to say of one pid. -/
def accountCpuTime (snap : Snapshot) (pid : Pid) (task : Except Errno ProcTaskInfo) :
    Option MachTimebase → Snapshot
  | none => snap
  | some timebase =>
      account snap pid .cpuTime (fun snap row =>
        { snap with
          cpuTimes := snap.cpuTimes
            ++ [⟨pid, machTicksToUs row.ptiTotalUser row.ptiTotalSystem timebase⟩] }) task

/-- A thread count that is not positive is not reported. -/
def threadsOf (task : ProcTaskInfo) : Option UInt32 :=
  if task.ptiThreadnum > 0 then some task.ptiThreadnum.toUInt32 else none

/-- The state of a process is in the table, the number of its threads is not: a task that cannot
be read costs the second alone. -/
def pushStatus (snap : Snapshot) (pid : Pid) (task : Except Errno ProcTaskInfo) (row : BsdRow)
    (state : Char) : Snapshot :=
  let (snap, threads) : Snapshot × Option UInt32 := match task with
    | .ok task => (snap, threadsOf task)
    | .error err => (snap.pushUnreadable pid .statusThreads err, none)
  { snap with statuses := snap.statuses ++ [⟨pid, state, row.nice, threads⟩] }

def accountStatus (snap : Snapshot) (pid : Pid) (bsd : Except Errno BsdRow)
    (task : Except Errno ProcTaskInfo) : Snapshot :=
  account snap pid .status
    (fun snap row => account snap pid .status (fun snap state => pushStatus snap pid task row state)
      (darwinState row.status)) bsd

/-- One pid, facet by facet. The source loads the two records only where a facet needs them. -/
def snapshotPid (os : Os) (args : SnapshotArgs) (table : ProcessTable)
    (timebase : Option MachTimebase) (snap : Snapshot) (pid : Pid) : Snapshot :=
  let bsd := bsdRow table pid
  let task := os.taskInfo pid
  let snap := if args.procs then
    account snap pid .proc (fun snap row =>
      { snap with procs := snap.procs ++ [⟨pid, row.ppid, processName os pid row.name⟩] }) bsd
    else snap
  let snap := if args.mem then
    account snap pid .mem (fun snap row =>
      { snap with memory := snap.memory ++ [⟨pid, row.ptiResidentSize⟩] }) task
    else snap
  let snap := if args.startTime then
    account snap pid .startTime (fun snap row =>
      { snap with startTimes := snap.startTimes ++ [⟨pid, row.startUnixUs⟩] }) bsd
    else snap
  let snap := if args.cpuTime then accountCpuTime snap pid task timebase else snap
  let snap := if args.uid then
    account snap pid .uid (fun snap row => { snap with uids := snap.uids ++ [⟨pid, row.uid⟩] }) bsd
    else snap
  let snap := if args.cwd then
    account snap pid .cwd (fun snap cwd => { snap with cwds := snap.cwds ++ [⟨pid, cwd⟩] })
      (readCwd os pid)
    else snap
  let snap := if args.status then accountStatus snap pid bsd task else snap
  if args.argv then
    account snap pid .argv (fun snap argv => { snap with argv := snap.argv ++ [⟨pid, argv⟩] })
      (readArgv os pid)
  else snap

/-! ## `snapshot` -/

/-- The timebase, if CPU times were asked. Its failure is one `E` row. -/
def snapshotTimebase (os : Os) (args : SnapshotArgs) (snap : Snapshot) :
    Snapshot × Option MachTimebase :=
  if args.cpuTime then
    match readMachTimebase os with
    | .ok value => (snap, some value)
    | .error err => (snap.pushError (sourceError "mach_timebase_info" .cpuTime err), none)
  else (snap, none)

def snapshot (os : Os) (args : SnapshotArgs) : Snapshot :=
  let (snap, timebase) := snapshotTimebase os args Snapshot.new
  match readProcessTable os with
  | .error err =>
      -- nothing is known of any pid, so every asked facet is blind
      args.askedFacets.foldl
        (fun snap facet => snap.pushError (sourceError "kern_proc_all" facet err)) snap
  | .ok table =>
      let (wanted, snap) := selectPids args.scope table snap
      let snap := wanted.foldl (snapshotPid os args table timebase) snap
      if args.ports then snapshotPorts (listenerClaims os) (hostListeners os) wanted snap else snap

/-! ## `socket-holders` -/

/-- The identity of a holder. Every holder is in the table it was found in. -/
def holderProc (os : Os) (table : ProcessTable) (pid : Pid) : Option Proc :=
  (table.lookup pid).map (fun row => ⟨pid, row.ppid, processName os pid row.name⟩)

def socketHolders (os : Os) (args : SocketHoldersArgs) : SocketHolders :=
  match readProcessTable os with
  | .error err =>
      { SocketHolders.new with errors := [sourceError "kern_proc_all" .socketHolders err] }
  | .ok table =>
      -- descriptors that may not be read are not a "no", and do not count as a "yes"
      let claimed := (table.map Prod.fst).filter
        (fun pid => holdsUnixSocket os pid args.path matches .ok true)
      if claimed.isEmpty then
        { SocketHolders.new with errors := [blindOrEmpty "darwin_proc_fds" .socketHolders] }
      else
        { SocketHolders.new with
          holders := claimed.map .claimed
          procs := if args.procs then claimed.filterMap (holderProc os table) else [] }

end Osfacts.Darwin
