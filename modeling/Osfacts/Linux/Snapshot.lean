import Osfacts.Linux.CollectPids

set_option autoImplicit false

/-! # The Linux snapshot

`snapshot` as the source runs it: collect the pids, read the host-global constants the ask
needs, account for every pid facet by facet, and attribute the listeners.
-/

namespace Osfacts.Linux

open Os

/-! ## Host-global constants -/

/-- Boot time, if start times were asked. Its failure is one `E` row. -/
def snapshotBoot (os : Os) (args : SnapshotArgs) (snap : Snapshot) : Snapshot × Option UInt64 :=
  if args.startTime then
    match bootTimeUs os with
    | .ok value => (snap, some value)
    | .error err => (snap.pushError (sourceError "proc_stat_btime" .startTime err), none)
  else (snap, none)

/-- The tick rate, if one of the two facets that need it was asked. -/
def snapshotTicks (os : Os) (args : SnapshotArgs) (snap : Snapshot) : Snapshot × Option UInt64 :=
  if args.cpuTime || args.startTime then
    match clockTicks os with
    | .ok value => (snap, some value)
    | .error err =>
        -- two facets need the rate, and each that was asked gets its row
        let snap := if args.startTime then
          snap.pushError (sourceError "sysconf_clk_tck" .startTime err) else snap
        let snap := if args.cpuTime then
          snap.pushError (sourceError "sysconf_clk_tck" .cpuTime err) else snap
        (snap, none)
  else (snap, none)

/-- The page size, if memory was asked. -/
def snapshotPage (os : Os) (args : SnapshotArgs) (snap : Snapshot) : Snapshot × Option UInt64 :=
  if args.mem then
    match pageSize os with
    | .ok value => (snap, some value)
    | .error err => (snap.pushError (sourceError "sysconf_pagesize" .mem err), none)
  else (snap, none)

/-- The three constants, each absent where it was not asked or could not be read. -/
structure Constants where
  bootUs : Option UInt64
  clkHz : Option UInt64
  pageSize : Option UInt64

def snapshotConstants (os : Os) (args : SnapshotArgs) (snap : Snapshot) : Snapshot × Constants :=
  let (snap, bootUs) := snapshotBoot os args snap
  let (snap, clkHz) := snapshotTicks os args snap
  let (snap, pageSize) := snapshotPage os args snap
  (snap, ⟨bootUs, clkHz, pageSize⟩)

/-! ## One pid -/

/-- Whether some asked facet loads `/proc/<pid>/stat`. -/
def loadsStat (args : SnapshotArgs) : Bool :=
  args.procs || args.startTime || args.cpuTime || args.status

/-- Whether some asked facet loads `/proc/<pid>/cmdline`. -/
def loadsCmdline (args : SnapshotArgs) : Bool := args.procs || args.argv

/-- Push a row, or record that one pid's facet could not be read. -/
def account [Libc] {α : Type} (snap : Snapshot) (pid : Pid) (facet : Facet)
    (push : Snapshot → α → Snapshot) : Except Errno α → Snapshot
  | .ok row => push snap row
  | .error err => snap.pushUnreadable pid facet err

/-- A copy that was loaded. The facets below ask for one only where they loaded it. -/
def loaded {α : Type} (copy : Option (Except Errno α)) : Except Errno α :=
  copy.getD (.error Libc.EIO)

def accountProcs (args : SnapshotArgs) (pid : Pid) (stat : Option (Except Errno Text))
    (cmdline : Option (Except Errno Bytes)) (snap : Snapshot) : Snapshot :=
  if args.procs then
    account snap pid .proc (fun snap row => { snap with procs := snap.procs ++ [row] })
      ((loaded stat).bind (fun stat => readProc pid stat (loaded cmdline)))
  else snap

/-- Resident memory comes from `stat` where some facet loaded it, else from `statm`. -/
def accountMem (os : Os) (args : SnapshotArgs) (k : Constants) (pid : Pid)
    (stat : Option (Except Errno Text)) (snap : Snapshot) : Snapshot :=
  match args.mem, k.pageSize with
  | true, some page =>
      account snap pid .mem
        (fun snap rssBytes => { snap with memory := snap.memory ++ [⟨pid, rssBytes⟩] })
        -- a copy that failed to load is not replaced by `statm`
        (match stat with
        | some stat => stat.bind (fun stat => readRssFromStat stat page)
        | none => readRssFromStatm os pid page)
  | _, _ => snap

def accountStartTime (k : Constants) (pid : Pid) (stat : Option (Except Errno Text))
    (snap : Snapshot) : Snapshot :=
  match k.bootUs, k.clkHz with
  | some bootUs, some clkHz =>
      account snap pid .startTime
        (fun snap startUnixUs =>
          { snap with startTimes := snap.startTimes ++ [⟨pid, startUnixUs⟩] })
        ((loaded stat).bind (fun stat => readStartTime stat bootUs clkHz))
  | _, _ => snap

def accountCpuTime (args : SnapshotArgs) (k : Constants) (pid : Pid)
    (stat : Option (Except Errno Text)) (snap : Snapshot) : Snapshot :=
  match args.cpuTime, k.clkHz with
  | true, some cpuHz =>
      account snap pid .cpuTime
        (fun snap cpuTimeUs => { snap with cpuTimes := snap.cpuTimes ++ [⟨pid, cpuTimeUs⟩] })
        ((loaded stat).bind (fun stat => readCpuTime stat cpuHz))
  | _, _ => snap

def accountUid (os : Os) (args : SnapshotArgs) (pid : Pid) (snap : Snapshot) : Snapshot :=
  if args.uid then
    account snap pid .uid (fun snap uid => { snap with uids := snap.uids ++ [⟨pid, uid⟩] })
      (readUid os pid)
  else snap

def accountCwd (os : Os) (args : SnapshotArgs) (pid : Pid) (snap : Snapshot) : Snapshot :=
  if args.cwd then
    account snap pid .cwd (fun snap cwd => { snap with cwds := snap.cwds ++ [⟨pid, cwd⟩] })
      (readCwd os pid)
  else snap

def accountStatus (args : SnapshotArgs) (pid : Pid) (stat : Option (Except Errno Text))
    (snap : Snapshot) : Snapshot :=
  if args.status then
    account snap pid .status
      (fun snap row =>
        { snap with statuses := snap.statuses ++ [⟨pid, row.1, row.2.1, some row.2.2⟩] })
      ((loaded stat).bind readStatus)
  else snap

def accountArgv (args : SnapshotArgs) (pid : Pid) (cmdline : Option (Except Errno Bytes))
    (snap : Snapshot) : Snapshot :=
  if args.argv then
    account snap pid .argv (fun snap argv => { snap with argv := snap.argv ++ [⟨pid, argv⟩] })
      ((loaded cmdline).map readArgv)
  else snap

/-- Everything a snapshot says about one pid, from one copy of each shared file. -/
def snapshotPid (os : Os) (args : SnapshotArgs) (k : Constants) (snap : Snapshot) (pid : Pid) :
    Snapshot :=
  let stat := if loadsStat args then some (os.readString (procPath pid "stat")) else none
  let cmdline :=
    if loadsCmdline args then some (os.readBytes (procPath pid "cmdline")) else none
  let snap := accountProcs args pid stat cmdline snap
  let snap := accountMem os args k pid stat snap
  let snap := accountStartTime k pid stat snap
  let snap := accountCpuTime args k pid stat snap
  let snap := accountUid os args pid snap
  let snap := accountCwd os args pid snap
  let snap := accountStatus args pid stat snap
  accountArgv args pid cmdline snap

/-! ## Listeners -/

/-- The claims of one pid: an inode belongs to the first pid that holds it. -/
def claimInodes (claims : List (UInt64 × Pid)) (pid : Pid) (inodes : List UInt64) :
    List (UInt64 × Pid) :=
  inodes.foldl (fun claims inode =>
    if (claims.lookup inode).isSome then claims else claims ++ [(inode, pid)]) claims

/-- One step of the descriptor walk: claims, or a `U` row. -/
def claimStep (acc : Snapshot × List (UInt64 × Pid))
    (walked : Pid × Except Errno (List UInt64)) : Snapshot × List (UInt64 × Pid) :=
  match walked.2 with
  | .ok inodes => (acc.1, claimInodes acc.2 walked.1 inodes)
  | .error err => (acc.1.pushUnreadable walked.1 .ports err, acc.2)

def portOfListener (claims : List (UInt64 × Pid)) (listener : Listener) : Port where
  attribution := (claims.lookup listener.inode).elim .unclaimed .claimed
  uid := some listener.uid
  port := listener.port
  address := hexBytes listener.addr

def snapshotPorts (os : Os) (pids : List Pid) (snap : Snapshot) : Snapshot :=
  match loadListeners os with
  | .ok listeners =>
      let (snap, claims) := (socketInodesForPids os pids).foldl claimStep (snap, [])
      { snap with ports := listeners.map (portOfListener claims) }
  | .error (source, err) => snap.pushError (sourceError source .ports err)

/-! ## The snapshot -/

def snapshot (os : Os) (args : SnapshotArgs) : Snapshot :=
  match collectPids os args.scope Snapshot.new with
  | (snap, .error err) =>
      -- nothing is known of any pid, so every asked facet is blind
      args.askedFacets.foldl
        (fun snap facet => snap.pushError (sourceError "proc_readdir" facet err)) snap
  | (snap, .ok pids) =>
      let (snap, k) := snapshotConstants os args snap
      let snap := pids.foldl (snapshotPid os args k) snap
      if args.ports then snapshotPorts os pids snap else snap

end Osfacts.Linux
