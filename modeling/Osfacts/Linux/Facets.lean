import Osfacts.Basic.FirstClaim
import Osfacts.Linux.Snapshot

set_option autoImplicit false

/-! # The snapshot, facet by facet

The snapshot is a run of eight account blocks for each pid. Here it is seen from the side of
one flag: the flag's table, the reading of a pid for it, and the rows the two leave in the
document. `snapshot_eq` says that the document is nothing else.
-/

namespace Osfacts

/-! ## Tables -/

/-- The rows of a flag's table. -/
abbrev Flag.Row : Flag → Type
  | .procs => Proc
  | .ports => Port
  | .mem => Memory
  | .startTime => StartTime
  | .cpuTime => ProcessCpuTime
  | .uid => ProcessUid
  | .cwd => ProcessCwd
  | .status => ProcessStatus
  | .argv => ProcessArgv

/-- The pid column of a row. -/
def Flag.pidOf : (f : Flag) → f.Row → Option Pid
  | .procs, row => some row.pid
  | .ports, row =>
      match row.attribution with
      | .claimed pid => some pid
      | .unclaimed => none
  | .mem, row => some row.pid
  | .startTime, row => some row.pid
  | .cpuTime, row => some row.pid
  | .uid, row => some row.pid
  | .cwd, row => some row.pid
  | .status, row => some row.pid
  | .argv, row => some row.pid

/-- The table of a flag in a document. -/
def Snapshot.table (s : Snapshot) : (f : Flag) → List f.Row
  | .procs => s.procs
  | .ports => s.ports
  | .mem => s.memory
  | .startTime => s.startTimes
  | .cpuTime => s.cpuTimes
  | .uid => s.uids
  | .cwd => s.cwds
  | .status => s.statuses
  | .argv => s.argv

/-- Append rows to the table of a flag. -/
def Snapshot.extend (s : Snapshot) : (f : Flag) → List f.Row → Snapshot
  | .procs, rows => { s with procs := s.procs ++ rows }
  | .ports, rows => { s with ports := s.ports ++ rows }
  | .mem, rows => { s with memory := s.memory ++ rows }
  | .startTime, rows => { s with startTimes := s.startTimes ++ rows }
  | .cpuTime, rows => { s with cpuTimes := s.cpuTimes ++ rows }
  | .uid, rows => { s with uids := s.uids ++ rows }
  | .cwd, rows => { s with cwds := s.cwds ++ rows }
  | .status, rows => { s with statuses := s.statuses ++ rows }
  | .argv, rows => { s with argv := s.argv ++ rows }

namespace Linux

open Os

/-! ## The reading of one pid for one flag -/

/-- The flags whose facts are read pid by pid, in the order in which they are read. -/
def pidFlags : List Flag := [.procs, .mem, .startTime, .cpuTime, .uid, .cwd, .status, .argv]

theorem mem_pidFlags {f : Flag} : f ∈ pidFlags ↔ f ≠ .ports := by
  cases f <;> decide

def statOf (os : Os) (pid : Pid) : Except Errno Text := os.readString (procPath pid "stat")

def cmdlineOf (os : Os) (pid : Pid) : Except Errno Bytes :=
  os.readBytes (procPath pid "cmdline")

/-- Resident memory, from `stat` where the ask loads it and from `statm` where not. -/
def readRss (os : Os) (args : SnapshotArgs) (pid : Pid) (page : UInt64) :
    Except Errno UInt64 :=
  if loadsStat args then (statOf os pid).bind (fun stat => readRssFromStat stat page)
  else readRssFromStatm os pid page

/-- What an ask reads of a pid for a flag: nothing where the flag was not asked or its constant
is missing, else a row or an errno. -/
def reading (os : Os) (args : SnapshotArgs) (k : Constants) (pid : Pid) :
    (f : Flag) → Option (Except Errno f.Row)
  | .procs =>
      if args.procs then
        some ((statOf os pid).bind (fun stat => readProc pid stat (cmdlineOf os pid)))
      else none
  | .ports => none
  | .mem =>
      if args.mem then
        k.pageSize.map
          (fun page => (readRss os args pid page).map (fun rss => (⟨pid, rss⟩ : Memory)))
      else none
  | .startTime =>
      k.bootUs.bind (fun bootUs => k.clkHz.map (fun clkHz =>
        ((statOf os pid).bind (fun stat => readStartTime stat bootUs clkHz)).map
          (fun start => (⟨pid, start⟩ : StartTime))))
  | .cpuTime =>
      if args.cpuTime then
        k.clkHz.map (fun clkHz =>
          ((statOf os pid).bind (fun stat => readCpuTime stat clkHz)).map
            (fun cpu => (⟨pid, cpu⟩ : ProcessCpuTime)))
      else none
  | .uid =>
      if args.uid then some ((readUid os pid).map (fun uid => (⟨pid, uid⟩ : ProcessUid)))
      else none
  | .cwd =>
      if args.cwd then some ((readCwd os pid).map (fun cwd => (⟨pid, cwd⟩ : ProcessCwd)))
      else none
  | .status =>
      if args.status then
        some (((statOf os pid).bind readStatus).map
          (fun row => (⟨pid, row.1, row.2.1, some row.2.2⟩ : ProcessStatus)))
      else none
  | .argv =>
      if args.argv then
        some (((cmdlineOf os pid).map readArgv).map (fun argv => (⟨pid, argv⟩ : ProcessArgv)))
      else none

/-- The rows a reading leaves in its table. -/
def facts {α : Type} : Option (Except Errno α) → List α
  | some (.ok row) => [row]
  | _ => []

section Credit

variable [Libc]

/-- The `U` rows a reading leaves. -/
def blame {α : Type} (pid : Pid) (facet : Facet) : Option (Except Errno α) → List Unreadable
  | some (.error err) => [⟨pid, facet, errnoName err⟩]
  | _ => []

/-- Enter a reading into the document. -/
def credit (snap : Snapshot) (pid : Pid) (f : Flag) (r : Option (Except Errno f.Row)) :
    Snapshot :=
  { snap.extend f (facts r) with unreadable := snap.unreadable ++ blame pid f.facet r }

theorem table_credit (snap : Snapshot) (pid : Pid) (f : Flag)
    (r : Option (Except Errno f.Row)) :
    (credit snap pid f r).table f = snap.table f ++ facts r := by
  cases f <;> rfl

theorem table_credit_ne (snap : Snapshot) (pid : Pid) {f g : Flag} (h : g ≠ f)
    (r : Option (Except Errno f.Row)) : (credit snap pid f r).table g = snap.table g := by
  cases f <;> cases g <;> first | rfl | exact absurd rfl h

theorem unreadable_credit (snap : Snapshot) (pid : Pid) (f : Flag)
    (r : Option (Except Errno f.Row)) :
    (credit snap pid f r).unreadable = snap.unreadable ++ blame pid f.facet r := rfl

theorem errors_credit (snap : Snapshot) (pid : Pid) (f : Flag)
    (r : Option (Except Errno f.Row)) : (credit snap pid f r).errors = snap.errors := by
  cases f <;> rfl

theorem version_credit (snap : Snapshot) (pid : Pid) (f : Flag)
    (r : Option (Except Errno f.Row)) : (credit snap pid f r).version = snap.version := by
  cases f <;> rfl

end Credit

/-! ## Each block is one credit -/

/-- A reading that is absent changes nothing. -/
theorem credit_none [Libc] (snap : Snapshot) (pid : Pid) (f : Flag) :
    credit snap pid f none = snap := by
  cases f <;> simp [credit, facts, blame, Snapshot.extend]

/-- An account is a credit when its push appends one row. -/
theorem account_eq_credit [Libc] {α : Type} (f : Flag) (row : α → f.Row) {snap : Snapshot}
    {pid : Pid} {push : Snapshot → α → Snapshot} (hpush : ∀ a, push snap a = snap.extend f [row a])
    (r : Except Errno α) :
    account snap pid f.facet push r = credit snap pid f (some (r.map row)) := by
  cases r with
  | error err =>
      show snap.pushUnreadable pid f.facet err = _
      cases f <;>
        simp [credit, Except.map, facts, blame, Snapshot.extend, Snapshot.pushUnreadable,
          pushUnreadableRow]
  | ok a =>
      show push snap a = _
      rw [hpush]
      cases f <;> simp [credit, Except.map, facts, blame, Snapshot.extend]

section Blocks

variable (os : Os) (args : SnapshotArgs) (k : Constants) (snap : Snapshot) (pid : Pid)

/-- The copy of `stat` an ask loads. -/
def statCopy : Option (Except Errno Text) :=
  if loadsStat args then some (statOf os pid) else none

/-- The copy of `cmdline` an ask loads. -/
def cmdlineCopy : Option (Except Errno Bytes) :=
  if loadsCmdline args then some (cmdlineOf os pid) else none

theorem loaded_statCopy (h : loadsStat args = true) :
    loaded (statCopy os args pid) = statOf os pid := by
  rw [statCopy, if_pos h]
  rfl

theorem loaded_cmdlineCopy (h : loadsCmdline args = true) :
    loaded (cmdlineCopy os args pid) = cmdlineOf os pid := by
  rw [cmdlineCopy, if_pos h]
  rfl

theorem accountProcs_eq :
    accountProcs args pid (statCopy os args pid) (cmdlineCopy os args pid) snap
      = credit snap pid .procs (reading os args k pid .procs) := by
  by_cases h : args.procs = true
  · -- asking for a process loads both of its files
    have hs : loadsStat args = true := by simp [loadsStat, h]
    have hc : loadsCmdline args = true := by simp [loadsCmdline, h]
    have hid : ∀ r : Except Errno Proc, r.map id = r := fun r => by cases r <;> rfl
    rw [accountProcs, if_pos h, reading, if_pos h, loaded_statCopy os args pid hs,
      loaded_cmdlineCopy os args pid hc]
    exact (account_eq_credit .procs id (fun _ => rfl) _).trans (by rw [hid])
  · rw [accountProcs, if_neg h, reading, if_neg h, credit_none]

theorem accountMem_eq :
    accountMem os args k pid (statCopy os args pid) snap
      = credit snap pid .mem (reading os args k pid .mem) := by
  rw [accountMem, reading]
  cases hmem : args.mem with
  | false => exact (credit_none snap pid .mem).symm
  | true =>
      cases hpage : k.pageSize with
      | none => exact (credit_none snap pid .mem).symm
      | some page =>
          let push := fun (snap : Snapshot) rss =>
            { snap with memory := snap.memory ++ [Memory.mk pid rss] }
          calc _ = account snap pid .mem push (readRss os args pid page) := by
                -- the copy of `stat` is the source exactly when the ask loads it
                rw [statCopy, readRss]
                split_ifs <;> rfl
            _ = credit snap pid .mem
                  (some ((readRss os args pid page).map (fun rss => (⟨pid, rss⟩ : Memory)))) :=
                account_eq_credit .mem _ (fun _ => rfl) _

theorem accountStartTime_eq (h : k.bootUs ≠ none → args.startTime = true) :
    accountStartTime k pid (statCopy os args pid) snap
      = credit snap pid .startTime (reading os args k pid .startTime) := by
  rw [accountStartTime, reading]
  cases hboot : k.bootUs with
  | none => exact (credit_none snap pid .startTime).symm
  | some bootUs =>
      cases hhz : k.clkHz with
      | none => exact (credit_none snap pid .startTime).symm
      | some hz =>
          have hasked := h (by simp [hboot])
          have hs : loadsStat args = true := by simp [loadsStat, hasked]
          rw [loaded_statCopy os args pid hs]
          exact account_eq_credit .startTime (fun start => (⟨pid, start⟩ : StartTime))
            (fun _ => rfl) _

theorem accountCpuTime_eq :
    accountCpuTime args k pid (statCopy os args pid) snap
      = credit snap pid .cpuTime (reading os args k pid .cpuTime) := by
  rw [accountCpuTime, reading]
  cases hcpu : args.cpuTime with
  | false => exact (credit_none snap pid .cpuTime).symm
  | true =>
      cases hhz : k.clkHz with
      | none => exact (credit_none snap pid .cpuTime).symm
      | some hz =>
          have hs : loadsStat args = true := by simp [loadsStat, hcpu]
          rw [loaded_statCopy os args pid hs]
          exact account_eq_credit .cpuTime (fun cpu => (⟨pid, cpu⟩ : ProcessCpuTime))
            (fun _ => rfl) _

theorem accountUid_eq :
    accountUid os args pid snap = credit snap pid .uid (reading os args k pid .uid) := by
  by_cases h : args.uid = true
  · rw [accountUid, if_pos h, reading, if_pos h]
    exact account_eq_credit .uid (fun uid => (⟨pid, uid⟩ : ProcessUid)) (fun _ => rfl) _
  · rw [accountUid, if_neg h, reading, if_neg h, credit_none]

theorem accountCwd_eq :
    accountCwd os args pid snap = credit snap pid .cwd (reading os args k pid .cwd) := by
  by_cases h : args.cwd = true
  · rw [accountCwd, if_pos h, reading, if_pos h]
    exact account_eq_credit .cwd (fun cwd => (⟨pid, cwd⟩ : ProcessCwd)) (fun _ => rfl) _
  · rw [accountCwd, if_neg h, reading, if_neg h, credit_none]

theorem accountStatus_eq :
    accountStatus args pid (statCopy os args pid) snap
      = credit snap pid .status (reading os args k pid .status) := by
  by_cases h : args.status = true
  · have hs : loadsStat args = true := by simp [loadsStat, h]
    rw [accountStatus, if_pos h, reading, if_pos h, loaded_statCopy os args pid hs]
    exact account_eq_credit .status
      (fun (row : Char × Int32 × UInt32) =>
        (⟨pid, row.1, row.2.1, some row.2.2⟩ : ProcessStatus)) (fun _ => rfl) _
  · rw [accountStatus, if_neg h, reading, if_neg h, credit_none]

theorem accountArgv_eq :
    accountArgv args pid (cmdlineCopy os args pid) snap
      = credit snap pid .argv (reading os args k pid .argv) := by
  by_cases h : args.argv = true
  · have hc : loadsCmdline args = true := by simp [loadsCmdline, h]
    rw [accountArgv, if_pos h, reading, if_pos h, loaded_cmdlineCopy os args pid hc]
    exact account_eq_credit .argv (fun argv => (⟨pid, argv⟩ : ProcessArgv)) (fun _ => rfl) _
  · rw [accountArgv, if_neg h, reading, if_neg h, credit_none]

/-- **One pid.** The eight blocks credit the eight readings, in order. -/
theorem snapshotPid_eq (h : k.bootUs ≠ none → args.startTime = true) :
    snapshotPid os args k snap pid
      = pidFlags.foldl (fun snap f => credit snap pid f (reading os args k pid f)) snap := by
  show accountArgv args pid (cmdlineCopy os args pid)
    (accountStatus args pid (statCopy os args pid)
      (accountCwd os args pid
        (accountUid os args pid
          (accountCpuTime args k pid (statCopy os args pid)
            (accountStartTime k pid (statCopy os args pid)
              (accountMem os args k pid (statCopy os args pid)
                (accountProcs args pid (statCopy os args pid) (cmdlineCopy os args pid)
                  snap))))))) = _
  rw [accountProcs_eq os args k, accountMem_eq, accountStartTime_eq os args k _ _ h,
    accountCpuTime_eq, accountUid_eq os args k, accountCwd_eq os args k, accountStatus_eq os args k,
    accountArgv_eq os args k]
  rfl

end Blocks

/-! ## All pids -/

/-- A list of credits: each table gets its own rows, the `U` rows come in order. -/
theorem foldl_credit [Libc] (r : (f : Flag) → Option (Except Errno f.Row)) (pid : Pid)
    (flags : List Flag) (hnodup : flags.Nodup) (snap : Snapshot) :
    let out := flags.foldl (fun snap f => credit snap pid f (r f)) snap
    (∀ f, out.table f = snap.table f ++ if f ∈ flags then facts (r f) else []) ∧
    out.unreadable = snap.unreadable ++ flags.flatMap (fun f => blame pid f.facet (r f)) ∧
    out.errors = snap.errors ∧ out.version = snap.version := by
  induction flags generalizing snap with
  | nil => simp
  | cons g flags ih =>
      obtain ⟨hg, hnodup⟩ := List.nodup_cons.mp hnodup
      obtain ⟨htable, hunreadable, herrors, hversion⟩ := ih hnodup (credit snap pid g (r g))
      refine ⟨fun f => ?_, ?_, ?_, ?_⟩
      · -- the flag of this credit does not come again
        rw [List.foldl_cons, htable f]
        by_cases hfg : f = g
        · subst hfg
          rw [table_credit, if_neg hg, if_pos (List.mem_cons_self), List.append_nil]
        · rw [table_credit_ne _ _ hfg]
          simp [List.mem_cons, hfg]
      · rw [List.foldl_cons, hunreadable, unreadable_credit, List.flatMap_cons,
          List.append_assoc]
      · rw [List.foldl_cons, herrors, errors_credit]
      · rw [List.foldl_cons, hversion, version_credit]

/-- The `U` rows the account of one pid leaves. -/
def pidBlame (os : Os) (args : SnapshotArgs) (k : Constants) (pid : Pid) : List Unreadable :=
  pidFlags.flatMap (fun f => blame pid f.facet (reading os args k pid f))

theorem nodup_pidFlags : pidFlags.Nodup := by decide

theorem reading_ports (os : Os) (args : SnapshotArgs) (k : Constants) (pid : Pid) :
    reading os args k pid .ports = none := rfl

/-- **All pids.** Each table gets the facts of every pid, in the order of the pids. -/
theorem foldl_snapshotPid (os : Os) (args : SnapshotArgs) (k : Constants)
    (h : k.bootUs ≠ none → args.startTime = true) (pids : List Pid) (snap : Snapshot) :
    let out := pids.foldl (snapshotPid os args k) snap
    (∀ f, out.table f
      = snap.table f ++ pids.flatMap (fun pid => facts (reading os args k pid f))) ∧
    out.unreadable = snap.unreadable ++ pids.flatMap (pidBlame os args k) ∧
    out.errors = snap.errors ∧ out.version = snap.version := by
  induction pids generalizing snap with
  | nil => simp
  | cons pid pids ih =>
      obtain ⟨htable, hunreadable, herrors, hversion⟩ := ih (snapshotPid os args k snap pid)
      obtain ⟨htable', hunreadable', herrors', hversion'⟩ :=
        foldl_credit (reading os args k pid) pid pidFlags nodup_pidFlags snap
      rw [← snapshotPid_eq os args k snap pid h] at htable' hunreadable' herrors' hversion'
      refine ⟨fun f => ?_, ?_, ?_, ?_⟩
      · -- ports have no reading, so their table gets nothing either way
        have hfacts : (if f ∈ pidFlags then facts (reading os args k pid f) else [])
            = facts (reading os args k pid f) := by
          split_ifs with hf
          · rfl
          · have hports : f = .ports := not_not.mp (mt mem_pidFlags.mpr hf)
            subst hports
            rfl
        rw [List.foldl_cons, htable f, htable' f, hfacts, List.flatMap_cons, List.append_assoc]
      · rw [List.foldl_cons, hunreadable, hunreadable', List.flatMap_cons, List.append_assoc]
        rfl
      · rw [List.foldl_cons, herrors, herrors']
      · rw [List.foldl_cons, hversion, hversion']

/-! ## Constants -/

/-- The constants an ask reads. -/
def constants (os : Os) (args : SnapshotArgs) : Constants where
  bootUs := if args.startTime then (bootTimeUs os).toOption else none
  clkHz := if args.cpuTime || args.startTime then (clockTicks os).toOption else none
  pageSize := if args.mem then (pageSize os).toOption else none

/-- The `E` row of a source that failed, if it was asked. -/
def constantError [Libc] {α : Type} (asked : Bool) (source : String) (facet : Facet)
    (r : Except Errno α) : List SourceError :=
  match asked, r with
  | true, .error err => [sourceError source facet err]
  | _, _ => []

/-- The `E` rows of the constants an ask could not read. -/
def constantErrors (os : Os) (args : SnapshotArgs) : List SourceError :=
  constantError args.startTime "proc_stat_btime" .startTime (bootTimeUs os)
    ++ constantError args.startTime "sysconf_clk_tck" .startTime (clockTicks os)
    ++ constantError args.cpuTime "sysconf_clk_tck" .cpuTime (clockTicks os)
    ++ constantError args.mem "sysconf_pagesize" .mem (pageSize os)

theorem pushError_eq (snap : Snapshot) (e : SourceError) :
    snap.pushError e = { snap with errors := snap.errors ++ [e] } := rfl

theorem snapshotConstants_eq (os : Os) (args : SnapshotArgs) (snap : Snapshot) :
    snapshotConstants os args snap
      = ({ snap with errors := snap.errors ++ constantErrors os args }, constants os args) := by
  simp only [snapshotConstants, snapshotBoot, snapshotTicks, snapshotPage, constants,
    constantErrors]
  cases args.startTime <;> cases args.cpuTime <;> cases args.mem <;>
    cases bootTimeUs os <;> cases clockTicks os <;> cases pageSize os <;>
    simp [constantError, pushError_eq, Except.toOption]

theorem constants_boot (os : Os) (args : SnapshotArgs) :
    (constants os args).bootUs ≠ none → args.startTime = true := by
  intro h
  by_contra hno
  exact h (if_neg hno)

/-! ## Listeners -/

/-- The claims of one pid, where its descriptors can be read. -/
def addClaims (os : Os) (claims : List (UInt64 × Pid)) (pid : Pid) : List (UInt64 × Pid) :=
  match socketInodes os pid with
  | .ok inodes => claimInodes claims pid inodes
  | .error _ => claims

/-- The claims of a list of pids, first come first served. -/
def claimsOf (os : Os) (pids : List Pid) : List (UInt64 × Pid) := pids.foldl (addClaims os) []

/-- The socket inodes a process is seen to hold: none where its descriptors cannot be read. -/
def heldInodes (os : Os) (pid : Pid) : List UInt64 :=
  match socketInodes os pid with
  | .ok inodes => inodes
  | .error _ => []

/-- The first of a list of pids that is seen to hold a socket. -/
def holder (os : Os) (pids : List Pid) (inode : UInt64) : Option Pid :=
  pids.find? (fun pid => decide (inode ∈ heldInodes os pid))

theorem addClaims_eq (os : Os) (claims : List (UInt64 × Pid)) (pid : Pid) :
    addClaims os claims pid
      = (heldInodes os pid).foldl (fun claims inode => insertNew claims inode pid) claims := by
  unfold addClaims heldInodes
  cases socketInodes os pid with
  | ok inodes => rfl
  | error err => rfl

/-- A listener is claimed by the first pid that holds its socket. -/
theorem lookup_claimsOf (os : Os) (pids : List Pid) (inode : UInt64) :
    (claimsOf os pids).lookup inode = holder os pids inode := by
  have heq : claimsOf os pids = claimAll (heldInodes os) pids [] := by
    rw [claimsOf, claimAll, funext fun claims => funext (addClaims_eq os claims)]
  rw [heq, lookup_claimAll, List.lookup_nil, Option.none_or, holder]

/-- The descriptor walk adds claims and, for each pid it cannot read, a `U` row. -/
theorem foldl_claimStep (os : Os) (pids : List Pid) (snap : Snapshot)
    (claims : List (UInt64 × Pid)) :
    (pids.map (fun pid => (pid, socketInodes os pid))).foldl claimStep (snap, claims)
      = ({ snap with
            unreadable := snap.unreadable
              ++ pids.flatMap (fun pid => blame pid .ports (some (socketInodes os pid))) },
          pids.foldl (addClaims os) claims) := by
  induction pids generalizing snap claims with
  | nil => simp
  | cons pid pids ih =>
      rw [List.map_cons, List.foldl_cons, List.foldl_cons, List.flatMap_cons, addClaims]
      cases hwalk : socketInodes os pid with
      | ok inodes =>
          have hstep : claimStep (snap, claims) (pid, Except.ok inodes)
              = (snap, claimInodes claims pid inodes) := rfl
          rw [hstep, ih]
          simp [blame]
      | error err =>
          have hstep : claimStep (snap, claims) (pid, Except.error err)
              = (snap.pushUnreadable pid .ports err, claims) := rfl
          rw [hstep, ih]
          simp [blame, Snapshot.pushUnreadable, pushUnreadableRow]

/-- The `L` rows of an ask. -/
def portRows (os : Os) (args : SnapshotArgs) (pids : List Pid) : List Port :=
  match args.ports, loadListeners os with
  | true, .ok listeners => listeners.map (portOfListener (claimsOf os pids))
  | _, _ => []

/-- The `U` rows of the descriptor walk. -/
def portBlame (os : Os) (args : SnapshotArgs) (pids : List Pid) : List Unreadable :=
  match args.ports, loadListeners os with
  | true, .ok _ => pids.flatMap (fun pid => blame pid .ports (some (socketInodes os pid)))
  | _, _ => []

/-- The `E` row of a listener table that could not be read. -/
def portErrors (os : Os) (args : SnapshotArgs) : List SourceError :=
  match args.ports, loadListeners os with
  | true, .error (source, err) => [sourceError source .ports err]
  | _, _ => []

theorem snapshotPorts_eq (os : Os) (args : SnapshotArgs) (pids : List Pid) {snap : Snapshot}
    (hnone : snap.ports = []) :
    (if args.ports then snapshotPorts os pids snap else snap)
      = { snap with
          ports := portRows os args pids
          unreadable := snap.unreadable ++ portBlame os args pids
          errors := snap.errors ++ portErrors os args } := by
  unfold snapshotPorts portRows portBlame portErrors
  cases args.ports with
  | false => simp [← hnone]
  | true =>
      cases hload : loadListeners os with
      | ok listeners =>
          simp only [if_true, socketInodesForPids_eq, foldl_claimStep, claimsOf,
            List.append_nil]
      | error e =>
          simp [pushError_eq, ← hnone]

/-! ## The whole snapshot -/

/-- The pids an ask selects, or the errno of the listing. -/
def selected (os : Os) (args : SnapshotArgs) : Except Errno (List Pid) :=
  (collectPids os args.scope Snapshot.new).2

/-- The `U` rows of the collection. -/
def collectionRows (os : Os) (args : SnapshotArgs) : List Unreadable :=
  (collectPids os args.scope Snapshot.new).1.unreadable

theorem collectPids_fst (os : Os) (args : SnapshotArgs) :
    (collectPids os args.scope Snapshot.new).1
      = { Snapshot.new with unreadable := collectionRows os args } := by
  rw [collectionRows]
  cases args.scope <;> rfl

/-- **The snapshot of a listing that failed**: one `E` row for each asked facet. -/
theorem snapshot_of_error {os : Os} {args : SnapshotArgs} {err : Errno}
    (h : selected os args = .error err) :
    snapshot os args = { Snapshot.new with
      errors := args.askedFacets.map (fun facet => sourceError "proc_readdir" facet err) } := by
  -- only host scope can fail, and it fails before it has any row
  have hhost : collectPids os args.scope Snapshot.new = (Snapshot.new, .error err) := by
    rw [selected] at h
    revert h
    cases args.scope with
    | host => exact fun h => Prod.ext rfl h
    | roots roots => exact fun h => nomatch h
    | pids list => exact fun h => nomatch h
  have hfold : ∀ (facets : List Facet) (snap : Snapshot),
      facets.foldl (fun snap facet => snap.pushError (sourceError "proc_readdir" facet err)) snap
        = { snap with errors := snap.errors
              ++ facets.map (fun facet => sourceError "proc_readdir" facet err) } := by
    intro facets
    induction facets with
    | nil => simp
    | cons facet facets ih =>
        intro snap
        rw [List.foldl_cons, ih, pushError_eq]
        simp
  rw [snapshot, hhost]
  exact hfold args.askedFacets Snapshot.new

/-- The document before the loop over the pids. -/
def beforePids (os : Os) (args : SnapshotArgs) : Snapshot :=
  { Snapshot.new with
    unreadable := collectionRows os args
    errors := constantErrors os args }

/-- The document after the loop over the pids. -/
def afterPids (os : Os) (args : SnapshotArgs) (pids : List Pid) : Snapshot :=
  pids.foldl (snapshotPid os args (constants os args)) (beforePids os args)

theorem snapshot_of_ok {os : Os} {args : SnapshotArgs} {pids : List Pid}
    (h : selected os args = .ok pids) :
    snapshot os args
      = if args.ports then snapshotPorts os pids (afterPids os args pids)
        else afterPids os args pids := by
  have hcollect : collectPids os args.scope Snapshot.new
      = ({ Snapshot.new with unreadable := collectionRows os args }, .ok pids) :=
    Prod.ext (collectPids_fst os args) h
  rw [snapshot, hcollect]
  simp only [snapshotConstants_eq]
  rfl

/-- **The snapshot, facet by facet.** -/
theorem snapshot_eq {os : Os} {args : SnapshotArgs} {pids : List Pid}
    (h : selected os args = .ok pids) :
    (∀ f, f ≠ .ports → (snapshot os args).table f
      = pids.flatMap (fun pid => facts (reading os args (constants os args) pid f))) ∧
    (snapshot os args).ports = portRows os args pids ∧
    (snapshot os args).unreadable
      = collectionRows os args ++ pids.flatMap (pidBlame os args (constants os args))
        ++ portBlame os args pids ∧
    (snapshot os args).errors = constantErrors os args ++ portErrors os args ∧
    (snapshot os args).version = SCHEMA_VERSION := by
  obtain ⟨htable, hunreadable, herrors, hversion⟩ :=
    foldl_snapshotPid os args (constants os args) (constants_boot os args) pids
      (beforePids os args)
  change ∀ f, (afterPids os args pids).table f = _ at htable
  -- no pid writes a listener, so the ports are those of the last step
  have hnone : (afterPids os args pids).ports = [] := by
    have hports : (afterPids os args pids).ports = [] ++ pids.flatMap (fun _ => []) :=
      htable .ports
    rw [hports]
    simp
  rw [snapshot_of_ok h, snapshotPorts_eq os args pids hnone]
  refine ⟨fun f hf => ?_, rfl, ?_, ?_, hversion⟩
  · cases f with
    | ports => exact absurd rfl hf
    | procs => exact htable .procs
    | mem => exact htable .mem
    | startTime => exact htable .startTime
    | cpuTime => exact htable .cpuTime
    | uid => exact htable .uid
    | cwd => exact htable .cwd
    | status => exact htable .status
    | argv => exact htable .argv
  · show (afterPids os args pids).unreadable ++ portBlame os args pids = _
    rw [afterPids, hunreadable]
    rfl
  · show (afterPids os args pids).errors ++ portErrors os args = _
    rw [afterPids, herrors]
    rfl

/-! ## What a reading leaves behind -/

theorem mem_facts {α : Type} {r : Option (Except Errno α)} {row : α} :
    row ∈ facts r ↔ r = some (.ok row) := by
  cases r with
  | none => simp [facts]
  | some r => cases r <;> simp [facts, eq_comm]

theorem mem_blame [Libc] {α : Type} {pid : Pid} {facet : Facet} {r : Option (Except Errno α)}
    {u : Unreadable} :
    u ∈ blame pid facet r ↔ ∃ err, r = some (.error err) ∧ u = ⟨pid, facet, errnoName err⟩ := by
  cases r with
  | none => simp [blame]
  | some r => cases r <;> simp [blame]

theorem mem_pidBlame {os : Os} {args : SnapshotArgs} {k : Constants} {pid : Pid}
    {u : Unreadable} :
    u ∈ pidBlame os args k pid ↔ ∃ f, ∃ err, f ≠ Flag.ports ∧
      reading os args k pid f = some (.error err) ∧ u = ⟨pid, f.facet, errnoName err⟩ := by
  simp only [pidBlame, List.mem_flatMap, mem_pidFlags, mem_blame]
  constructor
  · rintro ⟨f, hf, err, hr, hu⟩
    exact ⟨f, err, hf, hr, hu⟩
  · rintro ⟨f, err, hf, hr, hu⟩
    exact ⟨f, hf, err, hr, hu⟩

/-- A reading that is there leaves one row, in the table or among the `U` rows. -/
theorem length_facts_add_blame [Libc] {α : Type} (pid : Pid) (facet : Facet)
    (r : Option (Except Errno α)) :
    (facts r).length + (blame pid facet r).length = if r.isSome then 1 else 0 := by
  cases r with
  | none => rfl
  | some r => cases r <;> rfl

theorem map_ok_iff {α β : Type} {g : α → β} {r : Except Errno α} {b : β} :
    r.map g = .ok b ↔ ∃ a, r = .ok a ∧ g a = b := by
  cases r <;> simp [Except.map]

/-- A row a reading returns is the row of that pid. -/
theorem pidOf_of_reading {os : Os} {args : SnapshotArgs} {k : Constants} {pid : Pid} {f : Flag}
    {row : f.Row} (h : reading os args k pid f = some (.ok row)) : f.pidOf row = some pid := by
  cases f with
  | procs =>
      rw [reading, Option.ite_none_right_eq_some, Option.some.injEq] at h
      obtain ⟨-, h⟩ := h
      cases hstat : statOf os pid with
      | error err => rw [hstat] at h; cases h
      | ok stat =>
          rw [hstat] at h
          change readProc pid stat _ = _ at h
          unfold readProc at h
          obtain ⟨value, -, h⟩ := bind_ok_iff.mp h
          obtain ⟨ppid, -, h⟩ := bind_ok_iff.mp h
          cases h
          rfl
  | ports => cases h
  | mem =>
      rw [reading, Option.ite_none_right_eq_some, Option.map_eq_some_iff] at h
      obtain ⟨-, page, -, h⟩ := h
      obtain ⟨rss, -, rfl⟩ := map_ok_iff.mp h
      rfl
  | startTime =>
      simp only [reading, Option.bind_eq_some_iff, Option.map_eq_some_iff] at h
      obtain ⟨bootUs, -, hz, -, h⟩ := h
      obtain ⟨start, -, rfl⟩ := map_ok_iff.mp h
      rfl
  | cpuTime =>
      rw [reading, Option.ite_none_right_eq_some, Option.map_eq_some_iff] at h
      obtain ⟨-, hz, -, h⟩ := h
      obtain ⟨cpu, -, rfl⟩ := map_ok_iff.mp h
      rfl
  | uid =>
      rw [reading, Option.ite_none_right_eq_some, Option.some.injEq] at h
      obtain ⟨uid, -, rfl⟩ := map_ok_iff.mp h.2
      rfl
  | cwd =>
      rw [reading, Option.ite_none_right_eq_some, Option.some.injEq] at h
      obtain ⟨cwd, -, rfl⟩ := map_ok_iff.mp h.2
      rfl
  | status =>
      rw [reading, Option.ite_none_right_eq_some, Option.some.injEq] at h
      obtain ⟨status, -, rfl⟩ := map_ok_iff.mp h.2
      rfl
  | argv =>
      rw [reading, Option.ite_none_right_eq_some, Option.some.injEq] at h
      obtain ⟨argv, -, rfl⟩ := map_ok_iff.mp h.2
      rfl

/-- The sources whose failure takes a whole facet away from every pid. -/
def constantFailed (os : Os) : Flag → Bool
  | .mem => (pageSize os).toOption.isNone
  | .startTime => (bootTimeUs os).toOption.isNone || (clockTicks os).toOption.isNone
  | .cpuTime => (clockTicks os).toOption.isNone
  | _ => false

/-- A pid has a reading for every asked flag whose constants could be read. -/
theorem reading_isSome (os : Os) (args : SnapshotArgs) (pid : Pid) {f : Flag}
    (hf : f ≠ .ports) :
    (reading os args (constants os args) pid f).isSome
      = (args.asks f && !constantFailed os f) := by
  cases f with
  | ports => exact absurd rfl hf
  | startTime =>
      simp only [reading, constants, constantFailed, SnapshotArgs.asks]
      cases args.startTime <;> cases (bootTimeUs os).toOption <;>
        cases (clockTicks os).toOption <;> simp
  | cpuTime =>
      simp only [reading, constants, constantFailed, SnapshotArgs.asks]
      cases args.cpuTime <;> cases (clockTicks os).toOption <;> simp
  | mem =>
      simp only [reading, constants, constantFailed, SnapshotArgs.asks]
      cases args.mem <;> cases (pageSize os).toOption <;> simp
  | procs => simp only [reading, constantFailed, SnapshotArgs.asks]; cases args.procs <;> rfl
  | uid => simp only [reading, constantFailed, SnapshotArgs.asks]; cases args.uid <;> rfl
  | cwd => simp only [reading, constantFailed, SnapshotArgs.asks]; cases args.cwd <;> rfl
  | status => simp only [reading, constantFailed, SnapshotArgs.asks]; cases args.status <;> rfl
  | argv => simp only [reading, constantFailed, SnapshotArgs.asks]; cases args.argv <;> rfl

theorem mem_constantError [Libc] {α : Type} {asked : Bool} {source : String} {facet : Facet}
    {r : Except Errno α} {e : SourceError} :
    e ∈ constantError asked source facet r ↔
      asked = true ∧ ∃ err, r = .error err ∧ e = sourceError source facet err := by
  unfold constantError
  cases asked <;> cases r <;> simp

/-- An `E` row of a constant names a flag that was asked and whose constant failed. -/
theorem exists_constantErrors (os : Os) (args : SnapshotArgs) (facet : Facet) :
    (∃ e ∈ constantErrors os args, e.facet = facet) ↔
      ∃ f, args.asks f = true ∧ constantFailed os f = true ∧ f.facet = facet := by
  have hnone : ∀ {α : Type} (r : Except Errno α),
      r.toOption.isNone = true ↔ ∃ err, r = .error err := by
    intro α r
    cases r <;> simp [Except.toOption]
  constructor
  · rintro ⟨e, he, rfl⟩
    simp only [constantErrors, List.mem_append, mem_constantError] at he
    rcases he with ((⟨ha, err, hr, rfl⟩ | ⟨ha, err, hr, rfl⟩) | ⟨ha, err, hr, rfl⟩)
      | ⟨ha, err, hr, rfl⟩
    · exact ⟨.startTime, ha, by simp [constantFailed, (hnone _).mpr ⟨err, hr⟩], rfl⟩
    · exact ⟨.startTime, ha, by simp [constantFailed, (hnone _).mpr ⟨err, hr⟩], rfl⟩
    · exact ⟨.cpuTime, ha, (hnone _).mpr ⟨err, hr⟩, rfl⟩
    · exact ⟨.mem, ha, (hnone _).mpr ⟨err, hr⟩, rfl⟩
  · rintro ⟨f, ha, hfailed, rfl⟩
    cases f with
    | startTime =>
        rw [constantFailed, Bool.or_eq_true, hnone, hnone] at hfailed
        rcases hfailed with ⟨err, hr⟩ | ⟨err, hr⟩
        · refine ⟨sourceError "proc_stat_btime" .startTime err, ?_, rfl⟩
          simp only [constantErrors, List.mem_append, mem_constantError]
          exact Or.inl (Or.inl (Or.inl ⟨ha, err, hr, rfl⟩))
        · refine ⟨sourceError "sysconf_clk_tck" .startTime err, ?_, rfl⟩
          simp only [constantErrors, List.mem_append, mem_constantError]
          exact Or.inl (Or.inl (Or.inr ⟨ha, err, hr, rfl⟩))
    | cpuTime =>
        obtain ⟨err, hr⟩ := (hnone _).mp hfailed
        refine ⟨sourceError "sysconf_clk_tck" .cpuTime err, ?_, rfl⟩
        simp only [constantErrors, List.mem_append, mem_constantError]
        exact Or.inl (Or.inr ⟨ha, err, hr, rfl⟩)
    | mem =>
        obtain ⟨err, hr⟩ := (hnone _).mp hfailed
        refine ⟨sourceError "sysconf_pagesize" .mem err, ?_, rfl⟩
        simp only [constantErrors, List.mem_append, mem_constantError]
        exact Or.inr ⟨ha, err, hr, rfl⟩
    -- the other flags read no constant
    | _ => cases hfailed

end Linux

end Osfacts
