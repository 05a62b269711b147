import Osfacts.Darwin.Snapshot
import Osfacts.Linux.Facets

set_option autoImplicit false

/-! # The darwin snapshot, facet by facet

The readings of a pid come from the row of the process table, the task record and two readers of
their own. A status says more than one source can: where the task record cannot be read, it stands
without its thread count, which is blamed under a facet of its own.
-/

namespace Osfacts.Darwin

open Linux (facts blame credit pidFlags)

/-! ## The reading of one pid for one flag -/

section Readings

variable (os : Os) (args : SnapshotArgs) (table : ProcessTable) (timebase : Option MachTimebase)

/-- The status of a process, with the threads where the task record was read. -/
def readStatus (pid : Pid) : Except Errno ProcessStatus := do
  let row ← bsdRow table pid
  let state ← darwinState row.status
  pure ⟨pid, state, row.nice, (os.taskInfo pid).toOption.bind threadsOf⟩

/-- What an ask reads of a pid for a flag: nothing where the flag was not asked or the timebase is
missing, else a row or an errno. -/
def reading (pid : Pid) : (f : Flag) → Option (Except Errno f.Row)
  | .procs =>
      if args.procs then
        some ((bsdRow table pid).map
          (fun row => (⟨pid, row.ppid, processName os pid row.name⟩ : Proc)))
      else none
  | .ports => none
  | .mem =>
      if args.mem then
        some ((os.taskInfo pid).map (fun task => (⟨pid, task.ptiResidentSize⟩ : Memory)))
      else none
  | .startTime =>
      if args.startTime then
        some ((bsdRow table pid).map (fun row => (⟨pid, row.startUnixUs⟩ : StartTime)))
      else none
  | .cpuTime =>
      if args.cpuTime then
        timebase.map (fun timebase => (os.taskInfo pid).map (fun task =>
          (⟨pid, machTicksToUs task.ptiTotalUser task.ptiTotalSystem timebase⟩ : ProcessCpuTime)))
      else none
  | .uid =>
      if args.uid then
        some ((bsdRow table pid).map (fun row => (⟨pid, row.uid⟩ : ProcessUid)))
      else none
  | .cwd =>
      if args.cwd then some ((readCwd os pid).map (fun cwd => (⟨pid, cwd⟩ : ProcessCwd)))
      else none
  | .status => if args.status then some (readStatus os table pid) else none
  | .argv =>
      if args.argv then some ((readArgv os pid).map (fun argv => (⟨pid, argv⟩ : ProcessArgv)))
      else none

/-- The errno of a thread count that a readable status lacks. -/
def threadsErrno (pid : Pid) : Option Errno :=
  match args.status, readStatus os table pid, os.taskInfo pid with
  | true, .ok _, .error err => some err
  | _, _, _ => none

/-- The `U` row that stands beside a reading. -/
def aside (pid : Pid) (f : Flag) : List Unreadable :=
  if f = .status then
    (threadsErrno os args table pid).toList.map (fun err => ⟨pid, .statusThreads, errnoName err⟩)
  else []

/-- Enter a reading into the document, and what stands beside it. -/
def entry (snap : Snapshot) (pid : Pid) (f : Flag) : Snapshot :=
  credit { snap with unreadable := snap.unreadable ++ aside os args table pid f } pid f
    (reading os args table timebase pid f)

end Readings

/-! ## Each block is one entry -/

theorem account_eq {α : Type} (snap : Snapshot) (pid : Pid) (facet : Facet)
    (push : Snapshot → α → Snapshot) (r : Except Errno α) :
    account snap pid facet push r = Linux.account snap pid facet push r := by
  cases r <;> rfl

section Blocks

variable (os : Os) (args : SnapshotArgs) (table : ProcessTable) (timebase : Option MachTimebase)
  (snap : Snapshot) (pid : Pid)

/-- An entry that has nothing beside it. -/
theorem entry_eq {f : Flag} (hf : f ≠ .status) :
    entry os args table timebase snap pid f
      = credit snap pid f (reading os args table timebase pid f) := by
  rw [entry, aside, if_neg hf, List.append_nil]

theorem block_procs :
    (if args.procs then account snap pid .proc (fun snap row =>
        { snap with procs := snap.procs ++ [⟨pid, row.ppid, processName os pid row.name⟩] })
        (bsdRow table pid)
      else snap) = entry os args table timebase snap pid .procs := by
  rw [entry_eq os args table timebase snap pid (by decide), reading]
  split_ifs
  · rw [account_eq]
    exact Linux.account_eq_credit .procs _ (fun _ => rfl) _
  · exact (Linux.credit_none snap pid .procs).symm

theorem block_mem :
    (if args.mem then account snap pid .mem (fun snap row =>
        { snap with memory := snap.memory ++ [⟨pid, row.ptiResidentSize⟩] }) (os.taskInfo pid)
      else snap) = entry os args table timebase snap pid .mem := by
  rw [entry_eq os args table timebase snap pid (by decide), reading]
  split_ifs
  · rw [account_eq]
    exact Linux.account_eq_credit .mem _ (fun _ => rfl) _
  · exact (Linux.credit_none snap pid .mem).symm

theorem block_startTime :
    (if args.startTime then account snap pid .startTime (fun snap row =>
        { snap with startTimes := snap.startTimes ++ [⟨pid, row.startUnixUs⟩] })
        (bsdRow table pid)
      else snap) = entry os args table timebase snap pid .startTime := by
  rw [entry_eq os args table timebase snap pid (by decide), reading]
  split_ifs
  · rw [account_eq]
    exact Linux.account_eq_credit .startTime _ (fun _ => rfl) _
  · exact (Linux.credit_none snap pid .startTime).symm

theorem block_cpuTime :
    (if args.cpuTime then accountCpuTime snap pid (os.taskInfo pid) timebase else snap)
      = entry os args table timebase snap pid .cpuTime := by
  rw [entry_eq os args table timebase snap pid (by decide), reading]
  split_ifs
  · cases timebase with
    | none => exact (Linux.credit_none snap pid .cpuTime).symm
    | some timebase =>
        rw [accountCpuTime, account_eq]
        exact Linux.account_eq_credit .cpuTime _ (fun _ => rfl) _
  · exact (Linux.credit_none snap pid .cpuTime).symm

theorem block_uid :
    (if args.uid then account snap pid .uid (fun snap row =>
        { snap with uids := snap.uids ++ [⟨pid, row.uid⟩] }) (bsdRow table pid)
      else snap) = entry os args table timebase snap pid .uid := by
  rw [entry_eq os args table timebase snap pid (by decide), reading]
  split_ifs
  · rw [account_eq]
    exact Linux.account_eq_credit .uid _ (fun _ => rfl) _
  · exact (Linux.credit_none snap pid .uid).symm

theorem block_cwd :
    (if args.cwd then account snap pid .cwd (fun snap cwd =>
        { snap with cwds := snap.cwds ++ [⟨pid, cwd⟩] }) (readCwd os pid)
      else snap) = entry os args table timebase snap pid .cwd := by
  rw [entry_eq os args table timebase snap pid (by decide), reading]
  split_ifs
  · rw [account_eq]
    exact Linux.account_eq_credit .cwd _ (fun _ => rfl) _
  · exact (Linux.credit_none snap pid .cwd).symm

/-- A status that cannot be read has nothing beside it. -/
theorem entry_status_error (hask : args.status = true) {err : Errno}
    (h : readStatus os table pid = .error err) :
    entry os args table timebase snap pid .status = snap.pushUnreadable pid .status err := by
  have haside : aside os args table pid .status = [] := by
    rw [aside, threadsErrno, h]
    simp
  rw [entry, haside, List.append_nil, reading, if_pos hask, h]
  simp [credit, facts, blame, Snapshot.extend, Snapshot.pushUnreadable, pushUnreadableRow,
    Flag.facet]

/-- The status block, where the row names a state: the threads are pushed first, then the row. -/
theorem block_status :
    (if args.status then accountStatus snap pid (bsdRow table pid) (os.taskInfo pid) else snap)
      = entry os args table timebase snap pid .status := by
  cases hask : args.status with
  | false =>
      have haside : aside os args table pid .status = [] := by
        rw [aside, threadsErrno, hask]
        simp
      rw [entry, haside, List.append_nil, reading, hask]
      exact (Linux.credit_none snap pid .status).symm
  | true =>
      cases hrow : bsdRow table pid with
      | error err =>
          have hread : readStatus os table pid = .error err := by
            rw [readStatus, hrow]
            rfl
          exact (entry_status_error os args table timebase snap pid hask hread).symm
      | ok row =>
          have hblock : accountStatus snap pid (.ok row) (os.taskInfo pid)
              = account snap pid .status
                  (fun snap state => pushStatus snap pid (os.taskInfo pid) row state)
                  (darwinState row.status) := rfl
          rw [if_pos rfl, hblock]
          cases hstate : darwinState row.status with
          | error err =>
              have hread : readStatus os table pid = .error err := by
                rw [readStatus, hrow, ok_bind, hstate]
                rfl
              exact (entry_status_error os args table timebase snap pid hask hread).symm
          | ok state =>
              have hread : readStatus os table pid
                  = .ok ⟨pid, state, row.nice, (os.taskInfo pid).toOption.bind threadsOf⟩ := by
                rw [readStatus, hrow, ok_bind, hstate]
                rfl
              rw [entry, aside, if_pos rfl, threadsErrno, reading, hask, hread]
              cases os.taskInfo pid with
              | error err =>
                  simp [account, pushStatus, credit, facts, blame, Snapshot.extend,
                    Snapshot.pushUnreadable, pushUnreadableRow, Except.toOption]
              | ok task =>
                  simp [account, pushStatus, credit, facts, blame, Snapshot.extend,
                    Except.toOption]

theorem block_argv :
    (if args.argv then account snap pid .argv (fun snap argv =>
        { snap with argv := snap.argv ++ [⟨pid, argv⟩] }) (readArgv os pid)
      else snap) = entry os args table timebase snap pid .argv := by
  rw [entry_eq os args table timebase snap pid (by decide), reading]
  split_ifs
  · rw [account_eq]
    exact Linux.account_eq_credit .argv _ (fun _ => rfl) _
  · exact (Linux.credit_none snap pid .argv).symm

theorem snapshotPid_eq :
    snapshotPid os args table timebase snap pid
      = pidFlags.foldl (fun snap f => entry os args table timebase snap pid f) snap := by
  unfold snapshotPid
  simp only []
  rw [block_procs os args table timebase, block_mem os args table timebase,
    block_startTime os args table timebase, block_cpuTime os args table timebase,
    block_uid os args table timebase, block_cwd os args table timebase,
    block_status os args table timebase, block_argv os args table timebase]
  rfl

end Blocks

/-! ## All pids -/

section Loop

variable (os : Os) (args : SnapshotArgs) (table : ProcessTable) (timebase : Option MachTimebase)

/-- A list of entries: each table gets its own rows, the `U` rows come in order. -/
theorem foldl_entry (pid : Pid) (flags : List Flag) (hnodup : flags.Nodup) (snap : Snapshot) :
    let out := flags.foldl (fun snap f => entry os args table timebase snap pid f) snap
    (∀ f, out.table f = snap.table f
      ++ if f ∈ flags then facts (reading os args table timebase pid f) else []) ∧
    out.unreadable = snap.unreadable ++ flags.flatMap (fun f =>
      aside os args table pid f ++ blame pid f.facet (reading os args table timebase pid f)) ∧
    out.errors = snap.errors ∧ out.version = snap.version := by
  induction flags generalizing snap with
  | nil => simp
  | cons g flags ih =>
      obtain ⟨hg, hnodup⟩ := List.nodup_cons.mp hnodup
      obtain ⟨htable, hunreadable, herrors, hversion⟩ :=
        ih hnodup (entry os args table timebase snap pid g)
      -- what stands beside a reading is in no table
      have hbeside : ∀ f, Snapshot.table
          { snap with unreadable := snap.unreadable ++ aside os args table pid g } f
            = snap.table f := fun f => by cases f <;> rfl
      refine ⟨fun f => ?_, ?_, ?_, ?_⟩
      · rw [List.foldl_cons, htable f]
        by_cases hfg : f = g
        · subst hfg
          rw [entry, Linux.table_credit, hbeside, if_neg hg, if_pos List.mem_cons_self,
            List.append_nil]
        · rw [entry, Linux.table_credit_ne _ _ hfg, hbeside]
          simp [List.mem_cons, hfg]
      · rw [List.foldl_cons, hunreadable, entry, Linux.unreadable_credit, List.flatMap_cons]
        simp only [List.append_assoc]
      · rw [List.foldl_cons, herrors, entry, Linux.errors_credit]
      · rw [List.foldl_cons, hversion, entry, Linux.version_credit]

/-- The `U` rows the account of one pid leaves. -/
def pidBlame (pid : Pid) : List Unreadable :=
  pidFlags.flatMap (fun f =>
    aside os args table pid f ++ blame pid f.facet (reading os args table timebase pid f))

/-- **All pids.** Each table gets the facts of every pid, in the order of the pids. -/
theorem foldl_snapshotPid (pids : List Pid) (snap : Snapshot) :
    let out := pids.foldl (snapshotPid os args table timebase) snap
    (∀ f, out.table f = snap.table f
      ++ pids.flatMap (fun pid => facts (reading os args table timebase pid f))) ∧
    out.unreadable = snap.unreadable ++ pids.flatMap (pidBlame os args table timebase) ∧
    out.errors = snap.errors ∧ out.version = snap.version := by
  induction pids generalizing snap with
  | nil => simp
  | cons pid pids ih =>
      obtain ⟨htable, hunreadable, herrors, hversion⟩ :=
        ih (snapshotPid os args table timebase snap pid)
      obtain ⟨htable', hunreadable', herrors', hversion'⟩ :=
        foldl_entry os args table timebase pid pidFlags Linux.nodup_pidFlags snap
      rw [← snapshotPid_eq] at htable' hunreadable' herrors' hversion'
      refine ⟨fun f => ?_, ?_, ?_, ?_⟩
      · -- ports have no reading, so their table gets nothing either way
        have hfacts : (if f ∈ pidFlags then facts (reading os args table timebase pid f) else [])
            = facts (reading os args table timebase pid f) := by
          split_ifs with hf
          · rfl
          · have hports : f = .ports := not_not.mp (mt Linux.mem_pidFlags.mpr hf)
            subst hports
            rfl
        rw [List.foldl_cons, htable f, htable' f, hfacts, List.flatMap_cons, List.append_assoc]
      · rw [List.foldl_cons, hunreadable, hunreadable', List.flatMap_cons, List.append_assoc]
        rfl
      · rw [List.foldl_cons, herrors, herrors']
      · rw [List.foldl_cons, hversion, hversion']

end Loop

/-! ## The sources that all pids share -/

/-- The timebase an ask reads. -/
def timebaseOf (os : Os) (args : SnapshotArgs) : Option MachTimebase :=
  if args.cpuTime then (readMachTimebase os).toOption else none

/-- The `E` row of a timebase that failed. -/
def timebaseErrors (os : Os) (args : SnapshotArgs) : List SourceError :=
  Linux.constantError args.cpuTime "mach_timebase_info" .cpuTime (readMachTimebase os)

theorem snapshotTimebase_eq (os : Os) (args : SnapshotArgs) (snap : Snapshot) :
    snapshotTimebase os args snap
      = ({ snap with errors := snap.errors ++ timebaseErrors os args }, timebaseOf os args) := by
  unfold snapshotTimebase timebaseErrors timebaseOf
  cases args.cpuTime with
  | false => simp [Linux.constantError]
  | true =>
      cases readMachTimebase os with
      | ok value => simp [Linux.constantError, Except.toOption]
      | error err => simp [Linux.constantError, Except.toOption, Snapshot.pushError]

/-! ## Listeners -/

/-- The `E` rows of the ports block. -/
def portErrors (walk : Pid → Except Errno (List Pcblist.HostListener))
    (listed : Except Errno (List Pcblist.HostListener)) (wanted : List Pid) : List SourceError :=
  sourceError "darwin_listeners" .portsUid Libc.ENOTSUP ::
    match listed with
    | .ok rows => if rows.isEmpty then [blindOrEmpty "darwin_tcp_pcblist" .portsUnclaimed] else []
    | .error err =>
        [sourceError "darwin_tcp_pcblist"
          (if (claimsOf walk wanted).isEmpty then .ports else .portsUnclaimed) err]

theorem snapshotPorts_eq (walk : Pid → Except Errno (List Pcblist.HostListener))
    (listed : Except Errno (List Pcblist.HostListener)) (wanted : List Pid) (snap : Snapshot) :
    snapshotPorts walk listed wanted snap
      = { snap with
          ports := Pcblist.attributeHostListeners ((listed.toOption).getD []) (claimsOf walk wanted)
          unreadable := snap.unreadable ++ wanted.flatMap (walkBlame walk)
          errors := snap.errors ++ portErrors walk listed wanted } := by
  unfold snapshotPorts portErrors
  simp only [foldl_claimStep]
  cases listed with
  | error err =>
      simp [Snapshot.pushError, Except.toOption, claimsOf]
  | ok rows =>
      cases rows <;> simp [Snapshot.pushError, Except.toOption, claimsOf]

end Osfacts.Darwin
