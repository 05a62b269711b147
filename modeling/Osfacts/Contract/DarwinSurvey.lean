import Osfacts.Contract.Kinfo
import Osfacts.Contract.Subtree
import Osfacts.Contract.Survey
import Osfacts.Darwin.Facets

set_option autoImplicit false

/-! # The darwin snapshot as a survey

The process table selects the pids, and everything that is said of one of them is in the survey.
Every pid that was asked for is accounted for once in each facet; where the table cannot be read,
each facet that was asked is lost as a whole.
-/

namespace Osfacts.Darwin

open Linux (facts blame pidFlags)

/-! ## The process table -/

/-- An integer that is not 0 is not 0 without its sign either. -/
theorem toUInt32_ne_zero {n : Int32} (h : n ≠ 0) : n.toUInt32 ≠ 0 := by
  intro hzero
  have hback := Int32.toInt32_toUInt32 n
  rw [hzero] at hback
  exact h hback.symm

theorem decodeKinfoProc_pid {raw : Bytes} {pid : Pid} {row : BsdRow}
    (h : decodeKinfoProc raw = .ok (some (pid, row))) : pid ≠ 0 := by
  unfold decodeKinfoProc at h
  split_ifs at h
  obtain ⟨p, -, h⟩ := bind_ok_iff.mp h
  split_ifs at h with hzero hneg
  · cases h
  · obtain ⟨ppid, -, h⟩ := bind_ok_iff.mp h
    obtain ⟨sec, -, h⟩ := bind_ok_iff.mp h
    obtain ⟨usec, -, h⟩ := bind_ok_iff.mp h
    split_ifs at h
    split at h
    · cases h
    · obtain ⟨uid, -, h⟩ := bind_ok_iff.mp h
      cases h
      exact toUInt32_ne_zero hzero

/-- The pids of a table that was read are distinct, and none of them is 0. -/
theorem readProcessTable_pids {os : Os} {table : ProcessTable}
    (h : readProcessTable os = .ok table) :
    (table.map Prod.fst).Nodup ∧ ∀ pid ∈ table.map Prod.fst, pid ≠ 0 := by
  unfold readProcessTable at h
  obtain ⟨bytes, -, h⟩ := bind_ok_iff.mp h
  obtain ⟨decoded, hdecoded, h⟩ := bind_ok_iff.mp h
  obtain rfl := Except.ok.inj h
  have hperm := (os.tableOrder_perm decoded).map Prod.fst
  have hkeys : (decoded.map Prod.fst).Nodup ∧ ∀ pid ∈ decoded.map Prod.fst, pid ≠ 0 := by
    rw [decodeProcessTable] at hdecoded
    split_ifs at hdecoded
    rw [insertRecord_eq] at hdecoded
    refine foldlM_insertDistinct_keys (fun raw pid row => decodeKinfoProc_pid) ?_ hdecoded
    exact ⟨List.nodup_nil, List.forall_mem_nil _⟩
  exact ⟨hperm.nodup_iff.mpr hkeys.1, fun pid hpid => hkeys.2 pid (hperm.mem_iff.mp hpid)⟩

/-! ## The pids -/

/-- The pids an ask selects from the process table. -/
def wanted (scope : Scope) (table : ProcessTable) : List Pid :=
  (selectPids scope table Snapshot.new).1

/-- The rows of the roots that are not in the table. -/
def absentRoots (scope : Scope) (table : ProcessTable) : List Unreadable :=
  match scope with
  | .roots roots => (roots.filter (fun root => ¬ table.Has root)).map absentRoot
  | _ => []

theorem selectPids_eq (scope : Scope) (table : ProcessTable) (snap : Snapshot) :
    selectPids scope table snap
      = (wanted scope table,
        { snap with unreadable := snap.unreadable ++ absentRoots scope table }) := by
  unfold wanted absentRoots selectPids
  cases scope with
  | host => simp
  | pids pids => simp
  | roots roots => simp [subtree_eq]

/-! ## The survey -/

/-- The errno of a walk over the descriptors that failed. -/
def walkErrno (os : Os) (args : SnapshotArgs) (pid : Pid) : Option Errno :=
  match args.ports, listenerClaims os pid with
  | true, .error err => some err
  | _, _ => none

/-- The `E` rows of a snapshot whose process table was read. -/
def surveyErrors (os : Os) (args : SnapshotArgs) (table : ProcessTable) : List SourceError :=
  timebaseErrors os args
    ++ if args.ports then
        portErrors (listenerClaims os) (hostListeners os) (wanted args.scope table)
      else []

theorem pidOf_of_reading {os : Os} {args : SnapshotArgs} {table : ProcessTable}
    {timebase : Option MachTimebase} {pid : Pid} {f : Flag} {row : f.Row}
    (h : reading os args table timebase pid f = some (.ok row)) : f.pidOf row = some pid := by
  cases f with
  | ports => cases h
  | cpuTime =>
      rw [reading, Option.ite_none_right_eq_some, Option.map_eq_some_iff] at h
      obtain ⟨-, timebase, -, h⟩ := h
      obtain ⟨task, -, rfl⟩ := Linux.map_ok_iff.mp h
      rfl
  | status =>
      rw [reading, Option.ite_none_right_eq_some, Option.some.injEq] at h
      obtain ⟨-, h⟩ := h
      obtain ⟨row, -, h⟩ := bind_ok_iff.mp h
      obtain ⟨state, -, h⟩ := bind_ok_iff.mp h
      cases h
      rfl
  | _ =>
      rw [reading, Option.ite_none_right_eq_some, Option.some.injEq] at h
      obtain ⟨value, -, rfl⟩ := Linux.map_ok_iff.mp h.2
      rfl

/-- What a snapshot of a process table finds out. -/
def survey (os : Os) (args : SnapshotArgs) (table : ProcessTable) : Survey where
  selection := wanted args.scope table
  reading := reading os args table (timebaseOf os args)
  blind pid := blindSpots (reading os args table (timebaseOf os args) pid) (walkErrno os args pid)
    (threadsErrno os args table pid)
  prior := absentRoots args.scope table
  errors := surveyErrors os args table
  own := pidOf_of_reading
  blind_iff := blindSpots_facet

theorem mem_aside {os : Os} {args : SnapshotArgs} {table : ProcessTable} {pid : Pid} {f : Flag}
    {u : Unreadable} :
    u ∈ aside os args table pid f ↔ f = .status ∧ ∃ err, threadsErrno os args table pid = some err ∧
      u = ⟨pid, .statusThreads, errnoName err⟩ := by
  unfold aside
  split_ifs with hf
  · simp [hf, eq_comm]
  · simp [hf]

theorem mem_walkBlame {os : Os} {args : SnapshotArgs} (hports : args.ports = true) {pid : Pid}
    {u : Unreadable} :
    u ∈ walkBlame (listenerClaims os) pid ↔ ∃ err, walkErrno os args pid = some err ∧
      u = ⟨pid, .ports, errnoName err⟩ := by
  unfold walkBlame walkErrno
  rw [hports]
  cases listenerClaims os pid with
  | ok rows => simp
  | error err => simp

/-- The document after the loop over the pids. -/
def afterPids (os : Os) (args : SnapshotArgs) (table : ProcessTable) : Snapshot :=
  (wanted args.scope table).foldl (snapshotPid os args table (timebaseOf os args))
    { Snapshot.new with
      unreadable := absentRoots args.scope table
      errors := timebaseErrors os args }

section Document

variable {os : Os} {args : SnapshotArgs} {table : ProcessTable}

theorem snapshot_of_table (htable : readProcessTable os = .ok table) :
    snapshot os args
      = if args.ports then
          snapshotPorts (listenerClaims os) (hostListeners os) (wanted args.scope table)
            (afterPids os args table)
        else afterPids os args table := by
  rw [snapshot]
  simp only [snapshotTimebase_eq, htable, selectPids_eq]
  rfl

/-- **The snapshot of a table that was read.** -/
theorem snapshot_eq (args : SnapshotArgs) (htable : readProcessTable os = .ok table) :
    (∀ f, f ≠ .ports → (snapshot os args).table f = (wanted args.scope table).flatMap
      (fun pid => facts (reading os args table (timebaseOf os args) pid f))) ∧
    (snapshot os args).ports = (if args.ports then
      Pcblist.attributeHostListeners ((hostListeners os).toOption.getD [])
        (claimsOf (listenerClaims os) (wanted args.scope table)) else []) ∧
    (snapshot os args).unreadable = absentRoots args.scope table
      ++ (wanted args.scope table).flatMap (pidBlame os args table (timebaseOf os args))
      ++ (if args.ports then
        (wanted args.scope table).flatMap (walkBlame (listenerClaims os)) else []) ∧
    (snapshot os args).errors = surveyErrors os args table ∧
    (snapshot os args).version = SCHEMA_VERSION := by
  obtain ⟨hrows, hunreadable, herrors, hversion⟩ :=
    foldl_snapshotPid os args table (timebaseOf os args) (wanted args.scope table)
      { Snapshot.new with
        unreadable := absentRoots args.scope table
        errors := timebaseErrors os args }
  change ∀ f, (afterPids os args table).table f = _ at hrows
  change (afterPids os args table).unreadable = _ at hunreadable
  change (afterPids os args table).errors = timebaseErrors os args at herrors
  change (afterPids os args table).version = SCHEMA_VERSION at hversion
  -- no pid writes a listener, so the ports are those of the last step
  have hnone : (afterPids os args table).ports = [] := by
    have hports : (afterPids os args table).ports
        = [] ++ (wanted args.scope table).flatMap (fun _ => []) := hrows .ports
    rw [hports]
    simp
  rw [snapshot_of_table htable, surveyErrors]
  cases hask : args.ports with
  | false =>
      simp only [Bool.false_eq_true, if_false, List.append_nil]
      refine ⟨fun f hf => ?_, hnone, hunreadable, herrors, hversion⟩
      rw [hrows f]
      cases f <;> rfl
  | true =>
      rw [if_pos rfl, snapshotPorts_eq]
      simp only [if_true]
      refine ⟨fun f hf => ?_, trivial, ?_, ?_, hversion⟩
      · cases f with
        | ports => exact absurd rfl hf
        | procs => exact hrows .procs
        | mem => exact hrows .mem
        | startTime => exact hrows .startTime
        | cpuTime => exact hrows .cpuTime
        | uid => exact hrows .uid
        | cwd => exact hrows .cwd
        | status => exact hrows .status
        | argv => exact hrows .argv
      · rw [hunreadable]
      · rw [herrors]

/-- The rows the account of one pid leaves, by where they come from. -/
theorem mem_pidBlame {timebase : Option MachTimebase} {pid : Pid} {u : Unreadable} :
    u ∈ pidBlame os args table timebase pid ↔
      (∃ f err, f ≠ Flag.ports ∧ reading os args table timebase pid f = some (.error err) ∧
        u = ⟨pid, f.facet, errnoName err⟩) ∨
      ∃ err, threadsErrno os args table pid = some err ∧
        u = ⟨pid, .statusThreads, errnoName err⟩ := by
  simp only [pidBlame, List.mem_flatMap, List.mem_append, mem_aside, Linux.mem_blame,
    Linux.mem_pidFlags]
  constructor
  · rintro ⟨f, hf, ⟨-, h⟩ | ⟨err, hr, rfl⟩⟩
    · exact Or.inr h
    · exact Or.inl ⟨f, err, hf, hr, rfl⟩
  · rintro (⟨f, err, hf, hr, rfl⟩ | h)
    · exact ⟨f, hf, Or.inr ⟨err, hr, rfl⟩⟩
    · exact ⟨.status, by decide, Or.inl ⟨rfl, h⟩⟩

/-- A `U` row is blamed by the survey where its errno is the one of a blind spot. -/
theorem blames_iff {u : Unreadable} :
    (survey os args table).Blames u ↔ u.pid ∈ wanted args.scope table ∧
      (u ∈ pidBlame os args table (timebaseOf os args) u.pid ∨
        (args.ports = true ∧ u ∈ walkBlame (listenerClaims os) u.pid)) := by
  refine and_congr_right fun _ => ?_
  rw [Option.map_eq_some_iff]
  show (∃ err, blindSpots _ _ _ u.facet = some err ∧ errnoName err = u.errno) ↔ _
  simp only [blindSpots_eq_some, mem_pidBlame]
  constructor
  · rintro ⟨err, ⟨f, hf, hfacet, hr⟩ | ⟨hfacet, hwalk⟩ | ⟨hfacet, hthreads⟩, herrno⟩
    · refine Or.inl (Or.inl ⟨f, err, hf, hr, ?_⟩)
      rw [hfacet, herrno]
    · have hports : args.ports = true := by
        unfold walkErrno at hwalk
        split at hwalk
        · assumption
        · cases hwalk
      refine Or.inr ⟨hports, (mem_walkBlame hports).mpr ⟨err, hwalk, ?_⟩⟩
      rw [← hfacet, herrno]
    · refine Or.inl (Or.inr ⟨err, hthreads, ?_⟩)
      rw [← hfacet, herrno]
  · rintro ((⟨f, err, hf, hr, heq⟩ | ⟨err, hthreads, heq⟩) | ⟨hports, hwalk⟩)
    · rw [heq]
      exact ⟨err, Or.inl ⟨f, hf, rfl, heq ▸ hr⟩, rfl⟩
    · rw [heq]
      exact ⟨err, Or.inr (Or.inr ⟨rfl, heq ▸ hthreads⟩), rfl⟩
    · obtain ⟨err, hwalk, heq⟩ := (mem_walkBlame hports).mp hwalk
      rw [heq]
      exact ⟨err, Or.inr (Or.inl ⟨rfl, heq ▸ hwalk⟩), rfl⟩

theorem pid_of_mem_pidBlame {timebase : Option MachTimebase} {pid : Pid} {u : Unreadable}
    (h : u ∈ pidBlame os args table timebase pid) : u.pid = pid := by
  rcases mem_pidBlame.mp h with ⟨f, err, -, -, rfl⟩ | ⟨err, -, rfl⟩
  · rfl
  · rfl

theorem pid_of_mem_walkBlame {pid : Pid} {u : Unreadable}
    (h : u ∈ walkBlame (listenerClaims os) pid) : u.pid = pid := by
  unfold walkBlame at h
  split at h
  · cases h
  · rw [List.mem_singleton.mp h]

/-- **The document reports the survey.** -/
theorem snapshot_reports (args : SnapshotArgs) (htable : readProcessTable os = .ok table) :
    (survey os args table).Reports (snapshot os args) := by
  obtain ⟨hrows, -, hunreadable, herrors, hversion⟩ := snapshot_eq args htable
  refine ⟨hversion, fun {f} hf => hrows f hf, fun {u} => ?_, herrors⟩
  rw [hunreadable, List.mem_append, List.mem_append, or_assoc]
  refine or_congr Iff.rfl ?_
  rw [blames_iff]
  constructor
  · rintro (h | h)
    · obtain ⟨pid, hpid, h⟩ := List.mem_flatMap.mp h
      obtain rfl := pid_of_mem_pidBlame h
      exact ⟨hpid, Or.inl h⟩
    · split_ifs at h with hports
      · obtain ⟨pid, hpid, h⟩ := List.mem_flatMap.mp h
        obtain rfl := pid_of_mem_walkBlame h
        exact ⟨hpid, Or.inr ⟨hports, h⟩⟩
      · cases h
  · rintro ⟨hpid, h | ⟨hports, h⟩⟩
    · exact Or.inl (List.mem_flatMap.mpr ⟨u.pid, hpid, h⟩)
    · rw [if_pos hports]
      exact Or.inr (List.mem_flatMap.mpr ⟨u.pid, hpid, h⟩)

/-- A table that cannot be read costs every asked facet one `E` row. -/
theorem snapshot_of_error {err : Errno} (h : readProcessTable os = .error err) :
    snapshot os args = { Snapshot.new with
      errors := timebaseErrors os args
        ++ args.askedFacets.map (fun facet => sourceError "kern_proc_all" facet err) } := by
  have hfold : ∀ (facets : List Facet) (snap : Snapshot),
      facets.foldl (fun snap facet => snap.pushError (sourceError "kern_proc_all" facet err)) snap
        = { snap with errors := snap.errors
              ++ facets.map (fun facet => sourceError "kern_proc_all" facet err) } := by
    intro facets
    induction facets with
    | nil => simp
    | cons facet facets ih =>
        intro snap
        rw [List.foldl_cons, ih, Snapshot.pushError]
        simp
  rw [snapshot]
  simp only [snapshotTimebase_eq, h, hfold]
  rfl

end Document

/-! ## The pids of an ask -/

theorem has_of_wanted {scope : Scope} {table : ProcessTable} (hscope : ∀ pids, scope ≠ .pids pids)
    {pid : Pid} (h : pid ∈ wanted scope table) : table.Has pid := by
  cases scope with
  | host => exact mem_sortByKey.mp h
  | pids pids => exact absurd rfl (hscope pids)
  | roots roots =>
      obtain ⟨root, -, hroot, hreach⟩ := ((mem_subtree roots table Snapshot.new).2 pid).mp h
      cases hreach with
      | refl => exact hroot
      | tail _ hstep =>
          obtain ⟨row, hrow, -⟩ := hstep
          exact List.mem_map.mpr ⟨_, hrow, rfl⟩

theorem nodup_wanted {os : Os} {table : ProcessTable} (htable : readProcessTable os = .ok table)
    {scope : Scope} (hscope : ∀ pids, scope = .pids pids → pids.Nodup) :
    (wanted scope table).Nodup := by
  cases scope with
  | host => exact (sortByKey_perm _ _).nodup_iff.mpr (readProcessTable_pids htable).1
  | pids pids => exact hscope pids rfl
  | roots roots => exact (mem_subtree roots table Snapshot.new).1

/-- The roots that are blamed are not in the table, and so not selected. -/
theorem survey_apart (os : Os) (args : SnapshotArgs) (table : ProcessTable) :
    (survey os args table).Apart where
  outside u hu hpid := by
    change u ∈ absentRoots args.scope table at hu
    change u.pid ∈ wanted args.scope table at hpid
    cases hscope : args.scope with
    | host =>
        rw [hscope] at hu
        cases hu
    | pids pids =>
        rw [hscope] at hu
        cases hu
    | roots roots =>
        rw [hscope] at hu hpid
        obtain ⟨root, hroot, rfl⟩ := List.mem_map.mp hu
        have habsent := of_decide_eq_true (List.mem_filter.mp hroot).2
        exact habsent (has_of_wanted (fun _ => by simp) hpid)
  oneErrno u hu v hv _ _ := by
    have herrno : ∀ w ∈ absentRoots args.scope table, w.errno = errnoName Libc.ESRCH := by
      intro w hw
      unfold absentRoots at hw
      split at hw
      · obtain ⟨root, -, rfl⟩ := List.mem_map.mp hw
        rfl
      · cases hw
    rw [herrno u hu, herrno v hv]

end Osfacts.Darwin
