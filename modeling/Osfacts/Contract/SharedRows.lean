import Osfacts.Contract.Acceptance
import Osfacts.Contract.Kinfo
import Osfacts.Darwin.Snapshot

set_option autoImplicit false

/-! # The rows the verbs share

`P`, `U` and `E` rows are written by more than one verb and read by more than one parser. In the
snapshots of both platforms they are well formed, whatever was asked and whatever the system
answered.
-/

namespace Osfacts

/-- The rows that other verbs write too are well formed. -/
structure Snapshot.Shared (s : Snapshot) : Prop where
  version_eq : s.version = SCHEMA_VERSION
  procs : ∀ p ∈ s.procs, p.Wire
  unreadable : ∀ u ∈ s.unreadable, u.Wire
  errors : ∀ e ∈ s.errors, e.Wire Facet.SNAPSHOT_SOURCE

namespace Snapshot.Shared

theorem new : Snapshot.new.Shared :=
  ⟨rfl, List.forall_mem_nil _, List.forall_mem_nil _, List.forall_mem_nil _⟩

variable {s : Snapshot}

theorem pushUnreadable [Libc] (h : s.Shared) (pid : Pid) {facet : Facet} (err : Errno)
    (hfacet : facet ∈ Facet.UNREADABLE) : (s.pushUnreadable pid facet err).Shared := by
  refine ⟨h.version_eq, h.procs, ?_, h.errors⟩
  refine List.forall_mem_append.mpr ⟨h.unreadable, List.forall_mem_singleton.mpr ?_⟩
  exact ⟨hfacet, errnoName_ne_nil err, plain_errnoName err⟩

theorem pushError (h : s.Shared) {e : SourceError} (he : e.Wire Facet.SNAPSHOT_SOURCE) :
    (s.pushError e).Shared := by
  refine ⟨h.version_eq, h.procs, h.unreadable, ?_⟩
  exact List.forall_mem_append.mpr ⟨h.errors, List.forall_mem_singleton.mpr he⟩

theorem pushErrors (h : s.Shared) {α : Type} (e : α → SourceError) (l : List α)
    (he : ∀ a ∈ l, (e a).Wire Facet.SNAPSHOT_SOURCE) :
    (l.foldl (fun s a => s.pushError (e a)) s).Shared := by
  induction l generalizing s with
  | nil => exact h
  | cons a l ih =>
      rw [List.foldl_cons]
      exact ih (h.pushError (he a (by simp))) (fun b hb => he b (by simp [hb]))

theorem pushProc (h : s.Shared) {p : Proc} (hp : p.Wire) :
    Snapshot.Shared { s with procs := s.procs ++ [p] } := by
  refine ⟨h.version_eq, ?_, h.unreadable, h.errors⟩
  exact List.forall_mem_append.mpr ⟨h.procs, List.forall_mem_singleton.mpr hp⟩

/-- Document order keeps the rows, or drops some. -/
theorem normalize (h : s.Shared) : Snapshot.Shared (Osfacts.normalize s) where
  version_eq := h.version_eq
  procs p hp := h.procs p (mem_sortByKey.mp hp)
  unreadable u hu := h.unreadable u (mem_of_mem_normalizeUnreadable hu)
  errors := h.errors

end Snapshot.Shared

/-! ## Linux -/

namespace Linux

theorem snapshot_shared (os : Os) (args : SnapshotArgs) :
    (normalize (snapshot os args)).Shared :=
  ⟨version_snapshot, procs_wire, unreadable_rows_wire, errors_wire⟩

end Linux

/-! ## Darwin -/

namespace Darwin

/-- Every name in the table is fit for a row. -/
def PlainNames (table : ProcessTable) : Prop := ∀ entry ∈ table, Plain entry.2.name

theorem plain_entryOf {raw : Bytes} {entry : Pid × BsdRow} (h : entryOf raw = some entry) :
    Plain entry.2.name := by
  rw [entryOf] at h
  split_ifs at h
  obtain rfl := Option.some.inj h
  exact plain_sanitizeName _

theorem readProcessTable_plain {os : Os} {table : ProcessTable}
    (h : readProcessTable os = .ok table) : PlainNames table := by
  unfold readProcessTable at h
  obtain ⟨bytes, -, h⟩ := bind_ok_iff.mp h
  obtain ⟨decoded, hdecoded, h⟩ := bind_ok_iff.mp h
  obtain rfl := Except.ok.inj h
  obtain ⟨records, -, rfl⟩ := entries_of_decode hdecoded
  intro entry hentry
  obtain ⟨raw, -, hraw⟩ := List.mem_filterMap.mp ((os.tableOrder_perm _).mem_iff.mp hentry)
  exact plain_entryOf hraw

/-- The name of a process: the base of its path, or what the table says. -/
theorem plain_processName (os : Os) (pid : Pid) {comm : Text} (h : Plain comm) :
    Plain (processName os pid comm) := by
  unfold processName
  cases pathBasename os pid with
  | none => exact h
  | some base => exact plain_sanitizeName base

theorem plain_bsdRow {table : ProcessTable} (htable : PlainNames table) {pid : Pid} {row : BsdRow}
    (h : bsdRow table pid = .ok row) : Plain row.name := by
  unfold bsdRow at h
  cases hlookup : table.lookup pid with
  | none =>
      rw [hlookup] at h
      cases h
  | some found =>
      rw [hlookup] at h
      obtain rfl := Except.ok.inj h
      obtain ⟨before, after, rfl, -⟩ := List.lookup_eq_some_iff.mp hlookup
      exact htable (pid, found) (List.mem_append_right before (List.mem_cons_self ..))

variable {snap : Snapshot}

/-- A facet is a row or a blame. -/
theorem account_shared {α : Type} (h : snap.Shared) (pid : Pid) {facet : Facet}
    (hfacet : facet ∈ Facet.UNREADABLE) {push : Snapshot → α → Snapshot} {read : Except Errno α}
    (hpush : ∀ row, read = .ok row → (push snap row).Shared) :
    (account snap pid facet push read).Shared := by
  cases read with
  | ok row => exact hpush row rfl
  | error err => exact h.pushUnreadable pid err hfacet

theorem accountStatus_shared (h : snap.Shared) (pid : Pid) (bsd : Except Errno BsdRow)
    (task : Except Errno ProcTaskInfo) : (accountStatus snap pid bsd task).Shared := by
  refine account_shared h pid (by decide) (fun row _ => ?_)
  refine account_shared h pid (by decide) (fun state _ => ?_)
  cases task with
  | ok task => exact ⟨h.version_eq, h.procs, h.unreadable, h.errors⟩
  | error err =>
      have hblamed : (snap.pushUnreadable pid .statusThreads err).Shared :=
        h.pushUnreadable pid err (by decide)
      exact ⟨hblamed.version_eq, hblamed.procs, hblamed.unreadable, hblamed.errors⟩

/-- A facet that was not asked changes nothing. -/
theorem asked_shared (asked : Bool) {step : Snapshot} (h : snap.Shared) (hstep : step.Shared) :
    Snapshot.Shared (if asked = true then step else snap) := by
  split_ifs
  · exact hstep
  · exact h

/-- A facet that only pushes rows of its own verb. -/
theorem own_shared {α : Type} (h : snap.Shared) (pid : Pid) {facet : Facet}
    (hfacet : facet ∈ Facet.UNREADABLE) {push : Snapshot → α → Snapshot} (read : Except Errno α)
    (hpush : ∀ row, (push snap row).version = snap.version ∧ (push snap row).procs = snap.procs ∧
      (push snap row).unreadable = snap.unreadable ∧ (push snap row).errors = snap.errors) :
    (account snap pid facet push read).Shared := by
  refine account_shared h pid hfacet (fun row _ => ?_)
  obtain ⟨hversion, hprocs, hunreadable, herrors⟩ := hpush row
  exact ⟨hversion.trans h.version_eq, hprocs ▸ h.procs, hunreadable ▸ h.unreadable,
    herrors ▸ h.errors⟩

theorem accountCpuTime_shared (h : snap.Shared) (pid : Pid) (task : Except Errno ProcTaskInfo)
    (timebase : Option MachTimebase) : (accountCpuTime snap pid task timebase).Shared := by
  cases timebase with
  | none => exact h
  | some timebase =>
      unfold accountCpuTime
      exact own_shared h pid (by decide) task fun _ => ⟨rfl, rfl, rfl, rfl⟩

theorem snapshotPid_shared {table : ProcessTable} (htable : PlainNames table) (os : Os)
    (args : SnapshotArgs) (timebase : Option MachTimebase) (h : snap.Shared) (pid : Pid) :
    (snapshotPid os args table timebase snap pid).Shared := by
  unfold snapshotPid
  extract_lets bsd task s1 s2 s3 s4 s5 s6 s7
  have hrows : ∀ s : Snapshot, s.version = s.version ∧ s.procs = s.procs ∧
      s.unreadable = s.unreadable ∧ s.errors = s.errors := fun _ => ⟨rfl, rfl, rfl, rfl⟩
  have h1 : s1.Shared := asked_shared _ h (account_shared h pid (by decide) fun row hrow =>
    h.pushProc (plain_processName os pid (plain_bsdRow htable hrow)))
  have h2 : s2.Shared := asked_shared _ h1 (own_shared h1 pid (by decide) task fun _ => hrows _)
  have h3 : s3.Shared := asked_shared _ h2 (own_shared h2 pid (by decide) bsd fun _ => hrows _)
  have h4 : s4.Shared := asked_shared _ h3 (accountCpuTime_shared h3 pid task timebase)
  have h5 : s5.Shared := asked_shared _ h4 (own_shared h4 pid (by decide) bsd fun _ => hrows _)
  have h6 : s6.Shared := asked_shared _ h5 (own_shared h5 pid (by decide) _ fun _ => hrows _)
  have h7 : s7.Shared := asked_shared _ h6 (accountStatus_shared h6 pid bsd task)
  exact asked_shared _ h7 (own_shared h7 pid (by decide) _ fun _ => hrows _)

/-! ### Pids and listeners -/

theorem enqueueRoots_shared {table : ProcessTable} (roots : List Pid) (w : Breadth Pid)
    (h : snap.Shared) : (roots.foldl (enqueueRoot table) (w, snap)).2.Shared := by
  induction roots generalizing w snap with
  | nil => exact h
  | cons root roots ih =>
      rw [List.foldl_cons, enqueueRoot]
      split_ifs
      · exact ih w (h.pushUnreadable root Libc.ESRCH (by decide))
      · exact ih (w.enqueue root) h

theorem selectPids_shared (scope : Scope) (table : ProcessTable) (h : snap.Shared) :
    (selectPids scope table snap).2.Shared := by
  cases scope with
  | host => exact h
  | pids pids => exact h
  | roots roots => exact enqueueRoots_shared roots _ h

theorem walkBlame_wire (walk : Pid → Except Errno (List Pcblist.HostListener)) (pid : Pid) :
    ∀ u ∈ walkBlame walk pid, u.Wire := by
  unfold walkBlame
  cases walk pid with
  | ok rows => exact List.forall_mem_nil _
  | error err => exact List.forall_mem_singleton.mpr (unreadable_wire pid .ports err)

theorem snapshotPorts_shared (walk : Pid → Except Errno (List Pcblist.HostListener))
    (table : Except Errno (List Pcblist.HostListener)) (wanted : List Pid) (h : snap.Shared) :
    (snapshotPorts walk table wanted snap).Shared := by
  have huid : (sourceError "darwin_listeners" .portsUid Libc.ENOTSUP).Wire Facet.SNAPSHOT_SOURCE :=
    sourceError_wire (by decide) (by decide) (by decide)
  have hempty : (blindOrEmpty "darwin_tcp_pcblist" .portsUnclaimed).Wire Facet.SNAPSHOT_SOURCE :=
    ⟨by decide, by decide, by decide, by decide, by decide⟩
  have hwalked : Snapshot.Shared { snap.pushError
      (sourceError "darwin_listeners" .portsUid Libc.ENOTSUP) with
      unreadable := snap.unreadable ++ wanted.flatMap (walkBlame walk) } := by
    have hpushed := h.pushError huid
    refine ⟨hpushed.version_eq, hpushed.procs, ?_, hpushed.errors⟩
    refine List.forall_mem_append.mpr ⟨h.unreadable, fun u hu => ?_⟩
    obtain ⟨pid, -, hu⟩ := List.mem_flatMap.mp hu
    exact walkBlame_wire walk pid u hu
  unfold snapshotPorts
  simp only [foldl_claimStep]
  cases table with
  | ok rows =>
      have hrows := asked_shared rows.isEmpty hwalked (hwalked.pushError hempty)
      exact ⟨hrows.version_eq, hrows.procs, hrows.unreadable, hrows.errors⟩
  | error err =>
      refine Snapshot.Shared.pushError ?_ (sourceError_wire ?_ (by decide) (by decide))
      · exact ⟨hwalked.version_eq, hwalked.procs, hwalked.unreadable, hwalked.errors⟩
      · split_ifs <;> decide

/-! ### The snapshot -/

theorem snapshotTimebase_shared (os : Os) (args : SnapshotArgs) (h : snap.Shared) :
    (snapshotTimebase os args snap).1.Shared := by
  unfold snapshotTimebase
  split_ifs
  · cases readMachTimebase os with
    | ok value => exact h
    | error err => exact h.pushError (sourceError_wire (by decide) (by decide) (by decide))
  · exact h

theorem foldl_snapshotPid_shared {table : ProcessTable} (htable : PlainNames table) (os : Os)
    (args : SnapshotArgs) (timebase : Option MachTimebase) (wanted : List Pid) (h : snap.Shared) :
    (wanted.foldl (snapshotPid os args table timebase) snap).Shared := by
  induction wanted generalizing snap with
  | nil => exact h
  | cons pid wanted ih =>
      rw [List.foldl_cons]
      exact ih (snapshotPid_shared htable os args timebase h pid)

theorem snapshot_shared (os : Os) (args : SnapshotArgs) : (snapshot os args).Shared := by
  have htimebase := snapshotTimebase_shared os args Snapshot.Shared.new
  unfold snapshot
  cases htable : readProcessTable os with
  | error err =>
      refine htimebase.pushErrors _ _ (fun facet hfacet => ?_)
      obtain ⟨f, -, rfl⟩ := mem_askedFacets.mp hfacet
      exact sourceError_wire (facet_mem_source f) (by decide) (by decide)
  | ok table =>
      have hselected := selectPids_shared args.scope table htimebase
      have hpids := foldl_snapshotPid_shared (readProcessTable_plain htable) os args
        (snapshotTimebase os args Snapshot.new).2 (selectPids args.scope table
          (snapshotTimebase os args Snapshot.new).1).1 hselected
      exact asked_shared _ hpids (snapshotPorts_shared _ _ _ hpids)

end Darwin

end Osfacts
