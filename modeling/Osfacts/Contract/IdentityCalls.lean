import Osfacts.Contract.Verdicts

set_option autoImplicit false

/-! # Identities, on every system

A pid and the start of its process, as a caller of the client gets it. Whatever the system, the
document of the ask is one reading: a start time, an errno, or nothing where a source of all
processes is blind. The absent arm of the answer is the system's own word that the process is gone.
-/

namespace Osfacts

open Client Linux

/-! ## The start of one process -/

/-- The document says this of the start of a process, and nothing of anything else. -/
structure Snapshot.TellsStart [Libc] (s : Snapshot) (pid : Pid)
    (r : Option (Except Errno StartTime)) : Prop where
  startTimes : s.startTimes = facts r
  unreadable : s.unreadable = blame pid .startTime r
  memory : s.memory = []
  cpuTimes : s.cpuTimes = []
  statuses : s.statuses = []
  ports : s.ports = []

namespace System

variable {F : FloatLib}

/-- What a system has to say of the start of a process. -/
def startOf : System F → Pid → Option (Except Errno StartTime)
  | linux _ os, pid => identityReading os.toOs pid
  | darwin os, pid => (Darwin.readProcessTable os.toOs).toOption.map
      (fun table => (Darwin.bsdRow table pid).map (fun row => ⟨pid, row.startUnixUs⟩))
  | unsupported, _ => none

/-- The system says that there is no such process. -/
def Gone : System F → Pid → Prop
  | linux _ os, pid => Osfacts.Gone os.toOs pid
  | darwin os, pid => ∃ table, Darwin.readProcessTable os.toOs = .ok table ∧ ¬ table.Has pid
  | unsupported, _ => False

end System

/-- An errno that stands for a process that is gone. -/
def Absent (err : Errno) : Prop := err = Libc.ENOENT ∨ err = Libc.ESRCH

/-- On Linux it is the `stat` of the process that is absent: a line that does not parse is
`EINVAL`. -/
theorem linux_gone_iff (os : Os) (pid : Pid) :
    (∃ err, identityReading os pid = some (.error err) ∧ Absent err) ↔ Gone os pid := by
  by_cases hconstants : ∃ secs hz, bootSeconds os = .ok secs ∧ clockTicks os = .ok hz
  · obtain ⟨secs, hz, hboot, hrate⟩ := hconstants
    rw [identityReading_of_constants pid hboot hrate]
    cases hstat : statOf os pid with
    | error err =>
        constructor
        · rintro ⟨err', heq, habsent⟩
          obtain rfl : err = err' := Except.error.inj (Option.some.inj heq)
          exact ⟨⟨secs, hboot⟩, ⟨hz, hrate⟩, habsent.imp (fun h => by rw [hstat, h])
            (fun h => by rw [hstat, h])⟩
        · intro hgone
          refine ⟨err, rfl, hgone.stat.imp (fun h => ?_) (fun h => ?_)⟩
          · exact Except.error.inj (hstat.symm.trans h)
          · exact Except.error.inj (hstat.symm.trans h)
    | ok stat =>
        refine iff_of_false ?_ fun hgone => ?_
        · rintro ⟨err, heq, habsent⟩
          -- a `stat` that was read fails to parse at most, and that is `EINVAL`
          have hticks : startTicks stat = .error err := by
            cases hread : startTicks stat with
            | error err' =>
                simp only [Except.bind, hread, Except.map, Option.some.injEq,
                  Except.error.injEq] at heq
                rw [heq]
            | ok ticks => simp [Except.bind, hread, Except.map] at heq
          rw [startTicks_error hticks] at habsent
          exact absurd habsent (by unfold Absent; decide)
        · have hread := hgone.stat
          rw [hstat] at hread
          rcases hread with hread | hread <;> cases hread
  · have hblind : ∀ secs hz, ¬ (bootSeconds os = .ok secs ∧ clockTicks os = .ok hz) :=
      fun secs hz h => hconstants ⟨secs, hz, h⟩
    rw [identityReading_of_blind hblind]
    refine iff_of_false (fun ⟨_, h, _⟩ => by cases h) ?_
    rintro ⟨⟨secs, hboot⟩, ⟨hz, hrate⟩, -⟩
    exact hblind secs hz ⟨hboot, hrate⟩

/-- On darwin it is not in the table of all processes. -/
theorem darwin_gone_iff {F : FloatLib} (os : Darwin.HostOs F) (pid : Pid) :
    (∃ err, (System.darwin os).startOf pid = some (.error err) ∧ Absent err)
      ↔ (System.darwin os).Gone pid := by
  show (∃ err, (Darwin.readProcessTable os.toOs).toOption.map _ = _ ∧ Absent err)
    ↔ ∃ table, Darwin.readProcessTable os.toOs = .ok table ∧ ¬ table.Has pid
  cases Darwin.readProcessTable os.toOs with
  | error err => simp [Except.toOption]
  | ok table =>
      have hhas : (table.lookup pid).isNone = true ↔ ¬ table.Has pid := Darwin.isNone_lookup_iff
      unfold Darwin.bsdRow
      cases hlookup : table.lookup pid with
      | none =>
          rw [hlookup] at hhas
          exact iff_of_true ⟨Libc.ESRCH,
            by simp [hlookup, Except.toOption, Except.map], Or.inr rfl⟩ ⟨table, rfl, hhas.mp rfl⟩
      | some row =>
          rw [hlookup] at hhas
          refine iff_of_false ?_ ?_
          · rintro ⟨err, heq, -⟩
            simp [hlookup, Except.toOption, Except.map] at heq
          · rintro ⟨table', heq, habsent⟩
            obtain rfl := Except.ok.inj heq
            exact absurd (hhas.mpr habsent) (by simp)

theorem System.gone_iff {F : FloatLib} (system : System F) (pid : Pid) :
    (∃ err, system.startOf pid = some (.error err) ∧ Absent err) ↔ system.Gone pid := by
  cases system with
  | linux E os => exact linux_gone_iff os.toOs pid
  | darwin os => exact darwin_gone_iff os pid
  | unsupported => exact iff_of_false (fun ⟨_, h, _⟩ => by cases h) id

/-! ## The document of the ask -/

section Documents

variable {F : FloatLib}

/-- The document of a system for the ask. -/
def System.startDocument (system : System F) (n : Nat) : Snapshot :=
  (SnapshotVerb.pids [n]).document system.platform (.only .startTime)

theorem linux_tellsStart (E : F64Lib F) (os : HostOs) (n : Nat) :
    ((System.linux E os).startDocument n).TellsStart (UInt32.ofNat n)
      ((System.linux E os).startOf (UInt32.ofNat n)) := by
  have hdocument : (System.linux E os).startDocument n
      = identityDocument os.toOs (UInt32.ofNat n) := take_identity os.toOs (UInt32.ofNat n)
  rw [hdocument]
  exact ⟨rfl, rfl, rfl, rfl, rfl, rfl⟩

open Darwin in
theorem darwin_tellsStart (os : Darwin.HostOs F) (n : Nat) :
    ((System.darwin os).startDocument n).TellsStart (UInt32.ofNat n)
      ((System.darwin os).startOf (UInt32.ofNat n)) := by
  set pid : Pid := UInt32.ofNat n
  set args : SnapshotArgs := .ofAsk (.pids [pid]) (.only .startTime)
  have hdocument : (System.darwin os).startDocument n
      = normalize (Darwin.snapshot os.toOs args) := rfl
  have hstart : (System.darwin os).startOf pid = (Darwin.readProcessTable os.toOs).toOption.map
      (fun table => (Darwin.bsdRow table pid).map (fun row => ⟨pid, row.startUnixUs⟩)) := rfl
  rw [hdocument, hstart]
  cases htable : Darwin.readProcessTable os.toOs with
  | error err =>
      rw [Darwin.snapshot_of_error htable]
      exact ⟨rfl, rfl, rfl, rfl, rfl, rfl⟩
  | ok table =>
      obtain ⟨hrows, hports, hunreadable, -, -⟩ := Darwin.snapshot_eq args htable
      have htables : ∀ f, f ≠ .ports → (normalize (Darwin.snapshot os.toOs args)).table f
          = facts (Darwin.reading os.toOs args table (Darwin.timebaseOf os.toOs args) pid f) := by
        intro f hf
        have hperm := table_normalize_perm (Darwin.snapshot os.toOs args) f
        rw [hrows f hf] at hperm
        exact perm_facts (hperm.trans (by
          rw [show Darwin.wanted args.scope table = [pid] from rfl, List.flatMap_singleton]))
      refine ⟨htables .startTime (by decide), ?_, htables .mem (by decide),
        htables .cpuTime (by decide), htables .status (by decide), ?_⟩
      · have hblame : (Darwin.snapshot os.toOs args).unreadable
            = blame pid .startTime (Darwin.reading os.toOs args table
                (Darwin.timebaseOf os.toOs args) pid .startTime) := by
          rw [hunreadable]
          -- no other flag is asked, and no root
          show [] ++ (blame pid .startTime _ ++ [] ++ []) ++ [] = _
          rw [List.nil_append, List.append_nil, List.append_nil, List.append_nil]
        show normalizeUnreadable _ = _
        rw [hblame]
        exact normalizeUnreadable_blame pid .startTime _
      · have hperm := table_normalize_perm (Darwin.snapshot os.toOs args) .ports
        rw [show (Darwin.snapshot os.toOs args).table .ports = [] from hports] at hperm
        exact hperm.eq_nil

theorem System.tellsStart (system : System F) (n : Nat) :
    @Snapshot.TellsStart system.libc (system.startDocument n) (UInt32.ofNat n)
      (system.startOf (UInt32.ofNat n)) := by
  cases system with
  | linux E os => exact linux_tellsStart E os n
  | darwin os => exact darwin_tellsStart os n
  | unsupported => exact ⟨rfl, rfl, rfl, rfl, rfl, rfl⟩

/-- A start that is told is told of the process that was named. -/
theorem System.startOf_pid {system : System F} {pid : Pid} {t : StartTime}
    (h : system.startOf pid = some (.ok t)) : t.pid = pid := by
  cases system with
  | linux E os =>
      have hread : reading os.toOs (identityArgs pid) (constants os.toOs (identityArgs pid)) pid
          .startTime = some (.ok t) := h
      exact Option.some.inj (pidOf_of_reading hread)
  | darwin os =>
      obtain ⟨table, -, h⟩ := Option.map_eq_some_iff.mp h
      obtain ⟨row, -, rfl⟩ := map_ok_iff.mp h
      rfl
  | unsupported => cases h

end Documents

/-! ## The answer -/

section Fold

variable {reading : SnapshotReading} {pid : Pid}

theorem fold_started {t : StartTime} (hstart : reading.startTimes = [t.view]) :
    foldStartTimeReading reading t.pid.toNat = .ok (some t.view) := by
  rw [foldStartTimeReading, hstart, List.find?_cons_of_pos (by simp [StartTime.view])]

theorem fold_unread {_ : Libc} {err : Errno} (hstart : reading.startTimes = [])
    (hunreadable : reading.unreadable = [⟨pid.toNat, "start_time".toList, errnoName err⟩]) :
    (foldStartTimeReading reading pid.toNat = .ok none ↔ Absent err) ∧
      ∀ row, foldStartTimeReading reading pid.toNat ≠ .ok (some row) := by
  have hfind : [(⟨pid.toNat, "start_time".toList, errnoName err⟩ : UnreadableRow)].find?
      (fun value => value.pid == pid.toNat && value.facet == "start_time".toList)
      = some ⟨pid.toNat, "start_time".toList, errnoName err⟩ :=
    List.find?_cons_of_pos (by simp)
  rw [foldStartTimeReading, hstart, hunreadable, List.find?_nil, hfind]
  simp only [errnoName_absent, Absent]
  split_ifs with habsent
  · exact ⟨iff_of_true rfl habsent, fun row h => by cases h⟩
  · exact ⟨iff_of_false (fun h => by cases h) habsent, fun row h => by cases h⟩

theorem fold_unspoken (hstart : reading.startTimes = []) (hunreadable : reading.unreadable = [])
    (answer : Option StartTimeRow) : foldStartTimeReading reading pid.toNat ≠ .ok answer := by
  rw [foldStartTimeReading, hstart, hunreadable]
  intro h
  cases h

end Fold

section Answer

variable {J : JsonLib} {s : Snapshot} {pid : Pid} {r : Option (Except Errno StartTime)}

/-- What the client answers of a document about the start of one process. -/
theorem answer_of_start {_ : Libc} (hJ : J.Lawful) (hversion : s.version = SCHEMA_VERSION)
    (hframed : s.Framed) (h : s.TellsStart pid r) (hown : ∀ t, r = some (.ok t) → t.pid = pid) :
    ((parseSnapshotOutput J (writeTsv J s) >>=
        fun reading => foldStartTimeReading reading pid.toNat) = .ok none ↔
      ∃ err, r = some (.error err) ∧ Absent err) ∧
    ∀ row, (parseSnapshotOutput J (writeTsv J s) >>=
        fun reading => foldStartTimeReading reading pid.toNat) = .ok (some row) ↔
      ∃ t, r = some (.ok t) ∧ t.Wire ∧ row = t.view := by
  have hholdable : s.Holdable ↔ ∀ t ∈ facts r, t.Wire := by
    rw [← h.startTimes]
    refine ⟨fun hhold => hhold.integers.startTimes, fun hstart => ⟨⟨?_, hstart, ?_⟩, ?_, ?_⟩⟩
    · rw [h.memory]
      exact List.forall_mem_nil _
    · rw [h.cpuTimes]
      exact List.forall_mem_nil _
    · rw [h.statuses]
      exact List.forall_mem_nil _
    · rw [h.ports]
      exact List.forall_mem_nil _
  rcases verdict_of_framed hJ hversion hframed with ⟨hhold, hparse⟩ | ⟨hhold, message, hparse⟩
  · rw [hholdable] at hhold
    rw [hparse, ok_bind]
    have hstart : s.view.startTimes = (facts r).map StartTime.view := by
      rw [← h.startTimes]
      rfl
    have hunreadable : s.view.unreadable = (blame pid .startTime r).map Unreadable.view := by
      rw [← h.unreadable]
      rfl
    rcases r with _ | err | t
    · have hblind : ∀ answer, foldStartTimeReading s.view pid.toNat ≠ .ok answer :=
        fold_unspoken hstart hunreadable
      exact ⟨iff_of_false (hblind none) nofun, fun row => iff_of_false (hblind (some row)) nofun⟩
    · obtain ⟨habsent, hnone⟩ := fold_unread hstart hunreadable
      refine ⟨habsent.trans ⟨fun h => ⟨err, rfl, h⟩, ?_⟩, fun row => iff_of_false (hnone row) nofun⟩
      rintro ⟨err', heq, h⟩
      cases heq
      exact h
    · obtain rfl := hown t rfl
      have hwire : t.Wire := hhold t (List.mem_singleton_self t)
      rw [fold_started hstart]
      refine ⟨iff_of_false nofun nofun, fun row => ⟨fun hrow => ?_, ?_⟩⟩
      · cases hrow
        exact ⟨t, rfl, hwire, rfl⟩
      · rintro ⟨t', heq, -, rfl⟩
        cases heq
        rfl
  · -- the client holds every document without a start
    have hlarge : ¬ ((∃ err, r = some (.error err) ∧ Absent err) ∨
        ∃ t, r = some (.ok t) ∧ t.Wire) := by
      rintro (⟨err, rfl, -⟩ | ⟨t, rfl, hwire⟩)
      · exact hhold (hholdable.mpr (List.forall_mem_nil _))
      · exact hhold (hholdable.mpr (List.forall_mem_singleton.mpr hwire))
    rw [hparse]
    refine ⟨iff_of_false nofun fun h => hlarge (Or.inl h), fun row => iff_of_false nofun ?_⟩
    rintro ⟨t, hr, hwire, -⟩
    exact hlarge (Or.inr ⟨t, hr, hwire⟩)

end Answer

/-! ## The calls -/

section Calls

variable {L : Lexopt} {ready finished : L.Parser → List Bytes → Prop} {pending : L.Parser → Prop}
variable {J : JsonLib} {F : FloatLib} {W : JsonWriters F} {rt : Runtime} {bin : Text}

/-- The twins of an identity. -/
theorem processIdentityAsync_eq (rt : Runtime) (J : JsonLib) (bin : Text) (n : Nat) :
    rt.processIdentityAsync J bin n = rt.processIdentity J bin n := by
  rw [Runtime.processIdentityAsync, Runtime.processIdentity, snapshotPidsSync_eq]

/-- An identity is folded from the document of the platform. -/
theorem processIdentity_of_serves (hL : L.Lawful ready finished pending) {system : System F}
    {n : Nat}
    (h : rt.Serves bin L J W system.platform ((SnapshotVerb.pids [n]).argv (.only .startTime)))
    (hn : 1 ≤ n ∧ n < 2 ^ 32) :
    rt.processIdentity J bin n
      = ⟨[(bin, (SnapshotVerb.pids [n]).argv (.only .startTime))],
        parseSnapshotOutput J (writeTsv J (system.startDocument n)) >>=
          fun reading => foldStartTimeReading reading n⟩ := by
  have hne : ¬ (SnapshotVerb.pids [n]).Empty := List.cons_ne_nil n []
  have hrange : (SnapshotVerb.pids [n]).InRange := by
    intro m hm
    rw [List.mem_singleton.mp hm]
    exact hn
  have hcall := call_of_asked hL h hne hrange
    (show SnapshotFacets.only .startTime .startTime = true from rfl)
  rw [Runtime.processIdentity, snapshotPidsSync_eq]
  show (SnapshotVerb.call rt J bin (.only .startTime) (.pids [n])).andThen _ = _
  rw [hcall]
  rfl

/-- **The identity of a process, on every system.** A call names one process and spawns one child,
which runs to its exit. The client answers that the process is gone exactly where the system itself
says so, and a start exactly where the system read that start and the client can hold it; every
other outcome is an error. The sync and the async verb, and the verb that takes its binary from the
environment, give the same answer. -/
theorem identity_call_answer (hL : L.Lawful ready finished pending) (hJ : J.Lawful)
    {system : System F} {n : Nat}
    (h : rt.Serves bin L J W system.platform ((SnapshotVerb.pids [n]).argv (.only .startTime)))
    (hn : 1 ≤ n ∧ n < 2 ^ 32) :
    ((rt.processIdentity J bin n).answer = .ok none ↔ system.Gone (UInt32.ofNat n)) ∧
    (∀ row, (rt.processIdentity J bin n).answer = .ok (some row) ↔
      ∃ us, system.startOf (UInt32.ofNat n) = some (.ok ⟨UInt32.ofNat n, us⟩) ∧
        us.toNat ≤ MAX_SAFE_INTEGER ∧ row = ⟨n, us.toNat⟩) ∧
    rt.processIdentityAsync J bin n = rt.processIdentity J bin n ∧
    ∀ envVar, envVar ≠ [] → rt.env envVar = some bin →
      rt.processIdentityFromEnv J envVar n = rt.processIdentity J bin n := by
  have hpid : (UInt32.ofNat n).toNat = n := UInt32.toNat_ofNat_of_lt' hn.2
  obtain ⟨hversion, hframed⟩ := document_framed system (.pids [n]) (.only .startTime)
  obtain ⟨hgone, hstarted⟩ := answer_of_start hJ hversion hframed (system.tellsStart n)
    (fun t => System.startOf_pid)
  rw [hpid] at hgone hstarted
  refine ⟨?_, fun row => ?_, processIdentityAsync_eq rt J bin n, ?_⟩
  · rw [processIdentity_of_serves hL h hn]
    exact hgone.trans (system.gone_iff _)
  · rw [processIdentity_of_serves hL h hn]
    refine (hstarted row).trans ⟨?_, ?_⟩
    · rintro ⟨⟨p, us⟩, hstart, hwire, rfl⟩
      obtain rfl : p = UInt32.ofNat n := System.startOf_pid hstart
      exact ⟨us, hstart, hwire, by rw [StartTime.view, hpid]⟩
    · rintro ⟨us, hstart, hsafe, rfl⟩
      exact ⟨_, hstart, hsafe, by rw [StartTime.view, hpid]⟩
  · intro envVar hvar henv
    have hbaked : rt.bakedOsFactsBin envVar = .ok bin := by
      rw [Runtime.bakedOsFactsBin, if_neg hvar, henv]
      cases bin with
      | nil => exact absurd rfl h.bin_ne_nil
      | cons c rest => rfl
    rw [Runtime.processIdentityFromEnv, hbaked]

end Calls

/-- A host of which nothing is known but its processes. -/
def Darwin.Os.bare (os : Darwin.Os) : Darwin.HostOs naturalFloats where
  toOs := os
  nowUs := none
  getloadavg := .error Libc.EINVAL
  pagesize := 16384
  clkTck := 100
  hostVmInfo := .error Libc.EINVAL
  hostProcessorInfo := .error Libc.EINVAL
  vmDeallocate := 0
  networks := []
  statvfsRoot := .error Libc.EINVAL

/-- A darwin machine of two processes, with nothing to say of the host. -/
def familyHost : System naturalFloats := .darwin Darwin.familySystem.bare

def familyMachine : Runtime :=
  .of "osfacts".toList .standard .standard (noWriters naturalFloats) familyHost.platform

/-- Process 9 has a start, and process 8 is gone. -/
theorem identity_call_sample :
    (familyMachine.processIdentity .standard "osfacts".toList 9).answer
      = .ok (some ⟨9, 1700000000123456⟩) ∧
    (familyMachine.processIdentity .standard "osfacts".toList 8).answer = .ok none := by
  constructor
  · have hserves : familyMachine.Serves "osfacts".toList .standard .standard
        (noWriters naturalFloats) familyHost.platform
        ((SnapshotVerb.pids [9]).argv (.only .startTime)) :=
      runtime_of_serves (by decide) _ _ _ _ (by decide)
    have hstart : familyHost.startOf (UInt32.ofNat 9) = some (.ok ⟨9, 1700000000123456⟩) := by
      have htable : Darwin.readProcessTable Darwin.familySystem.bare.toOs
          = .ok Darwin.familyTable := Darwin.familySystem_table
      rw [familyHost, System.startOf, htable]
      rfl
    exact ((identity_call_answer Lexopt.standard_lawful JsonLib.standard_lawful hserves
      (by decide : 1 ≤ 9 ∧ 9 < 2 ^ 32)).2.1 ⟨9, 1700000000123456⟩).mpr
      ⟨1700000000123456, hstart, by decide, rfl⟩
  · have hserves : familyMachine.Serves "osfacts".toList .standard .standard
        (noWriters naturalFloats) familyHost.platform
        ((SnapshotVerb.pids [8]).argv (.only .startTime)) :=
      runtime_of_serves (by decide) _ _ _ _ (by decide)
    have hgone : familyHost.Gone (UInt32.ofNat 8) :=
      ⟨Darwin.familyTable, Darwin.familySystem_table, by decide⟩
    exact (identity_call_answer Lexopt.standard_lawful JsonLib.standard_lawful hserves
      (by decide : 1 ≤ 8 ∧ 8 < 2 ^ 32)).1.mpr hgone

end Osfacts
