import Osfacts.Client.Verbs
import Osfacts.Contract.Asks
import Osfacts.Contract.Identity
import Osfacts.Contract.Occupancy
import Osfacts.Contract.Twins
import Osfacts.Platforms

set_option autoImplicit false

/-! # The verbs, end to end

A call of the client is the ask it puts on the command line, answered by the sensor of the
platform, put in document order, written, and read back. What stands between the two ends loses
nothing, and refuses what is no ask.
-/

namespace Osfacts

open Client Linux

/-! ## The program behind a path -/

section Serves

variable {L : Lexopt} {J : JsonLib} {F : FloatLib} {W : JsonWriters F} {platform : Platform F}

/-- The path leads to the program, and its child for these arguments runs to its exit, within the
deadline and the buffer of `CHILD_OPTIONS`. An argument with a NUL never reaches a child. -/
structure Client.Runtime.Serves (rt : Runtime) (bin : Text) (L : Lexopt) (J : JsonLib)
    {F : FloatLib} (W : JsonWriters F) (platform : Platform F) (args : List Text) : Prop where
  bin_ne_nil : bin ≠ []
  nul_free : ∀ arg ∈ bin :: args, Char.ofNat 0 ∉ arg
  child (exit : Exit) : main L J W platform (args.map Utf8.encode) = some exit →
    ∃ killed, rt.child bin args = ⟨.exited exit.code, stdoutText exit.stdout, exit.stderr, killed⟩

variable {rt : Runtime} {bin : Text} {args : List Text}

/-- A child of the program is read as its exit. -/
theorem runOsfacts_exit (h : rt.Serves bin L J W platform args) {exit : Exit}
    (hmain : main L J W platform (args.map Utf8.encode) = some exit) :
    rt.runOsfacts bin args = ⟨[(bin, args)], childDocument bin exit⟩ := by
  obtain ⟨killed, hchild⟩ := h.child exit hmain
  have hbin : assertBinPath bin = .ok () := if_neg h.bin_ne_nil
  rw [Runtime.runOsfacts, hchild, runOsfactsAsync_exited, Runtime.spawns, if_neg h.bin_ne_nil,
    Client.runOsfacts, hbin]
  rfl

/-- The twins spawn the same child and read it alike. -/
theorem runOsfactsSync_eq (rt : Runtime) (bin : Text) (args : List Text) :
    rt.runOsfactsSync bin args = rt.runOsfacts bin args := by
  rw [Runtime.runOsfactsSync, Runtime.runOsfacts, ← runOsfacts_twins]

/-- What the program wrote for a command arrives as it was written. -/
theorem runOsfacts_emit (h : rt.Serves bin L J W platform args) {D : Type} [Document D]
    {writeJson : D → Text} {doc : D}
    (hmain : main L J W platform (args.map Utf8.encode) = some (emit J writeJson doc false))
    (hversion : "V\t".toList.isPrefixOf (writeTsv J doc) = true) :
    rt.runOsfacts bin args = ⟨[(bin, args)], .ok (writeTsv J doc)⟩ := by
  rw [runOsfacts_exit h hmain, childDocument_emit bin writeJson hversion]

/-- A refused command line has no document: it is the failure of its spawn. -/
theorem runOsfacts_usage (h : rt.Serves bin L J W platform args) {message : Text}
    (hparse : parse L (args.map Utf8.encode) = some (.error (.usage message))) :
    ∃ failure, rt.runOsfacts bin args = ⟨[(bin, args)], .error (.spawn failure)⟩ := by
  have hmain : main L J W platform (args.map Utf8.encode)
      = some ⟨writeVersionOnly J, "osfacts: ".toList ++ message ++ "\n".toList, 2⟩ := by
    rw [main, hparse]
    rfl
  obtain ⟨failure, hfailure⟩ : ∃ failure, runOsfactsSync bin
      (execFileSync (stdoutText (writeVersionOnly J)) ("osfacts: ".toList ++ message ++ "\n".toList)
        (.exited 2)) = .error (.spawn failure) :=
    runOsfactsSync_spawn bin (by simp) (by simp)
  obtain ⟨killed, hchild⟩ := h.child _ hmain
  refine ⟨failure, ?_⟩
  rw [Runtime.runOsfacts, hchild, Runtime.spawns, if_neg h.bin_ne_nil]
  exact congrArg _ ((runOsfacts_twins bin).trans hfailure)

end Serves

/-! ## The snapshot verbs on the command line -/

/-- The ask for some facets in a scope, as the program is to perform it. -/
def SnapshotArgs.ofAsk (scope : Scope) (facets : SnapshotFacets) : SnapshotArgs :=
  ⟨scope, facets .procs, facets .ports, facets .mem, facets .startTime, facets .cpuTime,
    facets .uid, facets .cwd, facets .status, facets .argv, false⟩

theorem SnapshotArgs.eq_ofAsk (args : SnapshotArgs) (hjson : args.json = false) :
    args = ofAsk args.scope args.asks := by
  cases args
  cases hjson
  rfl

/-- What a snapshot is called about. -/
inductive SnapshotVerb where
  | host
  | subtree (rootPids : List Nat)
  | pids (list : List Nat)
  deriving DecidableEq, Repr

namespace SnapshotVerb

def call (rt : Runtime) (J : JsonLib) (bin : Text) (facets : SnapshotFacets) :
    SnapshotVerb → Call SnapshotReading
  | host => rt.snapshotHost J bin facets
  | subtree rootPids => rt.snapshotSubtree J bin rootPids facets
  | pids list => rt.snapshotPids J bin list facets

/-- What the call puts on the command line. -/
def argv (facets : SnapshotFacets) : SnapshotVerb → List Text
  | host => appendSnapshotFacets ["snapshot".toList] facets
  | subtree rootPids => snapshotArgs "--roots".toList rootPids facets
  | pids list => snapshotArgs "--pids".toList list facets

def scope : SnapshotVerb → Scope
  | host => .host
  | subtree rootPids => .roots (rootPids.map UInt32.ofNat)
  | pids list => .pids (list.map UInt32.ofNat)

/-- The call names no process, and is not about the host. -/
def Empty : SnapshotVerb → Prop
  | host => False
  | subtree rootPids => rootPids = []
  | pids list => list = []

/-- The pids that are named are pids of the system. -/
def InRange : SnapshotVerb → Prop
  | host => True
  | subtree rootPids => ∀ n ∈ rootPids, 1 ≤ n ∧ n < 2 ^ 32
  | pids list => ∀ n ∈ list, 1 ≤ n ∧ n < 2 ^ 32

/-- What the loop has gathered in front of the flags. -/
def gathered : SnapshotVerb → SnapshotAcc
  | host => ⟨none, none, SnapshotArgs.default⟩
  | subtree rootPids => ScopeFlag.roots.gathered (rootPids.map UInt32.ofNat)
  | pids list => ScopeFlag.pids.gathered (list.map UInt32.ofNat)

/-- What the loop has gathered behind them. -/
def asked (facets : SnapshotFacets) (verb : SnapshotVerb) : SnapshotAcc :=
  { verb.gathered with
    out := (Flag.all.filter facets).foldl SnapshotArgs.set verb.gathered.out }

theorem asks_asked (facets : SnapshotFacets) (verb : SnapshotVerb) (f : Flag) :
    (verb.asked facets).out.asks f = facets f := by
  have hnone : verb.gathered.out.asks f = false := by cases verb <;> cases f <;> rfl
  show ((Flag.all.filter facets).foldl SnapshotArgs.set verb.gathered.out).asks f = facets f
  rw [SnapshotArgs.asks_foldl_set, hnone, Bool.false_or]
  simp [List.mem_filter, Flag.mem_all]

/-- The flags that were set are the ask. -/
theorem finish_asked {facets : SnapshotFacets} {f : Flag} (hf : facets f = true)
    (verb : SnapshotVerb) :
    finishSnapshot (verb.asked facets) = .ok (.ofAsk verb.scope facets) := by
  have hasks : ∀ g, (verb.asked facets).out.asks g = facets g := verb.asks_asked facets
  have hjson : (verb.asked facets).out.json = false := by
    show ((Flag.all.filter facets).foldl SnapshotArgs.set verb.gathered.out).json = false
    rw [SnapshotArgs.json_foldl_set]
    cases verb <;> rfl
  have hscope : scopeOf (verb.asked facets).roots (verb.asked facets).pids = verb.scope := by
    cases verb <;> rfl
  rw [finishSnapshot_asked ((hasks f).trans hf), hscope,
    SnapshotArgs.eq_ofAsk { (verb.asked facets).out with scope := verb.scope } hjson]
  refine congrArg (fun asks => Except.ok (SnapshotArgs.ofAsk verb.scope asks)) (funext fun g => ?_)
  rw [← hasks g]
  cases g <;> rfl

/-- An ask without facets is refused. -/
theorem finish_nothing {facets : SnapshotFacets} (h : ∀ f, facets f = false)
    (verb : SnapshotVerb) :
    finishSnapshot (verb.asked facets)
      = .error (.usage (withHelp "at least one snapshot facet required".toList)) := by
  have hasks : ∀ g, (verb.asked facets).out.asks g = false :=
    fun g => (verb.asks_asked facets g).trans (h g)
  refine if_pos ?_
  simp only [Bool.and_eq_true, Bool.not_eq_true']
  exact ⟨⟨⟨⟨⟨⟨⟨⟨hasks .procs, hasks .ports⟩, hasks .mem⟩, hasks .startTime⟩, hasks .cpuTime⟩,
    hasks .uid⟩, hasks .cwd⟩, hasks .status⟩, hasks .argv⟩

section Parse

variable {L : Lexopt} {ready finished : L.Parser → List Bytes → Prop} {pending : L.Parser → Prop}

/-- A scope, its pids and the flags. -/
theorem parse_scoped (hL : L.Lawful ready finished pending) (flag : ScopeFlag) {pids : List Nat}
    (hne : pids ≠ []) (hpids : ∀ n ∈ pids, 1 ≤ n ∧ n < 2 ^ 32) (facets : SnapshotFacets) :
    parse L ((snapshotArgs flag.arg pids facets).map Utf8.encode)
      = some ((finishSnapshot { flag.gathered (pids.map UInt32.ofNat) with
          out := (Flag.all.filter facets).foldl SnapshotArgs.set
            (flag.gathered (pids.map UInt32.ofNat)).out }).map .snapshot) := by
  have hargs : (snapshotArgs flag.arg pids facets).map Utf8.encode
      = Utf8.encode "snapshot".toList :: Utf8.encode flag.arg :: Utf8.encode (joinPids pids) ::
        (Flag.all.filter facets).map (fun f => Utf8.encode (SNAPSHOT_FACET_NAMES f).arg) := by
    simp [snapshotArgs, appendSnapshotFacets, Function.comp_def]
  obtain ⟨p, hready, hparse⟩ := parse_snapshot hL (Utf8.encode flag.arg ::
    Utf8.encode (joinPids pids) ::
    (Flag.all.filter facets).map (fun f => Utf8.encode (SNAPSHOT_FACET_NAMES f).arg))
  obtain ⟨fuel, hfuel⟩ := exists_parseFuel (Utf8.encode "snapshot".toList ::
    Utf8.encode flag.arg :: Utf8.encode (joinPids pids) ::
    (Flag.all.filter facets).map (fun f => Utf8.encode (SNAPSHOT_FACET_NAMES f).arg))
    (n := (Flag.all.filter facets).length + 2) (by simp)
  obtain ⟨p', hready', hloop⟩ := loop_scope hL flag hne hpids hready
    (fuel + (Flag.all.filter facets).length + 1)
  rw [hargs, hparse, hfuel, ← Nat.add_assoc, parseSnapshot, hloop, loop_flags hL _ hready']
  rfl

/-- What `parse` makes of the command line of a call. -/
theorem parse_argv (hL : L.Lawful ready finished pending) {verb : SnapshotVerb}
    (hne : ¬ verb.Empty) (hrange : verb.InRange) (facets : SnapshotFacets) :
    parse L ((verb.argv facets).map Utf8.encode)
      = some ((finishSnapshot (verb.asked facets)).map .snapshot) := by
  cases verb with
  | subtree rootPids => exact parse_scoped hL .roots hne hrange facets
  | pids list => exact parse_scoped hL .pids hne hrange facets
  | host =>
      have hargs : ((SnapshotVerb.host).argv facets).map Utf8.encode
          = Utf8.encode "snapshot".toList ::
            (Flag.all.filter facets).map (fun f => Utf8.encode (SNAPSHOT_FACET_NAMES f).arg) := by
        simp [argv, appendSnapshotFacets, Function.comp_def]
      obtain ⟨p, hready, hparse⟩ := parse_snapshot hL
        ((Flag.all.filter facets).map (fun f => Utf8.encode (SNAPSHOT_FACET_NAMES f).arg))
      obtain ⟨fuel, hfuel⟩ := exists_parseFuel (Utf8.encode "snapshot".toList ::
        (Flag.all.filter facets).map (fun f => Utf8.encode (SNAPSHOT_FACET_NAMES f).arg))
        (n := (Flag.all.filter facets).length + 1) (by simp)
      rw [hargs, hparse, hfuel, ← Nat.add_assoc, parseSnapshot, loop_flags hL _ hready]
      rfl

end Parse

end SnapshotVerb

/-! ## The answer of a snapshot call -/

section Answers

variable {L : Lexopt} {ready finished : L.Parser → List Bytes → Prop} {pending : L.Parser → Prop}
variable {J : JsonLib} {F : FloatLib} {W : JsonWriters F} {platform : Platform F}
variable {rt : Runtime} {bin : Text}

/-- The document the platform has for a call. -/
def SnapshotVerb.document (platform : Platform F) (facets : SnapshotFacets)
    (verb : SnapshotVerb) : Snapshot :=
  take (platform.snapshot (.ofAsk verb.scope facets))

/-- A call that names no process spawns nothing. -/
theorem call_of_empty {verb : SnapshotVerb} (h : verb.Empty) (facets : SnapshotFacets) :
    verb.call rt J bin facets = .succeed emptySnapshotReading := by
  cases verb with
  | host => exact h.elim
  | subtree rootPids => exact if_pos (List.length_eq_zero_iff.mpr h)
  | pids list => exact if_pos (List.length_eq_zero_iff.mpr h)

theorem call_of_not_empty {verb : SnapshotVerb} (h : ¬ verb.Empty) (facets : SnapshotFacets) :
    verb.call rt J bin facets = rt.snapshot J bin (verb.argv facets) := by
  cases verb with
  | host => rfl
  | subtree rootPids => exact if_neg (fun hlength => h (List.length_eq_zero_iff.mp hlength))
  | pids list => exact if_neg (fun hlength => h (List.length_eq_zero_iff.mp hlength))

/-- The twins of the snapshot of some pids. -/
theorem snapshotPidsSync_eq (rt : Runtime) (J : JsonLib) (bin : Text) (pids : List Nat)
    (facets : SnapshotFacets) :
    rt.snapshotPidsSync J bin pids facets = rt.snapshotPids J bin pids facets := by
  rw [Runtime.snapshotPidsSync, Runtime.snapshotPids, runOsfactsSync_eq]
  rfl

/-- A call for some facet is read from the document of the sensor. -/
theorem call_of_asked (hL : L.Lawful ready finished pending) {verb : SnapshotVerb}
    {facets : SnapshotFacets} (h : rt.Serves bin L J W platform (verb.argv facets))
    (hne : ¬ verb.Empty) (hrange : verb.InRange) {f : Flag} (hf : facets f = true) :
    verb.call rt J bin facets = ⟨[(bin, verb.argv facets)],
      parseSnapshotOutput J (writeTsv J (verb.document platform facets))⟩ := by
  have hmain : main L J W platform ((verb.argv facets).map Utf8.encode)
      = some (emit J W.snapshot (verb.document platform facets) false) := by
    rw [main, verb.parse_argv hL hne hrange, verb.finish_asked hf]
    rfl
  rw [call_of_not_empty hne, Runtime.snapshot,
    runOsfacts_emit h hmain (writeTsv_snapshot_version J _), Call.andThen_ok]

theorem call_of_nothing (hL : L.Lawful ready finished pending) {verb : SnapshotVerb}
    {facets : SnapshotFacets} (h : rt.Serves bin L J W platform (verb.argv facets))
    (hne : ¬ verb.Empty) (hrange : verb.InRange) (hfacets : ∀ f, facets f = false) :
    ∃ failure, verb.call rt J bin facets
      = ⟨[(bin, verb.argv facets)], .error (.spawn failure)⟩ := by
  have hparse : parse L ((verb.argv facets).map Utf8.encode)
      = some (.error (.usage (withHelp "at least one snapshot facet required".toList))) := by
    rw [verb.parse_argv hL hne hrange, verb.finish_nothing hfacets]
    rfl
  obtain ⟨failure, hfailure⟩ := runOsfacts_usage h hparse
  refine ⟨failure, ?_⟩
  rw [call_of_not_empty hne, Runtime.snapshot, hfailure, Call.andThen_error]

/-- **A snapshot call is the sensor's answer.** Whatever the platform, the scope and the facets,
where the child of the call runs to its exit: a call that names no process is the empty reading,
without a child; a call for no facet is the failure of one child; every other call spawns one
child, and reads off it exactly the ordered document of the platform's sensor, whenever that
document is one the format can carry. The sync twin does the same. -/
theorem snapshot_call_answer (hL : L.Lawful ready finished pending) (hJ : J.Lawful)
    {verb : SnapshotVerb} (hrange : verb.InRange) {facets : SnapshotFacets}
    (h : rt.Serves bin L J W platform (verb.argv facets)) :
    (verb.Empty → verb.call rt J bin facets = .succeed emptySnapshotReading) ∧
    (¬ verb.Empty → (∀ f, facets f = false) → ∃ failure, verb.call rt J bin facets
      = ⟨[(bin, verb.argv facets)], .error (.spawn failure)⟩) ∧
    (¬ verb.Empty → (∃ f, facets f = true) → (verb.document platform facets).Wire →
      verb.call rt J bin facets
        = ⟨[(bin, verb.argv facets)], .ok (verb.document platform facets).view⟩) ∧
    ∀ pids, verb = .pids pids →
      rt.snapshotPidsSync J bin pids facets = verb.call rt J bin facets := by
  refine ⟨fun hempty => call_of_empty hempty facets,
    fun hne hnothing => call_of_nothing hL h hne hrange hnothing,
    fun hne ⟨f, hf⟩ hwire => ?_, ?_⟩
  · rw [call_of_asked hL h hne hrange hf, parseSnapshotOutput_writeTsv hJ hwire]
  · rintro pids rfl
    exact snapshotPidsSync_eq rt J bin pids facets

end Answers

/-! ## A machine to call -/

/-- The runtime of a machine on which one path leads to the program. -/
def Client.Runtime.of (bin : Text) (L : Lexopt) (J : JsonLib) {F : FloatLib} (W : JsonWriters F)
    (platform : Platform F) : Runtime where
  child path args :=
    if path = bin then
      match main L J W platform (args.map Utf8.encode) with
      | some exit => ⟨.exited exit.code, stdoutText exit.stdout, exit.stderr, false⟩
      | none => ⟨.signalled "SIGKILL".toList, [], [], true⟩
    else ⟨.unspawned "ENOENT".toList, [], [], false⟩
  env _ := none

theorem runtime_of_serves {bin : Text} (hbin : bin ≠ []) (L : Lexopt) (J : JsonLib) {F : FloatLib}
    (W : JsonWriters F) (platform : Platform F) {args : List Text}
    (hargs : ∀ arg ∈ bin :: args, Char.ofNat 0 ∉ arg) :
    (Runtime.of bin L J W platform).Serves bin L J W platform args where
  bin_ne_nil := hbin
  nul_free := hargs
  child exit hmain := by
    refine ⟨false, ?_⟩
    show (if bin = bin then _ else _) = _
    rw [if_pos rfl, hmain]

/-- Serializers that nothing here asks for. -/
def noWriters (F : FloatLib) : JsonWriters F := ⟨fun _ => [], fun _ => [], fun _ => []⟩

/-- Arithmetic on load numbers that are naturals. -/
def naturalF64 : Linux.F64Lib naturalFloats where
  parse t := if Decimal.isNumeral t then some (Decimal.value t) else none
  isFinite _ := true
  isNegative _ := false
  roundU64 n := UInt64.ofNat n

/-- A Linux machine that booted at second 1700000000. Process 7 has 25 resident pages and two
threads, started a second after the boot, and has the socket open that is bound to `/run/a.sock`;
process 9 is its child. -/
def runningOs : Os :=
  Os.ofTables
    [("/proc/stat".toList, ascii "cpu 0\nbtime 1700000000\n"),
      ("/proc/7/stat".toList, ascii "7 (sh) S 1 7 7 0 -1 4 0 0 0 0 0 0 0 0 20 0 2 0 100 0 25"),
      ("/proc/9/stat".toList, ascii "9 (nap) R 7 7 7 0 -1 4 0 0 0 0 0 0 0 0 20 5 1 0 200 0 3"),
      ("/proc/7/task/7/children".toList, ascii "9 "),
      ("/proc/9/task/9/children".toList, []),
      ("/proc/net/unix".toList, ascii ("Num RefCount Protocol Flags Type St Inode Path\n"
        ++ "0000000000000000: 00000002 00000000 00010000 0001 01 10 /run/a.sock\n"))]
    [("/proc/7/task".toList, [ascii "7"]), ("/proc/9/task".toList, [ascii "9"]),
      ("/proc/7/fd".toList, [ascii "0", ascii "3"]), ("/proc/9/fd".toList, [])]
    [("/proc/7/fd/0".toList, ascii "/dev/null"), ("/proc/7/fd/3".toList, ascii "socket:[10]")]
    [7, 9] (by decide) (by decide)

def runningHost : System naturalFloats :=
  .linux naturalF64 { runningOs with statvfsRoot := .error Libc.EPERM }

def runningMachine : Runtime :=
  .of "osfacts".toList .standard .standard (noWriters naturalFloats) runningHost.platform

theorem runningMachine_serves {args : List Text}
    (hargs : ∀ arg ∈ "osfacts".toList :: args, Char.ofNat 0 ∉ arg) :
    runningMachine.Serves "osfacts".toList .standard .standard (noWriters naturalFloats)
      runningHost.platform args :=
  runtime_of_serves (by decide) _ _ _ _ hargs

/-- The memory of a process, its start and its status. -/
def vitals : SnapshotFacets := fun f => f == .mem || f == .startTime || f == .status

/-- What there is to tell of process 7. -/
def runningDocument : Snapshot :=
  { Snapshot.new with
    memory := [⟨7, 102400⟩]
    startTimes := [⟨7, 1700000001000000⟩]
    statuses := [⟨7, 'S', 0, some 2⟩] }

theorem document_running :
    (SnapshotVerb.pids [7]).document runningHost.platform vitals = runningDocument := rfl

theorem runningDocument_wire : runningDocument.Wire :=
  ⟨rfl, List.forall_mem_nil _, List.forall_mem_singleton.mpr (by unfold Memory.Wire; decide),
    List.forall_mem_singleton.mpr (by unfold StartTime.Wire; decide), List.forall_mem_nil _,
    List.forall_mem_singleton.mpr ⟨by decide, by decide⟩, List.forall_mem_nil _,
    List.forall_mem_nil _, List.forall_mem_nil _⟩

theorem snapshot_call_sample :
    (SnapshotVerb.pids [7]).call runningMachine .standard "osfacts".toList vitals
      = ⟨[("osfacts".toList, ["snapshot".toList, "--pids".toList, "7".toList,
          "--mem".toList, "--start-time".toList, "--status".toList])],
        .ok runningDocument.view⟩ := by
  have hrange : (SnapshotVerb.pids [7]).InRange := by
    show ∀ n ∈ [7], 1 ≤ n ∧ n < 2 ^ 32
    decide
  have hargs : ∀ arg ∈ "osfacts".toList :: (SnapshotVerb.pids [7]).argv vitals,
      Char.ofNat 0 ∉ arg := by decide
  have hserves := runningMachine_serves hargs
  have hcall := (snapshot_call_answer Lexopt.standard_lawful JsonLib.standard_lawful hrange
    hserves).2.2.1 (List.cons_ne_nil 7 []) ⟨.mem, rfl⟩
  rw [document_running] at hcall
  exact hcall runningDocument_wire

end Osfacts
