import Osfacts.Contract.Parts
import Osfacts.Contract.PcblistRows
import Osfacts.Contract.Refusals
import Osfacts.Contract.Supervisor

set_option autoImplicit false

/-! # All of a snapshot, or an error

Of a document that is framed the client reads everything or nothing: one integer it cannot hold,
one task without threads, or one listener in the name of the pid 0 costs the whole document. What
a sensor builds is always framed, so this is its verdict on every call of every platform.
-/

namespace Osfacts

open Client Linux

/-! ## Integers that are too large -/

theorem integer_refused {n : Nat} (h : ¬ n ≤ MAX_SAFE_INTEGER) (what : String) :
    ∃ e, integer (some (Decimal.decimal n)) what = .error e := by
  simp only [integer, numeric, Decimal.isNumeral_decimal, Decimal.value_decimal, if_true]
  rw [if_neg (by simpa using h)]
  exact ⟨_, rfl⟩

/-- Two number columns of which the second is too large. -/
theorem twoIntegers_refused {α : Type} (pid : Pid) {n : Nat} (h : ¬ n ≤ MAX_SAFE_INTEGER)
    (whatA whatB : String) (build : Nat → Nat → α) :
    ∃ e, (do
      let x ← integer (some (Decimal.decimal pid.toNat)) whatA
      let y ← integer (some (Decimal.decimal n)) whatB
      pure (build x y)) = .error e := by
  obtain ⟨e, he⟩ := integer_refused h whatB
  refine ⟨e, ?_⟩
  rw [integer_uint32]
  show (integer (some (Decimal.decimal n)) whatB >>= _) = _
  rw [he]
  rfl

theorem snapshotRow_memory_refused {m : Memory} (h : ¬ m.Wire) (J : JsonLib)
    (out : SnapshotReading) : ∃ e, snapshotRow J out (tsvLine m.row) = .error e := by
  rw [snapshotRow, splitOn_tsvLine m.rowOk]
  exact twoIntegers_refused m.pid h "memory pid" "rss"
    (fun pid rss => { out with memory := out.memory ++ [MemoryRow.mk pid rss] })

theorem snapshotRow_cpuTime_refused {c : ProcessCpuTime} (h : ¬ c.Wire) (J : JsonLib)
    (out : SnapshotReading) : ∃ e, snapshotRow J out (tsvLine c.row) = .error e := by
  rw [snapshotRow, splitOn_tsvLine c.rowOk]
  exact twoIntegers_refused c.pid h "cpu-time pid" "cumulative cpu time"
    (fun pid us => { out with cpuTimes := out.cpuTimes ++ [ProcessCpuTimeRow.mk pid us] })

/-! ## The verdict -/

/-- The client can hold every value of the document. -/
structure Snapshot.Holdable (s : Snapshot) : Prop where
  integers : SafeIntegers s
  threads : ∀ t ∈ s.statuses, t.threads ≠ some 0
  claims : ∀ l ∈ s.ports, l.attribution ≠ .claimed 0

section Verdict

variable {J : JsonLib} {s : Snapshot}

theorem attribution_wire_iff {a : Attribution} : a.Wire ↔ a ≠ .claimed 0 := by
  cases a with
  | unclaimed => exact iff_of_true True.intro nofun
  | claimed pid => exact not_congr (by rw [Attribution.claimed.injEq])

theorem Snapshot.Holdable.wire (h : s.Holdable) (hversion : s.version = SCHEMA_VERSION)
    (hframed : s.Framed) : s.Wire :=
  ⟨hversion, hframed.procs, h.integers.memory, h.integers.startTimes, h.integers.cpuTimes,
    fun t ht => ⟨hframed.statuses t ht, h.threads t ht⟩,
    fun l hl => (hframed.ports l hl).wire (attribution_wire_iff.mpr (h.claims l hl)),
    hframed.unreadable, hframed.errors⟩

/-- One row that cannot be read costs the document. -/
theorem refused_of_bodyRow (hJ : J.Lawful) (hversion : s.version = SCHEMA_VERSION)
    (hframed : s.Framed) {row : List Text} (hrow : row ∈ s.bodyRows J)
    (h : ∀ out, ∃ e, snapshotRow J out (tsvLine row) = .error e) :
    ∃ e, parseSnapshotOutput J (writeTsv J s) = .error e := by
  rw [parseSnapshotOutput_eq_foldlM hJ hversion hframed]
  exact foldlM_of_unreadable hrow h emptySnapshotReading

theorem refused_of_not_holdable (hJ : J.Lawful) (hversion : s.version = SCHEMA_VERSION)
    (hframed : s.Framed) (h : ¬ s.Holdable) :
    ∃ e, parseSnapshotOutput J (writeTsv J s) = .error e := by
  by_cases hmemory : ∀ m ∈ s.memory, m.Wire
  · by_cases hstart : ∀ t ∈ s.startTimes, t.Wire
    · by_cases hcpu : ∀ c ∈ s.cpuTimes, c.Wire
      · by_cases hthreads : ∀ t ∈ s.statuses, t.threads ≠ some 0
        · by_cases hclaims : ∀ l ∈ s.ports, l.attribution ≠ .claimed 0
          · exact absurd ⟨⟨hmemory, hstart, hcpu⟩, hthreads, hclaims⟩ h
          · push Not at hclaims
            obtain ⟨l, hl, hzero⟩ := hclaims
            exact refused_of_bodyRow hJ hversion hframed
              (by simp [Snapshot.bodyRows, List.mem_map_of_mem hl])
              (snapshotRow_port_of_zero (hframed.ports l hl)
                (fun hwire => attribution_wire_iff.mp hwire hzero) J)
        · push Not at hthreads
          obtain ⟨t, ht, hzero⟩ := hthreads
          exact refused_of_bodyRow hJ hversion hframed
            (by simp [Snapshot.bodyRows, List.mem_map_of_mem ht])
            (snapshotRow_status_of_zero (hframed.statuses t ht) hzero J)
      · push Not at hcpu
        obtain ⟨c, hc, hlarge⟩ := hcpu
        exact refused_of_bodyRow hJ hversion hframed
          (by simp [Snapshot.bodyRows, List.mem_map_of_mem hc])
          (snapshotRow_cpuTime_refused hlarge J)
    · push Not at hstart
      obtain ⟨t, ht, hlarge⟩ := hstart
      exact refused_of_bodyRow hJ hversion hframed
        (by simp [Snapshot.bodyRows, List.mem_map_of_mem ht])
        (snapshotRow_startTime_refused hlarge J)
  · push Not at hmemory
    obtain ⟨m, hm, hlarge⟩ := hmemory
    exact refused_of_bodyRow hJ hversion hframed
      (by simp [Snapshot.bodyRows, List.mem_map_of_mem hm])
      (snapshotRow_memory_refused hlarge J)

/-- What the client makes of a framed document: all of it, or a parse error. -/
theorem verdict_of_framed (hJ : J.Lawful) (hversion : s.version = SCHEMA_VERSION)
    (hframed : s.Framed) :
    (s.Holdable ∧ parseSnapshotOutput J (writeTsv J s) = .ok s.view) ∨
    ¬ s.Holdable ∧ ∃ message, parseSnapshotOutput J (writeTsv J s) = .error (.parse message) := by
  by_cases h : s.Holdable
  · exact Or.inl ⟨h, parseSnapshotOutput_writeTsv hJ (h.wire hversion hframed)⟩
  · obtain ⟨e, he⟩ := refused_of_not_holdable hJ hversion hframed h
    have honly : ParseOnly (parseSnapshotOutput J (writeTsv J s)) := by
      rw [parseSnapshotOutput_eq_foldlM hJ hversion hframed]
      exact parseOnly_foldlM _ (fun out row => snapshotRow_parseOnly out (tsvLine row)) _
    obtain ⟨message, rfl⟩ := honly e he
    exact Or.inr ⟨h, message, he⟩

end Verdict

/-! ## What the darwin sensor builds -/

namespace Darwin

/-- A listener the walk finds has a port, and an address the client can read. -/
theorem listenerOfSocket_printable {psi : SocketInfo} {row : Pcblist.HostListener}
    (h : listenerOfSocket psi = some row) : Pcblist.Printable row := by
  unfold listenerOfSocket at h
  simp only [] at h
  split_ifs at h with _ _ hport
  obtain rfl := Option.some.inj h
  apply Pcblist.printable_of_port hport
  have hlength := psi.priTcp.insiLaddr_length
  unfold slotAddress
  split
  · exact Pcblist.printableAddress_hexBytes (Or.inl (by simp [hlength]))
  · exact Pcblist.printableAddress_hexBytes (Or.inr hlength)

theorem listenerClaims_printable {os : Os} {pid : Pid} {rows : List Pcblist.HostListener}
    (h : listenerClaims os pid = .ok rows) : ∀ row ∈ rows, Pcblist.Printable row := by
  unfold listenerClaims at h
  obtain ⟨fds, -, h⟩ := bind_ok_iff.mp h
  obtain rfl := Except.ok.inj h
  intro row hrow
  obtain ⟨fd, -, hfd⟩ := List.mem_filterMap.mp hrow
  obtain ⟨psi, -, hpsi⟩ := Option.bind_eq_some_iff.mp hfd
  exact listenerOfSocket_printable hpsi

theorem eq_ok_of_withoutPanic {α : Type} {r : Except Stop α} {h : r ≠ .error .panic} {a : α}
    (hok : withoutPanic r h = .ok a) : r = .ok a := by
  cases r with
  | ok b =>
      cases hok
      rfl
  | error stop =>
      cases stop with
      | errno err => cases hok
      | panic => exact absurd rfl h

theorem hostListeners_printable (os : Os) :
    ∀ row ∈ (hostListeners os).toOption.getD [], Pcblist.Printable row := by
  cases hlist : hostListeners os with
  | error err => exact List.forall_mem_nil _
  | ok rows =>
      unfold hostListeners at hlist
      obtain ⟨buffer, -, hdecode⟩ := bind_ok_iff.mp hlist
      have hrows := eq_ok_of_withoutPanic hdecode
      rw [Pcblist.decode_eq] at hrows
      split_ifs at hrows
      obtain rfl := Except.ok.inj hrows
      obtain ⟨stop, hroomy⟩ := Pcblist.roomy_rows buffer
      exact hroomy.printable

/-- The pids that are named are processes. -/
def Positive : Scope → Prop
  | .pids pids => 0 ∉ pids
  | _ => True

section Document

variable {os : Os} {args : SnapshotArgs} {table : ProcessTable}

theorem zero_not_mem_wanted (htable : readProcessTable os = .ok table) {scope : Scope}
    (hscope : Positive scope) : 0 ∉ wanted scope table := by
  intro hzero
  by_cases hpids : ∃ pids, scope = .pids pids
  · obtain ⟨pids, rfl⟩ := hpids
    exact hscope hzero
  · have hhas := has_of_wanted (fun pids heq => hpids ⟨pids, heq⟩) hzero
    exact (readProcessTable_pids htable).2 0 hhas rfl

/-- A row of the listeners: from the table or from the walk of a selected pid. -/
theorem ports_framed (htable : readProcessTable os = .ok table) :
    ∀ l ∈ (snapshot os args).ports, l.Framed := by
  intro l hl
  rw [(snapshot_eq args htable).2.1] at hl
  split_ifs at hl
  · obtain ⟨key, hkey, rfl⟩ := Pcblist.mem_attributeHostListeners.mp hl
    have hprintable : Pcblist.Printable key := by
      rcases hkey with hkey | hkey
      · exact hostListeners_printable os key hkey
      · obtain ⟨pid, -, hheard⟩ := mem_keys_claimsOf.mp hkey
        have hheard := of_decide_eq_true hheard
        unfold heard at hheard
        split at hheard
        · exact listenerClaims_printable ‹_› key hheard
        · cases hheard
    refine ⟨fun hzero => ?_, hprintable.address_length, hprintable.address_hex⟩
    have hport := hprintable.port
    rw [show key.1 = 0 from hzero] at hport
    exact absurd hport (by decide)
  · cases hl

/-- A claim is made by a selected pid. -/
theorem claims_positive (htable : readProcessTable os = .ok table) (hscope : Positive args.scope) :
    ∀ l ∈ (snapshot os args).ports, l.attribution ≠ .claimed 0 := by
  intro l hl
  rw [(snapshot_eq args htable).2.1] at hl
  split_ifs at hl
  · obtain ⟨key, -, rfl⟩ := Pcblist.mem_attributeHostListeners.mp hl
    intro hclaim
    change ((claimsOf (listenerClaims os) (wanted args.scope table)).lookup key).elim
      Attribution.unclaimed .claimed = .claimed 0 at hclaim
    cases hlookup : (claimsOf (listenerClaims os) (wanted args.scope table)).lookup key with
    | none =>
        rw [hlookup] at hclaim
        cases hclaim
    | some pid =>
        rw [hlookup, Option.elim_some, Attribution.claimed.injEq] at hclaim
        rw [lookup_claimsOf] at hlookup
        exact zero_not_mem_wanted htable hscope (hclaim ▸ List.mem_of_find?_eq_some hlookup)
  · cases hl

theorem plain_darwinState {status : UInt32} {state : Char} (h : darwinState status = .ok state) :
    Plain [state] := by
  unfold darwinState at h
  split_ifs at h
  all_goals
    obtain rfl := Except.ok.inj h
    decide

/-- A status row: one of five states, and no threads or some. -/
theorem statuses_ok (htable : readProcessTable os = .ok table) :
    ∀ t ∈ (snapshot os args).statuses, Plain [t.state] ∧ t.threads ≠ some 0 := by
  intro t ht
  change t ∈ (snapshot os args).table .status at ht
  rw [(snapshot_eq args htable).1 .status (by decide), List.mem_flatMap] at ht
  obtain ⟨pid, -, ht⟩ := ht
  rw [mem_facts, reading, Option.ite_none_right_eq_some, Option.some.injEq, readStatus] at ht
  obtain ⟨row, -, ht⟩ := bind_ok_iff.mp ht.2
  obtain ⟨state, hstate, ht⟩ := bind_ok_iff.mp ht
  obtain rfl := Except.ok.inj ht
  constructor
  · exact plain_darwinState hstate
  · intro hzero
    obtain ⟨task, -, hthreads⟩ := Option.bind_eq_some_iff.mp hzero
    unfold threadsOf at hthreads
    split_ifs at hthreads with hpos
    have hnumber : task.ptiThreadnum ≠ 0 := by
      rintro heq
      rw [heq] at hpos
      exact absurd hpos (by decide)
    exact toUInt32_ne_zero hnumber (Option.some.inj hthreads)

end Document

/-- What darwin builds is framed. -/
theorem snapshot_framed (os : Os) (args : SnapshotArgs) : (take (snapshot os args)).Framed := by
  have hshared := (snapshot_shared os args).normalize
  cases htable : readProcessTable os with
  | error err =>
      refine ⟨hshared.procs, ?_, ?_, hshared.unreadable, hshared.errors⟩
      · show ∀ t ∈ sortByKey _ (snapshot os args).statuses, _
        rw [snapshot_of_error htable]
        exact List.forall_mem_nil _
      · show ∀ l ∈ sortByKey portKey (snapshot os args).ports, _
        rw [snapshot_of_error htable]
        exact List.forall_mem_nil _
  | ok table =>
      exact ⟨hshared.procs, fun t ht => (statuses_ok htable t (mem_sortByKey.mp ht)).1,
        fun l hl => ports_framed htable l (mem_sortByKey.mp hl), hshared.unreadable,
        hshared.errors⟩

/-- It counts threads where there are some, and names processes. -/
theorem holdable_iff (os : Os) {args : SnapshotArgs} (hscope : Positive args.scope) :
    (take (snapshot os args)).Holdable ↔ SafeIntegers (take (snapshot os args)) := by
  refine ⟨Snapshot.Holdable.integers, fun hsafe => ⟨hsafe, ?_, ?_⟩⟩
  · show ∀ t ∈ sortByKey _ (snapshot os args).statuses, _
    cases htable : readProcessTable os with
    | error err =>
        rw [snapshot_of_error htable]
        exact List.forall_mem_nil _
    | ok table => exact fun t ht => (statuses_ok htable t (mem_sortByKey.mp ht)).2
  · show ∀ l ∈ sortByKey portKey (snapshot os args).ports, _
    cases htable : readProcessTable os with
    | error err =>
        rw [snapshot_of_error htable]
        exact List.forall_mem_nil _
    | ok table => exact fun l hl => claims_positive htable hscope l (mem_sortByKey.mp hl)

end Darwin

/-! ## The verdict on a call -/

section Calls

variable {L : Lexopt} {ready finished : L.Parser → List Bytes → Prop} {pending : L.Parser → Prop}
variable {J : JsonLib} {F : FloatLib} {W : JsonWriters F} {system : System F}
variable {rt : Runtime} {bin : Text}

theorem zero_not_mem_named {pids : List Nat} (h : ∀ n ∈ pids, 1 ≤ n ∧ n < 2 ^ 32) :
    0 ∉ pids.map UInt32.ofNat := by
  intro hzero
  obtain ⟨n, hn, heq⟩ := List.mem_map.mp hzero
  have hnat := congrArg UInt32.toNat heq
  rw [UInt32.toNat_ofNat_of_lt' (h n hn).2, UInt32.toNat_zero] at hnat
  have hpos := (h n hn).1
  omega

theorem positive_scope {verb : SnapshotVerb} (h : verb.InRange) : Darwin.Positive verb.scope := by
  cases verb with
  | host => exact True.intro
  | subtree rootPids => exact True.intro
  | pids list => exact zero_not_mem_named h

theorem document_framed (system : System F) (verb : SnapshotVerb) (facets : SnapshotFacets) :
    (verb.document system.platform facets).version = SCHEMA_VERSION ∧
    (verb.document system.platform facets).Framed := by
  cases system with
  | linux E os => exact ⟨version_snapshot, Linux.snapshot_framed os.toOs _⟩
  | darwin os =>
      exact ⟨(Darwin.snapshot_shared os.toOs _).version_eq, Darwin.snapshot_framed os.toOs _⟩
  | unsupported =>
      exact ⟨rfl, List.forall_mem_nil _, List.forall_mem_nil _, List.forall_mem_nil _,
        List.forall_mem_nil _, List.forall_mem_nil _⟩

end Calls

/-- What there is to tell of process 7 and of its child. -/
def familyDocument : Snapshot :=
  { Snapshot.new with
    memory := [⟨7, 102400⟩, ⟨9, 12288⟩]
    startTimes := [⟨7, 1700000001000000⟩, ⟨9, 1700000002000000⟩]
    statuses := [⟨7, 'S', 0, some 2⟩, ⟨9, 'R', 5, some 1⟩] }

theorem collectPids_running :
    collectPids runningOs (.roots [7]) Snapshot.new = (Snapshot.new, .ok [7, 9]) := by
  have hwalk : descend (graphOf runningOs) 7 {7} [7] = (.ok (), ⟨[], {9, 7}, [7, 9]⟩) := by
    show Walk.walk (childrenOf runningOs) ⟨[7], {7}, [7]⟩ = _
    rw [Walk.walk_ok rfl (show childrenOf runningOs 7 = .ok [9] from rfl)]
    show Walk.walk (childrenOf runningOs) ⟨[9], {9, 7}, [7, 9]⟩ = _
    rw [Walk.walk_ok rfl (show childrenOf runningOs 9 = .ok [] from rfl)]
    exact Walk.walk_nil rfl
  have hroot : collectRoot (graphOf runningOs) ⟨∅, [], Snapshot.new.unreadable⟩ 7
      = ⟨{9, 7}, [7, 9], []⟩ := by
    have hstart : descend (graphOf runningOs) 7 (insert 7 ∅) ([] ++ [7])
        = (.ok (), ⟨[], {9, 7}, [7, 9]⟩) := hwalk
    rw [collectRoot, if_neg (by decide), if_neg (by decide), hstart]
    rfl
  simp only [collectPids, collectRoots, List.foldl_cons, List.foldl_nil, hroot]
  rfl

theorem document_family :
    (SnapshotVerb.subtree [7]).document runningHost.platform vitals = familyDocument := by
  have hcollect : collectPids runningOs (SnapshotArgs.ofAsk (.roots [7]) vitals).scope Snapshot.new
      = (Snapshot.new, .ok [7, 9]) := collectPids_running
  show take (Linux.snapshot runningOs (.ofAsk (.roots [7]) vitals)) = _
  rw [Linux.snapshot, hcollect]
  rfl

end Osfacts
