import Osfacts.Contract.Account
import Osfacts.Contract.RoundTrip

set_option autoImplicit false

/-! # The client accepts what the sensor builds

The range of each Linux reader lies in the domain of the client's check on the same column.
The one value outside is a thread count of zero, and one such row costs the whole document.
-/

namespace Osfacts

/-! ## Columns -/

theorem errnoName_ne_nil [Libc] (err : Errno) : errnoName err ≠ [] := by
  unfold errnoName
  split_ifs
  all_goals first | decide | skip
  cases err with
  | ofNat n => exact Decimal.decimal_ne_nil n
  | negSucc n => exact List.cons_ne_nil _ _

theorem plain_errnoName [Libc] (err : Errno) : Plain (errnoName err) := by
  unfold errnoName
  split_ifs
  all_goals first | decide | exact plain_signedDecimal err

theorem plain_sanitizeName (name : Text) : Plain (sanitizeName name) := by
  have hclean : ∀ c ∈ sanitizeName name, c ≠ '\t' ∧ c ≠ '\n' := by
    intro c hc
    obtain ⟨d, -, rfl⟩ := List.mem_map.mp hc
    split_ifs with h
    · decide
    · rw [not_or, not_or] at h
      exact ⟨h.1, h.2.1⟩
  exact ⟨fun h => (hclean _ h).1 rfl, fun h => (hclean _ h).2 rfl⟩

theorem sourceError_wire [Libc] {facets : List Facet} {source : String} {facet : Facet}
    {err : Errno} (hfacet : facet ∈ facets) (hne : source.toList ≠ [])
    (hplain : Plain source.toList) :
    (sourceError source facet err).Wire facets :=
  ⟨hfacet, hne, hplain, errnoName_ne_nil err, plain_errnoName err⟩

theorem unreadable_wire [Libc] (pid : Pid) (f : Flag) (err : Errno) :
    Unreadable.Wire ⟨pid, f.facet, errnoName err⟩ := by
  have hfacet : f.facet ∈ Facet.UNREADABLE := by cases f <;> decide
  exact ⟨hfacet, errnoName_ne_nil err, plain_errnoName err⟩

theorem facet_mem_source (f : Flag) : f.facet ∈ Facet.SNAPSHOT_SOURCE := by cases f <;> decide

/-! ## Addresses -/

theorem isLowerHex_hexChar :
    ∀ n, n < 16 → ((Json.hexChar n).isDigit ||
      ('a' ≤ Json.hexChar n && Json.hexChar n ≤ 'f')) = true := by
  decide

theorem isLowerHex_hexBytes {bytes : Bytes} (hne : bytes ≠ []) :
    Client.isLowerHex (hexBytes bytes) = true := by
  have hlength := hexBytes_length bytes
  have hpos := List.length_pos_iff.mpr hne
  rw [Client.isLowerHex, Bool.and_eq_true, List.all_eq_true]
  constructor
  · cases hhex : hexBytes bytes with
    | nil =>
        rw [hhex, List.length_nil] at hlength
        omega
    | cons c t => rfl
  · intro c hc
    obtain ⟨b, -, hb⟩ := List.mem_flatMap.mp hc
    have hlt := b.toNat_lt
    simp only [List.mem_cons, List.not_mem_nil, or_false] at hb
    rcases hb with rfl | rfl
    · exact isLowerHex_hexChar _ (by omega)
    · exact isLowerHex_hexChar _ (by omega)

namespace Linux

/-- A decoded address has four bytes for each eight digits. -/
theorem length_decodeProcHex {hex : Text} {addr : Bytes} (h : decodeProcHex hex = some addr) :
    addr.length = 4 ∨ addr.length = 16 := by
  unfold decodeProcHex at h
  split_ifs at h with hshape
  rw [not_or, not_and_or, not_not, not_not] at hshape
  have hlength := (mapM_some_iff.mp h).length_eq.symm
  -- one byte for each pair of digits
  have hwords : ∀ n, ((List.range n).flatMap
      (fun word => [3, 2, 1, 0].map (fun byte => word * 8 + byte * 2))).length = n * 4 := by
    intro n
    simp [List.length_flatMap]
  rw [hwords] at hlength
  rcases hshape.1 with hlen | hlen
  · exact Or.inl (by rw [hlength, hlen])
  · exact Or.inr (by rw [hlength, hlen])

/-- A listener of a table: a port, and an address the client can read. -/
structure ListenerOk (l : Listener) : Prop where
  port_ne_zero : l.port ≠ 0
  addr_length : l.addr.length = 4 ∨ l.addr.length = 16

theorem listenerOfLine_ok {line : Text} {l : Listener} (h : listenerOfLine line = some l) :
    ListenerOk l := by
  unfold listenerOfLine at h
  simp only [] at h
  split_ifs at h
  obtain ⟨⟨hexAddr, hexPort⟩, -, h⟩ := Option.bind_eq_some_iff.mp h
  obtain ⟨port, -, h⟩ := Option.bind_eq_some_iff.mp h
  obtain ⟨addr, haddr, h⟩ := Option.bind_eq_some_iff.mp h
  obtain ⟨uid, -, h⟩ := Option.bind_eq_some_iff.mp h
  obtain ⟨inode, -, h⟩ := Option.bind_eq_some_iff.mp h
  split_ifs at h with hpos
  cases h
  exact ⟨(UInt16.ne_of_lt hpos.1).symm, length_decodeProcHex haddr⟩

theorem parseProcNet_ok {body : Text} {ls : List Listener} (h : parseProcNet body = .ok ls) :
    ∀ l ∈ ls, ListenerOk l := by
  unfold parseProcNet at h
  split at h
  · cases h
  · cases h
    intro l hl
    obtain ⟨line, -, hline⟩ := List.mem_filterMap.mp hl
    exact listenerOfLine_ok hline

theorem mem_of_mem_retainNew {seen : List UInt64} {ls : List Listener} {l : Listener}
    (h : l ∈ retainNew seen ls) : l ∈ ls := by
  induction ls generalizing seen with
  | nil => exact h
  | cons first ls ih =>
      rw [retainNew] at h
      split_ifs at h
      · exact List.mem_cons_of_mem _ (ih h)
      · rcases List.mem_cons.mp h with rfl | h
        · exact List.mem_cons_self
        · exact List.mem_cons_of_mem _ (ih h)

/-- Where the listener tables load, every listener is well formed; where not, the source that
failed is one of the two tables. -/
theorem loadListeners_cases (os : Os) :
    (∃ ls, loadListeners os = .ok ls ∧ ∀ l ∈ ls, ListenerOk l) ∨
    ∃ source err, loadListeners os = .error (source, err) ∧
      (source = "proc_net_tcp" ∨ source = "proc_net_tcp6") := by
  unfold loadListeners
  cases htcp : os.readString "/proc/net/tcp".toList with
  | error err => exact Or.inr ⟨"proc_net_tcp", err, rfl, Or.inl rfl⟩
  | ok tcp =>
      show (∃ ls, (fromSource "proc_net_tcp" (parseProcNet tcp) >>= _) = Except.ok ls ∧ _) ∨
        ∃ source err, (fromSource "proc_net_tcp" (parseProcNet tcp) >>= _) = _ ∧ _
      cases hout : parseProcNet tcp with
      | error err => exact Or.inr ⟨"proc_net_tcp", err, rfl, Or.inl rfl⟩
      | ok out =>
          have hok := parseProcNet_ok hout
          cases htcp6 : os.readString "/proc/net/tcp6".toList with
          | error err =>
              -- a kernel without IPv6 has no such table
              by_cases herr : err = Libc.ENOENT
              · refine Or.inl ⟨retainNew [] out, ?_, fun l hl => hok l (mem_of_mem_retainNew hl)⟩
                show (if err = Libc.ENOENT then _ else _) = _
                rw [if_pos herr]
                rfl
              · refine Or.inr ⟨"proc_net_tcp6", err, ?_, Or.inr rfl⟩
                show (if err = Libc.ENOENT then _ else _) = _
                rw [if_neg herr]
          | ok body =>
              show (∃ ls, (fromSource "proc_net_tcp6" (parseProcNet body) >>= _) = Except.ok ls
                ∧ _) ∨ ∃ source err, (fromSource "proc_net_tcp6" (parseProcNet body) >>= _) = _ ∧ _
              cases hrows : parseProcNet body with
              | error err => exact Or.inr ⟨"proc_net_tcp6", err, rfl, Or.inr rfl⟩
              | ok rows =>
                  refine Or.inl ⟨retainNew [] (out ++ rows), rfl, fun l hl => ?_⟩
                  rcases List.mem_append.mp (mem_of_mem_retainNew hl) with hl | hl
                  · exact hok l hl
                  · exact parseProcNet_ok hrows l hl

/-! ## One process -/

theorem plain_processName (pid : Pid) (stat : Text) (cmdline : Except Errno Bytes) :
    Plain (processName pid stat cmdline) := by
  unfold processName
  split <;> exact plain_sanitizeName _

theorem readProc_wire {pid : Pid} {stat : Text} {cmdline : Except Errno Bytes} {row : Proc}
    (h : readProc pid stat cmdline = .ok row) : row.Wire := by
  unfold readProc at h
  obtain ⟨value, -, h⟩ := bind_ok_iff.mp h
  obtain ⟨ppid, -, h⟩ := bind_ok_iff.mp h
  cases h
  exact plain_processName pid stat cmdline

theorem parseStatField_mem {stat field : Text} {i : Nat} (h : parseStatField stat i = .ok field) :
    ∃ rest, field ∈ splitWhitespace rest := by
  unfold parseStatField at h
  split at h
  · cases h
  · split at h
    · cases h
    · rename_i heq
      cases h
      exact ⟨_, List.mem_of_getElem? heq⟩

/-- The state is the first character of a token, so it is no blank. -/
theorem readStatus_state {stat : Text} {state : Char} {nice : Int32} {threads : UInt32}
    (h : readStatus stat = .ok (state, nice, threads)) : Plain [state] := by
  unfold readStatus at h
  obtain ⟨field, hfield, h⟩ := bind_ok_iff.mp h
  obtain ⟨first, hfirst, h⟩ := bind_ok_iff.mp h
  obtain ⟨niceField, -, h⟩ := bind_ok_iff.mp h
  obtain ⟨nice', -, h⟩ := bind_ok_iff.mp h
  obtain ⟨threadsField, -, h⟩ := bind_ok_iff.mp h
  obtain ⟨threads', -, h⟩ := bind_ok_iff.mp h
  obtain rfl : first = state := congrArg Prod.fst (Except.ok.inj h)
  -- the state is the first character of a token, so it is no blank
  obtain ⟨rest, hmem⟩ := parseStatField_mem hfield
  have hhead : field.head? = some first := by
    unfold parsed at hfirst
    split at hfirst
    · rename_i heq
      cases hfirst
      exact heq
    · cases hfirst
  have hblank := not_whitespace_of_mem_token hmem (List.mem_of_head? hhead)
  constructor
  · intro ht
    rw [← List.mem_singleton.mp ht] at hblank
    exact absurd hblank (by decide)
  · intro ht
    rw [← List.mem_singleton.mp ht] at hblank
    exact absurd hblank (by decide)

/-! ## The document -/

/-- Host scope, or a list of processes. -/
def PositivePids : Scope → Prop
  | .host => True
  | .pids pids => 0 ∉ pids
  | .roots _ => False

/-- Every 64-bit integer of a document is one the client can hold. -/
structure SafeIntegers (s : Snapshot) : Prop where
  memory : ∀ m ∈ s.memory, m.Wire
  startTimes : ∀ t ∈ s.startTimes, t.Wire
  cpuTimes : ∀ c ∈ s.cpuTimes, c.Wire

/-- What `/proc/<pid>/stat` says of a task that is exiting: no threads. -/
def ZeroThreads (os : Os) (pid : Pid) : Prop :=
  ∃ state nice, (statOf os pid).bind readStatus = .ok (state, nice, 0)

section Document

variable {os : Os} {args : SnapshotArgs} {pids : List Pid}

theorem zero_not_mem_selected (hscope : PositivePids args.scope)
    (hsel : selected os args = .ok pids) : 0 ∉ pids := by
  rw [selected] at hsel
  cases hs : args.scope with
  | host =>
      rw [hs] at hsel
      exact (nodup_hostPids hsel).2
  | pids list =>
      rw [hs] at hsel hscope
      cases hsel
      exact hscope
  | roots roots =>
      rw [hs] at hscope
      exact hscope.elim

/-- A row of the document is the reading of a selected pid. -/
theorem mem_table (hsel : selected os args = .ok pids) {f : Flag} (hf : f ≠ .ports)
    {row : f.Row} : row ∈ (normalize (snapshot os args)).table f ↔
      ∃ pid ∈ pids, reading os args (constants os args) pid f = some (.ok row) := by
  rw [(table_normalize_perm _ f).mem_iff, (snapshot_eq hsel).1 f hf]
  simp only [List.mem_flatMap, mem_facts]

theorem table_of_listing {err : Errno} (hsel : selected os args = .error err) (f : Flag) :
    (normalize (snapshot os args)).table f = [] := by
  have hnil : (snapshot os args).table f = [] := by
    rw [snapshot_of_error hsel]
    cases f <;> rfl
  exact List.Perm.eq_nil (hnil ▸ table_normalize_perm _ f)

theorem procs_wire : ∀ p ∈ (normalize (snapshot os args)).procs, p.Wire := by
  intro p hp
  change p ∈ (normalize (snapshot os args)).table .procs at hp
  cases hsel : selected os args with
  | error err =>
      rw [table_of_listing hsel] at hp
      cases hp
  | ok pids =>
      obtain ⟨pid, -, hr⟩ := (mem_table hsel (by decide)).mp hp
      rw [reading, Option.ite_none_right_eq_some, Option.some.injEq] at hr
      obtain ⟨-, hr⟩ := hr
      cases hstat : statOf os pid with
      | error err => rw [hstat] at hr; cases hr
      | ok stat =>
          rw [hstat] at hr
          exact readProc_wire hr

/-- A status row is what `stat` says of a selected pid. -/
theorem mem_statuses (hsel : selected os args = .ok pids) {t : ProcessStatus} :
    t ∈ (normalize (snapshot os args)).statuses ↔ args.status = true ∧ ∃ pid ∈ pids,
      ∃ state nice threads, (statOf os pid).bind readStatus = .ok (state, nice, threads) ∧
        t = ⟨pid, state, nice, some threads⟩ := by
  show t ∈ (normalize (snapshot os args)).table .status ↔ _
  rw [mem_table hsel (by decide)]
  constructor
  · rintro ⟨pid, hpid, hr⟩
    rw [reading, Option.ite_none_right_eq_some, Option.some.injEq] at hr
    obtain ⟨⟨state, nice, threads⟩, hread, rfl⟩ := map_ok_iff.mp hr.2
    exact ⟨hr.1, pid, hpid, state, nice, threads, hread, rfl⟩
  · rintro ⟨hask, pid, hpid, state, nice, threads, hread, rfl⟩
    refine ⟨pid, hpid, ?_⟩
    rw [reading, if_pos hask, hread]
    rfl

theorem statuses_framed : ∀ t ∈ (normalize (snapshot os args)).statuses, Plain [t.state] := by
  intro t ht
  cases hsel : selected os args with
  | error err =>
      change t ∈ (normalize (snapshot os args)).table .status at ht
      rw [table_of_listing hsel] at ht
      cases ht
  | ok pids =>
      obtain ⟨-, pid, -, state, nice, threads, hread, rfl⟩ := (mem_statuses hsel).mp ht
      cases hstat : statOf os pid with
      | error err => rw [hstat] at hread; cases hread
      | ok stat =>
          rw [hstat] at hread
          exact readStatus_state hread

theorem ports_framed : ∀ l ∈ (normalize (snapshot os args)).ports, l.Framed := by
  intro l hl
  change l ∈ (normalize (snapshot os args)).table .ports at hl
  cases hsel : selected os args with
  | error err =>
      rw [table_of_listing hsel] at hl
      cases hl
  | ok pids =>
      rw [(table_normalize_perm _ _).mem_iff] at hl
      change l ∈ (snapshot os args).ports at hl
      rw [(snapshot_eq hsel).2.1, portRows] at hl
      split at hl
      case h_2 => cases hl
      case h_1 listeners _ hload =>
          obtain ⟨listener, hmem, rfl⟩ := List.mem_map.mp hl
          -- the row is written from a listener of the tables
          have hok : ListenerOk listener := by
            rcases loadListeners_cases os with ⟨ls, hls, hall⟩ | ⟨source, err, herr, -⟩
            · rw [hload] at hls
              cases hls
              exact hall listener hmem
            · rw [hload] at herr
              cases herr
          have hlength := hexBytes_length listener.addr
          refine ⟨hok.port_ne_zero, ?_, isLowerHex_hexBytes ?_⟩
          · show (hexBytes listener.addr).length = 8 ∨ (hexBytes listener.addr).length = 32
            rcases hok.addr_length with haddr | haddr
            · exact Or.inl (by rw [hlength, haddr])
            · exact Or.inr (by rw [hlength, haddr])
          · rintro hnil
            rcases hok.addr_length with haddr | haddr <;> rw [hnil] at haddr <;> cases haddr

/-- A claimed pid is selected, so it is a process. -/
theorem attribution_wire (hscope : PositivePids args.scope) :
    ∀ l ∈ (normalize (snapshot os args)).ports, l.attribution.Wire := by
  intro l hl
  change l ∈ (normalize (snapshot os args)).table .ports at hl
  cases hsel : selected os args with
  | error err =>
      rw [table_of_listing hsel] at hl
      cases hl
  | ok pids =>
      rw [(table_normalize_perm _ _).mem_iff] at hl
      change l ∈ (snapshot os args).ports at hl
      rw [(snapshot_eq hsel).2.1, portRows] at hl
      split at hl
      case h_2 => cases hl
      case h_1 listeners _ hload =>
          obtain ⟨listener, -, rfl⟩ := List.mem_map.mp hl
          cases hattr : (portOfListener (claimsOf os pids) listener).attribution with
          | unclaimed => exact True.intro
          | claimed pid =>
              rintro rfl
              exact zero_not_mem_selected hscope hsel (claimed_mem listener hattr)

theorem unreadable_rows_wire : ∀ u ∈ (normalize (snapshot os args)).unreadable, u.Wire := by
  intro u hu
  have hraw : u ∈ (snapshot os args).unreadable := mem_of_mem_normalizeUnreadable hu
  cases hsel : selected os args with
  | error err =>
      rw [snapshot_of_error hsel] at hraw
      cases hraw
  | ok pids =>
      rcases (mem_unreadable hsel).mp hraw with hu | ⟨pid, -, f, err, -, -, rfl⟩ | hu
      · obtain ⟨r, err, rfl⟩ := exists_of_mem_collectionRows hu
        exact unreadable_wire r .procs err
      · exact unreadable_wire pid f err
      · obtain ⟨-, -, pid, -, err, -, rfl⟩ := mem_portBlame.mp hu
        exact unreadable_wire pid .ports err

theorem errors_wire :
    ∀ e ∈ (normalize (snapshot os args)).errors, e.Wire Facet.SNAPSHOT_SOURCE := by
  intro e he
  rw [errors_normalize] at he
  cases hsel : selected os args with
  | error err =>
      rw [snapshot_of_error hsel] at he
      obtain ⟨facet, hfacet, rfl⟩ := List.mem_map.mp he
      obtain ⟨f, -, rfl⟩ := mem_askedFacets.mp hfacet
      exact sourceError_wire (facet_mem_source f) (by decide) (by decide)
  | ok pids =>
      rw [(snapshot_eq hsel).2.2.2.1] at he
      rcases List.mem_append.mp he with he | he
      · -- the constants: boot time, clock ticks for two facets, page size
        simp only [constantErrors, List.mem_append, mem_constantError] at he
        rcases he with ((⟨-, err, -, rfl⟩ | ⟨-, err, -, rfl⟩) | ⟨-, err, -, rfl⟩)
          | ⟨-, err, -, rfl⟩
        all_goals exact sourceError_wire (by decide) (by decide) (by decide)
      · unfold portErrors at he
        split at he
        case h_2 => cases he
        case h_1 source err _ hload =>
            rw [List.mem_singleton.mp he]
            rcases loadListeners_cases os with ⟨ls, hls, -⟩ | ⟨source', err', herr, hsource⟩
            · rw [hload] at hls
              cases hls
            · rw [hload] at herr
              cases herr
              rcases hsource with rfl | rfl
              all_goals exact sourceError_wire (by decide) (by decide) (by decide)

theorem version_snapshot : (normalize (snapshot os args)).version = SCHEMA_VERSION := by
  show (snapshot os args).version = SCHEMA_VERSION
  cases hsel : selected os args with
  | error err =>
      rw [snapshot_of_error hsel]
      rfl
  | ok pids => exact (snapshot_eq hsel).2.2.2.2

theorem snapshot_framed (os : Os) (args : SnapshotArgs) :
    (normalize (snapshot os args)).Framed :=
  ⟨procs_wire, statuses_framed, ports_framed, unreadable_rows_wire, errors_wire⟩

/-- A status row without threads makes the client refuse the whole document. -/
theorem parse_of_zeroThreads {J : JsonLib} (hJ : J.Lawful)
    (hsel : selected os args = .ok pids) (hask : args.status = true) {pid : Pid} (hpid : pid ∈ pids)
    (hzero : ZeroThreads os pid) :
    ∃ e, Client.parseSnapshotOutput J (writeTsv J (normalize (snapshot os args))) = .error e := by
  obtain ⟨state, nice, hread⟩ := hzero
  have hmem : (⟨pid, state, nice, some 0⟩ : ProcessStatus)
      ∈ (normalize (snapshot os args)).statuses :=
    (mem_statuses hsel).mpr ⟨hask, pid, hpid, state, nice, 0, hread, rfl⟩
  have hrow : ProcessStatus.row ⟨pid, state, nice, some 0⟩
      ∈ (normalize (snapshot os args)).bodyRows J := by
    simp only [Snapshot.bodyRows, List.mem_append]
    exact Or.inl (Or.inl (Or.inl (Or.inl (Or.inr (List.mem_map_of_mem hmem)))))
  rw [parseSnapshotOutput_eq_foldlM hJ version_snapshot (snapshot_framed os args)]
  exact foldlM_of_unreadable hrow
    (snapshotRow_status_of_zero (statuses_framed _ hmem) rfl J) Client.emptySnapshotReading

/-- Without such a row, and with integers the client can hold, it accepts the document. -/
theorem snapshot_wire (hscope : PositivePids args.scope) (hsafe : SafeIntegers (snapshot os args))
    (hthreads : args.status = true → ∀ pids, selected os args = .ok pids →
      ∀ pid ∈ pids, ¬ ZeroThreads os pid) : (normalize (snapshot os args)).Wire := by
  have hframed := snapshot_framed os args
  refine ⟨version_snapshot, hframed.procs, fun m hm => ?_, fun t ht => ?_, fun c hc => ?_,
    fun t ht => ⟨hframed.statuses t ht, ?_⟩,
    fun l hl => (hframed.ports l hl).wire (attribution_wire hscope l hl), hframed.unreadable,
    hframed.errors⟩
  · exact hsafe.memory m ((table_normalize_perm _ .mem).mem_iff.mp hm)
  · exact hsafe.startTimes t ((table_normalize_perm _ .startTime).mem_iff.mp ht)
  · exact hsafe.cpuTimes c ((table_normalize_perm _ .cpuTime).mem_iff.mp hc)
  · intro hzero
    cases hsel : selected os args with
    | error err =>
        change t ∈ (normalize (snapshot os args)).table .status at ht
        rw [table_of_listing hsel] at ht
        cases ht
    | ok pids =>
        obtain ⟨hask, pid, hpid, state, nice, threads, hread, rfl⟩ := (mem_statuses hsel).mp ht
        cases hzero
        exact hthreads hask pids hsel pid hpid ⟨state, nice, hread⟩

end Document

/-! ## Acceptance -/

/-- **The client accepts every snapshot the sensor builds**, exactly as long as no selected
task whose status was asked is listed without threads. -/
theorem snapshot_accepted_iff {J : JsonLib} (hJ : J.Lawful) {os : Os} {args : SnapshotArgs}
    (hscope : PositivePids args.scope) (hsafe : SafeIntegers (snapshot os args)) :
    (∃ reading, Client.parseSnapshotOutput J (Client.stdoutText
        (Utf8.encode (writeTsv J (normalize (snapshot os args))))) = .ok reading) ↔
      (args.status = true → ∀ pids, selected os args = .ok pids →
        ∀ pid ∈ pids, ¬ ZeroThreads os pid) := by
  rw [Client.stdoutText_encode]
  constructor
  · rintro ⟨reading, hok⟩ hask pids hsel pid hpid hzero
    obtain ⟨e, he⟩ := parse_of_zeroThreads hJ hsel hask hpid hzero
    rw [hok] at he
    cases he
  · intro hthreads
    exact ⟨_, parseSnapshotOutput_writeTsv hJ (snapshot_wire hscope hsafe hthreads)⟩

/-- The status of one process. -/
def statusArgs : SnapshotArgs := { SnapshotArgs.default with scope := .pids [7], status := true }

theorem selected_statusArgs (os : Os) : selected os statusArgs = .ok [7] := rfl

/-- The only integers in an answer to `statusArgs` are 32 bits wide. -/
theorem safeIntegers_statusArgs (os : Os) : SafeIntegers (snapshot os statusArgs) := by
  have hnone : ∀ f, statusArgs.asks f = false → (snapshot os statusArgs).table f = [] :=
    fun f hask => table_of_not_asked (selected_statusArgs os) hask
  refine ⟨fun m hm => ?_, fun t ht => ?_, fun c hc => ?_⟩
  · change m ∈ (snapshot os statusArgs).table .mem at hm
    rw [hnone .mem rfl] at hm
    cases hm
  · change t ∈ (snapshot os statusArgs).table .startTime at ht
    rw [hnone .startTime rfl] at ht
    cases ht
  · change c ∈ (snapshot os statusArgs).table .cpuTime at hc
    rw [hnone .cpuTime rfl] at hc
    cases hc

theorem positive_statusArgs : PositivePids statusArgs.scope := by
  show (0 : Pid) ∉ [7]
  decide

/-- A task that runs two threads on 25 pages. -/
def livingOs : Os :=
  singleOs [("/proc/7/stat".toList,
    ascii "7 (sh) S 1 7 7 0 -1 4 0 0 0 0 0 0 0 0 20 0 2 0 100 0 25")]

def vitalArgs : SnapshotArgs := { statusArgs with mem := true }

/-- The client reads its memory and its status. -/
theorem snapshot_accepted_sample :
    ∃ reading, Client.parseSnapshotOutput .standard (Client.stdoutText (Utf8.encode
      (writeTsv .standard (normalize (snapshot livingOs vitalArgs))))) = .ok reading := by
  have hsafe : SafeIntegers (snapshot livingOs vitalArgs) := by
    have hmemory : (snapshot livingOs vitalArgs).memory = [⟨7, 102400⟩] := rfl
    refine ⟨?_, List.forall_mem_nil _, List.forall_mem_nil _⟩
    rw [hmemory]
    exact List.forall_mem_singleton.mpr (by unfold Memory.Wire; decide)
  have hpositive : PositivePids vitalArgs.scope := positive_statusArgs
  refine (snapshot_accepted_iff JsonLib.standard_lawful hpositive hsafe).mpr ?_
  rintro - pids hsel pid hpid ⟨state, nice, hread⟩
  obtain rfl : [7] = pids := Except.ok.inj hsel
  obtain rfl := List.mem_singleton.mp hpid
  have hstatus : (statOf livingOs 7).bind readStatus = .ok ('S', 0, 2) := rfl
  rw [hstatus] at hread
  cases hread

/-- A task that exits while it is read: state `X`, and no threads. -/
def exitingOs : Os :=
  singleOs [("/proc/7/stat".toList,
    ascii "7 (sh) X 1 7 7 0 -1 4 0 0 0 0 0 0 0 0 20 0 0 0 100 0 0")]

/-- The client refuses the document in which that task appears. -/
theorem snapshot_exiting_refused :
    ¬ ∀ (os : Os) (args : SnapshotArgs), PositivePids args.scope →
      SafeIntegers (snapshot os args) →
      ∃ reading, Client.parseSnapshotOutput .standard (Client.stdoutText (Utf8.encode
        (writeTsv .standard (normalize (snapshot os args))))) = .ok reading := by
  intro h
  have hzero : ZeroThreads exitingOs 7 := ⟨'X', 0, rfl⟩
  obtain ⟨reading, hok⟩ := h exitingOs statusArgs positive_statusArgs
    (safeIntegers_statusArgs exitingOs)
  obtain ⟨e, he⟩ := parse_of_zeroThreads JsonLib.standard_lawful
    (selected_statusArgs exitingOs) rfl List.mem_cons_self hzero
  rw [Client.stdoutText_encode, he] at hok
  cases hok

end Linux

end Osfacts
