import Osfacts.Client.ChildFailure
import Osfacts.Contract.Rows

set_option autoImplicit false

/-! # The wire round trip

Each document, written by `writeTsv` and read by the client's parser of the same verb, comes
back row for row. `Wire` lists what a document has to satisfy, `view` is what the client holds.
-/

namespace Osfacts

open Client

/-! ## `snapshot` -/

structure Snapshot.Wire (s : Snapshot) : Prop where
  version_eq : s.version = SCHEMA_VERSION
  procs : ∀ p ∈ s.procs, p.Wire
  memory : ∀ m ∈ s.memory, m.Wire
  startTimes : ∀ t ∈ s.startTimes, t.Wire
  cpuTimes : ∀ c ∈ s.cpuTimes, c.Wire
  statuses : ∀ t ∈ s.statuses, t.Wire
  ports : ∀ l ∈ s.ports, l.Wire
  unreadable : ∀ u ∈ s.unreadable, u.Wire
  errors : ∀ e ∈ s.errors, e.Wire Facet.SNAPSHOT_SOURCE

def Snapshot.view (s : Snapshot) : SnapshotReading where
  procs := s.procs.map Proc.view
  memory := s.memory.map Memory.view
  startTimes := s.startTimes.map StartTime.view
  cpuTimes := s.cpuTimes.map ProcessCpuTime.view
  uids := s.uids.map ProcessUid.view
  cwds := s.cwds.map ProcessCwd.view
  statuses := s.statuses.map ProcessStatus.view
  argv := s.argv.map ProcessArgv.view
  ports := s.ports.map Port.view
  unreadable := s.unreadable.map Unreadable.view
  errors := s.errors.map SourceError.view

/-- The rows of a snapshot after the version row. -/
def Snapshot.bodyRows (J : JsonLib) (s : Snapshot) : List (List Text) :=
  s.procs.map Proc.row ++ s.memory.map Memory.row ++ s.startTimes.map StartTime.row
    ++ s.cpuTimes.map ProcessCpuTime.row ++ s.uids.map ProcessUid.row
    ++ s.cwds.map (ProcessCwd.row J) ++ s.statuses.map ProcessStatus.row
    ++ s.argv.map (ProcessArgv.row J) ++ s.ports.map Port.row
    ++ s.unreadable.map Unreadable.row ++ s.errors.map SourceError.row

theorem Snapshot.tsvRows_eq (J : JsonLib) (s : Snapshot) :
    tsvRows J s = versionRow s.version :: s.bodyRows J := by
  simp only [tsvRows, Snapshot.bodyRows, List.cons_append]

/-- What framing needs: everything `Wire` asks but integers, thread counts and claiming pids. -/
structure Snapshot.Framed (s : Snapshot) : Prop where
  procs : ∀ p ∈ s.procs, p.Wire
  statuses : ∀ t ∈ s.statuses, Plain [t.state]
  ports : ∀ l ∈ s.ports, l.Framed
  unreadable : ∀ u ∈ s.unreadable, u.Wire
  errors : ∀ e ∈ s.errors, e.Wire Facet.SNAPSHOT_SOURCE

theorem Snapshot.Wire.framed {s : Snapshot} (h : s.Wire) : s.Framed :=
  ⟨h.procs, fun t ht => (h.statuses t ht).state_plain, fun l hl => (h.ports l hl).framed,
    h.unreadable, h.errors⟩

theorem Snapshot.bodyRows_ok {J : JsonLib} (hJ : J.Lawful) {s : Snapshot} (h : s.Framed) :
    ∀ columns ∈ s.bodyRows J, RowOk columns := by
  intro columns hc
  simp only [Snapshot.bodyRows, List.mem_append, List.mem_map] at hc
  rcases hc with (((((((((hc | hc) | hc) | hc) | hc) | hc) | hc) | hc) | hc) | hc) | hc
  all_goals obtain ⟨x, hx, rfl⟩ := hc
  · exact Proc.rowOk (h.procs x hx)
  · exact x.rowOk
  · exact x.rowOk
  · exact x.rowOk
  · exact x.rowOk
  · exact x.rowOk hJ
  · exact ProcessStatus.rowOk (h.statuses x hx)
  · exact x.rowOk hJ
  · exact Port.rowOk (h.ports x hx)
  · exact Unreadable.rowOk (h.unreadable x hx)
  · exact SourceError.rowOk (h.errors x hx)

/-- The parser on a snapshot is a fold of its row reader over the rows. -/
theorem parseSnapshotOutput_eq_foldlM {J : JsonLib} (hJ : J.Lawful) {s : Snapshot}
    (hversion : s.version = SCHEMA_VERSION) (h : s.Framed) :
    parseSnapshotOutput J (writeTsv J s)
      = (s.bodyRows J).foldlM (fun out columns => snapshotRow J out (tsvLine columns))
          emptySnapshotReading := by
  rw [parseSnapshotOutput, writeTsv, Snapshot.tsvRows_eq, hversion,
    parseRows_tsv _ _ (Snapshot.bodyRows_ok hJ h)]

theorem parseSnapshotOutput_writeTsv {J : JsonLib} (hJ : J.Lawful) {s : Snapshot}
    (h : s.Wire) : parseSnapshotOutput J (writeTsv J s) = .ok s.view := by
  rw [parseSnapshotOutput_eq_foldlM hJ h.version_eq h.framed, Snapshot.bodyRows]
  simp only [List.foldlM_append, List.foldlM_map]
  -- one block of rows after the other
  have hprocs := foldlM_block s.procs Proc.view
    (fun (out : SnapshotReading) rows => { out with procs := out.procs ++ rows })
    (by simp) (by simp) (fun p hp => snapshotRow_proc (h.procs p hp) J)
  have hmemory := foldlM_block s.memory Memory.view
    (fun (out : SnapshotReading) rows => { out with memory := out.memory ++ rows })
    (by simp) (by simp) (fun m hm => snapshotRow_memory (h.memory m hm) J)
  have hstartTimes := foldlM_block s.startTimes StartTime.view
    (fun (out : SnapshotReading) rows => { out with startTimes := out.startTimes ++ rows })
    (by simp) (by simp) (fun t ht => snapshotRow_startTime (h.startTimes t ht) J)
  have hcpuTimes := foldlM_block s.cpuTimes ProcessCpuTime.view
    (fun (out : SnapshotReading) rows => { out with cpuTimes := out.cpuTimes ++ rows })
    (by simp) (by simp) (fun c hc => snapshotRow_cpuTime (h.cpuTimes c hc) J)
  have huids := foldlM_block s.uids ProcessUid.view
    (fun (out : SnapshotReading) rows => { out with uids := out.uids ++ rows })
    (by simp) (by simp) (fun u _ => snapshotRow_uid u J)
  have hcwds := foldlM_block s.cwds ProcessCwd.view
    (fun (out : SnapshotReading) rows => { out with cwds := out.cwds ++ rows })
    (by simp) (by simp) (fun c _ => snapshotRow_cwd hJ c)
  have hstatuses := foldlM_block s.statuses ProcessStatus.view
    (fun (out : SnapshotReading) rows => { out with statuses := out.statuses ++ rows })
    (by simp) (by simp) (fun t ht => snapshotRow_status (h.statuses t ht) J)
  have hargv := foldlM_block s.argv ProcessArgv.view
    (fun (out : SnapshotReading) rows => { out with argv := out.argv ++ rows })
    (by simp) (by simp) (fun a _ => snapshotRow_argv hJ a)
  have hports := foldlM_block s.ports Port.view
    (fun (out : SnapshotReading) rows => { out with ports := out.ports ++ rows })
    (by simp) (by simp) (fun l hl => snapshotRow_port (h.ports l hl) J)
  have hunreadable := foldlM_block s.unreadable Unreadable.view
    (fun (out : SnapshotReading) rows => { out with unreadable := out.unreadable ++ rows })
    (by simp) (by simp) (fun u hu => snapshotRow_unreadable (h.unreadable u hu) J)
  have herrors := foldlM_block s.errors SourceError.view
    (fun (out : SnapshotReading) rows => { out with errors := out.errors ++ rows })
    (by simp) (by simp) (fun e he => snapshotRow_error (h.errors e he) J)
  simp only [hprocs, hmemory, hstartTimes, hcpuTimes, huids, hcwds, hstatuses, hargv, hports,
    hunreadable, herrors, bind, Except.bind]
  rfl

/-! ## `socket-holders` -/

structure SocketHolders.Wire (s : SocketHolders) : Prop where
  version_eq : s.version = SCHEMA_VERSION
  holders : ∀ h ∈ s.holders, h.Wire
  procs : ∀ p ∈ s.procs, p.Wire
  unreadable : ∀ u ∈ s.unreadable, u.Wire
  errors : ∀ e ∈ s.errors, e.Wire Facet.SOCKET_HOLDERS_SOURCE

def SocketHolders.view (s : SocketHolders) : SocketHoldersReading where
  holders := s.holders.map Attribution.view
  procs := s.procs.map Proc.view
  unreadable := s.unreadable.map Unreadable.view
  errors := s.errors.map SourceError.view

theorem Attribution.rowOk (h : Attribution) : RowOk h.row :=
  rowOk_cons (by decide) (by decide) (plain_attributionColumns h)

theorem socketHoldersRow_holder {h : Attribution} (hw : h.Wire) (out : SocketHoldersReading) :
    socketHoldersRow out (tsvLine h.row)
      = .ok { out with holders := out.holders ++ [h.view] } := by
  have hattr := attribution_columns hw (tsvLine h.row) "holder"
  obtain ⟨status, pid, hcolumns⟩ : ∃ status pid, attributionColumns h = [status, pid] := by
    cases h <;> exact ⟨_, _, rfl⟩
  have hrow : h.row = ["H".toList, status, pid] := by
    rw [Attribution.row, hcolumns]
  rw [hcolumns] at hattr
  -- the refusal quotes the line, so the line is kept apart from its columns
  rw [socketHoldersRow, splitOn_tsvLine h.rowOk]
  generalize tsvLine h.row = line at hattr ⊢
  rw [hrow]
  have hattr' : attribution (some status) (some pid) line "holder" = .ok h.view := hattr
  show (attribution (some status) (some pid) line "holder" >>= _) = _
  rw [hattr']
  rfl

theorem socketHoldersRow_proc {p : Proc} (h : p.Wire) (out : SocketHoldersReading) :
    socketHoldersRow out (tsvLine p.row) = .ok { out with procs := out.procs ++ [p.view] } := by
  rw [socketHoldersRow, splitOn_tsvLine (Proc.rowOk h)]
  show (procRow p.row _ >>= _) = _
  rw [procRow_row]
  rfl

theorem socketHoldersRow_unreadable {u : Unreadable} (h : u.Wire) (out : SocketHoldersReading) :
    socketHoldersRow out (tsvLine u.row)
      = .ok { out with unreadable := out.unreadable ++ [u.view] } := by
  rw [socketHoldersRow, splitOn_tsvLine (Unreadable.rowOk h)]
  show (unreadableRow u.row _ >>= _) = _
  rw [unreadableRow_row h]
  rfl

theorem socketHoldersRow_error {e : SourceError} (h : e.Wire Facet.SOCKET_HOLDERS_SOURCE)
    (out : SocketHoldersReading) :
    socketHoldersRow out (tsvLine e.row)
      = .ok { out with errors := out.errors ++ [e.view] } := by
  rw [socketHoldersRow, splitOn_tsvLine (SourceError.rowOk h)]
  show (sourceErrorRow e.row _ SOCKET_HOLDERS_SOURCE_FACETS >>= _) = _
  rw [sourceErrorRow_row socket_holders_source_facets_eq h]
  rfl

theorem parseSocketHoldersOutput_writeTsv (J : JsonLib) {s : SocketHolders} (h : s.Wire) :
    parseSocketHoldersOutput (writeTsv J s) = .ok s.view := by
  have hrows : tsvRows J s = versionRow s.version :: (s.holders.map Attribution.row
      ++ s.procs.map Proc.row ++ s.unreadable.map Unreadable.row
      ++ s.errors.map SourceError.row) := by
    simp only [tsvRows, List.cons_append]
  have hok : ∀ columns ∈ s.holders.map Attribution.row ++ s.procs.map Proc.row
      ++ s.unreadable.map Unreadable.row ++ s.errors.map SourceError.row, RowOk columns := by
    intro columns hc
    simp only [List.mem_append, List.mem_map] at hc
    rcases hc with ((⟨x, -, rfl⟩ | ⟨x, hx, rfl⟩) | ⟨x, hx, rfl⟩) | ⟨x, hx, rfl⟩
    · exact x.rowOk
    · exact Proc.rowOk (h.procs x hx)
    · exact Unreadable.rowOk (h.unreadable x hx)
    · exact SourceError.rowOk (h.errors x hx)
  rw [parseSocketHoldersOutput, writeTsv, hrows, h.version_eq, parseRows_tsv _ _ hok]
  simp only [List.foldlM_append, List.foldlM_map]
  have hholders := foldlM_block s.holders Attribution.view
    (fun (out : SocketHoldersReading) rows => { out with holders := out.holders ++ rows })
    (by simp) (by simp) (fun x hx => socketHoldersRow_holder (h.holders x hx))
  have hprocs := foldlM_block s.procs Proc.view
    (fun (out : SocketHoldersReading) rows => { out with procs := out.procs ++ rows })
    (by simp) (by simp) (fun x hx => socketHoldersRow_proc (h.procs x hx))
  have hunreadable := foldlM_block s.unreadable Unreadable.view
    (fun (out : SocketHoldersReading) rows => { out with unreadable := out.unreadable ++ rows })
    (by simp) (by simp) (fun x hx => socketHoldersRow_unreadable (h.unreadable x hx))
  have herrors := foldlM_block s.errors SourceError.view
    (fun (out : SocketHoldersReading) rows => { out with errors := out.errors ++ rows })
    (by simp) (by simp) (fun x hx => socketHoldersRow_error (h.errors x hx))
  simp only [hholders, hprocs, hunreadable, herrors, bind, Except.bind]
  rfl

/-! ## `host` -/

section Host

variable {L : FloatLib}

/-- The client accepts the three numbers of a load row. -/
def Load.Wire (v : Load L) : Prop :=
  ∀ x ∈ [v.one, v.five, v.fifteen],
    isDecimalFraction (L.display x) = true ∧ L.isFinite (L.number (L.display x)) = true

def Load.view (v : Load L) : LoadRow L :=
  ⟨L.number (L.display v.one), L.number (L.display v.five), L.number (L.display v.fifteen)⟩

/-- An integer the client can hold. -/
def SafeInteger (n : UInt64) : Prop := n.toNat ≤ MAX_SAFE_INTEGER

instance (n : UInt64) : Decidable (SafeInteger n) := inferInstanceAs (Decidable (_ ≤ _))

structure HostMemory.Wire (v : HostMemory) : Prop where
  totalBytes : SafeInteger v.totalBytes
  availableBytes : SafeInteger v.availableBytes

def HostMemory.view (v : HostMemory) : HostMemoryRow := ⟨v.totalBytes.toNat, v.availableBytes.toNat⟩

structure Swap.Wire (v : Swap) : Prop where
  totalBytes : SafeInteger v.totalBytes
  usedBytes : SafeInteger v.usedBytes

def Swap.view (v : Swap) : SwapRow := ⟨v.totalBytes.toNat, v.usedBytes.toNat⟩

structure Cpu.Wire (v : Cpu) : Prop where
  userUs : SafeInteger v.userUs
  systemUs : SafeInteger v.systemUs
  idleUs : SafeInteger v.idleUs
  otherUs : SafeInteger v.otherUs
  model_ne_nil : v.model ≠ []
  frequencyMhz : ∀ f, v.frequencyMhz = some f → SafeInteger f ∧ f ≠ 0

def Cpu.view (v : Cpu) : CpuRow :=
  ⟨v.core.toNat, v.userUs.toNat, v.systemUs.toNat, v.idleUs.toNat, v.otherUs.toNat, v.model,
    v.frequencyMhz.map UInt64.toNat⟩

structure Network.Wire (v : Network) : Prop where
  name_plain : Plain v.name
  rxBytes : SafeInteger v.rxBytes
  txBytes : SafeInteger v.txBytes

def Network.view (v : Network) : NetworkRow := ⟨v.name, v.rxBytes.toNat, v.txBytes.toNat⟩

structure Disk.Wire (v : Disk) : Prop where
  mount_plain : Plain v.mount
  totalBytes : SafeInteger v.totalBytes
  availableBytes : SafeInteger v.availableBytes
  freeBytes : SafeInteger v.freeBytes

def Disk.view (v : Disk) : DiskRow :=
  ⟨v.mount, v.totalBytes.toNat, v.availableBytes.toNat, v.freeBytes.toNat⟩

structure HostSnapshot.Wire (s : HostSnapshot L) : Prop where
  version_eq : s.version = SCHEMA_VERSION
  load : ∀ v, s.load = some v → v.Wire
  memory : ∀ v, s.memory = some v → v.Wire
  swap : ∀ v, s.swap = some v → v.Wire
  uptimeUs : ∀ v, s.uptimeUs = some v → SafeInteger v
  cpus : ∀ v ∈ s.cpus, v.Wire
  networks : ∀ v ∈ s.networks, v.Wire
  disks : ∀ v ∈ s.disks, v.Wire
  errors : ∀ e ∈ s.errors, e.Wire Facet.HOST_SOURCE

def HostSnapshot.view (s : HostSnapshot L) : HostReading L where
  load := s.load.map Load.view
  memory := s.memory.map HostMemory.view
  swap := s.swap.map Swap.view
  uptimeUs := s.uptimeUs.map UInt64.toNat
  cpus := s.cpus.map Cpu.view
  networks := s.networks.map Network.view
  disks := s.disks.map Disk.view
  errors := s.errors.map SourceError.view

theorem plain_of_isDecimalFraction {t : Text} (h : isDecimalFraction t = true) : Plain t := by
  -- one or two pieces around the dot, all digits
  have hpiece : ∀ piece ∈ t.splitOn '.', ∀ c ∈ piece, c.isDigit = true := by
    unfold isDecimalFraction at h
    split at h
    case h_1 whole heq =>
        rw [heq]
        simp only [Decimal.isNumeral, Bool.and_eq_true, List.all_eq_true] at h
        simpa using h.2
    case h_2 whole fraction heq =>
        rw [heq]
        simp only [Decimal.isNumeral, Bool.and_eq_true, List.all_eq_true] at h
        simpa using ⟨h.1.2, h.2.2⟩
    case h_3 => cases h
  have hmem : ∀ c ∈ t, c ≠ '.' → c.isDigit = true := by
    intro c hc hdot
    obtain ⟨piece, hp, hcp⟩ := exists_mem_splitOn hc hdot
    exact hpiece piece hp c hcp
  constructor
  all_goals
    intro hc
    exact absurd (hmem _ hc (by decide)) (by decide)

theorem float_display {t : Text} (hshape : isDecimalFraction t = true)
    (hfinite : L.isFinite (L.number t) = true) (what : String) :
    float L (some t) what = .ok (L.number t) := by
  simp only [float, numeric, hshape, hfinite, if_true]
  rfl

theorem hostRow_load (J : JsonLib) {v : Load L} (h : v.Wire) (out : HostReading L) :
    RowOk v.row ∧ hostRow J L out (tsvLine v.row) = .ok { out with load := some v.view } := by
  simp only [Load.Wire, List.forall_mem_cons, List.not_mem_nil, false_imp_iff, implies_true,
    and_true] at h
  obtain ⟨⟨hs1, hf1⟩, ⟨hs5, hf5⟩, hs15, hf15⟩ := h
  have hok : RowOk v.row := by
    apply rowOk_cons (by decide) (by decide)
    simp only [List.forall_mem_cons, List.not_mem_nil, false_imp_iff, implies_true, and_true]
    exact ⟨plain_of_isDecimalFraction hs1, plain_of_isDecimalFraction hs5,
      plain_of_isDecimalFraction hs15⟩
  refine ⟨hok, ?_⟩
  rw [hostRow, splitOn_tsvLine hok]
  show (float L (some (L.display v.one)) "load1" >>= _) = _
  rw [float_display hs1 hf1]
  show (float L (some (L.display v.five)) "load5" >>= _) = _
  rw [float_display hs5 hf5]
  show (float L (some (L.display v.fifteen)) "load15" >>= _) = _
  rw [float_display hs15 hf15]
  rfl

theorem twoBytesRow_ok {tag : String} (hne : tag.toList ≠ []) (htag : Plain tag.toList)
    (a b : UInt64) : RowOk (twoBytesRow tag a b) := by
  apply rowOk_cons hne htag
  simp only [List.forall_mem_cons, List.not_mem_nil, false_imp_iff, implies_true, and_true]
  exact ⟨plain_decimal _, plain_decimal _⟩

theorem HostMemory.rowOk (v : HostMemory) : RowOk v.row :=
  twoBytesRow_ok (by decide) (by decide) _ _

theorem hostRow_memory (J : JsonLib) {v : HostMemory} (h : v.Wire) (out : HostReading L) :
    hostRow J L out (tsvLine v.row) = .ok { out with memory := some v.view } := by
  rw [hostRow, splitOn_tsvLine v.rowOk]
  exact twoIntegers h.totalBytes h.availableBytes "memory total" "memory available"
    (fun total available => { out with memory := some (HostMemoryRow.mk total available) })

theorem Swap.rowOk (v : Swap) : RowOk v.row := twoBytesRow_ok (by decide) (by decide) _ _

theorem hostRow_swap (J : JsonLib) {v : Swap} (h : v.Wire) (out : HostReading L) :
    hostRow J L out (tsvLine v.row) = .ok { out with swap := some v.view } := by
  rw [hostRow, splitOn_tsvLine v.rowOk]
  exact twoIntegers h.totalBytes h.usedBytes "swap total" "swap used"
    (fun total used => { out with swap := some (SwapRow.mk total used) })

theorem uptimeRow_ok (v : UInt64) : RowOk (uptimeRow v) := by
  apply rowOk_cons (by decide) (by decide)
  simp only [List.forall_mem_cons, List.not_mem_nil, false_imp_iff, implies_true, and_true]
  exact plain_decimal _

theorem hostRow_uptime (J : JsonLib) {v : UInt64} (h : SafeInteger v) (out : HostReading L) :
    hostRow J L out (tsvLine (uptimeRow v)) = .ok { out with uptimeUs := some v.toNat } := by
  rw [hostRow, splitOn_tsvLine (uptimeRow_ok v)]
  show (integer (some (Decimal.decimal v.toNat)) "uptime" >>= _) = _
  rw [integer_decimal h]
  rfl

theorem Cpu.rowOk {J : JsonLib} (hJ : J.Lawful) (v : Cpu) : RowOk (v.row J) := by
  apply rowOk_cons (by decide) (by decide)
  simp only [List.forall_mem_cons, List.not_mem_nil, false_imp_iff, implies_true, and_true]
  exact ⟨plain_decimal _, plain_decimal _, plain_decimal _, plain_decimal _, plain_decimal _,
    plain_of_escaped (hJ.toString_escapes _), plain_orDash _⟩

theorem hostRow_cpu {J : JsonLib} (hJ : J.Lawful) {v : Cpu} (h : v.Wire) (out : HostReading L) :
    hostRow J L out (tsvLine (v.row J)) = .ok { out with cpus := out.cpus ++ [v.view] } := by
  have hfrequency : dashOr (some (orDash (v.frequencyMhz.map UInt64.toNat)))
      (positiveInteger (some (orDash (v.frequencyMhz.map UInt64.toNat))) "cpu frequency MHz")
      = .ok (v.frequencyMhz.map UInt64.toNat) := by
    refine dashOr_orDash (fun raw => positiveInteger raw "cpu frequency MHz") (fun m hm => ?_)
    obtain ⟨f, hf, rfl⟩ := Option.map_eq_some_iff.mp hm
    obtain ⟨hsafe, hne⟩ := h.frequencyMhz f hf
    exact positiveInteger_decimal hsafe (fun hz => hne (UInt64.toNat_inj.mp hz)) _
  have hmodel : ¬ v.model.length = 0 := fun hz => h.model_ne_nil (List.length_eq_zero_iff.mp hz)
  rw [hostRow, splitOn_tsvLine (v.rowOk hJ)]
  show (cpuRow J (v.row J) _ >>= _) = _
  have hrow : cpuRow J (v.row J) (tsvLine (v.row J)) = .ok v.view := by
    generalize tsvLine (v.row J) = line
    -- the model is read first, and an empty one is refused
    show (jsonString J (some (J.toString v.model)) "cpu model" >>= _) = _
    rw [jsonString_toString hJ]
    show (if v.model.length = 0 then _ else _) = _
    rw [if_neg hmodel]
    show (integer (some (Decimal.decimal v.core.toNat)) "cpu core" >>= _) = _
    rw [integer_uint32]
    show (integer (some (Decimal.decimal v.userUs.toNat)) "cpu user" >>= _) = _
    rw [integer_decimal h.userUs]
    show (integer (some (Decimal.decimal v.systemUs.toNat)) "cpu system" >>= _) = _
    rw [integer_decimal h.systemUs]
    show (integer (some (Decimal.decimal v.idleUs.toNat)) "cpu idle" >>= _) = _
    rw [integer_decimal h.idleUs]
    show (integer (some (Decimal.decimal v.otherUs.toNat)) "cpu other" >>= _) = _
    rw [integer_decimal h.otherUs]
    show (dashOr (some (orDash (v.frequencyMhz.map UInt64.toNat)))
      (positiveInteger (some (orDash (v.frequencyMhz.map UInt64.toNat))) "cpu frequency MHz")
        >>= _) = _
    rw [hfrequency]
    rfl
  rw [hrow]
  rfl

theorem Network.rowOk {v : Network} (h : v.Wire) : RowOk v.row := by
  apply rowOk_cons (by decide) (by decide)
  simp only [List.forall_mem_cons, List.not_mem_nil, false_imp_iff, implies_true, and_true]
  exact ⟨h.name_plain, plain_decimal _, plain_decimal _⟩

theorem hostRow_network (J : JsonLib) {v : Network} (h : v.Wire) (out : HostReading L) :
    hostRow J L out (tsvLine v.row) = .ok { out with networks := out.networks ++ [v.view] } := by
  rw [hostRow, splitOn_tsvLine (Network.rowOk h)]
  exact twoIntegers h.rxBytes h.txBytes "network rx" "network tx"
    (fun rx tx => { out with networks := out.networks ++ [NetworkRow.mk v.name rx tx] })

theorem Disk.rowOk {v : Disk} (h : v.Wire) : RowOk v.row := by
  apply rowOk_cons (by decide) (by decide)
  simp only [List.forall_mem_cons, List.not_mem_nil, false_imp_iff, implies_true, and_true]
  exact ⟨h.mount_plain, plain_decimal _, plain_decimal _, plain_decimal _⟩

theorem hostRow_disk (J : JsonLib) {v : Disk} (h : v.Wire) (out : HostReading L) :
    hostRow J L out (tsvLine v.row) = .ok { out with disks := out.disks ++ [v.view] } := by
  rw [hostRow, splitOn_tsvLine (Disk.rowOk h)]
  show (integer (some (Decimal.decimal v.totalBytes.toNat)) "disk total" >>= _) = _
  rw [integer_decimal h.totalBytes]
  show (integer (some (Decimal.decimal v.availableBytes.toNat)) "disk available" >>= _) = _
  rw [integer_decimal h.availableBytes]
  show (integer (some (Decimal.decimal v.freeBytes.toNat)) "disk free" >>= _) = _
  rw [integer_decimal h.freeBytes]
  rfl

theorem hostRow_error (J : JsonLib) {e : SourceError} (h : e.Wire Facet.HOST_SOURCE)
    (out : HostReading L) :
    hostRow J L out (tsvLine e.row) = .ok { out with errors := out.errors ++ [e.view] } := by
  rw [hostRow, splitOn_tsvLine (SourceError.rowOk h)]
  show (sourceErrorRow e.row _ HOST_SOURCE_FACETS >>= _) = _
  rw [sourceErrorRow_row host_source_facets_eq h]
  rfl

/-- An optional row is a block of at most one row. -/
theorem foldlM_optional {ε R β γ : Type} {step : R → β → Except ε R} (row : Option β)
    (view : β → γ) (set : R → Option γ → R) (hnone : ∀ out, set out none = out)
    (h : ∀ x, row = some x → ∀ out, step out x = .ok (set out (some (view x)))) (out : R) :
    row.toList.foldlM step out = .ok (set out (row.map view)) := by
  cases row with
  | none =>
      rw [Option.map_none, hnone]
      rfl
  | some x =>
      rw [Option.toList_some, List.foldlM_cons, h x rfl]
      rfl

/-- The rows of a host document after the version row. -/
def HostSnapshot.bodyRows (J : JsonLib) (s : HostSnapshot L) : List (List Text) :=
  s.load.toList.map Load.row ++ s.memory.toList.map HostMemory.row
    ++ s.swap.toList.map Swap.row ++ s.uptimeUs.toList.map uptimeRow ++ s.cpus.map (Cpu.row J)
    ++ s.networks.map Network.row ++ s.disks.map Disk.row ++ s.errors.map SourceError.row

theorem HostSnapshot.tsvRows_eq (J : JsonLib) (s : HostSnapshot L) :
    tsvRows J s = versionRow s.version :: s.bodyRows J := by
  simp only [tsvRows, HostSnapshot.bodyRows, List.cons_append]

theorem HostSnapshot.bodyRows_ok {J : JsonLib} (hJ : J.Lawful) {s : HostSnapshot L}
    (h : s.Wire) : ∀ columns ∈ s.bodyRows J, RowOk columns := by
  intro columns hc
  simp only [HostSnapshot.bodyRows, List.mem_append, List.mem_map, Option.mem_toList] at hc
  rcases hc with ((((((hc | hc) | hc) | hc) | hc) | hc) | hc) | hc
  all_goals obtain ⟨x, hx, rfl⟩ := hc
  · exact (hostRow_load J (h.load x hx) emptyHostReading).1
  · exact x.rowOk
  · exact x.rowOk
  · exact uptimeRow_ok x
  · exact x.rowOk hJ
  · exact Network.rowOk (h.networks x hx)
  · exact Disk.rowOk (h.disks x hx)
  · exact SourceError.rowOk (h.errors x hx)

theorem parseHostOutput_writeTsv {J : JsonLib} (hJ : J.Lawful) {s : HostSnapshot L}
    (h : s.Wire) : parseHostOutput J L (writeTsv J s) = .ok s.view := by
  rw [parseHostOutput, writeTsv, HostSnapshot.tsvRows_eq, h.version_eq,
    parseRows_tsv _ _ (HostSnapshot.bodyRows_ok hJ h), HostSnapshot.bodyRows]
  simp only [List.foldlM_append, List.foldlM_map]
  -- the four single rows, each written at most once, then the blocks
  have hload := foldlM_optional s.load Load.view
    (fun (out : HostReading L) row => { out with load := row.or out.load })
    (fun _ => rfl) (fun v hv out => (hostRow_load J (h.load v hv) out).2)
  have hmemory := foldlM_optional s.memory HostMemory.view
    (fun (out : HostReading L) row => { out with memory := row.or out.memory })
    (fun _ => rfl) (fun v hv => hostRow_memory J (h.memory v hv))
  have hswap := foldlM_optional s.swap Swap.view
    (fun (out : HostReading L) row => { out with swap := row.or out.swap })
    (fun _ => rfl) (fun v hv => hostRow_swap J (h.swap v hv))
  have huptime := foldlM_optional s.uptimeUs UInt64.toNat
    (fun (out : HostReading L) row => { out with uptimeUs := row.or out.uptimeUs })
    (fun _ => rfl) (fun v hv => hostRow_uptime J (h.uptimeUs v hv))
  have hcpus := foldlM_block s.cpus Cpu.view
    (fun (out : HostReading L) rows => { out with cpus := out.cpus ++ rows })
    (by simp) (by simp) (fun v hv => hostRow_cpu hJ (h.cpus v hv))
  have hnetworks := foldlM_block s.networks Network.view
    (fun (out : HostReading L) rows => { out with networks := out.networks ++ rows })
    (by simp) (by simp) (fun v hv => hostRow_network J (h.networks v hv))
  have hdisks := foldlM_block s.disks Disk.view
    (fun (out : HostReading L) rows => { out with disks := out.disks ++ rows })
    (by simp) (by simp) (fun v hv => hostRow_disk J (h.disks v hv))
  have herrors := foldlM_block s.errors SourceError.view
    (fun (out : HostReading L) rows => { out with errors := out.errors ++ rows })
    (by simp) (by simp) (fun e he => hostRow_error J (h.errors e he))
  simp only [hload, hmemory, hswap, huptime, hcpus, hnetworks, hdisks, herrors, bind,
    Except.bind, HostSnapshot.view, emptyHostReading, Option.or_none, List.nil_append]

end Host

/-! ## The three documents -/

/-- **Wire round trip.** The bytes of each document, read by the client's parser of the same
verb, give back the document's rows, in order and field by field. -/
theorem wire_round_trip {J : JsonLib} (hJ : J.Lawful) (L : FloatLib) :
    (∀ s : Snapshot, s.Wire →
      parseSnapshotOutput J (stdoutText (Utf8.encode (writeTsv J s))) = .ok s.view) ∧
    (∀ s : SocketHolders, s.Wire →
      parseSocketHoldersOutput (stdoutText (Utf8.encode (writeTsv J s))) = .ok s.view) ∧
    (∀ s : HostSnapshot L, s.Wire →
      parseHostOutput J L (stdoutText (Utf8.encode (writeTsv J s))) = .ok s.view) := by
  refine ⟨fun s h => ?_, fun s h => ?_, fun s h => ?_⟩
  · rw [stdoutText_encode, parseSnapshotOutput_writeTsv hJ h]
  · rw [stdoutText_encode, parseSocketHoldersOutput_writeTsv J h]
  · rw [stdoutText_encode, parseHostOutput_writeTsv hJ h]

/-- A snapshot with a hostile working directory and a hostile argument. -/
def sampleSnapshot : Snapshot :=
  { Snapshot.new with
    procs := [⟨7, 1, "my proc".toList⟩]
    cwds := [⟨7, "a\tb\nc\"".toList⟩]
    statuses := [⟨7, 'S', -5, some 3⟩]
    argv := [⟨7, ["x\ny".toList, []]⟩]
    ports := [⟨.claimed 7, none, 80, "0100007f".toList⟩]
    unreadable := [⟨7, .mem, "EIO".toList⟩]
    errors := [⟨"proc_net_tcp".toList, .ports, "13".toList⟩] }

def sampleHolders : SocketHolders :=
  { SocketHolders.new with
    holders := [.claimed 7, .unclaimed]
    procs := [⟨7, 1, "my proc".toList⟩] }

/-- Floating point on numbers that are naturals. -/
def naturalFloats : FloatLib := ⟨Nat, Decimal.decimal, Nat, Decimal.value, fun _ => true⟩

def sampleHost : HostSnapshot naturalFloats :=
  { HostSnapshot.new with
    uptimeUs := some 5
    cpus := [⟨0, 1, 2, 3, 4, "a\tb".toList, some 2400⟩]
    networks := [⟨"lo".toList, 1, 2⟩] }

theorem sampleSnapshot_wire : sampleSnapshot.Wire where
  version_eq := rfl
  procs := List.forall_mem_singleton.mpr (by decide : Plain _)
  memory := List.forall_mem_nil _
  startTimes := List.forall_mem_nil _
  cpuTimes := List.forall_mem_nil _
  statuses := List.forall_mem_singleton.mpr ⟨by decide, by decide⟩
  ports := List.forall_mem_singleton.mpr
    ⟨(by decide : (7 : Pid) ≠ 0), by decide, by decide, by decide⟩
  unreadable := List.forall_mem_singleton.mpr ⟨by decide, by decide, by decide⟩
  errors := List.forall_mem_singleton.mpr ⟨by decide, by decide, by decide, by decide, by decide⟩

theorem sampleHolders_wire : sampleHolders.Wire where
  version_eq := rfl
  holders := List.forall_mem_cons.mpr
    ⟨(by decide : (7 : Pid) ≠ 0), List.forall_mem_singleton.mpr trivial⟩
  procs := List.forall_mem_singleton.mpr (by decide : Plain _)
  unreadable := List.forall_mem_nil _
  errors := List.forall_mem_nil _

theorem sampleHost_wire : sampleHost.Wire where
  version_eq := rfl
  load := by
    intro v hv
    cases hv
  memory := by
    intro v hv
    cases hv
  swap := by
    intro v hv
    cases hv
  uptimeUs := by
    intro v hv
    cases hv
    decide
  cpus := List.forall_mem_singleton.mpr
    ⟨by decide, by decide, by decide, by decide, by decide, by
      intro f hf
      cases hf
      decide⟩
  networks := List.forall_mem_singleton.mpr ⟨by decide, by decide, by decide⟩
  disks := List.forall_mem_nil _
  errors := List.forall_mem_nil _

theorem wire_round_trip_sample :
    parseSnapshotOutput .standard
        (stdoutText (Utf8.encode (writeTsv .standard sampleSnapshot))) = .ok sampleSnapshot.view ∧
    parseSocketHoldersOutput
        (stdoutText (Utf8.encode (writeTsv .standard sampleHolders))) = .ok sampleHolders.view ∧
    parseHostOutput .standard naturalFloats
        (stdoutText (Utf8.encode (writeTsv .standard sampleHost))) = .ok sampleHost.view := by
  have hround := wire_round_trip JsonLib.standard_lawful naturalFloats
  exact ⟨hround.1 _ sampleSnapshot_wire, hround.2.1 _ sampleHolders_wire,
    hround.2.2 _ sampleHost_wire⟩

end Osfacts
