import Osfacts.Client.Occupancy
import Osfacts.Contract.Acceptance
import Osfacts.Linux.SocketHolders

set_option autoImplicit false

/-! # Socket occupancy, end to end

The sensor, the document, the exit status and the client's fold, composed. Whatever the system
answers, the client ends with one of its three answers: `none` when the table proves that the
path is not bound, `held` when the search found a holder, and `unattributed` otherwise.
-/

namespace Osfacts

open Client Linux UnixSocket

/-- The ask of the client, answered by the sensor, written, and read by the client. -/
def occupancy (J : JsonLib) (writeJson : SocketHolders → Text) (bin : Text) (os : Os)
    (path : Bytes) (procs : Bool) : Except OsfactsClientError SocketOccupancy := do
  let body ← childDocument bin
    (emit J writeJson (take (socketHolders os ⟨path, procs, false⟩)) false)
  let reading ← parseSocketHoldersOutput body
  foldSocketOccupancy reading

/-- The table was read, and no socket is bound to the path. -/
def Unheld (os : Os) (path : Bytes) : Prop :=
  ∃ table, os.readBytes "/proc/net/unix".toList = .ok table ∧
    unixSocketInodes table path = .ok []

/-- The table was read, sockets with these inodes are bound to the path, and these are the
processes of the host. -/
structure HolderSearch (os : Os) (path : Bytes) (inodes : List UInt64) (pids : List Pid) :
    Prop where
  bound : ∃ table, os.readBytes "/proc/net/unix".toList = .ok table ∧
    unixSocketInodes table path = .ok inodes
  inodes_ne_nil : inodes ≠ []
  listed : hostPids os = .ok pids

/-! ## What the sensor says -/

/-- Where the rows of a document come from is beside the point here: they can be read. -/
structure NamesOk (out : SocketHolders) : Prop where
  procs : ∀ p ∈ out.procs, p.Wire
  unreadable : ∀ u ∈ out.unreadable, u.Wire

theorem nameHolder_ok {os : Os} {out : SocketHolders} (pid : Pid) (h : NamesOk out) :
    NamesOk (nameHolder os out pid) := by
  unfold nameHolder
  simp only []
  split
  case h_1 row hrow =>
      refine ⟨fun p hp => ?_, h.unreadable⟩
      rcases List.mem_append.mp hp with hp | hp
      · exact h.procs p hp
      · rw [List.mem_singleton.mp hp]
        cases hstat : os.readString (Os.procPath pid "stat") with
        | error err => rw [hstat] at hrow; cases hrow
        | ok stat =>
            rw [hstat] at hrow
            exact readProc_wire hrow
  case h_2 err _ =>
      refine ⟨h.procs, fun u hu => ?_⟩
      rcases List.mem_append.mp hu with hu | hu
      · exact h.unreadable u hu
      · rw [List.mem_singleton.mp hu]
        exact unreadable_wire pid .procs err

theorem foldl_nameHolder_ok {os : Os} (claimed : List Pid) {out : SocketHolders}
    (h : NamesOk out) : NamesOk (claimed.foldl (nameHolder os) out) := by
  induction claimed generalizing out with
  | nil => exact h
  | cons pid claimed ih => exact ih (nameHolder_ok pid h)

/-- A search that was made: the holders are the processes that hold an inode. -/
structure Found (os : Os) (inodes : List UInt64) (pids : List Pid) (out : SocketHolders) :
    Prop where
  version_eq : out.version = SCHEMA_VERSION
  holders_eq : out.holders = holderRows (claimed os inodes pids)
  errors_eq : out.errors = []
  names : NamesOk out

theorem namesOk_of_nil {out : SocketHolders} (hprocs : out.procs = [])
    (hunreadable : out.unreadable = []) : NamesOk out := by
  constructor
  · rw [hprocs]
    exact List.forall_mem_nil _
  · rw [hunreadable]
    exact List.forall_mem_nil _

section Sensor

variable {os : Os} {path : Bytes}

theorem unheld_iff {table : Bytes} (htable : os.readBytes "/proc/net/unix".toList = .ok table) :
    Unheld os path ↔ unixSocketInodes table path = .ok [] := by
  constructor
  · rintro ⟨table', hread, hnone⟩
    rw [htable] at hread
    cases hread
    exact hnone
  · exact fun h => ⟨table, htable, h⟩

theorem holderSearch_iff {table : Bytes} {inodes : List UInt64} {pids : List Pid}
    (htable : os.readBytes "/proc/net/unix".toList = .ok table) :
    HolderSearch os path inodes pids ↔
      unixSocketInodes table path = .ok inodes ∧ inodes ≠ [] ∧ hostPids os = .ok pids := by
  constructor
  · rintro ⟨⟨table', hread, hinodes⟩, hne, hlisted⟩
    rw [htable] at hread
    cases hread
    exact ⟨hinodes, hne, hlisted⟩
  · rintro ⟨hinodes, hne, hlisted⟩
    exact ⟨⟨table, htable, hinodes⟩, hne, hlisted⟩

/-- Naming the holders, where it was asked, keeps the outcome of the search. -/
theorem Found.named {inodes : List UInt64} {pids : List Pid} {out : SocketHolders}
    (h : Found os inodes pids out) (procs : Bool) (holders : List Pid) :
    Found os inodes pids (if procs then holders.foldl (nameHolder os) out else out) := by
  split_ifs
  · obtain ⟨hholders, herrors, hversion⟩ := foldl_nameHolder os holders out
    exact ⟨hversion.trans h.version_eq, hholders.trans h.holders_eq, herrors.trans h.errors_eq,
      foldl_nameHolder_ok holders h.names⟩
  · exact h

/-- **The sensor's three documents**: a blind source, the proof that the path is not bound, and
the outcome of a search. -/
theorem socketHolders_cases (os : Os) (path : Bytes) (procs : Bool) :
    (∃ source err, (source = "proc_net_unix" ∨ source = "proc_readdir") ∧
      socketHolders os ⟨path, procs, false⟩ = holdersBlind source err ∧
      ¬ Unheld os path ∧ ∀ inodes pids, ¬ HolderSearch os path inodes pids) ∨
    (socketHolders os ⟨path, procs, false⟩ = SocketHolders.new ∧
      Unheld os path ∧ ∀ inodes pids, ¬ HolderSearch os path inodes pids) ∨
    (∃ inodes pids, HolderSearch os path inodes pids ∧ ¬ Unheld os path ∧
      Found os inodes pids (socketHolders os ⟨path, procs, false⟩)) := by
  unfold socketHolders
  cases htable : os.readBytes "/proc/net/unix".toList with
  | error err =>
      refine Or.inl ⟨_, err, Or.inl rfl, rfl, ?_, ?_⟩
      · rintro ⟨table, hread, -⟩
        rw [htable] at hread
        cases hread
      · rintro inodes pids ⟨⟨table, hread, -⟩, -, -⟩
        rw [htable] at hread
        cases hread
  | ok table =>
      simp only [unheld_iff htable, holderSearch_iff htable]
      cases hinodes : unixSocketInodes table path with
      | error e => exact Or.inl ⟨_, Libc.EINVAL, Or.inl rfl, rfl, by simp, by simp⟩
      | ok inodes =>
          cases inodes with
          | nil =>
              refine Or.inr (Or.inl ⟨rfl, rfl, ?_⟩)
              rintro inodes pids ⟨hsome, hne, -⟩
              cases hsome
              exact hne rfl
          | cons inode inodes =>
              cases hpids : hostPids os with
              | error err =>
                  exact Or.inl ⟨_, err, Or.inr rfl, rfl, by simp, by simp⟩
              | ok pids =>
                  refine Or.inr (Or.inr ⟨inode :: inodes, pids,
                    ⟨rfl, List.cons_ne_nil _ _, rfl⟩, by simp, ?_⟩)
                  exact Found.named ⟨rfl, rfl, rfl, namesOk_of_nil rfl rfl⟩ procs _

end Sensor

/-! ## From the document to the fold -/

theorem take_wire {out : SocketHolders} (hversion : out.version = SCHEMA_VERSION)
    (hholders : ∀ h ∈ out.holders, h.Wire) (hnames : NamesOk out)
    (herrors : ∀ e ∈ out.errors, e.Wire Facet.SOCKET_HOLDERS_SOURCE) : (take out).Wire where
  version_eq := hversion
  holders h hh := hholders h (mem_sortByKey.mp (mem_of_mem_dedupByKey hh))
  procs p hp := hnames.procs p (mem_sortByKey.mp hp)
  unreadable u hu := hnames.unreadable u (mem_of_mem_normalizeUnreadable hu)
  errors := herrors

/-- The version line comes first. -/
theorem writeTsv_version (J : JsonLib) (doc : SocketHolders) :
    "V\t".toList.isPrefixOf (writeTsv J doc) = true := rfl

/-- A document the client can read is folded, whatever its exit status. -/
theorem occupancy_eq (J : JsonLib) (writeJson : SocketHolders → Text) (bin : Text) (os : Os)
    (path : Bytes) (procs : Bool) (h : (take (socketHolders os ⟨path, procs, false⟩)).Wire) :
    occupancy J writeJson bin os path procs
      = foldSocketOccupancy (take (socketHolders os ⟨path, procs, false⟩)).view := by
  generalize hdoc : take (socketHolders os ⟨path, procs, false⟩) = doc at h ⊢
  have hchild := childDocument_emit bin (J := J) writeJson (writeTsv_version J doc)
  calc occupancy J writeJson bin os path procs
      = (parseSocketHoldersOutput (writeTsv J doc) >>= foldSocketOccupancy) := by
        rw [occupancy, hdoc, hchild]
        rfl
    _ = foldSocketOccupancy doc.view := by
        rw [parseSocketHoldersOutput_writeTsv J h]
        rfl

/-- The pids of the holders the client names. -/
def heldPids (holders : List Attribution) : List Nat :=
  holders.filterMap (fun holder =>
    match holder with
    | .claimed pid => some pid.toNat
    | .unclaimed => none)

theorem namedHolders_pids (doc : SocketHolders) :
    (namedHolders doc.view).map SocketHolder.pid = heldPids doc.holders := by
  rw [namedHolders, heldPids, List.map_filterMap]
  show (doc.holders.map Attribution.view).filterMap _ = _
  rw [List.filterMap_map]
  congr
  funext holder
  cases holder <;> rfl

/-! ## The holders in document order -/

theorem holderKey_injective : Function.Injective holderKey := by
  intro a b h
  cases a <;> cases b <;> simp_all [holderKey, UInt32.toNat_inj]

/-- The named pids are the claimed ones, ascending and without repeats. -/
theorem heldPids_normalize (pids : List Pid) :
    (heldPids (dedupByKey holderKey (sortByKey holderKey (pids.map .claimed)))).Pairwise (· < ·) ∧
    ∀ n, n ∈ heldPids (dedupByKey holderKey (sortByKey holderKey (pids.map .claimed))) ↔
      ∃ pid ∈ pids, pid.toNat = n := by
  constructor
  · rw [heldPids, List.pairwise_filterMap]
    refine (pairwise_dedup_sort holderKey _).imp ?_
    intro a b hab m hm n hn
    cases a with
    | unclaimed => cases hm
    | claimed p =>
        cases b with
        | unclaimed => cases hn
        | claimed q =>
            cases hm
            cases hn
            simpa [holderKey, Prod.Lex.toLex_lt_toLex] using hab
  · intro n
    rw [heldPids, List.mem_filterMap]
    constructor
    · rintro ⟨holder, hmem, hn⟩
      have hraw := mem_sortByKey.mp (mem_of_mem_dedupByKey hmem)
      obtain ⟨pid, hpid, rfl⟩ := List.mem_map.mp hraw
      exact ⟨pid, hpid, Option.some.inj hn⟩
    · rintro ⟨pid, hpid, rfl⟩
      have hsorted : Attribution.claimed pid ∈ sortByKey holderKey (pids.map .claimed) :=
        mem_sortByKey.mpr (List.mem_map_of_mem hpid)
      obtain ⟨holder, hmem, hkey⟩ := exists_key_dedupByKey holderKey hsorted
      obtain rfl := holderKey_injective hkey
      exact ⟨_, hmem, rfl⟩

/-! ## The three answers -/

section Answers

variable (J : JsonLib) (writeJson : SocketHolders → Text) (bin : Text) {os : Os} {path : Bytes}
  {procs : Bool}

/-- A blind source is `unattributed`. -/
theorem occupancy_blind {source : String} {err : Errno}
    (hsource : source = "proc_net_unix" ∨ source = "proc_readdir")
    (h : socketHolders os ⟨path, procs, false⟩ = holdersBlind source err) :
    ∃ detail, occupancy J writeJson bin os path procs = .ok (.unattributed detail) := by
  have herrors : ∀ e ∈ (holdersBlind source err).errors, e.Wire Facet.SOCKET_HOLDERS_SOURCE := by
    intro e he
    rw [List.mem_singleton.mp he]
    rcases hsource with rfl | rfl
    all_goals exact sourceError_wire (by decide) (by decide) (by decide)
  have hwire : (take (holdersBlind source err)).Wire :=
    take_wire rfl (List.forall_mem_nil _) (namesOk_of_nil rfl rfl) herrors
  rw [occupancy_eq J writeJson bin os path procs (h.symm ▸ hwire), h]
  exact ⟨_, rfl⟩

/-- An empty document without a blind source is `none`. -/
theorem occupancy_new (h : socketHolders os ⟨path, procs, false⟩ = SocketHolders.new) :
    occupancy J writeJson bin os path procs = .ok .none := by
  have hwire : (take SocketHolders.new).Wire :=
    take_wire rfl (List.forall_mem_nil _) (namesOk_of_nil rfl rfl) (List.forall_mem_nil _)
  rw [occupancy_eq J writeJson bin os path procs (h.symm ▸ hwire), h]
  rfl

theorem found_wire {inodes : List UInt64} {pids : List Pid} {out : SocketHolders}
    (hlisted : hostPids os = .ok pids) (h : Found os inodes pids out) : (take out).Wire := by
  refine take_wire h.version_eq (fun holder hh => ?_) h.names (h.errors_eq ▸ List.forall_mem_nil _)
  rw [h.holders_eq, holderRows] at hh
  split_ifs at hh
  · rw [List.mem_singleton.mp hh]
    exact True.intro
  · obtain ⟨pid, hpid, rfl⟩ := List.mem_map.mp hh
    rintro rfl
    exact (nodup_hostPids hlisted).2 (mem_claimed.mp hpid).1

/-- A search that finds no holder is `unattributed`. -/
theorem occupancy_unclaimed {inodes : List UInt64} {pids : List Pid}
    (hlisted : hostPids os = .ok pids)
    (h : Found os inodes pids (socketHolders os ⟨path, procs, false⟩))
    (hnone : claimed os inodes pids = []) :
    ∃ detail, occupancy J writeJson bin os path procs = .ok (.unattributed detail) := by
  rw [occupancy_eq J writeJson bin os path procs (found_wire hlisted h)]
  have hholders : (take (socketHolders os ⟨path, procs, false⟩)).view.holders = [.unclaimed] := by
    show (dedupByKey holderKey (sortByKey holderKey _)).map Attribution.view = _
    rw [h.holders_eq, holderRows, if_pos hnone]
    rfl
  have hnamed : namedHolders (take (socketHolders os ⟨path, procs, false⟩)).view = [] := by
    rw [namedHolders, hholders]
    rfl
  rw [foldSocketOccupancy, hnamed, hholders]
  exact ⟨_, rfl⟩

/-- A search that finds holders is `held`, by exactly those. -/
theorem occupancy_held {inodes : List UInt64} {pids : List Pid}
    (hlisted : hostPids os = .ok pids)
    (h : Found os inodes pids (socketHolders os ⟨path, procs, false⟩))
    (hsome : claimed os inodes pids ≠ []) :
    ∃ first rest, occupancy J writeJson bin os path procs = .ok (.held first rest) ∧
      ((first :: rest).map SocketHolder.pid).Pairwise (· < ·) ∧
      ∀ n, n ∈ (first :: rest).map SocketHolder.pid ↔
        ∃ pid ∈ pids, Holds os inodes pid ∧ pid.toNat = n := by
  rw [occupancy_eq J writeJson bin os path procs (found_wire hlisted h)]
  -- normalisation and the client's fold act on the claimed pids alone
  have hpids : (namedHolders (take (socketHolders os ⟨path, procs, false⟩)).view).map
      SocketHolder.pid = heldPids (dedupByKey holderKey
          (sortByKey holderKey ((claimed os inodes pids).map .claimed))) := by
    rw [namedHolders_pids]
    show heldPids (dedupByKey holderKey (sortByKey holderKey _)) = _
    rw [h.holders_eq, holderRows, if_neg hsome]
  obtain ⟨hascending, hmem⟩ := heldPids_normalize (claimed os inodes pids)
  rw [← hpids] at hascending hmem
  have hexact : ∀ n, n ∈ (namedHolders (take (socketHolders os ⟨path, procs, false⟩)).view).map
      SocketHolder.pid ↔ ∃ pid ∈ pids, Holds os inodes pid ∧ pid.toNat = n := by
    intro n
    rw [hmem n]
    simp only [mem_claimed, and_assoc]
  cases hnamed : namedHolders (take (socketHolders os ⟨path, procs, false⟩)).view with
  | nil =>
      -- a claimed pid is named, so the list is not empty
      obtain ⟨pid, hpid⟩ := List.exists_mem_of_ne_nil _ hsome
      have hn := (hmem pid.toNat).mpr ⟨pid, hpid, rfl⟩
      rw [hnamed] at hn
      cases hn
  | cons first rest =>
      rw [hnamed] at hascending hexact
      refine ⟨first, rest, ?_, hascending, hexact⟩
      rw [foldSocketOccupancy, hnamed]

end Answers

/-- Two searches of one state are the same search. -/
theorem HolderSearch.unique {os : Os} {path : Bytes} {inodes inodes' : List UInt64}
    {pids pids' : List Pid} (h : HolderSearch os path inodes pids)
    (h' : HolderSearch os path inodes' pids') : inodes = inodes' ∧ pids = pids' := by
  obtain ⟨table, hread, hinodes⟩ := h.bound
  obtain ⟨table', hread', hinodes'⟩ := h'.bound
  rw [hread] at hread'
  cases hread'
  rw [hinodes] at hinodes'
  cases hinodes'
  have hlisted := h.listed.symm.trans h'.listed
  cases hlisted
  exact ⟨rfl, rfl⟩

/-- **Socket occupancy keeps its three answers apart.** The pipeline never throws. It answers
`none` exactly when the table was read and no socket is bound to the path; `held` exactly when
the search was made and some listed process holds one of the inodes, and then with exactly
those processes, ascending; and `unattributed` in every other case. -/
theorem occupancy_answers (J : JsonLib) (writeJson : SocketHolders → Text) (bin : Text) (os : Os)
    (path : Bytes) (procs : Bool) :
    ∃ answer, occupancy J writeJson bin os path procs = .ok answer ∧
      (answer = .none ↔ Unheld os path) ∧
      ((∃ first rest, answer = .held first rest) ↔ ∃ inodes pids,
        HolderSearch os path inodes pids ∧ ∃ pid ∈ pids, Holds os inodes pid) ∧
      (∀ first rest, answer = .held first rest → ∀ inodes pids,
        HolderSearch os path inodes pids →
          ((first :: rest).map SocketHolder.pid).Pairwise (· < ·) ∧
          ∀ n, n ∈ (first :: rest).map SocketHolder.pid ↔
            ∃ pid ∈ pids, Holds os inodes pid ∧ pid.toNat = n) ∧
      (¬ Unheld os path → (∀ inodes pids, HolderSearch os path inodes pids →
        ∀ pid ∈ pids, ¬ Holds os inodes pid) → ∃ detail, answer = .unattributed detail) := by
  rcases socketHolders_cases os path procs with ⟨source, err, hsource, hdoc, hunheld, hsearch⟩
    | ⟨hdoc, hunheld, hsearch⟩ | ⟨inodes, pids, hsearch, hunheld, hfound⟩
  · -- a blind source
    obtain ⟨detail, hanswer⟩ := occupancy_blind J writeJson bin hsource hdoc
    refine ⟨_, hanswer, ?_, ?_, ?_, fun _ _ => ⟨detail, rfl⟩⟩
    · simp [hunheld]
    · simp [hsearch]
    · intro first rest h
      cases h
  · -- not bound
    refine ⟨_, occupancy_new J writeJson bin hdoc, ?_, ?_, ?_, fun h => absurd hunheld h⟩
    · simp [hunheld]
    · simp [hsearch]
    · intro first rest h
      cases h
  by_cases hnone : claimed os inodes pids = []
  · -- bound, and held by no readable process
    obtain ⟨detail, hanswer⟩ := occupancy_unclaimed J writeJson bin hsearch.listed hfound hnone
    refine ⟨_, hanswer, ?_, ?_, ?_, fun _ _ => ⟨detail, rfl⟩⟩
    · simp [hunheld]
    · constructor
      · rintro ⟨first, rest, h⟩
        cases h
      · rintro ⟨inodes', pids', h, pid, hpid, hholds⟩
        obtain ⟨rfl, rfl⟩ := hsearch.unique h
        have hmem := mem_claimed.mpr ⟨hpid, hholds⟩
        rw [hnone] at hmem
        cases hmem
    · intro first rest h
      cases h
  · -- held
    obtain ⟨first, rest, hanswer, hascending, hexact⟩ :=
      occupancy_held J writeJson bin hsearch.listed hfound hnone
    obtain ⟨pid, hpid⟩ := List.exists_mem_of_ne_nil _ hnone
    obtain ⟨hpid, hholds⟩ := mem_claimed.mp hpid
    refine ⟨_, hanswer, ?_, ?_, ?_, fun _ hno => absurd hholds (hno inodes pids hsearch pid hpid)⟩
    · simp [hunheld]
    · exact iff_of_true ⟨first, rest, rfl⟩ ⟨inodes, pids, hsearch, pid, hpid, hholds⟩
    · intro first' rest' h inodes' pids' hsearch'
      cases h
      obtain ⟨rfl, rfl⟩ := hsearch.unique hsearch'
      exact ⟨hascending, hexact⟩

end Osfacts
