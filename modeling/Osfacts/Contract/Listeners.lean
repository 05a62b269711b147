import Osfacts.Contract.Account
import Osfacts.Contract.TcpTable

set_option autoImplicit false

/-! # Listener attribution, end to end

From the two tables the kernel prints and the descriptors it shows of each selected pid to the
`L` and the `U` rows of a snapshot: one `L` row for each inode that listens, claimed by the
first pid that is seen to hold it.
-/

namespace Osfacts.Linux

open Os

/-- What the two files show. A host without IPv6 has no second one. -/
structure ShowsTcp (os : Os) (tcp : TcpTable) (tcp6 : Option TcpTable) : Prop where
  tcp_read : os.readBytes "/proc/net/tcp".toList = .ok (Utf8.encode tcp.text)
  tcp6_read : os.readBytes "/proc/net/tcp6".toList
    = tcp6.elim (.error Libc.ENOENT) (fun t => .ok (Utf8.encode t.text))

/-- The sockets that listen, those of the first table first. -/
def listening (tcp : TcpTable) (tcp6 : Option TcpTable) : List TcpSocket :=
  (tcp.sockets ++ tcp6.elim [] TcpTable.sockets).filter (fun s => s.Listens)

/-- The row of a socket: its holder is the first of the pids that is seen to hold it. -/
def portOfSocket (os : Os) (pids : List Pid) (s : TcpSocket) : Port where
  attribution := (holder os pids s.inode).elim .unclaimed .claimed
  uid := some s.uid
  port := s.port
  address := hexBytes s.address

/-! ## The tables -/

theorem readString_encode {os : Os} {path t : Text}
    (h : os.readBytes path = .ok (Utf8.encode t)) : os.readString path = .ok t := by
  change os.readFile path = _ at h
  rw [Os.readString, h, ok_bind, fromUtf8, Utf8.decode_encode]
  rfl

theorem loadListeners_of_shows {os : Os} {tcp : TcpTable} {tcp6 : Option TcpTable}
    (h : ShowsTcp os tcp tcp6) :
    loadListeners os
      = .ok ((firsts TcpSocket.inode (listening tcp tcp6)).map TcpSocket.listener) := by
  rw [loadListeners, readString_encode h.tcp_read]
  show (fromSource "proc_net_tcp" (parseProcNet tcp.text) >>= _) = _
  rw [tcp.parseProcNet_text]
  have htcp6 := h.tcp6_read
  cases tcp6 with
  | none =>
      have herror : os.readString "/proc/net/tcp6".toList = .error Libc.ENOENT := by
        change os.readFile _ = _ at htcp6
        rw [Os.readString, htcp6]
        rfl
      have hsockets : listening tcp none = tcp.listening := by
        rw [listening, Option.elim_none, List.append_nil, TcpTable.listening]
      rw [herror, hsockets, ← retainNew_listening]
      rfl
  | some t =>
      have hsockets : listening tcp (some t) = tcp.listening ++ t.listening := List.filter_append ..
      rw [readString_encode htcp6, hsockets, ← retainNew_listening, List.map_append]
      show (fromSource "proc_net_tcp6" (parseProcNet t.text) >>= _) = _
      rw [t.parseProcNet_text]
      rfl

/-! ## The rows -/

section Rows

variable {os : Os} {args : SnapshotArgs} {pids : List Pid}

theorem ports_of_shows (hsel : selected os args = .ok pids) (hask : args.ports = true)
    {tcp : TcpTable} {tcp6 : Option TcpTable} (h : ShowsTcp os tcp tcp6) :
    (snapshot os args).ports
      = (firsts TcpSocket.inode (listening tcp tcp6)).map (portOfSocket os pids) := by
  rw [(snapshot_eq hsel).2.1, portRows, hask, loadListeners_of_shows h]
  show ((firsts TcpSocket.inode (listening tcp tcp6)).map TcpSocket.listener).map _ = _
  rw [List.map_map]
  refine List.map_congr_left fun s _ => ?_
  show portOfListener (claimsOf os pids) s.listener = portOfSocket os pids s
  rw [portOfListener, portOfSocket, lookup_claimsOf]
  rfl

theorem facet_of_collectionRows {u : Unreadable} (h : u ∈ collectionRows os args) :
    u.facet = .proc := by
  obtain ⟨r, err, rfl⟩ := exists_of_mem_collectionRows h
  rfl

/-- The `U ports` rows are those of the descriptor walk. -/
theorem mem_unreadable_ports (hsel : selected os args = .ok pids) (hask : args.ports = true)
    {ls : List Listener} (hload : loadListeners os = .ok ls) {u : Unreadable} :
    u ∈ (snapshot os args).unreadable ∧ u.facet = .ports ↔
      ∃ pid ∈ pids, ∃ err, socketInodes os pid = .error err ∧
        u = ⟨pid, .ports, errnoName err⟩ := by
  rw [mem_unreadable hsel, mem_portBlame]
  constructor
  · rintro ⟨hu | ⟨pid, -, f, err, hf, -, rfl⟩ | ⟨-, -, hu⟩, hfacet⟩
    · rw [facet_of_collectionRows hu] at hfacet
      cases hfacet
    · exact absurd (Flag.eq_ports hfacet.symm) hf
    · exact hu
  · rintro ⟨pid, hpid, err, hwalk, rfl⟩
    exact ⟨Or.inr (Or.inr ⟨hask, ⟨ls, hload⟩, pid, hpid, err, hwalk, rfl⟩), rfl⟩

/-- Each selected pid whose descriptors cannot be read has one `U ports` row, with its errno,
and no other pid has one. -/
theorem unreadable_ports (hsel : selected os args = .ok pids) (hask : args.ports = true)
    {ls : List Listener} (hload : loadListeners os = .ok ls) (pid : Pid) :
    (normalize (snapshot os args)).unreadable.filter (fun u => u.pid = pid ∧ u.facet = .ports)
      = if pid ∈ pids then blame pid .ports (some (socketInodes os pid)) else [] := by
  have hcount := countP_normalizeUnreadable (snapshot os args).unreadable pid .ports
  rw [List.countP_eq_length_filter] at hcount
  change ((normalize (snapshot os args)).unreadable.filter _).length = _ at hcount
  have hmem : ∀ u ∈ (normalize (snapshot os args)).unreadable.filter
      (fun u => u.pid = pid ∧ u.facet = .ports),
      pid ∈ pids ∧ ∃ err, socketInodes os pid = .error err ∧
        u = ⟨pid, .ports, errnoName err⟩ := by
    intro u hu
    obtain ⟨hu, hkey⟩ := List.mem_filter.mp hu
    obtain ⟨hupid, hfacet⟩ := of_decide_eq_true hkey
    obtain ⟨p, hp, err, hwalk, rfl⟩ := (mem_unreadable_ports hsel hask hload).mp
      ⟨mem_of_mem_normalizeUnreadable hu, hfacet⟩
    obtain rfl : p = pid := hupid
    exact ⟨hp, err, hwalk, rfl⟩
  by_cases hblind : pid ∈ pids ∧ ∃ err, socketInodes os pid = .error err
  · obtain ⟨hpid, err, hwalk⟩ := hblind
    have hraw := (mem_unreadable_ports hsel hask hload).mpr ⟨pid, hpid, err, hwalk, rfl⟩
    rw [if_pos ⟨_, hraw.1, rfl, rfl⟩] at hcount
    obtain ⟨u, hone⟩ := List.length_eq_one_iff.mp hcount
    rw [hone] at hmem ⊢
    obtain ⟨-, err', hwalk', rfl⟩ := hmem u (List.mem_singleton.mpr rfl)
    rw [hwalk] at hwalk'
    cases hwalk'
    rw [if_pos hpid, hwalk]
    rfl
  · have hnil : (normalize (snapshot os args)).unreadable.filter
        (fun u => u.pid = pid ∧ u.facet = .ports) = [] := by
      rw [List.eq_nil_iff_forall_not_mem]
      intro u hu
      obtain ⟨hpid, err, hwalk, -⟩ := hmem u hu
      exact hblind ⟨hpid, err, hwalk⟩
    rw [hnil]
    split_ifs with hpid
    · cases hwalk : socketInodes os pid with
      | ok inodes => rfl
      | error err => exact absurd ⟨hpid, err, hwalk⟩ hblind
    · rfl

end Rows

/-- What a snapshot says of the sockets that listen, with the first socket of each inode. -/
structure Attributed (os : Os) (args : SnapshotArgs) (pids : List Pid)
    (sockets first : List TcpSocket) : Prop where
  once : (first.map TcpSocket.inode).Nodup
  mem_iff : ∀ inode, inode ∈ first.map TcpSocket.inode ↔ ∃ s ∈ sockets, s.inode = inode
  is_first : ∀ s ∈ first, sockets.find? (fun other => other.inode == s.inode) = some s
  ports_eq : (snapshot os args).ports = first.map (portOfSocket os pids)
  ports_kept : (normalize (snapshot os args)).ports.Perm (snapshot os args).ports
  unreadable_eq : ∀ pid, (normalize (snapshot os args)).unreadable.filter
      (fun u => u.pid = pid ∧ u.facet = .ports)
    = if pid ∈ pids then blame pid .ports (some (socketInodes os pid)) else []

/-- **Listener attribution.** Of the sockets the two tables show, every inode that listens has
exactly one `L` row, built from the first socket with that inode and claimed by the first
selected pid that is seen to hold it; there is no other `L` row. A selected pid whose descriptors
cannot be read has one `U ports` row, and no other pid has one. -/
theorem listeners_attributed {os : Os} {args : SnapshotArgs} {pids : List Pid}
    (hsel : selected os args = .ok pids) (hask : args.ports = true) {tcp : TcpTable}
    {tcp6 : Option TcpTable} (h : ShowsTcp os tcp tcp6) :
    ∃ first, Attributed os args pids (listening tcp tcp6) first := by
  refine ⟨firsts TcpSocket.inode (listening tcp tcp6), ?_, fun inode => ?_,
    fun s hs => mem_firsts.mp hs, ports_of_shows hsel hask h,
    table_normalize_perm (snapshot os args) .ports,
    unreadable_ports hsel hask (loadListeners_of_shows h)⟩
  · rw [map_key_firsts]
    exact nodup_eraseDups _
  · rw [map_key_firsts, List.mem_eraseDups, List.mem_map]

/-! ## A sample -/

theorem dots_plain : ∀ c ∈ "..".toList, isWhitespace c = false := by
  have hall : "..".toList.all (fun c => isWhitespace c == false) = true := rfl
  simpa only [List.all_eq_true, beq_iff_eq] using hall

/-- A column the sensor does not read. -/
def dots : Word := ⟨"..".toList, List.cons_ne_nil _ _, dots_plain⟩

def spaces (i : Nat) : Text := if i = 0 then [] else [' ']

theorem blank_spaces (i : Nat) : ∀ c ∈ spaces i, Blank c := by
  unfold spaces
  split_ifs
  · exact List.forall_mem_nil _
  · exact List.forall_mem_singleton.mpr ⟨rfl, by decide, by decide⟩

theorem spaces_ne_nil (i : Nat) (h : 0 < i) : spaces i ≠ [] := by
  rw [spaces, if_neg (by omega)]
  exact List.cons_ne_nil _ _

/-- The line of a socket of user 0 that listens on every address. -/
def listenLine (port : UInt16) (inode : UInt64) : TcpLine where
  socket := ⟨[0, 0, 0, 0], port, LISTEN, 0, inode, Or.inl rfl⟩
  upper := true
  slot := dots
  remote := dots
  queues := dots
  timer := dots
  retransmits := dots
  timeout := dots
  extras := []
  gap := spaces
  trail := []
  gap_blank := blank_spaces
  gap_ne_nil := spaces_ne_nil
  trail_blank := List.forall_mem_nil _

/-- Two sockets that share port 80. -/
def sharedTable : TcpTable where
  header := "sl local_address".toList
  lines := [listenLine 80 10, listenLine 80 11]
  header_named := by decide
  header_one := by decide

theorem nodup_sharedPids : [(7 : Pid)].Nodup := List.nodup_singleton 7

theorem zero_not_mem_sharedPids : (0 : Pid) ∉ [7] := by decide

/-- The process 7 holds the second socket. -/
def sharedOs : Os :=
  Os.ofTables [("/proc/net/tcp".toList, Utf8.encode sharedTable.text)]
    [("/proc/7/fd".toList, [ascii "3"])] [("/proc/7/fd/3".toList, ascii "socket:[11]")]
    [7] nodup_sharedPids zero_not_mem_sharedPids

def sharedArgs : SnapshotArgs :=
  { SnapshotArgs.default with scope := .pids [7, 9], ports := true }

theorem sharedOs_shows : ShowsTcp sharedOs sharedTable none := ⟨rfl, rfl⟩

theorem listeners_attributed_sample :
    ∃ first, Attributed sharedOs sharedArgs [7, 9] (listening sharedTable none) first :=
  listeners_attributed (by rfl) (by rfl) sharedOs_shows

end Osfacts.Linux
