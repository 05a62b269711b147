import Osfacts.Contract.DarwinOrder
import Osfacts.Contract.Forest
import Osfacts.Contract.Listeners

set_option autoImplicit false

/-! # The same listeners on every system

What an ask for ports is about, on whatever system: the endpoints that listen, and who has each of
them open. Linux prints its sockets as text, each word of an address in host order, and knows a
socket by its inode; darwin lays them out as records, and knows a socket by its port and address.
The listeners of the two documents are the same rows, but for the owner, which darwin does not
know.
-/

namespace Osfacts

open Pcblist (HostListener Inpcb Socket)

/-- Where a socket listens. The address is in network order. -/
structure Endpoint where
  port : UInt16
  address : Bytes
  deriving DecidableEq

def Endpoint.key (e : Endpoint) : HostListener := (e.port, hexBytes e.address)

/-- What listens, and who has it open. -/
structure Listening where
  endpoints : List Endpoint
  has : Pid → Endpoint → Bool

/-- The row of an endpoint without its owner: it goes to the first of the pids that has it. -/
def Listening.row (net : Listening) (pids : List Pid) (e : Endpoint) : Port where
  attribution := (pids.find? (fun pid => net.has pid e)).elim .unclaimed .claimed
  uid := none
  port := e.port
  address := hexBytes e.address

/-- The rows in the order of a document. -/
def Listening.rows (net : Listening) (pids : List Pid) : List Port :=
  sortByKey portKey (net.endpoints.map (net.row pids))

def Port.withoutUid (row : Port) : Port := { row with uid := none }

/-! ## Endpoints -/

/-- Two bytes with the same digits are one. -/
theorem hexBytes_injective : Function.Injective hexBytes := by
  intro a b h
  refine List.ext_getElem? fun i => ?_
  rw [← Linux.byteAt_hexBytes false a i, ← Linux.byteAt_hexBytes false b i, h]

theorem Endpoint.key_injective : Function.Injective Endpoint.key := by
  rintro ⟨port, address⟩ ⟨port', address'⟩ h
  rw [Endpoint.key, Endpoint.key, Prod.mk.injEq] at h
  rw [Endpoint.mk.injEq]
  exact ⟨h.1, hexBytes_injective h.2⟩

section Rows

variable {net : Listening} {pids : List Pid}

/-- The key by which rows are sorted tells the endpoint. -/
theorem Listening.eq_of_portKey {e e' : Endpoint}
    (h : portKey (net.row pids e) = portKey (net.row pids e')) : e = e' := by
  have hport : (net.row pids e).port.toNat = (net.row pids e').port.toNat :=
    congrArg (fun k => (ofLex k).1) h
  have haddress : (net.row pids e).address.map Char.toNat
      = (net.row pids e').address.map Char.toNat :=
    congrArg (fun k => (ofLex (ofLex k).2).2) h
  have hchars : Function.Injective Char.toNat := fun c d => Char.toNat_inj.mp
  exact Endpoint.key_injective
    (Prod.ext (UInt16.toNat_inj.mp hport) (hchars.list_map haddress))

/-- Rows of the endpoints, in whatever order they were found. -/
theorem Listening.rows_of_perm {rows : List Port}
    (h : (rows.map Port.withoutUid).Perm (net.endpoints.map (net.row pids))) :
    (sortByKey portKey rows).map Port.withoutUid = net.rows pids := by
  have hmap : (sortByKey portKey rows).map Port.withoutUid
      = sortByKey portKey (rows.map Port.withoutUid) :=
    List.map_insertionSort _ _ _ _ (fun _ _ _ _ => Iff.rfl)
  rw [hmap, Listening.rows]
  refine (((sortByKey_perm portKey _).trans h).trans (sortByKey_perm portKey _).symm).eq_of_pairwise
    (fun a b ha hb hab hba => ?_) (pairwise_sortByKey portKey _) (pairwise_sortByKey portKey _)
  rw [mem_sortByKey] at ha hb
  obtain ⟨e, -, rfl⟩ := List.mem_map.mp (h.mem_iff.mp ha)
  obtain ⟨e', -, rfl⟩ := List.mem_map.mp hb
  rw [Listening.eq_of_portKey (le_antisymm hab hba)]

end Rows

/-! ## Linux -/

section Linux

open Linux

def Linux.TcpSocket.endpoint (s : TcpSocket) : Endpoint := ⟨s.port, s.address⟩

/-- The two tables list the endpoints, no two sockets share an inode, and the pids have links to the
sockets of what they have open. -/
structure Linux.Hears (os : Os) (net : Listening) (pids : List Pid) (tcp : TcpTable)
    (tcp6 : Option TcpTable) : Prop where
  tables : ShowsTcp os tcp tcp6
  endpoints : ((listening tcp tcp6).map TcpSocket.endpoint).Perm net.endpoints
  inodes : ((listening tcp tcp6).map TcpSocket.inode).Nodup
  held : ∀ pid ∈ pids, ∀ s ∈ listening tcp tcp6,
    s.inode ∈ heldInodes os pid ↔ net.has pid (s.endpoint) = true

variable {os : Os} {net : Listening} {pids : List Pid} {tcp : TcpTable} {tcp6 : Option TcpTable}

theorem find_congr {α : Type} {p q : α → Bool} {l : List α} (h : ∀ a ∈ l, p a = q a) :
    l.find? p = l.find? q := by
  induction l with
  | nil => rfl
  | cons a l ih =>
      rw [List.find?_cons, List.find?_cons, h a List.mem_cons_self,
        ih (fun b hb => h b (List.mem_cons_of_mem a hb))]

/-- The row of a socket is that of its endpoint. -/
theorem Linux.Hears.portOfSocket_eq (h : Linux.Hears os net pids tcp tcp6) {s : TcpSocket}
    (hs : s ∈ listening tcp tcp6) :
    (portOfSocket os pids s).withoutUid = net.row pids (s.endpoint) := by
  have hholder : holder os pids s.inode
      = pids.find? (fun pid => net.has pid (s.endpoint)) := by
    refine find_congr fun pid hpid => ?_
    rw [Bool.eq_iff_iff, decide_eq_true_eq, h.held pid hpid s hs]
  rw [Port.withoutUid, portOfSocket, Listening.row, hholder]
  rfl

theorem Linux.Hears.ports (h : Linux.Hears os net pids tcp tcp6) {args : SnapshotArgs}
    (hsel : selected os args = .ok pids) (hask : args.ports = true) :
    (normalize (Linux.snapshot os args)).ports.map Port.withoutUid = net.rows pids := by
  have hraw : ((Linux.snapshot os args).ports.map Port.withoutUid)
      = ((listening tcp tcp6).map TcpSocket.endpoint).map (net.row pids) := by
    rw [ports_of_shows hsel hask h.tables, firsts_of_nodup h.inodes, List.map_map, List.map_map]
    exact List.map_congr_left fun s hs => h.portOfSocket_eq hs
  rw [ports_normalize]
  exact Listening.rows_of_perm (hraw ▸ h.endpoints.map (net.row pids))

end Linux

/-! ## Darwin -/

section Darwin

open Darwin

def Pcblist.Inpcb.endpoint (i : Inpcb) : Endpoint :=
  ⟨i.port, if i.vflag &&& Pcblist.INP_IPV6 ≠ 0 then i.laddr else i.laddr.drop 12⟩

/-- The endpoint a socket listens on. -/
def Pcblist.Socket.endpoint (k : Socket) : Option Endpoint :=
  if k.tcpcb.state = Pcblist.TCP_STATE_LISTEN ∧ k.inpcb.port ≠ 0 then some (k.inpcb.endpoint)
  else none

theorem listener_eq (k : Socket) : k.listener = k.endpoint.map Endpoint.key := by
  rw [Socket.listener, Socket.endpoint]
  split_ifs with h
  · rw [Option.map_some, Inpcb.listener, Inpcb.address, Endpoint.key, Inpcb.endpoint]
    split_ifs <;> rfl
  · rfl

/-- The table of the kernel is one of sockets, whose endpoints are those that listen, and the walk
of a pid hears what it has open. -/
structure Darwin.Hears (os : Darwin.Os) (net : Listening) (pids : List Pid) (t : Pcblist.Table)
    (sockets : List Socket) : Prop where
  table : os.sysctl "net.inet.tcp.pcblist_n" = .ok t.buffer
  records : t.records = sockets.flatMap Socket.records
  endpoints : (sockets.filterMap Socket.endpoint).Perm net.endpoints
  heard : ∀ pid ∈ pids, ∀ key, key ∈ heard (listenerClaims os) pid ↔
    ∃ e ∈ net.endpoints, net.has pid e = true ∧ e.key = key

variable {os : Darwin.Os} {net : Listening} {pids : List Pid} {t : Pcblist.Table}
  {sockets : List Socket}

theorem Darwin.Hears.hostListeners (h : Darwin.Hears os net pids t sockets) :
    hostListeners os = .ok ((sockets.filterMap Socket.endpoint).map Endpoint.key) := by
  have hdecode : Pcblist.decodeHostListeners t.buffer
      = .ok ((sockets.filterMap Socket.endpoint).map Endpoint.key) := by
    rw [Pcblist.decode_records, h.records, Pcblist.foldl_effect_sockets, List.nil_append,
      List.map_filterMap]
    exact congrArg Except.ok (List.filterMap_congr fun k _ => listener_eq k)
  exact hostListeners_of_decode h.table hdecode

/-- The row of a key is that of its endpoint. -/
theorem Darwin.Hears.row_eq (h : Darwin.Hears os net pids t sockets) {e : Endpoint}
    (he : e ∈ net.endpoints) :
    (⟨((claimsOf (listenerClaims os) pids).lookup e.key).elim .unclaimed .claimed, none, e.key.1,
      e.key.2⟩ : Port) = net.row pids e := by
  have hholder : (claimsOf (listenerClaims os) pids).lookup e.key
      = pids.find? (fun pid => net.has pid e) := by
    rw [lookup_claimsOf]
    refine find_congr fun pid hpid => ?_
    rw [Bool.eq_iff_iff, decide_eq_true_eq, h.heard pid hpid]
    constructor
    · rintro ⟨e', -, hhas, hkey⟩
      rwa [← Endpoint.key_injective hkey]
    · exact fun hhas => ⟨e, he, hhas, rfl⟩
  rw [hholder]
  rfl

theorem Darwin.Hears.ports (h : Darwin.Hears os net pids t sockets) {args : SnapshotArgs}
    {table : ProcessTable} (htable : readProcessTable os = .ok table)
    (hwanted : wanted args.scope table = pids) (hask : args.ports = true) :
    (normalize (Darwin.snapshot os args)).ports.map Port.withoutUid = net.rows pids := by
  let rowOf (key : HostListener) : Port :=
    ⟨((claimsOf (listenerClaims os) pids).lookup key).elim .unclaimed .claimed, none, key.1, key.2⟩
  let keys := (sockets.filterMap Socket.endpoint).map Endpoint.key
  have hraw : (Darwin.snapshot os args).ports
      = Pcblist.attributeHostListeners keys (claimsOf (listenerClaims os) pids) := by
    rw [(snapshot_eq args htable).2.1, hask, if_pos rfl, h.hostListeners, hwanted]
    rfl
  -- what the walk hears is in the table, so the merge adds nothing to it
  have hall : ((claimsOf (listenerClaims os) pids).map Prod.fst).foldl pushNew keys = keys := by
    refine foldl_pushNew_of_subset fun key hkey => ?_
    obtain ⟨pid, hpid, hheard⟩ := mem_keys_claimsOf.mp hkey
    obtain ⟨e, he, -, rfl⟩ := (h.heard pid hpid key).mp (of_decide_eq_true hheard)
    exact List.mem_map_of_mem (h.endpoints.mem_iff.mpr he)
  have hmap : (Pcblist.attributeHostListeners keys (claimsOf (listenerClaims os) pids)).map
      Port.withoutUid = (sortByKey Pcblist.listenerKey keys).map rowOf := by
    rw [Pcblist.attributeHostListeners, List.map_map, hall]
    rfl
  rw [ports_normalize, hraw]
  refine Listening.rows_of_perm ?_
  rw [hmap]
  calc (sortByKey Pcblist.listenerKey keys).map rowOf
      |>.Perm (keys.map rowOf) := (sortByKey_perm _ _).map rowOf
    _ |>.Perm ((net.endpoints.map Endpoint.key).map rowOf) := (h.endpoints.map _).map rowOf
    _ |>.Perm (net.endpoints.map (net.row pids)) := by
        rw [List.map_map]
        exact .of_eq (List.map_congr_left fun e he => h.row_eq he)

end Darwin

/-! ## Every system -/

/-- The pids that an ask is about, in the order in which they are visited. -/
def System.Selects {F : FloatLib} (system : System F) (args : SnapshotArgs) (pids : List Pid) :
    Prop :=
  match system with
  | linux _ os => Linux.selected os.toOs args = .ok pids
  | darwin os => ∃ table, Darwin.readProcessTable os.toOs = .ok table ∧
      Darwin.wanted args.scope table = pids
  | unsupported => False

/-- The sources of the system show what listens, and which of the pids has it open. -/
def System.Hears {F : FloatLib} (system : System F) (net : Listening) (pids : List Pid) : Prop :=
  match system with
  | linux _ os => ∃ tcp tcp6, Linux.Hears os.toOs net pids tcp tcp6
  | darwin os => ∃ t sockets, Darwin.Hears os.toOs net pids t sockets
  | unsupported => False

theorem System.Hears.ports {F : FloatLib} {system : System F} {net : Listening} {pids : List Pid}
    (h : system.Hears net pids) {args : SnapshotArgs} (hsel : system.Selects args pids)
    (hask : args.ports = true) :
    (normalize (system.platform.snapshot args)).ports.map Port.withoutUid = net.rows pids := by
  cases system with
  | linux E os =>
      obtain ⟨tcp, tcp6, hhears⟩ := h
      exact hhears.ports hsel hask
  | darwin os =>
      obtain ⟨t, sockets, hhears⟩ := h
      obtain ⟨table, htable, hwanted⟩ := hsel
      exact hhears.ports htable hwanted hask
  | unsupported => exact h.elim

/-- Port 80 on every address, which process 7 has open. -/
def webNet : Listening where
  endpoints := [⟨80, [0, 0, 0, 0]⟩]
  has pid _ := pid == 7

/-- The socket of that endpoint has the inode 10. -/
def webTcp : Linux.TcpTable := { Linux.sharedTable with lines := [Linux.listenLine 80 10] }

theorem nodup_webPids : [(7 : Pid), 9].Nodup := by decide

theorem zero_not_mem_webPids : (0 : Pid) ∉ [7, 9] := by decide

def webLinux : System naturalFloats :=
  .linux naturalF64
    { Os.ofTables [("/proc/net/tcp".toList, Utf8.encode webTcp.text)]
        [("/proc/7/fd".toList, [ascii "3"])] [("/proc/7/fd/3".toList, ascii "socket:[10]")]
        [7, 9] nodup_webPids zero_not_mem_webPids with
      statvfsRoot := .error Libc.ENOENT }

theorem webLinux_hears : webLinux.Hears webNet [7, 9] := by
  refine ⟨webTcp, none, ⟨rfl, rfl⟩, .refl _, List.nodup_singleton _, fun pid hpid s hs => ?_⟩
  obtain rfl : s = (Linux.listenLine 80 10).socket := List.mem_singleton.mp hs
  rcases List.mem_pair.mp hpid with rfl | rfl
  · exact iff_of_true (by decide) rfl
  · exact iff_of_false (by decide) (by decide)

/-- A kernel's table of a socket of that endpoint. -/
def webPcblist : Pcblist.Table :=
  Pcblist.soloTable 80 1 (List.replicate 16 0) Pcblist.length_zeros

/-- The record of that socket's descriptor. -/
def webInfo : Darwin.SocketInfo where
  soiFamily := Darwin.AF_INET
  soiKind := Darwin.SOCKINFO_TCP
  -- the port is in network order
  priTcp := ⟨80 * 256, 1, List.replicate 16 0, Pcblist.TCP_STATE_LISTEN, Pcblist.length_zeros⟩
  unsiAddr := []

/-- The socket is the descriptor 6 of process 7. -/
def webSystem : Darwin.Os :=
  { Darwin.familySystem with
    listFds := fun pid => .ok (if pid = 7 then [⟨6, Darwin.PROX_FDTYPE_SOCKET⟩] else [])
    socketInfo := fun _ _ => some webInfo
    sysctl := fun _ => .ok webPcblist.buffer }

def webDarwin : System naturalFloats := .darwin webSystem.bare

theorem webDarwin_hears : webDarwin.Hears webNet [7, 9] := by
  refine ⟨webPcblist, [Pcblist.soloSocket 80 1 (List.replicate 16 0) rfl], rfl,
    (List.flatMap_singleton ..).symm, .refl _, fun pid hpid key => ?_⟩
  have hkey : (⟨80, [0, 0, 0, 0]⟩ : Endpoint).key = (80, "00000000".toList) := rfl
  simp only [webNet, List.mem_singleton, exists_eq_left, hkey]
  rcases List.mem_pair.mp hpid with rfl | rfl
  · exact (List.mem_singleton (b := (80, "00000000".toList))).trans (by simp [eq_comm])
  · exact iff_of_false List.not_mem_nil (fun h => absurd h.1 (by decide))

/-- The listeners of two processes. -/
def webArgs : SnapshotArgs :=
  { SnapshotArgs.default with scope := .pids [7, 9], ports := true }

end Osfacts
