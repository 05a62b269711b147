import Osfacts.Contract.ListenerUnion
import Osfacts.Contract.PcblistSockets

set_option autoImplicit false

/-! # One socket, two sources

The table of the host lists a listening socket among others, and the walk of its holder meets it
among other descriptors. Each source chooses a slot of the socket's address by a rule of its own.
Where the two rules agree, the socket is one row of the merge; where they do not, it is two.
-/

namespace Osfacts.Pcblist

/-- The listeners of a run of records. -/
def rowsOf (rs : List Record) : List HostListener := (rs.foldl (fun s r => r.effect s) (none, [])).2

/-- A record adds rows behind those that are there, and the same rows whatever is there. -/
theorem effect_append (r : Record) (pending : Option HostListener) (out out' : List HostListener) :
    r.effect (pending, out ++ out')
      = ((r.effect (pending, out')).1, out ++ (r.effect (pending, out')).2) := by
  unfold Record.effect readRecord
  by_cases hin : r.kind = XSO_INPCB ∧ r.len ≥ 84
  · rw [if_pos hin, if_pos hin]
    cases readInpcb r.bytes 0 <;> rfl
  rw [if_neg hin, if_neg hin]
  by_cases htcp : r.kind = XSO_TCPCB ∧ r.len ≥ 40
  · rw [if_pos htcp, if_pos htcp]
    cases readTcpcbState r.bytes 0 with
    | error e => rfl
    | ok state =>
        by_cases hlisten : state = TCP_STATE_LISTEN
        · have hemit : emitPending pending (out ++ out') = out ++ emitPending pending out' := by
            cases pending with
            | none => rfl
            | some row =>
                by_cases hport : row.1 = 0 <;> simp [emitPending, hport]
          simp only [ok_bind, if_pos hlisten, hemit]
          rfl
        · simp only [ok_bind, if_neg hlisten]
          rfl
  · rw [if_neg htcp, if_neg htcp]
    rfl

theorem foldl_effect_append (rs : List Record) (pending : Option HostListener)
    (out out' : List HostListener) :
    (rs.foldl (fun s r => r.effect s) (pending, out ++ out')).2
      = out ++ (rs.foldl (fun s r => r.effect s) (pending, out')).2 := by
  induction rs generalizing pending out' with
  | nil => rfl
  | cons r rs ih =>
      rw [List.foldl_cons, List.foldl_cons, effect_append]
      exact ih _ _

/-- **A socket among other records.** Its row stands between those of the records before it and
those of the records behind it. -/
theorem decode_among {t : Table} {pre post : List Record} {k : Socket}
    (h : t.records = pre ++ (k.records ++ post)) :
    decodeHostListeners t.buffer = .ok (rowsOf pre ++ (k.listener.toList ++ rowsOf post)) := by
  rw [decode_records, h, List.foldl_append, List.foldl_append, foldl_effect_socket]
  have hpost := foldl_effect_append post none
    ((pre.foldl (fun s r => r.effect s) (none, [])).2 ++ k.listener.toList) []
  rw [List.append_nil] at hpost
  rw [hpost, List.append_assoc]
  rfl

end Osfacts.Pcblist

namespace Osfacts.Darwin

open Pcblist

/-- A listening socket: what the kernel knows of its local end. -/
structure ListeningSocket where
  family : Int32
  vflag : UInt8
  port : UInt16
  laddr : Bytes
  family_known : family = AF_INET ∨ family = AF_INET6
  port_ne_zero : port ≠ 0
  laddr_length : laddr.length = 16

/-- The listeners behind some of a process's descriptors. -/
def listenersAt (os : Os) (pid : Pid) (fds : List Int32) : List HostListener :=
  fds.filterMap (fun fd => (os.socketInfo pid fd).bind listenerOfSocket)

namespace ListeningSocket

variable (s : ListeningSocket)

/-- The table lists the socket: its two halves stand between other records, any number of any
kind. -/
def Listed (t : Table) (pre post : List Record) : Prop :=
  ∃ k : Socket, t.records = pre ++ (k.records ++ post) ∧ k.inpcb.port = s.port ∧
    k.inpcb.vflag = s.vflag ∧ k.inpcb.laddr = s.laddr ∧ k.tcpcb.state = TCP_STATE_LISTEN

/-- The record of a descriptor is that of the socket. -/
def IsRecord (psi : SocketInfo) : Prop :=
  psi.soiKind = SOCKINFO_TCP ∧ psi.soiFamily = s.family ∧ psi.priTcp.insiVflag = s.vflag ∧
    psi.priTcp.insiLaddr = s.laddr ∧ psi.priTcp.tcpsiState = TCP_STATE_LISTEN ∧
    (neBytesI32 psi.priTcp.insiLport).take 2 = beBytesU16 s.port

/-- The walk of a process meets the socket between other descriptors, whatever they are. -/
def Walked (os : Os) (pid : Pid) (before after : List Int32) : Prop :=
  ∃ fd psi, socketFds os pid = .ok (before ++ fd :: after) ∧ os.socketInfo pid fd = some psi ∧
    s.IsRecord psi

/-- The two sources read the same slot of the address. -/
def SlotsAgree : Prop :=
  (s.family = AF_INET ∧ s.vflag &&& INP_IPV6 = 0) ∨
    (s.family = AF_INET6 ∧ (s.vflag &&& INI_IPV6 ≠ 0 ∨ s.vflag &&& INI_IPV4 ≠ 0))

/-- The listener of the table. -/
def tableKey : HostListener :=
  (s.port, if s.vflag &&& INP_IPV6 ≠ 0 then hexBytes s.laddr else hexBytes (s.laddr.drop 12))

/-- The listener of the walk. -/
def walkKey : HostListener :=
  (s.port, slotAddress (slotFromVflag s.family s.vflag) s.laddr)

theorem decode_of_listed {t : Table} {pre post : List Record} (h : s.Listed t pre post) :
    decodeHostListeners t.buffer = .ok (rowsOf pre ++ s.tableKey :: rowsOf post) := by
  obtain ⟨k, hrecords, hport, hvflag, hladdr, hstate⟩ := h
  have hlistener : k.listener = some s.tableKey := by
    rw [Socket.listener, if_pos ⟨hstate, by rw [hport]; exact s.port_ne_zero⟩, Inpcb.listener,
      Inpcb.address, hport, hvflag, hladdr, tableKey]
  rw [decode_among hrecords, hlistener]
  rfl

theorem listenerOfSocket_of_isRecord {psi : SocketInfo} (h : s.IsRecord psi) :
    listenerOfSocket psi = some s.walkKey := by
  obtain ⟨hkind, hfamily, hvflag, hladdr, hstate, hlport⟩ := h
  have hport : lportOf psi.priTcp.insiLport = s.port := by
    rw [lportOf, hlport, fromBeU16_beBytes]
  rw [listenerOfSocket, if_neg (not_not.mpr hkind), if_neg (not_not.mpr hstate), hport,
    if_neg s.port_ne_zero, hfamily, hvflag, hladdr, walkKey]

theorem claims_of_walked {os : Os} {pid : Pid} {before after : List Int32}
    (h : s.Walked os pid before after) :
    listenerClaims os pid
      = .ok (listenersAt os pid before ++ s.walkKey :: listenersAt os pid after) := by
  obtain ⟨fd, psi, hfds, hinfo, hrecord⟩ := h
  rw [listenerClaims, hfds, ok_bind, List.filterMap_append, List.filterMap_cons, hinfo,
    Option.bind_some, s.listenerOfSocket_of_isRecord hrecord]
  rfl

/-- The keys are equal exactly where the slots agree: addresses of four and of sixteen bytes
differ in length. -/
theorem keys_eq_iff : s.tableKey = s.walkKey ↔ s.SlotsAgree := by
  have hne : hexBytes s.laddr ≠ hexBytes (s.laddr.drop 12) := by
    intro h
    have hlength := congrArg List.length h
    rw [hexBytes_length, hexBytes_length, List.length_drop, s.laddr_length] at hlength
    omega
  have hflag : INI_IPV6 = INP_IPV6 := rfl
  have hfamily : AF_INET6 ≠ AF_INET := by decide
  rw [tableKey, walkKey, Prod.mk.injEq, SlotsAgree, slotFromVflag, hflag]
  rcases s.family_known with hf | hf
  · have hother : s.family ≠ AF_INET6 := by rw [hf]; exact hfamily.symm
    by_cases hv : s.vflag &&& INP_IPV6 ≠ 0
    · simp [hf, hv, slotAddress, hne, hfamily.symm]
    · simp [hf, not_not.mp hv, slotAddress]
  · by_cases hv : s.vflag &&& INP_IPV6 ≠ 0
    · simp [hf, hv, slotAddress, hfamily]
    · by_cases hv4 : s.vflag &&& INI_IPV4 ≠ 0
      · simp [hf, not_not.mp hv, hv4, slotAddress, hfamily]
      · simp [hf, not_not.mp hv, not_not.mp hv4, slotAddress, hfamily, hne.symm]

/-- A key that the table lists and a selected process was seen with is one row for each listing,
in the name of the first selected process that was seen with it. -/
theorem rows_of_key {os : Os} {wanted : List Pid} {rows : List HostListener} {key : HostListener}
    {holder : Pid} (snap : Snapshot) (htable : hostListeners os = .ok rows) (hkey : key ∈ rows)
    (hholder : wanted.find? (fun q => decide (key ∈ heard (listenerClaims os) q)) = some holder) :
    (snapshotPorts (listenerClaims os) (hostListeners os) wanted snap).ports.filter
        (fun row => listenerOf row == key)
      = List.replicate (rows.count key) (claimedRow holder key) := by
  have hpos : 0 < rows.count key := List.count_pos_iff.mpr hkey
  have hcount : max (rows.count key)
      (if key ∈ (claimsOf (listenerClaims os) wanted).map Prod.fst then 1 else 0)
        = rows.count key := by
    split_ifs <;> omega
  rw [ports_snapshotPorts, htable, filter_listenerOf, lookup_claimsOf, hholder]
  show List.replicate (max (rows.count key) _) _ = _
  rw [hcount]
  rfl

/-- What the sources and the merge make of a socket that the table lists between `pre` and `post`,
and that the walk of a process meets between `before` and `after`: one key in both, each listing
of it one row in the name of the first selected process seen with it, and one row in the name of
this process when no other socket has the key. -/
structure OneKey (t : Table) (pre post : List Record) (os : Os) (pid : Pid)
    (before after : List Int32) (wanted : List Pid) (snap : Snapshot) (key : HostListener) :
    Prop where
  table : decodeHostListeners t.buffer = .ok (rowsOf pre ++ key :: rowsOf post)
  walk : listenerClaims os pid
    = .ok (listenersAt os pid before ++ key :: listenersAt os pid after)
  merged : ∃ holder,
    wanted.find? (fun q => decide (key ∈ heard (listenerClaims os) q)) = some holder ∧
    (snapshotPorts (listenerClaims os) (hostListeners os) wanted snap).ports.filter
        (fun row => listenerOf row == key)
      = List.replicate ((rowsOf pre ++ key :: rowsOf post).count key) (claimedRow holder key)
  alone : key ∉ rowsOf pre → key ∉ rowsOf post →
    (∀ q ∈ wanted, key ∈ heard (listenerClaims os) q → q = pid) →
    (snapshotPorts (listenerClaims os) (hostListeners os) wanted snap).ports.filter
        (fun row => listenerOf row == key) = [claimedRow pid key]

/-- **One socket, one row.** Let the table list a listening socket among any other records, and the
walk of a selected process meet it among any other descriptors. The sources give it one key, and
the merge one row for it, exactly where they read the same slot of its address. -/
theorem one_row_iff {t : Table} {pre post : List Record} {os : Os} {pid : Pid}
    {before after : List Int32} {wanted : List Pid} (snap : Snapshot)
    (hlisted : s.Listed t pre post) (htable : os.sysctl "net.inet.tcp.pcblist_n" = .ok t.buffer)
    (hwalked : s.Walked os pid before after) (hpid : pid ∈ wanted) :
    (∃ key, OneKey t pre post os pid before after wanted snap key) ↔ s.SlotsAgree := by
  rw [← s.keys_eq_iff]
  have hdecode := s.decode_of_listed hlisted
  have hclaims := s.claims_of_walked hwalked
  constructor
  · rintro ⟨key, hkey⟩
    have htable := hdecode.symm.trans hkey.table
    have hwalk := hclaims.symm.trans hkey.walk
    rw [Except.ok.injEq, List.append_cancel_left_eq, List.cons.injEq] at htable hwalk
    exact htable.1.trans hwalk.1.symm
  · intro hkeys
    have hrows : hostListeners os = .ok (rowsOf pre ++ s.tableKey :: rowsOf post) :=
      hostListeners_of_decode htable hdecode
    have hheard : s.tableKey ∈ heard (listenerClaims os) pid := by
      rw [mem_heard]
      exact ⟨_, hclaims, by rw [hkeys]; simp⟩
    obtain ⟨holder, hholder⟩ : ∃ holder,
        wanted.find? (fun q => decide (s.tableKey ∈ heard (listenerClaims os) q)) = some holder :=
      Option.isSome_iff_exists.mp (List.find?_isSome.mpr ⟨pid, hpid, decide_eq_true hheard⟩)
    have hfilter := rows_of_key snap hrows (by simp) hholder
    refine ⟨s.tableKey, hdecode, hkeys ▸ hclaims, ⟨holder, hholder, hfilter⟩,
      fun hpre hpost halone => ?_⟩
    -- the first process that was seen with the key is the only one
    have hfirst : holder = pid := halone holder (List.mem_of_find?_eq_some hholder)
      (by simpa using List.find?_some hholder)
    rw [hfilter, hfirst, List.count_append, List.count_cons_self, List.count_eq_zero.mpr hpre,
      List.count_eq_zero.mpr hpost]
    rfl

/-! ## A host with several sockets -/

/-- The socket in a table, with nothing around its two records. -/
def solo : Socket := soloSocket s.port s.vflag s.laddr s.laddr_length

/-- The record of the socket's descriptor. -/
def info : SocketInfo where
  soiFamily := s.family
  soiKind := SOCKINFO_TCP
  priTcp :=
    { insiLport := fromNeI32 (beBytesU16 s.port ++ [0, 0]), insiVflag := s.vflag
      insiLaddr := s.laddr, tcpsiState := TCP_STATE_LISTEN, insiLaddr_length := s.laddr_length }
  unsiAddr := []

theorem isRecord_info : s.IsRecord s.info := by
  refine ⟨rfl, rfl, rfl, rfl, rfl, ?_⟩
  have hlength : (beBytesU16 s.port ++ [0, 0]).length = 4 := by
    rw [List.length_append, beBytesU16, List.length_reverse, length_leBytes]
    rfl
  show (neBytesI32 (fromNeI32 (beBytesU16 s.port ++ [0, 0]))).take 2 = beBytesU16 s.port
  rw [neBytesI32_fromNe hlength, List.take_left' (by simp [beBytesU16])]

end ListeningSocket

/-- An IPv4 socket on port 80. -/
def webSocket : ListeningSocket :=
  ⟨AF_INET, 1, 80, List.replicate 16 0, Or.inl rfl, by decide, length_zeros⟩

/-- Every process has a closed descriptor 3, a file, and `webSocket` as descriptor 6; process 7 has
the socket `s` as descriptor 5. -/
def sharedHost (s : ListeningSocket) (t : Table) : Os :=
  { Os.blind Libc.EPERM with
    listFds := fun pid => .ok (⟨3, PROX_FDTYPE_SOCKET⟩ :: ⟨4, 1⟩ ::
      ((if pid = 7 then [⟨5, PROX_FDTYPE_SOCKET⟩] else []) ++ [⟨6, PROX_FDTYPE_SOCKET⟩]))
    socketInfo := fun _ fd =>
      if fd = 5 then some s.info else if fd = 6 then some webSocket.info else none
    sysctl := fun _ => .ok t.buffer }

theorem walked_sharedHost (s : ListeningSocket) (t : Table) :
    s.Walked (sharedHost s t) 7 [3] [6] :=
  ⟨5, s.info, rfl, rfl, s.isRecord_info⟩

/-- A dual-stack socket on port 22. -/
def dualStack : ListeningSocket :=
  ⟨AF_INET6, 3, 22, List.replicate 16 0, Or.inr rfl, by decide, length_zeros⟩

/-- Its table lists three other sockets before it, and two of `webSocket` behind. -/
def dualStackTable : Table :=
  .ofRecords
    (threeSockets.flatMap Socket.records ++ (dualStack.solo.records ++
      (webSocket.solo.records ++ webSocket.solo.records))) (by decide +kernel)

theorem one_row_sample :
    ∃ key, ListeningSocket.OneKey dualStackTable (threeSockets.flatMap Socket.records)
      (webSocket.solo.records ++ webSocket.solo.records) (sharedHost dualStack dualStackTable) 7
      [3] [6] [8, 7] Snapshot.new key :=
  (dualStack.one_row_iff Snapshot.new ⟨dualStack.solo, rfl, rfl, rfl, rfl, rfl⟩ rfl
    (walked_sharedHost dualStack dualStackTable) (by simp)).mpr
    (Or.inr ⟨rfl, Or.inl (by decide)⟩)

/-- An IPv6 socket whose flags name neither protocol. -/
def unflagged : ListeningSocket :=
  ⟨AF_INET6, 0, 22, List.replicate 16 0, Or.inr rfl, by decide, length_zeros⟩

def unflaggedTable : Table :=
  .ofRecords (unflagged.solo.records ++ webSocket.solo.records) (by decide +kernel)

/-- The table lists it under four bytes of its address, the walk under sixteen: two rows. -/
theorem two_rows :
    unflagged.Listed unflaggedTable [] webSocket.solo.records ∧
      unflagged.Walked (sharedHost unflagged unflaggedTable) 7 [3] [6] ∧
      decodeHostListeners unflaggedTable.buffer
        = .ok [(22, "00000000".toList), (80, "00000000".toList)] ∧
      listenerClaims (sharedHost unflagged unflaggedTable) 7
        = .ok [(22, "00000000000000000000000000000000".toList), (80, "00000000".toList)] ∧
      (snapshotPorts (listenerClaims (sharedHost unflagged unflaggedTable))
          (hostListeners (sharedHost unflagged unflaggedTable)) [7] Snapshot.new).ports
        = [⟨.unclaimed, none, 22, "00000000".toList⟩,
          claimedRow 7 (22, "00000000000000000000000000000000".toList),
          claimedRow 7 (80, "00000000".toList)] := by
  have hlisted : unflagged.Listed unflaggedTable [] webSocket.solo.records :=
    ⟨unflagged.solo, rfl, rfl, rfl, rfl, rfl⟩
  have hwalked := walked_sharedHost unflagged unflaggedTable
  have hdecode : decodeHostListeners unflaggedTable.buffer
      = .ok [(22, "00000000".toList), (80, "00000000".toList)] := by
    rw [unflagged.decode_of_listed hlisted, rowsOf, rowsOf, foldl_effect_socket]
    rfl
  -- the other socket has one key in both sources
  have hneighbour : listenersAt (sharedHost unflagged unflaggedTable) 7 [6]
      = [webSocket.walkKey] := by
    have hrecord : ((sharedHost unflagged unflaggedTable).socketInfo 7 6).bind listenerOfSocket
        = some webSocket.walkKey :=
      webSocket.listenerOfSocket_of_isRecord webSocket.isRecord_info
    simp only [listenersAt, List.filterMap_cons, hrecord, List.filterMap_nil]
  have hclaims : listenerClaims (sharedHost unflagged unflaggedTable) 7
      = .ok [(22, "00000000000000000000000000000000".toList), (80, "00000000".toList)] := by
    rw [unflagged.claims_of_walked hwalked, hneighbour]
    rfl
  have htable : hostListeners (sharedHost unflagged unflaggedTable)
      = .ok [(22, "00000000".toList), (80, "00000000".toList)] :=
    hostListeners_of_decode rfl hdecode
  refine ⟨hlisted, hwalked, hdecode, hclaims, ?_⟩
  rw [ports_snapshotPorts, htable, claimsOf, claimAll, List.foldl_cons, List.foldl_nil, heard,
    hclaims]
  decide

end Osfacts.Darwin
