import Osfacts.Contract.PcblistTable

set_option autoImplicit false

/-! # Sockets in the listener table

A socket is laid out as two records among records of other kinds. Decoding a table of sockets
gives the listening ones, in table order: the run over the records of one socket
(`foldl_effect_socket`) starts and ends with no half-read socket.
-/

namespace Osfacts.Pcblist

/-! ## The records of a socket -/

/-- The address half of a socket. -/
structure Inpcb where
  /-- from the record head to the port -/
  before : Bytes
  port : UInt16
  /-- the foreign port and what lies before the flags -/
  between : Bytes
  vflag : UInt8
  flow : Bytes
  laddr : Bytes
  rest : Bytes
  padding : Bytes
  before_length : before.length = 10
  between_length : between.length = 24
  flow_length : flow.length = 19
  laddr_length : laddr.length = 16
  long : 4 ≤ rest.length
  short : 80 + rest.length < 2 ^ 32
  padded : 80 + rest.length + padding.length = ceil8 (80 + rest.length)

/-- The state half of a socket. -/
structure Tcpcb where
  before : Bytes
  state : Int32
  rest : Bytes
  padding : Bytes
  before_length : before.length = 28
  short : 40 + rest.length < 2 ^ 32
  padded : 40 + rest.length + padding.length = ceil8 (40 + rest.length)

namespace Inpcb

variable (i : Inpcb)

def body : Bytes :=
  i.before ++ (beBytesU16 i.port ++ (i.between ++ ([i.vflag] ++ (i.flow ++ (i.laddr ++ i.rest)))))

theorem length_body : 8 + i.body.length = 80 + i.rest.length := by
  simp only [body, beBytesU16, List.length_append, List.length_reverse, length_leBytes,
    List.length_singleton, i.before_length, i.between_length, i.flow_length, i.laddr_length]
  omega

theorem long_body : CLOSING_RECORD_LEN < 8 + i.body.length := by
  rw [length_body, CLOSING_RECORD_LEN]
  omega

def record : Record :=
  ⟨XSO_INPCB, i.body, i.padding, i.long_body, i.length_body ▸ i.short, i.length_body ▸ i.padded⟩

/-- All sixteen bytes of the address where the flag has IPv6, the last four where not. -/
def address : Text :=
  if i.vflag &&& INP_IPV6 ≠ 0 then hexBytes i.laddr else hexBytes (i.laddr.drop 12)

def listener : HostListener := (i.port, i.address)

end Inpcb

namespace Tcpcb

variable (t : Tcpcb)

def body : Bytes := t.before ++ (neBytesI32 t.state ++ t.rest)

theorem length_body : 8 + t.body.length = 40 + t.rest.length := by
  simp only [body, neBytesI32, neBytesU32, List.length_append, length_leBytes, t.before_length]
  omega

theorem long_body : CLOSING_RECORD_LEN < 8 + t.body.length := by
  rw [length_body, CLOSING_RECORD_LEN]
  omega

def record : Record :=
  ⟨XSO_TCPCB, t.body, t.padding, t.long_body, t.length_body ▸ t.short, t.length_body ▸ t.padded⟩

end Tcpcb

/-- A record of a kind the decoder does not read. -/
structure Other where
  record : Record
  not_inpcb : record.kind ≠ XSO_INPCB
  not_tcpcb : record.kind ≠ XSO_TCPCB

/-- A socket and the records around its two halves. -/
structure Socket where
  before : List Other
  inpcb : Inpcb
  between : List Other
  tcpcb : Tcpcb
  after : List Other

namespace Socket

def records (s : Socket) : List Record :=
  s.before.map Other.record ++ s.inpcb.record :: s.between.map Other.record
    ++ s.tcpcb.record :: s.after.map Other.record

/-- The listener a socket is: its state is LISTEN and it has a port. -/
def listener (s : Socket) : Option HostListener :=
  if s.tcpcb.state = TCP_STATE_LISTEN ∧ s.inpcb.port ≠ 0 then some s.inpcb.listener else none

end Socket

/-! ## Their effects -/

/-- A field behind the head of a record. -/
theorem fieldAt_bytes (r : Record) (pre field post : Bytes) {place len : Nat}
    (hbody : r.body = pre ++ (field ++ post)) (hplace : place = 8 + pre.length)
    (hlen : len = field.length) : fieldAt r.bytes 0 place len = .ok field := by
  obtain ⟨-, hshort⟩ := r.len_bounds
  have hlength : r.len = 8 + (pre.length + (field.length + post.length)) := by
    rw [Record.len, hbody, List.length_append, List.length_append]
  have hbytes : r.bytes
      = (neBytesU32 (UInt32.ofNat r.len) ++ neBytesU32 r.kind ++ pre) ++ (field ++ post) := by
    simp only [Record.bytes, hbody, List.append_assoc]
  have hpre : (neBytesU32 (UInt32.ofNat r.len) ++ neBytesU32 r.kind ++ pre).length
      = 8 + pre.length := by
    simp only [neBytesU32, List.length_append, length_leBytes]
  rw [fieldAt_eq (by omega), hbytes]
  exact index_append _ field post (by omega) (by omega)

theorem inpcbAddress_eq (i : Inpcb) : inpcbAddress i.vflag i.laddr = .ok i.address := by
  unfold inpcbAddress Inpcb.address
  by_cases hflag : i.vflag &&& INP_IPV6 ≠ 0
  · rw [if_pos hflag, if_pos hflag]
  · have hdrop : i.laddr.drop 12 = (i.laddr.drop 12).take (16 - 12) := by
      rw [List.take_of_length_le]
      rw [List.length_drop, i.laddr_length]
    have hslice : slice i.laddr 12 16 = some (i.laddr.drop 12) := by
      rw [slice, if_pos ⟨by omega, by rw [i.laddr_length]⟩, ← hdrop]
    rw [if_neg hflag, if_neg hflag, index, hslice, Option.elim_some, ok_bind]
    rfl

theorem effect_inpcb (i : Inpcb) (s : Option HostListener × List HostListener) :
    i.record.effect s = (some i.listener, s.2) := by
  have hlen : i.record.len = 80 + i.rest.length := i.length_body
  have hport : fieldAt i.record.bytes 0 XINPCB_LPORT_OFFSET 2 = .ok (beBytesU16 i.port) :=
    fieldAt_bytes i.record i.before _ _ rfl (by rw [i.before_length]; rfl)
      (by simp [beBytesU16])
  have hvflag : fieldAt i.record.bytes 0 XINPCB_VFLAG_OFFSET 1 = .ok [i.vflag] :=
    fieldAt_bytes i.record (i.before ++ (beBytesU16 i.port ++ i.between)) _
      (i.flow ++ (i.laddr ++ i.rest))
      (by simp only [Inpcb.record, Inpcb.body, List.append_assoc])
      (by simp [beBytesU16, i.before_length, i.between_length, XINPCB_VFLAG_OFFSET]) rfl
  have hladdr : fieldAt i.record.bytes 0 XINPCB_LADDR_OFFSET 16 = .ok i.laddr :=
    fieldAt_bytes i.record
      (i.before ++ (beBytesU16 i.port ++ (i.between ++ ([i.vflag] ++ i.flow)))) _ i.rest
      (by simp only [Inpcb.record, Inpcb.body, List.append_assoc])
      (by simp [beBytesU16, i.before_length, i.between_length, i.flow_length,
        XINPCB_LADDR_OFFSET]) (by rw [i.laddr_length])
  have hlong := i.long
  rw [Record.effect, readRecord, if_pos ⟨rfl, by omega⟩, readInpcb, hport, ok_bind, hvflag,
    ok_bind, hladdr, ok_bind, List.headD_cons, inpcbAddress_eq, ok_bind, fromBeU16_beBytes]
  rfl

theorem effect_tcpcb (t : Tcpcb) (s : Option HostListener × List HostListener) :
    t.record.effect s
      = (none, if t.state = TCP_STATE_LISTEN then emitPending s.1 s.2 else s.2) := by
  have hlen : t.record.len = 40 + t.rest.length := t.length_body
  have hstate : fieldAt t.record.bytes 0 XTCPCB_STATE_OFFSET 4 = .ok (neBytesI32 t.state) :=
    fieldAt_bytes t.record t.before _ t.rest rfl (by rw [t.before_length]; rfl)
      (by simp [neBytesI32, neBytesU32])
  have hkind : ¬(t.record.kind = XSO_INPCB ∧ t.record.len ≥ 84) := fun hin =>
    (show XSO_TCPCB ≠ XSO_INPCB by decide) hin.1
  rw [Record.effect, readRecord, if_neg hkind, if_pos ⟨rfl, by omega⟩, readTcpcbState, hstate,
    ok_bind, fromNeI32_neBytes]
  by_cases hlisten : t.state = TCP_STATE_LISTEN
  · rw [if_pos hlisten]
    simp only [pure, Except.pure, ok_bind, if_pos hlisten]
    rfl
  · rw [if_neg hlisten]
    simp only [pure, Except.pure, ok_bind, if_neg hlisten]
    rfl

theorem effect_other (o : Other) (s : Option HostListener × List HostListener) :
    o.record.effect s = s := by
  rw [Record.effect, readRecord, if_neg (fun h => o.not_inpcb h.1),
    if_neg (fun h => o.not_tcpcb h.1)]
  rfl

theorem foldl_effect_others (os : List Other) (s : Option HostListener × List HostListener) :
    (os.map Other.record).foldl (fun s r => r.effect s) s = s := by
  induction os with
  | nil => rfl
  | cons o os ih => rw [List.map_cons, List.foldl_cons, effect_other, ih]

/-- **One socket.** Its records leave no half-read socket behind, and a row if it listens. -/
theorem foldl_effect_socket (k : Socket) (s : Option HostListener × List HostListener) :
    k.records.foldl (fun s r => r.effect s) s = (none, s.2 ++ k.listener.toList) := by
  rw [Socket.records, List.foldl_append, List.foldl_append, List.foldl_cons, List.foldl_cons,
    foldl_effect_others, foldl_effect_others, foldl_effect_others, effect_inpcb, effect_tcpcb,
    Socket.listener]
  by_cases hlisten : k.tcpcb.state = TCP_STATE_LISTEN
  · by_cases hport : k.inpcb.port ≠ 0
    · rw [if_pos hlisten, if_pos ⟨hlisten, hport⟩, emitPending]
      simp [Inpcb.listener, hport]
    · rw [if_pos hlisten, if_neg (fun h => hport h.2), emitPending]
      simp [Inpcb.listener, hport]
  · rw [if_neg hlisten, if_neg (fun h => hlisten h.1)]
    simp

theorem foldl_effect_sockets (ks : List Socket) (out : List HostListener) :
    (ks.flatMap Socket.records).foldl (fun s r => r.effect s) (none, out)
      = (none, out ++ ks.filterMap Socket.listener) := by
  induction ks generalizing out with
  | nil => simp
  | cons k ks ih =>
      rw [List.flatMap_cons, List.foldl_append, foldl_effect_socket, ih, List.append_assoc]
      cases hk : k.listener with
      | none => simp [hk]
      | some row => simp [hk]

/-! ## The table -/

theorem decode_records (t : Table) :
    decodeHostListeners t.buffer
      = .ok ((t.records.foldl (fun s r => r.effect s) (none, [])).2) := by
  have hhead := t.length_head
  have hfits := t.fits
  have hlength := t.length_bytes
  have hbytes : t.buffer.bytes = t.head ++ (encodeAll t.records ++ t.tail) := rfl
  have hclosing : t.head ++ (encodeAll t.records ++ t.tail)
      = (t.head ++ encodeAll t.records) ++ (neBytesU32 24 ++ t.closing) := by
    rw [Table.tail, List.append_assoc]
  rw [t.decode_of_head hbytes, hbytes,
    walk_records t.records t.head t.tail _ (hhead ▸ dvd_ceil8 _)
      (by rw [← hbytes]; exact t.buffer.fits),
    ← List.length_append, hclosing]
  exact walk_done (step_closing _ t.closing _ (by rw [t.closing_length])
    (by rw [List.length_append]; omega))

/-- **Exact decoding.** A table of sockets decodes to its listeners, in table order. -/
theorem decode_sockets (t : Table) (ks : List Socket) (h : t.records = ks.flatMap Socket.records) :
    decodeHostListeners t.buffer = .ok (ks.filterMap Socket.listener) := by
  rw [decode_records, h, foldl_effect_sockets, List.nil_append]

/-! ## Tables of few sockets -/

/-- A table with a header and a closing record of zeros. -/
def Table.ofRecords (records : List Record) (h : (encodeAll records).length < 2 ^ 62) : Table where
  header := List.replicate 20 0
  headerPadding := []
  records := records
  closing := List.replicate 20 0
  header_short := by decide
  header_padded := rfl
  closing_length := rfl
  fits := by
    have hhead : ceil8 (4 + (List.replicate 20 (0 : UInt8)).length) = 24 := rfl
    omega

section Solo

variable (port : UInt16) (vflag : UInt8) (laddr : Bytes) (h : laddr.length = 16)

/-- A listening socket with nothing around its two records. -/
def soloSocket : Socket where
  before := []
  inpcb :=
    { before := List.replicate 10 0, port := port, between := List.replicate 24 0
      vflag := vflag, flow := List.replicate 19 0, laddr := laddr
      rest := List.replicate 4 0, padding := List.replicate 4 0
      before_length := rfl, between_length := rfl, flow_length := rfl, laddr_length := h
      long := le_refl _, short := by decide, padded := rfl }
  between := []
  tcpcb :=
    { before := List.replicate 28 0, state := TCP_STATE_LISTEN, rest := [], padding := []
      before_length := rfl, short := by decide, padded := rfl }
  after := []

theorem length_soloSocket : (encodeAll (soloSocket port vflag laddr h).records).length = 128 := by
  let k := soloSocket port vflag laddr h
  have hrecords : k.records = [k.inpcb.record, k.tcpcb.record] := rfl
  have hinpcb : k.inpcb.record.len = 84 := k.inpcb.length_body
  have htcpcb : k.tcpcb.record.len = 40 := k.tcpcb.length_body
  show (encodeAll k.records).length = 128
  rw [hrecords, length_encodeAll_cons, length_encodeAll_cons, hinpcb, htcpcb]
  rfl

/-- The table of that socket alone. -/
def soloTable : Table :=
  .ofRecords (soloSocket port vflag laddr h).records (by rw [length_soloSocket]; norm_num)

theorem length_soloTable : (soloTable port vflag laddr h).bytes.length = 176 := by
  have hheader : (soloTable port vflag laddr h).header.length = 20 := rfl
  have hrecords : (soloTable port vflag laddr h).records
      = (soloSocket port vflag laddr h).records := rfl
  rw [Table.length_bytes, Table.length_head, hheader, hrecords, length_soloSocket]
  rfl

end Solo

theorem length_zeros : (List.replicate 16 (0 : UInt8)).length = 16 := rfl

/-- A socket listening on 127.0.0.1, port 22. -/
def sshSocket : Socket := soloSocket 22 1 (List.replicate 12 0 ++ [127, 0, 0, 1]) rfl

def sshTable : Table := soloTable 22 1 (List.replicate 12 0 ++ [127, 0, 0, 1]) rfl

theorem length_sshTable : sshTable.bytes.length = 176 := length_soloTable _ _ _ _

/-- A record of another kind. -/
def otherRecord : Other where
  record :=
    { kind := 0x001, body := List.replicate 20 0xff, padding := List.replicate 4 0
      long := by decide, short := by decide, padded := rfl }
  not_inpcb := by decide
  not_tcpcb := by decide

/-- Three sockets, the second connected and not listening, with other records around and between
the halves. -/
def threeSockets : List Socket :=
  [{ sshSocket with before := [otherRecord, otherRecord], between := [otherRecord] },
    { soloSocket 8080 1 (List.replicate 16 0) length_zeros with
      between := [otherRecord]
      tcpcb :=
        { before := List.replicate 28 0, state := 4, rest := [1, 2, 3], padding := [0, 0, 0, 0, 0]
          before_length := rfl, short := by decide, padded := rfl } },
    { soloSocket 443 3 (List.replicate 15 0 ++ [1]) rfl with
      between := [otherRecord, otherRecord], after := [otherRecord] }]

theorem decode_sockets_sample :
    decodeHostListeners
        (Table.ofRecords (threeSockets.flatMap Socket.records) (by decide +kernel)).buffer
      = .ok [(22, "7f000001".toList), (443, "00000000000000000000000000000001".toList)] :=
  decode_sockets (.ofRecords (threeSockets.flatMap Socket.records) (by decide +kernel))
    threeSockets rfl

/-- Cut eight bytes into its first record, the table is refused. -/
theorem decode_cut_sample :
    decodeHostListeners (sshTable.cut 32) = .error (.errno Libc.EINVAL) :=
  (decode_cut sshTable (by omega) (by rw [length_sshTable]; omega)).1.mpr
    (Or.inr (Or.inl (by decide)))

/-- Cut right behind its header, the table reads as one without sockets. -/
theorem decode_cut_empty :
    4 ≤ 24 ∧ 24 < sshTable.bytes.length ∧ decodeHostListeners (sshTable.cut 24) = .ok [] := by
  have hbytes : (sshTable.cut 24).bytes = sshTable.head ++ [] := rfl
  refine ⟨by omega, by rw [length_sshTable]; omega, ?_⟩
  rw [sshTable.decode_of_head hbytes]
  exact walk_room (by decide) (by decide)

end Osfacts.Pcblist
