import Osfacts.Basic.FirstClaim
import Osfacts.Basic.FirstSeen
import Osfacts.Rust.Slice
import Osfacts.Schema.Document

set_option autoImplicit false

/-! # The host-wide listener table of darwin

`net.inet.tcp.pcblist_n` is an opening header and then a stream of records, each padded to eight
bytes, closed by a record of 24 bytes. A socket is a pair of records: its addresses
(`XSO_INPCB`), then its state (`XSO_TCPCB`). `walk` frames the records one after another and
carries the half of a socket it has seen; `attributeHostListeners` joins the table with the
claims of the descriptor walk.
-/

namespace Osfacts.Pcblist

def XSO_INPCB : UInt32 := 0x010
def XSO_TCPCB : UInt32 := 0x020
def INP_IPV6 : UInt8 := 0x2

/-- The state a listening socket reports. -/
def TCP_STATE_LISTEN : Int32 := 1

def XINPCB_LPORT_OFFSET : Nat := 18
def XINPCB_VFLAG_OFFSET : Nat := 44
def XINPCB_LADDR_OFFSET : Nat := 64
def XTCPCB_STATE_OFFSET : Nat := 36
def CLOSING_RECORD_LEN : Nat := 24

/-- A listener: port and hexadecimal bind address. -/
abbrev HostListener := UInt16 × Text

def readU32 (bytes : Bytes) (offset : Nat) : Except Stop UInt32 := do
  let stop ← okOr (checkedAddUsize offset 4) Libc.EINVAL
  let field ← okOr (slice bytes offset stop) Libc.EINVAL
  pure (fromNeU32 field)

/-- Round to the next multiple of eight, or `none` if that would overflow. -/
def roundUp8 (value : Nat) : Option Nat :=
  -- `v & !7`
  (checkedAddUsize value 7).map (fun v => v / 8 * 8)

/-! ## One record -/

/-- The loop's state: the cursor, the half of a socket that waits for its state, the rows. -/
structure Cursor where
  offset : Nat
  pending : Option HostListener
  out : List HostListener

/-- `&bytes[offset + field..offset + field + len]`. -/
def fieldAt (bytes : Bytes) (offset field len : Nat) : Except Stop Bytes := do
  let start ← addUsize offset field
  let stop ← addUsize start len
  index bytes start stop

/-- The address of a record: all sixteen bytes, or the last four where the flag has no IPv6. -/
def inpcbAddress (vflag : UInt8) (laddr : Bytes) : Except Stop Text :=
  if vflag &&& INP_IPV6 ≠ 0 then .ok (hexBytes laddr)
  else do
    let v4 ← index laddr 12 16
    pure (hexBytes v4)

def readInpcb (bytes : Bytes) (offset : Nat) : Except Stop HostListener := do
  let raw ← fieldAt bytes offset XINPCB_LPORT_OFFSET 2
  let vflag ← fieldAt bytes offset XINPCB_VFLAG_OFFSET 1
  let laddr ← fieldAt bytes offset XINPCB_LADDR_OFFSET 16
  let address ← inpcbAddress (vflag.headD 0) laddr
  pure (fromBeU16 raw, address)

def readTcpcbState (bytes : Bytes) (offset : Nat) : Except Stop Int32 := do
  let state ← fieldAt bytes offset XTCPCB_STATE_OFFSET 4
  pure (fromNeI32 state)

/-- `if let Some(row) = pending.take()`: a listener without a port is none. -/
def emitPending (pending : Option HostListener) (out : List HostListener) : List HostListener :=
  match pending with
  | some row => if row.1 ≠ 0 then out ++ [row] else out
  | none => out

/-- What a framed record does to the half-read socket and the rows. -/
def readRecord (bytes : Bytes) (offset : Nat) (kind : UInt32) (len : Nat)
    (s : Option HostListener × List HostListener) :
    Except Stop (Option HostListener × List HostListener) :=
  if kind = XSO_INPCB ∧ len ≥ 84 then do
    let row ← readInpcb bytes offset
    pure (some row, s.2)
  else if kind = XSO_TCPCB ∧ len ≥ 40 then do
    let state ← readTcpcbState bytes offset
    if state = TCP_STATE_LISTEN then pure (none, emitPending s.1 s.2) else pure (none, s.2)
  else pure s

/-- One turn of the loop: the cursor after the next record, or `none` where the loop ends. -/
def step (bytes : Bytes) (c : Cursor) : Except Stop (Option Cursor) := do
  let head ← addUsize c.offset 8
  if head > bytes.length then pure none
  else
    let len ← readU32 bytes c.offset
    let stop ← okOr (checkedAddUsize c.offset len.toNat) Libc.EINVAL
    if len.toNat < CLOSING_RECORD_LEN ∨ stop > bytes.length then .error (.errno Libc.EINVAL)
    -- the closing marker
    else if len.toNat = CLOSING_RECORD_LEN then pure none
    else
      let kindAt ← addUsize c.offset 4
      let kind ← readU32 bytes kindAt
      let (pending, out) ← readRecord bytes c.offset kind len.toNat (c.pending, c.out)
      let offset ← okOr (roundUp8 stop) Libc.EINVAL
      pure (some ⟨offset, pending, out⟩)

/-! ## The loop -/

theorem okOr_ok {α : Type} {value : Option α} {err : Errno} {a : α} :
    okOr value err = .ok a ↔ value = some a := by
  cases value <;> simp [okOr]

theorem le_roundUp8 {value rounded : Nat} (h : roundUp8 value = some rounded) :
    value ≤ rounded := by
  rw [roundUp8, Option.map_eq_some_iff] at h
  obtain ⟨v, hv, rfl⟩ := h
  rw [checkedAddUsize, Option.ite_none_right_eq_some, Option.some.injEq] at hv
  omega

/-- A turn that goes on has framed a record: the cursor advances, from inside the buffer. -/
theorem step_progress {bytes : Bytes} {c c' : Cursor} (h : step bytes c = .ok (some c')) :
    c.offset < bytes.length ∧ c.offset + CLOSING_RECORD_LEN ≤ c'.offset := by
  unfold step at h
  obtain ⟨head, hhead, h⟩ := bind_ok_iff.mp h
  rw [addUsize] at hhead
  split_ifs at hhead
  cases hhead
  by_cases hroom : c.offset + 8 > bytes.length
  · rw [if_pos hroom] at h
    cases h
  rw [if_neg hroom] at h
  obtain ⟨len, -, h⟩ := bind_ok_iff.mp h
  obtain ⟨stop, hstop, h⟩ := bind_ok_iff.mp h
  rw [okOr_ok, checkedAddUsize, Option.ite_none_right_eq_some, Option.some.injEq] at hstop
  by_cases hframe : len.toNat < CLOSING_RECORD_LEN ∨ stop > bytes.length
  · rw [if_pos hframe] at h
    cases h
  rw [if_neg hframe] at h
  by_cases hclosing : len.toNat = CLOSING_RECORD_LEN
  · rw [if_pos hclosing] at h
    cases h
  rw [if_neg hclosing] at h
  obtain ⟨kindAt, -, h⟩ := bind_ok_iff.mp h
  obtain ⟨kind, -, h⟩ := bind_ok_iff.mp h
  obtain ⟨s, -, h⟩ := bind_ok_iff.mp h
  obtain ⟨offset, hoffset, h⟩ := bind_ok_iff.mp h
  cases h
  have hround := le_roundUp8 (okOr_ok.mp hoffset)
  show c.offset < bytes.length ∧ c.offset + CLOSING_RECORD_LEN ≤ offset
  omega

/-- The loop over the records. -/
def walk (bytes : Bytes) (c : Cursor) : Except Stop (List HostListener) :=
  match _hstep : step bytes c with
  | .error e => .error e
  | .ok none => .ok c.out
  | .ok (some c') => walk bytes c'
termination_by bytes.length - c.offset
decreasing_by
  have hprogress := step_progress _hstep
  simp only [CLOSING_RECORD_LEN] at hprogress
  omega

theorem walk_error {bytes : Bytes} {c : Cursor} {e : Stop} (h : step bytes c = .error e) :
    walk bytes c = .error e := by
  unfold walk
  split
  · simp_all
  · simp_all
  · simp_all

theorem walk_done {bytes : Bytes} {c : Cursor} (h : step bytes c = .ok none) :
    walk bytes c = .ok c.out := by
  unfold walk
  split
  · simp_all
  · simp_all
  · simp_all

theorem walk_next {bytes : Bytes} {c c' : Cursor} (h : step bytes c = .ok (some c')) :
    walk bytes c = walk bytes c' := by
  rw [walk]
  split
  · simp_all
  · simp_all
  · simp_all

def decodeHostListeners (buffer : Buffer) : Except Stop (List HostListener) :=
  if buffer.bytes.length < 4 then .ok []
  else do
    let headerLen ← readU32 buffer.bytes 0
    let offset ← okOr (roundUp8 headerLen.toNat) Libc.EINVAL
    if offset > buffer.bytes.length then .error (.errno Libc.EINVAL)
    else walk buffer.bytes ⟨offset, none, []⟩

/-! ## No panic

A cursor that starts inside the buffer stays within seven bytes of its end, so no addition
overflows and no slice leaves the buffer. -/

theorem roundUp8_eq {value : Nat} (h : value + 7 < 2 ^ 64) :
    roundUp8 value = some (ceil8 value) := by
  rw [roundUp8, checkedAddUsize_some h]
  rfl

theorem fieldAt_eq {bytes : Bytes} {offset field len : Nat} (h : offset + field + len < 2 ^ 64) :
    fieldAt bytes offset field len = index bytes (offset + field) (offset + field + len) := by
  rw [fieldAt, addUsize_ok (by omega), ok_bind, addUsize_ok h, ok_bind]

theorem exists_fieldAt {bytes : Bytes} (offset field len : Nat)
    (h : offset + field + len ≤ bytes.length) (hfits : bytes.length < 2 ^ 63) :
    ∃ out, fieldAt bytes offset field len = .ok out ∧ out.length = len := by
  obtain ⟨out, hout⟩ := exists_slice (Nat.le_add_right (offset + field) len) h
  have hlength := length_of_slice hout
  refine ⟨out, ?_, by omega⟩
  rw [fieldAt_eq (by omega), index, hout, Option.elim_some]

/-- The address is the hexadecimal of four bytes or of sixteen. -/
theorem exists_inpcbAddress (vflag : UInt8) {laddr : Bytes} (h : laddr.length = 16) :
    ∃ field, inpcbAddress vflag laddr = .ok (hexBytes field) ∧
      (field.length = 4 ∨ field.length = 16) := by
  unfold inpcbAddress
  by_cases hflag : vflag &&& INP_IPV6 ≠ 0
  · exact ⟨laddr, if_pos hflag, Or.inr h⟩
  · obtain ⟨v4, hv4⟩ := exists_slice (l := laddr) (show 12 ≤ 16 by omega) (by omega)
    have hlength := length_of_slice hv4
    refine ⟨v4, ?_, Or.inl (by omega)⟩
    rw [if_neg hflag, index, hv4, Option.elim_some, ok_bind]
    rfl

theorem exists_readInpcb (bytes : Bytes) (offset : Nat) (h : offset + 84 ≤ bytes.length)
    (hfits : bytes.length < 2 ^ 63) :
    ∃ port field, readInpcb bytes offset = .ok (port, hexBytes field) ∧
      (field.length = 4 ∨ field.length = 16) := by
  obtain ⟨raw, hraw, -⟩ := exists_fieldAt offset XINPCB_LPORT_OFFSET 2
    (show offset + 18 + 2 ≤ bytes.length by omega) hfits
  obtain ⟨vflag, hvflag, -⟩ := exists_fieldAt offset XINPCB_VFLAG_OFFSET 1
    (show offset + 44 + 1 ≤ bytes.length by omega) hfits
  obtain ⟨laddr, hladdr, hlength⟩ := exists_fieldAt offset XINPCB_LADDR_OFFSET 16
    (show offset + 64 + 16 ≤ bytes.length by omega) hfits
  obtain ⟨field, haddress, hfield⟩ := exists_inpcbAddress (vflag.headD 0) hlength
  refine ⟨fromBeU16 raw, field, ?_, hfield⟩
  rw [readInpcb, hraw, ok_bind, hvflag, ok_bind, hladdr, ok_bind, haddress, ok_bind]
  rfl

theorem exists_readTcpcbState (bytes : Bytes) (offset : Nat) (h : offset + 40 ≤ bytes.length)
    (hfits : bytes.length < 2 ^ 63) : ∃ state, readTcpcbState bytes offset = .ok state := by
  obtain ⟨field, hfield, -⟩ := exists_fieldAt offset XTCPCB_STATE_OFFSET 4
    (show offset + 36 + 4 ≤ bytes.length by omega) hfits
  exact ⟨fromNeI32 field, by rw [readTcpcbState, hfield, ok_bind]; rfl⟩

/-- Reading a record that lies inside the buffer never fails. -/
theorem exists_readRecord (bytes : Bytes) (offset : Nat) (kind : UInt32) (len : Nat)
    (s : Option HostListener × List HostListener) (h : offset + len ≤ bytes.length)
    (hfits : bytes.length < 2 ^ 63) : ∃ s', readRecord bytes offset kind len s = .ok s' := by
  unfold readRecord
  by_cases hin : kind = XSO_INPCB ∧ len ≥ 84
  · obtain ⟨port, field, hread, -⟩ := exists_readInpcb bytes offset (by omega) hfits
    refine ⟨(some (port, hexBytes field), s.2), ?_⟩
    rw [if_pos hin, hread]
    rfl
  · by_cases htcp : kind = XSO_TCPCB ∧ len ≥ 40
    · obtain ⟨state, hstate⟩ := exists_readTcpcbState bytes offset (by omega) hfits
      rw [if_neg hin, if_pos htcp, hstate, ok_bind]
      exact ⟨_, (apply_ite Except.ok _ _ _).symm⟩
    · exact ⟨s, by rw [if_neg hin, if_neg htcp]; rfl⟩

theorem exists_readU32 (bytes : Bytes) (offset : Nat) (h : offset + 4 ≤ bytes.length)
    (hfits : bytes.length < 2 ^ 63) : ∃ n, readU32 bytes offset = .ok n := by
  obtain ⟨field, hfield⟩ := exists_slice (Nat.le_add_right offset 4) h
  refine ⟨fromNeU32 field, ?_⟩
  rw [readU32, checkedAddUsize_some (by omega), okOr_some, ok_bind, hfield, okOr_some, ok_bind]
  rfl

/-- What one turn can do from a cursor near the buffer: refuse, end, or go on from a cursor near
the buffer. -/
theorem step_cases {bytes : Bytes} {c : Cursor} (hfits : bytes.length < 2 ^ 63)
    (hc : c.offset ≤ bytes.length + 7) :
    step bytes c = .error (.errno Libc.EINVAL) ∨ step bytes c = .ok none ∨
      ∃ c', step bytes c = .ok (some c') ∧ c'.offset ≤ bytes.length + 7 := by
  unfold step
  rw [addUsize_ok (by omega), ok_bind]
  by_cases hroom : c.offset + 8 > bytes.length
  · exact Or.inr (Or.inl (if_pos hroom))
  obtain ⟨len, hlen⟩ := exists_readU32 bytes c.offset (by omega) hfits
  have hlt := len.toNat_lt
  rw [if_neg hroom, hlen, ok_bind, checkedAddUsize_some (by omega), okOr_some, ok_bind]
  by_cases hframe : len.toNat < CLOSING_RECORD_LEN ∨ c.offset + len.toNat > bytes.length
  · exact Or.inl (if_pos hframe)
  rw [if_neg hframe]
  by_cases hclosing : len.toNat = CLOSING_RECORD_LEN
  · exact Or.inr (Or.inl (if_pos hclosing))
  rw [not_or, not_lt, not_lt] at hframe
  obtain ⟨kind, hkind⟩ := exists_readU32 bytes (c.offset + 4) (by omega) hfits
  obtain ⟨s', hs'⟩ := exists_readRecord bytes c.offset kind len.toNat (c.pending, c.out)
    hframe.2 hfits
  have hround := ceil8_lt (c.offset + len.toNat)
  rw [if_neg hclosing, addUsize_ok (by omega), ok_bind, hkind, ok_bind, hs', ok_bind,
    roundUp8_eq (by omega), okOr_some]
  refine Or.inr (Or.inr ⟨⟨ceil8 (c.offset + len.toNat), s'.1, s'.2⟩, rfl, ?_⟩)
  show ceil8 (c.offset + len.toNat) ≤ bytes.length + 7
  omega

/-- The loop returns rows or refuses the table. -/
theorem walk_cases {bytes : Bytes} (hfits : bytes.length < 2 ^ 63) {c : Cursor}
    (hc : c.offset ≤ bytes.length + 7) :
    walk bytes c = .error (.errno Libc.EINVAL) ∨ ∃ rows, walk bytes c = .ok rows := by
  -- on what is left of the buffer
  induction hn : bytes.length + 7 - c.offset using Nat.strong_induction_on generalizing c with
  | _ n ih =>
      rcases step_cases hfits hc with hstep | hstep | ⟨c', hstep, hc'⟩
      · exact Or.inl (walk_error hstep)
      · exact Or.inr ⟨c.out, walk_done hstep⟩
      · have hprogress := step_progress hstep
        simp only [CLOSING_RECORD_LEN] at hprogress
        rw [walk_next hstep]
        exact ih _ (by omega) hc' rfl

theorem decodeHostListeners_cases (buffer : Buffer) :
    decodeHostListeners buffer = .error (.errno Libc.EINVAL) ∨
      ∃ rows, decodeHostListeners buffer = .ok rows := by
  have hfits := buffer.fits
  unfold decodeHostListeners
  by_cases hshort : buffer.bytes.length < 4
  · exact Or.inr ⟨[], if_pos hshort⟩
  obtain ⟨len, hlen⟩ := exists_readU32 buffer.bytes 0 (by omega) hfits
  have hlt := len.toNat_lt
  rw [if_neg hshort, hlen, ok_bind, roundUp8_eq (by omega), okOr_some, ok_bind]
  by_cases hover : ceil8 len.toNat > buffer.bytes.length
  · exact Or.inl (if_pos hover)
  · rw [if_neg hover]
    exact walk_cases hfits (show ceil8 len.toNat ≤ buffer.bytes.length + 7 by omega)

theorem decodeHostListeners_ne_panic (buffer : Buffer) :
    decodeHostListeners buffer ≠ .error .panic := by
  intro h
  rcases decodeHostListeners_cases buffer with hcase | ⟨rows, hcase⟩
  · rw [h] at hcase
    cases hcase
  · rw [h] at hcase
    cases hcase

/-! ## The merge -/

/-- The order of a listener: port, then address. -/
def listenerKey (l : HostListener) : ℕ ×ₗ List ℕ := toLex (l.1.toNat, l.2.map Char.toNat)

/-- The claims come as a map from listeners to pids, listed in the order in which its keys are
visited. -/
def attributeHostListeners (rows : List HostListener) (claims : List (HostListener × Pid)) :
    List Port :=
  let all := (claims.map Prod.fst).foldl pushNew rows
  (sortByKey listenerKey all).map (fun key =>
    { attribution := (claims.lookup key).elim .unclaimed .claimed
      -- neither source of listeners carries the owner
      uid := none
      port := key.1
      address := key.2 })

end Osfacts.Pcblist
