import Osfacts.Pcblist

set_option autoImplicit false

/-! # Well-formed listener tables

A table as the kernel lays it out: a header of its declared length, records, a closing record,
everything padded to eight bytes. Each record takes the loop from its start to the start of the
next (`step_record`); a whole list of records is a fold of their effects (`walk_records`), and a
table cut short is refused exactly when the cut leaves a record head without its record.
-/

namespace Osfacts.Pcblist

/-! ## Records -/

/-- A record that is not the closing one, and its padding. -/
structure Record where
  kind : UInt32
  body : Bytes
  padding : Bytes
  long : CLOSING_RECORD_LEN < 8 + body.length
  short : 8 + body.length < 2 ^ 32
  padded : 8 + body.length + padding.length = ceil8 (8 + body.length)

namespace Record

/-- The declared length. -/
def len (r : Record) : Nat := 8 + r.body.length

/-- The record as far as its declared length. -/
def bytes (r : Record) : Bytes :=
  neBytesU32 (UInt32.ofNat r.len) ++ (neBytesU32 r.kind ++ r.body)

def encode (r : Record) : Bytes := r.bytes ++ r.padding

theorem length_bytes (r : Record) : r.bytes.length = r.len := by
  simp only [bytes, neBytesU32, List.length_append, length_leBytes, len]
  omega

theorem length_encode (r : Record) : r.encode.length = ceil8 r.len := by
  rw [encode, List.length_append, length_bytes, len]
  exact r.padded

theorem len_bounds (r : Record) : 24 < r.len ∧ r.len < 2 ^ 32 := ⟨r.long, r.short⟩

end Record

def encodeAll (rs : List Record) : Bytes := rs.flatMap Record.encode

theorem length_encodeAll_cons (r : Record) (rs : List Record) :
    (encodeAll (r :: rs)).length = ceil8 r.len + (encodeAll rs).length := by
  rw [encodeAll, List.flatMap_cons, List.length_append, r.length_encode]
  rfl

/-! ## Reading at a position -/

theorem readU32_append (pre post : Bytes) (n : UInt32) (h : pre.length + 4 < 2 ^ 64) :
    readU32 (pre ++ (neBytesU32 n ++ post)) pre.length = .ok n := by
  have hslice : slice (pre ++ (neBytesU32 n ++ post)) pre.length (pre.length + 4)
      = some (neBytesU32 n) := slice_append pre _ post rfl (by simp [neBytesU32])
  rw [readU32, checkedAddUsize_some h, okOr_some, ok_bind, hslice, okOr_some, ok_bind,
    fromNeU32_neBytes]
  rfl

/-- A field of a record in a table is that field of the record alone. -/
theorem fieldAt_shift (pre part post : Bytes) {field len : Nat} (h : field + len ≤ part.length)
    (hfits : pre.length + part.length < 2 ^ 64) :
    fieldAt (pre ++ (part ++ post)) pre.length field len = fieldAt part 0 field len := by
  have hslice : slice (pre ++ (part ++ post)) (pre.length + field) (pre.length + (field + len))
      = slice part field (field + len) := slice_shift pre part post h
  rw [fieldAt_eq (by omega), fieldAt_eq (by omega), index, index, Nat.add_assoc, hslice,
    Nat.zero_add]

theorem readInpcb_shift (pre part post : Bytes) (h : 84 ≤ part.length)
    (hfits : pre.length + part.length < 2 ^ 64) :
    readInpcb (pre ++ (part ++ post)) pre.length = readInpcb part 0 := by
  unfold readInpcb XINPCB_LPORT_OFFSET XINPCB_VFLAG_OFFSET XINPCB_LADDR_OFFSET
  rw [fieldAt_shift pre part post (by omega) hfits, fieldAt_shift pre part post (by omega) hfits,
    fieldAt_shift pre part post (by omega) hfits]

theorem readTcpcbState_shift (pre part post : Bytes) (h : 40 ≤ part.length)
    (hfits : pre.length + part.length < 2 ^ 64) :
    readTcpcbState (pre ++ (part ++ post)) pre.length = readTcpcbState part 0 := by
  unfold readTcpcbState XTCPCB_STATE_OFFSET
  rw [fieldAt_shift pre part post (by omega) hfits]

theorem readRecord_shift (pre part post : Bytes) (kind : UInt32)
    (s : Option HostListener × List HostListener) (hfits : pre.length + part.length < 2 ^ 64) :
    readRecord (pre ++ (part ++ post)) pre.length kind part.length s
      = readRecord part 0 kind part.length s := by
  unfold readRecord
  by_cases hin : kind = XSO_INPCB ∧ part.length ≥ 84
  · rw [if_pos hin, if_pos hin, readInpcb_shift pre part post hin.2 hfits]
  · rw [if_neg hin, if_neg hin]
    by_cases htcp : kind = XSO_TCPCB ∧ part.length ≥ 40
    · rw [if_pos htcp, if_pos htcp, readTcpcbState_shift pre part post htcp.2 hfits]
    · rw [if_neg htcp, if_neg htcp]

namespace Record

/-- What a record does to the half-read socket and the rows. -/
def effect (r : Record) (s : Option HostListener × List HostListener) :
    Option HostListener × List HostListener :=
  (readRecord r.bytes 0 r.kind r.len s).toOption.getD s

theorem readRecord_eq (r : Record) (s : Option HostListener × List HostListener) :
    readRecord r.bytes 0 r.kind r.len s = .ok (r.effect s) := by
  obtain ⟨hlong, hshort⟩ := r.len_bounds
  obtain ⟨s', hs'⟩ := exists_readRecord r.bytes 0 r.kind r.len s
    (by rw [r.length_bytes]; omega) (by rw [r.length_bytes]; omega)
  rw [effect, hs']
  rfl

end Record

/-! ## One turn of the loop -/

/-- The cursor at a position, with a state. -/
def cursorAt (offset : Nat) (s : Option HostListener × List HostListener) : Cursor :=
  ⟨offset, s.1, s.2⟩

theorem cursorAt_offset (offset : Nat) (s : Option HostListener × List HostListener) :
    (cursorAt offset s).offset = offset := rfl

theorem cursorAt_state (offset : Nat) (s : Option HostListener × List HostListener) :
    ((cursorAt offset s).pending, (cursorAt offset s).out) = s := rfl

/-- Where no record head fits the loop ends. -/
theorem step_room {bytes : Bytes} {c : Cursor} (h : bytes.length < c.offset + 8)
    (hfits : c.offset + 8 < 2 ^ 64) : step bytes c = .ok none := by
  rw [step, addUsize_ok hfits, ok_bind, if_pos (by omega)]
  rfl

/-- A declared length that runs past the buffer is refused. -/
theorem step_cut (pre tail : Bytes) (len : UInt32) (s : Option HostListener × List HostListener)
    (hhead : 8 ≤ 4 + tail.length) (hcut : 4 + tail.length < len.toNat)
    (hfits : pre.length + len.toNat < 2 ^ 64) :
    step (pre ++ (neBytesU32 len ++ tail)) (cursorAt pre.length s)
      = .error (.errno Libc.EINVAL) := by
  have hlength : (pre ++ (neBytesU32 len ++ tail)).length = pre.length + (4 + tail.length) := by
    simp only [neBytesU32, List.length_append, length_leBytes]
  have hover : len.toNat < CLOSING_RECORD_LEN
      ∨ pre.length + len.toNat > (pre ++ (neBytesU32 len ++ tail)).length := by omega
  rw [step, cursorAt_offset, addUsize_ok (by omega), ok_bind, if_neg (by omega),
    readU32_append pre tail len (by omega), ok_bind, checkedAddUsize_some hfits, okOr_some, ok_bind,
    if_pos hover]

/-- The closing record ends the loop. -/
theorem step_closing (pre tail : Bytes) (s : Option HostListener × List HostListener)
    (htail : 20 ≤ tail.length) (hfits : pre.length + 24 < 2 ^ 64) :
    step (pre ++ (neBytesU32 24 ++ tail)) (cursorAt pre.length s) = .ok none := by
  have hlength : (pre ++ (neBytesU32 24 ++ tail)).length = pre.length + (4 + tail.length) := by
    simp only [neBytesU32, List.length_append, length_leBytes]
  have hclosing : (24 : UInt32).toNat = CLOSING_RECORD_LEN := rfl
  have hfits' : pre.length + CLOSING_RECORD_LEN < 2 ^ 64 := hfits
  have hin : ¬(CLOSING_RECORD_LEN < CLOSING_RECORD_LEN
      ∨ pre.length + CLOSING_RECORD_LEN > (pre ++ (neBytesU32 24 ++ tail)).length) := by
    simp only [CLOSING_RECORD_LEN]
    omega
  rw [step, cursorAt_offset, addUsize_ok (by omega), ok_bind, if_neg (by omega),
    readU32_append pre tail 24 (by omega), ok_bind, hclosing, checkedAddUsize_some hfits',
    okOr_some, ok_bind, if_neg hin, if_pos rfl]
  rfl

/-- **A record takes the cursor to the start of the next.** -/
theorem step_record (pre post : Bytes) (r : Record)
    (s : Option HostListener × List HostListener) (hpre : 8 ∣ pre.length)
    (hfits : pre.length + r.len + 8 < 2 ^ 64) :
    step (pre ++ (r.bytes ++ post)) (cursorAt pre.length s)
      = .ok (some (cursorAt (pre.length + ceil8 r.len) (r.effect s))) := by
  obtain ⟨hlong, hshort⟩ := r.len_bounds
  have hlen : (UInt32.ofNat r.len).toNat = r.len := UInt32.toNat_ofNat_of_lt' hshort
  have hlength : (pre ++ (r.bytes ++ post)).length = pre.length + (r.len + post.length) := by
    rw [List.length_append, List.length_append, r.length_bytes]
  have hhead : readU32 (pre ++ (r.bytes ++ post)) pre.length = .ok (UInt32.ofNat r.len) := by
    rw [Record.bytes, List.append_assoc]
    exact readU32_append pre _ _ (by omega)
  have hkind : readU32 (pre ++ (r.bytes ++ post)) (pre.length + 4) = .ok r.kind := by
    have happ : pre ++ (r.bytes ++ post)
        = (pre ++ neBytesU32 (UInt32.ofNat r.len)) ++ (neBytesU32 r.kind ++ (r.body ++ post)) := by
      simp only [Record.bytes, List.append_assoc]
    have hpos : pre.length + 4 = (pre ++ neBytesU32 (UInt32.ofNat r.len)).length := by
      rw [List.length_append, neBytesU32, length_leBytes]
    rw [happ, hpos]
    exact readU32_append _ _ r.kind (by omega)
  -- the fields of a record are read relative to its head, whatever stands around it
  have hrecord : readRecord (pre ++ (r.bytes ++ post)) pre.length r.kind r.len s
      = .ok (r.effect s) := by
    have hshift := readRecord_shift pre r.bytes post r.kind s (by rw [r.length_bytes]; omega)
    rw [r.length_bytes] at hshift
    rw [hshift, r.readRecord_eq]
  have hin : ¬(r.len < CLOSING_RECORD_LEN
      ∨ pre.length + r.len > (pre ++ (r.bytes ++ post)).length) := by
    simp only [CLOSING_RECORD_LEN]
    omega
  have hopen : r.len ≠ CLOSING_RECORD_LEN := by
    simp only [CLOSING_RECORD_LEN]
    omega
  rw [step, cursorAt_offset, addUsize_ok (by omega), ok_bind, if_neg (by omega), hhead, ok_bind,
    hlen, checkedAddUsize_some (by omega), okOr_some, ok_bind, if_neg hin, if_neg hopen,
    addUsize_ok (by omega), ok_bind, hkind, ok_bind, cursorAt_state, hrecord, ok_bind,
    roundUp8_eq (by omega), ceil8_add hpre, okOr_some]
  rfl

/-! ## Runs of the loop -/

theorem length_append_encode (pre : Bytes) (r : Record) :
    (pre ++ r.encode).length = pre.length + ceil8 r.len := by
  rw [List.length_append, r.length_encode]

theorem dvd_append_encode {pre : Bytes} (h : 8 ∣ pre.length) (r : Record) :
    8 ∣ (pre ++ r.encode).length := by
  rw [length_append_encode]
  exact Nat.dvd_add h (dvd_ceil8 _)

/-- Behind a record the walk goes on at its end. -/
theorem walk_encode {pre : Bytes} (post : Bytes) (r : Record)
    (s : Option HostListener × List HostListener) (hpre : 8 ∣ pre.length)
    (hfits : pre.length + r.len + 8 < 2 ^ 64) :
    walk (pre ++ (r.encode ++ post)) (cursorAt pre.length s)
      = walk ((pre ++ r.encode) ++ post) (cursorAt (pre ++ r.encode).length (r.effect s)) := by
  have hsplit : pre ++ (r.encode ++ post) = pre ++ (r.bytes ++ (r.padding ++ post)) := by
    rw [Record.encode, List.append_assoc]
  have hstep := step_record pre (r.padding ++ post) r s hpre hfits
  rw [← hsplit] at hstep
  rw [walk_next hstep, length_append_encode, List.append_assoc]

/-- **A list of records is a fold of their effects.** -/
theorem walk_records (rs : List Record) (pre post : Bytes)
    (s : Option HostListener × List HostListener) (hpre : 8 ∣ pre.length)
    (hfits : (pre ++ (encodeAll rs ++ post)).length < 2 ^ 63) :
    walk (pre ++ (encodeAll rs ++ post)) (cursorAt pre.length s)
      = walk (pre ++ (encodeAll rs ++ post))
          (cursorAt (pre.length + (encodeAll rs).length) (rs.foldl (fun s r => r.effect s) s)) := by
  induction rs generalizing pre s with
  | nil => rfl
  | cons r rs ih =>
      have hle := le_ceil8 r.len
      have hpos := length_append_encode pre r
      have hsplit : encodeAll (r :: rs) ++ post = r.encode ++ (encodeAll rs ++ post) :=
        List.append_assoc _ _ _
      have hend : pre.length + (encodeAll (r :: rs)).length
          = (pre ++ r.encode).length + (encodeAll rs).length := by
        rw [length_encodeAll_cons, hpos, Nat.add_assoc]
      rw [hsplit, ← List.append_assoc] at hfits
      have hroom := (List.sublist_append_left (pre ++ r.encode) (encodeAll rs ++ post)).length_le
      rw [List.foldl_cons, hend, hsplit, walk_encode _ r s hpre (by omega),
        ← List.append_assoc pre]
      exact ih (pre ++ r.encode) (r.effect s) (dvd_append_encode hpre r) hfits

/-- A walk that has room for less than a record head is over. -/
theorem walk_room {bytes : Bytes} {c : Cursor} (h : bytes.length < c.offset + 8)
    (hfits : c.offset + 8 < 2 ^ 64) : walk bytes c = .ok c.out :=
  walk_done (step_room h hfits)

/-! ## Tables -/

/-- A table as the kernel lays it out. -/
structure Table where
  /-- the header behind its length -/
  header : Bytes
  headerPadding : Bytes
  records : List Record
  /-- the closing record behind its length -/
  closing : Bytes
  header_short : 4 + header.length < 2 ^ 32
  header_padded : 4 + header.length + headerPadding.length = ceil8 (4 + header.length)
  closing_length : closing.length = 20
  fits : ceil8 (4 + header.length) + (encodeAll records).length + 24 < 2 ^ 63

namespace Table

variable (t : Table)

/-- The padded header. -/
def head : Bytes :=
  neBytesU32 (UInt32.ofNat (4 + t.header.length)) ++ (t.header ++ t.headerPadding)

/-- The closing record. -/
def tail : Bytes := neBytesU32 24 ++ t.closing

def bytes : Bytes := t.head ++ (encodeAll t.records ++ t.tail)

theorem length_head : t.head.length = ceil8 (4 + t.header.length) := by
  rw [← t.header_padded, head, neBytesU32, List.length_append, List.length_append, length_leBytes]
  omega

theorem length_tail : t.tail.length = 24 := by
  rw [tail, neBytesU32, List.length_append, length_leBytes, t.closing_length]

theorem length_bytes : t.bytes.length = t.head.length + (encodeAll t.records).length + 24 := by
  rw [bytes, List.length_append, List.length_append, length_tail, Nat.add_assoc]

/-- The first bytes of the table. -/
def cut (k : Nat) : Buffer where
  bytes := t.bytes.take k
  fits := by
    have hfits := t.fits
    rw [← length_head, ← length_bytes] at hfits
    rw [List.length_take]
    omega

/-- The whole table. -/
def buffer : Buffer where
  bytes := t.bytes
  fits := by
    rw [length_bytes, length_head]
    exact t.fits

/-- A buffer that starts with the header is walked from its end. -/
theorem decode_of_head {buffer : Buffer} {rest : Bytes} (h : buffer.bytes = t.head ++ rest) :
    decodeHostListeners buffer = walk buffer.bytes (cursorAt t.head.length (none, [])) := by
  have hlength : buffer.bytes.length = t.head.length + rest.length := by
    rw [h, List.length_append]
  have hle := le_ceil8 (4 + t.header.length)
  have hhead := t.length_head
  have hfits := buffer.fits
  have hread : readU32 buffer.bytes 0 = .ok (UInt32.ofNat (4 + t.header.length)) := by
    rw [h, head, List.append_assoc]
    exact readU32_append [] _ _ (by simp)
  have hround : roundUp8 (UInt32.ofNat (4 + t.header.length)).toNat = some t.head.length := by
    rw [UInt32.toNat_ofNat_of_lt' t.header_short, roundUp8_eq (by omega), hhead]
  rw [decodeHostListeners, if_neg (by omega), hread, ok_bind, hround, okOr_some, ok_bind,
    if_neg (by omega)]
  rfl

end Table

/-! ## A table cut short -/

/-- The cut of a list of records and the closing record leaves a record head without the end of
its record. -/
def CutInside : List Record → Nat → Prop
  | [], k => 8 ≤ k
  | r :: rs, k => (8 ≤ k ∧ k < r.len) ∨ (ceil8 r.len ≤ k ∧ CutInside rs (k - ceil8 r.len))

/-- A record whose head is there and whose end is not is refused. -/
theorem walk_cut (pre tail : Bytes) (len : UInt32) (k : Nat)
    (s : Option HostListener × List HostListener) (hhead : 8 ≤ k) (hcut : k < len.toNat)
    (htail : len.toNat ≤ 4 + tail.length) (hfits : pre.length + len.toNat < 2 ^ 64) :
    walk (pre ++ (neBytesU32 len ++ tail).take k) (cursorAt pre.length s)
      = .error (.errno Libc.EINVAL) := by
  have htake : (neBytesU32 len ++ tail).take k = neBytesU32 len ++ tail.take (k - 4) := by
    rw [List.take_append, List.take_of_length_le (by simp [neBytesU32]; omega), neBytesU32,
      length_leBytes]
  have hlength : (tail.take (k - 4)).length = k - 4 := by
    rw [List.length_take]
    omega
  rw [htake]
  exact walk_error (step_cut pre _ len s (by omega) (by omega) hfits)

/-- A cut in front of a whole head is the end of the table. -/
theorem walk_take_room (pre post : Bytes) (s : Option HostListener × List HostListener) {k : Nat}
    (hk : k < 8) (hfits : pre.length + 8 < 2 ^ 64) :
    walk (pre ++ post.take k) (cursorAt pre.length s) = .ok s.2 := by
  have hshort : (pre ++ post.take k).length < pre.length + 8 := by
    rw [List.length_append, List.length_take]
    omega
  exact walk_room hshort hfits

section Cut

variable {r : Record} {rs : List Record} {k : Nat}

theorem cutInside_of_le (h : ceil8 r.len ≤ k) :
    CutInside (r :: rs) k ↔ CutInside rs (k - ceil8 r.len) := by
  have hle := le_ceil8 r.len
  rw [CutInside]
  constructor
  · rintro (⟨-, hcut⟩ | ⟨-, hcut⟩)
    · omega
    · exact hcut
  · exact fun hcut => Or.inr ⟨h, hcut⟩

theorem cutInside_of_lt (h : k < ceil8 r.len) : CutInside (r :: rs) k ↔ 8 ≤ k ∧ k < r.len := by
  rw [CutInside]
  constructor
  · rintro (hcut | ⟨hcut, -⟩)
    · exact hcut
    · omega
  · exact Or.inl

/-- A record of which a part is there: refused if its head is there and its end is not. -/
theorem walk_take_record (r : Record) (pre : Bytes)
    (s : Option HostListener × List HostListener) (hpre : 8 ∣ pre.length) (hk : k < ceil8 r.len)
    (hfits : pre.length + ceil8 r.len + 24 < 2 ^ 63) :
    (8 ≤ k ∧ k < r.len →
      walk (pre ++ r.encode.take k) (cursorAt pre.length s) = .error (.errno Libc.EINVAL)) ∧
    (¬(8 ≤ k ∧ k < r.len) →
      ∃ rows, walk (pre ++ r.encode.take k) (cursorAt pre.length s) = .ok rows) := by
  obtain ⟨hlong, hshort⟩ := r.len_bounds
  have hle := le_ceil8 r.len
  refine ⟨fun ⟨hhead, hcut⟩ => ?_, fun hcut => ?_⟩
  · have hlen : (UInt32.ofNat r.len).toNat = r.len := UInt32.toNat_ofNat_of_lt' hshort
    rw [Record.encode, Record.bytes, List.append_assoc]
    exact walk_cut pre _ (UInt32.ofNat r.len) k s hhead (by omega) (by
      rw [hlen, List.length_append, List.length_append, Record.len, neBytesU32, length_leBytes]
      omega) (by omega)
  · by_cases hroom : k < 8
    · exact ⟨s.2, walk_take_room pre _ s hroom (by omega)⟩
    · -- the record is there, and its padding is cut
      have hstep := step_record pre (r.padding.take (k - r.len)) r s hpre (by omega)
      have htake : r.encode.take k = r.bytes ++ r.padding.take (k - r.len) := by
        rw [Record.encode, List.take_append, r.length_bytes,
          List.take_of_length_le (by rw [r.length_bytes]; omega)]
      have hend : (pre ++ r.encode.take k).length < pre.length + ceil8 r.len + 8 := by
        rw [List.length_append, List.length_take]
        omega
      rw [htake] at hend ⊢
      exact ⟨(r.effect s).2, (walk_next hstep).trans (walk_room hend (by
        rw [cursorAt_offset]
        omega))⟩

end Cut

theorem walk_take (closing : Bytes) (hclosing : closing.length = 20) (rs : List Record)
    (pre : Bytes) (s : Option HostListener × List HostListener) (k : Nat) (hpre : 8 ∣ pre.length)
    (hk : k < (encodeAll rs).length + 24)
    (hfits : pre.length + (encodeAll rs).length + 24 < 2 ^ 63) :
    let bytes := pre ++ (encodeAll rs ++ (neBytesU32 24 ++ closing)).take k
    (CutInside rs k → walk bytes (cursorAt pre.length s) = .error (.errno Libc.EINVAL)) ∧
      (¬ CutInside rs k → ∃ rows, walk bytes (cursorAt pre.length s) = .ok rows) := by
  induction rs generalizing pre s k with
  | nil =>
      refine ⟨fun hcut => ?_, fun hcut => ?_⟩
      · have hk' : k < 24 := by simpa [encodeAll] using hk
        have hlen : (24 : UInt32).toNat = 24 := rfl
        exact walk_cut pre closing 24 k s hcut hk' (by omega) (by omega)
      · exact ⟨s.2, walk_take_room pre _ s (not_le.mp hcut) (by omega)⟩
  | cons r rs ih =>
      have hle := le_ceil8 r.len
      have hcons : encodeAll (r :: rs) = r.encode ++ encodeAll rs := rfl
      have hlength := length_encodeAll_cons r rs
      have hpos := length_append_encode pre r
      dsimp only
      rw [hcons, List.append_assoc, List.take_append, r.length_encode]
      by_cases hnext : ceil8 r.len ≤ k
      · -- the record is there, with its padding
        have hwhole : r.encode.take k = r.encode :=
          List.take_of_length_le (by rw [r.length_encode]; exact hnext)
        rw [hwhole, walk_encode _ r s hpre (by omega), cutInside_of_le hnext]
        exact ih (pre ++ r.encode) (r.effect s) (k - ceil8 r.len) (dvd_append_encode hpre r)
          (by omega) (by omega)
      · have hzero : k - ceil8 r.len = 0 := by omega
        rw [hzero, List.take_zero, List.append_nil, cutInside_of_lt (not_le.mp hnext)]
        exact walk_take_record r pre s hpre (not_le.mp hnext) (by omega)

/-- The cut falls inside the padded header, or leaves a record head without the end of its
record. -/
def Table.CutSeen (t : Table) (k : Nat) : Prop :=
  k < t.head.length ∨ CutInside t.records (k - t.head.length)

/-- **A table cut short.** It is refused exactly when the cut falls inside the padded header, or
at least eight bytes into a record and before the end of its declared length; every other cut is
read as a shorter table. -/
theorem decode_cut (t : Table) {k : Nat} (hfour : 4 ≤ k) (hk : k < t.bytes.length) :
    (decodeHostListeners (t.cut k) = .error (.errno Libc.EINVAL) ↔ t.CutSeen k) ∧
      (¬ t.CutSeen k → ∃ rows, decodeHostListeners (t.cut k) = .ok rows) := by
  have hlength := t.length_bytes
  have hhead := t.length_head
  have hfits := t.fits
  -- a result that is an error is no result
  suffices hcases : (t.CutSeen k →
      decodeHostListeners (t.cut k) = .error (.errno Libc.EINVAL)) ∧
      (¬ t.CutSeen k → ∃ rows, decodeHostListeners (t.cut k) = .ok rows) by
    refine ⟨⟨fun herr => ?_, hcases.1⟩, hcases.2⟩
    by_contra hseen
    obtain ⟨rows, hrows⟩ := hcases.2 hseen
    rw [hrows] at herr
    cases herr
  by_cases hbody : t.head.length ≤ k
  · have hiff : t.CutSeen k ↔ CutInside t.records (k - t.head.length) :=
      ⟨fun hseen => hseen.resolve_left (by omega), Or.inr⟩
    have hbytes : (t.cut k).bytes
        = t.head ++ (encodeAll t.records ++ t.tail).take (k - t.head.length) := by
      show t.bytes.take k = _
      rw [Table.bytes, List.take_append, List.take_of_length_le hbody]
    rw [t.decode_of_head hbytes, hbytes, hiff]
    exact walk_take t.closing t.closing_length t.records t.head (none, []) _
      (hhead ▸ dvd_ceil8 _) (by omega) (by omega)
  · -- the declared length runs past the buffer
    refine ⟨fun _ => ?_, fun hseen => absurd (Or.inl (by omega)) hseen⟩
    have hround : roundUp8 (UInt32.ofNat (4 + t.header.length)).toNat = some t.head.length := by
      rw [UInt32.toNat_ofNat_of_lt' t.header_short, roundUp8_eq (by
        have hshort := t.header_short
        omega), hhead]
    have hread : readU32 (t.cut k).bytes 0 = .ok (UInt32.ofNat (4 + t.header.length)) := by
      have htake : (t.cut k).bytes
          = [] ++ (neBytesU32 (UInt32.ofNat (4 + t.header.length)) ++ (t.header
              ++ t.headerPadding ++ (encodeAll t.records ++ t.tail)).take (k - 4)) := by
        show t.bytes.take k = _
        rw [Table.bytes, Table.head, List.append_assoc, List.take_append,
          List.take_of_length_le (by simp [neBytesU32]; omega), neBytesU32, length_leBytes]
        rfl
      rw [htake]
      exact readU32_append [] _ _ (by simp)
    have hcut : (t.cut k).bytes.length = k := by
      show (t.bytes.take k).length = k
      rw [List.length_take]
      omega
    rw [decodeHostListeners, if_neg (by omega), hread, ok_bind, hround, okOr_some, ok_bind,
      if_pos (by omega)]

end Osfacts.Pcblist
