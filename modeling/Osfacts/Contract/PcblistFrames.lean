import Osfacts.Contract.PcblistTable

set_option autoImplicit false

/-! # Frames in an arbitrary buffer

Whatever a buffer holds, the declared lengths cut it into frames: from the end of the header, one
after another, up to a closing record, the end of the buffer, or a length that cannot be framed.
The loop is a fold over the frames (`walk_eq`), so what it returns is decided by the frames alone,
and by each frame what is read from it.
-/

namespace Osfacts.Pcblist

/-! ## Framing -/

/-- A record as the loop frames it: its place, its kind and its declared length. -/
structure Frame where
  offset : Nat
  kind : UInt32
  len : Nat
  deriving DecidableEq

/-- The frames of a buffer, in order, and whether all of it could be framed. -/
structure Framing where
  frames : List Frame
  complete : Bool

/-- The four bytes at a place, as a number. -/
def wordAt (bytes : Bytes) (offset : Nat) : UInt32 := fromNeU32 ((bytes.drop offset).take 4)

def framesFrom (bytes : Bytes) (offset : Nat) : Framing :=
  let len := (wordAt bytes offset).toNat
  if offset + 8 > bytes.length then ⟨[], true⟩
  else if len < CLOSING_RECORD_LEN ∨ offset + len > bytes.length then ⟨[], false⟩
  else if len = CLOSING_RECORD_LEN then ⟨[], true⟩
  else
    let rest := framesFrom bytes (ceil8 (offset + len))
    ⟨⟨offset, wordAt bytes (offset + 4), len⟩ :: rest.frames, rest.complete⟩
termination_by bytes.length - offset
decreasing_by
  have hround := le_ceil8 (offset + (wordAt bytes offset).toNat)
  simp only [CLOSING_RECORD_LEN] at *
  omega

def framing (bytes : Bytes) : Framing :=
  if bytes.length < 4 then ⟨[], true⟩
  else
    let offset := ceil8 (wordAt bytes 0).toNat
    if offset > bytes.length then ⟨[], false⟩ else framesFrom bytes offset

/-! ## The three ways a framing goes on -/

section Cases

variable {bytes : Bytes} {offset : Nat}

theorem framesFrom_room (h : offset + 8 > bytes.length) : framesFrom bytes offset = ⟨[], true⟩ := by
  rw [framesFrom]
  exact if_pos h

theorem framesFrom_refused (hroom : ¬ offset + 8 > bytes.length)
    (h : (wordAt bytes offset).toNat < CLOSING_RECORD_LEN ∨
      offset + (wordAt bytes offset).toNat > bytes.length) :
    framesFrom bytes offset = ⟨[], false⟩ := by
  rw [framesFrom]
  simp only []
  rw [if_neg hroom, if_pos h]

theorem framesFrom_closing (hroom : ¬ offset + 8 > bytes.length)
    (hframe : ¬((wordAt bytes offset).toNat < CLOSING_RECORD_LEN ∨
      offset + (wordAt bytes offset).toNat > bytes.length))
    (h : (wordAt bytes offset).toNat = CLOSING_RECORD_LEN) :
    framesFrom bytes offset = ⟨[], true⟩ := by
  rw [framesFrom]
  simp only []
  rw [if_neg hroom, if_neg hframe, if_pos h]

/-- The frame at a place where there is one. -/
def frameAt (bytes : Bytes) (offset : Nat) : Frame :=
  ⟨offset, wordAt bytes (offset + 4), (wordAt bytes offset).toNat⟩

theorem framesFrom_next (hroom : ¬ offset + 8 > bytes.length)
    (hframe : ¬((wordAt bytes offset).toNat < CLOSING_RECORD_LEN ∨
      offset + (wordAt bytes offset).toNat > bytes.length))
    (hopen : (wordAt bytes offset).toNat ≠ CLOSING_RECORD_LEN) :
    framesFrom bytes offset
      = ⟨frameAt bytes offset
          :: (framesFrom bytes (ceil8 (offset + (wordAt bytes offset).toNat))).frames,
        (framesFrom bytes (ceil8 (offset + (wordAt bytes offset).toNat))).complete⟩ := by
  rw [framesFrom]
  simp only []
  rw [if_neg hroom, if_neg hframe, if_neg hopen]
  rfl

end Cases

/-! ## One turn is one frame -/

theorem readU32_eq {bytes : Bytes} {offset : Nat} (h : offset + 4 ≤ bytes.length)
    (hfits : bytes.length < 2 ^ 63) : readU32 bytes offset = .ok (wordAt bytes offset) := by
  have hslice : slice bytes offset (offset + 4) = some ((bytes.drop offset).take 4) := by
    rw [slice, if_pos ⟨Nat.le_add_right _ _, h⟩, Nat.add_sub_cancel_left]
  rw [readU32, checkedAddUsize_some (by omega), okOr_some, ok_bind, hslice, okOr_some, ok_bind]
  rfl

/-- What a frame does to the half-read socket and the rows. -/
def effectAt (bytes : Bytes) (s : Option HostListener × List HostListener) (f : Frame) :
    Option HostListener × List HostListener :=
  (readRecord bytes f.offset f.kind f.len s).toOption.getD s

theorem readRecord_at {bytes : Bytes} {f : Frame} (h : f.offset + f.len ≤ bytes.length)
    (hfits : bytes.length < 2 ^ 63) (s : Option HostListener × List HostListener) :
    readRecord bytes f.offset f.kind f.len s = .ok (effectAt bytes s f) := by
  obtain ⟨s', hs'⟩ := exists_readRecord bytes f.offset f.kind f.len s h hfits
  rw [effectAt, hs']
  rfl

/-- The head of a record that fits is read. -/
theorem step_head {bytes : Bytes} (hfits : bytes.length < 2 ^ 63) {c : Cursor}
    (hroom : ¬ c.offset + 8 > bytes.length) : step bytes c =
    if (wordAt bytes c.offset).toNat < CLOSING_RECORD_LEN ∨
        c.offset + (wordAt bytes c.offset).toNat > bytes.length then .error (.errno Libc.EINVAL)
    else if (wordAt bytes c.offset).toNat = CLOSING_RECORD_LEN then .ok none
    else readRecord bytes c.offset (wordAt bytes (c.offset + 4)) (wordAt bytes c.offset).toNat
        (c.pending, c.out) >>= fun s =>
      .ok (some (cursorAt (ceil8 (c.offset + (wordAt bytes c.offset).toNat)) s)) := by
  have hlt := (wordAt bytes c.offset).toNat_lt
  rw [step, addUsize_ok (by omega), ok_bind, if_neg hroom, readU32_eq (by omega) hfits, ok_bind,
    checkedAddUsize_some (by omega), okOr_some, ok_bind, addUsize_ok (by omega), ok_bind,
    readU32_eq (by omega) hfits, ok_bind]
  split_ifs with hframe hclosing
  · rfl
  · rfl
  · rw [not_or, not_lt, not_lt] at hframe
    rw [roundUp8_eq (by omega), okOr_some]
    rfl

/-- **The loop is a fold over the frames.** -/
theorem walk_eq {bytes : Bytes} (hfits : bytes.length < 2 ^ 63) {c : Cursor}
    (hc : c.offset ≤ bytes.length + 7) :
    walk bytes c = if (framesFrom bytes c.offset).complete then
      .ok ((framesFrom bytes c.offset).frames.foldl (effectAt bytes) (c.pending, c.out)).2
      else .error (.errno Libc.EINVAL) := by
  -- on what is left of the buffer
  induction hn : bytes.length + 7 - c.offset using Nat.strong_induction_on generalizing c with
  | _ n ih =>
      by_cases hroom : c.offset + 8 > bytes.length
      · rw [framesFrom_room hroom]
        exact walk_room hroom (by omega)
      have hstep := step_head hfits hroom
      by_cases hframe : (wordAt bytes c.offset).toNat < CLOSING_RECORD_LEN ∨
          c.offset + (wordAt bytes c.offset).toNat > bytes.length
      · rw [if_pos hframe] at hstep
        rw [framesFrom_refused hroom hframe]
        exact walk_error hstep
      by_cases hclosing : (wordAt bytes c.offset).toNat = CLOSING_RECORD_LEN
      · rw [if_neg hframe, if_pos hclosing] at hstep
        rw [framesFrom_closing hroom hframe hclosing]
        exact walk_done hstep
      have hinside := hframe
      rw [not_or, not_lt, not_lt] at hinside
      have hread := readRecord_at (f := frameAt bytes c.offset) hinside.2 hfits (c.pending, c.out)
      have hround := ceil8_lt (c.offset + (wordAt bytes c.offset).toNat)
      have hnext := le_ceil8 (c.offset + (wordAt bytes c.offset).toNat)
      have hlong := hinside.1
      simp only [CLOSING_RECORD_LEN] at hlong
      rw [if_neg hframe, if_neg hclosing] at hstep
      have hgo : step bytes c = .ok (some (cursorAt
          (ceil8 (c.offset + (wordAt bytes c.offset).toNat))
          (effectAt bytes (c.pending, c.out) (frameAt bytes c.offset)))) := by
        rw [hstep]
        exact hread ▸ rfl
      rw [walk_next hgo, framesFrom_next hroom hframe hclosing, List.foldl_cons]
      exact ih _ (by rw [cursorAt_offset]; omega) (by rw [cursorAt_offset]; omega) rfl

/-- The rows of a buffer that can be framed, and `EINVAL` for one that cannot. -/
theorem decode_eq (buffer : Buffer) :
    decodeHostListeners buffer = if (framing buffer.bytes).complete then
      .ok ((framing buffer.bytes).frames.foldl (effectAt buffer.bytes) (none, [])).2
      else .error (.errno Libc.EINVAL) := by
  have hfits := buffer.fits
  by_cases hshort : buffer.bytes.length < 4
  · rw [decodeHostListeners, framing, if_pos hshort, if_pos hshort]
    rfl
  have hlt := (wordAt buffer.bytes 0).toNat_lt
  rw [decodeHostListeners, framing, if_neg hshort, if_neg hshort, readU32_eq (by omega) hfits,
    ok_bind, roundUp8_eq (by omega), okOr_some, ok_bind]
  simp only []
  by_cases hover : ceil8 (wordAt buffer.bytes 0).toNat > buffer.bytes.length
  · rw [if_pos hover, if_pos hover]
    rfl
  · rw [if_neg hover, if_neg hover]
    exact walk_eq hfits (show ceil8 _ ≤ _ by omega)

/-! ## Induction over the frames -/

/-- What every frame keeps holds at the end. The frames start at multiples of eight and lie inside
the buffer. -/
theorem framesFrom_induct {α : Type} {bytes : Bytes} {step : α → Frame → α} {I : Nat → α → Prop}
    (hstep : ∀ f s, 8 ∣ f.offset → CLOSING_RECORD_LEN < f.len →
      f.offset + f.len ≤ bytes.length → I f.offset s → I (ceil8 (f.offset + f.len)) (step s f))
    {offset : Nat} (halign : 8 ∣ offset) {s : α} (h : I offset s) :
    ∃ stop, I stop ((framesFrom bytes offset).frames.foldl step s) := by
  induction hn : bytes.length + 7 - offset using Nat.strong_induction_on generalizing offset s with
  | _ n ih =>
      by_cases hroom : offset + 8 > bytes.length
      · rw [framesFrom_room hroom]
        exact ⟨offset, h⟩
      by_cases hframe : (wordAt bytes offset).toNat < CLOSING_RECORD_LEN ∨
          offset + (wordAt bytes offset).toNat > bytes.length
      · rw [framesFrom_refused hroom hframe]
        exact ⟨offset, h⟩
      by_cases hclosing : (wordAt bytes offset).toNat = CLOSING_RECORD_LEN
      · rw [framesFrom_closing hroom hframe hclosing]
        exact ⟨offset, h⟩
      have hinside := hframe
      rw [not_or, not_lt, not_lt] at hinside
      have hlong : CLOSING_RECORD_LEN < (wordAt bytes offset).toNat :=
        lt_of_le_of_ne hinside.1 (Ne.symm hclosing)
      have hnext := le_ceil8 (offset + (wordAt bytes offset).toNat)
      simp only [CLOSING_RECORD_LEN] at hlong
      rw [framesFrom_next hroom hframe hclosing, List.foldl_cons]
      exact ih _ (by omega) (dvd_ceil8 _)
        (hstep (frameAt bytes offset) s halign hlong hinside.2 h) rfl

/-- The same from the header on. -/
theorem framing_induct {α : Type} {bytes : Bytes} {step : α → Frame → α} (I : Nat → α → Prop)
    (hstep : ∀ f s, 8 ∣ f.offset → CLOSING_RECORD_LEN < f.len →
      f.offset + f.len ≤ bytes.length → I f.offset s → I (ceil8 (f.offset + f.len)) (step s f))
    {s : α} (h : ∀ offset, I offset s) : ∃ stop, I stop ((framing bytes).frames.foldl step s) := by
  rw [framing]
  simp only []
  split_ifs
  · exact ⟨0, h 0⟩
  · exact ⟨0, h 0⟩
  · exact framesFrom_induct hstep (dvd_ceil8 _) (h _)

theorem frames_inside {bytes : Bytes} :
    ∀ f ∈ (framing bytes).frames, CLOSING_RECORD_LEN < f.len ∧ f.offset + f.len ≤ bytes.length := by
  let Inside (s : List Frame) : Prop :=
    ∀ f ∈ s, CLOSING_RECORD_LEN < f.len ∧ f.offset + f.len ≤ bytes.length
  have hall : ∃ _ : Nat, Inside ((framing bytes).frames.foldl (fun s f => s ++ [f]) []) := by
    refine framing_induct (fun _ s => Inside s) (fun f s _ hlong hinside h => ?_)
      (fun _ => List.forall_mem_nil _)
    exact List.forall_mem_append.mpr ⟨h, List.forall_mem_singleton.mpr ⟨hlong, hinside⟩⟩
  obtain ⟨-, hall⟩ := hall
  rwa [List.foldl_append_eq_append, ← List.flatMap_def, List.flatMap_singleton', List.nil_append]
    at hall

/-! ## The frames of a table -/

/-- The frames of records that are laid out one after another. -/
def recordFrames : Nat → List Record → List Frame
  | _, [] => []
  | offset, r :: rs => ⟨offset, r.kind, r.len⟩ :: recordFrames (offset + ceil8 r.len) rs

theorem wordAt_append (pre post : Bytes) (n : UInt32) :
    wordAt (pre ++ (neBytesU32 n ++ post)) pre.length = n := by
  have hfour : (neBytesU32 n).length = 4 := length_leBytes _ _
  rw [wordAt, List.drop_left, ← hfour, List.take_left, fromNeU32_neBytes]

theorem frameAt_record (pre post : Bytes) (r : Record) :
    frameAt (pre ++ (r.bytes ++ post)) pre.length = ⟨pre.length, r.kind, r.len⟩ := by
  have hlen : wordAt (pre ++ (r.bytes ++ post)) pre.length = UInt32.ofNat r.len := by
    rw [Record.bytes, List.append_assoc]
    exact wordAt_append pre _ _
  have hkind : wordAt (pre ++ (r.bytes ++ post)) (pre.length + 4) = r.kind := by
    have hsplit : pre ++ (r.bytes ++ post)
        = (pre ++ neBytesU32 (UInt32.ofNat r.len)) ++ (neBytesU32 r.kind ++ (r.body ++ post)) := by
      simp only [Record.bytes, List.append_assoc]
    have hpos : pre.length + 4 = (pre ++ neBytesU32 (UInt32.ofNat r.len)).length := by
      rw [List.length_append, neBytesU32, length_leBytes]
    rw [hsplit, hpos]
    exact wordAt_append _ _ r.kind
  rw [frameAt, hlen, hkind, UInt32.toNat_ofNat_of_lt' r.len_bounds.2]

theorem framesFrom_records (rs : List Record) (pre closing : Bytes) (hpre : 8 ∣ pre.length)
    (hclosing : closing.length = 20) :
    framesFrom (pre ++ (encodeAll rs ++ (neBytesU32 24 ++ closing))) pre.length
      = ⟨recordFrames pre.length rs, true⟩ := by
  have hfour : (neBytesU32 24).length = 4 := length_leBytes _ _
  induction rs generalizing pre with
  | nil =>
      have hlen : wordAt (pre ++ (neBytesU32 24 ++ closing)) pre.length = 24 :=
        wordAt_append pre closing 24
      have hlength : (pre ++ (neBytesU32 24 ++ closing)).length = pre.length + 24 := by
        rw [List.length_append, List.length_append, hfour, hclosing]
      show framesFrom (pre ++ (neBytesU32 24 ++ closing)) pre.length = ⟨[], true⟩
      refine framesFrom_closing (by omega) ?_ ?_
      · rw [hlen, hlength]
        show ¬((24 < 24) ∨ pre.length + 24 > pre.length + 24)
        omega
      · rw [hlen]
        rfl
  | cons r rs ih =>
      obtain ⟨hlong, hshort⟩ := r.len_bounds
      have hround := le_ceil8 r.len
      have hpos := length_append_encode pre r
      have hregroup : pre ++ (encodeAll (r :: rs) ++ (neBytesU32 24 ++ closing))
          = (pre ++ r.encode) ++ (encodeAll rs ++ (neBytesU32 24 ++ closing)) := by
        simp only [encodeAll, List.flatMap_cons, List.append_assoc]
      have hlength : (pre ++ (encodeAll (r :: rs) ++ (neBytesU32 24 ++ closing))).length
          = pre.length + ceil8 r.len + ((encodeAll rs).length + 24) := by
        rw [hregroup, List.length_append, hpos, List.length_append, List.length_append, hfour,
          hclosing]
      have hframe : frameAt (pre ++ (encodeAll (r :: rs) ++ (neBytesU32 24 ++ closing))) pre.length
          = ⟨pre.length, r.kind, r.len⟩ := by
        rw [hregroup, List.append_assoc, Record.encode, List.append_assoc r.bytes]
        exact frameAt_record pre _ r
      have hlen := congrArg Frame.len hframe
      simp only [frameAt] at hlen
      have hnext := ih (pre ++ r.encode) (dvd_append_encode hpre r)
      rw [hpos, ← hregroup] at hnext
      rw [framesFrom_next (by omega) (by rw [hlen, hlength, CLOSING_RECORD_LEN]; omega)
        (by rw [hlen, CLOSING_RECORD_LEN]; omega), hframe, hlen, ceil8_add hpre, hnext,
        recordFrames]

/-- **A table is framed into its records.** -/
theorem framing_buffer (t : Table) :
    framing t.buffer.bytes = ⟨recordFrames t.head.length t.records, true⟩ := by
  have hhead := t.length_head
  have hle := le_ceil8 (4 + t.header.length)
  have hbytes : t.buffer.bytes = t.head ++ (encodeAll t.records ++ (neBytesU32 24 ++ t.closing)) :=
    rfl
  have hlength : t.buffer.bytes.length = t.head.length + (encodeAll t.records).length + 24 :=
    t.length_bytes
  have hword : (wordAt t.buffer.bytes 0).toNat = 4 + t.header.length := by
    have h := wordAt_append [] ((t.header ++ t.headerPadding)
      ++ (encodeAll t.records ++ (neBytesU32 24 ++ t.closing))) (UInt32.ofNat (4 + t.header.length))
    rw [hbytes, Table.head, List.append_assoc]
    rw [List.nil_append] at h
    rw [show (0 : Nat) = ([] : Bytes).length from rfl, h,
      UInt32.toNat_ofNat_of_lt' t.header_short]
  rw [framing, if_neg (by omega), hword, ← hhead]
  simp only []
  rw [if_neg (by omega), hbytes]
  exact framesFrom_records t.records t.head t.closing (hhead ▸ dvd_ceil8 _) t.closing_length

end Osfacts.Pcblist
