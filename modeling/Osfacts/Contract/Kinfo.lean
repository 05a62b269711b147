import Osfacts.Basic.FirstClaim
import Osfacts.Darwin.Readers

set_option autoImplicit false

/-! # The process table, all or nothing

A record is 648 bytes; `kinfoOf` reads its fields as numbers, with their signs, at the places the
decoder has for them. A record of a pid other than 0 is decoded when it is `Sound`, to the row that
its fields say (`decodeKinfoProc_sound`). The table is decoded when every such record is sound and
no pid is there twice, to all its rows; otherwise to none.
-/

namespace Osfacts.Darwin

/-! ## The fields of a record -/

/-- A part of a record. -/
def field (raw : Bytes) (offset len : Nat) : Bytes := (raw.drop offset).take len

/-- What a record says of a process. -/
structure Kinfo where
  pid : Int
  ppid : Int
  startSec : Int
  startUsec : Int
  uid : Nat
  status : Nat
  nice : Int
  /-- the name, with a NUL behind it unless it fills the field -/
  comm : Bytes

def kinfoOf (raw : Bytes) : Kinfo where
  pid := leInt (field raw 40 4)
  ppid := leInt (field raw 560 4)
  startSec := leInt (field raw 0 8)
  startUsec := leInt (field raw 8 4)
  uid := leNat (field raw 392 4)
  status := leNat (field raw 36 1)
  nice := leInt (field raw 242 1)
  comm := field raw 243 17

/-- The demands on a record that has a row. -/
structure Kinfo.Sound (k : Kinfo) : Prop where
  pid_pos : 0 < k.pid
  ppid_nonneg : 0 ≤ k.ppid
  sec_nonneg : 0 ≤ k.startSec
  usec_nonneg : 0 ≤ k.startUsec
  usec_lt : k.startUsec < 1000000
  named : k.comm.head? ≠ some 0

/-- The row of a process. -/
def Kinfo.row (k : Kinfo) : BsdRow where
  ppid := UInt32.ofNat k.ppid.toNat
  name := sanitizeName (fromUtf8Lossy (k.comm.takeWhile (fun b => b != 0)))
  startUnixUs :=
    UInt64.ofNat (min (k.startSec.toNat * 1000000 + k.startUsec.toNat) (2 ^ 64 - 1))
  uid := UInt32.ofNat k.uid
  status := UInt32.ofNat k.status
  nice := Int32.ofInt k.nice

/-- The entry of a record: none for the kernel's. -/
def entryOf (raw : Bytes) : Option (Pid × BsdRow) :=
  if (kinfoOf raw).pid = 0 then none
  else some (UInt32.ofNat (kinfoOf raw).pid.toNat, (kinfoOf raw).row)

/-! ## What the readers read -/

section Readers

variable {raw : Bytes} {offset : Nat}

theorem length_field {len : Nat} (h : offset + len ≤ raw.length) :
    (field raw offset len).length = len := by
  rw [field, List.length_take, List.length_drop]
  omega

theorem slice_field {len : Nat} (h : offset + len ≤ raw.length) :
    slice raw offset (offset + len) = some (field raw offset len) := by
  rw [slice, if_pos ⟨Nat.le_add_right _ _, h⟩, Nat.add_sub_cancel_left, field]

theorem readI32_field (h : offset + 4 ≤ raw.length) :
    ∃ n, readI32 raw offset = .ok n ∧ n.toInt = leInt (field raw offset 4) :=
  ⟨_, by rw [readI32, slice_field h], toInt_fromNeI32 (length_field h)⟩

theorem readI64_field (h : offset + 8 ≤ raw.length) :
    ∃ n, readI64 raw offset = .ok n ∧ n.toInt = leInt (field raw offset 8) :=
  ⟨_, by rw [readI64, slice_field h], toInt_fromNeI64 (length_field h)⟩

theorem readU32_field (h : offset + 4 ≤ raw.length) :
    readU32 raw offset = .ok (UInt32.ofNat (leNat (field raw offset 4))) := by
  rw [readU32, slice_field h]
  rfl

theorem field_one (h : offset + 1 ≤ raw.length) : field raw offset 1 = [raw.getD offset 0] := by
  have hlt : offset < raw.length := h
  rw [field, List.take_one, List.head?_drop, List.getD_eq_getElem?_getD,
    List.getElem?_eq_getElem hlt]
  rfl

theorem status_field (h : offset + 1 ≤ raw.length) :
    (raw.getD offset 0).toUInt32 = UInt32.ofNat (leNat (field raw offset 1)) := by
  rw [field_one h]
  simp [leNat]

theorem niceOf_field (h : offset + 1 ≤ raw.length) :
    niceOf (raw.getD offset 0) = Int32.ofInt (leInt (field raw offset 1)) := by
  have hvalue : leInt [raw.getD offset 0] = (raw.getD offset 0).toInt8.toInt := by
    rw [← UInt8.ofNat_toNat (x := raw.getD offset 0), UInt8.toInt8_ofNat', Int8.toInt_ofNat',
      UInt8.ofNat_toNat, leInt, leNat, leNat]
    rfl
  rw [field_one h, hvalue, Int32.ofInt_int8ToInt, niceOf]

/-- A field has a name unless it starts with the NUL that ends it. -/
theorem cstrField_eq {buf : Bytes} (hne : buf ≠ []) : cstrField buf =
    if buf.head? = some 0 then none else some (fromUtf8Lossy (untilNul buf)) := by
  cases buf with
  | nil => exact absurd rfl hne
  | cons b rest =>
      by_cases hb : b = 0
      · subst hb
        rfl
      · have huntil : untilNul (b :: rest) ≠ [] := by
          rw [untilNul, List.takeWhile_cons, if_pos (bne_iff_ne.mpr hb)]
          exact List.cons_ne_nil _ _
        rw [cstrField, if_neg huntil, List.head?_cons, if_neg (fun h => hb (Option.some.inj h))]

end Readers

/-! ## Signed numbers that are not negative -/

theorem toUInt32_of_nonneg {n : Int32} (h : 0 ≤ n.toInt) :
    n.toUInt32 = UInt32.ofNat n.toInt.toNat := by
  have hle : (0 : Int32) ≤ n := Int32.le_iff_toInt_le.mpr h
  rw [← UInt32.ofNat_toNat (x := n.toUInt32), Int32.toNat_toUInt32_of_le hle]
  rfl

theorem toNat_toUInt64 {n : Int64} (h : 0 ≤ n.toInt) : n.toUInt64.toNat = n.toInt.toNat := by
  have hle : (0 : Int64) ≤ n := Int64.le_iff_toInt_le.mpr h
  rw [Int64.toNat_toUInt64_of_le hle]
  rfl

/-- Seconds and microseconds as microseconds: the product and the sum saturate as one. -/
theorem saturating_us (sec usec : UInt64) :
    saturatingAdd (saturatingMul sec 1000000) usec
      = UInt64.ofNat (min (sec.toNat * 1000000 + usec.toNat) (2 ^ 64 - 1)) := by
  rw [saturatingAdd, toNat_saturatingMul, toNat_million]
  congr 1
  omega

/-! ## One record -/

/-- The numbers that the decoder reads, and what they stand for. -/
structure Reads (raw : Bytes) (pid ppid usec : Int32) (sec : Int64) : Prop where
  read_pid : readI32 raw KINFO_PID_OFFSET = .ok pid
  read_ppid : readI32 raw KINFO_PPID_OFFSET = .ok ppid
  read_sec : readI64 raw KINFO_START_SEC_OFFSET = .ok sec
  read_usec : readI32 raw KINFO_START_USEC_OFFSET = .ok usec
  pid_eq : pid.toInt = (kinfoOf raw).pid
  ppid_eq : ppid.toInt = (kinfoOf raw).ppid
  sec_eq : sec.toInt = (kinfoOf raw).startSec
  usec_eq : usec.toInt = (kinfoOf raw).startUsec

section Record

variable {raw : Bytes} {pid ppid usec : Int32} {sec : Int64}

theorem exists_reads (hlength : raw.length = 648) :
    ∃ pid ppid usec sec, Reads raw pid ppid usec sec := by
  obtain ⟨pid, hpid, hpidValue⟩ := readI32_field (show 40 + 4 ≤ raw.length by omega)
  obtain ⟨ppid, hppid, hppidValue⟩ := readI32_field (show 560 + 4 ≤ raw.length by omega)
  obtain ⟨sec, hsec, hsecValue⟩ := readI64_field (show 0 + 8 ≤ raw.length by omega)
  obtain ⟨usec, husec, husecValue⟩ := readI32_field (show 8 + 4 ≤ raw.length by omega)
  exact ⟨pid, ppid, usec, sec, hpid, hppid, hsec, husec, hpidValue, hppidValue, hsecValue,
    husecValue⟩

theorem Reads.pid_zero_iff (h : Reads raw pid ppid usec sec) :
    pid = 0 ↔ (kinfoOf raw).pid = 0 := by
  rw [← h.pid_eq, ← Int32.toInt_inj]
  rfl

/-- The guards of the decoder are the demands on the record. -/
theorem Reads.sound_iff (h : Reads raw pid ppid usec sec) (hpid : pid ≠ 0) :
    (kinfoOf raw).Sound ↔ ¬ pid < 0 ∧
      ¬(ppid < 0 ∨ sec < 0 ∨ ¬(0 ≤ usec ∧ usec < 1000000)) ∧
      (kinfoOf raw).comm.head? ≠ some 0 := by
  have hzero : (kinfoOf raw).pid ≠ 0 := fun hzero => hpid (h.pid_zero_iff.mpr hzero)
  rw [Int32.lt_iff_toInt_lt, Int32.lt_iff_toInt_lt, Int64.lt_iff_toInt_lt, Int32.le_iff_toInt_le,
    Int32.lt_iff_toInt_lt, h.pid_eq, h.ppid_eq, h.sec_eq, h.usec_eq]
  constructor
  · intro hs
    exact ⟨not_lt.mpr hs.pid_pos.le, fun hout => hout.elim (not_lt.mpr hs.ppid_nonneg)
      fun hout => hout.elim (not_lt.mpr hs.sec_nonneg)
        fun hout => hout ⟨hs.usec_nonneg, hs.usec_lt⟩, hs.named⟩
  · rintro ⟨hpos, hrange, hnamed⟩
    rw [not_or, not_or, not_not, not_lt, not_lt] at hrange
    exact ⟨lt_of_le_of_ne (not_lt.mp hpos) (Ne.symm hzero), hrange.1, hrange.2.1, hrange.2.2.1,
      hrange.2.2.2, hnamed⟩

/-- The row of the decoder is the row of the record. -/
theorem Reads.row_eq (h : Reads raw pid ppid usec sec) (hlength : raw.length = 648)
    (hs : (kinfoOf raw).Sound) :
    (⟨ppid.toUInt32, sanitizeName (fromUtf8Lossy (untilNul (kinfoOf raw).comm)),
      saturatingAdd (saturatingMul sec.toUInt64 1000000) usec.toInt64.toUInt64,
      UInt32.ofNat (kinfoOf raw).uid, (raw.getD KINFO_STATUS_OFFSET 0).toUInt32,
      niceOf (raw.getD KINFO_NICE_OFFSET 0)⟩ : BsdRow) = (kinfoOf raw).row := by
  have hppid : 0 ≤ ppid.toInt := h.ppid_eq ▸ hs.ppid_nonneg
  have hsec : 0 ≤ sec.toInt := h.sec_eq ▸ hs.sec_nonneg
  have husec : 0 ≤ usec.toInt64.toInt := by
    rw [Int32.toInt_toInt64, h.usec_eq]
    exact hs.usec_nonneg
  rw [toUInt32_of_nonneg hppid, saturating_us, toNat_toUInt64 hsec, toNat_toUInt64 husec,
    Int32.toInt_toInt64, h.ppid_eq, h.sec_eq, h.usec_eq, KINFO_STATUS_OFFSET, KINFO_NICE_OFFSET,
    status_field (by omega), niceOf_field (by omega)]
  rfl

/-- What the decoder makes of a record: the entry of a sound one, nothing of the kernel's, and
`EINVAL` of the others. -/
theorem decodeKinfoProc_cases (hlength : raw.length = 648) :
    (((kinfoOf raw).pid ≠ 0 → (kinfoOf raw).Sound) → decodeKinfoProc raw = .ok (entryOf raw)) ∧
    (¬((kinfoOf raw).pid ≠ 0 → (kinfoOf raw).Sound) →
      decodeKinfoProc raw = .error Libc.EINVAL) := by
  obtain ⟨pid, ppid, usec, sec, hreads⟩ := exists_reads hlength
  have hsize : ¬ raw.length ≠ KINFO_PROC_SIZE := not_not.mpr hlength
  rw [decodeKinfoProc, if_neg hsize, hreads.read_pid, ok_bind, entryOf]
  by_cases hzero : pid = 0
  · have hkernel := hreads.pid_zero_iff.mp hzero
    rw [if_pos hzero, if_pos hkernel]
    exact ⟨fun _ => rfl, fun h => absurd (fun hpid => absurd hkernel hpid) h⟩
  have hpid : (kinfoOf raw).pid ≠ 0 := fun h => hzero (hreads.pid_zero_iff.mpr h)
  have hsound := hreads.sound_iff hzero
  have himp : ((kinfoOf raw).pid ≠ 0 → (kinfoOf raw).Sound) ↔ (kinfoOf raw).Sound :=
    ⟨fun h => h hpid, fun h _ => h⟩
  rw [if_neg hzero, if_neg hpid, himp]
  -- from here on one split for each check of the decoder, in its order
  by_cases hneg : pid < 0
  · rw [if_pos hneg]
    exact ⟨fun h => absurd hneg (hsound.mp h).1, fun _ => rfl⟩
  rw [if_neg hneg, hreads.read_ppid, ok_bind, hreads.read_sec, ok_bind, hreads.read_usec, ok_bind]
  by_cases hrange : ppid < 0 ∨ sec < 0 ∨ ¬(0 ≤ usec ∧ usec < 1000000)
  · rw [if_pos hrange]
    exact ⟨fun h => absurd hrange (hsound.mp h).2.1, fun _ => rfl⟩
  have hcomm : (kinfoOf raw).comm ≠ [] := by
    intro hnil
    have hlen : (kinfoOf raw).comm.length = 17 := length_field (by omega)
    rw [hnil] at hlen
    cases hlen
  have hcstr : cstrField ((raw.drop KINFO_COMM_OFFSET).take KINFO_COMM_SIZE)
      = if (kinfoOf raw).comm.head? = some 0 then none
        else some (fromUtf8Lossy (untilNul (kinfoOf raw).comm)) := cstrField_eq hcomm
  rw [if_neg hrange, hcstr]
  by_cases hnul : (kinfoOf raw).comm.head? = some 0
  · rw [if_pos hnul]
    exact ⟨fun h => absurd hnul h.named, fun _ => rfl⟩
  · refine ⟨fun hs => ?_, fun h => absurd (hsound.mpr ⟨hneg, hrange, hnul⟩) h⟩
    have hpos : 0 ≤ pid.toInt := hreads.pid_eq ▸ hs.pid_pos.le
    have huid : readU32 raw KINFO_RUID_OFFSET = .ok (UInt32.ofNat (kinfoOf raw).uid) :=
      readU32_field (show 392 + 4 ≤ raw.length by omega)
    rw [if_neg hnul]
    simp only []
    rw [huid, ok_bind, toUInt32_of_nonneg hpos, hreads.pid_eq, hreads.row_eq hlength hs]
    rfl

end Record

/-! ## The table -/

/-- The pids of the records that are to have a row. -/
def pids (records : List Bytes) : List Int :=
  (records.map (fun raw => (kinfoOf raw).pid)).filter (fun pid => pid ≠ 0)

/-- The demands on a table: every record but the kernel's is sound, and no pid is there twice. -/
structure Whole (records : List Bytes) : Prop where
  sound : ∀ raw ∈ records, (kinfoOf raw).pid ≠ 0 → (kinfoOf raw).Sound
  distinct : (pids records).Nodup

theorem keys_eq (records : List Bytes) : (records.filterMap entryOf).map Prod.fst
    = (pids records).map (fun pid => UInt32.ofNat pid.toNat) := by
  induction records with
  | nil => rfl
  | cons raw records ih =>
      by_cases hpid : (kinfoOf raw).pid = 0
      · have hentry : entryOf raw = none := if_pos hpid
        rw [List.filterMap_cons_none hentry, ih, pids, pids, List.map_cons,
          List.filter_cons_of_neg (by simpa using hpid)]
      · have hentry : entryOf raw
            = some (UInt32.ofNat (kinfoOf raw).pid.toNat, (kinfoOf raw).row) := if_neg hpid
        rw [List.filterMap_cons_some hentry, List.map_cons, ih, pids, pids, List.map_cons,
          List.filter_cons_of_pos (by simpa using hpid), List.map_cons]

/-- Pids that are positive are as many numbers as they are keys. -/
theorem nodup_keys_iff {records : List Bytes} (hlength : ∀ raw ∈ records, raw.length = 648)
    (hsound : ∀ raw ∈ records, (kinfoOf raw).pid ≠ 0 → (kinfoOf raw).Sound) :
    ((records.filterMap entryOf).map Prod.fst).Nodup ↔ (pids records).Nodup := by
  have hrange : ∀ pid ∈ pids records, 0 ≤ pid ∧ pid < 2 ^ 32 := by
    intro pid hpid
    obtain ⟨hmem, hne⟩ := List.mem_filter.mp hpid
    obtain ⟨raw, hraw, rfl⟩ := List.mem_map.mp hmem
    have hpos : 0 < leInt (field raw 40 4) := (hsound raw hraw (by simpa using hne)).pid_pos
    have hlt := leNat_lt (field raw 40 4)
    rw [length_field (by have := hlength raw hraw; omega)] at hlt
    show 0 ≤ leInt (field raw 40 4) ∧ leInt (field raw 40 4) < 2 ^ 32
    rw [leInt_of_nonneg hpos.le]
    omega
  rw [keys_eq]
  refine ⟨List.Nodup.of_map _, fun h => h.map_on fun a ha b hb hab => ?_⟩
  have hnat := congrArg UInt32.toNat hab
  obtain ⟨ha0, haLt⟩ := hrange a ha
  obtain ⟨hb0, hbLt⟩ := hrange b hb
  rw [UInt32.toNat_ofNat_of_lt' (show a.toNat < 2 ^ 32 by omega),
    UInt32.toNat_ofNat_of_lt' (show b.toNat < 2 ^ 32 by omega)] at hnat
  omega

theorem insertRecord_eq : insertRecord = insertDistinct Libc.EINVAL decodeKinfoProc := by
  funext rows raw
  unfold insertRecord insertDistinct
  cases decodeKinfoProc raw with
  | error err => rfl
  | ok entry =>
      cases entry with
      | none => rfl
      | some entry => rfl

theorem decodeKinfoProc_or (raw : Bytes) :
    decodeKinfoProc raw = .ok (entryOf raw) ∨ decodeKinfoProc raw = .error Libc.EINVAL := by
  by_cases hlength : raw.length = KINFO_PROC_SIZE
  · obtain ⟨hok, herror⟩ := decodeKinfoProc_cases hlength
    by_cases hsound : (kinfoOf raw).pid ≠ 0 → (kinfoOf raw).Sound
    · exact Or.inl (hok hsound)
    · exact Or.inr (herror hsound)
  · exact Or.inr (by rw [decodeKinfoProc, if_pos hlength])

/-- The two outcomes, on records that were put together. -/
theorem decodeProcessTable_flatten {records : List Bytes}
    (hlength : ∀ raw ∈ records, raw.length = KINFO_PROC_SIZE) :
    (Whole records → decodeProcessTable records.flatten = .ok (records.filterMap entryOf)) ∧
    (¬ Whole records → decodeProcessTable records.flatten = .error Libc.EINVAL) := by
  have hdvd : ¬ records.flatten.length % KINFO_PROC_SIZE ≠ 0 := by
    rw [not_not, List.length_flatten]
    refine Nat.mod_eq_zero_of_dvd (List.dvd_sum fun len hlen => ?_)
    obtain ⟨raw, hraw, rfl⟩ := List.mem_map.mp hlen
    exact (hlength raw hraw) ▸ dvd_refl _
  have hread : ∀ raw ∈ records, (decodeKinfoProc raw = .ok (entryOf raw) ↔
      ((kinfoOf raw).pid ≠ 0 → (kinfoOf raw).Sound)) := by
    intro raw hraw
    obtain ⟨hok, herror⟩ := decodeKinfoProc_cases (hlength raw hraw)
    refine ⟨fun hdecode => by_contra fun hsound => ?_, hok⟩
    rw [herror hsound] at hdecode
    cases hdecode
  rw [decodeProcessTable, if_neg hdvd, chunksExact_flatten (by decide) hlength, insertRecord_eq]
  constructor
  · intro hwhole
    refine foldlM_insertDistinct_ok (fun raw hraw => ?_) ?_
    · exact (hread raw hraw).mpr (hwhole.sound raw hraw)
    · exact (nodup_keys_iff hlength hwhole.sound).mpr hwhole.distinct
  · intro hbroken
    refine foldlM_insertDistinct_error decodeKinfoProc_or List.nodup_nil fun hall => hbroken ?_
    have hsound : ∀ raw ∈ records, (kinfoOf raw).pid ≠ 0 → (kinfoOf raw).Sound :=
      fun raw hraw => (hread raw hraw).mp (hall.1 raw hraw)
    exact ⟨hsound, (nodup_keys_iff hlength hsound).mp hall.2⟩

/-- A buffer of another length is refused; every other buffer is a list of records. -/
theorem decodeProcessTable_rest {bytes : Bytes} (h : bytes.length % KINFO_PROC_SIZE ≠ 0) :
    decodeProcessTable bytes = .error Libc.EINVAL := by
  rw [decodeProcessTable, if_pos h]

theorem exists_records {bytes : Bytes} (h : bytes.length % KINFO_PROC_SIZE = 0) :
    ∃ records : List Bytes, (∀ raw ∈ records, raw.length = KINFO_PROC_SIZE) ∧
      records.flatten = bytes :=
  ⟨chunksExact KINFO_PROC_SIZE bytes, fun _ hraw => length_of_mem_chunksExact hraw,
    flatten_chunksExact h⟩

/-- A table that is decoded has the entries of its records. -/
theorem entries_of_decode {bytes : Bytes} {table : ProcessTable}
    (h : decodeProcessTable bytes = .ok table) :
    ∃ records : List Bytes, Whole records ∧ table = records.filterMap entryOf := by
  by_cases hrest : bytes.length % KINFO_PROC_SIZE = 0
  · obtain ⟨records, hlength, rfl⟩ := exists_records hrest
    obtain ⟨hok, herror⟩ := decodeProcessTable_flatten hlength
    by_cases hwhole : Whole records
    · exact ⟨records, hwhole, Except.ok.inj (h.symm.trans (hok hwhole))⟩
    · rw [herror hwhole] at h
      cases h
  · rw [decodeProcessTable_rest hrest] at h
    cases h

/-- **The process table is decoded exactly or not at all:** every buffer of another length is
refused, every other buffer is a list of records, and these have all their entries or none. -/
theorem decodeProcessTable_exact (bytes : Bytes) :
    (bytes.length % KINFO_PROC_SIZE ≠ 0 → decodeProcessTable bytes = .error Libc.EINVAL) ∧
    (bytes.length % KINFO_PROC_SIZE = 0 → ∃ records : List Bytes,
      (∀ raw ∈ records, raw.length = KINFO_PROC_SIZE) ∧ records.flatten = bytes) ∧
    ∀ records : List Bytes, (∀ raw ∈ records, raw.length = KINFO_PROC_SIZE) →
      (Whole records → decodeProcessTable records.flatten = .ok (records.filterMap entryOf)) ∧
      (¬ Whole records → decodeProcessTable records.flatten = .error Libc.EINVAL) :=
  ⟨decodeProcessTable_rest, exists_records, fun _ => decodeProcessTable_flatten⟩

/-- A sleeping process of user 501 and niceness -5, started 1.7e9 seconds and 123456 microseconds
after the epoch. -/
def kinfoRecord (pid ppid : Nat) (name : Text) : Bytes :=
  leBytes 8 1700000000 ++ leBytes 4 123456 ++ List.replicate 24 0 ++ [3] ++ List.replicate 3 0
    ++ leBytes 4 pid ++ List.replicate 198 0 ++ [251] ++ Utf8.encode name
    ++ List.replicate (149 - name.length) 0 ++ leBytes 4 501 ++ List.replicate 164 0
    ++ leBytes 4 ppid ++ List.replicate 84 0

/-- Process 4242, `foreign`. -/
def foreignRecord : Bytes := kinfoRecord 4242 42 "foreign".toList

/-- A table of that process behind the kernel's record. -/
theorem decodeProcessTable_exact_sample :
    decodeProcessTable [List.replicate 648 0, foreignRecord].flatten
      = .ok [(4242, ⟨42, "foreign".toList, 1700000000123456, 501, 3, -5⟩)] := by
  have hlength : ∀ raw ∈ [List.replicate 648 0, foreignRecord], raw.length = KINFO_PROC_SIZE :=
    List.forall_mem_cons.mpr ⟨List.length_replicate,
      List.forall_mem_singleton.mpr (by decide +kernel)⟩
  have hwhole : Whole [List.replicate 648 0, foreignRecord] := by
    refine ⟨List.forall_mem_cons.mpr ⟨fun hpid => absurd (by decide +kernel) hpid,
      List.forall_mem_singleton.mpr fun _ => ?_⟩, by decide +kernel⟩
    exact ⟨by decide +kernel, by decide +kernel, by decide +kernel, by decide +kernel,
      by decide +kernel, by decide +kernel⟩
  have hexact := ((decodeProcessTable_exact []).2.2 _ hlength).1 hwhole
  rw [hexact]
  decide +kernel

/-! ## A system of two processes -/

/-- Process 7, `shell`, and its child 9, `sleep`. -/
def familyRecords : List Bytes := [kinfoRecord 7 1 "shell".toList, kinfoRecord 9 7 "sleep".toList]

def familyTable : ProcessTable :=
  [(7, ⟨1, "shell".toList, 1700000000123456, 501, 3, -5⟩),
    (9, ⟨7, "sleep".toList, 1700000000123456, 501, 3, -5⟩)]

theorem decode_family : decodeProcessTable familyRecords.flatten = .ok familyTable := by
  have hlength : ∀ raw ∈ familyRecords, raw.length = KINFO_PROC_SIZE :=
    List.forall_mem_cons.mpr ⟨by decide +kernel, List.forall_mem_singleton.mpr (by decide +kernel)⟩
  have hwhole : Whole familyRecords := by
    refine ⟨List.forall_mem_cons.mpr ⟨fun _ => ?_, List.forall_mem_singleton.mpr fun _ => ?_⟩,
      by decide +kernel⟩
    all_goals
      exact ⟨by decide +kernel, by decide +kernel, by decide +kernel, by decide +kernel,
        by decide +kernel, by decide +kernel⟩
  rw [(decodeProcessTable_flatten hlength).1 hwhole]
  decide +kernel

/-- A system of these two, where every task record can be read and no descriptor. -/
def familySystem : Os :=
  { Os.blind Libc.EPERM with
    kernProcAll := .ok familyRecords.flatten
    taskInfo := fun _ => .ok ⟨4096, 0, 0, 1⟩ }

theorem familySystem_table : readProcessTable familySystem = .ok familyTable := by
  have hall : familySystem.kernProcAll = .ok familyRecords.flatten := rfl
  rw [readProcessTable, hall, ok_bind, decode_family, ok_bind]
  rfl

end Osfacts.Darwin
