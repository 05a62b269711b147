import Osfacts.Basic.Bytes
import Osfacts.Rust.Text

set_option autoImplicit false

/-! # Byte slices and `usize`

The decoders of kernel buffers run on `usize` cursors over `&[u8]`. A computation stops with an
errno where the source returns `Err`, and with `panic` where Rust would stop the program: an index
out of range, an addition that overflows. A slice is at most `isize::MAX` bytes long.
-/

namespace Osfacts

/-- Why a computation stopped early. -/
inductive Stop where
  | panic
  | errno (err : Errno)
  deriving DecidableEq, Repr

/-- A `&[u8]`: Rust allocates no object larger than `isize::MAX`. -/
structure Buffer where
  bytes : Bytes
  fits : bytes.length < 2 ^ 63

/-- `.ok_or(err)`. -/
def okOr {α : Type} (value : Option α) (err : Errno) : Except Stop α :=
  value.elim (.error (.errno err)) .ok

theorem okOr_some {α : Type} (a : α) (err : Errno) : okOr (some a) err = .ok a := rfl

/-- `usize::checked_add`. -/
def checkedAddUsize (a b : Nat) : Option Nat := if a + b < 2 ^ 64 then some (a + b) else none

/-- `a + b` on `usize`, with overflow checks. -/
def addUsize (a b : Nat) : Except Stop Nat := if a + b < 2 ^ 64 then .ok (a + b) else .error .panic

/-- `&bytes[start..stop]`. -/
def index (bytes : Bytes) (start stop : Nat) : Except Stop Bytes :=
  (slice bytes start stop).elim (.error .panic) .ok

/-- `u16::from_be(u16::from_ne_bytes(_))`, on two bytes. -/
def fromBeU16 (field : Bytes) : UInt16 := UInt16.ofNat (leNat field.reverse)

/-- `u32::from_ne_bytes`, on four bytes of a little-endian host. -/
def fromNeU32 (field : Bytes) : UInt32 := UInt32.ofNat (leNat field)

/-- `i32::from_ne_bytes`. -/
def fromNeI32 (field : Bytes) : Int32 := (fromNeU32 field).toInt32

/-- `u64::from_ne_bytes`, on eight bytes. -/
def fromNeU64 (field : Bytes) : UInt64 := UInt64.ofNat (leNat field)

/-- `i64::from_ne_bytes`. -/
def fromNeI64 (field : Bytes) : Int64 := (fromNeU64 field).toInt64

/-- `slice::chunks_exact`: the whole chunks. -/
def chunksExact (size : Nat) (bytes : Bytes) : List Bytes :=
  (List.range (bytes.length / size)).map (fun i => (bytes.drop (i * size)).take size)

/-- A computation that does not panic, as the `Result` the source returns. -/
def withoutPanic {α : Type} (r : Except Stop α) (h : r ≠ .error .panic) : Except Errno α :=
  match r, h with
  | .ok a, _ => .ok a
  | .error (.errno err), _ => .error err
  | .error .panic, h => absurd rfl h

theorem withoutPanic_of_ok {α : Type} {r : Except Stop α} {h : r ≠ .error .panic} {a : α}
    (hok : r = .ok a) : withoutPanic r h = .ok a := by
  subst hok
  rfl

/-! ## Fields that were written -/

def beBytesU16 (n : UInt16) : Bytes := (leBytes 2 n.toNat).reverse

def neBytesU32 (n : UInt32) : Bytes := leBytes 4 n.toNat

def neBytesI32 (n : Int32) : Bytes := neBytesU32 n.toUInt32

theorem fromBeU16_beBytes (n : UInt16) : fromBeU16 (beBytesU16 n) = n := by
  rw [fromBeU16, beBytesU16, List.reverse_reverse, leNat_leBytes n.toNat_lt, UInt16.ofNat_toNat]

theorem fromNeU32_neBytes (n : UInt32) : fromNeU32 (neBytesU32 n) = n := by
  rw [fromNeU32, neBytesU32, leNat_leBytes n.toNat_lt, UInt32.ofNat_toNat]

theorem fromNeI32_neBytes (n : Int32) : fromNeI32 (neBytesI32 n) = n := by
  rw [fromNeI32, neBytesI32, fromNeU32_neBytes, Int32.toInt32_toUInt32]

theorem neBytesI32_fromNe {field : Bytes} (h : field.length = 4) :
    neBytesI32 (fromNeI32 field) = field := by
  have hlt : leNat field < 2 ^ 32 := by
    have hlt := leNat_lt field
    rw [h] at hlt
    omega
  have hle := leBytes_leNat field
  rw [h] at hle
  rw [fromNeI32, neBytesI32, UInt32.toUInt32_toInt32, fromNeU32, neBytesU32,
    UInt32.toNat_ofNat_of_lt' hlt, hle]

theorem index_append (pre field post : Bytes) {start stop : Nat} (hstart : start = pre.length)
    (hstop : stop = pre.length + field.length) :
    index (pre ++ (field ++ post)) start stop = .ok field := by
  rw [index, slice_append pre field post hstart hstop, Option.elim_some]

theorem addUsize_ok {a b : Nat} (h : a + b < 2 ^ 64) : addUsize a b = .ok (a + b) := if_pos h

theorem checkedAddUsize_some {a b : Nat} (h : a + b < 2 ^ 64) :
    checkedAddUsize a b = some (a + b) := if_pos h

/-! ## Signed fields -/

theorem toInt_fromNeI32 {field : Bytes} (h : field.length = 4) :
    (fromNeI32 field).toInt = leInt field := by
  rw [fromNeI32, fromNeU32, UInt32.toInt32_ofNat', Int32.toInt_ofNat', leInt, h]
  rfl

theorem toInt_fromNeI64 {field : Bytes} (h : field.length = 8) :
    (fromNeI64 field).toInt = leInt field := by
  rw [fromNeI64, fromNeU64, UInt64.toInt64_ofNat', Int64.toInt_ofNat', leInt, h]
  rfl

/-! ## Whole chunks -/

theorem chunksExact_flatten {size : Nat} (hsize : 0 < size) {records : List Bytes}
    (h : ∀ raw ∈ records, raw.length = size) : chunksExact size records.flatten = records := by
  induction records with
  | nil => simp [chunksExact]
  | cons raw records ih =>
      obtain ⟨hraw, hrest⟩ := List.forall_mem_cons.mp h
      have hlength :
          (raw ++ records.flatten).length / size = records.flatten.length / size + 1 := by
        rw [List.length_append, hraw, Nat.add_comm, Nat.add_div_right _ hsize]
      rw [List.flatten_cons, chunksExact, hlength, List.range_succ_eq_map, List.map_cons,
        List.map_map]
      congr 1
      · rw [Nat.zero_mul, List.drop_zero, ← hraw, List.take_left]
      · refine Eq.trans (List.map_congr_left fun i _ => ?_) (ih hrest)
        rw [Function.comp_apply, Nat.succ_mul, Nat.add_comm, ← List.drop_drop]
        conv_lhs => rw [← hraw, List.drop_left, hraw]

theorem length_of_mem_chunksExact {size : Nat} {bytes chunk : Bytes}
    (h : chunk ∈ chunksExact size bytes) : chunk.length = size := by
  obtain ⟨i, hi, rfl⟩ := List.mem_map.mp h
  have hlt := Nat.mul_le_of_le_div _ _ _ (Nat.succ_le_of_lt (List.mem_range.mp hi))
  rw [Nat.succ_mul] at hlt
  rw [List.length_take, List.length_drop]
  omega

theorem flatten_chunksExact {size : Nat} {bytes : Bytes} (h : bytes.length % size = 0) :
    (chunksExact size bytes).flatten = bytes := by
  have hprefix : ∀ n, ((List.range n).map fun i => (bytes.drop (i * size)).take size).flatten
      = bytes.take (n * size) := by
    intro n
    induction n with
    | zero => simp
    | succ n ih =>
        rw [List.range_succ, List.map_append, List.flatten_append, ih, List.map_singleton,
          List.flatten_singleton, Nat.succ_mul, List.take_add]
  rw [chunksExact, hprefix, Nat.div_mul_cancel (Nat.dvd_of_mod_eq_zero h), List.take_length]
end Osfacts
