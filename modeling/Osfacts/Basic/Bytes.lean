import Mathlib.Tactic

set_option autoImplicit false

/-! # Numbers and fields in a list of bytes

Little-endian numerals of a fixed width, and the reading of a field by its place: `slice` is the
part between two positions, when it is there. A field laid out between two lists is read back at
the length of the first.
-/

namespace Osfacts

/-! ## Numerals -/

/-- The number of a little-endian numeral. -/
def leNat : List UInt8 → Nat
  | [] => 0
  | b :: rest => b.toNat + 256 * leNat rest

/-- The little-endian numeral of a number, `width` bytes wide. -/
def leBytes : Nat → Nat → List UInt8
  | 0, _ => []
  | width + 1, n => UInt8.ofNat (n % 256) :: leBytes width (n / 256)

@[simp] theorem length_leBytes (width n : Nat) : (leBytes width n).length = width := by
  induction width generalizing n with
  | zero => rfl
  | succ width ih => rw [leBytes, List.length_cons, ih]

theorem leNat_leBytes {width n : Nat} (h : n < 256 ^ width) : leNat (leBytes width n) = n := by
  induction width generalizing n with
  | zero =>
      rw [Nat.pow_zero, Nat.lt_one_iff] at h
      rw [h]
      rfl
  | succ width ih =>
      rw [Nat.pow_succ] at h
      have hhigh : n / 256 < 256 ^ width := by omega
      have hlow : (UInt8.ofNat (n % 256)).toNat = n % 256 := by simp
      rw [leBytes, leNat, ih hhigh, hlow]
      omega

theorem leNat_lt (bytes : List UInt8) : leNat bytes < 256 ^ bytes.length := by
  induction bytes with
  | nil => simp [leNat]
  | cons b rest ih =>
      have hb := b.toNat_lt
      rw [leNat, List.length_cons, Nat.pow_succ]
      omega

theorem leBytes_leNat (bytes : List UInt8) : leBytes bytes.length (leNat bytes) = bytes := by
  induction bytes with
  | nil => rfl
  | cons b rest ih =>
      have hb := b.toNat_lt
      have hlow : (b.toNat + 256 * leNat rest) % 256 = b.toNat := by omega
      have hhigh : (b.toNat + 256 * leNat rest) / 256 = leNat rest := by omega
      rw [List.length_cons, leBytes, leNat, hlow, hhigh, ih, UInt8.ofNat_toNat]

/-- The number that bytes stand for in two's complement. -/
def leInt (bytes : List UInt8) : Int := (leNat bytes : Int).bmod (256 ^ bytes.length)

theorem leInt_of_nonneg {bytes : List UInt8} (h : 0 ≤ leInt bytes) : leInt bytes = leNat bytes := by
  have hlt := leNat_lt bytes
  have hmod : (leNat bytes : Int) % (256 ^ bytes.length : Nat) = leNat bytes := by
    rw [← Int.natCast_mod, Nat.mod_eq_of_lt hlt]
  rw [leInt, Int.bmod_def, hmod] at h ⊢
  split_ifs at h ⊢
  · rfl
  · omega

/-! ## Fields -/

variable {α : Type}

/-- The part from one position to another, if it lies inside. -/
def slice (l : List α) (start stop : Nat) : Option (List α) :=
  if start ≤ stop ∧ stop ≤ l.length then some ((l.drop start).take (stop - start)) else none

theorem length_of_slice {l field : List α} {start stop : Nat}
    (h : slice l start stop = some field) : field.length = stop - start := by
  rw [slice, Option.ite_none_right_eq_some] at h
  obtain ⟨⟨hle, hstop⟩, h⟩ := h
  rw [← Option.some.inj h, List.length_take, List.length_drop]
  omega

/-- A field between two lists is read back at its place. -/
theorem slice_append (pre field post : List α) {start stop : Nat} (hstart : start = pre.length)
    (hstop : stop = pre.length + field.length) :
    slice (pre ++ (field ++ post)) start stop = some field := by
  have hin : start ≤ stop ∧ stop ≤ (pre ++ (field ++ post)).length := by
    rw [List.length_append, List.length_append]
    omega
  rw [slice, if_pos hin, hstart, List.drop_left, hstop, Nat.add_sub_cancel_left, List.take_left]

/-- Inside a part of a list, the part answers. -/
theorem slice_shift (pre part post : List α) {start stop : Nat} (h : stop ≤ part.length) :
    slice (pre ++ (part ++ post)) (pre.length + start) (pre.length + stop)
      = slice part start stop := by
  have hlength : (pre ++ (part ++ post)).length = pre.length + (part.length + post.length) := by
    rw [List.length_append, List.length_append]
  unfold slice
  by_cases hle : start ≤ stop
  · have hin : pre.length + start ≤ pre.length + stop
        ∧ pre.length + stop ≤ (pre ++ (part ++ post)).length := by omega
    rw [if_pos hin, if_pos ⟨hle, h⟩, ← List.drop_drop, List.drop_left,
      List.drop_append_of_le_length (by omega),
      List.take_append_of_le_length (by rw [List.length_drop]; omega)]
    congr 2
    omega
  · rw [if_neg (fun hin => hle (by omega)), if_neg (fun hin => hle hin.1)]

/-- A part that lies inside is there. -/
theorem exists_slice {l : List α} {start stop : Nat} (hle : start ≤ stop)
    (hstop : stop ≤ l.length) : ∃ field, slice l start stop = some field :=
  ⟨_, if_pos ⟨hle, hstop⟩⟩

/-! ## Rounding to a multiple of eight -/

/-- The next multiple of eight. -/
def ceil8 (n : Nat) : Nat := (n + 7) / 8 * 8

theorem le_ceil8 (n : Nat) : n ≤ ceil8 n := by
  unfold ceil8
  omega

theorem ceil8_lt (n : Nat) : ceil8 n < n + 8 := by
  unfold ceil8
  omega

theorem dvd_ceil8 (n : Nat) : 8 ∣ ceil8 n := ⟨(n + 7) / 8, Nat.mul_comm _ _⟩

/-- Rounding an end rounds the length, when the start is a multiple of eight. -/
theorem ceil8_add {start : Nat} (h : 8 ∣ start) (n : Nat) :
    ceil8 (start + n) = start + ceil8 n := by
  obtain ⟨k, rfl⟩ := h
  unfold ceil8
  omega

end Osfacts
