import Mathlib.Tactic

set_option autoImplicit false

/-! # Quotients of parts

A quantity is divided part by part, each quotient rounded down. What the roundings cut off is the
sum of the remainders: less than one divisor for each part, so the quotients fall short of the
quotient of the whole by less than the number of parts. They exceed the quotient of a smaller
quantity exactly when the excess is more than what was cut off.
-/

namespace Osfacts

variable {h : Nat}

/-- The quotients and what was cut off make up the whole. -/
theorem mul_sum_div_add_sum_mod (h : Nat) (parts : List Nat) :
    h * (parts.map (· / h)).sum + (parts.map (· % h)).sum = parts.sum := by
  induction parts with
  | nil => rfl
  | cons n parts ih =>
      have hn := Nat.div_add_mod n h
      rw [List.map_cons, List.map_cons, List.sum_cons, List.sum_cons, List.sum_cons, Nat.mul_add]
      omega

theorem sum_mod_le (hpos : 0 < h) (parts : List Nat) :
    (parts.map (· % h)).sum + parts.length ≤ h * parts.length := by
  induction parts with
  | nil => rfl
  | cons n parts ih =>
      have hn := Nat.mod_lt n hpos
      rw [List.map_cons, List.sum_cons, List.length_cons, Nat.mul_succ]
      omega

/-- The quotients of the parts against the quotient of any quantity. -/
theorem sum_div_le_iff (hpos : 0 < h) (parts : List Nat) (total : Nat) :
    (parts.map (· / h)).sum ≤ total / h ↔ parts.sum ≤ total + (parts.map (· % h)).sum := by
  have hwhole := mul_sum_div_add_sum_mod h parts
  rw [Nat.le_div_iff_mul_le hpos, Nat.mul_comm]
  omega

/-- The quotients of the parts fall short by less than one for each part. -/
theorem div_lt_sum_div_add (hpos : 0 < h) {parts : List Nat} (hne : parts ≠ []) {total : Nat}
    (htotal : total ≤ parts.sum) : total / h < (parts.map (· / h)).sum + parts.length := by
  have hwhole := mul_sum_div_add_sum_mod h parts
  have hcut := sum_mod_le hpos parts
  have hlength := List.length_pos_iff.mpr hne
  rw [Nat.div_lt_iff_lt_mul hpos, Nat.add_mul, Nat.mul_comm _ h, Nat.mul_comm _ h]
  omega

/-- A quantity cut off at a bound has the quotient of the whole exactly when the last multiple of
the divisor is within the bound. -/
theorem min_div_eq_iff (hpos : 0 < h) (a bound : Nat) :
    min a bound / h = a / h ↔ a / h * h ≤ bound := by
  constructor
  · intro heq
    calc a / h * h = min a bound / h * h := by rw [heq]
      _ ≤ min a bound := Nat.div_mul_le_self _ _
      _ ≤ bound := Nat.min_le_right _ _
  · intro hle
    apply Nat.le_antisymm
    · exact Nat.div_le_div_right (Nat.min_le_left _ _)
    · rw [Nat.le_div_iff_mul_le hpos]
      exact Nat.le_min.mpr ⟨Nat.div_mul_le_self _ _, hle⟩

/-- Quantities at least one divisor apart have different quotients. -/
theorem div_lt_div_of_add_le (hpos : 0 < h) {a b : Nat} (hab : a + h ≤ b) : a / h < b / h := by
  calc a / h < a / h + 1 := Nat.lt_succ_self _
    _ = (a + h) / h := (Nat.add_div_right a hpos).symm
    _ ≤ b / h := Nat.div_le_div_right hab

end Osfacts
