import Mathlib.Tactic

set_option autoImplicit false

/-! # Decimal numerals as lists of characters

Printing a number is `Nat.toDigits 10`; reading one back is `Nat.ofDigitChars 10`. The two
readers below differ only in the signs they accept and in the range they check, which is
what the integer parsers of most languages differ in.
-/

namespace Osfacts.Decimal

/-- The decimal numeral of `n`, without leading zeros. -/
def decimal (n : Nat) : List Char := Nat.toDigits 10 n

/-- The decimal numeral of an integer, with a `-` in front of a negative one. -/
def signedDecimal : Int → List Char
  | .ofNat n => decimal n
  | .negSucc n => '-' :: decimal (n + 1)

/-- One or more decimal digits and nothing else. -/
def isNumeral (t : List Char) : Bool := !t.isEmpty && t.all Char.isDigit

/-- The value of a numeral. -/
def value (t : List Char) : Nat := Nat.ofDigitChars 10 t 0

/-- A numeral whose value is below `bound`. -/
def readBelow (bound : Nat) (t : List Char) : Option Nat :=
  if isNumeral t = true ∧ value t < bound then some (value t) else none

/-- A numeral below `bound`, with at most one leading `+`. -/
def readUnsigned (bound : Nat) : List Char → Option Nat
  | '+' :: t => readBelow bound t
  | t => readBelow bound t

/-- A numeral with at most one leading sign, in `[-bound, bound)`. -/
def readSigned (bound : Nat) : List Char → Option Int
  | '-' :: t => (readBelow (bound + 1) t).map (fun n => -(n : Int))
  | '+' :: t => (readBelow bound t).map Int.ofNat
  | t => (readBelow bound t).map Int.ofNat

/-! ## Numerals -/

theorem decimal_ne_nil (n : Nat) : decimal n ≠ [] := Nat.toDigits_ne_nil

theorem toNat_lt_of_isDigit {c : Char} (h : c.isDigit = true) : c.toNat < 128 := by
  simp only [Char.isDigit, Bool.and_eq_true, decide_eq_true_eq] at h
  exact lt_of_le_of_lt (UInt32.le_iff_toNat_le.mp h.2) (by decide)

theorem isDigit_of_mem_decimal {n : Nat} {c : Char} (h : c ∈ decimal n) :
    c.isDigit = true :=
  Nat.isDigit_of_mem_toDigits (by omega) (by omega) h

theorem isNumeral_iff {t : List Char} :
    isNumeral t = true ↔ t ≠ [] ∧ ∀ c ∈ t, c.isDigit = true := by
  simp only [isNumeral, Bool.and_eq_true, Bool.not_eq_true', List.isEmpty_eq_false_iff,
    List.all_eq_true]

theorem isNumeral_decimal (n : Nat) : isNumeral (decimal n) = true :=
  isNumeral_iff.mpr ⟨decimal_ne_nil n, fun _ hc => isDigit_of_mem_decimal hc⟩

theorem value_decimal (n : Nat) : value (decimal n) = n := Nat.ofDigitChars_ten_toDigits

theorem not_mem_of_isNumeral {t : List Char} {d : Char} (h : isNumeral t = true)
    (hd : d.isDigit = false) : d ∉ t := by
  intro hmem
  rw [(isNumeral_iff.mp h).2 d hmem] at hd
  cases hd

theorem not_mem_decimal {n : Nat} {d : Char} (hd : d.isDigit = false) : d ∉ decimal n :=
  not_mem_of_isNumeral (isNumeral_decimal n) hd

theorem mem_decimal_ne {n : Nat} {c d : Char} (h : c ∈ decimal n) (hd : d.isDigit = false) :
    c ≠ d :=
  fun hc => not_mem_decimal hd (hc ▸ h)

theorem not_mem_signedDecimal {i : Int} {d : Char} (hd : d.isDigit = false) (hm : d ≠ '-') :
    d ∉ signedDecimal i := by
  cases i with
  | ofNat n => exact not_mem_decimal hd
  | negSucc n =>
      intro h
      rcases List.mem_cons.mp h with h | h
      · exact hm h
      · exact not_mem_decimal hd h

theorem decimal_injective : Function.Injective decimal := by
  intro m n h
  rw [← value_decimal m, h, value_decimal]

theorem signedDecimal_injective : Function.Injective signedDecimal := by
  intro i j h
  -- no numeral starts with a dash
  have hdash : ∀ m n : Nat, decimal m ≠ '-' :: decimal n := by
    intro m n hmn
    exact mem_decimal_ne (hmn ▸ List.mem_cons_self : '-' ∈ decimal m) rfl rfl
  cases i with
  | ofNat m =>
      cases j with
      | ofNat n => rw [decimal_injective h]
      | negSucc n => exact absurd h (hdash m (n + 1))
  | negSucc m =>
      cases j with
      | ofNat n => exact absurd h.symm (hdash n (m + 1))
      | negSucc n => rw [Nat.succ.inj (decimal_injective (List.cons.inj h).2)]

/-! ## Readers invert printers -/

/-- A text of digits is read whatever its leading zeros. -/
theorem readUnsigned_of_isNumeral {bound : Nat} {t : List Char} (h : isNumeral t = true)
    (hv : value t < bound) : readUnsigned bound t = some (value t) := by
  unfold readUnsigned
  split
  case h_1 t' =>
      rw [isNumeral] at h
      simp at h
  case h_2 => rw [readBelow, if_pos ⟨h, hv⟩]

/-- A text without a sign is read only as a numeral. -/
theorem readUnsigned_some {bound n : Nat} {t : List Char} (h : readUnsigned bound t = some n)
    (hsign : t.head? ≠ some '+') : isNumeral t = true ∧ value t = n ∧ n < bound := by
  unfold readUnsigned at h
  split at h
  case h_1 => exact absurd rfl hsign
  case h_2 =>
      unfold readBelow at h
      split_ifs at h with hread
      obtain rfl := Option.some.inj h
      exact ⟨hread.1, rfl, hread.2⟩

/-- What is read is a numeral, behind a plus sign or alone. -/
theorem exists_of_readUnsigned {bound n : Nat} {t : List Char} (h : readUnsigned bound t = some n) :
    ∃ sign digits, t = sign ++ digits ∧ (sign = [] ∨ sign = ['+']) ∧ isNumeral digits = true ∧
      value digits = n ∧ n < bound := by
  by_cases hsign : t.head? = some '+'
  · obtain ⟨digits, rfl⟩ := List.head?_eq_some_iff.mp hsign
    change readBelow bound digits = some n at h
    unfold readBelow at h
    split_ifs at h with hread
    obtain rfl := Option.some.inj h
    exact ⟨['+'], digits, rfl, Or.inr rfl, hread.1, rfl, hread.2⟩
  · exact ⟨[], t, rfl, Or.inl rfl, readUnsigned_some h hsign⟩

theorem readUnsigned_sign {bound : Nat} {sign t : List Char} (hsign : sign = [] ∨ sign = ['+'])
    (h : isNumeral t = true) (hv : value t < bound) :
    readUnsigned bound (sign ++ t) = some (value t) := by
  rcases hsign with rfl | rfl
  · exact readUnsigned_of_isNumeral h hv
  · exact if_pos ⟨h, hv⟩

theorem readUnsigned_decimal {bound n : Nat} (h : n < bound) :
    readUnsigned bound (decimal n) = some n := by
  rw [readUnsigned_of_isNumeral (isNumeral_decimal n) (by rwa [value_decimal]), value_decimal]

/-! ## The first digits of a numeral -/

theorem value_append (t rest : List Char) :
    value (t ++ rest) = 10 ^ rest.length * value t + value rest := by
  rw [value, Nat.ofDigitChars_append, Nat.ofDigitChars_eq_ofDigitChars_zero]
  rfl

theorem value_lt {t : List Char} (h : ∀ c ∈ t, c.isDigit = true) : value t < 10 ^ t.length := by
  induction t with
  | nil => decide
  | cons c t ih =>
      have hrest := ih (fun d hd => h d (List.mem_cons_of_mem c hd))
      have hdigit : value [c] ≤ 9 := by
        have hc := h c (List.mem_cons_self ..)
        rw [Char.isDigit, Bool.and_eq_true, decide_eq_true_eq, decide_eq_true_eq] at hc
        have hnine : c.toNat ≤ 57 := hc.2
        show 10 * 0 + (c.toNat - '0'.toNat) ≤ 9
        show 10 * 0 + (c.toNat - 48) ≤ 9
        omega
      calc value (c :: t) = 10 ^ t.length * value [c] + value t := value_append [c] t
        _ < 10 ^ t.length * 9 + 10 ^ t.length :=
            Nat.add_lt_add_of_le_of_lt (Nat.mul_le_mul_left _ hdigit) hrest
        _ = 10 ^ (c :: t).length := by rw [List.length_cons]; ring

/-- The first digits of a numeral are a numeral, of no larger a value, and only zero starts with
zero. -/
theorem first_digits {n : Nat} {t rest : List Char} (h : decimal n = t ++ rest) (ht : t ≠ []) :
    isNumeral t = true ∧ value t ≤ n ∧ (n ≠ 0 → value t ≠ 0) := by
  have hdigit : ∀ c ∈ t ++ rest, c.isDigit = true := by
    intro c hc
    rw [← h] at hc
    exact isDigit_of_mem_decimal hc
  have hvalue : n = 10 ^ rest.length * value t + value rest := by
    rw [← value_append, ← h, value_decimal]
  refine ⟨?_, ?_, fun hn hzero => ?_⟩
  · exact isNumeral_iff.mpr ⟨ht, fun c hc => hdigit c (List.mem_append_left rest hc)⟩
  · rw [hvalue]
    exact (Nat.le_mul_of_pos_left _ (by positivity)).trans (Nat.le_add_right _ _)
  · -- the digits that are left would be too few for the number
    have hlt : n < 10 ^ rest.length := by
      rw [hvalue, hzero, Nat.mul_zero, Nat.zero_add]
      exact value_lt (fun c hc => hdigit c (List.mem_append_right t hc))
    have hpos : 0 < rest.length := by
      refine Nat.pos_of_ne_zero fun hlen => hn ?_
      rw [hlen] at hlt
      omega
    have hlen := (Nat.length_toDigits_le_iff (by omega) hpos).mpr hlt
    have htotal : (Nat.toDigits 10 n).length = t.length + rest.length := by
      rw [← List.length_append, ← h, decimal]
    have := List.length_pos_of_ne_nil ht
    omega

/-! ## Decimal fractions -/

theorem value_replicate_zero (n : Nat) : value (List.replicate n '0') = 0 := by
  induction n with
  | zero => rfl
  | succ n ih =>
      have hcons : List.replicate (n + 1) '0' = ['0'] ++ List.replicate n '0' := rfl
      rw [hcons, value_append, ih]
      rfl

/-- The first places of a decimal fraction, filled up with zeros: the fraction in units of the
last place, rounded down. -/
theorem value_places {t : List Char} (h : ∀ c ∈ t, c.isDigit = true) (places : Nat) :
    value (t.take places ++ List.replicate (places - (t.take places).length) '0')
      = value t * 10 ^ places / 10 ^ t.length := by
  rw [value_append, value_replicate_zero, Nat.add_zero, List.length_replicate]
  rcases Nat.le_total t.length places with hle | hle
  · have hpow : 10 ^ places = 10 ^ (places - t.length) * 10 ^ t.length := by
      rw [← pow_add, Nat.sub_add_cancel hle]
    rw [List.take_of_length_le hle, hpow, ← Nat.mul_assoc, Nat.mul_div_cancel _ (by positivity),
      Nat.mul_comm]
  · -- the places that are left out are less than one unit
    have hlength : (t.take places).length = places := List.length_take_of_le hle
    have hrest : value (t.drop places) < 10 ^ (t.drop places).length :=
      value_lt fun c hc => h c (List.mem_of_mem_drop hc)
    have hsplit : value t = 10 ^ (t.drop places).length * value (t.take places)
        + value (t.drop places) := by
      rw [← value_append, List.take_append_drop]
    have hpow : 10 ^ t.length = 10 ^ (t.drop places).length * 10 ^ places := by
      rw [← pow_add, List.length_drop, Nat.sub_add_cancel hle]
    rw [hlength, Nat.sub_self, Nat.pow_zero, Nat.one_mul, hpow,
      Nat.mul_div_mul_right _ _ (by positivity), hsplit, Nat.mul_add_div (by positivity),
      Nat.div_eq_of_lt hrest, Nat.add_zero]

end Osfacts.Decimal
