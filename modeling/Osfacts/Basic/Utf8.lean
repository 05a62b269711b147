import Mathlib.Tactic
import Osfacts.Basic.Delimited

set_option autoImplicit false

/-! # UTF-8 over byte lists

A decoder that reads one byte at a time and never gets stuck: every maximal ill-formed
run of bytes is reported as `none`, every character as `some c`. The strict reading (fail
on the first `none`) and the lossy reading (replace every `none` by U+FFFD) are both
functions of this one scan. `scan_encode` says that the scan inverts the encoder, in
front of any continuation, and `encode_of_decode` that the encoder inverts the strict reading.
-/

namespace Osfacts.Utf8

/-- The bytes of a text: the concatenation of its characters' encodings. -/
def encode (t : List Char) : List UInt8 := t.flatMap String.utf8EncodeChar

/-- Where the decoder stands between two bytes: between characters, or inside one, with the
number of bytes still owed, the range the next of them must lie in, and the value so far. -/
inductive State where
  | start
  | inside (need low high acc : Nat)
  deriving DecidableEq

/-- The first byte of a character. `none` is emitted for a byte no character starts with. -/
def first (n : Nat) : List (Option Char) × State :=
  if n ≤ 0x7F then ([some (Char.ofNat n)], .start)
  else if 0xC2 ≤ n ∧ n ≤ 0xDF then ([], .inside 1 0x80 0xBF (n % 32))
  else if n = 0xE0 then ([], .inside 2 0xA0 0xBF (n % 16))
  else if n = 0xED then ([], .inside 2 0x80 0x9F (n % 16))
  else if 0xE1 ≤ n ∧ n ≤ 0xEF then ([], .inside 2 0x80 0xBF (n % 16))
  else if n = 0xF0 then ([], .inside 3 0x90 0xBF (n % 8))
  else if 0xF1 ≤ n ∧ n ≤ 0xF3 then ([], .inside 3 0x80 0xBF (n % 8))
  else if n = 0xF4 then ([], .inside 3 0x80 0x8F (n % 8))
  else ([none], .start)

/-- One byte. A byte that cannot continue the character ends an ill-formed run and is read
again as a first byte. -/
def feed : State → Nat → List (Option Char) × State
  | .start, n => first n
  | .inside need low high acc, n =>
      if low ≤ n ∧ n ≤ high then
        if need ≤ 1 then ([some (Char.ofNat (acc * 64 + n % 64))], .start)
        else ([], .inside (need - 1) 0x80 0xBF (acc * 64 + n % 64))
      else (none :: (first n).1, (first n).2)

/-- The characters of a byte string, with `none` for each maximal ill-formed run. -/
def scan : State → List UInt8 → List (Option Char)
  | .start, [] => []
  | .inside _ _ _ _, [] => [none]
  | st, b :: rest => (feed st b.toNat).1 ++ scan (feed st b.toNat).2 rest

/-- All the characters, or nothing if some run was ill formed. -/
def sequence : List (Option Char) → Option (List Char)
  | [] => some []
  | none :: _ => none
  | some c :: rest => (sequence rest).map (c :: ·)

/-- Strict decoding. -/
def decode (bytes : List UInt8) : Option (List Char) := sequence (scan .start bytes)

/-- Lossy decoding: one U+FFFD for each maximal ill-formed run. -/
def decodeLossy (bytes : List UInt8) : List Char :=
  (scan .start bytes).map (·.getD '\uFFFD')

/-! ## The encoder -/

@[simp] theorem encode_nil : encode [] = [] := rfl

theorem encode_cons (c : Char) (t : List Char) :
    encode (c :: t) = String.utf8EncodeChar c ++ encode t := by
  simp [encode]

theorem encodeChar_ascii {c : Char} (h : c.toNat < 128) :
    String.utf8EncodeChar c = [UInt8.ofNat c.toNat] := by
  have hv : c.val.toNat ≤ 127 := by
    show c.toNat ≤ 127
    omega
  simp only [String.utf8EncodeChar, hv, if_true]
  rfl

theorem length_encode_ascii {t : List Char} (h : ∀ c ∈ t, c.toNat < 128) :
    (encode t).length = t.length := by
  induction t with
  | nil => rfl
  | cons c t ih =>
      obtain ⟨hc, ht⟩ := List.forall_mem_cons.mp h
      rw [encode_cons, encodeChar_ascii hc, List.length_append, ih ht, List.length_singleton,
        List.length_cons, Nat.add_comm]

/-! ## The scan inverts the encoder -/

theorem scan_cons (st : State) (b : UInt8) (rest : List UInt8) :
    scan st (b :: rest) = (feed st b.toNat).1 ++ scan (feed st b.toNat).2 rest := by
  cases st <;> rfl

theorem feed_inside_last {low high acc n : Nat} (h : low ≤ n ∧ n ≤ high) :
    feed (.inside 1 low high acc) n = ([some (Char.ofNat (acc * 64 + n % 64))], .start) := by
  simp [feed, h]

theorem feed_inside_more {need low high acc n : Nat} (h : low ≤ n ∧ n ≤ high) :
    feed (.inside (need + 2) low high acc) n
      = ([], .inside (need + 1) 0x80 0xBF (acc * 64 + n % 64)) := by
  simp [feed, h]

private theorem toNat_ofNat {n : Nat} (h : n < 256) : (UInt8.ofNat n).toNat = n := by
  simp [Nat.mod_eq_of_lt h]

/-- The byte of an ASCII character stands for that character wherever it occurs. -/
theorem mem_encode_ascii {c : Char} (hc : c.toNat < 128) (t : List Char) :
    UInt8.ofNat c.toNat ∈ encode t ↔ c ∈ t := by
  have hbig : ∀ n, 128 ≤ n → n < 256 → UInt8.ofNat c.toNat ≠ UInt8.ofNat n := by
    intro n hge hlt heq
    have hnat := congrArg UInt8.toNat heq
    rw [toNat_ofNat (by omega), toNat_ofNat hlt] at hnat
    omega
  have hone : ∀ d : Char, UInt8.ofNat c.toNat ∈ String.utf8EncodeChar d ↔ c = d := by
    intro d
    by_cases hd : d.toNat < 128
    · rw [encodeChar_ascii hd, List.mem_singleton]
      constructor
      · intro heq
        have hnat := congrArg UInt8.toNat heq
        rw [toNat_ofNat (by omega), toNat_ofNat (by omega)] at hnat
        exact Char.toNat_inj.mp hnat
      · rintro rfl
        rfl
    · -- every byte of a longer encoding is 128 or more
      have hv : ¬ d.val.toNat ≤ 127 := fun hle => hd (Nat.lt_succ_of_le hle)
      have hvalid : d.val.toNat < 0x110000 := by
        rcases d.valid with hlow | ⟨-, hhigh⟩
        · exact Nat.lt_trans hlow (by omega)
        · exact hhigh
      refine iff_of_false ?_ (fun heq => hd (heq ▸ hc))
      simp only [String.utf8EncodeChar]
      rw [if_neg hv]
      split_ifs
      all_goals
        simp only [List.mem_cons, List.not_mem_nil, or_false, not_or]
      · exact ⟨hbig _ (by omega) (by omega), hbig _ (by omega) (by omega)⟩
      · exact ⟨hbig _ (by omega) (by omega), hbig _ (by omega) (by omega),
          hbig _ (by omega) (by omega)⟩
      · exact ⟨hbig _ (by omega) (by omega), hbig _ (by omega) (by omega),
          hbig _ (by omega) (by omega), hbig _ (by omega) (by omega)⟩
  induction t with
  | nil => simp
  | cons d t ih =>
      rw [encode_cons, List.mem_append, List.mem_cons]
      exact or_congr (hone d) ih

private theorem ofNat_val (c : Char) {n : Nat} (h : n = c.val.toNat) : Char.ofNat n = c := by
  subst h
  exact Char.ofNat_toNat c

/-- A scalar value is below `0xD800` or in `0xE000 .. 0x10FFFF`. -/
private theorem val_valid (c : Char) :
    c.val.toNat < 0xD800 ∨ (0xDFFF < c.val.toNat ∧ c.val.toNat < 0x110000) := by
  have h := c.valid
  simpa [UInt32.isValidChar, Nat.isValidChar] using h

/-- The first of two bytes. -/
private theorem feed_start_two {v : Nat} (hmore : 127 < v) (hless : v ≤ 2047) :
    feed .start (v / 64 % 32 + 192) = ([], .inside 1 0x80 0xBF (v / 64)) := by
  simp only [feed, first]
  rw [if_neg (by omega), if_pos (by omega)]
  congr 2
  omega

/-- The first of three bytes: the range it sets for the second one excludes overlong forms and
surrogates. -/
private theorem feed_start_three {v : Nat} (hmore : 2047 < v) (hless : v ≤ 65535)
    (hvalid : v < 0xD800 ∨ (0xDFFF < v ∧ v < 0x110000)) :
    ∃ low high, feed .start (v / 4096 % 16 + 224) = ([], .inside 2 low high (v / 4096)) ∧
      low ≤ v / 64 % 64 + 128 ∧ v / 64 % 64 + 128 ≤ high := by
  simp only [feed, first]
  rw [if_neg (by omega), if_neg (by omega)]
  by_cases hE0 : v / 4096 % 16 + 224 = 0xE0
  · refine ⟨0xA0, 0xBF, ?_, by omega, by omega⟩
    rw [if_pos hE0]
    congr 2
    omega
  by_cases hED : v / 4096 % 16 + 224 = 0xED
  · refine ⟨0x80, 0x9F, ?_, by omega, by omega⟩
    rw [if_neg hE0, if_pos hED]
    congr 2
    omega
  · refine ⟨0x80, 0xBF, ?_, by omega, by omega⟩
    rw [if_neg hE0, if_neg hED, if_pos (by omega)]
    congr 2
    omega

/-- The first of four bytes: the range it sets for the second one excludes overlong forms and
values above `0x10FFFF`. -/
private theorem feed_start_four {v : Nat} (hmore : 65535 < v) (hless : v < 0x110000) :
    ∃ low high, feed .start (v / 262144 % 8 + 240) = ([], .inside 3 low high (v / 262144)) ∧
      low ≤ v / 4096 % 64 + 128 ∧ v / 4096 % 64 + 128 ≤ high := by
  simp only [feed, first]
  rw [if_neg (by omega), if_neg (by omega), if_neg (by omega), if_neg (by omega),
    if_neg (by omega)]
  by_cases hF0 : v / 262144 % 8 + 240 = 0xF0
  · refine ⟨0x90, 0xBF, ?_, by omega, by omega⟩
    rw [if_pos hF0]
    congr 2
    omega
  by_cases hF4 : v / 262144 % 8 + 240 = 0xF4
  · refine ⟨0x80, 0x8F, ?_, by omega, by omega⟩
    rw [if_neg hF0, if_neg (by omega), if_pos hF4]
    congr 2
    omega
  · refine ⟨0x80, 0xBF, ?_, by omega, by omega⟩
    rw [if_neg hF0, if_pos (by omega)]
    congr 2
    omega

/-- One encoded character, in front of anything, is one character of the scan. The four
cases are the four encoded lengths. -/
theorem scan_encodeChar (c : Char) (rest : List UInt8) :
    scan .start (String.utf8EncodeChar c ++ rest) = some c :: scan .start rest := by
  have hvalid := val_valid c
  generalize hv : c.val.toNat = v at hvalid
  simp only [String.utf8EncodeChar, hv]
  by_cases h1 : v ≤ 127
  · rw [if_pos h1, List.singleton_append, scan_cons, toNat_ofNat (by omega)]
    simp [feed, first, h1, ofNat_val c hv.symm]
  by_cases h2 : v ≤ 2047
  · rw [if_neg h1, if_pos h2]
    simp only [List.cons_append, List.nil_append, scan_cons]
    rw [toNat_ofNat (by omega), toNat_ofNat (by omega)]
    rw [feed_start_two (by omega) h2, feed_inside_last (by omega), ofNat_val c (by omega)]
    rfl
  by_cases h3 : v ≤ 65535
  · rw [if_neg h1, if_neg h2, if_pos h3]
    simp only [List.cons_append, List.nil_append, scan_cons]
    rw [toNat_ofNat (by omega), toNat_ofNat (by omega), toNat_ofNat (by omega)]
    obtain ⟨low, high, hf, hrange⟩ := feed_start_three (by omega) h3 hvalid
    rw [hf, feed_inside_more hrange, feed_inside_last (by omega), ofNat_val c (by omega)]
    rfl
  · rw [if_neg h1, if_neg h2, if_neg h3]
    simp only [List.cons_append, List.nil_append, scan_cons]
    rw [toNat_ofNat (by omega), toNat_ofNat (by omega), toNat_ofNat (by omega),
      toNat_ofNat (by omega)]
    obtain ⟨low, high, hf, hrange⟩ := feed_start_four (v := v) (by omega) (by omega)
    rw [hf, feed_inside_more hrange, feed_inside_more (by omega), feed_inside_last (by omega),
      ofNat_val c (by omega)]
    rfl

/-- The scan of an encoded text, in front of anything. -/
theorem scan_encode (t : List Char) (rest : List UInt8) :
    scan .start (encode t ++ rest) = t.map some ++ scan .start rest := by
  induction t with
  | nil => rfl
  | cons c t ih =>
      rw [encode_cons, List.append_assoc, scan_encodeChar, ih]
      rfl

theorem sequence_map_some (t : List Char) : sequence (t.map some) = some t := by
  induction t with
  | nil => rfl
  | cons c t ih => simp [sequence, ih]

/-- Strict decoding inverts encoding. -/
theorem decode_encode (t : List Char) : decode (encode t) = some t := by
  have h := scan_encode t []
  rw [List.append_nil] at h
  rw [decode, h]
  simpa [scan] using sequence_map_some t

theorem encode_injective : Function.Injective encode := by
  intro t u h
  have hdecode := congrArg decode h
  rw [decode_encode, decode_encode, Option.some.injEq] at hdecode
  exact hdecode

/-- Lossy decoding inverts encoding. -/
theorem decodeLossy_encode (t : List Char) : decodeLossy (encode t) = t := by
  have h := scan_encode t []
  rw [List.append_nil] at h
  rw [decodeLossy, h]
  simp [scan, Function.comp_def]

/-! ## No bytes are lost silently -/

/-- A byte is emitted, or it is held. -/
theorem feed_emits (st : State) (n : Nat) : (feed st n).1 ≠ [] ∨ (feed st n).2 ≠ .start := by
  have hfirst : (first n).1 ≠ [] ∨ (first n).2 ≠ .start := by
    unfold first
    split_ifs <;> simp
  cases st with
  | start => exact hfirst
  | inside need low high acc =>
      simp only [feed]
      split_ifs
      · exact Or.inl (List.cons_ne_nil _ _)
      · exact Or.inr (by simp)
      · exact Or.inl (List.cons_ne_nil _ _)

theorem scan_ne_nil {st : State} {bytes : List UInt8} (h : st ≠ .start ∨ bytes ≠ []) :
    scan st bytes ≠ [] := by
  induction bytes generalizing st with
  | nil =>
      cases st with
      | start => exact absurd rfl (h.resolve_right (not_not.mpr rfl))
      | inside need low high acc => exact List.cons_ne_nil _ _
  | cons b rest ih =>
      rw [scan_cons]
      rcases feed_emits st b.toNat with hemit | hheld
      · exact List.append_ne_nil_of_left_ne_nil hemit _
      · exact List.append_ne_nil_of_right_ne_nil _ (ih (Or.inl hheld))

theorem decodeLossy_ne_nil {bytes : List UInt8} (h : bytes ≠ []) : decodeLossy bytes ≠ [] := by
  intro hnil
  exact scan_ne_nil (Or.inr h) (List.map_eq_nil_iff.mp hnil)

/-! ## The encoder inverts the scan -/

/-- The last byte of a character that was scanned. -/
theorem scan_inside_last {low high acc : Nat} {bytes : List UInt8} {c : Char}
    {out : List (Option Char)} (h : scan (.inside 1 low high acc) bytes = some c :: out) :
    ∃ b rest, bytes = b :: rest ∧ (low ≤ b.toNat ∧ b.toNat ≤ high) ∧
      c = Char.ofNat (acc * 64 + b.toNat % 64) ∧ scan .start rest = out := by
  cases bytes with
  | nil => simp [scan] at h
  | cons b rest =>
      rw [scan_cons] at h
      by_cases hb : low ≤ b.toNat ∧ b.toNat ≤ high
      · rw [feed_inside_last hb] at h
        obtain ⟨hc, hout⟩ := List.cons.inj h
        exact ⟨b, rest, rfl, hb, (Option.some.inj hc).symm, hout⟩
      · simp [feed, hb] at h

/-- A byte before the last. -/
theorem scan_inside_more {need low high acc : Nat} {bytes : List UInt8} {c : Char}
    {out : List (Option Char)} (h : scan (.inside (need + 2) low high acc) bytes = some c :: out) :
    ∃ b rest, bytes = b :: rest ∧ (low ≤ b.toNat ∧ b.toNat ≤ high) ∧
      scan (.inside (need + 1) 0x80 0xBF (acc * 64 + b.toNat % 64)) rest = some c :: out := by
  cases bytes with
  | nil => simp [scan] at h
  | cons b rest =>
      rw [scan_cons] at h
      by_cases hb : low ≤ b.toNat ∧ b.toNat ≤ high
      · rw [feed_inside_more hb] at h
        exact ⟨b, rest, rfl, hb, h⟩
      · simp [feed, hb] at h

/-- The value of a character is the number it was made from. -/
private theorem val_ofNat {v : Nat} (h : v < 0xD800 ∨ (0xDFFF < v ∧ v < 0x110000)) :
    (Char.ofNat v).val.toNat = v := by
  have hvalid : v.isValidChar := by simpa [Nat.isValidChar] using h
  rw [Char.ofNat, dif_pos hvalid]
  rfl

private theorem ofNat_eq {b : UInt8} {n : Nat} (h : n = b.toNat) : UInt8.ofNat n = b := by
  rw [h, UInt8.ofNat_toNat]

theorem scan_two {b : UInt8} {bytes : List UInt8} {c : Char}
    {out : List (Option Char)} (hb : 0xC2 ≤ b.toNat ∧ b.toNat ≤ 0xDF)
    (h : scan (.inside 1 0x80 0xBF (b.toNat % 32)) bytes = some c :: out) :
    ∃ rest, b :: bytes = String.utf8EncodeChar c ++ rest ∧ scan .start rest = out := by
  obtain ⟨b', rest, rfl, hb', rfl, hout⟩ := scan_inside_last h
  refine ⟨rest, ?_, hout⟩
  simp only [String.utf8EncodeChar, val_ofNat (v := b.toNat % 32 * 64 + b'.toNat % 64) (by omega)]
  rw [if_neg (by omega), if_pos (by omega), ofNat_eq (b := b) (by omega),
    ofNat_eq (b := b') (by omega)]
  rfl

theorem scan_three {low high : Nat} {b : UInt8} {bytes : List UInt8} {c : Char}
    {out : List (Option Char)} (hb : 0xE0 ≤ b.toNat ∧ b.toNat ≤ 0xEF)
    (hlow : 0x80 ≤ low ∧ (b.toNat = 0xE0 → 0xA0 ≤ low))
    (hhigh : high ≤ 0xBF ∧ (b.toNat = 0xED → high ≤ 0x9F))
    (h : scan (.inside 2 low high (b.toNat % 16)) bytes = some c :: out) :
    ∃ rest, b :: bytes = String.utf8EncodeChar c ++ rest ∧ scan .start rest = out := by
  obtain ⟨b', bytes', rfl, hb', h⟩ := scan_inside_more h
  obtain ⟨b'', rest, rfl, hb'', rfl, hout⟩ := scan_inside_last h
  refine ⟨rest, ?_, hout⟩
  simp only [String.utf8EncodeChar,
    val_ofNat (v := (b.toNat % 16 * 64 + b'.toNat % 64) * 64 + b''.toNat % 64) (by omega)]
  rw [if_neg (by omega), if_neg (by omega), if_pos (by omega), ofNat_eq (b := b) (by omega),
    ofNat_eq (b := b') (by omega), ofNat_eq (b := b'') (by omega)]
  rfl

theorem scan_four {low high : Nat} {b : UInt8} {bytes : List UInt8} {c : Char}
    {out : List (Option Char)} (hb : 0xF0 ≤ b.toNat ∧ b.toNat ≤ 0xF4)
    (hlow : 0x80 ≤ low ∧ (b.toNat = 0xF0 → 0x90 ≤ low))
    (hhigh : high ≤ 0xBF ∧ (b.toNat = 0xF4 → high ≤ 0x8F))
    (h : scan (.inside 3 low high (b.toNat % 8)) bytes = some c :: out) :
    ∃ rest, b :: bytes = String.utf8EncodeChar c ++ rest ∧ scan .start rest = out := by
  obtain ⟨b', bytes', rfl, hb', h⟩ := scan_inside_more h
  obtain ⟨b'', bytes'', rfl, hb'', h⟩ := scan_inside_more h
  obtain ⟨b3, rest, rfl, hb3, rfl, hout⟩ := scan_inside_last h
  refine ⟨rest, ?_, hout⟩
  simp only [String.utf8EncodeChar, val_ofNat
    (v := ((b.toNat % 8 * 64 + b'.toNat % 64) * 64 + b''.toNat % 64) * 64 + b3.toNat % 64)
    (by omega)]
  rw [if_neg (by omega), if_neg (by omega), if_neg (by omega), ofNat_eq (b := b) (by omega),
    ofNat_eq (b := b') (by omega), ofNat_eq (b := b'') (by omega), ofNat_eq (b := b3) (by omega)]
  rfl

theorem exists_of_scan {bytes : List UInt8} {c : Char} {out : List (Option Char)}
    (h : scan .start bytes = some c :: out) :
    ∃ rest, bytes = String.utf8EncodeChar c ++ rest ∧ scan .start rest = out := by
  cases bytes with
  | nil => simp [scan] at h
  | cons b rest =>
      rw [scan_cons] at h
      unfold feed first at h
      dsimp only at h
      split_ifs at h with h1 h2 h3 h4 h5 h6 h7 h8
      · obtain ⟨hc, hout⟩ := List.cons.inj h
        refine ⟨rest, ?_, hout⟩
        rw [← Option.some.inj hc]
        simp only [String.utf8EncodeChar, val_ofNat (v := b.toNat) (by omega)]
        rw [if_pos h1, UInt8.ofNat_toNat]
        rfl
      · exact scan_two h2 h
      · exact scan_three (by omega) (by omega) (by omega) h
      · exact scan_three (by omega) (by omega) (by omega) h
      · exact scan_three (by omega) (by omega) (by omega) h
      · exact scan_four (by omega) (by omega) (by omega) h
      · exact scan_four (by omega) (by omega) (by omega) h
      · exact scan_four (by omega) (by omega) (by omega) h
      · simp at h

/-- Encoding inverts strict decoding. -/
theorem encode_of_decode {bytes : List UInt8} {t : List Char} (h : decode bytes = some t) :
    encode t = bytes := by
  unfold decode at h
  induction t generalizing bytes with
  | nil =>
      by_contra hne
      have hscan : scan .start bytes ≠ [] := scan_ne_nil (Or.inr fun hnil => hne hnil.symm)
      cases hout : scan .start bytes with
      | nil => exact hscan hout
      | cons r out =>
          rw [hout] at h
          cases r <;> simp [sequence] at h
  | cons c t ih =>
      cases hout : scan .start bytes with
      | nil => simp [hout, sequence] at h
      | cons r out =>
          rw [hout] at h
          cases r with
          | none => simp [sequence] at h
          | some d =>
              obtain ⟨t', hseq, heq⟩ := Option.map_eq_some_iff.mp h
              obtain ⟨rfl, rfl⟩ := List.cons.inj heq
              obtain ⟨rest, rfl, rfl⟩ := exists_of_scan hout
              rw [encode_cons, ih hseq]

/-! ## No characters are made up -/

/-- The run that is being read ends in one character more. -/
def State.owed : State → Nat
  | .start => 0
  | .inside _ _ _ _ => 1

theorem length_feed_le (st : State) (n : Nat) :
    (feed st n).1.length + (feed st n).2.owed ≤ st.owed + 1 := by
  have hfirst : (first n).1.length + (first n).2.owed ≤ 1 := by
    unfold first
    split_ifs <;> simp [State.owed]
  cases st with
  | start => exact hfirst
  | inside need low high acc =>
      simp only [feed]
      split_ifs
      · simp [State.owed]
      · simp [State.owed]
      · simp only [List.length_cons, State.owed] at hfirst ⊢
        omega

theorem length_scan_le (st : State) (bytes : List UInt8) :
    (scan st bytes).length ≤ st.owed + bytes.length := by
  induction bytes generalizing st with
  | nil => cases st <;> simp [scan, State.owed]
  | cons b rest ih =>
      rw [scan_cons, List.length_append, List.length_cons]
      have hfeed := length_feed_le st b.toNat
      have hrest := ih (feed st b.toNat).2
      omega

/-- The lossy reading has at most one character for each byte. -/
theorem length_decodeLossy_le (bytes : List UInt8) : (decodeLossy bytes).length ≤ bytes.length := by
  have hscan := length_scan_le .start bytes
  rw [State.owed, Nat.zero_add] at hscan
  rwa [decodeLossy, List.length_map]

/-! ## Texts whose bytes were cut -/

/-- What is read of a text whose bytes end early: a part of it, and U+FFFD where the cut falls
inside a character. -/
def Cut (t read : List Char) : Prop :=
  ∃ kept rest, t = kept ++ rest ∧ rest ≠ [] ∧
    (read = kept ∨ read = kept ++ ['\uFFFD'] ∧ ∃ c ∈ rest.head?, 128 ≤ c.toNat)

/-- Some but not all of the bytes of a character are one ill-formed run. -/
theorem scan_encodeChar_take (c : Char) {k : Nat} (hpos : 0 < k)
    (hlt : k < (String.utf8EncodeChar c).length) :
    128 ≤ c.toNat ∧ scan .start ((String.utf8EncodeChar c).take k) = [none] := by
  have hvalid := val_valid c
  have hnat : c.toNat = c.val.toNat := rfl
  rw [hnat]
  generalize hv : c.val.toNat = v at hvalid
  simp only [String.utf8EncodeChar, hv] at hlt ⊢
  by_cases h1 : v ≤ 127
  · rw [if_pos h1, List.length_singleton] at hlt
    omega
  by_cases h2 : v ≤ 2047
  · rw [if_neg h1, if_pos h2] at hlt ⊢
    obtain rfl : k = 1 := by
      simp only [List.length_cons, List.length_nil] at hlt
      omega
    refine ⟨by omega, ?_⟩
    simp only [List.take_succ_cons, List.take_zero, scan_cons]
    rw [toNat_ofNat (by omega), feed_start_two (by omega) h2]
    rfl
  by_cases h3 : v ≤ 65535
  · rw [if_neg h1, if_neg h2, if_pos h3] at hlt ⊢
    obtain ⟨low, high, hf, hrange⟩ := feed_start_three (by omega) h3 hvalid
    have hk : k = 1 ∨ k = 2 := by
      simp only [List.length_cons, List.length_nil] at hlt
      omega
    refine ⟨by omega, ?_⟩
    rcases hk with rfl | rfl
    · simp only [List.take_succ_cons, List.take_zero, scan_cons]
      rw [toNat_ofNat (by omega), hf]
      rfl
    · simp only [List.take_succ_cons, List.take_zero, scan_cons]
      rw [toNat_ofNat (by omega), toNat_ofNat (by omega), hf, feed_inside_more hrange]
      rfl
  · rw [if_neg h1, if_neg h2, if_neg h3] at hlt ⊢
    obtain ⟨low, high, hf, hrange⟩ := feed_start_four (v := v) (by omega) (by omega)
    have hk : k = 1 ∨ k = 2 ∨ k = 3 := by
      simp only [List.length_cons, List.length_nil] at hlt
      omega
    refine ⟨by omega, ?_⟩
    rcases hk with rfl | rfl | rfl
    · simp only [List.take_succ_cons, List.take_zero, scan_cons]
      rw [toNat_ofNat (by omega), hf]
      rfl
    · simp only [List.take_succ_cons, List.take_zero, scan_cons]
      rw [toNat_ofNat (by omega), toNat_ofNat (by omega), hf, feed_inside_more hrange]
      rfl
    · simp only [List.take_succ_cons, List.take_zero, scan_cons]
      rw [toNat_ofNat (by omega), toNat_ofNat (by omega), toNat_ofNat (by omega), hf,
        feed_inside_more hrange, feed_inside_more (by omega)]
      rfl

/-- **Lossy decoding of a text whose bytes end early.** -/
theorem cut_decodeLossy (t : List Char) {k : Nat} (h : k < (encode t).length) :
    Cut t (decodeLossy ((encode t).take k)) := by
  induction t generalizing k with
  | nil => cases h
  | cons c t ih =>
      rw [encode_cons, List.length_append] at h
      rw [encode_cons, List.take_append, decodeLossy]
      by_cases hk : k < (String.utf8EncodeChar c).length
      · have hnone : k - (String.utf8EncodeChar c).length = 0 := by omega
        rw [hnone, List.take_zero, List.append_nil]
        rcases Nat.eq_zero_or_pos k with rfl | hpos
        · exact ⟨[], c :: t, rfl, List.cons_ne_nil _ _, Or.inl rfl⟩
        · obtain ⟨hc, hscan⟩ := scan_encodeChar_take c hpos hk
          rw [hscan]
          exact ⟨[], c :: t, rfl, List.cons_ne_nil _ _, Or.inr ⟨rfl, c, rfl, hc⟩⟩
      · rw [List.take_of_length_le (by omega), scan_encodeChar]
        obtain ⟨kept, rest, ht, hrest, hread⟩ := ih (k := k - (String.utf8EncodeChar c).length)
          (by omega)
        rw [decodeLossy] at hread
        refine ⟨c :: kept, rest, by rw [ht]; rfl, hrest, ?_⟩
        rcases hread with hread | ⟨hread, hc⟩
        · exact Or.inl (by rw [List.map_cons, hread]; rfl)
        · exact Or.inr ⟨by rw [List.map_cons, hread]; rfl, hc⟩

theorem Cut.exists_append {t read : List Char} (h : Cut t read) (hascii : ∀ c ∈ t, c.toNat < 128) :
    ∃ rest, t = read ++ rest := by
  obtain ⟨kept, rest, rfl, -, rfl | ⟨rfl, c, hc, hwide⟩⟩ := h
  · exact ⟨rest, rfl⟩
  · have hlt := hascii c (List.mem_append_right kept (List.mem_of_mem_head? hc))
    omega

/-- **A cut falls in one piece.** The pieces in front of it are whole, and the piece it falls in
is cut in turn, unless the cut falls right behind it. -/
theorem Cut.splitOn {sep : Char} (hsep : sep.toNat < 128) {t read : List Char} (h : Cut t read) :
    ∃ whole last rest piece, t.splitOn sep = whole ++ last :: rest ∧
      read.splitOn sep = whole ++ [piece] ∧ (piece = last ∧ rest ≠ [] ∨ Cut last piece) := by
  -- what was kept is split as before, but for the piece that the cut runs through
  obtain ⟨kept, tail, rfl, htail, hread⟩ := h
  obtain ⟨whole, piece, hkept, happend⟩ := splitOn_append sep kept
  obtain ⟨rest, hrest⟩ := splitOn_eq_takeWhile_cons sep tail
  have hsplit := happend tail _ _ hrest
  obtain ⟨c, tail', rfl⟩ := List.exists_cons_of_ne_nil htail
  rcases hread with rfl | ⟨rfl, c', hc', hwide⟩
  · refine ⟨whole, _, rest, piece, hsplit, hkept, ?_⟩
    by_cases hc : c = sep
    · refine Or.inl ⟨?_, ?_⟩
      · rw [List.takeWhile_cons_of_neg (by simp [hc]), List.append_nil]
      · rintro rfl
        rw [hc, List.splitOn, List.splitOnP_cons_eq_if_modifyHead, if_pos (beq_self_eq_true sep)]
          at hrest
        exact List.splitOnP_ne_nil _ _ (List.cons.inj hrest).2
    · refine Or.inr ⟨piece, _, rfl, ?_, Or.inl rfl⟩
      rw [List.takeWhile_cons_of_pos (by simpa using hc)]
      exact List.cons_ne_nil _ _
  · obtain rfl : c = c' := Option.some.inj hc'
    have hc : c ≠ sep := by
      rintro rfl
      omega
    have hmark : '\uFFFD' ≠ sep := by
      rintro rfl
      exact absurd hsep (by decide)
    have hread := happend ['\uFFFD'] _ _ (List.splitOn_eq_singleton (by simpa using hmark.symm))
    refine ⟨whole, _, rest, _, hsplit, hread, Or.inr ⟨piece, _, rfl, ?_, Or.inr ?_⟩⟩
    · rw [List.takeWhile_cons_of_pos (by simpa using hc)]
      exact List.cons_ne_nil _ _
    · rw [List.takeWhile_cons_of_pos (by simpa using hc)]
      exact ⟨rfl, c, rfl, hwide⟩

end Osfacts.Utf8
