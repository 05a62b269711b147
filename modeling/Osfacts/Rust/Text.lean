import Osfacts.Basic.Utf8
import Osfacts.Basic.Decimal
import Osfacts.Basic.Delimited
import Mathlib.Data.List.DropRight
import Mathlib.Data.List.Forall2

set_option autoImplicit false

/-! # The parts of Rust's standard library the sensors use

Strings are lists of Unicode scalar values, `OsString`s and file contents are lists of
bytes. Machine integers keep their width; the arithmetic that wraps, saturates or is
checked in the source is spelled out here. An `Errno` is the `i32` the source carries.
-/

namespace Osfacts

abbrev Text := List Char
abbrev Bytes := List UInt8
abbrev Errno := Int
abbrev Pid := UInt32

/-! ## Errno constants (`libc`) -/

/-- The constants whose numbers are the platform's. -/
class Libc where
  EOVERFLOW : Errno
  ENOTSUP : Errno

namespace Libc

def EPERM : Errno := 1
def ENOENT : Errno := 2
def ESRCH : Errno := 3
def EIO : Errno := 5
def EACCES : Errno := 13
def EINVAL : Errno := 22

end Libc

/-- The bytes of an ASCII literal, `b"..."`. -/
def ascii (s : String) : Bytes := s.toList.map (fun c => UInt8.ofNat c.toNat)

/-! ## `str` -/

/-- `char::is_whitespace`: the Unicode property White_Space. -/
def isWhitespace (c : Char) : Bool :=
  let n := c.toNat
  (0x9 ≤ n && n ≤ 0xD) || n == 0x20 || n == 0x85 || n == 0xA0 || n == 0x1680 ||
    (0x2000 ≤ n && n ≤ 0x200A) || n == 0x2028 || n == 0x2029 || n == 0x202F ||
    n == 0x205F || n == 0x3000

/-- `str::split_whitespace`. -/
def splitWhitespace (t : Text) : List Text := fields isWhitespace t

/-- `str::trim`. -/
def trim (t : Text) : Text := (t.dropWhile isWhitespace).rdropWhile isWhitespace

/-- `str::strip_prefix`. -/
def stripPrefix (pre t : Text) : Option Text :=
  if pre.isPrefixOf t then some (t.drop pre.length) else none

/-- `str::strip_suffix` on one character. -/
def stripSuffix (c : Char) (t : Text) : Option Text :=
  if t.getLast? = some c then some t.dropLast else none

/-- The pieces between line feeds, as `str::lines` presents them: a carriage return in
front of a line feed belongs to the line ending, and an empty last piece is no line. -/
def linePieces : List Text → List Text
  | [] => []
  | [last] => if last.isEmpty then [] else [last]
  | piece :: rest => (stripSuffix '\r' piece).getD piece :: linePieces rest

/-- `str::lines`. -/
def lines (t : Text) : List Text := linePieces (t.splitOn '\n')

/-- `str::contains` on a pattern that is a string. -/
def containsText (t pattern : Text) : Bool := t.tails.any pattern.isPrefixOf

/-- `str::find` on a character, as an index into the text. -/
def find (c : Char) (t : Text) : Option Nat := t.findIdx? (· == c)

/-- `str::rfind` on a character, as an index into the text. -/
def rfind (c : Char) (t : Text) : Option Nat :=
  (t.reverse.findIdx? (· == c)).map (fun i => t.length - 1 - i)

/-- `str::split_once` on a character. -/
def splitOnce (c : Char) (t : Text) : Option (Text × Text) :=
  (find c t).map (fun i => (t.take i, t.drop (i + 1)))

/-- `str::split` on an empty line, `"\n\n"`. -/
def splitOnEmptyLine : Text → List Text
  | '\n' :: '\n' :: t => [] :: splitOnEmptyLine t
  | c :: t => (splitOnEmptyLine t).modifyHead (c :: ·)
  | [] => [[]]

/-- `str::rsplit_once` on a character. -/
def rsplitOnce (c : Char) (t : Text) : Option (Text × Text) :=
  (rfind c t).map (fun i => (t.take i, t.drop (i + 1)))

/-- `str::parse::<u32>`: an optional `+`, then decimal digits, in range. -/
def parseU32 (t : Text) : Option UInt32 :=
  (Decimal.readUnsigned (2 ^ 32) t).map UInt32.ofNat

/-- `str::parse::<u64>`. -/
def parseU64 (t : Text) : Option UInt64 :=
  (Decimal.readUnsigned (2 ^ 64) t).map UInt64.ofNat

/-- `str::parse::<i32>`. -/
def parseI32 (t : Text) : Option Int32 := (Decimal.readSigned (2 ^ 31) t).map Int32.ofInt

/-- The value of a hexadecimal digit of either case. -/
def hexDigit (c : Char) : Option Nat :=
  if '0' ≤ c ∧ c ≤ '9' then some (c.toNat - '0'.toNat)
  else if 'a' ≤ c ∧ c ≤ 'f' then some (c.toNat - 'a'.toNat + 10)
  else if 'A' ≤ c ∧ c ≤ 'F' then some (c.toNat - 'A'.toNat + 10)
  else none

/-- The value of a text of hexadecimal digits. -/
def hexValue : Nat → Text → Option Nat
  | acc, [] => some acc
  | acc, c :: rest => (hexDigit c).bind (fun d => hexValue (acc * 16 + d) rest)

/-- `u16::from_str_radix(_, 16)`: an optional `+`, then hexadecimal digits, in range. -/
def parseHexU16 (t : Text) : Option UInt16 :=
  let digits := if t.head? = some '+' then t.tail else t
  if digits.isEmpty then none
  else (hexValue 0 digits).bind (fun n => if n < 2 ^ 16 then some (UInt16.ofNat n) else none)

/-! ## `String` from bytes -/

/-- `String::from_utf8` and `read_to_string`, up to the error. -/
def fromUtf8 (bytes : Bytes) : Option Text := Utf8.decode bytes

/-- `String::from_utf8_lossy`, `OsStr::to_string_lossy`, `Path::to_string_lossy`. -/
def fromUtf8Lossy (bytes : Bytes) : Text := Utf8.decodeLossy bytes

/-! ## `u64` arithmetic -/

/-- `u64::checked_mul`. -/
def checkedMul (a b : UInt64) : Option UInt64 :=
  if a.toNat * b.toNat < 2 ^ 64 then some (a * b) else none

/-- `u64::saturating_mul`. -/
def saturatingMul (a b : UInt64) : UInt64 := UInt64.ofNat (min (a.toNat * b.toNat) (2 ^ 64 - 1))

/-- `u64::saturating_add`. -/
def saturatingAdd (a b : UInt64) : UInt64 := UInt64.ofNat (min (a.toNat + b.toNat) (2 ^ 64 - 1))

/-- `u64::saturating_sub`. -/
def saturatingSub (a b : UInt64) : UInt64 := UInt64.ofNat (a.toNat - b.toNat)

/-! ## Microseconds -/

theorem toNat_million : (1000000 : UInt64).toNat = 10 ^ 6 := by decide

theorem toNat_saturatingMul (a b : UInt64) :
    (saturatingMul a b).toNat = min (a.toNat * b.toNat) (2 ^ 64 - 1) :=
  UInt64.toNat_ofNat_of_lt' (lt_of_le_of_lt (min_le_right _ _) (by decide))

/-- A product that fits does not saturate. -/
theorem toNat_micros {n : UInt64} (h : n.toNat * 10 ^ 6 < 2 ^ 64) :
    (saturatingMul n 1000000).toNat = n.toNat * 10 ^ 6 := by
  rw [toNat_saturatingMul, toNat_million]
  omega

/-! ## `Result` -/

/-- A chain of `?` that succeeds, one step at a time. -/
theorem bind_ok_iff {ε α β : Type} {x : Except ε α} {f : α → Except ε β} {b : β} :
    (x >>= f) = .ok b ↔ ∃ a, x = .ok a ∧ f a = .ok b := by
  cases x with
  | error e =>
      constructor
      · intro h
        cases h
      · rintro ⟨a, h, -⟩
        cases h
  | ok a =>
      constructor
      · exact fun h => ⟨a, rfl, h⟩
      · rintro ⟨a', h, hb⟩
        cases h
        exact hb

/-- A step that succeeded. -/
theorem ok_bind {ε α β : Type} (a : α) (f : α → Except ε β) : (Except.ok a >>= f) = f a := rfl

/-- A step that failed. -/
theorem error_bind {ε α β : Type} (e : ε) (f : α → Except ε β) :
    ((Except.error e : Except ε α) >>= f) = .error e := rfl

/-! ## Loops with `?` -/

/-- A loop succeeds when every element does. -/
theorem mapM_ok_iff {ε α β : Type} {f : α → Except ε β} {l : List α} {bs : List β} :
    l.mapM f = .ok bs ↔ List.Forall₂ (fun a b => f a = .ok b) l bs := by
  induction l generalizing bs with
  | nil =>
      rw [List.forall₂_nil_left_iff]
      exact ⟨fun h => (Except.ok.inj h).symm, fun h => h ▸ rfl⟩
  | cons a l ih =>
      rw [List.mapM_cons, bind_ok_iff, List.forall₂_cons_left_iff]
      constructor
      · rintro ⟨b, hb, hrest⟩
        obtain ⟨bs', hbs', hpure⟩ := bind_ok_iff.mp hrest
        exact ⟨b, bs', hb, ih.mp hbs', (Except.ok.inj hpure).symm⟩
      · rintro ⟨b, bs', hb, hbs', rfl⟩
        exact ⟨b, hb, bind_ok_iff.mpr ⟨bs', ih.mpr hbs', rfl⟩⟩

theorem mapM_some_iff {α β : Type} {f : α → Option β} {l : List α} {bs : List β} :
    l.mapM f = some bs ↔ List.Forall₂ (fun a b => f a = some b) l bs := by
  induction l generalizing bs with
  | nil =>
      rw [List.forall₂_nil_left_iff]
      exact ⟨fun h => (Option.some.inj h).symm, fun h => h ▸ rfl⟩
  | cons a l ih =>
      rw [List.mapM_cons, Option.bind_eq_bind, Option.bind_eq_some_iff,
        List.forall₂_cons_left_iff]
      constructor
      · rintro ⟨b, hb, hrest⟩
        obtain ⟨bs', hbs', hpure⟩ := Option.bind_eq_some_iff.mp hrest
        exact ⟨b, bs', hb, ih.mp hbs', (Option.some.inj hpure).symm⟩
      · rintro ⟨b, bs', hb, hbs', rfl⟩
        exact ⟨b, hb, Option.bind_eq_some_iff.mpr ⟨bs', ih.mpr hbs', rfl⟩⟩

theorem exists_mapM_ok {ε α β : Type} {f : α → Except ε β} {l : List α}
    (h : ∀ a ∈ l, ∃ b, f a = .ok b) : ∃ bs, l.mapM f = .ok bs := by
  induction l with
  | nil => exact ⟨[], rfl⟩
  | cons a l ih =>
      obtain ⟨hfirst, hrest⟩ := List.forall_mem_cons.mp h
      obtain ⟨b, hb⟩ := hfirst
      obtain ⟨bs, hbs⟩ := ih hrest
      exact ⟨b :: bs, mapM_ok_iff.mpr (List.Forall₂.cons hb (mapM_ok_iff.mp hbs))⟩

/-! ## What a token cannot contain -/

theorem not_whitespace_of_mem_token {t token : Text} {c : Char}
    (ht : token ∈ splitWhitespace t) (hc : c ∈ token) : isWhitespace c = false :=
  not_of_mem_fields ht c hc

/-! ## Lines -/

/-- Lines that end in no carriage return come back as they were written. -/
theorem lines_terminated {rows : List Text} (h : ∀ row ∈ rows, '\n' ∉ row ∧ '\r' ∉ row) :
    lines (terminated '\n' rows) = rows := by
  rw [lines, splitOn_terminated (fun row hrow => (h row hrow).1)]
  induction rows with
  | nil => rfl
  | cons row rows ih =>
      have hstrip : stripSuffix '\r' row = none := by
        rw [stripSuffix, if_neg]
        exact fun hlast => (h row (by simp)).2 (List.mem_of_getLast? hlast)
      have hrest := ih (fun r hr => h r (by simp [hr]))
      have hcons : linePieces (row :: (rows ++ [[]]))
          = (stripSuffix '\r' row).getD row :: linePieces (rows ++ [[]]) := by
        cases rows <;> rfl
      rw [List.cons_append, hcons, hrest, hstrip, Option.getD_none]

/-! ## The first and the last delimiter -/

theorem findIdx_of_not_mem {c : Char} {t : Text} (h : c ∉ t) : t.findIdx? (· == c) = none := by
  rw [List.findIdx?_eq_none_iff]
  intro d hd
  have hne : d ≠ c := fun heq => h (heq ▸ hd)
  simpa using hne

/-- What stands behind the delimiter. -/
theorem drop_append_cons (c : Char) (t rest : Text) :
    (t ++ c :: rest).drop (t.length + 1) = rest := by
  rw [← List.drop_drop, List.drop_left]
  rfl

theorem find_append_cons {c : Char} {t : Text} (rest : Text) (h : c ∉ t) :
    find c (t ++ c :: rest) = some t.length := by
  rw [find, List.findIdx?_append, findIdx_of_not_mem h, List.findIdx?_cons]
  simp

theorem rfind_append_cons {c : Char} (t : Text) {rest : Text} (h : c ∉ rest) :
    rfind c (t ++ c :: rest) = some t.length := by
  have hfirst : (rest.reverse ++ c :: t.reverse).findIdx? (· == c) = some rest.length := by
    have hnone : c ∉ rest.reverse := fun hc => h (List.mem_reverse.mp hc)
    rw [List.findIdx?_append, findIdx_of_not_mem hnone, List.findIdx?_cons]
    simp
  rw [rfind, List.reverse_append, List.reverse_cons, List.append_assoc, List.singleton_append,
    hfirst, Option.map_some, List.length_append, List.length_cons]
  congr 1
  omega

theorem splitOnce_append_cons {c : Char} {t : Text} (rest : Text) (h : c ∉ t) :
    splitOnce c (t ++ c :: rest) = some (t, rest) := by
  rw [splitOnce, find_append_cons rest h, Option.map_some, List.take_left, drop_append_cons]

theorem splitOnce_of_not_mem {c : Char} {t : Text} (h : c ∉ t) : splitOnce c t = none := by
  rw [splitOnce, find, findIdx_of_not_mem h, Option.map_none]

theorem rsplitOnce_append_cons {c : Char} (t : Text) {rest : Text} (h : c ∉ rest) :
    rsplitOnce c (t ++ c :: rest) = some (t, rest) := by
  rw [rsplitOnce, rfind_append_cons t h, Option.map_some, List.take_left, drop_append_cons]

/-! ## Numerals -/

theorem not_isWhitespace_of_isDigit {c : Char} (h : c.isDigit = true) : isWhitespace c = false := by
  have hrange : 48 ≤ c.toNat ∧ c.toNat ≤ 57 := Char.isDigit_iff_toNat.mp h
  simp only [isWhitespace, Bool.or_eq_false_iff, Bool.and_eq_false_iff, decide_eq_false_iff_not,
    beq_eq_false_iff_ne]
  omega

theorem parseU32_decimal (n : UInt32) : parseU32 (Decimal.decimal n.toNat) = some n := by
  rw [parseU32, Decimal.readUnsigned_decimal n.toNat_lt, Option.map_some, UInt32.ofNat_toNat]

theorem parseU64_decimal (n : UInt64) : parseU64 (Decimal.decimal n.toNat) = some n := by
  rw [parseU64, Decimal.readUnsigned_decimal n.toNat_lt, Option.map_some, UInt64.ofNat_toNat]

theorem parseU64_some {t : Text} {n : UInt64} (h : parseU64 t = some n)
    (hsign : t.head? ≠ some '+') : Decimal.isNumeral t = true ∧ Decimal.value t = n.toNat := by
  obtain ⟨m, hread, rfl⟩ := Option.map_eq_some_iff.mp h
  obtain ⟨hnumeral, hvalue, hlt⟩ := Decimal.readUnsigned_some hread hsign
  exact ⟨hnumeral, hvalue.trans (UInt64.toNat_ofNat_of_lt' hlt).symm⟩

theorem lossy_of_text (t : Text) : fromUtf8Lossy (Utf8.encode t) = t :=
  Utf8.decodeLossy_encode t

end Osfacts
