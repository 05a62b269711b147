import Osfacts.Rust.Text

set_option autoImplicit false

/-! # JSON strings

The sensors write strings and string arrays with `serde_json` and the client reads them with
`JSON.parse`. Both libraries enter as one record of functions, `JsonLib`, with what the two
sides rely on in `JsonLib.Lawful`; `JsonLib.standard` is a concrete pair that satisfies it.
`JSON.stringify`, which the client uses in two messages, is written out.
-/

namespace Osfacts

/-- What `JSON.parse` returns, as far as the client looks at it. -/
inductive JsonValue where
  | string (t : Text)
  | array (items : List JsonValue)
  | other

/-- The string a value is, if it is one. -/
def JsonValue.asString : JsonValue → Option Text
  | .string t => some t
  | _ => none

/-- The strings an array holds, if it holds nothing else. -/
def JsonValue.asStrings : JsonValue → Option (List Text)
  | .array items => items.mapM JsonValue.asString
  | _ => none

theorem JsonValue.asStrings_map_string (ts : List Text) :
    (JsonValue.array (ts.map .string)).asStrings = some ts := by
  induction ts with
  | nil => rfl
  | cons t ts ih =>
      simp only [asStrings, List.map_cons, List.mapM_cons] at ih ⊢
      rw [ih]
      rfl

/-- The JSON functions of the two languages: `serde_json::to_string` on a string and on a
slice of strings, and `JSON.parse`, which is `none` where it throws. -/
structure JsonLib where
  toString : Text → Text
  toStrings : List Text → Text
  parse : Text → Option JsonValue

/-- What is relied on: control characters are escaped, and parsing inverts printing. -/
structure JsonLib.Lawful (J : JsonLib) : Prop where
  toString_escapes : ∀ t, ∀ c ∈ J.toString t, 0x20 ≤ c.toNat
  toStrings_escapes : ∀ ts, ∀ c ∈ J.toStrings ts, 0x20 ≤ c.toNat
  parse_toString : ∀ t, J.parse (J.toString t) = some (.string t)
  parse_toStrings : ∀ ts, J.parse (J.toStrings ts) = some (.array (ts.map .string))

namespace Json

/-! ## Escapes -/

/-- A hexadecimal digit, in lower case. -/
def hexChar (n : Nat) : Char := if n < 10 then Char.ofNat (48 + n) else Char.ofNat (87 + n)

/-- `\uXXXX`. -/
def unicodeEscape (n : Nat) : Text :=
  ['\\', 'u', hexChar (n / 4096 % 16), hexChar (n / 256 % 16), hexChar (n / 16 % 16),
    hexChar (n % 16)]

/-- One character of a string literal. -/
def escape (c : Char) : Text :=
  if c = '"' then ['\\', '"']
  else if c = '\\' then ['\\', '\\']
  else if c = '\n' then ['\\', 'n']
  else if c = '\r' then ['\\', 'r']
  else if c = '\t' then ['\\', 't']
  else if c = '\x08' then ['\\', 'b']
  else if c = '\x0c' then ['\\', 'f']
  else if c.toNat < 0x20 then unicodeEscape c.toNat
  else [c]

/-- `JSON.stringify` on a string. -/
def stringify (t : Text) : Text := '"' :: t.flatMap escape ++ ['"']

/-- The escapes of the first `n` UTF-16 units. A character of two units that straddles the
end leaves its first unit behind, which is printed as an escape. -/
def escapeUnits : Nat → Text → Text
  | 0, _ => []
  | _, [] => []
  | n + 1, c :: t =>
      if c.toNat < 0x10000 then escape c ++ escapeUnits n t
      else match n with
        | 0 => unicodeEscape (0xD800 + (c.toNat - 0x10000) / 0x400)
        | m + 1 => escape c ++ escapeUnits m t

/-- `JSON.stringify(t.slice(0, n))`. -/
def stringifySlice (n : Nat) (t : Text) : Text := '"' :: escapeUnits n t ++ ['"']

/-! ## A reader for string literals and arrays of them -/

/-- The value of a hexadecimal digit in lower case. -/
def hexVal (c : Char) : Option Nat :=
  if '0' ≤ c ∧ c ≤ '9' then some (c.toNat - 48)
  else if 'a' ≤ c ∧ c ≤ 'f' then some (c.toNat - 87)
  else none

/-- The body of a string literal up to its closing quote, and what follows. -/
def readBody : Text → Option (Text × Text)
  | [] => none
  | '"' :: rest => some ([], rest)
  | '\\' :: 'u' :: a :: b :: c :: d :: rest =>
      match hexVal a, hexVal b, hexVal c, hexVal d with
      | some a, some b, some c, some d =>
          (readBody rest).map
            (fun p => (Char.ofNat (((a * 16 + b) * 16 + c) * 16 + d) :: p.1, p.2))
      | _, _, _, _ => none
  | '\\' :: e :: rest =>
      let plain := fun c => (readBody rest).map (fun p => (c :: p.1, p.2))
      match e with
      | '"' => plain '"'
      | '\\' => plain '\\'
      | 'n' => plain '\n'
      | 'r' => plain '\r'
      | 't' => plain '\t'
      | 'b' => plain '\x08'
      | 'f' => plain '\x0c'
      | _ => none
  | c :: rest => (readBody rest).map (fun p => (c :: p.1, p.2))

/-- The elements of an array after the first, and the closing bracket. `fuel` bounds their
number. -/
def readTail : Nat → Text → Option (List JsonValue)
  | _, [']'] => some []
  | fuel + 1, ',' :: '"' :: rest =>
      match readBody rest with
      | some (t, rest) => (readTail fuel rest).map (JsonValue.string t :: ·)
      | none => none
  | _, _ => none

/-- A reader for string literals and arrays of string literals. Every other text is not
read. -/
def read : Text → Option JsonValue
  | ['[', ']'] => some (.array [])
  | '[' :: '"' :: rest =>
      match readBody rest with
      | some (t, rest) => (readTail rest.length rest).map (fun ts => .array (.string t :: ts))
      | none => none
  | '"' :: rest =>
      match readBody rest with
      | some (t, []) => some (.string t)
      | _ => none
  | _ => none

/-- An array of string literals, without blanks. -/
def stringifyAll : List Text → Text
  | [] => ['[', ']']
  | t :: ts => '[' :: stringify t ++ ts.flatMap (fun t => ',' :: stringify t) ++ [']']

/-! ## Printing escapes, reading inverts printing -/

theorem hexVal_hexChar : ∀ d, d < 16 → hexVal (hexChar d) = some d := by decide

theorem le_toNat_hexChar : ∀ d, d < 16 → 0x20 ≤ (hexChar d).toNat := by decide

/-- What `escape` can print: two plain characters, a `\u` escape, or the character. -/
theorem escape_cases (c : Char) :
    (∃ e : Char, 0x20 ≤ e.toNat ∧ escape c = ['\\', e] ∧
      ∀ rest, readBody ('\\' :: e :: rest) = (readBody rest).map (fun p => (c :: p.1, p.2))) ∨
    (c.toNat < 0x20 ∧ escape c = unicodeEscape c.toNat) ∨
    (c ≠ '"' ∧ c ≠ '\\' ∧ 0x20 ≤ c.toNat ∧ escape c = [c]) := by
  unfold escape
  -- the seven two-character escapes, then the control characters, then the rest
  by_cases h1 : c = '"'
  · exact Or.inl ⟨'"', by decide, if_pos h1, fun rest => by subst h1; rfl⟩
  rw [if_neg h1]
  by_cases h2 : c = '\\'
  · exact Or.inl ⟨'\\', by decide, if_pos h2, fun rest => by subst h2; rfl⟩
  rw [if_neg h2]
  by_cases h3 : c = '\n'
  · exact Or.inl ⟨'n', by decide, if_pos h3, fun rest => by subst h3; rfl⟩
  rw [if_neg h3]
  by_cases h4 : c = '\r'
  · exact Or.inl ⟨'r', by decide, if_pos h4, fun rest => by subst h4; rfl⟩
  rw [if_neg h4]
  by_cases h5 : c = '\t'
  · exact Or.inl ⟨'t', by decide, if_pos h5, fun rest => by subst h5; rfl⟩
  rw [if_neg h5]
  by_cases h6 : c = '\x08'
  · exact Or.inl ⟨'b', by decide, if_pos h6, fun rest => by subst h6; rfl⟩
  rw [if_neg h6]
  by_cases h7 : c = '\x0c'
  · exact Or.inl ⟨'f', by decide, if_pos h7, fun rest => by subst h7; rfl⟩
  rw [if_neg h7]
  by_cases h8 : c.toNat < 0x20
  · exact Or.inr (Or.inl ⟨h8, if_pos h8⟩)
  · exact Or.inr (Or.inr ⟨h1, h2, not_lt.mp h8, if_neg h8⟩)

theorem le_toNat_of_mem_escape {c d : Char} (h : d ∈ escape c) : 0x20 ≤ d.toNat := by
  have hx := fun n => le_toNat_hexChar (n % 16) (Nat.mod_lt _ (by decide))
  obtain ⟨e, he, heq, -⟩ | ⟨-, heq⟩ | ⟨-, -, hc, heq⟩ := escape_cases c
  · rw [heq] at h
    simp only [List.mem_cons, List.not_mem_nil, or_false] at h
    rcases h with rfl | rfl
    · decide
    · exact he
  · rw [heq] at h
    simp only [unicodeEscape, List.mem_cons, List.not_mem_nil, or_false] at h
    rcases h with rfl | rfl | rfl | rfl | rfl | rfl
    · decide
    · decide
    all_goals exact hx _
  · rw [heq, List.mem_singleton] at h
    rw [h]
    exact hc

theorem le_toNat_of_mem_stringify {t : Text} {d : Char} (h : d ∈ stringify t) :
    0x20 ≤ d.toNat := by
  simp only [stringify, List.cons_append, List.mem_cons, List.mem_append, List.mem_flatMap,
    List.not_mem_nil, or_false] at h
  rcases h with rfl | ⟨c, _, hd⟩ | rfl
  · decide
  · exact le_toNat_of_mem_escape hd
  · decide

theorem le_toNat_of_mem_stringifyAll {ts : List Text} {d : Char} (h : d ∈ stringifyAll ts) :
    0x20 ≤ d.toNat := by
  cases ts with
  | nil =>
      simp only [stringifyAll, List.mem_cons, List.not_mem_nil, or_false] at h
      rcases h with rfl | rfl <;> decide
  | cons t ts =>
      simp only [stringifyAll, List.cons_append, List.mem_cons, List.mem_append,
        List.mem_flatMap, List.not_mem_nil, or_false] at h
      rcases h with rfl | (h | ⟨t', _, rfl | h⟩) | rfl
      · decide
      · exact le_toNat_of_mem_stringify h
      · decide
      · exact le_toNat_of_mem_stringify h
      · decide

theorem readBody_unicodeEscape {c : Char} (h : c.toNat < 0x20) (rest : Text) :
    readBody (unicodeEscape c.toNat ++ rest)
      = (readBody rest).map (fun p => (c :: p.1, p.2)) := by
  have hx := fun n => hexVal_hexChar (n % 16) (Nat.mod_lt _ (by decide))
  have hc : Char.ofNat (((c.toNat / 4096 % 16 * 16 + c.toNat / 256 % 16) * 16
      + c.toNat / 16 % 16) * 16 + c.toNat % 16) = c := by
    have hn : ((c.toNat / 4096 % 16 * 16 + c.toNat / 256 % 16) * 16
        + c.toNat / 16 % 16) * 16 + c.toNat % 16 = c.toNat := by omega
    rw [hn]
    exact Char.ofNat_toNat c
  simp only [unicodeEscape, List.cons_append, List.nil_append, readBody, hx, hc]

/-- A plain character of a body is read as itself. -/
theorem readBody_plain {c : Char} (hq : c ≠ '"') (hb : c ≠ '\\') (rest : Text) :
    readBody (c :: rest) = (readBody rest).map (fun p => (c :: p.1, p.2)) := by
  rw [readBody.eq_def]
  split <;> simp_all

theorem readBody_escape (c : Char) (rest : Text) :
    readBody (escape c ++ rest) = (readBody rest).map (fun p => (c :: p.1, p.2)) := by
  obtain ⟨e, -, heq, hread⟩ | ⟨hc, heq⟩ | ⟨hq, hb, -, heq⟩ := escape_cases c
  · rw [heq]
    exact hread rest
  · rw [heq]
    exact readBody_unicodeEscape hc rest
  · rw [heq]
    exact readBody_plain hq hb rest

theorem readBody_flatMap_escape (t rest : Text) :
    readBody (t.flatMap escape ++ '"' :: rest) = some (t, rest) := by
  induction t with
  | nil => rfl
  | cons c t ih =>
      rw [List.flatMap_cons, List.append_assoc, readBody_escape, ih]
      rfl

theorem read_stringify (t : Text) : read (stringify t) = some (.string t) := by
  have h := readBody_flatMap_escape t []
  simp only [stringify, List.cons_append, read, h]

/-- Every printed element is at least three characters long, so the length of the text is
fuel enough. -/
theorem readTail_stringify (ts : List Text) :
    ∀ fuel, ts.length ≤ fuel →
      readTail fuel (ts.flatMap (fun t => ',' :: stringify t) ++ [']'])
        = some (ts.map .string) := by
  induction ts with
  | nil =>
      intro fuel _
      cases fuel <;> rfl
  | cons t ts ih =>
      intro fuel hfuel
      cases fuel with
      | zero => simp at hfuel
      | succ fuel =>
          have h := readBody_flatMap_escape t
            (ts.flatMap (fun t => ',' :: stringify t) ++ [']'])
          -- one unit of fuel for the element in front
          have hrec := ih fuel (by simpa using hfuel)
          simp only [List.flatMap_cons, stringify, List.cons_append, List.append_assoc,
            List.nil_append, readTail] at h hrec ⊢
          rw [h]
          simp only [hrec, Option.map_some, List.map_cons]

theorem length_le_flatMap_stringify (ts : List Text) :
    ts.length ≤ (ts.flatMap (fun t => ',' :: stringify t) ++ [']']).length := by
  induction ts with
  | nil => simp
  | cons t ts ih =>
      simp only [List.flatMap_cons, List.length_append, List.length_cons] at ih ⊢
      omega

theorem read_stringifyAll (ts : List Text) :
    read (stringifyAll ts) = some (.array (ts.map .string)) := by
  cases ts with
  | nil => rfl
  | cons t ts =>
      have h := readBody_flatMap_escape t
        (ts.flatMap (fun t => ',' :: stringify t) ++ [']'])
      have htail := readTail_stringify ts _ (length_le_flatMap_stringify ts)
      simp only [stringifyAll, stringify, List.cons_append, List.append_assoc,
        List.nil_append, read] at h htail ⊢
      rw [h]
      simp only [htail, Option.map_some, List.map_cons]

end Json

/-- The escapes of `serde_json` and `JSON.parse` on what they print. -/
def JsonLib.standard : JsonLib where
  toString := Json.stringify
  toStrings := Json.stringifyAll
  parse := Json.read

theorem JsonLib.standard_lawful : JsonLib.standard.Lawful where
  toString_escapes _ _ h := Json.le_toNat_of_mem_stringify h
  toStrings_escapes _ _ h := Json.le_toNat_of_mem_stringifyAll h
  parse_toString := Json.read_stringify
  parse_toStrings := Json.read_stringifyAll

end Osfacts
