import Osfacts.UnixSocket

set_option autoImplicit false

/-! # The rows the kernel prints, and what the decoder makes of them

A row of `/proc/net/unix` as a value: leading blanks, six columns, the digits of the inode and
perhaps a name. Rendering and decoding are connected by `splitUnixRow_render`, for a name of
any bytes; lines are another matter, since a name may contain the byte that ends them. Which
names put rows of their own into the table is said of the names' bytes, in `Forges`.
-/

namespace Osfacts.UnixSocket

/-! ## Rows -/

/-- A column and the blanks after it. -/
structure UnixColumn where
  text : Bytes
  gap : Bytes
  text_ne_nil : text ≠ []
  text_plain : ∀ b ∈ text, isSpace b = false ∧ b ≠ LF
  gap_ne_nil : gap ≠ []
  gap_blank : ∀ b ∈ gap, isSpace b = true

/-- The delimiter after the inode, and the name. -/
structure UnixName where
  delimiter : UInt8
  bytes : Bytes
  delimiter_blank : isSpace delimiter = true

structure UnixRow where
  lead : Bytes
  columns : List UnixColumn
  digits : Text
  name : Option UnixName
  lead_blank : ∀ b ∈ lead, isSpace b = true
  columns_length : columns.length = FIELDS_BEFORE_INODE
  digits_numeral : Decimal.isNumeral digits = true
  digits_lt : Decimal.value digits < 2 ^ 64

namespace UnixRow

def inode (row : UnixRow) : UInt64 := UInt64.ofNat (Decimal.value row.digits)

/-- The name's bytes, if the row has a name. -/
def path (row : UnixRow) : Option Bytes := row.name.map UnixName.bytes

def renderName (name : Option UnixName) : Bytes :=
  name.elim [] (fun n => n.delimiter :: n.bytes)

/-- The row as the kernel prints it, without the line feed. -/
def render (row : UnixRow) : Bytes :=
  row.lead ++ row.columns.flatMap (fun column => column.text ++ column.gap)
    ++ Utf8.encode row.digits ++ renderName row.name

/-- The lines a row's text falls into: one, unless its name contains a line feed. -/
def lines (row : UnixRow) : List Bytes := row.render.splitOn LF

end UnixRow

/-- A header line: its columns are the kernel's eight names. -/
structure UnixHeader where
  line : Bytes
  line_one : LF ∉ line
  columns_eq : headerColumns line = UNIX_TABLE_COLUMNS

/-- The header the kernel prints. -/
def kernelHeader : UnixHeader where
  line := ascii "Num       RefCount Protocol Flags    Type St Inode Path"
  line_one := by decide +kernel
  columns_eq := by decide +kernel

/-- The table: the header and the rows, each ended by a line feed. -/
def renderTable (header : UnixHeader) (rows : List UnixRow) : Bytes :=
  terminated LF (header.line :: rows.map UnixRow.render)

/-! ## One row -/

/-- A text that begins with something other than a blank. -/
def StartsPlain (bytes : Bytes) : Prop := ∃ b rest, bytes = b :: rest ∧ isSpace b = false

theorem startsPlain_append {text : Bytes} (hne : text ≠ [])
    (hplain : ∀ b ∈ text, isSpace b = false) (rest : Bytes) : StartsPlain (text ++ rest) := by
  cases text with
  | nil => exact absurd rfl hne
  | cons b text => exact ⟨b, text ++ rest, rfl, hplain b (by simp)⟩

/-- Blanks in front of a text that begins with something else are skipped. -/
theorem fromPosition_plain {blank bytes : Bytes} (hblank : ∀ b ∈ blank, isSpace b = true)
    (h : StartsPlain bytes) :
    fromPosition (fun b => !isSpace b) (blank ++ bytes) = some bytes := by
  obtain ⟨b, rest, rfl, hb⟩ := h
  rw [fromPosition_append (fun b hb => by simp [hblank b hb]), fromPosition_cons (by simp [hb])]

theorem fromPosition_blank {text : Bytes} (hplain : ∀ b ∈ text, isSpace b = false)
    {b : UInt8} (hb : isSpace b = true) (rest : Bytes) :
    fromPosition isSpace (text ++ b :: rest) = some (b :: rest) := by
  rw [fromPosition_append hplain, fromPosition_cons hb]

theorem startsPlain_columns (columns : List UnixColumn) {rest : Bytes} (h : StartsPlain rest) :
    StartsPlain (columns.flatMap (fun column => column.text ++ column.gap) ++ rest) := by
  cases columns with
  | nil => exact h
  | cons column columns =>
      rw [List.flatMap_cons, List.append_assoc, List.append_assoc]
      exact startsPlain_append column.text_ne_nil (fun b hb => (column.text_plain b hb).1) _

theorem skipColumns_render (columns : List UnixColumn) {rest : Bytes} (h : StartsPlain rest) :
    skipColumns columns.length
      (columns.flatMap (fun column => column.text ++ column.gap) ++ rest) = some rest := by
  induction columns with
  | nil => rfl
  | cons column columns ih =>
      have hplain : ∀ b ∈ column.text, isSpace b = false :=
        fun b hb => (column.text_plain b hb).1
      have hnext := fromPosition_plain column.gap_blank (startsPlain_columns columns h)
      obtain ⟨b, gap, hgap⟩ := List.exists_cons_of_ne_nil column.gap_ne_nil
      have hb : isSpace b = true := column.gap_blank b (by simp [hgap])
      rw [hgap, List.cons_append] at hnext
      rw [List.flatMap_cons, List.append_assoc, List.append_assoc, hgap, List.cons_append,
        List.length_cons, skipColumns, fromPosition_blank hplain hb]
      show (fromPosition _ _ >>= fun rest => skipColumns columns.length rest) = _
      rw [hnext]
      exact ih

theorem encode_digits_plain {digits : Text} (h : Decimal.isNumeral digits = true) :
    ∀ b ∈ Utf8.encode digits, isSpace b = false ∧ b ≠ LF := by
  have hdigit : ∀ c ∈ digits, c.isDigit = true := by
    simp only [Decimal.isNumeral, Bool.and_eq_true, List.all_eq_true] at h
    exact h.2
  intro b hb
  obtain ⟨c, hc, hb⟩ := List.mem_flatMap.mp hb
  have hrange : 48 ≤ c.toNat ∧ c.toNat ≤ 57 := by
    simpa [Char.isDigit, UInt32.le_iff_toNat_le] using hdigit c hc
  rw [Utf8.encodeChar_ascii (by omega), List.mem_singleton] at hb
  have hnat : b.toNat = c.toNat := by
    rw [hb]
    exact Nat.mod_eq_of_lt (by omega)
  -- a digit is above the blanks and the line feed
  constructor
  · simp only [isSpace, Bool.or_eq_false_iff, beq_eq_false_iff_ne]
    constructor <;> (rintro rfl; simp at hnat; omega)
  · rintro rfl
    simp [LF] at hnat
    omega

theorem encode_digits_ne_nil {digits : Text} (h : Decimal.isNumeral digits = true) :
    Utf8.encode digits ≠ [] := by
  cases digits with
  | nil => simp [Decimal.isNumeral] at h
  | cons c digits =>
      rw [Utf8.encode_cons]
      exact List.append_ne_nil_of_left_ne_nil String.utf8EncodeChar_ne_nil _

/-- **A row, decoded part by part.** Behind the lead and the columns stands the text of the
number, and behind one delimiter the name, whatever bytes it has. -/
theorem splitUnixRow_parts {lead : Bytes} {columns : List UnixColumn} {number : Text}
    (hlead : ∀ b ∈ lead, isSpace b = true) (hlength : columns.length = FIELDS_BEFORE_INODE)
    (hne : Utf8.encode number ≠ []) (hplain : ∀ b ∈ Utf8.encode number, isSpace b = false)
    (name : Option UnixName) :
    splitUnixRow (lead ++ (columns.flatMap (fun column => column.text ++ column.gap)
        ++ (Utf8.encode number ++ UnixRow.renderName name)))
      = name.bind (fun name => (parseU64 number).bind (fun inode =>
          if inode > 0 ∧ name.bytes ≠ [] then some (inode, name.bytes) else none)) := by
  have hstart : StartsPlain (Utf8.encode number ++ UnixRow.renderName name) :=
    startsPlain_append hne hplain _
  have hskip := fromPosition_plain hlead (startsPlain_columns columns hstart)
  have hcolumns := skipColumns_render columns hstart
  rw [hlength] at hcolumns
  -- skip to the inode column, then read the digits up to the delimiter
  rw [splitUnixRow, hskip]
  simp only [Option.bind_eq_bind, Option.bind_some, hcolumns]
  cases name with
  | none =>
      have hnone : fromPosition isSpace (Utf8.encode number) = none := fromPosition_eq_none hplain
      simp [UnixRow.renderName, hnone]
  | some name =>
      have hdelim := fromPosition_blank hplain name.delimiter_blank name.bytes
      have htake : (Utf8.encode number ++ name.delimiter :: name.bytes).takeWhile
          (fun b => !isSpace b) = Utf8.encode number := by
        rw [List.takeWhile_append_of_pos (fun b hb => by simp [hplain b hb]),
          List.takeWhile_cons_of_neg (by simp [name.delimiter_blank]), List.append_nil]
      simp only [UnixRow.renderName, Option.elim_some, hdelim, htake, Option.bind_some,
        fromUtf8, Utf8.decode_encode, List.tail_cons]
      congr

/-- **One row, decoded.** A row discloses its inode and its name, whatever bytes the name has,
unless one of the two is missing, the inode is 0 or the name is empty. -/
theorem splitUnixRow_render (row : UnixRow) :
    splitUnixRow row.render = row.path.bind (fun path =>
      if row.inode > 0 ∧ path ≠ [] then some (row.inode, path) else none) := by
  have hplain : ∀ b ∈ Utf8.encode row.digits, isSpace b = false :=
    fun b hb => (encode_digits_plain row.digits_numeral b hb).1
  have hinode : parseU64 row.digits = some row.inode := by
    rw [parseU64, Decimal.readUnsigned_of_isNumeral row.digits_numeral row.digits_lt]
    rfl
  have hrender : row.render = row.lead ++
      (row.columns.flatMap (fun column => column.text ++ column.gap)
        ++ (Utf8.encode row.digits ++ UnixRow.renderName row.name)) := by
    simp [UnixRow.render, List.append_assoc]
  rw [hrender, splitUnixRow_parts row.lead_blank row.columns_length
    (encode_digits_ne_nil row.digits_numeral) hplain, hinode, UnixRow.path]
  cases row.name <;> rfl

theorem lineInode_render {row : UnixRow} {path : Bytes} (hne : path ≠ []) :
    lineInode path row.render
      = if row.path = some path ∧ row.inode ≠ 0 then some row.inode else none := by
  rw [lineInode, splitUnixRow_render]
  have hpos : row.inode > 0 ↔ row.inode ≠ 0 := by
    rw [gt_iff_lt, UInt64.pos_iff_ne_zero]
  cases hp : row.path with
  | none => simp
  | some p =>
      by_cases hpath : p = path
      · subst hpath
        by_cases hi : row.inode = 0 <;> simp [hpos, hi, hne]
      · by_cases hi : row.inode > 0 ∧ p ≠ [] <;> simp [hi, hpath]

/-! ## The table, in lines -/

theorem splitOn_renderTable (header : UnixHeader) (rows : List UnixRow) :
    (renderTable header rows).splitOn LF
      = header.line :: (rows.flatMap UnixRow.lines ++ [[]]) := by
  have hsplit := splitOn_terminated_append LF (header.line :: rows.map UnixRow.render) []
  rw [List.append_nil] at hsplit
  calc (renderTable header rows).splitOn LF
      = (header.line :: rows.map UnixRow.render).flatMap (fun line => line.splitOn LF) ++ [[]] :=
        hsplit
    _ = header.line :: (rows.flatMap UnixRow.lines ++ [[]]) := by
        rw [List.flatMap_cons, List.splitOn_eq_singleton header.line_one, List.flatMap_map]
        rfl

/-- The decoder on a rendered table, whatever bytes the names have. -/
theorem unixSocketInodes_renderTable (header : UnixHeader) (rows : List UnixRow)
    (path : Bytes) :
    unixSocketInodes (renderTable header rows) path
      = .ok (disclosed path (rows.flatMap UnixRow.lines)).eraseDups := by
  rw [unixSocketInodes_of_header (splitOn_renderTable header rows) header.columns_eq,
    disclosed_append]
  -- the empty piece after the last line feed discloses nothing
  show Except.ok (disclosed path (rows.flatMap UnixRow.lines) ++ []).eraseDups = _
  rw [List.append_nil]

/-- What stands in front of a row's name has no line feed. -/
theorem UnixRow.not_mem_front (row : UnixRow) :
    LF ∉ row.lead ++ row.columns.flatMap (fun column => column.text ++ column.gap)
      ++ Utf8.encode row.digits := by
  have hblank : ∀ {b : UInt8}, isSpace b = true → b ≠ LF := by
    rintro b hb rfl
    exact absurd hb (by decide)
  rw [List.mem_append, List.mem_append]
  rintro ((hb | hb) | hb)
  · exact hblank (row.lead_blank _ hb) rfl
  · obtain ⟨column, -, hb⟩ := List.mem_flatMap.mp hb
    rcases List.mem_append.mp hb with hb | hb
    · exact (column.text_plain _ hb).2 rfl
    · exact hblank (column.gap_blank _ hb) rfl
  · exact (encode_digits_plain row.digits_numeral _ hb).2 rfl

/-- A row falls into lines where its name does: the first is the row with the first piece of
its name, the others are the other pieces. -/
theorem lines_of_name_split {row : UnixRow} {name : UnixName} (hname : row.name = some name)
    {first : Bytes} {later : List Bytes} (hsplit : name.bytes.splitOn LF = first :: later) :
    row.lines = { row with name := some { name with bytes := first } }.render :: later := by
  have hfront : LF ∉ row.lead ++ row.columns.flatMap (fun column => column.text ++ column.gap)
      ++ Utf8.encode row.digits ++ [name.delimiter] := by
    rw [List.mem_append, List.mem_singleton, not_or]
    refine ⟨row.not_mem_front, fun h => ?_⟩
    exact absurd (h ▸ name.delimiter_blank) (by decide)
  obtain ⟨whole, piece, hwhole, happend⟩ := splitOn_append LF
    (row.lead ++ row.columns.flatMap (fun column => column.text ++ column.gap)
      ++ Utf8.encode row.digits ++ [name.delimiter])
  rw [List.splitOn_eq_singleton hfront] at hwhole
  -- the front is one piece, and the name's first piece joins it
  obtain rfl : whole = [] := by simpa using congrArg List.length hwhole
  obtain ⟨rfl, -⟩ := List.cons.inj hwhole
  have hlines := happend name.bytes first later hsplit
  simpa [UnixRow.lines, UnixRow.render, UnixRow.renderName, hname, List.append_assoc] using hlines

/-- A row whose name has no line feed is one line. -/
theorem lines_of_name_one_line {row : UnixRow} (h : ∀ name, row.path = some name → LF ∉ name) :
    row.lines = [row.render] := by
  cases hname : row.name with
  | none =>
      have hfront := row.not_mem_front
      exact List.splitOn_eq_singleton
        (by simpa [UnixRow.render, UnixRow.renderName, hname] using hfront)
  | some name =>
      have hone : LF ∉ name.bytes := h name.bytes (by simp [UnixRow.path, hname])
      rw [lines_of_name_split hname (List.splitOn_eq_singleton hone), ← hname]

/-! ## Exact decoding -/

/-- The inodes of the rows with this very name, less the undisclosed ones. -/
def boundInodes (path : Bytes) (rows : List UnixRow) : List UInt64 :=
  rows.filterMap
    (fun row => if row.path = some path ∧ row.inode ≠ 0 then some row.inode else none)

theorem disclosed_eq_boundInodes {rows : List UnixRow} {path : Bytes} (hne : path ≠ [])
    (h : ∀ row ∈ rows, ∀ name, row.path = some name → LF ∉ name) :
    disclosed path (rows.flatMap UnixRow.lines) = boundInodes path rows := by
  induction rows with
  | nil => rfl
  | cons row rows ih =>
      rw [List.flatMap_cons, lines_of_name_one_line (h row (by simp)), List.singleton_append,
        disclosed_cons, ih (fun r hr => h r (by simp [hr])), lineInode_render hne, boundInodes,
        boundInodes, List.filterMap_cons]
      by_cases hrow : row.path = some path ∧ row.inode ≠ 0
      · rw [if_pos hrow]
        rfl
      · rw [if_neg hrow]
        rfl

/-- **Exact decoding.** Of a table whose names have no line feed the decoder returns the
inodes of the rows that carry the path, in first-seen order and without repeats; what does
not begin with the kernel's header is refused. -/
theorem unixSocketInodes_exact :
    (∀ (header : UnixHeader) (rows : List UnixRow) (path : Bytes), path ≠ [] →
      (∀ row ∈ rows, ∀ name, row.path = some name → LF ∉ name) →
      unixSocketInodes (renderTable header rows) path
        = .ok (boundInodes path rows).eraseDups) ∧
    (∀ table path : Bytes,
      headerColumns (table.takeWhile (fun b => b != LF)) ≠ UNIX_TABLE_COLUMNS →
      unixSocketInodes table path = .error ()) := by
  constructor
  · intro header rows path hne hone
    rw [unixSocketInodes_renderTable, disclosed_eq_boundInodes hne hone]
  · intro table path hno
    apply unixSocketInodes_of_not_header
    intro header lines hsplit
    obtain ⟨rest, hfirst⟩ := splitOn_eq_takeWhile_cons LF table
    rw [hsplit] at hfirst
    rw [(List.cons.inj hfirst).1]
    exact hno

/-! ## A sample -/

/-- A column with one blank after it. -/
def UnixColumn.spaced (text : Bytes) (hne : text ≠ [])
    (hplain : text.all (fun b => !isSpace b && b != LF) = true) : UnixColumn :=
  ⟨text, [0x20], hne, by simpa using hplain, by decide, List.forall_mem_singleton.mpr rfl⟩

/-- The columns of a listening stream socket. -/
def listeningColumns : List UnixColumn :=
  [.spaced (ascii "0000000000000000:") (by decide) (by decide),
    .spaced (ascii "00000002") (by decide) (by decide),
    .spaced (ascii "00000000") (by decide) (by decide),
    .spaced (ascii "00010000") (by decide) (by decide),
    .spaced (ascii "0001") (by decide) (by decide),
    .spaced (ascii "01") (by decide) (by decide)]

/-- A listening socket with an inode and a name. -/
def UnixRow.listening (inode : Nat) (name : Bytes) (h : inode < 2 ^ 64) : UnixRow where
  lead := []
  columns := listeningColumns
  digits := Decimal.decimal inode
  name := some ⟨0x20, name, by decide⟩
  lead_blank := by simp
  columns_length := rfl
  digits_numeral := Decimal.isNumeral_decimal inode
  digits_lt := by rwa [Decimal.value_decimal]

theorem unixSocketInodes_exact_sample :
    unixSocketInodes
        (renderTable kernelHeader [.listening 10 (ascii "/run/a.sock") (by decide),
          .listening 11 (ascii "/run/b.sock") (by decide),
          .listening 10 (ascii "/run/a.sock") (by decide)]) (ascii "/run/a.sock")
      = .ok (boundInodes (ascii "/run/a.sock")
          [.listening 10 (ascii "/run/a.sock") (by decide),
            .listening 11 (ascii "/run/b.sock") (by decide),
            .listening 10 (ascii "/run/a.sock") (by decide)]).eraseDups ∧
    unixSocketInodes (ascii "garbage Inode garbage\n") (ascii "/run/a.sock") = .error () := by
  refine ⟨unixSocketInodes_exact.1 _ _ _ (by decide) ?_,
    unixSocketInodes_exact.2 _ _ (by decide +kernel)⟩
  intro row hrow name hname
  simp only [List.mem_cons, List.not_mem_nil, or_false] at hrow
  rcases hrow with rfl | rfl | rfl
  all_goals
    cases hname
    decide

/-! ## Names and other names -/

/-- A text of the shape of a table row for `path`: perhaps blanks, six columns each with blanks
after it, the digits of an inode other than 0, one blank, and the path to the end. The number
parser takes a plus sign in front of the digits. -/
def RowFor (path text : Bytes) : Prop :=
  path ≠ [] ∧
  ∃ (lead : Bytes) (columns : List UnixColumn) (sign digits : Text) (delimiter : UInt8),
    text = lead ++ (columns.flatMap (fun column => column.text ++ column.gap)
      ++ (Utf8.encode (sign ++ digits) ++ delimiter :: path)) ∧
    (∀ b ∈ lead, isSpace b = true) ∧
    columns.length = FIELDS_BEFORE_INODE ∧
    (sign = [] ∨ sign = ['+']) ∧
    Decimal.isNumeral digits = true ∧
    0 < Decimal.value digits ∧ Decimal.value digits < 2 ^ 64 ∧
    isSpace delimiter = true

/-- A socket's name forges rows for `path`: cut at its line feeds, its first piece is the path
itself, or a later piece has the shape of a row for it. -/
def Forges (path : Bytes) (socket : UnixRow) : Prop :=
  ∃ name first later, socket.path = some name ∧ name.splitOn LF = first :: later ∧
    ((path ≠ [] ∧ first = path ∧ socket.inode ≠ 0) ∨ ∃ piece ∈ later, RowFor path piece)

/-- A name other than the path forges nothing as long as it has no line feed. -/
theorem not_forges_of_one_line {path : Bytes} {socket : UnixRow}
    (hother : socket.path ≠ some path) (hone : ∀ name, socket.path = some name → LF ∉ name) :
    ¬ Forges path socket := by
  rintro ⟨name, first, later, hname, hsplit, hforged⟩
  rw [List.splitOn_eq_singleton (hone name hname)] at hsplit
  obtain ⟨rfl, rfl⟩ := List.cons.inj hsplit
  rcases hforged with ⟨-, rfl, -⟩ | ⟨piece, hpiece, -⟩
  · exact hother hname
  · exact List.not_mem_nil hpiece

/-- What `fromPosition` returns is the rest of the text, from the byte it looked for on. -/
theorem fromPosition_eq_some {p : UInt8 → Bool} {bytes rest : Bytes}
    (h : fromPosition p bytes = some rest) :
    ∃ skipped b tail, bytes = skipped ++ rest ∧ rest = b :: tail ∧ p b = true ∧
      skipped = bytes.takeWhile (fun b => !p b) ∧ ∀ b ∈ skipped, p b = false := by
  rw [fromPosition] at h
  cases hdrop : bytes.dropWhile (fun b => !p b) with
  | nil => simp [hdrop] at h
  | cons b tail =>
      rw [hdrop] at h
      obtain rfl := Option.some.inj h
      have hhead : p b = true := by
        have hfirst := List.head?_dropWhile_not (fun b => !p b) bytes
        rw [hdrop] at hfirst
        simpa using hfirst
      refine ⟨_, b, tail, ?_, rfl, hhead, rfl, fun c hc => ?_⟩
      · rw [← hdrop, List.takeWhile_append_dropWhile]
      · simpa using List.mem_takeWhile_imp hc

/-- The columns that were skipped. -/
theorem skipColumns_eq_some {n : Nat} {bytes rest : Bytes} (hone : LF ∉ bytes)
    (hstart : StartsPlain bytes) (h : skipColumns n bytes = some rest) :
    ∃ columns : List UnixColumn, columns.length = n ∧
      bytes = columns.flatMap (fun column => column.text ++ column.gap) ++ rest := by
  induction n generalizing bytes with
  | zero => exact ⟨[], rfl, Option.some.inj h⟩
  | succ n ih =>
      simp only [skipColumns, Option.bind_eq_bind, Option.bind_eq_some_iff] at h
      obtain ⟨blanks, htext, next, hgap, h⟩ := h
      obtain ⟨text, b, tail, rfl, rfl, hb, -, hplain⟩ := fromPosition_eq_some htext
      obtain ⟨gap, c, tail', hblanks, hnext, hc, -, hblank⟩ := fromPosition_eq_some hgap
      -- a column is not empty, for the text starts with it, and neither is the gap behind it
      have htext_ne : text ≠ [] := by
        rintro rfl
        obtain ⟨b', tail'', heq, hb'⟩ := hstart
        rw [List.nil_append, List.cons.injEq] at heq
        rw [← heq.1, hb] at hb'
        cases hb'
      have hgap_ne : gap ≠ [] := by
        rintro rfl
        rw [List.nil_append, hnext, List.cons.injEq] at hblanks
        rw [← hblanks.1, hb] at hc
        cases hc
      rw [hblanks] at hone ⊢
      simp only [List.mem_append, not_or] at hone
      obtain ⟨columns, hlength, hcolumns⟩ := ih hone.2.2 ⟨c, tail', hnext, by simpa using hc⟩ h
      have htext_one : ∀ x ∈ text, x ≠ LF := by
        rintro x hx rfl
        exact hone.1 hx
      refine ⟨⟨text, gap, htext_ne, fun x hx => ⟨hplain x hx, htext_one x hx⟩, hgap_ne,
        fun x hx => by simpa using hblank x hx⟩ :: columns, by rw [List.length_cons, hlength], ?_⟩
      rw [List.flatMap_cons, hcolumns]
      simp only [List.append_assoc]

/-- The encoded digits, behind a plus sign or not, have no blank, and there are some. -/
theorem encode_signed_plain {sign digits : Text} (hsign : sign = [] ∨ sign = ['+'])
    (h : Decimal.isNumeral digits = true) :
    Utf8.encode (sign ++ digits) ≠ [] ∧
      ∀ b ∈ Utf8.encode (sign ++ digits), isSpace b = false := by
  rcases hsign with rfl | rfl
  · exact ⟨encode_digits_ne_nil h, fun b hb => (encode_digits_plain h b hb).1⟩
  · have hplus : Utf8.encode (['+'] ++ digits) = 0x2B :: Utf8.encode digits := by
      rw [List.singleton_append, Utf8.encode_cons, Utf8.encodeChar_ascii (by decide)]
      rfl
    rw [hplus]
    refine ⟨List.cons_ne_nil _ _, fun b hb => ?_⟩
    rcases List.mem_cons.mp hb with rfl | hb
    · rfl
    · exact (encode_digits_plain h b hb).1

/-- A line that the decoder takes has the shape of a row. -/
theorem rowFor_of_split {path line : Bytes} {inode : UInt64} (hone : LF ∉ line)
    (hrow : splitUnixRow line = some (inode, path)) : RowFor path line := by
  -- undo the decoder, one column boundary at a time
  simp only [splitUnixRow, Option.bind_eq_bind, Option.bind_eq_some_iff] at hrow
  obtain ⟨bytes, hlead, rest, hcolumns, delimited, hdelim, digits, hdigits, number, hnumber,
    hrow⟩ := hrow
  split_ifs at hrow with hkept
  obtain ⟨rfl, hpath⟩ := Prod.mk.inj (Option.some.inj hrow)
  obtain ⟨lead, b, tail, rfl, hbytes, hb, -, hblank⟩ := fromPosition_eq_some hlead
  have hone' : LF ∉ bytes := fun hlf => hone (List.mem_append_right _ hlf)
  obtain ⟨columns, hlength, rfl⟩ :=
    skipColumns_eq_some hone' ⟨b, tail, hbytes, by simpa using hb⟩ hcolumns
  obtain ⟨text, delimiter, name, hrest, rfl, hdelimiter, htext, -⟩ := fromPosition_eq_some hdelim
  obtain rfl : name = path := hpath
  rw [← htext] at hdigits
  obtain ⟨n, hn, rfl⟩ : ∃ n, Decimal.readUnsigned (2 ^ 64) digits = some n ∧
      UInt64.ofNat n = number := by
    simpa [parseU64] using hnumber
  obtain ⟨sign, digits, rfl, hsign, hnumeral, rfl, hlt⟩ := Decimal.exists_of_readUnsigned hn
  refine ⟨hkept.2, lead, columns, sign, digits, delimiter, ?_,
    fun x hx => by simpa using hblank x hx, hlength, hsign, hnumeral, ?_, hlt, hdelimiter⟩
  · rw [hrest, Utf8.encode_of_decode hdigits]
  · -- a row without an inode is not kept
    rcases Nat.eq_zero_or_pos (Decimal.value digits) with hzero | hpos
    · rw [hzero] at hkept
      exact absurd hkept.1 (by decide)
    · exact hpos

/-- **The rows that disclose an inode for a path, by their bytes.** -/
theorem lineInode_isSome_iff {path line : Bytes} (hone : LF ∉ line) :
    (lineInode path line).isSome = true ↔ RowFor path line := by
  constructor
  · intro h
    rw [lineInode] at h
    cases hrow : splitUnixRow line with
    | none => simp [hrow] at h
    | some row =>
        obtain ⟨inode, rowPath⟩ := row
        obtain rfl : rowPath = path := by simpa [hrow] using h
        exact rowFor_of_split hone hrow
  · rintro ⟨hne, lead, columns, sign, digits, delimiter, rfl, hlead, hlength, hsign, hnumeral,
      hpos, hlt, hdelimiter⟩
    obtain ⟨htext, hplain⟩ := encode_signed_plain hsign hnumeral
    have hnumber : parseU64 (sign ++ digits) = some (UInt64.ofNat (Decimal.value digits)) := by
      rw [parseU64, Decimal.readUnsigned_sign hsign hnumeral hlt]
      rfl
    have hinode : UInt64.ofNat (Decimal.value digits) > 0 := by
      rw [gt_iff_lt, UInt64.lt_iff_toNat_lt, UInt64.toNat_ofNat_of_lt' hlt]
      exact hpos
    have hrow := splitUnixRow_parts hlead hlength htext hplain
      (some ⟨delimiter, path, hdelimiter⟩)
    rw [hnumber, Option.bind_some, Option.bind_some, if_pos ⟨hinode, hne⟩] at hrow
    change splitUnixRow (lead ++ (_ ++ (_ ++ delimiter :: path))) = _ at hrow
    rw [lineInode, hrow]
    simp

/-- No socket is bound at the empty path. -/
theorem lineInode_nil (line : Bytes) : lineInode [] line = none := by
  rw [lineInode]
  cases hrow : splitUnixRow line with
  | none => rfl
  | some row =>
      simp only [splitUnixRow, Option.bind_eq_bind, Option.bind_eq_some_iff] at hrow
      obtain ⟨_, _, _, _, _, _, _, _, _, _, hrow⟩ := hrow
      split_ifs at hrow with hkept
      rw [← Option.some.inj hrow]
      exact if_neg hkept.2

/-- The pieces a name is cut into have no line feed. -/
theorem not_mem_later {name first : Bytes} {later : List Bytes}
    (hsplit : name.splitOn LF = first :: later) {piece : Bytes} (hpiece : piece ∈ later) :
    LF ∉ piece := by
  intro hlf
  have hno := not_of_mem_splitOnP name piece (hsplit ▸ List.mem_cons_of_mem _ hpiece) LF hlf
  simp at hno

/-- **A row discloses nothing for a path unless its name forges rows for it.** -/
theorem disclosed_lines_eq_nil_iff (path : Bytes) (socket : UnixRow) :
    disclosed path socket.lines = [] ↔ ¬ Forges path socket := by
  constructor
  · rintro hnone ⟨name, first, later, hpath, hsplit, hforged⟩
    obtain ⟨name, hname, rfl⟩ := Option.map_eq_some_iff.mp hpath
    rw [lines_of_name_split hname hsplit] at hnone
    simp only [disclosed, List.filterMap_eq_nil_iff, List.forall_mem_cons] at hnone
    rcases hforged with ⟨hne, rfl, hinode⟩ | ⟨piece, hpiece, hrow⟩
    · rw [lineInode_render hne, if_pos ⟨rfl, hinode⟩] at hnone
      cases hnone.1
    · rw [← lineInode_isSome_iff (not_mem_later hsplit hpiece), hnone.2 piece hpiece] at hrow
      cases hrow
  · intro hforges
    rw [disclosed, List.filterMap_eq_nil_iff]
    intro line hline
    by_contra hsome
    -- a line that discloses an inode is the row as far as its first line feed, or a later piece
    have hne : path ≠ [] := by
      rintro rfl
      exact hsome (lineInode_nil line)
    cases hname : socket.name with
    | none =>
        have hpath : socket.path = none := by rw [UnixRow.path, hname, Option.map_none]
        rw [lines_of_name_one_line (by simp [hpath]), List.mem_singleton] at hline
        rw [hline, lineInode_render hne, if_neg (by simp [hpath])] at hsome
        exact hsome rfl
    | some name =>
        obtain ⟨later, hsplit⟩ := splitOn_eq_takeWhile_cons LF name.bytes
        rw [lines_of_name_split hname hsplit, List.mem_cons] at hline
        refine hforges
          ⟨name.bytes, _, later, by rw [UnixRow.path, hname, Option.map_some], hsplit, ?_⟩
        rcases hline with rfl | hpiece
        · left
          rw [lineInode_render hne] at hsome
          have hcarried := ite_ne_right_iff.mp hsome
          exact ⟨hne, Option.some.inj hcarried.1.1, hcarried.1.2⟩
        · exact Or.inr ⟨line, hpiece, (lineInode_isSome_iff (not_mem_later hsplit hpiece)).mp
            (Option.isSome_iff_ne_none.mpr hsome)⟩

/-- **Noninterference of bound names, exactly.** Inserting a row leaves the answer for a path
unchanged in every table and at every position if and only if its name forges no row for the
path. -/
theorem unixSocketInodes_insert_iff (path : Bytes) (socket : UnixRow) :
    (∀ (header : UnixHeader) (before after : List UnixRow),
      unixSocketInodes (renderTable header (before ++ socket :: after)) path
        = unixSocketInodes (renderTable header (before ++ after)) path) ↔
      ¬ Forges path socket := by
  rw [← disclosed_lines_eq_nil_iff]
  constructor
  · intro h
    -- the table of this one socket
    have halone := h kernelHeader [] []
    rw [unixSocketInodes_renderTable, unixSocketInodes_renderTable, Except.ok.injEq,
      List.nil_append, List.flatMap_singleton] at halone
    cases hlines : disclosed path socket.lines with
    | nil => rfl
    | cons inode inodes =>
        have hmem : inode ∈ (disclosed path socket.lines).eraseDups := by
          rw [List.mem_eraseDups, hlines]
          exact List.mem_cons_self
        rw [halone] at hmem
        exact absurd hmem List.not_mem_nil
  · intro hnone header before after
    rw [unixSocketInodes_renderTable, unixSocketInodes_renderTable, List.flatMap_append,
      List.flatMap_append, List.flatMap_cons, disclosed_append, disclosed_append,
      disclosed_append, hnone, List.nil_append]

/-- A name with a line feed and the text of a row for another path. -/
def forgedName : Bytes :=
  ascii "x\n0000000000000000: 00000002 00000000 00010000 0001 01 777 /run/a.sock"

/-- A process that binds `forgedName` adds a holder to `/run/a.sock`, a path it never bound. -/
theorem unixSocketInodes_forged :
    forgedName ≠ [] ∧ 0 ∉ forgedName ∧ forgedName ≠ ascii "/run/a.sock" ∧
    unixSocketInodes
        (renderTable kernelHeader [.listening 10 (ascii "/run/a.sock") (by decide)])
        (ascii "/run/a.sock") = .ok [10] ∧
    unixSocketInodes
        (renderTable kernelHeader [.listening 11 forgedName (by decide),
          .listening 10 (ascii "/run/a.sock") (by decide)])
        (ascii "/run/a.sock") = .ok [777, 10] := by
  refine ⟨by decide, by decide, by decide, ?_, ?_⟩
  · decide +kernel
  · decide +kernel

end Osfacts.UnixSocket
