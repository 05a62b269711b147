import Osfacts.Basic.FirstSeen
import Osfacts.Rust.Text

set_option autoImplicit false

/-! # The table of bound unix sockets

`/proc/net/unix` has one line for each socket: six columns, the inode, and, for a bound
socket, one delimiter and the name, which is an arbitrary byte string without quoting. The
decoder frames the file into lines, checks the header, and collects the inodes of the lines
that carry the name asked for.
-/

namespace Osfacts.UnixSocket

/-- The line feed. -/
def LF : UInt8 := 0x0A

def isSpace (b : UInt8) : Bool := b == 0x20 || b == 0x09

/-- The bytes from the first one that satisfies `p` on: `&bytes[bytes.position(p)?..]`. -/
def fromPosition (p : UInt8 → Bool) (bytes : Bytes) : Option Bytes :=
  match bytes.dropWhile (fun b => !p b) with
  | [] => none
  | rest => some rest

/-- The columns before the inode. -/
def FIELDS_BEFORE_INODE : Nat := 6

/-- Skip columns, each with the run of blanks after it. -/
def skipColumns : Nat → Bytes → Option Bytes
  | 0, rest => some rest
  | n + 1, rest => do
      let rest ← fromPosition isSpace rest
      let rest ← fromPosition (fun b => !isSpace b) rest
      skipColumns n rest

/-- One table row: the inode and the name, or `none` for a row that carries neither. -/
def splitUnixRow (line : Bytes) : Option (UInt64 × Bytes) := do
  let rest ← fromPosition (fun b => !isSpace b) line
  let rest ← skipColumns FIELDS_BEFORE_INODE rest
  let delimited ← fromPosition isSpace rest
  let digits ← fromUtf8 (rest.takeWhile (fun b => !isSpace b))
  let inode ← parseU64 digits
  -- exactly one delimiter, then the name verbatim
  let path := delimited.tail
  if inode > 0 ∧ path ≠ [] then some (inode, path) else none

def UNIX_TABLE_COLUMNS : List Bytes :=
  [ascii "Num", ascii "RefCount", ascii "Protocol", ascii "Flags", ascii "Type", ascii "St",
    ascii "Inode", ascii "Path"]

/-- Every wanted column comes next, and then none is left. -/
def columnsMatch : List Bytes → List Bytes → Bool
  | [], columns => columns.isEmpty
  | _ :: _, [] => false
  | want :: wants, column :: columns => column == want && columnsMatch wants columns

/-- The columns of a header line. -/
def headerColumns (header : Bytes) : List Bytes :=
  fields (fun b => b == 0x20 || b == 0x09 || b == 0x0D) header

def isUnixTableHeader (header : Bytes) : Bool :=
  columnsMatch UNIX_TABLE_COLUMNS (headerColumns header)

/-- One line of the table, with the inodes found so far. -/
def unixRowInodes (path : Bytes) (out : List UInt64) (line : Bytes) : List UInt64 :=
  match splitUnixRow line with
  | none => out
  | some (inode, rowPath) =>
      if rowPath = path ∧ inode ∉ out then out ++ [inode] else out

/-- The inodes of every row whose name is exactly `path`, in first-seen order and without
repeats; an error when the document is not the table. -/
def unixSocketInodes (table path : Bytes) : Except Unit (List UInt64) :=
  match table.splitOn LF with
  | [] => .error ()
  | header :: lines =>
      if isUnixTableHeader header then .ok (lines.foldl (unixRowInodes path) [])
      else .error ()

/-! ## Framing -/

theorem fromPosition_append {p : UInt8 → Bool} {skipped : Bytes}
    (h : ∀ b ∈ skipped, p b = false) (rest : Bytes) :
    fromPosition p (skipped ++ rest) = fromPosition p rest := by
  have hdrop : (skipped ++ rest).dropWhile (fun b => !p b) = rest.dropWhile (fun b => !p b) := by
    rw [List.dropWhile_append_of_pos]
    intro b hb
    rw [h b hb]
    rfl
  rw [fromPosition, fromPosition, hdrop]

theorem fromPosition_cons {p : UInt8 → Bool} {b : UInt8} (h : p b = true) (rest : Bytes) :
    fromPosition p (b :: rest) = some (b :: rest) := by
  rw [fromPosition, List.dropWhile_cons_of_neg (by simp [h])]

theorem fromPosition_eq_none {p : UInt8 → Bool} {bytes : Bytes}
    (h : ∀ b ∈ bytes, p b = false) : fromPosition p bytes = none := by
  have := fromPosition_append h []
  rw [List.append_nil] at this
  rw [this]
  rfl

theorem columnsMatch_iff (wants columns : List Bytes) :
    columnsMatch wants columns = true ↔ columns = wants := by
  induction wants generalizing columns with
  | nil => simp [columnsMatch]
  | cons want wants ih =>
      cases columns with
      | nil => simp [columnsMatch]
      | cons column columns => simp [columnsMatch, ih]

/-- A header is the table's exactly when its columns are the eight names in order. -/
theorem isUnixTableHeader_iff (header : Bytes) :
    isUnixTableHeader header = true ↔ headerColumns header = UNIX_TABLE_COLUMNS :=
  columnsMatch_iff _ _

/-! ## What a list of lines discloses -/

/-- The inode a line discloses for a path. -/
def lineInode (path line : Bytes) : Option UInt64 :=
  match splitUnixRow line with
  | some (inode, rowPath) => if rowPath = path then some inode else none
  | none => none

/-- The inodes a list of lines discloses for a path, in order and with repeats. -/
def disclosed (path : Bytes) (lines : List Bytes) : List UInt64 :=
  lines.filterMap (lineInode path)

theorem disclosed_append (path : Bytes) (lines lines' : List Bytes) :
    disclosed path (lines ++ lines') = disclosed path lines ++ disclosed path lines' :=
  List.filterMap_append

theorem disclosed_cons (path line : Bytes) (lines : List Bytes) :
    disclosed path (line :: lines) = (lineInode path line).toList ++ disclosed path lines := by
  rw [disclosed, List.filterMap_cons]
  cases lineInode path line <;> rfl

theorem unixRowInodes_eq (path : Bytes) (out : List UInt64) (line : Bytes) :
    unixRowInodes path out line = (lineInode path line).toList.foldl pushNew out := by
  unfold unixRowInodes lineInode
  -- a row for the path is pushed unless its inode is there already
  cases splitUnixRow line with
  | none => rfl
  | some row =>
      obtain ⟨inode, rowPath⟩ := row
      by_cases hpath : rowPath = path
      · by_cases hmem : inode ∈ out <;> simp [hpath, hmem, pushNew]
      · simp [hpath]

theorem foldl_unixRowInodes (path : Bytes) (lines : List Bytes) (out : List UInt64) :
    lines.foldl (unixRowInodes path) out = (disclosed path lines).foldl pushNew out := by
  induction lines generalizing out with
  | nil => rfl
  | cons line lines ih =>
      rw [List.foldl_cons, ih, disclosed_cons, List.foldl_append, unixRowInodes_eq]

/-- The decoder returns what the lines under the header disclose, without repeats. -/
theorem unixSocketInodes_of_header {header : Bytes} {lines : List Bytes} {table path : Bytes}
    (hsplit : table.splitOn LF = header :: lines)
    (hheader : headerColumns header = UNIX_TABLE_COLUMNS) :
    unixSocketInodes table path = .ok (disclosed path lines).eraseDups := by
  rw [unixSocketInodes, hsplit]
  show (if isUnixTableHeader header then _ else _) = _
  rw [if_pos ((isUnixTableHeader_iff header).mpr hheader), foldl_unixRowInodes,
    foldl_pushNew_nil]

/-- Anything else in the first line is refused. -/
theorem unixSocketInodes_of_not_header {table path : Bytes}
    (h : ∀ header lines, table.splitOn LF = header :: lines →
      headerColumns header ≠ UNIX_TABLE_COLUMNS) :
    unixSocketInodes table path = .error () := by
  rw [unixSocketInodes]
  cases hsplit : table.splitOn LF with
  | nil => rfl
  | cons header lines =>
      have hno := mt (isUnixTableHeader_iff header).mp (h header lines hsplit)
      show (if isUnixTableHeader header then _ else _) = _
      rw [if_neg hno]

end Osfacts.UnixSocket
