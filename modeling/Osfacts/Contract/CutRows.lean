import Osfacts.Contract.BrokenWrite

set_option autoImplicit false

/-! # Rows that were cut off

A reader accepts a fixed number of columns for each tag, so what is left of a row can be read only
if nothing but its last column is cut. What then has to be left of that column depends on the row:
a number may lose digits, a name anything, and a bind address of 32 characters all but 8.
-/

namespace Osfacts

open Client

/-! ## Columns that were cut -/

/-- A column that arrived, whole or cut. -/
def Part (column piece : Text) : Prop := piece = column ∨ Utf8.Cut column piece

theorem Part.exists_append {column piece : Text} (h : Part column piece)
    (hascii : ∀ c ∈ column, c.toNat < 128) : ∃ rest, column = piece ++ rest := by
  rcases h with rfl | h
  · exact ⟨[], (List.append_nil _).symm⟩
  · exact h.exists_append hascii

theorem ascii_of_all {t : Text} (h : t.all (fun c => decide (c.toNat < 128)) = true) :
    ∀ c ∈ t, c.toNat < 128 :=
  fun c hc => of_decide_eq_true (List.all_eq_true.mp h c hc)

theorem ascii_of_isDigit {c : Char} (h : c.isDigit = true) : c.toNat < 128 := by
  rw [Char.isDigit, Bool.and_eq_true, decide_eq_true_eq, decide_eq_true_eq] at h
  have hnine : c.toNat ≤ 57 := h.2
  omega

theorem ascii_decimal (n : Nat) : ∀ c ∈ Decimal.decimal n, c.toNat < 128 :=
  fun _ hc => ascii_of_isDigit (Decimal.isDigit_of_mem_decimal hc)

/-- A reader that takes every part of a numeral but the empty one. -/
def ReadsParts {α : Type} (read : Option Text → Except OsfactsClientError α) (n : Nat) : Prop :=
  (∀ v, read (some []) ≠ .ok v) ∧
    ∀ piece, Part (Decimal.decimal n) piece → piece ≠ [] → ∃ v, read (some piece) = .ok v

theorem ReadsParts.ok_iff {α : Type} {read : Option Text → Except OsfactsClientError α} {n : Nat}
    (h : ReadsParts read n) {piece : Text} (hpart : Part (Decimal.decimal n) piece) :
    (∃ v, read (some piece) = .ok v) ↔ piece ≠ [] := by
  constructor
  · rintro ⟨v, hv⟩ rfl
    exact h.1 v hv
  · exact h.2 piece hpart

theorem integer_reads_parts {n : Nat} (hn : n ≤ MAX_SAFE_INTEGER) (what : String) :
    ReadsParts (fun raw => integer raw what) n := by
  refine ⟨fun v hv => ?_, fun piece hpart hne => ?_⟩
  · cases hv
  · obtain ⟨rest, hrest⟩ := hpart.exists_append (ascii_decimal n)
    obtain ⟨hnumeral, hle, -⟩ := Decimal.first_digits hrest hne
    refine ⟨Decimal.value piece, ?_⟩
    simp only [integer, numeric, hnumeral, if_true]
    rw [if_pos (by simpa using hle.trans hn)]
    rfl

theorem positiveInteger_reads_parts {n : Nat} (hn : n ≤ MAX_SAFE_INTEGER) (hpos : n ≠ 0)
    (what : String) : ReadsParts (fun raw => positiveInteger raw what) n := by
  refine ⟨fun v hv => ?_, fun piece hpart hne => ?_⟩
  · cases hv
  · obtain ⟨rest, hrest⟩ := hpart.exists_append (ascii_decimal n)
    obtain ⟨hnumeral, hle, hvalue⟩ := Decimal.first_digits hrest hne
    refine ⟨Decimal.value piece, ?_⟩
    simp only [positiveInteger, integer, numeric, hnumeral, if_true]
    rw [if_pos (by simpa using hle.trans hn)]
    show (if Decimal.value piece = 0 then _ else _) = _
    rw [if_neg (hvalue hpos)]
    rfl

theorem part_dash {piece : Text} (h : Part "-".toList piece) : piece = [] ∨ piece = "-".toList := by
  obtain ⟨rest, hrest⟩ := h.exists_append (ascii_of_all rfl)
  cases piece with
  | nil => exact Or.inl rfl
  | cons c piece =>
      obtain ⟨rfl, hnil⟩ := List.cons.inj hrest
      rw [(List.append_eq_nil_iff.mp hnil.symm).1]
      exact Or.inr rfl

/-- A part of a numeral is no dash. -/
theorem part_decimal_ne_dash {n : Nat} {piece : Text} (h : Part (Decimal.decimal n) piece) :
    piece ≠ "-".toList := by
  rintro rfl
  obtain ⟨rest, hrest⟩ := h.exists_append (ascii_decimal n)
  have hmem : '-' ∈ Decimal.decimal n := by
    rw [hrest]
    exact List.mem_append_left rest (List.mem_singleton_self _)
  exact Decimal.not_mem_decimal rfl hmem

theorem dashOr_part {α : Type} {read : Option Text → Except OsfactsClientError α} {n : Option Nat}
    (h : ∀ m, n = some m → ReadsParts read m) (hnil : ∀ v, read (some []) ≠ .ok v) {piece : Text}
    (hpart : Part (orDash n) piece) :
    (∃ v, dashOr (some piece) (read (some piece)) = .ok v) ↔ piece ≠ [] := by
  have hempty : ¬ ∃ v, dashOr (some []) (read (some [])) = .ok v := by
    rintro ⟨v, hv⟩
    rw [dashOr, if_neg (by decide)] at hv
    cases hread : read (some []) with
    | error e =>
        rw [hread] at hv
        cases hv
    | ok a => exact hnil a hread
  constructor
  · rintro hok rfl
    exact hempty hok
  · intro hne
    cases n with
    | none =>
        rcases part_dash hpart with rfl | rfl
        · exact absurd rfl hne
        · exact ⟨none, rfl⟩
    | some m =>
        obtain ⟨v, hv⟩ := (h m rfl).2 piece hpart hne
        refine ⟨some v, ?_⟩
        rw [dashOr, if_neg (fun heq => part_decimal_ne_dash hpart (Option.some.inj heq)), hv]
        rfl

/-- The last column of a holder row. -/
theorem attribution_part {a : Attribution} (ha : a.Wire) {status pid piece : Text}
    (hcolumns : attributionColumns a = [status, pid]) (hpart : Part pid piece) (line : Text)
    (what : String) :
    (∃ v, attribution (some status) (some piece) line what = .ok v) ↔ piece ≠ [] := by
  cases a with
  | claimed n =>
      obtain ⟨rfl, hpid⟩ := List.cons.inj hcolumns
      obtain ⟨rfl, -⟩ := List.cons.inj hpid
      have hparts := positiveInteger_reads_parts (uint32_le n) (toNat_ne_zero ha) (what ++ " pid")
      have hdash := part_decimal_ne_dash hpart
      show (∃ v, (if some piece = some "-".toList then _
        else SocketHolderRow.claimed <$> positiveInteger (some piece) (what ++ " pid")) = .ok v) ↔ _
      rw [if_neg (fun heq => hdash (Option.some.inj heq)), ← hparts.ok_iff hpart]
      cases positiveInteger (some piece) (what ++ " pid") with
      | error e => exact iff_of_false (by rintro ⟨v, hv⟩; cases hv) (by rintro ⟨v, hv⟩; cases hv)
      | ok n => exact iff_of_true ⟨_, rfl⟩ ⟨_, rfl⟩
  | unclaimed =>
      obtain ⟨rfl, hpid⟩ := List.cons.inj hcolumns
      obtain ⟨rfl, -⟩ := List.cons.inj hpid
      rcases part_dash hpart with rfl | rfl
      · exact iff_of_false (by rintro ⟨v, hv⟩; cases hv) (not_not.mpr rfl)
      · exact iff_of_true ⟨_, rfl⟩ (by decide)

/-! ## How many columns a row has -/

theorem arity_ok {f : List Text} {n : Nat} {row : Text} {u : Unit} (h : arity f n row = .ok u) :
    f.length = n := by
  by_contra hne
  rw [arity, if_pos hne] at h
  cases h

/-- The columns of a row a parser accepts: its tag, and how many there are. -/
def SNAPSHOT_ARITY : List (Text × Nat) :=
  [(['P'], 4), (['M'], 3), (['S'], 3), (['C'], 3), ("UID".toList, 3), ("CWD".toList, 3),
    ("STAT".toList, 5), ("ARGV".toList, 3), (['L'], 6), (['U'], 4), (['E'], 4)]

def SOCKET_HOLDERS_ARITY : List (Text × Nat) :=
  [(['H'], 3), (['P'], 4), (['U'], 4), (['E'], 4)]

theorem snapshotRow_arity {J : JsonLib} {out out' : SnapshotReading} {line : Text}
    (h : snapshotRow J out line = .ok out') :
    (tagOf line, (line.splitOn '\t').length) ∈ SNAPSHOT_ARITY := by
  unfold snapshotRow at h
  unfold tagOf
  simp only [] at h
  split at h
  case h_12 => cases h
  all_goals
    rename_i htag
    obtain ⟨row, hrow, -⟩ := bind_ok_iff.mp h
    rw [htag]
  case h_1 | h_7 | h_9 | h_10 | h_11 =>
    obtain ⟨u, harity, -⟩ := bind_ok_iff.mp hrow
    rw [arity_ok harity]
    decide
  all_goals
    rw [arity_ok hrow]
    decide

theorem socketHoldersRow_arity {out out' : SocketHoldersReading} {line : Text}
    (h : socketHoldersRow out line = .ok out') :
    (tagOf line, (line.splitOn '\t').length) ∈ SOCKET_HOLDERS_ARITY := by
  unfold socketHoldersRow at h
  unfold tagOf
  simp only [] at h
  split at h
  case h_5 => cases h
  all_goals
    rename_i htag
    obtain ⟨row, hrow, -⟩ := bind_ok_iff.mp h
    rw [htag]
  case h_1 =>
    rw [arity_ok hrow]
    decide
  all_goals
    obtain ⟨u, harity, -⟩ := bind_ok_iff.mp hrow
    rw [arity_ok harity]
    decide

/-! ## The last column of a row -/

/-- What a snapshot reader asks of the last column of a row of this tag. -/
def SnapshotColumn (J : JsonLib) (tag column : Text) : Prop :=
  match tag with
  | ['P'] => True
  | ['C', 'W', 'D'] => ∃ cwd, jsonString J (some column) "cwd" = .ok cwd
  | ['A', 'R', 'G', 'V'] => ∃ argv, jsonStrings J (some column) "argv" = .ok argv
  | ['L'] => column.length = 8 ∨ column.length = 32
  | _ => column ≠ []

/-- The same for a reader of holders. -/
def SocketHoldersColumn (tag column : Text) : Prop :=
  match tag with
  | ['P'] => True
  | _ => column ≠ []

/-- A row that keeps all its columns but the last, and of the last one something the reader
takes. -/
def FragmentReads (reads : Text → Text → Prop) (row : List Text) (piece : Text) : Prop :=
  ∃ column, piece.splitOn '\t' = row.dropLast ++ [column] ∧ reads (row.headD []) column

section Fragment

variable {α R : Type}

theorem exists_bind_ok {x : Except OsfactsClientError α} {f : α → Except OsfactsClientError R}
    (hf : ∀ a, ∃ r, f a = .ok r) : (∃ r, (x >>= f) = .ok r) ↔ ∃ a, x = .ok a := by
  cases x with
  | error e => exact iff_of_false (by rintro ⟨r, hr⟩; cases hr) (by rintro ⟨a, ha⟩; cases ha)
  | ok a => exact iff_of_true (hf a) ⟨a, rfl⟩

/-- A row of a pid and one more column is read when that column is. -/
theorem pidColumn_ok_iff (pid : Pid) (what : String) (read : Except OsfactsClientError α)
    (build : Nat → α → R) :
    (∃ r, (do
      let n ← integer (some (Decimal.decimal pid.toNat)) what
      let v ← read
      pure (build n v)) = .ok r) ↔ ∃ v, read = .ok v := by
  rw [integer_uint32]
  exact exists_bind_ok fun v => ⟨_, rfl⟩

theorem procRow_part (p : Proc) (column line : Text) :
    ∃ row, procRow ["P".toList, Decimal.decimal p.pid.toNat, Decimal.decimal p.ppid.toNat, column]
      line = .ok row := by
  show ∃ row, (integer (some (Decimal.decimal p.pid.toNat)) "pid" >>= _) = .ok row
  rw [integer_uint32]
  show ∃ row, (integer (some (Decimal.decimal p.ppid.toNat)) "ppid" >>= _) = .ok row
  rw [integer_uint32]
  exact ⟨_, rfl⟩

theorem unreadableRow_part {u : Unreadable} (h : u.Wire) (column line : Text) :
    (∃ row, unreadableRow ["U".toList, Decimal.decimal u.pid.toNat, u.facet.asStr, column] line
      = .ok row) ↔ column ≠ [] := by
  have hfacet : u.facet.asStr ∈ UNREADABLE_FACETS := by
    rw [unreadable_facets_eq]
    exact List.mem_map_of_mem h.facet_mem
  by_cases hcolumn : column = []
  · subst hcolumn
    refine iff_of_false ?_ (not_not.mpr rfl)
    rintro ⟨row, hrow⟩
    change (if u.facet.asStr ∉ UNREADABLE_FACETS then _ else _) = _ at hrow
    rw [if_neg (not_not.mpr hfacet)] at hrow
    cases hrow
  · refine iff_of_true ⟨⟨u.pid.toNat, u.facet.asStr, column⟩, ?_⟩ hcolumn
    show (if u.facet.asStr ∉ UNREADABLE_FACETS then _ else _) = _
    rw [if_neg (not_not.mpr hfacet)]
    show (if column = [] then _ else _) = _
    rw [if_neg hcolumn]
    show (integer (some (Decimal.decimal u.pid.toNat)) "unreadable pid" >>= _) = _
    rw [integer_uint32]
    rfl

theorem sourceErrorRow_part {facets : List Facet} {allowed : List Text}
    (hallowed : allowed = facets.map Facet.asStr) {e : SourceError} (h : e.Wire facets)
    (column line : Text) :
    (∃ row, sourceErrorRow ["E".toList, e.source, e.facet.asStr, column] line allowed = .ok row) ↔
      column ≠ [] := by
  have hfacet : e.facet.asStr ∈ allowed := by
    rw [hallowed]
    exact List.mem_map_of_mem h.facet_mem
  by_cases hcolumn : column = []
  · refine iff_of_false ?_ (not_not.mpr hcolumn)
    rintro ⟨row, hrow⟩
    change (if e.source = [] ∨ column = [] then _ else _) = _ at hrow
    rw [if_pos (Or.inr hcolumn)] at hrow
    cases hrow
  · refine iff_of_true ⟨⟨e.source, e.facet.asStr, column⟩, ?_⟩ hcolumn
    show (if e.source = [] ∨ column = [] then _ else _) = _
    rw [if_neg (not_or.mpr ⟨h.source_ne_nil, hcolumn⟩)]
    show (if e.facet.asStr ∉ allowed then _ else _) = _
    rw [if_neg (not_not.mpr hfacet)]
    rfl

theorem statusRow_part {s : ProcessStatus} (h : s.Wire) {column : Text}
    (hpart : Part (orDash (s.threads.map UInt32.toNat)) column) (line : Text) :
    (∃ row, statusRow ["STAT".toList, Decimal.decimal s.pid.toNat, [s.state],
      Decimal.signedDecimal s.nice.toInt, column] line = .ok row) ↔ column ≠ [] := by
  have hthreads : ∀ m, s.threads.map UInt32.toNat = some m →
      ReadsParts (fun raw => positiveInteger raw "thread count") m := by
    intro m hm
    obtain ⟨n, hn, rfl⟩ := Option.map_eq_some_iff.mp hm
    refine positiveInteger_reads_parts (uint32_le n) (toNat_ne_zero ?_) "thread count"
    rintro rfl
    exact h.threads_pos hn
  have hnil : ∀ v, positiveInteger (some []) "thread count" ≠ .ok v := by
    intro v hv
    cases hv
  rw [← dashOr_part hthreads hnil hpart]
  show (∃ row, (integer (some (Decimal.decimal s.pid.toNat)) "status pid" >>= _) = .ok row) ↔ _
  rw [integer_uint32]
  show (∃ row, (signedInteger (some (Decimal.signedDecimal s.nice.toInt)) "nice value" >>= _)
    = .ok row) ↔ _
  rw [signedInteger_signedDecimal (natAbs_toInt_le _)]
  exact exists_bind_ok fun v => ⟨_, rfl⟩

/-- A line is its columns, separated. -/
theorem eq_tsvLine {line : Text} {columns : List Text} (h : line.splitOn '\t' = columns) :
    line = tsvLine columns := by
  rw [← h]
  exact (List.intercalate_splitOn '\t').symm

theorem listenerRow_address {f : List Text} {line : Text} {row : ListenerRow}
    (h : listenerRow f line = .ok row) : (f.getD 5 []).length = 8 ∨ (f.getD 5 []).length = 32 := by
  unfold listenerRow at h
  obtain ⟨-, -, h⟩ := bind_ok_iff.mp h
  obtain ⟨uid, -, h⟩ := bind_ok_iff.mp h
  obtain ⟨port, -, h⟩ := bind_ok_iff.mp h
  by_cases hport : ¬ isTcpPort port = true
  · rw [if_pos hport] at h
    cases h
  rw [if_neg hport] at h
  by_contra haddress
  rw [if_pos (Or.inl haddress)] at h
  cases h

theorem ascii_of_isLowerHex {t : Text} (h : isLowerHex t = true) : ∀ c ∈ t, c.toNat < 128 := by
  intro c hc
  simp only [isLowerHex, Bool.and_eq_true, List.all_eq_true, Bool.or_eq_true,
    decide_eq_true_eq] at h
  rcases h.2 c hc with hdigit | ⟨-, hle⟩
  · exact ascii_of_isDigit hdigit
  · have hf : c.toNat ≤ 102 := hle
    omega

theorem snapshotRow_port_part {l : Port} (h : l.Wire) (J : JsonLib) (out : SnapshotReading)
    {line column : Text} (hline : line.splitOn '\t' = l.row.dropLast ++ [column])
    (hpart : Part l.address column) :
    (∃ r, snapshotRow J out line = .ok r) ↔ column.length = 8 ∨ column.length = 32 := by
  have hrow : l.row.dropLast ++ [column] = Port.row { l with address := column } := by
    rw [Port.row, Port.row]
    cases l.attribution <;> rfl
  rw [hrow] at hline
  constructor
  · rintro ⟨r, hr⟩
    rw [snapshotRow, hline] at hr
    obtain ⟨row, hlistener, -⟩ := bind_ok_iff.mp hr
    have haddress := listenerRow_address hlistener
    rw [Port.row] at haddress
    cases hattribution : l.attribution with
    | claimed pid => simpa [hattribution, attributionColumns] using haddress
    | unclaimed => simpa [hattribution, attributionColumns] using haddress
  · intro hlength
    have hwire : Port.Wire { l with address := column } := by
      obtain ⟨rest, hrest⟩ := hpart.exists_append (ascii_of_isLowerHex h.address_hex)
      have hhex := h.address_hex
      rw [hrest, isLowerHex, List.all_append, Bool.and_eq_true, Bool.and_eq_true] at hhex
      refine ⟨h.attribution_wire, h.port_ne_zero, hlength, ?_⟩
      rw [isLowerHex, Bool.and_eq_true]
      refine ⟨?_, hhex.2.1⟩
      cases column with
      | nil => exact absurd hlength (by decide)
      | cons c column => rfl
    rw [eq_tsvLine hline]
    exact ⟨_, snapshotRow_port hwire J out⟩

end Fragment

/-- A row of a well-formed snapshot that lost a part of its last column. -/
theorem snapshotRow_part {J : JsonLib} {s : Snapshot} (h : s.Wire)
    {row : List Text} (hrow : row ∈ s.bodyRows J) (out : SnapshotReading) {line column : Text}
    (hline : line.splitOn '\t' = row.dropLast ++ [column])
    (hpart : Part (row.getLastD []) column) :
    (∃ r, snapshotRow J out line = .ok r) ↔ SnapshotColumn J (row.headD []) column := by
  simp only [Snapshot.bodyRows, List.mem_append, List.mem_map] at hrow
  rcases hrow with (((((((((hrow | hrow) | hrow) | hrow) | hrow) | hrow) | hrow) | hrow) | hrow)
    | hrow) | hrow
  all_goals obtain ⟨x, hx, rfl⟩ := hrow
  · obtain ⟨row, hproc⟩ := procRow_part x column line
    rw [snapshotRow, hline]
    show (∃ r, (procRow _ line >>= _) = .ok r) ↔ _
    exact iff_of_true ⟨_, bind_ok_iff.mpr ⟨row, hproc, rfl⟩⟩ trivial
  · rw [snapshotRow, hline]
    exact (pidColumn_ok_iff x.pid _ (integer (some column) "rss") _).trans
      ((integer_reads_parts (h.memory x hx) "rss").ok_iff hpart)
  · rw [snapshotRow, hline]
    exact (pidColumn_ok_iff x.pid _ (integer (some column) "start time") _).trans
      ((integer_reads_parts (h.startTimes x hx) "start time").ok_iff hpart)
  · rw [snapshotRow, hline]
    exact (pidColumn_ok_iff x.pid _ (integer (some column) "cumulative cpu time") _).trans
      ((integer_reads_parts (h.cpuTimes x hx) "cumulative cpu time").ok_iff hpart)
  · rw [snapshotRow, hline]
    exact (pidColumn_ok_iff x.pid _ (integer (some column) "uid") _).trans
      ((integer_reads_parts (uint32_le x.uid) "uid").ok_iff hpart)
  · rw [snapshotRow, hline]
    exact pidColumn_ok_iff x.pid _ (jsonString J (some column) "cwd") _
  · have hstatus := statusRow_part (h.statuses x hx) hpart line
    rw [snapshotRow, hline]
    exact (exists_bind_ok fun row => ⟨_, rfl⟩).trans hstatus
  · rw [snapshotRow, hline]
    exact pidColumn_ok_iff x.pid _ (jsonStrings J (some column) "argv") _
  · have hlast : x.row.getLastD [] = x.address := by
      rw [Port.row]
      cases x.attribution <;> rfl
    rw [hlast] at hpart
    exact snapshotRow_port_part (h.ports x hx) J out hline hpart
  · have hunreadable := unreadableRow_part (h.unreadable x hx) column line
    rw [snapshotRow, hline]
    exact (exists_bind_ok fun row => ⟨_, rfl⟩).trans hunreadable
  · have herror := sourceErrorRow_part snapshot_source_facets_eq (h.errors x hx) column line
    rw [snapshotRow, hline]
    exact (exists_bind_ok fun row => ⟨_, rfl⟩).trans herror

/-- The rows of a document of holders after the version row. -/
def SocketHolders.bodyRows (s : SocketHolders) : List (List Text) :=
  s.holders.map Attribution.row ++ s.procs.map Proc.row ++ s.unreadable.map Unreadable.row
    ++ s.errors.map SourceError.row

theorem SocketHolders.tsvRows_eq (J : JsonLib) (s : SocketHolders) :
    tsvRows J s = versionRow s.version :: s.bodyRows := by
  simp only [tsvRows, SocketHolders.bodyRows, List.cons_append]

theorem socketHoldersRow_part {s : SocketHolders} (h : s.Wire) {row : List Text}
    (hrow : row ∈ s.bodyRows) (out : SocketHoldersReading) {line column : Text}
    (hline : line.splitOn '\t' = row.dropLast ++ [column])
    (hpart : Part (row.getLastD []) column) :
    (∃ r, socketHoldersRow out line = .ok r) ↔ SocketHoldersColumn (row.headD []) column := by
  simp only [SocketHolders.bodyRows, List.mem_append, List.mem_map] at hrow
  rcases hrow with ((hrow | hrow) | hrow) | hrow
  all_goals obtain ⟨x, hx, rfl⟩ := hrow
  · obtain ⟨status, pid, hcolumns⟩ : ∃ status pid, attributionColumns x = [status, pid] := by
      cases x <;> exact ⟨_, _, rfl⟩
    rw [Attribution.row, hcolumns] at hpart hline ⊢
    have hattribution := attribution_part (h.holders x hx) hcolumns hpart line "holder"
    rw [socketHoldersRow, hline]
    exact (exists_bind_ok fun row => ⟨_, rfl⟩).trans hattribution
  · obtain ⟨row, hproc⟩ := procRow_part x column line
    rw [socketHoldersRow, hline]
    show (∃ r, (procRow _ line >>= _) = .ok r) ↔ _
    exact iff_of_true ⟨_, bind_ok_iff.mpr ⟨row, hproc, rfl⟩⟩ trivial
  · have hunreadable := unreadableRow_part (h.unreadable x hx) column line
    rw [socketHoldersRow, hline]
    exact (exists_bind_ok fun row => ⟨_, rfl⟩).trans hunreadable
  · have herror := sourceErrorRow_part socket_holders_source_facets_eq (h.errors x hx) column line
    rw [socketHoldersRow, hline]
    exact (exists_bind_ok fun row => ⟨_, rfl⟩).trans herror

/-! ## Rows that were cut -/

/-- A row of which a part arrived, column by column. -/
theorem part_splitOn {row : List Text} (hok : RowOk row) {piece : Text}
    (h : Part (tsvLine row) piece) : ∃ whole last rest column,
      row = whole ++ last :: rest ∧ piece.splitOn '\t' = whole ++ [column] ∧ Part last column := by
  have hsplit := splitOn_tsvLine hok
  rcases h with rfl | h
  · have hne : row ≠ [] := by
      rintro rfl
      exact hok.tag_ne_nil rfl
    have hlast := List.dropLast_append_getLast hne
    exact ⟨row.dropLast, row.getLast hne, [], row.getLast hne, hlast.symm,
      hsplit.trans hlast.symm, Or.inl rfl⟩
  · obtain ⟨whole, last, rest, column, hwhole, hpiece, hcut⟩ :=
      h.splitOn (by decide : '\t'.toNat < 128)
    exact ⟨whole, last, rest, column, hsplit.symm.trans hwhole, hpiece, hcut.imp And.left id⟩

/-- **A part of a row is read when only its last column is cut.** A reader that accepts a fixed
number of columns for each tag cannot take a row that lost one. -/
theorem reads_part_iff {R : Type} {reader : R → Text → Except OsfactsClientError R} {empty : R}
    {table : List (Text × Nat)} {reads : Text → Text → Prop}
    (htwo : ∀ p ∈ table, 2 ≤ p.2) (hone : ∀ p ∈ table, ∀ q ∈ table, p.1 = q.1 → p.2 = q.2)
    (harity : ∀ line r, reader empty line = .ok r →
      (tagOf line, (line.splitOn '\t').length) ∈ table)
    {row : List Text} (hok : RowOk row) (hrow : ∃ r, reader empty (tsvLine row) = .ok r)
    (hlast : ∀ line column, line.splitOn '\t' = row.dropLast ++ [column] →
      Part (row.getLastD []) column →
        ((∃ r, reader empty line = .ok r) ↔ reads (row.headD []) column))
    {piece : Text} (hpiece : Part (tsvLine row) piece) :
    Reads reader empty piece ↔ piece = [] ∨ FragmentReads reads row piece := by
  obtain ⟨whole, last, rest, column, hrest, hcolumns, hpart⟩ := part_splitOn hok hpiece
  unfold Reads
  refine or_congr_right ?_
  constructor
  · rintro ⟨r, hr⟩
    have hmem := harity piece r hr
    rw [tagOf, hcolumns] at hmem
    obtain ⟨r', hr'⟩ := hrow
    have hmem' := harity _ r' hr'
    rw [tagOf, splitOn_tsvLine hok, hrest] at hmem'
    have hlen := htwo _ hmem
    simp only [List.length_append, List.length_singleton] at hlen
    obtain ⟨tag, whole, rfl⟩ := List.exists_cons_of_ne_nil
      (List.length_pos_iff.mp (by omega : 0 < whole.length))
    have heq := hone _ hmem _ hmem' rfl
    simp only [List.length_append, List.length_cons, List.length_nil] at heq
    obtain rfl := List.length_eq_zero_iff.mp (by omega : rest.length = 0)
    have hdrop : row.dropLast = tag :: whole := by
      rw [hrest, List.dropLast_concat]
    have hgetLast : row.getLastD [] = last := by
      rw [hrest, List.getLastD_concat]
    refine ⟨column, hdrop ▸ hcolumns, ?_⟩
    exact (hlast piece column (hdrop ▸ hcolumns) (hgetLast ▸ hpart)).mp ⟨r, hr⟩
  · rintro ⟨column', hcolumns', hreads⟩
    rw [hcolumns] at hcolumns'
    obtain ⟨hwhole, hcolumn⟩ := List.append_inj' hcolumns' rfl
    obtain rfl : column = column' := (List.cons.inj hcolumn).1
    have hlen : whole.length = row.length - 1 := by
      rw [hwhole, List.length_dropLast]
    rw [hrest] at hlen
    simp only [List.length_append, List.length_cons] at hlen
    obtain rfl := List.length_eq_zero_iff.mp (by omega : rest.length = 0)
    have hgetLast : row.getLastD [] = last := by
      rw [hrest, List.getLastD_concat]
    exact (hlast piece column (hwhole ▸ hcolumns) (hgetLast ▸ hpart)).mpr hreads

end Osfacts
