import Osfacts.Client.Parse

set_option autoImplicit false

/-! # Rows on the wire

What one row of each kind has to satisfy to survive the wire (`Wire`), what the client holds
after reading it (`view`), and the lemma that connects the two: the client's row reader, on
the line the sensor writes, appends the view and nothing else. Documents are assembled from
these lemmas in `Contract/RoundTrip.lean`.
-/

namespace Osfacts

open Client

/-! ## Plain columns -/

/-- A column without tabs and line feeds. -/
def Plain (column : Text) : Prop := '\t' ∉ column ∧ '\n' ∉ column

instance (column : Text) : Decidable (Plain column) := inferInstanceAs (Decidable (_ ∧ _))

/-- A row that is framed without ambiguity: a tag, and plain columns. -/
structure RowOk (columns : List Text) : Prop where
  tag_ne_nil : columns.headD [] ≠ []
  plain : ∀ column ∈ columns, Plain column

theorem plain_decimal (n : Nat) : Plain (Decimal.decimal n) :=
  ⟨Decimal.not_mem_decimal rfl, Decimal.not_mem_decimal rfl⟩

theorem plain_signedDecimal (i : Int) : Plain (Decimal.signedDecimal i) :=
  ⟨Decimal.not_mem_signedDecimal rfl (by decide), Decimal.not_mem_signedDecimal rfl (by decide)⟩

theorem plain_orDash (n : Option Nat) : Plain (orDash n) := by
  cases n with
  | none => decide
  | some n => exact plain_decimal n

theorem plain_asStr (facet : Facet) : Plain facet.asStr :=
  ⟨Facet.not_mem_asStr rfl (by decide), Facet.not_mem_asStr rfl (by decide)⟩

theorem plain_of_escaped {t : Text} (h : ∀ c ∈ t, 0x20 ≤ c.toNat) : Plain t :=
  ⟨fun hc => absurd (h _ hc) (by decide), fun hc => absurd (h _ hc) (by decide)⟩

theorem plain_attributionColumns (a : Attribution) : ∀ c ∈ attributionColumns a, Plain c := by
  cases a with
  | claimed pid =>
      intro c hc
      simp only [attributionColumns, List.mem_cons, List.not_mem_nil, or_false] at hc
      rcases hc with rfl | rfl
      · decide
      · exact plain_decimal _
  | unclaimed =>
      intro c hc
      simp only [attributionColumns, List.mem_cons, List.not_mem_nil, or_false] at hc
      rcases hc with rfl | rfl <;> decide

theorem rowOk_cons {tag : Text} {columns : List Text} (hne : tag ≠ []) (htag : Plain tag)
    (h : ∀ column ∈ columns, Plain column) : RowOk (tag :: columns) :=
  ⟨hne, fun column hc => (List.mem_cons.mp hc).elim (fun heq => heq ▸ htag) (h column)⟩

/-! ## Framing -/

theorem splitOn_tsvLine {columns : List Text} (h : RowOk columns) :
    (tsvLine columns).splitOn '\t' = columns := by
  have hne : columns ≠ [] := by
    rintro rfl
    exact h.tag_ne_nil rfl
  exact List.splitOn_intercalate '\t' (fun c hc => (h.plain c hc).1) hne

theorem tsvLine_ne_nil {columns : List Text} (h : RowOk columns) : tsvLine columns ≠ [] := by
  intro hnil
  have hsplit := splitOn_tsvLine h
  rw [hnil, List.splitOn_nil] at hsplit
  apply h.tag_ne_nil
  rw [← hsplit]
  rfl

theorem line_feed_not_mem_tsvLine {columns : List Text} (h : RowOk columns) :
    '\n' ∉ tsvLine columns := by
  have hplain := h.plain
  clear h
  induction columns with
  | nil => simp [tsvLine]
  | cons column columns ih =>
      have hrest := ih (fun c hc => hplain c (by simp [hc]))
      cases columns with
      | nil => simpa [tsvLine] using (hplain column (by simp)).2
      | cons next columns =>
          rw [tsvLine, List.intercalate_cons_cons]
          simp only [List.mem_append, List.mem_singleton, not_or]
          exact ⟨⟨(hplain column (by simp)).2, by decide⟩, hrest⟩

/-- A row reader applied to each row of a list. -/
theorem parseRows_tsv {R : Type} (row : R → Text → Except OsfactsClientError R) (empty : R)
    {rows : List (List Text)} (h : ∀ columns ∈ rows, RowOk columns) :
    parseRows row empty (tsv (versionRow SCHEMA_VERSION :: rows))
      = rows.foldlM (fun out columns => row out (tsvLine columns)) empty := by
  have hversion : '\n' ∉ tsvLine (versionRow SCHEMA_VERSION) := by decide
  have hone : ∀ line ∈ tsvLine (versionRow SCHEMA_VERSION) :: rows.map tsvLine, '\n' ∉ line := by
    intro line hline
    rcases List.mem_cons.mp hline with rfl | hline
    · exact hversion
    · obtain ⟨columns, hcolumns, rfl⟩ := List.mem_map.mp hline
      exact line_feed_not_mem_tsvLine (h columns hcolumns)
  have hbody : bodyRows (tsv (versionRow SCHEMA_VERSION :: rows))
      = .ok (rows.map tsvLine ++ [[]]) := by
    rw [bodyRows, tsv, List.map_cons, splitOn_terminated hone]
    rfl
  rw [parseRows, hbody]
  show (rows.map tsvLine ++ [[]]).foldlM _ empty = _
  rw [List.foldlM_append, List.foldlM_map]
  -- no line of a row is empty, so none is skipped
  have hstep : ∀ (rows : List (List Text)) (out : R), (∀ columns ∈ rows, RowOk columns) →
      rows.foldlM (fun out columns =>
        if tsvLine columns = [] then pure out else row out (tsvLine columns)) out
        = rows.foldlM (fun out columns => row out (tsvLine columns)) out := by
    intro rows
    induction rows with
    | nil => exact fun _ _ => rfl
    | cons columns rows ih =>
        intro out hrows
        rw [List.foldlM_cons, List.foldlM_cons, if_neg (tsvLine_ne_nil (hrows columns (by simp)))]
        congr
        funext out
        exact ih out (fun c hc => hrows c (by simp [hc]))
  rw [hstep rows empty h]
  -- the empty piece after the last line feed is skipped
  cases rows.foldlM (fun out columns => row out (tsvLine columns)) empty <;> rfl

/-! ## Folds over blocks of rows -/

section Fold

variable {ε R β γ : Type}

/-- A step that appends the view of each row appends the views of a block. -/
theorem foldlM_block {step : R → β → Except ε R} (block : List β) (view : β → γ)
    (add : R → List γ → R) (hnil : ∀ out, add out [] = out)
    (happ : ∀ out xs ys, add (add out xs) ys = add out (xs ++ ys))
    (h : ∀ x ∈ block, ∀ out, step out x = .ok (add out [view x])) (out : R) :
    block.foldlM step out = .ok (add out (block.map view)) := by
  induction block generalizing out with
  | nil =>
      rw [List.map_nil, hnil]
      rfl
  | cons x block ih =>
      rw [List.foldlM_cons, h x (by simp)]
      show block.foldlM step (add out [view x]) = _
      rw [ih (fun y hy => h y (by simp [hy])), happ]
      rfl

/-- A fold with a row that no state can read fails. -/
theorem foldlM_of_unreadable {step : R → β → Except ε R} {rows : List β} {x : β}
    (hx : x ∈ rows) (h : ∀ out, ∃ e, step out x = .error e) (out : R) :
    ∃ e, rows.foldlM step out = .error e := by
  induction rows generalizing out with
  | nil => cases hx
  | cons y rows ih =>
      rw [List.foldlM_cons]
      rcases List.mem_cons.mp hx with rfl | hx
      · obtain ⟨e, he⟩ := h out
        exact ⟨e, by rw [he]; rfl⟩
      · cases hy : step out y with
        | error e => exact ⟨e, rfl⟩
        | ok out' => exact ih hx out'

end Fold

/-! ## Numbers -/

theorem integer_decimal {n : Nat} (h : n ≤ MAX_SAFE_INTEGER) (what : String) :
    integer (some (Decimal.decimal n)) what = .ok n := by
  simp only [integer, numeric, Decimal.isNumeral_decimal, Decimal.value_decimal, if_true]
  rw [if_pos (by simpa using h)]
  rfl

theorem uint32_le (n : UInt32) : n.toNat ≤ MAX_SAFE_INTEGER := by
  have hlt := n.toNat_lt
  unfold MAX_SAFE_INTEGER
  omega

theorem integer_uint32 (n : UInt32) (what : String) :
    integer (some (Decimal.decimal n.toNat)) what = .ok n.toNat :=
  integer_decimal (uint32_le n) what

/-- Two number columns, read back. -/
theorem twoIntegers {α : Type} {a b : Nat} (ha : a ≤ MAX_SAFE_INTEGER) (hb : b ≤ MAX_SAFE_INTEGER)
    (whatA whatB : String) (build : Nat → Nat → α) :
    (do
      let x ← integer (some (Decimal.decimal a)) whatA
      let y ← integer (some (Decimal.decimal b)) whatB
      pure (build x y)) = .ok (build a b) := by
  rw [integer_decimal ha]
  show (integer (some (Decimal.decimal b)) whatB >>= _) = _
  rw [integer_decimal hb]
  rfl

theorem positiveInteger_decimal {n : Nat} (h : n ≤ MAX_SAFE_INTEGER) (hpos : n ≠ 0)
    (what : String) : positiveInteger (some (Decimal.decimal n)) what = .ok n := by
  rw [positiveInteger, integer_decimal h]
  show (if n = 0 then _ else _) = _
  rw [if_neg hpos]
  rfl

theorem positiveInteger_zero (what : String) :
    ∃ e, positiveInteger (some (Decimal.decimal 0)) what = .error e := by
  rw [positiveInteger, integer_decimal (Nat.zero_le _)]
  exact ⟨_, rfl⟩

theorem decimal_ne_dash (n : Nat) : Decimal.decimal n ≠ "-".toList := by
  intro h
  have hmem : '-' ∈ Decimal.decimal n := by
    rw [h]
    decide
  exact Decimal.not_mem_decimal rfl hmem

theorem signedInteger_signedDecimal {i : Int} (h : i.natAbs ≤ MAX_SAFE_INTEGER)
    (what : String) : signedInteger (some (Decimal.signedDecimal i)) what = .ok i := by
  -- a numeral has no sign in front, so the reader takes the branch that matches the printer's
  have hshape : isSignedNumeral (Decimal.signedDecimal i) = true ∧
      signedValue (Decimal.signedDecimal i) = i := by
    cases i with
    | ofNat n =>
        have hnumeral := Decimal.isNumeral_decimal n
        have hvalue := Decimal.value_decimal n
        rw [Decimal.signedDecimal]
        cases hd : Decimal.decimal n with
        | nil => exact absurd hd (Decimal.decimal_ne_nil n)
        | cons c t =>
            have hmem : c ∈ Decimal.decimal n := by simp [hd]
            have hc : c ≠ '-' := Decimal.mem_decimal_ne hmem rfl
            rw [hd] at hnumeral hvalue
            unfold isSignedNumeral signedValue
            constructor
            · split
              case h_1 heq => exact absurd (List.cons.inj heq).1 hc
              case h_2 => exact hnumeral
            · split
              case h_1 heq => exact absurd (List.cons.inj heq).1 hc
              case h_2 => rw [hvalue]; rfl
    | negSucc n =>
        refine ⟨Decimal.isNumeral_decimal (n + 1), ?_⟩
        show -((Decimal.value (Decimal.decimal (n + 1)) : Nat) : Int) = _
        rw [Decimal.value_decimal]
        rfl
  simp only [signedInteger, numeric, hshape.1, hshape.2, if_true]
  rw [if_pos (by simpa using h)]
  rfl

/-- An optional column written by `orDash` is read back by `dashOr`. -/
theorem dashOr_orDash (read : Option Text → Except OsfactsClientError Nat) {n : Option Nat}
    (h : ∀ m, n = some m → read (some (Decimal.decimal m)) = .ok m) :
    dashOr (some (orDash n)) (read (some (orDash n))) = .ok n := by
  cases n with
  | none => rfl
  | some m =>
      have hne : ¬ some (orDash (some m)) = some "-".toList := by
        rw [Option.some.injEq]
        exact decimal_ne_dash m
      rw [dashOr, if_neg hne]
      show some <$> read (some (Decimal.decimal m)) = _
      rw [h m rfl]
      rfl

/-! ## Rows every document shares -/

def Proc.view (p : Proc) : ProcessRow := ⟨p.pid.toNat, p.ppid.toNat, p.name⟩

def Proc.Wire (p : Proc) : Prop := Plain p.name

theorem Proc.rowOk {p : Proc} (h : p.Wire) : RowOk p.row := by
  apply rowOk_cons (by decide) (by decide)
  simp only [List.forall_mem_cons, List.not_mem_nil, false_imp_iff, implies_true, and_true]
  exact ⟨plain_decimal _, plain_decimal _, h⟩

theorem procRow_row (p : Proc) (line : Text) : procRow p.row line = .ok p.view := by
  show (integer (some (Decimal.decimal p.pid.toNat)) "pid" >>= _) = _
  rw [integer_uint32]
  show (integer (some (Decimal.decimal p.ppid.toNat)) "ppid" >>= _) = _
  rw [integer_uint32]
  rfl

def Unreadable.view (u : Unreadable) : UnreadableRow := ⟨u.pid.toNat, u.facet.asStr, u.errno⟩

structure Unreadable.Wire (u : Unreadable) : Prop where
  facet_mem : u.facet ∈ Facet.UNREADABLE
  errno_ne_nil : u.errno ≠ []
  errno_plain : Plain u.errno

theorem Unreadable.rowOk {u : Unreadable} (h : u.Wire) : RowOk u.row := by
  apply rowOk_cons (by decide) (by decide)
  simp only [List.forall_mem_cons, List.not_mem_nil, false_imp_iff, implies_true, and_true]
  exact ⟨plain_decimal _, plain_asStr _, h.errno_plain⟩

theorem unreadableRow_row {u : Unreadable} (h : u.Wire) (line : Text) :
    unreadableRow u.row line = .ok u.view := by
  have hfacet : u.facet.asStr ∈ UNREADABLE_FACETS := by
    rw [unreadable_facets_eq]
    exact List.mem_map_of_mem h.facet_mem
  show (if u.facet.asStr ∉ UNREADABLE_FACETS then _ else _) = _
  rw [if_neg (not_not.mpr hfacet)]
  show (if u.errno = [] then _ else _) = _
  rw [if_neg h.errno_ne_nil]
  show (integer (some (Decimal.decimal u.pid.toNat)) "unreadable pid" >>= _) = _
  rw [integer_uint32]
  rfl

def SourceError.view (e : SourceError) : SourceErrorRow := ⟨e.source, e.facet.asStr, e.code⟩

/-- An `E` row of a verb whose sources name these facets. -/
structure SourceError.Wire (facets : List Facet) (e : SourceError) : Prop where
  facet_mem : e.facet ∈ facets
  source_ne_nil : e.source ≠ []
  source_plain : Plain e.source
  code_ne_nil : e.code ≠ []
  code_plain : Plain e.code

theorem SourceError.rowOk {facets : List Facet} {e : SourceError} (h : e.Wire facets) :
    RowOk e.row := by
  apply rowOk_cons (by decide) (by decide)
  simp only [List.forall_mem_cons, List.not_mem_nil, false_imp_iff, implies_true, and_true]
  exact ⟨h.source_plain, plain_asStr _, h.code_plain⟩

theorem sourceErrorRow_row {facets : List Facet} {allowed : List Text}
    (hallowed : allowed = facets.map Facet.asStr) {e : SourceError} (h : e.Wire facets)
    (line : Text) : sourceErrorRow e.row line allowed = .ok e.view := by
  have hfacet : e.facet.asStr ∈ allowed := by
    rw [hallowed]
    exact List.mem_map_of_mem h.facet_mem
  show (if e.source = [] ∨ e.code = [] then _ else _) = _
  rw [if_neg (not_or.mpr ⟨h.source_ne_nil, h.code_ne_nil⟩)]
  show (if e.facet.asStr ∉ allowed then _ else _) = _
  rw [if_neg (not_not.mpr hfacet)]
  rfl

/-- A claimed pid is positive. -/
def Attribution.Wire : Attribution → Prop
  | .claimed pid => pid ≠ 0
  | .unclaimed => True

def Attribution.view : Attribution → SocketHolderRow
  | .claimed pid => .claimed pid.toNat
  | .unclaimed => .unclaimed

theorem toNat_ne_zero {n : UInt32} (h : n ≠ 0) : n.toNat ≠ 0 :=
  fun hz => h (UInt32.toNat_inj.mp hz)

/-- The two columns of an attribution, read back. -/
theorem attribution_columns {a : Attribution} (h : a.Wire) (line : Text) (what : String) :
    attribution (attributionColumns a)[0]? (attributionColumns a)[1]? line what
      = .ok a.view := by
  cases a with
  | claimed pid =>
      have hne : ¬ some (Decimal.decimal pid.toNat) = some "-".toList := by
        rw [Option.some.injEq]
        exact decimal_ne_dash _
      show (if some (Decimal.decimal pid.toNat) = some "-".toList then _
        else SocketHolderRow.claimed <$>
          positiveInteger (some (Decimal.decimal pid.toNat)) (what ++ " pid")) = _
      rw [if_neg hne, positiveInteger_decimal (uint32_le pid) (toNat_ne_zero h)]
      rfl
  | unclaimed => rfl

/-- The pid 0 is refused. -/
theorem attribution_columns_zero {a : Attribution} (h : ¬ a.Wire) (line : Text) (what : String) :
    ∃ e, attribution (attributionColumns a)[0]? (attributionColumns a)[1]? line what
      = .error e := by
  cases a with
  | unclaimed => exact absurd True.intro h
  | claimed pid =>
      obtain rfl : pid = 0 := not_not.mp h
      exact ⟨_, rfl⟩

/-! ## Rows of a snapshot -/

theorem pidRow_ok {tag : String} (hne : tag.toList ≠ []) (htag : Plain tag.toList) (pid : Pid)
    {column : Text} (h : Plain column) : RowOk (pidRow tag pid column) := by
  apply rowOk_cons hne htag
  simp only [List.forall_mem_cons, List.not_mem_nil, false_imp_iff, implies_true, and_true]
  exact ⟨plain_decimal _, h⟩

theorem snapshotRow_proc {p : Proc} (h : p.Wire) (J : JsonLib) (out : SnapshotReading) :
    snapshotRow J out (tsvLine p.row) = .ok { out with procs := out.procs ++ [p.view] } := by
  rw [snapshotRow, splitOn_tsvLine (Proc.rowOk h)]
  show (procRow p.row _ >>= _) = _
  rw [procRow_row]
  rfl

def Memory.view (m : Memory) : MemoryRow := ⟨m.pid.toNat, m.rssBytes.toNat⟩

def Memory.Wire (m : Memory) : Prop := m.rssBytes.toNat ≤ MAX_SAFE_INTEGER

theorem Memory.rowOk (m : Memory) : RowOk m.row :=
  pidRow_ok (by decide) (by decide) m.pid (plain_decimal _)

theorem snapshotRow_memory {m : Memory} (h : m.Wire) (J : JsonLib) (out : SnapshotReading) :
    snapshotRow J out (tsvLine m.row) = .ok { out with memory := out.memory ++ [m.view] } := by
  rw [snapshotRow, splitOn_tsvLine m.rowOk]
  exact twoIntegers (uint32_le m.pid) h "memory pid" "rss"
    (fun pid rss => { out with memory := out.memory ++ [MemoryRow.mk pid rss] })

def StartTime.view (s : StartTime) : StartTimeRow := ⟨s.pid.toNat, s.startUnixUs.toNat⟩

def StartTime.Wire (s : StartTime) : Prop := s.startUnixUs.toNat ≤ MAX_SAFE_INTEGER

theorem StartTime.rowOk (s : StartTime) : RowOk s.row :=
  pidRow_ok (by decide) (by decide) s.pid (plain_decimal _)

theorem snapshotRow_startTime {s : StartTime} (h : s.Wire) (J : JsonLib)
    (out : SnapshotReading) :
    snapshotRow J out (tsvLine s.row)
      = .ok { out with startTimes := out.startTimes ++ [s.view] } := by
  rw [snapshotRow, splitOn_tsvLine s.rowOk]
  exact twoIntegers (uint32_le s.pid) h "start-time pid" "start time"
    (fun pid us => { out with startTimes := out.startTimes ++ [StartTimeRow.mk pid us] })

def ProcessCpuTime.view (c : ProcessCpuTime) : ProcessCpuTimeRow :=
  ⟨c.pid.toNat, c.cpuTimeUs.toNat⟩

def ProcessCpuTime.Wire (c : ProcessCpuTime) : Prop := c.cpuTimeUs.toNat ≤ MAX_SAFE_INTEGER

theorem ProcessCpuTime.rowOk (c : ProcessCpuTime) : RowOk c.row :=
  pidRow_ok (by decide) (by decide) c.pid (plain_decimal _)

theorem snapshotRow_cpuTime {c : ProcessCpuTime} (h : c.Wire) (J : JsonLib)
    (out : SnapshotReading) :
    snapshotRow J out (tsvLine c.row)
      = .ok { out with cpuTimes := out.cpuTimes ++ [c.view] } := by
  rw [snapshotRow, splitOn_tsvLine c.rowOk]
  exact twoIntegers (uint32_le c.pid) h "cpu-time pid" "cumulative cpu time"
    (fun pid us => { out with cpuTimes := out.cpuTimes ++ [ProcessCpuTimeRow.mk pid us] })

def ProcessUid.view (u : ProcessUid) : ProcessUidRow := ⟨u.pid.toNat, u.uid.toNat⟩

theorem ProcessUid.rowOk (u : ProcessUid) : RowOk u.row :=
  pidRow_ok (by decide) (by decide) u.pid (plain_decimal _)

theorem snapshotRow_uid (u : ProcessUid) (J : JsonLib) (out : SnapshotReading) :
    snapshotRow J out (tsvLine u.row) = .ok { out with uids := out.uids ++ [u.view] } := by
  rw [snapshotRow, splitOn_tsvLine u.rowOk]
  exact twoIntegers (uint32_le u.pid) (uint32_le u.uid) "uid pid" "uid"
    (fun pid uid => { out with uids := out.uids ++ [ProcessUidRow.mk pid uid] })

def ProcessCwd.view (c : ProcessCwd) : ProcessCwdRow := ⟨c.pid.toNat, c.cwd⟩

theorem ProcessCwd.rowOk {J : JsonLib} (hJ : J.Lawful) (c : ProcessCwd) : RowOk (c.row J) :=
  pidRow_ok (by decide) (by decide) c.pid (plain_of_escaped (hJ.toString_escapes _))

theorem jsonString_toString {J : JsonLib} (hJ : J.Lawful) (t : Text) (what : String) :
    jsonString J (some (J.toString t)) what = .ok t := by
  simp only [jsonString, Option.getD_some, hJ.parse_toString]
  rfl

theorem snapshotRow_cwd {J : JsonLib} (hJ : J.Lawful) (c : ProcessCwd) (out : SnapshotReading) :
    snapshotRow J out (tsvLine (c.row J)) = .ok { out with cwds := out.cwds ++ [c.view] } := by
  rw [snapshotRow, splitOn_tsvLine (c.rowOk hJ)]
  show (integer (some (Decimal.decimal c.pid.toNat)) "cwd pid" >>= _) = _
  rw [integer_uint32]
  show (jsonString J (some (J.toString c.cwd)) "cwd" >>= _) = _
  rw [jsonString_toString hJ]
  rfl

def ProcessStatus.view (s : ProcessStatus) : ProcessStatusRow :=
  ⟨s.pid.toNat, [s.state], s.nice.toInt, s.threads.map UInt32.toNat⟩

structure ProcessStatus.Wire (s : ProcessStatus) : Prop where
  state_plain : Plain [s.state]
  threads_pos : s.threads ≠ some 0

theorem ProcessStatus.rowOk {s : ProcessStatus} (h : Plain [s.state]) : RowOk s.row := by
  apply rowOk_cons (by decide) (by decide)
  simp only [List.forall_mem_cons, List.not_mem_nil, false_imp_iff, implies_true, and_true]
  exact ⟨plain_decimal _, h, plain_signedDecimal _, plain_orDash _⟩

theorem natAbs_toInt_le (i : Int32) : i.toInt.natAbs ≤ MAX_SAFE_INTEGER := by
  have h1 := i.toInt_lt
  have h2 := i.le_toInt
  unfold MAX_SAFE_INTEGER
  omega

/-- A status row is read up to its last column, the thread count. -/
theorem statusRow_row (s : ProcessStatus) (line : Text) :
    statusRow s.row line = (do
      let threads ← dashOr (some (orDash (s.threads.map UInt32.toNat)))
        (positiveInteger (some (orDash (s.threads.map UInt32.toNat))) "thread count")
      pure ⟨s.pid.toNat, [s.state], s.nice.toInt, threads⟩) := by
  show (integer (some (Decimal.decimal s.pid.toNat)) "status pid" >>= _) = _
  rw [integer_uint32]
  show (signedInteger (some (Decimal.signedDecimal s.nice.toInt)) "nice value" >>= _) = _
  rw [signedInteger_signedDecimal (natAbs_toInt_le _)]
  rfl

theorem snapshotRow_status {s : ProcessStatus} (h : s.Wire) (J : JsonLib)
    (out : SnapshotReading) :
    snapshotRow J out (tsvLine s.row)
      = .ok { out with statuses := out.statuses ++ [s.view] } := by
  have hthreads : ∀ m, s.threads.map UInt32.toNat = some m →
      positiveInteger (some (Decimal.decimal m)) "thread count" = .ok m := by
    intro m hm
    obtain ⟨n, hn, rfl⟩ := Option.map_eq_some_iff.mp hm
    apply positiveInteger_decimal (uint32_le n)
    apply toNat_ne_zero
    rintro rfl
    exact h.threads_pos hn
  rw [snapshotRow, splitOn_tsvLine (ProcessStatus.rowOk h.state_plain)]
  show (statusRow s.row _ >>= _) = _
  rw [statusRow_row, dashOr_orDash (fun raw => positiveInteger raw "thread count") hthreads]
  rfl

/-- A thread count of zero is refused, whatever was read before. -/
theorem snapshotRow_status_of_zero {s : ProcessStatus} (hstate : Plain [s.state])
    (hzero : s.threads = some 0) (J : JsonLib) (out : SnapshotReading) :
    ∃ e, snapshotRow J out (tsvLine s.row) = .error e := by
  obtain ⟨e, he⟩ := positiveInteger_zero "thread count"
  refine ⟨e, ?_⟩
  rw [snapshotRow, splitOn_tsvLine (ProcessStatus.rowOk hstate)]
  show (statusRow s.row _ >>= _) = _
  rw [statusRow_row, hzero]
  show ((do
    let threads ← some <$> positiveInteger (some (Decimal.decimal 0)) "thread count"
    pure _) >>= _) = _
  rw [he]
  rfl

def ProcessArgv.view (a : ProcessArgv) : ProcessArgvRow := ⟨a.pid.toNat, a.argv⟩

theorem ProcessArgv.rowOk {J : JsonLib} (hJ : J.Lawful) (a : ProcessArgv) : RowOk (a.row J) :=
  pidRow_ok (by decide) (by decide) a.pid (plain_of_escaped (hJ.toStrings_escapes _))

theorem snapshotRow_argv {J : JsonLib} (hJ : J.Lawful) (a : ProcessArgv)
    (out : SnapshotReading) :
    snapshotRow J out (tsvLine (a.row J)) = .ok { out with argv := out.argv ++ [a.view] } := by
  have hstrings : jsonStrings J (some (J.toStrings a.argv)) "argv" = .ok a.argv := by
    simp only [jsonStrings, Option.getD_some, hJ.parse_toStrings, JsonValue.asStrings_map_string]
    rfl
  rw [snapshotRow, splitOn_tsvLine (a.rowOk hJ)]
  show (integer (some (Decimal.decimal a.pid.toNat)) "argv pid" >>= _) = _
  rw [integer_uint32]
  show (jsonStrings J (some (J.toStrings a.argv)) "argv" >>= _) = _
  rw [hstrings]
  rfl

def Port.view (l : Port) : ListenerRow :=
  ⟨l.attribution.view, l.uid.map UInt32.toNat, l.port.toNat, l.address⟩

structure Port.Wire (l : Port) : Prop where
  attribution_wire : l.attribution.Wire
  port_ne_zero : l.port ≠ 0
  address_length : l.address.length = 8 ∨ l.address.length = 32
  address_hex : isLowerHex l.address = true

/-- What framing a listener needs: everything `Wire` asks but the pid. -/
structure Port.Framed (l : Port) : Prop where
  port_ne_zero : l.port ≠ 0
  address_length : l.address.length = 8 ∨ l.address.length = 32
  address_hex : isLowerHex l.address = true

theorem Port.Wire.framed {l : Port} (h : l.Wire) : l.Framed :=
  ⟨h.port_ne_zero, h.address_length, h.address_hex⟩

theorem Port.Framed.wire {l : Port} (h : l.Framed) (hattr : l.attribution.Wire) : l.Wire :=
  ⟨hattr, h.port_ne_zero, h.address_length, h.address_hex⟩

theorem plain_of_isLowerHex {t : Text} (h : isLowerHex t = true) : Plain t := by
  simp only [isLowerHex, Bool.and_eq_true, List.all_eq_true] at h
  constructor
  all_goals
    intro hc
    exact absurd (h.2 _ hc) (by decide)

theorem Port.rowOk {l : Port} (h : l.Framed) : RowOk l.row := by
  apply rowOk_cons (by decide) (by decide)
  intro column hc
  rcases List.mem_append.mp hc with hc | hc
  · exact plain_attributionColumns _ column hc
  · simp only [List.mem_cons, List.not_mem_nil, or_false] at hc
    rcases hc with rfl | rfl | rfl
    · exact plain_orDash _
    · exact plain_decimal _
    · exact plain_of_isLowerHex h.address_hex

/-- A listener is read up to its attribution, which is checked last. -/
theorem listenerRow_row {l : Port} (h : l.Framed) (line : Text) :
    listenerRow l.row line
      = (attribution (attributionColumns l.attribution)[0]? (attributionColumns l.attribution)[1]?
          line "listener").map
            (fun claim => ⟨claim, l.uid.map UInt32.toNat, l.port.toNat, l.address⟩) := by
  have huid : dashOr (some (orDash (l.uid.map UInt32.toNat)))
      (integer (some (orDash (l.uid.map UInt32.toNat))) "listener uid")
      = .ok (l.uid.map UInt32.toNat) := by
    refine dashOr_orDash (fun raw => integer raw "listener uid") (fun m hm => ?_)
    obtain ⟨n, -, rfl⟩ := Option.map_eq_some_iff.mp hm
    exact integer_uint32 n _
  have hlt := l.port.toNat_lt
  have hport : isTcpPort l.port.toNat = true := by
    have hpos : l.port.toNat ≠ 0 := fun hz => h.port_ne_zero (UInt16.toNat_inj.mp hz)
    simp only [isTcpPort, Bool.and_eq_true, decide_eq_true_eq]
    omega
  obtain ⟨status, pid, hcolumns⟩ : ∃ status pid, attributionColumns l.attribution
      = [status, pid] := by cases l.attribution <;> exact ⟨_, _, rfl⟩
  have hrow : l.row = ["L".toList, status, pid, orDash (l.uid.map UInt32.toNat),
      Decimal.decimal l.port.toNat, l.address] := by
    rw [Port.row, hcolumns]
    rfl
  -- the columns in the order in which the client checks them
  rw [hrow, hcolumns]
  show (dashOr (some (orDash (l.uid.map UInt32.toNat)))
    (integer (some (orDash (l.uid.map UInt32.toNat))) "listener uid") >>= _) = _
  rw [huid]
  show (integer (some (Decimal.decimal l.port.toNat)) "listener port" >>= _) = _
  rw [integer_decimal (by unfold MAX_SAFE_INTEGER; omega)]
  show (if ¬ isTcpPort l.port.toNat = true then _ else _) = _
  rw [if_neg (not_not.mpr hport)]
  show (if ¬ (l.address.length = 8 ∨ l.address.length = 32)
    ∨ ¬ isLowerHex l.address = true then _ else _) = _
  rw [if_neg (by
    rw [not_or, not_not, not_not]
    exact ⟨h.address_length, h.address_hex⟩)]
  rfl

theorem snapshotRow_port {l : Port} (h : l.Wire) (J : JsonLib) (out : SnapshotReading) :
    snapshotRow J out (tsvLine l.row) = .ok { out with ports := out.ports ++ [l.view] } := by
  have hrow : ∀ line, listenerRow l.row line = .ok l.view := by
    intro line
    rw [listenerRow_row h.framed, attribution_columns h.attribution_wire]
    rfl
  rw [snapshotRow, splitOn_tsvLine (Port.rowOk h.framed)]
  show (listenerRow l.row _ >>= _) = _
  rw [hrow]
  rfl

/-- A listener in the name of the pid 0 costs the document. -/
theorem snapshotRow_port_of_zero {l : Port} (h : l.Framed) (hzero : ¬ l.attribution.Wire)
    (J : JsonLib) (out : SnapshotReading) : ∃ e, snapshotRow J out (tsvLine l.row) = .error e := by
  obtain ⟨e, he⟩ := attribution_columns_zero hzero (tsvLine l.row) "listener"
  refine ⟨e, ?_⟩
  rw [snapshotRow, splitOn_tsvLine (Port.rowOk h)]
  show (listenerRow l.row _ >>= _) = _
  rw [listenerRow_row h, he]
  rfl

theorem snapshotRow_unreadable {u : Unreadable} (h : u.Wire) (J : JsonLib)
    (out : SnapshotReading) :
    snapshotRow J out (tsvLine u.row)
      = .ok { out with unreadable := out.unreadable ++ [u.view] } := by
  rw [snapshotRow, splitOn_tsvLine (Unreadable.rowOk h)]
  show (unreadableRow u.row _ >>= _) = _
  rw [unreadableRow_row h]
  rfl

theorem snapshotRow_error {e : SourceError} (h : e.Wire Facet.SNAPSHOT_SOURCE) (J : JsonLib)
    (out : SnapshotReading) :
    snapshotRow J out (tsvLine e.row) = .ok { out with errors := out.errors ++ [e.view] } := by
  rw [snapshotRow, splitOn_tsvLine (SourceError.rowOk h)]
  show (sourceErrorRow e.row _ SNAPSHOT_SOURCE_FACETS >>= _) = _
  rw [sourceErrorRow_row snapshot_source_facets_eq h]
  rfl

end Osfacts
