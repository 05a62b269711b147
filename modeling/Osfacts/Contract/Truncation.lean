import Osfacts.Contract.CutRows

set_option autoImplicit false

/-! # Documents that were cut off

Where a document whose rows are all well formed can be cut without the client noticing: behind a
row, or inside the last column of a row when what is left of that column is still a value.
-/

namespace Osfacts

open Client

/-! ## Lines that arrived -/

/-- The lines of a document whose bytes end before its last character does. -/
theorem received_lines {D : Type} [Document D] {J : JsonLib} {doc : D} {rows : List (List Text)}
    (hrows : tsvRows J doc = versionRow SCHEMA_VERSION :: rows) (hok : ∀ row ∈ rows, RowOk row)
    {reached : Nat} (h : reached + 1 < (Utf8.encode (writeTsv J doc)).length) :
    (∃ piece, (received J doc reached).splitOn '\n' = [piece] ∧
      Part (tsvLine (versionRow SCHEMA_VERSION)) piece) ∨
    ∃ whole row rest piece, rows = whole ++ row :: rest ∧
      (received J doc reached).splitOn '\n'
        = tsvLine (versionRow SCHEMA_VERSION) :: whole.map tsvLine ++ [piece] ∧
      Part (tsvLine row) piece := by
  have hversion : '\n' ∉ tsvLine (versionRow SCHEMA_VERSION) := by decide
  have hone : ∀ line ∈ tsvLine (versionRow SCHEMA_VERSION) :: rows.map tsvLine, '\n' ∉ line := by
    intro line hline
    rcases List.mem_cons.mp hline with rfl | hline
    · exact hversion
    · obtain ⟨row, hrow, rfl⟩ := List.mem_map.mp hline
      exact line_feed_not_mem_tsvLine (hok row hrow)
  generalize htext : ['\n'].intercalate (tsvLine (versionRow SCHEMA_VERSION) :: rows.map tsvLine)
    = text
  have hsplit : text.splitOn '\n' = tsvLine (versionRow SCHEMA_VERSION) :: rows.map tsvLine := by
    rw [← htext]
    exact List.splitOn_intercalate '\n' hone (List.cons_ne_nil _ _)
  have hwrite : writeTsv J doc = text ++ ['\n'] := by
    rw [writeTsv, hrows, tsv, List.map_cons, terminated_eq_intercalate (List.cons_ne_nil _ _),
      htext]
  -- the cut falls in front of the last line feed
  have hcut : Utf8.Cut text (received J doc reached) := by
    have hencode : Utf8.encode (writeTsv J doc) = Utf8.encode text ++ Utf8.encode ['\n'] := by
      rw [hwrite, Utf8.encode, List.flatMap_append]
      rfl
    have hfeed : (Utf8.encode ['\n']).length = 1 := rfl
    have hlt : reached < (Utf8.encode text).length := by
      rw [hencode, List.length_append, hfeed] at h
      omega
    have htake : (Utf8.encode (writeTsv J doc)).take reached = (Utf8.encode text).take reached := by
      rw [hencode, List.take_append_of_le_length hlt.le]
    rw [received, htake]
    exact Utf8.cut_decodeLossy text hlt
  obtain ⟨whole, last, rest, piece, hlines, hpieces, hlast⟩ :=
    hcut.splitOn (by decide : '\n'.toNat < 128)
  rw [hsplit] at hlines
  have hpart : Part last piece := hlast.imp And.left id
  clear hlast
  cases whole with
  | nil =>
      obtain ⟨rfl, -⟩ := List.cons.inj hlines
      exact Or.inl ⟨piece, hpieces, hpart⟩
  | cons first init =>
      obtain ⟨rfl, -⟩ := List.cons.inj hlines
      have hmap : rows.map tsvLine = init ++ last :: rest := (List.cons.inj hlines).2
      obtain ⟨whole, tail, rfl, rfl, htail⟩ := List.map_eq_append_iff.mp hmap
      obtain ⟨row, rest, rfl, rfl, rfl⟩ := List.map_eq_cons_iff.mp htail
      exact Or.inr ⟨whole, row, rest, piece, rfl, hpieces, hpart⟩

/-- Where the reader does not see that rows are missing: behind the version line, behind a row,
or inside a row it still reads. -/
def Unseen (reads : Text → Text → Prop) (rows : List (List Text)) (body : Text) : Prop :=
  body.splitOn '\n' = [tsvLine (versionRow SCHEMA_VERSION)] ∨
  ∃ whole row rest piece, rows = whole ++ row :: rest ∧
    body.splitOn '\n' = tsvLine (versionRow SCHEMA_VERSION) :: whole.map tsvLine ++ [piece] ∧
    (piece = [] ∨ FragmentReads reads row piece)

theorem versionLine_versionRow : VersionLine (tsvLine (versionRow SCHEMA_VERSION)) :=
  ⟨['2'], rfl, rfl, rfl⟩

/-- A version line that lost a character is none. -/
theorem versionLine_part {piece : Text} (hpart : Part (tsvLine (versionRow SCHEMA_VERSION)) piece)
    (h : VersionLine piece) : piece = tsvLine (versionRow SCHEMA_VERSION) := by
  obtain ⟨rest, hrest⟩ := hpart.exists_append (ascii_of_all rfl)
  obtain ⟨version, rfl, hnumeral, -⟩ := h
  have hversion : ['2'] = version ++ rest := (List.cons.inj (List.cons.inj hrest).2).2
  cases version with
  | nil => cases hnumeral
  | cons c version =>
      obtain ⟨rfl, hnil⟩ := List.cons.inj hversion
      rw [(List.append_eq_nil_iff.mp hnil.symm).1]
      rfl

/-- **What a parser makes of a document that was cut.** -/
theorem readsThrough_iff_unseen {D R : Type} [Document D] {J : JsonLib} {doc : D}
    {reader : R → Text → Except OsfactsClientError R} {empty : R} {reads : Text → Text → Prop}
    {rows : List (List Text)} (hrows : tsvRows J doc = versionRow SCHEMA_VERSION :: rows)
    (hok : ∀ row ∈ rows, RowOk row) (hread : ∀ row ∈ rows, ∃ r, reader empty (tsvLine row) = .ok r)
    (hpart : ∀ row ∈ rows, ∀ piece, Part (tsvLine row) piece →
      (Reads reader empty piece ↔ piece = [] ∨ FragmentReads reads row piece))
    {reached : Nat} (h : reached + 1 < (Utf8.encode (writeTsv J doc)).length) :
    ReadsThrough reader empty (received J doc reached) ↔
      Unseen reads rows (received J doc reached) := by
  unfold ReadsThrough Unseen
  rcases received_lines hrows hok h with ⟨piece, hlines, hpiece⟩
    | ⟨whole, row, rest, piece, rfl, hlines, hpiece⟩
  · rw [hlines]
    constructor
    · rintro ⟨first, lines, hcons, hversion, -⟩
      obtain ⟨rfl, -⟩ := List.cons.inj hcons
      exact Or.inl (congrArg (fun line => [line]) (versionLine_part hpiece hversion))
    · rintro (hcons | ⟨whole, row, rest, piece', -, hcons, -⟩)
      · rw [(List.cons.inj hcons).1]
        exact ⟨_, [], rfl, versionLine_versionRow, List.forall_mem_nil _⟩
      · have hlen := congrArg List.length hcons
        simp only [List.length_append, List.length_cons, List.length_nil] at hlen
        omega
  · have hrow := hpart row (List.mem_append_right whole (List.mem_cons_self ..)) piece hpiece
    rw [hlines]
    constructor
    · rintro ⟨first, lines, hcons, -, hall⟩
      obtain ⟨-, rfl⟩ := List.cons.inj hcons
      have hlast := hall piece (List.mem_append_right _ (List.mem_singleton_self _))
      exact Or.inr ⟨whole, row, rest, piece, rfl, rfl, hrow.mp hlast⟩
    · rintro (hcons | ⟨whole', row', rest', piece', hsame, hcons, hlast⟩)
      · have hlen := congrArg List.length hcons
        simp only [List.length_append, List.length_cons, List.length_nil] at hlen
        omega
      · -- the lines say how many rows are whole, and so which row the piece is a part of
        obtain ⟨-, hcons⟩ := List.cons.inj hcons
        obtain ⟨hwhole, hpieces⟩ := List.append_inj' hcons rfl
        obtain rfl : piece = piece' := (List.cons.inj hpieces).1
        have hlen : whole.length = whole'.length := by
          have := congrArg List.length hwhole
          rwa [List.length_map, List.length_map] at this
        obtain ⟨rfl, hrest⟩ := List.append_inj hsame hlen
        obtain ⟨rfl, -⟩ := List.cons.inj hrest
        refine ⟨_, whole.map tsvLine ++ [piece], rfl, versionLine_versionRow, ?_⟩
        refine List.forall_mem_append.mpr ⟨fun line hline => ?_, ?_⟩
        · obtain ⟨row, hmem, rfl⟩ := List.mem_map.mp hline
          exact Or.inr (hread row (List.mem_append_left _ hmem))
        · exact List.forall_mem_singleton.mpr (hrow.mpr hlast)

/-! ## The two documents -/

theorem snapshot_rows_read {J : JsonLib} (hJ : J.Lawful) {s : Snapshot} (h : s.Wire) :
    ∀ row ∈ s.bodyRows J, ∃ r, snapshotRow J emptySnapshotReading (tsvLine row) = .ok r := by
  have hparse := parseSnapshotOutput_writeTsv hJ h
  rw [parseSnapshotOutput_eq_foldlM hJ h.version_eq h.framed] at hparse
  exact (foldlM_ok_iff _ (fun row => snapshotRow_uniform J (tsvLine row)) _).mp ⟨_, hparse⟩

theorem snapshot_readsThrough_iff {J : JsonLib} (hJ : J.Lawful) {s : Snapshot} (hs : s.Wire)
    {reached : Nat} (h : reached + 1 < (Utf8.encode (writeTsv J s)).length) :
    ReadsThrough (snapshotRow J) emptySnapshotReading (received J s reached) ↔
      Unseen (SnapshotColumn J) (s.bodyRows J) (received J s reached) := by
  have hrows : tsvRows J s = versionRow SCHEMA_VERSION :: s.bodyRows J := by
    rw [Snapshot.tsvRows_eq, hs.version_eq]
  have hok := Snapshot.bodyRows_ok hJ hs.framed
  have hread := snapshot_rows_read hJ hs
  refine readsThrough_iff_unseen hrows hok hread (fun row hrow piece hpiece => ?_) h
  have hone : ∀ p ∈ SNAPSHOT_ARITY, ∀ q ∈ SNAPSHOT_ARITY, p.1 = q.1 → p.2 = q.2 := by decide
  exact reads_part_iff (by decide) hone (fun line r hr => snapshotRow_arity hr) (hok row hrow)
    (hread row hrow)
    (fun line column => snapshotRow_part hs hrow _) hpiece

theorem socketHolders_rows {s : SocketHolders} (h : s.Wire) : ∀ row ∈ s.bodyRows, RowOk row ∧
    ∃ r, socketHoldersRow emptySocketHoldersReading (tsvLine row) = .ok r := by
  intro row hrow
  simp only [SocketHolders.bodyRows, List.mem_append, List.mem_map] at hrow
  rcases hrow with ((⟨x, hx, rfl⟩ | ⟨x, hx, rfl⟩) | ⟨x, hx, rfl⟩) | ⟨x, hx, rfl⟩
  · exact ⟨x.rowOk, _, socketHoldersRow_holder (h.holders x hx) _⟩
  · exact ⟨Proc.rowOk (h.procs x hx), _, socketHoldersRow_proc (h.procs x hx) _⟩
  · exact ⟨Unreadable.rowOk (h.unreadable x hx), _,
      socketHoldersRow_unreadable (h.unreadable x hx) _⟩
  · exact ⟨SourceError.rowOk (h.errors x hx), _, socketHoldersRow_error (h.errors x hx) _⟩

theorem socketHolders_readsThrough_iff {J : JsonLib} {s : SocketHolders} (hs : s.Wire)
    {reached : Nat} (h : reached + 1 < (Utf8.encode (writeTsv J s)).length) :
    ReadsThrough socketHoldersRow emptySocketHoldersReading (received J s reached) ↔
      Unseen SocketHoldersColumn s.bodyRows (received J s reached) := by
  have hrows : tsvRows J s = versionRow SCHEMA_VERSION :: s.bodyRows := by
    rw [SocketHolders.tsvRows_eq, hs.version_eq]
  have hread := socketHolders_rows hs
  refine readsThrough_iff_unseen hrows (fun row hrow => (hread row hrow).1)
    (fun row hrow => (hread row hrow).2) (fun row hrow piece hpiece => ?_) h
  have hone : ∀ p ∈ SOCKET_HOLDERS_ARITY, ∀ q ∈ SOCKET_HOLDERS_ARITY, p.1 = q.1 → p.2 = q.2 := by
    decide
  exact reads_part_iff (by decide) hone (fun line r hr => socketHoldersRow_arity hr)
    (hread row hrow).1 (hread row hrow).2
    (fun line column => socketHoldersRow_part hs hrow _) hpiece

/-- **When a broken write is noticed.** For every document: when the version line is not there,
when a line cannot be read on its own, or when the rows about a path contradict themselves. For a
document whose rows are all well formed that says where the cut has to fall. -/
theorem broken_write_noticed_iff {J : JsonLib} (hJ : J.Lawful) (bin : Text) (reached : Nat)
    (e : Text) :
    (∀ (writeJson : Snapshot → Text) (s : Snapshot),
      reached + 1 < (Utf8.encode (writeTsv J s)).length →
      ((∃ err, brokenSnapshot J bin writeJson s reached e = .error err) ↔
        ¬ ReadsThrough (snapshotRow J) emptySnapshotReading (received J s reached)) ∧
      (s.Wire → ((∃ err, brokenSnapshot J bin writeJson s reached e = .error err) ↔
        ¬ Unseen (SnapshotColumn J) (s.bodyRows J) (received J s reached)))) ∧
    (∀ (writeJson : SocketHolders → Text) (s : SocketHolders),
      reached + 1 < (Utf8.encode (writeTsv J s)).length →
      ((∃ err, brokenOccupancy J bin writeJson s reached e = .error err) ↔
        ¬ ReadsThrough socketHoldersRow emptySocketHoldersReading (received J s reached) ∨
          Contradictory (received J s reached)) ∧
      (s.Wire → ((∃ err, brokenOccupancy J bin writeJson s reached e = .error err) ↔
        ¬ Unseen SocketHoldersColumn s.bodyRows (received J s reached) ∨
          Contradictory (received J s reached)))) := by
  refine ⟨fun writeJson s h => ?_, fun writeJson s h => ?_⟩
  · have hread : (∃ err, brokenSnapshot J bin writeJson s reached e = .error err) ↔
        ¬ ReadsThrough (snapshotRow J) emptySnapshotReading (received J s reached) := by
      rw [error_iff_not_ok, brokenSnapshot_ok_iff]
    exact ⟨hread, fun hs => hread.trans (not_congr (snapshot_readsThrough_iff hJ hs h))⟩
  · have hread : (∃ err, brokenOccupancy J bin writeJson s reached e = .error err) ↔
        ¬ ReadsThrough socketHoldersRow emptySocketHoldersReading (received J s reached) ∨
          Contradictory (received J s reached) := by
      rw [error_iff_not_ok, brokenOccupancy_ok_iff, not_and_or, not_not]
    exact ⟨hread, fun hs =>
      hread.trans (or_congr_left (not_congr (socketHolders_readsThrough_iff hs h)))⟩

/-- A write that broke inside a row is noticed, and one that broke behind a row is not. -/
theorem broken_write_noticed_sample :
    (∃ err, brokenSnapshot .standard "osfacts".toList (fun _ => []) sampleSnapshot 9 []
      = .error err) ∧
    ¬ ∃ err, brokenOccupancy .standard "osfacts".toList (fun _ => []) sampleHolders 16 []
      = .error err := by
  constructor
  · have hreceived : received .standard sampleSnapshot 9 = "V\t2\nP\t7\t1".toList := by
      decide +kernel
    have hnoticed := ((broken_write_noticed_iff JsonLib.standard_lawful "osfacts".toList 9 []).1
      (fun _ => []) sampleSnapshot (by decide +kernel)).1
    rw [hnoticed, hreceived]
    rintro ⟨first, lines, hsplit, -, hlines⟩
    have htwo : "V\t2\nP\t7\t1".toList.splitOn '\n' = ["V\t2".toList, "P\t7\t1".toList] := by
      decide
    obtain ⟨-, rfl⟩ := List.cons.inj (htwo.symm.trans hsplit)
    -- the row of a process has four columns
    rcases hlines "P\t7\t1".toList List.mem_cons_self with hnil | ⟨out, hread⟩
    · cases hnil
    · cases hread
  · have hreceived : received .standard sampleHolders 16 = "V\t2\nH\tclaimed\t7\n".toList := by
      decide
    have hnoticed := ((broken_write_noticed_iff JsonLib.standard_lawful "osfacts".toList 16 []).2
      (fun _ => []) sampleHolders (by decide)).2 sampleHolders_wire
    rw [hnoticed, hreceived]
    rintro (hseen | ⟨-, hrows⟩)
    · exact hseen (Or.inr ⟨[(Attribution.claimed 7).row], Attribution.unclaimed.row, _, [], rfl,
        by decide, Or.inl rfl⟩)
    · rcases hrows "H\tclaimed\t7".toList (by decide) with htag | htag <;>
        exact absurd htag (by decide)

/-- A path that is held, and a write that broke behind the version line: the answer is that no
one holds it. -/
theorem broken_write_unheld :
    sampleHolders.bodyRows ≠ [] ∧
    4 + 1 < (Utf8.encode (writeTsv .standard sampleHolders)).length ∧
    brokenOccupancy .standard "osfacts".toList (fun _ => []) sampleHolders 4 [] = .ok .none := by
  decide

end Osfacts
