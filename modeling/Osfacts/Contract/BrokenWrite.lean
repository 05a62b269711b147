import Osfacts.Client.Occupancy
import Osfacts.Contract.Accepts

set_option autoImplicit false

/-! # Broken writes

A write that breaks half-way leaves a part of the document on standard output and the exit
status of a document that carries nothing but blindness. The client reads that part: it gets an
answer exactly when every line it got can be read, and what it read of a path does not
contradict itself.
-/

namespace Osfacts

open Client

/-! ## What the client makes of a broken write -/

/-- The text the client holds when the write broke after `reached` bytes. -/
def received {D : Type} [Document D] (J : JsonLib) (doc : D) (reached : Nat) : Text :=
  stdoutText ((Utf8.encode (writeTsv J doc)).take reached)

/-- The reading of a snapshot whose write broke. -/
def brokenSnapshot (J : JsonLib) (bin : Text) (writeJson : Snapshot → Text) (s : Snapshot)
    (reached : Nat) (e : Text) : Except OsfactsClientError SnapshotReading := do
  let document ← childDocument bin (emitBroken J writeJson s false reached e)
  parseSnapshotOutput J document

/-- The answer to a question about a path when the write of the document broke. -/
def brokenOccupancy (J : JsonLib) (bin : Text) (writeJson : SocketHolders → Text)
    (s : SocketHolders) (reached : Nat) (e : Text) :
    Except OsfactsClientError SocketOccupancy := do
  let document ← childDocument bin (emitBroken J writeJson s false reached e)
  let reading ← parseSocketHoldersOutput document
  foldSocketOccupancy reading

theorem error_iff_not_ok {ε α : Type} {x : Except ε α} :
    (∃ e, x = .error e) ↔ ¬ ∃ a, x = .ok a := by
  cases x with
  | error e => exact iff_of_true ⟨e, rfl⟩ (by rintro ⟨a, ha⟩; cases ha)
  | ok a => exact iff_of_false (by rintro ⟨e, he⟩; cases he) (not_not.mpr ⟨a, rfl⟩)

/-- What starts with the version line gets past the exit status. -/
theorem ReadsThrough.starts {R : Type} {row : R → Text → Except OsfactsClientError R} {empty : R}
    {body : Text} (h : ReadsThrough row empty body) : "V\t".toList.isPrefixOf body = true := by
  obtain ⟨first, lines, hsplit, ⟨version, rfl, -, -⟩, -⟩ := h
  obtain ⟨rest, hrest⟩ := splitOn_eq_takeWhile_cons '\n' body
  rw [hsplit] at hrest
  have hbody := List.takeWhile_append_dropWhile (p := fun c => c != '\n') (l := body)
  rw [← (List.cons.inj hrest).1] at hbody
  rw [← hbody]
  rfl

/-- The child's output, read by a parser that needs the version line. -/
theorem childDocument_broken {D R : Type} [Document D] (J : JsonLib) (bin : Text)
    (writeJson : D → Text) (doc : D) (reached : Nat) (e : Text)
    {row : R → Text → Except OsfactsClientError R} (empty : R)
    (h : ∀ line, Uniform (fun out => row out line)) (out : R) :
    (∃ document, childDocument bin (emitBroken J writeJson doc false reached e) = .ok document ∧
        parseRows row empty document = .ok out) ↔
      parseRows row empty (received J doc reached) = .ok out := by
  rw [childDocument_exit_one bin rfl]
  show (∃ document, (if "V\t".toList.isPrefixOf (received J doc reached) = true then
    Except.ok (received J doc reached) else _) = .ok document ∧ _) ↔ _
  constructor
  · rintro ⟨document, hdocument, hparse⟩
    split_ifs at hdocument
    cases hdocument
    exact hparse
  · intro hparse
    have hstarts := ((parseRows_ok_iff empty h _).mp ⟨out, hparse⟩).starts
    exact ⟨_, if_pos hstarts, hparse⟩

theorem brokenSnapshot_ok_iff (J : JsonLib) (bin : Text) (writeJson : Snapshot → Text)
    (s : Snapshot) (reached : Nat) (e : Text) :
    (∃ out, brokenSnapshot J bin writeJson s reached e = .ok out) ↔
      ReadsThrough (snapshotRow J) emptySnapshotReading (received J s reached) := by
  rw [← parseRows_ok_iff _ (snapshotRow_uniform J)]
  unfold brokenSnapshot
  refine exists_congr fun out => ?_
  rw [bind_ok_iff]
  exact childDocument_broken J bin writeJson s reached e _ (snapshotRow_uniform J) out

/-! ## What is in a reading of holders -/

/-- The first column of a line. -/
def tagOf (line : Text) : Text := (line.splitOn '\t').headD []

theorem sourceErrorRow_facet {f : List Text} {line : Text} {allowed : List Text}
    {row : SourceErrorRow} (h : sourceErrorRow f line allowed = .ok row) :
    row.facet = f.getD 2 [] ∧ row.facet ∈ allowed := by
  unfold sourceErrorRow at h
  obtain ⟨-, -, h⟩ := bind_ok_iff.mp h
  simp only [] at h
  by_cases hempty : f.getD 1 [] = [] ∨ f.getD 3 [] = []
  · rw [if_pos hempty] at h
    cases h
  by_cases hfacet : f.getD 2 [] ∉ allowed
  · rw [if_neg hempty, if_pos hfacet] at h
    cases h
  · rw [if_neg hempty, if_neg hfacet] at h
    obtain rfl := Except.ok.inj h
    exact ⟨rfl, not_not.mp hfacet⟩

/-- One accepted line adds one row, to the rows of its tag. -/
theorem socketHoldersRow_cases {out out' : SocketHoldersReading} {line : Text}
    (h : socketHoldersRow out line = .ok out') :
    (tagOf line = ['H'] ∧ ∃ row, out' = { out with holders := out.holders ++ [row] }) ∨
    (tagOf line = ['P'] ∧ ∃ row, out' = { out with procs := out.procs ++ [row] }) ∨
    (tagOf line = ['U'] ∧ ∃ row, out' = { out with unreadable := out.unreadable ++ [row] }) ∨
    (tagOf line = ['E'] ∧ ∃ row, row.facet = "socket_holders".toList ∧
      out' = { out with errors := out.errors ++ [row] }) := by
  unfold socketHoldersRow at h
  simp only [] at h
  split at h
  case h_1 htag =>
      obtain ⟨-, -, h⟩ := bind_ok_iff.mp h
      obtain ⟨row, -, h⟩ := bind_ok_iff.mp h
      exact Or.inl ⟨htag, row, (Except.ok.inj h).symm⟩
  case h_2 htag =>
      obtain ⟨row, -, h⟩ := bind_ok_iff.mp h
      exact Or.inr (Or.inl ⟨htag, row, (Except.ok.inj h).symm⟩)
  case h_3 htag =>
      obtain ⟨row, -, h⟩ := bind_ok_iff.mp h
      exact Or.inr (Or.inr (Or.inl ⟨htag, row, (Except.ok.inj h).symm⟩))
  case h_4 htag =>
      obtain ⟨row, hrow, h⟩ := bind_ok_iff.mp h
      refine Or.inr (Or.inr (Or.inr ⟨htag, row, ?_, (Except.ok.inj h).symm⟩))
      exact List.mem_singleton.mp (sourceErrorRow_facet hrow).2
  case h_5 => cases h

/-- No line has the tag. -/
def NoTag (tag : Text) (lines : List Text) : Prop := ∀ line ∈ lines, tagOf line ≠ tag

theorem noTag_append {tag line : Text} {lines : List Text} :
    NoTag tag (lines ++ [line]) ↔ NoTag tag lines ∧ tagOf line ≠ tag := by
  simp only [NoTag, List.forall_mem_append, List.forall_mem_singleton]

theorem noTag_skip {tag line : Text} {lines : List Text} {p : Prop} (h : p ↔ NoTag tag lines)
    (hline : tagOf line ≠ tag) : p ↔ NoTag tag (lines ++ [line]) := by
  rw [noTag_append, h, and_iff_left hline]

theorem noTag_add {β : Type} {tag line : Text} {lines : List Text} {rows : List β} {row : β}
    (hline : tagOf line = tag) : rows ++ [row] = [] ↔ NoTag tag (lines ++ [line]) := by
  rw [noTag_append]
  exact iff_of_false (by simp) (fun h => h.2 hline)

/-- What the tags of the lines say about the reading made from them. -/
structure Tally (lines : List Text) (out : SocketHoldersReading) : Prop where
  holders : out.holders = [] ↔ NoTag ['H'] lines
  procs : out.procs = [] ↔ NoTag ['P'] lines
  unreadable : out.unreadable = [] ↔ NoTag ['U'] lines
  errors : out.errors = [] ↔ NoTag ['E'] lines
  facet_eq : ∀ row ∈ out.errors, row.facet = "socket_holders".toList

theorem tally_step {lines : List Text} {out out' : SocketHoldersReading} (hinv : Tally lines out)
    {line : Text} (h : (if line = [] then pure out else socketHoldersRow out line) = .ok out') :
    Tally (lines ++ [line]) out' := by
  obtain ⟨hholders, hprocs, hunreadable, herrors, hfacet⟩ := hinv
  -- a line has one tag, so it counts for one kind of row at most
  have hskip : ∀ {t tag : Text} {p : Prop}, tagOf line = t → (p ↔ NoTag tag lines) → t ≠ tag →
      (p ↔ NoTag tag (lines ++ [line])) := fun ht hp hne => noTag_skip hp (ht ▸ hne)
  split_ifs at h with hline
  · obtain rfl := Except.ok.inj h
    have htag : tagOf line = [] := by
      rw [hline]
      rfl
    exact ⟨hskip htag hholders (by decide), hskip htag hprocs (by decide),
      hskip htag hunreadable (by decide), hskip htag herrors (by decide), hfacet⟩
  · rcases socketHoldersRow_cases h with ⟨htag, row, rfl⟩ | ⟨htag, row, rfl⟩ | ⟨htag, row, rfl⟩
      | ⟨htag, row, hrow, rfl⟩
    · exact ⟨noTag_add htag, hskip htag hprocs (by decide), hskip htag hunreadable (by decide),
        hskip htag herrors (by decide), hfacet⟩
    · exact ⟨hskip htag hholders (by decide), noTag_add htag, hskip htag hunreadable (by decide),
        hskip htag herrors (by decide), hfacet⟩
    · exact ⟨hskip htag hholders (by decide), hskip htag hprocs (by decide), noTag_add htag,
        hskip htag herrors (by decide), hfacet⟩
    · refine ⟨hskip htag hholders (by decide), hskip htag hprocs (by decide),
        hskip htag hunreadable (by decide), noTag_add htag, ?_⟩
      exact List.forall_mem_append.mpr ⟨hfacet, List.forall_mem_singleton.mpr hrow⟩

theorem tally_run {seen lines : List Text} {out out' : SocketHoldersReading}
    (hinv : Tally seen out)
    (h : lines.foldlM (fun out line => if line = [] then pure out else socketHoldersRow out line)
      out = .ok out') : Tally (seen ++ lines) out' := by
  induction lines generalizing seen out with
  | nil =>
      obtain rfl := Except.ok.inj h
      rwa [List.append_nil]
  | cons line lines ih =>
      rw [List.foldlM_cons] at h
      obtain ⟨next, hnext, h⟩ := bind_ok_iff.mp h
      have htally := ih (tally_step hinv hnext) h
      rwa [List.append_assoc] at htally

/-- The rows of a text: its lines after the first, without the empty ones. -/
def rowLines (body : Text) : List Text :=
  (body.splitOn '\n').tail.filter (fun line => !line.isEmpty)

/-- Rows about the processes that hold a path, and none that says who holds it. -/
def Contradictory (body : Text) : Prop :=
  rowLines body ≠ [] ∧ ∀ line ∈ rowLines body, tagOf line = ['P'] ∨ tagOf line = ['U']

theorem foldSocketOccupancy_ok_iff {reading : SocketHoldersReading}
    (h : ∀ row ∈ reading.errors, row.facet = "socket_holders".toList) :
    (∃ answer, foldSocketOccupancy reading = .ok answer) ↔
      ¬ (reading.holders = [] ∧ reading.errors = [] ∧
        ¬ (reading.procs = [] ∧ reading.unreadable = [])) := by
  obtain ⟨holders, procs, unreadable, errors⟩ := reading
  unfold foldSocketOccupancy
  cases holders with
  | cons holder holders =>
      refine iff_of_true ?_ (fun h => List.cons_ne_nil _ _ h.1)
      cases namedHolders ⟨holder :: holders, procs, unreadable, errors⟩ with
      | nil => exact ⟨_, rfl⟩
      | cons first rest => exact ⟨_, rfl⟩
  | nil =>
      cases errors with
      | cons row errors =>
          refine iff_of_true ?_ (fun h => List.cons_ne_nil _ _ h.2.1)
          have hrow : (row.facet == "socket_holders".toList) = true := by
            rw [h row (List.mem_cons_self ..)]
            rfl
          simp only [namedHolders, List.filterMap_nil, List.length_nil, List.find?_cons, hrow]
          exact ⟨_, rfl⟩
      | nil =>
          show (∃ answer, (if procs.length > 0 ∨ unreadable.length > 0 then _ else _) = _) ↔ _
          by_cases hrows : procs.length > 0 ∨ unreadable.length > 0
          · rw [if_pos hrows]
            refine iff_of_false ?_ (not_not.mpr ⟨rfl, rfl, ?_⟩)
            · rintro ⟨answer, hanswer⟩
              cases hanswer
            · rintro ⟨rfl, rfl⟩
              exact absurd hrows (by decide)
          · rw [if_neg hrows]
            refine iff_of_true ⟨_, rfl⟩ (fun h => h.2.2 ?_)
            simpa using hrows

/-- The lines of a text that the parser of holders accepts. -/
theorem ReadsThrough.tag {body : Text}
    (h : ReadsThrough socketHoldersRow emptySocketHoldersReading body) :
    ∀ line ∈ rowLines body, tagOf line ∈ [['H'], ['P'], ['U'], ['E']] := by
  obtain ⟨first, lines, hsplit, -, hall⟩ := h
  intro line hline
  rw [rowLines, hsplit, List.tail_cons, List.mem_filter] at hline
  rcases hall line hline.1 with rfl | ⟨out, hout⟩
  · cases hline.2
  · rcases socketHoldersRow_cases hout with ⟨htag, -⟩ | ⟨htag, -⟩ | ⟨htag, -⟩ | ⟨htag, -⟩
    all_goals
      rw [htag]
      decide

/-- A tag that no row has, on all the lines: an empty line has no tag. -/
theorem noTag_rowLines {tag body : Text} (htag : tag ≠ []) :
    NoTag tag (body.splitOn '\n').tail ↔ NoTag tag (rowLines body) := by
  constructor
  · exact fun h line hline => h line (List.mem_filter.mp hline).1
  · intro h line hline
    by_cases hempty : line = []
    · rw [hempty]
      exact htag.symm
    · exact h line (List.mem_filter.mpr ⟨hline, by simpa using hempty⟩)

/-- Without holders, without blindness, and with something else. -/
theorem contradictory_iff {body : Text} {reading : SocketHoldersReading}
    (h : parseSocketHoldersOutput body = .ok reading) :
    (∃ answer, foldSocketOccupancy reading = .ok answer) ↔ ¬ Contradictory body := by
  obtain ⟨lines, hbody, hfold⟩ := bind_ok_iff.mp h
  have hreads := (parseRows_ok_iff _ socketHoldersRow_uniform body).mp ⟨reading, h⟩
  obtain ⟨first, hsplit, -⟩ := bodyRows_ok_iff.mp hbody
  have hlines : lines = (body.splitOn '\n').tail := by
    rw [hsplit, List.tail_cons]
  have hstart : Tally [] emptySocketHoldersReading :=
    ⟨iff_of_true rfl (List.forall_mem_nil _), iff_of_true rfl (List.forall_mem_nil _),
      iff_of_true rfl (List.forall_mem_nil _), iff_of_true rfl (List.forall_mem_nil _),
      List.forall_mem_nil _⟩
  have htally := tally_run hstart hfold
  rw [List.nil_append, hlines] at htally
  rw [foldSocketOccupancy_ok_iff htally.facet_eq, htally.holders, htally.errors, htally.procs,
    htally.unreadable, noTag_rowLines (by decide), noTag_rowLines (by decide),
    noTag_rowLines (by decide), noTag_rowLines (by decide), not_iff_not]
  have htags := hreads.tag
  unfold Contradictory NoTag
  generalize rowLines body = rows at htags ⊢
  constructor
  · rintro ⟨hholders, herrors, hrest⟩
    refine ⟨?_, fun line hline => ?_⟩
    · rintro rfl
      exact hrest ⟨List.forall_mem_nil _, List.forall_mem_nil _⟩
    · have htag := htags line hline
      simp only [List.mem_cons, List.not_mem_nil, or_false] at htag
      rcases htag with htag | htag | htag | htag
      · exact absurd htag (hholders line hline)
      · exact Or.inl htag
      · exact Or.inr htag
      · exact absurd htag (herrors line hline)
  · rintro ⟨hne, hall⟩
    refine ⟨fun line hline htag => ?_, fun line hline htag => ?_, ?_⟩
    · rcases hall line hline with h | h
      all_goals exact absurd (htag.symm.trans h) (by decide)
    · rcases hall line hline with h | h
      all_goals exact absurd (htag.symm.trans h) (by decide)
    · rintro ⟨hprocs, hunreadable⟩
      obtain ⟨line, rest, rfl⟩ := List.exists_cons_of_ne_nil hne
      rcases hall line (List.mem_cons_self ..) with h | h
      · exact hprocs line (List.mem_cons_self ..) h
      · exact hunreadable line (List.mem_cons_self ..) h

theorem brokenOccupancy_ok_iff (J : JsonLib) (bin : Text) (writeJson : SocketHolders → Text)
    (s : SocketHolders) (reached : Nat) (e : Text) :
    (∃ answer, brokenOccupancy J bin writeJson s reached e = .ok answer) ↔
      ReadsThrough socketHoldersRow emptySocketHoldersReading (received J s reached) ∧
        ¬ Contradictory (received J s reached) := by
  have hchild := childDocument_broken J bin writeJson s reached e emptySocketHoldersReading
    socketHoldersRow_uniform
  rw [← parseRows_ok_iff _ socketHoldersRow_uniform]
  unfold brokenOccupancy
  constructor
  · rintro ⟨answer, h⟩
    obtain ⟨document, hdocument, h⟩ := bind_ok_iff.mp h
    obtain ⟨reading, hreading, hanswer⟩ := bind_ok_iff.mp h
    have hreceived := (hchild reading).mp ⟨document, hdocument, hreading⟩
    exact ⟨⟨reading, hreceived⟩, (contradictory_iff hreceived).mp ⟨answer, hanswer⟩⟩
  · rintro ⟨⟨reading, hreceived⟩, hcontradictory⟩
    obtain ⟨document, hdocument, hreading⟩ := (hchild reading).mpr hreceived
    obtain ⟨answer, hanswer⟩ := (contradictory_iff hreceived).mpr hcontradictory
    refine ⟨answer, bind_ok_iff.mpr ⟨document, hdocument, ?_⟩⟩
    exact bind_ok_iff.mpr ⟨reading, hreading, hanswer⟩

end Osfacts
