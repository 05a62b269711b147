import Osfacts.Contract.CutRows

set_option autoImplicit false

/-! # How a parser refuses

Behind a right version line every refusal is a parse error. A row whose tag the reader does not
know, or whose facet is not the reader's own, is enough for one.
-/

namespace Osfacts

open Client

/-! ## Parse errors -/

section ParseOnly

variable {α β : Type}

/-- A reader that refuses with parse errors only. -/
def ParseOnly (x : Except OsfactsClientError α) : Prop :=
  ∀ e, x = .error e → ∃ message, e = .parse message

theorem parseOnly_ok (a : α) : ParseOnly (.ok a) := by
  intro e h
  cases h

theorem parseOnly_parseError (message : Text) : ParseOnly (parseError message : Except _ α) := by
  intro e h
  exact ⟨message, (Except.error.inj h).symm⟩

theorem ParseOnly.bind {x : Except OsfactsClientError α} {f : α → Except OsfactsClientError β}
    (hx : ParseOnly x) (hf : ∀ a, ParseOnly (f a)) : ParseOnly (x >>= f) := by
  cases x with
  | error e =>
      intro e' h
      exact hx e' (congrArg Except.error (Except.error.inj h))
  | ok a => exact hf a

theorem ParseOnly.map {x : Except OsfactsClientError α} (hx : ParseOnly x) (f : α → β) :
    ParseOnly (f <$> x) := by
  rw [← bind_pure_comp]
  exact hx.bind fun a => parseOnly_ok (f a)

theorem parseOnly_ite {c : Prop} [Decidable c] {x y : Except OsfactsClientError α}
    (hx : ParseOnly x) (hy : ParseOnly y) : ParseOnly (if c then x else y) := by
  split_ifs
  · exact hx
  · exact hy

theorem parseOnly_foldlM {step : β → α → Except OsfactsClientError β} (l : List α)
    (h : ∀ b a, ParseOnly (step b a)) (b : β) : ParseOnly (l.foldlM step b) := by
  induction l generalizing b with
  | nil => exact parseOnly_ok b
  | cons a l ih =>
      rw [List.foldlM_cons]
      exact (h b a).bind ih

end ParseOnly

/-! ## The fields and the rows -/

section Rows

variable {J : JsonLib} {L : FloatLib}

theorem numeric_parseOnly {α : Type} (raw : Option Text) (what : String) (shape : Text → Bool)
    (number : Text → α) (valid : α → Bool) (expected : String) :
    ParseOnly (numeric raw what shape number valid expected) := by
  unfold numeric
  cases raw with
  | none => exact parseOnly_parseError _
  | some t =>
      refine parseOnly_ite (parseOnly_ite ?_ ?_) ?_
      · exact parseOnly_ok _
      · exact parseOnly_parseError _
      · exact parseOnly_parseError _

theorem integer_parseOnly (raw : Option Text) (what : String) : ParseOnly (integer raw what) := by
  unfold integer
  exact numeric_parseOnly _ _ _ _ _ _

theorem signedInteger_parseOnly (raw : Option Text) (what : String) :
    ParseOnly (signedInteger raw what) := by
  unfold signedInteger
  exact numeric_parseOnly _ _ _ _ _ _

theorem float_parseOnly (raw : Option Text) (what : String) : ParseOnly (float L raw what) := by
  unfold float
  exact numeric_parseOnly _ _ _ _ _ _

theorem positiveInteger_parseOnly (raw : Option Text) (what : String) :
    ParseOnly (positiveInteger raw what) := by
  unfold positiveInteger
  exact (integer_parseOnly raw what).bind fun value =>
    parseOnly_ite (parseOnly_parseError _) (parseOnly_ok value)

theorem jsonString_parseOnly (raw : Option Text) (what : String) :
    ParseOnly (jsonString J raw what) := by
  unfold jsonString
  split
  · exact parseOnly_parseError _
  · split
    · exact parseOnly_parseError _
    · exact parseOnly_ok _

theorem jsonStrings_parseOnly (raw : Option Text) (what : String) :
    ParseOnly (jsonStrings J raw what) := by
  unfold jsonStrings
  split
  · exact parseOnly_parseError _
  · split
    · exact parseOnly_parseError _
    · exact parseOnly_ok _

theorem dashOr_parseOnly {α : Type} {raw : Option Text} {read : Except OsfactsClientError α}
    (h : ParseOnly read) : ParseOnly (dashOr raw read) :=
  parseOnly_ite (parseOnly_ok none) (h.map some)

theorem arity_parseOnly (f : List Text) (n : Nat) (row : Text) : ParseOnly (arity f n row) :=
  parseOnly_ite (parseOnly_parseError _) (parseOnly_ok ())

/-- A check in the middle of a row. -/
theorem ParseOnly.guard {α : Type} {c : Prop} [Decidable c] {message : Text}
    {rest : Except OsfactsClientError α} (hrest : ParseOnly rest) :
    ParseOnly (if c then parseError message >>= fun _ : PUnit => rest else rest) :=
  parseOnly_ite ((parseOnly_parseError message).bind fun _ => hrest) hrest

theorem sourceErrorRow_parseOnly (f : List Text) (line : Text) (allowed : List Text) :
    ParseOnly (sourceErrorRow f line allowed) := by
  unfold sourceErrorRow
  refine (arity_parseOnly f 4 line).bind fun _ => ?_
  exact ParseOnly.guard (ParseOnly.guard (parseOnly_ok _))

theorem procRow_parseOnly (f : List Text) (line : Text) : ParseOnly (procRow f line) := by
  unfold procRow
  refine (arity_parseOnly f 4 line).bind fun _ => ?_
  refine (integer_parseOnly _ _).bind fun _ => ?_
  exact (integer_parseOnly _ _).bind fun _ => parseOnly_ok _

theorem unreadableRow_parseOnly (f : List Text) (line : Text) :
    ParseOnly (unreadableRow f line) := by
  unfold unreadableRow
  refine (arity_parseOnly f 4 line).bind fun _ => ParseOnly.guard (ParseOnly.guard ?_)
  exact (integer_parseOnly _ _).bind fun _ => parseOnly_ok _

theorem attribution_parseOnly (status pidRaw : Option Text) (line : Text) (what : String) :
    ParseOnly (attribution status pidRaw line what) := by
  unfold attribution
  refine parseOnly_ite (parseOnly_ite (parseOnly_parseError _) ?_) ?_
  · exact (positiveInteger_parseOnly _ _).map _
  · refine parseOnly_ite (parseOnly_ite (parseOnly_parseError _) ?_) (parseOnly_parseError _)
    exact parseOnly_ok _

theorem listenerRow_parseOnly (f : List Text) (line : Text) : ParseOnly (listenerRow f line) := by
  unfold listenerRow
  refine (arity_parseOnly f 6 line).bind fun _ => ?_
  refine (dashOr_parseOnly (integer_parseOnly _ _)).bind fun _ => ?_
  refine (integer_parseOnly _ _).bind fun _ => ParseOnly.guard (ParseOnly.guard ?_)
  exact (attribution_parseOnly _ _ _ _).bind fun _ => parseOnly_ok _

theorem statusRow_parseOnly (f : List Text) (line : Text) : ParseOnly (statusRow f line) := by
  unfold statusRow
  refine (arity_parseOnly f 5 line).bind fun _ => ParseOnly.guard ?_
  refine (integer_parseOnly _ _).bind fun _ => (signedInteger_parseOnly _ _).bind fun _ => ?_
  exact (dashOr_parseOnly (positiveInteger_parseOnly _ _)).bind fun _ => parseOnly_ok _

theorem cpuRow_parseOnly (f : List Text) (line : Text) : ParseOnly (cpuRow J f line) := by
  unfold cpuRow
  refine (arity_parseOnly f 8 line).bind fun _ => ?_
  refine (jsonString_parseOnly _ _).bind fun _ => ParseOnly.guard ?_
  refine (integer_parseOnly _ _).bind fun _ => (integer_parseOnly _ _).bind fun _ => ?_
  refine (integer_parseOnly _ _).bind fun _ => (integer_parseOnly _ _).bind fun _ => ?_
  refine (integer_parseOnly _ _).bind fun _ => ?_
  exact (dashOr_parseOnly (positiveInteger_parseOnly _ _)).bind fun _ => parseOnly_ok _

theorem unknownTag_parseOnly {α : Type} (f : List Text) (line : Text) :
    ParseOnly (unknownTag f line : Except _ α) := by
  unfold unknownTag
  exact parseOnly_parseError _

/-- A row of a pid and one more column. -/
theorem pidColumn_parseOnly {α R : Type} (f : List Text) (line : Text) (what : String)
    {read : Except OsfactsClientError α} (h : ParseOnly read) (build : Nat → α → R) :
    ParseOnly (arity f 3 line >>= fun _ => integer f[1]? what >>= fun pid =>
      read >>= fun value => pure (build pid value)) := by
  refine (arity_parseOnly f 3 line).bind fun _ => ?_
  exact (integer_parseOnly _ _).bind fun _ => h.bind fun _ => parseOnly_ok _

theorem snapshotRow_parseOnly (out : SnapshotReading) (line : Text) :
    ParseOnly (snapshotRow J out line) := by
  unfold snapshotRow
  simp only []
  split
  · exact (procRow_parseOnly _ _).bind fun _ => parseOnly_ok _
  · exact pidColumn_parseOnly _ _ _ (integer_parseOnly _ _) _
  · exact pidColumn_parseOnly _ _ _ (integer_parseOnly _ _) _
  · exact pidColumn_parseOnly _ _ _ (integer_parseOnly _ _) _
  · exact pidColumn_parseOnly _ _ _ (integer_parseOnly _ _) _
  · exact pidColumn_parseOnly _ _ _ (jsonString_parseOnly _ _) _
  · exact (statusRow_parseOnly _ _).bind fun _ => parseOnly_ok _
  · exact pidColumn_parseOnly _ _ _ (jsonStrings_parseOnly _ _) _
  · exact (listenerRow_parseOnly _ _).bind fun _ => parseOnly_ok _
  · exact (unreadableRow_parseOnly _ _).bind fun _ => parseOnly_ok _
  · exact (sourceErrorRow_parseOnly _ _ _).bind fun _ => parseOnly_ok _
  · exact unknownTag_parseOnly _ _

theorem socketHoldersRow_parseOnly (out : SocketHoldersReading) (line : Text) :
    ParseOnly (socketHoldersRow out line) := by
  unfold socketHoldersRow
  simp only []
  split
  · refine (arity_parseOnly _ _ _).bind fun _ => ?_
    exact (attribution_parseOnly _ _ _ _).bind fun _ => parseOnly_ok _
  · exact (procRow_parseOnly _ _).bind fun _ => parseOnly_ok _
  · exact (unreadableRow_parseOnly _ _).bind fun _ => parseOnly_ok _
  · exact (sourceErrorRow_parseOnly _ _ _).bind fun _ => parseOnly_ok _
  · exact unknownTag_parseOnly _ _

theorem hostRow_parseOnly (out : HostReading L) (line : Text) :
    ParseOnly (hostRow J L out line) := by
  unfold hostRow
  simp only []
  split
  · refine (arity_parseOnly _ _ _).bind fun _ => (float_parseOnly _ _).bind fun _ => ?_
    exact (float_parseOnly _ _).bind fun _ => (float_parseOnly _ _).bind fun _ => parseOnly_ok _
  · exact pidColumn_parseOnly _ _ _ (integer_parseOnly _ _) _
  · exact pidColumn_parseOnly _ _ _ (integer_parseOnly _ _) _
  · refine (arity_parseOnly _ _ _).bind fun _ => ?_
    exact (integer_parseOnly _ _).bind fun _ => parseOnly_ok _
  · exact (cpuRow_parseOnly _ _).bind fun _ => parseOnly_ok _
  · refine (arity_parseOnly _ _ _).bind fun _ => (integer_parseOnly _ _).bind fun _ => ?_
    exact (integer_parseOnly _ _).bind fun _ => parseOnly_ok _
  · refine (arity_parseOnly _ _ _).bind fun _ => (integer_parseOnly _ _).bind fun _ => ?_
    refine (integer_parseOnly _ _).bind fun _ => ?_
    exact (integer_parseOnly _ _).bind fun _ => parseOnly_ok _
  · exact (sourceErrorRow_parseOnly _ _ _).bind fun _ => parseOnly_ok _
  · exact unknownTag_parseOnly _ _

end Rows

/-! ## Documents -/

section Refused

variable {R : Type} {reader : R → Text → Except OsfactsClientError R} {empty : R}
  {rows : List (List Text)}

/-- A parse error, and no reading. -/
def ParseRefused {α : Type} (x : Except OsfactsClientError α) : Prop :=
  ∃ message, x = .error (.parse message)

theorem ParseRefused.not_ok {α : Type} {x : Except OsfactsClientError α} (h : ParseRefused x)
    (a : α) : x ≠ .ok a := by
  obtain ⟨message, rfl⟩ := h
  intro heq
  cases heq

/-- The text of a document of this format, with the rows after its version line. -/
def documentOf (rows : List (List Text)) : Text := tsv (versionRow SCHEMA_VERSION :: rows)

theorem line_feed_not_mem_versionRow (version : UInt32) : '\n' ∉ tsvLine (versionRow version) := by
  have hok : RowOk (versionRow version) := by
    refine rowOk_cons (by decide) (by decide) ?_
    exact List.forall_mem_singleton.mpr (plain_decimal _)
  exact line_feed_not_mem_tsvLine hok

/-- The version line is right, and the lines of every row follow it. -/
theorem documentOf_lines (rows : List (List Text)) :
    ∃ lines, bodyRows (documentOf rows) = .ok lines ∧
      ∀ row ∈ rows, ∀ piece ∈ (tsvLine row).splitOn '\n', piece ∈ lines := by
  have hsplit := splitOn_terminated_append '\n'
    ((versionRow SCHEMA_VERSION :: rows).map tsvLine) []
  rw [List.append_nil, List.map_cons, List.flatMap_cons,
    List.splitOn_eq_singleton (line_feed_not_mem_versionRow SCHEMA_VERSION)] at hsplit
  have hversion : VersionLine (tsvLine (versionRow SCHEMA_VERSION)) :=
    ⟨"2".toList, rfl, rfl, rfl⟩
  refine ⟨_, bodyRows_ok_iff.mpr ⟨_, hsplit, hversion⟩, fun row hrow piece hpiece => ?_⟩
  refine List.mem_append_left _ (List.mem_flatMap.mpr ⟨tsvLine row, ?_, hpiece⟩)
  exact List.mem_map_of_mem hrow

/-- A line of a row that cannot be read is a line of the document that cannot be read. -/
theorem refused_of_piece (h : ∀ line, Uniform (fun out => reader out line))
    (hparse : ∀ out line, ParseOnly (reader out line)) {row : List Text} (hrow : row ∈ rows)
    {piece : Text} (hpiece : piece ∈ (tsvLine row).splitOn '\n')
    (hbad : ¬ Reads reader empty piece) :
    ParseRefused (parseRows reader empty (documentOf rows)) := by
  obtain ⟨lines, hlines, hmem⟩ := documentOf_lines rows
  have hnot : ¬ ∃ out, parseRows reader empty (documentOf rows) = .ok out := by
    rw [parseRows_ok_iff empty h]
    rintro ⟨first, lines', hsplit, hversion, hall⟩
    have hlines' := bodyRows_ok_iff.mpr ⟨first, hsplit, hversion⟩
    obtain rfl := Except.ok.inj (hlines.symm.trans hlines')
    exact hbad (hall piece (hmem row hrow piece hpiece))
  obtain ⟨e, he⟩ := error_iff_not_ok.mpr hnot
  have hfold : lines.foldlM (fun out line => if line = [] then pure out else reader out line) empty
      = .error e := by
    rw [← he, parseRows, hlines]
    rfl
  -- every step of the fold is one of the reader's
  have honly := parseOnly_foldlM lines
    (fun out line => parseOnly_ite (c := line = []) (parseOnly_ok out) (hparse out line)) empty
  obtain ⟨message, rfl⟩ := honly e hfold
  exact ⟨message, he⟩

/-- A row whose tag the reader does not know, whatever its columns hold. -/
theorem refused_of_tag (h : ∀ line, Uniform (fun out => reader out line))
    (hparse : ∀ out line, ParseOnly (reader out line)) {tag column : Text}
    {columns : List Text} (hrow : tag :: column :: columns ∈ rows) (hplain : Plain tag)
    (hbad : ∀ line, tagOf line = tag → ∀ out, reader empty line ≠ .ok out) :
    ParseRefused (parseRows reader empty (documentOf rows)) := by
  obtain ⟨rest, hrest⟩ := splitOn_eq_takeWhile_cons '\n' (tsvLine (tag :: column :: columns))
  refine refused_of_piece h hparse hrow (by rw [hrest]; exact List.mem_cons_self ..) ?_
  -- the first line of the row starts with the tag and a tab
  obtain ⟨tail, htail⟩ : ∃ tail, tsvLine (tag :: column :: columns) = tag ++ '\t' :: tail := by
    rw [tsvLine, List.intercalate_cons_cons]
    exact ⟨_, by rw [List.append_assoc]; rfl⟩
  have hfirst : (tsvLine (tag :: column :: columns)).takeWhile (fun c => c != '\n')
      = tag ++ '\t' :: tail.takeWhile (fun c => c != '\n') := by
    have htag : ∀ c ∈ tag, (c != '\n') = true := by
      intro c hc
      exact bne_iff_ne.mpr (fun heq => hplain.2 (heq ▸ hc))
    rw [htail, List.takeWhile_append_of_pos htag]
    rfl
  rw [hfirst]
  rintro (hnil | ⟨out, hout⟩)
  · exact List.append_ne_nil_of_right_ne_nil tag (List.cons_ne_nil _ _) hnil
  · refine hbad _ ?_ out hout
    rw [tagOf, List.splitOn, List.splitOnP_append_cons_of_forall_mem (fun c hc => ?_) '\t' (by rfl)]
    · rfl
    · exact beq_eq_false_iff_ne.mpr (fun heq => hplain.1 (heq ▸ hc))

/-- A well-formed row that the reader refuses. -/
theorem refused_of_row (h : ∀ line, Uniform (fun out => reader out line))
    (hparse : ∀ out line, ParseOnly (reader out line)) {row : List Text} (hrow : row ∈ rows)
    (hok : RowOk row) (hbad : ∀ out, reader empty (tsvLine row) ≠ .ok out) :
    ParseRefused (parseRows reader empty (documentOf rows)) := by
  refine refused_of_piece h hparse hrow (?_ : tsvLine row ∈ _) ?_
  · rw [List.splitOn_eq_singleton (line_feed_not_mem_tsvLine hok)]
    exact List.mem_singleton_self _
  · rintro (hnil | ⟨out, hout⟩)
    · exact tsvLine_ne_nil hok hnil
    · exact hbad out hout

/-- A document of well-formed rows that the reader accepts. -/
theorem not_refused (h : ∀ line, Uniform (fun out => reader out line))
    (hrows : ∀ row ∈ rows, RowOk row ∧ ∃ out, reader empty (tsvLine row) = .ok out) :
    ¬ ParseRefused (parseRows reader empty (documentOf rows)) := by
  intro hrefused
  obtain ⟨out, hout⟩ := (foldlM_ok_iff rows (fun row => h (tsvLine row)) empty).mpr
    (fun row hrow => (hrows row hrow).2)
  refine hrefused.not_ok out ?_
  rw [documentOf, parseRows_tsv _ _ (fun row hrow => (hrows row hrow).1)]
  exact hout

end Refused

end Osfacts
