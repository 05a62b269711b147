import Mathlib.Tactic

set_option autoImplicit false

/-! # Text framed by a delimiter

Two ways to frame a list of rows in one flat list: every row *followed by* a delimiter
(lines of a file) or rows *separated by* one (fields of a line). `List.splitOn` undoes
both as long as no row contains the delimiter; the first lemma says what it does when
some row does.
-/

namespace Osfacts

variable {α : Type}

/-- Every row followed by the delimiter. -/
def terminated (sep : α) (rows : List (List α)) : List α :=
  rows.flatMap (fun row => row ++ [sep])

/-- The maximal runs of elements that do not satisfy `p`: split and drop empty pieces. -/
def fields (p : α → Bool) (l : List α) : List (List α) :=
  (l.splitOnP p).filter (fun field => !field.isEmpty)

@[simp] theorem terminated_nil (sep : α) : terminated sep [] = [] := rfl

theorem terminated_cons (sep : α) (row : List α) (rows : List (List α)) :
    terminated sep (row :: rows) = row ++ sep :: terminated sep rows := by
  simp [terminated]

/-- A terminated list is a separated one with a delimiter behind it. -/
theorem terminated_eq_intercalate {sep : α} {rows : List (List α)} (h : rows ≠ []) :
    terminated sep rows = [sep].intercalate rows ++ [sep] := by
  induction rows with
  | nil => exact absurd rfl h
  | cons row rows ih =>
      cases rows with
      | nil => simp [terminated]
      | cons next rows =>
          rw [terminated_cons, ih (List.cons_ne_nil _ _), List.intercalate_cons_cons]
          simp

section Split

variable [BEq α] [LawfulBEq α]

/-- Terminated rows split into the pieces of each row, whatever the rows contain. -/
theorem splitOn_terminated_append (sep : α) (rows : List (List α)) (rest : List α) :
    (terminated sep rows ++ rest).splitOn sep
      = rows.flatMap (fun row => row.splitOn sep) ++ rest.splitOn sep := by
  induction rows with
  | nil => rfl
  | cons row rows ih =>
      rw [terminated_cons, List.append_assoc, List.cons_append, List.splitOn_append_cons_self,
        ih, List.flatMap_cons, List.append_assoc]

theorem flatMap_splitOn_of_not_mem {sep : α} {rows : List (List α)}
    (h : ∀ row ∈ rows, sep ∉ row) : rows.flatMap (fun row => row.splitOn sep) = rows := by
  induction rows with
  | nil => rfl
  | cons row rows ih =>
      rw [List.flatMap_cons, List.splitOn_eq_singleton (h row (by simp)),
        ih (fun r hr => h r (by simp [hr]))]
      rfl

/-- Splitting inverts termination, up to the empty piece after the last delimiter. -/
theorem splitOn_terminated {sep : α} {rows : List (List α)} (h : ∀ row ∈ rows, sep ∉ row) :
    (terminated sep rows).splitOn sep = rows ++ [[]] := by
  have hsplit := splitOn_terminated_append sep rows []
  rw [List.append_nil] at hsplit
  rw [hsplit, flatMap_splitOn_of_not_mem h, List.splitOn_nil]

/-- The first piece of a split is what stands before the first delimiter. -/
theorem splitOn_eq_takeWhile_cons (sep : α) (l : List α) :
    ∃ rest, l.splitOn sep = l.takeWhile (fun a => a != sep) :: rest := by
  induction l with
  | nil => exact ⟨[], rfl⟩
  | cons a l ih =>
      obtain ⟨rest, hrest⟩ := ih
      rw [List.splitOn, List.splitOnP_cons_eq_if_modifyHead, ← List.splitOn, hrest]
      by_cases ha : a = sep
      · simp [ha]
      · simp [ha]

/-- Nothing but delimiters is lost in a split. -/
theorem exists_mem_splitOn {sep a : α} {l : List α} (ha : a ∈ l) (hne : a ≠ sep) :
    ∃ piece ∈ l.splitOn sep, a ∈ piece := by
  induction l with
  | nil => cases ha
  | cons b l ih =>
      obtain ⟨rest, hrest⟩ := splitOn_eq_takeWhile_cons sep l
      rw [List.splitOn, List.splitOnP_cons_eq_if_modifyHead, ← List.splitOn]
      rcases List.mem_cons.mp ha with rfl | ha
      · rw [if_neg (by simpa using hne), hrest]
        exact ⟨_, List.mem_cons_self, List.mem_cons_self⟩
      · obtain ⟨piece, hpiece, hmem⟩ := ih ha
        split
        case isTrue => exact ⟨piece, List.mem_cons_of_mem _ hpiece, hmem⟩
        case isFalse =>
            rw [hrest] at hpiece ⊢
            rcases List.mem_cons.mp hpiece with rfl | hpiece
            · exact ⟨_, List.mem_cons_self, List.mem_cons_of_mem _ hmem⟩
            · exact ⟨piece, List.mem_cons_of_mem _ hpiece, hmem⟩

/-- The last piece of a split is the one that grows when the list does. -/
theorem splitOn_append (sep : α) (l : List α) :
    ∃ whole piece, l.splitOn sep = whole ++ [piece] ∧
      ∀ l' head rest, l'.splitOn sep = head :: rest →
        (l ++ l').splitOn sep = whole ++ (piece ++ head) :: rest := by
  induction l with
  | nil => exact ⟨[], [], rfl, fun l' head rest h => h⟩
  | cons a l ih =>
      obtain ⟨whole, piece, hsplit, happend⟩ := ih
      have hcons : ∀ l : List α, (a :: l).splitOn sep
          = if a == sep then [] :: l.splitOn sep else (l.splitOn sep).modifyHead (a :: ·) :=
        fun l => List.splitOnP_cons_eq_if_modifyHead a l
      by_cases ha : a = sep
      · refine ⟨[] :: whole, piece, ?_, fun l' head rest h => ?_⟩
        · rw [hcons, if_pos (beq_iff_eq.mpr ha), hsplit]
          rfl
        · rw [List.cons_append, hcons, if_pos (beq_iff_eq.mpr ha), happend l' head rest h]
          rfl
      · have hne : ¬ (a == sep) = true := fun h => ha (beq_iff_eq.mp h)
        -- the element joins the first piece, which may be the last as well
        cases whole with
        | nil =>
            refine ⟨[], a :: piece, ?_, fun l' head rest h => ?_⟩
            · rw [hcons, if_neg hne, hsplit]
              rfl
            · rw [List.cons_append, hcons, if_neg hne, happend l' head rest h]
              rfl
        | cons first whole =>
            refine ⟨(a :: first) :: whole, piece, ?_, fun l' head rest h => ?_⟩
            · rw [hcons, if_neg hne, hsplit]
              rfl
            · rw [List.cons_append, hcons, if_neg hne, happend l' head rest h]
              rfl

end Split

/-! ## Fields -/

/-- No piece of a split contains an element the split was made at. -/
theorem not_of_mem_splitOnP {p : α → Bool} (l : List α) :
    ∀ piece ∈ l.splitOnP p, ∀ a ∈ piece, p a = false := by
  induction l with
  | nil => simp [List.splitOnP_nil]
  | cons x l ih =>
      intro piece hpiece a ha
      rw [List.splitOnP_cons_eq_if_modifyHead] at hpiece
      split at hpiece
      case isTrue hx =>
          rcases List.mem_cons.mp hpiece with rfl | hpiece
          · simp at ha
          · exact ih piece hpiece a ha
      case isFalse hx =>
          cases hs : l.splitOnP p with
          | nil => exact absurd hs (List.splitOnP_ne_nil p l)
          | cons head tail =>
              rw [hs] at hpiece ih
              rcases List.mem_cons.mp hpiece with rfl | hpiece
              · rcases List.mem_cons.mp ha with rfl | ha
                · simpa using hx
                · exact ih head (by simp) a ha
              · exact ih piece (by simp [hpiece]) a ha

theorem not_of_mem_fields {p : α → Bool} {l field : List α} (h : field ∈ fields p l) :
    ∀ a ∈ field, p a = false :=
  not_of_mem_splitOnP l field (List.mem_filter.mp h).1

/-! ## Columns between blanks -/

/-- Columns in a row, each with its gap in front. -/
def spaced (gap : Nat → List α) : Nat → List (List α) → List α
  | _, [] => []
  | i, column :: columns => gap i ++ column ++ spaced gap (i + 1) columns

theorem mem_spaced {gap : Nat → List α} {columns : List (List α)} {i : Nat} {a : α}
    (h : a ∈ spaced gap i columns) : (∃ j, a ∈ gap j) ∨ ∃ column ∈ columns, a ∈ column := by
  induction columns generalizing i with
  | nil => cases h
  | cons column columns ih =>
      rw [spaced, List.mem_append, List.mem_append] at h
      rcases h with (h | h) | h
      · exact Or.inl ⟨i, h⟩
      · exact Or.inr ⟨column, by simp, h⟩
      · rcases ih h with hgap | ⟨c, hc, ha⟩
        · exact Or.inl hgap
        · exact Or.inr ⟨c, by simp [hc], ha⟩

theorem fields_cons_of_pos {p : α → Bool} {a : α} (ha : p a = true) (l : List α) :
    fields p (a :: l) = fields p l := by
  rw [fields, List.splitOnP_cons_eq_if_modifyHead, if_pos ha]
  rfl

theorem fields_blank_append {p : α → Bool} {blank : List α} (h : ∀ a ∈ blank, p a = true)
    (l : List α) : fields p (blank ++ l) = fields p l := by
  induction blank with
  | nil => rfl
  | cons a blank ih =>
      rw [List.cons_append, fields_cons_of_pos (h a (by simp)), ih (fun b hb => h b (by simp [hb]))]

theorem fields_blank {p : α → Bool} {blank : List α} (h : ∀ a ∈ blank, p a = true) :
    fields p blank = [] := by
  have hfields := fields_blank_append h []
  rw [List.append_nil] at hfields
  rw [hfields, fields, List.splitOnP_nil]
  rfl

/-- A column ends where the text does, or at a blank. -/
theorem fields_column_append {p : α → Bool} {column : List α} (hne : column ≠ [])
    (hcolumn : ∀ a ∈ column, p a = false) {l : List α} (hl : ∀ b ∈ l.head?, p b = true) :
    fields p (column ++ l) = column :: fields p l := by
  have hkept : ∀ pieces : List (List α),
      (column :: pieces).filter (fun field => !field.isEmpty)
        = column :: pieces.filter (fun field => !field.isEmpty) := by
    intro pieces
    rw [List.filter_cons_of_pos (by simpa using hne)]
  cases l with
  | nil =>
      rw [List.append_nil, fields, List.splitOnP_eq_singleton hcolumn, hkept, fields,
        List.splitOnP_nil]
      rfl
  | cons b l =>
      have hb : p b = true := hl b rfl
      rw [fields_cons_of_pos hb, fields,
        List.splitOnP_append_cons_of_forall_mem hcolumn b hb, hkept]
      rfl

/-- **Columns between blanks are read back.** The gap in front of the first column may be
empty, and so may the blanks after the last. -/
theorem fields_spaced {p : α → Bool} {gap : Nat → List α} {trail : List α}
    (hgap : ∀ i, ∀ a ∈ gap i, p a = true) (htrail : ∀ a ∈ trail, p a = true)
    (columns : List (List α)) (hne : ∀ column ∈ columns, column ≠ [])
    (hcolumns : ∀ column ∈ columns, ∀ a ∈ column, p a = false) (i : Nat)
    (hsep : ∀ j, i < j → gap j ≠ []) :
    fields p (spaced gap i columns ++ trail) = columns := by
  induction columns generalizing i with
  | nil => exact fields_blank htrail
  | cons column columns ih =>
      have hrest := ih (fun c hc => hne c (by simp [hc])) (fun c hc => hcolumns c (by simp [hc]))
        (i + 1) (fun j hj => hsep j (by omega))
      have hblank : ∀ b ∈ (spaced gap (i + 1) columns ++ trail).head?, p b = true := by
        intro b hb
        cases columns with
        | nil => exact htrail b (List.mem_of_mem_head? hb)
        | cons next columns =>
            obtain ⟨c, rest, hc⟩ := List.exists_cons_of_ne_nil (hsep (i + 1) (by omega))
            rw [spaced, hc] at hb
            obtain rfl : c = b := Option.some.inj hb
            exact hgap (i + 1) c (by simp [hc])
      rw [spaced, List.append_assoc, List.append_assoc, fields_blank_append (hgap i),
        fields_column_append (hne column (by simp)) (hcolumns column (by simp)) hblank, hrest]

/-- Columns joined by one blank each. -/
theorem fields_intercalate {p : α → Bool} {sep : α} (hsep : p sep = true)
    (columns : List (List α)) (hne : ∀ column ∈ columns, column ≠ [])
    (hcolumns : ∀ column ∈ columns, ∀ a ∈ column, p a = false) :
    fields p ([sep].intercalate columns) = columns := by
  induction columns with
  | nil => exact fields_blank (fun a ha => absurd ha List.not_mem_nil)
  | cons column columns ih =>
      have hrest := ih (fun c hc => hne c (by simp [hc])) (fun c hc => hcolumns c (by simp [hc]))
      cases columns with
      | nil =>
          have hone := fields_column_append (l := []) (hne column (by simp))
            (hcolumns column (by simp)) (by simp)
          rw [List.append_nil, fields_blank (fun a ha => absurd ha List.not_mem_nil)] at hone
          rw [List.intercalate_singleton, hone]
      | cons next columns =>
          have hblank : ∀ b ∈ ([sep] ++ [sep].intercalate (next :: columns)).head?, p b = true := by
            rintro b hb
            obtain rfl : sep = b := Option.some.inj hb
            exact hsep
          rw [List.intercalate_cons_cons, List.append_assoc, fields_column_append
            (hne column (by simp)) (hcolumns column (by simp)) hblank, List.singleton_append,
            fields_cons_of_pos hsep, hrest]

end Osfacts
