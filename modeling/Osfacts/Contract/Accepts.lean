import Osfacts.Contract.RoundTrip

set_option autoImplicit false

/-! # What the parsers accept

A row is read or refused whatever was read before it. So a parser accepts a text exactly when
the version line is right and every line after it can be read on its own.
-/

namespace Osfacts

open Client

/-! ## Steps that do not look back -/

section Uniform

variable {ε R : Type}

/-- A step that succeeds or fails whatever was read before it. -/
def Uniform (step : R → Except ε R) : Prop :=
  (∃ e, ∀ out, step out = .error e) ∨ ∃ f : R → R, ∀ out, step out = .ok (f out)

theorem uniform_error (e : ε) : Uniform (fun _ : R => (.error e : Except ε R)) :=
  Or.inl ⟨e, fun _ => rfl⟩

theorem uniform_ok (f : R → R) : Uniform (fun out => (.ok (f out) : Except ε R)) :=
  Or.inr ⟨f, fun _ => rfl⟩

/-- A field is read first, and then the step goes on with its value. -/
theorem uniform_bind {α : Type} (read : Except ε α) {step : α → R → Except ε R}
    (h : ∀ a, Uniform (step a)) : Uniform (fun out => read >>= fun a => step a out) := by
  cases read with
  | error e => exact uniform_error e
  | ok a => exact h a

theorem Uniform.ok_iff {step : R → Except ε R} (h : Uniform step) (out out' : R) :
    (∃ r, step out = .ok r) ↔ ∃ r, step out' = .ok r := by
  rcases h with ⟨e, he⟩ | ⟨f, hf⟩
  · rw [he, he]
  · rw [hf, hf]
    exact iff_of_true ⟨_, rfl⟩ ⟨_, rfl⟩

/-- A fold of such steps succeeds exactly when each of them does. -/
theorem foldlM_ok_iff {β : Type} {step : R → β → Except ε R} (rows : List β)
    (h : ∀ x, Uniform (fun out => step out x)) (out : R) :
    (∃ r, rows.foldlM step out = .ok r) ↔ ∀ x ∈ rows, ∃ r, step out x = .ok r := by
  induction rows generalizing out with
  | nil => exact iff_of_true ⟨out, rfl⟩ (List.forall_mem_nil _)
  | cons x rows ih =>
      rw [List.foldlM_cons, List.forall_mem_cons]
      cases hx : step out x with
      | error e =>
          refine iff_of_false ?_ ?_
          · rintro ⟨r, hr⟩
            cases hr
          · rintro ⟨⟨r, hr⟩, -⟩
            cases hr
      | ok next =>
          show (∃ r, rows.foldlM step next = .ok r) ↔ _
          rw [ih]
          constructor
          · exact fun hall => ⟨⟨next, rfl⟩, fun y hy => ((h y).ok_iff next out).mp (hall y hy)⟩
          · exact fun hall y hy => ((h y).ok_iff out next).mp (hall.2 y hy)

end Uniform

/-! ## Documents -/

/-- The version line of this format. -/
def VersionLine (line : Text) : Prop :=
  ∃ version, line = 'V' :: '\t' :: version ∧ Decimal.isNumeral version = true ∧
    Decimal.value version = OSFACTS_FORMAT_VERSION

theorem bodyRows_ok_iff {body : Text} {lines : List Text} :
    bodyRows body = .ok lines ↔
      ∃ first, body.splitOn '\n' = first :: lines ∧ VersionLine first := by
  obtain ⟨rest, hsplit⟩ := splitOn_eq_takeWhile_cons '\n' body
  generalize body.takeWhile (fun a => a != '\n') = first at hsplit
  unfold bodyRows
  rw [hsplit]
  simp only [List.headD_cons, List.tail_cons]
  constructor
  · intro h
    split at h
    case h_2 => cases h
    case h_1 version =>
        split_ifs at h with hnumeral hvalue
        cases h
        exact ⟨_, rfl, version, rfl, hnumeral, not_not.mp hvalue⟩
  · rintro ⟨first', hcons, version, rfl, hnumeral, hvalue⟩
    obtain ⟨rfl, rfl⟩ := List.cons.inj hcons
    show (if Decimal.isNumeral version = true then _ else _) = _
    rw [if_pos hnumeral, if_neg (not_not.mpr hvalue)]
    rfl

/-- A line the row reader accepts, on its own. -/
def Reads {R : Type} (row : R → Text → Except OsfactsClientError R) (empty : R) (line : Text) :
    Prop :=
  line = [] ∨ ∃ out, row empty line = .ok out

/-- The version line, and lines the row reader accepts. -/
def ReadsThrough {R : Type} (row : R → Text → Except OsfactsClientError R) (empty : R)
    (body : Text) : Prop :=
  ∃ first lines, body.splitOn '\n' = first :: lines ∧ VersionLine first ∧
    ∀ line ∈ lines, Reads row empty line

/-- **A parser accepts what it can read line by line.** -/
theorem parseRows_ok_iff {R : Type} {row : R → Text → Except OsfactsClientError R} (empty : R)
    (h : ∀ line, Uniform (fun out => row out line)) (body : Text) :
    (∃ out, parseRows row empty body = .ok out) ↔ ReadsThrough row empty body := by
  have hstep : ∀ line, Uniform
      (fun out =>
        if line = [] then (pure out : Except OsfactsClientError R) else row out line) := by
    intro line
    by_cases hline : line = []
    · simp only [if_pos hline]
      exact uniform_ok id
    · simp only [if_neg hline]
      exact h line
  have hreads : ∀ line, Reads row empty line ↔ ∃ out,
      (if line = [] then (pure empty : Except OsfactsClientError R) else row empty line)
        = .ok out := by
    intro line
    unfold Reads
    by_cases hline : line = []
    · rw [if_pos hline]
      exact iff_of_true (Or.inl hline) ⟨empty, rfl⟩
    · rw [if_neg hline, or_iff_right hline]
  rw [parseRows]
  constructor
  · rintro ⟨out, hok⟩
    obtain ⟨lines, hbody, hfold⟩ := bind_ok_iff.mp hok
    obtain ⟨first, hsplit, hversion⟩ := bodyRows_ok_iff.mp hbody
    have hall := (foldlM_ok_iff lines hstep empty).mp ⟨out, hfold⟩
    exact ⟨first, lines, hsplit, hversion, fun line hline => (hreads line).mpr (hall line hline)⟩
  · rintro ⟨first, lines, hsplit, hversion, hall⟩
    have hbody := bodyRows_ok_iff.mpr ⟨first, hsplit, hversion⟩
    obtain ⟨out, hfold⟩ := (foldlM_ok_iff lines hstep empty).mpr
      fun line hline => (hreads line).mp (hall line hline)
    exact ⟨out, bind_ok_iff.mpr ⟨lines, hbody, hfold⟩⟩

/-! ## The three row readers -/

theorem snapshotRow_uniform (J : JsonLib) (line : Text) :
    Uniform (fun out => snapshotRow J out line) := by
  unfold snapshotRow
  simp only []
  split
  all_goals first
    | exact uniform_error _
    | exact uniform_bind _ fun _ => uniform_ok _
    | exact uniform_bind _ fun _ => uniform_bind _ fun _ => uniform_bind _ fun _ => uniform_ok _

theorem socketHoldersRow_uniform (line : Text) :
    Uniform (fun out => socketHoldersRow out line) := by
  unfold socketHoldersRow
  simp only []
  split
  all_goals first
    | exact uniform_error _
    | exact uniform_bind _ fun _ => uniform_ok _
    | exact uniform_bind _ fun _ => uniform_bind _ fun _ => uniform_ok _

theorem hostRow_uniform (J : JsonLib) (L : FloatLib) (line : Text) :
    Uniform (fun out => hostRow J L out line) := by
  unfold hostRow
  simp only []
  split
  all_goals first
    | exact uniform_error _
    | exact uniform_bind _ fun _ => uniform_ok _
    | exact uniform_bind _ fun _ => uniform_bind _ fun _ => uniform_ok _
    | exact uniform_bind _ fun _ => uniform_bind _ fun _ => uniform_bind _ fun _ => uniform_ok _
    | exact uniform_bind _ fun _ => uniform_bind _ fun _ => uniform_bind _ fun _ =>
        uniform_bind _ fun _ => uniform_ok _

end Osfacts
