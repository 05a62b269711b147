import Osfacts.Rust.Text

set_option autoImplicit false

/-! # Arithmetic with overflow checks

In a build with overflow checks a sum or a product that does not fit stops the program. A
computation in `Checked` says so: it ends in a value, in the error that the source returns, or in
a panic. A computation of a build without the checks is what is left of it when the checks are
erased: the two agree wherever the first does not panic.
-/

namespace Osfacts

/-- Why a checked computation has no value. -/
inductive Halt (ε : Type) where
  | panic
  | error (err : ε)
  deriving DecidableEq, Repr

abbrev Checked (ε α : Type) : Type := Except (Halt ε) α

variable {ε α β : Type}

/-- `a + b` on `u64`. -/
def addU64 (a b : UInt64) : Checked ε UInt64 :=
  if a.toNat + b.toNat < 2 ^ 64 then .ok (a + b) else .error .panic

/-- `a * b` on `u64`. -/
def mulU64 (a b : UInt64) : Checked ε UInt64 :=
  if a.toNat * b.toNat < 2 ^ 64 then .ok (a * b) else .error .panic

/-- `a + b + …` on `u64`, from left to right. -/
def sumU64 (a : UInt64) (rest : List UInt64) : Checked ε UInt64 := rest.foldlM addU64 a

/-- A computation without plain arithmetic. -/
def unchecked (r : Except ε α) : Checked ε α := r.mapError .error

/-- Every sum and every product on the way fits. -/
def NoPanic (r : Checked ε α) : Prop := r ≠ .error .panic

/-- The build without the checks computes the same wherever the other does not panic. -/
def Erases (checked : Checked ε α) (plain : Except ε α) : Prop :=
  NoPanic checked → checked = unchecked plain

/-! ## Values -/

theorem addU64_ok_iff {a b c : UInt64} :
    (addU64 a b : Checked ε UInt64) = .ok c ↔ c.toNat = a.toNat + b.toNat := by
  unfold addU64
  split_ifs with h
  · rw [Except.ok.injEq, ← UInt64.toNat_inj, UInt64.toNat_add, Nat.mod_eq_of_lt h, eq_comm]
  · have hlt := c.toNat_lt
    refine iff_of_false (fun hc => by cases hc) fun hc => h ?_
    omega

theorem mulU64_ok_iff {a b c : UInt64} :
    (mulU64 a b : Checked ε UInt64) = .ok c ↔ c.toNat = a.toNat * b.toNat := by
  unfold mulU64
  split_ifs with h
  · rw [Except.ok.injEq, ← UInt64.toNat_inj, UInt64.toNat_mul, Nat.mod_eq_of_lt h, eq_comm]
  · have hlt := c.toNat_lt
    refine iff_of_false (fun hc => by cases hc) fun hc => h (hc ▸ hlt)

theorem sumU64_ok_iff {a c : UInt64} {rest : List UInt64} :
    (sumU64 a rest : Checked ε UInt64) = .ok c ↔
      c.toNat = a.toNat + (rest.map UInt64.toNat).sum := by
  induction rest generalizing a with
  | nil =>
      show (.ok a : Checked ε UInt64) = .ok c ↔ c.toNat = a.toNat + 0
      rw [Except.ok.injEq, Nat.add_zero, UInt64.toNat_inj, eq_comm]
  | cons b rest ih =>
      rw [sumU64, List.foldlM_cons, bind_ok_iff, List.map_cons, List.sum_cons]
      have hlt := c.toNat_lt
      constructor
      · rintro ⟨first, hfirst, hrest⟩
        rw [ih.mp hrest, addU64_ok_iff.mp hfirst, Nat.add_assoc]
      · intro hc
        have hsum : (a + b).toNat = a.toNat + b.toNat := by
          rw [UInt64.toNat_add, Nat.mod_eq_of_lt (by omega)]
        exact ⟨a + b, addU64_ok_iff.mpr hsum, ih.mpr (by rw [hsum, hc, Nat.add_assoc])⟩

theorem unchecked_ok_iff {r : Except ε α} {a : α} : unchecked r = .ok a ↔ r = .ok a := by
  cases r with
  | ok b =>
      show (.ok b : Checked ε α) = .ok a ↔ _
      rw [Except.ok.injEq, Except.ok.injEq]
  | error e => exact iff_of_false (fun h => by cases h) (fun h => by cases h)

theorem unchecked_bind (r : Except ε α) (f : α → Except ε β) :
    unchecked (r >>= f) = unchecked r >>= fun a => unchecked (f a) := by
  cases r <;> rfl

/-! ## Panics -/

theorem noPanic_ok (a : α) : NoPanic (.ok a : Checked ε α) := fun h => by cases h

theorem noPanic_unchecked (r : Except ε α) : NoPanic (unchecked r) := by
  cases r with
  | ok a => exact noPanic_ok a
  | error e => exact fun h => by cases h

/-- What neither panics nor fails has a value. -/
theorem NoPanic.exists_ok {x : Checked ε α} (h : NoPanic x) (herr : ∀ e, x ≠ .error (.error e)) :
    ∃ a, x = .ok a := by
  match x, h, herr with
  | .ok a, _, _ => exact ⟨a, rfl⟩
  | .error .panic, h, _ => exact absurd rfl h
  | .error (.error e), _, herr => exact absurd rfl (herr e)

theorem noPanic_addU64 {a b : UInt64} :
    NoPanic (addU64 a b : Checked ε UInt64) ↔ a.toNat + b.toNat < 2 ^ 64 := by
  unfold NoPanic addU64
  split_ifs with h
  · exact iff_of_true (fun hp => by cases hp) h
  · exact iff_of_false (fun hp => hp rfl) h

theorem noPanic_mulU64 {a b : UInt64} :
    NoPanic (mulU64 a b : Checked ε UInt64) ↔ a.toNat * b.toNat < 2 ^ 64 := by
  unfold NoPanic mulU64
  split_ifs with h
  · exact iff_of_true (fun hp => by cases hp) h
  · exact iff_of_false (fun hp => hp rfl) h

theorem noPanic_bind {x : Checked ε α} {f : α → Checked ε β} :
    NoPanic (x >>= f) ↔ NoPanic x ∧ ∀ a, x = .ok a → NoPanic (f a) := by
  cases x with
  | ok a =>
      refine ⟨fun h => ⟨noPanic_ok a, fun b hb => ?_⟩, fun h => h.2 a rfl⟩
      rw [← Except.ok.inj hb]
      exact h
  | error halt =>
      have hbind : ((.error halt : Checked ε α) >>= f) = .error halt := rfl
      rw [hbind]
      refine ⟨fun h => ⟨fun hp => h ?_, fun b hb => by cases hb⟩, fun h hp => h.1 ?_⟩
      · cases hp
        rfl
      · cases hp
        rfl

theorem noPanic_sumU64 {a : UInt64} {rest : List UInt64} :
    NoPanic (sumU64 a rest : Checked ε UInt64) ↔
      a.toNat + (rest.map UInt64.toNat).sum < 2 ^ 64 := by
  induction rest generalizing a with
  | nil => exact iff_of_true (noPanic_ok a) a.toNat_lt
  | cons b rest ih =>
      rw [sumU64, List.foldlM_cons, noPanic_bind, noPanic_addU64, List.map_cons, List.sum_cons]
      constructor
      · rintro ⟨hfits, hrest⟩
        have hsum : (a + b).toNat = a.toNat + b.toNat := by
          rw [UInt64.toNat_add, Nat.mod_eq_of_lt hfits]
        have hno := ih.mp (hrest (a + b) (addU64_ok_iff.mpr hsum))
        omega
      · intro hfits
        refine ⟨by omega, fun c hc => ih.mpr ?_⟩
        rw [addU64_ok_iff.mp hc]
        omega

/-- A loop that stops at the first element that is refused. -/
theorem noPanic_mapM {f : α → Checked ε β} {refused : α → Bool}
    (hrefused : ∀ a, refused a = true ↔ ∃ e, f a = .error (.error e)) (l : List α) :
    NoPanic (l.mapM f) ↔ ∀ a ∈ l.takeWhile (fun a => !refused a), NoPanic (f a) := by
  induction l with
  | nil => exact iff_of_true (noPanic_ok []) (List.forall_mem_nil _)
  | cons a l ih =>
      rw [List.mapM_cons, noPanic_bind]
      by_cases hstop : refused a = true
      · -- the loop ends here, with an error
        obtain ⟨e, he⟩ := (hrefused a).mp hstop
        rw [List.takeWhile_cons_of_neg (by rw [hstop]; decide), he]
        refine iff_of_true ⟨fun h => ?_, fun b hb => ?_⟩ (List.forall_mem_nil _)
        · cases h
        · cases hb
      · rw [List.takeWhile_cons_of_pos (by simpa using hstop), List.forall_mem_cons, ← ih]
        refine and_congr_right fun hno => ?_
        have hrest : ∀ b, NoPanic (l.mapM f >>= fun bs => pure (b :: bs)) ↔ NoPanic (l.mapM f) := by
          intro b
          rw [noPanic_bind]
          exact ⟨fun h => h.1, fun h => ⟨h, fun bs _ => noPanic_ok (b :: bs)⟩⟩
        obtain ⟨b, hb⟩ := hno.exists_ok fun e he => hstop ((hrefused a).mpr ⟨e, he⟩)
        exact ⟨fun h => (hrest b).mp (h b hb), fun h b' _ => (hrest b').mpr h⟩

/-- A loop in which no element is refused. -/
theorem noPanic_mapM_of_total {f : α → Checked ε β} (h : ∀ a e, f a ≠ .error (.error e))
    (l : List α) : NoPanic (l.mapM f) ↔ ∀ a ∈ l, NoPanic (f a) := by
  have hrefused : ∀ a, (fun _ : α => false) a = true ↔ ∃ e, f a = .error (.error e) := fun a =>
    iff_of_false Bool.false_ne_true fun ⟨e, he⟩ => h a e he
  have hall := noPanic_mapM hrefused l
  rwa [List.takeWhile_eq_self_iff.mpr fun _ _ => by rfl] at hall

/-! ## Erasure -/

theorem erases_unchecked (r : Except ε α) : Erases (unchecked r) r := fun _ => rfl

theorem erases_addU64 (a b : UInt64) :
    Erases (addU64 a b : Checked ε UInt64) (.ok (a + b)) :=
  fun h => if_pos (noPanic_addU64.mp h)

theorem erases_mulU64 (a b : UInt64) :
    Erases (mulU64 a b : Checked ε UInt64) (.ok (a * b)) :=
  fun h => if_pos (noPanic_mulU64.mp h)

theorem erases_sumU64 (a : UInt64) (rest : List UInt64) :
    Erases (sumU64 a rest : Checked ε UInt64) (.ok (rest.foldl (· + ·) a)) := by
  induction rest generalizing a with
  | nil => exact fun _ => rfl
  | cons b rest ih =>
      intro hno
      obtain ⟨hfirst, hrest⟩ := noPanic_bind.mp hno
      have hsum : (addU64 a b : Checked ε UInt64) = .ok (a + b) := erases_addU64 a b hfirst
      rw [sumU64, List.foldlM_cons, hsum]
      exact ih (a + b) (hrest (a + b) hsum)

/-- What has a value without the checks has no error with them. -/
theorem Erases.ne_error {x : Checked ε α} {a : α} (h : Erases x (.ok a)) (e : ε) :
    x ≠ .error (.error e) := by
  intro he
  have hno : NoPanic x := fun hp => by
    rw [he] at hp
    cases hp
  have hok := h hno
  rw [he] at hok
  cases hok

theorem Erases.bind {x : Checked ε α} {r : Except ε α} {f : α → Checked ε β}
    {g : α → Except ε β} (h : Erases x r) (hf : ∀ a, Erases (f a) (g a)) :
    Erases (x >>= f) (r >>= g) := by
  intro hno
  obtain ⟨hx, hrest⟩ := noPanic_bind.mp hno
  rw [h hx] at hrest ⊢
  cases r with
  | error e => rfl
  | ok a => exact hf a (hrest a rfl)

theorem Erases.mapM {f : α → Checked ε β} {g : α → Except ε β} (h : ∀ a, Erases (f a) (g a))
    (l : List α) : Erases (l.mapM f) (l.mapM g) := by
  induction l with
  | nil => exact fun _ => rfl
  | cons a l ih =>
      rw [List.mapM_cons, List.mapM_cons]
      exact (h a).bind fun b => ih.bind fun bs => erases_unchecked (pure (b :: bs))

end Osfacts
