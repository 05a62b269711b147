import Mathlib.Tactic

set_option autoImplicit false

/-! # Claims, first come first served

A map from keys to claimants, filled by claimants in turn: a key belongs to the first claimant
that names it. `lookup_claimAll` reads the map as a search through the claimants, and
`claim_eq_of_count_eq` says that the assignment is determined by how much each claimant got.
-/

namespace Osfacts

variable {κ ν : Type} [BEq κ]

/-- Enter a key unless it is already there. -/
def insertNew (m : List (κ × ν)) (k : κ) (v : ν) : List (κ × ν) :=
  if (m.lookup k).isSome then m else m ++ [(k, v)]

/-- The claims of claimants in turn, each with its list of keys. -/
def claimAll (keys : ν → List κ) (claimants : List ν) (m : List (κ × ν)) : List (κ × ν) :=
  claimants.foldl (fun m v => (keys v).foldl (fun m k => insertNew m k v) m) m

/-! ## The keys of the map -/

variable [LawfulBEq κ]

theorem lookup_isSome_iff {m : List (κ × ν)} {k : κ} :
    (m.lookup k).isSome ↔ k ∈ m.map Prod.fst := by
  constructor
  · intro hm
    by_contra hk
    have hnone : m.lookup k = none := by
      refine List.lookup_eq_none_iff.mpr fun entry hentry => bne_iff_ne.mpr ?_
      rintro rfl
      exact hk (List.mem_map_of_mem hentry)
    rw [hnone] at hm
    exact Bool.false_ne_true hm
  · rintro hmem
    obtain ⟨⟨k', w⟩, hw, rfl⟩ := List.mem_map.mp hmem
    cases hlookup : m.lookup k' with
    | none => exact absurd rfl (bne_iff_ne.mp (List.lookup_eq_none_iff.mp hlookup _ hw))
    | some w' => rfl

omit [BEq κ] [LawfulBEq κ] in
theorem nodup_keys_append {m : List (κ × ν)} (h : (m.map Prod.fst).Nodup) {k : κ}
    (hk : k ∉ m.map Prod.fst) (v : ν) : ((m ++ [(k, v)]).map Prod.fst).Nodup := by
  rw [List.map_append, List.nodup_append]
  refine ⟨h, by simp, ?_⟩
  rintro a ha b hb rfl
  simp only [List.map_cons, List.map_nil, List.mem_singleton] at hb
  exact hk (hb ▸ ha)

/-- Every key is entered once. -/
theorem nodup_keys_insertNew {m : List (κ × ν)} (h : (m.map Prod.fst).Nodup) (k : κ) (v : ν) :
    ((insertNew m k v).map Prod.fst).Nodup := by
  rw [insertNew]
  split_ifs with hm
  · exact h
  · exact nodup_keys_append h (fun hk => hm (lookup_isSome_iff.mpr hk)) v

theorem nodup_keys_claimAll (keys : ν → List κ) (claimants : List ν) {m : List (κ × ν)}
    (h : (m.map Prod.fst).Nodup) : ((claimAll keys claimants m).map Prod.fst).Nodup := by
  have hone : ∀ (v : ν) (ks : List κ) (m : List (κ × ν)), (m.map Prod.fst).Nodup →
      ((ks.foldl (fun m k => insertNew m k v) m).map Prod.fst).Nodup := by
    intro v ks
    induction ks with
    | nil => exact fun _ h => h
    | cons k ks ih => exact fun m h => ih _ (nodup_keys_insertNew h k v)
  induction claimants generalizing m with
  | nil => exact h
  | cons v claimants ih => exact ih (hone v (keys v) m h)

/-- An entry is what its key looks up, when keys are entered once. -/
theorem mem_iff_lookup {m : List (κ × ν)} (h : (m.map Prod.fst).Nodup) {k : κ} {v : ν} :
    (k, v) ∈ m ↔ m.lookup k = some v := by
  induction m with
  | nil => simp
  | cons e m ih =>
      obtain ⟨k', v'⟩ := e
      rw [List.map_cons, List.nodup_cons] at h
      rw [List.mem_cons, List.lookup_cons, ih h.2]
      by_cases hk : k = k'
      · subst hk
        rw [beq_self_eq_true]
        constructor
        · rintro (heq | hlookup)
          · rw [Prod.mk.injEq] at heq
            exact congrArg some heq.2.symm
          · -- the key does not come again
            have hmem := (ih h.2).mpr hlookup
            exact absurd (List.mem_map.mpr ⟨_, hmem, rfl⟩) h.1
        · intro heq
          exact Or.inl (by rw [← Option.some.inj heq])
      · rw [beq_false_of_ne hk]
        simp [hk]

/-- What a map holds does not depend on the order in which its entries are listed. -/
theorem lookup_eq_of_perm {m m' : List (κ × ν)} (h : (m.map Prod.fst).Nodup) (hperm : m.Perm m')
    (k : κ) : m.lookup k = m'.lookup k := by
  have h' : (m'.map Prod.fst).Nodup := (hperm.map Prod.fst).nodup_iff.mp h
  ext v
  rw [← mem_iff_lookup h, ← mem_iff_lookup h', hperm.mem_iff]

/-! ## A second claim refused -/

section Distinct

variable {α ε : Type}

/-- Enter what is read of an element, if anything; a key that is there already is an error. -/
def insertDistinct (err : ε) (read : α → Except ε (Option (κ × ν))) (m : List (κ × ν)) (a : α) :
    Except ε (List (κ × ν)) := do
  let entry ← read a
  match entry with
  | none => pure m
  | some (k, v) => if (m.lookup k).isSome then .error err else pure (m ++ [(k, v)])

variable {err : ε} {read : α → Except ε (Option (κ × ν))} {found : α → Option (κ × ν)}

theorem insertDistinct_new {m : List (κ × ν)} {a : α} {k : κ} {v : ν}
    (h : read a = .ok (some (k, v))) (hk : k ∉ m.map Prod.fst) :
    insertDistinct err read m a = .ok (m ++ [(k, v)]) := by
  rw [insertDistinct, h]
  exact if_neg fun hsome => hk (lookup_isSome_iff.mp hsome)

theorem insertDistinct_again {m : List (κ × ν)} {a : α} {k : κ} {v : ν}
    (h : read a = .ok (some (k, v))) (hk : k ∈ m.map Prod.fst) :
    insertDistinct err read m a = .error err := by
  rw [insertDistinct, h]
  exact if_pos (lookup_isSome_iff.mpr hk)

/-- Every element is entered where all can be read and no key is read twice. -/
theorem foldlM_insertDistinct_ok {l : List α} {m : List (κ × ν)}
    (hread : ∀ a ∈ l, read a = .ok (found a))
    (hnodup : ((m ++ l.filterMap found).map Prod.fst).Nodup) :
    l.foldlM (insertDistinct err read) m = .ok (m ++ l.filterMap found) := by
  induction l generalizing m with
  | nil =>
      rw [List.filterMap_nil, List.append_nil]
      rfl
  | cons a l ih =>
      obtain ⟨ha, hl⟩ := List.forall_mem_cons.mp hread
      rw [List.foldlM_cons]
      cases hfound : found a with
      | none =>
          rw [List.filterMap_cons_none hfound] at hnodup ⊢
          rw [insertDistinct, ha, hfound]
          exact ih hl hnodup
      | some entry =>
          rw [List.filterMap_cons_some hfound, List.append_cons] at hnodup ⊢
          have hk : entry.1 ∉ m.map Prod.fst := by
            intro hk
            rw [List.map_append, List.map_append] at hnodup
            exact (List.nodup_append.mp hnodup.of_append_left).2.2 _ hk _ (by simp) rfl
          rw [insertDistinct_new (ha.trans (congrArg _ hfound)) hk]
          exact ih hl hnodup

/-- And otherwise nothing is. -/
theorem foldlM_insertDistinct_error (hread : ∀ a, read a = .ok (found a) ∨ read a = .error err)
    {l : List α} {m : List (κ × ν)} (hm : (m.map Prod.fst).Nodup)
    (h : ¬((∀ a ∈ l, read a = .ok (found a)) ∧
      ((m ++ l.filterMap found).map Prod.fst).Nodup)) :
    l.foldlM (insertDistinct err read) m = .error err := by
  induction l generalizing m with
  | nil =>
      refine absurd ⟨List.forall_mem_nil _, ?_⟩ h
      rwa [List.filterMap_nil, List.append_nil]
  | cons a l ih =>
      rw [List.foldlM_cons]
      rcases hread a with ha | ha
      · rw [List.forall_mem_cons, eq_true ha, true_and] at h
        cases hfound : found a with
        | none =>
            rw [List.filterMap_cons_none hfound] at h
            rw [insertDistinct, ha, hfound]
            exact ih hm h
        | some entry =>
            have hentry := ha.trans (congrArg _ hfound)
            rw [List.filterMap_cons_some hfound, List.append_cons] at h
            by_cases hk : entry.1 ∈ m.map Prod.fst
            · rw [insertDistinct_again hentry hk]
              rfl
            · rw [insertDistinct_new hentry hk]
              exact ih (nodup_keys_append hm hk entry.2) h
      · rw [insertDistinct, ha]
        rfl

/-- A map that was filled so has every key once, and a property that every entry read has. -/
theorem foldlM_insertDistinct_keys {p : κ → Prop}
    (hread : ∀ a k v, read a = .ok (some (k, v)) → p k) {l : List α} {m m' : List (κ × ν)}
    (hm : (m.map Prod.fst).Nodup ∧ ∀ k ∈ m.map Prod.fst, p k)
    (h : l.foldlM (insertDistinct err read) m = .ok m') :
    (m'.map Prod.fst).Nodup ∧ ∀ k ∈ m'.map Prod.fst, p k := by
  induction l generalizing m with
  | nil =>
      cases h
      exact hm
  | cons a l ih =>
      rw [List.foldlM_cons] at h
      cases hentry : read a with
      | error e =>
          rw [insertDistinct, hentry] at h
          cases h
      | ok entry =>
          cases entry with
          | none =>
              rw [insertDistinct, hentry] at h
              exact ih hm h
          | some entry =>
              by_cases hk : entry.1 ∈ m.map Prod.fst
              · rw [insertDistinct_again hentry hk] at h
                cases h
              · rw [insertDistinct_new hentry hk] at h
                refine ih ⟨nodup_keys_append hm.1 hk entry.2, ?_⟩ h
                intro k hkey
                rw [List.map_append, List.mem_append] at hkey
                rcases hkey with hkey | hkey
                · exact hm.2 k hkey
                · rw [List.map_cons, List.map_nil, List.mem_singleton] at hkey
                  exact hkey ▸ hread a entry.1 entry.2 hentry

end Distinct

/-! ## Whose a key is -/

variable [DecidableEq κ]

theorem lookup_insertNew (m : List (κ × ν)) (k k' : κ) (v : ν) :
    (insertNew m k v).lookup k' = (m.lookup k').or (if k' = k then some v else none) := by
  rw [insertNew]
  by_cases hk : k' = k
  · subst hk
    rw [if_pos rfl]
    cases hm : m.lookup k' with
    | none =>
        rw [Option.isSome_none, if_neg Bool.false_ne_true, List.lookup_append, hm]
        simp
    | some w =>
        rw [Option.isSome_some, if_pos rfl, hm]
        rfl
  · rw [if_neg hk, Option.or_none]
    split_ifs
    · rfl
    · rw [List.lookup_append, List.lookup_cons, beq_false_of_ne hk]
      simp

/-- One claimant takes the keys it names that are free. -/
theorem lookup_foldl_insertNew (ks : List κ) (v : ν) (m : List (κ × ν)) (k' : κ) :
    (ks.foldl (fun m k => insertNew m k v) m).lookup k'
      = (m.lookup k').or (if k' ∈ ks then some v else none) := by
  induction ks generalizing m with
  | nil => simp
  | cons k ks ih =>
      rw [List.foldl_cons, ih, lookup_insertNew, Option.or_assoc]
      by_cases hk : k' = k <;> by_cases hks : k' ∈ ks <;> simp [hk, hks]

/-- **A key belongs to the first claimant that names it.** -/
theorem lookup_claimAll (keys : ν → List κ) (claimants : List ν) (m : List (κ × ν)) (k : κ) :
    (claimAll keys claimants m).lookup k
      = (m.lookup k).or (claimants.find? (fun v => decide (k ∈ keys v))) := by
  induction claimants generalizing m with
  | nil => simp [claimAll]
  | cons v claimants ih =>
      have hstep : claimAll keys (v :: claimants) m
          = claimAll keys claimants ((keys v).foldl (fun m k => insertNew m k v) m) := rfl
      rw [hstep, ih, lookup_foldl_insertNew, Option.or_assoc, List.find?_cons]
      by_cases hk : k ∈ keys v <;> simp [hk]

/-! ## The assignment and its counts -/

variable {β : Type}

/-- A property that implies another and holds equally often in a list holds of the same
elements. -/
theorem imp_of_countP_eq {p q : β → Bool} {l : List β} (hpq : ∀ b, p b = true → q b = true)
    (h : l.countP p = l.countP q) : ∀ b ∈ l, q b = true → p b = true := by
  have hsub : (l.filter p).Sublist (l.filter q) := List.monotone_filter_right l hpq
  rw [List.countP_eq_length_filter, List.countP_eq_length_filter] at h
  have heq := hsub.eq_of_length h
  intro b hb hq
  have hmem : b ∈ l.filter p := heq ▸ List.mem_filter.mpr ⟨hb, hq⟩
  exact (List.mem_filter.mp hmem).2

/-- Where two properties hold equally often, and they agree on a part of the list, they hold equally
often in the rest of it. -/
theorem countP_filter_not_eq {p q r : β → Bool} {l : List β} (h : l.countP p = l.countP q)
    (hr : ∀ b ∈ l, r b = true → p b = q b) :
    (l.filter (fun b => !r b)).countP p = (l.filter (fun b => !r b)).countP q := by
  have hsplit : ∀ s : β → Bool, l.countP s
      = (l.filter r).countP s + (l.filter (fun b => !r b)).countP s := fun s => by
    simpa using List.countP_eq_countP_filter_add l s r
  have hpart : (l.filter r).countP p = (l.filter r).countP q := by
    refine List.countP_congr fun b hb => ?_
    rw [hr b (List.mem_filter.mp hb).1 (List.mem_filter.mp hb).2]
  rw [hsplit p, hsplit q] at h
  omega

variable [DecidableEq ν]

/-- The first claimant of a list gets exactly what it holds. -/
theorem find_cons_eq_some_head (holds : ν → Bool) (x : ν) (xs : List ν) :
    decide ((x :: xs).find? holds = some x) = holds x := by
  rw [List.find?_cons]
  cases hx : holds x with
  | true => simp
  | false =>
      have hne : xs.find? holds ≠ some x := by
        intro hfind
        have hholds := List.find?_some hfind
        rw [hx] at hholds
        exact Bool.false_ne_true hholds
      simp [hne]

/-- **The assignment is determined by its counts.** If two orders of claimants give every claimant
equally many of the items, they give every item to the same claimant. -/
theorem claim_eq_of_count_eq (holds : β → ν → Bool) (xs ys : List ν) (items : List β)
    (h : ∀ v, items.countP (fun b => xs.find? (holds b) = some v)
      = items.countP (fun b => ys.find? (holds b) = some v)) :
    ∀ b ∈ items, xs.find? (holds b) = ys.find? (holds b) := by
  induction xs generalizing items with
  | nil =>
      -- nobody got anything
      intro b hb
      cases hys : ys.find? (holds b) with
      | none => rfl
      | some v =>
          have hpos : 0 < items.countP (fun b => ys.find? (holds b) = some v) :=
            List.countP_pos_iff.mpr ⟨b, hb, by simp [hys]⟩
          rw [← h v] at hpos
          simp at hpos
  | cons x xs ih =>
      -- `x` got everything it holds, so it gets all of that in the other order too
      have hmine : ∀ b ∈ items, holds b x = true → ys.find? (holds b) = some x := by
        have hcount := h x
        simp only [find_cons_eq_some_head] at hcount
        intro b hb hholds
        exact of_decide_eq_true (imp_of_countP_eq
          (fun b hb => List.find?_some (of_decide_eq_true hb)) hcount.symm b hb hholds)
      -- what it does not hold goes to the claimants after it, in both orders
      have hrest : ∀ b ∈ items.filter (fun b => !holds b x),
          xs.find? (holds b) = ys.find? (holds b) := by
        apply ih
        intro v
        have hv := countP_filter_not_eq (r := fun b => holds b x) (h v) fun b hb hholds => by
          rw [hmine b hb hholds, List.find?_cons, hholds]
        have hfree : (items.filter (fun b => !holds b x)).countP
              (fun b => (x :: xs).find? (holds b) = some v)
            = (items.filter (fun b => !holds b x)).countP
              (fun b => xs.find? (holds b) = some v) := by
          apply List.countP_congr
          intro b hb
          obtain ⟨-, hholds⟩ := List.mem_filter.mp hb
          rw [Bool.not_eq_true'] at hholds
          rw [List.find?_cons, hholds]
        rw [← hfree, hv]
      intro b hb
      rw [List.find?_cons]
      cases hholds : holds b x with
      | true => exact (hmine b hb hholds).symm
      | false => exact hrest b (List.mem_filter.mpr ⟨hb, by simp [hholds]⟩)

end Osfacts
