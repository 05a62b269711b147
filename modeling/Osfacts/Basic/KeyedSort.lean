import Mathlib.Tactic
import Mathlib.Data.List.Sort
import Mathlib.Data.List.Destutter

set_option autoImplicit false

/-! # Stable sort by a key, and collapsing runs of one key

`sortByKey` is the stable sort, `dedupByKey` keeps the first element of every run of equal
keys. Together they put a list of keyed rows in canonical order with one row for each key.
-/

namespace Osfacts

variable {α κ : Type} [LinearOrder κ]

/-- Stable sort by a key. -/
def sortByKey (key : α → κ) (l : List α) : List α :=
  l.insertionSort (fun a b => key a ≤ key b)

/-- Keep the first element of every run of elements with equal keys. -/
def dedupByKey (key : α → κ) (l : List α) : List α :=
  l.destutter (fun a b => key a ≠ key b)

theorem sortByKey_perm (key : α → κ) (l : List α) : (sortByKey key l).Perm l :=
  List.perm_insertionSort _ l

@[simp] theorem mem_sortByKey {key : α → κ} {l : List α} {a : α} :
    a ∈ sortByKey key l ↔ a ∈ l :=
  (sortByKey_perm key l).mem_iff

theorem sortByKey_eq_nil {key : α → κ} {l : List α} : sortByKey key l = [] ↔ l = [] :=
  ⟨fun h => ((sortByKey_perm key l).symm.trans (h ▸ List.Perm.nil)).eq_nil,
    fun h => by rw [h]; rfl⟩

theorem dedupByKey_sublist (key : α → κ) (l : List α) : (dedupByKey key l).Sublist l :=
  List.destutter_sublist _ l

theorem mem_of_mem_dedupByKey {key : α → κ} {l : List α} {a : α}
    (h : a ∈ dedupByKey key l) : a ∈ l :=
  (dedupByKey_sublist key l).subset h

/-- Collapsing runs loses no key. -/
theorem exists_key_dedupByKey (key : α → κ) {l : List α} {a : α} (h : a ∈ l) :
    ∃ b ∈ dedupByKey key l, key b = key a := by
  -- with `x` the first element of the run that is open
  have go : ∀ (l : List α) (x : α), a ∈ x :: l →
      ∃ b ∈ l.destutter' (fun a b => key a ≠ key b) x, key b = key a := by
    intro l
    induction l with
    | nil =>
        intro x hx
        exact ⟨x, by simp, by rw [List.mem_singleton.mp hx]⟩
    | cons y l ih =>
        intro x hx
        by_cases hxy : key x ≠ key y
        · rw [List.destutter'_cons, if_pos hxy]
          rcases List.mem_cons.mp hx with rfl | hx
          · exact ⟨a, by simp, rfl⟩
          · obtain ⟨b, hb, hkey⟩ := ih y hx
            exact ⟨b, List.mem_cons_of_mem _ hb, hkey⟩
        · rw [List.destutter'_cons, if_neg hxy]
          have hkey : key x = key y := not_not.mp hxy
          rcases List.mem_cons.mp hx with rfl | hx
          · exact ih a (by simp)
          rcases List.mem_cons.mp hx with rfl | hx
          · obtain ⟨b, hb, hb'⟩ : ∃ b ∈ l.destutter' (fun a b => key a ≠ key b) x,
                key b = key x := ⟨x, List.mem_destutter' _ _ x, rfl⟩
            exact ⟨b, hb, by rw [hb', hkey]⟩
          · exact ih x (List.mem_cons_of_mem _ hx)
  cases l with
  | nil => simp at h
  | cons x l => exact go l x h

theorem pairwise_sortByKey (key : α → κ) (l : List α) :
    (sortByKey key l).Pairwise (fun a b => key a ≤ key b) := by
  have : Std.Total (fun a b : α => key a ≤ key b) := ⟨fun a b => le_total (key a) (key b)⟩
  have : IsTrans α (fun a b : α => key a ≤ key b) := ⟨fun _ _ _ hab hbc => le_trans hab hbc⟩
  exact List.pairwise_insertionSort _ l

/-- Sorting by key and collapsing runs leaves the keys strictly increasing. -/
theorem pairwise_dedup_sort (key : α → κ) (l : List α) :
    (dedupByKey key (sortByKey key l)).Pairwise (fun a b => key a < key b) := by
  have : IsTrans α (fun a b : α => key a < key b) := ⟨fun _ _ _ hab hbc => lt_trans hab hbc⟩
  have hle : (dedupByKey key (sortByKey key l)).Pairwise (fun a b => key a ≤ key b) :=
    List.Pairwise.sublist (dedupByKey_sublist key _) (pairwise_sortByKey key l)
  have hne : (dedupByKey key (sortByKey key l)).IsChain (fun a b => key a ≠ key b) :=
    List.isChain_destutter _ _
  -- neighbours are ordered and different, so they are strictly ordered
  apply List.IsChain.pairwise
  rw [List.isChain_iff_forall_rel_of_append_cons_cons]
  intro a b l₁ l₂ hsplit
  have hlt := List.isChain_iff_forall_rel_of_append_cons_cons.mp hle.isChain hsplit
  exact lt_of_le_of_ne hlt (List.isChain_iff_forall_rel_of_append_cons_cons.mp hne hsplit)

theorem dedupByKey_eq_nil {key : α → κ} {l : List α} : dedupByKey key l = [] ↔ l = [] := by
  constructor
  · intro h
    by_contra hne
    obtain ⟨a, ha⟩ := List.exists_mem_of_ne_nil l hne
    obtain ⟨b, hb, -⟩ := exists_key_dedupByKey key ha
    exact List.not_mem_nil (h ▸ hb)
  · intro h
    rw [h]
    rfl

/-- One row for each key that occurs, none for the others. -/
theorem countP_dedup_sort (key : α → κ) (l : List α) (k : κ) :
    (dedupByKey key (sortByKey key l)).countP (fun a => key a = k)
      = if ∃ a ∈ l, key a = k then 1 else 0 := by
  have hnodup : ((dedupByKey key (sortByKey key l)).map key).Nodup :=
    List.pairwise_map.mpr ((pairwise_dedup_sort key l).imp ne_of_lt)
  have hcount : (dedupByKey key (sortByKey key l)).countP (fun a => key a = k)
      = ((dedupByKey key (sortByKey key l)).map key).count k := by
    rw [List.count, List.countP_map]
    congr
  have hmem : k ∈ (dedupByKey key (sortByKey key l)).map key ↔ ∃ a ∈ l, key a = k := by
    rw [List.mem_map]
    constructor
    · rintro ⟨a, ha, hk⟩
      exact ⟨a, mem_sortByKey.mp (mem_of_mem_dedupByKey ha), hk⟩
    · rintro ⟨a, ha, hk⟩
      have hsort : a ∈ sortByKey key l := mem_sortByKey.mpr ha
      obtain ⟨b, hb, hkey⟩ := exists_key_dedupByKey key hsort
      exact ⟨b, hb, hkey.trans hk⟩
  rw [hcount, hnodup.count]
  exact if_congr hmem rfl rfl

/-! ## When two lists have the same sorted form -/

/-- The sort is stable: the elements of one key keep their order. -/
theorem filter_sortByKey (key : α → κ) (l : List α) (k : κ) :
    (sortByKey key l).filter (fun a => key a = k) = l.filter (fun a => key a = k) := by
  have : Std.Total (fun a b : α => key a ≤ key b) := ⟨fun a b => le_total (key a) (key b)⟩
  have : IsTrans α (fun a b : α => key a ≤ key b) := ⟨fun _ _ _ hab hbc => le_trans hab hbc⟩
  -- elements of one key are in order as they stand, so they survive as a sublist
  have hsorted : (l.filter (fun a => key a = k)).Pairwise (fun a b => key a ≤ key b) := by
    apply List.pairwise_of_forall_mem_list
    intro a ha b hb
    rw [List.mem_filter, decide_eq_true_eq] at ha hb
    rw [ha.2, hb.2]
  have hsub : (l.filter (fun a => key a = k)).Sublist (sortByKey key l) :=
    List.sublist_insertionSort hsorted List.filter_sublist
  have hfilter := hsub.filter (fun a => decide (key a = k))
  rw [List.filter_filter] at hfilter
  simp only [Bool.and_self] at hfilter
  exact (hfilter.eq_of_length ((sortByKey_perm key l).filter _).length_eq.symm).symm

/-- The elements of each key stand in the same order in both lists. -/
def SameRuns (key : α → κ) (l l' : List α) : Prop :=
  ∀ k, l.filter (fun a => key a = k) = l'.filter (fun a => key a = k)

/-- A list sorted by key is determined by its elements of each key. -/
theorem eq_of_sameRuns {key : α → κ} {l l' : List α}
    (hl : l.Pairwise (fun a b => key a ≤ key b)) (hl' : l'.Pairwise (fun a b => key a ≤ key b))
    (h : SameRuns key l l') : l = l' := by
  have hmem : ∀ {xs ys : List α}, SameRuns key xs ys → ∀ a ∈ xs, a ∈ ys := by
    intro xs ys heq a ha
    have hin : a ∈ xs.filter (fun b => key b = key a) := List.mem_filter.mpr ⟨ha, by simp⟩
    exact List.mem_of_mem_filter (heq (key a) ▸ hin)
  induction l generalizing l' with
  | nil =>
      refine (List.eq_nil_iff_forall_not_mem.mpr fun a ha => ?_).symm
      exact List.not_mem_nil (hmem (fun k => (h k).symm) a ha)
  | cons a l ih =>
      cases l' with
      | nil => exact absurd (hmem h a (by simp)) List.not_mem_nil
      | cons b l' =>
          obtain ⟨ha, htail⟩ := List.pairwise_cons.mp hl
          obtain ⟨hb, htail'⟩ := List.pairwise_cons.mp hl'
          -- both heads have the least key, so they head the elements of one key
          have hab : key a ≤ key b := by
            rcases List.mem_cons.mp (hmem (fun k => (h k).symm) b (by simp)) with rfl | hbl
            · exact le_refl _
            · exact ha b hbl
          have hba : key b ≤ key a := by
            rcases List.mem_cons.mp (hmem h a (by simp)) with rfl | hal
            · exact le_refl _
            · exact hb a hal
          have hkey : key b = key a := le_antisymm hba hab
          have hhead := h (key a)
          rw [List.filter_cons_of_pos (by simp), List.filter_cons_of_pos (by simp [hkey]),
            List.cons.injEq] at hhead
          obtain ⟨rfl, -⟩ := hhead
          refine congrArg (a :: ·) (ih htail htail' fun k => ?_)
          have hk := h k
          by_cases hak : key a = k
          · rw [List.filter_cons_of_pos (by simp [hak]), List.filter_cons_of_pos (by simp [hak]),
              List.cons.injEq] at hk
            exact hk.2
          · rwa [List.filter_cons_of_neg (by simp [hak]),
              List.filter_cons_of_neg (by simp [hak])] at hk

/-- Two lists have the same sorted form exactly when the elements of each key stand in the same
order in both. -/
theorem sortByKey_eq_iff {key : α → κ} {l l' : List α} :
    sortByKey key l = sortByKey key l' ↔ SameRuns key l l' := by
  constructor
  · intro h k
    rw [← filter_sortByKey, h, filter_sortByKey]
  · intro h
    apply eq_of_sameRuns (pairwise_sortByKey key l) (pairwise_sortByKey key l')
    intro k
    rw [filter_sortByKey, filter_sortByKey, h k]

/-- Swapping two neighbours is seen exactly when they tie and differ. -/
theorem sameRuns_swap {key : α → κ} {a b : α} :
    SameRuns key [a, b] [b, a] ↔ (key a = key b → a = b) := by
  constructor
  · intro h hkey
    have hrun := h (key a)
    simp only [List.filter_cons, hkey, decide_true, if_true, List.cons.injEq] at hrun
    exact hrun.1
  · intro h k
    by_cases hkey : key a = key b
    · rw [h hkey]
    · simp only [List.filter_cons, List.filter_nil, decide_eq_true_eq]
      split_ifs with ha hb
      · exact absurd (ha.trans hb.symm) hkey
      all_goals rfl

/-- Where no two elements share a key, the sorted form does not depend on the order. -/
theorem sortByKey_eq_of_perm {key : α → κ} {l l' : List α} (h : l.Perm l')
    (hkey : (l.map key).Nodup) : sortByKey key l = sortByKey key l' := by
  have hlt : ∀ {xs : List α}, (xs.map key).Nodup →
      (sortByKey key xs).Pairwise (fun a b => key a < key b) := by
    intro xs hxs
    have hne := (((sortByKey_perm key xs).map key).nodup_iff).mpr hxs
    exact (pairwise_sortByKey key xs).imp₂ (fun _ _ hle hne => lt_of_le_of_ne hle hne)
      (List.pairwise_map.mp hne)
  have : Std.Irrefl (fun a b : α => key a < key b) := ⟨fun a => lt_irrefl (key a)⟩
  have : Std.Antisymm (fun a b : α => key a < key b) :=
    ⟨fun _ _ hab hba => absurd hba (lt_asymm hab)⟩
  refine (hlt hkey).eq_of_mem_iff (hlt ((h.map key).nodup_iff.mp hkey)) fun a => ?_
  rw [mem_sortByKey, mem_sortByKey, h.mem_iff]

/-- Where the key determines the element, the sorted form does not depend on the order, whatever
repeats there are. -/
theorem sortByKey_eq_of_injective {key : α → κ} (hinj : Function.Injective key) {l l' : List α}
    (h : l.Perm l') : sortByKey key l = sortByKey key l' := by
  have hperm : (sortByKey key l).Perm (sortByKey key l') :=
    ((sortByKey_perm key l).trans h).trans (sortByKey_perm key l').symm
  refine hperm.eq_of_pairwise (fun a b _ _ hab hba => hinj (le_antisymm hab hba)) ?_ ?_
  · exact pairwise_sortByKey key l
  · exact pairwise_sortByKey key l'

theorem sortByKey_sortByKey (key : α → κ) (l : List α) :
    sortByKey key (sortByKey key l) = sortByKey key l :=
  sortByKey_eq_iff.mpr (filter_sortByKey key l)

/-- Where the key determines the element, sorting and collapsing keeps every element. -/
theorem mem_dedup_sort {key : α → κ} {l : List α}
    (hinj : ∀ a ∈ l, ∀ b ∈ l, key a = key b → a = b) {a : α} :
    a ∈ dedupByKey key (sortByKey key l) ↔ a ∈ l := by
  constructor
  · exact fun h => mem_sortByKey.mp (mem_of_mem_dedupByKey h)
  · intro h
    have hsort : a ∈ sortByKey key l := mem_sortByKey.mpr h
    obtain ⟨b, hb, hkey⟩ := exists_key_dedupByKey key hsort
    rwa [← hinj b (mem_sortByKey.mp (mem_of_mem_dedupByKey hb)) a h hkey]

/-- Where the key determines the element, the sorted and collapsed form depends on the set of
elements only. -/
theorem dedup_sort_eq_of_mem_iff {key : α → κ} {l l' : List α}
    (hinj : ∀ a ∈ l, ∀ b ∈ l, key a = key b → a = b) (h : ∀ a, a ∈ l ↔ a ∈ l') :
    dedupByKey key (sortByKey key l) = dedupByKey key (sortByKey key l') := by
  have hinj' : ∀ a ∈ l', ∀ b ∈ l', key a = key b → a = b := fun a ha b hb =>
    hinj a ((h a).mpr ha) b ((h b).mpr hb)
  have : Std.Irrefl (fun a b : α => key a < key b) := ⟨fun a => lt_irrefl (key a)⟩
  have : Std.Antisymm (fun a b : α => key a < key b) :=
    ⟨fun _ _ hab hba => absurd hba (lt_asymm hab)⟩
  refine (pairwise_dedup_sort key l).eq_of_mem_iff (pairwise_dedup_sort key l') fun a => ?_
  rw [mem_dedup_sort hinj, mem_dedup_sort hinj', h a]

/-- Sorting and collapsing a list that is already in that form changes nothing. -/
theorem dedup_sort_dedup_sort (key : α → κ) (l : List α) :
    dedupByKey key (sortByKey key (dedupByKey key (sortByKey key l)))
      = dedupByKey key (sortByKey key l) := by
  have hlt := pairwise_dedup_sort key l
  have hsort : sortByKey key (dedupByKey key (sortByKey key l))
      = dedupByKey key (sortByKey key l) :=
    List.Pairwise.insertionSort_eq (hlt.imp le_of_lt)
  rw [hsort]
  exact List.destutter_of_isChain _ _ (hlt.imp ne_of_lt).isChain

/-! ## The first of each key -/

/-- Collapsing runs keeps the first element of every key. -/
theorem find_dedupByKey (key : α → κ) (l : List α) (k : κ) :
    (dedupByKey key l).find? (fun a => key a = k) = l.find? (fun a => key a = k) := by
  -- with `x` the first element of the run that is open
  have go : ∀ (l : List α) (x : α),
      (l.destutter' (fun a b => key a ≠ key b) x).find? (fun a => key a = k)
        = (x :: l).find? (fun a => key a = k) := by
    intro l
    induction l with
    | nil =>
        intro x
        rfl
    | cons y l ih =>
        intro x
        by_cases hxy : key x ≠ key y
        · rw [List.destutter'_cons, if_pos hxy]
          by_cases hx : key x = k
          · rw [List.find?_cons_of_pos (by simpa using hx),
              List.find?_cons_of_pos (by simpa using hx)]
          · rw [List.find?_cons_of_neg (by simpa using hx),
              List.find?_cons_of_neg (by simpa using hx), ih y]
        · -- `y` belongs to the run of `x`, which comes before it
          have hkey : key x = key y := not_not.mp hxy
          rw [List.destutter'_cons, if_neg hxy, ih x]
          by_cases hx : key x = k
          · rw [List.find?_cons_of_pos (by simpa using hx),
              List.find?_cons_of_pos (by simpa using hx)]
          · have hy : ¬ key y = k := hkey ▸ hx
            rw [List.find?_cons_of_neg (by simpa using hx),
              List.find?_cons_of_neg (by simpa using hx),
              List.find?_cons_of_neg (by simpa using hy)]
  cases l with
  | nil => rfl
  | cons x l => exact go l x

/-- Sorting and collapsing keeps the first element of every key. -/
theorem find_dedup_sort (key : α → κ) (l : List α) (k : κ) :
    (dedupByKey key (sortByKey key l)).find? (fun a => key a = k)
      = l.find? (fun a => key a = k) := by
  rw [find_dedupByKey, ← List.head?_filter, filter_sortByKey, List.head?_filter]

/-- Where the keys strictly increase, an element is the first of its key. -/
theorem find_of_pairwise_lt {key : α → κ} {l : List α}
    (h : l.Pairwise (fun a b => key a < key b)) {a : α} (ha : a ∈ l) :
    l.find? (fun b => key b = key a) = some a := by
  induction l with
  | nil => exact absurd ha List.not_mem_nil
  | cons b l ih =>
      obtain ⟨hlt, hrest⟩ := List.pairwise_cons.mp h
      rcases List.mem_cons.mp ha with rfl | ha
      · exact List.find?_cons_of_pos (by simp)
      · rw [List.find?_cons_of_neg (by simpa using ne_of_lt (hlt a ha))]
        exact ih hrest ha

end Osfacts
