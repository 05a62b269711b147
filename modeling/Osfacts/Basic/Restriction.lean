import Osfacts.Basic.Grouped
import Osfacts.Basic.KeyedSort

set_option autoImplicit false

/-! # Restricting a keyed list

Dropping the elements of some keys commutes with sorting by key, with collapsing runs, and with
assembling a list group by group.
-/

namespace Osfacts

section Sorted

variable {α κ : Type} [LinearOrder κ] (key : α → κ)

theorem filter_sort (p : α → Bool) (l : List α) :
    (sortByKey key l).filter p = sortByKey key (l.filter p) := by
  refine eq_of_sameRuns ((pairwise_sortByKey key l).filter p) (pairwise_sortByKey key _) fun k => ?_
  rw [List.filter_comm, filter_sortByKey, filter_sortByKey, List.filter_comm]

variable {key}

/-- Where the key determines the element, dropping and collapsing commute. -/
theorem filter_dedup_sort {l : List α} (hinj : ∀ a ∈ l, ∀ b ∈ l, key a = key b → a = b)
    (p : α → Bool) :
    (dedupByKey key (sortByKey key l)).filter p = dedupByKey key (sortByKey key (l.filter p)) := by
  have hinj' : ∀ a ∈ l.filter p, ∀ b ∈ l.filter p, key a = key b → a = b := fun a ha b hb =>
    hinj a (List.mem_filter.mp ha).1 b (List.mem_filter.mp hb).1
  have : Std.Irrefl (fun a b : α => key a < key b) := ⟨fun a => lt_irrefl (key a)⟩
  have : Std.Antisymm (fun a b : α => key a < key b) :=
    ⟨fun _ _ hab hba => absurd hba (lt_asymm hab)⟩
  refine ((pairwise_dedup_sort key l).filter p).eq_of_mem_iff
    (pairwise_dedup_sort key _) fun a => ?_
  rw [List.mem_filter, mem_dedup_sort hinj, mem_dedup_sort hinj', List.mem_filter]

end Sorted

section Grouped

variable {α β : Type} {g : α → List β} {key : β → Option α}

/-- What is left is assembled from the keys that are left. -/
theorem filter_flatMap_keys (hkey : ∀ a, ∀ b ∈ g a, key b = some a) (p : α → Bool) (l : List α) :
    (l.flatMap g).filter (fun b => (key b).any p) = (l.filter p).flatMap g := by
  induction l with
  | nil => rfl
  | cons a l ih =>
      rw [List.flatMap_cons, List.filter_append, ih]
      cases hp : p a with
      | true =>
          have hall : (g a).filter (fun b => (key b).any p) = g a := by
            rw [List.filter_eq_self]
            intro b hb
            rw [hkey a b hb]
            exact hp
          rw [hall, List.filter_cons_of_pos hp, List.flatMap_cons]
      | false =>
          have hnone : (g a).filter (fun b => (key b).any p) = [] := by
            rw [List.filter_eq_nil_iff]
            intro b hb
            rw [hkey a b hb, Option.any_some, hp]
            exact Bool.false_ne_true
          rw [hnone, List.nil_append, List.filter_cons_of_neg (by simp [hp])]

end Grouped

/-- The part of a list without repeats that lies in another is a rearrangement of the other, if it
contains it. -/
theorem filter_mem_perm {α : Type} [DecidableEq α] {l l' : List α} (hl : l.Nodup) (hl' : l'.Nodup)
    (hsub : l ⊆ l') : (l'.filter (fun a => a ∈ l)).Perm l := by
  refine (List.perm_ext_iff_of_nodup (hl'.filter _) hl).mpr fun a => ?_
  rw [List.mem_filter, decide_eq_true_eq]
  exact ⟨fun h => h.2, fun h => ⟨hsub h, h⟩⟩

end Osfacts
