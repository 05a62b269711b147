import Mathlib.Tactic

set_option autoImplicit false

/-! # A list assembled key by key

`l.flatMap g` where every element of `g a` carries the key `a`: the elements of one key are
the copies of its group, so groups can be counted, and compared, one key at a time.
-/

namespace Osfacts

variable {α β : Type} [DecidableEq α]

/-- The elements of one key: one copy of its group for each time the key is listed. -/
theorem filter_flatMap_of_key {g : α → List β} {key : β → Option α}
    (hkey : ∀ a, ∀ b ∈ g a, key b = some a) (l : List α) (a : α) :
    (l.flatMap g).filter (fun b => key b = some a)
      = (List.replicate (l.count a) (g a)).flatten := by
  induction l with
  | nil => rfl
  | cons x l ih =>
      rw [List.flatMap_cons, List.filter_append, ih]
      by_cases hx : x = a
      · subst hx
        have hall : (g x).filter (fun b => key b = some x) = g x := by
          rw [List.filter_eq_self]
          intro b hb
          simpa using hkey x b hb
        rw [hall, List.count_cons_self, List.replicate_succ, List.flatten_cons]
      · have hnone : (g x).filter (fun b => key b = some a) = [] := by
          rw [List.filter_eq_nil_iff]
          intro b hb
          rw [hkey x b hb]
          simpa using hx
        rw [hnone, List.count_cons_of_ne hx, List.nil_append]

/-- Two lists of keys give a key the same elements exactly when they list it equally often, or
its group is empty. -/
theorem filter_flatMap_eq_iff {g : α → List β} {key : β → Option α}
    (hkey : ∀ a, ∀ b ∈ g a, key b = some a) (l l' : List α) (a : α) :
    (l.flatMap g).filter (fun b => key b = some a)
        = (l'.flatMap g).filter (fun b => key b = some a) ↔
      (g a ≠ [] → l.count a = l'.count a) := by
  rw [filter_flatMap_of_key hkey, filter_flatMap_of_key hkey]
  constructor
  · intro h hne
    have hlength := congrArg List.length h
    simp only [List.length_flatten, List.map_replicate, List.sum_replicate_nat] at hlength
    exact Nat.eq_of_mul_eq_mul_right (List.length_pos_of_ne_nil hne) hlength
  · intro h
    by_cases hnil : g a = []
    · rw [hnil, List.flatten_replicate_nil, List.flatten_replicate_nil]
    · rw [h hnil]

/-- With distinct keys the elements of a key are its group. -/
theorem filter_flatMap_of_nodup {g : α → List β} {key : β → Option α}
    (hkey : ∀ a, ∀ b ∈ g a, key b = some a) {l : List α} (hl : l.Nodup) {a : α} (ha : a ∈ l) :
    (l.flatMap g).filter (fun b => key b = some a) = g a := by
  rw [filter_flatMap_of_key hkey, List.count_eq_one_of_mem hl ha]
  simp

/-- Two lists assembled over the same keys are equal exactly when their groups are. -/
theorem flatMap_eq_iff_of_key {g h : α → List β} {key : β → Option α}
    (hg : ∀ a, ∀ b ∈ g a, key b = some a) (hh : ∀ a, ∀ b ∈ h a, key b = some a) (l : List α) :
    l.flatMap g = l.flatMap h ↔ ∀ a ∈ l, g a = h a := by
  constructor
  · intro heq a ha
    have hfilter := congrArg (List.filter (fun b => decide (key b = some a))) heq
    rw [filter_flatMap_of_key hg, filter_flatMap_of_key hh] at hfilter
    obtain ⟨n, hn⟩ := Nat.exists_eq_succ_of_ne_zero (List.count_pos_iff.mpr ha).ne'
    rw [hn] at hfilter
    -- equally many copies of equal total length: the first copies are equal
    have hlength : (g a).length = (h a).length := by
      have hl := congrArg List.length hfilter
      simp only [List.length_flatten, List.map_replicate, List.sum_replicate_nat] at hl
      exact Nat.eq_of_mul_eq_mul_left (Nat.succ_pos n) hl
    rw [List.replicate_succ, List.flatten_cons, List.replicate_succ, List.flatten_cons] at hfilter
    exact (List.append_inj hfilter hlength).1
  · intro hgroups
    induction l with
    | nil => rfl
    | cons a l ih =>
        rw [List.flatMap_cons, List.flatMap_cons, hgroups a (by simp),
          ih (fun x hx => hgroups x (by simp [hx]))]

end Osfacts
