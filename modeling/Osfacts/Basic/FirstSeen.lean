import Mathlib.Tactic

set_option autoImplicit false

/-! # First-seen order without repeats

The loop "append it unless it is already there" computes `List.eraseDups`. The last section
does the same for elements that are told apart by a key.
-/

namespace Osfacts

variable {α : Type} [DecidableEq α]

/-- Append an element unless it is already there. -/
def pushNew (out : List α) (a : α) : List α := if a ∈ out then out else out ++ [a]

theorem foldl_pushNew (out xs : List α) :
    xs.foldl pushNew out = out ++ (xs.removeAll out).eraseDups := by
  induction xs generalizing out with
  | nil => simp
  | cons x xs ih =>
      rw [List.foldl_cons, ih, pushNew]
      by_cases hx : x ∈ out
      · rw [if_pos hx]
        simp [List.removeAll, hx]
      · -- `x` is new: it is kept, and removed from what comes after it
        rw [if_neg hx]
        have hcons : (x :: xs).removeAll out = x :: xs.removeAll out := by
          simp [List.removeAll, hx]
        rw [hcons, List.eraseDups_cons, List.append_assoc]
        congr 1
        simp only [List.singleton_append, List.removeAll, List.filter_filter]
        congr 2
        apply List.filter_congr
        intro y _
        by_cases hyx : y = x <;> by_cases hy : y ∈ out <;> simp [hyx, hy, hx]

/-- The loop from an empty list is `List.eraseDups`. -/
theorem foldl_pushNew_nil (xs : List α) : xs.foldl pushNew [] = xs.eraseDups := by
  rw [foldl_pushNew, List.nil_append]
  congr 1
  simp [List.removeAll]

/-- What is there already adds nothing. -/
theorem foldl_pushNew_of_subset {out xs : List α} (h : xs ⊆ out) : xs.foldl pushNew out = out := by
  induction xs with
  | nil => rfl
  | cons x xs ih =>
      rw [List.foldl_cons, pushNew, if_pos (h List.mem_cons_self),
        ih (List.subset_of_cons_subset h)]

theorem mem_foldl_pushNew {out xs : List α} {a : α} :
    a ∈ xs.foldl pushNew out ↔ a ∈ out ∨ a ∈ xs := by
  rw [foldl_pushNew, List.mem_append, List.mem_eraseDups]
  simp only [List.removeAll, List.mem_filter]
  by_cases ha : a ∈ out <;> simp [ha]

theorem mem_pushNew {out : List α} {a b : α} : b ∈ pushNew out a ↔ b ∈ out ∨ b = a := by
  have h : b ∈ [a].foldl pushNew out ↔ b ∈ out ∨ b ∈ [a] := mem_foldl_pushNew
  rw [List.mem_singleton] at h
  exact h

/-- What is pushed is there at least once; what was there keeps its repeats. -/
theorem count_foldl_pushNew [BEq α] [LawfulBEq α] (out xs : List α) (a : α) :
    (xs.foldl pushNew out).count a = max (out.count a) (if a ∈ xs then 1 else 0) := by
  induction xs generalizing out with
  | nil => simp
  | cons x xs ih =>
      have hpush : (pushNew out x).count a = max (out.count a) (if a = x then 1 else 0) := by
        rw [pushNew]
        by_cases hx : x ∈ out
        · rw [if_pos hx]
          by_cases ha : a = x
          · have hpos : 0 < out.count a := List.count_pos_iff.mpr (ha ▸ hx)
            rw [if_pos ha]
            omega
          · rw [if_neg ha, Nat.max_zero]
        · rw [if_neg hx, List.count_append]
          by_cases ha : a = x
          · subst ha
            rw [List.count_eq_zero.mpr hx]
            simp
          · rw [if_neg ha, List.count_singleton]
            simp [Ne.symm ha]
      rw [List.foldl_cons, ih, hpush, max_assoc]
      by_cases ha : a = x
      · rw [if_pos ha, if_pos (List.mem_cons.mpr (Or.inl ha))]
        split_ifs <;> omega
      · rw [if_neg ha, Nat.zero_max]
        simp only [List.mem_cons, ha, false_or]

theorem nodup_eraseDups (xs : List α) : xs.eraseDups.Nodup := by
  induction hn : xs.length using Nat.strong_induction_on generalizing xs with
  | _ n ih =>
      cases xs with
      | nil => simp
      | cons x xs =>
          rw [List.eraseDups_cons, List.nodup_cons]
          refine ⟨by simp, ih _ ?_ _ rfl⟩
          subst hn
          exact Nat.lt_succ_of_le (List.length_filter_le _ _)

theorem eraseDups_of_nodup {xs : List α} (h : xs.Nodup) : xs.eraseDups = xs := by
  induction xs with
  | nil => rfl
  | cons x xs ih =>
      obtain ⟨hx, hxs⟩ := List.nodup_cons.mp h
      have hfilter : xs.filter (fun y => !y == x) = xs := by
        refine List.filter_eq_self.mpr fun y hy => ?_
        have hne : y ≠ x := fun heq => hx (heq ▸ hy)
        simp [hne]
      rw [List.eraseDups_cons, hfilter, ih hxs]

/-! ## The first element of each key -/

section Firsts

variable {β : Type}

/-- The first element of each key, in first-seen order. -/
def firsts (key : β → α) (l : List β) : List β :=
  (l.map key).eraseDups.filterMap (fun k => l.find? (fun b => key b == k))

/-- A selection with one element for each key, always the first, is `firsts`. -/
theorem eq_firsts {key : β → α} {l out : List β} (hkeys : out.map key = (l.map key).eraseDups)
    (hfirst : ∀ b ∈ out, l.find? (fun c => key c == key b) = some b) : out = firsts key l := by
  have hsome : out.filterMap (fun b => l.find? (fun c => key c == key b)) = out.filterMap some :=
    List.filterMap_congr hfirst
  calc out = out.filterMap some := (List.filterMap_some).symm
    _ = out.filterMap (fun b => l.find? (fun c => key c == key b)) := hsome.symm
    _ = (out.map key).filterMap (fun k => l.find? (fun c => key c == k)) := by
        rw [List.filterMap_map]
        rfl
    _ = firsts key l := by rw [hkeys, firsts]

theorem mem_firsts {key : β → α} {l : List β} {b : β} :
    b ∈ firsts key l ↔ l.find? (fun c => key c == key b) = some b := by
  rw [firsts, List.mem_filterMap]
  constructor
  · rintro ⟨k, -, hb⟩
    have hk : key b = k := by simpa using List.find?_some hb
    rw [hk]
    exact hb
  · intro hb
    have hmem : key b ∈ (l.map key).eraseDups :=
      List.mem_eraseDups.mpr (List.mem_map_of_mem (List.mem_of_find?_eq_some hb))
    exact ⟨key b, hmem, hb⟩

theorem map_key_firsts (key : β → α) (l : List β) :
    (firsts key l).map key = (l.map key).eraseDups := by
  have hfound : ∀ k ∈ (l.map key).eraseDups,
      (l.find? (fun b => key b == k)).map key = some k := by
    intro k hk
    obtain ⟨b, hb, rfl⟩ := List.mem_map.mp (List.mem_eraseDups.mp hk)
    cases hfind : l.find? (fun c => key c == key b) with
    | none =>
        have hno := List.find?_eq_none.mp hfind b hb
        simp at hno
    | some c =>
        have hc : key c = key b := by simpa using List.find?_some hfind
        rw [Option.map_some, hc]
  rw [firsts, List.map_filterMap, List.filterMap_congr hfound, List.filterMap_some]

/-- Where no two elements share a key, each is the first of its own. -/
theorem firsts_of_nodup {key : β → α} {l : List β} (h : (l.map key).Nodup) : firsts key l = l := by
  symm
  refine eq_firsts (eraseDups_of_nodup h).symm fun b hb => ?_
  cases hfind : l.find? (fun c => key c == key b) with
  | none => simpa using List.find?_eq_none.mp hfind b hb
  | some c =>
      have hkey : key c = key b := by simpa using List.find?_some hfind
      rw [List.inj_on_of_nodup_map h (List.mem_of_find?_eq_some hfind) hb hkey]

end Firsts

end Osfacts
