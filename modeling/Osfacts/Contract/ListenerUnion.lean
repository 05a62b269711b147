import Osfacts.Contract.DarwinListeners

set_option autoImplicit false

/-! # The merge as a union

The keys of the merge are those of the table, with their repeats, and each claim once; so each
occurs as often as in the source that has it more often. Since a key determines the listener, the
sorted list depends neither on the order of the table nor on that in which the map is visited.
-/

namespace Osfacts.Pcblist

open Darwin

/-- The key a row of ports was made from. -/
def listenerOf (row : Port) : HostListener := (row.port, row.address)

theorem listenerKey_injective : Function.Injective listenerKey := by
  intro a b h
  rw [listenerKey, listenerKey, toLex_inj, Prod.mk.injEq] at h
  obtain ⟨hport, haddress⟩ := h
  have hchars : Function.Injective Char.toNat := fun c d => Char.toNat_inj.mp
  exact Prod.ext (UInt16.toNat_inj.mp hport) (hchars.list_map haddress)

section Union

variable (rows rows' : List HostListener) (claims claims' : List (HostListener × Pid))

theorem keys_attributeHostListeners :
    (attributeHostListeners rows claims).map listenerOf
      = sortByKey listenerKey ((claims.map Prod.fst).foldl pushNew rows) := by
  rw [attributeHostListeners, List.map_map]
  exact List.map_id _

/-- A key occurs as often as in the table, and at least once if it is claimed. -/
theorem count_keys (k : HostListener) :
    ((attributeHostListeners rows claims).map listenerOf).count k
      = max (rows.count k) (if k ∈ claims.map Prod.fst then 1 else 0) := by
  rw [keys_attributeHostListeners, (sortByKey_perm _ _).count_eq, count_foldl_pushNew]

/-- The rows of one key are alike. -/
theorem filter_listenerOf (k : HostListener) :
    (attributeHostListeners rows claims).filter (fun row => listenerOf row == k)
      = List.replicate (max (rows.count k) (if k ∈ claims.map Prod.fst then 1 else 0))
          ⟨(claims.lookup k).elim .unclaimed .claimed, none, k.1, k.2⟩ := by
  refine List.eq_replicate_iff.mpr ⟨?_, fun row hrow => ?_⟩
  · rw [← count_keys, List.count_eq_countP, List.countP_map, List.countP_eq_length_filter]
    rfl
  · obtain ⟨hmem, hk⟩ := List.mem_filter.mp hrow
    obtain ⟨key, -, rfl⟩ := mem_attributeHostListeners.mp hmem
    obtain rfl : key = k := beq_iff_eq.mp hk
    rfl

/-- The table, and each claim that is not in it once. -/
theorem keys_perm (h : (claims.map Prod.fst).Nodup) :
    ((attributeHostListeners rows claims).map listenerOf).Perm
      (rows ++ (claims.map Prod.fst).filter (fun k => k ∉ rows)) := by
  refine List.perm_iff_count.mpr (fun k => ?_)
  rw [count_keys, List.count_append]
  by_cases hk : k ∈ rows
  · have hpos : 0 < rows.count k := List.count_pos_iff.mpr hk
    have hnone : k ∉ (claims.map Prod.fst).filter (fun k => k ∉ rows) := by
      intro hmem
      exact absurd hk (of_decide_eq_true (List.mem_filter.mp hmem).2)
    rw [List.count_eq_zero.mpr hnone]
    split_ifs <;> omega
  · rw [List.count_eq_zero.mpr hk, List.count_filter (by simpa using hk), h.count]
    simp

theorem keys_sorted :
    ((attributeHostListeners rows claims).map listenerOf).Pairwise
      (fun a b => listenerKey a ≤ listenerKey b) := by
  rw [keys_attributeHostListeners]
  exact pairwise_sortByKey _ _

variable {rows rows' claims claims'}

/-- A row is claimed by the process of its key in the map, if it has one. -/
theorem attribution_of_mem (h : (claims.map Prod.fst).Nodup) {row : Port}
    (hrow : row ∈ attributeHostListeners rows claims) :
    row.uid = none ∧ (∀ pid, row.attribution = .claimed pid ↔ (listenerOf row, pid) ∈ claims) ∧
      (row.attribution = .unclaimed ↔ listenerOf row ∉ claims.map Prod.fst) := by
  obtain ⟨key, -, rfl⟩ := mem_attributeHostListeners.mp hrow
  refine ⟨rfl, fun pid => ?_, ?_⟩
  · show (claims.lookup key).elim Attribution.unclaimed .claimed = .claimed pid
      ↔ (key, pid) ∈ claims
    rw [mem_iff_lookup h]
    cases claims.lookup key with
    | none => simp
    | some p => simp
  · show (claims.lookup key).elim Attribution.unclaimed .claimed = .unclaimed ↔ key ∉ _
    cases hlookup : claims.lookup key with
    | none =>
        refine iff_of_true rfl (fun hmem => ?_)
        obtain ⟨⟨k, p⟩, hclaim, rfl⟩ := List.mem_map.mp hmem
        rw [(mem_iff_lookup h).mp hclaim] at hlookup
        cases hlookup
    | some p =>
        refine iff_of_false (by simp) (not_not.mpr ?_)
        exact List.mem_map.mpr ⟨(key, p), (mem_iff_lookup h).mpr hlookup, rfl⟩

/-- Neither the order of the table nor that of the map is seen. -/
theorem attributeHostListeners_congr (h : (claims.map Prod.fst).Nodup)
    (hrows : rows.Perm rows') (hclaims : claims.Perm claims') :
    attributeHostListeners rows claims = attributeHostListeners rows' claims' := by
  have hall : ((claims.map Prod.fst).foldl pushNew rows).Perm
      ((claims'.map Prod.fst).foldl pushNew rows') := by
    refine List.perm_iff_count.mpr (fun k => ?_)
    rw [count_foldl_pushNew, count_foldl_pushNew, hrows.count_eq]
    simp only [(hclaims.map Prod.fst).mem_iff]
  rw [attributeHostListeners, attributeHostListeners,
    sortByKey_eq_of_injective listenerKey_injective hall]
  simp only [lookup_eq_of_perm h hclaims]

/-- More rows or more claims never cost a key. -/
theorem keys_subperm (hrows : rows.Subperm rows')
    (hclaims : claims.map Prod.fst ⊆ claims'.map Prod.fst) :
    ((attributeHostListeners rows claims).map listenerOf).Subperm
      ((attributeHostListeners rows' claims').map listenerOf) := by
  refine List.subperm_ext_iff.mpr (fun k _ => ?_)
  rw [count_keys, count_keys]
  refine max_le_max (hrows.count_le k) ?_
  by_cases hk : k ∈ claims.map Prod.fst
  · rw [if_pos hk, if_pos (hclaims hk)]
  · rw [if_neg hk]
    exact Nat.zero_le _

/-- Without a table the merge is the map. -/
theorem attributeHostListeners_nil (h : (claims.map Prod.fst).Nodup) :
    (attributeHostListeners [] claims).Perm (claims.map (fun c => claimedRow c.2 c.1)) := by
  have hkeys : (sortByKey listenerKey ((claims.map Prod.fst).foldl pushNew [])).Perm
      (claims.map Prod.fst) := by
    have hperm := keys_perm [] claims h
    rw [keys_attributeHostListeners, List.nil_append, List.filter_eq_self.mpr (by simp)] at hperm
    exact hperm
  rw [attributeHostListeners]
  refine (hkeys.map _).trans ?_
  rw [List.map_map]
  refine List.Perm.of_eq (List.map_congr_left (fun c hc => ?_))
  show (⟨(claims.lookup c.1).elim .unclaimed .claimed, none, c.1.1, c.1.2⟩ : Port) = _
  rw [(mem_iff_lookup h).mp hc]
  rfl

end Union

/-- **The attributed union.** The keys are the rows and each other claim once, in order; each row is
attributed by the map; the order of both sources is not seen, more of either costs no key, and
without rows the merge is the map. -/
theorem attributed_union (rows : List HostListener) (claims : List (HostListener × Pid))
    (h : (claims.map Prod.fst).Nodup) :
    ((attributeHostListeners rows claims).map listenerOf).Perm
        (rows ++ (claims.map Prod.fst).filter (fun k => k ∉ rows)) ∧
    ((attributeHostListeners rows claims).map listenerOf).Pairwise
        (fun a b => listenerKey a ≤ listenerKey b) ∧
    (∀ row ∈ attributeHostListeners rows claims, row.uid = none ∧
      (∀ pid, row.attribution = .claimed pid ↔ (listenerOf row, pid) ∈ claims) ∧
      (row.attribution = .unclaimed ↔ listenerOf row ∉ claims.map Prod.fst)) ∧
    (∀ rows' claims', rows.Perm rows' → claims.Perm claims' →
      attributeHostListeners rows claims = attributeHostListeners rows' claims') ∧
    (∀ rows' claims', rows.Subperm rows' → claims.map Prod.fst ⊆ claims'.map Prod.fst →
      ((attributeHostListeners rows claims).map listenerOf).Subperm
        ((attributeHostListeners rows' claims').map listenerOf)) ∧
    (attributeHostListeners [] claims).Perm (claims.map (fun c => claimedRow c.2 c.1)) := by
  refine ⟨keys_perm rows claims h, keys_sorted rows claims, ?_, ?_, ?_, ?_⟩
  · exact fun row hrow => attribution_of_mem h hrow
  · exact fun rows' claims' hrows hclaims => attributeHostListeners_congr h hrows hclaims
  · exact fun rows' claims' hrows hclaims => keys_subperm hrows hclaims
  · exact attributeHostListeners_nil h

theorem attributed_union_sample :
    ((attributeHostListeners [(80, ['0']), (22, ['0']), (80, ['0'])]
        [((80, ['0']), 7), ((443, ['0']), 8)]).map listenerOf).Perm
      [(80, ['0']), (22, ['0']), (80, ['0']), (443, ['0'])] :=
  (attributed_union [(80, ['0']), (22, ['0']), (80, ['0'])]
    [((80, ['0']), 7), ((443, ['0']), 8)] (by decide)).1

end Osfacts.Pcblist
