import Osfacts.Basic.Grouped
import Osfacts.Contract.Roots
import Osfacts.Linux.Facets

set_option autoImplicit false

/-! # One account for every selected pid and facet

Counting in the normalised document: each selected pid has one row for each asked flag, in
the flag's table or among the `U` rows, unless an `E` row took the whole facet away.
-/

namespace Osfacts

/-! ## Normalisation keeps the rows -/

theorem table_normalize_perm (s : Snapshot) (f : Flag) :
    ((normalize s).table f).Perm (s.table f) := by
  cases f <;> exact sortByKey_perm _ _

theorem errors_normalize (s : Snapshot) : (normalize s).errors = s.errors := rfl

/-- The key of a `U` row: pid and facet. -/
theorem unreadableKey_eq_iff (u : Unreadable) (pid : Pid) (facet : Facet) :
    (toLex (u.pid.toNat, u.facet.rank) : ℕ ×ₗ ℕ) = toLex (pid.toNat, facet.rank) ↔
      u.pid = pid ∧ u.facet = facet := by
  constructor
  · intro h
    obtain ⟨hpid, hfacet⟩ := Prod.ext_iff.mp (toLex_inj.mp h)
    exact ⟨UInt32.toNat_inj.mp hpid, Facet.rank_injective hfacet⟩
  · rintro ⟨rfl, rfl⟩
    rfl

/-- One `U` row for each blindness that was recorded. -/
theorem countP_normalizeUnreadable (rows : List Unreadable) (pid : Pid) (facet : Facet) :
    (normalizeUnreadable rows).countP (fun u => u.pid = pid ∧ u.facet = facet)
      = if ∃ u ∈ rows, u.pid = pid ∧ u.facet = facet then 1 else 0 := by
  have h := countP_dedup_sort
    (fun row : Unreadable => (toLex (row.pid.toNat, row.facet.rank) : ℕ ×ₗ ℕ)) rows
    (toLex (pid.toNat, facet.rank))
  simp only [unreadableKey_eq_iff] at h
  exact h

theorem mem_of_mem_normalizeUnreadable {rows : List Unreadable} {u : Unreadable}
    (h : u ∈ normalizeUnreadable rows) : u ∈ rows :=
  mem_sortByKey.mp (mem_of_mem_dedupByKey h)

theorem exists_normalizeUnreadable (rows : List Unreadable) (pid : Pid) (facet : Facet) :
    (∃ u ∈ normalizeUnreadable rows, u.pid = pid ∧ u.facet = facet) ↔
      ∃ u ∈ rows, u.pid = pid ∧ u.facet = facet := by
  have hcount := countP_normalizeUnreadable rows pid facet
  constructor
  · rintro ⟨u, hu, h⟩
    exact ⟨u, mem_of_mem_normalizeUnreadable hu, h⟩
  · intro h
    rw [if_pos h] at hcount
    have hpos : 0 < (normalizeUnreadable rows).countP
        (fun u => u.pid = pid ∧ u.facet = facet) := by omega
    obtain ⟨u, hu, hp⟩ := List.countP_pos_iff.mp hpos
    exact ⟨u, hu, of_decide_eq_true hp⟩

/-- How many rows a pid has in the table of a flag. -/
def Snapshot.factCount (s : Snapshot) (f : Flag) (pid : Pid) : Nat :=
  (s.table f).countP (fun row => f.pidOf row = some pid)

/-- How many `U` rows a pid has for a facet. -/
def Snapshot.blameCount (s : Snapshot) (facet : Facet) (pid : Pid) : Nat :=
  s.unreadable.countP (fun u => u.pid = pid ∧ u.facet = facet)

namespace Linux

/-! ## Rows of a selected pid -/

section Selected

variable {os : Os} {args : SnapshotArgs} {pids : List Pid}

theorem factCount_eq (hsel : selected os args = .ok pids) (hnodup : pids.Nodup) {f : Flag}
    (hf : f ≠ .ports) {pid : Pid} (hpid : pid ∈ pids) :
    (normalize (snapshot os args)).factCount f pid
      = (facts (reading os args (constants os args) pid f)).length := by
  have hkey : ∀ p, ∀ row ∈ facts (reading os args (constants os args) p f),
      f.pidOf row = some p := fun p row hrow => pidOf_of_reading (mem_facts.mp hrow)
  calc (normalize (snapshot os args)).factCount f pid
      = ((snapshot os args).table f).countP (fun row => f.pidOf row = some pid) :=
        (table_normalize_perm _ f).countP_eq _
    _ = ((pids.flatMap (fun pid => facts (reading os args (constants os args) pid f))).filter
          (fun row => f.pidOf row = some pid)).length := by
        rw [(snapshot_eq hsel).1 f hf, List.countP_eq_length_filter]
    _ = (facts (reading os args (constants os args) pid f)).length := by
        rw [filter_flatMap_of_nodup hkey hnodup hpid]

/-- The rows that the collection of the pids pushes: a root without a process, or one whose
children could not be listed. -/
theorem exists_of_mem_collectionRows {u : Unreadable} (h : u ∈ collectionRows os args) :
    ∃ r err, u = ⟨r, .proc, errnoName err⟩ := by
  rw [collectionRows] at h
  cases hscope : args.scope with
  | host =>
      rw [hscope] at h
      cases h
  | pids list =>
      rw [hscope] at h
      cases h
  | roots roots =>
      rw [hscope] at h
      rcases mem_unreadable_collectRoots.mp h with ⟨r, -, rfl⟩ | ⟨r, err, -, rfl⟩
      · exact ⟨r, Libc.ENOENT, rfl⟩
      · exact ⟨r, err, rfl⟩

/-- The `U` rows of the document, by where they come from. -/
theorem mem_unreadable (hsel : selected os args = .ok pids) {u : Unreadable} :
    u ∈ (snapshot os args).unreadable ↔ u ∈ collectionRows os args ∨
      (∃ pid ∈ pids, ∃ f err, f ≠ Flag.ports ∧
        reading os args (constants os args) pid f = some (.error err) ∧
        u = ⟨pid, f.facet, errnoName err⟩) ∨ u ∈ portBlame os args pids := by
  rw [(snapshot_eq hsel).2.2.1, List.mem_append, List.mem_append, List.mem_flatMap, or_assoc]
  simp only [mem_pidBlame]

theorem mem_portBlame {u : Unreadable} :
    u ∈ portBlame os args pids ↔ args.ports = true ∧ (∃ ls, loadListeners os = .ok ls) ∧
      ∃ pid ∈ pids, ∃ err, socketInodes os pid = .error err ∧
        u = ⟨pid, .ports, errnoName err⟩ := by
  unfold portBlame
  cases args.ports with
  | false => simp
  | true =>
      cases hload : loadListeners os with
      | error e => simp
      | ok ls => simp [mem_blame, List.mem_flatMap]

/-- A selected pid has a `U` row for a flag exactly when its reading failed. -/
theorem exists_blame_iff (hsel : selected os args = .ok pids)
    (hcollect : collectionRows os args = []) {f : Flag} (hf : f ≠ .ports) {pid : Pid}
    (hpid : pid ∈ pids) :
    (∃ u ∈ (snapshot os args).unreadable, u.pid = pid ∧ u.facet = f.facet) ↔
      ∃ err, reading os args (constants os args) pid f = some (.error err) := by
  constructor
  · rintro ⟨u, hu, hp, hfacet⟩
    rcases (mem_unreadable hsel).mp hu with hu | ⟨p, -, g, err, -, hr, rfl⟩ | hu
    · rw [hcollect] at hu
      cases hu
    · obtain rfl : g = f := Flag.facet_injective hfacet
      obtain rfl : p = pid := hp
      exact ⟨err, hr⟩
    · obtain ⟨-, -, p, -, err, -, rfl⟩ := mem_portBlame.mp hu
      exact absurd (Flag.eq_ports hfacet) hf
  · rintro ⟨err, hr⟩
    exact ⟨⟨pid, f.facet, errnoName err⟩,
      (mem_unreadable hsel).mpr (Or.inr (Or.inl ⟨pid, hpid, f, err, hf, hr, rfl⟩)), rfl, rfl⟩

theorem blameCount_eq (hsel : selected os args = .ok pids)
    (hcollect : collectionRows os args = []) {f : Flag} (hf : f ≠ .ports) {pid : Pid}
    (hpid : pid ∈ pids) :
    (normalize (snapshot os args)).blameCount f.facet pid
      = (blame pid f.facet (reading os args (constants os args) pid f)).length := by
  have hcount := countP_normalizeUnreadable (snapshot os args).unreadable pid f.facet
  have hiff := exists_blame_iff hsel hcollect hf hpid
  refine hcount.trans ?_
  cases hr : reading os args (constants os args) pid f with
  | none =>
      rw [if_neg (mt hiff.mp (by simp [hr]))]
      rfl
  | some r =>
      cases r with
      | error err =>
          rw [if_pos (hiff.mpr ⟨err, hr⟩)]
          rfl
      | ok row =>
          rw [if_neg (mt hiff.mp (by simp [hr]))]
          rfl

/-- The `E` rows of the document, by where they come from. -/
theorem exists_error_iff (hsel : selected os args = .ok pids) {f : Flag} (hf : f ≠ .ports) :
    (∃ e ∈ (normalize (snapshot os args)).errors, e.facet = f.facet) ↔
      args.asks f = true ∧ constantFailed os f = true := by
  have hconstant := exists_constantErrors os args f.facet
  rw [errors_normalize, (snapshot_eq hsel).2.2.2.1]
  constructor
  · rintro ⟨e, he, hfacet⟩
    rcases List.mem_append.mp he with he | he
    · obtain ⟨g, ha, hfailed, hg⟩ := hconstant.mp ⟨e, he, hfacet⟩
      obtain rfl : g = f := Flag.facet_injective hg
      exact ⟨ha, hfailed⟩
    · unfold portErrors at he
      split at he
      · rw [List.mem_singleton.mp he] at hfacet
        exact absurd (Flag.eq_ports hfacet) hf
      · cases he
  · rintro ⟨ha, hfailed⟩
    obtain ⟨e, he, hfacet⟩ := hconstant.mpr ⟨f, ha, hfailed, rfl⟩
    exact ⟨e, List.mem_append_left _ he, hfacet⟩

/-- **One account.** The rows of a selected pid for a flag: none where an `E` row names the
facet, one where the flag was asked and none does. -/
theorem account_count (hsel : selected os args = .ok pids) (hnodup : pids.Nodup)
    (hcollect : collectionRows os args = []) {f : Flag} (hf : f ≠ .ports) {pid : Pid}
    (hpid : pid ∈ pids) :
    (normalize (snapshot os args)).factCount f pid
        + (normalize (snapshot os args)).blameCount f.facet pid
      = if args.asks f && !constantFailed os f then 1 else 0 := by
  rw [factCount_eq hsel hnodup hf hpid, blameCount_eq hsel hcollect hf hpid,
    length_facts_add_blame, reading_isSome os args pid hf]

/-! ## Listeners -/

/-- Only selected pids claim. -/
theorem claimed_mem (listener : Listener) {pid : Pid}
    (h : (portOfListener (claimsOf os pids) listener).attribution = .claimed pid) :
    pid ∈ pids := by
  rw [portOfListener, lookup_claimsOf] at h
  cases hholder : holder os pids listener.inode with
  | none => rw [hholder] at h; cases h
  | some p =>
      rw [hholder] at h
      cases h
      exact List.mem_of_find?_eq_some hholder

/-- Every pid column of a table holds a selected pid. -/
theorem pidOf_mem (hsel : selected os args = .ok pids) {f : Flag} {row : f.Row}
    (hrow : row ∈ (snapshot os args).table f) {pid : Pid} (hpid : f.pidOf row = some pid) :
    pid ∈ pids := by
  by_cases hf : f = .ports
  · subst hf
    change row ∈ (snapshot os args).ports at hrow
    rw [(snapshot_eq hsel).2.1, portRows] at hrow
    split at hrow
    · obtain ⟨listener, -, rfl⟩ := List.mem_map.mp hrow
      apply claimed_mem listener
      rw [Flag.pidOf] at hpid
      split at hpid
      · cases hpid
        assumption
      · cases hpid
    · cases hrow
  · rw [(snapshot_eq hsel).1 f hf] at hrow
    obtain ⟨p, hp, hrow⟩ := List.mem_flatMap.mp hrow
    have hown := pidOf_of_reading (mem_facts.mp hrow)
    rw [hpid, Option.some.injEq] at hown
    rwa [hown]

/-- A flag that was not asked has an empty table. -/
theorem table_of_not_asked (hsel : selected os args = .ok pids) {f : Flag}
    (hask : args.asks f = false) : (snapshot os args).table f = [] := by
  by_cases hf : f = .ports
  · subst hf
    show (snapshot os args).ports = []
    have hports : args.ports = false := hask
    rw [(snapshot_eq hsel).2.1, portRows, hports]
  · rw [(snapshot_eq hsel).1 f hf, List.flatMap_eq_nil_iff]
    intro pid _
    have hnone := reading_isSome os args pid hf
    rw [hask, Bool.false_and, Option.isSome_eq_false_iff, Option.isNone_iff_eq_none] at hnone
    rw [hnone]
    rfl

/-- A reading that is there is of a flag that was asked. -/
theorem asked_of_reading {f : Flag} (hf : f ≠ .ports) {pid : Pid} {r : Except Errno f.Row}
    (h : reading os args (constants os args) pid f = some r) : args.asks f = true := by
  have hsome := reading_isSome os args pid hf
  rw [h, Option.isSome_some, eq_comm, Bool.and_eq_true] at hsome
  exact hsome.1

/-- Apart from the collection, a `U` row is of a selected pid and an asked flag. -/
theorem unreadable_asked (hsel : selected os args = .ok pids)
    (hcollect : collectionRows os args = []) {u : Unreadable}
    (hu : u ∈ (snapshot os args).unreadable) :
    u.pid ∈ pids ∧ ∃ f, args.asks f = true ∧ u.facet = f.facet := by
  rcases (mem_unreadable hsel).mp hu with hu | ⟨p, hp, g, err, hg, hr, rfl⟩ | hu
  · rw [hcollect] at hu
    cases hu
  · exact ⟨hp, g, asked_of_reading hg hr, rfl⟩
  · obtain ⟨hports, -, p, hp, err, -, rfl⟩ := mem_portBlame.mp hu
    exact ⟨hp, .ports, hports, rfl⟩

/-- An `E` row is of an asked flag. -/
theorem error_asked (hsel : selected os args = .ok pids) {e : SourceError}
    (he : e ∈ (snapshot os args).errors) : ∃ f, args.asks f = true ∧ e.facet = f.facet := by
  rw [(snapshot_eq hsel).2.2.2.1] at he
  rcases List.mem_append.mp he with he | he
  · obtain ⟨f, ha, -, hf⟩ := (exists_constantErrors os args e.facet).mp ⟨e, he, rfl⟩
    exact ⟨f, ha, hf.symm⟩
  · unfold portErrors at he
    split at he
    · rw [List.mem_singleton.mp he]
      exact ⟨.ports, by assumption, rfl⟩
    · cases he

/-- With the listener tables loaded, a selected pid has a `U` row for its ports exactly when
its descriptors could not be walked. -/
theorem exists_portBlame_iff (hsel : selected os args = .ok pids)
    (hcollect : collectionRows os args = []) (hports : args.ports = true)
    {listeners : List Listener} (hload : loadListeners os = .ok listeners) {pid : Pid}
    (hpid : pid ∈ pids) :
    (∃ u ∈ (snapshot os args).unreadable, u.pid = pid ∧ u.facet = .ports) ↔
      ∃ err, socketInodes os pid = .error err := by
  constructor
  · rintro ⟨u, hu, hp, hfacet⟩
    rcases (mem_unreadable hsel).mp hu with hu | ⟨p, -, g, err, hg, -, rfl⟩ | hu
    · rw [hcollect] at hu
      cases hu
    · exact absurd (Flag.eq_ports hfacet.symm) hg
    · obtain ⟨-, -, p, -, err, hwalk, rfl⟩ := mem_portBlame.mp hu
      obtain rfl : p = pid := hp
      exact ⟨err, hwalk⟩
  · rintro ⟨err, hwalk⟩
    refine ⟨⟨pid, .ports, errnoName err⟩, (mem_unreadable hsel).mpr (Or.inr (Or.inr ?_)),
      rfl, rfl⟩
    exact mem_portBlame.mpr ⟨hports, ⟨listeners, hload⟩, pid, hpid, err, hwalk, rfl⟩

/-- With a listener table lost there is no `L` row and one `E` row for the ports. -/
theorem ports_of_load_error (hsel : selected os args = .ok pids) (hports : args.ports = true)
    {e : String × Errno} (hload : loadListeners os = .error e) :
    (snapshot os args).ports = [] ∧
      (snapshot os args).errors.countP (fun e => e.facet = .ports) = 1 := by
  obtain ⟨-, hrows, -, herrors, -⟩ := snapshot_eq hsel
  constructor
  · rw [hrows, portRows, hports, hload]
  · have hnone : (constantErrors os args).countP (fun e => e.facet = .ports) = 0 := by
      rw [List.countP_eq_zero]
      intro e he hfacet
      obtain ⟨f, -, hfailed, hf⟩ :=
        (exists_constantErrors os args .ports).mp ⟨e, he, of_decide_eq_true hfacet⟩
      obtain rfl := Flag.eq_ports hf.symm
      cases hfailed
    rw [herrors, List.countP_append, hnone, portErrors, hports, hload]
    rfl

end Selected

/-! ## The account -/

/-- Under host scope and under `--pids` the collection leaves no rows of its own. -/
theorem selected_of_scope {os : Os} {args : SnapshotArgs} {pids : List Pid}
    (h : (args.scope = .host ∧ hostPids os = .ok pids) ∨
      (args.scope = .pids pids ∧ pids.Nodup)) :
    selected os args = .ok pids ∧ pids.Nodup ∧ collectionRows os args = [] := by
  rcases h with ⟨hscope, hpids⟩ | ⟨hscope, hnodup⟩
  · rw [selected, collectionRows, hscope]
    exact ⟨hpids, (nodup_hostPids hpids).1, rfl⟩
  · rw [selected, collectionRows, hscope]
    exact ⟨rfl, hnodup, rfl⟩

/-- **Exactly one account.** In the normalised document of an ask whose pids are distinct,
every selected pid has one row for every asked flag unless an `E` row names the facet; ports
are accounted by the descriptor walk; and nothing else is in the document. -/
theorem snapshot_account {os : Os} {args : SnapshotArgs} {pids : List Pid}
    (hscope : (args.scope = .host ∧ hostPids os = .ok pids) ∨
      (args.scope = .pids pids ∧ pids.Nodup)) :
    let doc := normalize (snapshot os args)
    (∀ pid ∈ pids, ∀ f, f ≠ Flag.ports → args.asks f = true →
      ((∃ e ∈ doc.errors, e.facet = f.facet) →
        doc.factCount f pid = 0 ∧ doc.blameCount f.facet pid = 0) ∧
      ((¬ ∃ e ∈ doc.errors, e.facet = f.facet) →
        doc.factCount f pid + doc.blameCount f.facet pid = 1)) ∧
    (args.ports = true →
      (∀ listeners, loadListeners os = .ok listeners → ∀ pid ∈ pids,
        ((∃ u ∈ doc.unreadable, u.pid = pid ∧ u.facet = .ports) ↔
          ∃ err, socketInodes os pid = .error err)) ∧
      (∀ e, loadListeners os = .error e →
        doc.ports = [] ∧ doc.errors.countP (fun e => e.facet = .ports) = 1)) ∧
    (∀ f, ∀ row ∈ doc.table f, ∀ pid, f.pidOf row = some pid → pid ∈ pids) ∧
    (∀ f, args.asks f = false → doc.table f = []) ∧
    (∀ u ∈ doc.unreadable, u.pid ∈ pids ∧ ∃ f, args.asks f = true ∧ u.facet = f.facet) ∧
    (∀ e ∈ doc.errors, ∃ f, args.asks f = true ∧ e.facet = f.facet) := by
  obtain ⟨hsel, hnodup, hcollect⟩ := selected_of_scope hscope
  intro doc
  refine ⟨fun pid hpid f hf hask => ?_, fun hports => ⟨fun ls hload pid hpid => ?_,
    fun e hload => ?_⟩, fun f row hrow pid hpid => ?_, fun f hask => ?_, fun u hu => ?_,
    fun e he => ?_⟩
  · -- an `E` row names the flag's facet exactly when its constant failed
    have hcount := account_count hsel hnodup hcollect hf hpid
    rw [exists_error_iff hsel hf]
    constructor
    · rintro ⟨-, hfailed⟩
      rw [hfailed, Bool.not_true, Bool.and_false] at hcount
      have hzero : doc.factCount f pid + doc.blameCount f.facet pid = 0 := hcount
      exact Nat.add_eq_zero_iff.mp hzero
    · intro hfailed
      rw [not_and, Bool.not_eq_true] at hfailed
      rw [hask, hfailed hask] at hcount
      exact hcount
  · exact (exists_normalizeUnreadable _ pid .ports).trans
      (exists_portBlame_iff hsel hcollect hports hload hpid)
  · obtain ⟨hrows, hcount⟩ := ports_of_load_error hsel hports hload
    exact ⟨sortByKey_eq_nil.mpr hrows, hcount⟩
  · exact pidOf_mem hsel ((table_normalize_perm _ f).mem_iff.mp hrow) hpid
  · exact List.Perm.eq_nil (table_of_not_asked hsel hask ▸ table_normalize_perm _ f)
  · exact unreadable_asked hsel hcollect (mem_of_mem_normalizeUnreadable hu)
  · exact error_asked hsel he

/-- A host with one process, 7, and these files. -/
def singleOs (files : List (Text × Bytes)) : Os :=
  Os.ofTables files [] [] [7] (by decide) (by decide)

/-- A process of 25 resident pages. -/
def sampleOs : Os := singleOs [("/proc/7/statm".toList, ascii "300 25 9 0 0 0 0")]

/-- The memory of that process and of one that is gone. -/
def sampleArgs : SnapshotArgs := { SnapshotArgs.default with scope := .pids [7, 9], mem := true }

theorem sample_errors : (normalize (snapshot sampleOs sampleArgs)).errors = [] := by
  have hsel : selected sampleOs sampleArgs = .ok [7, 9] := rfl
  rw [errors_normalize, (snapshot_eq hsel).2.2.2.1]
  rfl

theorem snapshot_account_sample :
    (normalize (snapshot sampleOs sampleArgs)).factCount .mem 7
      + (normalize (snapshot sampleOs sampleArgs)).blameCount .mem 7 = 1 := by
  have hscope : (sampleArgs.scope = .host ∧ hostPids sampleOs = .ok [7, 9]) ∨
      (sampleArgs.scope = .pids [7, 9] ∧ [(7 : Pid), 9].Nodup) := Or.inr ⟨rfl, by decide⟩
  refine ((snapshot_account hscope).1 7 (by decide) .mem (by decide) rfl).2 ?_
  rw [sample_errors]
  rintro ⟨e, he, -⟩
  cases he

end Linux

end Osfacts
