import Osfacts.Contract.Account

set_option autoImplicit false

/-! # The order of a document

`normalize` sorts each table by a key of its rows. Two arrangements of the same rows have one
normal form exactly where the rows that share a key stand in the same order in both; of the
ten row vectors only the listeners can have such ties.
-/

namespace Osfacts

/-- A document is its tables, its `U` rows, its `E` rows and its version. -/
theorem Snapshot.eq_of_tables {s t : Snapshot} (hversion : s.version = t.version)
    (htables : ∀ f, s.table f = t.table f) (hunreadable : s.unreadable = t.unreadable)
    (herrors : s.errors = t.errors) : s = t := by
  have hprocs := htables .procs
  have hports := htables .ports
  have hmem := htables .mem
  have hstart := htables .startTime
  have hcpu := htables .cpuTime
  have huid := htables .uid
  have hcwd := htables .cwd
  have hstatus := htables .status
  have hargv := htables .argv
  cases s
  cases t
  simp only [Snapshot.table] at *
  subst hversion hprocs hports hmem hstart hcpu huid hcwd hstatus hargv hunreadable herrors
  rfl

/-! ## The sort keys -/

/-- A table other than the listeners' is sorted by the pid column. -/
theorem exists_pidKey {f : Flag} (hf : f ≠ .ports) :
    ∃ key : f.Row → ℕ,
      (∀ s : Snapshot, (normalize s).table f = sortByKey key (s.table f)) ∧
      ∀ row, ∃ pid, f.pidOf row = some pid ∧ key row = pid.toNat := by
  cases f with
  | ports => exact absurd rfl hf
  | procs => exact ⟨fun row => row.pid.toNat, fun _ => rfl, fun row => ⟨row.pid, rfl, rfl⟩⟩
  | mem => exact ⟨fun row => row.pid.toNat, fun _ => rfl, fun row => ⟨row.pid, rfl, rfl⟩⟩
  | startTime => exact ⟨fun row => row.pid.toNat, fun _ => rfl, fun row => ⟨row.pid, rfl, rfl⟩⟩
  | cpuTime => exact ⟨fun row => row.pid.toNat, fun _ => rfl, fun row => ⟨row.pid, rfl, rfl⟩⟩
  | uid => exact ⟨fun row => row.pid.toNat, fun _ => rfl, fun row => ⟨row.pid, rfl, rfl⟩⟩
  | cwd => exact ⟨fun row => row.pid.toNat, fun _ => rfl, fun row => ⟨row.pid, rfl, rfl⟩⟩
  | status => exact ⟨fun row => row.pid.toNat, fun _ => rfl, fun row => ⟨row.pid, rfl, rfl⟩⟩
  | argv => exact ⟨fun row => row.pid.toNat, fun _ => rfl, fun row => ⟨row.pid, rfl, rfl⟩⟩

/-- The runs of a table sorted by pid are the rows of each pid. -/
theorem sameRuns_pid_iff {f : Flag} {key : f.Row → ℕ}
    (hkey : ∀ row, ∃ pid, f.pidOf row = some pid ∧ key row = pid.toNat) {l l' : List f.Row} :
    SameRuns key l l' ↔ ∀ pid, l.filter (fun row => f.pidOf row = some pid)
      = l'.filter (fun row => f.pidOf row = some pid) := by
  have hrun : ∀ (rows : List f.Row) (pid : Pid), rows.filter (fun row => key row = pid.toNat)
      = rows.filter (fun row => f.pidOf row = some pid) := by
    intro rows pid
    apply List.filter_congr
    intro row _
    obtain ⟨p, hp, hk⟩ := hkey row
    rw [hp, hk, decide_eq_decide, Option.some.injEq, UInt32.toNat_inj]
  constructor
  · intro h pid
    rw [← hrun, ← hrun]
    exact h pid.toNat
  · intro h k
    by_cases hk : k < 2 ^ 32
    · have hpid : (UInt32.ofNat k).toNat = k := UInt32.toNat_ofNat_of_lt' hk
      rw [← hpid, hrun, hrun, h]
    · -- no pid is that large
      have hnone : ∀ rows : List f.Row, rows.filter (fun row => key row = k) = [] := by
        intro rows
        rw [List.filter_eq_nil_iff]
        intro row _ hrow
        obtain ⟨p, -, hp⟩ := hkey row
        rw [of_decide_eq_true hrow] at hp
        exact hk (hp ▸ p.toNat_lt)
      rw [hnone, hnone]

theorem ports_normalize (s : Snapshot) : (normalize s).ports = sortByKey portKey s.ports := rfl

/-- One errno for each pid and facet. -/
def OneErrno (rows : List Unreadable) : Prop :=
  ∀ u ∈ rows, ∀ v ∈ rows, u.pid = v.pid → u.facet = v.facet → u.errno = v.errno

/-- The key of a `U` row determines it. -/
theorem OneErrno.eq_of_key {rows : List Unreadable} (h : OneErrno rows) :
    ∀ u ∈ rows, ∀ v ∈ rows,
      (toLex (u.pid.toNat, u.facet.rank) : ℕ ×ₗ ℕ) = toLex (v.pid.toNat, v.facet.rank) →
        u = v := by
  intro u hu v hv hkey
  obtain ⟨hpid, hfacet⟩ := (unreadableKey_eq_iff u v.pid v.facet).mp hkey
  have herrno := h u hu v hv hpid hfacet
  cases u
  cases v
  simp_all

/-- Normal `U` rows depend on the set of rows only. -/
theorem normalizeUnreadable_eq_of_mem_iff {rows rows' : List Unreadable} (h : OneErrno rows)
    (hmem : ∀ u, u ∈ rows ↔ u ∈ rows') :
    normalizeUnreadable rows = normalizeUnreadable rows' :=
  dedup_sort_eq_of_mem_iff h.eq_of_key hmem

/-! ## Rearrangements -/

/-- Two documents with the same rows in any order: one row a pid in the tables sorted by pid,
one errno for each pid and facet. -/
structure Rearranged (s t : Snapshot) : Prop where
  version : s.version = t.version
  errors : s.errors = t.errors
  tables : ∀ f, (s.table f).Perm (t.table f)
  unreadable : s.unreadable.Perm t.unreadable
  oneRow : ∀ f, f ≠ .ports → ((s.table f).map f.pidOf).Nodup
  oneErrno : OneErrno s.unreadable

/-- The `L` rows that tie in the order of the listeners stand in the same order in both
documents. -/
def TiesAgree (s t : Snapshot) : Prop := SameRuns portKey s.ports t.ports

/-- Normalising loses no row and makes none up. -/
def KeepsRows (s : Snapshot) : Prop :=
  (∀ f, ((normalize s).table f).Perm (s.table f)) ∧
    ∀ u, u ∈ (normalize s).unreadable ↔ u ∈ s.unreadable

theorem keepsRows_of_oneErrno {s : Snapshot} (h : OneErrno s.unreadable) : KeepsRows s :=
  ⟨table_normalize_perm s, fun _ => mem_dedup_sort h.eq_of_key⟩

theorem normalize_normalize (s : Snapshot) : normalize (normalize s) = normalize s := by
  refine Snapshot.eq_of_tables rfl (fun f => ?_) ?_ rfl
  · by_cases hf : f = .ports
    · subst hf
      exact sortByKey_sortByKey portKey s.ports
    · obtain ⟨key, hkey, -⟩ := exists_pidKey hf
      rw [hkey, hkey, sortByKey_sortByKey]
  · exact dedup_sort_dedup_sort _ s.unreadable

/-- Everything but the listeners has one normal form. -/
theorem Rearranged.normalize_eq_iff {s t : Snapshot} (h : Rearranged s t) :
    normalize s = normalize t ↔ sortByKey portKey s.ports = sortByKey portKey t.ports := by
  constructor
  · exact fun heq => congrArg Snapshot.ports heq
  · intro hports
    refine Snapshot.eq_of_tables h.version (fun f => ?_) ?_ h.errors
    · by_cases hf : f = .ports
      · subst hf
        exact hports
      · obtain ⟨key, hkey, hpid⟩ := exists_pidKey hf
        rw [hkey, hkey]
        apply sortByKey_eq_of_perm (h.tables f)
        -- rows of different pids have different keys
        have hnodup := h.oneRow f hf
        rw [List.Nodup, List.pairwise_map] at hnodup ⊢
        refine hnodup.imp fun {a b} hne hk => hne ?_
        obtain ⟨p, hp, hkp⟩ := hpid a
        obtain ⟨q, hq, hkq⟩ := hpid b
        rw [hp, hq, UInt32.toNat_inj.mp (hkp.symm.trans (hk.trans hkq))]
    · exact normalizeUnreadable_eq_of_mem_iff h.oneErrno fun u => h.unreadable.mem_iff

/-- **The canonical form.** Of two arrangements of the same rows `normalize` makes one document
exactly when the listeners that tie stand in the same order. -/
theorem normalize_canonical_iff (J : JsonLib) {s t : Snapshot} (h : Rearranged s t) :
    (normalize s = normalize t ∧ writeTsv J (normalize s) = writeTsv J (normalize t) ∧
      normalize (normalize s) = normalize s ∧ KeepsRows s) ↔ TiesAgree s t := by
  have hports : normalize s = normalize t ↔ TiesAgree s t :=
    h.normalize_eq_iff.trans sortByKey_eq_iff
  constructor
  · exact fun hall => hports.mp hall.1
  · intro hties
    have heq := hports.mpr hties
    exact ⟨heq, by rw [heq], normalize_normalize s, keepsRows_of_oneErrno h.oneErrno⟩

/-- Two listeners of pid 7 on one port and address, bound by two users. -/
def sharedPort (uid : UInt32) : Port := ⟨.claimed 7, some uid, 80, "00000000".toList⟩

/-- A document of listeners alone. -/
def portsDocument (rows : List Port) : Snapshot := { Snapshot.new with ports := rows }

theorem rearranged_ports {rows rows' : List Port} (h : rows.Perm rows') :
    Rearranged (portsDocument rows) (portsDocument rows') where
  version := rfl
  errors := rfl
  tables f := by
    cases f with
    | ports => exact h
    | _ => exact List.Perm.nil
  unreadable := List.Perm.nil
  oneRow f hf := by
    cases f with
    | ports => exact absurd rfl hf
    | _ => exact List.nodup_nil
  oneErrno _ hu := absurd hu List.not_mem_nil

/-- A listener nobody claims. -/
def unheldPort : Port := ⟨.unclaimed, some 0, 22, "00000000".toList⟩

theorem normalize_canonical_sample :
    normalize (portsDocument [sharedPort 0, unheldPort])
      = normalize (portsDocument [unheldPort, sharedPort 0]) :=
  ((normalize_canonical_iff JsonLib.standard (rearranged_ports (List.Perm.swap _ _ _))).mpr
    (sameRuns_swap.mpr fun hkey => absurd hkey (by decide))).1

/-- The two users' rows tie, and stay in the order in which they came. -/
theorem shared_port_order :
    Rearranged (portsDocument [sharedPort 0, sharedPort 1000])
        (portsDocument [sharedPort 1000, sharedPort 0]) ∧
      normalize (portsDocument [sharedPort 0, sharedPort 1000])
        ≠ normalize (portsDocument [sharedPort 1000, sharedPort 0]) := by
  refine ⟨rearranged_ports (List.Perm.swap _ _ _), fun heq => ?_⟩
  have hports : sortByKey portKey [sharedPort 0, sharedPort 1000]
      = sortByKey portKey [sharedPort 1000, sharedPort 0] := congrArg Snapshot.ports heq
  have hsame : sharedPort 0 = sharedPort 1000 :=
    sameRuns_swap.mp (sortByKey_eq_iff.mp hports) rfl
  exact absurd hsame (by decide)

end Osfacts
