import Osfacts.Darwin.Readers

set_option autoImplicit false

/-! # The subtree of a process, on darwin

The walk over the process table finds what can be reached from the roots that are in the table, in
whatever order the table lists its rows; the other roots are blamed, and nothing else is.
-/

namespace Osfacts.Darwin

/-- The table has a row for the pid. -/
def ProcessTable.Has (table : ProcessTable) (pid : Pid) : Prop := pid ∈ table.map Prod.fst

/-- The row of `child` names `parent`. -/
def ProcessTable.ParentOf (table : ProcessTable) (parent child : Pid) : Prop :=
  ∃ row, (child, row) ∈ table ∧ row.ppid = parent

instance (table : ProcessTable) (pid : Pid) : Decidable (table.Has pid) :=
  inferInstanceAs (Decidable (pid ∈ table.map Prod.fst))

section Subtree

variable {table : ProcessTable}

theorem isNone_lookup_iff {pid : Pid} : (table.lookup pid).isNone = true ↔ ¬ table.Has pid := by
  rw [Option.isNone_iff_eq_none, List.lookup_eq_none_iff, ProcessTable.Has, List.mem_map]
  constructor
  · rintro hnone ⟨entry, hentry, rfl⟩
    exact absurd rfl (bne_iff_ne.mp (hnone entry hentry))
  · intro hnone entry hentry
    exact bne_iff_ne.mpr (fun heq => hnone ⟨entry, hentry, heq.symm⟩)

theorem mem_childrenOf {parent child : Pid} :
    child ∈ childrenOf table parent ↔ table.ParentOf parent child := by
  rw [childrenOf, List.mem_map]
  constructor
  · rintro ⟨⟨pid, row⟩, hentry, rfl⟩
    obtain ⟨hmem, hparent⟩ := List.mem_filter.mp hentry
    exact ⟨row, hmem, eq_of_beq hparent⟩
  · rintro ⟨row, hmem, rfl⟩
    exact ⟨(child, row), List.mem_filter.mpr ⟨hmem, beq_self_eq_true _⟩, rfl⟩

/-- The row of a root that is not there. -/
def absentRoot (pid : Pid) : Unreadable := ⟨pid, .proc, errnoName Libc.ESRCH⟩

/-- The roots that are there are enqueued, the others blamed, in their order. -/
theorem foldl_enqueueRoot (roots : List Pid) (w : Breadth Pid) (snap : Snapshot) :
    roots.foldl (enqueueRoot table) (w, snap)
      = ((roots.filter (fun root => table.Has root)).foldl Breadth.enqueue w,
        { snap with unreadable := snap.unreadable
            ++ (roots.filter (fun root => ¬ table.Has root)).map absentRoot }) := by
  induction roots generalizing w snap with
  | nil => simp
  | cons root roots ih =>
      rw [List.foldl_cons, enqueueRoot]
      by_cases hroot : table.Has root
      · rw [if_neg (fun hnone => isNone_lookup_iff.mp hnone hroot), ih,
          List.filter_cons_of_pos (by simpa using hroot), List.foldl_cons,
          List.filter_cons_of_neg (by simpa using hroot)]
      · rw [if_pos (isNone_lookup_iff.mpr hroot), ih,
          List.filter_cons_of_neg (by simpa using hroot),
          List.filter_cons_of_pos (by simpa using hroot), List.map_cons]
        simp [Snapshot.pushUnreadable, pushUnreadableRow, absentRoot]

theorem subtree_eq (roots : List Pid) (table : ProcessTable) (snap : Snapshot) :
    subtree roots table snap
      = (Breadth.walk (childrenOf table)
          ((roots.filter (fun root => table.Has root)).foldl Breadth.enqueue ⟨[], 0, ∅⟩),
        { snap with unreadable := snap.unreadable
            ++ (roots.filter (fun root => ¬ table.Has root)).map absentRoot }) := by
  rw [subtree, foldl_enqueueRoot]

/-- What the walk returns: what a root that is there can reach, each process once. -/
theorem mem_subtree (roots : List Pid) (table : ProcessTable) (snap : Snapshot) :
    (subtree roots table snap).1.Nodup ∧ ∀ pid, pid ∈ (subtree roots table snap).1 ↔
      ∃ root ∈ roots, table.Has root ∧ Relation.ReflTransGen table.ParentOf root pid := by
  obtain ⟨hkept, hqueue, hcursor⟩ := Breadth.Kept.empty.enqueues
    (roots.filter (fun root => table.Has root))
  obtain ⟨hnodup, hmem⟩ := Breadth.walk_spec (childrenOf table) (hkept.inv hcursor)
  have hedges : (fun a c => c ∈ childrenOf table a) = table.ParentOf := by
    funext a c
    exact propext mem_childrenOf
  rw [subtree_eq]
  refine ⟨hnodup, fun pid => (hmem pid).trans ?_⟩
  rw [hedges, hqueue]
  simp only [mem_foldl_pushNew, List.not_mem_nil, false_or, List.mem_filter, decide_eq_true_eq,
    and_assoc]

end Subtree

/-- **The subtree is reachability.** Without repeats it is what some root in the table reaches, in
whatever order the table is visited, and exactly the roots that are not in the table are blamed. -/
theorem subtree_reaches (roots : List Pid) (table : ProcessTable) (snap : Snapshot) :
    (subtree roots table snap).1.Nodup ∧
    (∀ pid, pid ∈ (subtree roots table snap).1 ↔
      ∃ root ∈ roots, table.Has root ∧ Relation.ReflTransGen table.ParentOf root pid) ∧
    (∀ pid ∈ (subtree roots table snap).1, table.Has pid) ∧
    (∀ table' : ProcessTable, table.Perm table' → ∀ pid,
      pid ∈ (subtree roots table' snap).1 ↔ pid ∈ (subtree roots table snap).1) ∧
    (subtree roots table snap).2 = { snap with unreadable := snap.unreadable
      ++ (roots.filter (fun root => ¬ table.Has root)).map absentRoot } := by
  obtain ⟨hnodup, hmem⟩ := mem_subtree roots table snap
  refine ⟨hnodup, hmem, fun pid hpid => ?_, fun table' hperm pid => ?_, ?_⟩
  · obtain ⟨root, -, hroot, hreach⟩ := (hmem pid).mp hpid
    cases hreach with
    | refl => exact hroot
    | tail _ hstep =>
        obtain ⟨row, hrow, -⟩ := hstep
        exact List.mem_map.mpr ⟨_, hrow, rfl⟩
  · have hhas : ∀ root, table'.Has root ↔ table.Has root := fun root =>
      (hperm.map Prod.fst).mem_iff.symm
    have hedges : table'.ParentOf = table.ParentOf := by
      funext parent child
      refine propext (exists_congr fun row => and_congr_left' ?_)
      exact hperm.mem_iff.symm
    rw [(mem_subtree roots table' snap).2, hmem, hedges]
    simp only [hhas]
  · rw [subtree_eq]

/-- A table in which 1 is its own parent, 2 its child, and 3 the child of a process that is gone. -/
def loopTable : ProcessTable :=
  [(1, ⟨1, [], 0, 0, 2, 0⟩), (2, ⟨1, [], 0, 0, 2, 0⟩), (3, ⟨9, [], 0, 0, 2, 0⟩)]

theorem subtree_reaches_sample :
    2 ∈ (subtree [1, 9, 1] loopTable.reverse Snapshot.new).1 ↔
      2 ∈ (subtree [1, 9, 1] loopTable Snapshot.new).1 :=
  (subtree_reaches [1, 9, 1] loopTable Snapshot.new).2.2.2.1 loopTable.reverse
    (List.reverse_perm loopTable).symm 2

end Osfacts.Darwin
