import Osfacts.Contract.Canonical
import Osfacts.Linux.Os

set_option autoImplicit false

/-! # The first witness of a blindness

A document collects its `U` rows call by call, repeats and all, and collapses them at the end.
Sorting is stable and keyed as the collapsing is, so of each pid and facet the row of the first
call is left: the others neither move it nor replace its errno.
-/

namespace Osfacts

/-! ## Calls -/

/-- One call of `push_unreadable`: the pid, the facet, and the errno it failed with. -/
structure Blindness where
  pid : Pid
  facet : Facet
  err : Errno
  deriving DecidableEq, Repr

/-- Pid, then facet: what a `U` row is sorted and collapsed by. -/
def Unreadable.key (u : Unreadable) : ℕ ×ₗ ℕ := toLex (u.pid.toNat, u.facet.rank)

def Blindness.key (c : Blindness) : ℕ ×ₗ ℕ := toLex (c.pid.toNat, c.facet.rank)

section Libc

variable [Libc]

def Blindness.row (c : Blindness) : Unreadable := ⟨c.pid, c.facet, errnoName c.err⟩

theorem Blindness.key_eq_iff (c : Blindness) (pid : Pid) (facet : Facet) :
    c.key = toLex (pid.toNat, facet.rank) ↔ c.pid = pid ∧ c.facet = facet :=
  unreadableKey_eq_iff c.row pid facet

/-- The making of a document: it starts without `U` rows, then calls of `push_unreadable` come
between other changes, none of which touches the `U` rows. -/
inductive Recorded {D : Type} (unreadable : D → List Unreadable)
    (push : D → Pid → Facet → Errno → D) : List Blindness → D → Prop where
  | start {doc : D} (h : unreadable doc = []) : Recorded unreadable push [] doc
  | push {calls : List Blindness} {doc : D} (c : Blindness)
      (made : Recorded unreadable push calls doc) :
      Recorded unreadable push (calls ++ [c]) (push doc c.pid c.facet c.err)
  | other {calls : List Blindness} {doc doc' : D} (h : unreadable doc' = unreadable doc)
      (made : Recorded unreadable push calls doc) : Recorded unreadable push calls doc'

/-- What the `U` rows say of the calls: they are strictly ordered by pid and facet, they name the
pids and facets of the calls, and each has the errno of the first call for its own. -/
structure FirstWitnesses (calls : List Blindness) (rows : List Unreadable) : Prop where
  increasing : rows.Pairwise (fun u v => u.key < v.key)
  keys : ∀ pid facet, (∃ u ∈ rows, u.pid = pid ∧ u.facet = facet) ↔
    ∃ c ∈ calls, c.pid = pid ∧ c.facet = facet
  errno : ∀ u ∈ rows,
    (calls.find? (fun c => c.pid = u.pid ∧ c.facet = u.facet)).map (fun c => errnoName c.err)
      = some u.errno

/-! ## The rows of the calls -/

theorem firstWitnesses (calls : List Blindness) :
    FirstWitnesses calls (normalizeUnreadable (calls.map Blindness.row)) := by
  have hlt : (normalizeUnreadable (calls.map Blindness.row)).Pairwise
      (fun u v => u.key < v.key) := pairwise_dedup_sort Unreadable.key _
  refine ⟨hlt, fun pid facet => ?_, fun u hu => ?_⟩
  · rw [exists_normalizeUnreadable]
    simp only [List.mem_map, exists_exists_and_eq_and]
    rfl
  · -- the row is the first of its key, and so the row of the first call of that key
    have hfind : (calls.map Blindness.row).find? (fun v => v.key = u.key) = some u := by
      rw [← find_dedup_sort]
      exact find_of_pairwise_lt hlt hu
    have hcalls : (calls.find? (fun c => c.pid = u.pid ∧ c.facet = u.facet)).map Blindness.row
        = some u := by
      rw [← hfind, List.find?_map]
      congr 2
      funext c
      exact decide_eq_decide.mpr (c.key_eq_iff u.pid u.facet).symm
    have herrno := congrArg (Option.map Unreadable.errno) hcalls
    rwa [Option.map_map] at herrno

/-- Calls for different pids or facets can come in any order. -/
theorem normalizeUnreadable_interleave {calls calls' : List Blindness}
    (h : SameRuns Blindness.key calls calls') :
    normalizeUnreadable (calls.map Blindness.row)
      = normalizeUnreadable (calls'.map Blindness.row) := by
  have hsort : sortByKey Unreadable.key (calls.map Blindness.row)
      = sortByKey Unreadable.key (calls'.map Blindness.row) := by
    refine sortByKey_eq_iff.mpr fun k => ?_
    rw [List.filter_map, List.filter_map]
    exact congrArg (List.map Blindness.row) (h k)
  exact congrArg (dedupByKey Unreadable.key) hsort

/-! ## Documents -/

section Documents

variable {D : Type} {unreadable : D → List Unreadable} {push : D → Pid → Facet → Errno → D}

/-- The `U` rows of a document are those of the calls, in their order. -/
theorem Recorded.unreadable_eq
    (hpush : ∀ doc pid facet err,
      unreadable (push doc pid facet err) = pushUnreadableRow (unreadable doc) pid facet err)
    {calls : List Blindness} {doc : D} (h : Recorded unreadable push calls doc) :
    unreadable doc = calls.map Blindness.row := by
  induction h with
  | start h => exact h
  | push c made ih =>
      rw [hpush, ih, List.map_append]
      rfl
  | other h made ih => rw [h, ih]

omit [Libc] in
/-- The calls alone, one after the other. -/
theorem Recorded.foldl {doc : D} (h : unreadable doc = []) (calls : List Blindness) :
    Recorded unreadable push calls
      (calls.foldl (fun doc c => push doc c.pid c.facet c.err) doc) := by
  induction calls using List.reverseRecOn with
  | nil => exact Recorded.start h
  | append_singleton calls c ih =>
      rw [List.foldl_append]
      exact Recorded.push c ih

end Documents

theorem Snapshot.unreadable_normalize {calls : List Blindness} {s : Snapshot}
    (h : Recorded Snapshot.unreadable Snapshot.pushUnreadable calls s) :
    (normalize s).unreadable = normalizeUnreadable (calls.map Blindness.row) :=
  congrArg normalizeUnreadable (h.unreadable_eq fun _ _ _ _ => rfl)

theorem SocketHolders.unreadable_normalize {calls : List Blindness} {s : SocketHolders}
    (h : Recorded SocketHolders.unreadable SocketHolders.pushUnreadable calls s) :
    (normalize s).unreadable = normalizeUnreadable (calls.map Blindness.row) :=
  congrArg normalizeUnreadable (h.unreadable_eq fun _ _ _ _ => rfl)

omit [Libc] in
theorem SocketHolders.normalize_normalize (s : SocketHolders) :
    normalize (normalize s) = normalize s := by
  show { normalize s with
      holders := dedupByKey holderKey (sortByKey holderKey (normalize s).holders)
      procs := sortByKey (fun row : Proc => row.pid.toNat) (normalize s).procs
      unreadable := normalizeUnreadable (normalize s).unreadable } = normalize s
  have hholders : dedupByKey holderKey (sortByKey holderKey (normalize s).holders)
      = (normalize s).holders := dedup_sort_dedup_sort holderKey s.holders
  have hprocs : sortByKey (fun row : Proc => row.pid.toNat) (normalize s).procs
      = (normalize s).procs := sortByKey_sortByKey _ s.procs
  have hunreadable : normalizeUnreadable (normalize s).unreadable = (normalize s).unreadable :=
    dedup_sort_dedup_sort Unreadable.key s.unreadable
  rw [hholders, hprocs, hunreadable]

/-- **The first witness of each blindness.** However the calls came, the normal form of either
document has one `U` row for each pid and facet that was pushed, with the errno of the first of
its calls. Normalising again changes nothing, nor does another order in which the calls of each
pid and facet follow each other as before. -/
theorem normalize_firstWitnesses :
    (∀ {calls : List Blindness} {s : Snapshot},
      Recorded Snapshot.unreadable Snapshot.pushUnreadable calls s →
      FirstWitnesses calls (normalize s).unreadable ∧ normalize (normalize s) = normalize s ∧
      ∀ {calls' : List Blindness} {s' : Snapshot},
        Recorded Snapshot.unreadable Snapshot.pushUnreadable calls' s' →
        SameRuns Blindness.key calls calls' →
        (normalize s').unreadable = (normalize s).unreadable) ∧
    (∀ {calls : List Blindness} {s : SocketHolders},
      Recorded SocketHolders.unreadable SocketHolders.pushUnreadable calls s →
      FirstWitnesses calls (normalize s).unreadable ∧ normalize (normalize s) = normalize s ∧
      ∀ {calls' : List Blindness} {s' : SocketHolders},
        Recorded SocketHolders.unreadable SocketHolders.pushUnreadable calls' s' →
        SameRuns Blindness.key calls calls' →
        (normalize s').unreadable = (normalize s).unreadable) := by
  constructor
  · intro calls s h
    refine ⟨?_, normalize_normalize s, fun h' hruns => ?_⟩
    · rw [Snapshot.unreadable_normalize h]
      exact firstWitnesses calls
    · rw [Snapshot.unreadable_normalize h, Snapshot.unreadable_normalize h',
        normalizeUnreadable_interleave hruns]
  · intro calls s h
    refine ⟨?_, SocketHolders.normalize_normalize s, fun h' hruns => ?_⟩
    · rw [SocketHolders.unreadable_normalize h]
      exact firstWitnesses calls
    · rw [SocketHolders.unreadable_normalize h, SocketHolders.unreadable_normalize h',
        normalizeUnreadable_interleave hruns]

end Libc

/-- Pid 7 refuses its arguments, and is gone when they are asked for again. -/
def refusedThenGone : List Blindness :=
  [⟨7, .argv, Libc.EACCES⟩, ⟨3, .proc, Libc.ESRCH⟩, ⟨7, .argv, Libc.ENOENT⟩]

open Linux in
theorem normalize_firstWitnesses_sample :
    FirstWitnesses refusedThenGone [⟨3, .proc, "ESRCH".toList⟩, ⟨7, .argv, "EACCES".toList⟩] ∧
    (normalize (refusedThenGone.foldl
      (fun s c => s.pushUnreadable c.pid c.facet c.err) SocketHolders.new)).unreadable
      = [⟨3, .proc, "ESRCH".toList⟩, ⟨7, .argv, "EACCES".toList⟩] ∧
    FirstWitnesses refusedThenGone (normalize (refusedThenGone.foldl
      (fun s c => s.pushUnreadable c.pid c.facet c.err) SocketHolders.new)).unreadable := by
  have hsnapshot : Recorded Snapshot.unreadable Snapshot.pushUnreadable refusedThenGone
      (refusedThenGone.foldl (fun s c => s.pushUnreadable c.pid c.facet c.err) Snapshot.new) :=
    Recorded.foldl rfl refusedThenGone
  exact ⟨(normalize_firstWitnesses.1 hsnapshot).1, rfl,
    (normalize_firstWitnesses.2 (Recorded.foldl rfl refusedThenGone)).1⟩

end Osfacts
