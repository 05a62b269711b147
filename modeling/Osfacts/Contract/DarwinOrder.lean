import Osfacts.Contract.ListenerUnion
import Osfacts.Contract.Occupancy
import Osfacts.Contract.Parts

set_option autoImplicit false

/-! # The order of the process table, on darwin

The process table is a map, and visits its keys in an order that changes from run to run. What is
written does not depend on it, except that the walk below a list of roots may find the pids in
another order, and then a listener that two of them have may go to the other one.
-/

namespace Osfacts.Darwin

open Pcblist

/-- The system, with a map that visits its keys in another order. -/
def Os.visiting (os : Os) (order : ProcessTable → ProcessTable)
    (hperm : ∀ table, (order table).Perm table) : Os :=
  { os with tableOrder := order, tableOrder_perm := hperm }

/-- The pids agree on who is the first to be heard with a listener. -/
def SameFirst (walk : Pid → Except Errno (List HostListener)) (P P' : List Pid) : Prop :=
  ∀ key, P.find? (fun pid => (heard walk pid).contains key)
    = P'.find? (fun pid => (heard walk pid).contains key)

/-! ## The table -/

section Table

variable {table table' : ProcessTable} (hperm : table.Perm table')

include hperm

theorem has_congr (pid : Pid) : table.Has pid ↔ table'.Has pid := (hperm.map Prod.fst).mem_iff

theorem bsdRow_congr (hnodup : (table.map Prod.fst).Nodup) : bsdRow table = bsdRow table' := by
  funext pid
  rw [bsdRow, bsdRow, lookup_eq_of_perm hnodup hperm]

theorem absentRoots_congr (scope : Scope) : absentRoots scope table = absentRoots scope table' := by
  cases scope with
  | host => rfl
  | pids pids => rfl
  | roots roots => simp only [absentRoots, has_congr hperm]

/-- The same pids are wanted, in the same order unless roots were asked. -/
theorem wanted_perm (scope : Scope) :
    (wanted scope table).Perm (wanted scope table') ∧
      ((∀ roots, scope ≠ .roots roots) → wanted scope table = wanted scope table') := by
  cases scope with
  | host =>
      have hsame : wanted .host table = wanted .host table' :=
        sortByKey_eq_of_injective (fun _ _ => UInt32.toNat_inj.mp) (hperm.map Prod.fst)
      exact ⟨hsame ▸ .refl _, fun _ => hsame⟩
  | pids pids => exact ⟨.refl _, fun _ => rfl⟩
  | roots roots =>
      obtain ⟨hnodup, hmem⟩ := mem_subtree roots table Snapshot.new
      obtain ⟨hnodup', hmem'⟩ := mem_subtree roots table' Snapshot.new
      have hedges : table.ParentOf = table'.ParentOf := by
        funext parent child
        refine propext (exists_congr fun row => and_congr_left' ?_)
        exact hperm.mem_iff
      refine ⟨(List.perm_ext_iff_of_nodup hnodup hnodup').mpr fun pid => ?_,
        fun hno => absurd rfl (hno roots)⟩
      rw [hmem, hmem', hedges]
      simp only [has_congr hperm]

end Table

/-! ## Listeners -/

section Listeners

variable {walk : Pid → Except Errno (List HostListener)} {P P' : List Pid}

theorem claimsOf_isEmpty_congr (h : ∀ pid, pid ∈ P ↔ pid ∈ P') :
    (claimsOf walk P).isEmpty = (claimsOf walk P').isEmpty := by
  have hkeys : ∀ pids : List Pid, (claimsOf walk pids).isEmpty = true ↔
      ∀ key, ¬ ∃ pid ∈ pids, decide (key ∈ heard walk pid) = true := by
    intro pids
    simp only [← mem_keys_claimsOf, List.isEmpty_iff, ← List.eq_nil_iff_forall_not_mem,
      List.map_eq_nil_iff]
  rw [Bool.eq_iff_iff, hkeys, hkeys]
  simp only [h]

/-- Who a listener goes to says who has it first. -/
theorem attribution_injective :
    Function.Injective (fun who : Option Pid => who.elim Attribution.unclaimed .claimed) := by
  intro a b h
  cases a <;> cases b <;> simp_all

/-- The listeners of two lists of the same pids are the same exactly where each has the same first
pid. -/
theorem ports_eq_iff (rows : List HostListener) (h : ∀ pid, pid ∈ P ↔ pid ∈ P') :
    sortByKey portKey (attributeHostListeners rows (claimsOf walk P))
        = sortByKey portKey (attributeHostListeners rows (claimsOf walk P')) ↔
      SameFirst walk P P' := by
  have hnodup : ∀ pids, ((claimsOf walk pids).map Prod.fst).Nodup := fun pids =>
    nodup_keys_claimAll (heard walk) pids (by simp)
  unfold SameFirst
  simp only [List.contains_eq_mem]
  constructor
  · intro hsame key
    have hlists : (attributeHostListeners rows (claimsOf walk P)).Perm
        (attributeHostListeners rows (claimsOf walk P')) :=
      (sortByKey_perm portKey _).symm.trans (hsame ▸ sortByKey_perm portKey _)
    by_cases hlisted : Listed walk rows P key
    · obtain ⟨key', -, hrow⟩ := mem_ports.mp (hlists.mem_iff.mp (mem_ports.mpr ⟨key, hlisted, rfl⟩))
      rw [attributedRow, attributedRow, Port.mk.injEq] at hrow
      obtain ⟨hattr, -, hport, haddress⟩ := hrow
      obtain rfl : key = key' := Prod.ext hport haddress
      exact attribution_injective hattr
    · -- a listener that no pid has has no first
      rw [Listed, not_or] at hlisted
      have hnone : ∀ pids : List Pid, (∀ pid, pid ∈ pids ↔ pid ∈ P) →
          pids.find? (fun pid => decide (key ∈ heard walk pid)) = none := by
        intro pids hpids
        rw [List.find?_eq_none]
        exact fun pid hpid hheard => hlisted.2 ⟨pid, (hpids pid).mp hpid, hheard⟩
      rw [hnone P (fun _ => Iff.rfl), hnone P' (fun pid => (h pid).symm)]
  · intro hfirst
    have hclaims : (claimsOf walk P).Perm (claimsOf walk P') := by
      refine (List.perm_ext_iff_of_nodup (hnodup P).of_map (hnodup P').of_map).mpr ?_
      rintro ⟨key, pid⟩
      rw [mem_iff_lookup (hnodup P), mem_iff_lookup (hnodup P'), lookup_claimsOf, lookup_claimsOf,
        hfirst key]
    rw [attributeHostListeners_congr (hnodup P) (.refl rows) hclaims]

end Listeners

/-! ## Both verbs -/

section Verbs

variable {os : Os} {order : ProcessTable → ProcessTable}
  {hperm : ∀ table, (order table).Perm table}

theorem readProcessTable_eq (os : Os) :
    readProcessTable os = (os.kernProcAll.bind decodeProcessTable).map os.tableOrder := by
  unfold readProcessTable
  cases os.kernProcAll with
  | error err => rfl
  | ok bytes =>
      rw [ok_bind, Except.bind]
      cases decodeProcessTable bytes <;> rfl

/-- The table fails alike, or is read with the same rows. -/
theorem readProcessTable_visiting :
    (∃ err, readProcessTable os = .error err ∧
      readProcessTable (os.visiting order hperm) = .error err) ∨
    ∃ table table', readProcessTable os = .ok table ∧
      readProcessTable (os.visiting order hperm) = .ok table' ∧ table.Perm table' := by
  rw [readProcessTable_eq, readProcessTable_eq]
  show (∃ err, _ ∧ (os.kernProcAll.bind decodeProcessTable).map order = _) ∨
    ∃ table table', _ ∧ (os.kernProcAll.bind decodeProcessTable).map order = _ ∧ _
  cases os.kernProcAll.bind decodeProcessTable with
  | error err => exact Or.inl ⟨err, rfl, rfl⟩
  | ok table => exact Or.inr ⟨_, _, rfl, rfl, (os.tableOrder_perm table).trans (hperm table).symm⟩

/-- What is read of a pid depends on the rows of the table alone. -/
theorem survey_visiting (args : SnapshotArgs) {table table' : ProcessTable}
    (htable : readProcessTable os = .ok table) (hrows : table.Perm table') :
    (survey os args table).Within (survey (os.visiting order hperm) args table') := by
  have hnodup := (readProcessTable_pids htable).1
  have hread : reading os args table (timebaseOf os args)
      = reading (os.visiting order hperm) args table'
          (timebaseOf (os.visiting order hperm) args) := by
    have hrow := bsdRow_congr hrows hnodup
    funext pid f
    cases f <;> simp only [reading, readStatus, hrow] <;> rfl
  have hthreads : threadsErrno os args table
      = threadsErrno (os.visiting order hperm) args table' := by
    funext pid
    simp only [threadsErrno, readStatus, bsdRow_congr hrows hnodup]
    rfl
  refine ⟨(wanted_perm hrows args.scope).1.subset, fun pid _ f => ?_, fun pid _ facet => ?_⟩
  · exact congrFun (congrFun hread pid) f
  · show blindSpots _ (walkErrno os args pid) _ facet
      = blindSpots _ (walkErrno os args pid)
          (threadsErrno (os.visiting order hperm) args table' pid) facet
    rw [hread, hthreads]

theorem surveyErrors_visiting (args : SnapshotArgs) {table table' : ProcessTable}
    (hrows : table.Perm table') :
    surveyErrors os args table = surveyErrors (os.visiting order hperm) args table' := by
  have hempty : (claimsOf (listenerClaims os) (wanted args.scope table)).isEmpty
      = (claimsOf (listenerClaims os) (wanted args.scope table')).isEmpty :=
    claimsOf_isEmpty_congr fun pid => (wanted_perm hrows args.scope).1.mem_iff
  have hports : portErrors (listenerClaims os) (hostListeners os) (wanted args.scope table)
      = portErrors (listenerClaims os) (hostListeners os) (wanted args.scope table') := by
    unfold portErrors
    rw [hempty]
  unfold surveyErrors
  rw [hports]
  rfl

/-- The answer for a list of holders. -/
def answerOf (os : Os) (table : ProcessTable) (procs : Bool) (claimed : List Pid) :
    SocketHolders :=
  if claimed.isEmpty then
    { SocketHolders.new with errors := [blindOrEmpty "darwin_proc_fds" .socketHolders] }
  else
    { SocketHolders.new with
      holders := claimed.map .claimed
      procs := if procs then claimed.filterMap (holderProc os table) else [] }

/-- Distinct holders have distinct rows of identity. -/
theorem nodup_holderProc {claimed : List Pid} {table : ProcessTable} (h : claimed.Nodup) :
    ((claimed.filterMap (holderProc os table)).map (fun row => row.pid.toNat)).Nodup := by
  have hpid : ∀ pid row, holderProc os table pid = some row → row.pid = pid := by
    intro pid row hrow
    obtain ⟨bsd, -, rfl⟩ := Option.map_eq_some_iff.mp hrow
    rfl
  rw [List.map_filterMap]
  refine h.filterMap fun pid pid' n hn hn' => ?_
  obtain ⟨row, hrow, rfl⟩ := Option.map_eq_some_iff.mp hn
  obtain ⟨row', hrow', hsame⟩ := Option.map_eq_some_iff.mp hn'
  rw [← hpid pid row hrow, ← hpid pid' row' hrow', UInt32.toNat_inj.mp hsame]

/-- The holders are sorted, and so are their identities. -/
theorem normalize_answerOf {claimed claimed' : List Pid} {table table' : ProcessTable}
    (hclaimed : claimed.Perm claimed') (hnodup : claimed.Nodup)
    (hproc : holderProc os table = holderProc os table') (procs : Bool) :
    normalize (answerOf os table procs claimed)
      = normalize (answerOf os table' procs claimed') := by
  have hempty : claimed.isEmpty = claimed'.isEmpty := by
    rw [Bool.eq_iff_iff, List.isEmpty_iff, List.isEmpty_iff]
    exact ⟨fun h => (h ▸ hclaimed).nil_eq.symm, fun h => (h ▸ hclaimed).eq_nil⟩
  have hholders : sortByKey holderKey (claimed.map .claimed)
      = sortByKey holderKey (claimed'.map .claimed) :=
    sortByKey_eq_of_injective holderKey_injective (hclaimed.map _)
  have hprocs := sortByKey_eq_of_perm (hclaimed.filterMap (holderProc os table'))
    (nodup_holderProc hnodup)
  unfold answerOf
  rw [hempty, hproc]
  split_ifs
  · rfl
  · simp only [normalize, hholders, hprocs]
  · simp only [normalize, hholders]

theorem socketHolders_visiting (ask : SocketHoldersArgs) :
    normalize (socketHolders os ask) = normalize (socketHolders (os.visiting order hperm) ask) := by
  have hread : (∃ err, readProcessTable os = .error err ∧
      readProcessTable (os.visiting order hperm) = .error err) ∨
      ∃ table table', readProcessTable os = .ok table ∧
        readProcessTable (os.visiting order hperm) = .ok table' ∧ table.Perm table' :=
    readProcessTable_visiting
  unfold socketHolders
  rcases hread with ⟨err, hr, hr'⟩ | ⟨table, table', hr, hr', hrows⟩
  · rw [hr, hr']
  · rw [hr, hr']
    have hnodup := (readProcessTable_pids hr).1
    have hproc : holderProc os table = holderProc os table' := by
      funext pid
      rw [holderProc, holderProc, lookup_eq_of_perm hnodup hrows]
    exact normalize_answerOf ((hrows.map Prod.fst).filter _) (hnodup.filter _) hproc ask.procs

end Verbs

/-- The subtree of process 7 and its listeners. -/
def subtreeArgs : SnapshotArgs := { memoryArgs with scope := .roots [7], ports := true }

end Osfacts.Darwin
