import Osfacts.Cli.Parse
import Osfacts.Contract.Canonical

set_option autoImplicit false

/-! # Asking about a list of pids

When do two lists with the same pids get the same document? The `U` rows depend on the set
only. A fact row is written once for each time its pid is listed, and a listener goes to the
first pid of the list that holds its socket.
-/

namespace Osfacts

/-- The ask with its scope replaced by a list of pids. -/
def SnapshotArgs.ofPids (args : SnapshotArgs) (pids : List Pid) : SnapshotArgs :=
  { args with scope := .pids pids }

namespace Linux

variable (os : Os) (args : SnapshotArgs)

theorem selected_ofPids (pids : List Pid) : selected os (args.ofPids pids) = .ok pids := rfl

theorem collectionRows_ofPids (pids : List Pid) : collectionRows os (args.ofPids pids) = [] := rfl

/-- What is read of a pid does not depend on the list it was asked in. -/
theorem reading_ofPids (pids : List Pid) (pid : Pid) (f : Flag) :
    reading os (args.ofPids pids) (constants os (args.ofPids pids)) pid f
      = reading os args (constants os args) pid f := by
  cases f <;> rfl

theorem table_ofPids (pids : List Pid) {f : Flag} (hf : f ≠ .ports) :
    (snapshot os (args.ofPids pids)).table f
      = pids.flatMap (fun pid => facts (reading os args (constants os args) pid f)) := by
  rw [(snapshot_eq (selected_ofPids os args pids)).1 f hf]
  simp only [reading_ofPids]

theorem ports_ofPids (pids : List Pid) :
    (snapshot os (args.ofPids pids)).ports = portRows os args pids :=
  (snapshot_eq (selected_ofPids os args pids)).2.1

/-! ## The `U` rows -/

theorem mem_unreadable_ofPids (pids : List Pid) (u : Unreadable) :
    u ∈ (snapshot os (args.ofPids pids)).unreadable ↔ ∃ pid ∈ pids,
      (∃ f err, f ≠ Flag.ports ∧ reading os args (constants os args) pid f = some (.error err) ∧
        u = ⟨pid, f.facet, errnoName err⟩) ∨
      (args.ports = true ∧ (∃ ls, loadListeners os = .ok ls) ∧
        ∃ err, socketInodes os pid = .error err ∧ u = ⟨pid, .ports, errnoName err⟩) := by
  rw [mem_unreadable (selected_ofPids os args pids), mem_portBlame, collectionRows_ofPids]
  simp only [reading_ofPids, List.not_mem_nil, false_or]
  constructor
  · rintro (⟨pid, hpid, h⟩ | ⟨hports, hload, pid, hpid, h⟩)
    · exact ⟨pid, hpid, Or.inl h⟩
    · exact ⟨pid, hpid, Or.inr ⟨hports, hload, h⟩⟩
  · rintro ⟨pid, hpid, h | ⟨hports, hload, h⟩⟩
    · exact Or.inl ⟨pid, hpid, h⟩
    · exact Or.inr ⟨hports, hload, pid, hpid, h⟩

/-- One pid fails one facet with one errno. -/
theorem oneErrno_ofPids (pids : List Pid) :
    OneErrno (snapshot os (args.ofPids pids)).unreadable := by
  intro u hu v hv hpid hfacet
  obtain ⟨p, -, hu⟩ := (mem_unreadable_ofPids os args pids u).mp hu
  obtain ⟨q, -, hv⟩ := (mem_unreadable_ofPids os args pids v).mp hv
  rcases hu with ⟨f, err, hf, hr, rfl⟩ | ⟨-, -, err, hr, rfl⟩ <;>
    rcases hv with ⟨g, err', hg, hr', rfl⟩ | ⟨-, -, err', hr', rfl⟩ <;>
    obtain rfl : p = q := hpid
  · obtain rfl : f = g := Flag.facet_injective hfacet
    rw [hr, Option.some.injEq, Except.error.injEq] at hr'
    rw [hr']
  · exact absurd (Flag.eq_ports hfacet.symm) hf
  · exact absurd (Flag.eq_ports hfacet) hg
  · rw [hr, Except.error.injEq] at hr'
    rw [hr']

theorem unreadable_ofPids {xs ys : List Pid} (h : ∀ pid, pid ∈ xs ↔ pid ∈ ys) :
    normalizeUnreadable (snapshot os (args.ofPids xs)).unreadable
      = normalizeUnreadable (snapshot os (args.ofPids ys)).unreadable := by
  apply normalizeUnreadable_eq_of_mem_iff (oneErrno_ofPids os args xs)
  intro u
  simp only [mem_unreadable_ofPids, h]

/-! ## The fact rows -/

/-- A pid with a fact row is listed equally often in both lists. -/
def SameRepeats (xs ys : List Pid) : Prop :=
  ∀ pid f, (∃ row, reading os args (constants os args) pid f = some (.ok row)) →
    xs.count pid = ys.count pid

theorem facts_ne_nil_iff {α : Type} {r : Option (Except Errno α)} :
    facts r ≠ [] ↔ ∃ row, r = some (.ok row) := by
  cases r with
  | none => simp [facts]
  | some r => cases r <;> simp [facts]

theorem table_ofPids_eq_iff (xs ys : List Pid) {f : Flag} (hf : f ≠ .ports) :
    (normalize (snapshot os (args.ofPids xs))).table f
        = (normalize (snapshot os (args.ofPids ys))).table f ↔
      ∀ pid, (∃ row, reading os args (constants os args) pid f = some (.ok row)) →
        xs.count pid = ys.count pid := by
  obtain ⟨key, htable, hkey⟩ := exists_pidKey hf
  have hown : ∀ pid, ∀ row ∈ facts (reading os args (constants os args) pid f),
      f.pidOf row = some pid := fun pid row hrow => pidOf_of_reading (mem_facts.mp hrow)
  rw [htable, htable, table_ofPids os args xs hf, table_ofPids os args ys hf, sortByKey_eq_iff,
    sameRuns_pid_iff hkey]
  simp only [filter_flatMap_eq_iff hown, facts_ne_nil_iff]

/-! ## The listeners -/

/-- Every listener has the same first holder in both lists. -/
def SameHolders (xs ys : List Pid) : Prop :=
  args.ports = true → ∀ listeners, loadListeners os = .ok listeners →
    ∀ listener ∈ listeners, holder os xs listener.inode = holder os ys listener.inode

/-- The listeners a list of pids attributes to a pid are those it holds first. -/
theorem countP_claimed (pids : List Pid) (listeners : List Listener) (pid : Pid) :
    (listeners.map (portOfListener (claimsOf os pids))).countP
        (fun row => row.attribution = .claimed pid)
      = listeners.countP (fun listener => holder os pids listener.inode = some pid) := by
  rw [List.countP_map]
  apply List.countP_congr
  intro listener _
  simp only [Function.comp_apply, portOfListener, lookup_claimsOf, decide_eq_true_eq]
  cases holder os pids listener.inode with
  | none => simp
  | some p => simp

theorem ports_ofPids_eq_iff (xs ys : List Pid) :
    sortByKey portKey (portRows os args xs) = sortByKey portKey (portRows os args ys) ↔
      SameHolders os args xs ys := by
  unfold SameHolders portRows
  cases args.ports with
  | false => simp
  | true =>
      cases hload : loadListeners os with
      | error e => simp
      | ok listeners =>
          simp only [true_implies, Except.ok.injEq, forall_eq']
          constructor
          · -- equal documents give every pid equally many listeners
            intro h
            have hperm : (listeners.map (portOfListener (claimsOf os xs))).Perm
                (listeners.map (portOfListener (claimsOf os ys))) :=
              (sortByKey_perm portKey _).symm.trans (h ▸ sortByKey_perm portKey _)
            have hcount : ∀ pid,
                listeners.countP (fun listener => holder os xs listener.inode = some pid)
                  = listeners.countP (fun listener => holder os ys listener.inode = some pid) := by
              intro pid
              rw [← countP_claimed, ← countP_claimed]
              exact hperm.countP_eq _
            exact claim_eq_of_count_eq
              (fun (listener : Listener) pid => decide (listener.inode ∈ heldInodes os pid))
              xs ys listeners hcount
          · intro h
            congr 1
            apply List.map_congr_left
            intro listener hmem
            rw [portOfListener, portOfListener, lookup_claimsOf, lookup_claimsOf, h listener hmem]

/-! ## The document -/

/-- **Two lists of the same pids.** They get the same document exactly when every pid with a fact
row is listed equally often, and every listener has the same first holder. -/
theorem snapshot_pids_iff (J : JsonLib) {xs ys : List Pid} (h : ∀ pid, pid ∈ xs ↔ pid ∈ ys) :
    (normalize (snapshot os (args.ofPids xs)) = normalize (snapshot os (args.ofPids ys)) ∧
      writeTsv J (normalize (snapshot os (args.ofPids xs)))
        = writeTsv J (normalize (snapshot os (args.ofPids ys)))) ↔
      SameRepeats os args xs ys ∧ SameHolders os args xs ys := by
  obtain ⟨-, -, -, hxerrors, hxversion⟩ := snapshot_eq (selected_ofPids os args xs)
  obtain ⟨-, -, -, hyerrors, hyversion⟩ := snapshot_eq (selected_ofPids os args ys)
  have hports : (normalize (snapshot os (args.ofPids xs))).ports
        = (normalize (snapshot os (args.ofPids ys))).ports ↔ SameHolders os args xs ys := by
    rw [ports_normalize, ports_normalize, ports_ofPids, ports_ofPids]
    exact ports_ofPids_eq_iff os args xs ys
  constructor
  · rintro ⟨heq, -⟩
    refine ⟨fun pid f hrow => ?_, hports.mp (by rw [heq])⟩
    by_cases hf : f = .ports
    · obtain ⟨row, hrow⟩ := hrow
      subst hf
      cases hrow
    · exact (table_ofPids_eq_iff os args xs ys hf).mp (by rw [heq]) pid hrow
  · rintro ⟨hrepeats, hholders⟩
    have heq : normalize (snapshot os (args.ofPids xs))
        = normalize (snapshot os (args.ofPids ys)) := by
      refine Snapshot.eq_of_tables (hxversion.trans hyversion.symm) (fun f => ?_)
        (unreadable_ofPids os args h) (hxerrors.trans hyerrors.symm)
      by_cases hf : f = .ports
      · subst hf
        exact hports.mpr hholders
      · exact (table_ofPids_eq_iff os args xs ys hf).mpr fun pid hrow => hrepeats pid f hrow
    exact ⟨heq, by rw [heq]⟩

/-- The memory of a process, asked about once, twice, and beside one that is gone. -/
def memoryArgs : SnapshotArgs := { SnapshotArgs.default with mem := true }

theorem snapshot_pids_sample :
    normalize (snapshot sampleOs (memoryArgs.ofPids [7, 9]))
      = normalize (snapshot sampleOs (memoryArgs.ofPids [9, 7])) :=
  ((snapshot_pids_iff sampleOs memoryArgs JsonLib.standard
      (fun _ => (List.Perm.swap 9 7 []).mem_iff.symm)).mpr
    ⟨fun _ _ _ => (List.Perm.swap 9 7 []).symm.count_eq _, fun hports => nomatch hports⟩).1

/-- `--pids 7,7` writes the memory of pid 7 twice. -/
theorem repeated_pid :
    parsePidList (ascii "7,7") = .ok [7, 7] ∧ parsePidList (ascii "7") = .ok [7] ∧
      (∀ pid, pid ∈ [7, 7] ↔ pid ∈ ([7] : List Pid)) ∧
      normalize (snapshot sampleOs (memoryArgs.ofPids [7, 7]))
        ≠ normalize (snapshot sampleOs (memoryArgs.ofPids [7])) := by
  refine ⟨rfl, rfl, fun _ => by simp, fun heq => ?_⟩
  have htable := congrArg (fun s => Snapshot.table s .mem) heq
  have hcount := (table_ofPids_eq_iff sampleOs memoryArgs [7, 7] [7] (by decide)).mp htable 7
    ⟨⟨7, 102400⟩, rfl⟩
  exact absurd hcount (by decide)

end Linux

end Osfacts
