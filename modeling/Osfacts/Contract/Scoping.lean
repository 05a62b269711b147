import Osfacts.Client.Ask
import Osfacts.Contract.Account
import Osfacts.Contract.Roots

set_option autoImplicit false

/-! # No silent absence

A consumer that keeps only the `U` and `E` rows its own ask can be answered with still learns
something about every pid it named. The one exception is a root that does not exist: it is
reported against `proc` alone, whatever was asked.
-/

namespace Osfacts.Linux

open Client

/-- The pids an ask names; under host scope, those that `/proc` lists. -/
def Named (os : Os) : Scope → Pid → Prop
  | .host, pid => ∃ entries, os.readDir "/proc".toList = .ok entries ∧
      ∃ name, Except.ok name ∈ entries ∧ pidOfName name = some pid
  | .roots roots, pid => pid ∈ roots
  | .pids pids, pid => pid ∈ pids

/-- The document says something about a pid that an ask of `f` alone can be answered with. -/
def Accounted (doc : Snapshot) (pid : Pid) (f : Flag) : Prop :=
  (∃ row ∈ doc.table f, f.pidOf row = some pid) ∨
  (∃ u ∈ doc.unreadable, u.pid = pid ∧
    u.facet.asStr ∈ (snapshotFacetNames (.only f)).unreadable) ∨
  ∃ e ∈ doc.errors, e.facet.asStr ∈ (snapshotFacetNames (.only f)).source

/-- An `E` row against the flag's facet. -/
theorem accounted_of_error {doc : Snapshot} {pid : Pid} {f : Flag}
    (h : ∃ e ∈ doc.errors, e.facet = f.facet) : Accounted doc pid f := by
  obtain ⟨e, he, hfacet⟩ := h
  refine Or.inr (Or.inr ⟨e, he, ?_⟩)
  rw [hfacet]
  exact facet_mem_source.mpr rfl

/-- A `U` row against the flag's facet. -/
theorem accounted_of_blame {doc : Snapshot} {pid : Pid} {f : Flag}
    (h : ∃ u ∈ doc.unreadable, u.pid = pid ∧ u.facet = f.facet) : Accounted doc pid f := by
  obtain ⟨u, hu, hpid, hfacet⟩ := h
  refine Or.inr (Or.inl ⟨u, hu, hpid, ?_⟩)
  rw [hfacet]
  exact facet_mem_unreadable.mpr rfl

section Document

variable {os : Os} {args : SnapshotArgs} {pids : List Pid}

/-- A selected pid is accounted for every asked flag. -/
theorem accounted_of_selected (hsel : selected os args = .ok pids) {pid : Pid}
    (hpid : pid ∈ pids) {f : Flag} (hf : f ≠ .ports) (hask : args.asks f = true) :
    Accounted (normalize (snapshot os args)) pid f := by
  by_cases hfailed : constantFailed os f = true
  · exact accounted_of_error ((exists_error_iff hsel hf).mpr ⟨hask, hfailed⟩)
  · have hsome := reading_isSome os args pid hf
    rw [hask, Bool.true_and, Bool.eq_false_iff.mpr hfailed, Bool.not_false] at hsome
    obtain ⟨r, hr⟩ := Option.isSome_iff_exists.mp hsome
    cases r with
    | ok row =>
        refine Or.inl ⟨row, (table_normalize_perm _ f).mem_iff.mpr ?_, pidOf_of_reading hr⟩
        rw [(snapshot_eq hsel).1 f hf]
        exact List.mem_flatMap.mpr ⟨pid, hpid, mem_facts.mpr hr⟩
    | error err =>
        apply accounted_of_blame
        apply (exists_normalizeUnreadable _ pid f.facet).mpr
        exact ⟨⟨pid, f.facet, errnoName err⟩,
          (mem_unreadable hsel).mpr (Or.inr (Or.inl ⟨pid, hpid, f, err, hf, hr, rfl⟩)), rfl, rfl⟩

/-- A failed listing of `/proc` accounts for every pid. -/
theorem accounted_of_listing {err : Errno} (hsel : selected os args = .error err) (pid : Pid)
    {f : Flag} (hask : args.asks f = true) :
    Accounted (normalize (snapshot os args)) pid f := by
  apply accounted_of_error
  rw [errors_normalize, snapshot_of_error hsel]
  exact ⟨sourceError "proc_readdir" f.facet err,
    List.mem_map_of_mem (mem_askedFacets.mpr ⟨f, hask, rfl⟩), rfl⟩

/-- Every entry of a listing that succeeds is selected. -/
theorem mem_hostPids {entries : List (Except Errno Bytes)} {name : Bytes} {pid : Pid}
    (hpids : hostPids os = .ok pids) (hdir : os.readDir "/proc".toList = .ok entries)
    (hname : Except.ok name ∈ entries) (hpid : pidOfName name = some pid) : pid ∈ pids := by
  obtain ⟨entries', names, hdir', hnames, rfl⟩ := hostPids_ok hpids
  obtain rfl : entries = entries' := Except.ok.inj (hdir.symm.trans hdir')
  rw [Os.eq_map_ok_of_mapM_id hnames, List.mem_map] at hname
  obtain ⟨name', hmem, heq⟩ := hname
  cases heq
  exact mem_sortByKey.mpr (List.mem_filterMap.mpr ⟨name, hmem, hpid⟩)

/-! ## Roots -/

theorem selected_of_roots {roots : List Pid} (hscope : args.scope = .roots roots) :
    selected os args = .ok (collectRoots (graphOf os) roots []).out ∧
      collectionRows os args = (collectRoots (graphOf os) roots []).unreadable := by
  rw [selected, collectionRows, hscope]
  exact ⟨rfl, rfl⟩

/-- What is said about a missing root comes from its `U proc` row or from an `E` row. -/
theorem accounted_missing {roots : List Pid} (hscope : args.scope = .roots roots) {r : Pid}
    (hr : MissingRoot (graphOf os) roots r) {f : Flag} (hf : f ≠ .ports)
    (hask : args.asks f = true) :
    Accounted (normalize (snapshot os args)) r f ↔ f = .procs ∨ constantFailed os f = true := by
  obtain ⟨hsel, hrows⟩ := selected_of_roots hscope
  have hout : r ∉ (collectRoots (graphOf os) roots []).out := mem_seen_iff_out.2 hr
  constructor
  · -- a missing root is not selected, so it has no fact, and the loops over the pids skip it
    rintro (⟨row, hrow, hpid⟩ | ⟨u, hu, hpid, hfacet⟩ | ⟨e, he, hfacet⟩)
    · exact absurd (pidOf_mem hsel ((table_normalize_perm _ f).mem_iff.mp hrow) hpid) hout
    · rcases (mem_unreadable hsel).mp (mem_of_mem_normalizeUnreadable hu) with
        hu | ⟨p, hp, g, err, -, -, rfl⟩ | hu
      · rw [hrows, mem_unreadable_collectRoots] at hu
        have hproc : u.facet = Flag.procs.facet := by
          rcases hu with ⟨s, -, rfl⟩ | ⟨s, err, -, rfl⟩ <;> rfl
        rw [hproc, facet_mem_unreadable] at hfacet
        exact Or.inl hfacet.symm
      · obtain rfl : p = r := hpid
        exact absurd hp hout
      · obtain ⟨-, -, p, hp, err, -, rfl⟩ := mem_portBlame.mp hu
        obtain rfl : p = r := hpid
        exact absurd hp hout
    · obtain ⟨g, -, hg⟩ := error_asked hsel he
      rw [hg, facet_mem_source] at hfacet
      subst hfacet
      exact Or.inr ((exists_error_iff hsel hf).mp ⟨e, he, hg⟩).2
  · rintro (rfl | hfailed)
    · apply accounted_of_blame
      apply (exists_normalizeUnreadable _ r .proc).mpr
      refine ⟨⟨r, .proc, errnoName Libc.ENOENT⟩, (mem_unreadable hsel).mpr (Or.inl ?_), rfl, rfl⟩
      rw [hrows]
      exact mem_unreadable_collectRoots.mpr (Or.inl ⟨r, hr, rfl⟩)
    · exact accounted_of_error ((exists_error_iff hsel hf).mpr ⟨hask, hfailed⟩)

theorem mem_of_missingRoot {g : ProcGraph} {roots : List Pid} {r : Pid}
    (h : MissingRoot g roots r) : r ∈ roots := by
  obtain ⟨c, ⟨⟨pre, post, rfl, -⟩, -⟩, -⟩ := h
  simp

end Document

/-! ## The scoped consumer -/

/-- A missing root is covered when nothing else than `procs` was asked of it, or an `E` row
speaks for the flag. -/
def MissingRootsCovered (os : Os) (args : SnapshotArgs) : Prop :=
  ∀ roots, args.scope = .roots roots → ∀ r, MissingRoot (graphOf os) roots r →
    ∀ f, f ≠ Flag.ports → args.asks f = true → f = .procs ∨ constantFailed os f = true

/-- **No silent absence.** Every pid an ask names is accounted for every flag asked, exactly
when the ask's missing roots are covered. -/
theorem snapshot_accounted_iff (os : Os) (args : SnapshotArgs) :
    (∀ pid, Named os args.scope pid → ∀ f, f ≠ Flag.ports → args.asks f = true →
      Accounted (normalize (snapshot os args)) pid f) ↔ MissingRootsCovered os args := by
  constructor
  · intro h roots hscope r hr f hf hask
    apply (accounted_missing hscope hr hf hask).mp
    apply h r _ f hf hask
    rw [hscope]
    exact mem_of_missingRoot hr
  · intro h pid hnamed f hf hask
    cases hscope : args.scope with
    | host =>
        have hsel : selected os args = hostPids os := by rw [selected, hscope]; rfl
        cases hpids : hostPids os with
        | error err => exact accounted_of_listing (hsel.trans hpids) pid hask
        | ok pids =>
            rw [hscope] at hnamed
            obtain ⟨entries, hdir, name, hname, hpid⟩ := hnamed
            exact accounted_of_selected (hsel.trans hpids)
              (mem_hostPids hpids hdir hname hpid) hf hask
    | pids pids =>
        rw [hscope] at hnamed
        have hsel : selected os args = .ok pids := by rw [selected, hscope]; rfl
        exact accounted_of_selected hsel hnamed hf hask
    | roots roots =>
        rw [hscope] at hnamed
        have hseen : pid ∈ (collectRoots (graphOf os) roots []).seen :=
          mem_seen_collectRoots.mpr (Or.inl hnamed)
        -- a root is returned by the walks, or missing
        rcases mem_seen_iff_out.1.mp hseen with hout | hmissing
        · exact accounted_of_selected (selected_of_roots hscope).1 hout hf hask
        · exact (accounted_missing hscope hmissing hf hask).mpr
            (h roots hscope pid hmissing f hf hask)

/-- The memory of a root that does not exist. -/
def goneArgs : SnapshotArgs := { SnapshotArgs.default with scope := .roots [9], mem := true }

/-- Nothing in the document says that the memory of root 9 is unknown. -/
theorem snapshot_gone_silent :
    ¬ ∀ pid, Named sampleOs goneArgs.scope pid → ∀ f, f ≠ Flag.ports → goneArgs.asks f = true →
      Accounted (normalize (snapshot sampleOs goneArgs)) pid f := by
  intro h
  have hmissing : MissingRoot (graphOf sampleOs) [9] 9 :=
    ⟨collectRoots (graphOf sampleOs) [] [], ⟨⟨[], [], rfl, rfl⟩, Finset.notMem_empty 9⟩, rfl⟩
  have hflag := (accounted_missing rfl hmissing (by decide) rfl).mp
    (h 9 List.mem_cons_self .mem (by decide) rfl)
  exact absurd hflag (by decide)

end Osfacts.Linux
