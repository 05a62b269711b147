import Osfacts.Contract.HostCalls
import Osfacts.Contract.IdentityCalls
import Osfacts.Contract.Kinfo
import Osfacts.Contract.LinuxOrder

set_option autoImplicit false

/-! # The processes below a root

What an ask for roots is about, on whatever system: a forest, which says who is alive and who is
whose child. Linux sees it a directory at a time, with a stack and a set of seen pids that all
roots share; darwin sees it in one table, with a queue. Both documents are about the same
processes: those below a root that is alive. A root that is not alive is blamed, and no one else.
-/

namespace Osfacts

/-- Who is alive, and who is whose child. -/
structure Forest where
  Alive : Pid → Prop
  Child : Pid → Pid → Prop
  alive_of_child : ∀ {a c}, Child a c → Alive c

/-- A root that is alive, or a process below one. -/
def Forest.Below (forest : Forest) (roots : List Pid) (pid : Pid) : Prop :=
  ∃ root ∈ roots, forest.Alive root ∧ Relation.ReflTransGen forest.Child root pid

section Below

variable {forest : Forest} {roots : List Pid} {pid : Pid}

theorem Forest.Below.alive (h : forest.Below roots pid) : forest.Alive pid := by
  obtain ⟨root, -, halive, hreach⟩ := h
  cases hreach with
  | refl => exact halive
  | tail _ hchild => exact forest.alive_of_child hchild

theorem Forest.below_root (hpid : pid ∈ roots) (halive : forest.Alive pid) :
    forest.Below roots pid :=
  ⟨pid, hpid, halive, .refl⟩

/-- A walk that starts from what is alive and steps from parents to children is below the roots,
whatever it would do from a process that is not alive. -/
theorem Forest.below_iff {there : Pid → Prop} {step : Pid → Pid → Prop}
    (hthere : ∀ p, there p ↔ forest.Alive p)
    (hstep : ∀ a, forest.Alive a → ∀ c, step a c ↔ forest.Child a c) :
    (∃ root ∈ roots, there root ∧ Relation.ReflTransGen step root pid)
      ↔ forest.Below roots pid := by
  refine exists_congr fun root => and_congr_right fun _ => ?_
  rw [hthere]
  refine and_congr_right fun halive => ?_
  constructor
  · intro hreach
    -- every process on the way is alive
    refine (path_inside (fun a c ha h => ?_) halive hreach).1
    have hchild : forest.Child a c := (hstep a ha c).mp h
    exact ⟨hchild, forest.alive_of_child hchild⟩
  · intro hreach
    refine (path_inside (fun a c ha hchild => ?_) halive hreach).1
    exact ⟨(hstep a ha c).mpr hchild, forest.alive_of_child hchild⟩

end Below

/-! ## A survey of the processes below some roots -/

/-- The survey selects what is below the roots, and has blamed the roots that are not alive. -/
structure Survey.Covers (s : Survey) (forest : Forest) (roots : List Pid) : Prop where
  nodup : s.selection.Nodup
  selection : ∀ pid, pid ∈ s.selection ↔ forest.Below roots pid
  prior : ∀ pid facet, (∃ u ∈ s.prior, u.pid = pid ∧ u.facet = facet) ↔
    facet = .proc ∧ pid ∈ roots ∧ ¬ forest.Alive pid
  oneErrno : OneErrno s.prior

namespace Survey

variable {s : Survey} {forest : Forest} {roots : List Pid} {doc : Snapshot}

theorem Covers.apart (h : s.Covers forest roots) : s.Apart where
  outside u hu hpid := by
    have hprior := (h.prior u.pid u.facet).mp ⟨u, hu, rfl, rfl⟩
    exact hprior.2.2 ((h.selection u.pid).mp hpid).alive
  oneErrno := h.oneErrno

/-- One account for each process below the roots. -/
theorem Covers.account [Libc] (h : s.Covers forest roots) (hreports : s.Reports doc) {f : Flag}
    (hf : f ≠ .ports) {pid : Pid} (hread : (s.reading pid f).isSome = true)
    (hbelow : forest.Below roots pid) :
    (normalize doc).factCount f pid + (normalize doc).blameCount f.facet pid = 1 := by
  rw [hreports.account h.nodup h.apart hf ((h.selection pid).mpr hbelow), if_pos hread]

/-- Of the others, a root is blamed for not being there, and nothing else is said. -/
theorem Covers.blame_outside [Libc] (h : s.Covers forest roots) (hreports : s.Reports doc)
    (facet : Facet) {pid : Pid} (hout : ¬ forest.Below roots pid) :
    (normalize doc).blameCount facet pid = if facet = .proc ∧ pid ∈ roots then 1 else 0 := by
  have hselected : pid ∉ s.selection := fun hmem => hout ((h.selection pid).mp hmem)
  -- a root that is not below the roots is not alive
  have hroot : pid ∈ roots → ¬ forest.Alive pid :=
    fun hmem halive => hout (Forest.below_root hmem halive)
  have hrow : (∃ u ∈ doc.unreadable, u.pid = pid ∧ u.facet = facet) ↔
      facet = .proc ∧ pid ∈ roots := by
    calc (∃ u ∈ doc.unreadable, u.pid = pid ∧ u.facet = facet)
        ↔ ∃ u ∈ s.prior, u.pid = pid ∧ u.facet = facet := by
          refine exists_congr fun u => and_congr_left ?_
          rintro ⟨rfl, -⟩
          rw [hreports.unreadable]
          exact or_iff_left fun hblames => hselected hblames.1
      _ ↔ facet = .proc ∧ pid ∈ roots ∧ ¬ forest.Alive pid := h.prior pid facet
      _ ↔ facet = .proc ∧ pid ∈ roots :=
          and_congr_right fun _ => and_iff_left_of_imp hroot
  calc (normalize doc).blameCount facet pid
      = if ∃ u ∈ doc.unreadable, u.pid = pid ∧ u.facet = facet then 1 else 0 :=
        countP_normalizeUnreadable doc.unreadable pid facet
    _ = if facet = .proc ∧ pid ∈ roots then 1 else 0 := if_congr hrow rfl rfl

end Survey

/-! ## Linux -/

namespace Linux

section Graph

variable {g : ProcGraph} (hok : ∀ a, g.pathExists a = true → ∃ cs, g.childrenOf a = .ok cs)
  (hthere : ∀ a x, g.pathExists a = true → g.Lists a x → g.pathExists x = true)

include hthere

theorem exists_of_reached {r x : Pid} (hr : g.pathExists r = true)
    (hreach : Relation.ReflTransGen g.Lists r x) : g.pathExists x = true :=
  (path_inside (fun a c ha hstep => ⟨hstep, hthere a c ha hstep⟩) hr hreach).2

include hok

theorem not_failedRoot {roots : List Pid} {r : Pid} {err : Errno} :
    ¬ FailedRoot g roots r err := by
  intro hfailed
  obtain ⟨y, hreach, herr⟩ := hfailed.exists_error
  obtain ⟨-, -, hexists, -⟩ := hfailed
  obtain ⟨cs, hcs⟩ := hok y (exists_of_reached hthere hexists hreach)
  rw [herr] at hcs
  cases hcs

/-- Where every process that exists can list its children, and these exist, the loop finds what can
be reached from a root that exists. -/
theorem mem_out_iff_reached {roots : List Pid} {x : Pid} :
    x ∈ (collectRoots g roots []).out ↔
      ∃ r ∈ roots, g.pathExists r = true ∧ Relation.ReflTransGen g.Lists r x := by
  constructor
  · exact reached_of_mem_out
  · rintro ⟨r, hr, hexists, hreach⟩
    -- what was seen and exists was found: only a root that does not exist is seen and not found
    have hfound : ∀ {y}, y ∈ (collectRoots g roots []).seen → g.pathExists y = true →
        y ∈ (collectRoots g roots []).out := by
      intro y hy hexists
      refine (mem_seen_iff_out.1.mp hy).resolve_right ?_
      rintro ⟨c, -, hmissing⟩
      rw [hexists] at hmissing
      cases hmissing
    induction hreach with
    | refl => exact hfound (mem_seen_collectRoots.mpr (Or.inl hr)) hexists
    | @tail y z hy hstep ih =>
        have hexists' : g.pathExists y = true := exists_of_reached hthere hexists hy
        apply hfound _ (hthere y z hexists' hstep)
        rcases mem_out_cases ih with hexp | ⟨c, s, err, hturn, hs, hfail, -⟩ | ⟨err, herr⟩
        · exact mem_seen_collectRoots.mpr (Or.inr ⟨y, hexp, hstep⟩)
        · exact absurd ⟨c, hturn, hs, hfail⟩ (not_failedRoot hok hthere)
        · obtain ⟨cs, hcs⟩ := hok y hexists'
          rw [herr] at hcs
          cases hcs

theorem missingRoot_iff {roots : List Pid} {r : Pid} :
    MissingRoot g roots r ↔ r ∈ roots ∧ g.pathExists r = false := by
  constructor
  · rintro ⟨c, ⟨⟨pre, post, rfl, -⟩, -⟩, hmissing⟩
    exact ⟨List.mem_append_right _ List.mem_cons_self, hmissing⟩
  · rintro ⟨hr, hmissing⟩
    have hseen : r ∈ (collectRoots g roots []).seen := mem_seen_collectRoots.mpr (Or.inl hr)
    refine (mem_seen_iff_out.1.mp hseen).resolve_left ?_
    intro hout
    obtain ⟨root, -, hexists, hreach⟩ := (mem_out_iff_reached hok hthere).mp hout
    rw [exists_of_reached hthere hexists hreach] at hmissing
    cases hmissing

end Graph

/-- The directories in `/proc` show the forest: a process that is alive can list its children. -/
structure Shows (os : Os) (forest : Forest) : Prop where
  alive : ∀ pid, (graphOf os).pathExists pid = true ↔ forest.Alive pid
  children : ∀ a, forest.Alive a →
    ∃ cs, childrenOf os a = .ok cs ∧ ∀ c, c ∈ cs ↔ forest.Child a c

section Covers

variable {os : Os} {forest : Forest}

theorem Shows.lists_iff (h : Shows os forest) (a : Pid) (halive : forest.Alive a) (x : Pid) :
    (graphOf os).Lists a x ↔ forest.Child a x := by
  obtain ⟨cs, hcs, hmem⟩ := h.children a halive
  exact (Walk.lists_iff hcs).trans (hmem x)

theorem Shows.listed (h : Shows os forest) (a : Pid) (hexists : (graphOf os).pathExists a = true) :
    ∃ cs, (graphOf os).childrenOf a = .ok cs := by
  obtain ⟨cs, hcs, -⟩ := h.children a ((h.alive a).mp hexists)
  exact ⟨cs, hcs⟩

theorem Shows.exists_of_lists (h : Shows os forest) (a x : Pid)
    (hexists : (graphOf os).pathExists a = true) (hstep : (graphOf os).Lists a x) :
    (graphOf os).pathExists x = true := by
  have hchild : forest.Child a x := (h.lists_iff a ((h.alive a).mp hexists) x).mp hstep
  exact (h.alive x).mpr (forest.alive_of_child hchild)

theorem Shows.mem_collectRoots (h : Shows os forest) (roots : List Pid) (pid : Pid) :
    pid ∈ (collectRoots (graphOf os) roots []).out ↔ forest.Below roots pid :=
  (mem_out_iff_reached h.listed h.exists_of_lists).trans (Forest.below_iff h.alive h.lists_iff)

theorem Shows.mem_unreadable (h : Shows os forest) {roots : List Pid} {u : Unreadable} :
    u ∈ (collectRoots (graphOf os) roots []).unreadable ↔
      ∃ r ∈ roots, ¬ forest.Alive r ∧ u = ⟨r, .proc, errnoName Libc.ENOENT⟩ := by
  rw [mem_unreadable_collectRoots]
  have hmissing : ∀ r, MissingRoot (graphOf os) roots r ↔ r ∈ roots ∧ ¬ forest.Alive r := by
    intro r
    rw [missingRoot_iff h.listed h.exists_of_lists, ← h.alive, Bool.not_eq_true]
  constructor
  · rintro (⟨r, hr, rfl⟩ | ⟨r, err, hfailed, -⟩)
    · obtain ⟨hroot, hdead⟩ := (hmissing r).mp hr
      exact ⟨r, hroot, hdead, rfl⟩
    · exact absurd hfailed (not_failedRoot h.listed h.exists_of_lists)
  · rintro ⟨r, hroot, hdead, rfl⟩
    exact Or.inl ⟨r, (hmissing r).mpr ⟨hroot, hdead⟩, rfl⟩

theorem Shows.covers (h : Shows os forest) {args : SnapshotArgs} {roots : List Pid}
    (hscope : args.scope = .roots roots) :
    ∃ pids, selected os args = .ok pids ∧ (survey os args pids).Covers forest roots := by
  have hrows : collectionRows os args = (collectRoots (graphOf os) roots []).unreadable := by
    rw [collectionRows, hscope]
    rfl
  have hselected : selected os args = .ok (collectRoots (graphOf os) roots []).out := by
    rw [selected, hscope]
    rfl
  refine ⟨(collectRoots (graphOf os) roots []).out, hselected, nodup_collectRoots roots,
    h.mem_collectRoots roots, fun pid facet => ?_, ?_⟩
  · show (∃ u ∈ collectionRows os args, _) ↔ _
    rw [hrows]
    simp only [h.mem_unreadable]
    constructor
    · rintro ⟨u, ⟨r, hroot, hdead, rfl⟩, rfl, rfl⟩
      exact ⟨rfl, hroot, hdead⟩
    · rintro ⟨rfl, hroot, hdead⟩
      exact ⟨_, ⟨pid, hroot, hdead, rfl⟩, rfl, rfl⟩
  · intro u hu v hv _ _
    change u ∈ collectionRows os args at hu
    change v ∈ collectionRows os args at hv
    rw [hrows, h.mem_unreadable] at hu hv
    obtain ⟨r, -, -, rfl⟩ := hu
    obtain ⟨r', -, -, rfl⟩ := hv
    rfl

end Covers

end Linux

/-! ## Darwin -/

namespace Darwin

/-- The table of all processes shows the forest: a row may name a parent that is not alive. -/
structure Shows (table : ProcessTable) (forest : Forest) : Prop where
  alive : ∀ pid, table.Has pid ↔ forest.Alive pid
  children : ∀ a, forest.Alive a → ∀ c, table.ParentOf a c ↔ forest.Child a c

theorem Shows.covers {os : Os} {table : ProcessTable} {forest : Forest} (h : Shows table forest)
    {args : SnapshotArgs} {roots : List Pid} (hscope : args.scope = .roots roots) :
    (survey os args table).Covers forest roots := by
  have hwanted : wanted args.scope table = (subtree roots table Snapshot.new).1 := by
    rw [hscope]
    rfl
  obtain ⟨hnodup, hmem⟩ := mem_subtree roots table Snapshot.new
  refine ⟨?_, fun pid => ?_, fun pid facet => ?_, (survey_apart os args table).oneErrno⟩
  · show (wanted args.scope table).Nodup
    rw [hwanted]
    exact hnodup
  · show pid ∈ wanted args.scope table ↔ _
    rw [hwanted]
    exact (hmem pid).trans (Forest.below_iff h.alive h.children)
  · show (∃ u ∈ absentRoots args.scope table, _) ↔ _
    rw [hscope]
    simp only [absentRoots, List.mem_map, List.mem_filter, decide_eq_true_eq, h.alive]
    constructor
    · rintro ⟨u, ⟨r, ⟨hroot, hdead⟩, rfl⟩, rfl, rfl⟩
      exact ⟨rfl, hroot, hdead⟩
    · rintro ⟨rfl, hroot, hdead⟩
      exact ⟨_, ⟨pid, ⟨hroot, hdead⟩, rfl⟩, rfl, rfl⟩

end Darwin

/-! ## The document -/

/-- The document of an ask for roots is about the processes below them: every row of a process is
about one, each of them has one account for every flag that was asked unless the flag's source was
blind, and of all others exactly the roots are blamed, once, for not being there. -/
structure Snapshot.TellsBelow (doc : Snapshot) (args : SnapshotArgs) (forest : Forest)
    (roots : List Pid) : Prop where
  rows : ∀ f, ∀ row ∈ doc.table f, ∀ pid, f.pidOf row = some pid → forest.Below roots pid
  account : ∀ f, f ≠ .ports → args.asks f = true → (¬ ∃ e ∈ doc.errors, e.facet = f.facet) →
    ∀ pid, forest.Below roots pid → doc.factCount f pid + doc.blameCount f.facet pid = 1
  outside : ∀ facet pid, ¬ forest.Below roots pid →
    doc.blameCount facet pid = if facet = .proc ∧ pid ∈ roots then 1 else 0

section TellsBelow

variable {doc doc' : Snapshot} {args : SnapshotArgs} {forest : Forest} {roots : List Pid}

theorem Snapshot.TellsBelow.factCount_outside (h : doc.TellsBelow args forest roots) (f : Flag)
    {pid : Pid} (hout : ¬ forest.Below roots pid) : doc.factCount f pid = 0 := by
  apply List.countP_eq_zero.mpr
  intro row hrow hpid
  exact hout (h.rows f row hrow pid (of_decide_eq_true hpid))

/-- Two such documents have the same number of rows about a process. -/
theorem Snapshot.TellsBelow.agree (h : doc.TellsBelow args forest roots)
    (h' : doc'.TellsBelow args forest roots) {f : Flag} (hf : f ≠ .ports)
    (hask : args.asks f = true) (hsees : ¬ ∃ e ∈ doc.errors, e.facet = f.facet)
    (hsees' : ¬ ∃ e ∈ doc'.errors, e.facet = f.facet) (pid : Pid) :
    doc.factCount f pid + doc.blameCount f.facet pid
      = doc'.factCount f pid + doc'.blameCount f.facet pid := by
  by_cases hbelow : forest.Below roots pid
  · rw [h.account f hf hask hsees pid hbelow, h'.account f hf hask hsees' pid hbelow]
  · rw [h.factCount_outside f hbelow, h'.factCount_outside f hbelow, h.outside f.facet pid hbelow,
      h'.outside f.facet pid hbelow]

end TellsBelow

section Platforms

variable {args : SnapshotArgs} {forest : Forest} {roots : List Pid}

theorem Linux.tellsBelow {os : Os} (h : Linux.Shows os forest)
    (hscope : args.scope = .roots roots) :
    (normalize (Linux.snapshot os args)).TellsBelow args forest roots := by
  obtain ⟨pids, hsel, hcovers⟩ := h.covers hscope
  have hreports := Linux.snapshot_reports hsel
  refine ⟨fun f row hrow pid hpid => ?_, fun f hf hask hsees pid hbelow => ?_,
    fun facet pid hout => hcovers.blame_outside hreports facet hout⟩
  · have hmem : row ∈ (Linux.snapshot os args).table f := (table_normalize_perm _ f).mem_iff.mp hrow
    exact (hcovers.selection pid).mp (Linux.pidOf_mem hsel hmem hpid)
  · refine hcovers.account hreports hf ?_ hbelow
    have hfailed : Linux.constantFailed os f = false := by
      rw [← Bool.not_eq_true]
      exact fun hfail => hsees ((Linux.exists_error_iff hsel hf).mpr ⟨hask, hfail⟩)
    show (Linux.reading os args (Linux.constants os args) pid f).isSome = true
    rw [Linux.reading_isSome os args pid hf, hask, hfailed]
    rfl

theorem Darwin.tellsBelow {os : Darwin.Os} {table : Darwin.ProcessTable}
    (htable : Darwin.readProcessTable os = .ok table) (h : Darwin.Shows table forest)
    (hscope : args.scope = .roots roots) :
    (normalize (Darwin.snapshot os args)).TellsBelow args forest roots := by
  have hcovers : (Darwin.survey os args table).Covers forest roots := h.covers hscope
  have hreports := Darwin.snapshot_reports args htable
  refine ⟨fun f row hrow pid hpid => ?_, fun f hf hask hsees pid hbelow => ?_,
    fun facet pid hout => hcovers.blame_outside hreports facet hout⟩
  · have hmem : row ∈ (Darwin.snapshot os args).table f :=
      (table_normalize_perm _ f).mem_iff.mp hrow
    exact (hcovers.selection pid).mp (Darwin.pidOf_mem_wanted htable hmem hpid)
  · refine hcovers.account hreports hf ?_ hbelow
    have hfailed : Darwin.sharedFailed os f = false := by
      rw [← Bool.not_eq_true]
      exact fun hfail => hsees ((Darwin.exists_error_iff htable hf).mpr ⟨hask, hfail⟩)
    show (Darwin.reading os args table (Darwin.timebaseOf os args) pid f).isSome = true
    rw [Darwin.reading_isSome pid hf, hask, hfailed]
    rfl

end Platforms

/-- The system shows the forest to its sensor. A build without sensors sees none. -/
def System.Shows {F : FloatLib} (system : System F) (forest : Forest) : Prop :=
  match system with
  | linux _ os => Linux.Shows os.toOs forest
  | darwin os => ∃ table, Darwin.readProcessTable os.toOs = .ok table ∧ Darwin.Shows table forest
  | unsupported => False

theorem System.tellsBelow {F : FloatLib} {system : System F} {forest : Forest}
    (h : system.Shows forest) {args : SnapshotArgs} {roots : List Pid}
    (hscope : args.scope = .roots roots) :
    (normalize (system.platform.snapshot args)).TellsBelow args forest roots := by
  cases system with
  | linux E os => exact Linux.tellsBelow h hscope
  | darwin os =>
      obtain ⟨table, htable, hshows⟩ := h
      exact Darwin.tellsBelow htable hshows hscope
  | unsupported => exact h.elim

/-- **The same processes on every system.** Where two systems show the same forest, be they of one
platform or of two, the documents of an ask for roots are about the processes below them, on both
systems, and have the same number of rows about each process for every flag whose source neither
was blind to. -/
theorem subtree_on_every_system {F F' : FloatLib} {system : System F} {system' : System F'}
    {forest : Forest} (h : system.Shows forest) (h' : system'.Shows forest) {args : SnapshotArgs}
    {roots : List Pid} (hscope : args.scope = .roots roots) :
    let doc := normalize (system.platform.snapshot args)
    let doc' := normalize (system'.platform.snapshot args)
    doc.TellsBelow args forest roots ∧ doc'.TellsBelow args forest roots ∧
    ∀ f, f ≠ .ports → args.asks f = true → (¬ ∃ e ∈ doc.errors, e.facet = f.facet) →
      (¬ ∃ e ∈ doc'.errors, e.facet = f.facet) → ∀ pid,
        doc.factCount f pid + doc.blameCount f.facet pid
          = doc'.factCount f pid + doc'.blameCount f.facet pid := by
  intro doc doc'
  have htells := System.tellsBelow h hscope
  have htells' := System.tellsBelow h' hscope
  exact ⟨htells, htells', fun f hf hask hsees hsees' => htells.agree htells' hf hask hsees hsees'⟩

/-! ## Two processes, seen by two systems -/

/-- Process 7 and its child 9. -/
def familyForest : Forest where
  Alive pid := pid = 7 ∨ pid = 9
  Child a c := a = 7 ∧ c = 9
  alive_of_child h := Or.inr h.2

theorem family_reaches : familyForest.Below [7, 8] 9 :=
  ⟨7, List.mem_cons_self, Or.inl rfl, .single ⟨rfl, rfl⟩⟩

/-- The processes of a table are the pids it was made from. -/
theorem Linux.pathExists_ofTables {files : List (Text × Bytes)} {dirs : List (Text × List Bytes)}
    {links : List (Text × Bytes)} {pids : List Pid} (hnodup : pids.Nodup) (hzero : 0 ∉ pids)
    (pid : Pid) :
    (graphOf (Os.ofTables files dirs links pids hnodup hzero)).pathExists pid = true
      ↔ pid ∈ pids := by
  show (pids.any fun p => _ == _) = true ↔ _
  rw [List.any_eq_true]
  constructor
  · rintro ⟨p, hp, hpath⟩
    rw [beq_iff_eq, List.append_cancel_left_eq] at hpath
    have hvalue := congrArg Decimal.value hpath
    rw [Decimal.value_decimal, Decimal.value_decimal] at hvalue
    exact UInt32.toNat_inj.mp hvalue ▸ hp
  · exact fun hp => ⟨pid, hp, beq_iff_eq.mpr rfl⟩

theorem runningHost_shows : runningHost.Shows familyForest where
  alive pid := by
    have hmem : pid ∈ [7, 9] ↔ familyForest.Alive pid := by simp [familyForest]
    exact (Linux.pathExists_ofTables (by decide) (by decide) pid).trans hmem
  children a ha := by
    rcases ha with rfl | rfl
    · exact ⟨[9], rfl, fun c => by simp [familyForest]⟩
    · exact ⟨[], rfl, fun c => by simp [familyForest]⟩

theorem familyHost_shows : familyHost.Shows familyForest := by
  refine ⟨Darwin.familyTable, Darwin.familySystem_table, fun pid => ?_, fun a ha c => ?_⟩
  · show pid ∈ [7, 9] ↔ pid = 7 ∨ pid = 9
    simp
  · constructor
    · rintro ⟨row, hrow, rfl⟩
      rcases List.mem_cons.mp hrow with h | h
      · -- the parent of process 7 is not alive
        cases h
        rcases ha with h | h <;> exact absurd h (by decide)
      · cases List.mem_singleton.mp h
        exact ⟨rfl, rfl⟩
    · rintro ⟨rfl, rfl⟩
      exact ⟨_, List.mem_cons_of_mem _ List.mem_cons_self, rfl⟩

/-- The name and the parent of a process and of what is below it, and of another that is gone. -/
def familyArgs : SnapshotArgs :=
  { SnapshotArgs.default with scope := .roots [7, 8], procs := true }

theorem subtree_on_every_system_sample :
    let onLinux := normalize (runningHost.platform.snapshot familyArgs)
    let onDarwin := normalize (familyHost.platform.snapshot familyArgs)
    onLinux.factCount .procs 9 + onLinux.blameCount (Flag.facet .procs) 9 = 1 ∧
    onDarwin.factCount .procs 9 + onDarwin.blameCount (Flag.facet .procs) 9 = 1 ∧
    onLinux.blameCount .proc 8 = 1 ∧ onDarwin.blameCount .proc 8 = 1 := by
  intro onLinux onDarwin
  obtain ⟨hlinux, hdarwin, -⟩ := subtree_on_every_system runningHost_shows familyHost_shows
    (show familyArgs.scope = .roots [7, 8] from rfl)
  have hout : ¬ familyForest.Below [7, 8] 8 := fun h => by
    rcases h.alive with h | h <;> exact absurd h (by decide)
  have hseen : ¬ ∃ e ∈ onLinux.errors, e.facet = Flag.facet .procs := by
    obtain ⟨pids, hsel, -⟩ := Linux.Shows.covers runningHost_shows
      (show familyArgs.scope = .roots [7, 8] from rfl)
    exact fun herr => Bool.noConfusion ((Linux.exists_error_iff hsel (by decide)).mp herr).2
  have hseen' : ¬ ∃ e ∈ onDarwin.errors, e.facet = Flag.facet .procs := by
    have htable : Darwin.readProcessTable Darwin.familySystem.bare.toOs
        = .ok Darwin.familyTable := Darwin.familySystem_table
    have hdocument : onDarwin
        = normalize (Darwin.snapshot Darwin.familySystem.bare.toOs familyArgs) := rfl
    rw [hdocument]
    exact Darwin.not_exists_error htable (by decide) (by decide)
  exact ⟨hlinux.account .procs (by decide) rfl hseen 9 family_reaches,
    hdarwin.account .procs (by decide) rfl hseen' 9 family_reaches,
    hlinux.outside .proc 8 hout, hdarwin.outside .proc 8 hout⟩

end Osfacts
