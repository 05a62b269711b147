import Osfacts.Contract.DarwinListeners
import Osfacts.Contract.DarwinSurvey
import Osfacts.Contract.Independence
import Osfacts.Contract.Kinfo

set_option autoImplicit false

/-! # The account on darwin

What stands in a darwin document, counted: one row for every selected pid and every flag that was
asked, unless the one source that all pids share for it was blind. What is said about a facet does
not depend on the other facets of the ask, without the exception that Linux needs.
-/

namespace Osfacts.Darwin

open Linux (facts blameOf errorsOf)

section Account

variable {os : Os} {args : SnapshotArgs} {table : ProcessTable}

/-- The one flag of one pid that a shared source can take away, and the source. -/
def sharedFailed (os : Os) (f : Flag) : Bool :=
  f == .cpuTime && (readMachTimebase os).toOption.isNone

theorem reading_isSome (pid : Pid) {f : Flag} (hf : f ≠ .ports) :
    (reading os args table (timebaseOf os args) pid f).isSome
      = (args.asks f && !sharedFailed os f) := by
  cases f with
  | ports => exact absurd rfl hf
  | cpuTime =>
      simp only [reading, timebaseOf, SnapshotArgs.asks, sharedFailed]
      cases args.cpuTime <;> cases (readMachTimebase os).toOption <;> simp
  | procs => simp only [reading, SnapshotArgs.asks, sharedFailed]; cases args.procs <;> rfl
  | mem => simp only [reading, SnapshotArgs.asks, sharedFailed]; cases args.mem <;> rfl
  | startTime => simp only [reading, SnapshotArgs.asks, sharedFailed]; cases args.startTime <;> rfl
  | uid => simp only [reading, SnapshotArgs.asks, sharedFailed]; cases args.uid <;> rfl
  | cwd => simp only [reading, SnapshotArgs.asks, sharedFailed]; cases args.cwd <;> rfl
  | status => simp only [reading, SnapshotArgs.asks, sharedFailed]; cases args.status <;> rfl
  | argv => simp only [reading, SnapshotArgs.asks, sharedFailed]; cases args.argv <;> rfl

/-- The facets of the listeners, which no other flag is reported against. -/
def PORT_FACETS : List Facet := [.ports, .portsUnclaimed, .portsUid]

theorem facet_of_portErrors {walk : Pid → Except Errno (List Pcblist.HostListener)}
    {listed : Except Errno (List Pcblist.HostListener)} {pids : List Pid} {e : SourceError}
    (h : e ∈ portErrors walk listed pids) : e.facet ∈ PORT_FACETS := by
  unfold portErrors at h
  rcases List.mem_cons.mp h with rfl | h
  · decide
  · split at h
    · split_ifs at h
      · rw [List.mem_singleton.mp h]
        decide
      · cases h
    · rw [List.mem_singleton.mp h]
      show (if _ then Facet.ports else Facet.portsUnclaimed) ∈ PORT_FACETS
      split_ifs <;> decide

/-- The `E` rows of a flag of one pid: there are some where its shared source failed. -/
theorem exists_error_iff (htable : readProcessTable os = .ok table) {f : Flag} (hf : f ≠ .ports) :
    (∃ e ∈ (normalize (snapshot os args)).errors, e.facet = f.facet) ↔
      args.asks f = true ∧ sharedFailed os f = true := by
  rw [errors_normalize, (snapshot_eq args htable).2.2.2.1, surveyErrors]
  -- the rows of the listeners are about facets of the ports alone
  have hports : ∀ e ∈ (if args.ports then portErrors (listenerClaims os) (hostListeners os)
      (wanted args.scope table) else []), e.facet ≠ f.facet := by
    intro e he hfacet
    split_ifs at he
    · have hmem := facet_of_portErrors he
      rw [hfacet] at hmem
      revert hmem hf
      cases f <;> decide
    · cases he
  have hshared : (∃ e ∈ timebaseErrors os args, e.facet = f.facet) ↔
      args.asks f = true ∧ sharedFailed os f = true := by
    simp only [timebaseErrors, Linux.mem_constantError, sharedFailed, Bool.and_eq_true, beq_iff_eq]
    constructor
    · rintro ⟨e, ⟨hask, err, hread, rfl⟩, hfacet⟩
      obtain rfl : Flag.cpuTime = f := Flag.facet_injective hfacet
      refine ⟨hask, rfl, ?_⟩
      rw [hread]
      rfl
    · rintro ⟨hask, rfl, hread⟩
      cases hbase : readMachTimebase os with
      | ok value =>
          rw [hbase] at hread
          cases hread
      | error err => exact ⟨_, ⟨hask, err, rfl, rfl⟩, rfl⟩
  rw [← hshared]
  constructor
  · rintro ⟨e, he, hfacet⟩
    rcases List.mem_append.mp he with he | he
    · exact ⟨e, he, hfacet⟩
    · exact absurd hfacet (hports e he)
  · rintro ⟨e, he, hfacet⟩
    exact ⟨e, List.mem_append_left _ he, hfacet⟩

/-- Only the processor time has a source that all pids share. -/
theorem not_exists_error (htable : readProcessTable os = .ok table) {f : Flag} (hf : f ≠ .ports)
    (hcpu : f ≠ .cpuTime) : ¬ ∃ e ∈ (normalize (snapshot os args)).errors, e.facet = f.facet := by
  intro herr
  have hfailed := ((exists_error_iff htable hf).mp herr).2
  exact hcpu (beq_iff_eq.mp (Bool.and_eq_true_iff.mp hfailed).1)

/-! ## What an ask says -/

theorem asks_of_reading {pid : Pid} {f : Flag} {timebase : Option MachTimebase}
    {r : Except Errno f.Row} (h : reading os args table timebase pid f = some r) :
    args.asks f = true := by
  cases f with
  | ports => cases h
  | _ => exact (Option.ite_none_right_eq_some.mp h).1

/-- A listener that has a pid has it from the walk over that pid's descriptors. -/
theorem claimed_mem_wanted {scope : Scope} {rows : List Pcblist.HostListener} {row : Port}
    {pid : Pid} (hrow : row ∈ Pcblist.attributeHostListeners rows
      (claimsOf (listenerClaims os) (wanted scope table)))
    (hpid : Flag.ports.pidOf row = some pid) : pid ∈ wanted scope table := by
  obtain ⟨l, -, rfl⟩ := Pcblist.mem_attributeHostListeners.mp hrow
  rw [lookup_claimsOf] at hpid
  cases hfind : (wanted scope table).find? (fun p => decide (l ∈ heard (listenerClaims os) p)) with
  | none =>
      rw [hfind] at hpid
      cases hpid
  | some p =>
      rw [hfind] at hpid
      obtain rfl : p = pid := Option.some.inj hpid
      exact List.mem_of_find?_eq_some hfind

/-- Every row is about a pid that was wanted. -/
theorem pidOf_mem_wanted (htable : readProcessTable os = .ok table) {f : Flag} {row : f.Row}
    (hrow : row ∈ (snapshot os args).table f) {pid : Pid} (hpid : f.pidOf row = some pid) :
    pid ∈ wanted args.scope table := by
  by_cases hf : f = .ports
  · subst hf
    have hports := (snapshot_eq args htable).2.1
    change row ∈ (snapshot os args).ports at hrow
    rw [hports] at hrow
    split_ifs at hrow
    · exact claimed_mem_wanted hrow hpid
    · cases hrow
  · rw [(snapshot_reports args htable).table hf, List.mem_flatMap] at hrow
    obtain ⟨p, hp, hrow⟩ := hrow
    rw [(survey os args table).pidOf_mem_facts p row hrow] at hpid
    exact Option.some.inj hpid ▸ hp

/-- A facet that was not asked has no rows. -/
theorem table_of_not_asked (htable : readProcessTable os = .ok table) {f : Flag}
    (hask : args.asks f = false) : (snapshot os args).table f = [] := by
  by_cases hf : f = .ports
  · subst hf
    have hports := (snapshot_eq args htable).2.1
    change args.ports = false at hask
    rw [hask] at hports
    exact hports
  · rw [(snapshot_reports args htable).table hf, List.flatMap_eq_nil_iff]
    intro pid _
    have hnone : reading os args table (timebaseOf os args) pid f = none := by
      rw [← Option.not_isSome_iff_eq_none, reading_isSome pid hf, hask]
      simp
    show facts (reading os args table (timebaseOf os args) pid f) = []
    rw [hnone]
    rfl

/-- The threads of a status are blamed where the row stands and the task record does not. -/
theorem threadsErrno_isSome_iff {pid : Pid} :
    (threadsErrno os args table pid).isSome = true ↔
      (facts (reading os args table (timebaseOf os args) pid .status)).length = 1 ∧
        ∃ err, os.taskInfo pid = .error err := by
  simp only [threadsErrno, reading]
  cases args.status with
  | false => simp [facts]
  | true =>
      cases readStatus os table pid with
      | error err => simp [facts]
      | ok row => cases os.taskInfo pid <;> simp [facts]

theorem walkErrno_isSome_iff {pid : Pid} (hask : args.ports = true) :
    (walkErrno os args pid).isSome = true ↔ ∃ err, listenerClaims os pid = .error err := by
  rw [walkErrno, hask]
  cases listenerClaims os pid <;> simp

/-- What a `U` row can be about: an asked facet of a wanted pid, the threads of its status, or a
root that the table does not have. -/
theorem unreadable_cases (htable : readProcessTable os = .ok table) {u : Unreadable}
    (hu : u ∈ (snapshot os args).unreadable) :
    (u.pid ∈ wanted args.scope table ∧ ((∃ f, args.asks f = true ∧ u.facet = f.facet) ∨
      (args.status = true ∧ u.facet = .statusThreads))) ∨
    ∃ roots, args.scope = .roots roots ∧ u.pid ∈ roots ∧ ¬ table.Has u.pid ∧
      u = absentRoot u.pid := by
  rcases (snapshot_reports args htable).unreadable.mp hu with hprior | hblame
  · right
    change u ∈ absentRoots args.scope table at hprior
    unfold absentRoots at hprior
    split at hprior
    case _ roots hscope =>
        obtain ⟨root, hroot, rfl⟩ := List.mem_map.mp hprior
        obtain ⟨hmem, habsent⟩ := List.mem_filter.mp hroot
        exact ⟨roots, hscope, hmem, of_decide_eq_true habsent, rfl⟩
    case _ => cases hprior
  · left
    obtain ⟨hpid, hrow | ⟨hports, hrow⟩⟩ := blames_iff.mp hblame
    · refine ⟨hpid, ?_⟩
      rcases mem_pidBlame.mp hrow with ⟨f, err, -, hr, heq⟩ | ⟨err, hthreads, heq⟩
      · exact Or.inl ⟨f, asks_of_reading hr, congrArg Unreadable.facet heq⟩
      · refine Or.inr ⟨?_, congrArg Unreadable.facet heq⟩
        unfold threadsErrno at hthreads
        split at hthreads
        · assumption
        · cases hthreads
    · obtain ⟨err, -, heq⟩ := (mem_walkBlame hports).mp hrow
      exact ⟨hpid, Or.inl ⟨.ports, hports, congrArg Unreadable.facet heq⟩⟩

/-- What an `E` row can be about. -/
theorem error_cases (htable : readProcessTable os = .ok table) {e : SourceError}
    (he : e ∈ (snapshot os args).errors) :
    ∃ f, args.asks f = true ∧ (e.facet = f.facet ∨ (f = .ports ∧ e.facet ∈ PORT_FACETS)) := by
  rw [(snapshot_eq args htable).2.2.2.1, surveyErrors] at he
  rcases List.mem_append.mp he with he | he
  · obtain ⟨hask, err, -, rfl⟩ := Linux.mem_constantError.mp he
    exact ⟨.cpuTime, hask, Or.inl rfl⟩
  · split_ifs at he with hask
    · exact ⟨.ports, hask, Or.inr ⟨rfl, facet_of_portErrors he⟩⟩
    · cases he

/-- A table that cannot be read leaves no row of a process, and no asked facet unspoken. -/
theorem snapshot_blind (args : SnapshotArgs) {err : Errno} (h : readProcessTable os = .error err) :
    (∀ f, (snapshot os args).table f = []) ∧ (snapshot os args).unreadable = [] ∧
    ∀ f, args.asks f = true →
      sourceError "kern_proc_all" f.facet err ∈ (snapshot os args).errors := by
  rw [snapshot_of_error h]
  refine ⟨fun f => by cases f <;> rfl, rfl, fun f hask => ?_⟩
  exact List.mem_append_right _
    (List.mem_map_of_mem (mem_askedFacets.mpr ⟨f, hask, rfl⟩))

end Account

/-! ## The account -/

/-- The memory and the owner of two processes. -/
def memoryArgs : SnapshotArgs :=
  { SnapshotArgs.default with scope := .pids [7, 9], mem := true, uid := true }

section Independence

variable {s t : Survey} {doc doc' : Snapshot}

/-- Two surveys of the same pids that find the same about a facet blame it the same. -/
theorem Reports.blameOf_eq (hs : s.Reports doc) (ht : t.Reports doc') (hsapart : s.Apart)
    (htapart : t.Apart) (hsel : s.selection = t.selection) (hprior : s.prior = t.prior)
    {facet : Facet} (hblind : ∀ pid, s.blind pid facet = t.blind pid facet) :
    blameOf (normalize doc) facet = blameOf (normalize doc') facet := by
  refine hs.filter_unreadable_eq ht hsapart htapart fun u hu => ?_
  have hfacet : u.facet = facet := of_decide_eq_true hu
  rw [hprior, Survey.Blames, Survey.Blames, hsel, hfacet, hblind]

end Independence

/-- The facets that one flag is reported against: its own, and what its reader can lack of it. -/
def reportedFacets : Flag → List Facet
  | .ports => PORT_FACETS
  | .status => [.status, .statusThreads]
  | f => [f.facet]

section Independence

variable {os : Os} {a b : SnapshotArgs} {table : ProcessTable}

/-- The order of a table in the normalised document depends on that table alone. -/
theorem normalize_table_congr {doc doc' : Snapshot} {f : Flag} (h : doc.table f = doc'.table f) :
    (normalize doc).table f = (normalize doc').table f := by
  cases f <;> exact congrArg (sortByKey _) h

theorem reading_congr (os : Os) (table : ProcessTable) (pid : Pid) {f : Flag}
    (ha : a.asks f = true) (hb : b.asks f = true) :
    reading os a table (timebaseOf os a) pid f = reading os b table (timebaseOf os b) pid f := by
  cases f with
  | ports => rfl
  | cpuTime =>
      change a.cpuTime = true at ha
      change b.cpuTime = true at hb
      simp only [reading, timebaseOf, ha, hb]
  | _ => exact (if_pos ha).trans (if_pos hb).symm

theorem blind_congr {pid : Pid} {f : Flag} {facet : Facet} (ha : a.asks f = true)
    (hb : b.asks f = true) (hfacet : facet ∈ reportedFacets f) :
    (survey os a table).blind pid facet = (survey os b table).blind pid facet := by
  have hread := reading_congr os table pid ha hb
  show blindSpots _ _ _ facet = blindSpots _ _ _ facet
  cases f with
  | ports =>
      have hwalk : walkErrno os a pid = walkErrno os b pid := by
        change a.ports = true at ha
        change b.ports = true at hb
        rw [walkErrno, walkErrno, ha, hb]
      simp only [reportedFacets, PORT_FACETS, List.mem_cons, List.not_mem_nil, or_false] at hfacet
      rcases hfacet with rfl | rfl | rfl
      · exact hwalk
      · rfl
      · rfl
  | status =>
      have hthreads : threadsErrno os a table pid = threadsErrno os b table pid := by
        change a.status = true at ha
        change b.status = true at hb
        rw [threadsErrno, threadsErrno, ha, hb]
      simp only [reportedFacets, List.mem_cons, List.not_mem_nil, or_false] at hfacet
      rcases hfacet with rfl | rfl
      · exact congrArg errnoOf hread
      · exact hthreads
  | _ =>
      rw [List.mem_singleton.mp hfacet]
      exact congrArg errnoOf hread

/-- The `E` rows of a source that fails for a whole facet, where only that facet is looked at. -/
theorem surveyErrors_congr (hscope : a.scope = b.scope) {f : Flag} {facet : Facet}
    (ha : a.asks f = true) (hb : b.asks f = true) (hfacet : facet ∈ reportedFacets f) :
    (surveyErrors os a table).filter (fun e => e.facet = facet)
      = (surveyErrors os b table).filter (fun e => e.facet = facet) := by
  -- a flag other than the ports sees none of their rows
  have hports : ∀ args : SnapshotArgs, f ≠ .ports →
      (if args.ports then portErrors (listenerClaims os) (hostListeners os)
        (wanted args.scope table) else []).filter (fun e => e.facet = facet) = [] := by
    intro args hf
    rw [List.filter_eq_nil_iff]
    intro e he heq
    rw [decide_eq_true_eq] at heq
    split_ifs at he
    · have hmem := facet_of_portErrors he
      rw [heq] at hmem
      revert hfacet hmem hf
      cases f <;> cases facet <;> decide
    · cases he
  simp only [surveyErrors, List.filter_append, timebaseErrors, Linux.filter_constantError]
  by_cases hf : f = .ports
  · subst hf
    change a.ports = true at ha
    change b.ports = true at hb
    have hcpu : ¬ Facet.cpuTime = facet := by
      rintro rfl
      revert hfacet
      decide
    rw [if_neg hcpu, if_neg hcpu, ha, hb, hscope]
  · rw [hports a hf, hports b hf]
    by_cases hcpu : Facet.cpuTime = facet
    · subst hcpu
      obtain rfl : f = .cpuTime := by
        revert hfacet
        cases f <;> decide
      change a.cpuTime = true at ha
      change b.cpuTime = true at hb
      rw [ha, hb]
    · rw [if_neg hcpu, if_neg hcpu]

/-- The rows of a table that was not read, for one of the facets a flag is reported against. -/
theorem filter_askedFacets {args : SnapshotArgs} {err : Errno} {f : Flag} {facet : Facet}
    (hask : args.asks f = true) (hfacet : facet ∈ reportedFacets f) :
    (args.askedFacets.map (fun facet => sourceError "kern_proc_all" facet err)).filter
        (fun e => e.facet = facet)
      = if facet = f.facet then [sourceError "kern_proc_all" facet err] else [] := by
  have hall : Flag.all.filter (fun g => g.facet = facet) = if facet = f.facet then [f] else [] := by
    revert hfacet
    cases f <;> cases facet <;> decide
  have hasked : (Flag.all.filter args.asks).filter (fun g => g.facet = facet)
      = if facet = f.facet then [f] else [] := by
    rw [List.filter_comm, hall]
    split_ifs
    · rw [List.filter_cons_of_pos hask, List.filter_nil]
    · rfl
  rw [askedFacets_eq, List.map_map, List.filter_map]
  show ((Flag.all.filter args.asks).filter (fun g => g.facet = facet)).map _ = _
  rw [hasked]
  split_ifs with h
  · rw [h]
    rfl
  · rfl

/-- **Facet independence.** What a document says about a facet is the same whatever else was
asked of the same pids. There is no exception: no two facets read one source in two ways. -/
theorem asked_alone (os : Os) {a b : SnapshotArgs} (hscope : a.scope = b.scope) {f : Flag}
    (ha : a.asks f = true) (hb : b.asks f = true) :
    (normalize (snapshot os a)).table f = (normalize (snapshot os b)).table f ∧
    ∀ facet ∈ reportedFacets f,
      blameOf (normalize (snapshot os a)) facet = blameOf (normalize (snapshot os b)) facet ∧
      errorsOf (normalize (snapshot os a)) facet = errorsOf (normalize (snapshot os b)) facet := by
  cases htable : readProcessTable os with
  | error err =>
      rw [snapshot_of_error htable, snapshot_of_error htable]
      -- without a table there are only `E` rows: of the time base, and of what was asked
      refine ⟨by cases f <;> rfl, fun facet hfacet => ⟨rfl, ?_⟩⟩
      show (timebaseErrors os a ++ _).filter _ = (timebaseErrors os b ++ _).filter _
      have htime : (timebaseErrors os a).filter (fun e => e.facet = facet)
          = (timebaseErrors os b).filter (fun e => e.facet = facet) := by
        simp only [timebaseErrors, Linux.filter_constantError]
        split_ifs with hcpu
        · subst hcpu
          obtain rfl : f = .cpuTime := by
            revert hfacet
            cases f <;> decide
          change a.cpuTime = true at ha
          change b.cpuTime = true at hb
          rw [ha, hb]
        · rfl
      rw [List.filter_append, List.filter_append, htime, filter_askedFacets ha hfacet,
        filter_askedFacets hb hfacet]
  | ok table =>
      have hreports := snapshot_reports a htable
      have hreports' := snapshot_reports b htable
      have hsel : wanted a.scope table = wanted b.scope table := by rw [hscope]
      refine ⟨?_, fun facet hfacet => ⟨?_, ?_⟩⟩
      · have hraw : (snapshot os a).table f = (snapshot os b).table f := by
          by_cases hf : f = .ports
          · subst hf
            have hports := (snapshot_eq a htable).2.1
            have hports' := (snapshot_eq b htable).2.1
            change a.ports = true at ha
            change b.ports = true at hb
            rw [ha, hscope] at hports
            rw [hb] at hports'
            exact hports.trans hports'.symm
          · rw [hreports.table hf, hreports'.table hf]
            show (wanted a.scope table).flatMap _ = (wanted b.scope table).flatMap _
            rw [hsel]
            refine List.flatMap_congr fun pid _ => ?_
            exact congrArg facts (reading_congr os table _ ha hb)
        exact normalize_table_congr hraw
      · exact Reports.blameOf_eq hreports hreports' (survey_apart os a table)
          (survey_apart os b table) hsel (congrArg (absentRoots · table) hscope)
          fun pid => blind_congr ha hb hfacet
      · show (snapshot os a).errors.filter _ = (snapshot os b).errors.filter _
        rw [hreports.errors, hreports'.errors]
        exact surveyErrors_congr hscope ha hb hfacet

theorem asked_alone_sample :
    (normalize (snapshot familySystem memoryArgs)).table .uid
      = (normalize (snapshot familySystem (memoryArgs.set .status))).table .uid := by
  have hasked : memoryArgs.asks .uid = true := rfl
  have hmore : (memoryArgs.set .status).asks .uid = true := rfl
  have hscope : memoryArgs.scope = (memoryArgs.set .status).scope := rfl
  exact (asked_alone familySystem hscope hasked hmore).1

end Independence

end Osfacts.Darwin
