import Osfacts.Basic.Restriction
import Osfacts.Contract.Canonical

set_option autoImplicit false

/-! # Surveys

What a snapshot is for, on whatever system: some pids are selected, and each of them has for
every facet that was asked a reading, which is a row or an errno. A survey is what was selected
and read, and `Survey.Reports` says that a document tells it. What follows about documents is
said here once, from the survey alone: how many rows a pid has, and that the rows of a pid do not
depend on what else was selected, nor on the order.
-/

namespace Osfacts

open Linux (facts mem_facts)

/-- What a sensor found out before it wrote a document. -/
structure Survey where
  selection : List Pid
  /-- nothing where the flag was not asked, or a source that all pids share was blind -/
  reading : Pid → (f : Flag) → Option (Except Errno f.Row)
  /-- the errno of a facet that one pid would not show -/
  blind : Pid → Facet → Option Errno
  /-- rows that were written before any pid was read -/
  prior : List Unreadable
  errors : List SourceError
  own : ∀ {pid f row}, reading pid f = some (.ok row) → f.pidOf row = some pid
  blind_iff : ∀ {pid f err}, f ≠ .ports →
    (blind pid f.facet = some err ↔ reading pid f = some (.error err))

/-! ## Blind spots -/

/-- The errno of a reading that failed. -/
def errnoOf {α : Type} : Option (Except Errno α) → Option Errno
  | some (.error err) => some err
  | _ => none

theorem errnoOf_eq_some {α : Type} {r : Option (Except Errno α)} {err : Errno} :
    errnoOf r = some err ↔ r = some (.error err) := by
  cases r with
  | none => simp [errnoOf]
  | some r => cases r <;> simp [errnoOf]

/-- The errnos of one pid, by facet: those of its readings, of the walk over its descriptors, and
of the thread count that a readable status may lack. -/
def blindSpots (reading : (f : Flag) → Option (Except Errno f.Row)) (walk threads : Option Errno) :
    Facet → Option Errno
  | .proc => errnoOf (reading .procs)
  | .ports => walk
  | .mem => errnoOf (reading .mem)
  | .startTime => errnoOf (reading .startTime)
  | .cpuTime => errnoOf (reading .cpuTime)
  | .uid => errnoOf (reading .uid)
  | .cwd => errnoOf (reading .cwd)
  | .status => errnoOf (reading .status)
  | .statusThreads => threads
  | .argv => errnoOf (reading .argv)
  | .portsUnclaimed | .portsUid | .socketHolders | .uptime | .load | .cpu | .net | .disk => none

section BlindSpots

variable {reading : (f : Flag) → Option (Except Errno f.Row)} {walk threads : Option Errno}
  {err : Errno}

theorem blindSpots_facet {f : Flag} (hf : f ≠ .ports) :
    blindSpots reading walk threads f.facet = some err ↔ reading f = some (.error err) := by
  cases f with
  | ports => exact absurd rfl hf
  | _ => exact errnoOf_eq_some

/-- Where a blind spot comes from. -/
theorem blindSpots_eq_some {facet : Facet} :
    blindSpots reading walk threads facet = some err ↔
      (∃ f, f ≠ Flag.ports ∧ f.facet = facet ∧ reading f = some (.error err)) ∨
      (facet = .ports ∧ walk = some err) ∨ (facet = .statusThreads ∧ threads = some err) := by
  constructor
  · intro h
    cases facet with
    | proc => exact Or.inl ⟨.procs, by decide, rfl, errnoOf_eq_some.mp h⟩
    | ports => exact Or.inr (Or.inl ⟨rfl, h⟩)
    | mem => exact Or.inl ⟨.mem, by decide, rfl, errnoOf_eq_some.mp h⟩
    | startTime => exact Or.inl ⟨.startTime, by decide, rfl, errnoOf_eq_some.mp h⟩
    | cpuTime => exact Or.inl ⟨.cpuTime, by decide, rfl, errnoOf_eq_some.mp h⟩
    | uid => exact Or.inl ⟨.uid, by decide, rfl, errnoOf_eq_some.mp h⟩
    | cwd => exact Or.inl ⟨.cwd, by decide, rfl, errnoOf_eq_some.mp h⟩
    | status => exact Or.inl ⟨.status, by decide, rfl, errnoOf_eq_some.mp h⟩
    | statusThreads => exact Or.inr (Or.inr ⟨rfl, h⟩)
    | argv => exact Or.inl ⟨.argv, by decide, rfl, errnoOf_eq_some.mp h⟩
    | _ => cases h
  · rintro (⟨f, hf, rfl, h⟩ | ⟨rfl, h⟩ | ⟨rfl, h⟩)
    · exact (blindSpots_facet hf).mpr h
    · exact h
    · exact h

end BlindSpots

namespace Survey

/-- The `U` rows of the pids that were read. -/
def Blames [Libc] (s : Survey) (u : Unreadable) : Prop :=
  u.pid ∈ s.selection ∧ (s.blind u.pid u.facet).map errnoName = some u.errno

/-- The document says what was found: the rows of the listeners are not looked at. -/
structure Reports [Libc] (s : Survey) (doc : Snapshot) : Prop where
  version : doc.version = SCHEMA_VERSION
  table : ∀ {f}, f ≠ .ports →
    doc.table f = s.selection.flatMap (fun pid => facts (s.reading pid f))
  unreadable : ∀ {u}, u ∈ doc.unreadable ↔ u ∈ s.prior ∨ s.Blames u
  errors : doc.errors = s.errors

/-- The rows written before are about other pids, and name one errno for each. -/
structure Apart (s : Survey) : Prop where
  outside : ∀ u ∈ s.prior, u.pid ∉ s.selection
  oneErrno : OneErrno s.prior

/-- The facts of a pid, whose rows all name it. -/
theorem pidOf_mem_facts (s : Survey) {f : Flag} (pid : Pid) :
    ∀ row ∈ facts (s.reading pid f), f.pidOf row = some pid :=
  fun _ hrow => s.own (mem_facts.mp hrow)

/-! ## One account for each pid and facet -/

section Account

variable [Libc] {s : Survey} {doc : Snapshot} {pid : Pid} {f : Flag} {facet : Facet}

theorem Reports.factCount_eq (h : s.Reports doc) (hnodup : s.selection.Nodup) (hf : f ≠ .ports)
    (hpid : pid ∈ s.selection) :
    (normalize doc).factCount f pid = (facts (s.reading pid f)).length := by
  have hcount : (normalize doc).factCount f pid
      = (doc.table f).countP (fun row => f.pidOf row = some pid) :=
    (table_normalize_perm doc f).countP_eq _
  rw [hcount, h.table hf, List.countP_eq_length_filter,
    filter_flatMap_of_nodup s.pidOf_mem_facts hnodup hpid]

theorem Reports.exists_blame_iff (h : s.Reports doc) (hapart : s.Apart) (hpid : pid ∈ s.selection) :
    (∃ u ∈ doc.unreadable, u.pid = pid ∧ u.facet = facet) ↔ (s.blind pid facet).isSome = true := by
  constructor
  · rintro ⟨u, hu, rfl, rfl⟩
    rcases h.unreadable.mp hu with hprior | ⟨-, herrno⟩
    · exact absurd hpid (hapart.outside u hprior)
    · cases hblind : s.blind u.pid u.facet with
      | none =>
          rw [hblind] at herrno
          cases herrno
      | some err => rfl
  · intro hsome
    obtain ⟨err, hblind⟩ := Option.isSome_iff_exists.mp hsome
    refine ⟨⟨pid, facet, errnoName err⟩, h.unreadable.mpr (Or.inr ⟨hpid, ?_⟩), rfl, rfl⟩
    show (s.blind pid facet).map errnoName = some (errnoName err)
    rw [hblind]
    rfl

theorem Reports.blameCount_eq (h : s.Reports doc) (hapart : s.Apart) (hpid : pid ∈ s.selection)
    (facet : Facet) :
    (normalize doc).blameCount facet pid = if (s.blind pid facet).isSome = true then 1 else 0 := by
  have hcount : (normalize doc).blameCount facet pid
      = if ∃ u ∈ doc.unreadable, u.pid = pid ∧ u.facet = facet then 1 else 0 :=
    countP_normalizeUnreadable doc.unreadable pid facet
  rw [hcount]
  simp only [h.exists_blame_iff hapart hpid]

/-- A selected pid has one row for a flag that has a reading, and none for one that has not. -/
theorem Reports.account (h : s.Reports doc) (hnodup : s.selection.Nodup) (hapart : s.Apart)
    (hf : f ≠ .ports) (hpid : pid ∈ s.selection) :
    (normalize doc).factCount f pid + (normalize doc).blameCount f.facet pid
      = if (s.reading pid f).isSome = true then 1 else 0 := by
  rw [h.factCount_eq hnodup hf hpid, h.blameCount_eq hapart hpid f.facet]
  have hblind : (s.blind pid f.facet).isSome = true ↔
      ∃ err, s.reading pid f = some (.error err) := by
    rw [Option.isSome_iff_exists]
    exact exists_congr fun err => s.blind_iff hf
  cases hr : s.reading pid f with
  | none => simp [hblind, hr, facts]
  | some r =>
      cases r with
      | ok row => simp [hblind, hr, facts]
      | error err => simp [hblind, hr, facts]

end Account

/-! ## Part of a larger survey -/

/-- Of the pids that the first selected, the second read the same. -/
structure Within (s t : Survey) : Prop where
  selection : s.selection ⊆ t.selection
  reading : ∀ pid ∈ s.selection, ∀ f, s.reading pid f = t.reading pid f
  blind : ∀ pid ∈ s.selection, ∀ facet, s.blind pid facet = t.blind pid facet

section Within

variable [Libc] {s t : Survey} {doc doc' : Snapshot}

/-- The table of the smaller survey is the part of the larger one's that is about its pids. -/
theorem Within.table (h : s.Within t) (hs : s.Reports doc) (ht : t.Reports doc')
    (hsnodup : s.selection.Nodup) (htnodup : t.selection.Nodup) {f : Flag} (hf : f ≠ .ports) :
    (normalize doc).table f = ((normalize doc').table f).filter
      (fun row => (f.pidOf row).any (fun pid => pid ∈ s.selection)) := by
  obtain ⟨key, htable, hkey⟩ := exists_pidKey hf
  have hpart : (t.selection.filter (fun pid => pid ∈ s.selection)).Perm s.selection :=
    filter_mem_perm hsnodup htnodup h.selection
  have hgroups : s.selection.flatMap (fun pid => facts (s.reading pid f))
      = s.selection.flatMap (fun pid => facts (t.reading pid f)) :=
    List.flatMap_congr fun pid hpid => by rw [h.reading pid hpid]
  rw [htable, htable, hs.table hf, ht.table hf, filter_sort,
    filter_flatMap_keys t.pidOf_mem_facts, hgroups, sortByKey_eq_iff, sameRuns_pid_iff hkey]
  intro pid
  rw [filter_flatMap_eq_iff t.pidOf_mem_facts]
  exact fun _ => (hpart.count_eq pid).symm

theorem Reports.oneErrno (hs : s.Reports doc) (hapart : s.Apart) : OneErrno doc.unreadable := by
  intro u hu v hv hpid hfacet
  rcases hs.unreadable.mp hu with hu | ⟨hu, herrno⟩
  · rcases hs.unreadable.mp hv with hv | ⟨hv, -⟩
    · exact hapart.oneErrno u hu v hv hpid hfacet
    · exact absurd (hpid ▸ hv) (hapart.outside u hu)
  · rcases hs.unreadable.mp hv with hv | ⟨-, herrno'⟩
    · exact absurd (hpid ▸ hu) (hapart.outside v hv)
    · rw [hpid, hfacet, herrno'] at herrno
      exact (Option.some.inj herrno).symm

omit [Libc] in
/-- Where a document names one errno for each pid and facet, a part of its `U` rows can be taken
before or after they are put in order. -/
theorem filter_normalizeUnreadable {rows : List Unreadable} (h : OneErrno rows)
    (p : Unreadable → Bool) :
    (normalizeUnreadable rows).filter p = normalizeUnreadable (rows.filter p) :=
  filter_dedup_sort h.eq_of_key p

/-- Two documents have the same `U` rows of a kind where their surveys do. -/
theorem Reports.filter_unreadable_eq (hs : s.Reports doc) (ht : t.Reports doc') (hsapart : s.Apart)
    (htapart : t.Apart) {p : Unreadable → Bool}
    (h : ∀ u, p u = true → (u ∈ s.prior ∨ s.Blames u ↔ u ∈ t.prior ∨ t.Blames u)) :
    (normalize doc).unreadable.filter p = (normalize doc').unreadable.filter p := by
  have hone := hs.oneErrno hsapart
  show (normalizeUnreadable doc.unreadable).filter p
    = (normalizeUnreadable doc'.unreadable).filter p
  rw [filter_normalizeUnreadable hone, filter_normalizeUnreadable (ht.oneErrno htapart)]
  apply normalizeUnreadable_eq_of_mem_iff
  · exact fun u hu v hv => hone u (List.mem_filter.mp hu).1 v (List.mem_filter.mp hv).1
  · intro u
    rw [List.mem_filter, List.mem_filter, hs.unreadable, ht.unreadable]
    exact and_congr_left (h u)

/-- The two documents blame the pids of the smaller survey for the same. -/
theorem Within.unreadable (h : s.Within t) (hs : s.Reports doc) (ht : t.Reports doc')
    (hsapart : s.Apart) (htapart : t.Apart) :
    (normalize doc).unreadable.filter (fun u => u.pid ∈ s.selection)
      = (normalize doc').unreadable.filter (fun u => u.pid ∈ s.selection) := by
  refine hs.filter_unreadable_eq ht hsapart htapart fun u hu => ?_
  have hpid : u.pid ∈ s.selection := of_decide_eq_true hu
  -- neither wrote a row about this pid before it was read
  have hprior : u ∉ s.prior := fun hu => hsapart.outside u hu hpid
  have hprior' : u ∉ t.prior := fun hu => htapart.outside u hu (h.selection hpid)
  simp only [hprior, hprior', false_or, Blames, hpid, h.selection hpid, true_and,
    h.blind u.pid hpid]

end Within

/-! ## The order of the selection -/

section Order

variable [Libc] {s t : Survey} {doc doc' : Snapshot}

/-- The same pids, read the same in whatever order: the documents differ in the listeners alone. -/
theorem Within.normalize_eq (h : s.Within t) (hperm : s.selection.Perm t.selection)
    (hprior : ∀ u, u ∈ s.prior ↔ u ∈ t.prior) (herrors : s.errors = t.errors)
    (hs : s.Reports doc) (ht : t.Reports doc') (hapart : s.Apart) :
    { normalize doc with ports := [] } = { normalize doc' with ports := [] } := by
  refine Snapshot.eq_of_tables (hs.version.trans ht.version.symm) (fun f => ?_) ?_ ?_
  · by_cases hf : f = .ports
    · subst hf
      rfl
    · obtain ⟨key, htable, hkey⟩ := exists_pidKey hf
      have hgroups : s.selection.flatMap (fun pid => facts (s.reading pid f))
          = s.selection.flatMap (fun pid => facts (t.reading pid f)) :=
        List.flatMap_congr fun pid hpid => by rw [h.reading pid hpid]
      -- a document sorts the rows of a flag by their pids, so the order of the pids is lost
      have hsame : (normalize doc).table f = (normalize doc').table f := by
        rw [htable, htable, hs.table hf, ht.table hf, hgroups, sortByKey_eq_iff,
          sameRuns_pid_iff hkey]
        intro pid
        rw [filter_flatMap_eq_iff t.pidOf_mem_facts]
        exact fun _ => hperm.count_eq pid
      cases f with
      | ports => exact absurd rfl hf
      | _ => exact hsame
  · apply normalizeUnreadable_eq_of_mem_iff (hs.oneErrno hapart)
    intro u
    rw [hs.unreadable, ht.unreadable, hprior]
    refine or_congr_right ?_
    unfold Blames
    rw [hperm.mem_iff]
    refine and_congr_right fun hpid => ?_
    rw [h.blind u.pid (hperm.mem_iff.mpr hpid)]
  · exact hs.errors.trans (herrors.trans ht.errors.symm)

end Order

end Survey

/-- Documents that agree on all but the listeners are equal where these agree. -/
theorem Snapshot.eq_iff_ports {s t : Snapshot}
    (h : { s with ports := [] } = ({ t with ports := [] } : Snapshot)) :
    s = t ↔ s.ports = t.ports := by
  cases s
  cases t
  simp only [Snapshot.mk.injEq] at h ⊢
  tauto

end Osfacts
