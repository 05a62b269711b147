import Osfacts.Contract.Account
import Osfacts.Contract.Survey

set_option autoImplicit false

/-! # The Linux snapshot as a survey

Each selected pid has its readings and, for the ports, the walk over its descriptors. The pids
below a list of roots are distinct, and each can be reached from a root that exists.
-/

namespace Osfacts.Linux

/-! ## The pids below a list of roots -/

section Roots

variable {g : ProcGraph}

/-- The turn of a root finds nothing that the property does not pass on to. -/
theorem finds_collectRoot {p : Pid → Prop} (hp : ∀ a x, p a → g.Lists a x → p x) {c : Collected}
    (h : Walk.Finds p ⟨[], c.seen, c.out⟩) {r : Pid} (hr : g.pathExists r = true → p r) :
    Walk.Finds p ⟨[], (collectRoot g c r).seen, (collectRoot g c r).out⟩ := by
  by_cases hseen : r ∈ c.seen
  · rw [collectRoot_seen hseen]
    exact h
  · cases hexists : g.pathExists r with
    | false =>
        rw [collectRoot_missing hseen hexists]
        exact ⟨h.nodup, fun a ha => Finset.mem_insert_of_mem (h.seen a ha), h.found, h.stack⟩
    | true =>
        rw [collectRoot_walk hseen hexists]
        have hstart : Walk.visit ⟨[], c.seen, c.out⟩ r = ⟨[r], insert r c.seen, c.out ++ [r]⟩ :=
          if_neg hseen
        have hwalk := Walk.Finds.walk hp (h.visit (hr hexists))
        rw [hstart] at hwalk
        exact ⟨hwalk.nodup, hwalk.seen, hwalk.found, List.forall_mem_nil _⟩

theorem finds_collectRoots {p : Pid → Prop} (hp : ∀ a x, p a → g.Lists a x → p x)
    {roots : List Pid} (hroots : ∀ r ∈ roots, g.pathExists r = true → p r) :
    Walk.Finds p ⟨[], (collectRoots g roots []).seen, (collectRoots g roots []).out⟩ := by
  induction roots using List.reverseRecOn with
  | nil =>
      exact ⟨List.nodup_nil, List.forall_mem_nil _, List.forall_mem_nil _, List.forall_mem_nil _⟩
  | append_singleton roots r ih =>
      rw [collectRoots_concat]
      refine finds_collectRoot hp (ih fun s hs => hroots s (List.mem_append_left _ hs)) ?_
      exact hroots r (List.mem_append_right _ List.mem_cons_self)

/-- The pids below a list of roots are distinct. -/
theorem nodup_collectRoots (roots : List Pid) : (collectRoots g roots []).out.Nodup :=
  (finds_collectRoots (p := fun _ => True) (fun _ _ _ _ => trivial) (fun _ _ _ => trivial)).nodup

/-- Each of them can be reached from a root that exists. -/
theorem reached_of_mem_out {roots : List Pid} {x : Pid} (h : x ∈ (collectRoots g roots []).out) :
    ∃ r ∈ roots, g.pathExists r = true ∧ Relation.ReflTransGen g.Lists r x := by
  refine (finds_collectRoots (p := fun x =>
    ∃ r ∈ roots, g.pathExists r = true ∧ Relation.ReflTransGen g.Lists r x) ?_ ?_).found x h
  · rintro a x ⟨r, hr, hexists, hreach⟩ hstep
    exact ⟨r, hr, hexists, hreach.tail hstep⟩
  · exact fun r hr hexists => ⟨r, hr, hexists, .refl⟩

/-- A root whose walk failed is among the pids all the same. -/
theorem FailedRoot.mem_out {roots : List Pid} {r : Pid} {err : Errno}
    (h : FailedRoot g roots r err) : r ∈ (collectRoots g roots []).out := by
  obtain ⟨c, ⟨⟨pre, post, rfl, -⟩, -⟩, hexists, -⟩ := h
  have hseen : r ∈ (collectRoots g (pre ++ r :: post) []).seen :=
    mem_seen_collectRoots.mpr (Or.inl (List.mem_append_right _ List.mem_cons_self))
  rcases mem_seen_iff_out.1.mp hseen with hout | ⟨c', -, hmissing⟩
  · exact hout
  · rw [hexists] at hmissing
    cases hmissing

end Roots

/-! ## The survey -/

section Survey

variable (os : Os) (args : SnapshotArgs) (pids : List Pid)

/-- The errno of a walk over the descriptors that failed: without the tables of the listeners there
is no walk. -/
def walkErrno (pid : Pid) : Option Errno :=
  match args.ports, loadListeners os, socketInodes os pid with
  | true, .ok _, .error err => some err
  | _, _, _ => none

theorem walkErrno_eq_some {os : Os} {args : SnapshotArgs} {pid : Pid} {err : Errno} :
    walkErrno os args pid = some err ↔ args.ports = true ∧
      (∃ listeners, loadListeners os = .ok listeners) ∧ socketInodes os pid = .error err := by
  unfold walkErrno
  cases args.ports with
  | false => simp
  | true =>
      cases loadListeners os with
      | error e => simp
      | ok listeners => cases socketInodes os pid <;> simp

/-- What a snapshot of the selected pids finds out. -/
def survey : Survey where
  selection := pids
  reading := reading os args (constants os args)
  blind pid := blindSpots (reading os args (constants os args) pid) (walkErrno os args pid) none
  prior := collectionRows os args
  errors := constantErrors os args ++ portErrors os args
  own := pidOf_of_reading
  blind_iff := blindSpots_facet

end Survey

section Document

variable {os : Os} {args : SnapshotArgs} {pids : List Pid}

/-- A `U` row is blamed by the survey where a reading or the walk over the descriptors failed. -/
theorem blames_iff {u : Unreadable} :
    (survey os args pids).Blames u ↔
      (∃ pid ∈ pids, ∃ f err, f ≠ Flag.ports ∧
        reading os args (constants os args) pid f = some (.error err) ∧
        u = ⟨pid, f.facet, errnoName err⟩) ∨ u ∈ portBlame os args pids := by
  unfold Survey.Blames
  rw [Option.map_eq_some_iff, mem_portBlame]
  show (u.pid ∈ pids ∧ ∃ err, blindSpots _ _ none u.facet = some err ∧ _) ↔ _
  simp only [blindSpots_eq_some, walkErrno_eq_some]
  constructor
  · rintro ⟨hpid, err, ⟨f, hf, hfacet, hr⟩ | ⟨hfacet, hports, hload, hwalk⟩ | ⟨-, hnone⟩, herrno⟩
    · exact Or.inl ⟨u.pid, hpid, f, err, hf, hr, by rw [hfacet, herrno]⟩
    · exact Or.inr ⟨hports, hload, u.pid, hpid, err, hwalk, by rw [← hfacet, herrno]⟩
    · cases hnone
  · rintro (⟨pid, hpid, f, err, hf, hr, rfl⟩ | ⟨hports, hload, pid, hpid, err, hwalk, rfl⟩)
    · exact ⟨hpid, err, Or.inl ⟨f, hf, rfl, hr⟩, rfl⟩
    · exact ⟨hpid, err, Or.inr (Or.inl ⟨rfl, hports, hload, hwalk⟩), rfl⟩

/-- **The document reports the survey.** -/
theorem snapshot_reports (hsel : selected os args = .ok pids) :
    (survey os args pids).Reports (snapshot os args) where
  version := (snapshot_eq hsel).2.2.2.2
  table hf := (snapshot_eq hsel).1 _ hf
  unreadable := by
    intro u
    rw [mem_unreadable hsel, blames_iff]
    exact Iff.rfl
  errors := (snapshot_eq hsel).2.2.2.1

/-- The roots that do not exist are blamed apart from the pids. A root whose walk failed is blamed
and selected, so this is said of asks that have none. -/
theorem survey_apart (hsel : selected os args = .ok pids)
    (houtside : ∀ u ∈ collectionRows os args, u.pid ∉ pids) : (survey os args pids).Apart where
  outside := houtside
  oneErrno u hu v hv _ _ := by
    have herrno : ∀ w ∈ collectionRows os args, w.errno = errnoName Libc.ENOENT := by
      intro w hw
      cases hscope : args.scope with
      | host =>
          rw [collectionRows, hscope] at hw
          cases hw
      | pids list =>
          rw [collectionRows, hscope] at hw
          cases hw
      | roots roots =>
          have hrow := hw
          rw [collectionRows, hscope] at hrow
          rcases mem_unreadable_collectRoots.mp hrow with ⟨r, -, rfl⟩ | ⟨r, err, hfailed, rfl⟩
          · rfl
          · -- a root whose walk failed is selected
            rw [selected, hscope] at hsel
            obtain rfl : (collectRoots (graphOf os) roots []).out = pids := Except.ok.inj hsel
            exact absurd hfailed.mem_out (houtside _ hw)
    rw [herrno u hu, herrno v hv]

theorem nodup_selected (hsel : selected os args = .ok pids)
    (hscope : ∀ list, args.scope = .pids list → list.Nodup) : pids.Nodup := by
  rw [selected] at hsel
  cases hs : args.scope with
  | host =>
      rw [hs] at hsel
      exact (nodup_hostPids hsel).1
  | pids list =>
      rw [hs] at hsel
      obtain rfl : list = pids := Except.ok.inj hsel
      exact hscope list hs
  | roots roots =>
      rw [hs] at hsel
      obtain rfl : (collectRoots (graphOf os) roots []).out = pids := Except.ok.inj hsel
      exact nodup_collectRoots roots

end Document

end Osfacts.Linux
