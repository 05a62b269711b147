import Osfacts.Contract.Account

set_option autoImplicit false

/-! # Facet independence

Two asks of one state, the second a superset of the first. What the document says about a
facet of the first ask is the same in both, apart from resident memory, which comes from
`statm` until some other facet loads `stat`.
-/

namespace Osfacts.Linux

/-! ## What the document says about one facet -/

/-- The `U` rows of one facet. -/
def blameOf (doc : Snapshot) (facet : Facet) : List Unreadable :=
  doc.unreadable.filter (fun u => u.facet = facet)

/-- The `E` rows of one facet. -/
def errorsOf (doc : Snapshot) (facet : Facet) : List SourceError :=
  doc.errors.filter (fun e => e.facet = facet)

/-- Two asks say the same about a flag: the same facts, `U` rows and `E` rows. -/
def SameFacet (os : Os) (a b : SnapshotArgs) (f : Flag) : Prop :=
  (snapshot os a).table f = (snapshot os b).table f ∧
  blameOf (snapshot os a) f.facet = blameOf (snapshot os b) f.facet ∧
  errorsOf (snapshot os a) f.facet = errorsOf (snapshot os b) f.facet

theorem facet_eq_iff {f g : Flag} : f.facet = g.facet ↔ f = g := Flag.facet_injective.eq_iff

theorem filter_blame {pid : Pid} {f g : Flag} (r : Option (Except Errno f.Row)) :
    (blame pid f.facet r).filter (fun u => u.facet = g.facet)
      = if f = g then blame pid f.facet r else [] := by
  cases r with
  | none => simp [blame]
  | some r =>
      cases r with
      | ok row => simp [blame]
      | error err =>
          by_cases hfg : f = g
          · simp [blame, hfg]
          · simp [blame, facet_eq_iff, hfg]

/-- Of the `U` rows of one pid, those of a facet are the blame of its flag. -/
theorem filter_pidBlame (os : Os) (args : SnapshotArgs) (k : Constants) (pid : Pid) (g : Flag) :
    (pidBlame os args k pid).filter (fun u => u.facet = g.facet)
      = blame pid g.facet (reading os args k pid g) := by
  simp only [pidBlame, List.filter_flatMap, filter_blame]
  cases g <;> simp [pidFlags, reading_ports, blame]

theorem filter_portBlame (os : Os) (args : SnapshotArgs) (pids : List Pid) (g : Flag) :
    (portBlame os args pids).filter (fun u => u.facet = g.facet)
      = if g = .ports then portBlame os args pids else [] := by
  have hports : ∀ u ∈ portBlame os args pids, u.facet = Flag.ports.facet := by
    intro u hu
    obtain ⟨-, -, pid, -, err, -, rfl⟩ := mem_portBlame.mp hu
    rfl
  split_ifs with hg
  · rw [List.filter_eq_self]
    intro u hu
    simp [hports u hu, hg]
  · rw [List.filter_eq_nil_iff]
    intro u hu
    simp [hports u hu, facet_eq_iff, Ne.symm hg]

section Document

variable {os : Os} {args : SnapshotArgs} {pids : List Pid}

/-- The `U` rows of a facet: the collection's, the readings' and the descriptor walk's. -/
theorem blameOf_snapshot (hsel : selected os args = .ok pids) (g : Flag) :
    blameOf (snapshot os args) g.facet
      = (collectionRows os args).filter (fun u => u.facet = g.facet)
        ++ pids.flatMap (fun pid => blame pid g.facet (reading os args (constants os args) pid g))
        ++ if g = .ports then portBlame os args pids else [] := by
  rw [blameOf, (snapshot_eq hsel).2.2.1, List.filter_append, List.filter_append,
    List.filter_flatMap, filter_portBlame]
  simp only [filter_pidBlame]

end Document

/-! ## The `E` rows of a flag that both asks have -/

theorem filter_constantError [Libc] {α : Type} (asked : Bool) (source : String)
    (facet facet' : Facet) (r : Except Errno α) :
    (constantError asked source facet r).filter (fun e => e.facet = facet')
      = if facet = facet' then constantError asked source facet r else [] := by
  cases asked with
  | false => simp [constantError]
  | true =>
      cases r with
      | ok a => simp [constantError]
      | error err =>
          by_cases h : facet = facet'
          · simp [constantError, sourceError, h]
          · simp [constantError, sourceError, h]

section Pair

variable {os : Os} {a b : SnapshotArgs}

theorem constantErrors_congr {f : Flag} (ha : a.asks f = true) (hb : b.asks f = true) :
    (constantErrors os a).filter (fun e => e.facet = f.facet)
      = (constantErrors os b).filter (fun e => e.facet = f.facet) := by
  simp only [constantErrors, List.filter_append, filter_constantError]
  cases f <;> simp_all [SnapshotArgs.asks, Flag.facet]

theorem portErrors_congr {f : Flag} (ha : a.asks f = true) (hb : b.asks f = true) :
    (portErrors os a).filter (fun e => e.facet = f.facet)
      = (portErrors os b).filter (fun e => e.facet = f.facet) := by
  by_cases hf : f = .ports
  · subst hf
    have hports : portErrors os a = portErrors os b := by
      unfold portErrors
      rw [show a.ports = true from ha, show b.ports = true from hb]
    rw [hports]
  · have hnone : ∀ args : SnapshotArgs,
        (portErrors os args).filter (fun e => e.facet = f.facet) = [] := by
      intro args
      rw [List.filter_eq_nil_iff]
      intro e he
      have hfacet : e.facet = Flag.ports.facet := by
        unfold portErrors at he
        split at he
        · rw [List.mem_singleton.mp he]
          rfl
        · cases he
      simp [hfacet, facet_eq_iff, Ne.symm hf]
    rw [hnone a, hnone b]

/-- A failed listing costs each asked facet one `E` row. -/
theorem errorsOf_listing {args : SnapshotArgs} {err : Errno} (hsel : selected os args = .error err)
    {f : Flag} (hask : args.asks f = true) :
    errorsOf (snapshot os args) f.facet = [sourceError "proc_readdir" f.facet err] := by
  -- each flag has a facet of its own, and is listed once
  have hall : Flag.all.filter (fun g => g = f) = [f] := by cases f <;> rfl
  rw [errorsOf, snapshot_of_error hsel, askedFacets_eq]
  simp only [List.map_map, List.filter_map, Function.comp_def, sourceError, facet_eq_iff]
  rw [List.filter_comm, hall]
  simp [hask]

theorem selected_congr (os : Os) (hscope : a.scope = b.scope) : selected os a = selected os b := by
  rw [selected, selected, hscope]

theorem collectionRows_congr (hscope : a.scope = b.scope) :
    collectionRows os a = collectionRows os b := by
  rw [collectionRows, collectionRows, hscope]

theorem errorsOf_congr (hscope : a.scope = b.scope) {f : Flag} (ha : a.asks f = true)
    (hb : b.asks f = true) :
    errorsOf (snapshot os a) f.facet = errorsOf (snapshot os b) f.facet := by
  have hsel := selected_congr os hscope
  cases hpids : selected os b with
  | error err => rw [errorsOf_listing (hsel.trans hpids) ha, errorsOf_listing hpids hb]
  | ok pids =>
      rw [errorsOf, errorsOf, (snapshot_eq (hsel.trans hpids)).2.2.2.1,
        (snapshot_eq hpids).2.2.2.1, List.filter_append, List.filter_append,
        constantErrors_congr ha hb, portErrors_congr ha hb]

/-! ## Readings -/

/-- A reading other than resident memory does not depend on what else was asked. -/
theorem reading_congr {pid : Pid} {f : Flag} (hf : f ≠ .mem) (ha : a.asks f = true)
    (hb : b.asks f = true) :
    reading os a (constants os a) pid f = reading os b (constants os b) pid f := by
  cases f with
  | mem => exact absurd rfl hf
  | ports => rfl
  | _ => simp_all [SnapshotArgs.asks, reading, constants]

/-- Resident memory of a pid comes out the same from `stat` and from `statm`: the same bytes,
or two errnos of one name. -/
def SameRss (os : Os) (page : UInt64) (pid : Pid) : Prop :=
  ((statOf os pid).bind (fun stat => readRssFromStat stat page)).mapError errnoName
    = (readRssFromStatm os pid page).mapError errnoName

theorem reading_mem {args : SnapshotArgs} {page : UInt64} (hask : args.mem = true)
    (hpage : pageSize os = .ok page) (pid : Pid) :
    reading os args (constants os args) pid .mem
      = some ((readRss os args pid page).map (fun rss => (⟨pid, rss⟩ : Memory))) := by
  rw [reading, if_pos hask, constants, if_pos hask, hpage]
  rfl

theorem reading_mem_of_error {args : SnapshotArgs} {err : Errno} (hpage : pageSize os = .error err)
    (pid : Pid) : reading os args (constants os args) pid .mem = none := by
  rw [reading, constants, hpage]
  split_ifs <;> rfl

/-- Two memory readings leave the same rows exactly when they agree up to the errno's name. -/
theorem rows_eq_iff {pid : Pid} {x y : Except Errno UInt64} :
    (facts (some (x.map (fun rss => (⟨pid, rss⟩ : Memory))))
        = facts (some (y.map (fun rss => (⟨pid, rss⟩ : Memory)))) ∧
      blame pid .mem (some (x.map (fun rss => (⟨pid, rss⟩ : Memory))))
        = blame pid .mem (some (y.map (fun rss => (⟨pid, rss⟩ : Memory)))))
      ↔ x.mapError errnoName = y.mapError errnoName := by
  cases x <;> cases y <;> simp [Except.map, Except.mapError, facts, blame]

/-! ## Comparing two documents -/

/-- Two asks say the same about a flag exactly when they read the same of every pid. -/
theorem sameFacet_iff {pids : List Pid} (hscope : a.scope = b.scope)
    (hsel : selected os b = .ok pids) {f : Flag} (hf : f ≠ .ports) (ha : a.asks f = true)
    (hb : b.asks f = true) :
    SameFacet os a b f ↔ ∀ pid ∈ pids,
      facts (reading os a (constants os a) pid f) = facts (reading os b (constants os b) pid f) ∧
      blame pid f.facet (reading os a (constants os a) pid f)
        = blame pid f.facet (reading os b (constants os b) pid f) := by
  have hsel' := (selected_congr os hscope).trans hsel
  have hfacts : ∀ args pid, ∀ row ∈ facts (reading os args (constants os args) pid f),
      f.pidOf row = some pid := fun args pid row hrow => pidOf_of_reading (mem_facts.mp hrow)
  have hblame : ∀ args pid, ∀ u ∈ blame pid f.facet (reading os args (constants os args) pid f),
      some u.pid = some pid := by
    intro args pid u hu
    obtain ⟨err, -, rfl⟩ := mem_blame.mp hu
    rfl
  rw [SameFacet, (snapshot_eq hsel').1 f hf, (snapshot_eq hsel).1 f hf, blameOf_snapshot hsel',
    blameOf_snapshot hsel, if_neg hf, if_neg hf, List.append_nil, List.append_nil,
    collectionRows_congr hscope, List.append_right_inj,
    flatMap_eq_iff_of_key (hfacts a) (hfacts b), flatMap_eq_iff_of_key (hblame a) (hblame b)]
  constructor
  · rintro ⟨hrows, hunreadable, -⟩ pid hpid
    exact ⟨hrows pid hpid, hunreadable pid hpid⟩
  · intro h
    exact ⟨fun pid hpid => (h pid hpid).1, fun pid hpid => (h pid hpid).2,
      errorsOf_congr hscope ha hb⟩

/-- Ports depend on the listener tables and the descriptors alone. -/
theorem sameFacet_ports {pids : List Pid} (hscope : a.scope = b.scope)
    (hsel : selected os b = .ok pids) (ha : a.ports = true) (hb : b.ports = true) :
    SameFacet os a b .ports := by
  have hsel' := (selected_congr os hscope).trans hsel
  have hrows : portRows os a pids = portRows os b pids := by
    unfold portRows
    rw [ha, hb]
  have hblame : portBlame os a pids = portBlame os b pids := by
    unfold portBlame
    rw [ha, hb]
  refine ⟨?_, ?_, errorsOf_congr hscope ha hb⟩
  · show (snapshot os a).ports = (snapshot os b).ports
    rw [(snapshot_eq hsel').2.1, (snapshot_eq hsel).2.1, hrows]
  · rw [blameOf_snapshot hsel', blameOf_snapshot hsel, collectionRows_congr hscope, hblame]
    rfl

/-- Where `/proc` cannot be listed there are only `E` rows. -/
theorem sameFacet_listing {err : Errno} (hscope : a.scope = b.scope)
    (hsel : selected os b = .error err) {f : Flag} (ha : a.asks f = true) (hb : b.asks f = true) :
    SameFacet os a b f := by
  have hsel' := (selected_congr os hscope).trans hsel
  refine ⟨?_, ?_, errorsOf_congr hscope ha hb⟩
  · rw [snapshot_of_error hsel', snapshot_of_error hsel]
    cases f <;> rfl
  · rw [snapshot_of_error hsel', snapshot_of_error hsel]
    rfl

/-- A larger ask loads `stat` if a smaller one does. -/
theorem loadsStat_mono (hsub : ∀ f, a.asks f = true → b.asks f = true)
    (h : loadsStat a = true) : loadsStat b = true := by
  have hprocs := hsub .procs
  have hstart := hsub .startTime
  have hcpu := hsub .cpuTime
  have hstatus := hsub .status
  simp only [loadsStat, SnapshotArgs.asks, Bool.or_eq_true] at *
  tauto

end Pair

/-! ## Independence -/

/-- Where the second ask loads `stat` and the first does not, the two sources of resident
memory come out the same for every selected pid. -/
def MemSourcesAgree (os : Os) (a b : SnapshotArgs) : Prop :=
  a.mem = true → loadsStat a = false → loadsStat b = true →
    ∀ page, pageSize os = .ok page → ∀ pids, selected os a = .ok pids →
      ∀ pid ∈ pids, SameRss os page pid

/-- **Facet independence.** Asking for more leaves what is said about the facets already asked
as it was, exactly when the two sources of resident memory agree where the larger ask changes
from one to the other. -/
theorem facet_independence_iff (os : Os) {a b : SnapshotArgs} (hscope : a.scope = b.scope)
    (hsub : ∀ f, a.asks f = true → b.asks f = true) :
    (∀ f, a.asks f = true → SameFacet os a b f) ↔ MemSourcesAgree os a b := by
  have hsel := selected_congr os hscope
  constructor
  · intro h hmem hstatm hstat page hpage pids hpids pid hpid
    have hmem' : b.mem = true := hsub .mem hmem
    have hask : a.asks .mem = true := hmem
    have hsame := ((sameFacet_iff hscope (hsel ▸ hpids) (by decide) hask hmem').mp
      (h .mem hask)) pid hpid
    rw [reading_mem hmem hpage, reading_mem hmem' hpage] at hsame
    have hrss := rows_eq_iff.mp hsame
    rw [readRss, readRss, hstatm, hstat] at hrss
    exact hrss.symm
  · intro h f ha
    have hb := hsub f ha
    cases hpids : selected os b with
    | error err => exact sameFacet_listing hscope hpids ha hb
    | ok pids =>
        by_cases hports : f = .ports
        · subst hports
          exact sameFacet_ports hscope hpids ha hb
        rw [sameFacet_iff hscope hpids hports ha hb]
        intro pid hpid
        by_cases hmem : f = .mem
        · subst hmem
          cases hpage : pageSize os with
          | error err =>
              rw [reading_mem_of_error hpage, reading_mem_of_error hpage]
              exact ⟨rfl, rfl⟩
          | ok page =>
              rw [reading_mem ha hpage, reading_mem hb hpage]
              apply rows_eq_iff.mpr
              -- the source changes only if the larger ask is the first to load `stat`
              cases hstat : loadsStat a with
              | true =>
                  rw [readRss, readRss, hstat, loadsStat_mono hsub hstat]
              | false =>
                  cases hstat' : loadsStat b with
                  | false => rw [readRss, readRss, hstat, hstat']
                  | true =>
                      rw [readRss, readRss, hstat, hstat']
                      exact (h ha hstat hstat' page hpage pids (hsel.trans hpids) pid hpid).symm
        · rw [reading_congr hmem ha hb]
          exact ⟨rfl, rfl⟩

/-- A process whose two files agree on its 25 resident pages. -/
def pairedOs : Os :=
  singleOs [("/proc/7/stat".toList,
      ascii "7 (sh) S 1 7 7 0 -1 4 0 0 0 0 0 0 0 0 20 0 2 0 100 0 25"),
    ("/proc/7/statm".toList, ascii "300 25 9 0 0 0 0")]

/-- Adding the status to an ask for memory changes the file that the memory is read from, and
nothing about the memory. -/
theorem facet_independence_sample :
    SameFacet pairedOs sampleArgs { sampleArgs with status := true } .mem := by
  have hscope : sampleArgs.scope = { sampleArgs with status := true }.scope := rfl
  have hsub : ∀ f, sampleArgs.asks f = true →
      { sampleArgs with status := true }.asks f = true := by
    intro f
    cases f <;> decide
  refine (facet_independence_iff pairedOs hscope hsub).mpr ?_ .mem rfl
  rintro - - - page hpage pids hsel pid hpid
  obtain rfl : 4096 = page := Except.ok.inj hpage
  obtain rfl : [7, 9] = pids := Except.ok.inj hsel
  -- process 9 has neither file
  rcases List.mem_pair.mp hpid with rfl | rfl <;> rfl

/-! ## A command name that is not UTF-8 -/

/-- Where both files of a pid parse, they give the same resident pages. -/
def AgreeOnPages (os : Os) : Prop :=
  ∀ pid x y, (statOf os pid).bind (fun stat => readRssFromStat stat 1) = .ok x →
    readRssFromStatm os pid 1 = .ok y → x = y

/-- A process whose command name is the byte `0xff`: its `stat` is not UTF-8. -/
def renamedOs : Os :=
  singleOs [("/proc/7/stat".toList, ascii "7 (" ++ 0xff :: ascii ") S 1 7 7 0"),
    ("/proc/7/statm".toList, ascii "300 25 9 0 0 0 0")]

theorem renamedOs_stat (pid : Pid) : ∃ err, statOf renamedOs pid = .error err := by
  have hpath : Os.procPath pid "stat"
      = ("/proc/".toList ++ Decimal.decimal pid.toNat ++ "/".toList ++ "sta".toList) ++ ['t'] := by
    have hname : "stat".toList = "sta".toList ++ ['t'] := rfl
    unfold Os.procPath
    rw [hname, ← List.append_assoc]
  by_cases hstat : Os.procPath pid "stat" = "/proc/7/stat".toList
  · refine ⟨Libc.EIO, ?_⟩
    rw [statOf, hstat]
    rfl
  · by_cases hstatm : Os.procPath pid "stat" = "/proc/7/statm".toList
    · -- the two paths end in different letters
      have hlast := congrArg List.getLast? (hpath.symm.trans hstatm)
      rw [List.getLast?_concat] at hlast
      exact absurd hlast (by decide)
    · refine ⟨Libc.ENOENT, ?_⟩
      have hread : renamedOs.readFile (Os.procPath pid "stat") = .error Libc.ENOENT := by
        show (List.lookup (Os.procPath pid "stat") _).elim _ _ = _
        rw [List.lookup_cons, beq_false_of_ne hstat, List.lookup_cons, beq_false_of_ne hstatm]
        rfl
      rw [statOf, Os.readString, hread]
      rfl

/-- The memory of that process. -/
def renamedArgs : SnapshotArgs := { sampleArgs with scope := .pids [7] }

/-- Asking for the name as well turns the readable memory of that process into a `U` row. -/
theorem facet_independence_renamed :
    ¬ ∀ os, AgreeOnPages os → ∀ a b : SnapshotArgs, a.scope = b.scope →
      (∀ f, a.asks f = true → b.asks f = true) → ∀ f, a.asks f = true → SameFacet os a b f := by
  intro h
  have hagree : AgreeOnPages renamedOs := by
    intro pid x y hx
    obtain ⟨err, herr⟩ := renamedOs_stat pid
    rw [herr] at hx
    cases hx
  have hscope : renamedArgs.scope = { renamedArgs with procs := true }.scope := rfl
  have hsub : ∀ f, renamedArgs.asks f = true →
      { renamedArgs with procs := true }.asks f = true := by
    intro f
    cases f <;> decide
  have hpids : selected renamedOs { renamedArgs with procs := true } = .ok [7] := rfl
  have hmem : renamedArgs.asks .mem = true := rfl
  have hsame := h renamedOs hagree _ _ hscope hsub .mem hmem
  have hrows := (sameFacet_iff hscope hpids (by decide) hmem (hsub .mem hmem)).mp hsame 7
    List.mem_cons_self
  have hpage : pageSize renamedOs = .ok 4096 := rfl
  rw [reading_mem hmem hpage, reading_mem (hsub .mem hmem) hpage] at hrows
  -- `statm` is read, `stat` is not
  have hstatm : readRss renamedOs renamedArgs 7 4096 = .ok 102400 := rfl
  have hstat : readRss renamedOs { renamedArgs with procs := true } 7 4096 = .error Libc.EIO := rfl
  have hrss := rows_eq_iff.mp hrows
  rw [hstatm, hstat] at hrss
  cases hrss

end Osfacts.Linux
