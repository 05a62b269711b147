import Osfacts.Contract.DarwinSurvey
import Osfacts.Contract.SharedRows
import Osfacts.Contract.Verbs
import Osfacts.Platforms

set_option autoImplicit false

/-! # What a supervisor is told

`osfactsSocketHolders`, from the path a supervisor is about to bind to the answer it acts on, for
every path and every platform. Linux alone can prove that a path is free; the other two
platforms never say so.
-/

namespace Osfacts

open Client Linux

/-! ## The verb on the command line -/

section Parse

variable {L : Lexopt} {ready finished : L.Parser → List Bytes → Prop} {pending : L.Parser → Prop}

/-- What `parse` makes of the ask, by the loop of the verb. -/
theorem parse_holdersArgs (hL : L.Lawful ready finished pending) (path : Text) (procs : Bool) :
    ∃ p fuel, ready p (Utf8.encode path :: procsArgs procs) ∧
      parse L ((socketHoldersArgs path procs).map Utf8.encode)
        = (parseSocketHolders L (fuel + 3) p).map (fun r => r.map .socketHolders) := by
  have hargs : (socketHoldersArgs path procs).map Utf8.encode
      = Utf8.encode "socket-holders".toList :: Utf8.encode path :: procsArgs procs := by
    cases procs <;> rfl
  obtain ⟨p, hready, hparse⟩ := parse_socketHolders hL (Utf8.encode path :: procsArgs procs)
  obtain ⟨fuel, hfuel⟩ := exists_parseFuel
    (Utf8.encode "socket-holders".toList :: Utf8.encode path :: procsArgs procs) (n := 3) (by simp)
  refine ⟨p, fuel, hready, ?_⟩
  rw [hargs, hparse, hfuel]

theorem parse_positional (hL : L.Lawful ready finished pending) {path : Text} {procs : Bool}
    (hne : path ≠ []) (hpath : Lexopt.Positional path) :
    parse L ((socketHoldersArgs path procs).map Utf8.encode)
      = some (.ok (.socketHolders ⟨Utf8.encode path, procs, false⟩)) := by
  obtain ⟨p, fuel, hready, hparse⟩ := parse_holdersArgs hL path procs
  rw [hparse, socketHolders_positional hL hne hpath hready fuel]
  rfl

/-- Two dashes in front of `--procs`: the flag is taken for the path. -/
theorem parse_dashes (hL : L.Lawful ready finished pending) :
    parse L ((socketHoldersArgs "--".toList true).map Utf8.encode)
      = some (.ok (.socketHolders ⟨Utf8.encode "--procs".toList, false, false⟩)) := by
  obtain ⟨p, fuel, hready, hparse⟩ := parse_holdersArgs hL "--".toList true
  have hterminator := socketHolders_terminator hL hready fuel
  rw [if_pos rfl] at hterminator
  rw [hparse, hterminator]
  rfl

/-- A path that reads like an option is a request for help, or it is refused. -/
theorem parse_optionLike (hL : L.Lawful ready finished pending) {path : Text} (procs : Bool)
    (hpath : ¬ Lexopt.Positional path) (hdashes : path ≠ "--".toList) :
    if HelpLike path then
      parse L ((socketHoldersArgs path procs).map Utf8.encode) = some (.error (.help HELP))
    else Refused (parse L ((socketHoldersArgs path procs).map Utf8.encode)) := by
  obtain ⟨p, fuel, hready, hparse⟩ := parse_holdersArgs hL path procs
  -- the verdict of the verb is the verdict of the program
  have hverdict : ∀ isHelp : Prop, [Decidable isHelp] → (HelpLike path ↔ isHelp) →
      (if isHelp then parseSocketHolders L (fuel + 3) p = some (.error (.help HELP))
        else Refused (parseSocketHolders L (fuel + 3) p)) →
      if HelpLike path then
        parse L ((socketHoldersArgs path procs).map Utf8.encode) = some (.error (.help HELP))
      else Refused (parse L ((socketHoldersArgs path procs).map Utf8.encode)) := by
    intro isHelp _ hhelp hloop
    by_cases hlike : HelpLike path
    · rw [if_pos (hhelp.mp hlike)] at hloop
      rw [if_pos hlike, hparse, hloop]
      rfl
    · rw [if_neg (fun hpos => hlike (hhelp.mpr hpos))] at hloop
      obtain ⟨message, hloop⟩ := hloop
      rw [if_neg hlike, hparse, hloop]
      exact ⟨message, rfl⟩
  rcases path_shapes path with hpos | ⟨c, t, hc, rfl⟩ | rfl | ⟨name, hname, heq, rfl⟩
    | ⟨name, v, heq, rfl⟩
  · exact absurd hpos hpath
  · exact hverdict _ (helpLike_short hc) (socketHolders_short hL hc hready fuel)
  · exact absurd rfl hdashes
  · exact hverdict _ (helpLike_long heq) (socketHolders_long hL hname heq hready fuel)
  · exact hverdict _ (helpLike_long_value heq) (socketHolders_long_value hL heq hready fuel)

end Parse

/-! ## The documents of the platforms -/

/-- A document with nothing but a blind source of holders in it. -/
theorem take_blind_wire {s : SocketHolders} {e : SourceError}
    (hversion : s.version = SCHEMA_VERSION) (hholders : s.holders = []) (hprocs : s.procs = [])
    (hunreadable : s.unreadable = []) (herrors : s.errors = [e])
    (he : e.Wire Facet.SOCKET_HOLDERS_SOURCE) : (take s).Wire := by
  refine take_wire hversion ?_ (namesOk_of_nil hprocs hunreadable) ?_
  · rw [hholders]
    exact List.forall_mem_nil _
  · rw [herrors]
    exact List.forall_mem_singleton.mpr he

/-- It is `unattributed`. -/
theorem fold_blind {s : SocketHolders} {e : SourceError} (hholders : s.holders = [])
    (herrors : s.errors = [e]) (hfacet : e.facet = .socketHolders) :
    ∃ detail, foldSocketOccupancy (take s).view = .ok (.unattributed detail) := by
  have hnone : (take s).view.holders = [] := by
    show (dedupByKey holderKey (sortByKey holderKey s.holders)).map Attribution.view = []
    rw [hholders]
    rfl
  have hnamed : namedHolders (take s).view = [] := by
    rw [namedHolders, hnone]
    rfl
  have hblind : (take s).view.errors = [e.view] := by
    show s.errors.map SourceError.view = _
    rw [herrors]
    rfl
  have hfound : [e.view].find? (fun row => row.facet == "socket_holders".toList)
      = some e.view := by
    apply List.find?_cons_of_pos
    show (e.facet.asStr == _) = true
    rw [hfacet]
    decide
  rw [foldSocketOccupancy, hnamed, hnone, hblind, hfound]
  exact ⟨_, rfl⟩

/-- Claimed holders are `held`, by exactly those, ascending. -/
theorem fold_claimed {s : SocketHolders} {claimed : List Pid}
    (hholders : s.holders = claimed.map .claimed) (hne : claimed ≠ []) :
    ∃ first rest, foldSocketOccupancy (take s).view = .ok (.held first rest) ∧
      ((first :: rest).map SocketHolder.pid).Pairwise (· < ·) ∧
      ∀ n, n ∈ (first :: rest).map SocketHolder.pid ↔ ∃ pid ∈ claimed, pid.toNat = n := by
  have hpids : (namedHolders (take s).view).map SocketHolder.pid
      = heldPids (dedupByKey holderKey (sortByKey holderKey (claimed.map .claimed))) := by
    rw [namedHolders_pids, ← hholders]
    rfl
  obtain ⟨hascending, hmem⟩ := heldPids_normalize claimed
  rw [← hpids] at hascending hmem
  cases hnamed : namedHolders (take s).view with
  | nil =>
      obtain ⟨pid, hpid⟩ := List.exists_mem_of_ne_nil _ hne
      have hn := (hmem pid.toNat).mpr ⟨pid, hpid, rfl⟩
      rw [hnamed] at hn
      cases hn
  | cons first rest =>
      rw [hnamed] at hascending hmem
      refine ⟨first, rest, ?_, hascending, hmem⟩
      rw [foldSocketOccupancy, hnamed]

theorem Linux.socketHolders_wire (os : Os) (args : SocketHoldersArgs) :
    (take (Linux.socketHolders os args)).Wire := by
  rcases socketHolders_cases os args.path args.procs with
    ⟨source, err, hsource, hblind, -⟩ | ⟨hnew, -⟩ | ⟨inodes, pids, hsearch, -, hfound⟩
  · have hdoc : Linux.socketHolders os args = holdersBlind source err := hblind
    rw [hdoc]
    refine take_blind_wire rfl rfl rfl rfl rfl (sourceError_wire (by decide) ?_ ?_)
    · rcases hsource with rfl | rfl <;> decide
    · rcases hsource with rfl | rfl <;> decide
  · have hdoc : Linux.socketHolders os args = SocketHolders.new := hnew
    rw [hdoc]
    exact take_wire rfl (List.forall_mem_nil _) (namesOk_of_nil rfl rfl) (List.forall_mem_nil _)
  · exact found_wire hsearch.listed hfound

namespace Darwin

/-- The processes of the table whose descriptors show the path. -/
def claimed (os : Os) (table : ProcessTable) (path : Bytes) : List Pid :=
  (table.map Prod.fst).filter (fun pid => holdsUnixSocket os pid path matches .ok true)

theorem mem_claimed {os : Os} {table : ProcessTable} {path : Bytes} {pid : Pid} :
    pid ∈ claimed os table path ↔
      pid ∈ table.map Prod.fst ∧ holdsUnixSocket os pid path = .ok true := by
  rw [claimed, List.mem_filter]
  refine and_congr_right fun _ => ?_
  split <;> simp_all

/-- What the darwin sensor says: a blind source, or holders that are all claimed. -/
theorem socketHolders_cases (os : Os) (args : SocketHoldersArgs) :
    (∃ e : SourceError, e.Wire Facet.SOCKET_HOLDERS_SOURCE ∧ e.facet = .socketHolders ∧
      socketHolders os args = { SocketHolders.new with errors := [e] } ∧
      ∀ table, readProcessTable os = .ok table → claimed os table args.path = []) ∨
    ∃ table, readProcessTable os = .ok table ∧ claimed os table args.path ≠ [] ∧
      socketHolders os args = { SocketHolders.new with
        holders := (claimed os table args.path).map .claimed
        procs := if args.procs then (claimed os table args.path).filterMap (holderProc os table)
          else [] } := by
  unfold socketHolders
  cases htable : readProcessTable os with
  | error err =>
      refine Or.inl ⟨_, sourceError_wire (by decide) (by decide) (by decide), rfl, rfl, ?_⟩
      intro table h
      cases h
  | ok table =>
      by_cases hnone : claimed os table args.path = []
      · refine Or.inl ⟨blindOrEmpty "darwin_proc_fds" .socketHolders,
          ⟨by decide, by decide, by decide, by decide, by decide⟩, rfl, ?_, ?_⟩
        · exact if_pos (List.isEmpty_iff.mpr hnone)
        · intro table' h
          cases h
          exact hnone
      · exact Or.inr ⟨table, rfl, hnone, if_neg (fun hempty => hnone (List.isEmpty_iff.mp hempty))⟩

/-- A holder is named as the table has it. -/
theorem holderProc_wire {os : Os} {table : ProcessTable} (htable : PlainNames table) {pid : Pid}
    {p : Proc} (h : holderProc os table pid = some p) : p.Wire := by
  obtain ⟨row, hlookup, rfl⟩ := Option.map_eq_some_iff.mp h
  obtain ⟨before, after, rfl, -⟩ := List.lookup_eq_some_iff.mp hlookup
  exact plain_processName os pid
    (htable (pid, row) (List.mem_append_right before List.mem_cons_self))

theorem socketHolders_wire (os : Os) (args : SocketHoldersArgs) :
    (take (socketHolders os args)).Wire := by
  rcases socketHolders_cases os args with ⟨e, he, -, hdoc, -⟩ | ⟨table, htable, -, hdoc⟩
  · rw [hdoc]
    exact take_blind_wire rfl rfl rfl rfl rfl he
  · rw [hdoc]
    refine take_wire rfl (fun holder hh => ?_) ⟨fun p hp => ?_, List.forall_mem_nil _⟩
      (List.forall_mem_nil _)
    · obtain ⟨pid, hpid, rfl⟩ := List.mem_map.mp hh
      exact (readProcessTable_pids htable).2 pid (mem_claimed.mp hpid).1
    · change p ∈ (if args.procs then _ else _) at hp
      split_ifs at hp
      · obtain ⟨pid, -, hpid⟩ := List.mem_filterMap.mp hp
        exact holderProc_wire (readProcessTable_plain htable) hpid
      · cases hp

end Darwin

/-! ## The answer -/

section Answers

variable {L : Lexopt} {ready finished : L.Parser → List Bytes → Prop} {pending : L.Parser → Prop}
variable {J : JsonLib} {F : FloatLib} {W : JsonWriters F} {system : System F}
variable {rt : Runtime} {bin : Text}

/-- The document a system has about a path. -/
def System.holders (system : System F) (path : Text) (procs : Bool) : SocketHolders :=
  take (system.platform.socketHolders ⟨Utf8.encode path, procs, false⟩)

theorem System.holders_wire (system : System F) (path : Text) (procs : Bool) :
    (system.holders path procs).Wire := by
  cases system with
  | linux _ os => exact Linux.socketHolders_wire os.toOs _
  | darwin os => exact Darwin.socketHolders_wire os.toOs _
  | unsupported =>
      exact take_blind_wire rfl rfl rfl rfl rfl
        (sourceError_wire (by decide) (by decide) (by decide))

/-- An ask that the program performs is folded from the document of the sensor. -/
theorem socketHolders_performed {path path' : Text}
    (h : rt.Serves bin L J W system.platform (socketHoldersArgs path true)) {procs : Bool}
    (hne : path ≠ [])
    (hparse : parse L ((socketHoldersArgs path true).map Utf8.encode)
      = some (.ok (.socketHolders ⟨Utf8.encode path', procs, false⟩))) :
    rt.osfactsSocketHolders bin path = ⟨[(bin, socketHoldersArgs path true)],
      foldSocketOccupancy (system.holders path' procs).view⟩ := by
  have hmain : main L J W system.platform ((socketHoldersArgs path true).map Utf8.encode)
      = some (emit J W.socketHolders (system.holders path' procs) false) := by
    rw [main, hparse]
    rfl
  rw [Runtime.osfactsSocketHolders, Runtime.socketHolders, if_neg hne,
    runOsfacts_emit h hmain (writeTsv_version J _), Call.andThen_ok,
    parseSocketHoldersOutput_writeTsv J (system.holders_wire path' procs), Call.andThen_ok]

/-- The help text comes with the version line, which reads as an answer about no holder. -/
theorem socketHolders_help {path : Text}
    (h : rt.Serves bin L J W system.platform (socketHoldersArgs path true)) (hne : path ≠ [])
    (hparse : parse L ((socketHoldersArgs path true).map Utf8.encode)
      = some (.error (.help HELP))) :
    rt.osfactsSocketHolders bin path = ⟨[(bin, socketHoldersArgs path true)], .ok .none⟩ := by
  have hmain : main L J W system.platform ((socketHoldersArgs path true).map Utf8.encode)
      = some ⟨writeVersionOnly J, HELP ++ "\n".toList, 0⟩ := by
    rw [main, hparse]
    rfl
  have hchild : childDocument bin ⟨writeVersionOnly J, HELP ++ "\n".toList, 0⟩
      = .ok (writeTsv J SocketHolders.new) := by
    rw [childDocument, if_pos rfl, writeVersionOnly, stdoutText_encode]
    rfl
  have hwire : SocketHolders.new.Wire :=
    ⟨rfl, List.forall_mem_nil _, List.forall_mem_nil _, List.forall_mem_nil _,
      List.forall_mem_nil _⟩
  rw [Runtime.osfactsSocketHolders, Runtime.socketHolders, if_neg hne, runOsfacts_exit h hmain,
    hchild, Call.andThen_ok, parseSocketHoldersOutput_writeTsv J hwire]
  rfl

theorem socketHolders_refused {path : Text}
    (h : rt.Serves bin L J W system.platform (socketHoldersArgs path true)) (hne : path ≠ [])
    (hparse : Refused (parse L ((socketHoldersArgs path true).map Utf8.encode))) :
    ∃ failure, rt.osfactsSocketHolders bin path
      = ⟨[(bin, socketHoldersArgs path true)], .error (.spawn failure)⟩ := by
  obtain ⟨message, hparse⟩ := hparse
  obtain ⟨failure, hfailure⟩ := runOsfacts_usage h hparse
  refine ⟨failure, ?_⟩
  rw [Runtime.osfactsSocketHolders, Runtime.socketHolders, if_neg hne, hfailure,
    Call.andThen_error, Call.andThen_error]

end Answers

/-! ## Who holds the path -/

section Holders

variable {F : FloatLib}

/-- What the system knows to hold a path. -/
def System.Holder : System F → Bytes → Pid → Prop
  | linux _ os, path, pid =>
      ∃ inodes pids, HolderSearch os.toOs path inodes pids ∧ pid ∈ pids ∧ Holds os.toOs inodes pid
  | darwin os, path, pid =>
      ∃ table, Darwin.readProcessTable os.toOs = .ok table ∧ pid ∈ table.map Prod.fst ∧
        Darwin.holdsUnixSocket os.toOs pid path = .ok true
  | unsupported, _, _ => False

/-- The path is proven free. -/
def System.Free : System F → Bytes → Prop
  | linux _ os, path => Unheld os.toOs path
  | darwin _, _ => False
  | unsupported, _ => False

/-- An answer says what a system knows about a path. -/
structure Tells (system : System F) (path : Bytes) (answer : SocketOccupancy) : Prop where
  none_iff : answer = .none ↔ system.Free path
  held_iff : (∃ first rest, answer = .held first rest) ↔ ∃ pid, system.Holder path pid
  exact {first : SocketHolder} {rest : List SocketHolder} : answer = .held first rest →
    ((first :: rest).map SocketHolder.pid).Pairwise (· < ·) ∧
    ∀ n, n ∈ (first :: rest).map SocketHolder.pid ↔ ∃ pid, system.Holder path pid ∧ pid.toNat = n

theorem tells_unattributed (system : System F) {path : Bytes} (hfree : ¬ system.Free path)
    (hholder : ∀ pid, ¬ system.Holder path pid) (detail : Text) :
    Tells system path (.unattributed detail) where
  none_iff := by simp [hfree]
  held_iff := by simp [hholder]
  exact h := by cases h

theorem tells_held (system : System F) {path : Bytes} (hfree : ¬ system.Free path)
    {first : SocketHolder} {rest : List SocketHolder}
    (hascending : ((first :: rest).map SocketHolder.pid).Pairwise (· < ·))
    (hexact : ∀ n, n ∈ (first :: rest).map SocketHolder.pid ↔
      ∃ pid, system.Holder path pid ∧ pid.toNat = n) :
    Tells system path (.held first rest) where
  none_iff := by simp [hfree]
  held_iff := by
    obtain ⟨pid, hpid, -⟩ := (hexact first.pid).mp List.mem_cons_self
    exact iff_of_true ⟨first, rest, rfl⟩ ⟨pid, hpid⟩
  exact h := by
    cases h
    exact ⟨hascending, hexact⟩

theorem linux_tells (E : Linux.F64Lib F) (os : Linux.HostOs) (path : Bytes) (procs : Bool) :
    ∃ answer, foldSocketOccupancy (take (Linux.socketHolders os.toOs ⟨path, procs, false⟩)).view
      = .ok answer ∧ Tells (System.linux E os) path answer := by
  have heq := occupancy_eq .standard (fun _ => []) [] os.toOs path procs
    (Linux.socketHolders_wire os.toOs _)
  rw [← heq]
  rcases socketHolders_cases os.toOs path procs with ⟨source, err, hsource, hdoc, hfree, hsearch⟩
    | ⟨hdoc, hfree, hsearch⟩ | ⟨inodes, pids, hsearch, hfree, hfound⟩
  · obtain ⟨detail, hanswer⟩ := occupancy_blind .standard (fun _ => []) [] hsource hdoc
    exact ⟨_, hanswer, tells_unattributed (.linux E os) hfree
      (fun pid ⟨inodes, pids, h, _⟩ => hsearch inodes pids h) detail⟩
  · refine ⟨_, occupancy_new .standard (fun _ => []) [] hdoc, ?_, ?_, fun h => by cases h⟩
    · exact iff_of_true rfl hfree
    · refine iff_of_false (fun ⟨first, rest, h⟩ => ?_)
        (fun ⟨pid, inodes, pids, h, _⟩ => hsearch inodes pids h)
      cases h
  -- one search was made, so its holders are the holders
  have hholder : ∀ pid, (System.linux E os).Holder path pid ↔
      pid ∈ pids ∧ Holds os.toOs inodes pid := by
    intro pid
    constructor
    · rintro ⟨inodes', pids', hsearch', hpid⟩
      obtain ⟨rfl, rfl⟩ := hsearch.unique hsearch'
      exact hpid
    · exact fun hpid => ⟨inodes, pids, hsearch, hpid⟩
  by_cases hnone : claimed os.toOs inodes pids = []
  · obtain ⟨detail, hanswer⟩ :=
      occupancy_unclaimed .standard (fun _ => []) [] hsearch.listed hfound hnone
    refine ⟨_, hanswer, tells_unattributed (.linux E os) hfree (fun pid hpid => ?_) detail⟩
    have hmem := mem_claimed.mpr ((hholder pid).mp hpid)
    rw [hnone] at hmem
    cases hmem
  · obtain ⟨first, rest, hanswer, hascending, hexact⟩ :=
      occupancy_held .standard (fun _ => []) [] hsearch.listed hfound hnone
    refine ⟨_, hanswer, tells_held (.linux E os) hfree hascending (fun n => ?_)⟩
    simp only [hexact n, hholder, and_assoc]

theorem darwin_tells (os : Darwin.HostOs F) (path : Bytes) (procs : Bool) :
    ∃ answer, foldSocketOccupancy (take (Darwin.socketHolders os.toOs ⟨path, procs, false⟩)).view
      = .ok answer ∧ Tells (System.darwin os) path answer := by
  have hfree : ¬ (System.darwin os).Free path := not_false
  rcases Darwin.socketHolders_cases os.toOs ⟨path, procs, false⟩ with
    ⟨e, -, hfacet, hdoc, hnone⟩ | ⟨table, htable, hsome, hdoc⟩
  · obtain ⟨detail, hanswer⟩ := fold_blind (s := Darwin.socketHolders os.toOs ⟨path, procs, false⟩)
      (by rw [hdoc]; rfl) (by rw [hdoc]) hfacet
    refine ⟨_, hanswer, tells_unattributed (.darwin os) hfree ?_ detail⟩
    rintro pid ⟨table, htable, hpid⟩
    have hmem := Darwin.mem_claimed.mpr hpid
    rw [hnone table htable] at hmem
    cases hmem
  · obtain ⟨first, rest, hanswer, hascending, hexact⟩ :=
      fold_claimed (s := Darwin.socketHolders os.toOs ⟨path, procs, false⟩) (by rw [hdoc]) hsome
    refine ⟨_, hanswer, tells_held (.darwin os) hfree hascending (fun n => ?_)⟩
    rw [hexact n]
    refine exists_congr fun pid => and_congr_left fun _ => ?_
    rw [Darwin.mem_claimed]
    constructor
    · exact fun hpid => ⟨table, htable, hpid⟩
    · rintro ⟨table', htable', hpid⟩
      rw [htable] at htable'
      cases htable'
      exact hpid

theorem System.tells (system : System F) (path : Text) (procs : Bool) :
    ∃ answer, foldSocketOccupancy (system.holders path procs).view = .ok answer ∧
      Tells system (Utf8.encode path) answer := by
  cases system with
  | linux E os => exact linux_tells E os (Utf8.encode path) procs
  | darwin os => exact darwin_tells os (Utf8.encode path) procs
  | unsupported =>
      obtain ⟨detail, hanswer⟩ := fold_blind
        (s := SocketHolders.unsupportedPlatform "unsupported_platform") rfl rfl rfl
      exact ⟨_, hanswer, tells_unattributed .unsupported not_false (fun _ => not_false) detail⟩

end Holders

/-! ## The supervisor -/

/-- **What a supervisor is told**, on every system and for every path without a NUL, where the child
of the call runs to its exit. An empty path is refused before anything is spawned. A path that is
no option is answered by what the system knows about exactly that path: `none` where the path is
proven free, which only the Linux table can prove, `held` by exactly the holders, ascending, where
there are some, and `unattributed` otherwise. Of the paths that read like options, two dashes are
answered about the path `--procs`; a request for help is answered `none`, whatever the state of
the system; and every other one is the failure of its spawn. -/
theorem supervisor_answer {L : Lexopt} {ready finished : L.Parser → List Bytes → Prop}
    {pending : L.Parser → Prop} {J : JsonLib} {F : FloatLib} {W : JsonWriters F}
    {system : System F} {rt : Runtime} {bin : Text} (hL : L.Lawful ready finished pending)
    (path : Text)
    (h : path ≠ [] → rt.Serves bin L J W system.platform (socketHoldersArgs path true)) :
    (path = [] → ∃ failure, rt.osfactsSocketHolders bin path = .fail (.spawn failure)) ∧
    (path ≠ [] → Lexopt.Positional path → ∃ answer, Tells system (Utf8.encode path) answer ∧
      rt.osfactsSocketHolders bin path = ⟨[(bin, socketHoldersArgs path true)], .ok answer⟩) ∧
    (path = "--".toList → ∃ answer, Tells system (Utf8.encode "--procs".toList) answer ∧
      rt.osfactsSocketHolders bin path = ⟨[(bin, socketHoldersArgs path true)], .ok answer⟩) ∧
    (HelpLike path →
      rt.osfactsSocketHolders bin path = ⟨[(bin, socketHoldersArgs path true)], .ok .none⟩) ∧
    (¬ Lexopt.Positional path → path ≠ "--".toList → ¬ HelpLike path →
      ∃ failure, rt.osfactsSocketHolders bin path
        = ⟨[(bin, socketHoldersArgs path true)], .error (.spawn failure)⟩) := by
  have hnil : ∀ t : Text, ¬ Lexopt.Positional t → t ≠ [] := by
    rintro t hpos rfl
    exact hpos (Or.inl (by simp))
  refine ⟨?_, fun hne hpos => ?_, ?_, fun hhelp => ?_, fun hpos hdashes hhelp => ?_⟩
  · rintro rfl
    exact ⟨_, rfl⟩
  · obtain ⟨answer, hanswer, htells⟩ := system.tells path true
    refine ⟨answer, htells, ?_⟩
    rw [socketHolders_performed (h hne) hne (parse_positional hL hne hpos), hanswer]
  · rintro rfl
    obtain ⟨answer, hanswer, htells⟩ := system.tells "--procs".toList false
    refine ⟨answer, htells, ?_⟩
    have hne : "--".toList ≠ [] := by decide
    rw [socketHolders_performed (h hne) hne (parse_dashes hL), hanswer]
  · have hpos : ¬ Lexopt.Positional path := fun hpos => not_helpLike_positional hpos hhelp
    -- two dashes are not like help, so the path is an option by itself
    have hdashes : path ≠ "--".toList := by
      rintro rfl
      exact absurd hhelp (by decide)
    have hparse := parse_optionLike hL true hpos hdashes
    rw [if_pos hhelp] at hparse
    exact socketHolders_help (h (hnil path hpos)) (hnil path hpos) hparse
  · have hparse := parse_optionLike hL true hpos hdashes
    rw [if_neg hhelp] at hparse
    exact socketHolders_refused (h (hnil path hpos)) (hnil path hpos) hparse

theorem running_table : ∃ table, runningOs.readBytes "/proc/net/unix".toList = .ok table ∧
    UnixSocket.unixSocketInodes table (Utf8.encode "/run/a.sock".toList) = .ok [10] ∧
    UnixSocket.unixSocketInodes table (Utf8.encode "/run/b.sock".toList) = .ok [] :=
  ⟨_, rfl, by decide +kernel, by decide +kernel⟩

/-- Process 7 holds one path, the table has no other, and help is no answer about a path. -/
theorem supervisor_answer_sample :
    (∃ first rest, runningMachine.osfactsSocketHolders "osfacts".toList "/run/a.sock".toList
        = ⟨[("osfacts".toList, socketHoldersArgs "/run/a.sock".toList true)],
          .ok (.held first rest)⟩ ∧ 7 ∈ (first :: rest).map SocketHolder.pid) ∧
    runningMachine.osfactsSocketHolders "osfacts".toList "/run/b.sock".toList
      = ⟨[("osfacts".toList, socketHoldersArgs "/run/b.sock".toList true)], .ok .none⟩ ∧
    runningMachine.osfactsSocketHolders "osfacts".toList "-h".toList
      = ⟨[("osfacts".toList, socketHoldersArgs "-h".toList true)], .ok .none⟩ := by
  obtain ⟨table, hread, hbound, hfree⟩ := running_table
  have hcalls : ∀ path, path ≠ [] → runningMachine.Serves "osfacts".toList .standard .standard
      (noWriters naturalFloats) runningHost.platform (socketHoldersArgs path true) → _ :=
    fun path _ hserves => supervisor_answer Lexopt.standard_lawful path fun _ => hserves
  refine ⟨?_, ?_, ?_⟩
  · obtain ⟨answer, htells, hcall⟩ := (hcalls "/run/a.sock".toList (by decide)
      (runningMachine_serves (by decide))).2.1 (by decide) (by decide)
    have hholder : runningHost.Holder (Utf8.encode "/run/a.sock".toList) 7 :=
      ⟨[10], [7, 9], ⟨⟨table, hread, hbound⟩, by decide, rfl⟩, by decide, [10], rfl, 10,
        by decide, by decide⟩
    obtain ⟨first, rest, rfl⟩ := htells.held_iff.mpr ⟨7, hholder⟩
    exact ⟨first, rest, hcall, ((htells.exact rfl).2 7).mpr ⟨7, hholder, rfl⟩⟩
  · obtain ⟨answer, htells, hcall⟩ := (hcalls "/run/b.sock".toList (by decide)
      (runningMachine_serves (by decide))).2.1 (by decide) (by decide)
    rw [hcall, htells.none_iff.mpr ⟨table, hread, hfree⟩]
  · exact (hcalls "-h".toList (by decide) (runningMachine_serves (by decide))).2.2.2.1 (by decide)

end Osfacts
