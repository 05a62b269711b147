import Osfacts.Cli.Parse
import Osfacts.Client.Ask

set_option autoImplicit false

/-! # The asks, from the client to the command line

An ask the client makes is performed exactly or refused loudly, unless its socket path is one
that the option grammar takes for a request for help, or for the end of the options.
-/

namespace Osfacts

open Client

/-! ## The loop over the arguments -/

section Loop

variable {L : Lexopt} {σ : Type} {step : σ → Arg → L.Parser → Except CliError σ × L.Parser}

theorem parseLoop_end {p : L.Parser} (fuel : Nat) (acc : σ) (h : (L.next p).1 = .ok none) :
    parseLoop L step (fuel + 1) p acc = some (.ok acc) := by
  rw [parseLoop]
  rcases hn : L.next p with ⟨r, p'⟩
  rw [hn] at h
  obtain rfl : r = .ok none := h
  rfl

theorem parseLoop_error {p : L.Parser} {e : Text} (fuel : Nat) (acc : σ)
    (h : (L.next p).1 = .error e) : parseLoop L step (fuel + 1) p acc = some (.error (lex e)) := by
  rw [parseLoop]
  rcases hn : L.next p with ⟨r, p'⟩
  rw [hn] at h
  obtain rfl : r = .error e := h
  rfl

/-- An argument the step accepts. -/
theorem parseLoop_step {p p' : L.Parser} {arg : Arg} {acc acc' : σ} (fuel : Nat)
    (h : (L.next p).1 = .ok (some arg)) (hstep : step acc arg (L.next p).2 = (.ok acc', p')) :
    parseLoop L step (fuel + 1) p acc = parseLoop L step fuel p' acc' := by
  rw [parseLoop]
  rcases hn : L.next p with ⟨r, q⟩
  rw [hn] at h hstep
  obtain rfl : r = .ok (some arg) := h
  have hstep' : step acc arg q = (.ok acc', p') := hstep
  simp only [hstep']

/-- An argument the step refuses. -/
theorem parseLoop_refuse {p p' : L.Parser} {arg : Arg} {acc : σ} {e : CliError} (fuel : Nat)
    (h : (L.next p).1 = .ok (some arg)) (hstep : step acc arg (L.next p).2 = (.error e, p')) :
    parseLoop L step (fuel + 1) p acc = some (.error e) := by
  rw [parseLoop]
  rcases hn : L.next p with ⟨r, q⟩
  rw [hn] at h hstep
  obtain rfl : r = .ok (some arg) := h
  have hstep' : step acc arg q = (.error e, p') := hstep
  simp only [hstep']

end Loop

/-! ## The socket path and the option grammar -/

/-- The shapes of an argument: no option, a cluster of short options, the end of the options,
a long option, and a long option with a value. -/
theorem path_shapes (path : Text) :
    Lexopt.Positional path ∨ (∃ c t, c ≠ '-' ∧ path = '-' :: c :: t) ∨ path = "--".toList ∨
      (∃ name, name ≠ [] ∧ '=' ∉ name ∧ path = "--".toList ++ name) ∨
      ∃ name v, '=' ∉ name ∧ path = "--".toList ++ name ++ '=' :: v := by
  rcases path with _ | ⟨a, path⟩
  · exact Or.inl (Or.inl (by simp))
  by_cases ha : a = '-'
  · subst ha
    rcases path with _ | ⟨c, t⟩
    · exact Or.inl (Or.inr rfl)
    by_cases hc : c = '-'
    · subst hc
      by_cases heq : '=' ∈ t
      · obtain ⟨name, v, rfl, hname⟩ := List.eq_append_cons_of_mem heq
        exact Or.inr (Or.inr (Or.inr (Or.inr ⟨name, v, hname, rfl⟩)))
      · by_cases ht : t = []
        · subst ht
          exact Or.inr (Or.inr (Or.inl rfl))
        · exact Or.inr (Or.inr (Or.inr (Or.inl ⟨t, ht, heq, rfl⟩)))
    · exact Or.inr (Or.inl ⟨c, t, hc, rfl⟩)
  · exact Or.inl (Or.inl (by simpa using ha))

/-- A path that the option grammar takes for a request for help. -/
def HelpLike (path : Text) : Prop :=
  "-h".toList.isPrefixOf path = true ∨ path = "--help".toList ∨
    "--help=".toList.isPrefixOf path = true

instance (path : Text) : Decidable (HelpLike path) := inferInstanceAs (Decidable (_ ∨ _))

theorem not_helpLike_positional {path : Text} (h : Lexopt.Positional path) : ¬ HelpLike path := by
  rcases h with h | rfl
  · cases path with
    | nil => decide
    | cons c path =>
        have hc : ¬ '-' = c := fun hc => h (by rw [hc]; rfl)
        simp [HelpLike, List.isPrefixOf, hc, Ne.symm hc]
  · decide

theorem helpLike_short {c : Char} {t : Text} (hc : c ≠ '-') :
    HelpLike ('-' :: c :: t) ↔ c = 'h' := by
  have hdash : ¬ '-' = c := Ne.symm hc
  simp [HelpLike, List.isPrefixOf, hc, hdash]
  exact eq_comm

theorem helpLike_long {name : Text} (h : '=' ∉ name) :
    HelpLike ("--".toList ++ name) ↔ name = "help".toList := by
  have hstart : ¬ "help=".toList.isPrefixOf name = true := by
    intro hp
    obtain ⟨rest, rfl⟩ := List.isPrefixOf_iff_prefix.mp hp
    exact h (by simp)
  show ("-h".toList.isPrefixOf ('-' :: '-' :: name) = true ∨ '-' :: '-' :: name = "--help".toList ∨
    "help=".toList.isPrefixOf name = true) ↔ _
  simp only [hstart]
  simp [List.isPrefixOf]

theorem helpLike_long_value {name v : Text} (h : '=' ∉ name) :
    HelpLike ("--".toList ++ name ++ '=' :: v) ↔ name = "help".toList := by
  have hkey : ∀ (pre : Text) (u : Text), '=' ∉ pre →
      (pre ++ '=' :: u).takeWhile (fun c => decide (c ≠ '=')) = pre := by
    intro pre u hpre
    have hall : ∀ c ∈ pre, decide (c ≠ '=') = true := by
      intro c hc
      rw [decide_eq_true_iff]
      rintro rfl
      exact hpre hc
    rw [List.takeWhile_append_of_pos hall]
    simp
  constructor
  · rintro (hp | heq | hp)
    · simp [List.isPrefixOf] at hp
    · have hmem : '=' ∈ "--help".toList := by
        rw [← heq]
        simp
      exact absurd hmem (by decide)
    · -- both read up to the first `=`
      obtain ⟨rest, hrest⟩ := List.isPrefixOf_iff_prefix.mp hp
      have hbody : "help".toList ++ '=' :: rest = name ++ '=' :: v := by
        have htail := congrArg (List.drop 2) hrest
        simpa using htail
      rw [← hkey name v h, ← hbody]
      exact hkey _ _ (by decide)
  · rintro rfl
    exact Or.inr (Or.inr (List.isPrefixOf_iff_prefix.mpr ⟨v, by simp⟩))

/-! ## `socket-holders` -/

/-- The ask was refused: exit 2. -/
def Refused {α : Type} (r : Option (Except CliError α)) : Prop :=
  ∃ message, r = some (.error (.usage message))

section SocketHolders

variable {L : Lexopt} {ready finished : L.Parser → List Bytes → Prop} {pending : L.Parser → Prop}

/-- The arguments after the socket path. -/
def procsArgs (procs : Bool) : List Bytes :=
  if procs then [Utf8.encode "--procs".toList] else []

/-- The loop on what follows the path. -/
theorem loop_procs (hL : L.Lawful ready finished pending) {procs : Bool} {p : L.Parser}
    (hp : ready p (procsArgs procs)) (fuel : Nat) (acc : SocketHoldersAcc) :
    parseLoop L (socketHoldersStep L) (fuel + 2) p acc
      = some (.ok { acc with procs := acc.procs || procs }) := by
  cases procs with
  | false =>
      rw [parseLoop_end (fuel + 1) acc (hL.next_end p hp), Bool.or_false]
  | true =>
      obtain ⟨hnext, hready⟩ := hL.next_long p "procs".toList [] (by decide) (by decide) hp
      rw [parseLoop_step (fuel + 1) hnext rfl, parseLoop_end fuel _ (hL.next_end _ hready),
        Bool.or_true]

/-- What the loop and its end make of a positional path. -/
theorem socketHolders_positional (hL : L.Lawful ready finished pending) {path : Text}
    {procs : Bool} (hne : path ≠ []) (hpath : Lexopt.Positional path) {p : L.Parser}
    (hp : ready p (Utf8.encode path :: procsArgs procs)) (fuel : Nat) :
    parseSocketHolders L (fuel + 3) p = some (.ok ⟨Utf8.encode path, procs, false⟩) := by
  obtain ⟨hnext, hready⟩ := hL.next_value p path _ hpath hp
  have hencode : Utf8.encode path ≠ [] := by
    intro hnil
    apply hne
    rw [← lossy_of_text path, hnil]
    rfl
  rw [parseSocketHolders, parseLoop_step (fuel + 2) hnext rfl, loop_procs hL hready fuel]
  show some (if Utf8.encode path = [] then _
    else Except.ok (⟨Utf8.encode path, false || procs, false⟩ : SocketHoldersArgs)) = _
  rw [if_neg hencode, Bool.false_or]

theorem socketHolders_short (hL : L.Lawful ready finished pending) {c : Char} {t : Text}
    {rest : List Bytes} (hc : c ≠ '-') {p : L.Parser}
    (hp : ready p (Utf8.encode ('-' :: c :: t) :: rest)) (fuel : Nat) :
    if c = 'h' then parseSocketHolders L (fuel + 3) p = some (.error (.help HELP))
    else Refused (parseSocketHolders L (fuel + 3) p) := by
  have hnext := hL.next_short p c t rest hc hp
  split_ifs with hh
  · subst hh
    rw [parseSocketHolders, parseLoop_refuse (fuel + 2) hnext rfl]
    rfl
  · have hstep : socketHoldersStep L ⟨none, false, false⟩ (.short c) (L.next p).2
        = (unexpectedArgument, (L.next p).2) := by
      unfold socketHoldersStep
      split
      case h_3 heq => exact absurd (Arg.short.inj heq) hh
      case h_4 => rfl
      all_goals contradiction
    rw [parseSocketHolders, parseLoop_refuse (fuel + 2) hnext hstep]
    exact ⟨_, rfl⟩

/-- After `--` the next argument is the path, whatever it is. -/
theorem socketHolders_terminator (hL : L.Lawful ready finished pending) {procs : Bool}
    {p : L.Parser} (hp : ready p (Utf8.encode "--".toList :: procsArgs procs)) (fuel : Nat) :
    if procs then
      parseSocketHolders L (fuel + 3) p = some (.ok ⟨Utf8.encode "--procs".toList, false, false⟩)
    else Refused (parseSocketHolders L (fuel + 3) p) := by
  cases procs with
  | false =>
      rw [if_neg (by decide), parseSocketHolders,
        parseLoop_end (fuel + 2) _ (hL.next_terminator_end p hp)]
      exact ⟨_, rfl⟩
  | true =>
      obtain ⟨hnext, hfinished⟩ := hL.next_terminator p _ _ hp
      rw [if_pos rfl, parseSocketHolders, parseLoop_step (fuel + 2) hnext rfl,
        parseLoop_end (fuel + 1) _ (hL.next_finished_end _ hfinished)]
      rfl

/-- A long option that the verb does not have. -/
theorem socketHoldersStep_unexpected {name : Text} (hprocs : name ≠ "procs".toList)
    (hjson : name ≠ "json".toList) (hhelp : name ≠ "help".toList) (acc : SocketHoldersAcc)
    (p : L.Parser) : socketHoldersStep L acc (.long name) p = (unexpectedArgument, p) := by
  show (if name = "procs".toList then _ else if name = "json".toList then _
    else if name = "help".toList then _ else _) = _
  rw [if_neg hprocs, if_neg hjson, if_neg hhelp]

/-- A long option in the place of the path. -/
theorem socketHolders_long (hL : L.Lawful ready finished pending) {name : Text} {procs : Bool}
    (hne : name ≠ []) (heq : '=' ∉ name) {p : L.Parser}
    (hp : ready p (Utf8.encode ("--".toList ++ name) :: procsArgs procs)) (fuel : Nat) :
    if name = "help".toList then parseSocketHolders L (fuel + 3) p = some (.error (.help HELP))
    else Refused (parseSocketHolders L (fuel + 3) p) := by
  obtain ⟨hnext, hready⟩ := hL.next_long p name _ hne heq hp
  rw [parseSocketHolders]
  -- the flags of the verb are accepted, and then there is no path left
  by_cases hprocs : name = "procs".toList
  · subst hprocs
    rw [if_neg (by decide), parseLoop_step (fuel + 2) hnext rfl, loop_procs hL hready fuel]
    exact ⟨_, rfl⟩
  by_cases hjson : name = "json".toList
  · subst hjson
    rw [if_neg (by decide), parseLoop_step (fuel + 2) hnext rfl, loop_procs hL hready fuel]
    exact ⟨_, rfl⟩
  split_ifs with hhelp
  · subst hhelp
    rw [parseLoop_refuse (fuel + 2) hnext rfl]
    rfl
  · rw [parseLoop_refuse (fuel + 2) hnext (socketHoldersStep_unexpected hprocs hjson hhelp _ _)]
    exact ⟨_, rfl⟩

/-- A long option with a value in the place of the path: no option of the verb takes one. -/
theorem socketHolders_long_value (hL : L.Lawful ready finished pending) {name v : Text}
    {rest : List Bytes} (heq : '=' ∉ name) {p : L.Parser}
    (hp : ready p (Utf8.encode ("--".toList ++ name ++ '=' :: v) :: rest)) (fuel : Nat) :
    if name = "help".toList then parseSocketHolders L (fuel + 3) p = some (.error (.help HELP))
    else Refused (parseSocketHolders L (fuel + 3) p) := by
  obtain ⟨hnext, hpending⟩ := hL.next_long_value p name v rest heq hp
  obtain ⟨e, herr⟩ := hL.next_pending _ hpending
  rw [parseSocketHolders]
  -- the flags of the verb are accepted, and the value they do not take is refused after them
  by_cases hprocs : name = "procs".toList
  · subst hprocs
    rw [if_neg (by decide), parseLoop_step (fuel + 2) hnext rfl, parseLoop_error (fuel + 1) _ herr]
    exact ⟨_, rfl⟩
  by_cases hjson : name = "json".toList
  · subst hjson
    rw [if_neg (by decide), parseLoop_step (fuel + 2) hnext rfl, parseLoop_error (fuel + 1) _ herr]
    exact ⟨_, rfl⟩
  split_ifs with hhelp
  · subst hhelp
    rw [parseLoop_refuse (fuel + 2) hnext rfl]
    rfl
  · rw [parseLoop_refuse (fuel + 2) hnext (socketHoldersStep_unexpected hprocs hjson hhelp _ _)]
    exact ⟨_, rfl⟩

end SocketHolders

/-! ## `snapshot`: the pid list -/

/-- A text without white space is its own trimmed form. -/
theorem trim_of_no_whitespace {t : Text} (h : ∀ c ∈ t, isWhitespace c = false) : trim t = t := by
  have hdrop : t.dropWhile isWhitespace = t := by
    cases t with
    | nil => rfl
    | cons c t =>
        rw [List.dropWhile_cons, h c (List.mem_cons_self ..)]
        rfl
  rw [trim, hdrop, List.rdropWhile_eq_self_iff]
  intro hne
  rw [h _ (List.getLast_mem hne)]
  decide

theorem parsePid_decimal {n : Nat} (hpos : 1 ≤ n) (hlt : n < 2 ^ 32) :
    parsePid (Decimal.decimal n) = .ok (UInt32.ofNat n) := by
  have htrim : trim (Decimal.decimal n) = Decimal.decimal n :=
    trim_of_no_whitespace (fun c hc =>
      not_isWhitespace_of_isDigit (Decimal.isDigit_of_mem_decimal hc))
  have hread : parseU32 (Decimal.decimal n) = some (UInt32.ofNat n) := by
    rw [← parseU32_decimal, UInt32.toNat_ofNat_of_lt' hlt]
  have hne : UInt32.ofNat n ≠ 0 := by
    intro hzero
    have hnat := congrArg UInt32.toNat hzero
    rw [UInt32.toNat_ofNat_of_lt' hlt, UInt32.toNat_zero] at hnat
    omega
  rw [parsePid, htrim, hread]
  show (if UInt32.ofNat n = 0 then _ else _) = _
  rw [if_neg hne]

theorem mapM_parsePid {pids : List Nat} (h : ∀ n ∈ pids, 1 ≤ n ∧ n < 2 ^ 32) :
    (pids.map Decimal.decimal).mapM parsePid = .ok (pids.map UInt32.ofNat) := by
  rw [mapM_ok_iff, List.forall₂_map_left_iff, List.forall₂_map_right_iff, List.forall₂_same]
  exact fun n hn => parsePid_decimal (h n hn).1 (h n hn).2

/-- `parse_pid_list` reads back what the client joins. -/
theorem parsePidList_joinPids {pids : List Nat} (hne : pids ≠ [])
    (h : ∀ n ∈ pids, 1 ≤ n ∧ n < 2 ^ 32) :
    parsePidList (Utf8.encode (joinPids pids)) = .ok (pids.map UInt32.ofNat) := by
  have hsplit : (joinPids pids).splitOn ',' = pids.map Decimal.decimal := by
    refine List.splitOn_intercalate ',' ?_ (by simpa using hne)
    intro piece hpiece
    obtain ⟨n, -, rfl⟩ := List.mem_map.mp hpiece
    exact Decimal.not_mem_decimal (by decide)
  have hjoin : joinPids pids ≠ [] := by
    intro hnil
    rw [hnil] at hsplit
    cases pids with
    | nil => exact hne rfl
    | cons n pids => exact Decimal.decimal_ne_nil n (List.cons.inj hsplit).1.symm
  rw [parsePidList, lossy_of_text]
  show (if joinPids pids = [] then _ else ((joinPids pids).splitOn ',').mapM parsePid) = _
  rw [if_neg hjoin, hsplit, mapM_parsePid h]

/-! ## `snapshot`: the flags -/

section Snapshot

variable {L : Lexopt} {ready finished : L.Parser → List Bytes → Prop} {pending : L.Parser → Prop}

/-- The name of a flag, after its two dashes. -/
def flagName (f : Flag) : Text := (SNAPSHOT_FACET_NAMES f).arg.drop 2

theorem arg_eq (f : Flag) : (SNAPSHOT_FACET_NAMES f).arg = "--".toList ++ flagName f := by
  cases f <;> rfl

theorem snapshotStep_flag (acc : SnapshotAcc) (f : Flag) (p : L.Parser) :
    snapshotStep L acc (.long (flagName f)) p = (.ok { acc with out := acc.out.set f }, p) := by
  cases f <;> rfl

/-- The loop on the flags of an ask. -/
theorem loop_flags (hL : L.Lawful ready finished pending) (fs : List Flag) {p : L.Parser}
    (hp : ready p (fs.map (fun f => Utf8.encode (SNAPSHOT_FACET_NAMES f).arg))) (fuel : Nat)
    (acc : SnapshotAcc) :
    parseLoop L (snapshotStep L) (fuel + fs.length + 1) p acc
      = some (.ok { acc with out := fs.foldl SnapshotArgs.set acc.out }) := by
  induction fs generalizing p acc with
  | nil => exact parseLoop_end fuel acc (hL.next_end p hp)
  | cons f fs ih =>
      rw [List.map_cons, arg_eq] at hp
      obtain ⟨hnext, hready⟩ :=
        hL.next_long p (flagName f) _ (by cases f <;> decide) (by cases f <;> decide) hp
      rw [List.length_cons, List.foldl_cons, ← Nat.add_assoc,
        parseLoop_step _ hnext (snapshotStep_flag acc f _)]
      exact ih hready { acc with out := acc.out.set f }

/-- The scope of a snapshot ask. -/
inductive ScopeFlag where
  | roots
  | pids
  deriving DecidableEq, Repr

def ScopeFlag.arg : ScopeFlag → Text
  | roots => "--roots".toList
  | pids => "--pids".toList

def ScopeFlag.scope : ScopeFlag → List Pid → Scope
  | roots => .roots
  | pids => .pids

/-- What the loop has gathered after the scope of an ask. -/
def ScopeFlag.gathered : ScopeFlag → List Pid → SnapshotAcc
  | roots, v => ⟨some v, none, SnapshotArgs.default⟩
  | pids, v => ⟨none, some v, SnapshotArgs.default⟩

theorem ScopeFlag.scopeOf_gathered (flag : ScopeFlag) (v : List Pid) :
    scopeOf (flag.gathered v).roots (flag.gathered v).pids = flag.scope v := by
  cases flag <;> rfl

theorem finishSnapshot_asked {acc : SnapshotAcc} {f : Flag} (h : acc.out.asks f = true) :
    finishSnapshot acc = .ok { acc.out with scope := scopeOf acc.roots acc.pids } := by
  refine if_neg ?_
  cases f <;> simp [SnapshotArgs.asks] at h <;> simp [h]

/-- The first two arguments of an ask: the scope flag, and its value. -/
theorem loop_scope (hL : L.Lawful ready finished pending) (flag : ScopeFlag) {pids : List Nat}
    (hne : pids ≠ []) (hpids : ∀ n ∈ pids, 1 ≤ n ∧ n < 2 ^ 32) {rest : List Bytes} {p : L.Parser}
    (hp : ready p (Utf8.encode flag.arg :: Utf8.encode (joinPids pids) :: rest)) (fuel : Nat) :
    ∃ p', ready p' rest ∧
      parseLoop L (snapshotStep L) (fuel + 1) p ⟨none, none, SnapshotArgs.default⟩
        = parseLoop L (snapshotStep L) fuel p' (flag.gathered (pids.map UInt32.ofNat)) := by
  have harg : flag.arg = "--".toList ++ flag.arg.drop 2 := by cases flag <;> rfl
  rw [harg] at hp
  obtain ⟨hnext, hready⟩ := hL.next_long p (flag.arg.drop 2) _ (by cases flag <;> decide)
    (by cases flag <;> decide) hp
  obtain ⟨hvalue, hrest⟩ := hL.value_next _ _ _ hready
  have hlist : pidListValue L (L.next p).2
      = (.ok (pids.map UInt32.ofNat), (L.value (L.next p).2).2) := by
    rw [pidListValue]
    rcases hv : L.value (L.next p).2 with ⟨r, q⟩
    rw [hv] at hvalue
    obtain rfl : r = .ok (Utf8.encode (joinPids pids)) := hvalue
    show (parsePidList (Utf8.encode (joinPids pids)), q) = _
    rw [parsePidList_joinPids hne hpids]
  refine ⟨_, hrest, parseLoop_step fuel hnext ?_⟩
  cases flag with
  | roots =>
      show ((pidListValue L (L.next p).2).1.map _, (pidListValue L (L.next p).2).2) = _
      rw [hlist]
      rfl
  | pids =>
      show ((pidListValue L (L.next p).2).1.map _, (pidListValue L (L.next p).2).2) = _
      rw [hlist]
      rfl

/-- What `parse_snapshot` makes of an ask: exactly the ask. -/
theorem parseSnapshot_ask (hL : L.Lawful ready finished pending) (flag : ScopeFlag)
    {pids : List Nat} (hne : pids ≠ []) (hpids : ∀ n ∈ pids, 1 ≤ n ∧ n < 2 ^ 32)
    {facets : SnapshotFacets} {f : Flag} (hf : facets f = true) {p : L.Parser}
    (hp : ready p ((appendSnapshotFacets [flag.arg, joinPids pids] facets).map Utf8.encode))
    (fuel : Nat) :
    ∃ args : SnapshotArgs,
      parseSnapshot L (fuel + (Flag.all.filter facets).length + 2) p = some (.ok args) ∧
      args.scope = flag.scope (pids.map UInt32.ofNat) ∧ args.asks = facets ∧
      args.json = false := by
  have hargs : (appendSnapshotFacets [flag.arg, joinPids pids] facets).map Utf8.encode
      = Utf8.encode flag.arg :: Utf8.encode (joinPids pids) ::
        (Flag.all.filter facets).map (fun f => Utf8.encode (SNAPSHOT_FACET_NAMES f).arg) := by
    simp [appendSnapshotFacets, Function.comp_def]
  rw [hargs] at hp
  obtain ⟨p', hready, hloop⟩ := loop_scope hL flag hne hpids hp
    (fuel + (Flag.all.filter facets).length + 1)
  -- the flags the loop has set are those of the ask
  have hasks : ∀ g, ((Flag.all.filter facets).foldl SnapshotArgs.set
      (flag.gathered (pids.map UInt32.ofNat)).out).asks g = facets g := by
    intro g
    have hnone : (flag.gathered (pids.map UInt32.ofNat)).out.asks g = false := by
      cases flag <;> cases g <;> rfl
    rw [SnapshotArgs.asks_foldl_set, hnone, Bool.false_or]
    simp [List.mem_filter, Flag.mem_all]
  rw [parseSnapshot, hloop, loop_flags hL _ hready]
  refine ⟨_, congrArg some (finishSnapshot_asked (f := f) ?_), ?_, ?_, ?_⟩
  · rw [← hf]
    exact hasks f
  · exact flag.scopeOf_gathered _
  · funext g
    rw [← hasks g]
    cases g <;> rfl
  · show SnapshotArgs.json (List.foldl _ _ _) = false
    rw [SnapshotArgs.json_foldl_set]
    cases flag <;> rfl

end Snapshot

/-! ## Asks -/

/-- An ask of the client. -/
inductive Ask where
  | socketHolders (socketPath : Text) (procs : Bool)
  | snapshot (scope : ScopeFlag) (pids : List Nat) (facets : SnapshotFacets)

namespace Ask

/-- What the client puts on the command line. -/
def argv : Ask → List Bytes
  | socketHolders socketPath procs => (socketHoldersArgs socketPath procs).map Utf8.encode
  | snapshot scope pids facets => (snapshotArgs scope.arg pids facets).map Utf8.encode

/-- The asks that are made: about a path, or about some facet of some pids. -/
def Made : Ask → Prop
  | socketHolders socketPath _ => socketPath ≠ []
  | snapshot _ pids facets =>
      pids ≠ [] ∧ (∀ n ∈ pids, 1 ≤ n ∧ n < 2 ^ 32) ∧ ∃ f, facets f = true

/-- The command is exactly the ask. -/
def DenotedBy : Ask → Command → Prop
  | socketHolders socketPath procs, .socketHolders args =>
      args = ⟨Utf8.encode socketPath, procs, false⟩
  | snapshot scope pids facets, .snapshot args =>
      args.scope = scope.scope (pids.map UInt32.ofNat) ∧ args.asks = facets ∧ args.json = false
  | _, _ => False

/-- The ask is performed exactly, or refused loudly. -/
def PerformedOrRefused (L : Lexopt) (ask : Ask) : Prop :=
  (∃ command, parse L ask.argv = some (.ok command) ∧ ask.DenotedBy command) ∨
    Refused (parse L ask.argv)

/-- No part of the ask is a request for help, or ends the options in front of a flag. -/
def Clear : Ask → Prop
  | socketHolders socketPath procs =>
      ¬ HelpLike socketPath ∧ ¬ (socketPath = "--".toList ∧ procs = true)
  | snapshot _ _ _ => True

end Ask

section Asks

variable {L : Lexopt} {ready finished : L.Parser → List Bytes → Prop} {pending : L.Parser → Prop}

/-- The fuel covers the arguments and the end. -/
theorem exists_parseFuel (args : List Bytes) {n : Nat} (h : n ≤ args.length + 1) :
    ∃ fuel, parseFuel args = fuel + n :=
  Nat.exists_eq_add_of_le' (by unfold parseFuel; omega)

theorem parse_snapshot (hL : L.Lawful ready finished pending) (rest : List Bytes) :
    ∃ p, ready p rest ∧ parse L (Utf8.encode "snapshot".toList :: rest)
      = (parseSnapshot L (parseFuel (Utf8.encode "snapshot".toList :: rest)) p).map
          (fun r => r.map .snapshot) := by
  obtain ⟨hnext, hready⟩ := hL.next_value _ "snapshot".toList rest (by decide) (hL.fromArgs _)
  refine ⟨_, hready, ?_⟩
  rw [parse, Prod.ext (y := (_, _)) hnext rfl]
  show (if _ then _ else _) = _
  rw [if_pos (by decide)]

theorem parse_socketHolders (hL : L.Lawful ready finished pending) (rest : List Bytes) :
    ∃ p, ready p rest ∧ parse L (Utf8.encode "socket-holders".toList :: rest)
      = (parseSocketHolders L (parseFuel (Utf8.encode "socket-holders".toList :: rest)) p).map
          (fun r => r.map .socketHolders) := by
  obtain ⟨hnext, hready⟩ :=
    hL.next_value _ "socket-holders".toList rest (by decide) (hL.fromArgs _)
  refine ⟨_, hready, ?_⟩
  rw [parse, Prod.ext (y := (_, _)) hnext rfl]
  show (if _ then _ else if _ then _ else _) = _
  rw [if_neg (by decide), if_pos (by decide)]

/-- A snapshot ask is always performed exactly. -/
theorem snapshot_performed (hL : L.Lawful ready finished pending) {scope : ScopeFlag}
    {pids : List Nat} {facets : SnapshotFacets} (hmade : (Ask.snapshot scope pids facets).Made) :
    (Ask.snapshot scope pids facets).PerformedOrRefused L := by
  obtain ⟨hne, hpids, f, hf⟩ := hmade
  obtain ⟨p, hready, hparse⟩ := parse_snapshot hL
    ((appendSnapshotFacets [scope.arg, joinPids pids] facets).map Utf8.encode)
  obtain ⟨fuel, hfuel⟩ := exists_parseFuel (Ask.snapshot scope pids facets).argv
    (n := (Flag.all.filter facets).length + 2)
    (by simp [Ask.argv, snapshotArgs, appendSnapshotFacets])
  obtain ⟨args, hargs, hscope, hasks, hjson⟩ := parseSnapshot_ask hL scope hne hpids hf hready fuel
  refine Or.inl ⟨.snapshot args, ?_, hscope, hasks, hjson⟩
  refine hparse.trans ?_
  show (parseSnapshot L (parseFuel (Ask.snapshot scope pids facets).argv) p).map _ = _
  rw [hfuel, ← Nat.add_assoc, hargs]
  rfl

theorem not_refused_ok {α : Type} (a : α) : ¬ Refused (some (.ok a : Except CliError α)) := by
  rintro ⟨message, h⟩
  cases h

theorem not_refused_help {α : Type} (message : Text) :
    ¬ Refused (some (.error (.help message) : Except CliError α)) := by
  rintro ⟨_, h⟩
  cases h

/-- The verb of a command changes nothing about whether it was performed or refused. -/
theorem performed_iff {path : Text} {procs : Bool} {r : Option (Except CliError SocketHoldersArgs)}
    (hparse : parse L (Ask.socketHolders path procs).argv
      = r.map (fun r => r.map Command.socketHolders)) :
    (Ask.socketHolders path procs).PerformedOrRefused L ↔
      r = some (.ok ⟨Utf8.encode path, procs, false⟩) ∨ Refused r := by
  rw [Ask.PerformedOrRefused, hparse]
  rcases r with _ | e | args
  · simp [Refused]
  · simp [Refused, Except.map]
  · simp [Refused, Except.map, Ask.DenotedBy]

/-- The verdict on a path that is read as an option: it is the help option, or it is refused. -/
theorem verdict_of_option {path : Text} {procs : Bool} {isHelp : Prop} [Decidable isHelp]
    {r : Option (Except CliError SocketHoldersArgs)} {args : SocketHoldersArgs}
    (hhelp : HelpLike path ↔ isHelp) (hdashes : path ≠ "--".toList)
    (h : if isHelp then r = some (.error (.help HELP)) else Refused r) :
    (r = some (.ok args) ∨ Refused r) ↔
      ¬ HelpLike path ∧ ¬ (path = "--".toList ∧ procs = true) := by
  rw [hhelp]
  split_ifs at h with hh
  · rw [h]
    simp [hh, not_refused_help]
  · exact iff_of_true (Or.inr h) ⟨hh, fun h => hdashes h.1⟩

/-- The verdict on a socket path, one case for each shape of argument. -/
theorem socketHolders_verdict (hL : L.Lawful ready finished pending) {path : Text} {procs : Bool}
    (hne : path ≠ []) {p : L.Parser} (hp : ready p (Utf8.encode path :: procsArgs procs))
    (fuel : Nat) :
    (parseSocketHolders L (fuel + 3) p = some (.ok ⟨Utf8.encode path, procs, false⟩) ∨
      Refused (parseSocketHolders L (fuel + 3) p)) ↔ (Ask.socketHolders path procs).Clear := by
  show _ ↔ ¬ HelpLike path ∧ ¬ (path = "--".toList ∧ procs = true)
  rcases path_shapes path with hpath | ⟨c, t, hc, rfl⟩ | rfl | ⟨name, hname, heq, rfl⟩
    | ⟨name, v, heq, rfl⟩
  · -- performed
    refine iff_of_true (Or.inl (socketHolders_positional hL hne hpath hp fuel))
      ⟨not_helpLike_positional hpath, ?_⟩
    rintro ⟨rfl, -⟩
    exact absurd hpath (by decide)
  · -- a cluster of short options
    have hdashes : '-' :: c :: t ≠ "--".toList := fun h => hc (List.cons.inj (List.cons.inj h).2).1
    exact verdict_of_option (helpLike_short hc) hdashes (socketHolders_short hL hc hp fuel)
  · -- the end of the options
    have hterminator := socketHolders_terminator hL hp fuel
    cases procs with
    | false =>
        exact iff_of_true (Or.inr hterminator) ⟨by decide, fun h => Bool.false_ne_true h.2⟩
    | true =>
        rw [if_pos rfl] at hterminator
        rw [hterminator]
        refine iff_of_false ?_ (fun h => h.2 ⟨rfl, rfl⟩)
        rintro (h | h)
        · cases h
        · exact not_refused_ok _ h
  · -- a long option
    have hdashes : "--".toList ++ name ≠ "--".toList := by simpa using hname
    exact verdict_of_option (helpLike_long heq) hdashes (socketHolders_long hL hname heq hp fuel)
  · -- a long option with a value
    have hdashes : "--".toList ++ name ++ '=' :: v ≠ "--".toList := by simp
    exact verdict_of_option (helpLike_long_value heq) hdashes
      (socketHolders_long_value hL heq hp fuel)

/-- **Performed exactly or refused loudly.** An ask for a snapshot always is. An ask about a
socket path is, unless the path starts with `-h`, is `--help` or starts with `--help=`, or is
`--` in front of `--procs`. -/
theorem ask_performed_or_refused_iff (hL : L.Lawful ready finished pending) {ask : Ask}
    (hmade : ask.Made) : ask.PerformedOrRefused L ↔ ask.Clear := by
  cases ask with
  | snapshot scope pids facets => exact iff_of_true (snapshot_performed hL hmade) trivial
  | socketHolders path procs =>
      have hargv : (Ask.socketHolders path procs).argv
          = Utf8.encode "socket-holders".toList :: Utf8.encode path :: procsArgs procs := by
        cases procs <;> rfl
      obtain ⟨p, hready, hparse⟩ := parse_socketHolders hL (Utf8.encode path :: procsArgs procs)
      obtain ⟨fuel, hfuel⟩ := exists_parseFuel
        (Utf8.encode "socket-holders".toList :: Utf8.encode path :: procsArgs procs)
        (n := 3) (by simp)
      rw [hfuel, ← hargv] at hparse
      exact (performed_iff hparse).trans (socketHolders_verdict hL hmade hready fuel)

end Asks

theorem ask_performed_or_refused_sample :
    (Ask.socketHolders "/run/a.sock".toList true).PerformedOrRefused .standard ∧
      ¬ (Ask.socketHolders "--help=all".toList true).PerformedOrRefused .standard := by
  have hiff : ∀ path, path ≠ [] → ((Ask.socketHolders path true).PerformedOrRefused .standard ↔
      (Ask.socketHolders path true).Clear) :=
    fun path hpath => ask_performed_or_refused_iff Lexopt.standard_lawful hpath
  refine ⟨(hiff _ (by decide)).mpr ⟨?_, ?_⟩, fun h => ((hiff _ (by decide)).mp h).1 ?_⟩
  · unfold HelpLike
    decide
  · decide
  · unfold HelpLike
    decide

/-- The path `-h` is a request for help, and the path `--` in front of `--procs` is an ask about
the path `--procs`. -/
theorem ask_mistaken :
    parse .standard (Ask.socketHolders "-h".toList false).argv = some (.error (.help HELP)) ∧
    parse .standard (Ask.socketHolders "--".toList true).argv
      = some (.ok (.socketHolders ⟨Utf8.encode "--procs".toList, false, false⟩)) ∧
    ¬ (∀ ask : Ask, ask.Made → ask.PerformedOrRefused .standard) := by
  have hhelp : parse .standard (Ask.socketHolders "-h".toList false).argv
      = some (.error (.help HELP)) := rfl
  refine ⟨hhelp, rfl, fun h => ?_⟩
  have hpath : "-h".toList ≠ [] := by decide
  rcases h (.socketHolders "-h".toList false) hpath with ⟨command, hparse, -⟩ | hrefused
  · rw [hhelp] at hparse
    cases hparse
  · rw [hhelp] at hrefused
    exact not_refused_help HELP hrefused

end Osfacts
