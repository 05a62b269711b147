import Osfacts.Contract.DarwinAccount
import Osfacts.Contract.LinuxSurvey
import Osfacts.Contract.PidSets

set_option autoImplicit false

/-! # Part of a larger snapshot

An ask about some of the pids gets, of the document that a larger ask gets, what is about its pids:
a snapshot of one subtree or of a list of pids is the snapshot of the host, restricted. Listeners
are the exception, as a listener that an unasked process holds first goes to another one that
holds it, or to none.
-/

namespace Osfacts

/-! ## The first holder, among fewer -/

section Find

variable {ν : Type} {holds : ν → Bool} {xs ys : List ν}

theorem find_eq_none_of_subset (hsub : xs ⊆ ys) (h : ys.find? holds = none) :
    xs.find? holds = none := by
  rw [List.find?_eq_none] at h ⊢
  exact fun x hx => h x (hsub hx)

theorem find_isSome_of_mem {x : ν} (hx : x ∈ xs) (hholds : holds x = true) :
    ∃ y ∈ xs, xs.find? holds = some y := by
  cases hfind : xs.find? holds with
  | none => exact absurd hholds (List.find?_eq_none.mp hfind x hx)
  | some y => exact ⟨y, List.mem_of_find?_eq_some hfind, rfl⟩

/-- Among fewer in the same order, the first is the first if it is there. -/
theorem find_eq_of_sublist (hsub : xs.Sublist ys) (hnodup : ys.Nodup) {y : ν}
    (hy : y ∈ xs) (h : ys.find? holds = some y) : xs.find? holds = some y := by
  induction hsub with
  | slnil => cases hy
  | @cons l₁ l₂ a hsub ih =>
      obtain ⟨ha, hnodup⟩ := List.nodup_cons.mp hnodup
      cases hholds : holds a with
      | true =>
          -- the one left out would have been the first
          rw [List.find?_cons_of_pos hholds, Option.some.injEq] at h
          exact absurd (hsub.subset (h ▸ hy)) ha
      | false =>
          rw [List.find?_cons_of_neg (by simp [hholds])] at h
          exact ih hnodup hy h
  | @cons_cons l₁ l₂ a hsub ih =>
      obtain ⟨ha, hnodup⟩ := List.nodup_cons.mp hnodup
      cases hholds : holds a with
      | true =>
          rw [List.find?_cons_of_pos hholds] at h ⊢
          exact h
      | false =>
          rw [List.find?_cons_of_neg (by simp [hholds])] at h ⊢
          refine ih hnodup ?_ h
          rcases List.mem_cons.mp hy with rfl | hy
          · rw [List.find?_some h] at hholds
            cases hholds
          · exact hy

end Find

/-! ## Listeners -/

/-- The listeners of an ask about the pids `P` beside those of a larger one: each is listed there,
one that a pid of `P` has there has a pid of `P` here, and one that has none there has none here. -/
structure ListenersWithin (P : List Pid) (part whole : List Port) : Prop where
  listed : ∀ row ∈ part, ∃ who, { row with attribution := who } ∈ whole ∧
    (row.attribution ≠ .unclaimed → who ≠ .unclaimed)
  claimed : ∀ q ∈ P, ∀ row ∈ whole, row.attribution = .claimed q →
    ∃ p ∈ P, { row with attribution := .claimed p } ∈ part
  unclaimed : ∀ row ∈ whole, row.attribution = .unclaimed → row ∈ part

section Listeners

variable {κ : Type} {row : κ → Port} {holds : κ → Pid → Bool} {P Q : List Pid}
  {part whole : List Port}

/-- The row of a listener that goes to the first pid of a list that holds it. -/
def attributedRow (row : κ → Port) (holds : κ → Pid → Bool) (P : List Pid) (k : κ) : Port :=
  { row k with attribution := (P.find? (holds k)).elim .unclaimed .claimed }

theorem attributedRow_claimed_iff {k : κ} {q : Pid} :
    (attributedRow row holds P k).attribution = .claimed q ↔ P.find? (holds k) = some q := by
  rw [attributedRow]
  cases P.find? (holds k) <;> simp

theorem attributedRow_unclaimed_iff {k : κ} :
    (attributedRow row holds P k).attribution = .unclaimed ↔ P.find? (holds k) = none := by
  rw [attributedRow]
  cases P.find? (holds k) <;> simp

/-- What the two platforms have in common: more pids list more, but only what they hold. -/
theorem listenersWithin (row : κ → Port) (holds : κ → Pid → Bool) (listed : List Pid → κ → Prop)
    (hsub : P ⊆ Q)
    (hpart : ∀ r, r ∈ part ↔ ∃ k, listed P k ∧ r = attributedRow row holds P k)
    (hwhole : ∀ r, r ∈ whole ↔ ∃ k, listed Q k ∧ r = attributedRow row holds Q k)
    (hmono : ∀ k, listed P k → listed Q k)
    (hless : ∀ k, listed Q k → (∀ q ∈ Q, holds k q = true → ∃ p ∈ P, holds k p = true) →
      listed P k) :
    ListenersWithin P part whole where
  listed r hr := by
    obtain ⟨k, hk, rfl⟩ := (hpart r).mp hr
    refine ⟨(attributedRow row holds Q k).attribution, (hwhole _).mpr ⟨k, hmono k hk, rfl⟩, ?_⟩
    rw [Ne, Ne, not_imp_not, attributedRow_unclaimed_iff, attributedRow_unclaimed_iff]
    exact find_eq_none_of_subset hsub
  claimed q hq r hr hattr := by
    obtain ⟨k, hk, rfl⟩ := (hwhole r).mp hr
    have hheld := List.find?_some (attributedRow_claimed_iff.mp hattr)
    obtain ⟨p, hp, hfirst⟩ := find_isSome_of_mem hq hheld
    refine ⟨p, hp, (hpart _).mpr ⟨k, hless k hk fun _ _ _ => ⟨q, hq, hheld⟩, ?_⟩⟩
    rw [attributedRow, attributedRow, hfirst]
    rfl
  unclaimed r hr hattr := by
    obtain ⟨k, hk, rfl⟩ := (hwhole r).mp hr
    have hfind := attributedRow_unclaimed_iff.mp hattr
    refine (hpart _).mpr ⟨k, hless k hk fun q hq hheld => ?_, ?_⟩
    · exact absurd hheld (List.find?_eq_none.mp hfind q hq)
    · rw [attributedRow, attributedRow, hfind, find_eq_none_of_subset hsub hfind]

/-- Where the smaller ask keeps the order of the larger one, a listener keeps its pid. -/
theorem claimed_of_sublist (row : κ → Port) (holds : κ → Pid → Bool)
    (listed : List Pid → κ → Prop) (hsub : P.Sublist Q) (hnodup : Q.Nodup)
    (hpart : ∀ r, r ∈ part ↔ ∃ k, listed P k ∧ r = attributedRow row holds P k)
    (hwhole : ∀ r, r ∈ whole ↔ ∃ k, listed Q k ∧ r = attributedRow row holds Q k)
    (hless : ∀ k, listed Q k → (∀ q ∈ Q, holds k q = true → ∃ p ∈ P, holds k p = true) →
      listed P k) :
    ∀ q ∈ P, ∀ r ∈ whole, r.attribution = .claimed q → r ∈ part := by
  intro q hq r hr hattr
  obtain ⟨k, hk, rfl⟩ := (hwhole r).mp hr
  have hfind := attributedRow_claimed_iff.mp hattr
  refine (hpart _).mpr ⟨k, hless k hk fun _ _ _ => ⟨q, hq, List.find?_some hfind⟩, ?_⟩
  rw [attributedRow, attributedRow, hfind, find_eq_of_sublist hsub hnodup hq hfind]

end Listeners

/-! ## Asks with the same flags -/

theorem SnapshotArgs.exists_eq_of_asks {a b : SnapshotArgs} (h : ∀ f, a.asks f = b.asks f) :
    ∃ scope json, a = { b with scope := scope, json := json } := by
  refine ⟨a.scope, a.json, ?_⟩
  have hprocs := h .procs
  have hports := h .ports
  have hmem := h .mem
  have hstart := h .startTime
  have hcpu := h .cpuTime
  have huid := h .uid
  have hcwd := h .cwd
  have hstatus := h .status
  have hargv := h .argv
  cases a
  cases b
  simp only [SnapshotArgs.asks] at *
  simp [*]

/-! ## On Linux -/

namespace Linux

section Flags

variable {a b : SnapshotArgs}

/-- What is read of a pid and of the host depends on the flags alone. -/
theorem reading_of_flags (os : Os) (h : ∀ f, a.asks f = b.asks f) :
    reading os a (constants os a) = reading os b (constants os b) ∧
      walkErrno os a = walkErrno os b ∧ constantErrors os a = constantErrors os b ∧
      portErrors os a = portErrors os b ∧ portRows os a = portRows os b := by
  obtain ⟨scope, json, rfl⟩ := SnapshotArgs.exists_eq_of_asks h
  refine ⟨?_, rfl, rfl, rfl, rfl⟩
  funext pid f
  cases f <;> rfl

theorem survey_within (os : Os) (h : ∀ f, a.asks f = b.asks f) {P Q : List Pid} (hsub : P ⊆ Q) :
    (survey os a P).Within (survey os b Q) := by
  obtain ⟨hread, hwalk, -⟩ := reading_of_flags os h
  refine ⟨hsub, fun pid _ f => congrFun (congrFun hread pid) f, fun pid _ facet => ?_⟩
  show blindSpots _ (walkErrno os a pid) none facet = blindSpots _ (walkErrno os b pid) none facet
  rw [hread, hwalk]

end Flags

/-- A listener that an ask finds in the tables. -/
def Loaded (os : Os) (args : SnapshotArgs) (listener : Listener) : Prop :=
  args.ports = true ∧ ∃ listeners, loadListeners os = .ok listeners ∧ listener ∈ listeners

/-- The rows of an ask's listeners, by the first of its pids that holds the socket. -/
theorem mem_portRows {os : Os} {args : SnapshotArgs} {pids : List Pid} {r : Port} :
    r ∈ portRows os args pids ↔ ∃ listener : Listener, Loaded os args listener ∧
      r = attributedRow (fun listener : Listener =>
          ⟨.unclaimed, some listener.uid, listener.port, hexBytes listener.addr⟩)
        (fun listener pid => decide (listener.inode ∈ heldInodes os pid)) pids listener := by
  have hrow : ∀ listener : Listener, portOfListener (claimsOf os pids) listener
      = attributedRow (fun listener : Listener =>
          ⟨.unclaimed, some listener.uid, listener.port, hexBytes listener.addr⟩)
        (fun listener pid => decide (listener.inode ∈ heldInodes os pid)) pids listener := by
    intro listener
    rw [portOfListener, lookup_claimsOf]
    rfl
  unfold portRows Loaded
  cases args.ports with
  | false => simp
  | true =>
      cases loadListeners os with
      | error e => simp
      | ok listeners => simp [hrow, eq_comm]

/-- **Part of a larger snapshot.** Of two asks with the same flags, where the pids of the first are
among those of the second, the first gets what the second gets about its pids. -/
theorem part_of_snapshot (os : Os) {a b : SnapshotArgs} {P Q : List Pid}
    (hflags : ∀ f, a.asks f = b.asks f) (hP : selected os a = .ok P) (hQ : selected os b = .ok Q)
    (hPnodup : ∀ list, a.scope = .pids list → list.Nodup)
    (hQnodup : ∀ list, b.scope = .pids list → list.Nodup)
    (hPapart : ∀ u ∈ collectionRows os a, u.pid ∉ P)
    (hQapart : ∀ u ∈ collectionRows os b, u.pid ∉ Q) (hsub : P ⊆ Q) :
    let part := normalize (snapshot os a)
    let whole := normalize (snapshot os b)
    (∀ f, f ≠ .ports → part.table f
      = (whole.table f).filter (fun row => (f.pidOf row).any (fun pid => pid ∈ P))) ∧
    part.unreadable.filter (fun u => u.pid ∈ P) = whole.unreadable.filter (fun u => u.pid ∈ P) ∧
    part.errors = whole.errors ∧
    ListenersWithin P part.ports whole.ports ∧
    (P.Sublist Q → ∀ q ∈ P, ∀ row ∈ whole.ports, row.attribution = .claimed q → row ∈ part.ports) ∧
    (part.ports.map (fun row => (row.uid, row.port, row.address))).Perm
      (whole.ports.map (fun row => (row.uid, row.port, row.address))) := by
  intro part whole
  have hreports := snapshot_reports hP
  have hreports' := snapshot_reports hQ
  have hwithin := survey_within os hflags hsub
  obtain ⟨-, -, hconstants, herrors, hrows⟩ := reading_of_flags os hflags
  have hports : (snapshot os a).ports = portRows os b P :=
    (snapshot_eq hP).2.1.trans (congrFun hrows P)
  have hports' : (snapshot os b).ports = portRows os b Q := (snapshot_eq hQ).2.1
  have hpart : ∀ r, r ∈ part.ports ↔ r ∈ portRows os b P := fun r =>
    mem_sortByKey.trans (by rw [hports])
  have hwhole : ∀ r, r ∈ whole.ports ↔ r ∈ portRows os b Q := fun r =>
    mem_sortByKey.trans (by rw [hports'])
  refine ⟨fun f hf => ?_, ?_, ?_, ?_, fun hordered => ?_, ?_⟩
  · exact hwithin.table hreports hreports' (nodup_selected hP hPnodup)
      (nodup_selected hQ hQnodup) hf
  · exact hwithin.unreadable hreports hreports' (survey_apart hP hPapart) (survey_apart hQ hQapart)
  · show (snapshot os a).errors = (snapshot os b).errors
    rw [hreports.errors, hreports'.errors]
    show constantErrors os a ++ portErrors os a = constantErrors os b ++ portErrors os b
    rw [hconstants, herrors]
  · exact listenersWithin _ _ (fun _ => Loaded os b) hsub
      (fun r => (hpart r).trans mem_portRows) (fun r => (hwhole r).trans mem_portRows)
      (fun _ h => h) (fun _ h _ => h)
  · exact claimed_of_sublist _ _ (fun _ => Loaded os b) hordered (nodup_selected hQ hQnodup)
      (fun r => (hpart r).trans mem_portRows) (fun r => (hwhole r).trans mem_portRows)
      (fun _ h _ => h)
  · -- the same listeners are listed, whoever holds them
    have hnames : (portRows os b P).map (fun row => (row.uid, row.port, row.address))
        = (portRows os b Q).map (fun row => (row.uid, row.port, row.address)) := by
      unfold portRows
      cases b.ports with
      | false => rfl
      | true =>
          cases loadListeners os with
          | error e => rfl
          | ok listeners => simp [portOfListener]
    have hperm : part.ports.Perm (portRows os b P) := hports ▸ sortByKey_perm portKey _
    have hperm' : whole.ports.Perm (portRows os b Q) := hports' ▸ sortByKey_perm portKey _
    exact (hperm.map _).trans ((List.Perm.of_eq hnames).trans (hperm'.map _).symm)

/-- A list of one of the two processes, beside the list of both. -/
theorem part_of_snapshot_sample :
    (normalize (snapshot sampleOs (memoryArgs.ofPids [7]))).table .mem
      = ((normalize (snapshot sampleOs (memoryArgs.ofPids [9, 7]))).table .mem).filter
          (fun row => (Flag.mem.pidOf row).any (fun pid => pid ∈ [(7 : Pid)])) := by
  have hP : selected sampleOs (memoryArgs.ofPids [7]) = .ok [7] := rfl
  have hQ : selected sampleOs (memoryArgs.ofPids [9, 7]) = .ok [9, 7] := rfl
  refine (part_of_snapshot sampleOs (fun f => by cases f <;> rfl) hP hQ ?_ ?_ ?_ ?_ (by decide)).1
    .mem (by decide)
  · rintro list ⟨⟩
    decide
  · rintro list ⟨⟩
    decide
  · exact List.forall_mem_nil _
  · exact List.forall_mem_nil _

end Linux

/-! ## On darwin -/

namespace Darwin

section Flags

variable {a b : SnapshotArgs}

theorem survey_within (os : Os) (table : ProcessTable) (h : ∀ f, a.asks f = b.asks f)
    (hsub : wanted a.scope table ⊆ wanted b.scope table) :
    (survey os a table).Within (survey os b table) := by
  obtain ⟨scope, json, rfl⟩ := SnapshotArgs.exists_eq_of_asks h
  have hread : reading os { b with scope := scope, json := json } table
      (timebaseOf os { b with scope := scope, json := json })
        = reading os b table (timebaseOf os b) := by
    funext pid f
    cases f <;> rfl
  refine ⟨hsub, fun pid _ f => congrFun (congrFun hread pid) f, fun pid _ facet => ?_⟩
  show blindSpots (reading os _ table _ pid) _ _ facet = blindSpots _ _ _ facet
  rw [hread]
  rfl

end Flags

theorem mem_keys_claimsOf {walk : Pid → Except Errno (List Pcblist.HostListener)} {pids : List Pid}
    {key : Pcblist.HostListener} :
    key ∈ (claimsOf walk pids).map Prod.fst ↔
      ∃ pid ∈ pids, decide (key ∈ heard walk pid) = true := by
  rw [← lookup_isSome_iff, lookup_claimsOf, List.find?_isSome]

/-- A listener is listed where the table has it or one of the pids is heard with it. -/
def Listed (walk : Pid → Except Errno (List Pcblist.HostListener))
    (rows : List Pcblist.HostListener) (pids : List Pid) (key : Pcblist.HostListener) : Prop :=
  key ∈ rows ∨ ∃ pid ∈ pids, decide (key ∈ heard walk pid) = true

theorem mem_ports {walk : Pid → Except Errno (List Pcblist.HostListener)}
    {rows : List Pcblist.HostListener} {pids : List Pid} {r : Port} :
    r ∈ Pcblist.attributeHostListeners rows (claimsOf walk pids) ↔
      ∃ key, Listed walk rows pids key ∧
        r = attributedRow (fun key : Pcblist.HostListener => ⟨.unclaimed, none, key.1, key.2⟩)
          (fun key pid => decide (key ∈ heard walk pid)) pids key := by
  rw [Pcblist.mem_attributeHostListeners]
  simp only [mem_keys_claimsOf, lookup_claimsOf]
  rfl

/-- Where the table of the listeners was read, the `E` rows do not depend on the pids; else one of
them says by its facet whether some pid was heard with a listener. -/
theorem portErrors_of_ok {walk : Pid → Except Errno (List Pcblist.HostListener)}
    {rows : List Pcblist.HostListener} (pids pids' : List Pid) :
    portErrors walk (.ok rows) pids = portErrors walk (.ok rows) pids' := rfl

theorem filter_portErrors (walk : Pid → Except Errno (List Pcblist.HostListener))
    (listed : Except Errno (List Pcblist.HostListener)) (pids : List Pid) :
    (portErrors walk listed pids).filter (fun e => e.source ≠ "darwin_tcp_pcblist".toList)
      = [sourceError "darwin_listeners" .portsUid Libc.ENOTSUP] := by
  unfold portErrors
  rw [List.filter_cons_of_pos (by decide), List.cons_inj_right, List.filter_eq_nil_iff]
  intro e he hsource
  rw [decide_eq_true_eq] at hsource
  apply hsource
  split at he
  · split_ifs at he
    · rw [List.mem_singleton.mp he]
      rfl
    · cases he
  · rw [List.mem_singleton.mp he]
    rfl

end Darwin

end Osfacts
