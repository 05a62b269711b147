import Osfacts.Client.Identity
import Osfacts.Contract.Acceptance
import Osfacts.Contract.Canonical

set_option autoImplicit false

/-! # The identity of a process, end to end

The sensor, the document, the exit status and the client's fold, composed for the ask of one
start time. The client's three outcomes follow the three things the sensor can know: the start
time, that the process is gone, and neither.
-/

namespace Osfacts

open Client Linux

/-- The start time of one process. -/
def identityArgs (pid : Pid) : SnapshotArgs :=
  { SnapshotArgs.default with scope := .pids [pid], startTime := true }

/-- The ask of the client, answered by the sensor, written, and read by the client. -/
def processIdentity (J : JsonLib) (writeJson : Snapshot → Text) (bin : Text) (os : Os)
    (pid : Pid) : Except OsfactsClientError (Option StartTimeRow) := do
  let body ← childDocument bin
    (emit J writeJson (take (Linux.snapshot os (identityArgs pid))) false)
  let reading ← parseSnapshotOutput J body
  foldStartTimeReading reading pid.toNat

/-! ## What the system says -/

/-- The `btime` line of `/proc/stat`, in seconds. -/
def bootSeconds (os : Os) : Except Errno UInt64 := do
  let body ← os.readString "/proc/stat".toList
  let value ← parsed ((lines body).findSome? (stripPrefix "btime ".toList))
  parsed (parseU64 value)

/-- The start of a process, in clock ticks after boot. -/
def startTicks (stat : Text) : Except Errno UInt64 := do
  let value ← parseStatField stat 19
  parsed (parseU64 value)

theorem bootTimeUs_eq (os : Os) :
    bootTimeUs os = (bootSeconds os).map (fun secs => secs * 1000000) := by
  unfold bootTimeUs bootSeconds
  cases os.readString "/proc/stat".toList with
  | error err => rfl
  | ok body =>
      rw [ok_bind, ok_bind]
      cases parsed ((lines body).findSome? (stripPrefix "btime ".toList)) with
      | error err => rfl
      | ok value =>
          rw [ok_bind, ok_bind]
          cases parsed (parseU64 value) <;> rfl

theorem readStartTime_eq (stat : Text) (bootUs hz : UInt64) :
    readStartTime stat bootUs hz
      = (startTicks stat).map (fun ticks => bootUs + saturatingMul ticks 1000000 / hz) := by
  unfold readStartTime startTicks
  cases parseStatField stat 19 with
  | error err => rfl
  | ok value =>
      rw [ok_bind, ok_bind]
      cases parsed (parseU64 value) <;> rfl

/-- Everything a start time is computed from was read and parsed. -/
structure StartFacts (os : Os) (pid : Pid) (secs ticks hz : UInt64) : Prop where
  boot : bootSeconds os = .ok secs
  rate : clockTicks os = .ok hz
  start : (statOf os pid).bind startTicks = .ok ticks

/-- The process is gone: boot time and tick rate were read, and there is no such process. -/
structure Gone (os : Os) (pid : Pid) : Prop where
  boot : ∃ secs, bootSeconds os = .ok secs
  rate : ∃ hz, clockTicks os = .ok hz
  stat : statOf os pid = .error Libc.ENOENT ∨ statOf os pid = .error Libc.ESRCH

/-- Microseconds from the epoch to the start of the process. -/
def startUnixUs (secs ticks hz : UInt64) : Nat :=
  secs.toNat * 10 ^ 6 + ticks.toNat * 10 ^ 6 / hz.toNat

/-- The two products fit in 64 bits. -/
def ProductsFit (secs ticks : UInt64) : Prop :=
  secs.toNat * 10 ^ 6 < 2 ^ 64 ∧ ticks.toNat * 10 ^ 6 < 2 ^ 64

/-- The sum passes 64 bits, and what is left of it looks like a start time. -/
def WrapsSmall (secs ticks hz : UInt64) : Prop :=
  2 ^ 64 ≤ startUnixUs secs ticks hz ∧ startUnixUs secs ticks hz - 2 ^ 64 ≤ MAX_SAFE_INTEGER

/-! ## The document -/

/-- What the ask reads of the process. -/
def identityReading (os : Os) (pid : Pid) : Option (Except Errno StartTime) :=
  reading os (identityArgs pid) (constants os (identityArgs pid)) pid .startTime

/-- The document is that reading and the constants that failed. -/
def identityDocument (os : Os) (pid : Pid) : Snapshot :=
  { Snapshot.new with
    startTimes := facts (identityReading os pid)
    unreadable := blame pid .startTime (identityReading os pid)
    errors := constantErrors os (identityArgs pid) }

theorem perm_facts {α : Type} {r : Option (Except Errno α)} {l : List α} (h : l.Perm (facts r)) :
    l = facts r := by
  unfold facts at h ⊢
  split at h
  · exact List.perm_singleton.mp h
  · exact h.eq_nil

theorem normalizeUnreadable_blame [Libc] {α : Type} (pid : Pid) (facet : Facet)
    (r : Option (Except Errno α)) :
    normalizeUnreadable (blame pid facet r) = blame pid facet r := by
  unfold blame
  split <;> rfl

theorem take_identity (os : Os) (pid : Pid) :
    take (Linux.snapshot os (identityArgs pid)) = identityDocument os pid := by
  have hsel : selected os (identityArgs pid) = .ok [pid] := rfl
  obtain ⟨htables, hports, hunreadable, herrors, hversion⟩ := snapshot_eq hsel
  refine Snapshot.eq_of_tables hversion (fun f => ?_) ?_ ?_
  · have hperm := table_normalize_perm (Linux.snapshot os (identityArgs pid)) f
    by_cases hf : f = .startTime
    · subst hf
      rw [htables .startTime (by decide), List.flatMap_singleton] at hperm
      exact perm_facts hperm
    · -- no other flag is asked
      have hask : (identityArgs pid).asks f = false := by
        cases f <;> first | rfl | exact absurd rfl hf
      rw [table_of_not_asked hsel hask] at hperm
      rw [take, hperm.eq_nil]
      cases f <;> first | rfl | exact absurd rfl hf
  · show normalizeUnreadable _ = _
    rw [hunreadable]
    have hrows : collectionRows os (identityArgs pid)
        ++ [pid].flatMap (pidBlame os (identityArgs pid) (constants os (identityArgs pid)))
        ++ portBlame os (identityArgs pid) [pid]
      = blame pid .startTime (identityReading os pid) := by
      show blame pid .startTime (identityReading os pid) ++ [] ++ [] ++ [] = _
      rw [List.append_nil, List.append_nil, List.append_nil]
    rw [hrows]
    exact normalizeUnreadable_blame pid .startTime _
  · show (Linux.snapshot os (identityArgs pid)).errors = _
    rw [herrors]
    exact List.append_nil _

theorem writeTsv_snapshot_version (J : JsonLib) (doc : Snapshot) :
    "V\t".toList.isPrefixOf (writeTsv J doc) = true := rfl

/-- The client folds what its parser makes of the document. -/
theorem processIdentity_eq (J : JsonLib) (writeJson : Snapshot → Text) (bin : Text) (os : Os)
    (pid : Pid) :
    processIdentity J writeJson bin os pid
      = (parseSnapshotOutput J (writeTsv J (identityDocument os pid)) >>=
          fun reading => foldStartTimeReading reading pid.toNat) := by
  have hversion := writeTsv_snapshot_version J (identityDocument os pid)
  rw [processIdentity, take_identity, childDocument_emit bin (J := J) writeJson hversion]
  rfl

theorem identityDocument_framed (os : Os) (pid : Pid) : (identityDocument os pid).Framed := by
  rw [← take_identity]
  exact snapshot_framed os _

/-- A start time the client can hold, or none: the client's parser accepts the document. -/
theorem identityDocument_wire (os : Os) {pid : Pid}
    (h : ∀ t ∈ facts (identityReading os pid), t.Wire) : (identityDocument os pid).Wire := by
  have hframed := identityDocument_framed os pid
  exact ⟨rfl, hframed.procs, List.forall_mem_nil _, h, List.forall_mem_nil _,
    List.forall_mem_nil _, List.forall_mem_nil _, hframed.unreadable, hframed.errors⟩

theorem snapshotRow_startTime_refused {t : StartTime} (h : ¬ t.Wire) (J : JsonLib)
    (out : SnapshotReading) : ∃ e, snapshotRow J out (tsvLine t.row) = .error e := by
  rw [snapshotRow, splitOn_tsvLine t.rowOk]
  show ∃ e, (integer (some (Decimal.decimal t.pid.toNat)) "start-time pid" >>= _) = .error e
  rw [integer_uint32]
  show ∃ e, (integer (some (Decimal.decimal t.startUnixUs.toNat)) "start time" >>= _) = .error e
  have hrefused : ∃ e,
      integer (some (Decimal.decimal t.startUnixUs.toNat)) "start time" = .error e := by
    simp only [integer, numeric, Decimal.isNumeral_decimal, Decimal.value_decimal, if_true]
    rw [if_neg (by simpa [StartTime.Wire] using h)]
    exact ⟨_, rfl⟩
  obtain ⟨e, he⟩ := hrefused
  exact ⟨e, by rw [he, error_bind]⟩

/-! ## The outcomes -/

/-- The two errnos the client reads as absence, in the spelling of the wire. -/
theorem errnoName_absent [Libc] {err : Errno} :
    errnoName err = "ESRCH".toList ∨ errnoName err = "ENOENT".toList ↔
      err = Libc.ENOENT ∨ err = Libc.ESRCH := by
  have hnumber : 'E' ∉ Decimal.signedDecimal err :=
    Decimal.not_mem_signedDecimal rfl (by decide)
  unfold errnoName
  split_ifs with _ _ hnoent hsrch _ _ hnotsup
  all_goals first | (subst err; decide) | skip
  -- the number that the platform chose is neither of the two
  · exact iff_of_false (by decide) (not_or.mpr ⟨hnoent, hsrch⟩)
  · refine iff_of_false ?_ (not_or.mpr ⟨hnoent, hsrch⟩)
    rintro (h | h)
    all_goals
      rw [h] at hnumber
      exact absurd hnumber (by decide)

section Outcomes

variable {J : JsonLib} (hJ : J.Lawful) (writeJson : Snapshot → Text) (bin : Text) {os : Os}
  {pid : Pid}

include hJ

/-- Without a constant there is nothing to read of the process. -/
theorem identity_blind (h : identityReading os pid = none) :
    ∃ e, processIdentity J writeJson bin os pid = .error e := by
  have hwire : (identityDocument os pid).Wire := by
    apply identityDocument_wire os
    rw [h]
    exact List.forall_mem_nil _
  rw [processIdentity_eq, parseSnapshotOutput_writeTsv hJ hwire, ok_bind, foldStartTimeReading]
  have hview : (identityDocument os pid).view.startTimes = [] ∧
      (identityDocument os pid).view.unreadable = [] := by
    simp only [identityDocument, Snapshot.view, h]
    exact ⟨rfl, rfl⟩
  rw [hview.1, hview.2]
  exact ⟨_, rfl⟩

/-- A process that could not be read is gone or an error, as its errno says. -/
theorem identity_unread {err : Errno} (h : identityReading os pid = some (.error err)) :
    (err = Libc.ENOENT ∨ err = Libc.ESRCH → processIdentity J writeJson bin os pid = .ok none) ∧
    (¬ (err = Libc.ENOENT ∨ err = Libc.ESRCH) →
      ∃ e, processIdentity J writeJson bin os pid = .error e) := by
  have hwire : (identityDocument os pid).Wire := by
    apply identityDocument_wire os
    rw [h]
    exact List.forall_mem_nil _
  rw [processIdentity_eq, parseSnapshotOutput_writeTsv hJ hwire, ok_bind, foldStartTimeReading]
  have hview : (identityDocument os pid).view.startTimes = [] ∧
      (identityDocument os pid).view.unreadable
        = [⟨pid.toNat, "start_time".toList, errnoName err⟩] := by
    simp only [identityDocument, Snapshot.view, h]
    exact ⟨rfl, rfl⟩
  have hfind : [(⟨pid.toNat, "start_time".toList, errnoName err⟩ : UnreadableRow)].find?
      (fun value => value.pid == pid.toNat && value.facet == "start_time".toList)
      = some ⟨pid.toNat, "start_time".toList, errnoName err⟩ :=
    List.find?_cons_of_pos (by simp)
  rw [hview.1, hview.2, List.find?_nil, hfind]
  simp only [errnoName_absent]
  constructor
  · intro habsent
    rw [if_pos habsent]
  · intro hother
    rw [if_neg hother]
    exact ⟨_, rfl⟩

/-- A start time is the answer when the client can hold it. -/
theorem identity_read {us : UInt64} (h : identityReading os pid = some (.ok ⟨pid, us⟩)) :
    (us.toNat ≤ MAX_SAFE_INTEGER →
      processIdentity J writeJson bin os pid = .ok (some ⟨pid.toNat, us.toNat⟩)) ∧
    (¬ us.toNat ≤ MAX_SAFE_INTEGER → ∃ e, processIdentity J writeJson bin os pid = .error e) := by
  rw [processIdentity_eq]
  constructor
  · intro hsafe
    have hwire : (identityDocument os pid).Wire := by
      apply identityDocument_wire os
      rw [h]
      exact List.forall_mem_singleton.mpr hsafe
    have hview : (identityDocument os pid).view.startTimes = [⟨pid.toNat, us.toNat⟩] := by
      simp only [identityDocument, Snapshot.view, h]
      rfl
    rw [parseSnapshotOutput_writeTsv hJ hwire, ok_bind, foldStartTimeReading, hview,
      List.find?_cons_of_pos (by simp)]
  · intro hunsafe
    have hrow : StartTime.row ⟨pid, us⟩ ∈ (identityDocument os pid).bodyRows J := by
      have hmem : (⟨pid, us⟩ : StartTime) ∈ (identityDocument os pid).startTimes := by
        show _ ∈ facts (identityReading os pid)
        rw [h]
        exact List.mem_cons_self
      have hmap := List.mem_map_of_mem (f := StartTime.row) hmem
      simp only [Snapshot.bodyRows, List.mem_append]
      tauto
    have hnot : ¬ StartTime.Wire ⟨pid, us⟩ := hunsafe
    have hrefused : ∃ e,
        parseSnapshotOutput J (writeTsv J (identityDocument os pid)) = .error e := by
      rw [parseSnapshotOutput_eq_foldlM hJ rfl (identityDocument_framed os pid)]
      exact foldlM_of_unreadable hrow (snapshotRow_startTime_refused hnot J)
        emptySnapshotReading
    obtain ⟨e, he⟩ := hrefused
    exact ⟨e, by rw [he, error_bind]⟩

end Outcomes

/-! ## What the reading is -/

/-- The start time the sensor computes, in the arithmetic of 64 bits. -/
def computedUs (secs ticks hz : UInt64) : UInt64 :=
  secs * 1000000 + saturatingMul ticks 1000000 / hz

theorem identityReading_of_constants {os : Os} (pid : Pid) {secs hz : UInt64}
    (hboot : bootSeconds os = .ok secs) (hrate : clockTicks os = .ok hz) :
    identityReading os pid = some (((statOf os pid).bind startTicks).map
      (fun ticks => ⟨pid, computedUs secs ticks hz⟩)) := by
  have hread : identityReading os pid
      = some (((statOf os pid).bind (fun stat => readStartTime stat (secs * 1000000) hz)).map
          (fun start => (⟨pid, start⟩ : StartTime))) := by
    have hbootUs : (constants os (identityArgs pid)).bootUs = some (secs * 1000000) := by
      show (bootTimeUs os).toOption = _
      rw [bootTimeUs_eq, hboot]
      rfl
    have hclkHz : (constants os (identityArgs pid)).clkHz = some hz := by
      show (clockTicks os).toOption = _
      rw [hrate]
      rfl
    rw [identityReading, reading, hbootUs, hclkHz, Option.bind_some, Option.map_some]
  rw [hread]
  -- by rewriting, since comparing the two rows by evaluation compares their arithmetic
  cases statOf os pid with
  | error err => simp only [Except.bind, Except.map]
  | ok stat =>
      simp only [Except.bind, readStartTime_eq]
      cases startTicks stat with
      | error err => simp only [Except.map]
      | ok ticks => simp only [Except.map, computedUs]

theorem identityReading_of_blind {os : Os} {pid : Pid}
    (h : ∀ secs hz, ¬ (bootSeconds os = .ok secs ∧ clockTicks os = .ok hz)) :
    identityReading os pid = none := by
  show (bootTimeUs os).toOption.bind (fun bootUs => (clockTicks os).toOption.map _) = _
  rw [bootTimeUs_eq]
  cases hboot : bootSeconds os with
  | error err => rfl
  | ok secs =>
      cases hrate : clockTicks os with
      | error err => rfl
      | ok hz => exact absurd ⟨hboot, hrate⟩ (h secs hz)

/-- Where the products fit, the sum is taken modulo 2^64. -/
theorem toNat_computedUs {secs ticks : UInt64} (hz : UInt64) (h : ProductsFit secs ticks) :
    (computedUs secs ticks hz).toNat = startUnixUs secs ticks hz % 2 ^ 64 := by
  obtain ⟨hsecs, hticks⟩ := h
  have hboot : (secs * 1000000).toNat = secs.toNat * 10 ^ 6 := by
    rw [UInt64.toNat_mul, toNat_million, Nat.mod_eq_of_lt hsecs]
  rw [computedUs, UInt64.toNat_add, UInt64.toNat_div, toNat_micros hticks, hboot, startUnixUs]

/-- Where the products fit, the sum passes 64 bits at most once. -/
theorem startUnixUs_lt {secs ticks : UInt64} (hz : UInt64) (h : ProductsFit secs ticks) :
    startUnixUs secs ticks hz < 2 ^ 65 := by
  obtain ⟨hsecs, hticks⟩ := h
  calc startUnixUs secs ticks hz ≤ secs.toNat * 10 ^ 6 + ticks.toNat * 10 ^ 6 :=
        Nat.add_le_add_left (Nat.div_le_self _ _) _
    _ < 2 ^ 64 + 2 ^ 64 := Nat.add_lt_add hsecs hticks
    _ = 2 ^ 65 := by norm_num

/-! ## The answers -/

theorem StartFacts.unique {os : Os} {pid : Pid} {secs ticks hz secs' ticks' hz' : UInt64}
    (h : StartFacts os pid secs ticks hz) (h' : StartFacts os pid secs' ticks' hz') :
    secs = secs' ∧ ticks = ticks' ∧ hz = hz' :=
  ⟨Except.ok.inj (h.boot.symm.trans h'.boot), Except.ok.inj (h.start.symm.trans h'.start),
    Except.ok.inj (h.rate.symm.trans h'.rate)⟩

theorem StartFacts.not_gone {os : Os} {pid : Pid} {secs ticks hz : UInt64}
    (h : StartFacts os pid secs ticks hz) : ¬ Gone os pid := by
  rintro ⟨-, -, hstat⟩
  have hstart := h.start
  rcases hstat with hstat | hstat
  all_goals
    rw [hstat] at hstart
    cases hstart

theorem startTicks_error {stat : Text} {err : Errno} (h : startTicks stat = .error err) :
    err = Libc.EINVAL := by
  unfold startTicks at h
  cases hfield : parseStatField stat 19 with
  | error err' =>
      rw [hfield, error_bind, Except.error.injEq] at h
      unfold parseStatField at hfield
      split at hfield
      · cases hfield
        exact h.symm
      · split at hfield <;> cases hfield
        exact h.symm
  | ok value =>
      rw [hfield, ok_bind] at h
      unfold parsed at h
      split at h <;> cases h
      rfl

/-- **The client's three outcomes.** The process is gone, or its start time was computed, or
there is neither and the client throws. -/
theorem identity_outcomes {J : JsonLib} (hJ : J.Lawful) (writeJson : Snapshot → Text) (bin : Text)
    (os : Os) (pid : Pid) :
    (Gone os pid ∧ processIdentity J writeJson bin os pid = .ok none) ∨
    (∃ secs ticks hz, StartFacts os pid secs ticks hz ∧
      ((computedUs secs ticks hz).toNat ≤ MAX_SAFE_INTEGER →
        processIdentity J writeJson bin os pid
          = .ok (some ⟨pid.toNat, (computedUs secs ticks hz).toNat⟩)) ∧
      (¬ (computedUs secs ticks hz).toNat ≤ MAX_SAFE_INTEGER →
        ∃ e, processIdentity J writeJson bin os pid = .error e)) ∨
    (¬ Gone os pid ∧ (∀ secs ticks hz, ¬ StartFacts os pid secs ticks hz) ∧
      ∃ e, processIdentity J writeJson bin os pid = .error e) := by
  by_cases hconstants : ∃ secs hz, bootSeconds os = .ok secs ∧ clockTicks os = .ok hz
  · obtain ⟨secs, hz, hboot, hrate⟩ := hconstants
    have hreading := identityReading_of_constants pid hboot hrate
    cases hstart : (statOf os pid).bind startTicks with
    | ok ticks =>
        rw [hstart] at hreading
        exact Or.inr (Or.inl ⟨secs, ticks, hz, ⟨hboot, hrate, hstart⟩,
          identity_read hJ writeJson bin hreading⟩)
    | error err =>
        rw [hstart] at hreading
        obtain ⟨habsent, hother⟩ := identity_unread hJ writeJson bin hreading
        -- a line that does not parse is `EINVAL`, so absence comes from the read alone
        have hgone : Gone os pid ↔ err = Libc.ENOENT ∨ err = Libc.ESRCH := by
          cases hstat : statOf os pid with
          | error err' =>
              rw [hstat] at hstart
              cases hstart
              refine ⟨fun h => ?_, fun h => ⟨⟨secs, hboot⟩, ⟨hz, hrate⟩, ?_⟩⟩
              · simpa [hstat] using h.stat
              · simpa [hstat] using h
          | ok stat =>
              rw [hstat] at hstart
              obtain rfl := startTicks_error hstart
              refine ⟨fun h => ?_, fun h => absurd h (by decide)⟩
              have hread := h.stat
              rw [hstat] at hread
              rcases hread with hread | hread <;> cases hread
        by_cases herr : err = Libc.ENOENT ∨ err = Libc.ESRCH
        · exact Or.inl ⟨hgone.mpr herr, habsent herr⟩
        · refine Or.inr (Or.inr ⟨fun h => herr (hgone.mp h), fun _ _ _ h => ?_, hother herr⟩)
          have hread := h.start
          rw [hstart] at hread
          cases hread
  · have hblind : ∀ secs hz, ¬ (bootSeconds os = .ok secs ∧ clockTicks os = .ok hz) :=
      fun secs hz h => hconstants ⟨secs, hz, h⟩
    refine Or.inr (Or.inr ⟨?_, ?_, identity_blind hJ writeJson bin
      (identityReading_of_blind hblind)⟩)
    · rintro ⟨⟨secs, hboot⟩, ⟨hz, hrate⟩, -⟩
      exact hblind secs hz ⟨hboot, hrate⟩
    · exact fun secs _ hz h => hblind secs hz ⟨h.boot, h.rate⟩

/-- The client's answer says what the system said: `undefined` for a process that is gone, the
start time where it was read and can be held, and an error in every other case. -/
structure IdentityHonest (os : Os) (pid : Pid)
    (answer : Except OsfactsClientError (Option StartTimeRow)) : Prop where
  absent_iff : answer = .ok none ↔ Gone os pid
  known_iff : ∀ row, answer = .ok (some row) ↔ ∃ secs ticks hz,
    StartFacts os pid secs ticks hz ∧ startUnixUs secs ticks hz ≤ MAX_SAFE_INTEGER ∧
      row = ⟨pid.toNat, startUnixUs secs ticks hz⟩
  otherwise : ¬ Gone os pid → (∀ secs ticks hz, StartFacts os pid secs ticks hz →
    ¬ startUnixUs secs ticks hz ≤ MAX_SAFE_INTEGER) → ∃ e, answer = .error e

theorem honest_of_gone {os : Os} {pid : Pid} (h : Gone os pid) :
    IdentityHonest os pid (.ok none) := by
  refine ⟨iff_of_true rfl h, fun row => ?_, fun hnot => absurd h hnot⟩
  constructor
  · intro hrow
    cases hrow
  · rintro ⟨secs, ticks, hz, hfacts, -⟩
    exact absurd h hfacts.not_gone

theorem honest_of_unknown {os : Os} {pid : Pid} {e : OsfactsClientError} (h : ¬ Gone os pid)
    (hfacts : ∀ secs ticks hz, StartFacts os pid secs ticks hz →
      ¬ startUnixUs secs ticks hz ≤ MAX_SAFE_INTEGER) :
    IdentityHonest os pid (.error e) := by
  refine ⟨iff_of_false (fun he => by cases he) h, fun row => ?_, fun _ _ => ⟨e, rfl⟩⟩
  constructor
  · intro hrow
    cases hrow
  · rintro ⟨secs, ticks, hz, hread, hsafe, -⟩
    exact absurd hsafe (hfacts secs ticks hz hread)

/-- A start time is honest exactly when it is the one the system gave. -/
theorem honest_of_known {os : Os} {pid : Pid} {secs ticks hz : UInt64}
    (h : StartFacts os pid secs ticks hz) (us : Nat) :
    IdentityHonest os pid (.ok (some ⟨pid.toNat, us⟩)) ↔
      us = startUnixUs secs ticks hz ∧ us ≤ MAX_SAFE_INTEGER := by
  constructor
  · intro honest
    obtain ⟨secs', ticks', hz', h', hsafe, hrow⟩ := (honest.known_iff _).mp rfl
    obtain ⟨rfl, rfl, rfl⟩ := h.unique h'
    have hus := congrArg StartTimeRow.startUnixUs hrow
    exact ⟨hus, le_of_eq_of_le hus hsafe⟩
  · rintro ⟨rfl, hsafe⟩
    refine ⟨iff_of_false (fun he => by cases he) h.not_gone, fun row => ?_, fun _ hno => ?_⟩
    · constructor
      · intro hrow
        cases hrow
        exact ⟨secs, ticks, hz, h, hsafe, rfl⟩
      · rintro ⟨secs', ticks', hz', h', -, rfl⟩
        obtain ⟨rfl, rfl, rfl⟩ := h.unique h'
        rfl
    · exact absurd hsafe (hno secs ticks hz h)

section Answers

variable {J : JsonLib} (hJ : J.Lawful) (writeJson : Snapshot → Text) (bin : Text) (os : Os)
  (pid : Pid)

include hJ

/-- `undefined` is the answer for a process that is gone, and for no other. -/
theorem identity_absent_iff : processIdentity J writeJson bin os pid = .ok none ↔ Gone os pid := by
  rcases identity_outcomes hJ writeJson bin os pid with ⟨hgone, hanswer⟩
    | ⟨secs, ticks, hz, hfacts, hheld, hrefused⟩ | ⟨hgone, -, e, hanswer⟩
  · exact iff_of_true hanswer hgone
  · refine iff_of_false (fun hnone => ?_) hfacts.not_gone
    by_cases hsafe : (computedUs secs ticks hz).toNat ≤ MAX_SAFE_INTEGER
    · rw [hheld hsafe] at hnone
      cases hnone
    · obtain ⟨e, he⟩ := hrefused hsafe
      rw [he] at hnone
      cases hnone
  · refine iff_of_false (fun hnone => ?_) hgone
    rw [hanswer] at hnone
    cases hnone

/-- Where the products fit, the answer is honest unless the sum wraps to a small one. -/
theorem honest_iff_of_fit
    (hfit : ∀ secs ticks hz, StartFacts os pid secs ticks hz → ProductsFit secs ticks) :
    IdentityHonest os pid (processIdentity J writeJson bin os pid) ↔
      ∀ secs ticks hz, StartFacts os pid secs ticks hz → ¬ WrapsSmall secs ticks hz := by
  rcases identity_outcomes hJ writeJson bin os pid with ⟨hgone, hanswer⟩
    | ⟨secs, ticks, hz, hfacts, hheld, hrefused⟩ | ⟨hgone, hno, e, hanswer⟩
  · rw [hanswer]
    exact iff_of_true (honest_of_gone hgone) fun _ _ _ h => absurd hgone h.not_gone
  · have hmod := toNat_computedUs hz (hfit secs ticks hz hfacts)
    have hsum := startUnixUs_lt hz (hfit secs ticks hz hfacts)
    have honly : (∀ secs' ticks' hz', StartFacts os pid secs' ticks' hz' →
        ¬ WrapsSmall secs' ticks' hz') ↔ ¬ WrapsSmall secs ticks hz := by
      refine ⟨fun h => h secs ticks hz hfacts, fun h secs' ticks' hz' h' => ?_⟩
      obtain ⟨rfl, rfl, rfl⟩ := hfacts.unique h'
      exact h
    rw [honly]
    unfold WrapsSmall
    -- what was computed is the start or lies 2^64 below it; the client holds the small ones
    have hmax : MAX_SAFE_INTEGER < 2 ^ 64 := by decide
    generalize (computedUs secs ticks hz).toNat = us at hmod hheld hrefused
    by_cases hsafe : us ≤ MAX_SAFE_INTEGER
    · rw [hheld hsafe, honest_of_known hfacts]
      omega
    · obtain ⟨e, he⟩ := hrefused hsafe
      rw [he]
      refine iff_of_true (honest_of_unknown hfacts.not_gone fun secs' ticks' hz' h' => ?_) ?_
      · obtain ⟨rfl, rfl, rfl⟩ := hfacts.unique h'
        omega
      · omega
  · rw [hanswer]
    exact iff_of_true (honest_of_unknown hgone fun secs ticks hz h => absurd h (hno secs ticks hz))
      fun secs ticks hz h => absurd h (hno secs ticks hz)

end Answers

/-- **The identity of a process is honest, unless its start time wraps.** The client's answer
is `undefined` exactly for a process that is gone. Where the two products fit in 64 bits, all
its answers are honest exactly when the sum does not pass 64 bits and come back as an integer
the client can hold. -/
theorem identity_honest_iff {J : JsonLib} (hJ : J.Lawful) (writeJson : Snapshot → Text)
    (bin : Text) (os : Os) {pid : Pid} (_hpid : pid ≠ 0) :
    (processIdentity J writeJson bin os pid = .ok none ↔ Gone os pid) ∧
    ((∀ secs ticks hz, StartFacts os pid secs ticks hz → ProductsFit secs ticks) →
      (IdentityHonest os pid (processIdentity J writeJson bin os pid) ↔
        ∀ secs ticks hz, StartFacts os pid secs ticks hz → ¬ WrapsSmall secs ticks hz)) :=
  ⟨identity_absent_iff hJ writeJson bin os pid, honest_iff_of_fit hJ writeJson bin os pid⟩

/-- A process 7 whose host booted at a given second. -/
def bootedOs (btime : String) : Os :=
  singleOs [("/proc/stat".toList, ascii ("cpu 0\nbtime " ++ btime ++ "\n")),
    ("/proc/7/stat".toList, ascii "7 (sh) S 1 7 7 0 -1 4 0 0 0 0 0 0 0 0 20 0 1 0 100 0 0")]

theorem bootedOs_facts : StartFacts (bootedOs "1700000000") 7 1700000000 100 100 :=
  ⟨rfl, rfl, rfl⟩

theorem wrappingOs_facts : StartFacts (bootedOs "18446744073709") 7 18446744073709 100 100 :=
  ⟨rfl, rfl, rfl⟩

/-- One second after the boot. -/
theorem identity_honest_sample :
    IdentityHonest (bootedOs "1700000000") 7
      (processIdentity .standard (fun _ => []) [] (bootedOs "1700000000") 7) := by
  have honest := identity_honest_iff JsonLib.standard_lawful (fun _ => []) []
    (bootedOs "1700000000") (show (7 : Pid) ≠ 0 by decide)
  refine (honest.2 fun secs ticks hz h => ?_).mpr fun secs ticks hz h => ?_
  all_goals obtain ⟨rfl, rfl, rfl⟩ := h.unique bootedOs_facts
  · exact ⟨by decide, by decide⟩
  · unfold WrapsSmall
    decide

/-- A host that booted in the year 586 524, whose process 7 seems to have started in 1970. -/
theorem identity_wraps :
    ¬ ∀ (os : Os) (pid : Pid), pid ≠ 0 →
      (∀ secs ticks hz, StartFacts os pid secs ticks hz → ProductsFit secs ticks) →
      IdentityHonest os pid (processIdentity .standard (fun _ => []) [] os pid) := by
  intro h
  have honest := h (bootedOs "18446744073709") 7 (by decide) fun secs ticks hz hread => by
    obtain ⟨rfl, rfl, rfl⟩ := hread.unique wrappingOs_facts
    exact ⟨by decide, by decide⟩
  have hreading : identityReading (bootedOs "18446744073709") 7 = some (.ok ⟨7, 448384⟩) := by
    rw [identityReading_of_constants 7 wrappingOs_facts.boot wrappingOs_facts.rate,
      wrappingOs_facts.start]
    rfl
  have hanswer := (identity_read JsonLib.standard_lawful (fun _ => []) [] hreading).1
    (by decide)
  rw [hanswer, honest_of_known wrappingOs_facts] at honest
  exact absurd honest.1 (by decide)

end Osfacts
