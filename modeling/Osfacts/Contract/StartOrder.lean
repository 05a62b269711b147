import Osfacts.Basic.Rounding
import Osfacts.Contract.Identity

set_option autoImplicit false

/-! # Start times tell processes apart

A tick is at least a microsecond as long as there are no more than a million of them in a second,
so processes of one boot that started at different ticks have different start times: in the
sensor, where the quotient is rounded down and added to the boot instant, on the wire, and in the
identities the client compares.
-/

namespace Osfacts

open Client Linux

/-- The start of a process, in microseconds from the epoch. -/
def startInstant (bootUs hz ticks : UInt64) : Nat :=
  bootUs.toNat + ticks.toNat * 10 ^ 6 / hz.toNat

/-- A start time that neither saturates nor passes the integers of the client. -/
structure InRange (bootUs hz ticks : UInt64) : Prop where
  product : ticks.toNat * 10 ^ 6 < 2 ^ 64
  sum : startInstant bootUs hz ticks ≤ MAX_SAFE_INTEGER

/-- The identity of a process by one copy of its `stat`: the sensor accounts for the start time,
the document is written, and the client parses it and folds the reading. -/
def identityOf (J : JsonLib) (bootUs hz : UInt64) (pid : Pid) (stat : Text) :
    Except OsfactsClientError (Option StartTimeRow) := do
  let doc := accountStartTime ⟨some bootUs, some hz, none⟩ pid (some (.ok stat)) Snapshot.new
  let reading ← parseSnapshotOutput J (writeTsv J (take doc))
  foldStartTimeReading reading pid.toNat

/-! ## The sensor -/

section Sensor

variable {bootUs hz ticks : UInt64} {stat : Text}

theorem readStartTime_inRange (hstat : startTicks stat = .ok ticks) (h : InRange bootUs hz ticks) :
    ∃ us, readStartTime stat bootUs hz = .ok us ∧ us.toNat = startInstant bootUs hz ticks := by
  refine ⟨bootUs + saturatingMul ticks 1000000 / hz, ?_, ?_⟩
  · rw [readStartTime_eq, hstat]
    rfl
  · have hsum : bootUs.toNat + ticks.toNat * 10 ^ 6 / hz.toNat < 2 ^ 64 :=
      lt_of_le_of_lt h.sum (by decide)
    rw [UInt64.toNat_add, UInt64.toNat_div, toNat_micros h.product, Nat.mod_eq_of_lt hsum,
      startInstant]

/-- A later tick is a later microsecond. -/
theorem startInstant_lt (bootUs : UInt64) {ticks' : UInt64} (hpos : 1 ≤ hz.toNat)
    (hrate : hz.toNat ≤ 10 ^ 6) (h : ticks < ticks') :
    startInstant bootUs hz ticks < startInstant bootUs hz ticks' := by
  have hnext : ticks.toNat + 1 ≤ ticks'.toNat := UInt64.lt_iff_toNat_lt.mp h
  have happart : ticks.toNat * 10 ^ 6 + hz.toNat ≤ ticks'.toNat * 10 ^ 6 := by
    calc ticks.toNat * 10 ^ 6 + hz.toNat ≤ (ticks.toNat + 1) * 10 ^ 6 := by omega
      _ ≤ ticks'.toNat * 10 ^ 6 := Nat.mul_le_mul_right _ hnext
  exact Nat.add_lt_add_left (div_lt_div_of_add_le hpos happart) _

/-- Start times are equal only at one tick. -/
theorem startInstant_inj (bootUs : UInt64) {ticks' : UInt64} (hpos : 1 ≤ hz.toNat)
    (hrate : hz.toNat ≤ 10 ^ 6) :
    startInstant bootUs hz ticks = startInstant bootUs hz ticks' ↔ ticks = ticks' := by
  constructor
  · intro h
    rcases Nat.lt_trichotomy ticks.toNat ticks'.toNat with hlt | heq | hgt
    · exact absurd h (startInstant_lt bootUs hpos hrate (UInt64.lt_iff_toNat_lt.mpr hlt)).ne
    · exact UInt64.toNat_inj.mp heq
    · exact absurd h (startInstant_lt bootUs hpos hrate (UInt64.lt_iff_toNat_lt.mpr hgt)).ne'
  · exact fun h => congrArg _ h

end Sensor

/-! ## The client -/

section Reader

variable {J : JsonLib} (hJ : J.Lawful) {bootUs hz ticks : UInt64} {stat : Text}

include hJ

/-- The client's identity holds the start of the process as it was. -/
theorem identityOf_inRange (pid : Pid) (hstat : startTicks stat = .ok ticks)
    (h : InRange bootUs hz ticks) :
    identityOf J bootUs hz pid stat
      = .ok (some ⟨pid.toNat, startInstant bootUs hz ticks⟩) := by
  obtain ⟨us, hread, hus⟩ := readStartTime_inRange hstat h
  have hdoc : accountStartTime ⟨some bootUs, some hz, none⟩ pid (some (.ok stat)) Snapshot.new
      = { Snapshot.new with startTimes := [⟨pid, us⟩] } := by
    simp only [accountStartTime, loaded, Option.getD_some, Except.bind, hread, account]
    rfl
  have hwire : ({ Snapshot.new with startTimes := [⟨pid, us⟩] } : Snapshot).Wire :=
    ⟨rfl, List.forall_mem_nil _, List.forall_mem_nil _,
      List.forall_mem_singleton.mpr (le_of_eq_of_le hus h.sum), List.forall_mem_nil _,
      List.forall_mem_nil _, List.forall_mem_nil _, List.forall_mem_nil _, List.forall_mem_nil _⟩
  have htake : take ({ Snapshot.new with startTimes := [⟨pid, us⟩] } : Snapshot)
      = { Snapshot.new with startTimes := [⟨pid, us⟩] } := rfl
  have hview : ({ Snapshot.new with startTimes := [⟨pid, us⟩] } : Snapshot).view.startTimes
      = [⟨pid.toNat, us.toNat⟩] := rfl
  rw [identityOf, hdoc, htake, parseSnapshotOutput_writeTsv hJ hwire, ok_bind,
    foldStartTimeReading, hview, List.find?_cons_of_pos (by simp), hus]

/-- So does the identity the sensor's whole run ends in. -/
theorem processIdentity_inRange (writeJson : Snapshot → Text) (bin : Text) {os : Os} {pid : Pid}
    {secs : UInt64} (hboot : secs.toNat * 10 ^ 6 = bootUs.toNat)
    (hfacts : StartFacts os pid secs ticks hz) (h : InRange bootUs hz ticks) :
    processIdentity J writeJson bin os pid
      = .ok (some ⟨pid.toNat, startInstant bootUs hz ticks⟩) := by
  have hsum : startUnixUs secs ticks hz = startInstant bootUs hz ticks := by
    rw [startUnixUs, hboot, startInstant]
  have hfit : ProductsFit secs ticks := ⟨hboot ▸ bootUs.toNat_lt, h.product⟩
  have hcomputed : (computedUs secs ticks hz).toNat = startInstant bootUs hz ticks := by
    rw [toNat_computedUs hz hfit, hsum]
    exact Nat.mod_eq_of_lt (lt_of_le_of_lt h.sum (by decide))
  rcases identity_outcomes hJ writeJson bin os pid with ⟨hgone, -⟩
    | ⟨secs', ticks', hz', hfacts', hheld, -⟩ | ⟨-, hno, -⟩
  · exact absurd hgone hfacts.not_gone
  · obtain ⟨rfl, rfl, rfl⟩ := hfacts.unique hfacts'
    rw [hheld (le_of_eq_of_le hcomputed h.sum), hcomputed]
  · exact absurd hfacts (hno _ _ _)

end Reader

/-! ## Two processes of one boot -/

/-- The `S` rows of two start times, read by the client's parser, hold different start times. -/
def RowsApart (J : JsonLib) (us us' : UInt64) : Prop :=
  ∀ pid pid' : Pid, ∃ row row' : StartTimeRow,
    snapshotRow J emptySnapshotReading (tsvLine (StartTime.row ⟨pid, us⟩))
      = .ok { emptySnapshotReading with startTimes := [row] } ∧
    snapshotRow J emptySnapshotReading (tsvLine (StartTime.row ⟨pid', us'⟩))
      = .ok { emptySnapshotReading with startTimes := [row'] } ∧
    row.startUnixUs ≠ row'.startUnixUs

theorem rowsApart_of_lt (J : JsonLib) {us us' : UInt64} (h : us < us')
    (hsafe : us'.toNat ≤ MAX_SAFE_INTEGER) : RowsApart J us us' := by
  intro pid pid'
  have hlt : us.toNat < us'.toNat := UInt64.lt_iff_toNat_lt.mp h
  have hwire : StartTime.Wire ⟨pid, us⟩ := hlt.le.trans hsafe
  have hwire' : StartTime.Wire ⟨pid', us'⟩ := hsafe
  exact ⟨_, _, snapshotRow_startTime hwire J _, snapshotRow_startTime hwire' J _, hlt.ne⟩

/-- **A recycled pid has another identity.** Of two processes of one boot the one with the earlier
start tick has the earlier start time, the two rows read back differently, and for one pid the
client's identities are equal exactly when the start ticks are. -/
theorem start_identity_injective {J : JsonLib} (hJ : J.Lawful) {bootUs hz ticks ticks' : UInt64}
    {stat stat' : Text} (hpos : 1 ≤ hz.toNat) (hrate : hz.toNat ≤ 10 ^ 6)
    (hstat : startTicks stat = .ok ticks) (hstat' : startTicks stat' = .ok ticks')
    (h : InRange bootUs hz ticks) (h' : InRange bootUs hz ticks') :
    (ticks < ticks' → ∃ us us', readStartTime stat bootUs hz = .ok us ∧
      readStartTime stat' bootUs hz = .ok us' ∧ us < us' ∧ RowsApart J us us') ∧
    (∀ pid : Pid, identityOf J bootUs hz pid stat = identityOf J bootUs hz pid stat' ↔
      ticks = ticks') ∧
    ∀ (writeJson : Snapshot → Text) (bin : Text) (os os' : Os) (pid : Pid) (secs : UInt64),
      pid ≠ 0 → secs.toNat * 10 ^ 6 = bootUs.toNat → StartFacts os pid secs ticks hz →
      StartFacts os' pid secs ticks' hz →
      (processIdentity J writeJson bin os pid = processIdentity J writeJson bin os' pid ↔
        ticks = ticks') := by
  have hinj : startInstant bootUs hz ticks = startInstant bootUs hz ticks' ↔ ticks = ticks' :=
    startInstant_inj bootUs hpos hrate
  have hidentity : ∀ pid : Pid,
      (Except.ok (some ⟨pid.toNat, startInstant bootUs hz ticks⟩) :
        Except OsfactsClientError (Option StartTimeRow))
        = .ok (some ⟨pid.toNat, startInstant bootUs hz ticks'⟩) ↔ ticks = ticks' := by
    intro pid
    rw [Except.ok.injEq, Option.some.injEq, StartTimeRow.mk.injEq, eq_self, true_and, hinj]
  refine ⟨fun hlt => ?_, fun pid => ?_, ?_⟩
  · obtain ⟨us, hread, hus⟩ := readStartTime_inRange hstat h
    obtain ⟨us', hread', hus'⟩ := readStartTime_inRange hstat' h'
    have hless : us < us' := by
      rw [UInt64.lt_iff_toNat_lt, hus, hus']
      exact startInstant_lt bootUs hpos hrate hlt
    exact ⟨us, us', hread, hread', hless, rowsApart_of_lt J hless (le_of_eq_of_le hus' h'.sum)⟩
  · rw [identityOf_inRange hJ pid hstat h, identityOf_inRange hJ pid hstat' h']
    exact hidentity pid
  · intro writeJson bin os os' pid secs _ hboot hfacts hfacts'
    rw [processIdentity_inRange hJ writeJson bin hboot hfacts h,
      processIdentity_inRange hJ writeJson bin hboot hfacts' h']
    exact hidentity pid

/-- Pid 7 of a host that booted at a given second, in two incarnations a tick apart, and the rate
of a hundred ticks a second. -/
def reusedOs (start : String) : Os :=
  singleOs [("/proc/stat".toList, ascii "cpu 0\nbtime 1700000000\n"),
    ("/proc/7/stat".toList, ascii ("7 (sh) S 1 7 7 0 -1 4 0 0 0 0 0 0 0 0 20 0 1 0 " ++ start))]

/-- The same `stat`, as the file of pid 7. -/
def reusedStat (start : String) : Text :=
  ("7 (sh) S 1 7 7 0 -1 4 0 0 0 0 0 0 0 0 20 0 1 0 " ++ start).toList

theorem start_identity_injective_sample :
    identityOf .standard 1700000000000000 100 7 (reusedStat "100")
      ≠ identityOf .standard 1700000000000000 100 7 (reusedStat "101") ∧
    processIdentity .standard (fun _ => []) [] (reusedOs "100") 7
      ≠ processIdentity .standard (fun _ => []) [] (reusedOs "101") 7 := by
  have hstat : startTicks (reusedStat "100") = .ok 100 := rfl
  have hstat' : startTicks (reusedStat "101") = .ok 101 := rfl
  have h : InRange 1700000000000000 100 100 := ⟨by decide, by decide⟩
  have h' : InRange 1700000000000000 100 101 := ⟨by decide, by decide⟩
  obtain ⟨-, hfold, hrun⟩ := start_identity_injective JsonLib.standard_lawful (by decide)
    (by decide) hstat hstat' h h'
  have hsame := hrun (fun _ => []) [] (reusedOs "100") (reusedOs "101") 7 1700000000
    (by decide) (by decide) ⟨rfl, rfl, rfl⟩ ⟨rfl, rfl, rfl⟩
  exact ⟨fun heq => absurd ((hfold 7).mp heq) (by decide),
    fun heq => absurd (hsame.mp heq) (by decide)⟩

end Osfacts
