import Osfacts.Basic.Rounding
import Osfacts.Contract.Account
import Osfacts.Linux.Host

set_option autoImplicit false

/-! # The buckets of a core

`/proc/stat` has ten counters for a core. The kernel counts the time of a guest within the user
time, and that of a niced guest within the nice time: the first eight columns are all the time
there is. The reader adds the guest columns to the fourth bucket as well, so the buckets exceed
the core's time unless the guests are no more than what the four roundings cut off.
-/

namespace Osfacts.Linux

/-! ## The columns of a core -/

/-- The core of a line, and its counters. -/
def coreLine (line : Text) : Option (UInt32 × List UInt64) :=
  match splitWhitespace line with
  | [] => none
  | name :: columns => do
      let core ← stripPrefix "cpu".toList name >>= parseU32
      let vals ← (columns.mapM (fun value => parsed (parseU64 value))).toOption
      pure (core, vals)

def coreLines (stat : Text) : List (UInt32 × List UInt64) := (lines stat).filterMap coreLine

/-- The counters as the kernel documents them, and in a range in which no sum of them and no
product with a million overflows. -/
structure Documented (vals : List UInt64) : Prop where
  ten : vals.length = 10
  guest : vals.getD 8 0 ≤ vals.getD 0 0
  guest_nice : vals.getD 9 0 ≤ vals.getD 1 0
  fits : (vals.map UInt64.toNat).sum * 1000000 < 2 ^ 64

/-- The four buckets of the reader, in ticks. -/
def buckets (vals : List UInt64) : List UInt64 :=
  [vals.getD 0 0 + vals.getD 1 0, vals.getD 2 0, vals.getD 3 0,
    vals.getD 4 0 + vals.getD 5 0 + vals.getD 6 0 + vals.getD 7 0 + vals.getD 8 0 + vals.getD 9 0]

/-- A row that holds the buckets of these counters. -/
structure Bucketed (hz : UInt64) (vals : List UInt64) (row : Cpu) : Prop where
  buckets_eq : [row.userUs, row.systemUs, row.idleUs, row.otherUs]
    = (buckets vals).map (fun ticks => ticksUs ticks hz)

/-! ## Rows and lines -/

section Lines

variable {metadata : List (UInt32 × Text × Option UInt64)} {hz : UInt64} {line : Text}

theorem fromSource_ok {α : Type} {source : String} {r : Except Errno α} {a : α}
    (h : fromSource source r = .ok a) : r = .ok a := by
  cases r with
  | error err => cases h
  | ok b => exact congrArg Except.ok (Except.ok.inj h)

/-- A line that is read has a row where it is the line of a core, and the row holds its buckets. -/
theorem cpuOfLine_cases {out : Option Cpu} (h : cpuOfLine metadata hz line = .ok out) :
    (out = none ∧ coreLine line = none) ∨
    ∃ row vals, out = some row ∧ coreLine line = some (row.core, vals) ∧ Bucketed hz vals row := by
  unfold cpuOfLine at h
  unfold coreLine
  cases hsplit : splitWhitespace line with
  | nil =>
      rw [hsplit] at h
      exact Or.inl ⟨(Except.ok.inj h).symm, rfl⟩
  | cons name columns =>
      rw [hsplit] at h
      simp only [] at h ⊢
      cases hcore : stripPrefix "cpu".toList name >>= parseU32 with
      | none =>
          rw [hcore] at h
          exact Or.inl ⟨(Except.ok.inj h).symm, rfl⟩
      | some core =>
          rw [hcore] at h
          simp only [] at h
          obtain ⟨vals, hvals, h⟩ := bind_ok_iff.mp h
          rw [fromSource_ok hvals]
          split_ifs at h
          cases hinserted : inserted metadata core with
          | none =>
              rw [hinserted] at h
              cases h
          | some entry =>
              rw [hinserted] at h
              exact Or.inr ⟨_, vals, (Except.ok.inj h).symm, rfl, ⟨rfl⟩⟩

/-- The rows are those of the core lines, one for each and in their order. -/
theorem bucketed_of_mapM {ls : List Text} {out : List (Option Cpu)}
    (h : ls.mapM (cpuOfLine metadata hz) = .ok out) :
    List.Forall₂ (fun c row => row.core = c.1 ∧ Bucketed hz c.2 row) (ls.filterMap coreLine)
      (out.filterMap id) := by
  refine List.rel_filterMap ?_ (mapM_ok_iff.mp h)
  intro line row hrow
  rcases cpuOfLine_cases hrow with ⟨rfl, hline⟩ | ⟨row, vals, rfl, hline, hbuckets⟩
  · rw [hline]
    exact Option.Rel.none
  · rw [hline]
    exact Option.Rel.some ⟨rfl, hbuckets⟩

end Lines

theorem bucketed_of_readCpus {L : FloatLib} {F : F64Lib L} {os : Os} {stat : Text} {hz : UInt64}
    {rows : List Cpu} (hstat : os.readString "/proc/stat".toList = .ok stat)
    (hhz : clockTicks os = .ok hz) (h : readCpus F os = .ok rows) :
    List.Forall₂ (fun c row => row.core = c.1 ∧ Bucketed hz c.2 row) (coreLines stat) rows := by
  unfold readCpus at h
  obtain ⟨metadata, -, h⟩ := bind_ok_iff.mp h
  obtain ⟨s, hs, h⟩ := bind_ok_iff.mp h
  obtain ⟨hz', hhz', h⟩ := bind_ok_iff.mp h
  obtain rfl := Except.ok.inj ((fromSource_ok hs).symm.trans hstat)
  obtain rfl := Except.ok.inj ((fromSource_ok hhz').symm.trans hhz)
  obtain ⟨out, hout, h⟩ := bind_ok_iff.mp h
  simp only [] at h
  split_ifs at h
  obtain rfl := Except.ok.inj h
  exact bucketed_of_mapM hout

/-! ## Ticks and microseconds -/

section Time

variable {vals : List UInt64} {hz : UInt64}

theorem toNat_ticksUs {ticks : UInt64} (h : ticks.toNat * 1000000 < 2 ^ 64) :
    (ticksUs ticks hz).toNat = ticks.toNat * 1000000 / hz.toNat := by
  rw [ticksUs, UInt64.toNat_div, toNat_micros h]
  rfl

theorem exists_ten (h : vals.length = 10) :
    ∃ a b c d e f g k m n, vals = [a, b, c, d, e, f, g, k, m, n] := by
  match vals, h with
  | [a, b, c, d, e, f, g, k, m, n], _ => exact ⟨a, b, c, d, e, f, g, k, m, n, rfl⟩

/-- All the time of a core, by the first eight columns. -/
def coreTicks (vals : List UInt64) : UInt64 := (vals.take 8).foldl (· + ·) 0

/-- The time of its guests, by the last two. -/
def guestTicks (vals : List UInt64) : Nat := (vals.getD 8 0).toNat + (vals.getD 9 0).toNat

/-- The buckets hold the core's time, and the guests' once more. -/
theorem Documented.sum_buckets (h : Documented vals) :
    ((buckets vals).map UInt64.toNat).sum = (coreTicks vals).toNat + guestTicks vals ∧
    ((buckets vals).map UInt64.toNat).sum * 1000000 < 2 ^ 64 := by
  have hfits := h.fits
  obtain ⟨a, b, c, d, e, f, g, k, m, n, rfl⟩ := exists_ten h.ten
  simp only [List.map_cons, List.map_nil, List.sum_cons, List.sum_nil] at hfits
  simp only [buckets, coreTicks, guestTicks, List.getD_cons_zero, List.getD_cons_succ,
    List.map_cons, List.map_nil, List.sum_cons, List.sum_nil, List.take_succ_cons, List.take_zero,
    List.foldl_cons, List.foldl_nil, UInt64.toNat_add, UInt64.toNat_zero]
  omega

/-! ## A partition -/

/-- The buckets are the core's time, rounded down in four parts. -/
structure Partitions (hz : UInt64) (vals : List UInt64) (row : Cpu) : Prop where
  within : row.userUs.toNat + row.systemUs.toNat + row.idleUs.toNat + row.otherUs.toNat
    ≤ (ticksUs (coreTicks vals) hz).toNat
  short : (ticksUs (coreTicks vals) hz).toNat
    < row.userUs.toNat + row.systemUs.toNat + row.idleUs.toNat + row.otherUs.toNat + 4

/-- What the roundings of the buckets cut off, in parts of a microsecond. -/
def cutOff (hz : UInt64) (vals : List UInt64) : Nat :=
  ((buckets vals).map (fun ticks => ticks.toNat * 1000000 % hz.toNat)).sum

/-- The guests' time, in the same parts, is no more than that. -/
def GuestsWithin (hz : UInt64) (vals : List UInt64) : Prop :=
  guestTicks vals * 1000000 ≤ cutOff hz vals

/-- The buckets of a row are quotients of the bucket's ticks. -/
theorem Bucketed.sum_eq {row : Cpu} (h : Bucketed hz vals row) (hdoc : Documented vals) :
    row.userUs.toNat + row.systemUs.toNat + row.idleUs.toNat + row.otherUs.toNat
      = (((buckets vals).map (fun ticks => ticks.toNat * 1000000)).map (· / hz.toNat)).sum := by
  have hfits := hdoc.sum_buckets.2
  have hticks : ∀ ticks ∈ buckets vals,
      (ticksUs ticks hz).toNat = ticks.toNat * 1000000 / hz.toNat := by
    intro ticks hmem
    have hle := List.le_sum_of_mem (List.mem_map_of_mem (f := UInt64.toNat) hmem)
    exact toNat_ticksUs (lt_of_le_of_lt (Nat.mul_le_mul_right _ hle) hfits)
  calc row.userUs.toNat + row.systemUs.toNat + row.idleUs.toNat + row.otherUs.toNat
      = ([row.userUs, row.systemUs, row.idleUs, row.otherUs].map UInt64.toNat).sum := by
        simp only [List.map_cons, List.map_nil, List.sum_cons, List.sum_nil]
        omega
    _ = ((buckets vals).map (fun ticks => (ticksUs ticks hz).toNat)).sum := by
        rw [h.buckets_eq, List.map_map]
        rfl
    _ = _ := by
        rw [List.map_congr_left hticks, List.map_map]
        rfl

/-- **A row partitions its core's time exactly where the guests stay within the roundings.** -/
theorem partitions_iff {row : Cpu} (hhz : 0 < hz.toNat) (h : Bucketed hz vals row)
    (hdoc : Documented vals) : Partitions hz vals row ↔ GuestsWithin hz vals := by
  obtain ⟨hsum, hfits⟩ := hdoc.sum_buckets
  have hrow := h.sum_eq hdoc
  have hparts : ((buckets vals).map (fun ticks => ticks.toNat * 1000000)).sum
      = (coreTicks vals).toNat * 1000000 + guestTicks vals * 1000000 := by
    rw [List.sum_map_mul_right, hsum, Nat.add_mul]
  have hle : (coreTicks vals).toNat ≤ ((buckets vals).map UInt64.toNat).sum := by
    rw [hsum]
    exact Nat.le_add_right _ _
  have hwithin := sum_div_le_iff hhz ((buckets vals).map (fun ticks => ticks.toNat * 1000000))
    ((coreTicks vals).toNat * 1000000)
  have hshort := div_lt_sum_div_add hhz
    (show (buckets vals).map (fun ticks => ticks.toNat * 1000000) ≠ [] from List.cons_ne_nil _ _)
    (hparts ▸ Nat.le_add_right _ _)
  have htotal : (ticksUs (coreTicks vals) hz).toNat = (coreTicks vals).toNat * 1000000 / hz.toNat :=
    toNat_ticksUs (lt_of_le_of_lt (Nat.mul_le_mul_right _ hle) hfits)
  rw [hparts, Nat.add_le_add_iff_left] at hwithin
  rw [← htotal, ← hrow] at hwithin hshort
  refine ⟨fun hrow => ?_, fun hguests => ⟨hwithin.mpr ?_, hshort⟩⟩
  · have hcut := hwithin.mp hrow.within
    rwa [List.map_map] at hcut
  · rw [List.map_map]
    exact hguests

/-- At the rates there are, a single tick is more than the four roundings cut off. -/
theorem guestsWithin_iff (hhz : 0 < hz.toNat) (hrate : hz.toNat ≤ 250000) :
    GuestsWithin hz vals ↔ guestTicks vals = 0 := by
  have hcut : cutOff hz vals + 4 ≤ hz.toNat * 4 := by
    have hle := sum_mod_le hhz ((buckets vals).map (fun ticks => ticks.toNat * 1000000))
    rwa [List.map_map, List.length_map] at hle
  unfold GuestsWithin
  constructor
  · intro h
    by_contra hne
    have hone := Nat.mul_le_mul_right 1000000 (Nat.one_le_iff_ne_zero.mpr hne)
    omega
  · intro h
    rw [h]
    exact Nat.zero_le _

end Time

/-! ## Every row -/

/-- **The rows of the cores partition their time exactly where every core's guests stay within the
roundings;** at a rate of at most 250000 ticks, where there was no guest. -/
theorem readCpus_partition_iff {L : FloatLib} {F : F64Lib L} {os : Os} {stat : Text} {hz : UInt64}
    {rows : List Cpu} (hstat : os.readString "/proc/stat".toList = .ok stat)
    (hhz : clockTicks os = .ok hz) (hpos : 0 < hz.toNat)
    (hdoc : ∀ c ∈ coreLines stat, Documented c.2) (hrows : readCpus F os = .ok rows) :
    (List.Forall₂ (fun c row => row.core = c.1 ∧ Partitions hz c.2 row) (coreLines stat) rows ↔
      ∀ c ∈ coreLines stat, GuestsWithin hz c.2) ∧
    (hz.toNat ≤ 250000 → ((∀ c ∈ coreLines stat, GuestsWithin hz c.2) ↔
      ∀ c ∈ coreLines stat, guestTicks c.2 = 0)) := by
  have hbuckets := bucketed_of_readCpus hstat hhz hrows
  refine ⟨?_, fun hrate => forall₂_congr fun c _ => guestsWithin_iff hpos hrate⟩
  clear hstat hrows
  generalize coreLines stat = cores at hbuckets hdoc
  induction hbuckets with
  | nil => exact ⟨fun _ => List.forall_mem_nil _, fun _ => List.Forall₂.nil⟩
  | cons hrow hrest ih =>
      obtain ⟨hfirst, hdoc⟩ := List.forall_mem_cons.mp hdoc
      rw [List.forall₂_cons, List.forall_mem_cons, ih hdoc, eq_true hrow.1, true_and,
        partitions_iff hpos hrow.2 hfirst]

/-! ## A host with and a host without guests -/

def statOfCores (columns : String) : Text :=
  ("cpu  " ++ columns ++ "\ncpu0 " ++ columns ++ "\n").toList

/-- A host of one core, whose name has no frequency beside it. -/
def coreOs (columns : String) : Os :=
  singleOs [("/proc/cpuinfo".toList, ascii "processor\t: 0\nmodel name\t: core\n"),
    ("/proc/stat".toList, Utf8.encode (statOfCores columns))]

/-- Floats that are never read. -/
def noFloats : FloatLib := ⟨Unit, fun _ => [], Unit, fun _ => (), fun _ => true⟩

def noF64 : F64Lib noFloats := ⟨fun _ => none, fun _ => true, fun _ => false, fun _ => 0⟩

theorem documented_iff {vals : List UInt64} : Documented vals ↔ vals.length = 10 ∧
    vals.getD 8 0 ≤ vals.getD 0 0 ∧ vals.getD 9 0 ≤ vals.getD 1 0 ∧
    (vals.map UInt64.toNat).sum * 1000000 < 2 ^ 64 :=
  ⟨fun h => ⟨h.ten, h.guest, h.guest_nice, h.fits⟩, fun h => ⟨h.1, h.2.1, h.2.2.1, h.2.2.2⟩⟩

/-- Three ticks of work, seven of idleness. -/
theorem readCpus_partition_sample :
    List.Forall₂ (fun c row => row.core = c.1 ∧ Partitions 100 c.2 row)
      [(0, [1, 0, 2, 7, 0, 0, 0, 0, 0, 0])] [⟨0, 10000, 20000, 70000, 0, "core".toList, none⟩] := by
  have hcores : coreLines (statOfCores "1 0 2 7 0 0 0 0 0 0")
      = [(0, [1, 0, 2, 7, 0, 0, 0, 0, 0, 0])] := by decide +kernel
  have hstat : (coreOs "1 0 2 7 0 0 0 0 0 0").readString "/proc/stat".toList
      = .ok (statOfCores "1 0 2 7 0 0 0 0 0 0") := by decide +kernel
  have hhz : clockTicks (coreOs "1 0 2 7 0 0 0 0 0 0") = .ok 100 := rfl
  have hdoc : ∀ c ∈ coreLines (statOfCores "1 0 2 7 0 0 0 0 0 0"), Documented c.2 := by
    rw [hcores]
    exact List.forall_mem_singleton.mpr (documented_iff.mpr (by decide +kernel))
  have hrows : readCpus noF64 (coreOs "1 0 2 7 0 0 0 0 0 0")
      = .ok [⟨0, 10000, 20000, 70000, 0, "core".toList, none⟩] := by decide +kernel
  have hiff := readCpus_partition_iff hstat hhz (by decide) hdoc hrows
  rw [hcores] at hiff
  refine hiff.1.mpr ((hiff.2 (by decide)).mpr ?_)
  exact List.forall_mem_singleton.mpr (by decide +kernel)

/-- Of a hundred ticks of user time fifty are a guest's: they are reported as user time and as
other time. -/
theorem guests_counted_twice :
    readCpus noF64 (coreOs "100 0 0 0 0 0 0 0 50 0")
      = .ok [⟨0, 1000000, 0, 0, 500000, "core".toList, none⟩] ∧
    coreLines (statOfCores "100 0 0 0 0 0 0 0 50 0") = [(0, [100, 0, 0, 0, 0, 0, 0, 0, 50, 0])] ∧
    Documented [100, 0, 0, 0, 0, 0, 0, 0, 50, 0] ∧
    ¬ Partitions 100 [100, 0, 0, 0, 0, 0, 0, 0, 50, 0]
      ⟨0, 1000000, 0, 0, 500000, "core".toList, none⟩ := by
  refine ⟨by decide +kernel, by decide +kernel, documented_iff.mpr (by decide +kernel), ?_⟩
  intro h
  exact absurd h.within (by decide +kernel)

end Osfacts.Linux
