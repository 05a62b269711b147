import Osfacts.Linux.Host
import Osfacts.Rust.Checked

set_option autoImplicit false

/-! # The number readers with overflow checks

The readers whose arithmetic is written with a plain `+` or `*`, as a build with overflow checks
runs them: each of these operations is checked, in the order of the source. What saturates in the
source saturates here.
-/

namespace Osfacts.Linux

open Os

/-! ## Seconds and ticks -/

/-- What stands before the point, and what stands behind it. -/
def secondsParts (s : Text) : Text × Text := (splitOnce '.' s).getD (s, [])

def checkedDecimalSecondsToUs (s : Text) : Checked Errno UInt64 := do
  let whole ← unchecked (parsed (parseU64 (secondsParts s).1))
  -- the product comes before the fraction is parsed
  let product ← mulU64 whole 1000000
  let micros ← unchecked (parsed (parseU64 (microDigits (secondsParts s).2)))
  addU64 product micros

def checkedBootTimeUs (os : Os) : Checked Errno UInt64 := do
  let body ← unchecked (os.readString "/proc/stat".toList)
  let value ← unchecked (parsed ((lines body).findSome? (stripPrefix "btime ".toList)))
  let secs ← unchecked (parsed (parseU64 value))
  mulU64 secs 1000000

def checkedReadStartTime (stat : Text) (bootUs hz : UInt64) : Checked Errno UInt64 := do
  let value ← unchecked (parseStatField stat 19)
  let ticks ← unchecked (parsed (parseU64 value))
  addU64 bootUs (saturatingMul ticks 1000000 / hz)

/-! ## Memory -/

/-- One line of `/proc/meminfo`: a key and kibibytes. -/
def meminfoKib (line : Text) : Option (Text × UInt64) := do
  let (key, value) ← splitOnce ':' line
  let n ← (splitWhitespace value).head? >>= parseU64
  pure (key, n)

def checkedMeminfoLine (line : Text) : Checked Errno (Option (Text × UInt64)) :=
  match meminfoKib line with
  | none => .ok none
  | some (key, n) => do
      let bytes ← mulU64 n 1024
      pure (some (key, bytes))

def checkedReadHostMemory (os : Os) : Checked Errno (HostMemory × Swap) := do
  let s ← unchecked (os.readString "/proc/meminfo".toList)
  let entries ← (lines s).mapM checkedMeminfoLine
  let m := entries.filterMap id
  unchecked do
    let total ← parsed (inserted m "MemTotal".toList)
    let available ← parsed (inserted m "MemAvailable".toList)
    let swapTotal ← parsed (inserted m "SwapTotal".toList)
    let swapFree ← parsed (inserted m "SwapFree".toList)
    pure (⟨total, available⟩, ⟨swapTotal, saturatingSub swapTotal swapFree⟩)

/-! ## Cores -/

/-- The row of a core whose columns were read. -/
def checkedCpuRow (core : UInt32) (entry : Text × Option UInt64) (hz : UInt64)
    (vals : List UInt64) : Checked (String × Errno) Cpu := do
  let get := fun i => vals.getD i 0
  let user ← sumU64 (get 0) [get 1]
  let other ← sumU64 (get 4) [get 5, get 6, get 7, get 8, get 9]
  pure {
    core := core
    userUs := ticksUs user hz
    systemUs := ticksUs (get 2) hz
    idleUs := ticksUs (get 3) hz
    otherUs := ticksUs other hz
    model := entry.1
    frequencyMhz := entry.2 }

def checkedCpuOfLine (metadata : List (UInt32 × Text × Option UInt64)) (hz : UInt64)
    (line : Text) : Checked (String × Errno) (Option Cpu) :=
  match splitWhitespace line with
  | [] => .ok none
  | name :: columns =>
      match stripPrefix "cpu".toList name >>= parseU32 with
      | none => .ok none
      | some core => do
          let vals ← unchecked
            (fromSource "proc_stat_cpu" (columns.mapM (fun value => parsed (parseU64 value))))
          if vals.length < 4 then .error (.error ("proc_stat_cpu", Libc.EINVAL))
          else
            match inserted metadata core with
            | none => .error (.error ("proc_cpuinfo", Libc.EINVAL))
            | some entry => do
                let row ← checkedCpuRow core entry hz vals
                pure (some row)

def checkedReadCpus {L : FloatLib} (F : F64Lib L) (os : Os) :
    Checked (String × Errno) (List Cpu) := do
  let metadata ← unchecked (readCpuMetadata F os)
  let s ← unchecked (fromSource "proc_stat_cpu" (os.readString "/proc/stat".toList))
  let hz ← unchecked (fromSource "sysconf_clk_tck" (clockTicks os))
  let rows ← (lines s).mapM (checkedCpuOfLine metadata hz)
  let out := rows.filterMap id
  if out.isEmpty then .error (.error ("proc_stat_cpu", Libc.EINVAL)) else pure out

/-! ## Without the checks -/

theorem erases_decimalSecondsToUs (s : Text) :
    Erases (checkedDecimalSecondsToUs s) (decimalSecondsToUs s) := by
  refine (erases_unchecked _).bind fun whole => ?_
  exact (erases_mulU64 whole 1000000).bind fun product =>
    (erases_unchecked _).bind fun micros => erases_addU64 product micros

theorem erases_bootTimeUs (os : Os) : Erases (checkedBootTimeUs os) (bootTimeUs os) := by
  refine (erases_unchecked _).bind fun body => (erases_unchecked _).bind fun value => ?_
  exact (erases_unchecked _).bind fun secs => erases_mulU64 secs 1000000

theorem erases_readStartTime (stat : Text) (bootUs hz : UInt64) :
    Erases (checkedReadStartTime stat bootUs hz) (readStartTime stat bootUs hz) := by
  refine (erases_unchecked _).bind fun value => (erases_unchecked _).bind fun ticks => ?_
  exact erases_addU64 bootUs _

theorem meminfoLine_eq (line : Text) :
    meminfoLine line = (meminfoKib line).map (fun entry => (entry.1, entry.2 * 1024)) := by
  unfold meminfoLine meminfoKib
  cases splitOnce ':' line with
  | none => rfl
  | some parts =>
      simp only [Option.bind_eq_bind, Option.bind_some]
      cases (splitWhitespace parts.2).head?.bind parseU64 <;> rfl

theorem erases_meminfoLine (line : Text) :
    Erases (checkedMeminfoLine line) (.ok (meminfoLine line)) := by
  rw [meminfoLine_eq]
  unfold checkedMeminfoLine
  cases meminfoKib line with
  | none => exact fun _ => rfl
  | some entry =>
      exact (erases_mulU64 entry.2 1024).bind fun bytes =>
        erases_unchecked (pure (some (entry.1, bytes)))

theorem erases_readHostMemory (os : Os) :
    Erases (checkedReadHostMemory os) (readHostMemory os) := by
  refine (erases_unchecked _).bind fun s => ?_
  have hlines := Erases.mapM erases_meminfoLine (lines s)
  have hpure : (lines s).mapM (fun line => (.ok (meminfoLine line) : Except Errno _))
      = .ok ((lines s).map meminfoLine) := List.mapM_pure
  rw [hpure] at hlines
  have hfilter : (lines s).filterMap meminfoLine = ((lines s).map meminfoLine).filterMap id := by
    rw [List.filterMap_map]
    rfl
  rw [hfilter]
  exact hlines.bind fun entries => erases_unchecked _

theorem erases_cpuRow (core : UInt32) (entry : Text × Option UInt64) (hz : UInt64)
    (vals : List UInt64) : Erases (checkedCpuRow core entry hz vals) (.ok {
      core := core
      userUs := ticksUs (vals.getD 0 0 + vals.getD 1 0) hz
      systemUs := ticksUs (vals.getD 2 0) hz
      idleUs := ticksUs (vals.getD 3 0) hz
      otherUs := ticksUs (vals.getD 4 0 + vals.getD 5 0 + vals.getD 6 0 + vals.getD 7 0
        + vals.getD 8 0 + vals.getD 9 0) hz
      model := entry.1
      frequencyMhz := entry.2 }) :=
  (erases_sumU64 _ _).bind fun _ => (erases_sumU64 _ _).bind fun _ => erases_unchecked (.ok _)

theorem erases_cpuOfLine (metadata : List (UInt32 × Text × Option UInt64)) (hz : UInt64)
    (line : Text) :
    Erases (checkedCpuOfLine metadata hz line) (cpuOfLine metadata hz line) := by
  unfold checkedCpuOfLine cpuOfLine
  cases splitWhitespace line with
  | nil => exact fun _ => rfl
  | cons name columns =>
      simp only []
      cases stripPrefix "cpu".toList name >>= parseU32 with
      | none => exact fun _ => rfl
      | some core =>
          refine (erases_unchecked _).bind fun vals => ?_
          split_ifs
          · exact fun _ => rfl
          · cases inserted metadata core with
            | none => exact fun _ => rfl
            | some entry =>
                exact (erases_cpuRow core entry hz vals).bind fun row =>
                  erases_unchecked (pure (some row))

theorem erases_readCpus {L : FloatLib} (F : F64Lib L) (os : Os) :
    Erases (checkedReadCpus F os) (readCpus F os) := by
  refine (erases_unchecked _).bind fun metadata => (erases_unchecked _).bind fun s => ?_
  refine (erases_unchecked _).bind fun hz => ?_
  refine (Erases.mapM (erases_cpuOfLine metadata hz) (lines s)).bind fun rows => ?_
  simp only []
  split_ifs
  · exact fun _ => rfl
  · exact erases_unchecked (pure _)

end Osfacts.Linux
