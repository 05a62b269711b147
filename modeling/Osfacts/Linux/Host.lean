import Osfacts.Cli.Args
import Osfacts.HostFacets
import Osfacts.Linux.Readers

set_option autoImplicit false

/-! # The Linux host

The readers of the host verb: uptime, load, memory, the counters of the cores, the network
interfaces and the root file system. Sums of `u64` that the source writes with a plain `+` or `*`
wrap here, as they do in a build without overflow checks.
-/

namespace Osfacts.Linux

open Os

/-- The system, with what the host verb alone asks of it. -/
structure HostOs extends Os where
  statvfsRoot : Except Errno Statvfs

/-- `f64`, as far as the readers use it: `str::parse`, `is_finite`, `< 0.0`, and
`round() as u64`. -/
structure F64Lib (L : FloatLib) where
  parse : Text → Option L.F64
  isFinite : L.F64 → Bool
  isNegative : L.F64 → Bool
  roundU64 : L.F64 → UInt64

/-! ## Uptime and load -/

/-- Up to six characters of the fraction, filled up to six bytes with zeros. -/
def microDigits (frac : Text) : Text :=
  let micros := frac.take 6
  micros ++ List.replicate (6 - (Utf8.encode micros).length) '0'

def decimalSecondsToUs (s : Text) : Except Errno UInt64 := do
  let (whole, frac) := (splitOnce '.' s).getD (s, [])
  let whole ← parsed (parseU64 whole)
  let micros ← parsed (parseU64 (microDigits frac))
  pure (whole * 1000000 + micros)

def uptimeUs (os : Os) : Except Errno UInt64 := do
  let s ← os.readString "/proc/uptime".toList
  let first ← parsed (splitWhitespace s).head?
  decimalSecondsToUs first

section Load

variable {L : FloatLib} (F : F64Lib L)

/-- One column of `/proc/loadavg`. -/
def loadColumn (columns : List Text) (i : Nat) : Except Errno L.F64 := do
  let column ← parsed columns[i]?
  parsed (F.parse column)

def readLoad (os : Os) : Except Errno (Load L) := do
  let s ← os.readString "/proc/loadavg".toList
  let columns := splitWhitespace s
  let one ← loadColumn F columns 0
  let five ← loadColumn F columns 1
  let fifteen ← loadColumn F columns 2
  pure ⟨one, five, fifteen⟩

end Load

/-! ## Memory -/

/-- One line of `/proc/meminfo`: a key, and kibibytes in bytes. -/
def meminfoLine (line : Text) : Option (Text × UInt64) := do
  let (key, value) ← splitOnce ':' line
  let n ← (splitWhitespace value).head? >>= parseU64
  pure (key, n * 1024)

/-- What a map holds under a key into which the entries were inserted in turn. -/
def inserted {α β : Type} [BEq α] (entries : List (α × β)) (key : α) : Option β :=
  entries.reverse.lookup key

theorem inserted_map {α β γ : Type} [BEq α] (f : β → γ) (entries : List (α × β)) (key : α) :
    inserted (entries.map (fun entry => (entry.1, f entry.2))) key
      = (inserted entries key).map f := by
  rw [inserted, inserted, ← List.map_reverse, List.lookup_eq_findSome?, List.lookup_eq_findSome?,
    List.findSome?_map, List.map_findSome?]
  congr 1
  funext entry
  simp only [Function.comp_apply]
  split_ifs <;> rfl

theorem mem_of_inserted {α β : Type} [BEq α] [LawfulBEq α] {entries : List (α × β)} {key : α}
    {value : β} (h : inserted entries key = some value) : (key, value) ∈ entries := by
  obtain ⟨before, after, heq, -⟩ := List.lookup_eq_some_iff.mp h
  rw [← List.mem_reverse, heq]
  exact List.mem_append_right before List.mem_cons_self

def readHostMemory (os : Os) : Except Errno (HostMemory × Swap) := do
  let s ← os.readString "/proc/meminfo".toList
  let m := (lines s).filterMap meminfoLine
  let total ← parsed (inserted m "MemTotal".toList)
  let available ← parsed (inserted m "MemAvailable".toList)
  let swapTotal ← parsed (inserted m "SwapTotal".toList)
  let swapFree ← parsed (inserted m "SwapFree".toList)
  pure (⟨total, available⟩, ⟨swapTotal, saturatingSub swapTotal swapFree⟩)

/-! ## Cores -/

/-- A block of `/proc/cpuinfo`, as far as it was read. -/
structure CpuBlock where
  core : Option UInt32
  model : Option Text
  frequencyMhz : Option UInt64

section Cpus

variable {L : FloatLib} (F : F64Lib L)

def cpuinfoLine (block : CpuBlock) (line : Text) : Except Errno CpuBlock :=
  match splitOnce ':' line with
  | none => .ok block
  | some (key, value) =>
      if trim key = "processor".toList then do
        let core ← parsed (parseU32 (trim value))
        pure { block with core := some core }
      else if trim key = "model name".toList then .ok { block with model := some (trim value) }
      else if trim key = "cpu MHz".toList then do
        let mhz ← parsed (F.parse (trim value))
        if ¬ F.isFinite mhz ∨ F.isNegative mhz then .error Libc.EINVAL
        else
          let rounded := F.roundU64 mhz
          pure { block with frequencyMhz := if rounded > 0 then some rounded else none }
      else .ok block

/-- The entry of one block; a block that names no core has none. -/
def cpuinfoBlock (block : Text) : Except Errno (Option (UInt32 × Text × Option UInt64)) := do
  let block ← (lines block).foldlM (cpuinfoLine F) ⟨none, none, none⟩
  match block.core with
  | none => pure none
  | some core =>
      match block.model.filter (fun model => !model.isEmpty) with
      | none => .error Libc.EINVAL
      | some model => pure (some (core, model, block.frequencyMhz))

def readCpuMetadata (os : Os) :
    Except (String × Errno) (List (UInt32 × Text × Option UInt64)) := do
  let body ← fromSource "proc_cpuinfo" (os.readString "/proc/cpuinfo".toList)
  let entries ← fromSource "proc_cpuinfo" ((splitOnEmptyLine body).mapM (cpuinfoBlock F))
  let out := entries.filterMap id
  if out.isEmpty then .error ("proc_cpuinfo", Libc.EINVAL) else pure out

/-- The row of one line of `/proc/stat`; a line that names no core has none. -/
def cpuOfLine (metadata : List (UInt32 × Text × Option UInt64)) (hz : UInt64) (line : Text) :
    Except (String × Errno) (Option Cpu) :=
  match splitWhitespace line with
  | [] => .ok none
  | name :: columns =>
      match stripPrefix "cpu".toList name >>= parseU32 with
      -- the line of the sum over the cores has no number
      | none => .ok none
      | some core => do
          let vals ←
            fromSource "proc_stat_cpu" (columns.mapM (fun value => parsed (parseU64 value)))
          if vals.length < 4 then .error ("proc_stat_cpu", Libc.EINVAL)
          else
            let get := fun i => vals.getD i 0
            match inserted metadata core with
            | none => .error ("proc_cpuinfo", Libc.EINVAL)
            | some (model, frequencyMhz) =>
                pure (some {
                  core := core
                  userUs := ticksUs (get 0 + get 1) hz
                  systemUs := ticksUs (get 2) hz
                  idleUs := ticksUs (get 3) hz
                  otherUs := ticksUs (get 4 + get 5 + get 6 + get 7 + get 8 + get 9) hz
                  model := model
                  frequencyMhz := frequencyMhz })

def readCpus (os : Os) : Except (String × Errno) (List Cpu) := do
  let metadata ← readCpuMetadata F os
  let s ← fromSource "proc_stat_cpu" (os.readString "/proc/stat".toList)
  let hz ← fromSource "sysconf_clk_tck" (clockTicks os)
  let rows ← (lines s).mapM (cpuOfLine metadata hz)
  let out := rows.filterMap id
  if out.isEmpty then .error ("proc_stat_cpu", Libc.EINVAL) else pure out

end Cpus

/-! ## Networks and disks -/

/-- One line of `/proc/net/dev`, or `none` for a line that is skipped. -/
def networkOfLine (line : Text) : Option Network := do
  let (name, vals) ← splitOnce ':' line
  let f := splitWhitespace vals
  if f.length < 9 then none
  else
    let rx ← parseU64 (f.getD 0 [])
    let tx ← parseU64 (f.getD 8 [])
    pure ⟨sanitizeName (trim name), rx, tx⟩

def readNetworks (os : Os) : Except Errno (List Network) := do
  let s ← os.readString "/proc/net/dev".toList
  pure (((lines s).drop 2).filterMap networkOfLine)

def readRootDisk (os : HostOs) : Except Errno Disk := do
  let st ← os.statvfsRoot
  pure st.rootDisk

/-! ## The verb -/

section Host

variable {L : FloatLib} (F : F64Lib L)

/-- The loopback interface is always there, so no interfaces at all means a file of another
shape. -/
def recordNetworks (asked : Bool) (read : Except Errno (List Network)) (out : HostSnapshot L) :
    HostSnapshot L :=
  if asked then
    match read with
    | .ok [] => out.pushError (blindOrEmpty "proc_net_dev" .net)
    | .ok networks => { out with networks := networks }
    | .error err => out.pushError (sourceError "proc_net_dev" .net err)
  else out

def host (os : HostOs) (args : HostArgs) : HostSnapshot L :=
  let out := HostSnapshot.new.record true .uptime HostSnapshot.setUptime
    (fromSource "proc_uptime" (uptimeUs os.toOs))
  let out := out.record args.load .load HostSnapshot.setLoad
    (fromSource "proc_loadavg" (readLoad F os.toOs))
  let out := out.record args.mem .mem HostSnapshot.setMemory
    (fromSource "proc_meminfo" (readHostMemory os.toOs))
  let out := out.record args.cpu .cpu HostSnapshot.setCpus (readCpus F os.toOs)
  let out := recordNetworks args.net (readNetworks os.toOs) out
  out.record args.disk .disk HostSnapshot.pushDisk (fromSource "statvfs_root" (readRootDisk os))

end Host

end Osfacts.Linux
