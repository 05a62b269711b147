import Osfacts.Cli.Args
import Osfacts.Darwin.Os
import Osfacts.HostFacets

set_option autoImplicit false

/-! # The darwin host

The readers of the host verb: the boot time, the load, the memory and swap the kernel reports, the
load of the processors, the network interfaces and the root file system.
-/

namespace Osfacts.Darwin

/-- The fields of `vm_statistics64` that are read. -/
structure VmStatistics where
  freeCount : UInt32
  inactiveCount : UInt32
  purgeableCount : UInt32

/-- What `host_processor_info` fills in: the number of cores, and four counters for each, unless
the pointer is null. -/
structure ProcessorInfo where
  cores : UInt32
  info : Option (List Int32)

/-- The system, with what the host verb alone asks of it. -/
structure HostOs (L : FloatLib) extends Os where
  /-- microseconds since the epoch, unless the clock stands before it -/
  nowUs : Option UInt64
  getloadavg : Except Errno (L.F64 × L.F64 × L.F64)
  pagesize : Int
  clkTck : Int
  hostVmInfo : Except Errno VmStatistics
  hostProcessorInfo : Except Errno ProcessorInfo
  /-- the status of giving the buffer back -/
  vmDeallocate : Errno
  networks : List Network
  statvfsRoot : Except Errno Statvfs

section Readers

variable {L : FloatLib} (os : HostOs L)

/-! ## `sysctl` -/

def sysctlU64 (name : String) : Except Errno UInt64 := do
  let buffer ← os.sysctl name
  if buffer.bytes.length ≥ 8 then pure (fromNeU64 (buffer.bytes.take 8)) else .error Libc.EINVAL

def sysctlString (name : String) : Except Errno Text := do
  let buffer ← os.sysctl name
  match fromUtf8 (buffer.bytes.takeWhile (fun b => b != 0)) with
  | some t => pure t
  | none => .error Libc.EINVAL

/-! ## Uptime, load and memory -/

/-- `i64` arithmetic that saturates. -/
def saturatingI64 (i : Int) : Int64 := Int64.ofInt (max (-2 ^ 63) (min i (2 ^ 63 - 1)))

def uptimeUs : Except Errno UInt64 := do
  let boot ← os.sysctl "kern.boottime"
  if boot.bytes.length < 16 then .error Libc.EINVAL
  else
    let sec := fromNeI64 (boot.bytes.take 8)
    let usec := fromNeI64 ((boot.bytes.drop 8).take 8)
    let bootUs :=
      (saturatingI64 ((saturatingI64 (sec.toInt * 1000000)).toInt + usec.toInt)).toUInt64
    match os.nowUs with
    | none => .error Libc.EINVAL
    | some nowUs => pure (saturatingSub nowUs bootUs)

def readLoad : Except Errno (Load L) := do
  let (one, five, fifteen) ← os.getloadavg
  pure ⟨one, five, fifteen⟩

/-- The free pages that the kernel counts include the speculative ones. -/
def availablePages (stats : VmStatistics) : UInt64 :=
  saturatingAdd (saturatingAdd stats.freeCount.toUInt64 stats.inactiveCount.toUInt64)
    stats.purgeableCount.toUInt64

def readHostMemory : Except (String × Errno) (HostMemory × Swap) := do
  let total ← blamed "hw_memsize" (sysctlU64 os "hw.memsize")
  if os.pagesize ≤ 0 then .error ("sysconf_pagesize", Libc.EINVAL)
  else do
    let stats ← blamed "host_vm_info64" os.hostVmInfo
    let swap ← blamed "vm_swapusage" (os.sysctl "vm.swapusage")
    if swap.bytes.length < 24 then .error ("vm_swapusage", Libc.EINVAL)
    else
      pure (⟨total, saturatingMul (availablePages stats) (UInt64.ofInt os.pagesize)⟩,
        ⟨fromNeU64 (swap.bytes.take 8), fromNeU64 ((swap.bytes.drop 16).take 8)⟩)

/-! ## Cores -/

/-- A frequency in hertz, in megahertz; less than one is not reported. -/
def megahertz (hz : UInt64) : Option UInt64 :=
  if hz / 1000000 > 0 then some (hz / 1000000) else none

/-- A machine without the name reports no frequency. -/
def readFrequency : Except (String × Errno) (Option UInt64) :=
  match os.sysctl "hw.cpufrequency" with
  | .ok buffer =>
      if buffer.bytes.isEmpty then .ok none
      else if buffer.bytes.length ≥ 8 then .ok (megahertz (fromNeU64 (buffer.bytes.take 8)))
      else if buffer.bytes.length ≥ 4 then
        .ok (megahertz (fromNeU32 (buffer.bytes.take 4)).toUInt64)
      else .error ("hw_cpufrequency", Libc.EINVAL)
  | .error err => if err = Libc.ENOENT then .ok none else .error ("hw_cpufrequency", err)

/-- A counter in microseconds; the counter is signed, and is widened with its sign. -/
def counterUs (hz : UInt64) (value : Int32) : UInt64 :=
  saturatingMul value.toInt64.toUInt64 1000000 / hz

/-- The row of one core, from its four counters. -/
def cpuOfCore (ticks : List Int32) (hz : UInt64) (model : Text) (frequencyMhz : Option UInt64)
    (core : Nat) : Cpu where
  core := UInt32.ofNat core
  userUs := counterUs hz (ticks.getD (core * 4) 0)
  systemUs := counterUs hz (ticks.getD (core * 4 + 1) 0)
  idleUs := counterUs hz (ticks.getD (core * 4 + 2) 0)
  otherUs := counterUs hz (ticks.getD (core * 4 + 3) 0)
  model := model
  frequencyMhz := frequencyMhz

def readCpus : Except (String × Errno) (List Cpu) := do
  let model ← blamed "machdep_cpu_brand_string" (sysctlString os "machdep.cpu.brand_string")
  if model.isEmpty then .error ("machdep_cpu_brand_string", Libc.EINVAL)
  else do
    let frequencyMhz ← readFrequency os
    let processors ← blamed "host_processor_info" os.hostProcessorInfo
    match processors.info with
    | none => .error ("host_processor_info", Libc.EINVAL)
    | some ticks =>
        if ticks.length < min (processors.cores.toNat * 4) (2 ^ 32 - 1) then
          .error ("host_processor_info", Libc.EINVAL)
        else if os.clkTck ≤ 0 then .error ("sysconf_clk_tck", Libc.EINVAL)
        else if os.vmDeallocate ≠ 0 then .error ("vm_deallocate", os.vmDeallocate)
        else
          pure ((List.range processors.cores.toNat).map
            (cpuOfCore ticks (UInt64.ofInt os.clkTck) model frequencyMhz))

/-! ## Networks and disks -/

/-- The interfaces in the order of their names. Text compares as its scalar values do. -/
def readNetworks : List Network :=
  sortByKey (fun row => row.name.map Char.toNat)
    (os.networks.map (fun row => { row with name := sanitizeName row.name }))

def readRootDisk : Except Errno Disk := do
  let st ← os.statvfsRoot
  pure st.rootDisk

end Readers

/-! ## The verb -/

section Host

variable {L : FloatLib}

/-- The loopback interface is always there, so no interfaces at all means a read that was
gated. -/
def recordNetworks (asked : Bool) (networks : List Network) (out : HostSnapshot L) :
    HostSnapshot L :=
  if asked then
    let out :=
      if networks.isEmpty then out.pushError (blindOrEmpty "sysinfo_networks" .net) else out
    { out with networks := networks }
  else out

def host (os : HostOs L) (args : HostArgs) : HostSnapshot L :=
  let out := HostSnapshot.new.record true .uptime HostSnapshot.setUptime
    (blamed "kern_boottime" (uptimeUs os))
  let out := out.record args.load .load HostSnapshot.setLoad (blamed "getloadavg" (readLoad os))
  let out := out.record args.mem .mem HostSnapshot.setMemory (readHostMemory os)
  let out := out.record args.cpu .cpu HostSnapshot.setCpus (readCpus os)
  let out := recordNetworks args.net (readNetworks os) out
  out.record args.disk .disk HostSnapshot.pushDisk (blamed "statvfs_root" (readRootDisk os))

end Host

end Osfacts.Darwin
